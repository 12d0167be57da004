import Mathlib.Algebra.GroupWithZero.Nat
import Mathlib.Data.Nat.Notation
import Mathlib.Data.String.Basic

/-! # Text operations of the Rust standard library

Splitting, trimming and number parsing on strings, with the accepted language and the
overflow behaviour of `str` and of the unsigned integer types.
-/

namespace DatabaseSync.Text

/-- Split a list of characters at its first `c`. -/
def splitFirst (c : Char) : List Char → Option (List Char × List Char)
  | [] => none
  | a :: l => if a = c then some ([], l) else (splitFirst c l).map fun p => (a :: p.1, p.2)

/-- `str::split_once`. -/
def splitOnce (s : String) (c : Char) : Option (String × String) :=
  (splitFirst c s.toList).map fun p => (String.ofList p.1, String.ofList p.2)

theorem splitFirst_append {c : Char} {l r : List Char} (h : c ∉ l) :
    splitFirst c (l ++ c :: r) = some (l, r) := by
  induction l with
  | nil => simp [splitFirst]
  | cons a l ih =>
    simp only [List.mem_cons, not_or] at h
    simp [splitFirst, Ne.symm h.1, ih h.2]

theorem splitFirst_eq_none {c : Char} {l : List Char} (h : c ∉ l) : splitFirst c l = none := by
  induction l with
  | nil => rfl
  | cons a l ih =>
    simp only [List.mem_cons, not_or] at h
    simp [splitFirst, Ne.symm h.1, ih h.2]

theorem splitFirst_eq_some {c : Char} {l a b : List Char} :
    splitFirst c l = some (a, b) ↔ l = a ++ c :: b ∧ c ∉ a := by
  constructor
  · intro h
    induction l generalizing a with
    | nil => cases h
    | cons d l ih =>
      rw [splitFirst] at h
      by_cases hd : d = c
      · subst hd
        rw [if_pos rfl, Option.some.injEq, Prod.mk.injEq] at h
        obtain ⟨rfl, rfl⟩ := h
        exact ⟨rfl, List.not_mem_nil⟩
      · rw [if_neg hd, Option.map_eq_some_iff] at h
        obtain ⟨⟨e, f⟩, hsplit, hparts⟩ := h
        cases hparts
        obtain ⟨rfl, hnot⟩ := ih hsplit
        refine ⟨rfl, ?_⟩
        rintro hmem
        rcases List.mem_cons.mp hmem with rfl | hmem
        · exact hd rfl
        · exact hnot hmem
  · rintro ⟨rfl, hnot⟩
    exact splitFirst_append hnot

theorem splitOnce_eq_some {s a b : String} {c : Char} :
    splitOnce s c = some (a, b) ↔ s.toList = a.toList ++ c :: b.toList ∧ c ∉ a.toList := by
  rw [splitOnce, Option.map_eq_some_iff]
  constructor
  · rintro ⟨⟨x, y⟩, hsplit, hparts⟩
    cases hparts
    simpa using splitFirst_eq_some.mp hsplit
  · intro h
    exact ⟨(a.toList, b.toList), splitFirst_eq_some.mpr h, by simp⟩

/-- A character of joined parts is the separator or one of a part. -/
theorem mem_intercalate {c x : Char} {l : List (List Char)} (h : c ∈ [x].intercalate l) :
    c = x ∨ ∃ part ∈ l, c ∈ part := by
  induction l with
  | nil => cases h
  | cons part l ih =>
    cases l with
    | nil => exact .inr ⟨part, List.mem_cons_self, by simpa using h⟩
    | cons next rest =>
      rw [List.intercalate_cons_cons, List.mem_append, List.mem_append, List.mem_singleton] at h
      rcases h with (h | h) | h
      · exact .inr ⟨part, List.mem_cons_self, h⟩
      · exact .inl h
      · rcases ih h with h | ⟨other, hother, h⟩
        · exact .inl h
        · exact .inr ⟨other, List.mem_cons_of_mem _ hother, h⟩

theorem mem_intercalate_of_mem {c x : Char} {part : List Char} {parts : List (List Char)}
    (hpart : part ∈ parts) (hc : c ∈ part) : c ∈ [x].intercalate parts := by
  induction parts with
  | nil => cases hpart
  | cons first parts ih =>
    cases parts with
    | nil =>
      rw [List.mem_singleton.mp hpart] at hc
      rwa [List.intercalate_singleton]
    | cons next parts =>
      rw [List.intercalate_cons_cons, List.append_assoc, List.mem_append, List.mem_append]
      rcases List.mem_cons.mp hpart with rfl | hpart
      · exact .inl hc
      · exact .inr (.inr (ih hpart))

/-- `str::rsplit_once`. -/
def rsplitOnce (s : String) (c : Char) : Option (String × String) :=
  (splitFirst c s.toList.reverse).map fun p =>
    (String.ofList p.2.reverse, String.ofList p.1.reverse)

theorem mem_of_rsplitOnce {s : String} {c : Char} {p : String × String}
    (h : rsplitOnce s c = some p) : c ∈ s.toList := by
  obtain ⟨⟨a, b⟩, hsplit, -⟩ := Option.map_eq_some_iff.mp h
  have hreverse := (splitFirst_eq_some.mp hsplit).1
  have hmem : c ∈ s.toList.reverse := by
    rw [hreverse]
    exact List.mem_append_right a List.mem_cons_self
  exact List.mem_reverse.mp hmem

/-- `str::trim_matches` for one character. -/
def trimMatches (s : String) (c : Char) : String :=
  String.ofList (((s.toList.dropWhile (· == c)).reverse.dropWhile (· == c)).reverse)

/-- `str::split` for one character. -/
def split (s : String) (c : Char) : List String := (s.toList.splitOn c).map String.ofList

/-- A part of a split text has no separator in it, and nothing else than the text has. -/
theorem mem_splitOn {l part : List Char} {c : Char} (h : part ∈ l.splitOn c) :
    c ∉ part ∧ ∀ d ∈ part, d ∈ l := by
  unfold List.splitOn at h
  induction l generalizing part with
  | nil =>
    rw [List.splitOnP_nil, List.mem_singleton] at h
    subst h
    simp
  | cons x l ih =>
    rw [List.splitOnP_cons_eq_if_modifyHead] at h
    split at h
    · rcases List.mem_cons.mp h with rfl | h
      · simp
      · obtain ⟨hfree, hsub⟩ := ih h
        exact ⟨hfree, fun d hd => List.mem_cons_of_mem x (hsub d hd)⟩
    · next hx =>
      obtain ⟨first, rest, hcons⟩ := List.exists_cons_of_ne_nil (List.splitOnP_ne_nil (· == c) l)
      rw [hcons, List.modifyHead_cons] at h
      rcases List.mem_cons.mp h with rfl | h
      · obtain ⟨hfree, hsub⟩ := ih (hcons ▸ List.mem_cons_self)
        constructor
        · rintro (_ | ⟨_, hmem⟩)
          · exact hx (beq_self_eq_true _)
          · exact hfree hmem
        · rintro d (_ | ⟨_, hd⟩)
          · exact List.mem_cons_self
          · exact List.mem_cons_of_mem x (hsub d hd)
      · obtain ⟨hfree, hsub⟩ := ih (hcons ▸ List.mem_cons_of_mem first h)
        exact ⟨hfree, fun d hd => List.mem_cons_of_mem x (hsub d hd)⟩

theorem mem_split {text part : String} {c : Char} (h : part ∈ split text c) :
    c ∉ part.toList ∧ ∀ d ∈ part.toList, d ∈ text.toList := by
  obtain ⟨l, hl, rfl⟩ := List.mem_map.mp h
  rw [String.toList_ofList]
  exact mem_splitOn hl

theorem split_intercalate {separator : String} {c : Char} {parts : List String}
    (hseparator : separator.toList = [c]) (hfree : ∀ part ∈ parts, c ∉ part.toList)
    (hne : parts ≠ []) : split (separator.intercalate parts) c = parts := by
  have hlists : ∀ l ∈ parts.map String.toList, c ∉ l := by
    intro l hl
    obtain ⟨part, hpart, rfl⟩ := List.mem_map.mp hl
    exact hfree part hpart
  rw [split, String.toList_intercalate, hseparator, List.splitOn_intercalate c hlists (by simpa),
    List.map_map]
  calc parts.map (String.ofList ∘ String.toList) = parts.map id :=
        List.map_congr_left fun part _ => String.ofList_toList
    _ = parts := List.map_id parts

theorem intercalate_cons (first separator : String) (parts : List String) :
    separator.intercalate (first :: parts) =
      first ++ String.join (parts.map fun part => separator ++ part) := by
  induction parts generalizing first with
  | nil => simp
  | cons part parts ih =>
    rw [String.intercalate_cons_cons, ih, List.map_cons, String.join_cons]
    simp only [String.append_assoc]

theorem toList_pushn (c : Char) (n : ℕ) : ("".pushn c n).toList = List.replicate n c := by
  rw [String.pushn_eq_repeat_push]
  induction n with
  | zero => rfl
  | succ n ih =>
    rw [Nat.repeat, String.toList_push, ih, List.replicate_succ']

/-- `str::len`. -/
def byteLength (s : String) : ℕ := (s.toList.map Char.utf8Size).sum

/-- `str::is_ascii`. -/
def isAscii (s : String) : Bool := s.toList.all fun c => c.val < 128

/-- `str::contains` for one character. -/
def containsChar (s : String) (c : Char) : Bool := s.toList.contains c

/-- `char::to_digit`. -/
def toDigit (radix : ℕ) (c : Char) : Option ℕ :=
  let d :=
    if '0' ≤ c ∧ c ≤ '9' then c.toNat - '0'.toNat
    else if 'a' ≤ c ∧ c ≤ 'z' then c.toNat - 'a'.toNat + 10
    else if 'A' ≤ c ∧ c ≤ 'Z' then c.toNat - 'A'.toNat + 10
    else radix
  if d < radix then some d else none

/-- The digits of an unsigned number below `bound`, most significant first. -/
def digitsBelow (radix bound : ℕ) : ℕ → List Char → Option ℕ
  | n, [] => some n
  | n, c :: l => do
    let d ← toDigit radix c
    if n * radix + d < bound then digitsBelow radix bound (n * radix + d) l else none

def dropPlus : List Char → List Char
  | '+' :: l => l
  | l => l

/-- `from_str_radix` of an unsigned type with values below `bound`: an optional plus sign,
then at least one digit, without overflow. -/
def parseUnsigned (radix bound : ℕ) (s : String) : Option ℕ :=
  let digits := dropPlus s.toList
  if digits.isEmpty then none else digitsBelow radix bound 0 digits

/-- `u64::from_str_radix`. -/
def u64FromStrRadix (s : String) (radix : ℕ) : Option ℕ := parseUnsigned radix (2 ^ 64) s

/-- `str::parse::<u64>`. -/
def parseU64 (s : String) : Option ℕ := parseUnsigned 10 (2 ^ 64) s

/-- `i64`- and `i128`-style parsing: an optional sign and digits of a value between
`-bound` and `bound - 1`. -/
def parseSigned (bound : ℕ) (s : String) : Option ℤ :=
  match s.toList with
  | '-' :: l =>
    if l.isEmpty then none else (digitsBelow 10 (bound + 1) 0 l).map fun n => -(n : ℤ)
  | l =>
    let digits := dropPlus l
    if digits.isEmpty then none else (digitsBelow 10 bound 0 digits).map fun n => (n : ℤ)

/-- `char::is_whitespace`. -/
def isWhitespace (c : Char) : Bool :=
  let n := c.toNat
  (9 ≤ n && n ≤ 13) || n == 0x20 || n == 0x85 || n == 0xA0 || n == 0x1680 ||
    (0x2000 ≤ n && n ≤ 0x200A) || n == 0x2028 || n == 0x2029 || n == 0x202F || n == 0x205F ||
    n == 0x3000

/-- `str::trim`. -/
def trim (s : String) : String :=
  String.ofList (((s.toList.dropWhile isWhitespace).reverse.dropWhile isWhitespace).reverse)

/-- `str::trim_start`. -/
def trimStart (s : String) : String := String.ofList (s.toList.dropWhile isWhitespace)

/-- `s.trim().is_empty()`. -/
def isBlank (s : String) : Bool := s.toList.all isWhitespace

def isAsciiDigit (c : Char) : Bool := '0' ≤ c && c ≤ '9'

def isAsciiHexDigit (c : Char) : Bool :=
  isAsciiDigit c || ('a' ≤ c && c ≤ 'f') || ('A' ≤ c && c ≤ 'F')

def isAsciiAlphanumeric (c : Char) : Bool :=
  isAsciiDigit c || ('a' ≤ c && c ≤ 'z') || ('A' ≤ c && c ≤ 'Z')

def toAsciiLower (c : Char) : Char := if 'A' ≤ c ∧ c ≤ 'Z' then Char.ofNat (c.toNat + 32) else c

/-- `str::eq_ignore_ascii_case`. -/
def eqIgnoreAsciiCase (s t : String) : Bool :=
  s.toList.map toAsciiLower == t.toList.map toAsciiLower

/-- `str::to_ascii_lowercase`. -/
def toAsciiLowercase (s : String) : String := String.ofList (s.toList.map toAsciiLower)

def toAsciiUpper (c : Char) : Char := if 'a' ≤ c ∧ c ≤ 'z' then Char.ofNat (c.toNat - 32) else c

/-- `str::to_ascii_uppercase` -/
def toAsciiUppercase (s : String) : String := String.ofList (s.toList.map toAsciiUpper)

/-- `str::starts_with` on a string -/
def startsWith (s pre : String) : Bool := pre.toList.isPrefixOf s.toList

def hasInfix (sub : List Char) : List Char → Bool
  | [] => sub.isEmpty
  | c :: rest => sub.isPrefixOf (c :: rest) || hasInfix sub rest

/-- `str::contains` on a string -/
def containsText (s sub : String) : Bool := hasInfix sub.toList s.toList

/-- `str::strip_prefix` on a character -/
def stripChar (s : String) (c : Char) : Option String :=
  match s.toList with
  | head :: rest => if head = c then some (String.ofList rest) else none
  | [] => none

def dropMinus : List Char → List Char
  | '-' :: l => l
  | l => l

/-- One continuation byte of a UTF-8 sequence. -/
def isContinuation (b : UInt8) : Bool := 0x80 ≤ b && b ≤ 0xBF

/-- `String::from_utf8` on the bytes of a well-formed UTF-8 text. -/
def utf8Chars : List UInt8 → Option (List Char)
  | [] => some []
  | b :: rest =>
    if b < 0x80 then (utf8Chars rest).map (Char.ofNat b.toNat :: ·)
    else match rest with
      | [] => none
      | b₁ :: rest₁ =>
        if 0xC2 ≤ b ∧ b ≤ 0xDF ∧ isContinuation b₁ then
          (utf8Chars rest₁).map (Char.ofNat ((b.toNat - 0xC0) * 64 + (b₁.toNat - 0x80)) :: ·)
        else match rest₁ with
          | [] => none
          | b₂ :: rest₂ =>
            let n := (b.toNat - 0xE0) * 4096 + (b₁.toNat - 0x80) * 64 + (b₂.toNat - 0x80)
            if 0xE0 ≤ b ∧ b ≤ 0xEF ∧ isContinuation b₁ ∧ isContinuation b₂ ∧ 0x800 ≤ n ∧
                ¬(0xD800 ≤ n ∧ n ≤ 0xDFFF) then
              (utf8Chars rest₂).map (Char.ofNat n :: ·)
            else match rest₂ with
              | [] => none
              | b₃ :: rest₃ =>
                let n := (b.toNat - 0xF0) * 262144 + (b₁.toNat - 0x80) * 4096 +
                  (b₂.toNat - 0x80) * 64 + (b₃.toNat - 0x80)
                if 0xF0 ≤ b ∧ b ≤ 0xF4 ∧ isContinuation b₁ ∧ isContinuation b₂ ∧
                    isContinuation b₃ ∧ 0x10000 ≤ n ∧ n ≤ 0x10FFFF then
                  (utf8Chars rest₃).map (Char.ofNat n :: ·)
                else none

/-- `String::from_utf8`. -/
def fromUtf8 (bytes : List UInt8) : Option String := (utf8Chars bytes).map String.ofList

example : rsplitOnce "binlog.000001" '.' = some ("binlog", "000001") := by decide
example : parseU64 "000012" = some 12 := by decide
example : u64FromStrRadix "fF" 16 = some 255 := by decide
example : trimMatches ",a,b," ',' = "a,b" := by decide

end DatabaseSync.Text
