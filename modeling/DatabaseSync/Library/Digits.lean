import DatabaseSync.Library.Text
import Mathlib.Algebra.Order.Ring.Nat
import Mathlib.Tactic.IntervalCases
import Mathlib.Tactic.Linarith
import Mathlib.Tactic.Ring

/-! # Numbers as text

The digits of a number, and that the number parsers read them back.
-/

namespace DatabaseSync.Text

variable {radix bound n : ℕ}

theorem toDigit_digitChar {d : ℕ} (hradix : radix ≤ 16) (h : d < radix) :
    toDigit radix d.digitChar = some d := by
  have hd : d < 16 := lt_of_lt_of_le h hradix
  interval_cases d <;> exact if_pos h

theorem digitsBelow_append {acc : ℕ} (l : List Char) (c : Char) :
    digitsBelow radix bound acc (l ++ [c]) =
      (digitsBelow radix bound acc l).bind fun n => digitsBelow radix bound n [c] := by
  induction l generalizing acc with
  | nil => rfl
  | cons a l ih =>
    simp only [List.cons_append, digitsBelow]
    cases toDigit radix a with
    | none => rfl
    | some d =>
      simp only [Option.bind_eq_bind, Option.bind_some]
      split
      · exact ih
      · rfl

theorem digitsBelow_toDigits (hone : 1 < radix) (hradix : radix ≤ 16) (h : n < bound) :
    digitsBelow radix bound 0 (Nat.toDigits radix n) = some n := by
  induction n using Nat.strongRecOn with
  | ind n ih =>
    by_cases hn : n < radix
    · simp [Nat.toDigits_of_lt_base hn, digitsBelow, toDigit_digitChar hradix hn, h]
    · have hlt : n / radix < n := Nat.div_lt_self (by omega) hone
      have hd : n / radix * radix + n % radix = n := by
        rw [Nat.mul_comm]
        exact Nat.div_add_mod n radix
      rw [Nat.toDigits_of_base_le hone (not_lt.mp hn), digitsBelow_append,
        ih (n / radix) hlt (by omega)]
      simp [digitsBelow, toDigit_digitChar hradix (Nat.mod_lt n (by omega)), hd, h]

theorem mem_toDigits {c : Char} (hone : 1 < radix) (h : c ∈ Nat.toDigits radix n) :
    ∃ d < radix, c = d.digitChar := by
  induction n using Nat.strongRecOn with
  | ind n ih =>
    by_cases hn : n < radix
    · rw [Nat.toDigits_of_lt_base hn] at h
      exact ⟨n, hn, by simpa using h⟩
    · rw [Nat.toDigits_of_base_le hone (not_lt.mp hn), List.mem_append, List.mem_singleton] at h
      rcases h with h | rfl
      · exact ih (n / radix) (Nat.div_lt_self (by omega) hone) h
      · exact ⟨n % radix, Nat.mod_lt n (by omega), rfl⟩

theorem isAsciiDigit_of_mem {c : Char} (h : c ∈ Nat.toDigits 10 n) : isAsciiDigit c = true := by
  obtain ⟨d, hd, rfl⟩ := mem_toDigits (by decide) h
  interval_cases d <;> decide

/-- The digits of a number are read back, below the bound of the type. -/
theorem parseUnsigned_toDigits (hone : 1 < radix) (hradix : radix ≤ 16) (h : n < bound) :
    parseUnsigned radix bound (String.ofList (Nat.toDigits radix n)) = some n := by
  have hsign : dropPlus (Nat.toDigits radix n) = Nat.toDigits radix n := by
    unfold dropPlus
    split
    · next rest hrest =>
      obtain ⟨d, hd, hc⟩ :=
        mem_toDigits hone (hrest ▸ List.mem_cons_self : '+' ∈ Nat.toDigits radix n)
      have hd : d < 16 := lt_of_lt_of_le hd hradix
      interval_cases d <;> exact absurd hc (by decide)
    · rfl
  rw [parseUnsigned, String.toList_ofList, hsign, if_neg (by simp [Nat.toDigits_ne_nil]),
    digitsBelow_toDigits hone hradix h]

/-! ## Decimal digits -/

def digitValue (c : Char) : ℕ := c.toNat - '0'.toNat

/-- The number read when decimal digits follow a number. -/
def valueFrom (n : ℕ) (digits : List Char) : ℕ :=
  digits.foldl (fun n c => n * 10 + digitValue c) n

/-- The number with the given decimal digits. -/
def decimalValue (digits : List Char) : ℕ := valueFrom 0 digits

section Decimal

variable {l digits : List Char} {c : Char}

theorem isAsciiDigit_iff : isAsciiDigit c = true ↔ ∃ d < 10, c = d.digitChar := by
  constructor
  · intro h
    simp only [isAsciiDigit, Bool.and_eq_true, decide_eq_true_eq, Char.le_def,
      UInt32.le_iff_toNat_le] at h
    have hlow : 48 ≤ c.toNat := h.1
    have hhigh : c.toNat ≤ 57 := h.2
    refine ⟨c.toNat - 48, by omega, ?_⟩
    have hof : Char.ofNat c.toNat = c := Char.ofNat_toNat c
    generalize c.toNat = n at hlow hhigh hof
    subst hof
    interval_cases n <;> rfl
  · rintro ⟨d, hd, rfl⟩
    interval_cases d <;> decide

@[simp]
theorem digitValue_digitChar {d : ℕ} (h : d < 10) : digitValue d.digitChar = d := by
  interval_cases d <;> rfl

theorem digitValue_lt (h : isAsciiDigit c = true) : digitValue c < 10 := by
  obtain ⟨d, hd, rfl⟩ := isAsciiDigit_iff.mp h
  rwa [digitValue_digitChar hd]

theorem toDigit_of_isAsciiDigit (h : isAsciiDigit c = true) :
    toDigit 10 c = some (digitValue c) := by
  obtain ⟨d, hd, rfl⟩ := isAsciiDigit_iff.mp h
  rw [toDigit_digitChar (by decide) hd, digitValue_digitChar hd]

@[simp]
theorem valueFrom_nil : valueFrom n [] = n := rfl

@[simp]
theorem valueFrom_cons : valueFrom n (c :: l) = valueFrom (n * 10 + digitValue c) l :=
  List.foldl_cons ..

theorem valueFrom_append : valueFrom n (l ++ digits) = valueFrom (valueFrom n l) digits :=
  List.foldl_append

/-- The number so far is shifted by the digits that follow. -/
theorem valueFrom_eq : valueFrom n l = n * 10 ^ l.length + decimalValue l := by
  induction l generalizing n with
  | nil => simp [decimalValue]
  | cons c l ih =>
    have hstart : decimalValue (c :: l) = valueFrom (0 * 10 + digitValue c) l := rfl
    rw [valueFrom_cons, ih, hstart, ih, List.length_cons, pow_succ]
    ring

theorem decimalValue_append :
    decimalValue (l ++ digits) = decimalValue l * 10 ^ digits.length + decimalValue digits := by
  rw [decimalValue, valueFrom_append, valueFrom_eq]
  rfl

theorem decimalValue_lt (h : ∀ c ∈ l, isAsciiDigit c = true) :
    decimalValue l < 10 ^ l.length := by
  induction l with
  | nil => simp [decimalValue]
  | cons c l ih =>
    have hhead := digitValue_lt (h c List.mem_cons_self)
    have htail := ih fun c hc => h c (List.mem_cons_of_mem _ hc)
    rw [decimalValue, valueFrom_cons, valueFrom_eq, List.length_cons, pow_succ]
    nlinarith

/-- The parser reads the number, or finds it out of bounds. -/
theorem digitsBelow_of_digits (hne : l ≠ []) (h : ∀ c ∈ l, isAsciiDigit c = true) :
    digitsBelow 10 bound n l = if valueFrom n l < bound then some (valueFrom n l) else none := by
  induction l generalizing n with
  | nil => exact absurd rfl hne
  | cons c l ih =>
    rw [digitsBelow, toDigit_of_isAsciiDigit (h c List.mem_cons_self), Option.bind_eq_bind,
      Option.bind_some, valueFrom_cons]
    cases l with
    | nil => rfl
    | cons d l =>
      have htail := fun e he => h e (List.mem_cons_of_mem c he)
      rw [ih (List.cons_ne_nil d l) htail]
      have hle : n * 10 + digitValue c ≤ valueFrom (n * 10 + digitValue c) (d :: l) := by
        rw [valueFrom_eq]
        exact le_trans (Nat.le_mul_of_pos_right _ (by positivity)) (Nat.le_add_right _ _)
      by_cases hlt : n * 10 + digitValue c < bound
      · rw [if_pos hlt]
      · rw [if_neg hlt, if_neg (by omega)]

theorem toDigit_of_not_digit (h : isAsciiDigit c = false) : toDigit 10 c = none := by
  have hdigit : ¬ ('0' ≤ c ∧ c ≤ '9') := by simpa [isAsciiDigit] using h
  unfold toDigit
  rw [if_neg hdigit]
  dsimp only
  split
  · rw [if_neg (by omega)]
  · split
    · rw [if_neg (by omega)]
    · rfl

/-- A character that is no digit of the radix is refused wherever it stands. -/
theorem digitsBelow_eq_none (hc : c ∈ l) (h : toDigit radix c = none) :
    digitsBelow radix bound n l = none := by
  induction l generalizing n with
  | nil => cases hc
  | cons a l ih =>
    rw [digitsBelow]
    rcases List.mem_cons.mp hc with rfl | hc
    · rw [h]
      rfl
    · cases toDigit radix a with
      | none => rfl
      | some d =>
        rw [Option.bind_eq_bind, Option.bind_some, ih hc, ite_self]

theorem digitsBelow_of_not_digit (hc : c ∈ l) (h : isAsciiDigit c = false) :
    digitsBelow 10 bound n l = none :=
  digitsBelow_eq_none hc (toDigit_of_not_digit h)

theorem parseSigned_of_digits (hne : l ≠ []) (h : ∀ c ∈ l, isAsciiDigit c = true) :
    parseSigned bound (String.ofList l) =
      if decimalValue l < bound then some (decimalValue l : ℤ) else none := by
  have hsign : dropPlus l = l := by
    cases l with
    | nil => rfl
    | cons c l =>
      have hc := h c List.mem_cons_self
      by_cases hplus : c = '+'
      · subst hplus
        exact absurd hc (by decide)
      · simp [dropPlus, hplus]
  have hminus : ∀ rest, l ≠ '-' :: rest := by
    rintro rest rfl
    exact absurd (h '-' List.mem_cons_self) (by decide)
  have hvalue := @digitsBelow_of_digits bound 0 l hne h
  rw [parseSigned, String.toList_ofList]
  split
  · next rest => exact absurd rfl (hminus rest)
  · dsimp only
    rw [hsign, if_neg (by simpa using hne), hvalue]
    unfold decimalValue
    split
    · rfl
    · rfl

theorem parseSigned_minus (hne : l ≠ []) (h : ∀ c ∈ l, isAsciiDigit c = true) :
    parseSigned bound (String.ofList ('-' :: l)) =
      if decimalValue l ≤ bound then some (-(decimalValue l : ℤ)) else none := by
  have hvalue := @digitsBelow_of_digits (bound + 1) 0 l hne h
  have hempty : l.isEmpty = false := by simpa using hne
  simp only [parseSigned, String.toList_ofList, hempty, hvalue, decimalValue]
  by_cases hle : valueFrom 0 l ≤ bound
  · simp [hle, Nat.lt_succ_of_le hle]
  · have hlt : ¬ valueFrom 0 l < bound + 1 := by omega
    simp [hle, hlt]

theorem parseSigned_plus (hne : l ≠ []) (h : ∀ c ∈ l, isAsciiDigit c = true) :
    parseSigned bound (String.ofList ('+' :: l)) =
      if decimalValue l < bound then some (decimalValue l : ℤ) else none := by
  have hvalue := @digitsBelow_of_digits bound 0 l hne h
  simp only [parseSigned, String.toList_ofList, dropPlus, decimalValue]
  by_cases hlt : valueFrom 0 l < bound
  · simp [hlt, hne, hvalue]
  · simp [hlt, hne, hvalue]

theorem dropPlus_cases (l : List Char) : dropPlus l = l ∨ l = '+' :: dropPlus l := by
  cases l with
  | nil => exact .inl rfl
  | cons c l =>
    by_cases hplus : c = '+'
    · subst hplus
      exact .inr rfl
    · exact .inl (by simp [dropPlus, hplus])

theorem digits_of_digitsBelow {v : ℕ} (h : digitsBelow 10 bound n l = some v) :
    ∀ c ∈ l, isAsciiDigit c = true := by
  intro c hc
  by_contra hnot
  rw [digitsBelow_of_not_digit hc (Bool.eq_false_of_not_eq_true hnot)] at h
  cases h

theorem parseUnsigned_of_digits (hne : l ≠ []) (h : ∀ c ∈ l, isAsciiDigit c = true) :
    parseUnsigned 10 bound (String.ofList l) =
      if decimalValue l < bound then some (decimalValue l) else none := by
  have hsign : dropPlus l = l := by
    rcases dropPlus_cases l with hsame | hplus
    · exact hsame
    · exact absurd (h '+' (hplus ▸ List.mem_cons_self)) (by decide)
  rw [parseUnsigned, String.toList_ofList, hsign, if_neg (by simpa using hne)]
  exact digitsBelow_of_digits hne h

/-- The text of a number has no character but digits and a leading plus sign. -/
theorem notMem_of_parseUnsigned {text : String} {v : ℕ}
    (h : parseUnsigned radix bound text = some v) (hplus : c ≠ '+') (hc : toDigit radix c = none) :
    c ∉ text.toList := by
  intro hmem
  have hdigit : c ∈ dropPlus text.toList := by
    rcases dropPlus_cases text.toList with hsame | hsign
    · rwa [hsame]
    · rw [hsign] at hmem
      exact (List.mem_cons.mp hmem).resolve_left hplus
  unfold parseUnsigned at h
  obtain ⟨-, hread⟩ := Option.ite_none_left_eq_some.mp h
  rw [digitsBelow_eq_none hdigit hc] at hread
  cases hread

theorem parseUnsigned_lt {text : String} {v : ℕ} (h : parseUnsigned 10 bound text = some v) :
    v < bound := by
  unfold parseUnsigned at h
  obtain ⟨hne, hread⟩ := Option.ite_none_left_eq_some.mp h
  have hdigits := digits_of_digitsBelow hread
  rw [digitsBelow_of_digits (by simpa using hne) hdigits] at hread
  split at hread
  · next hlt => exact Option.some.inj hread ▸ hlt
  · cases hread

/-- A number is an optional sign and digits. -/
theorem parseSigned_eq_some {v : ℤ} (h : parseSigned bound (String.ofList l) = some v) :
    ∃ digits, digits ≠ [] ∧ (∀ c ∈ digits, isAsciiDigit c = true) ∧
      (l = digits ∧ v = decimalValue digits ∨ l = '+' :: digits ∧ v = decimalValue digits ∨
        l = '-' :: digits ∧ v = -(decimalValue digits : ℤ)) := by
  have hread := h
  rw [parseSigned, String.toList_ofList] at hread
  split at hread
  · next rest =>
    obtain ⟨hne, hread⟩ := Option.ite_none_left_eq_some.mp hread
    obtain ⟨m, hm, -⟩ := Option.map_eq_some_iff.mp hread
    obtain ⟨k, hk, -⟩ := Option.bind_eq_some_iff.mp hm
    have hdigits := digits_of_digitsBelow hk
    have hne : rest ≠ [] := by simpa using hne
    rw [parseSigned_minus hne hdigits] at h
    split at h
    · exact ⟨rest, hne, hdigits, .inr (.inr ⟨rfl, (Option.some.inj h).symm⟩)⟩
    · cases h
  · obtain ⟨hne, hread⟩ := Option.ite_none_left_eq_some.mp hread
    obtain ⟨m, hm, -⟩ := Option.map_eq_some_iff.mp hread
    obtain ⟨k, hk, -⟩ := Option.bind_eq_some_iff.mp hm
    have hdigits := digits_of_digitsBelow hk
    have hne : dropPlus l ≠ [] := by simpa using hne
    rcases dropPlus_cases l with hsame | hplus
    · rw [hsame] at hne hdigits
      rw [parseSigned_of_digits hne hdigits] at h
      split at h
      · exact ⟨l, hne, hdigits, .inl ⟨rfl, (Option.some.inj h).symm⟩⟩
      · cases h
    · rw [hplus, parseSigned_plus hne hdigits] at h
      split at h
      · exact ⟨_, hne, hdigits, .inr (.inl ⟨hplus, (Option.some.inj h).symm⟩)⟩
      · cases h

end Decimal

section Hexadecimal

variable {l : List Char} {bound n : ℕ}

theorem toDigit_of_isAsciiHexDigit {c : Char} (h : isAsciiHexDigit c = true) :
    ∃ d < 16, toDigit 16 c = some d := by
  simp only [isAsciiHexDigit, isAsciiDigit, Bool.or_eq_true, Bool.and_eq_true, decide_eq_true_eq,
    Char.le_def, UInt32.le_iff_toNat_le] at h
  have hval : c.val.toNat = c.toNat := rfl
  have hlt : (if '0' ≤ c ∧ c ≤ '9' then c.toNat - '0'.toNat
      else if 'a' ≤ c ∧ c ≤ 'z' then c.toNat - 'a'.toNat + 10
      else if 'A' ≤ c ∧ c ≤ 'Z' then c.toNat - 'A'.toNat + 10 else 16) < 16 := by
    simp only [Char.le_def, UInt32.le_iff_toNat_le]
    simp only [show '0'.val.toNat = 48 from rfl, show '9'.val.toNat = 57 from rfl,
      show 'a'.val.toNat = 97 from rfl, show 'f'.val.toNat = 102 from rfl,
      show 'z'.val.toNat = 122 from rfl, show 'A'.val.toNat = 65 from rfl,
      show 'F'.val.toNat = 70 from rfl, show 'Z'.val.toNat = 90 from rfl,
      show '0'.toNat = 48 from rfl, show 'a'.toNat = 97 from rfl, show 'A'.toNat = 65 from rfl,
      hval] at h ⊢
    split_ifs <;> omega
  exact ⟨_, hlt, if_pos hlt⟩

/-- A number of hexadecimal digits is read if its type holds every number of so many digits. -/
theorem digitsBelow_hex (h : ∀ c ∈ l, isAsciiHexDigit c = true)
    (hbound : (n + 1) * 16 ^ l.length ≤ bound) :
    ∃ v < bound, digitsBelow 16 bound n l = some v := by
  induction l generalizing n with
  | nil =>
    rw [List.length_nil, pow_zero, mul_one] at hbound
    exact ⟨n, hbound, rfl⟩
  | cons c l ih =>
    obtain ⟨d, hd, hdigit⟩ := toDigit_of_isAsciiHexDigit (h c List.mem_cons_self)
    have hnext : (n * 16 + d + 1) * 16 ^ l.length ≤ bound := by
      calc (n * 16 + d + 1) * 16 ^ l.length ≤ ((n + 1) * 16) * 16 ^ l.length :=
            Nat.mul_le_mul_right _ (by omega)
        _ = (n + 1) * 16 ^ (c :: l).length := by rw [List.length_cons, pow_succ]; ring
        _ ≤ bound := hbound
    have hlt : n * 16 + d < bound :=
      (Nat.le_mul_of_pos_right (n * 16 + d + 1) (by positivity)).trans hnext
    rw [digitsBelow, hdigit, Option.bind_eq_bind, Option.bind_some, if_pos hlt]
    exact ih (fun c hc => h c (List.mem_cons_of_mem _ hc)) hnext

/-- Sixteen hexadecimal digits are a word. -/
theorem u64FromStrRadix_hex {text : String} (h : text.toList.all isAsciiHexDigit = true)
    (hlength : text.toList.length = 16) : ∃ v < 2 ^ 64, u64FromStrRadix text 16 = some v := by
  rw [List.all_eq_true] at h
  obtain ⟨v, hv, hread⟩ := @digitsBelow_hex text.toList (2 ^ 64) 0 h (by rw [hlength]; norm_num)
  have hsign : dropPlus text.toList = text.toList := by
    rcases dropPlus_cases text.toList with hsame | hplus
    · exact hsame
    · exact absurd (h '+' (hplus ▸ List.mem_cons_self)) (by decide)
  have hne : text.toList.isEmpty = false := by
    rw [List.isEmpty_eq_false_iff]
    exact List.ne_nil_of_length_pos (by omega)
  refine ⟨v, hv, ?_⟩
  rw [u64FromStrRadix, parseUnsigned, hsign, hne]
  exact hread

end Hexadecimal

theorem toDigits_digits (n : ℕ) : ∀ c ∈ Nat.toDigits 10 n, isAsciiDigit c = true :=
  fun _ => isAsciiDigit_of_mem

theorem decimalValue_toDigits (n : ℕ) : decimalValue (Nat.toDigits 10 n) = n := by
  have hread := @digitsBelow_toDigits 10 _ n (by decide) (by decide) (Nat.lt_succ_self n)
  rw [digitsBelow_of_digits Nat.toDigits_ne_nil (toDigits_digits n)] at hread
  split at hread
  · exact Option.some.inj hread
  · cases hread

/-- Zeros before the digits do not change the number. -/
theorem decimalValue_zeros (n : ℕ) (digits : List Char) :
    decimalValue (List.replicate n '0' ++ digits) = decimalValue digits := by
  induction n with
  | zero => rfl
  | succ n ih =>
    rw [List.replicate_succ, List.cons_append, ← ih]
    rfl

/-- Zeros after the digits shift the number. -/
theorem decimalValue_append_zeros (digits : List Char) (n : ℕ) :
    decimalValue (digits ++ List.replicate n '0') = decimalValue digits * 10 ^ n := by
  have hzeros := decimalValue_zeros n []
  rw [List.append_nil] at hzeros
  rw [decimalValue_append, hzeros, List.length_replicate]
  rfl

/-- Digits with the number zero are zeros. -/
theorem decimalValue_eq_zero {digits : List Char} (h : ∀ c ∈ digits, isAsciiDigit c = true) :
    decimalValue digits = 0 ↔ digits = List.replicate digits.length '0' := by
  constructor
  · intro hzero
    induction digits with
    | nil => rfl
    | cons c digits ih =>
      obtain ⟨d, hd, rfl⟩ := isAsciiDigit_iff.mp (h c List.mem_cons_self)
      rw [decimalValue, valueFrom_cons, valueFrom_eq, digitValue_digitChar hd] at hzero
      have hpos : 0 < 10 ^ digits.length := by positivity
      obtain ⟨hhead, htail⟩ := Nat.add_eq_zero_iff.mp hzero
      have hdigit : d = 0 := by
        rcases Nat.mul_eq_zero.mp hhead with hhead | hhead <;> omega
      subst hdigit
      rw [List.length_cons, List.replicate_succ,
        ← ih (fun c hc => h c (List.mem_cons_of_mem _ hc)) htail]
      rfl
  · intro hzeros
    have hvalue := decimalValue_zeros digits.length []
    rw [List.append_nil, ← hzeros] at hvalue
    exact hvalue

/-- The digits of a number, filled up with zeros to a width. -/
def paddedDigits (width n : ℕ) : List Char :=
  List.replicate (width - (Nat.toDigits 10 n).length) '0' ++ Nat.toDigits 10 n

theorem paddedDigits_digits (width n : ℕ) :
    ∀ c ∈ paddedDigits width n, isAsciiDigit c = true := by
  intro c hc
  rcases List.mem_append.mp hc with hzero | hdigit
  · obtain rfl := List.eq_of_mem_replicate hzero
    decide
  · exact toDigits_digits n c hdigit

theorem paddedDigits_ne_nil (width n : ℕ) : paddedDigits width n ≠ [] := by
  intro hnil
  exact Nat.toDigits_ne_nil (List.append_eq_nil_iff.mp hnil).2

theorem paddedDigits_concat (width n : ℕ) : ∃ digits last,
    paddedDigits width n = digits ++ [last] ∧ isAsciiDigit last = true := by
  refine ⟨_, _, (List.dropLast_append_getLast (paddedDigits_ne_nil width n)).symm, ?_⟩
  exact paddedDigits_digits width n _ (List.getLast_mem _)

@[simp]
theorem decimalValue_paddedDigits (width n : ℕ) : decimalValue (paddedDigits width n) = n := by
  rw [paddedDigits, decimalValue_zeros, decimalValue_toDigits]

theorem length_paddedDigits {width n : ℕ} (hpos : 0 < width) (h : n < 10 ^ width) :
    (paddedDigits width n).length = width := by
  have hle := (Nat.length_toDigits_le_iff (by decide) hpos).mpr h
  rw [paddedDigits, List.length_append, List.length_replicate]
  omega

/-- A text is read alike in every type that holds its number. -/
theorem parseSigned_of_bounds {wide : ℕ} {text : String} {v : ℤ}
    (h : parseSigned wide text = some v) (hlow : -(bound : ℤ) ≤ v) (hhigh : v < bound) :
    parseSigned bound text = some v := by
  rw [← String.ofList_toList (s := text)] at h ⊢
  obtain ⟨digits, hne, hdigits, ⟨hl, rfl⟩ | ⟨hl, rfl⟩ | ⟨hl, rfl⟩⟩ := parseSigned_eq_some h
  · rw [hl, parseSigned_of_digits hne hdigits, if_pos (by omega)]
  · rw [hl, parseSigned_plus hne hdigits, if_pos (by omega)]
  · rw [hl, parseSigned_minus hne hdigits, if_pos (by omega)]

/-- A number within the bounds of its type is read back. -/
theorem parseSigned_toString {n : ℤ} (hlow : -(bound : ℤ) ≤ n) (hhigh : n < bound) :
    parseSigned bound (toString n) = some n := by
  cases n with
  | ofNat n =>
    have htext : toString (Int.ofNat n) = String.ofList (Nat.toDigits 10 n) := rfl
    rw [htext, parseSigned_of_digits Nat.toDigits_ne_nil (toDigits_digits n),
      decimalValue_toDigits, if_pos (by simpa using hhigh)]
    rfl
  | negSucc n =>
    have htext : toString (Int.negSucc n) = String.ofList ('-' :: Nat.toDigits 10 (n + 1)) := by
      rw [String.ofList_cons]
      rfl
    rw [htext, parseSigned_minus Nat.toDigits_ne_nil (toDigits_digits _), decimalValue_toDigits,
      if_pos (by omega)]
    rfl

theorem parseU64_toString (h : n < 2 ^ 64) : parseU64 (toString n) = some n :=
  parseUnsigned_toDigits (by decide) (by decide) h

end DatabaseSync.Text
