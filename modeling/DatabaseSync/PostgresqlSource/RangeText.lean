import DatabaseSync.ChangeEvent.Model
import DatabaseSync.Library.Base64
import DatabaseSync.PostgresqlSource.TextOutput

/-! # Ranges and maps as text

A range is printed with its bounds in brackets, a multirange as its ranges between braces, a map of
texts as pairs of quoted texts. The readers of ranges look for bytes outside quotes.
-/

namespace DatabaseSync.PostgresqlSource

open ChangeEvent Checked QuotedTokens Text TextParser

/-! ## Scanning outside quotes -/

/-- Whether a scanner is between quotes, and behind an escape. -/
structure Scan where
  quoted : Bool
  escaped : Bool
deriving DecidableEq, Repr

namespace Scan

def outside : Scan := ⟨false, false⟩

def step (s : Scan) (b : UInt8) : Scan :=
  if s.escaped then ⟨s.quoted, false⟩
  else if b = marks.escape then ⟨s.quoted, true⟩
  else if b = marks.quote then ⟨!s.quoted, false⟩
  else s

/-- Whether the byte stands for itself and outside quotes. -/
def plain (s : Scan) (b : UInt8) : Bool :=
  !s.escaped && b != marks.escape && b != marks.quote && !s.quoted

end Scan

/-- The index of the first such byte outside quotes. -/
def findUnquoted (target : UInt8) : Scan → List UInt8 → Option ℕ
  | _, [] => none
  | s, b :: rest =>
    if s.plain b && b == target then some 0 else (findUnquoted target (s.step b) rest).map (· + 1)

/-! ## Ranges -/

structure RangeBounds where
  lowerInclusive : Bool
  lower : RawValue
  upper : RawValue
  upperInclusive : Bool
deriving DecidableEq, Repr

def unquoteRangeBound (bytes : List UInt8) : Except TextError RawValue :=
  if bytes = [] then .ok none
  else if bytes.head? = some marks.quote then do
    let ((value, quoted), p) ← (TextParser.new bytes).token []
    p.finish
    if quoted then return some value else throw (.invalid "invalid quoted PostgreSQL range bound")
  else .ok (some bytes)

/-- The bounds that `decode_range` reads, or `none` for the empty range. -/
def rangeBounds (bytes : List UInt8) : Except TextError (Option RangeBounds) := do
  if fromUtf8 bytes = none then throw .utf8
  if bytes = "empty".toList.map byteOf then return none
  if bytes.length < 2 ∨ bytes.head? ∉ [some (byteOf '['), some (byteOf '(')] ∨
      bytes.getLast? ∉ [some (byteOf ']'), some (byteOf ')')] then
    throw (.invalid "invalid PostgreSQL range text")
  match findUnquoted (byteOf ',') .outside bytes with
  | none => throw (.invalid "PostgreSQL range is missing its separator")
  | some comma =>
    let lower ← unquoteRangeBound ((bytes.take comma).drop 1)
    let upper ← unquoteRangeBound ((bytes.take (bytes.length - 1)).drop (comma + 1))
    return some ⟨bytes.head? == some (byteOf '['), lower, upper,
      bytes.getLast? == some (byteOf ']')⟩

/-- `str::trim` -/
def trimBytes (bytes : List UInt8) : List UInt8 :=
  match fromUtf8 bytes with
  | some text => JsonText.utf8 (trim text).toList
  | none => bytes

/-- The items of a multirange. `item` is what has been read of the current one. -/
def splitItems : Scan → ℤ → List UInt8 → List UInt8 → Except TextError (List (List UInt8))
  | s, depth, item, [] =>
    if s.quoted || s.escaped || depth != 0 then
      .error (.invalid "invalid PostgreSQL multirange quoting or bounds")
    else .ok [trimBytes item]
  | s, depth, item, b :: rest =>
    if !s.plain b then splitItems (s.step b) depth (item ++ [b]) rest
    else if b = byteOf '[' ∨ b = byteOf '(' then splitItems s (depth + 1) (item ++ [b]) rest
    else if b = byteOf ']' ∨ b = byteOf ')' then splitItems s (depth - 1) (item ++ [b]) rest
    else if b = byteOf ',' ∧ depth = 0 then do
      return trimBytes item :: (← splitItems s depth [] rest)
    else splitItems s depth (item ++ [b]) rest

def splitMultirange (body : List UInt8) : Except TextError (List (List UInt8)) :=
  if body = [] then .ok [] else splitItems .outside 0 [] body

/-- The items of a multirange between its braces. -/
def multirangeItems (bytes : List UInt8) : Except TextError (List (List UInt8)) := do
  if fromUtf8 bytes = none then throw .utf8
  if bytes.head? ≠ some (byteOf '{') ∨ bytes.tail.getLast? ≠ some (byteOf '}') then
    throw (.invalid "invalid PostgreSQL multirange text")
  splitMultirange bytes.tail.dropLast

/-! ## Maps of texts -/

def textValue (bytes : List UInt8) : Except TextError LogicalValue :=
  match fromUtf8 bytes with
  | some text => .ok (.text "UTF8" (Base64.encode bytes) (some text))
  | none => .error .utf8

/-- A text in quotes. -/
def quotedToken (p : TextParser) (terminators : List UInt8) (message : String) :
    Except TextError (List UInt8 × TextParser) := do
  let ((value, quoted), p) ← p.token terminators
  if !quoted then throw (.invalid message)
  return (value, p)

def hstoreValue (p : TextParser) : Except TextError (LogicalValue × TextParser) :=
  if nullWord.isPrefixOf p.remaining then do
    let p ← p.consumeBytes nullWord
    return (.null, p)
  else do
    let (value, p) ←
      quotedToken p [byteOf ','] "PostgreSQL hstore value must be quoted or NULL"
    return (← textValue value, p)

def hstoreEntry (p : TextParser) :
    Except TextError ((LogicalValue × LogicalValue) × TextParser) := do
  let (key, p) ← quotedToken p [byteOf '='] "PostgreSQL hstore key must be quoted"
  let p ← p.consume (byteOf '=')
  let p ← p.consume (byteOf '>')
  let (value, p) ← hstoreValue p
  return ((← textValue key, value), p)

def hstoreEntries : ℕ → TextParser →
    Except TextError (List (LogicalValue × LogicalValue) × TextParser)
  | 0, _ => .error .exhausted
  | fuel + 1, p => do
    let (entry, p) ← hstoreEntry p
    if p.peek = none then return ([entry], p)
    else
      let p ← p.consume (byteOf ',')
      let (entries, p) ← hstoreEntries fuel p.skipSpaces
      return (entry :: entries, p)

def decodeHstore (bytes : List UInt8) : Except TextError LogicalValue :=
  if bytes = [] then .ok (.map [])
  else do
    let (entries, p) ← hstoreEntries (bytes.length + 1) (TextParser.new bytes)
    p.finish
    return .map entries

/-! ## What the scanners pass over -/

/-- Nothing in the text is hit outside quotes. -/
inductive Skips (hit : UInt8 → Bool) : Scan → List UInt8 → Scan → Prop
  | nil {s : Scan} : Skips hit s [] s
  | cons {s s' : Scan} {b : UInt8} {text : List UInt8} (hfree : s.plain b = true → hit b = false)
      (hrest : Skips hit (s.step b) text s') : Skips hit s (b :: text) s'

variable {hit hit' : UInt8 → Bool} {s s' t : Scan} {text text' value rest item : List UInt8}
  {b target : UInt8} {depth : ℤ} {p q : TextParser}

theorem Skips.append (h : Skips hit s text s') (h' : Skips hit s' text' t) :
    Skips hit s (text ++ text') t := by
  induction h with
  | nil => exact h'
  | cons hfree _ ih => exact .cons hfree (ih h')

theorem Skips.imp (h : Skips hit s text s') (himp : ∀ b, hit' b = true → hit b = true) :
    Skips hit' s text s' := by
  induction h with
  | nil => exact .nil
  | @cons s s' b text hfree _ ih =>
    refine .cons (fun hplain => ?_) ih
    rw [Bool.eq_false_iff]
    exact fun hb => absurd (himp b hb) (by simp [hfree hplain])

theorem findUnquoted_skips (h : Skips (· == target) s text s') :
    findUnquoted target s (text ++ rest) = (findUnquoted target s' rest).map (· + text.length) := by
  induction h with
  | nil => simp
  | @cons s s' b text hfree _ ih =>
    have hmiss : (s.plain b && b == target) = false := by
      cases hplain : s.plain b with
      | false => rfl
      | true => simpa using hfree hplain
    rw [List.cons_append, findUnquoted, hmiss, if_neg (by decide), ih, Option.map_map]
    rfl

/-- The bytes that end an item or change the depth. -/
def brackets (b : UInt8) : Bool :=
  [byteOf '[', byteOf '(', byteOf ']', byteOf ')', byteOf ','].contains b

theorem Scan.step_plain (h : s.plain b = true) : s.step b = s := by
  obtain ⟨quoted, escaped⟩ := s
  simp only [Scan.plain, Bool.and_eq_true, Bool.not_eq_true', bne_iff_ne, ne_eq] at h
  obtain ⟨⟨⟨rfl, hescape⟩, hquote⟩, rfl⟩ := h
  simp [Scan.step, hescape, hquote]

theorem splitItems_skips (h : Skips brackets s text s') :
    splitItems s depth item (text ++ rest) = splitItems s' depth (item ++ text) rest := by
  induction h generalizing item with
  | nil => simp
  | @cons s s' b text hfree _ ih =>
    rw [List.cons_append, splitItems]
    split
    · rw [ih, List.append_assoc]
      rfl
    · next hplain =>
      rw [Bool.not_eq_true, Bool.not_eq_false'] at hplain
      have hb := hfree hplain
      simp only [brackets, List.contains_eq_mem, List.mem_cons, List.not_mem_nil, or_false,
        decide_eq_false_iff_not, not_or] at hb
      obtain ⟨h₁, h₂, h₃, h₄, h₅⟩ := hb
      rw [if_neg (by tauto), if_neg (by tauto), if_neg (by tauto)]
      rw [Scan.step_plain hplain] at ih
      rw [ih, List.append_assoc]
      rfl

/-- The body of a quoted text is passed over. -/
theorem skips_quoted (h : Quoted marks value text) :
    Skips hit ⟨true, false⟩ text ⟨true, false⟩ := by
  induction h with
  | nil => exact .nil
  | @plain a _ _ hquote hescape _ ih =>
    refine .cons (by simp [Scan.plain]) ?_
    have hstep : Scan.step ⟨true, false⟩ a = ⟨true, false⟩ := by
      simp [Scan.step, hquote, hescape]
    rwa [hstep]
  | doubled _ ih => exact .cons (by simp [Scan.plain]) (.cons (by simp [Scan.plain]) ih)
  | escaped _ ih => exact .cons (by simp [Scan.plain]) (.cons (by simp [Scan.plain, Scan.step]) ih)

/-! ## What PostgreSQL prints of ranges -/

def rangeSpecial : List UInt8 :=
  [marks.quote, marks.escape, byteOf '(', byteOf ')', byteOf '[', byteOf ']', byteOf ',']

/-- `range_bound_escape` -/
def boundOut : RawValue → List UInt8
  | none => []
  | some value => printed (asksFor rangeSpecial) (doubleMarks marks) value

def openingBracket (inclusive : Bool) : UInt8 := if inclusive then byteOf '[' else byteOf '('

def closingBracket (inclusive : Bool) : UInt8 := if inclusive then byteOf ']' else byteOf ')'

/-- `range_deparse` -/
def rangeOut (r : RangeBounds) : List UInt8 :=
  openingBracket r.lowerInclusive ::
    (boundOut r.lower ++ (byteOf ',' :: (boundOut r.upper ++ [closingBracket r.upperInclusive])))

theorem skips_boundOut (bound : RawValue) :
    Skips rangeSpecial.contains .outside (boundOut bound) .outside := by
  cases bound with
  | none => exact .nil
  | some value =>
    simp only [boundOut, printed]
    split
    · refine .cons (by decide) ?_
      exact (skips_quoted (quoted_doubleMarks value)).append (.cons (by decide) .nil)
    · next hasks =>
      obtain ⟨-, hfree⟩ := asksFor_eq_false.mp (Bool.eq_false_iff.mpr hasks)
      clear hasks
      induction value with
      | nil => exact .nil
      | cons b value ih =>
        obtain ⟨hb, hvalue⟩ := List.forall_mem_cons.mp hfree
        have hstep : Scan.outside.step b = .outside := by
          refine Scan.step_plain ?_
          obtain ⟨hspecial, -⟩ := hb
          simp only [rangeSpecial, List.mem_cons, not_or] at hspecial
          simp [Scan.plain, Scan.outside, hspecial.1, hspecial.2.1]
        refine .cons (fun _ => by simpa using hb.1) ?_
        rw [hstep]
        exact ih hvalue

theorem unquoteRangeBound_out (bound : RawValue) :
    unquoteRangeBound (boundOut bound) = .ok bound := by
  cases bound with
  | none => rfl
  | some value =>
    simp only [boundOut, printed]
    split
    · have htoken :
          (TextParser.new (marks.quote :: (doubleMarks marks value ++ [marks.quote]))).token [] =
            .ok ((value, true), ⟨[], _⟩) :=
        (token_eq_ok ⟨by simp, by simp⟩).mpr ⟨_, .quoted (quoted_doubleMarks value)
          (List.forall_mem_nil _), ⟨(List.append_nil _).symm, rfl⟩, by simp [Ends, peek]⟩
      simp only [unquoteRangeBound, if_neg (List.cons_ne_nil _ _), List.head?_cons, if_pos, htoken]
      rfl
    · next hasks =>
      obtain ⟨hne, hfree⟩ := asksFor_eq_false.mp (Bool.eq_false_iff.mpr hasks)
      rw [unquoteRangeBound, if_neg hne, if_neg]
      intro hhead
      exact (hfree _ (List.mem_of_mem_head? hhead)).1 (by simp [rangeSpecial])

theorem findUnquoted_rangeOut (r : RangeBounds) :
    findUnquoted (byteOf ',') .outside (rangeOut r) = some ((boundOut r.lower).length + 1) := by
  have hopen : Skips (· == byteOf ',') .outside [openingBracket r.lowerInclusive] .outside := by
    cases r.lowerInclusive with
    | true => exact .cons (by decide) .nil
    | false => exact .cons (by decide) .nil
  have hlower : Skips (· == byteOf ',') .outside (boundOut r.lower) .outside := by
    refine (skips_boundOut r.lower).imp fun b hb => ?_
    obtain rfl : b = byteOf ',' := by simpa using hb
    decide
  have hskips := hopen.append hlower
  rw [rangeOut, ← List.singleton_append, ← List.append_assoc, findUnquoted_skips hskips]
  rw [findUnquoted, if_pos (by decide)]
  simp

theorem openingBracket_mem (inclusive : Bool) :
    some (openingBracket inclusive) ∈ [some (byteOf '['), some (byteOf '(')] := by
  cases inclusive <;> decide

theorem closingBracket_mem (inclusive : Bool) :
    some (closingBracket inclusive) ∈ [some (byteOf ']'), some (byteOf ')')] := by
  cases inclusive <;> decide

/-- A range is closed by its last byte. -/
theorem rangeOut_eq (r : RangeBounds) : rangeOut r =
    (openingBracket r.lowerInclusive :: (boundOut r.lower ++ [byteOf ',']) ++ boundOut r.upper) ++
      [closingBracket r.upperInclusive] := by
  simp [rangeOut]

theorem getLast?_rangeOut (r : RangeBounds) :
    (rangeOut r).getLast? = some (closingBracket r.upperInclusive) := by
  rw [rangeOut_eq]
  exact List.getLast?_concat

/-- The bounds of a range come back from its text. -/
theorem rangeBounds_rangeOut (r : RangeBounds) (hutf8 : fromUtf8 (rangeOut r) ≠ none) :
    rangeBounds (rangeOut r) = .ok (some r) := by
  have hhead : (rangeOut r).head? = some (openingBracket r.lowerInclusive) := rfl
  have hlast := getLast?_rangeOut r
  have hempty : rangeOut r ≠ "empty".toList.map byteOf := by
    intro h
    rw [h] at hhead
    have hmem := openingBracket_mem r.lowerInclusive
    rw [← hhead] at hmem
    exact absurd hmem (by decide)
  have hlength : (rangeOut r).length =
      (boundOut r.lower).length + (boundOut r.upper).length + 3 := by
    simp [rangeOut]
    omega
  have hshape : ¬ ((rangeOut r).length < 2 ∨
      (rangeOut r).head? ∉ [some (byteOf '['), some (byteOf '(')] ∨
      (rangeOut r).getLast? ∉ [some (byteOf ']'), some (byteOf ')')]) := by
    rw [hhead, hlast, not_or, not_or, not_not, not_not]
    exact ⟨by omega, openingBracket_mem _, closingBracket_mem _⟩
  have hlower : ((rangeOut r).take ((boundOut r.lower).length + 1)).drop 1 = boundOut r.lower := by
    rw [rangeOut, List.take_succ_cons, List.drop_succ_cons, List.drop_zero, List.take_left]
  have hupper : ((rangeOut r).take ((rangeOut r).length - 1)).drop
      ((boundOut r.lower).length + 1 + 1) = boundOut r.upper := by
    rw [rangeOut_eq, List.length_append, List.length_singleton, Nat.add_sub_cancel, List.take_left]
    exact List.drop_left' (by simp)
  have hopen : ((rangeOut r).head? == some (byteOf '[')) = r.lowerInclusive := by
    rw [hhead]
    cases r.lowerInclusive <;> decide
  have hclose : ((rangeOut r).getLast? == some (byteOf ']')) = r.upperInclusive := by
    rw [hlast]
    cases r.upperInclusive <;> decide
  simp only [rangeBounds, throw_eq, pure_eq, error_bind, guard_eq_ok]
  refine ⟨hutf8, ?_⟩
  rw [if_neg hempty, guard_eq_ok]
  refine ⟨hshape, ?_⟩
  simp only [findUnquoted_rangeOut, hlower, hupper, unquoteRangeBound_out, ok_bind, hopen, hclose]

/-! ## Multiranges -/

/-- `multirange_out` -/
def multirangeOut (ranges : List (List UInt8)) : List UInt8 :=
  byteOf '{' :: ([byteOf ','].intercalate ranges ++ [byteOf '}'])

theorem splitItems_opening (inclusive : Bool) :
    splitItems .outside depth item (openingBracket inclusive :: rest) =
      splitItems .outside (depth + 1) (item ++ [openingBracket inclusive]) rest := by
  cases inclusive <;> rfl

theorem splitItems_closing (inclusive : Bool) :
    splitItems .outside depth item (closingBracket inclusive :: rest) =
      splitItems .outside (depth - 1) (item ++ [closingBracket inclusive]) rest := by
  cases inclusive <;> rfl

/-- A range is passed over by the scanner of multiranges. -/
theorem splitItems_rangeOut (r : RangeBounds) : splitItems .outside 0 [] (rangeOut r ++ rest) =
    splitItems .outside 0 (rangeOut r) rest := by
  have hskips : ∀ bound, Skips brackets .outside (boundOut bound) .outside := by
    intro bound
    refine (skips_boundOut bound).imp fun b hb => ?_
    simp only [brackets, rangeSpecial, List.contains_eq_mem, List.mem_cons, List.not_mem_nil,
      or_false, decide_eq_true_eq] at hb ⊢
    tauto
  have hcomma : ∀ {item rest : List UInt8}, splitItems .outside 1 item (byteOf ',' :: rest) =
      splitItems .outside 1 (item ++ [byteOf ',']) rest := rfl
  rw [rangeOut, List.cons_append, splitItems_opening, List.append_assoc,
    splitItems_skips (hskips _), Int.zero_add, List.cons_append, hcomma]
  rw [List.append_assoc (boundOut r.upper), splitItems_skips (hskips _), List.singleton_append,
    splitItems_closing]
  simp

/-- A text between marks that are no white space is not trimmed. -/
theorem trimBytes_eq_self {bytes : List UInt8} {first last : UInt8}
    (hfirst : bytes.head? = some first) (hlast : bytes.getLast? = some last)
    (hascii : first.toNat < 128 ∧ last.toNat < 128)
    (hspace : ∀ c : Char, c.toNat = first.toNat ∨ c.toNat = last.toNat → isWhitespace c = false) :
    trimBytes bytes = bytes := by
  unfold trimBytes
  split
  · next text hutf8 =>
    obtain ⟨chars, hchars, rfl⟩ := Option.map_eq_some_iff.mp hutf8
    have hbytes := utf8_of_utf8Chars hchars
    rw [← hbytes] at hfirst hlast
    obtain ⟨c, hc, hcfirst⟩ := head?_of_utf8 hascii.1 hfirst
    obtain ⟨d, hd, hdlast⟩ := getLast?_of_utf8 hascii.2 hlast
    have hstart : chars.dropWhile isWhitespace = chars := by
      cases chars with
      | nil => rfl
      | cons a chars =>
        cases hc
        exact List.dropWhile_cons_of_neg (by simp [hspace _ (.inl hcfirst)])
    have hend : chars.reverse.dropWhile isWhitespace = chars.reverse := by
      rw [← List.head?_reverse] at hd
      cases hreverse : chars.reverse with
      | nil => rfl
      | cons a rest =>
        rw [hreverse] at hd
        cases hd
        exact List.dropWhile_cons_of_neg (by simp [hspace _ (.inr hdlast)])
    rw [trim, String.toList_ofList, String.toList_ofList, hstart, hend, List.reverse_reverse,
      hbytes]
  · rfl

theorem trimBytes_rangeOut (r : RangeBounds) : trimBytes (rangeOut r) = rangeOut r := by
  have hbracket : ∀ n ∈ [0x5b, 0x28, 0x5d, 0x29], n < 128 ∧
      ∀ c : Char, c.toNat = n → isWhitespace c = false := by
    intro n hn
    simp only [List.mem_cons, List.not_mem_nil, or_false] at hn
    refine ⟨by omega, fun c hc => ?_⟩
    rw [isWhitespace, hc]
    rcases hn with rfl | rfl | rfl | rfl <;> rfl
  have hopen : (openingBracket r.lowerInclusive).toNat ∈ [0x5b, 0x28, 0x5d, 0x29] := by
    cases r.lowerInclusive <;> decide
  have hclose : (closingBracket r.upperInclusive).toNat ∈ [0x5b, 0x28, 0x5d, 0x29] := by
    cases r.upperInclusive <;> decide
  refine trimBytes_eq_self rfl (getLast?_rangeOut r)
    ⟨(hbracket _ hopen).1, (hbracket _ hclose).1⟩ ?_
  rintro c (hc | hc)
  · exact (hbracket _ hopen).2 c hc
  · exact (hbracket _ hclose).2 c hc

/-- The ranges of a multirange come back from its text. -/
theorem multirangeItems_multirangeOut (ranges : List RangeBounds)
    (hutf8 : fromUtf8 (multirangeOut (ranges.map rangeOut)) ≠ none) :
    multirangeItems (multirangeOut (ranges.map rangeOut)) = .ok (ranges.map rangeOut) := by
  have hsplit : ∀ (ranges : List RangeBounds) first, splitItems .outside 0 []
      ([byteOf ','].intercalate ((first :: ranges).map rangeOut)) =
        .ok ((first :: ranges).map rangeOut) := by
    intro ranges
    induction ranges with
    | nil =>
      intro first
      have hlast : splitItems .outside 0 [] (rangeOut first ++ []) =
          splitItems .outside 0 (rangeOut first) [] := splitItems_rangeOut first
      rw [List.append_nil] at hlast
      rw [List.map_singleton, List.intercalate, List.intersperse_singleton, List.flatten_singleton,
        hlast, splitItems, if_neg (by decide), trimBytes_rangeOut]
    | cons second ranges ih =>
      intro first
      have hcomma : ∀ {item rest : List UInt8}, splitItems .outside 0 item (byteOf ',' :: rest) =
          (do return trimBytes item :: (← splitItems .outside 0 [] rest)) := fun {_ _} => rfl
      have hnext := ih second
      rw [List.map_cons] at hnext ⊢
      rw [List.map_cons, List.intercalate, List.intersperse_cons_cons, List.flatten_cons,
        List.flatten_cons, splitItems_rangeOut, List.singleton_append, hcomma, trimBytes_rangeOut]
      rw [List.intercalate] at hnext
      rw [hnext]
      rfl
  have hbrace : ¬ ((multirangeOut (ranges.map rangeOut)).head? ≠ some (byteOf '{') ∨
      (multirangeOut (ranges.map rangeOut)).tail.getLast? ≠ some (byteOf '}')) := by
    rw [not_or, not_not, not_not]
    exact ⟨rfl, List.getLast?_concat⟩
  simp only [multirangeItems, throw_eq, error_bind, guard_eq_ok]
  refine ⟨hutf8, hbrace, ?_⟩
  rw [multirangeOut, List.tail_cons, List.dropLast_concat]
  cases ranges with
  | nil => rfl
  | cons first ranges =>
    rw [splitMultirange, if_neg, hsplit]
    rw [List.map_cons]
    exact intercalate_head (List.cons_ne_nil _ _)

/-! ## What PostgreSQL prints of maps -/

def textOut (text : String) : List UInt8 :=
  marks.quote :: (escapeMarks marks (JsonText.utf8 text.toList) ++ [marks.quote])

def hstoreEntryOut : String × Option String → List UInt8
  | (key, value) => textOut key ++ (byteOf '=' :: byteOf '>' ::
      match value with
      | some text => textOut text
      | none => nullWord)

/-- `hstore_out` -/
def hstoreOut (entries : List (String × Option String)) : List UInt8 :=
  [byteOf ',', byteOf ' '].intercalate (entries.map hstoreEntryOut)

def textOf (text : String) : LogicalValue :=
  .text "UTF8" (Base64.encode (JsonText.utf8 text.toList)) (some text)

def mapEntryOf : String × Option String → LogicalValue × LogicalValue
  | (key, value) => (textOf key, (value.map textOf).getD .null)

theorem textValue_utf8 (text : String) :
    textValue (JsonText.utf8 text.toList) = .ok (textOf text) := by
  rw [textValue, fromUtf8_utf8]
  rfl

theorem quotedToken_out {terminators : List UInt8} {message text : String}
    (hts : Terminating terminators) (hread : p.Reads (textOut text) q)
    (hends : q.Ends terminators) :
    quotedToken p terminators message = .ok (JsonText.utf8 text.toList, q) := by
  have htoken : p.token terminators = .ok ((JsonText.utf8 text.toList, true), q) :=
    (token_eq_ok hts).mpr ⟨_, .quoted (quoted_escapeMarks _) (List.forall_mem_nil _), hread, hends⟩
  rw [quotedToken, htoken]
  rfl

theorem hstoreValue_out {value : Option String} (hends : q.Ends [byteOf ','])
    (hread : p.Reads (match value with | some text => textOut text | none => nullWord) q) :
    hstoreValue p = .ok ((value.map textOf).getD .null, q) := by
  unfold hstoreValue
  cases value with
  | none =>
    rw [if_pos, consumeBytes_eq_ok.mpr hread]
    · rfl
    · rw [hread.remaining, List.isPrefixOf_iff_prefix]
      exact List.prefix_append _ _
  | some text =>
    have hquote : ¬ nullWord.isPrefixOf p.remaining = true := by
      rw [hread.remaining]
      simp [nullWord, textOut, marks, List.isPrefixOf]
    rw [if_neg hquote, quotedToken_out (.of_all (by decide) (by decide)) hread hends, ok_bind]
    simp only [textValue_utf8]
    rfl

theorem hstoreEntry_out {entry : String × Option String} (hends : q.Ends [byteOf ','])
    (hread : p.Reads (hstoreEntryOut entry) q) : hstoreEntry p = .ok (mapEntryOf entry, q) := by
  obtain ⟨key, value⟩ := entry
  obtain ⟨p₁, hkey, hread⟩ := reads_split.mp hread
  obtain ⟨p₂, hequals, hread⟩ := reads_cons.mp hread
  obtain ⟨p₃, hgreater, hread⟩ := reads_cons.mp hread
  have hstop : p₁.Ends [byteOf '='] := ends_of_reads _ hequals List.mem_cons_self
  rw [hstoreEntry, quotedToken_out (.of_all (by decide) (by decide)) hkey hstop, ok_bind]
  simp only [consume_eq_ok.mpr hequals, consume_eq_ok.mpr hgreater, ok_bind,
    hstoreValue_out hends hread, textValue_utf8]
  rfl

theorem skipSpaces_eq (hread : p.Reads [byteOf ' '] q)
    (hstop : ∀ b ∈ q.peek, isAsciiSpace b = false) : p.skipSpaces = q := by
  have htake : p.remaining.takeWhile isAsciiSpace = [byteOf ' '] := by
    rw [hread.remaining, List.takeWhile_append_of_pos (List.forall_mem_singleton.mpr rfl)]
    cases hq : q.remaining with
    | nil => rfl
    | cons b rest => rw [List.takeWhile_cons_of_neg (by simp [hstop b (by rw [peek, hq]; rfl)]),
        List.append_nil]
  refine Reads.unique (p := p) ⟨?_, ?_⟩ hread
  · rw [← htake]
    exact List.takeWhile_append_dropWhile.symm
  · rw [← htake]
    rfl

/-- The text of some entries starts with a quote. -/
theorem hstoreOut_cons (entry : String × Option String) (entries : List (String × Option String)) :
    ∃ rest, hstoreOut (entry :: entries) = marks.quote :: rest := by
  obtain ⟨key, value⟩ := entry
  cases entries with
  | nil =>
    rw [hstoreOut, List.map_singleton, List.intercalate, List.intersperse_singleton,
      List.flatten_singleton]
    exact ⟨_, rfl⟩
  | cons second entries =>
    rw [hstoreOut, List.map_cons, List.map_cons, List.intercalate, List.intersperse_cons_cons,
      List.flatten_cons]
    exact ⟨_, rfl⟩

theorem length_le_hstoreOut (entries : List (String × Option String)) :
    entries.length ≤ (hstoreOut entries).length := by
  have hentry : ∀ entry, 1 ≤ (hstoreEntryOut entry).length := by
    rintro ⟨key, value⟩
    simp only [hstoreEntryOut, textOut, List.cons_append, List.length_cons]
    omega
  induction entries with
  | nil => exact Nat.zero_le _
  | cons entry entries ih =>
    cases entries with
    | nil =>
      rw [hstoreOut, List.map_singleton, List.intercalate, List.intersperse_singleton,
        List.flatten_singleton]
      exact hentry entry
    | cons second entries =>
      have hlength : (hstoreOut (entry :: second :: entries)).length =
          (hstoreEntryOut entry).length + (2 + (hstoreOut (second :: entries)).length) := by
        rw [hstoreOut, List.map_cons, List.map_cons, List.intercalate, List.intersperse_cons_cons,
          List.flatten_cons, List.flatten_cons, List.length_append, List.length_append]
        rfl
      have := hentry entry
      rw [List.length_cons]
      omega

theorem hstoreEntries_out {fuel : ℕ} {entries : List (String × Option String)} (hne : entries ≠ [])
    (hfuel : entries.length ≤ fuel) (hread : p.Reads (hstoreOut entries) q)
    (hend : q.remaining = []) :
    hstoreEntries fuel p = .ok (entries.map mapEntryOf, q) := by
  induction entries generalizing p fuel with
  | nil => exact absurd rfl hne
  | cons entry entries ih =>
    obtain ⟨fuel, rfl⟩ : ∃ n, fuel = n + 1 := ⟨fuel - 1, by simp at hfuel; omega⟩
    cases entries with
    | nil =>
      have hends : q.Ends [byteOf ','] := by simp [Ends, peek, hend]
      rw [hstoreOut, List.map_singleton, List.intercalate, List.intersperse_singleton,
        List.flatten_singleton] at hread
      rw [hstoreEntries, hstoreEntry_out hends hread, ok_bind]
      simp only
      rw [if_pos (by rw [peek, hend]; rfl)]
      rfl
    | cons second entries =>
      rw [hstoreOut, List.map_cons, List.map_cons, List.intercalate, List.intersperse_cons_cons,
        List.flatten_cons, List.flatten_cons] at hread
      obtain ⟨p₁, hentry, hread⟩ := reads_split.mp hread
      rw [List.cons_append] at hread
      obtain ⟨p₂, hcomma, hread⟩ := reads_cons.mp hread
      obtain ⟨p₃, hspace, hread⟩ := reads_cons.mp hread
      have hrest := @ih p₃ fuel (List.cons_ne_nil _ _) (by simp at hfuel ⊢; omega) hread
      have hends := ends_of_reads [byteOf ','] hcomma List.mem_cons_self
      have hpeek : p₁.peek ≠ none := by
        rw [peek, hcomma.remaining]
        exact Option.some_ne_none _
      have hstop : ∀ b ∈ p₃.peek, isAsciiSpace b = false := by
        obtain ⟨rest, hrest⟩ := hstoreOut_cons second entries
        intro b hb
        rw [peek, (show p₃.remaining = _ from hread.remaining), ← List.map_cons, ← List.intercalate,
          ← hstoreOut, hrest] at hb
        cases hb
        decide
      rw [hstoreEntries, hstoreEntry_out hends hentry, ok_bind]
      simp only [if_neg hpeek, consume_eq_ok.mpr hcomma, ok_bind, skipSpaces_eq hspace hstop, hrest]
      rfl

/-- The entries of a map come back from its text. -/
theorem decodeHstore_hstoreOut (entries : List (String × Option String)) :
    decodeHstore (hstoreOut entries) = .ok (.map (entries.map mapEntryOf)) := by
  cases entries with
  | nil => rfl
  | cons entry entries =>
    obtain ⟨q, hread, hend⟩ := exists_reads (TextParser.new (hstoreOut (entry :: entries)))
      (List.append_nil _).symm
    have hne : hstoreOut (entry :: entries) ≠ [] := by
      obtain ⟨rest, hrest⟩ := hstoreOut_cons entry entries
      rw [hrest]
      nofun
    have hfuel := length_le_hstoreOut (entry :: entries)
    have hfinish : q.finish = .ok () := finish_eq_ok.mpr hend
    rw [decodeHstore, if_neg hne,
      hstoreEntries_out (List.cons_ne_nil _ _) (Nat.le_succ_of_le hfuel) hread hend, ok_bind]
    simp only [hfinish, ok_bind, pure_eq]

end DatabaseSync.PostgresqlSource
