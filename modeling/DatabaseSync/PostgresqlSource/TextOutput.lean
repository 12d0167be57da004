import DatabaseSync.PostgresqlSource.Interval
import DatabaseSync.PostgresqlSource.StructuredText

/-! # What PostgreSQL prints

The output functions of composites and arrays put a value in quotes where something in it asks for
them. The readers give back the fields and the elements.
-/

namespace DatabaseSync.PostgresqlSource

open Checked QuotedTokens Text TextParser

variable {delimiter : UInt8} {terminators value values text : List UInt8}

/-! ## Printed values -/

/-- A value as it is printed: in quotes if something in it asks for them. -/
def printed (asks : List UInt8 → Bool) (write : List UInt8 → List UInt8) (value : List UInt8) :
    List UInt8 :=
  if asks value then marks.quote :: (write value ++ [marks.quote]) else value

/-- `isspace` -/
def isSpace (b : UInt8) : Bool := b == 0x20 || (0x09 ≤ b && b ≤ 0x0d)

/-- Whether a value is empty or has one of the bytes, or white space. -/
def asksFor (special : List UInt8) (value : List UInt8) : Bool :=
  value.isEmpty || value.any fun b => special.contains b || isSpace b

theorem asksFor_eq_false {special : List UInt8} : asksFor special value = false ↔
    value ≠ [] ∧ ∀ b ∈ value, b ∉ special ∧ isSpace b = false := by
  simp [asksFor]

/-- A printed value is read as itself. -/
theorem tokenText_printed {asks : List UInt8 → Bool} {write : List UInt8 → List UInt8}
    (hwrite : ∀ value, Quoted marks value (write value))
    (hbare : asks value = false →
      ∀ b ∈ value, b ∉ terminators ∧ b ≠ marks.quote ∧ b ≠ marks.escape) :
    TokenText terminators value (asks value) (printed asks write value) := by
  unfold printed
  cases hasks : asks value with
  | true => exact .quoted (hwrite value) (List.forall_mem_nil _)
  | false =>
    have hfree := hbare hasks
    refine .bare (bare_self ?_ fun hmem => (hfree _ hmem).2.2 rfl) ?_
    · intro b hb
      simpa using (hfree b hb).1
    · intro hhead
      exact (hfree _ (List.mem_of_mem_head? hhead)).2.1 rfl

/-! ## Composites -/

def recordSpecial : List UInt8 := [marks.quote, marks.escape, byteOf '(', byteOf ')', byteOf ',']

def fieldOut : RawValue → List UInt8
  | none => []
  | some value => printed (asksFor recordSpecial) (doubleMarks marks) value

/-- `record_out` -/
def recordOut (fields : List RawValue) : List UInt8 :=
  byteOf '(' :: ([byteOf ','].intercalate (fields.map fieldOut) ++ [byteOf ')'])

theorem fieldText_out (field : RawValue) : FieldText field (fieldOut field) := by
  cases field with
  | none => exact .null
  | some value =>
    have htoken : TokenText [byteOf ',', byteOf ')'] value (asksFor recordSpecial value)
        (printed (asksFor recordSpecial) (doubleMarks marks) value) := by
      refine tokenText_printed quoted_doubleMarks fun hasks b hb => ?_
      obtain ⟨hfree, -⟩ := (asksFor_eq_false.mp hasks).2 b hb
      simp only [recordSpecial, List.mem_cons, not_or] at hfree ⊢
      tauto
    refine .value htoken ?_
    cases hasks : asksFor recordSpecial value with
    | true => exact .inl rfl
    | false => exact .inr (asksFor_eq_false.mp hasks).1

theorem forall₂_map_right {α β : Type} {R : α → β → Prop} {f : α → β} (h : ∀ a, R a (f a))
    (l : List α) : List.Forall₂ R l (l.map f) := by
  rw [List.forall₂_map_right_iff, List.forall₂_same]
  exact fun a _ => h a

/-- The fields of a composite come back from its text. A single null comes back as no fields. -/
theorem parseRecord_recordOut (fields : List RawValue) :
    parseRecord (recordOut fields) = .ok (if fields = [none] then [] else fields) := by
  apply parseRecord_eq_ok.mpr
  split
  · next h =>
    subst h
    exact .empty
  · next hne =>
    cases fields with
    | nil => exact .empty
    | cons field fields =>
      exact .fields (separated_intercalate nofun (forall₂_map_right fieldText_out _)) hne

/-! ## Arrays -/

def arraySpecial (delimiter : UInt8) : List UInt8 :=
  [marks.quote, marks.escape, byteOf '{', byteOf '}', delimiter]

def arrayAsks (delimiter : UInt8) (value : List UInt8) : Bool :=
  isNullWord value || asksFor (arraySpecial delimiter) value

def leafOut (delimiter : UInt8) : RawValue → List UInt8
  | none => nullWord
  | some value => printed (arrayAsks delimiter) (escapeMarks marks) value

mutual

def nodeOut (delimiter : UInt8) : ArrayNode → List UInt8
  | .leaf value => leafOut delimiter value
  | .branch children => byteOf '{' :: ([delimiter].intercalate (childrenOut delimiter children) ++
      [byteOf '}'])

def childrenOut (delimiter : UInt8) : List ArrayNode → List (List UInt8)
  | [] => []
  | child :: children => nodeOut delimiter child :: childrenOut delimiter children

end

/-- `[lower:upper]` for every dimension -/
def boundsOut : List ℤ → List ℕ → List UInt8
  | lower :: bounds, length :: lengths =>
    byteOf '[' :: (JsonText.utf8 (toString lower).toList ++ (byteOf ':' ::
      (JsonText.utf8 (toString (lower + length - 1)).toList ++ (byteOf ']' ::
        boundsOut bounds lengths))))
  | _, _ => []

/-- `array_out` -/
def arrayOut (delimiter : UInt8) (bounds : List ℤ) (lengths : List ℕ) (tree : ArrayNode) :
    List UInt8 :=
  if bounds.all (· == 1) then nodeOut delimiter tree
  else boundsOut bounds lengths ++ byteOf '=' :: nodeOut delimiter tree

theorem leafText_out (hd : Delimits delimiter) (value : RawValue) :
    LeafText delimiter value (leafOut delimiter value) := by
  cases value with
  | none =>
    have hself : Bare marks [delimiter, byteOf '}'].contains nullWord nullWord := by
      refine bare_self (fun b hb => ?_) (by decide)
      have hfree : b ∉ [delimiter, byteOf '}'] := by
        rw [List.mem_pair, not_or]
        constructor
        · rintro rfl
          exact hd.word hb
        · rintro rfl
          exact absurd hb (by decide)
      simpa using hfree
    exact .null (.bare hself (by simp [leafOut, nullWord, marks])) rfl
  | some value =>
    have htoken : TokenText [delimiter, byteOf '}'] value (arrayAsks delimiter value)
        (printed (arrayAsks delimiter) (escapeMarks marks) value) := by
      refine tokenText_printed quoted_escapeMarks fun hasks b hb => ?_
      obtain ⟨hfree, -⟩ := (asksFor_eq_false.mp (Bool.or_eq_false_iff.mp hasks).2).2 b hb
      simp only [arraySpecial, List.mem_cons, not_or] at hfree ⊢
      tauto
    refine .value htoken ?_
    cases hasks : arrayAsks delimiter value with
    | true => exact .inl rfl
    | false => exact .inr (Bool.or_eq_false_iff.mp hasks).1

/-- A printed leaf has a text, which does not start as a level. -/
theorem leafOut_head (delimiter : UInt8) (value : RawValue) :
    ∃ b rest, leafOut delimiter value = b :: rest ∧ b ≠ byteOf '{' := by
  cases value with
  | none => exact ⟨_, _, rfl, by decide⟩
  | some value =>
    simp only [leafOut, printed]
    cases hasks : arrayAsks delimiter value with
    | true => exact ⟨_, _, rfl, by decide⟩
    | false =>
      obtain ⟨hne, hfree⟩ := asksFor_eq_false.mp (Bool.or_eq_false_iff.mp hasks).2
      cases value with
      | nil => exact absurd rfl hne
      | cons b rest =>
        refine ⟨b, rest, rfl, ?_⟩
        rintro rfl
        exact (hfree _ List.mem_cons_self).1 (by simp [arraySpecial])

theorem intercalate_head {parts : List (List UInt8)} {separator : List UInt8}
    (hne : value ≠ []) : separator.intercalate (value :: parts) ≠ [] := by
  cases parts with
  | nil => simpa [List.intercalate] using hne
  | cons part parts => simp [List.intercalate, hne]

mutual

theorem nodeText_out (hd : Delimits delimiter) (node : ArrayNode) :
    NodeText delimiter node (nodeOut delimiter node) := by
  match node with
  | .leaf value =>
    refine .leaf (leafText_out hd value) ?_
    obtain ⟨b, rest, hout, hb⟩ := leafOut_head delimiter value
    rw [nodeOut, hout]
    exact fun hhead => hb (Option.some.inj hhead)
  | .branch [] => exact .empty
  | .branch (child :: children) =>
    refine .branch (separated_intercalate nofun (childrenText_out hd (child :: children))) ?_
    refine intercalate_head fun hnil => ?_
    cases child with
    | leaf value =>
      obtain ⟨b, rest, hout, -⟩ := leafOut_head delimiter value
      rw [nodeOut, hout] at hnil
      cases hnil
    | branch children =>
      rw [nodeOut] at hnil
      cases hnil

theorem childrenText_out (hd : Delimits delimiter) (children : List ArrayNode) :
    List.Forall₂ (NodeText delimiter) children (childrenOut delimiter children) := by
  match children with
  | [] => exact .nil
  | child :: children => exact .cons (nodeText_out hd child) (childrenText_out hd children)

end

theorem toString_chars (n : ℤ) : ∀ c ∈ (toString n).toList, c = '-' ∨ isAsciiDigit c = true := by
  rw [toString_toList]
  intro c hc
  obtain hsign | hdigit := List.mem_append.mp hc
  · left
    split at hsign
    · exact List.mem_singleton.mp hsign
    · cases hsign
  · exact .inr (toDigits_digits _ c hdigit)

/-- A number is printed with a sign and digits only. -/
theorem byte_not_mem_toString (n : ℤ) {b : UInt8} (hdash : b ≠ byteOf '-')
    (hdigit : ¬ (48 ≤ b.toNat ∧ b.toNat ≤ 57)) : b ∉ JsonText.utf8 (toString n).toList := by
  have hdigits : ∀ {c : Char}, isAsciiDigit c = true → 48 ≤ c.toNat ∧ c.toNat ≤ 57 := by
    intro c hc
    obtain ⟨hlow, hhigh⟩ : '0' ≤ c ∧ c ≤ '9' := by simpa [isAsciiDigit] using hc
    exact ⟨hlow, hhigh⟩
  have hascii : ∀ c ∈ (toString n).toList, c.toNat ≤ 0x7f := by
    intro c hc
    obtain rfl | h := toString_chars n c hc
    · decide
    · have := hdigits h
      omega
  rw [utf8_of_ascii hascii]
  intro hb
  obtain ⟨c, hc, rfl⟩ := List.mem_map.mp hb
  obtain rfl | h := toString_chars n c hc
  · exact hdash rfl
  · have hrange := hdigits h
    rw [toNat_ofNat_lt (by omega)] at hdigit
    exact hdigit hrange

theorem fromUtf8_utf8 (text : String) : fromUtf8 (JsonText.utf8 text.toList) = some text := by
  rw [fromUtf8, utf8Chars_utf8, Option.map_some, String.ofList_toList]

/-- Bounds that the reader takes: numbers of 32 bits, and ten million elements at most. -/
def BoundsFit (bounds : List ℤ) (lengths : List ℕ) : Prop :=
  List.Forall₂ (fun (lower : ℤ) (length : ℕ) =>
    -2 ^ 31 ≤ lower ∧ 0 < length ∧ lower + length - 1 < 2 ^ 31 ∧ length ≤ 10000000) bounds lengths

theorem boundsText_out {bounds : List ℤ} {lengths : List ℕ} (h : BoundsFit bounds lengths) :
    BoundsText bounds (boundsOut bounds lengths) := by
  induction h with
  | nil => exact .nil
  | @cons lower length bounds lengths hfit _ ih =>
    obtain ⟨hlow, hpos, hupper, hlength⟩ := hfit
    have hbound := BoundText.bound
      (fromUtf8_utf8 (toString lower)) (parseSigned_toString (by omega) (by omega))
      (fromUtf8_utf8 (toString (lower + length - 1)))
      (parseSigned_toString (by omega) (by omega))
      (byte_not_mem_toString _ (by decide) (by decide))
      (byte_not_mem_toString _ (by decide) (by decide)) (by omega)
    simpa [boundsOut] using BoundsText.cons hbound ih

/-- A printed array is a text of its tree, with the bounds unless all of them are one. -/
theorem arrayText_out (hd : Delimits delimiter) {bounds : List ℤ} {lengths : List ℕ}
    {children : List ArrayNode} (h : BoundsFit bounds lengths) :
    ArrayText delimiter (.branch children) (if bounds.all (· == 1) then none else some bounds)
      (arrayOut delimiter bounds lengths (.branch children)) := by
  unfold arrayOut
  split
  · exact .plain (nodeText_out hd _)
  · next hbounds =>
    refine .bounded ?_ (boundsText_out h) (nodeText_out hd _)
    rintro rfl
    exact hbounds rfl

/-! ## The elements of an array -/

/-- The tree of an array with the lengths of its dimensions, and its elements one after another. -/
def Rect : List ℕ → ArrayNode → List RawValue → Prop
  | [], node, values => ∃ value, node = .leaf value ∧ values = [value]
  | length :: shape, node, values => ∃ children parts, node = .branch children ∧
      children.length = length ∧ (length = 0 → shape = []) ∧
      List.Forall₂ (Rect shape) children parts ∧ values = parts.flatten

mutual

/-- The tree is flattened exactly if it is rectangular. -/
theorem flattenArray_eq_ok (node : ArrayNode) {shape : List ℕ} {values : List RawValue} :
    flattenArray node = .ok (shape, values) ↔ Rect shape node values := by
  match node with
  | .leaf value =>
    rw [flattenArray, Except.ok.injEq, Prod.mk.injEq]
    cases shape with
    | nil => simp [Rect, eq_comm]
    | cons length shape => simp [Rect]
  | .branch [] =>
    rw [flattenArray, Except.ok.injEq, Prod.mk.injEq]
    cases shape with
    | nil => simp [Rect]
    | cons length shape =>
      simp only [Rect, List.cons.injEq]
      constructor
      · rintro ⟨⟨rfl, rfl⟩, rfl⟩
        exact ⟨[], [], rfl, rfl, fun _ => rfl, .nil, rfl⟩
      · rintro ⟨children, parts, heq, rfl, hshape, hparts, rfl⟩
        cases heq
        cases hparts
        exact ⟨⟨rfl, (hshape rfl).symm⟩, rfl⟩
  | .branch (child :: children) =>
    simp only [flattenArray, pure_eq, bind_eq_ok, Except.ok.injEq, Prod.mk.injEq]
    constructor
    · rintro ⟨⟨inner, first⟩, hfirst, rest, hrest, rfl, rfl⟩
      obtain ⟨parts, hparts, rfl⟩ := (flattenChildren_eq_ok children).mp hrest
      exact ⟨_, first :: parts, rfl, rfl, nofun,
        .cons ((flattenArray_eq_ok child).mp hfirst) hparts, rfl⟩
    · intro h
      cases shape with
      | nil =>
        obtain ⟨value, heq, -⟩ := h
        cases heq
      | cons length shape =>
        obtain ⟨children', parts, heq, rfl, -, hparts, rfl⟩ := h
        cases heq
        cases hparts with
        | @cons _ first _ parts hfirst hrest =>
          exact ⟨(shape, first), (flattenArray_eq_ok child).mpr hfirst, _,
            (flattenChildren_eq_ok children).mpr ⟨parts, hrest, rfl⟩, rfl, rfl⟩

theorem flattenChildren_eq_ok (children : List ArrayNode) {shape : List ℕ} {flat : List RawValue} :
    flattenChildren shape children = .ok flat ↔
      ∃ parts, List.Forall₂ (Rect shape) children parts ∧ flat = parts.flatten := by
  match children with
  | [] =>
    rw [flattenChildren, Except.ok.injEq]
    constructor
    · rintro rfl
      exact ⟨[], .nil, rfl⟩
    · rintro ⟨parts, hparts, rfl⟩
      cases hparts
      rfl
  | child :: children =>
    simp only [flattenChildren, throw_eq, pure_eq, error_bind, guard_eq_ok, bind_eq_ok,
      Except.ok.injEq]
    constructor
    · rintro ⟨⟨inner, first⟩, hfirst, hsame, rest, hrest, rfl⟩
      obtain rfl : shape = inner := not_ne_iff.mp hsame
      obtain ⟨parts, hparts, rfl⟩ := (flattenChildren_eq_ok children).mp hrest
      exact ⟨first :: parts, .cons ((flattenArray_eq_ok child).mp hfirst) hparts, rfl⟩
    · rintro ⟨parts, hparts, rfl⟩
      cases hparts with
      | @cons _ first _ parts hfirst hrest =>
        exact ⟨(shape, first), (flattenArray_eq_ok child).mpr hfirst, not_ne_iff.mpr rfl, _,
          (flattenChildren_eq_ok children).mpr ⟨parts, hrest, rfl⟩, rfl⟩

end

/-- An array has as many elements as its dimensions say. -/
theorem Rect.length {shape : List ℕ} {node : ArrayNode} {values : List RawValue}
    (h : Rect shape node values) : values.length = shape.prod := by
  induction shape generalizing node values with
  | nil =>
    obtain ⟨value, -, rfl⟩ := h
    rfl
  | cons length shape ih =>
    obtain ⟨children, parts, -, rfl, -, hparts, rfl⟩ := h
    rw [List.prod_cons, List.length_flatten]
    induction hparts with
    | nil => simp
    | cons hfirst _ ihparts =>
      rw [List.map_cons, List.sum_cons, ih hfirst, ihparts, List.length_cons, Nat.succ_mul,
        Nat.add_comm]

end DatabaseSync.PostgresqlSource
