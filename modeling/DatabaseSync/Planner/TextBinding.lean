import DatabaseSync.Planner.Rules
import Mathlib.Algebra.Order.BigOperators.Group.List

/-! # Exact text bindings

The planner calls the binding of two text types exact by the names of their character sets and
their lengths. Which texts the types hold is a matter of the characters in these sets: the one
PostgreSQL calls `UTF8` holds all of them, the one MySQL calls `utf8` those of three bytes.
-/

namespace DatabaseSync.Planner

open Text

/-- The names that are compared and nothing more: what they hold is up to the server. -/
structure OtherCharsets where
  holds : String → Char → Bool
  width : String → Char → ℕ

/-- The length limit of a text type, in characters or in bytes of its character set. -/
structure TextType where
  charset : String
  maxLength : Option ℕ
  lengthUnit : LengthUnit
deriving DecidableEq, Repr

def LogicalType.textType? : LogicalType → Option TextType
  | .text charset maxLength lengthUnit _ => some ⟨charset, maxLength, lengthUnit⟩
  | _ => none

/-! ## What a text type holds -/

section Meaning

variable (other : OtherCharsets)

/-- The character set of a name. PostgreSQL's types carry the name `UTF8` in capitals, MySQL's
names are the same in any case. -/
def holds (charset : String) (c : Char) : Bool :=
  if charset = "UTF8" then true
  else if toAsciiLowercase charset = "utf8mb4" then true
  else if toAsciiLowercase charset = "utf8" ∨ toAsciiLowercase charset = "utf8mb3" then
    c.utf8Size ≤ 3
  else if toAsciiLowercase charset = "ascii" then c.toNat ≤ 0x7f
  else other.holds (toAsciiLowercase charset) c

/-- The bytes of a character in the character set. -/
def width (charset : String) (c : Char) : ℕ :=
  if ["utf8", "utf8mb3", "utf8mb4", "ascii"].contains (toAsciiLowercase charset) then c.utf8Size
  else other.width (toAsciiLowercase charset) c

def TextType.measure (type : TextType) (text : List Char) : ℕ :=
  match type.lengthUnit with
  | .characters => text.length
  | .bytes => (text.map (width other type.charset)).sum

/-- The text is in the character set of the type. -/
def TextType.Represents (type : TextType) (text : List Char) : Prop :=
  ∀ c ∈ text, holds other type.charset c = true

/-- The text is within the length of the type. -/
def TextType.Fits (type : TextType) (text : List Char) : Prop :=
  ∀ limit, type.maxLength = some limit → type.measure other text ≤ limit

/-- A value of the type. -/
def TextType.Admits (type : TextType) (text : List Char) : Prop :=
  type.Represents other text ∧ type.Fits other text

/-- Every value of the source type is a value of the target type. -/
def Lossless (source target : TextType) : Prop :=
  ∀ text, source.Admits other text → target.Represents other text ∧ target.Fits other text

end Meaning

/-! ## The encoder of converted texts -/

/-- `encode_supported_text`, the encoder of a text that is converted to a character set. -/
def encodeSupportedText (charset text : String) : Except String (List UInt8) :=
  let name := toAsciiLowercase charset
  if name = "utf8" ∨ name = "utf-8" then
    if text.toList.any (fun c => c.utf8Size > 3) then
      .error "target_capability.text_character_unrepresentable"
    else .ok (text.toList.flatMap String.utf8EncodeChar)
  else if name = "utf8mb4" then .ok (text.toList.flatMap String.utf8EncodeChar)
  else if name = "ascii" then
    if text.toList.any (fun c => c.toNat > 0x7f) then
      .error "target_capability.text_character_unrepresentable"
    else .ok (text.toList.flatMap String.utf8EncodeChar)
  else if name = "latin1" ∨ name = "iso-8859-1" then
    text.toList.mapM fun c =>
      if c.toNat < 256 then .ok (UInt8.ofNat c.toNat)
      else .error "target_capability.text_character_unrepresentable"
  else .error "target_capability.text_charset_unsupported"

/-! ## Names of character sets -/

theorem eqIgnoreAsciiCase_iff {s t : String} :
    eqIgnoreAsciiCase s t = true ↔ toAsciiLowercase s = toAsciiLowercase t := by
  rw [eqIgnoreAsciiCase, beq_iff_eq, toAsciiLowercase, toAsciiLowercase, String.ofList_inj]

theorem lowercase_utf8 : toAsciiLowercase "utf8" = "utf8" := by decide
theorem lowercase_utf8mb4 : toAsciiLowercase "utf8mb4" = "utf8mb4" := by decide
theorem lowercase_UTF8 : toAsciiLowercase "UTF8" = "utf8" := by decide

/-- Compatible names are one name, or name two sets of UTF-8 text of which the target's is
complete. -/
theorem compatible_cases {source target : String}
    (h : textCharsetsAreCompatible source target = true) :
    toAsciiLowercase source = toAsciiLowercase target ∨
      ((toAsciiLowercase source = "utf8" ∨ toAsciiLowercase source = "utf8mb4") ∧
        (target = "UTF8" ∨ toAsciiLowercase target = "utf8mb4")) := by
  simp only [textCharsetsAreCompatible, Bool.or_eq_true, Bool.and_eq_true, beq_iff_eq,
    eqIgnoreAsciiCase_iff, lowercase_utf8, lowercase_utf8mb4] at h
  rcases h with ((h | ⟨rfl, h⟩) | ⟨rfl, h⟩) | ⟨hsource, htarget⟩
  · exact .inl h
  · exact .inr ⟨h, .inl rfl⟩
  · exact .inr ⟨.inl lowercase_UTF8, .inr h⟩
  · exact .inr ⟨.inl hsource, .inr htarget⟩

/-- `UTF8` of PostgreSQL meets the `utf8` of MySQL. -/
def NarrowingUtf8 (source target : String) : Prop :=
  source = "UTF8" ∧ target ≠ "UTF8" ∧ toAsciiLowercase target = "utf8"

section Compatible

variable {other : OtherCharsets} {source target : String}

theorem holds_complete (h : target = "UTF8" ∨ toAsciiLowercase target = "utf8mb4") (c : Char) :
    holds other target c = true := by
  unfold holds
  by_cases hname : target = "UTF8"
  · rw [if_pos hname]
  · rw [if_neg hname, if_pos (h.resolve_left hname)]

/-- Compatible names keep every character, but for `UTF8` to `utf8`. -/
theorem holds_of_compatible (h : textCharsetsAreCompatible source target = true)
    (hwide : ¬ NarrowingUtf8 source target) {c : Char} (hc : holds other source c = true) :
    holds other target c = true := by
  rcases compatible_cases h with hsame | ⟨-, htarget⟩
  · by_cases hcomplete : target = "UTF8"
    · exact holds_complete (.inl hcomplete) c
    · have hsource : source ≠ "UTF8" := by
        rintro rfl
        exact hwide ⟨rfl, hcomplete, by rw [← hsame, lowercase_UTF8]⟩
      rw [holds, if_neg hsource, hsame] at hc
      rwa [holds, if_neg hcomplete]
  · exact holds_complete htarget c

theorem width_of_compatible (h : textCharsetsAreCompatible source target = true) (c : Char) :
    width other source c = width other target c := by
  rcases compatible_cases h with hsame | ⟨hsource, htarget⟩
  · rw [width, width, hsame]
  · have htargetName : toAsciiLowercase target = "utf8" ∨ toAsciiLowercase target = "utf8mb4" := by
      rcases htarget with rfl | htarget
      · exact .inl lowercase_UTF8
      · exact .inr htarget
    rw [width, width]
    rcases hsource with hsource | hsource <;> rcases htargetName with htarget | htarget <;>
      rw [hsource, htarget] <;> rfl

end Compatible

/-! ## Exact bindings -/

/-- What the planner's check compares of two text types. -/
theorem textBinding_ok {source target : FieldDefinition} {s t : TextType}
    (hsource : source.logicalType.textType? = some s)
    (htarget : target.logicalType.textType? = some t)
    (h : textBindingIsExact source target = true) :
    textCharsetsAreCompatible s.charset t.charset = true ∧ s.maxLength = t.maxLength ∧
      s.lengthUnit = t.lengthUnit := by
  unfold textBindingIsExact at h
  cases hs : source.logicalType with
  | text charset maxLength lengthUnit collation =>
    cases ht : target.logicalType with
    | text charset' maxLength' lengthUnit' collation' =>
      rw [hs] at hsource
      rw [ht] at htarget
      cases hsource
      cases htarget
      simp only [hs, ht, Bool.and_eq_true, beq_iff_eq] at h
      exact ⟨h.1.1.1, h.1.1.2, h.1.2⟩
    | _ =>
      rw [ht] at htarget
      cases htarget
  | _ =>
    rw [hs] at hsource
    cases hsource

/-- A type of `UTF8` with room for one character of four bytes. -/
def TextType.RoomForFour (type : TextType) : Prop :=
  ∀ limit, type.maxLength = some limit →
    match type.lengthUnit with
    | .characters => 1 ≤ limit
    | .bytes => 4 ≤ limit

/-- Where a character of four bytes has no room every character has three at most. -/
theorem utf8Size_le_of_no_room {other : OtherCharsets} {type : TextType} {text : List Char}
    (hname : type.charset = "UTF8") (hroom : ¬ type.RoomForFour) (hfits : type.Fits other text)
    {c : Char} (hc : c ∈ text) : c.utf8Size ≤ 3 := by
  unfold TextType.RoomForFour at hroom
  push Not at hroom
  obtain ⟨limit, hlimit, hroom⟩ := hroom
  have hmeasure := hfits limit hlimit
  unfold TextType.measure at hmeasure
  cases hunit : type.lengthUnit with
  | characters =>
    simp only [hunit] at hroom hmeasure
    have hpos := List.length_pos_of_mem hc
    omega
  | bytes =>
    simp only [hunit] at hroom hmeasure
    have hwidth : width other type.charset c = c.utf8Size := by
      rw [width, hname, lowercase_UTF8, if_pos (by decide)]
    have hle : width other type.charset c ≤ (text.map (width other type.charset)).sum :=
      List.single_le_sum (fun _ _ => Nat.zero_le _) _ (List.mem_map_of_mem hc)
    omega

/-- The grinning face, U+1F600. -/
def face : Char := Char.ofNat 0x1F600

theorem not_holds_face {other : OtherCharsets} {charset : String} (hname : charset ≠ "UTF8")
    (h : toAsciiLowercase charset = "utf8") : holds other charset face = false := by
  rw [holds, if_neg hname, h, if_neg (by decide), if_pos (.inl rfl)]
  decide

/-- An exact binding of two text types loses no value, unless it narrows PostgreSQL's `UTF8` to
MySQL's `utf8` in a column with room for a character of four bytes. -/
theorem exact_text_lossless_iff (other : OtherCharsets) {source target : FieldDefinition}
    {s t : TextType} (hsource : source.logicalType.textType? = some s)
    (htarget : target.logicalType.textType? = some t)
    (h : textBindingIsExact source target = true) :
    Lossless other s t ↔ ¬ (NarrowingUtf8 s.charset t.charset ∧ s.RoomForFour) := by
  obtain ⟨hcharset, hlength, hunit⟩ := textBinding_ok hsource htarget h
  have hmeasure : ∀ text, t.measure other text = s.measure other text := by
    intro text
    unfold TextType.measure
    rw [← hunit]
    cases s.lengthUnit with
    | characters => rfl
    | bytes =>
      have hwidth : width other s.charset = width other t.charset :=
        funext fun c => width_of_compatible hcharset c
      simp only [hwidth]
  constructor
  · rintro hlossless ⟨⟨hname, htargetName, hlower⟩, hroom⟩
    have hadmits : s.Admits other [face] := by
      constructor
      · intro c _
        rw [holds, if_pos hname]
      · intro limit hlimit
        have hroom := hroom limit hlimit
        unfold TextType.measure
        cases hunits : s.lengthUnit with
        | characters =>
          rw [hunits] at hroom
          exact hroom
        | bytes =>
          rw [hunits] at hroom
          have hwidth : width other s.charset face = 4 := by
            rw [width, hname, lowercase_UTF8, if_pos (by decide)]
            decide
          simpa [hwidth] using hroom
    have hrepresents := (hlossless [face] hadmits).1 face List.mem_cons_self
    rw [not_holds_face htargetName hlower] at hrepresents
    cases hrepresents
  · intro hwide text hadmits
    obtain ⟨hrepresents, hfits⟩ := hadmits
    constructor
    · intro c hc
      by_cases hnarrow : NarrowingUtf8 s.charset t.charset
      · have hsize := utf8Size_le_of_no_room hnarrow.1 (fun hroom => hwide ⟨hnarrow, hroom⟩)
          hfits hc
        obtain ⟨-, hname, hlower⟩ := hnarrow
        rw [holds, if_neg hname, hlower, if_neg (by decide), if_pos (.inl rfl)]
        exact decide_eq_true hsize
      · exact holds_of_compatible hcharset hnarrow (hrepresents c hc)
    · intro limit hlimit
      rw [hmeasure]
      exact hfits limit (hlength.trans hlimit)

section Sample

def noteField (nativeType charset : String) : FieldDefinition where
  reference := ⟨"catalog:shop.orders.note", "note"⟩
  ordinal := 0
  name := "note"
  nativeType := nativeType
  logicalType := .text charset (some 10) .characters none
  nullable := true
  collation := none
  generated := false
  primaryKeyOrdinal := none
  unique := false
  rowLocator := false

def noteType (charset : String) : TextType := ⟨charset, some 10, .characters⟩

theorem exact_text_lossless_iff_utf8mb4 :
    textBindingIsExact (noteField "character varying(10)" "UTF8")
      (noteField "varchar(10)" "utf8mb4") = true ∧
    (Lossless ⟨fun _ _ => false, fun _ _ => 1⟩ (noteType "UTF8") (noteType "utf8mb4") ↔
      ¬ (NarrowingUtf8 "UTF8" "utf8mb4" ∧ (noteType "UTF8").RoomForFour)) :=
  ⟨by decide, exact_text_lossless_iff _
    (rfl : (noteField "character varying(10)" "UTF8").logicalType.textType? =
      some (noteType "UTF8"))
    (rfl : (noteField "varchar(10)" "utf8mb4").logicalType.textType? = some (noteType "utf8mb4"))
    (by decide)⟩

/-- PostgreSQL's `varchar(10)` to a `varchar(10)` of MySQL's three-byte `utf8`. -/
theorem narrowing_not_lossless :
    textBindingIsExact (noteField "character varying(10)" "UTF8")
      (noteField "varchar(10)" "utf8") = true ∧
    ¬ Lossless ⟨fun _ _ => false, fun _ _ => 1⟩ (noteType "UTF8") (noteType "utf8") := by
  constructor
  · decide
  · intro hlossless
    have hadmits : (noteType "UTF8").Admits ⟨fun _ _ => false, fun _ _ => 1⟩ [face] := by
      constructor
      · rintro c -
        rfl
      · rintro limit ⟨⟩
        decide
    have hface := (hlossless [face] hadmits).1 face List.mem_cons_self
    revert hface
    decide

end Sample

end DatabaseSync.Planner
