import DatabaseSync.Planner.Charsets
import DatabaseSync.Planner.Manifest
import DatabaseSync.Planner.TextPlan

/-! # Converted texts in their columns

A converted text is to stand for the characters of its source value, in the character set of the
target column and within its length. The conversion of texts checks all of this, that of JSON
documents no length, and a plan without conversion nothing at all.
-/

namespace DatabaseSync.Planner

open ChangeEvent Checked Machine TargetRepresentation Text

/-! ## Values and their texts -/

section Meaning

variable (servers : ServerCharsets)

def TextType.lengthOf (type : TextType) (bytes : List UInt8) (text : List Char) : ℕ :=
  match type.lengthUnit with
  | .bytes => bytes.length
  | .characters => text.length

/-- The bytes are the text in the character set of the type and within its length. -/
structure TextType.Stores (type : TextType) (bytes : List UInt8) (text : List Char) : Prop where
  spelled : Spells servers type.charset bytes text
  fits : ∀ limit, type.maxLength = some limit → type.lengthOf bytes text ≤ limit

/-- The characters that a value of a source column stands for: those of its bytes, or the
normalized text of its document. -/
inductive SourceText (serde : SerdeJson) : LogicalType → LogicalValue → List Char → Prop
  | text {source : LogicalType} {type : TextType} {charset bytesBase64url : String}
      {declared : Option String} {bytes : List UInt8} {text : List Char} :
      source.textType? = some type → eqIgnoreAsciiCase charset type.charset = true →
      Base64.decode bytesBase64url = some bytes → type.Stores servers bytes text →
      SourceText serde source (.text charset bytesBase64url declared) text
  | json {profile : JsonProfile} {document : JsonValue} {normalized : String} :
      renderNormalizedJson serde document = .ok normalized →
      SourceText serde (.json profile) (.json document) normalized.toList

/-- The value is a text of the target column that stands for the characters. -/
def StoredAs (target : TextType) (value : LogicalValue) (text : List Char) : Prop :=
  ∃ charset bytesBase64url declared bytes,
    value = .text charset bytesBase64url declared ∧ Base64.decode bytesBase64url = some bytes ∧
      target.Stores servers bytes text

end Meaning

/-! ## What the conversion computes -/

section Conversion

variable {rules : ValueRules} {serde : SerdeJson} {plan : ChangeEvent.ColumnConversionPlan}
  {value result : LogicalValue}

theorem requiredTextParameter_eq_ok {name charset : String}
    (h : plan.target.parameters.lookup name = some charset) (hfilled : charset.isEmpty = false) :
    requiredTextParameter plan name = .ok charset := by
  rw [requiredTextParameter, h, ColumnConversionPlan.needs_eq_ok]
  simp [hfilled]

/-- A number is not the word for an unbounded length. -/
theorem toString_ne_unbounded (n : ℕ) : eqIgnoreAsciiCase (toString n) "unbounded" = false := by
  rw [Bool.eq_false_iff, Ne, eqIgnoreAsciiCase_iff]
  intro h
  have hfirst : 'u' ∈ (toAsciiLowercase (toString n)).toList := by
    rw [h]
    decide
  rw [toList_toAsciiLowercase, List.mem_map] at hfirst
  obtain ⟨c, hc, hlower⟩ := hfirst
  have hdigit : isAsciiDigit c = true := isAsciiDigit_of_mem (n := n) (by simpa using hc)
  rw [← isAsciiDigit_toAsciiLower, hlower] at hdigit
  revert hdigit
  decide

/-- The declared length is the limit that a text is compared with. -/
theorem textLengthLimit_eq_ok {limit : ℕ} {length : Option ℕ}
    (hlookup : plan.target.parameters.lookup "target_length" = some (formatLength (some limit)))
    (h : textLengthLimit plan = .ok length) : length = some limit := by
  simp only [textLengthLimit, hlookup, bind_eq_ok, ColumnConversionPlan.needs_eq_ok,
    Option.some.injEq] at h
  obtain ⟨_, rfl, h⟩ := h
  have hnumber : eqIgnoreAsciiCase (formatLength (some limit)) "unbounded" = false :=
    toString_ne_unbounded limit
  rw [if_neg (by rw [hnumber]; exact Bool.false_ne_true)] at h
  simp only [bind_eq_ok, ColumnConversionPlan.needs_eq_ok, pure_eq, Except.ok.injEq] at h
  obtain ⟨parsed, hparsed, rfl⟩ := h
  have hdigits : parseU64 (formatLength (some limit)) =
      if decimalValue (Nat.toDigits 10 limit) < 2 ^ 64 then
        some (decimalValue (Nat.toDigits 10 limit)) else none :=
    parseUnsigned_of_digits Nat.toDigits_ne_nil (toDigits_digits limit)
  rw [hdigits, decimalValue_toDigits] at hparsed
  split at hparsed
  · exact hparsed.symm
  · cases hparsed

theorem measuredLength_formatLengthUnit (t : TextType) (encoded : List UInt8) (decoded : String) :
    measuredLength encoded decoded (formatLengthUnit t.lengthUnit) =
      some (t.lengthOf encoded decoded.toList) := by
  unfold TextType.lengthOf
  cases t.lengthUnit with
  | bytes => rfl
  | characters => rfl

/-- A plan without carrier and without range kind goes by its conversion kind. -/
theorem validateValueAgainstPlan_eq (hcarrier : plan.conversionKind ≠ some "logical_value_json")
    (hsource : plan.conversionKind ≠ some "source_representation")
    (hrange : plan.target.parameters.lookup "range_kind" = none)
    (hvalue : acceptsSpecialValue plan value = .ok false) :
    validateValueAgainstPlan rules serde plan value =
      validateConversionValue rules serde plan value := by
  have hranged : validateRangeValue rules serde plan value =
      validateConversionValue rules serde plan value := by
    simp only [validateRangeValue, hrange, hvalue, Option.isNone_none, Bool.true_or, reduceCtorEq,
      if_false]
    rfl
  unfold validateValueAgainstPlan
  split
  · next hkind =>
    exact absurd hkind hcarrier
  · next hkind =>
    exact absurd hkind hsource
  · exact hranged

/-- A converted text has been decoded, encoded for the target and measured. -/
theorem convertValueWithPlan_text {t : TextType} (hkind : plan.conversionKind = some "text")
    (hrange : plan.target.parameters.lookup "range_kind" = none)
    (hdeclares : DeclaresColumn plan.target t)
    (h : convertValueWithPlan rules serde plan value = .ok result) :
    ∃ charset bytesBase64url declared bytes decoded targetCharset encoded,
      value = .text charset bytesBase64url declared ∧
      Base64.decode bytesBase64url = some bytes ∧
      decodeSupportedText charset bytes declared = .ok decoded ∧
      textCharsetSupported targetCharset = true ∧
      eqIgnoreAsciiCase targetCharset t.charset = true ∧
      encodeSupportedText targetCharset decoded = .ok encoded ∧
      (∀ limit, t.maxLength = some limit → t.lengthOf encoded decoded.toList ≤ limit) ∧
      result = .text targetCharset (Base64.encode encoded) (some decoded) := by
  simp only [convertValueWithPlan, hkind, bind_eq_ok, refusing_eq_ok] at h
  obtain ⟨_, hvalid, hconverted⟩ := h
  obtain ⟨targetCharset, hlookup, hfilled, hsupported, hname⟩ := hdeclares.charset
  have hcharset := requiredTextParameter_eq_ok hlookup hfilled
  cases value with
  | text charset bytesBase64url declared =>
    simp only [convertTextValue, hcharset, bind_eq_ok, ColumnConversionPlan.needs_eq_ok,
      mapError_eq_ok, ok_bind, pure_eq, Except.ok.injEq] at hconverted
    obtain ⟨bytes, hbytes, decoded, hdecoded, encoded, hencoded, rfl⟩ := hconverted
    refine ⟨charset, bytesBase64url, declared, bytes, decoded, targetCharset, encoded, rfl, hbytes,
      hdecoded, hsupported, hname, hencoded, ?_, rfl⟩
    intro limit hlimit
    have hlength := hdeclares.length
    rw [hlimit] at hlength
    have hunit := hdeclares.lengthUnit
    rw [parameter] at hlength hunit
    rw [validateValueAgainstPlan_eq (by rw [hkind]; decide) (by rw [hkind]; decide) hrange rfl]
      at hvalid
    simp only [validateConversionValue, hkind, validateTextPlanValue, hcharset, hunit, bind_eq_ok,
      ColumnConversionPlan.needs_eq_ok, mapError_eq_ok, ColumnConversionPlan.check_eq_ok,
      Except.ok.injEq, hbytes, Option.some.injEq] at hvalid
    obtain ⟨_, rfl, decoded', hdecoded', _, rfl, encoded', hencoded', length, hlimited, _, rfl,
      actual, hactual, -, hfits, -⟩ := hvalid
    obtain rfl := Except.ok.inj (hdecoded.symm.trans hdecoded')
    obtain rfl := Except.ok.inj (hencoded.symm.trans hencoded')
    obtain rfl := textLengthLimit_eq_ok hlength hlimited
    rw [measuredLength_formatLengthUnit, Option.some.injEq] at hactual
    subst hactual
    simpa using hfits
  | _ => cases hconverted

/-- A converted document has been rendered and encoded, but not measured. -/
theorem convertValueWithPlan_json {t : TextType} (hkind : plan.conversionKind = some "json")
    (hdeclares : DeclaresColumn plan.target t)
    (h : convertValueWithPlan rules serde plan value = .ok result) :
    ∃ document normalized targetCharset encoded,
      value = .json document ∧ renderNormalizedJson serde document = .ok normalized ∧
      textCharsetSupported targetCharset = true ∧
      eqIgnoreAsciiCase targetCharset t.charset = true ∧
      encodeSupportedText targetCharset normalized = .ok encoded ∧
      result = .text targetCharset (Base64.encode encoded) (some normalized) := by
  simp only [convertValueWithPlan, hkind, bind_eq_ok, refusing_eq_ok] at h
  obtain ⟨-, -, hconverted⟩ := h
  obtain ⟨targetCharset, hlookup, hfilled, hsupported, hname⟩ := hdeclares.charset
  have hcharset := requiredTextParameter_eq_ok hlookup hfilled
  cases value with
  | json document =>
    simp only [convertJsonValue, hcharset, bind_eq_ok, ColumnConversionPlan.check_eq_ok,
      mapError_eq_ok, ok_bind, pure_eq, Except.ok.injEq] at hconverted
    obtain ⟨-, -, -, -, normalized, hnormalized, encoded, hencoded, rfl⟩ := hconverted
    exact ⟨document, normalized, targetCharset, encoded, rfl, hnormalized, hsupported, hname,
      hencoded, rfl⟩
  | _ => cases hconverted

/-- A value whose plan has no rule for it is not changed. -/
theorem convertValueWithPlan_none (hkind : plan.conversionKind = none)
    (hstrategy : plan.target.parameters.lookup "value_strategy" = none)
    (h : convertValueWithPlan rules serde plan value = .ok result) : result = value := by
  simp only [convertValueWithPlan, hkind, hstrategy, bind_eq_ok, pure_eq, Except.ok.injEq] at h
  obtain ⟨-, -, hsame⟩ := h
  exact hsame.symm

end Conversion

/-! ## Which converted texts their columns hold -/

/-- The normalized text of the document is in the character set of the column, but longer than the
column. -/
def Overlong (serde : SerdeJson) (target : TextType) (value : LogicalValue) : Prop :=
  ∃ document normalized encoded limit, value = .json document ∧
    renderNormalizedJson serde document = .ok normalized ∧
    encodeSupportedText target.charset normalized = .ok encoded ∧
    target.maxLength = some limit ∧ limit < target.lengthOf encoded normalized.toList

/-- A plan without conversion takes a character of four bytes from `UTF8` to MySQL's `utf8`. -/
def Narrowed (plan : ChangeEvent.ColumnConversionPlan) (source : LogicalType) (target : TextType)
    (text : List Char) : Prop :=
  plan.conversionKind = none ∧
    (∃ s, source.textType? = some s ∧ NarrowingUtf8 s.charset target.charset) ∧
    ∃ c ∈ text, 3 < c.utf8Size

/-- A character goes from `latin1` to another character set, or the other way, whose byte there is
not its code point. -/
def Misplaced (servers : ServerCharsets) (source : LogicalType) (target : TextType)
    (text : List Char) : Prop :=
  source.textType?.any (isLatin1 ·.charset) ≠ isLatin1 target.charset ∧
    ∃ c ∈ text, ¬ InPlace servers c

section Columns

variable {servers : ServerCharsets} {rules : ValueRules} {serde : SerdeJson}
  {plan : ChangeEvent.ColumnConversionPlan} {source : LogicalType} {target : TextType}
  {value result : LogicalValue} {text : List Char}

theorem storedAs_text_iff {charset : String} {declared : Option String} {encoded : List UInt8} :
    StoredAs servers target (.text charset (Base64.encode encoded) declared) text ↔
      target.Stores servers encoded text := by
  constructor
  · rintro ⟨_, _, _, bytes, hvalue, hbytes, hstores⟩
    cases hvalue
    rw [Base64.decode_encode] at hbytes
    rwa [Option.some.inj hbytes]
  · intro hstores
    exact ⟨_, _, _, encoded, rfl, Base64.decode_encode encoded, hstores⟩

theorem not_misplaced_iff : ¬ Misplaced servers source target text ↔
    (source.textType?.any (isLatin1 ·.charset) ≠ isLatin1 target.charset →
      ∀ c ∈ text, InPlace servers c) := by
  simp [Misplaced]

theorem lengthOf_congr {encoded : List UInt8} {text' : List Char}
    (h : text.length = text'.length) :
    target.lengthOf encoded text = target.lengthOf encoded text' := by
  unfold TextType.lengthOf
  rw [h]

/-- A taken-over text stands in its column for what it stood for. -/
theorem storedAs_exact_iff {source target : FieldDefinition} {t : TextType}
    (htarget : target.logicalType.textType? = some t)
    (hexact : textBindingIsExact source target = true) (hkind : plan.conversionKind = none)
    (hisText : source.logicalType.isText = true)
    (hvalue : SourceText servers serde source.logicalType value text) :
    StoredAs servers t value text ↔
      ¬ (Overlong serde t value ∨ Narrowed plan source.logicalType t text ∨
        Misplaced servers source.logicalType t text) := by
  generalize htype : source.logicalType = type at *
  cases hvalue with
  | json => cases hisText
  | @text _ s charset bytesBase64url declared bytes text hs hname hbytes hstores =>
    obtain ⟨hcompatible, hlength, hunit⟩ := textBinding_ok (htype ▸ hs) htarget hexact
    have hlatin : isLatin1 s.charset = isLatin1 t.charset := by
      rcases compatible_cases hcompatible with hsame | ⟨hsource, hcomplete⟩
      · rw [isLatin1, isLatin1, hsame]
      · have hnotSource : isLatin1 s.charset = false := by
          rcases hsource with hsource | hsource
          · rw [isLatin1, hsource]
            rfl
          · rw [isLatin1, hsource]
            rfl
        have hnotTarget : isLatin1 t.charset = false := by
          rcases hcomplete with hcomplete | hcomplete
          · rw [hcomplete]
            decide
          · rw [isLatin1, hcomplete]
            rfl
        rw [hnotSource, hnotTarget]
    have hspells := spells_compatible_iff hcompatible hstores.spelled
    have hstored : StoredAs servers t (.text charset bytesBase64url declared) text ↔
        t.Stores servers bytes text := by
      constructor
      · rintro ⟨_, _, _, bytes', heq, hbytes', hstored⟩
        cases heq
        rwa [← Option.some.inj (hbytes'.symm.trans hbytes)]
      · intro hstored
        exact ⟨_, _, _, bytes, rfl, hbytes, hstored⟩
    rw [hstored]
    constructor
    · rintro hstored (⟨_, _, _, _, heq, -⟩ | ⟨-, ⟨s', hs', hnarrow⟩, hwide⟩ | ⟨hother, -⟩)
      · cases heq
      · rw [hs, Option.some.injEq] at hs'
        subst hs'
        exact hspells.mp hstored.spelled ⟨hnarrow, hwide⟩
      · rw [hs, Option.any_some, hlatin] at hother
        exact hother rfl
    · intro hfine
      constructor
      · rw [hspells]
        rintro ⟨hnarrow, hwide⟩
        exact hfine (.inr (.inl ⟨hkind, ⟨s, hs, hnarrow⟩, hwide⟩))
      · intro limit hlimit
        have hfits := hstores.fits limit (hlength.trans hlimit)
        unfold TextType.lengthOf at *
        rwa [← hunit]

/-- A converted text stands in its column for what it stood for, unless a character of `latin1` is
misplaced. -/
theorem storedAs_text_conversion_iff (hisText : source.isText = true)
    (hkind : plan.conversionKind = some "text")
    (hrange : plan.target.parameters.lookup "range_kind" = none)
    (hsupported : ∀ s, source.textType? = some s → textCharsetSupported s.charset = true)
    (hdeclares : DeclaresColumn plan.target target)
    (hvalue : SourceText servers serde source value text)
    (haccepts : convertValueWithPlan rules serde plan value = .ok result) :
    StoredAs servers target result text ↔
      ¬ (Overlong serde target value ∨ Narrowed plan source target text ∨
        Misplaced servers source target text) := by
  obtain ⟨charset, bytesBase64url, declared, bytes, decoded, targetCharset, encoded, rfl, hbytes,
    hdecoded, htargetSupported, hname, hencoded, hfits, rfl⟩ :=
    convertValueWithPlan_text hkind hrange hdeclares haccepts
  cases hvalue with
  | @text _ s _ _ _ bytes' _ hs hsourceName hbytes' hstores =>
    obtain rfl := Option.some.inj (hbytes.symm.trans hbytes')
    rw [decodeSupportedText_congr hsourceName] at hdecoded
    rw [encodeSupportedText_congr hname] at hencoded
    have htargetCharset : textCharsetSupported target.charset = true := by
      rw [textCharsetSupported, ← eqIgnoreAsciiCase_iff.mp hname]
      exact htargetSupported
    have hspells := spells_converted_iff (hsupported s hs) htargetCharset hstores.spelled hdecoded
      hencoded
    have hlength : decoded.toList.length = text.length := by
      rw [decodeSupportedText_spells (hsupported s hs) hstores.spelled hdecoded]
      split
      · next hlatin =>
        rw [(spells_latin1_iff hlatin).mp hstores.spelled, codePoints, List.length_map,
          List.length_map]
      · rfl
    have hmisplaced : ¬ Misplaced servers source target text ↔
        Spells servers target.charset encoded text := by
      rw [not_misplaced_iff, hs, Option.any_some, hspells]
    rw [storedAs_text_iff]
    constructor
    · rintro hstored (⟨_, _, _, _, heq, -⟩ | ⟨hnone, -⟩ | hwrong)
      · cases heq
      · rw [hkind] at hnone
        cases hnone
      · exact hmisplaced.mpr hstored.spelled hwrong
    · intro hfine
      constructor
      · exact hmisplaced.mp fun hwrong => hfine (.inr (.inr hwrong))
      · intro limit hlimit
        rw [← lengthOf_congr hlength]
        exact hfits limit hlimit

/-- A converted document stands in its column for its normalized text, unless this is too long or
a character of `latin1` is misplaced. -/
theorem storedAs_json_conversion_iff (hisJson : source.isJson = true)
    (hkind : plan.conversionKind = some "json") (hdeclares : DeclaresColumn plan.target target)
    (hvalue : SourceText servers serde source value text)
    (haccepts : convertValueWithPlan rules serde plan value = .ok result) :
    StoredAs servers target result text ↔
      ¬ (Overlong serde target value ∨ Narrowed plan source target text ∨
        Misplaced servers source target text) := by
  obtain ⟨document, normalized, targetCharset, encoded, rfl, hnormalized, htargetSupported, hname,
    hencoded, rfl⟩ := convertValueWithPlan_json hkind hdeclares haccepts
  cases hvalue with
  | @json profile _ normalized' hnormalized' =>
    obtain rfl := Except.ok.inj (hnormalized.symm.trans hnormalized')
    rw [encodeSupportedText_congr hname] at hencoded
    have htargetCharset : textCharsetSupported target.charset = true := by
      rw [textCharsetSupported, ← eqIgnoreAsciiCase_iff.mp hname]
      exact htargetSupported
    have hspells := spells_encoded_iff servers htargetCharset hencoded
    have hmisplaced : ¬ Misplaced servers (.json profile) target normalized.toList ↔
        Spells servers target.charset encoded normalized.toList := by
      rw [not_misplaced_iff, hspells]
      change (false ≠ isLatin1 target.charset → _) ↔ _
      cases isLatin1 target.charset with
      | false => simp
      | true => simp
    rw [storedAs_text_iff]
    constructor
    · rintro hstored (⟨_, _, encoded', limit, hvalue, hrendered, hencoded', hlimit, hlong⟩ |
        ⟨hnone, -⟩ | hwrong)
      · cases hvalue
        obtain rfl := Except.ok.inj (hnormalized.symm.trans hrendered)
        obtain rfl := Except.ok.inj (hencoded.symm.trans hencoded')
        exact absurd (hstored.fits limit hlimit) (not_le.mpr hlong)
      · rw [hkind] at hnone
        cases hnone
      · exact hmisplaced.mpr hstored.spelled hwrong
    · intro hfine
      constructor
      · exact hmisplaced.mp fun hwrong => hfine (.inr (.inr hwrong))
      · intro limit hlimit
        by_contra hlong
        exact hfine (.inl ⟨document, normalized, encoded, limit, rfl, hnormalized, hencoded, hlimit,
          not_le.mp hlong⟩)

end Columns

section Planned

variable {servers : ServerCharsets} {rules : ValueRules} {serde : SerdeJson}
  {library : DigestLibrary} {validation : ValidationLibrary} {x : PlannerInput validation}
  {r : CompatibilityResult} {plan : ColumnConversionPlan} {target : TextType}
  {value result : LogicalValue} {text : List Char}

/-- A value that the plan of a text column accepts is stored there for its characters, unless it
is a document whose text is too long, or its characters are narrowed or misplaced. -/
theorem converted_text_fits_iff (hwrites : x.binding.WritesText)
    (htarget : x.binding.targetField.logicalType.textType? = some target)
    (hexplain : x.explain library = .ok r) (hplan : r.plan = some plan)
    (hvalue : SourceText servers serde x.binding.sourceField.logicalType value text)
    (haccepts : convertValueWithPlan rules serde plan.toColumnConversionPlan value = .ok result) :
    StoredAs servers target result text ↔
      ¬ (Overlong serde target value ∨
        Narrowed plan.toColumnConversionPlan x.binding.sourceField.logicalType target text ∨
        Misplaced servers x.binding.sourceField.logicalType target text) := by
  have hsource : x.binding.sourceField.logicalType.isText = true ∨
      x.binding.sourceField.logicalType.isJson = true := by
    generalize x.binding.sourceField.logicalType = source at *
    cases hvalue with
    | text hs => exact .inl (isText_of_textType hs)
    | json => exact .inr rfl
  cases PlannerInput.plannedText hwrites hsource htarget hexplain hplan with
  | exact hisText hkind hrange hstrategy hexact =>
    obtain rfl := convertValueWithPlan_none hkind hstrategy haccepts
    exact storedAs_exact_iff htarget hexact hkind hisText hvalue
  | text hisText hkind hrange hsupported hdeclares =>
    exact storedAs_text_conversion_iff hisText hkind hrange hsupported hdeclares hvalue haccepts
  | json hisJson hkind _ hdeclares =>
    exact storedAs_json_conversion_iff hisJson hkind hdeclares hvalue haccepts

end Planned

section Sample

/-- The characters of MySQL's `latin1` from `0x80` to `0x9f`. -/
def mysqlLatin1Specials : List ℕ :=
  [0x20AC, 0x81, 0x201A, 0x0192, 0x201E, 0x2026, 0x2020, 0x2021, 0x02C6, 0x2030, 0x0160, 0x2039,
    0x0152, 0x8D, 0x017D, 0x8F, 0x90, 0x2018, 0x2019, 0x201C, 0x201D, 0x2022, 0x2013, 0x2014,
    0x02DC, 0x2122, 0x0161, 0x203A, 0x0153, 0x9D, 0x017E, 0x0178]

def mysqlLatin1Code (n : ℕ) : ℕ :=
  if 0x80 ≤ n ∧ n < 0xA0 then mysqlLatin1Specials.getD (n - 0x80) 0 else n

theorem mysqlLatin1Code_valid : ∀ n < 256, (mysqlLatin1Code n).isValidChar := by
  decide +kernel

/-- The byte of a code of the table. -/
def mysqlLatin1Byte (code : ℕ) : ℕ :=
  if mysqlLatin1Specials.contains code then 0x80 + mysqlLatin1Specials.idxOf code else code

theorem mysqlLatin1Byte_code : ∀ n < 256, mysqlLatin1Byte (mysqlLatin1Code n) = n := by
  decide +kernel

def mysqlCharsets : ServerCharsets where
  holds _ _ := false
  width _ _ := 1
  latin1 b := Char.ofNat (mysqlLatin1Code b.toNat)
  latin1_injective := by
    intro b b' h
    have hb := mysqlLatin1Code_valid b.toNat b.toNat_lt
    have hb' := mysqlLatin1Code_valid b'.toNat b'.toNat_lt
    have hcode := congrArg Char.toNat h
    dsimp only at hcode
    rw [char_toNat_ofNat hb, char_toNat_ofNat hb'] at hcode
    have hbyte := congrArg mysqlLatin1Byte hcode
    rw [mysqlLatin1Byte_code _ b.toNat_lt, mysqlLatin1Byte_code _ b'.toNat_lt] at hbyte
    exact UInt8.toNat_inj.mp hbyte
  spells _ _ _ := False

/-- The conversions of MySQL's manifest for a column of ten characters. -/
def textManifest : TargetCapabilityManifest :=
  { sampleManifest with
    capabilities := [
      ⟨"mysql80.explicit.text.varchar(10)", .text "*" none .bytes none,
        ⟨"varchar(10)", [("conversion_kind", "text")]⟩,
        { sampleRule "text" .explicitConversion with
          options := CapabilityModule.textOptions }, [], []⟩,
      ⟨"mysql80.explicit.json_text.varchar(10)", .normalizedJson,
        ⟨"varchar(10)", [("conversion_kind", "json"), ("json_strategy", "normalized_text")]⟩,
        { sampleRule "json_text" .explicitConversion with
          options := CapabilityModule.jsonTextOptions }, [], []⟩] }

def noteParameters : List (String × String) :=
  [("target_charset", "utf8mb4"), ("target_collation", "none"), ("target_length", "10"),
    ("target_length_unit", "characters")]

/-- A note goes into a column of ten characters. -/
def noteInput (nativeType : String) (source : LogicalType) (parameters : List (String × String)) :
    FieldCompatibilityInput where
  sourceField := sampleField "source" 1 "note" nativeType source none false
  targetField := sampleField "target" 1 "note" "varchar(10)"
    (.text "utf8mb4" (some 10) .characters none) none false
  sourceTypeMapping := ⟨⟨"mysql", "8.0"⟩, nativeType, source, "mysql.note", "1", none, none, none,
    none, none, []⟩
  sourceConnector := ⟨"mysql", "8.0"⟩
  sinkConnector := ⟨"mysql", "8.0"⟩
  sourceBuild := none
  targetBuild := none
  manifest := textManifest
  options := ⟨"route", "1", none, parameters, [], none⟩
  operations := [.insert]
  presences := [.value]
  sourceHasPrimaryKey := true

def latin1Note : FieldCompatibilityInput :=
  noteInput "varchar(10)" (.text "latin1" (some 10) .characters none) noteParameters

def jsonNote : FieldCompatibilityInput :=
  noteInput "json" .normalizedJson
    (noteParameters ++ [("json_strategy", "normalized_text")])

/-- No rule for the other families. -/
def noRules : ValueRules :=
  let none {α : Type} (plan : ChangeEvent.ColumnConversionPlan) (_ : LogicalValue) :
      Except TargetCapabilityFailure α :=
    .error (plan.failure "target_capability.unspecified" "")
  ⟨id, none, none, none, none, none, none, none, none, none, none,
    fun plan value => refusing (none plan value)⟩

theorem writesText_noteInput (nativeType : String) (source : LogicalType)
    (parameters : List (String × String)) :
    (noteInput nativeType source parameters).WritesText := by
  intro capability hcapability _ _
  have hmem : capability ∈ textManifest.capabilities := hcapability
  simp only [textManifest, List.mem_cons, List.not_mem_nil, or_false] at hmem
  rcases hmem with rfl | rfl
  · exact .text rfl rfl
  · exact .json rfl rfl

/-- The bytes of a word in `latin1`. -/
def latin1Word : List UInt8 := [0x63, 0x61, 0x66, 0xE9]

theorem storedLatin1Word : (⟨"latin1", some 10, .characters⟩ : TextType).Stores mysqlCharsets
    latin1Word "café".toList := by
  constructor
  · rw [spells_latin1_iff (by decide)]
    decide
  · rintro limit ⟨⟩
    decide

/-- What the plan of the catalog planner makes of a value. -/
def plannedValue (x : FieldCompatibilityInput) (value : LogicalValue) : Option LogicalValue :=
  match explainFieldCompatibility sampleDigests x with
  | .error _ => none
  | .ok r => r.plan.bind fun plan =>
    match convertValueWithPlan noRules exactJson plan.toColumnConversionPlan value with
    | .error _ => none
    | .ok result => some result

theorem plannedValue_eq_some {x : FieldCompatibilityInput} {value result : LogicalValue}
    (h : plannedValue x value = some result) :
    ∃ r plan, explainFieldCompatibility sampleDigests x = .ok r ∧ r.plan = some plan ∧
      convertValueWithPlan noRules exactJson plan.toColumnConversionPlan value = .ok result := by
  unfold plannedValue at h
  split at h
  · cases h
  · next r hexplain =>
    obtain ⟨plan, hplan, hconverted⟩ := Option.bind_eq_some_iff.mp h
    refine ⟨r, plan, hexplain, hplan, ?_⟩
    split at hconverted
    · cases hconverted
    · next hok =>
      rw [hok, Option.some.inj hconverted]

def latin1Value : LogicalValue := .text "latin1" (Base64.encode latin1Word) none

def convertedWord : LogicalValue :=
  .text "utf8mb4" (Base64.encode (JsonText.utf8 "café".toList)) (some "café")

theorem plannedValue_latin1Note : plannedValue latin1Note latin1Value = some convertedWord := by
  rfl

def longDocument : JsonValue := .string "longer than it"

def longText : LogicalValue :=
  .text "utf8mb4" (Base64.encode (JsonText.utf8 "\"longer than it\"".toList))
    (some "\"longer than it\"")

theorem plannedValue_jsonNote : plannedValue jsonNote (.json longDocument) = some longText := by
  rfl

def noteColumn : TextType := ⟨"utf8mb4", some 10, .characters⟩

/-- `café` of `latin1`, converted for a column of `utf8mb4`. -/
theorem converted_text_fits_iff_cafe : ∃ r plan,
    explainFieldCompatibility sampleDigests latin1Note = .ok r ∧ r.plan = some plan ∧
    convertValueWithPlan noRules exactJson plan.toColumnConversionPlan latin1Value =
      .ok convertedWord ∧
    (StoredAs mysqlCharsets noteColumn convertedWord "café".toList ↔
      ¬ (Overlong exactJson noteColumn latin1Value ∨
        Narrowed plan.toColumnConversionPlan latin1Note.sourceField.logicalType noteColumn
          "café".toList ∨
        Misplaced mysqlCharsets latin1Note.sourceField.logicalType noteColumn "café".toList)) := by
  obtain ⟨r, plan, hexplain, hplan, haccepts⟩ := plannedValue_eq_some plannedValue_latin1Note
  exact ⟨r, plan, hexplain, hplan, haccepts,
    converted_text_fits_iff (x := (.catalog latin1Note : PlannerInput sampleValidation))
      (writesText_noteInput _ _ _) rfl hexplain hplan
      (.text rfl (by decide) (Base64.decode_encode latin1Word) storedLatin1Word) haccepts⟩

/-- A document whose normalized text has sixteen characters is accepted for a column of ten. -/
theorem converted_json_overflows : ∃ r plan text,
    explainFieldCompatibility sampleDigests jsonNote = .ok r ∧ r.plan = some plan ∧
    SourceText mysqlCharsets exactJson jsonNote.sourceField.logicalType (.json longDocument) text ∧
    convertValueWithPlan noRules exactJson plan.toColumnConversionPlan (.json longDocument) =
      .ok longText ∧
    jsonNote.targetField.logicalType.textType? = some noteColumn ∧
    ¬ StoredAs mysqlCharsets noteColumn longText text := by
  obtain ⟨r, plan, hexplain, hplan, haccepts⟩ := plannedValue_eq_some plannedValue_jsonNote
  have hrendered : renderNormalizedJson exactJson longDocument = .ok "\"longer than it\"" := rfl
  refine ⟨r, plan, _, hexplain, hplan, .json hrendered, haccepts, rfl, ?_⟩
  rintro ⟨_, _, _, bytes, -, -, hstores⟩
  have hfits : "\"longer than it\"".toList.length ≤ 10 := hstores.fits 10 rfl
  revert hfits
  decide

end Sample

end DatabaseSync.Planner
