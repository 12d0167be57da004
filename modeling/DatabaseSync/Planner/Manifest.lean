import DatabaseSync.Planner.IntegerRange

/-! # Capability manifests

How the connectors build the entries of their manifests, and what an entry means to an integer, a
text and a document: the entries of one manifest that meet a column of these families are the
exact ones, the range-checked ones and the conversions, or write to a carrier.
-/

namespace DatabaseSync.Planner

open ChangeEvent TargetRepresentation Text

/-- `TargetCapabilityManifest::new` -/
def TargetCapabilityManifest.new (library : DigestLibrary) (connector : ConnectorIdentity)
    (targetBuild : ServerBuildIdentity) (capabilities : List CapabilityEntry)
    (requiresPrimaryKey : Bool) : TargetCapabilityManifest :=
  let manifest : TargetCapabilityManifest :=
    ⟨connector, targetBuild, compatibilityFormat, requiresPrimaryKey, capabilities, ""⟩
  { manifest with digest := manifest.computedDigest library }

/-- `LogicalType::json` -/
def LogicalType.normalizedJson : LogicalType := .json ⟨true, .reject⟩

/-- A text type that names no collation. -/
def LogicalType.textOf (charset : String) (maxLength : Option ℕ) (lengthUnit : LengthUnit) :
    LogicalType :=
  .text charset maxLength lengthUnit none

/-- SHA-256 of a version, the code of an entry, its source type and its representation. -/
abbrev EvidenceDigest := String → String → LogicalType → TargetRepresentation → String

/-- What the entries of one connector have of their own. -/
structure CapabilityModule where
  codePrefix : String
  ruleVersion : String
  structuredVersion : String
  explicitVersion : String
  carrierVersion : String
  rangeRulePrefix : String
  evidenceDigest : String → LogicalType → TargetRepresentation → String

namespace CapabilityModule

def operations : List Operation := [.insert, .update, .delete]

def presence : List PresenceState :=
  [.value, .null, .unchanged, .unavailable, .generatedObservation]

/-- The presence states of the two carriers, for values and for source representations. -/
def carrierPresence (carried : PresenceState) : List PresenceState :=
  [carried, .null, .unchanged, .unavailable]

def textLengths : List ℕ :=
  List.range' 1 255 ++ [256, 512, 1024, 2048, 4096, 8192, 16383, 32767, 65535]

def binaryLengths : List ℕ :=
  List.range' 1 255 ++ [256, 512, 1024, 2048, 4096, 8192, 16383, 32767, 65535]

/-- The precisions with the scales that are listed for them. -/
def decimalParameters (maximum : ℕ) : List (ℕ × ℕ) :=
  (List.range' 1 maximum).flatMap fun precision =>
    (List.range (min precision 30 + 1)).map fun scale => (precision, scale)

/-! ## Options -/

def textOptions : List OptionSpec :=
  [⟨"target_charset", .string, true, none, ["utf8", "utf8mb4", "UTF8", "ascii", "latin1"]⟩,
    ⟨"target_length", .string, true, none, []⟩,
    ⟨"target_length_unit", .enum, true, none, ["bytes", "characters"]⟩,
    ⟨"target_collation", .string, true, none, []⟩,
    ⟨"encoding_policy", .enum, false, some "strict", ["strict"]⟩,
    ⟨"length_policy", .enum, false, some "reject", ["reject"]⟩,
    ⟨"collation_policy", .enum, false, some "target", ["target"]⟩]

def jsonTextOptions : List OptionSpec :=
  textOptions ++ [⟨"json_strategy", .enum, true, none, ["normalized_text", "raw_text"]⟩]

def temporalOptions : List OptionSpec :=
  [⟨"target_precision", .integer, true, none, []⟩,
    ⟨"temporal_strategy", .enum, true, none, ["preserve_local", "preserve_absolute",
      "preserve_duration", "local_to_absolute", "absolute_to_local"]⟩,
    ⟨"time_zone", .string, false, none, []⟩,
    ⟨"precision_policy", .enum, false, some "reject", ["reject"]⟩]

/-! ## Rules -/

variable (m : CapabilityModule)

def exactRule (version suffix code : String) (source : LogicalType)
    (target : TargetRepresentation) : ConversionRule where
  id := m.codePrefix ++ ".conversion." ++ suffix
  version := version
  qualification := .exact
  risk := .none
  riskCode := none
  requiresConfirmation := false
  options := []
  supportedOperations := operations
  supportedPresence := presence
  allowsKey := true
  failurePolicy := .reject
  evidenceDigest := m.evidenceDigest code source target

def explicitRule (code : String) (source : LogicalType) (target : TargetRepresentation)
    (options : List OptionSpec) : ConversionRule where
  id := m.codePrefix ++ ".conversion." ++ code
  version := m.explicitVersion
  qualification := .explicitConversion
  risk := .high
  riskCode := some (m.codePrefix ++ ".explicit_conversion")
  requiresConfirmation := true
  options := options
  supportedOperations := operations
  supportedPresence := presence
  allowsKey := false
  failurePolicy := .reject
  evidenceDigest := m.evidenceDigest code source target

def rangeRule (code : String) (source : LogicalType) (target : TargetRepresentation) :
    ConversionRule where
  id := m.rangeRulePrefix ++ code
  version := m.ruleVersion
  qualification := .rangeChecked
  risk := .medium
  riskCode := some (m.codePrefix ++ ".range_checked")
  requiresConfirmation := true
  options := []
  supportedOperations := operations
  supportedPresence := presence
  allowsKey := false
  failurePolicy := .reject
  evidenceDigest := m.evidenceDigest code source target

/-! ## Entries

Each function of the source pushes the entry that its namesake returns. -/

/-- An exact entry under a version of its own. -/
def exactEntry (version : String) (source : LogicalType) (target : TargetRepresentation)
    (suffix : String) : CapabilityEntry :=
  let code := m.codePrefix ++ ".exact." ++ suffix
  ⟨code, source, target, m.exactRule version suffix code source target, operations, presence⟩

def addExactWithTarget (source : LogicalType) (target : TargetRepresentation) (suffix : String) :
    CapabilityEntry :=
  m.exactEntry m.ruleVersion source target suffix

def addExact (source : LogicalType) (nativeType suffix : String) : CapabilityEntry :=
  m.addExactWithTarget source ⟨nativeType, []⟩ suffix

/-- `add_structured_json`, `add_spatial` and the exact part of `add_enum_set`. -/
def addStructured (source : LogicalType) (target : TargetRepresentation) (suffix : String) :
    CapabilityEntry :=
  m.exactEntry m.structuredVersion source target suffix

/-- An explicit conversion with the rule of its code. -/
def explicitEntry (suffix : String) (source : LogicalType) (target : TargetRepresentation)
    (options : List OptionSpec) : CapabilityEntry :=
  let code := m.codePrefix ++ ".explicit." ++ suffix
  ⟨code, source, target, m.explicitRule code source target options, operations, presence⟩

def addExplicit (source : LogicalType) (nativeType suffix : String) : CapabilityEntry :=
  let entry := m.explicitEntry suffix source ⟨nativeType, []⟩ []
  { entry with rule :=
      { entry.rule with
        id := m.codePrefix ++ ".conversion." ++ suffix
        version := m.ruleVersion } }

def addExplicitText (nativeType : String) : CapabilityEntry :=
  m.explicitEntry ("text." ++ nativeType) (.textOf "*" none .bytes)
    (insertAll ⟨nativeType, []⟩ [("conversion_kind", "text")]) textOptions

def addExplicitJsonText (nativeType : String) : CapabilityEntry :=
  m.explicitEntry ("json_text." ++ nativeType) .normalizedJson
    (insertAll ⟨nativeType, []⟩ [("conversion_kind", "json"),
      ("json_strategy", "normalized_text")]) jsonTextOptions

/-- The conversions to the native types for texts. -/
def explicitTextEntries (nativeTypes : List String) : List CapabilityEntry :=
  nativeTypes.flatMap fun nativeType =>
    [m.addExplicitText nativeType, m.addExplicitJsonText nativeType]

def addExplicitTemporal (source : LogicalType) (nativeType suffix : String) : CapabilityEntry :=
  m.explicitEntry ("temporal." ++ suffix) source
    (insertAll ⟨nativeType, []⟩ [("conversion_kind", "temporal")]) temporalOptions

def addEnumByLabel : CapabilityEntry :=
  m.explicitEntry "enum_by_label" (.enum []) (insertAll ⟨"enum", []⟩ [("conversion_kind", "enum"),
    ("value_strategy", "enum_label")]) []

def addLogicalValueJsonCarrier (target : TargetRepresentation) : CapabilityEntry :=
  let entry := m.explicitEntry "logical_value_json_carrier" (.opaqueType "*" "logical_value")
    target []
  { entry with
    rule := { entry.rule with version := m.carrierVersion }
    supportedPresence := carrierPresence .value }

def addSourceRepresentationCarrier (target : TargetRepresentation) : CapabilityEntry :=
  let entry := m.explicitEntry ("source_representation." ++ target.nativeType)
    (.opaqueType "*" "source_representation") target []
  { entry with
    rule :=
      { entry.rule with
        version := m.carrierVersion
        supportedPresence := carrierPresence .sourceRepresentation }
    supportedPresence := carrierPresence .sourceRepresentation }

/-- A range-checked entry for every source type of one family. -/
def rangeEntry (suffix : String) (source : LogicalType) (target : TargetRepresentation) :
    CapabilityEntry :=
  let code := m.codePrefix ++ ".range_checked." ++ suffix
  ⟨code, source, target, m.rangeRule code source target, operations, presence⟩

def addRangeCheckedInteger (signed : Bool) (bits : ℕ) (nativeType suffix : String) :
    CapabilityEntry :=
  m.rangeEntry suffix (.integer true 0) (insertAll ⟨nativeType, []⟩ [("range_kind", "integer"),
    ("target_signed", toString signed), ("target_bits", toString bits)])

/-- The special values are those that the target stores. -/
def addRangeCheckedDecimal (nativeType : String) (specialValues : List (String × String))
    (precision scale : ℕ) : CapabilityEntry :=
  m.rangeEntry ("decimal." ++ toString precision ++ "." ++ toString scale) (.decimal 0 0)
    (insertAll ⟨nativeType ++ "(" ++ toString precision ++ "," ++ toString scale ++ ")", []⟩
      ([("range_kind", "decimal")] ++ specialValues ++
        [("target_precision", toString precision), ("target_scale", toString scale)]))

def addRangeCheckedFloat (nativeType : String) : CapabilityEntry :=
  m.rangeEntry "float.64_to_32" (.float 0) (insertAll ⟨nativeType, []⟩ [("range_kind", "float"),
    ("target_bits", "32")])

end CapabilityModule

/-! ## Families -/

/-- What an entry of a connector means to an integer, a text and a document, where the connector
has the given carriers for them. -/
inductive EntryFamily (carriers : List String) (entry : CapabilityEntry) : Prop
  | integer {signed : Bool} {bits : ℕ} : entry.sourceLogicalType = .integer signed bits →
      IntegerEntry entry → EntryFamily carriers entry
  | text : entry.sourceLogicalType.isText = true ∨ entry.sourceLogicalType.isJson = true →
      TextEntry entry → EntryFamily carriers entry
  | carrier : entry.target.nativeType ∈ carriers → storesGeometry entry = false →
      EntryFamily carriers entry
  | other : entry.sourceLogicalType.isPlain = false → EntryFamily carriers entry

section Families

variable {carriers : List String} {entry : CapabilityEntry} {x : PlanningInput}
  {template type : LogicalType}

theorem isPlain_of_template (hplain : type.isPlain = true) (hvisible : type.isOpaque = false)
    (h : templateMatchesSource template type = true) : template.isPlain = true := by
  cases type with
  | integer | text | json =>
    cases template with
    | integer | text => rfl
    | opaqueType =>
      simp only [templateMatchesSource, recursiveTypeKind, LogicalType.isRaw, Option.isSome_none,
        Bool.and_false, Bool.false_or, Bool.and_eq_true] at h
      exact h.2
    | _ => simp [templateMatchesSource, LogicalType.isSpatial] at h
  | opaqueType => cases hvisible
  | _ => cases hplain

theorem isPlain_of_matches (hplain : type.isPlain = true) (hvisible : type.isOpaque = false)
    (h : capabilityMatchesSource entry type = true) : entry.sourceLogicalType.isPlain = true := by
  rw [capabilityMatchesSource, Bool.or_eq_true] at h
  rcases h with heq | htemplate
  · rwa [eq_of_beq heq]
  · exact isPlain_of_template hplain hvisible htemplate

/-- The entries of a connector write an integer column as entries for integers do, where the
carriers have no native type of an integer. -/
theorem writesInteger_of_families {source target : IntegerColumn}
    (hentries : ∀ entry ∈ x.manifest.capabilities, EntryFamily carriers entry)
    (hcarriers : ∀ carrier ∈ carriers, (declaredInteger carrier).2 = 0)
    (hsource : x.sourceField.logicalType = integerType source)
    (htarget : x.targetField.logicalType = integerType target)
    (hdeclared : declaredInteger x.targetField.nativeType = (target.signed, target.bits)) :
    x.WritesInteger := by
  intro entry hentry hmatches hbinds
  rw [hsource] at hmatches
  cases hentries entry hentry with
  | integer _ hinteger => exact hinteger
  | text htext _ =>
    rcases htext with htext | hjson
    · cases isText_of_matchesSource htext hmatches
    · obtain ⟨profile, hjson⟩ := exists_of_isJson hjson
      cases isJson_of_matchesSource hjson hmatches
  | carrier hcarrier hgeometry =>
    have hplain : x.targetField.logicalType.isPlain = true := by
      rw [htarget]
      rfl
    have hnative := eqIgnoreAsciiCase_of_matches hplain hgeometry hbinds
    have hzero := hcarriers _ hcarrier
    rw [declaredInteger_eq hnative, hdeclared] at hzero
    rcases target.bits_cases with hbits | hbits | hbits | hbits | hbits
    all_goals omega
  | other hother =>
    rw [isPlain_of_matches rfl rfl hmatches] at hother
    cases hother

/-! ### The families of the entries -/

section Entries

variable (m : CapabilityModule) {nativeType suffix : String}

theorem family_exactInteger {signed : Bool} {bits : ℕ}
    (h : ((signed, bits), nativeType) ∈ mysqlIntegers ++ postgresqlIntegers) :
    EntryFamily carriers (m.addExact (.integer signed bits) nativeType suffix) :=
  .integer rfl (.exact rfl h rfl)

theorem family_rangeCheckedInteger (signed : Bool) (bits : ℕ) :
    EntryFamily carriers (m.addRangeCheckedInteger signed bits nativeType suffix) := by
  have hparameters : (m.addRangeCheckedInteger signed bits nativeType suffix).target.parameters =
      [("range_kind", "integer"), ("target_bits", toString bits),
        ("target_signed", toString signed)] := by
    have hsigned : ¬ "target_signed" < "range_kind" := by decide
    have hbits : ¬ "target_bits" < "range_kind" := by decide
    have hlast : "target_bits" < "target_signed" := by decide
    simp only [CapabilityModule.addRangeCheckedInteger, CapabilityModule.rangeEntry, insertAll,
      List.foldl_cons, List.foldl_nil, TargetRepresentation.insert, insertEntry, hsigned, hbits,
      hlast, String.reduceEq, if_true, if_false]
  exact .integer rfl (.ranged rfl hparameters)

theorem family_exactText (charset : String) (maxLength : Option ℕ) (lengthUnit : LengthUnit) :
    EntryFamily carriers (m.addExact (.textOf charset maxLength lengthUnit) nativeType suffix) :=
  .text (.inl rfl) (.exact rfl rfl rfl)

theorem families_explicitText (nativeTypes : List String) :
    ∀ entry ∈ m.explicitTextEntries nativeTypes, EntryFamily carriers entry := by
  intro entry hentry
  obtain ⟨nativeType, -, hentry⟩ := List.mem_flatMap.mp hentry
  simp only [List.mem_cons, List.not_mem_nil, or_false] at hentry
  rcases hentry with rfl | rfl
  · exact .text (.inl rfl) (.text rfl rfl)
  · exact .text (.inr rfl) (.json rfl rfl)

/-- Entries for other families than integers, texts and documents. -/
theorem families_of_others {entries : List CapabilityEntry}
    (h : entries.all (fun entry => !entry.sourceLogicalType.isPlain) = true) :
    ∀ entry ∈ entries, EntryFamily carriers entry := by
  intro entry hentry
  have hother := List.all_eq_true.mp h entry hentry
  exact .other (by simpa using hother)

end Entries

theorem plain_of_isText (h : type.isText = true ∨ type.isJson = true) :
    type.isPlain = true ∧ type.isOpaque = false := by
  cases type with
  | text | json => exact ⟨rfl, rfl⟩
  | _ => simp [LogicalType.isText, LogicalType.isJson] at h

/-- The entries of a connector write a text column that is no carrier as entries for texts do. -/
theorem writesText_of_families
    (hentries : ∀ entry ∈ x.manifest.capabilities, EntryFamily carriers entry)
    (hsource : x.sourceField.logicalType.isText = true ∨ x.sourceField.logicalType.isJson = true)
    (htarget : x.targetField.logicalType.isText = true)
    (hcolumn : ∀ carrier ∈ carriers,
      eqIgnoreAsciiCase carrier x.targetField.nativeType = false) : x.WritesText := by
  intro entry hentry hmatches hbinds
  obtain ⟨hplain, hvisible⟩ := plain_of_isText hsource
  cases hentries entry hentry with
  | integer hinteger _ =>
    rw [capabilityMatchesSource, hinteger, Bool.or_eq_true] at hmatches
    rcases hmatches with heq | htemplate
    · rw [← eq_of_beq heq] at hsource
      simp [LogicalType.isText, LogicalType.isJson] at hsource
    · cases htype : x.sourceField.logicalType with
      | text | json => simp [htype, templateMatchesSource] at htemplate
      | _ => simp [htype, LogicalType.isText, LogicalType.isJson] at hsource
  | text _ htext => exact htext
  | carrier hcarrier hgeometry =>
    have hnative := eqIgnoreAsciiCase_of_matches (plain_of_isText (.inl htarget)).1 hgeometry
      hbinds
    rw [hcolumn _ hcarrier] at hnative
    cases hnative
  | other hother =>
    rw [isPlain_of_matches hplain hvisible hmatches] at hother
    cases hother

end Families

end DatabaseSync.Planner
