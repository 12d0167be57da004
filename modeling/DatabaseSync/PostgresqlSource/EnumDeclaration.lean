import DatabaseSync.Library.QuotedLabels
import DatabaseSync.Planner.Input
import Mathlib.Data.List.Nodup

/-! # Declarations of enum types

The catalog query declares an enum type by its labels as SQL literals, and the type mapping reads
them back. A label with a backslash in it becomes an escape literal, which the mapping does not
know.
-/

namespace DatabaseSync.PostgresqlSource

open ChangeEvent Checked Planner QuotedLabels Text

/-! ## The type mapping -/

structure SourceTypeMappingError where
  code : String
  message : String
deriving DecidableEq, Repr

def SourceTypeMappingError.invalid (version message : String) : SourceTypeMappingError :=
  ⟨"postgresql" ++ version ++ ".source_type.invalid_declaration", message⟩

/-- The types that are not declared by their labels, and the digests. -/
structure TypeLibrary where
  /-- The branch of `logical_type_with_catalog` for an element and a number of dimensions -/
  arrayType : (version element : String) → ℕ → Except SourceTypeMappingError LogicalType
  builtinType : (version nativeType : String) → Except SourceTypeMappingError (Option LogicalType)
  /-- What is found under a builtin's catalog name or in the catalog. -/
  catalogType : (version nativeType : String) → Except SourceTypeMappingError LogicalType
  /-- `definition_digest` of the type that `find_definition` finds -/
  definitionDigest : (version nativeType : String) → Except SourceTypeMappingError String
  /-- `source_representation_evidence` of a `LogicalType::Raw` -/
  rawEvidence : (version nativeType : String) → LogicalType →
    Except SourceTypeMappingError (Option SourceRepresentationTypeEvidence)
  evidenceDigest : (mappingVersion nativeType : String) → LogicalType →
    List (String × String) → String

def ensureSupportedVersion (version : String) : Except SourceTypeMappingError Unit :=
  if version = "15" ∨ version = "16" ∨ version = "17" then .ok ()
  else
    .error (.invalid version "PostgreSQL SourceTypeMapping supports only versions 15, 16, and 17")

def mappingVersion (version : String) : String :=
  "postgresql-" ++ version ++ ".source-type-mapping.v3"

/-- `char::is_ascii_whitespace` -/
def isAsciiWhitespace (c : Char) : Bool := [' ', '\t', '\n', '\x0c', '\r'].contains c

def endsWithOneOf (chars ends : List Char) : Bool := chars.getLast?.any ends.contains

/-- The loop of `normalize` -/
def normalizeChars (version : String) :
    List Char → List Char → Bool → Bool → Except SourceTypeMappingError (List Char)
  | [], normalized, quoted, _ =>
    if quoted then
      .error (.invalid version "native type declaration has an unterminated quoted identifier")
    else .ok normalized
  | '"' :: chars, normalized, quoted, pendingSpace =>
    let spaced :=
      if pendingSpace && !normalized.isEmpty && !endsWithOneOf normalized ['.', '('] then
        normalized ++ [' '] else normalized
    if quoted then
      match chars with
      | '"' :: chars => normalizeChars version chars (spaced ++ ['"', '"']) true false
      | chars => normalizeChars version chars (spaced ++ ['"']) false false
    else normalizeChars version chars (spaced ++ ['"']) true false
  | character :: chars, normalized, quoted, pendingSpace =>
    if quoted then normalizeChars version chars (normalized ++ [character]) quoted pendingSpace
    else if character = ';' then
      .error (.invalid version "native type declaration contains forbidden syntax")
    else if isAsciiWhitespace character then normalizeChars version chars normalized quoted true
    else
      let spaced :=
        if pendingSpace && !normalized.isEmpty &&
            !(['.', ')', '[', ']', ','].contains character) &&
            !endsWithOneOf normalized ['.', '(', '['] then
          normalized ++ [' '] else normalized
      normalizeChars version chars (spaced ++ [toAsciiLower character]) quoted false

def normalize (nativeType version : String) : Except SourceTypeMappingError String :=
  let raw := trim nativeType
  if raw.isEmpty || raw.toList.contains '\x00' then
    .error (.invalid version "native type declaration is empty or contains forbidden syntax")
  else if startsWith (toAsciiLowercase raw) "enum(" then .ok raw
  else do return String.ofList (← normalizeChars version raw.toList [] false false)

def baseName (nativeType : String) : String :=
  String.ofList (nativeType.toList.takeWhile fun c => c != '(' && c != ' ')

/-- The loop of `array_declaration`, from the last character on -/
def stripDimensions : List Char → ℕ → Option (List Char × ℕ)
  | ']' :: '[' :: chars, dimensions =>
    if dimensions + 1 < 2 ^ 8 then stripDimensions chars (dimensions + 1) else none
  | chars, dimensions => some (chars, dimensions)

def arrayDeclaration (nativeType : String) : Option (String × ℕ) := do
  let (base, dimensions) ← stripDimensions nativeType.toList.reverse 0
  if 0 < dimensions then some (String.ofList base.reverse, dimensions) else none

/-- The escapes and errors of `enum_members` -/
def enumLabels (version : String) : Dialect SourceTypeMappingError where
  unescape := id
  unquoted := .invalid version "PostgreSQL ENUM labels must be quoted"
  dangling := .invalid version "PostgreSQL ENUM label has a dangling escape"
  badLabel := .invalid version "PostgreSQL ENUM label is empty, unterminated, or contains NUL"
  repeated := .invalid version "PostgreSQL ENUM labels must be unique"
  unseparated := .invalid version "PostgreSQL ENUM labels must be comma separated"
  noLabel := .invalid version "PostgreSQL ENUM requires at least one label"

/-- The last closing bracket is looked for behind the first opening one. -/
def enumMembers (nativeType version : String) : Except SourceTypeMappingError (List String) :=
  match splitOnce nativeType '(' with
  | none => .error (.invalid version "PostgreSQL ENUM declaration has no members")
  | some (_, rest) =>
    match rsplitOnce rest ')' with
    | none => .error (.invalid version "PostgreSQL ENUM declaration is malformed")
    | some (members, tail) =>
      if isBlank tail then do
        return (← parseLabels (enumLabels version) members.toList).map String.ofList
      else .error (.invalid version "PostgreSQL ENUM declaration is malformed")

section

variable (library : TypeLibrary)

def logicalTypeWithCatalog (nativeType version : String) :
    Except SourceTypeMappingError LogicalType :=
  match arrayDeclaration nativeType with
  | some (element, dimensions) => library.arrayType version element dimensions
  | none =>
    if eqIgnoreAsciiCase (baseName nativeType) "enum" then do
      return .enum (← enumMembers nativeType version)
    else do
      match ← library.builtinType version nativeType with
      | some logical => return logical
      | none => library.catalogType version nativeType

def sourceDefinitionFingerprint (nativeType version : String) (logicalType : LogicalType) :
    Except SourceTypeMappingError (Option String) :=
  match logicalType with
  | .raw _ _ sourceDefinitionDigest _ => .ok (some sourceDefinitionDigest)
  | _ =>
    if (arrayDeclaration nativeType).isSome ||
        eqIgnoreAsciiCase (baseName nativeType) "enum" then .ok none
    else do
      if (← library.builtinType version nativeType).isSome then return none
      return some (← library.definitionDigest version nativeType)

def valueRepresentationOf : LogicalType → List (String × String)
  | .bitString length =>
    [("bit_order", "msb_first"), ("bit_padding", if length % 8 = 0 then "none" else "zero")]
  | .variableBitString _ => [("bit_order", "msb_first"), ("bit_padding", "variable")]
  | _ => []

def sourceRepresentationEvidence (sourceNativeType version : String) (logicalType : LogicalType) :
    Except SourceTypeMappingError (Option SourceRepresentationTypeEvidence) :=
  match logicalType with
  | .raw _ _ _ _ => library.rawEvidence version sourceNativeType logicalType
  | _ => .ok none

/-- `source_type_mapping_with_catalog_for_version` -/
def sourceTypeMapping (version nativeType : String) :
    Except SourceTypeMappingError SourceTypeMapping := do
  ensureSupportedVersion version
  let sourceNativeType := trim nativeType
  let nativeType ← normalize nativeType version
  let logicalType ← logicalTypeWithCatalog library nativeType version
  match logicalType.validate with
  | .error message => throw (.invalid version message)
  | .ok () =>
    let fingerprint ← sourceDefinitionFingerprint library nativeType version logicalType
    let valueRepresentation := valueRepresentationOf logicalType
    let evidence ← sourceRepresentationEvidence library sourceNativeType version logicalType
    return {
      connector := ⟨"postgresql", version⟩
      nativeType := nativeType
      logicalType := logicalType
      mappingId :=
        "postgresql" ++ version ++ ".source-type." ++ toAsciiLowercase (baseName nativeType)
      mappingVersion := mappingVersion version
      evidenceDigest := some (library.evidenceDigest (mappingVersion version) nativeType
        logicalType valueRepresentation)
      sourceDefinitionFingerprint := fingerprint
      sourceBuild := none
      environmentFingerprint := none
      sourceRepresentationEvidence := evidence
      valueRepresentation := valueRepresentation }

end

/-! ## The catalog query -/

/-- A quote and a backslash are doubled in a literal. -/
def doubled : Char → List Char
  | '\'' => ['\'', '\'']
  | '\\' => ['\\', '\\']
  | c => [c]

/-- `quote_literal`: a label with a backslash is an escape literal. -/
def quoteLiteral (label : List Char) : List Char :=
  (if '\\' ∈ label then ['E'] else []) ++ quoted doubled label

/-- The literals of the labels with commas between them. -/
def aggregatedLabels (labels : List String) : List Char :=
  [','].intercalate (labels.map fun label => quoteLiteral label.toList)

/-- `'enum(' || literals || ')'` -/
def enumDeclaration (labels : List String) : String :=
  bracketed "enum".toList (aggregatedLabels labels)

/-- The native type that the query builds for an enum. `string_agg` gives NULL where there is no
label, and the column cannot be read then. -/
def enumNativeType (labels : List String) : Option String :=
  if labels = [] then none else some (enumDeclaration labels)

/-- The declaration is mapped to an enum with these labels in this order. -/
def Declared (library : TypeLibrary) (version : String) (labels : List String) : Prop :=
  ∃ nativeType mapping, enumNativeType labels = some nativeType ∧
    sourceTypeMapping library version nativeType = .ok mapping ∧
    mapping.logicalType = .enum labels

/-! ## Mapping a declaration -/

section

variable {library : TypeLibrary} {version : String} {members : List Char} {labels : List String}

theorem trim_enum : trim (bracketed "enum".toList members) = bracketed "enum".toList members :=
  @trim_bracketed "num".toList members 'e' rfl

theorem normalize_enum : normalize (bracketed "enum".toList members) version =
    if '\x00' ∈ members then
      .error (.invalid version "native type declaration is empty or contains forbidden syntax")
    else .ok (bracketed "enum".toList members) := by
  have hempty : (bracketed "enum".toList members).isEmpty = false := by
    rw [String.isEmpty_eq_false_iff, ne_eq, ← String.toList_eq_nil_iff, toList_bracketed]
    simp
  have hnul : (bracketed "enum".toList members).toList.contains '\x00' =
      decide ('\x00' ∈ members) := by
    rw [toList_bracketed, List.contains_eq_mem]
    simp
  have hstart : startsWith (toAsciiLowercase (bracketed "enum".toList members)) "enum(" = true := by
    have hlower : (toAsciiLowercase (bracketed "enum".toList members)).toList =
        "enum(".toList ++ (members ++ [')']).map toAsciiLower := by
      rw [toAsciiLowercase, toList_bracketed]
      simp only [String.toList_ofList]
      rfl
    rw [startsWith, hlower, List.isPrefixOf_iff_prefix]
    exact List.prefix_append _ _
  rw [normalize, trim_enum]
  simp only [hempty, hnul, hstart, Bool.false_or, decide_eq_true_eq, if_true]

theorem arrayDeclaration_enum : arrayDeclaration (bracketed "enum".toList members) = none := by
  rw [arrayDeclaration, toList_bracketed, List.reverse_append, List.reverse_cons,
    List.reverse_append, List.reverse_singleton]
  rfl

theorem baseName_enum : baseName (bracketed "enum".toList members) = "enum" := by
  rw [baseName, toList_bracketed]
  rfl

theorem enumMembers_bracketed : enumMembers (bracketed "enum".toList members) version =
    (parseLabels (enumLabels version) members).map fun labels => labels.map String.ofList := by
  have hblank : isBlank "" = true := rfl
  rw [enumMembers, splitOnce_bracketed (by decide)]
  dsimp only
  rw [rsplitOnce_bracketed]
  dsimp only
  rw [if_pos hblank, String.toList_ofList]
  cases parseLabels (enumLabels version) members with
  | error e => rfl
  | ok labels => rfl

theorem logicalTypeWithCatalog_enum :
    logicalTypeWithCatalog library (bracketed "enum".toList members) version =
      (enumMembers (bracketed "enum".toList members) version).map LogicalType.enum := by
  have henum : eqIgnoreAsciiCase "enum" "enum" = true := rfl
  rw [logicalTypeWithCatalog, arrayDeclaration_enum]
  dsimp only
  rw [baseName_enum, if_pos henum]
  cases enumMembers (bracketed "enum".toList members) version with
  | error e => rfl
  | ok labels => rfl

/-- A declaration in brackets is mapped to the labels that are read from it. -/
theorem sourceTypeMapping_enum (hversion : version = "15" ∨ version = "16" ∨ version = "17")
    (hnul : '\x00' ∉ members) :
    (∃ mapping, sourceTypeMapping library version (bracketed "enum".toList members) = .ok mapping ∧
        mapping.logicalType = .enum labels) ↔
      enumMembers (bracketed "enum".toList members) version = .ok labels := by
  have hsupported : ensureSupportedVersion version = .ok () := if_pos hversion
  have hnormal : normalize (bracketed "enum".toList members) version =
      .ok (bracketed "enum".toList members) := by rw [normalize_enum, if_neg hnul]
  have hfingerprint : ∀ read, sourceDefinitionFingerprint library
      (bracketed "enum".toList members) version (.enum read) = .ok none := by
    intro read
    unfold sourceDefinitionFingerprint
    rw [arrayDeclaration_enum, baseName_enum]
    rfl
  unfold sourceTypeMapping
  rw [hsupported, ok_bind, hnormal, ok_bind, logicalTypeWithCatalog_enum]
  cases hmembers : enumMembers (bracketed "enum".toList members) version with
  | error e =>
    constructor
    · rintro ⟨mapping, hmapping, -⟩
      cases hmapping
    · intro h
      cases h
  | ok read =>
    have hvalid : (LogicalType.enum read).validate = .ok () := rfl
    have hevidence : ∀ native, sourceRepresentationEvidence library native version (.enum read) =
        .ok none := fun native => rfl
    have hmap : (Except.ok read : Except SourceTypeMappingError _).map LogicalType.enum =
        .ok (.enum read) := rfl
    rw [hmap, ok_bind, hvalid]
    dsimp only
    rw [hfingerprint, ok_bind, hevidence, ok_bind]
    constructor
    · rintro ⟨mapping, hmapping, hlogical⟩
      obtain rfl := Except.ok.inj hmapping
      rw [LogicalType.enum.inj hlogical]
    · intro h
      rw [Except.ok.inj h]
      exact ⟨_, rfl, rfl⟩

/-! ## Literals of labels -/

theorem labelText_doubled {label : List Char} (h : '\\' ∉ label) :
    LabelText (enumLabels version) (label.flatMap doubled) label := by
  apply labelText_flatMap
  intro c hc text rest hrest
  unfold doubled
  split
  · exact .quote hrest
  · exact absurd hc h
  · next hquote hescape => exact .plain hescape hquote hrest

theorem quoteLiteral_plain {label : List Char} (h : '\\' ∉ label) :
    quoteLiteral label = quoted doubled label := by
  rw [quoteLiteral, if_neg h, List.nil_append]

/-- Labels without backslashes are read back. -/
theorem enumMembers_plain (hne : labels ≠ []) (hdistinct : labels.Nodup)
    (hlabels : ∀ label ∈ labels, label ≠ "")
    (hplain : ∀ label ∈ labels, '\\' ∉ label.toList ∧ '\x00' ∉ label.toList) :
    enumMembers (enumDeclaration labels) version = .ok labels := by
  have hliterals : aggregatedLabels labels =
      [','].intercalate ((labels.map String.toList).map (quoted doubled)) := by
    rw [aggregatedLabels, List.map_map]
    congr 1
    apply List.map_congr_left
    intro label hlabel
    exact quoteLiteral_plain (hplain label hlabel).1
  have hwrite : ∀ label ∈ labels.map String.toList,
      LabelText (enumLabels version) (label.flatMap doubled) label := by
    intro chars hchars
    obtain ⟨label, hlabel, rfl⟩ := List.mem_map.mp hchars
    exact labelText_doubled (hplain label hlabel).1
  have hread := parseLabels_eq_ok.mpr ⟨.inl (sequence_quoted (by simpa using hne) hwrite), ?_, ?_⟩
  · rw [enumDeclaration, enumMembers_bracketed, hliterals, hread]
    have hback : (labels.map String.toList).map String.ofList = labels := by simp
    exact congrArg Except.ok hback
  · intro chars hchars
    obtain ⟨label, hlabel, rfl⟩ := List.mem_map.mp hchars
    exact ⟨by simpa using hlabels label hlabel, (hplain label hlabel).2⟩
  · exact List.Nodup.map (fun a b hab => String.toList_inj.mp hab) hdistinct

/-- The reader stops at the first label with a backslash. -/
theorem readLabels_escaped {fuel : ℕ} {known labels : List (List Char)}
    (hall : FreshAll known labels) (hescaped : ∃ label ∈ labels, '\\' ∈ label)
    (hfuel : ([','].intercalate (labels.map quoteLiteral)).length < fuel) :
    readLabels (enumLabels version) fuel known ([','].intercalate (labels.map quoteLiteral)) =
      .error (enumLabels version).unquoted := by
  induction hall generalizing fuel with
  | nil =>
    obtain ⟨label, hlabel, -⟩ := hescaped
    cases hlabel
  | @cons known labels label hfresh hall ih =>
    obtain ⟨fuel, rfl⟩ := Nat.exists_eq_add_of_le' (show 1 ≤ fuel by omega)
    by_cases hlabel : '\\' ∈ label
    · have hstart : ∃ chars, [','].intercalate ((label :: labels).map quoteLiteral) =
          'E' :: chars := by
        have hliteral : quoteLiteral label = 'E' :: quoted doubled label := by
          rw [quoteLiteral, if_pos hlabel]
          rfl
        cases labels with
        | nil =>
          refine ⟨quoted doubled label, ?_⟩
          rw [List.map_singleton, List.intercalate_singleton, hliteral]
        | cons next labels =>
          refine ⟨quoted doubled label ++
            ([','] ++ [','].intercalate ((next :: labels).map quoteLiteral)), ?_⟩
          rw [List.map_cons, List.map_cons, List.intercalate_cons_cons, hliteral, List.append_assoc]
          rfl
      obtain ⟨chars, hchars⟩ := hstart
      rw [hchars]
      rfl
    · have hlater : ∃ other ∈ labels, '\\' ∈ other := by
        obtain ⟨other, hother, hescape⟩ := hescaped
        rcases List.mem_cons.mp hother with rfl | hother
        · exact absurd hescape hlabel
        · exact ⟨other, hother, hescape⟩
      have hspaces : Spaces [] := by
        intro c hc
        cases hc
      have hitem : Item (enumLabels version) (quoted doubled label) label :=
        .mk hspaces (labelText_doubled hlabel) hspaces
      cases labels with
      | nil =>
        obtain ⟨other, hother, -⟩ := hlater
        cases hother
      | cons next labels =>
        rw [List.map_cons, List.map_cons, List.intercalate_cons_cons, quoteLiteral_plain hlabel,
          List.append_assoc] at hfuel ⊢
        simp only [List.length_append, List.length_singleton] at hfuel
        rw [readLabels_item hitem (.inr rfl) hfresh]
        exact ih hlater (by rw [List.map_cons]; omega)

/-- A declaration with a backslash in a label is refused. -/
theorem enumMembers_escaped (hdistinct : labels.Nodup)
    (hlabels : ∀ label ∈ labels, label ≠ "" ∧ '\x00' ∉ label.toList)
    (hescaped : ∃ label ∈ labels, '\\' ∈ label.toList) :
    enumMembers (enumDeclaration labels) version =
      .error (.invalid version "PostgreSQL ENUM labels must be quoted") := by
  have hall : FreshAll [] (labels.map String.toList) := by
    rw [freshAll_iff]
    refine ⟨?_, List.Nodup.map (fun a b hab => String.toList_inj.mp hab) hdistinct⟩
    intro chars hchars
    obtain ⟨label, hlabel, rfl⟩ := List.mem_map.mp hchars
    exact ⟨by simpa using (hlabels label hlabel).1, (hlabels label hlabel).2, List.not_mem_nil⟩
  have hsome : ∃ chars ∈ labels.map String.toList, '\\' ∈ chars := by
    obtain ⟨label, hlabel, hescape⟩ := hescaped
    exact ⟨label.toList, List.mem_map_of_mem hlabel, hescape⟩
  have hliterals : aggregatedLabels labels =
      [','].intercalate ((labels.map String.toList).map quoteLiteral) := by
    rw [aggregatedLabels, List.map_map]
    rfl
  have hread := @readLabels_escaped version _ [] (labels.map String.toList) hall hsome
    (Nat.lt_succ_self _)
  rw [← hliterals] at hread
  rw [enumDeclaration, enumMembers_bracketed, parseLabels, hread]
  rfl

/-- The literals have a NUL in them when a label has. -/
theorem nul_mem_aggregatedLabels :
    '\x00' ∈ aggregatedLabels labels ↔ ∃ label ∈ labels, '\x00' ∈ label.toList := by
  have hdoubled : ∀ c, '\x00' ∈ doubled c ↔ c = '\x00' := by
    intro c
    unfold doubled
    split
    · decide
    · decide
    · rw [List.mem_singleton, eq_comm]
  have hliteral : ∀ label, '\x00' ∈ quoteLiteral label ↔ '\x00' ∈ label := by
    intro label
    have hescape : '\x00' ∉ if '\\' ∈ label then ['E'] else [] := by
      split <;> decide
    simp [quoteLiteral, quoted, hescape, hdoubled]
  constructor
  · intro h
    rcases mem_intercalate h with hcomma | ⟨part, hpart, hnul⟩
    · cases hcomma
    · obtain ⟨label, hlabel, rfl⟩ := List.mem_map.mp hpart
      exact ⟨label, hlabel, (hliteral _).mp hnul⟩
  · rintro ⟨label, hlabel, hnul⟩
    exact mem_intercalate_of_mem (List.mem_map_of_mem hlabel) ((hliteral _).mpr hnul)

theorem declared_of_ne (hne : labels ≠ []) : Declared library version labels ↔
    ∃ mapping, sourceTypeMapping library version (enumDeclaration labels) = .ok mapping ∧
      mapping.logicalType = .enum labels := by
  simp [Declared, enumNativeType, hne]

/-- An enum can be declared when it has a label and no label has a backslash in it. -/
theorem declared_iff (hversion : version = "15" ∨ version = "16" ∨ version = "17")
    (hdistinct : labels.Nodup) (hlabels : ∀ label ∈ labels, label ≠ "") :
    Declared library version labels ↔
      labels ≠ [] ∧ ∀ label ∈ labels, '\\' ∉ label.toList ∧ '\x00' ∉ label.toList := by
  have hsupported : ensureSupportedVersion version = .ok () := if_pos hversion
  by_cases hne : labels = []
  · simp [Declared, enumNativeType, hne]
  rw [declared_of_ne hne, and_iff_right hne]
  by_cases hnul : '\x00' ∈ aggregatedLabels labels
  · refine iff_of_false ?_ ?_
    · rintro ⟨mapping, hmapping, -⟩
      rw [sourceTypeMapping, hsupported, ok_bind, enumDeclaration, normalize_enum,
        if_pos hnul] at hmapping
      cases hmapping
    · intro hplain
      obtain ⟨label, hlabel, hmem⟩ := nul_mem_aggregatedLabels.mp hnul
      exact (hplain label hlabel).2 hmem
  · have hclean : ∀ label ∈ labels, '\x00' ∉ label.toList := fun label hlabel hmem =>
      hnul (nul_mem_aggregatedLabels.mpr ⟨label, hlabel, hmem⟩)
    rw [enumDeclaration, sourceTypeMapping_enum hversion hnul]
    constructor
    · intro hread label hlabel
      refine ⟨fun hescape => ?_, hclean label hlabel⟩
      have hrefused := @enumMembers_escaped version labels hdistinct
        (fun label hlabel => ⟨hlabels label hlabel, hclean label hlabel⟩) ⟨label, hlabel, hescape⟩
      rw [enumDeclaration, hread] at hrefused
      cases hrefused
    · intro hplain
      exact enumMembers_plain hne hdistinct hlabels hplain

end

/-- Neither arrays nor the types of a catalog are known. -/
def emptyTypes : TypeLibrary where
  arrayType version _ _ := .error (.invalid version "")
  builtinType _ _ := .ok none
  catalogType version _ := .error (.invalid version "")
  definitionDigest version _ := .error (.invalid version "")
  rawEvidence _ _ _ := .ok none
  evidenceDigest _ _ _ _ := ""

theorem declared_quote : Declared emptyTypes "15" ["it's (a, b)"] := by
  apply (declared_iff (.inl rfl) (List.nodup_singleton _) (by simp)).mpr
  exact ⟨List.cons_ne_nil _ _, by simp⟩

/-- A label with a backslash in it is refused. -/
theorem backslash_label_refused :
    enumDeclaration ["a\\b"] = "enum(E'a\\\\b')" ∧
      sourceTypeMapping emptyTypes "15" "enum(E'a\\\\b')" =
        .error (.invalid "15" "PostgreSQL ENUM labels must be quoted") := by
  refine ⟨by decide +kernel, ?_⟩
  rfl

end DatabaseSync.PostgresqlSource
