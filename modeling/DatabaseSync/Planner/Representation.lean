import DatabaseSync.Planner.Parameters

/-! # The representation a plan stores

The parameters that a plan adds to the representation of its entry, the source evidence that is
bound into them, and the losses of the representation.
-/

namespace DatabaseSync.Planner

open ChangeEvent Text TargetRepresentation

def TargetRepresentation.insertAll (target : TargetRepresentation)
    (entries : List (String × String)) : TargetRepresentation :=
  entries.foldl (fun target entry => TargetRepresentation.insert target entry.1 entry.2) target

/-- The length, whether it is fixed, and the padding of a binary type. -/
def binaryDetails (length : Option ℕ) (nativeType : String) : String × Bool × String :=
  let native := toAsciiLowercase (trim nativeType)
  let fixed := startsWith native "binary("
  (formatLength (declaredNumber (2 ^ 64) native <|> length), fixed,
    if fixed then "zero" else "none")

def spatialSrid (srid : Option ℤ) : String := srid.elim "unknown" toString

def spatialCrs (srid : Option ℤ) : String :=
  srid.elim "unknown" fun srid => "srid:" ++ toString srid

/-- The charset, length, length unit and collation of a text target. -/
def targetTextDetails (target : LogicalType) (parameters : List (String × String)) :
    String × String × String × String :=
  let declared := match target with
    | .text charset maxLength lengthUnit collation =>
      (charset, formatLength maxLength, formatLengthUnit lengthUnit, collation.getD "none")
    | _ => ("UTF8", "unbounded", "characters", "none")
  ((parameters.lookup "target_charset").getD declared.1,
    (parameters.lookup "target_length").getD declared.2.1,
    (parameters.lookup "target_length_unit").getD declared.2.2.1,
    (parameters.lookup "target_collation").getD declared.2.2.2)

def temporalDetailsWithParameters (value : LogicalType) (parameters : List (String × String)) :
    String × ℕ :=
  let (kind, precision) := temporalDetails value
  if kind ≠ "unknown" then (kind, (declaredTemporalPrecision parameters).getD precision)
  else (declaredTemporalKind parameters, (declaredTemporalPrecision parameters).getD 0)

/-- The least and the greatest value of an integer column. -/
def integerBounds (signed : Bool) (bits : ℕ) : List (String × String) :=
  if [8, 16, 24, 32, 64].contains bits then
    let (minimum, maximum) : ℤ × ℤ :=
      if signed then (-2 ^ (bits - 1), 2 ^ (bits - 1) - 1) else (0, 2 ^ bits - 1)
    [("target_min", toString minimum), ("target_max", toString maximum)]
  else []

/-- The parameters of a text target. -/
def textEntries (targetType : LogicalType) (parameters : List (String × String)) :
    List (String × String) :=
  let (charset, length, unit, collation) := targetTextDetails targetType parameters
  [("target_charset", charset), ("target_length", length), ("target_length_unit", unit),
    ("target_collation", collation)]

section Target

variable (library : DigestLibrary) (representation : TargetRepresentation)
  (parameters : List (String × String))

def binaryEntries (sourceLength targetLength : Option ℕ) : List (String × String) :=
  let (sourceLength, sourceFixed, sourcePadding) :=
    binaryDetails sourceLength ((parameters.lookup "source_native_type").getD "")
  let (targetLength, targetFixed, targetPadding) := binaryDetails targetLength
    ((parameters.lookup "target_native_type").getD representation.nativeType)
  [("conversion_kind", "binary"), ("binary_encoding", "raw_bytes"),
    ("binary_length_unit", "bytes"), ("source_length", sourceLength),
    ("target_length", targetLength), ("source_fixed", toString sourceFixed),
    ("target_fixed", toString targetFixed), ("source_padding", sourcePadding),
    ("target_padding", targetPadding)]

def bitStringEntries (sourceLength targetLength : ℕ) : List (String × String) :=
  let sourceOrder := (parameterOr representation parameters "source_bit_order").getD "msb_first"
  let targetOrder := (parameterOr representation parameters "target_bit_order").getD sourceOrder
  let sourcePadding := (parameterOr representation parameters "source_padding").getD "zero"
  let targetPadding := ((parameterOr representation parameters "target_padding").filter
    (· != "auto")).getD (if targetLength % 8 = 0 then "none" else "zero")
  [("conversion_kind", "bit_string"), ("source_bit_length", toString sourceLength),
    ("target_bit_length", toString targetLength), ("source_bit_order", sourceOrder),
    ("target_bit_order", targetOrder), ("source_padding", sourcePadding),
    ("target_padding", targetPadding)]

def spatialEntries (sourceSubtype targetSubtype : String) (sourceSrid targetSrid : Option ℤ)
    (sourceDimensions targetDimensions : ℕ) : List (String × String) :=
  [("conversion_kind", "spatial"), ("source_geometry_type", sourceSubtype),
    ("target_geometry_type", targetSubtype), ("source_srid", spatialSrid sourceSrid),
    ("target_srid", spatialSrid targetSrid), ("source_dimensions", toString sourceDimensions),
    ("target_dimensions", toString targetDimensions),
    ("source_crs", (parameters.lookup "source_crs").getD (spatialCrs sourceSrid)),
    ("target_crs", (parameters.lookup "target_crs").getD (spatialCrs targetSrid)),
    ("source_spatial_format",
      (parameterOr representation parameters "source_spatial_format").getD "ewkb"),
    ("target_spatial_format",
      (parameterOr representation parameters "target_spatial_format").getD "ewkb")]

/-- A conversion between temporal kinds, the last family that is tried. -/
def temporalEntries (source targetType : LogicalType) : List (String × String) :=
  if conversionKind representation = some "temporal" then
    let (sourceKind, sourcePrecision) := temporalDetails source
    let (targetKind, targetPrecision) := temporalDetailsWithParameters targetType parameters
    [("source_temporal_kind", sourceKind), ("target_temporal_kind", targetKind),
      ("source_precision", toString sourcePrecision),
      ("target_precision", toString targetPrecision)]
  else []

/-- A structured source, a text source and the rest, as they are told apart by the entry. -/
def conversionEntries (source targetType : LogicalType) : List (String × String) :=
  let sourceKind := recursiveTypeKind source
  let hasKind := (parameter representation "recursive_kind").isSome
  if sourceKind.isSome ∧ sourceKind = recursiveTypeKind targetType ∧ hasKind then
    [("recursive_kind", sourceKind.getD ""), ("structure_mapping", "explicit")]
  else if sourceKind.isSome ∧ targetType.isJson ∧
      conversionKind representation = some "recursive" then
    [("recursive_kind", sourceKind.getD ""), ("structure_mapping", "json_value_carrier")]
  else match source, conversionKind representation with
    | .text sourceCharset sourceLength sourceUnit sourceCollation, some "text" =>
      [("source_charset", sourceCharset), ("source_length", formatLength sourceLength),
        ("source_length_unit", formatLengthUnit sourceUnit),
        ("source_collation", sourceCollation.getD "none")] ++ textEntries targetType parameters
    | .json _, some "json" =>
      if targetType.isText then
        [("source_charset", "UTF8"), ("source_length", "unbounded"),
          ("source_length_unit", "characters"), ("source_collation", "none")] ++
        textEntries targetType parameters ++
        [("json_strategy", (parameters.lookup "json_strategy").getD "normalized_text")]
      else []
    | _, _ => temporalEntries representation parameters source targetType

/-- What a plan adds to the parameters of its entry. -/
def plannedEntries (source targetType : LogicalType) : List (String × String) :=
  let ranged := (parameter representation "range_kind").isSome
  match source, targetType with
  | .integer sourceSigned sourceBits, .integer targetSigned targetBits =>
    if ranged then
      [("source_signed", toString sourceSigned), ("source_bits", toString sourceBits),
        ("target_signed", toString targetSigned), ("target_bits", toString targetBits),
        ("range_check", "strict")] ++ integerBounds targetSigned targetBits
    else temporalEntries representation parameters source targetType
  | .decimal sourcePrecision sourceScale, .decimal targetPrecision targetScale =>
    if ranged then
      [("source_precision", toString sourcePrecision), ("source_scale", toString sourceScale),
        ("target_precision", toString targetPrecision), ("target_scale", toString targetScale),
        ("range_check", "strict"), ("rounding_mode", "reject"),
        ("target_integer_digits", toString (max ((targetPrecision : ℤ) - targetScale) 0))]
    else temporalEntries representation parameters source targetType
  | .float sourceBits, .float targetBits =>
    if ranged then
      [("source_bits", toString sourceBits), ("target_bits", toString targetBits),
        ("range_check", "strict"), ("rounding_mode", "reject")]
    else temporalEntries representation parameters source targetType
  | .binary sourceLength, .binary targetLength =>
    binaryEntries representation parameters sourceLength targetLength
  | .bitString sourceLength, .bitString targetLength =>
    bitStringEntries representation parameters sourceLength targetLength
  | .spatial sourceSubtype sourceSrid sourceDimensions,
    .spatial targetSubtype targetSrid targetDimensions =>
    spatialEntries representation parameters sourceSubtype targetSubtype sourceSrid targetSrid
      sourceDimensions targetDimensions
  | .enum sourceMembers, .enum targetMembers =>
    [("value_strategy", "enum_label"), ("source_members", library.toJson (.names sourceMembers)),
      ("target_members", library.toJson (.names targetMembers))]
  | .set sourceMembers, .set targetMembers =>
    [("value_strategy", "set_members"), ("source_members", library.toJson (.names sourceMembers)),
      ("target_members", library.toJson (.names targetMembers))]
  | _, _ => conversionEntries representation parameters source targetType

def planTargetRepresentation (source targetType : LogicalType) : TargetRepresentation :=
  insertAll representation (plannedEntries library representation parameters source targetType)

end Target

/-! ## Source evidence -/

def representationFormat : SourceRepresentationFormat → String
  | .text => "text"
  | .binary => "binary"

/-- `strip_prefix("sha256:").unwrap_or(digest)` -/
def stripSha256 (digest : String) : String :=
  match digest.toList with
  | 's' :: 'h' :: 'a' :: '2' :: '5' :: '6' :: ':' :: hex => String.ofList hex
  | _ => digest

/-- The type identity of a source whose values are kept in their protocol form. -/
def rawEntries (source : FieldDefinition) : List (String × String) :=
  match source.logicalType with
  | .raw codecIdentity _ sourceDefinitionDigest encoding =>
    [("source_codec_identity", codecIdentity), ("source_type_native", source.nativeType),
      ("source_type_definition_digest", stripSha256 sourceDefinitionDigest),
      ("source_type_encoding", encoding)]
  | _ => []

def outcomeEntries (conversionKind : Option String) : List (String × String) :=
  match conversionKind with
  | some "source_representation" =>
    [("representation_outcome", "SOURCE_REPRESENTATION_PRESERVED"),
      ("source_type_identity_policy", "retain_and_bind_to_definition_digest")]
  | some "logical_value_json" | some "recursive" =>
    [("representation_outcome", "CHANGE_EVENT_LOGICAL_VALUE_ROUNDTRIP")]
  | _ => []

section Evidence

variable (library : DigestLibrary)

def representationEvidenceEntries (evidence : SourceRepresentationTypeEvidence) :
    List (String × String) :=
  let metadata := Evidence.metadata evidence.typeMetadata
  let keys := Evidence.names evidence.allowedContextMetadataKeys
  [("source_representation_type_identity", evidence.sourceTypeIdentity),
    ("source_representation_protocol", evidence.protocol),
    ("source_representation_format", representationFormat evidence.format),
    ("source_representation_type_metadata_json", library.toJson metadata),
    ("source_representation_type_metadata_digest", library.stableDigest metadata),
    ("source_representation_context_metadata_keys_json", library.toJson keys),
    ("source_representation_context_metadata_keys_digest", library.stableDigest keys)]

def bindSourceRepresentationEvidence (target : TargetRepresentation) (source : FieldDefinition)
    (mapping : SourceTypeMapping) : TargetRepresentation :=
  let target := insertAll target ([
      ("source_logical_type_digest", library.stableDigest (.logicalType source.logicalType)),
      ("source_logical_type_json", library.toJson (.logicalType source.logicalType)),
      ("source_mapping_id", mapping.mappingId),
      ("source_mapping_version", mapping.mappingVersion)] ++
    (mapping.evidenceDigest.elim [] fun digest => [("source_mapping_evidence_digest", digest)]) ++
    (mapping.sourceDefinitionFingerprint.elim [] fun fingerprint =>
      [("source_definition_fingerprint", fingerprint)]) ++
    (mapping.environmentFingerprint.elim [] fun fingerprint =>
      [("source_environment_fingerprint", fingerprint)]) ++
    rawEntries source ++
    mapping.sourceRepresentationEvidence.elim [] (representationEvidenceEntries library))
  insertAll target (outcomeEntries (conversionKind target))

/-- The collations of a text conversion are those of the columns. -/
def bindCollations (target : TargetRepresentation) (source destination : FieldDefinition) :
    TargetRepresentation :=
  if conversionKind target = some "text" then
    insertAll target [("source_collation", source.collation.getD "none"),
      ("target_collation", destination.collation.getD "none")]
  else target

end Evidence

/-! ## Losses -/

def LossAssessment.forQualification (qualification : QualificationLevel) (keyLike : Bool) :
    LossAssessment :=
  match qualification with
  | .exact => ⟨false, false, false, false,
    "source semantics are preserved by the qualified target representation"⟩
  | .rangeChecked => ⟨false, false, false, false,
    "values are preserved when the declared target range check passes"⟩
  | .explicitConversion => ⟨true, keyLike, keyLike, true,
    "the selected rule is an explicit semantic conversion and carries a declared guarantee " ++
      "downgrade"⟩
  | .unsupported => ⟨true, true, true, true, "no qualified target representation exists"⟩

def representationLoss (target : TargetRepresentation) (qualification : QualificationLevel)
    (keyLike : Bool) : LossAssessment :=
  match conversionKind target with
  | some "logical_value_json" | some "recursive" => ⟨false, true, true, true,
    "the tagged ChangeEvent LogicalValue is recoverable from the JSON carrier, but " ++
      "source-native comparison, ordering, and constraints do not carry over"⟩
  | some "source_representation" => ⟨true, true, true, true,
    "the exact source protocol envelope and type evidence are preserved; this does not " ++
      "recover the source value or its native comparison, ordering, or constraints"⟩
  | _ => .forQualification qualification keyLike

/-! ## The native type is that of the candidate -/

theorem nativeType_insertAll (target : TargetRepresentation) (entries : List (String × String)) :
    (insertAll target entries).nativeType = target.nativeType := by
  unfold insertAll
  induction entries generalizing target with
  | nil => rfl
  | cons entry entries ih =>
    rw [List.foldl_cons, ih]
    rfl

theorem nativeType_planTargetRepresentation (library : DigestLibrary)
    (representation : TargetRepresentation) (parameters : List (String × String))
    (source targetType : LogicalType) :
    (planTargetRepresentation library representation parameters source targetType).nativeType =
      representation.nativeType :=
  nativeType_insertAll _ _

theorem nativeType_bindSourceRepresentationEvidence (library : DigestLibrary)
    (target : TargetRepresentation) (source : FieldDefinition) (mapping : SourceTypeMapping) :
    (bindSourceRepresentationEvidence library target source mapping).nativeType =
      target.nativeType := by
  unfold bindSourceRepresentationEvidence
  rw [nativeType_insertAll, nativeType_insertAll]

theorem nativeType_bindCollations (target : TargetRepresentation)
    (source destination : FieldDefinition) :
    (bindCollations target source destination).nativeType = target.nativeType := by
  unfold bindCollations
  split
  · exact nativeType_insertAll _ _
  · rfl

end DatabaseSync.Planner
