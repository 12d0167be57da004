import DatabaseSync.ChangeEvent.TimeZone
import DatabaseSync.Planner.Rules

/-! # Parameters of an explicit conversion

What the rule of an explicit conversion needs to know about both columns, and the checks on it
before a plan is built.
-/

namespace DatabaseSync.Planner

open ChangeEvent Text TargetRepresentation

def formatLengthUnit : LengthUnit → String
  | .bytes => "bytes"
  | .characters => "characters"

/-- A length as it stands in a parameter. -/
def formatLength (length : Option ℕ) : String := length.elim "unbounded" toString

/-- The number in the first parentheses of a type. -/
def declaredNumber (bound : ℕ) (native : String) : Option ℕ := do
  let (_, rest) ← splitOnce native '('
  let (value, _) ← splitOnce rest ')'
  parseUnsigned 10 bound value

/-- The kind that the parameters give to a target column of no temporal type. -/
def declaredTemporalKind (parameters : List (String × String)) : String :=
  match parameters.lookup "target_temporal_kind" with
  | some "local_datetime" => "local_datetime"
  | some "instant" => "instant"
  | some "duration" => "duration"
  | _ => "unknown"

def declaredTemporalPrecision (parameters : List (String × String)) : Option ℕ :=
  (parameters.lookup "target_precision").bind (parseUnsigned 10 256)

def targetTemporalDetails (field : FieldDefinition) (parameters : List (String × String)) :
    String × ℕ :=
  let (kind, precision) := temporalDetails field.logicalType
  let native := toAsciiLowercase field.nativeType
  if kind ≠ "unknown" then (kind, precision)
  else
    (if containsText native "with time zone" then "instant"
      else if containsText native "without time zone" ∨ startsWith native "datetime" ∨
          startsWith native "timestamp" then "local_datetime"
      else if startsWith native "time" ∨ startsWith native "interval" then "duration"
      else declaredTemporalKind parameters,
    (declaredNumber 256 native <|> declaredTemporalPrecision parameters).getD 0)

def requiredParameter (parameters : List (String × String)) (name : String) :
    Except String String :=
  match parameters.lookup name with
  | some value =>
    if value.isEmpty then .error ("required conversion parameter " ++ name ++ " is missing")
    else .ok value
  | none => .error ("required conversion parameter " ++ name ++ " is missing")

/-- The offset itself is not used, so one that leaves its type does no harm here. -/
def checkTimezone (value : String) : Except String Unit :=
  match parseTimezoneValue value with
  | .error (.refused message) => .error message
  | _ => .ok ()

/-- The strategy between two temporal kinds. -/
def temporalStrategy : String → String → Option String
  | "local_datetime", "instant" => some "local_to_absolute"
  | "instant", "local_datetime" => some "absolute_to_local"
  | "local_datetime", "local_datetime" => some "preserve_local"
  | "instant", "instant" => some "preserve_absolute"
  | "duration", "duration" => some "preserve_duration"
  | _, _ => none

/-- A positive number, or no bound. -/
def validTextLength (length : String) : Bool :=
  length == "unbounded" || ((parseU64 length).isSome && length != "0")

/-- The parameters describe the text column they are for. -/
def textParametersMatch (charset length unit : String) : LogicalType → Bool
  | .text targetCharset targetLength targetUnit _ =>
    eqIgnoreAsciiCase charset targetCharset && length == formatLength targetLength &&
      unit == formatLengthUnit targetUnit
  | _ => true

/-- A parameter of the route, or else of the entry. -/
def parameterOr (target : TargetRepresentation) (parameters : List (String × String))
    (name : String) : Option String :=
  parameters.lookup name <|> parameter target name

section Checks

variable (target : TargetRepresentation) (source destination : FieldDefinition)
  (parameters : List (String × String))

def validateBinaryParameters : Except String Unit := do
  ensure (source.logicalType.isBinary && destination.logicalType.isBinary)
    "binary conversion requires binary source and target fields"
  ensure (parameterOr target parameters "binary_encoding" == some "raw_bytes" &&
      parameterOr target parameters "binary_length_unit" == some "bytes")
    "binary conversion must explicitly use raw bytes and byte length semantics"
  match parameterOr target parameters "target_length" with
  | none => throw "binary target length is missing"
  | some targetLength =>
    ensure (targetLength == "unbounded" || (parseU64 targetLength).isSome)
      "binary target length is invalid"
  ensure (parameterOr target parameters "target_fixed" != some "true" ||
      parameterOr target parameters "target_padding" == some "zero" ||
      parameterOr target parameters "target_padding" == some "one")
    "fixed binary targets require explicit padding semantics"

def validateBitStringParameters : Except String Unit :=
  match source.logicalType, destination.logicalType with
  | .bitString sourceLength, .bitString targetLength => do
    ensure (parameterOr target parameters "binary_length_unit" == some "bits" ||
        parameterOr target parameters "bit_length_unit" == some "bits")
      "bit-string length must be explicitly measured in bits"
    match parameterOr target parameters "target_bit_length" with
    | none => throw "target bit length is missing"
    | some declared =>
      match parseU64 declared with
      | none => throw "target bit length is invalid"
      | some declared =>
        ensure (declared == targetLength && sourceLength == targetLength)
          "bit-string length conversion is not qualified"
    ensure ((parameterOr target parameters "target_bit_order" == some "msb_first" ||
        parameterOr target parameters "target_bit_order" == some "lsb_first") &&
        (parameterOr target parameters "target_padding" == some "none" ||
        parameterOr target parameters "target_padding" == some "zero" ||
        parameterOr target parameters "target_padding" == some "one"))
      "bit-string padding and bit order must be explicit"
  | _, _ => .error "bit-string conversion requires bit-string source and target fields"

def validateSpatialParameters : Except String Unit :=
  match source.logicalType, destination.logicalType with
  | .spatial sourceSubtype sourceSrid sourceDimensions,
    .spatial targetSubtype targetSrid targetDimensions => do
    ensure (sourceSrid.isSome && targetSrid.isSome && sourceSubtype == targetSubtype &&
        sourceSrid == targetSrid && sourceDimensions == targetDimensions)
      "spatial conversion requires equal qualified SRID, geometry type, and dimensions"
    ensure ((parameterOr target parameters "source_spatial_format" == some "wkb" ||
        parameterOr target parameters "source_spatial_format" == some "ewkb") &&
        (parameterOr target parameters "target_spatial_format" == some "wkb" ||
        parameterOr target parameters "target_spatial_format" == some "ewkb"))
      "spatial wire format must be explicitly qualified"
    match parameterOr target parameters "source_crs",
        parameterOr target parameters "target_crs" with
    | none, _ => throw "source CRS is missing"
    | _, none => throw "target CRS is missing"
    | some sourceCrs, some targetCrs =>
      ensure (sourceCrs != "unknown" && targetCrs != "unknown" && sourceCrs == targetCrs)
        "spatial CRS is missing or not equivalent"
  | _, _ => .error "spatial conversion requires spatial source and target fields"

def validateRecursiveParameters : Except String Unit :=
  let sourceKind := recursiveTypeKind source.logicalType
  if sourceKind.isSome ∧ destination.logicalType.isJson ∧
      parameterOr target parameters "structure_mapping" = some "json_value_carrier" then .ok ()
  else do
    ensure (sourceKind.isSome && sourceKind == recursiveTypeKind destination.logicalType)
      "recursive source and target structures are not equivalent"
    ensure (parameterOr target parameters "structure_mapping" == some "explicit")
      "recursive conversion requires an explicit structure mapping"

def validateLogicalValueCarrier : Except String Unit :=
  ensure (eqIgnoreAsciiCase target.nativeType destination.nativeType &&
      parameter target "logical_value_schema" == some "change_event.logical_value.v0_3" &&
      parameter target "value_strategy" == some "tagged_json_v0_3" &&
      (parameter target "target_storage").any (!·.isEmpty))
    "tagged LogicalValue storage requires a versioned value-carrier declaration"

def validateSourceRepresentationCarrier : Except String Unit :=
  ensure (source.logicalType.isRaw && destination.logicalType.isBinary &&
      eqIgnoreAsciiCase destination.nativeType target.nativeType &&
      parameter target "source_representation_codec" ==
        some "source_representation_envelope_json_v1" &&
      (parameter target "target_storage").any (!·.isEmpty))
    ("Source Representation Envelope storage requires the qualified pre-created binary " ++
      "carrier")

def validateTextParameters : Except String Unit :=
  match source.logicalType with
  | .text charset _ _ _ => do
    ensure (textCharsetSupported charset)
      ("source charset " ++ charset ++ " is not qualified for explicit conversion")
    let targetCharset ← requiredParameter parameters "target_charset"
    let targetLength ← requiredParameter parameters "target_length"
    let targetUnit ← requiredParameter parameters "target_length_unit"
    let targetCollation ← requiredParameter parameters "target_collation"
    ensure (textCharsetSupported targetCharset)
      ("target charset " ++ targetCharset ++ " is not qualified")
    ensure (validTextLength targetLength) "target_length must be a positive integer or unbounded"
    ensure (targetUnit == "bytes" || targetUnit == "characters")
      "target_length_unit must be bytes or characters"
    ensure (!targetCollation.isEmpty)
      "target_collation must be explicit; use none for a binary/unqualified target"
    ensure (textParametersMatch targetCharset targetLength targetUnit destination.logicalType)
      "text conversion parameters do not match the pre-created target column"
    ensure (eqIgnoreAsciiCase targetCollation (destination.collation.getD "none"))
      "target_collation does not match the pre-created target column"
  | _ => .error "text conversion requires a text source logical type"

def validateJsonParameters : Except String Unit :=
  match source.logicalType with
  | .json profile => do
    ensure profile.normalized "source JSON profile is not normalized"
    let strategy ← requiredParameter parameters "json_strategy"
    ensure (strategy != "raw_text")
      "raw JSON text is unavailable because ChangeEvent stores normalized structure"
    ensure (strategy == "normalized_text") "json_strategy must be normalized_text"
    ensure destination.logicalType.isText "JSON text conversion requires a pre-created text target"
    let targetCharset ← requiredParameter parameters "target_charset"
    let targetLength ← requiredParameter parameters "target_length"
    let targetUnit ← requiredParameter parameters "target_length_unit"
    let targetCollation ← requiredParameter parameters "target_collation"
    ensure (textCharsetSupported targetCharset)
      ("target charset " ++ targetCharset ++ " is not qualified")
    ensure (validTextLength targetLength) "target_length must be a positive integer or unbounded"
    ensure ((targetUnit == "bytes" || targetUnit == "characters") && !targetCollation.isEmpty)
      "JSON text target parameters are incomplete"
    ensure (textParametersMatch targetCharset targetLength targetUnit destination.logicalType &&
        eqIgnoreAsciiCase targetCollation (destination.collation.getD "none"))
      "JSON text parameters do not match the pre-created target column"
  | _ => .error "JSON text conversion requires a JSON source logical type"

def validateEnumParameters : Except String Unit :=
  match source.logicalType, destination.logicalType with
  | .enum sourceMembers, .enum targetMembers => do
    ensure (sameMembers sourceMembers targetMembers)
      ("ENUM label conversion requires the same declared label set; ordinal remapping is " ++
        "forbidden")
    ensure (parameter target "value_strategy" == some "enum_label")
      "ENUM conversion must use enum_label"
  | _, _ => .error "ENUM label conversion requires ENUM source and target types"

def validateTemporalParameters : Except String Unit := do
  let (sourceKind, sourcePrecision) := temporalDetails source.logicalType
  let (targetKind, targetPrecision) := targetTemporalDetails destination parameters
  ensure (sourceKind != "unknown") "temporal conversion requires a temporal source logical type"
  ensure (targetKind != "unknown") "target temporal kind is not qualified"
  let declared ← requiredParameter parameters "target_precision"
  match parseUnsigned 10 256 declared with
  | none => throw "target_precision must be an integer from 0 to 6"
  | some declared =>
    ensure (declared ≤ 6 && declared == targetPrecision)
      "target_precision does not match the pre-created target column"
  let strategy ← requiredParameter parameters "temporal_strategy"
  match temporalStrategy sourceKind targetKind with
  | none => throw "temporal conversion strategy is not qualified"
  | some expected => ensure (strategy == expected) ("temporal_strategy must be " ++ expected)
  if sourceKind ≠ targetKind then
    let timezone ← requiredParameter parameters "time_zone"
    checkTimezone timezone
  else
    ensure (sourcePrecision != targetPrecision)
      "an explicit temporal conversion must change precision or time semantics"

/-- An entry without a conversion kind needs no parameters. -/
def validateExplicitParameters : Except String Unit :=
  match conversionKind target with
  | some "binary" => validateBinaryParameters target source destination parameters
  | some "bit_string" => validateBitStringParameters target source destination parameters
  | some "spatial" => validateSpatialParameters target source destination parameters
  | some "recursive" => validateRecursiveParameters target source destination parameters
  | some "logical_value_json" => validateLogicalValueCarrier target destination
  | some "source_representation" => validateSourceRepresentationCarrier target source destination
  | some "text" => validateTextParameters source destination parameters
  | some "json" => validateJsonParameters source destination parameters
  | some "enum" => validateEnumParameters target source destination
  | some "temporal" => validateTemporalParameters source destination parameters
  | _ => .ok ()

theorem validateExplicitParameters_of_not_template (h : conversionKind target = none) :
    validateExplicitParameters target source destination parameters = .ok () := by
  simp only [validateExplicitParameters, h]

end Checks

end DatabaseSync.Planner
