import DatabaseSync.ChangeEvent.NativeType
import DatabaseSync.Planner.Input

/-! # Which capabilities fit a field binding

The predicates that select the entries of a manifest for one source and one target field, and the
options of the selected rule.
-/

namespace DatabaseSync.Planner

open ChangeEvent Text

/-! ## Ordered maps -/

/-- `BTreeMap::insert` on the entries in key order. -/
def insertEntry (key value : String) : List (String × String) → List (String × String)
  | [] => [(key, value)]
  | (k, v) :: entries =>
    if key < k then (key, value) :: (k, v) :: entries
    else if key = k then (key, value) :: entries
    else (k, v) :: insertEntry key value entries

namespace TargetRepresentation

variable (target : TargetRepresentation)

def parameter (name : String) : Option String := target.parameters.lookup name

def conversionKind : Option String := parameter target "conversion_kind"

def insert (name value : String) : TargetRepresentation :=
  { target with parameters := insertEntry name value target.parameters }

def withNativeType (nativeType : String) : TargetRepresentation :=
  { target with nativeType := nativeType }

end TargetRepresentation

open TargetRepresentation

/-! ## Families of types -/

namespace LogicalType

def isText : LogicalType → Bool
  | text .. => true
  | _ => false

def isBinary : LogicalType → Bool
  | binary _ => true
  | _ => false

def isBitString : LogicalType → Bool
  | bitString _ | variableBitString _ => true
  | _ => false

def isSpatial : LogicalType → Bool
  | spatial .. => true
  | _ => false

def isJson : LogicalType → Bool
  | json _ => true
  | _ => false

def isRaw : LogicalType → Bool
  | raw .. => true
  | _ => false

def isOpaque : LogicalType → Bool
  | opaqueType .. => true
  | _ => false

end LogicalType

def recursiveTypeKind : LogicalType → Option String
  | .array _ | .arrayWithMetadata .. => some "array"
  | .struct _ => some "struct"
  | .map .. => some "map"
  | .range _ => some "range"
  | .multiRange _ => some "multi_range"
  | _ => none

def temporalDetails : LogicalType → String × ℕ
  | .localDatetime precision => ("local_datetime", precision)
  | .instant precision => ("instant", precision)
  | .duration precision => ("duration", precision)
  | _ => ("unknown", 0)

def textCharsetSupported (charset : String) : Bool :=
  ["utf8", "utf8mb4", "utf-8", "ascii", "latin1", "iso-8859-1"].contains (toAsciiLowercase charset)

/-- PostgreSQL's `UTF8` and MySQL's `utf8mb4` are both complete; the three-byte `utf8` is safe as a
source alone. -/
def textCharsetsAreCompatible (source target : String) : Bool :=
  eqIgnoreAsciiCase source target ||
    (target == "UTF8" &&
      (eqIgnoreAsciiCase source "utf8" || eqIgnoreAsciiCase source "utf8mb4")) ||
    (source == "UTF8" && eqIgnoreAsciiCase target "utf8mb4") ||
    (eqIgnoreAsciiCase source "utf8" && eqIgnoreAsciiCase target "utf8mb4")

def sameMembers (left right : List String) : Bool :=
  left.length == right.length && left.all (right.contains ·)

def mysqlSpatialNativeType (nativeType : String) : Bool :=
  let base := String.ofList ((toAsciiLowercase (trim nativeType)).toList.takeWhile fun c =>
    c != '(' && c != ' ' && c != '\t')
  ["geometry", "point", "linestring", "polygon", "multipoint", "multilinestring", "multipolygon",
    "geometrycollection", "geomcollection"].contains base

/-! ## Exact bindings -/

def spatialNativeSemanticsMismatch (source target : FieldDefinition) : Bool :=
  source.logicalType.isSpatial && target.logicalType.isSpatial &&
    isGeographyNativeType source.nativeType != isGeographyNativeType target.nativeType

def textBindingIsExact (source target : FieldDefinition) : Bool :=
  match source.logicalType, target.logicalType with
  | .text sourceCharset sourceLength sourceUnit _, .text targetCharset targetLength targetUnit _ =>
    textCharsetsAreCompatible sourceCharset targetCharset && sourceLength == targetLength &&
      sourceUnit == targetUnit && (source.collation.isNone || target.collation.isNone ||
        source.collation == target.collation)
  | _, targetType => targetType.isOpaque

def temporalBindingIsExact (source target : FieldDefinition) : Bool :=
  let (sourceKind, sourcePrecision) := temporalDetails source.logicalType
  let (targetKind, targetPrecision) := temporalDetails target.logicalType
  if targetKind = "unknown" then target.logicalType.isOpaque
  else sourceKind == targetKind && sourcePrecision == targetPrecision

/-- The families that an opaque target does not take over. -/
def comparedWithOpaque (source : LogicalType) : Bool :=
  source.isBinary || source.isBitString || source.isSpatial ||
    match source with
    | .array _ | .struct _ | .map .. | .range _ | .multiRange _ => true
    | _ => false

/-- The numeric families are not compared: an exact entry may widen them. -/
def exactTypesMatch (source target : FieldDefinition) : Bool :=
  match source.logicalType with
  | .text .. => textBindingIsExact source target
  | .localDatetime _ | .instant _ | .duration _ => temporalBindingIsExact source target
  | .enum sourceMembers => match target.logicalType with
    | .enum targetMembers => sourceMembers == targetMembers
    | _ => false
  | .set sourceMembers => match target.logicalType with
    | .set targetMembers => sameMembers sourceMembers targetMembers
    | _ => false
  | .binary sourceLength => match target.logicalType with
    | .binary targetLength => sourceLength == targetLength
    | _ => false
  | .bitString sourceLength => match target.logicalType with
    | .bitString targetLength => sourceLength == targetLength
    | _ => false
  | .variableBitString sourceLength => match target.logicalType with
    | .variableBitString targetLength => sourceLength == targetLength
    | _ => false
  | .spatial sourceSubtype sourceSrid sourceDimensions => match target.logicalType with
    | .spatial targetSubtype targetSrid targetDimensions =>
      eqIgnoreAsciiCase sourceSubtype targetSubtype && sourceSrid == targetSrid &&
        sourceDimensions == targetDimensions && !spatialNativeSemanticsMismatch source target
    | _ => false
  | .array source => match target.logicalType with
    | .array target => source == target
    | _ => false
  | .struct source => match target.logicalType with
    | .struct target => source == target
    | _ => false
  | .map sourceKey sourceValue => match target.logicalType with
    | .map targetKey targetValue => sourceKey == targetKey && sourceValue == targetValue
    | _ => false
  | .range source => match target.logicalType with
    | .range target => source == target
    | _ => false
  | .multiRange source => match target.logicalType with
    | .multiRange target => source == target
    | _ => false
  | _ => true

def exactCandidateMatchesBinding (capability : CapabilityEntry) (source target : FieldDefinition) :
    Bool :=
  if capability.rule.qualification ≠ .exact then true
  else if target.logicalType.isOpaque && !comparedWithOpaque source.logicalType then true
  else exactTypesMatch source target

/-! ## Capabilities -/

def isRangeTemplate (capability : CapabilityEntry) : Bool :=
  match capability.sourceLogicalType with
  | .integer _ 0 | .decimal 0 _ | .float 0 => true
  | _ => false

def isExplicitTemplate (capability : CapabilityEntry) : Bool :=
  (conversionKind capability.target).isSome

/-- The entries for a whole family, marked by an impossible length or name. -/
def templateMatchesSource (template source : LogicalType) : Bool :=
  match template with
  | .integer _ bits => bits == 0 && match source with
    | .integer _ bits => [8, 16, 24, 32, 64].contains bits
    | _ => false
  | .decimal precision _ => precision == 0 && match source with
    | .decimal precision scale => 0 < precision && 0 ≤ scale
    | _ => false
  | .float bits => bits == 0 && match source with
    | .float bits => bits == 32 || bits == 64
    | _ => false
  | .bitString length => length == 18446744073709551615 && match source with
    | .bitString length => 0 < length
    | .variableBitString maxLength => maxLength.all (0 < ·)
    | _ => false
  | .text charset _ _ _ => charset == "*" && match source with
    | .text sourceCharset _ _ _ => textCharsetSupported sourceCharset
    | _ => false
  | .localDatetime precision => precision == 255 && match source with
    | .localDatetime _ => true
    | _ => false
  | .instant precision => precision == 255 && match source with
    | .instant _ => true
    | _ => false
  | .duration precision => precision == 255 && match source with
    | .duration _ => true
    | _ => false
  | .enum members => members.isEmpty && match source with
    | .enum sourceMembers => !sourceMembers.isEmpty
    | _ => false
  | .set members => members.isEmpty && match source with
    | .set sourceMembers => !sourceMembers.isEmpty
    | _ => false
  | .spatial subtype srid dimensions =>
    subtype == "*" && srid.isNone && dimensions == 0 && source.isSpatial
  | .opaqueType sourceType format => sourceType == "*" &&
    ((format == "recursive" && (recursiveTypeKind source).isSome) ||
      (format == "source_representation" && source.isRaw) || format == "logical_value")
  | _ => false

def capabilityMatchesSource (capability : CapabilityEntry) (source : LogicalType) : Bool :=
  capability.sourceLogicalType == source ||
    templateMatchesSource capability.sourceLogicalType source

/-- The entry writes whichever spatial column it finds. -/
def storesGeometry (capability : CapabilityEntry) : Bool :=
  conversionKind capability.target == some "spatial" ||
    parameter capability.target "target_storage" == some "mysql_geometry"

def targetRepresentationMatchesBinding (capability : CapabilityEntry) (target : FieldDefinition) :
    Bool :=
  let capabilityNative := toAsciiLowercase capability.target.nativeType
  let targetNative := toAsciiLowercase (trim target.nativeType)
  if eqIgnoreAsciiCase capability.target.nativeType target.nativeType then true
  else if storesGeometry capability then
    target.logicalType.isSpatial && mysqlSpatialNativeType target.nativeType
  else if (capabilityNative = "geometry" ∨ capabilityNative = "geography") ∧
      startsWith targetNative (capabilityNative ++ "(") then target.logicalType.isSpatial
  else if capabilityNative = "bit" ∧ target.logicalType.isBitString ∧
      parameter capability.target "target_padding" = some "auto" then
    startsWith targetNative "bit(" || startsWith targetNative "bit varying(" ||
      startsWith targetNative "varbit("
  else match target.logicalType with
    | .enum _ => capabilityNative == "enum" &&
      startsWith (toAsciiLowercase (trimStart target.nativeType)) "enum("
    | .set _ => capabilityNative == "set" &&
      startsWith (toAsciiLowercase (trimStart target.nativeType)) "set("
    | _ => false

/-- The representation of an entry at one target column. -/
def candidateTarget (capability : CapabilityEntry) (target : FieldDefinition) :
    TargetRepresentation :=
  let representation := capability.target
  let representation :=
    if parameter representation "target_padding" = some "auto" ∧ target.logicalType.isBitString then
      withNativeType representation target.nativeType
    else representation
  let representation :=
    if toAsciiLowercase representation.nativeType = "enum" ∨
        toAsciiLowercase representation.nativeType = "set" then
      withNativeType representation target.nativeType
    else representation
  let representation :=
    if storesGeometry capability then withNativeType representation target.nativeType
    else representation
  if (representation.nativeType = "geometry" ∨ representation.nativeType = "geography") ∧
      startsWith (toAsciiLowercase (trim target.nativeType)) (representation.nativeType ++ "(") then
    withNativeType representation target.nativeType
  else representation

/-- A carrier is bound when the source evidence and the declared storage allow it. -/
def carrierMatchesBinding (capability : CapabilityEntry) (target : FieldDefinition)
    (selectedRule : Option RuleReference) : Bool :=
  eqIgnoreAsciiCase target.nativeType capability.target.nativeType &&
    (parameter capability.target "target_storage").any (!·.isEmpty) &&
    selectedRule.all (·.id == capability.rule.id)

def explicitTemplateMatchesBinding (capability : CapabilityEntry) (source target : FieldDefinition)
    (selectedRule : Option RuleReference) (hasSourceRepresentationEvidence : Bool) : Bool :=
  let selected := selectedRule.any (·.id == capability.rule.id)
  if !isExplicitTemplate capability then true
  else if source.isKeyLike || target.isKeyLike then false
  else match conversionKind capability.target with
    | some "text" => match source.logicalType with
      | .text charset _ _ _ =>
        textCharsetSupported charset && (selected || !textBindingIsExact source target)
      | _ => false
    | some "json" => source.logicalType.isJson && target.logicalType.isText &&
      (selected || !target.logicalType.isJson)
    | some "enum" => match source.logicalType, target.logicalType with
      | .enum sourceMembers, .enum targetMembers =>
        sameMembers sourceMembers targetMembers && (selected || sourceMembers != targetMembers)
      | _, _ => false
    | some "temporal" => (temporalDetails source.logicalType).1 != "unknown" &&
      (selected || !temporalBindingIsExact source target)
    | some "recursive" => (recursiveTypeKind source.logicalType).isSome &&
      target.logicalType.isJson && (selectedRule.isNone || selected)
    | some "logical_value_json" =>
      parameter capability.target "logical_value_schema" ==
          some "change_event.logical_value.v0_3" &&
        parameter capability.target "value_strategy" == some "tagged_json_v0_3" &&
        carrierMatchesBinding capability target selectedRule
    | some "source_representation" => hasSourceRepresentationEvidence &&
      source.logicalType.isRaw && target.logicalType.isBinary &&
      carrierMatchesBinding capability target selectedRule
    | _ => false

/-- Both the entry and its rule declare what is required, or leave it open. -/
def supportsDeclared {α : Type} [DecidableEq α] (capability rule required : List α) : Bool :=
  (capability.isEmpty || required.all (capability.contains ·)) &&
    (rule.isEmpty || required.all (rule.contains ·))

def probeQualifiesCapability (probe : Option TargetCapabilityProbe) (capability : CapabilityEntry) :
    Bool :=
  probe.all fun probe => probe.capabilities.any fun entry =>
    entry.identity == capability.code && entry.status == .qualified

/-! ## Options of a rule -/

def validOptionValue (option : OptionSpec) (value : String) : Bool :=
  !value.isEmpty &&
    (match option.valueKind with
      | .boolean => value == "true" || value == "false"
      | .integer => (parseSigned (2 ^ 127) value).isSome
      | .string | .enum => true) &&
    (option.allowedValues.isEmpty || option.allowedValues.any (· == value))

/-- The parameters of a plan, the names of those that are missing, and what is wrong with the
others. -/
structure NormalizedOptions where
  parameters : List (String × String)
  missing : List String
  invalid : List String
deriving DecidableEq, Repr

namespace NormalizedOptions

variable (options : NormalizedOptions)

/-- One parameter of the route. Of two options of a name the later one counts. -/
def addParameter (rule : ConversionRule) (entry : String × String) : NormalizedOptions :=
  match (rule.options.filter (·.name == entry.1)).getLast? with
  | none => { options with invalid := options.invalid ++ ["unknown option " ++ entry.1] }
  | some spec =>
    if validOptionValue spec entry.2 then
      { options with parameters := insertEntry entry.1 entry.2 options.parameters }
    else { options with invalid := options.invalid ++ ["option " ++ entry.1] }

/-- One option of the rule, when the route leaves it open. -/
def addDefault (option : OptionSpec) : NormalizedOptions :=
  if (options.parameters.lookup option.name).isSome then options
  else match option.defaultValue with
    | some value =>
      if validOptionValue option value then
        { options with parameters := insertEntry option.name value options.parameters }
      else { options with invalid := options.invalid ++ ["default for option " ++ option.name] }
    | none =>
      if option.required then { options with missing := options.missing ++ [option.name] }
      else options

end NormalizedOptions

def normalizeOptions (rule : ConversionRule) (parameters : List (String × String)) :
    NormalizedOptions :=
  rule.options.foldl NormalizedOptions.addDefault
    (parameters.foldl (fun options => options.addParameter rule) ⟨[], [], []⟩)

end DatabaseSync.Planner
