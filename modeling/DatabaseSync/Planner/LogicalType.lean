import DatabaseSync.ChangeEvent.Model
import DatabaseSync.Library.Base64
import DatabaseSync.Library.Text

/-! # Logical types

The semantic family and the portable constraints of a field, and which captured values have
the type.
-/

namespace DatabaseSync.Planner

open ChangeEvent Text

inductive LengthUnit
  | bytes
  | characters
deriving DecidableEq, Repr

inductive DuplicateKeyPolicy
  | reject
  | preserveLast
deriving DecidableEq, Repr

structure JsonProfile where
  normalized : Bool
  duplicateKeys : DuplicateKeyPolicy
deriving DecidableEq, Repr

mutual

/-- A type without a maximum length, scale or reference system in its declaration has `none`. -/
inductive LogicalType
  | boolean
  | uuid
  | integer (signed : Bool) (bits : ℕ)
  | decimal (precision : ℕ) (scale : ℤ)
  | decimalUnbounded
  | float (bits : ℕ)
  | text (charset : String) (maxLength : Option ℕ) (lengthUnit : LengthUnit)
      (collation : Option String)
  | binary (maxLength : Option ℕ)
  | bitString (length : ℕ)
  | variableBitString (maxLength : Option ℕ)
  | date
  | localTime (fractionalPrecision : ℕ)
  | offsetTime (fractionalPrecision : ℕ)
  | localDatetime (fractionalPrecision : ℕ)
  | instant (fractionalPrecision : ℕ)
  | duration (fractionalPrecision : ℕ)
  | calendarInterval (fractionalPrecision : ℕ)
  | year
  | json (profile : JsonProfile)
  | enum (members : List String)
  | set (members : List String)
  | spatial (subtype : String) (srid : Option ℤ) (dimensions : ℕ)
  | invalidTemporal (kind : String)
  | network (addressFamily : String) (cidr : Bool)
  | xml
  | array (element : LogicalType)
  | arrayWithMetadata (element : LogicalType) (dimensions : ℕ) (lowerBounds : List ℤ)
  | struct (fields : LogicalFields)
  | map (key value : LogicalType)
  | range (element : LogicalType)
  | multiRange (element : LogicalType)
  | domain (name : String) (base : LogicalType) (constraints : List String) (notNull : Bool)
      (collation : Option String) (definitionDigest : String)
  | opaqueType (sourceType format : String)
  | raw (codecIdentity nativeType sourceDefinitionDigest encoding : String)

/-- The fields of a structured type, in order. -/
inductive LogicalFields
  | nil
  | cons (name : String) (logicalType : LogicalType) (nullable : Bool) (rest : LogicalFields)

end

deriving instance DecidableEq for LogicalType, LogicalFields

namespace LogicalType

def familyName : LogicalType → String
  | boolean => "boolean"
  | uuid => "uuid"
  | integer .. => "integer"
  | decimal .. | decimalUnbounded => "decimal"
  | float _ => "float"
  | text .. => "text"
  | binary _ => "binary"
  | bitString _ | variableBitString _ => "bit_string"
  | date => "date"
  | localTime _ => "local_time"
  | offsetTime _ => "offset_time"
  | localDatetime _ => "local_datetime"
  | instant _ => "instant"
  | duration _ => "duration"
  | calendarInterval _ => "calendar_interval"
  | year => "year"
  | json _ => "json"
  | enum _ => "enum"
  | set _ => "set"
  | spatial .. => "spatial"
  | invalidTemporal _ => "invalid_temporal"
  | network .. => "network"
  | xml => "xml"
  | array _ | arrayWithMetadata .. => "array"
  | struct _ => "struct"
  | map .. => "map"
  | range _ => "range"
  | multiRange _ => "multi_range"
  | domain .. => "domain"
  | opaqueType .. => "opaque"
  | raw .. => "raw"

end LogicalType

/-! ## Values of a type -/

def fractionalMicrosecondsMatch (microseconds : ℤ) (precision : ℕ) : Bool :=
  precision ≤ 6 && microseconds % (10 ^ (6 - precision) : ℕ) == 0

def fractionalNanosecondsMatch (nanoseconds precision : ℕ) : Bool :=
  precision ≤ 6 && nanoseconds % 10 ^ (9 - precision) == 0

def rawCarrierIsReversible (carrier : RawValueCarrier) : Bool :=
  carrier.reversible == some true &&
    carrier.sourceContext.any fun context =>
      context.sourceTypeDefinitionDigest == carrier.sourceDefinitionDigest

/-- `trim_end_matches('0')` -/
def trimEndZeros (digits : List Char) : List Char := (digits.reverse.dropWhile (· == '0')).reverse

/-- The number of bytes of the text. -/
def byteLength (digits : List Char) : ℕ := (String.ofList digits).utf8ByteSize

/-- A finite coefficient within the precision and the scale. -/
def decimalMatches (precision : ℕ) (scale : ℤ) (digits : List Char) (valueScale : ℤ) : Bool :=
  let coefficient := digits.dropWhile (· == '0')
  let scaleMatches := scale == valueScale || (scale < 0 && valueScale == 0)
  let significantDigits :=
    if scale < 0 then max (byteLength (trimEndZeros coefficient)) 1
    else max (byteLength coefficient) 1
  let integerDigits :=
    if coefficient.isEmpty then 0
    else if valueScale < 0 then byteLength coefficient + valueScale.natAbs
    else byteLength coefficient - valueScale.toNat
  -- the difference saturates in an `i32`
  let maximumIntegerDigits := (min ((precision : ℤ) - scale) 2147483647).toNat
  let scaleAligned := 0 ≤ scale || valueScale != 0 || coefficient.isEmpty ||
    scale.natAbs ≤ (digits.reverse.takeWhile (· == '0')).length
  scaleMatches && !digits.isEmpty && significantDigits ≤ precision &&
    integerDigits ≤ maximumIntegerDigits && scaleAligned

def textMatches (charset : String) (maxLength : Option ℕ) (lengthUnit : LengthUnit)
    (valueCharset bytesBase64url : String) (text : Option String) : Bool :=
  eqIgnoreAsciiCase charset valueCharset &&
    match maxLength with
    | none => true
    | some maxLength =>
      match text with
      | some text =>
        match lengthUnit with
        | .bytes => text.utf8ByteSize ≤ maxLength
        | .characters => text.length ≤ maxLength
      | none => (Base64.decode bytesBase64url).any fun bytes => bytes.length ≤ maxLength

def networkMatches (addressFamily : String) (cidr : Bool) (family : String)
    (prefixLength : Option ℕ) : Bool :=
  (eqIgnoreAsciiCase addressFamily family ||
      (eqIgnoreAsciiCase addressFamily "ip" && (family == "ipv4" || family == "ipv6"))) &&
    if cidr then prefixLength.isSome
    else eqIgnoreAsciiCase addressFamily "ip" || prefixLength.isNone

def LogicalValue.isNull : LogicalValue → Bool
  | .null => true
  | _ => false

/-- Both bounds of a range, as far as they are there. -/
def boundsMatch (element : LogicalValue → Bool) : LogicalValue → Bool
  | .range _ lower upper _ _ => lower.all element && upper.all element
  | _ => false

mutual

def LogicalType.matchesValue : LogicalType → LogicalValue → Bool
  | .boolean, value => match value with
    | .boolean _ => true
    | _ => false
  | .uuid, value => match value with
    | .uuid _ => true
    | _ => false
  | .integer signed bits, value => match value with
    | .integer signed' bits' _ => signed == signed' && bits == bits'
    | _ => false
  | .decimal precision scale, value => match value with
    | .decimal unscaled valueScale =>
      if unscaled = "NaN" then valueScale == 0
      else if unscaled = "Infinity" ∨ unscaled = "-Infinity" then false
      else decimalMatches precision scale (dropMinus unscaled.toList) valueScale
    | _ => false
  | .decimalUnbounded, value => match value with
    | .decimal _ _ => true
    | _ => false
  | .float bits, value => match value with
    | .float bits' _ => bits == bits'
    | _ => false
  | .text charset maxLength lengthUnit _, value => match value with
    | .text valueCharset bytesBase64url text =>
      textMatches charset maxLength lengthUnit valueCharset bytesBase64url text
    | _ => false
  | .binary maxLength, value => match value with
    | .binary bytesBase64url => maxLength.all fun maxLength =>
      (Base64.decode bytesBase64url).any fun bytes => bytes.length ≤ maxLength
    | _ => false
  | .bitString length, value => match value with
    | .bitString _ bitLength _ _ => length == bitLength
    | _ => false
  | .variableBitString maxLength, value => match value with
    | .bitString _ bitLength _ _ => maxLength.all fun maximum => bitLength ≤ maximum
    | _ => false
  | .date, value => match value with
    | .date _ _ _ => true
    | .invalidTemporal kind _ => eqIgnoreAsciiCase kind "mysql.date"
    | .temporalInfinity kind _ => kind == .date
    | _ => false
  | .localTime precision, value => match value with
    | .localTime _ _ _ microsecond => fractionalMicrosecondsMatch microsecond precision
    | _ => false
  | .offsetTime precision, value => match value with
    | .offsetTime _ _ _ microsecond _ => fractionalMicrosecondsMatch microsecond precision
    | _ => false
  | .localDatetime precision, value => match value with
    | .localDatetime _ _ _ _ _ _ microsecond => fractionalMicrosecondsMatch microsecond precision
    | .invalidTemporal kind _ => eqIgnoreAsciiCase kind "mysql.datetime"
    | .temporalInfinity kind _ => kind == .localDatetime
    | _ => false
  | .instant precision, value => match value with
    | .instant _ nanoseconds => fractionalNanosecondsMatch nanoseconds precision
    | .invalidTemporal kind _ => eqIgnoreAsciiCase kind "mysql.timestamp"
    | .temporalInfinity kind _ => kind == .instant
    | _ => false
  | .duration precision, value => match value with
    | .duration _ _ _ _ microsecond => fractionalMicrosecondsMatch microsecond precision
    | _ => false
  | .calendarInterval precision, value => match value with
    | .calendarInterval _ _ microseconds => fractionalMicrosecondsMatch microseconds precision
    | .temporalInfinity kind _ => kind == .calendarInterval
    | _ => false
  | .year, value => match value with
    | .year _ => true
    | _ => false
  | .json _, value => match value with
    | .json _ => true
    | _ => false
  | .enum members, value => match value with
    | .enum label => !members.isEmpty && members.any (· == label)
    | _ => false
  | .set members, value => match value with
    | .set values => !members.isEmpty && values.all (members.contains ·) && decide values.Nodup
    | _ => false
  | .spatial subtype srid dimensions, value => match value with
    | .spatial _ _ geometryType valueDimensions valueSrid _ =>
      (subtype == "*" || eqIgnoreAsciiCase subtype geometryType) &&
        (srid.isNone || srid == valueSrid) && (dimensions == 0 || dimensions == valueDimensions)
    | _ => false
  | .invalidTemporal kind, value => match value with
    | .invalidTemporal valueKind _ => kind == valueKind
    | _ => false
  | .network addressFamily cidr, value => match value with
    | .network family _ prefixLength => networkMatches addressFamily cidr family prefixLength
    | _ => false
  | .xml, value => match value with
    | .xml _ _ => true
    | _ => false
  | .array element, value => match value with
    | .array elements | .arrayWithMetadata elements _ _ _ =>
      elements.all fun value => LogicalValue.isNull value || element.matchesValue value
    | _ => false
  | .arrayWithMetadata element dimensions lowerBounds, value => match value with
    | .arrayWithMetadata elements valueDimensions valueLowerBounds _ =>
      dimensions == valueDimensions && lowerBounds == valueLowerBounds &&
        elements.all fun value => LogicalValue.isNull value || element.matchesValue value
    | _ => false
  | .struct fields, value => match value with
    | .struct values => fields.matchValues values
    | _ => false
  | .map key value', value => match value with
    | .map entries => entries.all fun entry =>
      key.matchesValue entry.1 && (LogicalValue.isNull entry.2 || value'.matchesValue entry.2)
    | _ => false
  | .range element, value => boundsMatch (fun bound => element.matchesValue bound) value
  | .multiRange element, value => match value with
    | .multiRange ranges => ranges.all (boundsMatch fun bound => element.matchesValue bound)
    | _ => false
  | .domain _ base _ _ _ _, value => match value with
    | .domain value => base.matchesValue value
    | value => base.matchesValue value
  | .opaqueType sourceType format, value => match value with
    | .raw carrier => sourceType == carrier.nativeType && format == carrier.encoding &&
      rawCarrierIsReversible carrier
    | _ => false
  | .raw codecIdentity nativeType sourceDefinitionDigest encoding, value => match value with
    | .raw carrier => codecIdentity == carrier.codecIdentity && nativeType == carrier.nativeType &&
      sourceDefinitionDigest == carrier.sourceDefinitionDigest && encoding == carrier.encoding &&
      rawCarrierIsReversible carrier
    | _ => false

/-- As many values as fields, each with the field's name, and with its type or `NULL`. -/
def LogicalFields.matchValues : LogicalFields → List (String × LogicalValue) → Bool
  | .nil, values => values.isEmpty
  | .cons name logicalType nullable rest, values => match values with
    | [] => false
    | value :: values =>
      name == value.1 && ((LogicalValue.isNull value.2 && nullable) ||
        logicalType.matchesValue value.2) && rest.matchValues values

end

example : (LogicalType.decimal 5 2).matchesValue (.decimal "-12345" 2) = true := by decide +kernel
example : (LogicalType.decimal 5 2).matchesValue (.decimal "123456" 2) = false := by
  decide +kernel

/-! ## Valid declarations -/

namespace LogicalType

mutual

def validate : LogicalType → Except String Unit
  | .integer _ bits =>
    if [8, 16, 24, 32, 64].contains bits then .ok () else .error "integer width is invalid"
  | .decimal precision scale =>
    if precision = 0 ∨ ¬ (-1000 ≤ scale ∧ scale ≤ 1000) then
      .error "decimal precision or scale is invalid"
    else .ok ()
  | .localTime precision | .offsetTime precision | .localDatetime precision | .instant precision
  | .duration precision | .calendarInterval precision =>
    if 6 < precision then .error "temporal fractional precision is invalid" else .ok ()
  | .float bits =>
    if bits = 32 ∨ bits = 64 then .ok () else .error "floating point width is invalid"
  | .text charset _ _ collation =>
    if isBlank charset || charset.toList.contains '\x00' then .error "text charset is invalid"
    else if collation.any isBlank then .error "text collation is invalid"
    else .ok ()
  | .bitString length => if length = 0 then .error "bit string length must be positive" else .ok ()
  | .variableBitString maxLength =>
    if maxLength = some 0 then .error "variable bit string maximum length must be positive"
    else .ok ()
  | .spatial subtype srid dimensions =>
    let openSpatialShape := subtype == "*" && srid.isNone && dimensions == 0
    if isBlank subtype || (!(2 ≤ dimensions && dimensions ≤ 4) && !openSpatialShape) then
      .error "spatial declaration is invalid"
    else .ok ()
  | .invalidTemporal kind =>
    if isBlank kind then .error "invalid temporal kind is empty" else .ok ()
  | .network addressFamily _ =>
    if isBlank addressFamily then .error "network family is empty" else .ok ()
  | .arrayWithMetadata element dimensions lowerBounds =>
    if dimensions = 0 ∨ dimensions ≠ lowerBounds.length then
      .error "array dimensions and lower bounds do not agree"
    else element.validate
  | .struct fields => validateFields fields []
  | .array element | .range element | .multiRange element => element.validate
  | .map key value => do
    key.validate
    value.validate
  | .domain name base _ _ _ definitionDigest =>
    if isBlank name || isBlank definitionDigest then
      .error "domain identity or definition digest is empty"
    else base.validate
  | .raw codecIdentity nativeType sourceDefinitionDigest encoding =>
    if [codecIdentity, nativeType, sourceDefinitionDigest, encoding].any
        fun value => isBlank value || value.toList.contains '\x00' then
      .error "raw logical type lacks stable source evidence"
    else .ok ()
  | _ => .ok ()

/-- The fields after those whose names are known. -/
def validateFields : LogicalFields → List String → Except String Unit
  | .nil, _ => .ok ()
  | .cons name logicalType _ rest, known => do
    if isBlank name || known.contains name then
      throw "structured field names must be unique and non-empty"
    logicalType.validate
    validateFields rest (name :: known)

end

end LogicalType

end DatabaseSync.Planner
