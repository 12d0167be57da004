import DatabaseSync.ChangeEvent.Failure
import DatabaseSync.ChangeEvent.Validate

/-! # Values of the MySQL sink

How a logical value becomes a parameter of the MySQL driver. JSON and number formatting are
parameters.
-/

namespace DatabaseSync.MysqlSink

open ChangeEvent Text

/-- What the sink takes from other libraries: the serialized form of tagged values, envelopes
and strings, and the display of a float with given bits. -/
structure ValueLibrary extends ValidationLibrary where
  valueJson : LogicalValue → String
  envelopeJson : SourceRepresentationEnvelope → List UInt8
  stringJson : String → String
  displayFloat : ℕ → ℕ → String

/-- A parameter of the driver. Floats are kept as their bits. -/
inductive Value
  | null
  | bytes (bytes : List UInt8)
  | int (value : ℤ)
  | uint (value : ℕ)
  | float (bits : ℕ)
  | double (bits : ℕ)
  | date (year month day hour minute second microsecond : ℕ)
  | time (negative : Bool) (days hours minutes seconds microsecond : ℕ)
deriving DecidableEq, Repr

def sinkErrorText : SinkError → String
  | .targetCapability failure =>
    "Target Capability Failure [" ++ failure.code ++ "]: " ++ failure.cause
  | .validation message => message
  | .message text => text
  | .database => "database error"

def utf8Bytes (s : String) : List UInt8 := s.toUTF8.toList

def decodeBytes (value : String) : Except SinkError (List UInt8) :=
  match Base64.decode value with
  | some bytes => .ok bytes
  | none => .error (.message "invalid base64url bytes")

def parseHexBits (value : String) (width : ℕ) : Except SinkError ℕ :=
  if value.toList.length = width ∧ value.toList.all isAsciiHexDigit then
    match parseUnsigned 16 (2 ^ 64) value with
    | some bits => .ok bits
    | none => .error (.message ("invalid IEEE-754 bit pattern " ++ value.quote))
  else .error (.message ("invalid IEEE-754 bit pattern " ++ value.quote))

/-- The exponent bits are not all ones. -/
def isFinite (bits raw : ℕ) : Bool :=
  if bits = 32 then raw / 2 ^ 23 % 2 ^ 8 ≠ 255 else raw / 2 ^ 52 % 2 ^ 11 ≠ 2047

def validateUuid (value : String) : Except SinkError Unit :=
  if isUuid value then .ok () else .error (capabilityFailure "Uuid value is not in canonical form")

/-- The digits behind an optional sign. -/
def unsignedDigits (value : String) : List Char :=
  match value.toList with
  | '-' :: l => l
  | '+' :: l => l
  | l => l

def signText (value : String) : String := if value.toList.head? = some '-' then "-" else ""

def validateInteger (value : String) (signed : Bool) : Except SinkError String :=
  if !isDigits (if signed then unsignedDigits value else value.toList) then
    .error (.message ("invalid integer literal " ++ value.quote))
  else .ok value

def renderDecimal (unscaled : String) (scale : ℕ) : Except SinkError String :=
  let digits := unsignedDigits unscaled
  if !isDigits digits then .error (.message ("invalid decimal unscaled value " ++ unscaled.quote))
  else if scale = 0 then .ok (signText unscaled ++ String.ofList digits)
  else if digits.length > scale then
    .ok (signText unscaled ++ String.ofList (digits.take (digits.length - scale)) ++ "." ++
      String.ofList (digits.drop (digits.length - scale)))
  else .ok (signText unscaled ++ "0." ++ "".pushn '0' (scale - digits.length) ++
    String.ofList digits)

def mysqlYear (year : ℤ) : Except SinkError ℕ :=
  if 0 ≤ year ∧ year < 2 ^ 16 then .ok year.toNat
  else .error (capabilityFailure "year is outside the MySQL driver range")

/-- The civil date of a day count from 1970-01-01. -/
def civilFromDays (days : ℤ) : ℤ × ℤ × ℤ :=
  let z := days + 719468
  let era := z / 146097
  let dayOfEra := z - era * 146097
  let yearOfEra :=
    (dayOfEra - dayOfEra / 1460 + dayOfEra / 36524 - dayOfEra / 146096) / 365
  let dayOfYear := dayOfEra - (365 * yearOfEra + yearOfEra / 4 - yearOfEra / 100)
  let monthPart := (5 * dayOfYear + 2) / 153
  let day := dayOfYear - (153 * monthPart + 2) / 5 + 1
  let month := monthPart + if monthPart < 10 then 3 else -9
  (yearOfEra + era * 400 + if month ≤ 2 then 1 else 0, month, day)

def unixInstantValue (seconds : String) (nanoseconds : ℕ) : Except SinkError Value := do
  if nanoseconds > 999999999 ∨ nanoseconds % 1000 ≠ 0 then
    throw (capabilityFailure
      "MySQL target supports TIMESTAMP precision only through microseconds")
  match parseSigned (2 ^ 63) (← validateInteger seconds true) with
  | none => throw (capabilityFailure "instant seconds are outside MySQL range")
  | some seconds =>
    let daySeconds := (seconds % 86400).toNat
    let (year, month, day) := civilFromDays (seconds / 86400)
    if ¬ (1 ≤ year ∧ year ≤ 65535) then
      throw (capabilityFailure "instant is outside MySQL date range")
    return .date year.toNat month.toNat day.toNat (daySeconds / 3600) (daySeconds % 3600 / 60)
      (daySeconds % 60) (nanoseconds / 1000)

/-- The separators of an invalid temporal spelling by position, and its length. -/
def temporalFormat (kind : String) : Option (List (ℕ × Char) × ℕ) :=
  if kind = "mysql.date" then some ([(4, '-'), (7, '-')], 10)
  else if kind = "mysql.datetime" ∨ kind = "mysql.timestamp" then
    some ([(4, '-'), (7, '-'), (10, ' '), (13, ':'), (16, ':'), (19, '.')], 26)
  else none

def mysqlInvalidTemporalValue (kind raw : String) : Except SinkError Value :=
  match temporalFormat kind with
  | none => .error (capabilityFailure "unqualified invalid temporal kind")
  | some (separators, length) =>
    if raw.toList.length = length ∧ raw.toList.zipIdx.all fun (c, index) =>
        match separators.lookup index with
        | some separator => c == separator
        | none => isAsciiDigit c then .ok (.bytes (utf8Bytes raw))
    else .error (capabilityFailure
      "invalid temporal raw spelling is outside the MySQL qualified format")

def isCharsetName (charset : String) : Bool :=
  !charset.isEmpty && charset.toList.all fun c => isAsciiAlphanumeric c || c == '_'

def mysqlCharsetName (charset : String) : Except SinkError String :=
  if isCharsetName charset then .ok charset
  else .error (capabilityFailure "invalid MySQL charset identifier")

section Binding

variable (library : ValueLibrary)

def renderFloat (bits : ℕ) (hexadecimal : String) : Except SinkError String := do
  let raw ← parseHexBits hexadecimal (bits / 4)
  if !isFinite bits raw then
    throw (.message "MySQL SQL output does not support non-finite DOUBLE values")
  if raw = 2 ^ (bits - 1) then return "-0.0"
  return library.displayFloat bits raw

def renderJsonDouble (value : String) : Except SinkError String := do
  let rendered ← renderFloat library 64 value
  if rendered.toList.any fun c => ['.', 'e', 'E'].contains c then return rendered
  return rendered ++ ".0"

mutual

def renderJson : JsonValue → Except SinkError String
  | .null => .ok "null"
  | .boolean value => .ok (toString value)
  | .string value => .ok (library.stringJson value)
  | .signedInteger value => validateInteger value true
  | .unsignedInteger value => validateInteger value false
  | .doubleBits value => renderJsonDouble library value
  | .decimal unscaled scale => renderDecimal unscaled scale
  | .array items => do return "[" ++ ",".intercalate (← renderItems items) ++ "]"
  | .object entries => do return "\x7b" ++ ",".intercalate (← renderEntries entries) ++ "\x7d"

def renderItems : List JsonValue → Except SinkError (List String)
  | [] => .ok []
  | item :: items => return (← renderJson item) :: (← renderItems items)

def renderEntries : List (String × JsonValue) → Except SinkError (List String)
  | [] => .ok []
  | (key, value) :: entries =>
    return (library.stringJson key ++ ":" ++ (← renderJson value)) :: (← renderEntries entries)

end

def integerValue (signed : Bool) (value : String) : Except SinkError Value :=
  if signed then
    match parseSigned (2 ^ 63) value with
    | some n => .ok (.int n)
    | none => .error (capabilityFailure "signed integer is outside MySQL range")
  else
    match parseU64 value with
    | some n => .ok (.uint n)
    | none => .error (capabilityFailure "unsigned integer is outside MySQL range")

def decimalValue (unscaled : String) (scale : ℤ) : Except SinkError Value := do
  if (unsignedDigits unscaled).length > 65 ∨ ¬ (0 ≤ scale ∧ scale ≤ 30) then
    throw (capabilityFailure "DECIMAL precision exceeds the MySQL target capability")
  return .bytes (utf8Bytes (← renderDecimal unscaled scale.toNat))

def floatValue (bits : ℕ) (ieee754Hex : String) : Except SinkError Value := do
  if bits ≠ 32 ∧ bits ≠ 64 then
    throw (capabilityFailure "unsupported floating point width")
  let raw ← (parseHexBits ieee754Hex (bits / 4)).mapError fun e =>
    capabilityFailure (sinkErrorText e)
  if !isFinite bits raw then
    throw (capabilityFailure (if bits = 32 then "MySQL does not preserve non-finite FLOAT values"
      else "MySQL does not preserve non-finite DOUBLE values"))
  return if bits = 32 then .float raw else .double raw

def durationValue (negative : Bool) (hours minutes seconds microsecond : ℕ) :
    Except SinkError Value :=
  if hours / 24 < 2 ^ 32 then
    .ok (.time negative (hours / 24) (hours % 24) minutes seconds microsecond)
  else .error (capabilityFailure "duration is too large")

def bindLogicalValue (value : LogicalValue) : Except SinkError Value :=
  match value with
  | .boolean value => .ok (.int (if value then 1 else 0))
  | .uuid value => do
    validateUuid value
    return .bytes (utf8Bytes value)
  | .integer signed _ value => integerValue signed value
  | .decimal unscaled scale => decimalValue unscaled scale
  | .float bits ieee754Hex => floatValue bits ieee754Hex
  | .text charset bytesBase64url _ =>
    if ["utf8", "utf8mb4"].contains (toAsciiLowercase charset) then do
      return .bytes (← decodeBytes bytesBase64url)
    else .error (capabilityFailure
      ("text charset " ++ charset ++ " has no qualified MySQL mapping"))
  | .binary bytesBase64url => do return .bytes (← decodeBytes bytesBase64url)
  | .bitString bytesBase64url _ _ _ => do return .bytes (← decodeBytes bytesBase64url)
  | .date year month day => do return .date (← mysqlYear year) month day 0 0 0 0
  | .localDatetime year month day hour minute second microsecond => do
    return .date (← mysqlYear year) month day hour minute second microsecond
  | .localTime hour minute second microsecond =>
    .ok (.time false 0 hour minute second microsecond)
  | .duration negative hours minutes seconds microsecond =>
    durationValue negative hours minutes seconds microsecond
  | .instant unixSeconds nanoseconds => unixInstantValue unixSeconds nanoseconds
  | .year value =>
    if 0 ≤ value then .ok (.uint value.toNat)
    else .error (capabilityFailure "negative YEAR is unsupported")
  | .invalidTemporal kind raw => mysqlInvalidTemporalValue kind raw
  | .enum label => .ok (.bytes (utf8Bytes label))
  | .set members => .ok (.bytes (utf8Bytes (",".intercalate members)))
  | .json value => do
    return .bytes (utf8Bytes (← (renderJson library value).mapError fun e =>
      capabilityFailure (sinkErrorText e)))
  | _ => .error (capabilityFailure
      "MySQL 8.0 has no qualified target representation for this structured value")

/-- The little-endian bytes of a 32-bit SRID. -/
def sridBytes (srid : ℕ) : List UInt8 :=
  [UInt8.ofNat srid, UInt8.ofNat (srid / 2 ^ 8), UInt8.ofNat (srid / 2 ^ 16),
    UInt8.ofNat (srid / 2 ^ 24)]

/-- A spatial value. Version 5.7 stores the SRID before the well-known bytes. -/
def mysqlSpatialValue (targetVersion : String) (value : LogicalValue) : Except SinkError Value :=
  match value with
  | .spatial format bytesBase64url _ _ srid _ => do
    if format ≠ .wkb then
      throw (capabilityFailure "MySQL spatial writes require a qualified WKB value")
    match srid with
    | none => throw (capabilityFailure "MySQL spatial writes require an SRID")
    | some srid =>
      if ¬ (0 ≤ srid ∧ srid < 2 ^ 32) then
        throw (capabilityFailure "MySQL spatial SRID is outside the native range")
      let wkb ← decodeBytes bytesBase64url
      return .bytes ((if targetVersion = "5.7" then sridBytes srid.toNat else []) ++ wkb)
  | _ => .error (capabilityFailure
      "the spatial conversion plan received another LogicalValue family")

end Binding

end DatabaseSync.MysqlSink
