import DatabaseSync.ChangeEvent.NativeType
import DatabaseSync.ChangeEvent.Failure
import DatabaseSync.ChangeEvent.Validate

/-! # Values of the PostgreSQL sink

How a logical value becomes the parameter of a statement, and the expression the parameter
stands in. The JSON, time and number formatting libraries are parameters.
-/

namespace DatabaseSync.PostgresqlSink

open ChangeEvent Text

/-- What the sink takes from other libraries: the serialized form of tagged values, envelopes
and strings, the display of a float with given bits, and the UTC form of an instant with its
microseconds. -/
structure ValueLibrary extends ValidationLibrary where
  valueJson : LogicalValue → String
  envelopeJson : SourceRepresentationEnvelope → List UInt8
  stringJson : String → String
  displayFloat : ℕ → ℕ → String
  formatUtc : ℤ → ℕ → Option (String × ℕ)

/-- A value prepared for the driver. Floats are kept as their bits. -/
inductive Parameter
  | integer (value : ℤ)
  | numeric (value : String)
  | float32 (bits : ℕ)
  | float64 (bits : ℕ)
  | boolean (value : Bool)
  | text (value : String)
  | binary (bytes : List UInt8)
  | date (value : String)
  | time (value : String)
  | timestamp (value : String)
  | timestamptz (value : String)
  | interval (value : String)
  | uuid (value : String)
  | json (value : String)
  | structured (value : String)
  | customBinary (bytes : List UInt8)
  | spatial (bytes : List UInt8) (srid : Option ℤ) (format : SpatialFormat)
deriving DecidableEq, Repr

/-- `Display` of an error, for the errors that are wrapped again. -/
def display : SinkError → String
  | .targetCapability failure =>
    "Target Capability Failure [" ++ failure.code ++ "]: " ++ failure.cause
  | .validation message => message
  | .message text => text
  | .database => "database error"

/-- `map_err(capability_failure)`. -/
def wrap {α : Type} (x : Except SinkError α) : Except SinkError α :=
  x.mapError fun e => capabilityFailure (display e)

def pad (width n : ℕ) : String :=
  let digits := toString n
  "".pushn '0' (width - digits.length) ++ digits

def padInt (width : ℕ) (n : ℤ) : String :=
  if n < 0 then "-" ++ pad (width - 1) n.natAbs else pad width n.natAbs

def hexDigit (n : ℕ) : Char := if n < 10 then Char.ofNat (n + 48) else Char.ofNat (n + 55)

def hex (bytes : List UInt8) : String :=
  String.ofList (bytes.flatMap fun b => [hexDigit (b.toNat / 16), hexDigit (b.toNat % 16)])

def decodeBytes (value : String) : Except SinkError (List UInt8) :=
  match Base64.decode value with
  | some bytes => .ok bytes
  | none => .error (capabilityFailure "invalid base64url bytes")

def quoteLiteral (value : String) : String :=
  "'" ++ String.ofList (value.toList.flatMap fun c => if c = '\'' then ['\'', '\''] else [c]) ++ "'"

/-- Backslashes and double quotes are escaped with a backslash. -/
def escapeQuoted (value : String) : String :=
  String.ofList (value.toList.flatMap fun c => if c = '\\' ∨ c = '"' then ['\\', c] else [c])

def renderDecimal (unscaled : String) (scale : ℤ) : Except SinkError String :=
  if isSpecialDecimal unscaled then
    if scale = 0 then .ok unscaled
    else .error (capabilityFailure "special numeric values must have scale zero")
  else do
    let negative := unscaled.toList.head? = some '-'
    let sign := if negative then "-" else ""
    let digits := match unscaled.toList with
      | '-' :: l => l
      | '+' :: l => l
      | l => l
    if !isDigits digits then throw (capabilityFailure "invalid decimal")
    if scale > 16383 then
      throw (capabilityFailure "numeric scale exceeds the PostgreSQL value limit")
    if scale < 0 then
      if digits.length + scale.natAbs > 131072 then
        throw (capabilityFailure "numeric integer precision exceeds the PostgreSQL value limit")
      return sign ++ String.ofList digits ++ "".pushn '0' scale.natAbs
    else
      let scale := scale.toNat
      if digits.length - scale > 131072 then
        throw (capabilityFailure "numeric integer precision exceeds the PostgreSQL value limit")
      let magnitude :=
        if scale = 0 then String.ofList digits
        else if digits.length > scale then
          String.ofList (digits.take (digits.length - scale)) ++ "." ++
            String.ofList (digits.drop (digits.length - scale))
        else "0." ++ "".pushn '0' (scale - digits.length) ++ String.ofList digits
      return sign ++ magnitude

def postgresDate (year : ℤ) (month day : ℕ) : String :=
  if year ≤ 0 then padInt 4 (1 - year) ++ "-" ++ pad 2 month ++ "-" ++ pad 2 day ++ " BC"
  else padInt 4 year ++ "-" ++ pad 2 month ++ "-" ++ pad 2 day

def clockTime (hour minute second microsecond : ℕ) : String :=
  pad 2 hour ++ ":" ++ pad 2 minute ++ ":" ++ pad 2 second ++ "." ++ pad 6 microsecond

/-- The bit at a position of a bit string. -/
def bitAt (bytes : List UInt8) (bitOrder : BitOrder) (position : ℕ) : Bool :=
  (bytes.getD (position / 8) 0).toNat.testBit <| match bitOrder with
    | .msbFirst => 7 - position % 8
    | .lsbFirst => position % 8

def bitStringText (bytes : List UInt8) (bitLength : ℕ) (bitOrder : BitOrder) :
    Except SinkError String :=
  if bitLength = 0 ∨ bitLength > bytes.length * 8 then
    .error (capabilityFailure "bit string length exceeds its raw byte payload")
  else .ok <| String.ofList <| (List.range bitLength).map fun position =>
    if bitAt bytes bitOrder position then '1' else '0'

def parseHexBits (value : String) (width : ℕ) : Except SinkError ℕ :=
  if value.toList.length = width ∧ value.toList.all isAsciiHexDigit then
    match parseUnsigned 16 (2 ^ 64) value with
    | some bits => .ok bits
    | none => .error (capabilityFailure "invalid IEEE-754 bit pattern")
  else .error (capabilityFailure "invalid IEEE-754 bit pattern")

section Rendering

variable (library : ValueLibrary)

def renderFloatText (value : String) : String :=
  if value = "NaN" then "'NaN'"
  else if value = "inf" then "'Infinity'"
  else if value = "-inf" then "'-Infinity'"
  else value

/-- The display of a float. A negative zero keeps its sign. -/
def renderFloat (bits : ℕ) (hexadecimal : String) : Except SinkError String :=
  if bits = 32 ∨ bits = 64 then
    match parseUnsigned 16 (2 ^ bits) hexadecimal with
    | none => .error (capabilityFailure "invalid digit found in string")
    | some raw =>
      if raw = 2 ^ (bits - 1) then .ok "-0.0"
      else .ok (renderFloatText (library.displayFloat bits raw))
  else .error (capabilityFailure "unsupported floating point width")

mutual

def renderJson : JsonValue → Except SinkError String
  | .null => .ok "null"
  | .boolean value => .ok (toString value)
  | .string value => .ok (library.stringJson value)
  | .signedInteger value => .ok value
  | .unsignedInteger value => .ok value
  | .doubleBits value => do
    let rendered ← renderFloat library 64 value
    if rendered.toList.head? = some '\'' then
      throw (capabilityFailure "JSON does not support non-finite numbers")
    return rendered
  | .decimal unscaled scale =>
    if scale < 2 ^ 31 then renderDecimal unscaled scale
    else .error (capabilityFailure "JSON numeric scale is too large")
  | .array items => do return "[" ++ ",".intercalate (← renderItems items) ++ "]"
  | .object entries => do return "\x7b" ++ ",".intercalate (← renderEntries entries) ++ "\x7d"

def renderItems : List JsonValue → Except SinkError (List String)
  | [] => .ok []
  | item :: items => return (← renderJson item) :: (← renderItems items)

def renderEntries : List (String × JsonValue) → Except SinkError (List String)
  | [] => .ok []
  | (key, value) :: entries =>
    return (library.stringJson key ++ ":" ++ (← renderJson value)) :: (← renderEntries entries)

end

/-- An array element. A nested array and NULL stand bare. -/
def arrayItem (value : String) : String :=
  if value.toList.head? = some '\x7b' ∨ value = "NULL" then value
  else "\"" ++ escapeQuoted value ++ "\""

def arrayLiteral (values : List String) : String :=
  "\x7b" ++ ",".intercalate (values.map arrayItem) ++ "\x7d"

/-- The literal of a multidimensional array from its flattened elements. The result holds the
index after the last element used. -/
def arrayLiteralWithShape (elements : List (Except SinkError String)) :
    List ℕ → ℕ → Except SinkError (String × ℕ)
  | [], index =>
    match elements[index]? with
    | none => .error (capabilityFailure "array shape exceeds its flattened values")
    | some element => return (arrayItem (← element), index + 1)
  | length :: lengths, index => do
    let (children, index) ← (List.range length).foldlM (fun (children, index) _ => do
      let (child, index) ← arrayLiteralWithShape elements lengths index
      return (child :: children, index)) ([], index)
    return ("\x7b" ++ ",".intercalate children.reverse ++ "\x7d", index)

/-- The `[lower:upper]` prefix of an array literal. -/
def arrayBounds : List ℤ → List ℕ → Except SinkError String
  | lower :: lowers, length :: lengths => do
    if ¬ length < 2 ^ 31 then
      throw (capabilityFailure "array dimension length exceeds PostgreSQL limits")
    let upper := lower + ((length : ℤ) - 1)
    if ¬ (-2 ^ 31 ≤ upper ∧ upper < 2 ^ 31) then
      throw (capabilityFailure "array bound exceeds PostgreSQL limits")
    return "[" ++ toString lower ++ ":" ++ toString upper ++ "]" ++ (← arrayBounds lowers lengths)
  | _, _ => .ok ""

def arrayWithMetadataText (elements : List (Except SinkError String)) (dimensions : ℕ)
    (lowerBounds : List ℤ) (dimensionLengths : List ℕ) : Except SinkError String :=
  if dimensions = 0 then
    if elements.isEmpty ∧ lowerBounds.isEmpty ∧ dimensionLengths.isEmpty then .ok "\x7b\x7d"
    else .error (capabilityFailure "zero-dimensional arrays must be empty")
  else if dimensions ≠ lowerBounds.length ∨ dimensions ≠ dimensionLengths.length then
    .error (capabilityFailure "array dimensions, lower bounds, and lengths do not agree")
  else do
    let (values, used) ← arrayLiteralWithShape elements dimensionLengths 0
    if used ≠ elements.length then
      throw (capabilityFailure
        "array dimension lengths do not match the flattened element count")
    return (← arrayBounds lowerBounds dimensionLengths) ++ "=" ++ values

def compositeItem (value : String) : String :=
  if value.isEmpty ∨ value = "NULL" then "\"\"" else "\"" ++ escapeQuoted value ++ "\""

def isUtf8Charset (charset : String) : Bool :=
  ["utf8", "utf8mb4"].contains (toAsciiLowercase charset)

def utf8Text (bytesBase64url failure : String) : Except SinkError String := do
  match fromUtf8 (← decodeBytes bytesBase64url) with
  | some text => return text
  | none => throw (capabilityFailure failure)

def rawBytes (carrier : RawValueCarrier) : Except SinkError (List UInt8) :=
  (carrier.rawBytes library.toValidationLibrary).mapError fun e => capabilityFailure e.display

mutual

/-- The input text of a value inside a structured literal. `structured_text` and `value_input`
of the source call each other on the value itself where they differ, and agree everywhere. -/
def valueInput : LogicalValue → Except SinkError String
  | .null => .ok "NULL"
  | .boolean value => .ok (toString value)
  | .uuid value => .ok value
  | .enum label => .ok label
  | .network _ address _ => .ok address
  | .integer _ _ value => .ok value
  | .decimal unscaled scale => renderDecimal unscaled scale
  | .float bits ieee754Hex => renderFloat library bits ieee754Hex
  | .text charset bytesBase64url _ =>
    if isUtf8Charset charset then
      utf8Text bytesBase64url "structured text value is not valid UTF-8"
    else .error (capabilityFailure "structured text value is not UTF-8")
  | .binary bytesBase64url => do return hex (← decodeBytes bytesBase64url)
  | .bitString bytesBase64url bitLength _ bitOrder => do
    bitStringText (← decodeBytes bytesBase64url) bitLength bitOrder
  | .date year month day => .ok (postgresDate year month day)
  | .localTime hour minute second microsecond => .ok (clockTime hour minute second microsecond)
  | .localDatetime year month day hour minute second microsecond =>
    .ok (postgresDate year month day ++ " " ++ clockTime hour minute second microsecond)
  | .json value => renderJson library value
  | .raw carrier => do return hex (← rawBytes library carrier)
  | .spatial _ bytesBase64url _ _ _ _ => do return hex (← decodeBytes bytesBase64url)
  | .year value => .ok (toString value)
  | .set members => .ok (arrayLiteral members)
  | .array elements => do return arrayLiteral (← (valueInputs elements).mapM id)
  | .arrayWithMetadata elements dimensions lowerBounds dimensionLengths =>
    arrayWithMetadataText (valueInputs elements) dimensions lowerBounds dimensionLengths
  | .struct fields => do
    return "(" ++ ",".intercalate ((← (fieldInputs fields).mapM id).map compositeItem) ++ ")"
  | .range empty lower upper lowerInclusive upperInclusive =>
    if empty then .ok "empty"
    else do
      return (if lowerInclusive then "[" else "(") ++ (← boundInput lower) ++ "," ++
        (← boundInput upper) ++ (if upperInclusive then "]" else ")")
  | .multiRange ranges => do
    return "\x7b" ++ ",".intercalate (← (valueInputs ranges).mapM id) ++ "\x7d"
  | .xml bytesBase64url _ => utf8Text bytesBase64url "XML value is not valid UTF-8"
  | .domain value => valueInput value
  | _ => .error (capabilityFailure
      "value cannot be represented inside a PostgreSQL structured literal")

def valueInputs : List LogicalValue → List (Except SinkError String)
  | [] => []
  | value :: values => valueInput value :: valueInputs values

def fieldInputs : List (String × LogicalValue) → List (Except SinkError String)
  | [] => []
  | (_, value) :: fields => valueInput value :: fieldInputs fields

def boundInput : Option LogicalValue → Except SinkError String
  | none => .ok ""
  | some value => valueInput value

end

def structuredText (value : LogicalValue) : Except SinkError String := valueInput library value

/-- The values whose parameter is their structured text. -/
def isStructured : LogicalValue → Bool
  | .array _ | .arrayWithMetadata .. | .struct _ | .range .. | .multiRange _ | .network ..
  | .xml .. | .domain _ => true
  | _ => false

def integerParameter (signed : Bool) (value : String) : Except SinkError Parameter :=
  if signed then
    match parseSigned (2 ^ 63) value with
    | some n => .ok (.integer n)
    | none => .error (capabilityFailure "signed integer is outside PostgreSQL range")
  else
    match parseU64 value with
    | some n => if n < 2 ^ 63 then .ok (.integer n) else .ok (.numeric value)
    | none => .error (capabilityFailure "unsigned integer is invalid")

def instantParameter (unixSeconds : String) (nanoseconds : ℕ) : Except SinkError Parameter := do
  if nanoseconds % 1000 ≠ 0 then
    throw (capabilityFailure "PostgreSQL 15 timestamp precision stops at microseconds")
  match parseSigned (2 ^ 63) unixSeconds with
  | none => throw (capabilityFailure "instant seconds are outside PostgreSQL range")
  | some seconds =>
    match library.formatUtc seconds nanoseconds with
    | none => throw (capabilityFailure "instant outside PostgreSQL timestamp range")
    | some (text, micros) => return .timestamptz (text ++ "." ++ pad 6 micros ++ "+00")

/-- The parameter of a value in a column of the native type. -/
def parameterFor (value : LogicalValue) (nativeType : String) : Except SinkError Parameter :=
  match value with
  | .boolean value => .ok (.boolean value)
  | .uuid value => .ok (.uuid value)
  | .integer signed _ value => integerParameter signed value
  | .decimal unscaled scale => do return .numeric (← wrap (renderDecimal unscaled scale))
  | .float bits ieee754Hex =>
    if bits = 32 then do return .float32 (← parseHexBits ieee754Hex 8)
    else if bits = 64 then do return .float64 (← parseHexBits ieee754Hex 16)
    else .error (capabilityFailure "unsupported floating point width")
  | .text charset bytesBase64url _ =>
    if isUtf8Charset charset then do
      return .text (← utf8Text bytesBase64url "text value is not valid UTF-8")
    else .error (capabilityFailure
      ("text charset " ++ charset ++ " has no qualified PostgreSQL mapping"))
  | .binary bytesBase64url => do return .binary (← decodeBytes bytesBase64url)
  | .bitString bytesBase64url bitLength _ bitOrder => do
    return .text (← bitStringText (← decodeBytes bytesBase64url) bitLength bitOrder)
  | .date year month day => .ok (.date (postgresDate year month day))
  | .localTime hour minute second microsecond =>
    .ok (.time (clockTime hour minute second microsecond))
  | .localDatetime year month day hour minute second microsecond =>
    .ok (.timestamp
      (postgresDate year month day ++ " " ++ clockTime hour minute second microsecond))
  | .duration negative hours minutes seconds microsecond =>
    .ok (.interval ((if negative then "-" else "") ++ toString hours ++ ":" ++ pad 2 minutes ++
      ":" ++ pad 2 seconds ++ "." ++ pad 6 microsecond))
  | .instant unixSeconds nanoseconds => instantParameter library unixSeconds nanoseconds
  | .year value => .ok (.integer value)
  | .enum label => .ok (.text label)
  | .set members => .ok (.structured (arrayLiteral members))
  | .spatial format bytesBase64url _ _ srid _ => do
    if (postgisNativeKind nativeType).isNone then
      throw (capabilityFailure
        "spatial values require a qualified PostGIS geometry/geography target")
    return .spatial (← decodeBytes bytesBase64url) srid format
  | .raw carrier => do return .customBinary (← rawBytes library carrier)
  | .json value => do return .json (← wrap (renderJson library value))
  | value =>
    if isStructured value then do return .structured (← structuredText library value)
    else .error (capabilityFailure
      "PostgreSQL has no qualified target representation for this value")

/-- The type name a structured or custom value is cast to. The characters that are allowed
exclude semicolons and comments. -/
def safeTargetType (nativeType fallback : String) : Except SinkError String :=
  let name := trim nativeType
  let candidate :=
    if name.isEmpty ∨ ["user-defined", "set"].contains (toAsciiLowercase name) then fallback
    else name
  if !candidate.isEmpty && candidate.toList.all fun c =>
      isAsciiAlphanumeric c || "_.$[](), ".toList.contains c then .ok candidate
  else .error (capabilityFailure "target type is not a safe PostgreSQL type name")

/-- The expression around a placeholder. -/
inductive ParameterExpression
  | plain
  | cast (target : String)
  | fromEwkb (geography : Bool)
  | fromWkb (srid : ℤ) (geography : Bool)
deriving DecidableEq, Repr

/-- The text of the expression for the placeholder with this index. -/
def ParameterExpression.text (index : ℕ) : ParameterExpression → String
  | plain => "$" ++ toString index
  | cast target => "CAST($" ++ toString index ++ " AS " ++ target ++ ")"
  | fromEwkb geography => "ST_GeomFromEWKB($" ++ toString index ++ ")" ++
      if geography then "::geography" else ""
  | fromWkb srid geography => "ST_GeomFromWKB($" ++ toString index ++ ", " ++ toString srid ++
      ")" ++ if geography then "::geography" else ""

def parameterExpression (parameter : Parameter) (nativeType : String) :
    Except SinkError ParameterExpression :=
  match parameter with
  | .numeric _ => .ok (.cast "numeric")
  | .date _ => .ok (.cast "date")
  | .time _ => .ok (.cast "time")
  | .timestamp _ => .ok (.cast "timestamp")
  | .timestamptz _ => .ok (.cast "timestamptz")
  | .interval _ => .ok (.cast "interval")
  | .uuid _ => .ok (.cast "uuid")
  | .json _ => .ok (.cast "jsonb")
  | .structured _ => do return .cast (← safeTargetType nativeType "text")
  | .customBinary _ => do return .cast (← safeTargetType nativeType "bytea")
  | .spatial _ srid format =>
    match postgisNativeKind nativeType with
    | none => .error (capabilityFailure
        "spatial values require a qualified PostGIS geometry/geography target")
    | some kind =>
      match format, srid with
      | .ewkb, _ => .ok (.fromEwkb (kind = .geography))
      | .wkb, some srid => .ok (.fromWkb srid (kind = .geography))
      | .wkb, none => .error (capabilityFailure "WKB spatial values require an explicit SRID")
  | _ => .ok .plain

/-- The inlined value of the diagnostic script, which is never executed but has to exist. -/
def renderLogicalValue (value : LogicalValue) : Except SinkError String :=
  match value with
  | .boolean value => .ok (if value then "TRUE" else "FALSE")
  | .uuid value => .ok ("UUID " ++ quoteLiteral value)
  | .integer _ _ value => .ok value
  | .decimal unscaled scale => renderDecimal unscaled scale
  | .float bits ieee754Hex => renderFloat library bits ieee754Hex
  | .text charset bytesBase64url _ =>
    if isUtf8Charset charset then do
      return "convert_from(decode('" ++ hex (← decodeBytes bytesBase64url) ++ "', 'hex'), 'UTF8')"
    else .error (capabilityFailure ("PostgreSQL 15 Sink has no qualified text conversion for " ++
      "charset " ++ charset))
  | .binary bytesBase64url => do
    return "decode('" ++ hex (← decodeBytes bytesBase64url) ++ "', 'hex')"
  | .bitString bytesBase64url bitLength _ bitOrder => do
    return "B'" ++ (← bitStringText (← decodeBytes bytesBase64url) bitLength bitOrder) ++ "'"
  | .date year month day => .ok ("DATE '" ++ postgresDate year month day ++ "'")
  | .localTime hour minute second microsecond =>
    .ok ("TIME '" ++ clockTime hour minute second microsecond ++ "'")
  | .localDatetime year month day hour minute second microsecond =>
    .ok ("TIMESTAMP '" ++ postgresDate year month day ++ " " ++
      clockTime hour minute second microsecond ++ "'")
  | .duration negative hours minutes seconds microsecond =>
    .ok ("(" ++ (if negative then "-1 * " else "") ++ "(" ++ toString hours ++
      " * INTERVAL '1 hour' + " ++ toString minutes ++ " * INTERVAL '1 minute' + " ++
      toString seconds ++ " * INTERVAL '1 second' + " ++ toString microsecond ++
      " * INTERVAL '1 microsecond'))")
  | .instant unixSeconds nanoseconds =>
    if nanoseconds % 1000 ≠ 0 then
      .error (capabilityFailure "PostgreSQL 15 timestamp precision stops at microseconds")
    else .ok ("(TIMESTAMPTZ 'epoch' + " ++ unixSeconds ++ " * INTERVAL '1 second' + " ++
      toString (nanoseconds / 1000) ++ " * INTERVAL '1 microsecond')")
  | .year value => .ok (toString value)
  | .enum label => .ok (quoteLiteral label)
  | .set members => .ok (quoteLiteral (arrayLiteral members))
  | .spatial format bytesBase64url _ _ srid _ => do
    let bytes := hex (← decodeBytes bytesBase64url)
    match format, srid with
    | .ewkb, _ => return "ST_GeomFromEWKB(decode('" ++ bytes ++ "', 'hex'))"
    | .wkb, some srid =>
      return "ST_GeomFromWKB(decode('" ++ bytes ++ "', 'hex'), " ++ toString srid ++ ")"
    | .wkb, none => throw (capabilityFailure "WKB spatial value has no SRID")
  | .raw carrier => do return "decode('" ++ hex (← rawBytes library carrier) ++ "', 'hex')"
  | .json value => do return quoteLiteral (← renderJson library value) ++ "::jsonb"
  | value =>
    if isStructured value then do return quoteLiteral (← structuredText library value)
    else .error (capabilityFailure
      "PostgreSQL 15 has no qualified SQL rendering for this structured value")

end Rendering

end DatabaseSync.PostgresqlSink
