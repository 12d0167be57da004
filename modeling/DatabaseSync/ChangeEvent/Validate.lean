import DatabaseSync.ChangeEvent.Model
import DatabaseSync.Library.Base64
import DatabaseSync.Library.Checked
import DatabaseSync.Library.Text
import Mathlib.Algebra.Order.Ring.Int

/-! # Validation of change events

The database-independent rules of a row-only transaction and of the logical values in it. The
digest of a payload and the debug form of a string are parameters.
-/

namespace DatabaseSync.ChangeEvent

open Text

def ensure (ok : Bool) (message : String) : Except String Unit :=
  if ok then .ok () else .error message

@[simp]
theorem ensure_eq_ok {ok : Bool} {message : String} {u : Unit} :
    ensure ok message = .ok u ↔ ok = true := by
  unfold ensure
  split <;> simp_all

/-- What the validation takes from the SHA-256 and formatting libraries. -/
structure ValidationLibrary where
  digestBytes : List UInt8 → String
  debug : String → String

def hasNul (s : String) : Bool := containsChar s '\x00'

def validateSha256Digest (value : String) : Bool :=
  match value.toList with
  | 's' :: 'h' :: 'a' :: '2' :: '5' :: '6' :: ':' :: hex =>
    hex.length = 64 && hex.all isAsciiHexDigit
  | _ => false

/-- The first field of a list of evidence that is blank or contains a NUL. -/
def missingEvidence (fields : List (String × String)) : Option String :=
  (fields.find? fun field => isBlank field.2 || hasNul field.2).map Prod.fst

inductive SourceRepresentationError
  | missingEvidence (field : String)
  | invalidDigest (field : String)
  | invalidTypeMetadata
  | invalidPayload
  | payloadLengthMismatch
  | payloadDigestMismatch
deriving DecidableEq, Repr

namespace SourceRepresentationError

def code : SourceRepresentationError → String
  | missingEvidence _ => "source_representation.missing_evidence"
  | invalidDigest _ => "source_representation.invalid_digest"
  | invalidTypeMetadata => "source_representation.invalid_type_metadata"
  | invalidPayload => "source_representation.invalid_payload"
  | payloadLengthMismatch => "source_representation.payload_length_mismatch"
  | payloadDigestMismatch => "source_representation.payload_digest_mismatch"

def display : SourceRepresentationError → String
  | missingEvidence field => "source representation is missing " ++ field
  | invalidDigest field => "source representation " ++ field ++ " is not a SHA-256 digest"
  | invalidTypeMetadata => "source representation type metadata is invalid"
  | invalidPayload => "source representation payload is invalid base64url"
  | payloadLengthMismatch => "source representation payload length does not match"
  | payloadDigestMismatch => "source representation payload digest does not match"

end SourceRepresentationError

def SourceRepresentationContext.validate (context : SourceRepresentationContext) :
    Except SourceRepresentationError Unit := do
  if let some field := missingEvidence
      [("connector.kind", context.connector.kind),
       ("connector.version", context.connector.version),
       ("server_build.product", context.serverBuild.product),
       ("server_build.distribution", context.serverBuild.distribution),
       ("server_build.version", context.serverBuild.version),
       ("server_build.build", context.serverBuild.build),
       ("source_type_identity", context.sourceTypeIdentity),
       ("source_type_definition_digest", context.sourceTypeDefinitionDigest),
       ("protocol", context.protocol),
       ("source_cursor.format", context.sourceCursor.format),
       ("source_cursor.value", context.sourceCursor.value)] then
    throw (.missingEvidence field)
  if !validateSha256Digest context.sourceTypeDefinitionDigest then
    throw (.invalidDigest "source_type_definition_digest")
  if context.typeMetadata.any fun (key, value) => isBlank key || hasNul key || hasNul value then
    throw .invalidTypeMetadata

inductive RawValueCarrierError
  | missingEvidence (field : String)
  | invalidBytes
  | invalidEvidence
  | sourceDefinitionDigestMismatch
  | payloadLengthMismatch
  | payloadDigestMismatch
deriving DecidableEq, Repr

namespace RawValueCarrierError

def code : RawValueCarrierError → String
  | missingEvidence _ => "raw_value_carrier.missing_evidence"
  | invalidBytes => "raw_value_carrier.invalid_bytes"
  | invalidEvidence => "raw_value_carrier.invalid_evidence"
  | sourceDefinitionDigestMismatch => "raw_value_carrier.source_definition_digest_mismatch"
  | payloadLengthMismatch => "raw_value_carrier.payload_length_mismatch"
  | payloadDigestMismatch => "raw_value_carrier.payload_digest_mismatch"

def display : RawValueCarrierError → String
  | missingEvidence field => "raw value carrier is missing " ++ field
  | invalidBytes => "raw value carrier bytes are invalid base64url"
  | invalidEvidence => "raw value carrier evidence is incomplete or invalid"
  | sourceDefinitionDigestMismatch =>
    "raw value carrier type definition digest does not match its source context"
  | payloadLengthMismatch => "raw value carrier payload length does not match"
  | payloadDigestMismatch => "raw value carrier payload digest does not match"

end RawValueCarrierError

section Values

variable (library : ValidationLibrary)

def SourceRepresentationEnvelope.validate (envelope : SourceRepresentationEnvelope) :
    Except SourceRepresentationError Unit := do
  envelope.context.validate
  if isBlank envelope.encoding || hasNul envelope.encoding then
    throw (.missingEvidence "encoding")
  match Base64.decode envelope.payloadBase64url with
  | none => throw .invalidPayload
  | some payload =>
    if payload.length ≠ envelope.payloadLength then throw .payloadLengthMismatch
    if envelope.payloadSha256 ≠ library.digestBytes payload then throw .payloadDigestMismatch

def RawValueCarrier.validate (carrier : RawValueCarrier) : Except RawValueCarrierError Unit := do
  if let some field := missingEvidence
      [("codec_identity", carrier.codecIdentity), ("native_type", carrier.nativeType),
       ("source_definition_digest", carrier.sourceDefinitionDigest),
       ("encoding", carrier.encoding)] then
    throw (.missingEvidence field)
  match Base64.decode carrier.rawBytesBase64url with
  | none => throw .invalidBytes
  | some bytes =>
    match carrier.sourceContext, carrier.payloadLength, carrier.payloadSha256 with
    | some context, some length, some digest =>
      if context.validate matches .error _ then throw .invalidEvidence
      if carrier.sourceDefinitionDigest ≠ context.sourceTypeDefinitionDigest then
        throw .sourceDefinitionDigestMismatch
      if bytes.length ≠ length then throw .payloadLengthMismatch
      if digest ≠ library.digestBytes bytes then throw .payloadDigestMismatch
    | none, none, none => if carrier.reversible.isSome then throw .invalidEvidence
    | _, _, _ => throw .invalidEvidence
    if carrier.reversible = some true && isBlank carrier.codecIdentity then
      throw .invalidEvidence

def RawValueCarrier.rawBytes (carrier : RawValueCarrier) :
    Except RawValueCarrierError (List UInt8) := do
  carrier.validate library
  match Base64.decode carrier.rawBytesBase64url with
  | none => throw .invalidBytes
  | some bytes => return bytes

/-- `value.strip_prefix('-').unwrap_or(value)` and the test for a nonempty list of digits. -/
def isDigits (digits : List Char) : Bool := !digits.isEmpty && digits.all isAsciiDigit

theorem isDigits_iff {digits : List Char} :
    isDigits digits = true ↔ digits ≠ [] ∧ ∀ c ∈ digits, isAsciiDigit c = true := by
  rw [isDigits, Bool.and_eq_true, List.all_eq_true]
  simp

def integer (value : String) (signed : Bool) (bits : ℕ) : Except String Unit := do
  ensure ([8, 16, 24, 32, 64].contains bits) "invalid integer width"
  ensure (isDigits (if signed then dropMinus value.toList else value.toList))
    "invalid integer syntax"
  let valid :=
    if signed then
      match parseSigned (2 ^ 127) value with
      | some v => decide (-(2 ^ (bits - 1) : ℤ) ≤ v ∧ v < (2 ^ (bits - 1) : ℤ))
      | none => false
    else
      match parseUnsigned 10 (2 ^ 128) value with
      | some v => decide (v < 2 ^ bits)
      | none => false
  ensure valid "integer outside declared range"

def float (bits : ℕ) (value : String) : Except String Unit :=
  ensure ([32, 64].contains bits && value.toList.length == bits / 4 &&
      value.toList.all isAsciiHexDigit)
    "invalid floating-point bit pattern"

def bytes (value : String) : Except String Unit :=
  ensure (Base64.decode value).isSome "invalid base64url bytes"

def isLeapYear (year : ℤ) : Bool := year % 4 = 0 ∧ (year % 100 ≠ 0 ∨ year % 400 = 0)

def daysInMonth (year : ℤ) : ℕ → ℕ
  | 1 | 3 | 5 | 7 | 8 | 10 | 12 => 31
  | 4 | 6 | 9 | 11 => 30
  | 2 => if isLeapYear year then 29 else 28
  | _ => 0

def date (year : ℤ) (month day : ℕ) : Except String Unit :=
  ensure (0 < day && day ≤ daysInMonth year month) "invalid calendar date"

def isSpecialDecimal (unscaled : String) : Bool :=
  ["NaN", "Infinity", "-Infinity"].contains unscaled

def decimal (unscaled : String) (scale : ℤ) : Except String Unit :=
  if isSpecialDecimal unscaled then
    ensure (scale == 0) "special decimal values must have scale zero"
  else ensure (isDigits (dropMinus unscaled.toList)) "invalid decimal coefficient"

/-- A time of day, with 24:00:00 as the end of the day. -/
def time (hour minute second microsecond : ℕ) : Bool :=
  (hour < 24 || (hour == 24 && minute == 0 && second == 0 && microsecond == 0)) &&
    minute < 60 && second < 60 && microsecond < 1000000

/-- A UUID in its hyphenated form. -/
def isUuid (value : String) : Bool :=
  value.toList.length == 36 && value.toList.zipIdx.all fun (c, i) =>
    if [8, 13, 18, 23].contains i then c == '-' else isAsciiHexDigit c

/-- The bits of the last byte that do not belong to the bit string. -/
def unusedBits (bitLength : ℕ) : ℕ := (8 - bitLength % 8) % 8

def paddingMask (bitOrder : BitOrder) (unused : ℕ) : UInt8 :=
  match bitOrder with
  | .msbFirst => UInt8.ofNat (2 ^ unused - 1)
  | .lsbFirst => UInt8.ofNat (255 * 2 ^ (8 - unused))

def bitString (encoded : String) (bitLength : ℕ) (padding : BitPadding) (bitOrder : BitOrder) :
    Except String Unit :=
  match Base64.decode encoded with
  | none => .error "invalid bit string bytes"
  | some bytes => do
    ensure (0 < bitLength) "bit string length must be positive"
    ensure (bytes.length == (bitLength + 7) / 8) "bit string byte length does not match bit length"
    if unusedBits bitLength = 0 then
      ensure (padding == .none) "a byte-aligned bit string cannot declare padding"
    else do
      ensure (padding != .none) "non-byte-aligned bit string needs padding"
      let mask := paddingMask bitOrder (unusedBits bitLength)
      let actual := (bytes.getLast?.getD 0) &&& mask
      let expected := if padding = .one then mask else 0
      ensure (actual == expected) "bit string padding bits are invalid"

/-- A 32-bit word at the start of a list of bytes. -/
def readU32 (bytes : List UInt8) (littleEndian : Bool) : Except String ℕ :=
  match bytes with
  | b₀ :: b₁ :: b₂ :: b₃ :: _ =>
    .ok <| if littleEndian then
      b₀.toNat + 2 ^ 8 * b₁.toNat + 2 ^ 16 * b₂.toNat + 2 ^ 24 * b₃.toNat
    else b₃.toNat + 2 ^ 8 * b₂.toNat + 2 ^ 16 * b₁.toNat + 2 ^ 24 * b₀.toNat
  | _ => .error "truncated spatial header"

def asI32 (n : ℕ) : ℤ := if n < 2 ^ 31 then n else n - 2 ^ 32

def geometryName : ℕ → String
  | 1 => "point"
  | 2 => "linestring"
  | 3 => "polygon"
  | 4 => "multipoint"
  | 5 => "multilinestring"
  | 6 => "multipolygon"
  | 7 => "geometrycollection"
  | _ => "unknown"

/-- The base code and the dimensions of a geometry code, with flag or thousands style. -/
def geometryCode (code : ℕ) : ℕ × ℕ :=
  let hasZ := code.testBit 31
  let hasM := code.testBit 30
  let base := code % 2 ^ 28
  if base ≥ 1000 then
    (base % 1000, match base / 1000 with
      | 1 => 3
      | 2 => 3
      | 3 => 4
      | _ => 0)
  else (base, 2 + hasZ.toNat + hasM.toNat)

def spatial (format : SpatialFormat) (encoded expectedGeometryType : String)
    (expectedDimensions : ℕ) (expectedSrid : Option ℤ) (crs : Option String) :
    Except String Unit := do
  ensure (2 ≤ expectedDimensions && expectedDimensions ≤ 4) "spatial dimensions must be 2, 3, or 4"
  ensure (!expectedGeometryType.isEmpty && !hasNul expectedGeometryType)
    "spatial geometry type is empty"
  ensure (crs.all fun crs => !crs.isEmpty && !hasNul crs) "invalid spatial CRS"
  match Base64.decode encoded with
  | none => .error "invalid spatial bytes"
  | some bytes => do
    ensure (5 ≤ bytes.length) "spatial value has no complete WKB header"
    let order := bytes.headD 0
    ensure (order == 0 || order == 1) "invalid spatial byte order"
    let littleEndian := order == 1
    let code ← readU32 (bytes.drop 1) littleEndian
    let hasSrid := code.testBit 29
    let (baseCode, dimensions) := geometryCode code
    let geometryType := geometryName baseCode
    ensure (geometryType != "unknown") "unknown spatial geometry type"
    ensure (eqIgnoreAsciiCase geometryType expectedGeometryType)
      "spatial geometry type does not match its declaration"
    ensure (dimensions == expectedDimensions) "spatial dimensions do not match its declaration"
    let embeddedSrid ← if hasSrid then do
        ensure (9 ≤ bytes.length) "EWKB SRID header is truncated"
        let srid ← readU32 (bytes.drop 5) littleEndian
        pure (some (asI32 srid))
      else pure none
    if format = .ewkb then ensure hasSrid "EWKB spatial value is missing its SRID"
    else ensure (!hasSrid) "WKB spatial value unexpectedly contains EWKB SRID"
    ensure (format == .wkb || embeddedSrid == expectedSrid)
      "spatial SRID does not match its declaration"

mutual

def jsonValue : JsonValue → ℕ → Except String Unit
  | .signedInteger v, depth => do ensure (depth ≤ 100) "JSON nesting exceeds 100"; integer v true 64
  | .unsignedInteger v, depth => do
    ensure (depth ≤ 100) "JSON nesting exceeds 100"; integer v false 64
  | .doubleBits v, depth => do ensure (depth ≤ 100) "JSON nesting exceeds 100"; float 64 v
  | .decimal unscaled scale, depth => do
    ensure (depth ≤ 100) "JSON nesting exceeds 100"
    ensure (scale < 2 ^ 31) "JSON decimal scale is too large"
    decimal unscaled scale
  | .array items, depth => do ensure (depth ≤ 100) "JSON nesting exceeds 100"; jsonItems items depth
  | .object entries, depth => do
    ensure (depth ≤ 100) "JSON nesting exceeds 100"
    jsonEntries entries [] depth
  | _, depth => ensure (depth ≤ 100) "JSON nesting exceeds 100"

def jsonItems : List JsonValue → ℕ → Except String Unit
  | [], _ => .ok ()
  | item :: items, depth => do jsonValue item (depth + 1); jsonItems items depth

/-- The entries of an object, where `seen` holds the keys before them. -/
def jsonEntries : List (String × JsonValue) → List String → ℕ → Except String Unit
  | [], _, _ => .ok ()
  | (key, value) :: entries, seen, depth => do
    ensure (!seen.contains key) "duplicate JSON key"
    jsonValue value (depth + 1)
    jsonEntries entries (key :: seen) depth

end

/-- The checks of a value without nested values. -/
def scalarValue : LogicalValue → Except String Unit
  | .uuid value => ensure (isUuid value) "invalid UUID value"
  | .integer signed bits value => integer value signed bits
  | .decimal unscaled scale => decimal unscaled scale
  | .float bits ieee754Hex => float bits ieee754Hex
  | .text charset bytesBase64url _ => do
    ensure (!charset.isEmpty && charset.toList.all fun c => isAsciiAlphanumeric c || c == '_')
      "invalid text charset"
    bytes bytesBase64url
  | .binary bytesBase64url => bytes bytesBase64url
  | .xml bytesBase64url _ => bytes bytesBase64url
  | .bitString bytesBase64url bitLength padding bitOrder =>
    bitString bytesBase64url bitLength padding bitOrder
  | .date year month day => date year month day
  | .localTime hour minute second microsecond =>
    ensure (time hour minute second microsecond) "invalid local time"
  | .offsetTime hour minute second microsecond offsetSeconds =>
    ensure (time hour minute second microsecond && decide (-57599 ≤ offsetSeconds) &&
      decide (offsetSeconds ≤ 57599)) "invalid offset time"
  | .localDatetime year month day hour minute second microsecond => do
    date year month day
    ensure (time hour minute second microsecond) "invalid datetime"
  | .duration _ _ minutes seconds microsecond =>
    ensure (minutes < 60 && seconds < 60 && microsecond < 1000000) "invalid duration"
  | .instant unixSeconds nanoseconds => do
    integer unixSeconds true 64
    ensure (nanoseconds < 1000000000) "invalid instant fraction"
  | .enum label => ensure (!label.isEmpty && !hasNul label) "invalid ENUM label"
  | .set members => setMembers members []
  | .spatial format bytesBase64url geometryType dimensions srid crs =>
    spatial format bytesBase64url geometryType dimensions srid crs
  | .invalidTemporal kind raw =>
    ensure (!isBlank kind && !raw.isEmpty) "invalid temporal value lacks kind or raw spelling"
  | .network family address prefixLength => do
    ensure (!isBlank family && !isBlank address && !hasNul address) "network value is incomplete"
    ensure (prefixLength.all (· ≤ 128)) "network prefix is invalid"
  | .raw carrier => do
    ensure (carrier.reversible != some false)
      "nonreversible raw carrier must use a source representation envelope"
    match carrier.validate library with
    | .ok () => .ok ()
    | .error e => .error (e.code ++ ": " ++ e.display)
  | .json value => jsonValue value 0
  | _ => .ok ()
where
  setMembers : List String → List String → Except String Unit
    | [], _ => .ok ()
    | member :: members, seen => do
      ensure (!hasNul member) "invalid SET member"
      ensure (!seen.contains member) "duplicate SET member"
      setMembers members (member :: seen)

/-- The number of elements an array of these dimension lengths holds, if it fits `u64`. -/
def elementCount (dimensionLengths : List ℕ) : Option ℕ :=
  dimensionLengths.foldlM (fun product length =>
    if product * length < 2 ^ 64 then some (product * length) else none) 1

def arrayShape (count dimensions : ℕ) (lowerBounds : List ℤ) (dimensionLengths : List ℕ) :
    Except String Unit :=
  if dimensions = 0 then
    ensure (count == 0 && lowerBounds.isEmpty && dimensionLengths.isEmpty)
      "zero-dimensional arrays must be empty"
  else do
    ensure (dimensions == lowerBounds.length &&
        (dimensionLengths.isEmpty || dimensions == dimensionLengths.length))
      "array dimensions and lower bounds do not agree"
    ensure (dimensionLengths.isEmpty || elementCount dimensionLengths == some count)
      "array dimension lengths do not match the flattened element count"

def isRange : LogicalValue → Bool
  | .range .. => true
  | _ => false

mutual

def logicalValueAtDepth : LogicalValue → ℕ → Except String Unit
  | .array elements, depth => do
    ensure (depth ≤ 100) "logical value nesting exceeds 100"
    valuesAtDepth elements (depth + 1)
  | .struct fields, depth => do
    ensure (depth ≤ 100) "logical value nesting exceeds 100"
    fieldsAtDepth fields [] (depth + 1)
  | .map entries, depth => do
    ensure (depth ≤ 100) "logical value nesting exceeds 100"
    entriesAtDepth entries [] (depth + 1)
  | .range empty lower upper _ _, depth => do
    ensure (depth ≤ 100) "logical value nesting exceeds 100"
    ensure (!empty || (lower.isNone && upper.isNone)) "empty range has bounds"
    optionAtDepth lower (depth + 1)
    optionAtDepth upper (depth + 1)
  | .multiRange ranges, depth => do
    ensure (depth ≤ 100) "logical value nesting exceeds 100"
    rangesAtDepth ranges (depth + 1)
  | .arrayWithMetadata elements dimensions lowerBounds dimensionLengths, depth => do
    ensure (depth ≤ 100) "logical value nesting exceeds 100"
    arrayShape elements.length dimensions lowerBounds dimensionLengths
    valuesAtDepth elements (depth + 1)
  | .domain value, depth => do
    ensure (depth ≤ 100) "logical value nesting exceeds 100"
    logicalValueAtDepth value (depth + 1)
  | value, depth => do
    ensure (depth ≤ 100) "logical value nesting exceeds 100"
    scalarValue library value

def valuesAtDepth : List LogicalValue → ℕ → Except String Unit
  | [], _ => .ok ()
  | value :: values, depth => do logicalValueAtDepth value depth; valuesAtDepth values depth

def fieldsAtDepth : List (String × LogicalValue) → List String → ℕ → Except String Unit
  | [], _, _ => .ok ()
  | (name, value) :: fields, seen, depth => do
    ensure (!name.isEmpty && !hasNul name) "invalid structured field name"
    ensure (!seen.contains name) "duplicate structured field name"
    logicalValueAtDepth value depth
    fieldsAtDepth fields (name :: seen) depth

def entriesAtDepth : List (LogicalValue × LogicalValue) → List LogicalValue → ℕ →
    Except String Unit
  | [], _, _ => .ok ()
  | (key, value) :: entries, seen, depth => do
    ensure (!seen.any key.same) "duplicate map key"
    logicalValueAtDepth key depth
    logicalValueAtDepth value depth
    entriesAtDepth entries (key :: seen) depth

def optionAtDepth : Option LogicalValue → ℕ → Except String Unit
  | none, _ => .ok ()
  | some value, depth => logicalValueAtDepth value depth

def rangesAtDepth : List LogicalValue → ℕ → Except String Unit
  | [], _ => .ok ()
  | range :: ranges, depth => do
    ensure (isRange range) "multirange contains a non-range value"
    logicalValueAtDepth range depth
    rangesAtDepth ranges depth

end

def logicalValue (value : LogicalValue) : Except String Unit :=
  logicalValueAtDepth library value 0

/-- Whether a datum may stand in this image of the operation. -/
def presence (datum : Datum) (operation : Operation) (isBefore : Bool) : Except String Unit :=
  match datum with
  | .unavailable =>
    ensure (isBefore && operation != .insert) "unavailable value is only valid in a before image"
  | .unchanged =>
    ensure (!isBefore && operation == .update)
      "unchanged value is only valid in an UPDATE after image"
  | _ => .ok ()

def validateDatum (column : ColumnDatum) : Except String Unit :=
  match column.datum with
  | .value v =>
    (logicalValue library v).mapError fun error => "column " ++ library.debug column.name ++
      " declared as " ++ library.debug column.nativeType ++ ": " ++ error
  | .sourceRepresentationEnvelope envelope =>
    (envelope.validate library).mapError fun error => error.code ++ ": " ++ error.display
  | _ => .ok ()

/-- The key ordinals seen after the column. -/
def keyColumn (column : ColumnDatum) (keyOrdinals : List ℕ) : Except String (List ℕ) :=
  match column.primaryKeyOrdinal with
  | none => .ok keyOrdinals
  | some keyOrdinal => do
    ensure (!keyOrdinals.contains keyOrdinal) "duplicate primary key ordinal"
    ensure (column.datum matches .value _) "primary key value is absent, unchanged or NULL"
    ensure (!column.generated) "primary key column is generated"
    return keyOrdinal :: keyOrdinals

/-- The columns of an image, with the names, ordinals and key ordinals before them. The
result is the key ordinals of the whole image. -/
def imageColumns (operation : Operation) (isBefore : Bool) :
    List ColumnDatum → List String → List ℕ → List ℕ → Except String (List ℕ)
  | [], _, _, keyOrdinals => .ok keyOrdinals
  | column :: row, names, ordinals, keyOrdinals => do
    ensure (!column.name.isEmpty && !hasNul column.name) "invalid column identifier"
    ensure (!column.nativeType.isEmpty) "native type is empty"
    ensure (!names.contains column.name && !ordinals.contains column.ordinal)
      "duplicate column in image"
    let keyOrdinals ← keyColumn column keyOrdinals
    presence column.datum operation isBefore
    validateDatum library column
    imageColumns operation isBefore row (column.name :: names) (column.ordinal :: ordinals)
      keyOrdinals

def image (row : List ColumnDatum) (operation : Operation) (isBefore : Bool) :
    Except String Unit := do
  ensure (!row.isEmpty) "row image is empty"
  let keyOrdinals ← imageColumns library operation isBefore row [] [] []
  ensure ((List.range keyOrdinals.length).all fun ordinal => keyOrdinals.contains ordinal)
    "primary key ordinals are not contiguous"

def cursor (value : SourceCursor) : Except String Unit :=
  ensure (!value.format.isEmpty && !value.value.isEmpty) "source cursor is incomplete"

def validShape (change : RowChange) : Bool :=
  match change.operation with
  | .insert => change.before.isNone && change.after.isSome
  | .update => change.before.isSome && change.after.isSome
  | .delete => change.before.isSome && change.after.isNone

/-- The columns of both images, the before image first. -/
def RowChange.columns (change : RowChange) : List ColumnDatum :=
  change.before.getD [] ++ change.after.getD []

def ColumnDatum.value? (column : ColumnDatum) : Option LogicalValue :=
  match column.datum with
  | .value v => some v
  | _ => none

def RowChange.values (change : RowChange) : List LogicalValue :=
  change.columns.filterMap ColumnDatum.value?

/-- The values that a transaction carries. -/
def ChangeTransaction.values (transaction : ChangeTransaction) : List LogicalValue :=
  transaction.changes.flatMap RowChange.values

def sameDefinition (before after : ColumnDatum) : Bool :=
  before.ordinal == after.ordinal && before.name == after.name &&
    before.nativeType == after.nativeType &&
    before.primaryKeyOrdinal == after.primaryKeyOrdinal &&
    before.generated == after.generated && before.collation == after.collation

def validateChange (change : RowChange) : Except String Unit := do
  ensure (!change.schema.isEmpty && !change.table.isEmpty && !hasNul change.schema &&
    !hasNul change.table) "invalid table identifier"
  ensure (!change.schemaBasis.isEmpty) "schema basis is missing"
  cursor change.sourceCursor
  ensure (validShape change) "operation has inconsistent before/after images"
  if let some row := change.before then image library row change.operation true
  if let some row := change.after then image library row change.operation false
  ensure (change.columns.all fun column => match column.datum with
    | .sourceRepresentationEnvelope envelope => envelope.context.sourceCursor == change.sourceCursor
    | _ => true) "source representation cursor differs from its Change Event cursor"
  if let (some before, some after) := (change.before, change.after) then
    ensure (before.length == after.length &&
        (before.zip after).all fun (b, a) => sameDefinition b a)
      "UPDATE before/after column definitions differ"

def validateChanges : List RowChange → Except String Unit
  | [] => .ok ()
  | change :: changes => do validateChange library change; validateChanges changes

/-- The checks of `validate` on the raw transaction. -/
def checkTransaction (transaction : ChangeTransaction) : Except String Unit := do
  ensure (!isBlank transaction.id) "transaction id is empty"
  ensure (!transaction.source.kind.isEmpty && !transaction.source.version.isEmpty &&
    !transaction.source.id.isEmpty) "source identity is incomplete"
  cursor transaction.beginCursor
  cursor transaction.commitCursor
  ensure (!transaction.changes.isEmpty) "transaction has no changes"
  validateChanges library transaction.changes

/-- A transaction that passed `validate`, which alone can build one. -/
structure ValidatedTransaction where
  transaction : ChangeTransaction
  valid : checkTransaction library transaction = .ok ()

def validate (transaction : ChangeTransaction) : Except String (ValidatedTransaction library) :=
  match h : checkTransaction library transaction with
  | .ok () => .ok ⟨transaction, h⟩
  | .error e => .error e

variable {library}

theorem validate_eq_ok {transaction : ChangeTransaction} {validated : ValidatedTransaction library}
    (h : validate library transaction = .ok validated) : validated.transaction = transaction := by
  unfold validate at h
  split at h
  · cases h
    rfl
  · cases h

end Values

end DatabaseSync.ChangeEvent
