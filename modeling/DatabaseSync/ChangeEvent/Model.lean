import Mathlib.Data.Nat.Notation
import Mathlib.Data.String.Basic

/-! # Change events

The vendor-neutral model that sources produce and sinks consume: cursors, logical values,
the presence states of a column, row changes and committed transactions.
-/

namespace DatabaseSync.ChangeEvent

/-- A position in a source's history, opaque to everybody but the source contract. -/
structure SourceCursor where
  format : String
  value : String
  display : String
deriving DecidableEq, Repr

structure Source where
  kind : String
  version : String
  id : String
deriving DecidableEq, Repr

inductive Operation
  | insert
  | update
  | delete
deriving DecidableEq, Repr

inductive TemporalInfinityKind
  | date
  | localDatetime
  | instant
  | calendarInterval
deriving DecidableEq, Repr

inductive BitOrder
  | msbFirst
  | lsbFirst
deriving DecidableEq, Repr

inductive BitPadding
  | none
  | zero
  | one
deriving DecidableEq, Repr

inductive SpatialFormat
  | wkb
  | ewkb
deriving DecidableEq, Repr

inductive SourceRepresentationFormat
  | text
  | binary
deriving DecidableEq, Repr

structure ConnectorIdentity where
  kind : String
  version : String
deriving DecidableEq, Repr

structure ServerBuildIdentity where
  product : String
  distribution : String
  version : String
  build : String
deriving DecidableEq, Repr

/-- The source identity and type evidence needed to interpret a protocol payload. The
metadata is a list sorted by key. -/
structure SourceRepresentationContext where
  connector : ConnectorIdentity
  serverBuild : ServerBuildIdentity
  sourceTypeIdentity : String
  sourceTypeDefinitionDigest : String
  protocol : String
  format : SourceRepresentationFormat
  typeMetadata : List (String × String)
  sourceCursor : SourceCursor
deriving DecidableEq, Repr

/-- Exact bytes of the source protocol. Deliberately not a logical value. -/
structure SourceRepresentationEnvelope where
  context : SourceRepresentationContext
  encoding : String
  payloadBase64url : String
  payloadLength : ℕ
  payloadSha256 : String
deriving DecidableEq, Repr

structure RawValueCarrier where
  codecIdentity : String
  nativeType : String
  sourceDefinitionDigest : String
  encoding : String
  rawBytesBase64url : String
  canonicalText : Option String
  sourceContext : Option SourceRepresentationContext
  payloadLength : Option ℕ
  payloadSha256 : Option String
  reversible : Option Bool
deriving DecidableEq, Repr

inductive JsonValue
  | null
  | boolean (value : Bool)
  | string (value : String)
  | signedInteger (value : String)
  | unsignedInteger (value : String)
  | doubleBits (value : String)
  | decimal (unscaled : String) (scale : ℕ)
  | array (items : List JsonValue)
  | object (entries : List (String × JsonValue))

inductive LogicalValue
  | null
  | boolean (value : Bool)
  | uuid (value : String)
  | integer (signed : Bool) (bits : ℕ) (value : String)
  | decimal (unscaled : String) (scale : ℤ)
  | float (bits : ℕ) (ieee754Hex : String)
  | text (charset bytesBase64url : String) (text : Option String)
  | binary (bytesBase64url : String)
  | bitString (bytesBase64url : String) (bitLength : ℕ) (padding : BitPadding)
      (bitOrder : BitOrder)
  | date (year : ℤ) (month day : ℕ)
  | localTime (hour minute second microsecond : ℕ)
  | offsetTime (hour minute second microsecond : ℕ) (offsetSeconds : ℤ)
  | localDatetime (year : ℤ) (month day hour minute second microsecond : ℕ)
  | duration (negative : Bool) (hours minutes seconds microsecond : ℕ)
  | calendarInterval (months days microseconds : ℤ)
  | instant (unixSeconds : String) (nanoseconds : ℕ)
  | year (value : ℤ)
  | temporalInfinity (kind : TemporalInfinityKind) (negative : Bool)
  | enum (label : String)
  | set (members : List String)
  | spatial (format : SpatialFormat) (bytesBase64url geometryType : String) (dimensions : ℕ)
      (srid : Option ℤ) (crs : Option String)
  | array (elements : List LogicalValue)
  | struct (fields : List (String × LogicalValue))
  | map (entries : List (LogicalValue × LogicalValue))
  | range (empty : Bool) (lower upper : Option LogicalValue)
      (lowerInclusive upperInclusive : Bool)
  | multiRange (ranges : List LogicalValue)
  | arrayWithMetadata (elements : List LogicalValue) (dimensions : ℕ) (lowerBounds : List ℤ)
      (dimensionLengths : List ℕ)
  | invalidTemporal (kind raw : String)
  | network (family address : String) (prefixLength : Option ℕ)
  | xml (bytesBase64url : String) (text : Option String)
  | domain (value : LogicalValue)
  | raw (carrier : RawValueCarrier)
  | json (value : JsonValue)

mutual

/-- Structural equality of JSON values. -/
def JsonValue.same : JsonValue → JsonValue → Bool
  | .null, .null => true
  | .boolean a, .boolean b => a == b
  | .string a, .string b => a == b
  | .signedInteger a, .signedInteger b => a == b
  | .unsignedInteger a, .unsignedInteger b => a == b
  | .doubleBits a, .doubleBits b => a == b
  | .decimal u s, .decimal u' s' => u == u' && s == s'
  | .array a, .array b => JsonValue.sameItems a b
  | .object a, .object b => JsonValue.sameEntries a b
  | _, _ => false

def JsonValue.sameItems : List JsonValue → List JsonValue → Bool
  | [], [] => true
  | a :: as, b :: bs => JsonValue.same a b && JsonValue.sameItems as bs
  | _, _ => false

def JsonValue.sameEntries : List (String × JsonValue) → List (String × JsonValue) → Bool
  | [], [] => true
  | (k, a) :: as, (k', b) :: bs => k == k' && JsonValue.same a b && JsonValue.sameEntries as bs
  | _, _ => false

end

mutual

/-- Structural equality of logical values. -/
def LogicalValue.same : LogicalValue → LogicalValue → Bool
  | .null, .null => true
  | .boolean a, .boolean b => a == b
  | .uuid a, .uuid b => a == b
  | .integer s b v, .integer s' b' v' => s == s' && b == b' && v == v'
  | .decimal u s, .decimal u' s' => u == u' && s == s'
  | .float b x, .float b' x' => b == b' && x == x'
  | .text c x t, .text c' x' t' => c == c' && x == x' && t == t'
  | .binary x, .binary x' => x == x'
  | .bitString x l p o, .bitString x' l' p' o' => x == x' && l == l' && p == p' && o == o'
  | .date y m d, .date y' m' d' => y == y' && m == m' && d == d'
  | .localTime h m s u, .localTime h' m' s' u' => h == h' && m == m' && s == s' && u == u'
  | .offsetTime h m s u o, .offsetTime h' m' s' u' o' =>
    h == h' && m == m' && s == s' && u == u' && o == o'
  | .localDatetime y mo d h m s u, .localDatetime y' mo' d' h' m' s' u' =>
    y == y' && mo == mo' && d == d' && h == h' && m == m' && s == s' && u == u'
  | .duration n h m s u, .duration n' h' m' s' u' =>
    n == n' && h == h' && m == m' && s == s' && u == u'
  | .calendarInterval m d u, .calendarInterval m' d' u' => m == m' && d == d' && u == u'
  | .instant s n, .instant s' n' => s == s' && n == n'
  | .year y, .year y' => y == y'
  | .temporalInfinity k n, .temporalInfinity k' n' => k == k' && n == n'
  | .enum l, .enum l' => l == l'
  | .set m, .set m' => m == m'
  | .spatial f x g d s c, .spatial f' x' g' d' s' c' =>
    f == f' && x == x' && g == g' && d == d' && s == s' && c == c'
  | .array a, .array b => LogicalValue.sameElements a b
  | .struct a, .struct b => LogicalValue.sameFields a b
  | .map a, .map b => LogicalValue.sameEntries a b
  | .range e l u li ui, .range e' l' u' li' ui' =>
    e == e' && LogicalValue.sameBound l l' && LogicalValue.sameBound u u' && li == li' &&
      ui == ui'
  | .multiRange a, .multiRange b => LogicalValue.sameElements a b
  | .arrayWithMetadata a d l n, .arrayWithMetadata a' d' l' n' =>
    LogicalValue.sameElements a a' && d == d' && l == l' && n == n'
  | .invalidTemporal k r, .invalidTemporal k' r' => k == k' && r == r'
  | .network f a p, .network f' a' p' => f == f' && a == a' && p == p'
  | .xml x t, .xml x' t' => x == x' && t == t'
  | .domain v, .domain v' => LogicalValue.same v v'
  | .raw c, .raw c' => c == c'
  | .json v, .json v' => v.same v'
  | _, _ => false

def LogicalValue.sameElements : List LogicalValue → List LogicalValue → Bool
  | [], [] => true
  | a :: as, b :: bs => LogicalValue.same a b && LogicalValue.sameElements as bs
  | _, _ => false

def LogicalValue.sameFields :
    List (String × LogicalValue) → List (String × LogicalValue) → Bool
  | [], [] => true
  | (n, a) :: as, (n', b) :: bs =>
    n == n' && LogicalValue.same a b && LogicalValue.sameFields as bs
  | _, _ => false

def LogicalValue.sameEntries :
    List (LogicalValue × LogicalValue) → List (LogicalValue × LogicalValue) → Bool
  | [], [] => true
  | (k, a) :: as, (k', b) :: bs =>
    LogicalValue.same k k' && LogicalValue.same a b && LogicalValue.sameEntries as bs
  | _, _ => false

def LogicalValue.sameBound : Option LogicalValue → Option LogicalValue → Bool
  | none, none => true
  | some a, some b => LogicalValue.same a b
  | _, _ => false

end

/-- The presence of a column in a row image. -/
inductive Datum
  | unavailable
  | unchanged
  | null
  | value (value : LogicalValue)
  | sourceRepresentationEnvelope (envelope : SourceRepresentationEnvelope)

structure ColumnDatum where
  ordinal : ℕ
  name : String
  nativeType : String
  primaryKeyOrdinal : Option ℕ
  generated : Bool
  collation : Option String
  datum : Datum

structure RowChange where
  database : Option String
  operation : Operation
  schema : String
  table : String
  sourceCursor : SourceCursor
  sourceTimestamp : ℕ
  schemaBasis : String
  before : Option (List ColumnDatum)
  after : Option (List ColumnDatum)

/-- An ordered, committed batch of row changes. -/
structure ChangeTransaction where
  source : Source
  id : String
  beginCursor : SourceCursor
  commitCursor : SourceCursor
  changes : List RowChange

end DatabaseSync.ChangeEvent
