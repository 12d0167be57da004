import DatabaseSync.ChangeEvent.Model
import DatabaseSync.Library.Checked
import DatabaseSync.PostgresqlSource.Lsn

/-! # The pgoutput decoder

Messages of the logical replication protocol are assembled into committed transactions. The
text of a column, the catalog's view of type names and the validation of the assembled
transaction are fields of the configuration.
-/

namespace DatabaseSync.PostgresqlSource

open ChangeEvent

inductive PgError
  | invalid (message : String)
  | tryFromInt
  | rejected (message : String)
deriving DecidableEq, Repr

structure Column where
  name : String
  oid : ℕ
  modifier : ℤ
  nativeType : String
  representationOnly : Bool
  representationCaptureAllowed : Bool
  key : Option ℕ
deriving DecidableEq, Repr

structure Table where
  oid : ℕ
  schema : String
  name : String
  identity : Char
  sourceTypeCatalogDigest : String
  columns : List Column
deriving DecidableEq, Repr

/-- A column of a `Relation` message. -/
structure ColumnInfo where
  name : String
  typeId : ℕ
  typeModifier : ℤ
  isKey : Bool
deriving DecidableEq, Repr

structure ColumnData where
  dataType : Char
  bytes : List UInt8
deriving DecidableEq, Repr

inductive Message
  | begin (finalLsn : ℕ) (timestamp : ℤ) (xid : ℕ)
  | commit (flags commitLsn endLsn : ℕ) (timestamp : ℤ)
  | relation (relationId : ℕ) (schema relationName : String) (replicaIdentity : Char)
      (columns : List ColumnInfo)
  | insert (relationId : ℕ) (tuple : List ColumnData)
  | update (relationId : ℕ) (oldTuple : Option (List ColumnData)) (newTuple : List ColumnData)
      (keyType : Option Char)
  | delete (relationId : ℕ) (oldTuple : List ColumnData) (keyType : Char)
  | truncate
  | type (typeId : ℕ) (schema typeName : String)
  | origin
  | other
deriving DecidableEq, Repr

structure DecoderConfig where
  source : Source
  database : String
  tables : List (ℕ × Table)
  typeNames : List (ℕ × String × String)
  protocolTypeIdentityMatches : ℕ → String → String → Bool
  decodeText : Table → Column → SourceCursor → List UInt8 → Except PgError Datum
  validateChangeEvent : ChangeTransaction → Except PgError Unit
  maxBytes : ℕ

structure Pending where
  xid : ℕ
  finalLsn : ℕ
  timestamp : ℤ
  bytes : ℕ
  rows : List RowChange

structure Decoder where
  seen : List ℕ
  pending : Option Pending
  previousEnd : ℕ

def Decoder.new : Decoder := ⟨[], none, 0⟩

def cursor (lsn : ℕ) : SourceCursor := ⟨"postgresql.lsn.v1", formatLsn lsn, formatLsn lsn⟩

variable (cfg : DecoderConfig)

def datum (table : Table) (keyOnly : Bool) (sourceCursor : SourceCursor) (column : Column)
    (data : ColumnData) : Except PgError Datum :=
  if keyOnly ∧ column.key.isNone then return .unavailable
  else if data.dataType = 'n' then return .null
  else if data.dataType = 'u' then return .unchanged
  else if data.dataType = 't' ∧
      (column.representationOnly → column.representationCaptureAllowed) then
    cfg.decodeText table column sourceCursor data.bytes
  else throw (.invalid "unexpected binary/invalid pgoutput value; text transfer required")

def image (table : Table) (tuple : List ColumnData) (keyOnly : Bool)
    (sourceCursor : SourceCursor) : Except PgError (List ColumnDatum) := do
  if tuple.length ≠ table.columns.length then
    throw (.invalid "tuple column count differs from Relation")
  (table.columns.zip tuple).zipIdx.mapM fun ((column, data), ordinal) => do
    return ⟨ordinal, column.name, column.nativeType, column.key, false, none,
      ← datum cfg table keyOnly sourceCursor column data⟩

/-- The before image of an `UPDATE`. Without an old tuple the key is unchanged, and the key
columns of the new image stand for it. -/
def oldImage (table : Table) (sourceCursor : SourceCursor) (after : List ColumnDatum)
    (keyType : Option Char) (oldTuple : Option (List ColumnData)) :
    Except PgError (List ColumnDatum) :=
  match keyType, oldTuple with
  | some 'K', some old => image cfg table old true sourceCursor
  | some 'O', some old =>
    if table.identity = 'f' then image cfg table old false sourceCursor
    else throw (.invalid "invalid UPDATE old tuple/replica identity")
  | none, none =>
    if table.identity = 'd' then
      return after.map fun c =>
        if c.primaryKeyOrdinal.isNone then { c with datum := .unavailable } else c
    else throw (.invalid "invalid UPDATE old tuple/replica identity")
  | _, _ => throw (.invalid "invalid UPDATE old tuple/replica identity")

/-- Whether the old tuple of a `DELETE` holds the key columns only. -/
def deletedKeyOnly (table : Table) (keyType : Char) : Except PgError Bool :=
  if keyType = 'K' ∧ table.identity = 'd' then return true
  else if keyType = 'O' ∧ table.identity = 'f' then return false
  else throw (.invalid "invalid DELETE identity")

namespace Decoder

variable (d : Decoder)

def table (relationId : ℕ) : Except PgError Table := do
  if relationId ∉ d.seen then throw (.invalid "row arrived before its Relation message")
  match cfg.tables.lookup relationId with
  | some table => return table
  | none => throw (.invalid "unknown relation")

def currentCursor : Except PgError SourceCursor :=
  match d.pending with
  | some pending => return cursor pending.finalLsn
  | none => throw (.invalid "row outside a transaction")

/-- Append a row to the pending transaction. -/
def row (relationId : ℕ) (operation : Operation) (before after : Option (List ColumnDatum)) :
    Except PgError Decoder := do
  let some t := cfg.tables.lookup relationId | throw (.invalid "unknown table")
  let some p := d.pending | throw (.invalid "row outside a transaction")
  if 100000 ≤ p.rows.length then
    throw (.invalid "transaction exceeds 100000 row capture limit")
  let seconds := p.timestamp.fdiv 1000000 + 946684800
  if 2 ^ 63 ≤ seconds then throw (.invalid "timestamp overflow")
  if ¬ (0 ≤ seconds ∧ seconds < 2 ^ 32) then throw .tryFromInt
  let change : RowChange :=
    ⟨some cfg.database, operation, t.schema, t.name, cursor p.finalLsn, seconds.toNat,
      "pgoutput+catalog:" ++ toString t.oid ++ ":" ++ t.sourceTypeCatalogDigest, before, after⟩
  return { d with pending := some { p with rows := p.rows ++ [change] } }

/-- Count the bytes of a message towards the pending transaction. -/
def charge (bytes : ℕ) : Except PgError Decoder :=
  match d.pending with
  | none => return d
  | some p => do
    if 2 ^ 64 ≤ p.bytes + bytes then throw (.invalid "transaction size overflow")
    if cfg.maxBytes < p.bytes + bytes then
      throw (.invalid
        "transaction exceeds capture wire-size limit; checkpoint has not advanced")
    return { d with pending := some { p with bytes := p.bytes + bytes } }

/-- The `BEGIN` branch of `push`. -/
def pushBegin (finalLsn : ℕ) (timestamp : ℤ) (xid bytes : ℕ) : Except PgError Decoder := do
  if d.pending.isSome ∨ xid = 0 ∨ finalLsn = 0 ∨ finalLsn ≤ d.previousEnd then
    throw (.invalid "invalid/nested BEGIN or out-of-order transaction")
  return { d with pending := some ⟨xid, finalLsn, timestamp, bytes, []⟩ }

/-- Rows and envelopes carry the end of their transaction as their cursor. -/
def atEnd (endLsn : ℕ) (change : RowChange) : RowChange :=
  let stamp (column : ColumnDatum) : ColumnDatum :=
    match column.datum with
    | .sourceRepresentationEnvelope e =>
      { column with
        datum := .sourceRepresentationEnvelope
          { e with context := { e.context with sourceCursor := cursor endLsn } } }
    | _ => column
  { change with
    sourceCursor := cursor endLsn
    before := change.before.map (·.map stamp)
    after := change.after.map (·.map stamp) }

/-- The transaction that a `COMMIT` closes. -/
def committed (p : Pending) (commitLsn endLsn : ℕ) : ChangeTransaction :=
  ⟨cfg.source, "pg:" ++ toString p.xid ++ ":" ++ formatLsn endLsn, cursor commitLsn,
    cursor endLsn, p.rows.map (atEnd endLsn)⟩

/-- The `COMMIT` branch of `push`. -/
def pushCommit (flags commitLsn endLsn : ℕ) (timestamp : ℤ) :
    Except PgError (Decoder × Option ChangeTransaction) := do
  let some p := d.pending | throw (.invalid "COMMIT without BEGIN")
  if flags ≠ 0 ∨ commitLsn ≠ p.finalLsn ∨ endLsn ≤ commitLsn ∨ timestamp ≠ p.timestamp ∨
      endLsn ≤ d.previousEnd then
    throw (.invalid "inconsistent PostgreSQL COMMIT boundary")
  let d := { d with pending := none, previousEnd := endLsn }
  if p.rows.isEmpty then return (d, none)
  let transaction := committed cfg p commitLsn endLsn
  cfg.validateChangeEvent transaction
  return (d, some transaction)

/-- The branches of `push` that belong inside a transaction. -/
def pushBody : Message → Except PgError Decoder
  | .relation relationId schema relationName replicaIdentity columns => do
    let some table := cfg.tables.lookup relationId | throw (.invalid
      "new publication relation: restart with a checked schema; DDL capture is not supported")
    if table.schema ≠ schema ∨ table.name ≠ relationName ∨ table.identity ≠ replicaIdentity ∨
        table.columns.length ≠ columns.length ∨
        ¬ ((table.columns.zip columns).all fun (a, b) =>
          a.name == b.name && a.oid == b.typeId && a.modifier == b.typeModifier &&
            (replicaIdentity == 'f' || a.key.isSome == b.isKey)) then
      throw (.invalid "pgoutput relation disagrees with checked catalog; schema changed")
    return { d with seen := relationId :: d.seen }
  | .insert relationId tuple => do
    let t ← d.table cfg relationId
    let after ← image cfg t tuple false (← d.currentCursor)
    d.row cfg relationId .insert none (some after)
  | .update relationId oldTuple newTuple keyType => do
    let t ← d.table cfg relationId
    let sourceCursor ← d.currentCursor
    let after ← image cfg t newTuple false sourceCursor
    let before ← oldImage cfg t sourceCursor after keyType oldTuple
    d.row cfg relationId .update (some before) (some after)
  | .delete relationId oldTuple keyType => do
    let t ← d.table cfg relationId
    let sourceCursor ← d.currentCursor
    let keyOnly ← deletedKeyOnly t keyType
    let before ← image cfg t oldTuple keyOnly sourceCursor
    d.row cfg relationId .delete (some before) none
  | .truncate => throw (.invalid
      "TRUNCATE is not supported; capture stopped without acknowledging it")
  | .type typeId schema typeName => do
    let some (expectedSchema, expectedName) := cfg.typeNames.lookup typeId |
      throw (.invalid ("pgoutput TYPE references OID " ++ toString typeId ++
        " absent from the checked PostgreSQL type catalog"))
    if ¬ cfg.protocolTypeIdentityMatches typeId schema typeName then
      throw (.invalid ("pgoutput TYPE identity for OID " ++ toString typeId ++ " is " ++ schema ++
        "." ++ typeName ++ ", checked catalog expects " ++ expectedSchema ++ "." ++ expectedName))
    return d
  | .origin => throw (.invalid "replicated origins are not supported yet")
  | _ => throw (.invalid "unexpected protocol message for pgoutput v1")

def push (message : Message) (bytes : ℕ) :
    Except PgError (Decoder × Option ChangeTransaction) := do
  let d ← d.charge cfg bytes
  match message with
  | .begin finalLsn timestamp xid => return (← d.pushBegin finalLsn timestamp xid bytes, none)
  | .commit flags commitLsn endLsn timestamp => d.pushCommit cfg flags commitLsn endLsn timestamp
  | message => return (← d.pushBody cfg message, none)

/-- Push a stream; the first error ends it. -/
def pushAll : Decoder → List (Message × ℕ) → Except PgError (Decoder × List ChangeTransaction)
  | d, [] => return (d, [])
  | d, (message, bytes) :: stream => do
    let (d, emitted) ← d.push cfg message bytes
    let (d, rest) ← pushAll d stream
    return (d, emitted.toList ++ rest)

end Decoder

end DatabaseSync.PostgresqlSource
