import DatabaseSync.ChangeEvent.Model
import DatabaseSync.Library.Base64
import DatabaseSync.Library.Checked
import DatabaseSync.Library.Text

/-! # The binlog decoder

Events of a MySQL 8.0 binlog are assembled into committed transactions. The rows inside a rows
event are read by the driver with the layout of the table map; that reading, the decoding of a
single value and the check of a column's type are fields of the configuration, and what
`INFORMATION_SCHEMA` answers for a table map comes with the event.
-/

namespace DatabaseSync.MysqlSource

open ChangeEvent Text

structure ColumnInfo where
  name : String
  nativeType : String
  dataType : String
  charset : Option String
  collation : Option String
  generated : Bool
  primaryKeyOrdinal : Option ℕ
deriving DecidableEq, Repr

/-- A table map with the column metadata in its body. -/
structure TableMapEvent where
  tableId : ℕ
  databaseName : String
  tableName : String
  columnsCount : ℕ
  metadata : List UInt8
deriving DecidableEq, Repr

structure TableInfo where
  event : TableMapEvent
  columns : List ColumnInfo
deriving DecidableEq, Repr

inductive RowsKind
  | write
  | writeV1
  | update
  | updateV1
  | partialUpdate
  | delete
  | deleteV1
deriving DecidableEq, Repr

structure RowsEvent where
  kind : RowsKind
  tableId : ℕ
  body : List UInt8
deriving DecidableEq, Repr

/-- A column of a binlog row: its name in the row and its value, as far as the decoder looks at
it, `null` for SQL NULL and none for a value that is gone. -/
structure RowColumn (ν : Type) where
  name : String
  value : Option (Option ν)

inductive EventData
  | rotate (name : String)
  | tableMap (table : TableMapEvent) (queried : Except String (List ColumnInfo))
  | gtid (sid : List UInt8) (gno : ℕ) (tag : Option String)
  | anonymousGtid
  | query (text : String)
  | rows (rows : RowsEvent)
  | xid
  | heartbeat
  | formatDescription
  | previousGtids
  | stop
  | rowsQuery
  | ignorable
  | other
  | unknown
  | invalid (message : String)

structure Event where
  typeRaw : ℕ
  logPos : ℕ
  timestamp : ℕ
  data : EventData

/-- The driver's values of type `ν`, the reading of a rows event, and the rules for columns. -/
structure DecoderConfig (ν : Type) where
  source : Source
  rejectStatements : Bool
  captureTables : List (String × String)
  readRows : TableMapEvent → RowsEvent →
    List (Except String (Option (List (RowColumn ν)) × Option (List (RowColumn ν))))
  decodeValue : ν → ColumnInfo → Except String LogicalValue
  sourceTypeMapping : ColumnInfo → Except String Unit
  jsonSize : RowChange → ℕ
  validateChangeEvent : ChangeTransaction → Except String Unit

/-- The part of the decoder's state that outlives a transaction. -/
structure Context where
  currentFile : String
  tables : List (ℕ × TableInfo)

/-- Row changes are buffered, nothing is published before the commit. -/
structure PendingTransaction where
  id : String
  beginCursor : SourceCursor
  began : Bool
  changes : List RowChange
  bytes : ℕ

structure Decoder extends Context where
  pending : Option PendingTransaction

def Decoder.new (currentFile : String) : Decoder := ⟨⟨currentFile, []⟩, none⟩

def maxTransactionBytes : ℕ := 64 * 1024 * 1024

def checkEventType (raw : ℕ) : Except String Unit :=
  if raw = 0x28 then
    .error "compressed binlog transactions are unsupported; transaction was not emitted"
  else if raw = 0x27 then
    .error "partial JSON updates are unsupported; require binlog_row_value_options=''"
  else if raw = 0x26 then .error "XA transactions are unsupported"
  else if raw = 0x2a then .error "tagged GTID requires mysql_8_4"
  else .ok ()

def hex (bytes : List UInt8) : String :=
  String.ofList (bytes.flatMap fun b => [(b.toNat / 16).digitChar, (b.toNat % 16).digitChar])

def formatGtid (sid : List UInt8) (gno : ℕ) : String :=
  "-".intercalate [hex (sid.take 4), hex ((sid.drop 4).take 2), hex ((sid.drop 6).take 2),
    hex ((sid.drop 8).take 2), hex ((sid.drop 10).take 6)] ++ ":" ++ toString gno

/-- A tag stands between the source and the number. -/
def transactionId (sid : List UInt8) (gno : ℕ) (tag : Option String) : String :=
  let plain := formatGtid sid gno
  match tag, rsplitOnce plain ':' with
  | some tag, some (sid, number) => sid ++ ":" ++ tag ++ ":" ++ number
  | _, _ => plain

/-- The file, a zero byte and the position as four big-endian bytes. -/
def Context.cursor (context : Context) (position : ℕ) : SourceCursor where
  format := "mysql.binlog.file-position.v1"
  value := Base64.encode (context.currentFile.toUTF8.toList ++ 0 ::
    [UInt8.ofNat (position / 2 ^ 24), UInt8.ofNat (position / 2 ^ 16),
      UInt8.ofNat (position / 2 ^ 8), UInt8.ofNat position])
  display := context.currentFile ++ ":" ++ toString position

section Rows

variable {ν : Type} (cfg : DecoderConfig ν)

/-- No selection captures every table. -/
def captures (schema table : String) : Bool :=
  cfg.captureTables.isEmpty || cfg.captureTables.contains (schema, table)

/-- Columns of tables that are not captured are not looked up. -/
def storeTableMap (table : TableMapEvent) (queried : Except String (List ColumnInfo)) :
    Except String TableInfo := do
  if !captures cfg table.databaseName table.tableName then return ⟨table, []⟩
  let columns ← queried
  columns.forM cfg.sourceTypeMapping
  if columns.length ≠ table.columnsCount then
    throw ("cannot construct ChangeEvent for " ++ table.databaseName ++ "." ++ table.tableName ++
      ": TABLE_MAP has " ++ toString table.columnsCount ++
      " columns but INFORMATION_SCHEMA returned " ++ toString columns.length)
  return ⟨table, columns⟩

def decodeColumn (columns : List ColumnInfo) (index : ℕ) (column : RowColumn ν) :
    Except String ColumnDatum := do
  let ordinal := ((stripChar column.name '@').bind parseU64).getD index
  match columns[ordinal]? with
  | none => throw ("row image column ordinal " ++ toString ordinal ++ " is out of range")
  | some info =>
    let datum ← match column.value with
      | some none => pure Datum.null
      | some (some value) => do pure (Datum.value (← cfg.decodeValue value info))
      | none => throw "row value was consumed before conversion"
    return ⟨ordinal, info.name, info.nativeType, info.primaryKeyOrdinal, info.generated,
      info.collation, datum⟩

def decodeRow (columns : List ColumnInfo) (row : List (RowColumn ν)) :
    Except String (List ColumnDatum) := do
  if row.length ≠ columns.length then
    throw ("row image is incomplete: decoded " ++ toString row.length ++ " columns, expected " ++
      toString columns.length ++ "; binlog_row_image must be FULL")
  row.zipIdx.mapM fun (column, index) => decodeColumn cfg columns index column

def decodeImage (columns : List ColumnInfo) (row : Option (List (RowColumn ν))) :
    Except String (Option (List ColumnDatum)) :=
  match row with
  | none => .ok none
  | some row => do return some (← decodeRow cfg columns row)

def rowsOperation : RowsKind → Operation
  | .write | .writeV1 => .insert
  | .update | .updateV1 | .partialUpdate => .update
  | .delete | .deleteV1 => .delete

/-- The changes of a rows event, none for a table that is not captured. -/
def decodeRows (context : Context) (rows : RowsEvent) (cursor : SourceCursor) (timestamp : ℕ) :
    Except String (Option (List RowChange)) := do
  match context.tables.lookup rows.tableId with
  | none => throw ("row event refers to unknown TABLE_MAP id " ++ toString rows.tableId)
  | some table =>
    if table.columns.isEmpty && !cfg.captureTables.isEmpty then return none
    let changes ← (cfg.readRows table.event rows).mapM fun decoded => do
      let (before, after) ← decoded
      let before ← decodeImage cfg table.columns before
      let after ← decodeImage cfg table.columns after
      return ⟨none, rowsOperation rows.kind, table.event.databaseName, table.event.tableName,
        cursor, timestamp, "information_schema_at_capture", before, after⟩
    return some changes

end Rows

def PendingTransaction.new (id : String) (beginCursor : SourceCursor) (began : Bool) :
    PendingTransaction := ⟨id, beginCursor, began, [], 0⟩

/-- Buffer a change, within the limit on the size of a transaction. -/
def PendingTransaction.push (transaction : PendingTransaction) (size : ℕ) (change : RowChange)
    (byteLimit : ℕ) : Except String PendingTransaction := do
  if !transaction.began then throw "row before BEGIN; start at a transaction boundary"
  if byteLimit - transaction.bytes < size then
    throw "transaction exceeds buffer limit; no events from it were emitted"
  return { transaction with
    bytes := transaction.bytes + size, changes := transaction.changes ++ [change] }

/-- The statements that set up the reserved control schema. -/
def controlDdl (statement : String) : Bool :=
  statement == "CREATE DATABASE IF NOT EXISTS CDC" ||
    startsWith statement "CREATE TABLE IF NOT EXISTS CDC.LOG_INFO (" ||
    statement == "ALTER TABLE CDC.LOG_INFO ADD COLUMN PHASE VARCHAR(16) NOT NULL DEFAULT 'INCREMENTAL'" ||
    statement == "ALTER TABLE CDC.LOG_INFO ADD COLUMN SNAPSHOT_ROWS BIGINT UNSIGNED NOT NULL DEFAULT 0" ||
    statement == "ALTER TABLE CDC.LOG_INFO ADD COLUMN SNAPSHOT_GTIDS LONGTEXT CHARACTER SET ASCII"

namespace Decoder

variable {ν : Type} (cfg : DecoderConfig ν) (d : Decoder)

def startTransaction (id : String) (cursor : SourceCursor) : Except String Decoder := do
  if d.pending.isSome then
    throw "a new GTID arrived before the previous transaction committed"
  return { d with pending := some (.new id cursor false) }

/-- Only a selection of tables publishes transactions without changes. -/
def finishTransaction (cursor : SourceCursor) :
    Except String (Decoder × Option ChangeTransaction) :=
  match d.pending with
  | none => .ok (d, none)
  | some transaction =>
    if !transaction.began then .error "commit without BEGIN"
    else if transaction.changes.isEmpty && cfg.captureTables.isEmpty then
      .ok ({ d with pending := none }, none)
    else .ok ({ d with pending := none }, some ⟨cfg.source, transaction.id,
      transaction.beginCursor, cursor, transaction.changes⟩)

def beginTransaction (cursor : SourceCursor) : Except String Decoder :=
  match d.pending with
  | none =>
    .ok { d with pending := some (.new ("anonymous:" ++ cursor.display) cursor true) }
  | some transaction =>
    if transaction.began then .error "nested BEGIN in MySQL transaction"
    else .ok { d with pending := some { transaction with beginCursor := cursor, began := true } }

/-- A control statement commits by itself. -/
def markBegan : Decoder :=
  { d with pending := d.pending.map fun transaction => { transaction with began := true } }

def handleQuery (query : String) (cursor : SourceCursor) :
    Except String (Decoder × Option ChangeTransaction) := do
  let statement := toAsciiUppercase (trim query)
  if statement = "BEGIN" ∨ startsWith statement "BEGIN " then
    return (← d.beginTransaction cursor, none)
  else if statement = "COMMIT" then d.finishTransaction cfg cursor
  else if statement = "ROLLBACK" then return ({ d with pending := none }, none)
  else if cfg.rejectStatements && !controlDdl statement then
    throw "发现 DDL 或语句型事件；当前任务仅支持行变更，已停止且未推进该事件位点"
  else if controlDdl statement && !cfg.captureTables.isEmpty then
    d.markBegan.finishTransaction cfg cursor
  else if d.pending.any (·.changes.isEmpty) then return ({ d with pending := none }, none)
  else return (d, none)

def pushChanges (transaction : PendingTransaction) (changes : List RowChange) :
    Except String PendingTransaction :=
  changes.foldlM (fun t change => t.push (cfg.jsonSize change) change maxTransactionBytes)
    transaction

def handleRows (rows : RowsEvent) (cursor : SourceCursor) (timestamp : ℕ) :
    Except String Decoder := do
  match ← decodeRows cfg d.toContext rows cursor timestamp with
  | none => return d
  | some changes =>
    match d.pending with
    | none => throw "row event arrived without a GTID/BEGIN; resume from a transaction boundary"
    | some transaction =>
      if !transaction.began then
        throw "row event arrived before BEGIN; resume from a transaction boundary"
      return { d with pending := some (← pushChanges cfg transaction changes) }

def decode (event : Event) : Except String (Decoder × Option ChangeTransaction) := do
  checkEventType event.typeRaw
  let eventCursor := d.cursor event.logPos
  match event.data with
  | .rotate name =>
    if d.pending.isSome then
      throw "binlog rotated with an uncommitted transaction in the buffer"
    return (⟨⟨name, []⟩, none⟩, none)
  | .tableMap table queried =>
    let info ← storeTableMap cfg table queried
    return ({ d with tables := (table.tableId, info) :: d.tables }, none)
  | .gtid sid gno tag => return (← d.startTransaction (transactionId sid gno tag) eventCursor, none)
  | .anonymousGtid =>
    return (← d.startTransaction ("anonymous:" ++ eventCursor.display) eventCursor, none)
  | .query text => d.handleQuery cfg text eventCursor
  | .rows rows => return (← d.handleRows cfg rows eventCursor event.timestamp, none)
  | .xid => d.finishTransaction cfg eventCursor
  | .heartbeat | .formatDescription | .previousGtids | .stop | .rowsQuery | .ignorable =>
    return (d, none)
  | .other => throw "unsupported 8.0 binlog event"
  | .unknown => throw "unknown binlog event; capture stopped"
  | .invalid message => throw message

/-- Decode a sequence of events; the first error ends it. -/
def decodeAll : Decoder → List Event → Except String (Decoder × List ChangeTransaction)
  | d, [] => return (d, [])
  | d, event :: events => do
    let (d, emitted) ← d.decode cfg event
    let (d, rest) ← decodeAll d events
    return (d, emitted.toList ++ rest)

def ensureComplete : Except String Unit := do
  if d.pending.isSome then
    throw "stream ended inside a transaction; no partial transaction was emitted"

end Decoder

end DatabaseSync.MysqlSource
