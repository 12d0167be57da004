import DatabaseSync.ChangeEvent.Snapshot
import DatabaseSync.Library.Keyset
import DatabaseSync.MysqlSource.KeyValues
import Mathlib.Data.List.Lex

/-! # Reading a snapshot

The selected tables are read in one read view, a batch of rows at a time. A batch continues
after the last key of the batch before, which is bound back as the driver delivered it. `ν` are
the values the driver delivers of the selected expressions.
-/

namespace DatabaseSync.MysqlSource

open ChangeEvent Checked Text

def batchRows : ℕ := 256

def maxBatchBytes : ℕ := 16 * 1024 * 1024

def snapshotDataTypeSupported (dataType : String) : Bool :=
  ["tinyint", "smallint", "mediumint", "int", "bigint", "decimal", "float", "double", "char",
    "varchar", "tinytext", "text", "mediumtext", "longtext", "binary", "varbinary", "tinyblob",
    "blob", "mediumblob", "longblob", "bit", "enum", "set", "date", "datetime", "time",
    "timestamp", "year", "json", "geometry", "point", "linestring", "polygon", "multipoint",
    "multilinestring", "multipolygon", "geometrycollection", "geomcollection"].contains dataType

/-- A table to be read. Its key has a column, since a table without a primary key is refused. -/
structure ScanTable where
  scope : SnapshotTable
  columns : List ColumnInfo
  keys : List ℕ
  keys_ne : keys ≠ []

def isSelected (scope : SnapshotTable) (column : ColumnInfo) : Bool :=
  scope.columns.isEmpty || scope.columns.contains column.name

/-- The ordinals of the primary key in key order. -/
def primaryKey (columns : List ColumnInfo) : List ℕ :=
  let keyed := columns.zipIdx.filter fun column => column.1.primaryKeyOrdinal.isSome
  (keyed.insertionSort fun a b =>
    a.1.primaryKeyOrdinal.getD 0 ≤ b.1.primaryKeyOrdinal.getD 0).map Prod.snd

def scanTable (scope : SnapshotTable) (engine : Option String) (columns : List ColumnInfo) :
    Except String ScanTable :=
  if engine ≠ some "InnoDB" then .error "snapshot requires InnoDB source tables"
  else if h : primaryKey columns = [] then
    .error "snapshot selection must contain every primary-key column"
  else if (primaryKey columns).any fun i => columns[i]?.any fun column =>
      !isSelected scope column then
    .error "snapshot selection must contain every primary-key column"
  else if scope.columns.any fun name => !columns.any fun column => column.name == name then
    .error "snapshot selected column is missing"
  else
    match columns.find? fun column =>
      isSelected scope column && !snapshotDataTypeSupported column.dataType with
    | some column => .error ("snapshot type unsupported: " ++ scope.schema ++ "." ++ scope.table ++
        "." ++ column.name ++ " " ++ column.nativeType)
    | none => .ok ⟨scope, columns, primaryKey columns, h⟩

def checkScope (tables : List SnapshotTable) : Except String Unit := do
  if tables.isEmpty || tables.any fun t =>
      eqIgnoreAsciiCase t.schema "CDC" || t.schema.isEmpty || t.table.isEmpty then
    throw "invalid or empty snapshot scope"
  if ¬ (tables.map fun t => (t.schema, t.table)).Nodup then throw "duplicate snapshot table"

/-- The tables of a reader, where `describe` answers the metadata queries. -/
def snapshotTables (describe : SnapshotTable → Except String (Option String × List ColumnInfo))
    (tables : List SnapshotTable) : Except String (List ScanTable) := do
  checkScope tables
  tables.mapM fun scope => do
    let (engine, columns) ← describe scope
    scanTable scope engine columns

/-- The source: the frozen rows of its tables by column ordinal, the expression that is selected
for a column as the driver delivers it, the bare key columns, the sizes of both, whether a JSON
value survives its text, and the decoding of a value. -/
structure SnapshotServer (σ κ ν : Type) where
  rows : String → String → List (ℕ → KeyValue σ)
  select : ColumnInfo → KeyValue σ → Option ν
  keys : KeyServer σ κ
  size : ν → ℕ
  keySize : KeyParameter σ → ℕ
  jsonRoundTrips : KeyValue σ → Bool
  decodeValue : ν → ColumnInfo → Except String LogicalValue

/-- What happens to the queries of a batch: a stop before it, how the query ends, and the stop or
failing read before a row. -/
structure BatchInput where
  stopped : Bool
  query : Except String Unit
  failure : ℕ → Option String

structure SnapshotReader (σ : Type) where
  source : Source
  tables : List ScanTable
  tableIndex : ℕ
  lastKey : List (KeyParameter σ)
  ended : Bool

def SnapshotReader.new {σ : Type} (source : Source) (tables : List ScanTable) :
    SnapshotReader σ := ⟨source, tables, 0, [], false⟩

/-- `(a, …) > (b, …)`: the first difference decides. -/
def rowGreater {σ : Type} [LinearOrder σ] : List σ → List σ → Bool
  | a :: as, b :: bs => decide (b < a) || (decide (a = b) && rowGreater as bs)
  | _, _ => false

/-- The key values of a row. -/
def ScanTable.key {σ : Type} (table : ScanTable) (row : ℕ → KeyValue σ) : List (KeyValue σ) :=
  table.keys.map row

def ScanTable.keyColumns (table : ScanTable) : List ColumnInfo :=
  table.keys.filterMap fun i => table.columns[i]?

namespace KeyServer

variable {σ κ : Type} (server : KeyServer σ κ) (table : ScanTable)

/-- The last key: the key columns of a row as the driver delivers them. -/
def lastKey (row : ℕ → KeyValue σ) : List (KeyParameter σ) :=
  List.zipWith server.deliver table.keyColumns (table.key row)

/-- `(keys) > (?, …)`. -/
def exceeds [LinearOrder κ] (row : ℕ → KeyValue σ) (params : List (KeyParameter σ)) : Bool :=
  rowGreater (List.zipWith server.image table.keyColumns (table.key row))
    (List.zipWith server.comparedAs table.keyColumns params)

end KeyServer

section Rows

variable {σ κ ν : Type} (server : SnapshotServer σ κ ν)

def SnapshotServer.decodeColumn (row : ℕ → KeyValue σ) (column : ColumnInfo) (i : ℕ) :
    Except String ColumnDatum := do
  let datum ← match server.select column (row i) with
    | none => pure Datum.null
    | some value => do pure (Datum.value (← server.decodeValue value column))
  return ⟨i, column.name, column.nativeType, column.primaryKeyOrdinal, column.generated,
    column.collation, datum⟩

namespace ScanTable

variable (table : ScanTable)

def selected : List (ColumnInfo × ℕ) :=
  table.columns.zipIdx.filter fun column => isSelected table.scope column.1

def stored : List (ℕ → KeyValue σ) := server.rows table.scope.schema table.scope.table

def jsonColumns : List (ColumnInfo × ℕ) :=
  table.selected.filter fun column => column.1.dataType == "json"

/-- The selected columns, the key columns and the checks of the JSON columns. -/
def rowBytes (row : ℕ → KeyValue σ) : ℕ :=
  (table.selected.map fun (column, i) =>
      ((server.select column (row i)).map server.size).getD 32).sum +
    ((server.keys.lastKey table row).map server.keySize).sum + 32 * table.jsonColumns.length

def decodeRow (row : ℕ → KeyValue σ) : Except String (List ColumnDatum) :=
  table.selected.mapM fun (column, i) => server.decodeColumn row column i

/-- Read the rows of a result, from the row with index `i` and the bytes of the rows before. -/
def readRows (failure : ℕ → Option String) :
    ℕ → ℕ → List (ℕ → KeyValue σ) → Except String (List (List ColumnDatum))
  | _, _, [] => .ok []
  | i, bytes, row :: rest =>
    match failure i with
    | some e => .error e
    | none =>
      if maxBatchBytes < bytes + table.rowBytes server row then
        .error "snapshot batch exceeds 16 MiB limit; no data committed"
      else if table.jsonColumns.any fun column => !server.jsonRoundTrips (row column.2) then
        .error ("snapshot JSON contains a value that cannot round-trip through JSON text; " ++
          "refusing lossy conversion")
      else do
        let decoded ← table.decodeRow server row
        return decoded :: (← readRows failure (i + 1) (bytes + table.rowBytes server row) rest)

variable [LinearOrder σ] [LinearOrder κ]

/-- `SELECT … [WHERE (keys) > (last)] ORDER BY keys LIMIT 256`. -/
def query (lastKey : List (KeyParameter σ)) : List (ℕ → KeyValue σ) :=
  let matching := (table.stored server).filter fun row =>
    lastKey.isEmpty || server.keys.exceeds table row lastKey
  (Keyset.sortByKey table.key matching).take batchRows

end ScanTable

namespace SnapshotReader

variable [LinearOrder σ] [LinearOrder κ] (r : SnapshotReader σ)

def nextBatch (table : ScanTable) (input : BatchInput) :
    Except String (SnapshotBatch × SnapshotReader σ) := do
  if input.stopped then throw "全量同步已取消，未提交数据将回滚"
  input.query
  let result := table.query server r.lastKey
  let rows ← table.readRows server input.failure 0 0 result
  let batch := ⟨r.source, table.scope.schema, table.scope.table, rows,
    decide (rows.length < batchRows)⟩
  if rows.length < batchRows then
    return (batch, { r with tableIndex := r.tableIndex + 1, lastKey := [] })
  else
    let lastKey := (result.getLast?.map (server.keys.lastKey table)).getD r.lastKey
    return (batch, { r with lastKey := lastKey })

/-- The iterator: an error ends it. -/
def next (input : BatchInput) : Option (Except String SnapshotBatch × SnapshotReader σ) :=
  if r.ended then none
  else
    match r.tables[r.tableIndex]? with
    | none => none
    | some table =>
      match r.nextBatch server table input with
      | .ok (batch, r) => some (.ok batch, r)
      | .error e => some (.error e, { r with ended := true })

/-- The stored rows that the query of the next batch selects. -/
def selected : List (ℕ → KeyValue σ) :=
  match r.tables[r.tableIndex]? with
  | none => []
  | some table => table.query server r.lastKey

end SnapshotReader

end Rows

end DatabaseSync.MysqlSource
