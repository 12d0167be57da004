import DatabaseSync.ChangeEvent.Validate

/-! # Snapshot batches

Snapshot rows have a boundary, but they are not binlog transactions.
-/

namespace DatabaseSync.ChangeEvent

/-- A selected table. No columns means all of them. -/
structure SnapshotTable where
  schema : String
  table : String
  columns : List String
deriving DecidableEq, Repr

/-- Every table, also an empty one, has a final batch. -/
structure SnapshotBatch where
  source : Source
  schema : String
  table : String
  rows : List (List ColumnDatum)
  lastInTable : Bool

variable (library : ValidationLibrary)

def validateSnapshotRow (row : List ColumnDatum) : Except String Unit := do
  image library row .insert false
  ensure (row.all fun column => column.datum matches .null | .value _)
    "snapshot rows must contain complete values"
  ensure (row.any fun column => column.primaryKeyOrdinal.isSome) "snapshot requires primary keys"

def validateSnapshot (batch : SnapshotBatch) : Except String Unit := do
  ensure (!batch.source.kind.isEmpty && !batch.source.version.isEmpty && !batch.source.id.isEmpty)
    "incomplete snapshot source"
  ensure (!batch.schema.isEmpty && !batch.table.isEmpty && !hasNul batch.schema &&
    !hasNul batch.table) "invalid snapshot table"
  ensure (!batch.rows.isEmpty || batch.lastInTable) "empty non-final snapshot batch"
  batch.rows.forM (validateSnapshotRow library)

end DatabaseSync.ChangeEvent
