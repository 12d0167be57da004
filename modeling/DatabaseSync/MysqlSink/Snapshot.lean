import DatabaseSync.ChangeEvent.Snapshot
import DatabaseSync.MysqlSink.Checkpoint
import DatabaseSync.MysqlSink.Execute

/-! # Copying a snapshot

All rows and the transition to incremental replication are committed together. The batches are
what the reader's iterator has returned.
-/

namespace DatabaseSync.MysqlSink

open ChangeEvent Checked Relational Text

/-! ## Rendering -/

section Rendering

variable (library : ValueLibrary) (targetVersion : String)

def snapshotPlaceholder (column : ColumnDatum) : Except SinkError Placeholder :=
  match column.datum with
  | .value (.spatial _ _ _ _ srid _) =>
    .ok (if targetVersion = "5.7" then .plain else .fromWkb (srid.map toString))
  | .value (.text charset _ _) => do return .convertUsing (← mysqlCharsetName charset)
  | _ => .ok .plain

def bindDatum (datum : Datum) : Except SinkError Value :=
  match datum with
  | .unavailable | .unchanged =>
    .error (capabilityFailure "cannot render an unavailable or unchanged datum")
  | .null => .ok .null
  | .value value => bindLogicalValue library value
  | .sourceRepresentationEnvelope _ => .error (capabilityFailure
      "MySQL Sink has no qualified carrier plan for source representation envelopes")

def bindSnapshotColumn (column : ColumnDatum) : Except SinkError Value :=
  match column.datum with
  | .value (.spatial format bytes geometryType dimensions srid crs) =>
    mysqlSpatialValue targetVersion (.spatial format bytes geometryType dimensions srid crs)
  | .value (.text _ bytesBase64url _) => do return .bytes (← decodeBytes bytesBase64url)
  | datum => bindDatum library datum

def ensureSupportedSnapshotColumn (column : ColumnDatum) : Except SinkError Unit :=
  match column.datum with
  | .value value => do
    ensureSourceValueType column.nativeType value column.primaryKeyOrdinal
    match value with
    | .text charset bytesBase64url _ =>
      let _ ← mysqlCharsetName charset
      let _ ← decodeBytes bytesBase64url
    | .spatial .. => let _ ← mysqlSpatialValue targetVersion value
    | _ =>
      let _ ← (bindLogicalValue library value).mapError fun error =>
        capabilityFailure ("column " ++ column.name ++ ": " ++ sinkErrorText error)
  | _ => .ok ()

def ensureSupportedSnapshotImage (row : List ColumnDatum) : Except SinkError Unit := do
  if !row.any fun column => column.primaryKeyOrdinal.isSome then
    throw (capabilityFailure "row has no primary key")
  (row.filter fun column => !column.generated).forM
    (ensureSupportedSnapshotColumn library targetVersion)

def snapshotStatement (schema table : String) (row : List ColumnDatum) :
    Except SinkError PlannedStatement := do
  ensureSupportedSnapshotImage library targetVersion row
  if (writableColumns row).isEmpty then
    throw (capabilityFailure "snapshot has no writable columns")
  let placeholders ← (writableColumns row).mapM (snapshotPlaceholder targetVersion)
  let params ← (writableColumns row).mapM (bindSnapshotColumn library targetVersion)
  return ⟨schema, table, .insert ((writableColumns row).map (·.name)) placeholders, params, none,
    .insert, []⟩

def snapshotSql (batch : SnapshotBatch) : Except SinkError (List PlannedStatement) := do
  if eqIgnoreAsciiCase batch.schema "CDC" then throw (capabilityFailure "CDC is reserved")
  batch.rows.mapM (snapshotStatement library targetVersion batch.schema batch.table)

end Rendering

/-! ## Executing -/

section Executing

variable {ν : Type} [BEq ν] (server : Server ν)

def executeSnapshotStatement (content : Content ν) (statement : PlannedStatement) :
    Except SinkError (Content ν) := do
  if !server.admits content statement then throw .database
  match content (statement.schema, statement.table) with
  | none => throw .database
  | some table =>
    let (table', affected) ← execDrop server table statement
    if affected ≠ 1 then
      throw (.message "snapshot INSERT warnings or unexpected affected rows; rolling back")
    return Function.update content (statement.schema, statement.table) (some table')

def executeSnapshot (content : Content ν) (statements : List PlannedStatement) :
    Except SinkError (Content ν) :=
  statements.foldlM (executeSnapshotStatement server) content

/-- A target must be empty, on a transactional engine and without triggers and foreign keys. -/
def snapshotTarget (foreignKeys : String × String → ℕ) (content : Content ν)
    (table : SnapshotTable) : Except SinkError Unit := do
  if eqIgnoreAsciiCase table.schema "CDC" then throw (capabilityFailure "CDC is reserved")
  let name := (table.schema, table.table)
  match content name with
  | none => throw .database
  | some target =>
    if !target.rows.isEmpty then
      throw (.message ("全量同步要求目的表为空：" ++ qualifiedTable table.schema table.table ++
        "；未删除任何已有数据"))
    if server.engine name ≠ some "InnoDB" then
      throw (capabilityFailure "snapshot targets require InnoDB")
    if server.triggers name ≠ 0 ∨ foreignKeys name ≠ 0 then
      throw (capabilityFailure (qualifiedTable table.schema table.table ++
        ": 第一版全量同步暂不支持目的端触发器或外键"))

def snapshotTargets (foreignKeys : String × String → ℕ) (content : Content ν)
    (tables : List SnapshotTable) : Except SinkError Unit := do
  if tables.isEmpty then throw (capabilityFailure "snapshot scope is empty")
  tables.forM (snapshotTarget server foreignKeys content)

end Executing

/-! ## The copy -/

/-- The error as the checkpoint writer passes it on. -/
def SinkError.toIo : SinkError → IoError
  | .targetCapability failure => ⟨.other, .targetCapabilityFailure failure.cause⟩
  | .validation message | .message message => .other message
  | .database => .driver .other

section Copy

variable {ν : Type} [BEq ν] (library : ValueLibrary) (targetVersion : String) (server : Server ν)
  (foreignKeys : String × String → ℕ) (progress : SnapshotBatch → ℕ → Except IoError Unit)

/-- The loop over the batches, with the target, the index of the table and the number of rows
so far. -/
def copyBatches (sourceUuid : String) (tables : List SnapshotTable) :
    Content ν → ℕ → ℕ → List (Except IoError SnapshotBatch) → Except IoError (Content ν × ℕ × ℕ)
  | content, tableIndex, rowCount, [] => .ok (content, tableIndex, rowCount)
  | content, tableIndex, rowCount, batch :: batches => do
    let batch ← batch
    match tables[tableIndex]? with
    | none => throw (.other "unexpected extra snapshot table")
    | some scope =>
      if batch.source.id ≠ sourceUuid ∨ batch.schema ≠ scope.schema ∨ batch.table ≠ scope.table then
        throw (.other "snapshot batch identity/order mismatch")
      (validateSnapshot library.toValidationLibrary batch).mapError .other
      let statements ← (snapshotSql library targetVersion batch).mapError SinkError.toIo
      let content ← (executeSnapshot server content statements).mapError SinkError.toIo
      if 2 ^ 64 ≤ rowCount + batch.rows.length then
        throw (.other "snapshot row count overflow")
      progress batch (rowCount + batch.rows.length)
      copyBatches sourceUuid tables content
        (if batch.lastInTable then tableIndex + 1 else tableIndex)
        (rowCount + batch.rows.length) batches

/-- The checkpoint and the target that `copy_snapshot` is about to commit. -/
def copySnapshot (db : SinkDb (Content ν)) (w : CheckpointWriter) (tables : List SnapshotTable)
    (batches : List (Except IoError SnapshotBatch)) :
    Except IoError (ReplicationCheckpoint × Content ν) := do
  match w.checkpoint with
  | none => throw (.other "snapshot was not prepared")
  | some expected =>
    if expected.phase ≠ "snapshot" then throw (.other "snapshot phase required")
    if (← load db w.taskId) ≠ some expected then throw (.other "snapshot checkpoint changed")
    if db.logInfo.map (·.engine) ≠ some "InnoDB" then
      throw (.other "CDC.log_info must use InnoDB")
    (snapshotTargets server foreignKeys db.business tables).mapError SinkError.toIo
    let (content, tableIndex, rowCount) ←
      copyBatches library targetVersion server progress w.sourceUuid tables db.business 0 0 batches
    if tableIndex ≠ tables.length then
      throw (.other "snapshot stream ended before all tables completed")
    if 2 ^ 64 ≤ expected.revision + 1 then throw (.driver (.server 1690))
    return ({ expected with
      phase := "incremental", snapshotRows := rowCount, revision := expected.revision + 1 },
        content)

/-- How the commit goes. -/
inductive Commit
  | acknowledged
  | lostApplied
  | lostNotApplied
deriving DecidableEq, Repr

/-- The result of `copy_snapshot` and the database afterwards. A failure drops the transaction. -/
def finishCopy (db : SinkDb (Content ν)) (taskId : String)
    (copied : Except IoError (ReplicationCheckpoint × Content ν)) (commit : Commit) :
    Except IoError ReplicationCheckpoint × SinkDb (Content ν) :=
  match copied, commit with
  | .error e, _ => (.error e, db)
  | .ok (cp, content), .acknowledged => (.ok cp, db.store taskId cp content)
  | .ok (cp, content), .lostApplied => (.error .unknownCommit, db.store taskId cp content)
  | .ok _, .lostNotApplied => (.error .unknownCommit, db)

end Copy

end DatabaseSync.MysqlSink
