import DatabaseSync.MysqlSink.Position

/-! # The checkpoint writer of the MySQL sink

Replication progress lives in one row of `CDC.log_info` per task and is committed in the
transaction that changes the business rows. The server's set arithmetic on GTIDs and the
execution of the planned statements are parameters; a transaction that fails before its
`COMMIT` leaves the database as it was, so only the outcome of its checks is computed here.
-/

namespace DatabaseSync.MysqlSink

open ChangeEvent Text

structure ReplicationCheckpoint where
  taskId : String
  sourceUuid : String
  sinkUuid : String
  binding : String
  mode : String
  file : String
  position : ℕ
  gtidSet : Option String
  lastTransactionId : Option String
  revision : ℕ
  appliedTransactions : ℕ
  appliedRows : ℕ
  phase : String
  snapshotRows : ℕ
  snapshotGtids : Option String
deriving DecidableEq, Repr

/-- `CDC.log_info`, with its rows by primary key. -/
structure LogInfo where
  engine : String
  primaryKey : List String
  rows : String → Option ReplicationCheckpoint

/-- The sink database: the control table, if it exists, and the business tables. -/
structure SinkDb (β : Type) where
  logInfo : Option LogInfo
  business : β

/-- What `GTID_SUBTRACT(_, '')` and `GTID_SUBSET` answer; `none` is SQL `NULL`. -/
structure GtidServer where
  subtractEmpty : String → Except DriverError (Option String)
  subset : String → String → Except DriverError (Option Bool)

/-- A planned transaction over statements of type `σ`. -/
structure SqlTransaction (σ : Type) where
  sourceTransactionId : String
  sourceUuid : String
  commitCursor : SourceCursor
  tables : List (String × String)
  statements : List σ

/-- The connection is not part of the value; it is the database passed to the methods. -/
structure CheckpointWriter where
  taskId : String
  sourceUuid : String
  sinkUuid : String
  binding : String
  checkpoint : Option ReplicationCheckpoint
  observedGtids : Option String
  observedPosition : Option (String × ℕ)
deriving DecidableEq, Repr

structure CheckpointApplyResult where
  checkpoint : ReplicationCheckpoint
  statementsExecuted : ℕ
  alreadyApplied : Bool
deriving DecidableEq, Repr

variable {β σ : Type}

/-- `SELECT … FROM CDC.log_info WHERE task_id=?`. -/
def load (db : SinkDb β) (taskId : String) : Except IoError (Option ReplicationCheckpoint) :=
  match db.logInfo with
  | none => throw (.driver (.server 1146))
  | some table => return table.rows taskId

/-- The database after a committed transaction that wrote the row of a task. -/
def SinkDb.store (db : SinkDb β) (taskId : String) (cp : ReplicationCheckpoint) (business : β) :
    SinkDb β where
  logInfo := db.logInfo.map fun table =>
    { table with rows := fun id => if id = taskId then some cp else table.rows id }
  business := business

def canonicalGtids (gs : GtidServer) (value : String) : Except IoError String :=
  match gs.subtractEmpty value with
  | .error e => throw (.driver e)
  | .ok none => throw (.other "invalid GTID set")
  | .ok (some set) => return set

def gtidSubset (gs : GtidServer) (gtid set : String) : Except IoError Bool :=
  match gs.subset gtid set with
  | .error e => throw (.driver e)
  | .ok none => throw (.other "GTID check returned no value")
  | .ok (some included) => return included

def checkBinding (cp : ReplicationCheckpoint) (source sink binding : String) :
    Except IoError Unit := do
  if cp.sourceUuid ≠ source ∨ cp.sinkUuid ≠ sink ∨ cp.binding ≠ binding then
    throw (.other "saved checkpoint belongs to a different source, sink or task configuration")
  if cp.phase ∉ ["snapshot", "incremental"] then throw (.other "invalid checkpoint phase")
  validateCheckpointPosition cp.mode cp.file cp.position
  if cp.mode ∉ ["gtid", "binlog", "postgresql_lsn"] ∨
      (cp.mode == "gtid") ≠ cp.gtidSet.isSome ∨
      (cp.mode = "postgresql_lsn" ∧ cp.gtidSet.isSome) then
    throw (.other "invalid saved checkpoint mode")

/-- What the server says when the writer connects. -/
structure SinkServer where
  serverUuid : Option String
  taskLock : Option ℕ
  migrationLock : Option ℕ
deriving DecidableEq, Repr

/-- `CheckpointWriter::open`. The control table is created when it is missing. -/
def openWriter (server : SinkServer) (db : SinkDb β) (taskId sourceUuid binding : String) :
    Except IoError (CheckpointWriter × SinkDb β) := do
  if taskId.isEmpty ∨ 128 < taskId.utf8ByteSize ∨
      ¬ taskId.toList.all (fun c => c.isAlphanum || c == '_' || c == '-') ∨
      sourceUuid.isEmpty ∨ 255 < sourceUuid.utf8ByteSize ∨ ¬ isAscii sourceUuid ∨
      binding.utf8ByteSize ≠ 64 ∨ ¬ binding.toList.all (fun c => (toDigit 16 c).isSome) then
    throw (.other "invalid task identity or configuration binding")
  let some sinkUuid := server.serverUuid | throw (.other "missing sink UUID")
  if sinkUuid = sourceUuid then
    throw (.other "source and sink must be different MySQL instances")
  if server.taskLock ≠ some 1 then throw (.other "task is already owned by another writer")
  if server.migrationLock ≠ some 1 then throw (.other "CDC schema migration is busy")
  let table := db.logInfo.getD ⟨"InnoDB", ["task_id"], fun _ => none⟩
  let db : SinkDb β := { db with logInfo := some table }
  if table.engine ≠ "InnoDB" then throw (.other "CDC.log_info must use InnoDB")
  if table.primaryKey ≠ ["task_id"] then
    throw (.other "CDC.log_info requires PRIMARY KEY(task_id)")
  let checkpoint ← load db taskId
  if let some cp := checkpoint then checkBinding cp sourceUuid sinkUuid binding
  return (⟨taskId, sourceUuid, sinkUuid, binding, checkpoint, none, none⟩, db)

/-- Whether the stored set contains the transaction. -/
def gtidIncluded (gs : GtidServer) (cp : ReplicationCheckpoint) (id : String) :
    Except IoError Bool := do
  let gtid ← canonicalGtids gs id
  gtidSubset gs gtid (cp.gtidSet.getD "")

/-- Decides a lost acknowledgement from the stored row alone. -/
def resolveCommitUnknown (gs : GtidServer) (db : SinkDb β) (w : CheckpointWriter)
    (transaction : ChangeTransaction) : Except IoError CommitResolution := do
  if transaction.source.id ≠ w.sourceUuid ∨ transaction.id.isEmpty then
    throw (.other "commit resolution source identity mismatch")
  let (file, position) ← filePosition transaction.commitCursor
  let some cp ← load db w.taskId | throw (.other "CDC.log_info checkpoint is missing")
  checkBinding cp w.sourceUuid w.sinkUuid w.binding
  if cp.lastTransactionId = some transaction.id then return .applied
  let order ← compareCheckpointPosition (some cp.mode) file position cp.file cp.position
  let appliedByGtid ← if cp.mode = "gtid" then gtidIncluded gs cp transaction.id else pure false
  if appliedByGtid ∨ order = .lt then return .applied
  else if order = .gt then return .notApplied
  else return .unprovable

/-- The observed set with one more transaction. Only GTID mode keeps one. -/
def observedGtidsWith (gs : GtidServer) (w : CheckpointWriter) (transactionId : String) :
    Except IoError (Option String) :=
  if w.checkpoint.any (·.mode = "gtid") then do
    let combined := w.observedGtids.getD "" ++ "," ++ transactionId
    return some (← canonicalGtids gs (trimMatches combined ','))
  else return w.observedGtids

/-- Remember a transaction none of whose rows are selected. -/
def observe (gs : GtidServer) (w : CheckpointWriter) (transaction : ChangeTransaction) :
    Except IoError CheckpointWriter := do
  if ¬ transaction.changes.isEmpty ∨ transaction.source.id ≠ w.sourceUuid then
    throw (.other "observe requires an empty projection from this source")
  let (file, position) ← filePosition transaction.commitCursor
  if let some (oldFile, oldPosition) := w.observedPosition then
    if (← compareCheckpointPosition (w.checkpoint.map (·.mode)) file position oldFile
        oldPosition) ≠ .gt then
      throw (.other "filtered transactions must be observed in source order")
  let observedGtids ← observedGtidsWith gs w transaction.id
  return { w with observedGtids, observedPosition := some (file, position) }

/-- How a transaction of `apply_inner` ends when no call to the database fails: it is rolled
back because the source transaction is covered, or it is ready to commit. -/
inductive ApplyOutcome (β : Type)
  | covered (result : CheckpointApplyResult)
  | ready (result : CheckpointApplyResult) (business : β)
deriving DecidableEq

/-- Whether the row `cp` covers a transaction at `order` from the stored position. -/
def alreadyApplied (gs : GtidServer) (cp : ReplicationCheckpoint) (transactionId : String)
    (order : Ordering) : Except IoError Bool := do
  if cp.mode = "gtid" then
    let gtid ← canonicalGtids gs transactionId
    let some (_, sequence) := rsplitOnce transactionId ':' |
      throw (.other "missing transaction GTID")
    if containsChar transactionId ',' ∨ ((parseU64 sequence).filter (0 < ·)).isNone then
      throw (.other "invalid single transaction GTID")
    let included ← gtidSubset gs gtid (cp.gtidSet.getD "")
    if ¬ included ∧ order ≠ .gt then throw (.other "GTID and binlog history disagree")
    return included
  else return decide (order ≠ .gt)

/-- The stored set joined with the observed one and the transaction itself. -/
def combinedGtids (cp : ReplicationCheckpoint) (observed : Option String)
    (transactionId : String) : String :=
  ",".intercalate
    ([cp.gtidSet.getD "", observed.getD "", transactionId].filter fun s => ¬ s.isEmpty)

/-- The first half of `apply_inner`: the checks, and whether the stored row covers the
transaction. -/
def classifyTransaction (gs : GtidServer) (db : SinkDb β) (w : CheckpointWriter)
    (sourceUuid transactionId : String) (cursor : SourceCursor) :
    Except IoError (ReplicationCheckpoint × String × ℕ × Bool) := do
  if sourceUuid ≠ w.sourceUuid ∨ 512 < transactionId.utf8ByteSize ∨ transactionId.isEmpty ∨
      ¬ isAscii transactionId then
    throw (.other "transaction source identity mismatch")
  if w.checkpoint.any (·.phase ≠ "incremental") then
    throw (.other "snapshot is not committed yet")
  let (file, position) ← filePosition cursor
  let some expected := w.checkpoint | throw (.other "initialize checkpoint before apply")
  let some cp ← load db w.taskId |
    throw (.other "CDC.log_info checkpoint is missing; refusing a new baseline")
  if db.logInfo.map (·.engine) ≠ some "InnoDB" then
    throw (.other "CDC.log_info is no longer InnoDB")
  checkBinding cp w.sourceUuid w.sinkUuid w.binding
  if cp ≠ expected then throw (.other "checkpoint changed outside this writer")
  let order ← compareCheckpointPosition (some cp.mode) file position cp.file cp.position
  return (cp, file, position, ← alreadyApplied gs cp transactionId order)

/-- The checkpoint row that `apply_inner` writes with the business rows. -/
def advanceCheckpoint (gs : GtidServer) (cp : ReplicationCheckpoint) (observed : Option String)
    (transactionId file : String) (position rows : ℕ) : Except IoError ReplicationCheckpoint := do
  let gtidSet ←
    if cp.mode = "gtid" then do
      let combined := combinedGtids cp observed transactionId
      pure (some (← canonicalGtids gs (trimMatches combined ',')))
    else pure cp.gtidSet
  if 2 ^ 64 ≤ cp.revision + 1 then throw (.other "checkpoint revision overflow")
  return { cp with
    gtidSet, file, position
    lastTransactionId := some transactionId
    revision := cp.revision + 1
    appliedTransactions := (cp.appliedTransactions + if 0 < rows then 1 else 0) % 2 ^ 64
    appliedRows := (cp.appliedRows + rows) % 2 ^ 64 }

/-- The business tables after the plan, and the number of its statements. -/
def executePlan (execute : SqlTransaction σ → β → Except IoError β)
    (plan : Option (SqlTransaction σ)) (business : β) : Except IoError (β × ℕ) :=
  match plan with
  | some plan => do return (← execute plan business, plan.statements.length)
  | none => return (business, 0)

/-- The second half of `apply_inner`, for a transaction the stored row does not cover. -/
def applyFresh (gs : GtidServer) (execute : SqlTransaction σ → β → Except IoError β)
    (db : SinkDb β) (w : CheckpointWriter) (cp : ReplicationCheckpoint)
    (transactionId file : String)
    (position : ℕ) (plan : Option (SqlTransaction σ)) : Except IoError (ApplyOutcome β) := do
  if let some (observedFile, observedPosition) := w.observedPosition then
    if (← compareCheckpointPosition (some cp.mode) file position observedFile
        observedPosition) = .lt then
      throw (.other "cannot commit ahead-of-cursor GTID observations")
  let (business, rows) ← executePlan execute plan db.business
  let cp ← advanceCheckpoint gs cp w.observedGtids transactionId file position rows
  return .ready ⟨cp, rows, false⟩ business

def applyInner (gs : GtidServer) (execute : SqlTransaction σ → β → Except IoError β)
    (db : SinkDb β) (w : CheckpointWriter) (sourceUuid transactionId : String)
    (cursor : SourceCursor) (plan : Option (SqlTransaction σ)) :
    Except IoError (ApplyOutcome β) := do
  let (cp, file, position, already) ← classifyTransaction gs db w sourceUuid transactionId cursor
  if already then return .covered ⟨cp, 0, true⟩
  applyFresh gs execute db w cp transactionId file position plan

/-- The writer after its transaction was acknowledged. -/
def CheckpointWriter.committed (w : CheckpointWriter) (cp : ReplicationCheckpoint) :
    CheckpointWriter :=
  { w with checkpoint := some cp, observedGtids := none, observedPosition := none }

def apply (gs : GtidServer) (execute : SqlTransaction σ → β → Except IoError β)
    (db : SinkDb β) (w : CheckpointWriter) (plan : SqlTransaction σ) :
    Except IoError (ApplyOutcome β) :=
  applyInner gs execute db w plan.sourceUuid plan.sourceTransactionId plan.commitCursor
    (some plan)

/-- Advance past a transaction with no rows in the route's scope. -/
def advance (gs : GtidServer) (execute : SqlTransaction σ → β → Except IoError β)
    (db : SinkDb β) (w : CheckpointWriter) (transaction : ChangeTransaction) :
    Except IoError (ApplyOutcome β) := do
  if ¬ transaction.changes.isEmpty then
    throw (.other "advance requires an empty route projection")
  applyInner gs execute db w transaction.source.id transaction.id transaction.commitCursor none

def commitOutcomeUnknown (error : IoError) : Bool := error.cause == .commitUnknown

def classifyApplyError (error : IoError) : TargetApplyErrorKind :=
  if commitOutcomeUnknown error then .commitUnknown
  else
    match error.cause with
    | .targetCapabilityFailure _ => .capability
    | .driver .connectivity => .connection
    | .driver (.server code) =>
      if code ∈ [1205, 1213] then .lockTimeout
      else if code ∈ [1022, 1062, 1216, 1217, 1451, 1452, 1048] then .constraint
      else .sql
    | .driver .other => .sql
    | _ =>
      match error.kind with
      | .timedOut | .connectionReset | .connectionAborted | .brokenPipe | .unexpectedEof =>
        .connection
      | _ => .sql

end DatabaseSync.MysqlSink
