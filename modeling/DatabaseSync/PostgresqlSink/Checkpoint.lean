import DatabaseSync.MysqlSink.Checkpoint
import DatabaseSync.PostgresqlSink.GtidAlgebra

/-! # The checkpoint writer of the PostgreSQL sink

Progress lives in one row of `cdc.log_info` per task, whose numbers are columns of type
`bigint`, and is committed in the transaction that changes the business rows. The writer
computes with GTID sets itself. A transaction that fails before its `COMMIT` leaves the
database as it was, so only the outcome of its checks is computed here.
-/

namespace DatabaseSync.PostgresqlSink

open ChangeEvent Text
open MysqlSink (CheckpointApplyResult CheckpointWriter ReplicationCheckpoint SqlTransaction
  executePlan)

/-- `sqlx::Error`; an error of the server has its SQLSTATE. -/
inductive SqlxError
  | database (code : Option String)
  | other
deriving DecidableEq, Repr

inductive WriterError
  | io (error : IoError)
  | gtid (failure : GtidFailure)
  | sqlx (error : SqlxError)
deriving DecidableEq, Repr

/-- `io::Error::other` on a text. -/
def WriterError.other (text : String) : WriterError := .io (.other text)

/-- PostgreSQL `bigint`. -/
abbrev Bigint := {n : ℤ // -2 ^ 63 ≤ n ∧ n < 2 ^ 63}

def Bigint.zero : Bigint := ⟨0, by decide⟩

def toI64 (value : ℕ) : Except WriterError Bigint :=
  if h : value < 2 ^ 63 then .ok ⟨value, by omega⟩
  else throw (.other "checkpoint exceeds PostgreSQL bigint")

def toU64 (value : Bigint) : Except WriterError ℕ :=
  if value.1 < 0 then throw (.other "negative checkpoint number") else pure value.1.toNat

/-- A row of `cdc.log_info`. -/
structure LogInfoRow where
  taskId : String
  sourceUuid : String
  sinkUuid : String
  binding : String
  mode : String
  binlogFile : String
  binlogPosition : Bigint
  gtidSet : Option String
  lastTransactionId : Option String
  revision : Bigint
  appliedTransactions : Bigint
  appliedRows : Bigint
  phase : String
  snapshotRows : Bigint
  snapshotGtids : Option String
deriving DecidableEq

/-- The sink database: the tables of the schema `cdc`, if they exist, and the business
tables. -/
structure SinkDb (β : Type) where
  logInfo : Option (String → Option LogInfoRow)
  sinkIdentity : Option String
  business : β

variable {β σ : Type}

def checkpointFromRow (row : LogInfoRow) : Except WriterError ReplicationCheckpoint := do
  return {
    taskId := row.taskId
    sourceUuid := row.sourceUuid
    sinkUuid := row.sinkUuid
    binding := row.binding
    mode := row.mode
    file := row.binlogFile
    position := ← toU64 row.binlogPosition
    gtidSet := row.gtidSet
    lastTransactionId := row.lastTransactionId
    revision := ← toU64 row.revision
    appliedTransactions := ← toU64 row.appliedTransactions
    appliedRows := ← toU64 row.appliedRows
    phase := row.phase
    snapshotRows := ← toU64 row.snapshotRows
    snapshotGtids := row.snapshotGtids }

/-- `SELECT … FROM cdc.log_info WHERE task_id=$1`, with the row as it is stored. -/
def selectRow (db : SinkDb β) (taskId : String) : Except WriterError (Option LogInfoRow) :=
  match db.logInfo with
  | none => throw (.sqlx (.database (some "42P01")))
  | some rows => return rows taskId

def load (db : SinkDb β) (taskId : String) :
    Except WriterError (Option ReplicationCheckpoint) := do
  (← selectRow db taskId).mapM checkpointFromRow

/-- The database after a committed transaction that wrote the row of a task. -/
def SinkDb.store (db : SinkDb β) (taskId : String) (row : LogInfoRow) (business : β) :
    SinkDb β where
  logInfo := db.logInfo.map fun rows id => if id = taskId then some row else rows id
  sinkIdentity := db.sinkIdentity
  business := business

/-! ## Positions and identities -/

def parsePostgresqlLsn (value : String) : Except WriterError ℕ :=
  (MysqlSink.parsePostgresqlLsn value).mapError .io

def validatePosition (file : String) (position : ℕ) : Except WriterError Unit :=
  (MysqlSink.validatePosition file position).mapError .io

def validateCheckpointPosition (mode file : String) (position : ℕ) : Except WriterError Unit :=
  (MysqlSink.validateCheckpointPosition mode file position).mapError .io

def compareCheckpointPosition (mode : Option String) (a : String) (ap : ℕ) (b : String)
    (bp : ℕ) : Except WriterError Ordering :=
  (MysqlSink.compareCheckpointPosition mode a ap b bp).mapError .io

/-- An LSN is read by the parser of the stored rows, with both halves bounded. -/
def filePosition (cursor : SourceCursor) : Except WriterError (String × ℕ) :=
  if cursor.format = "postgresql.lsn.v1" then do
    let position ← parsePostgresqlLsn cursor.value
    return (cursor.value, position)
  else (MysqlSink.filePosition cursor).mapError .io

def checkBinding (cp : ReplicationCheckpoint) (source sink binding : String) :
    Except WriterError Unit :=
  (MysqlSink.checkBinding cp source sink binding).mapError .io

def validateIdentity (task source binding : String) : Except WriterError Unit :=
  if task.isEmpty ∨ 128 < task.utf8ByteSize ∨
      ¬ task.toList.all (fun c => c.isAlphanum || c == '_' || c == '-') ∨
      source.isEmpty ∨ 255 < source.utf8ByteSize ∨ ¬ isAscii source ∨
      binding.utf8ByteSize ≠ 64 ∨ ¬ binding.toList.all (fun c => (toDigit 16 c).isSome) then
    throw (.other "invalid task identity or configuration binding")
  else pure ()

/-! ## The writer -/

/-- The transaction that creates what is missing of the schema `cdc`, with the identity that a
new sink draws. -/
def ensureSchema (fresh : String) (db : SinkDb β) : SinkDb β × String :=
  let sinkUuid := db.sinkIdentity.getD fresh
  (⟨some (db.logInfo.getD fun _ => none), some sinkUuid, db.business⟩, sinkUuid)

/-- The second half of `CheckpointWriter::open_for_version`, once the schema is committed; `owned`
is the answer of `pg_try_advisory_lock`. -/
def attachWriter (owned : Bool) (sinkUuid : String) (db : SinkDb β)
    (taskId sourceUuid binding : String) : Except WriterError CheckpointWriter := do
  if !owned then throw (.other "task is already owned by another writer")
  let checkpoint ← load db taskId
  if sinkUuid = sourceUuid then throw (.other "source and sink identities must differ")
  if let some cp := checkpoint then checkBinding cp sourceUuid sinkUuid binding
  return ⟨taskId, sourceUuid, sinkUuid, binding, checkpoint, none, none⟩

/-- The schema stays when the writer does not open. -/
def openWriter (fresh : String) (owned : Bool) (db : SinkDb β)
    (taskId sourceUuid binding : String) : Except WriterError CheckpointWriter × SinkDb β :=
  match validateIdentity taskId sourceUuid binding with
  | .error error => (.error error, db)
  | .ok () =>
    let (db, sinkUuid) := ensureSchema fresh db
    (attachWriter owned sinkUuid db taskId sourceUuid binding, db)

/-- Whether the stored set contains the transaction. -/
def gtidIncluded (cp : ReplicationCheckpoint) (id : String) : Except WriterError Bool := do
  let one ← (canonicalSingleGtid id).mapError .gtid
  (gtidContains (cp.gtidSet.getD "") one).mapError .gtid

def merge (left : Option String) (right : String) : Except WriterError String :=
  (mergeGtids left right).mapError fun error => .gtid (.parse error)

/-- Decides a lost acknowledgement from the stored row alone. -/
def resolveCommitUnknown (db : SinkDb β) (w : CheckpointWriter)
    (transaction : ChangeTransaction) : Except WriterError CommitResolution := do
  if transaction.source.id ≠ w.sourceUuid ∨ transaction.id.isEmpty then
    throw (.other "commit resolution source identity mismatch")
  let (file, position) ← filePosition transaction.commitCursor
  let some cp ← load db w.taskId | throw (.other "cdc.log_info checkpoint is missing")
  checkBinding cp w.sourceUuid w.sinkUuid w.binding
  if cp.lastTransactionId = some transaction.id then return .applied
  let order ← compareCheckpointPosition (some cp.mode) file position cp.file cp.position
  let appliedByGtid ← if cp.mode = "gtid" then gtidIncluded cp transaction.id else pure false
  if appliedByGtid ∨ order = .lt then return .applied
  else if order = .gt then return .notApplied
  else return .unprovable

/-- The observed set with one more transaction. Only GTID mode keeps one. -/
def observedGtidsWith (w : CheckpointWriter) (transactionId : String) :
    Except WriterError (Option String) :=
  if w.checkpoint.any (·.mode = "gtid") then do return some (← merge w.observedGtids transactionId)
  else return w.observedGtids

/-- Remember a transaction none of whose rows are selected. -/
def observe (w : CheckpointWriter) (transaction : ChangeTransaction) :
    Except WriterError CheckpointWriter := do
  if ¬ transaction.changes.isEmpty ∨ transaction.source.id ≠ w.sourceUuid then
    throw (.other "observe requires an empty projection from this source")
  let (file, position) ← filePosition transaction.commitCursor
  if let some (oldFile, oldPosition) := w.observedPosition then
    if (← compareCheckpointPosition (w.checkpoint.map (·.mode)) file position oldFile
        oldPosition) ≠ .gt then
      throw (.other "filtered transactions must be observed in source order")
  let observedGtids ← observedGtidsWith w transaction.id
  return { w with observedGtids, observedPosition := some (file, position) }

/-- How a transaction of `apply_inner` ends when no call to the database fails: it is rolled
back because the source transaction is covered, or its row is ready to commit. -/
inductive ApplyOutcome (β : Type)
  | covered (result : CheckpointApplyResult)
  | ready (result : CheckpointApplyResult) (row : LogInfoRow) (business : β)
deriving DecidableEq

/-- Whether the row `cp` covers a transaction at `order` from the stored position. -/
def alreadyApplied (cp : ReplicationCheckpoint) (transactionId : String) (order : Ordering) :
    Except WriterError Bool := do
  if cp.mode = "gtid" then
    let included ← gtidIncluded cp transactionId
    if ¬ included ∧ order ≠ .gt then throw (.other "GTID and binlog history disagree")
    return included
  else return decide (order ≠ .gt)

/-- The first half of `apply_inner`: the checks, and whether the stored row covers the
transaction. -/
def classifyTransaction (db : SinkDb β) (w : CheckpointWriter)
    (sourceUuid transactionId : String) (cursor : SourceCursor) :
    Except WriterError (LogInfoRow × ReplicationCheckpoint × String × ℕ × Bool) := do
  if sourceUuid ≠ w.sourceUuid ∨ transactionId.isEmpty ∨ 512 < transactionId.utf8ByteSize ∨
      ¬ isAscii transactionId then
    throw (.other "transaction source identity mismatch")
  if w.checkpoint.any (·.phase ≠ "incremental") then
    throw (.other "snapshot is not committed yet")
  let (file, position) ← filePosition cursor
  let some expected := w.checkpoint | throw (.other "initialize checkpoint before apply")
  let some row ← selectRow db w.taskId | throw (.other "cdc.log_info checkpoint is missing")
  let cp ← checkpointFromRow row
  checkBinding cp w.sourceUuid w.sinkUuid w.binding
  if cp ≠ expected then throw (.other "checkpoint changed outside this writer")
  let order ← compareCheckpointPosition (some cp.mode) file position cp.file cp.position
  return (row, cp, file, position, ← alreadyApplied cp transactionId order)

/-- The checkpoint that `apply_inner` writes with the business rows. The counters are added
without a check. -/
def advanceCheckpoint (cp : ReplicationCheckpoint) (observed : Option String)
    (transactionId file : String) (position rows : ℕ) :
    Except WriterError ReplicationCheckpoint := do
  let gtidSet ←
    if cp.mode = "gtid" then do
      let merged ← merge cp.gtidSet (observed.getD "")
      pure (some (← merge (some merged) transactionId))
    else pure cp.gtidSet
  if 2 ^ 64 ≤ cp.revision + 1 then throw (.other "checkpoint revision overflow")
  return { cp with
    gtidSet, file, position
    lastTransactionId := some transactionId
    revision := cp.revision + 1
    appliedTransactions := (cp.appliedTransactions + if 0 < rows then 1 else 0) % 2 ^ 64
    appliedRows := (cp.appliedRows + rows) % 2 ^ 64 }

/-- `UPDATE cdc.log_info SET … WHERE task_id=$8`. -/
def updateRow (row : LogInfoRow) (cp : ReplicationCheckpoint) : Except WriterError LogInfoRow := do
  return { row with
    binlogFile := cp.file
    binlogPosition := ← toI64 cp.position
    gtidSet := cp.gtidSet
    lastTransactionId := cp.lastTransactionId
    revision := ← toI64 cp.revision
    appliedTransactions := ← toI64 cp.appliedTransactions
    appliedRows := ← toI64 cp.appliedRows }

/-- The second half of `apply_inner`, for a transaction the stored row does not cover. -/
def applyFresh (execute : SqlTransaction σ → β → Except IoError β) (db : SinkDb β)
    (w : CheckpointWriter) (row : LogInfoRow) (cp : ReplicationCheckpoint)
    (transactionId file : String) (position : ℕ) (plan : Option (SqlTransaction σ)) :
    Except WriterError (ApplyOutcome β) := do
  if let some (observedFile, observedPosition) := w.observedPosition then
    if (← compareCheckpointPosition (some cp.mode) file position observedFile
        observedPosition) = .lt then
      throw (.other "cannot commit ahead-of-cursor GTID observations")
  let (business, rows) ← (executePlan execute plan db.business).mapError .io
  let cp ← advanceCheckpoint cp w.observedGtids transactionId file position rows
  return .ready ⟨cp, rows, false⟩ (← updateRow row cp) business

def applyInner (execute : SqlTransaction σ → β → Except IoError β) (db : SinkDb β)
    (w : CheckpointWriter) (sourceUuid transactionId : String) (cursor : SourceCursor)
    (plan : Option (SqlTransaction σ)) : Except WriterError (ApplyOutcome β) := do
  let (row, cp, file, position, already) ←
    classifyTransaction db w sourceUuid transactionId cursor
  if already then return .covered ⟨cp, 0, true⟩
  applyFresh execute db w row cp transactionId file position plan

def apply (execute : SqlTransaction σ → β → Except IoError β) (db : SinkDb β)
    (w : CheckpointWriter) (plan : SqlTransaction σ) : Except WriterError (ApplyOutcome β) :=
  applyInner execute db w plan.sourceUuid plan.sourceTransactionId plan.commitCursor (some plan)

/-- Advance past a transaction with no rows in the route's scope. -/
def advance (execute : SqlTransaction σ → β → Except IoError β) (db : SinkDb β)
    (w : CheckpointWriter) (transaction : ChangeTransaction) :
    Except WriterError (ApplyOutcome β) := do
  if ¬ transaction.changes.isEmpty then
    throw (.other "advance requires an empty route projection")
  applyInner execute db w transaction.source.id transaction.id transaction.commitCursor none

/-! ## Failures -/

def commitOutcomeUnknown (error : WriterError) : Bool :=
  match error with
  | .io error => error.cause == .commitUnknown
  | _ => false

def classifyApplyError (error : WriterError) : TargetApplyErrorKind :=
  if commitOutcomeUnknown error then .commitUnknown
  else
    match error with
    | .sqlx (.database code) =>
      if code.any (· ∈ ["40001", "40P01", "55P03"]) then .lockTimeout
      else if code.any (·.startsWith "23") then .constraint
      else .sql
    | .sqlx .other => .connection
    | .gtid _ => .sql
    | .io error =>
      match error.cause with
      | .targetCapabilityFailure _ => .capability
      | _ =>
        match error.kind with
        | .timedOut | .connectionReset | .connectionAborted | .brokenPipe | .unexpectedEof =>
          .connection
        | _ => .sql

end DatabaseSync.PostgresqlSink
