import DatabaseSync.ChangeEvent.Plan
import DatabaseSync.Library.Checked
import Mathlib.Data.Int.Notation
import Mathlib.Data.List.DropRight
import Mathlib.Logic.Function.Basic

/-! # The task store

The tables of the control plane's database that activation and requalification read and write.
Every function here is one statement or one transaction of the store.
-/

namespace DatabaseSync.Control

open ChangeEvent

inductive ControlError
  | forbidden
  | notFound
  | invalid (message : String)
  | conflict (message : String)
  | blocked (message : String)
  | internal
deriving DecidableEq, Repr

structure TableMapping where
  sourceSchema : String
  sourceTable : String
  sinkSchema : String
  sinkTable : String
  columns : List String
  conversionOptions : List (String × List (String × String))
deriving DecidableEq, Repr

/-- The columns that `replication_tasks` and `task_configuration_revisions` share. -/
structure Configuration where
  name : String
  sourceId : String
  sinkId : String
  sourceDatabase : String
  sinkDatabase : String
  sourceRevision : ℤ
  sinkRevision : ℤ
  startMode : String
  mappings : List TableMapping
  planVersion : Option String
  planStatus : String
  planInvalidReason : Option String
  sourceMetadataFingerprint : Option String
  sinkMetadataFingerprint : Option String
  connectorSummaryJson : String
  capabilitySummaryJson : String
  capabilityManifestDigest : Option String
  ruleSummaryDigest : Option String
  planSetDigest : Option String
  plans : List ColumnConversionPlan
  riskConfirmations : List RiskConfirmation
deriving DecidableEq, Repr

/-- A row of `replication_tasks`. -/
structure TaskRow where
  configuration : Configuration
  configurationRevision : ℤ
  desiredConfigurationRevision : ℤ
  effectiveConfigurationRevision : Option ℤ
deriving DecidableEq, Repr

inductive TaskState
  | starting
  | running
  | stopping
  | stopped
  | failed
  | blocked
deriving DecidableEq, Repr

/-- The mirror of the sink's checkpoint. -/
structure Checkpoint where
  sourceUuid : String
  sinkUuid : String
  mode : String
  file : String
  position : ℕ
  gtidSet : Option String
  appliedTransactions : ℕ
  appliedRows : ℕ
  phase : String
  snapshotRows : ℕ
deriving DecidableEq, Repr

/-- A row of `task_runtime`. -/
structure TaskRuntime where
  state : TaskState
  checkpoint : Option Checkpoint
  lastError : Option String
deriving DecidableEq, Repr

def TaskState.isActive : TaskState → Bool
  | .starting | .running | .stopping => true
  | .stopped | .failed | .blocked => false

structure Store where
  taskIds : List String
  admins : List ℤ
  instances : String → Option ℤ
  tasks : String → Option TaskRow
  revisions : String → ℤ → Option Configuration
  conversionPlans : String → List ColumnConversionPlan
  runtime : String → Option TaskRuntime

/-- A task as the program sees it: its row, whether its instances have changed since, and its
runtime. A valid plan of a changed task is read as stale. -/
structure ReplicationTask where
  id : String
  row : TaskRow
  configurationChanged : Bool
  runtime : Option TaskRuntime
deriving DecidableEq, Repr

structure TaskInput where
  name : String
  sourceId : String
  sinkId : String
  sourceDatabase : String
  sinkDatabase : String
  sourceRevision : ℤ
  sinkRevision : ℤ
  startMode : String
  mappings : List TableMapping
  confirmations : List RiskConfirmation
deriving DecidableEq, Repr

structure TaskPlanSnapshot where
  planVersion : String
  configurationRevision : ℤ
  sourceMetadataFingerprint : String
  sinkMetadataFingerprint : String
  connectorSummaryJson : String
  capabilitySummaryJson : String
  capabilityManifestDigest : String
  ruleSummaryDigest : String
  planSetDigest : String
  plans : List ColumnConversionPlan
  confirmations : List RiskConfirmation
deriving DecidableEq, Repr

def taskPlanVersion : String := "cdc.column-conversion-plan.v1"

def ReplicationTask.configuration (task : ReplicationTask) : Configuration :=
  let c := task.row.configuration
  if task.configurationChanged ∧ c.planStatus = "valid" then
    { c with
      planStatus := "stale"
      planInvalidReason := c.planInvalidReason.or (some "关联实例配置已变化，请重新预检") }
  else c

def inputFromTask (task : ReplicationTask) : TaskInput :=
  let c := task.row.configuration
  ⟨c.name, c.sourceId, c.sinkId, c.sourceDatabase, c.sinkDatabase, c.sourceRevision,
    c.sinkRevision, c.startMode, c.mappings, c.riskConfirmations⟩

def overlaps (a b : List TableMapping) : Bool :=
  a.any fun x => b.any fun y => x.sinkSchema == y.sinkSchema && x.sinkTable == y.sinkTable

namespace Store

variable (s : Store) (id : String)

def requireAdmin (actor : ℤ) : Except ControlError Unit :=
  if actor ∈ s.admins then return () else throw .forbidden

def task : Except ControlError ReplicationTask := do
  let some row := s.tasks id | throw .notFound
  let some sourceRevision := s.instances row.configuration.sourceId | throw .notFound
  let some sinkRevision := s.instances row.configuration.sinkId | throw .notFound
  return ⟨id, row, row.configuration.sourceRevision ≠ sourceRevision ∨
    row.configuration.sinkRevision ≠ sinkRevision, s.runtime id⟩

/-- Whether the task is starting, running or stopping. -/
def active : Bool := (s.runtime id).any (·.state.isActive)

def setTask (row : TaskRow) : Store :=
  { s with tasks := Function.update s.tasks id (some row) }

def setRuntime (runtime : TaskRuntime) : Store :=
  { s with runtime := Function.update s.runtime id (some runtime) }

def markPlanStale (reason : String) : Store :=
  match s.tasks id with
  | none => s
  | some row =>
    if row.configuration.planStatus = "legacy" then s
    else s.setTask id { row with
      configuration := { row.configuration with
        planStatus := "stale"
        planInvalidReason := some (String.ofList (reason.toList.take 512)) } }

/-- The `UPDATE` of `persist_plan_snapshot`, on the row it finds. -/
def persistPlanSnapshot (row : TaskRow) (snapshot : TaskPlanSnapshot) : TaskRow :=
  { row with
    configuration := { row.configuration with
      planVersion := some snapshot.planVersion
      planStatus := "valid"
      planInvalidReason := none
      sourceMetadataFingerprint := some snapshot.sourceMetadataFingerprint
      sinkMetadataFingerprint := some snapshot.sinkMetadataFingerprint
      connectorSummaryJson := snapshot.connectorSummaryJson
      capabilitySummaryJson := snapshot.capabilitySummaryJson
      capabilityManifestDigest := some snapshot.capabilityManifestDigest
      ruleSummaryDigest := some snapshot.ruleSummaryDigest
      planSetDigest := some snapshot.planSetDigest
      plans := snapshot.plans
      riskConfirmations := snapshot.confirmations }
    configurationRevision := snapshot.configurationRevision
    desiredConfigurationRevision := snapshot.configurationRevision }

/-- The `UPDATE` of `requalify_task`, on the row it finds. -/
def updateTask (row : TaskRow) (input : TaskInput) : TaskRow :=
  { row with configuration := { row.configuration with
      sourceRevision := input.sourceRevision
      sinkRevision := input.sinkRevision
      sourceDatabase := input.sourceDatabase
      sinkDatabase := input.sinkDatabase
      startMode := input.startMode
      mappings := input.mappings } }

/-- The row `persist_configuration_revision` inserts for a snapshot. -/
def configurationOf (input : TaskInput) (snapshot : TaskPlanSnapshot) : Configuration :=
  ⟨String.ofList ((input.name.toList.dropWhile Char.isWhitespace).rdropWhile Char.isWhitespace),
    input.sourceId, input.sinkId, input.sourceDatabase, input.sinkDatabase,
    input.sourceRevision, input.sinkRevision, input.startMode, input.mappings,
    some snapshot.planVersion, "valid", none, some snapshot.sourceMetadataFingerprint,
    some snapshot.sinkMetadataFingerprint, snapshot.connectorSummaryJson,
    snapshot.capabilitySummaryJson, some snapshot.capabilityManifestDigest,
    some snapshot.ruleSummaryDigest, some snapshot.planSetDigest, snapshot.plans,
    snapshot.confirmations⟩

def checkInstance (instanceId : String) (expectedRevision : ℤ) : Except ControlError Unit := do
  let some actual := s.instances instanceId | throw .notFound
  if actual ≠ expectedRevision then throw (.conflict "重新预检期间实例配置已变化，请重试")

/-- The transaction at the end of `requalify_task`. -/
def commitRequalification (actor : ℤ) (configurationRevision : ℤ) (input : TaskInput)
    (snapshot : TaskPlanSnapshot) : Except ControlError Store := do
  s.requireAdmin actor
  s.checkInstance input.sourceId input.sourceRevision
  s.checkInstance input.sinkId input.sinkRevision
  let some row := s.tasks id | throw (.conflict "重新预检期间任务配置已变化，请重试")
  if ¬ (row.configurationRevision = configurationRevision ∧
      row.desiredConfigurationRevision = configurationRevision) then
    throw (.conflict "重新预检期间任务配置已变化，请重试")
  -- The primary key of `task_configuration_revisions` refuses a revision that exists.
  if (s.revisions id snapshot.configurationRevision).isSome then throw .internal
  return { s.setTask id (persistPlanSnapshot (updateTask row input) snapshot) with
    conversionPlans := Function.update s.conversionPlans id snapshot.plans
    revisions := Function.update s.revisions id
      (Function.update (s.revisions id) snapshot.configurationRevision
        (some (configurationOf input snapshot))) }

/-- `begin_task_at_revision` -/
def beginTaskAtRevision (actor : ℤ) (expectedRevision : ℤ) (requireValidPlan : Bool) :
    Except ControlError Store := do
  let task ← s.task id
  s.requireAdmin actor
  let row := task.row
  if row.configurationRevision ≠ expectedRevision ∨
      row.desiredConfigurationRevision ≠ expectedRevision then
    throw (.conflict "Desired Configuration 已变化，请重新预检后再启动")
  if task.configurationChanged then throw (.conflict "关联实例配置已变化，请重新创建任务")
  if requireValidPlan ∧ (row.configuration.planStatus ≠ "valid" ∨
      row.configuration.planVersion ≠ some taskPlanVersion ∨ row.configuration.plans = []) then
    throw (.conflict "任务没有有效的 ColumnConversionPlan，请先重新预检")
  if s.active id then throw (.conflict "任务已经启动或正在停止")
  let others := s.taskIds.filterMap fun other => do
    let row ← s.tasks other
    if s.active other ∧ row.configuration.sinkId = task.row.configuration.sinkId then
      some row.configuration
    else none
  if others.any fun other => other.sinkDatabase == row.configuration.sinkDatabase &&
      overlaps other.mappings row.configuration.mappings then
    throw (.conflict "另一个运行任务正在写入相同的目的表")
  return (s.setTask id { row with effectiveConfigurationRevision := some expectedRevision })
    |>.setRuntime id ⟨.starting, (s.runtime id).bind (·.checkpoint), none⟩

def activateTask (actor : ℤ) (desiredRevision : ℤ) : Except ControlError Store :=
  s.beginTaskAtRevision id actor desiredRevision true

/-- `mark_running`, where no other active task writes the same tables. -/
def markRunning (checkpoint : Checkpoint) : Except ControlError Store := do
  let task ← s.task id
  let others := s.taskIds.filterMap fun other => do
    let row ← s.tasks other
    let saved ← (s.runtime other).bind (·.checkpoint)
    if other ≠ id ∧ s.active other then some (row.configuration, saved) else none
  if others.any fun (other, saved) => saved.sinkUuid == checkpoint.sinkUuid &&
      other.sinkDatabase == task.row.configuration.sinkDatabase &&
      overlaps other.mappings task.row.configuration.mappings then
    throw (.conflict "相同 MySQL 目的表已被另一个任务占用")
  match s.runtime id with
  | none => return s
  | some runtime => return s.setRuntime id { runtime with
      state := if runtime.state = .stopping then .stopping else .running
      checkpoint := some checkpoint }

/-- The `UPDATE` of `stop_task`. -/
def markStopping : Store :=
  match s.runtime id with
  | some runtime =>
    if runtime.state = .starting ∨ runtime.state = .running then
      s.setRuntime id { runtime with state := .stopping }
    else s
  | none => s

def saveCheckpoint (checkpoint : Checkpoint) : Store :=
  match s.runtime id with
  | some runtime => s.setRuntime id { runtime with checkpoint := some checkpoint }
  | none => s

def finishTaskWithState (error : Option String) (blocked : Bool) : Store :=
  match s.runtime id with
  | some runtime => s.setRuntime id { runtime with
      state := if blocked then .blocked else if error.isSome then .failed else .stopped
      lastError := error }
  | none => s

end Store

end DatabaseSync.Control
