import DatabaseSync.Control.Store

/-! # Requalification and activation

`requalify_task` and the checks of `start_task`, cut where other requests can come between
their statements. The remote preflight is an input: what it reads, or why it fails.
-/

namespace DatabaseSync.Control

open ChangeEvent Checked

/-- What `digest_serialized` is applied to. -/
inductive DigestInput
  | ruleSummary
      (rules : List (String × RuleReference × List (String × String) × FailurePolicy))
  | planSet (planVersion routeId : String) (configurationRevision : ℤ)
      (sourceMetadataFingerprint sinkMetadataFingerprint connectorSummaryJson : String)
      (capabilitySummaryJson ruleSummaryDigest : String) (planDigests : List String)
      (confirmationBindings : List (String × String × RuleReference × String))
  | binding (sourceId sinkId sourceDatabase sinkDatabase startMode : String)
      (mappings : List TableMapping) (configurationRevision : ℤ) (planSetDigest : Option String)
deriving DecidableEq, Repr

/-- What a successful preflight has read from the two databases and planned. -/
structure Probe where
  sourceMetadataFingerprint : String
  sinkMetadataFingerprint : String
  connectorSummaryJson : String
  capabilitySummaryJson : String
  capabilityManifestDigest : String
  plans : List ColumnConversionPlan
  username : String
  confirmedAt : String
deriving DecidableEq, Repr

section Preflight

variable (digest : DigestInput → String)

/-- `authoritative_confirmations` -/
def authoritativeConfirmations (probe : Probe) (confirmations : List RiskConfirmation) :
    List RiskConfirmation :=
  confirmations.map fun c => { c with actor := probe.username, confirmedAt := probe.confirmedAt }

def planSnapshot (routeId : String) (configurationRevision : ℤ) (probe : Probe)
    (confirmations : List RiskConfirmation) : TaskPlanSnapshot :=
  let ruleSummaryDigest := digest (.ruleSummary (probe.plans.map fun plan =>
    (plan.capabilityCode, plan.rule, plan.parameters, plan.failurePolicy)))
  let planSetDigest := digest (.planSet taskPlanVersion routeId configurationRevision
    probe.sourceMetadataFingerprint probe.sinkMetadataFingerprint probe.connectorSummaryJson
    probe.capabilitySummaryJson ruleSummaryDigest (probe.plans.map (·.planDigest))
    (confirmations.map fun c =>
      (c.sourceFieldLineage, c.targetFieldLineage, c.rule, c.planDigest)))
  { planVersion := taskPlanVersion
    configurationRevision
    sourceMetadataFingerprint := probe.sourceMetadataFingerprint
    sinkMetadataFingerprint := probe.sinkMetadataFingerprint
    connectorSummaryJson := probe.connectorSummaryJson
    capabilitySummaryJson := probe.capabilitySummaryJson
    capabilityManifestDigest := probe.capabilityManifestDigest
    ruleSummaryDigest
    planSetDigest
    plans := probe.plans
    confirmations }

def preflightTaskWithSnapshot (input : TaskInput) (routeId : String) (configurationRevision : ℤ)
    (remote : Except String Probe) : Except String TaskPlanSnapshot := do
  let probe ← remote
  return planSnapshot digest routeId configurationRevision probe
    (authoritativeConfirmations probe input.confirmations)

/-- The binding of a task to its checkpoint, as the worker computes it at a start. -/
def binding (task : ReplicationTask) : DigestInput :=
  let c := task.row.configuration
  .binding c.sourceId c.sinkId c.sourceDatabase c.sinkDatabase c.startMode c.mappings
    task.row.configurationRevision c.planSetDigest

end Preflight

/-- The revision a requalification of the task would publish. -/
def nextRevision (task : ReplicationTask) : ℤ := max task.row.configurationRevision 1 + 1

namespace Store

variable (digest : DigestInput → String) (computedDigest : ColumnConversionPlan → String)
  (s : Store) (actor : ℤ) (id : String)

/-- The activity check of `requalify_task`. -/
def checkInactive : Except ControlError Unit :=
  if s.active id then throw (.conflict "任务运行期间不能重新预检") else return ()

/-- The instance revisions that `requalify_task` reads, put into the input. -/
def requalifyInput (task : ReplicationTask) (confirmations : List RiskConfirmation) :
    Except ControlError TaskInput := do
  let some row := s.tasks id | throw .notFound
  let some sourceRevision := s.instances row.configuration.sourceId | throw .notFound
  let some sinkRevision := s.instances row.configuration.sinkId | throw .notFound
  return { inputFromTask task with sourceRevision, sinkRevision, confirmations }

/-- `requalify_task`, run without interruption. -/
def requalifyTask (confirmations : List RiskConfirmation) (remote : Except String Probe) :
    Except ControlError Unit × Store :=
  let checked : Except ControlError (ReplicationTask × TaskInput) := do
    s.requireAdmin actor
    let task ← s.task id
    s.checkInactive id
    return (task, ← s.requalifyInput id task confirmations)
  match checked with
  | .error error => (.error error, s)
  | .ok (task, input) =>
    match preflightTaskWithSnapshot digest input id (nextRevision task) remote with
    | .error reason => (.error (.invalid reason), s.markPlanStale id reason)
    | .ok snapshot =>
      match s.commitRequalification id actor task.row.configurationRevision input snapshot with
      | .error error => (.error error, s)
      | .ok s => (.ok (), s)

/-- The part of `ensure_saved_plan_current` before the remote preflight. -/
def checkSavedPlan (task : ReplicationTask) : Except ControlError Unit := do
  let c := task.configuration
  if task.configurationChanged then throw (.conflict "关联实例配置已变化，请重新预检")
  if c.planStatus ≠ "valid" ∨ c.planVersion ≠ some taskPlanVersion ∨ c.plans = [] then
    throw (.conflict "任务没有有效的 ColumnConversionPlan，请先重新预检")
  if task.row.desiredConfigurationRevision ≠ task.row.configurationRevision then
    throw (.conflict "任务 Desired Configuration revision 不一致，请先重新预检")
  if s.revisions task.id task.row.desiredConfigurationRevision ≠ some c then
    throw (.conflict "任务配置 revision 不存在或内容已损坏，请先重新预检")
  if s.conversionPlans task.id ≠ c.plans then
    throw (.conflict "任务保存的 ColumnConversionPlan 明细不完整或已损坏，请先重新预检")
  if c.plans.any fun plan =>
      !plan.verifyDigest computedDigest || plan.confirmation == .required then
    throw (.conflict "任务的 ColumnConversionPlan 不完整或缺少风险确认，请先重新预检")

end Store

/-- What `ensure_saved_plan_current` finds changed in a fresh preflight. -/
def planChanges (task : ReplicationTask) (current : TaskPlanSnapshot) : List String :=
  let c := task.configuration
  let changes : List (String × Bool) :=
    [("源端元数据", c.sourceMetadataFingerprint ≠ some current.sourceMetadataFingerprint),
      ("目的端元数据或探针", c.sinkMetadataFingerprint ≠ some current.sinkMetadataFingerprint),
      ("目标能力清单", c.capabilityManifestDigest ≠ some current.capabilityManifestDigest),
      ("转换规则摘要", c.ruleSummaryDigest ≠ some current.ruleSummaryDigest),
      ("计划集合摘要", c.planSetDigest ≠ some current.planSetDigest),
      ("连接器身份", c.connectorSummaryJson ≠ current.connectorSummaryJson),
      ("能力清单内容", c.capabilitySummaryJson ≠ current.capabilitySummaryJson),
      ("字段转换计划", c.plans ≠ current.plans)]
  (changes.filter (·.2)).map (·.1)

namespace Store

variable {s s' : Store} {actor revision : ℤ} {id : String} {input : TaskInput}
  {snapshot : TaskPlanSnapshot}

theorem task_ok {task : ReplicationTask} (h : s.task id = .ok task) :
    task.id = id ∧ s.tasks id = some task.row := by
  unfold Store.task at h
  cases hrow : s.tasks id with
  | none => simp [hrow] at h
  | some row =>
    cases hsource : s.instances row.configuration.sourceId with
    | none => simp [hrow, hsource] at h
    | some sourceRevision =>
      cases hsink : s.instances row.configuration.sinkId with
      | none => simp [hrow, hsource, hsink] at h
      | some sinkRevision =>
        simp only [hrow, hsource, hsink, pure_eq, Except.ok.injEq] at h
        subst h
        exact ⟨rfl, rfl⟩

/-- Everything a committed requalification does. -/
theorem commitRequalification_ok
    (h : s.commitRequalification id actor revision input snapshot = .ok s') :
    ∃ row, s.tasks id = some row ∧ row.configurationRevision = revision ∧
      s.revisions id snapshot.configurationRevision = none ∧
      s'.tasks = Function.update s.tasks id
        (some (persistPlanSnapshot (updateTask row input) snapshot)) ∧
      s'.revisions = Function.update s.revisions id
        (Function.update (s.revisions id) snapshot.configurationRevision
          (some (configurationOf input snapshot))) ∧
      s'.runtime = s.runtime := by
  unfold commitRequalification at h
  cases hrow : s.tasks id with
  | none => simp [hrow] at h
  | some row =>
    simp only [hrow, throw_eq, pure_eq, error_bind, bind_eq_ok, guard_eq_ok, Except.ok.injEq] at h
    obtain ⟨_, -, _, -, _, -, hrevision, hfresh, rfl⟩ := h
    exact ⟨row, rfl, (not_not.mp hrevision).1, by simpa using hfresh, rfl, rfl, rfl⟩

/-- Everything an activation does. -/
theorem beginTaskAtRevision_ok {requireValidPlan : Bool}
    (h : s.beginTaskAtRevision id actor revision requireValidPlan = .ok s') :
    ∃ row, s.tasks id = some row ∧ row.configurationRevision = revision ∧
      s.active id = false ∧
      s'.tasks = Function.update s.tasks id
        (some { row with effectiveConfigurationRevision := some revision }) ∧
      s'.revisions = s.revisions ∧
      s'.runtime = Function.update s.runtime id
        (some ⟨.starting, (s.runtime id).bind (·.checkpoint), none⟩) := by
  unfold beginTaskAtRevision at h
  simp only [throw_eq, pure_eq, error_bind, bind_eq_ok, guard_eq_ok, Except.ok.injEq] at h
  obtain ⟨task, htask, _, -, hrevision, -, -, hinactive, -, rfl⟩ := h
  refine ⟨task.row, (task_ok htask).2, ?_, by simpa using hinactive, rfl, rfl, rfl⟩
  exact not_not.mp fun h => hrevision (.inl h)

end Store

section Sample

def samplePlan : ColumnConversionPlan where
  routeId := "orders"
  configurationRevision := "1"
  sourceField := ⟨"catalog:shop.orders.id", "source-field"⟩
  targetField := ⟨"catalog:shop.orders.id", "target-field"⟩
  sinkConnector := ⟨"mysql", "8.0"⟩
  targetBuild := none
  target := ⟨"int", []⟩
  rule := ⟨"integer.exact", "1"⟩
  capabilityCode := "mysql.integer"
  targetProbeDigest := none
  qualification := .exact
  locatorImpact := .preserved
  confirmation := .notRequired
  parameters := []
  failurePolicy := .reject
  planDigest := "5d41402abc4b2a76b9719d911017c592ae3b2c0f7f1f5b7c1b8f2a1f9d3c4e5f"

def sampleProbe : Probe :=
  ⟨"source-fingerprint", "sink-fingerprint", "{}", "{}", "manifest", [samplePlan], "admin",
    "2026-01-01T00:00:00.000Z"⟩

/-- The digests of the sample task's rules, plan sets and bindings at its first two revisions. -/
def sampleDigest : DigestInput → String
  | .ruleSummary _ => "b7f3f9ad8c1c2463b0400921a586d4f320d199b9f022920a5baaa51903f14ef1"
  | .planSet _ _ revision .. =>
    if revision = 1 then "6bb4437e6e810cf7d1748d8b328ca5bce197f1d8b007f1fe7b57af50485961c0"
    else "13d50cb76bfc49b5f44467d67fa83977223f7c39b283854acd0b0734744130bd"
  | .binding _ _ _ _ _ _ revision _ =>
    if revision = 1 then "d4361fceea82ec691cd6dd95a47f0f62364ad90d3ce882a69d9bd18a42b40eff"
    else "d14d0f717fbb35f5fe413821b0dc69ec97f51dea2b0c4e0aa95917aaf7c52eff"

def sampleInput : TaskInput :=
  ⟨"orders", "mysql-a", "mysql-b", "", "", 1, 1, "auto",
    [⟨"shop", "orders", "shop", "orders", [], []⟩], []⟩

def sampleConfiguration : Configuration :=
  Store.configurationOf sampleInput (planSnapshot sampleDigest "orders" 1 sampleProbe [])

/-- A store with one configured task between two instances. -/
def sampleStore : Store where
  taskIds := ["orders"]
  admins := [1]
  instances id := if id = "mysql-a" ∨ id = "mysql-b" then some 1 else none
  tasks id := if id = "orders" then some ⟨sampleConfiguration, 1, 1, none⟩ else none
  revisions id revision :=
    if id = "orders" ∧ revision = 1 then some sampleConfiguration else none
  conversionPlans id := if id = "orders" then [samplePlan] else []
  runtime _ := none

def sampleTask : ReplicationTask := ⟨"orders", ⟨sampleConfiguration, 1, 1, none⟩, false, none⟩

end Sample

end DatabaseSync.Control
