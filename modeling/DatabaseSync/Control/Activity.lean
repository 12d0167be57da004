import DatabaseSync.Control.Requalify
import DatabaseSync.Library.Transition

/-! # Active tasks and requalification

Requests to requalify, start and stop tasks run concurrently with each other and with the
workers. A task is stable when its stored configuration is the one it was activated with.
-/

namespace DatabaseSync.Control

open ChangeEvent Checked Transition

/-- The snapshot of a preflight under way, made for the revision after the one it has read. -/
structure Preflighted where
  task : ReplicationTask
  input : TaskInput
  snapshot : TaskPlanSnapshot
  next_revision : snapshot.configurationRevision = nextRevision task

inductive RequalifyStage
  | loaded (task : ReplicationTask) (confirmations : List RiskConfirmation)
  | checked (task : ReplicationTask) (confirmations : List RiskConfirmation)
  | read (task : ReplicationTask) (input : TaskInput)
  | preflighted (preflight : Preflighted)

inductive StartStage
  | loaded (task : ReplicationTask)
  | checked (task : ReplicationTask)
  | current (task : ReplicationTask)

/-- A request of an administrator for one task. -/
inductive Request
  | requalify (actor : ℤ) (id : String) (stage : RequalifyStage)
  | start (actor : ℤ) (id : String) (stage : StartStage)

/-- How far a worker thread is: `run` has yet to load the task, runs on the task it has
loaded, has returned and stored the final state, or the thread has ended. -/
inductive WorkerPhase
  | spawned
  | running (task : ReplicationTask)
  | finishing
  | ended

structure Worker where
  phase : WorkerPhase
  cancelled : Bool

structure System where
  store : Store
  workers : String → Option Worker
  requests : ℕ → Option Request

namespace System

variable (s : System)

def setRequest (k : ℕ) (request : Option Request) : System :=
  { s with requests := Function.update s.requests k request }

def setWorker (id : String) (worker : Worker) : System :=
  { s with workers := Function.update s.workers id (some worker) }

/-- `workers.get(id).is_some_and(|w| !w.handle.is_finished())` -/
def working (id : String) : Prop := ∃ w, s.workers id = some w ∧ w.phase ≠ .ended

end System

inductive Action
  | requalify
  | checkInactive
  | readInstances
  | preflight
  | commitRequalification (k : ℕ)
  | start
  | checkSavedPlan
  | compareSavedPlan
  | activate
  | stop
  | beginWorker
  | markRunning
  | saveCheckpoint
  | finishTask
  | endWorker
  | refuse
deriving DecidableEq

variable (digest : DigestInput → String) (computedDigest : ColumnConversionPlan → String)

/-- One statement or transaction of a request or a worker. -/
inductive Step : System → Action → System → Prop
  | requalify {s : System} {k : ℕ} {actor : ℤ} {id : String} {task : ReplicationTask}
      {confirmations : List RiskConfirmation} :
      s.requests k = none → s.store.requireAdmin actor = .ok () → s.store.task id = .ok task →
      Step s .requalify (s.setRequest k (some (.requalify actor id (.loaded task confirmations))))
  | checkInactive {s : System} {k : ℕ} {actor : ℤ} {id : String} {task : ReplicationTask}
      {confirmations : List RiskConfirmation} :
      s.requests k = some (.requalify actor id (.loaded task confirmations)) →
      s.store.checkInactive id = .ok () →
      Step s .checkInactive
        (s.setRequest k (some (.requalify actor id (.checked task confirmations))))
  | readInstances {s : System} {k : ℕ} {actor : ℤ} {id : String} {task : ReplicationTask}
      {confirmations : List RiskConfirmation} {input : TaskInput} :
      s.requests k = some (.requalify actor id (.checked task confirmations)) →
      s.store.requalifyInput id task confirmations = .ok input →
      Step s .readInstances (s.setRequest k (some (.requalify actor id (.read task input))))
  | preflight {s : System} {k : ℕ} {actor : ℤ} {id : String} {task : ReplicationTask}
      {input : TaskInput} {remote : Except String Probe} {snapshot : TaskPlanSnapshot}
      (h : snapshot.configurationRevision = nextRevision task) :
      s.requests k = some (.requalify actor id (.read task input)) →
      preflightTaskWithSnapshot digest input id (nextRevision task) remote = .ok snapshot →
      Step s .preflight
        (s.setRequest k (some (.requalify actor id (.preflighted ⟨task, input, snapshot, h⟩))))
  | preflightFails {s : System} {k : ℕ} {actor : ℤ} {id : String} {task : ReplicationTask}
      {input : TaskInput} {remote : Except String Probe} {reason : String} :
      s.requests k = some (.requalify actor id (.read task input)) →
      preflightTaskWithSnapshot digest input id (nextRevision task) remote = .error reason →
      Step s .preflight ({ s with store := s.store.markPlanStale id reason }.setRequest k none)
  | commitRequalification {s : System} {k : ℕ} {actor : ℤ} {id : String} {p : Preflighted}
      {store : Store} :
      s.requests k = some (.requalify actor id (.preflighted p)) →
      s.store.commitRequalification id actor p.task.row.configurationRevision p.input
        p.snapshot = .ok store →
      Step s (.commitRequalification k) ({ s with store := store }.setRequest k none)
  | start {s : System} {k : ℕ} {actor : ℤ} {id : String} {task : ReplicationTask} :
      s.requests k = none → s.store.requireAdmin actor = .ok () → s.store.task id = .ok task →
      Step s .start (s.setRequest k (some (.start actor id (.loaded task))))
  | checkSavedPlan {s : System} {k : ℕ} {actor : ℤ} {id : String} {task : ReplicationTask} :
      s.requests k = some (.start actor id (.loaded task)) →
      s.store.checkSavedPlan computedDigest task = .ok () →
      Step s .checkSavedPlan (s.setRequest k (some (.start actor id (.checked task))))
  | compareSavedPlan {s : System} {k : ℕ} {actor : ℤ} {id : String} {task : ReplicationTask}
      {remote : Except String Probe} {snapshot : TaskPlanSnapshot} :
      s.requests k = some (.start actor id (.checked task)) →
      preflightTaskWithSnapshot digest (inputFromTask task) id task.row.configurationRevision
        remote = .ok snapshot →
      planChanges task snapshot = [] →
      Step s .compareSavedPlan (s.setRequest k (some (.start actor id (.current task))))
  /-- A start that finds the saved plan changed, or cannot read the databases. -/
  | savedPlanStale {s : System} {k : ℕ} {actor : ℤ} {id reason : String}
      {stage : StartStage} :
      s.requests k = some (.start actor id stage) →
      Step s .compareSavedPlan
        ({ s with store := s.store.markPlanStale id reason }.setRequest k none)
  /-- Activation and the new thread, under the lock on the workers. -/
  | activate {s : System} {k : ℕ} {actor : ℤ} {id : String} {task : ReplicationTask}
      {store : Store} :
      s.requests k = some (.start actor id (.current task)) →
      ¬ s.working id →
      s.store.activateTask id actor task.row.configurationRevision = .ok store →
      Step s .activate
        (({ s with store := store }.setWorker id ⟨.spawned, false⟩).setRequest k none)
  /-- The thread cannot be created; the old handle is already gone. -/
  | activateFails {s : System} {k : ℕ} {actor : ℤ} {id : String} {task : ReplicationTask}
      {store : Store} :
      s.requests k = some (.start actor id (.current task)) →
      ¬ s.working id →
      s.store.activateTask id actor task.row.configurationRevision = .ok store →
      Step s .activate
        ({ s with
            store := store.finishTaskWithState id (some "无法创建任务线程") false
            workers := Function.update s.workers id none }.setRequest k none)
  | stop {s : System} {actor : ℤ} {id : String} {worker : Worker} :
      s.store.requireAdmin actor = .ok () → s.workers id = some worker →
      Step s .stop
        ({ s with store := s.store.markStopping id }.setWorker id { worker with cancelled := true })
  /-- `run` loads the task. -/
  | beginWorker {s : System} {id : String} {cancelled : Bool} {task : ReplicationTask} :
      s.workers id = some ⟨.spawned, cancelled⟩ → s.store.task id = .ok task →
      Step s .beginWorker (s.setWorker id ⟨.running task, cancelled⟩)
  | markRunning {s : System} {id : String} {cancelled : Bool} {task : ReplicationTask}
      {checkpoint : Checkpoint} {store : Store} :
      s.workers id = some ⟨.running task, cancelled⟩ →
      s.store.markRunning id checkpoint = .ok store →
      Step s .markRunning { s with store := store }
  | saveCheckpoint {s : System} {id : String} {cancelled : Bool} {task : ReplicationTask}
      {checkpoint : Checkpoint} :
      s.workers id = some ⟨.running task, cancelled⟩ →
      Step s .saveCheckpoint { s with store := s.store.saveCheckpoint id checkpoint }
  | finishTask {s : System} {id : String} {worker : Worker} {error : Option String}
      {blocked : Bool} :
      s.workers id = some worker → worker.phase = .spawned ∨ (∃ t, worker.phase = .running t) →
      Step s .finishTask
        ({ s with store := s.store.finishTaskWithState id error blocked }.setWorker id
          { worker with phase := .finishing })
  | endWorker {s : System} {id : String} {cancelled : Bool} :
      s.workers id = some ⟨.finishing, cancelled⟩ →
      Step s .endWorker (s.setWorker id ⟨.ended, cancelled⟩)
  /-- A request ends with an error that writes nothing. -/
  | refuse {s : System} {k : ℕ} : Step s .refuse (s.setRequest k none)

/-- The stored configuration of a task is that of the given revision. -/
structure Matches (s : Store) (id : String) (row : TaskRow) (revision : ℤ) : Prop where
  revision_eq : row.configurationRevision = revision
  recorded : ∃ c, s.revisions id revision = some c ∧ row.configuration.mappings = c.mappings ∧
    row.configuration.plans = c.plans ∧ row.configuration.planSetDigest = c.planSetDigest

/-- Every active task stands at its effective revision. -/
def Stable (s : Store) : Prop :=
  ∀ id row, s.tasks id = some row → s.active id = true →
    ∃ revision, row.effectiveConfigurationRevision = some revision ∧ Matches s id row revision

/-- Every task's current revision is recorded. -/
def Recorded (s : Store) : Prop :=
  ∀ id row, s.tasks id = some row → Matches s id row row.configurationRevision

/-- A step other than the commit of a requalification whose task is active. -/
def Quiet (s : System) (a : Action) (_ : System) : Prop :=
  ∀ k actor id p, a = .commitRequalification k →
    s.requests k = some (.requalify actor id (.preflighted p)) → s.store.active id = false

namespace Store

variable {s s' : Store} {id other : String} {runtime : TaskRuntime}

/-- What every statement but activation and the commit of a requalification keeps. -/
structure Keeps (s s' : Store) : Prop where
  revisions : s'.revisions = s.revisions
  tasks : ∀ id row', s'.tasks id = some row' → ∃ row, s.tasks id = some row ∧
    row'.configurationRevision = row.configurationRevision ∧
    row'.effectiveConfigurationRevision = row.effectiveConfigurationRevision ∧
    row'.configuration.mappings = row.configuration.mappings ∧
    row'.configuration.plans = row.configuration.plans ∧
    row'.configuration.planSetDigest = row.configuration.planSetDigest
  active : ∀ id, s'.active id = true → s.active id = true

theorem Keeps.refl (s : Store) : Keeps s s :=
  ⟨rfl, fun _ row h => ⟨row, h, rfl, rfl, rfl, rfl, rfl⟩, fun _ h => h⟩

theorem Keeps.matches (h : Keeps s s') {row row' : TaskRow} {revision : ℤ}
    (hm : Matches s id row revision) (hr : row'.configurationRevision = row.configurationRevision)
    (hmap : row'.configuration.mappings = row.configuration.mappings)
    (hplans : row'.configuration.plans = row.configuration.plans)
    (hdigest : row'.configuration.planSetDigest = row.configuration.planSetDigest) :
    Matches s' id row' revision := by
  obtain ⟨c, hc, hcm, hcp, hcd⟩ := hm.recorded
  exact ⟨hr.trans hm.revision_eq, c, h.revisions ▸ hc, hmap.trans hcm, hplans.trans hcp,
    hdigest.trans hcd⟩

theorem Keeps.stable (h : Keeps s s') (hs : Stable s) : Stable s' := by
  intro id row' hrow' hactive
  obtain ⟨row, hrow, hr, he, hmap, hplans, hdigest⟩ := h.tasks id row' hrow'
  obtain ⟨revision, heffective, hm⟩ := hs id row hrow (h.active id hactive)
  exact ⟨revision, he.trans heffective, h.matches hm hr hmap hplans hdigest⟩

theorem Keeps.recorded (h : Keeps s s') (hs : Recorded s) : Recorded s' := by
  intro id row' hrow'
  obtain ⟨row, hrow, hr, -, hmap, hplans, hdigest⟩ := h.tasks id row' hrow'
  rw [hr]
  exact h.matches (hs id row hrow) hr hmap hplans hdigest

theorem active_setRuntime : (s.setRuntime id runtime).active other =
    if other = id then runtime.state.isActive else s.active other := by
  unfold active setRuntime
  by_cases h : other = id
  · subst h; simp
  · simp [h]

/-- Changing the runtime of a task that is active, or into one that is not. -/
theorem keeps_setRuntime (h : runtime.state.isActive = true → s.active id = true) :
    Keeps s (s.setRuntime id runtime) := by
  refine ⟨rfl, (Keeps.refl s).tasks, ?_⟩
  intro other hactive
  rw [active_setRuntime] at hactive
  split at hactive
  · next heq => exact heq ▸ h hactive
  · exact hactive

theorem keeps_markPlanStale (reason : String) : Keeps s (s.markPlanStale id reason) := by
  unfold markPlanStale
  cases hrow : s.tasks id with
  | none => exact Keeps.refl s
  | some row =>
    dsimp only
    split
    · exact Keeps.refl s
    · refine ⟨rfl, ?_, fun _ h => h⟩
      intro other row' hother
      by_cases h : other = id
      · subst h
        simp only [setTask, Function.update_self, Option.some.injEq] at hother
        subst hother
        exact ⟨row, hrow, rfl, rfl, rfl, rfl, rfl⟩
      · simp only [setTask, Function.update_of_ne h] at hother
        exact ⟨row', hother, rfl, rfl, rfl, rfl, rfl⟩

theorem active_markPlanStale (reason : String) :
    (s.markPlanStale id reason).active other = s.active other := by
  unfold markPlanStale
  cases s.tasks id with
  | none => rfl
  | some row => dsimp only; split <;> rfl

theorem active_markStopping : (s.markStopping id).active other = s.active other := by
  unfold markStopping
  cases hr : s.runtime id with
  | none => rfl
  | some runtime =>
    dsimp only
    split
    · next hstate =>
      rw [active_setRuntime]
      split
      · next heq =>
        subst heq
        rcases hstate with hstate | hstate <;> simp [active, hr, hstate, TaskState.isActive]
      · rfl
    · rfl

theorem active_finishTask (error : Option String) (blocked : Bool) :
    (s.finishTaskWithState id error blocked).active other =
      if other = id then false else s.active other := by
  unfold finishTaskWithState
  cases hr : s.runtime id with
  | none =>
    dsimp only
    split
    · next heq => simp [heq, active, hr]
    · rfl
  | some runtime =>
    dsimp only
    rw [active_setRuntime]
    cases blocked <;> cases error <;> rfl

theorem keeps_markStopping : Keeps s (s.markStopping id) := by
  have hactive : ∀ other, (s.markStopping id).active other = true → s.active other = true :=
    fun other h => (active_markStopping (s := s)).symm.trans h
  unfold markStopping at hactive ⊢
  cases hr : s.runtime id with
  | none => exact Keeps.refl s
  | some runtime =>
    simp only [hr] at hactive ⊢
    split
    · next hstate =>
      simp only [if_pos hstate] at hactive
      exact ⟨rfl, (Keeps.refl s).tasks, hactive⟩
    · exact Keeps.refl s

theorem keeps_finishTask (error : Option String) (blocked : Bool) :
    Keeps s (s.finishTaskWithState id error blocked) := by
  unfold finishTaskWithState
  cases s.runtime id with
  | none => exact Keeps.refl s
  | some runtime =>
    apply keeps_setRuntime
    cases blocked <;> cases error <;> intro h <;> cases h

theorem active_saveCheckpoint (checkpoint : Checkpoint) :
    (s.saveCheckpoint id checkpoint).active other = s.active other := by
  unfold saveCheckpoint
  cases hr : s.runtime id with
  | none => rfl
  | some runtime =>
    dsimp only
    rw [active_setRuntime]
    split
    · next heq => subst heq; simp [active, hr]
    · rfl

theorem keeps_saveCheckpoint (checkpoint : Checkpoint) :
    Keeps s (s.saveCheckpoint id checkpoint) := by
  unfold saveCheckpoint
  cases hr : s.runtime id with
  | none => exact Keeps.refl s
  | some runtime =>
    apply keeps_setRuntime
    intro h
    simpa [active, hr] using h

/-- A running task stays active, and so does every other one. -/
theorem markRunning_ok {checkpoint : Checkpoint} (h : s.markRunning id checkpoint = .ok s')
    (hactive : s.active id = true) :
    Keeps s s' ∧ ∀ other, s'.active other = s.active other := by
  simp only [markRunning, throw_eq, pure_eq, error_bind, bind_eq_ok, guard_eq_ok] at h
  obtain ⟨task, -, -, h⟩ := h
  cases hr : s.runtime id with
  | none => simp [active, hr] at hactive
  | some runtime =>
    simp only [hr, Except.ok.injEq] at h
    subst h
    refine ⟨keeps_setRuntime fun _ => hactive, ?_⟩
    intro other
    rw [active_setRuntime]
    split
    · next heq =>
      subst heq
      rw [hactive]
      dsimp only
      split <;> rfl
    · rfl

/-- Committing a requalification records the new revision, and leaves no task stable that is
active. -/
theorem commitRequalification_recorded {actor revision : ℤ} {input : TaskInput}
    {snapshot : TaskPlanSnapshot}
    (h : s.commitRequalification id actor revision input snapshot = .ok s')
    (hs : Recorded s) : Recorded s' := by
  obtain ⟨row, hrow, -, hfresh, htasks, hrevisions, -⟩ := commitRequalification_ok h
  intro other row' hrow'
  rw [htasks] at hrow'
  by_cases heq : other = id
  · subst heq
    simp only [Function.update_self, Option.some.injEq] at hrow'
    subst hrow'
    refine ⟨rfl, configurationOf input snapshot, ?_, rfl, rfl, rfl⟩
    simp [hrevisions, persistPlanSnapshot]
  · rw [Function.update_of_ne heq] at hrow'
    obtain ⟨-, c, hc, hmatches⟩ := hs other row' hrow'
    refine ⟨rfl, c, ?_, hmatches⟩
    rw [hrevisions, Function.update_of_ne heq]
    exact hc

theorem commitRequalification_stable {actor revision : ℤ} {input : TaskInput}
    {snapshot : TaskPlanSnapshot}
    (h : s.commitRequalification id actor revision input snapshot = .ok s')
    (hinactive : s.active id = false) (hs : Stable s) : Stable s' := by
  obtain ⟨row, hrow, -, hfresh, htasks, hrevisions, hruntime⟩ := commitRequalification_ok h
  intro other row' hrow' hactive
  have hactive : s.active other = true := by
    unfold active at hactive ⊢
    rwa [hruntime] at hactive
  have heq : other ≠ id := by
    rintro rfl
    rw [hinactive] at hactive
    cases hactive
  rw [htasks, Function.update_of_ne heq] at hrow'
  obtain ⟨effective, heffective, hrevision, c, hc, hmatches⟩ := hs other row' hrow' hactive
  refine ⟨effective, heffective, hrevision, c, ?_, hmatches⟩
  rw [hrevisions, Function.update_of_ne heq]
  exact hc

/-- If the task of the requalification is active and stands at its effective revision, then it
does not any more after the commit. -/
theorem commitRequalification_unstable {actor : ℤ} {input : TaskInput}
    {snapshot : TaskPlanSnapshot} {task : ReplicationTask}
    (hnext : snapshot.configurationRevision = nextRevision task)
    (h : s.commitRequalification id actor task.row.configurationRevision input snapshot = .ok s')
    (hactive : s.active id = true) (hs : Stable s) : ¬ Stable s' := by
  obtain ⟨row, hrow, hrevision, -, htasks, -, hruntime⟩ := commitRequalification_ok h
  intro hstable
  obtain ⟨effective, heffective, hm⟩ := hs id row hrow hactive
  have hactive' : s'.active id = true := by
    unfold active at hactive ⊢
    rwa [hruntime]
  obtain ⟨effective', heffective', hm'⟩ :=
    hstable id (persistPlanSnapshot (updateTask row input) snapshot) (by simp [htasks]) hactive'
  have hsame : effective' = effective :=
    Option.some.inj (heffective'.symm.trans heffective)
  have hold : effective = task.row.configurationRevision :=
    hm.revision_eq.symm.trans hrevision
  have hnew : effective' = nextRevision task := hm'.revision_eq.symm.trans hnext
  unfold nextRevision at hnew
  omega

/-- Activation makes the current, recorded revision the effective one. -/
theorem beginTaskAtRevision_keeps {actor revision : ℤ} {requireValidPlan : Bool}
    (h : s.beginTaskAtRevision id actor revision requireValidPlan = .ok s')
    (hr : Recorded s) :
    Recorded s' ∧ (Stable s → Stable s') ∧
      (∀ other, s.active other = true → s'.active other = true) ∧ s'.active id = true := by
  obtain ⟨row, hrow, hrevision, hinactive, htasks, hrevisions, hruntime⟩ :=
    beginTaskAtRevision_ok h
  have hactive : ∀ other, s'.active other = if other = id then true else s.active other := by
    intro other
    unfold active
    rw [hruntime]
    by_cases heq : other = id
    · subst heq; simp [TaskState.isActive]
    · simp [heq]
  have hrows : ∀ other row', s'.tasks other = some row' → ∃ old, s.tasks other = some old ∧
      row'.configurationRevision = old.configurationRevision ∧
      row'.configuration = old.configuration ∧
      row'.effectiveConfigurationRevision =
        if other = id then some revision else old.effectiveConfigurationRevision := by
    intro other row' hrow'
    rw [htasks] at hrow'
    by_cases heq : other = id
    · subst heq
      simp only [Function.update_self, Option.some.injEq] at hrow'
      subst hrow'
      exact ⟨row, hrow, rfl, rfl, by simp⟩
    · rw [Function.update_of_ne heq] at hrow'
      exact ⟨row', hrow', rfl, rfl, by simp [heq]⟩
  have hmatches : ∀ {other old row' r}, Matches s other old r →
      row'.configurationRevision = old.configurationRevision →
      row'.configuration = old.configuration → Matches s' other row' r := by
    rintro other old row' r ⟨hrev, c, hc, hrest⟩ hcr hconf
    exact ⟨hcr.trans hrev, c, hrevisions ▸ hc, hconf ▸ hrest⟩
  refine ⟨?_, ?_, ?_, ?_⟩
  · intro other row' hrow'
    obtain ⟨old, hold, hcr, hconf, -⟩ := hrows other row' hrow'
    rw [hcr]
    exact hmatches (hr other old hold) hcr hconf
  · intro hs other row' hrow' hact
    obtain ⟨old, hold, hcr, hconf, heff⟩ := hrows other row' hrow'
    by_cases heq : other = id
    · subst heq
      rw [hrow, Option.some.injEq] at hold
      subst hold
      refine ⟨revision, by simpa using heff, ?_⟩
      exact hrevision ▸ hmatches (hr other row hrow) hcr hconf
    · rw [hactive, if_neg heq] at hact
      rw [if_neg heq] at heff
      obtain ⟨effective, heffective, hm⟩ := hs other old hold hact
      exact ⟨effective, heff.trans heffective, hmatches hm hcr hconf⟩
  · intro other h
    rw [hactive]
    split
    · rfl
    · exact h
  · rw [hactive, if_pos rfl]

end Store

/-- Threads that have not returned yet run active tasks. -/
def Attended (s : System) : Prop :=
  ∀ id w, s.workers id = some w → w.phase ≠ .finishing → w.phase ≠ .ended →
    s.store.active id = true

structure Inv (s : System) : Prop where
  recorded : Recorded s.store
  attended : Attended s

section Steps

variable {digest} {computedDigest} {s s' : System} {a : Action}

/-- A step keeps the invariant, and stability unless it commits a requalification of an active
task. -/
theorem Step.preserves (h : Step digest computedDigest s a s') (hi : Inv s) :
    Inv s' ∧ (Quiet s a s' → Stable s.store → Stable s'.store) := by
  have same : ∀ {workers requests}, Attended ⟨s.store, workers, requests⟩ →
      Inv ⟨s.store, workers, requests⟩ ∧
        (Quiet s a ⟨s.store, workers, requests⟩ → Stable s.store → Stable s.store) :=
    fun ha => ⟨⟨hi.recorded, ha⟩, fun _ hs => hs⟩
  have keeps : ∀ {store workers requests}, Store.Keeps s.store store →
      Attended ⟨store, workers, requests⟩ → Inv ⟨store, workers, requests⟩ ∧
        (Quiet s a ⟨store, workers, requests⟩ → Stable s.store → Stable store) :=
    fun hk ha => ⟨⟨hk.recorded hi.recorded, ha⟩, fun _ hs => hk.stable hs⟩
  have attended : ∀ {store requests}, (∀ id, store.active id = s.store.active id) →
      Attended ⟨store, s.workers, requests⟩ :=
    fun hactive id w hw hf he => (hactive id).trans (hi.attended id w hw hf he)
  cases h with
  | requalify | checkInactive | readInstances | preflight | start | checkSavedPlan
  | compareSavedPlan | refuse => exact same hi.attended
  | preflightFails | savedPlanStale =>
    exact keeps (Store.keeps_markPlanStale _) (attended fun _ => Store.active_markPlanStale _)
  | @commitRequalification k actor id p store hk hcommit =>
    obtain ⟨row, -, -, -, -, -, hruntime⟩ := Store.commitRequalification_ok hcommit
    refine ⟨⟨Store.commitRequalification_recorded hcommit hi.recorded, ?_⟩, ?_⟩
    · exact attended fun other => by simp only [Store.active, hruntime]
    · intro hquiet hs
      exact Store.commitRequalification_stable hcommit (hquiet k actor id p rfl hk) hs
  | @activate k actor id task store hk hworking hstore =>
    obtain ⟨hrecorded, hstable, hactive, hid⟩ :=
      Store.beginTaskAtRevision_keeps hstore hi.recorded
    refine ⟨⟨hrecorded, ?_⟩, fun _ hs => hstable hs⟩
    intro other w hw hf he
    by_cases heq : other = id
    · exact heq ▸ hid
    · refine hactive other (hi.attended other w ?_ hf he)
      simpa [System.setWorker, System.setRequest, heq] using hw
  | @activateFails k actor id task store hk hworking hstore =>
    obtain ⟨hrecorded, hstable, hactive, -⟩ :=
      Store.beginTaskAtRevision_keeps hstore hi.recorded
    have hkeeps : Store.Keeps store
        (store.finishTaskWithState id (some "无法创建任务线程") false) :=
      Store.keeps_finishTask _ _
    refine ⟨⟨hkeeps.recorded hrecorded, ?_⟩, fun _ hs => hkeeps.stable (hstable hs)⟩
    intro other w hw hf he
    by_cases heq : other = id
    · subst heq; simp [System.setRequest] at hw
    · have hw : s.workers other = some w := by simpa [System.setRequest, heq] using hw
      have := hactive other (hi.attended other w hw hf he)
      simpa [System.setRequest, Store.active_finishTask, heq] using this
  | @stop actor id worker hadmin hworker =>
    refine keeps Store.keeps_markStopping ?_
    intro other w hw hf he
    rw [Store.active_markStopping]
    by_cases heq : other = id
    · subst heq
      simp only [Function.update_self, Option.some.injEq] at hw
      subst hw
      exact hi.attended other worker hworker hf he
    · exact hi.attended other w (by simpa [System.setWorker, heq] using hw) hf he
  | @beginWorker id cancelled task hworker htask =>
    refine same ?_
    intro other w hw hf he
    by_cases heq : other = id
    · subst heq
      exact hi.attended other _ hworker (by simp) (by simp)
    · exact hi.attended other w (by simpa [System.setWorker, heq] using hw) hf he
  | @markRunning id cancelled task checkpoint store hworker hstore =>
    obtain ⟨hkeeps, hactive⟩ := Store.markRunning_ok hstore
      (hi.attended id _ hworker (by simp) (by simp))
    exact keeps hkeeps (attended hactive)
  | saveCheckpoint =>
    exact keeps (Store.keeps_saveCheckpoint _) (attended fun _ => Store.active_saveCheckpoint _)
  | @finishTask id worker error blocked hworker hphase =>
    refine keeps (Store.keeps_finishTask error blocked) ?_
    intro other w hw hf he
    by_cases heq : other = id
    · subst heq
      simp only [Function.update_self, Option.some.injEq] at hw
      subst hw
      exact absurd rfl hf
    · have hw : s.workers other = some w := by simpa [System.setWorker, heq] using hw
      have := hi.attended other w hw hf he
      simpa [System.setWorker, Store.active_finishTask, heq] using this
  | @endWorker id cancelled hworker =>
    refine same ?_
    intro other w hw hf he
    by_cases heq : other = id
    · subst heq
      simp only [Function.update_self, Option.some.injEq] at hw
      subst hw
      exact absurd rfl he
    · exact hi.attended other w (by simpa [System.setWorker, heq] using hw) hf he

/-- A step that does commit one leaves the task unstable. -/
theorem Step.breaks (h : Step digest computedDigest s a s') (hs : Stable s.store)
    (hquiet : ¬ Quiet s a s') : ¬ Stable s'.store := by
  simp only [Quiet, not_forall] at hquiet
  obtain ⟨k, actor, id, p, rfl, hk, hactive⟩ := hquiet
  cases h with
  | commitRequalification hk' hcommit =>
    rw [hk, Option.some.injEq] at hk'
    cases hk'
    exact Store.commitRequalification_unstable p.next_revision hcommit
      (by simpa using hactive) hs

end Steps

/-- A control plane whose tasks are recorded and inactive, without workers or requests. -/
structure Idle (s : System) : Prop where
  recorded : Recorded s.store
  inactive : ∀ id, s.store.active id = false
  workers : ∀ id, s.workers id = none
  requests : ∀ k, s.requests k = none

/-- Active tasks keep the configuration they were activated with in a run exactly as long as
no requalification of an active task commits. -/
theorem stable_iff_quiet (init : System) (hidle : Idle init) :
    (∀ s, RunWith (Step digest computedDigest) Quiet init s → Stable s.store) ∧
      ∀ s a s', RunWith (Step digest computedDigest) Quiet init s →
        Step digest computedDigest s a s' → ¬ Quiet s a s' → ¬ Stable s'.store := by
  have hinv : ∀ s, RunWith (Step digest computedDigest) Quiet init s →
      Inv s ∧ Stable s.store := by
    intro s hrun
    refine hrun.invariant (P := fun s => Inv s ∧ Stable s.store) ?_ ?_
    · rintro t a u ⟨hi, hs⟩ hstep hquiet
      obtain ⟨hi', hstable⟩ := hstep.preserves hi
      exact ⟨hi', hstable hquiet hs⟩
    · refine ⟨⟨hidle.recorded, ?_⟩, ?_⟩
      · intro id w hw
        simp [hidle.workers id] at hw
      · intro id row _ hactive
        simp [hidle.inactive id] at hactive
  constructor
  · intro s hrun
    exact (hinv s hrun).2
  · intro s a s' hrun hstep hquiet
    exact hstep.breaks (hinv s hrun).2 hquiet

section Sample

def sampleSystem : System := ⟨sampleStore, fun _ => none, fun _ => none⟩

def sampleComputedDigest (_ : ColumnConversionPlan) : String :=
  "5d41402abc4b2a76b9719d911017c592ae3b2c0f7f1f5b7c1b8f2a1f9d3c4e5f"

theorem sample_idle : Idle sampleSystem where
  recorded := by
    intro id row hrow
    simp only [sampleSystem, sampleStore] at hrow
    split at hrow
    · next heq =>
      cases hrow
      exact ⟨rfl, sampleConfiguration, by simp [sampleSystem, sampleStore, heq], rfl, rfl, rfl⟩
    · cases hrow
  inactive _ := rfl
  workers _ := rfl
  requests _ := rfl

theorem stable_iff_quiet_sample :
    (∀ s, RunWith (Step sampleDigest sampleComputedDigest) Quiet sampleSystem s →
        Stable s.store) ∧
      ∀ s a s', RunWith (Step sampleDigest sampleComputedDigest) Quiet sampleSystem s →
        Step sampleDigest sampleComputedDigest s a s' → ¬ Quiet s a s' → ¬ Stable s'.store :=
  stable_iff_quiet sampleDigest sampleComputedDigest sampleSystem sample_idle

/-- A start between the activity check and the commit of a requalification: the task is
starting at revision 1, and its stored configuration is revision 2. -/
theorem active_task_requalified :
    ∃ s, Run (Step sampleDigest sampleComputedDigest) sampleSystem s ∧
      s.store.active "orders" = true ∧ ¬ Stable s.store := by
  -- The requalification passes its activity check.
  have h₁ := Run.refl.tail
    (@Step.requalify sampleDigest sampleComputedDigest sampleSystem 0 1 "orders" sampleTask []
      rfl rfl rfl)
  have h₂ := h₁.tail (.checkInactive (k := 0) rfl rfl)
  have h₃ := h₂.tail (.readInstances (k := 0) rfl rfl)
  -- During its preflight another request starts the task.
  have h₄ := h₃.tail (@Step.start _ _ _ 1 1 "orders" sampleTask rfl rfl rfl)
  have h₅ := h₄.tail (.checkSavedPlan (k := 1) rfl (by decide +kernel))
  have h₆ := h₅.tail (@Step.compareSavedPlan _ _ _ 1 1 "orders" sampleTask (.ok sampleProbe) _
    rfl rfl (by decide +kernel))
  have h₇ := h₆.tail (.activate (k := 1) rfl (by rintro ⟨w, hw, -⟩; cases hw) rfl)
  -- The preflight returns and the requalification commits.
  have h₈ := h₇.tail (@Step.preflight _ _ _ 0 1 "orders" sampleTask _ (.ok sampleProbe) _ rfl
    rfl rfl)
  have h₉ := h₈.tail (.commitRequalification (k := 0) rfl rfl)
  refine ⟨_, h₉, rfl, ?_⟩
  intro hstable
  obtain ⟨revision, heffective, hm⟩ := hstable "orders" _ rfl rfl
  cases heffective
  exact absurd hm.revision_eq (by decide)

end Sample

end DatabaseSync.Control
