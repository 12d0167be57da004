import DatabaseSync.Control.Requalify
import DatabaseSync.MysqlSink.Checkpoint

/-! # Bindings across requalifications

The worker binds a task to its checkpoint row by a digest of its configuration. What
requalifications do to that binding.
-/

namespace DatabaseSync.Control

open ChangeEvent Checked MysqlSink

/-- A call of `requalify_task`, with the instances as they are by then. -/
structure RequalifyCall where
  actor : ℤ
  confirmations : List RiskConfirmation
  remote : Except String Probe
  instances : String → Option ℤ

variable (digest : DigestInput → String) (id : String)

/-- Successful calls, one after the other. -/
def requalifyAll : Store → List RequalifyCall → Except ControlError Store
  | s, [] => return s
  | s, call :: calls => do
    let (result, s) := { s with instances := call.instances }.requalifyTask digest call.actor id
      call.confirmations call.remote
    result
    requalifyAll s calls

/-- The next start finds the stored row bound to the task and resumes from it. -/
structure KeepsProgress (cp : ReplicationCheckpoint) (source sink : String)
    (task : ReplicationTask) : Prop where
  binding_eq : cp.binding = digest (binding task)
  accepted : checkBinding cp source sink (digest (binding task)) = .ok ()

section Revision

variable {digest} {id} {s s' : Store} {row row' : TaskRow}

/-- A successful requalification publishes a later revision. -/
theorem requalifyTask_revision {actor : ℤ} {confirmations : List RiskConfirmation}
    {remote : Except String Probe}
    (h : s.requalifyTask digest actor id confirmations remote = (.ok (), s'))
    (hrow : s.tasks id = some row) :
    ∃ row', s'.tasks id = some row' ∧
      row'.configurationRevision = max row.configurationRevision 1 + 1 := by
  unfold Store.requalifyTask at h
  dsimp only at h
  split at h
  · cases h
  · next task input hchecked =>
    simp only [pure_eq, bind_eq_ok, Except.ok.injEq, Prod.mk.injEq] at hchecked
    obtain ⟨_, -, loaded, htask, _, -, _, -, rfl, -⟩ := hchecked
    obtain ⟨-, hloaded⟩ := Store.task_ok htask
    rw [hrow, Option.some.injEq] at hloaded
    split at h
    · cases h
    · next snapshot hpreflight =>
      have hnext : snapshot.configurationRevision = nextRevision loaded := by
        simp only [preflightTaskWithSnapshot, pure_eq, bind_eq_ok, Except.ok.injEq] at hpreflight
        obtain ⟨probe, -, rfl⟩ := hpreflight
        rfl
      split at h
      · cases h
      · next store hcommit =>
        cases h
        obtain ⟨old, -, -, -, htasks, -, -⟩ := Store.commitRequalification_ok hcommit
        refine ⟨_, by rw [htasks, Function.update_self], ?_⟩
        exact hnext.trans (by rw [nextRevision, hloaded])

/-- Calls never lower the revision, and any call raises it. -/
theorem requalifyAll_revision {calls : List RequalifyCall}
    (h : requalifyAll digest id s calls = .ok s') (hrow : s.tasks id = some row)
    (hrow' : s'.tasks id = some row') :
    row.configurationRevision + calls.length ≤ row'.configurationRevision := by
  induction calls generalizing s row with
  | nil =>
    simp only [requalifyAll, pure_eq, Except.ok.injEq] at h
    subst h
    rw [hrow, Option.some.injEq] at hrow'
    simp [hrow']
  | cons call calls ih =>
    simp only [requalifyAll, bind_eq_ok] at h
    obtain ⟨⟨⟩, hcall, hrest⟩ := h
    obtain ⟨middle, hmiddle, hrevision⟩ := requalifyTask_revision (Prod.ext hcall rfl) hrow
    have := ih hrest hmiddle
    rw [List.length_cons]
    omega

end Revision

/-- Successful requalifications keep the progress of a task exactly if there are none. -/
theorem keepsProgress_iff_not_requalified {s s' : Store} {calls : List RequalifyCall}
    {task task' : ReplicationTask} {cp : ReplicationCheckpoint} {source sink : String}
    (htask : s.task id = .ok task) (hstored : KeepsProgress digest cp source sink task)
    (hcalls : requalifyAll digest id s calls = .ok s') (htask' : s'.task id = .ok task')
    (hcollision : digest (binding task) = digest (binding task') →
      binding task = binding task') :
    KeepsProgress digest cp source sink task' ↔ calls = [] := by
  obtain ⟨-, hrow⟩ := Store.task_ok htask
  obtain ⟨-, hrow'⟩ := Store.task_ok htask'
  constructor
  · intro hkept
    have hbinding := hcollision (hstored.binding_eq.symm.trans hkept.binding_eq)
    simp only [binding, DigestInput.binding.injEq] at hbinding
    have := requalifyAll_revision hcalls hrow hrow'
    exact List.length_eq_zero_iff.mp (by omega)
  · rintro rfl
    simp only [requalifyAll, pure_eq, Except.ok.injEq] at hcalls
    subst hcalls
    rw [htask, Except.ok.injEq] at htask'
    exact htask' ▸ hstored

section Sample

/-- The checkpoint row that the sample task has stored at its first revision. -/
def sampleCheckpoint : ReplicationCheckpoint :=
  ⟨"orders", "3e11fa47-71ca-11e1-9e33-c80aa9429562", "8a94f357-aab4-11df-86ab-c80aa9429489",
    "d4361fceea82ec691cd6dd95a47f0f62364ad90d3ce882a69d9bd18a42b40eff", "binlog",
    "binlog.000001", 400, none, none, 3, 2, 2, "incremental", 0, none⟩

theorem sample_stored : KeepsProgress sampleDigest sampleCheckpoint
    "3e11fa47-71ca-11e1-9e33-c80aa9429562" "8a94f357-aab4-11df-86ab-c80aa9429489" sampleTask :=
  ⟨by decide +kernel, by decide +kernel⟩

/-- The sample task after a requalification that finds the same plans. -/
def requalifiedTask : ReplicationTask :=
  let snapshot := planSnapshot sampleDigest "orders" 2 sampleProbe []
  ⟨"orders", Store.persistPlanSnapshot (Store.updateTask sampleTask.row sampleInput) snapshot,
    false, none⟩

def sampleCall : RequalifyCall := ⟨1, [], .ok sampleProbe, sampleStore.instances⟩

theorem sample_requalified : ∃ s, requalifyAll sampleDigest "orders" sampleStore [sampleCall] =
    .ok s ∧ s.task "orders" = .ok requalifiedTask :=
  ⟨_, rfl, rfl⟩

theorem keepsProgress_iff_not_requalified_sample :
    KeepsProgress sampleDigest sampleCheckpoint "3e11fa47-71ca-11e1-9e33-c80aa9429562"
      "8a94f357-aab4-11df-86ab-c80aa9429489" requalifiedTask ↔ [sampleCall] = [] := by
  obtain ⟨s, hcalls, htask⟩ := sample_requalified
  refine keepsProgress_iff_not_requalified sampleDigest "orders" (s := sampleStore) rfl
    sample_stored hcalls htask ?_
  intro h
  exact absurd h (by decide +kernel)

/-- A requalification that finds nothing changed: the sink refuses the stored checkpoint. -/
theorem requalified_progress_lost :
    KeepsProgress sampleDigest sampleCheckpoint "3e11fa47-71ca-11e1-9e33-c80aa9429562"
        "8a94f357-aab4-11df-86ab-c80aa9429489" sampleTask ∧
      (∃ s, requalifyAll sampleDigest "orders" sampleStore [sampleCall] = .ok s ∧
        s.task "orders" = .ok requalifiedTask) ∧
      inputFromTask requalifiedTask = inputFromTask sampleTask ∧
      checkBinding sampleCheckpoint "3e11fa47-71ca-11e1-9e33-c80aa9429562"
          "8a94f357-aab4-11df-86ab-c80aa9429489" (sampleDigest (binding requalifiedTask)) =
        .error (.other
          "saved checkpoint belongs to a different source, sink or task configuration") ∧
      ¬ KeepsProgress sampleDigest sampleCheckpoint "3e11fa47-71ca-11e1-9e33-c80aa9429562"
        "8a94f357-aab4-11df-86ab-c80aa9429489" requalifiedTask := by
  refine ⟨sample_stored, sample_requalified, rfl, by decide +kernel, ?_⟩
  intro hkept
  exact absurd hkept.binding_eq (by decide +kernel)

end Sample

end DatabaseSync.Control
