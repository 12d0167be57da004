import DatabaseSync.Control.LiveWorker

/-! # Ownership of target tables

A worker publishes the server of its sink with its checkpoint before `mark_running` reads what
the other active tasks have published. Of two tasks that write the same tables of one server,
the one that reads last sees the other.
-/

namespace DatabaseSync.Control

open Checked Transition

theorem overlaps_comm (a b : List TableMapping) : overlaps a b = overlaps b a := by
  rw [Bool.eq_iff_iff]
  simp only [overlaps, List.any_eq_true, Bool.and_eq_true, beq_iff_eq]
  constructor
  · rintro ⟨x, hx, y, hy, hschema, htable⟩
    exact ⟨y, hy, x, hx, hschema.symm, htable.symm⟩
  · rintro ⟨x, hx, y, hy, hschema, htable⟩
    exact ⟨y, hy, x, hx, hschema.symm, htable.symm⟩

namespace Store

variable {s s' : Store} {id other : String} {checkpoint : Checkpoint}

/-- The sink server that the stored checkpoint of a task names. -/
def server (s : Store) (id : String) : Option String :=
  ((s.runtime id).bind (·.checkpoint)).map (·.sinkUuid)

theorem server_setRuntime {runtime : TaskRuntime} : (s.setRuntime id runtime).server other =
    if other = id then runtime.checkpoint.map (·.sinkUuid) else s.server other := by
  unfold server setRuntime
  by_cases h : other = id
  · subst h
    simp
  · simp [h]

theorem server_markStopping : (s.markStopping id).server other = s.server other := by
  unfold markStopping
  cases hr : s.runtime id with
  | none => rfl
  | some runtime =>
    dsimp only
    split
    · rw [server_setRuntime]
      split
      · next heq => simp [heq, server, hr]
      · rfl
    · rfl

theorem server_finishTask {error : Option String} {blocked : Bool} :
    (s.finishTaskWithState id error blocked).server other = s.server other := by
  unfold finishTaskWithState
  cases hr : s.runtime id with
  | none => rfl
  | some runtime =>
    dsimp only
    rw [server_setRuntime]
    split
    · next heq => simp [heq, server, hr]
    · rfl

theorem server_saveCheckpoint (h : (s.state id).isSome = true) :
    (s.saveCheckpoint id checkpoint).server other =
      if other = id then some checkpoint.sinkUuid else s.server other := by
  unfold saveCheckpoint
  cases hr : s.runtime id with
  | none => simp [state, hr] at h
  | some runtime => exact server_setRuntime

theorem server_markRunning (h : s.markRunning id checkpoint = .ok s')
    (hstate : (s.state id).isSome = true) : s'.server other =
      if other = id then some checkpoint.sinkUuid else s.server other := by
  simp only [markRunning, throw_eq, pure_eq, error_bind, bind_eq_ok, guard_eq_ok] at h
  obtain ⟨task, -, -, h⟩ := h
  cases hr : s.runtime id with
  | none => simp [state, hr] at hstate
  | some runtime =>
    simp only [hr, Except.ok.injEq] at h
    subst h
    exact server_setRuntime

/-- `mark_running` succeeds only if no other active task writes the same tables. -/
theorem markRunning_exclusive (h : s.markRunning id checkpoint = .ok s')
    (hother : other ∈ s.taskIds) (hne : other ≠ id) (hactive : s.active other = true)
    (hserver : s.server other = some checkpoint.sinkUuid) {row row' : TaskRow}
    (hrow : s.tasks id = some row) (hrow' : s.tasks other = some row')
    (hdatabase : row'.configuration.sinkDatabase = row.configuration.sinkDatabase) :
    overlaps row'.configuration.mappings row.configuration.mappings = false := by
  simp only [markRunning, throw_eq, pure_eq, error_bind, bind_eq_ok, guard_eq_ok] at h
  obtain ⟨task, htask, hothers, -⟩ := h
  obtain ⟨-, htaskRow⟩ := task_ok htask
  obtain rfl : task.row = row := Option.some.inj (htaskRow.symm.trans hrow)
  obtain ⟨saved, hsaved, hsink⟩ := Option.map_eq_some_iff.mp hserver
  by_contra hoverlaps
  refine hothers (List.any_eq_true.mpr ⟨(row'.configuration, saved), ?_, ?_⟩)
  · refine List.mem_filterMap.mpr ⟨other, hother, ?_⟩
    simp [hrow', hsaved, hne, hactive]
  · rw [Bool.not_eq_false] at hoverlaps
    simp [hsink, hdatabase, hoverlaps]

theorem taskIds_markStopping : (s.markStopping id).taskIds = s.taskIds := by
  unfold markStopping
  split
  · split <;> rfl
  · rfl

theorem taskIds_saveCheckpoint : (s.saveCheckpoint id checkpoint).taskIds = s.taskIds := by
  unfold saveCheckpoint
  split <;> rfl

theorem taskIds_finishTask {error : Option String} {blocked : Bool} :
    (s.finishTaskWithState id error blocked).taskIds = s.taskIds := by
  unfold finishTaskWithState
  split <;> rfl

theorem taskIds_markRunning (h : s.markRunning id checkpoint = .ok s') :
    s'.taskIds = s.taskIds := by
  simp only [markRunning, throw_eq, pure_eq, error_bind, bind_eq_ok, guard_eq_ok] at h
  obtain ⟨task, -, -, h⟩ := h
  cases hr : s.runtime id with
  | none =>
    simp only [hr, Except.ok.injEq] at h
    rw [h]
  | some runtime =>
    simp only [hr, Except.ok.injEq] at h
    rw [← h]
    rfl

theorem taskIds_activateTask {actor revision : ℤ}
    (h : s.activateTask id actor revision = .ok s') : s'.taskIds = s.taskIds := by
  unfold activateTask beginTaskAtRevision at h
  simp only [throw_eq, pure_eq, error_bind, bind_eq_ok, guard_eq_ok, Except.ok.injEq] at h
  obtain ⟨task, -, _, -, -, -, -, -, -, rfl⟩ := h
  rfl

end Store

namespace Workers

variable {s s' : Process} {a : Action} {id other : String} {n m : ℕ} {t u : Thread}
  {checkpoint : Checkpoint} {store : Store}

/-- The server that a worker has published. -/
def Stage.server : Stage → Option String
  | .saved checkpoint | .marked checkpoint => some checkpoint.sinkUuid
  | .spawned | .connected _ | .finished | .ended => none

/-- Past `mark_running` and not finished. -/
def Stage.isMarked : Stage → Bool
  | .marked _ => true
  | .spawned | .connected _ | .saved _ | .finished | .ended => false

theorem Stage.isLive_of_server {stage : Stage} {server : String}
    (h : stage.server = some server) : stage.isLive = true := by
  cases stage <;> first | rfl | cases h

theorem Stage.server_of_isMarked {stage : Stage} (h : stage.isMarked = true) :
    ∃ server, stage.server = some server := by
  cases stage with
  | marked checkpoint => exact ⟨checkpoint.sinkUuid, rfl⟩
  | spawned | connected _ | saved _ | finished | ended => cases h

/-- A start that has activated its task finds it active when it makes the thread. -/
def Activated (s : Process) : Prop :=
  ∀ id, s.lock = some (.activated id) → s.store.active id = true

theorem Activated.quiet (h : Activated s) (ha : a ≠ .shutdownWrite) : Quiet s a s' := by
  cases a with
  | shutdownWrite => exact absurd rfl ha
  | spawn => exact h
  | _ => trivial

theorem Activated.of_lock (h : ∀ id, s.lock ≠ some (.activated id)) : Activated s :=
  fun id hlock => absurd hlock (h id)

theorem Activated.of_store (h : Activated s) (hlock : s'.lock = s.lock)
    (hactive : ∀ id, s.lock = some (.activated id) → s.store.active id = true →
      s'.store.active id = true) : Activated s' := by
  intro id hid
  rw [hlock] at hid
  exact hactive id hid (h id hid)

/-- Only the final `UPDATE` of a shutdown changes the state of a task between its activation and
its thread. -/
theorem Activated.step (h : Activated s) (hi : Inv s) (hstep : Step s a s')
    (ha : a ≠ .shutdownWrite) : Activated s' := by
  have hlive : ∀ {n t}, s.threads n = some t → t.stage.isLive = true →
      s.store.active t.task = true := fun ht hl => (hi.oneLiveWorker.attended _ _ ht hl).2
  cases hstep with
  | startTask _ _ _ => exact .of_lock fun _ h => by cases h
  | @activate actor revision id store _ hstore =>
    rintro other ⟨⟩
    obtain ⟨_, -, -, -, -, -, hruntime⟩ := Store.beginTaskAtRevision_ok hstore
    change store.active id = true
    simp [Store.active, hruntime, TaskState.isActive]
  | spawn _ _ => exact .of_lock fun _ h => by cases h
  | spawnFails _ => exact .of_lock fun _ h => by cases h
  | register _ => exact .of_lock fun _ h => by cases h
  | stopTask _ _ _ _ => exact .of_lock fun _ h => by cases h
  | cancel _ _ => exact .of_lock fun _ h => by cases h
  | deleteTask _ _ => exact .of_lock fun _ h => by cases h
  | deleteRow _ _ => exact .of_lock fun _ h => by cases h
  | forget _ => exact .of_lock fun _ h => by cases h
  | refuse _ => exact .of_lock fun _ h => by cases h
  | shutdownTasks _ _ => exact h
  | shutdownCancel _ _ _ => exact h
  | shutdownWrite _ _ => exact absurd rfl ha
  | connect _ _ _ => exact h
  | saveFirst _ _ =>
    exact h.of_store rfl fun id _ hid => (Store.active_saveCheckpoint _).trans hid
  | markFirst ht hstage hstore =>
    obtain ⟨-, hactive⟩ := Store.markRunning_ok hstore (hlive ht (by rw [hstage]; rfl))
    exact h.of_store rfl fun id _ hid => (hactive id).trans hid
  | saveNext _ _ _ =>
    exact h.of_store rfl fun id _ hid => (Store.active_saveCheckpoint _).trans hid
  | markNext ht hstage hstore =>
    obtain ⟨-, hactive⟩ := Store.markRunning_ok hstore (hlive ht (by rw [hstage]; rfl))
    exact h.of_store rfl fun id _ hid => (hactive id).trans hid
  | @finish n t error blocked ht hl =>
    refine h.of_store rfl fun id hlock hid => ?_
    have hne : id ≠ t.task := by
      rintro rfl
      obtain ⟨-, -, -, hidle⟩ := (hi.slot t.task).of_live
        ((Process.live_of_thread ht).trans (Thread.claim_of_live hl))
      exact hidle hlock
    refine (Store.active_finishTask error blocked).trans ?_
    rw [if_neg hne]
    exact hid
  | endThread _ _ => exact h

/-- The rows of the tasks are listed; a worker's server is stored; no two workers past
`mark_running` own the same table. -/
structure Owned (s : Process) : Prop where
  listed : ∀ id row, s.store.tasks id = some row → id ∈ s.store.taskIds
  published : ∀ n t server, s.threads n = some t → t.stage.server = some server →
    s.store.server t.task = some server
  exclusive : ∀ m n t u, s.threads m = some t → s.threads n = some u →
    t.stage.isMarked = true → u.stage.isMarked = true → t.task ≠ u.task →
    t.stage.server = u.stage.server → ∀ row row', s.store.tasks t.task = some row →
    s.store.tasks u.task = some row' →
    row.configuration.sinkDatabase = row'.configuration.sinkDatabase →
    overlaps row.configuration.mappings row'.configuration.mappings = false

/-- Rows are only removed, and keep their configuration. -/
structure KeepsRows (s s' : Store) : Prop where
  listed : ∀ id row, s'.tasks id = some row → id ∈ s.taskIds → id ∈ s'.taskIds
  rows : ∀ id row', s'.tasks id = some row' →
    ∃ row, s.tasks id = some row ∧ row.configuration = row'.configuration

theorem KeepsRows.of_eq {s s' : Store} (hids : s'.taskIds = s.taskIds)
    (htasks : s'.tasks = s.tasks) : KeepsRows s s' := by
  refine ⟨fun id _ _ hid => hids ▸ hid, ?_⟩
  intro id row' hrow'
  rw [htasks] at hrow'
  exact ⟨row', hrow', rfl⟩

/-- A worker with a server was one before, with the same server and on the same side of
`mark_running`. -/
def KeepsHolders (s s' : Process) : Prop :=
  ∀ n t server, s'.threads n = some t → t.stage.server = some server →
    ∃ u, s.threads n = some u ∧ u.task = t.task ∧ u.stage.server = some server ∧
      (t.stage.isMarked = true → u.stage.isMarked = true)

theorem KeepsHolders.refl (h : s'.threads = s.threads) : KeepsHolders s s' := by
  intro n t server ht hserver
  rw [h] at ht
  exact ⟨t, ht, rfl, hserver, id⟩

theorem KeepsHolders.setThread (store : Store) (lock : Option Held) (u : Thread)
    (ht : s.threads n = some t) (htask : u.task = t.task)
    (hserver : ∀ server, u.stage.server = some server → t.stage.server = some server)
    (hmarked : u.stage.isMarked = true → t.stage.isMarked = true) :
    KeepsHolders s (((s.setStore store).setThread n u).setLock lock) := by
  intro m v server hv hvserver
  by_cases h : m = n
  · subst h
    obtain rfl : u = v := by simpa [Process.setThread, Process.setLock] using hv
    exact ⟨t, ht, htask.symm, hserver server hvserver, hmarked⟩
  · refine ⟨v, ?_, rfl, hvserver, id⟩
    simpa [Process.setThread, Process.setLock, Process.setStore, h] using hv

theorem Owned.keeps (h : Owned s) (hrows : KeepsRows s.store s'.store)
    (hholders : KeepsHolders s s')
    (hservers : ∀ n t server, s.threads n = some t → t.stage.server = some server →
      s'.store.server t.task = s.store.server t.task) : Owned s' where
  listed id row hrow := by
    obtain ⟨old, hold, -⟩ := hrows.rows id row hrow
    exact hrows.listed id row hrow (h.listed id old hold)
  published n t server ht hserver := by
    obtain ⟨u, hu, htask, huserver, -⟩ := hholders n t server ht hserver
    rw [← htask, hservers n u server hu huserver]
    exact h.published n u server hu huserver
  exclusive m n t u ht hu htmarked humarked hne hsame row row' hrow hrow' hdatabase := by
    obtain ⟨server, hserver⟩ := Stage.server_of_isMarked htmarked
    obtain ⟨t₀, ht₀, httask, htserver, htm⟩ := hholders m t server ht hserver
    obtain ⟨u₀, hu₀, hutask, huserver, hum⟩ := hholders n u server hu (hsame ▸ hserver)
    obtain ⟨row₀, hrow₀, hconf⟩ := hrows.rows t.task row hrow
    obtain ⟨row₀', hrow₀', hconf'⟩ := hrows.rows u.task row' hrow'
    rw [← hconf, ← hconf']
    rw [← hconf, ← hconf'] at hdatabase
    exact h.exclusive m n t₀ u₀ ht₀ hu₀ (htm htmarked) (hum humarked) (by rwa [httask, hutask])
      (htserver.trans huserver.symm) row₀ row₀' (httask ▸ hrow₀) (hutask ▸ hrow₀') hdatabase

/-- Two workers with a server work for two tasks. -/
theorem Inv.task_ne (hi : Inv s) (ht : s.threads m = some t) (hu : s.threads n = some u)
    (htlive : t.stage.isLive = true) (hulive : u.stage.isLive = true) (hne : m ≠ n) :
    t.task ≠ u.task :=
  fun h => hne (hi.oneLiveWorker.unique m n t u ht hu htlive hulive h)

theorem Inv.state_isSome (hi : Inv s) (ht : s.threads n = some t)
    (hlive : t.stage.isLive = true) : (s.store.state t.task).isSome = true := by
  obtain ⟨-, hactive⟩ := hi.oneLiveWorker.attended n t ht hlive
  rw [Store.active_eq_state, Option.any_eq_true] at hactive
  obtain ⟨state, hstate, -⟩ := hactive
  simp [hstate]

theorem Process.setThread_self (h : s.threads n = some t) : s.setThread n t = s := by
  obtain ⟨store, threads, workers, lock, shutdowns⟩ := s
  have hthreads : Function.update threads n (some t) = threads := by
    rw [← h, Function.update_eq_self]
  unfold setThread
  rw [hthreads]

theorem Process.threads_setThread {v : Thread} (h : ((s.setStore store).setThread n u).threads m =
    some v) : (m = n ∧ v = u) ∨ (m ≠ n ∧ s.threads m = some v) := by
  change Function.update s.threads n (some u) m = some v at h
  by_cases heq : m = n
  · subst heq
    rw [Function.update_self, Option.some.injEq] at h
    exact .inl ⟨rfl, h.symm⟩
  · rw [Function.update_of_ne heq] at h
    exact .inr ⟨heq, h⟩

/-- A live worker publishes a server. If it is past `mark_running` then, no other one past it
owns one of its tables there. -/
theorem Owned.publish (h : Owned s) (hi : Inv s) (ht : s.threads n = some t)
    (hlive : t.stage.isLive = true) (htask : u.task = t.task) {server : String}
    (hserver : u.stage.server = some server) (hids : store.taskIds = s.store.taskIds)
    (htasks : store.tasks = s.store.tasks)
    (hstored : ∀ id, store.server id =
      if id = t.task then some server else s.store.server id)
    (hchecked : u.stage.isMarked = true → ∀ m v, m ≠ n → s.threads m = some v →
      v.stage.isMarked = true → v.stage.server = some server → ∀ row row',
      s.store.tasks t.task = some row → s.store.tasks v.task = some row' →
      row'.configuration.sinkDatabase = row.configuration.sinkDatabase →
      overlaps row'.configuration.mappings row.configuration.mappings = false) :
    Owned ((s.setStore store).setThread n u) where
  listed id row hrow := by
    change store.tasks id = some row at hrow
    change id ∈ store.taskIds
    rw [htasks] at hrow
    rw [hids]
    exact h.listed id row hrow
  published m v published hv hpublished := by
    change store.server v.task = some published
    rcases Process.threads_setThread hv with ⟨rfl, rfl⟩ | ⟨hne, hv⟩
    · rw [hstored, if_pos htask, ← hpublished, hserver]
    · have hvtask : v.task ≠ t.task :=
        hi.task_ne hv ht (Stage.isLive_of_server hpublished) hlive hne
      rw [hstored, if_neg hvtask]
      exact h.published m v published hv hpublished
  exclusive m k v w hv hw hvmarked hwmarked hne hsame row row' hrow hrow' hdatabase := by
    change store.tasks v.task = some row at hrow
    change store.tasks w.task = some row' at hrow'
    rw [htasks] at hrow hrow'
    rcases Process.threads_setThread hv with ⟨rfl, rfl⟩ | ⟨hm, hv₀⟩
    · rcases Process.threads_setThread hw with ⟨rfl, rfl⟩ | ⟨hk, hw₀⟩
      · exact absurd rfl hne
      · rw [overlaps_comm]
        exact hchecked hvmarked k w hk hw₀ hwmarked (hsame ▸ hserver) row row' (htask ▸ hrow)
          hrow' hdatabase.symm
    · rcases Process.threads_setThread hw with ⟨rfl, rfl⟩ | ⟨hk, hw₀⟩
      · exact hchecked hwmarked m v hm hv₀ hvmarked (hsame.trans hserver) row' row
          (htask ▸ hrow') hrow hdatabase
      · exact h.exclusive m k v w hv₀ hw₀ hvmarked hwmarked hne hsame row row' hrow hrow'
          hdatabase

/-- A checkpoint is saved: the server is new for a worker that `mark_running` has not passed,
and the old one for any other. -/
theorem Owned.save (h : Owned s) (hi : Inv s) (ht : s.threads n = some t)
    (hlive : t.stage.isLive = true) (htask : u.task = t.task)
    (hserver : u.stage.server = some checkpoint.sinkUuid)
    (hmarked : u.stage.isMarked = true →
      t.stage.isMarked = true ∧ t.stage.server = some checkpoint.sinkUuid) :
    Owned ((s.setStore (s.store.saveCheckpoint t.task checkpoint)).setThread n u) := by
  refine h.publish hi ht hlive htask hserver Store.taskIds_saveCheckpoint
    Store.tasks_saveCheckpoint ?_ ?_
  · intro id
    exact Store.server_saveCheckpoint (hi.state_isSome ht hlive)
  · intro humarked m v hm hv hvmarked hvserver row row' hrow hrow' hdatabase
    obtain ⟨htmarked, htserver⟩ := hmarked humarked
    have hvlive : v.stage.isLive = true := Stage.isLive_of_server hvserver
    exact h.exclusive m n v t hv ht hvmarked htmarked (hi.task_ne hv ht hvlive hlive hm)
      (hvserver.trans htserver.symm) row' row hrow' hrow hdatabase

/-- `mark_running` reads what every worker past it has published. -/
theorem Owned.mark (h : Owned s) (hi : Inv s) (ht : s.threads n = some t)
    (hlive : t.stage.isLive = true) (htask : u.task = t.task)
    (hserver : u.stage.server = some checkpoint.sinkUuid)
    (hstore : s.store.markRunning t.task checkpoint = .ok store) :
    Owned ((s.setStore store).setThread n u) := by
  obtain ⟨htasks, -⟩ := Store.state_markRunning hstore
  refine h.publish hi ht hlive htask hserver (Store.taskIds_markRunning hstore) htasks ?_ ?_
  · intro id
    exact Store.server_markRunning hstore (hi.state_isSome ht hlive)
  · intro _ m v hm hv _ hvserver row row' hrow hrow' hdatabase
    have hvlive : v.stage.isLive = true := Stage.isLive_of_server hvserver
    obtain ⟨-, hvactive⟩ := hi.oneLiveWorker.attended m v hv hvlive
    exact Store.markRunning_exclusive hstore (h.listed v.task row' hrow')
      (hi.task_ne hv ht hvlive hlive hm) hvactive (h.published m v _ hv hvserver) hrow hrow'
      hdatabase

theorem Owned.step (h : Owned s) (hi : Inv s) (hstep : Step s a s')
    (ha : a ≠ .shutdownWrite) : Owned s' := by
  have hsame : ∀ {s' : Process}, s'.store = s.store → s'.threads = s.threads → Owned s' := by
    intro s' hstore hthreads
    refine h.keeps (.of_eq (by rw [hstore]) (by rw [hstore])) (.refl hthreads) ?_
    intro n t server _ _
    rw [hstore]
  cases hstep with
  | startTask _ _ _ => exact hsame rfl rfl
  | @activate actor revision id store hlock hstore =>
    obtain ⟨row, hrow, -, hinactive, htasks, -, hruntime⟩ := Store.beginTaskAtRevision_ok hstore
    refine h.keeps ?_ (.refl rfl) ?_
    · refine ⟨fun _ _ _ hid => Store.taskIds_activateTask hstore ▸ hid, ?_⟩
      intro other row' hrow'
      change store.tasks other = some row' at hrow'
      rw [htasks] at hrow'
      by_cases heq : other = id
      · subst heq
        rw [Function.update_self, Option.some.injEq] at hrow'
        exact ⟨row, hrow, hrow' ▸ rfl⟩
      · rw [Function.update_of_ne heq] at hrow'
        exact ⟨row', hrow', rfl⟩
    · intro n t server ht hserver
      have hne : t.task ≠ id := by
        rintro rfl
        obtain ⟨-, hactive⟩ := hi.oneLiveWorker.attended n t ht (Stage.isLive_of_server hserver)
        rw [hinactive] at hactive
        cases hactive
      change store.server t.task = s.store.server t.task
      simp [Store.server, hruntime, hne]
  | @spawn id n _ hthread =>
    refine h.keeps (.of_eq rfl rfl) ?_ fun _ _ _ _ _ => rfl
    intro m v server hv hvserver
    by_cases heq : m = n
    · subst heq
      obtain rfl : ⟨id, .spawned, false, false⟩ = v := by
        simpa [Process.setThread, Process.setLock] using hv
      cases hvserver
    · refine ⟨v, ?_, rfl, hvserver, fun h => h⟩
      simpa [Process.setThread, Process.setLock, heq] using hv
  | spawnFails _ =>
    exact h.keeps (.of_eq Store.taskIds_finishTask Store.tasks_finishTask) (.refl rfl)
      fun _ _ _ _ _ => Store.server_finishTask
  | register _ => exact hsame rfl rfl
  | @stopTask actor id n t _ _ _ hthread =>
    exact h.keeps (.of_eq Store.taskIds_markStopping Store.tasks_markStopping)
      (.setThread _ _ { t with stopRequested := true } hthread rfl (fun _ h => h) fun h => h)
      fun _ _ _ _ _ => Store.server_markStopping
  | @cancel n t _ hthread =>
    exact h.keeps (.of_eq rfl rfl) (.setThread s.store _
      { t with cancelled := true } hthread rfl (fun _ h => h) fun h => h)
      fun _ _ _ _ _ => rfl
  | deleteTask _ _ => exact hsame rfl rfl
  | @deleteRow actor id store _ hstore =>
    obtain ⟨hinactive, hids, htasks, hruntime⟩ := Store.deleteTask_ok hstore
    refine h.keeps ⟨?_, ?_⟩ (.refl rfl) ?_
    · intro other row hrow hid
      change store.tasks other = some row at hrow
      change other ∈ store.taskIds
      rw [htasks] at hrow
      have hne : other ≠ id := by
        rintro rfl
        simp at hrow
      rw [hids]
      simp [hid, hne]
    · intro other row' hrow'
      change store.tasks other = some row' at hrow'
      rw [htasks] at hrow'
      by_cases heq : other = id
      · subst heq
        simp at hrow'
      · rw [Function.update_of_ne heq] at hrow'
        exact ⟨row', hrow', rfl⟩
    · intro n t server ht hserver
      have hne : t.task ≠ id := by
        rintro rfl
        obtain ⟨-, hactive⟩ := hi.oneLiveWorker.attended n t ht (Stage.isLive_of_server hserver)
        rw [hinactive] at hactive
        cases hactive
      change store.server t.task = s.store.server t.task
      simp [Store.server, hruntime, hne]
  | forget _ => exact hsame rfl rfl
  | refuse _ => exact hsame rfl rfl
  | shutdownTasks _ _ => exact hsame rfl rfl
  | @shutdownCancel k n taken id t _ _ hthread =>
    exact h.keeps (.of_eq rfl rfl) (.setThread s.store s.lock
      { t with cancelled := true } hthread rfl (fun _ h => h) fun h => h)
      fun _ _ _ _ _ => rfl
  | shutdownWrite _ _ => exact absurd rfl ha
  | @connect n t task sinkUuid hthread _ _ =>
    exact h.keeps (.of_eq rfl rfl) (.setThread s.store s.lock
      { t with stage := .connected sinkUuid } hthread rfl
      (fun _ h => by cases h) fun h => by cases h)
      fun _ _ _ _ _ => rfl
  | @saveFirst n t checkpoint hthread hstage =>
    exact h.save hi hthread (by rw [hstage]; rfl) rfl rfl fun h => by cases h
  | @markFirst n t checkpoint store hthread hstage hstore =>
    exact h.mark hi hthread (by rw [hstage]; rfl) rfl rfl hstore
  | @saveNext n t saved checkpoint hthread hstage hserver =>
    refine h.save hi hthread (by rw [hstage]; rfl) rfl rfl fun _ => ?_
    rw [hstage, hserver]
    exact ⟨rfl, rfl⟩
  | @markNext n t checkpoint store hthread hstage hstore =>
    have hmark := h.mark (u := t) hi hthread (by rw [hstage]; rfl) rfl (by rw [hstage]; rfl)
      hstore
    rwa [Process.setThread_self (s := s.setStore store) hthread] at hmark
  | @finish n t error blocked hthread _ =>
    exact h.keeps (.of_eq Store.taskIds_finishTask Store.tasks_finishTask)
      (.setThread _ s.lock { t with stage := .finished } hthread rfl
      (fun _ h => by cases h) fun h => by cases h)
      fun _ _ _ _ _ => Store.server_finishTask
  | @endThread n t hthread _ =>
    exact h.keeps (.of_eq rfl rfl) (.setThread s.store s.lock
      { t with stage := .ended } hthread rfl
      (fun _ h => by cases h) fun h => by cases h) fun _ _ _ _ _ => rfl

theorem Owned.init (h : Fresh s) : Owned s where
  listed := h.listed
  published n t server ht _ := by
    rw [h.threads] at ht
    cases ht
  exclusive m n t u ht _ _ _ _ _ := by
    rw [h.threads] at ht
    cases ht

/-- In every run of the operations, two tasks past `mark_running` and not finished whose
checkpoints name the same sink server and whose sink database is the same share no target
table. -/
theorem exclusive_ownership {init : Process} (hfresh : Fresh init)
    (hrun : RunWith Step (fun _ a _ => a ≠ .shutdownWrite) init s)
    (ht : s.threads m = some t) (hu : s.threads n = some u) (htmarked : t.stage.isMarked = true)
    (humarked : u.stage.isMarked = true) (htasks : t.task ≠ u.task)
    (hserver : s.store.server t.task = s.store.server u.task) {row row' : TaskRow}
    (hrow : s.store.tasks t.task = some row) (hrow' : s.store.tasks u.task = some row')
    (hdatabase : row.configuration.sinkDatabase = row'.configuration.sinkDatabase) :
    overlaps row.configuration.mappings row'.configuration.mappings = false := by
  obtain ⟨-, howned, -⟩ := hrun.invariant (P := fun s => Inv s ∧ Owned s ∧ Activated s)
    (fun _ _ _ ⟨hi, howned, hactivated⟩ hstep ha =>
      ⟨hi.step hstep (hactivated.quiet ha), howned.step hi hstep ha, hactivated.step hi hstep ha⟩)
    ⟨Inv.init hfresh, Owned.init hfresh, .of_lock (by rw [hfresh.lock]; nofun)⟩
  obtain ⟨server, htserver⟩ := Stage.server_of_isMarked htmarked
  obtain ⟨server', huserver⟩ := Stage.server_of_isMarked humarked
  have hsame : server = server' := by
    have hstored := howned.published m t server ht htserver
    rw [hserver, howned.published n u server' hu huserver, Option.some.injEq] at hstored
    exact hstored.symm
  exact howned.exclusive m n t u ht hu htmarked humarked htasks
    (by rw [htserver, huserver, hsame]) row row' hrow hrow' hdatabase

section Sample

def invoiceConfiguration : Configuration :=
  { sampleConfiguration with
    name := "invoices"
    sinkId := "mysql-c"
    mappings := [⟨"shop", "invoices", "shop", "invoices", [], []⟩] }

/-- Two tasks that write two tables of one server through two instances. -/
def twoTasks : Process :=
  { sampleProcess with store := { sampleStore with
      taskIds := ["orders", "invoices"]
      instances := fun id =>
        if id = "mysql-a" ∨ id = "mysql-b" ∨ id = "mysql-c" then some 1 else none
      tasks := fun id =>
        if id = "orders" then some ⟨sampleConfiguration, 1, 1, none⟩
        else if id = "invoices" then some ⟨invoiceConfiguration, 1, 1, none⟩
        else none } }

theorem twoTasks_fresh : Fresh twoTasks where
  inactive _ := rfl
  listed := by
    intro id row hrow
    simp only [twoTasks] at hrow
    split at hrow
    · next heq => simp [twoTasks, heq]
    · split at hrow
      · next heq => simp [twoTasks, heq]
      · cases hrow
  threads _ := rfl
  workers _ := rfl
  lock := rfl
  shutdowns _ := rfl

theorem Process.not_full_of_one (id₀ : String) (h : ∀ id, s.working id → id = id₀) :
    ¬ s.full := by
  rintro ⟨ids, hnodup, hlength, hworking⟩
  match ids, hlength with
  | id :: id' :: ids, _ =>
    have hid : id = id₀ := h id (hworking id (by simp))
    have hid' : id' = id₀ := h id' (hworking id' (by simp))
    rw [List.nodup_cons] at hnodup
    exact hnodup.1 (by simp [hid, hid'])

def markedCheckpoint : Checkpoint :=
  ⟨"3e11fa47-71ca-11e1-9e33-c80aa9429562", "8f0b2a10-52c6-11ee-8c99-0242ac120002", "position",
    "binlog.000001", 4, none, 0, 0, "incremental", 0⟩

def ordersWorker : Thread := ⟨"orders", .marked markedCheckpoint, false, false⟩

def invoicesWorker : Thread := ⟨"invoices", .marked markedCheckpoint, false, false⟩

/-- Both workers pass `mark_running` with the same server. -/
theorem twoTasks_run : ∃ s, RunWith Step (fun _ a _ => a ≠ .shutdownWrite) twoTasks s ∧
    s.threads 0 = some ordersWorker ∧ s.threads 1 = some invoicesWorker ∧
    s.store.server "orders" = s.store.server "invoices" ∧
    s.store.tasks "orders" = some ⟨sampleConfiguration, 1, 1, some 1⟩ ∧
    s.store.tasks "invoices" = some ⟨invoiceConfiguration, 1, 1, some 1⟩ := by
  have h₁ : RunWith Step (fun _ a _ => a ≠ .shutdownWrite) twoTasks _ :=
    RunWith.refl.tail (@Step.startTask _ 1 1 "orders" rfl
      (Process.not_working (fun _ => rfl) _) (Process.not_full fun _ => rfl)) nofun
  have h₂ := ((h₁.tail (.activate rfl rfl) nofun).tail (.spawn (n := 0) rfl rfl) nofun).tail
    (.register rfl) nofun
  have h₃ := h₂.tail (@Step.startTask _ 1 1 "invoices" rfl
    (by rintro ⟨_, _, ⟨⟩, -⟩) (Process.not_full_of_one "orders" (by
      rintro id ⟨n, t, hn, -⟩
      by_contra hne
      change Function.update (Function.update (fun _ => none) "orders" none) "orders" (some 0) id =
        some n at hn
      rw [Function.update_of_ne hne, Function.update_of_ne hne] at hn
      cases hn))) nofun
  have h₄ := ((h₃.tail (.activate rfl rfl) nofun).tail (.spawn (n := 1) rfl rfl) nofun).tail
    (.register rfl) nofun
  have h₅ := ((h₄.tail (@Step.connect _ 0 _ _ markedCheckpoint.sinkUuid rfl rfl rfl)
    nofun).tail (@Step.saveFirst _ 0 _ markedCheckpoint rfl rfl) nofun).tail
    (.markFirst (n := 0) rfl rfl rfl) nofun
  have h₆ := ((h₅.tail (@Step.connect _ 1 _ _ markedCheckpoint.sinkUuid rfl rfl rfl)
    nofun).tail (@Step.saveFirst _ 1 _ markedCheckpoint rfl rfl) nofun).tail
    (.markFirst (n := 1) rfl rfl rfl) nofun
  exact ⟨_, h₆, rfl, rfl, rfl, rfl, rfl⟩

theorem exclusive_ownership_sample :
    overlaps sampleConfiguration.mappings invoiceConfiguration.mappings = false := by
  obtain ⟨s, hrun, ht, hu, hserver, hrow, hrow'⟩ := twoTasks_run
  exact exclusive_ownership twoTasks_fresh hrun ht hu rfl rfl (by decide) hserver hrow hrow' rfl

end Sample

end Workers

end DatabaseSync.Control
