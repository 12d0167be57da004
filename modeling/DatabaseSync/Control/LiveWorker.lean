import DatabaseSync.Control.Workers

/-! # One live worker per task

What the registry, the state column and the threads say about one task is its slot: the task is
idle, a start has activated it, or exactly one live worker has it. The `UPDATE` at the end of
`shutdown_tasks` is the one statement that can leave the slots.
-/

namespace DatabaseSync.Control

open Checked Transition

namespace Store

variable {s s' : Store} {id other : String}

theorem active_eq_state : s.active id = (s.state id).any (·.isActive) := by
  unfold active state
  cases s.runtime id <;> rfl

theorem state_setRuntime {runtime : TaskRuntime} :
    (s.setRuntime id runtime).state other =
      if other = id then some runtime.state else s.state other := by
  unfold state setRuntime
  by_cases h : other = id
  · subst h
    simp
  · simp [h]

theorem state_markStopping : (s.markStopping id).state other =
    if other = id then (s.state id).map fun state =>
      if state = .starting ∨ state = .running then .stopping else state
    else s.state other := by
  unfold markStopping
  cases hr : s.runtime id with
  | none =>
    dsimp only
    split
    · next heq => simp [heq, state, hr]
    · rfl
  | some runtime =>
    have hstate : s.state id = some runtime.state := by simp [state, hr]
    dsimp only
    rw [hstate]
    split
    · next h =>
      rw [state_setRuntime]
      simp [h]
    · next h =>
      split
      · next heq => simp [heq, hstate, h]
      · rfl

theorem state_saveCheckpoint {checkpoint : Checkpoint} :
    (s.saveCheckpoint id checkpoint).state other = s.state other := by
  unfold saveCheckpoint
  cases hr : s.runtime id with
  | none => rfl
  | some runtime =>
    dsimp only
    rw [state_setRuntime]
    split
    · next heq => simp [heq, state, hr]
    · rfl

theorem state_finishTask {error : Option String} {blocked : Bool} :
    (s.finishTaskWithState id error blocked).state other =
      if other = id then (s.state id).map fun _ =>
        if blocked then .blocked else if error.isSome then .failed else .stopped
      else s.state other := by
  unfold finishTaskWithState
  cases hr : s.runtime id with
  | none =>
    dsimp only
    split
    · next heq => simp [heq, state, hr]
    · rfl
  | some runtime =>
    dsimp only
    rw [state_setRuntime]
    split
    · simp [state, hr]
    · rfl

theorem state_stopActive : s.stopActive.state other = (s.state other).map fun state =>
    if state.isActive then .stopped else state := by
  unfold stopActive state
  dsimp only
  cases s.runtime other with
  | none => rfl
  | some runtime =>
    simp only [Option.map_some]
    split <;> rfl

/-- A stop that has been stored is kept. -/
theorem state_markRunning {checkpoint : Checkpoint} (h : s.markRunning id checkpoint = .ok s') :
    s'.tasks = s.tasks ∧ ∀ other, s'.state other =
      if other = id then (s.state id).map fun state =>
        if state = .stopping then .stopping else .running
      else s.state other := by
  simp only [markRunning, throw_eq, pure_eq, error_bind, bind_eq_ok, guard_eq_ok] at h
  obtain ⟨task, -, -, h⟩ := h
  cases hr : s.runtime id with
  | none =>
    simp only [hr, Except.ok.injEq] at h
    subst h
    refine ⟨rfl, ?_⟩
    intro other
    split
    · next heq => simp [heq, state, hr]
    · rfl
  | some runtime =>
    simp only [hr, Except.ok.injEq] at h
    subst h
    refine ⟨rfl, ?_⟩
    intro other
    rw [state_setRuntime]
    split
    · simp [state, hr]
    · rfl

theorem tasks_markStopping : (s.markStopping id).tasks = s.tasks := by
  unfold markStopping
  split
  · split <;> rfl
  · rfl

theorem tasks_saveCheckpoint {checkpoint : Checkpoint} :
    (s.saveCheckpoint id checkpoint).tasks = s.tasks := by
  unfold saveCheckpoint
  split <;> rfl

theorem tasks_finishTask {error : Option String} {blocked : Bool} :
    (s.finishTaskWithState id error blocked).tasks = s.tasks := by
  unfold finishTaskWithState
  split <;> rfl

theorem deleteTask_ok {actor : ℤ} (h : s.deleteTask id actor = .ok s') :
    s.active id = false ∧ s'.taskIds = s.taskIds.filter (· ≠ id) ∧
      s'.tasks = Function.update s.tasks id none ∧
      s'.runtime = Function.update s.runtime id none := by
  unfold deleteTask at h
  cases hrow : s.tasks id with
  | none => simp [hrow] at h
  | some row =>
    simp only [hrow, throw_eq, pure_eq, error_bind, bind_eq_ok, guard_eq_ok, Except.ok.injEq] at h
    obtain ⟨_, -, hinactive, rfl⟩ := h
    exact ⟨by simpa using hinactive, rfl, rfl, rfl⟩

end Store

namespace Workers

variable {s s' : Process} {a : Action} {id other : String} {n m : ℕ} {t u : Thread}

/-- Whether the thread is a live worker of the task, and if so, whether a stop has been stored
for it. -/
def Thread.claim (t : Thread) (id : String) : Option Bool :=
  if t.task = id ∧ t.stage.isLive = true then some t.stopRequested else none

def Process.live (s : Process) (id : String) (n : ℕ) : Option Bool :=
  (s.threads n).bind (·.claim id)

theorem Thread.claim_of_live (h : t.stage.isLive = true) :
    t.claim t.task = some t.stopRequested := by
  simp [claim, h]

theorem Thread.claim_of_ne (h : id ≠ t.task) : t.claim id = none := by
  simp [claim, Ne.symm h]

theorem Thread.claim_of_not_live (h : t.stage.isLive = false) : t.claim id = none := by
  simp [claim, h]

theorem Process.live_of_thread (h : s.threads n = some t) : s.live id n = t.claim id := by
  simp [live, h]

theorem Process.live_setThread :
    (s.setThread n t).live id = Function.update (s.live id) n (t.claim id) := by
  funext m
  unfold live setThread
  by_cases h : m = n
  · subst h
    simp
  · simp [h]

/-- A thread that claims what it has claimed before. -/
theorem Process.live_same (h : s.threads n = some t) (hclaim : u.claim id = t.claim id) :
    (s.setThread n u).live id = s.live id := by
  rw [live_setThread, hclaim, ← live_of_thread h, Function.update_eq_self]

/-- A thread of another task. -/
theorem Process.live_other (h : s.threads n = some t) (htask : u.task = t.task)
    (hne : id ≠ t.task) : (s.setThread n u).live id = s.live id := by
  have hu : u.claim id = none := Thread.claim_of_ne (htask ▸ hne)
  exact live_same h (hu.trans (Thread.claim_of_ne hne).symm)

/-- The slot of a task: which live workers it has, its stored state, whether its row exists and
whether a start has activated it and has yet to make the thread. -/
inductive Slot (live : ℕ → Option Bool) (state : Option TaskState) (present pending : Prop) : Prop
  | idle : (∀ n, live n = none) → (∀ at' ∈ state, at'.isActive = false) → ¬ pending →
      Slot live state present pending
  | activating : (∀ n, live n = none) → present → pending → Slot live state present pending
  | working (n : ℕ) (stop : Bool) (at' : TaskState) : live n = some stop →
      (∀ m, m ≠ n → live m = none) → state = some at' → at'.isActive = true →
      (stop = true → at' = .stopping) → present → ¬ pending → Slot live state present pending

/-- The final `UPDATE` of a shutdown finds no live worker, and none runs between the activation
of a task and its thread. -/
def Quiet (s : Process) (a : Action) (_ : Process) : Prop :=
  match a with
  | .shutdownWrite => ∀ n t, s.threads n = some t → t.stage.isLive = false
  | .spawn => ∀ id, s.lock = some (.activated id) → s.store.active id = true
  | _ => True

def Process.slot (s : Process) (id : String) : Prop :=
  Slot (s.live id) (s.store.state id) ((s.store.tasks id).isSome = true)
    (s.lock = some (.activated id))

/-- The slots, and the threads that the registry and a start refer to. -/
structure Inv (s : Process) : Prop where
  slot : ∀ id, s.slot id
  registered : ∀ id n, s.workers id = some n → ∃ t, s.threads n = some t ∧ t.task = id
  spawned : ∀ id n, s.lock = some (.spawned id n) → ∃ t, s.threads n = some t ∧ t.task = id

namespace Slot

variable {live : ℕ → Option Bool} {state : Option TaskState} {present pending : Prop}

theorem not_live_of_inactive (h : Slot live state present pending) (hpending : ¬ pending)
    (hstate : state.any (·.isActive) = false) : ∀ n, live n = none := by
  rcases h with ⟨hlive, -, -⟩ | ⟨-, -, h⟩ | ⟨n, stop, at', -, -, rfl, hactive, -, -, -⟩
  · exact hlive
  · exact absurd h hpending
  · rw [Option.any_some, hactive] at hstate
    cases hstate

/-- A stored state that is as active and as much stopped as before. -/
theorem of_state (h : Slot live state present pending) {state' : Option TaskState}
    (hinactive : (∀ at' ∈ state, at'.isActive = false) → ∀ at' ∈ state', at'.isActive = false)
    (hactive : ∀ at', state = some at' → at'.isActive = true → ∃ at'', state' = some at'' ∧
      at''.isActive = true ∧ (at' = .stopping → at'' = .stopping)) :
    Slot live state' present pending := by
  rcases h with ⟨hlive, hstate, hpending⟩ | ⟨hlive, hpresent, hpending⟩ |
    ⟨n, stop, at', hn, hothers, hstate, hat, hstop, hpresent, hpending⟩
  · exact .idle hlive (hinactive hstate) hpending
  · exact .activating hlive hpresent hpending
  · obtain ⟨at'', hstate'', hat'', hstopping⟩ := hactive at' hstate hat
    exact .working n stop at'' hn hothers hstate'' hat'' (fun h => hstopping (hstop h)) hpresent
      hpending

/-- The slot of a live worker. -/
theorem of_live (h : Slot live state present pending) {n : ℕ} {stop : Bool}
    (hn : live n = some stop) :
    (∀ m, m ≠ n → live m = none) ∧ (∃ at', state = some at' ∧ at'.isActive = true ∧
      (stop = true → at' = .stopping)) ∧ present ∧ ¬ pending := by
  rcases h with ⟨hnone, -, -⟩ | ⟨hnone, -, -⟩ |
    ⟨m, stop', at', hm, hothers, hat, hactive, hstop, hpresent, hpending⟩
  · rw [hnone] at hn
    cases hn
  · rw [hnone] at hn
    cases hn
  · have hnm : n = m := by
      by_contra hne
      rw [hothers n hne] at hn
      cases hn
    subst hnm
    rw [hm, Option.some.injEq] at hn
    subst hn
    exact ⟨hothers, ⟨at', hat, hactive, hstop⟩, hpresent, hpending⟩

end Slot

/-- A step that does not touch a task keeps its slot. -/
theorem Process.slot_frame (h : s.slot id) (hlive : s'.live id = s.live id)
    (hstate : s'.store.state id = s.store.state id)
    (hpresent : (s'.store.tasks id).isSome = (s.store.tasks id).isSome)
    (hpending : s'.lock = some (.activated id) ↔ s.lock = some (.activated id)) : s'.slot id := by
  unfold slot
  rw [hlive, hstate, hpresent, hpending]
  exact h

section Steps

theorem Inv.activate (hi : Inv s) {actor revision : ℤ} {store : Store}
    (hlock : s.lock = some (.starting actor id revision))
    (hstore : s.store.activateTask id actor revision = .ok store) (other : String) :
    ((s.setStore store).setLock (some (.activated id))).slot other := by
  obtain ⟨row, hrow, -, hinactive, htasks, -, hruntime⟩ := Store.beginTaskAtRevision_ok hstore
  have hidle : ¬ s.lock = some (.activated other) := by
    rw [hlock]
    rintro ⟨⟩
  by_cases heq : other = id
  · subst heq
    have hnone := (hi.slot other).not_live_of_inactive hidle
      (by rwa [← Store.active_eq_state])
    refine .activating hnone ?_ rfl
    simp [Process.setStore, Process.setLock, htasks]
  · refine Process.slot_frame (hi.slot other) rfl ?_ ?_ ?_
    · simp [Process.setStore, Process.setLock, Store.state, hruntime, heq]
    · simp [Process.setStore, Process.setLock, htasks, heq]
    · simp [Process.setStore, Process.setLock, hlock, Ne.symm heq]

theorem Inv.spawn (hi : Inv s) (hlock : s.lock = some (.activated id))
    (hthread : s.threads n = none) (hactive : s.store.active id = true) (other : String) :
    ((s.setThread n ⟨id, .spawned, false, false⟩).setLock (some (.spawned id n))).slot other := by
  have hnone : s.live other n = none := by simp [Process.live, hthread]
  have hlive : ((s.setThread n ⟨id, .spawned, false, false⟩).setLock
      (some (.spawned id n))).live other = Function.update (s.live other) n
        (Thread.claim ⟨id, .spawned, false, false⟩ other) := Process.live_setThread
  by_cases heq : other = id
  · subst heq
    rcases hi.slot other with ⟨-, -, h⟩ | ⟨hlive', hpresent, -⟩ | ⟨_, _, _, -, -, -, -, -, -, h⟩
    · exact absurd hlock h
    · rw [Store.active_eq_state, Option.any_eq_true] at hactive
      obtain ⟨state, hstate, hstate'⟩ := hactive
      refine .working n false state ?_ ?_ hstate hstate' nofun hpresent ?_
      · rw [hlive, Function.update_self]
        exact Thread.claim_of_live rfl
      · intro m hm
        rw [hlive, Function.update_of_ne hm]
        exact hlive' m
      · rintro ⟨⟩
    · exact absurd hlock h
  · refine Process.slot_frame (hi.slot other) ?_ rfl rfl ?_
    · rw [hlive, Thread.claim_of_ne heq, ← hnone, Function.update_eq_self]
    · simp [Process.setThread, Process.setLock, hlock, Ne.symm heq]

theorem Inv.spawnFails (hi : Inv s) (hlock : s.lock = some (.activated id)) (other : String) :
    ((s.setStore (s.store.finishTaskWithState id (some "无法创建任务线程") false)).setLock
      none).slot other := by
  by_cases heq : other = id
  · subst heq
    rcases hi.slot other with ⟨-, -, h⟩ | ⟨hlive, -, -⟩ | ⟨_, _, _, -, -, -, -, -, -, h⟩
    · exact absurd hlock h
    · refine .idle hlive ?_ nofun
      intro state hstate
      rw [Option.mem_def] at hstate
      change (s.store.finishTaskWithState other _ _).state other = some state at hstate
      rw [Store.state_finishTask, if_pos rfl, Option.map_eq_some_iff] at hstate
      obtain ⟨_, -, rfl⟩ := hstate
      rfl
    · exact absurd hlock h
  · refine Process.slot_frame (hi.slot other) rfl ?_ ?_ ?_
    · exact Store.state_finishTask.trans (if_neg heq)
    · exact congrArg (fun tasks => (tasks other).isSome) Store.tasks_finishTask
    · simp [Process.setStore, Process.setLock, hlock, Ne.symm heq]

theorem Inv.stopTask (hi : Inv s) (hfree : s.lock = none) (hworker : s.workers id = some n)
    (hthread : s.threads n = some t) (other : String) :
    (((s.setStore (s.store.markStopping id)).setThread n { t with stopRequested := true }).setLock
      (some (.stopping n))).slot other := by
  obtain ⟨t', ht', rfl⟩ := hi.registered id n hworker
  obtain rfl : t' = t := Option.some.inj (ht'.symm.trans hthread)
  have hstate := @Store.state_markStopping s.store t'.task other
  have hpresent : ((s.store.markStopping t'.task).tasks other).isSome =
      (s.store.tasks other).isSome := by rw [Store.tasks_markStopping]
  have hlive : (((s.setStore (s.store.markStopping t'.task)).setThread n
      { t' with stopRequested := true }).setLock (some (.stopping n))).live other =
        Function.update (s.live other) n ({ t' with stopRequested := true }.claim other) :=
    Process.live_setThread
  have hidle : ¬ s.lock = some (.activated other) := by
    rw [hfree]
    nofun
  by_cases heq : other = t'.task
  · subst heq
    rw [if_pos rfl] at hstate
    unfold Process.slot
    rw [hlive]
    -- The thread is the live worker of its task, or the slot does not change.
    by_cases hstage : t'.stage.isLive = true
    · have hn : s.live t'.task n = some t'.stopRequested :=
        (Process.live_of_thread hthread).trans (Thread.claim_of_live hstage)
      obtain ⟨hothers, ⟨at', hat, hactive, -⟩, hpresent', -⟩ := (hi.slot t'.task).of_live hn
      refine .working n true .stopping ?_ ?_ ?_ rfl (fun _ => rfl) ?_ nofun
      · rw [Function.update_self]
        exact Thread.claim_of_live (t := { t' with stopRequested := true }) hstage
      · intro k hk
        rw [Function.update_of_ne hk]
        exact hothers k hk
      · refine hstate.trans ?_
        rw [hat]
        cases at' <;> first | rfl | cases hactive
      · exact hpresent.trans hpresent'
    · have hclaim : ({ t' with stopRequested := true } : Thread).claim t'.task =
          s.live t'.task n := by
        rw [Process.live_of_thread hthread, Thread.claim_of_not_live (by simpa using hstage),
          Thread.claim_of_not_live (by simpa using hstage)]
      rw [hclaim, Function.update_eq_self]
      have hslot : Slot (s.live t'.task) ((s.store.markStopping t'.task).state t'.task)
          ((s.store.tasks t'.task).isSome = true) (s.lock = some (.activated t'.task)) := by
        refine (hi.slot t'.task).of_state ?_ ?_
        · intro hinactive at' hat
          rw [hstate, Option.mem_def, Option.map_eq_some_iff] at hat
          obtain ⟨old, hold, rfl⟩ := hat
          have := hinactive old hold
          cases old <;> first | rfl | cases this
        · intro at' hat hactive
          rw [hstate, hat]
          cases at' <;> first | exact ⟨_, rfl, rfl, fun _ => rfl⟩ | cases hactive
      rw [← hpresent] at hslot
      simpa [Process.setStore, Process.setThread, Process.setLock, hfree] using hslot
  · refine Process.slot_frame (hi.slot other) ?_ ?_ hpresent ?_
    · exact Process.live_other (u := { t' with stopRequested := true }) hthread rfl heq
    · exact hstate.trans (if_neg heq)
    · simp [Process.setStore, Process.setThread, Process.setLock, hfree]

theorem Inv.deleteRow (hi : Inv s) {actor : ℤ} {store : Store}
    (hlock : s.lock = some (.deleting actor id))
    (hstore : s.store.deleteTask id actor = .ok store) (other : String) :
    ((s.setStore store).setLock (some (.deleted id))).slot other := by
  obtain ⟨hinactive, -, htasks, hruntime⟩ := Store.deleteTask_ok hstore
  have hidle : ¬ s.lock = some (.activated other) := by
    rw [hlock]
    rintro ⟨⟩
  by_cases heq : other = id
  · subst heq
    have hnone := (hi.slot other).not_live_of_inactive hidle (by rwa [← Store.active_eq_state])
    refine .idle hnone ?_ nofun
    simp [Process.setStore, Process.setLock, Store.state, hruntime]
  · refine Process.slot_frame (hi.slot other) rfl ?_ ?_ ?_
    · simp [Process.setStore, Process.setLock, Store.state, hruntime, heq]
    · simp [Process.setStore, Process.setLock, htasks, heq]
    · simp [Process.setStore, Process.setLock, hlock]

/-- Without live workers the final `UPDATE` leaves every task idle. -/
theorem Inv.shutdownWrite (hi : Inv s) {shutdowns : ℕ → Option (String → Option ℕ)}
    (hquiet : ∀ n t, s.threads n = some t → t.stage.isLive = false) (other : String) :
    Process.slot { s.setStore s.store.stopActive with shutdowns := shutdowns } other := by
  have hlive : ∀ n, s.live other n = none := by
    intro n
    cases ht : s.threads n with
    | none => simp [Process.live, ht]
    | some t => rw [Process.live_of_thread ht, Thread.claim_of_not_live (hquiet n t ht)]
  rcases hi.slot other with ⟨-, hstate, hpending⟩ | ⟨-, hpresent, hpending⟩ |
    ⟨n, _, _, hn, -, -, -, -, -, -⟩
  · refine .idle hlive ?_ hpending
    intro at' hat
    change s.store.stopActive.state other = some at' at hat
    rw [Store.state_stopActive, Option.map_eq_some_iff] at hat
    obtain ⟨old, hold, rfl⟩ := hat
    rw [hstate old hold]
    exact hstate old hold
  · exact .activating hlive hpresent hpending
  · rw [hlive] at hn
    cases hn

theorem Inv.saveCheckpoint (hi : Inv s) {checkpoint : Checkpoint} (other : String) :
    (s.setStore (s.store.saveCheckpoint id checkpoint)).slot other := by
  refine Process.slot_frame (hi.slot other) rfl Store.state_saveCheckpoint ?_ Iff.rfl
  exact congrArg (fun tasks => (tasks other).isSome) Store.tasks_saveCheckpoint

/-- `mark_running` keeps the slot of the worker that calls it, and every other one. -/
theorem Inv.markRunning (hi : Inv s) (hthread : s.threads n = some t)
    (hstage : t.stage.isLive = true) {checkpoint : Checkpoint} {store : Store}
    (hstore : s.store.markRunning t.task checkpoint = .ok store) (other : String) :
    (s.setStore store).slot other := by
  obtain ⟨htasks, hstate⟩ := Store.state_markRunning hstore
  have hpresent : (store.tasks other).isSome = (s.store.tasks other).isSome := by rw [htasks]
  by_cases heq : other = t.task
  · subst heq
    have hn : s.live t.task n = some t.stopRequested :=
      (Process.live_of_thread hthread).trans (Thread.claim_of_live hstage)
    obtain ⟨hothers, ⟨at', hat, hactive, hstop⟩, hpresent', hidle⟩ :=
      (hi.slot t.task).of_live hn
    refine .working n t.stopRequested (if at' = .stopping then .stopping else .running) hn hothers
      ?_ ?_ ?_ (hpresent.trans hpresent') hidle
    · refine (hstate t.task).trans ?_
      rw [if_pos rfl, hat]
      rfl
    · split <;> rfl
    · intro hrequested
      rw [if_pos (hstop hrequested)]
  · exact Process.slot_frame (hi.slot other) rfl ((hstate other).trans (if_neg heq)) hpresent
      Iff.rfl

theorem Inv.finish (hi : Inv s) (hthread : s.threads n = some t) (hstage : t.stage.isLive = true)
    {error : Option String} {blocked : Bool} (other : String) :
    ((s.setStore (s.store.finishTaskWithState t.task error blocked)).setThread n
      { t with stage := .finished }).slot other := by
  have hstate := @Store.state_finishTask s.store t.task other error blocked
  have hlive : ((s.setStore (s.store.finishTaskWithState t.task error blocked)).setThread n
      { t with stage := .finished }).live other = Function.update (s.live other) n none := by
    have hnone : ({ t with stage := .finished } : Thread).claim other = none :=
      Thread.claim_of_not_live rfl
    rw [← hnone]
    exact Process.live_setThread
  by_cases heq : other = t.task
  · subst heq
    have hn : s.live t.task n = some t.stopRequested :=
      (Process.live_of_thread hthread).trans (Thread.claim_of_live hstage)
    rw [if_pos rfl] at hstate
    obtain ⟨hothers, -, -, hidle⟩ := (hi.slot t.task).of_live hn
    refine .idle ?_ ?_ hidle
    · intro k
      rw [hlive]
      by_cases hk : k = n
      · rw [hk, Function.update_self]
      · rw [Function.update_of_ne hk]
        exact hothers k hk
    · intro at' hat
      change (s.store.finishTaskWithState t.task error blocked).state t.task = some at' at hat
      rw [hstate, Option.map_eq_some_iff] at hat
      obtain ⟨_, -, rfl⟩ := hat
      cases blocked <;> cases error <;> rfl
  · refine Process.slot_frame (hi.slot other) ?_ (hstate.trans (if_neg heq)) ?_ Iff.rfl
    · exact Process.live_other (u := { t with stage := .finished }) hthread rfl heq
    · exact congrArg (fun tasks => (tasks other).isSome) Store.tasks_finishTask

theorem Process.slot_setThread (h : s.slot id) (hthread : s.threads n = some t)
    (htask : u.task = t.task) (hstage : u.stage.isLive = t.stage.isLive)
    (hstop : u.stopRequested = t.stopRequested) : (s.setThread n u).slot id := by
  have hclaim : u.claim id = t.claim id := by
    unfold Thread.claim
    rw [htask, hstage, hstop]
  exact slot_frame h (live_same hthread hclaim) rfl rfl Iff.rfl

/-- Releasing the lock, or taking it for anything but an activation. -/
theorem Process.slot_setLock {lock : Option Held} (h : s.slot id)
    (hold : ¬ s.lock = some (.activated id)) (hnew : ¬ lock = some (.activated id)) :
    (s.setLock lock).slot id :=
  slot_frame h rfl rfl rfl ⟨fun hl => absurd hl hnew, fun hl => absurd hl hold⟩

/-- What every step but the start of a thread and its registration keeps. -/
structure Kept (s s' : Process) : Prop where
  threads : ∀ n t, s.threads n = some t → ∃ u, s'.threads n = some u ∧ u.task = t.task
  workers : ∀ id n, s'.workers id = some n → s.workers id = some n
  lock : ∀ id n, s'.lock = some (.spawned id n) → s.lock = some (.spawned id n)

theorem Inv.of_kept (hi : Inv s) (hslot : ∀ id, s'.slot id) (hkept : Kept s s') : Inv s' := by
  refine ⟨hslot, ?_, ?_⟩
  · intro id n hn
    obtain ⟨t, ht, htask⟩ := hi.registered id n (hkept.workers id n hn)
    obtain ⟨u, hu, htask'⟩ := hkept.threads n t ht
    exact ⟨u, hu, htask'.trans htask⟩
  · intro id n hn
    obtain ⟨t, ht, htask⟩ := hi.spawned id n (hkept.lock id n hn)
    obtain ⟨u, hu, htask'⟩ := hkept.threads n t ht
    exact ⟨u, hu, htask'.trans htask⟩

theorem Kept.same_threads {store : Store} {workers : String → Option ℕ} {lock : Option Held}
    {shutdowns : ℕ → Option (String → Option ℕ)}
    (hworkers : ∀ id n, workers id = some n → s.workers id = some n)
    (hlock : ∀ id n, lock = some (.spawned id n) → s.lock = some (.spawned id n)) :
    Kept s ⟨store, s.threads, workers, lock, shutdowns⟩ :=
  ⟨fun _ t ht => ⟨t, ht, rfl⟩, hworkers, hlock⟩

theorem Kept.setThread (store : Store) (lock : Option Held) (u : Thread)
    (hthread : s.threads n = some t) (htask : u.task = t.task)
    (hlock : ∀ id n, lock = some (.spawned id n) → s.lock = some (.spawned id n)) :
    Kept s (((s.setStore store).setThread n u).setLock lock) := by
  refine ⟨?_, fun _ _ h => h, hlock⟩
  intro m v hv
  by_cases h : m = n
  · subst h
    obtain rfl : v = t := Option.some.inj (hv.symm.trans hthread)
    exact ⟨u, by simp [Process.setThread, Process.setLock], htask⟩
  · exact ⟨v, by simpa [Process.setThread, Process.setLock, Process.setStore, h] using hv, rfl⟩

theorem workers_none {workers : String → Option ℕ} (other : String) (m : ℕ)
    (h : Function.update workers id none other = some m) : workers other = some m := by
  by_cases heq : other = id
  · subst heq
    simp at h
  · rwa [Function.update_of_ne heq] at h

theorem Inv.step (hi : Inv s) (hstep : Step s a s') (hquiet : Quiet s a s') : Inv s' := by
  cases hstep with
  | startTask hfree _ _ =>
    refine hi.of_kept (fun other => ?_) (.same_threads workers_none nofun)
    exact Process.slot_setLock (hi.slot other) (by simp [Process.setWorker, hfree]) nofun
  | activate hlock hstore =>
    exact hi.of_kept (hi.activate hlock hstore) (.same_threads (fun _ _ h => h) nofun)
  | @spawn id n hlock hthread =>
    refine ⟨hi.spawn hlock hthread (hquiet id hlock), ?_, ?_⟩
    · intro other m hm
      obtain ⟨t, ht, htask⟩ := hi.registered other m hm
      have hne : m ≠ n := by
        rintro rfl
        rw [hthread] at ht
        cases ht
      exact ⟨t, by simpa [Process.setThread, Process.setLock, hne] using ht, htask⟩
    · rintro other m ⟨⟩
      exact ⟨⟨id, .spawned, false, false⟩, by simp [Process.setThread, Process.setLock], rfl⟩
  | spawnFails hlock =>
    exact hi.of_kept (hi.spawnFails hlock) (.same_threads (fun _ _ h => h) nofun)
  | @register id n hlock =>
    refine ⟨fun other => ?_, ?_, nofun⟩
    · exact Process.slot_setLock (hi.slot other) (by simp [Process.setWorker, hlock]) nofun
    · intro other m hm
      change Function.update s.workers id (some n) other = some m at hm
      by_cases heq : other = id
      · subst heq
        rw [Function.update_self, Option.some.injEq] at hm
        subst hm
        exact hi.spawned other n hlock
      · rw [Function.update_of_ne heq] at hm
        exact hi.registered other m hm
  | @stopTask actor id n t hfree _ hworker hthread =>
    exact hi.of_kept (hi.stopTask hfree hworker hthread)
      (.setThread _ _ { t with stopRequested := true } hthread rfl nofun)
  | @cancel n t hlock hthread =>
    refine hi.of_kept (fun other => ?_) (.setThread s.store _
      { t with cancelled := true } hthread rfl nofun)
    have hslot := Process.slot_setThread (u := { t with cancelled := true }) (hi.slot other)
      hthread rfl rfl rfl
    exact Process.slot_setLock hslot (by simp [Process.setThread, hlock]) nofun
  | deleteTask hfree _ =>
    refine hi.of_kept (fun other => ?_) (.same_threads (fun _ _ h => h) nofun)
    exact Process.slot_setLock (hi.slot other) (by simp [hfree]) nofun
  | deleteRow hlock hstore =>
    exact hi.of_kept (hi.deleteRow hlock hstore) (.same_threads (fun _ _ h => h) nofun)
  | forget hlock =>
    refine hi.of_kept (fun other => ?_) (.same_threads workers_none nofun)
    exact Process.slot_setLock (hi.slot other) (by simp [Process.setWorker, hlock]) nofun
  | refuse hlock =>
    refine hi.of_kept (fun other => ?_) (.same_threads (fun _ _ h => h) nofun)
    refine Process.slot_setLock (hi.slot other) ?_ nofun
    rcases hlock with hlock | hlock
    · rw [hlock]
      nofun
    · rw [hlock]
      nofun
  | shutdownTasks _ _ =>
    exact hi.of_kept hi.slot (.same_threads nofun fun _ _ h => h)
  | @shutdownCancel k n taken id t _ _ hthread =>
    refine hi.of_kept (fun other => ?_) (.setThread s.store s.lock
      { t with cancelled := true } hthread rfl fun _ _ h => h)
    exact Process.slot_setThread (u := { t with cancelled := true }) (hi.slot other) hthread rfl
      rfl rfl
  | shutdownWrite _ _ =>
    exact hi.of_kept (hi.shutdownWrite hquiet) (.same_threads (fun _ _ h => h) fun _ _ h => h)
  | @connect n t task sinkUuid hthread hstage _ =>
    refine hi.of_kept (fun other => ?_) (.setThread s.store s.lock
      { t with stage := .connected sinkUuid } hthread rfl fun _ _ h => h)
    exact Process.slot_setThread (u := { t with stage := .connected sinkUuid }) (hi.slot other)
      hthread rfl (by rw [hstage]; rfl) rfl
  | @saveFirst n t checkpoint hthread hstage =>
    refine hi.of_kept (fun other => ?_) (.setThread _ s.lock
      { t with stage := .saved checkpoint } hthread rfl fun _ _ h => h)
    refine Process.slot_setThread ?_ hthread rfl (by rw [hstage]; rfl) rfl
    exact hi.saveCheckpoint other
  | @markFirst n t checkpoint store hthread hstage hstore =>
    refine hi.of_kept (fun other => ?_) (.setThread _ s.lock
      { t with stage := .marked checkpoint } hthread rfl fun _ _ h => h)
    refine Process.slot_setThread ?_ hthread rfl (by rw [hstage]; rfl) rfl
    exact hi.markRunning hthread (by rw [hstage]; rfl) hstore other
  | @saveNext n t saved checkpoint hthread hstage _ =>
    refine hi.of_kept (fun other => ?_) (.setThread _ s.lock
      { t with stage := .marked checkpoint } hthread rfl fun _ _ h => h)
    refine Process.slot_setThread ?_ hthread rfl (by rw [hstage]; rfl) rfl
    exact hi.saveCheckpoint other
  | @markNext n t checkpoint store hthread hstage hstore =>
    exact hi.of_kept (hi.markRunning hthread (by rw [hstage]; rfl) hstore)
      (.same_threads (fun _ _ h => h) fun _ _ h => h)
  | @finish n t error blocked hthread hstage =>
    exact hi.of_kept (hi.finish hthread hstage) (.setThread _ s.lock
      { t with stage := .finished } hthread rfl fun _ _ h => h)
  | @endThread n t hthread hstage =>
    refine hi.of_kept (fun other => ?_) (.setThread s.store s.lock
      { t with stage := .ended } hthread rfl fun _ _ h => h)
    exact Process.slot_setThread (u := { t with stage := .ended }) (hi.slot other) hthread rfl
      (by rw [hstage]; rfl) rfl

end Steps

/-- At most one live worker runs for a task; its task exists and is active, a stop that has been
stored for it stays, and a task without one that is not being started has ended. -/
structure OneLiveWorker (s : Process) : Prop where
  unique : ∀ m n t u, s.threads m = some t → s.threads n = some u → t.stage.isLive = true →
    u.stage.isLive = true → t.task = u.task → m = n
  attended : ∀ n t, s.threads n = some t → t.stage.isLive = true →
    (s.store.tasks t.task).isSome = true ∧ s.store.active t.task = true
  stopping : ∀ n t, s.threads n = some t → t.stage.isLive = true → t.stopRequested = true →
    s.store.state t.task = some .stopping
  ended : ∀ id, s.lock ≠ some (.activated id) →
    (∀ n t, s.threads n = some t → t.task = id → t.stage.isLive = false) →
    ∀ state, s.store.state id = some state → state = .stopped ∨ state = .failed ∨ state = .blocked

theorem Inv.oneLiveWorker (hi : Inv s) : OneLiveWorker s where
  unique := by
    intro m n t u ht hu htlive hulive htask
    have hm : s.live u.task m = some t.stopRequested :=
      (Process.live_of_thread ht).trans (htask ▸ Thread.claim_of_live htlive)
    have hn : s.live u.task n = some u.stopRequested :=
      (Process.live_of_thread hu).trans (Thread.claim_of_live hulive)
    obtain ⟨hothers, -⟩ := (hi.slot u.task).of_live hn
    by_contra hne
    rw [hothers m hne] at hm
    cases hm
  attended := by
    intro n t ht hlive
    obtain ⟨-, ⟨at', hat, hactive, -⟩, hpresent, -⟩ := (hi.slot t.task).of_live
      ((Process.live_of_thread ht).trans (Thread.claim_of_live hlive))
    refine ⟨hpresent, ?_⟩
    rw [Store.active_eq_state, hat]
    exact hactive
  stopping := by
    intro n t ht hlive hrequested
    obtain ⟨-, ⟨at', hat, -, hstop⟩, -⟩ := (hi.slot t.task).of_live
      ((Process.live_of_thread ht).trans (Thread.claim_of_live hlive))
    rw [hat, hstop hrequested]
  ended := by
    intro id hidle hnone state hstate
    have hinactive : state.isActive = false := by
      rcases hi.slot id with ⟨-, h, -⟩ | ⟨-, -, h⟩ | ⟨n, _, _, hn, -, -, -, -, -, -⟩
      · exact h state hstate
      · exact absurd h hidle
      · unfold Process.live at hn
        cases ht : s.threads n with
        | none => simp [ht] at hn
        | some t =>
          simp only [ht, Option.bind_some, Thread.claim] at hn
          split at hn
          · next h =>
            rw [hnone n t ht h.1] at h
            cases h.2
          · cases hn
    cases state with
    | starting | running | stopping => cases hinactive
    | stopped | failed | blocked => simp

theorem Inv.init (h : Fresh s) : Inv s where
  slot id := by
    refine .idle ?_ ?_ ?_
    · intro n
      simp [Process.live, h.threads]
    · intro at' hat
      rw [Option.mem_def] at hat
      have hinactive := h.inactive id
      rwa [Store.active_eq_state, hat] at hinactive
    · rw [h.lock]
      nofun
  registered id n hn := by
    rw [h.workers] at hn
    cases hn
  spawned id n hn := by
    rw [h.lock] at hn
    cases hn

/-- The final `UPDATE` under a live worker, or the thread of a task that has been stopped since
its activation, leaves a live worker whose task is not active. -/
theorem Step.leaves_live_worker (hstep : Step s a s') (hquiet : ¬ Quiet s a s') :
    ∃ n t, s'.threads n = some t ∧ t.stage.isLive = true ∧ s'.store.active t.task = false := by
  cases hstep with
  | @spawn id n hlock hthread =>
    simp only [Quiet, hlock, Option.some.injEq, Held.activated.injEq, forall_eq',
      Bool.not_eq_true] at hquiet
    exact ⟨n, ⟨id, .spawned, false, false⟩, by simp [Process.setThread, Process.setLock], rfl,
      hquiet⟩
  | shutdownWrite _ _ =>
    simp only [Quiet, not_forall, Bool.not_eq_false] at hquiet
    obtain ⟨n, t, ht, hlive⟩ := hquiet
    refine ⟨n, t, ht, hlive, ?_⟩
    change s.store.stopActive.active t.task = false
    rw [Store.active_eq_state, Store.state_stopActive]
    cases s.store.state t.task with
    | none => rfl
    | some state => cases state <;> rfl
  | _ => exact absurd trivial hquiet

/-- The workers are in order in a run exactly as long as no final `UPDATE` of a shutdown meets a
worker that has been started since the shutdown took the registry. -/
theorem one_live_worker_iff_quiet (init : Process) (hfresh : Fresh init) :
    (∀ s, RunWith Step Quiet init s → OneLiveWorker s) ∧
      ∀ s a s', RunWith Step Quiet init s → Step s a s' → ¬ Quiet s a s' →
        ¬ OneLiveWorker s' := by
  constructor
  · intro s hrun
    have hi : Inv s := hrun.invariant (P := Inv) (fun _ _ _ hi hstep hq => hi.step hstep hq)
      (Inv.init hfresh)
    exact hi.oneLiveWorker
  · intro s a s' _ hstep hquiet hone
    obtain ⟨n, t, ht, hlive, hinactive⟩ := hstep.leaves_live_worker hquiet
    obtain ⟨-, hactive⟩ := hone.attended n t ht hlive
    rw [hinactive] at hactive
    cases hactive

section Sample

/-- One configured task and no worker. -/
def sampleProcess : Process := ⟨sampleStore, fun _ => none, fun _ => none, none, fun _ => none⟩

theorem sample_fresh : Fresh sampleProcess where
  inactive _ := rfl
  listed := by
    intro id row hrow
    simp only [sampleProcess, sampleStore] at hrow
    split at hrow
    · next heq => simp [heq, sampleProcess, sampleStore]
    · cases hrow
  threads _ := rfl
  workers _ := rfl
  lock := rfl
  shutdowns _ := rfl

theorem Process.not_working (h : ∀ id, s.workers id = none) (id : String) : ¬ s.working id := by
  rintro ⟨n, t, hn, -⟩
  rw [h] at hn
  cases hn

theorem Process.not_full (h : ∀ id, s.workers id = none) : ¬ s.full := by
  rintro ⟨ids, -, hlength, hworking⟩
  cases ids with
  | nil => cases hlength
  | cons id ids => exact not_working h id (hworking id (List.mem_cons_self ..))

theorem one_live_worker_iff_quiet_sample :
    (∀ s, RunWith Step Quiet sampleProcess s → OneLiveWorker s) ∧
      ∀ s a s', RunWith Step Quiet sampleProcess s → Step s a s' → ¬ Quiet s a s' →
        ¬ OneLiveWorker s' :=
  one_live_worker_iff_quiet sampleProcess sample_fresh

/-- A task is started after the shutdown has taken the registry and before its final `UPDATE`:
its worker is live and the stored state is `stopped`. -/
theorem live_worker_of_stopped_task : ∃ s, Run Step sampleProcess s ∧
    (∃ t, s.threads 0 = some t ∧ t.task = "orders" ∧ t.stage.isLive = true) ∧
    s.store.state "orders" = some .stopped ∧ ¬ OneLiveWorker s := by
  have h₁ := Run.refl.tail (Step.shutdownTasks (s := sampleProcess) (k := 0) rfl rfl)
  have h₂ := h₁.tail (@Step.startTask _ 1 1 "orders" rfl
    (Process.not_working (fun _ => rfl) _) (Process.not_full fun _ => rfl))
  have h₃ := h₂.tail (.activate rfl rfl)
  have h₄ := h₃.tail (.spawn (n := 0) rfl rfl)
  have h₅ := h₄.tail (.register rfl)
  have h₆ := h₅.tail (.shutdownWrite (k := 0) rfl (by rintro _ _ _ ⟨⟩))
  refine ⟨_, h₆, ⟨_, rfl, rfl, rfl⟩, rfl, ?_⟩
  intro hone
  obtain ⟨-, hactive⟩ := hone.attended 0 _ rfl rfl
  cases hactive

end Sample

end Workers

end DatabaseSync.Control
