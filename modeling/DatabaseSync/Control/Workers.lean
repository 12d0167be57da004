import DatabaseSync.Control.Activity

/-! # Task workers

The operations of the runtime on the registry of workers, statement by statement. `start_task`,
`stop_task` and `delete_task` hold the lock on the registry from their checks to their last
write; `shutdown_tasks` holds it only while it takes the registry. The worker threads run beside
them, and each one saves checkpoints of the one server that its sink is open on.
-/

namespace DatabaseSync.Control

open Checked Transition

namespace Store

variable (s : Store) (id : String)

def state : Option TaskState := (s.runtime id).map (·.state)

/-- The transaction of `delete_task`; the runtime of the task goes with its row. -/
def deleteTask (actor : ℤ) : Except ControlError Store := do
  s.requireAdmin actor
  if s.active id then throw (.conflict "请先停止任务，待停止完成后再删除")
  let some _ := s.tasks id | throw .notFound
  return { s with
    taskIds := s.taskIds.filter (· ≠ id)
    tasks := Function.update s.tasks id none
    runtime := Function.update s.runtime id none }

/-- The `UPDATE` at the end of `shutdown_tasks`. -/
def stopActive : Store :=
  { s with runtime := fun id => (s.runtime id).map fun runtime =>
      if runtime.state.isActive then { runtime with state := .stopped } else runtime }

end Store

namespace Workers

/-- How far a worker thread is. `marked` is past the first `mark_running`; a checkpoint is the
one that was saved last. -/
inductive Stage
  | spawned
  | connected (sinkUuid : String)
  | saved (checkpoint : Checkpoint)
  | marked (checkpoint : Checkpoint)
  | finished
  | ended

/-- The thread has not stored its final state yet. -/
def Stage.isLive : Stage → Bool
  | .spawned | .connected _ | .saved _ | .marked _ => true
  | .finished | .ended => false

/-- A worker thread. `stopRequested` says whether `stop_task` has stored a stop for it. -/
structure Thread where
  task : String
  stage : Stage
  cancelled : Bool
  stopRequested : Bool

/-- Which operation holds the lock on the registry, and what it has done. -/
inductive Held
  | starting (actor : ℤ) (id : String) (revision : ℤ)
  | activated (id : String)
  | spawned (id : String) (n : ℕ)
  | stopping (n : ℕ)
  | deleting (actor : ℤ) (id : String)
  | deleted (id : String)

structure Process where
  store : Store
  threads : ℕ → Option Thread
  workers : String → Option ℕ
  lock : Option Held
  shutdowns : ℕ → Option (String → Option ℕ)

namespace Process

variable (s : Process)

/-- `workers.get(id).is_some_and(|w| !w.handle.is_finished())` -/
def working (id : String) : Prop :=
  ∃ n t, s.workers id = some n ∧ s.threads n = some t ∧ t.stage ≠ .ended

/-- The registry has the sixteen unfinished workers that may run at once. -/
def full : Prop := ∃ ids : List String, ids.Nodup ∧ ids.length = 16 ∧ ∀ id ∈ ids, s.working id

def setThread (n : ℕ) (t : Thread) : Process :=
  { s with threads := Function.update s.threads n (some t) }

def setLock (lock : Option Held) : Process := { s with lock := lock }

def setStore (store : Store) : Process := { s with store := store }

def setWorker (id : String) (n : Option ℕ) : Process :=
  { s with workers := Function.update s.workers id n }

end Process

inductive Action
  | startTask
  | activate
  | spawn
  | spawnFails
  | register
  | stopTask
  | cancel
  | deleteTask
  | deleteRow
  | forget
  | refuse
  | shutdownTasks
  | shutdownCancel
  | shutdownWrite
  | connect
  | saveFirst
  | markFirst
  | saveNext
  | markNext
  | finish
  | endThread
deriving DecidableEq

/-- One statement or transaction of an operation or a worker. -/
inductive Step : Process → Action → Process → Prop
  /-- The handle of an earlier worker is joined, which has ended. -/
  | startTask {s : Process} {actor revision : ℤ} {id : String} :
      s.lock = none → ¬ s.working id → ¬ s.full →
      Step s .startTask ((s.setWorker id none).setLock (some (.starting actor id revision)))
  | activate {s : Process} {actor revision : ℤ} {id : String} {store : Store} :
      s.lock = some (.starting actor id revision) →
      s.store.activateTask id actor revision = .ok store →
      Step s .activate ((s.setStore store).setLock (some (.activated id)))
  | spawn {s : Process} {id : String} {n : ℕ} :
      s.lock = some (.activated id) → s.threads n = none →
      Step s .spawn ((s.setThread n ⟨id, .spawned, false, false⟩).setLock (some (.spawned id n)))
  | spawnFails {s : Process} {id : String} :
      s.lock = some (.activated id) →
      Step s .spawnFails
        ((s.setStore (s.store.finishTaskWithState id (some "无法创建任务线程") false)).setLock none)
  | register {s : Process} {id : String} {n : ℕ} :
      s.lock = some (.spawned id n) →
      Step s .register ((s.setWorker id (some n)).setLock none)
  /-- The request is stored before the worker is cancelled. -/
  | stopTask {s : Process} {actor : ℤ} {id : String} {n : ℕ} {t : Thread} :
      s.lock = none → s.store.requireAdmin actor = .ok () →
      s.workers id = some n → s.threads n = some t →
      Step s .stopTask
        (((s.setStore (s.store.markStopping id)).setThread n
          { t with stopRequested := true }).setLock
          (some (.stopping n)))
  | cancel {s : Process} {n : ℕ} {t : Thread} :
      s.lock = some (.stopping n) → s.threads n = some t →
      Step s .cancel ((s.setThread n { t with cancelled := true }).setLock none)
  | deleteTask {s : Process} {actor : ℤ} {id : String} :
      s.lock = none → ¬ s.working id →
      Step s .deleteTask (s.setLock (some (.deleting actor id)))
  | deleteRow {s : Process} {actor : ℤ} {id : String} {store : Store} :
      s.lock = some (.deleting actor id) → s.store.deleteTask id actor = .ok store →
      Step s .deleteRow ((s.setStore store).setLock (some (.deleted id)))
  | forget {s : Process} {id : String} :
      s.lock = some (.deleted id) →
      Step s .forget ((s.setWorker id none).setLock none)
  /-- A start or a deletion ends with an error of its transaction. -/
  | refuse {s : Process} {actor revision : ℤ} {id : String} :
      s.lock = some (.starting actor id revision) ∨ s.lock = some (.deleting actor id) →
      Step s .refuse (s.setLock none)
  | shutdownTasks {s : Process} {k : ℕ} :
      s.lock = none → s.shutdowns k = none →
      Step s .shutdownTasks { s with
        workers := fun _ => none
        shutdowns := Function.update s.shutdowns k (some s.workers) }
  | shutdownCancel {s : Process} {k n : ℕ} {taken : String → Option ℕ} {id : String}
      {t : Thread} :
      s.shutdowns k = some taken → taken id = some n → s.threads n = some t →
      Step s .shutdownCancel (s.setThread n { t with cancelled := true })
  /-- The workers of the registry that was taken have been joined. -/
  | shutdownWrite {s : Process} {k : ℕ} {taken : String → Option ℕ} :
      s.shutdowns k = some taken →
      (∀ id n t, taken id = some n → s.threads n = some t → t.stage = .ended) →
      Step s .shutdownWrite
        { s.setStore s.store.stopActive with shutdowns := Function.update s.shutdowns k none }
  | connect {s : Process} {n : ℕ} {t : Thread} {task : ReplicationTask} {sinkUuid : String} :
      s.threads n = some t → t.stage = .spawned → s.store.task t.task = .ok task →
      Step s .connect (s.setThread n { t with stage := .connected sinkUuid })
  | saveFirst {s : Process} {n : ℕ} {t : Thread} {checkpoint : Checkpoint} :
      s.threads n = some t → t.stage = .connected checkpoint.sinkUuid →
      Step s .saveFirst ((s.setStore (s.store.saveCheckpoint t.task checkpoint)).setThread n
        { t with stage := .saved checkpoint })
  | markFirst {s : Process} {n : ℕ} {t : Thread} {checkpoint : Checkpoint} {store : Store} :
      s.threads n = some t → t.stage = .saved checkpoint →
      s.store.markRunning t.task checkpoint = .ok store →
      Step s .markFirst ((s.setStore store).setThread n { t with stage := .marked checkpoint })
  /-- At the end of the snapshot, before the run loop and after every transaction. -/
  | saveNext {s : Process} {n : ℕ} {t : Thread} {saved checkpoint : Checkpoint} :
      s.threads n = some t → t.stage = .marked saved → checkpoint.sinkUuid = saved.sinkUuid →
      Step s .saveNext ((s.setStore (s.store.saveCheckpoint t.task checkpoint)).setThread n
        { t with stage := .marked checkpoint })
  | markNext {s : Process} {n : ℕ} {t : Thread} {checkpoint : Checkpoint} {store : Store} :
      s.threads n = some t → t.stage = .marked checkpoint →
      s.store.markRunning t.task checkpoint = .ok store →
      Step s .markNext (s.setStore store)
  /-- `run` has returned, with or without an error, or has panicked. -/
  | finish {s : Process} {n : ℕ} {t : Thread} {error : Option String} {blocked : Bool} :
      s.threads n = some t → t.stage.isLive = true →
      Step s .finish ((s.setStore (s.store.finishTaskWithState t.task error blocked)).setThread n
        { t with stage := .finished })
  | endThread {s : Process} {n : ℕ} {t : Thread} :
      s.threads n = some t → t.stage = .finished →
      Step s .endThread (s.setThread n { t with stage := .ended })

/-- The process after it has opened its store. -/
structure Fresh (s : Process) : Prop where
  inactive : ∀ id, s.store.active id = false
  listed : ∀ id row, s.store.tasks id = some row → id ∈ s.store.taskIds
  threads : ∀ n, s.threads n = none
  workers : ∀ id, s.workers id = none
  lock : s.lock = none
  shutdowns : ∀ k, s.shutdowns k = none

end Workers

end DatabaseSync.Control
