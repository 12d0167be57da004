import DatabaseSync.Library.Transition
import DatabaseSync.Library.Watermark
import DatabaseSync.MysqlSink.Spec

/-! # The apply loop of the task worker

One task replicates the committed transactions of a source into a MySQL sink. The worker
streams them in order, observes those without selected rows and applies the others with
recovery: retryable failures reopen the writer and replay, a lost acknowledgement is resolved
from the stored row first. Failures of the database are choices of the step relation. The
advisory lock keeps the system to one writer; the next one opens after the outcome of the
previous connection is decided.
-/

namespace DatabaseSync.Worker

open ChangeEvent Checked MysqlSink

variable {β σ : Type}

def maxApplyRetries : ℕ := 3

/-- A task's route: its identity, and what the sink adapter does with a transaction. -/
structure Route (β σ : Type) where
  taskId : String
  sourceUuid : String
  binding : String
  gtids : GtidServer
  sqlWithPlans : ChangeTransaction → Except IoError (List (String × String) × List σ)
  execute : SqlTransaction σ → β → Except IoError β

/-- A transaction with selected rows. -/
def rowBearing (t : ChangeTransaction) : Bool := !t.changes.isEmpty

namespace Route

variable (r : Route β σ)

def plan (t : ChangeTransaction) : Except IoError (SqlTransaction σ) := do
  let (tables, statements) ← r.sqlWithPlans t
  return ⟨t.id, t.source.id, t.commitCursor, tables, statements⟩

/-- What a transaction does to the business rows. -/
def effect (business : β) (t : ChangeTransaction) : Except IoError β := do
  r.execute (← r.plan t) business

/-- `Sink::apply`: an empty projection only advances the checkpoint. -/
def apply (db : SinkDb β) (w : CheckpointWriter) (t : ChangeTransaction) :
    Except IoError (ApplyOutcome β) := do
  if t.changes.isEmpty then advance r.gtids r.execute db w t
  else MysqlSink.apply r.gtids r.execute db w (← r.plan t)

section Spec

variable {r} {db : SinkDb β} {w : CheckpointWriter} {t : ChangeTransaction}
  {result : CheckpointApplyResult} {business : β}

theorem apply_covered (h : r.apply db w t = .ok (.covered result)) :
    ∃ cp file position, Classified r.gtids db w cp t.source.id t.id t.commitCursor file position
      true := by
  unfold apply at h
  split at h
  · simp only [advance, throw_eq, error_bind, guard_eq_ok] at h
    obtain ⟨cp, file, position, hc, -⟩ := applyInner_covered h.2
    exact ⟨cp, file, position, hc⟩
  · simp only [plan, MysqlSink.apply, pure_eq, bind_eq_ok, Except.ok.injEq] at h
    obtain ⟨_, ⟨_, -, rfl⟩, h⟩ := h
    obtain ⟨cp, file, position, hc, -⟩ := applyInner_covered h
    exact ⟨cp, file, position, hc⟩

/-- A transaction ready to commit has had its effect on the business rows. -/
theorem apply_ready (h : r.apply db w t = .ok (.ready result business)) :
    ∃ cp file position rows,
      Classified r.gtids db w cp t.source.id t.id t.commitCursor file position false ∧
      (if rowBearing t then r.effect db.business t = .ok business else business = db.business) ∧
      advanceCheckpoint r.gtids cp w.observedGtids t.id file position rows =
        .ok result.checkpoint := by
  unfold apply at h
  split at h
  case isTrue hempty =>
    simp only [advance, throw_eq, error_bind, guard_eq_ok] at h
    obtain ⟨cp, file, position, rows, hc, hplan, hcp⟩ := applyInner_ready h.2
    simp only [executePlan, pure_eq, Except.ok.injEq, Prod.mk.injEq] at hplan
    exact ⟨cp, file, position, rows, hc, by simp [rowBearing, hempty, hplan.1], hcp⟩
  case isFalse hne =>
    simp only [bind_eq_ok, MysqlSink.apply] at h
    obtain ⟨p, hp, h⟩ := h
    have hid : p.sourceUuid = t.source.id ∧ p.sourceTransactionId = t.id ∧
        p.commitCursor = t.commitCursor := by
      simp only [plan, pure_eq, bind_eq_ok, Except.ok.injEq] at hp
      obtain ⟨_, -, rfl⟩ := hp
      exact ⟨rfl, rfl, rfl⟩
    rw [hid.1, hid.2.1, hid.2.2] at h
    obtain ⟨cp, file, position, rows, hc, hplan, hcp⟩ := applyInner_ready h
    simp only [executePlan, pure_eq, bind_eq_ok, Except.ok.injEq, Prod.mk.injEq] at hplan
    obtain ⟨_, hexec, rfl, -⟩ := hplan
    refine ⟨cp, file, position, rows, hc, ?_, hcp⟩
    simp [rowBearing, hne, effect, hp, hexec]

end Spec

end Route

/-- Which call of `active.apply` is under way. -/
inductive Attempt
  | first (retries : ℕ)
  | replay

/-- Where the worker is. Transactions still to be consumed are carried along. -/
inductive Phase
  | down
  | streaming (w : CheckpointWriter) (rest : List ChangeTransaction)
      (lastFiltered : Option ChangeTransaction)
  | applying (w : CheckpointWriter) (t : ChangeTransaction) (rest : List ChangeTransaction)
      (attempt : Attempt)
  | reopening (t : ChangeTransaction) (rest : List ChangeTransaction) (retries : ℕ)
  | unknown (t : ChangeTransaction) (rest : List ChangeTransaction)
  | resolving (w : CheckpointWriter) (t : ChangeTransaction) (rest : List ChangeTransaction)

structure System (β : Type) where
  db : SinkDb β
  phase : Phase

/-- The commit position of the transaction is at or before the stored one. -/
def upTo (cp : ReplicationCheckpoint) (t : ChangeTransaction) : Bool :=
  match transactionOrder cp t.commitCursor with
  | .ok .lt | .ok .eq => true
  | _ => false

/-- The stored row covers a transaction, so the source need not send it again. -/
def Delivered (r : Route β σ) (cp : ReplicationCheckpoint) (t : ChangeTransaction) : Prop :=
  if cp.mode = "gtid" then gtidIncluded r.gtids cp t.id = .ok true else upTo cp t = true

/-- A stream resumed from a row sends at least what the row does not cover, in order. -/
structure Resumes (r : Route β σ) (history : List ChangeTransaction) (cp : ReplicationCheckpoint)
    (rest : List ChangeTransaction) : Prop where
  in_order : rest.Sublist history
  complete : ∀ t ∈ history, t ∈ rest ∨ Delivered r cp t

inductive Action
  | start
  | observe
  | deliver
  | flush
  | covered
  | commit
  | failRetry
  | loseCommit (committed : Bool)
  | reopen
  | resolveOpen
  | resolveApplied
  | resolveNotApplied
  | stop
deriving DecidableEq

variable (r : Route β σ) (history : List ChangeTransaction)

/-- One step of the worker and its databases. -/
inductive Step : System β → Action → System β → Prop
  | start {db db' : SinkDb β} {server : SinkServer} {w : CheckpointWriter}
      {cp : ReplicationCheckpoint} {rest : List ChangeTransaction} :
      openWriter server db r.taskId r.sourceUuid r.binding = .ok (w, db') →
      w.checkpoint = some cp → Resumes r history cp rest →
      Step ⟨db, .down⟩ .start ⟨db', .streaming w rest none⟩
  | observe {db : SinkDb β} {w w' : CheckpointWriter} {t : ChangeTransaction}
      {rest : List ChangeTransaction} {last : Option ChangeTransaction} :
      rowBearing t = false → MysqlSink.observe r.gtids w t = .ok w' →
      Step ⟨db, .streaming w (t :: rest) last⟩ .observe ⟨db, .streaming w' rest (some t)⟩
  | deliver {db : SinkDb β} {w : CheckpointWriter} {t : ChangeTransaction}
      {rest : List ChangeTransaction} {last : Option ChangeTransaction} :
      rowBearing t = true →
      Step ⟨db, .streaming w (t :: rest) last⟩ .deliver ⟨db, .applying w t rest (.first 0)⟩
  /-- The advance past the last filtered transaction when the stream ends. -/
  | flush {db : SinkDb β} {w : CheckpointWriter} {t : ChangeTransaction}
      {rest : List ChangeTransaction} :
      Step ⟨db, .streaming w rest (some t)⟩ .flush ⟨db, .applying w t rest (.first 0)⟩
  | covered {db : SinkDb β} {w : CheckpointWriter} {t : ChangeTransaction}
      {rest : List ChangeTransaction} {attempt : Attempt} {result : CheckpointApplyResult} :
      r.apply db w t = .ok (.covered result) →
      Step ⟨db, .applying w t rest attempt⟩ .covered ⟨db, .streaming w rest none⟩
  | commit {db : SinkDb β} {w : CheckpointWriter} {t : ChangeTransaction}
      {rest : List ChangeTransaction} {attempt : Attempt} {result : CheckpointApplyResult}
      {business : β} :
      r.apply db w t = .ok (.ready result business) →
      Step ⟨db, .applying w t rest attempt⟩ .commit
        ⟨db.store w.taskId result.checkpoint business,
          .streaming (w.committed result.checkpoint) rest none⟩
  /-- Any call before `COMMIT` fails with a retryable error; the transaction is rolled back. -/
  | failRetry {db : SinkDb β} {w : CheckpointWriter} {t : ChangeTransaction}
      {rest : List ChangeTransaction} {retries : ℕ} {error : IoError} :
      (classifyApplyError error).isRetryable = true → retries < maxApplyRetries →
      Step ⟨db, .applying w t rest (.first retries)⟩ .failRetry
        ⟨db, .reopening t rest (retries + 1)⟩
  /-- `COMMIT` is not acknowledged. A second unknown outcome ends the run. -/
  | loseCommit {db : SinkDb β} {w : CheckpointWriter} {t : ChangeTransaction}
      {rest : List ChangeTransaction} {attempt : Attempt} {result : CheckpointApplyResult}
      {business : β} (committed : Bool) :
      r.apply db w t = .ok (.ready result business) →
      Step ⟨db, .applying w t rest attempt⟩ (.loseCommit committed)
        ⟨if committed then db.store w.taskId result.checkpoint business else db,
          match attempt with
          | .first _ => .unknown t rest
          | .replay => .down⟩
  | reopen {db db' : SinkDb β} {server : SinkServer} {w : CheckpointWriter} {t : ChangeTransaction}
      {rest : List ChangeTransaction} {retries : ℕ} :
      openWriter server db r.taskId r.sourceUuid r.binding = .ok (w, db') →
      Step ⟨db, .reopening t rest retries⟩ .reopen ⟨db', .applying w t rest (.first retries)⟩
  | resolveOpen {db db' : SinkDb β} {server : SinkServer} {w : CheckpointWriter}
      {t : ChangeTransaction} {rest : List ChangeTransaction} :
      openWriter server db r.taskId r.sourceUuid r.binding = .ok (w, db') →
      Step ⟨db, .unknown t rest⟩ .resolveOpen ⟨db', .resolving w t rest⟩
  | resolveApplied {db : SinkDb β} {w : CheckpointWriter} {t : ChangeTransaction}
      {rest : List ChangeTransaction} :
      resolveCommitUnknown r.gtids db w t = .ok .applied →
      Step ⟨db, .resolving w t rest⟩ .resolveApplied ⟨db, .streaming w rest none⟩
  | resolveNotApplied {db : SinkDb β} {w : CheckpointWriter} {t : ChangeTransaction}
      {rest : List ChangeTransaction} :
      resolveCommitUnknown r.gtids db w t = .ok .notApplied →
      Step ⟨db, .resolving w t rest⟩ .resolveNotApplied ⟨db, .applying w t rest .replay⟩
  /-- The run ends: a stop, a crash, or an error that recovery does not handle. -/
  | stop {db : SinkDb β} {phase : Phase} : Step ⟨db, phase⟩ .stop ⟨db, .down⟩

end DatabaseSync.Worker
