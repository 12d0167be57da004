import DatabaseSync.MysqlSink.Resolution
import DatabaseSync.PostgresqlSink.Checkpoint

/-! # Resolution of lost acknowledgements in the PostgreSQL sink

The two classifications of the PostgreSQL writer against one row, which compute with GTID sets
themselves, and exactly when they agree.
-/

namespace DatabaseSync.PostgresqlSink

open ChangeEvent Checked
open MysqlSink (Admits AcceptableId CheckpointApplyResult CheckpointWriter ReplicationCheckpoint
  SqlTransaction executePlan)

variable {β σ : Type} {db : SinkDb β} {w : CheckpointWriter} {row : LogInfoRow}
  {cp : ReplicationCheckpoint} {t : ChangeTransaction} {id : String} {order : Ordering}
  {cursor : SourceCursor} {lenient : Bool}

/-- A writer that has loaded the row it owns. -/
structure Attached (db : SinkDb β) (w : CheckpointWriter) (row : LogInfoRow)
    (cp : ReplicationCheckpoint) : Prop where
  selected : selectRow db w.taskId = .ok (some row)
  read : checkpointFromRow row = .ok cp
  checkpoint : w.checkpoint = some cp
  binding : checkBinding cp w.sourceUuid w.sinkUuid w.binding = .ok ()

def transactionOrder (cp : ReplicationCheckpoint) (cursor : SourceCursor) :
    Except WriterError Ordering := do
  let (file, position) ← filePosition cursor
  compareCheckpointPosition (some cp.mode) file position cp.file cp.position

/-- The row covers a transaction at `order` from the stored position. -/
def Covers (cp : ReplicationCheckpoint) (id : String) (order : Ordering) : Prop :=
  if cp.mode = "gtid" then gtidIncluded cp id = .ok true else order ≠ .gt

/-- The answer refuses the transaction. With `lenient`, so does `Unprovable`. -/
def Refused (lenient : Bool) : Except WriterError CommitResolution → Prop
  | .error _ => True
  | .ok .unprovable => lenient = true
  | .ok _ => False

/-- The two functions agree on a transaction: an answer of the first is what the second
does, and an inconsistent row is refused by both. -/
structure ResolutionAgrees (σ : Type) (lenient : Bool) (db : SinkDb β) (w : CheckpointWriter)
    (t : ChangeTransaction) : Prop where
  applied : resolveCommitUnknown db w t = .ok .applied →
    ∀ (execute : SqlTransaction σ → β → Except IoError β) plan, ∃ result,
      applyInner execute db w t.source.id t.id t.commitCursor plan = .ok (.covered result)
  not_applied : resolveCommitUnknown db w t = .ok .notApplied →
    ∀ (execute : SqlTransaction σ → β → Except IoError β) plan result,
      applyInner execute db w t.source.id t.id t.commitCursor plan ≠ .ok (.covered result)
  inconsistent : (∀ (execute : SqlTransaction σ → β → Except IoError β) plan,
      applyInner execute db w t.source.id t.id t.commitCursor plan =
        .error (.other "GTID and binlog history disagree")) →
    Refused lenient (resolveCommitUnknown db w t)

/-- The inputs on which the classifications agree. -/
def ClassificationsAgree (lenient : Bool) (w : CheckpointWriter) (cp : ReplicationCheckpoint)
    (t : ChangeTransaction) : Prop :=
  t.source.id = w.sourceUuid → t.id.isEmpty = false → (∃ p, filePosition t.commitCursor = .ok p) →
    if cp.lastTransactionId = some t.id then
      ∃ order, transactionOrder cp t.commitCursor = .ok order ∧ Admits cp t.id ∧
        Covers cp t.id order
    else ∀ order, transactionOrder cp t.commitCursor = .ok order →
      if cp.mode = "gtid" then ∀ included, gtidIncluded cp t.id = .ok included →
        if included then Admits cp t.id
        else order = .gt ∨ order = .eq ∧ (Admits cp t.id → lenient = true)
      else order = .lt → Admits cp t.id

/-! ## What the functions do on an attached row -/

section Functions

theorem alreadyApplied_gtid (hmode : cp.mode = "gtid") {included : Bool} :
    alreadyApplied cp id order = .ok included ↔
      gtidIncluded cp id = .ok included ∧ (included = false → order = .gt) := by
  simp only [alreadyApplied, hmode, if_true, throw_eq, pure_eq, error_bind, guard_eq_ok,
    bind_eq_ok, Except.ok.injEq]
  constructor
  · rintro ⟨included, hincluded, hgreater, rfl⟩
    refine ⟨hincluded, ?_⟩
    rintro rfl
    by_contra horder
    exact hgreater ⟨Bool.false_ne_true, horder⟩
  · rintro ⟨hincluded, hgreater⟩
    exact ⟨included, hincluded, fun h => h.2 (hgreater (Bool.eq_false_iff.mpr h.1)), rfl⟩

theorem alreadyApplied_eq_true_iff :
    alreadyApplied cp id order = .ok true ↔ Covers cp id order := by
  unfold Covers
  by_cases hmode : cp.mode = "gtid"
  · rw [alreadyApplied_gtid hmode, if_pos hmode]
    simp
  · simp [alreadyApplied, hmode]

theorem alreadyApplied_disagrees_iff :
    alreadyApplied cp id order = .error (.other "GTID and binlog history disagree") ↔
      cp.mode = "gtid" ∧ gtidIncluded cp id = .ok false ∧ order ≠ .gt := by
  by_cases hmode : cp.mode = "gtid"
  · cases hincluded : gtidIncluded cp id with
    | error e =>
      have hgtid : ∃ failure, e = .gtid failure := by
        unfold gtidIncluded at hincluded
        rcases bind_eq_error.mp hincluded with h | ⟨one, -, h⟩
        · cases hone : canonicalSingleGtid id with
          | error failure =>
            rw [hone] at h
            exact ⟨failure, (Except.error.inj h).symm⟩
          | ok one =>
            rw [hone] at h
            cases h
        · cases hcontains : gtidContains (cp.gtidSet.getD "") one with
          | error failure =>
            rw [hcontains] at h
            exact ⟨failure, (Except.error.inj h).symm⟩
          | ok included =>
            rw [hcontains] at h
            cases h
      obtain ⟨failure, rfl⟩ := hgtid
      simp [alreadyApplied, hmode, hincluded, WriterError.other]
    | ok included =>
      cases included with
      | true => simp [alreadyApplied, hmode, hincluded]
      | false =>
        by_cases horder : order = .gt
        · simp [alreadyApplied, hmode, hincluded, horder]
        · simp [alreadyApplied, hmode, hincluded, horder]
  · simp [alreadyApplied, hmode]

variable (ha : Attached db w row cp)
include ha

/-- A row that is not incremental, or an unacceptable identity, is refused outright. -/
theorem classifyTransaction_of_not_admits (cursor : SourceCursor) (h : ¬ Admits cp id) :
    ∃ text, text ≠ "GTID and binlog history disagree" ∧
      classifyTransaction db w w.sourceUuid id cursor = .error (.other text) := by
  unfold classifyTransaction
  by_cases hid : AcceptableId id
  · have hphase : cp.phase ≠ "incremental" := fun hp => h ⟨hp, hid⟩
    refine ⟨"snapshot is not committed yet", by decide, ?_⟩
    simp [ha.checkpoint, hphase, hid.1.not_gt, hid.2.1, hid.2.2]
  · refine ⟨"transaction source identity mismatch", by decide, ?_⟩
    have hbad : id.isEmpty = true ∨ 512 < id.utf8ByteSize ∨ ¬ Text.isAscii id = true := by
      by_contra hn
      simp only [not_or, not_lt, Bool.not_eq_true, Bool.not_eq_false] at hn
      exact hid ⟨hn.2.1, hn.1, hn.2.2⟩
    simp only [throw_eq, error_bind]
    exact if_pos (Or.inr hbad)

/-- On an admitted transaction the checks reduce to the comparison and the membership. -/
theorem classifyTransaction_of_admits (h : Admits cp id) :
    classifyTransaction db w w.sourceUuid id cursor = (do
      let (file, position) ← filePosition cursor
      let order ← compareCheckpointPosition (some cp.mode) file position cp.file cp.position
      return (row, cp, file, position, ← alreadyApplied cp id order)) := by
  obtain ⟨hphase, hlen, hne, hascii⟩ := h
  unfold classifyTransaction
  simp [ha.checkpoint, ha.selected, ha.read, ha.binding, hphase, hlen.not_gt, hne, hascii]

/-- What the stored row alone says about a transaction that is not its last one. -/
theorem resolveCommitUnknown_of_attached (hs : t.source.id = w.sourceUuid)
    (hid : t.id.isEmpty = false) : resolveCommitUnknown db w t = (do
      let (file, position) ← filePosition t.commitCursor
      if cp.lastTransactionId = some t.id then return .applied
      let order ← compareCheckpointPosition (some cp.mode) file position cp.file cp.position
      let included ← if cp.mode = "gtid" then gtidIncluded cp t.id else pure false
      if included ∨ order = .lt then return .applied
      else if order = .gt then return .notApplied
      else return .unprovable) := by
  have hload : load db w.taskId = .ok (some cp) := by
    rw [load, ha.selected, ok_bind, Option.mapM_some, ha.read]
    rfl
  unfold resolveCommitUnknown
  simp [hload, ha.binding, hs, hid]

end Functions

/-! ## Covered transactions -/

section Covered

variable {execute : SqlTransaction σ → β → Except IoError β} {plan : Option (SqlTransaction σ)}

theorem applyFresh_ne_covered {file : String} {position : ℕ} {result : CheckpointApplyResult} :
    applyFresh execute db w row cp id file position plan ≠ .ok (.covered result) := by
  intro h
  unfold applyFresh at h
  cases hobserved : w.observedPosition with
  | none =>
    simp only [hobserved, pure_eq, bind_eq_ok, Except.ok.injEq] at h
    obtain ⟨_, -, _, -, _, -, hready⟩ := h
    cases hready
  | some p =>
    simp only [hobserved, throw_eq, pure_eq, error_bind, guard_eq_ok, bind_eq_ok,
      Except.ok.injEq] at h
    obtain ⟨_, -, -, _, -, _, -, _, -, hready⟩ := h
    cases hready

/-- The row covers a transaction exactly when apply reports it as already applied. -/
theorem covered_iff (ha : Attached db w row cp) :
    (∃ result, applyInner execute db w w.sourceUuid id cursor plan = .ok (.covered result)) ↔
      ∃ order, transactionOrder cp cursor = .ok order ∧ Admits cp id ∧ Covers cp id order := by
  unfold applyInner
  by_cases had : Admits cp id
  · rw [classifyTransaction_of_admits ha had]
    simp only [bind_eq_ok, pure_eq, Except.ok.injEq, transactionOrder, had, true_and,
      ← alreadyApplied_eq_true_iff]
    constructor
    · rintro ⟨result, _, ⟨p, hp, order, horder, already, halready, rfl⟩, h⟩
      cases already with
      | true => exact ⟨order, ⟨p, hp, horder⟩, halready⟩
      | false => exact absurd h applyFresh_ne_covered
    · rintro ⟨order, ⟨p, hp, horder⟩, halready⟩
      exact ⟨⟨cp, 0, true⟩, _, ⟨p, hp, order, horder, true, halready, rfl⟩, rfl⟩
  · obtain ⟨text, -, h⟩ := classifyTransaction_of_not_admits ha cursor had
    simp [h, had]

end Covered

/-! ## Inconsistent rows -/

section Inconsistent

/-- Not the error of a row whose set and position contradict each other. -/
def Unrelated (e : WriterError) : Prop := e ≠ .other "GTID and binlog history disagree"

theorem unrelated_other {text : String} (h : text ≠ "GTID and binlog history disagree") :
    Unrelated (.other text) := by
  intro heq
  simp only [WriterError.other, IoError.other, WriterError.io.injEq, IoError.mk.injEq,
    IoErrorCause.message.injEq, true_and] at heq
  exact h heq

/-- The errors that the two sinks share. -/
theorem unrelated_io {α : Type} {x : Except IoError α} (h : FailsWith MysqlSink.Unrelated x) :
    FailsWith Unrelated (x.mapError .io) := by
  intro e he
  cases x with
  | ok a => cases he
  | error cause =>
    obtain rfl : e = .io cause := (Except.error.inj he).symm
    intro heq
    exact h cause rfl (WriterError.io.inj heq)

theorem compareCheckpointPosition_failsWith {mode : Option String} {a b : String} {ap bp : ℕ} :
    FailsWith Unrelated (compareCheckpointPosition mode a ap b bp) :=
  unrelated_io MysqlSink.compareCheckpointPosition_failsWith

theorem filePosition_failsWith : FailsWith Unrelated (filePosition cursor) := by
  unfold filePosition
  refine .ite (.bind (unrelated_io MysqlSink.parsePostgresqlLsn_failsWith) fun _ => failsWith_ok) ?_
  exact unrelated_io MysqlSink.filePosition_failsWith

theorem merge_failsWith {left : Option String} {right : String} :
    FailsWith Unrelated (merge left right) := by
  unfold merge
  cases mergeGtids left right with
  | ok set => exact failsWith_ok
  | error e => exact failsWith_error.mpr nofun

theorem toI64_failsWith {value : ℕ} : FailsWith Unrelated (toI64 value) := by
  unfold toI64
  split
  · exact failsWith_ok
  · exact failsWith_error.mpr (unrelated_other (by decide))

/-- A transaction without statements fails for other reasons once it has been classified. -/
theorem applyFresh_failsWith {execute : SqlTransaction σ → β → Except IoError β} {file : String}
    {position : ℕ} :
    FailsWith Unrelated (applyFresh execute db w row cp id file position none) := by
  have hadvance (rows : ℕ) :
      FailsWith Unrelated (advanceCheckpoint cp w.observedGtids id file position rows) := by
    have hoverflow : Unrelated (.other "checkpoint revision overflow") :=
      unrelated_other (by decide)
    unfold advanceCheckpoint
    simp only [throw_eq, pure_eq, ok_bind, error_bind]
    split
    · exact .bind merge_failsWith fun _ => .bind merge_failsWith fun _ =>
        .ite (failsWith_error.mpr hoverflow) failsWith_ok
    · exact .ite (failsWith_error.mpr hoverflow) failsWith_ok
  have hupdate (next : ReplicationCheckpoint) : FailsWith Unrelated (updateRow row next) :=
    .bind toI64_failsWith fun _ => .bind toI64_failsWith fun _ => .bind toI64_failsWith fun _ =>
      .bind toI64_failsWith fun _ => failsWith_ok
  have hrest (r : β × ℕ) : FailsWith Unrelated (do
      let cp ← advanceCheckpoint cp w.observedGtids id file position r.2
      return ApplyOutcome.ready ⟨cp, r.2, false⟩ (← updateRow row cp) r.1) :=
    .bind (hadvance r.2) fun next => .bind (hupdate next) fun _ => failsWith_ok
  unfold applyFresh
  cases w.observedPosition with
  | none => exact .bind failsWith_ok hrest
  | some p =>
    refine compareCheckpointPosition_failsWith.bind fun order => .ite ?_ (.bind failsWith_ok hrest)
    exact failsWith_error.mpr (unrelated_other (by decide))

/-- Apply refuses a transaction as inconsistent exactly when its GTID is outside the set
although its position is not after the stored one. -/
theorem disagrees_iff (ha : Attached db w row cp) :
    (∀ (execute : SqlTransaction σ → β → Except IoError β) plan,
      applyInner execute db w w.sourceUuid id cursor plan =
        .error (.other "GTID and binlog history disagree")) ↔
      Admits cp id ∧ ∃ order, transactionOrder cp cursor = .ok order ∧ cp.mode = "gtid" ∧
        gtidIncluded cp id = .ok false ∧ order ≠ .gt := by
  have hclassify : (∀ (execute : SqlTransaction σ → β → Except IoError β) plan,
      applyInner execute db w w.sourceUuid id cursor plan =
        .error (.other "GTID and binlog history disagree")) ↔
      classifyTransaction db w w.sourceUuid id cursor =
        .error (.other "GTID and binlog history disagree") := by
    unfold applyInner
    cases hc : classifyTransaction db w w.sourceUuid id cursor with
    | error e => simp
    | ok r =>
      obtain ⟨row, cp, file, position, already⟩ := r
      refine ⟨fun h => ?_, fun h => nomatch h⟩
      have hnone := h (fun _ b => .ok b) none
      cases already with
      | true => cases hnone
      | false => exact absurd rfl (applyFresh_failsWith _ hnone)
  rw [hclassify]
  by_cases had : Admits cp id
  · rw [classifyTransaction_of_admits ha had]
    simp only [had, true_and, transactionOrder, ← alreadyApplied_disagrees_iff]
    cases hf : filePosition cursor with
    | error e => simpa [Unrelated] using filePosition_failsWith e hf
    | ok p =>
      simp only [ok_bind]
      cases ho : compareCheckpointPosition (some cp.mode) p.1 p.2 cp.file cp.position with
      | error e => simpa [Unrelated] using compareCheckpointPosition_failsWith e ho
      | ok order => simp
  · obtain ⟨text, hne, h⟩ := classifyTransaction_of_not_admits ha cursor had
    rw [h]
    exact iff_of_false (fun heq => unrelated_other hne (Except.error.inj heq)) fun hn => had hn.1

end Inconsistent

/-! ## Agreement -/

/-- A transaction that resolution refuses leaves nothing to agree on. -/
theorem resolutionAgrees_of_error {e : WriterError} (h : resolveCommitUnknown db w t = .error e) :
    ResolutionAgrees σ lenient db w t :=
  ⟨fun ha => by simp [h] at ha, fun hn => by simp [h] at hn, fun _ => by simp [h, Refused]⟩

/-- With an answer in hand, agreement is a matter of what the row says. -/
theorem resolutionAgrees_of_ok (ha : Attached db w row cp) (hs : t.source.id = w.sourceUuid)
    {answer : CommitResolution} (hr : resolveCommitUnknown db w t = .ok answer)
    (ho : transactionOrder cp t.commitCursor = .ok order) :
    ResolutionAgrees σ lenient db w t ↔
      (answer = .applied → Admits cp t.id ∧ Covers cp t.id order) ∧
      (answer = .notApplied → ¬ (Admits cp t.id ∧ Covers cp t.id order)) ∧
      (Admits cp t.id ∧ cp.mode = "gtid" ∧ gtidIncluded cp t.id = .ok false ∧ order ≠ .gt →
        Refused lenient (.ok answer)) := by
  have hcov (execute : SqlTransaction σ → β → Except IoError β) (plan) :
      (∃ result, applyInner execute db w t.source.id t.id t.commitCursor plan =
        .ok (.covered result)) ↔ Admits cp t.id ∧ Covers cp t.id order := by
    rw [hs, covered_iff ha, ho]
    simp
  have hdis : (∀ (execute : SqlTransaction σ → β → Except IoError β) plan,
      applyInner execute db w t.source.id t.id t.commitCursor plan =
        .error (.other "GTID and binlog history disagree")) ↔
      Admits cp t.id ∧ cp.mode = "gtid" ∧ gtidIncluded cp t.id = .ok false ∧ order ≠ .gt := by
    rw [hs, disagrees_iff ha, ho]
    simp
  constructor
  · intro h
    refine ⟨fun hans => ?_, fun hans hc => ?_, fun hd => ?_⟩
    · exact (hcov (fun _ b => .ok b) none).mp (h.applied (hans ▸ hr) _ _)
    · obtain ⟨result, hres⟩ := (hcov (fun _ b => .ok b) none).mpr hc
      exact h.not_applied (hans ▸ hr) _ _ _ hres
    · exact hr ▸ h.inconsistent (hdis.mpr hd)
  · rintro ⟨happlied, hnot, hd⟩
    refine ⟨fun h execute plan => ?_, fun h execute plan result hres => ?_, fun h => ?_⟩
    · exact (hcov execute plan).mpr (happlied (by simpa [hr] using h))
    · exact hnot (by simpa [hr] using h) ((hcov execute plan).mp ⟨result, hres⟩)
    · exact hr ▸ hd (hdis.mp h)

theorem agrees_iff_of_last (ha : Attached db w row cp) (hs : t.source.id = w.sourceUuid)
    (hid : t.id.isEmpty = false) {p : String × ℕ} (hp : filePosition t.commitCursor = .ok p)
    (hlast : cp.lastTransactionId = some t.id) :
    ResolutionAgrees σ lenient db w t ↔ ∃ order, transactionOrder cp t.commitCursor = .ok order ∧
      Admits cp t.id ∧ Covers cp t.id order := by
  have hr : resolveCommitUnknown db w t = .ok .applied := by
    simp [resolveCommitUnknown_of_attached ha hs hid, hp, hlast]
  cases ho : transactionOrder cp t.commitCursor with
  | error e =>
    refine iff_of_false (fun h => ?_) (by simp)
    have hcovered := h.applied hr (fun _ b => .ok b) none
    rw [hs, covered_iff ha, ho] at hcovered
    simp at hcovered
  | ok order =>
    rw [resolutionAgrees_of_ok ha hs hr ho]
    constructor
    · rintro ⟨h, -, -⟩
      exact ⟨order, rfl, h rfl⟩
    · rintro ⟨_, ⟨⟩, had, hc⟩
      refine ⟨fun _ => ⟨had, hc⟩, nofun, ?_⟩
      rintro ⟨-, hmode, hincluded, -⟩
      rw [Covers, if_pos hmode, hincluded] at hc
      cases hc

theorem agrees_iff_of_other (ha : Attached db w row cp) (hs : t.source.id = w.sourceUuid)
    (hid : t.id.isEmpty = false) {p : String × ℕ} (hp : filePosition t.commitCursor = .ok p)
    (hlast : cp.lastTransactionId ≠ some t.id) :
    ResolutionAgrees σ lenient db w t ↔ ∀ order, transactionOrder cp t.commitCursor = .ok order →
      if cp.mode = "gtid" then ∀ included, gtidIncluded cp t.id = .ok included →
        if included then Admits cp t.id
        else order = .gt ∨ order = .eq ∧ (Admits cp t.id → lenient = true)
      else order = .lt → Admits cp t.id := by
  have hto : transactionOrder cp t.commitCursor =
      compareCheckpointPosition (some cp.mode) p.1 p.2 cp.file cp.position := by
    simp [transactionOrder, hp]
  have hresolve := resolveCommitUnknown_of_attached ha hs hid
  simp only [hp, ok_bind, if_neg hlast, ← hto] at hresolve
  cases ho : transactionOrder cp t.commitCursor with
  | error e =>
    refine iff_of_true (resolutionAgrees_of_error (e := e) ?_) (by simp)
    simpa [ho] using hresolve
  | ok order =>
    by_cases hmode : cp.mode = "gtid"
    · cases hi : gtidIncluded cp t.id with
      | error e =>
        refine iff_of_true (resolutionAgrees_of_error (e := e) ?_) (by simp [hmode])
        simpa [ho, hmode, hi] using hresolve
      | ok included =>
        simp only [ho, hmode, hi, if_true, ok_bind] at hresolve
        cases included
        · cases order
          all_goals
            rw [resolutionAgrees_of_ok ha hs (by simpa using hresolve) ho]
            simp [hmode, hi, Covers, Refused]
        · rw [resolutionAgrees_of_ok ha hs (by simpa using hresolve) ho]
          simp [hmode, hi, Covers, Refused]
    · simp only [ho, hmode, if_false, ok_bind, pure_eq] at hresolve
      cases order
      all_goals
        rw [resolutionAgrees_of_ok ha hs (by simpa using hresolve) ho]
        simp [hmode, Covers, Refused]

/-- The classifications of the PostgreSQL writer agree exactly on the inputs of
`ClassificationsAgree`. -/
theorem postgresql_resolution_agrees_iff (ha : Attached db w row cp) :
    ResolutionAgrees σ lenient db w t ↔ ClassificationsAgree lenient w cp t := by
  have hvacuous (h : ∃ e, resolveCommitUnknown db w t = .error e)
      (hc : ClassificationsAgree lenient w cp t) :
      ResolutionAgrees σ lenient db w t ↔ ClassificationsAgree lenient w cp t :=
    iff_of_true (resolutionAgrees_of_error h.choose_spec) hc
  by_cases hs : t.source.id = w.sourceUuid
  swap
  · exact hvacuous ⟨_, if_pos (Or.inl hs)⟩ fun h => absurd h hs
  cases hid : t.id.isEmpty with
  | true => exact hvacuous ⟨_, if_pos (Or.inr hid)⟩ fun _ h => by simp [hid] at h
  | false =>
    cases hp : filePosition t.commitCursor with
    | error e =>
      refine hvacuous ⟨e, ?_⟩ fun _ _ ⟨p, h⟩ => by simp [hp] at h
      simp [resolveCommitUnknown_of_attached ha hs hid, hp]
    | ok p =>
      simp only [ClassificationsAgree, hs, hid, hp, Except.ok.injEq, exists_eq', forall_const]
      split
      · exact agrees_iff_of_last ha hs hid hp ‹_›
      · exact agrees_iff_of_other ha hs hid hp ‹_›

end DatabaseSync.PostgresqlSink
