import DatabaseSync.MysqlSink.Spec

/-! # Resolution of lost acknowledgements against apply

`resolve_commit_unknown` and `apply_inner` classify a transaction against the same row
independently. This module states when the two classifications agree and shows that the
condition is exact.
-/

namespace DatabaseSync.MysqlSink

open ChangeEvent Checked Text

variable {β σ : Type} {gs : GtidServer} {db : SinkDb β} {w : CheckpointWriter}
  {cp : ReplicationCheckpoint} {t : ChangeTransaction} {id : String} {order : Ordering}
  {lenient : Bool}

/-- A writer that has loaded the row it owns. -/
structure Attached (db : SinkDb β) (w : CheckpointWriter) (cp : ReplicationCheckpoint) : Prop where
  loaded : load db w.taskId = .ok (some cp)
  engine : db.logInfo.map (·.engine) = some "InnoDB"
  checkpoint : w.checkpoint = some cp
  binding : checkBinding cp w.sourceUuid w.sinkUuid w.binding = .ok ()

/-- Opening a writer over an existing row attaches it. -/
theorem openWriter_attached {server : SinkServer} {db₀ : SinkDb β} {task source binding : String}
    (h : openWriter server db₀ task source binding = .ok (w, db)) (hcp : w.checkpoint = some cp) :
    Attached db w cp := by
  cases hs : server.serverUuid with
  | none => simp [openWriter, hs] at h
  | some sink =>
    simp only [openWriter, hs, throw_eq, pure_eq, error_bind, guard_eq_ok, bind_eq_ok] at h
    obtain ⟨-, -, -, -, hengine, -, checkpoint, hload, h⟩ := h
    cases checkpoint with
    | none =>
      simp only [Except.ok.injEq, Prod.mk.injEq] at h
      simp [← h.1] at hcp
    | some row =>
      simp only [bind_eq_ok, Except.ok.injEq, Prod.mk.injEq] at h
      obtain ⟨⟨⟩, hbinding, rfl, rfl⟩ := h
      simp only [Option.some.injEq] at hcp
      subst hcp
      exact ⟨hload, by simpa using hengine, rfl, hbinding⟩

/-- The identity is one `apply_inner` accepts at all. -/
def AcceptableId (id : String) : Prop :=
  id.utf8ByteSize ≤ 512 ∧ id.isEmpty = false ∧ isAscii id = true

/-- The row is in a state, and the identity of a form, that `apply_inner` classifies. -/
def Admits (cp : ReplicationCheckpoint) (id : String) : Prop :=
  cp.phase = "incremental" ∧ AcceptableId id

/-- The row covers a transaction at `order` from the stored position. -/
def Covers (gs : GtidServer) (cp : ReplicationCheckpoint) (id : String) (order : Ordering) : Prop :=
  if cp.mode = "gtid" then SingleGtid id ∧ gtidIncluded gs cp id = .ok true else order ≠ .gt

theorem alreadyApplied_eq_true_iff :
    alreadyApplied gs cp id order = .ok true ↔ Covers gs cp id order := by
  unfold Covers
  by_cases hmode : cp.mode = "gtid"
  · simp [alreadyApplied_gtid hmode, hmode]
  · simp [alreadyApplied, hmode]

/-- A row that is not incremental, or an unacceptable identity, is refused outright. -/
theorem classifyTransaction_of_not_admits (gs : GtidServer) (cursor : SourceCursor)
    (ha : Attached db w cp) (h : ¬ Admits cp id) : ∃ text, text ≠ "GTID and binlog history disagree" ∧
      classifyTransaction gs db w w.sourceUuid id cursor = .error (.other text) := by
  unfold classifyTransaction
  by_cases hid : AcceptableId id
  · have hphase : cp.phase ≠ "incremental" := fun hp => h ⟨hp, hid⟩
    refine ⟨"snapshot is not committed yet", by decide, ?_⟩
    simp [ha.checkpoint, hphase, hid.1.not_gt, hid.2.1, hid.2.2]
  · refine ⟨"transaction source identity mismatch", by decide, ?_⟩
    have : 512 < id.utf8ByteSize ∨ id.isEmpty = true ∨ ¬ isAscii id = true := by
      by_contra hn
      simp only [not_or, not_lt, Bool.not_eq_true, Bool.not_eq_false] at hn
      exact hid hn
    simp only [throw_eq, error_bind]
    exact if_pos (Or.inr this)

/-- On an admitted transaction the checks reduce to the comparison and the membership. -/
theorem classifyTransaction_of_admits (ha : Attached db w cp) (h : Admits cp id)
    {cursor : SourceCursor} :
    classifyTransaction gs db w w.sourceUuid id cursor = (do
      let (file, position) ← filePosition cursor
      let order ← compareCheckpointPosition (some cp.mode) file position cp.file cp.position
      return (cp, file, position, ← alreadyApplied gs cp id order)) := by
  obtain ⟨hphase, hlen, hne, hascii⟩ := h
  unfold classifyTransaction
  simp [ha.checkpoint, ha.loaded, ha.engine, ha.binding, hphase, hlen.not_gt, hne, hascii]

/-- What the stored row alone says about a transaction that is not its last one. -/
theorem resolveCommitUnknown_of_attached (ha : Attached db w cp) (hs : t.source.id = w.sourceUuid)
    (hid : t.id.isEmpty = false) : resolveCommitUnknown gs db w t = (do
      let (file, position) ← filePosition t.commitCursor
      if cp.lastTransactionId = some t.id then return .applied
      let order ← compareCheckpointPosition (some cp.mode) file position cp.file cp.position
      let included ← if cp.mode = "gtid" then gtidIncluded gs cp t.id else pure false
      if included ∨ order = .lt then return .applied
      else if order = .gt then return .notApplied
      else return .unprovable) := by
  unfold resolveCommitUnknown gtidIncluded
  simp [ha.loaded, ha.binding, hs, hid]

/-- The answer refuses the transaction. With `lenient`, so does `Unprovable`, which the
recovery loop turns into the error it started from. -/
def Refused (lenient : Bool) : Except IoError CommitResolution → Prop
  | .error _ => True
  | .ok .unprovable => lenient = true
  | .ok _ => False

/-- The two functions agree on a transaction: an answer of the first is what the second
does, and an inconsistent row is refused by both. -/
structure ResolutionAgrees (σ : Type) (lenient : Bool) (gs : GtidServer) (db : SinkDb β)
    (w : CheckpointWriter) (t : ChangeTransaction) : Prop where
  applied : resolveCommitUnknown gs db w t = .ok .applied →
    ∀ (execute : SqlTransaction σ → β → Except IoError β) plan, ∃ result,
      applyInner gs execute db w t.source.id t.id t.commitCursor plan = .ok (.covered result)
  not_applied : resolveCommitUnknown gs db w t = .ok .notApplied →
    ∀ (execute : SqlTransaction σ → β → Except IoError β) plan result,
      applyInner gs execute db w t.source.id t.id t.commitCursor plan ≠ .ok (.covered result)
  inconsistent : (∀ (execute : SqlTransaction σ → β → Except IoError β) plan,
      applyInner gs execute db w t.source.id t.id t.commitCursor plan =
        .error (.other "GTID and binlog history disagree")) →
    Refused lenient (resolveCommitUnknown gs db w t)

/-- The inputs on which the classifications agree. Only well-formed transactions of the
route's source are constrained; every other one both functions refuse. -/
def ClassificationsAgree (lenient : Bool) (gs : GtidServer) (w : CheckpointWriter)
    (cp : ReplicationCheckpoint) (t : ChangeTransaction) : Prop :=
  t.source.id = w.sourceUuid → t.id.isEmpty = false → (∃ p, filePosition t.commitCursor = .ok p) →
    if cp.lastTransactionId = some t.id then
      ∃ order, transactionOrder cp t.commitCursor = .ok order ∧ Admits cp t.id ∧
        Covers gs cp t.id order
    else ∀ order, transactionOrder cp t.commitCursor = .ok order →
      if cp.mode = "gtid" then ∀ included, gtidIncluded gs cp t.id = .ok included →
        if included then Admits cp t.id ∧ SingleGtid t.id
        else order = .gt ∨ order = .eq ∧ (Admits cp t.id → SingleGtid t.id → lenient = true)
      else order = .lt → Admits cp t.id

section Outcome

variable {execute : SqlTransaction σ → β → Except IoError β} {source file : String} {position : ℕ}
  {cursor : SourceCursor} {plan : Option (SqlTransaction σ)} {result : CheckpointApplyResult}

theorem exists_covered_iff :
    (∃ result, applyInner gs execute db w source id cursor plan = .ok (.covered result)) ↔
      ∃ row file position,
        classifyTransaction gs db w source id cursor = .ok (row, file, position, true) := by
  unfold applyInner
  cases hc : classifyTransaction gs db w source id cursor with
  | error e => simp
  | ok r =>
    obtain ⟨row, file, position, already⟩ := r
    cases already
    · simp [applyFresh_ne_covered]
    · simp

/-- The row covers a transaction exactly when apply reports it as already applied. -/
theorem covered_iff (ha : Attached db w cp) :
    (∃ result, applyInner gs execute db w w.sourceUuid id cursor plan = .ok (.covered result)) ↔
      ∃ order, transactionOrder cp cursor = .ok order ∧ Admits cp id ∧ Covers gs cp id order := by
  rw [exists_covered_iff]
  by_cases had : Admits cp id
  · rw [classifyTransaction_of_admits ha had]
    simp only [bind_eq_ok, pure_eq, Except.ok.injEq, Prod.mk.injEq, transactionOrder, had,
      true_and, ← alreadyApplied_eq_true_iff]
    constructor
    · rintro ⟨row, file, position, p, hp, order, horder, _, halready, -, -, -, rfl⟩
      exact ⟨order, ⟨p, hp, horder⟩, halready⟩
    · rintro ⟨order, ⟨p, hp, horder⟩, halready⟩
      exact ⟨cp, p.1, p.2, p, hp, order, horder, true, halready, rfl, rfl, rfl, rfl⟩
  · obtain ⟨text, -, h⟩ := classifyTransaction_of_not_admits gs cursor ha had
    simp [h, had]

end Outcome

section Inconsistent

/-- Not the error of a row whose set and position contradict each other. -/
def Unrelated (e : IoError) : Prop := e ≠ .other "GTID and binlog history disagree"

variable {file file' : String} {position position' : ℕ} {mode : Option String}
  {plan : SqlTransaction σ}

theorem unrelated_other {text : String} (h : text ≠ "GTID and binlog history disagree") :
    Unrelated (.other text) := by
  intro heq
  simp only [IoError.other, IoError.mk.injEq, IoErrorCause.message.injEq, true_and] at heq
  exact h heq

theorem parsePostgresqlLsn_failsWith : FailsWith Unrelated (parsePostgresqlLsn file) := by
  unfold parsePostgresqlLsn
  repeat' split
  all_goals simp [Unrelated, IoError.other, IoError.parse]

theorem splitBinlogFile_failsWith : FailsWith Unrelated (splitBinlogFile file) := by
  unfold splitBinlogFile
  repeat' split
  all_goals simp [Unrelated, IoError.other, IoError.parse]

theorem compareCheckpointPosition_failsWith :
    FailsWith Unrelated (compareCheckpointPosition mode file position file' position') := by
  unfold compareCheckpointPosition comparePosition
  refine .ite (parsePostgresqlLsn_failsWith.bind fun a => parsePostgresqlLsn_failsWith.bind
    fun b => ?_) (.ite failsWith_ok (splitBinlogFile_failsWith.bind fun p =>
      splitBinlogFile_failsWith.bind fun q => ?_))
  · exact .ite (failsWith_error.mpr (unrelated_other (by decide))) failsWith_ok
  · exact .ite (failsWith_error.mpr (unrelated_other (by decide))) failsWith_ok

theorem canonicalGtids_failsWith : FailsWith Unrelated (canonicalGtids gs id) := by
  unfold canonicalGtids
  split
  all_goals simp [Unrelated, IoError.other, IoError.driver]

theorem gtidSubset_failsWith {set : String} : FailsWith Unrelated (gtidSubset gs id set) := by
  unfold gtidSubset
  split
  all_goals simp [Unrelated, IoError.other, IoError.driver]

theorem filePosition_failsWith {cursor : SourceCursor} :
    FailsWith Unrelated (filePosition cursor) := by
  have hvalid (file : String) (position : ℕ) :
      FailsWith Unrelated (validatePosition file position) :=
    .ite (failsWith_error.mpr (unrelated_other (by decide))) failsWith_ok
  unfold filePosition
  repeat' split
  all_goals first
    | exact FailsWith.bind (hvalid _ _) fun _ => failsWith_ok
    | simp [Unrelated, IoError.other, IoError.parse]

/-- A transaction without statements fails for other reasons once it has been classified. -/
theorem applyFresh_failsWith {execute : SqlTransaction σ → β → Except IoError β} :
    FailsWith Unrelated (applyFresh gs execute db w cp id file position none) := by
  have hcp (rows : ℕ) : FailsWith Unrelated
      (advanceCheckpoint gs cp w.observedGtids id file position rows) := by
    have hoverflow : Unrelated (.other "checkpoint revision overflow") :=
      unrelated_other (by decide)
    unfold advanceCheckpoint
    simp only [throw_eq, pure_eq, ok_bind, error_bind]
    exact .ite (canonicalGtids_failsWith.bind fun _ =>
      .ite (failsWith_error.mpr hoverflow) failsWith_ok)
      (.ite (failsWith_error.mpr hoverflow) failsWith_ok)
  unfold applyFresh
  cases w.observedPosition with
  | none => exact failsWith_ok.bind fun r => (hcp r.2).bind fun _ => failsWith_ok
  | some p =>
    refine compareCheckpointPosition_failsWith.bind fun order => .ite
      (failsWith_error.mpr (unrelated_other (by decide))) ?_
    exact failsWith_ok.bind fun r => (hcp r.2).bind fun _ => failsWith_ok

theorem alreadyApplied_disagrees_iff :
    alreadyApplied gs cp id order = .error (.other "GTID and binlog history disagree") ↔
      cp.mode = "gtid" ∧ SingleGtid id ∧ gtidIncluded gs cp id = .ok false ∧ order ≠ .gt := by
  unfold alreadyApplied gtidIncluded
  by_cases hmode : cp.mode = "gtid"
  · cases hc : canonicalGtids gs id with
    | error e => simpa [hmode, Unrelated] using canonicalGtids_failsWith e hc
    | ok gtid =>
      cases hsplit : rsplitOnce id ':' with
      | none => simp [hmode, SingleGtid, hsplit, IoError.other]
      | some p =>
        have hsingle : SingleGtid id ↔ ¬ (containsChar id ',' = true ∨
            ((parseU64 p.2).filter (0 < ·)).isNone = true) := by
          simp only [SingleGtid, hsplit, Option.some.injEq, exists_eq_left', not_or,
            Bool.not_eq_true, Option.isNone_eq_false_iff]
        simp only [hmode, if_true, ok_bind, throw_eq, error_bind, pure_eq, true_and]
        by_cases hid : SingleGtid id
        · rw [if_neg (hsingle.mp hid)]
          cases hs : gtidSubset gs gtid (cp.gtidSet.getD "") with
          | error e => simpa [hid, Unrelated] using gtidSubset_failsWith e hs
          | ok included => cases included <;> simp [hid]
        · rw [if_pos (Classical.not_not.mp (hid ∘ hsingle.mpr))]
          simp [hid, IoError.other]
  · simp [hmode]

/-- Apply refuses a transaction as inconsistent exactly when its GTID is outside the set
although its position is not after the stored one. -/
theorem disagrees_iff (ha : Attached db w cp) {cursor : SourceCursor} :
    (∀ (execute : SqlTransaction σ → β → Except IoError β) plan,
      applyInner gs execute db w w.sourceUuid id cursor plan =
        .error (.other "GTID and binlog history disagree")) ↔
      Admits cp id ∧ ∃ order, transactionOrder cp cursor = .ok order ∧ cp.mode = "gtid" ∧
        SingleGtid id ∧ gtidIncluded gs cp id = .ok false ∧ order ≠ .gt := by
  have hclassify : (∀ (execute : SqlTransaction σ → β → Except IoError β) plan,
      applyInner gs execute db w w.sourceUuid id cursor plan =
        .error (.other "GTID and binlog history disagree")) ↔
      classifyTransaction gs db w w.sourceUuid id cursor =
        .error (.other "GTID and binlog history disagree") := by
    unfold applyInner
    cases hc : classifyTransaction gs db w w.sourceUuid id cursor with
    | error e => simp
    | ok r =>
      obtain ⟨row, file, position, already⟩ := r
      refine ⟨fun h => ?_, fun h => nomatch h⟩
      have hnone := h (fun _ b => .ok b) none
      cases already
      · exact absurd rfl (applyFresh_failsWith _ hnone)
      · simp at hnone
  rw [hclassify]
  by_cases had : Admits cp id
  · rw [classifyTransaction_of_admits ha had]
    simp only [had, true_and, transactionOrder, ← alreadyApplied_disagrees_iff]
    cases hf : filePosition cursor with
    | error e => simpa [Unrelated] using filePosition_failsWith e hf
    | ok p =>
      simp only [ok_bind]
      cases ho : compareCheckpointPosition (some cp.mode) p.1 p.2 cp.file cp.position with
      | error e => simpa [Unrelated] using compareCheckpointPosition_failsWith e ho
      | ok order => simp
  · obtain ⟨text, hne, h⟩ := classifyTransaction_of_not_admits gs cursor ha had
    simp [h, had, IoError.other, hne]

end Inconsistent

/-- A transaction that resolution refuses leaves nothing to agree on. -/
theorem resolutionAgrees_of_error {e : IoError} (h : resolveCommitUnknown gs db w t = .error e) :
    ResolutionAgrees σ lenient gs db w t :=
  ⟨fun ha => by simp [h] at ha, fun hn => by simp [h] at hn, fun _ => by simp [h, Refused]⟩

/-- With an answer in hand, agreement is a matter of what the row says. -/
theorem resolutionAgrees_of_ok (ha : Attached db w cp) (hs : t.source.id = w.sourceUuid)
    {answer : CommitResolution} (hr : resolveCommitUnknown gs db w t = .ok answer)
    {order : Ordering}
    (ho : transactionOrder cp t.commitCursor = .ok order) :
    ResolutionAgrees σ lenient gs db w t ↔
      (answer = .applied → Admits cp t.id ∧ Covers gs cp t.id order) ∧
      (answer = .notApplied → ¬ (Admits cp t.id ∧ Covers gs cp t.id order)) ∧
      (Admits cp t.id ∧ cp.mode = "gtid" ∧ SingleGtid t.id ∧
        gtidIncluded gs cp t.id = .ok false ∧ order ≠ .gt → Refused lenient (.ok answer)) := by
  have hcov (execute : SqlTransaction σ → β → Except IoError β) (plan) :
      (∃ result, applyInner gs execute db w t.source.id t.id t.commitCursor plan =
        .ok (.covered result)) ↔ Admits cp t.id ∧ Covers gs cp t.id order := by
    rw [hs, covered_iff ha, ho]
    simp
  have hdis : (∀ (execute : SqlTransaction σ → β → Except IoError β) plan,
      applyInner gs execute db w t.source.id t.id t.commitCursor plan =
        .error (.other "GTID and binlog history disagree")) ↔
      Admits cp t.id ∧ cp.mode = "gtid" ∧ SingleGtid t.id ∧ gtidIncluded gs cp t.id = .ok false ∧
        order ≠ .gt := by
    rw [hs, disagrees_iff ha, ho]
    simp
  constructor
  · intro h
    refine ⟨fun hans => ?_, fun hans hc => ?_, fun hd => ?_⟩
    · exact (hcov (fun _ b => .ok b) none).mp (h.applied (hans ▸ hr) _ _)
    · obtain ⟨result, hres⟩ := (hcov (fun _ b => .ok b) none).mpr hc
      exact h.not_applied (hans ▸ hr) _ _ _ hres
    · exact hr ▸ h.inconsistent (hdis.mpr hd)
  · rintro ⟨happlied, hnot, hd⟩
    refine ⟨fun h execute plan => ?_, fun h execute plan result hres => ?_, fun h => ?_⟩
    · exact (hcov execute plan).mpr (happlied (by simpa [hr] using h))
    · exact hnot (by simpa [hr] using h) ((hcov execute plan).mp ⟨result, hres⟩)
    · exact hr ▸ hd (hdis.mp h)

theorem transactionOrder_eq_bind {p : String × ℕ} (hp : filePosition t.commitCursor = .ok p) :
    transactionOrder cp t.commitCursor =
      compareCheckpointPosition (some cp.mode) p.1 p.2 cp.file cp.position := by
  simp [transactionOrder, hp]

/-- A covered transaction is not refused as inconsistent. -/
theorem not_disagrees_of_covers (h : Covers gs cp id order) :
    ¬ (cp.mode = "gtid" ∧ SingleGtid id ∧ gtidIncluded gs cp id = .ok false ∧ order ≠ .gt) := by
  rintro ⟨hmode, -, hincluded, -⟩
  rw [Covers, if_pos hmode, hincluded] at h
  exact absurd h.2 (by simp)

theorem agrees_iff_of_last (ha : Attached db w cp) (hs : t.source.id = w.sourceUuid)
    (hid : t.id.isEmpty = false) {p : String × ℕ} (hp : filePosition t.commitCursor = .ok p)
    (hlast : cp.lastTransactionId = some t.id) :
    ResolutionAgrees σ lenient gs db w t ↔ ∃ order, transactionOrder cp t.commitCursor = .ok order ∧
      Admits cp t.id ∧ Covers gs cp t.id order := by
  have hr : resolveCommitUnknown gs db w t = .ok .applied := by
    simp [resolveCommitUnknown_of_attached ha hs hid, hp, hlast]
  cases ho : transactionOrder cp t.commitCursor with
  | error e =>
    refine iff_of_false (fun h => ?_) (by simp)
    have := h.applied hr (fun _ b => .ok b) none
    rw [hs, covered_iff ha, ho] at this
    simp at this
  | ok order =>
    rw [resolutionAgrees_of_ok ha hs hr ho]
    constructor
    · rintro ⟨h, -, -⟩
      exact ⟨order, rfl, h rfl⟩
    · rintro ⟨_, ⟨⟩, had, hc⟩
      exact ⟨fun _ => ⟨had, hc⟩, nofun, fun hd => absurd hd.2 (not_disagrees_of_covers hc)⟩

theorem agrees_iff_of_other (ha : Attached db w cp) (hs : t.source.id = w.sourceUuid)
    (hid : t.id.isEmpty = false) {p : String × ℕ} (hp : filePosition t.commitCursor = .ok p)
    (hlast : cp.lastTransactionId ≠ some t.id) :
    ResolutionAgrees σ lenient gs db w t ↔ ∀ order, transactionOrder cp t.commitCursor = .ok order →
      if cp.mode = "gtid" then ∀ included, gtidIncluded gs cp t.id = .ok included →
        if included then Admits cp t.id ∧ SingleGtid t.id
        else order = .gt ∨ order = .eq ∧ (Admits cp t.id → SingleGtid t.id → lenient = true)
      else order = .lt → Admits cp t.id := by
  have hresolve := @resolveCommitUnknown_of_attached _ gs _ _ _ _ ha hs hid
  simp only [hp, ok_bind, if_neg hlast, ← transactionOrder_eq_bind hp] at hresolve
  cases ho : transactionOrder cp t.commitCursor with
  | error e =>
    refine iff_of_true (resolutionAgrees_of_error (e := e) ?_) (by simp)
    simpa [ho] using hresolve
  | ok order =>
    by_cases hmode : cp.mode = "gtid"
    · cases hi : gtidIncluded gs cp t.id with
      | error e =>
        refine iff_of_true (resolutionAgrees_of_error (e := e) ?_) (by simp [hmode])
        simpa [ho, hmode, hi] using hresolve
      | ok included =>
        simp only [ho, hmode, hi, if_true, ok_bind] at hresolve
        cases included
        · cases order
          all_goals
            rw [resolutionAgrees_of_ok ha hs (by simpa using hresolve) ho]
            simp [hmode, hi, Covers, Refused]
        · rw [resolutionAgrees_of_ok ha hs (by simpa using hresolve) ho]
          simp [hmode, hi, Covers, Refused]
    · simp only [ho, hmode, if_false, ok_bind, pure_eq] at hresolve
      cases order
      all_goals
        rw [resolutionAgrees_of_ok ha hs (by simpa using hresolve) ho]
        simp [hmode, Covers, Refused]

/-- The classifications agree exactly on the inputs of `ClassificationsAgree`. -/
theorem resolution_agrees_iff (ha : Attached db w cp) :
    ResolutionAgrees σ lenient gs db w t ↔ ClassificationsAgree lenient gs w cp t := by
  have hvacuous (h : ∃ e, resolveCommitUnknown gs db w t = .error e)
      (hc : ClassificationsAgree lenient gs w cp t) :
      ResolutionAgrees σ lenient gs db w t ↔ ClassificationsAgree lenient gs w cp t :=
    iff_of_true (resolutionAgrees_of_error h.choose_spec) hc
  by_cases hs : t.source.id = w.sourceUuid
  swap
  · exact hvacuous ⟨_, if_pos (Or.inl hs)⟩ fun h => absurd h hs
  cases hid : t.id.isEmpty with
  | true => exact hvacuous ⟨_, if_pos (Or.inr hid)⟩ fun _ h => by simp [hid] at h
  | false =>
    cases hp : filePosition t.commitCursor with
    | error e =>
      refine hvacuous ⟨e, ?_⟩ fun _ _ ⟨p, h⟩ => by simp [hp] at h
      simp [resolveCommitUnknown_of_attached ha hs hid, hp]
    | ok p =>
      simp only [ClassificationsAgree, hs, hid, hp, Except.ok.injEq, exists_eq', forall_const]
      split
      · exact agrees_iff_of_last ha hs hid hp ‹_›
      · exact agrees_iff_of_other ha hs hid hp ‹_›

section Sample

/-- A transaction of the sample source with its commit position. -/
def sampleTransaction (id cursor : String) (changes : List RowChange) : ChangeTransaction :=
  ⟨⟨"mysql", "8.0", "3e11fa47-71ca-11e1-9e33-c80aa9429562"⟩, id,
    ⟨"mysql.binlog.file-position.v1", "YmlubG9nLjAwMDAwMQAAAAAE", "binlog.000001:4"⟩,
    ⟨"mysql.binlog.file-position.v1", cursor, cursor⟩, changes⟩

def sampleChange : RowChange :=
  ⟨none, .insert, "shop", "orders",
    ⟨"mysql.binlog.file-position.v1", "YmlubG9nLjAwMDAwMQAAAAAE", "binlog.000001:4"⟩, 0,
    "binlog_metadata", none, some []⟩

/-- The second transaction of the sample source, at `binlog.000001:300`. -/
def ordered : ChangeTransaction :=
  sampleTransaction "3e11fa47-71ca-11e1-9e33-c80aa9429562:2" "YmlubG9nLjAwMDAwMQAAAAEs"
    [sampleChange]

def sampleBinding : String := "0123456789abcdef0123456789abcdef0123456789abcdef0123456789abcdef"

/-- The row of a new route in GTID mode. -/
def sampleRow : ReplicationCheckpoint :=
  ⟨"orders", "3e11fa47-71ca-11e1-9e33-c80aa9429562", "8f0b2a10-52c6-11ee-8c99-0242ac120002",
    sampleBinding, "gtid", "binlog.000001", 4, some "", none, 0, 0, 0, "incremental", 0, none⟩

def sampleDb (row : ReplicationCheckpoint) : SinkDb (List String) :=
  ⟨some ⟨"InnoDB", ["task_id"], fun id => if id = "orders" then some row else none⟩, []⟩

def sampleWriter (row : ReplicationCheckpoint) : CheckpointWriter :=
  ⟨"orders", "3e11fa47-71ca-11e1-9e33-c80aa9429562", "8f0b2a10-52c6-11ee-8c99-0242ac120002",
    sampleBinding, some row, none, none⟩

/-- A row that stands after `ordered` without having its GTID. -/
def strayRow : ReplicationCheckpoint :=
  { sampleRow with
    file := "binlog.000002"
    position := 500
    gtidSet := some "3e11fa47-71ca-11e1-9e33-c80aa9429562:1"
    lastTransactionId := some "3e11fa47-71ca-11e1-9e33-c80aa9429562:1"
    revision := 1 }

theorem sample_attached : Attached (sampleDb sampleRow) (sampleWriter sampleRow) sampleRow :=
  ⟨rfl, rfl, rfl, by decide +kernel⟩

theorem resolution_agrees_iff_sample :
    ResolutionAgrees String false listedGtids (sampleDb sampleRow) (sampleWriter sampleRow)
        ordered ↔
      ClassificationsAgree false listedGtids (sampleWriter sampleRow) sampleRow ordered :=
  resolution_agrees_iff sample_attached

/-- The GTID is outside the stored set and the position before the stored one: resolution
answers that the transaction was applied, apply refuses the row. -/
theorem resolution_disagrees :
    Attached (sampleDb strayRow) (sampleWriter strayRow) strayRow ∧
      ∀ lenient, ¬ ResolutionAgrees String lenient listedGtids (sampleDb strayRow)
        (sampleWriter strayRow) ordered := by
  refine ⟨⟨rfl, rfl, rfl, by decide +kernel⟩, fun lenient h => ?_⟩
  have hresolve : resolveCommitUnknown listedGtids (sampleDb strayRow) (sampleWriter strayRow)
      ordered = .ok .applied := by decide +kernel
  obtain ⟨result, happly⟩ := h.applied hresolve (fun _ b => .ok b) none
  have hrefuse : applyInner (σ := String) listedGtids (fun _ b => .ok b) (sampleDb strayRow)
      (sampleWriter strayRow) ordered.source.id ordered.id ordered.commitCursor none =
        .error (.other "GTID and binlog history disagree") := by decide +kernel
  simp [hrefuse] at happly

end Sample

end DatabaseSync.MysqlSink
