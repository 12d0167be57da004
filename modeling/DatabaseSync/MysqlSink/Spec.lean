import DatabaseSync.MysqlSink.Gtid
import DatabaseSync.MysqlSink.Order

/-! # What the writer's operations do

One lemma per operation of the checkpoint writer, with everything a successful call has
checked and changed. Later arguments cite these and never unfold an operation.
-/

namespace DatabaseSync.MysqlSink

open ChangeEvent Checked Text

variable {β σ : Type} {gs : GtidServer} {execute : SqlTransaction σ → β → Except IoError β}
  {db db' : SinkDb β} {w w' : CheckpointWriter} {cp row : ReplicationCheckpoint}
  {t : ChangeTransaction} {source id file : String} {position : ℕ} {cursor : SourceCursor}
  {plan : Option (SqlTransaction σ)} {result : CheckpointApplyResult} {business : β}

/-- The order of a transaction relative to the stored position. -/
def transactionOrder (cp : ReplicationCheckpoint) (cursor : SourceCursor) :
    Except IoError Ordering := do
  let (file, position) ← filePosition cursor
  compareCheckpointPosition (some cp.mode) file position cp.file cp.position

/-- The identity has the shape of a single GTID. -/
def SingleGtid (id : String) : Prop :=
  containsChar id ',' = false ∧
    ∃ p, rsplitOnce id ':' = some p ∧ ((parseU64 p.2).filter (0 < ·)).isSome = true

/-- The outcome of the classification in GTID mode. -/
theorem alreadyApplied_gtid {order : Ordering} {included : Bool} (hmode : cp.mode = "gtid") :
    alreadyApplied gs cp id order = .ok included ↔
      SingleGtid id ∧ gtidIncluded gs cp id = .ok included ∧ (included = false → order = .gt) := by
  unfold alreadyApplied gtidIncluded SingleGtid
  cases hsplit : rsplitOnce id ':' with
  | none => simp [hmode]
  | some p =>
    simp only [hmode, if_true, throw_eq, pure_eq, error_bind, guard_eq_ok, bind_eq_ok,
      Except.ok.injEq, not_or, not_and, Bool.not_eq_true, Option.isNone_eq_false_iff,
      Option.some.injEq, exists_eq_left', Classical.not_not, ne_eq]
    constructor
    · rintro ⟨gtid, hgtid, hid, _, hsubset, hgreater, rfl⟩
      exact ⟨hid, ⟨gtid, hgtid, hsubset⟩, hgreater⟩
    · rintro ⟨hid, ⟨gtid, hgtid, hsubset⟩, hgreater⟩
      exact ⟨gtid, hgtid, hid, _, hsubset, hgreater, rfl⟩

/-- The database holds the row `cp` for a task. -/
def SinkDb.Holds (db : SinkDb β) (taskId : String) (cp : ReplicationCheckpoint) : Prop :=
  load db taskId = .ok (some cp)

theorem SinkDb.Holds.store (h : db.Holds id cp) : (db.store id row business).Holds id row := by
  unfold SinkDb.Holds load at *
  cases hlog : db.logInfo with
  | none => simp [hlog] at h
  | some table => simp [SinkDb.store, hlog]

theorem SinkDb.Holds.unique (h : db.Holds id cp) (h' : db.Holds id row) : row = cp := by
  unfold SinkDb.Holds at *
  simpa [h] using h'.symm

/-- A fresh writer: it has read the stored row and has observed nothing. -/
structure Opened (db : SinkDb β) (w : CheckpointWriter) (taskId source : String)
    (cp : ReplicationCheckpoint) : Prop where
  task : w.taskId = taskId
  source : w.sourceUuid = source
  checkpoint : w.checkpoint = some cp
  gtids : w.observedGtids = none
  position : w.observedPosition = none

/-- Opening a writer over an existing row changes nothing and loads that row. -/
theorem openWriter_holds {server : SinkServer} {binding : String} (hcp : db.Holds id cp)
    (h : openWriter server db id source binding = .ok (w, db')) :
    db' = db ∧ Opened db w id source cp := by
  unfold SinkDb.Holds load at hcp
  cases hlog : db.logInfo with
  | none => simp [hlog] at hcp
  | some table =>
    cases hs : server.serverUuid with
    | none => simp [openWriter, hs] at h
    | some sink =>
      simp only [hlog, pure_eq, Except.ok.injEq] at hcp
      simp only [openWriter, hs, hlog, throw_eq, pure_eq, error_bind, guard_eq_ok, bind_eq_ok,
        load, Option.getD_some, hcp, Except.ok.injEq, exists_eq_left', Prod.mk.injEq] at h
      obtain ⟨-, -, -, -, -, -, -, -, rfl, rfl⟩ := h
      exact ⟨by rw [← hlog], rfl, rfl, rfl, rfl, rfl⟩

/-- Observing changes nothing but what has been observed. -/
theorem observe_spec (h : observe gs w t = .ok w') :
    t.changes.isEmpty = true ∧ observedGtidsWith gs w t.id = .ok w'.observedGtids ∧
      ∃ p, filePosition t.commitCursor = .ok p ∧
        w' = { w with observedGtids := w'.observedGtids, observedPosition := some p } := by
  unfold observe at h
  cases hobs : w.observedPosition
  all_goals
    simp only [hobs, throw_eq, pure_eq, error_bind, guard_eq_ok, bind_eq_ok, Except.ok.injEq,
      not_or, Classical.not_not] at h
  case none =>
    obtain ⟨⟨hempty, -⟩, p, hp, set, hset, rfl⟩ := h
    exact ⟨hempty, hset, p, hp, rfl⟩
  case some =>
    obtain ⟨⟨hempty, -⟩, p, hp, -, -, -, set, hset, rfl⟩ := h
    exact ⟨hempty, hset, p, hp, rfl⟩

/-- What `classify_transaction` has checked. -/
structure Classified (gs : GtidServer) (db : SinkDb β) (w : CheckpointWriter)
    (cp : ReplicationCheckpoint) (source id : String) (cursor : SourceCursor) (file : String)
    (position : ℕ) (already : Bool) : Prop where
  source_eq : source = w.sourceUuid
  loaded : db.Holds w.taskId cp
  checkpoint : w.checkpoint = some cp
  phase : cp.phase = "incremental"
  filePosition_eq : filePosition cursor = .ok (file, position)
  order : ∃ order, compareCheckpointPosition (some cp.mode) file position cp.file cp.position =
    .ok order ∧ alreadyApplied gs cp id order = .ok already

theorem classifyTransaction_spec {already : Bool}
    (h : classifyTransaction gs db w source id cursor = .ok (cp, file, position, already)) :
    Classified gs db w cp source id cursor file position already := by
  unfold classifyTransaction at h
  cases hw : w.checkpoint with
  | none => simp [hw] at h
  | some expected =>
    simp only [hw, throw_eq, pure_eq, error_bind, guard_eq_ok, bind_eq_ok] at h
    obtain ⟨hid, hphase, ⟨f, p⟩, hf, _ | row, hload, h⟩ := h
    · simp at h
    · simp only [guard_eq_ok, bind_eq_ok, Except.ok.injEq, Prod.mk.injEq] at h
      obtain ⟨-, _, -, hexpected, order, horder, _, halready, rfl, rfl, rfl, rfl⟩ := h
      simp only [ne_eq, Classical.not_not] at hexpected
      subst hexpected
      refine ⟨?_, hload, hw, ?_, hf, order, horder, halready⟩
      · by_contra hne
        exact hid (Or.inl hne)
      · simpa using hphase

/-- The classified row belongs to the writer. -/
theorem classifyTransaction_binding {already : Bool}
    (h : classifyTransaction gs db w source id cursor = .ok (cp, file, position, already)) :
    checkBinding cp w.sourceUuid w.sinkUuid w.binding = .ok () := by
  unfold classifyTransaction at h
  cases hw : w.checkpoint with
  | none => simp [hw] at h
  | some expected =>
    simp only [hw, throw_eq, pure_eq, error_bind, guard_eq_ok, bind_eq_ok] at h
    obtain ⟨-, -, ⟨f, p⟩, -, _ | row, -, h⟩ := h
    · simp at h
    · simp only [guard_eq_ok, bind_eq_ok, Except.ok.injEq, Prod.mk.injEq] at h
      obtain ⟨-, _, hbinding, -, order, -, _, -, rfl, -⟩ := h
      exact hbinding

/-- A transaction the row does not cover is ordered after the stored position. -/
theorem Classified.order_gt (h : Classified gs db w cp source id cursor file position false) :
    transactionOrder cp cursor = .ok .gt := by
  obtain ⟨order, horder, halready⟩ := h.order
  have hgt : order = .gt := by
    by_cases hmode : cp.mode = "gtid"
    · exact ((alreadyApplied_gtid hmode).mp halready).2.2 rfl
    · simpa [alreadyApplied, hmode] using halready
  simp [transactionOrder, h.filePosition_eq, horder, hgt]

/-- A covered transaction is in the stored set or not after the stored position. -/
theorem Classified.covered (h : Classified gs db w cp source id cursor file position true) :
    if cp.mode = "gtid" then gtidIncluded gs cp id = .ok true
    else ∃ order, transactionOrder cp cursor = .ok order ∧ order ≠ .gt := by
  obtain ⟨order, horder, halready⟩ := h.order
  by_cases hmode : cp.mode = "gtid"
  · rw [if_pos hmode]
    exact ((alreadyApplied_gtid hmode).mp halready).2.1
  · rw [if_neg hmode]
    exact ⟨order, by simp [transactionOrder, h.filePosition_eq, horder],
      by simpa [alreadyApplied, hmode] using halready⟩

/-- A transaction that is not covered is executed and moves the checkpoint. -/
theorem applyFresh_spec {outcome : ApplyOutcome β}
    (h : applyFresh gs execute db w cp id file position plan = .ok outcome) :
    ∃ result business rows, outcome = .ready result business ∧
      executePlan execute plan db.business = .ok (business, rows) ∧
      advanceCheckpoint gs cp w.observedGtids id file position rows = .ok result.checkpoint := by
  unfold applyFresh at h
  cases hobs : w.observedPosition
  all_goals
    simp only [hobs, throw_eq, pure_eq, error_bind, guard_eq_ok, bind_eq_ok, Except.ok.injEq] at h
  case none =>
    obtain ⟨⟨business, rows⟩, hplan, cp', hcp, rfl⟩ := h
    exact ⟨_, business, rows, rfl, hplan, hcp⟩
  case some =>
    obtain ⟨-, -, -, ⟨business, rows⟩, hplan, cp', hcp, rfl⟩ := h
    exact ⟨_, business, rows, rfl, hplan, hcp⟩

theorem applyFresh_ne_covered :
    applyFresh gs execute db w cp id file position plan ≠ .ok (.covered result) := by
  intro h
  obtain ⟨_, _, _, hready, -⟩ := applyFresh_spec h
  exact nomatch hready

/-- An apply that ends without a commit has found the transaction covered. -/
theorem applyInner_covered (h : applyInner gs execute db w source id cursor plan =
    .ok (.covered result)) :
    ∃ cp file position, Classified gs db w cp source id cursor file position true ∧
      result.checkpoint = cp := by
  unfold applyInner at h
  simp only [bind_eq_ok] at h
  obtain ⟨⟨cp, file, position, already⟩, hc, h⟩ := h
  cases already with
  | true =>
    simp only [if_true, pure_eq, Except.ok.injEq, ApplyOutcome.covered.injEq] at h
    exact ⟨cp, file, position, classifyTransaction_spec hc, by rw [← h]⟩
  | false => exact absurd h applyFresh_ne_covered

/-- An apply that is ready to commit has executed the plan and moved the checkpoint. -/
theorem applyInner_classified (h : applyInner gs execute db w source id cursor plan =
    .ok (.ready result business)) :
    ∃ cp file position rows,
      classifyTransaction gs db w source id cursor = .ok (cp, file, position, false) ∧
      executePlan execute plan db.business = .ok (business, rows) ∧
      advanceCheckpoint gs cp w.observedGtids id file position rows = .ok result.checkpoint := by
  unfold applyInner at h
  simp only [bind_eq_ok] at h
  obtain ⟨⟨cp, file, position, already⟩, hc, h⟩ := h
  cases already with
  | true => simp at h
  | false =>
    obtain ⟨_, _, rows, ⟨⟩, hplan, hcp⟩ := applyFresh_spec h
    exact ⟨cp, file, position, rows, hc, hplan, hcp⟩

theorem applyInner_ready (h : applyInner gs execute db w source id cursor plan =
    .ok (.ready result business)) :
    ∃ cp file position rows, Classified gs db w cp source id cursor file position false ∧
      executePlan execute plan db.business = .ok (business, rows) ∧
      advanceCheckpoint gs cp w.observedGtids id file position rows = .ok result.checkpoint := by
  obtain ⟨cp, file, position, rows, hc, hplan, hcp⟩ := applyInner_classified h
  exact ⟨cp, file, position, rows, classifyTransaction_spec hc, hplan, hcp⟩

/-- The new row stands at the transaction and differs from the old one in nothing that
identifies the route. -/
theorem advanceCheckpoint_spec {observed : Option String} {rows : ℕ}
    (h : advanceCheckpoint gs cp observed id file position rows = .ok row) :
    row.file = file ∧ row.position = position ∧ row.lastTransactionId = some id ∧
      row.mode = cp.mode ∧ row.phase = cp.phase ∧
      if cp.mode = "gtid" then ∃ set, row.gtidSet = some set ∧
        canonicalGtids gs (trimMatches (combinedGtids cp observed id) ',') = .ok set
      else row.gtidSet = cp.gtidSet := by
  unfold advanceCheckpoint at h
  by_cases hmode : cp.mode = "gtid"
  · simp only [hmode, if_true, throw_eq, pure_eq, ok_bind, error_bind, bind_eq_ok, guard_eq_ok,
      Except.ok.injEq] at h
    obtain ⟨set, hset, -, rfl⟩ := h
    exact ⟨rfl, rfl, rfl, hmode.symm, rfl, by simp [hmode, hset]⟩
  · simp only [hmode, if_false, throw_eq, pure_eq, ok_bind, error_bind, guard_eq_ok,
      Except.ok.injEq] at h
    obtain ⟨-, rfl⟩ := h
    exact ⟨rfl, rfl, rfl, rfl, rfl, by simp [hmode]⟩

/-- The new row belongs to the same source, sink and configuration. -/
theorem advanceCheckpoint_owner {observed : Option String} {rows : ℕ}
    (h : advanceCheckpoint gs cp observed id file position rows = .ok row) :
    row.sourceUuid = cp.sourceUuid ∧ row.sinkUuid = cp.sinkUuid ∧ row.binding = cp.binding := by
  unfold advanceCheckpoint at h
  by_cases hmode : cp.mode = "gtid"
  · simp only [hmode, if_true, throw_eq, pure_eq, ok_bind, error_bind, bind_eq_ok, guard_eq_ok,
      Except.ok.injEq] at h
    obtain ⟨set, -, -, rfl⟩ := h
    exact ⟨rfl, rfl, rfl⟩
  · simp only [hmode, if_false, throw_eq, pure_eq, ok_bind, error_bind, guard_eq_ok,
      Except.ok.injEq] at h
    obtain ⟨-, rfl⟩ := h
    exact ⟨rfl, rfl, rfl⟩

/-- What `resolve_commit_unknown` has read when it answers. -/
structure Resolved (db : SinkDb β) (w : CheckpointWriter) (cp : ReplicationCheckpoint)
    (t : ChangeTransaction) (file : String) (position : ℕ) : Prop where
  source_eq : t.source.id = w.sourceUuid
  loaded : db.Holds w.taskId cp
  filePosition_eq : filePosition t.commitCursor = .ok (file, position)

theorem resolve_spec {answer : CommitResolution}
    (h : resolveCommitUnknown gs db w t = .ok answer) :
    ∃ cp file position, Resolved db w cp t file position ∧
      (answer = .applied ∧ cp.lastTransactionId = some t.id ∨
        ∃ order included,
          compareCheckpointPosition (some cp.mode) file position cp.file cp.position = .ok order ∧
          (if cp.mode = "gtid" then gtidIncluded gs cp t.id else .ok false) = .ok included ∧
          answer = if included = true ∨ order = .lt then .applied
            else if order = .gt then .notApplied else .unprovable) := by
  unfold resolveCommitUnknown at h
  simp only [throw_eq, pure_eq, error_bind, guard_eq_ok, bind_eq_ok, not_or,
    Classical.not_not] at h
  obtain ⟨⟨hsource, -⟩, ⟨file, position⟩, hf, _ | cp, hload, h⟩ := h
  · simp at h
  · simp only [bind_eq_ok] at h
    obtain ⟨-, -, h⟩ := h
    refine ⟨cp, file, position, ⟨hsource, hload, hf⟩, ?_⟩
    by_cases hlast : cp.lastTransactionId = some t.id
    · simp only [hlast, if_true, Except.ok.injEq] at h
      exact Or.inl ⟨h.symm, hlast⟩
    · simp only [hlast, if_false, bind_eq_ok] at h
      obtain ⟨order, horder, h⟩ := h
      right
      by_cases hmode : cp.mode = "gtid"
      · simp only [hmode, if_true, bind_eq_ok] at h
        obtain ⟨included, hincluded, h⟩ := h
        refine ⟨order, included, horder, by rw [if_pos hmode, hincluded], ?_⟩
        repeat' split at h
        all_goals simp_all
      · simp only [hmode, if_false, ok_bind] at h
        refine ⟨order, false, horder, if_neg hmode, ?_⟩
        repeat' split at h
        all_goals simp_all

end DatabaseSync.MysqlSink
