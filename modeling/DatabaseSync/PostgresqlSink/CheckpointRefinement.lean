import DatabaseSync.MysqlSink.Lsn
import DatabaseSync.PostgresqlSink.Checkpoint
import DatabaseSync.PostgresqlSink.GtidServer

/-! # The PostgreSQL writer refines the MySQL writer

Seen through the rows that its writer reads back, a PostgreSQL sink is a MySQL sink whose
server computes with GTID sets as the writer does. Each call that succeeds succeeds there, with
the same outcome.
-/

namespace DatabaseSync.PostgresqlSink

open ChangeEvent Checked Text
open MysqlSink (CheckpointApplyResult CheckpointWriter ReplicationCheckpoint SingleGtid SinkServer
  SqlTransaction executePlan)

variable {β σ : Type} {execute : SqlTransaction σ → β → Except IoError β} {db db' : SinkDb β}
  {w w' : CheckpointWriter} {cp : ReplicationCheckpoint} {row row' : LogInfoRow}
  {t : ChangeTransaction} {taskId source sink binding id file : String} {position : ℕ}
  {cursor : SourceCursor} {plan : Option (SqlTransaction σ)} {result : CheckpointApplyResult}
  {business : β}

/-! ## Rows -/

/-- The database as the MySQL writer would see it. -/
def SinkDb.view (db : SinkDb β) : MysqlSink.SinkDb β where
  logInfo := db.logInfo.map fun rows =>
    ⟨"InnoDB", ["task_id"], fun id => (rows id).bind fun row => (checkpointFromRow row).toOption⟩
  business := db.business

@[simp]
theorem SinkDb.view_business : db.view.business = db.business := rfl

theorem toU64_toI64 {value : ℕ} {number : Bigint} (h : toI64 value = .ok number) :
    toU64 number = .ok value := by
  unfold toI64 at h
  split at h
  · cases h
    unfold toU64
    rw [if_neg (not_lt.mpr (Int.natCast_nonneg value))]
    rfl
  · cases h

/-- What a row is read as. -/
theorem checkpointFromRow_eq_ok : checkpointFromRow row = .ok cp ↔
    ∃ position revision transactions rows snapshotRows,
      toU64 row.binlogPosition = .ok position ∧ toU64 row.revision = .ok revision ∧
        toU64 row.appliedTransactions = .ok transactions ∧ toU64 row.appliedRows = .ok rows ∧
          toU64 row.snapshotRows = .ok snapshotRows ∧
            cp = ⟨row.taskId, row.sourceUuid, row.sinkUuid, row.binding, row.mode, row.binlogFile,
              position, row.gtidSet, row.lastTransactionId, revision, transactions, rows, row.phase,
              snapshotRows, row.snapshotGtids⟩ := by
  unfold checkpointFromRow
  simp only [bind_eq_ok, pure_eq, Except.ok.injEq]
  constructor
  · rintro ⟨position, hposition, revision, hrevision, transactions, htransactions, rows, hrows,
      snapshotRows, hsnapshotRows, rfl⟩
    exact ⟨_, _, _, _, _, hposition, hrevision, htransactions, hrows, hsnapshotRows, rfl⟩
  · rintro ⟨_, _, _, _, _, hposition, hrevision, htransactions, hrows, hsnapshotRows, rfl⟩
    exact ⟨_, hposition, _, hrevision, _, htransactions, _, hrows, _, hsnapshotRows, rfl⟩

theorem selectRow_eq_ok {found : Option LogInfoRow} :
    selectRow db taskId = .ok found ↔ ∃ rows, db.logInfo = some rows ∧ rows taskId = found := by
  unfold selectRow
  cases db.logInfo with
  | none => simp
  | some rows => simp

/-- The row that is read is the row that the MySQL writer would load. -/
theorem load_view {found : Option ReplicationCheckpoint} (h : load db taskId = .ok found) :
    MysqlSink.load db.view taskId = .ok found := by
  unfold load at h
  obtain ⟨stored, hstored, hread⟩ := bind_eq_ok.mp h
  obtain ⟨rows, hrows, rfl⟩ := selectRow_eq_ok.mp hstored
  unfold MysqlSink.load SinkDb.view
  rw [hrows, Option.map_some]
  dsimp only
  rw [pure_eq, Except.ok.injEq]
  cases hrow : rows taskId with
  | none =>
    rw [hrow] at hread
    cases hread
    rfl
  | some row =>
    rw [hrow] at hread
    obtain ⟨cp, hcp, rfl⟩ := map_eq_ok.mp hread
    exact toOption_eq_some.mpr hcp

/-- A row is read back if the MySQL writer would load it. -/
theorem load_eq_ok : load db taskId = .ok (some cp) ↔ db.view.Holds taskId cp := by
  constructor
  · exact load_view
  · intro h
    unfold MysqlSink.SinkDb.Holds MysqlSink.load SinkDb.view at h
    cases hrows : db.logInfo with
    | none => simp [hrows] at h
    | some rows =>
      simp only [hrows, Option.map_some, pure_eq, Except.ok.injEq] at h
      obtain ⟨row, hrow, hread⟩ := Option.bind_eq_some_iff.mp h
      rw [load, selectRow_eq_ok.mpr ⟨rows, hrows, hrow⟩, ok_bind, Option.mapM_some,
        toOption_eq_some.mp hread]
      rfl

/-- A row that was updated is read back as the checkpoint it was updated to. -/
theorem checkpointFromRow_updateRow {next : ReplicationCheckpoint}
    (hread : checkpointFromRow row = .ok cp) (h : updateRow row next = .ok row')
    (hnext : next = { cp with
      file := next.file, position := next.position, gtidSet := next.gtidSet
      lastTransactionId := next.lastTransactionId, revision := next.revision
      appliedTransactions := next.appliedTransactions, appliedRows := next.appliedRows }) :
    checkpointFromRow row' = .ok next := by
  obtain ⟨_, _, _, _, rows, -, -, -, -, hrows, rfl⟩ := checkpointFromRow_eq_ok.mp hread
  unfold updateRow at h
  simp only [bind_eq_ok, pure_eq, Except.ok.injEq] at h
  obtain ⟨_, hposition, _, hrevision, _, htransactions, _, happlied, rfl⟩ := h
  rw [checkpointFromRow_eq_ok]
  exact ⟨_, _, _, _, _, toU64_toI64 hposition, toU64_toI64 hrevision, toU64_toI64 htransactions,
    toU64_toI64 happlied, hrows, hnext⟩

theorem view_store (hread : checkpointFromRow row = .ok cp) :
    (db.store taskId row business).view = db.view.store taskId cp business := by
  unfold SinkDb.store SinkDb.view MysqlSink.SinkDb.store
  congr 1
  cases db.logInfo with
  | none => rfl
  | some rows =>
    simp only [Option.map_some]
    congr 2
    funext id
    by_cases hid : id = taskId
    · rw [if_pos hid, if_pos hid, Option.bind_some, hread]
      rfl
    · rw [if_neg hid, if_neg hid]

/-! ## Positions and sets -/

theorem filePosition_view {p : String × ℕ} (h : filePosition cursor = .ok p) :
    MysqlSink.filePosition cursor = .ok p := by
  unfold filePosition at h
  split at h
  · next hformat =>
    obtain ⟨position, hposition, h⟩ := bind_eq_ok.mp h
    cases h
    obtain ⟨format, value, display⟩ := cursor
    cases hformat
    obtain ⟨upper, lower, hhalves, hupper, hlower, rfl⟩ :=
      MysqlSink.parsePostgresqlLsn_eq_ok.mp (mapError_eq_ok.mp hposition)
    exact MysqlSink.filePosition_lsn.mpr ⟨rfl, upper, lower, hhalves, hlower, by omega⟩
  · exact mapError_eq_ok.mp h

theorem canonicalGtids_own {value set : String} :
    MysqlSink.canonicalGtids ownGtids value = .ok set ↔ canonicalGtids value = .ok set := by
  have hanswer : ownGtids.subtractEmpty value = .ok (canonicalGtids value).toOption := rfl
  unfold MysqlSink.canonicalGtids
  rw [hanswer]
  cases canonicalGtids value with
  | error e => simp [Except.toOption]
  | ok c => simp [Except.toOption]

theorem canonicalSingleGtid_idem {value one : String} (h : canonicalSingleGtid value = .ok one) :
    canonicalSingleGtid one = .ok one := by
  obtain ⟨key, n, hparse, rfl⟩ := canonicalSingleGtid_eq_ok.mp h
  exact canonicalSingleGtid_eq_ok.mpr
    ⟨key, n, parseGtids_renderGtids (parseGtids_canonical hparse), rfl⟩

theorem gtidIncluded_view {included : Bool} (h : gtidIncluded cp id = .ok included) :
    MysqlSink.gtidIncluded ownGtids cp id = .ok included := by
  unfold gtidIncluded at h
  obtain ⟨one, hone, hcontains⟩ := bind_eq_ok.mp h
  rw [mapError_eq_ok] at hone hcontains
  have hsubset : ownGtids.subset one (cp.gtidSet.getD "") = .ok (some included) := by
    unfold ownGtids
    rw [Except.ok.injEq, toOption_eq_some, canonicalSingleGtid_idem hone, ok_bind, hcontains]
  unfold MysqlSink.gtidIncluded
  rw [canonicalGtids_own.mpr (canonicalGtids_of_single hone), ok_bind, MysqlSink.gtidSubset,
    hsubset]
  rfl

/-! ## Opening -/

/-- Creating the schema is what opening does to a sink without a control table. -/
theorem view_ensureSchema (fresh : String) (db : SinkDb β) :
    (ensureSchema fresh db).1.view =
      ⟨some (db.view.logInfo.getD ⟨"InnoDB", ["task_id"], fun _ => none⟩), db.business⟩ := by
  unfold ensureSchema SinkDb.view
  cases db.logInfo with
  | none => rfl
  | some rows => rfl

theorem view_ensureSchema_of_holds (fresh : String) (h : db.view.Holds taskId cp) :
    (ensureSchema fresh db).1.view = db.view := by
  unfold ensureSchema SinkDb.view
  cases hlog : db.logInfo with
  | none => simp [MysqlSink.SinkDb.Holds, MysqlSink.load, SinkDb.view, hlog] at h
  | some rows => rfl

/-- A failed opening has at most created the schema. -/
theorem openWriter_db {fresh : String} {owned : Bool} {opened : Except WriterError CheckpointWriter}
    (h : openWriter fresh owned db taskId source binding = (opened, db')) :
    db' = db ∨ db' = (ensureSchema fresh db).1 := by
  unfold openWriter at h
  split at h
  · exact Or.inl (Prod.mk.inj h).2.symm
  · exact Or.inr (Prod.mk.inj h).2.symm

/-- A writer that opens would open over a MySQL server with the sink's identity. -/
theorem openWriter_view {fresh : String} {owned : Bool}
    (h : openWriter fresh owned db taskId source binding = (.ok w, db')) :
    ∃ server, MysqlSink.openWriter server db.view taskId source binding = .ok (w, db'.view) := by
  unfold openWriter at h
  cases hvalid : validateIdentity taskId source binding with
  | error e => simp [hvalid] at h
  | ok _ =>
    rw [hvalid] at h
    obtain ⟨hattach, rfl⟩ := Prod.mk.inj h
    unfold validateIdentity at hvalid
    rw [throw_eq, pure_eq, guard_eq_ok] at hvalid
    unfold attachWriter at hattach
    simp only [throw_eq, error_bind, pure_eq, guard_eq_ok, bind_eq_ok] at hattach
    obtain ⟨-, checkpoint, hload, hdiffer, hattach⟩ := hattach
    have hloaded := load_view hload
    have hview := view_ensureSchema fresh db
    have htable : (db.view.logInfo.getD ⟨"InnoDB", ["task_id"], fun _ => none⟩).engine = "InnoDB" ∧
        (db.view.logInfo.getD ⟨"InnoDB", ["task_id"], fun _ => none⟩).primaryKey = ["task_id"] := by
      unfold SinkDb.view
      cases db.logInfo with
      | none => exact ⟨rfl, rfl⟩
      | some rows => exact ⟨rfl, rfl⟩
    refine ⟨⟨some (db.sinkIdentity.getD fresh), some 1, some 1⟩, ?_⟩
    unfold MysqlSink.openWriter
    simp only [throw_eq, error_bind, pure_eq, guard_eq_ok, bind_eq_ok]
    refine ⟨hvalid.1, hdiffer, not_not_intro rfl, not_not_intro rfl, not_not_intro htable.1,
      not_not_intro htable.2, checkpoint, hview ▸ hloaded, ?_⟩
    cases checkpoint with
    | none =>
      cases hattach
      exact congrArg (fun db => Except.ok (_, db)) hview.symm
    | some cp =>
      obtain ⟨⟨⟩, hbinding, hattach⟩ := bind_eq_ok.mp hattach
      cases hattach
      dsimp only
      rw [mapError_eq_ok.mp hbinding, ok_bind]
      exact congrArg (fun db => Except.ok (_, db)) hview.symm

/-! ## Applying -/

theorem merge_eq_ok {left : Option String} {right set : String} :
    merge left right = .ok set ↔ mergeGtids left right = .ok set := mapError_eq_ok

theorem observe_view (h : observe w t = .ok w') : MysqlSink.observe ownGtids w t = .ok w' := by
  have hgtids : ∀ observed, observedGtidsWith w t.id = .ok observed →
      MysqlSink.observedGtidsWith ownGtids w t.id = .ok observed := by
    intro observed hobserved
    unfold observedGtidsWith at hobserved
    unfold MysqlSink.observedGtidsWith
    split at hobserved
    · next hmode =>
      rw [if_pos hmode]
      obtain ⟨set, hset, hobserved⟩ := bind_eq_ok.mp hobserved
      have hmerge := merge_eq_ok.mp hset
      obtain ⟨A, B, hA, hB, -, -⟩ := mergeGtids_canonical hmerge
      have hread : readSet (trimMatches (w.observedGtids.getD "" ++ "," ++ t.id) ',') =
          some (A ∪ B) := by
        rw [readSet_congr (groupTexts_trimMatches _), readSet_append hA hB]
      cases hobserved
      dsimp only
      rw [canonicalGtids_own.mpr (mergeGtids_eq hmerge hA hB hread)]
      rfl
    · next hmode =>
      rw [if_neg hmode]
      cases hobserved
      rfl
  unfold observe at h
  unfold MysqlSink.observe
  cases hposition : w.observedPosition with
  | none =>
    simp only [hposition, throw_eq, pure_eq, error_bind, guard_eq_ok, bind_eq_ok,
      Except.ok.injEq] at h ⊢
    obtain ⟨hempty, p, hp, observed, hobserved, hw⟩ := h
    exact ⟨hempty, p, filePosition_view hp, observed, hgtids observed hobserved, hw⟩
  | some old =>
    simp only [hposition, throw_eq, pure_eq, error_bind, guard_eq_ok, bind_eq_ok,
      Except.ok.injEq] at h ⊢
    obtain ⟨hempty, p, hp, order, horder, hgreater, observed, hobserved, hw⟩ := h
    exact ⟨hempty, p, filePosition_view hp, order, mapError_eq_ok.mp horder, hgreater, observed,
      hgtids observed hobserved, hw⟩

/-- The checkpoint that is written is the one that the arithmetic of a server gives. -/
theorem advanceCheckpoint_view {observed : Option String} {rows : ℕ} {next : ReplicationCheckpoint}
    (h : advanceCheckpoint cp observed id file position rows = .ok next) :
    MysqlSink.advanceCheckpoint ownGtids cp observed id file position rows = .ok next := by
  unfold advanceCheckpoint at h
  unfold MysqlSink.advanceCheckpoint
  by_cases hmode : cp.mode = "gtid"
  · simp only [hmode, if_true, throw_eq, error_bind, guard_eq_ok, bind_eq_ok, pure_eq,
      Except.ok.injEq, merge_eq_ok] at h ⊢
    obtain ⟨merged, hmerged, set, hset, hnext⟩ := h
    obtain ⟨A, O, hA, hO, hAO, -⟩ := mergeGtids_canonical hmerged
    obtain ⟨_, I, hmergedRead, hI, -, -⟩ := mergeGtids_canonical hset
    have hcombined : readSet (trimMatches (MysqlSink.combinedGtids cp observed id) ',') =
        some (A ∪ O ∪ I) := by
      rw [readSet_congr (groupTexts_trimMatches _), ownGtids_lawful.combinedGtids_denote hA hO hI,
        Set.union_assoc]
    exact ⟨set, canonicalGtids_own.mpr (mergeGtids_eq hset hAO hI hcombined), hnext⟩
  · simp only [hmode, if_false, throw_eq, error_bind, guard_eq_ok, ok_bind, pure_eq,
      Except.ok.injEq] at h ⊢
    exact h

theorem alreadyApplied_view {order : Ordering} {already : Bool}
    (hid : cp.mode = "gtid" → SingleGtid id) (h : alreadyApplied cp id order = .ok already) :
    MysqlSink.alreadyApplied ownGtids cp id order = .ok already := by
  unfold alreadyApplied at h
  by_cases hmode : cp.mode = "gtid"
  · simp only [hmode, if_true, throw_eq, pure_eq, error_bind, guard_eq_ok, bind_eq_ok,
      Except.ok.injEq] at h
    obtain ⟨included, hincluded, hgreater, rfl⟩ := h
    rw [MysqlSink.alreadyApplied_gtid hmode]
    refine ⟨hid hmode, gtidIncluded_view hincluded, ?_⟩
    rintro rfl
    by_contra horder
    exact hgreater ⟨Bool.false_ne_true, horder⟩
  · unfold MysqlSink.alreadyApplied
    rw [if_neg hmode] at h ⊢
    cases h
    rfl

/-- What is classified is read from the row, and the MySQL writer would classify it so. -/
theorem classifyTransaction_view {already : Bool}
    (hid : ∀ cp, w.checkpoint = some cp → cp.mode = "gtid" → SingleGtid id)
    (h : classifyTransaction db w source id cursor = .ok (row, cp, file, position, already)) :
    checkpointFromRow row = .ok cp ∧
      MysqlSink.classifyTransaction ownGtids db.view w source id cursor =
        .ok (cp, file, position, already) := by
  unfold classifyTransaction at h
  cases hw : w.checkpoint with
  | none => simp [hw] at h
  | some expected =>
    simp only [hw, throw_eq, pure_eq, error_bind, guard_eq_ok, bind_eq_ok] at h
    obtain ⟨hidentity, hphase, ⟨f, p⟩, hf, stored, hstored, h⟩ := h
    obtain ⟨rows, hrows, rfl⟩ := selectRow_eq_ok.mp hstored
    cases hrow : rows w.taskId with
    | none => simp [hrow] at h
    | some found =>
      simp only [hrow, guard_eq_ok, bind_eq_ok, Except.ok.injEq, Prod.mk.injEq] at h
      obtain ⟨read, hread, ⟨⟩, hbinding, hexpected, order, horder, answer, hanswer, rfl, rfl, rfl,
        rfl, rfl⟩ := h
      obtain rfl : read = expected := not_not.mp hexpected
      have hload : MysqlSink.load db.view w.taskId = .ok (some read) := by
        apply load_view
        rw [load, hstored, ok_bind, hrow, Option.mapM_some, hread]
        rfl
      have hengine : db.view.logInfo.map (·.engine) = some "InnoDB" := by
        rw [SinkDb.view, hrows]
        rfl
      refine ⟨hread, ?_⟩
      unfold MysqlSink.classifyTransaction
      simp only [hw, throw_eq, pure_eq, error_bind, guard_eq_ok, bind_eq_ok]
      refine ⟨by tauto, hphase, (f, p), filePosition_view hf, some read, hload, ?_⟩
      simp only [guard_eq_ok, bind_eq_ok, Except.ok.injEq]
      exact ⟨not_not_intro hengine, (), mapError_eq_ok.mp hbinding, not_not_intro rfl, order,
        mapError_eq_ok.mp horder, answer, alreadyApplied_view (hid read hw) hanswer, rfl⟩

/-- The outcome as the MySQL writer has it. -/
def ApplyOutcome.view : ApplyOutcome β → MysqlSink.ApplyOutcome β
  | .covered result => .covered result
  | .ready result _ business => .ready result business

/-- The identity of the row, its mode and its snapshot stay. -/
theorem advanceCheckpoint_frame {observed : Option String} {rows : ℕ}
    {next : ReplicationCheckpoint}
    (h : advanceCheckpoint cp observed id file position rows = .ok next) :
    next = { cp with
      file := next.file, position := next.position, gtidSet := next.gtidSet
      lastTransactionId := next.lastTransactionId, revision := next.revision
      appliedTransactions := next.appliedTransactions, appliedRows := next.appliedRows } := by
  unfold advanceCheckpoint at h
  by_cases hmode : cp.mode = "gtid"
  · rw [if_pos hmode] at h
    simp only [throw_eq, error_bind, guard_eq_ok, bind_eq_ok, pure_eq, Except.ok.injEq] at h
    obtain ⟨_, -, _, -, _, -, -, rfl⟩ := h
    rfl
  · rw [if_neg hmode] at h
    simp only [throw_eq, error_bind, guard_eq_ok, ok_bind, pure_eq, Except.ok.injEq] at h
    obtain ⟨-, rfl⟩ := h
    rfl

theorem applyFresh_view {outcome : ApplyOutcome β} (hread : checkpointFromRow row = .ok cp)
    (h : applyFresh execute db w row cp id file position plan = .ok outcome) :
    MysqlSink.applyFresh ownGtids execute db.view w cp id file position plan = .ok outcome.view ∧
      ∀ result row business, outcome = .ready result row business →
        checkpointFromRow row = .ok result.checkpoint := by
  unfold applyFresh at h
  unfold MysqlSink.applyFresh
  cases hobserved : w.observedPosition with
  | none =>
    simp only [hobserved, pure_eq, bind_eq_ok, mapError_eq_ok, Except.ok.injEq] at h ⊢
    obtain ⟨executed, hexecuted, next, hnext, row', hrow, rfl⟩ := h
    refine ⟨⟨executed, hexecuted, next, advanceCheckpoint_view hnext, rfl⟩, ?_⟩
    rintro _ _ _ ⟨⟩
    exact checkpointFromRow_updateRow hread hrow (advanceCheckpoint_frame hnext)
  | some old =>
    simp only [hobserved, throw_eq, pure_eq, error_bind, guard_eq_ok, bind_eq_ok, mapError_eq_ok,
      Except.ok.injEq] at h ⊢
    obtain ⟨order, horder, hnotless, executed, hexecuted, next, hnext, row', hrow, rfl⟩ := h
    refine ⟨⟨order, mapError_eq_ok.mp horder, hnotless, executed, hexecuted, next,
      advanceCheckpoint_view hnext, rfl⟩, ?_⟩
    rintro _ _ _ ⟨⟩
    exact checkpointFromRow_updateRow hread hrow (advanceCheckpoint_frame hnext)

/-- What is applied is applied by the MySQL writer, and the row that is written is read back as
the checkpoint of the result. -/
theorem applyInner_view {outcome : ApplyOutcome β}
    (hid : ∀ cp, w.checkpoint = some cp → cp.mode = "gtid" → SingleGtid id)
    (h : applyInner execute db w source id cursor plan = .ok outcome) :
    MysqlSink.applyInner ownGtids execute db.view w source id cursor plan = .ok outcome.view ∧
      ∀ result row business, outcome = .ready result row business →
        checkpointFromRow row = .ok result.checkpoint := by
  unfold applyInner at h
  obtain ⟨⟨row, cp, file, position, already⟩, hclassify, h⟩ := bind_eq_ok.mp h
  obtain ⟨hread, hview⟩ := classifyTransaction_view hid hclassify
  unfold MysqlSink.applyInner
  rw [hview, ok_bind]
  cases already with
  | true =>
    cases h
    refine ⟨rfl, ?_⟩
    rintro _ _ _ ⟨⟩
  | false => exact applyFresh_view hread h

/-- The answer does not depend on the errors of the computation. -/
theorem decided {ε ε' : Type} {included : Bool} {order : Ordering} {answer : CommitResolution}
    (h : (if included ∨ order = .lt then .ok .applied
      else if order = .gt then .ok .notApplied else .ok .unprovable : Except ε _) = .ok answer) :
    (if included ∨ order = .lt then .ok .applied
      else if order = .gt then .ok .notApplied else .ok .unprovable : Except ε' _) =
        .ok answer := by
  split at h
  · rename_i hyes
    cases h
    exact if_pos hyes
  · rename_i hno
    rw [if_neg hno]
    split at h <;> cases h <;> simp_all

theorem resolveCommitUnknown_view {answer : CommitResolution}
    (h : resolveCommitUnknown db w t = .ok answer) :
    MysqlSink.resolveCommitUnknown ownGtids db.view w t = .ok answer := by
  unfold resolveCommitUnknown at h
  simp only [throw_eq, pure_eq, error_bind, guard_eq_ok, bind_eq_ok] at h
  obtain ⟨hidentity, p, hp, _ | cp, hload, h⟩ := h
  · cases h
  · simp only [bind_eq_ok] at h
    obtain ⟨⟨⟩, hbinding, h⟩ := h
    unfold MysqlSink.resolveCommitUnknown
    simp only [throw_eq, pure_eq, error_bind, guard_eq_ok, bind_eq_ok]
    refine ⟨hidentity, p, filePosition_view hp, some cp, load_view hload, ?_⟩
    simp only [bind_eq_ok]
    refine ⟨(), mapError_eq_ok.mp hbinding, ?_⟩
    by_cases hlast : cp.lastTransactionId = some t.id
    · rw [if_pos hlast] at h ⊢
      cases h
      rfl
    · rw [if_neg hlast] at h ⊢
      rw [bind_eq_ok] at h ⊢
      obtain ⟨order, horder, h⟩ := h
      refine ⟨order, mapError_eq_ok.mp horder, ?_⟩
      by_cases hmode : cp.mode = "gtid"
      · simp only [hmode, if_true, bind_eq_ok] at h ⊢
        obtain ⟨included, hincluded, h⟩ := h
        refine ⟨included, gtidIncluded_view hincluded, ?_⟩
        exact decided h
      · simp only [hmode, if_false, ok_bind] at h ⊢
        exact decided h

end DatabaseSync.PostgresqlSink
