import DatabaseSync.PostgresqlSink.CheckpointRefinement
import DatabaseSync.Worker.ExactlyOnce

/-! # The apply loop over a PostgreSQL sink

The worker runs the same loop over the PostgreSQL writer. Every step of it is a step of the loop
over the MySQL writer, on the rows that the PostgreSQL writer reads back, so what that loop keeps
invariant holds here as well.
-/

namespace DatabaseSync.Worker

open ChangeEvent Checked PostgresqlSink
open MysqlSink (CheckpointApplyResult CheckpointWriter ReplicationCheckpoint SingleGtid
  SqlTransaction)

variable {β σ : Type}

/-- A task's route into a PostgreSQL sink. -/
structure PostgresqlRoute (β σ : Type) where
  taskId : String
  sourceUuid : String
  binding : String
  sqlWithPlans : ChangeTransaction → Except IoError (List (String × String) × List σ)
  execute : SqlTransaction σ → β → Except IoError β

namespace PostgresqlRoute

variable (r : PostgresqlRoute β σ)

/-- The route over a MySQL writer whose server computes as the PostgreSQL writer does. -/
def route : Route β σ :=
  ⟨r.taskId, r.sourceUuid, r.binding, ownGtids, r.sqlWithPlans, r.execute⟩

/-- `Sink::apply`: an empty projection only advances the checkpoint. -/
def apply (db : PostgresqlSink.SinkDb β) (w : CheckpointWriter) (t : ChangeTransaction) :
    Except WriterError (PostgresqlSink.ApplyOutcome β) := do
  if t.changes.isEmpty then PostgresqlSink.advance r.execute db w t
  else PostgresqlSink.apply r.execute db w (← (r.route.plan t).mapError .io)

end PostgresqlRoute

structure PostgresqlSystem (β : Type) where
  db : PostgresqlSink.SinkDb β
  phase : Phase

variable (r : PostgresqlRoute β σ) (history : List ChangeTransaction)

/-- One step of the worker and its databases. An opening draws an identity for a new sink and
asks for the task's lock. -/
inductive PostgresqlStep : PostgresqlSystem β → Action → PostgresqlSystem β → Prop
  | start {db db' : PostgresqlSink.SinkDb β} {fresh : String} {owned : Bool}
      {w : CheckpointWriter} {cp : ReplicationCheckpoint} {rest : List ChangeTransaction} :
      PostgresqlSink.openWriter fresh owned db r.taskId r.sourceUuid r.binding = (.ok w, db') →
      w.checkpoint = some cp → Resumes r.route history cp rest →
      PostgresqlStep ⟨db, .down⟩ .start ⟨db', .streaming w rest none⟩
  | observe {db : PostgresqlSink.SinkDb β} {w w' : CheckpointWriter} {t : ChangeTransaction}
      {rest : List ChangeTransaction} {last : Option ChangeTransaction} :
      rowBearing t = false → PostgresqlSink.observe w t = .ok w' →
      PostgresqlStep ⟨db, .streaming w (t :: rest) last⟩ .observe ⟨db, .streaming w' rest (some t)⟩
  | deliver {db : PostgresqlSink.SinkDb β} {w : CheckpointWriter} {t : ChangeTransaction}
      {rest : List ChangeTransaction} {last : Option ChangeTransaction} :
      rowBearing t = true →
      PostgresqlStep ⟨db, .streaming w (t :: rest) last⟩ .deliver
        ⟨db, .applying w t rest (.first 0)⟩
  | flush {db : PostgresqlSink.SinkDb β} {w : CheckpointWriter} {t : ChangeTransaction}
      {rest : List ChangeTransaction} :
      PostgresqlStep ⟨db, .streaming w rest (some t)⟩ .flush ⟨db, .applying w t rest (.first 0)⟩
  | covered {db : PostgresqlSink.SinkDb β} {w : CheckpointWriter} {t : ChangeTransaction}
      {rest : List ChangeTransaction} {attempt : Attempt} {result : CheckpointApplyResult} :
      r.apply db w t = .ok (.covered result) →
      PostgresqlStep ⟨db, .applying w t rest attempt⟩ .covered ⟨db, .streaming w rest none⟩
  | commit {db : PostgresqlSink.SinkDb β} {w : CheckpointWriter} {t : ChangeTransaction}
      {rest : List ChangeTransaction} {attempt : Attempt} {result : CheckpointApplyResult}
      {row : LogInfoRow} {business : β} :
      r.apply db w t = .ok (.ready result row business) →
      PostgresqlStep ⟨db, .applying w t rest attempt⟩ .commit
        ⟨db.store w.taskId row business, .streaming (w.committed result.checkpoint) rest none⟩
  /-- Any call before `COMMIT`, or the `COMMIT` itself, fails with a retryable error of the
  server; the transaction is rolled back. -/
  | failRetry {db : PostgresqlSink.SinkDb β} {w : CheckpointWriter} {t : ChangeTransaction}
      {rest : List ChangeTransaction} {retries : ℕ} {error : WriterError} :
      (PostgresqlSink.classifyApplyError error).isRetryable = true → retries < maxApplyRetries →
      PostgresqlStep ⟨db, .applying w t rest (.first retries)⟩ .failRetry
        ⟨db, .reopening t rest (retries + 1)⟩
  | loseCommit {db : PostgresqlSink.SinkDb β} {w : CheckpointWriter} {t : ChangeTransaction}
      {rest : List ChangeTransaction} {attempt : Attempt} {result : CheckpointApplyResult}
      {row : LogInfoRow} {business : β} (committed : Bool) :
      r.apply db w t = .ok (.ready result row business) →
      PostgresqlStep ⟨db, .applying w t rest attempt⟩ (.loseCommit committed)
        ⟨if committed then db.store w.taskId row business else db,
          match attempt with
          | .first _ => .unknown t rest
          | .replay => .down⟩
  | reopen {db db' : PostgresqlSink.SinkDb β} {fresh : String} {owned : Bool}
      {w : CheckpointWriter} {t : ChangeTransaction} {rest : List ChangeTransaction}
      {retries : ℕ} :
      PostgresqlSink.openWriter fresh owned db r.taskId r.sourceUuid r.binding = (.ok w, db') →
      PostgresqlStep ⟨db, .reopening t rest retries⟩ .reopen
        ⟨db', .applying w t rest (.first retries)⟩
  | resolveOpen {db db' : PostgresqlSink.SinkDb β} {fresh : String} {owned : Bool}
      {w : CheckpointWriter} {t : ChangeTransaction} {rest : List ChangeTransaction} :
      PostgresqlSink.openWriter fresh owned db r.taskId r.sourceUuid r.binding = (.ok w, db') →
      PostgresqlStep ⟨db, .unknown t rest⟩ .resolveOpen ⟨db', .resolving w t rest⟩
  | resolveApplied {db : PostgresqlSink.SinkDb β} {w : CheckpointWriter} {t : ChangeTransaction}
      {rest : List ChangeTransaction} :
      PostgresqlSink.resolveCommitUnknown db w t = .ok .applied →
      PostgresqlStep ⟨db, .resolving w t rest⟩ .resolveApplied ⟨db, .streaming w rest none⟩
  | resolveNotApplied {db : PostgresqlSink.SinkDb β} {w : CheckpointWriter}
      {t : ChangeTransaction} {rest : List ChangeTransaction} :
      PostgresqlSink.resolveCommitUnknown db w t = .ok .notApplied →
      PostgresqlStep ⟨db, .resolving w t rest⟩ .resolveNotApplied ⟨db, .applying w t rest .replay⟩
  /-- The run ends: a stop, a crash, or an error that recovery does not handle. -/
  | stop {db : PostgresqlSink.SinkDb β} {phase : Phase} :
      PostgresqlStep ⟨db, phase⟩ .stop ⟨db, .down⟩
  /-- The writer does not open, after it may have created the schema. -/
  | openFailed {db db' : PostgresqlSink.SinkDb β} {phase : Phase} {fresh : String}
      {owned : Bool} {error : WriterError} :
      PostgresqlSink.openWriter fresh owned db r.taskId r.sourceUuid r.binding =
        (.error error, db') →
      PostgresqlStep ⟨db, phase⟩ .stop ⟨db', .down⟩

/-! ## Simulation -/

variable {r} {history} {γ : Type} {denote : String → Option (Set γ)} {g : ChangeTransaction → γ}
  {cp₀ cp : ReplicationCheckpoint} {business₀ business : β} {k : Option ChangeTransaction}
  {db db' : PostgresqlSink.SinkDb β} {w : CheckpointWriter} {t : ChangeTransaction}
  {row : LogInfoRow} {result : CheckpointApplyResult} {s s' : PostgresqlSystem β} {a : Action}

/-- The system on the rows that are read back. -/
def PostgresqlSystem.view (s : PostgresqlSystem β) : System β := ⟨s.db.view, s.phase⟩

/-- The source names transactions by single GTIDs where the checkpoint counts them. -/
def NamesGtids (cp₀ : ReplicationCheckpoint) (history : List ChangeTransaction) : Prop :=
  cp₀.mode = "gtid" → ∀ t ∈ history, SingleGtid t.id

theorem PostgresqlRoute.apply_view {outcome : PostgresqlSink.ApplyOutcome β}
    (hid : ∀ cp, w.checkpoint = some cp → cp.mode = "gtid" → SingleGtid t.id)
    (h : r.apply db w t = .ok outcome) : r.route.apply db.view w t = .ok outcome.view ∧
      ∀ result row business, outcome = .ready result row business →
        checkpointFromRow row = .ok result.checkpoint := by
  unfold PostgresqlRoute.apply at h
  unfold Route.apply
  by_cases hempty : t.changes.isEmpty = true
  · rw [if_pos hempty] at h ⊢
    unfold PostgresqlSink.advance at h
    unfold MysqlSink.advance
    rw [if_neg (not_not_intro hempty)] at h ⊢
    exact applyInner_view hid h
  · rw [if_neg hempty] at h ⊢
    obtain ⟨plan, hplan, h⟩ := bind_eq_ok.mp h
    have hplan := mapError_eq_ok.mp hplan
    rw [hplan, ok_bind]
    have hsame : plan.sourceTransactionId = t.id := by
      simp only [Route.plan, pure_eq, bind_eq_ok, Except.ok.injEq] at hplan
      obtain ⟨_, -, rfl⟩ := hplan
      rfl
    exact applyInner_view (hsame ▸ hid) h

/-- A step is a step over the MySQL writer. -/
theorem PostgresqlStep.view (hnames : NamesGtids cp₀ history)
    (h : Inv r.route denote g cp₀ history business₀ s.view cp k)
    (hstep : PostgresqlStep r history s a s') : Step r.route history s.view a s'.view := by
  have hid : ∀ {db : PostgresqlSink.SinkDb β} {w t rest attempt},
      Inv r.route denote g cp₀ history business₀ ⟨db.view, .applying w t rest attempt⟩ cp k →
        ∀ row, w.checkpoint = some row → row.mode = "gtid" → SingleGtid t.id := by
    intro db w t rest attempt h row hrow hmode
    obtain rfl : row = cp := Option.some.inj (hrow.symm.trans h.phase.1.checkpoint)
    exact hnames (h.stored.mode ▸ hmode) t h.phase.2.1.mem
  cases hstep with
  | start hopen hcp hresumes =>
    obtain ⟨server, hopen⟩ := openWriter_view hopen
    exact .start hopen hcp hresumes
  | observe hbearing hobserve => exact .observe hbearing (observe_view hobserve)
  | deliver hbearing => exact .deliver hbearing
  | flush => exact .flush
  | covered happly => exact .covered (PostgresqlRoute.apply_view (hid h) happly).1
  | commit happly =>
    obtain ⟨happly, hread⟩ := PostgresqlRoute.apply_view (hid h) happly
    unfold PostgresqlSystem.view
    rw [view_store (hread _ _ _ rfl)]
    exact .commit happly
  | failRetry hretry hlt =>
    have hretry : (MysqlSink.classifyApplyError (.driver .connectivity)).isRetryable = true := rfl
    exact .failRetry hretry hlt
  | loseCommit committed happly =>
    obtain ⟨happly, hread⟩ := PostgresqlRoute.apply_view (hid h) happly
    unfold PostgresqlSystem.view
    rw [apply_ite PostgresqlSink.SinkDb.view, view_store (hread _ _ _ rfl)]
    exact .loseCommit committed happly
  | reopen hopen =>
    obtain ⟨server, hopen⟩ := openWriter_view hopen
    exact .reopen hopen
  | resolveOpen hopen =>
    obtain ⟨server, hopen⟩ := openWriter_view hopen
    exact .resolveOpen hopen
  | resolveApplied hresolve => exact .resolveApplied (resolveCommitUnknown_view hresolve)
  | resolveNotApplied hresolve => exact .resolveNotApplied (resolveCommitUnknown_view hresolve)
  | stop => exact .stop
  | @openFailed db db' phase fresh owned error hopen =>
    have hview : db'.view = db.view := by
      rcases openWriter_db hopen with rfl | rfl
      · rfl
      · exact view_ensureSchema_of_holds fresh h.stored.holds
    unfold PostgresqlSystem.view
    rw [hview]
    exact .stop

/-- Every state of a run is, on the rows that are read back, a state of a run over the MySQL
writer, and is invariant there. -/
theorem simulated (hist : SourceHistory denote g r.route.gtids cp₀ history)
    (hnames : NamesGtids cp₀ history)
    (h : Inv r.route denote g cp₀ history business₀ s.view cp k)
    (hrun : Transition.Run (PostgresqlStep r history) s s') :
    ∃ cp' k', Transition.Run (Step r.route history) s.view s'.view ∧
      Inv r.route denote g cp₀ history business₀ s'.view cp' k' ∧ Advances cp₀.mode k k' := by
  have hsim : ∃ u, Transition.Run (Step r.route history) s.view u ∧ u = s'.view ∧
      ∃ cp k, Inv r.route denote g cp₀ history business₀ u cp k := by
    refine hrun.simulate (R := fun s u => u = s.view ∧
      ∃ cp k, Inv r.route denote g cp₀ history business₀ u cp k) ?_ ⟨rfl, cp, k, h⟩
    rintro s a s' _ ⟨rfl, cp, k, hinv⟩ hstep
    have hview := hstep.view hnames hinv
    obtain ⟨cp', k', hinv', -⟩ := hinv.step hist hview
    exact ⟨s'.view, Transition.Run.refl.tail hview, rfl, cp', k', hinv'⟩
  obtain ⟨_, hrun', rfl, -⟩ := hsim
  obtain ⟨cp', k', hinv, hadvances⟩ := h.run hist hrun'
  exact ⟨cp', k', hrun', hinv, hadvances⟩

/-! ## Runs -/

section Runs

variable {g : ChangeTransaction → Gtid}
  (hist : SourceHistory readSet g ownGtids cp₀ history) (hnames : NamesGtids cp₀ history)
  (h₀ : PostgresqlSink.load db r.taskId = .ok (some cp₀))
  (hrun : Transition.Run (PostgresqlStep r history) ⟨db, .down⟩ s)
include hist hnames h₀ hrun

/-- In every state of every run over a PostgreSQL sink, the business rows are the effect of
exactly the row-bearing transactions up to the stored position, in order and once each, and the
stored position never moves back. -/
theorem postgresql_exactly_once : ∃ cp, PostgresqlSink.load s.db r.taskId = .ok (some cp) ∧
    Watermark.replay r.route.effect db.business
      (history.filter fun t => rowBearing t && upTo cp t) = .ok s.db.business ∧
    ∀ s', Transition.Run (PostgresqlStep r history) s s' →
      ∃ cp', PostgresqlSink.load s'.db r.taskId = .ok (some cp') ∧ NotBackward cp cp' := by
  have hinit : Inv r.route readSet g cp₀ history db.business ⟨db.view, .down⟩ cp₀ none :=
    Inv.init hist (load_eq_ok.mp h₀)
  obtain ⟨cp, k, -, hinv, -⟩ := simulated (s := ⟨db, .down⟩) hist hnames hinit hrun
  refine ⟨cp, load_eq_ok.mpr hinv.stored.holds, hinv.stored.rows, fun s' hrun' => ?_⟩
  obtain ⟨cp', k', -, hinv', hadvances⟩ := simulated hist hnames hinv hrun'
  exact ⟨cp', load_eq_ok.mpr hinv'.stored.holds,
    hinv.stored.not_backward hist hinv'.stored hadvances⟩

/-- In GTID mode the stored set lists of the history every row-bearing transaction up to the
stored position, and none after it. -/
theorem postgresql_gtids_exact (hmode : cp₀.mode = "gtid") :
    ∃ cp set, PostgresqlSink.load s.db r.taskId = .ok (some cp) ∧ cp.gtidSet.getD "" = set ∧
      (∃ map, parseGtids set = .ok map) ∧
      ∀ t ∈ history, (g t ∈ textSet set → upTo cp t = true) ∧
        (rowBearing t = true → upTo cp t = true → g t ∈ textSet set) := by
  have hinit : Inv r.route readSet g cp₀ history db.business ⟨db.view, .down⟩ cp₀ none :=
    Inv.init hist (load_eq_ok.mp h₀)
  obtain ⟨cp, k, -, hinv, -⟩ := simulated (s := ⟨db, .down⟩) hist hnames hinit hrun
  obtain ⟨A, hA, hpassed, hcomplete⟩ := hinv.stored.gtids hmode
  obtain ⟨hparse, rfl⟩ := readSet_eq_some.mp hA
  refine ⟨cp, _, load_eq_ok.mpr hinv.stored.holds, rfl, hparse, fun t ht => ?_⟩
  have hupTo := hist.upTo_iff hinv.stored.mode hinv.stored.mem hinv.stored.stands ht
  rw [hupTo]
  exact ⟨hpassed t ht, hcomplete t ht⟩

/-- A run over a PostgreSQL sink is a run over the MySQL writer, on the rows that are read back and
with a server that computes as the PostgreSQL writer does. -/
theorem postgresql_refines_mysql :
    Transition.Run (Step r.route history) ⟨db.view, .down⟩ s.view := by
  have hinit : Inv r.route readSet g cp₀ history db.business ⟨db.view, .down⟩ cp₀ none :=
    Inv.init hist (load_eq_ok.mp h₀)
  obtain ⟨_, _, hrun', -⟩ := simulated (s := ⟨db, .down⟩) hist hnames hinit hrun
  exact hrun'

end Runs

section Sample

/-- The row of a new route in GTID mode, as it is stored. -/
def sampleLogInfo : LogInfoRow :=
  ⟨"orders", "3e11fa47-71ca-11e1-9e33-c80aa9429562", "8f0b2a10-52c6-11ee-8c99-0242ac120002",
    MysqlSink.sampleBinding, "gtid", "binlog.000001", ⟨4, by decide⟩, some "", none,
    .zero, .zero, .zero, "incremental", .zero, none⟩

def samplePostgresqlDb : PostgresqlSink.SinkDb (List String) :=
  ⟨some fun id => if id = "orders" then some sampleLogInfo else none,
    some "8f0b2a10-52c6-11ee-8c99-0242ac120002", []⟩

def samplePostgresqlRoute : PostgresqlRoute (List String) String where
  taskId := "orders"
  sourceUuid := "3e11fa47-71ca-11e1-9e33-c80aa9429562"
  binding := MysqlSink.sampleBinding
  sqlWithPlans t := .ok (t.changes.map fun c => (c.schema, c.table), t.changes.map (·.table))
  execute p business := .ok (business ++ p.statements)

/-- The first transaction of the sample source is its GTID 1, the other its GTID 2. -/
def sampleGtid (t : ChangeTransaction) : Gtid :=
  ⟨"3e11fa47-71ca-11e1-9e33-c80aa9429562", none, if t.id = filtered.id then 1 else 2⟩

theorem postgresql_history : SourceHistory readSet sampleGtid ownGtids MysqlSink.sampleRow
    [filtered, MysqlSink.ordered] where
  increasing := sample_history.increasing
  after_start := sample_history.after_start
  distinct := sample_history.distinct
  fresh := sample_history.fresh
  lawful _ := ownGtids_lawful
  single _ := by
    simp only [List.mem_cons, List.not_mem_nil, or_false, forall_eq_or_imp, forall_eq]
    constructor
    · exact readSet_single (by decide +kernel)
    · exact readSet_single (by decide +kernel)
  distinct_gtids _ := by decide +kernel
  start_gtids _ := ⟨∅, ownGtids_lawful.empty, fun _ _ h => h⟩

theorem postgresql_names : NamesGtids MysqlSink.sampleRow [filtered, MysqlSink.ordered] := by
  rintro -
  simp only [List.mem_cons, List.not_mem_nil, or_false, forall_eq_or_imp, forall_eq]
  refine ⟨⟨by decide +kernel, ?_⟩, ⟨by decide +kernel, ?_⟩⟩
  · exact ⟨("3e11fa47-71ca-11e1-9e33-c80aa9429562", "1"), by decide +kernel, by decide +kernel⟩
  · exact ⟨("3e11fa47-71ca-11e1-9e33-c80aa9429562", "2"), by decide +kernel, by decide +kernel⟩

theorem postgresql_load :
    PostgresqlSink.load samplePostgresqlDb samplePostgresqlRoute.taskId =
      .ok (some MysqlSink.sampleRow) := by
  decide +kernel

def sampleObserved : CheckpointWriter :=
  { MysqlSink.sampleWriter MysqlSink.sampleRow with
    observedGtids := some filtered.id, observedPosition := some ("binlog.000001", 200) }

/-- The row after both transactions. -/
def sampleLogInfoCommitted : LogInfoRow :=
  { sampleLogInfo with
    binlogPosition := ⟨300, by decide⟩
    gtidSet := some "3e11fa47-71ca-11e1-9e33-c80aa9429562:1-2"
    lastTransactionId := some MysqlSink.ordered.id
    revision := ⟨1, by decide⟩
    appliedTransactions := ⟨1, by decide⟩
    appliedRows := ⟨1, by decide⟩ }

def samplePostgresqlCommitted : ReplicationCheckpoint :=
  { sampleCommitted with gtidSet := some "3e11fa47-71ca-11e1-9e33-c80aa9429562:1-2" }

theorem postgresql_open : PostgresqlSink.openWriter "" true samplePostgresqlDb
    samplePostgresqlRoute.taskId samplePostgresqlRoute.sourceUuid samplePostgresqlRoute.binding =
      (.ok (MysqlSink.sampleWriter MysqlSink.sampleRow), samplePostgresqlDb) := by
  have hattach : attachWriter true "8f0b2a10-52c6-11ee-8c99-0242ac120002" samplePostgresqlDb
      samplePostgresqlRoute.taskId samplePostgresqlRoute.sourceUuid samplePostgresqlRoute.binding =
        .ok (MysqlSink.sampleWriter MysqlSink.sampleRow) := by decide +kernel
  have hvalid : validateIdentity samplePostgresqlRoute.taskId samplePostgresqlRoute.sourceUuid
      samplePostgresqlRoute.binding = .ok () := by decide +kernel
  unfold PostgresqlSink.openWriter
  rw [hvalid]
  exact congrArg (·, samplePostgresqlDb) hattach

/-- The first transaction is observed and the second one committed with it. -/
theorem postgresql_run : Transition.Run
    (PostgresqlStep samplePostgresqlRoute [filtered, MysqlSink.ordered])
    ⟨samplePostgresqlDb, .down⟩
    ⟨samplePostgresqlDb.store "orders" sampleLogInfoCommitted ["orders"],
      .streaming (sampleObserved.committed samplePostgresqlCommitted) [] none⟩ := by
  have hresumes : Resumes samplePostgresqlRoute.route [filtered, MysqlSink.ordered]
      MysqlSink.sampleRow [filtered, MysqlSink.ordered] :=
    ⟨List.Sublist.refl _, fun t ht => Or.inl ht⟩
  have hobserve : PostgresqlSink.observe (MysqlSink.sampleWriter MysqlSink.sampleRow) filtered =
      .ok sampleObserved := by decide +kernel
  have happly : samplePostgresqlRoute.apply samplePostgresqlDb sampleObserved MysqlSink.ordered =
      .ok (.ready ⟨samplePostgresqlCommitted, 1, false⟩ sampleLogInfoCommitted ["orders"]) := by
    decide +kernel
  exact (((Transition.Run.refl.tail (.start postgresql_open rfl hresumes)).tail
    (.observe rfl hobserve)).tail (.deliver rfl)).tail (.commit happly)

theorem postgresql_exactly_once_sample : ∃ s : PostgresqlSystem (List String), ∃ cp,
    PostgresqlSink.load s.db samplePostgresqlRoute.taskId = .ok (some cp) ∧
      Watermark.replay samplePostgresqlRoute.route.effect samplePostgresqlDb.business
        ([filtered, MysqlSink.ordered].filter fun t => rowBearing t && upTo cp t) =
          .ok s.db.business ∧
      ∀ s', Transition.Run (PostgresqlStep samplePostgresqlRoute [filtered, MysqlSink.ordered])
        s s' → ∃ cp', PostgresqlSink.load s'.db samplePostgresqlRoute.taskId = .ok (some cp') ∧
          NotBackward cp cp' :=
  ⟨_, postgresql_exactly_once postgresql_history postgresql_names postgresql_load postgresql_run⟩

theorem postgresql_gtids_exact_sample : ∃ s : PostgresqlSystem (List String), ∃ cp set,
    PostgresqlSink.load s.db samplePostgresqlRoute.taskId = .ok (some cp) ∧
      cp.gtidSet.getD "" = set ∧ (∃ map, parseGtids set = .ok map) ∧
      ∀ t ∈ [filtered, MysqlSink.ordered], (sampleGtid t ∈ textSet set → upTo cp t = true) ∧
        (rowBearing t = true → upTo cp t = true → sampleGtid t ∈ textSet set) :=
  ⟨_, postgresql_gtids_exact postgresql_history postgresql_names postgresql_load postgresql_run
    rfl⟩

theorem postgresql_refines_mysql_sample : ∃ s : PostgresqlSystem (List String), Transition.Run
    (Step samplePostgresqlRoute.route [filtered, MysqlSink.ordered])
      ⟨samplePostgresqlDb.view, .down⟩ s.view :=
  ⟨_, postgresql_refines_mysql postgresql_history postgresql_names postgresql_load postgresql_run⟩

end Sample

end DatabaseSync.Worker
