import DatabaseSync.ChangeEvent.SourceRows
import DatabaseSync.Library.Mirror
import DatabaseSync.MysqlSink.Snapshot
import DatabaseSync.Worker.PostgresqlRecovery
import DatabaseSync.Worker.Projection
import DatabaseSync.Worker.RowMeaning

/-! # The target mirrors the source

The selected tables of the target hold, row by row, the selected data of a state that the source
was in. The changes of a transaction lead from one such state to the next, and the checkpoint says
which of them it is.
-/

namespace DatabaseSync.Worker

open ChangeEvent Checked Control Relational
open MysqlSink (CheckpointWriter GtidServer ReplicationCheckpoint)

/-! ## One table -/

/-- The change that is left of a change to the table of a mapping. -/
structure Projects (m : TableMapping) (change projected : RowChange) : Prop where
  schema : projected.schema = change.schema
  table : projected.table = change.table
  operation : projected.operation = change.operation
  before : projected.before.getD [] = projectRow m (change.before.getD [])
  after : projected.after.getD [] = projectRow m (change.after.getD [])

theorem projectChange_spec {mappings : List TableMapping} {change projected : RowChange}
    (h : projectChange mappings change = some projected) :
    ∃ m, mappingOf mappings change.schema change.table = some m ∧ Projects m change projected := by
  obtain ⟨m, hm, rfl⟩ := projectChange_eq_some h
  have himage (image : Option (List ColumnDatum)) :
      (image.map (projectRow m)).getD [] = projectRow m (image.getD []) := by
    cases image with
    | none => rw [projectRow_eq]; rfl
    | some row => rfl
  exact ⟨m, hm, rfl, rfl, rfl, himage _, himage _⟩

section Table

variable {ν : Type} [BEq ν]

/-- A key value that was written for a datum is recognised as the one of this datum. -/
def ReadsBack (landing : Landing ν) : Prop :=
  ∀ schema table column,
    landing.keyEqual schema table column (landing.value schema table column) = true

/-- A stored row holds the selected data of a source row, except what the source computes. -/
def HoldsRow (landing : Landing ν) (m : TableMapping) (generated : String → Bool)
    (row : List ColumnDatum) (stored : Row String ν) : Prop :=
  ∀ column ∈ row, generated column.name = false → m.selects column.name = true →
    stored column.name = landing.value m.sourceSchema m.sourceTable column

/-- The target computes none of the selected columns that the source does not compute, and its
rows hold those of the source. -/
structure MirrorsTable (landing : Landing ν) (m : TableMapping) (source : SourceTable)
    (target : Table String ν) : Prop where
  written : ∀ column, source.generated column = false → m.selects column = true →
    target.schema.generated column = false
  rows : List.Forall₂ (HoldsRow landing m source.generated) source.rows target.rows

variable {landing : Landing ν} {m : TableMapping} {change projected : RowChange}
  {generated : String → Bool} {row : List ColumnDatum} {stored stored' : Row String ν}
  {schema : Schema String ν}

variable (hp : Projects m change projected)
  (hschema : m.sourceSchema = change.schema) (htable : m.sourceTable = change.table)
  (hvalid : ValidImages change)
  (hmarked : ∀ column ∈ change.columns, column.generated = generated column.name)
include hp hschema htable hvalid hmarked

omit [BEq ν] htable hschema hvalid in
theorem supplied_of_projects {column : ColumnDatum} (hcolumn : column ∈ change.after.getD [])
    (hgenerated : generated column.name = false) (hselected : m.selects column.name = true)
    (hunavailable : column.datum ≠ .unavailable) (hunchanged : column.datum ≠ .unchanged) :
    (column.name, landing.value change.schema change.table column) ∈
      projected.supplied landing := by
  unfold RowChange.supplied
  rw [hp.after, hp.schema, hp.table]
  refine List.mem_map_of_mem (List.mem_filter.mpr ⟨mem_projectRow.mpr ⟨hcolumn, hselected⟩, ?_⟩)
  have hmark := hmarked column (List.mem_append_right _ hcolumn)
  rw [isSupplied, hmark, hgenerated]
  cases hdatum : column.datum <;> simp_all

omit [BEq ν] in
/-- The row that an image shows has the key of the image. -/
theorem HoldsRow.keyMatches (hlanding : ReadsBack landing) (hop : change.operation ≠ .insert)
    (hshows : ShowsRow (change.before.getD []) row) (h : HoldsRow landing m generated row stored) :
    KeyMatches landing projected stored := by
  intro column hcolumn hkey
  rw [hp.before, mem_projectRow] at hcolumn
  obtain ⟨hgenerated, havailable⟩ := (hvalid.before hop).key column hcolumn.1 hkey
  rw [hmarked column (List.mem_append_left _ hcolumn.1)] at hgenerated
  rw [h column (hshows.data column hcolumn.1 havailable) hgenerated hcolumn.2, hp.schema, hp.table,
    hschema, htable]
  exact hlanding _ _ _

omit [BEq ν] in
theorem holdsRow_insert (hop : change.operation = .insert)
    (hsupplied : ∀ a ∈ projected.supplied landing, stored a.1 = a.2) :
    HoldsRow landing m generated (change.after.getD []) stored := by
  intro column hcolumn hgenerated hselected
  have himage := hvalid.after (by rw [hop]; exact nofun)
  rw [hschema, htable]
  exact hsupplied _ (supplied_of_projects hp hmarked hcolumn hgenerated hselected
    (himage.available hcolumn) (himage.changed (by rw [hop]; exact nofun) hcolumn))

omit [BEq ν] in
/-- An unchanged column is not written, so it keeps what was stored for the old row. -/
theorem holdsRow_update (hop : change.operation = .update)
    (hwritten : ∀ column, generated column = false → m.selects column = true →
      schema.generated column = false)
    (hshows : ShowsRow (change.before.getD []) row) (h : HoldsRow landing m generated row stored)
    (hsupplied : ∀ a ∈ projected.supplied landing, stored' a.1 = a.2)
    (hkept : ∀ column ∉ (projected.supplied landing).map Prod.fst,
      schema.generated column = false → stored' column = stored column) :
    HoldsRow landing m generated (rowAfter row (change.after.getD [])) stored' := by
  have himage := hvalid.after (by rw [hop]; exact nofun)
  intro column hcolumn hgenerated hselected
  have hnames : (change.after.getD []).map (·.name) ⊆ row.map (·.name) := by
    rw [hshows.names, hvalid.names hop]
    exact List.Subset.refl _
  rcases mem_rowAfter hnames hcolumn with ⟨hmem, hchanged⟩ | ⟨hmem, shown, hshown, hname, hdatum⟩
  · rw [hschema, htable]
    exact hsupplied _ (supplied_of_projects hp hmarked hmem hgenerated hselected
      (himage.available hmem) hchanged)
  · rw [← h column hmem hgenerated hselected]
    refine hkept column.name (fun hwrite => ?_) (hwritten _ hgenerated hselected)
    obtain ⟨a, ha, hfst⟩ := List.mem_map.mp hwrite
    obtain ⟨other, hother, rfl⟩ := List.mem_map.mp ha
    obtain ⟨hother, hisSupplied⟩ := List.mem_filter.mp hother
    rw [hp.after, mem_projectRow] at hother
    -- the names of an image are distinct
    have hsame : other = shown :=
      List.inj_on_of_nodup_map himage.nodup hother.1 hshown (hfst.trans hname.symm)
    rw [hsame, isSupplied, hdatum] at hisSupplied
    simp at hisSupplied

/-- A change that takes effect on both sides keeps the table mirrored. -/
theorem MirrorsTable.changed (hlanding : ReadsBack landing) {source : SourceTable}
    (hgenerated : source.generated = generated) {target target' : Table String ν}
    {rows' : List (List ColumnDatum)} (h : MirrorsTable landing m source target)
    (hsource : SourceRows change source.rows rows') (hkept : target'.schema = target.schema)
    (heffect : RowsEffect landing projected target.schema target.rows target'.rows) :
    MirrorsTable landing m { source with rows := rows' } target' := by
  obtain ⟨hwritten, hrows⟩ := h
  rw [hgenerated] at hwritten hrows
  refine ⟨by rw [hkept, hgenerated]; exact hwritten, ?_⟩
  dsimp only
  rw [hgenerated]
  unfold SourceRows at hsource
  unfold RowsEffect at heffect
  rw [hp.operation] at heffect
  cases hop : change.operation with
  | insert =>
    rw [hop] at hsource heffect
    subst hsource
    refine heffect.mirrors hrows fun stored hsupplied => ?_
    exact holdsRow_insert hp hschema htable hvalid hmarked hop hsupplied
  | update =>
    rw [hop] at hsource heffect
    obtain ⟨before, row, after, hsplit, hshows, rfl⟩ := hsource
    rw [hsplit] at hrows
    refine heffect.mirrors hrows (fun stored hstored => ?_)
      fun stored stored' hstored hsupplied hkept => ?_
    · exact hstored.keyMatches hp hschema htable hvalid hmarked hlanding (by simp [hop]) hshows
    · exact holdsRow_update hp hschema htable hvalid hmarked hop hwritten hshows hstored hsupplied
        hkept
  | delete =>
    rw [hop] at hsource heffect
    obtain ⟨before, row, after, hsplit, hshows, rfl⟩ := hsource
    rw [hsplit] at hrows
    refine heffect.mirrors hrows fun stored hstored => ?_
    exact hstored.keyMatches hp hschema htable hvalid hmarked hlanding (by simp [hop]) hshows

end Table

/-! ## The selected tables -/

section Content

variable {ν : Type} [BEq ν]

/-- The selected tables of the target mirror those of the source. -/
def Mirrors (landing : Landing ν) (mappings : List TableMapping) (source : SourceContent)
    (target : Content ν) : Prop :=
  ∀ schema table m, mappingOf mappings schema table = some m →
    ∃ stored, target (schema, table) = some stored ∧
      MirrorsTable landing m (source (schema, table)) stored

variable {landing : Landing ν} {mappings : List TableMapping} {change projected : RowChange}
  {source source' : SourceContent} {target target' : Content ν}

/-- A change to a table that is not selected is seen by no mapping. -/
theorem Mirrors.unselected (hproject : projectChange mappings change = none)
    (hsource : SourceEffect change source source') (h : Mirrors landing mappings source target) :
    Mirrors landing mappings source' target := by
  intro schema table m hm
  obtain ⟨rows', rfl, -⟩ := hsource
  have hother : (schema, table) ≠ (change.schema, change.table) := by
    rintro ⟨⟩
    simp [projectChange, hm] at hproject
  rw [Function.update_of_ne hother]
  exact h schema table m hm

theorem Mirrors.selected (hlanding : ReadsBack landing) (hvalid : ValidImages change)
    (hproject : projectChange mappings change = some projected)
    (hsource : SourceEffect change source source')
    (htarget : RowEffect landing projected target target')
    (h : Mirrors landing mappings source target) : Mirrors landing mappings source' target' := by
  intro schema table m hm
  obtain ⟨m', hm', hp⟩ := projectChange_spec hproject
  obtain ⟨rows', rfl, hmarked, hrows⟩ := hsource
  obtain ⟨stored, stored', hstored, rfl, hkept, heffect⟩ := htarget
  rw [hp.schema, hp.table] at hstored ⊢
  by_cases hsame : (schema, table) = (change.schema, change.table)
  · obtain ⟨rfl, rfl⟩ := Prod.mk.inj hsame
    obtain rfl : m' = m := Option.some.inj (hm'.symm.trans hm)
    obtain ⟨-, hschema, htable⟩ := mappingOf_spec hm
    obtain ⟨before, hbefore, hmirrors⟩ := h _ _ m' hm
    obtain rfl : before = stored := Option.some.inj (hbefore.symm.trans hstored)
    rw [Function.update_self, Function.update_self]
    exact ⟨stored', rfl, hmirrors.changed hp hschema htable hvalid hmarked hlanding rfl hrows hkept
      heffect⟩
  · rw [Function.update_of_ne hsame, Function.update_of_ne hsame]
    exact h schema table m hm

/-- The changes of a transaction, of which the target sees those that are selected. -/
theorem Mirrors.changes (hlanding : ReadsBack landing) {changes : List RowChange}
    (hvalid : ∀ change ∈ changes, ValidImages change)
    (hsource : SourceEffects changes source source')
    (htarget : RowEffects landing (changes.filterMap (projectChange mappings)) target target')
    (h : Mirrors landing mappings source target) : Mirrors landing mappings source' target' := by
  induction changes generalizing source target with
  | nil =>
    cases hsource
    cases htarget
    exact h
  | cons change changes ih =>
    obtain ⟨hfirst, hvalid⟩ := List.forall_mem_cons.mp hvalid
    obtain ⟨between, hstep, hsource⟩ := hsource
    cases hproject : projectChange mappings change with
    | none =>
      rw [List.filterMap_cons_none hproject] at htarget
      exact ih hvalid hsource htarget (h.unselected hproject hstep)
    | some projected =>
      rw [List.filterMap_cons_some hproject] at htarget
      obtain ⟨middle, heffect, htarget⟩ := htarget
      exact ih hvalid hsource htarget (h.selected hlanding hfirst hproject hstep heffect)

end Content

/-! ## Runs -/

section Runs

variable {ν σ γ : Type} [BEq ν] {r : Route (Content ν) σ} {landing : Landing ν}
  {mappings : List TableMapping} {transactions : List ChangeTransaction}
  {state : ℕ → SourceContent} {target target' : Content ν}

/-- What the sink adapter does with a transaction are exactly the effects of its changes. -/
def Lands (r : Route (Content ν) σ) (landing : Landing ν) : Prop :=
  ∀ t target target', r.effect target t = .ok target' →
    RowEffects landing t.changes target target'

/-- The changes that the source reports were validated. -/
def Reported (transactions : List ChangeTransaction) : Prop :=
  ∀ t ∈ transactions, ∀ change ∈ t.changes, ValidImages change

theorem reported_of_checked {library : ValidationLibrary}
    (h : ∀ t ∈ transactions, t.changes = [] ∨ checkTransaction library t = .ok ()) :
    Reported transactions := by
  intro t ht change hchange
  rcases h t ht with hnil | hcheck
  · rw [hnil] at hchange
    cases hchange
  · unfold checkTransaction at hcheck
    simp only [bind_eq_ok, ChangeEvent.ensure_eq_ok, validateChanges_iff] at hcheck
    obtain ⟨_, -, _, -, _, -, _, -, _, -, hchanges⟩ := hcheck
    exact validateChange_spec (hchanges change hchange)

/-- Replaying the transactions with selected rows follows all transactions of the source. -/
theorem Mirrors.replay (hlands : Lands r landing) (hlanding : ReadsBack landing)
    (hreported : Reported transactions) (hsource : SourceRun transactions state)
    (hreplay : Watermark.replay r.effect target
      ((transactions.map (project mappings)).filter rowBearing) = .ok target')
    (h : Mirrors landing mappings (state 0) target) :
    Mirrors landing mappings (state transactions.length) target' := by
  induction transactions generalizing state target with
  | nil =>
    cases hreplay
    exact h
  | cons t transactions ih =>
    obtain ⟨hfirst, hreported⟩ := List.forall_mem_cons.mp hreported
    have hstep : SourceEffects t.changes (state 0) (state 1) := hsource 0 (by simp)
    have hrest : SourceRun transactions fun i => state (i + 1) := fun i hi =>
      hsource (i + 1) (by simpa using hi)
    rw [List.map_cons] at hreplay
    by_cases hrows : rowBearing (project mappings t) = true
    · rw [List.filter_cons_of_pos hrows, Watermark.replay, List.foldlM_cons, bind_eq_ok] at hreplay
      obtain ⟨between, heffect, hreplay⟩ := hreplay
      exact ih hreported hrest hreplay (h.changes hlanding hfirst hstep (hlands _ _ _ heffect))
    · rw [List.filter_cons_of_neg hrows] at hreplay
      have hnil : t.changes.filterMap (projectChange mappings) = [] := by
        simpa [rowBearing, project] using hrows
      refine ih hreported hrest hreplay (h.changes hlanding hfirst hstep ?_)
      rw [hnil]
      rfl

variable {denote : String → Option (Set γ)} {g : ChangeTransaction → γ}
  {cp₀ cp : ReplicationCheckpoint} {k : Option ChangeTransaction} {s : System (Content ν)}

/-- Before a transaction that the stored position has passed, it has passed all. -/
theorem Stored.upTo_before {β : Type} {r : Route β σ} {history : List ChangeTransaction}
    {business : β} {db : MysqlSink.SinkDb β} (hist : SourceHistory denote g r.gtids cp₀ history)
    (hs : Stored r denote g cp₀ history business db cp k) :
    history.Pairwise fun t u => upTo cp u = true → upTo cp t = true := by
  refine hist.increasing.imp_of_mem fun {t u} ht hu hbefore hpassed => ?_
  rw [hist.upTo_iff hs.mode hs.mem hs.stands hu] at hpassed
  rw [hist.upTo_iff hs.mode hs.mem hs.stands ht]
  obtain ⟨v, hv, hpassed⟩ := hpassed
  refine ⟨v, hv, .inr ?_⟩
  rcases hpassed with rfl | hpassed
  · exact hbefore
  · exact hist.trans ht hu (hs.mem v hv) hbefore hpassed

theorem upTo_project (t : ChangeTransaction) : upTo cp (project mappings t) = upTo cp t := rfl

/-- The stored position has passed the first transactions of the source, and the target mirrors
the source as they left it. -/
def MirrorsAt (landing : Landing ν) (mappings : List TableMapping)
    (transactions : List ChangeTransaction) (state : ℕ → SourceContent)
    (cp : ReplicationCheckpoint) (target : Content ν) : Prop :=
  ∃ n ≤ transactions.length,
    (∀ i (h : i < transactions.length), upTo cp transactions[i] = true ↔ i < n) ∧
      Mirrors landing mappings (state n) target

theorem Inv.mirrors
    (hist : SourceHistory denote g r.gtids cp₀ (transactions.map (project mappings)))
    (hinv : Inv r denote g cp₀ (transactions.map (project mappings)) target s cp k)
    (hlands : Lands r landing) (hlanding : ReadsBack landing) (hreported : Reported transactions)
    (hsource : SourceRun transactions state) (h : Mirrors landing mappings (state 0) target) :
    MirrorsAt landing mappings transactions state cp s.db.business := by
  obtain ⟨n, hn, hiff, htake⟩ := Watermark.exists_take (hinv.stored.upTo_before hist)
  rw [List.length_map] at hn
  refine ⟨n, hn, fun i hi => ?_, ?_⟩
  · have hpassed := hiff i (by simpa using hi)
    rwa [List.getElem_map, upTo_project] at hpassed
  · have hrows := hinv.stored.rows
    rw [← List.filter_filter, htake, ← List.map_take] at hrows
    have hsteps : SourceRun (transactions.take n) state := by
      intro i hi
      rw [List.getElem_take]
      exact hsource i (by simp at hi; omega)
    have hprefix := Mirrors.replay hlands hlanding
      (fun t ht => hreported t (List.mem_of_mem_take ht)) hsteps hrows h
    rwa [List.length_take_of_le hn] at hprefix

/-- A worker that has consumed its stream leaves nothing behind. -/
theorem Inv.caught_up
    (hist : SourceHistory denote g r.gtids cp₀ (transactions.map (project mappings)))
    (hinv : Inv r denote g cp₀ (transactions.map (project mappings)) target s cp k)
    (hlands : Lands r landing) (hlanding : ReadsBack landing) (hreported : Reported transactions)
    (hsource : SourceRun transactions state) (h : Mirrors landing mappings (state 0) target)
    {w : CheckpointWriter} {last : Option ChangeTransaction}
    (hphase : s.phase = .streaming w [] last) :
    Mirrors landing mappings (state transactions.length) s.db.business := by
  have hcomplete := hinv.phase
  rw [hphase] at hcomplete
  have hrows := hinv.stored.rows
  have hall : (transactions.map (project mappings)).filter (fun t => rowBearing t && upTo cp t) =
      (transactions.map (project mappings)).filter rowBearing := by
    refine List.filter_congr fun t ht => ?_
    by_cases hbearing : rowBearing t = true
    · have hpassed := (hcomplete.complete t ht hbearing).resolve_left nofun
      rw [(hist.upTo_iff hinv.stored.mode hinv.stored.mem hinv.stored.stands ht).mpr hpassed,
        Bool.and_true]
    · simp [hbearing]
  rw [hall] at hrows
  exact h.replay hlands hlanding hreported hsource hrows

/-- A route whose adapter gives every transaction exactly the effects of its changes keeps the
target a mirror of the source. -/
theorem Route.mirrors {db : MysqlSink.SinkDb (Content ν)}
    (hist : SourceHistory denote g r.gtids cp₀ (transactions.map (project mappings)))
    (hlands : Lands r landing) (hlanding : ReadsBack landing) (hreported : Reported transactions)
    (hsource : SourceRun transactions state) (h₀ : db.Holds r.taskId cp₀)
    (h : Mirrors landing mappings (state 0) db.business)
    (hrun : Transition.Run (Step r (transactions.map (project mappings))) ⟨db, .down⟩ s) :
    (∃ cp, s.db.Holds r.taskId cp ∧
      MirrorsAt landing mappings transactions state cp s.db.business) ∧
    ∀ w last, s.phase = .streaming w [] last →
      Mirrors landing mappings (state transactions.length) s.db.business := by
  have hinit : Inv r denote g cp₀ (transactions.map (project mappings)) db.business ⟨db, .down⟩
      cp₀ none := Inv.init hist h₀
  obtain ⟨cp, k, hinv, -⟩ := hinit.run hist hrun
  refine ⟨⟨cp, hinv.stored.holds, ?_⟩, fun w last hphase => ?_⟩
  · exact hinv.mirrors hist hlands hlanding hreported hsource h
  · exact hinv.caught_up hist hlands hlanding hreported hsource h hphase

end Runs

/-! ## The adapters -/

/-- The check of the saved plans before `Sink::apply` renders a transaction. -/
def checkStoredPlans (computedDigest : ColumnConversionPlan → String)
    (plans : List ColumnConversionPlan) : Except IoError Unit :=
  if plans.isEmpty || plans.any fun plan => !plan.verifyDigest computedDigest then
    .error ⟨.other, .targetCapabilityFailure
      "stored ColumnConversionPlan is missing or has an invalid digest"⟩
  else .ok ()

/-- A task's route into a MySQL server. -/
structure MysqlAdapter (ν : Type) [BEq ν] where
  taskId : String
  sourceUuid : String
  binding : String
  gtids : GtidServer
  server : MysqlSink.Server ν
  library : MysqlSink.ValueLibrary
  rules : PlanRules
  targetVersion : String
  plans : List ColumnConversionPlan
  computedDigest : ColumnConversionPlan → String

/-- A task's route into a PostgreSQL server. -/
structure PostgresqlAdapter (ν : Type) [BEq ν] where
  taskId : String
  sourceUuid : String
  binding : String
  server : PostgresqlSink.Server ν
  library : PostgresqlSink.ValueLibrary
  rules : PlanRules
  targetVersion : String
  plans : List ColumnConversionPlan
  computedDigest : ColumnConversionPlan → String

section Adapters

variable {ν : Type} [BEq ν]

namespace MysqlAdapter

variable (a : MysqlAdapter ν)

/-- `Sink::apply` up to the writer: the transaction is validated and rendered under the plans. -/
def sqlWithPlans (t : ChangeTransaction) :
    Except IoError (List (String × String) × List MysqlSink.PlannedStatement) := do
  checkStoredPlans a.computedDigest a.plans
  let validated ← (validate a.library.toValidationLibrary t).mapError .other
  let plan ← (MysqlSink.sqlWithPlans a.library a.rules a.targetVersion a.plans a.computedDigest
    validated).mapError MysqlSink.SinkError.toIo
  return (plan.tables, plan.statements)

def route : Route (Content ν) MysqlSink.PlannedStatement :=
  ⟨a.taskId, a.sourceUuid, a.binding, a.gtids, a.sqlWithPlans, fun plan content =>
    (MysqlSink.executeStatements a.server content plan).mapError MysqlSink.SinkError.toIo⟩

/-- How the data of the source land in the target. -/
def landing (meaning : Option ColumnConversionPlan → ColumnDatum → ν) : Landing ν :=
  (MysqlSink.convertedLanding a.server.asBinary a.plans meaning).afterConversion a.rules a.plans

end MysqlAdapter

namespace PostgresqlAdapter

variable (a : PostgresqlAdapter ν)

/-- `Sink::apply` up to the writer: the transaction is validated and rendered under the plans. -/
def sqlWithPlans (t : ChangeTransaction) :
    Except IoError (List (String × String) × List PostgresqlSink.PlannedStatement) := do
  checkStoredPlans a.computedDigest a.plans
  let validated ← (validate a.library.toValidationLibrary t).mapError .other
  let plan ← (PostgresqlSink.sqlWithPlans a.library a.rules a.plans a.computedDigest
    a.targetVersion validated).mapError MysqlSink.SinkError.toIo
  return (plan.tables, plan.statements)

def route : PostgresqlRoute (Content ν) PostgresqlSink.PlannedStatement :=
  ⟨a.taskId, a.sourceUuid, a.binding, a.sqlWithPlans, fun plan content =>
    (PostgresqlSink.executeStatements a.server content ⟨plan.sourceUuid, plan.sourceTransactionId,
      plan.commitCursor, a.targetVersion, plan.tables, plan.statements⟩).mapError
        MysqlSink.SinkError.toIo⟩

/-- How the data of the source land in the target. -/
def landing (meaning : Option ColumnConversionPlan → ColumnDatum → ν) : Landing ν :=
  (PostgresqlSink.convertedLanding a.plans meaning).afterConversion a.rules a.plans

end PostgresqlAdapter

variable {meaning : Option ColumnConversionPlan → ColumnDatum → ν}

theorem comparesEqual_self [ReflBEq ν] {x : Option ν} (h : x ≠ none) :
    comparesEqual x x = true := by
  obtain ⟨v, rfl⟩ := Option.ne_none_iff_exists'.mp h
  exact BEq.rfl

omit [BEq ν] in
theorem columnValue_ne_none (plans : List ColumnConversionPlan) (schema table : String)
    {column : ColumnDatum} (h : column.datum ≠ .null) :
    columnValue plans meaning schema table column ≠ none := by
  unfold columnValue datumValue
  split
  · contradiction
  · exact nofun

theorem MysqlAdapter.readsBack [ReflBEq ν] (a : MysqlAdapter ν) :
    ReadsBack (a.landing meaning) := by
  intro schema table column
  unfold landing Landing.afterConversion MysqlSink.convertedLanding
  dsimp only
  generalize landedColumn a.rules a.plans schema table column = landed
  split
  next hnull => simp [columnValue, datumValue, hnull]
  next hnull =>
    have hvalue : columnValue a.plans meaning schema table landed ≠ none :=
      columnValue_ne_none _ _ _ hnull
    split
    · exact comparesEqual_self (by simpa using hvalue)
    · exact comparesEqual_self hvalue

theorem PostgresqlAdapter.readsBack [ReflBEq ν] (a : PostgresqlAdapter ν) :
    ReadsBack (a.landing meaning) := by
  intro schema table column
  unfold landing Landing.afterConversion PostgresqlSink.convertedLanding
  dsimp only
  generalize landedColumn a.rules a.plans schema table column = landed
  split
  next hnull => simp [columnValue, datumValue, hnull]
  next hnull => exact comparesEqual_self (columnValue_ne_none _ _ _ hnull)

theorem MysqlAdapter.lands {a : MysqlAdapter ν} (hbind : MysqlSink.BindsDatums a.server a.library
    a.rules a.targetVersion a.plans meaning) : Lands a.route (a.landing meaning) := by
  intro t target target' h
  unfold Route.effect Route.plan at h
  simp only [route, sqlWithPlans, bind_eq_ok, mapError_eq_ok, pure_eq, Except.ok.injEq] at h
  obtain ⟨_, ⟨_, ⟨_, -, validated, hvalidated, plan, hplan, rfl⟩, rfl⟩, hrun⟩ := h
  rw [← validate_eq_ok hvalidated]
  exact MysqlSink.executeStatements_effects hbind hplan hrun

theorem PostgresqlAdapter.lands {a : PostgresqlAdapter ν} (hbind : PostgresqlSink.BindsDatums
    a.server a.library a.rules meaning) : Lands a.route.route (a.landing meaning) := by
  intro t target target' h
  unfold Route.effect Route.plan at h
  simp only [route, PostgresqlRoute.route, sqlWithPlans, bind_eq_ok, mapError_eq_ok, pure_eq,
    Except.ok.injEq] at h
  obtain ⟨_, ⟨_, ⟨_, -, validated, hvalidated, plan, hplan, rfl⟩, rfl⟩, hrun⟩ := h
  rw [← validate_eq_ok hvalidated]
  exact PostgresqlSink.executeStatements_effects hbind hplan hrun

end Adapters

/-! ## In every state of every run -/

section Source

variable {ν γ : Type} [BEq ν] [ReflBEq ν]
  {meaning : Option ColumnConversionPlan → ColumnDatum → ν} {mappings : List TableMapping}
  {library : ValidationLibrary} {transactions : List ChangeTransaction}
  {state : ℕ → SourceContent} {cp₀ : ReplicationCheckpoint}

variable (hsource : SourceRun transactions state)
  (hchecked : ∀ t ∈ transactions, t.changes = [] ∨ checkTransaction library t = .ok ())
include hsource hchecked

/-- In every state of every run into a MySQL server, the selected tables of the target mirror the
source as it was at the stored position, and once the stream has been consumed, as it is. -/
theorem mysql_mirrors_source {a : MysqlAdapter ν} {denote : String → Option (Set γ)}
    {g : ChangeTransaction → γ} {db : MysqlSink.SinkDb (Content ν)} {s : System (Content ν)}
    (hbind : MysqlSink.BindsDatums a.server a.library a.rules a.targetVersion a.plans meaning)
    (hist : SourceHistory denote g a.gtids cp₀ (transactions.map (project mappings)))
    (h₀ : db.Holds a.taskId cp₀)
    (hmirrors : Mirrors (a.landing meaning) mappings (state 0) db.business)
    (hrun : Transition.Run (Step a.route (transactions.map (project mappings))) ⟨db, .down⟩ s) :
    (∃ cp, s.db.Holds a.taskId cp ∧
      MirrorsAt (a.landing meaning) mappings transactions state cp s.db.business) ∧
    ∀ w last, s.phase = .streaming w [] last →
      Mirrors (a.landing meaning) mappings (state transactions.length) s.db.business := by
  exact Route.mirrors hist (MysqlAdapter.lands hbind) a.readsBack (reported_of_checked hchecked)
    hsource h₀ hmirrors hrun

/-- In every state of every run into a PostgreSQL server, the selected tables of the target mirror
the source as it was at the stored position, and once the stream has been consumed, as it is. -/
theorem postgresql_mirrors_source {a : PostgresqlAdapter ν}
    {g : ChangeTransaction → PostgresqlSink.Gtid} {db : PostgresqlSink.SinkDb (Content ν)}
    {s : PostgresqlSystem (Content ν)}
    (hbind : PostgresqlSink.BindsDatums a.server a.library a.rules meaning)
    (hist : SourceHistory PostgresqlSink.readSet g PostgresqlSink.ownGtids cp₀
      (transactions.map (project mappings)))
    (hnames : NamesGtids cp₀ (transactions.map (project mappings)))
    (h₀ : PostgresqlSink.load db a.taskId = .ok (some cp₀))
    (hmirrors : Mirrors (a.landing meaning) mappings (state 0) db.business)
    (hrun : Transition.Run (PostgresqlStep a.route (transactions.map (project mappings)))
      ⟨db, .down⟩ s) :
    (∃ cp, PostgresqlSink.load s.db a.taskId = .ok (some cp) ∧
      MirrorsAt (a.landing meaning) mappings transactions state cp s.db.business) ∧
    ∀ w last, s.phase = .streaming w [] last →
      Mirrors (a.landing meaning) mappings (state transactions.length) s.db.business := by
  have hlands := PostgresqlAdapter.lands hbind
  have hlanding : ReadsBack (a.landing meaning) := a.readsBack
  have hreported := reported_of_checked hchecked
  have hinit : Inv a.route.route PostgresqlSink.readSet g cp₀ (transactions.map (project mappings))
      db.business ⟨db.view, .down⟩ cp₀ none := Inv.init hist (PostgresqlSink.load_eq_ok.mp h₀)
  obtain ⟨cp, k, -, hinv, -⟩ := simulated (s := ⟨db, .down⟩) hist hnames hinit hrun
  refine ⟨⟨cp, PostgresqlSink.load_eq_ok.mpr hinv.stored.holds, ?_⟩, fun w last hphase => ?_⟩
  · exact hinv.mirrors hist hlands hlanding hreported hsource hmirrors
  · exact hinv.caught_up hist hlands hlanding hreported hsource hmirrors hphase

end Source

section Sample

/-- The source table `shop.stock` with one row. -/
def stockSource (id : ℕ) : SourceContent := fun name =>
  ⟨fun _ => false,
    if name = ("shop", "stock") then [stockRow id (.value (.integer true 32 "7"))] else []⟩

/-- The second transaction of the sample source with the change to the table. -/
def moved : ChangeTransaction := { MysqlSink.ordered with changes := [stockChange] }

def wholeMapping : TableMapping := { stockMapping with columns := [] }

theorem moved_run : SourceRun [moved] fun i => stockSource (i + 1) := by
  intro i hi
  obtain rfl : i = 0 := by simpa using hi
  refine ⟨stockSource 2, ⟨[stockRow 2 (.value (.integer true 32 "7"))], ?_, ?_, ?_⟩, rfl⟩
  · change stockSource 2 = Function.update (stockSource 1) ("shop", "stock") _
    funext name
    by_cases hname : name = ("shop", "stock")
    · subst hname
      rw [Function.update_self]
      rfl
    · rw [Function.update_of_ne hname]
      simp [stockSource, hname]
  · intro column hcolumn
    have hnone : column.generated = false := by
      simp only [stockChange, RowChange.columns, stockRow, Option.getD_some, List.mem_append,
        List.mem_cons, List.not_mem_nil, or_false] at hcolumn
      rcases hcolumn with (rfl | rfl) | (rfl | rfl) <;> rfl
    exact hnone
  · exact ⟨[], stockRow 1 (.value (.integer true 32 "7")), [], rfl, ⟨rfl, fun _ h _ => h⟩, rfl⟩

theorem moved_checked : ∀ t ∈ [moved], t.changes = [] ∨
    checkTransaction Mysql.sampleLibrary.toValidationLibrary t = .ok () := by
  intro t ht
  obtain rfl := List.mem_singleton.mp ht
  exact .inr (by decide +kernel)

def mysqlAdapter : MysqlAdapter MysqlSink.Value :=
  ⟨"orders", "3e11fa47-71ca-11e1-9e33-c80aa9429562", MysqlSink.sampleBinding, MysqlSink.listedGtids,
    Mysql.sampleServer, Mysql.sampleLibrary, exactRules, "8.0", Mysql.samplePlans,
    ColumnConversionPlan.planDigest⟩

/-- A target with the row of the source. -/
def mysqlStock : MysqlSink.SinkDb (Content MysqlSink.Value) :=
  ⟨(MysqlSink.sampleDb MysqlSink.sampleRow).logInfo, stockContent (.int 1) (.int 7)⟩

theorem moved_history : SourceHistory MysqlSink.listedSet (fun t => t.id.toList)
    mysqlAdapter.gtids MysqlSink.sampleRow ([moved].map (project [wholeMapping])) where
  increasing := List.pairwise_singleton _ _
  after_start := by
    rintro t (_ | ⟨_, ⟨⟩⟩)
    exact ⟨_, ordered_position, by decide⟩
  distinct := List.pairwise_singleton _ _
  fresh := by simp [MysqlSink.sampleRow]
  lawful _ := MysqlSink.listedGtids_lawful
  single hmode := by
    rintro t (_ | ⟨_, ⟨⟩⟩)
    exact sample_history.single hmode MysqlSink.ordered (by simp)
  distinct_gtids _ := List.pairwise_singleton _ _
  start_gtids hmode := by
    obtain ⟨A, hA, hfresh⟩ := sample_history.start_gtids hmode
    refine ⟨A, hA, ?_⟩
    rintro t (_ | ⟨_, ⟨⟩⟩)
    exact hfresh MysqlSink.ordered (by simp)

theorem mysql_stock_mirrors : Mirrors (mysqlAdapter.landing Mysql.boundAs) [wholeMapping]
    (stockSource 1) mysqlStock.business := by
  intro schema table m hm
  obtain ⟨hmem, rfl, rfl⟩ := mappingOf_spec hm
  obtain rfl := List.mem_singleton.mp hmem
  refine ⟨_, rfl, ⟨fun _ _ _ => rfl, .cons ?_ .nil⟩⟩
  rintro column (_ | ⟨_, _ | ⟨_, ⟨⟩⟩⟩) - -
  · decide +kernel
  · decide +kernel

theorem mysql_stock_run : ∃ s, Transition.Run (Step mysqlAdapter.route
    ([moved].map (project [wholeMapping]))) ⟨mysqlStock, .down⟩ s ∧
      ∃ w, s.phase = .streaming w [] none := by
  have hopen : MysqlSink.openWriter
      ⟨some "8f0b2a10-52c6-11ee-8c99-0242ac120002", some 1, some 1⟩ mysqlStock
      mysqlAdapter.route.taskId mysqlAdapter.route.sourceUuid mysqlAdapter.route.binding =
        .ok (MysqlSink.sampleWriter MysqlSink.sampleRow, mysqlStock) := rfl
  have hresumes : Resumes mysqlAdapter.route ([moved].map (project [wholeMapping]))
      MysqlSink.sampleRow [moved] := ⟨List.Sublist.refl _, fun t ht => Or.inl ht⟩
  obtain ⟨outcome, happly⟩ := exists_of_isOk (x := mysqlAdapter.route.apply mysqlStock
    (MysqlSink.sampleWriter MysqlSink.sampleRow) moved) (by decide +kernel)
  have hrun := (Transition.Run.refl.tail (.start hopen rfl hresumes)).tail
    (Step.deliver (r := mysqlAdapter.route) (t := moved) rfl)
  cases outcome with
  | covered result => exact ⟨_, hrun.tail (.covered happly), _, rfl⟩
  | ready result business => exact ⟨_, hrun.tail (.commit happly), _, rfl⟩

theorem mysql_mirrors_source_sample : ∃ s : System (Content MysqlSink.Value),
    (∃ cp, s.db.Holds mysqlAdapter.taskId cp ∧ MirrorsAt (mysqlAdapter.landing Mysql.boundAs)
      [wholeMapping] [moved] (fun i => stockSource (i + 1)) cp s.db.business) ∧
    Mirrors (mysqlAdapter.landing Mysql.boundAs) [wholeMapping] (stockSource 2) s.db.business := by
  obtain ⟨s, hrun, w, hphase⟩ := mysql_stock_run
  have hholds : mysqlStock.Holds mysqlAdapter.taskId MysqlSink.sampleRow := rfl
  obtain ⟨hstored, hcaught⟩ := mysql_mirrors_source moved_run moved_checked
    Mysql.sampleServer_bindsDatums moved_history hholds mysql_stock_mirrors hrun
  exact ⟨s, hstored, hcaught w none hphase⟩

def postgresqlAdapter : PostgresqlAdapter PostgresqlSink.Parameter :=
  ⟨"orders", "3e11fa47-71ca-11e1-9e33-c80aa9429562", MysqlSink.sampleBinding,
    Postgresql.sampleServer, Postgresql.sampleLibrary, exactRules, "15", Postgresql.samplePlans,
    ColumnConversionPlan.planDigest⟩

/-- A target with the row of the source. -/
def postgresqlStock : PostgresqlSink.SinkDb (Content PostgresqlSink.Parameter) :=
  ⟨samplePostgresqlDb.logInfo, samplePostgresqlDb.sinkIdentity,
    stockContent (.integer 1) (.integer 7)⟩

theorem moved_postgresql_history : SourceHistory PostgresqlSink.readSet sampleGtid
    PostgresqlSink.ownGtids MysqlSink.sampleRow ([moved].map (project [wholeMapping])) where
  increasing := List.pairwise_singleton _ _
  after_start := moved_history.after_start
  distinct := List.pairwise_singleton _ _
  fresh := moved_history.fresh
  lawful _ := PostgresqlSink.ownGtids_lawful
  single hmode := by
    rintro t (_ | ⟨_, ⟨⟩⟩)
    exact postgresql_history.single hmode MysqlSink.ordered (by simp)
  distinct_gtids _ := List.pairwise_singleton _ _
  start_gtids _ := ⟨∅, PostgresqlSink.ownGtids_lawful.empty, fun _ _ h => h⟩

theorem moved_names : NamesGtids MysqlSink.sampleRow ([moved].map (project [wholeMapping])) := by
  rintro hmode t (_ | ⟨_, ⟨⟩⟩)
  exact postgresql_names hmode MysqlSink.ordered (by simp)

theorem postgresql_stock_mirrors : Mirrors (postgresqlAdapter.landing Postgresql.boundAs)
    [wholeMapping] (stockSource 1) postgresqlStock.business := by
  intro schema table m hm
  obtain ⟨hmem, rfl, rfl⟩ := mappingOf_spec hm
  obtain rfl := List.mem_singleton.mp hmem
  refine ⟨_, rfl, ⟨fun _ _ _ => rfl, .cons ?_ .nil⟩⟩
  rintro column (_ | ⟨_, _ | ⟨_, ⟨⟩⟩⟩) - -
  · decide +kernel
  · decide +kernel

theorem postgresql_stock_run : ∃ s, Transition.Run (PostgresqlStep postgresqlAdapter.route
    ([moved].map (project [wholeMapping]))) ⟨postgresqlStock, .down⟩ s ∧
      ∃ w, s.phase = .streaming w [] none := by
  have hopen : PostgresqlSink.openWriter "" true postgresqlStock postgresqlAdapter.route.taskId
      postgresqlAdapter.route.sourceUuid postgresqlAdapter.route.binding =
        (.ok (MysqlSink.sampleWriter MysqlSink.sampleRow), postgresqlStock) := by
    have hattach : PostgresqlSink.attachWriter true "8f0b2a10-52c6-11ee-8c99-0242ac120002"
        postgresqlStock postgresqlAdapter.route.taskId postgresqlAdapter.route.sourceUuid
        postgresqlAdapter.route.binding = .ok (MysqlSink.sampleWriter MysqlSink.sampleRow) := by
      decide +kernel
    have hvalid : PostgresqlSink.validateIdentity postgresqlAdapter.route.taskId
        postgresqlAdapter.route.sourceUuid postgresqlAdapter.route.binding = .ok () := by
      decide +kernel
    unfold PostgresqlSink.openWriter
    rw [hvalid]
    exact congrArg (·, postgresqlStock) hattach
  have hresumes : Resumes postgresqlAdapter.route.route ([moved].map (project [wholeMapping]))
      MysqlSink.sampleRow [moved] := ⟨List.Sublist.refl _, fun t ht => Or.inl ht⟩
  obtain ⟨outcome, happly⟩ := exists_of_isOk (x := postgresqlAdapter.route.apply postgresqlStock
    (MysqlSink.sampleWriter MysqlSink.sampleRow) moved) (by decide +kernel)
  have hrun := (Transition.Run.refl.tail (.start hopen rfl hresumes)).tail
    (PostgresqlStep.deliver (r := postgresqlAdapter.route) (t := moved) rfl)
  cases outcome with
  | covered result => exact ⟨_, hrun.tail (.covered happly), _, rfl⟩
  | ready result row business => exact ⟨_, hrun.tail (.commit happly), _, rfl⟩

theorem postgresql_mirrors_source_sample :
    ∃ s : PostgresqlSystem (Content PostgresqlSink.Parameter),
      (∃ cp, PostgresqlSink.load s.db postgresqlAdapter.taskId = .ok (some cp) ∧
        MirrorsAt (postgresqlAdapter.landing Postgresql.boundAs) [wholeMapping] [moved]
          (fun i => stockSource (i + 1)) cp s.db.business) ∧
      Mirrors (postgresqlAdapter.landing Postgresql.boundAs) [wholeMapping] (stockSource 2)
        s.db.business := by
  obtain ⟨s, hrun, w, hphase⟩ := postgresql_stock_run
  have hload : PostgresqlSink.load postgresqlStock postgresqlAdapter.taskId =
      .ok (some MysqlSink.sampleRow) := by decide +kernel
  obtain ⟨hstored, hcaught⟩ := postgresql_mirrors_source moved_run moved_checked
    Postgresql.sampleServer_bindsDatums moved_postgresql_history moved_names hload
    postgresql_stock_mirrors hrun
  exact ⟨s, hstored, hcaught w none hphase⟩

end Sample

end DatabaseSync.Worker
