import DatabaseSync.Worker.Replica
import DatabaseSync.Worker.SnapshotCopy

/-! # From an empty target to a mirror

A task that starts without a checkpoint copies a snapshot of the selected tables before it follows
the source. The copy makes the target the mirror of the source at the boundary of the snapshot,
which is where the changes that follow begin.
-/

namespace DatabaseSync.Worker

open ChangeEvent Checked Control Relational
open MysqlSink (CheckpointWriter GtidServer ReplicationCheckpoint copyBatches copySnapshot
  snapshotTarget snapshotTargets)

/-- The table that the snapshot reads for a mapping. -/
def scopeOf (m : TableMapping) : SnapshotTable := ⟨m.sourceSchema, m.sourceTable, m.columns⟩

/-- The rows that are inserted into a table. -/
def rowsFor (name : String × String) (inserts : List (String × String × List ColumnDatum)) :
    List (List ColumnDatum) :=
  inserts.filterMap fun (schema, table, row) => if (schema, table) = name then some row else none

theorem rowsFor_cons (name : String × String) (schema table : String) (row : List ColumnDatum)
    (inserts : List (String × String × List ColumnDatum)) :
    rowsFor name ((schema, table, row) :: inserts) =
      if (schema, table) = name then row :: rowsFor name inserts else rowsFor name inserts := by
  by_cases h : (schema, table) = name
  · simp [rowsFor, h]
  · simp [rowsFor, h]

/-- The batches of a snapshot show the selected columns of the tables of a source. -/
structure SnapshotOf (mappings : List TableMapping) (batches : List SnapshotBatch)
    (source : SourceContent) : Prop where
  rows : ∀ schema table m, mappingOf mappings schema table = some m →
    rowsFor (schema, table) (batches.flatMap batchInserts) =
      (source (schema, table)).rows.map (projectRow m)
  marked : ∀ name, ∀ row ∈ (source name).rows, ∀ column ∈ row,
    column.generated = (source name).generated column.name

/-! ## What a copy leaves in a table -/

section Copied

variable {ν : Type} [BEq ν] {library : MysqlSink.ValueLibrary} {targetVersion : String}
  {server : MysqlSink.Server ν} {content content' : Content ν}

/-- The columns of a row that are written were stored as the server makes them. -/
def StoredAs (library : MysqlSink.ValueLibrary) (targetVersion : String)
    (server : MysqlSink.Server ν) (row : List ColumnDatum) (stored : Row String ν) : Prop :=
  ∀ column ∈ MysqlSink.writableColumns row, ∃ value,
    LandsAs library targetVersion server column value ∧ stored column.name = value

theorem storedAs_of_zip {columns : List ColumnDatum} {values : List (Option ν)}
    {stored : Row String ν}
    (hvalues : List.Forall₂ (LandsAs library targetVersion server) columns values)
    (hstored : ∀ a ∈ (columns.map (·.name)).zip values, stored a.1 = a.2) :
    ∀ column ∈ columns, ∃ value,
      LandsAs library targetVersion server column value ∧ stored column.name = value := by
  induction hvalues with
  | nil => exact nofun
  | @cons column value columns values hvalue _ ih =>
    rw [List.map_cons, List.zip_cons_cons, List.forall_mem_cons] at hstored
    exact List.forall_mem_cons.mpr ⟨⟨value, hvalue, hstored.1⟩, ih hstored.2⟩

/-- A table gains the rows that are inserted into it, in their order. -/
theorem RowsInserted.adds {inserts : List (String × String × List ColumnDatum)}
    (h : RowsInserted library targetVersion server inserts content content')
    {name : String × String} {target : Table String ν} (htarget : content name = some target) :
    ∃ target' added, content' name = some target' ∧ target'.schema = target.schema ∧
      target'.rows = target.rows ++ added ∧
      List.Forall₂ (StoredAs library targetVersion server) (rowsFor name inserts) added := by
  induction inserts generalizing content target with
  | nil =>
    cases h
    exact ⟨target, [], htarget, rfl, (List.append_nil _).symm, .nil⟩
  | cons insert inserts ih =>
    obtain ⟨schema, table, row⟩ := insert
    obtain ⟨between, ⟨before, after, values, hbefore, rfl, hschema, hvalues, hinserts⟩, hrest⟩ := h
    by_cases hname : (schema, table) = name
    · subst hname
      obtain rfl : before = target := Option.some.inj (hbefore.symm.trans htarget)
      obtain ⟨stored, hrows, hsupplied, -⟩ := hinserts
      obtain ⟨target', added, htarget', hschema', hadded, hall⟩ :=
        ih hrest (Function.update_self _ _ _)
      refine ⟨target', stored :: added, htarget', hschema'.trans hschema, ?_, ?_⟩
      · rw [hadded, hrows, List.append_assoc, List.singleton_append]
      · rw [rowsFor_cons, if_pos rfl]
        exact .cons (storedAs_of_zip hvalues hsupplied) hall
    · obtain ⟨target', added, htarget', hschema', hadded, hall⟩ :=
        ih hrest ((Function.update_of_ne (Ne.symm hname) _ _).trans htarget)
      refine ⟨target', added, htarget', hschema', hadded, ?_⟩
      rw [rowsFor_cons, if_neg hname]
      exact hall

variable {foreignKeys : String × String → ℕ}
  {progress : SnapshotBatch → ℕ → Except IoError Unit} {tables : List SnapshotTable}
  {batches : List SnapshotBatch}

theorem copyBatches_valid {sourceUuid : String} {i n i' n' : ℕ}
    (h : copyBatches library targetVersion server progress sourceUuid tables content i n
      (batches.map .ok) = .ok (content', i', n')) :
    ∀ batch ∈ batches, validateSnapshot library.toValidationLibrary batch = .ok () := by
  induction batches generalizing content i n with
  | nil => exact nofun
  | cons batch batches ih =>
    rw [List.map_cons, copyBatches, ok_bind] at h
    split at h
    · cases h
    · simp only [throw_eq, error_bind, guard_eq_ok, bind_eq_ok, mapError_eq_ok] at h
      obtain ⟨-, _, hvalid, -, -, between, -, -, -, -, hrest⟩ := h
      exact List.forall_mem_cons.mpr ⟨hvalid, ih hrest⟩

theorem snapshotTargets_empty (h : snapshotTargets server foreignKeys content tables = .ok ()) :
    ∀ scope ∈ tables, ∃ target,
      content (scope.schema, scope.table) = some target ∧ target.rows = [] := by
  intro scope hscope
  simp only [snapshotTargets, throw_eq, error_bind, guard_eq_ok, forM_eq_ok] at h
  have htarget := h.2 scope hscope
  simp only [snapshotTarget, throw_eq, error_bind, guard_eq_ok] at htarget
  obtain ⟨-, htarget⟩ := htarget
  split at htarget
  · cases htarget
  next target hcontent =>
    rw [guard_eq_ok, Bool.not_eq_true', Bool.not_eq_false, List.isEmpty_iff] at htarget
    exact ⟨target, hcontent, htarget.1⟩

/-- A snapshot row has complete data. -/
theorem validateSnapshot_complete {library : ValidationLibrary} {batch : SnapshotBatch}
    (h : validateSnapshot library batch = .ok ()) {row : List ColumnDatum} (hrow : row ∈ batch.rows)
    {column : ColumnDatum} (hcolumn : column ∈ row) :
    column.datum ≠ .unavailable ∧ column.datum ≠ .unchanged := by
  simp only [validateSnapshot, ChangeEvent.ensure_eq_ok, bind_eq_ok, forM_eq_ok] at h
  obtain ⟨_, -, _, -, _, -, hrows⟩ := h
  have hvalid := hrows row hrow
  simp only [validateSnapshotRow, ChangeEvent.ensure_eq_ok, bind_eq_ok, List.all_eq_true] at hvalid
  obtain ⟨_, -, _, hcomplete, -⟩ := hvalid
  have hdatum := hcomplete column hcolumn
  constructor
  · intro hunavailable
    simp [hunavailable] at hdatum
  · intro hunchanged
    simp [hunchanged] at hdatum

theorem mem_rowsFor {name : String × String} {row : List ColumnDatum}
    (h : row ∈ rowsFor name (batches.flatMap batchInserts)) :
    ∃ batch ∈ batches, row ∈ batch.rows := by
  obtain ⟨⟨schema, table, row'⟩, hmem, hsome⟩ := List.mem_filterMap.mp h
  obtain ⟨batch, hbatch, hinsert⟩ := List.mem_flatMap.mp hmem
  obtain ⟨original, horiginal, hsame⟩ := List.mem_map.mp hinsert
  cases hsame
  dsimp only at hsome
  split at hsome
  · cases hsome
    exact ⟨batch, hbatch, horiginal⟩
  · cases hsome

end Copied

/-! ## The snapshot and the changes after it -/

section Bootstrap

variable {ν γ : Type} [BEq ν] {a : MysqlAdapter ν} {landing : Landing ν}
  {mappings : List TableMapping} {batches : List SnapshotBatch} {source : SourceContent}
  {foreignKeys : String × String → ℕ} {progress : SnapshotBatch → ℕ → Except IoError Unit}
  {db : MysqlSink.SinkDb (Content ν)} {w : CheckpointWriter} {cp₀ : ReplicationCheckpoint}
  {content : Content ν}

/-- What a copy makes of a datum is what a change with this datum stores: the copy writes its values
without the plans that a change goes through. -/
def CopiesAsApplied (a : MysqlAdapter ν) (landing : Landing ν) (mappings : List TableMapping)
    (source : SourceContent) : Prop :=
  ∀ schema table m, mappingOf mappings schema table = some m →
    ∀ row ∈ (source (schema, table)).rows, ∀ column ∈ row, m.selects column.name = true →
      ∀ value, LandsAs a.library a.targetVersion a.server column value →
        value = landing.value schema table column

/-- The target computes no selected column that the source does not compute. -/
def WritesSelected (mappings : List TableMapping) (source : SourceContent) (target : Content ν) :
    Prop :=
  ∀ schema table m, mappingOf mappings schema table = some m →
    ∀ stored, target (schema, table) = some stored → ∀ column,
      (source (schema, table)).generated column = false → m.selects column = true →
        stored.schema.generated column = false

variable (hcopy : copySnapshot a.library a.targetVersion a.server foreignKeys progress db w
    (mappings.map scopeOf) (batches.map .ok) = .ok (cp₀, content))
include hcopy

omit hcopy in
theorem holdsRow_of_storedAs {m : TableMapping} {schema table : String}
    (hm : mappingOf mappings schema table = some m)
    (hmarked : ∀ name, ∀ row ∈ (source name).rows, ∀ column ∈ row,
      column.generated = (source name).generated column.name)
    (hcopies : CopiesAsApplied a landing mappings source) {row : List ColumnDatum}
    (hrow : row ∈ (source (schema, table)).rows)
    (hcomplete : ∀ column ∈ projectRow m row,
      column.datum ≠ .unavailable ∧ column.datum ≠ .unchanged) {stored : Row String ν}
    (h : StoredAs a.library a.targetVersion a.server (projectRow m row) stored) :
    HoldsRow landing m (source (schema, table)).generated row stored := by
  intro column hcolumn hgenerated hselected
  have hmem : column ∈ projectRow m row := mem_projectRow.mpr ⟨hcolumn, hselected⟩
  obtain ⟨havailable, hchanged⟩ := hcomplete column hmem
  have hsupplied : isSupplied column = true := by
    rw [isSupplied, hmarked _ row hrow column hcolumn, hgenerated]
    cases hdatum : column.datum <;> simp_all
  obtain ⟨value, hlands, hstored⟩ := h column (List.mem_filter.mpr ⟨hmem, hsupplied⟩)
  obtain ⟨-, rfl, rfl⟩ := mappingOf_spec hm
  rw [hstored]
  exact hcopies _ _ m hm row hrow column hcolumn hselected value hlands

/-- After a copy the target mirrors the source that the snapshot shows. -/
theorem copySnapshot_mirrors (hsnapshot : SnapshotOf mappings batches source)
    (hwrites : WritesSelected mappings source db.business)
    (hcopies : CopiesAsApplied a landing mappings source) :
    Mirrors landing mappings source content := by
  obtain ⟨-, batches', hsame, -, hinserted⟩ := copySnapshot_inserts hcopy
  obtain rfl : batches = batches' :=
    List.map_injective_iff.mpr (fun _ _ h => Except.ok.inj h) hsame
  unfold copySnapshot at hcopy
  split at hcopy
  · cases hcopy
  simp only [throw_eq, pure_eq, error_bind, bind_eq_ok, guard_eq_ok, mapError_eq_ok,
    Prod.exists] at hcopy
  obtain ⟨-, _, -, -, -, _, hempty, copied, _, _, hbatches, -, -, hresult⟩ := hcopy
  obtain rfl : copied = content := congrArg Prod.snd (Except.ok.inj hresult)
  have hvalid := copyBatches_valid hbatches
  intro schema table m hm
  obtain ⟨hmem, hschema, htable⟩ := mappingOf_spec hm
  obtain ⟨target, htarget, hnil⟩ := snapshotTargets_empty hempty (scopeOf m)
    (List.mem_map_of_mem hmem)
  rw [scopeOf, hschema, htable] at htarget
  obtain ⟨target', added, htarget', hkept, hadded, hall⟩ := hinserted.adds htarget
  have hrows := hsnapshot.rows schema table m hm
  refine ⟨target', htarget', ⟨fun column hgenerated hselected => ?_, ?_⟩⟩
  · rw [hkept]
    exact hwrites schema table m hm target htarget column hgenerated hselected
  · rw [hadded, hnil, List.nil_append]
    rw [hrows, List.forall₂_map_left_iff] at hall
    have hmembers := (List.forall₂_and_left _ _).mpr ⟨fun row hrow => hrow, hall⟩
    refine hmembers.imp fun row stored hboth => ?_
    obtain ⟨hrow, hstored⟩ := hboth
    refine holdsRow_of_storedAs hm hsnapshot.marked hcopies hrow (fun column hcolumn => ?_) hstored
    obtain ⟨batch, hbatch, hmemrow⟩ := mem_rowsFor (hrows ▸ List.mem_map_of_mem hrow)
    exact validateSnapshot_complete (hvalid batch hbatch) hmemrow hcolumn

/-- A task that copies a snapshot into empty tables and then follows the source from the boundary
keeps the selected tables of the target a mirror of the source, in every state of every run. -/
theorem bootstrap_mirrors_source [ReflBEq ν] {library : ValidationLibrary}
    {transactions : List ChangeTransaction} {state : ℕ → SourceContent}
    {meaning : Option ColumnConversionPlan → ColumnDatum → ν} {denote : String → Option (Set γ)}
    {g : ChangeTransaction → γ} {s : System (Content ν)} (htask : w.taskId = a.taskId)
    (hsnapshot : SnapshotOf mappings batches (state 0))
    (hwrites : WritesSelected mappings (state 0) db.business)
    (hcopies : CopiesAsApplied a (a.landing meaning) mappings (state 0))
    (hsource : SourceRun transactions state)
    (hchecked : ∀ t ∈ transactions, t.changes = [] ∨ checkTransaction library t = .ok ())
    (hbind : MysqlSink.BindsDatums a.server a.library a.rules a.targetVersion a.plans meaning)
    (hist : SourceHistory denote g a.gtids cp₀ (transactions.map (project mappings)))
    (hrun : Transition.Run (Step a.route (transactions.map (project mappings)))
      ⟨db.store w.taskId cp₀ content, .down⟩ s) :
    (∃ cp, s.db.Holds a.taskId cp ∧
      MirrorsAt (a.landing meaning) mappings transactions state cp s.db.business) ∧
    ∀ w last, s.phase = .streaming w [] last →
      Mirrors (a.landing meaning) mappings (state transactions.length) s.db.business := by
  have hmirrors := copySnapshot_mirrors hcopy hsnapshot hwrites hcopies
  have hholds : (db.store w.taskId cp₀ content).Holds a.taskId cp₀ := by
    rw [← htask]
    unfold copySnapshot at hcopy
    split at hcopy
    · cases hcopy
    simp only [throw_eq, pure_eq, error_bind, bind_eq_ok, guard_eq_ok] at hcopy
    obtain ⟨-, row, hload, hsame, -⟩ := hcopy
    rw [not_not] at hsame
    exact MysqlSink.SinkDb.Holds.store (hsame ▸ hload)
  exact Route.mirrors hist (MysqlAdapter.lands hbind) a.readsBack (reported_of_checked hchecked)
    hsource hholds hmirrors hrun

end Bootstrap

section Sample

/-- The target before the copy: an empty table, and a row in the phase of the snapshot. -/
def emptyTarget : MysqlSink.SinkDb (Content MysqlSink.Value) :=
  ⟨(MysqlSink.sampleDb { MysqlSink.sampleRow with phase := "snapshot" }).logInfo, fun name =>
    if name = ("shop", "stock") then some emptyStock else none⟩

def snapshotWriter : CheckpointWriter :=
  MysqlSink.sampleWriter { MysqlSink.sampleRow with phase := "snapshot" }

/-- The snapshot of the sample source. -/
def stockBatch : SnapshotBatch :=
  ⟨shopIdentity, "shop", "stock", [stockRow 1 (.value (.integer true 32 "7"))], true⟩

def stockCopy : Except IoError (ReplicationCheckpoint × Content MysqlSink.Value) :=
  copySnapshot mysqlAdapter.library mysqlAdapter.targetVersion mysqlAdapter.server (fun _ => 0)
    (fun _ _ => .ok ()) emptyTarget snapshotWriter ([wholeMapping].map scopeOf)
    ([stockBatch].map .ok)

def copiedRow : ReplicationCheckpoint :=
  { MysqlSink.sampleRow with revision := 1, snapshotRows := 1 }

def copiedContent : Content MysqlSink.Value :=
  match stockCopy with
  | .ok (_, content) => content
  | .error _ => emptyTarget.business

theorem stockCopy_eq : stockCopy = .ok (copiedRow, copiedContent) := by
  have hrow : stockCopy.map Prod.fst = .ok copiedRow := by decide +kernel
  unfold copiedContent
  cases hcopy : stockCopy with
  | error e => simp [hcopy, Except.map] at hrow
  | ok copied =>
    rw [hcopy] at hrow
    rw [← Except.ok.inj hrow]

theorem stock_snapshotOf : SnapshotOf [wholeMapping] [stockBatch] (stockSource 1) where
  rows schema table m hm := by
    obtain ⟨hmem, rfl, rfl⟩ := mappingOf_spec hm
    obtain rfl := List.mem_singleton.mp hmem
    rfl
  marked name row hrow column hcolumn := by
    have hnone : column.generated = false := by
      dsimp only [stockSource] at hrow
      split at hrow
      · obtain rfl := List.mem_singleton.mp hrow
        rcases hcolumn with _ | ⟨_, _ | ⟨_, ⟨⟩⟩⟩ <;> rfl
      · cases hrow
    exact hnone

theorem stock_copiesAsApplied : CopiesAsApplied mysqlAdapter (mysqlAdapter.landing Mysql.boundAs)
    [wholeMapping] (stockSource 1) := by
  rintro schema table m hm row hrow column hcolumn - value ⟨placeholder, param, -, hparam, hvalue⟩
  obtain ⟨hmem, rfl, rfl⟩ := mappingOf_spec hm
  obtain rfl := List.mem_singleton.mp hmem
  obtain rfl := List.mem_singleton.mp hrow
  rcases hcolumn with _ | ⟨_, _ | ⟨_, ⟨⟩⟩⟩
  all_goals
    obtain rfl := Except.ok.inj hparam
    obtain rfl := Option.some.inj hvalue
    decide +kernel

theorem copied_history : SourceHistory MysqlSink.listedSet (fun t => t.id.toList)
    mysqlAdapter.gtids copiedRow ([moved].map (project [wholeMapping])) :=
  ⟨moved_history.increasing, moved_history.after_start, moved_history.distinct,
    moved_history.fresh, moved_history.lawful, moved_history.single,
    moved_history.distinct_gtids, moved_history.start_gtids⟩

theorem copied_run : ∃ s, Transition.Run (Step mysqlAdapter.route
    ([moved].map (project [wholeMapping])))
      ⟨emptyTarget.store snapshotWriter.taskId copiedRow copiedContent, .down⟩ s ∧
        ∃ w, s.phase = .streaming w [] none := by
  have hopen : MysqlSink.openWriter ⟨some "8f0b2a10-52c6-11ee-8c99-0242ac120002", some 1, some 1⟩
      (emptyTarget.store snapshotWriter.taskId copiedRow copiedContent)
      mysqlAdapter.route.taskId mysqlAdapter.route.sourceUuid mysqlAdapter.route.binding =
        .ok (MysqlSink.sampleWriter copiedRow,
          emptyTarget.store snapshotWriter.taskId copiedRow copiedContent) := rfl
  have hresumes : Resumes mysqlAdapter.route ([moved].map (project [wholeMapping])) copiedRow
      [moved] := ⟨List.Sublist.refl _, fun t ht => Or.inl ht⟩
  obtain ⟨outcome, happly⟩ := exists_of_isOk (x := mysqlAdapter.route.apply
    (emptyTarget.store snapshotWriter.taskId copiedRow copiedContent)
    (MysqlSink.sampleWriter copiedRow) moved) (by decide +kernel)
  have hrun := (Transition.Run.refl.tail (.start hopen rfl hresumes)).tail
    (Step.deliver (r := mysqlAdapter.route) (t := moved) rfl)
  cases outcome with
  | covered result => exact ⟨_, hrun.tail (.covered happly), _, rfl⟩
  | ready result business => exact ⟨_, hrun.tail (.commit happly), _, rfl⟩

theorem bootstrap_mirrors_source_sample : ∃ s : System (Content MysqlSink.Value),
    (∃ cp, s.db.Holds mysqlAdapter.taskId cp ∧ MirrorsAt (mysqlAdapter.landing Mysql.boundAs)
      [wholeMapping] [moved] (fun i => stockSource (i + 1)) cp s.db.business) ∧
    Mirrors (mysqlAdapter.landing Mysql.boundAs) [wholeMapping] (stockSource 2) s.db.business := by
  obtain ⟨s, hrun, w, hphase⟩ := copied_run
  have hwrites : WritesSelected [wholeMapping] (stockSource 1) emptyTarget.business := by
    rintro schema table m hm stored hstored column - -
    obtain ⟨hmem, rfl, rfl⟩ := mappingOf_spec hm
    obtain rfl := List.mem_singleton.mp hmem
    obtain rfl := Option.some.inj hstored
    rfl
  obtain ⟨hstored, hcaught⟩ := bootstrap_mirrors_source stockCopy_eq rfl stock_snapshotOf hwrites
    stock_copiesAsApplied moved_run moved_checked Mysql.sampleServer_bindsDatums copied_history hrun
  exact ⟨s, hstored, hcaught w none hphase⟩

end Sample

end DatabaseSync.Worker
