import DatabaseSync.MysqlSink.Effect
import DatabaseSync.MysqlSink.Snapshot
import DatabaseSync.MysqlSource.Batches
import DatabaseSync.Worker.RowMeaning
import Mathlib.Algebra.Order.BigOperators.Group.List

/-! # Copying what the reader reads

The target either stays as it was, or it has every row of every selected table and the stored
phase is incremental.
-/

namespace DatabaseSync.Worker

open ChangeEvent Checked MysqlSink MysqlSource Placeholder Relational

/-! ## What the inserts do -/

section Inserted

variable {ν : Type} [BEq ν] (library : ValueLibrary) (targetVersion : String) (server : Server ν)

/-- The server makes this value of the column's parameter. -/
def LandsAs (column : ColumnDatum) (value : Option ν) : Prop :=
  ∃ placeholder param, snapshotPlaceholder targetVersion column = .ok placeholder ∧
    bindSnapshotColumn library targetVersion column = .ok param ∧
    server.evaluate placeholder param = some value

/-- One row is added to its table with the values of its writable columns. -/
def RowInserted (schema table : String) (row : List ColumnDatum) (content content' : Content ν) :
    Prop :=
  ∃ target target' values, content (schema, table) = some target ∧
    content' = Function.update content (schema, table) (some target') ∧
    target'.schema = target.schema ∧
    List.Forall₂ (LandsAs library targetVersion server) (writableColumns row) values ∧
    Inserts target.schema (((writableColumns row).map (·.name)).zip values) target.rows
      target'.rows

/-- The rows are added one after the other. -/
def RowsInserted : List (String × String × List ColumnDatum) → Content ν → Content ν → Prop
  | [], content, content' => content' = content
  | (schema, table, row) :: rows, content, content' =>
    ∃ between, RowInserted library targetVersion server schema table row content between ∧
      RowsInserted rows between content'

/-- The rows of a batch with their table. -/
def batchInserts (batch : SnapshotBatch) : List (String × String × List ColumnDatum) :=
  batch.rows.map fun row => (batch.schema, batch.table, row)

variable {library targetVersion server} {content content' between : Content ν}

theorem RowsInserted.append {rows rows' : List (String × String × List ColumnDatum)}
    (h : RowsInserted library targetVersion server rows content between)
    (h' : RowsInserted library targetVersion server rows' between content') :
    RowsInserted library targetVersion server (rows ++ rows') content content' := by
  induction rows generalizing content with
  | nil =>
    cases h
    exact h'
  | cons first rows ih =>
    obtain ⟨schema, table, row⟩ := first
    obtain ⟨next, hfirst, hrest⟩ := h
    exact ⟨next, hfirst, ih hrest⟩

theorem takeParam_reads (placeholder : Placeholder) (param : Value) :
    Consumes (takeParam server placeholder) [param]
      fun x => server.evaluate placeholder param = some x := by
  intro rest x rest' hrun
  simp only [takeParam, StateT.run, List.cons_append, List.nil_append, Option.map_eq_some_iff,
    Prod.mk.injEq] at hrun
  obtain ⟨x, hx, rfl, rfl⟩ := hrun
  exact ⟨rfl, hx⟩

/-- The parameters are read by the placeholders in their order. -/
theorem takeParams_read {columns : List ColumnDatum} {placeholders : List Placeholder}
    {params : List Value}
    (hplaceholders : columns.mapM (snapshotPlaceholder targetVersion) = .ok placeholders)
    (hparams : columns.mapM (bindSnapshotColumn library targetVersion) = .ok params) :
    Consumes (placeholders.mapM (takeParam server)) params
      (List.Forall₂ (LandsAs library targetVersion server) columns) := by
  have hwritten := mapM_eq_ok hplaceholders
  have hbound := mapM_eq_ok hparams
  clear hplaceholders hparams
  induction hwritten generalizing params with
  | nil =>
    cases hbound
    exact Consumes.pure .nil
  | @cons column placeholder columns placeholders hplaceholder _ ih =>
    cases hbound with
    | @cons _ param _ params hparam hrest =>
      rw [List.mapM_cons]
      apply @Consumes.bind _ _ _ _ _ [param] _ _ _ (takeParam_reads placeholder param)
      intro x hx
      apply Consumes.map (ih hrest)
      intro values hvalues
      exact .cons ⟨placeholder, param, hplaceholder, hparam, hx⟩ hvalues

theorem executeSnapshotStatement_inserts {schema table : String} {row : List ColumnDatum}
    {statement : PlannedStatement}
    (hstatement : snapshotStatement library targetVersion schema table row = .ok statement)
    (hrun : executeSnapshotStatement server content statement = .ok content') :
    RowInserted library targetVersion server schema table row content content' := by
  simp only [snapshotStatement, throw_eq, pure_eq, error_bind, bind_eq_ok, guard_eq_ok,
    Except.ok.injEq] at hstatement
  obtain ⟨⟨⟩, -, -, placeholders, hplaceholders, params, hparams, rfl⟩ := hstatement
  simp only [executeSnapshotStatement, throw_eq, pure_eq, error_bind, guard_eq_ok] at hrun
  obtain ⟨-, hrun⟩ := hrun
  split at hrun
  · cases hrun
  next target htarget =>
    simp only [bind_eq_ok, Except.ok.injEq, Prod.exists, guard_eq_ok] at hrun
    obtain ⟨target', affected, hexecute, -, rfl⟩ := hrun
    obtain ⟨bound, hbound, hinsert⟩ := execDrop_ok hexecute
    have hreads : Consumes ((Statement.insert ((writableColumns row).map (·.name))
        placeholders).mapM (takeParam server)) params fun s => ∃ values,
          s = .insert ((writableColumns row).map (·.name)) values ∧
            List.Forall₂ (LandsAs library targetVersion server) (writableColumns row) values :=
      Consumes.map (takeParams_read hplaceholders hparams)
        fun values hvalues => ⟨values, rfl, hvalues⟩
    obtain ⟨values, rfl, hvalues⟩ := bindParams_eq_some hreads hbound
    have hlength : ((writableColumns row).map (·.name)).length = values.length := by
      rw [List.length_map, hvalues.length_eq]
    rw [Table.run, if_pos hlength] at hinsert
    obtain ⟨hschema, hrows⟩ := Table.insert_inserts hinsert
    exact ⟨target, target', values, htarget, rfl, hschema, hvalues, hrows⟩

theorem executeSnapshot_inserts {schema table : String} {rows : List (List ColumnDatum)}
    {statements : List PlannedStatement}
    (hstatements : rows.mapM (snapshotStatement library targetVersion schema table) =
      .ok statements)
    (hrun : executeSnapshot server content statements = .ok content') :
    RowsInserted library targetVersion server (rows.map fun row => (schema, table, row)) content
      content' := by
  have hrendered := mapM_eq_ok hstatements
  clear hstatements
  induction hrendered generalizing content with
  | nil =>
    cases hrun
    rfl
  | cons hstatement _ ih =>
    simp only [executeSnapshot, List.foldlM_cons, bind_eq_ok] at hrun
    obtain ⟨between, hfirst, hrest⟩ := hrun
    exact ⟨between, executeSnapshotStatement_inserts hstatement hfirst, ih hrest⟩

/-- A finished loop has read no failure and inserted the rows of all batches. -/
theorem copyBatches_inserts {progress : SnapshotBatch → ℕ → Except IoError Unit}
    {sourceUuid : String} {tables : List SnapshotTable}
    {results : List (Except IoError SnapshotBatch)} {i n i' n' : ℕ}
    (h : copyBatches library targetVersion server progress sourceUuid tables content i n results =
      .ok (content', i', n')) :
    ∃ batches : List SnapshotBatch, results = batches.map .ok ∧
      RowsInserted library targetVersion server (batches.flatMap batchInserts) content content' ∧
      n' = n + (batches.flatMap (·.rows)).length := by
  induction results generalizing content i n with
  | nil =>
    cases h
    exact ⟨[], rfl, rfl, rfl⟩
  | cons result results ih =>
    simp only [copyBatches, bind_eq_ok] at h
    obtain ⟨batch, rfl, h⟩ := h
    split at h
    · cases h
    next scope hscope =>
      simp only [throw_eq, error_bind, guard_eq_ok, bind_eq_ok, mapError_eq_ok] at h
      obtain ⟨-, -, -, statements, hstatements, between, hexecute, -, -, -, hrest⟩ := h
      obtain ⟨batches, rfl, hinserted, hcount⟩ := ih hrest
      simp only [snapshotSql, throw_eq, error_bind, guard_eq_ok] at hstatements
      refine ⟨batch :: batches, rfl, ?_, ?_⟩
      · rw [List.flatMap_cons]
        exact (executeSnapshot_inserts hstatements.2 hexecute).append hinserted
      · rw [hcount, List.flatMap_cons, List.length_append]
        omega

theorem copySnapshot_inserts {foreignKeys : String × String → ℕ}
    {progress : SnapshotBatch → ℕ → Except IoError Unit} {db : SinkDb (Content ν)}
    {w : CheckpointWriter} {tables : List SnapshotTable}
    {results : List (Except IoError SnapshotBatch)} {cp : ReplicationCheckpoint}
    (h : copySnapshot library targetVersion server foreignKeys progress db w tables results =
      .ok (cp, content')) :
    cp.phase = "incremental" ∧ ∃ batches : List SnapshotBatch, results = batches.map .ok ∧
      cp.snapshotRows = (batches.flatMap (·.rows)).length ∧
      RowsInserted library targetVersion server (batches.flatMap batchInserts) db.business
        content' := by
  unfold copySnapshot at h
  split at h
  · cases h
  · simp only [throw_eq, pure_eq, error_bind, bind_eq_ok, guard_eq_ok, Except.ok.injEq,
      Prod.mk.injEq, Prod.exists] at h
    obtain ⟨-, -, -, -, -, -, -, content, tableIndex, rowCount, hcopied, -, -, rfl, rfl⟩ := h
    obtain ⟨batches, hbatches, hinserted, hcount⟩ := copyBatches_inserts hcopied
    exact ⟨rfl, batches, hbatches, by simpa using hcount, hinserted⟩

end Inserted

/-! ## The copy of what is read -/

theorem map_mapError_eq {ε ε' α : Type} {f : ε → ε'} {results : List (Except ε α)} {values : List α}
    (h : results.map (fun result => result.mapError f) = values.map .ok) :
    results = values.map .ok := by
  induction results generalizing values with
  | nil =>
    cases values with
    | nil => rfl
    | cons value values => cases h
  | cons result results ih =>
    cases values with
    | nil => cases h
    | cons value values =>
      rw [List.map_cons, List.map_cons, List.cons.injEq, mapError_eq_ok] at h
      rw [h.1, ih h.2, List.map_cons]

/-- The database after a copy: unchanged if a batch has failed, and otherwise unchanged or with
all rows and the incremental phase. -/
structure CopiesAllOrNothing {ν : Type} [BEq ν] (library : ValueLibrary) (targetVersion : String)
    (server : Server ν) (taskId : String) (results : List (Except String SnapshotBatch))
    (db after : SinkDb (Content ν)) : Prop where
  failed : ∀ e, .error e ∈ results → after = db
  outcome : after = db ∨ ∃ (batches : List SnapshotBatch) (cp : ReplicationCheckpoint)
    (content : Content ν), results = batches.map .ok ∧ cp.phase = "incremental" ∧
      cp.snapshotRows = (batches.flatMap (·.rows)).length ∧ after = db.store taskId cp content ∧
      RowsInserted library targetVersion server (batches.flatMap batchInserts) db.business content

theorem CopiesAllOrNothing.of_finishCopy {ν : Type} [BEq ν] {library : ValueLibrary}
    {targetVersion : String} {server : Server ν} {foreignKeys : String × String → ℕ}
    {progress : SnapshotBatch → ℕ → Except IoError Unit} {db : SinkDb (Content ν)}
    {w : CheckpointWriter} {tables : List SnapshotTable}
    {results : List (Except String SnapshotBatch)} {commit : Commit} :
    CopiesAllOrNothing library targetVersion server w.taskId results db
      (finishCopy db w.taskId (copySnapshot library targetVersion server foreignKeys progress db w
        tables (results.map fun result => result.mapError .other)) commit).2 := by
  have houtcome : ∀ cp content, copySnapshot library targetVersion server foreignKeys progress db w
      tables (results.map fun result => result.mapError .other) = .ok (cp, content) →
      ∃ batches : List SnapshotBatch, results = batches.map .ok ∧ cp.phase = "incremental" ∧
        cp.snapshotRows = (batches.flatMap (·.rows)).length ∧
        RowsInserted library targetVersion server (batches.flatMap batchInserts) db.business
          content := by
    intro cp content hcopied
    obtain ⟨hphase, batches, hbatches, hcount, hinserted⟩ := copySnapshot_inserts hcopied
    exact ⟨batches, map_mapError_eq hbatches, hphase, hcount, hinserted⟩
  cases hcopied : copySnapshot library targetVersion server foreignKeys progress db w tables
      (results.map fun result => result.mapError .other) with
  | error e => exact ⟨fun _ _ => rfl, .inl rfl⟩
  | ok copied =>
    obtain ⟨cp, content⟩ := copied
    obtain ⟨batches, hbatches, hphase, hcount, hinserted⟩ := houtcome cp content hcopied
    have hnofailure : ∀ e, .error e ∉ results := by
      intro e he
      rw [hbatches] at he
      obtain ⟨batch, -, hbatch⟩ := List.mem_map.mp he
      cases hbatch
    refine ⟨fun e he => (hnofailure e he).elim, ?_⟩
    have hstored : db.store w.taskId cp content = db ∨ ∃ (batches : List SnapshotBatch)
        (cp' : ReplicationCheckpoint) (content' : Content ν), results = batches.map .ok ∧
        cp'.phase = "incremental" ∧ cp'.snapshotRows = (batches.flatMap (·.rows)).length ∧
        db.store w.taskId cp content = db.store w.taskId cp' content' ∧
        RowsInserted library targetVersion server (batches.flatMap batchInserts) db.business
          content' :=
      .inr ⟨batches, cp, content, hbatches, hphase, hcount, rfl, hinserted⟩
    cases commit with
    | acknowledged => exact hstored
    | lostApplied => exact hstored
    | lostNotApplied => exact .inl rfl

/-- However it is disturbed, the reader gives every row of every table once, in the order of the
keys, and marks one batch of each table, as long as no call fails. -/
def SnapshotComplete {σ κ ν : Type} [LinearOrder σ] [LinearOrder κ] (source : SnapshotServer σ κ ν)
    (identity : Source) (tables : List ScanTable) : Prop :=
  ∀ env calls, Drains source env (.new identity tables) calls →
    ReadsCompletely source identity tables env calls

/-- The reader comes to an end, and copying what it gives leaves the target as it was or copies all
of it. What it gives is complete if the cursor of each table follows its keys at the end of every
full batch, as it always does where every key column ascends, and otherwise readable tables are
not read completely. -/
theorem snapshot_copies_iff {σ κ ν τ : Type} [LinearOrder σ] [LinearOrder κ] [BEq τ]
    (source : SnapshotServer σ κ ν) (identity : Source)
    {describe : SnapshotTable → Except String (Option String × List ColumnInfo)}
    {scopes : List SnapshotTable} {tables : List ScanTable}
    (haccepted : snapshotTables describe scopes = .ok tables)
    (hcontains : ∀ table ∈ tables, source.keys.Contains table (table.stored source))
    (library : ValueLibrary) (targetVersion : String) (sink : Server τ)
    (foreignKeys : String × String → ℕ) (progress : SnapshotBatch → ℕ → Except IoError Unit)
    (db : SinkDb (Content τ)) (w : CheckpointWriter) (commit : Commit) :
    (∀ env, (∃ calls, Drains source env (.new identity tables) calls) ∧
      ∀ calls, Drains source env (.new identity tables) calls →
        CopiesAllOrNothing library targetVersion sink w.taskId (calls.map Prod.fst) db
          (finishCopy db w.taskId (copySnapshot library targetVersion sink foreignKeys progress db w
            scopes ((calls.map Prod.fst).map fun result => result.mapError .other)) commit).2) ∧
    ((∀ table ∈ tables, table.CursorFollows source ∨
        ∀ column ∈ table.keyColumns, source.keys.Ascends column) →
      SnapshotComplete source identity tables) ∧
    ((∀ table ∈ tables, Readable source table) →
      (SnapshotComplete source identity tables ↔
        ∀ table ∈ tables, table.CursorFollows source)) := by
  obtain ⟨-, hcolumns⟩ := snapshotTables_spec haccepted
  have hne : ∀ table ∈ tables, table.keyColumns ≠ [] := by
    intro table htable
    obtain ⟨column, hcolumn⟩ := hcolumns table htable
    rw [keyColumns_eq hcolumn]
    exact mt List.map_eq_nil_iff.mp table.keys_ne
  have hkeys : ∀ table ∈ tables, ((table.stored source).map table.key).Nodup :=
    fun table htable => (hcontains table htable).nodup
  have hstands : Stands source (.new identity tables) _ := Stands.new hne
  refine ⟨fun env => ⟨hstands.drains env, fun calls _ => CopiesAllOrNothing.of_finishCopy⟩, ?_, ?_⟩
  · intro hcursor env calls hdrains
    refine readsCompletely_of_follows hne hkeys ?_ hdrains
    intro table htable
    rcases hcursor table htable with hfollows | hascends
    · exact hfollows
    · obtain ⟨column, hcolumn⟩ := hcolumns table htable
      exact ScanTable.cursorFollows_of_ascends hcolumn (hcontains table htable) hascends
  · intro hreadable
    constructor
    · intro hcomplete
      exact follows_of_readsCompletely hne hkeys hreadable fun calls => hcomplete _ calls
    · intro hfollows env calls hdrains
      exact readsCompletely_of_follows hne hkeys hfollows hdrains

section Sample

def shopIdentity : Source := ⟨"mysql", "8.0", "3e11fa47-71ca-11e1-9e33-c80aa9429562"⟩

def shopWriter : CheckpointWriter where
  taskId := "task"
  sourceUuid := shopIdentity.id
  sinkUuid := "sink"
  binding := "binding"
  checkpoint :=
    some ⟨"task", shopIdentity.id, "sink", "binding", "binlog", "binlog.000001", 4, none,
    none, 0, 0, 0, "snapshot", 0, none⟩
  observedGtids := none
  observedPosition := none

def emptyStock : Table String Value where
  schema := ⟨["id"], fun _ => false, fun _ => none, some, by rintro _ _ _ ⟨⟩ _; rfl⟩
  rows := []
  unique := List.Pairwise.nil

def shopDb : SinkDb (Content Value) where
  logInfo := some ⟨"InnoDB", ["task_id"], fun _ => shopWriter.checkpoint⟩
  business := fun _ => some emptyStock

/-- A source of the rows of one table, whose labels are one byte long. -/
def rankSource (labels : List String) : SnapshotServer ℕ (List ℕ) (KeyParameter ℕ) where
  rows _ _ := rankRows
  select column value := some ((rankServer labels).deliver column value)
  keys := rankServer labels
  size
    | .label _ => 1
    | .plain _ => 32
  keySize
    | .label _ => 1
    | .plain _ => 32
  jsonRoundTrips _ := true
  decodeValue
    | .label text, _ => .ok (.enum text)
    | .plain n, _ => .ok (.integer true 64 (toString n))

def rankScope : SnapshotTable := ⟨"shop", "orders", []⟩

def describeRank (rankType : String) (_ : SnapshotTable) :
    Except String (Option String × List ColumnInfo) :=
  .ok (some "InnoDB", rankColumns rankType)

theorem rank_accepted (rankType : String) :
    snapshotTables (describeRank rankType) [rankScope] = .ok [rankTable rankType] := rfl

theorem rank_readable (labels : List String) (rankType : String) :
    Readable (rankSource labels) (rankTable rankType) := by
  have hrows : ∀ row ∈ rankRows, ∃ rank id, row = rankRow rank id := by
    rintro row hrow
    rcases List.mem_append.mp hrow with hmem | hmem
    · obtain ⟨n, -, rfl⟩ := List.mem_map.mp hmem
      exact ⟨1, n, rfl⟩
    · exact ⟨2, 0, List.mem_singleton.mp hmem⟩
  constructor
  · rintro row hrow
    obtain ⟨rank, id, rfl⟩ := hrows row hrow
    exact ⟨nofun, _, rfl⟩
  · intro page hpage hlength
    have hsize : ∀ size ∈ page.map ((rankTable rankType).rowBytes (rankSource labels)),
        size ≤ 66 := by
      rintro size hsize
      obtain ⟨row, hrow, rfl⟩ := List.mem_map.mp hsize
      obtain ⟨rank, id, rfl⟩ :=
        hrows row ((Keyset.sortByKey_perm _).mem_iff.mp (hpage.subset hrow))
      exact le_refl 66
    have hsum := List.sum_le_card_nsmul _ 66 hsize
    rw [List.length_map, nsmul_eq_mul, Nat.cast_id] at hsum
    have hmax : maxBatchBytes = 16 * 1024 * 1024 := rfl
    have hrows : batchRows = 256 := rfl
    omega

/-- Labels that ascend with their numbers: the row on the second page is read. -/
theorem snapshot_copies_iff_rank :
    (∃ calls, Drains (rankSource ["a", "b"]) (fun _ => .quiet)
        (.new shopIdentity [rankTable "enum('a','b')"]) calls) ∧
      SnapshotComplete (rankSource ["a", "b"]) shopIdentity [rankTable "enum('a','b')"] ∧
      (rankTable "enum('a','b')").CursorFollows (rankSource ["a", "b"]) := by
  have hcontains : ∀ table ∈ [rankTable "enum('a','b')"],
      (rankServer ["a", "b"]).Contains table (table.stored (rankSource ["a", "b"])) := by
    rintro table htable
    obtain rfl := List.mem_singleton.mp htable
    exact rankRows_contained rfl _
  have hreadable : ∀ table ∈ [rankTable "enum('a','b')"],
      Readable (rankSource ["a", "b"]) table := by
    rintro table htable
    obtain rfl := List.mem_singleton.mp htable
    exact rank_readable _ _
  obtain ⟨hcopies, henough, hexact⟩ := snapshot_copies_iff (rankSource ["a", "b"]) shopIdentity
    (rank_accepted "enum('a','b')") hcontains Mysql.sampleLibrary "8.0" Mysql.sampleServer
    (fun _ => 0) (fun _ _ => .ok ()) shopDb shopWriter .acknowledged
  have hcomplete : SnapshotComplete (rankSource ["a", "b"]) shopIdentity
      [rankTable "enum('a','b')"] := by
    apply henough
    rintro table htable
    obtain rfl := List.mem_singleton.mp htable
    exact .inr rank_ascends
  exact ⟨(hcopies _).1, hcomplete, (hexact hreadable).mp hcomplete _ List.mem_cons_self⟩

/-- Labels that descend: the row `('a', 0)` after the first page is never read. -/
theorem rank_row_lost :
    snapshotTables (describeRank "enum('b','a')") [rankScope] =
        .ok [rankTable "enum('b','a')"] ∧
      (rankServer ["b", "a"]).Contains (rankTable "enum('b','a')") rankRows ∧
      ¬ SnapshotComplete (rankSource ["b", "a"]) shopIdentity [rankTable "enum('b','a')"] := by
  refine ⟨rank_accepted _, rankRows_contained rfl _, fun hcomplete => ?_⟩
  have hcontained : (rankServer ["b", "a"]).Contains (rankTable "enum('b','a')") rankRows :=
    rankRows_contained rfl _
  have hcolumns : ∀ table ∈ [rankTable "enum('b','a')"], table.keyColumns ≠ [] :=
    List.forall_mem_singleton.mpr (List.cons_ne_nil _ _)
  have hkeys : ∀ table ∈ [rankTable "enum('b','a')"],
      ((table.stored (rankSource ["b", "a"])).map table.key).Nodup :=
    List.forall_mem_singleton.mpr hcontained.nodup
  have hreadable : ∀ table ∈ [rankTable "enum('b','a')"],
      Readable (rankSource ["b", "a"]) table :=
    List.forall_mem_singleton.mpr (rank_readable _ _)
  have hfollows := follows_of_readsCompletely hcolumns hkeys hreadable
    (fun calls => hcomplete _ calls) _ List.mem_cons_self
  have hselected := hfollows 0 _ (rankRows_boundary _) (rankRow 2 0)
    (List.mem_append_right _ List.mem_cons_self)
  revert hselected
  decide

end Sample

end DatabaseSync.Worker
