import DatabaseSync.Worker.FieldPlan
import DatabaseSync.Worker.RowMeaning

/-! # The projection on the selection of a task

The worker keeps the changes of the selected tables and their selected columns. A selection that
was accepted contains the primary keys, so what is left of a validated transaction is valid again,
and a plan was saved for each of its columns.
-/

namespace DatabaseSync.Worker

open ChangeEvent Checked Control

/-- The mapping of a table. -/
def mappingOf (mappings : List TableMapping) (schema table : String) : Option TableMapping :=
  mappings.find? fun m => m.sourceSchema = schema ∧ m.sourceTable = table

/-- The selected columns of an image. -/
def projectRow (m : TableMapping) (row : List ColumnDatum) : List ColumnDatum :=
  if m.columns.isEmpty then row else row.filter fun column => m.columns.contains column.name

def projectChange (mappings : List TableMapping) (change : RowChange) : Option RowChange := do
  let m ← mappingOf mappings change.schema change.table
  return { change with
    before := change.before.map (projectRow m), after := change.after.map (projectRow m) }

def project (mappings : List TableMapping) (t : ChangeTransaction) : ChangeTransaction :=
  { t with changes := t.changes.filterMap (projectChange mappings) }

section Lemmas

variable {mappings : List TableMapping} {m : TableMapping} {change projected : RowChange}
  {row : List ColumnDatum} {schema table : String}

theorem projectRow_eq (m : TableMapping) (row : List ColumnDatum) :
    projectRow m row = row.filter fun column => m.selects column.name := by
  unfold projectRow TableMapping.selects
  cases m.columns.isEmpty <;> simp

theorem mem_projectRow {column : ColumnDatum} :
    column ∈ projectRow m row ↔ column ∈ row ∧ m.selects column.name = true := by
  rw [projectRow_eq, List.mem_filter]

theorem mappingOf_spec (h : mappingOf mappings schema table = some m) :
    m ∈ mappings ∧ m.sourceSchema = schema ∧ m.sourceTable = table :=
  ⟨List.mem_of_find?_eq_some h, by simpa using List.find?_some h⟩

theorem projectChange_eq_some (h : projectChange mappings change = some projected) :
    ∃ m, mappingOf mappings change.schema change.table = some m ∧
      projected = { change with
        before := change.before.map (projectRow m), after := change.after.map (projectRow m) } := by
  unfold projectChange at h
  cases hm : mappingOf mappings change.schema change.table with
  | none => simp [hm] at h
  | some m =>
    rw [hm] at h
    exact ⟨m, rfl, (Option.some.inj h).symm⟩

end Lemmas

/-! ## What is left is valid -/

section Validity

variable {library : ValidationLibrary} {operation : Operation} {isBefore : Bool}
  {row : List ColumnDatum} {p : ColumnDatum → Bool}

/-- The columns of a key are kept, so the key ordinals of the image stay the same. -/
theorem imageColumns_filter {names names' : List String} {ordinals ordinals' keys keys' : List ℕ}
    (h : imageColumns library operation isBefore row names ordinals keys = .ok keys')
    (hnames : names' ⊆ names) (hordinals : ordinals' ⊆ ordinals)
    (hkeep : ∀ column ∈ row, column.primaryKeyOrdinal.isSome = true → p column = true) :
    imageColumns library operation isBefore (row.filter p) names' ordinals' keys = .ok keys' := by
  induction row generalizing names names' ordinals ordinals' keys with
  | nil => exact h
  | cons column row ih =>
    simp only [imageColumns, ChangeEvent.ensure_eq_ok, bind_eq_ok, Bool.and_eq_true,
      Bool.not_eq_true', List.contains_eq_mem, decide_eq_false_iff_not] at h
    obtain ⟨_, hname, _, htype, _, ⟨hnew, hnew'⟩, keys₁, hkeys, _, hpresence, _, hdatum, hrest⟩ := h
    have htail := fun column hcolumn => hkeep column (List.mem_cons_of_mem _ hcolumn)
    by_cases hp : p column = true
    · rw [List.filter_cons_of_pos hp]
      simp only [imageColumns, ChangeEvent.ensure_eq_ok, bind_eq_ok, Bool.and_eq_true,
        Bool.not_eq_true', List.contains_eq_mem, decide_eq_false_iff_not]
      refine ⟨(), hname, (), htype, (), ⟨fun hmem => hnew (hnames hmem),
        fun hmem => hnew' (hordinals hmem)⟩, keys₁, hkeys, _, hpresence, _, hdatum,
        ih hrest ?_ ?_ htail⟩
      · exact List.cons_subset_cons _ hnames
      · exact List.cons_subset_cons _ hordinals
    · rw [List.filter_cons_of_neg hp]
      have hnone : column.primaryKeyOrdinal = none := by
        by_contra hsome
        exact hp (hkeep column List.mem_cons_self (Option.isSome_iff_ne_none.mpr hsome))
      have hsame : keys = keys₁ := by
        rw [keyColumn, hnone] at hkeys
        exact Except.ok.inj hkeys
      subst hsame
      exact ih hrest (fun _ hmem => List.mem_cons_of_mem _ (hnames hmem))
        (fun _ hmem => List.mem_cons_of_mem _ (hordinals hmem)) htail

theorem image_filter (h : image library row operation isBefore = .ok ())
    (hkeep : ∀ column ∈ row, column.primaryKeyOrdinal.isSome = true → p column = true)
    (hkey : ∃ column ∈ row, p column = true) :
    image library (row.filter p) operation isBefore = .ok () := by
  simp only [image, ChangeEvent.ensure_eq_ok, bind_eq_ok] at h ⊢
  obtain ⟨_, -, keys, hkeys, hcontiguous⟩ := h
  refine ⟨(), ?_, keys, ?_, hcontiguous⟩
  · obtain ⟨column, hcolumn, hp⟩ := hkey
    have hmem := List.mem_filter.mpr ⟨hcolumn, hp⟩
    cases hfilter : row.filter p with
    | nil => simp [hfilter] at hmem
    | cons _ _ => rfl
  · exact imageColumns_filter hkeys (fun _ h => h) (fun _ h => h) hkeep

/-- The mapping keeps the key of the image, and the image has one. -/
def KeepsKey (m : TableMapping) (row : List ColumnDatum) : Prop :=
  (∀ column ∈ row, column.primaryKeyOrdinal.isSome = true → m.selects column.name = true) ∧
    ∃ column ∈ row, m.selects column.name = true

theorem image_project {m : TableMapping} (h : image library row operation isBefore = .ok ())
    (hkeep : KeepsKey m row) : image library (projectRow m row) operation isBefore = .ok () := by
  rw [projectRow_eq]
  exact image_filter h hkeep.1 hkeep.2

/-- The two images of an update are cut at the same columns. -/
theorem sameDefinition_project (m : TableMapping) {before after : List ColumnDatum}
    (h : (before.length == after.length &&
      (before.zip after).all fun (b, a) => sameDefinition b a) = true) :
    ((projectRow m before).length == (projectRow m after).length &&
      ((projectRow m before).zip (projectRow m after)).all fun (b, a) => sameDefinition b a) =
        true := by
  have hpairs (l l' : List ColumnDatum) : (l.length == l'.length &&
      (l.zip l').all fun (b, a) => sameDefinition b a) = true ↔
        List.Forall₂ (fun b a => sameDefinition b a = true) l l' := by
    rw [List.forall₂_iff_zip, Bool.and_eq_true, beq_iff_eq, List.all_eq_true]
    exact and_congr_right fun _ => ⟨fun h _ _ hp => h _ hp, fun h p hp => h hp⟩
  rw [hpairs] at h ⊢
  rw [projectRow_eq, projectRow_eq]
  refine List.rel_filter (fun b a hsame => ?_) h
  simp only [sameDefinition, Bool.and_eq_true, beq_iff_eq] at hsame
  exact iff_of_eq (congrArg (fun name => m.selects name = true) hsame.1.1.1.1.2)

theorem columns_project {m : TableMapping} {change : RowChange} {column : ColumnDatum}
    (h : column ∈ RowChange.columns { change with
      before := change.before.map (projectRow m), after := change.after.map (projectRow m) }) :
    column ∈ change.columns ∧ m.selects column.name = true := by
  have himage {image : Option (List ColumnDatum)}
      (hmem : column ∈ (image.map (projectRow m)).getD []) :
      column ∈ image.getD [] ∧ m.selects column.name = true := by
    cases image with
    | none => cases hmem
    | some row => exact mem_projectRow.mp hmem
  rcases List.mem_append.mp h with hbefore | hafter
  · obtain ⟨hmem, hselected⟩ := himage hbefore
    exact ⟨List.mem_append_left _ hmem, hselected⟩
  · obtain ⟨hmem, hselected⟩ := himage hafter
    exact ⟨List.mem_append_right _ hmem, hselected⟩

theorem validateChange_project {m : TableMapping} {change : RowChange}
    (h : validateChange library change = .ok ())
    (hbefore : ∀ row, change.before = some row → KeepsKey m row)
    (hafter : ∀ row, change.after = some row → KeepsKey m row) :
    validateChange library { change with
      before := change.before.map (projectRow m), after := change.after.map (projectRow m) } =
        .ok () := by
  have hcolumns (p : ColumnDatum → Bool) (hall : change.columns.all p = true) :
      (RowChange.columns { change with
        before := change.before.map (projectRow m)
        after := change.after.map (projectRow m) }).all p = true :=
    List.all_eq_true.mpr fun column hcolumn =>
      List.all_eq_true.mp hall column (columns_project hcolumn).1
  unfold validateChange at h ⊢
  simp only [bind_eq_ok, ChangeEvent.ensure_eq_ok] at h ⊢
  obtain ⟨_, hname, _, hbasis, _, hcursor, _, hshape, h⟩ := h
  refine ⟨(), hname, (), hbasis, (), hcursor, (), ?_, ?_⟩
  · unfold validShape at hshape ⊢
    simpa only [Option.isNone_map, Option.isSome_map] using hshape
  · cases hb : change.before with
    | none =>
      cases ha : change.after with
      | none =>
        simp only [hb, ha, bind_eq_ok, ChangeEvent.ensure_eq_ok, Option.map_none, pure_eq]
          at h hcolumns ⊢
        obtain ⟨_, hall, -⟩ := h
        exact ⟨(), hcolumns _ hall, trivial⟩
      | some after =>
        simp only [hb, ha, bind_eq_ok, ChangeEvent.ensure_eq_ok, Option.map_none, Option.map_some,
          pure_eq] at h hcolumns ⊢
        obtain ⟨_, himage, _, hall, -⟩ := h
        exact ⟨(), image_project himage (hafter _ ha), (), hcolumns _ hall, trivial⟩
    | some before =>
      cases ha : change.after with
      | none =>
        simp only [hb, ha, bind_eq_ok, ChangeEvent.ensure_eq_ok, Option.map_none, Option.map_some,
          pure_eq] at h hcolumns ⊢
        obtain ⟨_, himage, _, hall, -⟩ := h
        exact ⟨(), image_project himage (hbefore _ hb), (), hcolumns _ hall, trivial⟩
      | some after =>
        simp only [hb, ha, bind_eq_ok, ChangeEvent.ensure_eq_ok, Option.map_some] at h hcolumns ⊢
        obtain ⟨_, himage, _, himage', _, hall, hsame⟩ := h
        exact ⟨(), image_project himage (hbefore _ hb), (), image_project himage' (hafter _ ha), (),
          hcolumns _ hall, sameDefinition_project m hsame⟩

theorem validateChanges_iff {changes : List RowChange} :
    validateChanges library changes = .ok () ↔
      ∀ change ∈ changes, validateChange library change = .ok () := by
  induction changes with
  | nil => exact iff_of_true rfl nofun
  | cons change changes ih =>
    rw [validateChanges, bind_eq_ok, List.forall_mem_cons, ← ih]
    constructor
    · rintro ⟨_, hchange, hrest⟩
      exact ⟨hchange, hrest⟩
    · rintro ⟨hchange, hrest⟩
      exact ⟨(), hchange, hrest⟩

/-- The selection keeps the keys of the changes to a table. -/
def KeepsKeys (mappings : List TableMapping) (change : RowChange) : Prop :=
  ∀ m, mappingOf mappings change.schema change.table = some m →
    (∀ row, change.before = some row → KeepsKey m row) ∧
      ∀ row, change.after = some row → KeepsKey m row

theorem checkTransaction_project {mappings : List TableMapping} {t : ChangeTransaction}
    (h : checkTransaction library t = .ok ())
    (hkeep : ∀ change ∈ t.changes, KeepsKeys mappings change)
    (hne : (project mappings t).changes ≠ []) :
    checkTransaction library (project mappings t) = .ok () := by
  unfold checkTransaction at h ⊢
  simp only [bind_eq_ok, ChangeEvent.ensure_eq_ok, validateChanges_iff] at h ⊢
  obtain ⟨_, hid, _, hsource, _, hbegin, _, hcommit, _, -, hchanges⟩ := h
  refine ⟨(), hid, (), hsource, (), hbegin, (), hcommit, (), ?_, fun projected hprojected => ?_⟩
  · rwa [Bool.not_eq_true', List.isEmpty_eq_false_iff]
  · obtain ⟨change, hchange, hproject⟩ := List.mem_filterMap.mp hprojected
    obtain ⟨m, hm, rfl⟩ := projectChange_eq_some hproject
    obtain ⟨hbefore, hafter⟩ := hkeep change hchange m hm
    exact validateChange_project (hchanges change hchange) hbefore hafter

end Validity

/-! ## What was accepted -/

section Accepted

variable {library : ValidationLibrary} {planField : FieldPlanner}
  {sourceTables sinkTables : List CatalogTable} {mappings : List TableMapping}
  {plans : List ColumnConversionPlan} {t : ChangeTransaction} {change projected : RowChange}
  {source sink : CatalogTable} {row : List ColumnDatum}

/-- An image has the columns and the key of the table in the catalog. -/
structure ShowsTable (source : CatalogTable) (row : List ColumnDatum) : Prop where
  columns : row.map (·.name) = source.columns.map (·.name)
  key : ∀ column ∈ row, column.primaryKeyOrdinal.isSome = true ↔ column.name ∈ source.primaryKey
  has_key : ∀ key ∈ source.primaryKey, ∃ column ∈ row, column.name = key

/-- The images of a transaction show the tables as they were when the task was accepted. -/
def ShowsCatalog (sourceTables : List CatalogTable) (t : ChangeTransaction) : Prop :=
  ∀ change ∈ t.changes, ∀ source,
    tableNamed sourceTables (change.schema, change.table) = some source →
      (∀ row, change.before = some row → ShowsTable source row) ∧
        ∀ row, change.after = some row → ShowsTable source row

theorem ShowsTable.keepsKey {m : TableMapping} (h : ShowsTable source row)
    (hplanned : Planned planField source sink m plans) : KeepsKey m row := by
  constructor
  · intro column hcolumn hkey
    exact hplanned.selects_key _ ((h.key column hcolumn).mp hkey)
  · obtain ⟨key, hkey⟩ := List.exists_mem_of_ne_nil _ hplanned.key_nonempty
    obtain ⟨column, hcolumn, rfl⟩ := h.has_key key hkey
    exact ⟨column, hcolumn, hplanned.selects_key _ hkey⟩

/-- The tables of a change that is kept have been planned. -/
theorem planned_of_mappingOf {m : TableMapping} {schema table : String}
    (hplans : planMappings planField sourceTables sinkTables mappings = .ok plans)
    (hm : mappingOf mappings schema table = some m) :
    ∃ source sink, tableNamed sourceTables (schema, table) = some source ∧
      tableNamed sinkTables (m.sinkSchema, m.sinkTable) = some sink ∧
      ∃ planned, planned ⊆ plans ∧ Planned planField source sink m planned := by
  obtain ⟨hmem, rfl, rfl⟩ := mappingOf_spec hm
  exact planMappings_spec hplans hmem

/-- What the worker projects of a validated transaction is empty or validates again. -/
theorem project_valid (hplans : planMappings planField sourceTables sinkTables mappings = .ok plans)
    (hshows : ShowsCatalog sourceTables t) (hvalid : checkTransaction library t = .ok ()) :
    (project mappings t).changes = [] ∨
      checkTransaction library (project mappings t) = .ok () := by
  rcases eq_or_ne (project mappings t).changes [] with hnil | hne
  · exact .inl hnil
  · refine .inr (checkTransaction_project hvalid (fun change hchange m hm => ?_) hne)
    obtain ⟨source, sink, hsource, -, planned, -, hplanned⟩ := planned_of_mappingOf hplans hm
    obtain ⟨hbefore, hafter⟩ := hshows change hchange source hsource
    exact ⟨fun row hrow => (hbefore row hrow).keepsKey hplanned,
      fun row hrow => (hafter row hrow).keepsKey hplanned⟩

/-- A plan is saved for a column under its lineage. -/
def PlansLineage (planField : FieldPlanner) : Prop :=
  ∀ source sink a b options plan, planField source sink a b options = .ok plan →
    plan.sourceField.lineageId = lineage source.schema source.name a.name

/-- The planner of the control plane does so for every route. -/
theorem plansLineage_planFieldForSink {digests : Planner.DigestLibrary}
    (route : RoutePlanning digests) : PlansLineage route.planFieldForSink := by
  intro source sink a b options plan h
  exact (RoutePlanning.planFieldForSink_fields h).1

theorem columnPlan_project (hlineage : PlansLineage planField)
    (hplans : planMappings planField sourceTables sinkTables mappings = .ok plans)
    (hshows : ShowsCatalog sourceTables t) (hprojected : projected ∈ (project mappings t).changes)
    {column : ColumnDatum} (hcolumn : column ∈ projected.columns) :
    (columnPlan projected.schema projected.table column plans).isSome = true := by
  obtain ⟨change, hchange, hproject⟩ := List.mem_filterMap.mp hprojected
  obtain ⟨m, hm, rfl⟩ := projectChange_eq_some hproject
  obtain ⟨hmem, hselected⟩ := columns_project hcolumn
  obtain ⟨source, sink, hsource, -, planned, hsub, hplanned⟩ := planned_of_mappingOf hplans hm
  have himage : ∃ row, column ∈ row ∧ ShowsTable source row := by
    obtain ⟨hbefore, hafter⟩ := hshows change hchange source hsource
    rcases List.mem_append.mp hmem with hmem | hmem
    · cases hb : change.before with
      | none => simp [hb] at hmem
      | some row => exact ⟨row, by simpa [hb] using hmem, hbefore row hb⟩
    · cases ha : change.after with
      | none => simp [ha] at hmem
      | some row => exact ⟨row, by simpa [ha] using hmem, hafter row ha⟩
  obtain ⟨row, hrow, hshown⟩ := himage
  have hname : column.name ∈ source.columns.map (·.name) :=
    hshown.columns ▸ List.mem_map_of_mem hrow
  obtain ⟨a, ha, hsame⟩ := List.mem_map.mp hname
  obtain ⟨a', -, b, -, haname, -, options, plan, hplan, hfield⟩ :=
    hplanned.selected a ha (hsame ▸ hselected)
  have hkey := tableNamed_spec hsource
  rw [Prod.mk.injEq] at hkey
  refine List.find?_isSome.mpr ⟨plan, hsub hplan, ?_⟩
  rw [beq_iff_eq, hlineage _ _ _ _ _ _ hfield, hkey.1, hkey.2, haname, hsame]

/-- The saved plans cover all that the worker projects, on both sinks, and what a projected `INSERT`
leaves out of a target table has a value from somewhere else. -/
theorem project_covered (hmappings : validateMappings mappings = .ok ())
    (hlineage : PlansLineage planField)
    (hplans : planMappings planField sourceTables sinkTables mappings = .ok plans)
    (hshows : ShowsCatalog sourceTables t) :
    MysqlSink.validatePlanCoverage (project mappings t).changes plans = .ok () ∧
      PostgresqlSink.validatePlanCoverage (project mappings t).changes plans = .ok () ∧
      ∀ projected ∈ (project mappings t).changes, ∃ sink,
        tableNamed sinkTables (projected.schema, projected.table) = some sink ∧
          ∀ row, projected.after = some row → ∀ column ∈ sink.columns,
            column.canBeLeftOut = true ∨ ∃ shown ∈ row, shown.name = column.name := by
  refine ⟨?_, ?_, fun projected hprojected => ?_⟩
  · refine forM_eq_ok.mpr fun projected hprojected => forM_eq_ok.mpr fun column hcolumn => ?_
    exact if_pos (.inr (columnPlan_project hlineage hplans hshows hprojected hcolumn))
  · refine forM_eq_ok.mpr fun projected hprojected => forM_eq_ok.mpr fun column hcolumn => ?_
    exact if_pos (.inr (columnPlan_project hlineage hplans hshows hprojected hcolumn))
  · obtain ⟨change, hchange, hproject⟩ := List.mem_filterMap.mp hprojected
    obtain ⟨m, hm, rfl⟩ := projectChange_eq_some hproject
    obtain ⟨source, sink, hsource, hsink, planned, -, hplanned⟩ := planned_of_mappingOf hplans hm
    obtain ⟨hmem, hschema, htable⟩ := mappingOf_spec hm
    obtain ⟨hsinkSchema, hsinkTable⟩ := (validateMappings_spec hmappings).2 m hmem
    rw [hsinkSchema, hsinkTable, hschema, htable] at hsink
    refine ⟨sink, hsink, fun row hrow column hcolumn => ?_⟩
    obtain ⟨original, horiginal, rfl⟩ := Option.map_eq_some_iff.mp hrow
    have hshown := (hshows change hchange source hsource).2 original horiginal
    rcases hplanned.left_out column hcolumn with hleft | ⟨a, ha, hsame, hselected⟩
    · exact .inl hleft
    · have hname : column.name ∈ original.map (·.name) :=
        hshown.columns.symm ▸ hsame ▸ List.mem_map_of_mem ha
      obtain ⟨shown, hmem, hshownName⟩ := List.mem_map.mp hname
      exact .inr ⟨shown, mem_projectRow.mpr ⟨hmem, hshownName.symm ▸ hselected⟩, hshownName⟩

end Accepted

section Sample

/-- The table `shop.stock` in the catalog. In the target, the count may be left out. -/
def stockCatalog (columnType : String) (nullable : Bool) : CatalogTable :=
  ⟨"shop", "stock", "InnoDB", [⟨"id", columnType, false, "", none, none⟩,
    ⟨"count", columnType, nullable, "", none, none⟩], ["id"]⟩

/-- Only the key of the table is selected. -/
def stockMapping : TableMapping := ⟨"shop", "stock", "shop", "stock", ["id"], []⟩

/-- Every column of the sample is an `integer` that MySQL stores as it is. -/
def stockConnector (identity : ConnectorIdentity) : ConnectorDescriptor Planner.sampleDigests where
  identity := identity
  sourceTypeMapping column := .ok ⟨identity, column.columnType, .integer true 32, "integer", "1",
    none, none, none, none, none, []⟩
  sourceTypeMappingWithEvidence column build environment :=
    .ok ⟨identity, column.columnType, .integer true 32, "integer", "1", none, none, build,
      environment, none, []⟩
  validatedManifest _ := .ok ⟨Planner.sampleManifest, by rfl⟩

def stockRoute : RoutePlanning Planner.sampleDigests where
  sourceConnector := stockConnector ⟨"postgresql", "15"⟩
  sinkConnector := stockConnector ⟨"mysql", "8.0"⟩
  fingerprint table := table.schema ++ "." ++ table.name
  routeId := "orders"
  configurationRevision := "orders:r1"
  confirmations := []
  sourceBuild := none
  targetBuild := none
  sourceEnvironmentFingerprint := none
  targetProbes := []
  allowUnconfirmed := false

theorem stock_planned : ∃ plans, planMappings stockRoute.planFieldForSink
    [stockCatalog "integer" false] [stockCatalog "int" true] [stockMapping] = .ok plans :=
  exists_of_isOk (by decide +kernel)

theorem stock_shows : ShowsCatalog [stockCatalog "integer" false] stockTransaction := by
  intro change hchange source hsource
  obtain rfl : change = stockChange := by simpa [stockTransaction] using hchange
  obtain rfl : stockCatalog "integer" false = source := Option.some.inj hsource
  have hshows (id : ℕ) (count : Datum) :
      ShowsTable (stockCatalog "integer" false) (stockRow id count) := by
    refine ⟨rfl, ?_, ?_⟩
    · simp [stockRow, stockCatalog]
    · simp [stockRow, stockCatalog]
  constructor
  · rintro row ⟨⟩
    exact hshows _ _
  · rintro row ⟨⟩
    exact hshows _ _

theorem project_valid_sample : (project [stockMapping] stockTransaction).changes = [] ∨
    checkTransaction Mysql.sampleLibrary.toValidationLibrary
      (project [stockMapping] stockTransaction) = .ok () := by
  obtain ⟨plans, hplans⟩ := stock_planned
  exact project_valid hplans stock_shows Mysql.sampleValidated.valid

theorem project_covered_sample : ∃ plans,
    MysqlSink.validatePlanCoverage (project [stockMapping] stockTransaction).changes plans =
        .ok () ∧
      PostgresqlSink.validatePlanCoverage (project [stockMapping] stockTransaction).changes plans =
        .ok () ∧
      ∀ projected ∈ (project [stockMapping] stockTransaction).changes, ∃ sink,
        tableNamed [stockCatalog "int" true] (projected.schema, projected.table) = some sink ∧
          ∀ row, projected.after = some row → ∀ column ∈ sink.columns,
            column.canBeLeftOut = true ∨ ∃ shown ∈ row, shown.name = column.name := by
  obtain ⟨plans, hplans⟩ := stock_planned
  have hmappings : validateMappings [stockMapping] = .ok () := by decide +kernel
  have hlineage := plansLineage_planFieldForSink stockRoute
  exact ⟨plans, project_covered hmappings hlineage hplans stock_shows⟩

end Sample

end DatabaseSync.Worker
