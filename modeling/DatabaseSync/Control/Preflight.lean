import DatabaseSync.Control.Store
import DatabaseSync.Library.Sorting
import DatabaseSync.Library.Text
import Mathlib.Data.List.Dedup

/-! # The selection of a task

The tables and columns that a task selects, as they are checked against the catalogs of the two
databases before the task is stored. Planning a single field is a parameter.
-/

namespace DatabaseSync.Control

open ChangeEvent Checked Keyset Text

inductive PreflightError
  | invalid (message : String)
  | validation (message : String)
deriving DecidableEq, Repr

structure CatalogColumn where
  name : String
  columnType : String
  nullable : Bool
  extra : String
  collation : Option String
  defaultValue : Option String
deriving DecidableEq, Repr

structure CatalogTable where
  schema : String
  name : String
  engine : String
  columns : List CatalogColumn
  primaryKey : List String
deriving DecidableEq, Repr

namespace CatalogTable

variable (table : CatalogTable)

def unavailableReason : Option String :=
  if !eqIgnoreAsciiCase table.engine "InnoDB" && !eqIgnoreAsciiCase table.engine "PostgreSQL" then
    some "仅支持 InnoDB 或 PostgreSQL 普通表"
  else if table.primaryKey.isEmpty then some "需要主键"
  else if table.columns.isEmpty then some "无法读取列定义"
  else none

/-- A failure that names the table. -/
def fail (reason : String) : PreflightError :=
  .validation (table.schema ++ "." ++ table.name ++ "：" ++ reason)

end CatalogTable

/-! ## The mappings of a task -/

/-- The mapping selects the column; without a selection it selects all of them. -/
def TableMapping.selects (m : TableMapping) (column : String) : Bool :=
  m.columns.isEmpty || m.columns.contains column

def validName (name : String) : Bool :=
  !name.isEmpty && name.length ≤ 64 && !name.toList.any isControl

/-- The columns of a mapping are names, none of them twice. -/
def validateColumns : List String → List String → Except PreflightError Unit
  | [], _ => .ok ()
  | column :: columns, seen => do
    if !validName column ∨ column ∈ seen then throw (.invalid "字段名称无效或重复")
    validateColumns columns (column :: seen)

def systemSchemas : List String :=
  ["mysql", "sys", "information_schema", "performance_schema", "cdc"]

def validateMapping (sources sinks : List (String × String)) (m : TableMapping) :
    Except PreflightError Unit := do
  if ¬ [m.sourceSchema, m.sourceTable, m.sinkSchema, m.sinkTable].all validName then
    throw (.invalid "库表名称无效")
  if 4096 < m.columns.length then throw (.invalid "单表选择字段过多")
  validateColumns m.columns []
  if toAsciiLowercase m.sourceSchema ∈ systemSchemas then throw (.invalid "不能同步系统库")
  if m.sourceSchema ≠ m.sinkSchema ∨ m.sourceTable ≠ m.sinkTable then
    throw (.invalid "当前写入模块仅支持同库同名表映射")
  if (m.sourceSchema, m.sourceTable) ∈ sources ∨ (m.sinkSchema, m.sinkTable) ∈ sinks then
    throw (.invalid "库表映射重复")

/-- The loop over the mappings, with the tables before them. -/
def validateEach : List (String × String) → List (String × String) → List TableMapping →
    Except PreflightError Unit
  | _, _, [] => .ok ()
  | sources, sinks, m :: mappings => do
    validateMapping sources sinks m
    validateEach ((m.sourceSchema, m.sourceTable) :: sources) ((m.sinkSchema, m.sinkTable) :: sinks)
      mappings

/-- The part of `validate_input` about the mappings. -/
def validateMappings (mappings : List TableMapping) : Except PreflightError Unit := do
  if mappings.isEmpty ∨ 100 < mappings.length then throw (.invalid "请选择 1–100 张表")
  validateEach [] [] mappings

/-! ## Planning the tables -/

section Planning

/-- What is left out of an `INSERT` needs a value from somewhere else. -/
def CatalogColumn.canBeLeftOut (column : CatalogColumn) : Bool :=
  let generated := toAsciiLowercase column.extra
  column.nullable || column.defaultValue.isSome || containsText generated "auto_increment" ||
    containsText generated "generated"

/-- What both ways of planning a pair of tables check first. -/
def checkPair (source sink : CatalogTable) : Except PreflightError Unit := do
  if let some reason := source.unavailableReason then throw (source.fail reason)
  if let some reason := sink.unavailableReason then throw (source.fail ("目的表" ++ reason))
  if source.primaryKey ≠ sink.primaryKey then throw (source.fail "源表与目的表主键不一致")

/-- Plan one field of two tables under the options for its column. -/
abbrev FieldPlanner :=
  CatalogTable → CatalogTable → CatalogColumn → CatalogColumn → List (String × String) →
    Except PreflightError ColumnConversionPlan

variable (planField : FieldPlanner)

def planPair (source sink : CatalogTable)
    (conversionOptions : List (String × List (String × String))) :
    Except PreflightError (List ColumnConversionPlan) := do
  checkPair source sink
  if source.columns.length ≠ sink.columns.length then
    throw (source.fail "源表与目的表列数不一致")
  (source.columns.zip sink.columns).mapM fun (a, b) => do
    if a.name ≠ b.name then
      throw (source.fail ("列 " ++ a.name ++ " 的名称、类型、空值、排序规则或生成属性不一致"))
    planField source sink a b ((conversionOptions.lookup a.name).getD [])

/-- Plan one selected column. -/
def planSelected (source sink : CatalogTable)
    (conversionOptions : List (String × List (String × String))) (name : String) :
    Except PreflightError ColumnConversionPlan := do
  let some a := source.columns.find? fun column => column.name = name |
    throw (source.fail ("源字段 " ++ name ++ " 不存在"))
  let some b := sink.columns.find? fun column => column.name = name |
    throw (source.fail ("目的字段 " ++ name ++ " 不存在"))
  planField source sink a b ((conversionOptions.lookup name).getD [])

def planSelectedPair (source sink : CatalogTable) (columns : List String)
    (conversionOptions : List (String × List (String × String))) :
    Except PreflightError (List ColumnConversionPlan) :=
  if columns.isEmpty then planPair planField source sink conversionOptions
  else do
    checkPair source sink
    source.primaryKey.forM fun key =>
      if key ∈ columns then .ok () else .error (source.fail ("字段选择必须包含主键 " ++ key))
    let plans ← (sortByKey id columns.dedup).mapM
      (planSelected planField source sink conversionOptions)
    sink.columns.forM fun column =>
      if column.name ∈ columns ∨ column.canBeLeftOut then .ok ()
      else .error (source.fail
        ("目的字段 " ++ column.name ++ " 未选择且没有默认值，INSERT 将无法执行"))
    return plans

/-- The tables that were read, by schema and name. -/
def tableNamed (tables : List CatalogTable) (name : String × String) : Option CatalogTable :=
  tables.reverse.find? fun table => (table.schema, table.name) = name

/-- The plans of one mapping. -/
def planMapping (sourceTables sinkTables : List CatalogTable) (m : TableMapping) :
    Except PreflightError (List ColumnConversionPlan) := do
  let some a := tableNamed sourceTables (m.sourceSchema, m.sourceTable) |
    throw (.validation ("源表 " ++ m.sourceSchema ++ "." ++ m.sourceTable ++ " 不存在或无权访问"))
  let some b := tableNamed sinkTables (m.sinkSchema, m.sinkTable) |
    throw (.validation
      ("目的表 " ++ m.sinkSchema ++ "." ++ m.sinkTable ++ " 不存在或无权访问；请先建表"))
  planSelectedPair planField a b m.columns m.conversionOptions

/-- The plans of a task, in the order of its mappings. -/
def planMappings (sourceTables sinkTables : List CatalogTable) (mappings : List TableMapping) :
    Except PreflightError (List ColumnConversionPlan) :=
  return (← mappings.mapM (planMapping planField sourceTables sinkTables)).flatten

end Planning

/-! ## What an accepted task has selected -/

section Spec

variable {planField : FieldPlanner} {source sink : CatalogTable} {columns : List String}
  {conversionOptions : List (String × List (String × String))} {plans : List ColumnConversionPlan}
  {mappings : List TableMapping} {m : TableMapping} {sources sinks : List (String × String)}

theorem validateMapping_spec (h : validateMapping sources sinks m = .ok ()) :
    m.sinkSchema = m.sourceSchema ∧ m.sinkTable = m.sourceTable ∧
      (m.sourceSchema, m.sourceTable) ∉ sources := by
  unfold validateMapping at h
  simp only [throw_eq, error_bind, guard_eq_ok, bind_eq_ok, pure_eq] at h
  obtain ⟨-, -, _, -, -, hsame, hnew, -⟩ := h
  rw [not_or, ne_eq, ne_eq, not_not, not_not] at hsame
  exact ⟨hsame.1.symm, hsame.2.symm, fun hmem => hnew (.inl hmem)⟩

theorem validateEach_spec (h : validateEach sources sinks mappings = .ok ()) :
    (mappings.map fun m => (m.sourceSchema, m.sourceTable)).Nodup ∧
      ∀ m ∈ mappings, m.sinkSchema = m.sourceSchema ∧ m.sinkTable = m.sourceTable ∧
        (m.sourceSchema, m.sourceTable) ∉ sources := by
  induction mappings generalizing sources sinks with
  | nil => exact ⟨List.nodup_nil, nofun⟩
  | cons m mappings ih =>
    obtain ⟨_, hm, hrest⟩ := bind_eq_ok.mp h
    obtain ⟨hnodup, hall⟩ := ih hrest
    constructor
    · rw [List.map_cons, List.nodup_cons]
      refine ⟨fun hmem => ?_, hnodup⟩
      obtain ⟨m', hm', hsame⟩ := List.mem_map.mp hmem
      exact (hall m' hm').2.2 (hsame ▸ List.mem_cons_self)
    · rintro m' (_ | ⟨_, hm'⟩)
      · exact validateMapping_spec hm
      · obtain ⟨hschema, htable, hnew⟩ := hall m' hm'
        exact ⟨hschema, htable, fun hmem => hnew (List.mem_cons_of_mem _ hmem)⟩

/-- The tables of a task are distinct, and each is written under the name that it has. -/
theorem validateMappings_spec (h : validateMappings mappings = .ok ()) :
    (mappings.map fun m => (m.sourceSchema, m.sourceTable)).Nodup ∧
      ∀ m ∈ mappings, m.sinkSchema = m.sourceSchema ∧ m.sinkTable = m.sourceTable := by
  unfold validateMappings at h
  simp only [throw_eq, error_bind, guard_eq_ok] at h
  obtain ⟨hnodup, hall⟩ := validateEach_spec h.2
  exact ⟨hnodup, fun m hm => ⟨(hall m hm).1, (hall m hm).2.1⟩⟩

theorem tableNamed_spec {tables : List CatalogTable} {name : String × String}
    (h : tableNamed tables name = some source) : (source.schema, source.name) = name := by
  simpa using List.find?_some h

theorem checkPair_spec (h : checkPair source sink = .ok ()) :
    source.primaryKey ≠ [] ∧ source.primaryKey = sink.primaryKey := by
  unfold checkPair at h
  cases hsource : source.unavailableReason with
  | some reason => simp [hsource] at h
  | none =>
    cases hsink : sink.unavailableReason with
    | some reason => simp [hsource, hsink] at h
    | none =>
      simp only [hsource, hsink, throw_eq, pure_eq, guard_eq_ok, ne_eq, not_not, and_true] at h
      refine ⟨fun hnil => ?_, h⟩
      unfold CatalogTable.unavailableReason at hsource
      rw [hnil] at hsource
      split at hsource
      · cases hsource
      · cases hsource

/-- What holds of a pair of tables that was planned. -/
structure Planned (planField : FieldPlanner) (source sink : CatalogTable) (m : TableMapping)
    (plans : List ColumnConversionPlan) : Prop where
  key_nonempty : source.primaryKey ≠ []
  same_key : source.primaryKey = sink.primaryKey
  selects_key : ∀ key ∈ source.primaryKey, m.selects key = true
  selected : ∀ column ∈ source.columns, m.selects column.name = true →
    ∃ a ∈ source.columns, ∃ b ∈ sink.columns, a.name = column.name ∧ b.name = column.name ∧
      ∃ options, ∃ plan ∈ plans, planField source sink a b options = .ok plan
  left_out : ∀ column ∈ sink.columns, column.canBeLeftOut = true ∨
    ∃ a ∈ source.columns, a.name = column.name ∧ m.selects column.name = true

theorem mem_zip {α β : Type} {as : List α} {bs : List β} {i : ℕ} (h : as.length = bs.length)
    (hi : i < as.length) : (as[i], bs[i]) ∈ as.zip bs := by
  refine List.mem_iff_getElem.mpr ⟨i, ?_, List.getElem_zip⟩
  rw [List.length_zip, ← h, min_self]
  exact hi

theorem planPair_spec (h : planPair planField source sink conversionOptions = .ok plans)
    (hcolumns : m.columns = []) : Planned planField source sink m plans := by
  have hall (name : String) : m.selects name = true := by simp [TableMapping.selects, hcolumns]
  unfold planPair at h
  simp only [throw_eq, error_bind, guard_eq_ok, bind_eq_ok, ne_eq, not_not] at h
  obtain ⟨_, hcheck, hlength, hplans⟩ := h
  obtain ⟨hnonempty, hkey⟩ := checkPair_spec hcheck
  have hpair : ∀ p ∈ source.columns.zip sink.columns, p.1.name = p.2.name ∧ ∃ options,
      ∃ plan ∈ plans, planField source sink p.1 p.2 options = .ok plan := by
    intro p hp
    obtain ⟨plan, hplan, hfield⟩ := forall₂_mem_left (mapM_eq_ok hplans) hp
    simp only [guard_eq_ok, not_not] at hfield
    exact ⟨hfield.1, _, plan, hplan, hfield.2⟩
  refine ⟨hnonempty, hkey, fun key _ => hall key, ?_, ?_⟩
  · intro column hcolumn _
    obtain ⟨i, hi, rfl⟩ := List.mem_iff_getElem.mp hcolumn
    obtain ⟨hname, hplanned⟩ := hpair _ (mem_zip hlength hi)
    exact ⟨_, hcolumn, _, List.getElem_mem _, rfl, hname.symm, hplanned⟩
  · intro column hcolumn
    obtain ⟨i, hi, rfl⟩ := List.mem_iff_getElem.mp hcolumn
    obtain ⟨hname, -⟩ := hpair _ (mem_zip hlength (hlength ▸ hi))
    exact .inr ⟨_, List.getElem_mem _, hname, hall _⟩

theorem planSelected_spec {name : String} {plan : ColumnConversionPlan}
    (h : planSelected planField source sink conversionOptions name = .ok plan) :
    ∃ a ∈ source.columns, ∃ b ∈ sink.columns, a.name = name ∧ b.name = name ∧
      ∃ options, planField source sink a b options = .ok plan := by
  unfold planSelected at h
  cases ha : source.columns.find? fun column => column.name = name with
  | none => simp [ha] at h
  | some a =>
    cases hb : sink.columns.find? fun column => column.name = name with
    | none => simp [ha, hb] at h
    | some b =>
      rw [ha, hb] at h
      have haname := List.find?_some ha
      have hbname := List.find?_some hb
      exact ⟨a, List.mem_of_find?_eq_some ha, b, List.mem_of_find?_eq_some hb,
        of_decide_eq_true haname, of_decide_eq_true hbname, _, h⟩

theorem planSelectedPair_spec
    (h : planSelectedPair planField source sink m.columns conversionOptions = .ok plans) :
    Planned planField source sink m plans := by
  unfold planSelectedPair at h
  split at h
  next hcolumns => exact planPair_spec h (List.isEmpty_iff.mp hcolumns)
  next hcolumns =>
    have hselects (name : String) : m.selects name = true ↔ name ∈ m.columns := by
      simp [TableMapping.selects, hcolumns]
    simp only [bind_eq_ok, forM_eq_ok, pure_eq, Except.ok.injEq] at h
    obtain ⟨_, hcheck, _, hkeys, planned, hplans, _, hrest, rfl⟩ := h
    obtain ⟨hnonempty, hkey⟩ := checkPair_spec hcheck
    have hplanned {name : String} (hname : name ∈ m.columns) : ∃ a ∈ source.columns,
        ∃ b ∈ sink.columns, a.name = name ∧ b.name = name ∧
          ∃ options, ∃ plan ∈ planned, planField source sink a b options = .ok plan := by
      have hmem : name ∈ sortByKey id m.columns.dedup :=
        (sortByKey_perm _).mem_iff.mpr (List.mem_dedup.mpr hname)
      obtain ⟨plan, hplan, hfield⟩ := forall₂_mem_left (mapM_eq_ok hplans) hmem
      obtain ⟨a, ha, b, hb, haname, hbname, options, hplanned⟩ := planSelected_spec hfield
      exact ⟨a, ha, b, hb, haname, hbname, options, plan, hplan, hplanned⟩
    refine ⟨hnonempty, hkey, fun key hmem => ?_, fun column _ hselected => ?_, ?_⟩
    · have hselected := hkeys key hmem
      rw [hselects]
      by_contra hnot
      rw [if_neg hnot] at hselected
      cases hselected
    · exact hplanned ((hselects _).mp hselected)
    · intro column hcolumn
      have hchecked := hrest column hcolumn
      by_cases hname : column.name ∈ m.columns
      · obtain ⟨a, ha, -, -, haname, -⟩ := hplanned hname
        exact .inr ⟨a, ha, haname, (hselects _).mpr hname⟩
      · refine .inl ?_
        by_contra hnot
        rw [if_neg (not_or.mpr ⟨hname, hnot⟩)] at hchecked
        cases hchecked

/-- Every mapping of an accepted task has been planned on tables of its name. -/
theorem planMappings_spec {sourceTables sinkTables : List CatalogTable}
    (h : planMappings planField sourceTables sinkTables mappings = .ok plans) (hm : m ∈ mappings) :
    ∃ source sink, tableNamed sourceTables (m.sourceSchema, m.sourceTable) = some source ∧
      tableNamed sinkTables (m.sinkSchema, m.sinkTable) = some sink ∧
      ∃ planned, planned ⊆ plans ∧ Planned planField source sink m planned := by
  simp only [planMappings, bind_eq_ok, pure_eq, Except.ok.injEq] at h
  obtain ⟨each, heach, rfl⟩ := h
  obtain ⟨planned, hplanned, hmapping⟩ := forall₂_mem_left (mapM_eq_ok heach) hm
  unfold planMapping at hmapping
  cases hsource : tableNamed sourceTables (m.sourceSchema, m.sourceTable) with
  | none => simp [hsource] at hmapping
  | some source =>
    cases hsink : tableNamed sinkTables (m.sinkSchema, m.sinkTable) with
    | none => simp [hsource, hsink] at hmapping
    | some sink =>
      rw [hsource, hsink] at hmapping
      refine ⟨source, sink, rfl, rfl, planned, fun plan hplan => ?_,
        planSelectedPair_spec hmapping⟩
      exact List.mem_flatten_of_mem hplanned hplan

end Spec

end DatabaseSync.Control
