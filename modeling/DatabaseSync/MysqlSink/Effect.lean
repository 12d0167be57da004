import DatabaseSync.MysqlSink.Execute

/-! # The effect of a transaction on MySQL

The placeholders of a rendered statement take exactly its parameters, and the statement read
this way is the one the change asks for. Run after its probe it has exactly the effect of the
change.
-/

namespace DatabaseSync.MysqlSink

open ChangeEvent Checked Relational DatabaseSync.Placeholder

variable {ν : Type} [BEq ν] {server : Server ν} {library : ValueLibrary} {rules : PlanRules}
  {targetVersion : String} {plans : List ColumnConversionPlan}
  {meaning : Option ColumnConversionPlan → ColumnDatum → ν}

/-- A bound parameter denotes the datum it was bound for. -/
def BindsDatums (server : Server ν) (library : ValueLibrary) (rules : PlanRules)
    (targetVersion : String) (plans : List ColumnConversionPlan)
    (meaning : Option ColumnConversionPlan → ColumnDatum → ν) : Prop :=
  ∀ schema table column param x,
    bindDatumWithPlan library rules targetVersion plans schema table column = .ok param →
    server.evaluate (valuePlaceholder targetVersion plans schema table column) param = some x →
    x = columnValue plans meaning schema table column

/-- Text and binary keys are compared as bytes. -/
def comparedAsBinary : Datum → Bool
  | .value (.text ..) | .value (.binary ..) => true
  | _ => false

/-- The condition a key column stands for. -/
def keyCondition (plans : List ColumnConversionPlan)
    (meaning : Option ColumnConversionPlan → ColumnDatum → ν) (schema table : String)
    (column : ColumnDatum) : Condition String (Option ν) :=
  match column.datum with
  | .null => .isNull column.name
  | datum =>
    if comparedAsBinary datum then
      .equalsAsBinary column.name (columnValue plans meaning schema table column)
    else .equals column.name (columnValue plans meaning schema table column)

/-- How the data of a converted change land. -/
def convertedLanding (asBinary : ν → ν) (plans : List ColumnConversionPlan)
    (meaning : Option ColumnConversionPlan → ColumnDatum → ν) : Landing ν where
  value := columnValue plans meaning
  keyEqual schema table column stored :=
    match column.datum with
    | .null => stored.isNone
    | datum =>
      let value := columnValue plans meaning schema table column
      if comparedAsBinary datum then comparesEqual (stored.map asBinary) (value.map asBinary)
      else comparesEqual stored value

/-- The statement of a converted change. -/
def boundStatement (asBinary : ν → ν) (plans : List ColumnConversionPlan)
    (meaning : Option ColumnConversionPlan → ColumnDatum → ν) (change : RowChange) :
    Statement String (Option ν) :=
  change.statement (convertedLanding asBinary plans meaning) (keyCondition plans meaning)

theorem keyCondition_holds {asBinary : ν → ν} {schema table : String} {column : ColumnDatum}
    {row : Row String ν} :
    (keyCondition plans meaning schema table column).holds asBinary row =
      (convertedLanding asBinary plans meaning).keyEqual schema table column
        (row column.name) := by
  unfold keyCondition convertedLanding
  dsimp only
  split
  · simp [Condition.holds]
  · split <;> simp [Condition.holds]

section Rendering

theorem takeParam_consumes (hbind : BindsDatums server library rules targetVersion plans meaning)
    {schema table : String} {column : ColumnDatum} {param : Value}
    (h : bindDatumWithPlan library rules targetVersion plans schema table column = .ok param) :
    Consumes (takeParam server (valuePlaceholder targetVersion plans schema table column)) [param]
      fun x => x = columnValue plans meaning schema table column := by
  intro rest x rest' hrun
  simp only [takeParam, StateT.run, List.cons_append, List.nil_append, Option.map_eq_some_iff,
    Prod.mk.injEq] at hrun
  obtain ⟨x, hx, rfl, rfl⟩ := hrun
  exact ⟨rfl, hbind schema table column param x h hx⟩

theorem keyPredicate_consumes
    (hbind : BindsDatums server library rules targetVersion plans meaning) {schema table : String}
    {column : ColumnDatum} {p : Condition String Placeholder × List Value}
    (h : keyPredicate library rules targetVersion plans schema table column = .ok p) :
    Consumes (p.1.mapM (takeParam server)) p.2
      fun condition => condition = keyCondition plans meaning schema table column := by
  unfold keyPredicate at h
  split at h
  case h_1 | h_2 | h_7 => cases h
  case h_3 hnull =>
    cases h
    exact Consumes.pure (by simp [keyCondition, hnull])
  case h_4 | h_5 | h_6 =>
    simp only [bind_eq_ok, pure_eq, Except.ok.injEq] at h
    obtain ⟨param, hparam, rfl⟩ := h
    apply Consumes.map (takeParam_consumes hbind hparam)
    rintro x rfl
    simp_all [keyCondition, comparedAsBinary]

/-- The key conditions read their own parameters. -/
theorem keyPredicates_consumes
    (hbind : BindsDatums server library rules targetVersion plans meaning) {schema table : String}
    {row : List ColumnDatum} {p : List (Condition String Placeholder) × List Value}
    (h : keyPredicatesWithPlans library rules targetVersion plans schema table row = .ok p) :
    Consumes (p.1.mapM (Condition.mapM (takeParam server))) p.2 fun conditions =>
      conditions = (keyColumns row).map (keyCondition plans meaning schema table) := by
  unfold keyPredicatesWithPlans at h
  split at h
  · cases h
  · simp only [bind_eq_ok, pure_eq, Except.ok.injEq] at h
    obtain ⟨predicates, hpredicates, rfl⟩ := h
    have hkeys := mapM_eq_ok hpredicates
    clear hpredicates
    dsimp only
    generalize keyColumns row = keys at hkeys
    induction hkeys with
    | nil => exact Consumes.pure rfl
    | cons hkey _ ih =>
      rw [List.map_cons, List.mapM_cons, List.flatMap_cons]
      apply Consumes.bind (keyPredicate_consumes hbind hkey)
      rintro condition rfl
      apply Consumes.map ih
      rintro conditions rfl
      rfl

theorem bindDatums_consumes
    (hbind : BindsDatums server library rules targetVersion plans meaning) {schema table : String}
    {columns : List ColumnDatum} {params : List Value}
    (h : columns.mapM (bindDatumWithPlan library rules targetVersion plans schema table) =
      .ok params) :
    List.Forall₂ (fun column param => Consumes
      (takeParam server (valuePlaceholder targetVersion plans schema table column)) [param]
      fun x => x = columnValue plans meaning schema table column) columns params :=
  (mapM_eq_ok h).imp fun _ _ hparam => takeParam_consumes hbind hparam

theorem writeInsert_consumes
    (hbind : BindsDatums server library rules targetVersion plans meaning) {schema table : String}
    {after : List ColumnDatum} {p : Statement String Placeholder × List Value}
    (h : writeInsert library rules targetVersion plans schema table after = .ok p) :
    Consumes (p.1.mapM (takeParam server)) p.2 fun s =>
      s = .insert ((writableColumns after).map (·.name))
        ((writableColumns after).map (columnValue plans meaning schema table)) := by
  unfold writeInsert at h
  split at h
  · cases h
  · simp only [bind_eq_ok, pure_eq, Except.ok.injEq] at h
    obtain ⟨params, hparams, rfl⟩ := h
    exact Consumes.map (Consumes.mapM_map (bindDatums_consumes hbind hparams))
      fun values hvalues => by rw [eq_map_of_forall₂ hvalues]

theorem writeUpdate_consumes
    (hbind : BindsDatums server library rules targetVersion plans meaning) {schema table : String}
    {before after : List ColumnDatum} {p : Statement String Placeholder × List Value}
    (h : writeUpdate library rules targetVersion plans schema table before after = .ok p) :
    Consumes (p.1.mapM (takeParam server)) p.2 fun s =>
      s = .update ((writableColumns after).map fun column =>
          (column.name, columnValue plans meaning schema table column))
        ((keyColumns before).map (keyCondition plans meaning schema table)) := by
  unfold writeUpdate at h
  split at h
  · cases h
  · simp only [bind_eq_ok, pure_eq, Except.ok.injEq, Prod.exists] at h
    obtain ⟨params, hparams, predicates, keyParams, hkeys, rfl⟩ := h
    have hassignments : List.Forall₂ (fun column param => Consumes
        (do return (column.name, ← takeParam server
          (valuePlaceholder targetVersion plans schema table column))) [param]
        fun a => a = (column.name, columnValue plans meaning schema table column))
        (writableColumns after) params :=
      (bindDatums_consumes hbind hparams).imp fun column param hparam =>
        Consumes.map hparam fun x hx => by rw [hx]
    apply Consumes.bind (Consumes.mapM_map
      (w := fun column : ColumnDatum =>
        (column.name, valuePlaceholder targetVersion plans schema table column))
      (f := fun a => do return (a.1, ← takeParam server a.2)) hassignments)
    intro assignments hassignments
    apply Consumes.map (keyPredicates_consumes hbind hkeys)
    rintro conditions rfl
    rw [eq_map_of_forall₂ hassignments]

theorem image_eq_ok {row : Option (List ColumnDatum)} {message label : String}
    {image' : List ColumnDatum} (h : image row message label = .ok image') :
    row = some image' := by
  unfold image at h
  split at h
  · cases h
  · split at h
    · cases h
    · cases h
      rfl

/-- The parameters of a rendered statement are exactly those its placeholders take, and read
with them it is the statement the change asks for. -/
theorem writeChange_consumes
    (hbind : BindsDatums server library rules targetVersion plans meaning) {change : RowChange}
    {p : Statement String Placeholder × List Value}
    (h : writeChangeWithPlans library rules targetVersion plans change = .ok p) :
    Consumes (p.1.mapM (takeParam server)) p.2 fun s =>
      s = boundStatement server.asBinary plans meaning change := by
  unfold writeChangeWithPlans at h
  split at h
  next hop =>
    obtain ⟨after, hafter, h⟩ := bind_eq_ok.mp h
    simpa [boundStatement, RowChange.statement, convertedLanding, writableColumns, hop,
      image_eq_ok hafter] using writeInsert_consumes hbind h
  next hop =>
    obtain ⟨before, hbefore, h⟩ := bind_eq_ok.mp h
    obtain ⟨after, hafter, h⟩ := bind_eq_ok.mp h
    simpa [boundStatement, RowChange.statement, RowChange.keyConditions, convertedLanding,
      writableColumns, hop, image_eq_ok hbefore, image_eq_ok hafter] using
      writeUpdate_consumes hbind h
  next hop =>
    simp only [bind_eq_ok, pure_eq, Except.ok.injEq, Prod.exists] at h
    obtain ⟨before, hbefore, predicates, params, hkeys, rfl⟩ := h
    apply Consumes.map (keyPredicates_consumes hbind hkeys)
    rintro conditions rfl
    simp [boundStatement, RowChange.statement, RowChange.keyConditions, hop,
      image_eq_ok hbefore]

theorem bindParams_eq_some {β : Type} {reading : StateT (List Value) Option β}
    {params : List Value} {good : β → Prop} (h : Consumes reading params good) {bound : β}
    (hbound : bindParams reading params = some bound) : good bound := by
  unfold bindParams at hbound
  split at hbound
  next b hrun =>
    cases hbound
    rw [← List.append_nil params] at hrun
    exact (h [] bound [] hrun).2
  · cases hbound

/-- The probe selects the rows with the key of the before image. -/
theorem renderProbe_bound
    (hbind : BindsDatums server library rules targetVersion plans meaning) {change : RowChange}
    {prepared : PreparedQuery}
    (h : renderProbe library rules targetVersion plans change = .ok (some prepared))
    {q : Query String (Option ν)}
    (hq : bindParams (prepared.query.mapM (takeParam server)) prepared.params = some q) :
    q.conditions = change.keyConditions (keyCondition plans meaning) := by
  unfold renderProbe at h
  split at h
  · cases h
  all_goals
    simp only [prepareQuery, bind_eq_ok, pure_eq, Except.ok.injEq, Option.some.injEq,
      Prod.exists] at h
    obtain ⟨-, ⟨predicates, params, hkeys, rfl⟩, rfl⟩ := h
    have hconsumes : Consumes ((Query.mk none predicates).mapM (takeParam server)) params
        fun q : Query String (Option ν) =>
          q.conditions = change.keyConditions (keyCondition plans meaning) :=
      Consumes.map (keyPredicates_consumes hbind hkeys) fun _ hconditions => hconditions
    exact bindParams_eq_some hconsumes hq

theorem renderProbe_update_delete {change : RowChange} {probe : Option PreparedQuery}
    (hop : change.operation ≠ .insert)
    (h : renderProbe library rules targetVersion plans change = .ok probe) :
    ∃ prepared, probe = some prepared := by
  unfold renderProbe at h
  split at h
  · contradiction
  all_goals
    simp only [bind_eq_ok, pure_eq, Except.ok.injEq] at h
    obtain ⟨prepared, -, rfl⟩ := h
    exact ⟨prepared, rfl⟩

end Rendering

section Effect

theorem checkProbe_ok {table : Table String ν} {probe : PreparedQuery}
    (h : checkProbe server table (some probe) = .ok ()) :
    ∃ q, bindParams (probe.query.mapM (takeParam server)) probe.params = some q ∧
      (table.selected server.asBinary q.conditions).length = 1 := by
  simp only [checkProbe, bind_eq_ok, throw_eq, pure_eq] at h
  obtain ⟨rows, hrows, h⟩ := h
  unfold execQuery at hrows
  split at hrows
  · cases hrows
  next q hq =>
    cases hrows
    refine ⟨q, hq, Table.runQuery_length_eq_one.mp ?_⟩
    by_contra hne
    simp [hne] at h

theorem execDrop_ok {table table' : Table String ν} {statement : PlannedStatement} {affected : ℕ}
    (h : execDrop server table statement = .ok (table', affected)) :
    ∃ s, bindParams (statement.statement.mapM (takeParam server)) statement.params = some s ∧
      table.run server.asBinary s = some table' := by
  unfold execDrop at h
  split at h
  · cases h
  next s hs =>
    split at h
    · cases h
    next hrun =>
      cases h
      exact ⟨s, hs, hrun⟩

/-- A statement that is executed without an error has exactly the effect of its change. -/
theorem executeStatement_effect
    (hbind : BindsDatums server library rules targetVersion plans meaning)
    {change : RowChange} {statement : PlannedStatement} {content content' : Content ν}
    (hplan : planChange library rules targetVersion plans change = .ok statement)
    (hrun : executeStatement server content statement = .ok content') :
    RowEffect (convertedLanding server.asBinary plans meaning) change content content' := by
  simp only [planChange, bind_eq_ok, pure_eq, Except.ok.injEq, Prod.exists] at hplan
  obtain ⟨-, -, written, params, hwritten, probe, hprobe, verification, -, rfl⟩ := hplan
  simp only [executeStatement, throw_eq, pure_eq, error_bind, guard_eq_ok] at hrun
  obtain ⟨-, hrun⟩ := hrun
  split at hrun
  · cases hrun
  next table htable =>
    simp only [bind_eq_ok, Except.ok.injEq, Prod.exists, guard_eq_ok] at hrun
    obtain ⟨⟨⟩, hfetch, table', affected, hexecute, -, -, -, rfl⟩ := hrun
    obtain ⟨s, hs, htable'⟩ := execDrop_ok hexecute
    rw [bindParams_eq_some (writeChange_consumes hbind hwritten) hs] at htable'
    have hone : change.operation ≠ .insert →
        (table.selected server.asBinary
          (change.keyConditions (keyCondition plans meaning))).length = 1 := by
      intro hop
      obtain ⟨prepared, rfl⟩ := renderProbe_update_delete hop hprobe
      obtain ⟨q, hq, hselected⟩ := checkProbe_ok hfetch
      rwa [renderProbe_bound hbind hprobe hq] at hselected
    obtain ⟨hschema, hrows⟩ := run_statement (fun _ _ => keyCondition_holds) htable' hone
    exact ⟨table, table', htable, rfl, hschema, hrows⟩

/-- The statements of a rendered transaction are those of its converted changes. -/
theorem sqlWithPlans_statements {computedDigest : ColumnConversionPlan → String}
    {validated : ValidatedTransaction library.toValidationLibrary}
    {plan : SqlTransaction PlannedStatement}
    (h : sqlWithPlans library rules targetVersion plans computedDigest validated = .ok plan) :
    ∃ converted, validated.transaction.changes.mapM (convertChange rules plans) = .ok converted ∧
      converted.mapM (planChange library rules targetVersion plans) = .ok plan.statements := by
  simp only [sqlWithPlans, bind_eq_ok] at h
  obtain ⟨-, -, -, -, converted, hconvert, revalidated, hvalidate, h⟩ := h
  obtain ⟨changes, hchanges, rfl⟩ := convertTransactionWithPlans_eq_ok (mapError_eq_ok.mp hconvert)
  rw [mapError_eq_ok] at hvalidate
  rw [plannedSql, validate_eq_ok hvalidate] at h
  simp only [bind_eq_ok, pure_eq, Except.ok.injEq] at h
  obtain ⟨statements, hstatements, rfl⟩ := h
  exact ⟨changes, hchanges, hstatements⟩

/-- A transaction that is executed without an error has exactly the effects of its changes, in
their order. -/
theorem executeStatements_effects
    (hbind : BindsDatums server library rules targetVersion plans meaning)
    {computedDigest : ColumnConversionPlan → String}
    {validated : ValidatedTransaction library.toValidationLibrary}
    {plan : SqlTransaction PlannedStatement}
    {content content' : Content ν}
    (hplan : sqlWithPlans library rules targetVersion plans computedDigest validated = .ok plan)
    (hrun : executeStatements server content plan = .ok content') :
    RowEffects ((convertedLanding server.asBinary plans meaning).afterConversion rules plans)
      validated.transaction.changes content content' := by
  obtain ⟨converted, hconvert, hstatements⟩ := sqlWithPlans_statements hplan
  have hrendered : List.Forall₂ (fun change statement => ∃ converted,
      convertChange rules plans change = .ok converted ∧
        planChange library rules targetVersion plans converted = .ok statement)
      validated.transaction.changes plan.statements :=
    forall₂_comp (mapM_eq_ok hconvert) (mapM_eq_ok hstatements)
  simp only [executeStatements, bind_eq_ok] at hrun
  obtain ⟨-, -, hrun⟩ := hrun
  refine RowEffects.of_foldlM _ ?_ hrendered hrun
  rintro change statement content content' ⟨converted, hconverted, hplanned⟩ hstep
  exact RowEffect.of_converted hconverted (executeStatement_effect hbind hplanned hstep)

end Effect

end DatabaseSync.MysqlSink
