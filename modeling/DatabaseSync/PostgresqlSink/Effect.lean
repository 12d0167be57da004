import DatabaseSync.PostgresqlSink.Execute

/-! # The effect of a transaction on PostgreSQL

A rendered statement, read with its own parameters, is the statement the change asks for. Run
after its probe it has exactly the effect of the change.
-/

namespace DatabaseSync.PostgresqlSink

open ChangeEvent Checked Relational Placeholder

variable {ν : Type} [BEq ν] {server : Server ν} {library : ValueLibrary} {rules : PlanRules}
  {plans : List ColumnConversionPlan} {meaning : Option ColumnConversionPlan → ColumnDatum → ν}

/-- A bound parameter denotes the datum it was bound for. -/
def BindsDatums (server : Server ν) (library : ValueLibrary) (rules : PlanRules)
    (meaning : Option ColumnConversionPlan → ColumnDatum → ν) : Prop :=
  ∀ column plan parameter targetType expression v,
    datumParameter library rules column plan = .ok (some (parameter, targetType)) →
    parameterExpression parameter targetType = .ok expression →
    server.evaluate expression parameter = some v → v = meaning plan column

/-- The condition a key column stands for. -/
def keyCondition (plans : List ColumnConversionPlan)
    (meaning : Option ColumnConversionPlan → ColumnDatum → ν) (schema table : String)
    (column : ColumnDatum) : Condition String (Option ν) :=
  match column.datum with
  | .null => .isNull column.name
  | _ => .equals column.name (columnValue plans meaning schema table column)

/-- How the data of a converted change land. -/
def convertedLanding (plans : List ColumnConversionPlan)
    (meaning : Option ColumnConversionPlan → ColumnDatum → ν) : Landing ν where
  value := columnValue plans meaning
  keyEqual schema table column stored :=
    match column.datum with
    | .null => stored.isNone
    | _ => comparesEqual stored (columnValue plans meaning schema table column)

/-- The statement of a converted change. -/
def boundStatement (plans : List ColumnConversionPlan)
    (meaning : Option ColumnConversionPlan → ColumnDatum → ν) (change : RowChange) :
    Statement String (Option ν) :=
  change.statement (convertedLanding plans meaning) (keyCondition plans meaning)

theorem keyCondition_holds {schema table : String} {column : ColumnDatum}
    {row : Row String ν} :
    (keyCondition plans meaning schema table column).holds id row =
      (convertedLanding plans meaning).keyEqual schema table column (row column.name) := by
  unfold keyCondition convertedLanding
  dsimp only
  split <;> simp [Condition.holds]

/-- A rendered expression denotes a value under the final list of parameters. -/
def Denotes (server : Server ν) (value : Option ν) (expression : Expression)
    (parameters : List Parameter) : Prop :=
  ∀ x, expression.evaluate server parameters = some x → x = value

section Rendering

theorem datumParameter_none {column : ColumnDatum} {plan : Option ColumnConversionPlan}
    (h : datumParameter library rules column plan = .ok none) : column.datum = .null := by
  unfold datumParameter at h
  split at h
  · split at h <;> simp [bind_eq_ok] at h
  · simp [bind_eq_ok] at h
  · split at h <;> simp [bind_eq_ok] at h
  · cases h
  · assumption
  · cases h
  · cases h

theorem datumParameter_some {column : ColumnDatum} {plan : Option ColumnConversionPlan}
    {p : Parameter × String} (h : datumParameter library rules column plan = .ok (some p)) :
    column.datum ≠ .null := by
  intro hnull
  simp [datumParameter, hnull] at h

/-- The pushed parameter stays where its placeholder points. -/
theorem pushParameter_appends {parameter : Parameter} {targetType : String}
    {value : Option ν}
    (h : ∀ expression v, parameterExpression parameter targetType = .ok expression →
      server.evaluate expression parameter = some v → some v = value) :
    Appends (pushParameter parameter targetType) (Denotes server value) := by
  unfold pushParameter
  apply Appends.lift
  intro expression hexpression s e s' hrun
  cases hrun
  refine ⟨List.prefix_append s [parameter], ?_⟩
  intro t ht x hx
  have hget : t[s.length]? = some parameter := by
    obtain ⟨tail, rfl⟩ := ht
    simp
  simp only [Expression.evaluate, Nat.add_eq_zero_iff, one_ne_zero, and_false, if_false,
    Nat.add_sub_cancel, hget, Option.pure_def, Option.bind_eq_bind, Option.bind_some] at hx
  obtain ⟨v, hv, hx⟩ := Option.bind_eq_some_iff.mp hx
  cases hx
  exact h expression v hexpression hv

theorem datumWithPlan_appends (hbind : BindsDatums server library rules meaning)
    (column : ColumnDatum) (plan : Option ColumnConversionPlan) :
    Appends (datumWithPlan library rules column plan)
      (Denotes server (datumValue meaning plan column)) := by
  unfold datumWithPlan
  apply Appends.lift
  intro pushed hpushed
  cases pushed with
  | none =>
    apply Appends.pure
    intro t x hx
    cases hx
    simp [datumValue, datumParameter_none hpushed]
  | some p =>
    obtain ⟨parameter, targetType⟩ := p
    apply pushParameter_appends
    intro expression v hexpression hv
    have hvalue : datumValue meaning plan column = some (meaning plan column) := by
      have hnull := datumParameter_some hpushed
      unfold datumValue
      split
      · contradiction
      · rfl
    rw [hvalue, hbind column plan parameter targetType expression v hpushed hexpression hv]

theorem changeDatum_appends (hbind : BindsDatums server library rules meaning)
    (schema table : String) (column : ColumnDatum) :
    Appends (changeDatum library rules plans schema table column)
      (Denotes server (columnValue plans meaning schema table column)) :=
  datumWithPlan_appends hbind column _

theorem keyPredicate_appends (hbind : BindsDatums server library rules meaning)
    (schema table : String) (column : ColumnDatum) :
    Appends (keyPredicate library rules plans schema table column) fun condition parameters =>
      ∀ c, condition.mapM (Expression.evaluate server parameters) = some c →
        c = keyCondition plans meaning schema table column := by
  unfold keyPredicate
  split
  case h_1 hnull =>
    apply Appends.pure
    intro t c hc
    cases hc
    simp [keyCondition, hnull]
  case h_4 hvalue =>
    apply Appends.bind (changeDatum_appends hbind schema table column)
    intro expression
    apply Appends.pure
    intro t hdenotes c hc
    obtain ⟨x, hx, hc⟩ := Option.bind_eq_some_iff.mp hc
    cases hc
    simp [keyCondition, hvalue, hdenotes x hx]
  all_goals exact Appends.throw

theorem keyPredicates_appends (hbind : BindsDatums server library rules meaning)
    (schema table : String) (row : List ColumnDatum) :
    Appends (keyPredicates library rules plans schema table row) fun conditions parameters =>
      ∀ cs, conditions.mapM (Condition.mapM (Expression.evaluate server parameters)) = some cs →
        cs = (keyColumns row).map (keyCondition plans meaning schema table) := by
  unfold keyPredicates
  split
  · exact Appends.throw
  · refine (Appends.mapM fun column _ => keyPredicate_appends hbind schema table column).mono ?_
    intro conditions parameters h cs hcs
    exact eq_map_of_forall₂ (forall₂_mapM h hcs)

theorem renderInsert_appends (hbind : BindsDatums server library rules meaning)
    (schema table : String) (after : List ColumnDatum) :
    Appends (renderInsert library rules plans schema table after) fun statement parameters =>
      ∀ s, statement.mapM (Expression.evaluate server parameters) = some s →
        s = .insert ((writableColumns after).map (·.name))
          ((writableColumns after).map (columnValue plans meaning schema table)) := by
  unfold renderInsert
  split
  · exact Appends.throw
  · apply Appends.bind (Appends.mapM fun column _ => changeDatum_appends hbind schema table column)
    intro values
    apply Appends.pure
    intro t hvalues s hs
    obtain ⟨xs, hxs, hs⟩ := Option.bind_eq_some_iff.mp hs
    cases hs
    rw [eq_map_of_forall₂ (forall₂_mapM hvalues hxs)]

theorem renderUpdate_appends (hbind : BindsDatums server library rules meaning)
    (schema table : String) (before after : List ColumnDatum) :
    Appends (renderUpdate library rules plans schema table before after)
      fun statement parameters =>
        ∀ s, statement.mapM (Expression.evaluate server parameters) = some s →
          s = .update ((writableColumns after).map fun column =>
              (column.name, columnValue plans meaning schema table column))
            ((keyColumns before).map (keyCondition plans meaning schema table)) := by
  unfold renderUpdate
  split
  · exact Appends.throw
  · have hassign : ∀ column, Appends
        (do return (column.name, ← changeDatum library rules plans schema table column) :
          StatementBuilder (String × Expression))
        fun a parameters => ∀ y, (do return (a.1, ← a.2.evaluate server parameters) :
            Option (String × Option ν)) = some y →
          y = (column.name, columnValue plans meaning schema table column) := by
      intro column
      apply Appends.bind (changeDatum_appends hbind schema table column)
      intro expression
      apply Appends.pure
      intro t hdenotes y hy
      obtain ⟨x, hx, hy⟩ := Option.bind_eq_some_iff.mp hy
      cases hy
      rw [hdenotes x hx]
    apply Appends.bind (Appends.mapM fun column _ => hassign column)
    intro assignments
    apply Appends.bind (keyPredicates_appends hbind schema table before)
    intro conditions
    apply Appends.pure
    intro t hconditions hassignments s hs
    obtain ⟨as, has, hs⟩ := Option.bind_eq_some_iff.mp hs
    obtain ⟨cs, hcs, hs⟩ := Option.bind_eq_some_iff.mp hs
    cases hs
    rw [eq_map_of_forall₂ (forall₂_mapM hassignments has), hconditions cs hcs]

theorem renderDelete_appends (hbind : BindsDatums server library rules meaning)
    (schema table : String) (before : List ColumnDatum) :
    Appends (renderDelete library rules plans schema table before) fun statement parameters =>
      ∀ s, statement.mapM (Expression.evaluate server parameters) = some s →
        s = .delete ((keyColumns before).map (keyCondition plans meaning schema table)) := by
  unfold renderDelete
  apply Appends.bind (keyPredicates_appends hbind schema table before)
  intro conditions
  apply Appends.pure
  intro t hconditions s hs
  obtain ⟨cs, hcs, hs⟩ := Option.bind_eq_some_iff.mp hs
  cases hs
  rw [hconditions cs hcs]

theorem image_eq_ok {row : Option (List ColumnDatum)} {message : String}
    {image' : List ColumnDatum} : image row message = .ok image' ↔ row = some image' := by
  cases row <;> simp [image]

/-- A rendered statement, read with its parameters, is the statement the change asks for. -/
theorem changeStatement_appends (hbind : BindsDatums server library rules meaning)
    (change : RowChange) :
    Appends (changeStatement library rules plans change) fun statement parameters =>
      ∀ s, statement.mapM (Expression.evaluate server parameters) = some s →
        s = boundStatement plans meaning change := by
  unfold changeStatement
  split
  next hop =>
    apply Appends.lift
    intro after hafter
    rw [image_eq_ok] at hafter
    simpa [boundStatement, RowChange.statement, convertedLanding, writableColumns,
      hop, hafter] using
      renderInsert_appends hbind change.schema change.table after
  next hop =>
    apply Appends.lift
    intro before hbefore
    apply Appends.lift
    intro after hafter
    rw [image_eq_ok] at hbefore hafter
    simpa [boundStatement, RowChange.statement, RowChange.keyConditions, convertedLanding,
      writableColumns, hop, hbefore, hafter] using
        renderUpdate_appends hbind change.schema change.table before after
  next hop =>
    apply Appends.lift
    intro before hbefore
    rw [image_eq_ok] at hbefore
    simpa [boundStatement, RowChange.statement, RowChange.keyConditions, hop, hbefore] using
      renderDelete_appends hbind change.schema change.table before

theorem renderChange_bound (hbind : BindsDatums server library rules meaning)
    {change : RowChange} {rendered : RenderedStatement}
    (h : renderChange library rules plans change = .ok rendered)
    {s : Statement String (Option ν)}
    (hs : rendered.statement.mapM (Expression.evaluate server rendered.parameters) = some s) :
    s = boundStatement plans meaning change := by
  simp only [renderChange, bind_eq_ok, pure_eq, Except.ok.injEq] at h
  obtain ⟨⟨statement, parameters⟩, hrun, rfl⟩ := h
  exact (changeStatement_appends hbind change [] statement parameters hrun).2 parameters
    List.prefix_rfl s hs

/-- The probe selects the rows with the key of the before image. -/
theorem renderProbe_bound (hbind : BindsDatums server library rules meaning)
    {change : RowChange} {prepared : PreparedQuery}
    (h : renderProbe library rules plans change = .ok (some prepared))
    {q : Query String (Option ν)}
    (hq : prepared.query.mapM (Expression.evaluate server prepared.parameters) = some q) :
    q.conditions = change.keyConditions (keyCondition plans meaning) := by
  unfold renderProbe at h
  split at h
  · cases h
  all_goals
    simp only [prepareQuery, bind_eq_ok, pure_eq, Except.ok.injEq, Option.some.injEq,
      image_eq_ok] at h
    obtain ⟨before, hbefore, -, ⟨⟨conditions, parameters⟩, hrun, rfl⟩, rfl⟩ := h
    obtain ⟨cs, hcs, hq⟩ := Option.bind_eq_some_iff.mp hq
    cases hq
    rw [RowChange.keyConditions, hbefore]
    exact (keyPredicates_appends hbind change.schema change.table before [] conditions parameters
      hrun).2 parameters List.prefix_rfl cs hcs

end Rendering

section Effect

theorem fetchOne_ok {table : Table String ν} {prepared : PreparedQuery} {message : ℕ → String}
    (h : fetchOne server table (some prepared) message = .ok ()) :
    ∃ q, prepared.query.mapM (Expression.evaluate server prepared.parameters) = some q ∧
      (table.selected id q.conditions).length = 1 := by
  simp only [fetchOne, bind_eq_ok, throw_eq, pure_eq] at h
  obtain ⟨rows, hrows, h⟩ := h
  unfold fetchAll at hrows
  split at hrows
  · cases hrows
  next q hq =>
    cases hrows
    refine ⟨q, hq, Table.runQuery_length_eq_one.mp ?_⟩
    by_contra hne
    simp [hne] at h

theorem executeRendered_ok {table table' : Table String ν} {rendered : RenderedStatement}
    {affected : ℕ} (h : executeRendered server table rendered = .ok (table', affected)) :
    ∃ s, rendered.statement.mapM (Expression.evaluate server rendered.parameters) = some s ∧
      table.run id s = some table' ∧ affected = table.affected id s := by
  unfold executeRendered at h
  split at h
  · cases h
  next s hs =>
    split at h
    · cases h
    next hrun =>
      cases h
      exact ⟨s, hs, hrun, rfl⟩

theorem renderProbe_insert {change : RowChange} {probe : Option PreparedQuery}
    (hop : change.operation ≠ .insert) (h : renderProbe library rules plans change = .ok probe) :
    ∃ prepared, probe = some prepared := by
  unfold renderProbe at h
  split at h
  · contradiction
  all_goals
    simp only [bind_eq_ok, pure_eq, Except.ok.injEq] at h
    obtain ⟨-, -, prepared, -, rfl⟩ := h
    exact ⟨prepared, rfl⟩

/-- The statements of a rendered transaction are those of its converted changes. -/
theorem sqlWithPlans_statements {computedDigest : ColumnConversionPlan → String}
    {targetVersion : String} {validated : ValidatedTransaction library.toValidationLibrary}
    {plan : SqlTransaction}
    (h : sqlWithPlans library rules plans computedDigest targetVersion validated = .ok plan) :
    ∃ converted, validated.transaction.changes.mapM (convertChange rules plans) = .ok converted ∧
      converted.mapM (planChange library rules plans) = .ok plan.statements := by
  simp only [sqlWithPlans, bind_eq_ok] at h
  obtain ⟨-, -, -, -, converted, hconvert, revalidated, hvalidate, h⟩ := h
  obtain ⟨changes, hchanges, rfl⟩ := convertTransactionWithPlans_eq_ok (mapError_eq_ok.mp hconvert)
  rw [mapError_eq_ok] at hvalidate
  rw [plannedSql, validate_eq_ok hvalidate] at h
  simp only [bind_eq_ok, pure_eq, Except.ok.injEq] at h
  obtain ⟨statements, hstatements, rfl⟩ := h
  exact ⟨changes, hchanges, hstatements⟩

/-- A statement that is executed without an error has exactly the effect of its change. -/
theorem executeStatement_effect (hbind : BindsDatums server library rules meaning)
    {change : RowChange} {statement : PlannedStatement} {content content' : Content ν}
    (hplan : planChange library rules plans change = .ok statement)
    (hrun : executeStatement server content statement = .ok content') :
    RowEffect (convertedLanding plans meaning) change content content' := by
  simp only [planChange, throw_eq, pure_eq, error_bind, bind_eq_ok, guard_eq_ok,
    Except.ok.injEq] at hplan
  obtain ⟨-, -, -, rendered, hrendered, probe, hprobe, verification, -, readbacks, -, rfl⟩ := hplan
  simp only [executeStatement, throw_eq, pure_eq, error_bind, guard_eq_ok] at hrun
  obtain ⟨-, hrun⟩ := hrun
  split at hrun
  · cases hrun
  next table htable =>
    simp only [bind_eq_ok, Except.ok.injEq, Prod.exists, guard_eq_ok] at hrun
    obtain ⟨⟨⟩, hfetch, table', affected, hexecute, -, -, -, -, -, rfl⟩ := hrun
    obtain ⟨s, hs, htable', -⟩ := executeRendered_ok hexecute
    rw [renderChange_bound hbind hrendered hs] at htable'
    have hone : change.operation ≠ .insert →
        (table.selected id (change.keyConditions (keyCondition plans meaning))).length = 1 := by
      intro hop
      obtain ⟨prepared, rfl⟩ := renderProbe_insert hop hprobe
      obtain ⟨q, hq, hselected⟩ := fetchOne_ok hfetch
      rwa [renderProbe_bound hbind hprobe hq] at hselected
    obtain ⟨hschema, hrows⟩ := run_statement (fun _ _ => keyCondition_holds) htable' hone
    exact ⟨table, table', htable, rfl, hschema, hrows⟩

/-- A transaction that is executed without an error has exactly the effects of its changes, in
their order. -/
theorem executeStatements_effects (hbind : BindsDatums server library rules meaning)
    {computedDigest : ColumnConversionPlan → String} {targetVersion : String}
    {validated : ValidatedTransaction library.toValidationLibrary} {plan : SqlTransaction}
    {content content' : Content ν}
    (hplan : sqlWithPlans library rules plans computedDigest targetVersion validated = .ok plan)
    (hrun : executeStatements server content plan = .ok content') :
    RowEffects ((convertedLanding plans meaning).afterConversion rules plans)
      validated.transaction.changes content content' := by
  obtain ⟨converted, hconvert, hstatements⟩ := sqlWithPlans_statements hplan
  have hrendered : List.Forall₂ (fun change statement => ∃ converted,
      convertChange rules plans change = .ok converted ∧
        planChange library rules plans converted = .ok statement)
      validated.transaction.changes plan.statements :=
    forall₂_comp (mapM_eq_ok hconvert) (mapM_eq_ok hstatements)
  simp only [executeStatements, bind_eq_ok] at hrun
  obtain ⟨-, -, hrun⟩ := hrun
  refine RowEffects.of_foldlM _ ?_ hrendered hrun
  rintro change statement content content' ⟨converted, hconverted, hplanned⟩ hstep
  exact RowEffect.of_converted hconverted (executeStatement_effect hbind hplanned hstep)

end Effect

end DatabaseSync.PostgresqlSink
