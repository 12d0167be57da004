import DatabaseSync.ChangeEvent.Convert
import DatabaseSync.Library.Relational

/-! # What a row change means on a target

The effect of a change on the tables of a target, without reference to any statement: one row
is added, replaced or removed, and nothing else changes.
-/

namespace DatabaseSync.ChangeEvent

open Checked Relational

/-- The tables of a target by schema and name. -/
abbrev Content (ν : Type) [BEq ν] := String × String → Option (Table String ν)

/-- How the data of a table's columns appear in the target: the value a datum lands as, and
whether a stored key value is the one of the datum. The strings name the table. -/
structure Landing (ν : Type) where
  value : String → String → ColumnDatum → Option ν
  keyEqual : String → String → ColumnDatum → Option ν → Bool

/-- The value of a datum in the target, where `meaning` says what a datum denotes under its
plan. -/
def datumValue {ν : Type} (meaning : Option ColumnConversionPlan → ColumnDatum → ν)
    (plan : Option ColumnConversionPlan) (column : ColumnDatum) : Option ν :=
  match column.datum with
  | .null => none
  | _ => some (meaning plan column)

/-- The value of a column of a converted change. -/
def columnValue {ν : Type} (plans : List ColumnConversionPlan)
    (meaning : Option ColumnConversionPlan → ColumnDatum → ν) (schema table : String)
    (column : ColumnDatum) : Option ν :=
  datumValue meaning (columnPlan schema table column plans) column

/-- The column carries a value to be written: it is neither generated nor unchanged nor
unavailable. -/
def isSupplied (column : ColumnDatum) : Bool :=
  !column.generated && !(column.datum matches .unavailable | .unchanged)

section Effect

variable {ν : Type} [BEq ν] (landing : Landing ν)

def RowChange.supplied (change : RowChange) : List (String × Option ν) :=
  ((change.after.getD []).filter isSupplied).map fun column =>
    (column.name, landing.value change.schema change.table column)

/-- The key of the row equals the key of the before image. -/
def KeyMatches (change : RowChange) (row : Row String ν) : Prop :=
  ∀ column ∈ change.before.getD [], column.primaryKeyOrdinal.isSome = true →
    landing.keyEqual change.schema change.table column (row column.name) = true

/-- The rows of the changed table before and after. -/
def RowsEffect (change : RowChange) (schema : Schema String ν) (rows rows' : List (Row String ν)) :
    Prop :=
  match change.operation with
  | .insert => Inserts schema (change.supplied landing) rows rows'
  | .update => Updates schema (KeyMatches landing change) (change.supplied landing) rows rows'
  | .delete => Deletes (KeyMatches landing change) rows rows'

/-- The change has its effect on its own table, and the other tables stay as they are. -/
def RowEffect (change : RowChange) (content content' : Content ν) : Prop :=
  ∃ table table', content (change.schema, change.table) = some table ∧
    content' = Function.update content (change.schema, change.table) (some table') ∧
    table'.schema = table.schema ∧
    RowsEffect landing change table.schema table.rows table'.rows

/-- What a target holds after a transaction: a failure rolls everything back. -/
def contentAfter {ε : Type} (content : Content ν) (outcome : Except ε (Content ν)) : Content ν :=
  match outcome with
  | .ok content' => content'
  | .error _ => content

/-- The changes have their effects one after the other. -/
def RowEffects : List RowChange → Content ν → Content ν → Prop
  | [], content, content' => content' = content
  | change :: changes, content, content' =>
    ∃ between, RowEffect landing change content between ∧ RowEffects changes between content'

/-- Changes that are executed one by one, each with its effect. -/
theorem RowEffects.of_foldlM {α ε : Type} {step : Content ν → α → Except ε (Content ν)}
    {rendered : RowChange → α → Prop} {changes : List RowChange} {items : List α}
    (hstep : ∀ change item content content', rendered change item →
      step content item = .ok content' → RowEffect landing change content content')
    (h : List.Forall₂ rendered changes items) {content content' : Content ν}
    (hrun : items.foldlM step content = .ok content') :
    RowEffects landing changes content content' := by
  induction h generalizing content with
  | nil =>
    cases hrun
    rfl
  | @cons change item changes items hitem _ ih =>
    rw [List.foldlM_cons] at hrun
    cases hs : step content item with
    | error e => simp [hs, Bind.bind, Except.bind] at hrun
    | ok between =>
      rw [hs] at hrun
      exact ⟨between, hstep change item content between hitem hs, ih hrun⟩

end Effect

/-! ## Changes whose values are converted first -/

section Converted

variable {ν : Type} [BEq ν] (rules : PlanRules) (plans : List ColumnConversionPlan)
  (landing : Landing ν)

/-- The column with the value its plan converts it to. -/
def landedColumn (schema table : String) (column : ColumnDatum) : ColumnDatum :=
  match convertColumn rules schema table plans column with
  | .ok converted => converted
  | .error _ => column

/-- The data of a change land as their converted values do. -/
def Landing.afterConversion : Landing ν where
  value schema table column :=
    landing.value schema table (landedColumn rules plans schema table column)
  keyEqual schema table column :=
    landing.keyEqual schema table (landedColumn rules plans schema table column)

variable {rules plans landing}

theorem landedColumn_eq {schema table : String} {column converted : ColumnDatum}
    (h : convertColumn rules schema table plans column = .ok converted) :
    landedColumn rules plans schema table column = converted := by
  simp [landedColumn, h]

theorem SameColumn.isSupplied_eq {column converted : ColumnDatum}
    (h : SameColumn column converted) : isSupplied converted = isSupplied column := by
  have hdatum : (converted.datum matches .unavailable | .unchanged) =
      (column.datum matches .unavailable | .unchanged) := by
    have hunavailable := h.unavailable
    have hunchanged := h.unchanged
    cases hc : column.datum <;> cases hd : converted.datum <;> simp_all
  rw [isSupplied, isSupplied, h.generated, hdatum]

/-- The columns of an image and of its conversion. -/
theorem convertImage_forall₂ {schema table : String} {row row' : Option (List ColumnDatum)}
    (h : convertImageWithPlans rules schema table plans row = .ok row') :
    List.Forall₂ (fun column converted =>
      convertColumn rules schema table plans column = .ok converted)
      (row.getD []) (row'.getD []) := by
  cases row with
  | none =>
    cases h
    exact List.Forall₂.nil
  | some row =>
    simp only [convertImageWithPlans, bind_eq_ok, pure_eq, Except.ok.injEq] at h
    obtain ⟨row', hrow', rfl⟩ := h
    exact mapM_eq_ok hrow'

omit [BEq ν] in
theorem supplied_of_converted (landing : Landing ν) {schema table : String}
    {row row' : List ColumnDatum}
    (h : List.Forall₂ (fun column converted =>
      convertColumn rules schema table plans column = .ok converted) row row') :
    ((row'.filter isSupplied).map fun column =>
        (column.name, landing.value schema table column)) =
      (row.filter isSupplied).map fun column => (column.name,
        (landing.afterConversion rules plans).value schema table column) := by
  induction h with
  | nil => rfl
  | @cons column converted row row' hconverted _ ih =>
    have hsame := convertColumn_same hconverted
    rw [List.filter_cons, List.filter_cons, hsame.isSupplied_eq]
    split
    · rw [List.map_cons, List.map_cons, ih, hsame.name, Landing.afterConversion]
      simp only [landedColumn_eq hconverted]
    · exact ih

omit [BEq ν] in
theorem keys_of_converted {schema table : String} {row row' : List ColumnDatum}
    {stored : Row String ν}
    (h : List.Forall₂ (fun column converted =>
      convertColumn rules schema table plans column = .ok converted) row row') :
    (∀ column ∈ row', column.primaryKeyOrdinal.isSome = true →
        landing.keyEqual schema table column (stored column.name) = true) ↔
      ∀ column ∈ row, column.primaryKeyOrdinal.isSome = true →
        (landing.afterConversion rules plans).keyEqual schema table column
          (stored column.name) = true := by
  induction h with
  | nil => simp
  | @cons column converted row row' hconverted _ ih =>
    have hsame := convertColumn_same hconverted
    rw [List.forall_mem_cons, List.forall_mem_cons, ih, hsame.primaryKeyOrdinal, hsame.name,
      Landing.afterConversion]
    simp only [landedColumn_eq hconverted]

/-- The effect of a converted change is the effect of the change itself. -/
theorem RowEffect.of_converted {change converted : RowChange} {content content' : Content ν}
    (hconvert : convertChange rules plans change = .ok converted)
    (h : RowEffect landing converted content content') :
    RowEffect (landing.afterConversion rules plans) change content content' := by
  simp only [convertChange, bind_eq_ok, pure_eq, Except.ok.injEq] at hconvert
  obtain ⟨before, hbefore, after, hafter, rfl⟩ := hconvert
  have hsupplied := supplied_of_converted landing (convertImage_forall₂ hafter)
  have hkeys : KeyMatches landing { change with before, after } =
      KeyMatches (landing.afterConversion rules plans) change := by
    funext stored
    exact propext (keys_of_converted (convertImage_forall₂ hbefore))
  obtain ⟨table, table', htable, hcontent, hschema, hrows⟩ := h
  refine ⟨table, table', htable, hcontent, hschema, ?_⟩
  unfold RowsEffect RowChange.supplied at hrows ⊢
  rw [hkeys] at hrows
  simpa only [hsupplied] using hrows

end Converted

end DatabaseSync.ChangeEvent
