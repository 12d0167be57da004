import DatabaseSync.ChangeEvent.RowEffect
import Mathlib.Data.List.Sort

/-! # The statement of a row change

The statement a change asks for, with its values in place, and why running it has the effect
of the change. The sinks differ in how they compare a key column only.
-/

namespace DatabaseSync.ChangeEvent

open Relational

def suppliedColumns (row : List ColumnDatum) : List ColumnDatum := row.filter isSupplied

/-- The key columns of a row in key order. -/
def keyColumns (row : List ColumnDatum) : List ColumnDatum :=
  (row.filter fun column => column.primaryKeyOrdinal.isSome).insertionSort fun a b =>
    a.primaryKeyOrdinal.getD 0 ≤ b.primaryKeyOrdinal.getD 0

theorem mem_keyColumns {row : List ColumnDatum} {column : ColumnDatum} :
    column ∈ keyColumns row ↔ column ∈ row ∧ column.primaryKeyOrdinal.isSome = true := by
  simp [keyColumns, List.mem_insertionSort]

section Statement

variable {ν : Type} [BEq ν] (landing : Landing ν)
  (condition : String → String → ColumnDatum → Condition String (Option ν))

/-- The conditions on the key of the before image. -/
def RowChange.keyConditions (change : RowChange) : List (Condition String (Option ν)) :=
  (keyColumns (change.before.getD [])).map (condition change.schema change.table)

def RowChange.statement (change : RowChange) : Statement String (Option ν) :=
  let value := landing.value change.schema change.table
  let columns := suppliedColumns (change.after.getD [])
  match change.operation with
  | .insert => .insert (columns.map (·.name)) (columns.map value)
  | .update => .update (columns.map fun column => (column.name, value column))
      (change.keyConditions condition)
  | .delete => .delete (change.keyConditions condition)

variable {landing condition} {asBinary : ν → ν}

/-- The key conditions select the rows whose key matches. -/
theorem selects_keyConditions {change : RowChange}
    (hcondition : ∀ column (row : Row String ν),
      (condition change.schema change.table column).holds asBinary row =
        landing.keyEqual change.schema change.table column (row column.name)) :
    (fun row => selects asBinary (change.keyConditions condition) row = true) =
      KeyMatches landing change := by
  funext row
  simp only [selects, RowChange.keyConditions, List.all_map, List.all_eq_true, mem_keyColumns,
    Function.comp_apply, hcondition, KeyMatches, and_imp]

/-- The statement has the effect of the change on the rows, provided that an update or a delete
finds exactly one row. -/
theorem run_statement {change : RowChange} {table table' : Table String ν}
    (hcondition : ∀ column (row : Row String ν),
      (condition change.schema change.table column).holds asBinary row =
        landing.keyEqual change.schema change.table column (row column.name))
    (hrun : table.run asBinary (change.statement landing condition) = some table')
    (hone : change.operation ≠ .insert →
      (table.selected asBinary (change.keyConditions condition)).length = 1) :
    table'.schema = table.schema ∧
      RowsEffect landing change table.schema table.rows table'.rows := by
  have hmatch := selects_keyConditions hcondition
  unfold RowChange.statement at hrun
  unfold RowsEffect
  cases hop : change.operation with
  | insert =>
    simp only [hop, Table.run, List.length_map, if_true, List.zip_map'] at hrun
    exact Table.insert_inserts hrun
  | update =>
    simp only [hop, Table.run] at hrun
    have h := Table.update_updates hrun (hone (by simp [hop]))
    rwa [hmatch] at h
  | delete =>
    simp only [hop, Table.run, Option.some.injEq] at hrun
    subst hrun
    have h := Table.delete_deletes (hone (by simp [hop]))
    rw [hmatch] at h
    exact ⟨rfl, h⟩

end Statement

end DatabaseSync.ChangeEvent
