import Mathlib.Data.List.Basic
import Mathlib.Logic.Function.Basic

/-! # Tables and single statements

Rows with unique keys and the meaning of one `INSERT`, `UPDATE`, `DELETE` or locking `SELECT`
on them. Expressions are abstract: a statement is read with placeholders first and carries
values once its parameters are bound. `==` on values is SQL's comparison, which may identify
values that are stored differently.
-/

namespace DatabaseSync.Relational

/-- A row holds a value or NULL in every column. -/
abbrev Row (κ ν : Type) := κ → Option ν

/-- One conjunct of a `WHERE` clause. -/
inductive Condition (κ ε : Type)
  | isNull (column : κ)
  | equals (column : κ) (value : ε)
  | equalsAsBinary (column : κ) (value : ε)
  | notDistinct (column : κ) (value : ε)
deriving DecidableEq, Repr

inductive Statement (κ ε : Type)
  | insert (columns : List κ) (values : List ε)
  | update (assignments : List (κ × ε)) (conditions : List (Condition κ ε))
  | delete (conditions : List (Condition κ ε))
deriving DecidableEq, Repr

/-- `SELECT … WHERE … LIMIT 2 FOR UPDATE` of one column or of a constant. -/
structure Query (κ ε : Type) where
  selected : Option κ
  conditions : List (Condition κ ε)
deriving DecidableEq, Repr

section Traversal

variable {κ ε δ : Type} {m : Type → Type} [Monad m]

/-- Replace the expressions of a condition. -/
def Condition.mapM (f : ε → m δ) : Condition κ ε → m (Condition κ δ)
  | isNull column => pure (isNull column)
  | equals column value => return equals column (← f value)
  | equalsAsBinary column value => return equalsAsBinary column (← f value)
  | notDistinct column value => return notDistinct column (← f value)

/-- Replace the expressions of a statement in the order in which they are written. -/
def Statement.mapM (f : ε → m δ) : Statement κ ε → m (Statement κ δ)
  | insert columns values => return insert columns (← values.mapM f)
  | update assignments conditions => do
    let assignments ← assignments.mapM fun a => return (a.1, ← f a.2)
    return update assignments (← conditions.mapM (Condition.mapM f))
  | delete conditions => return delete (← conditions.mapM (Condition.mapM f))

def Query.mapM (f : ε → m δ) (query : Query κ ε) : m (Query κ δ) :=
  return ⟨query.selected, ← query.conditions.mapM (Condition.mapM f)⟩

end Traversal

/-! ## The text of a statement -/

/-- How a server's language writes names, expressions and the cast to bytes. -/
structure Dialect (κ ε : Type) where
  identifier : κ → String
  expression : ε → String
  binaryCast : String → String

section Writing

variable {κ ε : Type} (dialect : Dialect κ ε)

def Condition.text : Condition κ ε → String
  | isNull column => dialect.identifier column ++ " IS NULL"
  | equals column value => dialect.identifier column ++ " = " ++ dialect.expression value
  | equalsAsBinary column value => dialect.binaryCast (dialect.identifier column) ++ " = " ++
      dialect.binaryCast (dialect.expression value)
  | notDistinct column value =>
    dialect.identifier column ++ " IS NOT DISTINCT FROM " ++ dialect.expression value

def conjunctionText (conditions : List (Condition κ ε)) : String :=
  " AND ".intercalate (conditions.map (Condition.text dialect))

def Statement.text (table : String) : Statement κ ε → String
  | insert columns values => "INSERT INTO " ++ table ++ " (" ++
      ", ".intercalate (columns.map dialect.identifier) ++ ") VALUES (" ++
      ", ".intercalate (values.map dialect.expression) ++ ");"
  | update assignments conditions => "UPDATE " ++ table ++ " SET " ++
      ", ".intercalate (assignments.map fun a =>
        dialect.identifier a.1 ++ " = " ++ dialect.expression a.2) ++
      " WHERE " ++ conjunctionText dialect conditions ++ ";"
  | delete conditions =>
    "DELETE FROM " ++ table ++ " WHERE " ++ conjunctionText dialect conditions ++ ";"

end Writing

section Semantics

variable {κ ν : Type} [DecidableEq κ] [BEq ν]

/-- Both sides are present and compare equal. -/
def comparesEqual : Option ν → Option ν → Bool
  | some a, some b => a == b
  | _, _ => false

/-- The condition is true of the row, where `asBinary` is the cast to bytes. -/
def Condition.holds (asBinary : ν → ν) (row : Row κ ν) : Condition κ (Option ν) → Bool
  | isNull column => (row column).isNone
  | equals column value => comparesEqual (row column) value
  | equalsAsBinary column value =>
    comparesEqual ((row column).map asBinary) (value.map asBinary)
  | notDistinct column value =>
    comparesEqual (row column) value || ((row column).isNone && value.isNone)

def selects (asBinary : ν → ν) (conditions : List (Condition κ (Option ν))) (row : Row κ ν) :
    Bool :=
  conditions.all (Condition.holds asBinary row)

/-- Overwrite the assigned columns. -/
def assign (assignments : List (κ × Option ν)) (row : Row κ ν) : Row κ ν := fun column =>
  (assignments.lookup column).getD (row column)

/-- What a table says about its rows: the key, the columns the server computes itself, the
values of columns an `INSERT` leaves out, and the step that computes the generated columns and
checks the constraints of a single row. -/
structure Schema (κ ν : Type) where
  key : List κ
  generated : κ → Bool
  defaults : Row κ ν
  settle : Row κ ν → Option (Row κ ν)
  settle_keeps : ∀ {row row' : Row κ ν} {column : κ}, settle row = some row' →
    generated column = false → row' column = row column

variable (schema : Schema κ ν)

/-- Two rows agree on the key. -/
def Schema.sameKey (row row' : Row κ ν) : Bool :=
  schema.key.all fun column => comparesEqual (row column) (row' column)

/-- The columns of a write are distinct and none is generated. -/
def Schema.writable (columns : List κ) : Bool :=
  columns.Nodup ∧ columns.all fun column => !schema.generated column

/-- A table whose rows have different keys. -/
structure Table (κ ν : Type) [BEq ν] where
  schema : Schema κ ν
  rows : List (Row κ ν)
  unique : rows.Pairwise fun row row' => schema.sameKey row row' = false

namespace Table

variable (table : Table κ ν)

/-- The table with other rows, unless two of them agree on the key. -/
def withRows (rows : List (Row κ ν)) : Option (Table κ ν) :=
  if h : rows.Pairwise fun row row' => table.schema.sameKey row row' = false then
    some ⟨table.schema, rows, h⟩
  else none

def insert (assignments : List (κ × Option ν)) : Option (Table κ ν) := do
  if table.schema.writable (assignments.map Prod.fst) then
    let row ← table.schema.settle (assign assignments table.schema.defaults)
    table.withRows (table.rows ++ [row])
  else none

/-- The row after an `UPDATE`, if its condition selects it. -/
def updateRow (asBinary : ν → ν) (assignments : List (κ × Option ν))
    (conditions : List (Condition κ (Option ν))) (row : Row κ ν) : Option (Row κ ν) :=
  if selects asBinary conditions row then table.schema.settle (assign assignments row)
  else some row

def update (asBinary : ν → ν) (assignments : List (κ × Option ν))
    (conditions : List (Condition κ (Option ν))) : Option (Table κ ν) := do
  if table.schema.writable (assignments.map Prod.fst) then
    let rows ← table.rows.mapM (table.updateRow asBinary assignments conditions)
    table.withRows rows
  else none

def delete (asBinary : ν → ν) (conditions : List (Condition κ (Option ν))) : Table κ ν where
  schema := table.schema
  rows := table.rows.filter fun row => !selects asBinary conditions row
  unique := table.unique.filter _

/-- The rows a condition selects. -/
def selected (asBinary : ν → ν) (conditions : List (Condition κ (Option ν))) :
    List (Row κ ν) :=
  table.rows.filter (selects asBinary conditions)

/-- Run a statement. The result is none if the server refuses it. -/
def run (asBinary : ν → ν) : Statement κ (Option ν) → Option (Table κ ν)
  | .insert columns values =>
    if columns.length = values.length then table.insert (columns.zip values) else none
  | .update assignments conditions => table.update asBinary assignments conditions
  | .delete conditions => some (table.delete asBinary conditions)

/-- The number of rows a statement inserts, selects for an update or deletes. -/
def affected (asBinary : ν → ν) : Statement κ (Option ν) → ℕ
  | .insert _ _ => 1
  | .update _ conditions => (table.selected asBinary conditions).length
  | .delete conditions => (table.selected asBinary conditions).length

/-- The selected column of at most two rows. -/
def runQuery (asBinary : ν → ν) (query : Query κ (Option ν)) : List (Option (Option ν)) :=
  ((table.selected asBinary query.conditions).take 2).map fun row => query.selected.map row

end Table

/-! ## Effects on the rows -/

section Effects

/-- Exactly one row is added. It holds the supplied values, and the defaults elsewhere. -/
def Inserts (schema : Schema κ ν) (supplied : List (κ × Option ν)) (rows rows' : List (Row κ ν)) :
    Prop :=
  ∃ row, rows' = rows ++ [row] ∧ (∀ a ∈ supplied, row a.1 = a.2) ∧
    (∀ column ∉ supplied.map Prod.fst, schema.generated column = false →
      row column = schema.defaults column) ∧
    ∀ other ∈ rows, schema.sameKey other row = false

/-- Exactly one row matches. It is replaced by a row with the supplied values, which differs
from it in no other column but the generated ones. -/
def Updates (schema : Schema κ ν) (matched : Row κ ν → Prop) (supplied : List (κ × Option ν))
    (rows rows' : List (Row κ ν)) : Prop :=
  ∃ before row row' after, rows = before ++ row :: after ∧ rows' = before ++ row' :: after ∧
    matched row ∧ (∀ other ∈ before ++ after, ¬ matched other) ∧
    (∀ a ∈ supplied, row' a.1 = a.2) ∧
    ∀ column ∉ supplied.map Prod.fst, schema.generated column = false →
      row' column = row column

/-- Exactly one row matches, and it is removed. -/
def Deletes (matched : Row κ ν → Prop) (rows rows' : List (Row κ ν)) : Prop :=
  ∃ before row after, rows = before ++ row :: after ∧ rows' = before ++ after ∧
    matched row ∧ ∀ other ∈ before ++ after, ¬ matched other

end Effects

/-! ## The statements have these effects -/

section Lemmas

variable {schema} {table table' : Table κ ν} {asBinary : ν → ν}
  {assignments : List (κ × Option ν)} {conditions : List (Condition κ (Option ν))}

theorem exists_split_of_filter_length_one {α : Type} {p : α → Bool} {l : List α}
    (h : (l.filter p).length = 1) :
    ∃ before a after, l = before ++ a :: after ∧ p a = true ∧
      ∀ b ∈ before ++ after, p b = false := by
  induction l with
  | nil => simp at h
  | cons x l ih =>
    by_cases hx : p x = true
    · rw [List.filter_cons_of_pos hx, List.length_cons, Nat.add_eq_right, List.length_eq_zero_iff,
        List.filter_eq_nil_iff] at h
      exact ⟨[], x, l, rfl, hx, fun b hb => by simpa using h b hb⟩
    · rw [List.filter_cons_of_neg hx] at h
      obtain ⟨before, a, after, rfl, ha, hother⟩ := ih h
      refine ⟨x :: before, a, after, rfl, ha, ?_⟩
      intro b hb
      rw [List.cons_append, List.mem_cons] at hb
      rcases hb with rfl | hb
      · simpa using hx
      · exact hother b hb

omit [BEq ν] in
theorem lookup_of_mem (hnodup : (assignments.map Prod.fst).Nodup) {a : κ × Option ν}
    (ha : a ∈ assignments) : assignments.lookup a.1 = some a.2 := by
  induction assignments with
  | nil => simp at ha
  | cons b l ih =>
    rw [List.map_cons, List.nodup_cons] at hnodup
    rcases List.mem_cons.mp ha with rfl | ha
    · exact List.lookup_cons_self
    · have hne : a.1 ≠ b.1 := fun he => hnodup.1 (he ▸ List.mem_map_of_mem ha)
      rw [List.lookup_cons, beq_false_of_ne hne]
      exact ih hnodup.2 ha

omit [BEq ν] in
theorem assign_of_mem (hnodup : (assignments.map Prod.fst).Nodup) {a : κ × Option ν}
    (ha : a ∈ assignments) (row : Row κ ν) : assign assignments row a.1 = a.2 := by
  simp [assign, lookup_of_mem hnodup ha]

omit [BEq ν] in
theorem assign_of_notMem {column : κ} (h : column ∉ assignments.map Prod.fst)
    (row : Row κ ν) : assign assignments row column = row column := by
  have hnone : assignments.lookup column = none := by
    rw [List.lookup_eq_none_iff]
    intro a ha
    have hne : column ≠ a.1 := fun he => h (he ▸ List.mem_map_of_mem ha)
    simpa using hne
  simp [assign, hnone]

omit [BEq ν] in
theorem Schema.writable_iff {columns : List κ} :
    schema.writable columns = true ↔
      columns.Nodup ∧ ∀ column ∈ columns, schema.generated column = false := by
  simp [Schema.writable]

omit [BEq ν] in
/-- A settled row holds the assigned values, and the old ones in the other columns. -/
theorem settled_row {row row' : Row κ ν}
    (hw : schema.writable (assignments.map Prod.fst) = true)
    (h : schema.settle (assign assignments row) = some row') :
    (∀ a ∈ assignments, row' a.1 = a.2) ∧
      ∀ column ∉ assignments.map Prod.fst, schema.generated column = false →
        row' column = row column := by
  obtain ⟨hnodup, hgenerated⟩ := Schema.writable_iff.mp hw
  constructor
  · intro a ha
    rw [schema.settle_keeps h (hgenerated a.1 (List.mem_map_of_mem ha)),
      assign_of_mem hnodup ha]
  · intro column hcolumn hkept
    rw [schema.settle_keeps h hkept, assign_of_notMem hcolumn]

omit [DecidableEq κ] in
theorem Table.withRows_eq_some {rows : List (Row κ ν)} :
    table.withRows rows = some table' → table'.schema = table.schema ∧ table'.rows = rows := by
  unfold Table.withRows
  split
  · intro h; cases h; exact ⟨rfl, rfl⟩
  · intro h; cases h

theorem Table.insert_inserts (h : table.insert assignments = some table') :
    table'.schema = table.schema ∧
      Inserts table.schema assignments table.rows table'.rows := by
  unfold Table.insert at h
  split at h
  next hw =>
    obtain ⟨row, hrow, hrows⟩ := Option.bind_eq_some_iff.mp h
    obtain ⟨hschema, hrows⟩ := Table.withRows_eq_some hrows
    obtain ⟨hsupplied, hdefault⟩ := settled_row hw hrow
    refine ⟨hschema, row, hrows, hsupplied, hdefault, ?_⟩
    intro other hother
    have hunique := table'.unique
    rw [hrows, hschema, List.pairwise_append] at hunique
    exact hunique.2.2 other hother row (by simp)
  next => cases h

/-- Rows that are not selected stay as they are. -/
theorem Table.updateRow_of_not_selects {row : Row κ ν}
    (h : selects asBinary conditions row = false) :
    table.updateRow asBinary assignments conditions row = some row := by
  simp [Table.updateRow, h]

theorem mapM_eq_self {α : Type} {f : α → Option α} {l : List α} (h : ∀ a ∈ l, f a = some a) :
    l.mapM f = some l := by
  induction l with
  | nil => rfl
  | cons a l ih =>
    rw [List.mapM_cons, h a (by simp), ih fun b hb => h b (List.mem_cons_of_mem a hb)]
    rfl

theorem Table.update_updates (h : table.update asBinary assignments conditions = some table')
    (hone : (table.selected asBinary conditions).length = 1) :
    table'.schema = table.schema ∧
      Updates table.schema (fun row => selects asBinary conditions row = true) assignments
        table.rows table'.rows := by
  unfold Table.update at h
  split at h
  next hw =>
    obtain ⟨rows, hmap, hrows⟩ := Option.bind_eq_some_iff.mp h
    obtain ⟨hschema, hrows⟩ := Table.withRows_eq_some hrows
    obtain ⟨before, row, after, hsplit, hrow, hother⟩ := exists_split_of_filter_length_one hone
    have hbefore : before.mapM (table.updateRow asBinary assignments conditions) = some before :=
      mapM_eq_self fun b hb =>
        Table.updateRow_of_not_selects (hother b (List.mem_append_left after hb))
    have hafter : after.mapM (table.updateRow asBinary assignments conditions) = some after :=
      mapM_eq_self fun b hb =>
        Table.updateRow_of_not_selects (hother b (List.mem_append_right before hb))
    rw [hsplit, List.mapM_append, hbefore, List.mapM_cons, hafter] at hmap
    obtain ⟨row', hrow', hresult⟩ : ∃ row',
        table.updateRow asBinary assignments conditions row = some row' ∧
          before ++ row' :: after = rows := by
      cases hstep : table.updateRow asBinary assignments conditions row with
      | none => simp [hstep] at hmap
      | some row' => exact ⟨row', rfl, by simpa [hstep] using hmap⟩
    simp only [Table.updateRow, hrow, if_true] at hrow'
    obtain ⟨hsupplied, hkept⟩ := settled_row hw hrow'
    refine ⟨hschema, before, row, row', after, hsplit, by rw [hrows, hresult], hrow, ?_,
      hsupplied, hkept⟩
    intro other hmem
    simp [hother other hmem]
  next => cases h

omit [DecidableEq κ] in
theorem Table.delete_deletes (hone : (table.selected asBinary conditions).length = 1) :
    Deletes (fun row => selects asBinary conditions row = true) table.rows
      (table.delete asBinary conditions).rows := by
  obtain ⟨before, row, after, hsplit, hrow, hother⟩ := exists_split_of_filter_length_one hone
  refine ⟨before, row, after, hsplit, ?_, hrow, fun other hmem => by simp [hother other hmem]⟩
  have hbefore : ∀ b ∈ before, (!selects asBinary conditions b) = true := fun b hb => by
    simp [hother b (List.mem_append_left after hb)]
  have hafter : ∀ b ∈ after, (!selects asBinary conditions b) = true := fun b hb => by
    simp [hother b (List.mem_append_right before hb)]
  simp only [Table.delete, hsplit, List.filter_append, List.filter_eq_self.mpr hbefore]
  rw [List.filter_cons_of_neg (by simp [hrow]), List.filter_eq_self.mpr hafter]

omit [DecidableEq κ] in
/-- A locking query finds one row exactly if one row is selected. -/
theorem Table.runQuery_length_eq_one {query : Query κ (Option ν)} :
    (table.runQuery asBinary query).length = 1 ↔
      (table.selected asBinary query.conditions).length = 1 := by
  simp only [Table.runQuery, List.length_map, List.length_take]
  omega

end Lemmas

end Semantics

end DatabaseSync.Relational
