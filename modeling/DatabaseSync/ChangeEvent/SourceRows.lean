import DatabaseSync.ChangeEvent.Validate
import Mathlib.Logic.Function.Basic

/-! # What change events say about the source

The tables of the source as rows of data, and the effect that a change reports. A before image
shows the row that the change finds, as far as it is available. An after image shows the new row,
which keeps the unchanged data of the old one.
-/

namespace DatabaseSync.ChangeEvent

open Checked (bind_eq_ok)

/-- A table of the source: the columns that the source computes itself, and the rows. -/
structure SourceTable where
  generated : String → Bool
  rows : List (List ColumnDatum)

/-- The tables of a source by schema and name. -/
abbrev SourceContent := String × String → SourceTable

/-- A before image has the columns of a row, and its data as far as they are available. -/
structure ShowsRow (image row : List ColumnDatum) : Prop where
  names : row.map (·.name) = image.map (·.name)
  data : ∀ column ∈ image, column.datum ≠ .unavailable → column ∈ row

/-- The row that an after image shows, where `row` is the one before the change. -/
def rowAfter (row image : List ColumnDatum) : List ColumnDatum :=
  image.map fun column => match column.datum with
    | .unchanged => (row.find? fun old => old.name = column.name).getD column
    | _ => column

/-- The rows of the changed table before and after. -/
def SourceRows (change : RowChange) (rows rows' : List (List ColumnDatum)) : Prop :=
  match change.operation with
  | .insert => rows' = rows ++ [change.after.getD []]
  | .update => ∃ before row after, rows = before ++ row :: after ∧
      ShowsRow (change.before.getD []) row ∧
      rows' = before ++ rowAfter row (change.after.getD []) :: after
  | .delete => ∃ before row after, rows = before ++ row :: after ∧
      ShowsRow (change.before.getD []) row ∧ rows' = before ++ after

/-- The change happens to its own table, and its images mark the columns that the source
computes. -/
def SourceEffect (change : RowChange) (content content' : SourceContent) : Prop :=
  ∃ rows', content' = Function.update content (change.schema, change.table)
      { content (change.schema, change.table) with rows := rows' } ∧
    (∀ column ∈ change.columns,
      column.generated = (content (change.schema, change.table)).generated column.name) ∧
    SourceRows change (content (change.schema, change.table)).rows rows'

/-- The changes happen one after the other. -/
def SourceEffects : List RowChange → SourceContent → SourceContent → Prop
  | [], content, content' => content' = content
  | change :: changes, content, content' =>
    ∃ between, SourceEffect change content between ∧ SourceEffects changes between content'

/-- Each transaction of the source leads from one of its states to the next. -/
def SourceRun (transactions : List ChangeTransaction) (state : ℕ → SourceContent) : Prop :=
  ∀ i (h : i < transactions.length), SourceEffects transactions[i].changes (state i) (state (i + 1))

/-! ## Validated images -/

/-- What the validation says about the columns of an image. -/
structure ValidImage (operation : Operation) (isBefore : Bool) (row : List ColumnDatum) : Prop where
  nodup : (row.map (·.name)).Nodup
  present : ∀ column ∈ row, presence column.datum operation isBefore = .ok ()
  key : ∀ column ∈ row, column.primaryKeyOrdinal.isSome = true →
    column.generated = false ∧ column.datum ≠ .unavailable

variable {library : ValidationLibrary} {operation : Operation} {isBefore : Bool}
  {row image : List ColumnDatum} {change : RowChange} {column : ColumnDatum}

theorem keyColumn_spec {keys keys' : List ℕ} (h : keyColumn column keys = .ok keys')
    (hkey : column.primaryKeyOrdinal.isSome = true) :
    column.generated = false ∧ column.datum ≠ .unavailable := by
  obtain ⟨ordinal, hordinal⟩ := Option.isSome_iff_exists.mp hkey
  simp only [keyColumn, hordinal, bind_eq_ok, ensure_eq_ok, Bool.not_eq_true'] at h
  obtain ⟨_, -, _, hvalue, _, hgenerated, -⟩ := h
  refine ⟨hgenerated, fun hdatum => ?_⟩
  rw [hdatum] at hvalue
  cases hvalue

theorem imageColumns_spec {names : List String} {ordinals keys keys' : List ℕ}
    (h : imageColumns library operation isBefore row names ordinals keys = .ok keys') :
    ValidImage operation isBefore row ∧ ∀ column ∈ row, column.name ∉ names := by
  induction row generalizing names ordinals keys with
  | nil => exact ⟨⟨List.nodup_nil, nofun, nofun⟩, nofun⟩
  | cons column row ih =>
    simp only [imageColumns, ensure_eq_ok, bind_eq_ok, Bool.and_eq_true, Bool.not_eq_true',
      List.contains_eq_mem, decide_eq_false_iff_not] at h
    obtain ⟨_, -, _, -, _, ⟨hnew, -⟩, keys₁, hkeys, _, hpresence, _, -, hrest⟩ := h
    obtain ⟨⟨hnodup, hpresent, hkey⟩, hnames⟩ := ih hrest
    refine ⟨⟨?_, ?_, ?_⟩, ?_⟩
    · rw [List.map_cons, List.nodup_cons]
      refine ⟨fun hmem => ?_, hnodup⟩
      obtain ⟨other, hother, hsame⟩ := List.mem_map.mp hmem
      exact hnames other hother (hsame ▸ List.mem_cons_self)
    · exact List.forall_mem_cons.mpr ⟨hpresence, hpresent⟩
    · exact List.forall_mem_cons.mpr ⟨keyColumn_spec hkeys, hkey⟩
    · refine List.forall_mem_cons.mpr ⟨hnew, fun other hother hmem => ?_⟩
      exact hnames other hother (List.mem_cons_of_mem _ hmem)

theorem image_spec (h : ChangeEvent.image library row operation isBefore = .ok ()) :
    ValidImage operation isBefore row := by
  simp only [ChangeEvent.image, ensure_eq_ok, bind_eq_ok] at h
  obtain ⟨_, -, keys, hkeys, -⟩ := h
  exact (imageColumns_spec hkeys).1

/-- A validated change has the images of its operation. The two images of an update have the same
columns. -/
structure ValidImages (change : RowChange) : Prop where
  before : change.operation ≠ .insert → ValidImage change.operation true (change.before.getD [])
  after : change.operation ≠ .delete → ValidImage change.operation false (change.after.getD [])
  names : change.operation = .update →
    (change.before.getD []).map (·.name) = (change.after.getD []).map (·.name)

theorem names_of_sameDefinition {before after : List ColumnDatum}
    (h : (before.length == after.length &&
      (before.zip after).all fun (b, a) => sameDefinition b a) = true) :
    before.map (·.name) = after.map (·.name) := by
  rw [Bool.and_eq_true, beq_iff_eq] at h
  obtain ⟨hlength, hall⟩ := h
  refine List.ext_getElem (by simpa using hlength) fun i hi hi' => ?_
  rw [List.length_map] at hi hi'
  have hmem : (before[i], after[i]) ∈ before.zip after :=
    List.mem_iff_getElem.mpr ⟨i, by simp [hi, hi'], by simp⟩
  have hsame := List.all_eq_true.mp hall _ hmem
  simp only [sameDefinition, Bool.and_eq_true, beq_iff_eq] at hsame
  rw [List.getElem_map, List.getElem_map]
  exact hsame.1.1.1.1.2

theorem validateChange_spec (h : validateChange library change = .ok ()) : ValidImages change := by
  unfold validateChange at h
  simp only [bind_eq_ok, ensure_eq_ok] at h
  obtain ⟨_, -, _, -, _, -, _, hshape, h⟩ := h
  unfold validShape at hshape
  cases hb : change.before with
  | none =>
    cases ha : change.after with
    | none => cases hop : change.operation <;> simp [hop, ha, hb] at hshape
    | some after =>
      simp only [hb, ha, bind_eq_ok, ensure_eq_ok] at h
      obtain ⟨_, himage, -⟩ := h
      have hop : change.operation = .insert := by
        cases hop : change.operation <;> simp [hop, ha, hb] at hshape ⊢
      exact ⟨fun hne => absurd hop hne, fun _ => ha ▸ image_spec himage,
        fun hupdate => by rw [hop] at hupdate; cases hupdate⟩
  | some before =>
    cases ha : change.after with
    | none =>
      simp only [hb, ha, bind_eq_ok, ensure_eq_ok] at h
      obtain ⟨_, himage, -⟩ := h
      have hop : change.operation = .delete := by
        cases hop : change.operation <;> simp [hop, ha, hb] at hshape ⊢
      exact ⟨fun _ => hb ▸ image_spec himage, fun hne => absurd hop hne,
        fun hupdate => by rw [hop] at hupdate; cases hupdate⟩
    | some after =>
      simp only [hb, ha, bind_eq_ok, ensure_eq_ok] at h
      obtain ⟨_, himage, _, himage', _, -, hsame⟩ := h
      exact ⟨fun _ => hb ▸ image_spec himage, fun _ => ha ▸ image_spec himage',
        fun _ => by rw [hb, ha]; exact names_of_sameDefinition hsame⟩

/-! ## The data of the row after a change -/

theorem ValidImage.available (h : ValidImage operation false image) (hcolumn : column ∈ image) :
    column.datum ≠ .unavailable := by
  intro hdatum
  have hpresent := h.present column hcolumn
  simp [presence, hdatum, ensure] at hpresent

theorem ValidImage.changed (h : ValidImage operation false image) (hop : operation ≠ .update)
    (hcolumn : column ∈ image) : column.datum ≠ .unchanged := by
  intro hdatum
  have hpresent := h.present column hcolumn
  cases operation <;> simp_all [presence, ensure]

/-- A datum of the new row is shown by the image, or it is the one of the old row and the image
says that it is unchanged. -/
theorem mem_rowAfter (hnames : image.map (·.name) ⊆ row.map (·.name))
    (h : column ∈ rowAfter row image) :
    (column ∈ image ∧ column.datum ≠ .unchanged) ∨
      column ∈ row ∧ ∃ shown ∈ image, shown.name = column.name ∧ shown.datum = .unchanged := by
  obtain ⟨shown, hshown, rfl⟩ := List.mem_map.mp h
  split
  next hdatum =>
    obtain ⟨old, hold, hsame⟩ := List.mem_map.mp (hnames (List.mem_map_of_mem hshown))
    obtain ⟨found, hfound⟩ := Option.isSome_iff_exists.mp
      (List.find?_isSome (p := fun old => old.name = shown.name) |>.mpr
        ⟨old, hold, by simpa using hsame⟩)
    have hname : found.name = shown.name := by simpa using List.find?_some hfound
    rw [hfound, Option.getD_some]
    exact .inr ⟨List.mem_of_find?_eq_some hfound, shown, hshown, hname.symm, hdatum⟩
  next hne => exact .inl ⟨hshown, hne⟩

end DatabaseSync.ChangeEvent
