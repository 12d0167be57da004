import DatabaseSync.ChangeEvent.Validate
import Mathlib.Data.List.Perm.Basic
import Mathlib.Logic.Relation
import Mathlib.Order.WellFounded

/-! # Values in another order

The members of a set, the entries of a JSON object and the entries of a map have no order. A value
reordered has them permuted, at any depth. Validation finds their keys distinct.
-/

namespace DatabaseSync.ChangeEvent

open Checked

/-! ## Nested values -/

@[elab_as_elim]
theorem JsonValue.induction {motive : JsonValue → Prop} (null : motive .null)
    (boolean : ∀ value, motive (.boolean value)) (string : ∀ value, motive (.string value))
    (signedInteger : ∀ value, motive (.signedInteger value))
    (unsignedInteger : ∀ value, motive (.unsignedInteger value))
    (doubleBits : ∀ value, motive (.doubleBits value))
    (decimal : ∀ unscaled scale, motive (.decimal unscaled scale))
    (array : ∀ items, (∀ item ∈ items, motive item) → motive (.array items))
    (object : ∀ entries, (∀ entry ∈ entries, motive entry.2) → motive (.object entries))
    (value : JsonValue) : motive value :=
  @JsonValue.rec motive (fun items => ∀ item ∈ items, motive item)
    (fun entries => ∀ entry ∈ entries, motive entry.2) (fun entry => motive entry.2)
    null boolean string signedInteger unsignedInteger doubleBits decimal array object
    (fun _ h => absurd h List.not_mem_nil)
    (fun _ _ hhead htail => List.forall_mem_cons.mpr ⟨hhead, htail⟩)
    (fun _ h => absurd h List.not_mem_nil)
    (fun _ _ hhead htail => List.forall_mem_cons.mpr ⟨hhead, htail⟩)
    (fun _ _ h => h) value

mutual

/-- The same JSON value with the entries of its objects in another order. -/
inductive JsonValue.Reordered : JsonValue → JsonValue → Prop
  | refl (value : JsonValue) : JsonValue.Reordered value value
  | array {items items' : List JsonValue} (h : List.Forall₂ JsonValue.Reordered items items') :
    JsonValue.Reordered (.array items) (.array items')
  | object {entries entries' entries'' : List (String × JsonValue)}
      (h : List.Forall₂ JsonEntry.Reordered entries entries') (hperm : entries'.Perm entries'') :
    JsonValue.Reordered (.object entries) (.object entries'')

inductive JsonEntry.Reordered : String × JsonValue → String × JsonValue → Prop
  | entry (key : String) {value value' : JsonValue} (h : JsonValue.Reordered value value') :
    JsonEntry.Reordered (key, value) (key, value')

end

theorem JsonEntry.reordered_iff {entry entry' : String × JsonValue} :
    JsonEntry.Reordered entry entry' ↔ entry'.1 = entry.1 ∧ entry.2.Reordered entry'.2 := by
  constructor
  · rintro ⟨key, h⟩
    exact ⟨rfl, h⟩
  · obtain ⟨key, value⟩ := entry
    obtain ⟨key', value'⟩ := entry'
    rintro ⟨rfl, h⟩
    exact JsonEntry.Reordered.entry _ h

/-! ## JSON values that pass validation -/

section Json

variable {items : List JsonValue} {entries : List (String × JsonValue)} {seen : List String}
  {depth : ℕ}

theorem jsonItems_eq_ok (h : jsonItems items depth = .ok ()) :
    ∀ item ∈ items, jsonValue item (depth + 1) = .ok () := by
  induction items with
  | nil => simp
  | cons item items ih =>
    rw [jsonItems, bind_eq_ok] at h
    obtain ⟨⟨⟩, hitem, hitems⟩ := h
    exact List.forall_mem_cons.mpr ⟨hitem, ih hitems⟩

theorem jsonValue_array (h : jsonValue (.array items) depth = .ok ()) :
    ∀ item ∈ items, jsonValue item (depth + 1) = .ok () := by
  rw [jsonValue, bind_eq_ok] at h
  obtain ⟨⟨⟩, -, hitems⟩ := h
  exact jsonItems_eq_ok hitems

/-- The keys of an object are distinct, and none of them was seen before. -/
theorem jsonEntries_eq_ok (h : jsonEntries entries seen depth = .ok ()) :
    (entries.map Prod.fst).Nodup ∧ (∀ entry ∈ entries, entry.1 ∉ seen) ∧
      ∀ entry ∈ entries, jsonValue entry.2 (depth + 1) = .ok () := by
  induction entries generalizing seen with
  | nil => simp
  | cons entry entries ih =>
    obtain ⟨key, value⟩ := entry
    rw [jsonEntries, bind_eq_ok] at h
    obtain ⟨⟨⟩, hkey, h⟩ := h
    rw [bind_eq_ok] at h
    obtain ⟨⟨⟩, hvalue, hentries⟩ := h
    rw [ensure_eq_ok, Bool.not_eq_true', List.contains_eq_mem, decide_eq_false_iff_not] at hkey
    obtain ⟨hnodup, hseen, hvalues⟩ := ih hentries
    have hfresh : ∀ entry ∈ entries, entry.1 ≠ key ∧ entry.1 ∉ seen := fun entry hentry =>
      ⟨fun heq => hseen entry hentry (heq ▸ List.mem_cons_self),
        fun hmem => hseen entry hentry (List.mem_cons_of_mem key hmem)⟩
    refine ⟨List.nodup_cons.mpr ⟨?_, hnodup⟩, List.forall_mem_cons.mpr ⟨hkey, fun entry hentry =>
      (hfresh entry hentry).2⟩, List.forall_mem_cons.mpr ⟨hvalue, hvalues⟩⟩
    rintro hmem
    obtain ⟨entry, hentry, heq⟩ := List.mem_map.mp hmem
    exact (hfresh entry hentry).1 heq

theorem jsonValue_object (h : jsonValue (.object entries) depth = .ok ()) :
    (entries.map Prod.fst).Nodup ∧
      ∀ entry ∈ entries, jsonValue entry.2 (depth + 1) = .ok () := by
  rw [jsonValue, bind_eq_ok] at h
  obtain ⟨⟨⟩, -, hentries⟩ := h
  obtain ⟨hnodup, -, hvalues⟩ := jsonEntries_eq_ok hentries
  exact ⟨hnodup, hvalues⟩

end Json

/-! ## Logical values -/

namespace LogicalValue

/-- The first value is directly inside the second. -/
inductive Child : LogicalValue → LogicalValue → Prop
  | element {value : LogicalValue} {elements : List LogicalValue} (h : value ∈ elements) :
    Child value (.array elements)
  | metadataElement {value : LogicalValue} {elements : List LogicalValue} (dimensions : ℕ)
      (lowerBounds : List ℤ) (dimensionLengths : List ℕ) (h : value ∈ elements) :
    Child value (.arrayWithMetadata elements dimensions lowerBounds dimensionLengths)
  | field {name : String} {value : LogicalValue} {fields : List (String × LogicalValue)}
      (h : (name, value) ∈ fields) : Child value (.struct fields)
  | key {key value : LogicalValue} {entries : List (LogicalValue × LogicalValue)}
      (h : (key, value) ∈ entries) : Child key (.map entries)
  | value {key value : LogicalValue} {entries : List (LogicalValue × LogicalValue)}
      (h : (key, value) ∈ entries) : Child value (.map entries)
  | lower (empty : Bool) (value : LogicalValue) (upper : Option LogicalValue)
      (lowerInclusive upperInclusive : Bool) :
    Child value (.range empty (some value) upper lowerInclusive upperInclusive)
  | upper (empty : Bool) (lower : Option LogicalValue) (value : LogicalValue)
      (lowerInclusive upperInclusive : Bool) :
    Child value (.range empty lower (some value) lowerInclusive upperInclusive)
  | range {value : LogicalValue} {ranges : List LogicalValue} (h : value ∈ ranges) :
    Child value (.multiRange ranges)
  | domain (value : LogicalValue) : Child value (.domain value)

/-- The first value is the second or inside it. -/
def Inside : LogicalValue → LogicalValue → Prop := Relation.ReflTransGen Child

theorem Child.sizeOf_lt {value parent : LogicalValue} (h : Child value parent) :
    sizeOf value < sizeOf parent := by
  cases h with
  | element h | metadataElement _ _ _ h | range h =>
    have hlt := List.sizeOf_lt_of_mem h
    simp only [array.sizeOf_spec, arrayWithMetadata.sizeOf_spec, multiRange.sizeOf_spec]
    omega
  | field h | key h | value h =>
    have hlt := List.sizeOf_lt_of_mem h
    simp only [Prod.mk.sizeOf_spec] at hlt
    simp only [struct.sizeOf_spec, map.sizeOf_spec]
    omega
  | lower | upper | domain =>
    simp only [range.sizeOf_spec, Option.some.sizeOf_spec, domain.sizeOf_spec]
    omega

/-- An induction over the values inside. -/
@[elab_as_elim]
theorem child_induction {motive : LogicalValue → Prop}
    (step : ∀ value, (∀ child, Child child value → motive child) → motive value)
    (value : LogicalValue) : motive value :=
  (InvImage.wf sizeOf Nat.lt_wfRel.wf).induction value fun value ih =>
    step value fun child h => ih child h.sizeOf_lt

end LogicalValue

mutual

/-- The same logical value with the members of its sets, the entries of its JSON objects and the
entries of its maps in another order. -/
inductive LogicalValue.Reordered : LogicalValue → LogicalValue → Prop
  | refl (value : LogicalValue) : LogicalValue.Reordered value value
  | set {members members' : List String} (h : members.Perm members') :
    LogicalValue.Reordered (.set members) (.set members')
  | json {value value' : JsonValue} (h : value.Reordered value') :
    LogicalValue.Reordered (.json value) (.json value')
  | array {elements elements' : List LogicalValue}
      (h : List.Forall₂ LogicalValue.Reordered elements elements') :
    LogicalValue.Reordered (.array elements) (.array elements')
  | arrayWithMetadata {elements elements' : List LogicalValue} (dimensions : ℕ)
      (lowerBounds : List ℤ) (dimensionLengths : List ℕ)
      (h : List.Forall₂ LogicalValue.Reordered elements elements') :
    LogicalValue.Reordered (.arrayWithMetadata elements dimensions lowerBounds dimensionLengths)
      (.arrayWithMetadata elements' dimensions lowerBounds dimensionLengths)
  | struct {fields fields' : List (String × LogicalValue)}
      (h : List.Forall₂ StructField.Reordered fields fields') :
    LogicalValue.Reordered (.struct fields) (.struct fields')
  | map {entries entries' entries'' : List (LogicalValue × LogicalValue)}
      (h : List.Forall₂ MapEntry.Reordered entries entries') (hperm : entries'.Perm entries'') :
    LogicalValue.Reordered (.map entries) (.map entries'')
  | range {lower lower' upper upper' : Option LogicalValue} (empty : Bool)
      (lowerInclusive upperInclusive : Bool) (hlower : BoundReordered lower lower')
      (hupper : BoundReordered upper upper') :
    LogicalValue.Reordered (.range empty lower upper lowerInclusive upperInclusive)
      (.range empty lower' upper' lowerInclusive upperInclusive)
  | multiRange {ranges ranges' : List LogicalValue}
      (h : List.Forall₂ LogicalValue.Reordered ranges ranges') :
    LogicalValue.Reordered (.multiRange ranges) (.multiRange ranges')
  | domain {value value' : LogicalValue} (h : LogicalValue.Reordered value value') :
    LogicalValue.Reordered (.domain value) (.domain value')

inductive StructField.Reordered : String × LogicalValue → String × LogicalValue → Prop
  | field (name : String) {value value' : LogicalValue} (h : LogicalValue.Reordered value value') :
    StructField.Reordered (name, value) (name, value')

inductive MapEntry.Reordered : LogicalValue × LogicalValue → LogicalValue × LogicalValue → Prop
  | entry {key key' value value' : LogicalValue} (hkey : LogicalValue.Reordered key key')
      (hvalue : LogicalValue.Reordered value value') :
    MapEntry.Reordered (key, value) (key', value')

inductive BoundReordered : Option LogicalValue → Option LogicalValue → Prop
  | none : BoundReordered none none
  | some {value value' : LogicalValue} (h : LogicalValue.Reordered value value') :
    BoundReordered (some value) (some value')

end

/-- The values are equal up to the order of members and entries. -/
def LogicalValue.SameUpToOrder (value value' : LogicalValue) : Prop :=
  ∃ common, value.Reordered common ∧ value'.Reordered common

theorem StructField.reordered_iff {field field' : String × LogicalValue} :
    StructField.Reordered field field' ↔ field'.1 = field.1 ∧ field.2.Reordered field'.2 := by
  constructor
  · rintro ⟨name, h⟩
    exact ⟨rfl, h⟩
  · obtain ⟨name, value⟩ := field
    obtain ⟨name', value'⟩ := field'
    rintro ⟨rfl, h⟩
    exact StructField.Reordered.field _ h

theorem MapEntry.reordered_iff {entry entry' : LogicalValue × LogicalValue} :
    MapEntry.Reordered entry entry' ↔ entry.1.Reordered entry'.1 ∧ entry.2.Reordered entry'.2 := by
  constructor
  · rintro ⟨hkey, hvalue⟩
    exact ⟨hkey, hvalue⟩
  · rintro ⟨hkey, hvalue⟩
    exact MapEntry.Reordered.entry hkey hvalue

/-! ## Logical values that pass validation -/

section Logical

variable {library : ValidationLibrary} {depth : ℕ}

theorem valuesAtDepth_mem {values : List LogicalValue}
    (h : valuesAtDepth library values depth = .ok ()) :
    ∀ value ∈ values, logicalValueAtDepth library value depth = .ok () := by
  induction values with
  | nil => simp
  | cons value values ih =>
    rw [valuesAtDepth, bind_eq_ok] at h
    obtain ⟨⟨⟩, hvalue, hvalues⟩ := h
    exact List.forall_mem_cons.mpr ⟨hvalue, ih hvalues⟩

theorem rangesAtDepth_mem {ranges : List LogicalValue}
    (h : rangesAtDepth library ranges depth = .ok ()) :
    ∀ range ∈ ranges, logicalValueAtDepth library range depth = .ok () := by
  induction ranges with
  | nil => simp
  | cons range ranges ih =>
    rw [rangesAtDepth, bind_eq_ok] at h
    obtain ⟨⟨⟩, -, h⟩ := h
    rw [bind_eq_ok] at h
    obtain ⟨⟨⟩, hrange, hranges⟩ := h
    exact List.forall_mem_cons.mpr ⟨hrange, ih hranges⟩

theorem fieldsAtDepth_mem {fields : List (String × LogicalValue)} {seen : List String}
    (h : fieldsAtDepth library fields seen depth = .ok ()) :
    ∀ field ∈ fields, logicalValueAtDepth library field.2 depth = .ok () := by
  induction fields generalizing seen with
  | nil => simp
  | cons field fields ih =>
    obtain ⟨name, value⟩ := field
    simp only [fieldsAtDepth, bind_eq_ok] at h
    obtain ⟨⟨⟩, -, ⟨⟩, -, ⟨⟩, hvalue, hfields⟩ := h
    exact List.forall_mem_cons.mpr ⟨hvalue, ih hfields⟩

theorem entriesAtDepth_mem {entries : List (LogicalValue × LogicalValue)}
    {seen : List LogicalValue} (h : entriesAtDepth library entries seen depth = .ok ()) :
    ∀ entry ∈ entries, logicalValueAtDepth library entry.1 depth = .ok () ∧
      logicalValueAtDepth library entry.2 depth = .ok () := by
  induction entries generalizing seen with
  | nil => simp
  | cons entry entries ih =>
    obtain ⟨key, value⟩ := entry
    simp only [entriesAtDepth, bind_eq_ok] at h
    obtain ⟨⟨⟩, -, ⟨⟩, hkey, ⟨⟩, hvalue, hentries⟩ := h
    exact List.forall_mem_cons.mpr ⟨⟨hkey, hvalue⟩, ih hentries⟩

/-- What is inside a valid value is valid, one level deeper. -/
theorem LogicalValue.Child.valid {value parent : LogicalValue} (hchild : Child value parent)
    (h : logicalValueAtDepth library parent depth = .ok ()) :
    logicalValueAtDepth library value (depth + 1) = .ok () := by
  cases hchild with
  | element hmem =>
    rw [logicalValueAtDepth, bind_eq_ok] at h
    obtain ⟨⟨⟩, -, h⟩ := h
    exact valuesAtDepth_mem h value hmem
  | metadataElement dimensions lowerBounds dimensionLengths hmem =>
    simp only [logicalValueAtDepth, bind_eq_ok] at h
    obtain ⟨⟨⟩, -, ⟨⟩, -, h⟩ := h
    exact valuesAtDepth_mem h value hmem
  | field hmem =>
    rw [logicalValueAtDepth, bind_eq_ok] at h
    obtain ⟨⟨⟩, -, h⟩ := h
    exact fieldsAtDepth_mem h _ hmem
  | key hmem =>
    rw [logicalValueAtDepth, bind_eq_ok] at h
    obtain ⟨⟨⟩, -, h⟩ := h
    exact (entriesAtDepth_mem h _ hmem).1
  | value hmem =>
    rw [logicalValueAtDepth, bind_eq_ok] at h
    obtain ⟨⟨⟩, -, h⟩ := h
    exact (entriesAtDepth_mem h _ hmem).2
  | lower =>
    simp only [logicalValueAtDepth, bind_eq_ok, optionAtDepth] at h
    obtain ⟨⟨⟩, -, ⟨⟩, -, ⟨⟩, h, -⟩ := h
    exact h
  | upper =>
    simp only [logicalValueAtDepth, bind_eq_ok, optionAtDepth] at h
    obtain ⟨⟨⟩, -, ⟨⟩, -, ⟨⟩, -, h⟩ := h
    exact h
  | range hmem =>
    rw [logicalValueAtDepth, bind_eq_ok] at h
    obtain ⟨⟨⟩, -, h⟩ := h
    exact rangesAtDepth_mem h value hmem
  | domain =>
    rw [logicalValueAtDepth, bind_eq_ok] at h
    obtain ⟨⟨⟩, -, h⟩ := h
    exact h

theorem jsonValue_of_valid {value : JsonValue}
    (h : logicalValueAtDepth library (.json value) depth = .ok ()) :
    jsonValue value 0 = .ok () := by
  rw [logicalValueAtDepth, bind_eq_ok] at h
  · obtain ⟨⟨⟩, -, h⟩ := h
    exact h
  all_goals simp

end Logical

/-! ## Transactions -/

section Transactions

variable {library : ValidationLibrary}

theorem imageColumns_valid {operation : Operation} {isBefore : Bool} {row : List ColumnDatum}
    {names : List String} {ordinals keyOrdinals keyOrdinals' : List ℕ}
    (h : imageColumns library operation isBefore row names ordinals keyOrdinals =
      .ok keyOrdinals') :
    ∀ column ∈ row, validateDatum library column = .ok () := by
  induction row generalizing names ordinals keyOrdinals with
  | nil => simp
  | cons column row ih =>
    simp only [imageColumns, bind_eq_ok] at h
    obtain ⟨⟨⟩, -, ⟨⟩, -, ⟨⟩, -, _, -, ⟨⟩, -, ⟨⟩, hdatum, hrow⟩ := h
    exact List.forall_mem_cons.mpr ⟨hdatum, ih hrow⟩

theorem image_valid {row : List ColumnDatum} {operation : Operation} {isBefore : Bool}
    (h : image library row operation isBefore = .ok ()) :
    ∀ column ∈ row, validateDatum library column = .ok () := by
  simp only [image, bind_eq_ok] at h
  obtain ⟨⟨⟩, -, _, hcolumns, -⟩ := h
  exact imageColumns_valid hcolumns

/-- Both images of a valid change pass their checks. -/
theorem validateChange_image {change : RowChange} (h : validateChange library change = .ok ()) :
    (∀ row ∈ change.before, image library row change.operation true = .ok ()) ∧
      ∀ row ∈ change.after, image library row change.operation false = .ok () := by
  simp only [validateChange, bind_eq_ok] at h
  obtain ⟨⟨⟩, -, ⟨⟩, -, ⟨⟩, -, ⟨⟩, -, h⟩ := h
  cases hbefore : change.before with
  | none =>
    cases hafter : change.after with
    | none => simp
    | some after =>
      simp only [hbefore, hafter, bind_eq_ok] at h
      obtain ⟨⟨⟩, hafter, -⟩ := h
      simp [hafter]
  | some before =>
    cases hafter : change.after with
    | none =>
      simp only [hbefore, hafter, bind_eq_ok] at h
      obtain ⟨⟨⟩, hbefore, -⟩ := h
      simp [hbefore]
    | some after =>
      simp only [hbefore, hafter, bind_eq_ok] at h
      obtain ⟨⟨⟩, hbefore, ⟨⟩, hafter, -⟩ := h
      simp [hbefore, hafter]

theorem validateChange_valid {change : RowChange} (h : validateChange library change = .ok ()) :
    ∀ column ∈ change.columns, validateDatum library column = .ok () := by
  obtain ⟨hbefore, hafter⟩ := validateChange_image h
  intro column hcolumn
  rw [RowChange.columns, List.mem_append] at hcolumn
  rcases hcolumn with hcolumn | hcolumn
  · cases hrow : change.before with
    | none => simp [hrow] at hcolumn
    | some row => exact image_valid (hbefore row hrow) column (by simpa [hrow] using hcolumn)
  · cases hrow : change.after with
    | none => simp [hrow] at hcolumn
    | some row => exact image_valid (hafter row hrow) column (by simpa [hrow] using hcolumn)

theorem validateChanges_valid {changes : List RowChange}
    (h : validateChanges library changes = .ok ()) :
    ∀ change ∈ changes, validateChange library change = .ok () := by
  induction changes with
  | nil => simp
  | cons change changes ih =>
    rw [validateChanges, bind_eq_ok] at h
    obtain ⟨⟨⟩, hchange, hchanges⟩ := h
    exact List.forall_mem_cons.mpr ⟨hchange, ih hchanges⟩

/-- Every value of a validated transaction is valid. -/
theorem ValidatedTransaction.value_valid (validated : ValidatedTransaction library) :
    ∀ value ∈ validated.transaction.values, logicalValueAtDepth library value 0 = .ok () := by
  intro value hvalue
  obtain ⟨change, hchange, hvalue⟩ := List.mem_flatMap.mp hvalue
  obtain ⟨column, hcolumn, hdatum⟩ := List.mem_filterMap.mp hvalue
  have hvalid := validated.valid
  simp only [checkTransaction, bind_eq_ok] at hvalid
  obtain ⟨⟨⟩, -, ⟨⟩, -, ⟨⟩, -, ⟨⟩, -, ⟨⟩, -, hchanges⟩ := hvalid
  have hcheck := validateChange_valid (validateChanges_valid hchanges change hchange) column hcolumn
  unfold ColumnDatum.value? at hdatum
  split at hdatum
  · next v hcolumn =>
    rw [validateDatum, hcolumn, mapError_eq_ok] at hcheck
    rwa [← Option.some.inj hdatum]
  · cases hdatum

end Transactions

/-- A value of the datum reordered. -/
inductive Datum.Reordered : Datum → Datum → Prop
  | refl (datum : Datum) : Datum.Reordered datum datum
  | value {value value' : LogicalValue} (h : value.Reordered value') :
    Datum.Reordered (.value value) (.value value')

def ColumnDatum.Reordered (column column' : ColumnDatum) : Prop :=
  column.datum.Reordered column'.datum ∧ column' = { column with datum := column'.datum }

/-- The values of both images reordered. -/
def RowChange.Reordered (change change' : RowChange) : Prop :=
  Option.Rel (List.Forall₂ ColumnDatum.Reordered) change.before change'.before ∧
    Option.Rel (List.Forall₂ ColumnDatum.Reordered) change.after change'.after ∧
    change' = { change with before := change'.before, after := change'.after }

def ChangeTransaction.Reordered (transaction transaction' : ChangeTransaction) : Prop :=
  List.Forall₂ RowChange.Reordered transaction.changes transaction'.changes ∧
    transaction' = { transaction with changes := transaction'.changes }

end DatabaseSync.ChangeEvent
