import DatabaseSync.ChangeEvent.NativeType
import DatabaseSync.ChangeEvent.Plan
import DatabaseSync.Library.Checked

/-! # Applying the saved plans to a transaction

Every covered column of a row image gets its value converted by its own plan. The rules for a
single value are parameters here.
-/

namespace DatabaseSync.ChangeEvent

open Checked

/-- What a plan says about a single value. -/
structure PlanRules where
  validateValueAgainstPlan : ColumnConversionPlan → LogicalValue →
    Except TargetCapabilityFailure Unit
  validateSourceRepresentationEnvelopeAgainstPlan : ColumnConversionPlan →
    SourceRepresentationEnvelope → Except TargetCapabilityFailure Unit
  convertValueWithPlan : ColumnConversionPlan → LogicalValue →
    Except TargetCapabilityFailure LogicalValue

def lineage (schema table column : String) : String :=
  "catalog:" ++ schema ++ "." ++ table ++ "." ++ column

/-- The first plan for the column. -/
def columnPlan (schema table : String) (column : ColumnDatum)
    (plans : List ColumnConversionPlan) : Option ColumnConversionPlan :=
  plans.find? fun plan => plan.sourceField.lineageId == lineage schema table column.name

section Conversion

variable (rules : PlanRules)

def convertDatum (plan : ColumnConversionPlan) : Datum → Except TargetCapabilityFailure Datum
  | .value value => return .value (← rules.convertValueWithPlan plan value)
  | .null => .ok .null
  | .unchanged => .ok .unchanged
  | .unavailable => .ok .unavailable
  | .sourceRepresentationEnvelope envelope => do
    rules.validateSourceRepresentationEnvelopeAgainstPlan plan envelope
    return .sourceRepresentationEnvelope envelope

/-- A column without a plan is left alone, and so is a generated one. -/
def convertColumn (schema table : String) (plans : List ColumnConversionPlan)
    (column : ColumnDatum) : Except TargetCapabilityFailure ColumnDatum :=
  match columnPlan schema table column plans with
  | none => .ok column
  | some plan =>
    if column.generated then .ok column
    else if plan.qualification = .exact ∧ plan.conversionKind = some "spatial" ∧
        isGeographyNativeType column.nativeType ≠ isGeographyNativeType plan.target.nativeType then
      .error (plan.failure "target_capability.spatial_geodetic_planar_mismatch"
        "the saved spatial plan treats geodetic geography and planar geometry as equivalent; requalify this field before writing")
    else do return { column with datum := ← convertDatum rules plan column.datum }

def convertImageWithPlans (schema table : String) (plans : List ColumnConversionPlan)
    (image : Option (List ColumnDatum)) :
    Except TargetCapabilityFailure (Option (List ColumnDatum)) :=
  match image with
  | none => .ok none
  | some image => do return some (← image.mapM (convertColumn rules schema table plans))

/-- Convert the before image, then the after image. -/
def convertChange (plans : List ColumnConversionPlan) (change : RowChange) :
    Except TargetCapabilityFailure RowChange := do
  let before ← convertImageWithPlans rules change.schema change.table plans change.before
  let after ← convertImageWithPlans rules change.schema change.table plans change.after
  return { change with before, after }

def convertTransactionWithPlans (transaction : ChangeTransaction)
    (plans : List ColumnConversionPlan) : Except TargetCapabilityFailure ChangeTransaction := do
  return { transaction with changes := ← transaction.changes.mapM (convertChange rules plans) }

end Conversion

/-! ## What a conversion leaves as it is -/

/-- The two columns differ in their values at most. -/
structure SameColumn (column converted : ColumnDatum) : Prop where
  name : converted.name = column.name
  nativeType : converted.nativeType = column.nativeType
  primaryKeyOrdinal : converted.primaryKeyOrdinal = column.primaryKeyOrdinal
  generated : converted.generated = column.generated
  unavailable : converted.datum = .unavailable ↔ column.datum = .unavailable
  unchanged : converted.datum = .unchanged ↔ column.datum = .unchanged
  null : converted.datum = .null ↔ column.datum = .null

section Lemmas

variable {rules : PlanRules} {plan : ColumnConversionPlan} {plans : List ColumnConversionPlan}
  {schema table : String} {column converted : ColumnDatum}

theorem SameColumn.refl (column : ColumnDatum) : SameColumn column column :=
  ⟨rfl, rfl, rfl, rfl, Iff.rfl, Iff.rfl, Iff.rfl⟩

theorem convertDatum_presence {datum datum' : Datum}
    (h : convertDatum rules plan datum = .ok datum') :
    (datum' = .unavailable ↔ datum = .unavailable) ∧
      (datum' = .unchanged ↔ datum = .unchanged) ∧ (datum' = .null ↔ datum = .null) := by
  cases datum <;>
    simp only [convertDatum, bind_eq_ok, pure_eq, Except.ok.injEq] at h
  case value value =>
    obtain ⟨value', -, rfl⟩ := h
    simp
  case sourceRepresentationEnvelope envelope =>
    obtain ⟨-, -, rfl⟩ := h
    simp
  all_goals subst h; simp

theorem convertColumn_same (h : convertColumn rules schema table plans column = .ok converted) :
    SameColumn column converted := by
  unfold convertColumn at h
  split at h
  · cases h
    exact SameColumn.refl column
  · split at h
    · cases h
      exact SameColumn.refl column
    · simp only [guard_eq_ok, bind_eq_ok, pure_eq, Except.ok.injEq] at h
      obtain ⟨-, datum, hdatum, rfl⟩ := h
      obtain ⟨hunavailable, hunchanged, hnull⟩ := convertDatum_presence hdatum
      exact ⟨rfl, rfl, rfl, rfl, hunavailable, hunchanged, hnull⟩

theorem convertTransactionWithPlans_eq_ok {transaction converted : ChangeTransaction}
    (h : convertTransactionWithPlans rules transaction plans = .ok converted) :
    ∃ changes, transaction.changes.mapM (convertChange rules plans) = .ok changes ∧
      converted = { transaction with changes } := by
  simp only [convertTransactionWithPlans, bind_eq_ok, pure_eq, Except.ok.injEq] at h
  obtain ⟨changes, hchanges, rfl⟩ := h
  exact ⟨changes, hchanges, rfl⟩

end Lemmas

end DatabaseSync.ChangeEvent
