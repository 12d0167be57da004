import DatabaseSync.ChangeEvent.BitString
import DatabaseSync.Library.Decimal

/-! # Decimal values under a plan

The plan of a range-checked decimal column names the precision and the scale of both columns and
the number of digits that the target has before its point.
-/

namespace DatabaseSync.ChangeEvent

open Checked Decimal Text

/-! ## The check -/

/-- `unscaled.strip_prefix(['-', '+'])` -/
def stripSign : List Char → List Char
  | '-' :: digits => digits
  | '+' :: digits => digits
  | digits => digits

theorem stripSign_eq_dropMinus {l : List Char} (h : isDigits (dropMinus l) = true) :
    stripSign l = dropMinus l := by
  cases l with
  | nil => rfl
  | cons c l =>
    by_cases hminus : c = '-'
    · subst hminus
      rfl
    · by_cases hplus : c = '+'
      · subst hplus
        exact absurd ((isDigits_iff.mp h).2 '+' List.mem_cons_self) (by decide)
      · simp [stripSign, dropMinus, hminus, hplus]

def decimalDigits (unscaled : String) : Option (List Char) :=
  let digits := stripSign unscaled.toList
  if isDigits digits then some digits else none

/-- The digits after the place of the target, filled up with zeros on the left, are zeros. -/
def discardedZeros (digits : List Char) (discarded : ℕ) : Bool :=
  let padded := List.replicate (max digits.length discarded - digits.length) '0' ++ digits
  (padded.drop (padded.length - discarded)).all (· == '0')

/-- The digits before the point, without leading zeros. -/
def integerDigits (digits : List Char) (scale : ℤ) : ℕ :=
  if 0 ≤ scale then
    ((digits.take (digits.length - scale.toNat)).dropWhile (· == '0')).length
  else
    let significant := (digits.dropWhile (· == '0')).length
    if significant = 0 then 0 else significant + scale.natAbs

section Plan

variable (plan : ColumnConversionPlan)

/-- `plan.target.parameters.get(name).parse::<usize>()` -/
def targetUsize (name : String) : Option ℕ :=
  (plan.target.parameters.lookup name).bind parseU64

/-- `plan.target.parameters.get(name).parse::<i32>()` -/
def targetI32 (name : String) : Option ℤ :=
  (plan.target.parameters.lookup name).bind (parseSigned (2 ^ 31))

def validateDecimalSpecialValue (unscaled : String) (scale : ℤ) :
    Except TargetCapabilityFailure Bool :=
  if isSpecialDecimal unscaled then do
    plan.check (!(unscaled == "NaN" && scale != 0)) "target_capability.decimal_invalid"
      "NaN must use scale zero"
    let declared := (plan.target.parameters.lookup "decimal_special_values").any fun values =>
      (split values ',').any fun value => trim value == unscaled
    plan.check declared "target_capability.decimal_special_value_unsupported"
      ("the selected target representation does not support Decimal " ++ unscaled)
    return true
  else return false

/-- `i32::try_from(precision).ok()?.checked_sub(scale)?.max(0)` -/
def expectedIntegerDigits (precision : ℕ) (scale : ℤ) : Option ℕ :=
  if precision < 2 ^ 31 ∧ (precision : ℤ) - scale < 2 ^ 31 then
    some (max ((precision : ℤ) - scale) 0).toNat
  else none

def validateDecimalPlanValue (value : LogicalValue) : Except TargetCapabilityFailure Unit :=
  match value with
  | .decimal unscaled scale => do
    let missing := "target_capability.decimal_range_missing"
    let sourcePrecision ← plan.needs (targetUsize plan "source_precision") missing
      "Decimal source precision is missing"
    let sourceScale ← plan.needs (targetI32 plan "source_scale") missing
      "Decimal source scale is missing"
    plan.check (sourcePrecision != 0 && (-1000 ≤ sourceScale && sourceScale ≤ 1000))
      "target_capability.decimal_range_invalid" "Decimal source precision and scale are invalid"
    plan.check (scale == sourceScale || (sourceScale < 0 && scale == 0) || unscaled == "NaN")
      "target_capability.decimal_scale_mismatch"
      "Decimal value scale differs from the planned source scale"
    let targetPrecision ← plan.needs (targetUsize plan "target_precision") missing
      "Decimal target precision is missing"
    let targetScale ← plan.needs (targetI32 plan "target_scale") missing
      "Decimal target scale is missing"
    let targetIntegerDigits ← plan.needs (targetUsize plan "target_integer_digits") missing
      "Decimal target integer width is missing"
    plan.check (targetPrecision != 0 && (-1000 ≤ targetScale && targetScale ≤ 1000) &&
        expectedIntegerDigits targetPrecision targetScale == some targetIntegerDigits)
      "target_capability.decimal_range_invalid" "Decimal target precision and scale are invalid"
    let special ← validateDecimalSpecialValue plan unscaled scale
    if special then return ()
    else do
      let digits ← plan.needs (decimalDigits unscaled) "target_capability.decimal_invalid"
        "Decimal unscaled value is invalid"
      if targetScale < scale then
        plan.check (scale - targetScale < 2 ^ 31) "target_capability.decimal_scale_mismatch"
          "Decimal scale difference is outside the supported target range"
        plan.check (discardedZeros digits (scale - targetScale).toNat)
          "target_capability.decimal_rounding_required"
          "Decimal scale reduction would require rounding"
      plan.check (integerDigits digits scale ≤ targetIntegerDigits)
        "target_capability.decimal_overflow" "Decimal value is outside the target precision"
  | _ => .error (plan.failure "target_capability.decimal_type_mismatch"
      "the captured value is not a Decimal")

/-- `validate_value_against_plan` where the range kind is `decimal`. -/
def validateAgainstDecimalPlan (value : LogicalValue) : Except TargetCapabilityFailure Unit := do
  plan.check (plan.target.parameters.lookup "range_check" == some "strict")
    "target_capability.range_check_missing"
    "the saved plan does not require a strict range check"
  plan.check (plan.target.parameters.lookup "rounding_mode" == some "reject")
    "target_capability.rounding_policy_missing"
    "the saved plan does not reject implicit rounding"
  validateDecimalPlanValue plan value

/-- The precision and the scale of a decimal column. -/
structure DecimalColumn where
  precision : ℕ
  scale : ℤ
deriving DecidableEq, Repr

/-- The columns that PostgreSQL and MySQL declare. -/
structure DecimalColumn.Valid (column : DecimalColumn) : Prop where
  pos : 1 ≤ column.precision
  width : column.precision < 2 ^ 16
  scale_ge : -1000 ≤ column.scale
  scale_le : column.scale ≤ 1000

/-- A plan for a pair of columns. -/
structure DecimalPlan (source target : DecimalColumn) : Prop where
  rangeCheck : plan.target.parameters.lookup "range_check" = some "strict"
  roundingMode : plan.target.parameters.lookup "rounding_mode" = some "reject"
  sourcePrecision : targetUsize plan "source_precision" = some source.precision
  sourceScale : targetI32 plan "source_scale" = some source.scale
  targetPrecision : targetUsize plan "target_precision" = some target.precision
  targetScale : targetI32 plan "target_scale" = some target.scale
  integerDigits : targetUsize plan "target_integer_digits" =
    some (max ((target.precision : ℤ) - target.scale) 0).toNat

end Plan

end DatabaseSync.ChangeEvent
