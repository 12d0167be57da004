import DatabaseSync.ChangeEvent.BitString
import DatabaseSync.Library.Decimal

/-! # Integer values under a plan

The plan of a range-checked integer column names the signedness and the width of both columns and
the bounds of the target. The bounds are computed a second time from the width, and a value is
compared as a number of 128 bits.
-/

namespace DatabaseSync.ChangeEvent

open Checked Text

/-! ## The check -/

/-- The spellings of a `bool`. -/
def parseFlag : String → Option Bool
  | "true" => some true
  | "false" => some false
  | _ => none

theorem parseFlag_toString (b : Bool) : parseFlag (toString b) = some b := by
  cases b <;> rfl

/-- The least and the greatest value of a width. -/
def boundsOfWidth (signed : Bool) (bits : ℕ) : ℤ × ℤ :=
  if signed then (-2 ^ (bits - 1), 2 ^ (bits - 1) - 1) else (0, 2 ^ bits - 1)

section Plan

variable (plan : ColumnConversionPlan)

def targetFlag (name : String) : Option Bool :=
  (plan.target.parameters.lookup name).bind parseFlag

/-- `plan.target.parameters.get(name).parse::<u8>()` -/
def targetU8 (name : String) : Option ℕ :=
  (plan.target.parameters.lookup name).bind (parseUnsigned 10 (2 ^ 8))

/-- `plan.target.parameters.get(name).parse::<i128>()` -/
def targetI128 (name : String) : Option ℤ :=
  (plan.target.parameters.lookup name).bind (parseSigned (2 ^ 127))

def validateIntegerPlanValue (value : LogicalValue) : Except TargetCapabilityFailure Unit :=
  match value with
  | .integer signed bits value => do
    let missing := "target_capability.integer_range_missing"
    let targetSigned ← plan.needs (targetFlag plan "target_signed") missing
      "integer range metadata is incomplete"
    let targetBits ← plan.needs (targetU8 plan "target_bits") missing
      "integer target width is missing"
    plan.check ([8, 16, 24, 32, 64].contains targetBits) "target_capability.integer_range_invalid"
      "integer target width is not qualified"
    let savedMinimum ← plan.needs (targetI128 plan "target_min") missing
      "integer lower bound is missing"
    let savedMaximum ← plan.needs (targetI128 plan "target_max") missing
      "integer upper bound is missing"
    let sourceSigned ← plan.needs (targetFlag plan "source_signed") missing
      "integer source signedness is missing"
    let sourceBits ← plan.needs (targetU8 plan "source_bits") missing
      "integer source width is missing"
    plan.check ([8, 16, 24, 32, 64].contains sourceBits && signed == sourceSigned &&
        bits == sourceBits)
      "target_capability.integer_source_shape_mismatch"
      "captured integer metadata differs from the saved source shape"
    plan.check (signed || !startsWith value "-") "target_capability.integer_overflow"
      "a negative value cannot be written to an unsigned target"
    let parsed ← plan.needs (parseSigned (2 ^ 127) value) "target_capability.integer_invalid"
      (if signed then "signed integer value is invalid" else "unsigned integer value is invalid")
    let (minimum, maximum) := boundsOfWidth targetSigned targetBits
    plan.check ((savedMinimum, savedMaximum) == (minimum, maximum))
      "target_capability.integer_range_invalid"
      "saved integer bounds do not match the target width and signedness"
    plan.check (minimum ≤ parsed && parsed ≤ maximum) "target_capability.integer_overflow"
      "integer value is outside the fixed target range"
  | _ => .error (plan.failure "target_capability.integer_type_mismatch"
      "the captured value is not an integer")

end Plan

/-! ## Integer columns -/

/-- The integer columns of the connectors. -/
structure IntegerColumn where
  signed : Bool
  bits : ℕ
  width : [8, 16, 24, 32, 64].contains bits = true
deriving DecidableEq, Repr

namespace IntegerColumn

/-- The range of the column. -/
def Contains (column : IntegerColumn) (n : ℤ) : Prop :=
  if column.signed then -2 ^ (column.bits - 1) ≤ n ∧ n < 2 ^ (column.bits - 1)
  else 0 ≤ n ∧ n < 2 ^ column.bits

instance (column : IntegerColumn) (n : ℤ) : Decidable (column.Contains n) := by
  unfold Contains
  infer_instance

variable {column : IntegerColumn}

theorem bits_cases (column : IntegerColumn) : column.bits = 8 ∨ column.bits = 16 ∨
    column.bits = 24 ∨ column.bits = 32 ∨ column.bits = 64 := by
  simpa using column.width

/-- The bounds of the check are those of the column. -/
theorem contains_iff {n : ℤ} : column.Contains n ↔
    (boundsOfWidth column.signed column.bits).1 ≤ n ∧
      n ≤ (boundsOfWidth column.signed column.bits).2 := by
  unfold Contains boundsOfWidth
  cases column.signed with
  | true => exact and_congr_right fun _ => Int.le_sub_one_iff.symm
  | false => exact and_congr_right fun _ => Int.le_sub_one_iff.symm

/-- The bounds are numbers of 128 bits. -/
theorem bounds_lt (column : IntegerColumn) :
    (-2 ^ 127 ≤ (boundsOfWidth column.signed column.bits).1 ∧
        (boundsOfWidth column.signed column.bits).1 < 2 ^ 127) ∧
      -2 ^ 127 ≤ (boundsOfWidth column.signed column.bits).2 ∧
        (boundsOfWidth column.signed column.bits).2 < 2 ^ 127 := by
  unfold boundsOfWidth
  rcases column.bits_cases with h | h | h | h | h
  all_goals
    rw [h]
    cases column.signed <;> norm_num

end IntegerColumn

/-! ## Values -/

/-- The number that an integer value writes. -/
def integerNumber (text : String) : ℤ :=
  match text.toList with
  | '-' :: digits => -(decimalValue digits : ℤ)
  | digits => decimalValue digits

section Values

variable {text : String} {digits : List Char}

theorem minus_notMem (h : ∀ c ∈ digits, isAsciiDigit c = true) (rest : List Char) :
    digits ≠ '-' :: rest := by
  rintro rfl
  exact absurd (h '-' List.mem_cons_self) (by decide)

theorem integerNumber_of_digits (h : ∀ c ∈ text.toList, isAsciiDigit c = true) :
    integerNumber text = decimalValue text.toList := by
  unfold integerNumber
  split
  · next rest htext => exact absurd htext (minus_notMem h rest)
  · rfl

theorem integerNumber_of_minus (h : text.toList = '-' :: digits) :
    integerNumber text = -(decimalValue digits : ℤ) := by
  unfold integerNumber
  split
  · next rest htext => rw [List.cons.inj (htext.symm.trans h) |>.2]
  · next hno => exact absurd h (hno digits)

/-- An unsigned value that a change event may carry is read as its number. -/
theorem integer_unsigned {bits : ℕ} (h : integer text false bits = .ok ()) :
    (∀ c ∈ text.toList, isAsciiDigit c = true) ∧ integerNumber text < 2 ^ bits ∧
      (bits < 127 → parseSigned (2 ^ 127) text = some (integerNumber text)) := by
  simp only [integer, bind_eq_ok, ensure_eq_ok, if_neg Bool.false_ne_true] at h
  obtain ⟨-, -, -, hsyntax, hvalid⟩ := h
  obtain ⟨hne, hdigits⟩ := isDigits_iff.mp hsyntax
  have hread := @parseUnsigned_of_digits (2 ^ 128) _ hne hdigits
  rw [String.ofList_toList] at hread
  rw [hread] at hvalid
  split at hvalid
  · next v hv =>
    obtain ⟨-, hv⟩ := Option.ite_none_right_eq_some.mp hv
    have hlt : decimalValue text.toList < 2 ^ bits :=
      (Option.some.inj hv) ▸ of_decide_eq_true hvalid
    rw [integerNumber_of_digits hdigits]
    refine ⟨hdigits, by exact_mod_cast hlt, fun hbits => ?_⟩
    have hwide : decimalValue text.toList < 2 ^ 127 :=
      hlt.trans (Nat.pow_lt_pow_right (by decide) hbits)
    have hsigned := @parseSigned_of_digits (2 ^ 127) _ hne hdigits
    rwa [String.ofList_toList, if_pos hwide] at hsigned
  · cases hvalid

/-- A signed value that a change event may carry is read as its number. -/
theorem integer_signed {bits : ℕ} (h : integer text true bits = .ok ()) :
    parseSigned (2 ^ 127) text = some (integerNumber text) ∧
      -2 ^ (bits - 1) ≤ integerNumber text ∧ integerNumber text < 2 ^ (bits - 1) := by
  simp only [integer, bind_eq_ok, ensure_eq_ok, if_true] at h
  obtain ⟨-, -, -, hsyntax, hvalid⟩ := h
  split at hvalid
  · next v hv =>
    suffices hnumber : integerNumber text = v by
      rw [hnumber]
      exact ⟨hv, of_decide_eq_true hvalid⟩
    cases htext : text.toList with
    | nil =>
      rw [htext] at hsyntax
      cases hsyntax
    | cons c rest =>
      rw [htext] at hsyntax
      rw [← String.ofList_toList (s := text), htext] at hv
      by_cases hminus : c = '-'
      · subst hminus
        change isDigits rest = true at hsyntax
        obtain ⟨hne, hdigits⟩ := isDigits_iff.mp hsyntax
        rw [parseSigned_minus hne hdigits] at hv
        obtain ⟨-, hv⟩ := Option.ite_none_right_eq_some.mp hv
        rw [integerNumber_of_minus htext, Option.some.inj hv]
      · have hkept : dropMinus (c :: rest) = c :: rest := by simp [dropMinus, hminus]
        rw [hkept] at hsyntax
        obtain ⟨hne, hdigits⟩ := isDigits_iff.mp hsyntax
        rw [parseSigned_of_digits hne hdigits] at hv
        obtain ⟨-, hv⟩ := Option.ite_none_right_eq_some.mp hv
        rw [integerNumber_of_digits (htext ▸ hdigits), htext, Option.some.inj hv]
  · cases hvalid

variable {column : IntegerColumn}

/-- The values of a column are in its range. -/
theorem IntegerColumn.contains_of_integer (h : integer text column.signed column.bits = .ok ()) :
    column.Contains (integerNumber text) := by
  unfold IntegerColumn.Contains
  cases hsigned : column.signed with
  | true =>
    rw [hsigned] at h
    exact (integer_signed h).2
  | false =>
    rw [hsigned] at h
    obtain ⟨hdigits, hlt, -⟩ := integer_unsigned h
    rw [if_neg Bool.false_ne_true]
    refine ⟨?_, hlt⟩
    rw [integerNumber_of_digits hdigits]
    exact Int.natCast_nonneg _

theorem IntegerColumn.parse_integer (h : integer text column.signed column.bits = .ok ()) :
    parseSigned (2 ^ 127) text = some (integerNumber text) := by
  have hbits : column.bits < 127 := by
    rcases column.bits_cases with hbits | hbits | hbits | hbits | hbits
    all_goals omega
  cases hsigned : column.signed with
  | true =>
    rw [hsigned] at h
    exact (integer_signed h).1
  | false =>
    rw [hsigned] at h
    exact (integer_unsigned h).2.2 hbits

/-- Only a signed value starts with a minus sign. -/
theorem IntegerColumn.sign_integer (h : integer text column.signed column.bits = .ok ()) :
    (column.signed || !startsWith text "-") = true := by
  cases hsigned : column.signed with
  | true => rfl
  | false =>
    rw [hsigned] at h
    have hdigits := (integer_unsigned h).1
    rw [Bool.false_or, Bool.not_eq_true']
    cases htext : text.toList with
    | nil => simp [startsWith, htext]
    | cons c rest =>
      have hc : c ≠ '-' := by
        rintro rfl
        exact minus_notMem hdigits rest htext
      rw [startsWith, htext]
      exact Bool.and_eq_false_iff.mpr (.inl (beq_eq_false_iff_ne.mpr (Ne.symm hc)))

end Values

/-! ## The plan of two columns -/

/-- The parameters of a plan for two integer columns. -/
structure IntegerPlan (plan : ColumnConversionPlan) (source target : IntegerColumn) : Prop where
  sourceSigned : targetFlag plan "source_signed" = some source.signed
  sourceBits : targetU8 plan "source_bits" = some source.bits
  targetSigned : targetFlag plan "target_signed" = some target.signed
  targetBits : targetU8 plan "target_bits" = some target.bits
  minimum : targetI128 plan "target_min" = some (boundsOfWidth target.signed target.bits).1
  maximum : targetI128 plan "target_max" = some (boundsOfWidth target.signed target.bits).2

/-- The check accepts the values of the source that the target can store. -/
theorem validateIntegerPlanValue_iff {plan : ColumnConversionPlan} {source target : IntegerColumn}
    {text : String} (h : IntegerPlan plan source target)
    (hvalue : integer text source.signed source.bits = .ok ()) :
    validateIntegerPlanValue plan (.integer source.signed source.bits text) = .ok () ↔
      target.Contains (integerNumber text) := by
  unfold validateIntegerPlanValue
  simp only [h.sourceSigned, h.sourceBits, h.targetSigned, h.targetBits, h.minimum, h.maximum,
    source.parse_integer hvalue, source.sign_integer hvalue, source.width, target.width,
    bind_eq_ok, ColumnConversionPlan.needs_eq_ok, ColumnConversionPlan.check_eq_ok,
    Option.some.injEq, exists_eq_left', beq_self_eq_true, exists_const, true_and,
    target.contains_iff, Bool.and_eq_true, decide_eq_true_eq]

end DatabaseSync.ChangeEvent
