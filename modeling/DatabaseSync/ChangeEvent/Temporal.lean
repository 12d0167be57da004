import DatabaseSync.ChangeEvent.TimeZone
import DatabaseSync.ChangeEvent.Validate
import DatabaseSync.Library.Calendar

/-! # Local datetimes and instants

The conversion between the civil time of a fixed offset and seconds from the epoch. Seconds are
signed 64-bit numbers and every operation is checked, so that what overflows is told apart from
what is refused.
-/

namespace DatabaseSync.ChangeEvent

open Calendar Checked Machine Text

/-! ## Civil-date arithmetic -/

section Days

variable {ε : Type}

def daysFromCivil (year : ℤ) (month day : ℕ) : Except (Fault ε) ℤ := do
  let year ← arith 64 (year - if month ≤ 2 then 1 else 0)
  let era := year / 400
  let yearOfEra ← arith 64 (year - (← arith 64 (era * 400)))
  let month ← arith 64 ((month : ℤ) + if 2 < month then -3 else 9)
  let monthDays := (← arith 64 ((← arith 64 (153 * month)) + 2)) / 5
  let dayOfYear ← arith 64 ((← arith 64 (monthDays + day)) - 1)
  let yearDays ← arith 64 ((← arith 64 ((← arith 64 (yearOfEra * 365)) + yearOfEra / 4)) -
    yearOfEra / 100)
  let dayOfEra ← arith 64 (yearDays + dayOfYear)
  arith 64 ((← arith 64 ((← arith 64 (era * 146097)) + dayOfEra)) - 719468)

def civilFromDays (days : ℤ) : Except (Fault ε) (ℤ × ℤ × ℤ) := do
  let z ← arith 64 (days + 719468)
  let era := z / 146097
  let dayOfEra ← arith 64 (z - (← arith 64 (era * 146097)))
  let yearOfEra := (← arith 64 ((← arith 64 ((← arith 64 (dayOfEra - dayOfEra / 1460)) +
    dayOfEra / 36524)) - dayOfEra / 146096)) / 365
  let year ← arith 64 (yearOfEra + (← arith 64 (era * 400)))
  let yearDays ← arith 64 ((← arith 64 ((← arith 64 (365 * yearOfEra)) + yearOfEra / 4)) -
    yearOfEra / 100)
  let dayOfYear ← arith 64 (dayOfEra - yearDays)
  let monthPart := (← arith 64 ((← arith 64 (5 * dayOfYear)) + 2)) / 153
  let monthDays := (← arith 64 ((← arith 64 (153 * monthPart)) + 2)) / 5
  let day ← arith 64 ((← arith 64 (dayOfYear - monthDays)) + 1)
  let month ← arith 64 (monthPart + if monthPart < 10 then 3 else -9)
  let year ← arith 64 (year + if month ≤ 2 then 1 else 0)
  return (year, month, day)

theorem fits_of_bounds {n : ℤ} (h : -9223372036854775808 ≤ n) (h' : n ≤ 9223372036854775807) :
    Fits 64 n := by
  constructor
  · norm_num
    exact h
  · norm_num
    omega

/-- A step within the bounds of `i64`. -/
theorem arith_step {α : Type} {n : ℤ} {f : ℤ → Except (Fault ε) α} {r : Except (Fault ε) α}
    (h : -9223372036854775808 ≤ n) (h' : n ≤ 9223372036854775807) (hf : f n = r) :
    (arith 64 n >>= f) = r :=
  (arith_bind (fits_of_bounds h h')).trans hf

theorem daysFromCivil_eq {year : ℤ} {month day : ℕ} (h : Fits 32 year) (hmonth : month ≤ 12)
    (hday : day ≤ 31) :
    (daysFromCivil year month day : Except (Fault ε) ℤ) =
      .ok (Calendar.daysFromCivil year month day) := by
  obtain ⟨hlow, hhigh⟩ := h
  norm_num at hlow hhigh
  have hwinter : ((month : ℤ) ≤ 2) = (month ≤ 2) := by norm_cast
  have hsummer : (2 < (month : ℤ)) = (2 < month) := by norm_cast
  unfold daysFromCivil Calendar.daysFromCivil
  simp only [hwinter, hsummer]
  repeat
    refine arith_step (by omega) (by omega) ?_
    try dsimp only
  exact arith_of_fits (fits_of_bounds (by omega) (by omega))

theorem civilFromDays_eq {days : ℤ} (h : -2 ^ 60 ≤ days) (h' : days ≤ 2 ^ 60) :
    (civilFromDays days : Except (Fault ε) (ℤ × ℤ × ℤ)) = .ok (Calendar.civilFromDays days) := by
  norm_num at h h'
  unfold civilFromDays Calendar.civilFromDays
  repeat
    refine arith_step (by omega) (by omega) ?_
    try dsimp only
  rfl

end Days

/-! ## Conversion -/

section Conversion

variable (plan : ColumnConversionPlan)

/-- `plan.target.parameters.get(name).unwrap_or_default()` -/
def temporalKind (name : String) : String := (plan.target.parameters.lookup name).getD ""

def validateMicrosecondPrecision (microsecond precision : ℕ) :
    Except (Fault TargetCapabilityFailure) Unit :=
  require (microsecond % 10 ^ (6 - precision) == 0)
    (plan.failure "target_capability.temporal_precision_loss"
      "temporal conversion would discard non-zero fractional precision")

def validateNanosecondPrecision (nanoseconds precision : ℕ) :
    Except (Fault TargetCapabilityFailure) Unit :=
  require (nanoseconds % 10 ^ (9 - precision) == 0)
    (plan.failure "target_capability.temporal_precision_loss"
      "temporal conversion would discard non-zero fractional precision")

/-- `parse::<u8>().ok().filter(|precision| *precision <= 6)` -/
def temporalTargetPrecision : Option ℕ := do
  let value ← plan.target.parameters.lookup "target_precision"
  (parseUnsigned 10 (2 ^ 8) value).filter (· ≤ 6)

def validateTemporalPlanValue (value : LogicalValue) :
    Except (Fault TargetCapabilityFailure) Unit := do
  let targetPrecision ← demand (temporalTargetPrecision plan)
    (plan.failure "target_capability.temporal_precision_invalid"
      "the target temporal precision is missing or invalid")
  require (plan.parameters.lookup "precision_policy" == some "reject")
    (plan.failure "target_capability.temporal_precision_policy_missing"
      "temporal precision conversion must reject non-zero discarded precision")
  match temporalKind plan "source_temporal_kind", temporalKind plan "target_temporal_kind",
    value with
  | "local_datetime", "local_datetime", .localDatetime _ _ _ _ _ _ microsecond =>
    validateMicrosecondPrecision plan microsecond targetPrecision
  | "instant", "instant", .instant _ nanoseconds =>
    validateNanosecondPrecision plan nanoseconds targetPrecision
  | "duration", "duration", .duration _ _ _ _ microsecond =>
    validateMicrosecondPrecision plan microsecond targetPrecision
  | "local_datetime", "instant", .localDatetime _ _ _ _ _ _ microsecond => do
    validateMicrosecondPrecision plan microsecond targetPrecision
    let _ ← parseTimezoneOffset plan
    return ()
  | "instant", "local_datetime", .instant _ nanoseconds => do
    validateNanosecondPrecision plan nanoseconds targetPrecision
    let _ ← parseTimezoneOffset plan
    return ()
  | _, _, _ => refuse (plan.failure "target_capability.temporal_type_mismatch"
      "the captured temporal value does not match the saved conversion strategy")

def localToInstant (year : ℤ) (month day hour minute second microsecond : ℕ) :
    Except (Fault TargetCapabilityFailure) LogicalValue := do
  let offset ← parseTimezoneOffset plan
  let days ← daysFromCivil year month day
  let daySeconds ← arith 64 (days * 86400)
  let hourSeconds ← arith 64 (daySeconds + (← arith 64 ((hour : ℤ) * 3600)))
  let minuteSeconds ← arith 64 (hourSeconds + (← arith 64 ((minute : ℤ) * 60)))
  let localSeconds ← arith 64 (minuteSeconds + second)
  let seconds ← arith 64 (localSeconds - offset)
  let nanoseconds ← natural 32 (microsecond * 1000)
  return .instant (toString seconds) nanoseconds

def instantToLocal (unixSeconds : String) (nanoseconds : ℕ) :
    Except (Fault TargetCapabilityFailure) LogicalValue := do
  let invalid := plan.failure "target_capability.temporal_value_invalid"
  let offset ← parseTimezoneOffset plan
  let unix ← demand (parseSigned (2 ^ 63) unixSeconds) (invalid "instant seconds are invalid")
  let seconds ← arith 64 (unix + offset)
  let daySeconds := seconds % 86400
  let (year, month, day) ← civilFromDays (seconds / 86400)
  require (Fits 32 year)
    (invalid "the converted local datetime year is outside the ChangeEvent range")
  return .localDatetime year month.toNat day.toNat (daySeconds / 3600).toNat
    (daySeconds % 3600 / 60).toNat (daySeconds % 60).toNat (nanoseconds / 1000)

def convertTemporalValue (value : LogicalValue) :
    Except (Fault TargetCapabilityFailure) LogicalValue :=
  match temporalKind plan "source_temporal_kind", temporalKind plan "target_temporal_kind",
    value with
  | "local_datetime", "local_datetime", .localDatetime .. => .ok value
  | "instant", "instant", .instant .. => .ok value
  | "duration", "duration", .duration .. => .ok value
  | "local_datetime", "instant", .localDatetime year month day hour minute second microsecond =>
    localToInstant plan year month day hour minute second microsecond
  | "instant", "local_datetime", .instant unixSeconds nanoseconds =>
    instantToLocal plan unixSeconds nanoseconds
  | _, _, _ => refuse (plan.failure "target_capability.temporal_type_mismatch"
      "the captured temporal value does not match the saved conversion strategy")

/-- `convert_value_with_plan` where the conversion kind is `temporal`. -/
def convertWithTemporalPlan (value : LogicalValue) :
    Except (Fault TargetCapabilityFailure) LogicalValue := do
  validateTemporalPlanValue plan value
  convertTemporalValue plan value

end Conversion

/-! ## What the conversions compute -/

/-- A local datetime with a civil time. -/
def LogicalValue.ofCivilTime (time : CivilTime) (microsecond : ℕ) : LogicalValue :=
  .localDatetime time.date.year time.date.month time.date.day time.hour time.minute time.second
    microsecond

section Computed

variable {plan : ColumnConversionPlan} {civil : CivilTime} {offset n : ℤ} {microsecond : ℕ}
  {unixSeconds : String} {nanoseconds : ℕ}

theorem daysInMonth_eq (year : ℤ) (month : ℕ) :
    daysInMonth year month = monthLength year month := by
  have hleap : isLeapYear year = decide (IsLeapYear year) := by
    unfold isLeapYear IsLeapYear
    exact decide_eq_decide.mpr Iff.rfl
  unfold daysInMonth monthLength
  split
  all_goals first | rfl | simp only [hleap, decide_eq_true_eq]

theorem date_eq_ok {date : CivilDate} :
    ChangeEvent.date date.year date.month date.day = .ok () ↔ date.Valid := by
  unfold ChangeEvent.date
  rw [ensure_eq_ok, Bool.and_eq_true, decide_eq_true_eq, decide_eq_true_eq, daysInMonth_eq]
  constructor
  · rintro ⟨hpos, hle⟩
    refine ⟨?_, hpos, hle⟩
    by_contra hmonth
    rw [monthLength_of_lt (Nat.lt_of_not_le hmonth)] at hle
    omega
  · rintro ⟨-, hpos, hle⟩
    exact ⟨hpos, hle⟩

/-- A valid local datetime with a regular hour is a civil time. -/
theorem exists_civilTime (library : ValidationLibrary) {year : ℤ} {month day hour minute second : ℕ}
    (h : logicalValue library (.localDatetime year month day hour minute second microsecond) =
      .ok ()) (hhour : hour < 24) :
    (⟨⟨year, month, day⟩, hour, minute, second⟩ : CivilTime).Valid ∧ microsecond < 1000000 := by
  unfold logicalValue logicalValueAtDepth scalarValue at h
  simp only [bind_eq_ok, ensure_eq_ok, exists_const] at h
  obtain ⟨-, _, hdate, htime⟩ := h
  have hvalid := (@date_eq_ok ⟨year, month, day⟩).mp hdate
  unfold ChangeEvent.time at htime
  simp only [Bool.and_eq_true, decide_eq_true_eq] at htime
  exact ⟨⟨hvalid, hhour, htime.1.1.2, htime.1.2⟩, htime.2⟩

/-- A valid instant is a number of `i64` and less than a second. -/
theorem exists_unixSeconds (library : ValidationLibrary)
    (h : logicalValue library (.instant unixSeconds nanoseconds) = .ok ()) :
    (∃ n, parseSigned (2 ^ 63) unixSeconds = some n ∧ Fits 64 n) ∧ nanoseconds < 1000000000 := by
  unfold logicalValue logicalValueAtDepth scalarValue integer at h
  simp only [bind_eq_ok, ensure_eq_ok, exists_const, decide_eq_true_eq] at h
  obtain ⟨-, ⟨-, -, hvalid⟩, hnano⟩ := h
  refine ⟨?_, hnano⟩
  rw [if_pos trivial] at hvalid
  split at hvalid
  · next v hread =>
    obtain ⟨hlow, hhigh⟩ := of_decide_eq_true hvalid
    exact ⟨v, parseSigned_of_bounds hread hlow hhigh, hlow, hhigh⟩
  · cases hvalid

theorem parseTimezoneOffset_fits (h : parseTimezoneOffset plan = .ok offset) : Fits 32 offset := by
  unfold parseTimezoneOffset at h
  rw [bind_eq_ok] at h
  obtain ⟨value, -, hvalue⟩ := h
  exact parseOffset_fits hvalue

/-- Within the years of `i32` a time is less than 2^60 seconds from the epoch. -/
theorem unixSeconds_bounds (hvalid : civil.Valid) (hyear : Fits 32 civil.date.year) :
    -2 ^ 60 < civil.date.dayNumber * 86400 ∧ civil.date.dayNumber * 86400 < 2 ^ 60 := by
  obtain ⟨hlow, hhigh⟩ := hyear
  obtain ⟨hdays, hdays'⟩ := hvalid.date.dayNumber_mem
  unfold daysBeforeYear at hdays hdays'
  norm_num at hlow hhigh ⊢
  omega

theorem localToInstant_eq (hoffset : parseTimezoneOffset plan = .ok offset) (hvalid : civil.Valid)
    (hyear : Fits 32 civil.date.year) (hmicro : microsecond < 1000000) :
    localToInstant plan civil.date.year civil.date.month civil.date.day civil.hour civil.minute
      civil.second microsecond =
        .ok (.instant (toString (civil.unixSeconds - offset)) (microsecond * 1000)) := by
  obtain ⟨hlow, hhigh⟩ := unixSeconds_bounds hvalid hyear
  obtain ⟨hoffsetLow, hoffsetHigh⟩ := parseTimezoneOffset_fits hoffset
  obtain ⟨hdate, hhour, hminute, hsecond⟩ := hvalid
  norm_num at hlow hhigh hoffsetLow hoffsetHigh
  unfold localToInstant CivilTime.unixSeconds
  rw [hoffset, ok_bind, daysFromCivil_eq hyear hdate.month_le hdate.day_le_31, ok_bind,
    Calendar.daysFromCivil_eq hdate]
  repeat
    refine arith_step (by omega) (by omega) ?_
    try dsimp only
  rw [natural_of_lt (by omega)]
  rfl

theorem instantToLocal_overflow (hoffset : parseTimezoneOffset plan = .ok offset)
    (hread : parseSigned (2 ^ 63) unixSeconds = some n) (hsum : ¬ Fits 64 (n + offset)) :
    instantToLocal plan unixSeconds nanoseconds = .error .overflow := by
  unfold instantToLocal
  rw [hoffset, ok_bind, hread]
  simp only [demand, ok_bind]
  rw [arith_of_not_fits hsum]
  rfl

/-- The civil time of the instant at the offset, where its year fits `i32`. -/
theorem instantToLocal_eq (hoffset : parseTimezoneOffset plan = .ok offset)
    (hread : parseSigned (2 ^ 63) unixSeconds = some n) (hsum : Fits 64 (n + offset))
    (hvalid : civil.Valid) (hcivil : civil.unixSeconds = n + offset) :
    instantToLocal plan unixSeconds nanoseconds =
      if Fits 32 civil.date.year then .ok (.ofCivilTime civil (nanoseconds / 1000))
      else refuse (plan.failure "target_capability.temporal_value_invalid"
        "the converted local datetime year is outside the ChangeEvent range") := by
  obtain ⟨other, hother, hseconds, hdate, hhour, hminute, hsecond⟩ :=
    CivilTime.exists_unixSeconds (n + offset)
  obtain rfl := CivilTime.unixSeconds_injective hother hvalid (hseconds.trans hcivil.symm)
  obtain ⟨hlow, hhigh⟩ := hsum
  have hdays : (civilFromDays ((n + offset) / 86400) : Except (Fault TargetCapabilityFailure) _) =
      .ok (Calendar.civilFromDays ((n + offset) / 86400)) := by
    apply civilFromDays_eq
    · norm_num at hlow ⊢
      omega
    · norm_num at hhigh ⊢
      omega
  unfold instantToLocal
  rw [hoffset, ok_bind, hread]
  simp only [demand, ok_bind]
  rw [arith_bind ⟨hlow, hhigh⟩]
  rw [hdays, ok_bind, hdate, ← hhour, ← hminute, ← hsecond]
  simp only [require, decide_eq_true_eq, Int.toNat_natCast]
  split
  · rfl
  · rfl

end Computed

end DatabaseSync.ChangeEvent
