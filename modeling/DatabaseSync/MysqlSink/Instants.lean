import DatabaseSync.ChangeEvent.BitConversion
import DatabaseSync.MysqlSink.Value
import DatabaseSync.MysqlSource.Timestamp

/-! # Instants in three places

The conversion of a plan, the renderer of the MySQL sink and the decoder of the MySQL source
compute the same civil times. Only the sum of an instant and its offset can leave `i64`.
-/

namespace DatabaseSync.MysqlSink

open Calendar ChangeEvent Checked Machine MysqlSource Text

section Renderer

variable {unixSeconds : String} {nanoseconds : ℕ} {n : ℤ} {civil : CivilTime}

theorem civilFromDays_eq (days : ℤ) : civilFromDays days = Calendar.civilFromDays days := rfl

/-- The renderer takes every text that is read as a number. -/
theorem validateInteger_of_read {bound : ℕ} (hread : parseSigned bound unixSeconds = some n) :
    validateInteger unixSeconds true = .ok unixSeconds := by
  have hdigits : isDigits (unsignedDigits unixSeconds) = true := by
    rw [← String.ofList_toList (s := unixSeconds)] at hread
    obtain ⟨digits, hne, hall, hform⟩ := parseSigned_eq_some hread
    have hresult : isDigits digits = true := by
      rw [isDigits, Bool.and_eq_true, List.all_eq_true]
      exact ⟨by simpa using hne, hall⟩
    rcases hform with ⟨hl, -⟩ | ⟨hl, -⟩ | ⟨hl, -⟩
    · have hhead : ∀ l, digits ≠ '-' :: l ∧ digits ≠ '+' :: l := by
        intro l
        constructor
        · rintro rfl
          exact absurd (hall '-' List.mem_cons_self) (by decide)
        · rintro rfl
          exact absurd (hall '+' List.mem_cons_self) (by decide)
      unfold unsignedDigits
      rw [hl]
      split
      · next l => exact absurd rfl (hhead l).1
      · next l => exact absurd rfl (hhead l).2
      · exact hresult
    · rw [unsignedDigits, hl]
      exact hresult
    · rw [unsignedDigits, hl]
      exact hresult
  unfold validateInteger
  rw [if_pos rfl, hdigits]
  rfl

/-- The renderer writes the civil time of an instant whose year fits the driver. -/
theorem unixInstantValue_eq (hread : parseSigned (2 ^ 63) unixSeconds = some n)
    (hnano : nanoseconds < 1000000000) (hmicro : nanoseconds % 1000 = 0) (hvalid : civil.Valid)
    (hcivil : civil.unixSeconds = n) :
    unixInstantValue unixSeconds nanoseconds =
      if 1 ≤ civil.date.year ∧ civil.date.year ≤ 65535 then
        .ok (.date civil.date.year.toNat civil.date.month civil.date.day civil.hour civil.minute
          civil.second (nanoseconds / 1000))
      else .error (capabilityFailure "instant is outside MySQL date range") := by
  obtain ⟨other, hother, hseconds, hdate, hhour, hminute, hsecond⟩ := CivilTime.exists_unixSeconds n
  obtain rfl := CivilTime.unixSeconds_injective hother hvalid (hseconds.trans hcivil.symm)
  have hclock : (n % 86400).toNat / 3600 = other.hour ∧
      (n % 86400).toNat % 3600 / 60 = other.minute ∧ (n % 86400).toNat % 60 = other.second := by
    omega
  obtain ⟨hhour, hminute, hsecond⟩ := hclock
  unfold unixInstantValue
  rw [if_neg (by omega), validateInteger_of_read hread]
  simp only [ok_bind, hread, civilFromDays_eq, hdate, Int.toNat_natCast]
  by_cases hyear : 1 ≤ other.date.year ∧ other.date.year ≤ 65535
  · rw [if_neg (not_not.mpr hyear), if_pos hyear, hhour, hminute, hsecond]
    rfl
  · rw [if_pos hyear, if_neg hyear]
    rfl

end Renderer

/-! ## The conversions of two plans -/

section Plans

variable {toLocal toInstant : ColumnConversionPlan} {unixSeconds : String} {nanoseconds : ℕ}
  {offset n : ℤ}

/-- Plans between instants and local datetimes at one offset. -/
structure OffsetPlans (toLocal toInstant : ColumnConversionPlan) (offset : ℤ) : Prop where
  instantSource : temporalKind toLocal "source_temporal_kind" = "instant"
  localTarget : temporalKind toLocal "target_temporal_kind" = "local_datetime"
  localSource : temporalKind toInstant "source_temporal_kind" = "local_datetime"
  instantTarget : temporalKind toInstant "target_temporal_kind" = "instant"
  localOffset : parseTimezoneOffset toLocal = .ok offset
  instantOffset : parseTimezoneOffset toInstant = .ok offset

/-- The conversion to a local datetime does not overflow and what it returns is the civil time of
the instant at the offset; the way back from a local datetime is the identity; and in UTC the
renderer and the decoder of MySQL compute the same for the years that they know. -/
structure ConversionExact (library : ValidationLibrary)
    (toLocal toInstant : ColumnConversionPlan) (offset : ℤ) (unixSeconds : String)
    (nanoseconds : ℕ) : Prop where
  noOverflow : convertWithTemporalPlan toLocal (.instant unixSeconds nanoseconds) ≠ .error .overflow
  denotes : ∀ result, convertWithTemporalPlan toLocal (.instant unixSeconds nanoseconds) =
    .ok result → ∃ civil microsecond n, parseSigned (2 ^ 63) unixSeconds = some n ∧ civil.Valid ∧
      result = .ofCivilTime civil microsecond ∧ civil.unixSeconds = n + offset ∧
      microsecond * 1000 = nanoseconds
  roundTrip : ∀ year month day hour minute second microsecond, Fits 32 year → hour < 24 →
    logicalValue library (.localDatetime year month day hour minute second microsecond) = .ok () →
    ∃ instant, convertTemporalValue toInstant
        (.localDatetime year month day hour minute second microsecond) = .ok instant ∧
      convertTemporalValue toLocal instant =
        .ok (.localDatetime year month day hour minute second microsecond)
  renders : offset = 0 → nanoseconds % 1000 = 0 → ∀ (civil : CivilTime) (microsecond : ℕ),
    1 ≤ civil.date.year → civil.date.year ≤ 65535 →
    (convertTemporalValue toLocal (.instant unixSeconds nanoseconds) =
        .ok (.ofCivilTime civil microsecond) ↔
      unixInstantValue unixSeconds nanoseconds = .ok (.date civil.date.year.toNat civil.date.month
        civil.date.day civil.hour civil.minute civil.second microsecond))
  decodes : offset = 0 → ∀ (civil : CivilTime) (microsecond : ℕ), civil.Valid →
    microsecond < 1000000 → 1 ≤ civil.date.year → civil.date.year ≤ 65535 →
    ∃ instant, convertTemporalValue toInstant (.ofCivilTime civil microsecond) = .ok instant ∧
      timestampFromComponents civil.date.year.toNat civil.date.month civil.date.day civil.hour
        civil.minute civil.second microsecond = .ok instant

/-- The sum of the instant and the offset fits `i64`, unless the plan refuses the value before. -/
def SumFits (toLocal : ColumnConversionPlan) (offset : ℤ) (unixSeconds : String)
    (nanoseconds : ℕ) : Prop :=
  validateTemporalPlanValue toLocal (.instant unixSeconds nanoseconds) = .ok () →
    ∀ n, parseSigned (2 ^ 63) unixSeconds = some n → Fits 64 (n + offset)

theorem ofCivilTime_inj {civil other : CivilTime} {microsecond other' : ℕ} :
    LogicalValue.ofCivilTime civil microsecond = .ofCivilTime other other' ↔
      civil = other ∧ microsecond = other' := by
  constructor
  · intro heq
    obtain ⟨⟨year, month, day⟩, hour, minute, second⟩ := civil
    obtain ⟨⟨year', month', day'⟩, hour', minute', second'⟩ := other
    unfold LogicalValue.ofCivilTime at heq
    rw [LogicalValue.localDatetime.injEq] at heq
    obtain ⟨rfl, rfl, rfl, rfl, rfl, rfl, rfl⟩ := heq
    exact ⟨rfl, rfl⟩
  · rintro ⟨rfl, rfl⟩
    rfl

theorem temporalTargetPrecision_le {plan : ColumnConversionPlan} {precision : ℕ}
    (h : temporalTargetPrecision plan = some precision) : precision ≤ 6 := by
  unfold temporalTargetPrecision at h
  simp only [Option.bind_eq_bind, Option.bind_eq_some_iff, Option.filter_eq_some_iff,
    decide_eq_true_eq] at h
  obtain ⟨_, -, -, hle⟩ := h
  exact hle

namespace OffsetPlans

variable (h : OffsetPlans toLocal toInstant offset)
include h

theorem convertInstant_eq :
    convertTemporalValue toLocal (.instant unixSeconds nanoseconds) =
      instantToLocal toLocal unixSeconds nanoseconds := by
  unfold convertTemporalValue
  rw [h.instantSource, h.localTarget]
  rfl

theorem convertLocal_eq {year : ℤ} {month day hour minute second microsecond : ℕ} :
    convertTemporalValue toInstant
        (.localDatetime year month day hour minute second microsecond) =
      localToInstant toInstant year month day hour minute second microsecond := by
  unfold convertTemporalValue
  rw [h.localSource, h.instantTarget]
  rfl

/-- The checks of the plan do not overflow and leave no part of a microsecond. -/
theorem validate_cases (unixSeconds : String) (nanoseconds : ℕ) :
    (∃ failure, validateTemporalPlanValue toLocal (.instant unixSeconds nanoseconds) =
      .error (.refused failure)) ∨
    validateTemporalPlanValue toLocal (.instant unixSeconds nanoseconds) = .ok () ∧
      nanoseconds % 1000 = 0 := by
  unfold validateTemporalPlanValue
  rw [h.instantSource, h.localTarget]
  cases hprecision : temporalTargetPrecision toLocal with
  | none => exact .inl ⟨_, rfl⟩
  | some precision =>
    rw [demand, ok_bind]
    rcases Bool.eq_false_or_eq_true (toLocal.parameters.lookup "precision_policy" == some "reject")
      with hpolicy | hpolicy
    · rw [hpolicy, require, if_pos rfl, ok_bind]
      change (∃ failure, (validateNanosecondPrecision toLocal nanoseconds precision >>= fun _ =>
        parseTimezoneOffset toLocal >>= fun _ => .ok ()) = .error (.refused failure)) ∨
        (validateNanosecondPrecision toLocal nanoseconds precision >>= fun _ =>
          parseTimezoneOffset toLocal >>= fun _ => .ok ()) = .ok () ∧ _
      rcases Bool.eq_false_or_eq_true (nanoseconds % 10 ^ (9 - precision) == 0) with hnano | hnano
      · right
        rw [validateNanosecondPrecision, hnano, require, if_pos rfl, ok_bind, h.localOffset]
        refine ⟨rfl, ?_⟩
        have hle := temporalTargetPrecision_le hprecision
        have hdvd : 10 ^ (9 - precision) ∣ nanoseconds :=
          Nat.dvd_of_mod_eq_zero (by simpa using hnano)
        have hthousand : 10 ^ 3 ∣ nanoseconds :=
          (Nat.pow_dvd_pow 10 (by omega)).trans hdvd
        omega
      · left
        rw [validateNanosecondPrecision, hnano]
        exact ⟨_, rfl⟩
    · left
      rw [hpolicy]
      exact ⟨_, rfl⟩

/-- What the conversion returns is the civil time at the offset. -/
theorem denotes (library : ValidationLibrary)
    (hvalue : logicalValue library (.instant unixSeconds nanoseconds) = .ok ())
    {result : LogicalValue}
    (hresult : convertWithTemporalPlan toLocal (.instant unixSeconds nanoseconds) = .ok result) :
    ∃ civil microsecond n, parseSigned (2 ^ 63) unixSeconds = some n ∧ civil.Valid ∧
      result = .ofCivilTime civil microsecond ∧ civil.unixSeconds = n + offset ∧
      microsecond * 1000 = nanoseconds := by
  obtain ⟨⟨n, hread, -⟩, -⟩ := ChangeEvent.exists_unixSeconds library hvalue
  obtain ⟨civil, hvalid, hcivil, -⟩ := CivilTime.exists_unixSeconds (n + offset)
  unfold convertWithTemporalPlan at hresult
  rcases h.validate_cases unixSeconds nanoseconds
    with ⟨failure, hrefused⟩ | ⟨haccepted, hmicro⟩
  · rw [hrefused] at hresult
    cases hresult
  · rw [haccepted, ok_bind, h.convertInstant_eq] at hresult
    by_cases hsum : Fits 64 (n + offset)
    · rw [instantToLocal_eq h.localOffset hread hsum hvalid hcivil] at hresult
      split at hresult
      · cases hresult
        exact ⟨civil, nanoseconds / 1000, n, hread, hvalid, rfl, hcivil, by omega⟩
      · cases hresult
    · rw [instantToLocal_overflow h.localOffset hread hsum] at hresult
      cases hresult

/-- A local datetime with a regular hour is converted and converted back. -/
theorem roundTrip (library : ValidationLibrary) {year : ℤ}
    {month day hour minute second microsecond : ℕ} (hyear : Fits 32 year) (hhour : hour < 24)
    (hvalue : logicalValue library
      (.localDatetime year month day hour minute second microsecond) = .ok ()) :
    ∃ instant, convertTemporalValue toInstant
        (.localDatetime year month day hour minute second microsecond) = .ok instant ∧
      convertTemporalValue toLocal instant =
        .ok (.localDatetime year month day hour minute second microsecond) := by
  obtain ⟨hvalid, hmicro⟩ := exists_civilTime library hvalue hhour
  obtain ⟨civil, hcivil⟩ :
      ∃ civil : CivilTime, civil = ⟨⟨year, month, day⟩, hour, minute, second⟩ :=
    ⟨_, rfl⟩
  rw [← hcivil] at hvalid
  have hlocal : LogicalValue.localDatetime year month day hour minute second microsecond =
      .ofCivilTime civil microsecond := by rw [hcivil]; rfl
  have hcivilYear : Fits 32 civil.date.year := by rwa [hcivil]
  have hinstant := localToInstant_eq h.instantOffset hvalid hcivilYear hmicro
  obtain ⟨hlow, hhigh⟩ := unixSeconds_bounds hvalid hcivilYear
  obtain ⟨hoffsetLow, hoffsetHigh⟩ := parseTimezoneOffset_fits h.localOffset
  have hclock := hvalid.unixSeconds_emod
  have hdays := hvalid.unixSeconds_ediv
  norm_num at hlow hhigh hoffsetLow hoffsetHigh
  have hread : parseSigned (2 ^ 63) (toString (civil.unixSeconds - offset)) =
      some (civil.unixSeconds - offset) := by
    apply parseSigned_toString
    · norm_num
      omega
    · norm_num
      omega
  have hsum : civil.unixSeconds = civil.unixSeconds - offset + offset := by omega
  have hfits : Fits 64 (civil.unixSeconds - offset + offset) := by
    apply fits_of_bounds
    · omega
    · omega
  refine ⟨.instant (toString (civil.unixSeconds - offset)) (microsecond * 1000), ?_, ?_⟩
  · rw [h.convertLocal_eq]
    rw [hcivil] at hinstant ⊢
    exact hinstant
  · rw [h.convertInstant_eq, instantToLocal_eq h.localOffset hread hfits hvalid hsum,
      if_pos hcivilYear, Nat.mul_div_cancel _ (by decide), hlocal]

/-- The renderer of the sink writes the local datetime of an instant in UTC. -/
theorem renders (library : ValidationLibrary)
    (hvalue : logicalValue library (.instant unixSeconds nanoseconds) = .ok ()) (hutc : offset = 0)
    (hmicro : nanoseconds % 1000 = 0) {civil : CivilTime} {microsecond : ℕ}
    (hlow : 1 ≤ civil.date.year) (hhigh : civil.date.year ≤ 65535) :
    convertTemporalValue toLocal (.instant unixSeconds nanoseconds) =
        .ok (.ofCivilTime civil microsecond) ↔
      unixInstantValue unixSeconds nanoseconds = .ok (.date civil.date.year.toNat civil.date.month
        civil.date.day civil.hour civil.minute civil.second microsecond) := by
  subst hutc
  obtain ⟨⟨n, hread, hfits⟩, hnano⟩ := ChangeEvent.exists_unixSeconds library hvalue
  obtain ⟨other, hvalid, hcivil, -⟩ := CivilTime.exists_unixSeconds (n + 0)
  rw [h.convertInstant_eq,
    instantToLocal_eq h.localOffset hread (by rwa [Int.add_zero]) hvalid hcivil,
    unixInstantValue_eq hread hnano hmicro hvalid (by rwa [Int.add_zero] at hcivil)]
  have hyears : 1 ≤ other.date.year ∧ other.date.year ≤ 65535 → Fits 32 other.date.year := by
    rintro ⟨hpos, hle⟩
    constructor
    · norm_num
      omega
    · norm_num
      omega
  constructor
  · intro hlocal
    split at hlocal
    · obtain ⟨rfl, rfl⟩ := ofCivilTime_inj.mp (Except.ok.inj hlocal)
      rw [if_pos ⟨hlow, hhigh⟩]
    · cases hlocal
  · intro hrendered
    split at hrendered
    · next hyear =>
      rw [if_pos (hyears hyear), Except.ok.injEq, ofCivilTime_inj]
      have hdate := Except.ok.inj hrendered
      rw [Value.date.injEq] at hdate
      obtain ⟨hsame, hmonth, hday, hhour, hminute, hsecond, hfraction⟩ := hdate
      refine ⟨?_, hfraction⟩
      obtain ⟨⟨year, month, day⟩, hour, minute, second⟩ := other
      obtain ⟨⟨year', month', day'⟩, hour', minute', second'⟩ := civil
      dsimp only at *
      rw [CivilTime.mk.injEq, CivilDate.mk.injEq]
      exact ⟨⟨by omega, hmonth, hday⟩, hhour, hminute, hsecond⟩
    · cases hrendered

/-- The decoder of the source reads the instant of a local datetime in UTC. -/
theorem decodes (hutc : offset = 0) {civil : CivilTime} {microsecond : ℕ} (hvalid : civil.Valid)
    (hmicro : microsecond < 1000000) (hlow : 1 ≤ civil.date.year)
    (hhigh : civil.date.year ≤ 65535) :
    ∃ instant, convertTemporalValue toInstant (.ofCivilTime civil microsecond) = .ok instant ∧
      timestampFromComponents civil.date.year.toNat civil.date.month civil.date.day civil.hour
        civil.minute civil.second microsecond = .ok instant := by
  subst hutc
  have hyear : Fits 32 civil.date.year := by
    constructor
    · norm_num
      omega
    · norm_num
      omega
  refine ⟨.instant (toString (civil.unixSeconds - 0)) (microsecond * 1000), ?_, ?_⟩
  · exact h.convertLocal_eq.trans (localToInstant_eq h.instantOffset hvalid hyear hmicro)
  · rw [Int.sub_zero]
    exact timestampFromComponents_eq hvalid (by omega) (by omega) hmicro

end OffsetPlans

section Sample

def zonedPlan (source target : String) : ColumnConversionPlan :=
  .sample [("source_temporal_kind", source), ("target_temporal_kind", target),
    ("target_precision", "6")] [("precision_policy", "reject"), ("time_zone", "+01:00")]

theorem zonedPlans :
    OffsetPlans (zonedPlan "instant" "local_datetime")
      (zonedPlan "local_datetime" "instant") 3600 :=
  ⟨rfl, rfl, rfl, rfl, by decide +kernel, by decide +kernel⟩

end Sample

/-- The conversions are exact where the sum of the instant and the offset fits. -/
theorem conversion_exact_iff_sum_fits (library : ValidationLibrary)
    (h : OffsetPlans toLocal toInstant offset)
    (hvalue : logicalValue library (.instant unixSeconds nanoseconds) = .ok ()) :
    ConversionExact library toLocal toInstant offset unixSeconds nanoseconds ↔
      SumFits toLocal offset unixSeconds nanoseconds := by
  obtain ⟨⟨n, hread, -⟩, -⟩ := ChangeEvent.exists_unixSeconds library hvalue
  constructor
  · rintro hexact haccepted m hm
    obtain rfl := Option.some.inj (hread.symm.trans hm)
    by_contra hsum
    apply hexact.noOverflow
    rw [convertWithTemporalPlan, haccepted, ok_bind, h.convertInstant_eq]
    exact instantToLocal_overflow h.localOffset hread hsum
  · intro hfits
    refine ⟨?_, fun result => h.denotes library hvalue,
      fun _ _ _ _ _ _ _ => h.roundTrip library,
      fun hutc hmicro _ _ => h.renders library hvalue hutc hmicro,
      fun hutc _ _ => h.decodes hutc⟩
    intro hoverflow
    unfold convertWithTemporalPlan at hoverflow
    rcases h.validate_cases unixSeconds nanoseconds
      with ⟨failure, hrefused⟩ | ⟨haccepted, -⟩
    · rw [hrefused] at hoverflow
      cases hoverflow
    · obtain ⟨civil, hvalid, hcivil, -⟩ := CivilTime.exists_unixSeconds (n + offset)
      rw [haccepted, ok_bind, h.convertInstant_eq,
        instantToLocal_eq h.localOffset hread (hfits haccepted n hread) hvalid hcivil] at hoverflow
      split at hoverflow
      · cases hoverflow
      · cases hoverflow

/-- At midnight of the epoch the conversions are exact. -/
theorem conversion_exact_epoch :
    ConversionExact plainValidation (zonedPlan "instant" "local_datetime")
      (zonedPlan "local_datetime" "instant") 3600 "0" 0 := by
  apply (conversion_exact_iff_sum_fits plainValidation zonedPlans (by decide +kernel)).mpr
  rintro - n hn
  have hread : parseSigned (2 ^ 63) "0" = some 0 := by decide +kernel
  obtain rfl := Option.some.inj (hread.symm.trans hn)
  decide

/-- The last second of `i64` is a valid instant, and overflows an hour east of Greenwich. -/
theorem last_second_overflows :
    logicalValue plainValidation (.instant "9223372036854775807" 0) = .ok () ∧
      validateTemporalPlanValue (zonedPlan "instant" "local_datetime")
        (.instant "9223372036854775807" 0) = .ok () ∧
      convertWithTemporalPlan (zonedPlan "instant" "local_datetime")
        (.instant "9223372036854775807" 0) = .error .overflow ∧
      ¬ ConversionExact plainValidation (zonedPlan "instant" "local_datetime")
        (zonedPlan "local_datetime" "instant") 3600 "9223372036854775807" 0 := by
  have haccepted : validateTemporalPlanValue (zonedPlan "instant" "local_datetime")
      (.instant "9223372036854775807" 0) = .ok () := by decide +kernel
  have hread : parseSigned (2 ^ 63) "9223372036854775807" = some 9223372036854775807 := by
    decide +kernel
  have hoverflow : convertWithTemporalPlan (zonedPlan "instant" "local_datetime")
      (.instant "9223372036854775807" 0) = .error .overflow := by
    rw [convertWithTemporalPlan, haccepted, ok_bind, zonedPlans.convertInstant_eq]
    exact instantToLocal_overflow zonedPlans.localOffset hread (by decide +kernel)
  exact ⟨by decide +kernel, haccepted, hoverflow, fun hexact => hexact.noOverflow hoverflow⟩

end Plans

end DatabaseSync.MysqlSink
