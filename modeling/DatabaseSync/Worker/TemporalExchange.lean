import DatabaseSync.PostgresqlSink.DatetimeText
import DatabaseSync.PostgresqlSource.DateTime

/-! # Dates and instants between two PostgreSQL servers

What the decoder reads of a date, a timestamp or an instant, and what the other server reads in the
text that the sink binds for it.
-/

namespace DatabaseSync.Worker

open Calendar ChangeEvent Checked Machine PostgresqlSink PostgresqlSource Text

section Exchange

variable {library : ValueLibrary} {nativeType : String} {text : List Char} {year : ℤ}
  {month day hour minute second microsecond nanoseconds : ℕ} {unixSeconds : String}

/-- The sink binds a text in which the other server reads the date. -/
def DateKept (library : ValueLibrary) (nativeType : String) (date : CivilDate) : Prop :=
  ∃ bound, parameterFor library (.date date.year date.month date.day) nativeType =
    .ok (.date bound) ∧ ReadsDate bound.toList date

/-- The microseconds of a local datetime. -/
def localMicros (date : CivilDate) (hour minute second microsecond : ℕ) : ℤ :=
  epochMicros date (((hour * 3600 + minute * 60 + second) * 1000000 + microsecond : ℕ) : ℤ)

def DatetimeKept (library : ValueLibrary) (nativeType : String) (date : CivilDate)
    (hour minute second microsecond : ℕ) : Prop :=
  ∃ bound, parameterFor library
      (.localDatetime date.year date.month date.day hour minute second microsecond) nativeType =
        .ok (.timestamp bound) ∧
    ReadsTimestamp bound.toList (localMicros date hour minute second microsecond)

def InstantKept (library : ValueLibrary) (nativeType unixSeconds : String) (nanoseconds : ℕ)
    (n : ℤ) : Prop :=
  ∃ bound, parameterFor library (.instant unixSeconds nanoseconds) nativeType =
      .ok (.timestamptz bound) ∧
    ReadsTimestamptz bound.toList (n * 1000000 + nanoseconds / 1000)

/-- The instants between the limits of `timestamptz`. -/
def InTimestampRange (n : ℤ) : Prop :=
  (⟨-4713, 11, 24⟩ : CivilDate).dayNumber * 86400 ≤ n ∧
    n < (⟨294277, 1, 1⟩ : CivilDate).dayNumber * 86400

theorem temporalInfinity_eq_some {kind : TemporalInfinityKind} {value : LogicalValue}
    (h : temporalInfinity kind text = some value) : ∃ negative,
      value = .temporalInfinity kind negative := by
  unfold temporalInfinity at h
  split at h
  · exact ⟨false, (Option.some.inj h).symm⟩
  · split at h
    · exact ⟨true, (Option.some.inj h).symm⟩
    · cases h

theorem decodeTemporal_date (h : decodeTemporal .date text = .ok (.date year month day)) :
    (⟨year, month, day⟩ : CivilDate).Valid := by
  unfold decodeTemporal at h
  dsimp only at h
  split at h
  · next hinfinity =>
    cases h
    obtain ⟨_, heq⟩ := temporalInfinity_eq_some hinfinity
    cases heq
  · simp only [bind_eq_ok, pure_eq, Except.ok.injEq, LogicalValue.date.injEq] at h
    obtain ⟨⟨y, m, d⟩, hdate, rfl, rfl, rfl⟩ := h
    exact (postgresDate_valid hdate).2

theorem decodeTemporal_timestamp (h : decodeTemporal .timestamp text =
    .ok (.localDatetime year month day hour minute second microsecond)) :
    (⟨year, month, day⟩ : CivilDate).Valid ∧ ClockFields hour minute second microsecond := by
  unfold decodeTemporal at h
  dsimp only at h
  split at h
  · next hinfinity =>
    cases h
    obtain ⟨_, heq⟩ := temporalInfinity_eq_some hinfinity
    cases heq
  · simp only [bind_eq_ok, pure_eq, Except.ok.injEq, LogicalValue.localDatetime.injEq] at h
    obtain ⟨⟨⟨y, m, d⟩, h', m', s', u'⟩, hread, rfl, rfl, rfl, rfl, rfl, rfl, rfl⟩ := h
    exact (postgresDatetime_fields hread).2

theorem decodeTemporal_timestamptz
    (h : decodeTemporal .timestamptz text = .ok (.instant unixSeconds nanoseconds)) :
    ∃ n micros, unixSeconds = toString n ∧ Fits 64 n ∧ micros < 1000000 ∧
      nanoseconds = micros * 1000 := by
  unfold decodeTemporal at h
  dsimp only at h
  split at h
  · next hinfinity =>
    cases h
    obtain ⟨_, heq⟩ := temporalInfinity_eq_some hinfinity
    cases heq
  · simp only [bind_eq_ok, pure_eq, Except.ok.injEq, LogicalValue.instant.injEq] at h
    obtain ⟨⟨n, nanos⟩, hread, rfl, rfl⟩ := h
    obtain ⟨hfits, micros, hmicro, rfl⟩ := postgresInstant_fields hread
    exact ⟨n, micros, rfl, hfits, hmicro, rfl⟩

theorem dayTime_of_clockFields (h : ClockFields hour minute second microsecond) :
    DayTime hour minute second microsecond := by
  obtain ⟨hhour, hminute, hsecond, hmicro, hlast⟩ := h
  exact ⟨hminute, hsecond, hmicro, by omega, fun h => (hlast h).2.2⟩

/-- The year of the civil time of an instant in range, at an offset. -/
theorem year_bounds {civil : CivilTime} {offset n : ℤ} (hvalid : civil.Valid)
    (hrange : InTimestampRange n) (hoffset : offset.natAbs < 57600)
    (hcivil : civil.unixSeconds = n + offset) :
    -5000 ≤ civil.date.year ∧ civil.date.year ≤ 6000000 := by
  have hfirst : (⟨-4713, 11, 24⟩ : CivilDate).dayNumber = -2440588 := by decide
  have hlast : (⟨294277, 1, 1⟩ : CivilDate).dayNumber = 106762940 := by decide
  obtain ⟨hlow, hhigh⟩ := hrange
  rw [hfirst] at hlow
  rw [hlast] at hhigh
  have hdays := hvalid.unixSeconds_ediv
  obtain ⟨hafter, hbefore⟩ := hvalid.date.dayNumber_mem
  unfold daysBeforeYear at hafter hbefore
  omega

theorem dateKept (h : decodeTemporal .date text = .ok (.date year month day)) :
    DateKept library nativeType ⟨year, month, day⟩ :=
  ⟨_, rfl, readsDate_postgresDate (decodeTemporal_date h)⟩

theorem datetimeKept_iff (h : decodeTemporal .timestamp text =
    .ok (.localDatetime year month day hour minute second microsecond)) :
    DatetimeKept library nativeType ⟨year, month, day⟩ hour minute second microsecond ↔
      1 ≤ year := by
  obtain ⟨hvalid, hclock⟩ := decodeTemporal_timestamp h
  rw [← readsTimestamp_iff hvalid (dayTime_of_clockFields hclock)]
  constructor
  · rintro ⟨bound, hbound, hreads⟩
    have htext := Parameter.timestamp.inj (Except.ok.inj hbound)
    rw [← htext] at hreads
    exact hreads
  · intro hreads
    exact ⟨_, rfl, hreads⟩

theorem instantKept_iff (hformat : FormatsUtc library) {civil : CivilTime}
    (h : decodeTemporal .timestamptz text = .ok (.instant unixSeconds nanoseconds))
    (hvalid : civil.Valid) (hread : parseSigned (2 ^ 63) unixSeconds = some civil.unixSeconds) :
    InstantKept library nativeType unixSeconds nanoseconds civil.unixSeconds ↔
      1 ≤ civil.date.year ∧ civil.date.year ≤ 9999 := by
  obtain ⟨n, micros, -, -, hmicro, rfl⟩ := decodeTemporal_timestamptz h
  have hwhole : ((micros * 1000 : ℕ) : ℤ) / 1000 = micros := by omega
  unfold InstantKept
  rw [hwhole]
  exact readsTimestamptz_iff hformat hvalid hread hmicro

/-- What the decoder reads is kept: every date, the timestamps that are not BC, and the instants
whose year in UTC has four digits. The decoder reads an instant in the range of PostgreSQL if the
year of its text is in the range that the decoder allows, and nothing overflows. -/
theorem temporal_exchange_exact_iff (hformat : FormatsUtc library) (nativeType : String) :
    (∀ text year month day, decodeTemporal .date text = .ok (.date year month day) →
      DateKept library nativeType ⟨year, month, day⟩) ∧
    (∀ text year month day hour minute second microsecond, decodeTemporal .timestamp text =
        .ok (.localDatetime year month day hour minute second microsecond) →
      (DatetimeKept library nativeType ⟨year, month, day⟩ hour minute second microsecond ↔
        1 ≤ year)) ∧
    (∀ text unixSeconds nanoseconds,
      decodeTemporal .timestamptz text = .ok (.instant unixSeconds nanoseconds) →
      ∃ civil : CivilTime, civil.Valid ∧
        parseSigned (2 ^ 63) unixSeconds = some civil.unixSeconds ∧
        (InstantKept library nativeType unixSeconds nanoseconds civil.unixSeconds ↔
          1 ≤ civil.date.year ∧ civil.date.year ≤ 9999)) ∧
    ∀ (n offset : ℤ) (microsecond : ℕ) (civil : CivilTime), InTimestampRange n →
      offset.natAbs < 57600 → microsecond < 1000000 → civil.Valid →
      civil.unixSeconds = n + offset →
      postgresInstant (isoInstant civil microsecond offset) ≠ .error .overflow ∧
        (postgresInstant (isoInstant civil microsecond offset) = .ok (n, microsecond * 1000) ↔
          -4712 ≤ civil.date.year ∧ civil.date.year ≤ 294276) := by
  refine ⟨fun text year month day h => dateKept h, ?_, ?_, ?_⟩
  · rintro text year month day hour minute second microsecond h
    exact datetimeKept_iff h
  · rintro text unixSeconds nanoseconds h
    obtain ⟨n, micros, rfl, hfits, -, -⟩ := decodeTemporal_timestamptz h
    obtain ⟨civil, hvalid, hcivil, -⟩ := CivilTime.exists_unixSeconds n
    obtain ⟨hlow, hhigh⟩ := hfits
    have hread : parseSigned (2 ^ 63) (toString n) = some civil.unixSeconds := by
      rw [hcivil]
      apply parseSigned_toString
      · norm_num at hlow ⊢
        exact hlow
      · norm_num at hhigh ⊢
        exact hhigh
    exact ⟨civil, hvalid, hread, instantKept_iff hformat h hvalid hread⟩
  · rintro n offset microsecond civil hrange hoffset hmicro hvalid hcivil
    obtain ⟨hlow, hhigh⟩ := year_bounds hvalid hrange hoffset hcivil
    have hsame : civil.unixSeconds - offset = n := by omega
    rw [postgresInstant_isoInstant hvalid hlow hhigh hmicro hoffset, hsame]
    by_cases hyear : -4712 ≤ civil.date.year ∧ civil.date.year ≤ 294276
    · rw [if_pos hyear]
      exact ⟨by rintro ⟨⟩, iff_of_true rfl hyear⟩
    · rw [if_neg hyear]
      split
      · exact ⟨by rintro ⟨⟩, iff_of_false (by rintro ⟨⟩) hyear⟩
      · exact ⟨by rintro ⟨⟩, iff_of_false (by rintro ⟨⟩) hyear⟩

end Exchange

/-! ## A formatting library -/

/-- The years of four digits without a sign and the others with one, within the range of years that
the library knows. -/
def formatCivil (seconds : ℤ) (nanoseconds : ℕ) : Option (String × ℕ) :=
  let (year, month, day) := Calendar.civilFromDays (seconds / 86400)
  let clock := (seconds % 86400).toNat
  let digits := if 0 ≤ year ∧ year ≤ 9999 then paddedDigits 4 year.toNat
    else (if year < 0 then '-' else '+') :: paddedDigits 4 year.natAbs
  if -262143 ≤ year ∧ year ≤ 262142 then
    some (String.ofList (digits ++ '-' :: paddedDigits 2 month.toNat ++
      '-' :: paddedDigits 2 day.toNat ++ ' ' :: paddedDigits 2 (clock / 3600) ++
      ':' :: paddedDigits 2 (clock % 3600 / 60) ++ ':' :: paddedDigits 2 (clock % 60)),
      nanoseconds / 1000)
  else none

def civilLibrary : ValueLibrary where
  digestBytes _ := ""
  debug s := s
  valueJson _ := ""
  envelopeJson _ := []
  stringJson s := s
  displayFloat _ _ := ""
  formatUtc := formatCivil

theorem formatsUtc_civilLibrary : FormatsUtc civilLibrary := by
  constructor
  · rintro civil nanoseconds hvalid hlow hhigh -
    have hdays := hvalid.unixSeconds_ediv
    have hclock := hvalid.unixSeconds_emod
    obtain ⟨hdate, hhour, hminute, hsecond⟩ := hvalid
    have hfields : (civil.unixSeconds % 86400).toNat / 3600 = civil.hour ∧
        (civil.unixSeconds % 86400).toNat % 3600 / 60 = civil.minute ∧
        (civil.unixSeconds % 86400).toNat % 60 = civil.second := by omega
    obtain ⟨h, m, s⟩ := hfields
    change formatCivil civil.unixSeconds nanoseconds = _
    unfold formatCivil
    rw [hdays, civilFromDays_dayNumber hdate]
    have hfour : 0 ≤ civil.date.year ∧ civil.date.year ≤ 9999 := ⟨hlow, hhigh⟩
    have hknown : -262143 ≤ civil.date.year ∧ civil.date.year ≤ 262142 := by omega
    dsimp only
    rw [if_pos hknown, if_pos hfour, h, m, s]
    rfl
  · rintro civil nanoseconds text micros hvalid hyear h
    have hdays := hvalid.unixSeconds_ediv
    change formatCivil civil.unixSeconds nanoseconds = _ at h
    unfold formatCivil at h
    rw [hdays, civilFromDays_dayNumber hvalid.date] at h
    dsimp only at h
    rw [if_neg hyear] at h
    split at h
    · obtain ⟨rfl, -⟩ := Prod.mk.inj (Option.some.inj h)
      rw [String.toList_ofList]
      by_cases hneg : civil.date.year < 0
      · rw [if_pos hneg]
        exact ⟨_, .inr rfl⟩
      · rw [if_neg hneg]
        exact ⟨_, .inl rfl⟩
    · cases h

/-- A first day before the common era and the last second of a leap day, as a timestamp, as an
instant, and as the text of that instant to the east. -/
theorem temporal_exchange_exact_iff_leap_day :
    (DateKept civilLibrary "date" ⟨-4712, 1, 1⟩ ∧ DateKept civilLibrary "date" ⟨2024, 2, 29⟩) ∧
    DatetimeKept civilLibrary "timestamp" ⟨2024, 2, 29⟩ 23 59 59 500000 ∧
    InstantKept civilLibrary "timestamptz" "1709251199" 500000000 1709251199 ∧
    postgresInstant (isoInstant ⟨⟨2024, 3, 1⟩, 5, 29, 59⟩ 500000 19800) =
      .ok (1709251199, 500000000) := by
  have hleap : (⟨⟨2024, 2, 29⟩, 23, 59, 59⟩ : CivilTime).Valid := by
    refine ⟨⟨?_, ?_, ?_⟩, ?_, ?_, ?_⟩
    all_goals decide
  have hnext : (⟨⟨2024, 3, 1⟩, 5, 29, 59⟩ : CivilTime).Valid := by
    refine ⟨⟨?_, ?_, ?_⟩, ?_, ?_, ?_⟩
    all_goals decide
  refine ⟨?_, ?_, ?_, ?_⟩
  · have hkept := (temporal_exchange_exact_iff formatsUtc_civilLibrary "date").1
    exact ⟨hkept "4713-01-01 BC".toList (-4712) 1 1 rfl, hkept "2024-02-29".toList 2024 2 29 rfl⟩
  · have hkept := (temporal_exchange_exact_iff formatsUtc_civilLibrary "timestamp").2.1
    exact (hkept "2024-02-29 23:59:59.5".toList 2024 2 29 23 59 59 500000 rfl).mpr (by decide)
  · have hkept := (temporal_exchange_exact_iff formatsUtc_civilLibrary "timestamptz").2.2.1
    obtain ⟨civil, hvalid, hread, hiff⟩ :=
      hkept "2024-02-29 23:59:59.5+00".toList "1709251199" 500000000 rfl
    have hseconds : civil.unixSeconds = 1709251199 := (Option.some.inj hread).symm
    obtain rfl := CivilTime.unixSeconds_injective hvalid hleap hseconds
    exact hiff.mpr ⟨by decide, by decide⟩
  · have hkept := (temporal_exchange_exact_iff formatsUtc_civilLibrary "timestamptz").2.2.2
    exact (hkept 1709251199 19800 500000 ⟨⟨2024, 3, 1⟩, 5, 29, 59⟩ ⟨by decide, by decide⟩
      (by decide) (by decide) hnext (by decide)).2.mpr ⟨by decide, by decide⟩

/-- The era of a timestamp before its time, a year of five digits in an instant, and the last
half hour of the range at an offset to the east. -/
theorem bc_and_long_years_lost :
    (decodeTemporal .timestamp "0044-03-15 10:00:00 BC".toList =
        .ok (.localDatetime (-43) 3 15 10 0 0 0) ∧
      ¬ DatetimeKept civilLibrary "timestamp" ⟨-43, 3, 15⟩ 10 0 0 0) ∧
    (decodeTemporal .timestamptz "10000-01-01 00:00:00+00".toList =
        .ok (.instant "253402300800" 0) ∧
      ¬ InstantKept civilLibrary "timestamptz" "253402300800" 0 253402300800) ∧
    InTimestampRange 9224318014200 ∧
      (⟨⟨294277, 1, 1⟩, 0, 30, 0⟩ : CivilTime).unixSeconds = 9224318014200 + 3600 ∧
      postgresInstant (isoInstant ⟨⟨294277, 1, 1⟩, 0, 30, 0⟩ 0 3600) ≠
        .ok (9224318014200, 0) := by
  have hbefore : decodeTemporal .timestamp "0044-03-15 10:00:00 BC".toList =
      .ok (.localDatetime (-43) 3 15 10 0 0 0) := rfl
  have hlong : decodeTemporal .timestamptz "10000-01-01 00:00:00+00".toList =
      .ok (.instant "253402300800" 0) := rfl
  have hcivil : (⟨⟨10000, 1, 1⟩, 0, 0, 0⟩ : CivilTime).Valid := by
    refine ⟨⟨?_, ?_, ?_⟩, ?_, ?_, ?_⟩
    all_goals decide
  refine ⟨⟨hbefore, ?_⟩, ⟨hlong, ?_⟩, ⟨by decide, by decide⟩, by decide, ?_⟩
  · intro hkept
    exact absurd ((datetimeKept_iff hbefore).mp hkept) (by decide)
  · intro hkept
    have hyear := (instantKept_iff formatsUtc_civilLibrary hlong hcivil rfl).mp hkept
    exact absurd hyear (by decide)
  · decide

end DatabaseSync.Worker
