import Mathlib.Algebra.Order.Ring.Int
import Mathlib.Order.Monotone.Basic
import Mathlib.Tactic.IntervalCases
import Mathlib.Tactic.Ring

/-! # The Gregorian calendar

Dates of the proleptic Gregorian calendar, where the year 0 is 1 BC, and their day numbers. The
day number is defined by counting the days of the years and months before; the arithmetic in eras
of 400 years that begin in March computes it and its inverse.
-/

namespace DatabaseSync.Calendar

structure CivilDate where
  year : ℤ
  month : ℕ
  day : ℕ
deriving DecidableEq, Repr

def IsLeapYear (year : ℤ) : Prop := year % 4 = 0 ∧ (year % 100 ≠ 0 ∨ year % 400 = 0)

instance (year : ℤ) : Decidable (IsLeapYear year) := inferInstanceAs (Decidable (_ ∧ _))

/-- The days of a month, none if there is no such month. -/
def monthLength (year : ℤ) : ℕ → ℕ
  | 1 | 3 | 5 | 7 | 8 | 10 | 12 => 31
  | 4 | 6 | 9 | 11 => 30
  | 2 => if IsLeapYear year then 29 else 28
  | _ => 0

/-- The days of a year before a month. -/
def daysBeforeMonth (year : ℤ) : ℕ → ℕ
  | 0 => 0
  | month + 1 => daysBeforeMonth year month + monthLength year month

/-- The days from the beginning of the year 1 to that of another. -/
def daysBeforeYear (year : ℤ) : ℤ :=
  365 * (year - 1) + (year - 1) / 4 - (year - 1) / 100 + (year - 1) / 400

namespace CivilDate

structure Valid (date : CivilDate) : Prop where
  month_le : date.month ≤ 12
  day_pos : 1 ≤ date.day
  day_le : date.day ≤ monthLength date.year date.month

instance (date : CivilDate) : Decidable date.Valid :=
  decidable_of_iff (date.month ≤ 12 ∧ 1 ≤ date.day ∧ date.day ≤ monthLength date.year date.month)
    ⟨fun h => ⟨h.1, h.2.1, h.2.2⟩, fun h => ⟨h.1, h.2, h.3⟩⟩

/-- The date of the next day. -/
def next (date : CivilDate) : CivilDate :=
  if date.day < monthLength date.year date.month then { date with day := date.day + 1 }
  else if date.month < 12 then ⟨date.year, date.month + 1, 1⟩
  else ⟨date.year + 1, 1, 1⟩

/-- The days from 1970-01-01. -/
def dayNumber (date : CivilDate) : ℤ :=
  daysBeforeYear date.year + daysBeforeMonth date.year date.month + date.day - 719163

end CivilDate

/-! ## Day numbers count days -/

section DayNumber

variable {year : ℤ} {month : ℕ} {date other : CivilDate}

theorem monthLength_of_lt (h : 12 < month) : monthLength year month = 0 := by
  unfold monthLength
  split
  all_goals omega

theorem CivilDate.Valid.month_pos (h : date.Valid) : 1 ≤ date.month := by
  have hpos := h.day_pos
  have hle := h.day_le
  rcases Nat.eq_zero_or_pos date.month with hzero | hone
  · rw [hzero] at hle
    change date.day ≤ 0 at hle
    omega
  · exact hone

theorem daysBeforeMonth_mono (year : ℤ) : Monotone (daysBeforeMonth year) :=
  monotone_nat_of_le_succ fun _ => Nat.le_add_right _ _

/-- The days of the twelve months. -/
theorem daysBeforeMonth_thirteen (year : ℤ) :
    daysBeforeMonth year 13 = if IsLeapYear year then 366 else 365 := by
  simp only [daysBeforeMonth, monthLength]
  split
  · rfl
  · rfl

theorem daysBeforeYear_succ (year : ℤ) :
    daysBeforeYear (year + 1) = daysBeforeYear year + daysBeforeMonth year 13 := by
  rw [daysBeforeMonth_thirteen]
  unfold daysBeforeYear
  by_cases hleap : IsLeapYear year
  · rw [if_pos hleap]
    unfold IsLeapYear at hleap
    omega
  · rw [if_neg hleap]
    unfold IsLeapYear at hleap
    omega

theorem daysBeforeYear_mono {year later : ℤ} (hle : year ≤ later) :
    daysBeforeYear year ≤ daysBeforeYear later := by
  unfold daysBeforeYear
  omega

theorem CivilDate.Valid.next (h : date.Valid) : date.next.Valid := by
  obtain ⟨hmonth, hpos, hday⟩ := h
  unfold CivilDate.next
  split
  · next hlt => exact ⟨hmonth, Nat.le_add_left _ _, hlt⟩
  · split
    · next hlt =>
      refine ⟨hlt, le_rfl, ?_⟩
      dsimp only
      generalize date.month = m at hlt
      interval_cases m
      all_goals simp only [monthLength]
      all_goals first | omega | (split <;> omega)
    · exact ⟨by norm_num, le_rfl, by norm_num [monthLength]⟩

/-- A day lies between the beginning of its month and that of the next. -/
theorem CivilDate.Valid.dayOfYear_le (h : date.Valid) (hmonth : date.month < month) :
    daysBeforeMonth date.year date.month + date.day ≤ daysBeforeMonth date.year month :=
  (Nat.add_le_add_left h.day_le _).trans (daysBeforeMonth_mono _ hmonth)

theorem CivilDate.Valid.day_le_31 (h : date.Valid) : date.day ≤ 31 := by
  refine h.day_le.trans ?_
  unfold monthLength
  split
  all_goals first | omega | (split <;> omega)

/-- The day number lies within the year. -/
theorem CivilDate.Valid.dayNumber_mem (h : date.Valid) :
    daysBeforeYear date.year - 719163 < date.dayNumber ∧
      date.dayNumber ≤ daysBeforeYear date.year - 719163 + 366 := by
  have hpos := h.day_pos
  have hend := h.dayOfYear_le (show date.month < 13 from Nat.lt_succ_of_le h.month_le)
  rw [daysBeforeMonth_thirteen] at hend
  unfold CivilDate.dayNumber
  split at hend
  · omega
  · omega

/-- Of two dates the one in the earlier year, month or day has the lower number. -/
theorem dayNumber_lt (h : date.Valid) (h' : other.Valid)
    (hlt : date.year < other.year ∨ date.year = other.year ∧
      (date.month < other.month ∨ date.month = other.month ∧ date.day < other.day)) :
    date.dayNumber < other.dayNumber := by
  unfold CivilDate.dayNumber
  have hpos := h'.day_pos
  rcases hlt with hyear | ⟨hyear, hmonth | ⟨hmonth, hday⟩⟩
  · have hnext := daysBeforeYear_mono (show date.year + 1 ≤ other.year by omega)
    have hend := h.dayOfYear_le (show date.month < 13 from Nat.lt_succ_of_le h.month_le)
    rw [daysBeforeYear_succ] at hnext
    omega
  · have hend := h.dayOfYear_le hmonth
    rw [hyear] at hend ⊢
    omega
  · rw [hyear, hmonth]
    omega

theorem dayNumber_injective (h : date.Valid) (h' : other.Valid)
    (heq : date.dayNumber = other.dayNumber) : date = other := by
  by_contra hne
  have hnot := fun hlt => (dayNumber_lt h h' hlt).ne heq
  have hnot' := fun hlt => (dayNumber_lt h' h hlt).ne heq.symm
  apply hne
  obtain ⟨year, month, day⟩ := date
  obtain ⟨year', month', day'⟩ := other
  simp only [imp_false] at hnot hnot'
  rw [CivilDate.mk.injEq]
  omega

end DayNumber

/-! ## Arithmetic in eras -/

/-- The day number of a date, where the years of an era of 400 begin in March. -/
def daysFromCivil (year month day : ℤ) : ℤ :=
  let year := year - if month ≤ 2 then 1 else 0
  let era := year / 400
  let yearOfEra := year - era * 400
  let dayOfYear := (153 * (month + if 2 < month then -3 else 9) + 2) / 5 + day - 1
  let dayOfEra := yearOfEra * 365 + yearOfEra / 4 - yearOfEra / 100 + dayOfYear
  era * 146097 + dayOfEra - 719468

/-- The date of a day number. -/
def civilFromDays (days : ℤ) : ℤ × ℤ × ℤ :=
  let z := days + 719468
  let era := z / 146097
  let dayOfEra := z - era * 146097
  let yearOfEra :=
    (dayOfEra - dayOfEra / 1460 + dayOfEra / 36524 - dayOfEra / 146096) / 365
  let year := yearOfEra + era * 400
  let dayOfYear := dayOfEra - (365 * yearOfEra + yearOfEra / 4 - yearOfEra / 100)
  let monthPart := (5 * dayOfYear + 2) / 153
  let day := dayOfYear - (153 * monthPart + 2) / 5 + 1
  let month := monthPart + if monthPart < 10 then 3 else -9
  (year + if month ≤ 2 then 1 else 0, month, day)

section Eras

variable {date : CivilDate}

/-- The eras and the years of an era count the days of all years before. -/
theorem era_days (year : ℤ) :
    year / 400 * 146097 + ((year - year / 400 * 400) * 365 + (year - year / 400 * 400) / 4 -
      (year - year / 400 * 400) / 100) = daysBeforeYear (year + 1) := by
  unfold daysBeforeYear
  omega

/-- From March on five months have 153 days. -/
theorem daysBeforeMonth_eq (year : ℤ) {month : ℕ} (h : 3 ≤ month) (h' : month ≤ 12) :
    (daysBeforeMonth year month : ℤ) =
      (153 * ((month : ℤ) - 3) + 2) / 5 + daysBeforeMonth year 13 - 306 := by
  rw [daysBeforeMonth_thirteen]
  interval_cases month
  all_goals
    simp only [daysBeforeMonth, monthLength]
    split
    · rfl
    · rfl

theorem daysFromCivil_eq (h : date.Valid) :
    daysFromCivil date.year date.month date.day = date.dayNumber := by
  have hpos := h.month_pos
  have hle := h.month_le
  obtain ⟨year, month, day⟩ := date
  dsimp only at hpos hle ⊢
  unfold daysFromCivil CivilDate.dayNumber
  dsimp only
  rcases Nat.lt_or_ge 2 month with hmarch | hwinter
  · have hlater : ¬ (month : ℤ) ≤ 2 := by omega
    have hdays := era_days year
    have hmonth := daysBeforeMonth_eq year hmarch hle
    rw [daysBeforeYear_succ] at hdays
    rw [if_neg hlater, if_pos (not_le.mp hlater), Int.sub_zero, ← Int.sub_eq_add_neg]
    omega
  · have hdays := era_days (year - 1)
    rw [Int.sub_add_cancel] at hdays
    rw [if_pos (by omega), if_neg (by omega)]
    interval_cases month
    · simp only [daysBeforeMonth, monthLength]
      push_cast
      omega
    · simp only [daysBeforeMonth, monthLength]
      push_cast
      omega

/-- A day of an era counted by centuries, cycles of four years, years and days. A year has a 366th
day if it ends a cycle, and if it ends a century the century ends the era. -/
structure EraDay where
  century : ℤ
  cycle : ℤ
  year : ℤ
  day : ℤ
  century_mem : 0 ≤ century ∧ century ≤ 3
  cycle_mem : 0 ≤ cycle ∧ cycle ≤ 24
  year_mem : 0 ≤ year ∧ year ≤ 3
  day_mem : 0 ≤ day ∧ day ≤ 365
  leap : day = 365 → year = 3 ∧ (cycle = 24 → century = 3)

namespace EraDay

variable (d : EraDay)

def yearOfEra : ℤ := 100 * d.century + 4 * d.cycle + d.year

def dayOfEra : ℤ := 36524 * d.century + 1461 * d.cycle + 365 * d.year + d.day

theorem exists_dayOfEra {dayOfEra : ℤ} (h : 0 ≤ dayOfEra) (h' : dayOfEra < 146097) :
    ∃ d : EraDay, d.dayOfEra = dayOfEra := by
  obtain ⟨c, hc⟩ : ∃ c, c = min (dayOfEra / 36524) 3 := ⟨_, rfl⟩
  obtain ⟨q, hq⟩ : ∃ q, q = dayOfEra - 36524 * c := ⟨_, rfl⟩
  obtain ⟨r, hr⟩ : ∃ r, r = q - 1461 * (q / 1461) := ⟨_, rfl⟩
  have hyear : min (r / 365) 3 ≤ 3 := by omega
  refine ⟨⟨c, q / 1461, min (r / 365) 3, r - 365 * min (r / 365) 3, ?_, ?_, ?_, ?_, ?_⟩, ?_⟩
  · omega
  · omega
  · omega
  · omega
  · omega
  · simp only [EraDay.dayOfEra]
    omega

theorem yearOfEra_mem : 0 ≤ d.yearOfEra ∧ d.yearOfEra ≤ 399 := by
  obtain ⟨c, q, y, r, hc, hq, hy, hr, hleap⟩ := d
  simp only [yearOfEra]
  omega

theorem dayOfYear_eq :
    d.dayOfEra - (365 * d.yearOfEra + d.yearOfEra / 4 - d.yearOfEra / 100) = d.day := by
  obtain ⟨c, q, y, r, hc, hq, hy, hr, hleap⟩ := d
  simp only [dayOfEra, yearOfEra]
  omega

/-- The formula finds the year: it takes a day off for each cycle begun, and that of a century is
given back. -/
theorem yearOfEra_eq :
    (d.dayOfEra - d.dayOfEra / 1460 + d.dayOfEra / 36524 - d.dayOfEra / 146096) / 365 =
      d.yearOfEra := by
  obtain ⟨c, q, y, r, hc, hq, hy, hr, hleap⟩ := d
  simp only [dayOfEra, yearOfEra]
  have hcycles : (36524 * c + 1461 * q + 365 * y + r) / 1460 =
      25 * c + q + (24 * c + q + 365 * y + r) / 1460 := by omega
  have hcenturies : (36524 * c + 1461 * q + 365 * y + r) / 36524 =
      c + (1461 * q + 365 * y + r) / 36524 := by omega
  have hlast : (1461 * q + 365 * y + r) / 36524 =
      (36524 * c + 1461 * q + 365 * y + r) / 146096 := by omega
  omega

end EraDay

/-- A 366th day is the 29th of February of a leap year. -/
theorem isLeapYear_of_day (d : EraDay) (era : ℤ) (h : d.day = 365) :
    IsLeapYear (d.yearOfEra + era * 400 + 1) := by
  obtain ⟨hyear, hcycle⟩ := d.leap h
  have hcentury := d.century_mem
  have hcycles := d.cycle_mem
  unfold IsLeapYear EraDay.yearOfEra
  omega

theorem day_le_monthLength (d : EraDay) (era : ℤ) {part : ℤ} {month day : ℕ}
    (hpart : part = (5 * d.day + 2) / 153)
    (hmonth : (month : ℤ) = part + if part < 10 then 3 else -9)
    (hday : (day : ℤ) = d.day - (153 * part + 2) / 5 + 1) :
    day ≤ monthLength (d.yearOfEra + era * 400 + if (month : ℤ) ≤ 2 then 1 else 0) month := by
  obtain ⟨hpos, hle⟩ := d.day_mem
  have hleap := isLeapYear_of_day d era
  rcases lt_or_ge part 11 with hlt | hge
  · have hlength : ∀ year : ℤ, day ≤ monthLength year month := by
      intro year
      have hpos : 0 ≤ part := by omega
      interval_cases part
      all_goals
        obtain rfl : month = _ := Nat.cast_injective hmonth
        simp only [monthLength]
        omega
    exact hlength _
  · obtain rfl : part = 11 := by omega
    obtain rfl : month = 2 := Nat.cast_injective hmonth
    rw [if_pos (by decide)]
    simp only [monthLength]
    split
    · omega
    · next hcommon =>
      have hshort : d.day ≠ 365 := fun h => hcommon (hleap h)
      omega

/-- The date of a day of an era, whose years begin in March. -/
theorem exists_civilDate (d : EraDay) (era : ℤ) :
    ∃ date : CivilDate, date.Valid ∧
      daysFromCivil date.year date.month date.day = era * 146097 + d.dayOfEra - 719468 ∧
      (date.day : ℤ) = d.day - (153 * ((5 * d.day + 2) / 153) + 2) / 5 + 1 ∧
      (date.month : ℤ) = (5 * d.day + 2) / 153 +
        (if (5 * d.day + 2) / 153 < 10 then 3 else -9) ∧
      date.year = d.yearOfEra + era * 400 + if (date.month : ℤ) ≤ 2 then 1 else 0 := by
  have hday := d.day_mem
  obtain ⟨part, hpart⟩ : ∃ part, part = (5 * d.day + 2) / 153 := ⟨_, rfl⟩
  rw [← hpart]
  obtain ⟨month, hmonth⟩ : ∃ month : ℕ, (month : ℤ) = part + if part < 10 then 3 else -9 := by
    refine ⟨(part + if part < 10 then 3 else -9).toNat, ?_⟩
    split
    · omega
    · omega
  obtain ⟨day, hdayOfMonth⟩ : ∃ day : ℕ, (day : ℤ) = d.day - (153 * part + 2) / 5 + 1 :=
    ⟨(d.day - (153 * part + 2) / 5 + 1).toNat, by omega⟩
  refine ⟨⟨d.yearOfEra + era * 400 + if (month : ℤ) ≤ 2 then 1 else 0, month, day⟩, ⟨?_, ?_, ?_⟩,
    ?_, hdayOfMonth, hmonth, rfl⟩
  · dsimp only
    split at hmonth
    · omega
    · omega
  · dsimp only
    omega
  · exact day_le_monthLength d era hpart hmonth hdayOfMonth
  · have hyears := d.dayOfYear_eq
    have hyear := d.yearOfEra_mem
    have hera : (d.yearOfEra + era * 400) / 400 = era := by omega
    have hrest : d.yearOfEra + era * 400 - era * 400 = d.yearOfEra := by omega
    have hshift : d.yearOfEra + era * 400 + (if (month : ℤ) ≤ 2 then 1 else 0) -
        (if (month : ℤ) ≤ 2 then 1 else 0) = d.yearOfEra + era * 400 := by omega
    have hfirst : (month : ℤ) + (if 2 < (month : ℤ) then -3 else 9) = part := by
      split at hmonth
      · rw [if_pos (by omega)]
        omega
      · rw [if_neg (by omega)]
        omega
    unfold daysFromCivil
    dsimp only
    rw [hshift, hera, hrest, hfirst]
    omega

/-- The date of a day number is the one with that number. -/
theorem civilFromDays_eq (days : ℤ) : ∃ date : CivilDate, date.Valid ∧ date.dayNumber = days ∧
    civilFromDays days = (date.year, (date.month : ℤ), (date.day : ℤ)) := by
  obtain ⟨d, hd⟩ := EraDay.exists_dayOfEra
    (show 0 ≤ days + 719468 - (days + 719468) / 146097 * 146097 by omega) (by omega)
  obtain ⟨date, hvalid, hdays, hday, hmonth, hyear⟩ :=
    exists_civilDate d ((days + 719468) / 146097)
  refine ⟨date, hvalid, ?_, ?_⟩
  · rw [← daysFromCivil_eq hvalid, hdays, hd]
    ring
  · unfold civilFromDays
    dsimp only
    rw [← hd, d.yearOfEra_eq, d.dayOfYear_eq, ← hmonth, ← hday, ← hyear]

/-- Converting a date to its number and back gives the date. -/
theorem civilFromDays_dayNumber (h : date.Valid) :
    civilFromDays date.dayNumber = (date.year, (date.month : ℤ), (date.day : ℤ)) := by
  obtain ⟨other, hvalid, hnumber, heq⟩ := civilFromDays_eq date.dayNumber
  rwa [dayNumber_injective hvalid h hnumber] at heq

end Eras

/-! ## Times of a date -/

/-- A second of a date. -/
structure CivilTime where
  date : CivilDate
  hour : ℕ
  minute : ℕ
  second : ℕ
deriving DecidableEq, Repr

namespace CivilTime

structure Valid (time : CivilTime) : Prop where
  date : time.date.Valid
  hour_lt : time.hour < 24
  minute_lt : time.minute < 60
  second_lt : time.second < 60

instance (time : CivilTime) : Decidable time.Valid :=
  decidable_of_iff (time.date.Valid ∧ time.hour < 24 ∧ time.minute < 60 ∧ time.second < 60)
    ⟨fun h => ⟨h.1, h.2.1, h.2.2.1, h.2.2.2⟩, fun h => ⟨h.1, h.2, h.3, h.4⟩⟩

/-- The seconds from 1970-01-01 00:00:00, where every day has 86400. -/
def unixSeconds (time : CivilTime) : ℤ :=
  time.date.dayNumber * 86400 + time.hour * 3600 + time.minute * 60 + time.second

variable {time other : CivilTime}

theorem Valid.unixSeconds_ediv (h : time.Valid) :
    time.unixSeconds / 86400 = time.date.dayNumber := by
  obtain ⟨-, hhour, hminute, hsecond⟩ := h
  unfold unixSeconds
  omega

theorem Valid.unixSeconds_emod (h : time.Valid) :
    time.unixSeconds % 86400 = time.hour * 3600 + time.minute * 60 + time.second := by
  obtain ⟨-, hhour, hminute, hsecond⟩ := h
  unfold unixSeconds
  omega

/-- Different times are different seconds. -/
theorem unixSeconds_injective (h : time.Valid) (h' : other.Valid)
    (heq : time.unixSeconds = other.unixSeconds) : time = other := by
  have hdays := h.unixSeconds_ediv
  have hclock := h.unixSeconds_emod
  rw [heq, h'.unixSeconds_ediv] at hdays
  rw [heq, h'.unixSeconds_emod] at hclock
  have hdate := dayNumber_injective h'.date h.date hdays
  obtain ⟨-, hhour, hminute, hsecond⟩ := h
  obtain ⟨-, hhour', hminute', hsecond'⟩ := h'
  obtain ⟨date, hour, minute, second⟩ := time
  obtain ⟨date', hour', minute', second'⟩ := other
  dsimp only at *
  rw [CivilTime.mk.injEq]
  refine ⟨hdate.symm, ?_, ?_, ?_⟩
  · omega
  · omega
  · omega

/-- Every second is a time of a date. -/
theorem exists_unixSeconds (seconds : ℤ) : ∃ time : CivilTime, time.Valid ∧
    time.unixSeconds = seconds ∧
    civilFromDays (seconds / 86400) =
      (time.date.year, (time.date.month : ℤ), (time.date.day : ℤ)) ∧
    (time.hour : ℤ) = seconds % 86400 / 3600 ∧
    (time.minute : ℤ) = seconds % 86400 % 3600 / 60 ∧
    (time.second : ℤ) = seconds % 86400 % 60 := by
  obtain ⟨date, hvalid, hnumber, heq⟩ := civilFromDays_eq (seconds / 86400)
  refine ⟨⟨date, (seconds % 86400 / 3600).toNat, (seconds % 86400 % 3600 / 60).toNat,
    (seconds % 86400 % 60).toNat⟩, ⟨hvalid, ?_, ?_, ?_⟩, ?_, heq, ?_, ?_, ?_⟩
  · dsimp only
    omega
  · dsimp only
    omega
  · dsimp only
    omega
  · simp only [unixSeconds, hnumber]
    omega
  · dsimp only
    omega
  · dsimp only
    omega
  · dsimp only
    omega

end CivilTime

end DatabaseSync.Calendar
