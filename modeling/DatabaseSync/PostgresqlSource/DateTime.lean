import DatabaseSync.ChangeEvent.Temporal
import DatabaseSync.PostgresqlSource.Interval

/-! # Dates, timestamps and instants

The decoder of the temporal values that PostgreSQL writes in its ISO form. Arithmetic that can
leave its type is told apart from what is refused.
-/

namespace DatabaseSync.PostgresqlSource

open Calendar ChangeEvent Checked Machine Text

/-! ## The decoder -/

def invalidText {α : Type} (message : String) : Except (Fault ValueError) α :=
  refuse (.invalid message)

/-- `parse::<u8>` and `parse::<u32>` -/
def parseUnsignedPart (bits : ℕ) (text : List Char) : Except (Fault ValueError) ℕ :=
  demand (parseUnsigned 10 (2 ^ bits) (String.ofList text)) .parseInt

/-- `parse::<i32>` -/
def parseI32 (text : List Char) : Except (Fault ValueError) ℤ :=
  demand (parseSigned (2 ^ 31) (String.ofList text)) .parseInt

/-- `checked_mul`, `checked_add`, `checked_sub` and `try_from` -/
def fitting (bits : ℕ) (n : ℤ) (error : ValueError) : Except (Fault ValueError) ℤ :=
  demand (if Fits bits n then some n else none) error

/-- `str::strip_suffix` -/
def stripSuffix (suffix text : List Char) : Option (List Char) :=
  if suffix.isSuffixOf text then some (text.take (text.length - suffix.length)) else none

/-- The text before the era, and whether it is BC. -/
def stripEra (text : List Char) : List Char × Bool :=
  match stripSuffix [' ', 'B', 'C'] text with
  | some value => (value, true)
  | none =>
    match stripSuffix [' ', 'A', 'D'] text with
    | some value => (value, false)
    | none => (text, false)

def daysOfMonth (year : ℤ) (month : ℕ) : ℕ :=
  let leap := year % 4 = 0 ∧ (year % 100 ≠ 0 ∨ year % 400 = 0)
  match month with
  | 1 | 3 | 5 | 7 | 8 | 10 | 12 => 31
  | 4 | 6 | 9 | 11 => 30
  | 2 => if leap then 29 else 28
  | _ => 0

def validatePostgresDate (year : ℤ) (month day : ℕ) : Except (Fault ValueError) Unit := do
  require (decide (-4712 ≤ year ∧ year ≤ 5874897))
    (.invalid "PostgreSQL date year is outside the supported range")
  require (!decide (day = 0 ∨ daysOfMonth year month < day))
    (.invalid "invalid PostgreSQL calendar date")

def postgresDate (text : List Char) : Except (Fault ValueError) (ℤ × ℕ × ℕ) :=
  let (date, bc) := stripEra text
  match date.splitOn '-' with
  | [year, month, day] => do
    let displayYear ← parseI32 year
    require (decide (0 < displayYear)) (.invalid "invalid PostgreSQL date year")
    let year ← fitting 32 (if bc then 1 - displayYear else displayYear) .tryFromInt
    let month ← parseUnsignedPart 8 month
    let day ← parseUnsignedPart 8 day
    validatePostgresDate year month day
    return (year, month, day)
  | _ => invalidText "invalid PostgreSQL date"

def postgresDateWithEra (text : List Char) (bc : Bool) : Except (Fault ValueError) (ℤ × ℕ × ℕ) :=
  if bc then postgresDate (text ++ [' ', 'B', 'C']) else postgresDate text

def validatePostgresTimestampYear (year : ℤ) : Except (Fault ValueError) Unit :=
  require (decide (-4712 ≤ year ∧ year ≤ 294276))
    (.invalid "PostgreSQL timestamp year is outside the supported range")

def secondFraction (fraction : List Char) : Except (Fault ValueError) ℕ :=
  if !fraction.isEmpty && fraction.length ≤ 6 && fraction.all isAsciiDigit then
    parseUnsignedPart 32 (fraction ++ List.replicate (6 - fraction.length) '0')
  else invalidText "PostgreSQL time precision exceeds microseconds"

/-- The seconds before the first point, and the fraction after it. -/
def splitSecond (text : List Char) : List Char × Option (List Char) :=
  match splitFirst '.' text with
  | some (second, fraction) => (second, some fraction)
  | none => (text, none)

def clockTime (text : List Char) : Except (Fault ValueError) (ℕ × ℕ × ℕ × ℕ) :=
  match text.splitOn ':' with
  | [hour, minute, last] => do
    let hour ← parseUnsignedPart 8 hour
    let minute ← parseUnsignedPart 8 minute
    let (secondText, fraction) := splitSecond last
    let second ← parseUnsignedPart 8 secondText
    let microsecond ← fraction.elim (.ok 0) secondFraction
    require (!decide (24 < hour ∨ 60 ≤ minute ∨ 60 ≤ second ∨
      (hour = 24 ∧ (minute ≠ 0 ∨ second ≠ 0 ∨ microsecond ≠ 0))))
      (.invalid "invalid PostgreSQL time fields")
    return (hour, minute, second, microsecond)
  | _ => invalidText "invalid PostgreSQL time"

/-- Splits a text before its last sign. -/
def splitLastSign : List Char → Option (List Char × List Char)
  | [] => none
  | c :: rest =>
    match splitLastSign rest with
    | some (before, after) => some (c :: before, after)
    | none => if c = '+' ∨ c = '-' then some ([], c :: rest) else none

/-- A sign at the beginning of the text is not that of an offset. -/
def splitTimeZone : List Char → Option (List Char × List Char)
  | [] => none
  | c :: rest => (splitLastSign rest).map fun (time, offset) => (c :: time, offset)

/-- The parts of an offset, between colons or of two digits each. -/
def offsetParts (value : List Char) : Option (List (List Char)) :=
  if ':' ∈ value then some (value.splitOn ':')
  else if value.length = 1 ∨ value.length = 2 then some [value]
  else if value.length = 3 ∨ value.length = 4 then
    some [value.take (value.length - 2), value.drop (value.length - 2)]
  else if value.length = 5 ∨ value.length = 6 then
    some [value.take (value.length - 4), (value.drop (value.length - 4)).take 2,
      value.drop (value.length - 2)]
  else none

/-- A part that may be left out. -/
def parseOptionalPart (part : Option (List Char)) : Except (Fault ValueError) ℤ :=
  part.elim (.ok 0) parseI32

def offsetSign : List Char → Except (Fault ValueError) (ℤ × List Char)
  | '+' :: value => .ok (1, value)
  | '-' :: value => .ok (-1, value)
  | _ => invalidText "invalid PostgreSQL UTC offset"

def postgresOffsetSeconds (text : List Char) : Except (Fault ValueError) ℤ := do
  let (sign, value) ← offsetSign text
  let parts ← demand (offsetParts value) (.invalid "invalid PostgreSQL UTC offset")
  require (!(parts.isEmpty || decide (3 < parts.length) || parts.any List.isEmpty))
    (.invalid "invalid PostgreSQL UTC offset")
  let hour ← parseI32 (parts.headD [])
  let minute ← parseOptionalPart parts[1]?
  let second ← parseOptionalPart parts[2]?
  require (decide ((0 ≤ hour ∧ hour ≤ 15) ∧ (0 ≤ minute ∧ minute < 60) ∧ 0 ≤ second ∧ second < 60))
    (.invalid "PostgreSQL UTC offset is outside the supported range")
  let hours ← arith 32 (hour * 3600)
  let magnitude ← arith 32 ((← arith 32 (hours + (← arith 32 (minute * 60)))) + second)
  arith 32 (sign * magnitude)

def eraOfYear (year : ℤ) : Except (Fault ValueError) ℤ :=
  if 0 ≤ year then .ok (year.tdiv 400)
  else do return (← arith 64 (year - 399)).tdiv 400

def daysFromCivil (year : ℤ) (month day : ℕ) : Except (Fault ValueError) ℤ := do
  let year ← arith 64 (year - if month ≤ 2 then 1 else 0)
  let era ← eraOfYear year
  let yearOfEra ← arith 64 (year - (← arith 64 (era * 400)))
  let adjustedMonth ← arith 64 ((month : ℤ) + if 2 < month then -3 else 9)
  let monthDays := (← arith 64 ((← arith 64 (153 * adjustedMonth)) + 2)).tdiv 5
  let dayOfYear ← arith 64 ((← arith 64 (monthDays + day)) - 1)
  let yearDays ← arith 64 ((← arith 64 ((← arith 64 (yearOfEra * 365)) + yearOfEra.tdiv 4)) -
    yearOfEra.tdiv 100)
  let dayOfEra ← arith 64 (yearDays + dayOfYear)
  arith 64 ((← arith 64 ((← arith 64 (era * 146097)) + dayOfEra)) - 719468)

def postgresDatetime (text : List Char) :
    Except (Fault ValueError) ((ℤ × ℕ × ℕ) × ℕ × ℕ × ℕ × ℕ) := do
  let (datetime, bc) := stripEra text
  let (dateText, timeText) ← demand (splitFirst ' ' datetime)
    (.invalid "invalid PostgreSQL timestamp")
  let (year, month, day) ← postgresDateWithEra dateText bc
  validatePostgresTimestampYear year
  let time ← clockTime timeText
  return ((year, month, day), time)

def instantSeconds (days offset : ℤ) (hour minute second : ℕ) : Except (Fault ValueError) ℤ := do
  let outside : ValueError := .invalid "PostgreSQL timestamp is outside the supported range"
  let seconds ← fitting 64 (days * 86400) outside
  let seconds ← fitting 64 (seconds + (← arith 64 ((hour : ℤ) * 3600))) outside
  let seconds ← fitting 64 (seconds + (← arith 64 ((minute : ℤ) * 60))) outside
  let seconds ← fitting 64 (seconds + second) outside
  fitting 64 (seconds - offset) outside

def postgresInstant (text : List Char) : Except (Fault ValueError) (ℤ × ℕ) := do
  let (datetime, bc) := stripEra text
  let (dateText, timeZoneText) ← demand (splitFirst ' ' datetime)
    (.invalid "invalid PostgreSQL timestamp with time zone")
  let (year, month, day) ← postgresDateWithEra dateText bc
  validatePostgresTimestampYear year
  let (timeText, offsetText) ← demand (splitTimeZone timeZoneText)
    (.invalid "PostgreSQL time zone offset is missing")
  let (hour, minute, second, microsecond) ← clockTime timeText
  let offset ← postgresOffsetSeconds offsetText
  let days ← daysFromCivil year month day
  let seconds ← instantSeconds days offset hour minute second
  return (seconds, ← natural 32 (microsecond * 1000))

def temporalInfinity (kind : TemporalInfinityKind) (text : List Char) : Option LogicalValue :=
  if text = "infinity".toList then some (.temporalInfinity kind false)
  else if text = "-infinity".toList then some (.temporalInfinity kind true)
  else none

/-- The value of a `date`, a `timestamp` or a `timestamptz`. -/
inductive TemporalType
  | date
  | timestamp
  | timestamptz
deriving DecidableEq, Repr

/-- `decode_for_version` for these types -/
def decodeTemporal (type : TemporalType) (text : List Char) :
    Except (Fault ValueError) LogicalValue :=
  match type with
  | .date =>
    match temporalInfinity .date text with
    | some value => .ok value
    | none => do
      let (year, month, day) ← postgresDate text
      return .date year month day
  | .timestamp =>
    match temporalInfinity .localDatetime text with
    | some value => .ok value
    | none => do
      let ((year, month, day), hour, minute, second, microsecond) ← postgresDatetime text
      return .localDatetime year month day hour minute second microsecond
  | .timestamptz =>
    match temporalInfinity .instant text with
    | some value => .ok value
    | none => do
      let (unixSeconds, nanoseconds) ← postgresInstant text
      return .instant (toString unixSeconds) nanoseconds

example : decodeTemporal .timestamptz "0001-12-31 23:00:00.5+01:30 BC".toList =
    .ok (.instant "-62135605800" 500000000) := rfl

/-! ## What is read -/

section Read

variable {text : List Char} {year : ℤ} {month day hour minute second microsecond : ℕ}
  {offset n : ℤ} {date : CivilDate}

theorem fitting_of_fits {bits : ℕ} {error : ValueError} (h : Fits bits n) :
    fitting bits n error = .ok n := by
  rw [fitting, if_pos h]
  rfl

theorem parseUnsignedPart_digits {bits : ℕ} (hne : text ≠ [])
    (hdigits : ∀ c ∈ text, isAsciiDigit c = true) (hlt : decimalValue text < 2 ^ bits) :
    parseUnsignedPart bits text = .ok (decimalValue text) := by
  rw [parseUnsignedPart, parseUnsigned_of_digits hne hdigits, if_pos hlt]
  rfl

theorem parseI32_digits (hne : text ≠ []) (hdigits : ∀ c ∈ text, isAsciiDigit c = true)
    (hlt : decimalValue text < 2 ^ 31) : parseI32 text = .ok (decimalValue text : ℤ) := by
  rw [parseI32, parseSigned_of_digits hne hdigits, if_pos hlt]
  rfl

theorem daysOfMonth_eq : daysOfMonth year month = monthLength year month := rfl

theorem validatePostgresDate_eq_ok {u : Unit} : validatePostgresDate year month day = .ok u ↔
    (-4712 ≤ year ∧ year ≤ 5874897) ∧ (⟨year, month, day⟩ : CivilDate).Valid := by
  unfold validatePostgresDate
  simp only [bind_eq_ok, require_eq_ok, decide_eq_true_eq, exists_and_left, Bool.not_eq_true',
    decide_eq_false_iff_not]
  rw [daysOfMonth_eq]
  constructor
  · rintro ⟨hyear, -, hday⟩
    refine ⟨hyear, ?_, by dsimp only; omega, by dsimp only; omega⟩
    by_contra hmonth
    have hzero : monthLength year month = 0 := monthLength_of_lt (not_le.mp hmonth)
    omega
  · rintro ⟨hyear, hvalid⟩
    have hpos := hvalid.day_pos
    have hle := hvalid.day_le
    dsimp only at hpos hle
    exact ⟨hyear, (), by omega⟩

/-- A date that is read is in the range of the decoder and in the calendar. -/
theorem postgresDate_valid (h : postgresDate text = .ok (year, month, day)) :
    (-4712 ≤ year ∧ year ≤ 5874897) ∧ (⟨year, month, day⟩ : CivilDate).Valid := by
  unfold postgresDate at h
  dsimp only at h
  split at h
  · simp only [bind_eq_ok, pure_eq, Except.ok.injEq, Prod.mk.injEq] at h
    obtain ⟨_, -, _, -, _, -, _, -, _, -, _, hvalid, rfl, rfl, rfl⟩ := h
    exact validatePostgresDate_eq_ok.mp hvalid
  · cases h

theorem postgresDateWithEra_valid {bc : Bool}
    (h : postgresDateWithEra text bc = .ok (year, month, day)) :
    (⟨year, month, day⟩ : CivilDate).Valid := by
  unfold postgresDateWithEra at h
  split at h
  · exact (postgresDate_valid h).2
  · exact (postgresDate_valid h).2

/-- A fraction is filled up to six digits. -/
theorem secondFraction_lt {micro : ℕ} (h : secondFraction text = .ok micro) :
    micro < 1000000 := by
  unfold secondFraction at h
  split at h
  · next hform =>
    simp only [Bool.and_eq_true, Bool.not_eq_true', List.isEmpty_eq_false_iff, decide_eq_true_eq,
      List.all_eq_true] at hform
    obtain ⟨⟨hne, hlength⟩, hdigits⟩ := hform
    have hall : ∀ c ∈ text ++ List.replicate (6 - text.length) '0', isAsciiDigit c = true := by
      intro c hc
      rcases List.mem_append.mp hc with hc | hc
      · exact hdigits c hc
      · rw [List.eq_of_mem_replicate hc]
        rfl
    have hvalue := decimalValue_lt hall
    rw [List.length_append, List.length_replicate, Nat.add_sub_cancel' hlength] at hvalue
    rw [parseUnsignedPart_digits (by simpa using fun hnil => absurd hnil hne) hall
      (hvalue.trans (by decide))] at h
    exact Except.ok.inj h ▸ hvalue
  · cases h

/-- The fields of a clock time are those of a day, or of its end. -/
structure ClockFields (hour minute second microsecond : ℕ) : Prop where
  hour_le : hour ≤ 24
  minute_lt : minute < 60
  second_lt : second < 60
  micro_lt : microsecond < 1000000
  last : hour = 24 → minute = 0 ∧ second = 0 ∧ microsecond = 0

theorem clockTime_fields (h : clockTime text = .ok (hour, minute, second, microsecond)) :
    ClockFields hour minute second microsecond := by
  unfold clockTime at h
  split at h
  · simp only [bind_eq_ok, pure_eq, Except.ok.injEq, Prod.mk.injEq, require_eq_ok,
      Bool.not_eq_true', decide_eq_false_iff_not] at h
    obtain ⟨_, -, _, -, _, -, micro, hfraction, _, hfields, rfl, rfl, rfl, rfl⟩ := h
    have hmicro : micro < 1000000 := by
      cases hsplit : (splitSecond _).2 with
      | none =>
        rw [hsplit] at hfraction
        cases hfraction
        decide
      | some fraction =>
        rw [hsplit] at hfraction
        exact secondFraction_lt hfraction
    exact ⟨by omega, by omega, by omega, hmicro, by omega⟩
  · cases h

theorem postgresDatetime_fields
    (h : postgresDatetime text = .ok ((year, month, day), hour, minute, second, microsecond)) :
    (-4712 ≤ year ∧ year ≤ 294276) ∧ (⟨year, month, day⟩ : CivilDate).Valid ∧
      ClockFields hour minute second microsecond := by
  unfold postgresDatetime validatePostgresTimestampYear at h
  simp only [bind_eq_ok, pure_eq, Except.ok.injEq, Prod.mk.injEq, require_eq_ok,
    decide_eq_true_eq] at h
  obtain ⟨_, -, _, hdate, _, hyear, _, htime, ⟨rfl, rfl, rfl⟩, rfl⟩ := h
  exact ⟨hyear, postgresDateWithEra_valid hdate, clockTime_fields htime⟩

theorem eraOfYear_eq {start : ℤ} (hlow : -4713 ≤ start) : eraOfYear start = .ok (start / 400) := by
  unfold eraOfYear
  split
  · next hpos => rw [Int.tdiv_eq_ediv_of_nonneg hpos]
  · next hneg =>
    have hfits : Fits 64 (start - 399) := fits_of_bounds (by omega) (by omega)
    have htruncate : (start - 399).tdiv 400 = start / 400 := by
      have hcases := truncate_cases (start - 399) 400
      omega
    rw [arith_of_fits hfits, ok_bind, htruncate]
    rfl

/-- The days of a date are counted without overflow. -/
theorem daysFromCivil_eq (hlow : -4712 ≤ date.year) (hhigh : date.year ≤ 5874897)
    (hvalid : date.Valid) : daysFromCivil date.year date.month date.day = .ok date.dayNumber := by
  have hmonth := hvalid.month_le
  have hpos := hvalid.month_pos
  have hday := hvalid.day_le_31
  rw [← Calendar.daysFromCivil_eq hvalid]
  obtain ⟨year, month, day⟩ := date
  dsimp only at *
  have hwinter : ((month : ℤ) ≤ 2) = (month ≤ 2) := by norm_cast
  have hsummer : (2 < (month : ℤ)) = (2 < month) := by norm_cast
  unfold daysFromCivil Calendar.daysFromCivil
  simp only [hwinter, hsummer]
  refine arith_step (by omega) (by omega) ?_
  rw [eraOfYear_eq (by omega), ok_bind]
  repeat
    refine arith_step (by omega) (by omega) ?_
    try dsimp only
    try rw [Int.tdiv_eq_ediv_of_nonneg (by omega)]
  exact arith_of_fits (fits_of_bounds (by omega) (by omega))

/-- The seconds of an instant are counted without overflow. -/
theorem instantSeconds_eq (hlow : -4712 ≤ date.year) (hhigh : date.year ≤ 5874897)
    (hvalid : date.Valid) (hclock : ClockFields hour minute second microsecond)
    (hoffset : -57600 < offset ∧ offset < 57600) :
    instantSeconds date.dayNumber offset hour minute second =
      .ok (date.dayNumber * 86400 + hour * 3600 + minute * 60 + second - offset) := by
  obtain ⟨hafter, hbefore⟩ := hvalid.dayNumber_mem
  have hbounds : -3000000 < date.dayNumber ∧ date.dayNumber < 3000000000 := by
    unfold daysBeforeYear at hafter hbefore
    omega
  have hhour := hclock.hour_le
  have hminute := hclock.minute_lt
  have hsecond := hclock.second_lt
  unfold instantSeconds
  dsimp only
  rw [fitting_of_fits (fits_of_bounds (by omega) (by omega)), ok_bind]
  refine arith_step (by omega) (by omega) ?_
  rw [fitting_of_fits (fits_of_bounds (by omega) (by omega)), ok_bind]
  refine arith_step (by omega) (by omega) ?_
  rw [fitting_of_fits (fits_of_bounds (by omega) (by omega)), ok_bind,
    fitting_of_fits (fits_of_bounds (by omega) (by omega)), ok_bind,
    fitting_of_fits (fits_of_bounds (by omega) (by omega))]

/-- An instant that is read fits `i64` and has whole microseconds. -/
theorem postgresInstant_fields {nanoseconds : ℕ}
    (h : postgresInstant text = .ok (n, nanoseconds)) :
    Fits 64 n ∧ ∃ microsecond < 1000000, nanoseconds = microsecond * 1000 := by
  unfold postgresInstant at h
  simp only [bind_eq_ok, pure_eq, Except.ok.injEq, Prod.mk.injEq] at h
  obtain ⟨_, -, _, -, _, -, _, -, ⟨hour, minute, second, microsecond⟩, hclock, offset, -, days, -,
    seconds, hseconds, _, hnatural, rfl, rfl⟩ := h
  have hmicro := (clockTime_fields hclock).micro_lt
  constructor
  · unfold instantSeconds at hseconds
    simp only [bind_eq_ok] at hseconds
    obtain ⟨_, -, _, -, _, -, _, -, _, -, _, -, hlast⟩ := hseconds
    unfold fitting at hlast
    split at hlast
    · next hfits => exact Except.ok.inj hlast ▸ hfits
    · cases hlast
  · refine ⟨microsecond, hmicro, ?_⟩
    dsimp only at hnatural
    rw [natural_of_lt (by norm_num; omega)] at hnatural
    exact (Except.ok.inj hnatural).symm

end Read

/-! ## The ISO form -/

/-- How PostgreSQL writes the number of a year in its era. -/
def isoYear (year : ℤ) : List Char :=
  paddedDigits 4 (if 0 < year then year else 1 - year).toNat

/-- The era is written after everything else. -/
def isoEra (year : ℤ) : List Char := if 0 < year then [] else [' ', 'B', 'C']

def isoDate (date : CivilDate) : List Char :=
  isoYear date.year ++ '-' :: paddedDigits 2 date.month ++ '-' :: paddedDigits 2 date.day

def isoClock (hour minute second microsecond : ℕ) : List Char :=
  paddedDigits 2 hour ++ ':' :: paddedDigits 2 minute ++ ':' :: paddedDigits 2 second ++
    isoFraction microsecond

/-- The hours of an offset, and the minutes and the seconds where they are not zero. -/
def isoOffset (offset : ℤ) : List Char :=
  let n := offset.natAbs
  (if offset < 0 then '-' else '+') :: paddedDigits 2 (n / 3600) ++
    if n % 60 ≠ 0 then ':' :: paddedDigits 2 (n % 3600 / 60) ++ ':' :: paddedDigits 2 (n % 60)
    else if n % 3600 ≠ 0 then ':' :: paddedDigits 2 (n % 3600 / 60)
    else []

/-- The text of an instant whose civil time at the offset is given. -/
def isoInstant (civil : CivilTime) (microsecond : ℕ) (offset : ℤ) : List Char :=
  isoDate civil.date ++ ' ' :: isoClock civil.hour civil.minute civil.second microsecond ++
    isoOffset offset ++ isoEra civil.date.year

section Iso

variable {text suffix : List Char} {c : Char} {year : ℤ} {n : ℕ}
  {hour minute second microsecond : ℕ} {offset : ℤ} {date : CivilDate}

theorem stripSuffix_append (text suffix : List Char) :
    stripSuffix suffix (text ++ suffix) = some text := by
  rw [stripSuffix, if_pos (List.isSuffixOf_iff_suffix.mpr (List.suffix_append text suffix))]
  simp

/-- A text that ends otherwise keeps its end. -/
theorem stripSuffix_eq_none {last : Char} (hne : last ≠ c) :
    stripSuffix (suffix ++ [c]) (text ++ [last]) = none := by
  rw [stripSuffix, if_neg]
  rw [List.isSuffixOf_iff_suffix]
  rintro ⟨before, heq⟩
  rw [← List.append_assoc] at heq
  exact hne (List.append_inj_right' heq rfl |> List.singleton_injective).symm

theorem digit_notMem_padded {width n : ℕ} (hc : isAsciiDigit c = false) :
    c ∉ paddedDigits width n := by
  intro hmem
  rw [paddedDigits_digits width n c hmem] at hc
  cases hc

/-- No era is at the end of a text that ends with a digit. -/
def EndsWithDigit (text : List Char) : Prop :=
  ∃ before last, text = before ++ [last] ∧ isAsciiDigit last = true

theorem EndsWithDigit.append (h : EndsWithDigit suffix) (text : List Char) :
    EndsWithDigit (text ++ suffix) := by
  obtain ⟨before, last, rfl, hlast⟩ := h
  exact ⟨text ++ before, last, (List.append_assoc ..).symm, hlast⟩

theorem EndsWithDigit.cons (h : EndsWithDigit suffix) (c : Char) : EndsWithDigit (c :: suffix) :=
  h.append [c]

theorem endsWithDigit_padded (width n : ℕ) : EndsWithDigit (paddedDigits width n) :=
  paddedDigits_concat width n

/-- The era after such a text is read as it is written. -/
theorem EndsWithDigit.stripEra (h : EndsWithDigit text) (year : ℤ) :
    stripEra (text ++ isoEra year) = (text, decide (year ≤ 0)) := by
  obtain ⟨before, last, rfl, hlast⟩ := h
  have hend : ∀ x, isAsciiDigit x = false → last ≠ x := by
    rintro x hx rfl
    rw [hlast] at hx
    cases hx
  unfold PostgresqlSource.stripEra isoEra
  by_cases hyear : 0 < year
  · have hbc : stripSuffix [' ', 'B', 'C'] (before ++ [last]) = none :=
      @stripSuffix_eq_none before [' ', 'B'] 'C' last (hend 'C' rfl)
    have had : stripSuffix [' ', 'A', 'D'] (before ++ [last]) = none :=
      @stripSuffix_eq_none before [' ', 'A'] 'D' last (hend 'D' rfl)
    rw [if_pos hyear, List.append_nil, decide_eq_false (not_le.mpr hyear), hbc]
    dsimp only
    rw [had]
  · rw [if_neg hyear, stripSuffix_append, decide_eq_true (not_lt.mp hyear)]

theorem splitOn_isoDate (date : CivilDate) : (isoDate date).splitOn '-' =
    [isoYear date.year, paddedDigits 2 date.month, paddedDigits 2 date.day] := by
  have hjoin : isoDate date = ['-'].intercalate
      [isoYear date.year, paddedDigits 2 date.month, paddedDigits 2 date.day] := by
    simp [isoDate]
  rw [hjoin, List.splitOn_intercalate]
  · intro part hpart
    simp only [List.mem_cons, List.not_mem_nil, or_false] at hpart
    rcases hpart with rfl | rfl | rfl
    · exact digit_notMem_padded rfl
    · exact digit_notMem_padded rfl
    · exact digit_notMem_padded rfl
  · exact List.cons_ne_nil _ _

theorem endsWithDigit_isoDate (date : CivilDate) : EndsWithDigit (isoDate date) :=
  ((endsWithDigit_padded 2 date.day).cons '-').append _

theorem parseUnsignedPart_padded {bits width n : ℕ} (h : n < 2 ^ bits) :
    parseUnsignedPart bits (paddedDigits width n) = .ok n := by
  have hread := parseUnsignedPart_digits (paddedDigits_ne_nil width n)
    (paddedDigits_digits width n) (by rwa [decimalValue_paddedDigits])
  rwa [decimalValue_paddedDigits] at hread

theorem parseI32_padded {width n : ℕ} (h : n < 2 ^ 31) :
    parseI32 (paddedDigits width n) = .ok (n : ℤ) := by
  have hread := parseI32_digits (paddedDigits_ne_nil width n)
    (paddedDigits_digits width n) (by rwa [decimalValue_paddedDigits])
  rwa [decimalValue_paddedDigits] at hread

theorem parseI32_isoYear (hlow : -5000 ≤ year) (hhigh : year ≤ 6000000) :
    ∃ n : ℤ, parseI32 (isoYear year) = .ok n ∧ 0 < n ∧
      (if decide (year ≤ 0) = true then 1 - n else n) = year := by
  refine ⟨_, parseI32_padded (by norm_num; omega), ?_, ?_⟩
  · omega
  · simp only [decide_eq_true_iff]
    omega

/-- A date is read back if its year is in the range of the decoder, and refused otherwise. -/
theorem postgresDate_isoDate (hvalid : date.Valid) (hlow : -5000 ≤ date.year)
    (hhigh : date.year ≤ 6000000) : postgresDate (isoDate date ++ isoEra date.year) =
      if -4712 ≤ date.year ∧ date.year ≤ 5874897 then .ok (date.year, date.month, date.day)
      else invalidText "PostgreSQL date year is outside the supported range" := by
  obtain ⟨n, hn, hpos, hyear⟩ := parseI32_isoYear hlow hhigh
  have hmonth : date.month < 2 ^ 8 := hvalid.month_le.trans_lt (by norm_num)
  have hday : date.day < 2 ^ 8 := hvalid.day_le_31.trans_lt (by norm_num)
  have hfits : Fits 32 date.year := by
    constructor
    · norm_num
      omega
    · norm_num
      omega
  unfold postgresDate
  rw [(endsWithDigit_isoDate date).stripEra]
  dsimp only
  rw [splitOn_isoDate]
  dsimp only
  rw [hn, ok_bind, decide_eq_true hpos, require, if_pos rfl, ok_bind, hyear, fitting_of_fits hfits,
    ok_bind, parseUnsignedPart_padded hmonth, ok_bind, parseUnsignedPart_padded hday, ok_bind]
  by_cases hrange : -4712 ≤ date.year ∧ date.year ≤ 5874897
  · have haccepted : validatePostgresDate date.year date.month date.day = .ok () :=
      validatePostgresDate_eq_ok.mpr ⟨hrange, hvalid⟩
    rw [if_pos hrange, haccepted]
    rfl
  · rw [if_neg hrange, validatePostgresDate, decide_eq_false hrange]
    rfl

/-- A fraction is a point and digits. -/
theorem mem_isoFraction (hmicro : microsecond < 1000000) (h : c ∈ isoFraction microsecond) :
    c = '.' ∨ isAsciiDigit c = true := by
  by_cases hzero : microsecond = 0
  · subst hzero
    cases h
  · obtain ⟨digits, htext, -, -, hdigits, -⟩ :=
      @isoFraction_digits microsecond (by omega) (by omega)
    rw [htext] at h
    rcases List.mem_cons.mp h with rfl | h
    · exact .inl rfl
    · exact .inr (hdigits c h)

theorem splitOn_isoClock (hmicro : microsecond < 1000000) :
    (isoClock hour minute second microsecond).splitOn ':' =
    [paddedDigits 2 hour, paddedDigits 2 minute,
      paddedDigits 2 second ++ isoFraction microsecond] := by
  have hjoin : isoClock hour minute second microsecond = [':'].intercalate
      [paddedDigits 2 hour, paddedDigits 2 minute,
        paddedDigits 2 second ++ isoFraction microsecond] := by
    simp [isoClock]
  rw [hjoin, List.splitOn_intercalate]
  · intro part hpart
    simp only [List.mem_cons, List.not_mem_nil, or_false] at hpart
    rcases hpart with rfl | rfl | rfl
    · exact digit_notMem_padded rfl
    · exact digit_notMem_padded rfl
    · rw [List.mem_append, not_or]
      refine ⟨digit_notMem_padded rfl, fun hmem => ?_⟩
      rcases mem_isoFraction hmicro hmem with hpoint | hdigit
      · exact absurd hpoint (by decide)
      · exact absurd hdigit (by decide)
  · exact List.cons_ne_nil _ _

/-- The fraction that is written is read as the same microseconds. -/
theorem splitSecond_isoFraction (hmicro : microsecond < 1000000) :
    ∃ fraction, splitSecond (paddedDigits 2 second ++ isoFraction microsecond) =
        (paddedDigits 2 second, fraction) ∧
      fraction.elim (.ok 0) secondFraction = .ok microsecond := by
  have hpoint : '.' ∉ paddedDigits 2 second := digit_notMem_padded rfl
  by_cases hzero : microsecond = 0
  · subst hzero
    refine ⟨none, ?_, rfl⟩
    have hempty : isoFraction ((0 : ℕ) : ℤ) = [] := rfl
    rw [hempty, List.append_nil, splitSecond, splitFirst_eq_none hpoint]
  · obtain ⟨digits, htext, hne, hlength, hdigits, hvalue⟩ :=
      @isoFraction_digits microsecond (by omega) (by omega)
    rw [Int.natAbs_natCast] at hvalue
    refine ⟨some digits, ?_, ?_⟩
    · rw [htext, splitSecond, splitFirst_append hpoint]
    · have hzeros : decimalValue (List.replicate (6 - digits.length) '0') = 0 := by
        have hpad := decimalValue_zeros (6 - digits.length) []
        rwa [List.append_nil] at hpad
      have hfull : decimalValue (digits ++ List.replicate (6 - digits.length) '0') =
          microsecond := by
        rw [decimalValue_append, hzeros, List.length_replicate, Nat.add_zero, ← hvalue]
      have hall : ∀ c ∈ digits ++ List.replicate (6 - digits.length) '0',
          isAsciiDigit c = true := by
        intro c hc
        rcases List.mem_append.mp hc with hc | hc
        · exact hdigits c hc
        · rw [List.eq_of_mem_replicate hc]
          rfl
      have hform : (!digits.isEmpty && digits.length ≤ 6 && digits.all isAsciiDigit) = true := by
        simp only [Bool.and_eq_true, Bool.not_eq_true', List.isEmpty_eq_false_iff,
          decide_eq_true_eq, List.all_eq_true]
        exact ⟨⟨hne, hlength⟩, hdigits⟩
      rw [Option.elim_some, secondFraction, if_pos hform,
        parseUnsignedPart_digits (by simp [hne]) hall (by rw [hfull]; norm_num; omega), hfull]

theorem clockTime_isoClock (hclock : ClockFields hour minute second microsecond) :
    clockTime (isoClock hour minute second microsecond) =
      .ok (hour, minute, second, microsecond) := by
  obtain ⟨hhour, hminute, hsecond, hmicro, hlast⟩ := hclock
  obtain ⟨fraction, hsplit, hfraction⟩ := @splitSecond_isoFraction second microsecond hmicro
  have hfields : ¬ (24 < hour ∨ 60 ≤ minute ∨ 60 ≤ second ∨
      (hour = 24 ∧ (minute ≠ 0 ∨ second ≠ 0 ∨ microsecond ≠ 0))) := by omega
  unfold clockTime
  rw [splitOn_isoClock hmicro]
  dsimp only
  rw [parseUnsignedPart_padded (by norm_num; omega), ok_bind,
    parseUnsignedPart_padded (by norm_num; omega), ok_bind, hsplit]
  dsimp only
  rw [parseUnsignedPart_padded (by norm_num; omega), ok_bind, hfraction, ok_bind,
    decide_eq_false hfields]
  rfl

/-- A text is split before the sign that no other follows. -/
theorem splitLastSign_append {before after : List Char} (hc : c = '+' ∨ c = '-')
    (hfree : '+' ∉ after ∧ '-' ∉ after) :
    splitLastSign (before ++ c :: after) = some (before, c :: after) := by
  have hnone : ∀ l : List Char, '+' ∉ l → '-' ∉ l → splitLastSign l = none := by
    intro l hplus hminus
    induction l with
    | nil => rfl
    | cons d l ih =>
      rw [List.mem_cons, not_or] at hplus hminus
      rw [splitLastSign, ih hplus.2 hminus.2]
      exact if_neg fun hsign => hsign.elim (fun h => hplus.1 h.symm) fun h => hminus.1 h.symm
  induction before with
  | nil =>
    rw [List.nil_append, splitLastSign, hnone after hfree.1 hfree.2]
    exact if_pos hc
  | cons d before ih => rw [List.cons_append, splitLastSign, ih]

/-- After its sign an offset is digits and colons. -/
theorem isoOffset_cons (offset : ℤ) : ∃ value, isoOffset offset =
    (if offset < 0 then '-' else '+') :: value ∧ '+' ∉ value ∧ '-' ∉ value := by
  refine ⟨_, rfl, ?_⟩
  have hfree : ∀ c, isAsciiDigit c = false → c ≠ ':' → c ∉ (paddedDigits 2 (offset.natAbs / 3600) ++
      if offset.natAbs % 60 ≠ 0 then ':' :: paddedDigits 2 (offset.natAbs % 3600 / 60) ++
        ':' :: paddedDigits 2 (offset.natAbs % 60)
      else if offset.natAbs % 3600 ≠ 0 then ':' :: paddedDigits 2 (offset.natAbs % 3600 / 60)
      else []) := by
    intro c hdigit hcolon
    rw [List.mem_append, not_or]
    refine ⟨digit_notMem_padded hdigit, ?_⟩
    split
    · simp [hcolon, digit_notMem_padded hdigit]
    · split
      · simp [hcolon, digit_notMem_padded hdigit]
      · exact List.not_mem_nil
  exact ⟨hfree '+' rfl (by decide), hfree '-' rfl (by decide)⟩

theorem offsetParts_isoOffset (h : n < 57600) :
    offsetParts (paddedDigits 2 (n / 3600) ++
      if n % 60 ≠ 0 then ':' :: paddedDigits 2 (n % 3600 / 60) ++ ':' :: paddedDigits 2 (n % 60)
      else if n % 3600 ≠ 0 then ':' :: paddedDigits 2 (n % 3600 / 60)
      else []) =
    some (paddedDigits 2 (n / 3600) ::
      if n % 60 ≠ 0 then [paddedDigits 2 (n % 3600 / 60), paddedDigits 2 (n % 60)]
      else if n % 3600 ≠ 0 then [paddedDigits 2 (n % 3600 / 60)]
      else []) := by
  have hfree : ∀ m, ':' ∉ paddedDigits 2 m := fun m => digit_notMem_padded rfl
  split
  · have hcolon : ':' ∈ paddedDigits 2 (n / 3600) ++ (':' :: paddedDigits 2 (n % 3600 / 60) ++
        ':' :: paddedDigits 2 (n % 60)) := by simp
    rw [offsetParts, if_pos hcolon, List.cons_append,
      List.splitOn_append_cons_self_of_not_mem (hfree _),
      List.splitOn_append_cons_self_of_not_mem (hfree _), List.splitOn_eq_singleton (hfree _)]
  · split
    · have hcolon : ':' ∈ paddedDigits 2 (n / 3600) ++ ':' :: paddedDigits 2 (n % 3600 / 60) := by
        simp
      rw [offsetParts, if_pos hcolon, List.splitOn_append_cons_self_of_not_mem (hfree _),
        List.splitOn_eq_singleton (hfree _)]
    · have hlength : (paddedDigits 2 (n / 3600)).length = 2 :=
        length_paddedDigits (by decide) (by omega)
      rw [List.append_nil, offsetParts, if_neg (hfree _), hlength]
      rfl

/-- An offset whose parts are read is the sum of its parts. -/
theorem postgresOffsetSeconds_of_parts {sign hours minutes seconds : ℤ} {value : List Char}
    {parts : List (List Char)} (hsign : offsetSign text = .ok (sign, value))
    (hone : sign = 1 ∨ sign = -1) (hparts : offsetParts value = some parts)
    (hform : (!(parts.isEmpty || decide (3 < parts.length) || parts.any List.isEmpty)) = true)
    (hhour : parseI32 (parts.headD []) = .ok hours)
    (hminute : parseOptionalPart parts[1]? = .ok minutes)
    (hsecond : parseOptionalPart parts[2]? = .ok seconds)
    (hrange : (0 ≤ hours ∧ hours ≤ 15) ∧ (0 ≤ minutes ∧ minutes < 60) ∧
      0 ≤ seconds ∧ seconds < 60) :
    postgresOffsetSeconds text = .ok (sign * (hours * 3600 + minutes * 60 + seconds)) := by
  have hfits : ∀ m : ℤ, -100000 < m → m < 100000 → Fits 32 m := by
    intro m hlow hhigh
    constructor
    · norm_num
      omega
    · norm_num
      omega
  have hlast : Fits 32 (sign * (hours * 3600 + minutes * 60 + seconds)) := by
    rcases hone with rfl | rfl
    · exact hfits _ (by omega) (by omega)
    · exact hfits _ (by omega) (by omega)
  unfold postgresOffsetSeconds
  rw [hsign, ok_bind]
  dsimp only
  rw [hparts, demand, ok_bind, hform, require, if_pos rfl, ok_bind, hhour, ok_bind, hminute,
    ok_bind, hsecond, ok_bind, decide_eq_true hrange, require, if_pos rfl, ok_bind,
    arith_bind (hfits _ (by omega) (by omega)), arith_bind (hfits _ (by omega) (by omega)),
    arith_bind (hfits _ (by omega) (by omega)), arith_bind (hfits _ (by omega) (by omega)),
    arith_of_fits hlast]

theorem offsetSign_isoOffset (offset : ℤ) : offsetSign (isoOffset offset) =
    .ok (if offset < 0 then -1 else 1, (isoOffset offset).tail) := by
  unfold isoOffset
  dsimp only
  split
  · rfl
  · rfl

/-- An offset below 16 hours is read back. -/
theorem postgresOffsetSeconds_isoOffset (h : offset.natAbs < 57600) :
    postgresOffsetSeconds (isoOffset offset) = .ok offset := by
  obtain ⟨n, hn⟩ : ∃ n, n = offset.natAbs := ⟨_, rfl⟩
  have hparts := offsetParts_isoOffset (hn ▸ h)
  have hread : ∀ m < 60, parseI32 (paddedDigits 2 m) = .ok (m : ℤ) :=
    fun m hm => parseI32_padded (by norm_num; omega)
  have hne : ∀ m, (paddedDigits 2 m).isEmpty = false := by
    intro m
    simpa using paddedDigits_ne_nil 2 m
  have hone : (if offset < 0 then -1 else 1 : ℤ) = 1 ∨ (if offset < 0 then -1 else 1 : ℤ) = -1 := by
    split
    · exact .inr rfl
    · exact .inl rfl
  have hvalue : (isoOffset offset).tail = (paddedDigits 2 (n / 3600) ++
      if n % 60 ≠ 0 then ':' :: paddedDigits 2 (n % 3600 / 60) ++ ':' :: paddedDigits 2 (n % 60)
      else if n % 3600 ≠ 0 then ':' :: paddedDigits 2 (n % 3600 / 60)
      else []) := by
    rw [hn]
    rfl
  rw [← hvalue] at hparts
  have hsum := fun {hours minutes seconds : ℤ} => @postgresOffsetSeconds_of_parts
    (isoOffset offset) _ hours minutes seconds _ _ (offsetSign_isoOffset offset) hone hparts
  by_cases hsecond : n % 60 ≠ 0
  · simp only [if_pos hsecond] at hsum
    rw [hsum (by simp [hne]) (hread _ (by omega)) (hread _ (by omega)) (hread _ (by omega))
      (by omega), Except.ok.injEq]
    split
    · omega
    · omega
  · by_cases hminute : n % 3600 ≠ 0
    · simp only [if_neg hsecond, if_pos hminute] at hsum
      rw [hsum (by simp [hne]) (hread _ (by omega)) (hread _ (by omega)) rfl (by omega),
        Except.ok.injEq]
      split
      · omega
      · omega
    · simp only [if_neg hsecond, if_neg hminute] at hsum
      rw [hsum (by simp [hne]) (hread _ (by omega)) rfl rfl (by omega), Except.ok.injEq]
      split
      · omega
      · omega

theorem endsWithDigit_isoOffset (offset : ℤ) : EndsWithDigit (isoOffset offset) := by
  have hsecond := (endsWithDigit_padded 2 (offset.natAbs % 60)).cons ':'
  have hminute := (endsWithDigit_padded 2 (offset.natAbs % 3600 / 60)).cons ':'
  have hhour := endsWithDigit_padded 2 (offset.natAbs / 3600)
  unfold isoOffset
  dsimp only
  by_cases hseconds : offset.natAbs % 60 ≠ 0
  · rw [if_pos hseconds]
    exact (hsecond.append _).append _
  · rw [if_neg hseconds]
    by_cases hminutes : offset.natAbs % 3600 ≠ 0
    · rw [if_pos hminutes]
      exact hminute.append _
    · rw [if_neg hminutes, List.append_nil]
      exact hhour.cons _

theorem blank_notMem_isoDate (date : CivilDate) : ' ' ∉ isoDate date := by
  have hfree : ∀ width n, ' ' ∉ paddedDigits width n := fun width n => digit_notMem_padded rfl
  simp [isoDate, isoYear, hfree]

theorem postgresDateWithEra_eq (date : CivilDate) :
    postgresDateWithEra (isoDate date) (decide (date.year ≤ 0)) =
      postgresDate (isoDate date ++ isoEra date.year) := by
  unfold postgresDateWithEra isoEra
  by_cases hyear : 0 < date.year
  · rw [decide_eq_false (not_le.mpr hyear), if_neg Bool.false_ne_true, if_pos hyear,
      List.append_nil]
  · rw [decide_eq_true (not_lt.mp hyear), if_pos rfl, if_neg hyear]

theorem splitTimeZone_iso : splitTimeZone
    (isoClock hour minute second microsecond ++ isoOffset offset) =
      some (isoClock hour minute second microsecond, isoOffset offset) := by
  obtain ⟨value, hvalue, hfree⟩ := isoOffset_cons offset
  obtain ⟨first, rest, hcons⟩ := List.exists_cons_of_ne_nil (paddedDigits_ne_nil 2 hour)
  have hsign : (if offset < 0 then '-' else '+') = '+' ∨
      (if offset < 0 then '-' else '+') = '-' := by
    split
    · exact .inr rfl
    · exact .inl rfl
  rw [isoClock, hcons, List.cons_append, List.cons_append, List.cons_append, List.cons_append,
    splitTimeZone, hvalue, splitLastSign_append hsign hfree]
  rfl

/-- The civil time at an offset below 16 hours stands for the instant if its year is in the range
of the decoder, and is refused otherwise. -/
theorem postgresInstant_isoInstant {civil : CivilTime} (hvalid : civil.Valid)
    (hlow : -5000 ≤ civil.date.year) (hhigh : civil.date.year ≤ 6000000)
    (hmicro : microsecond < 1000000) (hoffset : offset.natAbs < 57600) :
    postgresInstant (isoInstant civil microsecond offset) =
      if -4712 ≤ civil.date.year ∧ civil.date.year ≤ 294276 then
        .ok (civil.unixSeconds - offset, microsecond * 1000)
      else if -4712 ≤ civil.date.year ∧ civil.date.year ≤ 5874897 then
        invalidText "PostgreSQL timestamp year is outside the supported range"
      else invalidText "PostgreSQL date year is outside the supported range" := by
  obtain ⟨hdate, hhour, hminute, hsecond⟩ := hvalid
  have hclock : ClockFields civil.hour civil.minute civil.second microsecond :=
    ⟨by omega, hminute, hsecond, hmicro, by omega⟩
  have hera : stripEra (isoInstant civil microsecond offset) =
      (isoDate civil.date ++ ' ' :: (isoClock civil.hour civil.minute civil.second microsecond ++
        isoOffset offset), decide (civil.date.year ≤ 0)) := by
    rw [isoInstant, ((endsWithDigit_isoOffset offset).append _).stripEra]
    simp
  unfold postgresInstant
  rw [hera]
  dsimp only
  rw [splitFirst_append (blank_notMem_isoDate civil.date), demand, ok_bind]
  dsimp only
  rw [postgresDateWithEra_eq, postgresDate_isoDate hdate hlow hhigh]
  by_cases hrange : -4712 ≤ civil.date.year ∧ civil.date.year ≤ 5874897
  · rw [if_pos hrange, ok_bind]
    dsimp only
    by_cases hyear : -4712 ≤ civil.date.year ∧ civil.date.year ≤ 294276
    · rw [if_pos hyear, validatePostgresTimestampYear, decide_eq_true hyear, require, if_pos rfl,
        ok_bind, splitTimeZone_iso, demand, ok_bind]
      dsimp only
      rw [clockTime_isoClock hclock, ok_bind]
      dsimp only
      rw [postgresOffsetSeconds_isoOffset hoffset, ok_bind,
        daysFromCivil_eq hrange.1 hrange.2 hdate, ok_bind,
        instantSeconds_eq hrange.1 hrange.2 hdate hclock (by omega), ok_bind,
        natural_of_lt (by norm_num; omega), ok_bind]
      rfl
    · rw [if_neg hyear, if_pos hrange, validatePostgresTimestampYear, decide_eq_false hyear]
      rfl
  · rw [if_neg hrange, if_neg (by omega), if_neg hrange]
    rfl

end Iso

end DatabaseSync.PostgresqlSource
