import DatabaseSync.Library.Calendar
import DatabaseSync.Library.Digits
import DatabaseSync.PostgresqlSink.Value

/-! # The texts of dates and instants

What PostgreSQL reads in the texts that the sink binds: a year of at least four digits without a
sign, the month and the day, the time of day and an offset, and at the end the era.
-/

namespace DatabaseSync.PostgresqlSink

open Calendar ChangeEvent Checked Text

/-! ## The input of PostgreSQL -/

/-- Digits, no fewer than these. -/
structure Numeral (least : ℕ) (text : List Char) (n : ℕ) : Prop where
  length : least ≤ text.length
  digits : ∀ c ∈ text, isAsciiDigit c = true
  value : decimalValue text = n

/-- The year, the month and the day. -/
inductive DateText : List Char → ℕ → ℕ → ℕ → Prop
  | intro {year month day : List Char} {y m d : ℕ} (hyear : Numeral 4 year y)
      (hmonth : Numeral 1 month m) (hday : Numeral 1 day d) :
      DateText (year ++ '-' :: month ++ '-' :: day) y m d

/-- A time of day with its microseconds. -/
inductive TimeText : List Char → ℕ → Prop
  | intro {hour minute second fraction : List Char} {h m s f : ℕ} (hhour : Numeral 1 hour h)
      (hminute : Numeral 1 minute m) (hsecond : Numeral 1 second s)
      (hfraction : Numeral 6 fraction f)
      (hlength : fraction.length ≤ 6) (hrange : m < 60 ∧ s < 60)
      (hday : h * 3600 + m * 60 + s ≤ 86400 ∧ (h = 24 → f = 0)) :
      TimeText (hour ++ ':' :: minute ++ ':' :: second ++ '.' :: fraction)
        ((h * 3600 + m * 60 + s) * 1000000 + f)

/-- An offset of whole hours. -/
inductive OffsetText : List Char → ℤ → Prop
  | east {hour : List Char} {h : ℕ} (hhour : Numeral 2 hour h) : OffsetText ('+' :: hour) (h * 3600)
  | west {hour : List Char} {h : ℕ} (hhour : Numeral 2 hour h) :
      OffsetText ('-' :: hour) (-(h * 3600))

def eraText (bc : Bool) : List Char := if bc then [' ', 'B', 'C'] else []

/-- There is no year zero. -/
def eraYear (bc : Bool) (n : ℕ) : ℤ := if bc then 1 - n else n

/-- The date in a text. -/
inductive ReadsDate : List Char → CivilDate → Prop
  | intro {date : List Char} {y m d : ℕ} (bc : Bool) (hdate : DateText date y m d) (hyear : 1 ≤ y)
      (hvalid : (⟨eraYear bc y, m, d⟩ : CivilDate).Valid) :
      ReadsDate (date ++ eraText bc) ⟨eraYear bc y, m, d⟩

/-- The microseconds of a date and a time, counted from the epoch. -/
def epochMicros (date : CivilDate) (micros : ℤ) : ℤ := date.dayNumber * 86400000000 + micros

/-- The microseconds in a text without an offset. -/
inductive ReadsTimestamp : List Char → ℤ → Prop
  | intro {date time : List Char} {y m d micros : ℕ} (bc : Bool) (hdate : DateText date y m d)
      (hyear : 1 ≤ y) (hvalid : (⟨eraYear bc y, m, d⟩ : CivilDate).Valid)
      (htime : TimeText time micros) :
      ReadsTimestamp (date ++ ' ' :: time ++ eraText bc) (epochMicros ⟨eraYear bc y, m, d⟩ micros)

/-- The microseconds in a text with an offset. -/
inductive ReadsTimestamptz : List Char → ℤ → Prop
  | intro {date time offset : List Char} {y m d micros : ℕ} {seconds : ℤ} (bc : Bool)
      (hdate : DateText date y m d) (hyear : 1 ≤ y)
      (hvalid : (⟨eraYear bc y, m, d⟩ : CivilDate).Valid) (htime : TimeText time micros)
      (hoffset : OffsetText offset seconds) :
      ReadsTimestamptz (date ++ ' ' :: time ++ offset ++ eraText bc)
        (epochMicros ⟨eraYear bc y, m, d⟩ (micros - seconds * 1000000))

/-! ## The dates that the sink binds -/

section Dates

variable {width least n month day hour minute second microsecond : ℕ} {year : ℤ}
  {date : CivilDate} {l : List Char} {c : Char}

theorem toList_pad (width n : ℕ) : (pad width n).toList = paddedDigits width n := by
  have hdigits : toString n = String.ofList (Nat.toDigits 10 n) := rfl
  unfold pad paddedDigits
  dsimp only
  rw [String.toList_append, toList_pushn, hdigits, String.length_ofList, String.toList_ofList]

theorem toList_padInt {n : ℤ} (h : 0 ≤ n) :
    (padInt width n).toList = paddedDigits width n.toNat := by
  unfold padInt
  rw [if_neg (not_lt.mpr h), toList_pad]
  congr 1
  omega

theorem length_le_paddedDigits (width n : ℕ) : width ≤ (paddedDigits width n).length := by
  unfold paddedDigits
  rw [List.length_append, List.length_replicate]
  omega

theorem numeral_padded (h : least ≤ width) : Numeral least (paddedDigits width n) n where
  length := h.trans (length_le_paddedDigits width n)
  digits := paddedDigits_digits width n
  value := decimalValue_paddedDigits width n

/-- The number of a year in its era. -/
def yearNumber (year : ℤ) : ℕ := (if year ≤ 0 then 1 - year else year).toNat

def dateDigits (year : ℤ) (month day : ℕ) : List Char :=
  paddedDigits 4 (yearNumber year) ++ '-' :: paddedDigits 2 month ++ '-' :: paddedDigits 2 day

theorem eraYear_yearNumber (year : ℤ) : eraYear (decide (year ≤ 0)) (yearNumber year) = year := by
  unfold eraYear yearNumber
  simp only [decide_eq_true_iff]
  omega

theorem dateText_digits (year : ℤ) (month day : ℕ) :
    DateText (dateDigits year month day) (yearNumber year) month day :=
  .intro (numeral_padded le_rfl) (numeral_padded (by decide)) (numeral_padded (by decide))

theorem toList_postgresDate (year : ℤ) (month day : ℕ) : (postgresDate year month day).toList =
    dateDigits year month day ++ eraText (decide (year ≤ 0)) := by
  unfold postgresDate dateDigits yearNumber eraText
  by_cases hyear : year ≤ 0
  · rw [if_pos hyear, decide_eq_true hyear, if_pos rfl, if_pos hyear]
    simp [toList_pad, toList_padInt (show 0 ≤ 1 - year by omega)]
  · rw [if_neg hyear, decide_eq_false hyear, if_neg Bool.false_ne_true, if_neg hyear]
    simp [toList_pad, toList_padInt (show 0 ≤ year by omega)]

/-- Every date is read as it is, in either era and with any number of digits. -/
theorem readsDate_postgresDate (hvalid : (⟨year, month, day⟩ : CivilDate).Valid) :
    ReadsDate (postgresDate year month day).toList ⟨year, month, day⟩ := by
  have hreads := ReadsDate.intro (decide (year ≤ 0)) (dateText_digits year month day)
    (by unfold yearNumber; omega) (by rwa [eraYear_yearNumber])
  rwa [eraYear_yearNumber, ← toList_postgresDate] at hreads

/-- The fields of a time of day, or of its end. -/
structure DayTime (hour minute second microsecond : ℕ) : Prop where
  minute_lt : minute < 60
  second_lt : second < 60
  micro_lt : microsecond < 1000000
  day : hour * 3600 + minute * 60 + second ≤ 86400 ∧ (hour = 24 → microsecond = 0)

def timeDigits (hour minute second microsecond : ℕ) : List Char :=
  paddedDigits 2 hour ++ ':' :: paddedDigits 2 minute ++ ':' :: paddedDigits 2 second ++
    '.' :: paddedDigits 6 microsecond

theorem toList_clockTime (hour minute second microsecond : ℕ) :
    (clockTime hour minute second microsecond).toList =
      timeDigits hour minute second microsecond := by
  simp [clockTime, timeDigits, toList_pad]

theorem timeText_digits (h : DayTime hour minute second microsecond) :
    TimeText (timeDigits hour minute second microsecond)
      ((hour * 3600 + minute * 60 + second) * 1000000 + microsecond) :=
  .intro (numeral_padded (by decide)) (numeral_padded (by decide)) (numeral_padded (by decide))
    (numeral_padded le_rfl) (length_paddedDigits (by decide) h.micro_lt).le
    ⟨h.minute_lt, h.second_lt⟩ h.day

/-! ## Texts that cannot be read -/

/-- The characters of a text before its era. -/
def IsFieldChar (c : Char) : Prop := isAsciiDigit c = true ∨ c ∈ ['-', ' ', ':', '.', '+']

theorem Numeral.first (h : Numeral least l n) (hpos : 0 < least) :
    ∃ c rest, l = c :: rest ∧ isAsciiDigit c = true := by
  have hlength := h.length
  obtain ⟨c, rest, rfl⟩ := List.exists_cons_of_length_pos (hpos.trans_le hlength)
  exact ⟨c, rest, rfl, h.digits c List.mem_cons_self⟩

theorem Numeral.isFieldChar (h : Numeral least l n) (hc : c ∈ l) : IsFieldChar c :=
  .inl (h.digits c hc)

theorem isFieldChar_separator (hc : c ∈ ['-', ' ', ':', '.', '+']) : IsFieldChar c := .inr hc

theorem DateText.isFieldChar {y m d : ℕ} (h : DateText l y m d) (hc : c ∈ l) : IsFieldChar c := by
  obtain ⟨hyear, hmonth, hday⟩ := h
  simp only [List.mem_append, List.mem_cons, or_assoc] at hc
  rcases hc with hc | rfl | hc | rfl | hc
  · exact hyear.isFieldChar hc
  · exact isFieldChar_separator (by decide)
  · exact hmonth.isFieldChar hc
  · exact isFieldChar_separator (by decide)
  · exact hday.isFieldChar hc

theorem TimeText.isFieldChar (h : TimeText l n) (hc : c ∈ l) : IsFieldChar c := by
  obtain ⟨hhour, hminute, hsecond, hfraction, -, -, -⟩ := h
  simp only [List.mem_append, List.mem_cons, or_assoc] at hc
  rcases hc with hc | rfl | hc | rfl | hc | rfl | hc
  · exact hhour.isFieldChar hc
  · exact isFieldChar_separator (by decide)
  · exact hminute.isFieldChar hc
  · exact isFieldChar_separator (by decide)
  · exact hsecond.isFieldChar hc
  · exact isFieldChar_separator (by decide)
  · exact hfraction.isFieldChar hc

/-- A text with an era in it ends with the era. -/
theorem ReadsTimestamp.ends {v : ℤ} (h : ReadsTimestamp l v) (hera : 'B' ∈ l) :
    ∃ before, l = before ++ ['C'] := by
  obtain ⟨bc, hdate, hyear, hvalid, htime⟩ := h
  rename_i date time _ _ _ _
  cases bc with
  | true => exact ⟨date ++ ' ' :: time ++ [' ', 'B'], by simp [eraText]⟩
  | false =>
    have hletter : ¬ IsFieldChar 'B' := by
      rintro (hdigit | hseparator)
      · cases hdigit
      · exact absurd hseparator (by decide)
    simp only [eraText, Bool.false_eq_true, if_false, List.append_nil, List.mem_append,
      List.mem_cons] at hera
    rcases hera with hera | hera | hera
    · exact absurd (hdate.isFieldChar hera) hletter
    · exact absurd hera (by decide)
    · exact absurd (htime.isFieldChar hera) hletter

/-- A text begins with the digits of a year, which is not zero. -/
theorem ReadsTimestamptz.begins {v : ℤ} (h : ReadsTimestamptz l v) :
    ∃ year rest, l = year ++ '-' :: rest ∧ (∀ c ∈ year, isAsciiDigit c = true) ∧ year ≠ [] ∧
      1 ≤ decimalValue year := by
  obtain ⟨bc, ⟨hyear, hmonth, hday⟩, hpos, hvalid, htime, hoffset⟩ := h
  rename_i year month day
  refine ⟨year, _, by simp only [List.append_assoc, List.cons_append]; rfl, hyear.digits, ?_, ?_⟩
  · rintro rfl
    have hlength := hyear.length
    simp at hlength
  · rwa [hyear.value]

end Dates

/-! ## Timestamps -/

section Timestamps

variable {year : ℤ} {month day hour minute second microsecond : ℕ}

/-- The text of a local datetime can be read if its era is not BC, which is written before the
time. -/
theorem readsTimestamp_iff (hvalid : (⟨year, month, day⟩ : CivilDate).Valid)
    (htime : DayTime hour minute second microsecond) :
    ReadsTimestamp
        (postgresDate year month day ++ " " ++ clockTime hour minute second microsecond).toList
        (epochMicros ⟨year, month, day⟩
          (((hour * 3600 + minute * 60 + second) * 1000000 + microsecond : ℕ) : ℤ)) ↔ 1 ≤ year := by
  have htext : (postgresDate year month day ++ " " ++
      clockTime hour minute second microsecond).toList =
        dateDigits year month day ++ eraText (decide (year ≤ 0)) ++
          ' ' :: timeDigits hour minute second microsecond := by
    rw [String.toList_append, String.toList_append, toList_postgresDate, toList_clockTime]
    simp
  rw [htext]
  constructor
  · intro hreads
    by_contra hyear
    rw [decide_eq_true (by omega : year ≤ 0)] at hreads
    obtain ⟨before, heq⟩ := hreads.ends (by simp [eraText])
    obtain ⟨digits, last, hconcat, hlast⟩ := paddedDigits_concat 6 microsecond
    have hend : (dateDigits year month day ++ eraText true ++ ' ' :: (paddedDigits 2 hour ++
        ':' :: paddedDigits 2 minute ++ ':' :: paddedDigits 2 second ++ '.' :: digits)) ++ [last] =
          before ++ ['C'] := by
      rw [← heq, timeDigits, hconcat]
      simp
    have hchar : last = 'C' := List.singleton_injective (List.append_inj_right' hend rfl)
    rw [hchar] at hlast
    cases hlast
  · intro hyear
    have hcommon : decide (year ≤ 0) = false := decide_eq_false (by omega)
    have hera := eraYear_yearNumber year
    rw [hcommon] at hera ⊢
    have hreads := ReadsTimestamp.intro false (dateText_digits year month day)
      (by unfold yearNumber; omega) (by rwa [hera]) (timeText_digits htime)
    rw [hera] at hreads
    simpa [eraText] using hreads

/-! ## Instants -/

/-- The civil time of an instant, with a year of four digits. -/
def utcDigits (civil : CivilTime) : List Char :=
  paddedDigits 4 civil.date.year.toNat ++ '-' :: paddedDigits 2 civil.date.month ++
    '-' :: paddedDigits 2 civil.date.day ++ ' ' :: paddedDigits 2 civil.hour ++
    ':' :: paddedDigits 2 civil.minute ++ ':' :: paddedDigits 2 civil.second

/-- What the formatting library says of `%Y-%m-%d %H:%M:%S`: a year of up to four digits is filled
up with zeros, and any other has a sign. -/
structure FormatsUtc (library : ValueLibrary) : Prop where
  fourDigits : ∀ (civil : CivilTime) (nanoseconds : ℕ), civil.Valid → 0 ≤ civil.date.year →
    civil.date.year ≤ 9999 → nanoseconds < 1000000000 →
    library.formatUtc civil.unixSeconds nanoseconds =
      some (String.ofList (utcDigits civil), nanoseconds / 1000)
  signed : ∀ (civil : CivilTime) (nanoseconds : ℕ) (text : String) (micros : ℕ), civil.Valid →
    ¬ (0 ≤ civil.date.year ∧ civil.date.year ≤ 9999) →
    library.formatUtc civil.unixSeconds nanoseconds = some (text, micros) →
    ∃ rest, text.toList = '+' :: rest ∨ text.toList = '-' :: rest

variable {library : ValueLibrary} {civil : CivilTime} {unixSeconds : String}

/-- The parameter of an instant is the text of the library with the microseconds. -/
theorem instantParameter_eq {n : ℤ} {text : String} {micros : ℕ}
    (hread : parseSigned (2 ^ 63) unixSeconds = some n)
    (hformat : library.formatUtc n (microsecond * 1000) = some (text, micros)) :
    instantParameter library unixSeconds (microsecond * 1000) =
      .ok (.timestamptz (text ++ "." ++ pad 6 micros ++ "+00")) := by
  have hwhole : ¬ microsecond * 1000 % 1000 ≠ 0 := by omega
  unfold instantParameter
  rw [if_neg hwhole, hread]
  dsimp only
  rw [hformat]
  rfl

theorem exists_formatUtc {n : ℤ} {text : String}
    (hread : parseSigned (2 ^ 63) unixSeconds = some n)
    (h : instantParameter library unixSeconds (microsecond * 1000) = .ok (.timestamptz text)) :
    ∃ digits micros, library.formatUtc n (microsecond * 1000) = some (digits, micros) ∧
      text = digits ++ "." ++ pad 6 micros ++ "+00" := by
  cases hformat : library.formatUtc n (microsecond * 1000) with
  | none =>
    have hwhole : ¬ microsecond * 1000 % 1000 ≠ 0 := by omega
    unfold instantParameter at h
    rw [if_neg hwhole, hread] at h
    dsimp only at h
    rw [hformat] at h
    cases h
  | some written =>
    obtain ⟨digits, micros⟩ := written
    rw [instantParameter_eq hread hformat] at h
    exact ⟨digits, micros, rfl, (Parameter.timestamptz.inj (Except.ok.inj h)).symm⟩

theorem utcDigits_eq (hone : 1 ≤ civil.date.year) (civilMicros : ℕ) :
    (String.ofList (utcDigits civil) ++ "." ++ pad 6 civilMicros ++ "+00").toList =
      dateDigits civil.date.year civil.date.month civil.date.day ++
        ' ' :: timeDigits civil.hour civil.minute civil.second civilMicros ++
          ['+', '0', '0'] ++ eraText false := by
  have hnumber : yearNumber civil.date.year = civil.date.year.toNat := by
    unfold yearNumber
    rw [if_neg (by omega)]
  simp [utcDigits, dateDigits, timeDigits, hnumber, toList_pad, eraText]

/-- A text of a year that is not zero is read as its instant. -/
theorem readsTimestamptz_utcDigits (hvalid : civil.Valid) (hone : 1 ≤ civil.date.year)
    (hmicro : microsecond < 1000000) :
    ReadsTimestamptz
      (String.ofList (utcDigits civil) ++ "." ++ pad 6 microsecond ++ "+00").toList
      (civil.unixSeconds * 1000000 + microsecond) := by
  obtain ⟨hdate, hhour, hminute, hsecond⟩ := hvalid
  have hera : eraYear false (yearNumber civil.date.year) = civil.date.year := by
    have hyear := eraYear_yearNumber civil.date.year
    rwa [decide_eq_false (by omega : ¬ civil.date.year ≤ 0)] at hyear
  have htime : DayTime civil.hour civil.minute civil.second microsecond :=
    ⟨hminute, hsecond, hmicro, by omega, by omega⟩
  have hoffset : OffsetText ['+', '0', '0'] ((0 : ℕ) * 3600) :=
    .east ⟨le_rfl, by simp [isAsciiDigit], rfl⟩
  have hreads := ReadsTimestamptz.intro false
    (dateText_digits civil.date.year civil.date.month civil.date.day)
    (by unfold yearNumber; omega) (by rwa [hera]) (timeText_digits htime) hoffset
  have hvalue : epochMicros civil.date
      ((((civil.hour * 3600 + civil.minute * 60 + civil.second) * 1000000 + microsecond : ℕ) : ℤ) -
        (0 : ℕ) * 3600 * 1000000) = civil.unixSeconds * 1000000 + microsecond := by
    unfold epochMicros CivilTime.unixSeconds
    push_cast
    omega
  rw [hera, hvalue] at hreads
  rw [utcDigits_eq hone]
  exact hreads

/-- A text that can be read has a year that is not zero. -/
theorem year_pos_of_reads {v : ℤ} {rest : List Char}
    (hreads : ReadsTimestamptz (paddedDigits 4 civil.date.year.toNat ++ '-' :: rest) v) :
    1 ≤ civil.date.year := by
  obtain ⟨year, after, heq, hdigits, -, hone⟩ := hreads.begins
  have hfree : '-' ∉ year := fun hmem => absurd (hdigits '-' hmem) (by decide)
  have hfree' : '-' ∉ paddedDigits 4 civil.date.year.toNat :=
    fun hmem => absurd (paddedDigits_digits 4 _ '-' hmem) (by decide)
  have hsplit := @splitFirst_append '-' year after hfree
  rw [← heq, splitFirst_append hfree'] at hsplit
  obtain ⟨rfl, -⟩ := Prod.mk.inj (Option.some.inj hsplit)
  rw [decimalValue_paddedDigits] at hone
  omega

theorem not_reads_of_sign {v : ℤ} {c : Char} {rest : List Char} (hc : isAsciiDigit c = false) :
    ¬ ReadsTimestamptz (c :: rest) v := by
  intro hreads
  obtain ⟨year, after, heq, hdigits, hne, -⟩ := hreads.begins
  obtain ⟨first, year, rfl⟩ := List.exists_cons_of_ne_nil hne
  obtain ⟨rfl, -⟩ := List.cons.inj heq
  rw [hdigits c List.mem_cons_self] at hc
  cases hc

/-- The parameter of an instant can be read if its year in UTC has four digits and is not zero. -/
theorem readsTimestamptz_iff (hformat : FormatsUtc library) (hvalid : civil.Valid)
    (hread : parseSigned (2 ^ 63) unixSeconds = some civil.unixSeconds)
    (hmicro : microsecond < 1000000) :
    (∃ text, instantParameter library unixSeconds (microsecond * 1000) = .ok (.timestamptz text) ∧
      ReadsTimestamptz text.toList (civil.unixSeconds * 1000000 + microsecond)) ↔
    1 ≤ civil.date.year ∧ civil.date.year ≤ 9999 := by
  constructor
  · rintro ⟨text, htext, hreads⟩
    obtain ⟨digits, micros, hutc, rfl⟩ := exists_formatUtc hread htext
    by_cases hfour : 0 ≤ civil.date.year ∧ civil.date.year ≤ 9999
    · rw [hformat.fourDigits civil _ hvalid hfour.1 hfour.2 (by omega)] at hutc
      obtain ⟨rfl, -⟩ := Prod.mk.inj (Option.some.inj hutc)
      refine ⟨?_, hfour.2⟩
      simp only [String.toList_append, String.toList_ofList, utcDigits, List.append_assoc,
        List.cons_append] at hreads
      exact year_pos_of_reads hreads
    · obtain ⟨rest, hsign | hsign⟩ := hformat.signed civil _ digits micros hvalid hfour hutc
      · rw [String.toList_append, String.toList_append, String.toList_append, hsign] at hreads
        exact absurd hreads (not_reads_of_sign rfl)
      · rw [String.toList_append, String.toList_append, String.toList_append, hsign] at hreads
        exact absurd hreads (not_reads_of_sign rfl)
  · rintro ⟨hone, hle⟩
    have hutc := hformat.fourDigits civil (microsecond * 1000) hvalid (by omega) hle (by omega)
    rw [Nat.mul_div_cancel microsecond (by decide)] at hutc
    exact ⟨_, instantParameter_eq hread hutc, readsTimestamptz_utcDigits hvalid hone hmicro⟩

end Timestamps

end DatabaseSync.PostgresqlSink
