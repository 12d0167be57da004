import DatabaseSync.ChangeEvent.Plan
import DatabaseSync.Library.Digits
import DatabaseSync.Library.Machine

/-! # Fixed time zones

The offset that a plan declares for a conversion between local times and instants. It is read once
when the parameters of a plan are checked and again at each value.
-/

namespace DatabaseSync.ChangeEvent

open Checked Machine Text

/-! ## The two parsers -/

/-- What a parser says of the part that it refuses. -/
structure OffsetErrors (ε : Type) where
  sign : ε
  colon : ε
  hour : ε
  minute : ε
  range : ε

section Parser

variable {ε : Type} (errors : OffsetErrors ε)

/-- `sign * (hours * 3_600 + minutes * 60)` in `i32` -/
def offsetSeconds (sign hours minutes : ℤ) : Except (Fault ε) ℤ := do
  let hourSeconds ← arith 32 (hours * 3600)
  let minuteSeconds ← arith 32 (minutes * 60)
  let seconds ← arith 32 (hourSeconds + minuteSeconds)
  arith 32 (sign * seconds)

/-- The offset after its sign: `HH:MM`, read by `parse::<i32>`. -/
def parseSignedOffset (sign : ℤ) (rest : String) : Except (Fault ε) ℤ := do
  let (hours, minutes) ← demand (splitOnce rest ':') errors.colon
  let hours ← demand (parseSigned (2 ^ 31) hours) errors.hour
  let minutes ← demand (parseSigned (2 ^ 31) minutes) errors.minute
  require (!(23 < hours || 59 < minutes)) errors.range
  offsetSeconds sign hours minutes

def parseOffset (value : String) : Except (Fault ε) ℤ :=
  if eqIgnoreAsciiCase value "utc" ∨ value = "Z" then .ok 0
  else match value.toList with
    | '+' :: rest => parseSignedOffset errors 1 (String.ofList rest)
    | '-' :: rest => parseSignedOffset errors (-1) (String.ofList rest)
    | _ => refuse errors.sign

end Parser

/-- The check of the parameters of a plan. -/
def parseTimezoneValue (value : String) : Except (Fault String) ℤ :=
  parseOffset
    { sign := "time_zone must be UTC or a fixed +HH:MM/-HH:MM offset"
      colon := "time_zone must be a fixed +HH:MM/-HH:MM offset"
      hour := "time_zone hour is invalid"
      minute := "time_zone minute is invalid"
      range := "time_zone offset is outside its qualified range" } value

def ColumnConversionPlan.timeZone (plan : ColumnConversionPlan) : Option String :=
  plan.parameters.lookup "time_zone" <|> plan.parameters.lookup "timezone"

/-- The conversion of a value. -/
def parseTimezoneOffset (plan : ColumnConversionPlan) :
    Except (Fault TargetCapabilityFailure) ℤ := do
  let value ← demand plan.timeZone (plan.failure "target_capability.timezone_missing"
    "a fixed source time zone is required for local/absolute conversion")
  let invalid := plan.failure "target_capability.timezone_invalid"
  parseOffset
    { sign := invalid "time zone must be UTC or a fixed offset such as +08:00"
      colon := invalid "time zone must use a fixed +HH:MM or -HH:MM offset"
      hour := invalid "time zone hour is invalid"
      minute := invalid "time zone minute is invalid"
      range := invalid "time zone offset is outside its qualified range" } value

/-! ## The documented language -/

/-- A fixed offset of less than a day. -/
structure FixedOffset where
  negative : Bool
  hour : ℕ
  minute : ℕ
  hour_lt : hour < 24
  minute_lt : minute < 60

def twoDigits (n : ℕ) : List Char := [(n / 10).digitChar, (n % 10).digitChar]

namespace FixedOffset

variable (offset : FixedOffset)

def sign : Char := if offset.negative then '-' else '+'

def text : List Char := offset.sign :: (twoDigits offset.hour ++ ':' :: twoDigits offset.minute)

def seconds : ℤ :=
  let seconds : ℤ := offset.hour * 3600 + offset.minute * 60
  if offset.negative then -seconds else seconds

end FixedOffset

/-- The texts of the documented language with the offsets they stand for. -/
inductive Spells : String → ℤ → Prop
  | utc {value : String} (h : eqIgnoreAsciiCase value "utc" = true ∨ value = "Z") : Spells value 0
  | fixed (offset : FixedOffset) : Spells (String.ofList offset.text) offset.seconds

/-- For this text the two parsers are one reader of the documented language. -/
structure OneLanguage (value : String) : Prop where
  agree : ∀ plan : ColumnConversionPlan, plan.timeZone = some value →
    (∃ offset, parseTimezoneOffset plan = .ok offset ∧ parseTimezoneValue value = .ok offset) ∨
      ∃ failure message, parseTimezoneOffset plan = .error (.refused failure) ∧
        parseTimezoneValue value = .error (.refused message)
  exact : ∀ offset, parseTimezoneValue value = .ok offset ↔ Spells value offset
  day : ∀ offset, parseTimezoneValue value = .ok offset → -86400 < offset ∧ offset < 86400
  noOverflow : parseTimezoneValue value ≠ .error .overflow

def isTwoDigits (part : List Char) : Bool := part.length == 2 && part.all isAsciiDigit

/-- Parts after a sign that are read as numbers in range are two digits each. -/
def TwoDigitParts (value : String) : Prop :=
  ∀ sign hours minutes h m, (sign = '+' ∨ sign = '-') →
    value.toList = sign :: (hours ++ ':' :: minutes) →
    parseSigned (2 ^ 31) (String.ofList hours) = some h →
    parseSigned (2 ^ 31) (String.ofList minutes) = some m → h ≤ 23 → m ≤ 59 →
      isTwoDigits hours = true ∧ isTwoDigits minutes = true

/-! ## Two digits -/

theorem isTwoDigits_iff {part : List Char} :
    isTwoDigits part = true ↔ ∃ n < 100, part = twoDigits n := by
  simp only [isTwoDigits, Bool.and_eq_true, beq_iff_eq, List.all_eq_true]
  constructor
  · rintro ⟨hlength, hdigits⟩
    obtain ⟨a, b, rfl⟩ := List.length_eq_two.mp hlength
    obtain ⟨d, hd, rfl⟩ := isAsciiDigit_iff.mp (hdigits a (by simp))
    obtain ⟨e, he, rfl⟩ := isAsciiDigit_iff.mp (hdigits b (by simp))
    refine ⟨10 * d + e, by omega, ?_⟩
    have htens : (10 * d + e) / 10 = d := by omega
    have hones : (10 * d + e) % 10 = e := by omega
    rw [twoDigits, htens, hones]
  · rintro ⟨n, hn, rfl⟩
    refine ⟨rfl, ?_⟩
    rintro c hc
    simp only [twoDigits, List.mem_cons, List.not_mem_nil, or_false] at hc
    rcases hc with rfl | rfl
    · exact isAsciiDigit_iff.mpr ⟨n / 10, by omega, rfl⟩
    · exact isAsciiDigit_iff.mpr ⟨n % 10, by omega, rfl⟩

theorem decimalValue_twoDigits {n : ℕ} (h : n < 100) : decimalValue (twoDigits n) = n := by
  rw [decimalValue, twoDigits, valueFrom_cons, valueFrom_cons, digitValue_digitChar (by omega),
    digitValue_digitChar (by omega), valueFrom_nil]
  omega

theorem parseSigned_twoDigits {n : ℕ} (h : n < 100) :
    parseSigned (2 ^ 31) (String.ofList (twoDigits n)) = some (n : ℤ) := by
  have htwo : isTwoDigits (twoDigits n) = true := isTwoDigits_iff.mpr ⟨n, h, rfl⟩
  simp only [isTwoDigits, Bool.and_eq_true, List.all_eq_true] at htwo
  have hne : twoDigits n ≠ [] := by simp [twoDigits]
  rw [parseSigned_of_digits hne htwo.2, decimalValue_twoDigits h, if_pos]
  calc n < 100 := h
    _ ≤ 2 ^ 31 := by norm_num

theorem colon_notMem_of_parseSigned {part : List Char} {v : ℤ}
    (h : parseSigned (2 ^ 31) (String.ofList part) = some v) : ':' ∉ part := by
  obtain ⟨digits, -, hdigits, hpart⟩ := parseSigned_eq_some h
  have hnot : ':' ∉ digits := fun hmem => absurd (hdigits _ hmem) (by decide)
  rcases hpart with ⟨rfl, -⟩ | ⟨rfl, -⟩ | ⟨rfl, -⟩
  · exact hnot
  · simpa using hnot
  · simpa using hnot

/-! ## What the parser reads -/

section Reads

variable {ε : Type} {errors : OffsetErrors ε} {value : String} {offset : ℤ}

/-- After a sign either parser refuses, or reads two numbers in range. -/
theorem parseSignedOffset_cases (rest : List Char) :
    (∀ {ε : Type} (errors : OffsetErrors ε) (sign : ℤ), ∃ error,
      parseSignedOffset errors sign (String.ofList rest) = .error (.refused error)) ∨
      ∃ hours minutes h m, rest = hours ++ ':' :: minutes ∧
        parseSigned (2 ^ 31) (String.ofList hours) = some h ∧
        parseSigned (2 ^ 31) (String.ofList minutes) = some m ∧ h ≤ 23 ∧ m ≤ 59 := by
  unfold parseSignedOffset
  cases hsplit : splitOnce (String.ofList rest) ':' with
  | none => exact .inl fun errors _ => ⟨errors.colon, rfl⟩
  | some parts =>
    obtain ⟨hours, minutes⟩ := parts
    obtain ⟨hrest, -⟩ := splitOnce_eq_some.mp hsplit
    rw [String.toList_ofList] at hrest
    cases hhours : parseSigned (2 ^ 31) hours with
    | none =>
      exact .inl fun errors _ => ⟨errors.hour, by
        simp only [demand, ok_bind, hhours, refuse, error_bind]⟩
    | some h =>
      cases hminutes : parseSigned (2 ^ 31) minutes with
      | none =>
        exact .inl fun errors _ => ⟨errors.minute, by
          simp only [demand, ok_bind, hhours, hminutes, refuse, error_bind]⟩
      | some m =>
        by_cases hrange : h ≤ 23 ∧ m ≤ 59
        · exact .inr ⟨hours.toList, minutes.toList, h, m, hrest, by simpa using hhours,
            by simpa using hminutes, hrange.1, hrange.2⟩
        · have hout : (!(23 < h || 59 < m)) = false := by
            rw [not_and_or, not_le, not_le] at hrange
            rcases hrange with hhour | hminute
            · simp [hhour]
            · simp [hminute]
          exact .inl fun errors _ => ⟨errors.range, by
            simp only [demand, ok_bind, hhours, hminutes, require, hout, refuse, error_bind,
              Bool.false_eq_true, if_false]⟩

/-- Two numbers in range make the offset. -/
theorem parseSignedOffset_eq {rest hours minutes : String} {sign h m : ℤ}
    (hsplit : splitOnce rest ':' = some (hours, minutes))
    (hhours : parseSigned (2 ^ 31) hours = some h)
    (hminutes : parseSigned (2 ^ 31) minutes = some m) (hhour : h ≤ 23) (hminute : m ≤ 59) :
    parseSignedOffset errors sign rest = offsetSeconds sign h m := by
  have hrange : (!(23 < h || 59 < m)) = true := by
    simp [hhour, hminute]
  simp only [parseSignedOffset, hsplit, hhours, hminutes, demand, require, hrange, ok_bind, if_true]

/-- The offset is computed or overflows. -/
theorem overflow_of_offsetSeconds {sign h m : ℤ} {fault : Fault ε}
    (herror : offsetSeconds sign h m = .error fault) : fault = .overflow := by
  simp only [offsetSeconds, bind_eq_error] at herror
  rcases herror with hhours | ⟨_, -, hminutes | ⟨_, -, hsum | ⟨_, -, hsign⟩⟩⟩
  · exact overflow_of_arith hhours
  · exact overflow_of_arith hminutes
  · exact overflow_of_arith hsum
  · exact overflow_of_arith hsign

theorem offsetSeconds_eq_ok {sign h m : ℤ} (hsign : sign = 1 ∨ sign = -1) (hhour : 0 ≤ h ∧ h ≤ 23)
    (hminute : 0 ≤ m ∧ m ≤ 59) :
    (offsetSeconds sign h m : Except (Fault ε) ℤ) = .ok (sign * (h * 3600 + m * 60)) := by
  have hfits : ∀ n : ℤ, -86400 < n → n < 86400 → Fits 32 n := by
    intro n hlow hhigh
    constructor
    · norm_num
      omega
    · norm_num
      omega
  unfold offsetSeconds
  rw [arith_of_fits (hfits _ (by omega) (by omega)), ok_bind,
    arith_of_fits (hfits _ (by omega) (by omega)), ok_bind,
    arith_of_fits (hfits _ (by omega) (by omega)), ok_bind]
  rcases hsign with rfl | rfl
  · exact arith_of_fits (hfits _ (by omega) (by omega))
  · exact arith_of_fits (hfits _ (by omega) (by omega))

/-- An offset that is read fits `i32`. -/
theorem parseOffset_fits {value : String} {offset : ℤ} (h : parseOffset errors value = .ok offset) :
    Fits 32 offset := by
  have hsigned : ∀ {sign : ℤ} {rest : String}, parseSignedOffset errors sign rest = .ok offset →
      Fits 32 offset := by
    intro sign rest hsigned
    unfold parseSignedOffset offsetSeconds at hsigned
    simp only [bind_eq_ok, arith_eq_ok] at hsigned
    obtain ⟨_, -, _, -, _, -, _, -, _, -, _, -, _, -, hfits, rfl⟩ := hsigned
    exact hfits
  unfold parseOffset at h
  split at h
  · cases h
    decide
  · split at h
    · exact hsigned h
    · exact hsigned h
    · cases h

theorem splitOnce_twoDigits {hour minute : ℕ} (h : hour < 100) :
    splitOnce (String.ofList (twoDigits hour ++ ':' :: twoDigits minute)) ':' =
      some (String.ofList (twoDigits hour), String.ofList (twoDigits minute)) := by
  rw [splitOnce_eq_some]
  simpa using colon_notMem_of_parseSigned (parseSigned_twoDigits h)

/-- Two numbers of two digits in range are read without overflow. -/
theorem parseSignedOffset_twoDigits {sign : ℤ} {hour minute : ℕ} (hsign : sign = 1 ∨ sign = -1)
    (hhour : hour < 24) (hminute : minute < 60) :
    parseSignedOffset errors sign
        (String.ofList (twoDigits hour ++ ':' :: twoDigits minute)) =
      .ok (sign * (hour * 3600 + minute * 60)) := by
  have hhours := parseSigned_twoDigits (n := hour) (by omega)
  have hminutes := parseSigned_twoDigits (n := minute) (by omega)
  rw [parseSignedOffset_eq (splitOnce_twoDigits (by omega)) hhours hminutes (by omega) (by omega),
    offsetSeconds_eq_ok hsign ⟨by omega, by omega⟩ ⟨by omega, by omega⟩]

theorem parseOffset_utc (h : eqIgnoreAsciiCase value "utc" = true ∨ value = "Z") :
    parseOffset errors value = .ok 0 :=
  if_pos h

/-- A signed text is neither spelling of UTC. -/
theorem not_utc_of_sign {sign : Char} {rest : List Char} (hsign : sign = '+' ∨ sign = '-') :
    ¬ (eqIgnoreAsciiCase (String.ofList (sign :: rest)) "utc" = true ∨
      String.ofList (sign :: rest) = "Z") := by
  rintro (hutc | hz)
  · rw [eqIgnoreAsciiCase, beq_iff_eq, String.toList_ofList, List.map_cons] at hutc
    have hhead : toAsciiLower sign = 'u' := (List.cons.inj hutc).1
    rcases hsign with rfl | rfl
    · exact absurd hhead (by decide)
    · exact absurd hhead (by decide)
  · have hlist : sign :: rest = ['Z'] := by
      rw [← String.toList_ofList (l := sign :: rest), hz]
      rfl
    obtain ⟨rfl, -⟩ := List.cons.inj hlist
    rcases hsign with hplus | hminus
    · exact absurd hplus (by decide)
    · exact absurd hminus (by decide)

theorem parseOffset_plus (rest : List Char) :
    parseOffset errors (String.ofList ('+' :: rest)) =
      parseSignedOffset errors 1 (String.ofList rest) := by
  rw [parseOffset, if_neg (not_utc_of_sign (.inl rfl)), String.toList_ofList]
  rfl

theorem parseOffset_minus (rest : List Char) :
    parseOffset errors (String.ofList ('-' :: rest)) =
      parseSignedOffset errors (-1) (String.ofList rest) := by
  rw [parseOffset, if_neg (not_utc_of_sign (.inr rfl)), String.toList_ofList]
  rfl

theorem parseOffset_text (offset : FixedOffset) :
    parseOffset errors (String.ofList offset.text) = .ok offset.seconds := by
  obtain ⟨negative, hour, minute, hhour, hminute⟩ := offset
  cases negative
  · exact (parseOffset_plus _).trans
      ((parseSignedOffset_twoDigits (.inl rfl) hhour hminute).trans (by
        simp [FixedOffset.seconds]))
  · exact (parseOffset_minus _).trans
      ((parseSignedOffset_twoDigits (.inr rfl) hhour hminute).trans (by
        simp [FixedOffset.seconds]))

/-- A sign and two numbers in range are read or overflow. -/
theorem overflow_of_parseOffset {sign : Char} {hours minutes : List Char} {h m : ℤ}
    (hsign : sign = '+' ∨ sign = '-') (hh : parseSigned (2 ^ 31) (String.ofList hours) = some h)
    (hm : parseSigned (2 ^ 31) (String.ofList minutes) = some m) (hhour : h ≤ 23) (hminute : m ≤ 59)
    {fault : Fault ε}
    (herror : parseOffset errors (String.ofList (sign :: (hours ++ ':' :: minutes))) =
      .error fault) : fault = .overflow := by
  have hsplit : splitOnce (String.ofList (hours ++ ':' :: minutes)) ':' =
      some (String.ofList hours, String.ofList minutes) := by
    rw [splitOnce_eq_some]
    simpa using colon_notMem_of_parseSigned hh
  rcases hsign with rfl | rfl
  · rw [parseOffset_plus, parseSignedOffset_eq hsplit hh hm hhour hminute] at herror
    exact overflow_of_offsetSeconds herror
  · rw [parseOffset_minus, parseSignedOffset_eq hsplit hh hm hhour hminute] at herror
    exact overflow_of_offsetSeconds herror

/-- A text is a spelling of UTC, is refused, or has a sign and two numbers in range. -/
theorem parseOffset_cases (value : String) :
    Spells value 0 ∧ (∀ {ε : Type} (errors : OffsetErrors ε), parseOffset errors value = .ok 0) ∨
      (∀ {ε : Type} (errors : OffsetErrors ε),
        ∃ error, parseOffset errors value = .error (.refused error)) ∨
      ∃ sign hours minutes h m, (sign = '+' ∨ sign = '-') ∧
        value.toList = sign :: (hours ++ ':' :: minutes) ∧
        parseSigned (2 ^ 31) (String.ofList hours) = some h ∧
        parseSigned (2 ^ 31) (String.ofList minutes) = some m ∧ h ≤ 23 ∧ m ≤ 59 := by
  by_cases hutc : eqIgnoreAsciiCase value "utc" = true ∨ value = "Z"
  · exact .inl ⟨.utc hutc, fun _ => parseOffset_utc hutc⟩
  · right
    generalize hlist : value.toList = list
    have hvalue : value = String.ofList list := by rw [← hlist, String.ofList_toList]
    by_cases hsign : ∃ sign rest, (sign = '+' ∨ sign = '-') ∧ list = sign :: rest
    · obtain ⟨sign, rest, hsign, rfl⟩ := hsign
      rw [hvalue]
      rcases parseSignedOffset_cases rest with hrefused | hparts
      · left
        rintro ε errors
        rcases hsign with rfl | rfl
        · rw [parseOffset_plus]
          exact hrefused errors 1
        · rw [parseOffset_minus]
          exact hrefused errors (-1)
      · right
        obtain ⟨hours, minutes, h, m, rfl, hrest⟩ := hparts
        exact ⟨sign, hours, minutes, h, m, hsign, rfl, hrest⟩
    · left
      rintro ε errors
      refine ⟨errors.sign, ?_⟩
      rw [parseOffset, if_neg hutc, hlist]
      split
      · next rest => exact absurd ⟨'+', rest, .inl rfl, rfl⟩ hsign
      · next rest => exact absurd ⟨'-', rest, .inr rfl, rfl⟩ hsign
      · rfl

end Reads

/-! ## The two parsers and the language -/

section Language

variable {value : String} {offset : ℤ}

theorem Spells.day (h : Spells value offset) : -86400 < offset ∧ offset < 86400 := by
  cases h with
  | utc h => exact ⟨by decide, by decide⟩
  | fixed offset =>
    have hhour := offset.hour_lt
    have hminute := offset.minute_lt
    unfold FixedOffset.seconds
    dsimp only
    split
    · omega
    · omega

/-- What is spelled as documented is read by either parser. -/
theorem Spells.parseOffset_eq {ε : Type} {errors : OffsetErrors ε} (h : Spells value offset) :
    parseOffset errors value = .ok offset := by
  cases h with
  | utc h => exact parseOffset_utc h
  | fixed offset => exact parseOffset_text offset

/-- Two digits on either side of the colon, in range, are spelled as documented. -/
theorem exists_spells {sign : Char} {hours minutes : List Char} {h m : ℤ}
    (hsign : sign = '+' ∨ sign = '-') (hhours : isTwoDigits hours = true)
    (hminutes : isTwoDigits minutes = true)
    (hparse : parseSigned (2 ^ 31) (String.ofList hours) = some h)
    (hparse' : parseSigned (2 ^ 31) (String.ofList minutes) = some m) (hhour : h ≤ 23)
    (hminute : m ≤ 59) :
    ∃ offset, Spells (String.ofList (sign :: (hours ++ ':' :: minutes))) offset := by
  obtain ⟨a, ha, rfl⟩ := isTwoDigits_iff.mp hhours
  obtain ⟨b, hb, rfl⟩ := isTwoDigits_iff.mp hminutes
  rw [parseSigned_twoDigits ha, Option.some.injEq] at hparse
  rw [parseSigned_twoDigits hb, Option.some.injEq] at hparse'
  rcases hsign with rfl | rfl
  · exact ⟨_, Spells.fixed ⟨false, a, b, by omega, by omega⟩⟩
  · exact ⟨_, Spells.fixed ⟨true, a, b, by omega, by omega⟩⟩

theorem TwoDigitParts.read_or_refused (h : TwoDigitParts value) :
    (∃ offset, Spells value offset) ∨ ∀ {ε : Type} (errors : OffsetErrors ε),
      ∃ error, parseOffset errors value = .error (.refused error) := by
  rcases parseOffset_cases value with hutc | hrefused | hparts
  · exact .inl ⟨0, hutc.1⟩
  · exact .inr hrefused
  · obtain ⟨sign, hours, minutes, a, b, hsign, hvalue, ha, hb, hhour, hminute⟩ := hparts
    obtain ⟨hhours, hminutes⟩ := h sign hours minutes a b hsign hvalue ha hb hhour hminute
    have hspells := exists_spells hsign hhours hminutes ha hb hhour hminute
    rw [← hvalue, String.ofList_toList] at hspells
    exact .inl hspells

theorem parseTimezoneOffset_eq {plan : ColumnConversionPlan} (h : plan.timeZone = some value) :
    ∃ errors, parseTimezoneOffset plan = parseOffset errors value := by
  simp only [parseTimezoneOffset, h, demand, ok_bind]
  exact ⟨_, rfl⟩

/-- A text in the documented form has two digits on either side of its first colon. -/
theorem Spells.twoDigits {sign : Char} {hours minutes : List Char}
    (hsign : sign = '+' ∨ sign = '-') (hcolon : ':' ∉ hours)
    (h : Spells (String.ofList (sign :: (hours ++ ':' :: minutes))) offset) :
    isTwoDigits hours = true ∧ isTwoDigits minutes = true := by
  generalize htext : String.ofList (sign :: (hours ++ ':' :: minutes)) = text at h
  cases h with
  | utc h =>
    rw [← htext] at h
    exact absurd h (not_utc_of_sign hsign)
  | fixed offset =>
    have hlist := String.ofList_injective htext
    obtain ⟨-, hparts⟩ := List.cons.inj hlist
    have hhour := offset.hour_lt
    have hminute := offset.minute_lt
    have hleft := splitFirst_append (r := minutes) hcolon
    have hright := splitFirst_append (r := twoDigits offset.minute)
      (colon_notMem_of_parseSigned (parseSigned_twoDigits (n := offset.hour) (by omega)))
    rw [hparts, hright, Option.some.injEq, Prod.mk.injEq] at hleft
    obtain ⟨rfl, rfl⟩ := hleft
    exact ⟨isTwoDigits_iff.mpr ⟨_, by omega, rfl⟩, isTwoDigits_iff.mpr ⟨_, by omega, rfl⟩⟩

/-- The two parsers are one reader of the documented language exactly where the parts that they
read as numbers in range are two digits each. -/
theorem one_language_iff_two_digits : OneLanguage value ↔ TwoDigitParts value := by
  constructor
  · rintro hone sign hours minutes h m hsign hvalue hh hm hhour hminute
    have hcolon := colon_notMem_of_parseSigned hh
    have htext : value = String.ofList (sign :: (hours ++ ':' :: minutes)) := by
      rw [← hvalue, String.ofList_toList]
    cases hread : parseTimezoneValue value with
    | ok offset =>
      have hspells := (hone.exact offset).mp hread
      rw [htext] at hspells
      exact hspells.twoDigits hsign hcolon
    | error fault =>
      have hoverflow : fault = .overflow := by
        rw [parseTimezoneValue, htext] at hread
        exact overflow_of_parseOffset hsign hh hm hhour hminute hread
      exact absurd (hoverflow ▸ hread) hone.noOverflow
  · intro hparts
    have hcases := hparts.read_or_refused
    refine ⟨?_, ?_, ?_, ?_⟩
    · rintro plan hplan
      obtain ⟨errors, heq⟩ := parseTimezoneOffset_eq hplan
      rw [heq]
      rcases hcases with ⟨offset, hspells⟩ | hrefused
      · exact .inl ⟨offset, hspells.parseOffset_eq, hspells.parseOffset_eq⟩
      · obtain ⟨failure, hfailure⟩ := hrefused errors
        obtain ⟨message, hmessage⟩ := hrefused _
        exact .inr ⟨failure, message, hfailure, hmessage⟩
    · intro offset
      constructor
      · intro hread
        rcases hcases with ⟨other, hspells⟩ | hrefused
        · rw [parseTimezoneValue, hspells.parseOffset_eq, Except.ok.injEq] at hread
          exact hread ▸ hspells
        · obtain ⟨message, hmessage⟩ := hrefused _
          rw [parseTimezoneValue, hmessage] at hread
          cases hread
      · exact Spells.parseOffset_eq
    · rintro offset hread
      rcases hcases with ⟨other, hspells⟩ | hrefused
      · rw [parseTimezoneValue, hspells.parseOffset_eq, Except.ok.injEq] at hread
        exact hread ▸ hspells.day
      · obtain ⟨message, hmessage⟩ := hrefused _
        rw [parseTimezoneValue, hmessage] at hread
        cases hread
    · rintro hread
      rcases hcases with ⟨other, hspells⟩ | hrefused
      · rw [parseTimezoneValue, hspells.parseOffset_eq] at hread
        cases hread
      · obtain ⟨message, hmessage⟩ := hrefused _
        rw [parseTimezoneValue, hmessage] at hread
        cases hread

/-- A second sign is read as one of the number, so hours beyond a day and beyond `i32` pass. -/
theorem second_sign_passes :
    parseTimezoneValue "+-99:00" = .ok (-356400) ∧
      parseTimezoneValue "+-2147483648:00" = .error .overflow ∧ ¬ OneLanguage "+-99:00" := by
  have hread : parseTimezoneValue "+-99:00" = .ok (-356400) := by decide +kernel
  refine ⟨hread, by decide +kernel, ?_⟩
  intro hone
  exact absurd (hone.day _ hread).1 (by decide)

example : parseTimezoneValue "-03:30" = .ok (-12600) := by decide +kernel

end Language

end DatabaseSync.ChangeEvent
