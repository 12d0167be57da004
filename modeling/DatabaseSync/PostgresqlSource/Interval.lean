import DatabaseSync.ChangeEvent.Validate
import DatabaseSync.Library.Decimal
import DatabaseSync.Library.Machine

/-! # Intervals in ISO 8601 form

The decoder of an interval adds up its components. Each has a sign of its own, and a sign before
the whole interval turns all of them around.
-/

namespace DatabaseSync.PostgresqlSource

open ChangeEvent Checked Decimal Machine Text

/-- What the text of a value fails with. -/
inductive ValueError
  | invalid (message : String)
  | parseInt
  | tryFromInt
deriving DecidableEq, Repr

/-! ## The decoder -/

/-- `checked_add` and `checked_mul` -/
def checked (bits : ℕ) (n : ℤ) (message : String) : Except ValueError ℤ :=
  if Fits bits n then .ok n else .error (.invalid message)

/-- `try_from` -/
def tryFrom (bits : ℕ) (n : ℤ) : Except ValueError ℤ :=
  if Fits bits n then .ok n else .error .tryFromInt

/-- `parse::<i64>` -/
def parseI64 (text : List Char) : Except ValueError ℤ :=
  match parseSigned (2 ^ 63) (String.ofList text) with
  | some n => .ok n
  | none => .error .parseInt

/-- The digits and the first point at the beginning of a text, and what follows them. -/
def quantitySpan : Bool → List Char → List Char × List Char
  | _, [] => ([], [])
  | sawDot, c :: rest =>
    if isAsciiDigit c then
      let (quantity, rest) := quantitySpan sawDot rest
      (c :: quantity, rest)
    else if c = '.' ∧ sawDot = false then
      let (quantity, rest) := quantitySpan true rest
      (c :: quantity, rest)
    else ([], c :: rest)

def splitSign : List Char → List Char × List Char
  | '+' :: rest => (['+'], rest)
  | '-' :: rest => (['-'], rest)
  | rest => ([], rest)

/-- The quantity and the unit at the beginning of a text, and what follows them. -/
def intervalComponent (text : List Char) : Except ValueError (List Char × Char × List Char) :=
  let (sign, rest) := splitSign text
  let (quantity, rest) := quantitySpan false rest
  match rest with
  | unit :: rest =>
    if quantity.any isAsciiDigit then .ok (sign ++ quantity, unit, rest)
    else .error (.invalid "invalid PostgreSQL ISO interval component")
  | [] => .error (.invalid "invalid PostgreSQL ISO interval component")

def parseIntervalInteger (quantity : List Char) : Except ValueError ℤ :=
  if '.' ∈ quantity then .error (.invalid "fractional PostgreSQL interval date unit")
  else parseI64 quantity

def isFraction (fraction : List Char) : Bool :=
  !fraction.isEmpty && fraction.length ≤ 18 && fraction.all isAsciiDigit

/-- The fraction of a quantity in units of the factor. -/
def scaledFraction (fraction : List Char) (factor : ℤ) : Except ValueError ℤ := do
  if !isFraction fraction then throw (.invalid "invalid PostgreSQL interval fraction")
  let denominator : ℤ := 10 ^ fraction.length
  let numerator ← parseI64 fraction
  let scaled ← checked 128 (numerator * factor) "PostgreSQL interval time field overflow"
  if scaled % denominator ≠ 0 then
    throw (.invalid "PostgreSQL interval fraction exceeds microsecond precision")
  return scaled / denominator

def scaledInteger (integer : List Char) (factor : ℤ) : Except ValueError ℤ := do
  if !isDigits integer then throw (.invalid "invalid PostgreSQL interval quantity")
  checked 128 ((← parseI64 integer) * factor) "PostgreSQL interval time field overflow"

def scaledMagnitude (quantity : List Char) (factor : ℤ) : Except ValueError ℤ :=
  match splitFirst '.' quantity with
  | none => scaledInteger quantity factor
  | some (integer, fraction) => do
    let magnitude ← scaledInteger integer factor
    checked 128 (magnitude + (← scaledFraction fraction factor))
      "PostgreSQL interval time field overflow"

def parseIntervalScaled (quantity : List Char) (factor : ℤ) : Except ValueError ℤ := do
  match quantity with
  | '-' :: quantity => tryFrom 64 (-(← scaledMagnitude quantity factor))
  | '+' :: quantity => tryFrom 64 (← scaledMagnitude quantity factor)
  | quantity => tryFrom 64 (← scaledMagnitude quantity factor)

structure IntervalParts where
  months : ℤ
  days : ℤ
  microseconds : ℤ
  sawComponent : Bool
deriving DecidableEq, Repr

def addMonths (parts : IntervalParts) (quantity : List Char) (factor : ℤ) :
    Except ValueError IntervalParts := do
  let quantity ← parseIntervalInteger quantity
  let months ← checked 64 (quantity * factor) "PostgreSQL interval month field overflow"
  let months ← checked 64 (parts.months + months) "PostgreSQL interval month field overflow"
  return { parts with months := months, sawComponent := true }

def addDays (parts : IntervalParts) (quantity : List Char) (factor : ℤ) :
    Except ValueError IntervalParts := do
  let quantity ← parseIntervalInteger quantity
  let days ← checked 64 (quantity * factor) "PostgreSQL interval day field overflow"
  let days ← checked 64 (parts.days + days) "PostgreSQL interval day field overflow"
  return { parts with days := days, sawComponent := true }

def addTime (globalSign : ℤ) (parts : IntervalParts) (quantity : List Char) (factor : ℤ) :
    Except ValueError IntervalParts := do
  let quantity ← parseIntervalScaled quantity factor
  let component ← checked 64 (quantity * globalSign) "PostgreSQL interval time field overflow"
  let microseconds ← checked 64 (parts.microseconds + component)
    "PostgreSQL interval time field overflow"
  return { parts with microseconds := microseconds, sawComponent := true }

/-- Adds a component before (`false`) or after (`true`) the time designator. -/
def addComponent (globalSign : ℤ) (inTime : Bool) (parts : IntervalParts) (quantity : List Char)
    (unit : Char) : Except ValueError IntervalParts :=
  match inTime, unit with
  | false, 'Y' => addMonths parts quantity 12
  | false, 'M' => addMonths parts quantity 1
  | false, 'W' => addDays parts quantity 7
  | false, 'D' => addDays parts quantity 1
  | true, 'H' => addTime globalSign parts quantity 3600000000
  | true, 'M' => addTime globalSign parts quantity 60000000
  | true, 'S' => addTime globalSign parts quantity 1000000
  | _, _ => .error (.invalid "unsupported PostgreSQL ISO interval unit")

theorem quantitySpan_append (sawDot : Bool) (text : List Char) :
    (quantitySpan sawDot text).1 ++ (quantitySpan sawDot text).2 = text := by
  induction text generalizing sawDot with
  | nil => rfl
  | cons c rest ih =>
    unfold quantitySpan
    split
    · exact congrArg (c :: ·) (ih sawDot)
    · split
      · exact congrArg (c :: ·) (ih true)
      · rfl

theorem splitSign_append (text : List Char) : (splitSign text).1 ++ (splitSign text).2 = text := by
  unfold splitSign
  split
  all_goals rfl

/-- A component is the beginning of the text. -/
theorem intervalComponent_eq_ok {text quantity rest : List Char} {unit : Char}
    (h : intervalComponent text = .ok (quantity, unit, rest)) :
    text = quantity ++ unit :: rest ∧ (∃ digits, quantity = (splitSign text).1 ++ digits ∧
      quantitySpan false (splitSign text).2 = (digits, unit :: rest)) ∧
      quantity.any isAsciiDigit = true := by
  unfold intervalComponent at h
  dsimp only at h
  split at h
  · next unit' rest' hspan =>
    split at h
    · next hdigit =>
      simp only [Except.ok.injEq, Prod.mk.injEq] at h
      obtain ⟨rfl, rfl, rfl⟩ := h
      refine ⟨?_, ⟨_, rfl, Prod.ext rfl hspan⟩, ?_⟩
      · rw [List.append_assoc, ← hspan, quantitySpan_append, splitSign_append]
      · rw [List.any_append, hdigit, Bool.or_true]
    · cases h
  · cases h

def intervalComponents (globalSign : ℤ) (text : List Char) (inTime : Bool)
    (parts : IntervalParts) : Except ValueError IntervalParts :=
  match text with
  | [] => .ok parts
  | c :: rest =>
    if c = 'T' ∧ inTime = false then intervalComponents globalSign rest true parts
    else match h : intervalComponent (c :: rest) with
      | .error e => .error e
      | .ok (quantity, unit, rest') => do
        have hshorter : rest'.length < (c :: rest).length := by
          rw [(intervalComponent_eq_ok h).1, List.length_append, List.length_cons]
          omega
        let parts ← addComponent globalSign inTime parts quantity unit
        intervalComponents globalSign rest' inTime parts
termination_by text.length
decreasing_by
  · exact Nat.lt_succ_self _
  · exact hshorter

/-- The sign and the body of an interval. -/
def intervalBody : List Char → Option (ℤ × List Char)
  | '-' :: 'P' :: body => some (-1, body)
  | '+' :: 'P' :: body => some (1, body)
  | 'P' :: body => some (1, body)
  | _ => none

def calendarInterval (text : String) : Except ValueError LogicalValue := do
  match intervalBody text.toList with
  | none => throw (.invalid "PostgreSQL interval is not in ISO 8601 form")
  | some (globalSign, body) => do
    let parts ← intervalComponents globalSign body false ⟨0, 0, 0, false⟩
    if !parts.sawComponent then throw (.invalid "empty PostgreSQL ISO interval")
    let months ← checked 64 (parts.months * globalSign) "PostgreSQL interval month field overflow"
    let days ← checked 64 (parts.days * globalSign) "PostgreSQL interval day field overflow"
    return .calendarInterval (← tryFrom 32 months) (← tryFrom 32 days) parts.microseconds

/-! ## What a text denotes -/

inductive IntervalUnit
  | year
  | month
  | week
  | day
  | hour
  | minute
  | second
deriving DecidableEq, Repr

namespace IntervalUnit

def isTime : IntervalUnit → Bool
  | year | month | week | day => false
  | hour | minute | second => true

def letter : IntervalUnit → Char
  | year => 'Y'
  | month | minute => 'M'
  | week => 'W'
  | day => 'D'
  | hour => 'H'
  | second => 'S'

def months : IntervalUnit → ℕ
  | year => 12
  | month => 1
  | _ => 0

def days : IntervalUnit → ℕ
  | week => 7
  | day => 1
  | _ => 0

def microseconds : IntervalUnit → ℕ
  | hour => 3600000000
  | minute => 60000000
  | second => 1000000
  | _ => 0

end IntervalUnit

/-- A component: a signed decimal number and a unit. -/
structure IntervalTerm where
  sign : Option Char
  whole : List Char
  fraction : Option (List Char)
  unit : IntervalUnit
deriving DecidableEq, Repr

namespace IntervalTerm

variable (term : IntervalTerm)

/-- Digits on both sides of the point, and a point only in a unit of time. -/
structure Valid : Prop where
  sign : ∀ c ∈ term.sign, c = '+' ∨ c = '-'
  whole : isDigits term.whole = true
  fraction : ∀ digits ∈ term.fraction, isDigits digits = true
  date : term.unit.isTime = false → term.fraction = none

def quantity : List Char :=
  term.sign.toList ++ term.whole ++ (term.fraction.map ('.' :: ·)).getD []

def text : List Char := term.quantity ++ [term.unit.letter]

def amount : ℚ :=
  number (term.sign == some '-') (term.whole ++ term.fraction.getD [])
    (term.fraction.getD []).length

end IntervalTerm

/-- An interval: components of a date, and after a designator components of a time. -/
structure IntervalText where
  sign : Option Char
  date : List IntervalTerm
  time : Option (List IntervalTerm)
deriving DecidableEq, Repr

namespace IntervalText

variable (interval : IntervalText)

def terms : List IntervalTerm := interval.date ++ interval.time.getD []

structure Valid : Prop where
  sign : ∀ c ∈ interval.sign, c = '+' ∨ c = '-'
  terms : ∀ term ∈ interval.terms, term.Valid
  date : ∀ term ∈ interval.date, term.unit.isTime = false
  time : ∀ terms ∈ interval.time, ∀ term ∈ terms, term.unit.isTime = true
  nonempty : interval.terms ≠ []

def text : List Char :=
  interval.sign.toList ++ 'P' :: (interval.date.flatMap IntervalTerm.text ++
    (interval.time.map fun terms => 'T' :: terms.flatMap IntervalTerm.text).getD [])

/-- The sum of the components in one of the three units that are kept apart. -/
def total (size : IntervalUnit → ℕ) : ℚ :=
  Decimal.sign (interval.sign == some '-') *
    (interval.terms.map fun term => term.amount * (size term.unit : ℚ)).sum

end IntervalText

/-- The meaning of an interval in ISO 8601 form. -/
def DenotesInterval (text : String) (months days microseconds : ℤ) : Prop :=
  ∃ interval : IntervalText, interval.Valid ∧ text.toList = interval.text ∧
    interval.total IntervalUnit.months = months ∧ interval.total IntervalUnit.days = days ∧
    interval.total IntervalUnit.microseconds = microseconds

/-! ## What is accepted denotes what is returned -/

section Sound

variable {quantity text rest : List Char} {n factor globalSign : ℤ} {unit : IntervalUnit}
  {parts parts' : IntervalParts}

theorem checked_eq_ok {bits : ℕ} {m : ℤ} {message : String} :
    checked bits n message = .ok m ↔ Fits bits n ∧ n = m := by
  unfold checked
  split
  · next h => simp [h]
  · next h => simp [h]

theorem tryFrom_eq_ok {bits : ℕ} {m : ℤ} : tryFrom bits n = .ok m ↔ Fits bits n ∧ n = m := by
  unfold tryFrom
  split
  · next h => simp [h]
  · next h => simp [h]

theorem parseI64_eq_ok :
    parseI64 text = .ok n ↔ parseSigned (2 ^ 63) (String.ofList text) = some n := by
  unfold parseI64
  cases parseSigned (2 ^ 63) (String.ofList text) with
  | none => simp
  | some m => simp

/-- An integer is the amount of a term without a fraction. -/
theorem exists_integerTerm (h : parseIntervalInteger quantity = .ok n) (unit : IntervalUnit) :
    ∃ term : IntervalTerm, term.Valid ∧ term.unit = unit ∧ term.quantity = quantity ∧
      term.amount = n := by
  unfold parseIntervalInteger at h
  split at h
  · cases h
  · obtain ⟨digits, hne, hdigits, hform⟩ := parseSigned_eq_some (parseI64_eq_ok.mp h)
    have hwhole : isDigits digits = true := isDigits_iff.mpr ⟨hne, hdigits⟩
    rcases hform with ⟨rfl, rfl⟩ | ⟨rfl, rfl⟩ | ⟨rfl, rfl⟩
    · refine ⟨⟨none, quantity, none, unit⟩, ⟨by simp, hwhole, by simp, fun _ => rfl⟩, rfl, ?_, ?_⟩
      · simp [IntervalTerm.quantity]
      · simp [IntervalTerm.amount, number, Decimal.sign]
    · refine ⟨⟨some '+', digits, none, unit⟩, ⟨by simp, hwhole, by simp, fun _ => rfl⟩, rfl, ?_, ?_⟩
      · simp [IntervalTerm.quantity]
      · simp [IntervalTerm.amount, number, Decimal.sign]
    · refine ⟨⟨some '-', digits, none, unit⟩, ⟨by simp, hwhole, by simp, fun _ => rfl⟩, rfl, ?_, ?_⟩
      · simp [IntervalTerm.quantity]
      · simp [IntervalTerm.amount, number, Decimal.sign]

theorem parseI64_digits {digits : List Char} (h : isDigits digits = true)
    (hread : parseI64 digits = .ok n) : n = decimalValue digits := by
  obtain ⟨hne, hdigits⟩ := isDigits_iff.mp h
  rw [parseI64_eq_ok, parseSigned_of_digits hne hdigits] at hread
  split at hread
  · exact (Option.some.inj hread).symm
  · cases hread

/-- The scaled fraction is exact. -/
theorem scaledFraction_eq_ok {fraction : List Char} (h : scaledFraction fraction factor = .ok n) :
    isDigits fraction = true ∧ n * 10 ^ fraction.length = decimalValue fraction * factor := by
  unfold scaledFraction at h
  simp only [throw_eq, error_bind, bind_eq_ok, guard_eq_ok, checked_eq_ok, pure_eq,
    Except.ok.injEq, Bool.not_eq_true', Bool.not_eq_false, ne_eq, not_not] at h
  obtain ⟨hfraction, numerator, hread, _, ⟨-, rfl⟩, hexact, rfl⟩ := h
  have hdigits : isDigits fraction = true := by
    unfold isFraction at hfraction
    simp only [Bool.and_eq_true, and_assoc] at hfraction
    obtain ⟨hne, -, hall⟩ := hfraction
    rw [isDigits, hne, hall]
    rfl
  rw [parseI64_digits hdigits hread] at hexact ⊢
  exact ⟨hdigits, Int.ediv_mul_cancel (Int.dvd_of_emod_eq_zero hexact)⟩

theorem scaledInteger_eq_ok (h : scaledInteger text factor = .ok n) :
    isDigits text = true ∧ n = decimalValue text * factor := by
  unfold scaledInteger at h
  simp only [throw_eq, error_bind, bind_eq_ok, guard_eq_ok, checked_eq_ok, Bool.not_eq_true',
    Bool.not_eq_false] at h
  obtain ⟨hdigits, integer, hread, -, rfl⟩ := h
  exact ⟨hdigits, by rw [parseI64_digits hdigits hread]⟩

/-- The digits of a magnitude, in units of the factor. -/
theorem scaledMagnitude_eq_ok (h : scaledMagnitude text factor = .ok n) :
    ∃ (whole : List Char) (fraction : Option (List Char)), isDigits whole = true ∧
      (∀ digits ∈ fraction, isDigits digits = true) ∧
      text = whole ++ (fraction.map ('.' :: ·)).getD [] ∧
      (decimalValue (whole ++ fraction.getD []) : ℚ) * 10 ^ (-((fraction.getD []).length : ℤ)) *
        factor = n := by
  unfold scaledMagnitude at h
  split at h
  · obtain ⟨hdigits, rfl⟩ := scaledInteger_eq_ok h
    refine ⟨text, none, hdigits, by simp, by simp, ?_⟩
    simp
  · next whole fraction hsplit =>
    simp only [bind_eq_ok, checked_eq_ok] at h
    obtain ⟨_, hwhole, scaled, hscaled, -, rfl⟩ := h
    obtain ⟨hdigits, rfl⟩ := scaledInteger_eq_ok hwhole
    obtain ⟨hfraction, hexact⟩ := scaledFraction_eq_ok hscaled
    obtain ⟨rfl, -⟩ := splitFirst_eq_some.mp hsplit
    refine ⟨whole, some fraction, hdigits, by simpa using hfraction, rfl, ?_⟩
    have hexact : (scaled : ℚ) * 10 ^ fraction.length = decimalValue fraction * factor := by
      exact_mod_cast hexact
    have hpos : (10 : ℚ) ^ fraction.length ≠ 0 := by positivity
    simp only [Option.getD_some, decimalValue_append, zpow_neg, zpow_natCast]
    push_cast
    field_simp
    linarith

/-- A scaled quantity is the amount of a term in units of the factor. -/
theorem exists_scaledTerm (h : parseIntervalScaled quantity factor = .ok n) (unit : IntervalUnit)
    (htime : unit.isTime = true) :
    ∃ term : IntervalTerm, term.Valid ∧ term.unit = unit ∧ term.quantity = quantity ∧
      term.amount * factor = n := by
  have hdate : unit.isTime = false → ∀ fraction : Option (List Char), fraction = none := by
    intro hfalse
    rw [htime] at hfalse
    cases hfalse
  unfold parseIntervalScaled at h
  split at h
  all_goals
    rw [bind_eq_ok] at h
    obtain ⟨magnitude, hmagnitude, hfits⟩ := h
    obtain ⟨-, rfl⟩ := tryFrom_eq_ok.mp hfits
    obtain ⟨whole, fraction, hwhole, hfraction, rfl, hvalue⟩ := scaledMagnitude_eq_ok hmagnitude
  · refine ⟨⟨some '-', whole, fraction, unit⟩, ⟨by simp, hwhole, hfraction, ?_⟩, rfl, ?_, ?_⟩
    · exact fun hfalse => hdate hfalse fraction
    · simp [IntervalTerm.quantity]
    · push_cast
      rw [← hvalue]
      simp [IntervalTerm.amount, number, Decimal.sign]
  · refine ⟨⟨some '+', whole, fraction, unit⟩, ⟨by simp, hwhole, hfraction, ?_⟩, rfl, ?_, ?_⟩
    · exact fun hfalse => hdate hfalse fraction
    · simp [IntervalTerm.quantity]
    · rw [← hvalue]
      simp [IntervalTerm.amount, number, Decimal.sign]
  · refine ⟨⟨none, whole, fraction, unit⟩, ⟨by simp, hwhole, hfraction, ?_⟩, rfl, ?_, ?_⟩
    · exact fun hfalse => hdate hfalse fraction
    · simp [IntervalTerm.quantity]
    · rw [← hvalue]
      simp [IntervalTerm.amount, number, Decimal.sign]

/-- What a sequence of components adds to the parts. -/
structure Adds (globalSign : ℤ) (terms : List IntervalTerm) (parts parts' : IntervalParts) :
    Prop where
  months : (parts'.months : ℚ) =
    parts.months + (terms.map fun term => term.amount * (term.unit.months : ℚ)).sum
  days : (parts'.days : ℚ) =
    parts.days + (terms.map fun term => term.amount * (term.unit.days : ℚ)).sum
  microseconds : (parts'.microseconds : ℚ) = parts.microseconds +
    globalSign * (terms.map fun term => term.amount * (term.unit.microseconds : ℚ)).sum
  sawComponent : parts'.sawComponent = (parts.sawComponent || !terms.isEmpty)

theorem Adds.nil : Adds globalSign [] parts parts := by
  constructor
  all_goals simp

theorem Adds.append {terms terms' : List IntervalTerm} {parts'' : IntervalParts}
    (h : Adds globalSign terms parts parts') (h' : Adds globalSign terms' parts' parts'') :
    Adds globalSign (terms ++ terms') parts parts'' := by
  obtain ⟨hmonths, hdays, hmicro, hsaw⟩ := h
  obtain ⟨hmonths', hdays', hmicro', hsaw'⟩ := h'
  constructor
  · rw [hmonths', hmonths, List.map_append, List.sum_append]
    ring
  · rw [hdays', hdays, List.map_append, List.sum_append]
    ring
  · rw [hmicro', hmicro, List.map_append, List.sum_append]
    ring
  · rw [hsaw', hsaw, Bool.or_assoc]
    cases terms with
    | nil => simp
    | cons term terms => simp

theorem addMonths_sound (unit : IntervalUnit)
    (h : addMonths parts quantity factor = .ok parts')
    (hunit : unit.isTime = false ∧ (unit.months : ℤ) = factor ∧ unit.days = 0 ∧
      unit.microseconds = 0) :
    ∃ term : IntervalTerm, term.Valid ∧ term.unit.isTime = false ∧
      term.text = quantity ++ [unit.letter] ∧ Adds globalSign [term] parts parts' := by
  obtain ⟨htime, rfl, hdays, hmicro⟩ := hunit
  unfold addMonths at h
  simp only [bind_eq_ok, checked_eq_ok, pure_eq, Except.ok.injEq] at h
  obtain ⟨n, hread, _, ⟨-, rfl⟩, _, ⟨-, rfl⟩, rfl⟩ := h
  obtain ⟨term, hvalid, rfl, hquantity, hamount⟩ := exists_integerTerm hread unit
  refine ⟨term, hvalid, htime, by rw [IntervalTerm.text, hquantity], ?_, ?_, ?_, ?_⟩
  · simp [hamount]
  · simp [hdays]
  · simp [hmicro]
  · simp

theorem addDays_sound (unit : IntervalUnit)
    (h : addDays parts quantity factor = .ok parts')
    (hunit : unit.isTime = false ∧ (unit.days : ℤ) = factor ∧ unit.months = 0 ∧
      unit.microseconds = 0) :
    ∃ term : IntervalTerm, term.Valid ∧ term.unit.isTime = false ∧
      term.text = quantity ++ [unit.letter] ∧ Adds globalSign [term] parts parts' := by
  obtain ⟨htime, rfl, hmonths, hmicro⟩ := hunit
  unfold addDays at h
  simp only [bind_eq_ok, checked_eq_ok, pure_eq, Except.ok.injEq] at h
  obtain ⟨n, hread, _, ⟨-, rfl⟩, _, ⟨-, rfl⟩, rfl⟩ := h
  obtain ⟨term, hvalid, rfl, hquantity, hamount⟩ := exists_integerTerm hread unit
  refine ⟨term, hvalid, htime, by rw [IntervalTerm.text, hquantity], ?_, ?_, ?_, ?_⟩
  · simp [hmonths]
  · simp [hamount]
  · simp [hmicro]
  · simp

theorem addTime_sound (unit : IntervalUnit)
    (h : addTime globalSign parts quantity factor = .ok parts')
    (hunit : unit.isTime = true ∧ (unit.microseconds : ℤ) = factor ∧ unit.months = 0 ∧
      unit.days = 0) :
    ∃ term : IntervalTerm, term.Valid ∧ term.unit.isTime = true ∧
      term.text = quantity ++ [unit.letter] ∧ Adds globalSign [term] parts parts' := by
  obtain ⟨htime, rfl, hmonths, hdays⟩ := hunit
  unfold addTime at h
  simp only [bind_eq_ok, checked_eq_ok, pure_eq, Except.ok.injEq] at h
  obtain ⟨n, hread, _, ⟨-, rfl⟩, _, ⟨-, rfl⟩, rfl⟩ := h
  obtain ⟨term, hvalid, rfl, hquantity, hamount⟩ := exists_scaledTerm hread unit htime
  refine ⟨term, hvalid, htime, by rw [IntervalTerm.text, hquantity], ?_, ?_, ?_, ?_⟩
  · simp [hmonths]
  · simp [hdays]
  · push_cast at hamount ⊢
    rw [← hamount]
    simp [mul_comm]
  · simp

/-- A component adds a term of its unit. -/
theorem addComponent_sound {inTime : Bool} {unit : Char}
    (h : addComponent globalSign inTime parts quantity unit = .ok parts') :
    ∃ term : IntervalTerm, term.Valid ∧ term.unit.isTime = inTime ∧
      term.text = quantity ++ [unit] ∧ Adds globalSign [term] parts parts' := by
  unfold addComponent at h
  split at h
  · exact addMonths_sound .year h ⟨rfl, rfl, rfl, rfl⟩
  · exact addMonths_sound .month h ⟨rfl, rfl, rfl, rfl⟩
  · exact addDays_sound .week h ⟨rfl, rfl, rfl, rfl⟩
  · exact addDays_sound .day h ⟨rfl, rfl, rfl, rfl⟩
  · exact addTime_sound .hour h ⟨rfl, rfl, rfl, rfl⟩
  · exact addTime_sound .minute h ⟨rfl, rfl, rfl, rfl⟩
  · exact addTime_sound .second h ⟨rfl, rfl, rfl, rfl⟩
  · cases h

theorem intervalComponent_designator :
    intervalComponent ('T' :: rest) =
      .error (.invalid "invalid PostgreSQL ISO interval component") := rfl

theorem intervalComponents_designator :
    intervalComponents globalSign ('T' :: rest) false parts =
      intervalComponents globalSign rest true parts := by
  rw [intervalComponents, if_pos ⟨rfl, rfl⟩]

/-- A component that is read is added before the components that follow. -/
theorem intervalComponents_component {inTime : Bool} {unit : Char}
    (h : intervalComponent text = .ok (quantity, unit, rest)) :
    intervalComponents globalSign text inTime parts =
      addComponent globalSign inTime parts quantity unit >>= fun parts =>
        intervalComponents globalSign rest inTime parts := by
  cases text with
  | nil => cases h
  | cons c text =>
    have hc : c ≠ 'T' := by
      rintro rfl
      rw [intervalComponent_designator] at h
      cases h
    rw [intervalComponents, if_neg (fun hboth => hc hboth.1)]
    split
    · next e heq =>
      rw [h] at heq
      cases heq
    · next quantity' unit' rest' heq =>
      rw [h] at heq
      cases heq
      rfl

/-- The components after the time designator are a sequence of terms. -/
theorem intervalComponents_time
    (h : intervalComponents globalSign text true parts = .ok parts') :
    ∃ terms : List IntervalTerm, (∀ term ∈ terms, term.Valid ∧ term.unit.isTime = true) ∧
      text = terms.flatMap IntervalTerm.text ∧ Adds globalSign terms parts parts' := by
  induction hn : text.length using Nat.strong_induction_on generalizing text parts with
  | _ n ih =>
    cases text with
    | nil =>
      rw [intervalComponents] at h
      obtain rfl := Except.ok.inj h
      exact ⟨[], by simp, rfl, Adds.nil⟩
    | cons c text =>
      cases hcomponent : intervalComponent (c :: text) with
      | error e =>
        rw [intervalComponents, if_neg (by simp)] at h
        split at h
        · cases h
        · next heq =>
          rw [hcomponent] at heq
          cases heq
      | ok component =>
        obtain ⟨quantity, unit, rest⟩ := component
        rw [intervalComponents_component hcomponent, bind_eq_ok] at h
        obtain ⟨between, hadd, hrest⟩ := h
        obtain ⟨term, hvalid, htime, htext, hadds⟩ := addComponent_sound hadd
        obtain ⟨hsplit, -, -⟩ := intervalComponent_eq_ok hcomponent
        have hshorter : rest.length < n := by
          rw [← hn, hsplit, List.length_append, List.length_cons]
          omega
        obtain ⟨terms, hterms, rfl, hadds'⟩ := ih rest.length hshorter hrest rfl
        refine ⟨term :: terms, ?_, ?_, hadds.append hadds'⟩
        · rintro other (_ | ⟨_, hother⟩)
          · exact ⟨hvalid, htime⟩
          · exact hterms other hother
        · rw [hsplit, List.flatMap_cons, htext, List.append_assoc]
          rfl

/-- The components of a whole interval are those of a date and after a designator those of a
time. -/
theorem intervalComponents_date
    (h : intervalComponents globalSign text false parts = .ok parts') :
    ∃ (date : List IntervalTerm) (time : Option (List IntervalTerm)),
      (∀ term ∈ date, term.Valid ∧ term.unit.isTime = false) ∧
      (∀ terms ∈ time, ∀ term ∈ terms, term.Valid ∧ term.unit.isTime = true) ∧
      text = date.flatMap IntervalTerm.text ++
        (time.map fun terms => 'T' :: terms.flatMap IntervalTerm.text).getD [] ∧
      Adds globalSign (date ++ time.getD []) parts parts' := by
  induction hn : text.length using Nat.strong_induction_on generalizing text parts with
  | _ n ih =>
    cases text with
    | nil =>
      rw [intervalComponents] at h
      obtain rfl := Except.ok.inj h
      exact ⟨[], none, by simp, by simp, rfl, Adds.nil⟩
    | cons c text =>
      by_cases hc : c = 'T'
      · subst hc
        rw [intervalComponents_designator] at h
        obtain ⟨terms, hterms, rfl, hadds⟩ := intervalComponents_time h
        refine ⟨[], some terms, by simp, ?_, rfl, hadds⟩
        rintro _ (_ | _) term hterm
        exact hterms term hterm
      cases hcomponent : intervalComponent (c :: text) with
      | error e =>
        rw [intervalComponents, if_neg (fun hboth => hc hboth.1)] at h
        split at h
        · cases h
        · next heq =>
          rw [hcomponent] at heq
          cases heq
      | ok component =>
        obtain ⟨quantity, unit, rest⟩ := component
        rw [intervalComponents_component hcomponent, bind_eq_ok] at h
        obtain ⟨between, hadd, hrest⟩ := h
        obtain ⟨term, hvalid, htime, htext, hadds⟩ := addComponent_sound hadd
        obtain ⟨hsplit, -, -⟩ := intervalComponent_eq_ok hcomponent
        have hshorter : rest.length < n := by
          rw [← hn, hsplit, List.length_append, List.length_cons]
          omega
        obtain ⟨date, time, hdate, htimes, hrest, hadds'⟩ := ih rest.length hshorter hrest rfl
        refine ⟨term :: date, time, ?_, htimes, ?_, hadds.append hadds'⟩
        · rintro other (_ | ⟨_, hother⟩)
          · exact ⟨hvalid, htime⟩
          · exact hdate other hother
        · rw [hsplit, List.flatMap_cons, htext, hrest]
          simp

theorem intervalBody_eq_some (h : intervalBody text = some (globalSign, rest)) :
    ∃ sign : Option Char, (∀ c ∈ sign, c = '+' ∨ c = '-') ∧ text = sign.toList ++ 'P' :: rest ∧
      globalSign = Decimal.sign (sign == some '-') := by
  unfold intervalBody at h
  split at h
  · obtain ⟨rfl, rfl⟩ := Prod.mk.inj (Option.some.inj h)
    exact ⟨some '-', by simp, rfl, rfl⟩
  · obtain ⟨rfl, rfl⟩ := Prod.mk.inj (Option.some.inj h)
    exact ⟨some '+', by simp, rfl, rfl⟩
  · obtain ⟨rfl, rfl⟩ := Prod.mk.inj (Option.some.inj h)
    exact ⟨none, by simp, rfl, rfl⟩
  · cases h

/-- A text that is accepted denotes the interval that is returned. -/
theorem calendarInterval_sound {text : String} {value : LogicalValue}
    (h : calendarInterval text = .ok value) :
    ∃ months days microseconds, value = .calendarInterval months days microseconds ∧
      DenotesInterval text months days microseconds := by
  unfold calendarInterval at h
  split at h
  · cases h
  · next globalSign body hbody =>
    simp only [throw_eq, error_bind, bind_eq_ok, guard_eq_ok, checked_eq_ok, tryFrom_eq_ok, pure_eq,
      Except.ok.injEq, Bool.not_eq_true', Bool.not_eq_false] at h
    obtain ⟨parts, hparts, hsaw, _, ⟨-, rfl⟩, _, ⟨-, rfl⟩, _, ⟨-, rfl⟩, _, ⟨-, rfl⟩, rfl⟩ := h
    obtain ⟨sign, hsign, htext, rfl⟩ := intervalBody_eq_some hbody
    obtain ⟨date, time, hdate, htime, rfl, hmonths, hdays, hmicro, hcomponents⟩ :=
      intervalComponents_date hparts
    refine ⟨_, _, _, rfl, ⟨sign, date, time⟩, ⟨hsign, ?_, ?_, ?_, ?_⟩, htext, ?_, ?_, ?_⟩
    · intro term hterm
      rcases List.mem_append.mp hterm with hmem | hmem
      · exact (hdate term hmem).1
      · cases time with
        | none => cases hmem
        | some terms => exact (htime terms rfl term hmem).1
    · exact fun term hterm => (hdate term hterm).2
    · exact fun terms hterms term hterm => (htime terms hterms term hterm).2
    · rintro hnil
      rw [hsaw] at hcomponents
      unfold IntervalText.terms at hnil
      rw [hnil] at hcomponents
      cases hcomponents
    · rw [IntervalText.total, Int.cast_mul, hmonths]
      simp [IntervalText.terms, mul_comm]
    · rw [IntervalText.total, Int.cast_mul, hdays]
      simp [IntervalText.terms, mul_comm]
    · rw [IntervalText.total, hmicro]
      simp [IntervalText.terms]

end Sound

/-! ## What PostgreSQL writes -/

/-- A field of an interval, unless it is zero. -/
def isoField (value : ℤ) (unit : Char) : List Char :=
  if value = 0 then [] else (toString value).toList ++ [unit]

/-- The digits of a fraction of a second, without the zeros at the end. -/
def isoFraction (fraction : ℤ) : List Char :=
  if fraction = 0 then []
  else '.' :: ((paddedDigits 6 fraction.natAbs).reverse.dropWhile (· == '0')).reverse

def isoSeconds (seconds fraction : ℤ) : List Char :=
  if seconds = 0 ∧ fraction = 0 then []
  else (if seconds < 0 ∨ fraction < 0 then ['-'] else []) ++ Nat.toDigits 10 seconds.natAbs ++
    isoFraction fraction ++ ['S']

def isoTime (hours minutes seconds fraction : ℤ) : List Char :=
  if hours = 0 ∧ minutes = 0 ∧ seconds = 0 ∧ fraction = 0 then []
  else 'T' :: (isoField hours 'H' ++ isoField minutes 'M' ++ isoSeconds seconds fraction)

/-- The output for an interval in the style `iso_8601`. The time is divided by truncation, so that
its fields have one sign. -/
def isoInterval (months days microseconds : ℤ) : String :=
  if months = 0 ∧ days = 0 ∧ microseconds = 0 then "PT0S"
  else String.ofList ('P' :: (isoField (months.tdiv 12) 'Y' ++ isoField (months.tmod 12) 'M' ++
    isoField days 'D' ++ isoTime (microseconds.tdiv 3600000000)
      ((microseconds.tmod 3600000000).tdiv 60000000)
      ((microseconds.tmod 60000000).tdiv 1000000) (microseconds.tmod 1000000)))

section Complete

variable {whole fraction rest quantity : List Char} {n m factor : ℤ} {c : Char}
  {parts parts' : IntervalParts} {unit : IntervalUnit}

theorem quantitySpan_digits {sawDot : Bool} (h : ∀ c ∈ whole, isAsciiDigit c = true)
    (tail : List Char) :
    quantitySpan sawDot (whole ++ tail) =
      (whole ++ (quantitySpan sawDot tail).1, (quantitySpan sawDot tail).2) := by
  induction whole with
  | nil => rfl
  | cons c whole ih =>
    have hrest := ih fun d hd => h d (List.mem_cons_of_mem c hd)
    rw [List.cons_append, quantitySpan, if_pos (h c List.mem_cons_self), hrest]
    rfl

theorem IntervalUnit.letter_not_digit (unit : IntervalUnit) :
    isAsciiDigit unit.letter = false ∧ unit.letter ≠ '.' ∧ unit.letter ≠ 'T' := by
  cases unit
  all_goals decide

theorem quantitySpan_letter {sawDot : Bool} :
    quantitySpan sawDot (unit.letter :: rest) = ([], unit.letter :: rest) := by
  obtain ⟨hdigit, hdot, -⟩ := unit.letter_not_digit
  rw [quantitySpan, hdigit, if_neg Bool.false_ne_true, if_neg (fun h => hdot h.1)]

theorem splitSign_of_digit (h : isDigits whole = true) (tail : List Char) :
    splitSign (whole ++ tail) = ([], whole ++ tail) := by
  obtain ⟨hne, hdigits⟩ := isDigits_iff.mp h
  cases whole with
  | nil => exact absurd rfl hne
  | cons c whole =>
    have hdigit := hdigits c List.mem_cons_self
    unfold splitSign
    split
    · next heq =>
      obtain ⟨rfl, -⟩ := List.cons.inj heq
      exact absurd hdigit (by decide)
    · next heq =>
      obtain ⟨rfl, -⟩ := List.cons.inj heq
      exact absurd hdigit (by decide)
    · rfl

/-- A valid component is read as it is written. -/
theorem intervalComponent_text {term : IntervalTerm} (h : term.Valid) (rest : List Char) :
    intervalComponent (term.text ++ rest) = .ok (term.quantity, term.unit.letter, rest) := by
  obtain ⟨sign, whole, fraction, unit⟩ := term
  obtain ⟨hsign, hwhole, hfraction, -⟩ := h
  obtain ⟨hne, hdigits⟩ := isDigits_iff.mp hwhole
  have hspan : quantitySpan false (whole ++ ((fraction.map ('.' :: ·)).getD [] ++
      unit.letter :: rest)) =
        (whole ++ (fraction.map ('.' :: ·)).getD [], unit.letter :: rest) := by
    rw [quantitySpan_digits hdigits]
    cases fraction with
    | none => simp [quantitySpan_letter]
    | some fraction =>
      have hfraction := (isDigits_iff.mp (hfraction fraction rfl)).2
      have hdot : quantitySpan false ('.' :: (fraction ++ unit.letter :: rest)) =
          ('.' :: fraction, unit.letter :: rest) := by
        rw [quantitySpan, if_neg (by decide), if_pos ⟨rfl, rfl⟩, quantitySpan_digits hfraction,
          quantitySpan_letter, List.append_nil]
      simp only [Option.map_some, Option.getD_some, List.cons_append, hdot]
  have hany : (whole ++ (fraction.map ('.' :: ·)).getD []).any isAsciiDigit = true := by
    rw [List.any_append, Bool.or_eq_true]
    left
    obtain ⟨c, whole, rfl⟩ := List.exists_cons_of_ne_nil hne
    simp [hdigits c List.mem_cons_self]
  have hsplit : splitSign (sign.toList ++ (whole ++ ((fraction.map ('.' :: ·)).getD [] ++
      unit.letter :: rest))) =
      (sign.toList, whole ++ ((fraction.map ('.' :: ·)).getD [] ++ unit.letter :: rest)) := by
    cases sign with
    | none => exact splitSign_of_digit hwhole _
    | some c =>
      rcases hsign c rfl with rfl | rfl
      · rfl
      · rfl
  have htext : (⟨sign, whole, fraction, unit⟩ : IntervalTerm).text ++ rest =
      sign.toList ++ (whole ++
      ((fraction.map ('.' :: ·)).getD [] ++ unit.letter :: rest)) := by
    simp [IntervalTerm.text, IntervalTerm.quantity]
  unfold intervalComponent
  rw [htext, hsplit]
  dsimp only
  rw [hspan]
  dsimp only
  rw [if_pos hany, IntervalTerm.quantity, List.append_assoc]

theorem parseI64_of_digits (h : isDigits whole = true) (hlt : decimalValue whole < 2 ^ 63) :
    parseI64 whole = .ok (decimalValue whole : ℤ) := by
  obtain ⟨hne, hdigits⟩ := isDigits_iff.mp h
  rw [parseI64_eq_ok, parseSigned_of_digits hne hdigits, if_pos hlt]

theorem fits_128 (hlow : -2 ^ 126 ≤ n) (hhigh : n ≤ 2 ^ 126) : Fits 128 n := by
  constructor
  · norm_num at hlow ⊢
    omega
  · norm_num at hhigh ⊢
    omega

/-- The factors of the units of time. -/
def IsFactor (factor : ℤ) : Prop := 0 ≤ factor ∧ factor ≤ 3600000000

theorem scaledInteger_of_digits (h : isDigits whole = true) (hlt : decimalValue whole < 2 ^ 63)
    (hfactor : IsFactor factor) :
    scaledInteger whole factor = .ok (decimalValue whole * factor) := by
  have hfits : Fits 128 ((decimalValue whole : ℤ) * factor) := by
    obtain ⟨hpos, hle⟩ := hfactor
    have hlt : (decimalValue whole : ℤ) < 2 ^ 63 := by exact_mod_cast hlt
    apply fits_128
    · nlinarith
    · norm_num at hlt ⊢
      nlinarith
  unfold scaledInteger
  rw [h, parseI64_of_digits h hlt]
  exact checked_eq_ok.mpr ⟨hfits, rfl⟩

theorem isDigits_toDigits (k : ℕ) : isDigits (Nat.toDigits 10 k) = true :=
  isDigits_iff.mpr ⟨Nat.toDigits_ne_nil, toDigits_digits k⟩

theorem point_notMem_toDigits (k : ℕ) : '.' ∉ Nat.toDigits 10 k := by
  intro hmem
  exact absurd (toDigits_digits k '.' hmem) (by decide)

/-- Digits without a point are scaled exactly. -/
theorem scaledMagnitude_toDigits {k : ℕ} (hlt : k < 2 ^ 63) (hfactor : IsFactor factor) :
    scaledMagnitude (Nat.toDigits 10 k) factor = .ok ((k : ℤ) * factor) := by
  have hinteger := scaledInteger_of_digits (isDigits_toDigits k) (by rwa [decimalValue_toDigits])
    hfactor
  rw [decimalValue_toDigits] at hinteger
  rw [scaledMagnitude, splitFirst_eq_none (point_notMem_toDigits k)]
  exact hinteger

/-- The zeros at the end of a fraction that are left out are the missing places. -/
theorem decimalValue_dropZeros (digits : List Char) :
    decimalValue digits = decimalValue (digits.reverse.dropWhile (· == '0')).reverse *
      10 ^ (digits.length - (digits.reverse.dropWhile (· == '0')).reverse.length) := by
  have hsplit := List.takeWhile_append_dropWhile (p := fun c => c == '0') (l := digits.reverse)
  have hzeros : ∀ c ∈ digits.reverse.takeWhile (· == '0'), c = '0' := by
    intro c hc
    simpa using List.all_eq_true.mp List.all_takeWhile c hc
  have hreplicate := List.eq_replicate_of_mem hzeros
  obtain ⟨k, hk⟩ : ∃ k, k = (digits.reverse.takeWhile (· == '0')).length := ⟨_, rfl⟩
  rw [← hk] at hreplicate
  rw [hreplicate] at hsplit
  generalize digits.reverse.dropWhile (· == '0') = kept at hsplit ⊢
  have hdigits : digits = kept.reverse ++ List.replicate k '0' := by
    rw [← List.reverse_reverse digits, ← hsplit, List.reverse_append,
      List.reverse_replicate]
  have hzero : decimalValue (List.replicate k '0') = 0 := by
    have := decimalValue_zeros k []
    rwa [List.append_nil] at this
  rw [hdigits, decimalValue_append, hzero, List.length_append, List.length_replicate,
    Nat.add_sub_cancel_left, Nat.add_zero]

theorem fits_of_lt_million {k : ℕ} (h : k < 10 ^ 6) : Fits 128 ((k : ℤ) * 1000000) := by
  have hlt : (k : ℤ) < 1000000 := by exact_mod_cast h
  apply fits_128
  · have hpos : (0 : ℤ) ≤ k * 1000000 := by positivity
    refine le_trans ?_ hpos
    norm_num
  · norm_num
    linarith

/-- The fraction is up to six digits, which are the microseconds with the missing places. -/
theorem isoFraction_digits {f : ℤ} (hne : f ≠ 0) (hlt : f.natAbs < 10 ^ 6) :
    ∃ digits, isoFraction f = '.' :: digits ∧ digits ≠ [] ∧ digits.length ≤ 6 ∧
      (∀ c ∈ digits, isAsciiDigit c = true) ∧
      f.natAbs = decimalValue digits * 10 ^ (6 - digits.length) := by
  have hvalue := decimalValue_dropZeros (paddedDigits 6 f.natAbs)
  have hlength := length_paddedDigits (by decide) hlt
  rw [decimalValue_paddedDigits, hlength] at hvalue
  refine ⟨_, if_neg hne, ?_, ?_, ?_, hvalue⟩
  · intro hnil
    rw [hnil] at hvalue
    simp [decimalValue] at hvalue
    omega
  · have hsuffix := (List.dropWhile_suffix (l := (paddedDigits 6 f.natAbs).reverse)
      fun c => c == '0').length_le
    rw [List.length_reverse, hlength] at hsuffix
    rwa [List.length_reverse]
  · intro c hc
    rw [List.mem_reverse] at hc
    exact paddedDigits_digits 6 f.natAbs c
      (List.mem_reverse.mp ((List.dropWhile_suffix _).subset hc))

/-- A fraction of up to six places is a number of microseconds. -/
theorem scaledFraction_iso {f : ℤ} (hne : f ≠ 0) (hlt : f.natAbs < 10 ^ 6) :
    ∃ digits, isoFraction f = '.' :: digits ∧
      scaledFraction digits 1000000 = .ok (f.natAbs : ℤ) := by
  obtain ⟨kept, htext, hkept, hle, hdigits, hvalue⟩ := isoFraction_digits hne hlt
  refine ⟨kept, htext, ?_⟩
  have hfraction : isFraction kept = true := by
    unfold isFraction
    simp only [Bool.and_eq_true, decide_eq_true_eq, List.all_eq_true]
    exact ⟨⟨by simpa using hkept, by omega⟩, hdigits⟩
  have hexact : (decimalValue kept : ℤ) * 1000000 = f.natAbs * 10 ^ kept.length := by
    rw [hvalue]
    push_cast
    rw [mul_assoc, ← pow_add, Nat.sub_add_cancel hle]
    norm_num
  have hbound : decimalValue kept < 10 ^ 6 :=
    (decimalValue_lt hdigits).trans_le (Nat.pow_le_pow_right (by decide) hle)
  have hfits : Fits 128 ((decimalValue kept : ℤ) * 1000000) := fits_of_lt_million hbound
  have hpos : (10 : ℤ) ^ kept.length ≠ 0 := by positivity
  have hchecked : checked 128 ((decimalValue kept : ℤ) * 1000000)
      "PostgreSQL interval time field overflow" = .ok (f.natAbs * 10 ^ kept.length) :=
    checked_eq_ok.mpr ⟨hfits, hexact⟩
  unfold scaledFraction
  rw [hfraction,
    parseI64_of_digits (isDigits_iff.mpr ⟨hkept, hdigits⟩) (hbound.trans (by norm_num)),
    ok_bind, hchecked]
  simp only [Bool.not_true, Bool.false_eq_true, if_false, ok_bind, Int.mul_emod_left, ne_eq,
    not_true_eq_false, pure_eq, Int.mul_ediv_cancel _ hpos]

theorem fits_of_seconds {k micro : ℕ} (hk : k < 2 ^ 32) (hmicro : micro < 10 ^ 6) :
    Fits 128 ((k : ℤ) * 1000000 + micro) := by
  have hk : (k : ℤ) < 4294967296 := by exact_mod_cast hk
  have hmicro : (micro : ℤ) < 1000000 := by exact_mod_cast hmicro
  apply fits_128
  · have hpos : (0 : ℤ) ≤ k * 1000000 + micro := by positivity
    refine le_trans ?_ hpos
    norm_num
  · norm_num
    linarith

theorem scaledMagnitude_iso {k : ℕ} {f : ℤ} (hk : k < 2 ^ 32) (hf : f.natAbs < 10 ^ 6) :
    scaledMagnitude (Nat.toDigits 10 k ++ isoFraction f) 1000000 =
      .ok ((k : ℤ) * 1000000 + f.natAbs) := by
  have hlt : k < 2 ^ 63 := hk.trans (by norm_num)
  have hfactor : IsFactor 1000000 := ⟨by norm_num, by norm_num⟩
  by_cases hzero : f = 0
  · subst hzero
    have hwhole := scaledMagnitude_toDigits hlt hfactor
    simpa [isoFraction] using hwhole
  · obtain ⟨digits, hdigits, hfraction⟩ := scaledFraction_iso hzero hf
    have hinteger := scaledInteger_of_digits (isDigits_toDigits k) (by rwa [decimalValue_toDigits])
      hfactor
    have hfits := fits_of_seconds hk hf
    rw [decimalValue_toDigits] at hinteger
    rw [scaledMagnitude, hdigits, splitFirst_append (point_notMem_toDigits k)]
    dsimp only
    rw [hinteger, ok_bind, hfraction, ok_bind]
    exact checked_eq_ok.mpr ⟨hfits, rfl⟩

/-- The sign turns the magnitude around. -/
theorem parseIntervalScaled_sign (negative : Bool) {k : ℕ} {tail : List Char}
    (h : scaledMagnitude (Nat.toDigits 10 k ++ tail) factor = .ok m)
    (hfits : Fits 64 (if negative then -m else m)) :
    parseIntervalScaled ((if negative then ['-'] else []) ++ Nat.toDigits 10 k ++ tail) factor =
      .ok (if negative then -m else m) := by
  have htry := tryFrom_eq_ok.mpr ⟨hfits, rfl⟩
  cases negative with
  | true =>
    change (scaledMagnitude (Nat.toDigits 10 k ++ tail) factor >>= fun m => tryFrom 64 (-m)) = _
    rw [h]
    exact htry
  | false =>
    have hsign := splitSign_of_digit (isDigits_toDigits k) tail
    change parseIntervalScaled (Nat.toDigits 10 k ++ tail) factor = _
    unfold parseIntervalScaled
    generalize Nat.toDigits 10 k ++ tail = quantity at h hsign
    split
    · cases hsign
    · cases hsign
    · rw [h]
      exact htry

theorem toString_toList (n : ℤ) :
    (toString n).toList = (if decide (n < 0) then ['-'] else []) ++ Nat.toDigits 10 n.natAbs := by
  cases n with
  | ofNat n =>
    have hpos : decide (Int.ofNat n < 0) = false := by simp
    have htext : toString (Int.ofNat n) = String.ofList (Nat.toDigits 10 n) := rfl
    rw [hpos, htext, String.toList_ofList]
    rfl
  | negSucc n =>
    have hneg : decide (Int.negSucc n < 0) = true := by simp
    have htext : toString (Int.negSucc n) = String.ofList ('-' :: Nat.toDigits 10 (n + 1)) := by
      rw [String.ofList_cons]
      rfl
    rw [hneg, htext, String.toList_ofList]
    rfl

/-- A number of units of time is scaled exactly. -/
theorem parseIntervalScaled_toString (hlt : n.natAbs < 2 ^ 63) (hfactor : IsFactor factor)
    (hfits : Fits 64 (n * factor)) :
    parseIntervalScaled (toString n).toList factor = .ok (n * factor) := by
  have hvalue : (if decide (n < 0) then -((n.natAbs : ℤ) * factor) else n.natAbs * factor) =
      n * factor := by
    by_cases hneg : n < 0
    · rw [if_pos (by simpa using hneg), ← Int.neg_mul]
      congr 1
      omega
    · rw [if_neg (by simpa using hneg)]
      congr 1
      omega
  have hmagnitude := scaledMagnitude_toDigits hlt hfactor
  rw [← List.append_nil (Nat.toDigits 10 n.natAbs)] at hmagnitude
  have hsign := parseIntervalScaled_sign (decide (n < 0)) hmagnitude (by rwa [hvalue])
  rwa [List.append_nil, ← toString_toList, hvalue] at hsign

theorem parseIntervalInteger_toString (hfits : Fits 64 n) :
    parseIntervalInteger (toString n).toList = .ok n := by
  have hpoint : '.' ∉ (toString n).toList := by
    rw [toString_toList, List.mem_append]
    rintro (hsign | hdigits)
    · split at hsign
      · exact absurd hsign (by decide)
      · cases hsign
    · exact point_notMem_toDigits _ hdigits
  rw [parseIntervalInteger, if_neg hpoint, parseI64_eq_ok, String.ofList_toList]
  exact parseSigned_toString hfits.1 hfits.2

/-- The parts after a number of units. -/
def IntervalParts.plus (parts : IntervalParts) (unit : IntervalUnit) (n : ℤ) : IntervalParts where
  months := parts.months + n * unit.months
  days := parts.days + n * unit.days
  microseconds := parts.microseconds + n * unit.microseconds
  sawComponent := parts.sawComponent || decide (n ≠ 0)

theorem IntervalParts.plus_zero (parts : IntervalParts) (unit : IntervalUnit) :
    parts.plus unit 0 = parts := by
  simp [IntervalParts.plus]

theorem addMonths_of_read (hread : parseIntervalInteger quantity = .ok n)
    (hmul : Fits 64 (n * factor)) (hadd : Fits 64 (parts.months + n * factor)) :
    addMonths parts quantity factor =
      .ok { parts with months := parts.months + n * factor, sawComponent := true } := by
  rw [addMonths, hread, ok_bind, checked_eq_ok.mpr ⟨hmul, rfl⟩, ok_bind,
    checked_eq_ok.mpr ⟨hadd, rfl⟩]
  rfl

theorem addDays_of_read (hread : parseIntervalInteger quantity = .ok n)
    (hmul : Fits 64 (n * factor)) (hadd : Fits 64 (parts.days + n * factor)) :
    addDays parts quantity factor =
      .ok { parts with days := parts.days + n * factor, sawComponent := true } := by
  rw [addDays, hread, ok_bind, checked_eq_ok.mpr ⟨hmul, rfl⟩, ok_bind,
    checked_eq_ok.mpr ⟨hadd, rfl⟩]
  rfl

theorem addTime_of_read (hread : parseIntervalScaled quantity factor = .ok m) (hm : Fits 64 m)
    (hadd : Fits 64 (parts.microseconds + m)) :
    addTime 1 parts quantity factor =
      .ok { parts with microseconds := parts.microseconds + m, sawComponent := true } := by
  rw [addTime, hread, ok_bind, checked_eq_ok.mpr ⟨by rwa [Int.mul_one], Int.mul_one m⟩, ok_bind,
    checked_eq_ok.mpr ⟨hadd, rfl⟩]
  rfl

/-- A field that is written is read and added where its addition succeeds. -/
theorem intervalComponents_field {inTime : Bool} (unit : IntervalUnit)
    (hquantity : n ≠ 0 → ∃ term : IntervalTerm, term.Valid ∧ term.unit = unit ∧
      term.quantity = (toString n).toList)
    (hadd : n ≠ 0 → addComponent 1 inTime parts (toString n).toList unit.letter =
      .ok (parts.plus unit n)) :
    intervalComponents 1 (isoField n unit.letter ++ rest) inTime parts =
      intervalComponents 1 rest inTime (parts.plus unit n) := by
  unfold isoField
  split
  · next hzero =>
    rw [hzero, IntervalParts.plus_zero]
    rfl
  · next hne =>
    obtain ⟨term, hvalid, hterm, htext⟩ := hquantity hne
    have hcomponent := intervalComponent_text hvalid rest
    rw [IntervalTerm.text, htext, hterm] at hcomponent
    rw [intervalComponents_component hcomponent, hadd hne]
    rfl

theorem intervalComponents_monthField (hunit : unit = .year ∨ unit = .month) (hn : Fits 64 n)
    (hmul : Fits 64 (n * unit.months)) (hadd : Fits 64 (parts.months + n * unit.months)) :
    intervalComponents 1 (isoField n unit.letter ++ rest) false parts =
      intervalComponents 1 rest false (parts.plus unit n) := by
  have hread := parseIntervalInteger_toString hn
  apply intervalComponents_field unit
  · intro _
    obtain ⟨term, hvalid, hterm, hquantity, -⟩ := exists_integerTerm hread unit
    exact ⟨term, hvalid, hterm, hquantity⟩
  · intro hne
    have hparts : parts.plus unit n =
        { parts with months := parts.months + n * unit.months, sawComponent := true } := by
      rcases hunit with rfl | rfl
      · simp [IntervalParts.plus, IntervalUnit.days, IntervalUnit.microseconds, hne]
      · simp [IntervalParts.plus, IntervalUnit.days, IntervalUnit.microseconds, hne]
    rw [hparts]
    rcases hunit with rfl | rfl
    · exact addMonths_of_read hread hmul hadd
    · exact addMonths_of_read hread hmul hadd

theorem intervalComponents_dayField (hn : Fits 64 n) (hadd : Fits 64 (parts.days + n)) :
    intervalComponents 1 (isoField n 'D' ++ rest) false parts =
      intervalComponents 1 rest false (parts.plus .day n) := by
  have hread := parseIntervalInteger_toString hn
  apply intervalComponents_field .day
  · intro _
    obtain ⟨term, hvalid, hterm, hquantity, -⟩ := exists_integerTerm hread .day
    exact ⟨term, hvalid, hterm, hquantity⟩
  · intro hne
    have hparts : parts.plus .day n =
        { parts with days := parts.days + n * 1, sawComponent := true } := by
      simp [IntervalParts.plus, IntervalUnit.months, IntervalUnit.days,
        IntervalUnit.microseconds, hne]
    rw [hparts]
    exact addDays_of_read hread (by rwa [Int.mul_one]) (by rwa [Int.mul_one])

theorem intervalComponents_timeField (hunit : unit = .hour ∨ unit = .minute)
    (hlt : n.natAbs < 2 ^ 63) (hmul : Fits 64 (n * unit.microseconds))
    (hadd : Fits 64 (parts.microseconds + n * unit.microseconds)) :
    intervalComponents 1 (isoField n unit.letter ++ rest) true parts =
      intervalComponents 1 rest true (parts.plus unit n) := by
  have hfactor : IsFactor unit.microseconds := by
    rcases hunit with rfl | rfl
    · exact ⟨by decide, by decide⟩
    · exact ⟨by decide, by decide⟩
  have htime : unit.isTime = true := by
    rcases hunit with rfl | rfl
    · rfl
    · rfl
  have hread := parseIntervalScaled_toString hlt hfactor hmul
  apply intervalComponents_field unit
  · intro _
    obtain ⟨term, hvalid, hterm, hquantity, -⟩ := exists_scaledTerm hread unit htime
    exact ⟨term, hvalid, hterm, hquantity⟩
  · intro hne
    have hparts : parts.plus unit n =
        { parts with
          microseconds := parts.microseconds + n * unit.microseconds, sawComponent := true } := by
      rcases hunit with rfl | rfl
      · simp [IntervalParts.plus, IntervalUnit.months, IntervalUnit.days, hne]
      · simp [IntervalParts.plus, IntervalUnit.months, IntervalUnit.days, hne]
    rw [hparts]
    rcases hunit with rfl | rfl
    · exact addTime_of_read hread hmul hadd
    · exact addTime_of_read hread hmul hadd

/-- The seconds and their fraction, which have one sign. -/
theorem intervalComponents_seconds {seconds fraction : ℤ}
    (hsign : 0 ≤ seconds ∧ 0 ≤ fraction ∨ seconds ≤ 0 ∧ fraction ≤ 0)
    (hseconds : seconds.natAbs < 2 ^ 32) (hfraction : fraction.natAbs < 10 ^ 6)
    (hvalue : Fits 64 (seconds * 1000000 + fraction))
    (hadd : Fits 64 (parts.microseconds + (seconds * 1000000 + fraction))) :
    intervalComponents 1 (isoSeconds seconds fraction) true parts =
      .ok { parts with
        microseconds := parts.microseconds + (seconds * 1000000 + fraction)
        sawComponent := parts.sawComponent || decide (seconds ≠ 0 ∨ fraction ≠ 0) } := by
  unfold isoSeconds
  split
  · next hzero =>
    obtain ⟨rfl, rfl⟩ := hzero
    rw [intervalComponents]
    simp
  · next hne =>
    have hsigned : (if decide (seconds < 0 ∨ fraction < 0) = true then
        -((seconds.natAbs : ℤ) * 1000000 + fraction.natAbs) else
          seconds.natAbs * 1000000 + fraction.natAbs) = seconds * 1000000 + fraction := by
      by_cases hneg : seconds < 0 ∨ fraction < 0
      · rw [if_pos (by simpa using hneg)]
        omega
      · rw [if_neg (by simpa using hneg)]
        omega
    have hread := parseIntervalScaled_sign (decide (seconds < 0 ∨ fraction < 0))
      (scaledMagnitude_iso hseconds hfraction) (by rwa [hsigned])
    rw [hsigned] at hread
    simp only [decide_eq_true_eq] at hread
    obtain ⟨term, hvalid, hterm, hquantity, -⟩ := exists_scaledTerm hread .second rfl
    have hcomponent := intervalComponent_text hvalid []
    rw [IntervalTerm.text, hquantity, hterm, List.append_nil] at hcomponent
    change intervalComponent (_ ++ ['S']) = .ok (_, 'S', []) at hcomponent
    rw [intervalComponents_component hcomponent]
    have htime : addComponent 1 true parts _ 'S' = _ := addTime_of_read hread hvalue hadd
    rw [htime, ok_bind, intervalComponents]
    have hsome : decide (seconds ≠ 0 ∨ fraction ≠ 0) = true := by
      rw [decide_eq_true_eq]
      omega
    rw [hsome, Bool.or_true]

/-- Division by truncation divides the absolute value. -/
theorem truncate_cases (n b : ℤ) :
    0 ≤ n ∧ n.tdiv b = n / b ∧ n.tmod b = n % b ∨
      n < 0 ∧ n.tdiv b = -(-n / b) ∧ n.tmod b = -(-n % b) := by
  rcases lt_or_ge n 0 with hneg | hpos
  · right
    have hpos : 0 ≤ -n := by omega
    refine ⟨hneg, ?_, ?_⟩
    · rw [← Int.tdiv_eq_ediv_of_nonneg hpos, Int.neg_tdiv, Int.neg_neg]
    · rw [← Int.tmod_eq_emod_of_nonneg hpos, Int.neg_tmod, Int.neg_neg]
  · exact .inl ⟨hpos, Int.tdiv_eq_ediv_of_nonneg hpos, Int.tmod_eq_emod_of_nonneg hpos⟩

/-- The fields of a time make it up and have one sign. -/
theorem timeFields (us : ℤ) {hours minutes seconds fraction : ℤ}
    (hhours : hours = us.tdiv 3600000000)
    (hminutes : minutes = (us.tmod 3600000000).tdiv 60000000)
    (hseconds : seconds = (us.tmod 60000000).tdiv 1000000)
    (hfraction : fraction = us.tmod 1000000) :
    us = hours * 3600000000 + minutes * 60000000 + (seconds * 1000000 + fraction) ∧
      (0 ≤ hours ∧ 0 ≤ minutes ∧ 0 ≤ seconds ∧ 0 ≤ fraction ∨
        hours ≤ 0 ∧ minutes ≤ 0 ∧ seconds ≤ 0 ∧ fraction ≤ 0) ∧
      minutes.natAbs < 60 ∧ seconds.natAbs < 60 ∧ fraction.natAbs < 1000000 := by
  have h1 := truncate_cases us 3600000000
  have h2 := truncate_cases (us.tmod 3600000000) 60000000
  have h3 := truncate_cases us 60000000
  have h4 := truncate_cases (us.tmod 60000000) 1000000
  have h5 := truncate_cases us 1000000
  rcases lt_or_ge us 0 with hneg | hpos
  · omega
  · omega

theorem isoTime_components {hours minutes seconds fraction : ℤ}
    (hsign : 0 ≤ hours ∧ 0 ≤ minutes ∧ 0 ≤ seconds ∧ 0 ≤ fraction ∨
      hours ≤ 0 ∧ minutes ≤ 0 ∧ seconds ≤ 0 ∧ fraction ≤ 0)
    (hminutes : minutes.natAbs < 60) (hseconds : seconds.natAbs < 60)
    (hfraction : fraction.natAbs < 1000000) (hmicro : parts.microseconds = 0)
    (hfits : Fits 64 (hours * 3600000000 + minutes * 60000000 + (seconds * 1000000 + fraction))) :
    intervalComponents 1 (isoTime hours minutes seconds fraction) false parts =
      .ok { parts with
        microseconds := hours * 3600000000 + minutes * 60000000 + (seconds * 1000000 + fraction)
        sawComponent := parts.sawComponent ||
          decide (¬ (hours = 0 ∧ minutes = 0 ∧ seconds = 0 ∧ fraction = 0)) } := by
  unfold isoTime
  split
  · next hzero =>
    obtain ⟨rfl, rfl, rfl, rfl⟩ := hzero
    obtain ⟨months, days, microseconds, sawComponent⟩ := parts
    obtain rfl : microseconds = 0 := hmicro
    rw [intervalComponents]
    simp
  · next hne =>
    obtain ⟨hlow, hhigh⟩ := hfits
    norm_num at hlow hhigh
    have hfits : ∀ m : ℤ, -9223372036854775808 ≤ m → m < 9223372036854775808 → Fits 64 m := by
      intro m hlow hhigh
      constructor
      · norm_num
        exact hlow
      · norm_num
        exact hhigh
    have hsaw : decide (¬ (hours = 0 ∧ minutes = 0 ∧ seconds = 0 ∧ fraction = 0)) =
        (decide (hours ≠ 0) || decide (minutes ≠ 0) ||
          decide (seconds ≠ 0 ∨ fraction ≠ 0)) := by
      rw [← Bool.decide_or, ← Bool.decide_or, decide_eq_decide]
      omega
    have hhour : intervalComponents 1 (isoField hours 'H' ++ (isoField minutes 'M' ++
        isoSeconds seconds fraction)) true parts = intervalComponents 1 (isoField minutes 'M' ++
          isoSeconds seconds fraction) true (parts.plus .hour hours) := by
      apply intervalComponents_timeField (.inl rfl)
      · omega
      · apply hfits
        · simp only [IntervalUnit.microseconds]
          omega
        · simp only [IntervalUnit.microseconds]
          omega
      · apply hfits
        · simp only [IntervalUnit.microseconds]
          omega
        · simp only [IntervalUnit.microseconds]
          omega
    have hminute : intervalComponents 1 (isoField minutes 'M' ++ isoSeconds seconds fraction) true
        (parts.plus .hour hours) = intervalComponents 1 (isoSeconds seconds fraction) true
          ((parts.plus .hour hours).plus .minute minutes) := by
      apply intervalComponents_timeField (.inr rfl)
      · omega
      · apply hfits
        · simp only [IntervalUnit.microseconds]
          omega
        · simp only [IntervalUnit.microseconds]
          omega
      · apply hfits
        · simp only [IntervalParts.plus, IntervalUnit.microseconds]
          omega
        · simp only [IntervalParts.plus, IntervalUnit.microseconds]
          omega
    have hsecond := @intervalComponents_seconds ((parts.plus .hour hours).plus .minute minutes)
      seconds fraction (by omega) (by omega) (by omega) (hfits _ (by omega) (by omega))
      (by
        apply hfits
        · simp only [IntervalParts.plus, IntervalUnit.microseconds]
          omega
        · simp only [IntervalParts.plus, IntervalUnit.microseconds]
          omega)
    rw [intervalComponents_designator, List.append_assoc, hhour, hminute, hsecond, hsaw]
    simp only [IntervalParts.plus, IntervalUnit.microseconds, IntervalUnit.months,
      IntervalUnit.days, hmicro]
    simp [Bool.or_assoc]

/-- The components that PostgreSQL writes add up to the interval. -/
theorem intervalComponents_iso {months days us : ℤ} (hmonths : Fits 32 months)
    (hdays : Fits 32 days) (hmicro : Fits 64 us) (hne : ¬ (months = 0 ∧ days = 0 ∧ us = 0)) :
    intervalComponents 1 (isoField (months.tdiv 12) 'Y' ++ isoField (months.tmod 12) 'M' ++
      isoField days 'D' ++ isoTime (us.tdiv 3600000000) ((us.tmod 3600000000).tdiv 60000000)
        ((us.tmod 60000000).tdiv 1000000) (us.tmod 1000000)) false ⟨0, 0, 0, false⟩ =
      .ok ⟨months, days, us, true⟩ := by
  obtain ⟨htime, hsign, hminutes, hseconds, hfraction⟩ := timeFields us rfl rfl rfl rfl
  obtain ⟨hlow, hhigh⟩ := hmonths
  obtain ⟨hdayLow, hdayHigh⟩ := hdays
  norm_num at hlow hhigh hdayLow hdayHigh
  have hyears := truncate_cases months 12
  have hfits : ∀ m : ℤ, -2147483648 ≤ m → m < 2147483648 → Fits 64 m := by
    intro m hlow hhigh
    constructor
    · norm_num
      omega
    · norm_num
      omega
  generalize us.tdiv 3600000000 = hours at *
  generalize (us.tmod 3600000000).tdiv 60000000 = minutes at *
  generalize (us.tmod 60000000).tdiv 1000000 = seconds at *
  generalize us.tmod 1000000 = fraction at *
  generalize months.tdiv 12 = years at *
  generalize months.tmod 12 = month at *
  have hyear : intervalComponents 1 (isoField years 'Y' ++ (isoField month 'M' ++
      (isoField days 'D' ++ isoTime hours minutes seconds fraction))) false ⟨0, 0, 0, false⟩ =
      intervalComponents 1 (isoField month 'M' ++ (isoField days 'D' ++
        isoTime hours minutes seconds fraction)) false
          (IntervalParts.plus ⟨0, 0, 0, false⟩ .year years) := by
    apply intervalComponents_monthField (.inl rfl)
    · exact hfits _ (by omega) (by omega)
    · exact hfits _ (by simp only [IntervalUnit.months]; omega)
        (by simp only [IntervalUnit.months]; omega)
    · exact hfits _ (by simp only [IntervalUnit.months]; omega)
        (by simp only [IntervalUnit.months]; omega)
  have hmonth : intervalComponents 1 (isoField month 'M' ++ (isoField days 'D' ++
      isoTime hours minutes seconds fraction)) false
        (IntervalParts.plus ⟨0, 0, 0, false⟩ .year years) =
      intervalComponents 1 (isoField days 'D' ++ isoTime hours minutes seconds fraction) false
        ((IntervalParts.plus ⟨0, 0, 0, false⟩ .year years).plus .month month) := by
    apply intervalComponents_monthField (.inr rfl)
    · exact hfits _ (by omega) (by omega)
    · exact hfits _ (by simp only [IntervalUnit.months]; omega)
        (by simp only [IntervalUnit.months]; omega)
    · exact hfits _ (by simp only [IntervalParts.plus, IntervalUnit.months]; omega)
        (by simp only [IntervalParts.plus, IntervalUnit.months]; omega)
  rw [List.append_assoc, List.append_assoc, hyear, hmonth, intervalComponents_dayField
    (hfits _ (by omega) (by omega))
    (hfits _ (by simp only [IntervalParts.plus, IntervalUnit.days]; omega)
      (by simp only [IntervalParts.plus, IntervalUnit.days]; omega)),
    isoTime_components hsign hminutes hseconds hfraction
      (by simp [IntervalParts.plus, IntervalUnit.microseconds]) (by rwa [← htime])]
  simp only [IntervalParts.plus, IntervalUnit.months, IntervalUnit.days]
  rw [Except.ok.injEq, IntervalParts.mk.injEq]
  refine ⟨by omega, by omega, htime.symm, ?_⟩
  simp only [Bool.false_or, Bool.or_eq_true, decide_eq_true_eq]
  omega

/-- The parts of a body are those of the interval, turned around with its sign. -/
theorem calendarInterval_of_components (body : List Char) {months days us : ℤ}
    (hmonths : Fits 32 months) (hdays : Fits 32 days)
    (hparts : intervalComponents 1 body false ⟨0, 0, 0, false⟩ = .ok ⟨months, days, us, true⟩) :
    calendarInterval (String.ofList ('P' :: body)) = .ok (.calendarInterval months days us) := by
  have hwide : ∀ {n : ℤ}, Fits 32 n → Fits 64 (n * 1) := by
    rintro n ⟨hlow, hhigh⟩
    norm_num at hlow hhigh
    constructor
    · norm_num
      omega
    · norm_num
      omega
  unfold calendarInterval
  rw [String.toList_ofList]
  simp only [intervalBody]
  rw [hparts, ok_bind]
  dsimp only
  rw [if_neg (by simp), checked_eq_ok.mpr ⟨hwide hmonths, Int.mul_one months⟩, ok_bind,
    checked_eq_ok.mpr ⟨hwide hdays, Int.mul_one days⟩, ok_bind,
    tryFrom_eq_ok.mpr ⟨hmonths, rfl⟩, ok_bind, tryFrom_eq_ok.mpr ⟨hdays, rfl⟩, ok_bind]
  rfl

/-- An interval that PostgreSQL writes is read back. -/
theorem calendarInterval_iso {months days us : ℤ} (hmonths : Fits 32 months)
    (hdays : Fits 32 days) (hmicro : Fits 64 us) :
    calendarInterval (isoInterval months days us) = .ok (.calendarInterval months days us) := by
  unfold isoInterval
  split
  · next hzero =>
    obtain ⟨rfl, rfl, rfl⟩ := hzero
    apply calendarInterval_of_components ['T', '0', 'S'] hmonths hdays
    have hcomponent : intervalComponent ['0', 'S'] = .ok (['0'], 'S', []) := by decide
    have hadd : addComponent 1 true ⟨0, 0, 0, false⟩ ['0'] 'S' = .ok ⟨0, 0, 0, true⟩ := by
      decide +kernel
    rw [intervalComponents_designator, intervalComponents_component hcomponent, hadd, ok_bind,
      intervalComponents]
  · next hne =>
    exact calendarInterval_of_components _ hmonths hdays
      (intervalComponents_iso hmonths hdays hmicro hne)

/-- Intervals in ISO 8601 form are decoded exactly: the text of every interval is read back, and a
text that is read denotes the interval that is returned. -/
theorem calendarInterval_exact :
    (∀ months days us, Fits 32 months → Fits 32 days → Fits 64 us →
      calendarInterval (isoInterval months days us) = .ok (.calendarInterval months days us)) ∧
    ∀ text value, calendarInterval text = .ok value → ∃ months days us,
      value = .calendarInterval months days us ∧ DenotesInterval text months days us :=
  ⟨fun _ _ _ => calendarInterval_iso, fun _ _ => calendarInterval_sound⟩

theorem calendarInterval_exact_extremes :
    calendarInterval (isoInterval (-2147483648) 2147483647 (-9223372036854775808)) =
        .ok (.calendarInterval (-2147483648) 2147483647 (-9223372036854775808)) ∧
      isoInterval (-2147483648) 2147483647 (-9223372036854775808) =
        "P-178956970Y-8M2147483647DT-2562047788H-54.775808S" :=
  ⟨calendarInterval_exact.1 _ _ _ (by decide) (by decide) (by decide), by decide +kernel⟩

end Complete

end DatabaseSync.PostgresqlSource
