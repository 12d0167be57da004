import DatabaseSync.ChangeEvent.DecimalPlan

/-! # Decimals as text

The text of a `DECIMAL` column: a sign, digits and a point among them. Its number has as many digits
after the point as the text.
-/

namespace DatabaseSync.MysqlSource

open ChangeEvent Checked Decimal Text

/-! ## The decoder -/

/-- `parse_decimal`; the fraction is measured after its characters are known to be digits. -/
def parseDecimal (text : String) : Except String LogicalValue :=
  let negative := text.toList.head? == some '-'
  let unsigned := stripSign text.toList
  let (whole, fraction) := (splitFirst '.' unsigned).getD (unsigned, [])
  let digits := whole ++ fraction
  if !isDigits digits then .error ("invalid decimal value " ++ text.quote)
  else if fraction.length < 2 ^ 31 then
    .ok (.decimal (String.ofList ((if negative then ['-'] else []) ++ digits)) fraction.length)
  else .error "out of range integral type conversion attempted"

/-! ## Texts of numbers -/

/-- The texts of a sign. -/
inductive SignText : List Char → Bool → Prop
  | none : SignText [] false
  | plus : SignText ['+'] false
  | minus : SignText ['-'] true

/-- A text with a sign, the digits before its point and those after it. Without a point there are
none after it. -/
inductive DecimalText : List Char → Bool → List Char → List Char → Prop
  | whole {sign whole : List Char} {negative : Bool} (hsign : SignText sign negative)
      (hdigits : isDigits whole = true) : DecimalText (sign ++ whole) negative whole []
  | point {sign whole fraction : List Char} {negative : Bool} (hsign : SignText sign negative)
      (hdigits : isDigits (whole ++ fraction) = true) :
      DecimalText (sign ++ (whole ++ '.' :: fraction)) negative whole fraction

/-- The text stands for the number. -/
def Denotes (text : String) (x : ℚ) : Prop :=
  ∃ negative whole fraction, DecimalText text.toList negative whole fraction ∧
    x = number negative (whole ++ fraction) fraction.length

section

variable {text sign whole fraction : List Char} {negative : Bool}

theorem digits_of_isDigits (h : isDigits whole = true) : ∀ c ∈ whole, isAsciiDigit c = true :=
  (isDigits_iff.mp h).2

theorem point_notMem (h : ∀ c ∈ whole, isAsciiDigit c = true) : '.' ∉ whole := by
  intro hmem
  exact absurd (h '.' hmem) (by decide)

theorem DecimalText.digits (h : DecimalText text negative whole fraction) :
    isDigits (whole ++ fraction) = true := by
  cases h with
  | whole _ hdigits => rwa [List.append_nil]
  | point _ hdigits => exact hdigits

/-- A sign is told apart from a text that starts with a digit or a point. -/
theorem SignText.read (h : SignText sign negative)
    (hminus : text.head? ≠ some '-') (hplus : text.head? ≠ some '+') :
    ((sign ++ text).head? == some '-') = negative ∧ stripSign (sign ++ text) = text := by
  cases h with
  | none =>
    refine ⟨by simpa using hminus, ?_⟩
    rw [List.nil_append, stripSign]
    · rintro digits rfl
      exact hminus rfl
    · rintro digits rfl
      exact hplus rfl
  | plus => exact ⟨rfl, rfl⟩
  | minus => exact ⟨rfl, rfl⟩

theorem head_of_digits (rest : List Char) (h : ∀ c ∈ text, isAsciiDigit c = true)
    (hrest : rest.head? = none ∨ rest.head? = some '.') :
    (text ++ rest).head? ≠ some '-' ∧ (text ++ rest).head? ≠ some '+' := by
  cases text with
  | nil =>
    rw [List.nil_append]
    rcases hrest with hrest | hrest
    · simp [hrest]
    · simp [hrest]
  | cons c text =>
    have hc := h c List.mem_cons_self
    constructor
    · rintro hhead
      obtain rfl : c = '-' := by simpa using hhead
      exact absurd hc (by decide)
    · rintro hhead
      obtain rfl : c = '+' := by simpa using hhead
      exact absurd hc (by decide)

/-- The sign and the parts of a text are read back. -/
theorem DecimalText.read (h : DecimalText text negative whole fraction) :
    (text.head? == some '-') = negative ∧
      (splitFirst '.' (stripSign text)).getD (stripSign text, []) = (whole, fraction) := by
  cases h with
  | whole hsign hdigits =>
    have hmem := digits_of_isDigits hdigits
    obtain ⟨hminus, hplus⟩ := head_of_digits [] hmem (.inl rfl)
    rw [List.append_nil] at hminus hplus
    obtain ⟨hnegative, hstrip⟩ := hsign.read hminus hplus
    refine ⟨hnegative, ?_⟩
    rw [hstrip, splitFirst_eq_none (point_notMem hmem)]
    rfl
  | @point sign whole fraction negative hsign hdigits =>
    have hmem : ∀ c ∈ whole, isAsciiDigit c = true := fun c hc =>
      digits_of_isDigits hdigits c (List.mem_append_left _ hc)
    obtain ⟨hminus, hplus⟩ := head_of_digits ('.' :: fraction) hmem (.inr rfl)
    obtain ⟨hnegative, hstrip⟩ := hsign.read hminus hplus
    refine ⟨hnegative, ?_⟩
    rw [hstrip, splitFirst_append (point_notMem hmem)]
    rfl

/-- What is left of a text without its sign. -/
theorem exists_signText (text : List Char) : ∃ sign, SignText sign (text.head? == some '-') ∧
    text = sign ++ stripSign text := by
  unfold stripSign
  split
  · exact ⟨['-'], .minus, rfl⟩
  · exact ⟨['+'], .plus, rfl⟩
  · next hminus hplus =>
    refine ⟨[], ?_, rfl⟩
    have hhead : (text.head? == some '-') = false := by
      cases text with
      | nil => rfl
      | cons c rest =>
        rw [List.head?_cons, Option.some_beq_some, beq_eq_false_iff_ne]
        rintro rfl
        exact hminus rest rfl
    rw [hhead]
    exact .none

end

/-- The decoder accepts the texts of decimals, and no others. -/
theorem parseDecimal_iff {text unscaled : String} {scale : ℤ} :
    parseDecimal text = .ok (.decimal unscaled scale) ↔
      ∃ negative whole fraction, DecimalText text.toList negative whole fraction ∧
        fraction.length < 2 ^ 31 ∧ scale = fraction.length ∧
        unscaled = String.ofList ((if negative then ['-'] else []) ++ (whole ++ fraction)) := by
  unfold parseDecimal
  dsimp only
  constructor
  · intro h
    obtain ⟨sign, hsign, htext⟩ := exists_signText text.toList
    cases hsplit : splitFirst '.' (stripSign text.toList) with
    | none =>
      rw [hsplit, Option.getD_none, List.append_nil] at h
      split at h
      · cases h
      · next hdigits =>
        have hdecimal := DecimalText.whole hsign (by simpa using hdigits)
        rw [← htext] at hdecimal
        have hlength : ([] : List Char).length < 2 ^ 31 := by decide
        rw [if_pos hlength] at h
        cases h
        exact ⟨_, _, _, hdecimal, hlength, rfl, by rw [List.append_nil]⟩
    | some parts =>
      obtain ⟨whole, fraction⟩ := parts
      rw [hsplit, Option.getD_some] at h
      split at h
      · cases h
      · next hdigits =>
        have hdecimal := DecimalText.point hsign (by simpa using hdigits)
        rw [← (splitFirst_eq_some.mp hsplit).1, ← htext] at hdecimal
        split at h
        · next hlength =>
          cases h
          exact ⟨_, _, _, hdecimal, hlength, rfl, rfl⟩
        · cases h
  · rintro ⟨negative, whole, fraction, htext, hlength, rfl, rfl⟩
    obtain ⟨hnegative, hparts⟩ := htext.read
    rw [hnegative, hparts]
    dsimp only
    rw [htext.digits, if_neg (by decide), if_pos hlength]

example : parseDecimal "-0.50" = .ok (.decimal "-050" 2) := rfl

end DatabaseSync.MysqlSource
