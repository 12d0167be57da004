import DatabaseSync.ChangeEvent.Model
import DatabaseSync.Library.Digits

/-! # Timestamps as text

The text of a `TIMESTAMP` column, which has the seconds since 1970 and, as far as the column keeps
them, the digits of a fraction. Zeros at the end of the fraction change the text only.
-/

namespace DatabaseSync.MysqlSource

open ChangeEvent Text

/-! ## The decoder -/

/-- `timestamp`; what is longer in bytes than in characters is no digit and refused alike. -/
def timestamp (value : String) : Except String LogicalValue :=
  let (seconds, fraction) := (splitOnce value '.').getD (value, "")
  if (parseUnsigned 10 (2 ^ 32) seconds).isNone ∨ 6 < fraction.toList.length ∨
      ¬ fraction.toList.all isAsciiDigit then
    .error "invalid TIMESTAMP binlog value"
  else if fraction.toList = [] then .ok (.instant seconds 0)
  else
    match parseUnsigned 10 (2 ^ 32) fraction with
    | none => .error "number too large to fit in target type"
    | some digits => .ok (.instant seconds (digits * 10 ^ (9 - fraction.toList.length)))

/-- The branch of `decode_mysql_value` for the type `timestamp` -/
def decodeTimestamp (text : String) : Except String LogicalValue :=
  if text = "0" ∨ text = "0.000000" then
    .ok (.invalidTemporal "mysql.timestamp" "0000-00-00 00:00:00.000000")
  else timestamp text

/-! ## Texts of the server -/

/-- The text of a number of seconds with the digits of a fraction. -/
def timestampText (seconds : ℕ) (fraction : List Char) : String :=
  String.ofList (Nat.toDigits 10 seconds ++ if fraction = [] then [] else '.' :: fraction)

section

variable {seconds : ℕ} {fraction : List Char}

theorem point_not_mem_toDigits : '.' ∉ Nat.toDigits 10 seconds := by
  intro hmem
  exact absurd (toDigits_digits seconds '.' hmem) (by decide)

theorem splitOnce_timestampText :
    (splitOnce (timestampText seconds fraction) '.').getD (timestampText seconds fraction, "") =
      (toString seconds, String.ofList fraction) := by
  by_cases hnil : fraction = []
  · subst hnil
    have htext : timestampText seconds [] = toString seconds := by
      rw [timestampText, if_pos rfl, List.append_nil]
      rfl
    have hnone : splitOnce (toString seconds) '.' = none := by
      rw [← htext, timestampText, if_pos rfl, List.append_nil, splitOnce, String.toList_ofList,
        splitFirst_eq_none point_not_mem_toDigits]
      rfl
    rw [htext, hnone]
    rfl
  · rw [timestampText, if_neg hnil, splitOnce, String.toList_ofList,
      splitFirst_append point_not_mem_toDigits]
    rfl

theorem timestampText_inj {seconds' : ℕ} {fraction' : List Char} :
    timestampText seconds fraction = timestampText seconds' fraction' ↔
      seconds = seconds' ∧ fraction = fraction' := by
  constructor
  · intro htext
    have hparts := @splitOnce_timestampText seconds fraction
    rw [htext, splitOnce_timestampText] at hparts
    obtain ⟨hseconds, hfraction⟩ := Prod.mk.inj hparts
    have hdigits : Nat.toDigits 10 seconds' = Nat.toDigits 10 seconds :=
      String.ofList_inj.mp hseconds
    constructor
    · rw [← decimalValue_toDigits seconds, ← hdigits, decimalValue_toDigits]
    · exact (String.ofList_inj.mp hfraction).symm
  · rintro ⟨rfl, rfl⟩
    rfl

/-- The zeros are the two texts that the decoder looks for. -/
theorem timestampText_eq_zero (hdigits : ∀ c ∈ fraction, isAsciiDigit c = true) :
    (timestampText seconds fraction = "0" ∨ timestampText seconds fraction = "0.000000") ↔
      seconds = 0 ∧ decimalValue fraction = 0 ∧ (fraction.length = 0 ∨ fraction.length = 6) := by
  have hshort : "0" = timestampText 0 [] := rfl
  have hlong : "0.000000" = timestampText 0 (List.replicate 6 '0') := rfl
  rw [hshort, hlong, timestampText_inj, timestampText_inj, decimalValue_eq_zero hdigits]
  constructor
  · rintro (⟨rfl, rfl⟩ | ⟨rfl, rfl⟩)
    · exact ⟨rfl, rfl, .inl rfl⟩
    · exact ⟨rfl, rfl, .inr rfl⟩
  · rintro ⟨rfl, hzeros, hlength | hlength⟩
    · exact .inl ⟨rfl, List.length_eq_zero_iff.mp hlength⟩
    · exact .inr ⟨rfl, hlength ▸ hzeros⟩

/-- A text with a fraction that is not too long is read as it is written. -/
theorem timestamp_timestampText (hseconds : seconds < 2 ^ 32)
    (hdigits : ∀ c ∈ fraction, isAsciiDigit c = true) (hlength : fraction.length ≤ 6) :
    timestamp (timestampText seconds fraction) =
      .ok (.instant (toString seconds) (decimalValue fraction * 10 ^ (9 - fraction.length))) := by
  have hread : parseUnsigned 10 (2 ^ 32) (toString seconds) = some seconds :=
    parseUnsigned_toDigits (by decide) (by decide) hseconds
  have hall : fraction.all isAsciiDigit = true := List.all_eq_true.mpr hdigits
  unfold timestamp
  rw [splitOnce_timestampText]
  simp only [hread, String.toList_ofList, hall, Option.isNone_some, Bool.false_eq_true, false_or,
    not_true_eq_false, or_false]
  rw [if_neg (by omega)]
  by_cases hnil : fraction = []
  · rw [if_pos hnil, hnil]
    rfl
  · have hbound : decimalValue fraction < 2 ^ 32 := by
      have hpow : 10 ^ fraction.length ≤ 10 ^ 6 := Nat.pow_le_pow_right (by decide) hlength
      have hlt := decimalValue_lt hdigits
      omega
    rw [if_neg hnil, parseUnsigned_of_digits hnil hdigits, if_pos hbound]

/-- Longer fractions are refused. -/
theorem timestamp_long (hlength : 6 < fraction.length) :
    timestamp (timestampText seconds fraction) = .error "invalid TIMESTAMP binlog value" := by
  unfold timestamp
  rw [splitOnce_timestampText]
  exact if_pos (.inr (.inl (by rwa [String.toList_ofList])))

/-- Only some of the zeros are told apart from the instant. -/
theorem decodeTimestamp_timestampText (hseconds : seconds < 2 ^ 32)
    (hdigits : ∀ c ∈ fraction, isAsciiDigit c = true) (hlength : fraction.length ≤ 6) :
    decodeTimestamp (timestampText seconds fraction) =
      if seconds = 0 ∧ decimalValue fraction = 0 ∧ (fraction.length = 0 ∨ fraction.length = 6) then
        .ok (.invalidTemporal "mysql.timestamp" "0000-00-00 00:00:00.000000")
      else
        .ok (.instant (toString seconds) (decimalValue fraction * 10 ^ (9 - fraction.length))) := by
  rw [decodeTimestamp, timestamp_timestampText hseconds hdigits hlength]
  exact if_congr (timestampText_eq_zero hdigits) rfl rfl

end

/-! ## Zeros at the end -/

/-- Zeros at the end of the fraction do not change the value, and the value of a number that is not
zero has its integer part as the seconds and its fractional part as the nanoseconds. -/
def ReadsNumber (seconds : ℕ) (fraction : List Char) (zeros : ℕ) : Prop :=
  decodeTimestamp (timestampText seconds (fraction ++ List.replicate zeros '0')) =
      decodeTimestamp (timestampText seconds fraction) ∧
    (seconds ≠ 0 ∨ decimalValue fraction ≠ 0 →
      ∃ nanoseconds, nanoseconds * 10 ^ fraction.length = decimalValue fraction * 10 ^ 9 ∧
        decodeTimestamp (timestampText seconds fraction) =
          .ok (.instant (toString seconds) nanoseconds))

/-- The texts have at most the six digits of a fraction that the server keeps, and a zero is
recognised by both of its texts or by neither. -/
def ZerosAlike (seconds : ℕ) (fraction : List Char) (zeros : ℕ) : Prop :=
  fraction.length + zeros ≤ 6 ∧
    (seconds = 0 → decimalValue fraction = 0 →
      (fraction.length = 0 ∨ fraction.length = 6 ↔
        fraction.length + zeros = 0 ∨ fraction.length + zeros = 6))

section

variable {seconds zeros : ℕ} {fraction : List Char}

theorem digits_append_zeros (hdigits : ∀ c ∈ fraction, isAsciiDigit c = true) :
    ∀ c ∈ fraction ++ List.replicate zeros '0', isAsciiDigit c = true := by
  intro c hc
  rcases List.mem_append.mp hc with hc | hc
  · exact hdigits c hc
  · obtain rfl := List.eq_of_mem_replicate hc
    decide

/-- The value of a number that is not zero is the number. -/
theorem decodeTimestamp_of_ne_zero (hseconds : seconds < 2 ^ 32)
    (hdigits : ∀ c ∈ fraction, isAsciiDigit c = true) (hlength : fraction.length ≤ 6)
    (hne : seconds ≠ 0 ∨ decimalValue fraction ≠ 0) :
    ∃ nanoseconds, nanoseconds * 10 ^ fraction.length = decimalValue fraction * 10 ^ 9 ∧
      decodeTimestamp (timestampText seconds fraction) =
        .ok (.instant (toString seconds) nanoseconds) := by
  refine ⟨decimalValue fraction * 10 ^ (9 - fraction.length), ?_, ?_⟩
  · rw [mul_assoc, ← pow_add, Nat.sub_add_cancel (by omega)]
  · rw [decodeTimestamp_timestampText hseconds hdigits hlength, if_neg]
    rintro ⟨hzero, hvalue, -⟩
    omega

/-- The texts of a number are alike but for the zeros that only one of them is recognised as. -/
theorem decodeTimestamp_zeros_iff (hseconds : seconds < 2 ^ 32)
    (hdigits : ∀ c ∈ fraction, isAsciiDigit c = true) (hlength : fraction.length ≤ 6) :
    decodeTimestamp (timestampText seconds (fraction ++ List.replicate zeros '0')) =
      decodeTimestamp (timestampText seconds fraction) ↔ ZerosAlike seconds fraction zeros := by
  have hall := @digits_append_zeros zeros fraction hdigits
  have hlong : (fraction ++ List.replicate zeros '0').length = fraction.length + zeros := by
    rw [List.length_append, List.length_replicate]
  rw [decodeTimestamp_timestampText hseconds hdigits hlength, ZerosAlike]
  by_cases hfits : fraction.length + zeros ≤ 6
  · have hnanos : decimalValue fraction * 10 ^ zeros * 10 ^ (9 - (fraction.length + zeros)) =
        decimalValue fraction * 10 ^ (9 - fraction.length) := by
      rw [mul_assoc, ← pow_add]
      congr 2
      omega
    have hzero : decimalValue fraction * 10 ^ zeros = 0 ↔ decimalValue fraction = 0 := by
      simp
    rw [decodeTimestamp_timestampText hseconds hall (by omega), hlong,
      decimalValue_append_zeros, hnanos]
    simp only [hzero, hfits, true_and]
    constructor
    · intro hsame hseconds hvalue
      simp only [hseconds, hvalue, true_and] at hsame
      split at hsame <;> split at hsame
      · next hlarge hsmall => exact iff_of_true hsmall hlarge
      · cases hsame
      · cases hsame
      · next hlarge hsmall => exact iff_of_false hsmall hlarge
    · intro hsame
      refine if_congr ?_ rfl rfl
      constructor
      · rintro ⟨hseconds, hvalue, hplain⟩
        exact ⟨hseconds, hvalue, (hsame hseconds hvalue).mpr hplain⟩
      · rintro ⟨hseconds, hvalue, hplain⟩
        exact ⟨hseconds, hvalue, (hsame hseconds hvalue).mp hplain⟩
  · have hrefused : decodeTimestamp (timestampText seconds (fraction ++ List.replicate zeros '0')) =
        .error "invalid TIMESTAMP binlog value" := by
      rw [decodeTimestamp, timestamp_long (by omega), if_neg]
      rw [timestampText_eq_zero hall]
      omega
    rw [hrefused]
    refine iff_of_false ?_ fun halike => hfits halike.1
    split
    · intro hsame
      cases hsame
    · intro hsame
      cases hsame

/-- A timestamp is read by its number when zeros at its end do not change whether a zero is
recognised. -/
theorem readsNumber_iff (hseconds : seconds < 2 ^ 32)
    (hdigits : ∀ c ∈ fraction, isAsciiDigit c = true) (hlength : fraction.length ≤ 6) :
    ReadsNumber seconds fraction zeros ↔ ZerosAlike seconds fraction zeros := by
  rw [← decodeTimestamp_zeros_iff hseconds hdigits hlength]
  constructor
  · intro hreads
    exact hreads.1
  · intro halike
    exact ⟨halike, decodeTimestamp_of_ne_zero hseconds hdigits hlength⟩

theorem readsNumber_half : ReadsNumber 5 ['5'] 2 ↔ ZerosAlike 5 ['5'] 2 :=
  readsNumber_iff (by decide) (by simp [isAsciiDigit]) (by decide)

end

/-- A zero of a column with milliseconds is the first instant of 1970. -/
theorem zero_milliseconds_are_an_instant :
    timestampText 0 (List.replicate 3 '0') = "0.000" ∧ ¬ ReadsNumber 0 [] 3 := by
  refine ⟨rfl, ?_⟩
  rintro ⟨hsame, -⟩
  have hinstant : decodeTimestamp (timestampText 0 ([] ++ List.replicate 3 '0')) =
      .ok (.instant "0" 0) := rfl
  have hzero : decodeTimestamp (timestampText 0 []) =
      .ok (.invalidTemporal "mysql.timestamp" "0000-00-00 00:00:00.000000") := rfl
  rw [hinstant, hzero] at hsame
  cases hsame

end DatabaseSync.MysqlSource
