import DatabaseSync.ChangeEvent.Validate
import DatabaseSync.Library.Decimal
import DatabaseSync.Planner.LogicalType

/-! # Decimal types and their values

The test whether a value is of a decimal type counts digits. It answers for the number: a multiple
of the last place of the type, below its first.
-/

namespace DatabaseSync.Planner

open ChangeEvent Decimal Text

/-- The number of a decimal value. -/
def decimalNumber (unscaled : String) (scale : ℤ) : ℚ :=
  number (unscaled.toList.head? == some '-') (dropMinus unscaled.toList) scale

/-- The scale of a value is that of its type, or 0 where that is negative. -/
def Carries (scale valueScale : ℤ) : Prop := valueScale = scale ∨ (scale < 0 ∧ valueScale = 0)

section Digits

variable {digits : List Char} {precision : ℕ} {scale valueScale : ℤ}

theorem byteLength_of_digits (h : ∀ c ∈ digits, isAsciiDigit c = true) :
    byteLength digits = digits.length := by
  induction digits with
  | nil => rfl
  | cons c digits ih =>
    have hsize : c.utf8Size = 1 := by
      obtain ⟨d, hd, rfl⟩ := isAsciiDigit_iff.mp (h c List.mem_cons_self)
      interval_cases d <;> rfl
    have htail := ih fun d hd => h d (List.mem_cons_of_mem c hd)
    unfold byteLength at htail ⊢
    rw [String.ofList_cons, String.utf8ByteSize_append, String.utf8ByteSize_singleton, hsize, htail,
      List.length_cons, Nat.add_comm]

/-- The zeros at the end of a coefficient are not among its significant digits. -/
theorem length_trimEndZeros (digits : List Char) :
    (trimEndZeros digits).length = digits.length - trailingZeros digits := by
  have hsplit := congrArg List.length
    (List.takeWhile_append_dropWhile (p := fun c => c == '0') (l := digits.reverse))
  rw [List.length_append, List.length_reverse] at hsplit
  rw [trimEndZeros, List.length_reverse, trailingZeros]
  omega

theorem trimEndZeros_digits (h : ∀ c ∈ digits, isAsciiDigit c = true) :
    ∀ c ∈ trimEndZeros digits, isAsciiDigit c = true := by
  intro c hc
  apply h
  rw [trimEndZeros, List.mem_reverse] at hc
  exact List.mem_reverse.mp ((List.dropWhile_suffix _).subset hc)

end Digits

/-! ## The test -/

section Test

variable {digits : List Char} {precision : ℕ} {scale valueScale : ℤ}

/-- The test, by the number of significant digits and of zeros at the end. -/
theorem decimalMatches_iff_lengths (hne : digits ≠ []) (h : ∀ c ∈ digits, isAsciiDigit c = true) :
    decimalMatches precision scale digits valueScale = true ↔
      Carries scale valueScale ∧
      max (if scale < 0 then (coefficient digits).length - trailingZeros (coefficient digits)
        else (coefficient digits).length) 1 ≤ precision ∧
      (if (coefficient digits).length = 0 then 0
        else if valueScale < 0 then (coefficient digits).length + valueScale.natAbs
        else (coefficient digits).length - valueScale.toNat) ≤
          (min ((precision : ℤ) - scale) 2147483647).toNat ∧
      (0 ≤ scale ∨ valueScale ≠ 0 ∨ (coefficient digits).length = 0 ∨
        scale.natAbs ≤ trailingZeros digits) := by
  have hcoefficient := byteLength_of_digits (coefficient_digits h)
  have htrim := byteLength_of_digits (trimEndZeros_digits (coefficient_digits h))
  have hdef : digits.dropWhile (· == '0') = coefficient digits := rfl
  have hzeros : (digits.reverse.takeWhile (· == '0')).length = trailingZeros digits := rfl
  have hempty : (coefficient digits).isEmpty = true ↔ (coefficient digits).length = 0 := by
    rw [List.isEmpty_iff, List.length_eq_zero_iff]
  have hnil : digits.isEmpty = false := by simpa using hne
  unfold decimalMatches
  simp only [hdef, hzeros, hcoefficient, htrim, hempty, hnil, length_trimEndZeros, Bool.and_eq_true,
    Bool.or_eq_true, beq_iff_eq, bne_iff_ne, decide_eq_true_eq, Bool.not_false, and_true, or_assoc,
    and_assoc]
  rw [Carries, eq_comm (a := scale)]
  have hmax : (if scale < 0 then max ((coefficient digits).length -
      trailingZeros (coefficient digits)) 1 else max (coefficient digits).length 1) =
      max (if scale < 0 then (coefficient digits).length - trailingZeros (coefficient digits)
        else (coefficient digits).length) 1 := by
    split
    · rfl
    · rfl
  rw [hmax]

/-- Digits at the scale of the type: as many as its precision. -/
theorem decimalMatches_same (hp : 1 ≤ precision) (hbound : precision < 2 ^ 16)
    (hscale : -1000 ≤ scale ∧ scale ≤ 1000) (hne : digits ≠ [])
    (h : ∀ c ∈ digits, isAsciiDigit c = true) :
    decimalMatches precision scale digits scale = true ↔ decimalValue digits < 10 ^ precision := by
  have hsixteen : (2 : ℕ) ^ 16 = 65536 := by norm_num
  have hcarries : Carries scale scale := .inl rfl
  rw [← length_coefficient_le_iff h, decimalMatches_iff_lengths hne h]
  constructor
  · rintro ⟨-, hsignificant, hinteger, -⟩
    rcases lt_or_ge scale 0 with hneg | hnonneg
    · rw [if_pos hneg] at hinteger
      split at hinteger
      · omega
      · omega
    · rw [if_neg (not_lt.mpr hnonneg)] at hsignificant
      omega
  · intro hle
    refine ⟨hcarries, ?_, ?_, ?_⟩
    · split
      · omega
      · omega
    · split
      · omega
      · split
        · omega
        · omega
    · omega

/-- A whole number of a type with a negative scale. -/
theorem decimalMatches_whole (hp : 1 ≤ precision) (hbound : precision < 2 ^ 16)
    (hscale : -1000 ≤ scale) (hneg : scale < 0) (hne : digits ≠ [])
    (h : ∀ c ∈ digits, isAsciiDigit c = true) :
    decimalMatches precision scale digits 0 = true ↔
      10 ^ scale.natAbs ∣ decimalValue digits ∧
        decimalValue digits < 10 ^ (precision + scale.natAbs) := by
  have hsixteen : (2 : ℕ) ^ 16 = 65536 := by norm_num
  have hcarries : Carries scale 0 := .inr ⟨hneg, rfl⟩
  have hzero : (coefficient digits).length = 0 ↔ decimalValue digits = 0 := by
    rw [List.length_eq_zero_iff, coefficient_eq_nil_iff h]
  rw [← length_coefficient_le_iff h, decimalMatches_iff_lengths hne h]
  by_cases hvalue : decimalValue digits = 0
  · rw [hzero.mpr hvalue, hvalue]
    refine iff_of_true ⟨hcarries, ?_, ?_, ?_⟩ ⟨dvd_zero _, Nat.zero_le _⟩
    · rw [Nat.zero_sub, ite_self]
      omega
    · simp
    · simp
  · have hpositive : (coefficient digits).length ≠ 0 := fun hnil => hvalue (hzero.mp hnil)
    have hdigits := le_trailingZeros_iff (k := scale.natAbs) h hvalue
    have hcoefficient : scale.natAbs ≤ trailingZeros (coefficient digits) ↔
        10 ^ scale.natAbs ∣ decimalValue digits := by
      rw [← decimalValue_coefficient] at hvalue ⊢
      exact le_trailingZeros_iff (coefficient_digits h) hvalue
    rw [if_pos hneg, if_neg hpositive, if_neg (lt_irrefl 0), ← hdigits]
    rw [← hdigits] at hcoefficient
    constructor
    · rintro ⟨-, -, hinteger, haligned⟩
      refine ⟨?_, ?_⟩
      · omega
      · simp only [Int.toNat_zero] at hinteger
        omega
    · rintro ⟨haligned, hle⟩
      have htrailing := hcoefficient.mpr haligned
      refine ⟨hcarries, ?_, ?_, ?_⟩
      · omega
      · simp only [Int.toNat_zero]
        omega
      · omega

/-- A value is of a decimal type exactly if it has the scale of the type and a column of the type
holds its number. -/
theorem matchesValue_decimal_iff {unscaled : String} (hp : 1 ≤ precision)
    (hbound : precision < 2 ^ 16) (hscale : -1000 ≤ scale ∧ scale ≤ 1000)
    (hvalid : decimal unscaled valueScale = .ok ()) (hfinite : isSpecialDecimal unscaled = false) :
    (LogicalType.decimal precision scale).matchesValue (.decimal unscaled valueScale) = true ↔
      Carries scale valueScale ∧ Storable precision scale (decimalNumber unscaled valueScale) := by
  obtain ⟨hne, h⟩ : dropMinus unscaled.toList ≠ [] ∧
      ∀ c ∈ dropMinus unscaled.toList, isAsciiDigit c = true := by
    rw [decimal, hfinite, if_neg Bool.false_ne_true, ensure_eq_ok] at hvalid
    simpa [isDigits] using hvalid
  have hmatches : (LogicalType.decimal precision scale).matchesValue
      (.decimal unscaled valueScale) =
        decimalMatches precision scale (dropMinus unscaled.toList) valueScale := by
    simp only [isSpecialDecimal, List.contains_cons, List.contains_nil, Bool.or_false,
      Bool.or_eq_false_iff, beq_eq_false_iff_ne, ne_eq] at hfinite
    obtain ⟨hnan, hinfinity, hminus⟩ := hfinite
    simp only [LogicalType.matchesValue]
    rw [if_neg hnan, if_neg (not_or.mpr ⟨hinfinity, hminus⟩)]
  have hsame : (scale - scale).toNat = 0 ∧ (precision - scale + scale).toNat = precision := by omega
  rw [hmatches, decimalNumber, storable_iff]
  constructor
  · intro htrue
    have hcarries := ((decimalMatches_iff_lengths hne h).mp htrue).1
    refine ⟨hcarries, ?_⟩
    rcases hcarries with rfl | ⟨hneg, rfl⟩
    · rw [hsame.1, hsame.2]
      exact ⟨one_dvd _, (decimalMatches_same hp hbound hscale hne h).mp htrue⟩
    · have hwhole : (0 - scale).toNat = scale.natAbs ∧
          (precision - scale + 0).toNat = precision + scale.natAbs := by omega
      rw [hwhole.1, hwhole.2]
      exact (decimalMatches_whole hp hbound hscale.1 hneg hne h).mp htrue
  · rintro ⟨rfl | ⟨hneg, rfl⟩, hmultiple, hbelow⟩
    · rw [hsame.2] at hbelow
      exact (decimalMatches_same hp hbound hscale hne h).mpr hbelow
    · have hwhole : (0 - scale).toNat = scale.natAbs ∧
          (precision - scale + 0).toNat = precision + scale.natAbs := by omega
      rw [hwhole.1] at hmultiple
      rw [hwhole.2] at hbelow
      exact (decimalMatches_whole hp hbound hscale.1 hneg hne h).mpr ⟨hmultiple, hbelow⟩

theorem matchesValue_decimal_iff_thousands :
    (LogicalType.decimal 2 (-3)).matchesValue (.decimal "-99000" 0) = true ↔
      Carries (-3) 0 ∧ Storable 2 (-3) (decimalNumber "-99000" 0) :=
  matchesValue_decimal_iff (by decide) (by decide) (by decide) (by decide) (by decide)

end Test

end DatabaseSync.Planner
