import DatabaseSync.Library.Digits
import Mathlib.Algebra.Order.Field.Power
import Mathlib.Data.Rat.Cast.Order
import Mathlib.Tactic.FieldSimp
import Mathlib.Tactic.NormNum
import Mathlib.Tactic.Positivity

/-! # Decimal numbers

A decimal number is a string of digits and a scale, the number of digits after the point. A
negative scale is a number of zeros before it. A column of a precision and a scale holds the
multiples of its last place below its first.
-/

namespace DatabaseSync.Decimal

open Text

def sign (negative : Bool) : ℤ := if negative then -1 else 1

/-- The number with the given sign, digits and scale. -/
def number (negative : Bool) (digits : List Char) (scale : ℤ) : ℚ :=
  sign negative * (decimalValue digits * 10 ^ (-scale))

/-- A column of this precision and scale holds the number. -/
structure Storable (precision : ℕ) (scale : ℤ) (x : ℚ) : Prop where
  multiple : ∃ k : ℤ, x = k * 10 ^ (-scale)
  bounded : |x| < 10 ^ ((precision : ℤ) - scale)

/-! ## Digits and powers of ten -/

section Digits

variable {digits : List Char} {k : ℕ}

/-- The digits without leading zeros. -/
def coefficient (digits : List Char) : List Char := digits.dropWhile (· == '0')

/-- The number of zeros at the end. -/
def trailingZeros (digits : List Char) : ℕ := (digits.reverse.takeWhile (· == '0')).length

theorem coefficient_digits (h : ∀ c ∈ digits, isAsciiDigit c = true) :
    ∀ c ∈ coefficient digits, isAsciiDigit c = true := fun c hc =>
  h c ((List.dropWhile_suffix _).subset hc)

theorem decimalValue_coefficient (digits : List Char) :
    decimalValue (coefficient digits) = decimalValue digits := by
  unfold coefficient
  induction digits with
  | nil => rfl
  | cons c digits ih =>
    by_cases hc : c = '0'
    · subst hc
      rw [List.dropWhile_cons_of_pos (by decide), ih, decimalValue, decimalValue, valueFrom_cons]
      rfl
    · rw [List.dropWhile_cons_of_neg (by simpa using hc)]

/-- A digit that is not zero counts. -/
theorem digitValue_pos {c : Char} (h : isAsciiDigit c = true) (hc : c ≠ '0') :
    0 < digitValue c := by
  obtain ⟨d, hd, rfl⟩ := isAsciiDigit_iff.mp h
  rw [digitValue_digitChar hd]
  rcases Nat.eq_zero_or_pos d with rfl | hpos
  · exact absurd rfl hc
  · exact hpos

/-- A coefficient of `n + 1` digits is at least `10 ^ n`. -/
theorem le_decimalValue {c : Char} (hc : isAsciiDigit c = true) (hne : c ≠ '0')
    (digits : List Char) :
    10 ^ digits.length ≤ decimalValue (c :: digits) := by
  have hpos := digitValue_pos hc hne
  rw [decimalValue, valueFrom_cons, valueFrom_eq]
  calc 10 ^ digits.length ≤ (0 * 10 + digitValue c) * 10 ^ digits.length :=
        Nat.le_mul_of_pos_left _ (by omega)
    _ ≤ _ := Nat.le_add_right _ _

/-- The significant digits bound the number. -/
theorem length_coefficient_le_iff (h : ∀ c ∈ digits, isAsciiDigit c = true) :
    (coefficient digits).length ≤ k ↔ decimalValue digits < 10 ^ k := by
  have hdigits := coefficient_digits h
  rw [← decimalValue_coefficient]
  constructor
  · intro hle
    calc decimalValue (coefficient digits) < 10 ^ (coefficient digits).length :=
          decimalValue_lt hdigits
      _ ≤ 10 ^ k := Nat.pow_le_pow_right (by decide) hle
  · intro hlt
    cases hcoefficient : coefficient digits with
    | nil => exact Nat.zero_le k
    | cons c rest =>
      have hne : c ≠ '0' := by
        rintro rfl
        have hhead := List.head?_dropWhile_not (· == '0') digits
        rw [← coefficient, hcoefficient] at hhead
        exact Bool.noConfusion (hhead : ('0' == '0') = false)
      rw [hcoefficient] at hlt hdigits
      have hle := le_decimalValue (hdigits c List.mem_cons_self) hne rest
      exact Nat.succ_le_of_lt ((Nat.pow_lt_pow_iff_right (by decide)).mp (hle.trans_lt hlt))

theorem coefficient_eq_nil_iff (h : ∀ c ∈ digits, isAsciiDigit c = true) :
    coefficient digits = [] ↔ decimalValue digits = 0 := by
  have hzero := length_coefficient_le_iff (k := 0) h
  rw [Nat.le_zero, List.length_eq_zero_iff] at hzero
  rw [hzero, pow_zero, Nat.lt_one_iff]

/-- The zeros at the end are the powers of ten in a number other than zero. -/
theorem le_trailingZeros_iff (h : ∀ c ∈ digits, isAsciiDigit c = true)
    (hne : decimalValue digits ≠ 0) : k ≤ trailingZeros digits ↔ 10 ^ k ∣ decimalValue digits := by
  induction digits using List.reverseRecOn generalizing k with
  | nil => exact absurd rfl hne
  | append_singleton digits c ih =>
    have hvalue : decimalValue (digits ++ [c]) = decimalValue digits * 10 + digitValue c := by
      rw [decimalValue_append]
      simp [decimalValue]
    have hc := h c (by simp)
    have hdigits := fun d hd => h d (List.mem_append_left [c] hd)
    rw [hvalue] at hne ⊢
    by_cases hzero : c = '0'
    · subst hzero
      have hcount : trailingZeros (digits ++ ['0']) = trailingZeros digits + 1 := by
        simp [trailingZeros]
      have hdigit : digitValue '0' = 0 := rfl
      rw [hcount, hdigit, Nat.add_zero]
      rw [hdigit] at hne
      cases k with
      | zero => simp
      | succ k =>
        rw [Nat.succ_le_succ_iff, ih hdigits (by omega), pow_succ, Nat.add_zero]
        exact (Nat.mul_dvd_mul_iff_right (by decide)).symm
    · have hcount : trailingZeros (digits ++ [c]) = 0 := by
        simp [trailingZeros, hzero]
      have hpos := digitValue_pos hc hzero
      have hlt := digitValue_lt hc
      rw [hcount]
      cases k with
      | zero => simp
      | succ k =>
        refine iff_of_false (by omega) ?_
        rintro ⟨m, hm⟩
        rw [pow_succ] at hm
        have hten : 10 ∣ decimalValue digits * 10 + digitValue c :=
          ⟨10 ^ k * m, by rw [hm]; ring⟩
        omega

end Digits

/-! ## Places and bounds -/

section Number

variable {negative : Bool} {digits : List Char} {scale : ℤ}

theorem sign_mul_self (negative : Bool) : (sign negative : ℚ) * sign negative = 1 := by
  cases negative
  · norm_num [sign]
  · norm_num [sign]

theorem abs_number : |number negative digits scale| = decimalValue digits * 10 ^ (-scale) := by
  have hsign : |(sign negative : ℚ)| = 1 := by
    cases negative
    · norm_num [sign]
    · norm_num [sign]
  rw [number, abs_mul, hsign, one_mul]
  exact abs_of_nonneg (by positivity)

/-- The number is below a power of ten when its digits are. -/
theorem abs_number_lt_iff {e : ℤ} : |number negative digits scale| < 10 ^ e ↔
    (decimalValue digits : ℚ) < 10 ^ (e + scale) := by
  rw [abs_number, zpow_neg, ← div_eq_mul_inv, div_lt_iff₀ (by positivity),
    zpow_add₀ (by norm_num)]

/-- The number is a multiple of a place exactly if its digits are. -/
theorem multiple_iff {place : ℤ} : (∃ k : ℤ, number negative digits scale = k * 10 ^ (-place)) ↔
    ∃ k : ℤ, (decimalValue digits : ℚ) = k * 10 ^ (scale - place) := by
  have hpower : (10 : ℚ) ^ (scale - place) = 10 ^ (-place) * 10 ^ scale := by
    rw [← zpow_add₀ (by norm_num)]
    congr 1
    ring
  have hcancel : (10 : ℚ) ^ (-scale) * 10 ^ scale = 1 := by
    rw [← zpow_add₀ (by norm_num), neg_add_cancel, zpow_zero]
  constructor
  · rintro ⟨k, hk⟩
    refine ⟨sign negative * k, ?_⟩
    calc (decimalValue digits : ℚ)
        = sign negative * sign negative * decimalValue digits *
            (10 ^ (-scale) * 10 ^ scale) := by
          rw [sign_mul_self, hcancel, one_mul, mul_one]
      _ = sign negative * number negative digits scale * 10 ^ scale := by
          rw [number]
          ring
      _ = ((sign negative * k : ℤ) : ℚ) * 10 ^ (scale - place) := by
          rw [hk, hpower]
          push_cast
          ring
  · rintro ⟨k, hk⟩
    refine ⟨sign negative * k, ?_⟩
    calc number negative digits scale
        = sign negative * k * 10 ^ (-place) * (10 ^ (-scale) * 10 ^ scale) := by
          rw [number, hk, hpower]
          ring
      _ = ((sign negative * k : ℤ) : ℚ) * 10 ^ (-place) := by
          rw [hcancel, mul_one]
          push_cast
          ring

/-- A whole number is below a power of ten with a negative exponent only if it is zero. -/
theorem natCast_lt_zpow_iff {n : ℕ} {e : ℤ} : (n : ℚ) < 10 ^ e ↔ n < 10 ^ e.toNat := by
  rcases le_or_gt 0 e with he | he
  · obtain ⟨m, rfl⟩ := Int.eq_ofNat_of_zero_le he
    rw [zpow_natCast, Int.toNat_natCast]
    exact_mod_cast Iff.rfl
  · rw [Int.toNat_of_nonpos he.le, pow_zero, Nat.lt_one_iff]
    have hone : (10 : ℚ) ^ e < 1 := zpow_lt_one_of_neg₀ (by norm_num) he
    constructor
    · intro hlt
      have : (n : ℚ) < 1 := hlt.trans hone
      exact Nat.lt_one_iff.mp (by exact_mod_cast this)
    · rintro rfl
      rw [Nat.cast_zero]
      positivity

/-- A whole number is a multiple of every power of ten with a negative exponent. -/
theorem exists_multiple_iff {n : ℕ} {e : ℤ} :
    (∃ k : ℤ, (n : ℚ) = k * 10 ^ e) ↔ 10 ^ e.toNat ∣ n := by
  rcases le_or_gt 0 e with he | he
  · obtain ⟨m, rfl⟩ := Int.eq_ofNat_of_zero_le he
    rw [Int.toNat_natCast, ← Int.natCast_dvd_natCast]
    constructor
    · rintro ⟨k, hk⟩
      refine ⟨k, ?_⟩
      rw [zpow_natCast] at hk
      rw [mul_comm]
      exact_mod_cast hk
    · rintro ⟨k, hk⟩
      refine ⟨k, ?_⟩
      rw [zpow_natCast, mul_comm]
      exact_mod_cast hk
  · rw [Int.toNat_of_nonpos he.le, pow_zero]
    refine iff_of_true ?_ (one_dvd n)
    obtain ⟨m, rfl⟩ := Int.eq_negSucc_of_lt_zero he
    refine ⟨n * 10 ^ (m + 1), ?_⟩
    rw [zpow_negSucc]
    push_cast
    rw [mul_assoc, mul_inv_cancel₀ (by positivity), mul_one]

/-- A column holds the number exactly if its digits have the zeros and the length for it. -/
theorem storable_iff {precision : ℕ} {place : ℤ} :
    Storable precision place (number negative digits scale) ↔
      10 ^ (scale - place).toNat ∣ decimalValue digits ∧
        decimalValue digits < 10 ^ (precision - place + scale).toNat := by
  constructor
  · rintro ⟨hmultiple, hbounded⟩
    exact ⟨exists_multiple_iff.mp (multiple_iff.mp hmultiple),
      natCast_lt_zpow_iff.mp (abs_number_lt_iff.mp hbounded)⟩
  · rintro ⟨hmultiple, hbounded⟩
    exact ⟨multiple_iff.mpr (exists_multiple_iff.mpr hmultiple),
      abs_number_lt_iff.mpr (natCast_lt_zpow_iff.mpr hbounded)⟩

end Number

end DatabaseSync.Decimal
