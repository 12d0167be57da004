import Mathlib.Algebra.Order.AbsoluteValue.Basic
import Mathlib.Algebra.Order.Field.Power
import Mathlib.Data.Nat.Prime.Basic
import Mathlib.Data.Rat.Cast.Order
import Mathlib.Data.Rat.Lemmas
import Mathlib.Tactic.Linarith
import Mathlib.Tactic.NormNum
import Mathlib.Tactic.Positivity
import Mathlib.Tactic.Ring

/-! # Floating-point numbers of 64 bits

The number that a bit pattern stands for, as a sign and an exact magnitude, and the bit pattern that
a reader of decimal numbers rounds to.
-/

namespace DatabaseSync.Binary64

def negative (bits : ℕ) : Bool := bits.testBit 63

def exponent (bits : ℕ) : ℕ := bits / 2 ^ 52 % 2 ^ 11

def fraction (bits : ℕ) : ℕ := bits % 2 ^ 52

/-- Neither an infinity nor a NaN. -/
def isFinite (bits : ℕ) : Bool := exponent bits != 2047

/-- The fraction, with the bit before the point that a normal number leaves out. -/
def significand (bits : ℕ) : ℕ :=
  if exponent bits = 0 then fraction bits else 2 ^ 52 + fraction bits

/-- The magnitude of a finite number. Subnormal numbers have the exponent of the least normal
ones. -/
def magnitude (bits : ℕ) : ℚ := significand bits * 2 ^ (max (exponent bits : ℤ) 1 - 1075)

/-- A zero of either sign. -/
def isZero (bits : ℕ) : Bool := significand bits == 0

/-- The magnitude rounds to the one of this bit pattern: to the nearest, and between two to the
one with an even fraction. -/
structure Nearest (x : ℚ) (bits : ℕ) : Prop where
  finite : isFinite bits = true
  bounded : x < 2 ^ 1024 - 2 ^ 970
  nearest : ∀ other, isFinite other = true → |x - magnitude bits| ≤ |x - magnitude other|
  even : ∀ other, isFinite other = true → |x - magnitude bits| = |x - magnitude other| →
    magnitude other = magnitude bits ∨ fraction bits % 2 = 0

variable {bits : ℕ}

theorem significand_lt (bits : ℕ) : significand bits < 2 ^ 53 := by
  have hfraction : fraction bits < 2 ^ 52 := Nat.mod_lt _ (by norm_num)
  unfold significand
  split
  · omega
  · omega

theorem exponent_le (h : isFinite bits = true) : exponent bits ≤ 2046 := by
  have hlt : exponent bits < 2 ^ 11 := Nat.mod_lt _ (by norm_num)
  have hne : exponent bits ≠ 2047 := by simpa [isFinite] using h
  omega

/-- The greatest finite number is below the numbers that overflow. -/
theorem magnitude_lt (h : isFinite bits = true) : magnitude bits < 2 ^ 1024 - 2 ^ 970 := by
  have hsignificand : (significand bits : ℚ) ≤ 2 ^ 53 - 1 := by
    have hle : significand bits + 1 ≤ 2 ^ 53 := significand_lt bits
    have hcast : (significand bits : ℚ) + 1 ≤ 2 ^ 53 := by exact_mod_cast hle
    linarith
  have hexponent : max (exponent bits : ℤ) 1 - 1075 ≤ 971 := by
    have hle := exponent_le h
    omega
  have hpower : (2 : ℚ) ^ (max (exponent bits : ℤ) 1 - 1075) ≤ 2 ^ (971 : ℤ) :=
    zpow_le_zpow_right₀ (by norm_num) hexponent
  calc magnitude bits ≤ (2 ^ 53 - 1) * 2 ^ (971 : ℤ) :=
        mul_le_mul hsignificand hpower (by positivity) (by norm_num)
    _ = (2 ^ 53 - 1) * 2 * 2 ^ 970 := by
        rw [show (971 : ℤ) = (970 : ℕ) + 1 from rfl, zpow_add_one₀ (by norm_num), zpow_natCast,
          mul_assoc, mul_comm 2]
    _ < (2 ^ 54 - 1) * 2 ^ 970 := mul_lt_mul_of_pos_right (by norm_num) (by positivity)
    _ = 2 ^ 1024 - 2 ^ 970 := by rw [sub_mul, one_mul, ← pow_add]

/-- A finite number rounds to itself. -/
theorem nearest_magnitude (h : isFinite bits = true) : Nearest (magnitude bits) bits where
  finite := h
  bounded := magnitude_lt h
  nearest other _ := by
    rw [sub_self, abs_zero]
    exact abs_nonneg _
  even other _ heq := by
    rw [sub_self, abs_zero] at heq
    exact .inl (sub_eq_zero.mp (abs_eq_zero.mp heq.symm)).symm

theorem magnitude_of_isZero (h : isZero bits = true) : magnitude bits = 0 := by
  rw [magnitude, beq_iff_eq.mp h, Nat.cast_zero, zero_mul]

theorem magnitude_nonneg (bits : ℕ) : 0 ≤ magnitude bits := by
  unfold magnitude
  positivity

/-- A multiple of a power of two is a fraction over a power of two. -/
theorem den_mul_zpow (m n k : ℕ) : ∃ j, ((m : ℚ) * 2 ^ ((n : ℤ) - k)).den = 2 ^ j := by
  have hdiv : (m : ℚ) * 2 ^ ((n : ℤ) - k) = Rat.divInt (m * 2 ^ n) (2 ^ k) := by
    rw [zpow_sub₀ (by norm_num), zpow_natCast, zpow_natCast, ← Rat.intCast_div_eq_divInt]
    push_cast
    ring
  have hden := Rat.den_dvd (m * 2 ^ n) (2 ^ k)
  rw [← hdiv] at hden
  have hdvd : ((m : ℚ) * 2 ^ ((n : ℤ) - k)).den ∣ 2 ^ k := by exact_mod_cast hden
  obtain ⟨j, -, hj⟩ := (Nat.dvd_prime_pow Nat.prime_two).mp hdvd
  exact ⟨j, hj⟩

theorem den_magnitude (bits : ℕ) : ∃ k, (magnitude bits).den = 2 ^ k := by
  have hcast : max (exponent bits : ℤ) 1 = (max (exponent bits) 1 : ℕ) := by omega
  rw [magnitude, hcast]
  exact den_mul_zpow _ _ 1075

end DatabaseSync.Binary64
