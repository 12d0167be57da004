import Mathlib.Algebra.Ring.Nat
import Mathlib.Data.List.GetD
import Mathlib.Data.List.Induction

/-! # Numbers, binary digits and bytes

Digits and bytes are written from the highest to the lowest. A place in a list of bytes is the
index of a byte and the number of a bit in it, where the bit 0 is the lowest.
-/

namespace DatabaseSync.Bits

/-- The number with the given binary digits. -/
def ofDigits (digits : List Bool) : ℕ := digits.foldl (fun n digit => 2 * n + digit.toNat) 0

/-- The number with the given bytes. -/
def ofBytes (bytes : List UInt8) : ℕ := bytes.foldl (fun n byte => 256 * n + byte.toNat) 0

/-- The lowest `size` bytes of a number. -/
def toBytes : ℕ → ℕ → List UInt8
  | 0, _ => []
  | size + 1, n => toBytes size (n / 256) ++ [UInt8.ofNat n]

/-- A bit of one of the bytes. -/
def bitOf (bytes : List UInt8) (index bit : ℕ) : Bool := (bytes.getD index 0).toNat.testBit bit

variable {bytes : List UInt8} {digits : List Bool} {size n index bit j : ℕ}

@[simp]
theorem ofDigits_concat (digit : Bool) :
    ofDigits (digits ++ [digit]) = 2 * ofDigits digits + digit.toNat := by
  simp [ofDigits]

@[simp]
theorem ofBytes_concat (byte : UInt8) :
    ofBytes (bytes ++ [byte]) = 256 * ofBytes bytes + byte.toNat := by
  simp [ofBytes]

@[simp]
theorem length_toBytes : (toBytes size n).length = size := by
  induction size generalizing n with
  | zero => rfl
  | succ size ih => simp [toBytes, ih]

theorem testBit_toNat_of_le {byte : UInt8} (h : 8 ≤ bit) : byte.toNat.testBit bit = false := by
  apply Nat.testBit_lt_two_pow
  calc byte.toNat < 2 ^ 8 := byte.toNat_lt
    _ ≤ 2 ^ bit := Nat.pow_le_pow_right (by decide) h

/-! ## The bits of a number -/

/-- The digits of a number are its bits. -/
theorem testBit_ofDigits : (ofDigits digits).testBit j = digits.reverse.getD j false := by
  induction digits using List.reverseRecOn generalizing j with
  | nil => simp [ofDigits]
  | append_singleton digits digit ih =>
    rw [ofDigits_concat, List.reverse_append]
    cases j with
    | zero => cases digit <;> simp [Nat.testBit_zero]
    | succ j =>
      have hhalf : (2 * ofDigits digits + digit.toNat) / 2 = ofDigits digits := by
        have := digit.toNat_lt
        omega
      rw [Nat.testBit_succ, hhalf, ih]
      simp

/-- The bits of a byte and those of the bytes above it. -/
theorem testBit_byte (byte : UInt8) :
    (256 * n + byte.toNat).testBit j =
      if j < 8 then byte.toNat.testBit j else n.testBit (j - 8) := by
  have h := Nat.testBit_two_pow_mul_add n (i := 8) (b := byte.toNat) byte.toNat_lt j
  simpa using h

theorem testBit_ofBytes (hindex : index < bytes.length) (hbit : bit < 8) :
    (ofBytes bytes).testBit (8 * (bytes.length - 1 - index) + bit) = bitOf bytes index bit := by
  induction bytes using List.reverseRecOn with
  | nil => simp at hindex
  | append_singleton bytes byte ih =>
    rw [ofBytes_concat, testBit_byte]
    simp only [List.length_append, List.length_singleton] at hindex ⊢
    rcases Nat.lt_succ_iff_lt_or_eq.mp hindex with hlt | rfl
    · have hsub : 8 * (bytes.length + 1 - 1 - index) + bit - 8 =
          8 * (bytes.length - 1 - index) + bit := by omega
      rw [if_neg (by omega), hsub, ih hlt, bitOf, bitOf, List.getD_append _ _ _ _ hlt]
    · have hsub : 8 * (bytes.length + 1 - 1 - bytes.length) + bit = bit := by omega
      rw [hsub, if_pos hbit]
      simp [bitOf]

theorem bitOf_toBytes (hindex : index < size) (hbit : bit < 8) :
    bitOf (toBytes size n) index bit = n.testBit (8 * (size - 1 - index) + bit) := by
  induction size generalizing n with
  | zero => omega
  | succ size ih =>
    rw [toBytes, bitOf]
    rcases Nat.lt_succ_iff_lt_or_eq.mp hindex with hlt | rfl
    · have hsub : 8 * (size + 1 - 1 - index) + bit = 8 * (size - 1 - index) + bit + 8 := by omega
      rw [List.getD_append _ _ _ _ (by simpa using hlt), ← bitOf, ih hlt, hsub,
        Nat.testBit_add n _ 8]
    · have hsub : 8 * (index + 1 - 1 - index) + bit = bit := by omega
      have hget : (toBytes index (n / 256) ++ [UInt8.ofNat n]).getD index 0 = UInt8.ofNat n := by
        simp
      rw [hget, hsub, UInt8.toNat_ofNat', Nat.testBit_mod_two_pow]
      simp [hbit]

theorem ofBytes_lt : ofBytes bytes < 2 ^ (8 * bytes.length) := by
  induction bytes using List.reverseRecOn with
  | nil => simp [ofBytes]
  | append_singleton bytes byte ih =>
    have hbyte : byte.toNat < 256 := byte.toNat_lt
    rw [ofBytes_concat, List.length_append, List.length_singleton, Nat.mul_add, Nat.pow_add]
    omega

theorem ofDigits_lt : ofDigits digits < 2 ^ digits.length := by
  induction digits using List.reverseRecOn with
  | nil => simp [ofDigits]
  | append_singleton digits digit ih =>
    have hdigit := digit.toNat_lt
    rw [ofDigits_concat, List.length_append, List.length_singleton, Nat.pow_succ]
    omega

/-- Bytes and a number agree when all bits of the bytes do. -/
theorem ofBytes_eq_iff (hn : n < 2 ^ (8 * bytes.length)) :
    ofBytes bytes = n ↔ ∀ index < bytes.length, ∀ bit < 8,
      bitOf bytes index bit = n.testBit (8 * (bytes.length - 1 - index) + bit) := by
  constructor
  · rintro rfl index hindex bit hbit
    exact (testBit_ofBytes hindex hbit).symm
  · intro h
    apply Nat.eq_of_testBit_eq
    intro j
    by_cases hj : j < 8 * bytes.length
    · have hindex : bytes.length - 1 - j / 8 < bytes.length := by omega
      have hplace : 8 * (bytes.length - 1 - (bytes.length - 1 - j / 8)) + j % 8 = j := by omega
      have hbit := testBit_ofBytes hindex (Nat.mod_lt j (by decide : 8 > 0))
      rw [h _ hindex _ (Nat.mod_lt j (by decide)), hplace] at hbit
      exact hbit
    · have hle : 2 ^ (8 * bytes.length) ≤ 2 ^ j :=
        Nat.pow_le_pow_right (by decide) (Nat.le_of_not_lt hj)
      rw [Nat.testBit_lt_two_pow (lt_of_lt_of_le ofBytes_lt hle),
        Nat.testBit_lt_two_pow (lt_of_lt_of_le hn hle)]

end DatabaseSync.Bits
