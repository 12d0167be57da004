import DatabaseSync.ChangeEvent.BitConversion
import DatabaseSync.MysqlSource.BitValue

/-! # The bits of BIT values

The server stores the bytes of a `BIT` value from the highest to the lowest, so that the bits that
do not count are in the first byte. The decoder declares them in the last byte, from the lowest bit
on.
-/

namespace DatabaseSync.MysqlSource

open Bits ChangeEvent Checked

/-- The bytes that the server stores for the number of a `BIT` value. -/
def storedBits (bitLength value : ℕ) : List UInt8 := toBytes ((bitLength + 7) / 8) value

/-- The bit at a position of a bit string, in the order that it declares. -/
def logicalBit (value : LogicalValue) (position : ℕ) : Option Bool :=
  value.bits.bind fun layout =>
    if position < layout.bitLength then some (layout.bit position) else none

/-- The position of a bit of the number. The bits of the lowest byte that have none of their own are
clear in every valid value, as the bits that do not count in the first byte are. -/
def bitPosition (bitLength bit : ℕ) : ℕ :=
  let position := 8 * ((bitLength + 7) / 8 - 1 - bit / 8) + bit % 8
  if position < bitLength then position else bit

/-- The decoded value is valid and has every bit of the number at its position. -/
def KeepsNumber (library : ValidationLibrary) (bitLength value : ℕ) : Prop :=
  ∃ decoded, decodeBit ("bit(" ++ toString bitLength ++ ")") (storedBits bitLength value) =
      .ok decoded ∧
    logicalValue library decoded = .ok () ∧
    ∀ bit < bitLength, logicalBit decoded (bitPosition bitLength bit) = some (value.testBit bit)

section

variable {library : ValidationLibrary} {bitLength value bit position : ℕ}

theorem length_storedBits : (storedBits bitLength value).length = (bitLength + 7) / 8 :=
  length_toBytes

theorem bitPosition_lt (hbit : bit < bitLength) : bitPosition bitLength bit < bitLength := by
  unfold bitPosition
  dsimp only
  split
  · assumption
  · exact hbit

/-- Different bits have different positions. -/
theorem bitPosition_injective {other : ℕ} (hbit : bit < bitLength) (hother : other < bitLength)
    (h : bitPosition bitLength bit = bitPosition bitLength other) : bit = other := by
  unfold bitPosition at h
  dsimp only at h
  split at h <;> split at h <;> omega

/-- The bit that the stored bytes have at a position. -/
theorem readBit_storedBits (hposition : position < 8 * ((bitLength + 7) / 8)) :
    readBit (storedBits bitLength value) .lsbFirst position =
      value.testBit (8 * ((bitLength + 7) / 8 - 1 - position / 8) + position % 8) := by
  rw [readBit_eq, BitOrder.offset, storedBits,
    bitOf_toBytes (by omega) (Nat.mod_lt _ (by decide))]

/-- A byte whose bits from one on are clear. -/
theorem lowByte_lt_iff {r : ℕ} :
    value % 256 < 2 ^ r ↔ ∀ q, r ≤ q → q < 8 → value.testBit q = false := by
  have hbyte : value % 256 = value % 2 ^ 8 := rfl
  rw [hbyte]
  constructor
  · intro hlt q hle hq
    have hclear :=
      Nat.testBit_lt_two_pow (lt_of_lt_of_le hlt (Nat.pow_le_pow_right (by decide) hle))
    rw [Nat.testBit_mod_two_pow, decide_eq_true hq, Bool.true_and] at hclear
    exact hclear
  · intro hclear
    apply Nat.lt_pow_two_of_testBit
    intro q hle
    rw [Nat.testBit_mod_two_pow]
    by_cases hq : q < 8
    · rw [hclear q hle hq, Bool.and_false]
    · rw [decide_eq_false hq, Bool.false_and]

/-- The bytes are valid when the bits of the lowest byte count, as many as the length leaves
over. -/
theorem wellFormed_storedBits (hpos : 1 ≤ bitLength) :
    BitLayout.WellFormed ⟨storedBits bitLength value, bitLength, zeroPadding bitLength, .lsbFirst⟩ ↔
      bitLength % 8 = 0 ∨ value % 256 < 2 ^ (bitLength % 8) := by
  have hfiller : (zeroPadding bitLength).filler = false := by
    unfold zeroPadding
    split <;> rfl
  rw [lowByte_lt_iff]
  constructor
  · intro hwell
    by_cases haligned : bitLength % 8 = 0
    · exact .inl haligned
    · refine .inr fun q hle hq => ?_
      have hplace : 8 * ((bitLength + 7) / 8 - 1) + q < 8 * ((bitLength + 7) / 8) := by omega
      have hclear := hwell.filler (8 * ((bitLength + 7) / 8 - 1) + q)
        (by change bitLength ≤ _; omega) (by rw [length_storedBits]; omega)
      rw [hfiller, BitLayout.bit, readBit_storedBits hplace] at hclear
      rw [← hclear]
      congr 1
      omega
  · intro hcondition
    refine ⟨hpos, length_storedBits, ?_, ?_⟩
    · change zeroPadding bitLength = .none ↔ bitLength % 8 = 0
      unfold zeroPadding
      split <;> simp_all
    · intro position hle hlt
      change bitLength ≤ position at hle
      rw [length_storedBits] at hlt
      rw [hfiller, BitLayout.bit, readBit_storedBits hlt]
      rcases hcondition with haligned | hclear
      · omega
      · have hplace : 8 * ((bitLength + 7) / 8 - 1 - position / 8) + position % 8 =
            position % 8 := by
          omega
        rw [hplace]
        exact hclear _ (by omega) (by omega)

/-- Every bit of the number is found at its position. -/
theorem readBit_bitPosition (hvalue : value < 2 ^ bitLength) (hbit : bit < bitLength)
    (hcondition : bitLength % 8 = 0 ∨ value % 256 < 2 ^ (bitLength % 8)) :
    readBit (storedBits bitLength value) .lsbFirst (bitPosition bitLength bit) =
      value.testBit bit := by
  have hlt := bitPosition_lt hbit
  rw [readBit_storedBits (by omega), bitPosition]
  by_cases hown : 8 * ((bitLength + 7) / 8 - 1 - bit / 8) + bit % 8 < bitLength
  · rw [if_pos hown]
    congr 1
    omega
  · rw [if_neg hown]
    -- Only bits of the lowest byte have no position of their own.
    have hlow : bit / 8 = 0 := by omega
    rcases hcondition with haligned | hclear
    · omega
    · rw [lowByte_lt_iff.mp hclear bit (by omega) (by omega)]
      apply Nat.testBit_lt_two_pow
      apply lt_of_lt_of_le hvalue
      exact Nat.pow_le_pow_right (by decide) (by omega)

/-- A `BIT` value passes when its length leaves no bits over, or the lowest byte has no more bits
than the length leaves over. -/
theorem keepsNumber_iff (hpos : 1 ≤ bitLength) (hle : bitLength ≤ 64)
    (hvalue : value < 2 ^ bitLength) :
    KeepsNumber library bitLength value ↔
      bitLength % 8 = 0 ∨ value % 256 < 2 ^ (bitLength % 8) := by
  have hdecode : decodeBit ("bit(" ++ toString bitLength ++ ")") (storedBits bitLength value) =
      .ok (.bitString (Base64.encode (storedBits bitLength value)) bitLength
        (zeroPadding bitLength) .lsbFirst) := by
    rw [decodeBit, nativeBitLength_declared hpos hle]
    rfl
  have hbits : (LogicalValue.bitString (Base64.encode (storedBits bitLength value)) bitLength
      (zeroPadding bitLength) .lsbFirst).bits =
      some ⟨storedBits bitLength value, bitLength, zeroPadding bitLength, .lsbFirst⟩ := by
    rw [LogicalValue.bits, Base64.decode_encode]
    rfl
  have hvalid := valid_iff_wellFormed library hbits
  rw [wellFormed_storedBits hpos] at hvalid
  constructor
  · rintro ⟨decoded, hdecoded, hok, -⟩
    obtain rfl := Except.ok.inj (hdecode.symm.trans hdecoded)
    exact hvalid.mp hok
  · intro hcondition
    refine ⟨_, hdecode, hvalid.mpr hcondition, fun bit hbit => ?_⟩
    rw [logicalBit, hbits, Option.bind_some, if_pos (bitPosition_lt hbit), BitLayout.bit,
      readBit_bitPosition hvalue hbit hcondition]

theorem keepsNumber_nine_bits : KeepsNumber plainValidation 9 257 ↔
    9 % 8 = 0 ∨ 257 % 256 < 2 ^ (9 % 8) :=
  keepsNumber_iff (by decide) (by decide) (by decide)

/-- The logical bits determine the number. -/
theorem eq_of_logicalBit {other : ℕ} {decoded : LogicalValue} (hvalue : value < 2 ^ bitLength)
    (hother : other < 2 ^ bitLength)
    (h : ∀ bit < bitLength,
      logicalBit decoded (bitPosition bitLength bit) = some (value.testBit bit))
    (h' : ∀ bit < bitLength,
      logicalBit decoded (bitPosition bitLength bit) = some (other.testBit bit)) :
    value = other := by
  apply Nat.eq_of_testBit_eq
  intro bit
  by_cases hbit : bit < bitLength
  · exact Option.some.inj ((h bit hbit).symm.trans (h' bit hbit))
  · have hle : 2 ^ bitLength ≤ 2 ^ bit := Nat.pow_le_pow_right (by decide) (not_lt.mp hbit)
    rw [Nat.testBit_lt_two_pow (lt_of_lt_of_le hvalue hle),
      Nat.testBit_lt_two_pow (lt_of_lt_of_le hother hle)]

end

/-- The number 2 of a `BIT(9)` column is refused. -/
theorem nine_bits_refused :
    decodeBit "bit(9)" (storedBits 9 2) = .ok (.bitString "AAI" 9 .zero .lsbFirst) ∧
      logicalValue plainValidation (.bitString "AAI" 9 .zero .lsbFirst) =
        .error "bit string padding bits are invalid" ∧
      ¬ KeepsNumber plainValidation 9 2 := by
  refine ⟨rfl, rfl, ?_⟩
  rintro ⟨decoded, hdecoded, hok, -⟩
  obtain rfl := Except.ok.inj hdecoded
  cases hok

end DatabaseSync.MysqlSource
