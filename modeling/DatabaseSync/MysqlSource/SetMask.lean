import DatabaseSync.Library.Bits
import DatabaseSync.Library.Machine
import DatabaseSync.Planner.LogicalType
import Mathlib.Data.Nat.Bitwise

/-! # The bitmasks of SET values

The bytes of a `SET` value are a number, lowest byte first, in which every bit stands for a declared
member. A shift by the width of the number or more is told apart from what is refused.
-/

namespace DatabaseSync.MysqlSource

open Bits Checked ChangeEvent Machine

/-! ## The decoder -/

/-- `<<` of `u64` -/
def shiftLeft64 (value shift : ℕ) : Except (Fault String) ℕ :=
  if shift < 64 then .ok ((value <<< shift) % 2 ^ 64) else .error .overflow

/-- The members from an index on whose bits are set. -/
def selectMembers (value : ℕ) : ℕ → List String → Except (Fault String) (List String)
  | _, [] => .ok []
  | index, member :: members => do
    let mask ← shiftLeft64 1 index
    let selected ← selectMembers value (index + 1) members
    return if value &&& mask ≠ 0 then member :: selected else selected

def decodeEnumSetOrdinal (logicalType : Planner.LogicalType) (value : ℕ) :
    Except (Fault String) LogicalValue :=
  match logicalType with
  | .enum members =>
    if value = 0 then refuse "ENUM ordinal is outside the declared label list"
    else do
      return .enum (← demand members[value - 1]? "ENUM ordinal is outside the declared label list")
  | .set members => do
    if members.length < 64 ∧ value >>> members.length ≠ 0 then
      refuse "SET bitmask contains a member outside the declared list"
    return .set (← selectMembers value 0 members)
  | _ => refuse "native type is not ENUM or SET"

/-- The number of the bytes from an index on, or'ed to a number. -/
def maskValue : List UInt8 → ℕ → ℕ → Except (Fault String) ℕ
  | [], _, value => .ok value
  | byte :: bytes, index, value => do
    maskValue bytes (index + 1) (value ||| (← shiftLeft64 byte.toNat (index * 8)))

def decodeSetBitmask (logicalType : Planner.LogicalType) (bytes : List UInt8) :
    Except (Fault String) LogicalValue :=
  if 64 < bytes.length then
    refuse "SET bitmask is wider than the portable 64-bit SET limit"
  else do decodeEnumSetOrdinal logicalType (← maskValue bytes 0 0)

/-! ## Members and bits -/

/-- The bit of the member at a position. -/
def setBit (bytes : List UInt8) (position : ℕ) : Bool := bitOf bytes (position / 8) (position % 8)

/-- The members whose bits are set, in their order. -/
def membersOfBits (bit : ℕ → Bool) (members : List String) : List String :=
  (members.zipIdx.filter fun member => bit member.2).map Prod.fst

/-- The members of the declaration whose bits are set are decoded, and nothing else is. -/
structure DecodesSet (members : List String) (bytes : List UInt8) : Prop where
  noOverflow : decodeSetBitmask (.set members) bytes ≠ .error .overflow
  accepts : (∃ value, decodeSetBitmask (.set members) bytes = .ok value) ↔
    ∀ position, setBit bytes position = true → position < members.length
  exact : ∀ value, decodeSetBitmask (.set members) bytes = .ok value →
    value = .set (membersOfBits (setBit bytes) members)

section Decoding

variable {members : List String} {bytes : List UInt8} {byte : UInt8} {value index position : ℕ}

theorem shiftLeft64_of_lt (h : position < 64) :
    shiftLeft64 value position = .ok ((value <<< position) % 2 ^ 64) := if_pos h

theorem shiftLeft64_of_le (h : 64 ≤ position) : shiftLeft64 value position = .error .overflow :=
  if_neg (by omega)

theorem and_shiftLeft_one (h : index < 64) :
    (value &&& (1 <<< index) % 2 ^ 64 ≠ 0) ↔ value.testBit index = true := by
  have hlt : 1 <<< index < 2 ^ 64 := by
    rw [Nat.one_shiftLeft]
    exact Nat.pow_lt_pow_right (by decide) h
  rw [Nat.mod_eq_of_lt hlt, Nat.one_shiftLeft, Nat.and_two_pow]
  cases value.testBit index with
  | true => simp
  | false => simp

/-- Every member is selected by its bit, unless the shift to the last one overflows. -/
theorem selectMembers_eq (value index : ℕ) (members : List String) (h : index ≤ 64) :
    selectMembers value index members =
      if index + members.length ≤ 64 then
        .ok (((members.zipIdx index).filter fun member => value.testBit member.2).map Prod.fst)
      else .error .overflow := by
  induction members generalizing index with
  | nil => exact (if_pos h).symm
  | cons member members ih =>
    rw [selectMembers, List.length_cons]
    rcases Nat.lt_or_ge index 64 with hlt | hge
    · rw [shiftLeft64_of_lt hlt, ok_bind, ih (index + 1) hlt, List.zipIdx_cons, List.filter_cons]
      have hlength : index + (members.length + 1) ≤ 64 ↔ index + 1 + members.length ≤ 64 := by
        omega
      simp only [hlength]
      split
      · rw [ok_bind, pure_eq]
        by_cases hbit : value.testBit index = true
        · rw [if_pos ((and_shiftLeft_one hlt).mpr hbit), if_pos hbit]
          rfl
        · rw [if_neg (fun hand => hbit ((and_shiftLeft_one hlt).mp hand)), if_neg hbit]
      · rfl
    · rw [shiftLeft64_of_le hge, if_neg (by omega)]
      rfl

theorem testBit_shift_byte (h : index + 1 ≤ 8) :
    ((byte.toNat <<< (index * 8)) % 2 ^ 64).testBit position =
      (decide (index * 8 ≤ position) && byte.toNat.testBit (position - index * 8)) := by
  have hbyte : byte.toNat < 2 ^ 8 := byte.toNat_lt
  have hlt : byte.toNat <<< (index * 8) < 2 ^ 64 := by
    rw [Nat.shiftLeft_eq]
    calc byte.toNat * 2 ^ (index * 8) < 2 ^ 8 * 2 ^ (index * 8) :=
          Nat.mul_lt_mul_of_pos_right hbyte (by positivity)
      _ = 2 ^ (8 + index * 8) := (pow_add 2 8 (index * 8)).symm
      _ ≤ 2 ^ 64 := Nat.pow_le_pow_right (by decide) (by omega)
  rw [Nat.mod_eq_of_lt hlt, Nat.testBit_shiftLeft]

/-- The first byte has the first eight bits. -/
theorem setBit_cons : setBit (byte :: bytes) position =
    (byte.toNat.testBit position || (decide (8 ≤ position) && setBit bytes (position - 8))) := by
  unfold setBit bitOf
  rcases Nat.lt_or_ge position 8 with hlt | hge
  · have hindex : position / 8 = 0 := by omega
    have hbit : position % 8 = position := by omega
    simp [hindex, hbit, Nat.not_le.mpr hlt]
  · obtain ⟨index, hindex⟩ : ∃ index, position / 8 = index + 1 := ⟨position / 8 - 1, by omega⟩
    have hnext : (position - 8) / 8 = index := by omega
    have hbit : (position - 8) % 8 = position % 8 := by omega
    rw [hindex, hnext, hbit, testBit_toNat_of_le hge]
    simp [hge]

/-- The bits of the bytes are or'ed to those of the number, at their places. -/
theorem testBit_maskValue (h : index + bytes.length ≤ 8) :
    ∃ result, maskValue bytes index value = .ok result ∧ ∀ position, result.testBit position =
      (value.testBit position || (decide (index * 8 ≤ position) &&
        setBit bytes (position - index * 8))) := by
  induction bytes generalizing index value with
  | nil =>
    refine ⟨value, rfl, fun position => ?_⟩
    simp [setBit, bitOf]
  | cons byte bytes ih =>
    rw [List.length_cons] at h
    obtain ⟨result, hresult, hbits⟩ :=
      @ih (value ||| (byte.toNat <<< (index * 8)) % 2 ^ 64) (index + 1) (by omega)
    refine ⟨result, ?_, fun position => ?_⟩
    · rw [maskValue, shiftLeft64_of_lt (by omega), ok_bind]
      exact hresult
    · rw [hbits position, Nat.testBit_or, testBit_shift_byte (by omega), setBit_cons]
      have hrest : position - (index + 1) * 8 = position - index * 8 - 8 := by omega
      rw [hrest]
      by_cases hplace : index * 8 ≤ position
      · have hnext : (index + 1) * 8 ≤ position ↔ 8 ≤ position - index * 8 := by omega
        simp only [hplace, hnext, decide_true, Bool.true_and, Bool.or_assoc]
      · have hnext : ¬ (index + 1) * 8 ≤ position := by omega
        simp only [hplace, hnext, decide_false, Bool.false_and, Bool.or_false]

theorem maskValue_overflow (h : 8 < index + bytes.length) (hindex : index ≤ 8) :
    maskValue bytes index value = .error .overflow := by
  induction bytes generalizing index value with
  | nil =>
    rw [List.length_nil] at h
    omega
  | cons byte bytes ih =>
    rw [List.length_cons] at h
    rw [maskValue]
    rcases Nat.lt_or_ge index 8 with hlt | hge
    · rw [shiftLeft64_of_lt (by omega), ok_bind]
      exact ih (by omega) hlt
    · rw [shiftLeft64_of_le (by omega)]
      rfl

/-- The number of at most eight bytes has their bits. -/
theorem maskValue_eq (h : bytes.length ≤ 8) :
    ∃ number, maskValue bytes 0 0 = .ok number ∧
      ∀ position, number.testBit position = setBit bytes position := by
  obtain ⟨number, hnumber, hbits⟩ := @testBit_maskValue bytes 0 0 (by omega)
  refine ⟨number, hnumber, fun position => ?_⟩
  simpa using hbits position

theorem shiftRight_ne_zero : value >>> index ≠ 0 ↔ ∃ position, index ≤ position ∧
    value.testBit position = true := by
  constructor
  · intro hne
    obtain ⟨bit, hbit⟩ := Nat.exists_testBit_of_ne_zero hne
    rw [Nat.testBit_shiftRight] at hbit
    exact ⟨index + bit, Nat.le_add_right _ _, hbit⟩
  · rintro ⟨position, hle, hbit⟩ hzero
    have hshift : (value >>> index).testBit (position - index) = true := by
      rw [Nat.testBit_shiftRight, Nat.add_sub_cancel' hle]
      exact hbit
    rw [hzero, Nat.zero_testBit] at hshift
    cases hshift

theorem setBit_lt (h : setBit bytes position = true) : position < bytes.length * 8 := by
  by_contra hge
  have hbyte : bytes.getD (position / 8) 0 = 0 := List.getD_eq_default _ _ (by omega)
  rw [setBit, bitOf, hbyte] at h
  simp at h

theorem decodeSetBitmask_of_le (h : bytes.length ≤ 64) : decodeSetBitmask (.set members) bytes =
    (maskValue bytes 0 0 >>= decodeEnumSetOrdinal (.set members)) := by
  rw [decodeSetBitmask, if_neg (by omega)]

/-- Where no undeclared bit is set, the members are selected by the bits. -/
theorem decodeSetBitmask_declared (hbytes : bytes.length ≤ 8) (hmembers : members.length ≤ 64)
    (h : ∀ position, setBit bytes position = true → position < members.length) :
    decodeSetBitmask (.set members) bytes =
      .ok (.set (membersOfBits (setBit bytes) members)) := by
  obtain ⟨number, hnumber, hbits⟩ := maskValue_eq hbytes
  have hdeclared : number >>> members.length = 0 := by
    by_contra hne
    obtain ⟨position, hle, hbit⟩ := shiftRight_ne_zero.mp hne
    rw [hbits] at hbit
    have hlt := h position hbit
    omega
  have hselected : membersOfBits (setBit bytes) members =
      (members.zipIdx.filter fun member => number.testBit member.2).map Prod.fst := by
    simp only [membersOfBits, hbits]
  rw [decodeSetBitmask_of_le (by omega), hnumber, ok_bind, decodeEnumSetOrdinal,
    if_neg (fun hrefused => hrefused.2 hdeclared), selectMembers_eq number 0 members (by decide),
    if_pos (by omega), hselected]
  rfl

theorem decodeSetBitmask_undeclared (hbytes : bytes.length ≤ 8) (hmembers : members.length ≤ 64)
    (hbit : setBit bytes position = true) (hposition : members.length ≤ position) :
    decodeSetBitmask (.set members) bytes =
      refuse "SET bitmask contains a member outside the declared list" := by
  obtain ⟨number, hnumber, hbits⟩ := maskValue_eq hbytes
  have hlt := setBit_lt hbit
  have hrefused : members.length < 64 ∧ number >>> members.length ≠ 0 := by
    refine ⟨by omega, shiftRight_ne_zero.mpr ⟨position, hposition, ?_⟩⟩
    rw [hbits]
    exact hbit
  rw [decodeSetBitmask_of_le (by omega), hnumber, ok_bind, decodeEnumSetOrdinal, if_pos hrefused]
  rfl

theorem decodeSetBitmask_overflow (hbytes : bytes.length ≤ 64)
    (h : 8 < bytes.length ∨ 64 < members.length) :
    decodeSetBitmask (.set members) bytes = .error .overflow := by
  rw [decodeSetBitmask_of_le hbytes]
  rcases Nat.lt_or_ge 8 bytes.length with hlong | hshort
  · rw [maskValue_overflow (by omega) (by decide)]
    rfl
  · obtain ⟨number, hnumber, -⟩ := maskValue_eq hshort
    have hmany : 64 < members.length := by omega
    rw [hnumber, ok_bind, decodeEnumSetOrdinal, if_neg (by omega),
      selectMembers_eq number 0 members (by decide), if_neg (by omega)]
    rfl

theorem decodeSetBitmask_wide (h : 64 < bytes.length) : decodeSetBitmask (.set members) bytes =
    refuse "SET bitmask is wider than the portable 64-bit SET limit" := if_pos h

/-- Up to eight bytes and 64 members are decoded exactly. Of all other inputs only those are treated
as they should be whose bytes are too many to be looked at and have an undeclared bit. -/
theorem decodesSet_iff (members : List String) (bytes : List UInt8) :
    DecodesSet members bytes ↔
      (bytes.length ≤ 8 ∧ members.length ≤ 64) ∨
        (64 < bytes.length ∧ ∃ position, setBit bytes position = true ∧
          members.length ≤ position) := by
  constructor
  · rintro ⟨hoverflow, haccepts, -⟩
    rcases Nat.lt_or_ge 64 bytes.length with hwide | hnarrow
    · right
      refine ⟨hwide, ?_⟩
      by_contra hnone
      push Not at hnone
      obtain ⟨value, hvalue⟩ := haccepts.mpr hnone
      rw [decodeSetBitmask_wide hwide] at hvalue
      cases hvalue
    · left
      by_contra hlong
      exact hoverflow (decodeSetBitmask_overflow hnarrow (by omega))
  · rintro (⟨hbytes, hmembers⟩ | ⟨hwide, position, hbit, hposition⟩)
    · by_cases hdeclared : ∀ position, setBit bytes position = true → position < members.length
      · have hdecoded := decodeSetBitmask_declared hbytes hmembers hdeclared
        refine ⟨?_, ?_, ?_⟩
        · rw [hdecoded]
          rintro ⟨⟩
        · exact iff_of_true ⟨_, hdecoded⟩ hdeclared
        · intro value hvalue
          rw [hdecoded] at hvalue
          exact (Except.ok.inj hvalue).symm
      · have hundeclared := hdeclared
        push Not at hundeclared
        obtain ⟨position, hbit, hposition⟩ := hundeclared
        have hrefused := decodeSetBitmask_undeclared hbytes hmembers hbit hposition
        refine ⟨?_, ?_, ?_⟩
        · rw [hrefused]
          rintro ⟨⟩
        · refine iff_of_false ?_ hdeclared
          rintro ⟨value, hvalue⟩
          rw [hrefused] at hvalue
          cases hvalue
        · intro value hvalue
          rw [hrefused] at hvalue
          cases hvalue
    · have hrefused := @decodeSetBitmask_wide members bytes hwide
      refine ⟨?_, ?_, ?_⟩
      · rw [hrefused]
        rintro ⟨⟩
      · refine iff_of_false ?_ (fun hdeclared => ?_)
        · rintro ⟨value, hvalue⟩
          rw [hrefused] at hvalue
          cases hvalue
        · exact absurd (hdeclared position hbit) (by omega)
      · intro value hvalue
        rw [hrefused] at hvalue
        cases hvalue

/-- A ninth byte is shifted by 64, even if no bit of it is set. -/
theorem ninth_byte_overflows :
    ¬ DecodesSet ["a", "b"] [1, 0, 0, 0, 0, 0, 0, 0, 0] := by
  rintro ⟨hoverflow, -, -⟩
  exact hoverflow (decodeSetBitmask_overflow (by decide) (.inl (by decide)))

example : decodeSetBitmask (.set ["a", "b,c", "d"]) [5] = .ok (.set ["a", "d"]) := rfl

end Decoding

end DatabaseSync.MysqlSource
