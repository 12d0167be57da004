import DatabaseSync.ChangeEvent.Plan
import DatabaseSync.ChangeEvent.Validate
import DatabaseSync.Library.Bits
import DatabaseSync.Library.Machine

/-! # Bit strings under a plan

A bit string is a list of bytes with a number of bits that count. The bit order says how the
positions of the bit string run within each byte. A plan checks the layout of the source and
writes the bits again in the layout of the target. The converter indexes the bytes by position;
only the check before it keeps the index inside them.
-/

namespace DatabaseSync.ChangeEvent

open Bits Checked Machine Text

/-! ## Positions -/

/-- The bit of its byte that a position stands for. -/
def BitOrder.offset : BitOrder → ℕ → ℕ
  | .msbFirst, position => 7 - position % 8
  | .lsbFirst, position => position % 8

def bitMask (order : BitOrder) (position : ℕ) : UInt8 := UInt8.ofNat (2 ^ order.offset position)

/-- The bit at a position; positions after the last byte are clear. -/
def readBit (bytes : List UInt8) (order : BitOrder) (position : ℕ) : Bool :=
  bytes.getD (position / 8) 0 &&& bitMask order position != 0

/-- The bit at a position set. -/
def writeBit (bytes : List UInt8) (order : BitOrder) (position : ℕ) : List UInt8 :=
  bytes.modify (position / 8) (· ||| bitMask order position)

/-- Write the bits that are set, from the first position on. -/
def writeBits (bytes : List UInt8) (order : BitOrder) (bit : ℕ → Bool) (bitLength : ℕ) :
    List UInt8 :=
  (List.range bitLength).foldl
    (fun bytes position => if bit position then writeBit bytes order position else bytes) bytes

/-- `if source[position / 8] & source_mask != 0 { target[position / 8] |= target_mask }` -/
def copyBit {ε : Type} (source : List UInt8) (sourceOrder targetOrder : BitOrder)
    (target : List UInt8) (position : ℕ) : Except (Fault ε) (List UInt8) := do
  let byte ← elementAt source (position / 8)
  if byte &&& bitMask sourceOrder position != 0 then
    let written ← elementAt target (position / 8)
    return target.set (position / 8) (written ||| bitMask targetOrder position)
  else return target

/-- The loop of the converter over the positions. -/
def copyBits {ε : Type} (source : List UInt8) (sourceOrder targetOrder : BitOrder)
    (bitLength : ℕ) : Except (Fault ε) (List UInt8) :=
  (List.range bitLength).foldlM (copyBit source sourceOrder targetOrder)
    (List.replicate source.length 0)

section Positions

variable {bytes : List UInt8} {order : BitOrder} {bit : ℕ → Bool} {position p q n : ℕ}

theorem BitOrder.offset_lt : order.offset position < 8 := by
  cases order
  · simp only [offset]
    omega
  · simp only [offset]
    omega

/-- Two positions of one byte are different bits. -/
theorem BitOrder.offset_injective (hbyte : p / 8 = q / 8) (h : order.offset p = order.offset q) :
    p = q := by
  cases order
  · simp only [offset] at h
    omega
  · simp only [offset] at h
    omega

/-- Every bit of a byte has its position. -/
theorem BitOrder.exists_position (order : BitOrder) (index : ℕ) {b : ℕ} (hb : b < 8) :
    ∃ p, p / 8 = index ∧ order.offset p = b := by
  cases order
  · refine ⟨8 * index + (7 - b), ?_, ?_⟩
    · omega
    · simp only [offset]
      omega
  · refine ⟨8 * index + b, ?_, ?_⟩
    · omega
    · simp only [offset]
      omega

theorem testBit_bitMask {b : ℕ} :
    (bitMask order position).toNat.testBit b = decide (order.offset position = b) := by
  have hlt : 2 ^ order.offset position < 2 ^ 8 :=
    Nat.pow_lt_pow_right (by decide) BitOrder.offset_lt
  rw [bitMask, UInt8.toNat_ofNat', Nat.mod_eq_of_lt hlt, Nat.testBit_two_pow]

theorem uint8_ne_zero_iff {a : UInt8} : a ≠ 0 ↔ ∃ b, a.toNat.testBit b = true := by
  constructor
  · intro h
    apply Nat.exists_testBit_of_ne_zero
    intro hzero
    exact h (UInt8.toNat_inj.mp hzero)
  · rintro ⟨b, hb⟩ rfl
    simp at hb

theorem readBit_eq : readBit bytes order position =
    bitOf bytes (position / 8) (order.offset position) := by
  rw [Bool.eq_iff_iff, readBit, bne_iff_ne, uint8_ne_zero_iff, bitOf]
  simp only [UInt8.toNat_and, Nat.testBit_and, testBit_bitMask, Bool.and_eq_true,
    decide_eq_true_eq]
  constructor
  · rintro ⟨b, hb, rfl⟩
    exact hb
  · intro h
    exact ⟨_, h, rfl⟩

@[simp]
theorem length_writeBit : (writeBit bytes order position).length = bytes.length := by
  simp [writeBit]

/-- Writing a bit sets its position and no other. -/
theorem readBit_writeBit (hp : p / 8 < bytes.length) :
    readBit (writeBit bytes order q) order p = (readBit bytes order p || decide (p = q)) := by
  rw [readBit_eq, readBit_eq, bitOf, bitOf, writeBit, List.getD_eq_getElem?_getD,
    List.getElem?_modify, List.getD_eq_getElem?_getD, List.getElem?_eq_getElem hp]
  by_cases hbyte : q / 8 = p / 8
  · have hsame : (order.offset q = order.offset p) ↔ p = q :=
      ⟨fun h => (BitOrder.offset_injective hbyte h).symm, fun h => by rw [h]⟩
    simp [hbyte, testBit_bitMask, hsame]
  · have hne : p ≠ q := fun h => hbyte (by rw [h])
    simp [hbyte, hne]

theorem writeBits_succ : writeBits bytes order bit (n + 1) =
    if bit n then writeBit (writeBits bytes order bit n) order n
    else writeBits bytes order bit n := by
  rw [writeBits, List.range_succ, List.foldl_append]
  rfl

@[simp]
theorem length_writeBits : (writeBits bytes order bit n).length = bytes.length := by
  induction n with
  | zero => rfl
  | succ n ih =>
    rw [writeBits_succ]
    split
    · rw [length_writeBit, ih]
    · exact ih

/-- What is read after the bits have been written. -/
theorem readBit_writeBits (hp : p / 8 < bytes.length) :
    readBit (writeBits bytes order bit n) order p =
      (readBit bytes order p || (decide (p < n) && bit p)) := by
  induction n with
  | zero => simp [writeBits]
  | succ n ih =>
    rw [writeBits_succ]
    by_cases hbit : bit n = true
    · rw [if_pos hbit, readBit_writeBit (by simpa using hp), ih]
      rcases Nat.lt_trichotomy p n with hlt | rfl | hgt
      · have hne : p ≠ n := by omega
        simp [hlt, hne, Nat.lt_succ_of_lt hlt]
      · simp [hbit]
      · have hne : p ≠ n := by omega
        have hnot : ¬ p < n := by omega
        have hnot' : ¬ p < n + 1 := by omega
        simp [hne, hnot, hnot']
    · rw [if_neg hbit, ih]
      rcases Nat.lt_trichotomy p n with hlt | rfl | hgt
      · simp [hlt, Nat.lt_succ_of_lt hlt]
      · simp [hbit]
      · have hnot : ¬ p < n := by omega
        have hnot' : ¬ p < n + 1 := by omega
        simp [hnot, hnot']

theorem readBit_replicate : readBit (List.replicate n 0) order p = false := by
  have hzero : (List.replicate n (0 : UInt8)).getD (p / 8) 0 = 0 := by
    rw [List.getD_eq_getElem?_getD, List.getElem?_replicate]
    split
    · rfl
    · rfl
  rw [readBit_eq, bitOf, hzero]
  simp

/-- A position of a byte that is there is copied; there is no byte at the others. -/
theorem copyBit_eq {ε : Type} {source : List UInt8} {sourceOrder targetOrder : BitOrder}
    (hlength : bytes.length = source.length) :
    (copyBit source sourceOrder targetOrder bytes p : Except (Fault ε) (List UInt8)) =
      if p / 8 < source.length then
        .ok (if readBit source sourceOrder p then writeBit bytes targetOrder p else bytes)
      else .error .outOfBounds := by
  unfold copyBit
  by_cases hp : p / 8 < source.length
  · have hp' : p / 8 < bytes.length := hlength ▸ hp
    have hbyte : source.getD (p / 8) 0 = source[p / 8] := by
      rw [List.getD_eq_getElem?_getD, List.getElem?_eq_getElem hp, Option.getD_some]
    rw [if_pos hp, elementAt_of_lt hp, ok_bind, readBit, hbyte]
    split
    · rw [elementAt_of_lt hp', ok_bind, writeBit, List.modify_eq_set,
        List.getElem?_eq_getElem hp']
      rfl
    · rfl
  · rw [if_neg hp, elementAt_of_le (not_lt.mp hp), error_bind]

/-- The loop writes the bits of the source, if there is a byte for every position. -/
theorem copyBits_eq {ε : Type} {source : List UInt8} {sourceOrder targetOrder : BitOrder} :
    (copyBits source sourceOrder targetOrder n : Except (Fault ε) (List UInt8)) =
      if n ≤ 8 * source.length then
        .ok (writeBits (List.replicate source.length 0) targetOrder (readBit source sourceOrder) n)
      else .error .outOfBounds := by
  induction n with
  | zero => rfl
  | succ n ih =>
    unfold copyBits at ih ⊢
    rw [List.range_succ, List.foldlM_append, ih]
    split
    · next hn =>
      rw [ok_bind, List.foldlM_cons, copyBit_eq (by simp), ← writeBits_succ]
      by_cases hp : n / 8 < source.length
      · rw [if_pos hp, if_pos (by omega)]
        rfl
      · rw [if_neg hp, if_neg (by omega)]
        rfl
    · next hn =>
      rw [if_neg (by omega)]
      rfl

end Positions

/-! ## Padding -/

section Padding

variable {bytes : List UInt8} {order : BitOrder} {n : ℕ}

/-- The mask covers the positions from the length on. -/
theorem testBit_paddingMask {position : ℕ} (hn : n % 8 ≠ 0) :
    (paddingMask order (unusedBits n)).toNat.testBit (order.offset position) =
      decide (n % 8 ≤ position % 8) := by
  have hmask : ∀ order : BitOrder, ∀ m < 8, m ≠ 0 → ∀ r < 8,
      (paddingMask order ((8 - m) % 8)).toNat.testBit (order.offset r) = decide (m ≤ r) := by
    rintro (_ | _)
    · decide
    · decide
  have hoffset : order.offset position = order.offset (position % 8) := by
    cases order <;> simp [BitOrder.offset]
  rw [unusedBits, hoffset]
  exact hmask order _ (Nat.mod_lt _ (by decide)) hn _ (Nat.mod_lt _ (by decide))

/-- The unused bits of the last byte are clear when every position from the length on is. -/
theorem padding_clear_iff (hlength : bytes.length = (n + 7) / 8) (hn : n % 8 ≠ 0) :
    (bytes.getLast?.getD 0) &&& paddingMask order (unusedBits n) = 0 ↔
      ∀ position, n ≤ position → position < 8 * bytes.length →
        readBit bytes order position = false := by
  have hlast : bytes.getLast?.getD 0 = bytes.getD (n / 8) 0 := by
    have hindex : bytes.length - 1 = n / 8 := by omega
    rw [List.getLast?_eq_getElem?, hindex, List.getD_eq_getElem?_getD]
  rw [hlast, ← not_iff_not, ← ne_eq, uint8_ne_zero_iff]
  push Not
  constructor
  · rintro ⟨b, hb⟩
    rw [UInt8.toNat_and, Nat.testBit_and, Bool.and_eq_true] at hb
    have hb8 : b < 8 := by
      by_contra hle
      rw [testBit_toNat_of_le (not_lt.mp hle)] at hb
      cases hb.1
    obtain ⟨p, hp, rfl⟩ := order.exists_position (n / 8) hb8
    rw [testBit_paddingMask hn, decide_eq_true_eq] at hb
    refine ⟨p, by omega, by omega, ?_⟩
    rw [readBit_eq, bitOf, hp, hb.1]
    exact Bool.noConfusion
  · rintro ⟨p, hle, hlt, hbit⟩
    have hp : p / 8 = n / 8 := by omega
    refine ⟨order.offset p, ?_⟩
    rw [readBit_eq, bitOf, hp, Bool.ne_false_iff] at hbit
    rw [UInt8.toNat_and, Nat.testBit_and, hbit, testBit_paddingMask hn, Bool.true_and,
      decide_eq_true_eq]
    omega

end Padding

/-! ## The plan -/

def bitOrderOf : Option String → Option BitOrder
  | some "msb_first" => some .msbFirst
  | some "lsb_first" => some .lsbFirst
  | _ => none

def bitPaddingOf : Option String → Option BitPadding
  | some "none" => some .none
  | some "zero" => some .zero
  | some "one" => some .one
  | _ => none

/-- The padding of a bit string that is filled up with zeros. -/
def zeroPadding (bitLength : ℕ) : BitPadding := if bitLength % 8 = 0 then .none else .zero

namespace ColumnConversionPlan

variable (plan : ColumnConversionPlan)

/-- What the plan has to declare. -/
def needs {α : Type} (value : Option α) (code message : String) :
    Except TargetCapabilityFailure α :=
  match value with
  | some value => .ok value
  | none => .error (plan.failure code message)

def check (ok : Bool) (code message : String) : Except TargetCapabilityFailure Unit :=
  if ok then .ok () else .error (plan.failure code message)

@[simp]
theorem needs_eq_ok {α : Type} {value : Option α} {code message : String} {a : α} :
    plan.needs value code message = .ok a ↔ value = some a := by
  cases value <;> simp [needs]

@[simp]
theorem check_eq_ok {ok : Bool} {code message : String} {u : Unit} :
    plan.check ok code message = .ok u ↔ ok = true := by
  unfold check
  split <;> simp_all

end ColumnConversionPlan

section Plan

variable (plan : ColumnConversionPlan)

def validateBitStringPlanValue (value : LogicalValue) : Except TargetCapabilityFailure Unit :=
  match value with
  | .bitString bytesBase64url bitLength padding bitOrder => do
    let declared ← plan.needs
      (plan.parameter "source_bit_length" <|> plan.parameter "target_bit_length")
      "target_capability.bit_string_length_missing"
      "the bit string plan does not declare a target bit length"
    let expectedLength ← plan.needs (parseU64 declared)
      "target_capability.bit_string_length_invalid" "the saved bit string length is invalid"
    plan.check (bitLength == expectedLength) "target_capability.bit_string_length_mismatch"
      "bit string length differs from the qualified target length"
    plan.check (((plan.parameter "source_bit_length").bind parseU64).all (bitLength == ·))
      "target_capability.bit_string_source_length_mismatch"
      "bit string length differs from the qualified source length"
    let expectedOrder ← plan.needs (bitOrderOf (plan.parameter "source_bit_order"))
      "target_capability.bit_order_missing" "the bit string plan must declare source bit order"
    plan.check (bitOrder == expectedOrder) "target_capability.source_bit_order_mismatch"
      "bit order differs from the qualified source representation"
    let expectedPadding ← plan.needs (bitPaddingOf (plan.parameter "source_padding"))
      "target_capability.bit_padding_missing"
      "the bit string plan must declare source padding semantics"
    plan.check (padding == expectedPadding) "target_capability.bit_padding_mismatch"
      "bit padding differs from the qualified source representation"
    let raw ← plan.needs (Base64.decode bytesBase64url)
      "target_capability.bit_string_format_invalid"
      "the bit string value is not valid base64url bytes"
    plan.check (raw.length == (expectedLength + 7) / 8)
      "target_capability.bit_string_length_invalid"
      "bit string bytes do not match the declared bit length"
    if unusedBits expectedLength = 0 then
      plan.check (expectedPadding == .none) "target_capability.bit_padding_invalid"
        "a byte-aligned bit string cannot contain padding bits"
    else
      let mask := paddingMask expectedOrder (unusedBits expectedLength)
      plan.check (raw.getLast?.getD 0 &&& mask == if expectedPadding = .one then mask else 0)
        "target_capability.bit_padding_invalid"
        "unused bit padding does not match the qualified source zero/one policy"
  | _ => .error (plan.failure "target_capability.bit_string_type_mismatch"
      "the bit string conversion plan received another LogicalValue family")

def convertBitStringValue (value : LogicalValue) :
    Except (Fault TargetCapabilityFailure) LogicalValue :=
  match value with
  | .bitString bytesBase64url bitLength _ sourceOrder => do
    let targetOrder ← demand (bitOrderOf (plan.parameter "target_bit_order"))
      (plan.failure "target_capability.bit_order_missing"
        "the bit string plan must declare target bit order")
    let targetPadding ← demand (bitPaddingOf (plan.parameter "target_padding"))
      (plan.failure "target_capability.bit_padding_missing"
        "the bit string plan must declare target padding semantics")
    let source ← demand (Base64.decode bytesBase64url)
      (plan.failure "target_capability.bit_string_format_invalid"
        "the bit string value is not valid base64url bytes")
    let target ← copyBits source sourceOrder targetOrder bitLength
    let target ←
      if unusedBits bitLength > 0 ∧ targetPadding = .one then do
        let last ← demand target.getLast?
          (plan.failure "target_capability.bit_string_length_invalid"
            "a padded bit string must contain at least one byte")
        pure (target.dropLast ++ [last ||| paddingMask targetOrder (unusedBits bitLength)])
      else pure target
    return .bitString (Base64.encode target) bitLength targetPadding targetOrder
  | _ => refuse (plan.failure "target_capability.bit_string_type_mismatch"
      "the bit string conversion plan received another LogicalValue family")

/-- `convert_value_with_plan` where the conversion kind is `bit_string`. -/
def convertWithBitStringPlan (value : LogicalValue) :
    Except (Fault TargetCapabilityFailure) LogicalValue := do
  refusing (validateBitStringPlanValue plan value)
  convertBitStringValue plan value

/-- A plan for bit strings of one length, filled up with zeros on both sides. -/
structure BitStringPlan (bitLength : ℕ) (source target : BitOrder) : Prop where
  kind : plan.conversionKind = some "bit_string"
  sourceLength : (plan.parameter "source_bit_length").bind parseU64 = some bitLength
  sourceOrder : bitOrderOf (plan.parameter "source_bit_order") = some source
  targetOrder : bitOrderOf (plan.parameter "target_bit_order") = some target
  sourcePadding : bitPaddingOf (plan.parameter "source_padding") = some (zeroPadding bitLength)
  targetPadding : bitPaddingOf (plan.parameter "target_padding") = some (zeroPadding bitLength)

end Plan

/-! ## Indexing -/

section Indexing

variable {plan : ColumnConversionPlan} {bytesBase64url : String} {bitLength : ℕ}
  {padding : BitPadding} {order : BitOrder}

/-- A bit string that passes the check has a byte for every position. -/
theorem covered_of_validate
    (h : validateBitStringPlanValue plan (.bitString bytesBase64url bitLength padding order) =
      .ok ()) : ∃ raw, Base64.decode bytesBase64url = some raw ∧ bitLength ≤ 8 * raw.length := by
  simp only [validateBitStringPlanValue, bind_eq_ok, ColumnConversionPlan.needs_eq_ok,
    ColumnConversionPlan.check_eq_ok, beq_iff_eq] at h
  obtain ⟨_, -, expectedLength, -, _, rfl, _, -, _, -, _, -, _, -, _, -, raw, hdecode, _, hlength,
    -⟩ := h
  exact ⟨raw, hdecode, by omega⟩

theorem convertBitStringValue_inBounds {raw : List UInt8}
    (hdecode : Base64.decode bytesBase64url = some raw) (hcovers : bitLength ≤ 8 * raw.length) :
    convertBitStringValue plan (.bitString bytesBase64url bitLength padding order) ≠
      .error .outOfBounds := by
  intro h
  simp only [convertBitStringValue, bind_eq_error, demand_ne_outOfBounds, demand_eq_ok, false_or,
    hdecode] at h
  obtain ⟨targetOrder, -, targetPadding, -, source, hsource, hloop | ⟨target, -, hpadded⟩⟩ := h
  · rw [← Option.some.inj hsource, copyBits_eq, if_pos hcovers] at hloop
    cases hloop
  · split at hpadded
    · simp [bind_eq_error, demand_ne_outOfBounds] at hpadded
    · simp at hpadded

/-- The check of the plan keeps the converter inside the bytes. -/
theorem convertWithBitStringPlan_inBounds {value : LogicalValue} :
    convertWithBitStringPlan plan value ≠ .error .outOfBounds := by
  intro h
  rw [convertWithBitStringPlan, bind_eq_error] at h
  rcases h with hrefused | ⟨_, hvalidate, hconvert⟩
  · exact refusing_ne_outOfBounds hrefused
  · cases value with
    | bitString bytesBase64url bitLength padding order =>
      obtain ⟨raw, hdecode, hcovers⟩ := covered_of_validate (refusing_eq_ok.mp hvalidate)
      exact convertBitStringValue_inBounds hdecode hcovers hconvert
    | _ => cases hconvert

end Indexing

section Conversion

variable {plan : ColumnConversionPlan} {bitLength : ℕ} {source target : BitOrder}
  {bytes : List UInt8}

/-- The plan takes the bit strings whose unused bits are clear. -/
theorem BitStringPlan.validate_ok_iff (h : BitStringPlan plan bitLength source target) :
    validateBitStringPlanValue plan
        (.bitString (Base64.encode bytes) bitLength (zeroPadding bitLength) source) = .ok () ↔
      bytes.length = (bitLength + 7) / 8 ∧
        ∀ position, bitLength ≤ position → position < 8 * bytes.length →
          readBit bytes source position = false := by
  obtain ⟨text, htext, hparse⟩ := Option.bind_eq_some_iff.mp h.sourceLength
  simp only [validateBitStringPlanValue, ColumnConversionPlan.needs, ok_bind, bind_eq_ok,
    ColumnConversionPlan.check_eq_ok, htext, h.sourceOrder, h.sourcePadding, Base64.decode_encode,
    Option.bind_some, hparse, Option.orElse_eq_orElse, Option.orElse_some, Option.all_some,
    beq_self_eq_true, true_and, exists_const, beq_iff_eq]
  refine and_congr_right fun hlength => ?_
  by_cases haligned : bitLength % 8 = 0
  · have hunused : unusedBits bitLength = 0 := by simp [unusedBits, haligned]
    rw [if_pos hunused]
    constructor
    · intro _ position hle hlt
      omega
    · intro _
      simp [zeroPadding, haligned]
  · have hunused : unusedBits bitLength ≠ 0 := by
      unfold unusedBits
      omega
    rw [if_neg hunused, ColumnConversionPlan.check_eq_ok, beq_iff_eq,
      if_neg (by simp [zeroPadding, haligned])]
    exact padding_clear_iff hlength haligned

/-- The bits are written in the layout of the target. -/
theorem BitStringPlan.convert_eq (h : BitStringPlan plan bitLength source target)
    (hlength : bytes.length = (bitLength + 7) / 8) :
    convertBitStringValue plan
        (.bitString (Base64.encode bytes) bitLength (zeroPadding bitLength) source) =
      .ok (.bitString (Base64.encode (writeBits (List.replicate bytes.length 0) target
        (readBit bytes source) bitLength)) bitLength (zeroPadding bitLength) target) := by
  have hnot : zeroPadding bitLength ≠ .one := by
    unfold zeroPadding
    split <;> simp
  have hcovers : bitLength ≤ 8 * bytes.length := by omega
  simp only [convertBitStringValue, h.targetOrder, h.targetPadding, Base64.decode_encode,
    demand, ok_bind, copyBits_eq, if_pos hcovers, hnot, and_false, if_false, pure_eq]

/-- The plan converts the bit strings whose unused bits are clear, bit by bit. -/
theorem BitStringPlan.convertWith_eq_ok_iff (h : BitStringPlan plan bitLength source target)
    {value : LogicalValue} :
    convertWithBitStringPlan plan
        (.bitString (Base64.encode bytes) bitLength (zeroPadding bitLength) source) = .ok value ↔
      (bytes.length = (bitLength + 7) / 8 ∧
        ∀ position, bitLength ≤ position → position < 8 * bytes.length →
          readBit bytes source position = false) ∧
      .bitString (Base64.encode (writeBits (List.replicate bytes.length 0) target
        (readBit bytes source) bitLength)) bitLength (zeroPadding bitLength) target = value := by
  rw [convertWithBitStringPlan, bind_eq_ok]
  simp only [refusing_eq_ok]
  constructor
  · rintro ⟨_, hvalidate, hconvert⟩
    have hclear := h.validate_ok_iff.mp hvalidate
    rw [h.convert_eq hclear.1, Except.ok.injEq] at hconvert
    exact ⟨hclear, hconvert⟩
  · rintro ⟨hclear, rfl⟩
    exact ⟨(), h.validate_ok_iff.mpr hclear, h.convert_eq hclear.1⟩

end Conversion

end DatabaseSync.ChangeEvent
