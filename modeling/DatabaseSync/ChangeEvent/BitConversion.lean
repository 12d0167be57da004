import DatabaseSync.ChangeEvent.BitString

/-! # Converted bit strings

The converter writes every position in the bit order of the target and fills the unused bits as
the target declares. Neither the number of bytes nor the declared padding is compared with the
length, so the converted value is valid only where they agree with it.
-/

namespace DatabaseSync.ChangeEvent

open Bits Checked Machine Text

/-- A bit string with its bytes decoded. -/
structure BitLayout where
  bytes : List UInt8
  bitLength : ℕ
  padding : BitPadding
  order : BitOrder
deriving DecidableEq, Repr

def LogicalValue.bits : LogicalValue → Option BitLayout
  | .bitString bytesBase64url bitLength padding bitOrder =>
    (Base64.decode bytesBase64url).map fun bytes => ⟨bytes, bitLength, padding, bitOrder⟩
  | _ => none

/-- The unused bits are set under the padding `one` only. -/
def BitPadding.filler : BitPadding → Bool
  | .one => true
  | _ => false

namespace BitLayout

def bit (layout : BitLayout) (position : ℕ) : Bool :=
  readBit layout.bytes layout.order position

/-- A byte for every eight bits begun, padding exactly where bits are unused, and the unused
bits as the padding says. -/
structure WellFormed (layout : BitLayout) : Prop where
  pos : 0 < layout.bitLength
  length : layout.bytes.length = (layout.bitLength + 7) / 8
  padded : layout.padding = .none ↔ layout.bitLength % 8 = 0
  filler : ∀ position, layout.bitLength ≤ position → position < 8 * layout.bytes.length →
    layout.bit position = layout.padding.filler

/-- The same bits under the bit order and the padding that the plan declares for the target. -/
structure ConvertedTo (plan : ColumnConversionPlan) (source target : BitLayout) : Prop where
  bitLength : target.bitLength = source.bitLength
  order : bitOrderOf (plan.parameter "target_bit_order") = some target.order
  padding : bitPaddingOf (plan.parameter "target_padding") = some target.padding
  bit : ∀ position < source.bitLength, target.bit position = source.bit position
  filler : ∀ position, source.bitLength ≤ position → position < 8 * target.bytes.length →
    target.bit position = target.padding.filler

end BitLayout

/-! ## Unused bits -/

section Unused

variable {bytes : List UInt8} {order : BitOrder} {n position : ℕ}

theorem getLast_eq_getD (hlength : bytes.length = (n + 7) / 8) (hn : n % 8 ≠ 0) :
    bytes.getLast?.getD 0 = bytes.getD (n / 8) 0 := by
  have hindex : bytes.length - 1 = n / 8 := by omega
  rw [List.getLast?_eq_getElem?, hindex, List.getD_eq_getElem?_getD]

/-- The unused bits of the last byte are set when every position from the length on is. -/
theorem padding_set_iff (hlength : bytes.length = (n + 7) / 8) (hn : n % 8 ≠ 0) :
    (bytes.getLast?.getD 0) &&& paddingMask order (unusedBits n) =
        paddingMask order (unusedBits n) ↔
      ∀ position, n ≤ position → position < 8 * bytes.length →
        readBit bytes order position = true := by
  rw [getLast_eq_getD hlength hn, ← UInt8.toNat_inj, UInt8.toNat_and]
  constructor
  · intro h position hle hlt
    have hbyte : position / 8 = n / 8 := by omega
    have hmask := @testBit_paddingMask order n position hn
    have hcovered : n % 8 ≤ position % 8 := by omega
    rw [decide_eq_true hcovered, ← h, Nat.testBit_and, Bool.and_eq_true] at hmask
    rw [readBit_eq, bitOf, hbyte, hmask.1]
  · intro h
    apply Nat.eq_of_testBit_eq
    intro b
    rw [Nat.testBit_and]
    rcases Nat.lt_or_ge b 8 with hb | hb
    · obtain ⟨p, hp, rfl⟩ := order.exists_position (n / 8) hb
      rw [testBit_paddingMask hn]
      by_cases hcovered : n % 8 ≤ p % 8
      · have hbit := h p (by omega) (by omega)
        rw [readBit_eq, bitOf, hp] at hbit
        rw [hbit, Bool.true_and]
      · rw [decide_eq_false hcovered, Bool.and_false]
    · rw [testBit_toNat_of_le hb, testBit_toNat_of_le hb, Bool.and_false]

/-- The unused bits of the last byte are as the padding says. -/
theorem padding_iff {padding : BitPadding} (hlength : bytes.length = (n + 7) / 8)
    (hn : n % 8 ≠ 0) :
    (bytes.getLast?.getD 0 &&& paddingMask order (unusedBits n) ==
        if padding = .one then paddingMask order (unusedBits n) else 0) = true ↔
      ∀ position, n ≤ position → position < 8 * bytes.length →
        readBit bytes order position = padding.filler := by
  rw [beq_iff_eq]
  cases padding with
  | none => exact padding_clear_iff hlength hn
  | zero => exact padding_clear_iff hlength hn
  | one => exact padding_set_iff hlength hn

/-- Setting the unused bits of the last byte changes no position below the length. -/
theorem readBit_setLast {last : UInt8} (hlength : bytes.length = (n + 7) / 8) (hn : n % 8 ≠ 0)
    (hlast : bytes.getLast? = some last) (hposition : position < 8 * bytes.length) :
    readBit (bytes.dropLast ++ [last ||| paddingMask order (unusedBits n)]) order position =
      (readBit bytes order position || decide (n ≤ position)) := by
  have hbytes : bytes = bytes.dropLast ++ [last] := (List.dropLast_append_getLast? _ hlast).symm
  have hdrop : bytes.dropLast.length = n / 8 := by
    rw [List.length_dropLast]
    omega
  rw [readBit_eq, readBit_eq, bitOf, bitOf]
  rcases Nat.lt_or_ge (position / 8) (n / 8) with hlt | hge
  · have hnot : ¬ n ≤ position := by omega
    rw [decide_eq_false hnot, Bool.or_false]
    conv_rhs => rw [hbytes]
    rw [List.getD_append _ _ _ _ (by omega), List.getD_append _ _ _ _ (by omega)]
  · have hindex : position / 8 = bytes.dropLast.length := by omega
    conv_rhs => rw [hbytes]
    rw [hindex, List.getD_append_right _ _ _ _ le_rfl, List.getD_append_right _ _ _ _ le_rfl,
      Nat.sub_self, List.getD_cons_zero, List.getD_cons_zero, UInt8.toNat_or, Nat.testBit_or,
      testBit_paddingMask hn]
    congr 1
    rw [decide_eq_decide]
    omega

end Unused

/-! ## Validation -/

section Validation

variable (library : ValidationLibrary) {bytesBase64url : String} {bitLength : ℕ}
  {padding : BitPadding} {order : BitOrder}

theorem logicalValue_bitString :
    logicalValue library (.bitString bytesBase64url bitLength padding order) =
      bitString bytesBase64url bitLength padding order := by
  rfl

theorem bitString_eq_ok : bitString bytesBase64url bitLength padding order = .ok () ↔
    ∃ bytes, Base64.decode bytesBase64url = some bytes ∧
      BitLayout.WellFormed ⟨bytes, bitLength, padding, order⟩ := by
  unfold bitString
  cases hdecode : Base64.decode bytesBase64url with
  | none => simp
  | some bytes =>
    simp only [Option.some.injEq, exists_eq_left', bind_eq_ok, ensure_eq_ok, decide_eq_true_eq,
      beq_iff_eq, exists_const]
    by_cases haligned : bitLength % 8 = 0
    · have hunused : unusedBits bitLength = 0 := by simp [unusedBits, haligned]
      rw [if_pos hunused, ensure_eq_ok, beq_iff_eq]
      constructor
      · rintro ⟨hpos, hlength, hpadding⟩
        refine ⟨hpos, hlength, iff_of_true hpadding haligned, ?_⟩
        intro position hle hlt
        change position < 8 * bytes.length at hlt
        change bitLength ≤ position at hle
        omega
      · rintro ⟨hpos, hlength, hpadded, -⟩
        exact ⟨hpos, hlength, hpadded.mpr haligned⟩
    · have hunused : unusedBits bitLength ≠ 0 := by
        unfold unusedBits
        omega
      rw [if_neg hunused]
      simp only [bind_eq_ok, ensure_eq_ok, bne_iff_ne, exists_const]
      constructor
      · rintro ⟨hpos, hlength, hpadding, hmask⟩
        exact ⟨hpos, hlength, iff_of_false hpadding haligned,
          (padding_iff hlength haligned).mp hmask⟩
      · rintro ⟨hpos, hlength, hpadded, hfiller⟩
        exact ⟨hpos, hlength, fun h => haligned (hpadded.mp h),
          (padding_iff hlength haligned).mpr hfiller⟩

/-- A valid bit string decodes to a well-formed layout. -/
theorem valid_iff_wellFormed {value : LogicalValue} {layout : BitLayout}
    (h : value.bits = some layout) : logicalValue library value = .ok () ↔ layout.WellFormed := by
  cases value with
  | bitString bytesBase64url bitLength padding order =>
    obtain ⟨bytes, hdecode, rfl⟩ := Option.map_eq_some_iff.mp h
    rw [logicalValue_bitString, bitString_eq_ok]
    simp [hdecode]
  | _ => cases h

end Validation

/-! ## The conversion -/

section Conversion

variable {plan : ColumnConversionPlan} {value result : LogicalValue}

/-- The bytes that the converter writes. -/
def convertedBytes (source : BitLayout) (order : BitOrder) (padding : BitPadding) : List UInt8 :=
  let target := writeBits (List.replicate source.bytes.length 0) order source.bit source.bitLength
  if unusedBits source.bitLength > 0 ∧ padding = .one then
    target.dropLast ++ [target.getLast?.getD 0 ||| paddingMask order (unusedBits source.bitLength)]
  else target

/-- A converted bit string has a byte for every position. -/
theorem convertBitStringValue_eq_ok (h : convertBitStringValue plan value = .ok result) :
    ∃ source order padding, value.bits = some source ∧
      source.bitLength ≤ 8 * source.bytes.length ∧
      bitOrderOf (plan.parameter "target_bit_order") = some order ∧
      bitPaddingOf (plan.parameter "target_padding") = some padding ∧
      result = .bitString (Base64.encode (convertedBytes source order padding)) source.bitLength
        padding order := by
  cases value with
  | bitString bytesBase64url bitLength valuePadding sourceOrder =>
    simp only [convertBitStringValue, bind_eq_ok, demand_eq_ok] at h
    obtain ⟨order, horder, padding, hpadding, bytes, hdecode, _, hloop, h⟩ := h
    rw [copyBits_eq, Checked.ensure_eq_ok, Except.ok.injEq] at hloop
    obtain ⟨hcovers, rfl⟩ := hloop
    refine ⟨⟨bytes, bitLength, valuePadding, sourceOrder⟩, order, padding, ?_, hcovers, horder,
      hpadding, ?_⟩
    · simp [LogicalValue.bits, hdecode]
    · unfold convertedBytes
      dsimp only
      split at h
      · next hone =>
        simp only [bind_eq_ok, demand_eq_ok, pure_eq, ok_bind, Except.ok.injEq] at h
        obtain ⟨last, hlast, rfl⟩ := h
        change (writeBits _ _ (BitLayout.bit ⟨bytes, bitLength, valuePadding, sourceOrder⟩)
          _).getLast? = _ at hlast
        rw [if_pos hone, hlast]
        rfl
      · next hnot =>
        simp only [pure_eq, ok_bind, Except.ok.injEq] at h
        rw [if_neg hnot, ← h]
        rfl
  | _ => cases h

variable {source : BitLayout} {order : BitOrder} {padding : BitPadding} {position : ℕ}

theorem length_convertedBytes (hcovers : source.bitLength ≤ 8 * source.bytes.length) :
    (convertedBytes source order padding).length = source.bytes.length := by
  unfold convertedBytes
  dsimp only
  split
  · next hone =>
    have hunused := hone.1
    unfold unusedBits at hunused
    simp only [List.length_append, List.length_dropLast, length_writeBits, List.length_replicate,
      List.length_singleton]
    omega
  · simp

/-- Below the length the bits are those of the source; the unused bits are as the padding of the
target says. -/
theorem readBit_convertedBytes (hlength : source.bytes.length = (source.bitLength + 7) / 8)
    (hposition : position < 8 * source.bytes.length) :
    readBit (convertedBytes source order padding) order position =
      if position < source.bitLength then source.bit position else padding.filler := by
  have hwritten : readBit (writeBits (List.replicate source.bytes.length 0) order source.bit
      source.bitLength) order position =
        (decide (position < source.bitLength) && source.bit position) := by
    rw [readBit_writeBits (by rw [List.length_replicate]; omega), readBit_replicate, Bool.false_or]
  unfold convertedBytes
  dsimp only
  split
  · next hone =>
    obtain ⟨hunused, rfl⟩ := hone
    have haligned : source.bitLength % 8 ≠ 0 := by
      unfold unusedBits at hunused
      omega
    have hbytes : (writeBits (List.replicate source.bytes.length 0) order source.bit
        source.bitLength).length = (source.bitLength + 7) / 8 := by
      rw [length_writeBits, List.length_replicate, hlength]
    have hne : writeBits (List.replicate source.bytes.length 0) order source.bit
        source.bitLength ≠ [] := List.ne_nil_of_length_pos (by omega)
    obtain ⟨last, hlast⟩ := Option.ne_none_iff_exists'.mp
      (fun hnone => hne (List.getLast?_eq_none_iff.mp hnone))
    rw [hlast, Option.getD_some, readBit_setLast hbytes haligned hlast (by omega), hwritten]
    by_cases hlt : position < source.bitLength
    · simp [hlt]
    · simp [hlt, not_lt.mp hlt, BitPadding.filler]
  · next hnot =>
    rw [hwritten]
    by_cases hlt : position < source.bitLength
    · simp [hlt]
    · have hunused : unusedBits source.bitLength > 0 := by
        unfold unusedBits
        omega
      have hpadding : padding ≠ .one := fun h => hnot ⟨hunused, h⟩
      cases padding with
      | none => simp [hlt, BitPadding.filler]
      | zero => simp [hlt, BitPadding.filler]
      | one => exact absurd rfl hpadding

end Conversion

/-! ## What is kept -/

section Kept

variable (library : ValidationLibrary) (plan : ColumnConversionPlan) (value result : LogicalValue)

/-- The converted value has the bits of the value in the layout of the target, and is valid. -/
def PreservesBits : Prop :=
  ∃ source target, value.bits = some source ∧ result.bits = some target ∧
    source.ConvertedTo plan target ∧ logicalValue library result = .ok ()

/-- The value has bits, and a byte for every eight bits begun. -/
def BytesAgree : Prop :=
  ∀ source, value.bits = some source →
    0 < source.bitLength ∧ source.bytes.length = (source.bitLength + 7) / 8

/-- The plan declares padding for the target exactly where the value has unused bits. -/
def PaddingAgrees : Prop :=
  ∀ source, value.bits = some source →
    (bitPaddingOf (plan.parameter "target_padding") = some .none ↔ source.bitLength % 8 = 0)

variable {plan value result}

/-- A converted bit string keeps its bits and is valid exactly if its bytes and the padding
declared for the target agree with its length. -/
theorem bits_preserved_iff_lengths_agree (hresult : convertBitStringValue plan value = .ok result) :
    PreservesBits library plan value result ↔ BytesAgree value ∧ PaddingAgrees plan value := by
  obtain ⟨source, order, padding, hsource, hcovers, horder, hpadding, rfl⟩ :=
    convertBitStringValue_eq_ok hresult
  have htarget : (LogicalValue.bitString (Base64.encode (convertedBytes source order padding))
      source.bitLength padding order).bits =
        some ⟨convertedBytes source order padding, source.bitLength, padding, order⟩ := by
    simp [LogicalValue.bits, Base64.decode_encode]
  have hkept := @length_convertedBytes source order padding hcovers
  constructor
  · rintro ⟨_, target, -, hbits, -, hwell⟩
    have hvalid := (valid_iff_wellFormed library htarget).mp hwell
    refine ⟨?_, ?_⟩
    · intro other hother
      obtain rfl := Option.some.inj (hsource.symm.trans hother)
      exact ⟨hvalid.pos, hkept.symm.trans hvalid.length⟩
    · intro other hother
      obtain rfl := Option.some.inj (hsource.symm.trans hother)
      rw [hpadding, Option.some.injEq]
      exact hvalid.padded
  · rintro ⟨hbytes, hagrees⟩
    obtain ⟨hpos, hlength⟩ := hbytes source hsource
    have hpadded := hagrees source hsource
    rw [hpadding, Option.some.injEq] at hpadded
    have hfiller : ∀ position, source.bitLength ≤ position →
        position < 8 * (convertedBytes source order padding).length →
          readBit (convertedBytes source order padding) order position = padding.filler := by
      intro position hle hlt
      rw [hkept] at hlt
      rw [readBit_convertedBytes hlength hlt, if_neg (not_lt.mpr hle)]
    refine ⟨source, _, hsource, htarget, ⟨rfl, horder, hpadding, ?_, hfiller⟩, ?_⟩
    · intro position hlt
      exact (readBit_convertedBytes hlength (by omega)).trans (if_pos hlt)
    · rw [valid_iff_wellFormed library htarget]
      exact ⟨hpos, hkept.trans hlength, hpadded, hfiller⟩

section Sample

def paddedPlan (padding : String) : ColumnConversionPlan :=
  .sample [] [("target_bit_order", "msb_first"), ("target_padding", padding)]

def plainValidation : ValidationLibrary := ⟨fun _ => "", id⟩

/-- Ten bits become ten bits: `1000001101`. -/
theorem bits_preserved_iff_lengths_agree_ten :
    PreservesBits plainValidation (paddedPlan "zero") (.bitString "wQI" 10 .zero .lsbFirst)
      (.bitString "g0A" 10 .zero .msbFirst) := by
  have hresult : convertBitStringValue (paddedPlan "zero") (.bitString "wQI" 10 .zero .lsbFirst) =
      .ok (.bitString "g0A" 10 .zero .msbFirst) := rfl
  have hlayout : (LogicalValue.bitString "wQI" 10 .zero .lsbFirst).bits =
      some ⟨[0xC1, 0x02], 10, .zero, .lsbFirst⟩ := by decide
  apply (bits_preserved_iff_lengths_agree plainValidation hresult).mpr
  constructor
  · intro source hsource
    obtain rfl := Option.some.inj (hlayout.symm.trans hsource)
    decide
  · intro source hsource
    obtain rfl := Option.some.inj (hlayout.symm.trans hsource)
    decide

def sampleBits : LogicalValue := .bitString "pQ" 8 .none .lsbFirst

/-- A full byte is converted under a plan that declares zero padding, and the result is refused. -/
theorem aligned_padding_not_valid :
    logicalValue plainValidation sampleBits = .ok () ∧
      convertBitStringValue (paddedPlan "zero") sampleBits =
        .ok (.bitString "pQ" 8 .zero .msbFirst) ∧
      ¬ PreservesBits plainValidation (paddedPlan "zero") sampleBits
        (.bitString "pQ" 8 .zero .msbFirst) := by
  have hvalue : logicalValue plainValidation sampleBits = .ok () := by decide
  have hresult : convertBitStringValue (paddedPlan "zero") sampleBits =
      .ok (.bitString "pQ" 8 .zero .msbFirst) := rfl
  refine ⟨hvalue, hresult, ?_⟩
  rintro ⟨_, _, -, -, -, hvalid⟩
  exact absurd hvalid (by decide)

end Sample

end Kept

end DatabaseSync.ChangeEvent
