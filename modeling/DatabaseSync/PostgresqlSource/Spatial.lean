import DatabaseSync.ChangeEvent.BitConversion
import DatabaseSync.PostgresqlSource.Types

/-! # Spatial values

PostGIS prints a geometry as the hexadecimal digits of its bytes. The decoder and the validator each
read the header of the bytes, and differ in what they ask of it.
-/

namespace DatabaseSync.PostgresqlSource

open ChangeEvent Checked Text

/-! ## The decoder -/

def isHexByte (byte : UInt8) : Bool := isAsciiHexDigit (Char.ofNat byte.toNat)

def hexValue (byte : UInt8) : ℕ := (toDigit 16 (Char.ofNat byte.toNat)).getD 0

/-- The bytes of pairs of hexadecimal digits. -/
def hexBytes : List UInt8 → List UInt8
  | high :: low :: bytes => UInt8.ofNat (hexValue high * 16 + hexValue low) :: hexBytes bytes
  | _ => []

def ewkbByteOrder (raw : List UInt8) : Except PgError Bool :=
  if raw.headD 0 = 0 then .ok false
  else if raw.headD 0 = 1 then .ok true
  else .error (.invalid "EWKB has an invalid byte-order marker")

/-- The `word` at an offset -/
def ewkbWord (raw : List UInt8) (little : Bool) (offset : ℕ) : Except PgError ℕ :=
  match readU32 (raw.drop offset) little with
  | .ok word => .ok word
  | .error _ => .error (.invalid "truncated EWKB header")

/-- The dimensions that the flags and the thousands of a type word give together. -/
def ewkbDimensions (typeWord : ℕ) : ℕ :=
  let isoDimensions := typeWord % 2 ^ 29 / 1000
  let isoHasZ := isoDimensions == 1 || isoDimensions == 3
  let isoHasM := isoDimensions == 2 || isoDimensions == 3
  2 + (typeWord.testBit 31 || isoHasZ).toNat + (typeWord.testBit 30 || isoHasM).toNat

def ewkbSrid (raw : List UInt8) (little hasSrid : Bool) : Except PgError (Option ℤ) :=
  if hasSrid then do return some (asI32 (← ewkbWord raw little 5)) else .ok none

def decodePostgisEwkb (bytes : List UInt8) : Except PgError LogicalValue :=
  if bytes.length < 10 ∨ bytes.length % 2 ≠ 0 ∨ ¬ bytes.all isHexByte then
    .error (.invalid "PostGIS text output is not valid hexadecimal EWKB")
  else do
    let raw := hexBytes bytes
    let little ← ewkbByteOrder raw
    let typeWord ← ewkbWord raw little 1
    let encodedType := typeWord % 2 ^ 29
    let isoDimensions := encodedType / 1000
    let geometryId := if isoDimensions = 0 then encodedType else encodedType % 1000
    let geometryType := geometryName geometryId
    if geometryType = "unknown" then
      throw (.invalid "EWKB uses an unsupported geometry type")
    if 3 < isoDimensions then
      throw (.invalid "EWKB uses an unsupported coordinate dimension")
    let srid ← ewkbSrid raw little (typeWord.testBit 29)
    return .spatial .ewkb (Base64.encode raw) geometryType (ewkbDimensions typeWord) srid none

/-! ## Both readings of a header -/

/-- The type word of the bytes of a geometry. -/
def typeWord (raw : List UInt8) : ℕ := (readU32 (raw.drop 1) (raw.headD 0 == 1)).toOption.getD 0

/-- What the validator reads from the bytes: the geometry type, the dimensions and the SRID. -/
def validatedHeader (raw : List UInt8) : String × ℕ × Option ℤ :=
  let (baseCode, dimensions) := geometryCode (typeWord raw)
  (geometryName baseCode, dimensions,
    if (typeWord raw).testBit 29 then
      (readU32 (raw.drop 5) (raw.headD 0 == 1)).toOption.map asI32
    else none)

/-- The value is valid and carries what the validator reads from its bytes. -/
def Validated (library : ValidationLibrary) (value : LogicalValue) : Prop :=
  logicalValue library value = .ok () ∧
    ∃ format encoded geometryType dimensions srid crs raw,
      value = .spatial format encoded geometryType dimensions srid crs ∧
        Base64.decode encoded = some raw ∧ validatedHeader raw = (geometryType, dimensions, srid)

/-- The geometry has an SRID, and where the thousands of its type word give one coordinate more, no
flag gives the other one. -/
def HeaderAgrees (raw : List UInt8) : Prop :=
  (typeWord raw).testBit 29 = true ∧
    (typeWord raw % 2 ^ 29 / 1000 = 1 → (typeWord raw).testBit 30 = false) ∧
    (typeWord raw % 2 ^ 29 / 1000 = 2 → (typeWord raw).testBit 31 = false)

section

variable {library : ValidationLibrary} {bytes raw : List UInt8} {value : LogicalValue}
  {little : Bool} {word offset : ℕ} {srid : Option ℤ}

theorem ewkbByteOrder_eq_ok : ewkbByteOrder raw = .ok little ↔
    (raw.headD 0 = 0 ∨ raw.headD 0 = 1) ∧ little = (raw.headD 0 == 1) := by
  unfold ewkbByteOrder
  generalize raw.headD 0 = order
  by_cases hbig : order = 0
  · subst hbig
    cases little <;> decide
  · by_cases hlittle : order = 1
    · subst hlittle
      cases little <;> decide
    · simp [hbig, hlittle]

theorem ewkbWord_eq_ok : ewkbWord raw little offset = .ok word ↔
    readU32 (raw.drop offset) little = .ok word := by
  unfold ewkbWord
  split
  · next heq => rw [heq, Except.ok.injEq, Except.ok.injEq]
  · next heq =>
    rw [heq]
    simp

/-- A word takes four bytes. -/
theorem length_of_readU32 (h : readU32 (raw.drop offset) little = .ok word) :
    offset + 4 ≤ raw.length := by
  unfold readU32 at h
  split at h
  · next b₀ b₁ b₂ b₃ rest hbytes =>
    have hlength := congrArg List.length hbytes
    simp only [List.length_drop, List.length_cons] at hlength
    omega
  · cases h

theorem ewkbSrid_eq_ok {hasSrid : Bool} : ewkbSrid raw little hasSrid = .ok srid ↔
    (hasSrid = true → ∃ word, readU32 (raw.drop 5) little = .ok word ∧ srid = some (asI32 word)) ∧
      (hasSrid = false → srid = none) := by
  cases hasSrid with
  | false => simp [ewkbSrid, eq_comm]
  | true =>
    simp only [ewkbSrid, if_true, bind_eq_ok, ewkbWord_eq_ok, pure_eq, Except.ok.injEq,
      eq_comm (b := srid), forall_const]
    simp

/-- What the decoder has found when it returns a value. -/
structure Decoded (raw : List UInt8) (value : LogicalValue) : Prop where
  order : raw.headD 0 = 0 ∨ raw.headD 0 = 1
  word : readU32 (raw.drop 1) (raw.headD 0 == 1) = .ok (typeWord raw)
  known : geometryName (typeWord raw % 2 ^ 29 % 1000) ≠ "unknown"
  iso : typeWord raw % 2 ^ 29 / 1000 ≤ 3
  value_eq : ∃ srid, ewkbSrid raw (raw.headD 0 == 1) ((typeWord raw).testBit 29) = .ok srid ∧
    value = .spatial .ewkb (Base64.encode raw) (geometryName (typeWord raw % 2 ^ 29 % 1000))
      (ewkbDimensions (typeWord raw)) srid none

theorem decoded_of_ok (h : decodePostgisEwkb bytes = .ok value) :
    Decoded (hexBytes bytes) value := by
  unfold decodePostgisEwkb at h
  simp only [guard_eq_ok, bind_eq_ok, throw_eq, error_bind, pure_eq] at h
  obtain ⟨-, little, horder, word, hword, hrest⟩ := h
  obtain ⟨hfirst, rfl⟩ := ewkbByteOrder_eq_ok.mp horder
  have hread := ewkbWord_eq_ok.mp hword
  have htype : typeWord (hexBytes bytes) = word := by
    rw [typeWord, hread]
    rfl
  subst htype
  have hid : (if typeWord (hexBytes bytes) % 2 ^ 29 / 1000 = 0 then
      typeWord (hexBytes bytes) % 2 ^ 29 else typeWord (hexBytes bytes) % 2 ^ 29 % 1000) =
      typeWord (hexBytes bytes) % 2 ^ 29 % 1000 := by
    split
    · next hzero =>
      have hlt : typeWord (hexBytes bytes) % 2 ^ 29 < 1000 := by omega
      exact (Nat.mod_eq_of_lt hlt).symm
    · rfl
  rw [hid] at hrest
  obtain ⟨hknown, hiso, srid, hsrid, hvalue⟩ := hrest
  exact ⟨hfirst, hread, hknown, not_lt.mp hiso, srid, hsrid, (Except.ok.inj hvalue).symm⟩

/-! ## The validator on decoded values -/

theorem geometryBits_eq (hiso : word % 2 ^ 29 / 1000 ≤ 3) : word % 2 ^ 28 = word % 2 ^ 29 := by
  have hlt : word % 2 ^ 29 < 4000 := by omega
  omega

/-- The validator finds the geometry of the decoder. -/
theorem geometryCode_fst (hiso : word % 2 ^ 29 / 1000 ≤ 3) :
    (geometryCode word).1 = word % 2 ^ 29 % 1000 := by
  unfold geometryCode
  dsimp only
  rw [geometryBits_eq hiso]
  split
  · rfl
  · next hsmall => exact (Nat.mod_eq_of_lt (not_le.mp hsmall)).symm

/-- The dimensions are alike where the flags add nothing to the thousands. -/
theorem ewkbDimensions_eq_iff (hiso : word % 2 ^ 29 / 1000 ≤ 3) :
    (geometryCode word).2 = ewkbDimensions word ↔
      (word % 2 ^ 29 / 1000 = 1 → word.testBit 30 = false) ∧
        (word % 2 ^ 29 / 1000 = 2 → word.testBit 31 = false) := by
  unfold geometryCode ewkbDimensions
  dsimp only
  rw [geometryBits_eq hiso]
  generalize word.testBit 31 = hasZ
  generalize word.testBit 30 = hasM
  have hlarge : 1000 ≤ word % 2 ^ 29 ↔ word % 2 ^ 29 / 1000 ≠ 0 := by omega
  simp only [ge_iff_le, hlarge]
  generalize word % 2 ^ 29 / 1000 = iso at hiso ⊢
  interval_cases iso
  · cases hasZ <;> cases hasM <;> simp
  · cases hasZ <;> cases hasM <;> simp
  · cases hasZ <;> cases hasM <;> simp
  · cases hasZ <;> cases hasM <;> simp

theorem ewkbDimensions_bounds : 2 ≤ ewkbDimensions word ∧ ewkbDimensions word ≤ 4 := by
  unfold ewkbDimensions
  dsimp only
  generalize (word.testBit 31 || _) = hasZ
  generalize (word.testBit 30 || _) = hasM
  cases hasZ <;> cases hasM <;> decide

theorem geometryName_text (n : ℕ) :
    (geometryName n).isEmpty = false ∧ hasNul (geometryName n) = false := by
  unfold geometryName
  split <;> decide

/-- A decoded value passes when its bytes have an SRID and the dimensions are alike. -/
theorem Decoded.validate_iff (h : Decoded raw value) :
    logicalValue library value = .ok () ↔
      (typeWord raw).testBit 29 = true ∧
        (geometryCode (typeWord raw)).2 = ewkbDimensions (typeWord raw) := by
  obtain ⟨srid, hsrid, rfl⟩ := h.value_eq
  have hlength := length_of_readU32 h.word
  obtain ⟨hlow, hhigh⟩ := @ewkbDimensions_bounds (typeWord raw)
  obtain ⟨hempty, hnul⟩ := geometryName_text (typeWord raw % 2 ^ 29 % 1000)
  have hvalue : logicalValue library (.spatial .ewkb (Base64.encode raw)
      (geometryName (typeWord raw % 2 ^ 29 % 1000)) (ewkbDimensions (typeWord raw)) srid none) =
      spatial .ewkb (Base64.encode raw) (geometryName (typeWord raw % 2 ^ 29 % 1000))
        (ewkbDimensions (typeWord raw)) srid none := rfl
  rw [hvalue, spatial, Base64.decode_encode]
  simp only [h.word, ok_bind]
  rw [geometryCode_fst h.iso]
  have hformat : (SpatialFormat.ewkb == SpatialFormat.wkb) = false := rfl
  have horder : (raw.headD 0 == 0 || raw.headD 0 == 1) = true := by
    rcases h.order with heq | heq <;> rw [heq] <;> rfl
  have hsame : eqIgnoreAsciiCase (geometryName (typeWord raw % 2 ^ 29 % 1000))
      (geometryName (typeWord raw % 2 ^ 29 % 1000)) = true := beq_self_eq_true _
  obtain ⟨hread, hnone⟩ := ewkbSrid_eq_ok.mp hsrid
  simp only [bind_eq_ok, ChangeEvent.ensure_eq_ok, exists_const, Bool.and_eq_true,
    decide_eq_true_eq, hlow, hhigh, hempty, hnul, Bool.not_false, and_self, true_and,
    Option.all_none, hlength, horder, hsame, bne_iff_ne, h.known, ne_eq, not_false_eq_true,
    beq_iff_eq, hformat, Bool.false_or, if_true]
  by_cases hflag : (typeWord raw).testBit 29 = true
  · obtain ⟨word, hword, rfl⟩ := hread hflag
    have hlong : 9 ≤ raw.length := length_of_readU32 hword
    simp only [hflag, hword, hlong, if_true, bind_eq_ok, ChangeEvent.ensure_eq_ok, decide_true,
      true_and, ok_bind, pure_eq, exists_const, beq_self_eq_true, and_true]
  · rw [Bool.not_eq_true] at hflag
    simp [hflag]

/-- The value carries what the validator reads when the dimensions are alike. -/
theorem Decoded.header_eq (h : Decoded raw value)
    (hdims : (geometryCode (typeWord raw)).2 = ewkbDimensions (typeWord raw)) :
    ∃ format encoded geometryType dimensions srid crs raw',
      value = .spatial format encoded geometryType dimensions srid crs ∧
        Base64.decode encoded = some raw' ∧
        validatedHeader raw' = (geometryType, dimensions, srid) := by
  obtain ⟨srid, hsrid, hvalue⟩ := h.value_eq
  obtain ⟨hread, hnone⟩ := ewkbSrid_eq_ok.mp hsrid
  refine ⟨_, _, _, _, _, _, raw, hvalue, Base64.decode_encode raw, ?_⟩
  unfold validatedHeader
  dsimp only
  rw [geometryCode_fst h.iso, hdims]
  by_cases hflag : (typeWord raw).testBit 29 = true
  · obtain ⟨word, hword, rfl⟩ := hread hflag
    rw [if_pos hflag, hword]
    rfl
  · rw [Bool.not_eq_true] at hflag
    rw [hflag, hnone hflag]
    rfl

/-- A decoded geometry is valid, as the validator reads it, when it has an SRID and its type word
does not name one more dimension in the one style and the other in the other. -/
theorem decoded_valid_iff (h : decodePostgisEwkb bytes = .ok value) :
    Validated library value ↔ HeaderAgrees (hexBytes bytes) := by
  have hdecoded := decoded_of_ok h
  have hdims := ewkbDimensions_eq_iff hdecoded.iso
  unfold Validated HeaderAgrees
  rw [hdecoded.validate_iff, ← hdims]
  constructor
  · rintro ⟨hagrees, -⟩
    exact hagrees
  · intro hagrees
    exact ⟨hagrees, hdecoded.header_eq hagrees.2⟩

end

/-! ## What PostGIS prints -/

/-- The digit of a half byte, in both cases. -/
def halfDigits (n : ℕ) : List UInt8 :=
  [UInt8.ofNat n.digitChar.toNat, UInt8.ofNat n.digitChar.toUpper.toNat]

/-- Two digits for each byte. -/
inductive HexText : List UInt8 → List UInt8 → Prop
  | nil : HexText [] []
  | cons {byte high low : UInt8} {raw text : List UInt8}
      (hhigh : high ∈ halfDigits (byte.toNat / 16)) (hlow : low ∈ halfDigits (byte.toNat % 16))
      (h : HexText raw text) : HexText (byte :: raw) (high :: low :: text)

def wordBytes (little : Bool) (word : ℕ) : List UInt8 :=
  let bytes := [word, word / 2 ^ 8, word / 2 ^ 16, word / 2 ^ 24].map UInt8.ofNat
  if little then bytes else bytes.reverse

/-- A geometry before its coordinates. A flag or the thousands of the type tell one dimension more.
The thousands are the style of the ISO. -/
structure EwkbHeader where
  little : Bool
  geometry : ℕ
  thousands : ℕ
  flagZ : Bool
  flagM : Bool
  srid : Option ℤ

namespace EwkbHeader

variable (header : EwkbHeader)

structure Known : Prop where
  geometry : geometryName header.geometry ≠ "unknown"
  thousands : header.thousands ≤ 3
  srid : ∀ srid ∈ header.srid, -2 ^ 31 ≤ srid ∧ srid < 2 ^ 31

def word : ℕ :=
  header.thousands * 1000 + header.geometry + 2 ^ 29 * header.srid.isSome.toNat +
    2 ^ 30 * header.flagM.toNat + 2 ^ 31 * header.flagZ.toNat

def bytes : List UInt8 :=
  (if header.little then 1 else 0) :: wordBytes header.little header.word ++
    header.srid.elim [] fun srid => wordBytes header.little (srid % 2 ^ 32).toNat

def dimensions : ℕ :=
  2 + (header.flagZ || header.thousands == 1 || header.thousands == 3).toNat +
    (header.flagM || header.thousands == 2 || header.thousands == 3).toNat

end EwkbHeader

/-- A geometry is printed as its header and its coordinates. -/
inductive EwkbPrinted : LogicalValue → List UInt8 → Prop
  | geometry {header : EwkbHeader} {coordinates text : List UInt8} (hknown : header.Known)
      (htext : HexText (header.bytes ++ coordinates) text) :
      EwkbPrinted (.spatial .ewkb (Base64.encode (header.bytes ++ coordinates))
        (geometryName header.geometry) header.dimensions header.srid none) text

section Printed

variable {raw text bytes rest : List UInt8} {value : LogicalValue} {little : Bool} {word n : ℕ}
  {header : EwkbHeader}

theorem halfDigit_reads {digit : UInt8} (hn : n < 16) (h : digit ∈ halfDigits n) :
    isHexByte digit = true ∧ hexValue digit = n := by
  simp only [halfDigits, List.mem_cons, List.not_mem_nil, or_false] at h
  interval_cases n
  all_goals rcases h with rfl | rfl <;> exact ⟨rfl, rfl⟩

/-- A hexadecimal digit is one of those of its value. -/
theorem mem_halfDigits {digit : UInt8} (h : isHexByte digit = true) :
    hexValue digit < 16 ∧ digit ∈ halfDigits (hexValue digit) := by
  obtain ⟨n, hn, rfl⟩ : ∃ n < 256, digit = UInt8.ofNat n :=
    ⟨digit.toNat, digit.toNat_lt, by simp⟩
  interval_cases n
  all_goals first
    | exact absurd h (by decide)
    | exact ⟨by decide, by decide⟩

theorem HexText.reads (h : HexText raw text) :
    text.length = 2 * raw.length ∧ text.all isHexByte = true ∧ hexBytes text = raw := by
  induction h with
  | nil => exact ⟨rfl, rfl, rfl⟩
  | @cons byte high low raw text hhigh hlow _ ih =>
    obtain ⟨hlength, hall, hbytes⟩ := ih
    have hbyte := byte.toNat_lt
    obtain ⟨hhex, hvalue⟩ := halfDigit_reads (by omega) hhigh
    obtain ⟨hhex', hvalue'⟩ := halfDigit_reads (by omega) hlow
    refine ⟨?_, ?_, ?_⟩
    · simp only [List.length_cons]
      omega
    · simp only [List.all_cons, hhex, hhex', hall, Bool.and_self]
    · rw [hexBytes, hvalue, hvalue', hbytes, Nat.div_add_mod', UInt8.ofNat_toNat]

/-- Pairs of digits are the text of their bytes. -/
theorem hexText_hexBytes (heven : text.length % 2 = 0) (hall : text.all isHexByte = true) :
    HexText (hexBytes text) text := by
  induction text using hexBytes.induct with
  | case1 high low text ih =>
    simp only [List.all_cons, Bool.and_eq_true] at hall
    obtain ⟨hhigh, hlow, hrest⟩ := hall
    obtain ⟨hlt, hmem⟩ := mem_halfDigits hhigh
    obtain ⟨hlt', hmem'⟩ := mem_halfDigits hlow
    have hbyte : (UInt8.ofNat (hexValue high * 16 + hexValue low)).toNat =
        hexValue high * 16 + hexValue low := by
      rw [UInt8.toNat_ofNat']
      omega
    have hhalf : (hexValue high * 16 + hexValue low) / 16 = hexValue high := by omega
    have hhalf' : (hexValue high * 16 + hexValue low) % 16 = hexValue low := by omega
    simp only [List.length_cons] at heven
    refine .cons ?_ ?_ (ih (by omega) hrest)
    · rwa [hbyte, hhalf]
    · rwa [hbyte, hhalf']
  | case2 text hshort =>
    cases text with
    | nil => exact .nil
    | cons high text =>
      cases text with
      | nil => simp at heven
      | cons low text => exact absurd rfl (hshort high low text)

theorem readU32_wordBytes (h : word < 2 ^ 32) :
    readU32 (wordBytes little word ++ rest) little = .ok word := by
  cases little with
  | true =>
    simp only [wordBytes, readU32, List.map_cons, List.map_nil, List.cons_append, if_true,
      UInt8.toNat_ofNat']
    congr 1
    omega
  | false =>
    simp only [wordBytes, readU32, List.map_cons, List.map_nil, List.reverse_cons,
      List.reverse_nil, List.nil_append, List.cons_append, Bool.false_eq_true, if_false,
      UInt8.toNat_ofNat']
    congr 1
    omega

/-- A word is read from its bytes alone. -/
theorem readU32_eq_ok (h : readU32 raw little = .ok word) :
    word < 2 ^ 32 ∧ raw = wordBytes little word ++ raw.drop 4 := by
  unfold readU32 at h
  split at h
  · next b₀ b₁ b₂ b₃ rest =>
    have h₀ := b₀.toNat_lt
    have h₁ := b₁.toNat_lt
    have h₂ := b₂.toNat_lt
    have h₃ := b₃.toNat_lt
    have hbyte (b : UInt8) (n : ℕ) (hn : n % 2 ^ 8 = b.toNat) : UInt8.ofNat n = b := by
      apply UInt8.toNat_inj.mp
      rw [UInt8.toNat_ofNat', hn]
    obtain rfl := Except.ok.inj h
    cases little with
    | true =>
      refine ⟨by rw [if_pos rfl]; omega, ?_⟩
      simp only [wordBytes, if_true, List.map_cons, List.map_nil, List.cons_append,
        List.nil_append, List.drop_succ_cons, List.drop_zero]
      rw [hbyte b₀ _ (by omega), hbyte b₁ _ (by omega), hbyte b₂ _ (by omega),
        hbyte b₃ _ (by omega)]
    | false =>
      refine ⟨by rw [if_neg (by decide)]; omega, ?_⟩
      simp only [wordBytes, Bool.false_eq_true, if_false, List.map_cons, List.map_nil,
        List.reverse_cons, List.reverse_nil, List.cons_append, List.nil_append,
        List.drop_succ_cons, List.drop_zero]
      rw [hbyte b₀ _ (by omega), hbyte b₁ _ (by omega), hbyte b₂ _ (by omega),
        hbyte b₃ _ (by omega)]
  · cases h

theorem EwkbHeader.Known.geometry_lt (h : header.Known) : header.geometry < 1000 := by
  by_contra hle
  have hname := h.geometry
  unfold geometryName at hname
  split at hname
  all_goals first | omega | exact hname rfl

theorem testBit_of_div {i : ℕ} {b : Bool} (h : word / 2 ^ i % 2 = b.toNat) :
    word.testBit i = b := by
  rw [Nat.testBit_eq_decide_div_mod_eq, h]
  cases b <;> rfl

theorem packed_fields {low s m z : ℕ} (hlow : low < 2 ^ 29) (hs : s < 2) (hm : m < 2)
    (hz : z < 2) :
    low + 2 ^ 29 * s + 2 ^ 30 * m + 2 ^ 31 * z < 2 ^ 32 ∧
      (low + 2 ^ 29 * s + 2 ^ 30 * m + 2 ^ 31 * z) % 2 ^ 29 = low ∧
      (low + 2 ^ 29 * s + 2 ^ 30 * m + 2 ^ 31 * z) / 2 ^ 29 % 2 = s ∧
      (low + 2 ^ 29 * s + 2 ^ 30 * m + 2 ^ 31 * z) / 2 ^ 30 % 2 = m ∧
      (low + 2 ^ 29 * s + 2 ^ 30 * m + 2 ^ 31 * z) / 2 ^ 31 % 2 = z := by
  omega

/-- The type and the flags of a word are found again. -/
theorem EwkbHeader.Known.word_spec (h : header.Known) :
    header.word < 2 ^ 32 ∧ header.word % 2 ^ 29 = header.thousands * 1000 + header.geometry ∧
      header.word.testBit 29 = header.srid.isSome ∧ header.word.testBit 30 = header.flagM ∧
        header.word.testBit 31 = header.flagZ := by
  have hgeometry := h.geometry_lt
  have hthousands := h.thousands
  obtain ⟨hlt, hlow, hsrid, hflagM, hflagZ⟩ := @packed_fields
    (header.thousands * 1000 + header.geometry) _ _ _ (by omega) header.srid.isSome.toNat_lt
    header.flagM.toNat_lt header.flagZ.toNat_lt
  exact ⟨hlt, hlow, testBit_of_div hsrid, testBit_of_div hflagM, testBit_of_div hflagZ⟩

theorem asI32_word {srid : ℤ} (h : -2 ^ 31 ≤ srid ∧ srid < 2 ^ 31) :
    (srid % 2 ^ 32).toNat < 2 ^ 32 ∧ asI32 (srid % 2 ^ 32).toNat = srid := by
  unfold asI32
  split
  · omega
  · omega

/-- The thousands and the flags of a word give the dimensions of its header. -/
theorem EwkbHeader.Known.dimensions_eq (h : header.Known) :
    ewkbDimensions header.word = header.dimensions := by
  obtain ⟨-, htype, -, hflagM, hflagZ⟩ := h.word_spec
  have hgeometry := h.geometry_lt
  have hiso : (header.thousands * 1000 + header.geometry) / 1000 = header.thousands := by omega
  simp only [ewkbDimensions, EwkbHeader.dimensions, htype, hiso, hflagM, hflagZ, Bool.or_assoc]

/-- What is printed for a geometry is decoded as it. -/
theorem decodePostgisEwkb_printed (h : EwkbPrinted value text) :
    decodePostgisEwkb text = .ok value := by
  cases h with
  | @geometry header coordinates _ hknown htext =>
    obtain ⟨hlength, hall, hraw⟩ := htext.reads
    obtain ⟨hword, htype, hsrid, -, -⟩ := hknown.word_spec
    have hgeometry := hknown.geometry_lt
    have hthousands := hknown.thousands
    have hwords (little : Bool) (word : ℕ) : (wordBytes little word).length = 4 := by
      cases little <;> rfl
    have hraw5 : 5 ≤ (header.bytes ++ coordinates).length := by
      simp only [EwkbHeader.bytes, List.cons_append, List.length_cons, List.length_append, hwords]
      omega
    have horder : ewkbByteOrder (header.bytes ++ coordinates) = .ok header.little := by
      unfold EwkbHeader.bytes
      cases header.little <;> rfl
    have htypeWord : ewkbWord (header.bytes ++ coordinates) header.little 1 = .ok header.word := by
      rw [ewkbWord_eq_ok]
      simp only [EwkbHeader.bytes, List.cons_append, List.drop_succ_cons, List.drop_zero,
        List.append_assoc]
      exact readU32_wordBytes hword
    have hsridWord : ewkbSrid (header.bytes ++ coordinates) header.little header.srid.isSome =
        .ok header.srid := by
      rw [ewkbSrid_eq_ok]
      cases hsome : header.srid with
      | none => exact ⟨by rintro ⟨⟩, fun _ => rfl⟩
      | some srid =>
        obtain ⟨hlt, hvalue⟩ := asI32_word (hknown.srid srid hsome)
        refine ⟨fun _ => ⟨_, ?_, congrArg some hvalue.symm⟩, by rintro ⟨⟩⟩
        simp only [EwkbHeader.bytes, hsome, Option.elim_some, List.cons_append,
          List.drop_succ_cons, List.append_assoc]
        rw [List.drop_append_of_le_length (by rw [hwords]), ← hwords header.little header.word,
          List.drop_length, List.nil_append]
        exact readU32_wordBytes hlt
    have hiso : (header.thousands * 1000 + header.geometry) / 1000 = header.thousands := by omega
    have hcode : (if header.thousands = 0 then header.thousands * 1000 + header.geometry
        else (header.thousands * 1000 + header.geometry) % 1000) = header.geometry := by
      split
      · omega
      · omega
    have hhex : ¬ (text.length < 10 ∨ text.length % 2 ≠ 0 ∨ ¬ text.all isHexByte = true) := by
      rintro (hshort | hodd | hdigit)
      · omega
      · omega
      · exact hdigit hall
    unfold decodePostgisEwkb
    rw [if_neg hhex]
    simp only [hraw, horder, htypeWord, hsrid, hsridWord, htype, hiso, hcode, hknown.dimensions_eq,
      ok_bind, throw_eq, error_bind, pure_eq, guard_eq_ok, not_lt]
    exact ⟨hknown.geometry, hthousands, trivial⟩

theorem word_asI32 (h : word < 2 ^ 32) :
    -2 ^ 31 ≤ asI32 word ∧ asI32 word < 2 ^ 31 ∧ (asI32 word % 2 ^ 32).toNat = word := by
  unfold asI32
  split
  · omega
  · omega

/-- A word is made of its type and its flags. -/
theorem word_packed (h : word < 2 ^ 32) :
    word % 2 ^ 29 / 1000 * 1000 + word % 2 ^ 29 % 1000 + 2 ^ 29 * (word.testBit 29).toNat +
      2 ^ 30 * (word.testBit 30).toNat + 2 ^ 31 * (word.testBit 31).toNat = word := by
  have hsplit := Nat.div_add_mod word (2 ^ 29)
  have h30 : word / 2 ^ 30 = word / 2 ^ 29 / 2 := (Nat.div_div_eq_div_mul word (2 ^ 29) 2).symm
  have h31 : word / 2 ^ 31 = word / 2 ^ 29 / 4 := (Nat.div_div_eq_div_mul word (2 ^ 29) 4).symm
  simp only [Nat.toNat_testBit, h30, h31]
  generalize word / 2 ^ 29 = flags at hsplit
  generalize word % 2 ^ 29 = type at hsplit
  have hflags : flags < 8 := by omega
  interval_cases flags
  all_goals omega

def headerOf (raw : List UInt8) (srid : Option ℤ) : EwkbHeader :=
  ⟨raw.headD 0 == 1, typeWord raw % 2 ^ 29 % 1000, typeWord raw % 2 ^ 29 / 1000,
    (typeWord raw).testBit 31, (typeWord raw).testBit 30, srid⟩

/-- The bytes that are decoded are those of a header and of what comes behind it. -/
theorem Decoded.exists_header (h : Decoded raw value) :
    ∃ (header : EwkbHeader) (coordinates : List UInt8), header.Known ∧
      raw = header.bytes ++ coordinates ∧
        value = .spatial .ewkb (Base64.encode raw) (geometryName header.geometry)
          header.dimensions header.srid none := by
  obtain ⟨horder, hword, hknown, hiso, srid, hsrid, rfl⟩ := h
  obtain ⟨hlt, hbytes⟩ := readU32_eq_ok hword
  obtain ⟨hread, hnone⟩ := ewkbSrid_eq_ok.mp hsrid
  have hflag : srid.isSome = (typeWord raw).testBit 29 := by
    cases hbit : (typeWord raw).testBit 29 with
    | true =>
      obtain ⟨_, -, rfl⟩ := hread hbit
      rfl
    | false => rw [hnone hbit, Option.isSome_none]
  have hmarker : raw = (if (raw.headD 0 == 1) = true then 1 else 0) :: raw.drop 1 := by
    cases raw with
    | nil => simp [readU32] at hword
    | cons marker rest =>
      rcases horder with hzero | hone
      · simp only [List.headD_cons] at hzero
        subst hzero
        rfl
      · simp only [List.headD_cons] at hone
        subst hone
        rfl
  have hpacked : (headerOf raw srid).word = typeWord raw := by
    simp only [EwkbHeader.word, headerOf, hflag]
    exact word_packed hlt
  have hvalid : ∀ s ∈ srid, -2 ^ 31 ≤ s ∧ s < 2 ^ 31 := by
    rintro s hs
    obtain rfl := Option.mem_def.mp hs
    obtain ⟨w, hw, heq⟩ := hread hflag.symm
    obtain rfl := Option.some.inj heq
    obtain ⟨hlow, hhigh, -⟩ := word_asI32 (readU32_eq_ok hw).1
    exact ⟨hlow, hhigh⟩
  have hheader : (headerOf raw srid).Known := ⟨hknown, hiso, hvalid⟩
  have hrest : raw.drop 1 = wordBytes (raw.headD 0 == 1) (typeWord raw) ++ raw.drop 5 := by
    rwa [List.drop_drop] at hbytes
  refine ⟨headerOf raw srid, if srid.isSome then raw.drop 9 else raw.drop 5, hheader, ?_, ?_⟩
  · rw [EwkbHeader.bytes, hpacked]
    cases srid with
    | none =>
      simp only [headerOf, Option.elim_none, Option.isSome_none, Bool.false_eq_true, if_false,
        List.append_nil, List.cons_append]
      rw [← hrest]
      exact hmarker
    | some srid =>
      obtain ⟨w, hw, heq⟩ := hread hflag.symm
      obtain rfl := Option.some.inj heq
      obtain ⟨hwlt, hwbytes⟩ := readU32_eq_ok hw
      rw [List.drop_drop] at hwbytes
      simp only [headerOf, Option.elim_some, Option.isSome_some, if_true, List.cons_append,
        List.append_assoc, (word_asI32 hwlt).2.2]
      rw [← hwbytes, ← hrest]
      exact hmarker
  · rw [← hheader.dimensions_eq, hpacked]
    rfl

/-- What is decoded is printed: the texts that are accepted are those that have been described. -/
theorem decodePostgisEwkb_eq_ok_iff :
    decodePostgisEwkb text = .ok value ↔ EwkbPrinted value text := by
  refine ⟨fun h => ?_, decodePostgisEwkb_printed⟩
  have hhex : text.length % 2 = 0 ∧ text.all isHexByte = true := by
    unfold decodePostgisEwkb at h
    rw [guard_eq_ok] at h
    obtain ⟨hhex, -⟩ := h
    simp only [not_or, not_not] at hhex
    exact hhex.2
  obtain ⟨header, coordinates, hknown, hraw, rfl⟩ := (decoded_of_ok h).exists_header
  have htext := hexText_hexBytes hhex.1 hhex.2
  rw [hraw] at htext ⊢
  exact .geometry hknown htext

end Printed

/-- The bytes of an ASCII text -/
def asciiBytes (text : String) : List UInt8 := text.toList.map fun c => UInt8.ofNat c.toNat

theorem decoded_valid_collection : ∃ value,
    decodePostgisEwkb (asciiBytes "0107000020e610000000000000") = .ok value ∧
      (Validated plainValidation value ↔
        HeaderAgrees (hexBytes (asciiBytes "0107000020e610000000000000"))) := by
  have hdecoded : decodePostgisEwkb (asciiBytes "0107000020e610000000000000") =
      .ok (.spatial .ewkb "AQcAACDmEAAAAAAAAA" "geometrycollection" 2 (some 4326) none) := rfl
  exact ⟨_, hdecoded, decoded_valid_iff hdecoded⟩

/-- An empty collection without an SRID is decoded and then refused. -/
theorem geometry_without_srid_refused :
    decodePostgisEwkb (asciiBytes "010700000000000000") =
        .ok (.spatial .ewkb "AQcAAAAAAAAA" "geometrycollection" 2 none none) ∧
      logicalValue plainValidation
          (.spatial .ewkb "AQcAAAAAAAAA" "geometrycollection" 2 none none) =
        .error "EWKB spatial value is missing its SRID" := by
  constructor
  · rfl
  · rfl

end DatabaseSync.PostgresqlSource
