import DatabaseSync.MysqlSink.Value
import DatabaseSync.MysqlSource.BitValue
import DatabaseSync.Planner.BitBinding
import DatabaseSync.PostgresqlSink.Value
import DatabaseSync.PostgresqlSource.Types
import DatabaseSync.Worker.RowMeaning

/-! # Bit strings between the vendors

MySQL delivers a `BIT` value as the bytes of its number, the highest byte first. The decoder takes
the bits of each byte from the lowest on, and the sink for MySQL writes them that way.
-/

namespace DatabaseSync.Worker

open Bits ChangeEvent Checked

/-! ## Digits -/

/-- The bytes of a literal's number. -/
def octets (n : ℕ) : ℕ := (n + 7) / 8

/-- The digit that is found at a position when the bits of each byte of the number are read from
the lowest on. -/
def readDigit (digits : List Bool) (position : ℕ) : Bool :=
  (ofDigits digits).testBit (8 * (octets digits.length - 1 - position / 8) + position % 8)

/-- The digits of the last group of eight, counted from the left. -/
def groupWidth (n : ℕ) : ℕ := if n % 8 = 0 then 8 else n % 8

/-- In each group of eight digits the first ones, as many as the last group has, read the same
backwards, and zeros follow. -/
def OctetsMirror (digits : List Bool) : Prop :=
  ∀ index < octets digits.length, ∀ q < 8,
    digits.getD (8 * index + q) false =
      if q < groupWidth digits.length then
        digits.getD (8 * index + (groupWidth digits.length - 1 - q)) false
      else false

instance (digits : List Bool) : Decidable (OctetsMirror digits) :=
  inferInstanceAs (Decidable (∀ index < octets digits.length, ∀ q < 8, _ = _))

section Digits

variable {digits : List Bool}

theorem length_eq (hpos : 0 < digits.length) :
    digits.length = 8 * (octets digits.length - 1) + groupWidth digits.length := by
  unfold octets groupWidth
  split
  · omega
  · omega

theorem groupWidth_le (n : ℕ) : groupWidth n ≤ 8 := by
  unfold groupWidth
  split
  · omega
  · omega

/-- A digit read from the bytes is one of the literal, or before its start. -/
theorem readDigit_eq (hpos : 0 < digits.length) {index q : ℕ}
    (hindex : index < octets digits.length) (hq : q < 8) :
    readDigit digits (8 * index + q) =
      if q < 8 * index + groupWidth digits.length then
        digits.getD (8 * index + groupWidth digits.length - 1 - q) false
      else false := by
  have hlength := length_eq hpos
  have hdiv : (8 * index + q) / 8 = index := by omega
  have hmod : (8 * index + q) % 8 = q := by omega
  rw [readDigit, hdiv, hmod, testBit_ofDigits]
  split
  case isTrue hlt =>
    have hj : 8 * (octets digits.length - 1 - index) + q < digits.length := by omega
    have hsub : digits.length - 1 - (8 * (octets digits.length - 1 - index) + q) =
        8 * index + groupWidth digits.length - 1 - q := by omega
    rw [List.getD_eq_getElem?_getD, List.getElem?_reverse hj, hsub, List.getD_eq_getElem?_getD]
  case isFalse hge =>
    rw [List.getD_eq_default]
    rw [List.length_reverse]
    omega

/-- Reading the bytes gives the literal back when its octets mirror. -/
theorem readDigit_eq_iff (hpos : 0 < digits.length) :
    (∀ position < 8 * octets digits.length,
      readDigit digits position = digits.getD position false) ↔ OctetsMirror digits := by
  have hwidth := groupWidth_le digits.length
  constructor
  · intro h
    have hread : ∀ index < octets digits.length, ∀ q < 8,
        readDigit digits (8 * index + q) = digits.getD (8 * index + q) false :=
      fun index hindex q hq => h _ (by omega)
    -- The digits after the mirrored ones come from the group before, and the first has none.
    have hzero : ∀ index < octets digits.length, ∀ q < 8, groupWidth digits.length ≤ q →
        digits.getD (8 * index + q) false = false := by
      intro index
      induction index with
      | zero =>
        intro hindex q hq hle
        rw [← hread 0 hindex q hq, readDigit_eq hpos hindex hq, if_neg (by omega)]
      | succ index ih =>
        intro hindex q hq hle
        have hplace : 8 * (index + 1) + groupWidth digits.length - 1 - q =
            8 * index + (7 + groupWidth digits.length - q) := by omega
        rw [← hread _ hindex q hq, readDigit_eq hpos hindex hq, if_pos (by omega), hplace]
        exact ih (by omega) _ (by omega) (by omega)
    intro index hindex q hq
    split
    case isTrue hlt =>
      have hplace : 8 * index + groupWidth digits.length - 1 - q =
          8 * index + (groupWidth digits.length - 1 - q) := by omega
      rw [← hread index hindex q hq, readDigit_eq hpos hindex hq, if_pos (by omega), hplace]
    case isFalse hge => exact hzero index hindex q hq (not_lt.mp hge)
  · intro h position hposition
    have hindex : position / 8 < octets digits.length := by omega
    have hq : position % 8 < 8 := Nat.mod_lt _ (by decide)
    have hsplit : position = 8 * (position / 8) + position % 8 := by omega
    rw [hsplit, readDigit_eq hpos hindex hq, h _ hindex _ hq]
    by_cases hlt : position % 8 < groupWidth digits.length
    · have hplace : 8 * (position / 8) + groupWidth digits.length - 1 - position % 8 =
          8 * (position / 8) + (groupWidth digits.length - 1 - position % 8) := by omega
      rw [if_pos hlt, if_pos (by omega), hplace]
    · rw [if_neg hlt]
      split
      case isTrue hle =>
        have hplace : 8 * (position / 8) + groupWidth digits.length - 1 - position % 8 =
            8 * (position / 8 - 1) + (7 + groupWidth digits.length - position % 8) := by omega
        rw [hplace, h _ (by omega) _ (by omega), if_neg (by omega)]
      case isFalse => rfl

end Digits

/-! ## Both directions -/

/-- `B'…'` without the quotes. -/
def literal (digits : List Bool) : String :=
  String.ofList (digits.map fun digit => if digit then '1' else '0')

/-- What a `BIT(n)` column holds after a byte string has been assigned in strict mode: a number
that does not fit is refused. -/
def storeBit (bitLength : ℕ) (bytes : List UInt8) : Option ℕ :=
  if ofBytes bytes < 2 ^ bitLength then some (ofBytes bytes) else none

/-- A MySQL `BIT` value arrives in the sink for PostgreSQL as its literal. -/
def ReachesPostgresql (library : PostgresqlSink.ValueLibrary) (plan : ColumnConversionPlan)
    (nativeType : String) (digits : List Bool) : Prop :=
  ∃ value converted,
    MysqlSource.decodeBit ("bit(" ++ toString digits.length ++ ")")
      (toBytes (octets digits.length) (ofDigits digits)) = .ok value ∧
    convertWithBitStringPlan plan value = .ok converted ∧
    PostgresqlSink.parameterFor library converted nativeType = .ok (.text (literal digits))

/-- A PostgreSQL `bit` value is stored by the sink for MySQL as its number. -/
def ReachesMysql (library : MysqlSink.ValueLibrary) (plan : ColumnConversionPlan)
    (digits : List Bool) : Prop :=
  ∃ value converted bytes,
    PostgresqlSource.bitString (literal digits) = .ok value ∧
    convertWithBitStringPlan plan value = .ok converted ∧
    MysqlSink.bindLogicalValue library converted = .ok (.bytes bytes) ∧
    storeBit digits.length bytes = some (ofDigits digits)

section Directions

variable {digits : List Bool} {plan : ColumnConversionPlan}

theorem octets_places {digits : List Bool} {p : ℕ} (h : p < 8 * octets digits.length) :
    p / 8 < octets digits.length := by omega

/-- The bits of the driver's bytes are the digits read from the lowest bits on. -/
theorem readBit_toBytes {p : ℕ} (hp : p < 8 * octets digits.length) :
    readBit (toBytes (octets digits.length) (ofDigits digits)) .lsbFirst p =
      readDigit digits p := by
  rw [readBit_eq, BitOrder.offset, bitOf_toBytes (octets_places hp) (Nat.mod_lt _ (by decide))]
  rfl

theorem bitStringText_eq_ok {bytes : List UInt8} {order : BitOrder} {n : ℕ} (hpos : 0 < n)
    (hle : n ≤ 8 * bytes.length) :
    PostgresqlSink.bitStringText bytes n order =
      .ok (literal ((List.range n).map (readBit bytes order))) := by
  have hbit : PostgresqlSink.bitAt bytes order = readBit bytes order := by
    ext p
    rw [readBit_eq]
    cases order <;> rfl
  rw [PostgresqlSink.bitStringText, if_neg (by omega), hbit, literal, List.map_map]
  rfl

theorem literal_injective {as bs : List Bool} : literal as = literal bs ↔ as = bs := by
  rw [literal, literal, String.ofList_inj]
  refine List.map_injective_iff.mpr ?_ |>.eq_iff
  rintro (_ | _) (_ | _) h <;> simp_all

/-- Lists of a length agree when their elements do. -/
theorem map_range_eq_iff {f : ℕ → Bool} :
    (List.range digits.length).map f = digits ↔
      ∀ p < digits.length, f p = digits.getD p false := by
  constructor
  · intro h p hp
    rw [← h]
    simp [hp]
  · intro h
    refine List.ext_getElem (by simp) fun p hp hp' => ?_
    rw [List.getElem_map, List.getElem_range, h p hp', List.getD_eq_getElem _ _ hp']

theorem zero_padding_of_readDigit
    (h : ∀ p < 8 * octets digits.length, readDigit digits p = digits.getD p false) :
    ∀ p, digits.length ≤ p → p < 8 * octets digits.length → readDigit digits p = false := by
  intro p hle hlt
  rw [h p hlt, List.getD_eq_default _ _ hle]

theorem reachesPostgresql_iff (hpos : 0 < digits.length) (hle : digits.length ≤ 64)
    (hplan : BitStringPlan plan digits.length .lsbFirst .msbFirst)
    (library : PostgresqlSink.ValueLibrary) {nativeType : String} :
    ReachesPostgresql library plan nativeType digits ↔ OctetsMirror digits := by
  rw [← readDigit_eq_iff hpos]
  have hoctets : digits.length ≤ 8 * octets digits.length := by
    unfold octets
    omega
  have hdecode : MysqlSource.decodeBit ("bit(" ++ toString digits.length ++ ")")
      (toBytes (octets digits.length) (ofDigits digits)) =
      .ok (.bitString (Base64.encode (toBytes (octets digits.length) (ofDigits digits)))
        digits.length (zeroPadding digits.length) .lsbFirst) := by
    rw [MysqlSource.decodeBit, MysqlSource.nativeBitLength_declared hpos hle]
    rfl
  -- The rendered digits are those the decoder read.
  have hrender : PostgresqlSink.parameterFor library (.bitString (Base64.encode (writeBits
        (List.replicate (octets digits.length) 0) .msbFirst
        (readBit (toBytes (octets digits.length) (ofDigits digits)) .lsbFirst) digits.length))
        digits.length (zeroPadding digits.length) .msbFirst) nativeType =
      .ok (.text (literal ((List.range digits.length).map (readDigit digits)))) := by
    simp only [PostgresqlSink.parameterFor, PostgresqlSink.decodeBytes, Base64.decode_encode,
      ok_bind, pure_eq]
    rw [bitStringText_eq_ok hpos (by simpa using hoctets), ok_bind]
    refine congrArg (fun l => Except.ok (PostgresqlSink.Parameter.text (literal l))) ?_
    refine List.map_congr_left fun p hp => ?_
    have hp : p < digits.length := List.mem_range.mp hp
    have hplace : p < 8 * octets digits.length := by omega
    rw [readBit_writeBits (by simpa using octets_places hplace), readBit_replicate,
      readBit_toBytes hplace]
    simp [hp]
  constructor
  · rintro ⟨value, converted, hvalue, hconverted, htext⟩
    rw [hdecode, Except.ok.injEq] at hvalue
    subst hvalue
    obtain ⟨⟨-, hclear⟩, rfl⟩ := hplan.convertWith_eq_ok_iff.mp hconverted
    rw [length_toBytes, hrender] at htext
    have hdigits : (List.range digits.length).map (readDigit digits) = digits := by
      simpa [literal_injective] using htext
    rw [map_range_eq_iff] at hdigits
    intro p hp
    rcases lt_or_ge p digits.length with hlt | hge
    · exact hdigits p hlt
    · rw [← readBit_toBytes hp, hclear p hge (by simpa using hp), List.getD_eq_default _ _ hge]
  · intro h
    have hdigits : (List.range digits.length).map (readDigit digits) = digits :=
      map_range_eq_iff.mpr fun p hp => h p (by omega)
    refine ⟨_, _, hdecode, hplan.convertWith_eq_ok_iff.mpr ⟨⟨?_, ?_⟩, rfl⟩, ?_⟩
    · rw [length_toBytes]
      rfl
    · intro p hge hp
      rw [length_toBytes] at hp
      rw [readBit_toBytes hp]
      exact zero_padding_of_readDigit h p hge hp
    · rw [length_toBytes, hrender, hdigits]

theorem bitString_literal (hpos : 0 < digits.length) :
    PostgresqlSource.bitString (literal digits) =
      .ok (.bitString (Base64.encode (writeBits (List.replicate (octets digits.length) 0) .msbFirst
        (digits.getD · false) digits.length)) digits.length (zeroPadding digits.length)
        .msbFirst) := by
  have htext : (literal digits).toList = digits.map fun digit => if digit then '1' else '0' := by
    rw [literal, String.toList_ofList]
  have hne : (literal digits).isEmpty = false := by
    rw [String.isEmpty_eq_false_iff, ne_eq, ← String.toList_eq_nil_iff, htext]
    simpa using List.ne_nil_of_length_pos hpos
  have hbit : (fun index => (literal digits).toList.getD index '0' == '1') =
      fun index => digits.getD index false := by
    ext index
    rw [htext, List.getD_eq_getElem?_getD, List.getElem?_map, List.getD_eq_getElem?_getD]
    cases digits[index]? with
    | none => rfl
    | some digit => cases digit <;> rfl
  have hall : (literal digits).toList.all (fun c => c == '0' || c == '1') = true := by
    rw [htext, List.all_map, List.all_eq_true]
    rintro (_ | _) _ <;> rfl
  rw [PostgresqlSource.bitString, hne, hall, hbit, htext, List.length_map]
  rfl

/-- The bytes for MySQL hold the number when its bytes read as the literal. -/
theorem ofBytes_writeBits_eq_iff {bit : ℕ → Bool}
    (hbit : ∀ p < digits.length, bit p = digits.getD p false) :
    ofBytes (writeBits (List.replicate (octets digits.length) 0) .lsbFirst bit digits.length) =
        ofDigits digits ↔
      ∀ p < 8 * octets digits.length, readDigit digits p = digits.getD p false := by
  have hlength : (writeBits (List.replicate (octets digits.length) 0) .lsbFirst bit
      digits.length).length = octets digits.length := by simp
  have hfits : ofDigits digits < 2 ^ (8 * octets digits.length) := by
    refine lt_of_lt_of_le ofDigits_lt (Nat.pow_le_pow_right (by decide) ?_)
    unfold octets
    omega
  have hread : ∀ p < 8 * octets digits.length, readBit (writeBits
      (List.replicate (octets digits.length) 0) .lsbFirst bit digits.length) .lsbFirst p =
        digits.getD p false := by
    intro p hp
    rw [readBit_writeBits (by simpa using octets_places hp), readBit_replicate, Bool.false_or]
    by_cases hlt : p < digits.length
    · rw [decide_eq_true hlt, Bool.true_and, hbit p hlt]
    · rw [decide_eq_false hlt, Bool.false_and, List.getD_eq_default _ _ (not_lt.mp hlt)]
  rw [ofBytes_eq_iff (by rwa [hlength]), hlength]
  constructor
  · intro h p hp
    have hplace := h (p / 8) (octets_places hp) (p % 8) (Nat.mod_lt _ (by decide))
    rw [readDigit, ← hplace, ← hread p hp, readBit_eq]
    rfl
  · intro h index hindex b hb
    have hp : 8 * index + b < 8 * octets digits.length := by omega
    have hdiv : (8 * index + b) / 8 = index := by omega
    have hmod : (8 * index + b) % 8 = b := by omega
    have hplace := (hread _ hp).trans (h _ hp).symm
    rw [readBit_eq, BitOrder.offset, readDigit, hdiv, hmod] at hplace
    exact hplace

theorem reachesMysql_iff (hpos : 0 < digits.length)
    (hplan : BitStringPlan plan digits.length .msbFirst .lsbFirst)
    (library : MysqlSink.ValueLibrary) :
    ReachesMysql library plan digits ↔ OctetsMirror digits := by
  rw [← readDigit_eq_iff hpos]
  -- The captured bytes hold the digits and zeros after them.
  have hread : ∀ p < 8 * octets digits.length, readBit (writeBits
      (List.replicate (octets digits.length) 0) .msbFirst (digits.getD · false) digits.length)
        .msbFirst p = digits.getD p false := by
    intro p hp
    rw [readBit_writeBits (by simpa using octets_places hp), readBit_replicate, Bool.false_or]
    by_cases hlt : p < digits.length
    · rw [decide_eq_true hlt, Bool.true_and]
    · rw [decide_eq_false hlt, Bool.false_and, List.getD_eq_default _ _ (not_lt.mp hlt)]
  rw [← ofBytes_writeBits_eq_iff fun p hp => hread p (by unfold octets; omega)]
  constructor
  · rintro ⟨value, converted, bytes, hvalue, hconverted, hbytes, hstored⟩
    rw [bitString_literal hpos, Except.ok.injEq] at hvalue
    subst hvalue
    obtain ⟨-, rfl⟩ := hplan.convertWith_eq_ok_iff.mp hconverted
    simp only [MysqlSink.bindLogicalValue, MysqlSink.decodeBytes, Base64.decode_encode, ok_bind,
      pure_eq, Except.ok.injEq, MysqlSink.Value.bytes.injEq, length_writeBits,
      List.length_replicate] at hbytes
    subst hbytes
    rw [storeBit] at hstored
    split at hstored
    · exact Option.some.inj hstored
    · cases hstored
  · intro hequal
    refine ⟨_, _, writeBits (List.replicate (octets digits.length) 0) .lsbFirst (readBit (writeBits
      (List.replicate (octets digits.length) 0) .msbFirst (digits.getD · false) digits.length)
      .msbFirst) digits.length, bitString_literal hpos,
      hplan.convertWith_eq_ok_iff.mpr ⟨⟨?_, ?_⟩, rfl⟩, ?_, ?_⟩
    · simp [octets]
    · intro p hge hp
      rw [length_writeBits, List.length_replicate] at hp
      rw [hread p hp, List.getD_eq_default _ _ hge]
    · simp only [MysqlSink.bindLogicalValue, MysqlSink.decodeBytes, Base64.decode_encode, ok_bind,
        pure_eq, length_writeBits, List.length_replicate]
    · rw [storeBit, hequal, if_pos ofDigits_lt]

end Directions

/-- Both vendors keep a literal when the groups of eight digits mirror. -/
theorem bit_strings_kept_iff_octets_mirror {digests : Planner.DigestLibrary}
    (postgresql : PostgresqlSink.ValueLibrary) (mysql : MysqlSink.ValueLibrary)
    {digits : List Bool} (hpos : 1 ≤ digits.length) (hle : digits.length ≤ 64)
    {x y : Planner.FieldCompatibilityInput} {r s : Planner.CompatibilityResult}
    {p q : Planner.ColumnConversionPlan}
    (hx : x.BindsBitStrings .lsbFirst Planner.postgresqlBitStrings digits.length)
    (hr : Planner.explainFieldCompatibility digests x = .ok r) (hp : r.plan = some p)
    (hy : y.BindsBitStrings .msbFirst Planner.mysqlBitStrings digits.length)
    (hs : Planner.explainFieldCompatibility digests y = .ok s) (hq : s.plan = some q) :
    ReachesPostgresql postgresql p.toColumnConversionPlan x.targetField.nativeType digits ∧
        ReachesMysql mysql q.toColumnConversionPlan digits ↔
      OctetsMirror digits := by
  have hlength : digits.length < 2 ^ 64 := lt_of_le_of_lt hle (by norm_num)
  have htoPostgresql := hx.bitStringPlan hlength hr hp
  have htoMysql := hy.bitStringPlan hlength hs hq
  rw [reachesPostgresql_iff hpos hle htoPostgresql postgresql,
    reachesMysql_iff hpos htoMysql mysql, and_self]

theorem bit_strings_kept_mirrored : ∃ r p s q,
    Planner.explainFieldCompatibility Planner.sampleDigests (Planner.bitsToPostgresql 8) = .ok r ∧
      r.plan = some p ∧
    Planner.explainFieldCompatibility Planner.sampleDigests (Planner.bitsToMysql 8) = .ok s ∧
      s.plan = some q ∧
    ReachesPostgresql Postgresql.sampleLibrary p.toColumnConversionPlan "bit(8)"
      [true, false, true, false, false, true, false, true] ∧
    ReachesMysql Mysql.sampleLibrary q.toColumnConversionPlan
      [true, false, true, false, false, true, false, true] := by
  obtain ⟨r, p, hr, hp⟩ : ∃ r p,
      Planner.explainFieldCompatibility Planner.sampleDigests (Planner.bitsToPostgresql 8) = .ok r ∧
        r.plan = some p := ⟨_, _, rfl, rfl⟩
  obtain ⟨s, q, hs, hq⟩ : ∃ s q,
      Planner.explainFieldCompatibility Planner.sampleDigests (Planner.bitsToMysql 8) = .ok s ∧
        s.plan = some q := ⟨_, _, rfl, rfl⟩
  have hmysql := Planner.bindsBitStrings_bitsToMysql
    (show 8 ∈ Planner.mysqlBitStrings.lengths by decide)
  refine ⟨r, p, s, q, hr, hp, hs, hq, ?_⟩
  exact (bit_strings_kept_iff_octets_mirror Postgresql.sampleLibrary Mysql.sampleLibrary
    (by decide) (by decide) (Planner.bindsBitStrings_bitsToPostgresql 8) hr hp
    hmysql hs hq).mpr (by decide)

/-- The literal `01` of a `BIT(2)` column does not arrive as `01`. -/
theorem bit_literal_not_kept : ∃ r p,
    Planner.explainFieldCompatibility Planner.sampleDigests (Planner.bitsToPostgresql 2) = .ok r ∧
      r.plan = some p ∧
    ¬ ReachesPostgresql Postgresql.sampleLibrary p.toColumnConversionPlan "bit(2)"
      [false, true] := by
  obtain ⟨r, p, hr, hp⟩ : ∃ r p,
      Planner.explainFieldCompatibility Planner.sampleDigests (Planner.bitsToPostgresql 2) = .ok r ∧
        r.plan = some p := ⟨_, _, rfl, rfl⟩
  refine ⟨r, p, hr, hp, ?_⟩
  have hplan := (Planner.bindsBitStrings_bitsToPostgresql 2).bitStringPlan (by decide) hr hp
  intro hreaches
  have hmirror := (reachesPostgresql_iff (by decide) (by decide) hplan _).mp hreaches
  revert hmirror
  decide

end DatabaseSync.Worker
