import DatabaseSync.Library.AsciiCase
import DatabaseSync.Library.Utf8
import DatabaseSync.Planner.TextConversion

/-! # Bytes in a character set

What the bytes of a text stand for on the servers, and what the converter makes of them. For UTF-8
and ASCII these are the same; for `latin1` the converter takes bytes for code points.
-/

namespace DatabaseSync.Planner

open ChangeEvent Checked JsonText Text

/-- The character sets of the servers. In `latin1` every byte is a character of its own; which one
the bytes from `0x80` to `0x9f` are differs between the servers. -/
structure ServerCharsets extends OtherCharsets where
  latin1 : UInt8 → Char
  latin1_injective : Function.Injective latin1
  spells : String → List UInt8 → List Char → Prop

def isLatin1 (charset : String) : Bool :=
  toAsciiLowercase charset == "latin1" || toAsciiLowercase charset == "iso-8859-1"

def isUtf8Name (charset : String) : Bool :=
  ["utf8", "utf8mb3", "utf8mb4", "ascii"].contains (toAsciiLowercase charset)

section Meaning

variable (servers : ServerCharsets)

/-- The bytes are the text in the character set. -/
def Spells (charset : String) (bytes : List UInt8) (text : List Char) : Prop :=
  if isUtf8Name charset then
    bytes = utf8 text ∧ ∀ c ∈ text, holds servers.toOtherCharsets charset c = true
  else if toAsciiLowercase charset = "utf-8" then bytes = utf8 text
  else if isLatin1 charset then text = bytes.map servers.latin1
  else servers.spells (toAsciiLowercase charset) bytes text

/-- The character has its code point for a byte in `latin1`. -/
def InPlace (c : Char) : Prop := c.toNat < 256 ∧ servers.latin1 (UInt8.ofNat c.toNat) = c

end Meaning

section Bytes

variable {servers : ServerCharsets} {charset name : String} {bytes : List UInt8}
  {text : List Char}

theorem encodeSupportedText_congr (h : eqIgnoreAsciiCase name charset = true) (decoded : String) :
    encodeSupportedText name decoded = encodeSupportedText charset decoded := by
  rw [encodeSupportedText, encodeSupportedText, eqIgnoreAsciiCase_iff.mp h]

theorem decodeSupportedText_congr (h : eqIgnoreAsciiCase name charset = true)
    (declared : Option String) :
    decodeSupportedText name bytes declared = decodeSupportedText charset bytes declared := by
  rw [decodeSupportedText, decodeSupportedText, eqIgnoreAsciiCase_iff.mp h]

/-- The characters with the bytes for code points. -/
def codePoints (bytes : List UInt8) : List Char := bytes.map fun b => Char.ofNat b.toNat

theorem toNat_ofNat_byte (b : UInt8) : (Char.ofNat b.toNat).toNat = b.toNat := by
  have hlt := b.toNat_lt
  exact char_toNat_ofNat (.inl (by omega))

theorem codePoints_injective : Function.Injective codePoints := by
  apply List.map_injective_iff.mpr
  intro b b' h
  have hcode := congrArg Char.toNat h
  dsimp only at hcode
  rw [toNat_ofNat_byte, toNat_ofNat_byte] at hcode
  exact UInt8.toNat_inj.mp hcode

/-- The character of a byte has its place exactly if it is the code point of the byte. -/
theorem inPlace_latin1 (b : UInt8) :
    InPlace servers (servers.latin1 b) ↔ servers.latin1 b = Char.ofNat b.toNat := by
  constructor
  · rintro ⟨hlt, hplace⟩
    have hbyte := congrArg UInt8.toNat (servers.latin1_injective hplace)
    rw [toNat_ofNat_lt hlt] at hbyte
    rw [← hbyte, Char.ofNat_toNat]
  · intro h
    constructor
    · rw [h, toNat_ofNat_byte]
      exact b.toNat_lt
    · rw [h, toNat_ofNat_byte, UInt8.ofNat_toNat, h]

theorem inPlace_codePoint (b : UInt8) :
    InPlace servers (Char.ofNat b.toNat) ↔ servers.latin1 b = Char.ofNat b.toNat := by
  rw [InPlace, toNat_ofNat_byte, UInt8.ofNat_toNat]
  exact and_iff_right b.toNat_lt

/-- The bytes are their code points in `latin1` exactly if all the characters have their places. -/
theorem latin1_eq_codePoints_iff : bytes.map servers.latin1 = codePoints bytes ↔
    ∀ c ∈ bytes.map servers.latin1, InPlace servers c := by
  rw [codePoints, List.map_inj_left, List.forall_mem_map]
  exact forall₂_congr fun b _ => (inPlace_latin1 b).symm

theorem codePoints_eq_latin1_iff : codePoints bytes = bytes.map servers.latin1 ↔
    ∀ c ∈ codePoints bytes, InPlace servers c := by
  rw [codePoints, List.map_inj_left, List.forall_mem_map]
  exact forall₂_congr fun b _ => eq_comm.trans (inPlace_codePoint b).symm

theorem supported_cases (h : textCharsetSupported charset = true) :
    toAsciiLowercase charset = "utf8" ∨ toAsciiLowercase charset = "utf8mb4" ∨
      toAsciiLowercase charset = "utf-8" ∨ toAsciiLowercase charset = "ascii" ∨
      isLatin1 charset = true := by
  simpa [textCharsetSupported, isLatin1, or_assoc] using h

theorem isLatin1_cases (h : isLatin1 charset = true) :
    toAsciiLowercase charset = "latin1" ∨ toAsciiLowercase charset = "iso-8859-1" := by
  simpa [isLatin1] using h

/-- The character set `ascii` holds the codes below 128. -/
theorem holds_ascii {other : OtherCharsets} (h : toAsciiLowercase charset = "ascii") (c : Char) :
    holds other charset c = decide (c.toNat ≤ 0x7f) := by
  have hname : charset ≠ "UTF8" := by
    rintro rfl
    rw [lowercase_UTF8] at h
    exact absurd h (by decide)
  rw [holds, if_neg hname, h, if_neg (by decide), if_neg (by decide), if_pos rfl]

theorem fromUtf8_utf8 (text : List Char) : fromUtf8 (utf8 text) = some (String.ofList text) := by
  rw [fromUtf8, utf8Chars_utf8, Option.map_some]

/-- Of bytes in UTF-8 the decoder reads the text. -/
theorem decodeSupportedText_utf8 {declared : Option String} {decoded : String}
    (hname : toAsciiLowercase charset = "utf8" ∨ toAsciiLowercase charset = "utf8mb4" ∨
      toAsciiLowercase charset = "utf-8")
    (h : decodeSupportedText charset (utf8 text) declared = .ok decoded) :
    decoded.toList = text := by
  rw [decodeSupportedText, if_pos hname, fromUtf8_utf8] at h
  dsimp only at h
  split at h
  · rw [← Except.ok.inj h, String.toList_ofList]
  · cases h

theorem decodeSupportedText_ascii {declared : Option String} {decoded : String}
    (hname : toAsciiLowercase charset = "ascii") (hascii : ∀ c ∈ text, c.toNat ≤ 0x7f)
    (h : decodeSupportedText charset (utf8 text) declared = .ok decoded) :
    decoded.toList = text := by
  rw [decodeSupportedText, hname, if_neg (by decide), if_pos rfl] at h
  split at h
  · cases h
  · rw [← Except.ok.inj h, String.toList_ofList, utf8_of_ascii hascii, List.map_map]
    conv_rhs => rw [← List.map_id text]
    apply List.map_congr_left
    intro c hc
    have hle := hascii c hc
    change Char.ofNat (UInt8.ofNat c.toNat).toNat = c
    rw [toNat_ofNat_lt (by omega), Char.ofNat_toNat]

theorem decodeSupportedText_latin1 {declared : Option String} {decoded : String}
    (hname : isLatin1 charset = true)
    (h : decodeSupportedText charset bytes declared = .ok decoded) :
    decoded.toList = codePoints bytes := by
  have hlower := isLatin1_cases hname
  unfold decodeSupportedText at h
  dsimp only at h
  rw [if_neg, if_neg, if_pos hlower] at h
  · rw [← Except.ok.inj h, String.toList_ofList]
    rfl
  · rcases hlower with hlower | hlower
    · rw [hlower]
      decide
    · rw [hlower]
      decide
  · rcases hlower with hlower | hlower
    · rw [hlower]
      decide
    · rw [hlower]
      decide

/-- What the names of a supported character set other than `latin1` are. -/
theorem not_latin1_cases (hsupported : textCharsetSupported charset = true)
    (hlatin : isLatin1 charset = false) :
    (toAsciiLowercase charset = "utf8" ∨ toAsciiLowercase charset = "utf8mb4" ∨
      toAsciiLowercase charset = "utf-8") ∨ toAsciiLowercase charset = "ascii" := by
  rcases supported_cases hsupported with hname | hname | hname | hname | htrue
  · exact .inl (.inl hname)
  · exact .inl (.inr (.inl hname))
  · exact .inl (.inr (.inr hname))
  · exact .inr hname
  · rw [hlatin] at htrue
    cases htrue

/-- A text in a supported character set other than `latin1` has the bytes of UTF-8. -/
theorem Spells.utf8 (hsupported : textCharsetSupported charset = true)
    (hlatin : isLatin1 charset = false) (h : Spells servers charset bytes text) :
    bytes = utf8 text ∧ (toAsciiLowercase charset = "ascii" → ∀ c ∈ text, c.toNat ≤ 0x7f) := by
  have hutf : isUtf8Name charset = true ∨ toAsciiLowercase charset = "utf-8" := by
    rcases not_latin1_cases hsupported hlatin with (hname | hname | hname) | hname
    · left
      rw [isUtf8Name, hname]
      rfl
    · left
      rw [isUtf8Name, hname]
      rfl
    · exact .inr hname
    · left
      rw [isUtf8Name, hname]
      rfl
  unfold Spells at h
  split at h
  · refine ⟨h.1, fun hname c hc => ?_⟩
    have hheld := h.2 c hc
    rwa [holds_ascii hname, decide_eq_true_eq] at hheld
  · next hnot =>
    have hname := hutf.resolve_left hnot
    rw [if_pos hname] at h
    refine ⟨h, fun hascii => ?_⟩
    rw [hascii] at hname
    exact absurd hname (by decide)

/-- The decoder reads the text that the bytes stand for, but for `latin1`, where it takes the bytes
for code points. -/
theorem decodeSupportedText_spells {declared : Option String} {decoded : String}
    (hsupported : textCharsetSupported charset = true) (hspells : Spells servers charset bytes text)
    (h : decodeSupportedText charset bytes declared = .ok decoded) :
    decoded.toList = if isLatin1 charset then codePoints bytes else text := by
  cases hlatin : isLatin1 charset with
  | true => exact decodeSupportedText_latin1 hlatin h
  | false =>
    obtain ⟨rfl, hascii⟩ := hspells.utf8 hsupported hlatin
    rcases not_latin1_cases hsupported hlatin with hname | hname
    · exact decodeSupportedText_utf8 hname h
    · exact decodeSupportedText_ascii hname (hascii hname) h

/-- The encoder writes a text of the character set, but for `latin1`. -/
theorem encodeSupportedText_spells (servers : ServerCharsets) {decoded : String}
    {encoded : List UInt8}
    (hsupported : textCharsetSupported charset = true) (hlatin : isLatin1 charset = false)
    (h : encodeSupportedText charset decoded = .ok encoded) :
    Spells servers charset encoded decoded.toList := by
  rcases not_latin1_cases hsupported hlatin with (hname | hname | hname) | hname
  · have hutf : isUtf8Name charset = true := by
      rw [isUtf8Name, hname]
      rfl
    rw [encodeSupportedText, hname, if_pos (.inl rfl)] at h
    rw [Spells, if_pos hutf]
    split at h
    · cases h
    · next hnarrow =>
      refine ⟨(Except.ok.inj h).symm, fun c hc => ?_⟩
      unfold holds
      split
      · rfl
      · rw [hname, if_neg (by decide), if_pos (.inl rfl)]
        simp only [List.any_eq_true, decide_eq_true_eq, not_exists, not_and, not_lt] at hnarrow
        exact decide_eq_true (hnarrow c hc)
  · have hutf : isUtf8Name charset = true := by
      rw [isUtf8Name, hname]
      rfl
    rw [encodeSupportedText, hname, if_neg (by decide), if_pos rfl] at h
    rw [Spells, if_pos hutf]
    exact ⟨(Except.ok.inj h).symm, fun c _ => holds_complete (.inr hname) c⟩
  · have hutf : isUtf8Name charset = false := by
      rw [isUtf8Name, hname]
      rfl
    rw [encodeSupportedText, hname, if_pos (.inr rfl)] at h
    rw [Spells, hutf, if_neg Bool.false_ne_true, if_pos hname]
    split at h
    · cases h
    · exact (Except.ok.inj h).symm
  · have hutf : isUtf8Name charset = true := by
      rw [isUtf8Name, hname]
      rfl
    rw [encodeSupportedText, hname, if_neg (by decide), if_neg (by decide), if_pos rfl] at h
    rw [Spells, if_pos hutf]
    split at h
    · cases h
    · next hascii =>
      refine ⟨(Except.ok.inj h).symm, fun c hc => ?_⟩
      simp only [List.any_eq_true, decide_eq_true_eq, not_exists, not_and, not_lt] at hascii
      rw [holds_ascii hname, decide_eq_true_eq]
      exact hascii c hc

/-- In `latin1` the encoder takes code points for bytes. -/
theorem encodeSupportedText_latin1 {decoded : String} {encoded : List UInt8}
    (hlatin : isLatin1 charset = true) (h : encodeSupportedText charset decoded = .ok encoded) :
    decoded.toList = codePoints encoded := by
  have hlower := isLatin1_cases hlatin
  have hother : ¬ (toAsciiLowercase charset = "utf8" ∨ toAsciiLowercase charset = "utf-8") ∧
      toAsciiLowercase charset ≠ "utf8mb4" ∧ toAsciiLowercase charset ≠ "ascii" := by
    rcases hlower with hlower | hlower
    · rw [hlower]
      decide
    · rw [hlower]
      decide
  unfold encodeSupportedText at h
  dsimp only at h
  rw [if_neg hother.1, if_neg hother.2.1, if_neg hother.2.2, if_pos hlower] at h
  have hbytes : codePoints encoded = decoded.toList.map id := by
    apply map_eq_of_forall₂
    refine (mapM_eq_ok h).imp fun c b hb => ?_
    split at hb
    · next hlt =>
      obtain rfl := Except.ok.inj hb
      rw [toNat_ofNat_lt hlt, Char.ofNat_toNat]
      rfl
    · cases hb
  rw [hbytes, List.map_id]

theorem spells_latin1_iff (hlatin : isLatin1 charset = true) :
    Spells servers charset bytes text ↔ text = bytes.map servers.latin1 := by
  have hother : isUtf8Name charset = false ∧ toAsciiLowercase charset ≠ "utf-8" := by
    rcases isLatin1_cases hlatin with hname | hname
    · rw [isUtf8Name, hname]
      decide
    · rw [isUtf8Name, hname]
      decide
  rw [Spells, hother.1, if_neg Bool.false_ne_true, if_neg hother.2, if_pos hlatin]

/-- Encoded characters stand for themselves if those of `latin1` have their places. -/
theorem spells_encoded_iff (servers : ServerCharsets) {decoded : String} {encoded : List UInt8}
    (hsupported : textCharsetSupported charset = true)
    (h : encodeSupportedText charset decoded = .ok encoded) :
    Spells servers charset encoded decoded.toList ↔
      (isLatin1 charset = true → ∀ c ∈ decoded.toList, InPlace servers c) := by
  cases hlatin : isLatin1 charset with
  | false =>
    exact iff_of_true (encodeSupportedText_spells servers hsupported hlatin h)
      fun htrue => absurd htrue Bool.false_ne_true
  | true =>
    rw [spells_latin1_iff hlatin, encodeSupportedText_latin1 hlatin h, codePoints_eq_latin1_iff]
    exact ⟨fun hplaces _ => hplaces, fun hplaces => hplaces rfl⟩

/-- A converted text stands for the characters of its source if both character sets are `latin1`,
or none is, or the characters have their places there. -/
theorem spells_converted_iff {source target : String} {declared : Option String} {decoded : String}
    {encoded : List UInt8} (hsource : textCharsetSupported source = true)
    (htarget : textCharsetSupported target = true) (hspells : Spells servers source bytes text)
    (hdecoded : decodeSupportedText source bytes declared = .ok decoded)
    (hencoded : encodeSupportedText target decoded = .ok encoded) :
    Spells servers target encoded text ↔
      (isLatin1 source ≠ isLatin1 target → ∀ c ∈ text, InPlace servers c) := by
  have hread := decodeSupportedText_spells hsource hspells hdecoded
  cases hlatin : isLatin1 source with
  | false =>
    rw [hlatin, if_neg Bool.false_ne_true] at hread
    rw [← hread, spells_encoded_iff servers htarget hencoded]
    cases isLatin1 target with
    | false => simp
    | true => simp
  | true =>
    rw [hlatin, if_pos rfl] at hread
    obtain rfl := (spells_latin1_iff hlatin).mp hspells
    cases hlatinTarget : isLatin1 target with
    | true =>
      have hsame : encoded = bytes :=
        codePoints_injective ((encodeSupportedText_latin1 hlatinTarget hencoded).symm.trans hread)
      rw [spells_latin1_iff hlatinTarget, hsame]
      simp
    | false =>
      have hcode := encodeSupportedText_spells servers htarget hlatinTarget hencoded
      rw [← latin1_eq_codePoints_iff]
      constructor
      · intro htext _
        have hbytes := (hcode.utf8 htarget hlatinTarget).1.symm.trans
          (htext.utf8 htarget hlatinTarget).1
        rw [← utf8_injective hbytes, hread]
      · intro hplaces
        rw [hplaces (by simp), ← hread]
        exact hcode

/-- Bytes that are taken over under a compatible name stand for the same characters, unless the
name narrows `UTF8` and there is a character of four bytes. -/
theorem spells_compatible_iff {source target : String}
    (hcompatible : textCharsetsAreCompatible source target = true)
    (hspells : Spells servers source bytes text) : Spells servers target bytes text ↔
      ¬ (NarrowingUtf8 source target ∧ ∃ c ∈ text, 3 < c.utf8Size) := by
  by_cases hnarrow : NarrowingUtf8 source target
  · obtain ⟨rfl, hname, hlower⟩ := hnarrow
    have hutf : isUtf8Name target = true := by
      rw [isUtf8Name, hlower]
      rfl
    have hholds : ∀ c, holds servers.toOtherCharsets target c = decide (c.utf8Size ≤ 3) := by
      intro c
      rw [holds, if_neg hname, hlower, if_neg (by decide), if_pos (.inl rfl)]
    rw [Spells, if_pos (by decide)] at hspells
    rw [Spells, if_pos hutf]
    simp only [hholds, decide_eq_true_eq]
    constructor
    · rintro ⟨-, hsizes⟩ ⟨-, c, hc, hwide⟩
      exact absurd (hsizes c hc) (not_le.mpr hwide)
    · intro hsizes
      refine ⟨hspells.1, fun c hc => ?_⟩
      by_contra hwide
      exact hsizes ⟨⟨rfl, hname, hlower⟩, c, hc, not_le.mp hwide⟩
  · refine iff_of_true ?_ fun h => hnarrow h.1
    rcases compatible_cases hcompatible with hsame | ⟨hsource, htarget⟩
    · unfold Spells isLatin1 isUtf8Name at *
      rw [← hsame]
      split
      · next hutf =>
        rw [if_pos hutf] at hspells
        exact ⟨hspells.1, fun c hc => holds_of_compatible hcompatible hnarrow (hspells.2 c hc)⟩
      · next hutf =>
        rwa [if_neg hutf] at hspells
    · have hutf : isUtf8Name source = true := by
        rcases hsource with hsource | hsource
        · rw [isUtf8Name, hsource]
          rfl
        · rw [isUtf8Name, hsource]
          rfl
      have hutfTarget : isUtf8Name target = true := by
        rcases htarget with rfl | htarget
        · decide
        · rw [isUtf8Name, htarget]
          rfl
      rw [Spells, if_pos hutf] at hspells
      rw [Spells, if_pos hutfTarget]
      exact ⟨hspells.1, fun c _ => holds_complete htarget c⟩

end Bytes

end DatabaseSync.Planner
