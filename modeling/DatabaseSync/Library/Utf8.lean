import DatabaseSync.Library.JsonText
import Mathlib.Data.List.Induction

/-! # UTF-8

The decoder reads back what the encoder writes, so that the bytes of a text determine it, and reads
nothing else. The bytes of an ASCII text are the codes of its characters.
-/

namespace DatabaseSync.Text

open JsonText

theorem toNat_ofNat_lt {n : ℕ} (h : n < 256) : (UInt8.ofNat n).toNat = n := by
  rw [UInt8.toNat_ofNat', Nat.mod_eq_of_lt h]

theorem char_toNat_ofNat {n : ℕ} (h : n.isValidChar) : (Char.ofNat n).toNat = n := by
  rw [Char.ofNat, dif_pos h]
  rfl

theorem ofNat_lt_iff {m n : ℕ} (hm : m < 256) (hn : n < 256) :
    UInt8.ofNat m < UInt8.ofNat n ↔ m < n := by
  rw [UInt8.lt_iff_toNat_lt, toNat_ofNat_lt hm, toNat_ofNat_lt hn]

theorem ofNat_le_iff {m n : ℕ} (hm : m < 256) (hn : n < 256) :
    UInt8.ofNat m ≤ UInt8.ofNat n ↔ m ≤ n := by
  rw [UInt8.le_iff_toNat_le, toNat_ofNat_lt hm, toNat_ofNat_lt hn]

theorem isContinuation_ofNat {n : ℕ} (h : n < 64) :
    isContinuation (UInt8.ofNat (n + 0x80)) = true := by
  rw [isContinuation, Bool.and_eq_true, decide_eq_true_eq, decide_eq_true_eq]
  constructor
  · exact (ofNat_le_iff (m := 0x80) (by omega) (by omega)).mpr (by omega)
  · exact (ofNat_le_iff (n := 0xBF) (by omega) (by omega)).mpr (by omega)

theorem char_ofNat {c : Char} {n : ℕ} (h : n = c.toNat) : Char.ofNat n = c := by
  rw [h, Char.ofNat_toNat]

/-- The bytes of one character are read as this character. -/
theorem utf8Chars_utf8EncodeChar (c : Char) (bytes : List UInt8) :
    utf8Chars (String.utf8EncodeChar c ++ bytes) = (utf8Chars bytes).map (c :: ·) := by
  have hvalid : c.toNat < 0xD800 ∨ 0xDFFF < c.toNat ∧ c.toNat < 0x110000 := c.valid
  have hvalue : c.val.toNat = c.toNat := rfl
  have hlow : ∀ m, m < 128 → UInt8.ofNat m < 0x80 :=
    fun m hm => (ofNat_lt_iff (n := 0x80) (by omega) (by omega)).mpr hm
  have hascii : ∀ m, 128 ≤ m → m < 256 → ¬ UInt8.ofNat m < 0x80 := by
    intro m hlow hhigh hlt
    have := (ofNat_lt_iff (n := 0x80) hhigh (by omega)).mp hlt
    omega
  have htwo : ∀ m, 0xE0 ≤ m → m < 256 → ¬ UInt8.ofNat m ≤ 0xDF := by
    intro m hlow hhigh hle
    have := (ofNat_le_iff (n := 0xDF) hhigh (by omega)).mp hle
    omega
  have hthree : ∀ m, 0xF0 ≤ m → m < 256 → ¬ UInt8.ofNat m ≤ 0xEF := by
    intro m hlow hhigh hle
    have := (ofNat_le_iff (n := 0xEF) hhigh (by omega)).mp hle
    omega
  unfold String.utf8EncodeChar
  rw [hvalue]
  generalize hn : c.toNat = n at *
  dsimp only
  split_ifs with h₁ h₂ h₃
  · rw [List.singleton_append, utf8Chars.eq_def]
    dsimp only
    rw [if_pos (hlow n (by omega)), toNat_ofNat_lt (by omega), char_ofNat hn.symm]
  · rw [List.cons_append, List.singleton_append, utf8Chars.eq_def]
    dsimp only
    rw [if_neg (hascii _ (by omega) (by omega)), if_pos, toNat_ofNat_lt (by omega),
      toNat_ofNat_lt (by omega), char_ofNat (c := c) (by omega)]
    exact ⟨(ofNat_le_iff (m := 0xC2) (by omega) (by omega)).mpr (by omega),
      (ofNat_le_iff (n := 0xDF) (by omega) (by omega)).mpr (by omega),
      isContinuation_ofNat (by omega)⟩
  · rw [List.cons_append, List.cons_append, List.singleton_append, utf8Chars.eq_def]
    dsimp only
    rw [if_neg (hascii _ (by omega) (by omega)),
      if_neg fun h => htwo _ (by omega) (by omega) h.2.1, toNat_ofNat_lt (by omega),
      toNat_ofNat_lt (by omega), toNat_ofNat_lt (by omega), if_pos, char_ofNat (c := c) (by omega)]
    exact ⟨(ofNat_le_iff (m := 0xE0) (by omega) (by omega)).mpr (by omega),
      (ofNat_le_iff (n := 0xEF) (by omega) (by omega)).mpr (by omega),
      isContinuation_ofNat (by omega), isContinuation_ofNat (by omega), by omega, by omega⟩
  · rw [List.cons_append, List.cons_append, List.cons_append, List.singleton_append,
      utf8Chars.eq_def]
    dsimp only
    rw [if_neg (hascii _ (by omega) (by omega)),
      if_neg fun h => htwo _ (by omega) (by omega) h.2.1,
      if_neg fun h => hthree _ (by omega) (by omega) h.2.1, toNat_ofNat_lt (by omega),
      toNat_ofNat_lt (by omega), toNat_ofNat_lt (by omega), toNat_ofNat_lt (by omega), if_pos,
      char_ofNat (c := c) (by omega)]
    exact ⟨(ofNat_le_iff (m := 0xF0) (by omega) (by omega)).mpr (by omega),
      (ofNat_le_iff (n := 0xF4) (by omega) (by omega)).mpr (by omega),
      isContinuation_ofNat (by omega), isContinuation_ofNat (by omega),
      isContinuation_ofNat (by omega), by omega, by omega⟩

/-- The decoder reads back what the encoder writes. -/
theorem utf8Chars_utf8 (text : List Char) : utf8Chars (utf8 text) = some text := by
  induction text with
  | nil =>
    rw [utf8, List.flatMap_nil, utf8Chars.eq_def]
  | cons c text ih =>
    rw [utf8, List.flatMap_cons, utf8Chars_utf8EncodeChar]
    change (utf8Chars (utf8 text)).map (c :: ·) = some (c :: text)
    rw [ih, Option.map_some]

theorem utf8_injective : Function.Injective utf8 := by
  intro text text' h
  have hread := utf8Chars_utf8 text
  rw [h, utf8Chars_utf8] at hread
  exact (Option.some.inj hread).symm

theorem isContinuation_iff {b : UInt8} :
    isContinuation b = true ↔ 128 ≤ b.toNat ∧ b.toNat ≤ 191 := by
  rw [isContinuation, Bool.and_eq_true, decide_eq_true_eq, decide_eq_true_eq,
    UInt8.le_iff_toNat_le, UInt8.le_iff_toNat_le]
  rfl

theorem ofNat_eq {b : UInt8} {n : ℕ} (h : n = b.toNat) : UInt8.ofNat n = b := by
  rw [h, UInt8.ofNat_toNat]

theorem val_ofNat {n : ℕ} (h : n.isValidChar) : (Char.ofNat n).val.toNat = n := char_toNat_ofNat h

/-- The encoder writes back what the decoder reads. -/
theorem utf8_of_utf8Chars {bytes : List UInt8} {text : List Char}
    (h : utf8Chars bytes = some text) : utf8 text = bytes := by
  have hcons : ∀ {c : Char} (first : List UInt8) {rest : List UInt8} {text : List Char},
      (utf8Chars rest).map (c :: ·) = some text → String.utf8EncodeChar c = first →
      (∀ text, utf8Chars rest = some text → utf8 text = rest) → utf8 text = first ++ rest := by
    intro c first rest text hread hfirst hrest
    obtain ⟨text, htext, rfl⟩ := Option.map_eq_some_iff.mp hread
    rw [utf8, List.flatMap_cons, hfirst]
    exact congrArg _ (hrest text htext)
  induction bytes using utf8Chars.induct generalizing text with
  | case1 =>
    cases h
    rfl
  | case2 b rest hb ih =>
    rw [utf8Chars.eq_def] at h
    simp only [if_pos hb] at h
    have hlow : b.toNat < 128 := UInt8.lt_iff_toNat_lt.mp hb
    refine hcons [b] h ?_ fun text => ih
    simp only [String.utf8EncodeChar, val_ofNat (n := b.toNat) (Or.inl (by omega))]
    rw [if_pos (by omega), UInt8.ofNat_toNat]
  | case3 b hb =>
    rw [utf8Chars.eq_def] at h
    simp only [if_neg hb, reduceCtorEq] at h
  | case4 b hb b₁ rest hguard ih =>
    rw [utf8Chars.eq_def] at h
    simp only [if_neg hb, if_pos hguard] at h
    obtain ⟨hlow, hhigh, hone⟩ := hguard
    rw [UInt8.le_iff_toNat_le] at hlow hhigh
    rw [isContinuation_iff] at hone
    have hlow : 194 ≤ b.toNat := hlow
    have hhigh : b.toNat ≤ 223 := hhigh
    refine hcons [b, b₁] h ?_ fun text => ih
    simp only [String.utf8EncodeChar,
      val_ofNat (n := (b.toNat - 0xC0) * 64 + (b₁.toNat - 0x80)) (Or.inl (by omega))]
    rw [if_neg (by omega), if_pos (by omega), ofNat_eq (b := b) (by omega),
      ofNat_eq (b := b₁) (by omega)]
  | case5 b hb b₁ hguard =>
    rw [utf8Chars.eq_def] at h
    simp only [if_neg hb, if_neg hguard, reduceCtorEq] at h
  | case6 b hb b₁ hguard b₂ rest n hguard' =>
    rename_i ih
    simp only [n] at hguard'
    rw [utf8Chars.eq_def] at h
    simp only [if_neg hb, if_neg hguard, if_pos hguard'] at h
    obtain ⟨hlow, hhigh, hone, htwo, hmin, hsurrogate⟩ := hguard'
    rw [UInt8.le_iff_toNat_le] at hlow hhigh
    rw [isContinuation_iff] at hone htwo
    have hlow : 224 ≤ b.toNat := hlow
    have hhigh : b.toNat ≤ 239 := hhigh
    refine hcons [b, b₁, b₂] h ?_ fun text => ih
    simp only [String.utf8EncodeChar, val_ofNat
      (n := (b.toNat - 0xE0) * 4096 + (b₁.toNat - 0x80) * 64 + (b₂.toNat - 0x80))
      (show Nat.isValidChar _ by unfold Nat.isValidChar; omega)]
    rw [if_neg (by omega), if_neg (by omega), if_pos (by omega), ofNat_eq (b := b) (by omega),
      ofNat_eq (b := b₁) (by omega), ofNat_eq (b := b₂) (by omega)]
  | case7 b hb b₁ hguard b₂ n =>
    rename_i hguard'
    simp only [n] at hguard'
    rw [utf8Chars.eq_def] at h
    simp only [if_neg hb, if_neg hguard, if_neg hguard', reduceCtorEq] at h
  | case8 b hb b₁ hguard b₂ n hguard' b₃ rest n' =>
    rename_i hguard'' ih
    simp only [n] at hguard'
    simp only [n'] at hguard''
    rw [utf8Chars.eq_def] at h
    simp only [if_neg hb, if_neg hguard, if_neg hguard', if_pos hguard''] at h
    obtain ⟨hlow, hhigh, hone, htwo, hthree, hmin, hmax⟩ := hguard''
    rw [UInt8.le_iff_toNat_le] at hlow hhigh
    rw [isContinuation_iff] at hone htwo hthree
    have hlow : 240 ≤ b.toNat := hlow
    have hhigh : b.toNat ≤ 244 := hhigh
    refine hcons [b, b₁, b₂, b₃] h ?_ fun text => ih
    simp only [String.utf8EncodeChar, val_ofNat
      (n := (b.toNat - 0xF0) * 262144 + (b₁.toNat - 0x80) * 4096 + (b₂.toNat - 0x80) * 64 +
        (b₃.toNat - 0x80)) (show Nat.isValidChar _ by unfold Nat.isValidChar; omega)]
    rw [if_neg (by omega), if_neg (by omega), if_neg (by omega), ofNat_eq (b := b) (by omega),
      ofNat_eq (b := b₁) (by omega), ofNat_eq (b := b₂) (by omega), ofNat_eq (b := b₃) (by omega)]
  | case9 b hb b₁ hguard b₂ n hguard' b₃ rest =>
    rename_i n' hguard''
    simp only [n] at hguard'
    simp only [n'] at hguard''
    rw [utf8Chars.eq_def] at h
    simp only [if_neg hb, if_neg hguard, if_neg hguard', if_neg hguard'', reduceCtorEq] at h

/-- An ASCII byte among those of a character is the character. -/
theorem eq_of_mem_utf8EncodeChar {c : Char} {b : UInt8} (hb : b.toNat < 128)
    (h : b ∈ String.utf8EncodeChar c) : c.toNat = b.toNat := by
  have hbyte : ∀ n, 128 ≤ n → n < 256 → b ≠ UInt8.ofNat n := by
    rintro n hlow hhigh rfl
    rw [toNat_ofNat_lt hhigh] at hb
    omega
  unfold String.utf8EncodeChar at h
  dsimp only at h
  split_ifs at h with hascii
  · rw [List.mem_singleton] at h
    rw [h, toNat_ofNat_lt (by omega)]
    rfl
  all_goals
    exfalso
    simp only [List.mem_cons, List.not_mem_nil, or_false] at h
  · rcases h with h | h <;> exact hbyte _ (by omega) (by omega) h
  · rcases h with h | h | h <;> exact hbyte _ (by omega) (by omega) h
  · rcases h with h | h | h | h <;> exact hbyte _ (by omega) (by omega) h

theorem utf8EncodeChar_ne_nil (c : Char) : String.utf8EncodeChar c ≠ [] := by
  unfold String.utf8EncodeChar
  dsimp only
  split_ifs <;> nofun

/-- A text starts with the ASCII character that its bytes start with. -/
theorem head?_of_utf8 {text : List Char} {b : UInt8} (hb : b.toNat < 128)
    (h : (utf8 text).head? = some b) : ∃ c ∈ text.head?, c.toNat = b.toNat := by
  cases text with
  | nil => cases h
  | cons c text =>
    refine ⟨c, rfl, eq_of_mem_utf8EncodeChar hb ?_⟩
    rw [utf8, List.flatMap_cons, List.head?_append_of_ne_nil _ (utf8EncodeChar_ne_nil c)] at h
    exact List.mem_of_mem_head? h

/-- A text ends with the ASCII character that its bytes end with. -/
theorem getLast?_of_utf8 {text : List Char} {b : UInt8} (hb : b.toNat < 128)
    (h : (utf8 text).getLast? = some b) : ∃ c ∈ text.getLast?, c.toNat = b.toNat := by
  induction text using List.reverseRecOn with
  | nil => cases h
  | append_singleton text c _ =>
    refine ⟨c, List.getLast?_concat, eq_of_mem_utf8EncodeChar hb ?_⟩
    rw [utf8, List.flatMap_append, List.flatMap_singleton,
      List.getLast?_append_of_ne_nil _ (utf8EncodeChar_ne_nil c)] at h
    exact List.mem_of_mem_getLast? h

/-- The bytes of an ASCII text are the codes of its characters. -/
theorem utf8_of_ascii {text : List Char} (h : ∀ c ∈ text, c.toNat ≤ 0x7f) :
    utf8 text = text.map fun c => UInt8.ofNat c.toNat := by
  induction text with
  | nil => rfl
  | cons c text ih =>
    obtain ⟨hc, htext⟩ := List.forall_mem_cons.mp h
    have hone : String.utf8EncodeChar c = [UInt8.ofNat c.toNat] := if_pos hc
    rw [utf8, List.flatMap_cons, hone, List.map_cons, List.singleton_append]
    exact congrArg _ (ih htext)

/-- The loop of `ByteArray.toList` collects the bytes from `i` on. -/
theorem byteArray_loop (bytes : ByteArray) (i : ℕ) (collected : List UInt8) :
    ByteArray.toList.loop bytes i collected = collected.reverse ++ bytes.data.toList.drop i := by
  induction i, collected using ByteArray.toList.loop.induct bytes with
  | case1 i collected hi ih =>
    have hlength : i < bytes.data.toList.length := by simpa using hi
    rw [ByteArray.toList.loop, if_pos hi, ih, List.reverse_cons, List.append_assoc,
      List.drop_eq_getElem_cons hlength, List.singleton_append]
    congr 2
    change bytes.data[i]! = bytes.data.toList[i]
    rw [getElem!_pos bytes.data i (by simpa using hlength), Array.getElem_toList]
  | case2 i collected hi =>
    rw [ByteArray.toList.loop, if_neg hi, List.drop_eq_nil_of_le, List.append_nil]
    simpa using hi

/-- The bytes of a text are the encodings of its characters. -/
theorem toList_toUTF8 (text : String) : text.toUTF8.toList = utf8 text.toList := by
  rw [ByteArray.toList, byteArray_loop, String.toUTF8_eq_toByteArray, ← String.utf8Encode_toList]
  simp [List.utf8Encode, utf8]

theorem isAscii_iff {text : String} : isAscii text = true ↔ ∀ c ∈ text.toList, c.toNat ≤ 0x7f := by
  rw [isAscii, List.all_eq_true]
  constructor
  · intro h c hc
    have hlt : c.toNat < 128 := of_decide_eq_true (h c hc)
    omega
  · intro h c hc
    have hle := h c hc
    exact decide_eq_true (show c.toNat < 128 by omega)

end DatabaseSync.Text
