import DatabaseSync.ChangeEvent.Validate
import DatabaseSync.Library.Utf8
import DatabaseSync.MysqlSource.Decoder

/-! # Reading a binlog cursor back

The decoder writes a cursor as the bytes of the file name, a zero byte and a big-endian
position. The source contract cuts the position from the end of these bytes and holds the
cursor's display against what it has read.
-/

namespace DatabaseSync.MysqlSource

open ChangeEvent Checked Text JsonText

/-- `position` of the source contract. -/
def SourceContract.position (cursor : SourceCursor) : Except String (String × ℕ) := do
  ensure (cursor.format == "mysql.binlog.file-position.v1") "invalid MySQL cursor format"
  let some bytes := Base64.decode cursor.value | throw "invalid MySQL cursor encoding"
  ensure (6 ≤ bytes.length) "truncated MySQL cursor"
  let split := bytes.length - 5
  match bytes.drop split with
  | [zero, b₃, b₂, b₁, b₀] =>
    ensure (zero == 0 && !(bytes.take split).contains 0) "invalid MySQL cursor filename"
    let some file := fromUtf8 (bytes.take split) | throw "invalid MySQL cursor filename UTF-8"
    ensure (file.utf8ByteSize ≤ 255 && isAscii file &&
      !(containsChar file '\x00' || containsChar file '/' || containsChar file '\\'))
      "invalid MySQL cursor filename"
    let position := ((b₃.toNat * 256 + b₂.toNat) * 256 + b₁.toNat) * 256 + b₀.toNat
    ensure (4 ≤ position && cursor.display == file ++ ":" ++ toString position)
      "MySQL cursor display/value mismatch"
    return (file, position)
  -- five bytes are left behind the split
  | _ => throw "truncated MySQL cursor"

/-- The file names that a cursor may carry. -/
structure BinlogName (file : String) : Prop where
  ne_empty : file ≠ ""
  length : file.utf8ByteSize ≤ 255
  ascii : isAscii file = true
  noNul : containsChar file '\x00' = false
  noSlash : containsChar file '/' = false
  noBackslash : containsChar file '\\' = false

section Bytes

variable {file : String} {position : ℕ}

theorem bigEndian_position (h : position < 2 ^ 32) :
    (((UInt8.ofNat (position / 2 ^ 24)).toNat * 256 +
        (UInt8.ofNat (position / 2 ^ 16)).toNat) * 256 +
          (UInt8.ofNat (position / 2 ^ 8)).toNat) * 256 + (UInt8.ofNat position).toNat =
      position := by
  simp only [UInt8.toNat_ofNat']
  omega

/-- What the decoder encodes in base64. -/
theorem decode_cursor (context : Context) :
    Base64.decode (context.cursor position).value = some (utf8 context.currentFile.toList ++ 0 ::
      [UInt8.ofNat (position / 2 ^ 24), UInt8.ofNat (position / 2 ^ 16),
        UInt8.ofNat (position / 2 ^ 8), UInt8.ofNat position]) := by
  rw [Context.cursor, Base64.decode_encode, toList_toUTF8]

theorem fromUtf8_utf8 : fromUtf8 (utf8 file.toList) = some file := by
  rw [fromUtf8, utf8Chars_utf8, Option.map_some, String.ofList_toList]

namespace BinlogName

variable (h : BinlogName file)

include h

theorem utf8_eq : utf8 file.toList = file.toList.map fun c => UInt8.ofNat c.toNat :=
  utf8_of_ascii (isAscii_iff.mp h.ascii)

/-- An ASCII name without NUL has no zero byte. -/
theorem zero_notMem : (0 : UInt8) ∉ utf8 file.toList := by
  rw [h.utf8_eq, List.mem_map]
  rintro ⟨c, hc, hzero⟩
  have hle := isAscii_iff.mp h.ascii c hc
  have hnat : c.toNat = 0 := by
    have := congrArg UInt8.toNat hzero
    rw [UInt8.toNat_ofNat'] at this
    simp only [UInt8.toNat_zero] at this
    omega
  have hnul : c = '\x00' := Char.toNat_inj.mp (by rw [hnat]; rfl)
  have hno : file.toList.contains '\x00' = false := h.noNul
  rw [List.contains_eq_mem, decide_eq_false_iff_not] at hno
  exact hno (hnul ▸ hc)

theorem utf8_ne_nil : utf8 file.toList ≠ [] := by
  rw [h.utf8_eq]
  intro hnil
  have htext : file.toList = [] := List.map_eq_nil_iff.mp hnil
  exact h.ne_empty (String.toList_eq_nil_iff.mp htext)

end BinlogName

end Bytes

/-- The source contract reads back the cursor that the decoder writes. -/
theorem SourceContract.position_cursor {context : Context} {position : ℕ}
    (h : BinlogName context.currentFile) (hlow : 4 ≤ position) (hhigh : position < 2 ^ 32) :
    SourceContract.position (context.cursor position) = .ok (context.currentFile, position) := by
  have hpositive : 0 < (utf8 context.currentFile.toList).length :=
    List.length_pos_iff.mpr h.utf8_ne_nil
  have hsplit : (utf8 context.currentFile.toList ++ 0 ::
      [UInt8.ofNat (position / 2 ^ 24), UInt8.ofNat (position / 2 ^ 16),
        UInt8.ofNat (position / 2 ^ 8), UInt8.ofNat position]).length - 5 =
      (utf8 context.currentFile.toList).length := by
    simp
  have hzero : (utf8 context.currentFile.toList).contains 0 = false := by
    rw [List.contains_eq_mem, decide_eq_false_iff_not]
    exact h.zero_notMem
  have hformat : ((context.cursor position).format == "mysql.binlog.file-position.v1") = true :=
    beq_self_eq_true _
  have hdisplay : ((context.cursor position).display ==
      context.currentFile ++ ":" ++ toString position) = true := beq_self_eq_true _
  unfold SourceContract.position
  simp only [hformat, decode_cursor, hsplit, List.take_left, List.drop_left, hzero,
    fromUtf8_utf8, bigEndian_position hhigh, hdisplay]
  simp only [List.length_append, List.length_cons, List.length_nil, ensure, h.ascii, h.length,
    h.noNul, h.noSlash, h.noBackslash, hlow]
  rw [if_pos (decide_eq_true (by omega))]
  rfl

end DatabaseSync.MysqlSource
