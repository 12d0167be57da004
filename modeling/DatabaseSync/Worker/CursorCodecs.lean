import DatabaseSync.MysqlSink.Lsn
import DatabaseSync.MysqlSource.CursorPosition

/-! # Agreement of the cursor codecs

The decoder writes a binlog cursor; the source contract and the checkpoint of the sink read
it. An LSN is read by the cursor reader at apply and by the strict parser when its row is
loaded.
-/

namespace DatabaseSync.Worker

open ChangeEvent Checked Text JsonText MysqlSink MysqlSource

variable {context : Context} {position : UInt32}

/-- The first byte with a property behind a list of others. -/
theorem findIdx?_append_cons {p : UInt8 → Bool} {bytes rest : List UInt8} {byte : UInt8}
    (hbefore : ∀ b ∈ bytes, p b = false) (hbyte : p byte = true) :
    (bytes ++ byte :: rest).findIdx? p = some bytes.length := by
  induction bytes with
  | nil => simp [List.findIdx?_cons, hbyte]
  | cons b bytes ih =>
    obtain ⟨hb, hbefore⟩ := List.forall_mem_cons.mp hbefore
    simp [List.findIdx?_cons, hb, ih hbefore]

/-- The sink's checkpoint reads back the cursor that the decoder writes. -/
theorem filePosition_cursor {position : ℕ} (h : BinlogName context.currentFile)
    (hlow : 4 ≤ position) (hhigh : position < 2 ^ 32) :
    filePosition (context.cursor position) = .ok (context.currentFile, position) := by
  have hsplit : (utf8 context.currentFile.toList ++ 0 ::
      [UInt8.ofNat (position / 2 ^ 24), UInt8.ofNat (position / 2 ^ 16),
        UInt8.ofNat (position / 2 ^ 8), UInt8.ofNat position]).findIdx? (· == 0) =
      some (utf8 context.currentFile.toList).length := by
    refine findIdx?_append_cons ?_ rfl
    intro b hb
    rw [beq_eq_false_iff_ne]
    rintro rfl
    exact h.zero_notMem hb
  have hvalid : validatePosition context.currentFile position = .ok () :=
    validatePosition_eq_ok.mpr
      ⟨⟨by simpa using h.ne_empty, h.length, h.ascii, h.noNul, h.noSlash, h.noBackslash⟩,
        hlow, hhigh⟩
  have hformat : (context.cursor position).format = "mysql.binlog.file-position.v1" := rfl
  unfold filePosition
  rw [hformat, if_neg (by decide), if_pos rfl]
  simp only [decode_cursor, hsplit, List.take_left, fromUtf8_utf8,
    List.drop_length_add_append, List.drop_succ_cons, List.drop_zero, bigEndian_position hhigh,
    hvalid]
  rfl

/-- Both readers return the file and the position that the decoder wrote. -/
def BinlogCursorRead (context : Context) (position : UInt32) : Prop :=
  SourceContract.position (context.cursor position.toNat) =
      .ok (context.currentFile, position.toNat) ∧
    filePosition (context.cursor position.toNat) = .ok (context.currentFile, position.toNat)

theorem binlogCursorRead_iff :
    BinlogCursorRead context position ↔ BinlogName context.currentFile ∧ 4 ≤ position.toNat := by
  constructor
  · rintro ⟨-, hread⟩
    have hformat : (context.cursor position.toNat).format ≠ "postgresql.lsn.v1" := by
      change "mysql.binlog.file-position.v1" ≠ "postgresql.lsn.v1"
      decide
    obtain ⟨⟨hne, hlength, hascii, hnul, hslash, hback⟩, hlow, -⟩ :=
      validatePosition_eq_ok.mp (validatePosition_of_filePosition hformat hread)
    exact ⟨⟨by simpa using hne, hlength, hascii, hnul, hslash, hback⟩, hlow⟩
  · rintro ⟨hname, hlow⟩
    have hhigh : position.toNat < 2 ^ 32 := position.toNat_lt
    exact ⟨SourceContract.position_cursor hname hlow hhigh, filePosition_cursor hname hlow hhigh⟩

/-- The cursor codecs agree on the file names that binlogs have, on positions behind the
header, and on LSNs whose upper half is a word; a row that an apply writes is always read
back. -/
theorem cursor_codecs_agree_iff (context : Context) (position : UInt32) (value : String) :
    (BinlogCursorRead context position ↔ BinlogName context.currentFile ∧ 4 ≤ position.toNat) ∧
      (LsnReadersAgree value ∧ LsnPositionExact value ↔ ¬ WideLsn value) ∧
        ∀ {β σ : Type} (gs : GtidServer) (execute : SqlTransaction σ → β → Except IoError β)
          (db : SinkDb β) (w : CheckpointWriter) (source id : String) (cursor : SourceCursor)
          (plan : Option (SqlTransaction σ)) (result : CheckpointApplyResult) (business : β),
          applyInner gs execute db w source id cursor plan = .ok (.ready result business) →
            checkBinding result.checkpoint w.sourceUuid w.sinkUuid w.binding = .ok () := by
  refine ⟨binlogCursorRead_iff, ?_, ?_⟩
  · rw [lsnReadersAgree_iff, lsnPositionExact_iff, and_self]
  · intro β σ gs execute db w source id cursor plan result business h
    exact applyInner_checkBinding h

/-- The row of a task at an LSN, its writer and its database. -/
def lsnRow (file : String) (position : ℕ) (last : Option String) (revision : ℕ) :
    ReplicationCheckpoint :=
  ⟨"task", "source", "sink", "binding", "postgresql_lsn", file, position, none, last, revision, 0,
    0, "incremental", 0, none⟩

def lsnWriter (row : ReplicationCheckpoint) : CheckpointWriter :=
  ⟨"task", "source", "sink", "binding", some row, none, none⟩

def lsnDb (row : ReplicationCheckpoint) : SinkDb Unit :=
  ⟨some ⟨"InnoDB", ["task_id"], fun _ => some row⟩, ()⟩

theorem lsn_row_advanced :
    BinlogCursorRead ⟨"binlog.000001", []⟩ 4 ∧ LsnReadersAgree "2/0" ∧
      checkBinding (lsnRow "2/0" (2 ^ 33) (some "0/1") 1) "source" "sink" "binding" = .ok () := by
  have hnarrow : ¬ WideLsn "2/0" := by
    rintro ⟨upper, lower, hhalves, hwide, -⟩
    have hread : lsnHalves "2/0" = some (2, 0) := rfl
    rw [hread, Option.some.injEq, Prod.mk.injEq] at hhalves
    omega
  have hready : applyInner ⟨fun set => .ok (some set), fun _ _ => .ok (some false)⟩
      (fun (_ : SqlTransaction Unit) (tables : Unit) => .ok tables)
      (lsnDb (lsnRow "1/0" (2 ^ 32) none 0)) (lsnWriter (lsnRow "1/0" (2 ^ 32) none 0)) "source"
      "0/1" ⟨"postgresql.lsn.v1", "2/0", "2/0"⟩ none =
        .ok (.ready ⟨lsnRow "2/0" (2 ^ 33) (some "0/1") 1, 0, false⟩ ()) := by
    decide +kernel
  obtain ⟨hbinlog, hlsn, hkept⟩ := cursor_codecs_agree_iff ⟨"binlog.000001", []⟩ 4 "2/0"
  refine ⟨hbinlog.mpr ⟨⟨by decide, by decide, rfl, rfl, rfl, rfl⟩, by decide⟩,
    (hlsn.mpr hnarrow).1, ?_⟩
  exact hkept _ _ _ _ _ _ _ _ _ _ hready

/-- The high bit of an upper half of 33 bits is lost, and the row is refused when it is
loaded. -/
theorem wide_lsn_collapses :
    filePosition ⟨"postgresql.lsn.v1", "100000001/0", "100000001/0"⟩ =
        .ok ("100000001/0", 2 ^ 32) ∧
      filePosition ⟨"postgresql.lsn.v1", "1/0", "1/0"⟩ = .ok ("1/0", 2 ^ 32) ∧
        parsePostgresqlLsn "100000001/0" = .error (.other "invalid PostgreSQL LSN") ∧
          ¬ LsnReadersAgree "100000001/0" := by
  refine ⟨rfl, rfl, rfl, ?_⟩
  rw [lsnReadersAgree_iff, Classical.not_not]
  exact ⟨2 ^ 32 + 1, 0, rfl, by omega, by omega⟩

end DatabaseSync.Worker
