import DatabaseSync.Library.Digits
import DatabaseSync.MysqlSink.Spec

/-! # LSNs as checkpoint positions

A cursor and a stored row are read by two parsers of the same text. They differ only in the
bound on the upper half; a row that an apply writes is read back by the stricter one.
-/

namespace DatabaseSync.MysqlSink

open ChangeEvent Checked Text

section Halves

variable {value value' display file : String} {position : ℕ}

/-- The numbers on both sides of the first slash. -/
def lsnHalves (value : String) : Option (ℕ × ℕ) := do
  let (upper, lower) ← splitOnce value '/'
  return (← u64FromStrRadix upper 16, ← u64FromStrRadix lower 16)

/-- The cursor reader does not bound the upper half of the LSN. -/
def WideLsn (value : String) : Prop :=
  ∃ upper lower, lsnHalves value = some (upper, lower) ∧ 2 ^ 32 ≤ upper ∧ lower < 2 ^ 32

theorem parsePostgresqlLsn_eq_ok : parsePostgresqlLsn value = .ok position ↔
    ∃ upper lower, lsnHalves value = some (upper, lower) ∧ upper < 2 ^ 32 ∧ lower < 2 ^ 32 ∧
      position = upper * 2 ^ 32 + lower := by
  unfold parsePostgresqlLsn lsnHalves
  rcases splitOnce value '/' with _ | ⟨upper, lower⟩
  · simp
  cases hupper : u64FromStrRadix upper 16 with
  | none => simp [hupper]
  | some u =>
    cases hlower : u64FromStrRadix lower 16 with
    | none => simp [hupper, hlower]
    | some l =>
      simp only [hupper, hlower, throw_eq, pure_eq, error_bind, guard_eq_ok, Except.ok.injEq,
        Option.bind_eq_bind, Option.bind_some, Option.pure_def, Option.some.injEq, Prod.mk.injEq]
      constructor
      · rintro ⟨hbound, rfl⟩
        exact ⟨u, l, ⟨rfl, rfl⟩, by omega, by omega, rfl⟩
      · rintro ⟨_, _, ⟨rfl, rfl⟩, hu, hl, rfl⟩
        exact ⟨by omega, rfl⟩

theorem filePosition_lsn :
    filePosition ⟨"postgresql.lsn.v1", value, display⟩ = .ok (file, position) ↔
      file = value ∧ ∃ upper lower, lsnHalves value = some (upper, lower) ∧ lower < 2 ^ 32 ∧
        position = upper * 2 ^ 32 % 2 ^ 64 + lower := by
  unfold filePosition lsnHalves
  rw [if_pos rfl]
  rcases splitOnce value '/' with _ | ⟨upper, lower⟩
  · simp
  cases hupper : u64FromStrRadix upper 16 with
  | none => simp [hupper]
  | some u =>
    cases hlower : u64FromStrRadix lower 16 with
    | none => simp [hupper, hlower]
    | some l =>
      simp only [hupper, hlower, throw_eq, pure_eq, error_bind, guard_eq_ok, Except.ok.injEq,
        Option.bind_eq_bind, Option.bind_some, Option.pure_def, Option.some.injEq, Prod.mk.injEq]
      constructor
      · rintro ⟨hbound, rfl, rfl⟩
        exact ⟨rfl, u, l, ⟨rfl, rfl⟩, by omega, rfl⟩
      · rintro ⟨rfl, _, _, ⟨rfl, rfl⟩, hl, rfl⟩
        exact ⟨by omega, rfl, rfl⟩

/-- The two readers of an LSN accept the same texts with the same numbers. -/
def LsnReadersAgree (value : String) : Prop :=
  ∀ display file position,
    filePosition ⟨"postgresql.lsn.v1", value, display⟩ = .ok (file, position) ↔
      file = value ∧ parsePostgresqlLsn value = .ok position

/-- A wide LSN is the only text that the readers tell apart. -/
theorem lsnReadersAgree_iff : LsnReadersAgree value ↔ ¬ WideLsn value := by
  constructor
  · rintro hagree ⟨upper, lower, hhalves, hwide, hlower⟩
    obtain ⟨-, hparse⟩ := (hagree "" value _).mp
      (filePosition_lsn.mpr ⟨rfl, upper, lower, hhalves, hlower, rfl⟩)
    obtain ⟨upper', lower', hhalves', hnarrow, -, -⟩ := parsePostgresqlLsn_eq_ok.mp hparse
    rw [hhalves, Option.some.injEq, Prod.mk.injEq] at hhalves'
    omega
  · intro hnarrow display file position
    rw [filePosition_lsn, parsePostgresqlLsn_eq_ok]
    refine and_congr_right fun _ => ?_
    constructor
    · rintro ⟨upper, lower, hhalves, hlower, rfl⟩
      have hupper : upper < 2 ^ 32 := by
        by_contra hwide
        exact hnarrow ⟨upper, lower, hhalves, by omega, hlower⟩
      exact ⟨upper, lower, hhalves, hupper, hlower, by omega⟩
    · rintro ⟨upper, lower, hhalves, hupper, hlower, rfl⟩
      exact ⟨upper, lower, hhalves, hlower, by omega⟩

/-- LSNs that the strict reader maps to one position have the same halves. -/
theorem lsnHalves_eq (h : parsePostgresqlLsn value = .ok position)
    (h' : parsePostgresqlLsn value' = .ok position) : lsnHalves value = lsnHalves value' := by
  obtain ⟨upper, lower, hhalves, -, hlower, heq⟩ := parsePostgresqlLsn_eq_ok.mp h
  obtain ⟨upper', lower', hhalves', -, hlower', heq'⟩ := parsePostgresqlLsn_eq_ok.mp h'
  have hupper : upper = upper' := by omega
  have hlow : lower = lower' := by omega
  rw [hhalves, hhalves', hupper, hlow]

/-- The text of an LSN with these halves. -/
def lsnText (upper lower : ℕ) : String :=
  String.ofList (Nat.toDigits 16 upper) ++ "/" ++ String.ofList (Nat.toDigits 16 lower)

theorem lsnHalves_lsnText {upper lower : ℕ} (hupper : upper < 2 ^ 64) (hlower : lower < 2 ^ 64) :
    lsnHalves (lsnText upper lower) = some (upper, lower) := by
  have hsplit : splitOnce (lsnText upper lower) '/' =
      some (String.ofList (Nat.toDigits 16 upper), String.ofList (Nat.toDigits 16 lower)) := by
    rw [splitOnce_eq_some]
    constructor
    · simp [lsnText]
    · rw [String.toList_ofList]
      intro hslash
      obtain ⟨d, hd, hchar⟩ := mem_toDigits (by omega) hslash
      revert hchar
      interval_cases d <;> decide
  have hu : u64FromStrRadix (String.ofList (Nat.toDigits 16 upper)) 16 = some upper :=
    parseUnsigned_toDigits (by omega) le_rfl hupper
  have hl : u64FromStrRadix (String.ofList (Nat.toDigits 16 lower)) 16 = some lower :=
    parseUnsigned_toDigits (by omega) le_rfl hlower
  simp [lsnHalves, hsplit, hu, hl]

/-- No other LSN in the bounds of the strict reader has the position of this one. -/
def LsnPositionExact (value : String) : Prop :=
  ∀ value' display display' position, ¬ WideLsn value' →
    filePosition ⟨"postgresql.lsn.v1", value, display⟩ = .ok (value, position) →
      filePosition ⟨"postgresql.lsn.v1", value', display'⟩ = .ok (value', position) →
        lsnHalves value = lsnHalves value'

/-- A wide LSN has the position of the LSN that is left when its high bits are shifted out. -/
theorem lsnPositionExact_iff : LsnPositionExact value ↔ ¬ WideLsn value := by
  constructor
  · rintro hexact ⟨upper, lower, hhalves, hwide, hlower⟩
    have hhalves' : lsnHalves (lsnText (upper % 2 ^ 32) lower) = some (upper % 2 ^ 32, lower) :=
      lsnHalves_lsnText (by omega) (by omega)
    have hnarrow : ¬ WideLsn (lsnText (upper % 2 ^ 32) lower) := by
      rintro ⟨upper', lower', hread, hupper', -⟩
      rw [hhalves', Option.some.injEq, Prod.mk.injEq] at hread
      omega
    have heq := hexact (lsnText (upper % 2 ^ 32) lower) "" "" _ hnarrow
      (filePosition_lsn.mpr ⟨rfl, upper, lower, hhalves, hlower, rfl⟩)
      (filePosition_lsn.mpr ⟨rfl, upper % 2 ^ 32, lower, hhalves', hlower, by omega⟩)
    rw [hhalves, hhalves', Option.some.injEq, Prod.mk.injEq] at heq
    omega
  · intro hnarrow value' display display' position hnarrow' hread hread'
    obtain ⟨-, hparse⟩ := (lsnReadersAgree_iff.mpr hnarrow display value position).mp hread
    obtain ⟨-, hparse'⟩ := (lsnReadersAgree_iff.mpr hnarrow' display' value' position).mp hread'
    exact lsnHalves_eq hparse hparse'

/-- The text of an LSN has a slash and no dot. -/
theorem lsn_characters {upper lower : ℕ} (h : lsnHalves value = some (upper, lower)) :
    '/' ∈ value.toList ∧ '.' ∉ value.toList := by
  unfold lsnHalves at h
  obtain ⟨⟨left, right⟩, hsplit, hread⟩ := Option.bind_eq_some_iff.mp h
  obtain ⟨u, hu, hread⟩ := Option.bind_eq_some_iff.mp hread
  obtain ⟨l, hl, -⟩ := Option.bind_eq_some_iff.mp hread
  obtain ⟨hvalue, -⟩ := splitOnce_eq_some.mp hsplit
  have hleft : '.' ∉ left.toList := notMem_of_parseUnsigned hu (by decide) rfl
  have hright : '.' ∉ right.toList := notMem_of_parseUnsigned hl (by decide) rfl
  rw [hvalue]
  constructor
  · exact List.mem_append_right _ List.mem_cons_self
  · rw [List.mem_append, List.mem_cons]
    rintro (hdot | hdot | hdot)
    · exact hleft hdot
    · exact absurd hdot (by decide)
    · exact hright hdot

end Halves

section Rows

variable {β σ : Type} {gs : GtidServer} {execute : SqlTransaction σ → β → Except IoError β}
  {db : SinkDb β} {w : CheckpointWriter} {cp row : ReplicationCheckpoint}
  {source sink binding id file : String} {position : ℕ} {cursor : SourceCursor}
  {plan : Option (SqlTransaction σ)} {result : CheckpointApplyResult} {business : β}

/-- The names and positions that `validate_position` lets pass. -/
theorem validatePosition_eq_ok : validatePosition file position = .ok () ↔
    (file.isEmpty = false ∧ file.utf8ByteSize ≤ 255 ∧ isAscii file = true ∧
      containsChar file '\x00' = false ∧ containsChar file '/' = false ∧
        containsChar file '\\' = false) ∧ 4 ≤ position ∧ position < 2 ^ 32 := by
  unfold validatePosition
  rw [throw_eq, pure_eq, guard_eq_ok]
  simp only [not_or, Classical.not_not, Bool.not_eq_true, not_lt, and_true, and_assoc,
    Bool.not_eq_false]

/-- A binlog cursor is read as a valid position only. -/
theorem validatePosition_of_filePosition (hformat : cursor.format ≠ "postgresql.lsn.v1")
    (h : filePosition cursor = .ok (file, position)) : validatePosition file position = .ok () := by
  unfold filePosition at h
  rw [if_neg hformat, ite_eq_iff] at h
  obtain ⟨-, h⟩ | ⟨-, h⟩ := h
  · cases hbytes : Base64.decode cursor.value with
    | none => simp [hbytes] at h
    | some bytes =>
      cases hsplit : bytes.findIdx? (· == 0) with
      | none => simp [hbytes, hsplit] at h
      | some split =>
        cases hfile : fromUtf8 (bytes.take split) with
        | none => simp [hbytes, hsplit, hfile] at h
        | some name =>
          simp only [hbytes, hsplit, hfile] at h
          split at h
          · obtain ⟨⟨⟩, hvalid, hpair⟩ := bind_eq_ok.mp h
            obtain ⟨rfl, rfl⟩ := Prod.mk.inj (Except.ok.inj hpair)
            exact hvalid
          · cases h
  · cases h

/-- A row that owns its task and is in a state a writer can resume from. -/
theorem checkBinding_eq_ok : checkBinding cp source sink binding = .ok () ↔
    (cp.sourceUuid = source ∧ cp.sinkUuid = sink ∧ cp.binding = binding) ∧
      cp.phase ∈ ["snapshot", "incremental"] ∧
        validateCheckpointPosition cp.mode cp.file cp.position = .ok () ∧
          cp.mode ∈ ["gtid", "binlog", "postgresql_lsn"] ∧ (cp.mode == "gtid") = cp.gtidSet.isSome ∧
            ¬ (cp.mode = "postgresql_lsn" ∧ cp.gtidSet.isSome) := by
  unfold checkBinding
  simp only [throw_eq, pure_eq, error_bind, guard_eq_ok, bind_eq_ok, not_or, Classical.not_not,
    ne_eq, and_true, and_assoc]
  constructor
  · rintro ⟨hsource, hsink, hbinding, hphase, ⟨⟩, hposition, hmode⟩
    exact ⟨hsource, hsink, hbinding, hphase, hposition, hmode⟩
  · rintro ⟨hsource, hsink, hbinding, hphase, hposition, hmode⟩
    exact ⟨hsource, hsink, hbinding, hphase, (), hposition, hmode⟩

/-- Rows in another mode than LSNs stand at a binlog name, which an LSN never equals or
follows. -/
theorem validateCheckpointPosition_of_compare {order : Ordering}
    (hcp : validateCheckpointPosition cp.mode cp.file cp.position = .ok ())
    (hfile : filePosition cursor = .ok (file, position))
    (h : compareCheckpointPosition (some cp.mode) file position cp.file cp.position = .ok order) :
    validateCheckpointPosition cp.mode file position = .ok () := by
  unfold compareCheckpointPosition at h
  unfold validateCheckpointPosition at hcp ⊢
  by_cases hmode : cp.mode = "postgresql_lsn"
  · rw [if_pos (congrArg some hmode)] at h
    rw [if_pos hmode]
    obtain ⟨parsed, hparsed, h⟩ := bind_eq_ok.mp h
    obtain ⟨parsed', hparsed', h⟩ := bind_eq_ok.mp h
    simp only [throw_eq, error_bind, guard_eq_ok] at h
    have hsame : parsed = position := by
      by_contra hne
      exact h.1 (.inl hne)
    simp [hparsed, hsame]
  · rw [if_neg (fun hsome => hmode (Option.some.inj hsome))] at h
    rw [if_neg hmode] at hcp ⊢
    by_cases hformat : cursor.format = "postgresql.lsn.v1"
    · obtain ⟨format, value, display⟩ := cursor
      cases hformat
      obtain ⟨rfl, upper, lower, hhalves, -, -⟩ := filePosition_lsn.mp hfile
      obtain ⟨hslash, hdot⟩ := lsn_characters hhalves
      have hstored : containsChar cp.file '/' = false := (validatePosition_eq_ok.mp hcp).1.2.2.2.2.1
      have hne : file ≠ cp.file := by
        rintro rfl
        rw [containsChar, List.contains_eq_mem, decide_eq_false_iff_not] at hstored
        exact hstored hslash
      unfold comparePosition splitBinlogFile at h
      rw [if_neg hne] at h
      cases hnumber : rsplitOnce file '.' with
      | none => simp [hnumber] at h
      | some parts => exact absurd (mem_of_rsplitOnce hnumber) hdot
    · exact validatePosition_of_filePosition hformat hfile

/-- The row that an apply writes is the row of the same writer, in a state it can resume
from. -/
theorem applyInner_checkBinding
    (h : applyInner gs execute db w source id cursor plan = .ok (.ready result business)) :
    checkBinding result.checkpoint w.sourceUuid w.sinkUuid w.binding = .ok () := by
  obtain ⟨cp, file, position, rows, hclassified, -, hadvance⟩ := applyInner_classified h
  have hspec := classifyTransaction_spec hclassified
  obtain ⟨order, horder, -⟩ := hspec.order
  obtain ⟨howner, hphase, hposition, hmode, hgtid, hlsn⟩ :=
    checkBinding_eq_ok.mp (classifyTransaction_binding hclassified)
  obtain ⟨hfile, hpos, -, hmode', hphase', hset⟩ := advanceCheckpoint_spec hadvance
  obtain ⟨hsource, hsink, hbinding⟩ := advanceCheckpoint_owner hadvance
  have hsome : result.checkpoint.gtidSet.isSome = cp.gtidSet.isSome := by
    by_cases hgtidMode : cp.mode = "gtid"
    · rw [if_pos hgtidMode] at hset
      obtain ⟨set, hset, -⟩ := hset
      rw [hset, ← hgtid, hgtidMode]
      rfl
    · rw [if_neg hgtidMode] at hset
      rw [hset]
  rw [checkBinding_eq_ok, hsource, hsink, hbinding, hphase', hmode', hfile, hpos, hsome]
  exact ⟨howner, hphase,
    validateCheckpointPosition_of_compare hposition hspec.filePosition_eq horder, hmode, hgtid,
    hlsn⟩

end Rows

end DatabaseSync.MysqlSink
