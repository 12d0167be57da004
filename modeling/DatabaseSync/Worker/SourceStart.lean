import DatabaseSync.Control.Store
import DatabaseSync.Library.Transition
import DatabaseSync.Library.Watermark
import DatabaseSync.PostgresqlSource.Stream

/-! # Starts of a PostgreSQL-source task

A start reads the mirror in the task store, opens the replication slot, attaches the sink,
persists the starting boundary there and saves the mirror again. It may fail between any two
of these steps.
-/

namespace DatabaseSync.Worker

open Checked Control PostgresqlSource Transition

/-- A row of `pg_replication_slots`. -/
structure Slot where
  database : Option String
  plugin : Option String
  slotType : String
  active : Bool
  temporary : Bool
  walStatus : Option String
  confirmed : Option ℕ
deriving DecidableEq, Repr

/-- The source server: its identity, the committed transactions, the end of its WAL and the
task's slot. -/
structure SourceServer where
  sourceId : String
  database : String
  history : List WalTransaction
  insertLsn : ℕ
  slot : Option Slot

/-- The checks on an existing slot, with its confirmed position. -/
def confirmedPosition (database : String) (slot : Slot) : Except String ℕ := do
  if slot.database ≠ some database ∨ slot.plugin ≠ some "pgoutput" ∨ slot.slotType ≠ "logical" ∨
      slot.active ∨ slot.temporary ∨
      slot.walStatus ∉ [some "reserved", some "extended"] then
    throw "slot is active, invalid, temporary, or bound to another database/plugin"
  match slot.confirmed with
  | some confirmed => return confirmed
  | none => throw "slot has no confirmed position"

/-- What `CREATE_REPLICATION_SLOT` leaves behind. -/
def createdSlot (database : String) (point : ℕ) : Slot :=
  ⟨some database, some "pgoutput", "logical", false, false, some "reserved", some point⟩

/-- The slot part of `replication_for_version`, with the start of the stream. A slot that is
created reaches its consistent point at `point`. -/
def replication (server : SourceServer) (createSlot : Bool) (startLsn expected : Option String)
    (point : ℕ) : Except String (ℕ × SourceServer) := do
  if createSlot ∧ startLsn.isSome then
    throw "cannot specify historical LSN while creating a new slot"
  if createSlot ∧ server.slot.isSome then
    throw "slot already exists; omit --create-slot to resume"
  if ¬ createSlot ∧ server.slot.isNone then
    throw ("slot is missing; refusing to recreate it during resume " ++
      "(use --create-slot only for first initialization)")
  let confirmed ← match server.slot with
    | some slot => confirmedPosition server.database slot
    | none => pure 0
  if expected.any (· ≠ server.sourceId) then
    throw "source identity changed; refusing cursor reuse"
  let (start, server) ←
    if createSlot then
      pure (point, { server with
        slot := some (createdSlot server.database point), insertLsn := point })
    else match startLsn with
      | some lsn => do
        let some requested := parsePostgresqlLsn lsn | throw "invalid PostgreSQL LSN"
        if requested < confirmed then
          throw ("requested LSN predates confirmed_flush_lsn; the slot can no longer " ++
            "guarantee replay from that position")
        pure (requested, server)
      | none => pure (confirmed, server)
  if start = 0 then throw "a nonzero starting LSN is required"
  return (start, server)

/-- The boundary at which a source has been opened. -/
def boundary (sourceUuid : String) (lsn : ℕ) : Checkpoint :=
  ⟨sourceUuid, "", "postgresql_lsn", formatLsn lsn, lsn, none, 0, 0, "incremental", 0⟩

def openPostgresqlSource (server : SourceServer) (saved : Option Checkpoint) (point : ℕ) :
    Except String (Checkpoint × SourceServer) := do
  if saved.any (·.mode ≠ "postgresql_lsn") then
    throw "目的端保存的位点不是 PostgreSQL Source 位点"
  let (start, server) ← replication server saved.isNone (saved.map (·.file))
    (saved.map (·.sourceUuid)) point
  return (boundary server.sourceId start, server)

/-- What `run` does once the sink is open: the mirror may not be ahead of the sink, and the
source is opened again if the sink stands elsewhere. -/
def attachSink (server : SourceServer) (mirror sink : Option Checkpoint) (opened : Checkpoint)
    (point : ℕ) : Except String (Checkpoint × SourceServer) := do
  if sink.isNone ∧ mirror.isSome then
    throw "目的端 CDC.log_info 中的任务进度丢失，禁止从最新位置重新开始"
  match sink with
  | none => return (opened, server)
  | some saved =>
    if saved.sourceUuid ≠ opened.sourceUuid ∨ saved.mode ≠ opened.mode ∨
        saved.file ≠ opened.file ∨ saved.position ≠ opened.position then
      openPostgresqlSource server (some saved) point
    else return (opened, server)

/-- How far a start has come. -/
inductive StartPhase
  | down
  | loaded (mirror : Option Checkpoint)
  | opened (mirror : Option Checkpoint) (opened : Checkpoint)
  | attached (opened : Checkpoint)
  | initialized (opened saved : Checkpoint)
  | streaming (position : ℕ)

structure StartSystem where
  server : SourceServer
  sink : Option Checkpoint
  mirror : Option Checkpoint
  applied : List WalTransaction
  phase : StartPhase

inductive StartAction
  | commitWal
  | load
  | openSource
  | attach
  | initializeSink
  | saveMirror
  | apply
  | filter
  | stop
deriving DecidableEq

/-- The transaction that a stream at `position` delivers next. -/
structure Next (history : List WalTransaction) (position : ℕ) (tx : WalTransaction) : Prop where
  mem : tx ∈ history
  after : position ≤ tx.commitLsn
  first : ∀ other ∈ history, position ≤ other.commitLsn → tx.commitLsn ≤ other.commitLsn

variable (selected : WalTransaction → Bool)

/-- One step of the source server or of a start. -/
inductive StartStep : StartSystem → StartAction → StartSystem → Prop
  | commitWal {s : StartSystem} {tx : WalTransaction} :
      s.server.insertLsn ≤ tx.commitLsn → tx.endLsn < 2 ^ 64 →
      StartStep s .commitWal { s with server := { s.server with
        history := s.server.history ++ [tx], insertLsn := tx.endLsn } }
  | load {s : StartSystem} :
      s.phase = .down → StartStep s .load { s with phase := .loaded s.mirror }
  | openSource {s : StartSystem} {mirror : Option Checkpoint} {opened : Checkpoint}
      {server : SourceServer} {point : ℕ} :
      s.phase = .loaded mirror → s.server.insertLsn ≤ point → point < 2 ^ 64 →
      openPostgresqlSource s.server mirror point = .ok (opened, server) →
      StartStep s .openSource { s with server := server, phase := .opened mirror opened }
  | attach {s : StartSystem} {mirror : Option Checkpoint} {opened opened' : Checkpoint}
      {server : SourceServer} {point : ℕ} :
      s.phase = .opened mirror opened → s.server.insertLsn ≤ point → point < 2 ^ 64 →
      attachSink s.server mirror s.sink opened point = .ok (opened', server) →
      StartStep s .attach { s with server := server, phase := .attached opened' }
  /-- `initialize` commits the boundary, unless the sink has a checkpoint already. -/
  | initializeSink {s : StartSystem} {opened : Checkpoint} {sinkUuid : String} :
      s.phase = .attached opened →
      StartStep s .initializeSink { s with
        sink := some (s.sink.getD { opened with sinkUuid := sinkUuid })
        phase := .initialized opened (s.sink.getD { opened with sinkUuid := sinkUuid }) }
  | saveMirror {s : StartSystem} {opened saved : Checkpoint} :
      s.phase = .initialized opened saved →
      StartStep s .saveMirror
        { s with mirror := some saved, phase := .streaming opened.position }
  /-- A transaction with selected rows is applied; the mirror may lag behind the sink. -/
  | apply {s : StartSystem} {position : ℕ} {tx : WalTransaction} {cp : Checkpoint} {saved : Bool} :
      s.phase = .streaming position → s.sink = some cp → Next s.server.history position tx →
      selected tx = true →
      StartStep s .apply { s with
        sink := some { cp with file := formatLsn tx.endLsn, position := tx.endLsn }
        mirror := if saved then some { cp with file := formatLsn tx.endLsn, position := tx.endLsn }
          else s.mirror
        applied := s.applied ++ [tx]
        phase := .streaming tx.endLsn }
  /-- A transaction without selected rows is observed only. -/
  | filter {s : StartSystem} {position : ℕ} {tx : WalTransaction} :
      s.phase = .streaming position → Next s.server.history position tx → selected tx = false →
      StartStep s .filter { s with phase := .streaming tx.endLsn }
  /-- The attempt ends, in whatever phase. -/
  | stop {s : StartSystem} : StartStep s .stop { s with phase := .down }

/-- A start of healthy databases, up to the position it streams from. -/
def healthyStart (s : StartSystem) : Except String ℕ := do
  let point := s.server.insertLsn
  let (opened, server) ← openPostgresqlSource s.server s.mirror point
  let (opened, _) ← attachSink server s.mirror s.sink opened point
  return opened.position

/-- The next start is not refused, and streams from a position before every transaction that
was committed after the creation of the slot and is yet to be applied. -/
def Restartable (s : StartSystem) : Prop :=
  ∃ position, healthyStart s = .ok position ∧
    ∀ tx ∈ s.server.history, ∀ slot confirmed, s.server.slot = some slot →
      slot.confirmed = some confirmed → confirmed ≤ tx.commitLsn → selected tx = true →
      tx ∉ s.applied → position ≤ tx.commitLsn

/-- A step that does not end an attempt between the creation of the slot and the first saved
mirror. -/
def MirrorFollows (s : StartSystem) (a : StartAction) (_ : StartSystem) : Prop :=
  a = .stop → s.server.slot.isSome → s.mirror.isSome

section Opening

variable {server : SourceServer} {saved : Checkpoint} {c p point : ℕ}

/-- A checkpoint of this source at a position. -/
structure PointsAt (sourceId : String) (cp : Checkpoint) (p : ℕ) : Prop where
  source : cp.sourceUuid = sourceId
  mode : cp.mode = "postgresql_lsn"
  file : cp.file = formatLsn p
  position : cp.position = p

theorem boundary_pointsAt (sourceId : String) (p : ℕ) :
    PointsAt sourceId (boundary sourceId p) p :=
  ⟨rfl, rfl, rfl, rfl⟩

theorem confirmedPosition_createdSlot (database : String) (point : ℕ) :
    confirmedPosition database (createdSlot database point) = .ok point := by
  simp [confirmedPosition, createdSlot]

/-- Resuming at a position the slot still guarantees. -/
theorem replication_resume (point : ℕ)
    (hslot : server.slot = some (createdSlot server.database c)) (hc : 0 < c) (hcp : c ≤ p)
    (hp : p < 2 ^ 64) :
    replication server false (some (formatLsn p)) (some server.sourceId) point =
      .ok (p, server) := by
  have hzero : p ≠ 0 := by omega
  have hguard : ¬ p < c := not_lt.mpr hcp
  have hparse := parse_formatLsn hp
  generalize formatLsn p = lsn at hparse ⊢
  unfold replication
  simp only [hslot, confirmedPosition_createdSlot, hparse, pure_eq, ok_bind, throw_eq, error_bind,
    if_neg hguard, if_neg hzero]
  simp

/-- A saved position at or after the creation of the slot is resumed. -/
theorem open_saved (hslot : server.slot = some (createdSlot server.database c))
    (hsaved : PointsAt server.sourceId saved p) (hc : 0 < c) (hcp : c ≤ p) (hp : p < 2 ^ 64) :
    openPostgresqlSource server (some saved) point =
      .ok (boundary server.sourceId p, server) := by
  have hresume := replication_resume point hslot hc hcp hp
  simp [openPostgresqlSource, hsaved.mode, hsaved.source, hsaved.file, hresume]

/-- Without a saved position and a slot, the slot is created. -/
theorem open_new (hslot : server.slot = none) (hpoint : 0 < point) :
    openPostgresqlSource server none point = .ok (boundary server.sourceId point,
      { server with slot := some (createdSlot server.database point), insertLsn := point }) := by
  simp [openPostgresqlSource, replication, hslot, hpoint.ne']

/-- Without a saved position, an existing slot is refused. -/
theorem open_refused {slot : Slot} (hslot : server.slot = some slot) :
    openPostgresqlSource server none point =
      .error "slot already exists; omit --create-slot to resume" := by
  simp [openPostgresqlSource, replication, hslot]

/-- With a checkpoint in the sink, the source ends up at that checkpoint. -/
theorem attachSink_saved {mirror : Option Checkpoint} {opened : Checkpoint}
    (hslot : server.slot = some (createdSlot server.database c))
    (hsaved : PointsAt server.sourceId saved p) (hc : 0 < c) (hcp : c ≤ p) (hp : p < 2 ^ 64) :
    ∃ opened', attachSink server mirror (some saved) opened point = .ok (opened', server) ∧
      PointsAt server.sourceId opened' p := by
  by_cases hdiffer : saved.sourceUuid ≠ opened.sourceUuid ∨ saved.mode ≠ opened.mode ∨
      saved.file ≠ opened.file ∨ saved.position ≠ opened.position
  · refine ⟨boundary server.sourceId p, ?_, boundary_pointsAt _ _⟩
    simp [attachSink, if_pos hdiffer, open_saved hslot hsaved hc hcp hp]
  · refine ⟨opened, by simp [attachSink, if_neg hdiffer], ?_⟩
    simp only [not_or, not_not] at hdiffer
    obtain ⟨hsource, hmode, hfile, hposition⟩ := hdiffer
    exact ⟨hsource ▸ hsaved.source, hmode ▸ hsaved.mode, hfile ▸ hsaved.file,
      hposition ▸ hsaved.position⟩

end Opening

/-- Streaming from a position skips nothing that is yet to be applied. -/
structure Settled (s : StartSystem) (c p : ℕ) : Prop where
  from_slot : c ≤ p
  in_wal : p ≤ s.server.insertLsn
  none_skipped : ∀ tx ∈ s.server.history, c ≤ tx.commitLsn → selected tx = true →
    tx ∉ s.applied → p ≤ tx.commitLsn

/-- What a start knows in each phase once the slot exists since position `c`. -/
def PhaseKnows (s : StartSystem) (c : ℕ) : StartPhase → Prop
  | .down => s.mirror.isSome
  | .loaded mirror => mirror = s.mirror ∧ mirror.isSome
  | .opened mirror opened => mirror = s.mirror ∧ ∃ p, PointsAt s.server.sourceId opened p ∧
      (mirror = none → s.sink = none ∧ p = c)
  | .attached opened => ∃ p, PointsAt s.server.sourceId opened p ∧ Settled selected s c p
  | .initialized opened saved => ∃ p, PointsAt s.server.sourceId opened p ∧
      Settled selected s c p ∧ s.sink = some saved
  | .streaming p => Settled selected s c p ∧ s.sink.isSome

/-- The state of the three systems since the slot was created at `c`. -/
structure Created (s : StartSystem) (c : ℕ) : Prop where
  slot : s.server.slot = some (createdSlot s.server.database c)
  positive : 0 < c
  in_wal : c ≤ s.server.insertLsn
  sink : ∀ cp, s.sink = some cp → ∃ p, PointsAt s.server.sourceId cp p ∧ Settled selected s c p
  unapplied : s.sink = none → s.applied = []
  mirror : ∀ m, s.mirror = some m → s.sink.isSome ∧
    ∃ p, PointsAt s.server.sourceId m p ∧ c ≤ p ∧ p ≤ s.server.insertLsn
  phase : PhaseKnows selected s c s.phase

/-- Nothing has been created yet. -/
structure Fresh (s : StartSystem) : Prop where
  slot : s.server.slot = none
  sink : s.sink = none
  mirror : s.mirror = none
  applied : s.applied = []
  phase : s.phase = .down ∨ s.phase = .loaded none

structure StartInv (s : StartSystem) : Prop where
  ordered : WalHistory s.server.history
  bounded : ∀ tx ∈ s.server.history, tx.endLsn ≤ s.server.insertLsn
  insert_pos : 0 < s.server.insertLsn
  insert_lt : s.server.insertLsn < 2 ^ 64
  progress : Fresh s ∨ ∃ c, Created selected s c

section Progress

variable {selected} {s s' : StartSystem} {a : StartAction} {c p : ℕ} {tx : WalTransaction}

/-- Taking the next transaction of the stream, which is applied if it has selected rows. -/
theorem Settled.next (h : Settled selected s c p) (hi : StartInv selected s)
    (hnext : Next s.server.history p tx) (happlied : selected tx = true → tx ∈ s'.applied)
    (hserver : s'.server = s.server) (hsub : ∀ tx ∈ s.applied, tx ∈ s'.applied) :
    Settled selected s' c tx.endLsn := by
  refine ⟨?_, ?_, ?_⟩
  · exact h.from_slot.trans (hnext.after.trans tx.commit_lt_end.le)
  · exact hserver ▸ hi.bounded tx hnext.mem
  · intro other hother hslot hselected hunapplied
    rw [hserver] at hother
    have hlater := hnext.first other hother (h.none_skipped other hother hslot hselected
      fun hmem => hunapplied (hsub other hmem))
    have hne : other ≠ tx := by
      rintro rfl
      exact hunapplied (happlied hselected)
    -- Commit records do not overlap, and the other one begins no earlier.
    have htx := tx.commit_lt_end
    have hend := other.commit_lt_end
    rcases Watermark.pairwise_trichotomy hi.ordered hother hnext.mem with heq | hbefore | hafter
    · exact absurd heq hne
    · omega
    · exact hafter

/-- A position stays settled when only the phases, the sink or the mirror change. -/
theorem Settled.congr (h : Settled selected s c p) (hserver : s'.server = s.server)
    (happlied : s'.applied = s.applied) : Settled selected s' c p :=
  ⟨h.from_slot, hserver ▸ h.in_wal, by rw [hserver, happlied]; exact h.none_skipped⟩

/-- The commit of another transaction at the end of the WAL. -/
theorem Settled.commitWal (h : Settled selected s c p)
    (hhistory : s'.server.history = s.server.history ++ [tx])
    (hinsert : s'.server.insertLsn = tx.endLsn) (htx : s.server.insertLsn ≤ tx.commitLsn)
    (happlied : s'.applied = s.applied) : Settled selected s' c p := by
  have hend := tx.commit_lt_end
  refine ⟨h.from_slot, ?_, ?_⟩
  · exact hinsert ▸ h.in_wal.trans (htx.trans hend.le)
  · intro other hother hslot hselected hunapplied
    rw [hhistory, List.mem_append, List.mem_singleton] at hother
    rw [happlied] at hunapplied
    rcases hother with hother | rfl
    · exact h.none_skipped other hother hslot hselected hunapplied
    · exact h.in_wal.trans htx

/-- What a phase knows survives a change that keeps positions settled. -/
theorem PhaseKnows.mono (hsettled : ∀ p, Settled selected s c p → Settled selected s' c p)
    (hsource : s'.server.sourceId = s.server.sourceId) (hsink : s'.sink = s.sink)
    (hmirror : s'.mirror = s.mirror) {phase : StartPhase} (h : PhaseKnows selected s c phase) :
    PhaseKnows selected s' c phase := by
  cases phase with
  | down => simpa [PhaseKnows, hmirror] using h
  | loaded mirror => simpa [PhaseKnows, hmirror] using h
  | opened mirror opened => simpa [PhaseKnows, hmirror, hsource, hsink] using h
  | attached opened =>
    obtain ⟨p, hopened, hp⟩ := h
    exact ⟨p, hsource ▸ hopened, hsettled p hp⟩
  | initialized opened saved =>
    obtain ⟨p, hopened, hp, hsaved⟩ := h
    exact ⟨p, hsource ▸ hopened, hsettled p hp, hsink.trans hsaved⟩
  | streaming p => exact ⟨hsettled p h.1, hsink ▸ h.2⟩

theorem StartInv.commitWal (hi : StartInv selected s) (htx : s.server.insertLsn ≤ tx.commitLsn)
    (hend : tx.endLsn < 2 ^ 64) :
    StartInv selected { s with server := { s.server with
      history := s.server.history ++ [tx], insertLsn := tx.endLsn } } := by
  have hlt := tx.commit_lt_end
  refine ⟨?_, ?_, ?_, hend, ?_⟩
  · refine List.pairwise_append.mpr ⟨hi.ordered, List.pairwise_singleton .., ?_⟩
    rintro old hold new hnew
    rw [List.mem_singleton] at hnew
    exact hnew ▸ (hi.bounded old hold).trans htx
  · intro other hother
    rw [List.mem_append, List.mem_singleton] at hother
    rcases hother with hother | rfl
    · exact (hi.bounded other hother).trans (htx.trans hlt.le)
    · exact le_rfl
  · exact hi.insert_pos.trans_le (htx.trans hlt.le)
  · rcases hi.progress with hfresh | ⟨c, hcreated⟩
    · exact .inl ⟨hfresh.slot, hfresh.sink, hfresh.mirror, hfresh.applied, hfresh.phase⟩
    · refine .inr ⟨c, hcreated.slot, hcreated.positive,
        hcreated.in_wal.trans (htx.trans hlt.le), ?_, hcreated.unapplied, ?_, ?_⟩
      · intro cp hcp
        obtain ⟨p, hat, hp⟩ := hcreated.sink cp hcp
        exact ⟨p, hat, hp.commitWal rfl rfl htx rfl⟩
      · intro m hm
        obtain ⟨hsink, p, hat, hcp, hp⟩ := hcreated.mirror m hm
        exact ⟨hsink, p, hat, hcp, hp.trans (htx.trans hlt.le)⟩
      · refine hcreated.phase.mono ?_ ?_ ?_ ?_
        · exact fun p hp => hp.commitWal rfl rfl htx rfl
        all_goals rfl

/-- Steps that change neither the server nor the applied transactions. -/
theorem StartInv.of_created (hi : StartInv selected s) (hserver : s'.server = s.server)
    (h : Created selected s' c) : StartInv selected s' :=
  ⟨hserver ▸ hi.ordered, hserver ▸ hi.bounded, hserver ▸ hi.insert_pos, hserver ▸ hi.insert_lt,
    .inr ⟨c, h⟩⟩

/-- Only the phase changes. -/
theorem Created.setPhase (h : Created selected s c) {phase : StartPhase}
    (hphase : PhaseKnows selected s c phase) : Created selected { s with phase := phase } c where
  slot := h.slot
  positive := h.positive
  in_wal := h.in_wal
  sink cp hcp := by
    obtain ⟨p, hat, hp⟩ := h.sink cp hcp
    exact ⟨p, hat, hp.congr rfl rfl⟩
  unapplied := h.unapplied
  mirror := h.mirror
  phase := by
    refine hphase.mono ?_ ?_ ?_ ?_
    · exact fun p hp => hp.congr rfl rfl
    all_goals rfl

/-- Opening the source: the slot is created, or a saved position is resumed. -/
theorem StartInv.openSource (hi : StartInv selected s) {mirror : Option Checkpoint}
    {opened : Checkpoint} {server : SourceServer} {point : ℕ}
    (hphase : s.phase = .loaded mirror) (hpoint : s.server.insertLsn ≤ point)
    (hlt : point < 2 ^ 64)
    (hopen : openPostgresqlSource s.server mirror point = .ok (opened, server)) :
    StartInv selected { s with server := server, phase := .opened mirror opened } := by
  have hpos := hi.insert_pos
  rcases hi.progress with hfresh | ⟨c, hcreated⟩
  · obtain ⟨hslot, hsink, hmirror, happlied, hdown⟩ := hfresh
    obtain rfl : mirror = none := by simpa [hphase] using hdown
    rw [open_new hslot (hpos.trans_le hpoint), Except.ok.injEq, Prod.mk.injEq] at hopen
    obtain ⟨rfl, rfl⟩ := hopen
    refine ⟨hi.ordered, ?_, hpos.trans_le hpoint, hlt,
      .inr ⟨point, rfl, ?_, le_rfl, ?_, ?_, ?_, ?_⟩⟩
    · exact fun tx htx => (hi.bounded tx htx).trans hpoint
    · exact hpos.trans_le hpoint
    · simp [hsink]
    · exact fun _ => happlied
    · simp [hmirror]
    · exact ⟨hmirror.symm, point, boundary_pointsAt _ _, fun _ => ⟨hsink, rfl⟩⟩
  · have hknows := hcreated.phase
    rw [hphase] at hknows
    obtain ⟨hmirror, hsome⟩ := hknows
    obtain ⟨m, rfl⟩ := Option.isSome_iff_exists.mp hsome
    obtain ⟨-, p, hat, hcp, hp⟩ := hcreated.mirror m hmirror.symm
    rw [open_saved hcreated.slot hat hcreated.positive hcp (hp.trans_lt hi.insert_lt),
      Except.ok.injEq, Prod.mk.injEq] at hopen
    obtain ⟨rfl, rfl⟩ := hopen
    refine hi.of_created rfl (hcreated.setPhase ?_)
    exact ⟨hmirror, p, boundary_pointsAt _ _, nofun⟩

/-- Attaching the sink: the source ends up where the sink stands. -/
theorem StartInv.attach (hi : StartInv selected s) {mirror : Option Checkpoint}
    {opened opened' : Checkpoint} {server : SourceServer} {point : ℕ}
    (hphase : s.phase = .opened mirror opened)
    (hattach : attachSink s.server mirror s.sink opened point = .ok (opened', server)) :
    StartInv selected { s with server := server, phase := .attached opened' } := by
  rcases hi.progress with hfresh | ⟨c, hcreated⟩
  · have := hfresh.phase
    simp [hphase] at this
  · have hknows := hcreated.phase
    rw [hphase] at hknows
    obtain ⟨hmirror, p, hopened, hnew⟩ := hknows
    obtain hsink | ⟨saved, hsink⟩ := Option.eq_none_or_eq_some s.sink
    · -- The sink is empty only before the first boundary: the slot has just been created.
      have hnone : mirror = none := by
        cases hm : mirror with
        | none => rfl
        | some m =>
          obtain ⟨hsome, -⟩ := hcreated.mirror m (hmirror.symm.trans hm)
          simp [hsink] at hsome
      subst hnone
      simp only [attachSink, hsink, Option.isNone_none, Option.isSome_none, Bool.false_eq_true,
        and_false, if_false, pure_eq, Except.ok.injEq, Prod.mk.injEq] at hattach
      obtain ⟨rfl, rfl⟩ := hattach
      obtain ⟨-, rfl⟩ := hnew rfl
      refine hi.of_created rfl (hcreated.setPhase ?_)
      exact ⟨p, hopened, le_rfl, hcreated.in_wal, fun tx _ hslot _ _ => hslot⟩
    · obtain ⟨q, hat, hq⟩ := hcreated.sink saved hsink
      obtain ⟨opened'', hresult, hstands⟩ := attachSink_saved hcreated.slot hat
        hcreated.positive hq.from_slot (hq.in_wal.trans_lt hi.insert_lt)
      rw [hsink, hresult, Except.ok.injEq, Prod.mk.injEq] at hattach
      obtain ⟨rfl, rfl⟩ := hattach
      refine hi.of_created rfl (hcreated.setPhase ?_)
      exact ⟨q, hstands, hq⟩

/-- Persisting the boundary in the sink. -/
theorem StartInv.initializeSink (hi : StartInv selected s) {opened : Checkpoint} {sinkUuid : String}
    (hphase : s.phase = .attached opened) :
    StartInv selected { s with
      sink := some (s.sink.getD { opened with sinkUuid := sinkUuid })
      phase := .initialized opened (s.sink.getD { opened with sinkUuid := sinkUuid }) } := by
  rcases hi.progress with hfresh | ⟨c, hcreated⟩
  · have := hfresh.phase
    simp [hphase] at this
  · have hknows := hcreated.phase
    rw [hphase] at hknows
    obtain ⟨p, hopened, hp⟩ := hknows
    have hsaved : ∃ q, PointsAt s.server.sourceId
        (s.sink.getD { opened with sinkUuid := sinkUuid }) q ∧ Settled selected s c q := by
      cases hsink : s.sink with
      | none => exact ⟨p, ⟨hopened.source, hopened.mode, hopened.file, hopened.position⟩, hp⟩
      | some saved => exact hcreated.sink saved hsink
    refine hi.of_created (c := c) rfl
      ⟨hcreated.slot, hcreated.positive, hcreated.in_wal, ?_, nofun, ?_, ?_⟩
    · intro cp hcp
      cases hcp
      obtain ⟨q, hat, hq⟩ := hsaved
      exact ⟨q, hat, hq.congr rfl rfl⟩
    · intro m hm
      exact ⟨rfl, (hcreated.mirror m hm).2⟩
    · exact ⟨p, hopened, hp.congr rfl rfl, rfl⟩

/-- Saving the mirror. -/
theorem StartInv.saveMirror (hi : StartInv selected s) {opened saved : Checkpoint}
    (hphase : s.phase = .initialized opened saved) :
    StartInv selected
      { s with mirror := some saved, phase := .streaming opened.position } := by
  rcases hi.progress with hfresh | ⟨c, hcreated⟩
  · have := hfresh.phase
    simp [hphase] at this
  · have hknows := hcreated.phase
    rw [hphase] at hknows
    obtain ⟨p, hopened, hp, hsink⟩ := hknows
    refine hi.of_created (c := c) rfl
      ⟨hcreated.slot, hcreated.positive, hcreated.in_wal, ?_, hcreated.unapplied, ?_, ?_⟩
    · intro cp hcp
      obtain ⟨q, hat, hq⟩ := hcreated.sink cp hcp
      exact ⟨q, hat, hq.congr rfl rfl⟩
    · intro m hm
      cases hm
      obtain ⟨q, hat, hq⟩ := hcreated.sink saved hsink
      exact ⟨by simp [hsink], q, hat, hq.from_slot, hq.in_wal⟩
    · refine ⟨?_, by simp [hsink]⟩
      rw [hopened.position]
      exact hp.congr rfl rfl

/-- Applying the next transaction of the stream. -/
theorem StartInv.apply (hi : StartInv selected s) {position : ℕ} {cp : Checkpoint} {saved : Bool}
    (hphase : s.phase = .streaming position) (hsink : s.sink = some cp)
    (hnext : Next s.server.history position tx) :
    StartInv selected { s with
      sink := some { cp with file := formatLsn tx.endLsn, position := tx.endLsn }
      mirror := if saved then some { cp with file := formatLsn tx.endLsn, position := tx.endLsn }
        else s.mirror
      applied := s.applied ++ [tx]
      phase := .streaming tx.endLsn } := by
  rcases hi.progress with hfresh | ⟨c, hcreated⟩
  · have := hfresh.phase
    simp [hphase] at this
  · have hknows := hcreated.phase
    rw [hphase] at hknows
    obtain ⟨q, hat, -⟩ := hcreated.sink cp hsink
    have hstands : PointsAt s.server.sourceId
        { cp with file := formatLsn tx.endLsn, position := tx.endLsn } tx.endLsn :=
      ⟨hat.source, hat.mode, rfl, rfl⟩
    have hsettled : ∀ s' : StartSystem, s'.server = s.server →
        s'.applied = s.applied ++ [tx] → Settled selected s' c tx.endLsn :=
      fun s' hserver happlied => hknows.1.next hi hnext (by simp [happlied]) hserver
        (by rw [happlied]; exact fun tx htx => List.mem_append_left _ htx)
    have hend := hsettled { s with applied := s.applied ++ [tx] } rfl rfl
    refine hi.of_created (c := c) rfl
      ⟨hcreated.slot, hcreated.positive, hcreated.in_wal, ?_, nofun, ?_, ?_⟩
    · intro cp' hcp
      cases hcp
      exact ⟨tx.endLsn, hstands, hsettled _ rfl rfl⟩
    · intro m hm
      refine ⟨rfl, ?_⟩
      dsimp only at hm
      split at hm
      · cases hm
        exact ⟨tx.endLsn, hstands, hend.from_slot, hend.in_wal⟩
      · exact (hcreated.mirror m hm).2
    · exact ⟨hsettled _ rfl rfl, rfl⟩

/-- Observing a transaction without selected rows. -/
theorem StartInv.filter (hi : StartInv selected s) {position : ℕ}
    (hphase : s.phase = .streaming position) (hnext : Next s.server.history position tx)
    (hselected : selected tx = false) :
    StartInv selected { s with phase := .streaming tx.endLsn } := by
  rcases hi.progress with hfresh | ⟨c, hcreated⟩
  · have := hfresh.phase
    simp [hphase] at this
  · have hknows := hcreated.phase
    rw [hphase] at hknows
    refine hi.of_created rfl (hcreated.setPhase ?_)
    exact ⟨hknows.1.next hi hnext (by simp [hselected]) rfl fun _ h => h, hknows.2⟩

/-- The invariant survives every step that does not end an attempt too early. -/
theorem StartStep.preserves (h : StartStep selected s a s') (hmirror : MirrorFollows s a s')
    (hi : StartInv selected s) : StartInv selected s' := by
  cases h with
  | commitWal htx hend => exact hi.commitWal htx hend
  | load hphase =>
    rcases hi.progress with hfresh | ⟨c, hcreated⟩
    · exact ⟨hi.ordered, hi.bounded, hi.insert_pos, hi.insert_lt, .inl
        ⟨hfresh.slot, hfresh.sink, hfresh.mirror, hfresh.applied, .inr (by simp [hfresh.mirror])⟩⟩
    · have hknows := hcreated.phase
      rw [hphase] at hknows
      refine hi.of_created rfl (hcreated.setPhase ?_)
      exact ⟨rfl, hknows⟩
  | openSource hphase hpoint hlt hopen => exact hi.openSource hphase hpoint hlt hopen
  | attach hphase _ _ hattach => exact hi.attach hphase hattach
  | initializeSink hphase => exact hi.initializeSink hphase
  | saveMirror hphase => exact hi.saveMirror hphase
  | apply hphase hsink hnext _ => exact hi.apply hphase hsink hnext
  | filter hphase hnext hselected => exact hi.filter hphase hnext hselected
  | stop =>
    rcases hi.progress with hfresh | ⟨c, hcreated⟩
    · exact ⟨hi.ordered, hi.bounded, hi.insert_pos, hi.insert_lt, .inl
        ⟨hfresh.slot, hfresh.sink, hfresh.mirror, hfresh.applied, .inl rfl⟩⟩
    · refine hi.of_created rfl (hcreated.setPhase ?_)
      exact hmirror rfl (by simp [hcreated.slot])

/-- After an attempt has ended, the next start of healthy databases goes through. -/
theorem StartInv.restartable (hi : StartInv selected s) (hdown : s.phase = .down) :
    Restartable selected s := by
  rcases hi.progress with hfresh | ⟨c, hcreated⟩
  · refine ⟨s.server.insertLsn, ?_, ?_⟩
    · simp [healthyStart, hfresh.mirror, hfresh.sink, open_new hfresh.slot hi.insert_pos,
        attachSink, boundary]
    · intro tx _ slot confirmed hslot
      simp [hfresh.slot] at hslot
  · have hknows := hcreated.phase
    rw [hdown] at hknows
    obtain ⟨m, hm⟩ := Option.isSome_iff_exists.mp hknows
    obtain ⟨hsome, p, hat, hcp, hp⟩ := hcreated.mirror m hm
    obtain ⟨saved, hsink⟩ := Option.isSome_iff_exists.mp hsome
    obtain ⟨q, hsaved, hq⟩ := hcreated.sink saved hsink
    have hopen : openPostgresqlSource s.server (some m) s.server.insertLsn =
        .ok (boundary s.server.sourceId p, s.server) :=
      open_saved hcreated.slot hat hcreated.positive hcp (hp.trans_lt hi.insert_lt)
    obtain ⟨opened, hattach, hopened⟩ : ∃ opened, attachSink s.server (some m) (some saved)
        (boundary s.server.sourceId p) s.server.insertLsn = .ok (opened, s.server) ∧
          PointsAt s.server.sourceId opened q :=
      attachSink_saved hcreated.slot hsaved hcreated.positive hq.from_slot
        (hq.in_wal.trans_lt hi.insert_lt)
    refine ⟨q, ?_, ?_⟩
    · simp only [healthyStart, hm, hsink, hopen, hattach, ok_bind, pure_eq, hopened.position]
    · intro tx htx slot confirmed hslot hconfirmed hlsn hselected hunapplied
      rw [hcreated.slot, Option.some.injEq] at hslot
      subst hslot
      cases hconfirmed
      exact hq.none_skipped tx htx hlsn hselected hunapplied

/-- Ending an attempt after the slot was created and before the mirror was saved leaves a task
that cannot start again. -/
theorem StartStep.strands (h : StartStep selected s a s') (hmirror : ¬ MirrorFollows s a s') :
    ¬ Restartable selected s' := by
  simp only [MirrorFollows, Classical.not_imp] at hmirror
  obtain ⟨rfl, hslot, hnone⟩ := hmirror
  cases h with
  | stop =>
    obtain ⟨slot, hslot⟩ := Option.isSome_iff_exists.mp hslot
    have hnone : s.mirror = none := by simpa using hnone
    rintro ⟨position, hstart, -⟩
    simp [healthyStart, hnone, open_refused hslot] at hstart

end Progress

/-- A task that has never been started: no slot, no checkpoint. -/
structure NeverStarted (s : StartSystem) : Prop where
  ordered : WalHistory s.server.history
  bounded : ∀ tx ∈ s.server.history, tx.endLsn ≤ s.server.insertLsn
  insert_pos : 0 < s.server.insertLsn
  insert_lt : s.server.insertLsn < 2 ^ 64
  slot : s.server.slot = none
  sink : s.sink = none
  mirror : s.mirror = none
  applied : s.applied = []
  phase : s.phase = .down

/-- Starts can be repeated exactly as long as no attempt ends between the creation of the slot
and the first saved mirror. -/
theorem restartable_iff_mirrorFollows (init : StartSystem) (hinit : NeverStarted init) :
    (∀ s, RunWith (StartStep selected) MirrorFollows init s → s.phase = .down →
        Restartable selected s) ∧
      ∀ s a s', RunWith (StartStep selected) MirrorFollows init s → StartStep selected s a s' →
        ¬ MirrorFollows s a s' → s'.phase = .down ∧ ¬ Restartable selected s' := by
  have hinv : ∀ s, RunWith (StartStep selected) MirrorFollows init s → StartInv selected s := by
    intro s hrun
    refine hrun.invariant (fun t a u hi hstep hok => hstep.preserves hok hi) ?_
    exact ⟨hinit.ordered, hinit.bounded, hinit.insert_pos, hinit.insert_lt,
      .inl ⟨hinit.slot, hinit.sink, hinit.mirror, hinit.applied, .inl hinit.phase⟩⟩
  constructor
  · intro s hrun hdown
    exact (hinv s hrun).restartable hdown
  · intro s a s' hrun hstep hmirror
    refine ⟨?_, hstep.strands hmirror⟩
    have ha : a = .stop := by
      by_contra ha
      exact hmirror fun h => absurd h ha
    subst ha
    cases hstep
    rfl

section Sample

/-- A source whose WAL ends at `0/1000`, and a task that has never been started. -/
def sampleStart : StartSystem :=
  ⟨⟨"postgresql:7301:1:16384:c2hvcA", "shop", [], 4096, none⟩, none, none, [], .down⟩

theorem sample_neverStarted : NeverStarted sampleStart :=
  ⟨.nil, nofun, by decide, by decide, rfl, rfl, rfl, rfl, rfl⟩

theorem restartable_iff_mirrorFollows_sample :
    (∀ s, RunWith (StartStep fun _ => true) MirrorFollows sampleStart s → s.phase = .down →
        Restartable (fun _ => true) s) ∧
      ∀ s a s', RunWith (StartStep fun _ => true) MirrorFollows sampleStart s →
        StartStep (fun _ => true) s a s' → ¬ MirrorFollows s a s' →
          s'.phase = .down ∧ ¬ Restartable (fun _ => true) s' :=
  restartable_iff_mirrorFollows (fun _ => true) sampleStart sample_neverStarted

/-- The first attempt creates the slot and fails to open the sink: every later start is
refused, although all databases are healthy. -/
theorem slot_left_behind :
    ∃ s, Run (StartStep fun _ => true) sampleStart s ∧ s.phase = .down ∧
      healthyStart s = .error "slot already exists; omit --create-slot to resume" ∧
      ¬ Restartable (fun _ => true) s := by
  have hload := Run.refl.tail (@StartStep.load (fun _ => true) sampleStart rfl)
  have hopen := hload.tail (@StartStep.openSource _ _ none _ _ 4096 rfl (by decide) (by decide)
    (open_new rfl (by decide)))
  have hstop := hopen.tail .stop
  refine ⟨_, hstop, rfl, ?_, ?_⟩
  · simp [healthyStart, sampleStart, open_refused]
  · rintro ⟨position, hstart, -⟩
    simp [healthyStart, sampleStart, open_refused] at hstart

end Sample

end DatabaseSync.Worker
