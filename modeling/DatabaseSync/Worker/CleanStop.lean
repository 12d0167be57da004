import DatabaseSync.Worker.GtidCompleteness

/-! # Stopping a task

One run of a task with its stop flag. The run loop looks at the flag before it takes a
transaction, `apply_with_recovery_using` before every attempt on one and before it reopens the
sink. When the loop is left, the last filtered transaction goes through the same function.
-/

namespace DatabaseSync.Worker

open ChangeEvent Checked MysqlSink

variable {β σ γ : Type}

inductive RunEnd
  | stopped
  | failed
deriving DecidableEq

/-- A run: the worker and its databases, the stop flag, whether the flag has been looked at for
the attempt that is under way, and the transactions taken from the stream. -/
structure TaskRun (β : Type) where
  system : System β
  stop : Bool
  admitted : Bool
  delivered : List ChangeTransaction
  outcome : Option RunEnd

def TaskRun.init (db : SinkDb β) : TaskRun β := ⟨⟨db, .down⟩, false, false, [], none⟩

inductive RunAction
  | requestStop
  | base (a : Action)
  | pass
  | leave
  | interrupt
  | fail
deriving DecidableEq

namespace TaskRun

variable (s : TaskRun β)

/-- What the worker does while the flag is as it is. -/
def allows : Action → Prop
  | .observe | .deliver | .reopen => s.stop = false
  | .flush => s.stop = true
  | .covered | .commit | .failRetry | .loseCommit _ =>
    match s.system.phase with
    | .applying _ _ _ .replay => True
    | _ => s.admitted = true
  | .start => s.delivered = []
  | .resolveOpen | .resolveApplied | .resolveNotApplied => True
  | .stop => False

/-- The transaction a step takes from the stream. -/
def taken : Action → List ChangeTransaction
  | .observe | .deliver =>
    match s.system.phase with
    | .streaming _ (t :: _) _ => [t]
    | _ => []
  | _ => []

/-- The transaction that waits for an attempt, or for the sink to be reopened. -/
def waiting : Option ChangeTransaction :=
  match s.system.phase with
  | .applying _ t _ (.first _) => if s.admitted then none else some t
  | .reopening t _ _ => some t
  | _ => none

end TaskRun

variable (r : Route β σ) (history : List ChangeTransaction)

inductive RunStep : TaskRun β → RunAction → TaskRun β → Prop
  | requestStop {s : TaskRun β} : RunStep s .requestStop { s with stop := true }
  /-- A second lost acknowledgement ends the run with its error. -/
  | base {s : TaskRun β} {a : Action} {system : System β} :
      s.outcome = none → s.allows a → Step r history s.system a system →
      RunStep s (.base a) ⟨system, s.stop, false, s.delivered ++ s.taken a,
        match system.phase with
        | .down => some .failed
        | _ => none⟩
  /-- The flag is not set before an attempt. -/
  | pass {s : TaskRun β} {t : ChangeTransaction} :
      s.outcome = none → s.stop = false → s.waiting = some t →
      RunStep s .pass { s with admitted := true }
  /-- The loop is left, and no filtered transaction is remembered. -/
  | leave {s : TaskRun β} {w : CheckpointWriter} {rest : List ChangeTransaction} :
      s.outcome = none → s.stop = true → s.system.phase = .streaming w rest none →
      RunStep s .leave { s with system := ⟨s.system.db, .down⟩, outcome := some .stopped }
  /-- The flag is set before an attempt or before the sink is reopened. -/
  | interrupt {s : TaskRun β} {t : ChangeTransaction} :
      s.outcome = none → s.stop = true → s.waiting = some t →
      RunStep s .interrupt { s with system := ⟨s.system.db, .down⟩, outcome := some .stopped }
  | fail {s : TaskRun β} : s.outcome = none →
      RunStep s .fail { s with system := ⟨s.system.db, .down⟩, outcome := some .failed }

/-- The stored row covers the transaction. -/
def StoredCovers (db : SinkDb β) (t : ChangeTransaction) : Prop :=
  ∃ cp, db.Holds r.taskId cp ∧ Delivered r cp t

/-- Recovery closes no writer with unsaved observations, and no transaction that is covered
already is met while there are any. -/
def LosesNothing (gtids : GtidServer) (s : TaskRun β) (a : RunAction) (s' : TaskRun β) : Prop :=
  match s.system.phase, a with
  | .applying w _ _ _, .interrupt | .applying w _ _ _, .base .covered => NothingUnsaved gtids w
  | _, .base a => KeepsObservations gtids s.system a s'.system
  | _, _ => True

/-- A transaction that is interrupted is covered already, and in GTID mode no observation is
lost. -/
def Settles (mode : String) (s : TaskRun β) (a : RunAction) (s' : TaskRun β) : Prop :=
  (a = .interrupt → ∀ t ∈ s.waiting, StoredCovers r s.system.db t) ∧
    (mode = "gtid" → LosesNothing r.gtids s a s')

section Placed

variable (cp : ReplicationCheckpoint)

/-- Where the taken transactions are: they come before what is still in the stream, the last one
is remembered or under way, and otherwise the stored row is past all of them. -/
def Placed (s : TaskRun β) : Prop :=
  match s.system.phase with
  | .down => s.outcome = some .failed ∨ ∀ u ∈ s.delivered, upTo cp u = true
  | .streaming _ rest none =>
    (s.delivered ++ rest).Sublist history ∧ ∀ u ∈ s.delivered, upTo cp u = true
  | .streaming _ rest (some t) | .applying _ t rest _ | .reopening t rest _ | .unknown t rest
  | .resolving _ t rest =>
    (s.delivered ++ rest).Sublist history ∧ s.delivered.getLast? = some t

end Placed

/-- Where the GTIDs of the taken transactions are: in the stored set `A` or observed, apart from
the one under way. -/
def Retained (denote : String → Option (Set γ)) (g : ChangeTransaction → γ) (mode : String)
    (A : Set γ) (k : Option ChangeTransaction) (s : TaskRun β) : Prop :=
  match s.system.phase with
  | .down => s.outcome = some .failed ∨ ∀ u ∈ s.delivered, g u ∈ A
  | .streaming w _ none => ∃ O, denote (w.observedGtids.getD "") = some O ∧
      ∀ u ∈ s.delivered, g u ∈ A
  | .streaming w _ (some _) => ∃ O, denote (w.observedGtids.getD "") = some O ∧
      ∀ u ∈ s.delivered, g u ∈ A ∨ g u ∈ O
  | .applying w t _ _ => ∃ O, denote (w.observedGtids.getD "") = some O ∧
      ∀ u ∈ s.delivered, u = t ∨ g u ∈ A ∨ g u ∈ O
  | .reopening t _ _ => ∀ u ∈ s.delivered, u = t ∨ g u ∈ A
  | .unknown t _ | .resolving _ t _ =>
      (∀ u ∈ s.delivered, u = t ∨ g u ∈ A) ∧ (Passed mode k t → g t ∈ A)

variable {r history} {denote : String → Option (Set γ)} {g : ChangeTransaction → γ}
  {cp₀ cp cp' : ReplicationCheckpoint} {business₀ : β} {k k' : Option ChangeTransaction}
  {s s' : TaskRun β} {t : ChangeTransaction} {rest : List ChangeTransaction} {A₀ : Set γ}

section Streaming

variable {db : SinkDb β} {w : CheckpointWriter} {last : Option ChangeTransaction}
  {stop admitted : Bool} {delivered : List ChangeTransaction} {outcome : Option RunEnd} {A : Set γ}
  {mode : String}

theorem Placed.streaming
    (hp : Placed history cp ⟨⟨db, .streaming w rest last⟩, stop, admitted, delivered, outcome⟩) :
    (delivered ++ rest).Sublist history := by
  cases last with
  | none => exact hp.1
  | some _ => exact hp.1

theorem Retained.streaming
    (hr : Retained denote g mode A k
      ⟨⟨db, .streaming w rest last⟩, stop, admitted, delivered, outcome⟩) :
    ∃ O, denote (w.observedGtids.getD "") = some O ∧ ∀ u ∈ delivered, g u ∈ A ∨ g u ∈ O := by
  cases last with
  | none =>
    obtain ⟨O, hO, hall⟩ := hr
    exact ⟨O, hO, fun u hu => .inl (hall u hu)⟩
  | some _ => exact hr

end Streaming

section Steps

variable (hist : SourceHistory denote g r.gtids cp₀ history)
include hist

/-- A row that is past the last transaction is past all of them. -/
theorem Stored.upTo_of_getLast {db : SinkDb β}
    (hs : Stored r denote g cp₀ history business₀ db cp k)
    {delivered : List ChangeTransaction} (hsub : (delivered ++ rest).Sublist history)
    (hlast : delivered.getLast? = some t) (hpassed : Passed cp₀.mode k t) :
    ∀ u ∈ delivered, upTo cp u = true := by
  intro u hu
  have hdelivered : delivered.Sublist history := (List.sublist_append_left _ _).trans hsub
  have huh : u ∈ history := hdelivered.subset hu
  rw [hist.upTo_iff hs.mode hs.mem hs.stands huh]
  obtain ⟨earlier, rfl⟩ := List.getLast?_eq_some_iff.mp hlast
  have hsorted := hist.increasing.sublist hdelivered
  obtain ⟨m, hm, htm⟩ := hpassed
  rcases List.mem_append.mp hu with hearlier | heq
  · have hut : Before cp₀.mode u t :=
      (List.pairwise_append.mp hsorted).2.2 u hearlier t (List.mem_singleton.mpr rfl)
    refine ⟨m, hm, .inr ?_⟩
    rcases htm with rfl | htm
    · exact hut
    · have ht : t ∈ history := hdelivered.subset (by simp)
      exact hist.trans huh ht (hs.mem m hm) hut htm
  · rw [List.mem_singleton.mp heq]
    exact ⟨m, hm, htm⟩

/-- A committed transaction has been passed. -/
theorem Inv.passed_of_ready {db : SinkDb β} {w : CheckpointWriter} {attempt : Attempt}
    {result : CheckpointApplyResult} {business : β} {phase : Phase}
    (h : Inv r denote g cp₀ history business₀ ⟨db, .applying w t rest attempt⟩ cp k)
    (hready : r.apply db w t = .ok (.ready result business))
    (h' : Inv r denote g cp₀ history business₀
      ⟨db.store w.taskId result.checkpoint business, phase⟩ cp' k') : Passed cp₀.mode k' t := by
  obtain ⟨hcommitted, -⟩ := h.commit hist hready
  obtain rfl : cp' = result.checkpoint := hcommitted.stored.holds.unique h'.stored.holds
  rw [← hist.upTo_iff h'.stored.mode h'.stored.mem h'.stored.stands h.phase.2.1.mem,
    hist.upTo_iff hcommitted.stored.mode hcommitted.stored.mem hcommitted.stored.stands
      h.phase.2.1.mem]
  exact passed_some_iff.mpr (.inl rfl)

/-- A step of the worker keeps the places. -/
theorem Placed.base (hp : Placed history cp s)
    (h : Inv r denote g cp₀ history business₀ s.system cp k) {a : Action} {system : System β}
    (hallows : s.allows a) (hstep : Step r history s.system a system)
    (h' : Inv r denote g cp₀ history business₀ system cp' k') :
    Placed history cp' ⟨system, s.stop, false, s.delivered ++ s.taken a,
      match system.phase with
      | .down => some .failed
      | _ => none⟩ := by
  obtain ⟨⟨db, phase⟩, stop, admitted, delivered, outcome⟩ := s
  cases hstep with
  | start _ _ hres =>
    obtain rfl : delivered = [] := hallows
    exact ⟨hres.in_order, by simp [TaskRun.taken]⟩
  | @observe _ _ _ t rest last _ _ =>
    have hsub := hp.streaming
    refine ⟨?_, ?_⟩
    · simpa [TaskRun.taken] using hsub
    · simp [TaskRun.taken]
  | @deliver _ _ t rest last _ =>
    have hsub := hp.streaming
    refine ⟨?_, ?_⟩
    · simpa [TaskRun.taken] using hsub
    · simp [TaskRun.taken]
  | flush =>
    simp only [TaskRun.taken, List.append_nil]
    exact hp
  | covered hcovered =>
    obtain ⟨hsub, hlast⟩ := hp
    obtain rfl : cp' = cp := h.stored.holds.unique h'.stored.holds
    have hpassed := h.stored.passed_of_covered hist h.phase.1 h.phase.2.1.mem hcovered
    simp only [TaskRun.taken, List.append_nil]
    exact ⟨hsub, h.stored.upTo_of_getLast hist hsub hlast hpassed⟩
  | commit hready =>
    obtain ⟨hsub, hlast⟩ := hp
    have hpassed := h.passed_of_ready hist hready h'
    simp only [TaskRun.taken, List.append_nil]
    exact ⟨hsub, h'.stored.upTo_of_getLast hist hsub hlast hpassed⟩
  | failRetry _ _ =>
    simp only [TaskRun.taken, List.append_nil]
    exact hp
  | @loseCommit _ _ _ _ attempt _ _ _ _ =>
    simp only [TaskRun.taken, List.append_nil]
    cases attempt with
    | first _ => exact hp
    | replay => exact .inl rfl
  | reopen _ =>
    simp only [TaskRun.taken, List.append_nil]
    exact hp
  | resolveOpen _ =>
    simp only [TaskRun.taken, List.append_nil]
    exact hp
  | resolveApplied hresolved =>
    obtain ⟨hsub, hlast⟩ := hp
    obtain rfl : cp' = cp := h.stored.holds.unique h'.stored.holds
    have hpassed := h.stored.passed_of_resolved hist h.phase.1 h.phase.2.1.mem hresolved
    simp only [TaskRun.taken, List.append_nil]
    exact ⟨hsub, h.stored.upTo_of_getLast hist hsub hlast hpassed⟩
  | resolveNotApplied _ =>
    simp only [TaskRun.taken, List.append_nil]
    exact hp
  | stop => exact hallows.elim

/-- A run is interrupted at its last transaction. -/
theorem Placed.waiting (hp : Placed history cp s)
    (h : Inv r denote g cp₀ history business₀ s.system cp k) (ht : s.waiting = some t)
    (hcovers : StoredCovers r s.system.db t) : ∀ u ∈ s.delivered, upTo cp u = true := by
  obtain ⟨⟨db, phase⟩, stop, admitted, delivered, outcome⟩ := s
  obtain ⟨row, hrow, hdelivered⟩ := hcovers
  obtain rfl : row = cp := h.stored.holds.unique hrow
  obtain ⟨rest, hsub, hlast⟩ : ∃ rest, (delivered ++ rest).Sublist history ∧
      delivered.getLast? = some t := by
    cases phase with
    | applying w u rest attempt =>
      cases attempt with
      | first n =>
        cases admitted with
        | true => cases ht
        | false =>
          cases ht
          exact ⟨rest, hp⟩
      | replay => cases ht
    | reopening u rest n =>
      cases ht
      exact ⟨rest, hp⟩
    | down => cases ht
    | streaming w rest last => cases ht
    | unknown u rest => cases ht
    | resolving w u rest => cases ht
  have hmem : t ∈ history := by
    have hin : t ∈ delivered := List.mem_of_getLast? hlast
    exact hsub.subset (List.mem_append_left rest hin)
  exact h.stored.upTo_of_getLast hist hsub hlast
    (h.stored.passed_of_delivered hist hmem hdelivered)

end Steps

section Retained

variable {A : Set γ} (hist : SourceHistory denote g r.gtids cp₀ history) (hm : cp₀.mode = "gtid")
include hist hm

/-- A transaction that the row covers is in the stored set. -/
theorem mem_of_covers {db : SinkDb β}
    (hs : Stored r denote g cp₀ history business₀ db cp k)
    (hA : denote (cp.gtidSet.getD "") = some A) (ht : t ∈ history)
    (hcovers : StoredCovers r db t) : g t ∈ A := by
  obtain ⟨row, hrow, hdelivered⟩ := hcovers
  obtain rfl : row = cp := hs.holds.unique hrow
  rw [Delivered, if_pos (hs.mode.trans hm)] at hdelivered
  exact (gtidIncluded_iff hist hm hA ht hdelivered).mp rfl

omit hist in
theorem storedCovers_of_covered {db : SinkDb β} {w : CheckpointWriter}
    {result : CheckpointApplyResult} (hs : Stored r denote g cp₀ history business₀ db cp k)
    (hw : Connected r w cp) (h : r.apply db w t = .ok (.covered result)) :
    StoredCovers r db t := by
  obtain ⟨row, file, position, hc⟩ := Route.apply_covered h
  obtain rfl : row = cp := hs.holds.unique (hw.task ▸ hc.loaded)
  have hcovered := hc.covered
  rw [if_pos (hs.mode.trans hm)] at hcovered
  refine ⟨row, hs.holds, ?_⟩
  rwa [Delivered, if_pos (hs.mode.trans hm)]

/-- A step of the worker that loses nothing keeps the GTIDs. -/
theorem Retained.base (hr : Retained denote g cp₀.mode A k s)
    (hA : denote (cp.gtidSet.getD "") = some A)
    (h : Inv r denote g cp₀ history business₀ s.system cp k) {a : Action} {system : System β}
    (hallows : s.allows a) (hstep : Step r history s.system a system)
    (hkeep : LosesNothing r.gtids s (.base a) s') :
    ∃ cp' k' A', Inv r denote g cp₀ history business₀ system cp' k' ∧
      denote (cp'.gtidSet.getD "") = some A' ∧
      Retained denote g cp₀.mode A' k' ⟨system, s.stop, false, s.delivered ++ s.taken a,
        match system.phase with
        | .down => some .failed
        | _ => none⟩ := by
  have hl := hist.lawful hm
  have hempty {v : CheckpointWriter} (hv : v.observedGtids = none) :
      denote (v.observedGtids.getD "") = some ∅ := by
    rw [hv]
    exact hl.empty
  obtain ⟨⟨db, phase⟩, stop, admitted, delivered, outcome⟩ := s
  cases hstep with
  | start hopen hcp hres =>
    obtain rfl : delivered = [] := hallows
    obtain ⟨rfl, hw⟩ := openWriter_holds h.stored.holds hopen
    obtain rfl := Option.some.inj (hw.checkpoint.symm.trans hcp)
    have hinv := h.start hist hopen fun row hrow => by
      rwa [Option.some.inj (hrow.symm.trans hcp)]
    exact ⟨_, _, A, hinv, hA, ∅, hempty hw.gtids, by simp [TaskRun.taken]⟩
  | @observe _ w w' t rest last hb hobs =>
    have hinv := h.observe hist hb hobs
    obtain ⟨O, hO, hall⟩ := hr.streaming
    refine ⟨_, _, A, hinv, hA, O ∪ {g t}, ?_, ?_⟩
    · exact observe_denote hist hm h.phase.connected h.stored.mode
        (h.phase.sub.subset (List.mem_cons_self ..)) hO hobs
    · intro u hu
      rcases List.mem_append.mp hu with hu | hu
      · exact (hall u hu).imp_right .inl
      · rw [List.mem_singleton.mp hu]
        exact .inr (.inr rfl)
  | @deliver _ w t rest last hb =>
    obtain ⟨O, hO, hall⟩ := hr.streaming
    refine ⟨_, _, A, h.deliver hist, hA, O, hO, ?_⟩
    intro u hu
    rcases List.mem_append.mp hu with hu | hu
    · exact .inr (hall u hu)
    · exact .inl (List.mem_singleton.mp hu)
  | flush =>
    obtain ⟨O, hO, hall⟩ := hr
    simp only [TaskRun.taken, List.append_nil]
    exact ⟨_, _, A, h.flush, hA, O, hO, fun u hu => .inr (hall u hu)⟩
  | @covered _ w t _ _ _ hcov =>
    obtain ⟨O, hO, hall⟩ := hr
    have hsub := observed_subset hist hm h.phase.1 hkeep hA hO
    have ht := mem_of_covers hist hm h.stored hA h.phase.2.1.mem
      (storedCovers_of_covered hm h.stored h.phase.1 hcov)
    simp only [TaskRun.taken, List.append_nil]
    refine ⟨_, _, A, h.covered hist hcov, hA, O, hO, ?_⟩
    intro u hu
    rcases hall u hu with rfl | hin | hin
    · exact ht
    · exact hin
    · exact hsub hin
  | @commit _ w t _ _ result _ hready =>
    obtain ⟨O, hO, hall⟩ := hr
    have hset := commit_set hist hm h.phase.1 h.stored.mode h.stored.holds h.phase.2.1.mem hA hO
      hready
    simp only [TaskRun.taken, List.append_nil]
    refine ⟨_, _, _, (h.commit hist hready).1, hset, ∅, hempty rfl, ?_⟩
    intro u hu
    rcases hall u hu with rfl | hin | hin
    · exact .inr (.inr rfl)
    · exact .inl hin
    · exact .inr (.inl hin)
  | @failRetry _ w t _ _ _ _ _ =>
    obtain ⟨O, hO, hall⟩ := hr
    have hsub := observed_subset hist hm h.phase.1 hkeep hA hO
    simp only [TaskRun.taken, List.append_nil]
    refine ⟨_, _, A, ⟨h.stored, h.phase.2.1⟩, hA, ?_⟩
    intro u hu
    exact (hall u hu).imp_right fun hin => hin.elim id fun hin => hsub hin
  | @loseCommit _ w t _ attempt _ _ committed hready =>
    obtain ⟨O, hO, hall⟩ := hr
    simp only [TaskRun.taken, List.append_nil]
    cases attempt with
    | replay =>
      obtain ⟨cp', k', hinv, -⟩ := h.step hist (.loseCommit committed hready)
      obtain ⟨A', hA', -⟩ := hinv.stored.gtids hm
      exact ⟨cp', k', A', hinv, hA', .inl rfl⟩
    | first _ =>
      cases committed with
      | false =>
        have hsub := observed_subset hist hm h.phase.1 hkeep hA hO
        have hnot := (h.stored.commit hist h.phase.1 h.phase.2.1 h.phase.2.2 hready).2
        refine ⟨_, _, A, h.rolledBack, hA, ?_, fun hpassed => absurd hpassed hnot⟩
        intro u hu
        exact (hall u hu).imp_right fun hin => hin.elim id fun hin => hsub hin
      | true =>
        have hset := commit_set hist hm h.phase.1 h.stored.mode h.stored.holds h.phase.2.1.mem hA
          hO hready
        refine ⟨_, _, _, (h.unacknowledged hist hready).1, hset, ?_, fun _ => .inr (.inr rfl)⟩
        intro u hu
        exact (hall u hu).imp_right fun hin => hin.imp_right .inl
  | @reopen _ _ _ w t _ _ hopen =>
    obtain ⟨rfl, hw⟩ := openWriter_holds h.stored.holds hopen
    simp only [TaskRun.taken, List.append_nil]
    exact ⟨_, _, A, h.reopen hist hopen, hA, ∅, hempty hw.gtids, fun u hu =>
      (hr u hu).imp_right .inl⟩
  | resolveOpen hopen =>
    obtain ⟨rfl, -⟩ := openWriter_holds h.stored.holds hopen
    simp only [TaskRun.taken, List.append_nil]
    exact ⟨_, _, A, h.resolveOpen hopen, hA, hr⟩
  | @resolveApplied _ w t _ hresolved =>
    obtain ⟨hall, hpassed⟩ := hr
    have ht := hpassed (h.stored.passed_of_resolved hist h.phase.1 h.phase.2.1.mem hresolved)
    simp only [TaskRun.taken, List.append_nil]
    refine ⟨_, _, A, h.resolveApplied hist hresolved, hA, ∅, hempty h.phase.2.2, ?_⟩
    intro u hu
    rcases hall u hu with rfl | hin
    · exact ht
    · exact hin
  | resolveNotApplied _ =>
    simp only [TaskRun.taken, List.append_nil]
    exact ⟨_, _, A, h.resolveNotApplied hist, hA, ∅, hempty h.phase.2.2, fun u hu =>
      (hr.1 u hu).imp_right .inl⟩
  | stop => exact hallows.elim

/-- A run is interrupted without losing a GTID. -/
theorem Retained.waiting (hr : Retained denote g cp₀.mode A k s)
    (hA : denote (cp.gtidSet.getD "") = some A)
    (h : Inv r denote g cp₀ history business₀ s.system cp k) (ht : s.waiting = some t)
    (hcovers : StoredCovers r s.system.db t)
    (hkeep : LosesNothing r.gtids s .interrupt s') : ∀ u ∈ s.delivered, g u ∈ A := by
  obtain ⟨⟨db, phase⟩, stop, admitted, delivered, outcome⟩ := s
  intro u hu
  cases phase with
  | applying w v rest attempt =>
    obtain ⟨O, hO, hall⟩ := hr
    have hsub := observed_subset hist hm h.phase.1 hkeep hA hO
    obtain rfl : v = t := by
      cases attempt with
      | first _ =>
        cases admitted with
        | true => cases ht
        | false => exact Option.some.inj ht
      | replay => cases ht
    rcases hall u hu with rfl | hin | hin
    · exact mem_of_covers hist hm h.stored hA h.phase.2.1.mem hcovers
    · exact hin
    · exact hsub hin
  | reopening v rest n =>
    obtain rfl : v = t := Option.some.inj ht
    rcases hr u hu with rfl | hin
    · exact mem_of_covers hist hm h.stored hA h.phase.mem hcovers
    · exact hin
  | down => cases ht
  | streaming w rest last => cases ht
  | unknown v rest => cases ht
  | resolving w v rest => cases ht

end Retained

section Run

/-- The invariant of a run whose steps settle. -/
structure RunInv (r : Route β σ) (denote : String → Option (Set γ)) (g : ChangeTransaction → γ)
    (cp₀ : ReplicationCheckpoint) (history : List ChangeTransaction) (business₀ : β)
    (s : TaskRun β) (cp : ReplicationCheckpoint) (k : Option ChangeTransaction) : Prop where
  inv : Inv r denote g cp₀ history business₀ s.system cp k
  placed : Placed history cp s
  set : cp₀.mode = "gtid" → ∃ row m A, Inv r denote g cp₀ history business₀ s.system row m ∧
    denote (row.gtidSet.getD "") = some A ∧ Retained denote g cp₀.mode A m s
  ended : s.outcome = none ∨ s.system.phase = .down

/-- Leaving the run keeps the row. -/
theorem RunInv.down (h : RunInv r denote g cp₀ history business₀ s cp k) {outcome : RunEnd}
    (hcovered : outcome = .failed ∨ ∀ u ∈ s.delivered, upTo cp u = true)
    (hretained : outcome = .failed ∨ ∀ row m A, cp₀.mode = "gtid" →
      Inv r denote g cp₀ history business₀ s.system row m →
      denote (row.gtidSet.getD "") = some A → Retained denote g cp₀.mode A m s →
      ∀ u ∈ s.delivered, g u ∈ A) :
    RunInv r denote g cp₀ history business₀
      { s with system := ⟨s.system.db, .down⟩, outcome := some outcome } cp k := by
  refine ⟨h.inv.stop, ?_, ?_, .inr rfl⟩
  · rcases hcovered with rfl | hcovered
    · exact .inl rfl
    · exact .inr hcovered
  · intro hm
    obtain ⟨row, m, A, hrow, hA, hr⟩ := h.set hm
    refine ⟨row, m, A, hrow.stop, hA, ?_⟩
    rcases hretained with rfl | hretained
    · exact .inl rfl
    · exact .inr (hretained row m A hm hrow hA hr)

variable (hist : SourceHistory denote g r.gtids cp₀ history)
include hist

theorem RunInv.step (h : RunInv r denote g cp₀ history business₀ s cp k) {a : RunAction}
    (hstep : RunStep r history s a s') (hsettles : Settles r cp₀.mode s a s') :
    ∃ cp' k', RunInv r denote g cp₀ history business₀ s' cp' k' := by
  cases hstep with
  | requestStop => exact ⟨cp, k, h.inv, h.placed, h.set, h.ended⟩
  | @base a system hrunning hallows hbase =>
    obtain ⟨cp', k', hinv', -⟩ := h.inv.step hist hbase
    refine ⟨cp', k', hinv', h.placed.base hist h.inv hallows hbase hinv', ?_, ?_⟩
    · intro hm
      obtain ⟨row, m, A, hrow, hA, hr⟩ := h.set hm
      exact hr.base hist hm hA hrow hallows hbase (hsettles.2 hm)
    · cases hphase : system.phase with
      | down => exact .inr rfl
      | _ => exact .inl rfl
  | pass _ _ _ => exact ⟨cp, k, h.inv, h.placed, h.set, h.ended⟩
  | leave _ _ hphase =>
    have hp := h.placed
    unfold Placed at hp
    rw [hphase] at hp
    refine ⟨cp, k, h.down (.inr hp.2) (.inr ?_)⟩
    intro row m A hm hrow hA hr
    unfold Retained at hr
    rw [hphase] at hr
    obtain ⟨_, -, hall⟩ := hr
    exact hall
  | @interrupt t _ _ ht =>
    have hcovers := hsettles.1 rfl t ht
    refine ⟨cp, k, h.down (.inr (h.placed.waiting hist h.inv ht hcovers)) (.inr ?_)⟩
    intro row m A hm hrow hA hr
    exact hr.waiting hist hm hA hrow ht hcovers (hsettles.2 hm)
  | fail _ => exact ⟨cp, k, h.down (.inl rfl) (.inl rfl)⟩

/-- The invariant holds when a run begins, whatever the runs before it have done. -/
theorem RunInv.init {db db₁ : SinkDb β} (h₀ : db.Holds r.taskId cp₀)
    (hearlier : Transition.Run (Step r history) ⟨db, .down⟩ ⟨db₁, .down⟩) :
    ∃ cp k, RunInv r denote g cp₀ history db.business (TaskRun.init db₁) cp k := by
  obtain ⟨cp, k, hinv, -⟩ := (Inv.init hist h₀).run hist hearlier
  refine ⟨cp, k, hinv, .inr (by rintro u ⟨⟩), ?_, .inl rfl⟩
  intro hm
  obtain ⟨A, hA, -⟩ := hinv.stored.gtids hm
  exact ⟨cp, k, A, hinv, hA, .inr (by rintro u ⟨⟩)⟩

end Run

/-- A run that is stopped, and whose steps settle, leaves a row that covers everything it has
taken from the stream, whatever the runs before it have done. -/
theorem clean_stop_covers {db db₁ : SinkDb β}
    (hist : SourceHistory denote g r.gtids cp₀ history) (h₀ : db.Holds r.taskId cp₀)
    (hearlier : Transition.Run (Step r history) ⟨db, .down⟩ ⟨db₁, .down⟩)
    (hrun : Transition.RunWith (RunStep r history) (Settles r cp₀.mode) (TaskRun.init db₁) s)
    (hstopped : s.outcome = some .stopped) :
    ∃ cp, s.system.db.Holds r.taskId cp ∧ (∀ t ∈ s.delivered, upTo cp t = true) ∧
      (cp₀.mode = "gtid" → ∃ A, denote (cp.gtidSet.getD "") = some A ∧
        ∀ t ∈ s.delivered, g t ∈ A) := by
  obtain ⟨cp, k, h⟩ := hrun.invariant
    (P := fun s => ∃ cp k, RunInv r denote g cp₀ history db.business s cp k)
    (fun _ _ _ ⟨_, _, h⟩ hstep hsettles => h.step hist hstep hsettles)
    (RunInv.init hist h₀ hearlier)
  have hdown : s.system.phase = .down := by
    rcases h.ended with hrunning | hdown
    · rw [hstopped] at hrunning
      cases hrunning
    · exact hdown
  have hnotFailed : s.outcome ≠ some .failed := by
    rw [hstopped]
    decide
  have hcovered : ∀ t ∈ s.delivered, upTo cp t = true := by
    have hp := h.placed
    unfold Placed at hp
    rw [hdown] at hp
    exact hp.resolve_left hnotFailed
  refine ⟨cp, h.inv.stored.holds, hcovered, ?_⟩
  intro hm
  obtain ⟨row, m, A, hrow, hA, hr⟩ := h.set hm
  obtain rfl : cp = row := hrow.stored.holds.unique h.inv.stored.holds
  unfold Retained at hr
  rw [hdown] at hr
  exact ⟨A, hA, hr.resolve_left hnotFailed⟩

section Sample

/-- A filtered transaction is observed and then the stop is requested; the row stays at its
place. -/
theorem filtered_progress_lost :
    SourceHistory listedSet (fun t => t.id.toList) listedGtids sampleRow [filtered, ordered] ∧
      ∃ s, Transition.Run (RunStep sampleRoute [filtered, ordered])
          (TaskRun.init (sampleDb sampleRow)) s ∧
        s.outcome = some .stopped ∧ s.delivered = [filtered] ∧
        s.system.db.Holds "orders" sampleRow ∧ upTo sampleRow filtered = false ∧
        gtidIncluded listedGtids sampleRow filtered.id = .ok false := by
  have hstart : Transition.Run (RunStep sampleRoute [filtered, ordered])
      (TaskRun.init (sampleDb sampleRow)) _ :=
    Transition.Run.refl.tail (.base (a := .start) rfl rfl (.start sample_open rfl sample_resumes))
  have hobserved := hstart.tail (.base (a := .observe) rfl rfl (.observe rfl sample_observe))
  have hflushed := (hobserved.tail .requestStop).tail (.base (a := .flush) rfl rfl .flush)
  exact ⟨sample_history, _, hflushed.tail (.interrupt rfl rfl rfl), rfl, rfl, rfl,
    by decide +kernel, by decide +kernel⟩

/-- A filtered transaction is observed and the next one is committed before the stop is seen. -/
theorem clean_stop_covers_sample : ∃ s : TaskRun (List String),
    s.delivered = [filtered, ordered] ∧
    ∃ cp, s.system.db.Holds sampleRoute.taskId cp ∧ (∀ t ∈ s.delivered, upTo cp t = true) ∧
      (sampleRow.mode = "gtid" → ∃ A, listedSet (cp.gtidSet.getD "") = some A ∧
        ∀ t ∈ s.delivered, t.id.toList ∈ A) := by
  have hquiet {s s' : TaskRun (List String)} {a : RunAction} (hne : a ≠ .interrupt)
      (hkeeps : LosesNothing sampleRoute.gtids s a s') :
      Settles sampleRoute sampleRow.mode s a s' :=
    ⟨fun h => absurd h hne, fun _ => hkeeps⟩
  have hstart : Transition.RunWith (RunStep sampleRoute [filtered, ordered])
      (Settles sampleRoute sampleRow.mode) (TaskRun.init (sampleDb sampleRow)) _ :=
    Transition.RunWith.refl.tail
      (.base (a := .start) rfl rfl (.start sample_open rfl sample_resumes))
      (hquiet (by decide) trivial)
  have hobserved := hstart.tail
    (.base (a := .observe) rfl rfl (.observe rfl sample_observe)) (hquiet (by decide) trivial)
  have hdelivered := hobserved.tail
    (.base (a := .deliver) rfl rfl (.deliver rfl)) (hquiet (by decide) trivial)
  have hadmitted := hdelivered.tail (.pass rfl rfl rfl) (hquiet (by decide) trivial)
  have hcommitted := hadmitted.tail
    (.base (a := .commit) rfl rfl (.commit sample_apply_observed)) (hquiet (by decide) trivial)
  have hrequested := hcommitted.tail .requestStop (hquiet (by decide) trivial)
  have hstopped := hrequested.tail (.leave rfl rfl rfl) (hquiet (by decide) trivial)
  exact ⟨_, rfl, clean_stop_covers sample_history sample_holds .refl hstopped rfl⟩

end Sample

end DatabaseSync.Worker
