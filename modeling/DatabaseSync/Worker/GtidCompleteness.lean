import DatabaseSync.Worker.ExactlyOnce
import Mathlib.Data.Set.Insert

/-! # Completeness of the stored GTID set

Transactions without selected rows are only remembered in the writer and become durable with
the next commit. Recovery closes the writer, so a run keeps the set complete as long as it
never closes one that holds observations the row does not have.
-/

namespace DatabaseSync.Worker

open ChangeEvent Checked MysqlSink

variable {β σ γ : Type}

/-- The writer remembers nothing that the stored set does not contain already. -/
def NothingUnsaved (gtids : GtidServer) (w : CheckpointWriter) : Prop :=
  w.observedGtids = none ∨ ∃ cp ∈ w.checkpoint,
    gtidSubset gtids (w.observedGtids.getD "") (cp.gtidSet.getD "") = .ok true

/-- Recovery closes a writer only when it loses nothing by that. -/
def KeepsObservations (gtids : GtidServer) (s : System β) (a : Action) (_ : System β) : Prop :=
  match s.phase, a with
  | .applying w _ _ _, .failRetry => NothingUnsaved gtids w
  | .applying w _ _ (.first _), .loseCommit false => NothingUnsaved gtids w
  | _, _ => True

section Invariant

variable (denote : String → Option (Set γ)) (g : ChangeTransaction → γ)
  (history : List ChangeTransaction)

/-- Every transaction is pending, stored or observed. -/
def Accounted (A : Set γ) : Phase → Prop
  | .down => True
  | .streaming w rest _ => ∃ O, denote (w.observedGtids.getD "") = some O ∧
      ∀ u ∈ history, u ∈ rest ∨ g u ∈ A ∨ g u ∈ O
  | .applying w t rest _ => ∃ O, denote (w.observedGtids.getD "") = some O ∧
      ∀ u ∈ history, u = t ∨ u ∈ rest ∨ g u ∈ A ∨ g u ∈ O
  | .reopening t rest _ | .unknown t rest | .resolving _ t rest =>
      ∀ u ∈ history, u = t ∨ u ∈ rest ∨ g u ∈ A

/-- The stored set `A` has the initial one and everything the row has passed. -/
structure SetComplete (cp₀ : ReplicationCheckpoint) (A₀ : Set γ) (s : System β)
    (cp : ReplicationCheckpoint) (k : Option ChangeTransaction) (A : Set γ) : Prop where
  set : denote (cp.gtidSet.getD "") = some A
  initial : A₀ ⊆ A
  passed : ∀ u ∈ history, Passed cp₀.mode k u → g u ∈ A
  accounted : Accounted denote g history A s.phase

end Invariant

variable {r : Route β σ} {denote : String → Option (Set γ)} {g : ChangeTransaction → γ}
  {cp₀ cp : ReplicationCheckpoint} {history rest : List ChangeTransaction} {business₀ business : β}
  {db db' : SinkDb β} {w w' : CheckpointWriter} {k : Option ChangeTransaction}
  {t : ChangeTransaction} {result : CheckpointApplyResult} {A₀ A : Set γ} {attempt : Attempt}
  {last : Option ChangeTransaction}

section Set

variable (hist : SourceHistory denote g r.gtids cp₀ history) (hm : cp₀.mode = "gtid")
include hist hm

/-- Membership in the stored set is what the server answers. -/
theorem gtidIncluded_iff (hA : denote (cp.gtidSet.getD "") = some A) (ht : t ∈ history)
    {included : Bool} (hi : gtidIncluded r.gtids cp t.id = .ok included) :
    included = true ↔ g t ∈ A := by
  have hl := hist.lawful hm
  simp only [gtidIncluded, bind_eq_ok] at hi
  obtain ⟨c, hc, hi⟩ := hi
  obtain ⟨I, hI, hcI⟩ := hl.canonicalGtids_denote hc
  obtain rfl : {g t} = I := Option.some.inj ((hist.single hm t ht).symm.trans hI)
  rw [hl.gtidSubset_iff hi hcI hA, Set.singleton_subset_iff]

theorem observed_subset (hw : Connected r w cp) (hn : NothingUnsaved r.gtids w)
    (hA : denote (cp.gtidSet.getD "") = some A) {O : Set γ}
    (hO : denote (w.observedGtids.getD "") = some O) : O ⊆ A := by
  have hl := hist.lawful hm
  rcases hn with hnone | ⟨row, hrow, hsub⟩
  · rw [hnone] at hO
    rw [hl.denote_eq_empty hO]
    exact Set.empty_subset A
  · obtain rfl : row = cp := Option.some.inj (hrow.symm.trans hw.checkpoint)
    exact (hl.gtidSubset_iff hsub hO hA).mp rfl

/-- The committed set has the stored one, the observations and the transaction. -/
theorem commit_set (hw : Connected r w cp) (hmode : cp.mode = cp₀.mode)
    (hholds : db.Holds r.taskId cp) (ht : t ∈ history)
    (hA : denote (cp.gtidSet.getD "") = some A) {O : Set γ}
    (hO : denote (w.observedGtids.getD "") = some O)
    (h : r.apply db w t = .ok (.ready result business)) :
    denote (result.checkpoint.gtidSet.getD "") = some (A ∪ (O ∪ {g t})) := by
  have hl := hist.lawful hm
  obtain ⟨row, file, position, rows, hc, -, hcp⟩ := Route.apply_ready h
  obtain rfl : row = cp := hholds.unique (hw.task ▸ hc.loaded)
  obtain ⟨-, -, -, -, -, hg⟩ := advanceCheckpoint_spec hcp
  rw [if_pos (hmode.trans hm)] at hg
  obtain ⟨set, hset, hcanonical⟩ := hg
  obtain ⟨B, hB, hsetB⟩ := hl.canonicalGtids_denote hcanonical
  rw [hl.trim, hl.combinedGtids_denote hA hO (hist.single hm t ht)] at hB
  rw [hset, Option.getD_some, hsetB, hB]

end Set

section Step

variable {s s' : System β}

/-- A transaction that has been passed or is the committed one is in the committed set. -/
theorem SetComplete.commit {O : Set γ} {phase : Phase} {cp' : ReplicationCheckpoint}
    (hc : SetComplete denote g history cp₀ A₀ ⟨db, .applying w t rest attempt⟩ cp k A)
    (h : Inv r denote g cp₀ history business₀ ⟨db, .applying w t rest attempt⟩ cp k)
    (hset : denote (cp'.gtidSet.getD "") = some (A ∪ (O ∪ {g t})))
    (hrest : ∀ u ∈ history, u = t ∨ u ∈ rest ∨ g u ∈ A ∨ g u ∈ O)
    (hacc : (∀ u ∈ history, u ∈ rest ∨ g u ∈ A ∪ (O ∪ {g t})) →
      Accounted denote g history (A ∪ (O ∪ {g t})) phase) :
    SetComplete denote g history cp₀ A₀ ⟨db', phase⟩ cp' (some t) (A ∪ (O ∪ {g t})) := by
  have hall : ∀ u ∈ history, u ∈ rest ∨ g u ∈ A ∪ (O ∪ {g t}) := by
    intro u hu
    rcases hrest u hu with rfl | hmem | hA | hO
    · exact Or.inr (Or.inr (Or.inr rfl))
    · exact Or.inl hmem
    · exact Or.inr (Or.inl hA)
    · exact Or.inr (Or.inr (Or.inl hO))
  refine ⟨hset, hc.initial.trans Set.subset_union_left, fun u hu hp => ?_, hacc hall⟩
  rcases hall u hu with hmem | hin
  · have hafter := h.phase.2.1.later u hmem
    rcases passed_some_iff.mp hp with rfl | hbefore
    · exact absurd hafter hafter.asymm
    · exact absurd hbefore hafter.asymm
  · exact hin

variable (hist : SourceHistory denote g r.gtids cp₀ history) (hm : cp₀.mode = "gtid")
include hist hm

/-- One step that keeps the observations keeps the stored set complete. -/
theorem SetComplete.step (hc : SetComplete denote g history cp₀ A₀ s cp k A)
    (h : Inv r denote g cp₀ history business₀ s cp k) {a : Action}
    (hstep : Step r history s a s') (hkeep : KeepsObservations r.gtids s a s') :
    ∃ cp' k' A', Inv r denote g cp₀ history business₀ s' cp' k' ∧
      SetComplete denote g history cp₀ A₀ s' cp' k' A' := by
  have hl := hist.lawful hm
  have hempty {v : CheckpointWriter} (hv : v.observedGtids = none) :
      denote (v.observedGtids.getD "") = some ∅ := by
    rw [hv]
    exact hl.empty
  obtain ⟨hA, hinit, hpassed, hacc⟩ := id hc
  cases hstep with
  | start hopen hcp hres =>
    obtain ⟨rfl, hw⟩ := openWriter_holds h.stored.holds hopen
    obtain rfl := Option.some.inj (hw.checkpoint.symm.trans hcp)
    have hinv := h.start hist hopen fun row hrow => by
      rwa [Option.some.inj (hrow.symm.trans hcp)]
    refine ⟨cp, k, A, hinv, hA, hinit, hpassed, ∅, hempty hw.gtids, fun u hu => ?_⟩
    rcases hres.complete u hu with hmem | hd
    · exact Or.inl hmem
    · rw [Delivered, if_pos (h.stored.mode.trans hm)] at hd
      exact Or.inr (Or.inl ((gtidIncluded_iff hist hm hA hu hd).mp rfl))
  | @observe _ w w' t rest _ hb hobs =>
    obtain ⟨O, hO, hall⟩ := hacc
    have hinv := h.observe hist hb hobs
    refine ⟨cp, k, A, hinv, hA, hinit, hpassed, O ∪ {g t}, ?_, fun u hu => ?_⟩
    · exact observe_denote hist hm h.phase.connected h.stored.mode
        (h.phase.sub.subset (List.mem_cons_self ..)) hO hobs
    · rcases hall u hu with hmem | hin | hin
      · rcases List.mem_cons.mp hmem with rfl | hmem
        · exact Or.inr (Or.inr (Or.inr rfl))
        · exact Or.inl hmem
      · exact Or.inr (Or.inl hin)
      · exact Or.inr (Or.inr (Or.inl hin))
  | deliver _ =>
    obtain ⟨O, hO, hall⟩ := hacc
    refine ⟨cp, k, A, h.deliver hist, hA, hinit, hpassed, O, hO, fun u hu => ?_⟩
    rcases hall u hu with hmem | hin
    · rcases List.mem_cons.mp hmem with rfl | hmem
      · exact Or.inl rfl
      · exact Or.inr (Or.inl hmem)
    · exact Or.inr (Or.inr hin)
  | flush =>
    obtain ⟨O, hO, hall⟩ := hacc
    exact ⟨cp, k, A, h.flush, hA, hinit, hpassed, O, hO, fun u hu => Or.inr (hall u hu)⟩
  | covered hcov =>
    obtain ⟨O, hO, hall⟩ := hacc
    refine ⟨cp, k, A, h.covered hist hcov, hA, hinit, hpassed, O, hO, fun u hu => ?_⟩
    rcases hall u hu with rfl | hin
    · exact Or.inr (Or.inl (hpassed u hu (h.stored.passed_of_covered hist h.phase.1 hu hcov)))
    · exact hin
  | commit hready =>
    obtain ⟨O, hO, hall⟩ := hacc
    have hset := commit_set hist hm h.phase.1 h.stored.mode h.stored.holds h.phase.2.1.mem hA hO
      hready
    exact ⟨_, _, _, (h.commit hist hready).1, hc.commit h hset hall fun hall' =>
      ⟨∅, hempty rfl, fun u hu => (hall' u hu).imp_right Or.inl⟩⟩
  | failRetry _ _ =>
    obtain ⟨O, hO, hall⟩ := hacc
    have hsub := observed_subset hist hm h.phase.1 hkeep hA hO
    refine ⟨cp, k, A, ⟨h.stored, h.phase.2.1⟩, hA, hinit, hpassed, fun u hu => ?_⟩
    exact (hall u hu).imp_right (Or.imp_right fun hin => hin.elim id fun hin => hsub hin)
  | @loseCommit _ _ _ _ attempt _ _ committed hready =>
    obtain ⟨O, hO, hall⟩ := hacc
    cases committed with
    | false =>
      cases attempt with
      | first _ =>
        have hsub := observed_subset hist hm h.phase.1 hkeep hA hO
        refine ⟨cp, k, A, h.rolledBack, hA, hinit, hpassed, fun u hu => ?_⟩
        exact (hall u hu).imp_right (Or.imp_right fun hin => hin.elim id fun hin => hsub hin)
      | replay => exact ⟨cp, k, A, h.stop, hA, hinit, hpassed, trivial⟩
    | true =>
      have hset := commit_set hist hm h.phase.1 h.stored.mode h.stored.holds h.phase.2.1.mem hA hO
        hready
      have hinv := (h.unacknowledged hist hready).1
      cases attempt with
      | first _ => exact ⟨_, _, _, hinv,
          hc.commit h hset hall fun hall' u hu => Or.inr (hall' u hu)⟩
      | replay => exact ⟨_, _, _, hinv.stop, hc.commit h hset hall fun _ => trivial⟩
  | reopen hopen =>
    obtain ⟨rfl, hw⟩ := openWriter_holds h.stored.holds hopen
    exact ⟨cp, k, A, h.reopen hist hopen, hA, hinit, hpassed, ∅, hempty hw.gtids, fun u hu =>
      (hacc u hu).imp_right (Or.imp_right Or.inl)⟩
  | resolveOpen hopen =>
    obtain ⟨rfl, -⟩ := openWriter_holds h.stored.holds hopen
    exact ⟨cp, k, A, h.resolveOpen hopen, hA, hinit, hpassed, hacc⟩
  | resolveApplied hr =>
    have hnone := h.phase.2.2
    refine ⟨cp, k, A, h.resolveApplied hist hr, hA, hinit, hpassed, ∅, hempty hnone,
      fun u hu => ?_⟩
    rcases hacc u hu with rfl | hmem | hin
    · exact Or.inr (Or.inl (hpassed u hu (h.stored.passed_of_resolved hist h.phase.1 hu hr)))
    · exact Or.inl hmem
    · exact Or.inr (Or.inl hin)
  | resolveNotApplied _ =>
    have hnone := h.phase.2.2
    exact ⟨cp, k, A, h.resolveNotApplied hist, hA, hinit, hpassed, ∅, hempty hnone, fun u hu =>
      (hacc u hu).imp_right (Or.imp_right Or.inl)⟩
  | stop => exact ⟨cp, k, A, h.stop, hA, hinit, hpassed, trivial⟩

end Step

/-- In every run that closes no writer with unsaved observations, the stored set has the
initial set and every transaction up to the stored position. A source resumed from it is not
asked again for any of them. -/
theorem gtid_set_complete {s : System β} (hist : SourceHistory denote g r.gtids cp₀ history)
    (hm : cp₀.mode = "gtid") (hA₀ : denote (cp₀.gtidSet.getD "") = some A₀)
    (h₀ : db.Holds r.taskId cp₀)
    (hrun : Transition.RunWith (Step r history) (KeepsObservations r.gtids) ⟨db, .down⟩ s) :
    ∃ cp A, s.db.Holds r.taskId cp ∧ denote (cp.gtidSet.getD "") = some A ∧ A₀ ⊆ A ∧
      ∀ t ∈ history, upTo cp t = true → g t ∈ A ∧
        ∀ included, gtidIncluded r.gtids cp t.id = .ok included → included = true := by
  have hinit : SetComplete denote g history cp₀ A₀ ⟨db, .down⟩ cp₀ none A₀ :=
    ⟨hA₀, Set.Subset.refl _, fun _ _ hp => absurd hp not_passed_none, trivial⟩
  obtain ⟨cp, k, A, h, hc⟩ := hrun.invariant (P := fun s => ∃ cp k A,
    Inv r denote g cp₀ history db.business s cp k ∧
      SetComplete denote g history cp₀ A₀ s cp k A)
    (fun _ _ _ ⟨_, _, _, h, hc⟩ hstep hkeep => hc.step hist hm h hstep hkeep)
    ⟨cp₀, none, A₀, Inv.init hist h₀, hinit⟩
  refine ⟨cp, A, h.stored.holds, hc.set, hc.initial, fun t ht hup => ?_⟩
  have hin : g t ∈ A := hc.passed t ht
    ((hist.upTo_iff h.stored.mode h.stored.mem h.stored.stands ht).mp hup)
  exact ⟨hin, fun _ hi => (gtidIncluded_iff hist hm hc.set ht hi).mpr hin⟩

section Sample

/-- The reopened writer has forgotten the filtered transaction; the row moves past it without
its GTID. -/
theorem observed_gtids_lost :
    SourceHistory listedSet (fun t => t.id.toList) listedGtids sampleRow [filtered, ordered] ∧
      ∃ s cp A, Transition.Run (Step sampleRoute [filtered, ordered])
          ⟨sampleDb sampleRow, .down⟩ s ∧
        s.db.Holds "orders" cp ∧ listedSet (cp.gtidSet.getD "") = some A ∧
        upTo cp filtered = true ∧ filtered.id.toList ∉ A ∧
        gtidIncluded listedGtids cp filtered.id = .ok false := by
  refine ⟨sample_history, _, sampleCommitted, _, sample_run, rfl, rfl, by decide +kernel, ?_,
    by decide +kernel⟩
  have : listed ordered.id.toList = [ordered.id.toList] := by decide
  simp only [sampleCommitted, Option.getD_some, this, Set.mem_ofPred_eq, List.mem_singleton]
  decide

theorem complete_open : openWriter ⟨some "8f0b2a10-52c6-11ee-8c99-0242ac120002", some 1, some 1⟩
    ((sampleDb sampleRow).store "orders" sampleComplete ["orders"]) sampleRoute.taskId
      sampleRoute.sourceUuid sampleRoute.binding =
        .ok (sampleWriter sampleComplete,
          (sampleDb sampleRow).store "orders" sampleComplete ["orders"]) := by
  rfl

theorem complete_resolved : resolveCommitUnknown listedGtids
    ((sampleDb sampleRow).store "orders" sampleComplete ["orders"]) (sampleWriter sampleComplete)
      ordered = .ok .applied := by
  decide +kernel

/-- A filtered transaction is observed; the acknowledgement of the commit that saves it is lost,
and the commit is found applied. -/
theorem gtid_set_complete_sample : ∃ s : System (List String), ∃ cp A,
    s.db.Holds sampleRoute.taskId cp ∧ listedSet (cp.gtidSet.getD "") = some A ∧
      {g | g ∈ listed "".toList} ⊆ A ∧
      ∀ t ∈ [filtered, ordered], upTo cp t = true → t.id.toList ∈ A ∧
        ∀ included, gtidIncluded sampleRoute.gtids cp t.id = .ok included → included = true := by
  have hstart : Transition.RunWith (Step sampleRoute [filtered, ordered])
      (KeepsObservations sampleRoute.gtids) ⟨sampleDb sampleRow, .down⟩ _ :=
    Transition.RunWith.refl.tail (.start sample_open rfl sample_resumes) trivial
  have hobserved := hstart.tail (.observe rfl sample_observe) trivial
  have hdelivered := hobserved.tail (.deliver rfl) trivial
  have hlost := hdelivered.tail (.loseCommit true sample_apply_observed) trivial
  have hreopened := hlost.tail (.resolveOpen complete_open) trivial
  have hrecovered := hreopened.tail (.resolveApplied complete_resolved) trivial
  exact ⟨_, gtid_set_complete (r := sampleRoute) sample_history rfl rfl sample_holds hrecovered⟩

end Sample

end DatabaseSync.Worker
