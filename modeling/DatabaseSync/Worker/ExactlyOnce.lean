import DatabaseSync.MysqlSink.Resolution
import DatabaseSync.Worker.History

/-! # Exactly-once apply

The invariant of the apply loop: the stored row stands at a transaction of the history, the
business rows are the effect of the row-bearing transactions up to there, and whatever the
worker still has to consume, or may have committed without knowing, is accounted for.
-/

namespace DatabaseSync.Worker

open ChangeEvent Checked MysqlSink

variable {β σ γ : Type}

section Invariant

variable (r : Route β σ) (denote : String → Option (Set γ)) (g : ChangeTransaction → γ)
  (cp₀ : ReplicationCheckpoint) (history : List ChangeTransaction) (business₀ : β)

/-- The database while its row `cp` stands at `k`. -/
structure Stored (db : SinkDb β) (cp : ReplicationCheckpoint) (k : Option ChangeTransaction) :
    Prop where
  holds : db.Holds r.taskId cp
  mode : cp.mode = cp₀.mode
  mem : ∀ s ∈ k, s ∈ history
  stands : StandsAt cp₀ cp k
  last : ∀ t ∈ history, cp.lastTransactionId = some t.id → k = some t
  rows : Watermark.replay r.effect business₀
    (history.filter fun t => rowBearing t && upTo cp t) = .ok db.business
  gtids : cp₀.mode = "gtid" → ∃ A, denote (cp.gtidSet.getD "") = some A ∧
    (∀ t ∈ history, g t ∈ A → Passed cp₀.mode k t) ∧
    ∀ t ∈ history, rowBearing t = true → Passed cp₀.mode k t → g t ∈ A

/-- The writer has loaded the stored row. -/
structure Connected (w : CheckpointWriter) (cp : ReplicationCheckpoint) : Prop where
  task : w.taskId = r.taskId
  checkpoint : w.checkpoint = some cp

/-- In GTID mode, everything the writer has observed satisfies `P`. -/
def Observed (w : CheckpointWriter) (P : ChangeTransaction → Prop) : Prop :=
  cp₀.mode = "gtid" → ∃ O, denote (w.observedGtids.getD "") = some O ∧
    ∀ t ∈ history, g t ∈ O → P t

/-- Between transactions: what is not passed is still in the stream. -/
structure Streaming (w : CheckpointWriter) (cp : ReplicationCheckpoint)
    (k : Option ChangeTransaction) (rest : List ChangeTransaction)
    (last : Option ChangeTransaction) : Prop where
  connected : Connected r w cp
  sub : rest.Sublist history
  complete : ∀ t ∈ history, rowBearing t = true → t ∈ rest ∨ Passed cp₀.mode k t
  last_mem : ∀ l ∈ last, l ∈ history ∧ ∀ y ∈ rest, Before cp₀.mode l y
  observed : Observed denote g cp₀ history w fun t =>
    (∀ y ∈ rest, Before cp₀.mode t y) ∧ ∀ l ∈ last, t = l ∨ Before cp₀.mode t l

/-- During the attempts on `t`: what is not passed is `t` or still in the stream. -/
structure Attempting (k : Option ChangeTransaction) (t : ChangeTransaction)
    (rest : List ChangeTransaction) : Prop where
  mem : t ∈ history
  sub : rest.Sublist history
  later : ∀ y ∈ rest, Before cp₀.mode t y
  complete : ∀ u ∈ history, rowBearing u = true → u = t ∨ u ∈ rest ∨ Passed cp₀.mode k u

def PhaseOk (cp : ReplicationCheckpoint) (k : Option ChangeTransaction) : Phase → Prop
  | .down => True
  | .streaming w rest last => Streaming r denote g cp₀ history w cp k rest last
  | .applying w t rest _ => Connected r w cp ∧ Attempting cp₀ history k t rest ∧
      Observed denote g cp₀ history w fun u => u = t ∨ Before cp₀.mode u t
  | .reopening t rest _ => Attempting cp₀ history k t rest
  | .unknown t rest => Attempting cp₀ history k t rest
  | .resolving w t rest => Connected r w cp ∧ Attempting cp₀ history k t rest ∧
      w.observedGtids = none

/-- The invariant of the apply loop, for a stored row that stands at `k`. -/
structure Inv (s : System β) (cp : ReplicationCheckpoint) (k : Option ChangeTransaction) :
    Prop where
  stored : Stored r denote g cp₀ history business₀ s.db cp k
  phase : PhaseOk r denote g cp₀ history cp k s.phase

end Invariant

variable {r : Route β σ} {denote : String → Option (Set γ)} {g : ChangeTransaction → γ}
  {cp₀ cp : ReplicationCheckpoint} {history rest : List ChangeTransaction} {business₀ business : β}
  {db db' : SinkDb β} {w w' : CheckpointWriter} {k : Option ChangeTransaction}
  {t : ChangeTransaction} {result : CheckpointApplyResult}

/-- A fresh writer has observed nothing. -/
theorem observed_of_none {P : ChangeTransaction → Prop}
    (hist : SourceHistory denote g r.gtids cp₀ history) (hw : w.observedGtids = none) :
    Observed denote g cp₀ history w P := by
  intro hmode
  refine ⟨∅, ?_, fun _ _ h => absurd h (Set.notMem_empty _)⟩
  rw [hw]
  exact (hist.lawful hmode).empty

theorem connected_of_opened {source : String} (h : Opened db w r.taskId source cp) :
    Connected r w cp := ⟨h.task, h.checkpoint⟩

/-- In GTID mode, a transaction of the history that the stored set contains has been passed. -/
theorem Stored.passed_of_included (hist : SourceHistory denote g r.gtids cp₀ history)
    (hs : Stored r denote g cp₀ history business₀ db cp k) (hmode : cp.mode = "gtid")
    (ht : t ∈ history) (hi : gtidIncluded r.gtids cp t.id = .ok true) :
    Passed cp₀.mode k t := by
  have hmode₀ : cp₀.mode = "gtid" := hs.mode ▸ hmode
  have hl := hist.lawful hmode₀
  obtain ⟨A, hA, hpassed, -⟩ := hs.gtids hmode₀
  simp only [gtidIncluded, bind_eq_ok] at hi
  obtain ⟨c, hc, hi⟩ := hi
  obtain ⟨I, hI, hcI⟩ := hl.canonicalGtids_denote hc
  obtain rfl : {g t} = I := Option.some.inj ((hist.single hmode₀ t ht).symm.trans hI)
  exact hpassed t ht ((hl.gtidSubset_iff hi hcI hA).mp rfl rfl)

/-- What the stored row covers has been passed. -/
theorem Stored.passed_of_delivered (hist : SourceHistory denote g r.gtids cp₀ history)
    (hs : Stored r denote g cp₀ history business₀ db cp k) (ht : t ∈ history)
    (hd : Delivered r cp t) : Passed cp₀.mode k t := by
  unfold Delivered at hd
  split at hd
  · exact hs.passed_of_included hist ‹_› ht hd
  · exact (hist.upTo_iff hs.mode hs.mem hs.stands ht).mp hd

/-- What apply reports as covered has been passed. -/
theorem Stored.passed_of_covered (hist : SourceHistory denote g r.gtids cp₀ history)
    (hs : Stored r denote g cp₀ history business₀ db cp k) (hw : Connected r w cp)
    (ht : t ∈ history) (h : r.apply db w t = .ok (.covered result)) :
    Passed cp₀.mode k t := by
  obtain ⟨row, file, position, hc⟩ := Route.apply_covered h
  obtain rfl : row = cp := hs.holds.unique (hw.task ▸ hc.loaded)
  have := hc.covered
  refine hs.passed_of_delivered hist ht ?_
  unfold Delivered
  split at this
  case isTrue hmode => rwa [if_pos hmode]
  case isFalse hmode =>
    obtain ⟨order, horder, hne⟩ := this
    rw [if_neg hmode]
    cases order <;> simp_all [upTo]

/-- What resolution reports as applied has been passed. -/
theorem Stored.passed_of_resolved (hist : SourceHistory denote g r.gtids cp₀ history)
    (hs : Stored r denote g cp₀ history business₀ db cp k) (hw : Connected r w cp)
    (ht : t ∈ history) (h : resolveCommitUnknown r.gtids db w t = .ok .applied) :
    Passed cp₀.mode k t := by
  obtain ⟨row, file, position, hr, h⟩ := resolve_spec h
  obtain rfl : row = cp := hs.holds.unique (hw.task ▸ hr.loaded)
  rcases h with ⟨-, hlast⟩ | ⟨order, included, horder, hincluded, h⟩
  · obtain rfl := hs.last t ht hlast
    simp
  · have hto : transactionOrder row t.commitCursor = .ok order := by
      simp [transactionOrder, hr.filePosition_eq, horder]
    split at h
    case isFalse => split at h <;> cases h
    case isTrue hyes =>
      rcases hyes with rfl | rfl
      · split at hincluded
        · exact hs.passed_of_included hist ‹_› ht hincluded
        · cases hincluded
      · exact (hist.upTo_iff hs.mode hs.mem hs.stands ht).mp (by simp [upTo, hto])

/-- The new place is the old one or a transaction after it. -/
def Advances (mode : String) (k k' : Option ChangeTransaction) : Prop :=
  k = k' ∨ ∃ t ∈ k', ¬ Passed mode k t

section Commit

variable (hist : SourceHistory denote g r.gtids cp₀ history)
  (hs : Stored r denote g cp₀ history business₀ db cp k) (hw : Connected r w cp)
  (ha : Attempting cp₀ history k t rest)
include hist ha

/-- Moving to `t` passes `t` and nothing else that carries rows. -/
theorem Attempting.passed_iff (hmem : ∀ s ∈ k, s ∈ history) (hnp : ¬ Passed cp₀.mode k t)
    {u : ChangeTransaction} (hu : u ∈ history) (hb : rowBearing u = true) :
    Passed cp₀.mode (some t) u ↔ Passed cp₀.mode k u ∨ u = t := by
  rw [passed_some_iff]
  constructor
  · rintro (rfl | hut)
    · exact Or.inr rfl
    · rcases ha.complete u hu hb with rfl | hrest | hp
      · exact Or.inr rfl
      · exact absurd hut (ha.later u hrest).asymm
      · exact Or.inl hp
  · rintro (hp | rfl)
    · exact Or.inr (hist.before_of_passed hmem hu ha.mem hp hnp)
    · exact Or.inl rfl

/-- The business rows gain the effect of `t`, if it carries rows. -/
theorem Attempting.rows_commit (hs : Stored r denote g cp₀ history business₀ db cp k)
    {cp' : ReplicationCheckpoint} (hmode : cp'.mode = cp₀.mode) (hst : StandsAt cp₀ cp' (some t))
    (hnp : ¬ Passed cp₀.mode k t)
    (hb : if rowBearing t then r.effect db.business t = .ok business else business = db.business) :
    Watermark.replay r.effect business₀ (history.filter fun t => rowBearing t && upTo cp' t) =
      .ok business := by
  have hmem' : ∀ s ∈ some t, s ∈ history := by
    rintro _ ⟨⟩
    exact ha.mem
  have hold {u : ChangeTransaction} (hu : u ∈ history) := hist.upTo_iff hs.mode hs.mem hs.stands hu
  have hnew {u : ChangeTransaction} (hu : u ∈ history) := hist.upTo_iff hmode hmem' hst hu
  have hgain {u : ChangeTransaction} (hu : u ∈ history) (hbu : rowBearing u = true) :
      upTo cp' u = true ↔ upTo cp u = true ∨ u = t := by
    rw [hnew hu, hold hu]
    exact ha.passed_iff hist hs.mem hnp hu hbu
  by_cases hbear : rowBearing t = true
  · rw [if_pos hbear] at hb
    refine Watermark.replay_gain (x := t) ?_ hs.rows hb
    refine Watermark.filter_gain (fun _ _ => Before.asymm) hist.increasing ha.mem ?_ ?_ ?_
    · have : ¬ upTo cp t = true := fun h => hnp ((hold ha.mem).mp h)
      simp [this]
    · intro u hu
      by_cases hbu : rowBearing u = true
      · simp [hbu, hgain hu hbu]
      · have hne : u ≠ t := fun h => hbu (h ▸ hbear)
        simp [hbu, hne]
    · intro u hu h
      rw [Bool.and_eq_true] at h
      exact hist.before_of_passed hs.mem hu ha.mem ((hold hu).mp h.2) hnp
  · rw [if_neg hbear] at hb
    rw [hb, ← hs.rows]
    congr 1
    refine List.filter_congr fun u hu => ?_
    by_cases hbu : rowBearing u = true
    · have hne : u ≠ t := fun h => hbear (h ▸ hbu)
      rw [Bool.eq_iff_iff]
      simp [hbu, hgain hu hbu, hne]
    · simp [hbu]

/-- The stored set gains the observed transactions and `t`. -/
theorem Attempting.gtids_commit (hs : Stored r denote g cp₀ history business₀ db cp k)
    (hobs : Observed denote g cp₀ history w fun u => u = t ∨ Before cp₀.mode u t)
    (hnp : ¬ Passed cp₀.mode k t) (hm : cp₀.mode = "gtid") {gtidSet : Option String}
    (hg : ∃ set, gtidSet = some set ∧
      canonicalGtids r.gtids (Text.trimMatches (combinedGtids cp w.observedGtids t.id) ',') =
        .ok set) :
    ∃ A, denote (gtidSet.getD "") = some A ∧
      (∀ u ∈ history, g u ∈ A → Passed cp₀.mode (some t) u) ∧
      ∀ u ∈ history, rowBearing u = true → Passed cp₀.mode (some t) u → g u ∈ A := by
  have hl := hist.lawful hm
  obtain ⟨A, hA, hpassed, hcomplete⟩ := hs.gtids hm
  obtain ⟨O, hO, hbefore⟩ := hobs hm
  obtain ⟨set, rfl, hset⟩ := hg
  obtain ⟨B, hB, hsetB⟩ := hl.canonicalGtids_denote hset
  rw [hl.trim, hl.combinedGtids_denote hA hO (hist.single hm t ha.mem), Option.some.injEq] at hB
  refine ⟨B, hsetB, fun u hu hgu => ?_, fun u hu hbu hpu => ?_⟩
  · rw [← hB] at hgu
    rcases hgu with hgA | hgO | hgt
    · exact passed_some_iff.mpr (Or.inr (hist.before_of_passed hs.mem hu ha.mem
        (hpassed u hu hgA) hnp))
    · exact passed_some_iff.mpr (hbefore u hu hgO)
    · exact passed_some_iff.mpr (Or.inl (eq_of_pairwise_ne (hist.distinct_gtids hm) hu ha.mem hgt))
  · rw [← hB]
    rcases (ha.passed_iff hist hs.mem hnp hu hbu).mp hpu with hpk | rfl
    · exact Or.inl (hcomplete u hu hbu hpk)
    · exact Or.inr (Or.inr rfl)

include hs hw

/-- The committed transaction leaves the database standing at `t`. -/
theorem Stored.commit (hobs : Observed denote g cp₀ history w fun u => u = t ∨ Before cp₀.mode u t)
    (h : r.apply db w t = .ok (.ready result business)) :
    Stored r denote g cp₀ history business₀ (db.store w.taskId result.checkpoint business)
      result.checkpoint (some t) ∧ ¬ Passed cp₀.mode k t := by
  obtain ⟨row, file, position, rows, hc, hbusiness, hcp⟩ := Route.apply_ready h
  obtain rfl : row = cp := hs.holds.unique (hw.task ▸ hc.loaded)
  have hnp : ¬ Passed cp₀.mode k t :=
    hist.not_passed_of_gt hs.mode hs.mem hs.stands ha.mem hc.order_gt
  obtain ⟨hfile, hposition, hlast, hmode, -, hgtids⟩ := advanceCheckpoint_spec hcp
  have hmode' : result.checkpoint.mode = cp₀.mode := hmode.trans hs.mode
  have hmem' : ∀ s ∈ some t, s ∈ history := by
    rintro _ ⟨⟩
    exact ha.mem
  have hstands : StandsAt cp₀ result.checkpoint (some t) := by
    rw [StandsAt, hfile, hposition]
    exact hc.filePosition_eq
  refine ⟨⟨?_, hmode', hmem', hstands, ?_, ?_, ?_⟩, hnp⟩
  · rw [← hw.task]
    exact SinkDb.Holds.store hc.loaded
  · intro u hu hid
    rw [hlast, Option.some.injEq] at hid
    rw [eq_of_pairwise_ne hist.distinct ha.mem hu hid]
  · exact ha.rows_commit hist hs hmode' hstands hnp hbusiness
  · intro hm
    exact ha.gtids_commit hist hs hobs hnp hm (by rwa [if_pos (hs.mode.trans hm)] at hgtids)

end Commit

section Step

variable {phase phase' : Phase} {s s' : System β} {last : Option ChangeTransaction}
  {attempt : Attempt} {server : SinkServer}

variable (hist : SourceHistory denote g r.gtids cp₀ history)
include hist

theorem Inv.start (h : Inv r denote g cp₀ history business₀ ⟨db, .down⟩ cp k)
    (hopen : openWriter server db r.taskId r.sourceUuid r.binding = .ok (w, db'))
    (hres : ∀ row, w.checkpoint = some row → Resumes r history row rest) :
    Inv r denote g cp₀ history business₀ ⟨db', .streaming w rest none⟩ cp k := by
  obtain ⟨rfl, hw⟩ := openWriter_holds h.stored.holds hopen
  have hr := hres cp hw.checkpoint
  refine ⟨h.stored, (connected_of_opened hw), hr.in_order, fun t ht _ => ?_, nofun,
    observed_of_none hist hw.gtids⟩
  rcases hr.complete t ht with hmem | hd
  · exact Or.inl hmem
  · exact Or.inr (h.stored.passed_of_delivered hist ht hd)

/-- Observing a transaction adds its GTID to what the writer remembers. -/
theorem observe_denote (hm : cp₀.mode = "gtid") (hw : Connected r w cp)
    (hmode : cp.mode = cp₀.mode) (ht : t ∈ history) {O : Set γ}
    (hO : denote (w.observedGtids.getD "") = some O)
    (hobs : MysqlSink.observe r.gtids w t = .ok w') :
    denote (w'.observedGtids.getD "") = some (O ∪ {g t}) := by
  have hl := hist.lawful hm
  have hany : w.checkpoint.any (·.mode = "gtid") = true := by simp [hw.checkpoint, hmode, hm]
  obtain ⟨-, hset, -⟩ := observe_spec hobs
  simp only [observedGtidsWith, hany, if_true, pure_eq, bind_eq_ok, Except.ok.injEq] at hset
  obtain ⟨set, hset, hw'⟩ := hset
  obtain ⟨B, hB, hsetB⟩ := hl.canonicalGtids_denote hset
  rw [hl.trim, hl.join _ _ _ _ hO (hist.single hm t ht)] at hB
  rw [← hw', Option.getD_some, hsetB, hB]

/-- Observing the head of the stream moves it to the observed set. -/
theorem Inv.observe
    (h : Inv r denote g cp₀ history business₀ ⟨db, .streaming w (t :: rest) last⟩ cp k)
    (hb : rowBearing t = false) (hobs : MysqlSink.observe r.gtids w t = .ok w') :
    Inv r denote g cp₀ history business₀ ⟨db, .streaming w' rest (some t)⟩ cp k := by
  obtain ⟨hst, hp⟩ := h
  obtain ⟨-, -, p, hfp, hw'⟩ := observe_spec hobs
  have ht : t ∈ history := hp.sub.subset (List.mem_cons_self ..)
  have hlater : ∀ y ∈ rest, Before cp₀.mode t y :=
    (List.pairwise_cons.mp (hist.increasing.sublist hp.sub)).1
  refine ⟨hst, ?_, (List.sublist_cons_self t rest).trans hp.sub, fun u hu hbu => ?_, ?_, ?_⟩
  · rw [hw']
    exact ⟨hp.connected.task, hp.connected.checkpoint⟩
  · rcases hp.complete u hu hbu with hmem | hpassed
    · rcases List.mem_cons.mp hmem with rfl | hmem
      · simp [hb] at hbu
      · exact Or.inl hmem
    · exact Or.inr hpassed
  · rintro _ ⟨⟩
    exact ⟨ht, hlater⟩
  · intro hm
    obtain ⟨O, hO, hbefore⟩ := hp.observed hm
    refine ⟨O ∪ {g t}, observe_denote hist hm hp.connected hst.mode ht hO hobs,
      fun u hu hgu => ?_⟩
    have hut : u = t ∨ Before cp₀.mode u t := by
      rcases hgu with hgO | hgt
      · exact Or.inr ((hbefore u hu hgO).1 t (List.mem_cons_self ..))
      · exact Or.inl (eq_of_pairwise_ne (hist.distinct_gtids hm) hu ht hgt)
    refine ⟨fun y hy => ?_, ?_⟩
    · rcases hut with rfl | hut
      · exact hlater y hy
      · exact hist.trans hu ht (hp.sub.subset (List.mem_cons_of_mem _ hy)) hut (hlater y hy)
    · rintro _ ⟨⟩
      exact hut

theorem Inv.deliver
    (h : Inv r denote g cp₀ history business₀ ⟨db, .streaming w (t :: rest) last⟩ cp k) :
    Inv r denote g cp₀ history business₀ ⟨db, .applying w t rest attempt⟩ cp k := by
  obtain ⟨hst, hp⟩ := h
  have ht : t ∈ history := hp.sub.subset (List.mem_cons_self ..)
  have hlater : ∀ y ∈ rest, Before cp₀.mode t y :=
    (List.pairwise_cons.mp (hist.increasing.sublist hp.sub)).1
  refine ⟨hst, hp.connected, ⟨ht, (List.sublist_cons_self t rest).trans hp.sub, hlater,
    fun u hu hbu => ?_⟩, fun hm => ?_⟩
  · rcases hp.complete u hu hbu with hmem | hpassed
    · rcases List.mem_cons.mp hmem with rfl | hmem
      · exact Or.inl rfl
      · exact Or.inr (Or.inl hmem)
    · exact Or.inr (Or.inr hpassed)
  · obtain ⟨O, hO, hbefore⟩ := hp.observed hm
    exact ⟨O, hO, fun u hu hgu => Or.inr ((hbefore u hu hgu).1 t (List.mem_cons_self ..))⟩

omit hist in
theorem Inv.flush
    (h : Inv r denote g cp₀ history business₀ ⟨db, .streaming w rest (some t)⟩ cp k) :
    Inv r denote g cp₀ history business₀ ⟨db, .applying w t rest attempt⟩ cp k := by
  obtain ⟨hst, hp⟩ := h
  obtain ⟨ht, hlater⟩ := hp.last_mem t rfl
  refine ⟨hst, hp.connected, ⟨ht, hp.sub, hlater, fun u hu hbu =>
    Or.inr (hp.complete u hu hbu)⟩, fun hm => ?_⟩
  obtain ⟨O, hO, hbefore⟩ := hp.observed hm
  exact ⟨O, hO, fun u hu hgu => (hbefore u hu hgu).2 t rfl⟩

theorem Inv.covered (h : Inv r denote g cp₀ history business₀ ⟨db, .applying w t rest attempt⟩ cp k)
    (hc : r.apply db w t = .ok (.covered result)) :
    Inv r denote g cp₀ history business₀ ⟨db, .streaming w rest none⟩ cp k := by
  obtain ⟨hst, hw, ha, hobs⟩ := h
  have hpassed := hst.passed_of_covered hist hw ha.mem hc
  refine ⟨hst, hw, ha.sub, fun u hu hbu => ?_, nofun, fun hm => ?_⟩
  · rcases ha.complete u hu hbu with rfl | hrest | hp
    · exact Or.inr hpassed
    · exact Or.inl hrest
    · exact Or.inr hp
  · obtain ⟨O, hO, hbefore⟩ := hobs hm
    refine ⟨O, hO, fun u hu hgu => ⟨fun y hy => ?_, nofun⟩⟩
    rcases hbefore u hu hgu with rfl | hut
    · exact ha.later y hy
    · exact hist.trans hu ha.mem (ha.sub.subset hy) hut (ha.later y hy)

/-- What is pending after `t` has been committed. -/
theorem Attempting.committed (hmem : ∀ s ∈ k, s ∈ history) (hnp : ¬ Passed cp₀.mode k t)
    (ha : Attempting cp₀ history k t rest) : Attempting cp₀ history (some t) t rest := by
  refine ⟨ha.mem, ha.sub, ha.later, fun u hu hbu => ?_⟩
  rcases ha.complete u hu hbu with rfl | hrest | hp
  · exact Or.inl rfl
  · exact Or.inr (Or.inl hrest)
  · exact Or.inr (Or.inr ((ha.passed_iff hist hmem hnp hu hbu).mpr (Or.inl hp)))

theorem Inv.commit (h : Inv r denote g cp₀ history business₀ ⟨db, .applying w t rest attempt⟩ cp k)
    (hc : r.apply db w t = .ok (.ready result business)) :
    Inv r denote g cp₀ history business₀ ⟨db.store w.taskId result.checkpoint business,
      .streaming (w.committed result.checkpoint) rest none⟩ result.checkpoint (some t) ∧
      ¬ Passed cp₀.mode k t := by
  obtain ⟨hst, hw, ha, hobs⟩ := h
  obtain ⟨hst', hnp⟩ := hst.commit hist hw ha hobs hc
  refine ⟨⟨hst', ⟨hw.task, rfl⟩, ha.sub, fun u hu hbu => ?_, nofun,
    observed_of_none hist rfl⟩, hnp⟩
  rcases (ha.committed hist hst.mem hnp).complete u hu hbu with rfl | hrest | hp
  · exact Or.inr (by simp)
  · exact Or.inl hrest
  · exact Or.inr hp

omit hist in
/-- A run that ends leaves the database to the next one. -/
theorem Inv.stop (h : Inv r denote g cp₀ history business₀ s cp k) :
    Inv r denote g cp₀ history business₀ ⟨s.db, .down⟩ cp k :=
  ⟨h.stored, trivial⟩

omit hist in
/-- A commit that did not happen leaves the attempt on `t` open. -/
theorem Inv.rolledBack
    (h : Inv r denote g cp₀ history business₀ ⟨db, .applying w t rest attempt⟩ cp k) :
    Inv r denote g cp₀ history business₀ ⟨db, .unknown t rest⟩ cp k :=
  ⟨h.stored, h.phase.2.1⟩

/-- A commit that did happen leaves the database standing at `t`. -/
theorem Inv.unacknowledged
    (h : Inv r denote g cp₀ history business₀ ⟨db, .applying w t rest attempt⟩ cp k)
    (hc : r.apply db w t = .ok (.ready result business)) :
    Inv r denote g cp₀ history business₀
      ⟨db.store w.taskId result.checkpoint business, .unknown t rest⟩ result.checkpoint (some t) ∧
      ¬ Passed cp₀.mode k t := by
  obtain ⟨hst, hw, ha, hobs⟩ := h
  obtain ⟨hst', hnp⟩ := hst.commit hist hw ha hobs hc
  exact ⟨⟨hst', ha.committed hist hst.mem hnp⟩, hnp⟩

theorem Inv.reopen {retries : ℕ}
    (h : Inv r denote g cp₀ history business₀ ⟨db, .reopening t rest retries⟩ cp k)
    (hopen : openWriter server db r.taskId r.sourceUuid r.binding = .ok (w, db')) :
    Inv r denote g cp₀ history business₀ ⟨db', .applying w t rest attempt⟩ cp k := by
  obtain ⟨rfl, hw⟩ := openWriter_holds h.stored.holds hopen
  exact ⟨h.stored, (connected_of_opened hw), h.phase, observed_of_none hist hw.gtids⟩

omit hist in
theorem Inv.resolveOpen
    (h : Inv r denote g cp₀ history business₀ ⟨db, .unknown t rest⟩ cp k)
    (hopen : openWriter server db r.taskId r.sourceUuid r.binding = .ok (w, db')) :
    Inv r denote g cp₀ history business₀ ⟨db', .resolving w t rest⟩ cp k := by
  obtain ⟨rfl, hw⟩ := openWriter_holds h.stored.holds hopen
  exact ⟨h.stored, (connected_of_opened hw), h.phase, hw.gtids⟩

theorem Inv.resolveApplied
    (h : Inv r denote g cp₀ history business₀ ⟨db, .resolving w t rest⟩ cp k)
    (hr : resolveCommitUnknown r.gtids db w t = .ok .applied) :
    Inv r denote g cp₀ history business₀ ⟨db, .streaming w rest none⟩ cp k := by
  obtain ⟨hst, hw, ha, hnone⟩ := h
  refine ⟨hst, hw, ha.sub, fun u hu hbu => ?_, nofun, observed_of_none hist hnone⟩
  rcases ha.complete u hu hbu with rfl | hrest | hp
  · exact Or.inr (hst.passed_of_resolved hist hw ha.mem hr)
  · exact Or.inl hrest
  · exact Or.inr hp

theorem Inv.resolveNotApplied
    (h : Inv r denote g cp₀ history business₀ ⟨db, .resolving w t rest⟩ cp k) :
    Inv r denote g cp₀ history business₀ ⟨db, .applying w t rest .replay⟩ cp k := by
  obtain ⟨hst, hw, ha, hnone⟩ := h
  exact ⟨hst, hw, ha, observed_of_none hist hnone⟩

/-- One step keeps the invariant and never moves the stored row back. -/
theorem Inv.step (h : Inv r denote g cp₀ history business₀ s cp k) {a : Action}
    (hstep : Step r history s a s') :
    ∃ cp' k', Inv r denote g cp₀ history business₀ s' cp' k' ∧ Advances cp₀.mode k k' := by
  cases hstep with
  | start hopen hcp hres => 
    refine ⟨cp, k, h.start hist hopen fun row hrow => ?_, Or.inl rfl⟩
    rwa [Option.some.inj (hrow.symm.trans hcp)]
  | observe hb hobs => exact ⟨cp, k, h.observe hist hb hobs, Or.inl rfl⟩
  | deliver _ => exact ⟨cp, k, h.deliver hist, Or.inl rfl⟩
  | flush => exact ⟨cp, k, h.flush, Or.inl rfl⟩
  | covered hc => exact ⟨cp, k, h.covered hist hc, Or.inl rfl⟩
  | commit hc =>
    obtain ⟨hinv, hnp⟩ := h.commit hist hc
    exact ⟨_, _, hinv, Or.inr ⟨_, rfl, hnp⟩⟩
  | failRetry _ _ => exact ⟨cp, k, ⟨h.stored, h.phase.2.1⟩, Or.inl rfl⟩
  | @loseCommit _ _ _ _ attempt _ _ committed hc =>
    cases committed with
    | false =>
      cases attempt with
      | first _ => exact ⟨cp, k, h.rolledBack, Or.inl rfl⟩
      | replay => exact ⟨cp, k, h.stop, Or.inl rfl⟩
    | true =>
      obtain ⟨hinv, hnp⟩ := h.unacknowledged hist hc
      cases attempt with
      | first _ => exact ⟨_, _, hinv, Or.inr ⟨_, rfl, hnp⟩⟩
      | replay => exact ⟨_, _, hinv.stop, Or.inr ⟨_, rfl, hnp⟩⟩
  | reopen hopen => exact ⟨cp, k, h.reopen hist hopen, Or.inl rfl⟩
  | resolveOpen hopen => exact ⟨cp, k, h.resolveOpen hopen, Or.inl rfl⟩
  | resolveApplied hr => exact ⟨cp, k, h.resolveApplied hist hr, Or.inl rfl⟩
  | resolveNotApplied _ => exact ⟨cp, k, h.resolveNotApplied hist, Or.inl rfl⟩
  | stop => exact ⟨cp, k, h.stop, Or.inl rfl⟩

/-- Along a run the stored row only moves on. -/
theorem Inv.run (h : Inv r denote g cp₀ history business₀ s cp k)
    (hrun : Transition.Run (Step r history) s s') :
    ∃ cp' k', Inv r denote g cp₀ history business₀ s' cp' k' ∧ Advances cp₀.mode k k' := by
  refine hrun.invariant (P := fun s' => ∃ cp' k',
    Inv r denote g cp₀ history business₀ s' cp' k' ∧ Advances cp₀.mode k k') ?_
    ⟨cp, k, h, Or.inl rfl⟩
  rintro u a v ⟨cp₁, k₁, hu, hadv⟩ hstep
  obtain ⟨cp₂, k₂, hv, hadv'⟩ := hu.step hist hstep
  refine ⟨cp₂, k₂, hv, ?_⟩
  rcases hadv with rfl | ⟨t, ht, hnt⟩
  · exact hadv'
  · rcases hadv' with rfl | ⟨t', ht', hnt'⟩
    · exact Or.inr ⟨t, ht, hnt⟩
    · refine Or.inr ⟨t', ht', fun hp => hnt' ?_⟩
      obtain rfl : k₁ = some t := ht
      have hmem := hv.stored.mem t' ht'
      exact passed_some_iff.mpr (Or.inr
        (hist.before_of_passed h.stored.mem hmem (hu.stored.mem t rfl) hp hnt))

/-- A route starts from any stored row that its source history follows. -/
theorem Inv.init (h : db.Holds r.taskId cp₀) :
    Inv r denote g cp₀ history db.business ⟨db, .down⟩ cp₀ none := by
  refine ⟨⟨h, rfl, nofun, ⟨rfl, rfl⟩, fun t ht hid => absurd hid (hist.fresh t ht), ?_,
    fun hm => ?_⟩, trivial⟩
  · have hnone : ∀ t ∈ history, ¬ (rowBearing t && upTo cp₀ t) = true := by
      intro t ht hc
      have := (hist.upTo_iff (k := none) rfl nofun ⟨rfl, rfl⟩ ht).mp (Bool.and_eq_true .. ▸ hc).2
      exact not_passed_none this
    rw [List.filter_eq_nil_iff.mpr hnone]
    rfl
  · obtain ⟨A, hA, hfresh⟩ := hist.start_gtids hm
    exact ⟨A, hA, fun t ht hg => absurd hg (hfresh t ht), fun t _ _ hp => absurd hp not_passed_none⟩

end Step

/-- The position of the second row is that of the first or comes after it. -/
def NotBackward (cp cp' : ReplicationCheckpoint) : Prop :=
  (cp'.file, cp'.position) = (cp.file, cp.position) ∨
    Precedes cp.mode (cp.file, cp.position) (cp'.file, cp'.position)

theorem Stored.not_backward (hist : SourceHistory denote g r.gtids cp₀ history)
    {cp' : ReplicationCheckpoint} {k' : Option ChangeTransaction}
    (h : Stored r denote g cp₀ history business₀ db cp k)
    (h' : Stored r denote g cp₀ history business₀ db' cp' k') (hadv : Advances cp₀.mode k k') :
    NotBackward cp cp' := by
  unfold NotBackward
  rw [h.mode]
  have hst := h.stands
  have hst' := h'.stands
  rcases hadv with rfl | ⟨t, ht, hnt⟩
  · left
    cases k with
    | none => rw [hst.1, hst.2, hst'.1, hst'.2]
    | some s => exact Except.ok.inj (hst'.symm.trans hst)
  · right
    obtain rfl : k' = some t := ht
    have hmem := h'.mem t rfl
    cases k with
    | none =>
      obtain ⟨p, hp, hprec⟩ := hist.after_start t hmem
      rw [← Except.ok.inj (hp.symm.trans hst'), hst.1, hst.2]
      exact hprec
    | some s =>
      obtain ⟨p, q, hp, hq, hprec⟩ := hist.before_of_passed h.mem (h.mem s rfl) hmem
        (passed_some_iff.mpr (Or.inl rfl)) hnt
      rw [← Except.ok.inj (hp.symm.trans hst), ← Except.ok.inj (hq.symm.trans hst')]
      exact hprec

/-- In every state of every run, the business rows are the effect of exactly the row-bearing
transactions up to the stored position, in order and once each, and the stored position
never moves back. -/
theorem exactly_once {s : System β} (hist : SourceHistory denote g r.gtids cp₀ history)
    (h₀ : db.Holds r.taskId cp₀) (hrun : Transition.Run (Step r history) ⟨db, .down⟩ s) :
    ∃ cp, s.db.Holds r.taskId cp ∧
      Watermark.replay r.effect db.business
        (history.filter fun t => rowBearing t && upTo cp t) = .ok s.db.business ∧
      ∀ s', Transition.Run (Step r history) s s' →
        ∃ cp', s'.db.Holds r.taskId cp' ∧ NotBackward cp cp' := by
  obtain ⟨cp, k, h, -⟩ := (Inv.init hist h₀).run hist hrun
  refine ⟨cp, h.stored.holds, h.stored.rows, fun s' hrun' => ?_⟩
  obtain ⟨cp', k', h', hadv⟩ := h.run hist hrun'
  exact ⟨cp', h'.stored.holds, h.stored.not_backward hist h'.stored hadv⟩

section Sample

/-- The first transaction of the sample source, none of whose rows are selected. -/
def filtered : ChangeTransaction :=
  sampleTransaction "3e11fa47-71ca-11e1-9e33-c80aa9429562:1" "YmlubG9nLjAwMDAwMQAAAADI" []

/-- Statements are the names of the tables they write; executing them records the names. -/
def sampleRoute : Route (List String) String where
  taskId := "orders"
  sourceUuid := "3e11fa47-71ca-11e1-9e33-c80aa9429562"
  binding := sampleBinding
  gtids := listedGtids
  sqlWithPlans t := .ok (t.changes.map fun c => (c.schema, c.table), t.changes.map (·.table))
  execute p business := .ok (business ++ p.statements)

theorem filtered_position : filePosition filtered.commitCursor = .ok ("binlog.000001", 200) := by
  decide +kernel

theorem ordered_position : filePosition ordered.commitCursor = .ok ("binlog.000001", 300) := by
  decide +kernel

theorem sample_history :
    SourceHistory listedSet (fun t => t.id.toList) listedGtids sampleRow [filtered, ordered] where
  increasing := by
    simp only [List.pairwise_cons, List.mem_cons, List.not_mem_nil, or_false, forall_eq,
      List.Pairwise.nil, and_true, false_imp_iff, implies_true]
    exact ⟨_, _, filtered_position, ordered_position, by decide⟩
  after_start := by
    simp only [List.mem_cons, List.not_mem_nil, or_false, forall_eq_or_imp, forall_eq]
    exact ⟨⟨_, filtered_position, by decide⟩, ⟨_, ordered_position, by decide⟩⟩
  distinct := by decide
  fresh := by simp [sampleRow]
  lawful _ := listedGtids_lawful
  single _ := by
    have hf : listed filtered.id.toList = [filtered.id.toList] := by decide
    have ho : listed ordered.id.toList = [ordered.id.toList] := by decide
    simp only [List.mem_cons, List.not_mem_nil, or_false, forall_eq_or_imp, forall_eq]
    constructor
    · exact congrArg some (Set.ext fun x => by rw [hf]; exact List.mem_singleton)
    · exact congrArg some (Set.ext fun x => by rw [ho]; exact List.mem_singleton)
  distinct_gtids _ := by decide
  start_gtids _ := ⟨∅, by simp [sampleRow, listedSet, listed], fun _ _ h => h⟩

theorem sample_open : openWriter ⟨some "8f0b2a10-52c6-11ee-8c99-0242ac120002", some 1, some 1⟩
    (sampleDb sampleRow) sampleRoute.taskId sampleRoute.sourceUuid sampleRoute.binding =
      .ok (sampleWriter sampleRow, sampleDb sampleRow) := by
  rfl

/-- The row after `ordered` has been committed by a writer that has observed nothing. -/
def sampleCommitted : ReplicationCheckpoint :=
  { sampleRow with
    position := 300
    gtidSet := some ordered.id
    lastTransactionId := some ordered.id
    revision := 1
    appliedTransactions := 1
    appliedRows := 1 }

theorem sample_holds : (sampleDb sampleRow).Holds sampleRoute.taskId sampleRow := rfl

theorem sample_apply : sampleRoute.apply (sampleDb sampleRow) (sampleWriter sampleRow) ordered =
    .ok (.ready ⟨sampleCommitted, 1, false⟩ ["orders"]) := by
  decide +kernel

/-- The writer that has observed `filtered`. -/
def sampleObserver : CheckpointWriter :=
  { sampleWriter sampleRow with
    observedGtids := some filtered.id, observedPosition := some ("binlog.000001", 200) }

theorem sample_observe :
    observe listedGtids (sampleWriter sampleRow) filtered = .ok sampleObserver := by
  decide +kernel

/-- The row after `ordered` has been committed by the writer that has observed `filtered`. -/
def sampleComplete : ReplicationCheckpoint :=
  { sampleCommitted with gtidSet := some (filtered.id ++ "," ++ ordered.id) }

theorem sample_apply_observed :
    sampleRoute.apply (sampleDb sampleRow) sampleObserver ordered =
      .ok (.ready ⟨sampleComplete, 1, false⟩ ["orders"]) := by
  decide +kernel

theorem sample_resumes : Resumes sampleRoute [filtered, ordered] sampleRow [filtered, ordered] :=
  ⟨List.Sublist.refl _, fun _ ht => Or.inl ht⟩

/-- The first transaction is observed; the second one fails once and is replayed. -/
theorem sample_run : Transition.Run (Step sampleRoute [filtered, ordered])
    ⟨sampleDb sampleRow, .down⟩ ⟨(sampleDb sampleRow).store "orders" sampleCommitted ["orders"],
      .streaming ((sampleWriter sampleRow).committed sampleCommitted) [] none⟩ := by
  have hretry : (classifyApplyError (.driver .connectivity)).isRetryable = true := rfl
  exact (((((Transition.Run.refl.tail (.start sample_open rfl sample_resumes)).tail
    (.observe rfl sample_observe)).tail (.deliver rfl)).tail (.failRetry hretry (by decide))).tail
    (.reopen sample_open)).tail (.commit sample_apply)

theorem exactly_once_sample : ∃ s : System (List String), ∃ cp,
    s.db.Holds sampleRoute.taskId cp ∧
      Watermark.replay sampleRoute.effect (sampleDb sampleRow).business
        ([filtered, ordered].filter fun t => rowBearing t && upTo cp t) = .ok s.db.business ∧
      ∀ s', Transition.Run (Step sampleRoute [filtered, ordered]) s s' →
        ∃ cp', s'.db.Holds sampleRoute.taskId cp' ∧ NotBackward cp cp' :=
  ⟨_, exactly_once sample_history sample_holds sample_run⟩

end Sample

end DatabaseSync.Worker
