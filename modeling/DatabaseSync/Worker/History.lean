import DatabaseSync.Worker.Recovery

/-! # Source histories and what a checkpoint has passed

The source contract on the transactions after the starting checkpoint, and the place of a
checkpoint in such a history: at its start, or at one of its transactions.
-/

namespace DatabaseSync.Worker

open ChangeEvent MysqlSink

variable {β σ γ : Type}

/-- The commit position of the first transaction precedes that of the second. -/
def Before (mode : String) (t u : ChangeTransaction) : Prop :=
  ∃ p q, filePosition t.commitCursor = .ok p ∧ filePosition u.commitCursor = .ok q ∧
    Precedes mode p q

theorem Before.asymm {m : String} {t u : ChangeTransaction} (h : Before m t u) :
    ¬ Before m u t := by
  rintro ⟨p', q', hp', hq', h'⟩
  obtain ⟨p, q, hp, hq, h⟩ := h
  rw [hp, Except.ok.injEq] at hq'
  rw [hq, Except.ok.injEq] at hp'
  subst hq' hp'
  exact h.asymm h'

/-- The transactions that the source commits after `cp₀`, in order. The decoder names a
transaction by its GTID or by the position of its first event, so identities are distinct. -/
structure SourceHistory (denote : String → Option (Set γ)) (g : ChangeTransaction → γ)
    (gtids : GtidServer) (cp₀ : ReplicationCheckpoint) (history : List ChangeTransaction) :
    Prop where
  increasing : history.Pairwise (Before cp₀.mode)
  after_start : ∀ t ∈ history, ∃ p, filePosition t.commitCursor = .ok p ∧
    Precedes cp₀.mode (cp₀.file, cp₀.position) p
  distinct : history.Pairwise fun t u => t.id ≠ u.id
  fresh : ∀ t ∈ history, cp₀.lastTransactionId ≠ some t.id
  lawful : cp₀.mode = "gtid" → gtids.Lawful denote
  single : cp₀.mode = "gtid" → ∀ t ∈ history, denote t.id = some {g t}
  distinct_gtids : cp₀.mode = "gtid" → history.Pairwise fun t u => g t ≠ g u
  start_gtids : cp₀.mode = "gtid" →
    ∃ A, denote (cp₀.gtidSet.getD "") = some A ∧ ∀ t ∈ history, g t ∉ A

/-- A pairwise difference of images makes a function injective on the list. -/
theorem eq_of_pairwise_ne {α δ : Type} {f : α → δ} {l : List α}
    (h : l.Pairwise fun a b => f a ≠ f b) {a b : α} (ha : a ∈ l) (hb : b ∈ l) (hab : f a = f b) :
    a = b := by
  rcases Watermark.pairwise_trichotomy h ha hb with rfl | hne | hne
  · rfl
  · exact absurd hab hne
  · exact absurd hab.symm hne

/-- A checkpoint stands at the start of the history or at one of its transactions. -/
def StandsAt (cp₀ cp : ReplicationCheckpoint) : Option ChangeTransaction → Prop
  | none => cp.file = cp₀.file ∧ cp.position = cp₀.position
  | some s => filePosition s.commitCursor = .ok (cp.file, cp.position)

/-- A checkpoint at `k` has passed the transaction. -/
def Passed (mode : String) (k : Option ChangeTransaction) (t : ChangeTransaction) : Prop :=
  ∃ s ∈ k, t = s ∨ Before mode t s

@[simp]
theorem passed_some_iff {mode : String} {s t : ChangeTransaction} :
    Passed mode (some s) t ↔ t = s ∨ Before mode t s := by
  simp [Passed]

@[simp]
theorem not_passed_none {mode : String} {t : ChangeTransaction} : ¬ Passed mode none t := by
  simp [Passed]

namespace SourceHistory

variable {denote : String → Option (Set γ)} {g : ChangeTransaction → γ} {gtids : GtidServer}
  {cp₀ cp : ReplicationCheckpoint} {history : List ChangeTransaction}
  {k : Option ChangeTransaction} {s t u v : ChangeTransaction}

variable (hist : SourceHistory denote g gtids cp₀ history)
include hist

theorem trans (ht : t ∈ history) (hu : u ∈ history) (hv : v ∈ history)
    (htu : Before cp₀.mode t u) (huv : Before cp₀.mode u v) : Before cp₀.mode t v :=
  Watermark.pairwise_trans (fun _ _ => Before.asymm) hist.increasing ht hu hv htu huv

theorem trichotomy (ht : t ∈ history) (hu : u ∈ history) :
    t = u ∨ Before cp₀.mode t u ∨ Before cp₀.mode u t :=
  Watermark.pairwise_trichotomy hist.increasing ht hu

/-- The stored position tells exactly which transactions have been passed. -/
theorem upTo_iff (hmode : cp.mode = cp₀.mode) (hk : ∀ s ∈ k, s ∈ history)
    (hst : StandsAt cp₀ cp k) (ht : t ∈ history) : upTo cp t = true ↔ Passed cp₀.mode k t := by
  obtain ⟨p, hp, hstart⟩ := hist.after_start t ht
  have horder : transactionOrder cp t.commitCursor =
      compareCheckpointPosition (some cp₀.mode) p.1 p.2 cp.file cp.position := by
    simp [transactionOrder, hp, hmode]
  cases k with
  | none =>
    obtain ⟨hf, hpos⟩ := hst
    rw [hf, hpos, hstart] at horder
    simp [upTo, horder]
  | some s =>
    rw [passed_some_iff]
    rcases hist.trichotomy ht (hk s rfl) with rfl | h | h
    · obtain rfl : p = (cp.file, cp.position) := Except.ok.inj (hp.symm.trans hst)
      rw [compareCheckpointPosition_self hstart] at horder
      simp [upTo, horder]
    · obtain ⟨p', q, hp', hq, hpq⟩ := h
      obtain rfl : p' = p := Except.ok.inj (hp'.symm.trans hp)
      obtain rfl : q = (cp.file, cp.position) := Except.ok.inj (hq.symm.trans hst)
      rw [compareCheckpointPosition_swap hpq] at horder
      exact iff_of_true (by simp [upTo, horder]) (Or.inr ⟨p', _, hp, hst, hpq⟩)
    · have hn : ¬ (t = s ∨ Before cp₀.mode t s) := by
        rintro (rfl | h')
        · exact h.asymm h
        · exact h.asymm h'
      obtain ⟨q, p', hq, hp', hqp⟩ := h
      obtain rfl : p' = p := Except.ok.inj (hp'.symm.trans hp)
      obtain rfl : q = (cp.file, cp.position) := Except.ok.inj (hq.symm.trans hst)
      rw [hqp] at horder
      exact iff_of_false (by simp [upTo, horder]) hn

/-- A transaction ordered after the stored position has not been passed. -/
theorem not_passed_of_gt (hmode : cp.mode = cp₀.mode) (hk : ∀ s ∈ k, s ∈ history)
    (hst : StandsAt cp₀ cp k) (ht : t ∈ history)
    (hgt : transactionOrder cp t.commitCursor = .ok .gt) : ¬ Passed cp₀.mode k t := by
  rw [← hist.upTo_iff hmode hk hst ht]
  simp [upTo, hgt]

/-- What has been passed precedes what has not. -/
theorem before_of_passed (hk : ∀ s ∈ k, s ∈ history) (ht : t ∈ history) (hu : u ∈ history)
    (hpt : Passed cp₀.mode k t) (hpu : ¬ Passed cp₀.mode k u) : Before cp₀.mode t u := by
  obtain ⟨s, hs, h⟩ := hpt
  obtain rfl : k = some s := hs
  rw [passed_some_iff, not_or] at hpu
  have hsu : Before cp₀.mode s u := by
    rcases hist.trichotomy hu (hk s rfl) with heq | hb | hb
    · exact absurd heq hpu.1
    · exact absurd hb hpu.2
    · exact hb
  rcases h with rfl | h
  · exact hsu
  · exact hist.trans ht (hk s rfl) hu h hsu

end SourceHistory

end DatabaseSync.Worker
