import DatabaseSync.Library.Checked
import DatabaseSync.MysqlSink.Position

/-! # The order of checkpoint positions

The comparison of positions is partial: files of different histories do not compare. Where
it is defined it is antisymmetric.
-/

namespace DatabaseSync.MysqlSink

open ChangeEvent Checked

variable {mode : Option String} {a b : String} {ap bp : ℕ} {o : Ordering}

theorem comparePosition_swap (h : comparePosition a ap b bp = .ok o) :
    comparePosition b bp a ap = .ok o.swap := by
  unfold comparePosition at *
  by_cases hab : a = b
  · simp only [hab, if_true, pure_eq, Except.ok.injEq] at h ⊢
    rw [← h, Nat.compare_swap]
  · simp only [if_neg hab, if_neg (Ne.symm hab), throw_eq, pure_eq, error_bind, bind_eq_ok,
      guard_eq_ok, Except.ok.injEq] at h ⊢
    obtain ⟨p, hp, q, hq, hpre, rfl⟩ := h
    refine ⟨q, hq, p, hp, fun h => hpre fun he => h he.symm, ?_⟩
    rw [Ordering.swap_then, Nat.compare_swap, Nat.compare_swap]

theorem compareCheckpointPosition_swap (h : compareCheckpointPosition mode a ap b bp = .ok o) :
    compareCheckpointPosition mode b bp a ap = .ok o.swap := by
  unfold compareCheckpointPosition at *
  by_cases hmode : mode = some "postgresql_lsn"
  · simp only [hmode, if_true, throw_eq, pure_eq, error_bind, bind_eq_ok, guard_eq_ok,
      Except.ok.injEq] at h ⊢
    obtain ⟨m, hm, n, hn, hmn, rfl⟩ := h
    exact ⟨n, hn, m, hm, fun h => hmn h.symm, (Nat.compare_swap _ _).symm⟩
  · rw [if_neg hmode] at h ⊢
    exact comparePosition_swap h

/-- A position that compares with another one is equal to itself. -/
theorem compareCheckpointPosition_self (h : compareCheckpointPosition mode a ap b bp = .ok o) :
    compareCheckpointPosition mode a ap a ap = .ok .eq := by
  unfold compareCheckpointPosition comparePosition at *
  by_cases hmode : mode = some "postgresql_lsn"
  · simp only [hmode, if_true, throw_eq, pure_eq, error_bind, bind_eq_ok, guard_eq_ok,
      Except.ok.injEq] at h ⊢
    obtain ⟨m, hm, n, hn, hmn, -⟩ := h
    exact ⟨m, hm, m, hm, by simpa using fun h => hmn (Or.inl h), by simp⟩
  · simp [hmode]

/-- The first position precedes the second one in a checkpoint of the given mode. -/
def Precedes (mode : String) (p q : String × ℕ) : Prop :=
  compareCheckpointPosition (some mode) q.1 q.2 p.1 p.2 = .ok .gt

instance (mode : String) (p q : String × ℕ) : Decidable (Precedes mode p q) :=
  inferInstanceAs (Decidable (_ = _))

theorem Precedes.asymm {m : String} {p q : String × ℕ} (h : Precedes m p q) : ¬ Precedes m q p := by
  intro h'
  have := compareCheckpointPosition_swap h
  rw [Precedes, this] at h'
  simp at h'

end DatabaseSync.MysqlSink
