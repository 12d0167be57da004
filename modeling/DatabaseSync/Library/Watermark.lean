import Mathlib.Data.List.Sublists
import Mathlib.Data.List.Pairwise

/-! # Logs consumed up to a watermark

A log is a list whose entries are ordered by a relation `R`. A predicate on entries
says which of them a watermark has passed. Moving the watermark to the next entry
extends the passed part of the log by exactly that entry, at its end.
-/

namespace DatabaseSync.Watermark

variable {α : Type*} {R : α → α → Prop} {l rest : List α} {p q : α → Bool} {x : α}

/-- If the watermark gains exactly `x`, which every passed entry precedes, the passed
part of the log gains `x` as its last entry. -/
theorem filter_gain (hR : ∀ a b, R a b → ¬ R b a) (hl : l.Pairwise R) (hx : x ∈ l)
    (hpx : p x = false) (hq : ∀ y ∈ l, q y = true ↔ (p y = true ∨ y = x))
    (hlast : ∀ y ∈ l, p y = true → R y x) : l.filter q = l.filter p ++ [x] := by
  induction l with
  | nil => simp at hx
  | cons a l ih =>
    rw [List.pairwise_cons] at hl
    have hirr : ∀ b, ¬ R b b := fun b h => hR b b h h
    have htail : ∀ y ∈ l, q y = true ↔ (p y = true ∨ y = x) :=
      fun y hy => hq y (List.mem_cons_of_mem _ hy)
    rcases List.mem_cons.mp hx with rfl | hxl
    · -- nothing after `x` has been passed, so the filters end here
      have hp : ∀ y ∈ l, ¬ p y = true := fun y hy h =>
        hR _ _ (hl.1 y hy) (hlast y (List.mem_cons_of_mem _ hy) h)
      have hqn : ∀ y ∈ l, ¬ q y = true := by
        intro y hy h
        rcases (htail y hy).mp h with h | rfl
        · exact hp y hy h
        · exact hirr _ (hl.1 _ hy)
      rw [List.filter_cons_of_pos ((hq x (List.mem_cons_self ..)).mpr (Or.inr rfl)),
        List.filter_cons_of_neg (by simp [hpx]), List.filter_eq_nil_iff.mpr hqn,
        List.filter_eq_nil_iff.mpr hp, List.nil_append]
    · have hax : a ≠ x := by
        rintro rfl
        exact hirr _ (hl.1 _ hxl)
      have ih' := ih hl.2 hxl htail fun y hy => hlast y (List.mem_cons_of_mem _ hy)
      have ha : q a = p a := by
        have := hq a (List.mem_cons_self ..)
        simp only [hax, or_false] at this
        exact Bool.eq_iff_iff.mpr this
      by_cases hpa : p a = true
      · rw [List.filter_cons_of_pos (ha.trans hpa), List.filter_cons_of_pos hpa, ih',
          List.cons_append]
      · rw [List.filter_cons_of_neg (by rwa [ha]), List.filter_cons_of_neg hpa, ih']

/-- An asymmetric relation that orders a list is transitive on its members. -/
theorem pairwise_trans (hR : ∀ a b, R a b → ¬ R b a) (hl : l.Pairwise R) {a b c : α}
    (ha : a ∈ l) (hb : b ∈ l) (hc : c ∈ l) (hab : R a b) (hbc : R b c) : R a c := by
  have hirr : ∀ d, ¬ R d d := fun d h => hR d d h h
  obtain ⟨i, hi, rfl⟩ := List.mem_iff_getElem.mp ha
  obtain ⟨j, hj, rfl⟩ := List.mem_iff_getElem.mp hb
  obtain ⟨k, hk, rfl⟩ := List.mem_iff_getElem.mp hc
  have index {m n : ℕ} (hm : m < l.length) (hn : n < l.length) (h : R l[m] l[n]) : m < n := by
    rcases Nat.lt_trichotomy m n with hlt | rfl | hgt
    · exact hlt
    · exact absurd h (hirr _)
    · exact absurd (List.pairwise_iff_getElem.mp hl n m hn hm hgt) (hR _ _ h)
  exact List.pairwise_iff_getElem.mp hl i k hi hk ((index hi hj hab).trans (index hj hk hbc))

/-- Two members of an ordered list are equal or related one way or the other. -/
theorem pairwise_trichotomy (hl : l.Pairwise R) {a b : α} (ha : a ∈ l) (hb : b ∈ l) :
    a = b ∨ R a b ∨ R b a := by
  obtain ⟨i, hi, rfl⟩ := List.mem_iff_getElem.mp ha
  obtain ⟨j, hj, rfl⟩ := List.mem_iff_getElem.mp hb
  rcases Nat.lt_trichotomy i j with hlt | rfl | hgt
  · exact Or.inr (Or.inl (List.pairwise_iff_getElem.mp hl i j hi hj hlt))
  · exact Or.inl rfl
  · exact Or.inr (Or.inr (List.pairwise_iff_getElem.mp hl j i hj hi hgt))

/-- Where everything before a passed entry is passed as well, the passed part is an initial part
of the log. -/
theorem exists_take (hl : l.Pairwise fun a b => p b = true → p a = true) :
    ∃ n ≤ l.length, (∀ i (h : i < l.length), p l[i] = true ↔ i < n) ∧ l.filter p = l.take n := by
  induction l with
  | nil => exact ⟨0, le_rfl, nofun, rfl⟩
  | cons a l ih =>
    obtain ⟨hfirst, hrest⟩ := List.pairwise_cons.mp hl
    by_cases ha : p a = true
    · obtain ⟨n, hn, hiff, hfilter⟩ := ih hrest
      refine ⟨n + 1, by simpa using hn, fun i hi => ?_, ?_⟩
      · cases i with
        | zero => simpa using ha
        | succ i => simpa using hiff i (by simpa using hi)
      · rw [List.filter_cons_of_pos ha, hfilter, List.take_succ_cons]
    · have hnone : ∀ b ∈ a :: l, ¬ p b = true := by
        rintro b hb hpb
        rcases List.mem_cons.mp hb with rfl | hb
        · exact ha hpb
        · exact ha (hfirst b hb hpb)
      refine ⟨0, Nat.zero_le _, fun i hi => ?_, List.filter_eq_nil_iff.mpr hnone⟩
      exact iff_of_false (hnone _ (List.getElem_mem hi)) (Nat.not_lt_zero i)

/-- The state after the effects of a list of entries, in order. -/
def replay {ε β : Type} (effect : β → α → Except ε β) (s : β) (l : List α) : Except ε β :=
  l.foldlM effect s

/-- The effect of the entry that the watermark gains continues the replayed ones. -/
theorem replay_gain {ε β : Type} {effect : β → α → Except ε β} {s b b' : β}
    (h : l.filter q = l.filter p ++ [x]) (hb : replay effect s (l.filter p) = .ok b)
    (hx : effect b x = .ok b') : replay effect s (l.filter q) = .ok b' := by
  unfold replay at *
  rw [h, List.foldlM_append, hb]
  simp [Bind.bind, Except.bind, hx, Pure.pure, Except.pure]

end DatabaseSync.Watermark
