import Mathlib.Data.Set.Basic
import Mathlib.Order.Interval.Set.Defs
import Mathlib.Order.Lattice

/-! # Sets of numbers as lists of intervals

A list of intervals that are in order and leave a gap between each other is determined by the
numbers that it covers.
-/

namespace DatabaseSync.Intervals

variable {l l' : List (ℕ × ℕ)} {p q : ℕ × ℕ} {n : ℕ}

/-- The numbers in some interval. -/
def covered (l : List (ℕ × ℕ)) : Set ℕ := {n | ∃ p ∈ l, p.1 ≤ n ∧ n ≤ p.2}

/-- No interval is empty, and between two of them there is a number. -/
structure Separated (l : List (ℕ × ℕ)) : Prop where
  le : ∀ p ∈ l, p.1 ≤ p.2
  gap : l.Pairwise fun p q => p.2 + 1 < q.1

theorem mem_covered_cons : n ∈ covered (p :: l) ↔ (p.1 ≤ n ∧ n ≤ p.2) ∨ n ∈ covered l := by
  simp [covered]

theorem Separated.nil : Separated [] := ⟨by simp, List.Pairwise.nil⟩

theorem separated_cons :
    Separated (p :: l) ↔ p.1 ≤ p.2 ∧ (∀ q ∈ l, p.2 + 1 < q.1) ∧ Separated l := by
  constructor
  · rintro ⟨hle, hgap⟩
    obtain ⟨hhead, htail⟩ := List.pairwise_cons.mp hgap
    exact ⟨hle p List.mem_cons_self, hhead, fun q hq => hle q (List.mem_cons_of_mem p hq), htail⟩
  · rintro ⟨hp, hhead, hle, hgap⟩
    refine ⟨?_, List.pairwise_cons.mpr ⟨hhead, hgap⟩⟩
    rintro q (_ | ⟨_, hq⟩)
    · exact hp
    · exact hle q hq

/-- Nothing up to the gap after the first interval is covered by the others. -/
theorem Separated.not_mem_tail (h : Separated (p :: l)) (hn : n ≤ p.2 + 1) : n ∉ covered l := by
  obtain ⟨-, hhead, -⟩ := separated_cons.mp h
  rintro ⟨q, hq, hlow, -⟩
  have hgap := hhead q hq
  omega

/-- The first interval begins with the first number that is covered. -/
theorem Separated.first_le (h : Separated (p :: l)) (hn : n ∈ covered (p :: l)) : p.1 ≤ n := by
  obtain ⟨hle, -⟩ := separated_cons.mp h
  rcases mem_covered_cons.mp hn with ⟨hlow, -⟩ | htail
  · exact hlow
  · by_contra hlt
    exact h.not_mem_tail (by omega) htail

theorem Separated.first_mem (h : Separated (p :: l)) : p.1 ∈ covered (p :: l) :=
  mem_covered_cons.mpr (.inl ⟨le_rfl, (separated_cons.mp h).1⟩)

/-- The first interval of one list ends no later than that of another which covers as much. -/
theorem Separated.last_le (h : Separated (p :: l)) (hfirst : p.1 = q.1)
    (hset : covered (p :: l) = covered (q :: l')) : q.2 ≤ p.2 := by
  have hle := (separated_cons.mp h).1
  by_contra hlt
  have hmem : p.2 + 1 ∈ covered (q :: l') := mem_covered_cons.mpr (.inl ⟨by omega, by omega⟩)
  rw [← hset] at hmem
  rcases mem_covered_cons.mp hmem with ⟨-, hhigh⟩ | htail
  · omega
  · exact h.not_mem_tail le_rfl htail

theorem Separated.covered_tail (h : Separated (p :: l)) :
    covered l = {n ∈ covered (p :: l) | p.2 < n} := by
  ext n
  constructor
  · intro hn
    refine ⟨mem_covered_cons.mpr (.inr hn), ?_⟩
    by_contra hle
    exact h.not_mem_tail (by omega) hn
  · rintro ⟨hn, hlt⟩
    rcases mem_covered_cons.mp hn with ⟨-, hle⟩ | htail
    · omega
    · exact htail

/-- Lists of separated intervals that cover the same numbers are equal. -/
theorem Separated.ext (h : Separated l) (h' : Separated l') (hset : covered l = covered l') :
    l = l' := by
  induction l generalizing l' with
  | nil =>
    cases l' with
    | nil => rfl
    | cons q l' =>
      have hmem := h'.first_mem
      rw [← hset] at hmem
      obtain ⟨_, hnil, -⟩ := hmem
      cases hnil
  | cons p l ih =>
    cases l' with
    | nil =>
      have hmem := h.first_mem
      rw [hset] at hmem
      obtain ⟨_, hnil, -⟩ := hmem
      cases hnil
    | cons q l' =>
      have hfirst : p.1 = q.1 := by
        apply le_antisymm
        · exact h.first_le (hset ▸ h'.first_mem)
        · exact h'.first_le (hset ▸ h.first_mem)
      have hlast : p.2 = q.2 :=
        le_antisymm (h'.last_le hfirst.symm hset.symm) (h.last_le hfirst hset)
      obtain rfl : p = q := Prod.ext hfirst hlast
      congr 1
      apply ih (separated_cons.mp h).2.2 (separated_cons.mp h').2.2
      rw [h.covered_tail, h'.covered_tail, hset]

end DatabaseSync.Intervals
