import DatabaseSync.Library.Keyset
import Mathlib.Data.List.Nodup
import Mathlib.Order.Basic

/-! # Sorted lists

Sorting by keys is stable: elements with one key keep their order, so that the order of the elements
before matters exactly if two of them with one key differ. A list is sorted by keys and neighbours
with one key are merged. What is left has every key once, in ascending order.
-/

namespace DatabaseSync.Sorting

open Keyset

variable {α κ : Type}

/-! ## Sorting by keys -/

section SortByKey

variable [LinearOrder κ] {key : α → κ} {l l' : List α} {a b : α}

/-- The order of the elements does not matter if no two with one key differ. -/
theorem sortByKey_eq_of_perm (hperm : l.Perm l')
    (h : ∀ a ∈ l, ∀ b ∈ l, key a = key b → a = b) : sortByKey key l = sortByKey key l' := by
  have hsorted : (sortByKey key l).Perm (sortByKey key l') :=
    (sortByKey_perm l).trans (hperm.trans (sortByKey_perm l').symm)
  refine hsorted.eq_of_pairwise (fun a b ha hb hab hba => ?_) (sortByKey_pairwise l)
    (sortByKey_pairwise l')
  have hmem := (sortByKey_perm l).mem_iff.mp ha
  have hmem' := hperm.mem_iff.mpr ((sortByKey_perm l').mem_iff.mp hb)
  exact h a hmem b hmem' (le_antisymm hab hba)

theorem sortByKey_eq_of_nodup (hperm : l.Perm l') (h : (l.map key).Nodup) :
    sortByKey key l = sortByKey key l' :=
  sortByKey_eq_of_perm hperm fun _ ha _ hb hkey => List.inj_on_of_nodup_map h ha hb hkey

/-- The elements with one key keep their order. -/
theorem filter_sortByKey (key : α → κ) (k : κ) (l : List α) :
    (sortByKey key l).filter (fun a => key a = k) = l.filter fun a => key a = k := by
  have hpairs : (l.filter fun a => key a = k).Pairwise fun a b => key a ≤ key b :=
    List.pairwise_of_forall_mem_list fun a ha b hb => by
      have hkey := of_decide_eq_true (List.mem_filter.mp ha).2
      have hkey' := of_decide_eq_true (List.mem_filter.mp hb).2
      rw [hkey, hkey']
  have hsublist := (List.sublist_insertionSort hpairs List.filter_sublist).filter fun a => key a = k
  rw [List.filter_filter] at hsublist
  simp only [Bool.and_self] at hsublist
  exact (hsublist.eq_of_length ((sortByKey_perm l).filter _).length_eq.symm).symm

/-- Two elements with one key that sorting puts in the same order whichever comes first. -/
theorem eq_of_sortByKey_swap (hkey : key a = key b)
    (h : sortByKey key (a :: b :: l) = sortByKey key (b :: a :: l)) : a = b := by
  have hfilter := congrArg (List.filter fun c => key c = key b) h
  simp only [filter_sortByKey, List.filter_cons, hkey, decide_true, if_true] at hfilter
  exact (List.cons_eq_cons.mp hfilter).1

/-- A map that keeps the keys keeps the order. -/
theorem map_sortByKey {β : Type} {key' : β → κ} {f : α → β} (h : ∀ a, key' (f a) = key a)
    (l : List α) : (sortByKey key l).map f = sortByKey key' (l.map f) :=
  List.map_insertionSort (fun a b => key a ≤ key b) (fun a b => key' a ≤ key' b) f l
    fun a _ b _ => by rw [h a, h b]

theorem sortByKey_sortByKey (l : List α) : sortByKey key (sortByKey key l) = sortByKey key l :=
  List.Pairwise.insertionSort_eq (sortByKey_pairwise l)

/-- An element of a window of two is its neighbour. -/
def repeats [DecidableEq α] (l : List α) : Bool := (l.zip l.tail).any fun p => p.1 = p.2

theorem repeats_of_nodup [DecidableEq α] (h : l.Nodup) : repeats l = false := by
  rw [repeats, List.any_eq_false]
  induction l with
  | nil => simp
  | cons a l ih =>
    cases l with
    | nil => simp
    | cons b l =>
      obtain ⟨hne, hrest⟩ := List.nodup_cons.mp h
      rintro p hp
      rcases List.mem_cons.mp hp with rfl | hp
      · simpa using fun heq : a = b => hne (heq ▸ List.mem_cons_self)
      · exact ih hrest p hp

end SortByKey

/-! ## Merging neighbours -/

/-- The elements after a last one, of neighbours that are the same the first one only. -/
def dedupAfter (same : α → α → Bool) (last : α) : List α → List α
  | [] => []
  | a :: l => if same a last then dedupAfter same last l else a :: dedupAfter same a l

/-- `Vec::dedup_by` -/
def dedupBy (same : α → α → Bool) : List α → List α
  | [] => []
  | a :: l => a :: dedupAfter same a l

variable [LinearOrder κ] {key : α → κ} {same : α → α → Bool} {l : List α} {last : α}

/-- No element of a window of two is before its neighbour. -/
def ascending (keys : List κ) : Bool := (keys.zip keys.tail).all fun p => p.1 < p.2

theorem ascending_iff {keys : List κ} : ascending keys = true ↔ keys.Pairwise (· < ·) := by
  rw [← List.isChain_iff_pairwise]
  induction keys with
  | nil => simp [ascending]
  | cons a keys ih =>
    cases keys with
    | nil => simp [ascending]
    | cons b keys =>
      rw [List.isChain_cons_cons, ← ih]
      simp [ascending]

/-- Merging neighbours after a last element leaves the keys above its key. -/
theorem dedupAfter_keys (hsame : ∀ a b, same a b = true ↔ key a = key b)
    (hsorted : (last :: l).Pairwise fun a b => key a ≤ key b) :
    ((dedupAfter same last l).map key).Pairwise (· < ·) ∧
      ∀ k, k ∈ (dedupAfter same last l).map key ↔ k ∈ l.map key ∧ key last < k := by
  induction l generalizing last with
  | nil => simp [dedupAfter]
  | cons a l ih =>
    obtain ⟨hlast, hrest⟩ := List.pairwise_cons.mp hsorted
    obtain ⟨hfirst, htail⟩ := List.pairwise_cons.mp hrest
    have hle := hlast a List.mem_cons_self
    rw [dedupAfter]
    by_cases heq : same a last = true
    · have hkey := (hsame a last).mp heq
      rw [if_pos heq]
      obtain ⟨hpairs, hmem⟩ := ih (List.pairwise_cons.mpr
        ⟨fun b hb => hlast b (List.mem_cons_of_mem a hb), htail⟩)
      refine ⟨hpairs, fun k => ?_⟩
      rw [hmem k, List.map_cons, List.mem_cons]
      constructor
      · rintro ⟨hk, hlt⟩
        exact ⟨.inr hk, hlt⟩
      · rintro ⟨rfl | hk, hlt⟩
        · exact absurd hkey.symm (ne_of_lt hlt)
        · exact ⟨hk, hlt⟩
    · have hlt : key last < key a :=
        lt_of_le_of_ne hle fun hkey => heq ((hsame a last).mpr hkey.symm)
      rw [if_neg heq]
      obtain ⟨hpairs, hmem⟩ := ih hrest
      rw [List.map_cons]
      refine ⟨List.pairwise_cons.mpr ⟨fun k hk => ((hmem k).mp hk).2, hpairs⟩, fun k => ?_⟩
      rw [List.mem_cons, List.map_cons, List.mem_cons, hmem k]
      constructor
      · rintro (rfl | ⟨hk, hbelow⟩)
        · exact ⟨.inl rfl, hlt⟩
        · exact ⟨.inr hk, hlt.trans hbelow⟩
      · rintro ⟨rfl | hk, -⟩
        · exact .inl rfl
        · obtain ⟨b, hb, rfl⟩ := List.mem_map.mp hk
          rcases eq_or_lt_of_le (hfirst b hb) with hsame | hbelow
          · exact .inl hsame.symm
          · exact .inr ⟨hk, hbelow⟩

/-- Sorting and merging leaves every key once, in ascending order. -/
theorem dedupBy_keys (hsame : ∀ a b, same a b = true ↔ key a = key b)
    (hsorted : l.Pairwise fun a b => key a ≤ key b) :
    ((dedupBy same l).map key).Pairwise (· < ·) ∧
      ∀ k, k ∈ (dedupBy same l).map key ↔ k ∈ l.map key := by
  cases l with
  | nil => simp [dedupBy]
  | cons a l =>
    obtain ⟨hpairs, hmem⟩ := dedupAfter_keys hsame hsorted
    have hfirst := (List.pairwise_cons.mp hsorted).1
    rw [dedupBy, List.map_cons]
    refine ⟨List.pairwise_cons.mpr ⟨fun k hk => ((hmem k).mp hk).2, hpairs⟩, fun k => ?_⟩
    rw [List.mem_cons, List.map_cons, List.mem_cons, hmem k]
    constructor
    · rintro (rfl | ⟨hk, -⟩)
      · exact .inl rfl
      · exact .inr hk
    · rintro (rfl | hk)
      · exact .inl rfl
      · obtain ⟨b, hb, rfl⟩ := List.mem_map.mp hk
        rcases eq_or_lt_of_le (hfirst b hb) with hsame | hbelow
        · exact .inl hsame.symm
        · exact .inr ⟨hk, hbelow⟩

/-- The elements sorted by their keys, one for each key. -/
def sortedOnce (same : α → α → Bool) (key : α → κ) (l : List α) : List α :=
  dedupBy same (l.insertionSort fun a b => key a ≤ key b)

theorem sortedOnce_keys (hsame : ∀ a b, same a b = true ↔ key a = key b) :
    ((sortedOnce same key l).map key).Pairwise (· < ·) ∧
      ∀ k, k ∈ (sortedOnce same key l).map key ↔ k ∈ l.map key := by
  have htotal : Std.Total fun a b : α => key a ≤ key b := ⟨fun a b => le_total _ _⟩
  have htrans : IsTrans α fun a b => key a ≤ key b := ⟨fun _ _ _ => le_trans⟩
  obtain ⟨hpairs, hmem⟩ := dedupBy_keys hsame
    (List.pairwise_insertionSort (fun a b => key a ≤ key b) l)
  refine ⟨hpairs, fun k => ?_⟩
  rw [sortedOnce, hmem k]
  exact ((List.perm_insertionSort (fun a b => key a ≤ key b) l).map key).mem_iff

/-- Ascending lists with the same elements are equal. -/
theorem eq_of_ascending {keys keys' : List κ} (h : keys.Pairwise (· < ·))
    (h' : keys'.Pairwise (· < ·)) (hmem : ∀ k, k ∈ keys ↔ k ∈ keys') : keys = keys' := by
  have hperm : keys.Perm keys' :=
    (List.perm_ext_iff_of_nodup (h.imp ne_of_lt) (h'.imp ne_of_lt)).mpr hmem
  exact hperm.eq_of_pairwise (fun a b _ _ hab hba => absurd (hab.trans hba) (lt_irrefl a)) h h'

end DatabaseSync.Sorting
