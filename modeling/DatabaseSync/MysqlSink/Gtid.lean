import DatabaseSync.Library.Checked
import DatabaseSync.MysqlSink.Checkpoint
import Mathlib.Data.Set.Basic

/-! # GTID sets on the sink

The sink never interprets a GTID set itself; it asks the server. `Lawful` says that the
server's answers are those of set arithmetic on what the texts denote. The sets that the
writer stores are then unions of the sets it was given.
-/

namespace DatabaseSync.MysqlSink

open ChangeEvent Checked Text

variable {γ : Type} {gs : GtidServer} {denote : String → Option (Set γ)}

/-- The server computes with the sets that `denote` assigns to texts. A list may have empty
elements, so commas at its ends do not matter. -/
structure GtidServer.Lawful (gs : GtidServer) (denote : String → Option (Set γ)) : Prop where
  canonical : ∀ s c, gs.subtractEmpty s = .ok (some c) → ∃ A, denote s = some A ∧ denote c = some A
  subset : ∀ a b r A B, gs.subset a b = .ok (some r) → denote a = some A → denote b = some B →
    (r = true ↔ A ⊆ B)
  empty : denote "" = some ∅
  join : ∀ a b A B, denote a = some A → denote b = some B → denote (a ++ "," ++ b) = some (A ∪ B)
  trim : ∀ s, denote (trimMatches s ',') = denote s

namespace GtidServer.Lawful

theorem canonicalGtids_denote (h : gs.Lawful denote) {s c : String}
    (hc : canonicalGtids gs s = .ok c) : ∃ A, denote s = some A ∧ denote c = some A := by
  unfold canonicalGtids at hc
  split at hc
  case h_1 => simp at hc
  case h_2 => simp at hc
  case h_3 set hs =>
    simp only [pure_eq, Except.ok.injEq] at hc
    exact h.canonical s c (hc ▸ hs)

theorem gtidSubset_iff (h : gs.Lawful denote) {a b : String} {included : Bool} {A B : Set γ}
    (hi : gtidSubset gs a b = .ok included) (ha : denote a = some A) (hb : denote b = some B) :
    included = true ↔ A ⊆ B := by
  unfold gtidSubset at hi
  split at hi
  case h_1 => simp at hi
  case h_2 => simp at hi
  case h_3 r hs =>
    simp only [pure_eq, Except.ok.injEq] at hi
    exact h.subset a b included A B (hi ▸ hs) ha hb

theorem denote_eq_empty (h : gs.Lawful denote) {S : Set γ} (hS : denote "" = some S) : S = ∅ := by
  rw [h.empty] at hS
  exact (Option.some.inj hS).symm

/-- Joining the nonempty parts of a list denotes the union of all parts. -/
theorem intercalate_denote (h : gs.Lawful denote) {l : List String} {sets : List (Set γ)}
    (hl : List.Forall₂ (fun s S => denote s = some S) l sets) :
    denote (",".intercalate (l.filter fun s => ¬ s.isEmpty)) =
      some (sets.foldr (· ∪ ·) ∅) := by
  induction hl with
  | nil => simpa using h.empty
  | @cons s S l sets hs _ ih =>
    rw [List.foldr_cons]
    by_cases hse : s = ""
    · have hS : S = ∅ := h.denote_eq_empty (hse ▸ hs)
      rw [List.filter_cons_of_neg (by simp [hse]), ih, hS, Set.empty_union]
    · rw [List.filter_cons_of_pos (by simpa using hse)]
      rcases hrest : l.filter fun s => ¬ s.isEmpty with _ | ⟨u, rest⟩
      · rw [hrest, String.intercalate_nil] at ih
        rw [hrest, h.denote_eq_empty ih, Set.union_empty, String.intercalate_singleton, hs]
      · rw [hrest] at ih
        rw [hrest, String.intercalate_cons_cons, h.join _ _ _ _ hs ih]

/-- The list that apply assembles denotes the union of its parts. -/
theorem combinedGtids_denote (h : gs.Lawful denote) {cp : ReplicationCheckpoint}
    {observed : Option String} {id : String} {A O I : Set γ}
    (hA : denote (cp.gtidSet.getD "") = some A) (hO : denote (observed.getD "") = some O)
    (hI : denote id = some I) :
    denote (combinedGtids cp observed id) = some (A ∪ (O ∪ I)) := by
  have := h.intercalate_denote (.cons hA (.cons hO (.cons hI .nil)))
  simpa [combinedGtids] using this

end GtidServer.Lawful

section Listed

/-! A server for sets that are written as lists of single transactions. -/

/-- The nonempty elements of a comma-separated text. -/
def listed (s : List Char) : List (List Char) :=
  (s.splitOn ',').filter (· ≠ [])

def listedGtids : GtidServer where
  subtractEmpty s := .ok (some s)
  subset a b := .ok (some (decide (listed a.toList ⊆ listed b.toList)))

def listedSet (s : String) : Option (Set (List Char)) := some {g | g ∈ listed s.toList}

theorem listed_append (a b : List Char) : listed (a ++ ',' :: b) = listed a ++ listed b := by
  simp [listed, List.splitOn_append_cons_self]

theorem listed_dropWhile (l : List Char) : listed (l.dropWhile (· == ',')) = listed l := by
  induction l with
  | nil => rfl
  | cons c l ih =>
    by_cases hc : c = ','
    · subst hc
      rw [List.dropWhile_cons_of_pos (by simp), ih]
      exact (listed_append [] l).symm
    · rw [List.dropWhile_cons_of_neg (by simpa using hc)]

theorem listed_reverse_dropWhile (l : List Char) :
    listed (l.dropWhile (· == ',')).reverse = listed l.reverse := by
  induction l with
  | nil => rfl
  | cons c l ih =>
    by_cases hc : c = ','
    · subst hc
      rw [List.dropWhile_cons_of_pos (by simp), ih, List.reverse_cons]
      have := listed_append l.reverse []
      simpa [listed] using this.symm
    · rw [List.dropWhile_cons_of_neg (by simpa using hc)]

theorem listedGtids_lawful : listedGtids.Lawful listedSet where
  canonical s c h := by
    simp only [listedGtids, Except.ok.injEq, Option.some.injEq] at h
    exact ⟨_, rfl, h ▸ rfl⟩
  subset a b r A B h hA hB := by
    simp only [listedGtids, Except.ok.injEq, Option.some.injEq] at h
    simp only [listedSet, Option.some.injEq] at hA hB
    subst hA hB h
    simp [Set.subset_def, List.subset_def]
  empty := by simp [listedSet, listed]
  join a b A B hA hB := by
    simp only [listedSet, Option.some.injEq] at hA hB
    subst hA hB
    simp [listedSet, listed_append, Set.union_def]
  trim s := by
    simp [listedSet, trimMatches, listed_reverse_dropWhile, listed_dropWhile]

end Listed

end DatabaseSync.MysqlSink
