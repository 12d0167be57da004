import DatabaseSync.Library.Checked
import Mathlib.Algebra.Order.Ring.Nat
import Mathlib.Data.List.Dedup
import Mathlib.Logic.Relation

/-! # Searches of a graph

A graph is given by a table of nodes under keys and by the keys that a node refers to. One search
visits a node and then what it refers to, the other one keeps a stack of keys. Both find what is
reached and stop at a key that is not in the table.
-/

namespace DatabaseSync.Search

open Checked Relation

variable {κ ν : Type}

inductive SearchError (κ : Type)
  | unfinished
  | missing (key : κ)
deriving DecidableEq, Repr

/-- The keys that are seen and the nodes that are found, the last key first and the first node
first. -/
structure Trail (κ ν : Type) where
  seen : List κ
  found : List ν

section

variable [DecidableEq κ] (lookup : κ → Option ν) (next : ν → List κ)

/-- Visit a key, to a depth of nodes. -/
def visit : ℕ → κ → Trail κ ν → Except (SearchError κ) (Trail κ ν)
  | 0, _, _ => .error .unfinished
  | depth + 1, key, trail =>
    if key ∈ trail.seen then .ok trail
    else
      match lookup key with
      | none => .error (.missing key)
      | some node =>
        (next node).foldlM (fun trail key => visit depth key trail)
          ⟨key :: trail.seen, trail.found ++ [node]⟩

/-- Take keys from a stack, for a number of steps. -/
def explore : ℕ → List κ → List κ → Except (SearchError κ) (List κ)
  | 0, _, _ => .error .unfinished
  | _ + 1, seen, [] => .ok seen
  | steps + 1, seen, key :: pending =>
    if key ∈ seen then explore steps seen pending
    else
      match lookup key with
      | none => .error (.missing key)
      | some node => explore steps (key :: seen) ((next node).reverse ++ pending)

end

section

variable (lookup : κ → Option ν) (next : ν → List κ)

/-- A node refers to a key. -/
def Edge (a b : κ) : Prop := ∃ node, lookup a = some node ∧ b ∈ next node

/-- Keys that are reached from a key. -/
def Reaches : κ → κ → Prop := ReflTransGen (Edge lookup next)

end

variable {lookup : κ → Option ν} {next : ν → List κ}

/-! ## What a search has seen -/

/-- What lies between two stages of a search: the keys that are new are in the table, are reached
from given keys, and what their nodes refer to is seen. -/
structure Grown (lookup : κ → Option ν) (next : ν → List κ) (keys before after : List κ) :
    Prop where
  subset : before ⊆ after
  closed : ∀ a ∈ after, a ∉ before → ∃ node, lookup a = some node ∧ next node ⊆ after
  reached : ∀ a ∈ after, a ∉ before → ∃ key ∈ keys, Reaches lookup next key a
  nodup : before.Nodup → after.Nodup

section

variable {keys before middle after : List κ} {key : κ}

theorem Grown.refl : Grown lookup next keys before before where
  subset := List.Subset.refl _
  closed _ ha hnot := absurd ha hnot
  reached _ ha hnot := absurd ha hnot
  nodup := id

theorem Grown.mono {keys' : List κ} (h : Grown lookup next keys before after)
    (hsub : keys ⊆ keys') : Grown lookup next keys' before after where
  subset := h.subset
  closed := h.closed
  reached a ha hnot := by
    obtain ⟨key, hkey, hreach⟩ := h.reached a ha hnot
    exact ⟨key, hsub hkey, hreach⟩
  nodup := h.nodup

theorem Grown.trans (h : Grown lookup next keys before middle)
    (h' : Grown lookup next keys middle after) : Grown lookup next keys before after where
  subset := List.Subset.trans h.subset h'.subset
  closed a ha hnot := by
    by_cases hmiddle : a ∈ middle
    · obtain ⟨node, hnode, hnext⟩ := h.closed a hmiddle hnot
      exact ⟨node, hnode, List.Subset.trans hnext h'.subset⟩
    · exact h'.closed a ha hmiddle
  reached a ha hnot := by
    by_cases hmiddle : a ∈ middle
    · exact h.reached a hmiddle hnot
    · exact h'.reached a ha hmiddle
  nodup := h'.nodup ∘ h.nodup

/-- A key is seen and then what its node refers to. -/
theorem Grown.node {node : ν} (hkey : key ∉ before) (hnode : lookup key = some node)
    (hnext : next node ⊆ after) (h : Grown lookup next (next node) (key :: before) after) :
    Grown lookup next [key] before after where
  subset a ha := h.subset (List.mem_cons_of_mem key ha)
  closed a ha hnot := by
    by_cases hsame : a = key
    · subst hsame
      exact ⟨node, hnode, hnext⟩
    · exact h.closed a ha (by simp [hsame, hnot])
  reached a ha hnot := by
    refine ⟨key, List.mem_singleton.mpr rfl, ?_⟩
    by_cases hsame : a = key
    · subst hsame
      exact ReflTransGen.refl
    · obtain ⟨b, hb, hreach⟩ := h.reached a ha (by simp [hsame, hnot])
      exact ReflTransGen.head ⟨node, hnode, hb⟩ hreach
  nodup hbefore := h.nodup (List.nodup_cons.mpr ⟨hkey, hbefore⟩)

/-- A closed set of keys has everything that its keys reach. -/
theorem reaches_closed {set : List κ} (hclosed : ∀ a ∈ set, ∀ node, lookup a = some node →
    next node ⊆ set) {a b : κ} (ha : a ∈ set) (h : Reaches lookup next a b) : b ∈ set := by
  induction h with
  | refl => exact ha
  | tail _ hedge ih =>
    obtain ⟨node, hnode, hmem⟩ := hedge
    exact hclosed _ ih node hnode hmem

/-- From nothing, a search sees the keys that are reached, and all of them are in the table. -/
theorem Grown.mem_iff (h : Grown lookup next [key] [] after) (hkey : key ∈ after) {a : κ} :
    a ∈ after ↔ Reaches lookup next key a := by
  constructor
  · intro ha
    obtain ⟨b, hb, hreach⟩ := h.reached a ha List.not_mem_nil
    obtain rfl := List.mem_singleton.mp hb
    exact hreach
  · intro hreach
    refine reaches_closed ?_ hkey hreach
    intro b hb node hnode
    obtain ⟨node', hnode', hnext⟩ := h.closed b hb List.not_mem_nil
    obtain rfl := Option.some.inj (hnode.symm.trans hnode')
    exact hnext

end

/-! ## Visits -/

/-- The nodes that are found stand under the keys that are seen, in their order. -/
def Trail.Matches (lookup : κ → Option ν) (trail : Trail κ ν) : Prop :=
  List.Forall₂ (fun key node => lookup key = some node) trail.seen.reverse trail.found

theorem Trail.Matches.push {key : κ} {node : ν} {trail : Trail κ ν} (h : trail.Matches lookup)
    (hnode : lookup key = some node) :
    Trail.Matches lookup ⟨key :: trail.seen, trail.found ++ [node]⟩ := by
  rw [Matches, List.reverse_cons]
  exact List.rel_append h (.cons hnode .nil)

section

variable [DecidableEq κ] {depth : ℕ} {key : κ} {keys : List κ} {trail trail' : Trail κ ν}

/-- A visit sees its key and finds the nodes of what is new. -/
theorem visit_grown (h : visit lookup next depth key trail = .ok trail') :
    Grown lookup next [key] trail.seen trail'.seen ∧ key ∈ trail'.seen ∧
      (trail.Matches lookup → trail'.Matches lookup) := by
  induction depth generalizing key trail trail' with
  | zero => cases h
  | succ depth ih =>
    rw [visit] at h
    split at h
    · next hseen =>
      obtain rfl := Except.ok.inj h
      exact ⟨.refl, hseen, id⟩
    · next hkey =>
      split at h
      · cases h
      · next node hnode =>
        -- The rest of the references, after those that are visited.
        have hfold : ∀ keys trail trail', List.foldlM
            (fun trail key => visit lookup next depth key trail) trail keys = .ok trail' →
            Grown lookup next keys trail.seen trail'.seen ∧ keys ⊆ trail'.seen ∧
              (trail.Matches lookup → trail'.Matches lookup) := by
          intro keys
          induction keys with
          | nil =>
            intro trail trail' hrun
            obtain rfl := Except.ok.inj hrun
            exact ⟨.refl, List.nil_subset _, id⟩
          | cons first keys ihkeys =>
            intro trail trail' hrun
            rw [List.foldlM_cons] at hrun
            obtain ⟨middle, hfirst, hrest⟩ := bind_eq_ok.mp hrun
            obtain ⟨hgrown, hmem, hmatch⟩ := ih hfirst
            obtain ⟨hgrown', hsub, hmatch'⟩ := ihkeys middle trail' hrest
            refine ⟨(hgrown.mono (by simp)).trans (hgrown'.mono (by simp)), ?_, hmatch' ∘ hmatch⟩
            exact List.cons_subset.mpr ⟨hgrown'.subset hmem, hsub⟩
        obtain ⟨hgrown, hsub, hmatch⟩ := hfold _ _ _ h
        refine ⟨.node hkey hnode hsub hgrown, hgrown.subset List.mem_cons_self, ?_⟩
        intro htrail
        exact hmatch (htrail.push hnode)

/-! ## The end of a search -/

/-- What the nodes under the keys that are not seen weigh together. -/
def unseenWeight (nodes : List κ) (weight : κ → ℕ) (seen : List κ) : ℕ :=
  ((nodes.filter (· ∉ seen)).map weight).sum

variable {nodes seen seen' : List κ} {weight : κ → ℕ}

theorem unseenWeight_cons_le : unseenWeight nodes weight (key :: seen) ≤
    unseenWeight nodes weight seen := by
  induction nodes with
  | nil => exact le_rfl
  | cons a nodes ih =>
    unfold unseenWeight at ih ⊢
    by_cases hseen : a ∈ seen
    · rw [List.filter_cons_of_neg (by simp [hseen]), List.filter_cons_of_neg (by simp [hseen])]
      exact ih
    · by_cases hsame : a = key
      · rw [List.filter_cons_of_neg (by simp [hsame]), List.filter_cons_of_pos (by simp [hseen])]
        exact ih.trans (by simp)
      · rw [List.filter_cons_of_pos (by simp [hseen, hsame]),
          List.filter_cons_of_pos (by simp [hseen]), List.map_cons, List.map_cons, List.sum_cons,
          List.sum_cons]
        exact Nat.add_le_add_left ih _

/-- A key of the table takes its weight away when it is seen. -/
theorem unseenWeight_cons_add_le (weight : κ → ℕ) (hnode : key ∈ nodes) (hkey : key ∉ seen) :
    unseenWeight nodes weight (key :: seen) + weight key ≤ unseenWeight nodes weight seen := by
  induction nodes with
  | nil => cases hnode
  | cons a nodes ih =>
    by_cases hsame : a = key
    · have hrest := @unseenWeight_cons_le κ _ key nodes seen weight
      subst hsame
      unfold unseenWeight at hrest ⊢
      rw [List.filter_cons_of_neg (by simp), List.filter_cons_of_pos (by simp [hkey]),
        List.map_cons, List.sum_cons]
      omega
    · have hrest := ih ((List.mem_cons.mp hnode).resolve_left (Ne.symm hsame))
      unfold unseenWeight at hrest ⊢
      by_cases hseen : a ∈ seen
      · rw [List.filter_cons_of_neg (by simp [hseen]), List.filter_cons_of_neg (by simp [hseen])]
        exact hrest
      · rw [List.filter_cons_of_pos (by simp [hseen, hsame]),
          List.filter_cons_of_pos (by simp [hseen]), List.map_cons, List.map_cons, List.sum_cons,
          List.sum_cons]
        omega

theorem unseenWeight_mono (nodes : List κ) (weight : κ → ℕ) (hsub : seen ⊆ seen') :
    unseenWeight nodes weight seen' ≤ unseenWeight nodes weight seen := by
  induction nodes with
  | nil => exact le_rfl
  | cons a nodes ih =>
    unfold unseenWeight at ih ⊢
    by_cases hseen : a ∈ seen
    · rw [List.filter_cons_of_neg (by simp [hsub hseen]), List.filter_cons_of_neg (by simp [hseen])]
      exact ih
    · rw [List.filter_cons_of_pos (p := (· ∉ seen)) (by simp [hseen]), List.map_cons, List.sum_cons]
      by_cases hseen' : a ∈ seen'
      · rw [List.filter_cons_of_neg (by simp [hseen'])]
        omega
      · rw [List.filter_cons_of_pos (by simp [hseen']), List.map_cons, List.sum_cons]
        omega

/-- A visit to the depth of the nodes that are not seen comes to an end. -/
theorem visit_finishes (hnodes : ∀ a node, lookup a = some node → a ∈ nodes)
    (hdepth : unseenWeight nodes (fun _ => 1) trail.seen < depth) :
    visit lookup next depth key trail ≠ .error .unfinished := by
  induction depth generalizing key trail with
  | zero => omega
  | succ depth ih =>
    intro herror
    rw [visit] at herror
    split at herror
    · cases herror
    · next hkey =>
      split at herror
      · cases herror
      · next node hnode =>
        have hless := unseenWeight_cons_add_le (fun _ => 1) (hnodes key node hnode) hkey
        have hfold : ∀ keys trail,
            unseenWeight nodes (fun _ => 1) trail.seen < depth → List.foldlM
              (fun trail key => visit lookup next depth key trail) trail keys ≠
                .error .unfinished := by
          intro keys
          induction keys with
          | nil =>
            intro trail _ hrun
            cases hrun
          | cons first keys ihkeys =>
            intro trail hbound hrun
            rw [List.foldlM_cons] at hrun
            rcases bind_eq_error.mp hrun with hfirst | ⟨middle, hfirst, hrest⟩
            · exact ih hbound hfirst
            · have hmono := unseenWeight_mono nodes (fun _ => 1)
                (visit_grown hfirst).1.subset
              exact ihkeys middle (lt_of_le_of_lt hmono hbound) hrest
        have hbound : unseenWeight nodes (fun _ => 1) (key :: trail.seen) < depth := by omega
        exact hfold _ _ hbound herror

end

/-! ## Stacks of keys -/

section

variable [DecidableEq κ] {steps : ℕ} {key : κ} {seen after pending nodes : List κ}

theorem explore_grown (h : explore lookup next steps seen pending = .ok after) :
    Grown lookup next pending seen after ∧ pending ⊆ after := by
  induction steps generalizing seen pending with
  | zero => cases h
  | succ steps ih =>
    cases pending with
    | nil =>
      obtain rfl := Except.ok.inj h
      exact ⟨.refl, List.nil_subset _⟩
    | cons key pending =>
      rw [explore] at h
      split at h
      · next hseen =>
        obtain ⟨hgrown, hsub⟩ := ih h
        refine ⟨hgrown.mono (List.subset_cons_self _ _), ?_⟩
        exact List.cons_subset.mpr ⟨hgrown.subset hseen, hsub⟩
      · next hkey =>
        split at h
        · cases h
        · next node hnode =>
          obtain ⟨hgrown, hsub⟩ := ih h
          obtain ⟨hnext, hpending⟩ := List.append_subset.mp hsub
          have hmem := hgrown.subset List.mem_cons_self
          refine ⟨?_, List.cons_subset.mpr ⟨hmem, hpending⟩⟩
          have hnext : next node ⊆ after := fun a ha => hnext (List.mem_reverse.mpr ha)
          refine ⟨fun a ha => hgrown.subset (List.mem_cons_of_mem _ ha), ?_, ?_, ?_⟩
          · intro a ha hnot
            by_cases hsame : a = key
            · subst hsame
              exact ⟨node, hnode, hnext⟩
            · exact hgrown.closed a ha (by simp [hsame, hnot])
          · intro a ha hnot
            by_cases hsame : a = key
            · subst hsame
              exact ⟨a, List.mem_cons_self, ReflTransGen.refl⟩
            · obtain ⟨b, hb, hreach⟩ := hgrown.reached a ha (by simp [hsame, hnot])
              rcases List.mem_append.mp hb with hb | hb
              · exact ⟨key, List.mem_cons_self,
                  ReflTransGen.head ⟨node, hnode, List.mem_reverse.mp hb⟩ hreach⟩
              · exact ⟨b, List.mem_cons_of_mem _ hb, hreach⟩
          · intro hnodup
            exact hgrown.nodup (List.nodup_cons.mpr ⟨hkey, hnodup⟩)

/-- A search stops at a key that is reached and not in the table. -/
theorem explore_missing (h : explore lookup next steps seen pending = .error (.missing key)) :
    lookup key = none ∧ ∃ start ∈ pending, Reaches lookup next start key := by
  induction steps generalizing seen pending with
  | zero => cases h
  | succ steps ih =>
    cases pending with
    | nil => cases h
    | cons first pending =>
      rw [explore] at h
      split at h
      · obtain ⟨hnone, start, hstart, hreach⟩ := ih h
        exact ⟨hnone, start, List.mem_cons_of_mem _ hstart, hreach⟩
      · split at h
        · next hnone =>
          cases h
          exact ⟨hnone, _, List.mem_cons_self, ReflTransGen.refl⟩
        · next node hnode =>
          obtain ⟨hnone, start, hstart, hreach⟩ := ih h
          refine ⟨hnone, ?_⟩
          rcases List.mem_append.mp hstart with hstart | hstart
          · exact ⟨_, List.mem_cons_self,
              ReflTransGen.head ⟨node, hnode, List.mem_reverse.mp hstart⟩ hreach⟩
          · exact ⟨start, List.mem_cons_of_mem _ hstart, hreach⟩

/-- The number of keys that the node under a key refers to. -/
def degree (lookup : κ → Option ν) (next : ν → List κ) (key : κ) : ℕ :=
  (lookup key).elim 0 fun node => (next node).length

/-- As many steps as there are references are enough. -/
theorem explore_finishes (hnodes : ∀ a node, lookup a = some node → a ∈ nodes)
    (hsteps : pending.length + unseenWeight nodes (degree lookup next) seen < steps) :
    explore lookup next steps seen pending ≠ .error .unfinished := by
  induction steps generalizing seen pending with
  | zero => omega
  | succ steps ih =>
    cases pending with
    | nil =>
      intro h
      cases h
    | cons key pending =>
      rw [List.length_cons] at hsteps
      rw [explore]
      split
      · exact ih (by omega)
      · next hkey =>
        split
        · intro h
          cases h
        · next node hnode =>
          have hless := unseenWeight_cons_add_le (degree lookup next)
            (hnodes key node hnode) hkey
          have hdegree : degree lookup next key = (next node).length := by
            rw [degree, hnode]
            rfl
          apply ih
          rw [List.length_append, List.length_reverse]
          omega

end

end DatabaseSync.Search
