import Mathlib.Algebra.GroupWithZero.Nat
import Mathlib.Data.List.Forall2
import Mathlib.Data.Nat.Notation
import Mathlib.Logic.Basic

/-! # Fallible computations

How the outcome of a sequence of checks follows from the outcomes of its parts.
-/

namespace DatabaseSync.Checked

variable {ε α β : Type}

@[simp]
theorem bind_eq_ok {x : Except ε α} {f : α → Except ε β} {b : β} :
    (x >>= f) = .ok b ↔ ∃ a, x = .ok a ∧ f a = .ok b := by
  cases x <;> simp [Bind.bind, Except.bind]

@[simp]
theorem bind_eq_error {x : Except ε α} {f : α → Except ε β} {e : ε} :
    (x >>= f) = .error e ↔ x = .error e ∨ ∃ a, x = .ok a ∧ f a = .error e := by
  cases x <;> simp [Bind.bind, Except.bind]

theorem map_eq_ok {x : Except ε α} {f : α → β} {b : β} :
    x.map f = .ok b ↔ ∃ a, x = .ok a ∧ f a = b := by
  cases x <;> simp [Except.map]

@[simp]
theorem ok_bind {a : α} {f : α → Except ε β} : (Except.ok a >>= f) = f a := rfl

@[simp]
theorem error_bind {e : ε} {f : α → Except ε β} : (Except.error e >>= f) = .error e := rfl

@[simp]
theorem throw_eq (e : ε) : (throw e : Except ε α) = .error e := rfl

@[simp]
theorem pure_eq (a : α) : (pure a : Except ε α) = .ok a := rfl

/-- A check passes and the rest succeeds. -/
@[simp]
theorem guard_eq_ok {c : Prop} [Decidable c] {e : ε} {x : Except ε α} {a : α} :
    (if c then .error e else x) = .ok a ↔ ¬ c ∧ x = .ok a := by
  by_cases h : c <;> simp [h]

/-- The same for a check whose failure is the second branch. -/
@[simp]
theorem ensure_eq_ok {c : Prop} [Decidable c] {e : ε} {x : Except ε α} {a : α} :
    (if c then x else .error e) = .ok a ↔ c ∧ x = .ok a := by
  by_cases h : c <;> simp [h]

/-- A traversal succeeds with the results of its elements. -/
theorem mapM_eq_ok {f : α → Except ε β} {l : List α} {bs : List β} (h : l.mapM f = .ok bs) :
    List.Forall₂ (fun a b => f a = .ok b) l bs := by
  induction l generalizing bs with
  | nil =>
    cases h
    exact List.Forall₂.nil
  | cons a l ih =>
    simp only [List.mapM_cons, bind_eq_ok, pure_eq, Except.ok.injEq] at h
    obtain ⟨b, hb, bs, hbs, rfl⟩ := h
    exact List.Forall₂.cons hb (ih hbs)

theorem mapM_ok_of_forall₂ {f : α → Except ε β} {l : List α} {bs : List β}
    (h : List.Forall₂ (fun a b => f a = .ok b) l bs) : l.mapM f = .ok bs := by
  induction h with
  | nil => rfl
  | cons hab _ ih => rw [List.mapM_cons, hab, ok_bind, ih, ok_bind, pure_eq]

theorem mapM_exists {f : α → Except ε β} {l : List α} (h : ∀ a ∈ l, ∃ b, f a = .ok b) :
    ∃ bs, l.mapM f = .ok bs := by
  induction l with
  | nil => exact ⟨[], rfl⟩
  | cons a l ih =>
    obtain ⟨b, hb⟩ := h a List.mem_cons_self
    obtain ⟨bs, hbs⟩ := ih fun a ha => h a (List.mem_cons_of_mem _ ha)
    refine ⟨b :: bs, ?_⟩
    rw [List.mapM_cons, hb, ok_bind, hbs]
    rfl

/-- A traversal fails where one of its elements does. -/
theorem mapM_eq_error {f : α → Except ε β} {l : List α} {e : ε}
    (h : l.mapM f = .error e) :
    ∃ a ∈ l, f a = .error e := by
  induction l with
  | nil => cases h
  | cons a l ih =>
    rw [List.mapM_cons] at h
    rcases bind_eq_error.mp h with herror | ⟨b, -, hrest⟩
    · exact ⟨a, List.mem_cons_self, herror⟩
    · rcases bind_eq_error.mp hrest with herror | ⟨bs, -, hresult⟩
      · obtain ⟨c, hc, herror⟩ := ih herror
        exact ⟨c, List.mem_cons_of_mem _ hc, herror⟩
      · cases hresult

theorem mapM_congr_of_mem {f g : α → Except ε β} {l : List α} (h : ∀ a ∈ l, f a = g a) :
    l.mapM f = l.mapM g := by
  induction l with
  | nil => rfl
  | cons a l ih =>
    rw [List.mapM_cons, List.mapM_cons, h a List.mem_cons_self,
      ih fun b hb => h b (List.mem_cons_of_mem a hb)]

theorem forM_eq_ok {f : α → Except ε Unit} {l : List α} {u : Unit} :
    l.forM f = .ok u ↔ ∀ a ∈ l, f a = .ok () := by
  induction l with
  | nil => exact iff_of_true rfl nofun
  | cons a l ih =>
    change (f a >>= fun _ => l.forM f) = .ok u ↔ _
    rw [bind_eq_ok, List.forall_mem_cons, ← ih]
    exact ⟨fun ⟨_, ha, hrest⟩ => ⟨ha, hrest⟩, fun ⟨ha, hrest⟩ => ⟨(), ha, hrest⟩⟩

theorem forall₂_append_left {R : α → β → Prop} {l l' : List α} {bs : List β}
    (h : List.Forall₂ R (l ++ l') bs) :
    ∃ bs₁ bs₂, List.Forall₂ R l bs₁ ∧ List.Forall₂ R l' bs₂ ∧ bs = bs₁ ++ bs₂ := by
  induction l generalizing bs with
  | nil => exact ⟨[], bs, List.Forall₂.nil, h, rfl⟩
  | cons a l ih =>
    obtain ⟨b, bs, hab, hrest, rfl⟩ := List.forall₂_cons_left_iff.mp h
    obtain ⟨bs₁, bs₂, h₁, h₂, rfl⟩ := ih hrest
    exact ⟨b :: bs₁, bs₂, List.Forall₂.cons hab h₁, h₂, rfl⟩

theorem forall₂_mem_right {R : α → β → Prop} {l : List α} {bs : List β}
    (h : List.Forall₂ R l bs) {b : β} (hb : b ∈ bs) : ∃ a ∈ l, R a b := by
  induction h with
  | nil => cases hb
  | cons hab _ ih =>
    rcases List.mem_cons.mp hb with rfl | hb
    · exact ⟨_, List.mem_cons_self, hab⟩
    · obtain ⟨a, ha, hR⟩ := ih hb
      exact ⟨a, List.mem_cons_of_mem _ ha, hR⟩

theorem forall₂_mem_left {R : α → β → Prop} {l : List α} {bs : List β} {a : α}
    (h : List.Forall₂ R l bs) (ha : a ∈ l) : ∃ b ∈ bs, R a b := by
  induction h with
  | nil => cases ha
  | cons hab _ ih =>
    rcases List.mem_cons.mp ha with rfl | ha
    · exact ⟨_, List.mem_cons_self, hab⟩
    · obtain ⟨b, hb, hR⟩ := ih ha
      exact ⟨b, List.mem_cons_of_mem _ hb, hR⟩

theorem forall₂_imp_mem {R S : α → β → Prop} {l : List α} {bs : List β}
    (h : List.Forall₂ R l bs) (himp : ∀ a ∈ l, ∀ b, R a b → S a b) : List.Forall₂ S l bs :=
  ((List.forall₂_and_left l bs).mpr ⟨himp, h⟩).imp fun _ b hab => hab.1 b hab.2

theorem map_eq_of_forall₂ {γ : Type} {f : α → γ} {g : β → γ} {l : List α} {bs : List β}
    (h : List.Forall₂ (fun a b => g b = f a) l bs) : bs.map g = l.map f := by
  induction h with
  | nil => rfl
  | cons hab _ ih => rw [List.map_cons, List.map_cons, hab, ih]

/-- Two lists of results in a row. -/
theorem forall₂_comp {γ : Type} {R : α → β → Prop} {S : β → γ → Prop} {l : List α} {bs : List β}
    {cs : List γ} (hR : List.Forall₂ R l bs) (hS : List.Forall₂ S bs cs) :
    List.Forall₂ (fun a c => ∃ b, R a b ∧ S b c) l cs := by
  induction hR generalizing cs with
  | nil =>
    cases hS
    exact List.Forall₂.nil
  | cons hab _ ih =>
    cases hS with
    | cons hbc htail => exact List.Forall₂.cons ⟨_, hab, hbc⟩ (ih htail)

theorem toOption_eq_some {x : Except ε α} {a : α} : x.toOption = some a ↔ x = .ok a := by
  cases x <;> simp [Except.toOption]

@[simp]
theorem mapError_eq_ok {ε' : Type} {f : ε → ε'} {x : Except ε α} {a : α} :
    x.mapError f = .ok a ↔ x = .ok a := by
  cases x <;> simp [Except.mapError]

/-- Every error the computation can end with satisfies `P`. -/
def FailsWith (P : ε → Prop) (x : Except ε α) : Prop := ∀ e, x = .error e → P e

section FailsWith

variable {P : ε → Prop} {x : Except ε α} {f : α → Except ε β}

@[simp]
theorem failsWith_ok {a : α} : FailsWith P (.ok a) := fun _ h => nomatch h

@[simp]
theorem failsWith_error {e : ε} : FailsWith P (.error e : Except ε α) ↔ P e :=
  ⟨fun h => h e rfl, fun h _ he => by cases he; exact h⟩

theorem FailsWith.bind (hx : FailsWith P x) (hf : ∀ a, FailsWith P (f a)) :
    FailsWith P (x >>= f) := by
  intro e he
  rcases bind_eq_error.mp he with h | ⟨a, -, h⟩
  · exact hx e h
  · exact hf a e h

theorem FailsWith.ite {c : Prop} [Decidable c] {y : Except ε α} (hx : FailsWith P x)
    (hy : FailsWith P y) : FailsWith P (if c then x else y) := by
  split
  · exact hx
  · exact hy

end FailsWith

end DatabaseSync.Checked
