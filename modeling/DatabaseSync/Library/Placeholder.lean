import DatabaseSync.Library.Checked
import Mathlib.Data.List.Basic

/-! # Parameters and their placeholders

A writer emits placeholders and appends their parameters to a list. Numbered placeholders stay
valid while the list grows. Positional placeholders are read back by taking one parameter each.
-/

namespace DatabaseSync.Placeholder

open Checked

section Numbered

variable {π ε α β γ : Type}

/-- The computation only appends to the list of parameters, and its result is good for every
list that extends what it leaves. -/
def Appends (x : StateT (List π) (Except ε) β) (good : β → List π → Prop) : Prop :=
  ∀ s b s', x.run s = .ok (b, s') → s <+: s' ∧ ∀ t, s' <+: t → good b t

variable {good : β → List π → Prop} {x : StateT (List π) (Except ε) β}

theorem Appends.pure {b : β} (h : ∀ t, good b t) :
    Appends (Pure.pure b : StateT (List π) (Except ε) β) good := by
  intro s b' s' hrun
  simp only [StateT.run_pure, pure_eq, Except.ok.injEq, Prod.mk.injEq] at hrun
  obtain ⟨rfl, rfl⟩ := hrun
  exact ⟨List.prefix_rfl, fun t _ => h t⟩

theorem Appends.mono {good' : β → List π → Prop} (h : Appends x good)
    (himp : ∀ b t, good b t → good' b t) : Appends x good' := by
  intro s b s' hrun
  obtain ⟨hpre, hgood⟩ := h s b s' hrun
  exact ⟨hpre, fun t ht => himp b t (hgood t ht)⟩

theorem Appends.bind {good' : γ → List π → Prop} {f : β → StateT (List π) (Except ε) γ}
    (hx : Appends x good)
    (hf : ∀ b, Appends (f b) fun c t => good b t → good' c t) :
    Appends (x >>= f) good' := by
  intro s c s'' hrun
  rw [StateT.run_bind, bind_eq_ok] at hrun
  obtain ⟨⟨b, s'⟩, hb, hc⟩ := hrun
  obtain ⟨hs, hgood⟩ := hx s b s' hb
  obtain ⟨hs', hgood'⟩ := hf b s' c s'' hc
  exact ⟨hs.trans hs', fun t ht => hgood' t ht (hgood t (hs'.trans ht))⟩

/-- A failing computation has no result to be good. -/
theorem Appends.lift {y : Except ε β} {f : β → StateT (List π) (Except ε) γ}
    {good' : γ → List π → Prop} (hf : ∀ b, y = .ok b → Appends (f b) good') :
    Appends (liftM y >>= f) good' := by
  intro s c s' hrun
  cases y with
  | error e => cases hrun
  | ok b => exact hf b rfl s c s' hrun

theorem Appends.throw {e : ε} {good : β → List π → Prop} :
    Appends (throw e : StateT (List π) (Except ε) β) good := by
  intro s b s' hrun
  cases hrun

theorem Appends.mapM {f : α → StateT (List π) (Except ε) β} {good : α → β → List π → Prop}
    {l : List α} (h : ∀ a ∈ l, Appends (f a) (good a)) :
    Appends (l.mapM f) fun bs t => List.Forall₂ (fun a b => good a b t) l bs := by
  induction l with
  | nil =>
    rw [List.mapM_nil]
    exact Appends.pure fun _ => List.Forall₂.nil
  | cons a l ih =>
    rw [List.mapM_cons]
    apply Appends.bind (h a List.mem_cons_self)
    intro b
    apply Appends.bind (ih fun a' ha' => h a' (List.mem_cons_of_mem a ha'))
    intro bs
    exact Appends.pure fun t hbs hb => List.Forall₂.cons hb hbs

end Numbered

section Positional

variable {π α β γ : Type}

/-- The computation reads exactly these parameters, and its result is good. -/
def Consumes (x : StateT (List π) Option β) (parameters : List π) (good : β → Prop) : Prop :=
  ∀ rest b rest', x.run (parameters ++ rest) = some (b, rest') → rest' = rest ∧ good b

theorem Consumes.pure {b : β} {good : β → Prop} (h : good b) :
    Consumes (Pure.pure b : StateT (List π) Option β) [] good := by
  intro rest b' rest' hrun
  simp only [List.nil_append, StateT.run_pure, Option.pure_def, Option.some.injEq,
    Prod.mk.injEq] at hrun
  obtain ⟨rfl, rfl⟩ := hrun
  exact ⟨rfl, h⟩

theorem Consumes.bind {x : StateT (List π) Option β} {f : β → StateT (List π) Option γ}
    {ps qs : List π} {good : β → Prop} {good' : γ → Prop} (hx : Consumes x ps good)
    (hf : ∀ b, good b → Consumes (f b) qs good') : Consumes (x >>= f) (ps ++ qs) good' := by
  intro rest c rest'' hrun
  rw [List.append_assoc, StateT.run_bind] at hrun
  obtain ⟨⟨b, rest'⟩, hb, hc⟩ := Option.bind_eq_some_iff.mp hrun
  obtain ⟨rfl, hgood⟩ := hx (qs ++ rest) b rest' hb
  exact hf b hgood rest c rest'' hc

theorem Consumes.map {x : StateT (List π) Option β} {f : β → γ} {ps : List π}
    {good : β → Prop} {good' : γ → Prop} (hx : Consumes x ps good)
    (hf : ∀ b, good b → good' (f b)) : Consumes (do return f (← x)) ps good' := by
  have h : Consumes (do return f (← x)) (ps ++ []) good' :=
    hx.bind fun b hb => Consumes.pure (hf b hb)
  rwa [List.append_nil] at h

theorem Consumes.mapM {f : α → StateT (List π) Option β} {good : α → β → Prop} {l : List α}
    {parameters : List (List π)}
    (h : List.Forall₂ (fun a ps => Consumes (f a) ps (good a)) l parameters) :
    Consumes (l.mapM f) parameters.flatten (List.Forall₂ good l) := by
  induction h with
  | nil =>
    rw [List.mapM_nil]
    exact Consumes.pure List.Forall₂.nil
  | cons ha _ ih =>
    rw [List.mapM_cons, List.flatten_cons]
    apply Consumes.bind ha
    intro b hb
    exact Consumes.map ih fun bs hbs => List.Forall₂.cons hb hbs

/-- Every element of a written list takes one parameter. -/
theorem Consumes.mapM_map {w : α → γ} {f : γ → StateT (List π) Option β} {good : α → β → Prop}
    {l : List α} {parameters : List π}
    (h : List.Forall₂ (fun a p => Consumes (f (w a)) [p] (good a)) l parameters) :
    Consumes ((l.map w).mapM f) parameters (List.Forall₂ good l) := by
  have hlists : List.Forall₂ (fun a ps => Consumes ((f ∘ w) a) ps (good a)) l
      (parameters.map fun p => [p]) := by
    rwa [List.forall₂_map_right_iff]
  have hconsumes := Consumes.mapM hlists
  rw [← List.flatMap_def, List.flatMap_singleton'] at hconsumes
  rwa [List.mapM_map]

end Positional

/-- A list whose elements are the images of another list is its map. -/
theorem eq_map_of_forall₂ {α β : Type} {f : α → β} {l : List α} {bs : List β}
    (h : List.Forall₂ (fun a b => b = f a) l bs) : bs = l.map f := by
  induction h with
  | nil => rfl
  | cons hb _ ih => rw [hb, ih, List.map_cons]

/-- What a total reading of a rendered list yields. -/
theorem forall₂_mapM {α β γ : Type} {read : β → Option γ} {good : α → γ → Prop} {l : List α}
    {bs : List β} {cs : List γ}
    (h : List.Forall₂ (fun a b => ∀ c, read b = some c → good a c) l bs)
    (hread : bs.mapM read = some cs) : List.Forall₂ good l cs := by
  induction h generalizing cs with
  | nil =>
    cases hread
    exact List.Forall₂.nil
  | cons hb _ ih =>
    rw [List.mapM_cons] at hread
    obtain ⟨c, hc, hread⟩ := Option.bind_eq_some_iff.mp hread
    obtain ⟨cs, hcs, hread⟩ := Option.bind_eq_some_iff.mp hread
    cases hread
    exact List.Forall₂.cons (hb c hc) (ih hcs)

end DatabaseSync.Placeholder
