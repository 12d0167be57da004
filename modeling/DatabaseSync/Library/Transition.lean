import Mathlib.Logic.Relation

/-! # Labelled transition systems

A system is a step relation on states with labels. Runs are built one step at a
time; an invariant of the initial states that every step preserves holds in every
state of every run. `RunWith` restricts the steps a run may take.
-/

namespace DatabaseSync.Transition

variable {σ ι : Type*}

/-- The states reached from `s` by finitely many steps, each allowed by `ok`. -/
inductive RunWith (step : σ → ι → σ → Prop) (ok : σ → ι → σ → Prop) (s : σ) : σ → Prop
  | refl : RunWith step ok s s
  | tail {t u : σ} {i : ι} : RunWith step ok s t → step t i u → ok t i u → RunWith step ok s u

/-- The states reached from `s` by finitely many steps. -/
def Run (step : σ → ι → σ → Prop) : σ → σ → Prop :=
  RunWith step fun _ _ _ => True

variable {step : σ → ι → σ → Prop} {ok : σ → ι → σ → Prop} {s t u : σ} {i : ι}
  {τ κ : Type*} {step' : τ → κ → τ → Prop}

theorem Run.refl : Run step s s := RunWith.refl

theorem Run.tail (h : Run step s t) (hs : step t i u) : Run step s u :=
  RunWith.tail h hs trivial

/-- An invariant preserved by the allowed steps holds along every run of them. -/
theorem RunWith.invariant {P : σ → Prop} (hstep : ∀ t i u, P t → step t i u → ok t i u → P u)
    (h : RunWith step ok s t) (hs : P s) : P t := by
  induction h with
  | refl => exact hs
  | tail _ hst hok ih => exact hstep _ _ _ ih hst hok

/-- An invariant preserved by every step holds along every run. -/
theorem Run.invariant {P : σ → Prop} (hstep : ∀ t i u, P t → step t i u → P u)
    (h : Run step s t) (hs : P s) : P t :=
  RunWith.invariant (fun t i u hp hst _ => hstep t i u hp hst) h hs

theorem RunWith.run (h : RunWith step ok s t) : Run step s t := by
  induction h with
  | refl => exact Run.refl
  | tail _ hst _ ih => exact ih.tail hst

theorem Run.trans (h : Run step s t) (h' : Run step t u) : Run step s u := by
  induction h' with
  | refl => exact h
  | tail _ hst _ ih => exact ih.tail hst

/-- What every step keeps related is related along a whole run. -/
theorem Run.simulate {R : σ → τ → Prop} {a : τ}
    (hstep : ∀ t i u b, R t b → step t i u → ∃ c, Run step' b c ∧ R u c)
    (h : Run step s t) (hs : R s a) : ∃ b, Run step' a b ∧ R t b := by
  induction h with
  | refl => exact ⟨a, Run.refl, hs⟩
  | tail _ hst _ ih =>
    obtain ⟨b, hab, hb⟩ := ih
    obtain ⟨c, hbc, hc⟩ := hstep _ _ _ b hb hst
    exact ⟨c, hab.trans hbc, hc⟩

end DatabaseSync.Transition
