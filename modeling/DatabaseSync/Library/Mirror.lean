import DatabaseSync.Library.Checked
import DatabaseSync.Library.Relational

/-! # Tables that mirror a list

The rows of a table stand for the entries of a list, one by one and in the same order. An effect on
the table finds its row by a condition that only one row meets. Where the row of an entry meets it,
that is the row, so the table mirrors the list after a change of the entry.
-/

namespace DatabaseSync.Relational

open Checked

variable {α β κ ν : Type}

/-- Only one entry of a list matches, so the list is split in only one way. -/
theorem split_unique {matched : β → Prop} {before after before' after' : List β}
    {y y' : β} (h : before ++ y :: after = before' ++ y' :: after') (hy : matched y)
    (hother : ∀ z ∈ before' ++ after', ¬ matched z) :
    before = before' ∧ y = y' ∧ after = after' := by
  induction before generalizing before' with
  | nil =>
    cases before' with
    | nil =>
      obtain ⟨rfl, rfl⟩ := List.cons_eq_cons.mp h
      exact ⟨rfl, rfl, rfl⟩
    | cons z before' =>
      obtain ⟨rfl, -⟩ := List.cons_eq_cons.mp h
      exact absurd hy (hother _ List.mem_cons_self)
  | cons z before ih =>
    cases before' with
    | nil =>
      obtain ⟨-, rfl⟩ := List.cons_eq_cons.mp h
      exact absurd hy (hother y (List.mem_append_right before List.mem_cons_self))
    | cons z' before' =>
      obtain ⟨rfl, htail⟩ := List.cons_eq_cons.mp h
      obtain ⟨rfl, rfl, rfl⟩ := ih htail fun u hu => hother u (List.mem_cons_of_mem _ hu)
      exact ⟨rfl, rfl, rfl⟩

/-- The only row that matches stands for the entry whose rows match. -/
theorem forall₂_split {R : α → β → Prop} {matched : β → Prop} {before after : List α} {x : α}
    {before' after' : List β} {y : β}
    (h : List.Forall₂ R (before ++ x :: after) (before' ++ y :: after'))
    (hmatched : ∀ z, R x z → matched z) (hother : ∀ z ∈ before' ++ after', ¬ matched z) :
    List.Forall₂ R before before' ∧ R x y ∧ List.Forall₂ R after after' := by
  obtain ⟨before₁, rest, hbefore, hrest, hsplit⟩ := forall₂_append_left h
  obtain ⟨z, after₁, hx, hafter, rfl⟩ := List.forall₂_cons_left_iff.mp hrest
  obtain ⟨rfl, rfl, rfl⟩ := split_unique hsplit.symm (hmatched z hx) hother
  exact ⟨hbefore, hx, hafter⟩

section Effects

variable {R : α → Row κ ν → Prop} {schema : Schema κ ν} {supplied : List (κ × Option ν)}
  {matched : Row κ ν → Prop} {rows rows' : List (Row κ ν)} {before after xs : List α} {x x' : α}

theorem Inserts.mirrors [BEq ν] (h : List.Forall₂ R xs rows)
    (hinserts : Inserts schema supplied rows rows')
    (hnew : ∀ row, (∀ a ∈ supplied, row a.1 = a.2) → R x row) :
    List.Forall₂ R (xs ++ [x]) rows' := by
  obtain ⟨row, rfl, hsupplied, -, -⟩ := hinserts
  exact List.rel_append h (.cons (hnew row hsupplied) .nil)

/-- The row of the entry is the one that is updated. -/
theorem Updates.mirrors (h : List.Forall₂ R (before ++ x :: after) rows)
    (hupdates : Updates schema matched supplied rows rows')
    (hmatched : ∀ row, R x row → matched row)
    (hnew : ∀ row row', R x row → (∀ a ∈ supplied, row' a.1 = a.2) →
      (∀ column ∉ supplied.map Prod.fst, schema.generated column = false →
        row' column = row column) → R x' row') :
    List.Forall₂ R (before ++ x' :: after) rows' := by
  obtain ⟨before', row, row', after', rfl, rfl, -, hother, hsupplied, hkept⟩ := hupdates
  obtain ⟨hbefore, hx, hafter⟩ := forall₂_split h hmatched hother
  exact List.rel_append hbefore (.cons (hnew row row' hx hsupplied hkept) hafter)

/-- The row of the entry is the one that is removed. -/
theorem Deletes.mirrors (h : List.Forall₂ R (before ++ x :: after) rows)
    (hdeletes : Deletes matched rows rows') (hmatched : ∀ row, R x row → matched row) :
    List.Forall₂ R (before ++ after) rows' := by
  obtain ⟨before', row, after', rfl, rfl, -, hother⟩ := hdeletes
  obtain ⟨hbefore, -, hafter⟩ := forall₂_split h hmatched hother
  exact List.rel_append hbefore hafter

end Effects

end DatabaseSync.Relational
