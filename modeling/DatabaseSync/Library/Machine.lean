import DatabaseSync.Library.Checked
import Mathlib.Algebra.Order.Ring.Int
import Mathlib.Algebra.Ring.Nat

/-! # Arithmetic of fixed width

Arithmetic in a signed type of a fixed width, and slices read at an index. A result outside the
type and an index outside the slice are faults of their own, apart from what the code refuses.
-/

namespace DatabaseSync.Machine

open Checked

/-- What stops a computation: a refusal of the code, a result outside its type, or an index
outside its slice. -/
inductive Fault (ε : Type)
  | refused (error : ε)
  | overflow
  | outOfBounds
deriving DecidableEq, Repr

/-- The values of a signed type. -/
def Fits (bits : ℕ) (n : ℤ) : Prop := -2 ^ (bits - 1) ≤ n ∧ n < 2 ^ (bits - 1)

instance (bits : ℕ) (n : ℤ) : Decidable (Fits bits n) :=
  inferInstanceAs (Decidable (_ ∧ _))

/-- The result of an operation of a signed type. -/
def arith {ε : Type} (bits : ℕ) (n : ℤ) : Except (Fault ε) ℤ :=
  if Fits bits n then .ok n else .error .overflow

/-- The result of an operation of an unsigned type. -/
def natural {ε : Type} (bits n : ℕ) : Except (Fault ε) ℕ :=
  if n < 2 ^ bits then .ok n else .error .overflow

/-- `slice[index]` -/
def elementAt {ε α : Type} (slice : List α) (index : ℕ) : Except (Fault ε) α :=
  match slice[index]? with
  | some element => .ok element
  | none => .error .outOfBounds

def refuse {ε α : Type} (error : ε) : Except (Fault ε) α := .error (.refused error)

/-- A computation that stops at its refusals only. -/
def refusing {ε α : Type} (x : Except ε α) : Except (Fault ε) α := x.mapError .refused

/-- What the code demands of its input. -/
def demand {ε α : Type} (value : Option α) (error : ε) : Except (Fault ε) α :=
  match value with
  | some value => .ok value
  | none => refuse error

def require {ε : Type} (ok : Bool) (error : ε) : Except (Fault ε) Unit :=
  if ok then .ok () else refuse error

section

variable {ε α : Type} {bits : ℕ} {n m : ℤ} {error : ε} {value : Option α} {a : α} {ok : Bool}

@[simp]
theorem arith_eq_ok : (arith bits n : Except (Fault ε) ℤ) = .ok m ↔ Fits bits n ∧ n = m := by
  unfold arith
  split
  · next h => simp [h]
  · next h => simp [h]

theorem arith_of_fits (h : Fits bits n) : (arith bits n : Except (Fault ε) ℤ) = .ok n :=
  if_pos h

theorem arith_of_not_fits (h : ¬ Fits bits n) :
    (arith bits n : Except (Fault ε) ℤ) = .error .overflow :=
  if_neg h

/-- Arithmetic fails by overflow only. -/
theorem overflow_of_arith {fault : Fault ε} (h : arith bits n = .error fault) :
    fault = .overflow := by
  unfold arith at h
  split at h
  · cases h
  · exact (Except.error.inj h).symm

theorem natural_of_lt {n : ℕ} (h : n < 2 ^ bits) : (natural bits n : Except (Fault ε) ℕ) = .ok n :=
  if_pos h

/-- A step whose result fits goes on with it. -/
theorem arith_bind {β : Type} {f : ℤ → Except (Fault ε) β} (h : Fits bits n) :
    (arith bits n >>= f) = f n := by
  rw [arith_of_fits h]
  rfl

theorem elementAt_of_lt {slice : List α} {index : ℕ} (h : index < slice.length) :
    (elementAt slice index : Except (Fault ε) α) = .ok slice[index] := by
  rw [elementAt, List.getElem?_eq_getElem h]

theorem elementAt_of_le {slice : List α} {index : ℕ} (h : slice.length ≤ index) :
    (elementAt slice index : Except (Fault ε) α) = .error .outOfBounds := by
  rw [elementAt, List.getElem?_eq_none h]

@[simp]
theorem refusing_eq_ok {x : Except ε α} : refusing x = .ok a ↔ x = .ok a :=
  mapError_eq_ok

theorem refusing_ne_outOfBounds {x : Except ε α} : refusing x ≠ .error .outOfBounds := by
  cases x <;> simp [refusing, Except.mapError]

theorem demand_ne_outOfBounds : demand value error ≠ .error .outOfBounds := by
  cases value <;> simp [demand, refuse]

@[simp]
theorem demand_eq_ok : demand value error = .ok a ↔ value = some a := by
  cases value <;> simp [demand, refuse]

@[simp]
theorem require_eq_ok {u : Unit} : require ok error = .ok u ↔ ok = true := by
  unfold require
  split <;> simp_all [refuse]

end

end DatabaseSync.Machine
