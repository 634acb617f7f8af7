import Mathlib.Data.Option.Basic

/-! # Promises that are fulfilled once

A promise stores the first value it is given. A second `set_value` raises `future_error`, which is
an ordinary failure here, so that its absence can be proved along runs.
-/

namespace Cxx

/-- The shared state of a promise and its future. -/
structure Promise (α : Type*) where
  value : Option α
  deriving DecidableEq, Repr

inductive FutureError
  | promiseAlreadySatisfied
  deriving DecidableEq, Repr

namespace Promise

variable {α : Type*}

def unset : Promise α := ⟨none⟩

def setValue (p : Promise α) (v : α) : Except FutureError (Promise α) :=
  match p.value with
  | none => .ok ⟨some v⟩
  | some _ => .error .promiseAlreadySatisfied

theorem setValue_of_unset {p : Promise α} (v : α) (fresh : p.value = none) :
    p.setValue v = .ok ⟨some v⟩ := by
  rw [setValue, fresh]

end Promise

end Cxx
