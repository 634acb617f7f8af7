import Mathlib.Data.Option.Basic
import Mathlib.Logic.Function.Basic

/-! # Heaps

A heap maps addresses to the objects that live there. Writing an object, or freeing one, is an update
at its address; what is found afterwards is what was written, or what another address had before.
-/

namespace Heap

variable {Address Object : Type*} [DecidableEq Address] {heap : Address → Option Object}
  {a x : Address} {cell : Option Object} {object : Object}

theorem update_eq_some : Function.update heap a cell x = some object ↔
    x = a ∧ cell = some object ∨ x ≠ a ∧ heap x = some object := by
  rw [Function.update_apply]
  split
  · next same => simp only [same, true_and, ne_eq, not_true, false_and, or_false]
  · next apart => simp only [apart, false_and, ne_eq, not_false_iff, true_and, false_or]

/-- An object that is written to a free address moves no other. -/
theorem update_of_free (free : heap a = none) (found : heap x = some object) :
    Function.update heap a cell x = some object := by
  refine update_eq_some.mpr (.inr ⟨?_, found⟩)
  rintro rfl
  cases free.symm.trans found

end Heap
