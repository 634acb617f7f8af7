import Mathlib.Algebra.BigOperators.Group.Finset.Basic
import Mathlib.Algebra.BigOperators.Group.List.Lemmas
import Mathlib.Algebra.BigOperators.Pi
import Mathlib.Data.Fintype.BigOperators
import Mathlib.Logic.Function.Basic

/-! # Counters by kind

One counter for each kind, and one more counted of a kind at a time. The sum over the kinds goes up with
each of them, so it is what a single counter beside them shows.
-/

namespace Tally

open scoped BigOperators

variable {ι N : Type*} [DecidableEq ι] [AddCommMonoid N] [One N]

/-- One more of the kind. -/
def bump (counters : ι → N) (i : ι) : ι → N := Function.update counters i (counters i + 1)

variable (counters : ι → N) {i j : ι}

@[simp] theorem bump_self (i : ι) : bump counters i i = counters i + 1 := Function.update_self ..

@[simp] theorem bump_of_ne (other : j ≠ i) : bump counters i j = counters j := Function.update_of_ne other ..

theorem bump_apply (i j : ι) : bump counters i j = counters j + if j = i then 1 else 0 := by
  split
  · next same => rw [same, bump_self]
  · next other => rw [bump_of_ne counters other, add_zero]

theorem sum_bump [Fintype ι] (i : ι) : ∑ j, bump counters i j = ∑ j, counters j + 1 := by
  simp only [bump_apply, Finset.sum_add_distrib, Finset.sum_ite_eq', Finset.mem_univ, if_true]

/-- The sum over some of the kinds. -/
theorem sum_map_bump {kinds : List ι} (nodup : kinds.Nodup) (i : ι) :
    (kinds.map (bump counters i)).sum = (kinds.map counters).sum + if i ∈ kinds then 1 else 0 := by
  induction kinds with
  | nil => simp
  | cons kind kinds ih =>
    obtain ⟨new, nodup⟩ := List.nodup_cons.mp nodup
    rw [List.map_cons, List.sum_cons, List.map_cons, List.sum_cons, ih nodup, bump_apply]
    rcases eq_or_ne kind i with rfl | other
    · simp only [if_true, List.mem_cons, true_or, if_neg new, add_zero]
      rw [add_right_comm]
    · simp only [if_neg other, List.mem_cons, other.symm, false_or, add_zero]
      rw [add_assoc]

end Tally
