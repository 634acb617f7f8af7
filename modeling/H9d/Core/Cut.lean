import Mathlib.Data.List.TakeWhile

/-! # Cutting a text at a character

`find` and `rfind` with the two `substr` around the place that they find.
-/

namespace Cxx

variable {α : Type*} [DecidableEq α] (c : α)

/-- What stands before and behind the first `c`. -/
def cut : List α → Option (List α × List α)
  | [] => none
  | a :: s => if a = c then some ([], s) else (cut s).map fun p => (a :: p.1, p.2)

/-- What stands before and behind the last `c`. -/
def cutLast : List α → Option (List α × List α)
  | [] => none
  | a :: s =>
    match cutLast s with
    | some p => some (a :: p.1, p.2)
    | none => if a = c then some ([], s) else none

variable {c} {x y s : List α}

@[simp] theorem cut_cons_self (s : List α) : cut c (c :: s) = some ([], s) := if_pos rfl

/-- A text without `c` in front of another one moves no cut. -/
theorem cut_append (free : c ∉ x) : cut c (x ++ s) = (cut c s).map fun p => (x ++ p.1, p.2) := by
  induction x with
  | nil => simp
  | cons a x ih =>
    rw [List.mem_cons, not_or] at free
    rw [List.cons_append, cut, if_neg (Ne.symm free.1), ih free.2, Option.map_map]
    rfl

theorem cut_append_cons (free : c ∉ x) : cut c (x ++ c :: y) = some (x, y) := by
  rw [cut_append free, cut_cons_self]
  simp

@[simp] theorem cut_eq_none : cut c s = none ↔ c ∉ s := by
  induction s with
  | nil => simp [cut]
  | cons a s ih =>
    rw [cut]
    by_cases same : a = c
    · simp [same]
    · simp [same, ih, Ne.symm same]

theorem eq_append_of_cut (found : cut c s = some (x, y)) : s = x ++ c :: y ∧ c ∉ x := by
  induction s generalizing x with
  | nil => exact nomatch found
  | cons a s ih =>
    rw [cut] at found
    split at found
    · next same =>
      cases found
      exact ⟨by rw [same, List.nil_append], List.not_mem_nil⟩
    · next other =>
      obtain ⟨⟨x', y'⟩, later, same⟩ := Option.map_eq_some_iff.mp found
      cases same
      obtain ⟨rfl, free⟩ := ih later
      refine ⟨rfl, ?_⟩
      rw [List.mem_cons, not_or]
      exact ⟨Ne.symm other, free⟩

@[simp] theorem cutLast_eq_none : cutLast c s = none ↔ c ∉ s := by
  induction s with
  | nil => simp [cutLast]
  | cons a s ih =>
    rw [cutLast]
    cases rest : cutLast c s with
    | some p =>
      have inside : c ∈ s := by
        by_contra free
        rw [ih.mpr free] at rest
        exact nomatch rest
      simp [inside]
    | none =>
      have free := ih.mp rest
      by_cases same : a = c
      · simp [same]
      · simp [same, free, Ne.symm same]

/-- Whatever stands in front, the last `c` of a text that has one stays the last. -/
theorem cutLast_append (inside : c ∈ s) (x : List α) :
    cutLast c (x ++ s) = (cutLast c s).map fun p => (x ++ p.1, p.2) := by
  induction x with
  | nil => simp
  | cons a x ih =>
    cases found : cutLast c s with
    | none => exact absurd inside (cutLast_eq_none.mp found)
    | some p =>
      rw [found] at ih
      rw [List.cons_append, cutLast, ih]
      rfl

theorem cutLast_append_cons (free : c ∉ y) : cutLast c (x ++ c :: y) = some (x, y) := by
  rw [cutLast_append List.mem_cons_self, cutLast, cutLast_eq_none.mpr free]
  simp

theorem eq_append_of_cutLast (found : cutLast c s = some (x, y)) : s = x ++ c :: y := by
  induction s generalizing x with
  | nil => exact nomatch found
  | cons a s ih =>
    rw [cutLast] at found
    cases rest : cutLast c s with
    | none =>
      rw [rest] at found
      obtain ⟨rfl, same⟩ := Option.ite_none_right_eq_some.mp found
      cases same
      rfl
    | some p =>
      rw [rest] at found
      cases found
      rw [ih rest, List.cons_append]

end Cxx
