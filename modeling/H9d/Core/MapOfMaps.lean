import Mathlib.Data.Option.Basic
import Mathlib.Logic.Function.Basic

/-! # Maps of maps

A `std::map` as a partial function. `operator[]` enters a fresh value for a key that it does not find,
so what is read through it does not tell an absent inner map from an empty one.
-/

namespace Cxx

abbrev Map (K V : Type*) := K → Option V

namespace Map

variable {K L V : Type*}

def empty : Map K V := fun _ => none

/-- The value that `operator[]` gives. -/
def entry (m : Map K V) (fresh : V) (key : K) : V := (m key).getD fresh

theorem eq_some_entry {m : Map K V} {key : K} (fresh : V) (present : (m key).isSome) :
    m key = some (m.entry fresh key) := by
  obtain ⟨value, found⟩ := Option.isSome_iff_exists.mp present
  rw [entry, found]
  rfl

/-- What is read behind a key is not there when the key is not. -/
theorem ne_none_of_entry {m : Map K (Map L V)} {key : K} {inner : L} {value : V}
    (found : m.entry empty key inner = some value) : m key ≠ none := by
  intro missing
  rw [entry, missing] at found
  cases found

variable [DecidableEq K]

/-- A change through `operator[]`. -/
def modify (m : Map K V) (fresh : V) (key : K) (change : V → V) : Map K V :=
  Function.update m key (some (change (m.entry fresh key)))

def assign (m : Map K V) (key : K) (value : V) : Map K V := Function.update m key (some value)

variable (m : Map K V) (fresh value : V) (key : K) (change : V → V)

@[simp] theorem modify_self : m.modify fresh key change key = some (change (m.entry fresh key)) :=
  Function.update_self ..

theorem modify_of_ne {other : K} (apart : other ≠ key) : m.modify fresh key change other = m other :=
  Function.update_of_ne apart ..

theorem modify_id {m : Map K V} (present : m key ≠ none) : m.modify fresh key id = m := by
  rw [modify, id_eq, ← eq_some_entry fresh (Option.isSome_iff_ne_none.mpr present), Function.update_eq_self]

@[simp] theorem entry_modify_self : (m.modify fresh key change).entry fresh key = change (m.entry fresh key) := by
  rw [entry, modify_self, Option.getD_some]

theorem entry_modify_of_ne {other : K} (apart : other ≠ key) :
    (m.modify fresh key change).entry fresh other = m.entry fresh other := by
  rw [entry, modify_of_ne m fresh key change apart]
  rfl

@[simp] theorem assign_self : m.assign key value key = some value := Function.update_self ..

theorem entry_assign_self : (m.assign key value).entry fresh key = value := by
  rw [entry, assign_self, Option.getD_some]

theorem assign_of_ne {other : K} (apart : other ≠ key) : m.assign key value other = m other :=
  Function.update_of_ne apart ..

section Assignments

variable {m : Map K V} {entries : List (K × V)} {key : K} {value : V}

/-- After assignments a key has one of the values that were assigned to it, or its old one. -/
theorem mem_of_foldl_assign (found : entries.foldl (fun m entry => m.assign entry.1 entry.2) m key = some value) :
    (key, value) ∈ entries ∨ m key = some value := by
  induction entries generalizing m with
  | nil => exact .inr found
  | cons entry entries ih =>
    rcases ih found with later | earlier
    · exact .inl (List.mem_cons_of_mem _ later)
    · change m.assign entry.1 entry.2 key = some value at earlier
      by_cases same : key = entry.1
      · rw [same, assign_self] at earlier
        cases earlier
        rw [same]
        exact .inl List.mem_cons_self
      · rw [assign_of_ne _ _ _ same] at earlier
        exact .inr earlier

/-- A key that is assigned a value has one. -/
theorem isSome_foldl_assign (listed : (∃ value, (key, value) ∈ entries) ∨ (m key).isSome) :
    (entries.foldl (fun m entry => m.assign entry.1 entry.2) m key).isSome := by
  induction entries generalizing m with
  | nil =>
    rcases listed with ⟨value, member⟩ | old
    · exact absurd member List.not_mem_nil
    · exact old
  | cons entry entries ih =>
    apply ih
    change _ ∨ (m.assign entry.1 entry.2 key).isSome
    by_cases same : key = entry.1
    · right
      rw [same, assign_self]
      rfl
    · rw [assign_of_ne _ _ _ same]
      rcases listed with ⟨value, member⟩ | old
      · rcases List.mem_cons.mp member with first | later
        · exact absurd (congrArg Prod.fst first) same
        · exact .inl ⟨value, later⟩
      · exact .inr old

end Assignments

end Map

end Cxx
