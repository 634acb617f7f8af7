import Mathlib.Data.List.Basic

/-! # The longest match

A scanner knows for each of its patterns how much of the input it matches, and takes the pattern that matches
most; of several ones, the first. A pattern that matches nothing is not taken.
-/

namespace LongestMatch

variable {P α : Type*} (len : P → List α → ℕ) (input : List α)

def longest : List P → Option (P × ℕ)
  | [] => none
  | p :: ps =>
      match longest ps with
      | some (q, n) => if n ≤ len p input then some (p, len p input) else some (q, n)
      | none => if len p input = 0 then none else some (p, len p input)

/-- The pattern is taken before those that follow it and instead of those in front of it. -/
structure Takes (before : List P) (p : P) (after : List P) : Prop where
  some : 0 < len p input
  more : ∀ q ∈ before, len q input < len p input
  most : ∀ q ∈ after, len q input ≤ len p input

variable {len input}

theorem longest_eq_none_iff {ps : List P} : longest len input ps = none ↔ ∀ p ∈ ps, len p input = 0 := by
  induction ps with
  | nil => exact iff_of_true rfl nofun
  | cons p ps ih =>
    rw [longest, List.forall_mem_cons, ← ih]
    split
    · next found =>
      rw [found]
      exact iff_of_false (by split <;> exact nofun) fun both => by cases both.2
    · next missing =>
      rw [missing, and_iff_left rfl]
      split
      · next nothing => exact iff_of_true rfl nothing
      · next something => exact iff_of_false nofun something

theorem Takes.le {before after : List P} {p q : P} (takes : Takes len input before p after)
    (member : q ∈ before ++ p :: after) : len q input ≤ len p input := by
  rcases List.mem_append.mp member with earlier | later
  · exact Nat.le_of_lt (takes.more q earlier)
  · rcases List.mem_cons.mp later with rfl | later
    · exact Nat.le_refl _
    · exact takes.most q later

theorem takes_of_longest {ps : List P} {p : P} {n : ℕ} (found : longest len input ps = some (p, n)) :
    n = len p input ∧ ∃ before after, ps = before ++ p :: after ∧ Takes len input before p after := by
  induction ps generalizing p n with
  | nil => cases found
  | cons first ps ih =>
    rw [longest] at found
    split at found
    · next q m later =>
      obtain ⟨rfl, before, after, rfl, takes⟩ := ih later
      split at found
      · next more =>
        obtain ⟨rfl, rfl⟩ := Prod.mk.inj (Option.some.inj found)
        refine ⟨rfl, [], before ++ q :: after, rfl, ⟨Nat.lt_of_lt_of_le takes.some more, nofun, ?_⟩⟩
        exact fun r member => Nat.le_trans (takes.le member) more
      · next less =>
        obtain ⟨rfl, rfl⟩ := Prod.mk.inj (Option.some.inj found)
        refine ⟨rfl, first :: before, after, rfl, ⟨takes.some, ?_, takes.most⟩⟩
        exact List.forall_mem_cons.mpr ⟨Nat.lt_of_not_le less, takes.more⟩
    · next nothing =>
      split at found
      · cases found
      · next something =>
        obtain ⟨rfl, rfl⟩ := Prod.mk.inj (Option.some.inj found)
        refine ⟨rfl, [], ps, rfl, ⟨Nat.pos_of_ne_zero something, nofun, fun r member => ?_⟩⟩
        rw [longest_eq_none_iff.mp nothing r member]
        exact Nat.zero_le _

theorem longest_of_takes {before after : List P} {p : P} (takes : Takes len input before p after) :
    longest len input (before ++ p :: after) = some (p, len p input) := by
  induction before with
  | nil =>
    rw [List.nil_append, longest]
    split
    · next q n found =>
      obtain ⟨rfl, before, after', rfl, -⟩ := takes_of_longest found
      exact if_pos (takes.most q (by simp))
    · exact if_neg (Nat.ne_of_gt takes.some)
  | cons q before ih =>
    obtain ⟨less, more⟩ := List.forall_mem_cons.mp takes.more
    rw [List.cons_append, longest, ih ⟨takes.some, more, takes.most⟩]
    exact if_neg (Nat.not_le_of_gt less)

end LongestMatch
