import Mathlib.Data.BitVec
import Mathlib.Data.List.TakeWhile

/-! # Allocated memory

A buffer is a block of cells, and a cell that was never written holds nothing. A write beyond the last
cell and the use of an empty cell are failures, so a program that does not fail keeps to its buffers.
-/

namespace Cxx

abbrev Buffer (α : Type*) := List (Option α)

namespace Buffer

variable {α : Type*}

def malloc (n : ℕ) : Buffer α := List.replicate n none

/-- The new cells of a larger block are empty. -/
def realloc (b : Buffer α) (n : ℕ) : Buffer α := b.take n ++ List.replicate (n - b.length) none

def write (b : Buffer α) (start : ℕ) (xs : List α) : Option (Buffer α) :=
  if start + xs.length ≤ b.length then
    some (b.take start ++ xs.map some ++ b.drop (start + xs.length))
  else none

/-- All cells of the block. -/
def load : Buffer α → Option (List α)
  | [] => some []
  | none :: _ => none
  | some a :: b => (load b).map (a :: ·)

/-- The bytes before the first zero. -/
def cString : Buffer (BitVec 8) → Option (List (BitVec 8))
  | [] => none
  | none :: _ => none
  | some c :: b => if c = 0 then some [] else (cString b).map (c :: ·)

/-- A loop that copies the first `max` elements, cell by cell. -/
def copy (xs : List α) (max : ℕ) (b : Buffer α) : Option (Buffer α) :=
  (List.range max).foldlM (fun b i => xs[i]?.bind fun x => b.write i [x]) b

@[simp] theorem length_malloc (n : ℕ) : (malloc n : Buffer α).length = n := List.length_replicate

@[simp] theorem length_realloc (b : Buffer α) (n : ℕ) : (b.realloc n).length = n := by
  rw [realloc, List.length_append, List.length_take, List.length_replicate]
  omega

theorem load_map_some (xs : List α) : load (xs.map some) = some xs := by
  induction xs with
  | nil => rfl
  | cons x xs ih =>
    rw [List.map_cons, load, ih]
    rfl

/-- A write that continues what the block begins with. -/
theorem write_of_prefix {b : Buffer α} {xs : List α} (begins : xs.map some <+: b) (ys : List α)
    (room : xs.length + ys.length ≤ b.length) :
    ∃ next, b.write xs.length ys = some next ∧ next.length = b.length ∧ (xs ++ ys).map some <+: next := by
  obtain ⟨rest, rfl⟩ := begins
  refine ⟨_, if_pos room, ?_, ?_⟩
  · simp only [List.length_append, List.length_take, List.length_drop, List.length_map] at room ⊢
    omega
  · rw [List.take_left' (by rw [List.length_map]), ← List.map_append]
    exact List.prefix_append _ _

/-- Text in front of a zero is read as a string up to its own first zero. -/
theorem cString_of_prefix {b : Buffer (BitVec 8)} {text : List (BitVec 8)}
    (begins : (text ++ [0]).map some <+: b) : b.cString = some (text.takeWhile (· ≠ 0)) := by
  obtain ⟨rest, rfl⟩ := begins
  induction text with
  | nil => rfl
  | cons c text ih =>
    rw [List.cons_append, List.map_cons, List.cons_append, cString, List.takeWhile_cons, ih]
    by_cases zero : c = 0
    · rw [if_pos zero, if_neg (by simpa using zero)]
    · rw [if_neg zero, if_pos (by simpa using zero)]
      rfl

theorem copy_succ (xs : List α) (max : ℕ) (b : Buffer α) :
    copy xs (max + 1) b = (copy xs max b).bind fun b => xs[max]?.bind fun x => b.write max [x] := by
  rw [copy, List.range_succ, List.foldlM_append]
  cases copied : copy xs max b with
  | none => rw [← copy, copied]; rfl
  | some b => rw [← copy, copied]; simp

theorem write_next (cells rest : Buffer α) (c : Option α) (x : α) :
    (cells ++ c :: rest : Buffer α).write cells.length [x] = some (cells ++ some x :: rest) := by
  rw [write, if_pos (by simp), List.take_left, List.length_singleton, List.drop_length_add_append]
  simp

theorem write_full (cells : Buffer α) (x : α) : cells.write cells.length [x] = none := by
  rw [write, if_neg (by simp)]

/-- The loop stays inside exactly if both the elements and the cells suffice. -/
theorem copy_eq (xs : List α) (max : ℕ) (b : Buffer α) :
    copy xs max b =
      if max ≤ xs.length ∧ max ≤ b.length then some ((xs.take max).map some ++ b.drop max) else none := by
  induction max with
  | zero => simp [copy]
  | succ max ih =>
    rw [copy_succ, ih]
    by_cases before : max ≤ xs.length ∧ max ≤ b.length
    · have start : ((xs.take max).map some : Buffer α).length = max := by
        rw [List.length_map, List.length_take]
        omega
      rw [if_pos before, Option.bind_some]
      rcases before.1.lt_or_eq with given | exhausted
      · rw [List.getElem?_eq_getElem given, Option.bind_some]
        rcases before.2.lt_or_eq with room | full
        · have next := write_next ((xs.take max).map some) (b.drop (max + 1)) b[max] xs[max]
          rw [start] at next
          rw [if_pos ⟨given, room⟩, List.drop_eq_getElem_cons room, next, List.take_succ_eq_append_getElem given,
            List.map_append, List.append_assoc]
          rfl
        · have stop := write_full ((xs.take max).map some) xs[max]
          rw [start] at stop
          rw [List.drop_eq_nil_of_le full.ge, List.append_nil, stop, if_neg (by omega)]
      · rw [List.getElem?_eq_none exhausted.ge, if_neg (by omega)]
        rfl
    · rw [if_neg before, if_neg (by omega)]
      rfl

end Buffer

end Cxx
