import H9d.Core.Buffer
import H9d.Core.Json

/-! # Strings in C

A string ends at its first zero character. A loop that writes one into a block of memory counts the
characters in an `int`, so it can fail in two ways: it leaves the block, or it counts too far.
-/

namespace Cxx

/-- The character that ends a string. -/
def nul : Char := Char.ofNat 0

@[ext] structure CString where
  chars : List Char
  noNul : nul ∉ chars
  deriving DecidableEq

/-- The first thing that goes wrong. -/
inductive MemoryFault
  | outside
  | overflow
  deriving DecidableEq, Repr

def INT_MAX : ℕ := 2 ^ 31 - 1

/-- `i + 1` for an `int`. -/
def increment (i : ℕ) : Except MemoryFault ℕ := if i < INT_MAX then .ok (i + 1) else .error .overflow

namespace Buffer

def store {α : Type} (b : Buffer α) (j : ℕ) (c : α) : Except MemoryFault (Buffer α) :=
  match b.write j [c] with
  | some next => .ok next
  | none => .error .outside

/-- The characters before the first zero. -/
def text : Buffer Char → Option (List Char)
  | [] => none
  | none :: _ => none
  | some c :: b => if c = nul then some [] else (text b).map (c :: ·)

theorem nul_notMem_of_text {b : Buffer Char} {chars : List Char} (read : b.text = some chars) : nul ∉ chars := by
  induction b generalizing chars with
  | nil => cases read
  | cons cell b ih =>
    cases cell with
    | none => cases read
    | some c =>
      rw [text] at read
      split at read
      · obtain rfl := Option.some.inj read
        exact List.not_mem_nil
      · next other =>
        obtain ⟨rest, later, rfl⟩ := Option.map_eq_some_iff.mp read
        rw [List.mem_cons, not_or]
        exact ⟨fun same => other same.symm, ih later⟩

def toCString (b : Buffer Char) : Except MemoryFault CString :=
  match read : b.text with
  | some chars => .ok ⟨chars, nul_notMem_of_text read⟩
  | none => .error .outside

/-- The end of a string of `j` characters, in a block that is then cut to it. -/
def terminate (b : Buffer Char) (j : ℕ) : Except MemoryFault CString := do
  let b ← b.store j nul
  toCString (b.realloc (← increment j))

end Buffer

section Text

open Nlohmann Buffer

theorem increment_of_lt {i : ℕ} (below : i < INT_MAX) : increment i = .ok (i + 1) := if_pos below

theorem increment_of_le {i : ℕ} (full : INT_MAX ≤ i) : increment i = .error .overflow := if_neg full.not_gt

/-- A block that begins with some text has room for one more character. -/
theorem store_of_prefix {α : Type} {b : Buffer α} {out : List α} (begins : out.map some <+: b)
    (room : out.length < b.length) (c : α) :
    ∃ next, b.store out.length c = .ok next ∧ next.length = b.length ∧ (out ++ [c]).map some <+: next := by
  obtain ⟨next, written, length, longer⟩ := write_of_prefix begins [c] room
  refine ⟨next, ?_, length, longer⟩
  rw [store, written]

theorem text_eq {b : Buffer Char} {chars : List Char} (begins : (chars ++ [nul]).map some <+: b)
    (noNul : nul ∉ chars) : b.text = some chars := by
  obtain ⟨rest, rfl⟩ := begins
  induction chars with
  | nil => rfl
  | cons c chars ih =>
    rw [List.mem_cons, not_or] at noNul
    obtain ⟨here, later⟩ := noNul
    rw [List.cons_append, List.map_cons, List.cons_append, text, if_neg fun same => here same.symm, ih later]
    rfl

theorem toCString_eq {b : Buffer Char} {chars : List Char} (read : b.text = some chars) (noNul : nul ∉ chars) :
    b.toCString = .ok ⟨chars, noNul⟩ := by
  rw [toCString]
  split
  · next found =>
    obtain rfl := Option.some.inj (found.symm.trans read)
    rfl
  · next missing => cases missing.symm.trans read

/-- A string that was written to its end. -/
theorem terminate_eq {b : Buffer Char} {s : CString} (begins : s.chars.map some <+: b)
    (room : s.chars.length < b.length) :
    b.terminate s.chars.length = if s.chars.length < INT_MAX then .ok s else .error .overflow := by
  obtain ⟨next, stored, length, longer⟩ := store_of_prefix begins room nul
  rw [terminate, stored, ok_bind]
  split
  · next below =>
    rw [increment_of_lt below, ok_bind]
    refine toCString_eq (text_eq ?_ s.noNul) s.noNul
    have size : ((s.chars ++ [nul]).map some : Buffer Char).length = s.chars.length + 1 := by simp
    rw [realloc]
    refine List.IsPrefix.trans ?_ (List.prefix_append _ _)
    rw [List.prefix_take_iff]
    exact ⟨longer, size.le⟩
  · next above =>
    rw [increment_of_le (not_lt.mp above)]
    rfl

end Text

end Cxx
