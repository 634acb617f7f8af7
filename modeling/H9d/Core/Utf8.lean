import Mathlib.Data.List.Basic

/-! # Texts in UTF-8

The characters of a string are its bytes. What a byte may be depends on the bytes that are still to come of
the character before it: no byte is written longer than needed, and there are no surrogates.
-/

namespace Utf8

/-- The bytes that are still to come, each with its least and its greatest value. -/
abbrev Pending := List (ℕ × ℕ)

/-- What the first byte of a character asks for. -/
def lead (b : ℕ) : Option Pending :=
  if b < 0x80 then some []
  else if 0xc2 ≤ b ∧ b ≤ 0xdf then some [(0x80, 0xbf)]
  else if b = 0xe0 then some [(0xa0, 0xbf), (0x80, 0xbf)]
  else if b = 0xed then some [(0x80, 0x9f), (0x80, 0xbf)]
  else if 0xe1 ≤ b ∧ b ≤ 0xef then some [(0x80, 0xbf), (0x80, 0xbf)]
  else if b = 0xf0 then some [(0x90, 0xbf), (0x80, 0xbf), (0x80, 0xbf)]
  else if 0xf1 ≤ b ∧ b ≤ 0xf3 then some [(0x80, 0xbf), (0x80, 0xbf), (0x80, 0xbf)]
  else if b = 0xf4 then some [(0x80, 0x8f), (0x80, 0xbf), (0x80, 0xbf)]
  else none

def step? : Pending → ℕ → Option Pending
  | [], b => lead b
  | (low, high) :: later, b => if low ≤ b ∧ b ≤ high then some later else none

def read? (pending : Pending) (bytes : List Char) : Option Pending :=
  bytes.foldlM (fun pending c => step? pending c.toNat) pending

/-- The bytes are whole characters. -/
def Valid (s : String) : Prop := read? [] s.toList = some []

instance (s : String) : Decidable (Valid s) := inferInstanceAs (Decidable (_ = _))

theorem valid_append {s t : String} (first : Valid s) (second : Valid t) : Valid (s ++ t) := by
  rw [Valid, read?, String.toList_append, List.foldlM_append]
  exact (congrArg (· >>= _) first).trans second

/-- Every byte is a character of its own. -/
def Plain (s : List Char) : Prop := ∀ c ∈ s, c.toNat < 0x80

instance (s : List Char) : Decidable (Plain s) := List.decidableBAll (fun c : Char => c.toNat < 0x80) s

theorem Plain.read {s : List Char} (plain : Plain s) : read? [] s = some [] := by
  induction s with
  | nil => rfl
  | cons c s ih =>
    obtain ⟨first, later⟩ := List.forall_mem_cons.mp plain
    have next : step? [] c.toNat = some [] := if_pos first
    rw [read?, List.foldlM_cons, next]
    exact ih later

theorem Plain.valid {s : String} (plain : Plain s.toList) : Valid s := plain.read

/-- A number is written with digits. -/
theorem valid_toString (n : ℕ) : Valid (toString n) := by
  apply Plain.valid
  intro c member
  rw [Nat.toString_eq_ofList_toDigits, String.toList_ofList] at member
  have digit : c.isDigit = true := Nat.isDigit_of_mem_toDigits (by decide) (by decide) member
  simp only [Char.isDigit, Bool.and_eq_true, decide_eq_true_eq] at digit
  have below : c.val.toNat ≤ 57 := UInt32.le_iff_toNat_le.mp digit.2
  exact Nat.lt_of_le_of_lt below (by decide)

/-- The letter z with a caron is two bytes, and its second byte alone is no text. -/
example : Valid "\u00c5\u00be" ∧ ¬Valid "\u00be" := by decide

end Utf8
