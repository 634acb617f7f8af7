import Mathlib.Data.Nat.Bitwise
import Mathlib.Data.BitVec

/-! # Positional packing of bit fields

Shift-and-or code writes a word as a sequence of fixed-width digits, and shift-and-mask code reads
them back. Both are read here as natural-number arithmetic, so a layout question becomes Euclidean
division by powers of two.
-/

namespace Bits

variable {w : ℕ}

/-- The mask `(1 << n) - 1`. -/
def lowMask (w n : ℕ) : BitVec w := (1#w <<< n) - 1#w

theorem lowMask_toNat {n : ℕ} (bound : n < w) : (lowMask w n).toNat = 2 ^ n - 1 := by
  have small : 2 ^ n < 2 ^ w := Nat.pow_lt_pow_right (by omega) bound
  have positive : 0 < 2 ^ n := Nat.two_pow_pos n
  have one : (1#w).toNat = 1 := by
    rw [BitVec.toNat_ofNat, Nat.mod_eq_of_lt]
    exact Nat.one_lt_two_pow (by omega)
  have shifted : (1#w <<< n).toNat = 2 ^ n := by
    rw [BitVec.toNat_shiftLeft, one, Nat.shiftLeft_eq, Nat.one_mul, Nat.mod_eq_of_lt small]
  rw [lowMask, BitVec.toNat_sub_of_le, shifted, one]
  rw [BitVec.le_def, shifted, one]
  exact positive

/-- Masking the low `n` bits is the remainder modulo `2 ^ n`. -/
theorem toNat_and_lowMask (x : BitVec w) {n : ℕ} (bound : n < w) :
    (x &&& lowMask w n).toNat = x.toNat % 2 ^ n := by
  rw [BitVec.toNat_and, lowMask_toNat bound, Nat.and_two_pow_sub_one_eq_mod]

/-- Reading a field is division by its weight, then the remainder by its range. -/
theorem toNat_slice (x : BitVec w) (k : ℕ) {n : ℕ} (bound : n < w) :
    (x >>> k &&& lowMask w n).toNat = x.toNat / 2 ^ k % 2 ^ n := by
  rw [toNat_and_lowMask _ bound, BitVec.toNat_ushiftRight, Nat.shiftRight_eq_div_pow]

/-- Appending a digit below a value that leaves room for it. -/
theorem toNat_append_digit (x y : BitVec w) (k : ℕ) (room : x.toNat * 2 ^ k < 2 ^ w)
    (digit : y.toNat < 2 ^ k) : (x <<< k ||| y).toNat = x.toNat * 2 ^ k + y.toNat := by
  rw [BitVec.toNat_or, BitVec.toNat_shiftLeft, Nat.shiftLeft_eq, Nat.mod_eq_of_lt room,
    ← Nat.shiftLeft_eq, ← Nat.shiftLeft_add_eq_or_of_lt digit, Nat.shiftLeft_eq]

/-- Appending a masked digit, the step that packing code repeats. -/
theorem toNat_append_masked (x y : BitVec w) {k : ℕ} (bound : k < w)
    (room : x.toNat * 2 ^ k < 2 ^ w) :
    (x <<< k ||| y &&& lowMask w k).toNat = x.toNat * 2 ^ k + y.toNat % 2 ^ k := by
  have digit : (y &&& lowMask w k).toNat = y.toNat % 2 ^ k := toNat_and_lowMask y bound
  rw [toNat_append_digit _ _ _ room (by rw [digit]; exact Nat.mod_lt _ (Nat.two_pow_pos k)), digit]

theorem toNat_append {v : ℕ} (x : BitVec w) (y : BitVec v) :
    (x ++ y).toNat = x.toNat * 2 ^ v + y.toNat := by
  rw [BitVec.toNat_append, ← Nat.shiftLeft_add_eq_or_of_lt y.isLt, Nat.shiftLeft_eq]

theorem append_inj {v : ℕ} {x x' : BitVec w} {y y' : BitVec v} : x ++ y = x' ++ y' ↔ x = x' ∧ y = y' := by
  constructor
  · intro same
    have numbers := congrArg BitVec.toNat same
    rw [toNat_append, toNat_append, Nat.mul_comm, Nat.mul_comm x'.toNat] at numbers
    have quotients := congrArg (· / 2 ^ v) numbers
    have rests := congrArg (· % 2 ^ v) numbers
    simp only [Nat.mul_add_div (Nat.two_pow_pos v), Nat.div_eq_of_lt y.isLt, Nat.div_eq_of_lt y'.isLt,
      Nat.add_zero] at quotients
    simp only [Nat.mul_add_mod, Nat.mod_eq_of_lt y.isLt, Nat.mod_eq_of_lt y'.isLt] at rests
    exact ⟨BitVec.eq_of_toNat_eq quotients, BitVec.eq_of_toNat_eq rests⟩
  · rintro ⟨rfl, rfl⟩
    rfl

/-- A flag outside the mask does not change what the mask selects. -/
theorem or_and_of_disjoint (a b c : BitVec w) (disjoint : b &&& c = 0#w) :
    (a ||| b) &&& c = a &&& c := by
  have distributed : (a ||| b) &&& c = (a &&& c) ||| (b &&& c) := by
    ext i bound
    simp only [BitVec.getElem_and, BitVec.getElem_or, Bool.and_or_distrib_right]
  rw [distributed, disjoint, BitVec.or_zero]

end Bits
