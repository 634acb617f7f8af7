import Mathlib.Data.BitVec
import Mathlib.Tactic.Ring

/-! # Numbers as bytes, the most significant first

A list of bytes is a number in base 256, and a number is cut to as many bytes as it is given. What is
beyond them is lost, so writing and reading back is the remainder.
-/

namespace Bytes

/-- The number that the bytes are the digits of. -/
def value (bytes : List (BitVec 8)) : ℕ := bytes.foldl (fun n b => 256 * n + b.toNat) 0

/-- The last `width` digits of a number. -/
def ofValue : ℕ → ℕ → List (BitVec 8)
  | 0, _ => []
  | width + 1, n => BitVec.ofNat 8 (n / 256 ^ width) :: ofValue width n

@[simp] theorem value_nil : value [] = 0 := rfl

private theorem foldl_value (bytes : List (BitVec 8)) (n : ℕ) :
    bytes.foldl (fun n b => 256 * n + b.toNat) n = n * 256 ^ bytes.length + value bytes := by
  induction bytes generalizing n with
  | nil => simp
  | cons b bytes ih =>
    rw [value, List.foldl_cons, List.foldl_cons, ih, ih (256 * 0 + b.toNat), List.length_cons, pow_succ]
    ring

/-- One more digit at the end, as a loop reads it. -/
theorem value_concat (bytes : List (BitVec 8)) (b : BitVec 8) :
    value (bytes ++ [b]) = 256 * value bytes + b.toNat := by
  rw [value, List.foldl_append]
  rfl

@[simp] theorem value_replicate_zero (n : ℕ) : value (List.replicate n 0) = 0 := by
  induction n with
  | zero => rfl
  | succ n ih =>
    rw [List.replicate_succ', value_concat, ih]
    rfl

/-- A word that is shifted by a digit loses what is above its width, and the digit takes the free bits. -/
theorem shiftLeft_or_setWidth {w : ℕ} (n : ℕ) (b : BitVec 8) :
    BitVec.ofNat w n <<< 8 ||| b.setWidth w = BitVec.ofNat w (256 * n + b.toNat) := by
  have digit : b.toNat < 2 ^ 8 := b.isLt
  have split : 256 * n + b.toNat = 2 ^ 8 * n + b.toNat := rfl
  apply BitVec.eq_of_getLsbD_eq
  intro i below
  rw [split, BitVec.getLsbD_or, BitVec.getLsbD_shiftLeft, BitVec.getLsbD_setWidth, BitVec.getLsbD_ofNat,
    BitVec.getLsbD_ofNat, Nat.testBit_two_pow_mul_add _ digit]
  by_cases low : i < 8
  · simp [below, low, BitVec.getLsbD]
  · have high : b.getLsbD i = false := BitVec.getLsbD_of_ge _ _ (by omega)
    have shifted : i - 8 < w := by omega
    simp [below, low, high, shifted]

theorem value_cons (b : BitVec 8) (bytes : List (BitVec 8)) :
    value (b :: bytes) = b.toNat * 256 ^ bytes.length + value bytes := by
  rw [value, List.foldl_cons, foldl_value]
  simp

@[simp] theorem length_ofValue (width n : ℕ) : (ofValue width n).length = width := by
  induction width with
  | zero => rfl
  | succ width ih => rw [ofValue, List.length_cons, ih]

theorem value_ofValue (width n : ℕ) : value (ofValue width n) = n % 256 ^ width := by
  induction width with
  | zero => simp [ofValue, Nat.mod_one]
  | succ width ih =>
    have digit : (BitVec.ofNat 8 (n / 256 ^ width)).toNat = n / 256 ^ width % 256 := BitVec.toNat_ofNat _ _
    rw [ofValue, value_cons, length_ofValue, ih, digit, pow_succ, Nat.mod_mul]
    ring

theorem value_ofValue_of_lt {width n : ℕ} (fits : n < 256 ^ width) : value (ofValue width n) = n := by
  rw [value_ofValue, Nat.mod_eq_of_lt fits]

/-- Only a number below the bound has a representation of this many bytes. -/
theorem value_lt (bytes : List (BitVec 8)) : value bytes < 256 ^ bytes.length := by
  induction bytes with
  | nil => simp
  | cons b bytes ih =>
    have digit := b.isLt
    rw [value_cons, List.length_cons, pow_succ']
    calc
      _ < b.toNat * 256 ^ bytes.length + 256 ^ bytes.length := Nat.add_lt_add_left ih _
      _ = (b.toNat + 1) * 256 ^ bytes.length := by ring
      _ ≤ 256 * 256 ^ bytes.length := Nat.mul_le_mul_right _ (by omega)

/-- As many bytes that give one number are the same bytes. -/
theorem value_inj {first second : List (BitVec 8)} (length : first.length = second.length)
    (same : value first = value second) : first = second := by
  induction first generalizing second with
  | nil => exact (List.length_eq_zero_iff.mp length.symm).symm
  | cons b bytes ih =>
    cases second with
    | nil => exact absurd length (Nat.succ_ne_zero _)
    | cons c others =>
      have tails : bytes.length = others.length := Nat.succ.inj length
      have low := value_lt bytes
      have low' := value_lt others
      rw [value_cons, value_cons, ← tails] at same
      rw [← tails] at low'
      have digit : b.toNat = c.toNat := by
        calc
          b.toNat = (b.toNat * 256 ^ bytes.length + value bytes) / 256 ^ bytes.length := by
            rw [mul_comm, Nat.mul_add_div (Nat.pow_pos (by decide)), Nat.div_eq_of_lt low, add_zero]
          _ = c.toNat := by
            rw [same, mul_comm, Nat.mul_add_div (Nat.pow_pos (by decide)), Nat.div_eq_of_lt low', add_zero]
      obtain rfl := BitVec.eq_of_toNat_eq digit
      rw [ih tails (Nat.add_left_cancel same)]

end Bytes
