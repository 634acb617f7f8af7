import H9d.Core.BigEndian

/-! # Single bits of a big-endian number

The bits of a number are counted from the least significant one, so they lie in the bytes from the back.
Writing one of them in its byte is writing it in the number.
-/

namespace Bytes

/-- A byte with one bit written. -/
def writeBit (on : Bool) (k : ℕ) (b : BitVec 8) : BitVec 8 :=
  if on then b ||| 1#8 <<< k else b &&& ~~~(1#8 <<< k)

/-- The bytes of a number with one bit written; there is no bit beyond them. -/
def assignBit (on : Bool) (i : ℕ) : List (BitVec 8) → List (BitVec 8)
  | [] => []
  | b :: bytes =>
      if i / 8 = bytes.length then writeBit on (i % 8) b :: bytes else b :: assignBit on i bytes

/-- A number with one bit written. -/
def assign (on : Bool) (i n : ℕ) : ℕ := if on then n ||| 2 ^ i else n ^^^ (n &&& 2 ^ i)

@[simp] theorem testBit_assign (on : Bool) (i n j : ℕ) :
    (assign on i n).testBit j = if j = i then on else n.testBit j := by
  rcases eq_or_ne j i with rfl | other
  · cases on <;> simp [assign]
  · cases on <;> simp [assign, other, other.symm]

@[simp] theorem length_assignBit (on : Bool) (i : ℕ) (bytes : List (BitVec 8)) :
    (assignBit on i bytes).length = bytes.length := by
  induction bytes with
  | nil => rfl
  | cons b bytes ih =>
    rw [assignBit]
    split
    · rfl
    · simp [ih]

theorem getLsbD_writeBit (on : Bool) {k j : ℕ} (inside : j < 8) (b : BitVec 8) :
    (writeBit on k b).getLsbD j = if j = k then on else b.getLsbD j := by
  rcases eq_or_ne j k with rfl | other
  · cases on <;> simp [writeBit, inside]
  · cases on <;> simp [writeBit, other, inside] <;> intros <;> omega

/-- The bits of a number with one more byte in front. -/
theorem testBit_value_cons (b : BitVec 8) (bytes : List (BitVec 8)) (j : ℕ) :
    (value (b :: bytes)).testBit j =
      if j < 8 * bytes.length then (value bytes).testBit j else b.getLsbD (j - 8 * bytes.length) := by
  have low := value_lt bytes
  have power : 256 ^ bytes.length = 2 ^ (8 * bytes.length) := by
    rw [Nat.pow_mul]
  rw [power] at low
  rw [value_cons, power, Nat.mul_comm, Nat.testBit_two_pow_mul_add _ low]
  rfl

/-- The bit is written in the number that the bytes are. -/
theorem value_assignBit (on : Bool) {i : ℕ} {bytes : List (BitVec 8)} (inside : i < 8 * bytes.length) :
    value (assignBit on i bytes) = assign on i (value bytes) := by
  apply Nat.eq_of_testBit_eq
  induction bytes with
  | nil => exact absurd inside (Nat.not_lt_zero i)
  | cons b bytes ih =>
    intro j
    rw [testBit_assign, assignBit, testBit_value_cons]
    split
    · next here =>
      rw [testBit_value_cons]
      rcases Nat.lt_or_ge j (8 * bytes.length) with low | high
      · simp only [if_pos low, if_neg (show j ≠ i by omega)]
      · simp only [if_neg (Nat.not_lt.mpr high)]
        rcases Nat.lt_or_ge (j - 8 * bytes.length) 8 with digit | beyond
        · rw [getLsbD_writeBit on digit]
          congr 1
          exact propext (by omega)
        · rw [BitVec.getLsbD_of_ge _ _ beyond, BitVec.getLsbD_of_ge _ _ beyond, if_neg]
          rw [List.length_cons] at inside
          omega
    · next elsewhere =>
      have below : i < 8 * bytes.length := by
        rw [List.length_cons] at inside
        omega
      rw [testBit_value_cons, length_assignBit, ih below, testBit_assign]
      rcases Nat.lt_or_ge j (8 * bytes.length) with low | high
      · simp only [if_pos low]
      · simp only [if_neg (Nat.not_lt.mpr high), if_neg (show j ≠ i by omega)]

/-- A bit inside the width leaves the number inside. -/
theorem assign_lt (on : Bool) {i n width : ℕ} (bit : i < 8 * width) (fits : n < 256 ^ width) :
    assign on i n < 256 ^ width := by
  have room : 256 ^ width = 2 ^ (8 * width) := by rw [Nat.pow_mul]
  rw [room] at fits ⊢
  apply Nat.lt_pow_two_of_testBit
  intro j beyond
  rw [testBit_assign, if_neg (by omega)]
  exact Nat.testBit_lt_two_pow (fits.trans_le (Nat.pow_le_pow_right (by decide) beyond))

theorem ofValue_value (bytes : List (BitVec 8)) : ofValue bytes.length (value bytes) = bytes := by
  apply value_inj (length_ofValue _ _)
  exact value_ofValue_of_lt (value_lt bytes)

theorem assignBit_ofValue (on : Bool) {i n width : ℕ} (bit : i < 8 * width) (fits : n < 256 ^ width) :
    assignBit on i (ofValue width n) = ofValue width (assign on i n) := by
  apply value_inj
  · rw [length_assignBit, length_ofValue, length_ofValue]
  · rw [value_assignBit on (by rwa [length_ofValue]), value_ofValue_of_lt fits,
      value_ofValue_of_lt (assign_lt on bit fits)]

end Bytes
