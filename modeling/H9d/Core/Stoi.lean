import H9d.Core.Outcome
import Mathlib.Data.BitVec
import Mathlib.Data.List.TakeWhile
import Mathlib.Tactic.Ring

/-! # Hexadecimal numbers in strings

`std::stoi` with base 16, over bytes: blanks, a sign and a `0x` are skipped, digits are read as long
as there are any, and a result that `int` cannot hold is an exception like a missing digit.
-/

namespace Cxx

inductive StringError
  | invalidArgument
  | outOfRange
  deriving DecidableEq, Repr

def isSpace (c : BitVec 8) : Bool := c == 0x20 || ((0x09#8).ule c && c.ule 0x0d#8)

def hexDigit? (c : BitVec 8) : Option ℕ :=
  if (0x30#8).ule c && c.ule 0x39#8 then some (c.toNat - 0x30)
  else if (0x41#8).ule c && c.ule 0x46#8 then some (c.toNat - 0x37)
  else if (0x61#8).ule c && c.ule 0x66#8 then some (c.toNat - 0x57)
  else none

/-- The lower-case digit of a number below 16. -/
def hexChar (d : ℕ) : BitVec 8 := if d < 10 then BitVec.ofNat 8 (0x30 + d) else BitVec.ofNat 8 (0x57 + d)

/-- A number below `16 ^ width` with leading zeros. -/
def hexFixed (width n : ℕ) : List (BitVec 8) :=
  (List.range width).reverse.map fun i => hexChar (n / 16 ^ i % 16)

private def skipSign : List (BitVec 8) → Bool × List (BitVec 8)
  | c :: rest => if c = 0x2d#8 then (true, rest) else if c = 0x2b#8 then (false, rest) else (false, c :: rest)
  | [] => (false, [])

/-- The `0x` is skipped only in front of a digit. -/
private def skipPrefix : List (BitVec 8) → List (BitVec 8)
  | zero :: x :: d :: rest =>
      if zero = 0x30#8 ∧ (x = 0x78#8 ∨ x = 0x58#8) ∧ (hexDigit? d).isSome then d :: rest
      else zero :: x :: d :: rest
  | s => s

def digitsValue (digits : List (BitVec 8)) : ℕ :=
  digits.foldl (fun value c => 16 * value + (hexDigit? c).getD 0) 0

def stoiHex (s : List (BitVec 8)) : Outcome StringError ℤ :=
  let (negative, s) := skipSign (s.dropWhile isSpace)
  let digits := (skipPrefix s).takeWhile fun c => (hexDigit? c).isSome
  if digits = [] then .throws .invalidArgument
  else
    let value : ℤ := if negative then -digitsValue digits else digitsValue digits
    if -2 ^ 31 ≤ value ∧ value < 2 ^ 31 then .value value else .throws .outOfRange

/-- Digits of either case with leading zeros, and the number they stand for. -/
structure IsHex (width : ℕ) (text : List (BitVec 8)) (n : ℕ) : Prop where
  length : text.length = width
  digits : ∀ c ∈ text, (hexDigit? c).isSome
  value : digitsValue text = n

section Digits

/-- A digit is no blank, sign or `x`. -/
private theorem hexDigit?_plain : ∀ c : BitVec 8, (hexDigit? c).isSome →
    isSpace c = false ∧ c ≠ 0x2d#8 ∧ c ≠ 0x2b#8 ∧ c ≠ 0x78#8 ∧ c ≠ 0x58#8 := by
  decide

private theorem hexDigit?_hexChar : ∀ d < 16, hexDigit? (hexChar d) = some d := by decide

private theorem skipPrefix_digits {text : List (BitVec 8)} (digits : ∀ c ∈ text, (hexDigit? c).isSome) :
    skipPrefix text = text := by
  match text, digits with
  | [], _ | [_], _ | [_, _], _ => rfl
  | zero :: x :: d :: rest, digits =>
    obtain ⟨-, -, -, lower, upper⟩ := hexDigit?_plain x (digits x (by simp))
    rw [skipPrefix, if_neg]
    rintro ⟨-, marker | marker, -⟩
    · exact lower marker
    · exact upper marker

/-- A number in digits is read to its end. -/
theorem IsHex.stoiHex_eq {width n : ℕ} {text : List (BitVec 8)} (hex : IsHex width text n)
    (some : 0 < width) :
    Cxx.stoiHex text = if n < 2 ^ 31 then .value (n : ℤ) else .throws .outOfRange := by
  obtain ⟨rfl, digits, rfl⟩ := hex
  obtain ⟨first, rest, rfl⟩ := List.exists_cons_of_length_pos some
  obtain ⟨noSpace, noMinus, noPlus, -, -⟩ := hexDigit?_plain first (digits first List.mem_cons_self)
  have blanks : (first :: rest).dropWhile isSpace = first :: rest := by
    rw [List.dropWhile_cons, noSpace]
    rfl
  have sign : skipSign (first :: rest) = (false, first :: rest) := by
    rw [skipSign, if_neg noMinus, if_neg noPlus]
  have all : (first :: rest).takeWhile (fun c => (hexDigit? c).isSome) = first :: rest :=
    List.takeWhile_eq_self_iff.mpr digits
  have range : (-2 ^ 31 ≤ (digitsValue (first :: rest) : ℤ) ∧
      (digitsValue (first :: rest) : ℤ) < 2 ^ 31) ↔ digitsValue (first :: rest) < 2 ^ 31 := by
    omega
  rw [Cxx.stoiHex, blanks, sign]
  dsimp only
  rw [skipPrefix_digits digits, all, if_neg (List.cons_ne_nil _ _)]
  exact if_congr range rfl rfl

theorem IsHex.stoiHex {width n : ℕ} {text : List (BitVec 8)} (hex : IsHex width text n)
    (some : 0 < width) (fits : n < 2 ^ 31) : stoiHex text = .value (n : ℤ) := by
  rw [hex.stoiHex_eq some, if_pos fits]

theorem foldl_digits (acc : ℕ) (text : List (BitVec 8)) :
    text.foldl (fun value c => 16 * value + (hexDigit? c).getD 0) acc =
      acc * 16 ^ text.length + digitsValue text := by
  induction text generalizing acc with
  | nil => simp [digitsValue]
  | cons c text ih =>
    rw [digitsValue, List.foldl_cons, List.foldl_cons, ih, ih, List.length_cons, pow_succ]
    ring

theorem digitsValue_cons (c : BitVec 8) (text : List (BitVec 8)) :
    digitsValue (c :: text) = (hexDigit? c).getD 0 * 16 ^ text.length + digitsValue text := by
  rw [digitsValue, List.foldl_cons, foldl_digits, Nat.mul_zero, Nat.zero_add]

theorem hexFixed_succ (width n : ℕ) :
    hexFixed (width + 1) n = hexChar (n / 16 ^ width % 16) :: hexFixed width n := by
  rw [hexFixed, List.range_succ, List.reverse_append]
  rfl

theorem isHex_hexFixed_mod (width n : ℕ) : IsHex width (hexFixed width n) (n % 16 ^ width) := by
  induction width with
  | zero => exact ⟨rfl, nofun, (Nat.mod_one n).symm⟩
  | succ width ih =>
    have digit := hexDigit?_hexChar (n / 16 ^ width % 16) (Nat.mod_lt _ (by decide))
    rw [hexFixed_succ]
    refine ⟨by rw [List.length_cons, ih.length], ?_, ?_⟩
    · intro c member
      rcases List.mem_cons.mp member with rfl | later
      · rw [digit]
        rfl
      · exact ih.digits c later
    · rw [digitsValue_cons, digit, ih.length, ih.value, Option.getD_some, pow_succ, Nat.mod_mul]
      ring

/-- A number that fits its digits is the number they stand for. -/
theorem isHex_hexFixed {width n : ℕ} (fits : n < 16 ^ width) : IsHex width (hexFixed width n) n := by
  have hex := isHex_hexFixed_mod width n
  rwa [Nat.mod_eq_of_lt fits] at hex

end Digits

end Cxx
