import H9d.Core.Stoi

/-! # Numbers in strings

`std::stoi` with base 10: blanks and a sign are skipped, digits are read as long as there are any, and what
follows them is not looked at. The digits of other bases are read the same way.
-/

namespace Cxx

def isBlank (c : Char) : Bool := c == ' ' || (c.toNat ≤ 13 && 9 ≤ c.toNat)

/-- The value of a digit of a base up to 16. -/
def digit? (c : Char) : Option ℕ :=
  if c.isDigit then some (c.toNat - 48)
  else if 'a' ≤ c ∧ c ≤ 'f' then some (c.toNat - 87)
  else if 'A' ≤ c ∧ c ≤ 'F' then some (c.toNat - 55)
  else none

def numberIn (base : ℕ) (digits : List Char) : ℕ :=
  digits.foldl (fun value c => base * value + (digit? c).getD 0) 0

/-- The sign in front of a number, and what follows it. -/
def signed : List Char → Bool × List Char
  | '-' :: rest => (true, rest)
  | '+' :: rest => (false, rest)
  | s => (false, s)

def stoi (s : List Char) : Except StringError ℤ :=
  let (negative, s) := signed (s.dropWhile isBlank)
  let digits := s.takeWhile Char.isDigit
  if digits = [] then .error .invalidArgument
  else
    let value : ℤ := if negative then -numberIn 10 digits else numberIn 10 digits
    if -2 ^ 31 ≤ value ∧ value < 2 ^ 31 then .ok value else .error .outOfRange

/-- The text begins with this number: blanks, a sign, and as many digits as there are. -/
def BeginsWith (s : List Char) (value : ℤ) : Prop :=
  ∃ blanks sign digits rest, s = blanks ++ (sign ++ (digits ++ rest)) ∧ (∀ c ∈ blanks, isBlank c) ∧
    (∀ c ∈ digits, c.isDigit) ∧ digits ≠ [] ∧ (∀ c ∈ rest.head?, ¬ c.isDigit) ∧
    (sign = ['-'] ∧ value = -numberIn 10 digits ∨ (sign = ['+'] ∨ sign = []) ∧ value = numberIn 10 digits)

theorem signed_eq (s : List Char) : ∃ sign, s = sign ++ (signed s).2 ∧
    (sign = ['-'] ∧ (signed s).1 = true ∨ (sign = ['+'] ∨ sign = []) ∧ (signed s).1 = false) := by
  fun_cases signed s with
  | case1 rest => exact ⟨['-'], rfl, .inl ⟨rfl, rfl⟩⟩
  | case2 rest => exact ⟨['+'], rfl, .inr ⟨.inl rfl, rfl⟩⟩
  | case3 => exact ⟨[], rfl, .inr ⟨.inr rfl, rfl⟩⟩

theorem visible_of_isDigit {c : Char} (digit : c.isDigit = true) : isBlank c = false := by
  rw [Char.isDigit, Bool.and_eq_true, decide_eq_true_iff, decide_eq_true_iff] at digit
  have lowest : 48 ≤ c.toNat := digit.1
  have other : c ≠ ' ' := by
    rintro rfl
    exact absurd lowest (by decide)
  simp [isBlank, other]
  omega

theorem signed_digits {c : Char} (digit : c.isDigit = true) (rest : List Char) :
    signed (c :: rest) = (false, c :: rest) := by
  apply signed.eq_3
  · rintro _ same
    cases same
    exact absurd digit (by decide)
  · rintro _ same
    cases same
    exact absurd digit (by decide)

/-- The parts of the text are those that `stoi` finds. -/
theorem beginsWith_iff {s : List Char} {value : ℤ} : BeginsWith s value ↔
    ∃ digits, digits = (signed (s.dropWhile isBlank)).2.takeWhile Char.isDigit ∧ digits ≠ [] ∧
      value = if (signed (s.dropWhile isBlank)).1 then -(numberIn 10 digits : ℤ) else numberIn 10 digits := by
  constructor
  · rintro ⟨blanks, sign, digits, rest, rfl, blank, isDigit, nonempty, last, number⟩
    have taken : (digits ++ rest).takeWhile Char.isDigit = digits := by
      rw [List.takeWhile_append_of_pos isDigit]
      cases rest with
      | nil => simp
      | cons c rest => rw [List.takeWhile_cons_of_neg (last c rfl), List.append_nil]
    obtain ⟨c, more, rfl⟩ := List.exists_cons_of_ne_nil nonempty
    have digit := isDigit c List.mem_cons_self
    refine ⟨c :: more, ?_⟩
    rw [List.dropWhile_append_of_pos blank]
    obtain ⟨rfl, rfl⟩ | ⟨rfl | rfl, rfl⟩ := number
    · have kept : List.dropWhile isBlank (['-'] ++ (c :: more ++ rest)) = '-' :: (c :: more ++ rest) := rfl
      rw [kept]
      exact ⟨taken.symm, nonempty, rfl⟩
    · have kept : List.dropWhile isBlank (['+'] ++ (c :: more ++ rest)) = '+' :: (c :: more ++ rest) := rfl
      rw [kept]
      exact ⟨taken.symm, nonempty, rfl⟩
    · have kept : List.dropWhile isBlank ([] ++ (c :: more ++ rest)) = c :: more ++ rest :=
        List.dropWhile_cons_of_neg (by simp [visible_of_isDigit digit])
      rw [kept, List.cons_append, signed_digits digit, ← List.cons_append]
      exact ⟨taken.symm, nonempty, rfl⟩
  · rintro ⟨digits, found, nonempty, rfl⟩
    obtain ⟨sign, same, kind⟩ := signed_eq (s.dropWhile isBlank)
    have isDigit : ∀ c ∈ digits, c.isDigit := fun c among => List.mem_takeWhile_imp (found ▸ among)
    refine ⟨s.takeWhile isBlank, sign, digits, (signed (s.dropWhile isBlank)).2.dropWhile Char.isDigit, ?_,
      fun c among => List.mem_takeWhile_imp among, isDigit, nonempty, ?_, ?_⟩
    · rw [found, List.takeWhile_append_dropWhile, ← same, List.takeWhile_append_dropWhile]
    · intro c first digit
      have stopped := List.head?_dropWhile_not Char.isDigit (signed (s.dropWhile isBlank)).2
      rw [first] at stopped
      simp [digit] at stopped
    · rcases kind with ⟨rfl, yes⟩ | ⟨plus, no⟩
      · exact .inl ⟨rfl, if_pos yes⟩
      · exact .inr ⟨plus, if_neg (Bool.eq_false_iff.mp no)⟩

theorem stoi_ok_iff {s : List Char} {value : ℤ} :
    stoi s = .ok value ↔ BeginsWith s value ∧ -2 ^ 31 ≤ value ∧ value < 2 ^ 31 := by
  rw [beginsWith_iff, exists_eq_left, stoi]
  dsimp only
  generalize (signed (s.dropWhile isBlank)).2.takeWhile Char.isDigit = digits
  generalize (if (signed (s.dropWhile isBlank)).1 then _ else _ : ℤ) = read
  by_cases none : digits = []
  · simp [none]
  · rw [if_neg none]
    by_cases fits : -2 ^ 31 ≤ read ∧ read < 2 ^ 31
    · rw [if_pos fits, Except.ok.injEq]
      constructor
      · rintro rfl
        exact ⟨⟨none, rfl⟩, fits⟩
      · rintro ⟨⟨-, rfl⟩, -⟩
        rfl
    · rw [if_neg fits]
      constructor
      · exact nofun
      · rintro ⟨⟨-, rfl⟩, inside⟩
        exact absurd inside fits

/-- A text is refused that does not begin with a number, or with one that is no `int`. -/
theorem stoi_error_iff {s : List Char} :
    (∃ e, stoi s = .error e) ↔ ∀ value, BeginsWith s value → value < -2 ^ 31 ∨ 2 ^ 31 ≤ value := by
  cases read : stoi s with
  | error e =>
    refine iff_of_true ⟨e, rfl⟩ fun value begins => ?_
    by_contra inside
    rw [not_or, not_lt, not_le] at inside
    cases read.symm.trans (stoi_ok_iff.mpr ⟨begins, inside⟩)
  | ok value =>
    obtain ⟨begins, low, high⟩ := stoi_ok_iff.mp read
    refine iff_of_false (by rintro ⟨e, same⟩; cases same) fun refused => ?_
    rcases refused value begins with below | above
    · exact absurd low (not_le.mpr below)
    · exact absurd above (not_le.mpr high)

/-- Nothing is skipped in front of digits, and nothing is left behind them. -/
theorem stoi_digits {s : List Char} (digits : ∀ c ∈ s, c.isDigit) (nonempty : s ≠ [])
    (fits : numberIn 10 s < 2 ^ 31) : stoi s = .ok (numberIn 10 s) := by
  have begins : BeginsWith s (numberIn 10 s) :=
    ⟨[], [], s, [], (List.append_nil s).symm, nofun, digits, nonempty, nofun, .inr ⟨.inr rfl, rfl⟩⟩
  exact stoi_ok_iff.mpr ⟨begins, by omega, by omega⟩

end Cxx
