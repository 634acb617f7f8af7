import H9d.Model.CLIParsingDriver
import Mathlib.Data.List.Count

/-! # Blanks that are escaped and found again

Only an inserted backslash stands directly in front of a blank, so the text tells which backslashes to take
away. Both loops keep to their blocks, whatever the text; the `int` that counts the characters is their limit.
-/

namespace H9d.CLIParsingDriver

open Cxx Nlohmann Buffer

/-- The text that `escape` writes. -/
def escaped (chars : List Char) : List Char := chars.flatMap fun c => if c = ' ' then ['\\', ' '] else [c]

/-- The text that `unescape` writes. -/
def unescaped : List Char → List Char
  | [] => []
  | '\\' :: ' ' :: rest => ' ' :: unescaped rest
  | c :: rest => c :: unescaped rest

/-- Each blank comes directly after a backslash. -/
def Guarded (chars : List Char) : Prop :=
  ∀ before after, chars = before ++ ' ' :: after → ∃ start, before = start ++ ['\\']

/-- The two functions undo each other on a string, and keep to their blocks. -/
structure Inverse (str : CString) : Prop where
  unescape_escape : escape str >>= unescape = .ok str
  escape_unescape : Guarded str.chars → unescape str >>= escape = .ok str
  inside : escape str ≠ .error .outside ∧ unescape str ≠ .error .outside

section Texts

theorem escaped_cons_blank (rest : List Char) : escaped (' ' :: rest) = '\\' :: ' ' :: escaped rest := rfl

theorem escaped_cons_of_ne {c : Char} (other : c ≠ ' ') (rest : List Char) :
    escaped (c :: rest) = c :: escaped rest := by
  rw [escaped, List.flatMap_cons, if_neg other]
  rfl

theorem unescaped_cons_of_plain {c : Char} {rest : List Char} (plain : c = '\\' → rest.head? ≠ some ' ') :
    unescaped (c :: rest) = c :: unescaped rest := by
  rw [unescaped]
  rintro after rfl rfl
  exact plain rfl rfl

/-- No escaped text begins with a blank. -/
theorem head_escaped (chars : List Char) : (escaped chars).head? ≠ some ' ' := by
  cases chars with
  | nil => exact nofun
  | cons c rest =>
    by_cases blank : c = ' '
    · rw [blank, escaped_cons_blank, List.head?_cons]
      decide
    · rw [escaped_cons_of_ne blank, List.head?_cons]
      exact fun same => blank (Option.some.inj same)

theorem unescaped_escaped (chars : List Char) : unescaped (escaped chars) = chars := by
  induction chars with
  | nil => rfl
  | cons c rest ih =>
    by_cases blank : c = ' '
    · rw [blank, escaped_cons_blank, unescaped, ih]
    · rw [escaped_cons_of_ne blank, unescaped_cons_of_plain fun _ => head_escaped rest, ih]

theorem Guarded.of_cons {c : Char} {rest : List Char} (guarded : Guarded (c :: rest))
    (plain : c = '\\' → rest.head? ≠ some ' ') : c ≠ ' ' ∧ Guarded rest := by
  constructor
  · rintro rfl
    obtain ⟨start, empty⟩ := guarded [] rest rfl
    cases start <;> cases empty
  · rintro before after rfl
    obtain ⟨start, split⟩ := guarded (c :: before) after rfl
    cases start with
    | nil =>
      obtain ⟨rfl, rfl⟩ := List.cons.inj split
      exact absurd rfl (plain rfl)
    | cons first start => exact ⟨start, (List.cons.inj split).2⟩

theorem Guarded.of_pair {rest : List Char} (guarded : Guarded ('\\' :: ' ' :: rest)) : Guarded rest := by
  rintro before after rfl
  obtain ⟨start, split⟩ := guarded ('\\' :: ' ' :: before) after rfl
  match start, split with
  | [], split => cases split
  | [_], split => cases split
  | _ :: _ :: start, split => exact ⟨start, (List.cons.inj (List.cons.inj split).2).2⟩

theorem escaped_unescaped {chars : List Char} (guarded : Guarded chars) : escaped (unescaped chars) = chars := by
  induction chars using unescaped.induct with
  | case1 => rfl
  | case2 rest ih => rw [unescaped, escaped_cons_blank, ih guarded.of_pair]
  | case3 c rest plain ih =>
    have single : c = '\\' → rest.head? ≠ some ' ' := by
      rintro rfl blank
      obtain ⟨after, rfl⟩ := List.head?_eq_some_iff.mp blank
      exact plain after rfl rfl
    obtain ⟨other, guarded⟩ := guarded.of_cons single
    rw [unescaped_cons_of_plain single, escaped_cons_of_ne other, ih guarded]

theorem length_escaped (chars : List Char) : (escaped chars).length = chars.length + chars.count ' ' := by
  induction chars with
  | nil => rfl
  | cons c rest ih =>
    by_cases blank : c = ' '
    · rw [blank, escaped_cons_blank, List.count_cons_self, List.length_cons, List.length_cons, ih, List.length_cons]
      omega
    · rw [escaped_cons_of_ne blank, List.count_cons_of_ne blank, List.length_cons, ih, List.length_cons]
      omega

theorem length_unescaped_le (chars : List Char) : (unescaped chars).length ≤ chars.length := by
  induction chars using unescaped.induct with
  | case1 => rfl
  | case2 rest ih =>
    rw [unescaped, List.length_cons, List.length_cons, List.length_cons]
    omega
  | case3 c rest plain ih =>
    rw [unescaped.eq_3 c rest plain, List.length_cons, List.length_cons]
    omega

theorem noNul_escaped {chars : List Char} (noNul : nul ∉ chars) : nul ∉ escaped chars := by
  intro member
  obtain ⟨c, given, within⟩ := List.mem_flatMap.mp member
  split at within
  · revert within
    decide
  · obtain rfl := List.mem_singleton.mp within
    exact noNul given

theorem noNul_unescaped {chars : List Char} (noNul : nul ∉ chars) : nul ∉ unescaped chars := by
  induction chars using unescaped.induct with
  | case1 => exact List.not_mem_nil
  | case2 rest ih =>
    simp only [List.mem_cons, not_or] at noNul
    rw [unescaped, List.mem_cons, not_or]
    exact ⟨noNul.2.1, ih noNul.2.2⟩
  | case3 c rest plain ih =>
    rw [List.mem_cons, not_or] at noNul
    rw [unescaped.eq_3 c rest plain, List.mem_cons, not_or]
    exact ⟨noNul.1, ih noNul.2⟩

end Texts

section Loops

/-- A loop has written the text into a block of the size, or the count was too much for an `int`. -/
structure Writes (fits : Prop) (size : ℕ) (text : List Char) (result : Except MemoryFault (ℕ × Buffer Char)) :
    Prop where
  written : fits → ∃ next, result = .ok (text.length, next) ∧ next.length = size ∧ text.map some <+: next
  counted : ¬fits → result = .error .overflow

variable {i : ℕ} {out : List Char} {b : Buffer Char}

theorem Writes.of_iff {fits fits' : Prop} {size : ℕ} {text : List Char}
    {result : Except MemoryFault (ℕ × Buffer Char)} (writes : Writes fits size text result) (same : fits' ↔ fits) :
    Writes fits' size text result :=
  ⟨fun holds => writes.written (same.mp holds), fun fails => writes.counted (mt same.mpr fails)⟩

theorem Writes.overflow {fits : Prop} (fails : ¬fits) (size : ℕ) (text : List Char) :
    Writes fits size text (.error .overflow) :=
  ⟨fun holds => absurd holds fails, fun _ => rfl⟩

/-- One character is written, and both indices go on. -/
theorem advance_eq {α : Type} (c : Char) (k : ℕ → ℕ → Buffer Char → Except MemoryFault α)
    (begins : out.map some <+: b) (room : out.length < b.length) :
    ∃ next, next.length = b.length ∧ (out ++ [c]).map some <+: next ∧
      (do
        let b ← b.store out.length c
        k (← increment i) (← increment out.length) b) =
      if i < INT_MAX ∧ out.length < INT_MAX then k (i + 1) (out ++ [c]).length next else .error .overflow := by
  obtain ⟨next, stored, length, longer⟩ := store_of_prefix begins room c
  refine ⟨next, length, longer, ?_⟩
  rw [stored, ok_bind, List.length_append, List.length_singleton]
  by_cases first : i < INT_MAX
  · rw [increment_of_lt first, ok_bind]
    by_cases second : out.length < INT_MAX
    · rw [increment_of_lt second, ok_bind, if_pos ⟨first, second⟩]
    · rw [increment_of_le (not_lt.mp second), error_bind, if_neg fun both => second both.2]
  · rw [increment_of_le (not_lt.mp first), error_bind, if_neg fun both => first both.1]

theorem escapeLoop_writes (rest : List Char) (begins : out.map some <+: b)
    (room : out.length + (escaped rest).length ≤ b.length) (behind : i ≤ out.length) (counted : out.length ≤ INT_MAX) :
    Writes (out.length + (escaped rest).length ≤ INT_MAX) b.length (out ++ escaped rest)
      (escapeLoop rest i out.length b) := by
  induction rest generalizing i out b with
  | nil =>
    have empty : escaped [] = [] := rfl
    rw [empty, List.append_nil]
    exact ⟨fun _ => ⟨b, rfl, rfl, begins⟩, fun above => absurd counted above⟩
  | cons c rest ih =>
    by_cases blank : c = ' '
    · subst blank
      rw [escaped_cons_blank, List.length_cons, List.length_cons] at room ⊢
      obtain ⟨b', stored, length', begins'⟩ := store_of_prefix begins (by omega) '\\'
      rw [escapeLoop, if_pos rfl, stored, ok_bind]
      by_cases below : out.length < INT_MAX
      · have size : (out ++ ['\\']).length = out.length + 1 := by simp
        have size' : (out ++ ['\\'] ++ [' ']).length = out.length + 2 := by simp
        have text : out ++ '\\' :: ' ' :: escaped rest = out ++ ['\\'] ++ [' '] ++ escaped rest := by simp
        rw [increment_of_lt below, ok_bind, ok_bind, ← size, text, ← length']
        obtain ⟨next, length, longer, step⟩ := advance_eq (i := i) ' ' (escapeLoop rest) begins' (by omega)
        dsimp only
        rw [step]
        split
        · rw [← length]
          exact (ih longer (by omega) (by omega) (by omega)).of_iff (by omega)
        · exact .overflow (by omega) _ _
      · rw [increment_of_le (not_lt.mp below)]
        exact .overflow (by omega) _ _
    · rw [escaped_cons_of_ne blank, List.length_cons] at room ⊢
      have size : (out ++ [c]).length = out.length + 1 := by simp
      have text : out ++ c :: escaped rest = out ++ [c] ++ escaped rest := by simp
      obtain ⟨next, length, longer, step⟩ := advance_eq (i := i) c (escapeLoop rest) begins (by omega)
      rw [escapeLoop, if_neg blank, ok_bind]
      dsimp only
      rw [step, text, ← length]
      split
      · exact (ih longer (by omega) (by omega) (by omega)).of_iff (by omega)
      · exact .overflow (by omega) _ _

theorem unescapeLoop_writes (rest : List Char) (begins : out.map some <+: b)
    (room : out.length + rest.length ≤ b.length) (ahead : out.length ≤ i) (counted : i ≤ INT_MAX) :
    Writes (i + rest.length ≤ INT_MAX) b.length (out ++ unescaped rest) (unescapeLoop rest i out.length b) := by
  induction rest using unescaped.induct generalizing i out b with
  | case1 =>
    rw [unescaped, List.append_nil]
    exact ⟨fun _ => ⟨b, rfl, rfl, begins⟩, fun above => absurd counted above⟩
  | case2 rest ih =>
    rw [List.length_cons, List.length_cons] at room ⊢
    have size : (out ++ [' ']).length = out.length + 1 := by simp
    have text : out ++ ' ' :: unescaped rest = out ++ [' '] ++ unescaped rest := by simp
    rw [unescapeLoop, unescaped]
    by_cases below : i < INT_MAX
    · obtain ⟨next, length, longer, step⟩ := advance_eq (i := i + 1) ' ' (unescapeLoop rest) begins (by omega)
      rw [increment_of_lt below, ok_bind, step, text, ← length]
      split
      · exact (ih longer (by omega) (by omega) (by omega)).of_iff (by omega)
      · exact .overflow (by omega) _ _
    · rw [increment_of_le (not_lt.mp below)]
      exact .overflow (by omega) _ _
  | case3 c rest plain ih =>
    rw [List.length_cons] at room ⊢
    have size : (out ++ [c]).length = out.length + 1 := by simp
    have text : out ++ c :: unescaped rest = out ++ [c] ++ unescaped rest := by simp
    obtain ⟨next, length, longer, step⟩ := advance_eq (i := i) c (unescapeLoop rest) begins (by omega)
    rw [unescapeLoop.eq_3 i out.length b c rest plain, unescaped.eq_3 c rest plain, step, text, ← length]
    split
    · exact (ih longer (by omega) (by omega) (by omega)).of_iff (by omega)
    · exact .overflow (by omega) _ _

end Loops

section Inverse

variable (str : CString)

def escapedString : CString := ⟨escaped str.chars, noNul_escaped str.noNul⟩

def unescapedString : CString := ⟨unescaped str.chars, noNul_unescaped str.noNul⟩

theorem escape_eq : escape str =
    if (escaped str.chars).length < INT_MAX then .ok (escapedString str) else .error .overflow := by
  have size : (malloc (2 * str.chars.length + 1) : Buffer Char).length = 2 * str.chars.length + 1 := length_malloc _
  have most : str.chars.count ' ' ≤ str.chars.length := List.count_le_length
  have length := length_escaped str.chars
  have start : ([] : List Char).map some <+: malloc (2 * str.chars.length + 1) := List.nil_prefix
  have loop : Writes (0 + (escaped str.chars).length ≤ INT_MAX) _ (escaped str.chars) _ :=
    escapeLoop_writes str.chars start (by rw [size, List.length_nil]; omega) (Nat.zero_le _) (Nat.zero_le _)
  rw [escape]
  by_cases fits : 0 + (escaped str.chars).length ≤ INT_MAX
  · obtain ⟨next, written, length', begins⟩ := loop.written fits
    change escapeLoop str.chars 0 0 _ = _ at written
    rw [written, ok_bind]
    refine terminate_eq (s := escapedString str) begins ?_
    change (escaped str.chars).length < _
    omega
  · have above := loop.counted fits
    change escapeLoop str.chars 0 0 _ = _ at above
    rw [above, if_neg (by omega)]
    rfl

theorem unescape_eq : unescape str =
    if str.chars.length ≤ INT_MAX ∧ (unescaped str.chars).length < INT_MAX then .ok (unescapedString str)
    else .error .overflow := by
  have size : (malloc (str.chars.length + 1) : Buffer Char).length = str.chars.length + 1 := length_malloc _
  have length := length_unescaped_le str.chars
  have start : ([] : List Char).map some <+: malloc (str.chars.length + 1) := List.nil_prefix
  have loop : Writes (0 + str.chars.length ≤ INT_MAX) _ (unescaped str.chars) _ :=
    unescapeLoop_writes str.chars start (by rw [size, List.length_nil]; omega) (Nat.zero_le _) (Nat.zero_le _)
  rw [unescape]
  by_cases fits : 0 + str.chars.length ≤ INT_MAX
  · obtain ⟨next, written, length', begins⟩ := loop.written fits
    change unescapeLoop str.chars 0 0 _ = _ at written
    have room : (unescapedString str).chars.length < next.length := by
      change (unescaped str.chars).length < _
      omega
    rw [written, ok_bind]
    refine (terminate_eq (s := unescapedString str) begins room).trans (if_congr ?_ rfl rfl)
    exact ⟨fun below => ⟨by omega, below⟩, And.right⟩
  · have above := loop.counted fits
    change unescapeLoop str.chars 0 0 _ = _ at above
    rw [above, if_neg (by omega)]
    rfl

/-- The functions undo each other exactly if an `int` counts the characters with a backslash for each blank
and the terminator. -/
theorem inverse_iff : Inverse str ↔ str.chars.length + str.chars.count ' ' + 1 ≤ INT_MAX := by
  have length := length_escaped str.chars
  constructor
  · rintro ⟨back, -, -⟩
    by_contra above
    rw [escape_eq, if_neg (by omega)] at back
    cases back
  · intro fits
    have below : (escaped str.chars).length < INT_MAX := by omega
    have length' := length_unescaped_le str.chars
    refine ⟨?_, fun guarded => ?_, ?_, ?_⟩
    · have back : unescaped (escaped str.chars) = str.chars := unescaped_escaped str.chars
      rw [escape_eq, if_pos below, ok_bind, unescape_eq, escapedString]
      dsimp only
      rw [if_pos ⟨below.le, by rw [back]; omega⟩]
      exact congrArg Except.ok (CString.ext back)
    · have restored : escaped (unescaped str.chars) = str.chars := escaped_unescaped guarded
      rw [unescape_eq, if_pos ⟨by omega, by omega⟩, ok_bind, escape_eq, unescapedString]
      dsimp only
      rw [if_pos (by rw [restored]; omega)]
      exact congrArg Except.ok (CString.ext restored)
    · rw [escape_eq, if_pos below]
      exact nofun
    · rw [unescape_eq, if_pos ⟨by omega, by omega⟩]
      exact nofun

/-- A name of as many characters as an `int` can count. -/
theorem not_inverse : ¬∀ str, Inverse str := by
  intro all
  have plain (n : ℕ) : nul ∉ List.replicate n 'a' := fun member => absurd (List.eq_of_mem_replicate member) (by decide)
  have back := (all ⟨List.replicate INT_MAX 'a', plain INT_MAX⟩).unescape_escape
  rw [escape_eq, if_neg] at back
  · cases back
  · rw [length_escaped, List.length_replicate]
    omega

end Inverse

end H9d.CLIParsingDriver
