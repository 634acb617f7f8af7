import H9d.Model.CliLexer
import H9d.Soundness.EscapedBlanks

/-! # Names that are completed and scanned again

Only blanks are escaped when a name is completed. The scanner then takes the text for one string where every
character is a letter, a digit, an underscore or an escaped blank, unless an earlier rule matches all of it.
-/

namespace H9d.CliLexer

open Cxx LongestMatch CLIParsingDriver

/-- A name that the daemon reports. -/
structure Name extends CString where
  nonempty : chars ≠ []
  noNewline : '\n' ∉ chars
  noQuote : '"' ∉ chars

/-- The completed text is scanned as one string, which is the name. -/
def Completes (name : CString) : Prop :=
  ∃ text, escape name = .ok text ∧ scan text = ([.string name.chars], .eof)

/-- The texts of keywords and numbers. -/
def Reserved (name : List Char) : Prop :=
  (∃ l : Literal, name = l.text) ∨ (∀ c ∈ name, c.isDigit = true) ∨
    (∃ bits, name = 'b' :: bits ∧ bits ≠ [] ∧ bits.length ≤ 32 ∧ ∀ c ∈ bits, isBit c = true) ∨
    ∃ x digits, name = '0' :: x :: digits ∧ (x = 'x' ∨ x = 'X') ∧ digits ≠ [] ∧ digits.length ≤ 8 ∧
      ∀ c ∈ digits, (digit? c).isSome

/-- Letters, digits, underscores and blanks, and neither a keyword nor a number; an `int` counts the
completed text. -/
structure Plain (name : List Char) : Prop where
  chars : ∀ c ∈ name, isWord c ∨ c = ' '
  notReserved : ¬Reserved name
  counted : name.length + name.count ' ' + 1 ≤ INT_MAX

/-- The rules in front of the one for strings, and those behind it. -/
def earlier : List Pattern :=
  [.comment, .whiteSpace, .lfSemicolon] ++ Literal.all.map .literal ++ [.decimal, .binary, .hexadecimal]

def later : List Pattern := [.quotedString, .other]

section Patterns

theorem rules_split : rules = earlier ++ .string :: later := rfl

theorem takeWhile_length_le (p : Char → Bool) (input : List Char) : (input.takeWhile p).length ≤ input.length :=
  (List.takeWhile_sublist p).length_le

theorem digitsBehind_le (start : ℕ) (isDigit : Char → Bool) (max : ℕ) (rest : List Char) :
    digitsBehind start isDigit max rest ≤ start + rest.length := by
  have most := takeWhile_length_le isDigit rest
  rw [digitsBehind]
  split <;> omega

theorem wordLength_le (input : List Char) : wordLength input ≤ input.length := by
  induction input using wordLength.induct with
  | case1 => rfl
  | case2 rest ih =>
    rw [wordLength, List.length_cons, List.length_cons]
    omega
  | case3 c rest plain word ih =>
    rw [wordLength.eq_3 c rest plain, if_pos word, List.length_cons]
    omega
  | case4 c rest plain other =>
    rw [wordLength.eq_3 c rest plain, if_neg other]
    exact Nat.zero_le _

theorem classLength_le (isIn : Char → Bool) (input : List Char) : classLength isIn input ≤ input.length := by
  cases input with
  | nil => rfl
  | cons c rest =>
    rw [classLength, List.length_cons]
    split <;> omega

/-- No pattern matches more than there is. -/
theorem length_le (p : Pattern) (input : List Char) : p.length input ≤ input.length := by
  cases p with
  | comment =>
    rw [Pattern.length, commentLength.eq_def]
    split
    · next rest =>
      have most := takeWhile_length_le (· ≠ '\n') rest
      rw [List.length_cons]
      omega
    · exact Nat.zero_le _
  | whiteSpace => exact classLength_le _ input
  | lfSemicolon => exact classLength_le _ input
  | literal l =>
    rw [Pattern.length]
    dsimp only
    split
    · next begins => exact begins.length_le
    · exact Nat.zero_le _
  | decimal => exact takeWhile_length_le _ input
  | binary =>
    rw [Pattern.length, binaryLength.eq_def]
    split
    · next rest =>
      have most := digitsBehind_le 1 isBit 32 rest
      rw [List.length_cons]
      omega
    · exact Nat.zero_le _
  | hexadecimal =>
    rw [Pattern.length, hexadecimalLength.eq_def]
    split
    · next x rest =>
      have most := digitsBehind_le 2 (fun c => (digit? c).isSome) 8 rest
      rw [List.length_cons, List.length_cons]
      split <;> omega
    · exact Nat.zero_le _
  | string => exact wordLength_le input
  | quotedString =>
    rw [Pattern.length, quotedLength.eq_def]
    split
    · next rest =>
      dsimp only
      split
      · next closed =>
        have inside : (rest.takeWhile fun c => decide (c ≠ '\n' ∧ c ≠ '"')).length < rest.length := by
          by_contra all
          have behind := closed.2
          rw [List.drop_eq_nil_of_le (not_lt.mp all)] at behind
          cases behind
        rw [List.length_cons]
        omega
      · exact Nat.zero_le _
    · exact Nat.zero_le _
  | other =>
    cases input with
    | nil => rfl
    | cons c rest =>
      have most := takeWhile_length_le (!isWhite ·) (c :: rest)
      rw [Pattern.length, otherLength]
      rw [List.length_cons] at most ⊢
      split <;> omega

/-- What a string rule matches is an escaped text of word characters and blanks. -/
theorem wordLength_split (input : List Char) :
    ∃ yytext rest, input = yytext ++ rest ∧ yytext.length = wordLength input ∧
      escaped (unescaped yytext) = yytext ∧ ∀ c ∈ unescaped yytext, isWord c ∨ c = ' ' := by
  induction input using wordLength.induct with
  | case1 => exact ⟨[], [], rfl, rfl, rfl, nofun⟩
  | case2 rest ih =>
    obtain ⟨yytext, rest, rfl, length, restored, chars⟩ := ih
    refine ⟨'\\' :: ' ' :: yytext, rest, rfl, ?_, ?_, ?_⟩
    · rw [wordLength, ← length]
      rfl
    · rw [unescaped, escaped_cons_blank, restored]
    · rw [unescaped]
      exact List.forall_mem_cons.mpr ⟨.inr rfl, chars⟩
  | case3 c rest plain word ih =>
    obtain ⟨yytext, rest, rfl, length, restored, chars⟩ := ih
    have notBackslash : c ≠ '\\' := by
      rintro rfl
      exact absurd word (by decide)
    have notBlank : c ≠ ' ' := by
      rintro rfl
      exact absurd word (by decide)
    have single : unescaped (c :: yytext) = c :: unescaped yytext :=
      unescaped_cons_of_plain fun same => absurd same notBackslash
    refine ⟨c :: yytext, rest, rfl, ?_, ?_, ?_⟩
    · rw [wordLength.eq_3 c _ plain, if_pos word, List.length_cons, length]
    · rw [single, escaped_cons_of_ne notBlank, restored]
    · rw [single]
      exact List.forall_mem_cons.mpr ⟨.inl word, chars⟩
  | case4 c rest plain other =>
    refine ⟨[], c :: rest, rfl, ?_, rfl, nofun⟩
    rw [wordLength.eq_3 c rest plain, if_neg other]
    rfl

/-- A name of word characters and blanks is matched as a whole when it is escaped. -/
theorem wordLength_escaped {chars : List Char} (plain : ∀ c ∈ chars, isWord c ∨ c = ' ') :
    wordLength (escaped chars) = (escaped chars).length := by
  induction chars with
  | nil => rfl
  | cons c rest ih =>
    obtain ⟨here, later⟩ := List.forall_mem_cons.mp plain
    by_cases blank : c = ' '
    · rw [blank, escaped_cons_blank, wordLength, ih later]
      rfl
    · have word := here.resolve_right blank
      have notBackslash : c ≠ '\\' := by
        rintro rfl
        exact absurd word (by decide)
      rw [escaped_cons_of_ne blank, wordLength.eq_3 c _ fun _ same => absurd same notBackslash, if_pos word, ih later]
      rfl

end Patterns

section Reserved

variable {name : List Char}

theorem escaped_eq_self (noBlank : ' ' ∉ name) : escaped name = name := by
  induction name with
  | nil => rfl
  | cons c rest ih =>
    rw [List.mem_cons, not_or] at noBlank
    rw [escaped_cons_of_ne (Ne.symm noBlank.1), ih noBlank.2]

/-- A backslash in an escaped text comes from a blank, if there was none before. -/
theorem noBlank_of_escaped (noBackslash : '\\' ∉ escaped name) : ' ' ∉ name := by
  intro blank
  refine noBackslash (List.mem_flatMap.mpr ⟨' ', blank, ?_⟩)
  exact List.mem_cons_self

theorem text_plain (l : Literal) : ' ' ∉ l.text ∧ '\\' ∉ l.text ∧ l.text ≠ [] := by
  cases l <;> decide

/-- Keywords and numbers have neither blanks nor backslashes. -/
theorem Reserved.notMem (reserved : Reserved name) : ' ' ∉ name ∧ '\\' ∉ name := by
  rcases reserved with ⟨l, rfl⟩ | digits | ⟨bits, rfl, -, -, digits⟩ | ⟨x, digits, rfl, marker, -, -, hex⟩
  · exact ⟨(text_plain l).1, (text_plain l).2.1⟩
  · exact ⟨fun member => absurd (digits _ member) (by decide), fun member => absurd (digits _ member) (by decide)⟩
  · have other {c : Char} (notB : 'b' ≠ c) (notBit : isBit c = false) : c ∉ 'b' :: bits := by
      rw [List.mem_cons, not_or]
      exact ⟨notB.symm, fun member => Bool.false_ne_true (notBit.symm.trans (digits c member))⟩
    exact ⟨other (by decide) (by decide), other (by decide) (by decide)⟩
  · have other {c : Char} (notZero : '0' ≠ c) (notX : c ≠ 'x' ∧ c ≠ 'X') (notHex : digit? c = none) :
        c ∉ '0' :: x :: digits := by
      rw [List.mem_cons, List.mem_cons, not_or, not_or]
      refine ⟨notZero.symm, ?_, fun member => ?_⟩
      · rintro rfl
        exact marker.elim notX.1 notX.2
      · have some := hex c member
        rw [notHex] at some
        cases some
    exact ⟨other (by decide) (by decide) (by decide), other (by decide) (by decide) (by decide)⟩

theorem reserved_escaped_iff : Reserved (escaped name) ↔ Reserved name := by
  constructor
  · intro reserved
    rwa [escaped_eq_self (noBlank_of_escaped reserved.notMem.2)] at reserved
  · intro reserved
    rwa [escaped_eq_self reserved.notMem.1]

end Reserved

section Full

variable {input : List Char}

theorem digitsBehind_eq_iff {start : ℕ} (marked : 0 < start) (isDigit : Char → Bool) (max : ℕ) (rest : List Char) :
    digitsBehind start isDigit max rest = start + rest.length ↔
      rest ≠ [] ∧ rest.length ≤ max ∧ ∀ c ∈ rest, isDigit c = true := by
  have most := takeWhile_length_le isDigit rest
  have all : (rest.takeWhile isDigit).length = rest.length ↔ ∀ c ∈ rest, isDigit c = true := by
    rw [← List.takeWhile_eq_self_iff]
    exact ⟨fun same => (List.takeWhile_prefix isDigit).eq_of_length same, congrArg List.length⟩
  have some : rest ≠ [] ↔ 0 < rest.length := List.length_pos_iff.symm
  rw [digitsBehind, some, ← all]
  split <;> omega

theorem literal_full_iff (l : Literal) : Pattern.length (.literal l) input = input.length ∧ input ≠ [] ↔ input = l.text := by
  rw [Pattern.length]
  dsimp only
  constructor
  · rintro ⟨full, some⟩
    split at full
    · next begins => exact (begins.eq_of_length full).symm
    · exact absurd (List.length_eq_zero_iff.mp full.symm) some
  · rintro rfl
    exact ⟨if_pos (List.prefix_refl _), (text_plain l).2.2⟩

theorem binary_full_iff (some : input ≠ []) : binaryLength input = input.length ↔
    ∃ bits, input = 'b' :: bits ∧ bits ≠ [] ∧ bits.length ≤ 32 ∧ ∀ c ∈ bits, isBit c = true := by
  rw [binaryLength.eq_def]
  split
  · next rest =>
    rw [List.length_cons, Nat.add_comm rest.length, digitsBehind_eq_iff Nat.one_pos]
    exact ⟨fun full => ⟨rest, rfl, full⟩, by rintro ⟨bits, ⟨⟩, full⟩; exact full⟩
  · next other =>
    refine iff_of_false (fun none => some (List.length_eq_zero_iff.mp none.symm)) ?_
    rintro ⟨bits, rfl, -⟩
    exact other bits rfl

theorem hexadecimal_full_iff (some : input ≠ []) : hexadecimalLength input = input.length ↔
    ∃ x digits, input = '0' :: x :: digits ∧ (x = 'x' ∨ x = 'X') ∧ digits ≠ [] ∧ digits.length ≤ 8 ∧
      ∀ c ∈ digits, (digit? c).isSome := by
  rw [hexadecimalLength.eq_def]
  split
  · next x rest =>
    rw [List.length_cons, List.length_cons, Nat.add_assoc, Nat.add_comm rest.length]
    split
    · next marker =>
      rw [digitsBehind_eq_iff Nat.two_pos]
      exact ⟨fun full => ⟨x, rest, rfl, marker, full⟩, by rintro ⟨x, digits, ⟨⟩, -, full⟩; exact full⟩
    · next other =>
      refine iff_of_false (by omega) ?_
      rintro ⟨x, digits, ⟨⟩, marker, -⟩
      exact other marker
  · next other =>
    refine iff_of_false (fun none => some (List.length_eq_zero_iff.mp none.symm)) ?_
    rintro ⟨x, digits, rfl, -⟩
    exact other x digits rfl

theorem mem_earlier {p : Pattern} : p ∈ earlier ↔
    p = .comment ∨ p = .whiteSpace ∨ p = .lfSemicolon ∨ (∃ l, p = .literal l) ∨ p = .decimal ∨ p = .binary ∨
      p = .hexadecimal := by
  have listed (l : Literal) : l ∈ Literal.all := by cases l <;> decide
  simp [earlier, listed, eq_comm]

/-- In front of the rule for strings, only keywords and numbers are matched as a whole, if the first character
may stand in a string. -/
theorem full_iff_reserved {c : Char} {rest : List Char} (start : isWord c ∨ c = '\\') :
    (∃ p ∈ earlier, p.length (c :: rest) = (c :: rest).length) ↔ Reserved (c :: rest) := by
  have nonempty : c :: rest ≠ [] := List.cons_ne_nil c rest
  have notMatched (isIn : Char → Bool) (outside : isIn c = false) :
      classLength isIn (c :: rest) ≠ (c :: rest).length := by
    rw [classLength, outside]
    exact (Nat.succ_ne_zero _).symm
  constructor
  · rintro ⟨p, member, full⟩
    rcases mem_earlier.mp member with rfl | rfl | rfl | ⟨l, rfl⟩ | rfl | rfl | rfl
    · rw [Pattern.length, commentLength.eq_def] at full
      split at full
      · next text hash =>
        obtain ⟨rfl, rfl⟩ := List.cons.inj hash
        exact absurd start (by decide)
      · cases full
    · refine absurd full (notMatched isWhite ?_)
      rcases start with word | rfl
      · by_contra white
        simp only [isWhite, Bool.not_eq_false, Bool.or_eq_true, beq_iff_eq] at white
        rcases white with (rfl | rfl) | rfl <;> exact absurd word (by decide)
      · rfl
    · refine absurd full (notMatched (fun c => c == ';' || c == '\n') ?_)
      rcases start with word | rfl
      · by_contra terminator
        simp only [Bool.not_eq_false, Bool.or_eq_true, beq_iff_eq] at terminator
        rcases terminator with rfl | rfl <;> exact absurd word (by decide)
      · rfl
    · exact .inl ⟨l, (literal_full_iff l).mp ⟨full, nonempty⟩⟩
    · refine .inr (.inl (List.takeWhile_eq_self_iff.mp ?_))
      exact (List.takeWhile_prefix _).eq_of_length full
    · exact .inr (.inr (.inl ((binary_full_iff nonempty).mp full)))
    · exact .inr (.inr (.inr ((hexadecimal_full_iff nonempty).mp full)))
  · rintro (⟨l, same⟩ | digits | binary | hexadecimal)
    · exact ⟨.literal l, mem_earlier.mpr (by simp), ((literal_full_iff l).mpr same).1⟩
    · exact ⟨.decimal, mem_earlier.mpr (by simp), congrArg List.length (List.takeWhile_eq_self_iff.mpr digits)⟩
    · exact ⟨.binary, mem_earlier.mpr (by simp), (binary_full_iff nonempty).mpr binary⟩
    · exact ⟨.hexadecimal, mem_earlier.mpr (by simp), (hexadecimal_full_iff nonempty).mpr hexadecimal⟩

end Full

section Scan

variable {input rest : List Char} {v : List Char}

/-- The rule for strings is taken exactly if the rules in front of it match less and those behind it not more. -/
theorem longest_string_iff {n : ℕ} : longest Pattern.length input rules = some (.string, n) ↔
    n = wordLength input ∧ Takes Pattern.length input earlier .string later := by
  constructor
  · intro found
    obtain ⟨length, before, after, split, takes⟩ := takes_of_longest found
    have inEarlier : Pattern.string ∉ earlier := by decide
    have inLater : Pattern.string ∉ later := by decide
    obtain ⟨rfl, -, rfl⟩ := (List.append_cons_inj_of_notMem inEarlier inLater).mp (split ▸ rules_split).symm
    exact ⟨length, takes⟩
  · rintro ⟨rfl, takes⟩
    rw [rules_split]
    exact longest_of_takes takes

/-- Only the rule for strings gives a string. -/
theorem action_string {p : Pattern} {yytext : List Char} (found : p.action yytext = .token (.string v)) :
    p = .string ∧ ∃ val, unescape (cStr yytext) = .ok val ∧ v = val.chars := by
  cases p with
  | string =>
    rw [Pattern.action] at found
    split at found
    · next val ok =>
      obtain rfl := Token.string.inj (Action.token.inj found)
      exact ⟨rfl, val, ok, rfl⟩
    · cases found
  | decimal =>
    rw [Pattern.action] at found
    split at found <;> cases found
  | comment | whiteSpace | lfSemicolon | literal | binary | hexadecimal | quotedString | other => cases found

/-- A line that is one string has a match of the rule for strings somewhere. -/
theorem exists_match {fuel : ℕ} (scanned : scanFrom fuel input = ([.string v], .eof)) :
    ∃ skipped line rest, input = skipped ++ line ∧ next line = some (.token (.string v), rest) := by
  induction fuel generalizing input with
  | zero => cases scanned
  | succ fuel ih =>
    rw [scanFrom] at scanned
    match found : next input with
    | none =>
      rw [found] at scanned
      cases scanned
    | some (.skip, rest) =>
      rw [found, continueScan] at scanned
      obtain ⟨⟨p, n⟩, -, step⟩ := Option.map_eq_some_iff.mp found
      obtain ⟨skipped, line, rest', again, token⟩ := ih scanned
      refine ⟨input.take n ++ skipped, line, rest', ?_, token⟩
      rw [List.append_assoc, ← again, ← (Prod.mk.inj step).2, List.take_append_drop]
    | some (.token t, rest) =>
      rw [found, continueScan] at scanned
      obtain ⟨rfl, -⟩ := List.cons.inj (Prod.mk.inj scanned).1
      exact ⟨[], input, rest, rfl, found⟩
    | some (.syntaxError _, _) | some (.throws _, _) | some (.fault _, _) =>
      rw [found] at scanned
      cases scanned

theorem scanFrom_nil (fuel : ℕ) : scanFrom fuel [] = ([], .eof) := by
  have nothing : next [] = none := by
    rw [next, longest_eq_none_iff.mpr fun p _ => Nat.le_zero.mp (length_le p [])]
    rfl
  cases fuel with
  | zero => rfl
  | succ fuel =>
    rw [scanFrom, nothing]
    rfl

theorem cStr_of_noNul (noNul : nul ∉ input) : cStr input = ⟨input, noNul⟩ := by
  refine CString.ext (List.takeWhile_eq_self_iff.mpr fun c member => decide_eq_true ?_)
  rintro rfl
  exact noNul member

end Scan

section Completion

variable {name : CString}

theorem escaped_eq_nil_iff {chars : List Char} : escaped chars = [] ↔ chars = [] := by
  rw [← List.length_eq_zero_iff, length_escaped, ← List.length_eq_zero_iff]
  have fewer := List.count_le_length (a := ' ') (l := chars)
  omega

/-- An escaped text of word characters and blanks begins with one that the rule for strings matches. -/
theorem start_of_escaped {chars : List Char} (plain : ∀ c ∈ chars, isWord c ∨ c = ' ') (some : chars ≠ []) :
    ∃ c rest, escaped chars = c :: rest ∧ (isWord c ∨ c = '\\') := by
  cases chars with
  | nil => exact absurd rfl some
  | cons c chars =>
    by_cases blank : c = ' '
    · rw [blank, escaped_cons_blank]
      exact ⟨'\\', _, rfl, .inr rfl⟩
    · rw [escaped_cons_of_ne blank]
      exact ⟨c, _, rfl, .inl ((plain c List.mem_cons_self).resolve_right blank)⟩

/-- The rule for strings is taken for all of an escaped name unless that is a keyword or a number. -/
theorem takes_escaped_iff {chars : List Char} (plain : ∀ c ∈ chars, isWord c ∨ c = ' ') (some : chars ≠ []) :
    Takes Pattern.length (escaped chars) earlier .string later ↔ ¬Reserved chars := by
  obtain ⟨c, rest, split, start⟩ := start_of_escaped plain some
  have whole : Pattern.string.length (escaped chars) = (escaped chars).length := wordLength_escaped plain
  rw [← reserved_escaped_iff]
  constructor
  · intro takes reserved
    rw [split, ← full_iff_reserved start, ← split] at reserved
    obtain ⟨p, member, full⟩ := reserved
    have less := takes.more p member
    rw [whole, full] at less
    exact lt_irrefl _ less
  · intro free
    rw [split, ← full_iff_reserved start, ← split] at free
    refine ⟨?_, fun p member => ?_, fun p _ => ?_⟩
    · rw [whole]
      exact List.length_pos_iff.mpr fun none => some (escaped_eq_nil_iff.mp none)
    · rw [whole]
      exact lt_of_le_of_ne (length_le p _) fun full => free ⟨p, member, full⟩
    · rw [whole]
      exact length_le p _

theorem plain_of_completes (some : name.chars ≠ []) (completes : Completes name) : Plain name.chars := by
  obtain ⟨text, given, scanned⟩ := completes
  have counted : (escaped name.chars).length < INT_MAX := by
    by_contra above
    rw [escape_eq, if_neg above] at given
    cases given
  rw [escape_eq, if_pos counted] at given
  obtain rfl := Except.ok.inj given
  obtain ⟨skipped, line, rest, split, step⟩ := exists_match scanned
  obtain ⟨⟨p, n⟩, found, step⟩ := Option.map_eq_some_iff.mp step
  obtain ⟨rfl, val, read, same⟩ := action_string (Prod.mk.inj step).1
  obtain ⟨rfl, takes⟩ := longest_string_iff.mp found
  obtain ⟨yytext, behind, rfl, length, restored, chars⟩ := wordLength_split line
  -- what was matched is the escaped name, so it is all of the line
  have noNul : nul ∉ yytext := by
    intro member
    refine (escapedString name).noNul ?_
    rw [split]
    simp [member]
  rw [← length, List.take_left, cStr_of_noNul noNul, unescape_eq] at read
  have value : name.chars = unescaped yytext := by
    split_ifs at read
    rw [same, ← Except.ok.inj read]
    rfl
  have whole : escaped name.chars = yytext := by rw [value, restored]
  have lengths := congrArg List.length split
  change (escaped name.chars).length = _ at lengths
  rw [whole, List.length_append, List.length_append] at lengths
  obtain rfl : behind = [] := List.length_eq_zero_iff.mp (by omega)
  rw [List.append_nil, ← whole] at takes
  have plain : ∀ c ∈ name.chars, isWord c ∨ c = ' ' := fun c member => chars c (value ▸ member)
  refine ⟨plain, (takes_escaped_iff plain some).mp takes, ?_⟩
  rw [length_escaped] at counted
  omega

theorem completes_of_plain (some : name.chars ≠ []) (plain : Plain name.chars) : Completes name := by
  have counted : (escaped name.chars).length < INT_MAX := by
    rw [length_escaped]
    have bound := plain.counted
    omega
  refine ⟨escapedString name, ?_, ?_⟩
  · rw [escape_eq, if_pos counted]
  have takes := (takes_escaped_iff plain.chars some).mpr plain.notReserved
  have found := longest_string_iff.mpr ⟨rfl, takes⟩
  have back : unescaped (escaped name.chars) = name.chars := unescaped_escaped name.chars
  have read : unescape ⟨escaped name.chars, noNul_escaped name.noNul⟩ = .ok name := by
    have bound := plain.counted
    rw [unescape_eq, if_pos ⟨counted.le, by rw [back]; omega⟩]
    exact congrArg Except.ok (CString.ext back)
  have step : next (escaped name.chars) = .some (.token (.string name.chars), []) := by
    rw [next, found, wordLength_escaped plain.chars, Option.map_some]
    dsimp only
    rw [List.take_length, List.drop_length, Pattern.action, cStr_of_noNul (noNul_escaped name.noNul), read]
  obtain ⟨fuel, matched⟩ : ∃ fuel, (escaped name.chars).length = fuel + 1 :=
    Nat.exists_eq_succ_of_ne_zero fun none => some (escaped_eq_nil_iff.mp (List.length_eq_zero_iff.mp none))
  change scanFrom (escaped name.chars).length (escaped name.chars) = _
  rw [matched, scanFrom, step, continueScan, scanFrom_nil]

end Completion

/-- A completed name is scanned as that name exactly if it is plain. -/
theorem completes_iff (name : Name) : Completes name.toCString ↔ Plain name.chars :=
  ⟨plain_of_completes name.nonempty, completes_of_plain name.nonempty⟩

/-- A bit of register 10 of node type 4 in `nodes.conf`: the text ends in an invalid input. -/
theorem not_completes : ¬∀ name : Name, Completes name.toCString := by
  intro all
  let name : Name := ⟨⟨"Circuit breaker (S)".toList, by decide⟩, by decide, by decide, by decide⟩
  have word := (plain_of_completes name.nonempty (all name)).chars '(' (by decide)
  revert word
  decide

end H9d.CliLexer
