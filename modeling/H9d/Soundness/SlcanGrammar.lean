import H9d.Soundness.SlcanLines

/-! # The grammar of SLCAN lines and the parser

A parser of the grammar accepts its lines and returns false for all others. The driver takes the
length of a line, with its carriage return, and `std::stoi` for the grammar.
-/

namespace H9d.SlcanDriver

open H9Frame Cxx

variable {line : List Byte} {garbage : H9Frame}

/-- A line of the grammar is accepted with what it says, and any other line is refused. -/
def ReadsExactly (line : List Byte) (garbage : H9Frame) : Prop :=
  (∀ id bytes, Sentence line id bytes →
    ∃ f, parseSlcanMsg line garbage = .value (some f) ∧ f.canId.toNat = id % 2 ^ 29 ∧
      f.dlc.toNat = bytes.length ∧ (List.ofFn f.data).take f.dlc.toNat = bytes) ∧
  ((¬∃ id bytes, Sentence line id bytes) → parseSlcanMsg line garbage = .value none)

theorem Sentence.id_unique {id id' : ℕ} {bytes bytes' : List Byte} (sentence : Sentence line id bytes)
    (sentence' : Sentence line id' bytes') : id = id' :=
  sentence.header.1.value.symm.trans sentence'.header.1.value

theorem parseSlcanMsg_accepts {id : ℕ} {bytes : List Byte} (sentence : Sentence line id bytes)
    (fits : id < 2 ^ 31) (garbage : H9Frame) :
    ∃ f, parseSlcanMsg line garbage = .value (some f) ∧ f.canId.toNat = id % 2 ^ 29 ∧
      f.dlc.toNat = bytes.length ∧ (List.ofFn f.data).take f.dlc.toNat = bytes := by
  obtain ⟨data, parsed, same⟩ := parseSlcanMsg_sentence sentence fits garbage
  have few := sentence.1
  have dlc : (BitVec.ofNat 8 bytes.length).toNat = bytes.length := by
    rw [BitVec.toNat_ofNat]
    omega
  refine ⟨_, parsed, ?_, dlc, ?_⟩
  · have number := (addressed_setCanId garbage (BitVec.ofNat 32 id)).canId
    rw [BitVec.toNat_ofNat, Nat.mod_eq_of_lt (a := id) (by omega)] at number
    exact number
  · dsimp only
    rw [dlc]
    exact same

/-- `int` does not hold the identifier. -/
theorem parseSlcanMsg_outOfRange {id : ℕ} {bytes : List Byte} (sentence : Sentence line id bytes)
    (large : 2 ^ 31 ≤ id) (garbage : H9Frame) :
    parseSlcanMsg line garbage = .throws .outOfRange := by
  have length := sentence.length
  rw [parseSlcanMsg, if_neg (by omega), sentence.header.1.stoiHex_eq (by decide), if_neg (by omega)]
  rfl

/-- The parser keeps to the grammar on the lines that are too short for it, and on those lines of the
grammar whose identifier fits an `int`. -/
theorem readsExactly_iff (line : List Byte) (garbage : H9Frame) :
    ReadsExactly line garbage ↔
      TooShort line ∨ ∃ id bytes, Sentence line id bytes ∧ id < 2 ^ 31 := by
  constructor
  · rintro ⟨accepted, refused⟩
    by_cases grammar : ∃ id bytes, Sentence line id bytes
    · obtain ⟨id, bytes, sentence⟩ := grammar
      refine .inr ⟨id, bytes, sentence, ?_⟩
      by_contra large
      obtain ⟨f, parsed, -⟩ := accepted id bytes sentence
      rw [parseSlcanMsg_outOfRange sentence (by omega)] at parsed
      cases parsed
    · exact .inl (parseSlcanMsg_eq_none.mp (refused grammar))
  · rintro (short | ⟨id, bytes, sentence, fits⟩)
    · have none : parseSlcanMsg line garbage = .value none := parseSlcanMsg_eq_none.mpr short
      refine ⟨fun id bytes sentence => ?_, fun _ => none⟩
      by_cases fits : id < 2 ^ 31
      · obtain ⟨f, parsed, -⟩ := parseSlcanMsg_accepts sentence fits garbage
        cases none.symm.trans parsed
      · cases none.symm.trans (parseSlcanMsg_outOfRange sentence (by omega) garbage)
    · refine ⟨fun id' bytes' sentence' => ?_, fun outside => absurd ⟨id, bytes, sentence⟩ outside⟩
      obtain rfl := sentence.id_unique sentence'
      exact parseSlcanMsg_accepts sentence' fits garbage

/-- The line of a frame with one byte, `T00000000112\r`, that lost its last digit. -/
def truncatedLine : List Byte :=
  [0x54, 0x30, 0x30, 0x30, 0x30, 0x30, 0x30, 0x30, 0x30, 0x31, 0x31, CR]

/-- The carriage return counts as the missing digit, and the frame comes with a wrong byte. -/
theorem readsExactly_truncatedLine :
    truncatedLine.getLast? = some CR ∧ ¬ReadsExactly truncatedLine default := by
  refine ⟨by decide, fun exact => ?_⟩
  have outside : ¬∃ id bytes, Sentence truncatedLine id bytes := by
    rintro ⟨id, bytes, sentence⟩
    have length : 12 = 11 + 2 * bytes.length := sentence.length
    omega
  have accepted : parseSlcanMsg truncatedLine default =
      .value (some { (default : H9Frame).setCanId 0 with
        dlc := 1, data := Function.update (default : H9Frame).data 0 1 }) := by
    rfl
  cases accepted.symm.trans (exact.2 outside)

end H9d.SlcanDriver
