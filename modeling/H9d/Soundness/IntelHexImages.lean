import H9d.Core.IntelHex
import H9d.Core.Placement
import H9d.Model.H9fwupload
import Mathlib.Tactic.Ring

/-! # The image of an Intel HEX file

A data record is written where the data that was read ends, or at its address if that is further. So the block
holds the records put on top of each other. That is the image of the file as long as the file goes up, and the
theorem says which other files it holds for.
-/

namespace H9d.H9fwupload

open H9Frame Cxx Machine FirmwareUploader Placement
open IntelHex (Record Hex Line File IsDigit IsEndOfLine segments high low)

variable {ε : Type}

section Digits

variable {chars : List Byte} {i : ℕ} {b c d : Byte}

theorem charAt_of_getElem? (char : chars[i]? = some c) : (charAt chars i : Outcome ε Byte) = .value c := by
  obtain ⟨inside, -⟩ := List.getElem?_eq_some_iff.mp char
  rw [charAt, if_pos inside, List.getD_eq_getElem?_getD, char]
  rfl

theorem digit_eq {v : BitVec 4} (isDigit : IsDigit c v) : c ≠ 0 ∧ digit c &&& 0xf = v.setWidth 8 :=
  isDigit.all (P := fun c v => c ≠ 0 ∧ digit c &&& 0xf = v.setWidth 8) (by decide)

theorem join_digits (b : Byte) :
    ((0 : Byte) <<< 4 ||| ((b >>> 4).setWidth 4).setWidth 8) <<< 4 ||| (b.setWidth 4).setWidth 8 = b := by
  revert b
  decide

theorem hex2bin_of_digits (first : chars[i]? = some c) (second : chars[i + 1]? = some d)
    (upper : IsDigit c ((b >>> 4).setWidth 4)) (lower : IsDigit d (b.setWidth 4)) :
    (hex2bin chars i : Outcome ε Byte) = .value b := by
  obtain ⟨upperNonzero, upperDigit⟩ := digit_eq upper
  obtain ⟨lowerNonzero, lowerDigit⟩ := digit_eq lower
  rw [hex2bin, charAt_of_getElem? first, Outcome.value_bind, if_neg upperNonzero, charAt_of_getElem? second,
    upperDigit]
  simp only [Outcome.value_bind, if_neg lowerNonzero, lowerDigit, join_digits]
  rfl

end Digits

section Records

variable {line text : List Byte} {r : Record} {k : ℕ} {b : Byte}

/-- The bytes of a record are where its digits are. -/
theorem hex2bin_of_line (isLine : Line line r) (byte : r.bytes[k]? = some b) :
    (hex2bin line (1 + 2 * k) : Outcome ε Byte) = .value b := by
  obtain ⟨text, eol, hex, -, rfl⟩ := isLine
  obtain ⟨c, d, first, second, upper, lower⟩ := hex.getElem? byte
  have inside {i : ℕ} {x : Byte} (char : text[i]? = some x) : (0x3a :: text ++ eol)[1 + i]? = some x := by
    obtain ⟨short, -⟩ := List.getElem?_eq_some_iff.mp char
    rw [List.cons_append, Nat.add_comm, List.getElem?_cons_succ, List.getElem?_append_left short, char]
  exact hex2bin_of_digits (inside first) (inside second) upper lower

theorem head?_of_line (isLine : Line line r) : line.head? = some 0x3a := by
  obtain ⟨text, eol, -, -, rfl⟩ := isLine
  rfl

end Records

section Text

variable {text line rest : List Byte} {r : Record} {records : List Record}

theorem notEnd_of_hex (hex : Hex text r.bytes) : ∀ c ∈ 0x3a :: text, (c == 0x0a) = false :=
  List.forall_mem_cons.mpr ⟨rfl, hex.forall_mem (by decide)⟩

theorem getlines_cons (inside : ∀ c ∈ line, (c == 0x0a) = false) :
    getlines (line ++ 0x0a :: rest) = (line ++ [0x0a]) :: getlines rest := by
  rw [getlines, Lines.split_line _ inside rfl, getlines, List.nil_append]
  dsimp only
  split
  · rfl
  · rfl

/-- The lines of a file. -/
theorem getlines_file (file : File text records) : List.Forall₂ Line (getlines text) records := by
  induction file with
  | nil => exact .nil
  | @last text r hex =>
    rw [getlines, Lines.split_open _ (notEnd_of_hex hex)]
    exact .cons ⟨text, [], hex, .inl rfl, (List.append_nil _).symm⟩ .nil
  | @cons text eol rest r records hex ends file ih =>
    have body := notEnd_of_hex hex
    rcases ends with rfl | rfl
    · rw [List.append_assoc, List.singleton_append, getlines_cons body]
      exact .cons ⟨text, [0x0a], hex, .inr (.inl rfl), rfl⟩ ih
    · have whole : ∀ c ∈ 0x3a :: text ++ [0x0d], (c == 0x0a) = false :=
        List.forall_mem_append.mpr ⟨body, by decide⟩
      have split : 0x3a :: text ++ [0x0d, 0x0a] ++ rest = (0x3a :: text ++ [0x0d]) ++ 0x0a :: rest := by
        simp only [List.append_assoc, List.cons_append, List.nil_append]
      rw [split, getlines_cons whole]
      refine .cons ⟨text, [0x0d, 0x0a], hex, .inr (.inr rfl), ?_⟩ ih
      rw [List.append_assoc]
      rfl

end Text

section Addresses

theorem toNat_address (upper address : BitVec 16) :
    (upper.setWidth 32 <<< 16 + ((high address).setWidth 32 <<< 8) + (low address).setWidth 32 : BitVec 32).toNat =
      upper.toNat * 2 ^ 16 + address.toNat := by
  have first := upper.isLt
  have second := address.isLt
  simp only [high, low, BitVec.toNat_add, BitVec.toNat_shiftLeft, BitVec.toNat_setWidth,
    BitVec.toNat_ushiftRight, Nat.shiftLeft_eq, Nat.shiftRight_eq_div_pow]
  omega

theorem extended_eq (upper : BitVec 16) :
    (((high upper).setWidth 32 <<< 8 + (low upper).setWidth 32) <<< 16 : BitVec 32) =
      upper.setWidth 32 <<< 16 := by
  have bound := upper.isLt
  apply BitVec.eq_of_toNat_eq
  simp only [high, low, BitVec.toNat_add, BitVec.toNat_shiftLeft, BitVec.toNat_setWidth,
    BitVec.toNat_ushiftRight, Nat.shiftLeft_eq, Nat.shiftRight_eq_div_pow]
  omega

theorem cutOff_iff (upper : BitVec 16) : (1#32 <<< 16 < upper.setWidth 32 <<< 16) ↔ 1 < upper.toNat := by
  have bound := upper.isLt
  rw [BitVec.lt_def]
  simp only [BitVec.toNat_shiftLeft, BitVec.toNat_setWidth, BitVec.toNat_ofNat, Nat.shiftLeft_eq]
  omega

end Addresses

section Data

/-- The bytes of a segment behind the data that was read. -/
def Reading.written (s : Reading) (a : ℕ) (bytes : List Byte) : Reading :=
  { s with
    fwData := fun i => (((movesFrom a s.dataLength bytes).map Move.put).lookup i.val).getD (s.fwData i)
    dataLength := s.dataLength + bytes.length }

theorem written_cons (s : Reading) (a : ℕ) (b : Byte) (bytes : List Byte) (room : s.dataLength < FW_DATA_LENGTH) :
    s.written a (b :: bytes) = Reading.written
      { s with fwData := Function.update s.fwData ⟨s.dataLength, room⟩ b, dataLength := s.dataLength + 1 }
      (a + 1) bytes := by
  rw [Reading.written, Reading.written, Reading.mk.injEq]
  refine ⟨funext fun i => ?_, rfl, ?_⟩
  · rw [movesFrom, List.map_cons, Move.put, List.lookup_cons]
    by_cases here : i.val = s.dataLength
    · obtain rfl : i = ⟨s.dataLength, room⟩ := Fin.ext here
      rw [beq_self_eq_true, lookup_movesFrom_of_lt (Nat.lt_succ_self s.dataLength)]
      exact (Function.update_self (f := s.fwData) ..).symm
    · have other : i ≠ ⟨s.dataLength, room⟩ := fun same => here (congrArg Fin.val same)
      rw [beq_false_of_ne here]
      dsimp only
      rw [Function.update_of_ne other]
  · rw [List.length_cons]
    exact Nat.add_right_comm _ _ 1

variable {line bytes : List Byte}

/-- The loop over the bytes of a record. -/
theorem readData_eq {n : ℕ} (reads : ∀ k b, bytes[k]? = some b →
    (hex2bin line (9 + (n + k) * 2) : Outcome ε Byte) = .value b) (s : Reading) (a : ℕ) (crc : Byte)
    (bounded : s.dataLength ≤ FW_DATA_LENGTH) :
    (readData line s crc n bytes.length : Outcome ε (Reading × Byte)) =
      if s.dataLength + bytes.length ≤ FW_DATA_LENGTH then .value (s.written a bytes, crc + bytes.sum)
      else .undefined := by
  induction bytes generalizing n s a crc with
  | nil =>
    rw [List.length_nil, readData, Nat.add_zero, if_pos bounded, List.sum_nil, add_zero]
    rfl
  | cons b bytes ih =>
    have first : (hex2bin line (9 + n * 2) : Outcome ε Byte) = .value b := reads 0 b rfl
    rw [List.length_cons, readData, first, Outcome.value_bind]
    have later : ∀ k b, bytes[k]? = some b → (hex2bin line (9 + (n + 1 + k) * 2) : Outcome ε Byte) = .value b := by
      intro k b byte
      rw [Nat.add_assoc n, Nat.add_comm 1]
      exact reads (k + 1) b byte
    by_cases room : s.dataLength < FW_DATA_LENGTH
    · rw [dif_pos room, ih later _ (a + 1) _ (Nat.succ_le_of_lt room), written_cons s a b bytes room, List.sum_cons,
        BitVec.add_assoc, Nat.add_assoc, Nat.add_comm 1]
    · rw [dif_neg room, if_neg (by omega)]

/-- The data go where those before end, or at the address if that is further. -/
theorem dataLength_eq_max (s : Reading) (a : ℕ) :
    (if s.dataLength < a then a else s.dataLength) = max s.dataLength a := by
  split <;> omega

end Data

section Records

variable {line : List Byte} {s : Reading} {upper : BitVec 16}

/-- A data record is written, if there is room. -/
theorem readLine_data {address : BitVec 16} {bytes : List Byte} {short : bytes.length < 2 ^ 8}
    (isLine : Line line (.data address bytes short)) (base : s.extendedAddress = upper.setWidth 32 <<< 16)
    (inBlock : upper.toNat ≤ 1) (bounded : s.dataLength ≤ FW_DATA_LENGTH) :
    (readLine s line : Outcome ε Progress) =
      if max s.dataLength (upper.toNat * 2 ^ 16 + address.toNat) + bytes.length ≤ FW_DATA_LENGTH then
        .value (.goesOn (Reading.written
          { s with dataLength := max s.dataLength (upper.toNat * 2 ^ 16 + address.toNat) }
          (upper.toNat * 2 ^ 16 + address.toNat) bytes))
      else .undefined := by
  have size : (hex2bin line 1 : Outcome ε Byte) = .value (BitVec.ofNat 8 bytes.length) :=
    hex2bin_of_line (k := 0) isLine rfl
  have msb : (hex2bin line 3 : Outcome ε Byte) = .value (high address) := hex2bin_of_line (k := 1) isLine rfl
  have lsb : (hex2bin line 5 : Outcome ε Byte) = .value (low address) := hex2bin_of_line (k := 2) isLine rfl
  have rtype : (hex2bin line 7 : Outcome ε Byte) = .value 0 := hex2bin_of_line (k := 3) isLine rfl
  have length : (BitVec.ofNat 8 bytes.length).toNat = bytes.length := by
    rw [BitVec.toNat_ofNat, Nat.mod_eq_of_lt short]
  have sum : (hex2bin line (9 + bytes.length * 2) : Outcome ε Byte) =
      .value (Record.data address bytes short).checksum := by
    have place : 9 + bytes.length * 2 = 1 + 2 * (bytes.length + 4) := by omega
    rw [place]
    refine hex2bin_of_line isLine ?_
    exact List.getElem?_concat_length
  have reads : ∀ k b, bytes[k]? = some b → (hex2bin line (9 + (0 + k) * 2) : Outcome ε Byte) = .value b := by
    intro k b byte
    have place : 9 + (0 + k) * 2 = 1 + 2 * (k + 4) := by omega
    rw [place]
    refine hex2bin_of_line isLine ?_
    obtain ⟨inside, -⟩ := List.getElem?_eq_some_iff.mp byte
    exact (List.getElem?_append_left inside).trans byte
  have reach : max s.dataLength (upper.toNat * 2 ^ 16 + address.toNat) ≤ FW_DATA_LENGTH := by
    have bound := address.isLt
    have limit : upper.toNat * 2 ^ 16 + address.toNat ≤ FW_DATA_LENGTH := by
      change _ ≤ 131072
      omega
    exact Nat.max_le.mpr ⟨bounded, limit⟩
  rw [readLine, head?_of_line isLine, if_neg (not_not_intro rfl)]
  simp only [size, msb, lsb, rtype, Outcome.value_bind, if_pos, base, toNat_address, length,
    dataLength_eq_max]
  rw [readData_eq reads _ (upper.toNat * 2 ^ 16 + address.toNat) _ reach]
  split
  · rw [Outcome.value_bind]
    dsimp only
    rw [sum, Outcome.value_bind]
    refine if_neg (not_not_intro ?_)
    simp only [Record.checksum, Record.body, List.sum_cons]
    ring
  · rfl

theorem readLine_endOfFile {address : BitVec 16} (isLine : Line line (.endOfFile address)) :
    (readLine s line : Outcome ε Progress) = .value (.goesOn s) := by
  have size : (hex2bin line 1 : Outcome ε Byte) = .value 0 := hex2bin_of_line (k := 0) isLine rfl
  have msb : (hex2bin line 3 : Outcome ε Byte) = .value (high address) := hex2bin_of_line (k := 1) isLine rfl
  have lsb : (hex2bin line 5 : Outcome ε Byte) = .value (low address) := hex2bin_of_line (k := 2) isLine rfl
  have rtype : (hex2bin line 7 : Outcome ε Byte) = .value 1 := hex2bin_of_line (k := 3) isLine rfl
  rw [readLine, head?_of_line isLine, if_neg (not_not_intro rfl)]
  simp only [size, msb, lsb, rtype, Outcome.value_bind]
  rfl

theorem readLine_extended {next : BitVec 16} (isLine : Line line (.extendedLinearAddress next)) :
    (readLine s line : Outcome ε Progress) =
      .value (if 1 < next.toNat then .stops { s with extendedAddress := next.setWidth 32 <<< 16 }
        else .goesOn { s with extendedAddress := next.setWidth 32 <<< 16 }) := by
  have size : (hex2bin line 1 : Outcome ε Byte) = .value 2 := hex2bin_of_line (k := 0) isLine rfl
  have msb : (hex2bin line 3 : Outcome ε Byte) = .value 0 := hex2bin_of_line (k := 1) isLine rfl
  have lsb : (hex2bin line 5 : Outcome ε Byte) = .value 0 := hex2bin_of_line (k := 2) isLine rfl
  have rtype : (hex2bin line 7 : Outcome ε Byte) = .value 4 := hex2bin_of_line (k := 3) isLine rfl
  have upper : (hex2bin line 9 : Outcome ε Byte) = .value (high next) := hex2bin_of_line (k := 4) isLine rfl
  have lower : (hex2bin line 11 : Outcome ε Byte) = .value (low next) := hex2bin_of_line (k := 5) isLine rfl
  have sum : (hex2bin line 13 : Outcome ε Byte) = .value (Record.extendedLinearAddress next).checksum :=
    hex2bin_of_line (k := 6) isLine rfl
  have correct : 0 - ((2 + 0 + 0 + 4 : Byte) + high next + low next) =
      (Record.extendedLinearAddress next).checksum := by
    simp only [Record.checksum, Record.body, List.sum_cons, List.sum_nil]
    ring
  have other : ¬(4 : Byte) = 0 := by decide
  rw [readLine, head?_of_line isLine, if_neg (not_not_intro rfl)]
  simp only [size, msb, lsb, rtype, upper, lower, sum, Outcome.value_bind, extended_eq]
  rw [if_neg other, if_pos trivial, if_neg (not_not_intro correct)]
  simp only [cutOff_iff]
  split <;> rfl

end Records

/-- A record that does not end the reading; the file is read up to the first other one. -/
def isLow : Record → Bool
  | .extendedLinearAddress upper => decide (upper.toNat ≤ 1)
  | _ => true

/-- What the reading of a file is left with. -/
def Progress.reading : Progress → Reading
  | goesOn s | stops s | corrupted s => s

section Files

variable {lines : List (List Byte)} {records : List Record} {s : Reading} {upper : BitVec 16}

/-- The block holds the records put on top of each other, if there is room. -/
structure Stacks (s : Reading) (read : List (ℕ × List Byte)) (t : Reading) : Prop where
  length : t.dataLength = stacked s.dataLength read
  bytes : ∀ i, t.fwData i = (((moves s.dataLength read).map Move.put).lookup i.val).getD (s.fwData i)

theorem Stacks.cons {a : ℕ} {bytes : List Byte} {read : List (ℕ × List Byte)} {t : Reading}
    (rest : Stacks (Reading.written { s with dataLength := max s.dataLength a } a bytes) read t) :
    Stacks s ((a, bytes) :: read) t where
  length := rest.length
  bytes i := by
    rw [rest.bytes, moves, List.map_append, List.lookup_append]
    change _ = (Option.or (((movesFrom a (max s.dataLength a) bytes).map Move.put).lookup i.val) _).getD _
    have later : ((moves (max s.dataLength a + bytes.length) read).map Move.put).lookup i.val = none ∨
        ((movesFrom a (max s.dataLength a) bytes).map Move.put).lookup i.val = none := by
      by_cases here : i.val < max s.dataLength a + bytes.length
      · exact .inl (lookup_moves_of_lt here)
      · exact .inr (lookup_movesFrom_of_le (Nat.le_of_not_lt here))
    change (Option.getD (((moves (max s.dataLength a + bytes.length) read).map Move.put).lookup i.val)
      ((((movesFrom a (max s.dataLength a) bytes).map Move.put).lookup i.val).getD (s.fwData i))) = _
    rcases later with later | later
    · rw [later, Option.or_none]
      rfl
    · rw [later, Option.none_or]
      rfl

/-- What becomes of the loop over the lines. -/
def StacksIfRoom (s : Reading) (read : List (ℕ × List Byte)) (outcome : Outcome ε Progress) : Prop :=
  if stacked s.dataLength read ≤ FW_DATA_LENGTH then ∃ p, outcome = .value p ∧ Stacks s read p.reading
  else outcome = .undefined

theorem StacksIfRoom.cons {a : ℕ} {bytes : List Byte} {read : List (ℕ × List Byte)} {outcome : Outcome ε Progress}
    (rest : StacksIfRoom (Reading.written { s with dataLength := max s.dataLength a } a bytes) read outcome) :
    StacksIfRoom s ((a, bytes) :: read) outcome := by
  rw [StacksIfRoom] at rest ⊢
  change if stacked (max s.dataLength a + bytes.length) read ≤ FW_DATA_LENGTH then _ else _ at rest
  change if stacked (max s.dataLength a + bytes.length) read ≤ FW_DATA_LENGTH then _ else _
  by_cases room : stacked (max s.dataLength a + bytes.length) read ≤ FW_DATA_LENGTH
  · rw [if_pos room] at rest ⊢
    obtain ⟨p, value, rest⟩ := rest
    exact ⟨p, value, rest.cons⟩
  · rw [if_neg room] at rest ⊢
    exact rest

/-- The upper half of the addresses does not matter for what is there. -/
theorem StacksIfRoom.of_extended {x : BitVec 32} {read : List (ℕ × List Byte)} {outcome : Outcome ε Progress}
    (rest : StacksIfRoom { s with extendedAddress := x } read outcome) : StacksIfRoom s read outcome := by
  rw [StacksIfRoom] at rest ⊢
  change if stacked s.dataLength read ≤ FW_DATA_LENGTH then _ else _ at rest
  by_cases room : stacked s.dataLength read ≤ FW_DATA_LENGTH
  · rw [if_pos room] at rest ⊢
    obtain ⟨p, value, rest⟩ := rest
    exact ⟨p, value, rest.length, rest.bytes⟩
  · rw [if_neg room] at rest ⊢
    exact rest

theorem StacksIfRoom.nil {p : Progress} (bounded : s.dataLength ≤ FW_DATA_LENGTH)
    (length : p.reading.dataLength = s.dataLength) (same : p.reading.fwData = s.fwData) :
    StacksIfRoom s [] (.value p : Outcome ε Progress) := by
  rw [StacksIfRoom, stacked, if_pos bounded]
  exact ⟨p, rfl, length, fun i => congrFun same i⟩

theorem StacksIfRoom.undefined {read : List (ℕ × List Byte)} (full : FW_DATA_LENGTH < stacked s.dataLength read) :
    StacksIfRoom s read (.undefined : Outcome ε Progress) := by
  rw [StacksIfRoom, if_neg (Nat.not_le_of_lt full)]

/-- The loop over the lines, by induction over the records. -/
theorem readLines_stacks (all : List.Forall₂ Line lines records)
    (base : s.extendedAddress = upper.setWidth 32 <<< 16) (inBlock : upper.toNat ≤ 1)
    (bounded : s.dataLength ≤ FW_DATA_LENGTH) :
    StacksIfRoom s (segments upper (records.takeWhile isLow)) (readLines s lines : Outcome ε Progress) := by
  induction all generalizing s upper with
  | nil => exact .nil bounded rfl rfl
  | @cons line r lines records isLine all ih =>
    rw [readLines]
    cases r with
    | data address bytes short =>
      have read : segments upper ((Record.data address bytes short :: records).takeWhile isLow) =
          (upper.toNat * 2 ^ 16 + address.toNat, bytes) :: segments upper (records.takeWhile isLow) := rfl
      rw [read, readLine_data isLine base inBlock bounded]
      refine StacksIfRoom.cons ?_
      by_cases room : max s.dataLength (upper.toNat * 2 ^ 16 + address.toNat) + bytes.length ≤ FW_DATA_LENGTH
      · rw [if_pos room]
        exact ih base inBlock room
      · rw [if_neg room]
        exact .undefined (Nat.lt_of_lt_of_le (Nat.lt_of_not_le room) le_stacked)
    | endOfFile address =>
      rw [readLine_endOfFile isLine]
      exact ih base inBlock bounded
    | extendedLinearAddress next =>
      rw [readLine_extended isLine]
      by_cases cut : 1 < next.toNat
      · have ends : ¬isLow (.extendedLinearAddress next) = true :=
          fun low => Nat.not_le_of_lt cut (of_decide_eq_true low)
        have stops : StacksIfRoom s [] (.value (.stops { s with extendedAddress := next.setWidth 32 <<< 16 }) :
            Outcome ε Progress) := .nil bounded (by rw [Progress.reading]) (by rw [Progress.reading])
        rw [if_pos cut, List.takeWhile_cons_of_neg ends]
        exact stops
      · have goes : isLow (.extendedLinearAddress next) = true := decide_eq_true (Nat.le_of_not_lt cut)
        rw [if_neg cut, List.takeWhile_cons_of_pos goes]
        exact .of_extended (ih rfl (Nat.le_of_not_lt cut) bounded)

/-- The records behind the one that ends the reading belong to the addresses that it sets. -/
theorem segments_split (upper : BitVec 16) (records : List Record) :
    segments upper records =
      segments upper (records.takeWhile isLow) ++ segments 0 (records.dropWhile isLow) := by
  induction records generalizing upper with
  | nil => rfl
  | cons r records ih =>
    cases goes : isLow r with
    | true =>
      rw [List.takeWhile_cons_of_pos goes, List.dropWhile_cons_of_pos goes, segments, segments, ih,
        List.append_assoc]
    | false =>
      have next : r.upper upper = r.upper 0 := by cases r <;> first | rfl | cases goes
      have noData : ∀ upper, r.segment upper = none := by cases r <;> first | exact fun _ => rfl | cases goes
      have ends : ¬isLow r = true := Bool.eq_false_iff.mp goes
      rw [List.takeWhile_cons_of_neg ends, List.dropWhile_cons_of_neg ends, segments, segments, segments, next,
        noData, noData]
      rfl

end Files

section Images

variable {text : List Byte} {records : List Record}

/-- Every byte is at its address, and the length is one more than the highest address. -/
structure Holds (s : Reading) (entries : List (ℕ × Byte)) : Prop where
  length : s.dataLength = top entries
  bytes : ∀ i, s.fwData i = image 0xff entries i.val

theorem readIhex_stacks (file : File text records) :
    if stacked 0 (segments 0 (records.takeWhile isLow)) ≤ FW_DATA_LENGTH then
      ∃ s, (readIhex text : Outcome ε Reading) = .value s ∧
        Stacks Reading.start (segments 0 (records.takeWhile isLow)) s
    else (readIhex text : Outcome ε Reading) = .undefined := by
  have run := @readLines_stacks ε _ _ Reading.start 0 (getlines_file file) rfl
    (Nat.zero_le 1) (Nat.zero_le _)
  rw [StacksIfRoom] at run
  change if stacked 0 (segments 0 (records.takeWhile isLow)) ≤ FW_DATA_LENGTH then _ else _ at run
  rw [readIhex]
  split
  · rename_i room
    rw [if_pos room] at run
    obtain ⟨p, value, rest⟩ := run
    rw [value]
    cases p <;> exact ⟨_, rfl, rest⟩
  · rename_i room
    rw [if_neg room] at run
    rw [run]
    rfl

/-- What is above the block is not there, and belongs to no record. -/
theorem Stacks.bytes_iff {read : List (ℕ × List Byte)} {s : Reading} {entries : List (ℕ × Byte)}
    (rest : Stacks Reading.start read s) (room : stacked 0 read ≤ FW_DATA_LENGTH)
    (below : ∀ c ∈ entries, c.1 < FW_DATA_LENGTH) :
    (∀ i, s.fwData i = image 0xff entries i.val) ↔
      ∀ a, image 0xff ((moves 0 read).map Move.put) a = image 0xff entries a := by
  have bytes : ∀ i, s.fwData i = image 0xff ((moves 0 read).map Move.put) i.val := rest.bytes
  constructor
  · intro same a
    by_cases inside : a < FW_DATA_LENGTH
    · exact (bytes ⟨a, inside⟩).symm.trans (same ⟨a, inside⟩)
    · rw [image_of_absent, image_of_absent]
      · intro x member
        exact absurd (below _ member) inside
      · intro x member
        obtain ⟨m, moved, put⟩ := List.mem_map.mp member
        have position : m.position = a := (Prod.mk.inj put).1
        have bound := lt_stacked_of_mem_moves moved
        omega
  · intro same i
    rw [bytes, same]

/-- The image of a file is what is returned exactly if stacking its records gives the image. -/
theorem readIhex_holds_iff (file : File text records)
    (below : ∀ c ∈ cells (segments 0 records), c.1 < FW_DATA_LENGTH)
    (distinct : ((cells (segments 0 records)).map Prod.fst).Nodup) :
    (∃ s, (readIhex text : Outcome ε Reading) = .value s ∧ Holds s (cells (segments 0 records))) ↔
      Settled 0xff (segments 0 (records.takeWhile isLow)) (segments 0 (records.dropWhile isLow)) := by
  have run := readIhex_stacks (ε := ε) file
  rw [segments_split] at below distinct ⊢
  rw [← settled_iff distinct]
  by_cases room : stacked 0 (segments 0 (records.takeWhile isLow)) ≤ FW_DATA_LENGTH
  · rw [if_pos room] at run
    obtain ⟨s, value, rest⟩ := run
    rw [value, ← rest.bytes_iff room below]
    constructor
    · rintro ⟨t, ⟨⟩, holds⟩
      exact ⟨holds.bytes, rest.length.symm.trans holds.length⟩
    · rintro ⟨bytes, length⟩
      exact ⟨s, rfl, rest.length.trans length, bytes⟩
  · rw [if_neg room] at run
    rw [run]
    refine iff_of_false ?_ ?_
    · rintro ⟨s, ⟨⟩, -⟩
    · rintro ⟨-, length⟩
      exact room (length.trans_le (top_le below))

/-- Two sections that go up. -/
def ascending : List Record :=
  [.data 0 [0x41, 0x42] (by decide), .extendedLinearAddress 1, .data 0x10 [0x43] (by decide), .endOfFile 0]

theorem readIhex_holds_ascending :
    ∃ s, (readIhex (IntelHex.file ascending) : Outcome Exit Reading) = .value s ∧
      Holds s (cells (segments 0 ascending)) := by
  refine (readIhex_holds_iff (IntelHex.file_file _) (by decide) (by decide)).mpr ?_
  have up : Ascending [(0, [0x41#8, 0x42#8]), (0x10010, [0x43#8])] := .cons (by decide) (.cons nofun .nil)
  exact up.settled (by decide)

/-- Two records that go down. -/
def descending : List Record := [.data 0x10 [0x41] (by decide), .data 0 [0x42] (by decide), .endOfFile 0]

/-- The second record is put behind the first. -/
theorem readIhex_not_holds : ¬∀ (text : List Byte) (records : List Record), File text records →
    (∀ c ∈ cells (segments 0 records), c.1 < FW_DATA_LENGTH) →
    ((cells (segments 0 records)).map Prod.fst).Nodup →
    ∃ s, (readIhex text : Outcome Exit Reading) = .value s ∧ Holds s (cells (segments 0 records)) := by
  intro all
  have file := IntelHex.file_file descending
  obtain ⟨s, value, holds⟩ := all _ descending file (by decide) (by decide)
  have run := readIhex_stacks (ε := Exit) file
  rw [if_pos (by decide), value] at run
  obtain ⟨t, ⟨⟩, rest⟩ := run
  have lengths : stacked 0 (segments 0 (descending.takeWhile isLow)) = top (cells (segments 0 descending)) :=
    rest.length.symm.trans holds.length
  revert lengths
  decide

end Images

end H9d.H9fwupload
