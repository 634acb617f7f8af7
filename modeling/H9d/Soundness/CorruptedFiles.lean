import H9d.Soundness.IntelHexImages

/-! # Lines that are no whole records

The reading of a file looks neither for the end of a line nor for the end of the block. It finds a record to be
corrupted by the checksum alone, and goes on behind the end where the byte count or the address says so. What it
finds is not looked at: the upload begins in any case.
-/

namespace H9d.H9fwupload

open H9Frame Cxx Machine FirmwareUploader Placement

variable {ε : Type} {line : List Byte} {s : Reading} {k : ℕ}

/-- What `hex2bin` makes of a line that goes on with zeros. -/
def byteAt (line : List Byte) (k : ℕ) : Byte :=
  if line.getD k 0 = 0 then 0
  else
    let val := (0 : Byte) <<< 4 ||| digit (line.getD k 0) &&& 0xf
    if line.getD (k + 1) 0 = 0 then val else val <<< 4 ||| digit (line.getD (k + 1) 0) &&& 0xf

section Bytes

theorem charAt_of_le (inside : k ≤ line.length) : (charAt line k : Outcome ε Byte) = .value (line.getD k 0) := by
  rw [charAt]
  rcases Nat.lt_or_eq_of_le inside with lower | rfl
  · rw [if_pos lower]
  · rw [if_neg (Nat.lt_irrefl _), if_pos rfl, List.getD_eq_getElem?_getD, List.getElem?_eq_none (Nat.le_refl _)]
    rfl

theorem hex2bin_of_le (inside : k ≤ line.length) : (hex2bin line k : Outcome ε Byte) = .value (byteAt line k) := by
  rw [hex2bin, charAt_of_le inside, Outcome.value_bind, byteAt]
  by_cases ends : line.getD k 0 = 0
  · rw [if_pos ends, if_pos ends]
    rfl
  · have further : k < line.length := by
      refine Nat.lt_of_le_of_ne inside ?_
      rintro rfl
      rw [List.getD_eq_getElem?_getD, List.getElem?_eq_none (Nat.le_refl _)] at ends
      exact ends rfl
    rw [if_neg ends, if_neg ends, charAt_of_le (Nat.succ_le_of_lt further)]
    dsimp only [Outcome.value_bind]
    split
    · rfl
    · rfl

theorem hex2bin_of_lt (outside : line.length < k) : (hex2bin line k : Outcome ε Byte) = .undefined := by
  rw [hex2bin, charAt, if_neg (Nat.lt_asymm outside), if_neg (Nat.ne_of_gt outside)]
  rfl

theorem hex2bin_cases (line : List Byte) (k : ℕ) :
    (hex2bin line k : Outcome ε Byte) = .undefined ∨ (hex2bin line k : Outcome ε Byte) = .value (byteAt line k) :=
  (Nat.lt_or_ge line.length k).imp hex2bin_of_lt hex2bin_of_le

end Bytes

section Fields

variable (line)

def byteCount : ℕ := (byteAt line 1).toNat
def recordType : Byte := byteAt line 7

/-- The bytes between the type and the checksum that are read. -/
def payload : ℕ := if recordType line = 0 then byteCount line else 2

/-- The types of which the checksum is looked at. -/
def Checked : Prop := recordType line = 0 ∨ recordType line = 4

instance : DecidablePred Checked := fun _ => inferInstanceAs (Decidable (_ ∨ _))

/-- The place of the last byte that is read. -/
def lastRead : ℕ := if Checked line then 9 + payload line * 2 else 7

def ChecksumFails : Prop :=
  0 - (byteAt line 1 + byteAt line 3 + byteAt line 5 + byteAt line 7 +
    ((List.range (payload line)).map fun k => byteAt line (9 + k * 2)).sum) ≠ byteAt line (9 + payload line * 2)

/-- Fewer characters than the byte count asks for, before the end of the line. -/
def Short : Prop := (line.takeWhile fun c => c != 0x0a && c != 0x0d).length < 11 + 2 * byteCount line

/-- Where the data of a record begin. -/
def advanced (s : Reading) : Reading :=
  let address := s.extendedAddress + ((byteAt line 3).setWidth 32 <<< 8) + (byteAt line 5).setWidth 32
  { s with dataLength := max s.dataLength address.toNat }

/-- Where the data of a record end. -/
def dataEnd (s : Reading) : ℕ := (advanced line s).dataLength + byteCount line

/-- A record that writes behind the block. -/
def Overruns (s : Reading) : Prop :=
  recordType line = 0 ∧ byteCount line ≠ 0 ∧ FW_DATA_LENGTH < dataEnd line s

instance : DecidablePred ChecksumFails := fun _ => inferInstanceAs (Decidable (_ ≠ _))
instance : DecidablePred Short := fun _ => inferInstanceAs (Decidable (_ < _))

end Fields

section Places

theorem payload_of_data (data : recordType line = 0) : payload line = byteCount line := by
  rw [payload, if_pos data]

theorem payload_of_extended (extended : recordType line = 4) : payload line = 2 := by
  rw [payload, extended]
  rfl

theorem lastRead_of_data (data : recordType line = 0) : lastRead line = 9 + byteCount line * 2 := by
  rw [lastRead, if_pos (.inl data), payload_of_data data]

theorem lastRead_of_extended (extended : recordType line = 4) : lastRead line = 13 := by
  rw [lastRead, if_pos (.inr extended), payload_of_extended extended]

theorem lastRead_of_other (other : ¬Checked line) : lastRead line = 7 := by
  rw [lastRead, if_neg other]

theorem seven_le_lastRead (line : List Byte) : 7 ≤ lastRead line := by
  rw [lastRead]
  split <;> omega

end Places

/-- What is expected of a record. -/
structure Guarded (s : Reading) (line : List Byte) : Prop where
  defined : (readLine s line : Outcome Exit Progress) ≠ .undefined
  reported : Short line ∨ Overruns line s → ∃ t, (readLine s line : Outcome Exit Progress) = .value (.corrupted t)

/-- The records that are treated as expected. -/
structure Whole (s : Reading) (line : List Byte) : Prop where
  inLine : lastRead line ≤ line.length
  inBlock : ¬Overruns line s
  complete : Short line → Checked line ∧ ChecksumFails line

section Data

theorem readData_full (room : FW_DATA_LENGTH ≤ s.dataLength) (crc : Byte) (n left : ℕ) :
    (readData line s crc n (left + 1) : Outcome ε (Reading × Byte)) = .undefined := by
  rw [readData]
  rcases hex2bin_cases (ε := ε) line (9 + n * 2) with outside | value
  · rw [outside]
    rfl
  · rw [value, Outcome.value_bind, dif_neg (Nat.not_lt_of_le room)]

theorem readData_ne_throws (e : ε) (crc : Byte) (n left : ℕ) :
    (readData line s crc n left : Outcome ε (Reading × Byte)) ≠ .throws e := by
  induction left generalizing s crc n with
  | zero => rintro ⟨⟩
  | succ left ih =>
    rw [readData]
    rcases hex2bin_cases (ε := ε) line (9 + n * 2) with outside | value
    · rw [outside]
      rintro ⟨⟩
    · rw [value, Outcome.value_bind]
      split
      · exact ih _ _
      · rintro ⟨⟩

/-- The loop over the bytes of a record whose bytes are all in the line. -/
theorem readData_of_le {size : ℕ} (inLine : 9 + size * 2 ≤ line.length) (crc : Byte) :
    (readData line s crc 0 size : Outcome ε (Reading × Byte)) =
      if size ≠ 0 ∧ FW_DATA_LENGTH < s.dataLength + size then .undefined
      else .value (s.written 0 ((List.range size).map fun k => byteAt line (9 + k * 2)),
        crc + ((List.range size).map fun k => byteAt line (9 + k * 2)).sum) := by
  have length : ((List.range size).map fun k => byteAt line (9 + k * 2)).length = size := by
    rw [List.length_map, List.length_range]
  have reads : ∀ k b, ((List.range size).map fun k => byteAt line (9 + k * 2))[k]? = some b →
      (hex2bin line (9 + (0 + k) * 2) : Outcome ε Byte) = .value b := by
    intro k b byte
    obtain ⟨inside, rfl⟩ := List.getElem?_eq_some_iff.mp byte
    rw [length] at inside
    rw [List.getElem_map, List.getElem_range, Nat.zero_add]
    exact hex2bin_of_le (by omega)
  by_cases bounded : s.dataLength ≤ FW_DATA_LENGTH
  · have run := readData_eq reads s 0 crc bounded
    rw [length] at run
    rw [run]
    by_cases fits : s.dataLength + size ≤ FW_DATA_LENGTH
    · rw [if_pos fits, if_neg fun overrun => Nat.not_lt_of_le fits overrun.2]
    · rw [if_neg fits, if_pos ⟨by omega, Nat.lt_of_not_le fits⟩]
  · have beyond := Nat.lt_of_not_le bounded
    cases size with
    | zero =>
      rw [if_neg fun overrun => overrun.1 rfl, readData, List.range_zero, List.map_nil, List.sum_nil, add_zero]
      rfl
    | succ left =>
      rw [readData_full (Nat.le_of_lt beyond),
        if_pos ⟨Nat.succ_ne_zero left, Nat.lt_of_lt_of_le beyond (Nat.le_add_right _ _)⟩]

end Data

section Records

variable (start : line.head? = some 0x3a)
include start

/-- The first four bytes, where the line is long enough for them. -/
theorem readLine_eq (long : 7 ≤ line.length) : (readLine s line : Outcome ε Progress) =
    if recordType line = 0 then do
      let (t, crc) ← readData line (advanced line s)
        (byteAt line 1 + byteAt line 3 + byteAt line 5 + byteAt line 7) 0 (byteCount line)
      let sum ← hex2bin line (9 + byteCount line * 2)
      if 0 - crc ≠ sum then return .corrupted { t with dataLength := 0 }
      else return .goesOn t
    else if recordType line = 4 then do
      let upper ← hex2bin line 9
      let lower ← hex2bin line 11
      let t := { s with extendedAddress := (upper.setWidth 32 <<< 8 + lower.setWidth 32) <<< 16 }
      let sum ← hex2bin line 13
      if 0 - (byteAt line 1 + byteAt line 3 + byteAt line 5 + byteAt line 7 + upper + lower) ≠ sum then
        return .corrupted { t with dataLength := 0 }
      else if 1#32 <<< 16 < t.extendedAddress then return .stops t
      else return .goesOn t
    else .value (.goesOn s) := by
  rw [readLine, start, if_neg (not_not_intro rfl), hex2bin_of_le (by omega), Outcome.value_bind,
    hex2bin_of_le (by omega), Outcome.value_bind, hex2bin_of_le (by omega), Outcome.value_bind,
    hex2bin_of_le long, Outcome.value_bind]
  simp only [dataLength_eq_max]
  rfl

theorem readLine_of_outside (outside : line.length < lastRead line) :
    (readLine s line : Outcome ε Progress) = .undefined := by
  by_cases long : 7 ≤ line.length
  · rw [readLine_eq start long]
    by_cases data : recordType line = 0
    · rw [lastRead_of_data data] at outside
      rw [if_pos data]
      generalize ran : (readData line _ _ 0 (byteCount line) : Outcome ε (Reading × Byte)) = result
      cases result with
      | value a =>
        rw [Outcome.value_bind, hex2bin_of_lt outside]
        rfl
      | throws e => exact absurd ran (readData_ne_throws e _ _ _)
      | undefined => rfl
    · by_cases extended : recordType line = 4
      · rw [lastRead_of_extended extended] at outside
        rw [if_neg data, if_pos extended]
        dsimp only
        rcases hex2bin_cases (ε := ε) line 9 with first | first <;> rw [first]
        · rfl
        rcases hex2bin_cases (ε := ε) line 11 with second | second <;> rw [second, Outcome.value_bind]
        · rfl
        rw [hex2bin_of_lt outside]
        rfl
      · rw [lastRead_of_other (not_or.mpr ⟨data, extended⟩)] at outside
        exact absurd long (Nat.not_le_of_lt outside)
  · rw [readLine, start, if_neg (not_not_intro rfl)]
    rcases hex2bin_cases (ε := ε) line 1 with first | first <;> rw [first]
    · rfl
    rcases hex2bin_cases (ε := ε) line 3 with second | second <;> rw [second, Outcome.value_bind]
    · rfl
    rcases hex2bin_cases (ε := ε) line 5 with third | third <;> rw [third, Outcome.value_bind]
    · rfl
    rw [hex2bin_of_lt (Nat.lt_of_not_le long)]
    rfl

theorem readLine_of_overruns (inLine : lastRead line ≤ line.length) (overrun : Overruns line s) :
    (readLine s line : Outcome ε Progress) = .undefined := by
  obtain ⟨data, some, beyond⟩ := overrun
  rw [readLine_eq start ((seven_le_lastRead line).trans inLine), if_pos data]
  rw [lastRead_of_data data] at inLine
  rw [dataEnd] at beyond
  rw [readData_of_le inLine, if_pos ⟨some, beyond⟩]
  rfl

/-- A data record whose characters are all there, and whose data fit. -/
theorem readLine_of_data (inLine : lastRead line ≤ line.length) (fits : ¬Overruns line s)
    (data : recordType line = 0) : ∃ t, (readLine s line : Outcome ε Progress) =
      if ChecksumFails line then .value (.corrupted { t with dataLength := 0 }) else .value (.goesOn t) := by
  have within : ¬(byteCount line ≠ 0 ∧ FW_DATA_LENGTH < dataEnd line s) := fun overrun => fits ⟨data, overrun⟩
  rw [readLine_eq start ((seven_le_lastRead line).trans inLine), if_pos data]
  rw [lastRead_of_data data] at inLine
  rw [dataEnd] at within
  rw [readData_of_le inLine, if_neg within]
  dsimp only [Outcome.value_bind]
  rw [hex2bin_of_le inLine]
  simp only [ChecksumFails, payload_of_data data]
  exact ⟨_, rfl⟩

theorem readLine_of_extended (inLine : lastRead line ≤ line.length) (extended : recordType line = 4) :
    ∃ t, (readLine s line : Outcome ε Progress) =
      if ChecksumFails line then .value (.corrupted { t with dataLength := 0 })
      else if 1#32 <<< 16 < t.extendedAddress then .value (.stops t) else .value (.goesOn t) := by
  have noData : ¬recordType line = 0 := by
    rw [extended]
    decide
  have sum : ((List.range 2).map fun k => byteAt line (9 + k * 2)).sum = byteAt line 9 + (byteAt line 11 + 0) := rfl
  have fails : ChecksumFails line ↔ 0 - (byteAt line 1 + byteAt line 3 + byteAt line 5 + byteAt line 7 +
      byteAt line 9 + byteAt line 11) ≠ byteAt line 13 := by
    rw [ChecksumFails, payload_of_extended extended, sum, add_zero, ← BitVec.add_assoc]
  rw [readLine_eq start ((seven_le_lastRead line).trans inLine), if_neg noData, if_pos extended]
  rw [lastRead_of_extended extended] at inLine
  rw [hex2bin_of_le (by omega), Outcome.value_bind, hex2bin_of_le (by omega), Outcome.value_bind,
    hex2bin_of_le inLine, Outcome.value_bind]
  simp only [fails]
  refine ⟨{ s with extendedAddress :=
    ((byteAt line 9).setWidth 32 <<< 8 + (byteAt line 11).setWidth 32) <<< 16 }, ?_⟩
  dsimp only [Outcome.pure_eq]

omit start in
theorem corrupted_iff_of_checked (checked : Checked line) {u : Reading} {p : Progress} (other : ∀ t, p ≠ .corrupted t)
    (run : (readLine s line : Outcome ε Progress) =
      if ChecksumFails line then .value (.corrupted u) else .value p) :
    ∃ p, (readLine s line : Outcome ε Progress) = .value p ∧
      ((∃ t, p = .corrupted t) ↔ Checked line ∧ ChecksumFails line) := by
  rw [run]
  split
  · next fails => exact ⟨_, rfl, iff_of_true ⟨_, rfl⟩ ⟨checked, fails⟩⟩
  · next holds => exact ⟨_, rfl, iff_of_false (fun ⟨t, same⟩ => other t same) fun both => holds both.2⟩

/-- What is said of a record whose characters are all there, and whose data fit. -/
theorem readLine_corrupted_iff (inLine : lastRead line ≤ line.length) (fits : ¬Overruns line s) :
    ∃ p, (readLine s line : Outcome ε Progress) = .value p ∧
      ((∃ t, p = .corrupted t) ↔ Checked line ∧ ChecksumFails line) := by
  by_cases data : recordType line = 0
  · obtain ⟨t, run⟩ := readLine_of_data (ε := ε) start inLine fits data
    exact corrupted_iff_of_checked (.inl data) (by rintro _ ⟨⟩) run
  · by_cases extended : recordType line = 4
    · obtain ⟨t, run⟩ := readLine_of_extended (ε := ε) (s := s) start inLine extended
      rw [← apply_ite Outcome.value] at run
      refine corrupted_iff_of_checked (.inr extended) (fun u same => ?_) run
      split at same <;> cases same
    · have other : ¬Checked line := not_or.mpr ⟨data, extended⟩
      rw [readLine_eq start ((seven_le_lastRead line).trans inLine), if_neg data, if_neg extended]
      exact ⟨_, rfl, iff_of_false (by rintro ⟨u, ⟨⟩⟩) fun both => other both.1⟩

/-- The records that are treated as expected are the whole ones. -/
theorem guarded_iff : Guarded s line ↔ Whole s line := by
  constructor
  · intro guarded
    have inLine : lastRead line ≤ line.length :=
      Nat.le_of_not_lt fun outside => guarded.defined (readLine_of_outside start outside)
    have inBlock : ¬Overruns line s := fun overrun => guarded.defined (readLine_of_overruns start inLine overrun)
    refine ⟨inLine, inBlock, fun short => ?_⟩
    obtain ⟨p, run, corrupted⟩ := readLine_corrupted_iff (ε := Exit) start inLine inBlock
    obtain ⟨t, reported⟩ := guarded.reported (.inl short)
    rw [run] at reported
    cases reported
    exact corrupted.mp ⟨t, rfl⟩
  · intro whole
    obtain ⟨p, run, corrupted⟩ := readLine_corrupted_iff (ε := Exit) start whole.inLine whole.inBlock
    refine ⟨by rw [run]; rintro ⟨⟩, fun wrong => ?_⟩
    rcases wrong with short | overrun
    · obtain ⟨t, rfl⟩ := corrupted.mpr (whole.complete short)
      exact ⟨t, run⟩
    · exact absurd overrun whole.inBlock

end Records

/-- The reading throws nothing. -/
theorem readLine_ne_throws (s : Reading) (line : List Byte) (e : ε) :
    (readLine s line : Outcome ε Progress) ≠ .throws e := by
  by_cases start : line.head? = some 0x3a
  · by_cases inLine : lastRead line ≤ line.length
    · by_cases overrun : Overruns line s
      · rw [readLine_of_overruns start inLine overrun]
        rintro ⟨⟩
      · obtain ⟨p, run, -⟩ := readLine_corrupted_iff (ε := ε) start inLine overrun
        rw [run]
        rintro ⟨⟩
    · rw [readLine_of_outside start (Nat.lt_of_not_le inLine)]
      rintro ⟨⟩
  · rw [readLine, if_pos start]
    rintro ⟨⟩

theorem readLines_ne_throws (s : Reading) (lines : List (List Byte)) (e : ε) :
    (readLines s lines : Outcome ε Progress) ≠ .throws e := by
  induction lines generalizing s with
  | nil => rintro ⟨⟩
  | cons line rest ih =>
    rw [readLines]
    cases ran : (readLine s line : Outcome ε Progress) with
    | value p =>
      cases p with
      | goesOn t => exact ih t
      | stops t => rintro ⟨⟩
      | corrupted t => rintro ⟨⟩
    | throws e => exact absurd ran (readLine_ne_throws s line e)
    | undefined => rintro ⟨⟩

section Files

/-- All records that are processed, with what was read before them. -/
def EachRecord (P : Reading → List Byte → Prop) : Reading → List (List Byte) → Prop
  | _, [] => True
  | s, line :: rest => (line.head? = some 0x3a → P s line) ∧
      ∀ t, (readLine s line : Outcome Exit Progress) = .value (.goesOn t) → EachRecord P t rest

theorem EachRecord.congr {P Q : Reading → List Byte → Prop}
    (each : ∀ {s line}, line.head? = some 0x3a → (P s line ↔ Q s line)) (s : Reading) (lines : List (List Byte)) :
    EachRecord P s lines ↔ EachRecord Q s lines := by
  induction lines generalizing s with
  | nil => exact Iff.rfl
  | cons line rest ih =>
    rw [EachRecord, EachRecord]
    exact and_congr (imp_congr_right each) (forall_congr' fun t => imp_congr_right fun _ => ih t)

theorem EachRecord.and {P Q : Reading → List Byte → Prop} (s : Reading) (lines : List (List Byte)) :
    EachRecord (fun s line => P s line ∧ Q s line) s lines ↔ EachRecord P s lines ∧ EachRecord Q s lines := by
  induction lines generalizing s with
  | nil => exact (and_self_iff).symm
  | cons line rest ih =>
    rw [EachRecord, EachRecord, EachRecord]
    constructor
    · rintro ⟨here, later⟩
      exact ⟨⟨fun head => (here head).1, fun t goes => ((ih t).mp (later t goes)).1⟩,
        fun head => (here head).2, fun t goes => ((ih t).mp (later t goes)).2⟩
    · rintro ⟨⟨first, firstLater⟩, second, secondLater⟩
      exact ⟨fun head => ⟨first head, second head⟩,
        fun t goes => (ih t).mpr ⟨firstLater t goes, secondLater t goes⟩⟩

/-- A file is read without harm if each of its records is. -/
theorem readLines_defined_iff (s : Reading) (lines : List (List Byte)) :
    (readLines s lines : Outcome Exit Progress) ≠ .undefined ↔
      EachRecord (fun s line => (readLine s line : Outcome Exit Progress) ≠ .undefined) s lines := by
  induction lines generalizing s with
  | nil => exact iff_of_true (by rintro ⟨⟩) trivial
  | cons line rest ih =>
    rw [EachRecord, readLines]
    by_cases head : line.head? = some 0x3a
    · generalize ran : (readLine s line : Outcome Exit Progress) = outcome
      cases outcome with
      | undefined => exact iff_of_false (not_not_intro rfl) fun both => both.1 head rfl
      | throws e => exact iff_of_true (by rintro ⟨⟩) ⟨fun _ => by rintro ⟨⟩, by rintro t ⟨⟩⟩
      | value p =>
        cases p with
        | goesOn t =>
          refine (ih t).trans ⟨fun later => ⟨fun _ => by rintro ⟨⟩, ?_⟩, fun both => both.2 t rfl⟩
          rintro u ⟨⟩
          exact later
        | stops t => exact iff_of_true (by rintro ⟨⟩) ⟨fun _ => by rintro ⟨⟩, by rintro u ⟨⟩⟩
        | corrupted t => exact iff_of_true (by rintro ⟨⟩) ⟨fun _ => by rintro ⟨⟩, by rintro u ⟨⟩⟩
    · have skipped : (readLine s line : Outcome Exit Progress) = .value (.goesOn s) := if_pos head
      rw [skipped]
      refine (ih s).trans ⟨fun later => ⟨fun record => absurd record head, ?_⟩, fun both => both.2 s rfl⟩
      rintro u ⟨⟩
      exact later

theorem readIhex_defined_iff (text : List Byte) : (readIhex text : Outcome Exit Reading) ≠ .undefined ↔
    (readLines Reading.start (getlines text) : Outcome Exit Progress) ≠ .undefined := by
  rw [readIhex]
  cases (readLines Reading.start (getlines text) : Outcome Exit Progress) with
  | value p => cases p <;> exact iff_of_true (by rintro ⟨⟩) (by rintro ⟨⟩)
  | throws e => exact iff_of_true (by rintro ⟨⟩) (by rintro ⟨⟩)
  | undefined => exact iff_of_false (not_not_intro rfl) (not_not_intro rfl)

theorem readIhex_ne_throws (text : List Byte) (e : ε) : (readIhex text : Outcome ε Reading) ≠ .throws e := by
  rw [readIhex]
  cases ran : (readLines Reading.start (getlines text) : Outcome ε Progress) with
  | value p => cases p <;> rintro ⟨⟩
  | throws e => exact absurd ran (readLines_ne_throws _ _ e)
  | undefined => rintro ⟨⟩

/-- The reading stays in the lines and in the block, and what would not is found to be corrupted. -/
structure Safe (text : List Byte) : Prop where
  defined : (readIhex text : Outcome Exit Reading) ≠ .undefined
  reported : EachRecord
    (fun s line => Short line ∨ Overruns line s →
      ∃ t, (readLine s line : Outcome Exit Progress) = .value (.corrupted t))
    Reading.start (getlines text)

/-- Nothing else keeps the reading in bounds than that the file does. -/
theorem safe_iff (text : List Byte) : Safe text ↔ EachRecord Whole Reading.start (getlines text) := by
  have guarded : Safe text ↔ EachRecord (fun s line =>
      (readLine s line : Outcome Exit Progress) ≠ .undefined ∧
        (Short line ∨ Overruns line s → ∃ t, (readLine s line : Outcome Exit Progress) = .value (.corrupted t)))
      Reading.start (getlines text) := by
    rw [EachRecord.and, ← readLines_defined_iff, ← readIhex_defined_iff]
    exact ⟨fun safe => ⟨safe.defined, safe.reported⟩, fun both => ⟨both.1, both.2⟩⟩
  rw [guarded]
  refine EachRecord.congr (fun start => ?_) _ _
  rw [← guarded_iff start]
  exact ⟨fun both => ⟨both.1, both.2⟩, fun record => ⟨record.defined, record.reported⟩⟩

/-- A line with only the colon in it. -/
theorem not_safe : ¬∀ text, Safe text := by
  intro all
  exact (all [0x3a, 0x0a]).defined rfl

end Files

section Uploads

variable (options : Options) (text : List Byte) (busOpens : Bool) (garbage : H9Frame)

/-- Some record that is processed fails its checksum. -/
def Corrupted : Prop := ∃ s, (readLines Reading.start (getlines text) : Outcome Exit Progress) = .value (.corrupted s)

/-- No record that is processed has data. -/
def Dataless : Prop := EachRecord (fun _ line => recordType line = 0 → byteCount line = 0) Reading.start (getlines text)

/-- The frames that change a node. -/
def IsUpload (f : H9Frame) : Prop :=
  f.type = FrameType.NODE_UPGRADE ∨ f.type = FrameType.PAGE_START ∨ f.type = FrameType.PAGE_FILL

/-- The program ends without harm, or goes on to an upload in which none of the frames is ever sent. -/
structure Refrains : Prop where
  defined : (main options (some text) busOpens garbage).Defined
  sends : ∀ u h, main options (some text) busOpens garbage = .value (u, h) →
    ∀ arrivals t, (uploading u).run? h arrivals = some t → ∀ f ∈ t.sent, ¬IsUpload f

theorem isUpload_firstFrame (dst : BitVec 16) (noupgrademsg : Bool) :
    IsUpload (firstFrame garbage dst noupgrademsg) := by
  cases noupgrademsg with
  | false => exact .inl rfl
  | true => exact .inr (.inl rfl)

theorem main_eq : main options (some text) busOpens garbage = (readIhex text : Outcome Exit Reading) >>= fun fw =>
    if busOpens then .value (⟨List.ofFn fw.fwData, fw.dataLength, options.dstId⟩,
      ⟨FirmwareUploader.start, [firstFrame garbage options.dstId options.noupgrademsg]⟩)
    else .throws .failure := rfl

/-- Whatever was read, the first frame is sent. -/
theorem not_refrains_of_opens : ¬Refrains options text true garbage := by
  rintro ⟨defined, sends⟩
  rw [main_eq] at defined sends
  cases read : (readIhex text : Outcome Exit Reading) with
  | value fw =>
    rw [read, Outcome.value_bind, if_pos rfl] at sends
    exact sends _ _ rfl [] _ rfl _ List.mem_cons_self (isUpload_firstFrame garbage _ _)
  | throws e => exact readIhex_ne_throws text e read
  | undefined =>
    rw [read] at defined
    exact defined

/-- Nothing but a bus that cannot be opened keeps the program from the upload. -/
theorem refrains_iff : Refrains options text busOpens garbage ↔
    busOpens = false ∧ (readIhex text : Outcome Exit Reading).Defined := by
  constructor
  · intro refrains
    cases busOpens with
    | true => exact absurd refrains (not_refrains_of_opens options text garbage)
    | false =>
      have defined := refrains.defined
      rw [main_eq] at defined
      exact ⟨rfl, (Outcome.only_bind.mp defined).1⟩
  · rintro ⟨rfl, defined⟩
    constructor
    · rw [main_eq]
      exact Outcome.only_bind.mpr ⟨defined, fun _ _ => trivial⟩
    · intro u h value
      rw [main_eq] at value
      obtain ⟨fw, -, ⟨⟩⟩ := Outcome.bind_eq_value.mp value

/-- The file `:00000000FF`, whose checksum should be 00, and a file without lines. -/
theorem not_refrains :
    (¬∀ options text garbage, Corrupted text → Refrains options text true garbage) ∧
      ¬∀ options text garbage, Dataless text → Refrains options text true garbage := by
  constructor
  · intro all
    refine not_refrains_of_opens ⟨1, false⟩ _ default (all ⟨1, false⟩
      [0x3a, 0x30, 0x30, 0x30, 0x30, 0x30, 0x30, 0x30, 0x30, 0x46, 0x46, 0x0a] default ?_)
    exact ⟨_, rfl⟩
  · intro all
    exact not_refrains_of_opens ⟨1, false⟩ [] default (all ⟨1, false⟩ [] default trivial)

end Uploads

end H9d.H9fwupload
