import H9d.Core.BigEndian
import H9d.Model.H9sniffer

/-! # Bit fields that the sniffer prints

The loop that gathers the value takes as many bytes as the description needs, from the first value byte
on, into 32 bits. It is the number of all value bytes as long as the frame has no more of them than
that. Where the value begins is read from the flags, which a broadcast frame does not carry.
-/

namespace H9d

namespace H9Frame

/-- Where the value begins: after the register, and in a unicast message of several frames after its
count. -/
def valueOffset (f : H9Frame) : ℕ := if f.isUnicast = true ∧ f.flags ≠ SINGE_FRAME then 2 else 1

/-- The value bytes that the frame carries. -/
def sniffedBytes (f : H9Frame) : List Byte := ((List.ofFn f.data).take f.dlc.toNat).drop f.valueOffset

/-- `count` data bytes from `start` on. -/
def bytesFrom (f : H9Frame) (start count : ℕ) : List Byte := ((List.ofFn f.data).drop start).take count

theorem sniffedBytes_eq (f : H9Frame) :
    f.sniffedBytes = f.bytesFrom f.valueOffset (f.dlc.toNat - f.valueOffset) := by
  rw [sniffedBytes, bytesFrom, List.drop_take]

theorem length_sniffedBytes (f : H9Frame) : f.sniffedBytes.length = min f.dlc.toNat 8 - f.valueOffset := by
  simp [sniffedBytes]

theorem length_bytesFrom (f : H9Frame) {start count : ℕ} (within : start + count ≤ 8) :
    (f.bytesFrom start count).length = count := by
  simp only [bytesFrom, List.length_take, List.length_drop, List.length_ofFn]
  omega

/-- The frame with 1 in the data byte at `place` and 0 in the others, for the same register. -/
def marked (f : H9Frame) (place : ℕ) : Fin 8 → Byte := fun i =>
  if i = 0 then f.data 0 else if i.val = place then 1 else 0

end H9Frame

namespace H9sniffer

open H9Frame

/-- `lines` show one value for each of the bits, that of `n`. -/
def ShowsBits (lines : List Line) (size n : ℕ) : Prop :=
  ∀ i < size, ∀ b, (∃ name, Line.bit i name b ∈ lines) ↔ b = n.testBit i

theorem not_showsBits_nil {size n : ℕ} (positive : 0 < size) : ¬ShowsBits [] size n := by
  intro shows
  obtain ⟨_, shown⟩ := (shows 0 positive (n.testBit 0)).mpr rfl
  exact List.not_mem_nil shown

/-- What is shown determines the bits. -/
theorem ShowsBits.testBit_eq {lines : List Line} {size m n i : ℕ} (first : ShowsBits lines size m)
    (second : ShowsBits lines size n) (below : i < size) : m.testBit i = n.testBit i := by
  apply (second i below _).mp
  exact (first i below _).mpr rfl

/-- The reader gives the bytes that the frame carried. -/
def Faithful (d : Reader) (f : H9Frame) : Prop :=
  ∀ i (bound : i < 8), i < f.dlc.toNat → d i = .ok (f.data ⟨i, bound⟩)

theorem faithful_dataReader (f : H9Frame) : Faithful f.dataReader f := by
  intro i bound _
  exact dif_pos bound

theorem faithful_carriedReader (f : H9Frame) : Faithful f.carriedReader f := by
  intro i bound sent
  rw [carriedReader, if_pos sent]
  exact dif_pos bound

section Accumulate

variable {d : Reader} {f : H9Frame}

theorem accumulate_eq (start : ℕ) (bytes : List Byte)
    (reads : ∀ i (bound : i < bytes.length), d (start + i) = .ok bytes[i]) :
    accumulate d start bytes.length = .ok (BitVec.ofNat 32 (Bytes.value bytes)) := by
  induction bytes using List.reverseRecOn with
  | nil => rfl
  | append_singleton bytes b ih =>
    have last : d (start + bytes.length) = .ok b := by
      rw [reads bytes.length (by simp)]
      simp
    have before : accumulate d start bytes.length = .ok (BitVec.ofNat 32 (Bytes.value bytes)) := by
      apply ih
      intro i bound
      rw [reads i (by rw [List.length_append]; omega), List.getElem_append_left bound]
    rw [accumulate] at before
    rw [accumulate, List.length_append, List.length_singleton, List.range_succ, List.foldlM_append, before,
      Bytes.value_concat, ← Bytes.shiftLeft_or_setWidth]
    simp [last, bind, Except.bind, pure, Except.pure]

theorem accumulate_bytesFrom (faithful : Faithful d f) (start count : ℕ) (within : start + count ≤ 8)
    (sent : start + count ≤ f.dlc.toNat) :
    accumulate d start count = .ok (BitVec.ofNat 32 (Bytes.value (f.bytesFrom start count))) := by
  have length := f.length_bytesFrom within
  have read : accumulate d start (f.bytesFrom start count).length =
      .ok (BitVec.ofNat 32 (Bytes.value (f.bytesFrom start count))) := by
    apply accumulate_eq
    intro i bound
    rw [faithful (start + i) (by omega) (by omega)]
    simp only [bytesFrom, List.getElem_take, List.getElem_drop, List.getElem_ofFn]
  rwa [length] at read

end Accumulate

section BitLines

variable {d : Reader} {desc : RegisterDesc}

theorem mapM_bitLine {bval : BitVec 32} {indexes : List ℕ} (below : ∀ i ∈ indexes, i < 32) :
    indexes.mapM (bitLine desc bval) =
      .ok (indexes.map fun i => .bit i desc.bitsNames[i]? (bval.getLsbD i)) := by
  induction indexes with
  | nil => rfl
  | cons i indexes ih =>
    have head : bitLine desc bval i = .ok (.bit i desc.bitsNames[i]? (bval.getLsbD i)) :=
      if_pos (below i List.mem_cons_self)
    rw [List.mapM_cons, head, ih fun j listed => below j (List.mem_cons_of_mem i listed)]
    rfl

theorem bitLines_eq (small : desc.size ≤ 32) {start dataLen n : ℕ}
    (read : accumulate d start (min ((desc.size + 7) / 8) dataLen) = .ok (BitVec.ofNat 32 n)) :
    bitLines d start dataLen desc =
      .ok ((List.range desc.size).reverse.map fun i => .bit i desc.bitsNames[i]? (n.testBit i)) := by
  have below : ∀ i ∈ (List.range desc.size).reverse, i < 32 := by
    intro i listed
    rw [List.mem_reverse, List.mem_range] at listed
    omega
  rw [bitLines, read]
  change List.mapM _ _ = _
  rw [mapM_bitLine below]
  apply congrArg
  apply List.map_congr_left
  intro i listed
  rw [BitVec.getLsbD_ofNat, decide_eq_true (below i listed), Bool.true_and]

/-- The highest bit of a larger field is read first, with a shift that the 32 bits do not have. -/
theorem bitLines_shift (large : 32 < desc.size) (start dataLen : ℕ) (lines : List Line) :
    bitLines d start dataLen desc ≠ .ok lines := by
  obtain ⟨top, size⟩ : ∃ top, desc.size = top + 1 := ⟨desc.size - 1, by omega⟩
  have shift (bval : BitVec 32) : bitLine desc bval top = .error .shift := if_neg (by omega)
  rw [bitLines]
  cases accumulate d start (min ((desc.size + 7) / 8) dataLen) with
  | error e => exact nofun
  | ok bval =>
    change List.mapM _ _ ≠ _
    rw [size, List.range_succ, List.reverse_append, List.reverse_singleton, List.singleton_append,
      List.mapM_cons, shift]
    exact nofun

theorem showsBits_map {before : List Line} {size n : ℕ} (names : ℕ → Option String)
    (unshown : ∀ i name b, Line.bit i name b ∉ before) :
    ShowsBits (before ++ (List.range size).reverse.map fun i => .bit i (names i) (n.testBit i)) size n := by
  intro i below b
  constructor
  · rintro ⟨name, shown⟩
    rcases List.mem_append.mp shown with earlier | bits
    · exact absurd earlier (unshown i name b)
    · obtain ⟨j, _, same⟩ := List.mem_map.mp bits
      injection same with index _ value
      rw [← value, index]
  · rintro rfl
    refine ⟨names i, List.mem_append_right _ (List.mem_map.mpr ⟨i, ?_, rfl⟩)⟩
    rw [List.mem_reverse, List.mem_range]
    exact below

end BitLines

theorem multiFrameOffset_le (f : H9Frame) : multiFrameOffset f ≤ 1 := by
  rw [multiFrameOffset]
  split <;> omega

section Printed

variable {FIRST LAST : Byte} {d : Reader} {f : H9Frame} {desc : RegisterDesc}

/-- The lines above the value, which show no bit. -/
theorem frameLines_eq (FIRST LAST : Byte) (sent : 2 ≤ f.dlc.toNat) :
    ∃ lines, (∀ d, Faithful d f → frameLines FIRST LAST d f = .ok lines) ∧
      ∀ i name b, Line.bit i name b ∉ lines := by
  have count {d : Reader} (faithful : Faithful d f) : d 1 = .ok (f.data 1) := faithful 1 (by omega) (by omega)
  by_cases multi : f.isUnicast = true ∧ f.flags ≠ SINGE_FRAME
  · by_cases first : f.flags = FIRST
    · refine ⟨[.totalFrame (f.data 1), .frameOffset 0], ?_, by simp⟩
      intro d faithful
      rw [frameLines, if_pos multi, if_pos first, count faithful]
      rfl
    · by_cases last : f.flags = LAST
      · refine ⟨[.frameOffsetLast (f.data 1)], ?_, by simp⟩
        intro d faithful
        rw [frameLines, if_pos multi, if_neg first, if_pos last, count faithful]
        rfl
      · refine ⟨[.frameOffset (f.data 1)], ?_, by simp⟩
        intro d faithful
        rw [frameLines, if_pos multi, if_neg first, if_neg last, count faithful]
        rfl
  · refine ⟨[], ?_, by simp⟩
    intro d _
    rw [frameLines, if_neg multi]
    rfl

theorem printRegValueFrom_short (short : f.dlc.toNat ≤ 1 + multiFrameOffset f) (regDesc : Option RegisterDesc) :
    printRegValueFrom FIRST LAST d f regDesc = .ok [] := by
  rw [printRegValueFrom, if_pos short]
  rfl

theorem printRegValueFrom_long (long : 1 + multiFrameOffset f < f.dlc.toNat)
    (bool : desc.type = "bool") (several : 1 < desc.size) :
    printRegValueFrom FIRST LAST d f (some desc) = do
      let lines ← frameLines FIRST LAST d f
      return lines ++ (← bitLines d (1 + multiFrameOffset f) (f.dlc.toNat - 1 - multiFrameOffset f) desc) := by
  rw [printRegValueFrom, if_neg (Nat.not_le.mpr long)]
  simp only [if_pos (And.intro bool several)]

/-- The bits shown are those of the first value bytes, as many as the description needs, and nothing is
read that the frame did not carry. -/
theorem printRegValueFrom_shows (long : 1 + multiFrameOffset f < f.dlc.toNat)
    (bool : desc.type = "bool") (several : 1 < desc.size) (small : desc.size ≤ 32) :
    ∃ lines, (∀ d, Faithful d f → printRegValueFrom FIRST LAST d f (some desc) = .ok lines) ∧
      ShowsBits lines desc.size (Bytes.value (f.bytesFrom (1 + multiFrameOffset f)
        (min ((desc.size + 7) / 8) (f.dlc.toNat - 1 - multiFrameOffset f)))) := by
  have offset := multiFrameOffset_le f
  obtain ⟨before, printed, unshown⟩ := @frameLines_eq f FIRST LAST (by omega)
  refine ⟨_, ?_, showsBits_map (fun i => desc.bitsNames[i]?) unshown⟩
  intro d faithful
  have read := accumulate_bytesFrom faithful (1 + multiFrameOffset f)
    (min ((desc.size + 7) / 8) (f.dlc.toNat - 1 - multiFrameOffset f)) (by omega) (by omega)
  rw [printRegValueFrom_long long bool several, printed d faithful, bitLines_eq small read]
  rfl

theorem printRegValueFrom_large (long : 1 + multiFrameOffset f < f.dlc.toNat)
    (bool : desc.type = "bool") (large : 32 < desc.size) (lines : List Line) :
    printRegValueFrom FIRST LAST d f (some desc) ≠ .ok lines := by
  rw [printRegValueFrom_long long bool (by omega)]
  cases frameLines FIRST LAST d f with
  | error e => exact nofun
  | ok before =>
    intro shown
    cases bits : bitLines d (1 + multiFrameOffset f) (f.dlc.toNat - 1 - multiFrameOffset f) desc with
    | error e =>
      rw [bits] at shown
      exact nomatch shown
    | ok bits' => exact bitLines_shift large _ _ _ bits

end Printed

section Right

variable (FIRST LAST : Byte) (f : H9Frame) (desc : RegisterDesc)

structure Right : Prop where
  /-- Every bit below the size is that of the number of the value bytes, and no shift is undefined. -/
  shown : ∃ lines, printRegValue FIRST LAST f (some desc) = .ok lines ∧
    ShowsBits lines desc.size (Bytes.value f.sniffedBytes)
  /-- Nothing is read from the frame's length on. -/
  carried : printRegValueFrom FIRST LAST f.carriedReader f (some desc) =
    printRegValue FIRST LAST f (some desc)
  /-- The flags of a broadcast frame have no effect. -/
  flagless : f.isUnicast = false → ∀ flags,
    printRegValue FIRST LAST { f with flags } (some desc) = printRegValue FIRST LAST f (some desc)

variable {FIRST LAST f desc}

theorem valueOffset_unicast (unicast : f.isUnicast = true) : f.valueOffset = 1 + multiFrameOffset f := by
  by_cases single : f.flags = SINGE_FRAME
  · simp [valueOffset, multiFrameOffset, single]
  · simp [valueOffset, multiFrameOffset, single, unicast]

theorem Right.of_bounds (unicast : f.isUnicast = true) (bool : desc.type = "bool") (several : 1 < desc.size)
    (small : desc.size ≤ 32) (nonempty : 1 ≤ f.sniffedBytes.length)
    (needed : f.sniffedBytes.length ≤ (desc.size + 7) / 8) : Right FIRST LAST f desc := by
  rw [length_sniffedBytes] at nonempty needed
  have offset := valueOffset_unicast unicast
  have bytes : f.sniffedBytes = f.bytesFrom (1 + multiFrameOffset f)
      (min ((desc.size + 7) / 8) (f.dlc.toNat - 1 - multiFrameOffset f)) := by
    have small_offset := multiFrameOffset_le f
    rw [sniffedBytes_eq, offset]
    congr 1
    omega
  obtain ⟨lines, printed, shows⟩ := @printRegValueFrom_shows FIRST LAST f desc (by omega) bool several small
  rw [← bytes] at shows
  have whole := printed _ (faithful_dataReader f)
  constructor
  · exact ⟨lines, whole, shows⟩
  · exact (printed _ (faithful_carriedReader f)).trans whole.symm
  · intro broadcast
    rw [unicast] at broadcast
    exact nomatch broadcast

theorem Right.long (right : Right FIRST LAST f desc) (positive : 0 < desc.size) :
    1 + multiFrameOffset f < f.dlc.toNat := by
  obtain ⟨lines, printed, shows⟩ := right.shown
  by_contra short
  rw [printRegValue, printRegValueFrom_short (Nat.not_lt.mp short)] at printed
  cases printed
  exact not_showsBits_nil positive shows

theorem Right.small (right : Right FIRST LAST f desc) (bool : desc.type = "bool") (positive : 0 < desc.size) :
    desc.size ≤ 32 := by
  obtain ⟨lines, printed, _⟩ := right.shown
  by_contra large
  exact printRegValueFrom_large (right.long positive) bool (Nat.not_le.mp large) lines printed

end Right

section Marked

theorem value_one_zeros (m k : ℕ) : Bytes.value ((1 :: List.replicate k 0).take (m + 1)) = 2 ^ (8 * min m k) := by
  rw [List.take_succ_cons, List.take_replicate, Bytes.value_cons, Bytes.value_replicate_zero,
    List.length_replicate, pow_mul]
  exact Nat.one_mul _

/-- The marked byte is the first of those taken, so it is their highest digit. -/
theorem value_marked (f : H9Frame) {place count : ℕ} (first : place = 1 ∨ place = 2) (positive : 1 ≤ count)
    (within : place + count ≤ 8) :
    Bytes.value ({ f with data := f.marked place }.bytesFrom place count) = 2 ^ (8 * (count - 1)) := by
  obtain ⟨m, rfl⟩ : ∃ m, count = m + 1 := ⟨count - 1, by omega⟩
  obtain ⟨k, zeros, enough⟩ : ∃ k, (List.ofFn (f.marked place)).drop place = 1 :: List.replicate k 0 ∧
      m ≤ k := by
    rcases first with rfl | rfl
    · exact ⟨6, by simp [marked, List.replicate], by omega⟩
    · exact ⟨5, by simp [marked, List.replicate], by omega⟩
  rw [bytesFrom, zeros, value_one_zeros, Nat.min_eq_left enough]
  rfl

theorem value_past_mark (f : H9Frame) (count : ℕ) :
    Bytes.value ({ f with data := f.marked 1 }.bytesFrom 2 count) = 0 := by
  have zeros : (List.ofFn (f.marked 1)).drop 2 = List.replicate 6 0 := by simp [marked, List.replicate]
  rw [bytesFrom, zeros, List.take_replicate, Bytes.value_replicate_zero]

theorem sniffedBytes_take (f : H9Frame) :
    f.sniffedBytes = f.bytesFrom f.valueOffset f.sniffedBytes.length := by
  rw [length_sniffedBytes, sniffedBytes_eq, bytesFrom, bytesFrom, List.take_eq_take_iff, List.length_drop,
    List.length_ofFn]
  omega

variable {FIRST LAST : Byte} {f : H9Frame} {desc : RegisterDesc}

/-- With the first value byte marked, the printed number and that of the flag's other reading differ. -/
theorem Right.unicast (right : Right FIRST LAST { f with data := f.marked 1 } desc)
    (bool : desc.type = "bool") (several : 1 < desc.size) : f.isUnicast = true := by
  by_contra broadcast
  rw [Bool.not_eq_true] at broadcast
  have small := right.small bool (by omega)
  obtain ⟨lines, printed, shows⟩ := right.shown
  have single := (right.flagless broadcast 0).trans printed
  have multi := (right.flagless broadcast 1).trans printed
  have long : 1 + 1 < f.dlc.toNat := by
    by_contra short
    have nothing := @printRegValueFrom_short FIRST LAST
      ({ f with data := f.marked 1, flags := 1 } : H9Frame).dataReader { f with data := f.marked 1, flags := 1 }
      (Nat.not_lt.mp short) (some desc)
    rw [printRegValue, nothing] at multi
    cases multi
    exact not_showsBits_nil (by omega) shows
  obtain ⟨lines₀, printed₀, shows₀⟩ := @printRegValueFrom_shows FIRST LAST
    { f with data := f.marked 1, flags := 0 } desc (by change 1 + 0 < f.dlc.toNat; omega) bool several small
  obtain ⟨lines₁, printed₁, shows₁⟩ := @printRegValueFrom_shows FIRST LAST
    { f with data := f.marked 1, flags := 1 } desc long bool several small
  have same₀ := (printed₀ _ (faithful_dataReader _)).symm.trans single
  have same₁ := (printed₁ _ (faithful_dataReader _)).symm.trans multi
  cases same₀
  cases same₁
  let count := min ((desc.size + 7) / 8) (f.dlc.toNat - 1)
  have high := value_marked { f with flags := 0 } (.inl rfl) (show 1 ≤ count by omega) (by omega)
  have low := value_past_mark { f with flags := 1 } (min ((desc.size + 7) / 8) (f.dlc.toNat - 1 - 1))
  have bit := shows₀.testBit_eq shows₁ (show 8 * (count - 1) < desc.size by omega)
  have differ : (2 ^ (8 * (count - 1))).testBit (8 * (count - 1)) = Nat.testBit 0 (8 * (count - 1)) := by
    calc
      _ = _ := congrArg (Nat.testBit · (8 * (count - 1))) high.symm
      _ = _ := bit
      _ = _ := congrArg (Nat.testBit · (8 * (count - 1))) low
  rw [Nat.testBit_two_pow_self, Nat.zero_testBit] at differ
  exact nomatch differ

theorem Right.needed (unicast : f.isUnicast = true)
    (right : Right FIRST LAST { f with data := f.marked f.valueOffset } desc)
    (bool : desc.type = "bool") (several : 1 < desc.size) :
    f.sniffedBytes.length ≤ (desc.size + 7) / 8 := by
  by_contra more
  rw [Nat.not_le] at more
  have small := right.small bool (by omega)
  have long := right.long (by omega)
  change 1 + multiFrameOffset f < f.dlc.toNat at long
  have offset := valueOffset_unicast unicast
  have length := length_sniffedBytes f
  have bound := multiFrameOffset_le f
  have place : f.valueOffset = 1 ∨ f.valueOffset = 2 := by omega
  obtain ⟨lines, printed, shows⟩ := right.shown
  obtain ⟨lines', printed', shows'⟩ := @printRegValueFrom_shows FIRST LAST
    { f with data := f.marked f.valueOffset } desc long bool several small
  cases (printed' _ (faithful_dataReader _)).symm.trans printed
  let needed := (desc.size + 7) / 8
  have taken : min needed (f.dlc.toNat - 1 - multiFrameOffset f) = needed := by omega
  have whole : Bytes.value { f with data := f.marked f.valueOffset }.sniffedBytes =
      2 ^ (8 * (f.sniffedBytes.length - 1)) := by
    have count := (length_sniffedBytes { f with data := f.marked f.valueOffset }).trans length.symm
    rw [sniffedBytes_take, count]
    exact value_marked f place (by omega) (by omega)
  have first : Bytes.value ({ f with data := f.marked f.valueOffset }.bytesFrom (1 + multiFrameOffset f)
      (min needed (f.dlc.toNat - 1 - multiFrameOffset f))) = 2 ^ (8 * (needed - 1)) := by
    rw [taken, ← offset]
    exact value_marked f place (by omega) (by omega)
  have bit := shows.testBit_eq shows' (show 8 * (needed - 1) < desc.size by omega)
  have differ : (2 ^ (8 * (f.sniffedBytes.length - 1))).testBit (8 * (needed - 1)) =
      (2 ^ (8 * (needed - 1))).testBit (8 * (needed - 1)) := by
    calc
      _ = _ := congrArg (Nat.testBit · (8 * (needed - 1))) whole.symm
      _ = _ := bit
      _ = _ := congrArg (Nat.testBit · (8 * (needed - 1))) first
  rw [Nat.testBit_two_pow_self, Nat.testBit_two_pow, decide_eq_true_iff] at differ
  omega

/-- For all contents of the data bytes below the register: exactly a unicast value of at most 32 bits, of
which the frame has some byte and none that the description does not need. -/
theorem right_iff (FIRST LAST : Byte) (f : H9Frame) (desc : RegisterDesc)
    (isValue : f.type = FrameType.REG_VALUE ∨ f.type = FrameType.REG_VALUE_BROADCAST)
    (bool : desc.type = "bool") (sizes : 2 ≤ desc.size ∧ desc.size ≤ 48) :
    (∀ data : Fin 8 → Byte, data 0 = f.data 0 → Right FIRST LAST { f with data } desc) ↔
      f.type = FrameType.REG_VALUE ∧ desc.size ≤ 32 ∧
        1 ≤ f.sniffedBytes.length ∧ f.sniffedBytes.length ≤ (desc.size + 7) / 8 := by
  have several : 1 < desc.size := sizes.1
  constructor
  · intro right
    have unicast := (right (f.marked 1) rfl).unicast bool several
    have small := (right (f.marked 1) rfl).small bool (by omega)
    have long := (right (f.marked 1) rfl).long (by omega)
    change 1 + multiFrameOffset f < f.dlc.toNat at long
    refine ⟨?_, small, ?_, (right (f.marked f.valueOffset) rfl).needed unicast bool several⟩
    · rcases isValue with value | broadcast
      · exact value
      · rw [isUnicast, broadcast] at unicast
        exact absurd unicast (by decide)
    · have bound := multiFrameOffset_le f
      rw [length_sniffedBytes, valueOffset_unicast unicast]
      omega
  · rintro ⟨value, small, nonempty, needed⟩ data _
    have unicast : f.isUnicast = true := by
      rw [isUnicast, value]
      rfl
    have length : { f with data }.sniffedBytes.length = f.sniffedBytes.length := by
      rw [length_sniffedBytes, length_sniffedBytes]
      rfl
    have unicast' : { f with data }.isUnicast = true := unicast
    apply Right.of_bounds unicast' bool several small
    · rwa [length]
    · rwa [length]

end Marked

/-- A register of `size` bits without names. -/
def bitField (size : ℕ) : RegisterDesc := ⟨64, "outputs", "bool", size, true, true, [], ""⟩

/-- Node 16 reports six value bytes to node 0. -/
def sixBytes : H9Frame := ⟨"can0", 0, FrameType.REG_VALUE, 16, SINGE_FRAME, 0, 0, 0, 7, ![64, 0, 0, 0, 0, 0, 1, 0]⟩

/-- Node 16 broadcasts one value byte. -/
def oneByteBroadcast : H9Frame :=
  ⟨"can0", 0, FrameType.REG_VALUE_BROADCAST, 16, SINGE_FRAME, 0, 0, 0, 2, ![64, 1, 0, 0, 0, 0, 0, 0]⟩

/-- Node 16 reports two value bytes. -/
def twoBytes : H9Frame := ⟨"can0", 0, FrameType.REG_VALUE, 16, SINGE_FRAME, 0, 0, 0, 3, ![64, 2, 1, 0, 0, 0, 0, 0]⟩

theorem right_word : Right 1 3 twoBytes (bitField 16) := by
  have sizes : 2 ≤ (bitField 16).size ∧ (bitField 16).size ≤ 48 := by decide
  have nonempty : 1 ≤ twoBytes.sniffedBytes.length := by decide
  have needed : twoBytes.sniffedBytes.length ≤ ((bitField 16).size + 7) / 8 := by decide
  exact (right_iff 1 3 twoBytes (bitField 16) (.inl rfl) rfl sizes).mpr ⟨rfl, by decide, nonempty, needed⟩
    twoBytes.data rfl

/-- Bits above 31 are not shown, and a byte that a broadcast carried is shown only under some flags. -/
theorem not_right_wide_nor_broadcast :
    ¬Right 1 3 sixBytes (bitField 48) ∧ ¬Right 1 3 oneByteBroadcast (bitField 8) := by
  constructor
  · intro right
    exact absurd (right.small rfl (by decide)) (by decide)
  · intro right
    obtain ⟨lines, printed, shows⟩ := right.shown
    have multi := (right.flagless rfl 1).trans printed
    cases (printRegValueFrom_short (by decide) _).symm.trans multi
    exact not_showsBits_nil (by decide) shows

end H9sniffer

end H9d
