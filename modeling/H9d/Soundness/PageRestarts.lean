import H9d.Soundness.FirmwareUpload

/-! # Pages that start again

Nothing takes the index of the uploader back: a page that is announced again inside of it goes on where
it was left. Without such a restart, each page has its place in the firmware.
-/

namespace H9d.FirmwareUploader

open H9Frame Machine LabeledMachine

/-- The page number of a PAGE_START, and the bytes of the PAGE_FILL frames after it. -/
abbrev Filled : Type := BitVec 16 × List Byte

/-- The latest page is first. -/
def fill (pages : List Filled) (f : H9Frame) : List Filled :=
  if f.type = FrameType.PAGE_START then (f.data 0 ++ f.data 1, []) :: pages
  else if f.type = FrameType.PAGE_FILL then
    match pages with
    | (page, bytes) :: pages => (page, bytes ++ f.listed) :: pages
    | [] => []
  else pages

def filled (sent : List H9Frame) : List Filled := sent.foldl fill []

/-- Each page number has one place in the firmware, from which all pages of this number are filled. -/
def Aligned (firmware : List Byte) (sent : List H9Frame) : Prop :=
  ∃ offset : BitVec 16 → ℕ, ∀ page ∈ filled sent, page.2 <+: firmware.drop (offset page.1)

section Fill

variable (sent : List H9Frame) (garbage : H9Frame) (nodeId : BitVec 16)

theorem filled_append (f : H9Frame) : filled (sent ++ [f]) = fill (filled sent) f := by
  rw [filled, List.foldl_append]
  rfl

theorem filled_pageStart (page : BitVec 16) :
    filled (sent ++ [pageStart garbage nodeId page]) = (page, []) :: filled sent := by
  have byte (x : BitVec 16) : (x &&& 0xff#16).setWidth 8 = x.setWidth 8 := by
    change (x &&& (BitVec.allOnes 8).setWidth (8 + 8)).setWidth 8 = _
    rw [BitVec.and_setWidth_allOnes 8 8, BitVec.setWidth_append_eq_right]
  have halves : (page >>> 8 &&& 0xff#16).setWidth 8 ++ (page &&& 0xff#16).setWidth 8 = page := by
    apply BitVec.eq_of_getLsbD_eq
    intro i inside
    rw [byte, byte, BitVec.getLsbD_append]
    by_cases low : i < 8
    · simp [low]
    · have high : i - 8 < 8 := by omega
      simp [low, high, Nat.add_sub_of_le (Nat.le_of_not_lt low)]
  rw [filled_append]
  exact congrArg (fun page => (page, ([] : List Byte)) :: filled sent) halves

theorem filled_quitBootloader : filled (sent ++ [quitBootloader garbage nodeId]) = filled sent := by
  rw [filled_append]
  rfl

theorem filled_pageFill {data : List Byte} (eight : data.length = 8) :
    filled (sent ++ [pageFill garbage nodeId data]) =
      match filled sent with
      | (page, bytes) :: pages => (page, bytes ++ data) :: pages
      | [] => [] := by
  have listed := listed_pageFill garbage nodeId eight
  rw [filled_append]
  change (match filled sent with
    | (page, bytes) :: pages => (page, bytes ++ (pageFill garbage nodeId data).listed) :: pages
    | [] => []) = _
  rw [listed]

end Fill

/-- BOOTLOADER_TURNED_ON comes before the first block of the page that was announced last, or before any
page was announced; PAGE_WRITED does not take the page number round; and the node asks for no byte behind
the block. -/
def InOrder (u : FirmwareUploader) (s : History) (arrival : Arrival) : Prop :=
  arrival.frame.sourceId.setWidth 16 = u.nodeId →
    (arrival.frame.type = FrameType.BOOTLOADER_TURNED_ON → ∀ page ∈ (filled s.sent).head?, page.2 = []) ∧
    (arrival.frame.type = FrameType.PAGE_WRITED → 0 < u.fwSize ∧
      (s.uploader.fwIdx < u.fwSize → s.uploader.page ≠ 0xffff#16)) ∧
    (arrival.frame.type = FrameType.PAGE_FILL_NEXT → s.uploader.fwIdx + 8 ≤ u.firmware.length)

instance (u : FirmwareUploader) (s : History) (arrival : Arrival) : Decidable (InOrder u s arrival) :=
  inferInstanceAs (Decidable (_ → _ ∧ _ ∧ _))

/-- Where each page number has its place, and that the index of the uploader is behind the latest block. -/
structure Placed (u : FirmwareUploader) (offset : BitVec 16 → ℕ) (s : History) : Prop where
  defined : s.uploader.status ≠ .undefined
  aligned : ∀ page ∈ filled s.sent, page.2 <+: u.firmware.drop (offset page.1)
  announced : ∀ page ∈ filled s.sent, page.1 ≤ s.uploader.page
  latest : ∀ page ∈ (filled s.sent).head?,
    page.1 = s.uploader.page ∧ s.uploader.fwIdx = offset page.1 + page.2.length

section Steps

variable {u : FirmwareUploader} {offset : BitVec 16 → ℕ} {s t : History} {arrival : Arrival}

/-- A page that is announced takes its place where the uploader is. -/
theorem Placed.announce {garbage : H9Frame} {page : BitVec 16} (placed : Placed u offset s)
    (kept : ∀ old ∈ filled s.sent, Function.update offset page s.uploader.fwIdx old.1 = offset old.1)
    (later : s.uploader.page ≤ page) (defined : t.uploader.status ≠ .undefined)
    (fwIdx : t.uploader.fwIdx = s.uploader.fwIdx) (current : t.uploader.page = page)
    (sent : t.sent = s.sent ++ [pageStart garbage u.nodeId page]) :
    Placed u (Function.update offset page s.uploader.fwIdx) t where
  defined := defined
  aligned := by
    intro filledPage member
    rw [sent, filled_pageStart] at member
    rcases List.mem_cons.mp member with rfl | old
    · exact List.nil_prefix
    · rw [kept filledPage old]
      exact placed.aligned filledPage old
  announced := by
    intro filledPage member
    rw [sent, filled_pageStart] at member
    rw [current]
    rcases List.mem_cons.mp member with rfl | old
    · exact BitVec.le_refl page
    · exact BitVec.le_trans (placed.announced filledPage old) later
  latest := by
    intro filledPage member
    rw [sent, filled_pageStart] at member
    obtain rfl := Option.some.inj member
    exact ⟨current.symm, by rw [fwIdx, Function.update_self]; rfl⟩

/-- Blocks go on where the latest page is. -/
theorem Placed.fill {garbage : H9Frame} (placed : Placed u offset s)
    (inside : s.uploader.fwIdx + 8 ≤ u.firmware.length) (defined : t.uploader.status ≠ .undefined)
    (fwIdx : t.uploader.fwIdx = s.uploader.fwIdx + 8) (current : t.uploader.page = s.uploader.page)
    (sent : t.sent = s.sent ++ [pageFill garbage u.nodeId ((u.firmware.drop s.uploader.fwIdx).take 8)]) :
    Placed u offset t := by
  have eight : ((u.firmware.drop s.uploader.fwIdx).take 8).length = 8 := by
    rw [List.length_take, List.length_drop]
    omega
  have blocks := filled_pageFill s.sent garbage u.nodeId eight
  rw [← sent] at blocks
  obtain ⟨-, aligned, announced, latest⟩ := placed
  generalize filled s.sent = pages at blocks aligned announced latest
  induction pages with
  | nil => exact ⟨defined, by rw [blocks]; nofun, by rw [blocks]; nofun, by rw [blocks]; nofun⟩
  | cons last pages =>
    obtain ⟨page, bytes⟩ := last
    obtain ⟨here, index⟩ := latest (page, bytes) rfl
    have longer : bytes ++ (u.firmware.drop s.uploader.fwIdx).take 8 <+: u.firmware.drop (offset page) := by
      have front := List.prefix_iff_eq_take.mp (aligned (page, bytes) List.mem_cons_self)
      rw [index, ← List.drop_drop]
      dsimp only at front ⊢
      conv => lhs; lhs; rw [front]
      rw [← List.take_add]
      exact List.take_prefix _ _
    refine ⟨defined, ?_, ?_, ?_⟩
    · intro filledPage member
      rw [blocks] at member
      rcases List.mem_cons.mp member with rfl | old
      · exact longer
      · exact aligned filledPage (List.mem_cons_of_mem _ old)
    · intro filledPage member
      rw [blocks] at member
      rw [current]
      rcases List.mem_cons.mp member with rfl | old
      · exact announced (page, bytes) List.mem_cons_self
      · exact announced filledPage (List.mem_cons_of_mem _ old)
    · intro filledPage member
      rw [blocks] at member
      obtain rfl := Option.some.inj member
      refine ⟨here.trans current.symm, ?_⟩
      rw [List.length_append, eight, fwIdx, index, Nat.add_assoc]

theorem Placed.keep (placed : Placed u offset s) (status : t.uploader.status ≠ .undefined)
    (fwIdx : t.uploader.fwIdx = s.uploader.fwIdx) (page : t.uploader.page = s.uploader.page)
    (sent : filled t.sent = filled s.sent) : Placed u offset t where
  defined := status
  aligned := by
    rw [sent]
    exact placed.aligned
  announced := by
    rw [sent, page]
    exact placed.announced
  latest := by
    rw [sent, page, fwIdx]
    exact placed.latest

theorem uploading_step (step : (uploading u).step? s arrival = some t) :
    s.uploader.status = .running ∧ ∀ uploader answer,
      u.recv arrival.garbage s.uploader arrival.frame = (uploader, answer) →
        t = ⟨uploader, s.sent ++ answer.toList⟩ := by
  dsimp only [uploading] at step
  obtain ⟨running, same⟩ := Option.ite_none_right_eq_some.mp step
  refine ⟨running, fun uploader answer recv => ?_⟩
  rw [recv] at same
  exact (Option.some.inj same).symm

/-- What the uploader does in order keeps the places. -/
theorem Placed.step (placed : Placed u offset s) (inOrder : InOrder u s arrival)
    (step : (uploading u).step? s arrival = some t) : ∃ offset, Placed u offset t := by
  obtain ⟨running, after⟩ := uploading_step step
  have defined : s.uploader.status ≠ .undefined := running.trans_ne (by decide)
  by_cases own : arrival.frame.sourceId.setWidth 16 = u.nodeId
  · obtain ⟨turnedOn, pageWrited, pageFillNext⟩ := inOrder own
    by_cases isTurnedOn : arrival.frame.type = FrameType.BOOTLOADER_TURNED_ON
    · rw [after _ _ (recv_turnedOn arrival.garbage own isTurnedOn)]
      refine ⟨_, placed.announce (fun old member => ?_) (BitVec.le_refl _) defined rfl rfl rfl⟩
      have empty := turnedOn isTurnedOn
      have latest := placed.latest
      induction pages : filled s.sent with
      | nil =>
        rw [pages] at member
        cases member
      | cons last pages' =>
        rw [pages] at empty latest
        obtain ⟨here, index⟩ := latest last rfl
        have fwIdx : s.uploader.fwIdx = offset s.uploader.page := by rw [index, empty last rfl, here]; rfl
        rw [fwIdx, Function.update_eq_self]
    by_cases isPageWrited : arrival.frame.type = FrameType.PAGE_WRITED
    · obtain ⟨image, round⟩ := pageWrited isPageWrited
      by_cases more : s.uploader.fwIdx < u.fwSize
      · rw [after _ _ (recv_pageWrited arrival.garbage own isPageWrited image more)]
        have next := round more
        have later : s.uploader.page < s.uploader.page + 1 := by bv_omega
        refine ⟨_, placed.announce (fun old member => ?_) (BitVec.le_of_lt later) defined rfl rfl rfl⟩
        have earlier := placed.announced old member
        exact Function.update_of_ne (by bv_omega) _ _
      · rw [after _ _ (recv_pageWrited_last arrival.garbage own isPageWrited image (Nat.le_of_not_lt more))]
        exact ⟨offset, placed.keep nofun rfl rfl (filled_quitBootloader _ _ _)⟩
    by_cases isPageFillNext : arrival.frame.type = FrameType.PAGE_FILL_NEXT
    · have inside := pageFillNext isPageFillNext
      rw [after _ _ (recv_pageFillNext arrival.garbage own isPageFillNext inside)]
      exact ⟨offset, placed.fill inside defined rfl rfl rfl⟩
    · rw [after _ _ (recv_other arrival.garbage own isTurnedOn isPageWrited isPageFillNext)]
      refine ⟨offset, placed.keep defined rfl rfl ?_⟩
      rw [Option.toList_none, List.append_nil]
  · rw [after s.uploader none (if_pos own)]
    refine ⟨offset, placed.keep defined rfl rfl ?_⟩
    rw [Option.toList_none, List.append_nil]

end Steps

section Runs

variable {u : FirmwareUploader} {s t : History} {arrivals : List Arrival}

theorem placed_initial (initial : (uploading u).Initial s) : Placed u (fun _ => 0) s := by
  obtain ⟨garbage, noupgrademsg, rfl⟩ := initial
  induction noupgrademsg with
  | false => exact ⟨nofun, nofun, nofun, nofun⟩
  | true =>
    have first := filled_pageStart [] garbage u.nodeId 0
    rw [List.nil_append] at first
    have only : filled [firstFrame garbage u.nodeId true] = [((0 : BitVec 16), ([] : List Byte))] := first
    refine ⟨nofun, ?_, ?_, ?_⟩
    · intro page member
      rw [only] at member
      obtain rfl := List.mem_singleton.mp member
      exact List.nil_prefix
    · intro page member
      rw [only] at member
      obtain rfl := List.mem_singleton.mp member
      exact BitVec.le_refl _
    · intro page member
      rw [only] at member
      obtain rfl := Option.some.inj member
      exact ⟨rfl, rfl⟩

/-- While nothing starts the bootloader inside a page, pages of one number start with the same bytes,
and hold the bytes from there on. -/
theorem aligned_of_inOrder (initial : (uploading u).Initial s)
    (inOrder : (uploading u).AllSteps (InOrder u) s arrivals) (run : (uploading u).run? s arrivals = some t) :
    Aligned u.firmware t.sent ∧ t.uploader.status ≠ .undefined := by
  obtain ⟨offset, placed⟩ := run_invariant_of_guard (fun t => ∃ offset, Placed u offset t)
    (fun s arrival t placed inOrder step => placed.elim fun _ placed => placed.step inOrder step)
    ⟨_, placed_initial initial⟩ inOrder run
  exact ⟨⟨offset, placed.aligned⟩, placed.defined⟩

/-- A block of sixteen bytes for the node 5. -/
def sixteenBytes : FirmwareUploader := ⟨[0, 1, 2, 3, 4, 5, 6, 7, 8, 9, 10, 11, 12, 13, 14, 15], 16, 5⟩

def fromNode (type : FrameType) : Arrival := ⟨{ (default : H9Frame) with sourceId := 5, type }, default⟩

def withoutUpgrade : History := ⟨start, [firstFrame default 5 true]⟩

/-- The bootloader starts before the first block of each page, and breaks once. -/
theorem aligned_of_inOrder_sixteenBytes :
    ∃ t, (uploading sixteenBytes).run? withoutUpgrade
        [fromNode FrameType.BOOTLOADER_TURNED_ON, fromNode FrameType.PAGE_FILL_NEXT,
          fromNode FrameType.PAGE_FILL_BREAK, fromNode FrameType.PAGE_WRITED,
          fromNode FrameType.BOOTLOADER_TURNED_ON, fromNode FrameType.PAGE_FILL_NEXT] = some t ∧
      filled t.sent = [(1, [8, 9, 10, 11, 12, 13, 14, 15]), (1, []), (0, [0, 1, 2, 3, 4, 5, 6, 7]), (0, [])] ∧
      Aligned sixteenBytes.firmware t.sent := by
  have run : ((uploading sixteenBytes).run? withoutUpgrade
        [fromNode FrameType.BOOTLOADER_TURNED_ON, fromNode FrameType.PAGE_FILL_NEXT,
          fromNode FrameType.PAGE_FILL_BREAK, fromNode FrameType.PAGE_WRITED,
          fromNode FrameType.BOOTLOADER_TURNED_ON, fromNode FrameType.PAGE_FILL_NEXT]).map
      (fun t => filled t.sent) =
        some [(1, [8, 9, 10, 11, 12, 13, 14, 15]), (1, []), (0, [0, 1, 2, 3, 4, 5, 6, 7]), (0, [])] := by
    decide +kernel
  obtain ⟨t, run, pages⟩ := Option.map_eq_some_iff.mp run
  exact ⟨t, run, pages, (aligned_of_inOrder ⟨default, true, rfl⟩ (by decide +kernel) run).1⟩

/-- The bootloader starts again after the first block, and gets the second block as the first. -/
theorem aligned_restart :
    (uploading sixteenBytes).Initial withoutUpgrade ∧
    ∃ t, (uploading sixteenBytes).run? withoutUpgrade
        [fromNode FrameType.PAGE_FILL_NEXT, fromNode FrameType.BOOTLOADER_TURNED_ON,
          fromNode FrameType.PAGE_FILL_NEXT] = some t ∧
      filled t.sent = [(0, [8, 9, 10, 11, 12, 13, 14, 15]), (0, [0, 1, 2, 3, 4, 5, 6, 7])] ∧
      ¬ Aligned sixteenBytes.firmware t.sent := by
  have run : ((uploading sixteenBytes).run? withoutUpgrade
        [fromNode FrameType.PAGE_FILL_NEXT, fromNode FrameType.BOOTLOADER_TURNED_ON,
          fromNode FrameType.PAGE_FILL_NEXT]).map (fun t => filled t.sent) =
      some [(0, [8, 9, 10, 11, 12, 13, 14, 15]), (0, [0, 1, 2, 3, 4, 5, 6, 7])] := by
    decide +kernel
  obtain ⟨t, run, pages⟩ := Option.map_eq_some_iff.mp run
  refine ⟨⟨default, true, rfl⟩, t, run, pages, ?_⟩
  rintro ⟨offset, aligned⟩
  rw [pages] at aligned
  have again := aligned (0, [8, 9, 10, 11, 12, 13, 14, 15]) List.mem_cons_self
  have first := aligned (0, [0, 1, 2, 3, 4, 5, 6, 7]) (List.mem_cons_of_mem _ List.mem_cons_self)
  have same := List.prefix_of_prefix_length_le again first le_rfl
  revert same
  decide

end Runs

end H9d.FirmwareUploader
