import H9d.Model.FirmwareUploader
import Mathlib.Data.List.Range
import Mathlib.Algebra.Order.Group.Nat
import Mathlib.Tactic.Ring

/-! # The upload delivers the image

Only one frame of the uploader or of the node is on its way at a time, so the state of the whole upload is
a place in one list of frames, the transcript. Each step keeps the place or goes on by one frame.
-/

namespace H9d.FirmwareUploader

open H9Frame Machine LabeledMachine

/-- What the receiver of a frame reads: members that are never written are left out. -/
abbrev Wire : Type := FrameType × Byte × List Byte

def wire (f : H9Frame) : Wire := (f.type, f.destinationId, f.listed)

/-- An image, a node with an eight-bit id, and the page size of its bootloader. -/
structure Upload where
  image : List Byte
  node : Byte
  pageSize : ℕ
  nonempty : 0 < image.length
  fits : image.length ≤ FW_DATA_LENGTH
  positive : 0 < pageSize
  blocks : 8 ∣ pageSize
  divides : pageSize ∣ FW_DATA_LENGTH

namespace Upload

variable (j : Upload)

def padded : List Byte := j.image ++ List.replicate (FW_DATA_LENGTH - j.image.length) 0xff

def uploader : FirmwareUploader := ⟨j.padded, j.image.length, j.node.setWidth 16⟩

/-- `⌈L / S⌉` -/
def pages : ℕ := (j.image.length + j.pageSize - 1) / j.pageSize

def pageStart (p : ℕ) : Wire :=
  (FrameType.PAGE_START, j.node, [BitVec.ofNat 8 (p / 256), BitVec.ofNat 8 p])

def pageFill (p k : ℕ) : Wire :=
  (FrameType.PAGE_FILL, j.node, (j.padded.drop (p * j.pageSize + 8 * k)).take 8)

def quitBootloader : Wire := (FrameType.QUIT_BOOTLOADER, j.node, [])

/-- A page up to its `k`-th block. -/
def page (p k : ℕ) : List Wire := j.pageStart p :: (List.range k).map (j.pageFill p)

def written (p : ℕ) : List Wire := (List.range p).flatMap fun p => j.page p (j.pageSize / 8)

/-- After the frames that `main` sent to a node that was not in its bootloader, the pages in their order,
and the end. -/
def transcript (lead : List Wire) : List Wire := lead ++ j.written j.pages ++ [j.quitBootloader]

/-! ## Pages -/

theorem written_succ (p : ℕ) : j.written (p + 1) = j.written p ++ j.page p (j.pageSize / 8) := by
  rw [written, List.range_succ, List.flatMap_append, List.flatMap_singleton]
  rfl

theorem page_succ (p k : ℕ) : j.page p (k + 1) = j.page p k ++ [j.pageFill p k] := by
  rw [page, List.range_succ, List.map_append]
  rfl

theorem page_prefix {p k : ℕ} (inside : k ≤ j.pageSize / 8) : j.page p k <+: j.page p (j.pageSize / 8) := by
  refine Nat.rel_of_forall_rel_succ_of_le (· <+: ·) (fun k => ?_) inside
  rw [page_succ]
  exact List.prefix_append _ _

theorem written_prefix {p : ℕ} (inside : p ≤ j.pages) : j.written p <+: j.written j.pages := by
  refine Nat.rel_of_forall_rel_succ_of_le (· <+: ·) (fun p => ?_) inside
  rw [written_succ]
  exact List.prefix_append _ _

theorem lt_pages {p : ℕ} : p < j.pages ↔ p * j.pageSize < j.image.length := by
  have positive := j.positive
  rw [pages, Nat.lt_iff_add_one_le, Nat.le_div_iff_mul_le positive, Nat.add_mul]
  omega

theorem length_padded : j.padded.length = FW_DATA_LENGTH := by
  rw [padded, List.length_append, List.length_replicate]
  exact Nat.add_sub_of_le j.fits

/-- A page that has a byte of the image is inside the block. -/
theorem page_inside {p : ℕ} (inside : p < j.pages) : (p + 1) * j.pageSize ≤ FW_DATA_LENGTH := by
  obtain ⟨count, whole⟩ := j.divides
  have begins : p * j.pageSize < count * j.pageSize := by
    calc p * j.pageSize < j.image.length := j.lt_pages.mp inside
      _ ≤ FW_DATA_LENGTH := j.fits
      _ = count * j.pageSize := by rw [whole, Nat.mul_comm]
  rw [whole, Nat.mul_comm j.pageSize]
  exact Nat.mul_le_mul_right _ (Nat.lt_of_mul_lt_mul_right begins)

theorem eight_blocks : 8 * (j.pageSize / 8) = j.pageSize := Nat.mul_div_cancel' j.blocks

theorem page_small {p : ℕ} (inside : p < j.pages) : p < 2 ^ 16 := by
  have long : 8 ≤ j.pageSize := Nat.le_of_dvd j.positive j.blocks
  have whole : (p + 1) * 8 ≤ FW_DATA_LENGTH := (Nat.mul_le_mul_left _ long).trans (j.page_inside inside)
  change (p + 1) * 8 ≤ 131072 at whole
  omega

theorem block_inside {p k : ℕ} (page : p < j.pages) (block : k < j.pageSize / 8) :
    p * j.pageSize + 8 * k + 8 ≤ FW_DATA_LENGTH := by
  have whole := j.page_inside page
  have eight := j.eight_blocks
  rw [Nat.add_mul] at whole
  omega

/-- The blocks of a page are the bytes of the page. -/
theorem flatMap_blocks (p : ℕ) :
    (List.range (j.pageSize / 8)).flatMap (fun k => (j.pageFill p k).2.2) =
      (j.padded.drop (p * j.pageSize)).take j.pageSize := by
  have upTo (k : ℕ) : (List.range k).flatMap (fun k => (j.pageFill p k).2.2) =
      (j.padded.drop (p * j.pageSize)).take (8 * k) := by
    induction k with
    | zero => rfl
    | succ k ih =>
      rw [List.range_succ, List.flatMap_append, ih, List.flatMap_singleton, Nat.mul_succ, List.take_add,
        List.drop_drop]
      rfl
  rw [upTo, j.eight_blocks]

end Upload

/-! ## Answers -/

section Recv

variable {u : FirmwareUploader} {s : State} {frame : H9Frame} (garbage : H9Frame)
  (own : frame.sourceId.setWidth 16 = u.nodeId)
include own

theorem recv_turnedOn (type : frame.type = FrameType.BOOTLOADER_TURNED_ON) :
    u.recv garbage s frame =
      ({ s with recvFrameCount := s.recvFrameCount + 1, sentFrameCount := s.sentFrameCount + 1 },
        some (pageStart garbage u.nodeId s.page)) := by
  rw [recv, if_neg (not_not_intro own)]
  exact if_pos type

theorem recv_pageWrited (type : frame.type = FrameType.PAGE_WRITED) (image : 0 < u.fwSize)
    (more : s.fwIdx < u.fwSize) :
    u.recv garbage s frame =
      ({ s with
          page := s.page + 1
          recvFrameCount := s.recvFrameCount + 1
          sentFrameCount := s.sentFrameCount + 1 },
        some (pageStart garbage u.nodeId (s.page + 1))) := by
  rw [recv, if_neg (not_not_intro own)]
  dsimp only
  rw [type, if_neg (by decide), if_pos rfl, if_neg image.ne', if_neg more.not_ge]

theorem recv_pageWrited_last (type : frame.type = FrameType.PAGE_WRITED) (image : 0 < u.fwSize)
    (last : u.fwSize ≤ s.fwIdx) :
    u.recv garbage s frame =
      ({ s with
          recvFrameCount := s.recvFrameCount + 1
          sentFrameCount := s.sentFrameCount + 1
          status := .returned },
        some (quitBootloader garbage u.nodeId)) := by
  rw [recv, if_neg (not_not_intro own)]
  dsimp only
  rw [type, if_neg (by decide), if_pos rfl, if_neg image.ne', if_pos last]

theorem recv_pageFillNext (type : frame.type = FrameType.PAGE_FILL_NEXT)
    (inside : s.fwIdx + 8 ≤ u.firmware.length) :
    u.recv garbage s frame =
      ({ s with
          fwIdx := s.fwIdx + 8
          recvFrameCount := s.recvFrameCount + 1
          sentFrameCount := s.sentFrameCount + 1 },
        some (pageFill garbage u.nodeId ((u.firmware.drop s.fwIdx).take 8))) := by
  have all : ((u.firmware.drop s.fwIdx).take MAX_DATA_LENGTH).length = MAX_DATA_LENGTH := by
    rw [List.length_take, List.length_drop]
    exact Nat.min_eq_left (Nat.le_sub_of_add_le' inside)
  rw [recv, if_neg (not_not_intro own)]
  dsimp only
  rw [type, if_neg (by decide), if_neg (by decide), if_pos rfl, if_pos all]

theorem recv_other (turnedOn : frame.type ≠ FrameType.BOOTLOADER_TURNED_ON)
    (pageWrited : frame.type ≠ FrameType.PAGE_WRITED) (pageFillNext : frame.type ≠ FrameType.PAGE_FILL_NEXT) :
    u.recv garbage s frame = ({ s with recvFrameCount := s.recvFrameCount + 1 }, none) := by
  rw [recv, if_neg (not_not_intro own)]
  dsimp only
  rw [if_neg turnedOn, if_neg pageWrited, if_neg pageFillNext]

end Recv

/-! ## Frames on the wire -/

section Frames

variable (garbage : H9Frame) (node : Byte)

theorem narrow_node : (node.setWidth 16).setWidth 8 = node := by
  rw [BitVec.setWidth_setWidth_of_le _ (by decide), BitVec.setWidth_eq]

theorem wire_command (type : FrameType) : wire (command garbage (node.setWidth 16) type 0) = (type, node, []) := by
  rw [wire, command, narrow_node]
  rfl

theorem listed_pageStart (nodeId : BitVec 16) {p : ℕ} (small : p < 2 ^ 16) :
    (pageStart garbage nodeId (BitVec.ofNat 16 p)).listed = [BitVec.ofNat 8 (p / 256), BitVec.ofNat 8 p] := by
  have high : (BitVec.ofNat 16 p >>> 8 &&& 0xff#16).setWidth 8 = BitVec.ofNat 8 (p / 256) := by
    apply BitVec.eq_of_toNat_eq
    rw [BitVec.toNat_setWidth, BitVec.toNat_and, BitVec.toNat_ushiftRight, BitVec.toNat_ofNat,
      BitVec.toNat_ofNat, BitVec.toNat_ofNat, Nat.mod_eq_of_lt small, Nat.shiftRight_eq_div_pow]
    change ((p / 256) &&& (2 ^ 8 - 1)) % 2 ^ 8 = _
    rw [Nat.and_two_pow_sub_one_eq_mod, Nat.mod_mod]
  have low : (BitVec.ofNat 16 p &&& 0xff#16).setWidth 8 = BitVec.ofNat 8 p := by
    apply BitVec.eq_of_toNat_eq
    rw [BitVec.toNat_setWidth, BitVec.toNat_and, BitVec.toNat_ofNat, BitVec.toNat_ofNat,
      BitVec.toNat_ofNat, Nat.mod_eq_of_lt small]
    change (p &&& (2 ^ 8 - 1)) % 2 ^ 8 = _
    rw [Nat.and_two_pow_sub_one_eq_mod, Nat.mod_mod]
  rw [pageStart, high, low]
  rfl

theorem listed_pageFill (nodeId : BitVec 16) {data : List Byte} (eight : data.length = 8) :
    (pageFill garbage nodeId data).listed = data := by
  have bytes : (List.ofFn fun i : Fin 8 => data.getD i 0) = data := by
    apply List.ext_getElem
    · rw [List.length_ofFn, eight]
    · intro i _ inside
      rw [List.getElem_ofFn, List.getD_eq_getElem _ _ inside]
  change (List.ofFn fun i : Fin 8 => data.getD i 0).take 8 = _
  rw [bytes]
  exact List.take_of_length_le eight.le

theorem wire_pageStart {p : ℕ} (small : p < 2 ^ 16) :
    wire (pageStart garbage (node.setWidth 16) (BitVec.ofNat 16 p)) =
      (FrameType.PAGE_START, node, [BitVec.ofNat 8 (p / 256), BitVec.ofNat 8 p]) := by
  rw [wire, listed_pageStart garbage _ small, pageStart, command, setData, narrow_node]

theorem wire_pageFill {data : List Byte} (eight : data.length = 8) :
    wire (pageFill garbage (node.setWidth 16) data) = (FrameType.PAGE_FILL, node, data) := by
  rw [wire, listed_pageFill garbage _ eight, pageFill, command, narrow_node]

end Frames

/-! ## Places -/

/-- What of the state decides the next steps. -/
@[ext] structure View where
  node : Phase
  toNode : List Wire
  asked : List FrameType
  fwIdx : ℕ
  page : BitVec 16
  status : Status
  sent : List Wire

def System.view (nodeId : BitVec 16) (s : System) : View where
  node := s.node
  toNode := s.toNode.map wire
  asked := (s.toUploader.filter fun f => f.sourceId.setWidth 16 = nodeId).map (·.type)
  fwIdx := s.uploader.fwIdx
  page := s.uploader.page
  status := s.uploader.status
  sent := s.sent.map wire

/-- `announced p`, `asked p k`, `filled p k` and `done p`: the one frame on its way is the start of the
page, the request for its `k`-th block, this block, and the report that the page is written. -/
inductive Place
  | application
  | turnedOn
  | announced (p : ℕ)
  | asked (p k : ℕ)
  | filled (p k : ℕ)
  | done (p : ℕ)
  | quitting
  | quit

namespace Place

variable (j : Upload) (lead : List Wire)

def view : Place → View
  | application => ⟨.application, lead, [], 0, 0, .running, lead⟩
  | turnedOn => ⟨.ready, [], [FrameType.BOOTLOADER_TURNED_ON], 0, 0, .running, lead⟩
  | announced p => ⟨.ready, [j.pageStart p], [], p * j.pageSize, BitVec.ofNat 16 p, .running,
      lead ++ j.written p ++ j.page p 0⟩
  | asked p k => ⟨.filling k, [], [FrameType.PAGE_FILL_NEXT], p * j.pageSize + 8 * k, BitVec.ofNat 16 p,
      .running, lead ++ j.written p ++ j.page p k⟩
  | filled p k => ⟨.filling k, [j.pageFill p k], [], p * j.pageSize + 8 * (k + 1), BitVec.ofNat 16 p,
      .running, lead ++ j.written p ++ j.page p (k + 1)⟩
  | done p => ⟨.ready, [], [FrameType.PAGE_WRITED], (p + 1) * j.pageSize, BitVec.ofNat 16 p, .running,
      lead ++ j.written (p + 1)⟩
  | quitting => ⟨.ready, [j.quitBootloader], [], j.pages * j.pageSize, BitVec.ofNat 16 (j.pages - 1),
      .returned, j.transcript lead⟩
  | quit => ⟨.quit, [], [], j.pages * j.pageSize, BitVec.ofNat 16 (j.pages - 1), .returned,
      j.transcript lead⟩

def Valid : Place → Prop
  | application | turnedOn | quitting | quit => True
  | announced p | done p => p < j.pages
  | asked p k | filled p k => p < j.pages ∧ k < j.pageSize / 8

end Place

/-! ## Steps -/

section Steps

variable {j : Upload} {lead : List Wire} {place : Place} {s t : System} {garbage frame reply : H9Frame}

theorem view_turnedOn {v : View} (view : s.view j.uploader.nodeId = v)
    (step : j.uploader.step? j.pageSize s (.bootloaderTurnedOn frame) = some t) :
    v.node = .application ∧ t.view j.uploader.nodeId =
      { v with node := .ready, toNode := [], asked := v.asked ++ [FrameType.BOOTLOADER_TURNED_ON] } := by
  obtain ⟨⟨application, type, own⟩, same⟩ := Option.ite_none_right_eq_some.mp step
  obtain rfl := Option.some.inj same
  subst view
  refine ⟨application, ?_⟩
  simp only [System.view, List.filter_append, List.map_append, List.map_nil, type, own, decide_true,
    List.filter_cons_of_pos, List.filter_nil, List.map_cons]

theorem view_react {v : View} (view : s.view j.uploader.nodeId = v)
    (step : j.uploader.step? j.pageSize s (.react reply) = some t) :
    v.node ≠ .application ∧ ∃ first rest, v.toNode = first :: rest ∧
      t.view j.uploader.nodeId =
        { v with
          node := (v.node.react j.pageSize first.1).1
          toNode := rest
          asked := v.asked ++ (v.node.react j.pageSize first.1).2.toList } := by
  subst view
  dsimp only [step?] at step
  split at step
  · cases step
  · cases step
  next first rest frames running =>
  refine ⟨running, wire first, rest.map wire, ?_, ?_⟩
  · rw [System.view, frames]
    rfl
  have type : (wire first).1 = first.type := rfl
  rw [type]
  split at step
  · next next reacts =>
    obtain rfl := Option.some.inj step
    rw [System.view, System.view, reacts, Option.toList_none, List.append_nil]
  · next next type reacts =>
    obtain ⟨⟨asked, own⟩, same⟩ := Option.ite_none_right_eq_some.mp step
    obtain rfl := Option.some.inj same
    simp only [System.view, reacts, List.filter_append, List.map_append, List.map_nil, asked, own,
      decide_true, List.filter_cons_of_pos, List.filter_nil, List.map_cons, Option.toList_some]

/-- The uploader reads over the frames of other nodes. -/
theorem view_recvFrame {v : View} (view : s.view j.uploader.nodeId = v)
    (step : j.uploader.step? j.pageSize s (.recvFrame garbage) = some t) :
    t.view j.uploader.nodeId = v ∨
      ∃ frame rest, frame.sourceId.setWidth 16 = j.uploader.nodeId ∧ v.asked = frame.type :: rest ∧
        ∀ uploader answer, j.uploader.recv garbage s.uploader frame = (uploader, answer) →
          t.view j.uploader.nodeId =
            { v with
              toNode := v.toNode ++ answer.toList.map wire
              asked := rest
              fwIdx := uploader.fwIdx
              page := uploader.page
              status := uploader.status
              sent := v.sent ++ answer.toList.map wire } := by
  subst view
  dsimp only [step?] at step
  split at step
  · next frame rest status frames =>
    obtain rfl := Option.some.inj step
    by_cases own : frame.sourceId.setWidth 16 = j.uploader.nodeId
    · refine .inr ⟨frame, (rest.filter fun f => f.sourceId.setWidth 16 = j.uploader.nodeId).map (·.type), own, ?_,
        fun uploader answer recv => ?_⟩
      · simp only [System.view, frames, own, decide_true, List.filter_cons_of_pos, List.map_cons]
      · simp only [System.view, recv, List.map_append]
    · have ignored : j.uploader.recv garbage s.uploader frame = (s.uploader, none) := if_pos own
      rw [ignored]
      refine .inl ?_
      simp only [System.view, frames, own, decide_false, Bool.false_eq_true, not_false_eq_true,
        List.filter_cons_of_neg, Option.toList_none, List.append_nil]
  · cases step

/-- A frame of the node is answered by the next frame of the transcript. -/
theorem Place.recv (valid : place.Valid j) (view : s.view j.uploader.nodeId = place.view j lead)
    (step : j.uploader.step? j.pageSize s (.recvFrame garbage) = some t) :
    ∃ next : Place, next.Valid j ∧ t.view j.uploader.nodeId = next.view j lead := by
  rcases view_recvFrame view step with same | ⟨frame, rest, own, asked, answers⟩
  · exact ⟨place, valid, same⟩
  have fwIdx : s.uploader.fwIdx = (place.view j lead).fwIdx := congrArg View.fwIdx view
  have page : s.uploader.page = (place.view j lead).page := congrArg View.page view
  have status : s.uploader.status = (place.view j lead).status := congrArg View.status view
  induction place with
  | application => cases asked
  | announced => cases asked
  | filled => cases asked
  | quitting => cases asked
  | quit => cases asked
  | turnedOn =>
    obtain ⟨type, rfl⟩ := List.cons.inj asked
    have sends : wire (pageStart garbage j.uploader.nodeId s.uploader.page) = j.pageStart 0 := by
      rw [page]
      exact wire_pageStart garbage j.node (Nat.two_pow_pos 16)
    refine ⟨.announced 0, j.lt_pages.mpr ?_, ?_⟩
    · rw [Nat.zero_mul]
      exact j.nonempty
    rw [answers _ _ (recv_turnedOn garbage own type.symm), Option.toList_some, List.map_singleton, sends]
    refine View.ext rfl rfl rfl ?_ page status ?_
    · exact fwIdx.trans (Nat.zero_mul _).symm
    · exact congrArg (· ++ [j.pageStart 0]) (List.append_nil lead).symm
  | asked p k =>
    obtain ⟨inside, block⟩ := valid
    obtain ⟨type, rfl⟩ := List.cons.inj asked
    have room : s.uploader.fwIdx + 8 ≤ j.uploader.firmware.length := by
      rw [fwIdx]
      exact (j.block_inside inside block).trans_eq j.length_padded.symm
    have eight : ((j.uploader.firmware.drop s.uploader.fwIdx).take 8).length = 8 := by
      rw [List.length_take, List.length_drop]
      omega
    have sends : wire (pageFill garbage j.uploader.nodeId ((j.uploader.firmware.drop s.uploader.fwIdx).take 8)) =
        j.pageFill p k := by
      rw [fwIdx] at eight ⊢
      exact wire_pageFill garbage j.node eight
    refine ⟨.filled p k, ⟨inside, block⟩, ?_⟩
    rw [answers _ _ (recv_pageFillNext garbage own type.symm room), Option.toList_some, List.map_singleton, sends]
    refine View.ext rfl rfl rfl ?_ page status ?_
    · exact congrArg (· + 8) fwIdx
    · rw [Place.view, Place.view, j.page_succ, ← List.append_assoc]
  | done p =>
    obtain ⟨type, rfl⟩ := List.cons.inj asked
    have size : j.uploader.fwSize ≤ s.uploader.fwIdx ↔ ¬ p + 1 < j.pages := by
      rw [fwIdx, j.lt_pages, Nat.not_lt]
      rfl
    by_cases last : p + 1 < j.pages
    · have next : s.uploader.page + 1 = BitVec.ofNat 16 (p + 1) := by
        rw [page, BitVec.ofNat_add]
        rfl
      have sends : wire (pageStart garbage j.uploader.nodeId (s.uploader.page + 1)) = j.pageStart (p + 1) := by
        rw [next]
        exact wire_pageStart garbage j.node (j.page_small last)
      refine ⟨.announced (p + 1), last, ?_⟩
      have more := Nat.lt_of_not_le (mt size.mp (not_not_intro last))
      rw [answers _ _ (recv_pageWrited garbage own type.symm j.nonempty more), Option.toList_some,
        List.map_singleton, sends]
      exact View.ext rfl rfl rfl fwIdx next status rfl
    · have whole : p + 1 = j.pages := Nat.le_antisymm valid (Nat.le_of_not_lt last)
      have sends : wire (quitBootloader garbage j.uploader.nodeId) = j.quitBootloader :=
        wire_command garbage j.node FrameType.QUIT_BOOTLOADER
      refine ⟨.quitting, trivial, ?_⟩
      rw [answers _ _ (recv_pageWrited_last garbage own type.symm j.nonempty (size.mpr last)), Option.toList_some,
        List.map_singleton, sends]
      refine View.ext rfl rfl rfl ?_ ?_ rfl ?_
      · exact fwIdx.trans (congrArg (· * j.pageSize) whole)
      · exact page.trans (congrArg (fun n => BitVec.ofNat 16 (n - 1)) whole)
      · exact congrArg (fun n => lead ++ j.written n ++ [j.quitBootloader]) whole

/-- A frame of the uploader is answered as the diagram says. -/
theorem Place.react (valid : place.Valid j) (view : s.view j.uploader.nodeId = place.view j lead)
    (step : j.uploader.step? j.pageSize s (.react reply) = some t) :
    ∃ next : Place, next.Valid j ∧ t.view j.uploader.nodeId = next.view j lead := by
  obtain ⟨running, first, rest, toNode, after⟩ := view_react view step
  rw [after]
  have positive := j.positive
  have eight := j.eight_blocks
  induction place with
  | application => exact absurd rfl running
  | turnedOn => cases toNode
  | asked => cases toNode
  | done => cases toNode
  | quit => cases toNode
  | announced p =>
    obtain ⟨rfl, rfl⟩ := List.cons.inj toNode
    refine ⟨.asked p 0, ⟨valid, by omega⟩, rfl⟩
  | filled p k =>
    obtain ⟨inside, block⟩ := valid
    obtain ⟨rfl, rfl⟩ := List.cons.inj toNode
    by_cases full : 8 * (k + 1) = j.pageSize
    · have reacts : (Phase.filling k).react j.pageSize FrameType.PAGE_FILL =
          (.ready, some FrameType.PAGE_WRITED) := by
        rw [Phase.react, if_pos rfl, if_pos full]
      have all : k + 1 = j.pageSize / 8 := by omega
      refine ⟨.done p, inside, ?_⟩
      change View.mk ((Phase.filling k).react j.pageSize FrameType.PAGE_FILL).1 _
        ([] ++ ((Phase.filling k).react j.pageSize FrameType.PAGE_FILL).2.toList) _ _ _ _ = _
      rw [reacts]
      refine View.ext rfl rfl rfl ?_ rfl rfl ?_
      · exact (congrArg (p * j.pageSize + ·) full).trans (Nat.succ_mul p j.pageSize).symm
      · change lead ++ j.written p ++ j.page p (k + 1) = lead ++ j.written (p + 1)
        rw [j.written_succ, all, List.append_assoc]
    · have reacts : (Phase.filling k).react j.pageSize FrameType.PAGE_FILL =
          (.filling (k + 1), some FrameType.PAGE_FILL_NEXT) := by
        rw [Phase.react, if_pos rfl, if_neg full]
      refine ⟨.asked p (k + 1), ⟨inside, by omega⟩, ?_⟩
      change View.mk ((Phase.filling k).react j.pageSize FrameType.PAGE_FILL).1 _
        ([] ++ ((Phase.filling k).react j.pageSize FrameType.PAGE_FILL).2.toList) _ _ _ _ = _
      rw [reacts]
      rfl
  | quitting =>
    obtain ⟨rfl, rfl⟩ := List.cons.inj toNode
    exact ⟨.quit, trivial, rfl⟩

/-- Each step keeps the upload at a place. -/
theorem Place.step {e : Event} (valid : place.Valid j) (view : s.view j.uploader.nodeId = place.view j lead)
    (step : j.uploader.step? j.pageSize s e = some t) :
    ∃ next : Place, next.Valid j ∧ t.view j.uploader.nodeId = next.view j lead := by
  induction e with
  | react reply => exact Place.react valid view step
  | recvFrame garbage => exact Place.recv valid view step
  | bootloaderTurnedOn frame =>
    obtain ⟨application, after⟩ := view_turnedOn view step
    rw [after]
    induction place with
    | application => exact ⟨.turnedOn, trivial, rfl⟩
    | turnedOn => cases application
    | announced => cases application
    | asked => cases application
    | filled => cases application
    | done => cases application
    | quitting => cases application
    | quit => cases application
  | other frame =>
    obtain ⟨foreign, same⟩ := Option.ite_none_right_eq_some.mp step
    obtain rfl := Option.some.inj same
    refine ⟨place, valid, ?_⟩
    rw [← view]
    simp only [System.view, List.filter_append, foreign, decide_false, Bool.false_eq_true, not_false_eq_true,
      List.filter_cons_of_neg, List.filter_nil, List.append_nil]
  | recvNothing =>
    obtain ⟨-, same⟩ := Option.ite_none_right_eq_some.mp step
    obtain rfl := Option.some.inj same
    exact ⟨place, valid, view⟩

end Steps

/-! ## Runs -/

theorem Place.progress {j : Upload} {place : Place} (lead : List Wire) (valid : place.Valid j) :
    (place.view j lead).status = .running ∧ (place.view j lead).sent <+: lead ++ j.written j.pages ∨
      (place.view j lead).status = .returned ∧ (place.view j lead).sent = j.transcript lead := by
  have inPage {p k : ℕ} (inside : p < j.pages) (blocks : k ≤ j.pageSize / 8) :
      lead ++ j.written p ++ j.page p k <+: lead ++ j.written j.pages := by
    calc lead ++ j.written p ++ j.page p k
        <+: lead ++ j.written p ++ j.page p (j.pageSize / 8) := List.prefix_append_right_inj _ |>.mpr (j.page_prefix blocks)
      _ = lead ++ j.written (p + 1) := by rw [j.written_succ, List.append_assoc]
      _ <+: lead ++ j.written j.pages := List.prefix_append_right_inj _ |>.mpr (j.written_prefix inside)
  induction place with
  | application => exact .inl ⟨rfl, List.prefix_append _ _⟩
  | turnedOn => exact .inl ⟨rfl, List.prefix_append _ _⟩
  | announced p => exact .inl ⟨rfl, inPage valid (Nat.zero_le _)⟩
  | asked p k => exact .inl ⟨rfl, inPage valid.1 valid.2.le⟩
  | filled p k => exact .inl ⟨rfl, inPage valid.1 valid.2⟩
  | done p => exact .inl ⟨rfl, List.prefix_append_right_inj _ |>.mpr (j.written_prefix valid)⟩
  | quitting => exact .inr ⟨rfl, rfl⟩
  | quit => exact .inr ⟨rfl, rfl⟩

/-- A node that has started its bootloader waits for nothing but the end. -/
theorem Place.returned_of_quiet {j : Upload} {lead : List Wire} {place : Place}
    (turnedOn : (place.view j lead).node ≠ .application) (toNode : (place.view j lead).toNode = [])
    (asked : (place.view j lead).asked = []) : (place.view j lead).status = .returned := by
  induction place with
  | application => exact absurd rfl turnedOn
  | turnedOn => cases asked
  | announced => cases toNode
  | asked => cases asked
  | filled => cases toNode
  | done => cases asked
  | quitting => rfl
  | quit => rfl

/-- The frame that `main` sent to a node in its application; to a bootloader it is the start of page 0. -/
def System.lead (s : System) : List Wire := if s.node = .application then s.sent.map wire else []

section Runs

variable (j : Upload) {s t : System} {es : List Event}

theorem placed (initial : (machine j.uploader j.pageSize).Initial s)
    (run : (machine j.uploader j.pageSize).run? s es = some t) :
    ∃ place : Place, place.Valid j ∧ t.view j.uploader.nodeId = place.view j s.lead := by
  refine run_invariant (fun t => ∃ place : Place, place.Valid j ∧ t.view j.uploader.nodeId = place.view j s.lead)
    ?_ ?_ run
  · rintro s e t ⟨place, valid, view⟩ step
    exact Place.step valid view step
  obtain ⟨garbage, noupgrademsg, node, started, rfl⟩ := initial
  rcases started with rfl | ⟨rfl, rfl⟩
  · exact ⟨.application, trivial, rfl⟩
  · have sends : wire (firstFrame garbage j.uploader.nodeId true) = j.pageStart 0 :=
      wire_pageStart garbage j.node (Nat.two_pow_pos 16)
    refine ⟨.announced 0, j.lt_pages.mpr ?_, View.ext rfl ?_ rfl (Nat.zero_mul _).symm rfl rfl ?_⟩
    · rw [Nat.zero_mul]
      exact j.nonempty
    · exact congrArg (fun w => [w]) sends
    · exact congrArg (fun w => [w]) sends

/-- However the frames of the node, of the uploader and of other nodes interleave, the uploader sends a
part of the transcript, in which each page carries its bytes of the padded image. It returns when it has
sent all of it, and nothing else stops the upload. -/
theorem upload_delivers (initial : (machine j.uploader j.pageSize).Initial s)
    (run : (machine j.uploader j.pageSize).run? s es = some t) :
    t.sent.map wire <+: j.transcript s.lead ∧
      t.uploader.status ≠ .undefined ∧
      (t.uploader.status = .returned ↔ t.sent.map wire = j.transcript s.lead) ∧
      (t.node ≠ .application → t.toNode = [] →
        (∀ f ∈ t.toUploader, f.sourceId.setWidth 16 ≠ j.uploader.nodeId) → t.uploader.status = .returned) ∧
      ∀ p, (List.range (j.pageSize / 8)).flatMap (fun k => (j.pageFill p k).2.2) =
        (j.padded.drop (p * j.pageSize)).take j.pageSize := by
  obtain ⟨place, valid, view⟩ := placed j initial run
  have status : t.uploader.status = (place.view j s.lead).status := congrArg View.status view
  have sent : t.sent.map wire = (place.view j s.lead).sent := congrArg View.sent view
  have quiet : t.node ≠ .application → t.toNode = [] →
      (∀ f ∈ t.toUploader, f.sourceId.setWidth 16 ≠ j.uploader.nodeId) → t.uploader.status = .returned := by
    intro turnedOn toNode others
    rw [status]
    apply Place.returned_of_quiet
    · rw [← view]
      exact turnedOn
    · rw [← view, System.view, toNode]
      rfl
    · rw [← view, System.view, List.filter_eq_nil_iff.mpr (fun f member => ?_)]
      · rfl
      · exact (decide_eq_false (others f member)).trans_ne Bool.false_ne_true
  rw [sent]
  rcases place.progress s.lead valid with ⟨running, part⟩ | ⟨returned, whole⟩
  · have unfinished : (place.view j s.lead).sent ≠ j.transcript s.lead := by
      intro whole
      have length := part.length_le
      rw [whole, Upload.transcript, List.length_append] at length
      exact Nat.not_succ_le_self _ length
    rw [running] at status
    refine ⟨part.trans (List.prefix_append _ _), ?_, iff_of_false ?_ unfinished, quiet, j.flatMap_blocks⟩
    · exact status.trans_ne (by decide)
    · exact status.trans_ne (by decide)
  · rw [returned] at status
    refine ⟨whole ▸ List.prefix_rfl, ?_, iff_of_true status whole, quiet, j.flatMap_blocks⟩
    exact status.trans_ne (by decide)

/-- An image of nine bytes is two pages of eight. -/
def nineBytes : Upload where
  image := [1, 2, 3, 4, 5, 6, 7, 8, 9]
  node := 5
  pageSize := 8
  nonempty := by decide
  fits := by decide
  positive := by decide
  blocks := by decide
  divides := by decide

/-- A node 6 sends a report as if it were asked, and the node starts its bootloader. -/
def nineBytesRun : List Event :=
  let frame (sourceId : Byte) (type : FrameType) : H9Frame := { (default : H9Frame) with sourceId, type }
  let answer : List Event := [.recvFrame default, .react (frame 5 FrameType.PAGE_FILL_NEXT),
    .recvFrame default, .react (frame 5 FrameType.PAGE_WRITED)]
  [.other (frame 6 FrameType.PAGE_WRITED), .bootloaderTurnedOn (frame 5 FrameType.BOOTLOADER_TURNED_ON),
    .recvNothing, .recvFrame default] ++ answer ++ answer ++ [.recvFrame default, .react default]

theorem upload_delivers_nineBytes :
    ∃ t, (machine nineBytes.uploader 8).run? (nineBytes.uploader.beginning default false .application)
        nineBytesRun = some t ∧
      t.uploader.status = .returned ∧
      t.sent.map wire =
        [(FrameType.NODE_UPGRADE, 5, []),
          (FrameType.PAGE_START, 5, [0, 0]), (FrameType.PAGE_FILL, 5, [1, 2, 3, 4, 5, 6, 7, 8]),
          (FrameType.PAGE_START, 5, [0, 1]),
          (FrameType.PAGE_FILL, 5, [9, 0xff, 0xff, 0xff, 0xff, 0xff, 0xff, 0xff]),
          (FrameType.QUIT_BOOTLOADER, 5, [])] := by
  have run : ((machine nineBytes.uploader 8).run? (nineBytes.uploader.beginning default false .application)
      nineBytesRun).map (fun t => t.uploader.status) = some .returned := by decide +kernel
  obtain ⟨t, run, status⟩ := Option.map_eq_some_iff.mp run
  have initial : (machine nineBytes.uploader nineBytes.pageSize).Initial
      (nineBytes.uploader.beginning default false .application) := ⟨default, false, .application, .inl rfl, rfl⟩
  have delivers := upload_delivers nineBytes initial run
  refine ⟨t, run, status, (delivers.2.2.1.mp status).trans ?_⟩
  decide +kernel

end Runs

end H9d.FirmwareUploader
