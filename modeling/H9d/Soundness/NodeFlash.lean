import H9d.Model.NodeFlash
import H9d.Soundness.FirmwareUpload
import H9d.Soundness.IntelHexImages

/-! # From the file to the flash

The node takes the frames of the transcript one after the other, so its flash is what the pages that it has taken
make of it. Together with the reading of the file, the flash gets the bytes of the file.
-/

namespace H9d.FirmwareUploader

open H9Frame Machine LabeledMachine Placement

/-! ## What the bootloader makes of frames -/

/-- The phase and the memory after some frames. -/
def fed (pageSize : ℕ) (start : Phase × Memory) (frames : List Wire) : Phase × Memory :=
  frames.foldl (fun x w => ((x.1.react pageSize w.1).1, x.2.take pageSize x.1 w.1 w.2.2)) start

theorem fed_append (pageSize : ℕ) (start : Phase × Memory) (first second : List Wire) :
    fed pageSize start (first ++ second) = fed pageSize (fed pageSize start first) second :=
  List.foldl_append

namespace Upload

variable (j : Upload) {m : Memory} {p k : ℕ}

/-- The first pages have the bytes of the image. -/
def programmed (p : ℕ) (flash : ℕ → Byte) : ℕ → Byte := fun a =>
  if a < p * j.pageSize then j.padded.getD a 0xff else flash a

theorem programmed_zero (flash : ℕ → Byte) : j.programmed 0 flash = flash :=
  funext fun a => if_neg (by omega)

theorem value_pageStart (small : p < 2 ^ 16) : Bytes.value (j.pageStart p).2.2 = p := by
  have high : p / 256 < 256 := by omega
  rw [pageStart, Bytes.value_cons, Bytes.value_cons, Bytes.value_nil]
  simp [Nat.mod_eq_of_lt high]
  omega

theorem fed_pageStart (inside : p < j.pages) :
    fed j.pageSize (.ready, m) [j.pageStart p] = (.filling 0, ⟨p, [], m.flash⟩) := by
  have page := j.value_pageStart (j.page_small inside)
  change (_, Memory.mk (Bytes.value (j.pageStart p).2.2) [] m.flash) = _
  rw [page]
  rfl

/-- A page up to one of its blocks. -/
theorem fed_page (inside : p < j.pages) (block : k < j.pageSize / 8) :
    fed j.pageSize (.ready, m) (j.page p k) =
      (.filling k, ⟨p, (j.padded.drop (p * j.pageSize)).take (8 * k), m.flash⟩) := by
  induction k with
  | zero => exact j.fed_pageStart inside
  | succ k ih =>
    have more : ¬8 * (k + 1) = j.pageSize := by omega
    rw [page_succ, fed_append, ih (by omega), Nat.mul_succ, List.take_add, List.drop_drop]
    simp [fed, pageFill, Phase.react, Memory.take, more]

/-- The last block writes the page. -/
theorem fed_written_page (inside : p < j.pages) {flash : ℕ → Byte} (before : m.flash = j.programmed p flash) :
    ∃ next : Memory, fed j.pageSize (.ready, m) (j.page p (j.pageSize / 8)) = (.ready, next) ∧
      next.flash = j.programmed (p + 1) flash := by
  have eight := j.eight_blocks
  have positive := j.positive
  have whole := j.page_inside inside
  obtain ⟨k, last⟩ : ∃ k, j.pageSize / 8 = k + 1 := Nat.exists_eq_succ_of_ne_zero (by omega)
  have full : 8 * (k + 1) = j.pageSize := by omega
  have buffer : (j.padded.drop (p * j.pageSize)).take (8 * k) ++ (j.pageFill p k).2.2 =
      (j.padded.drop (p * j.pageSize)).take (8 * (k + 1)) := by
    rw [Nat.mul_succ, List.take_add, List.drop_drop]
    rfl
  rw [full] at buffer
  refine ⟨Memory.writePage j.pageSize ⟨p, (j.padded.drop (p * j.pageSize)).take j.pageSize, m.flash⟩, ?_, ?_⟩
  · rw [last, page_succ, fed_append, j.fed_page inside (by omega), ← buffer]
    simp [fed, pageFill, Phase.react, Memory.take, full]
  · funext a
    have length := j.length_padded
    rw [Nat.add_mul, Nat.one_mul] at whole
    simp only [Memory.writePage, before, programmed, Nat.add_mul, Nat.one_mul]
    by_cases below : a < p * j.pageSize
    · rw [if_neg (by omega), if_pos below, if_pos (by omega)]
    · rw [if_pos (by omega), if_neg below]
      by_cases here : a < p * j.pageSize + j.pageSize
      · have place : p * j.pageSize + (a - p * j.pageSize) = a := by omega
        rw [if_pos here, List.getD_eq_getElem?_getD, List.getD_eq_getElem?_getD, List.getElem?_take_of_lt (by omega),
          List.getElem?_drop, place, List.getElem?_eq_getElem (by omega)]
        rfl
      · rw [if_neg here, List.getD_eq_getElem?_getD, List.getElem?_take_eq_none (by omega)]
        rfl

theorem fed_written (m : Memory) (inside : p ≤ j.pages) :
    ∃ next : Memory, fed j.pageSize (.ready, m) (j.written p) = (.ready, next) ∧
      next.flash = j.programmed p m.flash := by
  induction p with
  | zero => exact ⟨m, rfl, (j.programmed_zero m.flash).symm⟩
  | succ p ih =>
    obtain ⟨mid, first, flash⟩ := ih (by omega)
    rw [written_succ, fed_append, first]
    exact j.fed_written_page (by omega) flash

end Upload

/-! ## What the node has taken at a place -/

namespace Place

variable (j : Upload) {lead : List Wire} {place : Place} {m : Memory}

/-- The frames that the bootloader has taken. -/
def taken : Place → List Wire
  | application | turnedOn => []
  | announced p => j.written p
  | asked p k | filled p k => j.written p ++ j.page p k
  | done p => j.written (p + 1)
  | quitting => j.written j.pages
  | quit => j.written j.pages ++ [j.quitBootloader]

/-- The number of the pages that are in the flash. -/
def whole : Place → ℕ
  | application | turnedOn => 0
  | announced p | asked p _ | filled p _ => p
  | done p => p + 1
  | quitting | quit => j.pages

theorem sent_eq (turnedOn : (place.view j lead).node ≠ .application) :
    (place.view j lead).sent = lead ++ place.taken j ++ (place.view j lead).toNode := by
  induction place with
  | application => exact absurd rfl turnedOn
  | announced p => rw [view, taken, Upload.page]; rfl
  | filled p k => simp only [view, taken, j.page_succ, List.append_assoc]
  | quit => simp only [view, taken, Upload.transcript, List.append_assoc, List.append_nil]
  | _ => simp [view, taken, Upload.transcript]

theorem whole_of_returned (returned : (place.view j lead).status = .returned) : place.whole j = j.pages := by
  cases place <;> first | rfl | cases returned

theorem flash_taken (m : Memory) (valid : place.Valid j) :
    (fed j.pageSize (.ready, m) (place.taken j)).2.flash = j.programmed (place.whole j) m.flash := by
  have inPage {p k : ℕ} (inside : p < j.pages) (block : k < j.pageSize / 8) :
      (fed j.pageSize (.ready, m) (j.written p ++ j.page p k)).2.flash = j.programmed p m.flash := by
    obtain ⟨next, fed, flash⟩ := j.fed_written m inside.le
    rw [fed_append, fed, j.fed_page inside block]
    exact flash
  have pages {p : ℕ} (inside : p ≤ j.pages) :
      (fed j.pageSize (.ready, m) (j.written p)).2.flash = j.programmed p m.flash := by
    obtain ⟨next, fed, flash⟩ := j.fed_written m inside
    rw [fed]
    exact flash
  induction place with
  | application => exact (j.programmed_zero m.flash).symm
  | turnedOn => exact (j.programmed_zero m.flash).symm
  | announced p => exact pages (Nat.le_of_lt valid)
  | asked p k => exact inPage valid.1 valid.2
  | filled p k => exact inPage valid.1 valid.2
  | done p => exact pages valid
  | quitting => exact pages le_rfl
  | quit =>
    obtain ⟨next, fed, flash⟩ := j.fed_written m le_rfl
    rw [taken, fed_append, fed]
    exact flash

end Place

/-! ## Runs -/

section Runs

variable (j : Upload) {lead : List Wire} {first : Memory} {p t : Programming} {e : Event} {es : List Event}

/-- The memory is what the frames make of it that were sent and are not on their way. -/
structure Fed (lead : List Wire) (first : Memory) (p : Programming) : Prop where
  before : p.system.node = .application → p.memory = first
  after : p.system.node ≠ .application → ∃ taken,
    p.system.sent.map wire = lead ++ taken ++ p.system.toNode.map wire ∧
      fed j.pageSize (.ready, first) taken = (p.system.node, p.memory)

theorem react_ne_application {phase : Phase} (running : phase ≠ .application) (pageSize : ℕ) (type : FrameType) :
    (phase.react pageSize type).1 ≠ .application := by
  cases phase <;> simp only [Phase.react] <;> grind

theorem Fed.keep (fed : Fed j lead first p) (answer : List Wire) (memory : t.memory = p.memory)
    (node : t.system.node = p.system.node) (toNode : t.system.toNode.map wire = p.system.toNode.map wire ++ answer)
    (sent : t.system.sent.map wire = p.system.sent.map wire ++ answer) : Fed j lead first t where
  before application := memory.trans (fed.before (node.symm.trans application))
  after running := by
    obtain ⟨taken, split, fed⟩ := fed.after (node ▸ running)
    refine ⟨taken, ?_, ?_⟩
    · simp only [sent, split, toNode, List.append_assoc]
    · rw [fed, node, memory]

theorem Fed.step {place : Place} (view : p.system.view j.uploader.nodeId = place.view j lead)
    (fed : Fed j lead first p) (step : Programming.step? j.uploader j.pageSize p e = some t) :
    Fed j lead first t := by
  obtain ⟨system, moved, same⟩ := Option.map_eq_some_iff.mp step
  cases e with
  | react reply =>
    obtain ⟨running, w, rest, toNode, after⟩ := view_react rfl moved
    obtain ⟨frame, frames, here, rfl, rfl⟩ := List.map_eq_cons_iff.mp toNode
    have node : system.node = (p.system.node.react j.pageSize frame.type).1 := congrArg View.node after
    have left : system.toNode.map wire = frames.map wire := congrArg View.toNode after
    have sent : system.sent.map wire = p.system.sent.map wire := congrArg View.sent after
    rw [here] at same
    obtain rfl := same
    obtain ⟨taken, split, fed⟩ := fed.after running
    refine ⟨fun application => ?_, fun _ => ⟨taken ++ [wire frame], ?_, ?_⟩⟩
    · exact absurd (node.symm.trans application) (react_ne_application running _ _)
    · simp only [sent, split, here, left, List.map_cons, List.append_assoc, List.singleton_append]
    · rw [fed_append, fed]
      exact Prod.ext node.symm rfl
  | recvFrame garbage =>
    obtain rfl : { p with system } = t := same
    rcases view_recvFrame rfl moved with after | ⟨frame, rest, own, asked, answers⟩
    · refine fed.keep j [] rfl (congrArg View.node after) ?_ ?_
      · exact (congrArg View.toNode after).trans (List.append_nil _).symm
      · exact (congrArg View.sent after).trans (List.append_nil _).symm
    · have after := answers _ _ rfl
      exact fed.keep j _ rfl (congrArg View.node after) (congrArg View.toNode after) (congrArg View.sent after)
  | bootloaderTurnedOn frame =>
    obtain rfl : { p with system } = t := same
    obtain ⟨application, after⟩ := view_turnedOn rfl moved
    have ready : system.node = .ready := congrArg View.node after
    have none : system.toNode.map wire = [] := congrArg View.toNode after
    have sent : system.sent.map wire = p.system.sent.map wire := congrArg View.sent after
    have started : (place.view j lead).node = .application := view ▸ application
    have lead : p.system.sent.map wire = lead := by
      refine (congrArg View.sent view).trans ?_
      cases place <;> first | rfl | cases started
    refine ⟨fun application => by simp [ready] at application, fun _ => ⟨[], ?_, ?_⟩⟩
    · simp only [sent, lead, none, List.append_nil]
    · rw [ready, fed.before application]
      rfl
  | other frame =>
    obtain rfl : { p with system } = t := same
    obtain ⟨-, kept⟩ := Option.ite_none_right_eq_some.mp moved
    obtain rfl := Option.some.inj kept
    exact fed.keep j [] rfl rfl (List.append_nil _).symm (List.append_nil _).symm
  | recvNothing =>
    obtain rfl : { p with system } = t := same
    obtain ⟨-, kept⟩ := Option.ite_none_right_eq_some.mp moved
    obtain rfl := Option.some.inj kept
    exact fed.keep j [] rfl rfl (List.append_nil _).symm (List.append_nil _).symm

theorem fed_initial (initial : (programming j.uploader j.pageSize).Initial p) : Fed j p.system.lead p.memory p := by
  obtain ⟨garbage, noupgrademsg, node, started, system⟩ := initial
  rcases started with rfl | ⟨rfl, rfl⟩
  · refine ⟨fun _ => rfl, fun running => ?_⟩
    rw [system] at running
    exact absurd rfl running
  · refine ⟨fun _ => rfl, fun _ => ⟨[], ?_, ?_⟩⟩
    · rw [system]
      rfl
    · rw [system]
      rfl

/-- In every run the flash has the pages that the place tells. -/
theorem flash_placed (initial : (programming j.uploader j.pageSize).Initial p)
    (run : (programming j.uploader j.pageSize).run? p es = some t) :
    ∃ place : Place, place.Valid j ∧ t.system.view j.uploader.nodeId = place.view j p.system.lead ∧
      t.memory.flash = j.programmed (place.whole j) p.memory.flash := by
  obtain ⟨⟨place, valid, view⟩, fed⟩ : (∃ place : Place, place.Valid j ∧
      t.system.view j.uploader.nodeId = place.view j p.system.lead) ∧ Fed j p.system.lead p.memory t := by
    refine run_invariant (fun t => (∃ place : Place, place.Valid j ∧
      t.system.view j.uploader.nodeId = place.view j p.system.lead) ∧ Fed j p.system.lead p.memory t) ?_ ?_ run
    · rintro s e t ⟨⟨place, valid, view⟩, fed⟩ step
      obtain ⟨system, moved, same⟩ := Option.map_eq_some_iff.mp step
      have next : t.system = system := by
        rw [← same]
        split <;> rfl
      exact ⟨next ▸ Place.step valid view moved, fed.step j view step⟩
    · exact ⟨placed j initial (run?_nil p.system), fed_initial j initial⟩
  refine ⟨place, valid, view, ?_⟩
  have node : t.system.node = (place.view j p.system.lead).node := congrArg View.node view
  by_cases application : t.system.node = .application
  · have none : place.whole j = 0 := by
      cases place <;> first | rfl | cases node.symm.trans application
    rw [fed.before application, none, j.programmed_zero]
  · obtain ⟨taken, split, made⟩ := fed.after application
    have sent : t.system.sent.map wire = _ := (congrArg View.sent view).trans (place.sent_eq j (node ▸ application))
    have left : t.system.toNode.map wire = _ := congrArg View.toNode view
    have same : taken = place.taken j := by
      rw [sent, ← left] at split
      exact (List.append_cancel_left (List.append_cancel_right split)).symm
    have flash := place.flash_taken j p.memory valid
    rw [← same, made] at flash
    exact flash

/-- When nothing is on its way, the upload is at its end. -/
theorem returned_of_quiet {s : System} {place : Place} (view : s.view j.uploader.nodeId = place.view j lead)
    (turnedOn : s.node ≠ .application) (toNode : s.toNode = [])
    (others : ∀ f ∈ s.toUploader, f.sourceId.setWidth 16 ≠ j.uploader.nodeId) : s.uploader.status = .returned := by
  have asked : (s.view j.uploader.nodeId).asked = [] := by simpa [System.view] using others
  have none : (s.view j.uploader.nodeId).toNode = [] := by simp [System.view, toNode]
  rw [view] at asked none
  have node : s.node = (place.view j lead).node := congrArg View.node view
  exact (congrArg View.status view).trans (Place.returned_of_quiet (node ▸ turnedOn) none asked)

end Runs

end H9d.FirmwareUploader

namespace H9d.H9fwupload

open H9Frame Cxx Machine LabeledMachine FirmwareUploader Placement
open IntelHex (Record File segments)

/-! ## Files -/

/-- The data up to the first record for addresses above the block: what is behind it is EEPROM and configuration. -/
def program (records : List Record) : List (ℕ × List Byte) := segments 0 (records.takeWhile isLow)

/-- The image of the upload is that of the file. -/
def Carries (j : Upload) (records : List Record) : Prop :=
  j.image = (List.range (stacked 0 (program records))).map (image 0xff (cells (program records)))

section Files

variable {text : List Byte} {records : List Record} {j : Upload}

theorem Carries.length (carries : Carries j records) : j.image.length = stacked 0 (program records) := by
  rw [carries, List.length_map, List.length_range]

theorem padded_image (ascending : Ascending (program records)) (carries : Carries j records) (a : ℕ) :
    j.padded.getD a 0xff = image 0xff (cells (program records)) a := by
  have length := carries.length
  by_cases inside : a < stacked 0 (program records)
  · rw [Upload.padded, List.getD_append _ _ _ _ (by omega), List.getD_eq_getElem _ _ (by omega)]
    simp [show j.image = _ from carries]
  · have absent (x : Byte) (member : (a, x) ∈ cells (program records)) : x = 0xff :=
      absurd (ascending.lt_stacked member) inside
    rw [Upload.padded, List.getD_append_right _ _ _ _ (by omega), image_of_absent absent]
    grind

/-- The block that is read is the padded image. -/
theorem main_of_file (file : File text records) (ascending : Ascending (program records))
    (carries : Carries j records) {options : Options} (dst : options.dstId = j.node.setWidth 16) (garbage : H9Frame) :
    main options (some text) true garbage = .value (j.uploader,
      ⟨FirmwareUploader.start, [firstFrame garbage options.dstId options.noupgrademsg]⟩) := by
  have length := carries.length
  have run := readIhex_stacks (ε := Exit) file
  have room : stacked 0 (segments 0 (records.takeWhile isLow)) ≤ FW_DATA_LENGTH := length.symm.trans_le j.fits
  rw [if_pos room] at run
  obtain ⟨s, value, rest⟩ := run
  have firmware : List.ofFn s.fwData = j.padded := by
    apply List.ext_getElem
    · rw [List.length_ofFn, j.length_padded]
    · intro i inside inside'
      have put := rest.bytes ⟨i, inside.trans_eq List.length_ofFn⟩
      have there := padded_image ascending carries i
      rw [List.getD_eq_getElem _ _ inside'] at there
      rw [List.getElem_ofFn, put, there, image, ← ascending.map_put_moves fun _ _ => Nat.zero_le _]
      rfl
  have size : s.dataLength = j.image.length := rest.length.trans length.symm
  rw [main, value, dst]
  change Outcome.value (FirmwareUploader.mk (List.ofFn s.fwData) s.dataLength (j.node.setWidth 16), _) = _
  rw [firmware, size]
  rfl

/-- Two records with a gap between them, in two pages of eight bytes. -/
def gapped : List Record := [.data 0 [0x61, 0x62] (by decide), .data 9 [0x63] (by decide), .endOfFile 0]

def gappedUpload : Upload :=
  { nineBytes with
    image := [0x61, 0x62, 0xff, 0xff, 0xff, 0xff, 0xff, 0xff, 0xff, 0x63]
    nonempty := by decide
    fits := by decide }

end Files

end H9d.H9fwupload
