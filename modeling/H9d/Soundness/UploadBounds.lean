import H9d.Soundness.FirmwareUpload

/-! # The bounds of an upload

The node decides when the uploader divides by the size of the image and how far it goes in the block. What
keeps the uploader in bounds is a condition on the frames of the node alone.
-/

namespace H9d.FirmwareUploader

open H9Frame Machine LabeledMachine

variable (u : FirmwareUploader)

/-- A frame of the node. -/
def Own (f : H9Frame) : Prop := f.sourceId.setWidth 16 = u.nodeId

instance : DecidablePred (Own u) := fun _ => inferInstanceAs (Decidable (_ = _))

/-- The blocks that the node asked for. -/
def blocks (frames : List H9Frame) : ℕ :=
  frames.countP fun f => decide (Own u f ∧ f.type = FrameType.PAGE_FILL_NEXT)

/-- The node said that it wrote a page when it had all of the image. -/
def Done (frames : List H9Frame) : Prop :=
  ∃ before f after, frames = before ++ f :: after ∧ Own u f ∧ f.type = FrameType.PAGE_WRITED ∧
    u.fwSize ≤ 8 * blocks u before

/-- At a page that is written the blocks are not more than the image and the sixtieth part of it, and a block
that is asked for is inside the memory. -/
def Allowed (before : List H9Frame) (f : H9Frame) : Prop :=
  Own u f →
    (f.type = FrameType.PAGE_WRITED → 480 * blocks u before < 61 * u.fwSize) ∧
    (f.type = FrameType.PAGE_FILL_NEXT → 8 * blocks u before + 8 ≤ FW_DATA_LENGTH)

instance (before : List H9Frame) (f : H9Frame) : Decidable (Allowed u before f) :=
  inferInstanceAs (Decidable (_ → _ ∧ _))

/-- Up to the end of the upload, the frames are allowed. -/
def Bounded (frames : List H9Frame) : Prop :=
  ∀ before f after, frames = before ++ f :: after → ¬Done u before → Allowed u before f

/-- A frame is received without a division by zero, a read behind the block, and a bar that is too long. -/
def Sound (s : History) (arrival : Arrival) : Prop :=
  s.uploader.status = .running →
    (u.recv arrival.garbage s.uploader arrival.frame).1.status ≠ .undefined ∧
    (Own u arrival.frame → arrival.frame.type = FrameType.PAGE_WRITED →
      (u.progressBar s.uploader).lpad ≤ BitVec.ofNat 32 PBWIDTH)

section Frames

variable {u} {before after : List H9Frame} {f : H9Frame}

theorem blocks_append (before after : List H9Frame) : blocks u (before ++ after) = blocks u before + blocks u after :=
  List.countP_append

theorem blocks_snoc_fill (own : Own u f) (type : f.type = FrameType.PAGE_FILL_NEXT) :
    blocks u (before ++ [f]) = blocks u before + 1 := by
  rw [blocks_append, blocks, blocks, List.countP_singleton, if_pos (decide_eq_true ⟨own, type⟩)]

theorem blocks_snoc_other (other : ¬(Own u f ∧ f.type = FrameType.PAGE_FILL_NEXT)) :
    blocks u (before ++ [f]) = blocks u before := by
  rw [blocks_append, blocks, blocks, List.countP_singleton, decide_eq_false other]
  rfl

theorem Done.append (done : Done u before) (after : List H9Frame) : Done u (before ++ after) := by
  obtain ⟨first, f, rest, rfl, last⟩ := done
  exact ⟨first, f, rest ++ after, by rw [List.append_assoc, List.cons_append], last⟩

theorem done_snoc_iff : Done u (before ++ [f]) ↔
    Done u before ∨ Own u f ∧ f.type = FrameType.PAGE_WRITED ∧ u.fwSize ≤ 8 * blocks u before := by
  constructor
  · rintro ⟨first, g, rest, split, last⟩
    rcases List.eq_nil_or_concat rest with rfl | ⟨rest, h, rfl⟩
    · obtain ⟨rfl, same⟩ := List.append_inj' split rfl
      cases same
      exact .inr last
    · rw [List.concat_eq_append, ← List.cons_append, ← List.append_assoc] at split
      exact .inl ⟨first, g, rest, (List.append_inj' split rfl).1, last⟩
  · rintro (done | last)
    · exact done.append [f]
    · exact ⟨before, f, [], rfl, last⟩

end Frames

section Steps

variable {u} {before : List H9Frame} {s t : State} {arrival : Arrival} {garbage : H9Frame} {f : H9Frame}

theorem lpad_le_iff (image : 0 < u.fwSize) (bound : s.fwIdx ≤ FW_DATA_LENGTH) :
    (u.progressBar s).lpad ≤ BitVec.ofNat 32 PBWIDTH ↔ 60 * s.fwIdx < 61 * u.fwSize := by
  have limit : s.fwIdx ≤ 131072 := bound
  have small : s.fwIdx * 60 / u.fwSize < 2 ^ 32 := by
    refine Nat.lt_of_le_of_lt (Nat.div_le_self _ _) ?_
    omega
  change BitVec.ofNat 32 (s.fwIdx * 60 / u.fwSize) ≤ BitVec.ofNat 32 60 ↔ _
  rw [BitVec.le_def, BitVec.toNat_ofNat, BitVec.toNat_ofNat, Nat.mod_eq_of_lt small]
  change s.fwIdx * 60 / u.fwSize ≤ 60 ↔ _
  rw [← Nat.lt_succ_iff, Nat.div_lt_iff_lt_mul image, Nat.mul_comm]

/-- The state of the uploader after the frames of the node. -/
structure Follows (u : FirmwareUploader) (before : List H9Frame) (s : State) : Prop where
  running : s.status = .running
  index : s.fwIdx = 8 * blocks u before
  inside : s.fwIdx ≤ FW_DATA_LENGTH
  going : ¬Done u before

theorem recv_foreign (foreign : ¬Own u f) : u.recv garbage s f = (s, none) := if_pos foreign

theorem recv_undefined_of_empty (own : f.sourceId.setWidth 16 = u.nodeId) (type : f.type = FrameType.PAGE_WRITED)
    (image : u.fwSize = 0) :
    (u.recv garbage s f).1.status = .undefined := by
  rw [recv, if_neg (not_not_intro own)]
  dsimp only
  rw [type, if_neg (by decide), if_pos rfl, if_pos image]

theorem recv_undefined_of_full (own : f.sourceId.setWidth 16 = u.nodeId)
    (type : f.type = FrameType.PAGE_FILL_NEXT) (full : u.firmware.length < s.fwIdx + 8) :
    (u.recv garbage s f).1.status = .undefined := by
  have few : ¬((u.firmware.drop s.fwIdx).take MAX_DATA_LENGTH).length = MAX_DATA_LENGTH := by
    rw [List.length_take, List.length_drop]
    change ¬min 8 _ = 8
    omega
  rw [recv, if_neg (not_not_intro own)]
  dsimp only
  rw [type, if_neg (by decide), if_neg (by decide), if_pos rfl, if_neg few]

theorem pageFillNext_ne_pageWrited : FrameType.PAGE_FILL_NEXT ≠ FrameType.PAGE_WRITED := by decide

/-- What is allowed is what the uploader does without harm. -/
theorem Follows.sound_iff (follows : Follows u before s) (block : u.firmware.length = FW_DATA_LENGTH)
    (sent : List H9Frame) : Sound u ⟨s, sent⟩ arrival ↔ Allowed u before arrival.frame := by
  have running := follows.running
  have index := follows.index
  rw [Sound, Allowed]
  change (s.status = .running → _) ↔ _
  rw [imp_iff_right running]
  by_cases own : Own u arrival.frame
  · rw [imp_iff_right own, imp_iff_right own]
    by_cases written : arrival.frame.type = FrameType.PAGE_WRITED
    · have noFill : arrival.frame.type ≠ FrameType.PAGE_FILL_NEXT := by
        rw [written]
        exact pageFillNext_ne_pageWrited.symm
      rw [imp_iff_right written, imp_iff_right written, and_iff_left fun fill => absurd fill noFill]
      rcases Nat.eq_zero_or_pos u.fwSize with image | image
      · rw [recv_undefined_of_empty own written image, image]
        exact iff_of_false (fun both => both.1 rfl) (by omega)
      · have defined : (u.recv arrival.garbage s arrival.frame).1.status ≠ .undefined := by
          rcases Nat.lt_or_ge s.fwIdx u.fwSize with more | last
          · rw [recv_pageWrited _ own written image more]
            dsimp only
            rw [running]
            decide
          · rw [recv_pageWrited_last _ own written image last]
            dsimp only
            decide
        rw [and_iff_right defined]
        refine (lpad_le_iff image follows.inside).trans ?_
        omega
    · rw [and_iff_left fun type => absurd type written, and_iff_right fun type => absurd type written]
      by_cases fill : arrival.frame.type = FrameType.PAGE_FILL_NEXT
      · rw [imp_iff_right fill]
        by_cases room : s.fwIdx + 8 ≤ u.firmware.length
        · rw [recv_pageFillNext _ own fill room]
          dsimp only
          rw [running]
          exact iff_of_true (by decide) (by omega)
        · rw [recv_undefined_of_full own fill (Nat.lt_of_not_le room)]
          exact iff_of_false (fun defined => defined rfl) (by omega)
      · refine iff_of_true ?_ fun type => absurd type fill
        by_cases on : arrival.frame.type = FrameType.BOOTLOADER_TURNED_ON
        · rw [recv_turnedOn _ own on]
          dsimp only
          rw [running]
          decide
        · rw [recv_other _ own on written fill]
          dsimp only
          rw [running]
          decide
  · rw [recv_foreign own]
    dsimp only
    rw [running]
    exact iff_of_true ⟨by decide, fun own' => absurd own' own⟩ fun own' => absurd own' own

/-- A frame that asks for no block and is not the end of a page changes nothing of it. -/
theorem Follows.keep (follows : Follows u before s) (status : t.status = s.status) (index : t.fwIdx = s.fwIdx)
    (noFill : ¬(Own u f ∧ f.type = FrameType.PAGE_FILL_NEXT))
    (goes : ¬(Own u f ∧ f.type = FrameType.PAGE_WRITED ∧ u.fwSize ≤ 8 * blocks u before)) :
    Follows u (before ++ [f]) t where
  running := status.trans follows.running
  index := by rw [index, follows.index, blocks_snoc_other noFill]
  inside := index.le.trans follows.inside
  going := by
    rw [done_snoc_iff]
    exact not_or.mpr ⟨follows.going, goes⟩

/-- What an allowed frame does to the uploader. -/
theorem Follows.step (follows : Follows u before s) (block : u.firmware.length = FW_DATA_LENGTH)
    (allowed : Allowed u before f) : Follows u (before ++ [f]) (u.recv garbage s f).1 ∨
      (u.recv garbage s f).1.status = .returned ∧ Done u (before ++ [f]) := by
  have index := follows.index
  by_cases own : Own u f
  · obtain ⟨divides, asks⟩ := allowed own
    by_cases written : f.type = FrameType.PAGE_WRITED
    · have noFill : ¬(Own u f ∧ f.type = FrameType.PAGE_FILL_NEXT) := by
        rw [written]
        exact fun both => pageFillNext_ne_pageWrited both.2.symm
      have bound := divides written
      have image : 0 < u.fwSize := by omega
      rcases Nat.lt_or_ge s.fwIdx u.fwSize with more | last
      · rw [recv_pageWrited _ own written image more]
        exact .inl (follows.keep rfl rfl noFill fun ends => by omega)
      · rw [recv_pageWrited_last _ own written image last]
        exact .inr ⟨rfl, done_snoc_iff.mpr (.inr ⟨own, written, by omega⟩)⟩
    · have goes : ¬(Own u f ∧ f.type = FrameType.PAGE_WRITED ∧ u.fwSize ≤ 8 * blocks u before) :=
        fun ends => written ends.2.1
      by_cases fill : f.type = FrameType.PAGE_FILL_NEXT
      · have room := asks fill
        rw [recv_pageFillNext _ own fill (by omega)]
        refine .inl ⟨follows.running, ?_, ?_, ?_⟩
        · dsimp only
          rw [blocks_snoc_fill own fill]
          omega
        · dsimp only
          omega
        · rw [done_snoc_iff]
          exact not_or.mpr ⟨follows.going, goes⟩
      · have noFill : ¬(Own u f ∧ f.type = FrameType.PAGE_FILL_NEXT) := fun both => fill both.2
        by_cases on : f.type = FrameType.BOOTLOADER_TURNED_ON
        · rw [recv_turnedOn _ own on]
          exact .inl (follows.keep rfl rfl noFill goes)
        · rw [recv_other _ own on written fill]
          exact .inl (follows.keep rfl rfl noFill goes)
  · rw [recv_foreign own]
    exact .inl (follows.keep rfl rfl (fun both => own both.1) fun ends => own ends.1)

end Steps

section Runs

variable {u} {before : List H9Frame} {s : History} {arrivals : List Arrival}

theorem step?_of_running (running : s.uploader.status = .running) (arrival : Arrival) :
    (uploading u).step? s arrival = some ⟨(u.recv arrival.garbage s.uploader arrival.frame).1,
      s.sent ++ (u.recv arrival.garbage s.uploader arrival.frame).2.toList⟩ := if_pos running

theorem step?_of_not_running (stopped : s.uploader.status ≠ .running) (arrival : Arrival) :
    (uploading u).step? s arrival = none := if_neg stopped

/-- Nothing is received any more. -/
theorem sound_of_stopped (stopped : s.uploader.status ≠ .running) (arrivals : List Arrival) :
    (uploading u).AllSteps (Sound u) s arrivals := by
  cases arrivals with
  | nil => trivial
  | cons arrival rest =>
    refine ⟨fun running => absurd running stopped, ?_⟩
    rw [step?_of_not_running stopped]
    trivial

/-- Frames behind some others. -/
def BoundedFrom (u : FirmwareUploader) (before frames : List H9Frame) : Prop :=
  ∀ first f after, frames = first ++ f :: after → ¬Done u (before ++ first) → Allowed u (before ++ first) f

theorem boundedFrom_cons {f : H9Frame} {frames : List H9Frame} (going : ¬Done u before) :
    BoundedFrom u before (f :: frames) ↔ Allowed u before f ∧ BoundedFrom u (before ++ [f]) frames := by
  constructor
  · intro bounded
    constructor
    · have here := bounded [] f frames rfl
      rw [List.append_nil] at here
      exact here going
    · intro first g after split
      have later := bounded (f :: first) g after (by rw [split, List.cons_append])
      rwa [← List.singleton_append, ← List.append_assoc] at later
  · rintro ⟨here, later⟩ first g after split
    cases first with
    | nil =>
      cases split
      rw [List.append_nil]
      exact fun _ => here
    | cons f' first =>
      cases split
      rw [← List.singleton_append, ← List.append_assoc]
      exact later first g after rfl

theorem boundedFrom_of_done (done : Done u before) (frames : List H9Frame) : BoundedFrom u before frames :=
  fun first _ _ _ going => absurd (done.append first) going

/-- By induction over what arrives, with the frames that came before. -/
theorem Follows.run (follows : Follows u before s.uploader) (block : u.firmware.length = FW_DATA_LENGTH) :
    (uploading u).AllSteps (Sound u) s arrivals ↔ BoundedFrom u before (arrivals.map Arrival.frame) := by
  induction arrivals generalizing s before with
  | nil => exact iff_of_true trivial fun first f after split => by cases first <;> cases split
  | cons arrival rest ih =>
    rw [List.map_cons, boundedFrom_cons follows.going, AllSteps, step?_of_running follows.running]
    dsimp only
    rw [← follows.sound_iff block s.sent]
    refine and_congr_right fun sound => ?_
    rcases follows.step block ((follows.sound_iff block s.sent).mp sound) with goes | ⟨returned, done⟩
    · exact ih goes
    · refine iff_of_true (sound_of_stopped ?_ rest) (boundedFrom_of_done done _)
      dsimp only
      rw [returned]
      decide

/-- The uploader stays in its bounds for as long as the frames of the node are in theirs. -/
theorem sound_iff_bounded (block : u.firmware.length = FW_DATA_LENGTH) (initial : (uploading u).Initial s)
    (arrivals : List Arrival) :
    (uploading u).AllSteps (Sound u) s arrivals ↔ Bounded u (arrivals.map Arrival.frame) := by
  obtain ⟨garbage, noupgrademsg, rfl⟩ := initial
  have follows : Follows u [] start := by
    refine ⟨rfl, rfl, Nat.zero_le _, ?_⟩
    rintro ⟨first, f, after, split, -⟩
    cases first <;> cases split
  exact Follows.run (s := ⟨start, [firstFrame garbage u.nodeId noupgrademsg]⟩) follows block

/-- The block of an image of some bytes, for the node 5. -/
def imageOf (fwSize : ℕ) : FirmwareUploader := ⟨List.replicate FW_DATA_LENGTH 0xff, fwSize, 5⟩

def arrivalOf (type : FrameType) : Arrival := ⟨{ (default : H9Frame) with sourceId := 5, type }, default⟩

/-- A page of sixteen bytes. -/
theorem sound_sixteenBytes :
    (uploading (imageOf 16)).AllSteps (Sound (imageOf 16)) ⟨start, [firstFrame default 5 true]⟩
      [arrivalOf FrameType.PAGE_FILL_NEXT, arrivalOf FrameType.PAGE_FILL_NEXT, arrivalOf FrameType.PAGE_WRITED] := by
  refine (sound_iff_bounded List.length_replicate ⟨default, true, rfl⟩ _).mpr ?_
  intro first f after split going
  rcases first with _ | ⟨a, _ | ⟨b, _ | ⟨c, first⟩⟩⟩
  · cases split
    decide
  · cases split
    decide
  · cases split
    decide
  · have length := congrArg List.length split
    simp only [List.length_map, List.length_append, List.length_cons, List.length_nil] at length
    omega

/-- The page of an image without bytes. -/
theorem not_sound : ¬∀ (u : FirmwareUploader) (s : History) (arrivals : List Arrival),
    u.firmware.length = FW_DATA_LENGTH → u.fwSize ≤ FW_DATA_LENGTH → (uploading u).Initial s →
    (uploading u).AllSteps (Sound u) s arrivals := by
  intro all
  have sound := all (imageOf 0) ⟨start, [firstFrame default 5 true]⟩ [arrivalOf FrameType.PAGE_WRITED]
    List.length_replicate (Nat.zero_le _) ⟨default, true, rfl⟩
  exact (sound.1 rfl).1 rfl

end Runs

end H9d.FirmwareUploader
