import H9d.Model.Bus
import H9d.Soundness.FramePromise

/-! # Replies addressed to another master

A register comparator looks at the source, the type, the register and the sequence number of a
frame, and not at its destination. So a reply that its node sends to another master completes an
open request of the daemon whenever these four agree. Nothing else can complete one wrongly.
-/

namespace H9d.RawNode

open H9Frame Machine LabeledMachine

variable {Tag : Type} {nodeId : Byte}

/-- The source id that the bus stamps on the requests. -/
def ownId (busId : BitVec 16) : Byte := busId.setWidth 8

theorem stamp_sourceId (busId : BitVec 16) (nextSeqnum : Byte) (frame : H9Frame) :
    (Bus.stamp busId nextSeqnum false frame).1.sourceId = ownId busId := by
  simp only [Bus.stamp, Bool.false_eq_true, if_false]
  split <;> rfl

/-- The frames that complete a request for `reg` with the number `seqnum`: its comparator is given
the source, the type, the first byte of a value and the number. -/
def CouldAnswer (nodeId reg seqnum : Byte) (frame : H9Frame) : Prop :=
  frame.sourceId = nodeId ∧ frame.seqnum = seqnum ∧
    ((frame.type = FrameType.REG_VALUE ∧ 1 ≤ frame.dlc.toNat ∧ frame.data 0 = reg) ∨
      frame.type = FrameType.COMMAND_ERROR)

instance (nodeId reg seqnum : Byte) (frame : H9Frame) :
    Decidable (CouldAnswer nodeId reg seqnum frame) :=
  inferInstanceAs (Decidable (_ ∧ _))

/-- The four kinds of register request wait for the same frames. -/
theorem Request.numbered_eqFrame {request : Request} {reg : Byte}
    (register : request.register? = some reg) (garbage : BitVec 16) (seqnum : Byte) (f : H9Frame) :
    ((request.comparator garbage nodeId).setSeqnum seqnum).eqFrame f = true ↔
      CouldAnswer nodeId reg seqnum f := by
  cases request with
  | reset => cases register
  | setReg _ _ | getReg _ | setBit _ _ | clearBit _ _ =>
    cases register
    exact (registerComparator_setSeqnum_eqFrame garbage nodeId reg seqnum f).trans
      ((and_congr_left' (registerComparator_eqFrame garbage nodeId reg f)).trans
        (and_right_comm.trans and_assoc))

/-- The traffic while the request at `p` is open, that is until a frame that could answer it comes
for the daemon: none that could answer it comes for another master. -/
def NoForeignAnswer (busId : BitVec 16) (nodeId reg : Byte) (p : Pointer)
    (events : List (Event Tag)) : Prop :=
  ∀ seqnum ∈ seqnumsOf p events, ∀ earlier frame later, arrivals events = earlier ++ frame :: later →
    CouldAnswer nodeId reg seqnum frame.frame → frame.frame.destinationId ≠ ownId busId →
      ∃ own ∈ earlier, CouldAnswer nodeId reg seqnum own.frame ∧ own.frame.destinationId = ownId busId

/-- The first of some elements is good exactly if no bad one stands before all the good ones. -/
private theorem find?_good_iff {α : Type} {hit : α → Bool} {Good : α → Prop} {as : List α} :
    (∀ a ∈ as.find? hit, Good a) ↔
      ∀ earlier a later, as = earlier ++ a :: later → hit a = true → ¬ Good a →
        ∃ b ∈ earlier, hit b = true ∧ Good b := by
  constructor
  · intro first earlier a later parts matched bad
    cases found : earlier.find? hit with
    | some b =>
      refine ⟨b, List.mem_of_find?_eq_some found, List.find?_some found, first b ?_⟩
      rw [parts, List.find?_append, found]
      rfl
    | none =>
      refine absurd (first a ?_) bad
      rw [parts, List.find?_append, found, Option.none_or, List.find?_cons_of_pos matched]
      rfl
  · intro guarded a found
    by_contra bad
    obtain ⟨matched, earlier, later, parts, none⟩ := List.find?_eq_some_iff_append.mp found
    obtain ⟨b, member, hits, -⟩ := guarded earlier a later parts matched bad
    have unmatched := none b member
    rw [hits] at unmatched
    cases unmatched

/-- What completes a register request is addressed to the source id that the bus stamped on it
exactly if, while it is open, its node sends no other master a frame with its register, one of its
types and its number. -/
theorem register_request_own_reply {s t : State Tag} (busId : BitVec 16)
    (reachable : (machine Tag nodeId).Reachable s) {p : Pointer} {garbage : BitVec 16}
    {request : Request} {reg : Byte} {events : List (Event Tag)}
    (register : request.register? = some reg)
    (run : (machine Tag nodeId).run? s (.createFramePromise p garbage request :: events) = some t)
    (live : .destroyFramePromise p ∉ events) :
    (∃ fp, t.heap p = some fp ∧ ∀ frame ∈ fp.promise.value, ∀ nextSeqnum sent,
      frame.frame.destinationId = (Bus.stamp busId nextSeqnum false sent).1.sourceId) ↔
      NoForeignAnswer busId nodeId reg p events := by
  obtain ⟨fp, found, tracks⟩ := created_tracks (reachable_wellFormed reachable) run live
  have own : (∃ fp, t.heap p = some fp ∧ ∀ frame ∈ fp.promise.value, ∀ nextSeqnum sent,
      frame.frame.destinationId = (Bus.stamp busId nextSeqnum false sent).1.sourceId) ↔
      ∀ frame ∈ fp.promise.value, frame.frame.destinationId = ownId busId := by
    simp only [found, Option.some.injEq, exists_eq_left', stamp_sourceId]
    exact forall₂_congr fun _ _ => ⟨fun same => same 0 default, fun same _ _ => same⟩
  rw [own, NoForeignAnswer]
  generalize seqnumsOf p events = told at tracks ⊢
  cases tracks with
  | waiting => exact iff_of_true (fun _ unset => by cases unset) fun _ none => absurd none List.not_mem_nil
  | numbered seqnum storage =>
    simp only [List.mem_singleton, forall_eq]
    refine find?_good_iff.trans ?_
    simp only [Request.numbered_eqFrame register, ne_eq]

/-- A value of register 5 that node 7 sends to the master `destinationId`, numbered 3. -/
private def regValueTo (destinationId : Byte) : ReceivedFrame ℕ :=
  ⟨{ (default : H9Frame) with
      type := FrameType.REG_VALUE
      sourceId := 7
      destinationId
      seqnum := 3
      dlc := 2
      data := ![5, 42, 0, 0, 0, 0, 0, 0] }, 0⟩

/-- The daemon's value comes first, so that of master 9 no longer matters. -/
theorem register_request_own_reply_getReg :
    ∃ t, (machine ℕ 7).run? State.empty [.createFramePromise 0 0 (.getReg 5),
        .onFrameRecv (regValueTo 0xff), .setComparatorSeqnum 0 3, .onFrameRecv (regValueTo 9)] = some t ∧
      ∃ fp, t.heap 0 = some fp ∧ ∀ frame ∈ fp.promise.value, frame.frame.destinationId = 0xff := by
  obtain ⟨t, run⟩ := Option.isSome_iff_exists.mp (by decide +kernel :
    ((machine ℕ 7).run? State.empty [.createFramePromise 0 0 (.getReg 5),
      .onFrameRecv (regValueTo 0xff), .setComparatorSeqnum 0 3,
      .onFrameRecv (regValueTo 9)]).isSome = true)
  have quiet : NoForeignAnswer 0xff 7 5 0 [.onFrameRecv (regValueTo 0xff),
      .setComparatorSeqnum 0 3, .onFrameRecv (regValueTo 9)] := by
    intro seqnum told earlier frame later parts _ foreign
    obtain rfl := List.mem_singleton.mp told
    cases earlier with
    | nil => exact absurd (congrArg (·.frame.destinationId) (List.head_eq_of_cons_eq parts)).symm foreign
    | cons first rest =>
      obtain rfl := List.head_eq_of_cons_eq parts
      exact ⟨regValueTo 0xff, List.mem_cons_self, by decide, rfl⟩
  obtain ⟨fp, found, own⟩ :=
    (register_request_own_reply 0xff (Reachable.of_initial rfl) rfl run (by simp)).mpr quiet
  exact ⟨t, run, fp, found, fun frame fulfilled => own frame fulfilled 0 default⟩

/-- The claim for every run fails: the same value sent to master 9 completes the request. -/
theorem foreign_reply_completes_request :
    ¬ ∀ (busId : BitVec 16) (nodeId : Byte) (t : State ℕ) (events : List (Event ℕ)) (p : Pointer)
      (garbage : BitVec 16) (request : Request), request.register?.isSome →
      (machine ℕ nodeId).run? State.empty (.createFramePromise p garbage request :: events) = some t →
      .destroyFramePromise p ∉ events →
      ∃ fp, t.heap p = some fp ∧ ∀ frame ∈ fp.promise.value, ∀ nextSeqnum sent,
        frame.frame.destinationId = (Bus.stamp busId nextSeqnum false sent).1.sourceId := by
  intro everywhere
  have completed : ((machine ℕ 7).run? State.empty [.createFramePromise 0 0 (.getReg 5),
      .setComparatorSeqnum 0 3, .onFrameRecv (regValueTo 9)]).any (fun t =>
        (t.heap 0).any fun fp => fp.promise.value == some (regValueTo 9)) = true := by
    decide +kernel
  obtain ⟨t, run, checked⟩ := (Option.any_eq_true _ _).mp completed
  obtain ⟨fp, found, own⟩ := everywhere 0xff 7 t _ 0 0 (.getReg 5) rfl run (by simp)
  rw [found, Option.any_some, beq_iff_eq] at checked
  have wrong := own (regValueTo 9) checked 0 default
  rw [stamp_sourceId] at wrong
  exact absurd wrong (by decide)

end H9d.RawNode
