import H9d.Soundness.BusDelivery

/-! # The sequence numbers of the bus

The counter holds the number of numbered frames put so far modulo 32. Raw frames and frames without
a number pass it by, so the number of a frame is its position among the numbered ones.
-/

namespace H9d.Bus

open H9Frame Machine LabeledMachine

private theorem seqnum_max : SEQNUM_MAX_VALUE = 31 := rfl

section Stamp

variable (busId : BitVec 16) (nextSeqnum : Byte) (raw : Bool) (frame : H9Frame)

/-- What a stamp leaves as it was. -/
theorem stamp_kept : (stamp busId nextSeqnum raw frame).1.type = frame.type ∧
    (stamp busId nextSeqnum raw frame).1.destinationId = frame.destinationId ∧
    (stamp busId nextSeqnum raw frame).1.data = frame.data := by
  unfold stamp
  split
  · exact ⟨rfl, rfl, rfl⟩
  · dsimp only
    split <;> exact ⟨rfl, rfl, rfl⟩

variable {nextSeqnum}

theorem stamp_numbered (takes : takesSeqnum frame.type = true) (range : nextSeqnum.toNat < 32) :
    (stamp busId nextSeqnum false frame).1.seqnum = nextSeqnum ∧
      (stamp busId nextSeqnum false frame).2.toNat = (nextSeqnum.toNat + 1) % 32 := by
  simp only [stamp, Bool.false_eq_true, if_false, takes, if_true, true_and, seqnum_max]
  have next : (nextSeqnum + 1).toNat = nextSeqnum.toNat + 1 := by bv_omega
  rw [next]
  split
  · next wraps =>
    rw [show nextSeqnum.toNat + 1 = 32 by omega]
    rfl
  · next fits => rw [next, Nat.mod_eq_of_lt (by omega)]

theorem stamp_unnumbered (takes : takesSeqnum frame.type = false) (range : nextSeqnum.toNat < 32) :
    (stamp busId nextSeqnum false frame).2 = nextSeqnum := by
  simp only [stamp, Bool.false_eq_true, if_false, takes, seqnum_max]
  exact if_neg (by omega)

end Stamp

variable {c : Config} {s t : State} {e : Event}

/-- The counter and the numbers given so far. -/
structure Numbering (s : State) : Prop where
  next : s.nextSeqnum.toNat = s.numbered.length % 32
  given : ∀ i st, s.numbered[i]? = some st → st.frame.seqnum.toNat = i % 32

/-- A step puts at most one frame, and only the head of the send queue. -/
inductive Puts (c : Config) (s : State) (e : Event) (t : State) : Prop
  | nothing (numbered : t.numbered = s.numbered) (next : t.nextSeqnum = s.nextSeqnum)
  | one (id : FrameId) (f : BusFrame) (send : e = .send) (front : s.sendQueue.head? = some id)
      (found : s.heap id = some f) (raw : f.raw = false) (takes : takesSeqnum f.type = true)
      (numbered : t.numbered =
        s.numbered ++ [⟨id, false, (stamp c.busId s.nextSeqnum false f.toH9Frame).1⟩])
      (next : t.nextSeqnum = (stamp c.busId s.nextSeqnum false f.toH9Frame).2)

theorem numbered_snoc {st : Stamped} (stamped : t.stamped = s.stamped ++ [st]) :
    t.numbered = s.numbered ++ if st.isNumbered then [st] else [] := by
  rw [State.numbered, stamped, List.filter_append, State.numbered]
  congr 1
  cases flag : st.isNumbered with
  | true => exact List.filter_cons_of_pos flag
  | false => exact List.filter_cons_of_neg (by rw [flag]; exact Bool.false_ne_true)

theorem Step.puts (step : Step c s e t) (range : s.nextSeqnum.toNat < 32) : Puts c s e t := by
  cases step with
  | sendPop ret id queue f phase front found =>
    have head : s.sendQueue.head? = some id := by rw [front]; rfl
    have type := (stamp_kept c.busId s.nextSeqnum f.raw f.toH9Frame).1
    cases raw : f.raw with
    | true =>
      refine .nothing ?_ rfl
      rw [numbered_snoc rfl]
      exact List.append_nil s.numbered
    | false =>
      cases takes : takesSeqnum f.type with
      | true =>
        rw [raw] at type
        refine .one id f rfl head found raw takes ?_ rfl
        rw [numbered_snoc rfl, if_pos]
        rw [Stamped.isNumbered, type, takes]
        rfl
      | false =>
        rw [raw] at type
        refine .nothing ?_ (stamp_unnumbered c.busId f.toH9Frame takes range)
        rw [numbered_snoc rfl, if_neg, List.append_nil]
        rw [Stamped.isNumbered, type, takes]
        exact Bool.false_ne_true
  | ack socket success member owed =>
    obtain ⟨heap, endpoints, fault, after⟩ := sendAckCallback_eq s socket success
    rw [after]
    exact .nothing rfl rfl
  | push _ _ _ _ _ | trigger _ _ | waitAsync _ _ _ | waitSockets _ _ | read _ _ _ _ _ _ _ _ _
  | readForward _ _ _ _ _ _ _ _ | announce _ _ | forwardNone _ _ | forwardPop _ _ _ _
  | forwardSkip _ _ _ _ _ _ _ | forwardHand _ _ _ _ _ _ _ _ | forwardDone _ _ | sendNone _ _ _
  | hand _ _ _ _ | handDone _ _ => exact .nothing rfl rfl

theorem Numbering.range (n : Numbering s) : s.nextSeqnum.toNat < 32 := by
  rw [n.next]
  exact Nat.mod_lt _ (by decide)

theorem Step.numbering (step : Step c s e t) (n : Numbering s) : Numbering t := by
  cases step.puts n.range with
  | nothing numbered next => exact ⟨by rw [next, numbered]; exact n.next, by rw [numbered]; exact n.given⟩
  | one id f send front found raw takes numbered next =>
    obtain ⟨seqnum, counter⟩ := stamp_numbered c.busId f.toH9Frame takes n.range
    constructor
    · rw [next, counter, n.next, numbered, List.length_append, List.length_singleton, Nat.mod_add_mod]
    · intro i st there
      rw [numbered, List.getElem?_append] at there
      split at there
      · exact n.given i st there
      · next last =>
        obtain ⟨bound, rfl⟩ := List.getElem?_eq_some_iff.mp there
        rw [List.length_singleton] at bound
        rw [List.getElem_singleton, seqnum, n.next]
        congr 1
        omega

theorem numbering_initial : Numbering initial where
  next := rfl
  given i st there := by cases there

theorem reachable_numbering (reachable : (machine c).Reachable s) : Numbering s :=
  reachable.invariant Numbering (by rintro _ rfl; exact numbering_initial)
    fun _ _ _ n step => (Step.of_step? step).2.numbering n

/-- Frames less than 32 positions apart have different numbers. -/
theorem Numbering.position_eq (n : Numbering s) {i j : ℕ} {first second : Stamped}
    (there : s.numbered[i]? = some first) (other : s.numbered[j]? = some second)
    (near : i < j + 32 ∧ j < i + 32) (same : first.frame.seqnum = second.frame.seqnum) : i = j := by
  have left := n.given i first there
  have right := n.given j second other
  rw [same] at left
  omega

/-- An acknowledgement keeps the contents of every frame object. -/
theorem sendAckCallback_contents (s : State) (socket : Socket) (success : Bool) {id : FrameId}
    {f : BusFrame} (found : s.heap id = some f) :
    ∃ g, (s.sendAckCallback socket success).heap id = some g ∧ g.raw = f.raw ∧
      g.toH9Frame = f.toH9Frame := by
  unfold State.sendAckCallback
  dsimp only
  split
  · exact ⟨f, found, rfl, rfl⟩
  · split
    · exact ⟨f, found, rfl, rfl⟩
    · next other rest _ _ f' there =>
      split
      · next g ok =>
        rcases eq_or_ne id other with rfl | apart
        · change s.heap id = some f' at there
          rw [found] at there
          cases there
          refine ⟨g, Function.update_self _ _ _, ?_⟩
          cases success
          · exact ⟨(finish_frame ok).2.2, (finish_frame ok).1⟩
          · exact ⟨(finish_frame ok).2.2, (finish_frame ok).1⟩
        · exact ⟨f, (Function.update_of_ne apart _ _).trans found, rfl, rfl⟩
      · exact ⟨f, found, rfl, rfl⟩

/-- A queued frame waits unchanged until the step that puts it on the bus. -/
theorem Step.queued (step : Step c s e t) {id : FrameId} {f : BusFrame} (queued : id ∈ s.sendQueue)
    (found : s.heap id = some f) :
    (id ∈ t.sendQueue ∧ ∃ g, t.heap id = some g ∧ g.raw = f.raw ∧ g.toH9Frame = f.toH9Frame) ∨
      (e = .send ∧ s.sendQueue.head? = some id ∧ t.stamped =
        s.stamped ++ [⟨id, f.raw, (stamp c.busId s.nextSeqnum f.raw f.toH9Frame).1⟩]) := by
  have fresh {other : FrameId} (free : s.heap other = none) (g : BusFrame) :
      Function.update s.heap other (some g) id = some f := by
    have apart : id ≠ other := fun same => by rw [same, free] at found; cases found
    exact (Function.update_of_ne apart _ _).trans found
  cases step with
  | push thread other frame raw free =>
    exact .inl ⟨List.mem_append_left _ queued, f, fresh free _, rfl, rfl⟩
  | readForward other frame more sockets next phase free on =>
    exact .inl ⟨queued, f, fresh free _, rfl, rfl⟩
  | sendPop ret other queue g phase front there =>
    rcases eq_or_ne id other with rfl | apart
    · rw [found] at there
      cases there
      exact .inr ⟨rfl, by rw [front]; rfl, rfl⟩
    · rw [front] at queued
      refine .inl ⟨(List.mem_cons.mp queued).resolve_left apart, f, ?_, rfl, rfl⟩
      exact (Function.update_of_ne apart _ _).trans found
  | ack socket success member owed =>
    refine .inl ⟨?_, sendAckCallback_contents s socket success found⟩
    obtain ⟨heap, endpoints, fault, after⟩ := sendAckCallback_eq s socket success
    rw [after]
    exact queued
  | trigger _ _ | waitAsync _ _ _ | waitSockets _ _ | read _ _ _ _ _ _ _ _ _ | announce _ _
  | forwardNone _ _ | forwardPop _ _ _ _ | forwardSkip _ _ _ _ _ _ _ | forwardHand _ _ _ _ _ _ _ _
  | forwardDone _ _ | sendNone _ _ _ | hand _ _ _ _ | handDone _ _ =>
    exact .inl ⟨queued, f, found, rfl, rfl⟩

end H9d.Bus
