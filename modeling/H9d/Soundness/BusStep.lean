import H9d.Model.Bus

/-! # What one step of the bus can do

The step function is inverted once. Every invariant of the bus is proved by cases on this relation.
-/

namespace H9d.Bus

open Machine LabeledMachine

/-- One constructor for each thing a step can do, with the guards it has passed. -/
inductive Step (c : Config) (s : State) : Event → State → Prop
  | push (thread : Thread) (id : FrameId) (frame : H9Frame) (raw : Bool) (free : s.heap id = none) :
      Step c s (.push thread id frame raw) (push s thread id frame raw)
  | trigger (thread : Thread) (owed : thread ∈ s.announcing) :
      Step c s (.trigger thread) (trigger s thread)
  | waitAsync (sockets : List Socket) (asleep : s.phase = .waiting) (pending : s.asyncPending = true) :
      Step c s (.wait true sockets) { s with asyncPending := false, phase := .forward }
  | waitSockets (sockets : List Socket) (asleep : s.phase = .waiting) :
      Step c s (.wait false sockets)
        { s with phase := .receiving (c.sockets.filter (· ∈ sockets)) }
  | read (id : FrameId) (frame : Option H9Frame) (more : Bool) (sockets next : List Socket)
      (phase : s.phase = .receiving sockets)
      (dropped : frame.isSome → c.forwarding = false ∨ sockets = []) (after : Phase)
      (quiet : after = .waiting ∨ after = .receiving next) :
      Step c s (.recv id frame more) { s with phase := after }
  | readForward (id : FrameId) (frame : H9Frame) (more : Bool) (sockets next : List Socket)
      (phase : s.phase = .receiving sockets) (free : s.heap id = none) (on : c.forwarding = true) :
      Step c s (.recv id (some frame) more)
        { s.writeFrame id (BusFrame.make frame false) with
          forwardQueue := s.forwardQueue ++ [id]
          phase := if s.forwardQueue = [] then .announcing next else .receiving next
          queuedForeign := s.queuedForeign ++ [id] }
  | announce (sockets : List Socket) (phase : s.phase = .announcing sockets) :
      Step c s .announce { s with asyncPending := true, phase := .receiving sockets }
  | forwardNone (phase : s.phase = .forward) (empty : c.forwarding = true → s.forwardQueue = []) :
      Step c s .forward { s with phase := .send false }
  | forwardPop (id : FrameId) (queue : List FrameId) (phase : s.phase = .forward)
      (front : s.forwardQueue = id :: queue) :
      Step c s .forward { s with forwardQueue := queue, phase := .forwarding id c.sockets }
  | forwardSkip (id : FrameId) (f : BusFrame) (socket : Socket) (rest : List Socket)
      (phase : s.phase = .forwarding id (socket :: rest)) (found : s.heap id = some f)
      (skip : c.name socket = f.origin ∨ f.localFrame = true) :
      Step c s .handForward { s with phase := .forwarding id rest }
  | forwardHand (id : FrameId) (f : BusFrame) (socket : Socket) (rest : List Socket)
      (phase : s.phase = .forwarding id (socket :: rest)) (found : s.heap id = some f)
      (addressed : c.name socket ≠ f.origin) (foreign : f.localFrame = false) :
      Step c s .handForward ({ s with phase := .forwarding id rest }.sendFrame socket id)
  | forwardDone (id : FrameId) (phase : s.phase = .forwarding id []) :
      Step c s .handForward { s with phase := .send true }
  | sendNone (ret : Bool) (phase : s.phase = .send ret) (empty : s.sendQueue = []) :
      Step c s .send { s with phase := if ret then .forward else .waiting }
  | sendPop (ret : Bool) (id : FrameId) (queue : List FrameId) (f : BusFrame)
      (phase : s.phase = .send ret) (front : s.sendQueue = id :: queue) (found : s.heap id = some f) :
      Step c s .send
        { s.writeFrame id { f.activateSendFinishPromise c.sockets.length with
            toH9Frame := (stamp c.busId s.nextSeqnum f.raw f.toH9Frame).1 } with
          sendQueue := queue
          nextSeqnum := (stamp c.busId s.nextSeqnum f.raw f.toH9Frame).2
          phase := .sending id c.sockets
          stamped := s.stamped ++ [⟨id, f.raw, (stamp c.busId s.nextSeqnum f.raw f.toH9Frame).1⟩] }
  | hand (id : FrameId) (socket : Socket) (rest : List Socket)
      (phase : s.phase = .sending id (socket :: rest)) :
      Step c s .hand ({ s with phase := .sending id rest }.sendFrame socket id)
  | handDone (id : FrameId) (phase : s.phase = .sending id []) :
      Step c s .hand { s with phase := .forward }
  | ack (socket : Socket) (success : Bool) (member : socket ∈ c.sockets)
      (owed : (s.endpoints socket).outcomes.length < (s.endpoints socket).handed.length) :
      Step c s (.ack socket success) (s.sendAckCallback socket success)

variable {c : Config} {s t : State} {e : Event}

theorem Step.of_step? (step : (machine c).step? s e = some t) : s.fault = none ∧ Step c s e t := by
  change (if s.fault = none then step? c s e else none) = some t at step
  obtain ⟨noFault, step⟩ := Option.ite_none_right_eq_some.mp step
  refine ⟨noFault, ?_⟩
  cases e with
  | push thread id frame raw =>
    simp only [step?, Option.ite_none_right_eq_some, Option.some.injEq,
      Option.isNone_iff_eq_none] at step
    obtain ⟨⟨free, -⟩, rfl⟩ := step
    exact .push thread id frame raw free
  | trigger thread =>
    simp only [step?, Option.ite_none_right_eq_some, Option.some.injEq] at step
    obtain ⟨owed, rfl⟩ := step
    exact .trigger thread owed
  | wait async sockets =>
    simp only [step?, Option.ite_none_right_eq_some, Option.some.injEq] at step
    obtain ⟨⟨asleep, pending, -⟩, rfl⟩ := step
    cases async with
    | true => exact .waitAsync sockets asleep (pending rfl)
    | false => exact .waitSockets sockets asleep
  | recv id frame more =>
    simp only [step?] at step
    split at step
    · next socket rest phase =>
      simp only [Option.ite_none_right_eq_some, Option.some.injEq,
        Option.isNone_iff_eq_none] at step
      obtain ⟨free, rfl⟩ := step
      unfold recv
      cases frame with
      | none => exact .read id none more _ rest phase nofun _ (.inr rfl)
      | some frame =>
        dsimp only
        split
        · next on => exact .readForward id frame more _ _ phase free on
        · next off =>
          exact .read id (some frame) more _ _ phase (fun _ => .inl (Bool.not_eq_true _ ▸ off)) _
            (.inr rfl)
    · next phase =>
      cases step
      exact .read id frame more _ [] phase (fun _ => .inr rfl) _ (.inl rfl)
    · cases step
  | announce =>
    simp only [step?] at step
    split at step
    · next sockets phase => cases step; exact .announce sockets phase
    · cases step
  | forward =>
    simp only [step?, Option.ite_none_right_eq_some, Option.some.injEq] at step
    obtain ⟨phase, rfl⟩ := step
    unfold forward
    split
    · split
      · next empty => exact .forwardNone phase fun _ => empty
      · next id queue front => exact .forwardPop id queue phase front
    · next off => exact .forwardNone phase fun on => (off on).elim
  | handForward =>
    simp only [step?] at step
    split at step
    · next id socket rest phase =>
      obtain ⟨f, found, rfl⟩ := Option.map_eq_some_iff.mp step
      unfold handForward
      dsimp only
      split
      · next same => exact .forwardSkip id f socket rest phase found (.inl (beq_iff_eq.mp same))
      · next other =>
        split
        · next isLocal => exact .forwardSkip id f socket rest phase found (.inr isLocal)
        · next foreign =>
          exact .forwardHand id f socket rest phase found (fun same => other (beq_iff_eq.mpr same))
            (Bool.not_eq_true _ ▸ foreign)
    · next id phase => cases step; exact .forwardDone id phase
    · cases step
  | send =>
    simp only [step?] at step
    split at step
    · next ret phase =>
      unfold send at step
      split at step
      · next empty => cases step; exact .sendNone ret phase empty
      · next id queue front =>
        obtain ⟨f, found, rfl⟩ := Option.map_eq_some_iff.mp step
        exact .sendPop ret id queue f phase front found
    · cases step
  | hand =>
    simp only [step?] at step
    split at step
    · next id socket rest phase => cases step; exact .hand id socket rest phase
    · next id phase => cases step; exact .handDone id phase
    · cases step
  | ack socket success =>
    simp only [step?, Option.ite_none_right_eq_some, Option.some.injEq] at step
    obtain ⟨⟨member, owed⟩, rfl⟩ := step
    exact .ack socket success member owed

end H9d.Bus
