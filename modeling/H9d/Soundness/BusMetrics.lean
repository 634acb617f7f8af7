import H9d.Model.BusMetrics
import H9d.Soundness.SendPromise
import H9d.Soundness.SequenceNumbers

/-! # The counters of the bus account for its frames

Between two steps the counters by type and by endpoint add up to the totals, and each total is the number
of the frames that went the way it stands for. When the bus thread sleeps nothing is on the way, so what an
endpoint was given is what was sent and what the other endpoints read.
-/

namespace H9d.Bus

open Machine LabeledMachine Tally

variable {c : Config} {s t : Counted} {e : Event}

theorem Counted.of_step? (step : (countingMachine c).step? s e = some t) :
    (machine c).step? s.state e = some t.state ∧ s.metrics.count c s.state e = some t.metrics := by
  obtain ⟨state, taken, counted⟩ := Option.bind_eq_some_iff.mp step
  obtain ⟨metrics, count, same⟩ := Option.bind_eq_some_iff.mp counted
  cases same
  exact ⟨taken, count⟩

/-! ## What is read is read from an endpoint -/

theorem recv_unread {s t : State} {id : FrameId} {frame : Option H9Frame} {more : Bool}
    (step : step? c s (.recv id frame more) = some t) : t.phase.unread ⊆ s.phase.unread := by
  simp only [step?] at step
  split at step
  · next socket rest phase =>
    obtain ⟨-, step⟩ := Option.ite_none_right_eq_some.mp step
    cases step
    have next : (if more then socket :: rest else rest) ⊆ socket :: rest := by
      split
      · exact List.Subset.refl _
      · exact List.subset_cons_self _ _
    rw [phase]
    cases frame with
    | none => exact List.subset_cons_self _ _
    | some frame =>
      dsimp only [recv]
      split
      · dsimp only
        split <;> exact next
      · exact next
  · cases step
    exact List.nil_subset _
  · cases step

theorem Step.unread {s t : State} (step : (machine c).step? s e = some t)
    (known : s.phase.unread ⊆ c.sockets) : t.phase.unread ⊆ c.sockets := by
  obtain ⟨noFault, inverted⟩ := Step.of_step? step
  cases inverted with
  | push _ _ _ _ _ | trigger _ _ => exact known
  | waitSockets sockets asleep => exact List.filter_subset_self _
  | read _ _ _ _ _ _ _ _ _ | readForward _ _ _ _ _ _ _ _ =>
    have step : step? c s _ = some _ := (if_pos noFault).symm.trans step
    exact List.Subset.trans (recv_unread step) known
  | announce sockets phase =>
    rw [phase] at known
    exact known
  | ack socket success member owed =>
    obtain ⟨_, _, _, same⟩ := sendAckCallback_eq s socket success
    rw [same]
    exact known
  | sendNone ret phase empty => cases ret <;> exact List.nil_subset _
  | _ => exact List.nil_subset _

/-! ## What a step counts -/

/-- What the counters are about. -/
@[ext] structure Ledger where
  handed : Socket → List FrameId
  stamped : List Stamped
  forwardQueue : List FrameId
  queuedForeign : List FrameId

def State.ledger (s : State) : Ledger where
  handed socket := (s.endpoints socket).handed
  stamped := s.stamped
  forwardQueue := s.forwardQueue
  queuedForeign := s.queuedForeign

def Ledger.give (l : Ledger) (socket : Socket) (id : FrameId) : Ledger :=
  { l with handed := Function.update l.handed socket (l.handed socket ++ [id]) }

/-- One constructor for each counter that a step can move. -/
inductive Accounted (c : Config) (s t : Counted) : Event → Prop
  | quiet {e : Event} (metrics : t.metrics = s.metrics) (ledger : t.state.ledger = s.state.ledger) :
      Accounted c s t e
  | dropped {id : FrameId} {frame : H9Frame} {more : Bool} (socket : Socket) (rest : List Socket)
      (phase : s.state.phase = .receiving (socket :: rest))
      (off : c.forwarding = false) (metrics : s.metrics.received socket frame.type = some t.metrics)
      (ledger : t.state.ledger = s.state.ledger) : Accounted c s t (.recv id (some frame) more)
  | queued {id : FrameId} {frame : H9Frame} {more : Bool} (socket : Socket) (rest : List Socket)
      (phase : s.state.phase = .receiving (socket :: rest))
      (on : c.forwarding = true) (metrics : s.metrics.received socket frame.type = some t.metrics)
      (ledger : t.state.ledger = { s.state.ledger with
        forwardQueue := s.state.forwardQueue ++ [id], queuedForeign := s.state.queuedForeign ++ [id] })
      (kind : t.state.kind id = some (false, frame.origin)) : Accounted c s t (.recv id (some frame) more)
  | popped {e : Event} (id : FrameId) (queue : List FrameId) (front : s.state.forwardQueue = id :: queue)
      (metrics : t.metrics = s.metrics.forwarded)
      (ledger : t.state.ledger = { s.state.ledger with forwardQueue := queue }) : Accounted c s t e
  | sent {e : Event} (st : Stamped) (metrics : s.metrics.sent st.frame.type = some t.metrics)
      (ledger : t.state.ledger = { s.state.ledger with stamped := s.state.stamped ++ [st] }) : Accounted c s t e
  | given {e : Event} (id : FrameId) (socket : Socket) (metrics : t.metrics = s.metrics.given socket)
      (ledger : t.state.ledger = s.state.ledger.give socket id) : Accounted c s t e

theorem ledger_sendFrame (s : State) (socket : Socket) (id : FrameId) :
    (s.sendFrame socket id).ledger = s.ledger.give socket id := by
  apply Ledger.ext
  · funext k
    rcases eq_or_ne k socket with rfl | apart
    · simp only [State.ledger, Ledger.give, Function.update_self, sendFrame_handed_self]
    · simp only [State.ledger, Ledger.give, Function.update_of_ne apart, sendFrame_other s socket id apart]
  · rfl
  · rfl
  · rfl

theorem ledger_sendAckCallback (s : State) (socket : Socket) (success : Bool) :
    (s.sendAckCallback socket success).ledger = s.ledger := by
  have handed := sendAckCallback_handed s socket success
  obtain ⟨_, _, _, same⟩ := sendAckCallback_eq s socket success
  rw [same] at handed ⊢
  apply Ledger.ext
  · exact funext handed
  · rfl
  · rfl
  · rfl

theorem Counted.accounted (step : (countingMachine c).step? s e = some t) : Accounted c s t e := by
  obtain ⟨stepped, counted⟩ := Counted.of_step? step
  obtain ⟨noFault, inverted⟩ := Step.of_step? stepped
  obtain ⟨state, metrics⟩ := t
  cases inverted with
  | push _ _ _ _ _ | trigger _ _ | waitAsync _ _ _ | waitSockets _ _ | announce _ _ =>
    exact .quiet (Option.some.inj counted).symm rfl
  | read id frame more sockets next phase dropped after quiet =>
    simp only [Metrics.count, phase] at counted
    cases sockets with
    | nil => exact .quiet (Option.some.inj counted).symm rfl
    | cons socket rest =>
      cases frame with
      | none => exact .quiet (Option.some.inj counted).symm rfl
      | some frame =>
        exact .dropped socket rest phase ((dropped rfl).resolve_right (List.cons_ne_nil _ _)) counted rfl
  | readForward id frame more sockets next phase free on =>
    cases sockets with
    | nil =>
      have step : step? c s.state (.recv id (some frame) more) = some _ := (if_pos noFault).symm.trans stepped
      simp only [step?, phase, Option.some.injEq] at step
      have after := congrArg State.phase step
      dsimp only at after
      split at after <;> cases after
    | cons socket rest =>
      simp only [Metrics.count, phase] at counted
      refine .queued socket rest phase on counted rfl ?_
      change ((s.state.writeFrame id (BusFrame.make frame false)).kind) id = _
      rw [kind_writeFrame, Function.update_self]
      rfl
  | forwardNone phase empty =>
    simp only [Metrics.count] at counted
    split at counted
    · next on =>
      rw [empty on] at counted
      exact .quiet (Option.some.inj counted).symm rfl
    · exact .quiet (Option.some.inj counted).symm rfl
  | forwardPop id queue phase front =>
    have on : c.forwarding = true := by
      have step : step? c s.state .forward = some _ := (if_pos noFault).symm.trans stepped
      simp only [step?, if_pos phase, Option.some.injEq] at step
      have after := congrArg State.phase step
      by_contra off
      rw [forward, if_neg off] at after
      cases after
    simp only [Metrics.count, front, if_pos on] at counted
    exact .popped id queue front (Option.some.inj counted).symm rfl
  | forwardSkip id f socket rest phase found skip =>
    simp only [Metrics.count, phase, found, Option.map_some, Option.some.injEq] at counted
    refine .quiet (counted.symm.trans ?_) rfl
    rcases skip with same | isLocal
    · exact if_pos (beq_iff_eq.mpr same)
    · rw [if_pos isLocal, ite_self]
  | forwardHand id f socket rest phase found addressed foreign =>
    simp only [Metrics.count, phase, found, Option.map_some, Option.some.injEq, foreign] at counted
    rw [if_neg (fun same => addressed (beq_iff_eq.mp same)), if_neg Bool.false_ne_true] at counted
    exact .given id socket counted.symm (ledger_sendFrame _ socket id)
  | sendNone ret phase empty =>
    simp only [Metrics.count, empty] at counted
    exact .quiet (Option.some.inj counted).symm rfl
  | sendPop ret id queue f phase front found =>
    simp only [Metrics.count, front, found, Option.bind_some] at counted
    exact .sent ⟨id, f.raw, _⟩ counted rfl
  | hand id socket rest phase =>
    simp only [Metrics.count, phase] at counted
    exact .given id socket (Option.some.inj counted).symm (ledger_sendFrame _ socket id)
  | forwardDone id phase | handDone id phase =>
    simp only [Metrics.count, phase] at counted
    exact .quiet (Option.some.inj counted).symm rfl
  | ack socket success member owed =>
    exact .quiet (Option.some.inj counted).symm (ledger_sendAckCallback _ _ _)

/-! ## The books -/

section Counters

variable {m next : Metrics} {socket : Socket} {type : H9Frame.FrameType}

theorem countType_sum {counters after : CountersByType} (counted : countType counters type = some after) :
    ∑ i, after i = ∑ i, counters i + 1 := by
  obtain ⟨inside, ⟨⟩⟩ := Option.dite_none_right_eq_some.mp counted
  exact sum_bump counters _

theorem Metrics.received_eq (received : m.received socket type = some next) :
    ∃ byType, ∑ i, byType i = ∑ i, m.receivedFramesCounterByType i + 1 ∧
      next = { m with
        receivedFramesCounter := m.receivedFramesCounter + 1
        receivedFramesCounterByType := byType
        endpointReceived := bump m.endpointReceived socket } := by
  obtain ⟨byType, counted, rfl⟩ := Option.map_eq_some_iff.mp received
  exact ⟨byType, countType_sum counted, rfl⟩

theorem Metrics.sent_eq (sent : m.sent type = some next) :
    ∃ byType, ∑ i, byType i = ∑ i, m.sentFramesCounterByType i + 1 ∧
      next = { m with
        sentFramesCounter := m.sentFramesCounter + 1
        sentFramesCounterByType := byType } := by
  obtain ⟨byType, counted, rfl⟩ := Option.map_eq_some_iff.mp sent
  exact ⟨byType, countType_sum counted, rfl⟩

end Counters

/-- The counters add up, and each total counts the frames of a list. -/
structure Balanced (c : Config) (l : Ledger) (m : Metrics) : Prop where
  sentByType : ∑ i, m.sentFramesCounterByType i = m.sentFramesCounter
  receivedByType : ∑ i, m.receivedFramesCounterByType i = m.receivedFramesCounter
  receivedByEndpoint : (c.sockets.map m.endpointReceived).sum = m.receivedFramesCounter
  sent : m.sentFramesCounter = l.stamped.length
  given : ∀ socket, m.endpointSent socket = (l.handed socket).length
  forwarded : m.forwardFramesCounter + l.forwardQueue.length = l.queuedForeign.length
  queued : c.forwarding = true → m.receivedFramesCounter = l.queuedForeign.length
  off : c.forwarding = false → l.queuedForeign = []

theorem balanced_initial (c : Config) : Balanced c initial.ledger .zero where
  sentByType := Finset.sum_const_zero
  receivedByType := Finset.sum_const_zero
  receivedByEndpoint := List.sum_eq_zero fun _ member => by
    obtain ⟨_, -, rfl⟩ := List.mem_map.mp member
    rfl
  sent := rfl
  given _ := rfl
  forwarded := rfl
  queued _ := rfl
  off _ := rfl

section Balanced

variable {l : Ledger} {m next : Metrics} (balanced : Balanced c l m)

include balanced

/-- A frame is read, and dropped or queued. -/
theorem Balanced.received {socket : Socket} {type : H9Frame.FrameType} (member : socket ∈ c.sockets)
    (received : m.received socket type = some next) (ids : List FrameId)
    (queued : ids.length = if c.forwarding then 1 else 0) :
    Balanced c { l with forwardQueue := l.forwardQueue ++ ids, queuedForeign := l.queuedForeign ++ ids } next := by
  obtain ⟨byType, sum, rfl⟩ := Metrics.received_eq received
  refine ⟨balanced.sentByType, ?_, ?_, balanced.sent, balanced.given, ?_, fun on => ?_, fun off => ?_⟩
  · rw [sum, balanced.receivedByType]
  · rw [sum_map_bump _ c.nodup, balanced.receivedByEndpoint, if_pos member]
  · rw [List.length_append, List.length_append, Nat.cast_add, Nat.cast_add, ← add_assoc, balanced.forwarded]
  · rw [balanced.queued on, List.length_append, queued, if_pos on, Nat.cast_add, Nat.cast_one]
  · rw [off] at queued
    have nothing : ids = [] := List.eq_nil_of_length_eq_zero queued
    change l.queuedForeign ++ ids = []
    rw [balanced.off off, nothing]
    rfl

theorem Balanced.popped {id : FrameId} {queue : List FrameId} (front : l.forwardQueue = id :: queue) :
    Balanced c { l with forwardQueue := queue } m.forwarded := by
  refine { balanced with forwarded := ?_ }
  have forwarded := balanced.forwarded
  rw [front, List.length_cons, Nat.cast_succ, add_comm (queue.length : CounterValue), ← add_assoc] at forwarded
  exact forwarded

theorem Balanced.sendOne {st : Stamped} (sent : m.sent st.frame.type = some next) :
    Balanced c { l with stamped := l.stamped ++ [st] } next := by
  obtain ⟨byType, sum, rfl⟩ := Metrics.sent_eq sent
  refine { balanced with sentByType := ?_, sent := ?_ }
  · rw [sum, balanced.sentByType]
  · rw [List.length_append, Nat.cast_add, balanced.sent]
    rfl

theorem Balanced.give (socket : Socket) (id : FrameId) : Balanced c (l.give socket id) (m.given socket) := by
  refine { balanced with given := fun k => ?_ }
  rcases eq_or_ne k socket with rfl | apart
  · simp [Metrics.given, Ledger.give, balanced.given k]
  · simp [Metrics.given, Ledger.give, apart, balanced.given k]

end Balanced

theorem Balanced.accounted (balanced : Balanced c s.state.ledger s.metrics)
    (known : s.state.phase.unread ⊆ c.sockets) (accounted : Accounted c s t e) :
    Balanced c t.state.ledger t.metrics := by
  cases accounted with
  | quiet metrics ledger =>
    rw [metrics, ledger]
    exact balanced
  | dropped socket rest phase off metrics ledger =>
    rw [phase] at known
    have read := balanced.received (known List.mem_cons_self) metrics [] (by rw [off]; rfl)
    rw [List.append_nil, List.append_nil] at read
    rw [ledger]
    exact read
  | queued socket rest phase on metrics ledger kind =>
    rw [phase] at known
    rw [ledger]
    exact balanced.received (known List.mem_cons_self) metrics [_] (by rw [on]; rfl)
  | popped id queue front metrics ledger =>
    rw [metrics, ledger]
    exact balanced.popped front
  | sent st metrics ledger =>
    rw [ledger]
    exact balanced.sendOne metrics
  | given id socket metrics ledger =>
    rw [metrics, ledger]
    exact balanced.give socket id

/-! ## Whose frames were read -/

theorem Step.kept {s t : State} (step : Step c s e t) : Kept s t := by
  have same (kind : t.kind = s.kind) : Kept s t := fun id _ => congrFun kind id
  cases step with
  | push thread id frame raw free => exact kept_of_fresh free _ (kind_writeFrame _ _ _)
  | readForward id frame more sockets next phase free on => exact kept_of_fresh free _ (kind_writeFrame _ _ _)
  | sendPop ret id queue f phase front found =>
    exact same (kind_writeFrame_of_found found _ rfl (stamp_origin ..))
  | ack socket success member owed => exact same (sendAckCallback_kind s socket success)
  | _ => exact same rfl

/-- With forwarding on an endpoint has counted the received frames that are not handed back to it. -/
def Returned (c : Config) (s : Counted) : Prop :=
  c.forwarding = true → ∀ socket ∈ c.sockets, s.metrics.endpointReceived socket =
    (s.state.queuedForeign.filter fun id => !s.state.addressed c socket id).length

theorem Metrics.received_endpoint {m next : Metrics} {socket : Socket} {type : H9Frame.FrameType}
    (received : m.received socket type = some next) (k : Socket) :
    next.endpointReceived k = m.endpointReceived k + if k = socket then 1 else 0 := by
  obtain ⟨byType, -, rfl⟩ := Metrics.received_eq received
  exact bump_apply _ _ _

theorem Returned.step (distinct : ∀ k ∈ c.sockets, ∀ k' ∈ c.sockets, c.name k = c.name k' → k = k')
    (returned : Returned c s) (known : s.state.phase.unread ⊆ c.sockets) (d : Delivery c s.state)
    (wellFormed : WellFormed c s.state e) (kept : Kept s.state t.state) (accounted : Accounted c s t e) :
    Returned c t := by
  intro on k member
  have before := returned on k member
  -- the frames that were there are handed to the same endpoints as before
  have old : (s.state.queuedForeign.filter fun id => !t.state.addressed c k id) =
      s.state.queuedForeign.filter fun id => !s.state.addressed c k id :=
    List.filter_congr fun id among => by
      rw [State.addressed, State.addressed, kept id (d.known_foreign id among)]
  have unchanged (metrics : t.metrics.endpointReceived = s.metrics.endpointReceived)
      (foreign : t.state.queuedForeign = s.state.queuedForeign) : t.metrics.endpointReceived k =
        (t.state.queuedForeign.filter fun id => !t.state.addressed c k id).length := by
    rw [metrics, foreign, old]
    exact before
  have foreign {l : Ledger} (ledger : t.state.ledger = l) : t.state.queuedForeign = l.queuedForeign :=
    congrArg Ledger.queuedForeign ledger
  cases accounted with
  | quiet metrics ledger => exact unchanged (by rw [metrics]) (foreign ledger)
  | dropped socket rest phase off metrics ledger =>
    rw [off] at on
    cases on
  | @queued id frame more socket rest phase on metrics ledger kind =>
    rw [phase] at known
    have origin : frame.origin = c.name socket := wellFormed.2 socket (by rw [phase]; rfl)
    have here : (!t.state.addressed c k id) = decide (k = socket) := by
      rw [State.addressed, kind, Option.any_some, origin]
      rcases eq_or_ne k socket with rfl | apart
      · simp
      · have other : c.name socket ≠ c.name k := fun same =>
          apart (distinct socket (known List.mem_cons_self) k member same).symm
        simp [apart, other]
    rw [Metrics.received_endpoint metrics, before, foreign ledger, List.filter_append, old, List.length_append,
      Nat.cast_add, List.filter_singleton, here]
    rcases eq_or_ne k socket with rfl | apart <;> simp [*]
  | popped id queue front metrics ledger => exact unchanged (by rw [metrics]; rfl) (foreign ledger)
  | sent st metrics ledger =>
    obtain ⟨byType, -, same⟩ := Metrics.sent_eq metrics
    exact unchanged (by rw [same]) (foreign ledger)
  | given id socket metrics ledger => exact unchanged (by rw [metrics]; rfl) (foreign ledger)

/-! ## Every run is counted -/

/-- The frames on the bus have one of the types. -/
def Typed (s : State) : Prop := ∀ id f, s.heap id = some f → f.type.toNat < BusCounters.numberOfFrameTypes

theorem Typed.write {s : State} (typed : Typed s) (id : FrameId) {f : BusFrame}
    (type : f.type.toNat < BusCounters.numberOfFrameTypes) : Typed (s.writeFrame id f) := by
  intro other g found
  change Function.update s.heap id (some f) other = some g at found
  rcases eq_or_ne other id with rfl | apart
  · rw [Function.update_self] at found
    obtain rfl := Option.some.inj found
    exact type
  · rw [Function.update_of_ne apart] at found
    exact typed other g found

theorem Typed.step {s t : State} (typed : Typed s) (wellFormed : WellFormed c s e) (step : Step c s e t) :
    Typed t := by
  cases step with
  | push thread id frame raw free => exact typed.write id wellFormed
  | readForward id frame more sockets next phase free on => exact typed.write id wellFormed.1
  | sendPop ret id queue f phase front found =>
    refine typed.write id ?_
    rw [(stamp_kept ..).1]
    exact typed id f found
  | ack socket success member owed =>
    intro id g found
    have known : (s.kind id).isSome = true := by
      rw [← sendAckCallback_kind s socket success, State.kind, found]
      rfl
    obtain ⟨f, before, -⟩ := Option.map_eq_some_iff.mp (Option.eq_some_of_isSome known)
    obtain ⟨g', after, -, same⟩ := sendAckCallback_contents s socket success before
    obtain rfl := Option.some.inj (after.symm.trans found)
    rw [same]
    exact typed id f before
  | _ => exact typed

theorem countType_isSome {counters : CountersByType} {type : H9Frame.FrameType}
    (inside : type.toNat < BusCounters.numberOfFrameTypes) : ∃ after, countType counters type = some after :=
  ⟨_, dif_pos inside⟩

theorem Typed.counted {s t : State} (typed : Typed s) (m : Metrics) (wellFormed : WellFormed c s e)
    (step : Step c s e t) : ∃ next, m.count c s e = some next := by
  have received (socket : Socket) {type : H9Frame.FrameType}
      (inside : type.toNat < BusCounters.numberOfFrameTypes) : ∃ next, m.received socket type = some next := by
    obtain ⟨after, counted⟩ := @countType_isSome m.receivedFramesCounterByType type inside
    exact ⟨_, Option.map_eq_some_iff.mpr ⟨after, counted, rfl⟩⟩
  have recv (id : FrameId) (frame : Option H9Frame) (more : Bool)
      (wellFormed : WellFormed c s (.recv id frame more)) : ∃ next, m.count c s (.recv id frame more) = some next := by
    simp only [Metrics.count]
    split
    · exact received _ wellFormed.1
    · exact ⟨m, rfl⟩
  cases step with
  | read id frame more _ _ _ _ _ _ => exact recv id frame more wellFormed
  | readForward id frame more _ _ _ _ _ => exact recv id (some frame) more wellFormed
  | forwardNone _ _ | forwardPop _ _ _ _ =>
    simp only [Metrics.count]
    split
    · split <;> exact ⟨_, rfl⟩
    · exact ⟨_, rfl⟩
  | forwardSkip id f socket rest phase found _ | forwardHand id f socket rest phase found _ _ =>
    simp only [Metrics.count, phase, found]
    exact ⟨_, rfl⟩
  | forwardDone id phase | handDone id phase | hand id _ _ phase =>
    simp only [Metrics.count, phase]
    exact ⟨_, rfl⟩
  | sendNone ret phase empty =>
    simp only [Metrics.count, empty]
    exact ⟨_, rfl⟩
  | sendPop ret id queue f phase front found =>
    have inside : (stamp c.busId s.nextSeqnum f.raw f.toH9Frame).1.type.toNat < BusCounters.numberOfFrameTypes := by
      rw [(stamp_kept ..).1]
      exact typed id f found
    obtain ⟨after, counted⟩ := @countType_isSome m.sentFramesCounterByType _ inside
    simp only [Metrics.count, front, found, Option.bind_some]
    exact ⟨_, Option.map_eq_some_iff.mpr ⟨after, counted, rfl⟩⟩
  | _ => exact ⟨m, rfl⟩

/-- What holds of a counted bus between two steps. -/
structure Audited (c : Config) (s : Counted) : Prop where
  reachable : (machine c).Reachable s.state
  typed : Typed s.state
  unread : s.state.phase.unread ⊆ c.sockets
  balanced : Balanced c s.state.ledger s.metrics
  returned : Returned c s

theorem audited_initial (c : Config) : Audited c ⟨initial, .zero⟩ where
  reachable := .of_initial rfl
  typed _ _ found := nomatch found
  unread := List.nil_subset _
  balanced := balanced_initial c
  returned _ _ _ := rfl

/-- The counting machine follows every well-formed run of the bus. -/
theorem Audited.run (distinct : ∀ k ∈ c.sockets, ∀ k' ∈ c.sockets, c.name k = c.name k' → k = k')
    (audited : Audited c s) {es : List Event} {state : State}
    (wellFormed : (machine c).AllSteps (WellFormed c) s.state es)
    (run : (machine c).run? s.state es = some state) :
    ∃ metrics, (countingMachine c).run? s es = some ⟨state, metrics⟩ ∧ Audited c ⟨state, metrics⟩ := by
  induction es generalizing s with
  | nil =>
    cases run
    exact ⟨s.metrics, rfl, audited⟩
  | cons e es ih =>
    obtain ⟨next, step, rest⟩ := run?_cons_eq_some.mp run
    obtain ⟨here, later⟩ := wellFormed
    rw [step] at later
    obtain ⟨-, inverted⟩ := Step.of_step? step
    obtain ⟨metrics, counted⟩ := audited.typed.counted s.metrics here inverted
    have counting : (countingMachine c).step? s e = some ⟨next, metrics⟩ := by
      change ((machine c).step? s.state e).bind _ = _
      rw [step, Option.bind_some, counted]
      rfl
    have accounted := Counted.accounted counting
    obtain ⟨metrics', ran, audited⟩ := @ih ⟨next, metrics⟩
      { reachable := audited.reachable.run ((run?_singleton _ _).trans step)
        typed := audited.typed.step here inverted
        unread := Step.unread step audited.unread
        balanced := audited.balanced.accounted audited.unread accounted
        returned := audited.returned.step distinct audited.unread (reachable_delivery audited.reachable) here
          inverted.kept accounted } later rest
    exact ⟨metrics', run?_cons_eq_some.mpr ⟨_, counting, ran⟩, audited⟩

section Asleep

variable (audited : Audited c s) (asleep : ¬s.state.Awake)

include audited asleep

theorem Audited.queues_empty : s.state.sendQueue = [] ∧ s.state.forwardQueue = [] := by
  constructor
  · by_contra waiting
    exact asleep (reachable_awake audited.reachable (.inl waiting))
  · by_contra waiting
    exact asleep (reachable_awake audited.reachable (.inr waiting))

/-- Nothing is on the way to an endpoint. -/
theorem Audited.handed {socket : Socket} (member : socket ∈ c.sockets) :
    (s.state.endpoints socket).handed.length = s.state.stamped.length +
      (s.state.queuedForeign.filter (s.state.addressed c socket)).length := by
  have d := reachable_delivery audited.reachable
  obtain ⟨noSend, noForward⟩ := audited.queues_empty asleep
  have idle : s.state.phase.draining = false :=
    Bool.eq_false_iff.mpr fun draining => asleep (.inr (.inl draining))
  obtain ⟨noLocal, noForeign⟩ := inHand_of_not_draining idle socket
  have sent := d.sent socket member
  have forwarded := d.forwarded socket member
  have history := (reachable_accounting audited.reachable).history
  rw [noLocal, noSend, List.append_nil, List.append_nil] at sent
  rw [noForeign, noForward, List.append_nil, List.filter_nil, List.append_nil] at forwarded
  rw [noSend, List.append_nil] at history
  have parts := List.length_eq_length_filter_add s.state.isLocal (l := (s.state.endpoints socket).handed)
  rw [sent, forwarded, ← history, List.length_map] at parts
  exact parts

/-- What an endpoint was given and what it has read are what was sent and what was forwarded. -/
theorem Audited.endpoint {socket : Socket} (member : socket ∈ c.sockets) :
    s.metrics.endpointSent socket + (if c.forwarding then s.metrics.endpointReceived socket else 0) =
      s.metrics.sentFramesCounter + s.metrics.forwardFramesCounter := by
  obtain ⟨noSend, noForward⟩ := audited.queues_empty asleep
  have forwarded := audited.balanced.forwarded
  have given := audited.balanced.given socket
  have sent := audited.balanced.sent
  simp only [State.ledger] at forwarded given sent
  rw [noForward, List.length_nil, Nat.cast_zero, add_zero] at forwarded
  rw [given, sent, forwarded, audited.handed asleep member, Nat.cast_add, add_assoc]
  congr 1
  cases on : c.forwarding with
  | false =>
    have nothing : s.state.queuedForeign = [] := audited.balanced.off on
    rw [nothing]
    rfl
  | true =>
    rw [if_pos rfl, audited.returned on socket member, ← Nat.cast_add]
    congr 1
    exact (List.length_eq_length_filter_add _).symm

end Asleep

/-- The counters of the bus and of its endpoints balance. In every run, at each step, the counters by type and
by endpoint add up to the totals; and while the bus thread sleeps, what was read has been forwarded, and each
endpoint has been given what was sent and what the others read. -/
theorem counters_balance (distinct : ∀ k ∈ c.sockets, ∀ k' ∈ c.sockets, c.name k = c.name k' → k = k')
    {es : List Event} {state : State} (wellFormed : (machine c).AllSteps (WellFormed c) initial es)
    (run : (machine c).run? initial es = some state) :
    ∃ m, (countingMachine c).run? ⟨initial, .zero⟩ es = some ⟨state, m⟩ ∧
      ∑ i, m.sentFramesCounterByType i = m.sentFramesCounter ∧
      ∑ i, m.receivedFramesCounterByType i = m.receivedFramesCounter ∧
      (c.sockets.map m.endpointReceived).sum = m.receivedFramesCounter ∧
      (¬state.Awake → m.forwardFramesCounter = (if c.forwarding then m.receivedFramesCounter else 0) ∧
        ∀ socket ∈ c.sockets,
          m.endpointSent socket + (if c.forwarding then m.endpointReceived socket else 0) =
            m.sentFramesCounter + m.forwardFramesCounter) := by
  obtain ⟨m, ran, audited⟩ := (audited_initial c).run distinct wellFormed run
  have balanced := audited.balanced
  refine ⟨m, ran, balanced.sentByType, balanced.receivedByType, balanced.receivedByEndpoint, fun asleep =>
    ⟨?_, fun socket member => audited.endpoint asleep member⟩⟩
  have forwarded := balanced.forwarded
  simp only [State.ledger] at forwarded
  rw [(audited.queues_empty asleep).2, List.length_nil, Nat.cast_zero, add_zero] at forwarded
  cases on : c.forwarding with
  | false =>
    rw [forwarded, show state.queuedForeign = [] from balanced.off on]
    rfl
  | true =>
    rw [forwarded, if_pos rfl]
    exact (balanced.queued on).symm

/-- A local frame, and one that the first endpoint reads. -/
def relayed : List Event :=
  [.push 0 0 { (default : H9Frame) with type := H9Frame.FrameType.GET_REG } false, .wait false [3],
    .recv 1 (some { (default : H9Frame) with origin := "can0", type := H9Frame.FrameType.NODE_HEARTBEAT }) false,
    .announce, .recv 2 none false, .trigger 0, .wait true [], .forward, .handForward, .handForward, .handForward,
    .send, .hand, .hand, .hand, .forward, .send]

theorem counters_balance_relayed : ∃ state m,
    (countingMachine twoEndpoints).run? ⟨initial, .zero⟩ relayed = some ⟨state, m⟩ ∧ ¬state.Awake ∧
      m.endpointSent 3 + m.endpointReceived 3 = m.sentFramesCounter + m.forwardFramesCounter ∧
      m.endpointSent 4 + m.endpointReceived 4 = m.sentFramesCounter + m.forwardFramesCounter := by
  have done : ((machine twoEndpoints).run? initial relayed).any
      (fun s => !s.asyncPending && s.phase == .waiting && s.announcing == []) = true := by
    decide +kernel
  obtain ⟨state, run, checked⟩ := (Option.any_eq_true _ _).mp done
  simp only [Bool.and_eq_true, Bool.not_eq_true', beq_iff_eq] at checked
  obtain ⟨⟨pending, phase⟩, announcing⟩ := checked
  have asleep : ¬state.Awake := by
    rintro (awake | awake | awake | ⟨sockets, awake⟩)
    · rw [pending] at awake
      cases awake
    · rw [phase] at awake
      cases awake
    · exact awake announcing
    · rw [phase] at awake
      cases awake
  have distinct : ∀ k ∈ twoEndpoints.sockets, ∀ k' ∈ twoEndpoints.sockets,
      twoEndpoints.name k = twoEndpoints.name k' → k = k' := by decide
  obtain ⟨m, ran, -, -, -, rests⟩ := counters_balance distinct (by decide +kernel) run
  obtain ⟨-, each⟩ := rests asleep
  exact ⟨state, m, ran, asleep, each 3 (by decide), each 4 (by decide)⟩

end H9d.Bus
