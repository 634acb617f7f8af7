import H9d.Model.Bridge
import H9d.Soundness.BusDelivery
import H9d.Soundness.FrameJson

/-! # Forwarding between endpoints

A driver names its endpoint as the origin of what it receives. So with distinct names the frames that
are not forwarded to an endpoint are those that were received on it. A received frame object is not
written to but for its counters, and goes out as it came in.
-/

namespace H9d

open Cxx Nlohmann Jsonrpcpp H9Frame Machine LabeledMachine

theorem H9DDriver.recvData_origin {cast : FloatCast} {name : String} {msg : Option Notification}
    {garbage f : H9Frame} (read : recvData cast name msg garbage = .ok (.recvFrame f)) : f.origin = name := by
  unfold recvData at read
  split at read
  · split at read
    · split at read
      · obtain ⟨g, decoded, made⟩ := bind_eq_ok.mp read
        cases made
        obtain ⟨data, -, rfl⟩ := fromJson_eq_ok cast decoded
        cases data <;> rfl
      · cases read
    · cases read
  · cases read

theorem BusDriver.recvData_origin {name : String} {garbage f : H9Frame} {arrival : Arrival}
    (received : recvData name garbage arrival = .ok (some f)) : f.origin = name := by
  cases arrival with
  | nothing => cases received
  | serialized buf =>
    cases received
    unfold H9Frame.deserializeBytes
    dsimp only
    split <;> rfl
  | socketCan canId dlc data =>
    cases received
    unfold H9Frame.deserialize H9Frame.setCanId
    dsimp only
    split <;> rfl
  | slcan parsed =>
    cases received
    rfl
  | h9d cast msg =>
    rw [recvData] at received
    split at received
    · next read =>
      cases received
      exact H9DDriver.recvData_origin read
    · cases received
    · cases received

namespace Bus

variable {c : Config} {s t : State} {e : Event}

theorem sendAckCallback_frame (s : State) (socket : Socket) (success : Bool) {id : FrameId} {f : BusFrame}
    (found : s.heap id = some f) :
    ∃ g, (s.sendAckCallback socket success).heap id = some g ∧ g.toH9Frame = f.toH9Frame ∧
      g.localFrame = f.localFrame := by
  unfold State.sendAckCallback
  dsimp only
  split
  · exact ⟨f, found, rfl, rfl⟩
  · next front pending _ =>
    split
    · exact ⟨f, found, rfl, rfl⟩
    · next g other =>
      split
      · next h counted =>
        obtain ⟨frame, isLocal⟩ : h.toH9Frame = g.toH9Frame ∧ h.localFrame = g.localFrame := by
          cases success with
          | true => exact ⟨(finish_frame counted).1, (finish_frame counted).2.1⟩
          | false => exact ⟨(finish_frame counted).1, (finish_frame counted).2.1⟩
        change ∃ k, Function.update s.heap front (some h) id = some k ∧ _
        by_cases same : id = front
        · subst same
          obtain rfl : g = f := Option.some.inj (other.symm.trans found)
          exact ⟨h, Function.update_self .., frame, isLocal⟩
        · exact ⟨f, by rw [Function.update_of_ne same, found], rfl, rfl⟩
      · exact ⟨f, found, rfl, rfl⟩

/-- What waits in the send queue is local. -/
theorem Delivery.localQueued (d : Delivery c s) {id : FrameId} (queued : id ∈ s.sendQueue) :
    s.isLocal id = true := by
  obtain ⟨socket, member⟩ := List.exists_mem_of_ne_nil c.sockets c.nonempty
  have known : id ∈ s.queuedLocal := by
    rw [← d.sent socket member]
    exact List.mem_append_right _ queued
  obtain ⟨origin, kind⟩ := (d.localKnown id).mp known
  rw [State.isLocal, kind, Option.any_some]

/-- A received frame object is only counted on. -/
theorem Step.foreign_frame (step : Step c s e t) (d : Delivery c s) {id : FrameId} {f : BusFrame}
    (found : s.heap id = some f) (foreign : f.localFrame = false) :
    ∃ g, t.heap id = some g ∧ g.toH9Frame = f.toH9Frame ∧ g.localFrame = false := by
  have elsewhere {other : FrameId} (apart : id ≠ other) (h : BusFrame) :
      ∃ g, Function.update s.heap other (some h) id = some g ∧ g.toH9Frame = f.toH9Frame ∧
        g.localFrame = false :=
    ⟨f, by rw [Function.update_of_ne apart, found], rfl, foreign⟩
  have fresh {other : FrameId} (free : s.heap other = none) : id ≠ other := by
    rintro rfl
    cases found.symm.trans free
  cases step with
  | push thread other frame raw free => exact elsewhere (fresh free) _
  | readForward other frame more sockets next phase free on => exact elsewhere (fresh free) _
  | sendPop ret other queue g phase front foundOther =>
    refine elsewhere ?_ _
    rintro rfl
    have isLocal := d.localQueued (front ▸ List.mem_cons_self)
    rw [State.isLocal, State.kind, found, Option.map_some, Option.any_some, foreign] at isLocal
    cases isLocal
  | ack socket success member owed =>
    obtain ⟨g, kept, frame, isLocal⟩ := sendAckCallback_frame s socket success found
    exact ⟨g, kept, frame, isLocal.trans foreign⟩
  | trigger | waitAsync | waitSockets | read | announce | forwardNone | forwardPop | forwardSkip | forwardHand
  | forwardDone | sendNone | hand | handDone => exact ⟨f, found, rfl, foreign⟩

/-- The sockets still to be read are sockets of endpoints. -/
def Reading (c : Config) (s : State) : Prop :=
  ∀ sockets, s.phase = .receiving sockets ∨ s.phase = .announcing sockets → sockets ⊆ c.sockets

/-- Outside `recv_frame` nothing is received. -/
theorem Step.reading (step : Step c s e t) (other : ∀ id frame more, e ≠ .recv id frame more)
    (reading : Reading c s) : Reading c t ∧ t.queuedForeign = s.queuedForeign := by
  cases step with
  | push | trigger => exact ⟨reading, rfl⟩
  | waitAsync | forwardNone | forwardPop | forwardSkip | forwardHand | forwardDone | sendPop | hand | handDone =>
    refine ⟨fun sockets phase => ?_, rfl⟩
    rcases phase with phase | phase <;> cases phase
  | waitSockets sockets asleep =>
    refine ⟨fun others phase => ?_, rfl⟩
    rcases phase with phase | phase
    · cases phase
      exact List.filter_subset_self _
    · cases phase
  | read id frame more => exact absurd rfl (other id frame more)
  | readForward id frame more => exact absurd rfl (other id (some frame) more)
  | announce sockets phase =>
    refine ⟨fun others same => ?_, rfl⟩
    rcases same with same | same
    · cases same
      exact reading sockets (.inr phase)
    · cases same
  | sendNone ret phase empty =>
    refine ⟨fun others same => ?_, rfl⟩
    cases ret <;> rcases same with same | same <;> cases same
  | ack socket success member owed =>
    obtain ⟨_, _, _, same⟩ := sendAckCallback_eq s socket success
    rw [same]
    exact ⟨reading, rfl⟩

end Bus

namespace Bridge

open Bus

variable {c : Config} {s t : State} {e : Event}

/-- What a step of the bus with its drivers can do. -/
inductive Step (c : Config) (s : State) : State → Prop
  | recv (id : FrameId) (frame : Option H9Frame) (more : Bool) (socket : Socket) (rest : List Socket)
      (phase : s.bus.phase = .receiving (socket :: rest)) (free : s.bus.heap id = none)
      (origin : ∀ f, frame = some f → f.origin = c.name socket) :
      Step c s ⟨Bus.recv c s.bus id frame more socket rest,
        s.received ++ (frame.map fun frame => ⟨socket, id, frame⟩).toList⟩
  | done (phase : s.bus.phase = .receiving []) : Step c s ⟨{ s.bus with phase := .waiting }, s.received⟩
  | bus (e : Bus.Event) (other : ∀ id frame more, e ≠ .recv id frame more) (bus : Bus.State)
      (step : Bus.Step c s.bus e bus) : Step c s ⟨bus, s.received⟩

theorem Step.of_step? (step : (machine c).step? s e = some t) :
    Step c s t ∧ ∃ e', (Bus.machine c).step? s.bus e' = some t.bus := by
  have recvStep {id : FrameId} {frame : Option H9Frame} {more : Bool} {bus : Bus.State}
      (stepped : (Bus.machine c).step? s.bus (.recv id frame more) = some bus) :
      Bus.step? c s.bus (.recv id frame more) = some bus :=
    (Option.ite_none_right_eq_some.mp stepped).2
  have busStep {e : Bus.Event} (other : ∀ id frame more, e ≠ .recv id frame more)
      (step : ((Bus.machine c).step? s.bus e).map (fun bus => { s with bus }) = some t) :
      Step c s t ∧ ∃ e', (Bus.machine c).step? s.bus e' = some t.bus := by
    obtain ⟨bus, stepped, rfl⟩ := Option.map_eq_some_iff.mp step
    exact ⟨.bus e other bus (Bus.Step.of_step? stepped).2, e, stepped⟩
  change step? c s e = some t at step
  cases e with
  | recv id garbage arrival more =>
    rw [step?] at step
    split at step
    · next socket rest phase =>
      split at step
      · next frame received =>
        obtain ⟨bus, stepped, rfl⟩ := Option.map_eq_some_iff.mp step
        have read := recvStep stepped
        simp only [Bus.step?, phase, Option.ite_none_right_eq_some, Option.some.injEq,
          Option.isNone_iff_eq_none] at read
        obtain ⟨free, rfl⟩ := read
        refine ⟨.recv id frame more socket rest phase free ?_, _, stepped⟩
        rintro f rfl
        exact BusDriver.recvData_origin received
      · cases step
    · next idle =>
      obtain ⟨bus, stepped, rfl⟩ := Option.map_eq_some_iff.mp step
      refine ⟨?_, _, stepped⟩
      have read := recvStep stepped
      simp only [Bus.step?] at read
      split at read
      · next socket rest phase => exact absurd phase (idle socket rest)
      · next phase =>
        cases read
        exact .done phase
      · cases read
  | bus e =>
    cases e with
    | recv id frame more => cases step
    | push | trigger | wait | announce | forward | handForward | send | hand | ack =>
      exact busStep (fun _ _ _ same => by cases same) step

theorem reachable_bus (reachable : (machine c).Reachable s) : (Bus.machine c).Reachable s.bus := by
  refine reachable.invariant (fun s => (Bus.machine c).Reachable s.bus) ?_ ?_
  · rintro s rfl
    exact .of_initial rfl
  · intro s e t before step
    obtain ⟨-, e', stepped⟩ := Step.of_step? step
    have run : (Bus.machine c).run? s.bus [e'] = some t.bus := (run?_singleton _ _).trans stepped
    exact before.run run

/-- The history of receptions tells what the frame objects in the forward queue are. -/
structure Recorded (c : Config) (s : State) : Prop where
  ids : s.received.map Reception.id = s.bus.queuedForeign
  known : ∀ r ∈ s.received, r.socket ∈ c.sockets ∧ r.frame.origin = c.name r.socket ∧
    ∃ f, s.bus.heap r.id = some f ∧ f.toH9Frame = r.frame ∧ f.localFrame = false
  reading : Reading c s.bus

theorem Step.recorded (on : c.forwarding = true) (step : Step c s t) (d : Delivery c s.bus)
    (recorded : Recorded c s) : Recorded c t := by
  obtain ⟨ids, known, reading⟩ := recorded
  cases step with
  | recv id frame more socket rest phase free origin =>
    have sockets := reading _ (.inl phase)
    cases frame with
    | none =>
      refine ⟨?_, ?_, fun others same => ?_⟩
      · rw [Option.map_none, Option.toList_none, List.append_nil]
        exact ids
      · rw [Option.map_none, Option.toList_none, List.append_nil]
        exact known
      · rcases same with same | same
        · cases same
          exact fun x member => sockets (List.mem_cons_of_mem _ member)
        · cases same
    | some frame =>
      have next : Bus.recv c s.bus id (some frame) more socket rest =
          { s.bus.writeFrame id (BusFrame.make frame false) with
            forwardQueue := s.bus.forwardQueue ++ [id]
            phase := if s.bus.forwardQueue = [] then .announcing (if more then socket :: rest else rest)
              else .receiving (if more then socket :: rest else rest)
            queuedForeign := s.bus.queuedForeign ++ [id] } := if_pos on
      rw [next]
      refine ⟨?_, fun r member => ?_, fun others same => ?_⟩
      · change List.map Reception.id (s.received ++ [⟨socket, id, frame⟩]) = s.bus.queuedForeign ++ [id]
        rw [List.map_append, ids]
        rfl
      · rcases List.mem_append.mp member with old | new
        · obtain ⟨inside, named, f, found, same, foreign⟩ := known r old
          refine ⟨inside, named, f, ?_, same, foreign⟩
          have apart : r.id ≠ id := by
            rintro rfl
            cases found.symm.trans free
          change Function.update s.bus.heap id _ r.id = some f
          rw [Function.update_of_ne apart, found]
        · obtain rfl := List.mem_singleton.mp new
          exact ⟨sockets List.mem_cons_self, origin frame rfl, BusFrame.make frame false,
            Function.update_self .., rfl, rfl⟩
      · have left : (if more then socket :: rest else rest) ⊆ c.sockets := by
          split
          · exact sockets
          · exact fun x member => sockets (List.mem_cons_of_mem _ member)
        dsimp only at same
        split at same <;> rcases same with same | same <;> cases same <;> exact left
  | done phase =>
    refine ⟨ids, known, fun others same => ?_⟩
    rcases same with same | same <;> cases same
  | bus e other bus step =>
    obtain ⟨reading, foreign⟩ := step.reading other reading
    refine ⟨ids.trans foreign.symm, fun r member => ?_, reading⟩
    obtain ⟨inside, named, f, found, same, isForeign⟩ := known r member
    obtain ⟨g, kept, frame, stays⟩ := step.foreign_frame d found isForeign
    exact ⟨inside, named, g, kept, frame.trans same, stays⟩

theorem reachable_recorded (on : c.forwarding = true) (reachable : (machine c).Reachable s) :
    Recorded c s := by
  refine (reachable.invariant (fun s => (Bus.machine c).Reachable s.bus ∧ Recorded c s) ?_ ?_).2
  · rintro s rfl
    refine ⟨.of_initial rfl, rfl, nofun, fun others same => ?_⟩
    rcases same with same | same <;> cases same
  · intro s e t ⟨before, recorded⟩ step
    obtain ⟨stepped, e', busStep⟩ := Step.of_step? step
    have run : (Bus.machine c).run? s.bus [e'] = some t.bus := (run?_singleton _ _).trans busStep
    exact ⟨before.run run, stepped.recorded on (reachable_delivery before) recorded⟩

section Recorded

variable (recorded : Recorded c s)

include recorded

/-- With distinct names a received frame is addressed to the endpoints it was not received on. -/
theorem Recorded.addressed (distinct : ∀ a ∈ c.sockets, ∀ b ∈ c.sockets, c.name a = c.name b → a = b)
    {r : Reception} (received : r ∈ s.received) {socket : Socket} (member : socket ∈ c.sockets) :
    s.bus.addressed c socket r.id = decide (r.socket ≠ socket) := by
  obtain ⟨inside, named, f, found, frame, -⟩ := recorded.known r received
  have origin : f.origin = c.name r.socket := by rw [frame, named]
  rw [Bus.State.addressed, Bus.State.kind, found, Option.map_some, Option.any_some, origin, bne,
    Bool.eq_iff_iff, Bool.not_eq_true', beq_eq_false_iff_ne, decide_eq_true_iff]
  exact not_congr ⟨distinct _ inside _ member, congrArg c.name⟩

theorem Recorded.elsewhere (distinct : ∀ a ∈ c.sockets, ∀ b ∈ c.sockets, c.name a = c.name b → a = b)
    {socket : Socket} (member : socket ∈ c.sockets) :
    s.bus.queuedForeign.filter (s.bus.addressed c socket) =
      (s.received.filter fun r => r.socket ≠ socket).map Reception.id := by
  rw [← recorded.ids, List.filter_map]
  exact congrArg _ (List.filter_congr fun r received => recorded.addressed distinct received member)

theorem Recorded.isLocal {r : Reception} (received : r ∈ s.received) : s.bus.isLocal r.id = false := by
  obtain ⟨-, -, f, found, -, foreign⟩ := recorded.known r received
  rw [Bus.State.isLocal, Bus.State.kind, found, Option.map_some, Option.any_some, foreign]

theorem Recorded.origin {id : FrameId} (queued : id ∈ s.bus.queuedForeign) :
    ∃ r ∈ s.received, r.id = id ∧ s.bus.isLocal id = false := by
  rw [← recorded.ids] at queued
  obtain ⟨r, received, rfl⟩ := List.mem_map.mp queued
  exact ⟨r, received, rfl, recorded.isLocal received⟩

end Recorded

/-- Every received frame goes, as it was received, to each endpoint but its own, once and in the order of
reception, and only received frames are forwarded. -/
theorem received_frames_forwarded (on : c.forwarding = true)
    (distinct : ∀ a ∈ c.sockets, ∀ b ∈ c.sockets, c.name a = c.name b → a = b)
    (reachable : (machine c).Reachable s) :
    (s.received.map Reception.id).Nodup ∧
    (∀ r ∈ s.received, r.socket ∈ c.sockets ∧ r.id ∉ (s.bus.endpoints r.socket).handed ∧
      ∃ f, s.bus.heap r.id = some f ∧ f.toH9Frame = r.frame ∧ f.localFrame = false) ∧
    (∀ socket ∈ c.sockets, (s.bus.endpoints socket).handed.Nodup ∧
      (s.bus.endpoints socket).handed.filter (fun id => !s.bus.isLocal id) ++
        (s.bus.phase.forwardingTo socket ++ s.bus.forwardQueue).filter (s.bus.addressed c socket) =
          (s.received.filter fun r => r.socket ≠ socket).map Reception.id) ∧
    (∀ id, (id ∈ s.bus.forwardQueue ∨ ∃ rest, s.bus.phase = .forwarding id rest) →
      ∃ r ∈ s.received, r.id = id ∧ s.bus.isLocal id = false) ∧
    (s.bus.forwardQueue ≠ [] → s.bus.Awake) ∧
    (¬ s.bus.Awake → ∀ socket ∈ c.sockets,
      (s.bus.endpoints socket).handed.filter (fun id => !s.bus.isLocal id) =
        (s.received.filter fun r => r.socket ≠ socket).map Reception.id) := by
  have busReachable := reachable_bus reachable
  have d := reachable_delivery busReachable
  have recorded := reachable_recorded on reachable
  have nodup : (s.received.map Reception.id).Nodup := recorded.ids ▸ d.nodupForeign
  have order (socket : Socket) (member : socket ∈ c.sockets) :=
    (d.forwarded socket member).trans (recorded.elsewhere distinct member)
  refine ⟨nodup, fun r received => ?_, fun socket member => ⟨d.handed_nodup member, order socket member⟩,
    fun id taken => ?_, fun queue => reachable_awake busReachable (.inr queue), fun asleep socket member => ?_⟩
  · obtain ⟨inside, -, known⟩ := recorded.known r received
    refine ⟨inside, fun handed => ?_, known⟩
    have foreign : r.id ∈ (s.bus.endpoints r.socket).handed.filter fun id => !s.bus.isLocal id :=
      List.mem_filter.mpr ⟨handed, by rw [recorded.isLocal received]; rfl⟩
    have elsewhere : r.id ∈ (s.received.filter fun other => other.socket ≠ r.socket).map Reception.id := by
      rw [← order r.socket inside]
      exact List.mem_append_left _ foreign
    obtain ⟨other, kept, same⟩ := List.mem_map.mp elsewhere
    obtain ⟨otherReceived, apart⟩ := List.mem_filter.mp kept
    obtain rfl := List.inj_on_of_nodup_map nodup otherReceived received same
    exact of_decide_eq_true apart rfl
  · refine recorded.origin ?_
    rcases taken with queued | ⟨rest, phase⟩
    · exact d.forwardQueued id queued
    · have inHand := d.inHand
      rw [Bus.State.InHand, phase] at inHand
      exact inHand.1
  · rw [((queued_frames_handed_over busReachable).2.2.2.2 asleep socket member).2]
    exact recorded.elsewhere distinct member

/-- A local frame is queued while the first endpoint receives one. -/
private def relayed : List Event :=
  [.bus (.push 0 0 { (default : H9Frame) with type := H9Frame.FrameType.GET_REG } false),
    .bus (.wait false [3]), .recv 1 default (.slcan { (default : H9Frame) with sourceId := 7 }) false,
    .bus .announce, .recv 2 default .nothing false, .bus (.trigger 0), .bus (.wait true []), .bus .forward,
    .bus .handForward, .bus .handForward, .bus .handForward, .bus .send, .bus .hand, .bus .hand, .bus .hand,
    .bus .forward, .bus .send]

private def relayedOnce (s : State) : Bool :=
  !s.bus.asyncPending && s.bus.phase == .waiting && s.bus.announcing == [] &&
    s.received.map Reception.id == [1] && s.received.map Reception.socket == [3]

/-- The endpoint that received the frame does not get it, the other endpoint does. -/
theorem received_frames_forwarded_relayed : ∃ s, (machine twoEndpoints).Reachable s ∧
    s.received.map Reception.id = [1] ∧
    (s.bus.endpoints 3).handed.filter (fun id => !s.bus.isLocal id) = [] ∧
    (s.bus.endpoints 4).handed.filter (fun id => !s.bus.isLocal id) = [1] := by
  have done : ((machine twoEndpoints).run? initial relayed).any relayedOnce = true := by decide +kernel
  obtain ⟨s, run, checked⟩ := (Option.any_eq_true _ _).mp done
  simp only [relayedOnce, Bool.and_eq_true, Bool.not_eq_true', beq_iff_eq] at checked
  obtain ⟨⟨⟨⟨pending, phase⟩, announcing⟩, ids⟩, sockets⟩ := checked
  have asleep : ¬ s.bus.Awake := by
    rintro (awake | awake | awake | ⟨sockets, awake⟩)
    · rw [pending] at awake; cases awake
    · rw [phase] at awake; cases awake
    · exact awake announcing
    · rw [phase] at awake; cases awake
  have reachable : (machine twoEndpoints).Reachable s := ⟨initial, relayed, rfl, run⟩
  have forwarded := (received_frames_forwarded rfl (by decide) reachable).2.2.2.2.2 asleep
  obtain ⟨r, received⟩ : ∃ r, s.received = [r] := List.length_eq_one_iff.mp
    (by rw [← List.length_map Reception.id, ids]; rfl)
  rw [received] at ids sockets forwarded
  obtain ⟨id, -⟩ := List.cons_eq_cons.mp ids
  obtain ⟨socket, -⟩ := List.cons_eq_cons.mp sockets
  refine ⟨s, reachable, by rw [received, List.map_singleton, id], ?_, ?_⟩
  · rw [forwarded 3 (by decide), List.filter_singleton, socket]
    rfl
  · rw [forwarded 4 (by decide), List.filter_singleton, socket]
    exact ids

end Bridge

end H9d
