import H9d.Core.Wakeup
import H9d.Soundness.BusStep

/-! # Every queued frame reaches the endpoints

The bus thread is the consumer of two queues and refines the abstract wake-up protocol. Each queued
frame is at every moment in exactly one place for each endpoint: handed to it, in the hands of the
bus thread, or still in its queue.
-/

namespace H9d.Bus

open Machine LabeledMachine

inductive Queue
  | send
  | forward
  deriving DecidableEq, Repr

/-- The bus thread's own debt between its push and its trigger. -/
def Phase.owed : Phase → ℕ
  | .announcing _ => 1
  | .waiting | .receiving _ | .forward | .forwarding .. | .send _ | .sending .. => 0

/-- The bus as a consumer of two queues. -/
def wakeupView (s : State) : Wakeup.State Queue where
  backlog
    | .send => s.sendQueue.length
    | .forward => s.forwardQueue.length
  pending := s.asyncPending
  draining := s.phase.draining
  announcing := s.announcing.length + s.phase.owed

/-- After an empty forward queue was seen, only the bus thread itself could fill it again. -/
structure ForwardSeen (c : Config) (s : State) : Prop where
  drained : s.phase = .send false → s.forwardQueue = []
  unused : c.forwarding = false → s.forwardQueue = []

private theorem view_push (s : State) (thread : Thread) (id : FrameId) (frame : H9Frame) (raw : Bool) :
    Wakeup.step? (wakeupView s) (.push .send) = some (wakeupView (push s thread id frame raw)) := by
  rw [Wakeup.step?, Option.some.injEq]
  ext q
  · cases q <;> simp [wakeupView, push, State.writeFrame]
  · rfl
  · rfl
  · simp only [wakeupView, push, List.length_eq_zero_iff]
    split
    · simp only [State.writeFrame, List.length_cons]
      omega
    · rfl

section AckFrame

variable (s : State) (socket : Socket) (success : Bool)

/-- An acknowledgement touches the frame, its endpoint and the fault. -/
theorem sendAckCallback_eq : ∃ heap endpoints fault, s.sendAckCallback socket success =
    { s with heap := heap, endpoints := endpoints, fault := fault } := by
  unfold State.sendAckCallback
  dsimp only
  split
  · exact ⟨_, _, _, rfl⟩
  · split
    · exact ⟨_, _, _, rfl⟩
    · split <;> exact ⟨_, _, _, rfl⟩

theorem view_ack : wakeupView (s.sendAckCallback socket success) = wakeupView s := by
  obtain ⟨_, _, _, same⟩ := sendAckCallback_eq s socket success
  rw [same]
  rfl

end AckFrame

variable {c : Config} {s t : State} {e : Event}

/-- The view sees the queues by their lengths and the phase by two flags. -/
theorem wakeupView_congr (send : t.sendQueue = s.sendQueue) (forward : t.forwardQueue = s.forwardQueue)
    (pending : t.asyncPending = s.asyncPending) (announcing : t.announcing = s.announcing)
    (draining : t.phase.draining = s.phase.draining) (owed : t.phase.owed = s.phase.owed) :
    wakeupView t = wakeupView s := by
  rw [wakeupView, wakeupView, send, forward, pending, announcing, draining, owed]

/-- The wake-up protocol can do what the bus has done. -/
structure Wakes (c : Config) (s t : State) : Prop where
  run : ∃ labels, (Wakeup.machine Queue).run? (wakeupView s) labels = some (wakeupView t)
  seen : ForwardSeen c t

namespace ForwardSeen

theorem of_phase (seen : ForwardSeen c s) (forward : t.forwardQueue = s.forwardQueue) (phase : t.phase ≠ .send false) :
    ForwardSeen c t where
  drained same := absurd same phase
  unused off := forward.trans (seen.unused off)

/-- The thread goes on to a phase that the view does not tell from the one before. -/
theorem move (seen : ForwardSeen c s) {after : Phase} {endpoints : Socket → BusEndpoint} (going : after ≠ .send false)
    (draining : after.draining = s.phase.draining) (owed : after.owed = s.phase.owed) :
    Wakes c s { s with phase := after, endpoints } :=
  ⟨Wakeup.run_stay (wakeupView_congr rfl rfl rfl rfl draining owed), seen.of_phase rfl going⟩

theorem push (seen : ForwardSeen c s) (thread : Thread) (id : FrameId) (frame : H9Frame) (raw : Bool) :
    Wakes c s (Bus.push s thread id frame raw) :=
  ⟨Wakeup.run_step _ (view_push s thread id frame raw), seen.drained, seen.unused⟩

theorem trigger (seen : ForwardSeen c s) {thread : Thread} (owed : thread ∈ s.announcing) :
    Wakes c s (Bus.trigger s thread) := by
  refine ⟨Wakeup.run_step .trigger ?_, seen.drained, seen.unused⟩
  have positive := List.length_pos_of_mem owed
  rw [Wakeup.step?, if_pos (by simp only [wakeupView]; omega), Option.some.injEq]
  ext
  · rfl
  · rfl
  · rfl
  · simp only [wakeupView, Bus.trigger, List.length_erase_of_mem owed]
    omega

theorem waitAsync (seen : ForwardSeen c s) (asleep : s.phase = .waiting) (pending : s.asyncPending = true) :
    Wakes c s { s with asyncPending := false, phase := .forward } := by
  refine ⟨Wakeup.run_step .take ?_, seen.of_phase rfl nofun⟩
  rw [Wakeup.step?, if_pos (by exact pending), Option.some.injEq]
  simp only [wakeupView, asleep, Phase.draining, Phase.owed]

/-- The thread owes a trigger when the forward queue was empty. -/
theorem readForward {id : FrameId} {frame : BusFrame} {sockets next : List Socket}
    {queuedForeign : List FrameId} (phase : s.phase = .receiving sockets) (on : c.forwarding = true) :
    Wakes c s { s.writeFrame id frame with
      forwardQueue := s.forwardQueue ++ [id]
      phase := if s.forwardQueue = [] then .announcing next else .receiving next
      queuedForeign } := by
  refine ⟨Wakeup.run_step (.push .forward) ?_, fun same => ?_, fun off => ?_⟩
  · rw [Wakeup.step?, Option.some.injEq]
    ext q
    · cases q <;> simp [wakeupView, State.writeFrame]
    · rfl
    · by_cases empty : s.forwardQueue = [] <;> simp [wakeupView, phase, Phase.draining, empty]
    · by_cases empty : s.forwardQueue = [] <;> simp [wakeupView, phase, Phase.owed, empty, State.writeFrame]
  · dsimp only at same
    split at same <;> cases same
  · rw [on] at off
    cases off

theorem announce (seen : ForwardSeen c s) {sockets : List Socket} (phase : s.phase = .announcing sockets) :
    Wakes c s { s with asyncPending := true, phase := .receiving sockets } := by
  refine ⟨Wakeup.run_step .trigger ?_, seen.of_phase rfl nofun⟩
  rw [Wakeup.step?, if_pos (by simp only [wakeupView, phase, Phase.owed]; omega), Option.some.injEq]
  simp only [wakeupView, phase, Phase.draining, Phase.owed, Nat.add_zero, Nat.add_sub_cancel]

theorem forwardNone (seen : ForwardSeen c s) (phase : s.phase = .forward)
    (empty : c.forwarding = true → s.forwardQueue = []) : Wakes c s { s with phase := .send false } := by
  refine ⟨Wakeup.run_stay (wakeupView_congr rfl rfl rfl rfl (by rw [phase]; rfl) (by rw [phase]; rfl)), fun _ => ?_,
    seen.unused⟩
  cases on : c.forwarding with
  | true => exact empty on
  | false => exact seen.unused on

theorem forwardPop (seen : ForwardSeen c s) {id : FrameId} {queue : List FrameId} {sockets : List Socket}
    (phase : s.phase = .forward) (front : s.forwardQueue = id :: queue) :
    Wakes c s { s with forwardQueue := queue, phase := .forwarding id sockets } := by
  refine ⟨Wakeup.run_step (.pop .forward) ?_, nofun, fun off => ?_⟩
  · rw [Wakeup.step?, if_pos (by simp [wakeupView, phase, Phase.draining, front]), Option.some.injEq]
    ext q
    · cases q <;> simp [wakeupView, front]
    · rfl
    · simp only [wakeupView, phase, Phase.draining]
    · simp only [wakeupView, phase, Phase.owed]
  · cases front.symm.trans (seen.unused off)

/-- Both queues are empty when the thread goes to sleep: it has just seen the forward queue empty. -/
theorem sendNone (seen : ForwardSeen c s) (phase : s.phase = .send false) (empty : s.sendQueue = []) :
    Wakes c s { s with phase := .waiting } := by
  refine ⟨Wakeup.run_step .rest ?_, seen.of_phase rfl nofun⟩
  have drained := seen.drained phase
  have none : ∀ q, (wakeupView s).backlog q = 0 := by
    intro q
    cases q <;> simp [wakeupView, empty, drained]
  rw [Wakeup.step?, if_pos none, Option.some.injEq]
  simp [wakeupView, phase, Phase.draining, Phase.owed]

theorem sendPop (seen : ForwardSeen c s) {ret : Bool} {id : FrameId} {queue : List FrameId} {frame : BusFrame}
    {nextSeqnum : Byte} {sockets : List Socket} {stamped : List Stamped} (phase : s.phase = .send ret)
    (front : s.sendQueue = id :: queue) :
    Wakes c s { s.writeFrame id frame with
      sendQueue := queue, nextSeqnum, phase := .sending id sockets, stamped } := by
  refine ⟨Wakeup.run_step (.pop .send) ?_, seen.of_phase rfl nofun⟩
  rw [Wakeup.step?, if_pos (by simp [wakeupView, phase, Phase.draining, front]), Option.some.injEq]
  ext q
  · cases q <;> simp [wakeupView, front, State.writeFrame]
  · rfl
  · simp only [wakeupView, phase, Phase.draining]
  · simp only [wakeupView, phase, Phase.owed]
    rfl

theorem ack (seen : ForwardSeen c s) (socket : Socket) (success : Bool) :
    Wakes c s (s.sendAckCallback socket success) := by
  refine ⟨Wakeup.run_stay (view_ack s socket success), ?_⟩
  obtain ⟨_, _, _, same⟩ := sendAckCallback_eq s socket success
  rw [same]
  exact ⟨seen.drained, seen.unused⟩

end ForwardSeen

/-- Each step of the bus is at most one step of the wake-up protocol. -/
theorem Step.wakeup (step : Step c s e t) (seen : ForwardSeen c s) : Wakes c s t := by
  cases step with
  | push thread id frame raw free => exact seen.push thread id frame raw
  | trigger thread owed => exact seen.trigger owed
  | waitAsync sockets asleep pending => exact seen.waitAsync asleep pending
  | waitSockets sockets asleep => exact seen.move nofun (by rw [asleep]; rfl) (by rw [asleep]; rfl)
  | read id frame more sockets next phase dropped after quiet =>
    rcases quiet with rfl | rfl
    · exact seen.move nofun (by rw [phase]; rfl) (by rw [phase]; rfl)
    · exact seen.move nofun (by rw [phase]; rfl) (by rw [phase]; rfl)
  | readForward id frame more sockets next phase free on => exact ForwardSeen.readForward phase on
  | announce sockets phase => exact seen.announce phase
  | forwardNone phase empty => exact seen.forwardNone phase empty
  | forwardPop id queue phase front => exact seen.forwardPop phase front
  | forwardSkip id f socket rest phase found skip =>
    exact seen.move nofun (by rw [phase]; rfl) (by rw [phase]; rfl)
  | forwardHand id f socket rest phase found addressed foreign =>
    exact seen.move nofun (by rw [phase]; rfl) (by rw [phase]; rfl)
  | forwardDone id phase => exact seen.move nofun (by rw [phase]; rfl) (by rw [phase]; rfl)
  | sendNone ret phase empty =>
    cases ret with
    | true => exact seen.move nofun (by rw [phase]; rfl) (by rw [phase]; rfl)
    | false => exact seen.sendNone phase empty
  | sendPop ret id queue f phase front found => exact seen.sendPop phase front
  | hand id socket rest phase => exact seen.move nofun (by rw [phase]; rfl) (by rw [phase]; rfl)
  | handDone id phase => exact seen.move nofun (by rw [phase]; rfl) (by rw [phase]; rfl)
  | ack socket success member owed => exact seen.ack socket success

/-- The bus thread and its producers refine the wake-up protocol. -/
def wakeupSimulation (c : Config) : Simulation (machine c) (Wakeup.machine Queue) where
  Guard _ _ := True
  Rel s u := u = wakeupView s ∧ ForwardSeen c s
  initial := by
    rintro s rfl
    refine ⟨_, ⟨?_, rfl⟩, rfl, fun _ => rfl, fun _ => rfl⟩
    funext q
    cases q <;> rfl
  step := by
    rintro s e t u - ⟨rfl, seen⟩ step
    have ⟨⟨labels, run⟩, after⟩ := (Step.of_step? step).2.wakeup seen
    exact ⟨labels, _, run, rfl, after⟩

/-- Whoever will make the bus thread look at its queues again. -/
def State.Awake (s : State) : Prop :=
  s.asyncPending = true ∨ s.phase.draining = true ∨ s.announcing ≠ [] ∨
    ∃ sockets, s.phase = .announcing sockets

theorem reachable_awake (reachable : (machine c).Reachable s)
    (waiting : s.sendQueue ≠ [] ∨ s.forwardQueue ≠ []) : s.Awake := by
  obtain ⟨start, events, initial, run⟩ := reachable
  obtain ⟨u, abstract, rfl, -⟩ := (wakeupSimulation c).reachable initial
    (AllSteps.of_forall (fun _ _ => trivial) start events) run
  have backlog : ∃ q, (wakeupView s).backlog q ≠ 0 := by
    rcases waiting with queue | queue
    · exact ⟨.send, fun empty => queue (List.length_eq_zero_iff.mp empty)⟩
    · exact ⟨.forward, fun empty => queue (List.length_eq_zero_iff.mp empty)⟩
  rcases Wakeup.reachable_safe abstract backlog with pending | draining | owed
  · exact .inl pending
  · exact .inr (.inl draining)
  · refine .inr (.inr ?_)
    cases phase : s.phase with
    | announcing sockets => exact .inr ⟨sockets, rfl⟩
    | waiting | receiving _ | forward | forwarding _ _ | send _ | sending _ _ =>
      refine .inl fun empty => ?_
      simp only [wakeupView, phase, Phase.owed, empty] at owed
      exact absurd owed (by decide)

/-- What never changes about a frame object: whether it is local, and its origin. -/
def State.kind (s : State) (id : FrameId) : Option (Bool × String) :=
  (s.heap id).map fun f => (f.localFrame, f.origin)

def State.isLocal (s : State) (id : FrameId) : Bool := (s.kind id).any Prod.fst

/-- A frame is forwarded to the endpoints that its origin does not name. -/
def State.addressed (c : Config) (s : State) (socket : Socket) (id : FrameId) : Bool :=
  (s.kind id).any fun k => k.2 != c.name socket

/-- The local frame in the hands of the bus thread, while `socket` has not got it. -/
def Phase.sendingTo (p : Phase) (socket : Socket) : List FrameId :=
  match p with
  | .sending id rest => if socket ∈ rest then [id] else []
  | _ => []

/-- The received frame in the hands of the bus thread, while `socket` has not been considered. -/
def Phase.forwardingTo (p : Phase) (socket : Socket) : List FrameId :=
  match p with
  | .forwarding id rest => if socket ∈ rest then [id] else []
  | _ => []

/-- The frame in the hands of the bus thread came from the right queue, and every endpoint is
considered at most once. -/
def State.InHand (s : State) : Prop :=
  match s.phase with
  | .sending id rest => id ∈ s.queuedLocal ∧ rest.Nodup
  | .forwarding id rest => id ∈ s.queuedForeign ∧ rest.Nodup
  | _ => True

/-- Where every frame is that was ever queued. -/
structure Delivery (c : Config) (s : State) : Prop where
  localKnown : ∀ id, id ∈ s.queuedLocal ↔ ∃ origin, s.kind id = some (true, origin)
  foreignKnown : ∀ id, id ∈ s.queuedForeign ↔ ∃ origin, s.kind id = some (false, origin)
  nodupLocal : s.queuedLocal.Nodup
  nodupForeign : s.queuedForeign.Nodup
  handedKnown : ∀ socket, ∀ id ∈ (s.endpoints socket).handed, (s.kind id).isSome
  forwardQueued : ∀ id ∈ s.forwardQueue, id ∈ s.queuedForeign
  inHand : s.InHand
  sent : ∀ socket ∈ c.sockets, (s.endpoints socket).handed.filter s.isLocal ++
    s.phase.sendingTo socket ++ s.sendQueue = s.queuedLocal
  forwarded : ∀ socket ∈ c.sockets, (s.endpoints socket).handed.filter (fun id => !s.isLocal id) ++
    (s.phase.forwardingTo socket ++ s.forwardQueue).filter (s.addressed c socket) =
      s.queuedForeign.filter (s.addressed c socket)

section Kept

/-- Frame objects known before the step keep their kind. -/
def Kept (s t : State) : Prop := ∀ id, (s.kind id).isSome → t.kind id = s.kind id

variable {ids : List FrameId}

theorem Kept.filter_isLocal (kept : Kept s t) (known : ∀ id ∈ ids, (s.kind id).isSome) :
    ids.filter t.isLocal = ids.filter s.isLocal :=
  List.filter_congr fun id member => by
    rw [State.isLocal, State.isLocal, kept id (known id member)]

theorem Kept.filter_foreign (kept : Kept s t) (known : ∀ id ∈ ids, (s.kind id).isSome) :
    ids.filter (fun id => !t.isLocal id) = ids.filter (fun id => !s.isLocal id) :=
  List.filter_congr fun id member => by
    rw [State.isLocal, State.isLocal, kept id (known id member)]

theorem Kept.filter_addressed (kept : Kept s t) (known : ∀ id ∈ ids, (s.kind id).isSome)
    (socket : Socket) : ids.filter (t.addressed c socket) = ids.filter (s.addressed c socket) :=
  List.filter_congr fun id member => by
    rw [State.addressed, State.addressed, kept id (known id member)]

theorem Delivery.known_foreign (d : Delivery c s) : ∀ id ∈ s.queuedForeign, (s.kind id).isSome := by
  intro id member
  obtain ⟨origin, kind⟩ := (d.foreignKnown id).mp member
  rw [kind]
  rfl

theorem Delivery.known_inHand (d : Delivery c s) (socket : Socket) :
    ∀ id ∈ s.phase.forwardingTo socket ++ s.forwardQueue, (s.kind id).isSome := by
  intro id member
  rcases List.mem_append.mp member with hand | queue
  · refine d.known_foreign id ?_
    have inHand := d.inHand
    unfold State.InHand at inHand
    unfold Phase.forwardingTo at hand
    split at hand
    · next id' rest phase =>
      rw [phase] at inHand
      split at hand
      · rw [List.mem_singleton.mp hand]
        exact inHand.1
      · cases hand
    · cases hand
  · exact d.known_foreign id (d.forwardQueued id queue)

end Kept

/-- A step that moves no frame keeps every frame where it is. -/
theorem Delivery.of_same (d : Delivery c s) (kind : t.kind = s.kind)
    (handed : ∀ socket, (t.endpoints socket).handed = (s.endpoints socket).handed)
    (sendQueue : t.sendQueue = s.sendQueue) (forwardQueue : t.forwardQueue = s.forwardQueue)
    (queuedLocal : t.queuedLocal = s.queuedLocal) (queuedForeign : t.queuedForeign = s.queuedForeign)
    (inHand : t.InHand) (sending : t.phase.sendingTo = s.phase.sendingTo)
    (forwarding : t.phase.forwardingTo = s.phase.forwardingTo) : Delivery c t where
  localKnown := by rw [queuedLocal, kind]; exact d.localKnown
  foreignKnown := by rw [queuedForeign, kind]; exact d.foreignKnown
  nodupLocal := by rw [queuedLocal]; exact d.nodupLocal
  nodupForeign := by rw [queuedForeign]; exact d.nodupForeign
  handedKnown socket := by rw [handed, kind]; exact d.handedKnown socket
  forwardQueued := by rw [forwardQueue, queuedForeign]; exact d.forwardQueued
  inHand := inHand
  sent socket member := by
    have same : t.isLocal = s.isLocal := funext fun id => by rw [State.isLocal, State.isLocal, kind]
    rw [handed, same, sending, sendQueue, queuedLocal]
    exact d.sent socket member
  forwarded socket member := by
    have isLocal : t.isLocal = s.isLocal :=
      funext fun id => by rw [State.isLocal, State.isLocal, kind]
    have addressed : t.addressed c socket = s.addressed c socket :=
      funext fun id => by rw [State.addressed, State.addressed, kind]
    rw [handed, isLocal, addressed, forwarding, forwardQueue, queuedForeign]
    exact d.forwarded socket member

theorem kind_writeFrame (s : State) (id : FrameId) (f : BusFrame) :
    (s.writeFrame id f).kind = Function.update s.kind id (some (f.localFrame, f.origin)) := by
  funext other
  by_cases same : other = id
  · subst same
    simp only [State.kind, State.writeFrame, Function.update_self, Option.map_some]
  · simp only [State.kind, State.writeFrame, Function.update_of_ne same]

/-- Rewriting the mutable members of a frame object keeps its kind. -/
theorem kind_writeFrame_of_found {id : FrameId} {f : BusFrame} (found : s.heap id = some f)
    (g : BusFrame) (isLocal : g.localFrame = f.localFrame) (origin : g.origin = f.origin) :
    (s.writeFrame id g).kind = s.kind := by
  have here : s.kind id = some (g.localFrame, g.origin) := by
    rw [State.kind, found, Option.map_some, isLocal, origin]
  rw [kind_writeFrame, ← here, Function.update_eq_self]

theorem kind_of_free {id : FrameId} (free : s.heap id = none) : s.kind id = none := by
  rw [State.kind, free, Option.map_none]

theorem kept_of_fresh {id : FrameId} (free : s.heap id = none) (kind : Bool × String)
    (written : t.kind = Function.update s.kind id (some kind)) : Kept s t := by
  intro other known
  have apart : other ≠ id := by
    rintro rfl
    rw [kind_of_free free] at known
    cases known
  rw [written, Function.update_of_ne apart]

/-- A frame object appears in one of the two histories when it is queued. -/
private theorem known_of_fresh {id : FrameId} {queued : List FrameId} (free : s.heap id = none)
    (flag : Bool) (origin : String) (which : Bool)
    (known : ∀ other, other ∈ queued ↔ ∃ o, s.kind other = some (which, o)) (other : FrameId) :
    (other ∈ queued ++ if flag = which then [id] else []) ↔
      ∃ o, Function.update s.kind id (some (flag, origin)) other = some (which, o) := by
  by_cases same : other = id
  · subst same
    have fresh : other ∉ queued := by
      intro member
      obtain ⟨o, kind⟩ := (known other).mp member
      rw [kind_of_free free] at kind
      cases kind
    rw [Function.update_self]
    by_cases here : flag = which
    · subst here
      simp
    · simp [fresh, here]
  · rw [Function.update_of_ne same, ← known other, List.mem_append]
    refine ⟨fun member => member.resolve_right fun hand => ?_, Or.inl⟩
    split at hand
    · exact same (List.mem_singleton.mp hand)
    · cases hand

theorem Delivery.push (d : Delivery c s) (thread : Thread) {id : FrameId} (frame : H9Frame)
    (raw : Bool) (free : s.heap id = none) : Delivery c (Bus.push s thread id frame raw) := by
  have kind : (Bus.push s thread id frame raw).kind =
      Function.update s.kind id (some (true, frame.origin)) := kind_writeFrame s id _
  have kept := kept_of_fresh free _ kind
  have fresh : id ∉ s.queuedLocal := by
    intro member
    obtain ⟨o, same⟩ := (d.localKnown id).mp member
    rw [kind_of_free free] at same
    cases same
  refine ⟨fun other => ?_, fun other => ?_, ?_, d.nodupForeign, fun socket other member => ?_,
    d.forwardQueued, ?_, fun socket member => ?_, fun socket member => ?_⟩
  · have known := known_of_fresh free true frame.origin true d.localKnown other
    rwa [if_pos rfl, ← kind] at known
  · have known := known_of_fresh free true frame.origin false d.foreignKnown other
    rwa [if_neg (by decide), List.append_nil, ← kind] at known
  · exact List.nodup_append.mpr ⟨d.nodupLocal, List.nodup_singleton id, fun a ina b inb same =>
      fresh (List.mem_singleton.mp inb ▸ same ▸ ina)⟩
  · rw [kept other (d.handedKnown socket other member)]
    exact d.handedKnown socket other member
  · have inHand := d.inHand
    unfold State.InHand at inHand ⊢
    change match s.phase with
      | .sending id' rest => id' ∈ s.queuedLocal ++ [id] ∧ rest.Nodup
      | .forwarding id' rest => id' ∈ s.queuedForeign ∧ rest.Nodup
      | _ => True
    split at inHand
    · exact ⟨List.mem_append_left _ inHand.1, inHand.2⟩
    · exact inHand
    · trivial
  · change (s.endpoints socket).handed.filter _ ++ s.phase.sendingTo socket ++ (s.sendQueue ++ [id]) =
      s.queuedLocal ++ [id]
    rw [kept.filter_isLocal (d.handedKnown socket), ← List.append_assoc, d.sent socket member]
  · change (s.endpoints socket).handed.filter _ ++ (s.phase.forwardingTo socket ++ s.forwardQueue).filter _ =
      s.queuedForeign.filter _
    rw [kept.filter_foreign (d.handedKnown socket), kept.filter_addressed (d.known_inHand socket),
      kept.filter_addressed d.known_foreign, d.forwarded socket member]

theorem Delivery.readForward (d : Delivery c s) {id : FrameId} (frame : H9Frame)
    {sockets : List Socket} (phase : s.phase = .receiving sockets) (free : s.heap id = none)
    {after : Phase} (quiet : (∃ next, after = .announcing next) ∨ ∃ next, after = .receiving next) :
    Delivery c { s.writeFrame id (BusFrame.make frame false) with
      forwardQueue := s.forwardQueue ++ [id]
      phase := after
      queuedForeign := s.queuedForeign ++ [id] } := by
  have kind : (s.writeFrame id (BusFrame.make frame false)).kind =
      Function.update s.kind id (some (false, frame.origin)) := kind_writeFrame s id _
  have kept : Kept s (s.writeFrame id (BusFrame.make frame false)) := kept_of_fresh free _ kind
  have fresh : id ∉ s.queuedForeign := by
    intro member
    have known := d.known_foreign id member
    rw [kind_of_free free] at known
    cases known
  have idle : ∀ socket, after.sendingTo socket = [] ∧ after.forwardingTo socket = [] := by
    intro socket
    rcases quiet with ⟨next, rfl⟩ | ⟨next, rfl⟩ <;> exact ⟨rfl, rfl⟩
  refine ⟨fun other => ?_, fun other => ?_, d.nodupLocal, ?_, fun socket other member => ?_, ?_, ?_,
    fun socket member => ?_, fun socket member => ?_⟩
  · have known := known_of_fresh free false frame.origin true d.localKnown other
    rwa [if_neg (by decide), List.append_nil, ← kind] at known
  · have known := known_of_fresh free false frame.origin false d.foreignKnown other
    rwa [if_pos rfl, ← kind] at known
  · exact List.nodup_append.mpr ⟨d.nodupForeign, List.nodup_singleton id, fun a ina b inb same =>
      fresh (List.mem_singleton.mp inb ▸ same ▸ ina)⟩
  · have before := d.handedKnown socket other member
    rwa [← kept other before] at before
  · intro other member
    rcases List.mem_append.mp member with old | new
    · exact List.mem_append_left _ (d.forwardQueued other old)
    · exact List.mem_append_right _ new
  · rcases quiet with ⟨next, rfl⟩ | ⟨next, rfl⟩ <;> trivial
  · have sent := d.sent socket member
    have none : s.phase.sendingTo socket = [] := by rw [phase]; rfl
    rw [none] at sent
    change (s.endpoints socket).handed.filter _ ++ after.sendingTo socket ++ s.sendQueue = s.queuedLocal
    rw [(idle socket).1, ← sent]
    exact congrArg (fun l => l ++ [] ++ s.sendQueue) (kept.filter_isLocal (d.handedKnown socket))
  · have forwarded := d.forwarded socket member
    have none : s.phase.forwardingTo socket = [] := by rw [phase]; rfl
    have queue := fun other old => d.known_foreign other (d.forwardQueued other old)
    rw [none, List.nil_append] at forwarded
    change (s.endpoints socket).handed.filter _ ++
      (after.forwardingTo socket ++ (s.forwardQueue ++ [id])).filter _ =
        (s.queuedForeign ++ [id]).filter _
    rw [(idle socket).2, List.nil_append, List.filter_append, List.filter_append, ← List.append_assoc]
    refine congrArg (· ++ _) (Eq.trans ?_ ((forwarded.trans ?_)))
    · exact congrArg₂ (· ++ ·) (kept.filter_foreign (d.handedKnown socket))
        (kept.filter_addressed queue socket)
    · exact (kept.filter_addressed d.known_foreign socket).symm

section SendFrame

variable (s : State) (socket : Socket) (id : FrameId)

theorem sendFrame_handed_self :
    ((s.sendFrame socket id).endpoints socket).handed = (s.endpoints socket).handed ++ [id] := by
  simp only [State.sendFrame, State.writeEndpoint, Function.update_self]

theorem sendFrame_other {other : Socket} (apart : other ≠ socket) :
    (s.sendFrame socket id).endpoints other = s.endpoints other := by
  simp only [State.sendFrame, State.writeEndpoint, Function.update_of_ne apart]

end SendFrame

theorem Delivery.handed_known (d : Delivery c s) {id : FrameId} (known : (s.kind id).isSome)
    (socket : Socket) (phase : Phase) (other : Socket) (member : FrameId)
    (inHanded : member ∈ (({ s with phase }.sendFrame socket id).endpoints other).handed) :
    (s.kind member).isSome := by
  by_cases same : other = socket
  · subst same
    rw [sendFrame_handed_self] at inHanded
    rcases List.mem_append.mp inHanded with old | new
    · exact d.handedKnown other member old
    · rw [List.mem_singleton.mp new]
      exact known
  · rw [sendFrame_other _ _ _ same] at inHanded
    exact d.handedKnown other member inHanded

private theorem isLocal_of_kind {id : FrameId} {flag : Bool} {origin : String}
    (kind : s.kind id = some (flag, origin)) : s.isLocal id = flag := by
  rw [State.isLocal, kind, Option.any_some]

/-- Handing the local frame to the next endpoint. -/
theorem Delivery.hand (d : Delivery c s) {id : FrameId} {socket : Socket} {rest : List Socket}
    (phase : s.phase = .sending id (socket :: rest)) :
    Delivery c ({ s with phase := .sending id rest }.sendFrame socket id) := by
  have inHand := d.inHand
  rw [State.InHand, phase] at inHand
  obtain ⟨queued, nodup⟩ := inHand
  obtain ⟨fresh, nodup⟩ := List.nodup_cons.mp nodup
  obtain ⟨origin, kind⟩ := (d.localKnown id).mp queued
  have isLocal := isLocal_of_kind kind
  have known : (s.kind id).isSome := by rw [kind]; rfl
  refine ⟨d.localKnown, d.foreignKnown, d.nodupLocal, d.nodupForeign,
    d.handed_known known socket _, d.forwardQueued, ⟨queued, nodup⟩, fun other member => ?_,
    fun other member => ?_⟩
  · have sent := d.sent other member
    change List.filter s.isLocal _ ++ (if other ∈ rest then [id] else []) ++ s.sendQueue = s.queuedLocal
    rw [phase, Phase.sendingTo] at sent
    by_cases same : other = socket
    · subst same
      rw [if_pos List.mem_cons_self] at sent
      rw [sendFrame_handed_self, List.filter_append, List.filter_cons_of_pos isLocal, List.filter_nil,
        if_neg fresh, List.append_nil]
      exact sent
    · rw [sendFrame_other _ _ _ same]
      simp only [List.mem_cons, same, false_or] at sent
      exact sent
  · have forwarded := d.forwarded other member
    change List.filter (fun id => !s.isLocal id) _ ++ ([] ++ s.forwardQueue).filter _ = _
    rw [phase] at forwarded
    by_cases same : other = socket
    · subst same
      rw [sendFrame_handed_self, List.filter_append,
        List.filter_cons_of_neg (by rw [isLocal]; decide), List.filter_nil, List.append_nil]
      exact forwarded
    · rw [sendFrame_other _ _ _ same]
      exact forwarded

/-- Handing the received frame to an endpoint that its origin does not name. -/
theorem Delivery.forwardHand (d : Delivery c s) {id : FrameId} {f : BusFrame} {socket : Socket}
    {rest : List Socket} (phase : s.phase = .forwarding id (socket :: rest))
    (found : s.heap id = some f) (addressed : c.name socket ≠ f.origin)
    (foreign : f.localFrame = false) :
    Delivery c ({ s with phase := .forwarding id rest }.sendFrame socket id) := by
  have inHand := d.inHand
  rw [State.InHand, phase] at inHand
  obtain ⟨queued, nodup⟩ := inHand
  obtain ⟨fresh, nodup⟩ := List.nodup_cons.mp nodup
  have kind : s.kind id = some (false, f.origin) := by
    rw [State.kind, found, Option.map_some, foreign]
  have isLocal := isLocal_of_kind kind
  have known : (s.kind id).isSome := by rw [kind]; rfl
  have goes : s.addressed c socket id = true := by
    rw [State.addressed, kind, Option.any_some, bne_iff_ne]
    exact fun same => addressed same.symm
  refine ⟨d.localKnown, d.foreignKnown, d.nodupLocal, d.nodupForeign,
    d.handed_known known socket _, d.forwardQueued, ⟨queued, nodup⟩, fun other member => ?_,
    fun other member => ?_⟩
  · have sent := d.sent other member
    change List.filter s.isLocal _ ++ [] ++ s.sendQueue = s.queuedLocal
    rw [phase] at sent
    by_cases same : other = socket
    · subst same
      rw [sendFrame_handed_self, List.filter_append,
        List.filter_cons_of_neg (by rw [isLocal]; decide), List.filter_nil, List.append_nil]
      exact sent
    · rw [sendFrame_other _ _ _ same]
      exact sent
  · have forwarded := d.forwarded other member
    change List.filter (fun id => !s.isLocal id) _ ++
      ((if other ∈ rest then [id] else []) ++ s.forwardQueue).filter (s.addressed c other) = _
    rw [phase, Phase.forwardingTo] at forwarded
    by_cases same : other = socket
    · subst same
      rw [if_pos List.mem_cons_self, List.filter_append, List.filter_cons_of_pos goes,
        List.filter_nil] at forwarded
      rw [sendFrame_handed_self, List.filter_append, List.filter_cons_of_pos (by rw [isLocal]; rfl),
        List.filter_nil, if_neg fresh, List.nil_append, List.append_assoc]
      exact forwarded
    · rw [sendFrame_other _ _ _ same]
      simp only [List.mem_cons, same, false_or] at forwarded
      exact forwarded

/-- An endpoint that the frame's origin names is passed over. -/
theorem Delivery.forwardSkip (d : Delivery c s) {id : FrameId} {f : BusFrame} {socket : Socket}
    {rest : List Socket} (phase : s.phase = .forwarding id (socket :: rest))
    (found : s.heap id = some f) (skip : c.name socket = f.origin ∨ f.localFrame = true) :
    Delivery c { s with phase := .forwarding id rest } := by
  have inHand := d.inHand
  rw [State.InHand, phase] at inHand
  obtain ⟨queued, nodup⟩ := inHand
  obtain ⟨fresh, nodup⟩ := List.nodup_cons.mp nodup
  obtain ⟨origin, kind⟩ := (d.foreignKnown id).mp queued
  have stays : s.addressed c socket id = false := by
    rw [State.kind, found, Option.map_some, Option.some.injEq, Prod.mk.injEq] at kind
    rw [State.addressed, State.kind, found, Option.map_some, Option.any_some, bne_eq_false_iff_eq]
    rcases skip with same | isLocal
    · exact same.symm
    · rw [isLocal] at kind
      exact absurd kind.1 (by decide)
  refine ⟨d.localKnown, d.foreignKnown, d.nodupLocal, d.nodupForeign, d.handedKnown,
    d.forwardQueued, ⟨queued, nodup⟩, fun other member => ?_, fun other member => ?_⟩
  · have sent := d.sent other member
    rw [phase] at sent
    exact sent
  · have forwarded := d.forwarded other member
    change List.filter (fun id => !s.isLocal id) _ ++
      ((if other ∈ rest then [id] else []) ++ s.forwardQueue).filter (s.addressed c other) = _
    rw [phase, Phase.forwardingTo] at forwarded
    by_cases same : other = socket
    · subst same
      rw [if_pos List.mem_cons_self, List.filter_append,
        List.filter_cons_of_neg (by rw [stays]; decide), List.filter_nil, List.nil_append] at forwarded
      rw [if_neg fresh, List.nil_append]
      exact forwarded
    · simp only [List.mem_cons, same, false_or] at forwarded
      exact forwarded

/-- The dequeue of a received frame. -/
theorem Delivery.forwardPop (d : Delivery c s) {id : FrameId} {queue : List FrameId}
    (phase : s.phase = .forward) (front : s.forwardQueue = id :: queue) :
    Delivery c { s with forwardQueue := queue, phase := .forwarding id c.sockets } := by
  refine ⟨d.localKnown, d.foreignKnown, d.nodupLocal, d.nodupForeign, d.handedKnown,
    fun other member => d.forwardQueued other (front ▸ List.mem_cons_of_mem id member),
    ⟨d.forwardQueued id (front ▸ List.mem_cons_self), c.nodup⟩, fun socket member => ?_,
    fun socket member => ?_⟩
  · have sent := d.sent socket member
    rw [phase] at sent
    exact sent
  · have forwarded := d.forwarded socket member
    rw [phase, front] at forwarded
    change List.filter (fun id => !s.isLocal id) _ ++
      ((if socket ∈ c.sockets then [id] else []) ++ queue).filter (s.addressed c socket) = _
    rw [if_pos member]
    exact forwarded

/-- The dequeue of a local frame, which is stamped before it is handed out. -/
theorem Delivery.sendPop (d : Delivery c s) {ret : Bool} {id : FrameId} {queue : List FrameId}
    {f g : BusFrame} (nextSeqnum : Byte) (stamped : List Stamped) (phase : s.phase = .send ret)
    (front : s.sendQueue = id :: queue) (found : s.heap id = some f)
    (isLocal : g.localFrame = f.localFrame) (origin : g.origin = f.origin) :
    Delivery c { s.writeFrame id g with
      sendQueue := queue, nextSeqnum, phase := .sending id c.sockets, stamped } := by
  have kind := kind_writeFrame_of_found found g isLocal origin
  have queued : id ∈ s.queuedLocal := by
    obtain ⟨socket, member⟩ := List.exists_mem_of_ne_nil c.sockets c.nonempty
    rw [← d.sent socket member, front]
    exact List.mem_append_right _ List.mem_cons_self
  have same : Delivery c (s.writeFrame id g) := d.of_same kind (fun _ => rfl) rfl rfl rfl rfl
    d.inHand rfl rfl
  refine ⟨same.localKnown, same.foreignKnown, same.nodupLocal, same.nodupForeign, same.handedKnown,
    same.forwardQueued, ⟨queued, c.nodup⟩, fun socket member => ?_, fun socket member => ?_⟩
  · have sent := same.sent socket member
    change _ ++ s.phase.sendingTo socket ++ s.sendQueue = _ at sent
    rw [phase, front] at sent
    change List.filter (s.writeFrame id g).isLocal _ ++ (if socket ∈ c.sockets then [id] else []) ++
      queue = _
    rw [if_pos member, ← sent, List.append_assoc, List.append_assoc]
    rfl
  · have forwarded := same.forwarded socket member
    change _ ++ List.filter _ (s.phase.forwardingTo socket ++ s.forwardQueue) = _ at forwarded
    rw [phase] at forwarded
    exact forwarded

theorem sendAckCallback_handed (s : State) (socket : Socket) (success : Bool) (other : Socket) :
    ((s.sendAckCallback socket success).endpoints other).handed = (s.endpoints other).handed := by
  have written (e : BusEndpoint) (same : e.handed = (s.endpoints socket).handed) :
      ((s.writeEndpoint socket e).endpoints other).handed = (s.endpoints other).handed := by
    by_cases here : other = socket
    · subst here
      simp only [State.writeEndpoint, Function.update_self, same]
    · simp only [State.writeEndpoint, Function.update_of_ne here]
  unfold State.sendAckCallback
  dsimp only
  split
  · exact written _ rfl
  · split
    · exact written _ rfl
    · split <;> exact written _ rfl

/-- Counting an acknowledgement changes only the counters and the promise. -/
theorem finish_frame {f g : BusFrame} (ok : f.finish = .ok g) :
    g.toH9Frame = f.toH9Frame ∧ g.localFrame = f.localFrame ∧ g.raw = f.raw := by
  unfold BusFrame.finish at ok
  split at ok
  · split at ok <;> cases ok
    exact ⟨rfl, rfl, rfl⟩
  · cases ok
    exact ⟨rfl, rfl, rfl⟩

theorem sendAckCallback_kind (s : State) (socket : Socket) (success : Bool) :
    (s.sendAckCallback socket success).kind = s.kind := by
  unfold State.sendAckCallback
  dsimp only
  split
  · rfl
  · split
    · rfl
    · next id pending _ f found =>
      split
      · next g ok =>
        refine (kind_writeFrame_of_found found g ?_ ?_).trans rfl <;> cases success
        · exact (finish_frame ok).2.1
        · exact (finish_frame ok).2.1
        · exact congrArg H9Frame.origin (finish_frame ok).1
        · exact congrArg H9Frame.origin (finish_frame ok).1
      · rfl

theorem delivery_initial : Delivery c initial where
  localKnown id := by simp [initial, State.kind]
  foreignKnown id := by simp [initial, State.kind]
  nodupLocal := List.nodup_nil
  nodupForeign := List.nodup_nil
  handedKnown socket id member := by cases member
  forwardQueued id member := by cases member
  inHand := trivial
  sent socket member := rfl
  forwarded socket member := rfl

private theorem handed_out (id : FrameId) :
    (fun socket : Socket => if socket ∈ ([] : List Socket) then [id] else []) = fun _ => [] :=
  funext fun _ => if_neg List.not_mem_nil

theorem stamp_origin (busId : BitVec 16) (nextSeqnum : Byte) (raw : Bool) (frame : H9Frame) :
    (stamp busId nextSeqnum raw frame).1.origin = frame.origin := by
  unfold stamp
  split
  · rfl
  · dsimp only
    split <;> rfl

/-- Every step keeps every frame in exactly one place for each endpoint. -/
theorem Step.delivery (step : Step c s e t) (d : Delivery c s) : Delivery c t := by
  have move (after : Phase) (inHand : State.InHand { s with phase := after })
      (sending : after.sendingTo = s.phase.sendingTo)
      (forwarding : after.forwardingTo = s.phase.forwardingTo) (asyncPending : Bool) :
      Delivery c { s with asyncPending, phase := after } :=
    d.of_same rfl (fun _ => rfl) rfl rfl rfl rfl inHand sending forwarding
  cases step with
  | push thread id frame raw free => exact d.push thread frame raw free
  | trigger thread owed => exact d.of_same rfl (fun _ => rfl) rfl rfl rfl rfl d.inHand rfl rfl
  | waitAsync sockets asleep pending =>
    exact move .forward trivial (by rw [asleep]; rfl) (by rw [asleep]; rfl) _
  | waitSockets sockets asleep =>
    exact move (.receiving _) trivial (by rw [asleep]; rfl) (by rw [asleep]; rfl) _
  | read id frame more sockets next phase dropped after quiet =>
    rcases quiet with rfl | rfl
    · exact move .waiting trivial (by rw [phase]; rfl) (by rw [phase]; rfl) _
    · exact move (.receiving next) trivial (by rw [phase]; rfl) (by rw [phase]; rfl) _
  | readForward id frame more sockets next phase free on =>
    refine d.readForward frame phase free ?_
    split
    · exact .inl ⟨next, rfl⟩
    · exact .inr ⟨next, rfl⟩
  | announce sockets phase =>
    exact move (.receiving sockets) trivial (by rw [phase]; rfl) (by rw [phase]; rfl) _
  | forwardNone phase empty =>
    exact move (.send false) trivial (by rw [phase]; rfl) (by rw [phase]; rfl) _
  | forwardPop id queue phase front => exact d.forwardPop phase front
  | forwardSkip id f socket rest phase found skip => exact d.forwardSkip phase found skip
  | forwardHand id f socket rest phase found addressed foreign =>
    exact d.forwardHand phase found addressed foreign
  | forwardDone id phase =>
    exact move (.send true) trivial (by rw [phase]; rfl) (by rw [phase]; exact (handed_out id).symm) _
  | sendNone ret phase empty =>
    cases ret with
    | true => exact move .forward trivial (by rw [phase]; rfl) (by rw [phase]; rfl) _
    | false => exact move .waiting trivial (by rw [phase]; rfl) (by rw [phase]; rfl) _
  | sendPop ret id queue f phase front found =>
    exact d.sendPop _ _ phase front found rfl (stamp_origin ..)
  | hand id socket rest phase => exact d.hand phase
  | handDone id phase =>
    exact move .forward trivial (by rw [phase]; exact (handed_out id).symm) (by rw [phase]; rfl) _
  | ack socket success member owed =>
    have kind := sendAckCallback_kind s socket success
    have handed := sendAckCallback_handed s socket success
    obtain ⟨_, _, _, same⟩ := sendAckCallback_eq s socket success
    rw [same] at kind handed ⊢
    exact d.of_same kind handed rfl rfl rfl rfl d.inHand rfl rfl

theorem reachable_delivery (reachable : (machine c).Reachable s) : Delivery c s :=
  reachable.invariant (Delivery c) (by rintro _ rfl; exact delivery_initial)
    fun _ _ _ d step => (Step.of_step? step).2.delivery d

/-- No endpoint is given a frame twice. -/
theorem Delivery.handed_nodup (d : Delivery c s) {socket : Socket} (member : socket ∈ c.sockets) :
    (s.endpoints socket).handed.Nodup := by
  have isLocal : ((s.endpoints socket).handed.filter s.isLocal).Nodup := by
    have all := d.nodupLocal
    rw [← d.sent socket member, List.append_assoc] at all
    exact all.of_append_left
  have foreign : ((s.endpoints socket).handed.filter fun id => !s.isLocal id).Nodup := by
    have all := d.nodupForeign.filter (s.addressed c socket)
    rw [← d.forwarded socket member] at all
    exact all.of_append_left
  have parts := List.filter_append_perm s.isLocal (s.endpoints socket).handed
  refine parts.nodup_iff.mp (List.nodup_append.mpr ⟨isLocal, foreign, ?_⟩)
  rintro a inLocal b inForeign rfl
  have yes := (List.mem_filter.mp inLocal).2
  have no := (List.mem_filter.mp inForeign).2
  rw [yes] at no
  cases no

/-- A phase outside the drain loop has no frame in hand. -/
theorem inHand_of_not_draining {phase : Phase} (idle : phase.draining = false) (socket : Socket) :
    phase.sendingTo socket = [] ∧ phase.forwardingTo socket = [] := by
  cases phase with
  | waiting | receiving _ | announcing _ => exact ⟨rfl, rfl⟩
  | forward | forwarding _ _ | send _ | sending _ _ => cases idle

/-- No wake-up is lost, and each endpoint gets the local frames and the received frames of other
origins exactly once and in the order of their queues. -/
theorem queued_frames_handed_over (reachable : (machine c).Reachable s) :
    ((s.sendQueue ≠ [] ∨ (c.forwarding = true ∧ s.forwardQueue ≠ [])) → s.Awake) ∧
    s.queuedLocal.Nodup ∧ s.queuedForeign.Nodup ∧
    (∀ socket ∈ c.sockets, (s.endpoints socket).handed.Nodup ∧
      (s.endpoints socket).handed.filter s.isLocal ++ s.phase.sendingTo socket ++ s.sendQueue =
        s.queuedLocal ∧
      (s.endpoints socket).handed.filter (fun id => !s.isLocal id) ++
        (s.phase.forwardingTo socket ++ s.forwardQueue).filter (s.addressed c socket) =
          s.queuedForeign.filter (s.addressed c socket)) ∧
    (¬ s.Awake → ∀ socket ∈ c.sockets,
      (s.endpoints socket).handed.filter s.isLocal = s.queuedLocal ∧
      (s.endpoints socket).handed.filter (fun id => !s.isLocal id) =
        s.queuedForeign.filter (s.addressed c socket)) := by
  have d := reachable_delivery reachable
  refine ⟨fun waiting => reachable_awake reachable (waiting.imp_right And.right), d.nodupLocal,
    d.nodupForeign, fun socket member => ⟨d.handed_nodup member, d.sent socket member,
      d.forwarded socket member⟩, fun asleep socket member => ?_⟩
  have send : s.sendQueue = [] := by
    by_contra queue
    exact asleep (reachable_awake reachable (.inl queue))
  have forward : s.forwardQueue = [] := by
    by_contra queue
    exact asleep (reachable_awake reachable (.inr queue))
  have idle : s.phase.draining = false :=
    Bool.eq_false_iff.mpr fun draining => asleep (.inr (.inl draining))
  obtain ⟨noLocal, noForeign⟩ := inHand_of_not_draining idle socket
  have sent := d.sent socket member
  have forwarded := d.forwarded socket member
  rw [noLocal, send, List.append_nil, List.append_nil] at sent
  rw [noForeign, forward, List.append_nil, List.filter_nil, List.append_nil] at forwarded
  exact ⟨sent, forwarded⟩

/-- Two endpoints, with forwarding on. -/
def twoEndpoints : Config where
  sockets := [3, 4]
  nodup := by decide
  nonempty := by decide
  name socket := if socket = 3 then "can0" else "can1"
  forwarding := true
  busId := 0xff

private def receivedOnCan0 : H9Frame :=
  { (default : H9Frame) with origin := "can0", type := H9Frame.FrameType.NODE_HEARTBEAT, sourceId := 7 }

/-- A local frame and a frame received on the first endpoint, both handed out. -/
private def oneOfEach : List Event :=
  [.push 0 0 { (default : H9Frame) with type := H9Frame.FrameType.GET_REG } false, .wait false [3],
    .recv 1 (some receivedOnCan0) false, .announce, .recv 2 none false, .trigger 0, .wait true [],
    .forward, .handForward, .handForward, .handForward, .send, .hand, .ack 3 true, .hand, .hand,
    .forward, .send]

private def bothHandedOut (s : State) : Bool :=
  !s.asyncPending && s.phase == .waiting && s.announcing == [] && s.queuedForeign == [1] &&
    (s.endpoints 3).handed == [0] && (s.endpoints 4).handed == [1, 0]

private theorem afterOneOfEach_spec : ∃ s, (machine twoEndpoints).Reachable s ∧ ¬ s.Awake ∧
    s.queuedForeign = [1] ∧ (s.endpoints 3).handed = [0] := by
  have done : ((machine twoEndpoints).run? initial oneOfEach).any bothHandedOut = true := by
    decide +kernel
  obtain ⟨s, run, checked⟩ := (Option.any_eq_true _ _).mp done
  simp only [bothHandedOut, Bool.and_eq_true, Bool.not_eq_true', beq_iff_eq] at checked
  obtain ⟨⟨⟨⟨⟨pending, phase⟩, announcing⟩, foreign⟩, handed⟩, -⟩ := checked
  refine ⟨s, ⟨initial, oneOfEach, rfl, run⟩, ?_, foreign, handed⟩
  rintro (awake | awake | awake | ⟨sockets, awake⟩)
  · rw [pending] at awake; cases awake
  · rw [phase] at awake; cases awake
  · exact awake announcing
  · rw [phase] at awake; cases awake

/-- Both frames are handed out when the bus thread sleeps again. -/
theorem queued_frames_handed_over_oneOfEach :
    ∃ s, (machine twoEndpoints).Reachable s ∧ ¬ s.Awake ∧
      (s.endpoints 3).handed.filter s.isLocal = s.queuedLocal ∧
      (s.endpoints 4).handed.filter (fun id => !s.isLocal id) =
        s.queuedForeign.filter (s.addressed twoEndpoints 4) := by
  obtain ⟨s, reachable, asleep, -⟩ := afterOneOfEach_spec
  have handed := (queued_frames_handed_over reachable).2.2.2.2 asleep
  exact ⟨s, reachable, asleep, (handed 3 (by decide)).1, (handed 4 (by decide)).2⟩

/-- The claim for both queues and every endpoint fails: a received frame does not return to the
endpoint it came from. -/
theorem received_frame_not_returned :
    ¬ ∀ (c : Config) (s : State), (machine c).Reachable s → ¬ s.Awake → ∀ socket ∈ c.sockets,
      ∀ id ∈ s.queuedLocal ++ s.queuedForeign, (s.endpoints socket).handed.count id = 1 := by
  intro everywhere
  obtain ⟨s, reachable, asleep, foreign, handed⟩ := afterOneOfEach_spec
  have once := everywhere twoEndpoints s reachable asleep 3 (by decide) 1
    (List.mem_append_right _ (by rw [foreign]; exact List.mem_singleton_self 1))
  rw [handed] at once
  exact absurd once (by decide)

end H9d.Bus
