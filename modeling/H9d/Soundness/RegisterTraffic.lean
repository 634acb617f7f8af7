import H9d.Core.Heap
import H9d.Model.RegisterTraffic
import H9d.Soundness.FramePromise
import H9d.Soundness.SendPromise
import H9d.Soundness.SequenceNumbers

/-! # Requests and the answers to them

Frames that arrive before a request knows its number are stored, and stored frames are replayed when
it does. Among the unanswered frames a number names one, so an arrival that matches a numbered
request answers it. A frame stored before the request itself is on the bus escapes the argument: it
answers an older frame, and 32 frames later the request may get the same number.
-/

namespace H9d.RegisterTraffic

open H9Frame Machine LabeledMachine RawNode

variable {c : Bus.Config} {nodeId reg : Byte} {garbage : BitVec 16} {s t : State}
  {arrived : List (ReceivedFrame Tag)} {told : List Byte} {call : Call}

/-- A numbered frame that asks the node for a register. -/
structure Asks (nodeId reg : Byte) (frame : H9Frame) : Prop where
  takes : Bus.takesSeqnum frame.type = true
  destination : frame.destinationId = nodeId
  register : frame.data 0 = reg

theorem request_asks {request : Request} (register : request.register? = some reg)
    (garbage : H9Frame) (origin : String) : Asks nodeId reg (request.frame garbage origin nodeId) := by
  cases request with
  | reset => cases register
  | setReg _ _ | getReg _ | setBit _ _ | clearBit _ _ =>
    cases register
    exact ⟨rfl, rfl, rfl⟩

theorem Asks.stamp {frame : H9Frame} (asks : Asks nodeId reg frame) (busId : BitVec 16)
    (nextSeqnum : Byte) (raw : Bool) : Asks nodeId reg (Bus.stamp busId nextSeqnum raw frame).1 := by
  obtain ⟨type, destination, data⟩ := Bus.stamp_kept busId nextSeqnum raw frame
  exact ⟨by rw [type]; exact asks.takes, destination.trans asks.destination,
    (congrFun data 0).trans asks.register⟩

theorem answers_iff {request reply : H9Frame} (register : request.data 0 = reg) :
    answers nodeId request reply ↔
      ((registerComparator garbage nodeId reg).setSeqnum request.seqnum).eqFrame reply = true := by
  rw [registerComparator_setSeqnum_eqFrame, registerComparator_eqFrame, answers, register]
  constructor
  · rintro ⟨source, seqnum, type⟩
    exact ⟨⟨source, type⟩, seqnum⟩
  · rintro ⟨⟨source, type⟩, seqnum⟩
    exact ⟨source, seqnum, type⟩

/-- What completes a request with a number: the first arrival that matches. -/
def verdict (nodeId reg : Byte) (garbage : BitVec 16) (seqnum : Byte)
    (arrived : List (ReceivedFrame Tag)) : Option (ReceivedFrame Tag) :=
  arrived.find? fun f => ((registerComparator garbage nodeId reg).setSeqnum seqnum).eqFrame f.frame

/-- How far a request has come, with the frames that arrived since it registered its promise and
what the promise was told. -/
inductive Progress (nodeId reg : Byte) (garbage : BitVec 16) (s : State)
    (arrived : List (ReceivedFrame Tag)) : Option Bus.FrameId → List Byte → Prop
  | unsent : Progress nodeId reg garbage s arrived none []
  | queued (id : Bus.FrameId) (f : BusFrame) (queued : id ∈ s.bus.sendQueue)
      (found : s.bus.heap id = some f) (raw : f.raw = false) (asks : Asks nodeId reg f.toH9Frame) :
      Progress nodeId reg garbage s arrived (some id) []
  | sent (n : ℕ) (st : Bus.Stamped) (told : List Byte) (put : s.bus.numbered[n]? = some st)
      (asks : Asks nodeId reg st.frame) (number : told = [] ∨ told = [st.frame.seqnum])
      (missing : verdict nodeId reg garbage st.frame.seqnum arrived = none → n ∈ s.unanswered)
      (own : ∀ f ∈ verdict nodeId reg garbage st.frame.seqnum arrived, f.tag = some st.id) :
      Progress nodeId reg garbage s arrived (some st.id) told

/-- A request in progress has a live promise that agrees with the arrivals and with its progress. -/
def InProgress (nodeId : Byte) (s : State) (p : Pointer) (call : Call) : Prop :=
  ∃ fp reg garbage arrived told, s.node.heap p = some fp ∧ call.request.register? = some reg ∧
    Tracks (registerComparator garbage nodeId reg) arrived told fp ∧
    Progress nodeId reg garbage s arrived call.frame told

structure Inv (c : Bus.Config) (nodeId : Byte) (s : State) : Prop where
  bus : (Bus.machine c).Reachable s.bus
  node : s.node.WellFormed
  recent : ∀ n ∈ s.unanswered, s.bus.numbered.length ≤ n + 32
  call : ∀ p call, s.calls p = some call → InProgress nodeId s p call
  finished : ∀ id f, (id, some f) ∈ s.finished → f.tag = some id

/-- The frame at the head of the send queue is about to get a number that no frame stored for its
own request carries. -/
def FreshAtSend (s : State) : Event → Prop
  | .bus .send => ∀ id ∈ s.bus.sendQueue.head?, ∀ p ∈ s.node.framePromiseSet, ∀ call ∈ s.calls p,
      call.frame = some id → ∀ fp ∈ s.node.heap p, ∀ f ∈ fp.frameStorage,
        (fp.comparator.setSeqnum s.bus.nextSeqnum).eqFrame f.frame = false
  | _ => True

instance (s : State) (e : Event) : Decidable (FreshAtSend s e) := by
  cases e with
  | bus e => cases e <;> unfold FreshAtSend <;> infer_instance
  | _ => exact isTrue trivial

section BusSteps

theorem numbered_getElem? {e : Bus.Event} (puts : Bus.Puts c s.bus e t.bus) {n : ℕ}
    {st : Bus.Stamped} (there : s.bus.numbered[n]? = some st) : t.bus.numbered[n]? = some st := by
  cases puts with
  | nothing numbered next => rw [numbered]; exact there
  | one id f send front found raw takes numbered next =>
    have bound := (List.getElem?_eq_some_iff.mp there).1
    rw [numbered, List.getElem?_append_left bound]
    exact there

/-- A step of the bus, seen by a request: its frame waits, is put, or has been put. -/
theorem Progress.busStep {e : Bus.Event} {frame : Option Bus.FrameId}
    (progress : Progress nodeId reg garbage s arrived frame told) (step : Bus.Step c s.bus e t.bus)
    (n : Bus.Numbering s.bus) (kept : ∀ n ∈ s.unanswered, n ∈ t.unanswered)
    (counted : ∀ st, t.bus.numbered[s.bus.numbered.length]? = some st →
      st.frame.destinationId = nodeId → s.bus.numbered.length ∈ t.unanswered)
    (fresh : e = .send → told = [] → ∀ id ∈ frame, s.bus.sendQueue.head? = some id →
      verdict nodeId reg garbage s.bus.nextSeqnum arrived = none) :
    Progress nodeId reg garbage t arrived frame told := by
  have puts := step.puts n.range
  cases progress with
  | unsent => exact .unsent
  | queued id f queued found raw asks =>
    rcases step.queued queued found with ⟨still, g, there, sameRaw, same⟩ | ⟨send, front, stamped⟩
    · exact .queued id g still there (sameRaw.trans raw) (by rw [same]; exact asks)
    · have stampAsks := asks.stamp c.busId s.bus.nextSeqnum f.raw
      have given : (Bus.stamp c.busId s.bus.nextSeqnum f.raw f.toH9Frame).1.seqnum =
          s.bus.nextSeqnum := by
        rw [raw]
        exact (Bus.stamp_numbered c.busId f.toH9Frame asks.takes n.range).1
      have put : t.bus.numbered[s.bus.numbered.length]? =
          some ⟨id, f.raw, (Bus.stamp c.busId s.bus.nextSeqnum f.raw f.toH9Frame).1⟩ := by
        rw [Bus.numbered_snoc stamped, if_pos, List.getElem?_concat_length]
        rw [Bus.Stamped.isNumbered, stampAsks.takes, raw]
        rfl
      refine .sent s.bus.numbered.length _ [] put stampAsks (.inl rfl)
        (fun _ => counted _ put stampAsks.destination) fun f first => ?_
      rw [given, fresh send rfl id rfl front] at first
      cases first
  | sent m st told put asks number missing own =>
    exact .sent m st told (numbered_getElem? puts put) asks number
      (fun none => kept m (missing none)) own

end BusSteps

/-- A step of the node, seen by a request that it does not finish. -/
theorem InProgress.nodeStep {p : Pointer} {e : RawNode.Event Tag} (wf : s.node.WellFormed)
    (step : (RawNode.machine Tag nodeId).step? s.node e = some t.node)
    (inProgress : InProgress nodeId s p call) (kept : e ≠ .destroyFramePromise p)
    (progress : ∀ fp reg garbage arrived told, s.node.heap p = some fp →
      Tracks (registerComparator garbage nodeId reg) arrived told fp →
      (∀ seqnum, e = .setComparatorSeqnum p seqnum → fp.comparatorHasSeqnum = false) →
      Progress nodeId reg garbage s arrived call.frame told →
      Progress nodeId reg garbage t (arrived ++ e.arrival?.toList) call.frame
        (told ++ (e.seqnum? p).toList)) : InProgress nodeId t p call := by
  obtain ⟨fp, reg, garbage, arrived, told, found, register, tracks, before⟩ := inProgress
  have untold := step?_untold wf step found
  have unnumbered := (Request.getReg reg).comparator_unnumbered garbage nodeId
  exact ⟨fp.observe p e, reg, garbage, _, _, step?_heap wf step found kept, register,
    tracks.observe unnumbered p e untold, progress fp reg garbage arrived told found tracks untold before⟩

theorem verdict_snoc (seqnum : Byte) (arrived : List (ReceivedFrame Tag)) (frame : ReceivedFrame Tag) :
    verdict nodeId reg garbage seqnum (arrived ++ [frame]) =
      (verdict nodeId reg garbage seqnum arrived).or
        (if ((registerComparator garbage nodeId reg).setSeqnum seqnum).eqFrame frame.frame then some frame
        else none) := by
  rw [verdict, List.find?_append, verdict]
  congr 1
  split
  · next hit => exact List.find?_cons_of_pos hit
  · next missed => exact List.find?_cons_of_neg missed

/-- An arrival keeps the progress when it answers whom it matches and leaves the others waiting. -/
theorem Progress.arrive {frame : Option Bus.FrameId} (fr : ReceivedFrame Tag)
    (progress : Progress nodeId reg garbage s arrived frame told) (bus : t.bus = s.bus)
    (answered : ∀ n st, n ∈ s.unanswered → s.bus.numbered[n]? = some st → Asks nodeId reg st.frame →
      if ((registerComparator garbage nodeId reg).setSeqnum st.frame.seqnum).eqFrame fr.frame then
        fr.tag = some st.id
      else n ∈ t.unanswered) :
    Progress nodeId reg garbage t (arrived ++ [fr]) frame told := by
  cases progress with
  | unsent => exact .unsent
  | queued id f queued found raw asks =>
    exact .queued id f (by rw [bus]; exact queued) (by rw [bus]; exact found) raw asks
  | sent n st told put asks number missing own =>
    have there : t.bus.numbered[n]? = some st := by rw [bus]; exact put
    cases before : verdict nodeId reg garbage st.frame.seqnum arrived with
    | some first =>
      have kept : verdict nodeId reg garbage st.frame.seqnum (arrived ++ [fr]) = some first := by
        rw [verdict_snoc, before, Option.some_or]
      refine .sent n st told there asks number (fun none => ?_) fun f found => ?_
      · rw [kept] at none
        cases none
      · rw [kept] at found
        exact own f (before.trans found)
    | none =>
      have here := answered n st (missing before) put asks
      have next : verdict nodeId reg garbage st.frame.seqnum (arrived ++ [fr]) = _ :=
        verdict_snoc st.frame.seqnum arrived fr
      rw [before, Option.none_or] at next
      split at here
      · next hit =>
        rw [if_pos hit] at next
        refine .sent n st told there asks number (fun none => ?_) fun f found => ?_
        · rw [next] at none
          cases none
        · rw [next] at found
          cases found
          exact here
      · next missed =>
        rw [if_neg missed] at next
        refine .sent n st told there asks number (fun _ => here) fun f found => ?_
        rw [next] at found
        cases found

/-- The send promise of a frame has a value only after it was stamped, with the number it got. -/
theorem sent_result {b : Bus.State} (reachable : (Bus.machine c).Reachable b) {id : Bus.FrameId}
    {f : BusFrame} {result : SendFrameResult} (found : b.heap id = some f)
    (value : f.sendPromise.value = some result) :
    id ∉ b.sendQueue ∧ ∀ st ∈ b.stamped, st.id = id → result.seqnum = st.frame.seqnum := by
  have a := Bus.reachable_accounting reachable
  have d := Bus.reachable_delivery reachable
  constructor
  · intro queued
    have unset := (a.inactive id f found fun st member same => ?_).2
    · rw [unset] at value
      cases value
    · have all := d.nodupLocal
      rw [← a.history] at all
      exact (List.nodup_append.mp all).2.2 st.id (List.mem_map_of_mem member) id queued same
  · rintro st member rfl
    obtain ⟨g, there, counting⟩ := a.counting st member
    rw [found] at there
    cases there
    rw [counting.value, Bus.expectedResult, Option.ite_none_right_eq_some] at value
    cases value.2
    rfl

/-- The promise of a request is told the number that its frame got. -/
theorem Progress.learn {id : Bus.FrameId} {f : BusFrame} {result : SendFrameResult}
    (progress : Progress nodeId reg garbage s arrived (some id) told)
    (reachable : (Bus.machine c).Reachable s.bus) (found : s.bus.heap id = some f)
    (value : f.sendPromise.value = some result) (untold : told = []) :
    Progress nodeId reg garbage s arrived (some id) [result.seqnum] := by
  obtain ⟨put, same⟩ := sent_result reachable found value
  cases progress with
  | queued _ g queued there raw asks => exact absurd queued put
  | sent n st told there asks number missing own =>
    have member : st ∈ s.bus.stamped := List.mem_of_mem_filter (List.mem_of_getElem? there)
    rw [same st member rfl]
    exact .sent n st _ there asks (.inr rfl) missing own

theorem Tracks.told_nil {comparator : H9FrameComparator} {fp : FramePromise Tag}
    (tracks : Tracks comparator arrived told fp) (unknown : fp.comparatorHasSeqnum = false) :
    told = [] := by
  cases tracks with
  | waiting => rfl
  | numbered => cases unknown

/-- A promise without a value has seen no match. -/
theorem InProgress.value {p : Pointer} (inProgress : InProgress nodeId s p call) {fp : FramePromise Tag}
    (found : s.node.heap p = some fp) {f : ReceivedFrame Tag} (value : fp.promise.value = some f) :
    ∃ id, call.frame = some id ∧ f.tag = some id := by
  obtain ⟨fp', reg, garbage, arrived, told, there, -, tracks, progress⟩ := inProgress
  rw [found] at there
  cases there
  obtain ⟨request, frame⟩ := call
  cases progress with
  | unsent | queued _ _ _ _ _ _ =>
    rw [tracks.value] at value
    cases value
  | sent n st told put asks number missing own =>
    refine ⟨st.id, rfl, own f ?_⟩
    rcases number with rfl | rfl
    · rw [tracks.value] at value
      cases value
    · exact tracks.value.symm.trans value

theorem Progress.of_same {frame : Option Bus.FrameId}
    (progress : Progress nodeId reg garbage s arrived frame told) (bus : t.bus = s.bus)
    (kept : ∀ n st, n ∈ s.unanswered → s.bus.numbered[n]? = some st → frame = some st.id →
      (told = [] ∨ told = [st.frame.seqnum]) →
      verdict nodeId reg garbage st.frame.seqnum arrived = none → n ∈ t.unanswered) :
    Progress nodeId reg garbage t arrived frame told := by
  cases progress with
  | unsent => exact .unsent
  | queued id f queued there raw asks =>
    exact .queued id f (by rw [bus]; exact queued) (by rw [bus]; exact there) raw asks
  | sent n st told put asks number missing own =>
    exact .sent n st told (by rw [bus]; exact put) asks number
      (fun none => kept n st (missing none) put rfl number none) own

/-- A step that leaves the promise alone. -/
theorem InProgress.of_same {p : Pointer} (inProgress : InProgress nodeId s p call)
    (node : t.node = s.node)
    (progress : ∀ fp reg garbage arrived told, s.node.heap p = some fp →
      Tracks (registerComparator garbage nodeId reg) arrived told fp →
      Progress nodeId reg garbage s arrived call.frame told →
      Progress nodeId reg garbage t arrived call.frame told) : InProgress nodeId t p call := by
  obtain ⟨fp, reg, garbage, arrived, told, found, register, tracks, before⟩ := inProgress
  exact ⟨fp, reg, garbage, arrived, told, by rw [node]; exact found, register, tracks,
    progress fp reg garbage arrived told found tracks before⟩

/-- A promise that waits for its number stores what may still match. -/
theorem verdict_of_fresh {fp : FramePromise Tag} {seqnum : Byte}
    (tracks : Tracks (registerComparator garbage nodeId reg) arrived [] fp)
    (fresh : ∀ f ∈ fp.frameStorage, (fp.comparator.setSeqnum seqnum).eqFrame f.frame = false) :
    verdict nodeId reg garbage seqnum arrived = none := by
  cases tracks with
  | waiting =>
    refine List.find?_eq_none.mpr fun f member matched => ?_
    have unnumbered := (Request.getReg reg).comparator_unnumbered garbage nodeId
    have stored := H9FrameComparator.eqFrame_of_setSeqnum _ seqnum unnumbered f.frame matched
    have refused := fresh f (List.mem_filter.mpr ⟨member, stored⟩)
    rw [refused] at matched
    cases matched

section Steps

theorem Inv.registered {p : Pointer} {request : Request} {node : RawNode.State Tag}
    (inv : Inv c nodeId s) (register : request.register?.isSome = true)
    (step : nodeStep? nodeId s (.createFramePromise p garbage request) = some node) :
    Inv c nodeId { s with node, calls := Function.update s.calls p (some ⟨request, none⟩) } where
  bus := inv.bus
  node := step?_wellFormed inv.node step
  recent := inv.recent
  finished := inv.finished
  call q call found := by
    rcases Heap.update_eq_some.mp found with ⟨rfl, ⟨⟩⟩ | ⟨-, found⟩
    · obtain ⟨reg, register⟩ := Option.isSome_iff_exists.mp register
      obtain ⟨fp, there, tracks⟩ := created_tracks inv.node
        ((run?_singleton s.node (Event.createFramePromise q garbage request)).trans step)
        List.not_mem_nil
      have comparator : request.comparator garbage nodeId = registerComparator garbage nodeId reg := by
        cases request <;> cases register <;> rfl
      rw [comparator] at tracks
      exact ⟨fp, reg, garbage, [], [], there, register, tracks, .unsent⟩
    · refine (inv.call q call found).nodeStep inv.node step nofun
        fun _ _ _ _ _ _ _ _ progress => ?_
      rw [Event.arrival?, Event.seqnum?, Option.toList_none, Option.toList_none, List.append_nil,
        List.append_nil]
      exact progress.of_same rfl fun _ _ kept _ _ _ _ => kept

theorem Inv.busStep {e : Bus.Event} {bus : Bus.State} (inv : Inv c nodeId s)
    (step : (Bus.machine c).step? s.bus e = some bus) (fresh : FreshAtSend s (.bus e))
    (window : ∀ n ∈ s.unanswered ++ (newNumber nodeId s.bus bus).toList,
      bus.numbered.length ≤ n + 32) :
    Inv c nodeId
      { s with bus, unanswered := s.unanswered ++ (newNumber nodeId s.bus bus).toList } where
  bus := inv.bus.run ((run?_singleton s.bus e).trans step)
  node := inv.node
  recent := window
  finished := inv.finished
  call p call found := by
    refine (inv.call p call found).of_same rfl fun fp reg garbage arrived told there tracks progress => ?_
    refine progress.busStep (Bus.Step.of_step? step).2 (Bus.reachable_numbering inv.bus)
      (fun n => List.mem_append_left _) (fun st put destination => List.mem_append_right _ ?_) ?_
    · change bus.numbered[s.bus.numbered.length]? = some st at put
      rw [newNumber, put, Option.bind_some, if_pos destination]
      exact List.mem_singleton_self _
    · rintro rfl rfl id frame front
      have pending := (inv.node.member p).mpr ⟨fp, there, tracks.value⟩
      exact verdict_of_fresh tracks (fresh id front p pending call found frame fp there)

theorem Inv.sent {p : Pointer} {thread : Bus.Thread} {id : Bus.FrameId} {frame : H9Frame}
    {request : Request} {bus : Bus.State} (inv : Inv c nodeId s)
    (waiting : s.calls p = some ⟨request, none⟩)
    (asks : ∀ reg, request.register? = some reg → Asks nodeId reg frame)
    (step : (Bus.machine c).step? s.bus (.push thread id frame false) = some bus) :
    Inv c nodeId
      { s with bus, calls := Function.update s.calls p (some ⟨request, some id⟩) } := by
  have numbering := Bus.reachable_numbering inv.bus
  have after := (Bus.Step.of_step? step).2
  have same : bus.numbered = s.bus.numbered := by
    cases after
    rfl
  refine ⟨inv.bus.run ((run?_singleton s.bus _).trans step), inv.node, ?_, fun q call found => ?_,
    inv.finished⟩
  · change ∀ n ∈ s.unanswered, bus.numbered.length ≤ n + 32
    rw [same]
    exact inv.recent
  · rcases Heap.update_eq_some.mp found with ⟨rfl, ⟨⟩⟩ | ⟨-, found⟩
    · obtain ⟨fp, reg, garbage, arrived, told, there, register, tracks, progress⟩ := inv.call q _ waiting
      refine ⟨fp, reg, garbage, arrived, told, there, register, tracks, ?_⟩
      cases progress with
      | unsent =>
        cases after with
        | push _ _ _ _ free =>
          exact .queued id _ (List.mem_append_right _ (List.mem_singleton_self id))
            (Function.update_self _ _ _) rfl (asks reg register)
    · refine (inv.call q call found).of_same rfl fun _ _ _ _ _ _ _ progress => ?_
      refine progress.busStep after numbering (fun _ kept => kept) (fun st put _ => ?_) nofun
      change bus.numbered[s.bus.numbered.length]? = some st at put
      rw [same, List.getElem?_eq_none (Nat.le_refl _)] at put
      cases put

theorem Inv.learned {p : Pointer} {request : Request} {id : Bus.FrameId} {f : BusFrame}
    {result : SendFrameResult} {node : RawNode.State Tag} (inv : Inv c nodeId s)
    (own : s.calls p = some ⟨request, some id⟩) (there : s.bus.heap id = some f)
    (value : f.sendPromise.value = some result)
    (step : nodeStep? nodeId s (.setComparatorSeqnum p result.seqnum) = some node) :
    Inv c nodeId { s with node } where
  bus := inv.bus
  node := step?_wellFormed inv.node step
  recent := inv.recent
  finished := inv.finished
  call q call found := by
    change s.calls q = some call at found
    refine (inv.call q call found).nodeStep inv.node step nofun
      fun fp _ _ arrived told _ tracks untold progress => ?_
    rw [Event.arrival?, Event.seqnum?, Option.toList_none, List.append_nil]
    rcases eq_or_ne p q with rfl | apart
    · rw [own] at found
      cases found
      obtain rfl := Tracks.told_nil tracks (untold result.seqnum rfl)
      rw [if_pos rfl]
      exact (progress.learn inv.bus there value rfl).of_same rfl fun _ _ kept _ _ _ _ => kept
    · rw [if_neg apart, Option.toList_none, List.append_nil]
      exact progress.of_same rfl fun _ _ kept _ _ _ _ => kept

/-- An arrival that answers whom it matches. -/
theorem Inv.received {fr : ReceivedFrame Tag} {node : RawNode.State Tag} {unanswered : List ℕ}
    (inv : Inv c nodeId s) (fewer : ∀ n ∈ unanswered, n ∈ s.unanswered)
    (step : nodeStep? nodeId s (.onFrameRecv fr) = some node)
    (answered : ∀ reg garbage n st, n ∈ s.unanswered → s.bus.numbered[n]? = some st →
      Asks nodeId reg st.frame →
      if ((registerComparator garbage nodeId reg).setSeqnum st.frame.seqnum).eqFrame fr.frame then
        fr.tag = some st.id
      else n ∈ unanswered) : Inv c nodeId { s with node, unanswered } where
  bus := inv.bus
  node := step?_wellFormed inv.node step
  recent n member := inv.recent n (fewer n member)
  finished := inv.finished
  call q call found := by
    refine (inv.call q call found).nodeStep inv.node step nofun
      fun fp reg garbage arrived told _ _ _ progress => ?_
    rw [Event.seqnum?, Option.toList_none, List.append_nil]
    exact progress.arrive fr rfl (answered reg garbage)

theorem Inv.answered {n : ℕ} {st : Bus.Stamped} {frame : H9Frame} {node : RawNode.State Tag}
    (inv : Inv c nodeId s) (put : s.bus.numbered[n]? = some st) (member : n ∈ s.unanswered)
    (reply : answers nodeId st.frame frame)
    (step : nodeStep? nodeId s (.onFrameRecv ⟨frame, some st.id⟩) = some node) :
    Inv c nodeId { s with node, unanswered := s.unanswered.erase n } := by
  refine inv.received (fun _ => List.mem_of_mem_erase) step fun reg garbage m other waits there asks => ?_
  have near : m < n + 32 ∧ n < m + 32 := by
    have first := inv.recent n member
    have second := inv.recent m waits
    have bound := (List.getElem?_eq_some_iff.mp put).1
    have bound' := (List.getElem?_eq_some_iff.mp there).1
    omega
  split
  · next matched =>
    have same := ((registerComparator_setSeqnum_eqFrame _ _ _ _ _).mp matched).2
    obtain rfl := (Bus.reachable_numbering inv.bus).position_eq there put near
      (same.symm.trans reply.2.1)
    rw [there] at put
    cases put
    rfl
  · next refused =>
    refine (List.mem_erase_of_ne ?_).mpr waits
    rintro rfl
    rw [there] at put
    cases put
    exact refused ((answers_iff asks.register).mp reply)

theorem Inv.ignored {n : ℕ} {st : Bus.Stamped} (inv : Inv c nodeId s)
    (put : s.bus.numbered[n]? = some st)
    (unclaimed : ∀ p ∈ s.node.framePromiseSet, ∀ call ∈ s.calls p, call.frame ≠ some st.id) :
    Inv c nodeId { s with unanswered := s.unanswered.erase n } where
  bus := inv.bus
  node := inv.node
  recent m member := inv.recent m (List.mem_of_mem_erase member)
  finished := inv.finished
  call p call found := by
    refine (inv.call p call found).of_same rfl fun fp _ _ _ told there tracks progress => ?_
    refine progress.of_same rfl fun m other waits position frame number missing => ?_
    refine (List.mem_erase_of_ne ?_).mpr waits
    rintro rfl
    rw [position] at put
    cases put
    have unset : fp.promise.value = none := by
      rcases number with rfl | rfl
      · exact tracks.value
      · exact tracks.value.trans missing
    exact unclaimed p ((inv.node.member p).mpr ⟨fp, there, unset⟩) call found frame

/-- A frame that is no answer matches no request. -/
theorem Inv.unanswering {frame : H9Frame} {node : RawNode.State Tag} (inv : Inv c nodeId s)
    (other : frame.sourceId = nodeId →
      frame.type ≠ FrameType.REG_VALUE ∧ frame.type ≠ FrameType.COMMAND_ERROR)
    (step : nodeStep? nodeId s (.onFrameRecv ⟨frame, none⟩) = some node) :
    Inv c nodeId { s with node } := by
  refine inv.received (fun _ kept => kept) step fun reg garbage n st waits _ _ => ?_
  rw [if_neg]
  · exact waits
  · intro matched
    obtain ⟨accepted, -⟩ := (registerComparator_setSeqnum_eqFrame _ _ _ _ _).mp matched
    obtain ⟨source, type⟩ := (registerComparator_eqFrame _ _ _ _).mp accepted
    rcases type with ⟨value, -⟩ | error
    · exact (other source).1 value
    · exact (other source).2 error

theorem Inv.completed {p : Pointer} {request : Request} {id : Bus.FrameId} {timeout : Bool}
    {fp : FramePromise Tag} {node : RawNode.State Tag} (inv : Inv c nodeId s)
    (own : s.calls p = some ⟨request, some id⟩) (there : s.node.heap p = some fp)
    (step : nodeStep? nodeId s (.destroyFramePromise p) = some node) :
    Inv c nodeId { s with
      node
      calls := Function.update s.calls p none
      finished := s.finished ++ [(id, if timeout then none else fp.promise.value)] } where
  bus := inv.bus
  node := step?_wellFormed inv.node step
  recent := inv.recent
  finished id' f member := by
    rcases List.mem_append.mp member with old | new
    · exact inv.finished id' f old
    · obtain ⟨rfl, result⟩ := Prod.mk.inj (List.mem_singleton.mp new)
      cases timeout with
      | true => cases result
      | false =>
        obtain ⟨_, ⟨rfl⟩, tag⟩ := (inv.call p _ own).value there result.symm
        exact tag
  call q call found := by
    rcases Heap.update_eq_some.mp found with ⟨_, ⟨⟩⟩ | ⟨apart, found⟩
    refine (inv.call q call found).nodeStep inv.node step
      (fun same => apart (Event.destroyFramePromise.inj same).symm) fun _ _ _ _ _ _ _ _ progress => ?_
    rw [Event.arrival?, Event.seqnum?, Option.toList_none, Option.toList_none, List.append_nil,
      List.append_nil]
    exact progress.of_same rfl fun _ _ kept _ _ _ _ => kept

theorem step?_inv {e : Event} (inv : Inv c nodeId s) (fresh : FreshAtSend s e)
    (step : (machine c nodeId).step? s e = some t) : Inv c nodeId t := by
  change step? c nodeId s e = some t at step
  cases e with
  | call p garbage request =>
    simp only [step?, Option.ite_none_right_eq_some, Option.map_eq_some_iff] at step
    obtain ⟨register, node, step, rfl⟩ := step
    exact inv.registered register step
  | sendFrame p thread id garbage origin =>
    simp only [step?] at step
    split at step
    · next request waiting =>
      obtain ⟨bus, pushed, rfl⟩ := Option.map_eq_some_iff.mp step
      exact inv.sent waiting (fun _ register => request_asks register garbage origin) pushed
    · cases step
  | bus e =>
    simp only [step?, Option.bind_eq_some_iff, Option.ite_none_right_eq_some,
      Option.some.injEq] at step
    obtain ⟨bus, step, window, rfl⟩ := step
    exact inv.busStep step fresh window
  | setComparatorSeqnum p =>
    simp only [step?] at step
    split at step
    · next request id own =>
      simp only [Option.bind_eq_some_iff, Option.map_eq_some_iff] at step
      obtain ⟨result, ⟨f, there, value⟩, node, step, rfl⟩ := step
      exact inv.learned own there value step
    · cases step
  | answer n frame =>
    simp only [step?, Option.bind_eq_some_iff, Option.ite_none_right_eq_some,
      Option.map_eq_some_iff] at step
    obtain ⟨st, put, ⟨member, reply⟩, node, step, rfl⟩ := step
    exact inv.answered put member reply step
  | ignore n =>
    simp only [step?, Option.bind_eq_some_iff, Option.ite_none_right_eq_some,
      Option.some.injEq] at step
    obtain ⟨st, put, unclaimed, rfl⟩ := step
    exact inv.ignored put unclaimed
  | onFrameRecv frame =>
    simp only [step?, Option.ite_none_right_eq_some, Option.map_eq_some_iff] at step
    obtain ⟨other, node, step, rfl⟩ := step
    exact inv.unanswering other step
  | finish p timeout =>
    simp only [step?] at step
    split at step
    · next request id fp own there =>
      simp only [Option.ite_none_right_eq_some, Option.map_eq_some_iff] at step
      obtain ⟨-, node, step, rfl⟩ := step
      exact inv.completed own there step
    · cases step

end Steps

theorem inv_initial (c : Bus.Config) (nodeId : Byte) : Inv c nodeId initial where
  bus := Reachable.of_initial rfl
  node := State.wellFormed_empty
  recent n member := by cases member
  call p call found := by cases found
  finished id f member := by cases member

/-- Requests are completed by the answers to their own frames only. -/
structure OwnAnswers (s : State) : Prop where
  pending : ∀ p call fp f, s.calls p = some call → s.node.heap p = some fp →
    fp.promise.value = some f → ∃ id, call.frame = some id ∧ f.tag = some id
  finished : ∀ id f, (id, some f) ∈ s.finished → f.tag = some id

/-- The numbers of the bus repeat after 32 numbered frames and not before; and while each request
gets a number that no frame stored for it carries, requests never get each other's answers. -/
theorem register_requests_own_answers (c : Bus.Config) (nodeId : Byte) :
    (∀ b, (Bus.machine c).Reachable b →
      b.nextSeqnum.toNat = b.numbered.length % 32 ∧
      (∀ i st, b.numbered[i]? = some st → st.frame.seqnum.toNat = i % 32) ∧
      ∀ i j first second, b.numbered[i]? = some first → b.numbered[j]? = some second → i < j →
        j < i + 32 → first.frame.seqnum ≠ second.frame.seqnum) ∧
    ∀ events t, (machine c nodeId).run? initial events = some t →
      (machine c nodeId).AllSteps FreshAtSend initial events → OwnAnswers t := by
  constructor
  · intro b reachable
    have numbering := Bus.reachable_numbering reachable
    refine ⟨numbering.next, numbering.given, fun i j first second there other before near same => ?_⟩
    exact absurd (numbering.position_eq there other (by omega) same) (by omega)
  · intro events t run fresh
    have inv : Inv c nodeId t := run_invariant_of_guard (Inv c nodeId)
      (fun _ _ _ inv ok step => step?_inv inv ok step) (inv_initial c nodeId) fresh run
    exact ⟨fun p call fp f own there value => (inv.call p call own).value there value, inv.finished⟩

def oneEndpoint : Bus.Config where
  sockets := [3]
  nodup := by decide
  nonempty := by decide
  name _ := "can"
  forwarding := false
  busId := 0xff

/-- Register 5 of node 7, as the answer to a request numbered 0. -/
private def register5 : H9Frame :=
  { (default : H9Frame) with
    type := FrameType.REG_VALUE
    sourceId := 7
    dlc := 2
    data := ![5, 42, 0, 0, 0, 0, 0, 0] }

/-- A read of register 5 up to the point where its promise knows the number. -/
private def putOne (p : Pointer) (id : Bus.FrameId) : List Event :=
  [.sendFrame p 0 id default "client", .bus (.trigger 0), .bus (.wait true []), .bus .forward,
    .bus .send, .bus .hand, .bus .hand, .bus .forward, .bus .send, .bus (.ack 3 true),
    .setComparatorSeqnum p]

private def readOnce : List Event :=
  .call 0 0 (.getReg 5) :: putOne 0 0 ++ [.answer 0 register5, .finish 0 false]

private def completedBy (s : State) : List (Bus.FrameId × Option Tag) :=
  s.finished.map fun result => (result.1, result.2.map ReceivedFrame.tag)

/-- One read, completed by the answer to it. -/
theorem register_requests_own_answers_getReg :
    ∃ t, (machine oneEndpoint 7).run? initial readOnce = some t ∧
      completedBy t = [(0, some (some 0))] ∧ OwnAnswers t := by
  have done : ((machine oneEndpoint 7).run? initial readOnce).any
      (fun t => completedBy t == [(0, some (some 0))]) = true := by
    decide +kernel
  obtain ⟨t, run, checked⟩ := (Option.any_eq_true _ _).mp done
  exact ⟨t, run, eq_of_beq checked,
    (register_requests_own_answers oneEndpoint 7).2 readOnce t run (by decide +kernel)⟩

/-- The first read is followed by 31 frames for another node. Its answer arrives when the second
read has registered its promise and has not sent its frame. -/
private def readTwice : List Event :=
  ([.call 0 0 (.getReg 5), .sendFrame 0 0 0 default "client", .bus (.trigger 0)] : List Event) ++
  (List.range 31).map (fun i => .bus (.push 1 (i + 1)
    { (default : H9Frame) with type := FrameType.GET_REG, destinationId := 8 } false)) ++
  ([.bus (.wait true [])] : List Event) ++
  (List.replicate 32 ([.bus .forward, .bus .send, .bus .hand, .bus .hand] : List Event)).flatten ++
  ([.bus .forward, .bus .send] : List Event) ++ List.replicate 32 (.bus (.ack 3 true)) ++
  ([.setComparatorSeqnum 0, .call 1 0 (.getReg 5), .answer 0 register5, .finish 0 false] : List Event) ++
  putOne 1 32 ++ ([.finish 1 false] : List Event)

/-- The claim for every run fails: the answer to the first read completes the second one. -/
theorem late_answer_completes_next_request :
    ¬ ∀ (c : Bus.Config) (nodeId : Byte) (events : List Event) (t : State),
      (machine c nodeId).run? initial events = some t → OwnAnswers t := by
  intro everywhere
  have done : ((machine oneEndpoint 7).run? initial readTwice).any
      (fun t => completedBy t == [(0, some (some 0)), (32, some (some 0))]) = true := by
    decide +kernel
  obtain ⟨t, run, checked⟩ := (Option.any_eq_true _ _).mp done
  have member : ((32, some (some 0)) : Bus.FrameId × Option Tag) ∈ completedBy t := by
    rw [eq_of_beq checked]
    exact List.mem_cons_of_mem _ (List.mem_singleton_self _)
  obtain ⟨⟨id, result⟩, inFinished, same⟩ := List.mem_map.mp member
  obtain ⟨rfl, tagged⟩ := Prod.mk.inj same
  obtain ⟨f, rfl, tag⟩ := Option.map_eq_some_iff.mp tagged
  have own := (everywhere oneEndpoint 7 readTwice t run).finished 32 f inFinished
  rw [tag] at own
  cases own

end H9d.RegisterTraffic
