import H9d.Model.FrameSubscribers
import H9d.Soundness.AsyncMessages
import H9d.Soundness.ComparatorOrder
import H9d.Soundness.FrameRelay

/-! # Subscribers follow the traffic

All observers of the daemon have default comparators, so a frame is for all of them. What the thread of the bus
queues for a client is what it has been told of since it subscribed, and the client's thread sends it in this
order.
-/

namespace H9d

open Cxx Jsonrpcpp Machine LabeledMachine H9Frame H9FrameComparator

section Notifications

variable {ε : Type} {f : H9Frame} {msg : Notification}

/-- There is a notification of a frame only if its data are in the array. -/
theorem fits_of_onFrame (written : (onFrame f : Outcome ε Notification) = .value msg) : f.dlc.toNat ≤ 8 := by
  by_contra long
  rw [onFrame, H9Frame.toJson, H9Frame.dataVector, if_neg long] at written
  cases written

theorem method_of_onFrame (written : (onFrame f : Outcome ε Notification) = .value msg) :
    msg.method = "on_frame" := by
  obtain ⟨j, -, made⟩ := Outcome.bind_eq_value.mp written
  cases made
  rfl

/-- Whoever drives the other daemon takes the notification for the frame. -/
def Relays (f : H9Frame) (msg : Notification) : Prop :=
  ∀ cast name g, ∃ h, H9DDriver.recvData cast name (some msg) g = .ok (.recvFrame h) ∧ SameOnWire f h

theorem relays_of_onFrame (written : (onFrame f : Outcome Exception Notification) = .value msg) :
    Relays f msg := by
  intro cast name g
  obtain ⟨msg', h, written', read, same⟩ := recvData_onFrame Exception (fits_of_onFrame written) cast name g
  cases written.symm.trans written'
  exact ⟨h, read, same⟩

end Notifications

namespace FrameSubscribers

open FrameSubject TCPClientThread

/-! ## The observers -/

theorem lt_defaultConstructed (a b : BitVec 16) : (defaultConstructed a).lt (defaultConstructed b) = false := rfl

/-- Nothing is compared. -/
theorem eqFrame_defaultConstructed (group : BitVec 16) (frame : H9Frame) :
    (defaultConstructed group).eqFrame frame = true := by
  have none (flag : BitVec 16) : (defaultConstructed group).compares flag = false := by
    simp [compares, defaultConstructed]
  rw [eqFrame_iff, eq_iff]
  simp [none]

theorem strictWeakOn_defaultConstructed (groups : List (BitVec 16)) :
    StrictWeakOn H9FrameComparator.lt (groups.map defaultConstructed) := by
  have never : ∀ a ∈ groups.map defaultConstructed, ∀ b ∈ groups.map defaultConstructed, a.lt b = false := by
    intro a ha b hb
    obtain ⟨group, -, rfl⟩ := List.mem_map.mp ha
    obtain ⟨group', -, rfl⟩ := List.mem_map.mp hb
    exact lt_defaultConstructed group group'
  refine ⟨fun a ha => never a ha a ha, fun a ha b hb c _ less => ?_, fun a ha b _ c hc _ _ => ?_⟩
  · rw [never a ha b hb] at less
    cases less
  · exact ⟨never a ha c hc, never c hc a ha⟩

variable (group memory : BitVec 16) (observers : List Observer) (observer : Observer)

theorem attachFrameObserver_defaultConstructed :
    (⟨[(defaultConstructed group, observers)]⟩ : FrameSubject Observer).attachFrameObserver observer
      (defaultConstructed memory) = some ⟨[(defaultConstructed group, observers ++ [observer])]⟩ :=
  if_pos (strictWeakOn_defaultConstructed [memory, group])

theorem detachFrameObserver_defaultConstructed (manager : .nodeMgr ∈ observers) (c : ClientId) :
    (⟨[(defaultConstructed group, observers)]⟩ : FrameSubject Observer).detachFrameObserver (.clientFrameObs c) =
      ⟨[(defaultConstructed group, observers.filter (· ≠ .clientFrameObs c))]⟩ := by
  have kept : observers.filter (· ≠ .clientFrameObs c) ≠ [] :=
    List.ne_nil_of_mem (List.mem_filter.mpr ⟨manager, by simp⟩)
  rw [detachFrameObserver, List.map_singleton, List.filter_cons_of_pos (by simpa using kept), List.filter_nil]

theorem notified_defaultConstructed (frame : H9Frame) :
    notified frame [(defaultConstructed group, observers)] = observers := by
  rw [notified_cons, if_pos (eqFrame_defaultConstructed group frame)]
  exact List.append_nil observers

/-! ## What a client is told -/

/-- The frames that some calls tell a client of. -/
def told (c : ClientId) (calls : List (Callback Observer)) : List H9Frame :=
  (calls.filter fun call => call.observer = .clientFrameObs c).map Callback.frame

/-- A loop over the observers tells a client of the frame as often as the client is among them. -/
theorem told_map (c : ClientId) (frame : H9Frame) {make : Observer → Callback Observer}
    (its : ∀ o, (make o).observer = o) (of : ∀ o, (make o).frame = frame) :
    told c (observers.map make) = List.replicate (observers.count (.clientFrameObs c)) frame := by
  induction observers with
  | nil => rfl
  | cons o observers ih =>
    rw [told] at ih ⊢
    rw [List.map_cons, List.filter_cons, its, List.count_cons]
    by_cases here : o = .clientFrameObs c
    · simp [here, ih, of, List.replicate_succ]
    · simp [here, ih]

/-- The frames among the messages. -/
def frames (msgs : List Notification) : List Notification := msgs.filter (·.method = "on_frame")

theorem frames_append (first second : List Notification) : frames (first ++ second) = frames first ++ frames second :=
  List.filter_append first second

/-- What a step queues. -/
def pushed : TCPClientThread.Event Notification → List Notification
  | .push _ msg => [msg]
  | .trigger _ | .unlock _ | .wait .. | .recvMsg _ | .pop | .send _ | .closeConnection | .leave => []

theorem frames_pushed_fromOthers {e : TCPClientThread.Event Notification} (others : fromOthers e = true) :
    frames (pushed e) = [] := by
  cases e with
  | push thread msg =>
    rw [fromOthers, Bool.and_eq_true, bne_iff_ne, bne_iff_ne] at others
    simp [frames, pushed, others.2]
  | trigger _ | unlock _ | wait _ _ | recvMsg _ | pop | send _ | closeConnection | leave => rfl

theorem queued_step {thread thread' : TCPClientThread.State Notification} {e : TCPClientThread.Event Notification}
    (step : (TCPClientThread.machine Notification).step? thread e = some thread') :
    thread'.queued = thread.queued ++ pushed e := by
  cases (Step.of_step? step).2 with
  | push _ _ _ => rfl
  | trigger _ _ | unlock _ _ | waitSocket _ _ _ | waitAsync _ _ | recvMsg _ _ _ _ _ _ _ _ | popNone _ _
  | pop _ _ _ _ _ | sent _ _ _ | unsent _ _ _ _ | sendFails _ | closeConnection | leave _ _ =>
    exact (List.append_nil _).symm

/-! ## One step -/

variable {s t : FrameSubscribers} {e : Event}

/-- One constructor for each thing a step can do, with the guards it has passed. -/
inductive Step (s : FrameSubscribers) : Event → FrameSubscribers → Prop
  | notify (e : Event) (frame : H9Frame) (make : Observer → Callback Observer) (outside : s.bus = .outside)
      (its : ∀ o, (make o).observer = o) (of : ∀ o, (make o).frame = frame) :
      Step s e { s with
        bus := .inLoop ((notified frame s.subject.frameObservers).map make)
        traffic := s.traffic ++ [frame] }
  | manager (call : Callback Observer) (calls : List (Callback Observer)) (inLoop : s.bus = .inLoop (call :: calls))
      (its : call.observer = .nodeMgr) : Step s .onFrame { s with bus := .inLoop calls }
  | queue (c : ClientId) (call : Callback Observer) (calls : List (Callback Observer)) (msg : Notification)
      (thread : TCPClientThread.State Notification) (inLoop : s.bus = .inLoop (call :: calls))
      (its : call.observer = .clientFrameObs c)
      (written : (onFrame call.frame : Outcome Exception Notification) = .value msg)
      (step : (TCPClientThread.machine Notification).step? (s.clients c).thread (.push recvThread msg) = some thread) :
      Step s .onFrame { s.setClient c { s.clients c with thread } with bus := .inSendMsg c calls }
  | thread (e : Event) (c : ClientId) (label : TCPClientThread.Event Notification) (bus : Notifying)
      (thread : TCPClientThread.State Notification) (calls : bus.calls = s.bus.calls)
      (quiet : frames (pushed label) = []) (one : e = .client c label ∨ ∀ thread, ReportsOne thread label)
      (step : (TCPClientThread.machine Notification).step? (s.clients c).thread label = some thread) :
      Step s e { s.setClient c { s.clients c with thread } with bus }
  | finish (inLoop : s.bus = .inLoop []) : Step s .finish { s with bus := .outside }
  | subscribe (c : ClientId) (memory : BitVec 16) (subject : FrameSubject Observer) (outside : s.bus = .outside)
      (unset : (s.clients c).frameObserver = false)
      (attached : s.subject.attachFrameObserver (.clientFrameObs c) (defaultConstructed memory) = some subject) :
      Step s (.subscribe c memory) { s.setClient c
        { s.clients c with frameObserver := true, attached := true, missed := s.traffic.length } with subject }
  | detach (c : ClientId) (outside : s.bus = .outside) :
      Step s (.detach c) { s.setClient c { s.clients c with attached := false } with
        subject := s.subject.detachFrameObserver (.clientFrameObs c) }

theorem stepThread_eq_some {c : ClientId} {label : TCPClientThread.Event Notification} :
    s.stepThread c label = some t ↔
      ∃ thread, (TCPClientThread.machine Notification).step? (s.clients c).thread label = some thread ∧
        s.setClient c { s.clients c with thread } = t := Option.map_eq_some_iff

theorem notify_eq_some {frame : H9Frame} {calls : List (Callback Observer)} :
    s.notify frame calls = some t ↔
      s.bus = .outside ∧ { s with bus := .inLoop calls, traffic := s.traffic ++ [frame] } = t := by
  rw [notify]
  cases s.bus with
  | outside => simp
  | inLoop calls' => simp
  | inSendMsg c calls' => simp

theorem Step.of_call {call : Callback Observer} {calls : List (Callback Observer)}
    (inLoop : s.bus = .inLoop (call :: calls)) (step : s.call calls call.frame call.observer = some t) :
    Step s .onFrame t := by
  cases its : call.observer with
  | nodeMgr =>
    rw [its] at step
    cases step
    exact .manager call calls inLoop its
  | clientFrameObs c =>
    rw [its, FrameSubscribers.call] at step
    cases written : (onFrame call.frame : Outcome Exception Notification) with
    | value msg =>
      rw [written] at step
      obtain ⟨thread, pushed, rfl⟩ := stepThread_eq_some.mp step
      exact .queue c call calls msg thread inLoop its written pushed
    | throws e | undefined =>
      rw [written] at step
      cases step

theorem Step.of_step? (step : machine.step? s e = some t) : Step s e t := by
  change step? s e = some t at step
  cases e with
  | notifyFrameRecvObserver frame =>
    obtain ⟨outside, rfl⟩ := notify_eq_some.mp step
    exact .notify _ frame (.onFrameRecv · frame) outside (fun _ => rfl) fun _ => rfl
  | notifyFrameSendObserver frame =>
    obtain ⟨outside, rfl⟩ := notify_eq_some.mp step
    exact .notify _ frame (.onFrameSend · frame) outside (fun _ => rfl) fun _ => rfl
  | onFrame =>
    rw [step?] at step
    split at step
    · next call calls inLoop => exact .of_call inLoop step
    all_goals cases step
  | trigger =>
    rw [step?] at step
    split at step
    · next c calls sending =>
      obtain ⟨thread, stepped, rfl⟩ := stepThread_eq_some.mp step
      exact .thread _ c (.trigger recvThread) s.bus thread rfl rfl (.inr fun _ => trivial) stepped
    all_goals cases step
  | unlock =>
    rw [step?] at step
    split at step
    · next c calls sending =>
      obtain ⟨thread, stepped, rfl⟩ := stepThread_eq_some.mp step
      have same : (Notifying.inLoop calls).calls = s.bus.calls := by rw [sending]; rfl
      exact .thread _ c (.unlock recvThread) (.inLoop calls) thread same rfl (.inr fun _ => trivial) stepped
    all_goals cases step
  | finish =>
    rw [step?] at step
    split at step
    · next inLoop =>
      cases step
      exact .finish inLoop
    all_goals cases step
  | subscribe c memory =>
    rw [step?, FrameSubscribers.subscribe] at step
    split at step
    · next outside serving unset =>
      obtain ⟨subject, attached, rfl⟩ := Option.map_eq_some_iff.mp step
      exact .subscribe c memory subject outside unset attached
    · cases step
  | detach c =>
    rw [step?, FrameSubscribers.detach] at step
    split at step
    · next outside finished attached =>
      cases step
      exact .detach c outside
    · cases step
  | client c label =>
    obtain ⟨others, step⟩ := Option.ite_none_right_eq_some.mp step
    obtain ⟨thread, stepped, rfl⟩ := stepThread_eq_some.mp step
    exact .thread _ c label s.bus thread rfl (frames_pushed_fromOthers others) (.inl rfl) stepped

/-! ## What every step preserves -/

/-- What a client's thread has been given of the traffic, with the calls that the bus has yet to make. -/
structure Follows (calls : List (Callback Observer)) (traffic : List H9Frame) (c : ClientId) (client : Client) :
    Prop where
  outsider : client.attached = false → told c calls = []
  fresh : client.frameObserver = false → client.attached = false ∧ frames client.thread.queued = []
  missed : client.missed ≤ traffic.length
  follows : client.attached = true → ∃ reached, traffic.drop client.missed = reached ++ told c calls ∧
    List.Forall₂ Relays reached (frames client.thread.queued)
  inOrder : client.thread.InOrder

section Clients

variable {calls : List (Callback Observer)} {call : Callback Observer} {traffic : List H9Frame} {c : ClientId}
  {client : Client} {thread : TCPClientThread.State Notification}

theorem Follows.step (follows : Follows calls traffic c client) {label : TCPClientThread.Event Notification}
    (step : (TCPClientThread.machine Notification).step? client.thread label = some thread)
    (quiet : frames (pushed label) = []) : Follows calls traffic c { client with thread } := by
  have same : frames thread.queued = frames client.thread.queued := by
    rw [queued_step step, frames_append, quiet, List.append_nil]
  refine ⟨follows.outsider, ?_, follows.missed, ?_, (TCPClientThread.Step.of_step? step).2.inOrder follows.inOrder⟩
  · rw [same]
    exact follows.fresh
  · rw [same]
    exact follows.follows

theorem told_cons_of_ne (other : call.observer ≠ .clientFrameObs c) : told c (call :: calls) = told c calls := by
  rw [told, List.filter_cons_of_neg (by simpa using other)]
  rfl

theorem told_cons_self (its : call.observer = .clientFrameObs c) :
    told c (call :: calls) = call.frame :: told c calls := by
  rw [told, List.filter_cons_of_pos (by simpa using its)]
  rfl

/-- The call of another observer. -/
theorem Follows.skip (follows : Follows (call :: calls) traffic c client)
    (other : call.observer ≠ .clientFrameObs c) : Follows calls traffic c client := by
  obtain ⟨outsider, fresh, missed, reached, inOrder⟩ := follows
  rw [told_cons_of_ne other] at outsider reached
  exact ⟨outsider, fresh, missed, reached, inOrder⟩

/-- The call of the client's observer; only an attached one is called. -/
theorem Follows.queue (follows : Follows (call :: calls) traffic c client)
    (its : call.observer = .clientFrameObs c) {msg : Notification}
    (written : (onFrame call.frame : Outcome Exception Notification) = .value msg)
    (step : (TCPClientThread.machine Notification).step? client.thread (.push recvThread msg) = some thread) :
    Follows calls traffic c { client with thread } := by
  have attached : client.attached = true := by
    by_contra outsider
    have none := follows.outsider (Bool.not_eq_true _ ▸ outsider)
    rw [told_cons_self its] at none
    cases none
  have more : frames thread.queued = frames client.thread.queued ++ [msg] := by
    rw [queued_step step, frames_append]
    simp [frames, pushed, method_of_onFrame written]
  refine ⟨fun outsider => ?_, fun unset => ?_, follows.missed, fun _ => ?_,
    (TCPClientThread.Step.of_step? step).2.inOrder follows.inOrder⟩
  · exact absurd (attached.symm.trans outsider) Bool.noConfusion
  · exact absurd (attached.symm.trans (follows.fresh unset).1) Bool.noConfusion
  · obtain ⟨reached, split, relayed⟩ := follows.follows attached
    refine ⟨reached ++ [call.frame], ?_, ?_⟩
    · rw [split, told_cons_self its, List.append_assoc]
      rfl
    · rw [more]
      exact List.rel_append relayed (.cons (relays_of_onFrame written) .nil)

/-- A frame comes up while no call is left. -/
theorem Follows.notify (follows : Follows [] traffic c client) {frame : H9Frame}
    (one : told c calls = List.replicate client.attached.toNat frame) :
    Follows calls (traffic ++ [frame]) c client := by
  refine ⟨fun outsider => ?_, follows.fresh, ?_, fun attached => ?_, follows.inOrder⟩
  · rw [one, outsider]
    rfl
  · rw [List.length_append]
    exact Nat.le_add_right_of_le follows.missed
  · obtain ⟨reached, split, relayed⟩ := follows.follows attached
    refine ⟨reached, ?_, relayed⟩
    rw [List.drop_append_of_le_length follows.missed, split, one, attached, List.append_assoc]
    rfl

theorem Follows.subscribe (follows : Follows [] traffic c client) (unset : client.frameObserver = false) :
    Follows [] traffic c { client with frameObserver := true, attached := true, missed := traffic.length } := by
  refine ⟨fun _ => rfl, fun unset => Bool.noConfusion unset, le_rfl, fun _ => ⟨[], ?_, ?_⟩, follows.inOrder⟩
  · rw [List.drop_length]
    rfl
  · rw [(follows.fresh unset).2]
    exact .nil

theorem Follows.detach (follows : Follows [] traffic c client) :
    Follows [] traffic c { client with attached := false } :=
  ⟨fun _ => rfl, fun unset => ⟨rfl, (follows.fresh unset).2⟩, follows.missed,
    fun attached => Bool.noConfusion attached, follows.inOrder⟩

end Clients

/-- All observers are under one key, and there is one for each client that is attached. -/
structure Inv (s : FrameSubscribers) : Prop where
  observers : ∃ group observers, s.subject = ⟨[(defaultConstructed group, observers)]⟩ ∧ .nodeMgr ∈ observers ∧
    ∀ c, observers.count (.clientFrameObs c) = (s.clients c).attached.toNat
  follows : ∀ c, Follows s.bus.calls s.traffic c (s.clients c)

theorem inv_start {memory : BitVec 16} (start : start memory = some s) : Inv s := by
  have attached : (new : FrameSubject Observer).attachFrameObserver .nodeMgr (defaultConstructed memory) =
      some ⟨[(defaultConstructed memory, [.nodeMgr])]⟩ := if_pos (strictWeakOn_defaultConstructed [memory])
  rw [FrameSubscribers.start, attached] at start
  cases start
  refine ⟨⟨memory, [.nodeMgr], rfl, List.mem_singleton_self _, fun _ => rfl⟩, fun _ => ?_⟩
  exact ⟨fun _ => rfl, fun _ => ⟨rfl, rfl⟩, le_rfl, fun attached => Bool.noConfusion attached, fun _ => rfl⟩

theorem forall_setClient {c : ClientId} {next : Client} {P : ClientId → Client → Prop}
    (others : ∀ d, d ≠ c → P d (s.clients d)) (its : P c next) (d : ClientId) : P d ((s.setClient c next).clients d) :=
  (Function.forall_update_iff s.clients P).mpr ⟨its, others⟩ d

theorem Step.inv (step : Step s e t) (inv : Inv s) : Inv t := by
  obtain ⟨⟨group, observers, subject, manager, counts⟩, follows⟩ := inv
  have following (calls : List (Callback Observer)) (same : s.bus.calls = calls) (d : ClientId) :
      Follows calls s.traffic d (s.clients d) := same ▸ follows d
  have counted {c : ClientId} {next : Client} {observers : List Observer}
      (others : ∀ d, d ≠ c → observers.count (.clientFrameObs d) = (s.clients d).attached.toNat)
      (its : observers.count (.clientFrameObs c) = next.attached.toNat) (d : ClientId) :
      observers.count (.clientFrameObs d) = ((s.setClient c next).clients d).attached.toNat :=
    forall_setClient (P := fun d client => observers.count (.clientFrameObs d) = client.attached.toNat) others its d
  cases step with
  | notify e frame make outside its of =>
    refine ⟨⟨group, observers, subject, manager, counts⟩, fun c => ?_⟩
    refine (following [] (by rw [outside]; rfl) c).notify ?_
    change told c ((notified frame s.subject.frameObservers).map make) = _
    rw [subject, notified_defaultConstructed, told_map observers c frame its of, counts]
  | manager call calls inLoop its =>
    refine ⟨⟨group, observers, subject, manager, counts⟩, fun c => ?_⟩
    exact (following (call :: calls) (by rw [inLoop]; rfl) c).skip (by simp [its])
  | queue c call calls msg thread inLoop its written stepped =>
    have before := following (call :: calls) (by rw [inLoop]; rfl)
    refine ⟨⟨group, observers, subject, manager, counted (fun d _ => counts d) (counts c)⟩, ?_⟩
    refine forall_setClient (fun d apart => (before d).skip ?_) ((before c).queue its written stepped)
    rw [its]
    exact fun same => apart (Observer.clientFrameObs.inj same).symm
  | thread e c label bus thread same quiet one stepped =>
    refine ⟨⟨group, observers, subject, manager, counted (fun d _ => counts d) (counts c)⟩, ?_⟩
    have before := following _ same.symm
    exact forall_setClient (fun d _ => before d) ((before c).step stepped quiet)
  | finish inLoop =>
    exact ⟨⟨group, observers, subject, manager, counts⟩, following [] (by rw [inLoop]; rfl)⟩
  | subscribe c memory next outside unset attached =>
    rw [subject, attachFrameObserver_defaultConstructed, Option.some.injEq] at attached
    refine ⟨⟨group, observers ++ [.clientFrameObs c], attached.symm, List.mem_append_left _ manager, ?_⟩, ?_⟩
    · refine counted (fun d apart => ?_) ?_
      · rw [List.count_append, counts, List.count_singleton, if_neg]
        · rfl
        · simpa using apart.symm
      · rw [List.count_append, counts, ((follows c).fresh unset).1, List.count_singleton_self]
        rfl
    · have before := following [] (by rw [outside]; rfl)
      change ∀ d, Follows s.bus.calls _ _ _
      rw [outside]
      exact forall_setClient (fun d _ => before d) ((before c).subscribe unset)
  | detach c outside =>
    refine ⟨⟨group, observers.filter (· ≠ .clientFrameObs c), ?_, ?_, ?_⟩, ?_⟩
    · change s.subject.detachFrameObserver _ = _
      rw [subject, detachFrameObserver_defaultConstructed group observers manager]
    · exact List.mem_filter.mpr ⟨manager, by simp⟩
    · refine counted (fun d apart => ?_) ?_
      · rw [List.count_filter, counts]
        simpa using apart
      · exact List.count_eq_zero.mpr (by simp)
    · have before := following [] (by rw [outside]; rfl)
      change ∀ d, Follows s.bus.calls _ _ _
      rw [outside]
      exact forall_setClient (fun d _ => before d) (before c).detach

/-- `wait` of a client's thread reports the socket or the async event, and not both. -/
def ReportsOne (s : FrameSubscribers) : Event → Prop
  | .client c e => TCPClientThread.ReportsOne (s.clients c).thread e
  | .notifyFrameRecvObserver _ | .notifyFrameSendObserver _ | .onFrame | .trigger | .unlock | .finish
  | .subscribe _ _ | .detach _ => True

instance (s : FrameSubscribers) : (e : Event) → Decidable (ReportsOne s e)
  | .client c e => inferInstanceAs (Decidable (TCPClientThread.ReportsOne (s.clients c).thread e))
  | .notifyFrameRecvObserver _ | .notifyFrameSendObserver _ | .onFrame | .trigger | .unlock | .finish
  | .subscribe _ _ | .detach _ => isTrue trivial

theorem Step.attentive (step : Step s e t) (one : ReportsOne s e)
    (attentive : ∀ c, Attentive (s.clients c).thread) (c : ClientId) : Attentive (t.clients c).thread := by
  have changed {d : ClientId} {next : Client} (its : Attentive next.thread) :
      Attentive ((s.setClient d next).clients c).thread :=
    forall_setClient (P := fun _ client => Attentive client.thread) (fun c _ => attentive c) its c
  cases step with
  | notify _ _ _ _ _ _ | manager _ _ _ _ | finish _ => exact attentive c
  | queue d _ _ _ _ _ _ _ stepped => exact changed ((attentive d).step (e := .push recvThread _) trivial stepped)
  | thread _ d label _ _ _ _ which stepped =>
    refine changed ((attentive d).step ?_ stepped)
    rcases which with rfl | always
    · exact one
    · exact always _
  | subscribe d _ _ _ _ _ => exact changed (attentive d)
  | detach d _ => exact changed (attentive d)

/-! ## Runs -/

/-- A client is told of nothing before it subscribes; then it is sent each frame of the bus once, in order, and the same
on the wire, with the rest on its way. When its thread has nothing to do, it has been sent all of them, as long
as no `wait` has reported the socket and the async event together. -/
theorem subscribers_follow_traffic {memory : BitVec 16} {events : List Event} (initial : start memory = some s)
    (run : machine.run? s events = some t) (c : ClientId) :
    ((t.clients c).frameObserver = false → frames (t.clients c).thread.queued = []) ∧
    ((t.clients c).attached = true → (t.clients c).thread.running = true →
      (∃ sent waiting, t.traffic.drop (t.clients c).missed = sent ++ waiting ++ told c t.bus.calls ∧
        List.Forall₂ Relays sent (frames (t.clients c).thread.sent) ∧
        List.Forall₂ Relays waiting
          (frames ((t.clients c).thread.phase.inHand ++ (t.clients c).thread.asyncMsgQueue))) ∧
      (machine.AllSteps ReportsOne s events → ¬(t.clients c).thread.Awake →
        (t.clients c).thread.phase.inHand = [] → told c t.bus.calls = [] →
        List.Forall₂ Relays (t.traffic.drop (t.clients c).missed) (frames (t.clients c).thread.sent))) := by
  have inv : Inv t := run_invariant Inv (fun _ _ _ inv step => (Step.of_step? step).inv inv) (inv_start initial) run
  have follows := inv.follows c
  refine ⟨fun unset => (follows.fresh unset).2, fun attached live => ?_⟩
  obtain ⟨reached, split, relayed⟩ := follows.follows attached
  rw [← follows.inOrder live, List.append_assoc, frames_append] at relayed
  refine ⟨⟨_, _, ?_, List.forall₂_take_append _ _ _ relayed, List.forall₂_drop_append _ _ _ relayed⟩,
    fun one asleep emptyHanded finished => ?_⟩
  · rw [List.take_append_drop]
    exact split
  · have started : ∀ c, Attentive (s.clients c).thread := by
      obtain ⟨subject, -, rfl⟩ := Option.map_eq_some_iff.mp initial
      exact fun _ => attentive_initial
    have attentive := run_invariant_of_guard (fun s : FrameSubscribers => ∀ c, Attentive (s.clients c).thread)
      (fun _ _ _ all one step => (Step.of_step? step).attentive one all) started one run
    have empty : (t.clients c).thread.asyncMsgQueue = [] := by
      by_contra waiting
      exact asleep (awake_of_safe (attentive c).safe waiting)
    rw [emptyHanded, empty] at relayed
    rw [split, finished, List.append_nil]
    simpa [frames] using relayed

def heartbeat (sourceId : Byte) : H9Frame := { (default : H9Frame) with type := FrameType.NODE_HEARTBEAT, sourceId }

/-- A client subscribes between two frames. -/
def lateSubscriber : List Event :=
  [.notifyFrameRecvObserver (heartbeat 1), .onFrame, .finish, .client 7 (.wait true false), .subscribe 7 0,
    .client 7 (.recvMsg .ok), .notifyFrameSendObserver (heartbeat 2), .onFrame, .onFrame, .trigger,
    .client 7 (.wait false true), .unlock, .finish, .client 7 .pop, .client 7 (.send .ok)]

theorem subscribers_follow_traffic_late :
    ∃ s t, start 0 = some s ∧ machine.run? s lateSubscriber = some t ∧
      List.Forall₂ Relays [heartbeat 2] (frames (t.clients 7).thread.sent) := by
  obtain ⟨s, initial⟩ : ∃ s, start 0 = some s := ⟨_, rfl⟩
  have ends : ((start 0).bind (machine.run? · lateSubscriber)).map (fun t =>
      (t.traffic.drop (t.clients 7).missed, (t.clients 7).attached, (t.clients 7).thread.running)) =
        some ([heartbeat 2], true, true) := by decide +kernel
  have rests : ((start 0).bind (machine.run? · lateSubscriber)).all (fun t =>
      !(t.clients 7).thread.asyncPending && !(t.clients 7).thread.phase.draining && !(t.clients 7).thread.owes &&
        (t.clients 7).thread.phase.inHand.isEmpty && (told 7 t.bus.calls).isEmpty) = true := by decide +kernel
  have one : (start 0).all (fun s => decide (machine.AllSteps ReportsOne s lateSubscriber)) = true := by decide +kernel
  rw [initial] at ends rests one
  obtain ⟨t, run, values⟩ := Option.map_eq_some_iff.mp ends
  rw [run] at rests
  simp only [Prod.mk.injEq] at values
  simp only [Option.all_some, Bool.and_eq_true, Bool.not_eq_true', List.isEmpty_iff] at rests
  obtain ⟨reached, attached, live⟩ := values
  obtain ⟨⟨⟨⟨pending, draining⟩, owes⟩, emptyHanded⟩, finished⟩ := rests
  obtain ⟨-, follows⟩ := subscribers_follow_traffic initial run 7
  refine ⟨s, t, initial, run, reached ▸ (follows attached live).2 (of_decide_eq_true one) ?_ emptyHanded finished⟩
  rw [State.Awake, pending, draining, owes]
  decide

end FrameSubscribers

end H9d
