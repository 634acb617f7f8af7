import H9d.Soundness.ObserverLifetime

/-! # Where the errors of a client's socket go

A thread that reads the end of its connection, or sends an asynchronous message to it in vain, leaves its
loop, detaches its observers and tells the server. Other failures of these calls leave the thread as an
exception, which ends the daemon, and so does an exception that a message has led to and nothing catches.
-/

namespace H9d.ClientLifetime

open Machine LabeledMachine TCPSocket

variable {assertions : Bool} {s t : State} {e : Event} {c : ClientId}

theorem delete_fault (healthy : s.fault ≠ some .exception) (observer : Option ObserverId) :
    (s.delete assertions observer).fault ≠ some .exception := by
  unfold State.delete
  split
  · exact healthy
  · split
    · exact nofun
    · split
      · exact nofun
      · dsimp only
        split
        · exact nofun
        · exact healthy

theorem detachObserver_fault (healthy : s.fault ≠ some .exception) (event : Subscription) (observer : ObserverId) :
    (s.detachObserver event observer).fault ≠ some .exception := by
  unfold State.detachObserver
  split
  · exact nofun
  · split
    · exact nofun
    · exact healthy

/-- Only the two failures of a socket, and what a message raises, become exceptions of the thread. -/
theorem Step.healthy (step : Step assertions s e t) (quiet : ¬ e.Throws) (healthy : s.fault ≠ some .exception) :
    t.fault ≠ some .exception := by
  cases step with
  | throw e c thread throws => exact absurd throws quiet
  | deleteObserver c event rest => exact delete_fault healthy _
  | deleteOld c event observer rest => exact delete_fault healthy _
  | detach c event observer => exact detachObserver_fault healthy event observer
  | dangling => exact nofun
  | wait | accept | pushBack | examined | keep | condemn | closeConnection | join | start | serve | leave | subscribe
  | assign | stop | detachNone | cleanup | notify | called | call => exact healthy

theorem Step.throws (step : Step assertions s e t) (throws : e.Throws) : t.fault = some .exception := by
  cases step with
  | throw => rfl
  | serve e c next thread quiet => exact absurd throws quiet
  | wait | accept | pushBack | examined | keep | condemn | deleteObserver | closeConnection | join | start | leave
  | subscribe | deleteOld | assign | stop | detachNone | detach | cleanup | notify | called | call | dangling =>
    exact throws.elim

/-- A client whose connection has ended is on its way out of the loop. -/
structure Client.Closing (client : Client) : Prop where
  ending : client.running = false → client.phase.ending = true
  ended : client.ended = true → client.running = false

theorem Client.Closing.running {client : Client} (closing : client.Closing) (ahead : client.phase.ending = false) :
    client.running = true := by
  cases running : client.running with
  | true => rfl
  | false => cases ahead.symm.trans (closing.ending running)

structure Contained (s : State) : Prop where
  observed : Observed s
  closing : ∀ c, (s.clients c).Closing
  notified : ∀ c, (s.clients c).phase = .finished → c ∈ s.notified
  noFault : s.fault = none

theorem contained_initial : Contained initial where
  observed := observed_initial
  closing _ := ⟨nofun, nofun⟩
  notified := nofun
  noFault := rfl

theorem Serves.closing {client next : Client} (serves : Serves client next) (closing : client.Closing) :
    next.Closing := by
  refine ⟨serves.stops closing.ending, fun ended => ?_⟩
  rcases serves.ended with ⟨running, same⟩ | ⟨running, -⟩
  · exact running.trans (closing.ended (same.symm.trans ended))
  · exact running

/-- A move to another phase from one in which the client still runs. -/
theorem Client.Closing.move {client : Client} (closing : client.Closing) (ahead : client.phase.ending = false)
    (phase : Phase) (observer : Subscription → Option ObserverId) (threadRunning : Bool) :
    Client.Closing { client with phase, observer, threadRunning } := by
  have running := closing.running ahead
  refine ⟨fun stopped => ?_, closing.ended⟩
  cases running.symm.trans stopped

theorem Step.closing (step : Step assertions s e t) (o : Observed s) (closing : ∀ c, (s.clients c).Closing) :
    ∀ c, (t.clients c).Closing := by
  have moved {c : ClientId} {next : Client} (new : next.Closing) :
      ∀ d, ((s.setClient c next).clients d).Closing :=
    forall_setClient (P := fun _ => Client.Closing) closing new
  cases step with
  | accept c accepting absent => exact moved ⟨nofun, nofun⟩
  | closeConnection c rest deleting =>
    have ending : (s.clients c).phase.ending = true := by
      have detached := o.deleting c _ rest deleting .devStatus
      cases phase : (s.clients c).phase <;> first | rfl | (rw [phase] at detached; cases detached)
    exact moved ⟨fun _ => ending, fun _ => rfl⟩
  | start c created => exact moved ((closing c).move (by rw [created]; rfl) _ _ _)
  | serve e c next thread quiet serves => exact moved (serves.closing (closing c))
  | leave c loop stopped => exact moved ⟨fun _ => rfl, fun _ => stopped⟩
  | subscribe c event observer rest handling => exact moved ((closing c).move (by rw [handling]; rfl) _ _ _)
  | deleteOld c event observer rest subscribing =>
    obtain ⟨_, _, same⟩ := deleteOld_eq s assertions c event observer rest
    rw [same]
    exact moved ((closing c).move (by rw [subscribing]; rfl) _ _ _)
  | assign c event observer rest assigning => exact moved ((closing c).move (by rw [assigning]; rfl) _ _ _)
  | stop c left => exact moved ⟨fun _ => rfl, (closing c).ended⟩
  | detachNone c event detaching => exact moved ⟨fun _ => by cases event <;> rfl, (closing c).ended⟩
  | detach c event observer detaching =>
    obtain ⟨_, _, _, same⟩ := detachObserver_eq s event observer
    rw [same]
    exact moved ⟨fun _ => by cases event <;> rfl, (closing c).ended⟩
  | cleanup c detached => exact moved ⟨fun _ => rfl, (closing c).ended⟩
  | deleteObserver c event rest deleting =>
    obtain ⟨_, _, same⟩ := delete_eq s assertions ((s.clients c).observer event)
    rw [same]
    exact closing
  | wait | pushBack | examined | keep | condemn | join | throw | notify | called | call | dangling => exact closing

/-- Nobody but its own thread ends the life of a thread. -/
theorem Step.notified (step : Step assertions s e t)
    (notified : ∀ c, (s.clients c).phase = .finished → c ∈ s.notified) :
    ∀ c, (t.clients c).phase = .finished → c ∈ t.notified := by
  have moved {c : ClientId} {next : Client} (new : next.phase ≠ .finished) :
      ∀ d, ((s.setClient c next).clients d).phase = .finished → d ∈ s.notified :=
    forall_setClient (P := fun d client => client.phase = .finished → d ∈ s.notified) notified
      (fun finished => absurd finished new)
  cases step with
  | accept c accepting absent => exact moved nofun
  | closeConnection c rest deleting =>
    exact forall_setClient (P := fun d client => client.phase = .finished → d ∈ s.notified) notified (notified c)
  | start c created => exact moved nofun
  | serve e c next thread quiet serves =>
    refine moved fun finished => ?_
    have after := serves.after
    rw [finished] at after
    cases after
  | leave c loop stopped => exact moved nofun
  | subscribe c event observer rest handling => exact moved nofun
  | deleteOld c event observer rest subscribing =>
    obtain ⟨_, _, same⟩ := deleteOld_eq s assertions c event observer rest
    rw [same]
    exact moved nofun
  | assign c event observer rest assigning => exact moved nofun
  | stop c left => exact moved nofun
  | detachNone c event detaching => exact moved (by cases event <;> exact nofun)
  | detach c event observer detaching =>
    obtain ⟨_, _, _, same⟩ := detachObserver_eq s event observer
    rw [same]
    exact moved (by cases event <;> exact nofun)
  | cleanup c detached =>
    exact forall_setClient (P := fun d client => client.phase = .finished → d ∈ s.notified ++ [c])
      (fun d finished => List.mem_append_left _ (notified d finished))
      (fun _ => List.mem_append_right _ (List.mem_singleton_self c))
  | deleteObserver c event rest deleting =>
    obtain ⟨_, _, same⟩ := delete_eq s assertions ((s.clients c).observer event)
    rw [same]
    exact notified
  | wait | pushBack | examined | keep | condemn | join | throw | notify | called | call | dangling => exact notified

theorem Step.contained (step : Step assertions s e t) (quiet : ¬ e.Throws) (orderly : Orderly s e)
    (k : Contained s) : Contained t := by
  have observed := step.observed orderly k.observed
  refine ⟨observed, step.closing k.observed k.closing, step.notified k.notified, ?_⟩
  have healthy := step.healthy quiet (by rw [k.noFault]; exact nofun)
  cases fault : t.fault with
  | none => rfl
  | some fault' =>
    cases fault' with
    | assertion => exact absurd fault observed.noFault.1
    | useAfterFree => exact absurd fault observed.noFault.2
    | exception => exact absurd fault healthy

section Progress

/-- How far a thread is from its end, once its connection has ended and no message is queued any more. -/
def Phase.rank : Phase → ℕ
  | .sending _ false => 9
  | .sendAsyncMsg => 8
  | .sending _ true => 7
  | .handling _ => 6
  | .left => 5
  | .detaching .frame => 4
  | .detaching .devStatus => 3
  | .cleanup => 2
  | _ => 0

/-- The calls that are made before a lock is free. -/
def State.held (s : State) (event : Subscription) : ℕ :=
  ((s.notifying event).map fun observers => observers.length + 1).sum

def State.work (s : State) (c : ClientId) : ℕ := (s.clients c).phase.rank + (s.held .frame + s.held .devStatus)

/-- The events in which a thread ends: its own, and the calls that hold a lock. -/
def Event.Of (e : Event) (c : ClientId) : Prop := e.client = some c ∨ ∃ event notification, e = .call event notification

/-- One of them, which brings the thread nearer to its end. -/
structure Nearer (assertions : Bool) (c : ClientId) (s : State) (e : Event) (t : State) : Prop where
  own : e.Of c
  quiet : ¬ e.Throws
  orderly : Orderly s e
  step : (machine assertions).step? s e = some t
  work : t.work c < s.work c
  stopped : (t.clients c).running = false
  others : ∀ d, d ≠ c → t.clients d = s.clients d

theorem Contained.nearer_call (k : Contained s) (stopped : (s.clients c).running = false) {event : Subscription}
    {observers : List ObserverId} {rest : List (List ObserverId)} (held : s.notifying event = observers :: rest) :
    ∃ t, Nearer assertions c s (.call event 0) t := by
  have stepIs : (machine assertions).step? s (.call event 0) = ClientLifetime.call s event 0 := if_pos k.noFault
  have nearer (left : List (List ObserverId)) (call : ClientLifetime.call s event 0 =
      some { s with notifying := Function.update s.notifying event left })
      (less : (left.map fun observers => observers.length + 1).sum < s.held event) :
      ∃ t, Nearer assertions c s (.call event 0) t := by
    refine ⟨_, .inr ⟨event, 0, rfl⟩, id, trivial, stepIs.trans call, ?_, stopped, fun _ _ => rfl⟩
    have frame : Subscription.frame ≠ .devStatus := nofun
    cases event with
    | frame =>
      simp only [State.work, State.held, Function.update_self, Function.update_of_ne frame.symm] at less ⊢
      omega
    | devStatus =>
      simp only [State.work, State.held, Function.update_self, Function.update_of_ne frame] at less ⊢
      omega
  cases observers with
  | nil =>
    refine nearer rest ?_ ?_
    · simp only [ClientLifetime.call, held, List.getElem?_cons_zero, List.eraseIdx_cons_zero]
    · simp only [State.held, held, List.map_cons, List.sum_cons]
      omega
  | cons observer more =>
    have alive : s.observers observer = some ⟨true, false⟩ :=
      k.observed.attached_alive (k.observed.notifying event _ (held ▸ List.mem_cons_self) List.mem_cons_self)
    refine nearer (more :: rest) ?_ ?_
    · simp only [ClientLifetime.call, held, List.getElem?_cons_zero, alive, List.set_cons_zero]
      rfl
    · simp only [State.held, held, List.map_cons, List.sum_cons, List.length_cons]
      omega

/-- A step of the thread to a phase nearer to its end. -/
theorem Nearer.of_setClient (next : Client) (thread : e.client = some c) (quiet : ¬ e.Throws) (orderly : Orderly s e)
    (step : (machine assertions).step? s e = some t) (clients : t.clients = (s.setClient c next).clients)
    (notifying : t.notifying = s.notifying) (rank : next.phase.rank < (s.clients c).phase.rank)
    (stopped : next.running = false) : Nearer assertions c s e t := by
  have own : t.clients c = next := by rw [clients, setClient_self]
  refine ⟨.inl thread, quiet, orderly, step, ?_, by rw [own]; exact stopped, fun d apart => ?_⟩
  · simp only [State.work, State.held, notifying, own]
    omega
  · rw [clients, setClient_of_ne s apart]

theorem Contained.nearer (k : Contained s) (stopped : (s.clients c).running = false)
    (unfinished : (s.clients c).phase ≠ .finished) : ∃ e t, Nearer assertions c s e t := by
  have stepIs (e : Event) : (machine assertions).step? s e = step? assertions s e := if_pos k.noFault
  have ending := (k.closing c).ending stopped
  have move (e : Event) (next : Client) (thread : e.client = some c) (quiet : ¬ e.Throws) (orderly : Orderly s e)
      (step : step? assertions s e = some (s.setClient c next)) (rank : next.phase.rank < (s.clients c).phase.rank)
      (stopped : next.running = false) : ∃ e t, Nearer assertions c s e t :=
    ⟨e, _, .of_setClient next thread quiet orderly ((stepIs e).trans step) rfl rfl rank stopped⟩
  cases phase : (s.clients c).phase with
  | finished => exact absurd phase unfinished
  | handling actions =>
    cases actions with
    | cons action rest =>
      rw [phase] at ending
      cases ending
    | nil =>
      refine move (.enter c) { s.clients c with phase := .left } rfl id trivial ?_
        (by rw [phase]; exact (by decide : 5 < 6)) stopped
      simp only [step?, phase, stopped]
      rfl
  | sendAsyncMsg =>
    refine move (.pop c 1 true) { s.clients c with phase := .sending (.header 1) true } rfl id trivial ?_
      (by rw [phase]; exact (by decide : 7 < 8)) stopped
    simp only [step?, phase]
  | sending writer queueEmpty =>
    refine move (.send c (.count 0))
      { s.clients c with phase := if queueEmpty then .loop else .sendAsyncMsg }.close rfl id trivial ?_ ?_ rfl
    · simp only [step?, phase]
      rfl
    · rw [phase]
      cases queueEmpty
      · exact (by decide : 8 < 9)
      · exact (by decide : 6 < 7)
  | left =>
    refine move (.stop c) { s.clients c with threadRunning := false, phase := .detaching .frame } rfl id trivial ?_
      (by rw [phase]; exact (by decide : 4 < 5)) stopped
    simp only [step?, phase]
  | detaching event =>
    have rank : event.afterDetach.rank < (s.clients c).phase.rank := by
      rw [phase]
      cases event <;> decide
    cases current : (s.clients c).observer event with
    | none =>
      refine move (.detach c) { s.clients c with phase := event.afterDetach } rfl id trivial ?_ rank stopped
      simp only [step?, phase, ClientLifetime.detach, current]
      cases event <;> rfl
    | some observer =>
      cases held : s.notifying event with
      | cons observers rest =>
        obtain ⟨t, nearer⟩ := k.nearer_call stopped held
        exact ⟨_, t, nearer⟩
      | nil =>
        obtain ⟨_, _, _, same⟩ := detachObserver_eq s event observer
        refine ⟨.detach c, (s.detachObserver event observer).setClient c { s.clients c with phase := event.afterDetach },
          .of_setClient { s.clients c with phase := event.afterDetach } rfl id trivial
            ((stepIs _).trans ?_) ?_ ?_ rank stopped⟩
        · simp only [step?, phase, ClientLifetime.detach, current, held, if_true]
          cases event <;> rfl
        · rw [same]
          rfl
        · rw [same]
          rfl
  | cleanup =>
    refine ⟨.cleanup c, ClientLifetime.cleanup s c, .of_setClient { s.clients c with phase := .finished } rfl id trivial
      ((stepIs _).trans ?_) rfl rfl (by rw [phase]; exact (by decide : 0 < 2)) stopped⟩
    simp only [step?, phase]
  | absent | created | waiting | receiving | subscribing _ _ _ | assigning _ _ _ | replying _ _ =>
    rw [phase] at ending
    cases ending

/-- A thread whose connection has ended can run to its end, without a step of another thread but to release
a lock. -/
theorem Contained.finishes (k : Contained s) (stopped : (s.clients c).running = false) :
    ∃ more t, (machine assertions).run? s more = some t ∧ (t.clients c).phase = .finished ∧
      (∀ e ∈ more, e.Of c) ∧ Contained t ∧ ∀ d, d ≠ c → t.clients d = s.clients d := by
  induction work : s.work c using Nat.strong_induction_on generalizing s with
  | _ n ih =>
    by_cases finished : (s.clients c).phase = .finished
    · exact ⟨[], s, rfl, finished, nofun, k, fun _ _ => rfl⟩
    · obtain ⟨e, t, nearer⟩ : ∃ e t, Nearer assertions c s e t := k.nearer stopped finished
      have contained := (Step.of_step? nearer.step).2.contained nearer.quiet nearer.orderly k
      obtain ⟨more, u, run, done, own, after, others⟩ :=
        ih (t.work c) (work ▸ nearer.work) contained nearer.stopped rfl
      refine ⟨e :: more, u, run?_cons_eq_some.mpr ⟨t, nearer.step, run⟩, done, fun e' member => ?_, after,
        fun d apart => (others d apart).trans (nearer.others d apart)⟩
      rcases List.mem_cons.mp member with rfl | later
      · exact nearer.own
      · exact own e' later

end Progress

/-- A thread writes to the members of its own client. -/
theorem Step.others (step : Step assertions s e t) (thread : e.client = some c) {d : ClientId} (apart : d ≠ c) :
    t.clients d = s.clients d := by
  cases step with
  | serve _ c' next own =>
    obtain rfl : c' = c := Option.some.inj (own.symm.trans thread)
    exact setClient_of_ne s apart _
  | start c' | leave c' | subscribe c' | assign c' | stop c' | detachNone c' | cleanup c' =>
    obtain rfl : c' = c := Option.some.inj thread
    exact setClient_of_ne s apart _
  | deleteOld c' event observer rest =>
    obtain rfl : c' = c := Option.some.inj thread
    obtain ⟨_, _, same⟩ := deleteOld_eq s assertions c' event observer rest
    rw [same]
    exact setClient_of_ne s apart _
  | detach c' event observer =>
    obtain rfl : c' = c := Option.some.inj thread
    obtain ⟨_, _, _, same⟩ := detachObserver_eq s event observer
    rw [same]
    exact setClient_of_ne s apart _
  | throw => rfl
  | wait | accept | pushBack | examined | keep | condemn | deleteObserver | closeConnection | join | notify | called
  | call | dangling => cases thread

/-- The thread has detached its observers and told the server. -/
def Released (s : State) (c : ClientId) : Prop :=
  c ∈ s.notified ∧ ∀ event observer, (s.clients c).observer event = some observer → observer ∉ s.attached event

theorem Contained.released (k : Contained s) (finished : (s.clients c).phase = .finished) : Released s c := by
  refine ⟨k.notified c finished, fun event observer member attached => ?_⟩
  have detached : (s.clients c).phase.detached event = true := by rw [finished]; rfl
  have points : (s.clients c).pointer event = some observer := by
    rw [Client.pointer, Phase.sets_of_detached detached]
    exact member
  obtain ⟨_, found, -⟩ := k.observed.gone c event observer detached points
  cases found.symm.trans (k.observed.attached_alive attached)

/-- A thread returns after it has detached its observers and told the server, it does so when its connection
has ended, and meanwhile it changes nothing for the other clients. -/
structure ErrorsContained (assertions : Bool) (s : State) : Prop where
  noFault : s.fault = none
  returned : ∀ c, (s.clients c).phase = .finished → Released s c
  returns : ∀ c, (s.clients c).ended = true → ∃ more t, (machine assertions).run? s more = some t ∧
    (t.clients c).phase = .finished ∧ Released t c ∧ t.fault = none ∧ (∀ e ∈ more, e.Of c) ∧
      ∀ d, d ≠ c → t.clients d = s.clients d
  others : ∀ c e t, e.client = some c → ¬ e.Throws → Orderly s e → (machine assertions).step? s e = some t →
    t.fault = none ∧ ∀ d, d ≠ c → t.clients d = s.clients d ∧
      ∀ event observer, (s.clients d).current event = some observer → observer ∈ t.attached event

theorem Contained.errors (k : Contained s) : ErrorsContained assertions s where
  noFault := k.noFault
  returned _ := k.released
  returns c ended := by
    have stopped := (k.closing c).ended ended
    obtain ⟨more, t, run, finished, own, after, others⟩ := @Contained.finishes assertions s c k stopped
    exact ⟨more, t, run, finished, after.released finished, after.noFault, own, others⟩
  others c e t thread quiet orderly step := by
    have stepped := (Step.of_step? step).2
    have after := stepped.contained quiet orderly k
    refine ⟨after.noFault, fun d apart => ?_⟩
    have same := stepped.others thread apart
    refine ⟨same, fun event observer current => ?_⟩
    rw [← same] at current
    exact (after.observed.live d event observer current).2

/-- Only the two failures of a socket and what a message raises leave a thread as an exception, and without
them and without what ends the life of an observer too early every error is contained. -/
theorem socket_errors_contained {events : List Event}
    (quiet : (machine assertions).AllSteps (fun _ e => ¬ e.Throws) initial events)
    (run : (machine assertions).run? initial events = some s) :
    s.fault ≠ some .exception ∧
    ((machine assertions).AllSteps Orderly initial events → ErrorsContained assertions s) ∧
    ∀ e t, e.Throws → (machine assertions).step? s e = some t → t.fault = some .exception := by
  refine ⟨?_, fun orderly => ?_, fun e t throws step => (Step.of_step? step).2.throws throws⟩
  · have start : initial.fault ≠ some .exception := nofun
    exact run_invariant_of_guard (fun s => s.fault ≠ some .exception)
      (fun _ _ _ healthy quiet step => (Step.of_step? step).2.healthy quiet healthy) start quiet run
  · have both := quiet.and orderly
    have k : Contained s := run_invariant_of_guard Contained
      (fun _ _ _ inv ok step => (Step.of_step? step).2.contained ok.1 ok.2 inv) contained_initial both run
    exact k.errors

/-- A client connects and its thread waits. -/
private def connected : List Event := [.wait true false, .accept 0, .pushBack, .start 0, .enter 0]

private def hungUp : List Event :=
  connected ++ ([.waitClient 0 true false, .recv 0 (.error EAGAIN) [], .recv 0 (.data [0, 0, 0, 1]) [],
    .recv 0 (.data [7]) [.subscribe .frame, .send 5], .subscribe 0 7, .deleteOld 0, .assign 0, .reply 0 (.count 4),
    .reply 0 (.error 32), .enter 0, .waitClient 0 false true, .pop 0 9 true, .send 0 (.count 0)] : List Event)

/-- An answer fails with `EPIPE`, and the next message finds the connection closed. -/
theorem socket_errors_contained_hungUp : ∃ s, (machine true).run? initial hungUp = some s ∧
    s.attached .frame = [7] ∧ ∃ more t, (machine true).run? s more = some t ∧
      (t.clients 0).phase = .finished ∧ Released t 0 := by
  have done : ((machine true).run? initial hungUp).any
      (fun s => s.attached .frame == [7] && (s.clients 0).ended) = true := by decide +kernel
  obtain ⟨s, run, checked⟩ := (Option.any_eq_true _ _).mp done
  obtain ⟨attached, ended⟩ := (Bool.and_eq_true _ _).mp checked
  have contained := (socket_errors_contained (by decide +kernel) run).2.1 (by decide +kernel)
  obtain ⟨more, t, rest, finished, released, -⟩ := contained.returns 0 ended
  exact ⟨s, run, beq_iff_eq.mp attached, more, t, rest, finished, released⟩

/-- A read that fails with `ETIMEDOUT`, a notification that finds the pipe broken, and a request whose handler
throws, end the daemon. -/
theorem socket_errors_thrown :
    (∃ s, (machine true).run? initial (connected ++ [.waitClient 0 true false, .recv 0 (.error 110) []]) = some s ∧
      s.fault = some .exception ∧ ¬ ErrorsContained true s) ∧
    (∃ s, (machine true).run? initial (connected ++ [.waitClient 0 false true, .pop 0 9 true, .send 0 (.error 32)]) =
      some s ∧ s.fault = some .exception ∧ ¬ ErrorsContained true s) ∧
    ∃ s, (machine true).run? initial (connected ++ [.waitClient 0 true false, .recv 0 (.data [0, 0, 0, 1]) [],
        .recv 0 (.data [7]) [.throws], .raise 0]) =
      some s ∧ s.fault = some .exception ∧ ¬ ErrorsContained true s := by
  have thrown {events : List Event}
      (done : ((machine true).run? initial events).any (fun s => s.fault == some .exception) = true) :
      ∃ s, (machine true).run? initial events = some s ∧ s.fault = some .exception ∧ ¬ ErrorsContained true s := by
    obtain ⟨s, run, checked⟩ := (Option.any_eq_true _ _).mp done
    have fault := beq_iff_eq.mp checked
    exact ⟨s, run, fault, fun contained => by cases contained.noFault.symm.trans fault⟩
  exact ⟨thrown (by decide +kernel), thrown (by decide +kernel), thrown (by decide +kernel)⟩

end H9d.ClientLifetime
