import H9d.Model.ClientLifetime

/-! # What one step of the server and its clients can do

The step function is inverted once; the steps of a client thread that only serve its socket are one
case.
-/

namespace H9d.ClientLifetime

open Machine LabeledMachine TCPSocket

theorem setClient_self (s : State) (c : ClientId) (next : Client) : (s.setClient c next).clients c = next :=
  Function.update_self ..

theorem setClient_of_ne (s : State) {c d : ClientId} (apart : d ≠ c) (next : Client) :
    (s.setClient c next).clients d = s.clients d :=
  Function.update_of_ne apart ..

theorem forall_setClient {s : State} {c : ClientId} {P : ClientId → Client → Prop} {next : Client}
    (all : ∀ d, P d (s.clients d)) (new : P c next) (d : ClientId) : P d ((s.setClient c next).clients d) :=
  (Function.forall_update_iff s.clients P).mpr ⟨new, fun d _ => all d⟩ d

/-- Deleting an observer touches no client. -/
theorem delete_eq (s : State) (assertions : Bool) (observer : Option ObserverId) :
    ∃ observers fault, s.delete assertions observer = { s with observers, fault } := by
  unfold State.delete
  split
  · exact ⟨s.observers, s.fault, rfl⟩
  · split
    · exact ⟨s.observers, _, rfl⟩
    · split
      · exact ⟨s.observers, _, rfl⟩
      · exact ⟨_, _, rfl⟩

theorem detachObserver_eq (s : State) (event : Subscription) (observer : ObserverId) :
    ∃ observers attached fault, s.detachObserver event observer = { s with observers, attached, fault } := by
  unfold State.detachObserver
  split
  · exact ⟨s.observers, s.attached, _, rfl⟩
  · split
    · exact ⟨s.observers, s.attached, _, rfl⟩
    · exact ⟨_, _, s.fault, rfl⟩

theorem deleteOld_eq (s : State) (assertions : Bool) (c : ClientId) (event : Subscription) (observer : ObserverId)
    (rest : List Action) : ∃ observers fault, deleteOld assertions s c event observer rest =
      { s.setClient c { s.clients c with phase := .assigning event observer rest } with observers, fault } := by
  obtain ⟨observers, fault, same⟩ := delete_eq s assertions ((s.clients c).observer event)
  refine ⟨observers, fault, ?_⟩
  rw [deleteOld, same]
  rfl

/-- The client whose thread takes the step. -/
def Event.client : Event → Option ClientId
  | .start c | .enter c | .waitClient c _ _ | .recv c _ _ | .subscribe c _ | .deleteOld c | .assign c
  | .reply c _ | .raise c | .pop c _ _ | .send c _ | .stop c | .detach c | .cleanup c => some c
  | .wait _ _ | .accept _ | .pushBack | .examine | .destroy | .notify _ | .call _ _ => none

/-- The socket fails in a way that the thread answers with an exception, or the thread lets an exception
pass that a message has led to. -/
def Event.Throws : Event → Prop
  | .recv _ (.error errno) _ => errno ≠ EAGAIN ∧ errno ≠ ECONNRESET
  | .send _ (.error _) | .raise _ => True
  | _ => False

instance (e : Event) : Decidable e.Throws := by
  unfold Event.Throws
  split <;> infer_instance

/-- The thread is in its loop and not in the middle of a subscription. -/
def Phase.serving : Phase → Bool
  | .handling _ | .waiting | .receiving | .replying _ _ | .sendAsyncMsg | .sending _ _ => true
  | .absent | .created | .subscribing .. | .assigning .. | .left | .detaching _ | .cleanup | .finished => false

/-- The thread may be here when its connection has ended. -/
def Phase.ending : Phase → Bool
  | .handling [] | .sendAsyncMsg | .sending _ _ | .left | .detaching _ | .cleanup | .finished => true
  | _ => false

/-- What serving its socket may change about a client. -/
structure Serves (client next : Client) : Prop where
  before : client.phase.serving = true
  after : next.phase.serving = true
  observer : next.observer = client.observer
  threadRunning : next.threadRunning = client.threadRunning
  ended : next.running = client.running ∧ next.ended = client.ended ∨ next.running = false ∧ next.ended = true
  stops : (client.running = false → client.phase.ending = true) → next.running = false → next.phase.ending = true

def Subscription.afterDelete : Subscription → Destructor
  | .frame => .deleteObserver .devStatus
  | .devStatus => .closeConnection

def Subscription.afterDetach : Subscription → Phase
  | .frame => .detaching .devStatus
  | .devStatus => .cleanup

/-- One constructor for each thing a step can do, with the guards it has passed. -/
inductive Step (assertions : Bool) (s : State) : Event → State → Prop
  | wait (socket async : Bool) (idle : s.server = .waiting) (reported : socket = true ∨ async = true)
      (pending : async = true → s.asyncPending = true) :
      Step assertions s (.wait socket async) (wait s socket async)
  | accept (c : ClientId) (accepting : s.server = .accepting) (absent : (s.clients c).phase = .absent) :
      Step assertions s (.accept c) (accept s c)
  | pushBack (c : ClientId) (constructed : s.server = .constructed c) :
      Step assertions s .pushBack { s with list := s.list ++ [c], server := .waiting }
  | examined (reaping : s.server = .reaping []) : Step assertions s .examine { s with server := .waiting }
  | keep (c : ClientId) (rest : List ClientId) (reaping : s.server = .reaping (c :: rest))
      (running : (s.clients c).threadRunning = true) :
      Step assertions s .examine { s with server := .reaping rest }
  | condemn (c : ClientId) (rest : List ClientId) (reaping : s.server = .reaping (c :: rest))
      (stopped : (s.clients c).threadRunning = false) :
      Step assertions s .examine { s with server := .deleting c (.deleteObserver .frame) rest }
  | deleteObserver (c : ClientId) (event : Subscription) (rest : List ClientId)
      (deleting : s.server = .deleting c (.deleteObserver event) rest) :
      Step assertions s .destroy { s.delete assertions ((s.clients c).observer event) with
        server := .deleting c event.afterDelete rest }
  | closeConnection (c : ClientId) (rest : List ClientId)
      (deleting : s.server = .deleting c .closeConnection rest) :
      Step assertions s .destroy { s.setClient c { s.clients c with running := false } with
        server := .deleting c .join rest }
  | join (c : ClientId) (rest : List ClientId) (deleting : s.server = .deleting c .join rest)
      (finished : (s.clients c).phase = .finished) :
      Step assertions s .destroy { s with
        list := s.list.erase c, deleted := s.deleted ++ [c], server := .reaping rest }
  | start (c : ClientId) (created : (s.clients c).phase = .created) :
      Step assertions s (.start c) (s.setClient c { s.clients c with threadRunning := true, phase := .loop })
  | serve (e : Event) (c : ClientId) (next : Client) (thread : e.client = some c) (quiet : ¬ e.Throws)
      (serves : Serves (s.clients c) next) : Step assertions s e (s.setClient c next)
  | throw (e : Event) (c : ClientId) (thread : e.client = some c) (throws : e.Throws) :
      Step assertions s e { s with fault := some .exception }
  | leave (c : ClientId) (loop : (s.clients c).phase = .loop) (stopped : (s.clients c).running = false) :
      Step assertions s (.enter c) (s.setClient c { s.clients c with phase := .left })
  | subscribe (c : ClientId) (event : Subscription) (observer : ObserverId) (rest : List Action)
      (handling : (s.clients c).phase = .handling (.subscribe event :: rest))
      (fresh : s.observers observer = none) (unlocked : s.notifying event = []) :
      Step assertions s (.subscribe c observer) (subscribe s c event observer rest)
  | deleteOld (c : ClientId) (event : Subscription) (observer : ObserverId) (rest : List Action)
      (subscribing : (s.clients c).phase = .subscribing event observer rest) :
      Step assertions s (.deleteOld c) (deleteOld assertions s c event observer rest)
  | assign (c : ClientId) (event : Subscription) (observer : ObserverId) (rest : List Action)
      (assigning : (s.clients c).phase = .assigning event observer rest) :
      Step assertions s (.assign c) (assign s c event observer rest)
  | stop (c : ClientId) (left : (s.clients c).phase = .left) :
      Step assertions s (.stop c)
        (s.setClient c { s.clients c with threadRunning := false, phase := .detaching .frame })
  | detachNone (c : ClientId) (event : Subscription) (detaching : (s.clients c).phase = .detaching event)
      (none : (s.clients c).observer event = none) :
      Step assertions s (.detach c) (s.setClient c { s.clients c with phase := event.afterDetach })
  | detach (c : ClientId) (event : Subscription) (observer : ObserverId)
      (detaching : (s.clients c).phase = .detaching event)
      (current : (s.clients c).observer event = some observer) (unlocked : s.notifying event = []) :
      Step assertions s (.detach c)
        ((s.detachObserver event observer).setClient c { s.clients c with phase := event.afterDetach })
  | cleanup (c : ClientId) (detached : (s.clients c).phase = .cleanup) :
      Step assertions s (.cleanup c) (cleanup s c)
  | notify (event : Subscription) (locked : event = .frame → s.notifying event = []) :
      Step assertions s (.notify event) { s with
        notifying := Function.update s.notifying event (s.notifying event ++ [s.attached event]) }
  | called (event : Subscription) (notification : ℕ) (done : (s.notifying event)[notification]? = some []) :
      Step assertions s (.call event notification) { s with
        notifying := Function.update s.notifying event ((s.notifying event).eraseIdx notification) }
  | call (event : Subscription) (notification : ℕ) (observer : ObserverId) (rest : List ObserverId)
      (next : (s.notifying event)[notification]? = some (observer :: rest))
      (alive : ∃ object, s.observers observer = some object ∧ object.destroyed = false) :
      Step assertions s (.call event notification) { s with
        notifying := Function.update s.notifying event ((s.notifying event).set notification rest) }
  | dangling (event : Subscription) (notification : ℕ) (observer : ObserverId) (rest : List ObserverId)
      (next : (s.notifying event)[notification]? = some (observer :: rest))
      (dead : ∀ object, s.observers observer = some object → object.destroyed = true) :
      Step assertions s (.call event notification) { s with fault := some .useAfterFree }

variable {assertions : Bool} {s t : State} {e : Event}

theorem recv_eq_error {r next : Reader} {result : RecvResult} {errno : Errno}
    (failed : r.recv result = (next, some (.error errno))) : result = .error errno ∧ errno ≠ EAGAIN := by
  unfold Reader.recv at failed
  split at failed
  · next errno' =>
    split at failed
    · cases failed
    · next other =>
      cases failed
      exact ⟨rfl, other⟩
  · cases failed
  · dsimp only at failed
    split at failed
    · cases failed
    · split at failed <;> cases failed

/-- A read that the thread answers with an exception ends `recv_complete_msg`. -/
theorem recv_of_throws {c : ClientId} {result : RecvResult} {actions : List Action}
    (throws : (Event.recv c result actions).Throws) (r : Reader) :
    ∃ errno, r.recv result = (r, some (.error errno)) ∧ errno ≠ ECONNRESET := by
  cases result with
  | data bytes => exact throws.elim
  | error errno => exact ⟨errno, congrArg (Prod.mk r) (if_neg throws.1), throws.2⟩

theorem Step.of_receiving {c : ClientId} (receiving : (s.clients c).phase = .receiving) (result : RecvResult)
    (actions : List Action) :
    Step assertions s (.recv c result actions) (ClientLifetime.recv s c result actions) := by
  have serving : (s.clients c).phase.serving = true := by rw [receiving]; rfl
  have quiet {next : Reader} {received : Option Received}
      (returned : (s.clients c).reader.recv result = (next, received))
      (fine : ∀ errno, received = some (.error errno) → errno = ECONNRESET) :
      ¬ (Event.recv c result actions).Throws := by
    intro throws
    obtain ⟨errno, failed, other⟩ := recv_of_throws throws (s.clients c).reader
    cases returned.symm.trans failed
    exact other (fine errno rfl)
  have ahead : ¬ (s.clients c).phase.ending = true := by
    rw [receiving]
    exact nofun
  unfold ClientLifetime.recv
  dsimp only
  split
  · next returned =>
    exact .serve _ c _ rfl (quiet returned nofun) ⟨serving, serving, rfl, rfl, .inl ⟨rfl, rfl⟩, id⟩
  · next returned =>
    refine .serve _ c _ rfl (quiet returned nofun) ⟨serving, rfl, rfl, rfl, .inl ⟨rfl, rfl⟩, fun before stopped => ?_⟩
    exact absurd (before stopped) ahead
  · next returned =>
    exact .serve _ c _ rfl (quiet returned nofun) ⟨serving, rfl, rfl, rfl, .inr ⟨rfl, rfl⟩, fun _ _ => rfl⟩
  · next errno failed =>
    split
    · next reset =>
      refine .serve _ c _ rfl (quiet failed fun other same => ?_)
        ⟨serving, rfl, rfl, rfl, .inr ⟨rfl, rfl⟩, fun _ _ => rfl⟩
      cases same
      exact reset
    · next other =>
      obtain ⟨rfl, again⟩ := recv_eq_error failed
      exact .throw _ c rfl ⟨again, other⟩

theorem Step.of_replying {c : ClientId} (result : SendResult) (writer : Writer) (rest : List Action)
    (serving : (s.clients c).phase.serving = true) (ahead : (s.clients c).phase.ending = false) :
    Step assertions s (.reply c result) (reply s c writer rest result) := by
  refine .serve _ c _ rfl id ⟨serving, ?_, rfl, rfl, .inl ⟨rfl, rfl⟩, fun before stopped => ?_⟩
  · dsimp only
    split <;> rfl
  · cases ahead.symm.trans (before stopped)

theorem send_eq_failed {writer : Writer} {result : SendResult} {errno : Errno}
    (failed : writer.send result = .inr (.failed errno)) : result = .error errno := by
  unfold Writer.send at failed
  split at failed
  · cases failed
    rfl
  · cases failed
  · dsimp only at failed
    split at failed <;> split at failed <;> cases failed

theorem Step.of_sending {c : ClientId} (result : SendResult) (writer : Writer) (queueEmpty : Bool)
    (serving : (s.clients c).phase.serving = true) :
    Step assertions s (.send c result) (send s c writer queueEmpty result) := by
  have next : Phase.serving (if queueEmpty then .loop else .sendAsyncMsg) = true := by
    cases queueEmpty <;> rfl
  have ending : Phase.ending (if queueEmpty then .loop else .sendAsyncMsg) = true := by
    cases queueEmpty <;> rfl
  have quiet {returned : Writer ⊕ Sent} (eq : writer.send result = returned)
      (fine : ∀ errno, returned ≠ .inr (.failed errno)) : ¬ (Event.send c result).Throws := by
    intro throws
    cases result with
    | count n => exact throws
    | error errno => exact fine errno eq.symm
  unfold ClientLifetime.send
  dsimp only
  split
  · next returned =>
    exact .serve _ c _ rfl (quiet returned nofun) ⟨serving, rfl, rfl, rfl, .inl ⟨rfl, rfl⟩, fun _ _ => rfl⟩
  · next returned =>
    exact .serve _ c _ rfl (quiet returned nofun) ⟨serving, next, rfl, rfl, .inl ⟨rfl, rfl⟩, fun _ _ => ending⟩
  · next returned =>
    exact .serve _ c _ rfl (quiet returned nofun) ⟨serving, next, rfl, rfl, .inr ⟨rfl, rfl⟩, fun _ _ => ending⟩
  · next failed =>
    obtain rfl := send_eq_failed failed
    exact .throw _ c rfl trivial

section Kinds

variable {c : ClientId}

theorem Step.of_wait {socket async : Bool} (step : step? assertions s (.wait socket async) = some t) :
    Step assertions s (.wait socket async) t := by
  obtain ⟨⟨idle, reported, pending⟩, same⟩ := Option.ite_none_right_eq_some.mp step
  cases same
  exact .wait socket async idle reported pending

theorem Step.of_accept (step : step? assertions s (.accept c) = some t) :
    Step assertions s (.accept c) t := by
  obtain ⟨⟨accepting, absent⟩, same⟩ := Option.ite_none_right_eq_some.mp step
  cases same
  exact .accept c accepting absent

theorem Step.of_examine (step : step? assertions s .examine = some t) : Step assertions s .examine t := by
  simp only [step?] at step
  split at step
  · next rest reaping =>
    cases step
    cases rest with
    | nil => exact .examined reaping
    | cons c rest =>
      unfold ClientLifetime.examine
      dsimp only
      split
      · next running => exact .keep c rest reaping running
      · next stopped => exact .condemn c rest reaping (Bool.not_eq_true _ ▸ stopped)
  · cases step

theorem Step.of_destroy (step : step? assertions s .destroy = some t) : Step assertions s .destroy t := by
  simp only [step?] at step
  split at step
  · next c next rest deleting =>
    cases next with
    | deleteObserver event =>
      cases event with
      | frame => cases step; exact .deleteObserver c .frame rest deleting
      | devStatus => cases step; exact .deleteObserver c .devStatus rest deleting
    | closeConnection => cases step; exact .closeConnection c rest deleting
    | join =>
      obtain ⟨finished, same⟩ := Option.ite_none_right_eq_some.mp step
      cases same
      exact .join c rest deleting finished
  · cases step

theorem Step.of_enter (step : step? assertions s (.enter c) = some t) :
    Step assertions s (.enter c) t := by
  simp only [step?] at step
  split at step
  · next loop =>
    cases step
    split
    · next running =>
      refine .serve _ c _ rfl id ⟨by rw [loop]; rfl, rfl, rfl, rfl, .inl ⟨rfl, rfl⟩, fun _ stopped => ?_⟩
      cases running.symm.trans stopped
    · next stopped => exact .leave c loop (Bool.not_eq_true _ ▸ stopped)
  · cases step

theorem Step.of_waitClient {socket async : Bool}
    (step : step? assertions s (.waitClient c socket async) = some t) :
    Step assertions s (.waitClient c socket async) t := by
  simp only [step?] at step
  split at step
  · next waiting =>
    obtain ⟨-, same⟩ := Option.ite_none_right_eq_some.mp step
    cases same
    refine .serve _ c _ rfl id ⟨by rw [waiting]; rfl, ?_, rfl, rfl, .inl ⟨rfl, rfl⟩, fun before stopped => ?_⟩
    · cases socket <;> rfl
    · have ending := before stopped
      rw [waiting] at ending
      cases ending
  · cases step

theorem Step.of_detach (step : step? assertions s (.detach c) = some t) :
    Step assertions s (.detach c) t := by
  simp only [step?] at step
  split at step
  · next event detaching =>
    unfold ClientLifetime.detach at step
    dsimp only at step
    split at step
    · next none =>
      cases step
      cases event <;> exact .detachNone c _ detaching none
    · next observer current =>
      obtain ⟨unlocked, same⟩ := Option.ite_none_right_eq_some.mp step
      cases same
      cases event <;> exact .detach c _ observer detaching current unlocked
  · cases step

theorem Step.of_notify {event : Subscription} (step : ClientLifetime.notify s event = some t) :
    Step assertions s (.notify event) t := by
  obtain ⟨locked, same⟩ := Option.ite_none_left_eq_some.mp step
  cases same
  refine .notify event fun frame => ?_
  by_contra held
  exact locked ⟨frame, held⟩

theorem Step.of_call {event : Subscription} {notification : ℕ}
    (step : ClientLifetime.call s event notification = some t) :
    Step assertions s (.call event notification) t := by
  rw [ClientLifetime.call] at step
  split at step
  · cases step
  · next done =>
    cases step
    exact .called event notification done
  · next observer rest next =>
    split at step
    · next dead =>
      cases step
      exact .dangling event notification observer rest next ((Option.all_eq_true _ _).mp dead)
    · next alive =>
      cases step
      refine .call event notification observer rest next ?_
      rw [Option.all_eq_true] at alive
      push Not at alive
      obtain ⟨object, found, alive⟩ := alive
      exact ⟨object, found, Bool.not_eq_true _ ▸ alive⟩

theorem Step.of_pushBack (step : step? assertions s .pushBack = some t) : Step assertions s .pushBack t := by
  simp only [step?] at step
  split at step
  · next c constructed =>
    cases step
    exact .pushBack c constructed
  · cases step

theorem Step.of_start (step : step? assertions s (.start c) = some t) : Step assertions s (.start c) t := by
  simp only [step?] at step
  split at step
  · next created =>
    cases step
    exact .start c created
  · cases step

theorem Step.of_subscribe {observer : ObserverId} (step : step? assertions s (.subscribe c observer) = some t) :
    Step assertions s (.subscribe c observer) t := by
  simp only [step?] at step
  split at step
  · next event rest handling =>
    obtain ⟨⟨fresh, unlocked⟩, same⟩ := Option.ite_none_right_eq_some.mp step
    cases same
    exact .subscribe c event observer rest handling fresh unlocked
  · cases step

theorem Step.of_deleteOld (step : step? assertions s (.deleteOld c) = some t) :
    Step assertions s (.deleteOld c) t := by
  simp only [step?] at step
  split at step
  · next event observer rest subscribing =>
    cases step
    exact .deleteOld c event observer rest subscribing
  · cases step

theorem Step.of_assign (step : step? assertions s (.assign c) = some t) : Step assertions s (.assign c) t := by
  simp only [step?] at step
  split at step
  · next event observer rest assigning =>
    cases step
    exact .assign c event observer rest assigning
  · cases step

theorem Step.of_stop (step : step? assertions s (.stop c) = some t) : Step assertions s (.stop c) t := by
  simp only [step?] at step
  split at step
  · next left =>
    cases step
    exact .stop c left
  · cases step

theorem Step.of_cleanup (step : step? assertions s (.cleanup c) = some t) : Step assertions s (.cleanup c) t := by
  simp only [step?] at step
  split at step
  · next detached =>
    cases step
    exact .cleanup c detached
  · cases step

theorem Step.of_raise (step : step? assertions s (.raise c) = some t) : Step assertions s (.raise c) t := by
  simp only [step?] at step
  split at step
  · cases step
    exact .throw _ c rfl trivial
  · cases step

theorem Step.of_pop {size : ℕ} {queueEmpty : Bool} (step : step? assertions s (.pop c size queueEmpty) = some t) :
    Step assertions s (.pop c size queueEmpty) t := by
  simp only [step?] at step
  split at step
  · next draining =>
    cases step
    exact .serve _ c _ rfl id ⟨by rw [draining]; rfl, rfl, rfl, rfl, .inl ⟨rfl, rfl⟩, fun _ _ => rfl⟩
  · cases step

theorem Step.of_recv {result : RecvResult} {actions : List Action}
    (step : step? assertions s (.recv c result actions) = some t) : Step assertions s (.recv c result actions) t := by
  simp only [step?] at step
  split at step
  · next receiving =>
    cases step
    exact .of_receiving receiving result actions
  · cases step

theorem Step.of_reply {result : SendResult} (step : step? assertions s (.reply c result) = some t) :
    Step assertions s (.reply c result) t := by
  simp only [step?] at step
  split at step
  · next size rest handling =>
    cases step
    exact .of_replying result _ rest (by rw [handling]; rfl) (by rw [handling]; rfl)
  · next writer rest replying =>
    cases step
    exact .of_replying result writer rest (by rw [replying]; rfl) (by rw [replying]; rfl)
  · cases step

theorem Step.of_send {result : SendResult} (step : step? assertions s (.send c result) = some t) :
    Step assertions s (.send c result) t := by
  simp only [step?] at step
  split at step
  · next writer queueEmpty sending =>
    cases step
    exact .of_sending result writer queueEmpty (by rw [sending]; rfl)
  · cases step

end Kinds

/-- Every step is one of these. -/
theorem Step.of_step? (step : (machine assertions).step? s e = some t) :
    s.fault = none ∧ Step assertions s e t := by
  change (if s.fault = none then step? assertions s e else none) = some t at step
  obtain ⟨noFault, step⟩ := Option.ite_none_right_eq_some.mp step
  refine ⟨noFault, ?_⟩
  cases e with
  | wait socket async => exact .of_wait step
  | accept c => exact .of_accept step
  | pushBack => exact .of_pushBack step
  | examine => exact .of_examine step
  | destroy => exact .of_destroy step
  | start c => exact .of_start step
  | enter c => exact .of_enter step
  | waitClient c socket async => exact .of_waitClient step
  | recv c result actions => exact .of_recv step
  | subscribe c observer => exact .of_subscribe step
  | deleteOld c => exact .of_deleteOld step
  | assign c => exact .of_assign step
  | reply c result => exact .of_reply step
  | raise c => exact .of_raise step
  | pop c size queueEmpty => exact .of_pop step
  | send c result => exact .of_send step
  | stop c => exact .of_stop step
  | detach c => exact .of_detach step
  | cleanup c => exact .of_cleanup step
  | notify event => exact .of_notify step
  | call event notification => exact .of_call step

end H9d.ClientLifetime
