import H9d.Core.LabeledMachine
import H9d.Model.TCPSocket

/-! # Clients, their threads and their observers

The server thread accepts connections and deletes the clients that do not run any more. Every client
has a thread, which serves its connection and may subscribe to the frames of the bus and to the states
of the devices. Other threads call the observers. A step is one access to what the threads share, or
one system call.
-/

namespace H9d.ClientLifetime

open Machine TCPSocket

abbrev ClientId := ℕ
abbrev ObserverId := ℕ

/-- The events a client can subscribe to: `frame` has a `ClientFrameObs` attached to the bus, and
`dev_status` a `DevStatusObserver` attached to the node manager. -/
inductive Subscription
  | frame
  | devStatus
  deriving DecidableEq, Repr

/-- An observer object; the pointer to its subject is null after `detach`. -/
structure Observer where
  hasSubject : Bool
  destroyed : Bool
  deriving DecidableEq

/-- What a message makes its thread do. -/
inductive Action
  | subscribe (event : Subscription)
  | send (size : ℕ)
  /-- `api->call` throws something else than a `RequestException`, or a trace line has a text that `dump`
  refuses -/
  | throws
  deriving DecidableEq

/-- Where the thread of a client is. -/
inductive Phase
  /-- no connection yet -/
  | absent
  /-- the thread has not run yet -/
  | created
  /-- in `thread_recv_msg` after a message; with nothing left to do at the head of the loop -/
  | handling (actions : List Action)
  | waiting
  | receiving
  /-- in `set_…_observer`, before the old observer is deleted -/
  | subscribing (event : Subscription) (observer : ObserverId) (rest : List Action)
  /-- in `set_…_observer`, before the new observer is assigned -/
  | assigning (event : Subscription) (observer : ObserverId) (rest : List Action)
  | replying (writer : Writer) (rest : List Action)
  /-- at the head of the loop of `thread_send_async_msg` -/
  | sendAsyncMsg
  | sending (writer : Writer) (queueEmpty : Bool)
  /-- behind the loop -/
  | left
  | detaching (event : Subscription)
  | cleanup
  | finished
  deriving DecidableEq

abbrev Phase.loop : Phase := .handling []

structure Client where
  running : Bool
  threadRunning : Bool
  /-- `_frame_observer` and `_dev_status_observer` -/
  observer : Subscription → Option ObserverId
  reader : Reader
  phase : Phase
  /-- history: the thread has seen the end of its connection -/
  ended : Bool

/-- `~TCPClientThread` step by step. -/
inductive Destructor
  | deleteObserver (event : Subscription)
  | closeConnection
  | join
  deriving DecidableEq

/-- Where the server thread is in `run`. -/
inductive ServerPhase
  | waiting
  | accepting
  /-- between the constructor of a client and `push_back` -/
  | constructed (c : ClientId)
  | reaping (rest : List ClientId)
  | deleting (c : ClientId) (next : Destructor) (rest : List ClientId)
  deriving DecidableEq

inductive Fault
  | assertion
  | useAfterFree
  /-- an exception leaves the function of a thread -/
  | exception
  deriving DecidableEq

structure State where
  clients : ClientId → Client
  /-- `tcpclientthread_list` -/
  list : List ClientId
  server : ServerPhase
  /-- the async event of the server -/
  asyncPending : Bool
  observers : ObserverId → Option Observer
  /-- `frame_observers` of the bus and `dev_status_observer` of the node manager -/
  attached : Subscription → List ObserverId
  /-- the notifications under way, which hold the lock, with the observers still to be called -/
  notifying : Subscription → List (List ObserverId)
  fault : Option Fault
  /-- history: the clients deleted, and those that have called `cleanup_tcpclientthread` -/
  deleted : List ClientId
  notified : List ClientId

inductive Event
  | wait (socket async : Bool)
  | accept (c : ClientId)
  | pushBack
  /-- the next client in the loop over the list -/
  | examine
  | destroy
  | start (c : ClientId)
  /-- the test of `running` -/
  | enter (c : ClientId)
  | waitClient (c : ClientId) (socket async : Bool)
  /-- one `::recv`; `actions` is what is done when it completes a message -/
  | recv (c : ClientId) (result : RecvResult) (actions : List Action)
  /-- the constructor of an observer -/
  | subscribe (c : ClientId) (observer : ObserverId)
  | deleteOld (c : ClientId)
  | assign (c : ClientId)
  | reply (c : ClientId) (result : SendResult)
  | raise (c : ClientId)
  /-- the critical section of `thread_send_async_msg` -/
  | pop (c : ClientId) (size : ℕ) (queueEmpty : Bool)
  | send (c : ClientId) (result : SendResult)
  | stop (c : ClientId)
  | detach (c : ClientId)
  | cleanup (c : ClientId)
  /-- `notify_frame_recv_observer`, `notify_frame_send_observer` or `emit_dev_state` -/
  | notify (event : Subscription)
  /-- a notification under way calls its next observer, or ends -/
  | call (event : Subscription) (notification : ℕ)

namespace State

variable (s : State)

def setClient (c : ClientId) (client : Client) : State :=
  { s with clients := Function.update s.clients c client }

def setObserver (observer : ObserverId) (object : Observer) : State :=
  { s with observers := Function.update s.observers observer (some object) }

/-- `delete` of an observer, whose destructor asserts that it has no subject. -/
def delete (assertions : Bool) : Option ObserverId → State
  | none => s
  | some observer =>
      match s.observers observer with
      | none => { s with fault := some .useAfterFree }
      | some object =>
          if object.destroyed then { s with fault := some .useAfterFree }
          else
            { s.setObserver observer { object with destroyed := true } with
              fault := if assertions && object.hasSubject then some .assertion else s.fault }

/-- `detach` of the observer that a client points to. -/
def detachObserver (event : Subscription) (observer : ObserverId) : State :=
  match s.observers observer with
  | none => { s with fault := some .useAfterFree }
  | some object =>
      if object.destroyed then { s with fault := some .useAfterFree }
      else
        { s.setObserver observer { object with hasSubject := false } with
          attached := Function.update s.attached event ((s.attached event).filter (· ≠ observer)) }

end State

/-- The members after the constructor; a default atomic is false. -/
def Client.connected : Client where
  running := true
  threadRunning := false
  observer := fun _ => none
  reader := Reader.initial
  phase := .created
  ended := false

/-- The thread sees the end of its connection. -/
def Client.close (client : Client) : Client := { client with running := false, ended := true }

section Steps

variable (assertions : Bool) (s : State)

/-- A reported connection goes first, and then the async event, which is edge-triggered, is lost. -/
def wait (socket async : Bool) : State :=
  { s with
    asyncPending := if async then false else s.asyncPending
    server := if socket then .accepting else .reaping s.list }

def accept (c : ClientId) : State :=
  { s.setClient c Client.connected with server := .constructed c }

def examine : List ClientId → State
  | [] => { s with server := .waiting }
  | c :: rest =>
      { s with
        server := if (s.clients c).threadRunning then .reaping rest
          else .deleting c (.deleteObserver .frame) rest }

/-- The next step of `~TCPClientThread`; `join` waits until the thread has finished. -/
def destroy (c : ClientId) (rest : List ClientId) : Destructor → Option State
  | .deleteObserver .frame =>
      some { s.delete assertions ((s.clients c).observer .frame) with
        server := .deleting c (.deleteObserver .devStatus) rest }
  | .deleteObserver .devStatus =>
      some { s.delete assertions ((s.clients c).observer .devStatus) with
        server := .deleting c .closeConnection rest }
  | .closeConnection =>
      some { s.setClient c { s.clients c with running := false } with server := .deleting c .join rest }
  | .join =>
      if (s.clients c).phase = .finished then
        some { s with list := s.list.erase c, deleted := s.deleted ++ [c], server := .reaping rest }
      else none

variable (c : ClientId)

/-- The end of `recv_complete_msg` and what `thread_recv_msg` makes of it. -/
def recv (result : RecvResult) (actions : List Action) : State :=
  let client := s.clients c
  match client.reader.recv result with
  | (reader, none) => s.setClient c { client with reader }
  | (reader, some (.msg _)) => s.setClient c { client with reader, phase := .handling actions }
  | (reader, some .closed) => s.setClient c { client with reader, phase := .loop }.close
  | (reader, some (.error errno)) =>
      if errno = ECONNRESET then s.setClient c { client with reader, phase := .loop }.close
      else { s with fault := some .exception }

/-- The new observer is attached in its constructor. -/
def subscribe (event : Subscription) (observer : ObserverId) (rest : List Action) : State :=
  { (s.setClient c { s.clients c with phase := .subscribing event observer rest }).setObserver observer
      ⟨true, false⟩ with
    attached := Function.update s.attached event (s.attached event ++ [observer]) }

def deleteOld (event : Subscription) (observer : ObserverId) (rest : List Action) : State :=
  (s.delete assertions ((s.clients c).observer event)).setClient c
    { s.clients c with phase := .assigning event observer rest }

def assign (event : Subscription) (observer : ObserverId) (rest : List Action) : State :=
  s.setClient c { s.clients c with
    observer := Function.update (s.clients c).observer event (some observer)
    phase := .handling rest }

/-- What `h9socket.send` returns for an answer is not looked at. -/
def reply (writer : Writer) (rest : List Action) (result : SendResult) : State :=
  s.setClient c { s.clients c with
    phase := match writer.send result with
      | .inl writer => .replying writer rest
      | .inr _ => .handling rest }

/-- `TCPClientThread::send`. -/
def send (writer : Writer) (queueEmpty : Bool) (result : SendResult) : State :=
  let client := s.clients c
  let next : Phase := if queueEmpty then .loop else .sendAsyncMsg
  match writer.send result with
  | .inl writer => s.setClient c { client with phase := .sending writer queueEmpty }
  | .inr .sent => s.setClient c { client with phase := next }
  | .inr .closed => s.setClient c { client with phase := next }.close
  | .inr (.failed _) => { s with fault := some .exception }

/-- `detach` takes the lock that a notification holds. -/
def detach (event : Subscription) : Option State :=
  let next : Phase := match event with
    | .frame => .detaching .devStatus
    | .devStatus => .cleanup
  match (s.clients c).observer event with
  | none => some (s.setClient c { s.clients c with phase := next })
  | some observer =>
      if s.notifying event = [] then
        some ((s.detachObserver event observer).setClient c { s.clients c with phase := next })
      else none

def cleanup : State :=
  { s.setClient c { s.clients c with phase := .finished } with
    asyncPending := true
    notified := s.notified ++ [c] }

/-- The lock of the bus is exclusive; that of the node manager is shared by its notifications. -/
def notify (event : Subscription) : Option State :=
  if event = .frame ∧ s.notifying event ≠ [] then none
  else some { s with
    notifying := Function.update s.notifying event (s.notifying event ++ [s.attached event]) }

def call (event : Subscription) (notification : ℕ) : Option State :=
  match (s.notifying event)[notification]? with
  | none => none
  | some [] =>
      some { s with
        notifying := Function.update s.notifying event ((s.notifying event).eraseIdx notification) }
  | some (observer :: rest) =>
      if ((s.observers observer).all Observer.destroyed) then some { s with fault := some .useAfterFree }
      else some { s with
        notifying := Function.update s.notifying event ((s.notifying event).set notification rest) }

end Steps

/-- The guards are the program counters, the locks and the event notifications. -/
def step? (assertions : Bool) (s : State) : Event → Option State
  | .wait socket async =>
      if s.server = .waiting ∧ (socket ∨ async) ∧ (async → s.asyncPending) then some (wait s socket async)
      else none
  | .accept c =>
      if s.server = .accepting ∧ (s.clients c).phase = .absent then some (accept s c) else none
  | .pushBack =>
      match s.server with
      | .constructed c => some { s with list := s.list ++ [c], server := .waiting }
      | _ => none
  | .examine =>
      match s.server with
      | .reaping rest => some (examine s rest)
      | _ => none
  | .destroy =>
      match s.server with
      | .deleting c next rest => destroy assertions s c rest next
      | _ => none
  | .start c =>
      match (s.clients c).phase with
      | .created => some (s.setClient c { s.clients c with threadRunning := true, phase := .loop })
      | _ => none
  | .enter c =>
      match (s.clients c).phase with
      | .handling [] =>
          some (s.setClient c { s.clients c with
            phase := if (s.clients c).running then .waiting else .left })
      | _ => none
  | .waitClient c socket async =>
      match (s.clients c).phase with
      | .waiting =>
          if socket ∨ async then
            some (s.setClient c { s.clients c with phase := if socket then .receiving else .sendAsyncMsg })
          else none
      | _ => none
  | .recv c result actions =>
      match (s.clients c).phase with
      | .receiving => some (recv s c result actions)
      | _ => none
  | .subscribe c observer =>
      match (s.clients c).phase with
      | .handling (.subscribe event :: rest) =>
          if s.observers observer = none ∧ s.notifying event = [] then
            some (subscribe s c event observer rest)
          else none
      | _ => none
  | .deleteOld c =>
      match (s.clients c).phase with
      | .subscribing event observer rest => some (deleteOld assertions s c event observer rest)
      | _ => none
  | .assign c =>
      match (s.clients c).phase with
      | .assigning event observer rest => some (assign s c event observer rest)
      | _ => none
  | .reply c result =>
      match (s.clients c).phase with
      | .handling (.send size :: rest) => some (reply s c (.header size) rest result)
      | .replying writer rest => some (reply s c writer rest result)
      | _ => none
  | .raise c =>
      match (s.clients c).phase with
      | .handling (.throws :: _) => some { s with fault := some .exception }
      | _ => none
  | .pop c size queueEmpty =>
      match (s.clients c).phase with
      | .sendAsyncMsg => some (s.setClient c { s.clients c with phase := .sending (.header size) queueEmpty })
      | _ => none
  | .send c result =>
      match (s.clients c).phase with
      | .sending writer queueEmpty => some (send s c writer queueEmpty result)
      | _ => none
  | .stop c =>
      match (s.clients c).phase with
      | .left => some (s.setClient c { s.clients c with threadRunning := false, phase := .detaching .frame })
      | _ => none
  | .detach c =>
      match (s.clients c).phase with
      | .detaching event => detach s c event
      | _ => none
  | .cleanup c =>
      match (s.clients c).phase with
      | .cleanup => some (cleanup s c)
      | _ => none
  | .notify event => notify s event
  | .call event notification => call s event notification

def initial : State where
  clients := fun _ => { Client.connected with phase := .absent }
  list := []
  server := .waiting
  asyncPending := false
  observers := fun _ => none
  attached := fun _ => []
  notifying := fun _ => []
  fault := none
  deleted := []
  notified := []

/-- A failed assertion or an exception that leaves a thread ends the daemon. -/
def machine (assertions : Bool) : LabeledMachine State Event where
  Initial s := s = initial
  step? s e := if s.fault = none then step? assertions s e else none

end H9d.ClientLifetime
