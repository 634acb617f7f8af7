import H9d.Core.LabeledMachine

/-! # The loop of a client thread

The thread sleeps in `wait`, which reports the client's socket, the async event, or both; of the two
it serves one. Any thread may queue a message with `send_msg`, whose critical section is three steps
here. The async event is edge-triggered, so reporting it consumes it.
-/

namespace H9d.TCPClientThread

open Machine

abbrev Thread := ℕ

/-- The mutex of the queue; a producer holds it through the whole of `send_msg`. -/
inductive Mutex
  | free
  | pushed (thread : Thread)
  | notified (thread : Thread)
  deriving DecidableEq, Repr

/-- Where the client thread is. -/
inductive Phase (Msg : Type)
  /-- at the head of the loop -/
  | loop
  | recvMsg
  /-- at the head of the loop in `thread_send_async_msg` -/
  | sendAsyncMsg
  | send (msg : Msg) (queueEmpty : Bool)
  | finished
  deriving DecidableEq, Repr

inductive Fault
  | assertion
  | systemError
  deriving DecidableEq, Repr

/-- What a call on the socket returns: positive, zero or negative. -/
inductive SocketResult
  | ok
  | closed
  | failed
  deriving DecidableEq, Repr

structure State (Msg : Type) where
  running : Bool
  phase : Phase Msg
  asyncMsgQueue : List Msg
  mutex : Mutex
  asyncPending : Bool
  fault : Option Fault
  /-- history: every message given to `send_msg`, and every message sent -/
  queued : List Msg
  sent : List Msg

inductive Event (Msg : Type)
  | push (thread : Thread) (msg : Msg)
  | trigger (thread : Thread)
  | unlock (thread : Thread)
  | wait (socket async : Bool)
  /-- the end of `thread_recv_msg` -/
  | recvMsg (result : SocketResult)
  | pop
  | send (result : SocketResult)
  | closeConnection
  | leave
  deriving DecidableEq

variable {Msg : Type}

def initial : State Msg where
  running := true
  phase := .loop
  asyncMsgQueue := []
  mutex := .free
  asyncPending := false
  fault := none
  queued := []
  sent := []

section Steps

variable (s : State Msg)

/-- The branch of the loop: a reported socket goes first, and then the async event is not looked at. -/
def wait (socket async : Bool) : State Msg :=
  { s with
    asyncPending := if async then false else s.asyncPending
    phase := if socket then .recvMsg else .sendAsyncMsg }

/-- The critical section of `thread_send_async_msg`. -/
def pop : State Msg :=
  match s.asyncMsgQueue with
  | [] => { s with fault := some .assertion }
  | msg :: rest => { s with asyncMsgQueue := rest, phase := .send msg rest.isEmpty }

def recvMsg (result : SocketResult) : State Msg :=
  match result with
  | .ok => { s with phase := .loop }
  | .closed => { s with phase := .loop, running := false }
  | .failed => { s with fault := some .systemError }

def send (msg : Msg) (queueEmpty : Bool) (result : SocketResult) : State Msg :=
  let next := { s with phase := if queueEmpty then .loop else .sendAsyncMsg }
  match result with
  | .ok => { next with sent := s.sent ++ [msg] }
  | .closed => { next with running := false }
  | .failed => { s with fault := some .systemError }

/-- The guards are the program counters, the mutex and the event notification. -/
def step? : Event Msg → Option (State Msg)
  | .push thread msg =>
      if s.mutex = .free then
        some { s with
          asyncMsgQueue := s.asyncMsgQueue ++ [msg]
          mutex := .pushed thread
          queued := s.queued ++ [msg] }
      else none
  | .trigger thread =>
      if s.mutex = .pushed thread then
        some { s with
          asyncPending := s.asyncMsgQueue.length == 1 || s.asyncPending
          mutex := .notified thread }
      else none
  | .unlock thread => if s.mutex = .notified thread then some { s with mutex := .free } else none
  | .wait socket async =>
      match s.phase with
      | .loop =>
          if s.running ∧ (socket ∨ async) ∧ (async → s.asyncPending) then some (wait s socket async)
          else none
      | _ => none
  | .recvMsg result =>
      match s.phase with
      | .recvMsg => some (recvMsg s result)
      | _ => none
  | .pop =>
      match s.phase with
      | .sendAsyncMsg => if s.mutex = .free then some (pop s) else none
      | _ => none
  | .send result =>
      match s.phase with
      | .send msg queueEmpty => some (send s msg queueEmpty result)
      | _ => none
  | .closeConnection => some { s with running := false }
  | .leave =>
      match s.phase with
      | .loop => if s.running then none else some { s with phase := .finished }
      | _ => none

end Steps

/-- A failed assertion or an exception that leaves the thread ends the daemon. -/
def machine (Msg : Type) : LabeledMachine (State Msg) (Event Msg) where
  Initial s := s = initial
  step? s e := if s.fault = none then step? s e else none

end H9d.TCPClientThread
