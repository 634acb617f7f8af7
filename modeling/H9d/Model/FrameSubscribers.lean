import H9d.Model.FrameJson
import H9d.Model.FrameSubject
import H9d.Model.TCPClientThread

/-! # Clients that subscribe to frames

The thread of the bus tells the observers of each frame, with the mutex of the subject held. The observer of
a client queues a notification for the client's thread, which sends it when it gets there. In between, other
threads queue what is no frame.
-/

namespace H9d

open Cxx Jsonrpcpp Machine

namespace FrameSubject.Callback

variable {FrameObserver : Type}

def observer : Callback FrameObserver → FrameObserver
  | .onFrameRecv observer _ | .onFrameSend observer _ => observer

def frame : Callback FrameObserver → H9Frame
  | .onFrameRecv _ frame | .onFrameSend _ frame => frame

end FrameSubject.Callback

namespace FrameSubscribers

open FrameSubject TCPClientThread

abbrev ClientId := ℕ

/-- The thread of the bus, among the threads that queue messages. -/
abbrev recvThread : Thread := 0

/-- The node manager observes the bus before there are clients. -/
inductive Observer
  | nodeMgr
  | clientFrameObs (client : ClientId)
  deriving DecidableEq

structure Client where
  thread : TCPClientThread.State Notification
  /-- `is_frame_observer_set` -/
  frameObserver : Bool
  /-- the observer has a subject -/
  attached : Bool
  /-- history: how many frames there were before it subscribed -/
  missed : ℕ

/-- Where the thread of the bus is, with the calls that it has yet to make. -/
inductive Notifying
  | outside
  | inLoop (calls : List (Callback Observer))
  /-- in `send_msg` of a client -/
  | inSendMsg (client : ClientId) (calls : List (Callback Observer))

def Notifying.calls : Notifying → List (Callback Observer)
  | .outside => []
  | .inLoop calls | .inSendMsg _ calls => calls

end FrameSubscribers

structure FrameSubscribers where
  subject : FrameSubject FrameSubscribers.Observer
  bus : FrameSubscribers.Notifying
  clients : FrameSubscribers.ClientId → FrameSubscribers.Client
  /-- history: the frames that the observers are told of -/
  traffic : List H9Frame

namespace FrameSubscribers

open FrameSubject TCPClientThread

inductive Event
  /-- the mutex of the subject is taken, for a frame of an endpoint or one that is sent -/
  | notifyFrameRecvObserver (frame : H9Frame)
  | notifyFrameSendObserver (frame : H9Frame)
  /-- the next call, up to the push on the queue of the client -/
  | onFrame
  | trigger
  | unlock
  /-- the mutex of the subject is given back -/
  | finish
  | subscribe (client : ClientId) (memory : BitVec 16)
  | detach (client : ClientId)
  /-- a step of a client's thread, or of another thread that queues messages for it -/
  | client (client : ClientId) (e : TCPClientThread.Event Notification)

/-- Only the thread of the bus queues frames. -/
def fromOthers : TCPClientThread.Event Notification → Bool
  | .push thread msg => thread != recvThread && msg.method != "on_frame"
  | .trigger thread | .unlock thread => thread != recvThread
  | .wait .. | .recvMsg _ | .pop | .send _ | .closeConnection | .leave => true

variable (s : FrameSubscribers)

def setClient (c : ClientId) (client : Client) : FrameSubscribers :=
  { s with clients := Function.update s.clients c client }

def stepThread (c : ClientId) (e : TCPClientThread.Event Notification) : Option FrameSubscribers :=
  ((TCPClientThread.machine Notification).step? (s.clients c).thread e).map fun thread =>
    s.setClient c { s.clients c with thread }

/-- What the manager does with a frame is not followed. -/
def call (calls : List (Callback Observer)) (frame : H9Frame) : Observer → Option FrameSubscribers
  | .nodeMgr => some { s with bus := .inLoop calls }
  | .clientFrameObs c =>
      match (H9d.onFrame frame : Outcome Exception Notification) with
      | .value msg => { s with bus := .inSendMsg c calls }.stepThread c (.push recvThread msg)
      | .throws _ | .undefined => none

def notify (frame : H9Frame) (calls : List (Callback Observer)) : Option FrameSubscribers :=
  match s.bus with
  | .outside => some { s with bus := .inLoop calls, traffic := s.traffic ++ [frame] }
  | .inLoop _ | .inSendMsg .. => none

/-- A client subscribes in its own thread. A second observer would replace the first, which is still attached;
this is left out. -/
def subscribe (c : ClientId) (memory : BitVec 16) : Option FrameSubscribers :=
  match s.bus, (s.clients c).thread.phase, (s.clients c).frameObserver with
  | .outside, .recvMsg, false =>
      (s.subject.attachFrameObserver (.clientFrameObs c) (.defaultConstructed memory)).map fun subject =>
        { s.setClient c { s.clients c with frameObserver := true, attached := true, missed := s.traffic.length } with
          subject }
  | _, _, _ => none

/-- After its loop, the thread of a client detaches the observer. -/
def detach (c : ClientId) : Option FrameSubscribers :=
  match s.bus, (s.clients c).thread.phase, (s.clients c).attached with
  | .outside, .finished, true =>
      some { s.setClient c { s.clients c with attached := false } with
        subject := s.subject.detachFrameObserver (.clientFrameObs c) }
  | _, _, _ => none

def step? : Event → Option FrameSubscribers
  | .notifyFrameRecvObserver frame => s.notify frame (s.subject.notifyFrameRecvObserver frame)
  | .notifyFrameSendObserver frame => s.notify frame (s.subject.notifyFrameSendObserver frame)
  | .onFrame =>
      match s.bus with
      | .inLoop (callback :: calls) => s.call calls callback.frame callback.observer
      | .inLoop [] | .outside | .inSendMsg .. => none
  | .trigger =>
      match s.bus with
      | .inSendMsg c _ => s.stepThread c (.trigger recvThread)
      | .outside | .inLoop _ => none
  | .unlock =>
      match s.bus with
      | .inSendMsg c calls => { s with bus := .inLoop calls }.stepThread c (.unlock recvThread)
      | .outside | .inLoop _ => none
  | .finish =>
      match s.bus with
      | .inLoop [] => some { s with bus := .outside }
      | .inLoop (_ :: _) | .outside | .inSendMsg .. => none
  | .subscribe c memory => s.subscribe c memory
  | .detach c => s.detach c
  | .client c e => if fromOthers e then s.stepThread c e else none

/-- Before the first client. -/
def start (memory : BitVec 16) : Option FrameSubscribers :=
  (FrameSubject.new.attachFrameObserver .nodeMgr (.defaultConstructed memory)).map fun subject =>
    { subject
      bus := .outside
      clients := fun _ => ⟨TCPClientThread.initial, false, false, 0⟩
      traffic := [] }

def machine : LabeledMachine FrameSubscribers Event where
  Initial s := ∃ memory, start memory = some s
  step? := step?

end FrameSubscribers

end H9d
