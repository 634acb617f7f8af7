import H9d.Core.Future
import H9d.Core.LabeledMachine
import H9d.Model.H9Frame

/-! # The data bus

One thread owns the bus. It sleeps in `wait`, drains the forward and send queues when the async
event is reported, and otherwise reads the reported sockets. Any thread may queue a frame. A step
is one operation on shared data: a queue operation under its lock, one frame handed to one
endpoint, one acknowledgement, one trigger.
-/

namespace H9d

open H9Frame Machine

structure SendFrameResult where
  seqnum : Byte
  sourceId : BitVec 16
  successfullySentToDriversCount : ℕ
  failedToSendToDriversCount : ℕ
  deriving DecidableEq

structure BusFrame extends H9Frame where
  raw : Bool
  localFrame : Bool
  activatePromise : Bool
  numberOfActiveBus : ℕ
  sendCounter : ℕ
  sendFailCounter : ℕ
  sendPromise : Cxx.Promise SendFrameResult
  deriving DecidableEq

namespace BusFrame

def make (a : H9Frame) (raw : Bool) : BusFrame where
  toH9Frame := a
  raw := raw
  localFrame := false
  activatePromise := false
  numberOfActiveBus := 0
  sendCounter := 0
  sendFailCounter := 0
  sendPromise := Cxx.Promise.unset

def markAsLocalOrigin (f : BusFrame) : BusFrame := { f with localFrame := true }

def activateSendFinishPromise (f : BusFrame) (activeBuses : ℕ) : BusFrame :=
  { f with activatePromise := true, numberOfActiveBus := activeBuses }

def isSentFinish (f : BusFrame) : Bool := f.numberOfActiveBus ≤ f.sendCounter + f.sendFailCounter

/-- The result that both increments pass to the promise. -/
def sendResult (f : BusFrame) : SendFrameResult :=
  ⟨f.seqnum, f.sourceId.setWidth 16, f.sendCounter, f.sendFailCounter⟩

def finish (f : BusFrame) : Except Cxx.FutureError BusFrame :=
  if f.activatePromise && f.isSentFinish then
    match f.sendPromise.setValue f.sendResult with
    | .ok sendPromise => .ok { f with sendPromise }
    | .error e => .error e
  else .ok f

def incSendCounter (f : BusFrame) : Except Cxx.FutureError BusFrame :=
  finish { f with sendCounter := f.sendCounter + 1 }

def incSendFailCounter (f : BusFrame) : Except Cxx.FutureError BusFrame :=
  finish { f with sendFailCounter := f.sendFailCounter + 1 }

end BusFrame

namespace Bus

abbrev FrameId := ℕ
abbrev Socket := ℕ
abbrev Thread := ℕ

/-- The types of frames that take a sequence number. -/
def takesSeqnum (type : FrameType) : Bool :=
  [FrameType.RES1, FrameType.PAGE_START, FrameType.QUIT_BOOTLOADER, FrameType.PAGE_FILL,
    FrameType.BOOTLOADER_TURNED_ON, FrameType.SET_REG, FrameType.GET_REG, FrameType.SET_BIT,
    FrameType.CLEAR_BIT, FrameType.NODE_UPGRADE, FrameType.NODE_RESET].contains type

/-- The part of `recv_thread_send` that stamps a frame; it returns the frame and `next_seqnum`. -/
def stamp (busId : BitVec 16) (nextSeqnum : Byte) (raw : Bool) (frame : H9Frame) :
    H9Frame × Byte :=
  if raw then (frame, nextSeqnum)
  else
    let frame := { frame with sourceId := busId.setWidth 8 }
    let (frame, nextSeqnum) :=
      if takesSeqnum frame.type then ({ frame with seqnum := nextSeqnum }, nextSeqnum + 1)
      else (frame, nextSeqnum)
    (frame, if SEQNUM_MAX_VALUE < nextSeqnum.toNat then 0 else nextSeqnum)

/-- What the configuration fixes before the thread starts. Sockets are the keys of the map of
endpoints, in its order. -/
structure Config where
  sockets : List Socket
  nodup : sockets.Nodup
  nonempty : sockets ≠ []
  name : Socket → String
  forwarding : Bool
  busId : BitVec 16

/-- An endpoint with the history of its driver: the frames it was given, and its acknowledgements. -/
structure BusEndpoint where
  pendingFrames : List FrameId
  handed : List FrameId
  outcomes : List Bool
  deriving DecidableEq

/-- Where the bus thread is. -/
inductive Phase
  /-- before `wait` -/
  | waiting
  /-- reading the reported sockets -/
  | receiving (sockets : List Socket)
  /-- between pushing a received frame on the empty forward queue and triggering -/
  | announcing (sockets : List Socket)
  /-- at the head of the drain loop -/
  | forward
  | forwarding (frame : FrameId) (rest : List Socket)
  | send (ret : Bool)
  | sending (frame : FrameId) (rest : List Socket)
  deriving DecidableEq, Repr

def Phase.draining : Phase → Bool
  | .forward | .forwarding .. | .send _ | .sending .. => true
  | .waiting | .receiving _ | .announcing _ => false

/-- A frame as the endpoints got it. -/
structure Stamped where
  id : FrameId
  raw : Bool
  frame : H9Frame
  deriving DecidableEq

/-- Whether the frame was given a sequence number. -/
def Stamped.isNumbered (st : Stamped) : Bool := !st.raw && takesSeqnum st.frame.type

structure State where
  heap : FrameId → Option BusFrame
  nextSeqnum : Byte
  endpoints : Socket → BusEndpoint
  forwardQueue : List FrameId
  sendQueue : List FrameId
  asyncPending : Bool
  /-- threads that pushed on the empty send queue and have not triggered yet -/
  announcing : List Thread
  phase : Phase
  fault : Option Cxx.FutureError
  /-- history: every frame ever pushed on the send queue, and on the forward queue -/
  queuedLocal : List FrameId
  queuedForeign : List FrameId
  /-- history: the frames taken from the send queue, as they were stamped -/
  stamped : List Stamped

inductive Event
  | push (thread : Thread) (id : FrameId) (frame : H9Frame) (raw : Bool)
  | trigger (thread : Thread)
  | wait (async : Bool) (sockets : List Socket)
  | recv (id : FrameId) (frame : Option H9Frame) (more : Bool)
  | announce
  | forward
  | handForward
  | send
  | hand
  | ack (socket : Socket) (success : Bool)

namespace State

/-- The numbered frames, in the order in which they were put on the bus. -/
def numbered (s : State) : List Stamped := s.stamped.filter Stamped.isNumbered

def writeFrame (s : State) (id : FrameId) (f : BusFrame) : State :=
  { s with heap := Function.update s.heap id (some f) }

def writeEndpoint (s : State) (socket : Socket) (e : BusEndpoint) : State :=
  { s with endpoints := Function.update s.endpoints socket e }

/-- `BusEndpoint::send_frame`: the frame is pending before the driver sees it. -/
def sendFrame (s : State) (socket : Socket) (id : FrameId) : State :=
  let e := s.endpoints socket
  s.writeEndpoint socket
    { e with pendingFrames := e.pendingFrames ++ [id], handed := e.handed ++ [id] }

/-- `send_ack_callback`: the acknowledgement counts for the front of `pending_frames`. -/
def sendAckCallback (s : State) (socket : Socket) (success : Bool) : State :=
  let e := s.endpoints socket
  match e.pendingFrames with
  | [] => s.writeEndpoint socket { e with outcomes := e.outcomes ++ [success] }
  | id :: pendingFrames =>
    let s := s.writeEndpoint socket { e with pendingFrames, outcomes := e.outcomes ++ [success] }
    match s.heap id with
    | none => s
    | some f =>
      match if success then f.incSendCounter else f.incSendFailCounter with
      | .ok f => s.writeFrame id f
      | .error e => { s with fault := some e }

end State

section Steps

variable (c : Config) (s : State)

/-- `send_frame_noblock` up to the end of its critical section. -/
def push (thread : Thread) (id : FrameId) (frame : H9Frame) (raw : Bool) : State :=
  { s.writeFrame id (BusFrame.make frame raw).markAsLocalOrigin with
    sendQueue := s.sendQueue ++ [id]
    announcing := if s.sendQueue = [] then thread :: s.announcing else s.announcing
    queuedLocal := s.queuedLocal ++ [id] }

def trigger (thread : Thread) : State :=
  { s with asyncPending := true, announcing := s.announcing.erase thread }

/-- The async event is edge-triggered, so reporting it consumes it. -/
def wait (async : Bool) (sockets : List Socket) : State :=
  if async then { s with asyncPending := false, phase := .forward }
  else { s with phase := .receiving (c.sockets.filter (· ∈ sockets)) }

/-- One `recv_frame` of the endpoint served; `more` is `RECV_FRAME_DATA_IN_BUF`. -/
def recv (id : FrameId) (frame : Option H9Frame) (more : Bool) (socket : Socket)
    (rest : List Socket) : State :=
  match frame with
  | none => { s with phase := .receiving rest }
  | some frame =>
    let next := if more then socket :: rest else rest
    if c.forwarding then
      { s.writeFrame id (BusFrame.make frame false) with
        forwardQueue := s.forwardQueue ++ [id]
        phase := if s.forwardQueue = [] then .announcing next else .receiving next
        queuedForeign := s.queuedForeign ++ [id] }
    else { s with phase := .receiving next }

/-- The head of the drain loop with the dequeue of `recv_thread_forward`. -/
def forward : State :=
  if c.forwarding then
    match s.forwardQueue with
    | [] => { s with phase := .send false }
    | id :: forwardQueue => { s with forwardQueue, phase := .forwarding id c.sockets }
  else { s with phase := .send false }

/-- One endpoint in the loop of `recv_thread_forward`. -/
def handForward (id : FrameId) (f : BusFrame) (socket : Socket) (rest : List Socket) : State :=
  let next := { s with phase := .forwarding id rest }
  if c.name socket == f.origin then next
  else if f.localFrame then next
  else next.sendFrame socket id

/-- `recv_thread_send` up to its loop over the endpoints. -/
def send (ret : Bool) : Option State :=
  match s.sendQueue with
  | [] => some { s with phase := if ret then .forward else .waiting }
  | id :: sendQueue => (s.heap id).map fun f =>
    let f := f.activateSendFinishPromise c.sockets.length
    let (frame, nextSeqnum) := stamp c.busId s.nextSeqnum f.raw f.toH9Frame
    { s.writeFrame id { f with toH9Frame := frame } with
      sendQueue, nextSeqnum
      phase := .sending id c.sockets
      stamped := s.stamped ++ [⟨id, f.raw, frame⟩] }

end Steps

/-- The guards are the program counter, the event notification, and the drivers' discipline: a
driver acknowledges only a frame it was given and has not acknowledged yet. -/
def step? (c : Config) (s : State) : Event → Option State
  | .push thread id frame raw =>
      if (s.heap id).isNone ∧ thread ∉ s.announcing then some (push s thread id frame raw) else none
  | .trigger thread => if thread ∈ s.announcing then some (trigger s thread) else none
  | .wait async sockets =>
      if s.phase = .waiting ∧ (async → s.asyncPending) ∧ sockets ⊆ c.sockets ∧
          0 < async.toNat + sockets.length ∧ async.toNat + sockets.length ≤ 2 then
        some (wait c s async sockets)
      else none
  | .recv id frame more =>
      match s.phase with
      | .receiving (socket :: rest) =>
          if (s.heap id).isNone then some (recv c s id frame more socket rest) else none
      | .receiving [] => some { s with phase := .waiting }
      | _ => none
  | .announce =>
      match s.phase with
      | .announcing sockets => some { s with asyncPending := true, phase := .receiving sockets }
      | _ => none
  | .forward => if s.phase = .forward then some (forward c s) else none
  | .handForward =>
      match s.phase with
      | .forwarding id (socket :: rest) => (s.heap id).map fun f => handForward c s id f socket rest
      | .forwarding _ [] => some { s with phase := .send true }
      | _ => none
  | .send =>
      match s.phase with
      | .send ret => send c s ret
      | _ => none
  | .hand =>
      match s.phase with
      | .sending id (socket :: rest) =>
          some ({ s with phase := .sending id rest }.sendFrame socket id)
      | .sending _ [] => some { s with phase := .forward }
      | _ => none
  | .ack socket success =>
      if socket ∈ c.sockets ∧ (s.endpoints socket).outcomes.length < (s.endpoints socket).handed.length
      then some (s.sendAckCallback socket success) else none

def initial : State where
  heap := fun _ => none
  nextSeqnum := 0
  endpoints := fun _ => ⟨[], [], []⟩
  forwardQueue := []
  sendQueue := []
  asyncPending := false
  announcing := []
  phase := .waiting
  fault := none
  queuedLocal := []
  queuedForeign := []
  stamped := []

/-- An exception in the bus thread aborts the daemon. -/
def machine (c : Config) : LabeledMachine State Event where
  Initial s := s = initial
  step? s e := if s.fault = none then step? c s e else none

end Bus

end H9d
