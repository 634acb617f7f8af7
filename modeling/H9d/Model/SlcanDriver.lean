import H9d.Core.LabeledMachine
import H9d.Core.Stoi
import H9d.Model.H9Frame

/-! # An endpoint with an SLCAN adapter

The driver writes commands to a serial line and reads from it, in pieces of any length, the
adapter's answers and the frames it received. Both ends of the line are modelled: the adapter
answers the commands it was sent one after the other, and between two answers it may send other
lines. Sending and reading are done by the bus thread, so each call is one step.
-/

namespace H9d

open H9Frame Machine Cxx

namespace SlcanDriver

abbrev FrameId := ℕ

def CR : Byte := 0x0d
def BEL : Byte := 0x07

/-- A line ends with one of the two. -/
def isTerminator (b : Byte) : Bool := b == CR || b == BEL

inductive Fault
  | exception (e : StringError)
  | undefined
  deriving DecidableEq, Repr

/-- The bytes beyond the eighth are outside the frame. -/
def buildSlcanMsg (frame : H9Frame) : Outcome StringError (List Byte) :=
  if 8 < frame.dlc.toNat then .undefined
  else .value ([0x54] ++ hexFixed 8 frame.canId.toNat ++ hexFixed 1 frame.dlc.toNat ++
    (List.ofFn frame.data |>.take frame.dlc.toNat).flatMap (fun b => hexFixed 2 b.toNat) ++ [CR])

/-- The loop over the data bytes; `buf` has room for eight. -/
def parseData (slcanData : List Byte) : ℕ → ℕ → (Fin 8 → Byte) → Outcome StringError (Fin 8 → Byte)
  | _, 0, buf => .value buf
  | i, left + 1, buf => do
    let tmp ← stoiHex ((slcanData.drop (10 + i * 2)).take 2)
    if bound : i < 8 then
      parseData slcanData (i + 1) left (Function.update buf ⟨i, bound⟩ (BitVec.ofInt 8 tmp))
    else .undefined

/-- `frame` and the buffer start with what is in memory. -/
def parseSlcanMsg (slcanData : List Byte) (frame : H9Frame) : Outcome StringError (Option H9Frame) :=
  if slcanData.length < 10 then .value none
  else do
    let id ← stoiHex ((slcanData.drop 1).take 8)
    let dlc ← stoiHex ((slcanData.drop 9).take 1)
    let dlc : Byte := BitVec.ofInt 8 dlc
    if slcanData.length < 10 + 2 * dlc.toNat then .value none
    else do
      let data ← parseData slcanData 0 dlc.toNat frame.data
      .value (some { frame.setCanId (BitVec.ofInt 32 id) with dlc, data })

inductive Command
  | init
  | frame (id : FrameId)
  deriving DecidableEq, Repr

def Command.frame? : Command → Option FrameId
  | .init => none
  | .frame id => some id

structure Answer where
  command : Command
  ok : Bool
  deriving DecidableEq, Repr

/-- A byte on its way to the driver, with the answer that it is. -/
structure WireByte where
  byte : Byte
  answer : Option Answer
  deriving DecidableEq, Repr

structure State where
  recvBuf : List Byte
  recvQueue : List H9Frame
  pendingSendCount : ℕ
  /-- the queue of the endpoint that the driver belongs to -/
  pendingFrames : List FrameId
  fault : Option Fault
  /-- the adapter: the commands that it has still to answer, and the bytes not read from it -/
  commands : List Command
  stream : List WireByte
  /-- history: the frames sent, the answers read, and the calls of `send_ack_callback` with the
  frame they were counted for -/
  handed : List FrameId
  read : List Answer
  acked : List (FrameId × Bool)

/-- The return value of `recv_data` with the frame it fills in. -/
inductive RecvResult
  | emptyBuf
  | recvFrame (frame : H9Frame)
  | recvFrameDataInBuf (frame : H9Frame)
  deriving DecidableEq

section Driver

variable (s : State)

/-- The callback that the endpoint has set. -/
def sendAckCallback (success : Bool) : State :=
  match s.pendingFrames with
  | [] => s
  | id :: pendingFrames => { s with pendingFrames, acked := s.acked ++ [(id, success)] }

def frameSentCorrectly : State := sendAckCallback s true
def frameSentIncorrectly : State := sendAckCallback s false

def parseBuf (name : String) (garbage : H9Frame) : Outcome StringError State :=
  match s.recvBuf with
  | [] => .value s
  | first :: _ =>
      if first = CR then
        .value (if 0 < s.pendingSendCount then
          frameSentCorrectly { s with pendingSendCount := s.pendingSendCount - 1 } else s)
      else if first = BEL then
        .value (if 0 < s.pendingSendCount then
          frameSentIncorrectly { s with pendingSendCount := s.pendingSendCount - 1 } else s)
      else if first = 0x54 then do
        match ← parseSlcanMsg s.recvBuf garbage with
        | some frame => .value { s with recvQueue := s.recvQueue ++ [{ frame with origin := name }] }
        | none =>
            -- the log message replaces the carriage return, which `find` may not find
            if CR ∈ s.recvBuf then .value s else .throws .outOfRange
      else .value s

/-- One byte in the loop of `recv_data`. -/
def recvByte (name : String) (garbage : H9Frame) (b : Byte) : Outcome StringError State :=
  let s := { s with recvBuf := s.recvBuf ++ [b] }
  if isTerminator b then do
    let s ← parseBuf s name garbage
    .value { s with recvBuf := [] }
  else .value s

def recvBytes (name : String) (garbage : H9Frame) (s : State) : List WireByte → Outcome StringError State
  | [] => .value s
  | w :: rest => do
    let next ← recvByte { s with read := s.read ++ w.answer.toList } name garbage w.byte
    recvBytes name garbage next rest

/-- The first part of `recv_data`: there is no read while decoded frames are waiting. -/
def fillQueue (name : String) (garbage : H9Frame) (nbyte : ℕ) : Outcome StringError State :=
  if s.recvQueue = [] then
    recvBytes name garbage { s with stream := s.stream.drop nbyte } (s.stream.take nbyte)
  else .value s

/-- The second part. -/
def takeFrame : RecvResult × State :=
  match s.recvQueue with
  | [] => (.emptyBuf, s)
  | frame :: recvQueue =>
      (if recvQueue = [] then .recvFrame frame else .recvFrameDataInBuf frame, { s with recvQueue })

def recvData (name : String) (garbage : H9Frame) (nbyte : ℕ) :
    Outcome StringError (RecvResult × State) := do
  let s ← fillQueue s name garbage nbyte
  .value (takeFrame s)

/-- `BusEndpoint::send_frame` with `send_data`; each carriage return completes a command. -/
def sendFrame (id : FrameId) (frame : H9Frame) : Outcome StringError State := do
  let msg ← buildSlcanMsg frame
  .value { s with
    pendingFrames := s.pendingFrames ++ [id]
    handed := s.handed ++ [id]
    commands := s.commands ++ List.replicate (msg.count CR) (.frame id)
    pendingSendCount := s.pendingSendCount + 1 }

/-- A call that throws or is undefined ends the daemon. -/
def afterCall : Outcome StringError State → State
  | .value next => next
  | .throws e => { s with fault := some (.exception e) }
  | .undefined => { s with fault := some .undefined }

end Driver

/-- What `open` leaves: the commands of the init string are on the line. -/
def opened (initString : List Byte) : State where
  recvBuf := []
  recvQueue := []
  pendingSendCount := 0
  pendingFrames := []
  fault := none
  commands := List.replicate (initString.count CR) .init
  stream := []
  handed := []
  read := []
  acked := []

inductive Event
  | sendFrame (id : FrameId) (frame : H9Frame)
  | recvData (garbage : H9Frame) (nbyte : ℕ)
  /-- the adapter answers the command it has had longest -/
  | answer (ok : Bool)
  /-- the adapter sends a line that is no answer -/
  | line (body : List Byte)

/-- The bytes of a line that is no answer. -/
def lineBytes (body : List Byte) : List WireByte :=
  (body ++ [CR]).map fun byte => ⟨byte, none⟩

/-- The guards: frames are sent once, a read returns between 1 and 99 bytes, answers answer something,
and other lines do not look like answers. -/
def step? (name : String) (s : State) : Event → Option State
  | .sendFrame id frame =>
      if s.fault = none ∧ id ∉ s.handed then some (afterCall s (sendFrame s id frame)) else none
  | .recvData garbage nbyte =>
      if s.fault = none ∧ (s.recvQueue = [] → 1 ≤ nbyte ∧ nbyte ≤ min 99 s.stream.length) then
        some (afterCall s (recvData s name garbage nbyte >>= fun result => .value result.2))
      else none
  | .answer ok =>
      match s.commands with
      | [] => none
      | command :: commands => some { s with
          commands
          stream := s.stream ++ [⟨if ok then CR else BEL, some ⟨command, ok⟩⟩] }
  | .line body =>
      if body ≠ [] ∧ body.all (fun b => !isTerminator b) then
        some { s with stream := s.stream ++ lineBytes body }
      else none

def machine (initString : List Byte) (name : String) : LabeledMachine State Event where
  Initial s := s = opened initString
  step? := step? name

/-- A frame comes with the promise of more only from a queue that is not yet empty. -/
theorem recvData_again {s t : State} {name : String} {garbage frame : H9Frame} {nbyte : ℕ}
    (again : recvData s name garbage nbyte = .value (.recvFrameDataInBuf frame, t)) :
    t.recvQueue ≠ [] ∧ (s.recvQueue ≠ [] → s.recvQueue.length = t.recvQueue.length + 1) := by
  obtain ⟨filled, fill, taken⟩ := Outcome.bind_eq_value.mp again
  have taken := Outcome.value.inj taken
  rw [takeFrame] at taken
  split at taken
  · cases taken
  · next first recvQueue queue =>
    split at taken
    · cases taken
    · next more =>
      cases taken
      refine ⟨more, fun waiting => ?_⟩
      rw [fillQueue, if_neg waiting] at fill
      obtain rfl := Outcome.value.inj fill
      exact congrArg List.length queue

/-- The loop of `Bus::recv_thread` for an endpoint whose line is ready: it calls again as long as there
are frames in the buffer. -/
def recvThread (name : String) (garbage : H9Frame) (nbyte : ℕ) (s : State) :
    Outcome StringError (List H9Frame × State) :=
  match _read : recvData s name garbage nbyte with
  | .value (.emptyBuf, t) => .value ([], t)
  | .value (.recvFrame frame, t) => .value ([frame], t)
  | .value (.recvFrameDataInBuf frame, t) => do
      let (frames, u) ← recvThread name garbage nbyte t
      .value (frame :: frames, u)
  | .throws e => .throws e
  | .undefined => .undefined
termination_by (if s.recvQueue = [] then 1 else 0, s.recvQueue.length)
decreasing_by
  obtain ⟨more, shorter⟩ := recvData_again _read
  by_cases empty : s.recvQueue = []
  · exact Prod.Lex.left _ _ (by rw [if_neg more, if_pos empty]; exact Nat.zero_lt_one)
  · rw [if_neg more, if_neg empty, shorter empty]
    exact Prod.Lex.right _ (Nat.lt_succ_self _)

/-- The line is ready time and again: the frames received, and the state left behind. -/
def recvThreadAll (name : String) :
    List (H9Frame × ℕ) → State → Outcome StringError (List H9Frame × State)
  | [], s => .value ([], s)
  | (garbage, nbyte) :: reads, s => do
      let (frames, t) ← recvThread name garbage nbyte s
      let (more, u) ← recvThreadAll name reads t
      .value (frames ++ more, u)

end SlcanDriver

end H9d
