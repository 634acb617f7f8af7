import H9d.Model.Bus
import H9d.Model.RawNode

/-! # Register requests to one node over the bus

The bus and the promises of one node run side by side. A request registers its promise, queues its
frame, waits for the send promise of that frame, tells its own promise the sequence number in the
result, and waits for a frame. The node answers the frames it reads from the bus in any order,
echoing their sequence numbers; arrivals are tagged with the frame they answer.
-/

namespace H9d

open H9Frame Machine

/-- The constructor of unicast frames; members it does not write keep what is in memory. -/
def H9Frame.unicast (garbage : H9Frame) (origin : String) (type : FrameType) (flags dst : Byte)
    (data : List Byte) : H9Frame :=
  { garbage with origin, type, flags, destinationId := dst }.setData data

/-- The frame that a request sends. -/
def RawNode.Request.frame (garbage : H9Frame) (origin : String) (nodeId : Byte) :
    RawNode.Request → H9Frame
  | .reset => unicast garbage origin FrameType.NODE_RESET SINGE_FRAME nodeId []
  | .setReg reg regVal =>
      unicast garbage origin FrameType.SET_REG SINGE_FRAME nodeId (reg :: regVal)
  | .getReg reg => unicast garbage origin FrameType.GET_REG SINGE_FRAME nodeId [reg]
  | .setBit reg bit => unicast garbage origin FrameType.SET_BIT SINGE_FRAME nodeId [reg, bit]
  | .clearBit reg bit => unicast garbage origin FrameType.CLEAR_BIT SINGE_FRAME nodeId [reg, bit]

namespace RegisterTraffic

/-- The frame that an arrival answers. -/
abbrev Tag := Option Bus.FrameId

/-- A request in progress; `frame` is its frame once it is queued. -/
structure Call where
  request : RawNode.Request
  frame : Option Bus.FrameId

structure State where
  bus : Bus.State
  node : RawNode.State Tag
  /-- the requests in progress, under the promises they registered -/
  calls : RawNode.Pointer → Option Call
  /-- positions of the numbered frames that the node has still to answer -/
  unanswered : List ℕ
  /-- history: the frames of the finished requests, with what completed them -/
  finished : List (Bus.FrameId × Option (ReceivedFrame Tag))

inductive Event
  | call (p : RawNode.Pointer) (garbage : BitVec 16) (request : RawNode.Request)
  | sendFrame (p : RawNode.Pointer) (thread : Bus.Thread) (id : Bus.FrameId) (garbage : H9Frame)
      (origin : String)
  /-- a step of the bus, frames of other senders included -/
  | bus (e : Bus.Event)
  | setComparatorSeqnum (p : RawNode.Pointer)
  | answer (n : ℕ) (frame : H9Frame)
  | ignore (n : ℕ)
  /-- a frame that answers nothing -/
  | onFrameRecv (frame : H9Frame)
  | finish (p : RawNode.Pointer) (timeout : Bool)

/-- The node's answer to a frame: the register's value, or an error, with the same number. -/
def answers (nodeId : Byte) (request reply : H9Frame) : Prop :=
  reply.sourceId = nodeId ∧ reply.seqnum = request.seqnum ∧
    ((reply.type = FrameType.REG_VALUE ∧ 1 ≤ reply.dlc.toNat ∧ reply.data 0 = request.data 0) ∨
      reply.type = FrameType.COMMAND_ERROR)

instance (nodeId : Byte) (request reply : H9Frame) : Decidable (answers nodeId request reply) :=
  inferInstanceAs (Decidable (_ ∧ _))

/-- The position of the numbered frame that a step of the bus has put, if it is for the node. -/
def newNumber (nodeId : Byte) (before after : Bus.State) : Option ℕ :=
  (after.numbered[before.numbered.length]?).bind fun st =>
    if st.frame.destinationId = nodeId then some before.numbered.length else none

section Steps

variable (c : Bus.Config) (nodeId : Byte) (s : State)

def nodeStep? (e : RawNode.Event Tag) : Option (RawNode.State Tag) :=
  (RawNode.machine Tag nodeId).step? s.node e

/-- The guards are the program counters of the requests and what is assumed of the node: it answers
a request while fewer than 32 numbered frames follow it on the bus, and it may ignore a frame that
no request waits for. -/
def step? : Event → Option State
  | .call p garbage request =>
      if request.register?.isSome then
        (nodeStep? nodeId s (.createFramePromise p garbage request)).map fun node =>
          { s with node, calls := Function.update s.calls p (some ⟨request, none⟩) }
      else none
  | .sendFrame p thread id garbage origin =>
      match s.calls p with
      | some ⟨request, none⟩ =>
          ((Bus.machine c).step? s.bus
            (.push thread id (request.frame garbage origin nodeId) false)).map fun bus =>
              { s with bus, calls := Function.update s.calls p (some ⟨request, some id⟩) }
      | _ => none
  | .bus e =>
      ((Bus.machine c).step? s.bus e).bind fun bus =>
        let unanswered := s.unanswered ++ (newNumber nodeId s.bus bus).toList
        if ∀ n ∈ unanswered, bus.numbered.length ≤ n + 32 then some { s with bus, unanswered }
        else none
  | .setComparatorSeqnum p =>
      match s.calls p with
      | some ⟨_, some id⟩ =>
          ((s.bus.heap id).bind fun f => f.sendPromise.value).bind fun result =>
            (nodeStep? nodeId s (.setComparatorSeqnum p result.seqnum)).map fun node =>
              { s with node }
      | _ => none
  | .answer n frame =>
      (s.bus.numbered[n]?).bind fun st =>
        if n ∈ s.unanswered ∧ answers nodeId st.frame frame then
          (nodeStep? nodeId s (.onFrameRecv ⟨frame, some st.id⟩)).map fun node =>
            { s with node, unanswered := s.unanswered.erase n }
        else none
  | .ignore n =>
      (s.bus.numbered[n]?).bind fun st =>
        if ∀ p ∈ s.node.framePromiseSet, ∀ call ∈ s.calls p, call.frame ≠ some st.id then
          some { s with unanswered := s.unanswered.erase n }
        else none
  | .onFrameRecv frame =>
      if frame.sourceId = nodeId →
          frame.type ≠ FrameType.REG_VALUE ∧ frame.type ≠ FrameType.COMMAND_ERROR then
        (nodeStep? nodeId s (.onFrameRecv ⟨frame, none⟩)).map fun node => { s with node }
      else none
  | .finish p timeout =>
      match s.calls p, s.node.heap p with
      | some ⟨_, some id⟩, some fp =>
          if fp.comparatorHasSeqnum ∧ (timeout ∨ fp.promise.value.isSome) then
            (nodeStep? nodeId s (.destroyFramePromise p)).map fun node =>
              { s with
                node
                calls := Function.update s.calls p none
                finished := s.finished ++ [(id, if timeout then none else fp.promise.value)] }
          else none
      | _, _ => none

end Steps

def initial : State where
  bus := Bus.initial
  node := RawNode.State.empty
  calls := fun _ => none
  unanswered := []
  finished := []

def machine (c : Bus.Config) (nodeId : Byte) : LabeledMachine State Event where
  Initial s := s = initial
  step? := step? c nodeId

end RegisterTraffic

end H9d
