import H9d.Core.ByteBits
import H9d.Model.Node

/-! # A node and what its registers mean

The node is the other side of the register operations. Its program is not here; what is known of it is the
description of the frames, by which it keeps the bytes of its registers and answers each request with the
value or with an error. Over the bytes stands the register file, where a register is a number that is
written, read and changed bit by bit.
-/

namespace H9d

open Cxx H9Frame

namespace RegisterNode

/-! The errors of `H9Frame::Error`. -/

def INVALID_FRAME : Byte := 1
def UNSUPPORTED_OPERATION : Byte := 3
def INVALID_REGISTER : Byte := 5
def READ_ONLY_REGISTER : Byte := 6
def WRITE_ONLY_REGISTER : Byte := 7
def REGISTER_SIZE_MISMATCH : Byte := 8

/-- A register of the node, with the bytes of its value. -/
structure Register where
  bytes : List Byte
  readable : Bool
  writable : Bool

abbrev Memory := Byte → Option Register

/-- What a request does to a register, or the error that it is answered with. -/
def access (type : FrameType) (payload : List Byte) (r : Register) : Except Byte Register :=
  if type = FrameType.GET_REG then
    if r.readable then .ok r else .error WRITE_ONLY_REGISTER
  else if ¬r.writable then .error READ_ONLY_REGISTER
  else if type = FrameType.SET_REG then
    if payload.length = r.bytes.length then .ok { r with bytes := payload }
    else .error REGISTER_SIZE_MISMATCH
  else if type = FrameType.SET_BIT ∨ type = FrameType.CLEAR_BIT then
    match payload with
    | [bit] =>
        if bit.toNat < 8 * r.bytes.length then
          .ok { r with bytes := Bytes.assignBit (type = FrameType.SET_BIT) bit.toNat r.bytes }
        else .error INVALID_FRAME
    | _ => .error INVALID_FRAME
  else .error UNSUPPORTED_OPERATION

/-- A frame of the node that answers a request, with its number. -/
def answer (nodeId : Byte) (request : H9Frame) (type : FrameType) (data : List Byte) : H9Frame :=
  { request with type, sourceId := nodeId, destinationId := request.sourceId }.setData data

def onFrame (nodeId : Byte) (request : H9Frame) (mem : Memory) : H9Frame × Memory :=
  match request.listed with
  | [] => (answer nodeId request FrameType.COMMAND_ERROR [INVALID_FRAME], mem)
  | reg :: payload =>
    match mem reg with
    | none => (answer nodeId request FrameType.COMMAND_ERROR [INVALID_REGISTER], mem)
    | some r =>
      match access request.type payload r with
      | .ok r =>
          (answer nodeId request FrameType.REG_VALUE (reg :: r.bytes), Function.update mem reg (some r))
      | .error code => (answer nodeId request FrameType.COMMAND_ERROR [code], mem)

/-- The program of a node: the frame that it answers a request with, and what it does to its registers. -/
abbrev Program := H9Frame → Memory → H9Frame × Memory

/-- A frame with the value of a register, to the one who asked for it. -/
structure Reports (nodeId : Byte) (request : H9Frame) (reg : Byte) (bytes : List Byte) (reply : H9Frame) :
    Prop where
  type : reply.type = FrameType.REG_VALUE
  sourceId : reply.sourceId = nodeId
  seqnum : reply.seqnum = request.seqnum
  dlc : reply.dlc.toNat = bytes.length + 1
  listed : reply.listed = reg :: bytes

/-- A node keeps to the description of the frames if it does what an acceptable request asks for and reports
the value that the register then has. -/
def Documented (nodeId : Byte) (program : Program) : Prop :=
  ∀ (request : H9Frame) (mem : Memory) (reg : Byte) (payload bytes : List Byte) (r : Register),
    request.listed = reg :: payload → mem reg = some r →
    access request.type payload r = .ok { r with bytes } → bytes.length ≤ 7 →
      Reports nodeId request reg bytes (program request mem).1 ∧
        (program request mem).2 = Function.update mem reg (some { r with bytes })

end RegisterNode

/-! ## Operations -/

/-- The operations on a register of a node. -/
inductive RegisterOp
  | get
  | set (value : RegValue)
  | setBit (bit : Byte)
  | clearBit (bit : Byte)
  deriving DecidableEq

def RegisterOp.call (env : Env) (n : Node) (reg : Byte) : RegisterOp → Call Port DevNodeException RegValue
  | .get => n.getRegister env reg
  | .set value => n.setRegister env reg value
  | .setBit bit => n.setRegisterBit env reg bit
  | .clearBit bit => n.clearRegisterBit env reg bit

/-- An operation with what the call finds: the memory, the number that the bus gives its frame, and the id
of the daemon on the bus. -/
structure RegisterAccess where
  env : Env
  hostId : Byte
  garbage : BitVec 16
  reg : Byte
  op : RegisterOp

namespace Node

/-- The promise of a request is fulfilled by the answer if its comparator accepts it. -/
def fulfils (n : Node) (a : RegisterAccess) (reply : H9Frame) : Bool :=
  ((RawNode.registerComparator a.garbage n.nodeId a.reg).setSeqnum a.env.seqnum).eqFrame reply

/-- An operation with the node on the bus: the frame that it sends reaches the node, and the node's answer
fulfils the promise or is not looked at. -/
def perform (n : Node) (program : RegisterNode.Program) (mem : RegisterNode.Memory) (a : RegisterAccess) :
    Outcome DevNodeException RegValue × RegisterNode.Memory :=
  match (a.op.call { a.env with reply := none } n a.reg).after [] with
  | [] => ((a.op.call { a.env with reply := none } n a.reg).outcome [], mem)
  | (frame, _) :: _ =>
      let (reply, mem) := program { frame with seqnum := a.env.seqnum, sourceId := a.hostId } mem
      let reply := if n.fulfils a reply then some reply else none
      ((a.op.call { a.env with reply } n a.reg).outcome [], mem)

/-- Operations one after the other, with what they return. -/
def performAll (n : Node) (program : RegisterNode.Program) :
    RegisterNode.Memory → List RegisterAccess → List (Outcome DevNodeException RegValue) × RegisterNode.Memory
  | mem, [] => ([], mem)
  | mem, a :: later =>
      let (outcome, mem) := n.perform program mem a
      let (outcomes, mem) := n.performAll program mem later
      (outcome :: outcomes, mem)

end Node

/-! ## The register file -/

namespace RegisterFile

/-- The number that each register holds. -/
abbrev File := Byte → ℕ

/-- What a register with this number reads as. -/
def view (desc : RegisterDesc) (k : ℕ) : RegValue :=
  if desc.size = 32 then .float (BitVec.ofNat 32 k)
  else if desc.size < 32 then .int (BitVec.ofNat 64 k)
  else .bytes (Bytes.ofValue (Node.byteSize desc) k)

/-- The number that a value is written as, if the register takes it. -/
def number? (desc : RegisterDesc) : RegValue → Option ℕ
  | .int v => if desc.size < 32 then some (v.toNat % 2 ^ desc.size) else none
  | .float x => if desc.type = "float" then some x.toNat else none
  | .bytes v => if Node.byteSize desc = v.length then some (Bytes.value v) else none
  | .string _ => none

/-- What the write of a value returns. -/
def written (k : ℕ) : RegValue → RegValue
  | .int _ => .int (BitVec.ofNat 64 k)
  | value => value

/-- An operation on a described register. -/
def apply (desc : RegisterDesc) (reg : Byte) (op : RegisterOp) (k : ℕ) :
    Outcome DevNodeException RegValue × ℕ :=
  match op with
  | .get => if desc.readable then (.value (view desc k), k) else (.throws (.registerNotReadableException reg), k)
  | .set value =>
      if desc.writable then
        match number? desc value with
        | some k => (.value (written k value), k)
        | none => (.throws (.unsupportedRegisterDataConversionException reg), k)
      else (.throws (.registerNotWritableException reg), k)
  | .setBit bit => change true bit
  | .clearBit bit => change false bit
where
  change (on : Bool) (bit : Byte) :=
    if desc.writable then
      let k := Bytes.assign on bit.toNat k
      (.value (.bytes (Bytes.ofValue (Node.byteSize desc) k)), k)
    else (.throws (.registerNotWritableException reg), k)

/-- An operation on the file changes its own register. -/
def step (n : Node) (file : File) (a : RegisterAccess) : Outcome DevNodeException RegValue × File :=
  match n.registerMap a.reg with
  | none => (.throws (.registerNotExistException a.reg), file)
  | some desc =>
      let (outcome, k) := apply desc a.reg a.op (file a.reg)
      (outcome, Function.update file a.reg k)

def stepAll (n : Node) : File → List RegisterAccess → List (Outcome DevNodeException RegValue) × File
  | file, [] => ([], file)
  | file, a :: later =>
      let (outcome, file) := step n file a
      let (outcomes, file) := stepAll n file later
      (outcome :: outcomes, file)

end RegisterFile

end H9d
