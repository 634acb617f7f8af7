import H9d.Model.API
import H9d.Model.RegisterFile

/-! # Requests that reach the nodes

The frame that a request of a client leads to reaches the node that it is for. What the node answers is the
answer of the call if the comparator of the request accepts it, and is not looked at otherwise. Over the
nodes stands a store with a number for each of their registers.
-/

namespace H9d

open Cxx Nlohmann Jsonrpcpp H9Frame

namespace API

/-- The methods that act on a register. -/
inductive RegisterMethod
  | getRegisterValue
  | setRegisterValue
  | setRegisterBit
  | clearRegisterBit
  deriving DecidableEq

namespace RegisterMethod

def method : RegisterMethod → Method
  | getRegisterValue => .getRegisterValue
  | setRegisterValue => .setRegisterValue
  | setRegisterBit => .setRegisterBit
  | clearRegisterBit => .clearRegisterBit

/-- The node, the register and the operation that the parameters are read as; `none` is a value of a type
that is not supported. -/
def asked (cast : FloatCast) (params : Parameter) :
    RegisterMethod → Except AccessError (Option (BitVec 16 × Byte × RegisterOp))
  | getRegisterValue => do
      let (nodeId, reg) ← registerParams cast params
      return some (nodeId, reg, .get)
  | setRegisterValue => do
      let ((nodeId, reg), val) ← setRegisterParams cast params
      return val.map fun val => (nodeId, reg, .set val)
  | setRegisterBit => do
      let ((nodeId, reg), bitNum) ← bitParams cast params
      return some (nodeId, reg, .setBit bitNum)
  | clearRegisterBit => do
      let ((nodeId, reg), bitNum) ← bitParams cast params
      return some (nodeId, reg, .clearBit bitNum)

end RegisterMethod

end API

/-- The value of an operation as it is given to the client. -/
def RegisterOp.json (cast : FloatCast) : RegisterOp → RegValue → Json
  | get | set _ => API.registerJson cast
  | setBit _ | clearBit _ => API.bitsJson cast

/-- The end of a request, by the end of its operation. -/
def RegisterOp.answer (cast : FloatCast) (id : Id) (op : RegisterOp) :
    Outcome DevNodeException RegValue → Outcome Exception Response
  | .value v => .value ⟨id, op.json cast v⟩
  | .throws e => .throws (API.requestException id e)
  | .undefined => .undefined

namespace RegisterService

/-- The nodes of the bus, by id. -/
abbrev Programs := Byte → RegisterNode.Program
abbrev Memories := Byte → RegisterNode.Memory

/-- A request of a client with what its call finds. -/
structure Visit where
  env : Env
  /-- the id of the daemon on the bus -/
  hostId : Byte
  /-- what is in the members that the constructor of the comparator does not write -/
  garbage : BitVec 16
  client : ClientId
  id : Id
  method : API.RegisterMethod
  params : Parameter

def Visit.request (a : Visit) : Request := ⟨a.id, a.method.method.name, a.params⟩

/-- The comparator of a request follows its frame: the node that it is for and the register it begins with. -/
def exchange (programs : Programs) (a : Visit) (frame : H9Frame) (mems : Memories) :
    Option H9Frame × Memories :=
  let node := frame.destinationId
  let comparator := (RawNode.registerComparator a.garbage node (frame.data 0)).setSeqnum a.env.seqnum
  let (reply, mem) := programs node { frame with seqnum := a.env.seqnum, sourceId := a.hostId } (mems node)
  (if comparator.eqFrame reply then some reply else none, Function.update mems node mem)

/-- The nodes acknowledge every frame. -/
def serve (texts : API.Texts) (programs : Programs) (d : Daemon) (mems : Memories) (a : Visit) :
    Outcome Exception Response × Daemon × Memories :=
  let d := { d with port := [] }
  let unanswered := API.call texts { a.env with reply := none, stalled := false } a.client a.request
  match (unanswered.after d).port with
  | [] => (unanswered.outcome d, unanswered.after d, mems)
  | (frame, _) :: _ =>
      let (reply, mems) := exchange programs a frame mems
      let answered := API.call texts { a.env with reply, stalled := false } a.client a.request
      (answered.outcome d, answered.after d, mems)

/-- Requests of any clients one after the other, with what their calls return. -/
def serveAll (texts : API.Texts) (programs : Programs) :
    Daemon → Memories → List Visit → List (Outcome Exception Response) × Daemon × Memories
  | d, mems, [] => ([], d, mems)
  | d, mems, a :: later =>
      let (outcome, d, mems) := serve texts programs d mems a
      let (outcomes, d, mems) := serveAll texts programs d mems later
      (outcome :: outcomes, d, mems)

/-! ## The store -/

/-- The number that each register of each node holds. -/
abbrev Files := Byte → RegisterFile.File

/-- An operation for which a request asks. -/
def Visit.access (a : Visit) (reg : Byte) (op : RegisterOp) : RegisterAccess := ⟨a.env, a.hostId, a.garbage, reg, op⟩

/-- An operation on the register of a node; outside the array of the nodes there is nothing to operate on. -/
def Files.perform (m : NodeMgr) (files : Files) (a : Visit) (nodeId : BitVec 16) (reg : Byte) (op : RegisterOp) :
    Outcome DevNodeException RegValue × Files :=
  match m.nodeAt nodeId with
  | .value (some node) =>
      let (outcome, file) := RegisterFile.step node (files node.nodeId) (a.access reg op)
      (outcome, Function.update files node.nodeId file)
  | .value none => (.throws .nodeNotExistException, files)
  | .throws e => (.throws e, files)
  | .undefined => (.undefined, files)

def Files.answer (d : Daemon) (files : Files) (a : Visit) : Outcome Exception Response × Files :=
  if (d.clients a.client).authenticated then
    match a.method.asked a.env.cast a.params with
    | .ok (some (nodeId, reg, op)) =>
        let (outcome, files) := files.perform d.nodeMgr a nodeId reg op
        (op.answer a.env.cast a.id outcome, files)
    | .ok none =>
        (.throws (.request (invalidParamsException "Unsupported JSON type as a value" a.id)), files)
    | .error e => (.throws (.request (invalidParamsException e.what a.id)), files)
  else (.throws (.request (methodNotFoundException a.id)), files)

def Files.answerAll (d : Daemon) : Files → List Visit → List (Outcome Exception Response) × Files
  | files, [] => ([], files)
  | files, a :: later =>
      let (outcome, files) := files.answer d a
      let (outcomes, files) := Files.answerAll d files later
      (outcome :: outcomes, files)

end RegisterService

end H9d
