import H9d.Model.API

/-! # Indexing the array of nodes

Every operation that takes a node id reads the entry of the array at this id before it does anything
else, and none tests the id. With an id that is an index, an empty entry gives the operation's result
for a node that does not exist and no frame is sent; with any other id the read is out of bounds.
-/

namespace H9d

open Cxx Nlohmann Jsonrpcpp

namespace NodeMgr

/-- The operations of the manager that take a node id, with their other parameters. -/
inductive Operation
  | getNodeInfo
  | nodeReset
  | setRegister (reg : Byte) (value : RegValue)
  | getRegister (reg : Byte)
  | setRegisterBit (reg bitNum : Byte)
  | clearRegisterBit (reg bitNum : Byte)
  | getRegistersList
  | isNodeExist
  | getRegValueFromFrame (frame : H9Frame) (value : RegValue)

inductive Result
  | nodeInfo (node : Node)
  | done
  | value (value : RegValue)
  | registers (registers : List RegisterDesc)
  | exist (exist : Bool)
  | register (reg : Byte) (value : RegValue)

variable (env : Env) (m : NodeMgr) (nodeId : BitVec 16)

def Operation.run : Operation → Call Port DevNodeException Result
  | .getNodeInfo => .nodeInfo <$> m.getNodeInfo nodeId
  | .nodeReset => (fun _ => .done) <$> m.nodeReset env nodeId
  | .setRegister reg value => .value <$> m.setRegister env nodeId reg value
  | .getRegister reg => .value <$> m.getRegister env nodeId reg
  | .setRegisterBit reg bitNum => .value <$> m.setRegisterBit env nodeId reg bitNum
  | .clearRegisterBit reg bitNum => .value <$> m.clearRegisterBit env nodeId reg bitNum
  | .getRegistersList => .registers <$> Call.ofOutcome (m.getRegistersList nodeId)
  | .isNodeExist => .exist <$> Call.ofOutcome (m.isNodeExist nodeId)
  | .getRegValueFromFrame frame value =>
      (fun r => .register r.1 r.2) <$> m.getRegValueFromFrame nodeId frame value

/-- What an operation says of a node that does not exist. -/
def Operation.notExist : Operation → Outcome DevNodeException Result
  | .getRegistersList => .value (.registers [])
  | .isNodeExist => .value (.exist false)
  | .getNodeInfo | .nodeReset | .setRegister .. | .getRegister _ | .setRegisterBit .. | .clearRegisterBit ..
  | .getRegValueFromFrame .. => .throws .nodeNotExistException

/-- There is a node of the id. -/
def Known : Prop := ∃ h : nodeId.toNat < H9Frame.ID_MAX_VALUE + 1, (m.nodes ⟨nodeId.toNat, h⟩).isSome

/-- The array is indexed below its size, and for an id without a node the operation says so and sends
nothing. -/
def Operation.Guarded (op : Operation) : Prop :=
  (m.nodeAt nodeId : Outcome DevNodeException _) ≠ .undefined ∧
    (¬m.Known nodeId → ∀ port,
      (op.run env m nodeId).outcome port = op.notExist ∧ (op.run env m nodeId).after port = port)

theorem nodeAt_of_le {ε : Type} (inside : nodeId.toNat ≤ H9Frame.ID_MAX_VALUE) :
    (m.nodeAt nodeId : Outcome ε _) = .value (m.nodes ⟨nodeId.toNat, Nat.lt_succ_iff.mpr inside⟩) :=
  dif_pos (Nat.lt_succ_iff.mpr inside)

theorem nodeAt_of_gt {ε : Type} (outside : H9Frame.ID_MAX_VALUE < nodeId.toNat) :
    (m.nodeAt nodeId : Outcome ε _) = .undefined :=
  dif_neg (by omega)

theorem nodeAt_of_unknown (inside : nodeId.toNat ≤ H9Frame.ID_MAX_VALUE)
    (unknown : ¬m.Known nodeId) : (m.nodeAt nodeId : Outcome DevNodeException _) = .value none := by
  rw [nodeAt_of_le m nodeId inside]
  have empty : ¬(m.nodes ⟨nodeId.toNat, Nat.lt_succ_iff.mpr inside⟩).isSome :=
    fun some => unknown ⟨_, some⟩
  simpa using empty

/-- Without a node an operation ends before it begins. -/
theorem withNode_of_empty {α : Type} (empty : (m.nodeAt nodeId : Outcome DevNodeException _) = .value none)
    (operation : Node → Call Port DevNodeException α) (f : α → Result) (port : Port) :
    (f <$> m.withNode nodeId operation).outcome port = .throws .nodeNotExistException ∧
      (f <$> m.withNode nodeId operation).after port = port := by
  have same : m.withNode nodeId operation = Call.throw .nodeNotExistException := by
    funext port
    rw [withNode, empty]
    rfl
  rw [same]
  exact ⟨rfl, rfl⟩

theorem guarded_of_le (op : Operation) (inside : nodeId.toNat ≤ H9Frame.ID_MAX_VALUE) :
    op.Guarded env m nodeId := by
  refine ⟨by simp [nodeAt_of_le m nodeId inside], fun unknown port => ?_⟩
  have empty := nodeAt_of_unknown m nodeId inside unknown
  cases op with
  | getNodeInfo | nodeReset | setRegister | getRegister | setRegisterBit | clearRegisterBit
  | getRegValueFromFrame => exact withNode_of_empty m nodeId empty _ _ port
  | getRegistersList =>
    rw [Operation.run, getRegistersList, empty]
    exact ⟨rfl, rfl⟩
  | isNodeExist =>
    rw [Operation.run, isNodeExist, empty]
    exact ⟨rfl, rfl⟩

/-- The ids of the array are exactly those with which an operation of the manager is safe, whoever
calls it. -/
theorem operation_guarded (op : Operation) :
    op.Guarded env m nodeId ↔ nodeId.toNat ≤ H9Frame.ID_MAX_VALUE := by
  refine ⟨fun guarded => ?_, guarded_of_le env m nodeId op⟩
  by_contra outside
  exact guarded.1 (nodeAt_of_gt m nodeId (Nat.lt_of_not_le outside))

end NodeMgr

/-- A switch that has not been seen, as its constructor leaves it. -/
def unseenSwitch : Dev := ⟨"psu", [], .powerSwitch 0xffff⟩

def powerOn : Parameter := .map [("dev_name", .string "psu"), ("method", .string "power_on")]

/-- Turning on a power switch that has not been seen reads behind the array, and so does a request
for a register of node 256. -/
theorem array_left_by_device_and_request :
    ¬(NodeMgr.Operation.setRegister 11 (.int 1)).Guarded default Daemon.initial.nodeMgr 0xffff ∧
      (unseenSwitch.callDevMethod default Daemon.initial.nodeMgr .null powerOn).outcome [] = .undefined ∧
      (API.getRegisterValue default 0 .null
        (.map [("node_id", .numberUnsigned 256), ("reg", .numberUnsigned 1)])).outcome Daemon.initial =
          .undefined := by
  refine ⟨fun guarded => ?_, rfl, rfl⟩
  exact guarded.1 (NodeMgr.nodeAt_of_gt _ _ (by decide))

end H9d
