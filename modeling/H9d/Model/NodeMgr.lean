import H9d.Model.Jsonrpcpp
import H9d.Model.Node

/-! # The node manager and its devices

The manager holds an array of nodes, indexed by a node id, and the devices by name. The operations
that take a node id index the array with it as it comes: nothing is promised beyond the last entry.
-/

namespace H9d

open Cxx Nlohmann Jsonrpcpp

abbrev H9Frame.ID_MAX_VALUE : ℕ := 2 ^ ID_BIT_LENGTH - 1

/-- What a device keeps besides its name and its nodes. The number of antennas is written by the
constructor only, which sets it to zero. -/
inductive Dev.Kind
  | antennaSwitch (switchNodeId controllerNodeId : BitVec 16) (selectedAntenna : Byte)
  | atu (atuId : BitVec 16)
  | powerSwitch (switchId : BitVec 16)
  | thunderSwitch (switchId : BitVec 16)
  deriving DecidableEq, Repr

structure Dev where
  name : String
  dependentOnNodes : List (BitVec 16)
  kind : Dev.Kind
  deriving DecidableEq, Repr

/-- The array of pointers, and the map of devices. -/
structure NodeMgr where
  nodes : Fin (H9Frame.ID_MAX_VALUE + 1) → Option Node
  types : NodeDescLoader.Types
  devsMap : List (String × Dev)

namespace NodeMgr

variable {α : Type}

/-- `nodes[node_id]`. -/
def nodeAt {ε : Type} (m : NodeMgr) (nodeId : BitVec 16) : Outcome ε (Option Node) :=
  if h : nodeId.toNat < H9Frame.ID_MAX_VALUE + 1 then .value (m.nodes ⟨nodeId.toNat, h⟩) else .undefined

/-- The entry of the node that a frame is of. -/
def source (frame : H9Frame) : Fin (H9Frame.ID_MAX_VALUE + 1) := ⟨frame.sourceId.toNat, frame.sourceId.isLt⟩

/-- The operations that throw when there is no node. -/
def withNode (m : NodeMgr) (nodeId : BitVec 16) (operation : Node → Call Port DevNodeException α) :
    Call Port DevNodeException α := do
  match ← Call.ofOutcome (m.nodeAt nodeId) with
  | some node => operation node
  | none => Call.throw .nodeNotExistException

section Operations

variable (env : Env) (m : NodeMgr) (nodeId : BitVec 16)

/-- The members of `NodeInfo` are those of the node. -/
def getNodeInfo : Call Port DevNodeException Node := m.withNode nodeId pure

def nodeReset : Call Port DevNodeException Unit := m.withNode nodeId (Node.nodeReset env)

def setRegister (reg : Byte) (value : RegValue) : Call Port DevNodeException RegValue :=
  m.withNode nodeId fun node => node.setRegister env reg value

def getRegister (reg : Byte) : Call Port DevNodeException RegValue :=
  m.withNode nodeId fun node => node.getRegister env reg

def setRegisterBit (reg bitNum : Byte) : Call Port DevNodeException RegValue :=
  m.withNode nodeId fun node => node.setRegisterBit env reg bitNum

def clearRegisterBit (reg bitNum : Byte) : Call Port DevNodeException RegValue :=
  m.withNode nodeId fun node => node.clearRegisterBit env reg bitNum

def getRegValueFromFrame (frame : H9Frame) (value : RegValue) :
    Call Port DevNodeException (Byte × RegValue) :=
  m.withNode nodeId fun node => Call.ofOutcome (node.getRegValueFromFrame frame value)

def isNodeExist : Outcome DevNodeException Bool := do
  return (← m.nodeAt nodeId).isSome

def getRegistersList : Outcome DevNodeException (List RegisterDesc) := do
  return ((← m.nodeAt nodeId).map Node.getRegistersList).getD []

/-- The initialised nodes, by ascending id. -/
def getNodesList : List (Fin (H9Frame.ID_MAX_VALUE + 1) × Node) :=
  (List.finRange _).filterMap fun id => (m.nodes id).filter Node.init |>.map fun node => (id, node)

/-- The frame is put on the bus, and the result of the send is not looked at. -/
def discover : Call Port DevNodeException Unit :=
  Call.modify fun sent =>
    sent ++ [({ env.frameMemory with
      origin := "h9d", type := H9Frame.FrameType.DISCOVER, group := 0xffff }.setData [], false)]

/-- Initialised nodes are described anew. -/
def reloadNodesDescription : Outcome DevNodeException NodeMgr := do
  let types ← NodeDescLoader.reload env.nodesFile
  return { m with
    types
    nodes := fun id => (m.nodes id).map fun node =>
      if node.init then node.loadDescription env.std types else node }

end Operations

end NodeMgr

/-- The exceptions of an API call. -/
inductive Exception
  | devNode (e : DevNodeException)
  | request (e : RequestException)
  | access (e : AccessError)
  deriving DecidableEq, Repr

namespace Dev

def Kind.type : Kind → String
  | antennaSwitch .. => "AntennaSwitch"
  | atu _ => "ATU"
  | powerSwitch _ => "PowerSwitch"
  | thunderSwitch _ => "ThunderSwitch"

/-- What a method of a device asks for: one call of `set_register`. -/
structure Command where
  nodeId : BitVec 16
  reg : Byte
  value : BitVec 64
  deriving DecidableEq, Repr

def ANTENNA_SELECT_REG : Byte := 10

def selectAntennaMethod (cast : FloatCast) (switchNodeId : BitVec 16) (params : Parameter) :
    Except AccessError Command := do
  let antennaNumber ← params.getAt "antenna_number" (Json.getNumber cast 32)
  return ⟨switchNodeId, ANTENNA_SELECT_REG, antennaNumber.signExtend 64⟩

def powerOnMethod (switchId : BitVec 16) (_ : Parameter) : Except AccessError Command := .ok ⟨switchId, 11, 1⟩
def powerOffMethod (switchId : BitVec 16) (_ : Parameter) : Except AccessError Command := .ok ⟨switchId, 11, 0⟩
def switchOnMethod (_ : Parameter) : Except AccessError Command := .ok ⟨0, 11, 1⟩
def switchOffMethod (_ : Parameter) : Except AccessError Command := .ok ⟨0, 11, 0⟩

def methodMap (cast : FloatCast) : Kind → List (String × (Parameter → Except AccessError Command))
  | .antennaSwitch switchNodeId .. => [("select_antenna", selectAntennaMethod cast switchNodeId)]
  | .atu _ => []
  | .powerSwitch switchId =>
      [("power_off", powerOffMethod switchId), ("power_on", powerOnMethod switchId)]
  | .thunderSwitch _ => [("switch_off", switchOffMethod), ("switch_on", switchOnMethod)]

/-- An exception of the node is logged by the method, which returns null in any case. -/
def Command.execute (env : Env) (m : NodeMgr) (c : Command) : Call Port Exception Json :=
  Call.tryCatch (do let _ ← m.setRegister env c.nodeId c.reg (.int c.value); return .null)
    fun _ => return .null

def callDevMethod (env : Env) (m : NodeMgr) (d : Dev) (id : Id) (params : Parameter) :
    Call Port Exception Json :=
  match params.paramMap.lookup "method" with
  | none => Call.throw (.request (invalidParamsException "Missing 'method' parameter." id))
  | some value =>
    match value.getString with
    | .error e => Call.throw (.access e)
    | .ok method =>
      match (methodMap env.cast d.kind).lookup method with
      | some body =>
        match body params with
        | .ok command => command.execute env m
        | .error e =>
            Call.throw (.request
              (invalidParamsException ("Method '" ++ method ++ "' execution error: " ++ e.what ++ ".") id))
      | none =>
          Call.throw (.request
            (invalidParamsException ("Dev object does not provide '" ++ method ++ "' method.") id))

def getDevDescription (cast : FloatCast) (d : Dev) : Json :=
  .object [("dev_methods", .ofStrings ((methodMap cast d.kind).map (·.1))),
    ("dev_name", .string d.name),
    ("dev_related_nodes", .array (d.dependentOnNodes.map .ofUInt16)),
    ("dev_type", .string d.kind.type)]

def getDevState (d : Dev) : Json :=
  match d.kind with
  | .antennaSwitch _ _ selectedAntenna =>
      .object [("antennas_name", .array []), ("number_of_antenna", .numberUnsigned 0),
        ("selected_antenna", .ofByte selectedAntenna)]
  | .atu _ | .powerSwitch _ | .thunderSwitch _ =>
      .object [("error", .numberInteger 0), ("state", .numberInteger 1)]

end Dev

namespace NodeMgr

/-- The operations that throw when there is no device of the name. -/
def withDev {α : Type} (m : NodeMgr) (devName : String) (operation : Dev → Call Port Exception α) :
    Call Port Exception α :=
  match m.devsMap.lookup devName with
  | some dev => operation dev
  | none => Call.throw (.devNode (.deviceNotExistException devName))

def callDevMethod (env : Env) (m : NodeMgr) (devName : String) (id : Id) (params : Parameter) :
    Call Port Exception Json :=
  m.withDev devName fun dev => dev.callDevMethod env m id params

def getDevDescription (env : Env) (m : NodeMgr) (devName : String) : Call Port Exception Json :=
  m.withDev devName fun dev => return dev.getDevDescription env.cast

def getDevState (m : NodeMgr) (devName : String) : Call Port Exception Json :=
  m.withDev devName fun dev => return dev.getDevState

end NodeMgr

end H9d
