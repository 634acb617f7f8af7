import H9d.Model.H9Frame

/-! # The virtual node

A node in the daemon itself. Its endpoint reads a serialized frame from a socket, decodes it into a new
frame object, and gives it to the node. The node answers with frames that it makes of new frame objects;
the members that nothing writes keep what is in memory.
-/

namespace H9d

open H9Frame

structure VirtualPyNode where
  nodeId : BitVec 16
  nodeType : BitVec 16
  pyModule : List Byte
  newNodeId : BitVec 32

namespace VirtualPyNode

def VERSION_MAJOR : BitVec 16 := 1
def VERSION_MINOR : BitVec 16 := 0
def VERSION_PATCH : BitVec 16 := 0
def BOOTLOADER_UNSUPPORTED : Byte := 2
def INVALID_REGISTER : Byte := 5
def BROADCAST_ALL_GROUP : BitVec 16 := 0xffff

/-- `new_node_id` is an `int` that takes the node id at first. -/
def make (nodeId nodeType : BitVec 16) (pyModule : List Byte) : VirtualPyNode where
  nodeId := nodeId
  nodeType := nodeType
  pyModule := pyModule
  newNodeId := nodeId.setWidth 32

/-- What `on_frame` does, at most one of these. -/
inductive Action
  | sendFrame (frame : H9Frame)
  | callPyOnFrame (frame : H9Frame)
  | reset

/-- Both bytes of a two-byte value, in the order of the data of a frame. -/
def bigEndian (x : BitVec 16) : List Byte := [(x >>> 8 &&& 0xff#16).setWidth 8, (x &&& 0xff#16).setWidth 8]

section Frames

variable (n : VirtualPyNode) (garbage frame : H9Frame)

/-- The data that NODE_INFO and NODE_TURNED_ON have in common. -/
def infoData : List Byte := bigEndian n.nodeType ++ bigEndian VERSION_MAJOR ++ bigEndian VERSION_MINOR ++ [0, 0]

def info (type : FrameType) : H9Frame :=
  { garbage with type, sourceId := n.nodeId.setWidth 8, group := n.nodeType }.setData n.infoData

/-- The constructor sends it. -/
def turnedOnBroadcast : H9Frame := n.info garbage FrameType.NODE_TURNED_ON

/-- The members that each reply to a request sets. -/
def res (type : FrameType) : H9Frame :=
  { garbage with
    type, seqnum := frame.seqnum, sourceId := n.nodeId.setWidth 8, destinationId := frame.sourceId }

def commandError (error : Byte) : H9Frame := (n.res garbage frame FrameType.COMMAND_ERROR).setData [error]

def regValue (data : List Byte) : H9Frame := (n.res garbage frame FrameType.REG_VALUE).setData data

/-- Register 3: the bytes go behind the first byte of the data, which nothing writes. -/
def moduleName : H9Frame :=
  let max := min 6 n.pyModule.length
  { n.res garbage frame FrameType.REG_VALUE with
    data := fun i => if 0 < i.val ∧ i.val ≤ max then n.pyModule.getD (i.val - 1) 0 else garbage.data i
    dlc := BitVec.ofNat 8 (max + 1) }

def setReg : VirtualPyNode × H9Frame :=
  if frame.data 0 = 4 ∧ frame.dlc = 3 then
    ({ n with newNodeId := (frame.data 1 &&& 0x01).setWidth 32 <<< 8 ||| (frame.data 2).setWidth 32 },
      n.regValue garbage frame [frame.data 0, frame.data 1, frame.data 2])
  else (n, n.commandError garbage frame INVALID_REGISTER)

def getReg : H9Frame :=
  if frame.data 0 = 1 then n.regValue garbage frame (frame.data 0 :: bigEndian n.nodeType)
  else if frame.data 0 = 2 then
    n.regValue garbage frame
      (frame.data 0 :: bigEndian VERSION_MAJOR ++ bigEndian VERSION_MINOR ++ bigEndian VERSION_PATCH)
  else if frame.data 0 = 3 then n.moduleName garbage frame
  else if frame.data 0 = 4 then
    n.regValue garbage frame [frame.data 0, (n.newNodeId >>> 8 &&& 0xff#32).setWidth 8,
      (n.newNodeId &&& 0xff#32).setWidth 8]
  else if frame.data 0 = 5 then n.regValue garbage frame [frame.data 0, 0xff]
  else n.commandError garbage frame INVALID_REGISTER

/-- A node id that is wider than a byte is the id of no frame. -/
def isAddressed : Bool := frame.destinationId.setWidth 16 = n.nodeId

def isInGroup : Bool := frame.group = n.nodeType ∨ frame.group = BROADCAST_ALL_GROUP

def onFrame : VirtualPyNode × Option Action :=
  if frame.type = FrameType.DISCOVER ∧ n.isInGroup frame then
    -- the answer is made, and then the request is sent
    (n, some (.sendFrame frame))
  else if frame.type = FrameType.NODE_RESET ∧ n.isInGroup frame then (n, some .reset)
  else if frame.type = FrameType.SET_REG ∧ n.isAddressed frame ∧ (1#8).ult frame.dlc then
    if (10#8).ule (frame.data 0) then (n, some (.callPyOnFrame frame))
    else
      match n.setReg garbage frame with
      | (n, res) => (n, some (.sendFrame res))
  else if frame.type = FrameType.GET_REG ∧ n.isAddressed frame ∧ frame.dlc = 1 then
    if (10#8).ule (frame.data 0) then (n, some (.callPyOnFrame frame))
    else (n, some (.sendFrame (n.getReg garbage frame)))
  else if (frame.type = FrameType.SET_BIT ∨ frame.type = FrameType.CLEAR_BIT) ∧ n.isAddressed frame then
    (n, some (.callPyOnFrame frame))
  else if frame.type = FrameType.NODE_UPGRADE ∧ n.isAddressed frame then
    (n, some (.sendFrame (n.commandError garbage frame BOOTLOADER_UNSUPPORTED)))
  else (n, none)

end Frames

/-- What is in memory where the three frame objects are made: the one that is received into, the answer,
and the NODE_TURNED_ON of a node that is made anew. -/
structure Memory where
  frame : H9Frame
  res : H9Frame
  turnedOn : H9Frame
  deriving Inhabited

/-- What the endpoint does with one serialized frame; what the Python function does is left out. -/
structure Received where
  node : VirtualPyNode
  sent : List H9Frame
  reloaded : Bool

def reload (n : VirtualPyNode) : VirtualPyNode := make (n.newNodeId.setWidth 16) n.nodeType n.pyModule

def receive (n : VirtualPyNode) (m : Memory) (buf : Fin SERIALIZATION_LENGTH → Byte) : Received :=
  match n.onFrame m.res (m.frame.deserializeBytes "VirtualEndpoint" buf) with
  | (n, some (.sendFrame frame)) => ⟨n, [frame], false⟩
  | (n, some .reset) => ⟨n.reload, [n.reload.turnedOnBroadcast m.turnedOn], true⟩
  | (n, some (.callPyOnFrame _)) | (n, none) => ⟨n, [], false⟩

end VirtualPyNode

end H9d
