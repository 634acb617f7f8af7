import H9d.Core.LabeledMachine
import H9d.Model.NodeMgr

/-! # What the frames say of the nodes

The thread of the manager makes a node for each source of a frame, and describes the node when the frame
announces its type. The loaded descriptions may change at any time.
-/

namespace H9d

open Cxx Machine H9Frame

/-- `Node::init`. -/
def Node.initAs (std : NodeDescLoader.StdRegisters) (types : NodeDescLoader.Types) (nodeType : BitVec 16)
    (nodeVersion : BitVec 32) (hardwareRevision resetReason : Byte) (n : Node) : Node :=
  if n.nodeType = nodeType ∧ n.nodeVersion = nodeVersion.setWidth 64 ∧
      n.hardwareRevision = hardwareRevision then
    { n with resetReason, init := true }
  else
    -- the registers of another type are cleared here, and all registers in `load_description`
    Node.loadDescription std types { n with
      resetReason, hardwareRevision, nodeType
      init := true
      nodeVersion := nodeVersion.setWidth 64
      registerMap := if n.nodeType ≠ 0 ∧ n.nodeType ≠ nodeType then fun _ => none else n.registerMap }

namespace NodeMgr

/-- What `RawNode::parse_node_info_frame` takes from the data, with the version as one number. -/
structure NodeInfoFrame where
  nodeType : BitVec 16
  version : BitVec 32
  hardwareRevision : Byte
  resetReason : Byte

def parseNodeInfoFrame (frame : H9Frame) : NodeInfoFrame where
  nodeType := frame.data 0 ++ frame.data 1
  version := (frame.data 2 ++ frame.data 3) ++ (frame.data 4 ++ frame.data 5)
  hardwareRevision := frame.data 6
  resetReason := frame.data 7

def announces (frame : H9Frame) : Bool :=
  frame.type = FrameType.NODE_INFO ∨ frame.type = FrameType.NODE_TURNED_ON

/-- The node that a frame is of, which is made when there is none. -/
def sourceNode (env : Env) (m : NodeMgr) (frame : H9Frame) : Node :=
  (m.nodes (source frame)).getD (Node.make env frame.sourceId)

def described (env : Env) (m : NodeMgr) (frame : H9Frame) : Node :=
  let node := m.sourceNode env frame
  if announces frame then
    let info := parseNodeInfoFrame frame
    node.initAs env.std m.types info.nodeType info.version info.hardwareRevision info.resetReason
  else node

/-- One round of `nodes_dev_update_thread` on the nodes. -/
def handleFrame (env : Env) (m : NodeMgr) (frame : H9Frame) : NodeMgr :=
  { m with
    nodes := Function.update m.nodes (source frame)
      (some { m.described env frame with lastSeenTime := frame.creationTimestamp }) }

inductive Update
  | frame (env : Env) (frame : H9Frame)
  | reload (env : Env)

/-- The standard registers are constants of the program. -/
def step? (std : NodeDescLoader.StdRegisters) (m : NodeMgr) : Update → Option NodeMgr
  | .frame env frame => some (m.handleFrame { env with std } frame)
  | .reload env =>
      match m.reloadNodesDescription { env with std } with
      | .value m => some m
      | .throws _ | .undefined => none

/-- Devices may have made nodes before the first frame. -/
def updates (std : NodeDescLoader.StdRegisters) : LabeledMachine NodeMgr Update where
  Initial m := ∀ id n, m.nodes id = some n → ∃ env nodeId, n = Node.make env nodeId
  step? := step? std

end NodeMgr

end H9d
