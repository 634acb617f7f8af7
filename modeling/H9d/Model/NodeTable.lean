import H9d.Core.PointerArray
import H9d.Model.DevRegistry
import H9d.Model.NodeUpdates

/-! # The array of nodes

The manager has its nodes in an array of pointers. The thread that takes the frames makes nodes, and so does a
device that is added, for the nodes that it depends on. A node is never freed while the manager lives.
-/

namespace H9d

open Cxx Machine H9Frame

structure NodeTable where
  nodes : PointerArray DevRegistry.NodeId Node
  types : NodeDescLoader.Types
  devsMap : OrderedMap String Dev

/-- What `get_nodes_list` tells of a node. -/
structure NodeDsc where
  id : DevRegistry.NodeId
  type : BitVec 16
  versionMajor : BitVec 16
  versionMinor : BitVec 16
  hardwareRevision : Byte
  resetReason : Byte
  name : String
  deriving DecidableEq

def Node.dsc (id : DevRegistry.NodeId) (n : Node) : NodeDsc where
  id := id
  type := n.nodeType
  versionMajor := n.nodeVersionMajor
  versionMinor := n.nodeVersionMinor
  hardwareRevision := n.hardwareRevision
  resetReason := n.resetReason
  name := n.nodeName

namespace NodeTable

def start (types : NodeDescLoader.Types) : NodeTable where
  nodes := .empty
  types := types
  devsMap := []

/-- `init_node`. -/
def initNode (env : Env) (s : NodeTable) (id : DevRegistry.NodeId) (info : NodeMgr.NodeInfoFrame) : NodeTable :=
  { s with
    nodes := s.nodes.modify id
      (Node.initAs env.std s.types info.nodeType info.version info.hardwareRevision info.resetReason) }

def updateNodeLastSeenTime (s : NodeTable) (id : DevRegistry.NodeId) (timestamp : ℤ) : NodeTable :=
  { s with nodes := s.nodes.modify id fun n => { n with lastSeenTime := timestamp } }

/-- One round of `nodes_dev_update_thread`. -/
def handleFrame (env : Env) (s : NodeTable) (frame : H9Frame) : NodeTable :=
  let id := NodeMgr.source frame
  let s := { s with nodes := s.nodes.ensure id (Node.make env frame.sourceId) }
  let s := if NodeMgr.announces frame then s.initNode env id (NodeMgr.parseNodeInfoFrame frame) else s
  s.updateNodeLastSeenTime id frame.creationTimestamp

/-- One round of the loop of `add_dev`; each node that is made finds its own memory. -/
def addNode (env : DevRegistry.NodeId → Env) (nodes : PointerArray DevRegistry.NodeId Node) (nodeId : BitVec 16) :
    PointerArray DevRegistry.NodeId Node :=
  match DevRegistry.inArray nodeId with
  | some id => nodes.ensure id (Node.make (env id) (nodeId.setWidth 8))
  | none => nodes

def addDev (env : DevRegistry.NodeId → Env) (s : NodeTable) (d : Dev) : NodeTable :=
  if s.devsMap.lookup d.name = none then
    { s with
      devsMap := s.devsMap.access (fun a b => a < b) d.name d fun _ => d
      nodes := d.dependentOnNodes.foldl (addNode env) s.nodes }
  else s

def reloadNodesDescription (env : Env) (s : NodeTable) : Outcome DevNodeException NodeTable := do
  let types ← NodeDescLoader.reload env.nodesFile
  return { s with
    types
    nodes := s.nodes.modifyEach (fun n => if n.init then n.loadDescription env.std types else n)
      (List.finRange (ID_MAX_VALUE + 1)) }

def getNodesList (s : NodeTable) : List NodeDsc :=
  (List.finRange (ID_MAX_VALUE + 1)).filterMap fun id => ((s.nodes.get? id).filter Node.init).map (Node.dsc id)

inductive Event
  | frame (env : Env) (frame : H9Frame)
  | addDev (env : DevRegistry.NodeId → Env) (d : Dev)
  | reload (env : Env)

def step? (s : NodeTable) : Event → Option NodeTable
  | .frame env frame => some (s.handleFrame env frame)
  | .addDev env d => some (s.addDev env d)
  | .reload env =>
      match s.reloadNodesDescription env with
      | .value s => some s
      | .throws _ | .undefined => none

def machine : LabeledMachine NodeTable Event where
  Initial s := ∃ types, s = start types
  step? := step?

/-- The nodes as the operations of the manager find them. -/
def manager (s : NodeTable) : NodeMgr where
  nodes := s.nodes.get?
  types := s.types
  devsMap := s.devsMap

end NodeTable

end H9d
