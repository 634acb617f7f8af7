import H9d.Core.OrderedMap
import H9d.Model.DevWorkers
import Mathlib.Data.String.Basic

/-! # The devices of the manager

The manager has its devices in a map by name, and each node has a list of the devices that depend on it.
A frame of a node makes one task for each entry of the list. The manager owns the devices that it is given.
-/

namespace H9d

open H9Frame Machine Cxx

variable {Device : Type} [DecidableEq Device]

abbrev DevRegistry.NodeId := Fin (ID_MAX_VALUE + 1)

/-- Devices are pointers to the heap. -/
structure DevRegistry (Device : Type) where
  heap : Device → Option Dev
  devsMap : OrderedMap String Device
  /-- `dependent_devices` of the nodes that exist -/
  nodes : DevRegistry.NodeId → Option (List Device)

namespace DevRegistry

def start : DevRegistry Device where
  heap := fun _ => none
  devsMap := []
  nodes := fun _ => none

/-- The id of a node in the array. -/
def inArray (nodeId : BitVec 16) : Option NodeId :=
  if h : nodeId.toNat ≤ ID_MAX_VALUE then some ⟨nodeId.toNat, Nat.lt_succ_of_le h⟩ else none

/-- One round of the loop of `add_dev`, with `create_node` and `Node::add_dependent_devices`. -/
def addDependent (dev : Device) (nodes : NodeId → Option (List Device)) (nodeId : BitVec 16) :
    NodeId → Option (List Device) :=
  match inArray nodeId with
  | some node => Function.update nodes node (some ((nodes node).getD [] ++ [dev]))
  | none => nodes

/-- One round of the loop of `del_dev`, where nothing asks whether there is a node. -/
def delDependent (dev : Device) (nodes : NodeId → Option (List Device)) (nodeId : BitVec 16) :
    Option (NodeId → Option (List Device)) :=
  match inArray nodeId with
  | some node => (nodes node).map fun devices => Function.update nodes node (some (devices.filter (· ≠ dev)))
  | none => some nodes

/-- An access to a device that was freed, or to a node that does not exist, has no result. -/
def addDev (s : DevRegistry Device) (dev : Device) : Option (DevRegistry Device) := do
  let d ← s.heap dev
  if s.devsMap.lookup d.name = none then
    return { s with
      devsMap := s.devsMap.access (fun a b => a < b) d.name dev fun _ => dev
      nodes := d.dependentOnNodes.foldl (addDependent dev) s.nodes }
  else return { s with heap := Function.update s.heap dev none }

def delDev (s : DevRegistry Device) (devId : String) : Option (DevRegistry Device) :=
  match s.devsMap.lookup devId with
  | some dev => do
      let d ← s.heap dev
      let nodes ← d.dependentOnNodes.foldlM (delDependent dev) s.nodes
      return { s with nodes }
  | none => some s

def dependentDevices (s : DevRegistry Device) (node : NodeId) : List Device := (s.nodes node).getD []

/-- `Node::on_frame_recv`. -/
def updateTasks (s : DevRegistry Device) (frame : H9Frame) : List (DevWorkers.Task Device) :=
  (s.dependentDevices (NodeMgr.source frame)).map fun dev =>
    .updateTask dev (frame.sourceId.setWidth 16) frame

/-- The thread of the manager makes a node for each source of a frame. -/
def handleFrame (s : DevRegistry Device) (frame : H9Frame) : DevRegistry Device :=
  { s with nodes := Function.update s.nodes (NodeMgr.source frame) (some (s.dependentDevices (NodeMgr.source frame))) }

/-- The map as the calls of the API find it. -/
def devs (s : DevRegistry Device) : List (String × Dev) :=
  s.devsMap.filterMap fun (name, dev) => (s.heap dev).map fun d => (name, d)

inductive Event (Device : Type)
  /-- a device is made and given to the manager -/
  | addDev (dev : Device) (d : Dev)
  | delDev (devId : String)
  | frame (frame : H9Frame)

/-- `new` does not give the address of a device that is there. -/
def step? (s : DevRegistry Device) : Event Device → Option (DevRegistry Device)
  | .addDev dev d =>
      if s.heap dev = none then addDev { s with heap := Function.update s.heap dev (some d) } dev else none
  | .delDev devId => delDev s devId
  | .frame frame => some (s.handleFrame frame)

def machine (Device : Type) [DecidableEq Device] : LabeledMachine (DevRegistry Device) (Event Device) where
  Initial s := s = start
  step? := step?

end DevRegistry

end H9d
