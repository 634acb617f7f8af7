import H9d.Model.DevRegistry
import H9d.Model.NodeUpdates

/-! # From frames to the states of devices

The thread of the manager describes the node of a frame and queues an update for each device that depends on it.
A worker takes an update later, when the manager may have gone on. Some devices tell the clients what they
learn from a frame.
-/

namespace H9d

open Cxx Machine Nlohmann H9Frame

namespace Dev

/-- `on_dev_bulk`, which is given the length of the data and does not look at it. -/
def onDevBulk (msgType : FrameType) (data : Fin 8 → Byte) : Kind → List Json
  | .atu _ =>
      if msgType = FrameType.NODE_SPECIFIC_BROADCAST0 then
        let swr := data 0 ++ data 1
        let pwr := data 2 ++ data 3
        [.object [("pwr", .ofUInt16 pwr), ("swr", .ofUInt16 swr)]]
      else []
  | .antennaSwitch .. | .powerSwitch _ | .thunderSwitch _ => []

/-- What `update_dev_state` gives to `emit_dev_state`. The antenna switch tells that another antenna is selected;
`on_dev_error` is empty for every device. -/
def emits (frame : H9Frame) (d next : Dev) : List Json :=
  if frame.type = FrameType.REG_VALUE ∨ frame.type = FrameType.REG_VALUE_BROADCAST then
    if next.kind = d.kind then [] else [next.getDevState]
  else if FrameType.NODE_SPECIFIC_BROADCAST0.ule frame.type ∧ frame.type.ule FrameType.NODE_SPECIFIC_BROADCAST7 then
    onDevBulk frame.type frame.data d.kind
  else []

/-- What a device reads of a register. -/
def reading (m : NodeMgr) (nodeId : BitVec 16) (frame : H9Frame) :
    List (Outcome DevNodeException (Byte × RegValue)) :=
  if frame.type = FrameType.REG_VALUE ∨ frame.type = FrameType.REG_VALUE_BROADCAST then
    [(m.getRegValueFromFrame nodeId frame (.string "")).outcome []]
  else []

end Dev

structure DevStates (Device : Type) where
  manager : NodeMgr
  dependentDevices : DevRegistry.NodeId → List Device
  devs : Device → Dev
  tasks : List (DevWorkers.Task Device)
  fault : Option DevWorkers.Fault
  /-- history: the values that were read of the frames for the devices, and the states that they told -/
  decoded : List (Outcome DevNodeException (Byte × RegValue))
  emitted : List (String × Json)

namespace DevStates

variable {Device : Type} [DecidableEq Device]

inductive Event (Device : Type)
  /-- the thread of the manager -/
  | update (update : NodeMgr.Update)
  | periodDevUpdate (devsMap : List Device)
  /-- a worker takes a task -/
  | execute (task : ℕ)

/-- `Node::on_frame_recv`. -/
def updateTasks (s : DevStates Device) : NodeMgr.Update → List (DevWorkers.Task Device)
  | .frame _ frame =>
      (s.dependentDevices (NodeMgr.source frame)).map fun dev =>
        .updateTask dev (frame.sourceId.setWidth 16) frame
  | .reload _ => []

def execute (s : DevStates Device) : DevWorkers.Task Device → DevStates Device
  | .updateTask dev nodeId frame =>
      let d := s.devs dev
      let s := { s with decoded := s.decoded ++ Dev.reading s.manager nodeId frame }
      match d.updateDevState s.manager nodeId frame with
      | .value next => { s with
          devs := Function.update s.devs dev next
          emitted := s.emitted ++ (d.emits frame next).map fun state => (d.name, state) }
      | .throws e => { s with fault := some (.terminated e) }
      | .undefined => { s with fault := some .undefined }
  | .periodicTask _ => s

def enabled? (std : NodeDescLoader.StdRegisters) (s : DevStates Device) : Event Device → Option (DevStates Device)
  | .update update =>
      (s.manager.step? std update).map fun manager => { s with manager, tasks := s.tasks ++ s.updateTasks update }
  | .periodDevUpdate devsMap => some { s with tasks := s.tasks ++ devsMap.map .periodicTask }
  | .execute task => s.tasks[task]?.map fun work => { s with tasks := s.tasks.eraseIdx task }.execute work

/-- Nothing follows a fault. -/
def step? (std : NodeDescLoader.StdRegisters) (s : DevStates Device) (e : Event Device) : Option (DevStates Device) :=
  if s.fault.isSome then none else enabled? std s e

/-- Which devices there are is settled before the first frame. -/
def machine (std : NodeDescLoader.StdRegisters) : LabeledMachine (DevStates Device) (Event Device) where
  Initial s := (NodeMgr.updates std).Initial s.manager ∧ s.tasks = [] ∧ s.fault = none ∧ s.decoded = [] ∧
    s.emitted = []
  step? := step? std

end DevStates

end H9d
