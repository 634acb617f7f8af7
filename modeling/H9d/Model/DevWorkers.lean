import H9d.Core.LabeledMachine
import H9d.Model.NodeMgr

/-! # Updates of devices

The bus gives its frames to the node manager. The thread of the manager takes them one after the other
and makes one task for each device that depends on the node, and a number of worker threads share the
tasks. The workers take a task under a lock and execute it without one.
-/

namespace H9d

open H9Frame Machine Cxx

namespace Dev

def ANTENNA_SWITCH_NODE_TYPE : BitVec 16 := 5
def ANTENNA_CONTROLLER_NODE_TYPE : BitVec 16 := 3

/-- `std::bad_variant_access`, which no worker catches. -/
inductive UpdateError
  | badVariantAccess
  deriving DecidableEq, Repr

/-- `std::get<std::int64_t>`. -/
def getInt : RegValue → Outcome UpdateError (BitVec 64)
  | .int v => .value v
  | .string _ | .float _ | .bytes _ => .throws .badVariantAccess

def onDevInfo (nodeId type : BitVec 16) : Kind → Kind
  | .antennaSwitch switchNodeId controllerNodeId selectedAntenna =>
      if type = ANTENNA_SWITCH_NODE_TYPE then .antennaSwitch nodeId controllerNodeId selectedAntenna
      else if type = ANTENNA_CONTROLLER_NODE_TYPE then .antennaSwitch switchNodeId nodeId selectedAntenna
      else .antennaSwitch switchNodeId controllerNodeId selectedAntenna
  | .atu _ => .atu nodeId
  | .powerSwitch _ => .powerSwitch nodeId
  | .thunderSwitch switchId => .thunderSwitch switchId

def onDevRegisterValue (nodeId : BitVec 16) (reg : Byte) (value : RegValue) :
    Kind → Outcome UpdateError Kind
  | .antennaSwitch switchNodeId controllerNodeId selectedAntenna =>
      if nodeId = switchNodeId ∧ reg = ANTENNA_SELECT_REG then do
        let tmp ← getInt value
        .value (.antennaSwitch switchNodeId controllerNodeId (tmp.setWidth 8))
      else .value (.antennaSwitch switchNodeId controllerNodeId selectedAntenna)
  | kind => .value kind

/-- The nodes are those that the manager has when the task is executed; what the other frames do is
tell the clients. -/
def updateDevState (m : NodeMgr) (nodeId : BitVec 16) (frame : H9Frame) (d : Dev) : Outcome UpdateError Dev :=
  if frame.type = FrameType.NODE_INFO ∨ frame.type = FrameType.NODE_TURNED_ON then
    .value { d with kind := onDevInfo nodeId (frame.data 0 ++ frame.data 1) d.kind }
  else if frame.type = FrameType.REG_VALUE ∨ frame.type = FrameType.REG_VALUE_BROADCAST then
    match (m.getRegValueFromFrame nodeId frame (.string "")).outcome [] with
    | .value (_, value) => do
        let kind ← onDevRegisterValue nodeId (frame.data 0) value d.kind
        .value { d with kind }
    | .throws _ => .value d
    | .undefined => .undefined
  else .value d

end Dev

namespace DevWorkers

variable {Worker Device : Type} [DecidableEq Worker] [DecidableEq Device]

/-- Devices are pointers. -/
inductive Task (Device : Type)
  | updateTask (dev : Device) (nodeId : BitVec 16) (frame : H9Frame)
  | periodicTask (dev : Device)
  deriving DecidableEq

def Task.dev : Task Device → Device
  | .updateTask dev .. => dev
  | .periodicTask dev => dev

/-- Where a worker is: before `acquire`, before the lock, with a task, or in its `update_dev_state`. -/
inductive Phase (Device : Type)
  | waiting
  | acquired
  | popped (task : Task Device)
  | running (task : Task Device)

/-- `front` of an empty queue, a call that C++ leaves undefined, or an exception that leaves a worker. -/
inductive Fault
  | emptyQueue
  | undefined
  | terminated (e : Dev.UpdateError)

structure State (Worker Device : Type) where
  /-- the frames that `NodeMgr::on_frame_recv` has queued -/
  frameQueue : List H9Frame
  /-- the thread of the manager: the tasks that it has still to push, and a push without its `release` -/
  jobs : List (Task Device)
  releasing : Bool
  taskQueue : List (Task Device)
  sema : ℕ
  workers : Worker → Phase Device
  devs : Device → Dev
  fault : Option Fault
  /-- history: the frames received, those handled with the devices that they are for, the tasks pushed,
  those popped and not finished in the order of popping, and those executed, with the nodes then -/
  received : List H9Frame
  handled : List (H9Frame × List Device)
  pushed : List (Task Device)
  inHand : List (Worker × Task Device)
  executed : List (Task Device × NodeMgr)

def start (devs : Device → Dev) : State Worker Device where
  frameQueue := []
  jobs := []
  releasing := false
  taskQueue := []
  sema := 0
  workers := fun _ => .waiting
  devs := devs
  fault := none
  received := []
  handled := []
  pushed := []
  inHand := []
  executed := []

inductive Event (Worker Device : Type)
  /-- the thread of the bus -/
  | onFrameRecv (frame : H9Frame)
  /-- the thread of the manager: `Node::on_frame_recv` with the devices that depend on the node, a timeout
  with all devices, and the two halves of a push -/
  | handle (dependentDevices : List Device)
  | periodDevUpdate (devsMap : List Device)
  | push
  | release
  /-- a worker -/
  | acquire (worker : Worker)
  | pop (worker : Worker)
  | execute (worker : Worker)
  | finish (worker : Worker) (m : NodeMgr)

/-- `periodic_task` of every device writes to the log only. -/
def run (m : NodeMgr) (devs : Device → Dev) : Task Device → Outcome Dev.UpdateError (Device → Dev)
  | .updateTask dev nodeId frame => do
      let d ← (devs dev).updateDevState m nodeId frame
      .value (Function.update devs dev d)
  | .periodicTask _ => .value devs

def enabled? (s : State Worker Device) : Event Worker Device → Option (State Worker Device)
  | .onFrameRecv frame => some { s with frameQueue := s.frameQueue ++ [frame], received := s.received ++ [frame] }
  | .handle dependentDevices =>
      match s.jobs, s.releasing, s.frameQueue with
      | [], false, frame :: frameQueue => some { s with
          frameQueue
          jobs := dependentDevices.map fun d => .updateTask d (frame.sourceId.setWidth 16) frame
          handled := s.handled ++ [(frame, dependentDevices)] }
      | _, _, _ => none
  | .periodDevUpdate devsMap =>
      match s.jobs, s.releasing, s.frameQueue with
      | [], false, [] => some { s with jobs := devsMap.map .periodicTask }
      | _, _, _ => none
  | .push =>
      match s.jobs, s.releasing with
      | task :: jobs, false => some { s with
          jobs, releasing := true, taskQueue := s.taskQueue ++ [task], pushed := s.pushed ++ [task] }
      | _, _ => none
  | .release => if s.releasing then some { s with releasing := false, sema := s.sema + 1 } else none
  | .acquire worker =>
      match s.workers worker, s.sema with
      | .waiting, sema + 1 => some { s with sema, workers := Function.update s.workers worker .acquired }
      | _, _ => none
  | .pop worker =>
      match s.workers worker, s.taskQueue with
      | .acquired, task :: taskQueue => some { s with
          taskQueue
          workers := Function.update s.workers worker (.popped task)
          inHand := s.inHand ++ [(worker, task)] }
      | .acquired, [] => some { s with fault := some .emptyQueue }
      | _, _ => none
  | .execute worker =>
      match s.workers worker with
      | .popped task => some { s with workers := Function.update s.workers worker (.running task) }
      | _ => none
  | .finish worker m =>
      match s.workers worker with
      | .running task =>
          match run m s.devs task with
          | .value devs => some { s with
              devs
              workers := Function.update s.workers worker .waiting
              inHand := s.inHand.filter (·.1 ≠ worker)
              executed := s.executed ++ [(task, m)] }
          | .throws e => some { s with fault := some (.terminated e) }
          | .undefined => some { s with fault := some .undefined }
      | _ => none

/-- Nothing follows a fault. -/
def step? (s : State Worker Device) (e : Event Worker Device) : Option (State Worker Device) :=
  if s.fault.isSome then none else enabled? s e

def machine (devs : Device → Dev) : LabeledMachine (State Worker Device) (Event Worker Device) where
  Initial s := s = start devs
  step? := step?

end DevWorkers

end H9d
