import H9d.Core.Monitor
import H9d.Model.NodeTable

/-! # The thread of the manager

The bus gives its frames to the manager, which only queues them. The thread of the manager waits for them
on a condition variable, for half a minute at most, and does one round with each. Meanwhile other threads
add devices and load the descriptions again.
-/

namespace H9d

open Machine

structure NodesThread where
  /-- `frame_queue` and `frame_queue_cv`, with the frames that came and those that were handled -/
  monitor : Monitor.State H9Frame
  table : NodeTable

namespace NodesThread

inductive Event
  /-- `on_frame_recv` up to the end of its critical section -/
  | onFrameRecv (frame : H9Frame)
  | notifyOne
  /-- the first test of the predicate in `wait_until` -/
  | waitUntil
  | wake (cause : Monitor.Wake)
  /-- the round with the frame that was taken -/
  | handle (env : Env)
  | periodDevUpdate
  | addDev (env : DevRegistry.NodeId → Env) (d : Dev)
  | reload (env : Env)

/-- What happens to the queue. -/
def Event.onQueue : Event → List (Monitor.Event H9Frame)
  | .onFrameRecv frame => [.push frame]
  | .notifyOne => [.notify]
  | .waitUntil => [.look]
  | .wake cause => [.wake cause]
  | .handle _ => [.finish]
  | .periodDevUpdate => [.resume]
  | .addDev .. | .reload _ => []

/-- What happens to the table; a round is about the frame that was taken. -/
def Event.onTable (phase : Monitor.Phase H9Frame) : Event → List NodeTable.Event
  | .handle env => phase.item?.toList.map (.frame env)
  | .addDev env d => [.addDev env d]
  | .reload env => [.reload env]
  | .onFrameRecv _ | .notifyOne | .waitUntil | .wake _ | .periodDevUpdate => []

def step? (s : NodesThread) (e : Event) : Option NodesThread := do
  let monitor ← (Monitor.machine H9Frame).run? s.monitor e.onQueue
  let table ← NodeTable.machine.run? s.table (e.onTable s.monitor.phase)
  return { monitor, table }

def machine : LabeledMachine NodesThread Event where
  Initial s := ∃ types, s = ⟨Monitor.initial, .start types⟩
  step? := step?

/-- The steps that the thread and the bus owe. -/
def Event.isDue (e : Event) : Bool := e.onQueue.any Monitor.Event.isDue

/-- What a step leaves to do besides: a frame that comes, or a wait that has run out. -/
def Event.cost (e : Event) : ℕ := (e.onQueue.map Monitor.Event.cost).sum

/-- Nothing is left to do. -/
def Quiet (s : NodesThread) : Prop := ∀ e : Event, e.isDue = true → step? s e = none

end NodesThread

end H9d
