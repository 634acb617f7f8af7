import H9d.Core.Tally
import H9d.Model.Bus
import H9d.Model.BusCounters
import Mathlib.Data.BitVec

/-! # What the counters of the bus count

The bus counts the frames that it takes from its queues and those that it reads, of each type and in all,
and an endpoint counts those that it is given and those that it reads. The counters go up on the way, each
in the step that it is about.
-/

namespace H9d.Bus

open Machine H9Frame BusCounters Tally

/-- `MetricsCollector::counter_t`. -/
abbrev CounterValue := BitVec 64

abbrev CountersByType := Fin numberOfFrameTypes → CounterValue

structure Metrics where
  sentFramesCounter : CounterValue
  receivedFramesCounter : CounterValue
  forwardFramesCounter : CounterValue
  sentFramesCounterByType : CountersByType
  receivedFramesCounterByType : CountersByType
  /-- `sent_frames_counter` and `received_frames_counter` of each endpoint -/
  endpointSent : Socket → CounterValue
  endpointReceived : Socket → CounterValue

/-- Nothing is promised beyond the last type. -/
def countType (counters : CountersByType) (type : FrameType) : Option CountersByType :=
  if h : type.toNat < numberOfFrameTypes then some (bump counters ⟨type.toNat, h⟩) else none

namespace Metrics

variable (m : Metrics)

def zero : Metrics := ⟨0, 0, 0, fun _ => 0, fun _ => 0, fun _ => 0, fun _ => 0⟩

/-- `BusEndpoint::send_frame`. -/
def given (socket : Socket) : Metrics := { m with endpointSent := bump m.endpointSent socket }

/-- `BusEndpoint::recv_frame` and the bus behind it. -/
def received (socket : Socket) (type : FrameType) : Option Metrics :=
  (countType m.receivedFramesCounterByType type).map fun receivedFramesCounterByType =>
    { m with
      receivedFramesCounter := m.receivedFramesCounter + 1
      receivedFramesCounterByType
      endpointReceived := bump m.endpointReceived socket }

def sent (type : FrameType) : Option Metrics :=
  (countType m.sentFramesCounterByType type).map fun sentFramesCounterByType =>
    { m with sentFramesCounter := m.sentFramesCounter + 1, sentFramesCounterByType }

def forwarded : Metrics := { m with forwardFramesCounter := m.forwardFramesCounter + 1 }

/-- What a step counts. -/
def count (c : Config) (s : State) : Event → Option Metrics
  | .recv _ frame _ =>
      match s.phase, frame with
      | .receiving (socket :: _), some frame => m.received socket frame.type
      | _, _ => some m
  | .forward =>
      if c.forwarding then
        match s.forwardQueue with
        | [] => some m
        | _ :: _ => some m.forwarded
      else some m
  | .handForward =>
      match s.phase with
      | .forwarding id (socket :: _) =>
          (s.heap id).map fun f =>
            if c.name socket == f.origin then m
            else if f.localFrame then m
            else m.given socket
      | _ => some m
  | .send =>
      match s.sendQueue with
      | [] => some m
      | id :: _ => (s.heap id).bind fun f => m.sent (stamp c.busId s.nextSeqnum f.raw f.toH9Frame).1.type
  | .hand =>
      match s.phase with
      | .sending _ (socket :: _) => some (m.given socket)
      | _ => some m
  | .push .. | .trigger _ | .wait .. | .announce | .ack .. => some m

end Metrics

/-- The bus with its counters. -/
structure Counted where
  state : State
  metrics : Metrics

def countingMachine (c : Config) : LabeledMachine Counted Event where
  Initial s := s = ⟨initial, .zero⟩
  step? s e := do
    let state ← (machine c).step? s.state e
    let metrics ← s.metrics.count c s.state e
    return { state, metrics }

/-- The endpoints that are still to be read. -/
def Phase.unread : Phase → List Socket
  | .receiving sockets | .announcing sockets => sockets
  | _ => []

/-- A frame that comes to the bus has one of the types, and what an endpoint reads is marked with its name. -/
def WellFormed (c : Config) (s : State) : Event → Prop
  | .push _ _ frame _ => frame.type.toNat < numberOfFrameTypes
  | .recv _ (some frame) _ =>
      frame.type.toNat < numberOfFrameTypes ∧ ∀ socket ∈ s.phase.unread.head?, frame.origin = c.name socket
  | _ => True

instance (c : Config) (s : State) : (e : Event) → Decidable (WellFormed c s e)
  | .push .. => inferInstanceAs (Decidable (_ < _))
  | .recv _ (some _) _ => inferInstanceAs (Decidable (_ ∧ _))
  | .recv _ none _ | .trigger _ | .wait .. | .announce | .forward | .handForward | .send | .hand | .ack .. =>
      inferInstanceAs (Decidable True)

end H9d.Bus
