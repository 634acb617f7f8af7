import H9d.Model.Bus
import H9d.Model.FrameJson

/-! # The bus with its drivers

Each kind of driver makes a frame of what its socket brings, and names itself as the frame's origin.
The bus reads from its drivers here, and a history keeps what was received on which endpoint.
-/

namespace H9d

open Cxx Nlohmann Jsonrpcpp H9Frame Machine

namespace BusDriver

/-- What a socket brings, by the kind of driver that reads from it. -/
inductive Arrival
  /-- no frame, or not all of it -/
  | nothing
  /-- the loop, pipe, UDP and virtual drivers -/
  | serialized (buf : Fin SERIALIZATION_LENGTH → Byte)
  | socketCan (canId : BitVec 32) (dlc : Byte) (data : Fin 8 → Byte)
  /-- a line that `parse_slcan_msg` has parsed -/
  | slcan (parsed : H9Frame)
  | h9d (cast : FloatCast) (msg : Option Notification)

/-- `recv_data` of each driver; `frame` is the object to fill in, with what is in memory. -/
def recvData (name : String) (frame : H9Frame) : Arrival → Except AccessError (Option H9Frame)
  | .nothing => .ok none
  | .serialized buf => .ok (some (frame.deserializeBytes name buf))
  | .socketCan canId dlc data => .ok (some (frame.deserialize name canId dlc data))
  | .slcan parsed => .ok (some { parsed with origin := name })
  | .h9d cast msg =>
      match H9DDriver.recvData cast name msg frame with
      | .ok (.recvFrame frame) => .ok (some frame)
      | .ok .emptyBuf => .ok none
      | .error e => .error e

end BusDriver

namespace Bridge

open Bus

/-- A frame as `recv_frame` of an endpoint gave it to the bus. -/
structure Reception where
  socket : Socket
  id : FrameId
  frame : H9Frame

structure State where
  bus : Bus.State
  /-- history -/
  received : List Reception

inductive Event
  | recv (id : FrameId) (garbage : H9Frame) (arrival : BusDriver.Arrival) (more : Bool)
  /-- any other step of the bus -/
  | bus (e : Bus.Event)

def recv (c : Config) (s : State) (id : FrameId) (socket : Socket) (frame : Option H9Frame) (more : Bool) :
    Option State :=
  ((Bus.machine c).step? s.bus (.recv id frame more)).map fun bus =>
    { bus, received := s.received ++ (frame.map fun frame => ⟨socket, id, frame⟩).toList }

/-- An exception of a driver aborts the daemon. -/
def step? (c : Config) (s : State) : Event → Option State
  | .recv id garbage arrival more =>
      match s.bus.phase with
      | .receiving (socket :: _) =>
          match BusDriver.recvData (c.name socket) garbage arrival with
          | .ok frame => recv c s id socket frame more
          | .error _ => none
      | _ => ((Bus.machine c).step? s.bus (.recv id none more)).map fun bus => { s with bus }
  | .bus (.recv ..) => none
  | .bus e => ((Bus.machine c).step? s.bus e).map fun bus => { s with bus }

def initial : State where
  bus := Bus.initial
  received := []

def machine (c : Config) : LabeledMachine State Event where
  Initial s := s = initial
  step? := step? c

end Bridge

end H9d
