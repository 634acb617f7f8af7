import H9d.Core.Call
import H9d.Model.Bridge

/-! # Reading from the transports

The drivers for UDP, pipes, the loop and virtual nodes read the thirteen serialized bytes of a frame into an
array on the stack, and the driver for SocketCAN reads a `struct can_frame`. What the read does not fill keeps
what was in memory.
-/

namespace H9d

open Cxx H9Frame

/-- `std::system_error`. -/
structure SystemError where
  errno : ℕ
  deriving DecidableEq

def ENXIO : ℕ := 6

/-- What a read of at most `size` bytes returns: -1, or the bytes that it put into the buffer. -/
inductive ReadResult (size : ℕ)
  | error (errno : ℕ)
  | read (bytes : List Byte) (fits : bytes.length ≤ size)

/-- The bytes of a buffer behind a read. -/
def filled {size : ℕ} (bytes : List Byte) (memory : Fin size → Byte) (i : Fin size) : Byte :=
  bytes.getD i (memory i)

/-- `recv_data` with the frame it fills in, or nothing for `SOCKET_CLOSE`. The state says whether the socket
is open. -/
abbrev RecvData := Call Bool SystemError (Option H9Frame)

/-- The body of `recv_data` that four of the drivers have. -/
def recvSerialized (name : String) (frame : H9Frame) (memory : Fin SERIALIZATION_LENGTH → Byte) :
    ReadResult SERIALIZATION_LENGTH → RecvData
  | .error errno => Call.throw ⟨errno⟩
  | .read bytes _ =>
      if bytes.length ≠ 0 then return some (frame.deserializeBytes name (filled bytes memory))
      else return none

namespace UDPDriver

abbrev recvData := recvSerialized

end UDPDriver

namespace PipeDriver

abbrev recvData := recvSerialized

end PipeDriver

namespace LoopDriver

/-- The length is kept in an `int`, which holds all lengths there are. -/
abbrev recvData := recvSerialized

end LoopDriver

namespace VirtualDriver

abbrev recvData := recvSerialized

end VirtualDriver

/-- `sizeof(can_frame)`. -/
abbrev CAN_FRAME_SIZE : ℕ := 16

namespace SocketCANDriver

/-- The identifier is in the byte order of the machine, the length is behind it, and the data is at 8. -/
def deserializeCanFrame (name : String) (frame : H9Frame) (canMsg : Fin CAN_FRAME_SIZE → Byte) : H9Frame :=
  frame.deserialize name (canMsg 3 ++ canMsg 2 ++ canMsg 1 ++ canMsg 0) (canMsg 4)
    ![canMsg 8, canMsg 9, canMsg 10, canMsg 11, canMsg 12, canMsg 13, canMsg 14, canMsg 15]

/-- `errno` is what the thread has there when the read returns. -/
def recvData (name : String) (frame : H9Frame) (memory : Fin CAN_FRAME_SIZE → Byte) (errno : ℕ)
    (result : ReadResult CAN_FRAME_SIZE) : RecvData := do
  -- a `size_t`, so that -1 is the largest length
  let nbyte : BitVec 64 :=
    match result with
    | .error _ => -1
    | .read bytes _ => BitVec.ofNat 64 bytes.length
  let errno :=
    match result with
    | .error errno => errno
    | .read _ _ => errno
  if nbyte ≤ 0 then
    if nbyte = 0 ∨ errno = ENXIO then Call.modify fun _ => false
    Call.throw ⟨errno⟩
  else
    let bytes :=
      match result with
      | .error _ => []
      | .read bytes _ => bytes
    let frame := deserializeCanFrame name frame (filled bytes memory)
    if nbyte ≠ 0 then return some frame else return none

end SocketCANDriver

inductive TransportDriver
  | udp
  | pipe
  | loop
  | virtual
  | socketCan
  deriving DecidableEq

namespace TransportDriver

/-- How many bytes the driver asks for: those of one frame. -/
def size : TransportDriver → ℕ
  | udp | pipe | loop | virtual => SERIALIZATION_LENGTH
  | socketCan => CAN_FRAME_SIZE

def recvData (d : TransportDriver) (name : String) (frame : H9Frame) (memory : Fin d.size → Byte) (errno : ℕ)
    (result : ReadResult d.size) : RecvData :=
  match d with
  | udp => UDPDriver.recvData name frame memory result
  | pipe => PipeDriver.recvData name frame memory result
  | loop => LoopDriver.recvData name frame memory result
  | virtual => VirtualDriver.recvData name frame memory result
  | socketCan => SocketCANDriver.recvData name frame memory errno result

end TransportDriver

end H9d
