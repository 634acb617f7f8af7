import H9d.Model.TCPReceiver

/-! # A connection with any peer

The peer sends what bytes it likes in what pieces it likes, and closes the stream or not. `::recv` returns
zero when everything was read and the peer has closed, and also when it is asked for zero bytes while there
is something to read.
-/

namespace H9d.TCPSocket

open H9Frame Machine Cxx

/-- What the operating system does in a `::recv`: it fails, or it has a byte and `more` of them. -/
inductive Answer
  | error (errno : Errno)
  | ready (more : ℕ)

/-- `::recv` of at most `asked` bytes, from a peer that may have closed. -/
def sysRecvFrom (closed : Bool) (asked : ℕ) (answer : Answer) (stream : List Byte) : RecvResult × List Byte :=
  match answer with
  | .error errno => (.error errno, stream)
  | .ready more => if closed ∧ stream = [] then (.data [], []) else sysRecv asked (some more) stream

namespace Receiver

variable (s : Receiver) (closed : Bool)

/-- The second part of a call with its `::recv`. -/
def recvTextFrom (answer : Answer) (stream : List Byte) : Option (Received × Receiver × List Byte) := do
  let (result, stream) := sysRecvFrom closed (s.bytesToRecv - s.recvBytes) answer stream
  let (received, s) ← recvData s result
  some (received, s, stream)

/-- `TCPSocket::recv` on the stream of a peer. -/
def recvFrom (first second : Answer) (stream : List Byte) : Option (Received × Receiver × List Byte) :=
  if s.recvBytes < 4 then
    match sysRecvFrom closed (4 - s.recvBytes) first stream with
    | (.error errno, stream) => some (.error errno, s, stream)
    | (.data [], stream) => some (.closed, s, stream)
    | (.data bytes, stream) => do
        let s ← recvHeader s bytes
        if 4 ≤ s.recvBytes then recvTextFrom s closed second stream
        else do
          let (received, s) ← finish s
          some (received, s, stream)
  else recvTextFrom s closed first stream

end Receiver

structure Connection where
  socket : Receiver
  stream : List Byte
  peerClosed : Bool
  /-- history: all that the peer has sent -/
  sent : List Byte
  /-- history: what the calls returned, and whether the peer had closed then -/
  returned : List (Received × Bool)

namespace Connection

def new : Connection := ⟨Receiver.new, [], false, [], []⟩

/-- The messages that were received. -/
def delivered (s : Connection) : List (List Byte) :=
  s.returned.filterMap fun
    | (.msg text, _) => some text
    | (.closed, _) | (.error _, _) => none

inductive Event
  | send (bytes : List Byte)
  | close
  | recv (first second : Answer)

def step? (s : Connection) : Event → Option Connection
  | .send bytes =>
      if s.peerClosed then none else some { s with stream := s.stream ++ bytes, sent := s.sent ++ bytes }
  | .close => some { s with peerClosed := true }
  | .recv first second => do
      let (received, socket, stream) ← s.socket.recvFrom s.peerClosed first second s.stream
      some { s with socket, stream, returned := s.returned ++ [(received, s.peerClosed)] }

def machine : LabeledMachine Connection Event where
  Initial s := s = new
  step? := step?

end Connection

end H9d.TCPSocket
