import H9d.Core.Buffer
import H9d.Core.LabeledMachine
import H9d.Model.TCPSocket

/-! # Receiving with the buffers of a TCP socket

The header and the text are received into two blocks of memory, and the second one grows with the
longest text. A call of `TCPSocket::recv` makes one or two calls of `::recv`: the second one, which
does not block, when the first one completed the header.
-/

namespace H9d.TCPSocket

open H9Frame Machine Cxx

/-- The members of the socket that `TCPSocket::recv` uses. -/
structure Receiver where
  headerBuf : Buffer Byte
  dataBuf : Buffer Byte
  dataBufLen : ℕ
  recvBytes : ℕ
  bytesToRecv : ℕ
  deriving DecidableEq

/-- `::recv` of at most `asked` bytes. The operating system answers with `EAGAIN`, or hands over some
bytes; `ready` is how many more than one it would. -/
def sysRecv (asked : ℕ) (ready : Option ℕ) (stream : List Byte) : RecvResult × List Byte :=
  match ready, stream with
  | none, _ | _, [] => (.error EAGAIN, stream)
  | some more, _ =>
      let nbyte := min asked (min (more + 1) stream.length)
      (.data (stream.take nbyte), stream.drop nbyte)

namespace Receiver

/-- What the constructor leaves. -/
def new : Receiver where
  headerBuf := Buffer.malloc 4
  dataBuf := Buffer.malloc (4096 + 1)
  dataBufLen := 4096
  recvBytes := 0
  bytesToRecv := 4

variable (s : Receiver)

/-- The bytes of a `::recv` into the header; the last one tells the length of the text. -/
def recvHeader (bytes : List Byte) : Option Receiver := do
  let headerBuf ← s.headerBuf.write s.recvBytes bytes
  let recvBytes := s.recvBytes + bytes.length
  if recvBytes = 4 then do
    let tmp ← headerBuf.load.map Reader.ntohl
    let bytesToRecv := s.bytesToRecv + tmp
    if s.dataBufLen < tmp then
      some { headerBuf, recvBytes, bytesToRecv, dataBufLen := tmp, dataBuf := s.dataBuf.realloc (tmp + 1) }
    else some { s with headerBuf, recvBytes, bytesToRecv }
  else some { s with headerBuf, recvBytes }

/-- The end of a call: an unfinished message is reported as `EAGAIN`. -/
def finish : Option (Received × Receiver) :=
  if s.recvBytes < s.bytesToRecv then some (.error EAGAIN, s)
  else do
    let dataBuf ← s.dataBuf.write (s.recvBytes - 4) [0]
    let buf ← dataBuf.cString
    some (.msg buf, { s with dataBuf, bytesToRecv := 4, recvBytes := 0 })

/-- The second part of a call, with what its `::recv` returned. -/
def recvData (result : RecvResult) : Option (Received × Receiver) :=
  match result with
  | .error errno => some (.error errno, s)
  | .data [] => some (.closed, s)
  | .data bytes => do
      let dataBuf ← s.dataBuf.write (s.recvBytes - 4) bytes
      finish { s with dataBuf, recvBytes := s.recvBytes + bytes.length }

/-- The second part with its `::recv`. -/
def recvText (ready : Option ℕ) (stream : List Byte) : Option (Received × Receiver × List Byte) := do
  let (result, stream) := sysRecv (s.bytesToRecv - s.recvBytes) ready stream
  let (received, s) ← recvData s result
  some (received, s, stream)

/-- `TCPSocket::recv` on a stream of bytes: what it returns, and what is left of both. There is no
result when a buffer is left or an unwritten cell is used. -/
def recv (first second : Option ℕ) (stream : List Byte) : Option (Received × Receiver × List Byte) :=
  if s.recvBytes < 4 then
    match sysRecv (4 - s.recvBytes) first stream with
    | (.error errno, stream) => some (.error errno, s, stream)
    | (.data [], stream) => some (.closed, s, stream)
    | (.data bytes, stream) => do
        let s ← recvHeader s bytes
        if 4 ≤ s.recvBytes then recvText s second stream
        else do
          let (received, s) ← finish s
          some (received, s, stream)
  else recvText s first stream

end Receiver

/-- A connection with what the peer has sent and nobody has read. -/
structure Link where
  socket : Receiver
  stream : List Byte
  /-- history: what the calls returned -/
  returned : List Received

/-- The texts that were received. -/
def Link.delivered (s : Link) : List (List Byte) :=
  s.returned.filterMap fun
    | .msg text => some text
    | .closed | .error _ => none

/-- One call of `TCPSocket::recv`, with the answers of the operating system. -/
structure RecvCall where
  first : Option ℕ
  second : Option ℕ

def header (size : ℕ) : List Byte :=
  [BitVec.ofNat 8 (size / 2 ^ 24), BitVec.ofNat 8 (size / 2 ^ 16), BitVec.ofNat 8 (size / 2 ^ 8),
    BitVec.ofNat 8 size]

/-- A text on the wire. -/
def encode (text : List Byte) : List Byte := header text.length ++ text

def connected (texts : List (List Byte)) : Link := ⟨Receiver.new, texts.flatMap encode, []⟩

def receiving (texts : List (List Byte)) : LabeledMachine Link RecvCall where
  Initial s := s = connected texts
  step? s call := do
    let (received, socket, stream) ← s.socket.recv call.first call.second s.stream
    some { socket, stream, returned := s.returned ++ [received] }

end H9d.TCPSocket
