import H9d.Model.H9Frame

/-! # Messages on a TCP socket

A message is four bytes of length, the most significant first, and the text. A step is one call of
`::recv` or `::send`; both objects keep what the loops around these calls carry from one to the next.
-/

namespace H9d.TCPSocket

open H9Frame

abbrev Errno := ℕ

def EAGAIN : Errno := 11
def ECONNRESET : Errno := 104

/-- What `::recv` returns; no bytes when the peer has closed. -/
inductive RecvResult
  | data (bytes : List Byte)
  | error (errno : Errno)
  deriving DecidableEq

/-- `header_buf`, `data_buf` and the counters of `TCPSocket::recv`. -/
structure Reader where
  /-- the `recv_bytes` bytes of the message that have come -/
  received : List Byte
  bytesToRecv : ℕ
  deriving DecidableEq

/-- What `recv_complete_msg` returns. -/
inductive Received
  | msg (text : List Byte)
  | closed
  | error (errno : Errno)
  deriving DecidableEq

namespace Reader

def initial : Reader := ⟨[], 4⟩

/-- How many bytes the next `::recv` asks for. -/
def wanted (r : Reader) : ℕ :=
  if r.received.length < 4 then 4 - r.received.length else r.bytesToRecv - r.received.length

def ntohl (headerBuf : List Byte) : ℕ := headerBuf.foldl (fun n b => 256 * n + b.toNat) 0

/-- One `::recv`. An unfinished message is reported with `EAGAIN`, and `recv_complete_msg` repeats. -/
def recv (r : Reader) : RecvResult → Reader × Option Received
  | .error errno => (r, if errno = EAGAIN then none else some (.error errno))
  | .data [] => (r, some .closed)
  | .data bytes =>
      let received := r.received ++ bytes
      if r.received.length < 4 then
        (⟨received, if received.length = 4 then r.bytesToRecv + ntohl received else r.bytesToRecv⟩, none)
      else if received.length < r.bytesToRecv then (⟨received, r.bytesToRecv⟩, none)
      -- the text is taken as a C string
      else (initial, some (.msg ((received.drop 4).takeWhile (· ≠ 0))))

end Reader

/-- What `::send` returns: the bytes it took, or -1. -/
inductive SendResult
  | count (n : ℕ)
  | error (errno : Errno)
  deriving DecidableEq

/-- Where `TCPSocket::send` is: before the header, or at the data with `left` bytes to send. -/
inductive Writer
  | header (size : ℕ)
  | data (left : ℕ)
  deriving DecidableEq

/-- What `TCPSocket::send` returns. -/
inductive Sent
  | sent
  | closed
  | failed (errno : Errno)
  deriving DecidableEq

/-- One `::send`: the writer that goes on, or the end of `TCPSocket::send`. -/
def Writer.send (w : Writer) : SendResult → Writer ⊕ Sent
  | .error errno => .inr (.failed errno)
  | .count 0 => .inr .closed
  | .count (n + 1) =>
      let left := match w with
        | .header size => size
        | .data left => left - (n + 1)
      if left = 0 then .inr .sent else .inl (.data left)

end H9d.TCPSocket
