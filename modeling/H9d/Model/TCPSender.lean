import H9d.Model.TCPReceiver

/-! # The bytes that a TCP socket sends

`TCPSocket::send` writes the header by one `::send` and the text by a loop of them. The operating system
may take fewer bytes than it is given, each time; what it takes is appended to the stream of the connection.
-/

namespace H9d.TCPSocket

open H9Frame

/-- The locals of `TCPSocket::send`; there is no `sent_byte` before the header is sent. -/
structure Sender where
  buf : List Byte
  sentByte : Option ℕ
  deriving DecidableEq

/-- What the operating system takes of the bytes it is given. -/
def taken (asked : List Byte) : SendResult → List Byte
  | .count n => asked.take n
  | .error _ => []

/-- It takes no more than there are. -/
def admits (asked : List Byte) : SendResult → Bool
  | .count n => n ≤ asked.length
  | .error _ => true

namespace Sender

/-- The bytes that the next `::send` is given. -/
def asked (s : Sender) : List Byte :=
  match s.sentByte with
  | none => header s.buf.length
  | some sentByte => s.buf.drop sentByte

/-- What a `::send` is followed by: another one, or the end of `TCPSocket::send`. -/
def send (s : Sender) : SendResult → Sender ⊕ Sent
  | .error errno => .inr (.failed errno)
  | .count 0 => .inr .closed
  | .count (n + 1) =>
      let sentByte := match s.sentByte with
        | none => 0
        | some sentByte => sentByte + (n + 1)
      if sentByte < s.buf.length then .inl { s with sentByte := some sentByte } else .inr .sent

/-- The rest of `TCPSocket::send`, with the results of its calls: what it returns, and what it appends to
the stream. The results must be those of one call of it. -/
def run (s : Sender) : List SendResult → Option (Sent × List Byte)
  | [] => none
  | result :: results =>
      if admits s.asked result then
        match s.send result with
        | .inl next => (run next results).map fun (returned, bytes) => (returned, taken s.asked result ++ bytes)
        | .inr returned => if results = [] then some (returned, taken s.asked result) else none
      else none

end Sender

/-- `TCPSocket::send`. -/
def send (buf : List Byte) (results : List SendResult) : Option (Sent × List Byte) :=
  Sender.run ⟨buf, none⟩ results

/-- A call of `TCPSocket::send` that returned 1. -/
structure Transfer where
  buf : List Byte
  results : List SendResult
  bytes : List Byte
  returned : send buf results = some (.sent, bytes)

/-- The writer that only counts what is left. -/
def Sender.toWriter (s : Sender) : Writer :=
  match s.sentByte with
  | none => .header s.buf.length
  | some sentByte => .data (s.buf.length - sentByte)

end H9d.TCPSocket
