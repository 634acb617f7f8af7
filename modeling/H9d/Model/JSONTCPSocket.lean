import H9d.Core.JsonText
import H9d.Model.TCPConnection
import H9d.Model.TCPSender

/-! # JSON values on a TCP socket

`JSONTCPSocket` sends the text of a value as one message and parses what it receives. Both ends run at
once: between two calls of `::send`, the other end may call `recv` any number of times.
-/

namespace H9d.JSONTCPSocket

open Nlohmann TCPSocket Machine

/-- What `JSONTCPSocket::recv` makes of what `TCPSocket::recv` returned; a text that is not JSON gives a
discarded value. -/
def recv (format : TextFormat) : Received → Option (Option Json)
  | .msg text => some (format.parse text)
  | .closed | .error _ => none

/-- One direction of a connection, with both ends. -/
structure Channel where
  /-- the call of `TCPSocket::send` that is under way -/
  sender : Option Sender
  connection : Connection
  /-- a `::send` has failed, and the operating system takes nothing any more -/
  broken : Bool
  /-- history: a `::send` took some bytes of a header but not all -/
  torn : Bool
  /-- history: the values given to `JSONTCPSocket::send` -/
  given : List Json

inductive Event
  | send (json : Json)
  /-- one `::send` -/
  | sysSend (result : SendResult)
  | close
  | recv (first second : TCPSocket.Answer)

namespace Channel

def new : Channel := ⟨none, Connection.new, false, false, []⟩

variable (format : TextFormat)

/-- The values that were received. -/
def received (t : Channel) : List (Option Json) :=
  t.connection.returned.filterMap fun call => recv format call.1

/-- A `::send` of a header that leaves some of it. -/
def tears (s : Sender) : SendResult → Bool
  | .count n => s.sentByte = none ∧ 0 < n ∧ n < 4
  | .error _ => false

def step? (t : Channel) : Event → Option Channel
  | .send json =>
      if t.sender = none then
        some { t with sender := some ⟨format.dump json, none⟩, given := t.given ++ [json] }
      else none
  | .sysSend result => do
      let s ← t.sender
      if admits s.asked result ∧ (t.broken → taken s.asked result = []) then do
        let connection ← t.connection.step? (.send (taken s.asked result))
        let torn := t.torn || tears s result
        match s.send result with
        | .inl next => some { t with sender := some next, connection, torn }
        | .inr ended => some { t with sender := none, connection, torn, broken := t.broken || ended ≠ .sent }
      else none
  | .close =>
      if t.sender = none then (t.connection.step? .close).map fun connection => { t with connection } else none
  | .recv first second =>
      (t.connection.step? (.recv first second)).map fun connection => { t with connection }

def machine : LabeledMachine Channel Event where
  Initial t := t = new
  step? := step? format

end Channel

end H9d.JSONTCPSocket
