import H9d.Core.JsonText
import H9d.Core.LabeledMachine
import H9d.Model.API
import H9d.Model.JsonrpcParser

/-! # Connections and their messages

The server accepts connections, and the thread of each reads messages and has its requests executed.
A step is a connection, one whole message, or what other threads do to the rest of the daemon. The
calls of one message learn from outside what a stream says, one entry for each. A run ends where a call
leaves its thread, is undefined, or waits for a bus that never acknowledges.

What was received is UTF-8, as the parser of the texts accepts nothing else, so that of the lines for the
log only the one about the answer can throw.
-/

namespace H9d.TCPServer

open Cxx Nlohmann Jsonrpcpp Machine API

/-- What reading from the socket and the parser make of a message. -/
inductive Received
  | closed
  /-- the read failed with an error that the thread throws -/
  | failed
  | discarded
  | rpcException (what : String)
  /-- the parser may return a null pointer -/
  | entity (msg : Option Entity)

/-- An answer to a request. -/
inductive Reply
  | response (response : Response)
  | error (e : RequestException)

def Reply.entity : Reply → EntityPtr
  | .response r => .response r.object
  | .error e => .exception e

/-- The strict `dump` of the answer throws nothing. -/
def Reply.isWritten (reply : Reply) : Bool := decide reply.entity.toJson.IsUtf8

inductive Message
  | reply (reply : Reply)
  | batch (entities : List Reply)
  | parseError (data : String)

/-- The answers that a message carries. -/
def Message.replies : Message → List Reply
  | .reply answer => [answer]
  | .batch entities => entities
  | .parseError _ => []

/-- A request with what became of it. -/
structure Handled where
  client : ClientId
  request : Request
  /-- the method that the call executed -/
  executed : Option Method
  outcome : Outcome Exception Response
  before : Daemon
  after : Daemon

/-- The answer to a request; other exceptions than those for the client are not caught. -/
def Handled.answer (h : Handled) : Option Reply :=
  match h.outcome with
  | .value response => some (.response response)
  | .throws (.request e) => some (.error e)
  | .throws _ | .undefined => none

structure State where
  daemon : Daemon
  /-- the connections ever accepted, and those still open -/
  accepted : List ClientId
  running : ClientId → Bool
  /-- an exception left a thread, or a call ran into undefined behaviour or never ends -/
  terminated : Bool
  sent : List (ClientId × Message)
  /-- history -/
  handled : List Handled

namespace State

def send (s : State) (c : ClientId) (msg : Message) : State := { s with sent := s.sent ++ [(c, msg)] }

end State

section Messages

variable (texts : Texts) (c : ClientId)

def record (env : Env) (request : Request) (d : Daemon) : Handled where
  client := c
  request := request
  executed := admitted (d.clients c).authenticated request
  outcome := (call texts env c request).outcome d
  before := d
  after := (call texts env c request).after d

def execute (env : Env) (request : Request) (s : State) : State × Option Reply :=
  let h := record texts c env request s.daemon
  ({ s with
    daemon := h.after
    handled := s.handled ++ [h]
    terminated := s.terminated || h.answer.isNone }, h.answer)

/-- After the answer is sent, it is written to the log, outside of what the `catch` is for. -/
def recvRequest (env : Env) (request : Request) (s : State) : State :=
  match execute texts c env request s with
  | (s, some reply) =>
      let s := s.send c (.reply reply)
      { s with terminated := s.terminated || !reply.isWritten }
  | (s, none) => s

/-- The loop over a batch. A response is sent at once, and again with the batch of all answers. -/
def recvBatch (envs : ℕ → Env) : List Entity → List Reply → State → State
  | [], responseBatch, s => if responseBatch.isEmpty then s else s.send c (.batch responseBatch)
  | .request request :: rest, responseBatch, s =>
      match execute texts c (envs 0) request s with
      | (s, some (.response response)) =>
          recvBatch (fun n => envs (n + 1)) rest (responseBatch ++ [.response response])
            (s.send c (.reply (.response response)))
      | (s, some (.error e)) =>
          recvBatch (fun n => envs (n + 1)) rest (responseBatch ++ [.error e]) s
      | (s, none) => s
  | .batch _ :: rest, responseBatch, s => recvBatch envs rest responseBatch s
  | .other :: rest, responseBatch, s => recvBatch envs rest responseBatch s

def threadRecvMsg (envs : ℕ → Env) (received : Received) (s : State) : State :=
  match received with
  | .closed => { s with running := Function.update s.running c false }
  | .failed => { s with terminated := true }
  | .discarded => s.send c (.parseError "")
  | .rpcException what => s.send c (.parseError what)
  | .entity (some (.request request)) => recvRequest texts c (envs 0) request s
  | .entity (some (.batch entities)) => recvBatch texts c envs entities [] s
  | .entity (some .other) | .entity none =>
      s.send c (.parseError "The JSON sent is not supported object.")

end Messages

/-- The peer of a connection, and the moment of its acceptance. -/
structure Peer where
  connectionTime : ℤ
  remoteAddress : String
  remotePort : String
  deriving Inhabited

inductive Event
  /-- `memory` is what the byte of `_authenticated` holds: the constructor does not write it -/
  | accept (c : ClientId) (peer : Peer) (memory : Bool)
  | message (c : ClientId) (envs : ℕ → Env) (received : Received)
  /-- what other threads change -/
  | elsewhere (nodeMgr : NodeMgr) (port : Port) (counterMap : List (String × BitVec 64))

/-- The members after the constructor of `TCPClientThread`. -/
def connect (peer : Peer) (memory : Bool) : ClientThread where
  entity := ""
  authenticated := memory
  frameObserver := false
  devStatusObserver := false
  connectionTime := peer.connectionTime
  remoteAddress := peer.remoteAddress
  remotePort := peer.remotePort

def State.accept (s : State) (c : ClientId) (peer : Peer) (memory : Bool) : State :=
  { s with
    daemon := { s.daemon.setClient c (connect peer memory) with
      clientsList := s.daemon.clientsList ++ [c] }
    accepted := c :: s.accepted
    running := Function.update s.running c true }

def step? (texts : Texts) (s : State) : Event → Option State
  | .accept c peer memory => if c ∉ s.accepted then some (s.accept c peer memory) else none
  | .message c envs received =>
      if c ∈ s.accepted ∧ s.running c then some (threadRecvMsg texts c envs received s) else none
  | .elsewhere nodeMgr port counterMap =>
      some { s with daemon := { s.daemon with nodeMgr, port, counterMap } }

/-- The server before the first connection, whatever the configuration has set up. -/
def Start (s : State) : Prop :=
  s.daemon.clientsList = [] ∧ s.accepted = [] ∧ s.terminated = false ∧ s.sent = [] ∧ s.handled = []

def initial : State where
  daemon := Daemon.initial
  accepted := []
  running := fun _ => false
  terminated := false
  sent := []
  handled := []

theorem start_initial : Start initial := ⟨rfl, rfl, rfl, rfl, rfl⟩

def machine (texts : Texts) : LabeledMachine State Event where
  Initial := Start
  step? s e := if s.terminated then none else step? texts s e

end H9d.TCPServer
