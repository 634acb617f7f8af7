import H9d.Core.JsonText
import H9d.Model.JsonrpcParser
import H9d.Model.TCPServer

/-! # Clients of the daemon

The programs that talk to the daemon authenticate, send requests and read what comes back. A connection
carries the JSON values of either direction in order; a value arrives as its text is read. What cannot be said
in a text, a string that is not UTF-8 or a number of a client that is not finite, is not followed: there is no
step that sends it.
-/

namespace H9d

open Cxx Nlohmann Jsonrpcpp Machine API

namespace Jsonrpcpp

mutual

/-- What the thread of a client sees of an object. -/
def EntityPtr.entity : EntityPtr → Entity
  | .request r => .request r
  | .batch entities => .batch (EntityPtr.entities entities)
  | .notification _ | .response _ | .error _ | .exception _ => .other

def EntityPtr.entities : List EntityPtr → List Entity
  | [] => []
  | entity :: entities => entity.entity :: EntityPtr.entities entities

end

end Jsonrpcpp

namespace TCPServer

/-- What `thread_recv_msg` makes of a value; `none` is a text that is not JSON. -/
def received (cast : FloatCast) : Option Json → Received
  | none => .discarded
  | some json =>
      match doParseJson cast json with
      | .ok msg => .entity (msg.map EntityPtr.entity)
      | .error e => .rpcException e.what

def Message.toJson : Message → Json
  | .reply answer => answer.entity.toJson
  | .batch entities => (EntityPtr.batch (entities.map Reply.entity)).toJson
  | .parseError data => parseErrorJson data

end TCPServer

namespace H9Connector

/-- The call of `JSONTCPSocket::authentication`; the number 1 is reserved for it. -/
def authenticationRequest (entity : String) : Request :=
  ⟨.integer 1, "authenticate", .map [("entity", .string entity)]⟩

variable (cast : FloatCast)

/-- What `JSONTCPSocket::authentication` makes of the value that comes back. A null pointer of the parser is
used as it is. -/
def authentication : Option Json → Outcome String Bool
  | none => .throws "Invalid JSON"
  | some json =>
      match doParseJson cast json with
      | .error e => .throws e.what
      | .ok none => .undefined
      | .ok (some (.response msg)) =>
          match msg.result.members.lookup "authentication" with
          | some value =>
              match value.getBool with
              | .ok authenticated => .value authenticated
              | .error e => .throws e.what
          | none => .value false
      | .ok (some _) => .value false

def connect (json : Option Json) : Outcome String Unit := do
  if ← authentication cast json then .value () else .throws "Authentication fail"

def recv : Option Json → Outcome String (Option EntityPtr)
  | none => .throws "Invalid JSON"
  | some json =>
      match doParseJson cast json with
      | .error e => .throws e.what
      | .ok msg => .value msg

end H9Connector

namespace Session

/-- Where a client is. -/
inductive Phase
  | start
  | authenticating
  | ready
  /-- an exception was thrown, or a null pointer was used -/
  | failed
  deriving DecidableEq

/-- A client of the daemon with its connection. -/
structure State where
  server : TCPServer.State
  toServer : List Json
  toClient : List Json
  phase : Phase
  nextMsgId : BitVec 32
  /-- history: the requests that were sent, and the values that were read -/
  requests : List Request
  received : List Json

inductive Event
  /-- the first half of `connect` -/
  | authenticate (entity : String)
  /-- the second half -/
  | connected
  | execute (method : String) (params : Parameter)
  | recv
  /-- the daemon reads a value of this client -/
  | serve (envs : ℕ → Env)
  /-- an observer of this client sends -/
  | notify (notification : Notification)
  /-- everything else in the daemon -/
  | daemon (event : TCPServer.Event)

/-- The connection that an event of the server is about. -/
def clientOf : TCPServer.Event → Option ClientId
  | .accept c _ _ | .message c _ _ => some c
  | .elsewhere _ _ _ => none

variable (cast : FloatCast) (texts : Texts) (c : ClientId)

/-- What the server has sent to the client since it was in another state, as it is read. -/
def sentSince (before after : TCPServer.State) : Option (List Json) :=
  ((after.sent.drop before.sent.length).filterMap fun (receiver, msg) =>
    if receiver = c then some msg.toJson else none).mapM Json.throughText?

namespace State

variable (t : State)

def send (request : Request) : State :=
  { t with toServer := t.toServer ++ [request.toJson.reread], requests := t.requests ++ [request] }

/-- The client takes a value and goes on as it is told. -/
def take (json : Json) (later : List Json) (phase : Phase) : State :=
  { t with toClient := later, received := t.received ++ [json], phase }

/-- An observer notifies of what it observes. -/
def mayNotify (thread : ClientThread) (method : String) : Bool :=
  method = "on_frame" && thread.frameObserver || method = "dev_status_update" && thread.devStatusObserver

def step? : Event → Option State
  | .authenticate entity =>
      let request := H9Connector.authenticationRequest entity
      if t.phase = .start ∧ request.toJson.IsText then some { t.send request with phase := .authenticating }
      else none
  | .connected =>
      match t.phase, t.toClient with
      | .authenticating, json :: later =>
          match H9Connector.connect cast (some json) with
          | .value () => some (t.take json later .ready)
          | .throws _ | .undefined => some (t.take json later .failed)
      | _, _ => none
  | .execute method params =>
      let nextMsgId := t.nextMsgId + 1
      let request : Request := ⟨.integer nextMsgId, method, params⟩
      if t.phase = .ready ∧ method ≠ "" ∧ request.toJson.IsText then some { t.send request with nextMsgId }
      else none
  | .recv =>
      match t.phase, t.toClient with
      | .ready, json :: later =>
          match H9Connector.recv cast (some json) with
          | .value _ => some (t.take json later .ready)
          | .throws _ | .undefined => some (t.take json later .failed)
      | _, _ => none
  | .serve envs =>
      match t.toServer with
      | json :: later =>
          ((TCPServer.machine texts).step? t.server
            (.message c envs (TCPServer.received cast (some json)))).bind fun server =>
              (sentSince c t.server server).map fun sent =>
                { t with server, toServer := later, toClient := t.toClient ++ sent }
      | [] => none
  | .notify notification =>
      if mayNotify (t.server.daemon.clients c) notification.method ∧ notification.toJson.IsText then
        some { t with toClient := t.toClient ++ [notification.toJson.reread] }
      else none
  | .daemon event =>
      if clientOf event ≠ some c then
        ((TCPServer.machine texts).step? t.server event).bind fun server =>
          (sentSince c t.server server).map fun sent => { t with server, toClient := t.toClient ++ sent }
      else none

end State

/-- A connection that the server has just accepted. -/
def Start (t : State) : Prop :=
  ∃ s peer memory, (TCPServer.machine texts).Reachable s ∧ s.terminated = false ∧ c ∉ s.accepted ∧
    t = ⟨s.accept c peer memory, [], [], .start, 1, [], []⟩

def machine : LabeledMachine State Event where
  Initial := Start texts c
  step? := State.step? cast texts c

end Session

end H9d
