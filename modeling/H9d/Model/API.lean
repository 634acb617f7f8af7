import H9d.Model.MetricsCollector
import H9d.Model.NodeMgr

/-! # The methods of the JSON-RPC interface

Each method is a call on the daemon's state with two kinds of exceptions besides those meant for the
client: the exceptions of the nodes and those of an access to a JSON value. A handler turns them
into errors for the client where the source has a `catch`, and nowhere else.
-/

namespace H9d

open Cxx Nlohmann Jsonrpcpp H9Frame

/-- Setting the members that an object has, one after the other; the rest keep their contents. -/
def H9Frame.fromJson (cast : FloatCast) (j : Json) (f : H9Frame) : Except AccessError H9Frame := do
  let f := { f with type := (← j.optional "type" (Json.getNumber cast 8)).getD f.type }
  let f := { f with sourceId := (← j.optional "source_id" (Json.getNumber cast 8)).getD f.sourceId }
  let f := { f with seqnum := (← j.optional "seqnum" (Json.getNumber cast 8)).getD f.seqnum }
  let f := { f with
    destinationId := (← j.optional "destination_id" (Json.getNumber cast 8)).getD f.destinationId }
  let f := { f with flags := (← j.optional "flags" (Json.getNumber cast 8)).getD f.flags }
  let f := { f with group := (← j.optional "broadcast_group" (Json.getNumber cast 16)).getD f.group }
  let f := { f with dlc := (← j.optional "dlc" (Json.getNumber cast 8)).getD f.dlc }
  return ((← j.optional "data" (Json.getBytes cast)).map f.setData).getD f

def H9Frame.isValid (_ : H9Frame) : Bool := true

/-- What the thread of a client keeps about it. The observers are pointers, null or not. -/
structure ClientThread where
  entity : String
  authenticated : Bool
  frameObserver : Bool
  devStatusObserver : Bool
  connectionTime : ℤ
  remoteAddress : String
  remotePort : String
  deriving DecidableEq, Repr, Inhabited

def ClientThread.getClientIdstring (t : ClientThread) : String :=
  t.entity ++ "@" ++ t.remoteAddress ++ ":" ++ t.remotePort

def ClientThread.authenticate (t : ClientThread) (entity : String) : ClientThread :=
  { t with entity, authenticated := true }

abbrev ClientId := ℕ

structure Daemon where
  nodeMgr : NodeMgr
  port : Port
  clients : ClientId → ClientThread
  /-- the connections, in the order of the server's list -/
  clientsList : List ClientId
  counterMap : List (String × BitVec 64)
  startTime : ℤ

namespace Daemon

/-- Before anything is configured, received or accepted. -/
def initial : Daemon where
  nodeMgr := ⟨fun _ => none, fun _ => none, []⟩
  port := []
  clients := fun _ => default
  clientsList := []
  counterMap := []
  startTime := 0

def setClient (d : Daemon) (me : ClientId) (t : ClientThread) : Daemon :=
  { d with clients := Function.update d.clients me t }

end Daemon

namespace API

/-- The version and the format of time that the build gives. -/
structure Texts where
  version : String
  major : BitVec 32
  minor : BitVec 32
  patch : BitVec 32
  time : ℤ → String
  deriving Inhabited

inductive Method
  | authenticate
  | clearRegisterBit
  | devMethodCall
  | discoverNodes
  | getDevDescription
  | getDevStatus
  | getDevsList
  | getMethodsList
  | getNodeInfo
  | getNodesList
  | getRegisterValue
  | getRegistersList
  | getStats
  | getTcpClients
  | getVersion
  | nodeReset
  | reloadNodesDescription
  | sendFrame
  | setRegisterBit
  | setRegisterValue
  | subscribe
  deriving DecidableEq, Repr

def Method.name : Method → String
  | authenticate => "authenticate"
  | clearRegisterBit => "clear_register_bit"
  | devMethodCall => "dev_method_call"
  | discoverNodes => "discover_nodes"
  | getDevDescription => "get_dev_description"
  | getDevStatus => "get_dev_status"
  | getDevsList => "get_devs_list"
  | getMethodsList => "get_methods_list"
  | getNodeInfo => "get_node_info"
  | getNodesList => "get_nodes_list"
  | getRegisterValue => "get_register_value"
  | getRegistersList => "get_registers_list"
  | getStats => "get_stats"
  | getTcpClients => "get_tcp_clients"
  | getVersion => "get_version"
  | nodeReset => "node_reset"
  | reloadNodesDescription => "reload_nodes_description"
  | sendFrame => "send_frame"
  | setRegisterBit => "set_register_bit"
  | setRegisterValue => "set_register_value"
  | subscribe => "subscribe"

/-- The keys of `api_methods`, in the order of the map. -/
def Method.all : List Method :=
  [authenticate, clearRegisterBit, devMethodCall, discoverNodes, getDevDescription, getDevStatus,
    getDevsList, getMethodsList, getNodeInfo, getNodesList, getRegisterValue, getRegistersList,
    getStats, getTcpClients, getVersion, nodeReset, reloadNodesDescription, sendFrame,
    setRegisterBit, setRegisterValue, subscribe]

def Method.ofName? (name : String) : Option Method := Method.all.find? (·.name = name)

abbrev NODE_IS_NOT_EXIST : ℤ := -11

section Catch

variable {α : Type} (id : Id)

/-- The two `catch` clauses around the access to the parameters. -/
def orInvalidParams (x : Except AccessError α) : Call Daemon Exception α :=
  match x with
  | .ok a => pure a
  | .error e => Call.throw (.request (invalidParamsException e.what id))

def requestException (e : DevNodeException) : Exception := .request ⟨⟨e.msg, e.code, none⟩, id⟩

/-- `catch (DevNodeException& e)`. -/
def orDevNodeError (c : Call Port DevNodeException α) : Call Daemon Exception α :=
  Call.tryCatch (c.on Daemon.port fun port d => { d with port }) fun e => Call.throw (requestException id e)

/-- The same clause around the operations of devices, which throw other exceptions too. -/
def orDevError (c : Call Port Exception α) : Call Daemon Exception α :=
  Call.tryCatch (c.on Daemon.port fun port d => { d with port }) fun
    | .devNode e => Call.throw (requestException id e)
    | e => Call.throw e

/-- A call outside any `try`. -/
def uncaught (c : Call Port DevNodeException α) : Call Daemon Exception α :=
  Call.tryCatch (c.on Daemon.port fun port d => { d with port }) fun e => Call.throw (.devNode e)

end Catch

abbrev Handler := Env → ClientId → Id → Parameter → Call Daemon Exception Json

def getVersion (texts : Texts) : Handler := fun _ _ _ _ =>
  return .object [("major", .numberUnsigned (texts.major.setWidth 64)),
    ("minor", .numberUnsigned (texts.minor.setWidth 64)),
    ("patch", .numberUnsigned (texts.patch.setWidth 64)), ("version", .string texts.version)]

def getMethodsList : Handler := fun _ _ _ _ =>
  return .object [("methods_list", .ofStrings (Method.all.map Method.name))]

/-- A second observer is set after the first is deleted while still attached, which the destructor of
the first asserts against. -/
def setFrameObserver (env : Env) (me : ClientId) : Call Daemon Exception Unit := do
  let t ← Call.read fun d => d.clients me
  if env.assertions && t.frameObserver then Call.undefined
  else Call.modify fun d => d.setClient me { d.clients me with frameObserver := true }

def setDevStatusObserver (env : Env) (me : ClientId) : Call Daemon Exception Unit := do
  let t ← Call.read fun d => d.clients me
  if env.assertions && t.devStatusObserver then Call.undefined
  else Call.modify fun d => d.setClient me { d.clients me with devStatusObserver := true }

def subscribe : Handler := fun env me id params => do
  let eventName ← orInvalidParams id (params.getAt "event" Json.getString)
  if eventName = "frame" then setFrameObserver env me
  else if eventName = "dev_status" then setDevStatusObserver env me
  return .object [("return", .string "ok")]

def clientInfo (texts : Texts) (t : ClientThread) : Json :=
  .object [("authenticated", .boolean t.authenticated),
    ("connection_time", .string (texts.time t.connectionTime)),
    ("dev_subscription", .boolean t.devStatusObserver), ("entity", .string t.entity),
    ("frame_subscription", .boolean t.frameObserver), ("id", .string t.getClientIdstring),
    ("remote_address", .string t.remoteAddress), ("remote_port", .string t.remotePort)]

def getTcpClients (texts : Texts) : Handler := fun _ _ _ _ => do
  let clients ← Call.read fun d => d.clientsList.map d.clients
  return .array (clients.map (clientInfo texts))

def sendFrame : Handler := fun env me id params => do
  let (frame, raw) ← orInvalidParams id do
    let raw ← match params.paramMap.lookup "raw" with
      | some raw => raw.getBool
      | none => .ok false
    let frame ← params.getAt "frame" fun j => fromJson env.cast j env.frameMemory
    return (frame, raw)
  if raw && !frame.isValid then
    Call.throw (.request (invalidParamsException "Incorrect raw frame during invoke 'send_frame'" id))
  else
    let t ← Call.read fun d => d.clients me
    let frame := { frame with origin := t.getClientIdstring }
    Call.modify fun d => { d with port := d.port ++ [(frame, raw)] }
    -- the bus counts by type in an array of 32, and `dlc` bytes are read of the data
    if frame.type.toNat < 2 ^ TYPE_BIT_LENGTH ∧ frame.dlc.toNat ≤ MAX_DATA_LENGTH then
      return .object [("seqnum", .numberInteger (env.seqnum.setWidth 64))]
    else Call.undefined

def getStats : Handler := fun env _ _ _ => do
  let (counterMap, startTime) ← Call.read fun d => (d.counterMap, d.startTime)
  match MetricsCollector.metricsToJson (BitVec.ofInt 64 (env.now - startTime)) counterMap with
  | .ok j => return j
  | .error e => Call.throw (.access e)

def authenticate : Handler := fun _ me id params => do
  let entity ← orInvalidParams id (params.getAt "entity" Json.getString)
  Call.modify fun d => d.setClient me ((d.clients me).authenticate entity)
  return .object [("authentication", .boolean true)]

def reloadNodesDescription : Handler := fun env _ _ _ => do
  let m ← Call.read Daemon.nodeMgr
  let nodeMgr ← uncaught (Call.ofOutcome (m.reloadNodesDescription env))
  Call.modify fun d => { d with nodeMgr }
  return .boolean true

def getNodesList : Handler := fun _ _ _ _ => do
  let m ← Call.read Daemon.nodeMgr
  return .array (m.getNodesList.map fun (id, node) =>
    .object [("id", .numberUnsigned (BitVec.ofNat 64 id)), ("name", .string node.nodeName),
      ("type", .ofUInt16 node.nodeType)])

def nodeId (cast : FloatCast) (params : Parameter) : Except AccessError (BitVec 16) :=
  params.getAt "node_id" (Json.getNumber cast 16)

def nodeInfo (texts : Texts) (nodeId : BitVec 16) (node : Node) : Json :=
  .object [("created_time", .string (texts.time node.createdTime)),
    ("description", .string node.nodeDescription),
    ("hardware_revision", .numberInteger (node.hardwareRevision.signExtend 64)),
    ("id", .ofUInt16 nodeId), ("last_seen_time", .string (texts.time node.lastSeenTime)),
    ("name", .string node.nodeName), ("reset_reason", .ofByte node.resetReason),
    ("type", .ofUInt16 node.nodeType), ("version_major", .ofUInt16 node.nodeVersionMajor),
    ("version_minor", .ofUInt16 node.nodeVersionMinor)]

/-- `get_node_info` of the manager returns zero or throws, so the test of its result is not modelled. -/
def getNodeInfo (texts : Texts) : Handler := fun env _ id params => do
  let nodeId ← orInvalidParams id (nodeId env.cast params)
  let m ← Call.read Daemon.nodeMgr
  let node ← uncaught (m.getNodeInfo nodeId)
  return nodeInfo texts nodeId node

def discoverNodes : Handler := fun env _ _ _ => do
  uncaught (NodeMgr.discover env)
  return .boolean true

def nodeReset : Handler := fun env _ id params => do
  let nodeId ← orInvalidParams id (nodeId env.cast params)
  let m ← Call.read Daemon.nodeMgr
  orDevNodeError id (m.nodeReset env nodeId)
  return .boolean true

def registerInfo (reg : RegisterDesc) : Json :=
  .object [("bits_names", .ofStrings reg.bitsNames), ("description", .string reg.description),
    ("name", .string reg.name), ("number", .ofByte reg.number), ("readable", .boolean reg.readable),
    ("size", .numberInteger (BitVec.ofNat 64 reg.size)), ("type", .string reg.type),
    ("writable", .boolean reg.writable)]

def getRegistersList : Handler := fun env _ id params => do
  let nodeId ← orInvalidParams id (nodeId env.cast params)
  let m ← Call.read Daemon.nodeMgr
  if ← uncaught (Call.ofOutcome (m.isNodeExist nodeId)) then
    let registers ← uncaught (Call.ofOutcome (m.getRegistersList nodeId))
    return .array (registers.map registerInfo)
  else
    Call.throw (.request
      ⟨⟨"Node " ++ toString nodeId.toNat ++ "does not exist.", NODE_IS_NOT_EXIST, none⟩, id⟩)

def registerJson (cast : FloatCast) : RegValue → Json
  | .int v => .numberInteger v
  | .float x => .numberFloat (cast.widen x)
  | .string s => .string s
  | .bytes v => .ofBytes v

/-- The result of a bit operation, for which a float is not looked for. -/
def bitsJson (cast : FloatCast) : RegValue → Json
  | .float _ => .null
  | v => registerJson cast v

def registerParams (cast : FloatCast) (params : Parameter) :
    Except AccessError (BitVec 16 × Byte) := do
  return (← nodeId cast params, ← params.getAt "reg" (Json.getNumber cast 8))

def getRegisterValue : Handler := fun env _ id params => do
  let (nodeId, reg) ← orInvalidParams id (registerParams env.cast params)
  let m ← Call.read Daemon.nodeMgr
  return registerJson env.cast (← orDevNodeError id (m.getRegister env nodeId reg))

/-- The parameter `value`, or `none` for a type that is not supported. -/
def registerValue (cast : FloatCast) : Json → Except AccessError (Option RegValue)
  | .string s => return some (.string s)
  | .numberFloat x => return some (.float (← Json.getFloat cast (.numberFloat x)))
  | .numberInteger i => return some (.int (← Json.getInteger cast (.numberInteger i)))
  | .numberUnsigned n => return some (.int (← Json.getInteger cast (.numberUnsigned n)))
  | .array elems => return some (.bytes (← Json.getBytes cast (.array elems)))
  | .null | .boolean _ | .object _ => return none

def setRegisterParams (cast : FloatCast) (params : Parameter) :
    Except AccessError ((BitVec 16 × Byte) × Option RegValue) := do
  return (← registerParams cast params, ← params.getAt "value" (registerValue cast))

def setRegisterValue : Handler := fun env _ id params => do
  match ← orInvalidParams id (setRegisterParams env.cast params) with
  | ((nodeId, reg), some val) =>
    let m ← Call.read Daemon.nodeMgr
    return registerJson env.cast (← orDevNodeError id (m.setRegister env nodeId reg val))
  | (_, none) => Call.throw (.request (invalidParamsException "Unsupported JSON type as a value" id))

def bitParams (cast : FloatCast) (params : Parameter) :
    Except AccessError ((BitVec 16 × Byte) × Byte) := do
  return (← registerParams cast params, ← params.getAt "bit_num" (Json.getNumber cast 8))

def setRegisterBit : Handler := fun env _ id params => do
  let ((nodeId, reg), bitNum) ← orInvalidParams id (bitParams env.cast params)
  let m ← Call.read Daemon.nodeMgr
  return bitsJson env.cast (← orDevNodeError id (m.setRegisterBit env nodeId reg bitNum))

def clearRegisterBit : Handler := fun env _ id params => do
  let ((nodeId, reg), bitNum) ← orInvalidParams id (bitParams env.cast params)
  let m ← Call.read Daemon.nodeMgr
  return bitsJson env.cast (← orDevNodeError id (m.clearRegisterBit env nodeId reg bitNum))

def getDevsList : Handler := fun _ _ _ _ => do
  let m ← Call.read Daemon.nodeMgr
  return .array (m.devsMap.map fun (name, dev) =>
    .object [("name", .string name), ("type", .string dev.kind.type)])

def devName (params : Parameter) : Except AccessError String := params.getAt "dev_name" Json.getString

def getDevDescription : Handler := fun env _ id params => do
  let devName ← orInvalidParams id (devName params)
  let m ← Call.read Daemon.nodeMgr
  orDevError id (m.getDevDescription env devName)

def getDevStatus : Handler := fun _ _ id params => do
  let devName ← orInvalidParams id (devName params)
  let m ← Call.read Daemon.nodeMgr
  orDevError id (m.getDevState devName)

def devMethodParams (params : Parameter) : Except AccessError (String × String) := do
  return (← devName params, ← params.getAt "method" Json.getString)

def devMethodCall : Handler := fun env _ id params => do
  let (devName, _) ← orInvalidParams id (devMethodParams params)
  let m ← Call.read Daemon.nodeMgr
  orDevError id (m.callDevMethod env devName id params)

/-- The values of `api_methods`. -/
def Method.handler (texts : Texts) : Method → Handler
  | .authenticate => API.authenticate
  | .clearRegisterBit => API.clearRegisterBit
  | .devMethodCall => API.devMethodCall
  | .discoverNodes => API.discoverNodes
  | .getDevDescription => API.getDevDescription
  | .getDevStatus => API.getDevStatus
  | .getDevsList => API.getDevsList
  | .getMethodsList => API.getMethodsList
  | .getNodeInfo => API.getNodeInfo texts
  | .getNodesList => API.getNodesList
  | .getRegisterValue => API.getRegisterValue
  | .getRegistersList => API.getRegistersList
  | .getStats => API.getStats
  | .getTcpClients => API.getTcpClients texts
  | .getVersion => API.getVersion texts
  | .nodeReset => API.nodeReset
  | .reloadNodesDescription => API.reloadNodesDescription
  | .sendFrame => API.sendFrame
  | .setRegisterBit => API.setRegisterBit
  | .setRegisterValue => API.setRegisterValue
  | .subscribe => API.subscribe

/-- The method whose handler a request reaches. -/
def admitted (authenticated : Bool) (request : Request) : Option Method :=
  (Method.ofName? request.method).filter fun _ => authenticated || request.method == "authenticate"

/-- `Bus::send_frame` returns when the endpoints have acknowledged the frame. The handlers are those on a bus
that does so; on another, one that gave a frame to the bus never ends, and nothing can be said after it. -/
def awaited {α : Type} (env : Env) (c : Call Daemon Exception α) : Call Daemon Exception α := fun d =>
  if env.stalled ∧ d.port.length < (c.after d).port.length then (.undefined, c.after d) else c d

def call (texts : Texts) (env : Env) (me : ClientId) (request : Request) :
    Call Daemon Exception Response := do
  let t ← Call.read fun d => d.clients me
  match admitted t.authenticated request with
  | some method =>
    let r ← awaited env (method.handler texts env me request.id request.params)
    return ⟨request.id, r⟩
  | none => Call.throw (.request (methodNotFoundException request.id))

end API

end H9d
