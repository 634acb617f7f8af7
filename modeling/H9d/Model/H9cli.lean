import H9d.Core.Responder
import H9d.Model.CliParser
import H9d.Model.H9Connector
import H9d.Model.RegisterService

/-! # The command line and the daemon

A line is parsed, and executed if it is accepted. Both the requests for the names of a line and the request of the
line itself go to the daemon, and the messages that come back are read. A request for a register reaches its node;
the frames of other requests are not followed, and neither is a session after the daemon has ended, which it does
when it answers with a string that is not UTF-8. Beside this stands a session without a cache and without a wire,
where the names are those of the table of the nodes and each register of the nodes is a number.
-/

namespace H9d

open Cxx Nlohmann Jsonrpcpp Machine API

def API.RegisterMethod.ofName? (name : String) : Option RegisterMethod :=
  [getRegisterValue, setRegisterValue, setRegisterBit, clearRegisterBit].find? (·.method.name = name)

namespace CliParser

def Value.json : Value → Json
  | number n => .numberInteger (.ofInt 64 n)
  | text s => .string s

namespace Request

/-- The members of the object that the actions build, by ascending key. -/
def members (req : Request) : List (String × Json) :=
  let number (n : Option ℤ) : Option Json := n.map fun n => .numberInteger (.ofInt 64 n)
  [("bit_num", number req.bitNum), ("dev_name", req.devName.map .string), ("method", req.devMethod.map .string),
    ("node_id", number req.nodeId), ("reg", number req.reg), ("value", req.value.map Value.json)].filterMap
      fun (key, value) => value.map fun value => (key, value)

/-- Without members there are no parameters. -/
def params (req : Request) : Parameter :=
  match req.members with
  | [] => .null
  | members => .map members

end Request

def Event.sent? : Event → Option Request
  | .sent req => some req
  | .error _ | .printed _ => none

/-- What the parser does not catch ends the program. -/
def Stop.ends : Stop → Bool
  | .syntaxError | .lexer .eof | .lexer (.syntaxError _) => false
  | .lexer (.throws _) | .lexer (.fault _) | .undefinedArithmetic => true

/-- The node that a name is looked up in has a place in the daemon's array. -/
def Query.isInside : Query → Bool
  | .node _ => true
  | .register nodeId _ | .bit nodeId _ _ => (BitVec.ofInt 16 nodeId).toNat ≤ H9Frame.ID_MAX_VALUE

end CliParser

namespace CliCache

/-- What the loop of `refresh_node` reads of a node. -/
def readNode (cast : FloatCast) (node : Json) : Except AccessError (String × BitVec 16) := do
  let name ← (member node "name").getString
  let id ← (member node "id").getNumber cast 16
  return (name, id)

def elements : Json → List Json
  | .array elems => elems
  | _ => []

/-- The daemon keeps the registers of a node in a map from their numbers, so that no number is there twice. -/
def Registers.ofList? (list : List Register) : Option Registers :=
  if distinct : (list.map (·.number)).Nodup then some ⟨list, distinct⟩ else none

end CliCache

namespace H9cli

/-- A line with what its requests find when they are executed. -/
structure Line where
  text : CString
  env : Env
  /-- the id of the daemon on the bus -/
  hostId : Byte
  /-- what is in the members that the constructor of the comparator does not write -/
  garbage : BitVec 16

structure State where
  cache : CliCache
  nextMsgId : BitVec 32
  daemon : Daemon
  mems : RegisterService.Memories

inductive Printed
  | error (code : BitVec 32) (message : String)
  | result (method : String) (result : Json)
  | number (n : ℤ)
  /-- the id of the response is not that of the request -/
  | mismatch
  /-- something else than a response was received -/
  | unexpected

section Names

variable (texts : Texts) (c : ClientId) (env : Env) (d : Daemon)

/-- The request of a lookup in the daemon, in which it changes nothing; its id is not looked at. -/
def asked (method : String) (params : Parameter) : TCPServer.Handled :=
  TCPServer.record texts c env ⟨.null, method, params⟩ d

/-- The result of a request as it is read; an error has none. -/
def result? (method : String) (params : Parameter) : Option Json :=
  match (asked texts c env d method params).answer with
  | some (.response r) => r.result.throughText?
  | some (.error _) | none => none

/-- What the daemon replies to the cache. A line asks for nodes and registers only. -/
def replies : CliCache.Daemon where
  nodes := (result? texts c env d "get_nodes_list" .null).bind fun j =>
    ((CliCache.elements j).mapM (CliCache.readNode env.cast)).toOption
  devs := none
  registers nodeId := (result? texts c env d "get_registers_list" (.map [("node_id", .ofUInt16 nodeId)])).bind fun j =>
    (CliCache.readRegisters env.cast (CliCache.elements j)).toOption.bind CliCache.Registers.ofList?
  devMethods _ := none

/-- The daemon is still there after a request. -/
def survives (req : CliParser.Request) : Bool :=
  (asked texts c env d req.method req.params).answer.any TCPServer.Reply.isWritten

end Names

section Commands

variable (texts : Texts) (programs : RegisterService.Programs) (c : ClientId)

/-- A request in the daemon. -/
def handle (line : Line) (d : Daemon) (mems : RegisterService.Memories) (request : Request) :
    TCPServer.Handled × RegisterService.Memories :=
  match RegisterMethod.ofName? request.method with
  | some method =>
      let (outcome, after, mems) := RegisterService.serve texts programs d mems
        ⟨line.env, line.hostId, line.garbage, c, request.id, method, request.params⟩
      ({ TCPServer.record texts c line.env request d with outcome, after }, mems)
  | none => (TCPServer.record texts c line.env request d, mems)

/-- `int_id`; an id that is no number has zero. -/
def intId : Id → BitVec 32
  | .integer n => n
  | .null | .string _ => 0

/-- What comes of a message; a null pointer of the parser is used as it is. -/
def getAndParseResponse (cast : FloatCast) (requestId : Id) (method : String) (json : Json) :
    Outcome String (List Printed) := do
  match ← H9Connector.recv cast (some json) with
  | none => .undefined
  | some (.response msg) =>
      match msg.error with
      | some err =>
          let logged := if intId msg.id ≠ intId requestId ∧ err.code ≠ -32700 then [Printed.mismatch] else []
          .value (logged ++ [.error err.code err.message])
      | none =>
          let logged := if intId msg.id ≠ intId requestId then [Printed.mismatch] else []
          .value (logged ++ [.result method msg.result])
  | some _ => .value [.unexpected]

/-- An exception, also that of a closed connection, ends the program. The request is written to the log before it
is sent, which a string that is not UTF-8 makes an exception. -/
def execute (line : Line) (s : State) (req : CliParser.Request) : List Printed × Option State :=
  let nextMsgId := s.nextMsgId + 1
  let request : Request := ⟨.integer nextMsgId, req.method, req.params⟩
  match request.toJson.throughText?.map fun json => TCPServer.received line.env.cast (some json) with
  | some (.entity (some (.request read))) =>
      let (h, mems) := handle texts programs c line s.daemon s.mems read
      match h.answer.bind fun reply => (TCPServer.Message.reply reply).toJson.throughText? with
      | some json =>
          match getAndParseResponse line.env.cast request.id req.method json with
          | .value printed => (printed, some { s with nextMsgId, daemon := h.after, mems })
          | .throws _ | .undefined => ([], none)
      | none => ([], none)
  | _ => ([], none)

/-- One round of the loop in `main`. -/
def session : Responder State Line (List Printed) := fun s line =>
  let (t, parsed) := CliParser.parse (replies texts c line.env s.daemon) s.cache line.text
  let asked := t.events.filterMap CliParser.Event.sent?
  if asked.all (survives texts c line.env s.daemon) then
    let s := { s with cache := t.cache, nextMsgId := s.nextMsgId + BitVec.ofNat 32 asked.length }
    match parsed with
    | .ok .nop => ([], some s)
    | .ok (.print n) => ([.number n], some s)
    | .ok .clearCache => ([], some { s with cache := CliCache.new })
    | .ok (.jsonrpc req) => execute texts programs c line s req
    | .error e => ([], if e.ends then none else some s)
  else ([], none)

end Commands

/-! ## Without a cache -/

section Ideal

variable (names : CliCache.Daemon) (d : Daemon) (c : ClientId)

/-- What is printed of what a request comes to. -/
def said (method : String) : Outcome Exception Response → Option Printed
  | .value r => some (.result method r.result.finite.reread)
  | .throws (.request e) => some (.error (BitVec.ofInt 32 e.error.code) e.error.message)
  | .throws _ | .undefined => none

/-- The request of a line for a register. -/
def visit (line : Line) (method : RegisterMethod) (params : Parameter) : RegisterService.Visit :=
  ⟨line.env, line.hostId, line.garbage, c, .null, method, params⟩

/-- Each line is as the first one of a session, with the registers as numbers. -/
def ideal : Responder RegisterService.Files Line (List Printed) := fun files line =>
  let (t, parsed) := CliParser.parse names CliCache.new line.text
  if t.lookups.all (·.query.isInside) then
    match parsed with
    | .ok .nop | .ok .clearCache => ([], some files)
    | .ok (.print n) => ([.number n], some files)
    | .ok (.jsonrpc req) =>
        match RegisterMethod.ofName? req.method with
        | some method =>
            let (outcome, files) := files.answer d (visit c line method req.params)
            ((said req.method outcome).toList, (said req.method outcome).map fun _ => files)
        | none => ([], some files)
    | .error e => ([], if e.ends then none else some files)
  else ([], none)

end Ideal

end H9cli

end H9d
