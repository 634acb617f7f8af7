import H9d.Core.CString
import H9d.Model.FrameJson

/-! # Reading and writing JSON-RPC objects

The library turns a JSON value into the object it is, or throws. Both ends of a connection use it: the
daemon reads requests and writes responses, a client the other way round.
-/

namespace H9d.Jsonrpcpp

open Nlohmann

/-- A string that is handed over as `const char*`. -/
def cStr (s : String) : String := String.ofList (s.toList.takeWhile (· ≠ Cxx.nul))

/-- The class `Error`, with whatever data an error of the peer carries. -/
structure ErrorObject where
  message : String
  code : BitVec 32
  data : Json
  deriving Inhabited

/-- An error that the daemon made. -/
def Error.object (e : Error) : ErrorObject := ⟨e.message, BitVec.ofInt 32 e.code, e.data.elim .null .string⟩

/-- The class `Response`; `error` is `none` for a null error. -/
structure ResponseObject where
  id : Id
  result : Json
  error : Option ErrorObject
  deriving Inhabited

def Response.object (r : Response) : ResponseObject := ⟨r.id, r.result, none⟩

/-- An object behind an `entity_ptr`. -/
inductive EntityPtr
  | request (request : Request)
  | notification (notification : Notification)
  | response (response : ResponseObject)
  | error (error : ErrorObject)
  | exception (e : RequestException)
  | batch (entities : List EntityPtr)

/-- The exceptions of the library. -/
inductive RpcException
  | text (what : String)
  | request (e : RequestException)

def RpcException.what : RpcException → String
  | text what => what
  | request e => e.error.message

def rpcException (text : String) : RpcException := .text (cStr text)

def invalidRequestException (data : String) (id : Id) : RequestException :=
  ⟨⟨"Invalid request", -32600, some (cStr data)⟩, id⟩

def internalErrorException (data : String) (id : Id) : RequestException :=
  ⟨⟨"Internal error", -32603, some (cStr data)⟩, id⟩

section Reading

/-- `if (json.count(…) == 0) throw …`, and then the member. -/
def orThrow {ε α : Type} (member : Option α) (e : ε) : Except ε α :=
  match member with
  | some value => .ok value
  | none => .error e

/-- `if (!…) throw …`. -/
def ensure {ε : Type} (p : Prop) [Decidable p] (e : ε) : Except ε Unit := if p then .ok () else .error e

def Id.parseJson : Json → Except String Id
  | .null => .ok .null
  | .numberInteger i => .ok (.integer (i.setWidth 32))
  | .numberUnsigned n => .ok (.integer (n.setWidth 32))
  | .string s => .ok (.string s)
  | .boolean _ | .numberFloat _ | .array _ | .object _ => .error "id must be integer, string or null"

def Parameter.parseJson : Json → Except AccessError Parameter
  | .array paramArray => .ok (.array paramArray)
  | .object paramMap => .ok (.map paramMap)
  | j => .error (j.mustBe "object")

/-- The member `params` of a request or a notification; there need not be one. -/
def Parameter.parseMember (json : Json) : Except AccessError Parameter :=
  match json.members.lookup "params" with
  | some params => Parameter.parseJson params
  | none => .ok .null

def isString : Json → Bool
  | .string _ => true
  | _ => false

def Request.parseJson (json : Json) : Except RequestException Request := do
  let idMember ← orThrow (json.members.lookup "id") (invalidRequestException "id is missing" .null)
  let id ← (Id.parseJson idMember).mapError fun what => invalidRequestException what .null
  let version ← orThrow (json.members.lookup "jsonrpc") (invalidRequestException "jsonrpc is missing" id)
  let jsonrpc ← version.getString.mapError fun e => internalErrorException e.what id
  ensure (jsonrpc = "2.0") (invalidRequestException ("invalid jsonrpc value: " ++ jsonrpc) id)
  let member ← orThrow (json.members.lookup "method") (invalidRequestException "method is missing" id)
  ensure (isString member) (invalidRequestException "method must be a string value" id)
  let method ← member.getString.mapError fun e => internalErrorException e.what id
  ensure (method ≠ "") (invalidRequestException "method must not be empty" id)
  let params ← (Parameter.parseMember json).mapError fun e => internalErrorException e.what id
  return ⟨id, method, params⟩

def Notification.parseJson (json : Json) : Except RpcException Notification := do
  let version ← orThrow (json.members.lookup "jsonrpc") (rpcException "jsonrpc is missing")
  let jsonrpc ← version.getString.mapError fun e => rpcException e.what
  ensure (jsonrpc = "2.0") (rpcException ("invalid jsonrpc value: " ++ jsonrpc))
  let member ← orThrow (json.members.lookup "method") (rpcException "method is missing")
  ensure (isString member) (rpcException "method must be a string value")
  let method ← member.getString.mapError fun e => rpcException e.what
  ensure (method ≠ "") (rpcException "method must not be empty")
  let params ← (Parameter.parseMember json).mapError fun e => rpcException e.what
  return ⟨method, params⟩

variable (cast : FloatCast)

def ErrorObject.parseJson (json : Json) : Except RpcException ErrorObject := do
  let codeMember ← orThrow (json.members.lookup "code") (rpcException "code is missing")
  let code ← (Json.getNumber cast 32 codeMember).mapError fun e => rpcException e.what
  let messageMember ← orThrow (json.members.lookup "message") (rpcException "message is missing")
  let message ← messageMember.getString.mapError fun e => rpcException e.what
  return ⟨message, code, (json.members.lookup "data").getD .null⟩

/-- The constructor of `Error`; null stands for an internal error. -/
def ErrorObject.ofJson : Json → Except RpcException ErrorObject
  | .null => .ok ⟨"Internal error", -32603, .null⟩
  | json => ErrorObject.parseJson cast json

def ResponseObject.parseJson (json : Json) : Except RpcException ResponseObject := do
  let version ← orThrow (json.members.lookup "jsonrpc") (rpcException "jsonrpc is missing")
  let jsonrpc ← version.getString.mapError fun e => rpcException e.what
  ensure (jsonrpc = "2.0") (rpcException ("invalid jsonrpc value: " ++ jsonrpc))
  let idMember ← orThrow (json.members.lookup "id") (rpcException "id is missing")
  let id ← (Id.parseJson idMember).mapError rpcException
  match json.members.lookup "result", json.members.lookup "error" with
  | some result, _ => return ⟨id, result, none⟩
  | none, some error => return ⟨id, .null, some (← ErrorObject.ofJson cast error)⟩
  | none, none => .error (rpcException "response must contain result or error")

/-- The branches of `Parser::do_parse_json` for a value that is no array. -/
def parseObject (json : Json) : Except RpcException (Option EntityPtr) :=
  if json.contains "method" ∧ json.contains "id" then
    ((Request.parseJson json).mapError .request).map fun r => some (.request r)
  else if json.contains "method" then (Notification.parseJson json).map fun n => some (.notification n)
  else if (json.contains "result" ∨ json.contains "error") ∧ json.contains "id" then
    (ResponseObject.parseJson cast json).map fun r => some (.response r)
  else .ok none

/-- What `Batch::parse_json` makes of one element. -/
def batchEntity : Except RpcException (Option EntityPtr) → EntityPtr
  | .ok (some entity) => entity
  | .ok none => .error ⟨"Invalid Request", -32600, .null⟩
  | .error (.request e) => .exception e
  | .error (.text what) => .error ⟨what, -32600, .null⟩

mutual

/-- `Parser::do_parse_json`; a null pointer is `none`. An array has no members to look for. -/
def doParseJson : Json → Except RpcException (Option EntityPtr)
  | .array [] => .error (.request ⟨⟨"Invalid request", -32600, none⟩, .null⟩)
  | .array (elem :: elems) => .ok (some (.batch (batchEntity (doParseJson elem) :: doParseElems elems)))
  | .null => parseObject cast .null
  | .boolean b => parseObject cast (.boolean b)
  | .string s => parseObject cast (.string s)
  | .numberInteger i => parseObject cast (.numberInteger i)
  | .numberUnsigned n => parseObject cast (.numberUnsigned n)
  | .numberFloat x => parseObject cast (.numberFloat x)
  | .object members => parseObject cast (.object members)

def doParseElems : List Json → List EntityPtr
  | [] => []
  | elem :: elems => batchEntity (doParseJson elem) :: doParseElems elems

end

end Reading

section Writing

def Id.toJson : Id → Json
  | .null => .null
  | .string s => .string s
  | .integer n => .numberInteger (n.signExtend 64)

/-- The member `params`; null parameters are left out. -/
def Parameter.member : Parameter → List (String × Json)
  | .null => []
  | .array paramArray => [("params", .array paramArray)]
  | .map paramMap => [("params", .object paramMap)]

/-- The member `data` of an error; null data is left out. -/
def dataMember : Json → List (String × Json)
  | .null => []
  | data => [("data", data)]

def ErrorObject.toJson (e : ErrorObject) : Json :=
  .object (("code", .numberInteger (e.code.signExtend 64)) ::
    (dataMember e.data ++ [("message", .string e.message)]))

def Request.toJson (r : Request) : Json :=
  .object ([("id", r.id.toJson), ("jsonrpc", .string "2.0"), ("method", .string r.method)] ++ r.params.member)

def Notification.toJson (n : Notification) : Json :=
  .object ([("jsonrpc", .string "2.0"), ("method", .string n.method)] ++ n.params.member)

def ResponseObject.toJson (r : ResponseObject) : Json :=
  match r.error with
  | some error => .object [("error", error.toJson), ("id", r.id.toJson), ("jsonrpc", .string "2.0")]
  | none => .object [("id", r.id.toJson), ("jsonrpc", .string "2.0"), ("result", r.result)]

def RequestException.toJson (e : RequestException) : Json :=
  .object [("error", e.error.object.toJson), ("id", e.id.toJson), ("jsonrpc", .string "2.0")]

/-- `ParseErrorException(data).to_json()`. -/
def parseErrorJson (data : String) : Json :=
  .object [("error", (ErrorObject.mk "Parse error" (-32700) (.string data)).toJson), ("id", .null),
    ("jsonrpc", .string "2.0")]

mutual

def EntityPtr.toJson : EntityPtr → Json
  | .request r => r.toJson
  | .notification n => n.toJson
  | .response r => r.toJson
  | .error e => e.toJson
  | .exception e => e.toJson
  | .batch [] => .null
  | .batch (entity :: entities) => .array (entity.toJson :: EntityPtr.toJsons entities)

def EntityPtr.toJsons : List EntityPtr → List Json
  | [] => []
  | entity :: entities => entity.toJson :: EntityPtr.toJsons entities

end

end Writing

end H9d.Jsonrpcpp
