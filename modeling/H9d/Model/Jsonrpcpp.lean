import H9d.Core.Json

/-! # JSON-RPC objects

The requests, responses and exceptions of the JSON-RPC library, as the daemon builds and reads them.
-/

namespace H9d.Jsonrpcpp

open Nlohmann

inductive Id
  | null
  | string (s : String)
  | integer (n : BitVec 32)
  deriving DecidableEq, Repr, Inhabited

inductive Parameter
  | null
  | array (paramArray : List Json)
  | map (paramMap : List (String × Json))
  deriving Inhabited

/-- The member `param_map`; it is empty unless the parameters are a map. -/
def Parameter.paramMap : Parameter → List (String × Json)
  | map paramMap => paramMap
  | null | array _ => []

/-- `params.param_map.at(key).get<…>()`. -/
def Parameter.getAt {α : Type} (params : Parameter) (key : String)
    (get : Json → Except AccessError α) : Except AccessError α := do
  get (← atKey params.paramMap key)

structure Error where
  message : String
  code : ℤ
  data : Option String
  deriving DecidableEq, Repr

structure Request where
  id : Id
  method : String
  params : Parameter
  deriving Inhabited

structure RequestException where
  error : Error
  id : Id
  deriving DecidableEq, Repr

def methodNotFoundException (id : Id) : RequestException := ⟨⟨"Method not found", -32601, none⟩, id⟩

def invalidParamsException (data : String) (id : Id) : RequestException :=
  ⟨⟨"Invalid params", -32602, some data⟩, id⟩

structure Response where
  id : Id
  result : Json
  deriving Inhabited

/-- What the parser makes of a message. Objects of the remaining kinds are not told apart: none of
them is ever answered, alone or in a batch. -/
inductive Entity
  | request (request : Request)
  | batch (entities : List Entity)
  | other

end H9d.Jsonrpcpp
