import H9d.Core.JsonText
import H9d.Model.JsonrpcParser

/-! # What the JSON-RPC parser accepts

The parser looks at a few members of an object and takes an array for a batch. What it accepts is exactly
what these members say, and it does not see whether an integer was built or read from a text.
-/

namespace H9d.Jsonrpcpp

open Nlohmann

/-! ## Texts

The parser does not see whether an integer was read from a text. -/

section Texts

def Parameter.reread : Parameter → Parameter
  | .null => .null
  | .array paramArray => .array (Json.rereadElems paramArray)
  | .map paramMap => .map (Json.rereadMembers paramMap)

def Request.reread (r : Request) : Request := { r with params := r.params.reread }

def Notification.reread (n : Notification) : Notification := { n with params := n.params.reread }

def ErrorObject.reread (e : ErrorObject) : ErrorObject := { e with data := e.data.reread }

def ResponseObject.reread (r : ResponseObject) : ResponseObject :=
  { r with result := r.result.reread, error := r.error.map ErrorObject.reread }

mutual

def EntityPtr.reread : EntityPtr → EntityPtr
  | .request r => .request r.reread
  | .notification n => .notification n.reread
  | .response r => .response r.reread
  | .error e => .error e.reread
  | .exception e => .exception e
  | .batch entities => .batch (EntityPtr.rereadAll entities)

def EntityPtr.rereadAll : List EntityPtr → List EntityPtr
  | [] => []
  | entity :: entities => entity.reread :: EntityPtr.rereadAll entities

end

variable {ε α β : Type}

theorem orThrow_map (member : Option α) (f : α → β) (e : ε) :
    orThrow (member.map f) e = f <$> orThrow member e := by
  cases member <;> rfl

theorem mapError_map {ε' : Type} (x : Except ε α) (f : α → β) (g : ε → ε') :
    (f <$> x).mapError g = f <$> x.mapError g := by
  cases x <;> rfl

@[simp] theorem isString_reread (j : Json) : isString j.reread = isString j := by
  cases j with
  | numberInteger i => exact Json.apply_reread_numberInteger isString i rfl
  | _ => rfl

@[simp] theorem contains_reread (j : Json) (key : String) : j.reread.contains key = j.contains key := by
  simp only [Json.contains, Json.lookup_reread, Option.isSome_map]

@[simp] theorem Id.parseJson_reread (j : Json) : Id.parseJson j.reread = Id.parseJson j := by
  cases j with
  | numberInteger i => exact Json.apply_reread_numberInteger Id.parseJson i rfl
  | _ => rfl

theorem Parameter.parseJson_reread (j : Json) :
    Parameter.parseJson j.reread = Parameter.reread <$> Parameter.parseJson j := by
  cases j with
  | numberInteger i => exact Json.apply_reread_numberInteger Parameter.parseJson i rfl
  | _ => rfl

theorem Parameter.parseMember_reread (j : Json) :
    Parameter.parseMember j.reread = Parameter.reread <$> Parameter.parseMember j := by
  rw [parseMember, parseMember, Json.lookup_reread]
  cases j.members.lookup "params" with
  | none => rfl
  | some params => exact Parameter.parseJson_reread params

theorem Request.parseJson_reread (j : Json) :
    Request.parseJson j.reread = Request.reread <$> Request.parseJson j := by
  simp only [Request.parseJson, Json.lookup_reread, orThrow_map, bind_map_left, map_bind,
    Id.parseJson_reread, Json.getString_reread, isString_reread, Parameter.parseMember_reread,
    mapError_map, map_pure]
  rfl

theorem Notification.parseJson_reread (j : Json) :
    Notification.parseJson j.reread = Notification.reread <$> Notification.parseJson j := by
  simp only [Notification.parseJson, Json.lookup_reread, orThrow_map, bind_map_left, map_bind,
    Json.getString_reread, isString_reread, Parameter.parseMember_reread, mapError_map, map_pure]
  rfl

variable (cast : FloatCast)

theorem ErrorObject.parseJson_reread (j : Json) :
    ErrorObject.parseJson cast j.reread = ErrorObject.reread <$> ErrorObject.parseJson cast j := by
  have data : ((j.members.lookup "data").map Json.reread).getD .null =
      ((j.members.lookup "data").getD .null).reread := by
    cases j.members.lookup "data" <;> rfl
  simp only [ErrorObject.parseJson, Json.lookup_reread, orThrow_map, bind_map_left, map_bind,
    Json.getString_reread, Json.getNumber_reread, data, map_pure]
  rfl

theorem ErrorObject.ofJson_reread (j : Json) :
    ErrorObject.ofJson cast j.reread = ErrorObject.reread <$> ErrorObject.ofJson cast j := by
  cases j with
  | null => rfl
  | numberInteger i => exact Json.apply_reread_numberInteger (ErrorObject.ofJson cast) i rfl
  | boolean | string | numberUnsigned | numberFloat => rfl
  | array elems => exact ErrorObject.parseJson_reread cast (.array elems)
  | object members => exact ErrorObject.parseJson_reread cast (.object members)

theorem ResponseObject.parseJson_reread (j : Json) :
    ResponseObject.parseJson cast j.reread = ResponseObject.reread <$> ResponseObject.parseJson cast j := by
  simp only [ResponseObject.parseJson, Json.lookup_reread, orThrow_map, bind_map_left, map_bind,
    Json.getString_reread, Id.parseJson_reread]
  cases j.members.lookup "result" with
  | some result => rfl
  | none =>
    cases j.members.lookup "error" with
    | none => rfl
    | some error =>
      simp only [Option.map_some, Option.map_none, ErrorObject.ofJson_reread, bind_map_left, map_bind,
        map_pure]
      rfl

theorem parseObject_reread (j : Json) :
    parseObject cast j.reread = Option.map EntityPtr.reread <$> parseObject cast j := by
  simp only [parseObject, contains_reread, Request.parseJson_reread, Notification.parseJson_reread,
    ResponseObject.parseJson_reread]
  split_ifs
  · cases Request.parseJson j <;> rfl
  · cases Notification.parseJson j <;> rfl
  · cases ResponseObject.parseJson cast j <;> rfl
  · rfl

theorem batchEntity_reread (x : Except RpcException (Option EntityPtr)) :
    batchEntity (Option.map EntityPtr.reread <$> x) = (batchEntity x).reread := by
  cases x with
  | ok entity => cases entity <;> rfl
  | error e => cases e <;> rfl

mutual

/-- Whether a value was built or read from a text, the same object is read from it. -/
theorem doParseJson_reread : (j : Json) →
    doParseJson cast j.reread = Option.map EntityPtr.reread <$> doParseJson cast j
  | .array [] => rfl
  | .array (elem :: elems) => by
    rw [Json.reread, Json.rereadElems, doParseJson, doParseJson, doParseJson_reread elem,
      doParseElems_reread elems, batchEntity_reread]
    rfl
  | .numberInteger i => Json.apply_reread_numberInteger (doParseJson cast) i rfl
  | .null | .boolean _ | .string _ | .numberUnsigned _ | .numberFloat _ => rfl
  | .object members => parseObject_reread cast (.object members)

theorem doParseElems_reread : (elems : List Json) →
    doParseElems cast (Json.rereadElems elems) = EntityPtr.rereadAll (doParseElems cast elems)
  | [] => rfl
  | elem :: elems => by
    rw [Json.rereadElems, doParseElems, doParseElems, doParseJson_reread elem, doParseElems_reread elems,
      batchEntity_reread]
    rfl

end

end Texts

/-! ## What is accepted -/

section Accepted

variable (cast : FloatCast)

inductive IsId : Json → Id → Prop
  | null : IsId .null .null
  | string (s : String) : IsId (.string s) (.string s)
  | signed (i : BitVec 64) : IsId (.numberInteger i) (.integer (i.setWidth 32))
  | unsigned (n : BitVec 64) : IsId (.numberUnsigned n) (.integer (n.setWidth 32))

/-- The member `params`; null is neither missing nor one of the two kinds. -/
inductive IsParams : Option Json → Parameter → Prop
  | missing : IsParams none .null
  | array (paramArray : List Json) : IsParams (some (.array paramArray)) (.array paramArray)
  | map (paramMap : List (String × Json)) : IsParams (some (.object paramMap)) (.map paramMap)

/-- What a request and a notification have in common. -/
structure IsCall (j : Json) (name : String) (params : Parameter) : Prop where
  version : j.members.lookup "jsonrpc" = some (.string "2.0")
  method : j.members.lookup "method" = some (.string name)
  named : name ≠ ""
  params : IsParams (j.members.lookup "params") params

def HasId (j : Json) (id : Id) : Prop := ∃ value, j.members.lookup "id" = some value ∧ IsId value id

structure IsRequest (j : Json) (r : Request) : Prop where
  call : IsCall j r.method r.params
  id : HasId j r.id

structure IsNotification (j : Json) (n : Notification) : Prop where
  call : IsCall j n.method n.params
  noId : j.members.lookup "id" = none

structure IsError (j : Json) (e : ErrorObject) : Prop where
  code : ∃ value, j.members.lookup "code" = some value ∧ Json.getNumber cast 32 value = .ok e.code
  message : j.members.lookup "message" = some (.string e.message)
  data : e.data = (j.members.lookup "data").getD .null

/-- The member `error`; null is read as an internal error. -/
def IsErrorMember (j : Json) (e : ErrorObject) : Prop :=
  j = .null ∧ e = ⟨"Internal error", -32603, .null⟩ ∨ IsError cast j e

/-- What a response says; a result makes the parser ignore an error. -/
def Answers (j : Json) (result : Json) : Option ErrorObject → Prop
  | none => j.members.lookup "result" = some result
  | some e => j.members.lookup "result" = none ∧ result = .null ∧
      ∃ value, j.members.lookup "error" = some value ∧ IsErrorMember cast value e

structure IsResponse (j : Json) (r : ResponseObject) : Prop where
  version : j.members.lookup "jsonrpc" = some (.string "2.0")
  id : HasId j r.id
  answer : Answers cast j r.result r.error
  noMethod : j.members.lookup "method" = none

variable {ε α : Type}

@[simp] theorem orThrow_eq_ok {member : Option α} {e : ε} {a : α} : orThrow member e = .ok a ↔ member = some a := by
  cases member <;> simp [orThrow]

@[simp] theorem mapError_eq_ok {ε' : Type} {x : Except ε α} {f : ε → ε'} {a : α} :
    x.mapError f = .ok a ↔ x = .ok a := by
  cases x <;> simp [Except.mapError]

@[simp] theorem ensure_eq_ok {p : Prop} [Decidable p] {e : ε} {u : Unit} : ensure p e = .ok u ↔ p := by
  rw [ensure]
  split
  · next holds => simp [holds]
  · next fails => simp [fails]

@[simp] theorem getString_eq_ok {j : Json} {s : String} : j.getString = .ok s ↔ j = .string s := by
  cases j <;> simp [Json.getString]

theorem isString_iff {j : Json} : isString j = true ↔ ∃ s, j = .string s := by
  cases j <;> simp [isString]

theorem Id.parseJson_eq_ok {j : Json} {id : Id} : Id.parseJson j = .ok id ↔ IsId j id := by
  constructor
  · intro read
    cases j with
    | null => cases read; exact .null
    | string s => cases read; exact .string s
    | numberInteger i => cases read; exact .signed i
    | numberUnsigned n => cases read; exact .unsigned n
    | boolean | numberFloat | array | object => cases read
  · rintro (_ | _ | _ | _) <;> rfl

theorem Parameter.parseMember_eq_ok {j : Json} {params : Parameter} :
    Parameter.parseMember j = .ok params ↔ IsParams (j.members.lookup "params") params := by
  rw [parseMember]
  cases j.members.lookup "params" with
  | none =>
    constructor
    · rintro ⟨⟩
      exact .missing
    · rintro ⟨⟩
      rfl
  | some value =>
    dsimp only
    constructor
    · intro read
      cases value with
      | array paramArray => cases read; exact .array paramArray
      | object paramMap => cases read; exact .map paramMap
      | null | boolean | string | numberInteger | numberUnsigned | numberFloat => cases read
    · rintro (_ | _ | _) <;> rfl

theorem Request.parseJson_eq_ok {j : Json} {r : Request} : Request.parseJson j = .ok r ↔ IsRequest j r := by
  simp only [parseJson, bind_eq_ok, orThrow_eq_ok, mapError_eq_ok, ensure_eq_ok, getString_eq_ok,
    Id.parseJson_eq_ok, Parameter.parseMember_eq_ok, isString_iff, ne_eq]
  constructor
  · rintro ⟨value, found, id, isId, _, version, _, rfl, _, rfl, _, method, _, -, _, rfl, _, named, params,
      isParams, ⟨⟩⟩
    exact ⟨⟨version, method, named, isParams⟩, value, found, isId⟩
  · rintro ⟨⟨version, method, named, isParams⟩, value, found, isId⟩
    exact ⟨value, found, r.id, isId, _, version, "2.0", rfl, (), rfl, _, method, (), ⟨r.method, rfl⟩, r.method, rfl,
      (), named, r.params, isParams, rfl⟩

theorem Notification.parseJson_eq_ok {j : Json} {n : Notification} :
    Notification.parseJson j = .ok n ↔ IsCall j n.method n.params := by
  simp only [parseJson, bind_eq_ok, orThrow_eq_ok, mapError_eq_ok, ensure_eq_ok, getString_eq_ok,
    Parameter.parseMember_eq_ok, isString_iff, ne_eq]
  constructor
  · rintro ⟨_, version, _, rfl, _, rfl, _, method, _, -, _, rfl, _, named, params, isParams, ⟨⟩⟩
    exact ⟨version, method, named, isParams⟩
  · rintro ⟨version, method, named, isParams⟩
    exact ⟨_, version, "2.0", rfl, (), rfl, _, method, (), ⟨n.method, rfl⟩, n.method, rfl, (), named, n.params,
      isParams, rfl⟩

theorem ErrorObject.parseJson_eq_ok {j : Json} {e : ErrorObject} :
    ErrorObject.parseJson cast j = .ok e ↔ IsError cast j e := by
  simp only [parseJson, bind_eq_ok, orThrow_eq_ok, mapError_eq_ok, getString_eq_ok]
  constructor
  · rintro ⟨value, found, code, number, _, message, _, rfl, ⟨⟩⟩
    exact ⟨⟨value, found, number⟩, message, rfl⟩
  · rintro ⟨⟨value, found, number⟩, message, data⟩
    refine ⟨value, found, e.code, number, _, message, e.message, rfl, ?_⟩
    rw [← data]
    rfl

theorem ErrorObject.ofJson_eq_ok {j : Json} {e : ErrorObject} :
    ErrorObject.ofJson cast j = .ok e ↔ IsErrorMember cast j e := by
  have null : ¬IsError cast .null e := by
    rintro ⟨⟨value, found, -⟩, -, -⟩
    cases found
  rw [IsErrorMember, ← ErrorObject.parseJson_eq_ok]
  cases j with
  | null =>
    rw [ErrorObject.parseJson_eq_ok]
    simp only [ofJson, null, or_false, true_and, Except.ok.injEq]
    exact eq_comm
  | boolean | string | numberInteger | numberUnsigned | numberFloat | array | object =>
    simp only [ofJson, reduceCtorEq, false_and, false_or]

theorem ResponseObject.parseJson_eq_ok {j : Json} {r : ResponseObject}
    (noMethod : j.members.lookup "method" = none) :
    ResponseObject.parseJson cast j = .ok r ↔ IsResponse cast j r := by
  simp only [parseJson, bind_eq_ok, orThrow_eq_ok, mapError_eq_ok, ensure_eq_ok, getString_eq_ok,
    Id.parseJson_eq_ok]
  constructor
  · rintro ⟨_, version, _, rfl, _, rfl, value, found, id, isId, answer⟩
    split at answer
    · next result _ given =>
      cases answer
      exact ⟨version, ⟨value, found, isId⟩, given, noMethod⟩
    · next error missing given =>
      obtain ⟨e, isError, ⟨⟩⟩ := bind_eq_ok.mp answer
      exact ⟨version, ⟨value, found, isId⟩,
        ⟨missing, rfl, error, given, (ErrorObject.ofJson_eq_ok cast).mp isError⟩, noMethod⟩
    · cases answer
  · rintro ⟨version, ⟨value, found, isId⟩, answer, -⟩
    refine ⟨_, version, "2.0", rfl, (), rfl, value, found, r.id, isId, ?_⟩
    obtain ⟨id, result, error⟩ := r
    cases error with
    | none =>
      change j.members.lookup "result" = some result at answer
      rw [answer]
      rfl
    | some e =>
      obtain ⟨missing, rfl, member, given, isError⟩ := answer
      rw [missing, given]
      exact bind_eq_ok.mpr ⟨e, (ErrorObject.ofJson_eq_ok cast).mpr isError, rfl⟩

theorem contains_iff {j : Json} {key : String} : j.contains key = true ↔ j.members.lookup key ≠ none := by
  rw [Json.contains, Option.isSome_iff_ne_none]

theorem IsRequest.parseObject {j : Json} {r : Request} (isRequest : IsRequest j r) :
    parseObject cast j = .ok (some (.request r)) := by
  obtain ⟨value, found, -⟩ := isRequest.id
  have method : j.contains "method" = true := by simp [contains_iff, isRequest.call.method]
  have id : j.contains "id" = true := by simp [contains_iff, found]
  rw [Jsonrpcpp.parseObject, if_pos ⟨method, id⟩, Request.parseJson_eq_ok.mpr isRequest]
  rfl

theorem IsNotification.parseObject {j : Json} {n : Notification} (isNotification : IsNotification j n) :
    parseObject cast j = .ok (some (.notification n)) := by
  have method : j.contains "method" = true := by simp [contains_iff, isNotification.call.method]
  have id : ¬j.contains "id" = true := by simp [contains_iff, isNotification.noId]
  rw [Jsonrpcpp.parseObject, if_neg (fun both => id both.2), if_pos method,
    Notification.parseJson_eq_ok.mpr isNotification.call]
  rfl

theorem IsResponse.parseObject {j : Json} {r : ResponseObject} (isResponse : IsResponse cast j r) :
    parseObject cast j = .ok (some (.response r)) := by
  obtain ⟨value, found, -⟩ := isResponse.id
  have method : ¬j.contains "method" = true := by simp [contains_iff, isResponse.noMethod]
  have id : j.contains "id" = true := by simp [contains_iff, found]
  have answer : j.contains "result" = true ∨ j.contains "error" = true := by
    have answers := isResponse.answer
    cases error : r.error with
    | none =>
      rw [error] at answers
      exact .inl (by simp [contains_iff, show j.members.lookup "result" = some r.result from answers])
    | some e =>
      rw [error] at answers
      obtain ⟨-, -, member, given, -⟩ := answers
      exact .inr (by simp [contains_iff, given])
  rw [Jsonrpcpp.parseObject, if_neg (fun both => method both.1), if_neg method, if_pos ⟨answer, id⟩,
    (ResponseObject.parseJson_eq_ok cast isResponse.noMethod).mpr isResponse]
  rfl

/-- Nothing that the parser looks at. -/
structure IsOther (j : Json) : Prop where
  noMethod : j.members.lookup "method" = none
  noAnswer : j.members.lookup "id" = none ∨
    j.members.lookup "result" = none ∧ j.members.lookup "error" = none

/-- What the parser accepts of a value that is no array. -/
inductive Accepts (j : Json) : Option EntityPtr → Prop
  | request {r : Request} : IsRequest j r → Accepts j (some (.request r))
  | notification {n : Notification} : IsNotification j n → Accepts j (some (.notification n))
  | response {r : ResponseObject} : IsResponse cast j r → Accepts j (some (.response r))
  | other : IsOther j → Accepts j none

theorem parseObject_accepts {j : Json} {entity : Option EntityPtr} (read : parseObject cast j = .ok entity) :
    Accepts cast j entity := by
  rw [parseObject] at read
  split at read
  · cases request : Request.parseJson j with
    | error e => rw [request] at read; cases read
    | ok r =>
      rw [request] at read
      cases read
      exact .request (Request.parseJson_eq_ok.mp request)
  · next notRequest =>
    split at read
    · next method =>
      have noId : j.members.lookup "id" = none := by
        by_contra id
        exact notRequest ⟨method, contains_iff.mpr id⟩
      cases notification : Notification.parseJson j with
      | error e => rw [notification] at read; cases read
      | ok n =>
        rw [notification] at read
        cases read
        exact .notification ⟨Notification.parseJson_eq_ok.mp notification, noId⟩
    · next method =>
      have noMethod : j.members.lookup "method" = none :=
        not_not.mp fun present => method (contains_iff.mpr present)
      split at read
      · cases response : ResponseObject.parseJson cast j with
        | error e => rw [response] at read; cases read
        | ok r =>
          rw [response] at read
          cases read
          exact .response ((ResponseObject.parseJson_eq_ok cast noMethod).mp response)
      · next noAnswer =>
        cases read
        refine .other ⟨noMethod, ?_⟩
        simp only [contains_iff] at noAnswer
        tauto

theorem parseObject_eq_ok {j : Json} {entity : Option EntityPtr} :
    parseObject cast j = .ok entity ↔ Accepts cast j entity := by
  constructor
  · exact parseObject_accepts cast
  · rintro (isRequest | isNotification | isResponse | isOther)
    · exact isRequest.parseObject cast
    · exact isNotification.parseObject cast
    · exact isResponse.parseObject cast
    · simp only [parseObject, contains_iff, isOther.noMethod, ne_eq, not_true_eq_false, false_and, if_false]
      apply if_neg
      have noAnswer := isOther.noAnswer
      tauto

/-- What the parser makes of the elements of an array, one by one. -/
theorem doParseElems_eq (elems : List Json) :
    doParseElems cast elems = elems.map fun elem => batchEntity (doParseJson cast elem) := by
  induction elems with
  | nil => rfl
  | cons elem elems ih => simp only [doParseElems, ih, List.map_cons]

/-- Every value that is no array is read by the branches for objects. -/
theorem doParseJson_of_not_array {j : Json} (object : ∀ elems, j ≠ .array elems) :
    doParseJson cast j = parseObject cast j := by
  cases j with
  | array elems => exact absurd rfl (object elems)
  | null | boolean | string | numberInteger | numberUnsigned | numberFloat | object => rfl

/-- An object is accepted exactly if it is a request, a notification, a response or nothing that the parser
looks at; an array is accepted exactly if it is not empty, and each element on its own. -/
theorem doParseJson_eq_ok_iff {j : Json} {entity : Option EntityPtr} :
    doParseJson cast j = .ok entity ↔
      ((∀ elems, j ≠ .array elems) ∧ Accepts cast j entity) ∨
        ∃ elems, j = .array elems ∧ elems ≠ [] ∧
          entity = some (.batch (elems.map fun elem => batchEntity (doParseJson cast elem))) := by
  by_cases array : ∃ elems, j = .array elems
  · obtain ⟨elems, rfl⟩ := array
    cases elems with
    | nil => simp [doParseJson]
    | cons elem elems =>
      simp only [doParseJson, doParseElems_eq, Except.ok.injEq, Json.array.injEq, ne_eq, exists_eq_left',
        List.map_cons, reduceCtorEq, not_false_eq_true, true_and, forall_eq', false_and, false_or]
      exact eq_comm
  · have object : ∀ elems, j ≠ .array elems := fun elems same => array ⟨elems, same⟩
    rw [doParseJson_of_not_array cast object, parseObject_eq_ok]
    constructor
    · intro accepts
      exact .inl ⟨object, accepts⟩
    · rintro (⟨-, accepts⟩ | ⟨elems, same, -⟩)
      · exact accepts
      · exact absurd same (object elems)

end Accepted

end H9d.Jsonrpcpp
