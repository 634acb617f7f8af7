import H9d.Soundness.JsonrpcParser

/-! # JSON-RPC objects on the wire

What one end writes is what the other end reads, through the text of a JSON value and through batches
in batches. An error on its own is no message, and an exception is read as the response that it stands for.
-/

namespace H9d.Jsonrpcpp

open Nlohmann

variable (cast : FloatCast)

/-- An `int` as a JSON number, and back. -/
@[simp] theorem setWidth_signExtend (n : BitVec 32) : (n.signExtend 64).setWidth 32 = n := by
  apply BitVec.eq_of_getLsbD_eq
  intro i inside
  simp only [BitVec.getLsbD_setWidth, BitVec.getLsbD_signExtend, inside, decide_true, Bool.true_and, if_true,
    show i < 64 from by omega]

@[simp] theorem Id.parseJson_toJson (id : Id) : Id.parseJson id.toJson = .ok id := by
  cases id with
  | null => rfl
  | string s => rfl
  | integer n =>
    simp only [Id.toJson, Id.parseJson, setWidth_signExtend]

theorem isId_toJson (id : Id) : IsId id.toJson id := Id.parseJson_eq_ok.mp (Id.parseJson_toJson id)

theorem isParams_member (params : Parameter) : IsParams (params.member.lookup "params") params := by
  cases params with
  | null => exact .missing
  | array paramArray => exact .array paramArray
  | map paramMap => exact .map paramMap

theorem lookup_of_append {before after : List (String × Json)} {key : String} (others : before.lookup key = none) :
    (before ++ after).lookup key = after.lookup key := by
  rw [List.lookup_append, others, Option.none_or]

theorem isCall_toJson (r : Request) (named : r.method ≠ "") : IsCall r.toJson r.method r.params where
  version := rfl
  method := rfl
  named := named
  params := by
    have others : r.toJson.members.lookup "params" = r.params.member.lookup "params" := lookup_of_append rfl
    rw [others]
    exact isParams_member r.params

theorem isRequest_toJson (r : Request) (named : r.method ≠ "") : IsRequest r.toJson r :=
  ⟨isCall_toJson r named, r.id.toJson, rfl, isId_toJson r.id⟩

theorem isNotification_toJson (n : Notification) (named : n.method ≠ "") : IsNotification n.toJson n where
  call.version := rfl
  call.method := rfl
  call.named := named
  call.params := by
    have others : n.toJson.members.lookup "params" = n.params.member.lookup "params" := lookup_of_append rfl
    rw [others]
    exact isParams_member n.params
  noId := by
    have others : n.toJson.members.lookup "id" = n.params.member.lookup "id" := lookup_of_append rfl
    rw [others]
    cases n.params <;> rfl

theorem isError_toJson (e : ErrorObject) : IsError cast e.toJson e where
  code := ⟨_, rfl, congrArg Except.ok (setWidth_signExtend e.code)⟩
  message := by
    obtain ⟨message, code, data⟩ := e
    cases data <;> rfl
  data := by
    obtain ⟨message, code, data⟩ := e
    cases data <;> rfl

/-- A response without a result where it has an error. -/
def ResponseObject.said (r : ResponseObject) : ResponseObject :=
  match r.error with
  | some _ => { r with result := .null }
  | none => r

theorem isResponse_toJson (r : ResponseObject) : IsResponse cast r.toJson r.said := by
  obtain ⟨id, result, error⟩ := r
  cases error with
  | none => exact ⟨rfl, ⟨_, rfl, isId_toJson id⟩, rfl, rfl⟩
  | some e => exact ⟨rfl, ⟨_, rfl, isId_toJson id⟩, ⟨rfl, rfl, _, rfl, .inr (isError_toJson cast e)⟩, rfl⟩

/-- The response that an exception stands for. -/
def RequestException.response (e : RequestException) : ResponseObject := ⟨e.id, .null, some e.error.object⟩

theorem isOther_error (e : ErrorObject) : IsOther e.toJson := by
  obtain ⟨message, code, data⟩ := e
  cases data <;> exact ⟨rfl, .inl rfl⟩

mutual

/-- What the peer reads of an object. -/
def EntityPtr.read : EntityPtr → Option EntityPtr
  | .request r => some (.request r)
  | .notification n => some (.notification n)
  | .response r => some (.response r.said)
  | .error _ => none
  | .exception e => some (.response e.response)
  | .batch entities => some (.batch (EntityPtr.readAll entities))

/-- An error among the elements of a batch says nothing to the peer but that something was there. -/
def EntityPtr.readAll : List EntityPtr → List EntityPtr
  | [] => []
  | entity :: entities => entity.read.getD (.error ⟨"Invalid Request", -32600, .null⟩) :: EntityPtr.readAll entities

end

mutual

/-- Requests and notifications have a name, and batches are not empty. -/
def EntityPtr.Sendable : EntityPtr → Prop
  | .request r => r.method ≠ ""
  | .notification n => n.method ≠ ""
  | .response _ | .error _ | .exception _ => True
  | .batch entities => entities ≠ [] ∧ EntityPtr.AllSendable entities

def EntityPtr.AllSendable : List EntityPtr → Prop
  | [] => True
  | entity :: entities => entity.Sendable ∧ EntityPtr.AllSendable entities

end

theorem doParseJson_object {members : List (String × Json)} {entity : Option EntityPtr}
    (accepts : Accepts cast (.object members) entity) : doParseJson cast (.object members) = .ok entity :=
  (parseObject_eq_ok cast).mpr accepts

theorem batchEntity_ok (entity : Option EntityPtr) :
    batchEntity (.ok entity) = entity.getD (.error ⟨"Invalid Request", -32600, .null⟩) := by
  cases entity <;> rfl

theorem doParseJson_response (r : ResponseObject) : doParseJson cast r.toJson = .ok (some (.response r.said)) := by
  have accepts : Accepts cast r.toJson (some (.response r.said)) := .response (isResponse_toJson cast r)
  obtain ⟨id, result, error⟩ := r
  cases error <;> exact doParseJson_object cast accepts

mutual

theorem doParseJson_toJson : (entity : EntityPtr) → entity.Sendable →
    doParseJson cast entity.toJson = .ok entity.read
  | .request r, named => doParseJson_object cast (.request (isRequest_toJson r named))
  | .notification n, named => doParseJson_object cast (.notification (isNotification_toJson n named))
  | .response r, _ => doParseJson_response cast r
  | .error e, _ => doParseJson_object cast (.other (isOther_error e))
  | .exception e, _ => doParseJson_response cast e.response
  | .batch [], sendable => absurd rfl sendable.1
  | .batch (entity :: entities), sendable => by
    obtain ⟨-, first, later⟩ := sendable
    rw [EntityPtr.toJson, doParseJson, doParseJson_toJson entity first, doParseElems_toJsons entities later,
      batchEntity_ok]
    rfl

theorem doParseElems_toJsons : (entities : List EntityPtr) → EntityPtr.AllSendable entities →
    doParseElems cast (EntityPtr.toJsons entities) = EntityPtr.readAll entities
  | [], _ => rfl
  | entity :: entities, sendable => by
    obtain ⟨first, later⟩ := sendable
    rw [EntityPtr.toJsons, doParseElems, doParseJson_toJson entity first, doParseElems_toJsons entities later,
      batchEntity_ok]
    rfl

end

section Utf8

open Json

variable {members : List (String × Json)}

/-- The keys of the objects are plain. -/
theorem utf8_keys {key : String} (plain : Utf8.Plain key.toList) (value : Json) :
    AreUtf8 ((key, value) :: members) ↔ value.IsUtf8 ∧ AreUtf8 members := by
  rw [areUtf8_cons, and_iff_right plain.valid]

@[simp] theorem Id.isUtf8_integer (n : BitVec 32) : (Id.integer n).toJson.IsUtf8 := nofun

@[simp] theorem Id.isUtf8_null : Id.null.toJson.IsUtf8 := nofun

/-- The values that a call is given can be written. -/
def Parameter.IsUtf8 : Parameter → Prop
  | .null => True
  | .array paramArray => ∀ elem ∈ paramArray, elem.IsUtf8
  | .map paramMap => AreUtf8 paramMap

theorem Parameter.isUtf8_member (params : Parameter) : AreUtf8 params.member ↔ params.IsUtf8 := by
  have plain : Utf8.Plain "params".toList := by decide
  cases params with
  | null => exact iff_of_true nofun trivial
  | array paramArray =>
    simp only [Parameter.member, Parameter.IsUtf8, utf8_keys plain, isUtf8_array, areUtf8_nil, and_true]
  | map paramMap =>
    simp only [Parameter.member, Parameter.IsUtf8, utf8_keys plain, isUtf8_object, areUtf8_nil, and_true]

theorem Request.isUtf8_toJson (r : Request) :
    r.toJson.IsUtf8 ↔ r.id.toJson.IsUtf8 ∧ Utf8.Valid r.method ∧ r.params.IsUtf8 := by
  have version : Utf8.Valid "2.0" := by decide
  rw [Request.toJson, isUtf8_object, areUtf8_append, utf8_keys (by decide), utf8_keys (by decide),
    utf8_keys (by decide), isUtf8_string, isUtf8_string, Parameter.isUtf8_member]
  simp only [version, areUtf8_nil, true_and, and_true, and_assoc]

theorem ErrorObject.isUtf8_toJson (e : ErrorObject) :
    e.toJson.IsUtf8 ↔ e.data.IsUtf8 ∧ Utf8.Valid e.message := by
  have data : AreUtf8 (dataMember e.data) ↔ e.data.IsUtf8 := by
    have plain : Utf8.Plain "data".toList := by decide
    cases e.data with
    | null => exact iff_of_true nofun nofun
    | _ => simp only [dataMember, utf8_keys plain, areUtf8_nil, and_true]
  rw [ErrorObject.toJson, isUtf8_object, utf8_keys (by decide), areUtf8_append, utf8_keys (by decide), data,
    isUtf8_string]
  simp only [isUtf8_numberInteger, areUtf8_nil, true_and, and_true]

/-- A response shows its error if it has one, and its result otherwise. -/
theorem ResponseObject.isUtf8_toJson (r : ResponseObject) : r.toJson.IsUtf8 ↔ r.id.toJson.IsUtf8 ∧
    match r.error with
    | some e => e.toJson.IsUtf8
    | none => r.result.IsUtf8 := by
  have version : Utf8.Valid "2.0" := by decide
  obtain ⟨id, result, error⟩ := r
  cases error <;>
    · dsimp only [ResponseObject.toJson]
      rw [isUtf8_object, utf8_keys (by decide), utf8_keys (by decide), utf8_keys (by decide), isUtf8_string]
      simp only [version, areUtf8_nil, true_and, and_true, and_comm]

theorem RequestException.isUtf8_toJson (e : RequestException) :
    e.toJson.IsUtf8 ↔ e.id.toJson.IsUtf8 ∧ e.error.object.toJson.IsUtf8 :=
  ResponseObject.isUtf8_toJson e.response

theorem EntityPtr.isUtf8_toJsons (entities : List EntityPtr) :
    (∀ j ∈ EntityPtr.toJsons entities, j.IsUtf8) ↔ ∀ entity ∈ entities, entity.toJson.IsUtf8 := by
  induction entities with
  | nil => exact iff_of_true nofun nofun
  | cons entity entities ih => rw [EntityPtr.toJsons, List.forall_mem_cons, ih, List.forall_mem_cons]

theorem EntityPtr.isUtf8_batch (entities : List EntityPtr) :
    (EntityPtr.batch entities).toJson.IsUtf8 ↔ ∀ entity ∈ entities, entity.toJson.IsUtf8 := by
  rw [← EntityPtr.isUtf8_toJsons]
  cases entities with
  | nil => exact iff_of_true nofun nofun
  | cons entity entities => exact isUtf8_array _

end Utf8

/-- Whatever one end sends through the text of a JSON value, the other end reads: requests, notifications and
responses as they are, an exception as its response, and a batch element by element. -/
theorem entity_survives_wire (entity : EntityPtr) (sendable : entity.Sendable) (isText : entity.toJson.IsText) :
    ∃ json, entity.toJson.throughText? = some json ∧
      doParseJson cast json = .ok (entity.read.map EntityPtr.reread) := by
  refine ⟨_, Json.throughText?_of_isText isText, ?_⟩
  rw [doParseJson_reread, doParseJson_toJson cast entity sendable]
  rfl

theorem entity_survives_wire_batch : ∃ json, (EntityPtr.batch
    [.request ⟨.integer 7, "node_reset", .map [("node_id", .numberInteger 3)]⟩,
      .exception ⟨⟨"Method not found", -32601, none⟩, .string "a"⟩]).toJson.throughText? = some json ∧
    doParseJson default json = .ok (some (.batch
    [.request ⟨.integer 7, "node_reset", .map [("node_id", .numberUnsigned 3)]⟩,
      .response ⟨.string "a", .null, some ⟨"Method not found", -32601, .null⟩⟩])) :=
  entity_survives_wire default _ ⟨List.cons_ne_nil _ _, (by decide : "node_reset" ≠ ""), trivial, trivial⟩
    ⟨(EntityPtr.isUtf8_batch _).mpr (by
      rw [List.forall_mem_cons, List.forall_mem_singleton]
      exact ⟨(Request.isUtf8_toJson _).mpr ⟨nofun, by decide, (Json.areUtf8_cons ..).mpr ⟨by decide, nofun⟩⟩,
        (RequestException.isUtf8_toJson _).mpr ⟨by decide, (ErrorObject.isUtf8_toJson _).mpr (by decide)⟩⟩), nofun⟩

end H9d.Jsonrpcpp
