import H9d.Model.H9Connector
import H9d.Soundness.Authentication
import H9d.Soundness.BatchAnswers
import H9d.Soundness.JsonrpcCodec

/-! # What a client reads

Each message of the daemon is a response or a batch of responses, and where its strings are UTF-8, the
client's connector reads it as such: it throws nothing and gets no null pointer. A number that is not finite
is read as null.
-/

namespace H9d

open Cxx Nlohmann Jsonrpcpp Machine API

namespace Jsonrpcpp

/-- The responses that an object carries. -/
def EntityPtr.responses : EntityPtr → List ResponseObject
  | .response r => [r]
  | .batch entities => entities.filterMap fun
      | .response r => some r
      | .request _ | .notification _ | .error _ | .exception _ | .batch _ => none
  | .request _ | .notification _ | .error _ | .exception _ => []

theorem EntityPtr.readAll_eq (entities : List EntityPtr) : EntityPtr.readAll entities =
    entities.map fun entity => entity.read.getD (.error ⟨"Invalid Request", -32600, .null⟩) := by
  induction entities with
  | nil => rfl
  | cons entity entities ih => rw [EntityPtr.readAll, ih, List.map_cons]

theorem EntityPtr.rereadAll_eq (entities : List EntityPtr) :
    EntityPtr.rereadAll entities = entities.map EntityPtr.reread := by
  induction entities with
  | nil => rfl
  | cons entity entities ih => rw [EntityPtr.rereadAll, ih, List.map_cons]

theorem EntityPtr.allSendable_iff (entities : List EntityPtr) :
    EntityPtr.AllSendable entities ↔ ∀ entity ∈ entities, entity.Sendable := by
  induction entities with
  | nil => simp [EntityPtr.AllSendable]
  | cons entity entities ih => rw [EntityPtr.AllSendable, ih, List.forall_mem_cons]

end Jsonrpcpp

namespace TCPServer

/-- An answer as its text says it: an error has no number that is not finite. -/
def Reply.finite : Reply → Reply
  | .response r => .response { r with result := r.result.finite }
  | .error e => .error e

/-- An answer, as the client reads it. -/
def Reply.said : Reply → ResponseObject
  | .response r => { r.object with result := r.result.finite }.reread
  | .error e => e.response.reread

def Message.finite : Message → Message
  | .reply answer => .reply answer.finite
  | .batch entities => .batch (entities.map Reply.finite)
  | .parseError data => .parseError data

/-- A message, as the client reads it. -/
def Message.read : Message → EntityPtr
  | .reply answer => .response answer.said
  | .batch entities => .batch (entities.map fun answer => .response answer.said)
  | .parseError data => .response ⟨.null, .null, some ⟨"Parse error", -32700, .string data⟩⟩

@[simp] theorem Reply.said_id (reply : Reply) : reply.said.id = reply.id := by
  cases reply <;> rfl

theorem Reply.sendable (reply : Reply) : reply.entity.Sendable := by
  cases reply <;> trivial

@[simp] theorem Reply.read_entity (reply : Reply) :
    reply.finite.entity.read.map EntityPtr.reread = some (.response reply.said) := by
  cases reply <;> rfl

theorem Reply.toJson_finite (reply : Reply) : reply.entity.toJson.finite = reply.finite.entity.toJson := by
  cases reply with
  | response r =>
    obtain ⟨id, result⟩ := r
    cases id <;> rfl
  | error e =>
    obtain ⟨⟨message, code, data⟩, id⟩ := e
    cases id <;> cases data <;> rfl

theorem Message.toJson_finite (msg : Message) : msg.toJson.finite = msg.finite.toJson := by
  cases msg with
  | reply answer => exact answer.toJson_finite
  | parseError data => rfl
  | batch entities =>
    have elements (entities : List Reply) : Json.finiteElems (EntityPtr.toJsons (entities.map Reply.entity)) =
        EntityPtr.toJsons ((entities.map Reply.finite).map Reply.entity) := by
      induction entities with
      | nil => rfl
      | cons reply entities ih =>
        rw [List.map_cons, List.map_cons, List.map_cons, EntityPtr.toJsons, EntityPtr.toJsons, Json.finiteElems, ih,
          reply.toJson_finite]
    cases entities with
    | nil => rfl
    | cons reply entities => exact congrArg Json.array (elements (reply :: entities))

theorem Message.read_responses (msg : Message) {reply : Reply} (carried : reply ∈ msg.replies) :
    reply.said ∈ msg.read.responses := by
  cases msg with
  | reply answer =>
    obtain rfl := List.mem_singleton.mp carried
    exact List.mem_singleton_self _
  | batch entities =>
    apply List.mem_filterMap.mpr
    exact ⟨_, List.mem_map_of_mem carried, rfl⟩
  | parseError data => exact absurd carried List.not_mem_nil

variable (cast : FloatCast)

/-- The parser reads every message that the loops over requests and batches send. -/
theorem Message.doParseJson_toJson (msg : Message) (nonempty : ∀ entities, msg = .batch entities → entities ≠ []) :
    doParseJson cast msg.toJson.finite.reread = .ok (some msg.read) := by
  rw [msg.toJson_finite, doParseJson_reread]
  cases msg with
  | reply answer =>
    refine (congrArg (Except.map _) (Jsonrpcpp.doParseJson_toJson cast _ answer.finite.sendable)).trans ?_
    exact congrArg Except.ok answer.read_entity
  | batch entities =>
    let answers := (entities.map Reply.finite).map Reply.entity
    have some : answers ≠ [] := by
      rw [ne_eq, List.map_eq_nil_iff, List.map_eq_nil_iff]
      exact nonempty entities rfl
    have sendable : (EntityPtr.batch answers).Sendable :=
      ⟨some, (EntityPtr.allSendable_iff _).mpr (List.forall_mem_map.mpr fun reply _ => reply.sendable)⟩
    refine (congrArg (Except.map _) (Jsonrpcpp.doParseJson_toJson cast _ sendable)).trans ?_
    refine congrArg (fun all => Except.ok (Option.some (EntityPtr.batch all))) ?_
    rw [EntityPtr.readAll_eq, EntityPtr.rereadAll_eq, List.map_map, List.map_map, List.map_map]
    apply List.map_congr_left
    intro reply _
    cases reply <;> rfl
  | parseError data =>
    exact congrArg (Except.map _)
      (doParseJson_response cast ⟨.null, .null, some ⟨"Parse error", -32700, .string data⟩⟩)

/-- No batch is empty, and answers name their requests. -/
structure Spoken (s : State) : Prop where
  batches : ∀ c entities, (c, Message.batch entities) ∈ s.sent → entities ≠ []
  named : ∀ h ∈ s.handled, ∀ reply, h.answer = some reply → reply.id = h.request.id
  answered : s.terminated = false → ∀ h ∈ s.handled, h.answer.isSome = true

theorem Spoken.send {s : State} (spoken : Spoken s) (c : ClientId) {msg : Message}
    (nonempty : ∀ entities, msg = .batch entities → entities ≠ []) : Spoken (s.send c msg) := by
  refine ⟨fun receiver entities sent => ?_, spoken.named, spoken.answered⟩
  rcases List.mem_append.mp sent with before | now
  · exact spoken.batches receiver entities before
  · exact nonempty entities (Prod.mk.inj (List.mem_singleton.mp now)).2.symm

/-- What is no batch. -/
theorem Spoken.sendSingle {s : State} (spoken : Spoken s) (c : ClientId) {msg : Message}
    (single : ∀ entities, msg ≠ .batch entities) : Spoken (s.send c msg) :=
  spoken.send c fun entities same => absurd same (single entities)

theorem Spoken.execute {s : State} (spoken : Spoken s) (texts : Texts) (c : ClientId) (env : Env)
    (request : Request) : Spoken (execute texts c env request s).1 := by
  refine ⟨spoken.batches, fun h member reply answer => ?_, fun alive h member => ?_⟩
  · rcases List.mem_append.mp member with old | new
    · exact spoken.named h old reply answer
    · obtain rfl := List.mem_singleton.mp new
      exact answer_id texts c answer
  · obtain ⟨before, some⟩ := Bool.or_eq_false_iff.mp alive
    rcases List.mem_append.mp member with old | new
    · exact spoken.answered before h old
    · obtain rfl := List.mem_singleton.mp new
      exact Option.isNone_eq_false_iff.mp some

theorem Spoken.recvBatch (texts : Texts) (c : ClientId) (envs : ℕ → Env) (entities : List Entity)
    (replies : List Reply) {s : State} (spoken : Spoken s) :
    Spoken (recvBatch texts c envs entities replies s) := by
  induction entities generalizing envs replies s with
  | nil =>
    rw [TCPServer.recvBatch]
    split
    · exact spoken
    · next some =>
      apply spoken.send
      rintro _ ⟨rfl⟩
      exact fun empty => some (List.isEmpty_iff.mpr empty)
  | cons entity rest ih =>
    cases entity with
    | request request =>
      have next := spoken.execute texts c (envs 0) request
      rw [TCPServer.recvBatch]
      generalize TCPServer.execute texts c (envs 0) request s = result at next ⊢
      obtain ⟨t, reply⟩ := result
      cases reply with
      | none => exact next
      | some reply =>
        cases reply with
        | response response => exact ih _ _ (next.sendSingle c fun _ same => by cases same)
        | error e => exact ih _ _ next
    | batch _ => exact ih envs replies spoken
    | other => exact ih envs replies spoken

theorem Spoken.message (texts : Texts) (c : ClientId) (envs : ℕ → Env) (received : Received) {s : State}
    (spoken : Spoken s) : Spoken (threadRecvMsg texts c envs received s) := by
  cases received with
  | closed => exact ⟨spoken.batches, spoken.named, spoken.answered⟩
  | failed => exact ⟨spoken.batches, spoken.named, fun alive => by cases alive⟩
  | discarded | rpcException what => exact spoken.sendSingle c fun _ same => by cases same
  | entity msg =>
    cases msg with
    | none => exact spoken.sendSingle c fun _ same => by cases same
    | some msg =>
      cases msg with
      | request request =>
        have next := spoken.execute texts c (envs 0) request
        change Spoken (recvRequest texts c (envs 0) request s)
        rw [recvRequest]
        generalize TCPServer.execute texts c (envs 0) request s = result at next ⊢
        obtain ⟨t, reply⟩ := result
        cases reply with
        | none => exact next
        | some reply =>
          have single (entities : List Reply) : Message.reply reply ≠ .batch entities := by rintro ⟨⟩
          obtain ⟨batches, named, answered⟩ := next.sendSingle c single
          exact ⟨batches, named, fun alive => answered (Bool.or_eq_false_iff.mp alive).1⟩
      | batch entities => exact spoken.recvBatch texts c envs entities []
      | other => exact spoken.sendSingle c fun _ same => by cases same

theorem Spoken.step (texts : Texts) {s t : State} {e : Event} (spoken : Spoken s)
    (step : (machine texts).step? s e = some t) : Spoken t := by
  obtain ⟨-, step⟩ := Option.ite_none_left_eq_some.mp step
  cases e with
  | accept me peer memory =>
    obtain ⟨-, ⟨⟩⟩ := Option.ite_none_right_eq_some.mp step
    exact ⟨spoken.batches, spoken.named, spoken.answered⟩
  | message me envs received =>
    obtain ⟨-, ⟨⟩⟩ := Option.ite_none_right_eq_some.mp step
    exact spoken.message texts me envs received
  | elsewhere nodeMgr port counterMap =>
    obtain rfl := Option.some.inj step
    exact ⟨spoken.batches, spoken.named, spoken.answered⟩

theorem reachable_spoken {texts : Texts} {s : State} (reachable : (machine texts).Reachable s) : Spoken s := by
  apply reachable.invariant Spoken
  · intro s ⟨_, _, _, nothing, idle⟩
    refine ⟨fun c entities sent => ?_, fun h member => ?_, fun _ h member => ?_⟩
    · rw [nothing] at sent
      cases sent
    · rw [idle] at member
      cases member
    · rw [idle] at member
      cases member
  · exact fun _ _ _ spoken step => spoken.step texts step

/-- Every message that the daemon has sent, if its strings are UTF-8, is read by the connector of its client as
what it is, and every request that a living daemon has handled has come back to its client as a response with
the request's id and with what the call gave. -/
theorem answers_understood {texts : Texts} {s : State} (reachable : (machine texts).Reachable s) :
    (∀ c msg, (c, msg) ∈ s.sent → ∀ json, msg.toJson.throughText? = some json →
      H9Connector.recv cast (some json) = .value (some msg.read)) ∧
    (s.terminated = false → ∀ h ∈ s.handled, ∃ reply msg, h.answer = some reply ∧ (h.client, msg) ∈ s.sent ∧
      reply.said ∈ msg.read.responses ∧ reply.said.id = h.request.id) := by
  have spoken := reachable_spoken reachable
  refine ⟨fun c msg sent json written => ?_, fun alive h handled => ?_⟩
  · obtain ⟨-, rfl⟩ := Json.throughText?_eq_some.mp written
    have parsed := msg.doParseJson_toJson cast fun entities same => spoken.batches c entities (same ▸ sent)
    simp only [H9Connector.recv, parsed]
  · obtain ⟨reply, answer⟩ := Option.isSome_iff_exists.mp (spoken.answered alive h handled)
    have delivered := (reachable_delivered reachable).resolve_left (Bool.eq_false_iff.mp alive)
    obtain ⟨msg, sent, carried⟩ := delivered h handled reply answer
    refine ⟨reply, msg, answer, sent, msg.read_responses carried, ?_⟩
    rw [Reply.said_id]
    exact spoken.named h handled reply answer

/-- A request before authentication. -/
theorem answers_understood_refused :
    let s := asksVersion default 0 default (initial.accept 0 default false)
    ∃ (reply : Reply) (msg : Message), (0, msg) ∈ s.sent ∧ reply.said ∈ msg.read.responses ∧
      reply.said.id = .null := by
  intro s
  have run : (machine default).run? initial [.accept 0 default false,
      .message 0 (fun _ => default) (.entity (some (.request versionRequest)))] = some s := by
    rw [LabeledMachine.run?_cons_eq_some]
    exact ⟨_, step_accept_initial 0 default false,
      run_asksVersion default default Bool.false_ne_true 0 default false⟩
  have handled : record default 0 default versionRequest _ ∈ s.handled :=
    (recvRequest_handled default 0 default versionRequest _) ▸ List.mem_append_right _ (List.mem_singleton_self _)
  have reachable : (machine default).Reachable s := ⟨initial, _, start_initial, run⟩
  obtain ⟨-, answered⟩ := @answers_understood default default s reachable
  obtain ⟨reply, msg, -, sent, said, id⟩ := answered rfl _ handled
  exact ⟨reply, msg, sent, said, id⟩

end TCPServer

end H9d
