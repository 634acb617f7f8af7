import H9d.Soundness.BatchAnswers
import H9d.Soundness.BusWaits
import H9d.Soundness.ResultTexts

/-! # Which requests leave the thread running

The thread of a client catches one kind of exception around a call. After the answer it writes a line to the
log, and the writer is strict about UTF-8. The texts of errors are UTF-8, so that an answer ends the thread
exactly if it is a result with a text that is not.
-/

namespace H9d.TCPServer

open Cxx Nlohmann Jsonrpcpp API

section Thread

variable (texts : Texts) (c : ClientId) (env : Env) (request : Request) {s : State} {d : Daemon}

/-- A single request keeps the thread if there is an answer, and it is UTF-8. -/
theorem recvRequest_goesOn (alive : s.terminated = false) :
    (recvRequest texts c env request s).terminated = false ↔
      ∃ reply, (record texts c env request s.daemon).answer = some reply ∧ reply.entity.toJson.IsUtf8 := by
  rw [recvRequest, execute]
  cases answered : (record texts c env request s.daemon).answer with
  | none => simp [alive]
  | some reply => simp [alive, Reply.isWritten, State.send]

theorem response_isUtf8 (r : Response) :
    (Reply.response r).entity.toJson.IsUtf8 ↔ r.id.toJson.IsUtf8 ∧ r.result.IsUtf8 :=
  ResponseObject.isUtf8_toJson r.object

theorem error_isUtf8 {e : RequestException} (id : e.id.toJson.IsUtf8) (error : e.error.IsUtf8) :
    (Reply.error e).entity.toJson.IsUtf8 := by
  refine (RequestException.isUtf8_toJson e).mpr ⟨id, (ErrorObject.isUtf8_toJson _).mpr ⟨?_, error.1⟩⟩
  rw [Error.object]
  cases given : e.error.data with
  | none => exact Json.isUtf8_null
  | some data => exact (Json.isUtf8_string data).mpr (error.2 data given)

/-- A call that ends gives what its handler gives. -/
theorem call_gives {P : Exception → Prop} {method : Method}
    (passed : admitted (d.clients c).authenticated request = some method)
    (ends : ((call texts env c request).outcome d).Only P) :
    ((call texts env c request).outcome d).Gives (fun r => r.result.IsUtf8) ↔
      ((method.handler texts env c request.id request.params).outcome d).Gives Json.IsUtf8 := by
  rw [call, Call.read_bind, passed] at ends ⊢
  dsimp only at ends ⊢
  replace ends := (Call.only_bind.mp ends).1
  rw [Call.outcome, awaited] at ends
  rw [Call.gives_bind_pure, Call.outcome, awaited]
  split at ends
  · exact absurd ends Outcome.not_only_undefined
  · next goes => rw [if_neg goes, Call.outcome]

/-- The answer to a request that is answered is UTF-8 exactly if its method speaks UTF-8. -/
theorem answer_isUtf8 (isUtf8 : request.toJson.IsUtf8)
    (answers : Answers request.id (RaisesIn env c request d) ((call texts env c request).outcome d)) :
    (∃ reply, (record texts c env request d).answer = some reply ∧ reply.entity.toJson.IsUtf8) ↔
      ∀ method, admitted (d.clients c).authenticated request = some method →
        method.Speaks texts env request.params d := by
  obtain ⟨id, -, params⟩ := (Request.isUtf8_toJson request).mp isUtf8
  have speaks : (∀ method, admitted (d.clients c).authenticated request = some method →
      method.Speaks texts env request.params d) ↔
      ((call texts env c request).outcome d).Gives fun r => r.result.IsUtf8 := by
    cases passed : admitted (d.clients c).authenticated request with
    | none =>
      rw [call, Call.read_bind, passed]
      refine iff_of_true ?_ (Outcome.gives_throws _)
      rintro _ ⟨⟩
    | some method =>
      have serves := (call_answers texts env c request d).mp answers method passed
      simp only [Option.some.injEq, forall_eq']
      rw [call_gives texts c env request passed answers.1]
      exact (handler_gives texts env c request.id request.params d serves.1).symm
  rw [speaks, Handled.answer, record]
  dsimp only
  cases outcome : (call texts env c request).outcome d with
  | value r =>
    have named := call_value_id outcome
    rw [Outcome.gives_value]
    simp only [Option.some.injEq, exists_eq_left', response_isUtf8, named]
    exact and_iff_right id
  | throws e =>
    have thrown := throws_call texts env c request d e outcome
    have caught := answers.1
    rw [outcome] at caught
    cases e with
    | request e =>
      refine iff_of_true ⟨_, rfl, error_isUtf8 ?_ (thrown.2 params)⟩ (Outcome.gives_throws _)
      rw [thrown.1]
      exact id
    | devNode e => exact caught.elim
    | access a => exact caught.elim
  | undefined =>
    have ends := answers.1
    rw [outcome] at ends
    exact absurd ends Outcome.not_only_undefined

end Thread

/-- The call of a client is answered, with the exceptions of the nodes turned into errors, and its thread goes
on, exactly if the method, where there is one that the client may call, serves the request, does not wait for
a bus that is silent, and speaks UTF-8. -/
theorem thread_answers (texts : Texts) (c : ClientId) (env : Env) (request : Request) (s : State)
    (alive : s.terminated = false) (isUtf8 : request.toJson.IsUtf8) :
    Answers request.id (RaisesIn env c request s.daemon) ((call texts env c request).outcome s.daemon) ∧
        (threadRecvMsg texts c (fun _ => env) (.entity (some (.request request))) s).terminated = false ↔
      ∀ method, admitted (s.daemon.clients c).authenticated request = some method →
        method.Serves env c request.params s.daemon ∧
          (env.stalled = true → method.Quiet env request.params s.daemon) ∧
          method.Speaks texts env request.params s.daemon := by
  change _ ∧ (recvRequest texts c env request s).terminated = false ↔ _
  rw [recvRequest_goesOn texts c env request alive]
  constructor
  · rintro ⟨answers, written⟩ method passed
    obtain ⟨serves, quiet⟩ := (call_answers texts env c request s.daemon).mp answers method passed
    exact ⟨serves, quiet, (answer_isUtf8 texts c env request isUtf8 answers).mp written method passed⟩
  · intro all
    have answers := (call_answers texts env c request s.daemon).mpr fun method passed =>
      ⟨(all method passed).1, (all method passed).2.1⟩
    exact ⟨answers, (answer_isUtf8 texts c env request isUtf8 answers).mpr fun method passed =>
      (all method passed).2.2⟩

/-- The server with a client that has authenticated. -/
def serving : State := { initial with daemon := firstClient }

def methodsListRequest : Request := ⟨.integer 1, "get_methods_list", .null⟩

theorem methodsList_answered :
    Answers methodsListRequest.id (RaisesIn default 0 methodsListRequest serving.daemon)
        ((call default default 0 methodsListRequest).outcome serving.daemon) ∧
      (threadRecvMsg default 0 (fun _ => default) (.entity (some (.request methodsListRequest))) serving).terminated =
        false :=
  (thread_answers default 0 default methodsListRequest serving rfl
    ((Request.isUtf8_toJson _).mpr ⟨Id.isUtf8_integer 1, by decide, trivial⟩)).mpr (by
      rintro method passed
      obtain rfl : Method.getMethodsList = method := Option.some.inj passed
      exact ⟨trivial, fun _ => trivial, trivial⟩)

/-- Asked about a node that nobody has seen, `get_node_info` lets the exception of the manager pass, and the
thread does not catch it. -/
theorem unknown_node_escapes :
    (call default default 0 nodeInfoRequest).outcome serving.daemon =
        .throws (.devNode .nodeNotExistException) ∧
      (threadRecvMsg default 0 (fun _ => default) (.entity (some (.request nodeInfoRequest))) serving).terminated =
        true ∧
      ¬Answers nodeInfoRequest.id (RaisesIn default 0 nodeInfoRequest serving.daemon)
        ((call default default 0 nodeInfoRequest).outcome serving.daemon) := by
  have escapes : (call default default 0 nodeInfoRequest).outcome serving.daemon =
      .throws (.devNode .nodeNotExistException) := rfl
  refine ⟨escapes, rfl, fun answers => ?_⟩
  rw [escapes] at answers
  exact answers.1

end H9d.TCPServer
