import H9d.Soundness.ApiAnswers
import H9d.Soundness.Handlers
import H9d.Soundness.Requests

/-! # One answer for each request

The answer to a request carries its id, whether the handler returned or threw. A single request gets
one message. The loop over a batch collects its answers for one message in the order of the requests,
but it also sends each response by itself, so only a batch without a successful request is answered by
that one message alone.
-/

namespace H9d

open Cxx Nlohmann Jsonrpcpp

namespace API

theorem throws_call (texts : Texts) (env : Env) (me : ClientId) (request : Request) :
    Call.Throws (Exception.IsFor request.id request.params) (call texts env me request) := by
  refine .bind (.read _) fun t => ?_
  split
  · exact .bind (throws_awaited (throws_handler texts env me request.id request.params _)) fun _ => .pure _
  · have message : Utf8.Valid "Method not found" := by decide
    exact .throw ⟨rfl, fun _ => ⟨message, nofun⟩⟩

theorem call_value_id {texts : Texts} {env : Env} {me : ClientId} {request : Request} {d : Daemon}
    {response : Response} (value : (call texts env me request).outcome d = .value response) :
    response.id = request.id := by
  rw [call, Call.read_bind] at value
  split at value
  · obtain ⟨r, -, built⟩ := Call.outcome_bind_eq_value.mp value
    obtain rfl := Outcome.value.inj built
    rfl
  · cases value

end API

namespace Jsonrpcpp

def Entity.request? : Entity → Option Request
  | .request r => some r
  | .batch _ | .other => none

end Jsonrpcpp

namespace TCPServer

open API

def Reply.id : Reply → Id
  | .response r => r.id
  | .error e => e.id

theorem Handled.answered_iff (h : Handled) : h.answer.isSome ↔ h.outcome.Only Exception.IsRequest := by
  rw [answer]
  cases h.outcome with
  | value response => simp
  | throws e => cases e <;> simp [Exception.IsRequest]
  | undefined => simp

section Answers

variable (texts : Texts) (c : ClientId)

theorem answer_id {env : Env} {request : Request} {d : Daemon} {reply : Reply}
    (answer : (record texts c env request d).answer = some reply) : reply.id = request.id := by
  have named := throws_call texts env c request d
  unfold Handled.answer record at answer
  dsimp only at answer
  split at answer
  · next value =>
    cases answer
    exact call_value_id value
  · next throws =>
    cases answer
    exact (named _ throws).1
  · cases answer
  · cases answer

/-- The calls for a batch, each on what the one before left behind. -/
def calls (envs : ℕ → Env) : List Entity → Daemon → List Handled
  | [], _ => []
  | .request request :: rest, d =>
      let h := record texts c (envs 0) request d
      h :: calls (fun n => envs (n + 1)) rest h.after
  | .batch _ :: rest, d | .other :: rest, d => calls envs rest d

/-- Answers carry the ids of the requests they answer. -/
theorem calls_ids {envs : ℕ → Env} {entities : List Entity} {d : Daemon} {replies : List Reply}
    (answers : (calls texts c envs entities d).map Handled.answer = replies.map some) :
    replies.map Reply.id = (entities.filterMap Entity.request?).map Request.id := by
  induction entities generalizing envs d replies with
  | nil =>
    obtain rfl : replies = [] := List.map_eq_nil_iff.mp answers.symm
    rfl
  | cons entity rest ih =>
    cases entity with
    | request request =>
      cases replies with
      | nil => cases answers
      | cons reply replies =>
        obtain ⟨answer, later⟩ := List.cons.inj answers
        exact congrArg₂ List.cons (answer_id texts c answer) (ih later)
    | batch _ => exact ih answers
    | other => exact ih answers

/-- The message with the answers to a batch; nothing is sent for a batch without requests. -/
def collected (replies : List Reply) : List Message :=
  if replies.isEmpty then [] else [.batch replies]

/-- What the loop over a batch sends, of which an uncaught exception cuts off the rest. -/
def emitted : List Handled → List Reply → List Message
  | [], responseBatch => collected responseBatch
  | h :: rest, responseBatch =>
      match h.answer with
      | some (.response response) =>
          .reply (.response response) :: emitted rest (responseBatch ++ [.response response])
      | some (.error e) => emitted rest (responseBatch ++ [.error e])
      | none => []

theorem recvBatch_sent (envs : ℕ → Env) (entities : List Entity) (responseBatch : List Reply) (s : State) :
    (recvBatch texts c envs entities responseBatch s).sent =
      s.sent ++ (emitted (calls texts c envs entities s.daemon) responseBatch).map (c, ·) := by
  induction entities generalizing envs responseBatch s with
  | nil =>
    rw [recvBatch, calls, emitted, collected]
    split
    · exact (List.append_nil _).symm
    · rfl
  | cons entity rest ih =>
    cases entity with
    | request request =>
      rw [recvBatch, execute, calls, emitted]
      cases answer : (record texts c (envs 0) request s.daemon).answer with
      | none => exact (List.append_nil _).symm
      | some reply =>
        cases reply with
        | response response =>
          exact (ih _ _ _).trans (List.append_assoc _ [_] _)
        | error e => exact ih _ _ _
    | batch _ => exact ih envs responseBatch s
    | other => exact ih envs responseBatch s

/-- The request ended with an error for its client. -/
def Handled.Failed (h : Handled) : Prop := ∃ e, h.answer = some (.error e)

theorem Handled.failed_iff {h : Handled} : h.Failed ↔ ∃ e, h.outcome = .throws (.request e) := by
  rw [Failed, answer]
  split <;> simp_all

/-- Without a response the loop sends its answers in one message. -/
theorem emitted_failed {hs : List Handled} (failed : ∀ h ∈ hs, h.Failed) (responseBatch : List Reply) :
    ∃ replies, hs.map Handled.answer = replies.map some ∧
      emitted hs responseBatch = collected (responseBatch ++ replies) := by
  induction hs generalizing responseBatch with
  | nil => exact ⟨[], rfl, by rw [List.append_nil, emitted]⟩
  | cons h rest ih =>
    obtain ⟨⟨e, answer⟩, later⟩ := List.forall_mem_cons.mp failed
    obtain ⟨replies, answers, sent⟩ := ih later (responseBatch ++ [.error e])
    refine ⟨.error e :: replies, congrArg₂ List.cons answer answers, ?_⟩
    rw [emitted, answer]
    exact sent.trans (by rw [List.append_assoc, List.singleton_append])

/-- A response is sent by itself. -/
theorem failed_of_emitted {hs : List Handled} {replies responseBatch sent : List Reply}
    (answers : hs.map Handled.answer = replies.map some)
    (together : emitted hs responseBatch = collected sent) : ∀ h ∈ hs, h.Failed := by
  induction hs generalizing replies responseBatch with
  | nil => exact fun _ member => absurd member List.not_mem_nil
  | cons h rest ih =>
    cases replies with
    | nil => cases answers
    | cons reply replies =>
      obtain ⟨answer, later⟩ := List.cons.inj answers
      rw [emitted, answer] at together
      cases reply with
      | response response =>
        change Message.reply _ :: _ = collected sent at together
        rw [collected] at together
        split at together <;> cases together
      | error e => exact List.forall_mem_cons.mpr ⟨⟨e, answer⟩, ih later together⟩

/-- One message with the answer to the request, under its id. -/
def AnsweredAlone (envs : ℕ → Env) (request : Request) (s : State) : Prop :=
  ∃ reply, (record texts c (envs 0) request s.daemon).answer = some reply ∧ reply.id = request.id ∧
    (threadRecvMsg texts c envs (.entity (some (.request request))) s).sent =
      s.sent ++ [(c, .reply reply)]

/-- One message with one answer for each request of the batch, in order and under its id. -/
def AnsweredTogether (envs : ℕ → Env) (entities : List Entity) (s : State) : Prop :=
  ∃ replies, (calls texts c envs entities s.daemon).map Handled.answer = replies.map some ∧
    replies.map Reply.id = (entities.filterMap Entity.request?).map Request.id ∧
    (threadRecvMsg texts c envs (.entity (some (.batch entities))) s).sent =
      s.sent ++ (collected replies).map (c, ·)

theorem answeredAlone_iff (envs : ℕ → Env) (request : Request) (s : State) :
    AnsweredAlone texts c envs request s ↔
      ((call texts (envs 0) c request).outcome s.daemon).Only Exception.IsRequest := by
  have answered := (record texts c (envs 0) request s.daemon).answered_iff
  change _ ↔ ((call texts (envs 0) c request).outcome s.daemon).Only Exception.IsRequest at answered
  rw [← answered, Option.isSome_iff_exists]
  constructor
  · rintro ⟨reply, answer, -⟩
    exact ⟨reply, answer⟩
  · rintro ⟨reply, answer⟩
    refine ⟨reply, answer, answer_id texts c answer, ?_⟩
    rw [threadRecvMsg, recvRequest, execute, answer]
    rfl

theorem answeredTogether_iff (envs : ℕ → Env) (entities : List Entity) (s : State) :
    AnsweredTogether texts c envs entities s ↔
      ∀ h ∈ calls texts c envs entities s.daemon, h.Failed := by
  have sent := recvBatch_sent texts c envs entities [] s
  constructor
  · rintro ⟨replies, answers, -, together⟩
    have same : emitted (calls texts c envs entities s.daemon) [] = collected replies :=
      List.map_injective_iff.mpr (Prod.mk_right_injective c) (List.append_cancel_left (sent.symm.trans together))
    exact failed_of_emitted answers same
  · intro failed
    obtain ⟨replies, answers, together⟩ := emitted_failed failed []
    exact ⟨replies, answers, calls_ids texts c answers, by rw [threadRecvMsg, sent, together]; rfl⟩

/-- A single request is answered once, under its id, if its call ends with a response or an error for
the client; a batch is answered by one message with one answer a request if each of its requests ends
with an error, and by more if one succeeds. -/
theorem requests_answered_once (envs : ℕ → Env) (s : State) :
    (∀ request, AnsweredAlone texts c envs request s ↔
      ((call texts (envs 0) c request).outcome s.daemon).Only Exception.IsRequest) ∧
    ∀ entities, AnsweredTogether texts c envs entities s ↔
      ∀ h ∈ calls texts c envs entities s.daemon, ∃ e, h.outcome = .throws (.request e) := by
  refine ⟨fun request => answeredAlone_iff texts c envs request s, fun entities => ?_⟩
  simp only [answeredTogether_iff, Handled.failed_iff]

end Answers

/-- A batch with one request for the version. -/
def versionBatch : List Entity := [.request ⟨.integer 1, "get_version", .null⟩]

/-- The state of a server whose first client has authenticated. -/
def authenticated : State := { initial with daemon := firstClient }

/-- The response to the only request of a batch is sent twice. -/
theorem response_sent_twice :
    (∃ response : Response,
      (threadRecvMsg default 0 (fun _ => default) (.entity (some (.batch versionBatch))) authenticated).sent =
        [(0, .reply (.response response)), (0, .batch [.response response])]) ∧
      ¬AnsweredTogether default 0 (fun _ => default) versionBatch authenticated := by
  refine ⟨⟨_, rfl⟩, fun once => ?_⟩
  obtain ⟨e, refused⟩ :=
    (answeredTogether_iff default 0 (fun _ => default) versionBatch authenticated).mp once _
      (List.mem_singleton_self _)
  cases refused

end TCPServer

end H9d
