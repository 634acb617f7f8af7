import H9d.Model.TCPServer

/-! # From messages to requests

What the call of each request preserves, the message it came in preserves. And whatever a request
leads to, its answer reaches the client, unless an exception that no thread catches ends the daemon.
-/

namespace H9d.TCPServer

open Cxx Nlohmann Jsonrpcpp Machine API

section Rules

variable (Inv : State → Prop) {texts : Texts} {c : ClientId}

/-- What the calls, the sends and the end of a thread preserve, a batch preserves. -/
theorem recvBatch_rule
    (executed : ∀ env request s, Inv s → Inv (execute texts c env request s).1)
    (sent : ∀ s msg, Inv s → Inv (s.send c msg)) (envs : ℕ → Env) (entities : List Entity)
    (replies : List Reply) (s : State) (inv : Inv s) :
    Inv (recvBatch texts c envs entities replies s) := by
  induction entities generalizing envs replies s with
  | nil =>
    rw [recvBatch]
    split
    · exact inv
    · exact sent s _ inv
  | cons entity rest ih =>
    cases entity with
    | request request =>
      have next := executed (envs 0) request s inv
      rw [recvBatch]
      generalize execute texts c (envs 0) request s = result at next ⊢
      obtain ⟨t, reply⟩ := result
      cases reply with
      | none => exact next
      | some reply =>
        cases reply with
        | response response => exact ih _ _ _ (sent t _ next)
        | error e => exact ih _ _ _ next
    | batch _ => exact ih envs replies s inv
    | other => exact ih envs replies s inv

theorem threadRecvMsg_rule
    (executed : ∀ env request s, Inv s → Inv (execute texts c env request s).1)
    (sent : ∀ s msg, Inv s → Inv (s.send c msg))
    (stopped : ∀ s running terminated, Inv s → Inv { s with running, terminated })
    (envs : ℕ → Env) (received : Received) (s : State) (inv : Inv s) :
    Inv (threadRecvMsg texts c envs received s) := by
  cases received with
  | closed => exact stopped s _ s.terminated inv
  | failed => exact stopped s s.running true inv
  | discarded => exact sent s _ inv
  | rpcException what => exact sent s _ inv
  | entity msg =>
    cases msg with
    | none => exact sent s _ inv
    | some msg =>
      cases msg with
      | request request =>
        have next := executed (envs 0) request s inv
        change Inv (recvRequest texts c (envs 0) request s)
        rw [recvRequest]
        generalize execute texts c (envs 0) request s = result at next ⊢
        obtain ⟨t, reply⟩ := result
        cases reply with
        | none => exact next
        | some reply => exact stopped (t.send c (.reply reply)) t.running _ (sent t _ next)
      | batch entities => exact recvBatch_rule Inv executed sent envs entities [] s inv
      | other => exact sent s _ inv

end Rules

theorem recvRequest_handled (texts : Texts) (c : ClientId) (env : Env) (request : Request) (s : State) :
    (recvRequest texts c env request s).handled = s.handled ++ [record texts c env request s.daemon] := by
  rw [recvRequest, execute]
  cases (record texts c env request s.daemon).answer <;> rfl

/-- The client got the answer in some message. -/
def Answered (s : State) (h : Handled) : Prop :=
  ∀ reply, h.answer = some reply → ∃ msg, (h.client, msg) ∈ s.sent ∧ reply ∈ msg.replies

/-- Every request has been answered, as far as the daemon lives. -/
def Delivered (s : State) : Prop := s.terminated = true ∨ ∀ h ∈ s.handled, Answered s h

/-- In the middle of a batch: some answers are still to be sent with it. -/
def Pending (c : ClientId) (replies : List Reply) (s : State) : Prop :=
  s.terminated = true ∨ ∀ h ∈ s.handled,
    Answered s h ∨ (h.client = c ∧ ∀ reply, h.answer = some reply → reply ∈ replies)

theorem Answered.send {s : State} {h : Handled} (answered : Answered s h) (c : ClientId) (msg : Message) :
    Answered (s.send c msg) h := by
  intro reply answer
  obtain ⟨earlier, sent, member⟩ := answered reply answer
  exact ⟨earlier, List.mem_append_left _ sent, member⟩

theorem Delivered.send {s : State} (delivered : Delivered s) (c : ClientId) (msg : Message) :
    Delivered (s.send c msg) :=
  delivered.imp id fun answered h member => (answered h member).send c msg

theorem Delivered.pending {s : State} (delivered : Delivered s) (c : ClientId) : Pending c [] s :=
  delivered.imp id fun answered h member => .inl (answered h member)

theorem Pending.send {c : ClientId} {replies : List Reply} {s : State} (pending : Pending c replies s)
    (msg : Message) : Pending c replies (s.send c msg) :=
  pending.imp id fun open_ h member => (open_ h member).imp (fun answered => answered.send c msg) id

/-- Sending the answers that were collected settles them. -/
theorem Pending.flush {c : ClientId} {replies : List Reply} {s : State} (pending : Pending c replies s) :
    Delivered (s.send c (.batch replies)) := by
  refine pending.imp id fun collected h member => ?_
  rcases collected h member with answered | ⟨rfl, held⟩
  · exact answered.send c _
  · intro reply answer
    exact ⟨.batch replies, List.mem_append_right _ (List.mem_singleton_self _), held reply answer⟩

theorem Pending.settled {c : ClientId} {s : State} (pending : Pending c [] s) : Delivered s := by
  refine pending.imp id fun collected h member => ?_
  rcases collected h member with answered | ⟨-, held⟩
  · exact answered
  · intro reply answer
    exact absurd (held reply answer) (List.not_mem_nil)

/-- The call of one request adds its answer to those to be sent, or ends the daemon. -/
theorem Pending.execute {c : ClientId} {replies : List Reply} {s : State} (pending : Pending c replies s)
    (texts : Texts) (env : Env) (request : Request) :
    Pending c (replies ++ (record texts c env request s.daemon).answer.toList)
      (execute texts c env request s).1 := by
  rcases pending with terminated | collected
  · exact .inl (by rw [TCPServer.execute, terminated]; rfl)
  · refine .inr fun h member => ?_
    rcases List.mem_append.mp member with old | new
    · rcases collected h old with answered | ⟨client, held⟩
      · exact .inl answered
      · exact .inr ⟨client, fun reply answer => List.mem_append_left _ (held reply answer)⟩
    · obtain rfl := List.mem_singleton.mp new
      refine .inr ⟨rfl, fun reply answer => List.mem_append_right _ ?_⟩
      rw [answer]
      exact List.mem_singleton_self _

theorem execute_delivered {c : ClientId} {s : State} (delivered : Delivered s) (texts : Texts) (env : Env)
    (request : Request) : Delivered (recvRequest texts c env request s) := by
  have pending := (delivered.pending c).execute texts env request
  rw [recvRequest]
  rw [TCPServer.execute] at pending ⊢
  cases answer : (record texts c env request s.daemon).answer with
  | none => exact .inl (by simp)
  | some reply =>
    rw [answer] at pending
    rcases pending with terminated | collected
    · exact .inl (Bool.or_eq_true_iff.mpr (.inl terminated))
    refine .inr fun h member => ?_
    rcases collected h member with answered | ⟨rfl, held⟩
    · exact answered.send c (.reply reply)
    · intro reply' answer'
      obtain rfl : reply' = reply := List.mem_singleton.mp (held reply' answer')
      exact ⟨.reply reply', List.mem_append_right _ (List.mem_singleton_self _),
        List.mem_singleton_self _⟩

theorem recvBatch_delivered (texts : Texts) {c : ClientId} (envs : ℕ → Env) (entities : List Entity)
    (replies : List Reply) {s : State} (pending : Pending c replies s) :
    Delivered (recvBatch texts c envs entities replies s) := by
  induction entities generalizing envs replies s with
  | nil =>
    rw [recvBatch]
    split
    · next empty =>
      rw [List.isEmpty_iff.mp empty] at pending
      exact pending.settled
    · exact pending.flush
  | cons entity rest ih =>
    cases entity with
    | request request =>
      have next := pending.execute texts (envs 0) request
      rw [recvBatch]
      rw [TCPServer.execute] at next ⊢
      cases answer : (record texts c (envs 0) request s.daemon).answer with
      | none => exact .inl (by simp)
      | some reply =>
        rw [answer] at next
        cases reply with
        | response response => exact ih _ _ (next.send _)
        | error e => exact ih _ _ next
    | batch _ => exact ih envs replies pending
    | other => exact ih envs replies pending

theorem threadRecvMsg_delivered (texts : Texts) (c : ClientId) (envs : ℕ → Env) (received : Received)
    {s : State} (delivered : Delivered s) : Delivered (threadRecvMsg texts c envs received s) := by
  cases received with
  | closed => exact delivered
  | failed => exact .inl rfl
  | discarded => exact delivered.send c _
  | rpcException what => exact delivered.send c _
  | entity msg =>
    cases msg with
    | none => exact delivered.send c _
    | some msg =>
      cases msg with
      | request request => exact execute_delivered delivered texts (envs 0) request
      | batch entities => exact recvBatch_delivered texts envs entities [] (delivered.pending c)
      | other => exact delivered.send c _

/-- Every request that a living daemon has handled has been answered to its client. -/
theorem reachable_delivered {texts : Texts} {s : State} (reachable : (machine texts).Reachable s) :
    Delivered s := by
  refine reachable.invariant Delivered ?_ ?_
  · intro s start
    refine .inr fun h member => ?_
    rw [start.2.2.2.2] at member
    cases member
  · intro s e t delivered step
    obtain ⟨-, step⟩ := Option.ite_none_left_eq_some.mp step
    cases e with
    | accept c peer memory =>
      obtain ⟨-, ⟨⟩⟩ := Option.ite_none_right_eq_some.mp step
      exact delivered
    | message c envs received =>
      obtain ⟨-, ⟨⟩⟩ := Option.ite_none_right_eq_some.mp step
      exact threadRecvMsg_delivered texts c envs received delivered
    | elsewhere nodeMgr port counterMap =>
      obtain rfl := Option.some.inj step
      exact delivered

end H9d.TCPServer
