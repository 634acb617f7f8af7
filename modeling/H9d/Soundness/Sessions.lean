import H9d.Soundness.SentMessages
import H9d.Soundness.Subscriptions

/-! # The sessions of clients

A client may send any number of requests before it reads. The server executes them one after the other and
the connection keeps the order, so the answers come in the order of the requests, with notifications in
between only after a subscription.
-/

namespace H9d

open Cxx Nlohmann Jsonrpcpp Machine API

namespace API

variable (texts : Texts) (env : Env) {c me : ClientId}

/-- A connection that is authenticated stays so. -/
theorem call_flags_true (request : Request) {d : Daemon} (open_ : flags d c = true) :
    flags ((call texts env me request).after d) c = true := by
  cases passed : admitted (flags d me) request with
  | none => rwa [(call_refused texts env passed).2]
  | some method =>
    obtain ⟨after, -⟩ := call_admitted texts env passed
    rw [after]
    rcases eq_or_ne method .authenticate with rfl | other
    · change flags ((authenticate env me request.id request.params).after d) c = true
      cases given : request.params.getAt "entity" Json.getString with
      | error e => rwa [authenticate_without_entity env given]
      | ok entity =>
        rw [(authenticate_of_entity env me request.id d given).2]
        rcases eq_or_ne c me with rfl | apart
        · simp [flags, Daemon.setClient, ClientThread.authenticate]
        · simpa [flags, Daemon.setClient, Function.update_of_ne apart] using open_
    · rw [congrFun ((preservesFlags request.id request.params).handler env me texts other d) c]
      exact open_

/-- The first call of a client authenticates it. -/
theorem call_authenticationRequest (me : ClientId) (entity : String) (d : Daemon) :
    (call texts env me (H9Connector.authenticationRequest entity)).outcome d =
        .value ⟨.integer 1, .object [("authentication", .boolean true)]⟩ ∧
      flags ((call texts env me (H9Connector.authenticationRequest entity)).after d) me = true := by
  have passed : admitted (flags d me) (H9Connector.authenticationRequest entity) = some .authenticate := by
    cases flags d me <;> rfl
  obtain ⟨after, answered⟩ := call_admitted texts env passed
  have given : (Parameter.map [("entity", .string entity)]).getAt "entity" Json.getString = .ok entity := rfl
  obtain ⟨value, written⟩ := authenticate_of_entity env me (.integer 1) d given
  have quiet := congrArg Daemon.port written
  refine ⟨answered _ value (.inr quiet), ?_⟩
  rw [after]
  change flags ((authenticate env me _ _).after d) me = true
  refine (congrArg (flags · me) written).trans ?_
  simp [flags, Daemon.setClient, ClientThread.authenticate]

/-- For an authenticated connection only the name of a method counts. -/
theorem executed_of_flags (request : Request) {d : Daemon} (open_ : flags d me = true) :
    (TCPServer.record texts me env request d).executed = Method.ofName? request.method := by
  change admitted (flags d me) request = _
  rw [open_, admitted]
  cases Method.ofName? request.method <;> rfl

end API

namespace Session

variable {cast : FloatCast} {texts : Texts} {c : ClientId} {t u : State}

/-- The requests of one client that were handled. -/
def handledBy (c : ClientId) (s : TCPServer.State) : List TCPServer.Handled :=
  s.handled.filter fun h => h.client = c

/-- What was answered, as the client reads it. -/
def said (handled : List TCPServer.Handled) : List ResponseObject :=
  handled.filterMap fun h => h.answer.map TCPServer.Reply.said

/-- The responses among some values. -/
def answersIn (cast : FloatCast) (values : List Json) : List ResponseObject :=
  values.flatMap fun json =>
    match doParseJson cast json with
    | .ok (some entity) => entity.responses
    | .ok none | .error _ => []

/-- All values that the server has sent. -/
def State.arrived (t : State) : List Json := t.received ++ t.toClient

/-- The value is a response. -/
def IsAnswer (cast : FloatCast) (json : Json) : Prop := ∃ r, doParseJson cast json = .ok (some (.response r))

theorem answersIn_append (first second : List Json) :
    answersIn cast (first ++ second) = answersIn cast first ++ answersIn cast second :=
  List.flatMap_append

section Server

variable {s s' : TCPServer.State}

theorem handledBy_append (c : ClientId) (s : TCPServer.State) (h : TCPServer.Handled) :
    handledBy c { s with handled := s.handled ++ [h] } =
      handledBy c s ++ if h.client = c then [h] else [] := by
  simp only [handledBy, List.filter_append, List.filter_cons, List.filter_nil, decide_eq_true_eq]

/-- What the server does for one request of a client. -/
theorem recvRequest_eq (texts : Texts) (c : ClientId) (env : Env) (request : Request) (s : TCPServer.State) :
    TCPServer.recvRequest texts c env request s =
      let h := TCPServer.record texts c env request s.daemon
      { s with
        daemon := h.after
        handled := s.handled ++ [h]
        terminated := s.terminated || !h.answer.any TCPServer.Reply.isWritten
        sent := s.sent ++ h.answer.toList.map fun reply => (c, TCPServer.Message.reply reply) } := by
  rw [TCPServer.recvRequest, TCPServer.execute]
  generalize TCPServer.record texts c env request s.daemon = h
  dsimp only
  cases answer : h.answer with
  | none => simp
  | some reply => simp [TCPServer.State.send]

theorem sentSince_append (c : ClientId) (s : TCPServer.State) {sent : List (ClientId × TCPServer.Message)}
    (same : s'.sent = s.sent ++ sent) :
    sentSince c s s' = (sent.filterMap fun (receiver, msg) =>
      if receiver = c then some msg.toJson else none).mapM Json.throughText? := by
  rw [sentSince, same, List.drop_left]

/-- What another client's messages leave alone. -/
structure Apart (c : ClientId) (s s' : TCPServer.State) : Prop where
  accepted : c ∈ s.accepted → c ∈ s'.accepted
  running : s'.running c = s.running c
  handled : handledBy c s' = handledBy c s
  sent : ∃ more, s'.sent = s.sent ++ more ∧ ∀ receiver msg, (receiver, msg) ∈ more → receiver ≠ c
  observers : observers c s'.daemon = observers c s.daemon
  flags : flags s.daemon c = true → flags s'.daemon c = true

theorem Apart.refl (c : ClientId) (s : TCPServer.State) : Apart c s s where
  accepted := id
  running := rfl
  handled := rfl
  sent := ⟨[], (List.append_nil _).symm, nofun⟩
  observers := rfl
  flags := id

theorem Apart.send {me : ClientId} (apart : Apart c s s') (other : me ≠ c) (msg : TCPServer.Message) :
    Apart c s (s'.send me msg) := by
  obtain ⟨more, sent, others⟩ := apart.sent
  refine { apart with sent := ⟨more ++ [(me, msg)], ?_, fun receiver msg' member => ?_⟩ }
  · change s'.sent ++ [(me, msg)] = _
    rw [sent, List.append_assoc]
  · rcases List.mem_append.mp member with before | now
    · exact others receiver msg' before
    · obtain ⟨rfl, -⟩ := Prod.mk.inj (List.mem_singleton.mp now)
      exact other

theorem Apart.execute {me : ClientId} (apart : Apart c s s') (other : me ≠ c) (env : Env) (request : Request) :
    Apart c s (TCPServer.execute texts me env request s').1 := by
  refine ⟨apart.accepted, apart.running, ?_, apart.sent, ?_, fun open_ => ?_⟩
  · refine (handledBy_append c s' (TCPServer.record texts me env request s'.daemon)).trans ?_
    rw [if_neg (show (TCPServer.record texts me env request s'.daemon).client ≠ c from other), List.append_nil]
    exact apart.handled
  · exact (call_observers env texts request s'.daemon (.inl other.symm)).trans apart.observers
  · exact call_flags_true texts env request (apart.flags open_)

theorem Apart.message {me : ClientId} (other : me ≠ c) (envs : ℕ → Env) (received : TCPServer.Received) :
    Apart c s (TCPServer.threadRecvMsg texts me envs received s) := by
  have start := Apart.refl c s
  cases received with
  | closed => exact { start with running := Function.update_of_ne other.symm _ _ }
  | failed => exact { start with }
  | discarded | rpcException what => exact start.send other _
  | entity msg =>
    cases msg with
    | none => exact start.send other _
    | some msg =>
      cases msg with
      | request request =>
        have next : Apart c s (TCPServer.execute texts me (envs 0) request s).1 :=
          start.execute other (envs 0) request
        change Apart c s (TCPServer.recvRequest texts me (envs 0) request s)
        rw [TCPServer.recvRequest]
        generalize TCPServer.execute texts me (envs 0) request s = result at next ⊢
        obtain ⟨t, reply⟩ := result
        cases reply with
        | none => exact next
        | some reply => exact { next.send other (.reply reply) with }
      | batch entities =>
        exact TCPServer.recvBatch_rule (Apart c s) (fun env request _ apart => apart.execute other env request)
          (fun _ msg apart => apart.send other msg) envs entities [] s start
      | other => exact start.send other _

/-- What a step of the daemon that is not about a client leaves alone. -/
theorem Apart.step {e : TCPServer.Event} (other : clientOf e ≠ some c)
    (step : (TCPServer.machine texts).step? s e = some s') : Apart c s s' := by
  obtain ⟨-, step⟩ := Option.ite_none_left_eq_some.mp step
  have start := Apart.refl c s
  cases e with
  | accept me peer memory =>
    obtain ⟨-, ⟨⟩⟩ := Option.ite_none_right_eq_some.mp step
    have apart : c ≠ me := fun same => other (congrArg some same.symm)
    have client : (s.accept me peer memory).daemon.clients c = s.daemon.clients c :=
      Function.update_of_ne apart _ _
    refine { start with
      accepted := List.mem_cons_of_mem _
      running := Function.update_of_ne apart _ _
      observers := ?_
      flags := ?_ }
    · simp only [API.observers, client]
    · simp only [API.flags, client, imp_self]
  | message me envs received =>
    obtain ⟨-, ⟨⟩⟩ := Option.ite_none_right_eq_some.mp step
    exact .message (fun same => other (congrArg some same)) envs received
  | elsewhere nodeMgr port counterMap =>
    obtain rfl := Option.some.inj step
    exact { start with }

/-- The client gets nothing from it. -/
theorem Apart.sentSince_eq (apart : Apart c s s') : sentSince c s s' = some [] := by
  obtain ⟨more, sent, others⟩ := apart.sent
  have none : (more.filterMap fun (receiver, msg) => if receiver = c then some msg.toJson else none) = [] := by
    rw [List.filterMap_eq_nil_iff]
    rintro ⟨receiver, msg⟩ member
    exact if_neg (others receiver msg member)
  rw [sentSince_append c s sent, none]
  rfl

end Server

section Requests

/-- The thread of the client reads a request as it was sent. -/
theorem received_request {r : Request} (named : r.method ≠ "") :
    TCPServer.received cast (some r.toJson.reread) = .entity (some (.request r.reread)) := by
  have parsed : doParseJson cast r.toJson = .ok (some (.request r)) := doParseJson_toJson cast (.request r) named
  simp only [TCPServer.received, doParseJson_reread, parsed]
  rfl

/-- What the client reads of an answer. -/
def heard (reply : TCPServer.Reply) : Json := (TCPServer.Message.reply reply).toJson.finite.reread

theorem answersIn_reply (reply : TCPServer.Reply) : answersIn cast [heard reply] = [reply.said] := by
  have parsed := (TCPServer.Message.reply reply).doParseJson_toJson cast nofun
  simp only [answersIn, heard, List.flatMap_cons, parsed]
  rfl

theorem isAnswer_reply (reply : TCPServer.Reply) : IsAnswer cast (heard reply) :=
  ⟨_, (TCPServer.Message.reply reply).doParseJson_toJson cast nofun⟩

theorem parse_notification {n : Notification} (named : n.method ≠ "") :
    doParseJson cast n.toJson.reread = .ok (some (.notification n.reread)) := by
  have parsed : doParseJson cast n.toJson = .ok (some (.notification n)) :=
    doParseJson_toJson cast (.notification n) named
  rw [doParseJson_reread, parsed]
  rfl

end Requests

/-! ## What holds in every session -/

section Invariants

/-- The server has handled the first requests, and the others are on the way. -/
structure Queued (c : ClientId) (t : State) : Prop where
  accepted : c ∈ t.server.accepted
  running : t.server.running c = true
  named : ∀ r ∈ t.requests, r.method ≠ ""
  order : ∃ served waiting, t.requests = served ++ waiting ∧
    (handledBy c t.server).map TCPServer.Handled.request = served.map Request.reread ∧
    t.toServer = waiting.map fun r => r.toJson.reread

/-- The answers have come in their order, and each names its request; notifications come to who subscribed. -/
structure Answered (cast : FloatCast) (c : ClientId) (t : State) : Prop where
  answers : answersIn cast t.arrived = said (handledBy c t.server)
  ids : (said (handledBy c t.server)).map ResponseObject.id <+:
    (handledBy c t.server).map fun h => h.request.id
  answered : t.server.terminated = false → ∀ h ∈ handledBy c t.server, h.answer.isSome = true
  understood : ∀ json ∈ t.arrived, ∃ entity, doParseJson cast json = .ok (some entity)
  quiet : (∀ h ∈ handledBy c t.server, h.request.method ≠ "subscribe") →
    observers c t.server.daemon = (false, false) ∧ ∀ json ∈ t.arrived, IsAnswer cast json

/-- The first call authenticates, and from then on every method is open. -/
def Open (c : ClientId) (t : State) : Prop :=
  ∀ h later, handledBy c t.server = h :: later → flags t.server.daemon c = true ∧
    h.answer = some (.response ⟨.integer 1, .object [("authentication", .boolean true)]⟩) ∧
    ∀ g ∈ later, g.executed = Method.ofName? g.request.method

/-- The numbers of the requests. -/
structure Numbered (t : State) : Prop where
  ids : t.requests.map Request.id =
    (List.range t.requests.length).map fun n => .integer (BitVec.ofNat 32 (n + 1))
  next : t.requests ≠ [] → t.nextMsgId = BitVec.ofNat 32 t.requests.length
  first : ∀ r later, t.requests = r :: later → ∃ entity, r = H9Connector.authenticationRequest entity

/-- What the phase of the client says. -/
def Phased (t : State) : Prop :=
  match t.phase with
  | .start => t.requests = [] ∧ t.received = [] ∧ t.nextMsgId = 1
  | .authenticating => t.requests.length = 1 ∧ t.received = [] ∧ t.nextMsgId = 1
  | .ready => t.requests ≠ []
  | .failed => False

theorem Phased.of_ready (ready : t.phase = .ready) (some : t.requests ≠ []) : Phased t := by
  rw [Phased, ready]
  exact some

structure InStep (cast : FloatCast) (texts : Texts) (c : ClientId) (t : State) : Prop where
  queued : Queued c t
  answered : Answered cast c t
  opened : Open c t
  numbered : Numbered t
  phased : Phased t

theorem InStep.start (cast : FloatCast) {texts : Texts} (start : Start texts c t) :
    InStep cast texts c t := by
  obtain ⟨s, peer, memory, reachable, alive, fresh, rfl⟩ := start
  have idle : handledBy c (s.accept c peer memory) = [] := by
    apply List.filter_eq_nil_iff.mpr
    intro h member
    rw [decide_eq_true_eq]
    rintro rfl
    exact fresh (TCPServer.reachable_known reachable h member)
  refine ⟨⟨List.mem_cons_self, Function.update_self .., nofun, [], [], rfl, ?_, rfl⟩,
    ⟨?_, ?_, fun _ h member => ?_, nofun, fun _ => ⟨?_, nofun⟩⟩, fun h later handled => ?_,
    ⟨rfl, fun some => absurd rfl some, nofun⟩, rfl, rfl, rfl⟩
  · rw [idle]
    rfl
  · rw [idle]
    rfl
  · rw [idle]
    exact List.nil_prefix
  · rw [idle] at member
    cases member
  · simp [observers, TCPServer.State.accept, Daemon.setClient, TCPServer.connect]
  · rw [idle] at handled
    cases handled

/-- A request goes behind the others. -/
theorem Queued.send (queued : Queued c t) {r : Request} (named : r.method ≠ "") : Queued c (t.send r) := by
  obtain ⟨accepted, running, all, served, waiting, requests, handled, toServer⟩ := queued
  refine ⟨accepted, running, fun r' member => ?_, served, waiting ++ [r], ?_, handled, ?_⟩
  · rcases List.mem_append.mp member with before | now
    · exact all r' before
    · rwa [List.mem_singleton.mp now]
  · change t.requests ++ [r] = _
    rw [requests, List.append_assoc]
  · change t.toServer ++ [r.toJson.reread] = _
    rw [toServer, List.map_append]
    rfl

theorem InStep.authenticate (inStep : InStep cast texts c t) {entity : String}
    (step : t.step? cast texts c (.authenticate entity) = some u) : InStep cast texts c u := by
  obtain ⟨⟨start, -⟩, step⟩ := Option.ite_none_right_eq_some.mp step
  obtain rfl := Option.some.inj step
  obtain ⟨queued, answered, opened, numbered, phased⟩ := inStep
  rw [Phased, start] at phased
  obtain ⟨requests, received, next⟩ := phased
  have named : (H9Connector.authenticationRequest entity).method ≠ "" := by
    change "authenticate" ≠ ""
    decide
  have sent : t.requests ++ [H9Connector.authenticationRequest entity] =
      [H9Connector.authenticationRequest entity] := by rw [requests, List.nil_append]
  obtain ⟨accepted, running, all, order⟩ := queued.send named
  refine ⟨⟨accepted, running, all, order⟩, ⟨answered.answers, answered.ids, answered.answered,
    answered.understood, answered.quiet⟩, opened, ⟨?_, fun _ => ?_, fun r later same => ?_⟩, ?_, received, next⟩
  · change (t.requests ++ _).map _ = (List.range (t.requests ++ _).length).map _
    rw [sent]
    rfl
  · change t.nextMsgId = BitVec.ofNat 32 (t.requests ++ _).length
    rw [sent, next]
    rfl
  · change t.requests ++ _ = r :: later at same
    rw [sent] at same
    exact ⟨entity, (List.cons.inj same).1.symm⟩
  · change (t.requests ++ _).length = 1
    rw [sent]
    rfl

theorem InStep.execute (inStep : InStep cast texts c t) {method : String} {params : Parameter}
    (step : t.step? cast texts c (.execute method params) = some u) : InStep cast texts c u := by
  obtain ⟨⟨ready, named, -⟩, step⟩ := Option.ite_none_right_eq_some.mp step
  obtain rfl := Option.some.inj step
  obtain ⟨queued, answered, opened, numbered, phased⟩ := inStep
  rw [Phased, ready] at phased
  have next : t.nextMsgId + 1 = BitVec.ofNat 32 (t.requests.length + 1) := by
    rw [numbered.next phased, BitVec.ofNat_add]
    rfl
  obtain ⟨accepted, running, all, order⟩ :=
    queued.send (r := ⟨.integer (t.nextMsgId + 1), method, params⟩) named
  refine ⟨⟨accepted, running, all, order⟩, ⟨answered.answers, answered.ids, answered.answered,
    answered.understood, answered.quiet⟩, opened, ⟨?_, fun _ => ?_, fun r later same => ?_⟩, ?_⟩
  · change (t.requests ++ [_]).map _ = (List.range (t.requests ++ [_]).length).map _
    rw [List.map_append, numbered.ids, List.length_append, List.length_singleton, List.range_succ,
      List.map_append, List.map_singleton, List.map_singleton, next]
  · change t.nextMsgId + 1 = BitVec.ofNat 32 (t.requests ++ [_]).length
    rw [next, List.length_append, List.length_singleton]
  · change t.requests ++ [_] = r :: later at same
    cases earlier : t.requests with
    | nil => exact absurd earlier phased
    | cons first rest =>
      rw [earlier] at same
      obtain ⟨rfl, -⟩ := List.cons.inj same
      exact numbered.first first rest earlier
  · exact .of_ready ready (List.append_ne_nil_of_left_ne_nil phased _)

/-- Taking a value keeps what is known of all values. -/
theorem InStep.take (inStep : InStep cast texts c t) {json : Json} {later : List Json}
    (first : t.toClient = json :: later) (some : t.requests ≠ []) :
    InStep cast texts c (t.take json later .ready) := by
  have same : (t.take json later .ready).arrived = t.arrived := by
    change (t.received ++ [json]) ++ later = t.received ++ t.toClient
    rw [first, List.append_assoc]
    rfl
  obtain ⟨⟨accepted, running, all, order⟩, answered, opened, ⟨ids, next, head⟩, -⟩ := inStep
  refine ⟨⟨accepted, running, all, order⟩, ⟨?_, answered.ids, answered.answered, ?_, fun plain => ?_⟩, opened,
    ⟨ids, next, head⟩, .of_ready rfl some⟩
  · rw [same]
    exact answered.answers
  · rw [same]
    exact answered.understood
  · rw [same]
    exact answered.quiet plain

/-- What comes first to a client that has sent one request. -/
theorem InStep.connect_eq (inStep : InStep cast texts c t) {json : Json} {later : List Json}
    (phase : t.phase = .authenticating) (first : t.toClient = json :: later) :
    H9Connector.connect cast (some json) = .value () := by
  obtain ⟨queued, answered, opened, numbered, phased⟩ := inStep
  rw [Phased, phase] at phased
  obtain ⟨one, received, -⟩ := phased
  obtain ⟨r, sent⟩ := List.length_eq_one_iff.mp one
  obtain ⟨entity, rfl⟩ := numbered.first r [] sent
  obtain ⟨served, waiting, requests, handled, -⟩ := queued.order
  have plain : ∀ h ∈ handledBy c t.server, h.request.method ≠ "subscribe" := by
    intro h member
    obtain ⟨r, served, same⟩ := List.mem_map.mp (handled ▸ List.mem_map_of_mem member)
    have only : r ∈ t.requests := requests ▸ List.mem_append_left _ served
    rw [sent] at only
    obtain rfl := List.mem_singleton.mp only
    rw [← same]
    change "authenticate" ≠ "subscribe"
    decide
  have arrived : t.arrived = json :: later := by rw [State.arrived, received, first, List.nil_append]
  obtain ⟨a, parsed⟩ := (answered.quiet plain).2 json (arrived ▸ List.mem_cons_self)
  have answers := answered.answers
  rw [arrived, answersIn, List.flatMap_cons, parsed] at answers
  cases calls : handledBy c t.server with
  | nil =>
    rw [calls] at answers
    cases answers
  | cons h rest =>
    obtain ⟨-, answer, -⟩ := opened h rest calls
    rw [calls, said, List.filterMap_cons, answer] at answers
    obtain ⟨rfl, -⟩ := List.cons.inj answers
    rw [H9Connector.connect, H9Connector.authentication, parsed]
    rfl

theorem InStep.connected (inStep : InStep cast texts c t)
    (step : t.step? cast texts c .connected = some u) : InStep cast texts c u := by
  rw [State.step?] at step
  split at step
  · next json later phase first =>
    rw [inStep.connect_eq phase first] at step
    obtain rfl := Option.some.inj step
    apply inStep.take first
    have phased := inStep.phased
    rw [Phased, phase] at phased
    exact List.ne_nil_of_length_pos (phased.1.symm ▸ Nat.zero_lt_one)
  · cases step

theorem InStep.recv (inStep : InStep cast texts c t)
    (step : t.step? cast texts c .recv = some u) : InStep cast texts c u := by
  rw [State.step?] at step
  split at step
  · next json later phase first =>
    obtain ⟨entity, parsed⟩ := inStep.answered.understood json
      (List.mem_append_right _ (first ▸ List.mem_cons_self))
    rw [H9Connector.recv, parsed] at step
    obtain rfl := Option.some.inj step
    apply inStep.take first
    have phased := inStep.phased
    rwa [Phased, phase] at phased
  · cases step

theorem InStep.notify (inStep : InStep cast texts c t) {n : Notification}
    (step : t.step? cast texts c (.notify n) = some u) : InStep cast texts c u := by
  obtain ⟨⟨observed, -⟩, step⟩ := Option.ite_none_right_eq_some.mp step
  obtain rfl := Option.some.inj step
  have named : n.method ≠ "" := by
    intro empty
    rw [State.mayNotify, empty] at observed
    simp at observed
  have parsed : doParseJson cast n.toJson.reread = .ok (some (.notification n.reread)) :=
    parse_notification named
  obtain ⟨⟨accepted, running, all, order⟩, answered, opened, ⟨ids, next, head⟩, phased⟩ := inStep
  have arrived : (t.received ++ (t.toClient ++ [n.toJson.reread])) = t.arrived ++ [n.toJson.reread] :=
    (List.append_assoc ..).symm
  refine ⟨⟨accepted, running, all, order⟩, ⟨?_, answered.ids, answered.answered, fun json member => ?_,
    fun plain => ?_⟩, opened, ⟨ids, next, head⟩, phased⟩
  · change answersIn cast (t.received ++ (t.toClient ++ _)) = _
    rw [arrived, answersIn_append, answered.answers]
    simp only [answersIn, List.flatMap_cons, parsed]
    exact List.append_nil _
  · change json ∈ t.received ++ (t.toClient ++ _) at member
    rw [arrived] at member
    rcases List.mem_append.mp member with before | now
    · exact answered.understood json before
    · obtain rfl := List.mem_singleton.mp now
      exact ⟨_, parsed⟩
  · obtain ⟨none, -⟩ := answered.quiet plain
    obtain ⟨frame, dev⟩ := Prod.mk.inj none
    simp [State.mayNotify, frame, dev] at observed

theorem InStep.daemon (inStep : InStep cast texts c t) {event : TCPServer.Event}
    (step : t.step? cast texts c (.daemon event) = some u) : InStep cast texts c u := by
  obtain ⟨other, step⟩ := Option.ite_none_right_eq_some.mp step
  obtain ⟨server, moved, step⟩ := Option.bind_eq_some_iff.mp step
  have alive := (Option.ite_none_left_eq_some.mp moved).1
  have apart := Apart.step other moved
  rw [apart.sentSince_eq] at step
  obtain rfl := Option.some.inj step
  obtain ⟨⟨accepted, running, all, order⟩, answered, opened, ⟨ids, next, head⟩, phased⟩ := inStep
  have arrived : t.received ++ (t.toClient ++ []) = t.arrived := by
    rw [List.append_nil]
    rfl
  refine ⟨⟨apart.accepted accepted, apart.running.trans running, all, ?_⟩,
    ⟨?_, ?_, fun _ => ?_, fun json member => ?_, fun plain => ?_⟩, fun h later calls => ?_, ⟨ids, next, head⟩,
    phased⟩
  · rw [apart.handled]
    exact order
  · change answersIn cast (t.received ++ (t.toClient ++ [])) = _
    rw [arrived, apart.handled]
    exact answered.answers
  · rw [apart.handled]
    exact answered.ids
  · rw [apart.handled]
    exact answered.answered (Bool.eq_false_iff.mpr alive)
  · change json ∈ t.received ++ (t.toClient ++ []) at member
    rw [arrived] at member
    exact answered.understood json member
  · change observers c server.daemon = _ ∧
      ∀ json ∈ t.received ++ (t.toClient ++ []), IsAnswer cast json
    rw [apart.handled] at plain
    rw [apart.observers, arrived]
    exact answered.quiet plain
  · rw [apart.handled] at calls
    obtain ⟨open_, rest⟩ := opened h later calls
    exact ⟨apart.flags open_, rest⟩

/-- What the server has done for the request `r`, and the record of it. -/
structure Serves (texts : Texts) (c : ClientId) (t u : State) (envs : ℕ → Env) (r : Request)
    (h : TCPServer.Handled) : Prop where
  recorded : h = TCPServer.record texts c (envs 0) r.reread t.server.daemon
  alive : t.server.terminated = false
  accepted : u.server.accepted = t.server.accepted
  running : u.server.running = t.server.running
  daemon : u.server.daemon = (call texts (envs 0) c r.reread).after t.server.daemon
  terminated : u.server.terminated = (t.server.terminated || h.answer.isNone)
  calls : handledBy c u.server = handledBy c t.server ++ [h]
  arrived : u.arrived = t.arrived ++ h.answer.toList.map heard

/-- The one answer to a request, as far as the client can read it. -/
theorem sentSince_answer {h : TCPServer.Handled} {s s' : TCPServer.State} {sent : List Json}
    (same : s'.sent = s.sent ++ h.answer.toList.map fun reply => (c, TCPServer.Message.reply reply))
    (read : sentSince c s s' = some sent) :
    sent = h.answer.toList.map heard ∧ h.answer.any TCPServer.Reply.isWritten = h.answer.isSome := by
  rw [sentSince_append c s same, List.filterMap_map] at read
  cases answer : h.answer with
  | none =>
    rw [answer] at read
    exact ⟨(Option.some.inj read).symm, rfl⟩
  | some reply =>
    rw [answer] at read
    simp only [Option.toList_some, List.filterMap_cons, Function.comp_apply, if_true, List.filterMap_nil,
      List.mapM_cons, List.mapM_nil, Option.bind_eq_bind, Option.bind_eq_some_iff] at read
    obtain ⟨json, written, _, ⟨⟩, same⟩ := read
    obtain ⟨isUtf8, rfl⟩ := Json.throughText?_eq_some.mp written
    exact ⟨(Option.some.inj same).symm, decide_eq_true isUtf8⟩

/-- The server reads the next request. -/
theorem Queued.serve_cases (queued : Queued c t) {envs : ℕ → Env}
    (step : t.step? cast texts c (.serve envs) = some u) :
    ∃ served r waiting h, t.requests = served ++ r :: waiting ∧
      (handledBy c t.server).map TCPServer.Handled.request = served.map Request.reread ∧
      u = { t with
        server := u.server
        toServer := waiting.map fun r => r.toJson.reread
        toClient := u.toClient } ∧
      Serves texts c t u envs r h := by
  obtain ⟨-, -, all, served, waiting, requests, handled, toServer⟩ := queued
  rw [State.step?, toServer] at step
  cases waiting with
  | nil => cases step
  | cons r waiting =>
    have named := all r (requests ▸ List.mem_append_right _ List.mem_cons_self)
    rw [List.map_cons] at step
    obtain ⟨server, moved, step⟩ := Option.bind_eq_some_iff.mp step
    obtain ⟨sent, read, rfl⟩ := Option.map_eq_some_iff.mp step
    rw [received_request named] at moved
    obtain ⟨alive, moved⟩ := Option.ite_none_left_eq_some.mp moved
    obtain ⟨-, moved⟩ := Option.ite_none_right_eq_some.mp moved
    have after : server = TCPServer.recvRequest texts c (envs 0) r.reread t.server := (Option.some.inj moved).symm
    rw [recvRequest_eq] at after
    obtain ⟨whole, written⟩ := sentSince_answer (congrArg TCPServer.State.sent after) read
    refine ⟨served, r, waiting, _, requests, handled, rfl, rfl, Bool.eq_false_iff.mpr alive, after ▸ rfl,
      after ▸ rfl, after ▸ rfl, ?_, ?_, ?_⟩
    · have ended := congrArg TCPServer.State.terminated after
      dsimp only at ended
      rwa [written, Option.not_isSome] at ended
    · rw [after]
      exact (handledBy_append c t.server _).trans (congrArg (handledBy c t.server ++ ·) (if_pos rfl))
    · change t.received ++ (t.toClient ++ sent) = _
      rw [← List.append_assoc, whole]
      rfl

section Serving

variable {envs : ℕ → Env} {r : Request} {h : TCPServer.Handled} (serves : Serves texts c t u envs r h)

include serves

theorem Serves.request : h.request = r.reread := by
  rw [serves.recorded]
  rfl

theorem Serves.named {reply : TCPServer.Reply} (answer : h.answer = some reply) : reply.id = h.request.id := by
  rw [serves.request]
  exact TCPServer.answer_id texts c (serves.recorded ▸ answer)

/-- Until the daemon ends, every request was answered. -/
theorem Answered.ids_eq (answered : Answered cast c t) : (said (handledBy c t.server)).map ResponseObject.id =
    (handledBy c t.server).map fun h => h.request.id := by
  apply answered.ids.eq_of_length
  rw [List.length_map, List.length_map, said, List.length_filterMap_eq_countP, List.countP_eq_length]
  intro h member
  rw [Option.isSome_map]
  exact answered.answered serves.alive h member

theorem Answered.serve (answered : Answered cast c t) : Answered cast c u := by
  obtain ⟨answers, ids, all, understood, quiet⟩ := answered
  refine ⟨?_, ?_, fun alive g member => ?_, fun json member => ?_, fun plain => ?_⟩
  · rw [serves.arrived, answersIn_append, answers, serves.calls, said, said, List.filterMap_append]
    refine congrArg (_ ++ ·) ?_
    cases answer : h.answer with
    | none => simp [answersIn, answer]
    | some reply => simpa [answer] using answersIn_reply reply
  · rw [serves.calls, said, List.filterMap_append, List.map_append, List.map_append]
    change (said (handledBy c t.server)).map ResponseObject.id ++ _ <+: _
    rw [Answered.ids_eq serves ⟨answers, ids, all, understood, quiet⟩, List.prefix_append_right_inj]
    cases answer : h.answer with
    | none => simp [answer]
    | some reply => simp [answer, serves.named answer]
  · rw [serves.terminated] at alive
    obtain ⟨before, some⟩ := Bool.or_eq_false_iff.mp alive
    rw [serves.calls] at member
    rcases List.mem_append.mp member with old | new
    · exact all before g old
    · obtain rfl := List.mem_singleton.mp new
      exact Option.isNone_eq_false_iff.mp some
  · rw [serves.arrived] at member
    rcases List.mem_append.mp member with old | new
    · exact understood json old
    · obtain ⟨reply, -, rfl⟩ := List.mem_map.mp new
      exact ⟨_, (TCPServer.Message.reply reply).doParseJson_toJson cast nofun⟩
  · rw [serves.calls] at plain
    obtain ⟨none, before⟩ := quiet fun g member => plain g (List.mem_append_left _ member)
    have other := plain h (List.mem_append_right _ (List.mem_singleton_self h))
    rw [serves.request] at other
    refine ⟨?_, fun json member => ?_⟩
    · rw [serves.daemon]
      exact (call_observers (envs 0) texts r.reread t.server.daemon (.inr other)).trans none
    · rw [serves.arrived] at member
      rcases List.mem_append.mp member with old | new
      · exact before json old
      · obtain ⟨reply, -, rfl⟩ := List.mem_map.mp new
        exact isAnswer_reply reply

/-- The first request opens the connection. -/
theorem Serves.opens {entity : String} (first : r = H9Connector.authenticationRequest entity) :
    flags u.server.daemon c = true ∧
      h.answer = some (.response ⟨.integer 1, .object [("authentication", .boolean true)]⟩) := by
  obtain ⟨value, open_⟩ := call_authenticationRequest texts (envs 0) c entity t.server.daemon
  have plain : r.reread = H9Connector.authenticationRequest entity := by
    rw [first]
    rfl
  have outcome : h.outcome = (call texts (envs 0) c r.reread).outcome t.server.daemon := by
    rw [serves.recorded]
    rfl
  rw [plain, value] at outcome
  rw [serves.daemon, plain, TCPServer.Handled.answer, outcome]
  exact ⟨open_, rfl⟩

theorem Open.serve (opened : Open c t)
    (first : handledBy c t.server = [] → ∃ entity, r = H9Connector.authenticationRequest entity) : Open c u := by
  intro g later same
  rw [serves.calls] at same
  cases earlier : handledBy c t.server with
  | nil =>
    rw [earlier] at same
    obtain ⟨rfl, rfl⟩ := List.cons.inj same
    obtain ⟨entity, authenticates⟩ := first earlier
    obtain ⟨open_, answer⟩ := serves.opens authenticates
    exact ⟨open_, answer, fun g member => absurd member List.not_mem_nil⟩
  | cons head rest =>
    rw [earlier] at same
    obtain ⟨rfl, rfl⟩ := List.cons.inj same
    obtain ⟨open_, answer, admitted⟩ := opened head rest earlier
    refine ⟨?_, answer, fun g member => ?_⟩
    · rw [serves.daemon]
      exact call_flags_true texts (envs 0) r.reread open_
    · rcases List.mem_append.mp member with old | new
      · exact admitted g old
      · obtain rfl := List.mem_singleton.mp new
        rw [serves.recorded]
        exact executed_of_flags texts (envs 0) r.reread open_

end Serving

theorem InStep.serve (inStep : InStep cast texts c t) {envs : ℕ → Env}
    (step : t.step? cast texts c (.serve envs) = some u) : InStep cast texts c u := by
  obtain ⟨queued, answered, opened, ⟨ids, next, head⟩, phased⟩ := inStep
  obtain ⟨served, r, waiting, h, requests, handled, same, serves⟩ := queued.serve_cases step
  have calls : (handledBy c u.server).map TCPServer.Handled.request = (served ++ [r]).map Request.reread := by
    rw [serves.calls, List.map_append, List.map_append, handled, List.map_singleton, serves.request]
    rfl
  have first : handledBy c t.server = [] → ∃ entity, r = H9Connector.authenticationRequest entity := by
    intro none
    rw [none] at handled
    obtain rfl := List.map_eq_nil_iff.mp handled.symm
    exact head r waiting requests
  have answered' := answered.serve serves
  have opened' := opened.serve serves first
  rw [same] at answered' opened' ⊢
  refine ⟨⟨?_, ?_, queued.named, served ++ [r], waiting, ?_, calls, rfl⟩, answered', opened',
    ⟨ids, next, head⟩, phased⟩
  · exact serves.accepted ▸ queued.accepted
  · exact (congrFun serves.running c).trans queued.running
  · rw [requests, List.append_assoc]
    rfl

theorem InStep.step (inStep : InStep cast texts c t) {e : Event} (step : t.step? cast texts c e = some u) :
    InStep cast texts c u := by
  cases e with
  | authenticate entity => exact inStep.authenticate step
  | connected => exact inStep.connected step
  | execute method params => exact inStep.execute step
  | recv => exact inStep.recv step
  | serve envs => exact inStep.serve step
  | notify n => exact inStep.notify step
  | daemon event => exact inStep.daemon step

theorem InStep.of_reachable (reachable : (machine cast texts c).Reachable t) : InStep cast texts c t :=
  reachable.invariant (InStep cast texts c) (fun _ start => .start cast start) fun _ _ _ inStep step =>
    inStep.step step

end Invariants

/-! ## Sessions -/

/-- A session goes as the client expects. -/
structure InOrder (cast : FloatCast) (texts : Texts) (c : ClientId) (t : State) : Prop where
  /-- the client threw nothing and used no null pointer -/
  works : t.phase ≠ .failed
  numbers : t.requests.map Request.id =
    (List.range t.requests.length).map fun n => .integer (BitVec.ofNat 32 (n + 1))
  /-- the server executes the requests in the order in which they were sent -/
  executed : (handledBy c t.server).map TCPServer.Handled.request <+: t.requests.map Request.reread
  /-- no method but the first call, which authenticates, is refused for want of authentication -/
  admitted : ∀ h ∈ (handledBy c t.server).tail, h.executed = Method.ofName? h.request.method
  /-- the client reads the answers of the calls, in their order -/
  answers : answersIn cast t.received <+: said (handledBy c t.server)
  matched : (answersIn cast t.received).map ResponseObject.id <+: t.requests.map Request.id
  /-- a client that did not subscribe reads answers only -/
  quiet : (∀ r ∈ t.requests, r.method ≠ "subscribe") → ∀ json ∈ t.received, IsAnswer cast json
  /-- a living daemon goes on with every request, and the client gets the answer if its text can be read; when
  nothing is on the way, all are answered -/
  serves : t.server.terminated = false → ∀ json later, t.toServer = json :: later → ∀ envs,
    ∃ server, (TCPServer.machine texts).step? t.server
        (.message c envs (TCPServer.received cast (some json))) = some server ∧
      ∀ sent, sentSince c t.server server = some sent → t.step? cast texts c (.serve envs) =
        some { t with server, toServer := later, toClient := t.toClient ++ sent }
  complete : t.server.terminated = false → t.toServer = [] → t.toClient = [] →
    (answersIn cast t.received).length = t.requests.length

theorem InStep.works (inStep : InStep cast texts c t) : t.phase ≠ .failed := by
  intro failed
  have phased := inStep.phased
  rwa [Phased, failed] at phased

theorem InStep.admitted (inStep : InStep cast texts c t) :
    ∀ h ∈ (handledBy c t.server).tail, h.executed = Method.ofName? h.request.method := by
  cases calls : handledBy c t.server with
  | nil => exact fun h member => absurd member List.not_mem_nil
  | cons first rest => exact (inStep.opened first rest calls).2.2

theorem InStep.answers (inStep : InStep cast texts c t) :
    answersIn cast t.received <+: said (handledBy c t.server) := by
  rw [← inStep.answered.answers, State.arrived, answersIn_append]
  exact List.prefix_append _ _

theorem InStep.executed (inStep : InStep cast texts c t) :
    (handledBy c t.server).map TCPServer.Handled.request <+: t.requests.map Request.reread := by
  obtain ⟨served, waiting, requests, handled, -⟩ := inStep.queued.order
  rw [handled, requests, List.map_append]
  exact List.prefix_append _ _

theorem InStep.matched (inStep : InStep cast texts c t) :
    (answersIn cast t.received).map ResponseObject.id <+: t.requests.map Request.id := by
  have answers := inStep.answers.map ResponseObject.id
  have executed := inStep.executed.map Request.id
  rw [List.map_map, List.map_map] at executed
  exact (answers.trans inStep.answered.ids).trans executed

theorem InStep.quiet (inStep : InStep cast texts c t) (plain : ∀ r ∈ t.requests, r.method ≠ "subscribe") :
    ∀ json ∈ t.received, IsAnswer cast json := by
  obtain ⟨served, waiting, requests, handled, -⟩ := inStep.queued.order
  intro json member
  refine (inStep.answered.quiet fun h calls => ?_).2 json (List.mem_append_left _ member)
  obtain ⟨r, sent, same⟩ := List.mem_map.mp (handled ▸ List.mem_map_of_mem calls)
  rw [← same]
  exact plain r (requests ▸ List.mem_append_left _ sent)

theorem InStep.serves (inStep : InStep cast texts c t) (alive : t.server.terminated = false)
    (json : Json) (later : List Json) (toServer : t.toServer = json :: later) (envs : ℕ → Env) :
    ∃ server, (TCPServer.machine texts).step? t.server
        (.message c envs (TCPServer.received cast (some json))) = some server ∧
      ∀ sent, sentSince c t.server server = some sent → t.step? cast texts c (.serve envs) =
        some { t with server, toServer := later, toClient := t.toClient ++ sent } := by
  have moved : (TCPServer.machine texts).step? t.server (.message c envs (TCPServer.received cast (some json))) =
      some (TCPServer.threadRecvMsg texts c envs (TCPServer.received cast (some json)) t.server) :=
    (if_neg (Bool.eq_false_iff.mp alive)).trans (if_pos ⟨inStep.queued.accepted, inStep.queued.running⟩)
  refine ⟨_, moved, fun sent read => ?_⟩
  rw [State.step?, toServer]
  dsimp only
  rw [moved, Option.bind_some, read]
  rfl

theorem InStep.complete (inStep : InStep cast texts c t) (alive : t.server.terminated = false)
    (served : t.toServer = []) (read : t.toClient = []) :
    (answersIn cast t.received).length = t.requests.length := by
  obtain ⟨first, waiting, requests, handled, toServer⟩ := inStep.queued.order
  rw [served] at toServer
  obtain rfl := List.map_eq_nil_iff.mp toServer.symm
  have all := inStep.answered.answers
  rw [State.arrived, read, List.append_nil] at all
  have counts := congrArg List.length handled
  rw [List.length_map, List.length_map] at counts
  rw [all, requests, List.append_nil, ← counts, said, List.length_filterMap_eq_countP, List.countP_eq_length]
  intro h member
  rw [Option.isSome_map]
  exact inStep.answered.answered alive h member

/-- However many requests a client has on the way, and whatever the other clients and the rest of the daemon do
in between: its requests are executed in their order, and it reads their answers in the same order. -/
theorem session_in_order (reachable : (machine cast texts c).Reachable t) : InOrder cast texts c t := by
  have inStep := InStep.of_reachable reachable
  exact ⟨inStep.works, inStep.numbered.ids, inStep.executed, inStep.admitted, inStep.answers, inStep.matched,
    inStep.quiet, inStep.serves, inStep.complete⟩

/-- A client that connects. -/
def connects : List Event := [.authenticate "h9cli", .serve fun _ => default, .connected]

def accepted : State := ⟨TCPServer.initial.accept 0 default false, [], [], .start, 1, [], []⟩

theorem start_accepted : Start default 0 accepted :=
  ⟨TCPServer.initial, default, false, .of_initial TCPServer.start_initial, rfl, List.not_mem_nil, rfl⟩

/-- The answer to the first call. -/
def authenticated : TCPServer.Reply := .response ⟨.integer 1, .object [("authentication", .boolean true)]⟩

theorem isUtf8_authenticated : authenticated.entity.toJson.IsUtf8 :=
  (ResponseObject.isUtf8_toJson _).mpr
    ⟨nofun, (Json.isUtf8_object _).mpr ((Json.areUtf8_cons ..).mpr ⟨⟨by decide, nofun⟩, nofun⟩)⟩

theorem isText_authenticationRequest {entity : String} (valid : Utf8.Valid entity) :
    (H9Connector.authenticationRequest entity).toJson.IsText :=
  ⟨(Request.isUtf8_toJson _).mpr
    ⟨nofun, (by decide : Utf8.Valid "authenticate"),
      (Json.areUtf8_cons ..).mpr ⟨⟨by decide, (Json.isUtf8_string _).mpr valid⟩, nofun⟩⟩, nofun⟩

/-- What the server does for the first request. -/
theorem recvRequest_authenticationRequest (texts : Texts) (c : ClientId) (env : Env) (entity : String)
    (s : TCPServer.State) :
    let server := TCPServer.recvRequest texts c env (H9Connector.authenticationRequest entity) s
    server.terminated = s.terminated ∧ sentSince c s server = some [heard authenticated] := by
  have answer : (TCPServer.record texts c env (H9Connector.authenticationRequest entity) s.daemon).answer =
      some authenticated := by
    have value := (call_authenticationRequest texts env c entity s.daemon).1
    rw [TCPServer.Handled.answer, TCPServer.record]
    dsimp only
    rw [value]
    rfl
  have written : authenticated.isWritten = true := decide_eq_true isUtf8_authenticated
  intro server
  have after : server = _ := recvRequest_eq texts c env (H9Connector.authenticationRequest entity) s
  dsimp only at after
  rw [answer] at after
  constructor
  · rw [after]
    simp [written]
  · rw [sentSince_append c s (congrArg TCPServer.State.sent after)]
    simp only [Option.toList_some, List.map_cons, List.map_nil, List.filterMap_cons, if_true, List.filterMap_nil]
    rw [List.mapM_cons, show (TCPServer.Message.reply authenticated).toJson.throughText? = some (heard authenticated)
      from Json.throughText?_of_isUtf8 isUtf8_authenticated]
    rfl

/-- The first steps of a session. -/
theorem connects_run (cast : FloatCast) {entity : String} (valid : Utf8.Valid entity) (start : Start texts c t)
    (env : Env) :
    ∃ u, (machine cast texts c).run? t [.authenticate entity, .serve fun _ => env, .connected] = some u ∧
      u.server.terminated = false ∧ u.toServer = [] ∧ u.toClient = [] ∧
      u.requests.map Request.id = [.integer 1] := by
  have alive : t.server.terminated = false := by
    obtain ⟨s, peer, memory, -, alive, -, rfl⟩ := start
    exact alive
  obtain ⟨sent, empty, phase, requests, received⟩ :
      t.toServer = [] ∧ t.toClient = [] ∧ t.phase = .start ∧ t.requests = [] ∧ t.received = [] := by
    obtain ⟨s, peer, memory, -, -, -, rfl⟩ := start
    exact ⟨rfl, rfl, rfl, rfl, rfl⟩
  let asked : State := { t.send (H9Connector.authenticationRequest entity) with phase := .authenticating }
  have asks : (machine cast texts c).step? t (.authenticate entity) = some asked :=
    if_pos ⟨phase, isText_authenticationRequest valid⟩
  have reached : (machine cast texts c).Reachable asked :=
    (LabeledMachine.Reachable.of_initial start).run ((LabeledMachine.run?_singleton _ _).trans asks)
  have toServer : asked.toServer = [(H9Connector.authenticationRequest entity).toJson.reread] := by
    change t.toServer ++ _ = _
    rw [sent, List.nil_append]
  obtain ⟨server, moved, goes⟩ := (InStep.of_reachable reached).serves alive _ _ toServer fun _ => env
  obtain ⟨living, answered⟩ := recvRequest_authenticationRequest texts c env entity asked.server
  have same : TCPServer.recvRequest texts c env (H9Connector.authenticationRequest entity) asked.server = server := by
    have named : (H9Connector.authenticationRequest entity).method ≠ "" := by
      change "authenticate" ≠ ""
      decide
    rw [received_request named] at moved
    obtain ⟨-, moved⟩ := Option.ite_none_left_eq_some.mp moved
    obtain ⟨-, moved⟩ := Option.ite_none_right_eq_some.mp moved
    exact Option.some.inj moved
  rw [same] at living answered
  let served : State := { asked with server, toServer := [], toClient := t.toClient ++ [heard authenticated] }
  have serves : (machine cast texts c).step? asked (.serve fun _ => env) = some served := goes _ answered
  have toClient : served.toClient = [heard authenticated] := by
    change t.toClient ++ _ = _
    rw [empty, List.nil_append]
  have connect : H9Connector.connect cast (some (heard authenticated)) = .value () :=
    (InStep.of_reachable (reached.run ((LabeledMachine.run?_singleton _ _).trans serves))).connect_eq rfl toClient
  have connected : (machine cast texts c).step? served .connected =
      some (served.take (heard authenticated) [] .ready) := by
    change State.step? cast texts c served .connected = _
    rw [State.step?, toClient, show served.phase = .authenticating from rfl]
    dsimp only
    rw [connect]
  refine ⟨served.take (heard authenticated) [] .ready, ?_, living.trans alive, rfl, rfl, ?_⟩
  · rw [LabeledMachine.run?_cons_eq_some]
    refine ⟨asked, asks, ?_⟩
    rw [LabeledMachine.run?_cons_eq_some]
    exact ⟨served, serves, (LabeledMachine.run?_singleton _ _).trans connected⟩
  · change (t.requests ++ [_]).map Request.id = _
    rw [requests]
    rfl

theorem session_in_order_connects : ∃ t, (machine default default 0).run? accepted connects = some t ∧
    (answersIn default t.received).map ResponseObject.id = [.integer 1] := by
  have valid : Utf8.Valid "h9cli" := by decide
  obtain ⟨t, run, alive, sent, read, ids⟩ := connects_run default valid start_accepted default
  have inOrder := session_in_order ⟨accepted, connects, start_accepted, run⟩
  have whole := inOrder.matched.eq_of_length (by
    rw [List.length_map, List.length_map]
    exact inOrder.complete alive sent read)
  exact ⟨t, run, whole.trans ids⟩

end Session

end H9d
