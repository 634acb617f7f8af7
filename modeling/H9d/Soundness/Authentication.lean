import H9d.Soundness.Handlers
import H9d.Soundness.Requests

/-! # Execution needs authentication

The flag of a connection is written by one method only, and every other method is executed behind a
test of it. So a connection whose flag starts false executes nothing else before it authenticates.
The constructor leaves the flag as it is in memory, and a connection whose flag starts true is served
without authentication.
-/

namespace H9d

open Cxx Nlohmann Jsonrpcpp Machine

namespace API

theorem Method.name_of_ofName? {name : String} {method : Method} (found : ofName? name = some method) :
    method.name = name := by
  simpa only [decide_eq_true_eq] using List.find?_some found

theorem admitted_name {authenticated : Bool} {request : Request} {method : Method}
    (passed : admitted authenticated request = some method) : method.name = request.method :=
  Method.name_of_ofName? (Option.filter_eq_some_iff.mp passed).1

theorem admitted_unauthenticated {request : Request} (other : request.method ≠ "authenticate") :
    admitted false request = none := by
  rw [admitted, Option.filter_eq_none_iff]
  intro method _
  simpa only [Bool.false_or, beq_iff_eq] using other

/-- A call of `authenticate` with a string as entity. -/
def HasEntity (request : Request) : Prop :=
  request.method = Method.authenticate.name ∧
    ∃ entity, request.params.getAt "entity" Json.getString = .ok entity

section Calls

variable (texts : Texts) (env : Env) {me : ClientId} {request : Request} {d : Daemon}

theorem call_refused (refused : admitted (flags d me) request = none) :
    (call texts env me request).outcome d = .throws (.request (methodNotFoundException request.id)) ∧
      (call texts env me request).after d = d := by
  rw [call, Call.read_bind, Call.after_read_bind]
  change admitted (d.clients me).authenticated request = none at refused
  rw [refused]
  exact ⟨rfl, rfl⟩

theorem call_admitted {method : Method} (passed : admitted (flags d me) request = some method) :
    (call texts env me request).after d =
        (method.handler texts env me request.id request.params).after d ∧
      ∀ r, (method.handler texts env me request.id request.params).outcome d = .value r →
        env.stalled = false ∨
          ((method.handler texts env me request.id request.params).after d).port = d.port →
        (call texts env me request).outcome d = .value ⟨request.id, r⟩ := by
  rw [call, Call.read_bind, Call.after_read_bind]
  change admitted (d.clients me).authenticated request = some method at passed
  rw [passed]
  refine ⟨(Call.after_bind_pure _ _ _).trans (after_awaited ..), fun r value quiet => ?_⟩
  exact Call.outcome_bind_of_value ((congrArg Prod.fst (awaited_eq env _ d quiet)).trans value) _

theorem authenticate_of_entity (me : ClientId) (id : Id) {params : Parameter} (d : Daemon) {entity : String}
    (given : params.getAt "entity" Json.getString = .ok entity) :
    (authenticate env me id params).outcome d = .value (.object [("authentication", .boolean true)]) ∧
      (authenticate env me id params).after d =
        d.setClient me ((d.clients me).authenticate entity) := by
  rw [authenticate, given]
  exact ⟨rfl, rfl⟩

theorem authenticate_without_entity {id : Id} {params : Parameter} {e : AccessError}
    (missing : params.getAt "entity" Json.getString = .error e) :
    (authenticate env me id params).after d = d := by
  rw [authenticate, missing]
  rfl

/-- A call leaves every flag alone, unless it authenticates its own connection. -/
theorem call_flags (me : ClientId) (request : Request) (d : Daemon) (c : ClientId) :
    flags ((call texts env me request).after d) c = flags d c ∨
      (c = me ∧ HasEntity request ∧ ∃ r, (call texts env me request).outcome d = .value r) := by
  cases passed : admitted (flags d me) request with
  | none => exact .inl (by rw [(call_refused texts env passed).2])
  | some method =>
    obtain ⟨after, answered⟩ := call_admitted texts env passed
    rw [after]
    rcases eq_or_ne method .authenticate with rfl | other
    · cases given : request.params.getAt "entity" Json.getString with
      | error e => exact .inl (congrArg (flags · c) (authenticate_without_entity env given))
      | ok entity =>
        obtain ⟨value, written⟩ := authenticate_of_entity env me request.id d given
        rcases eq_or_ne c me with rfl | apart
        · have quiet := congrArg Daemon.port written
          exact .inr ⟨rfl, ⟨(admitted_name passed).symm, entity, given⟩, _, answered _ value (.inr quiet)⟩
        · refine .inl ?_
          change flags ((authenticate env me request.id request.params).after d) c = _
          rw [written]
          exact congrArg ClientThread.authenticated (Function.update_of_ne apart _ _)
    · exact .inl (congrFun ((preservesFlags request.id request.params).handler env me texts other d) c)

end Calls

end API

namespace TCPServer

open API

/-- The request authenticated its connection. -/
def Authenticates (c : ClientId) (h : Handled) : Prop :=
  h.client = c ∧ HasEntity h.request ∧ ∃ r, h.outcome = .value r

/-- Nothing was executed, the answer is `MethodNotFound`, and the daemon is as before. -/
def Refused (h : Handled) : Prop :=
  h.executed = none ∧ h.outcome = .throws (.request (methodNotFoundException h.request.id)) ∧
    h.after = h.before

/-- Before a connection authenticates, every request for another method is refused. -/
def Law (c : ClientId) (handled : List Handled) : Prop :=
  ∀ earlier h later, handled = earlier ++ h :: later → h.client = c →
    h.request.method ≠ Method.authenticate.name → (∀ g ∈ earlier, ¬Authenticates c g) → Refused h

theorem law_of_forall_ne {c : ClientId} {handled : List Handled} (others : ∀ h ∈ handled, h.client ≠ c) :
    Law c handled := by
  rintro earlier h later rfl client - -
  exact absurd client (others h (by simp))

theorem Law.append {c : ClientId} {handled : List Handled} {h : Handled} (law : Law c handled)
    (last : h.client = c → h.request.method ≠ Method.authenticate.name →
      (∀ g ∈ handled, ¬Authenticates c g) → Refused h) : Law c (handled ++ [h]) := by
  intro earlier h' later split client other before
  rcases List.eq_nil_or_concat later with rfl | ⟨prior, x, rfl⟩
  · obtain ⟨rfl, same⟩ := List.append_inj' split rfl
    obtain rfl : h = h' := by simpa using same
    exact last client other before
  · have split : handled ++ [h] = (earlier ++ h' :: prior) ++ [x] := by simpa using split
    obtain ⟨front, -⟩ := List.append_inj' split rfl
    exact law earlier h' prior front client other before

/-- The invariant of a connection that was accepted with a false flag. -/
structure Guarded (c : ClientId) (s : State) : Prop where
  accepted : c ∈ s.accepted
  law : Law c s.handled
  locked : (∀ g ∈ s.handled, ¬Authenticates c g) → flags s.daemon c = false

theorem record_refused (texts : Texts) {c : ClientId} (env : Env) {request : Request} {d : Daemon}
    (locked : flags d c = false) (other : request.method ≠ Method.authenticate.name) :
    Refused (record texts c env request d) := by
  have refused : admitted (flags d c) request = none := by
    rw [locked]
    exact admitted_unauthenticated other
  exact ⟨refused, call_refused texts env refused⟩

theorem execute_guarded (texts : Texts) {c me : ClientId} (env : Env) (request : Request) {s : State}
    (guarded : Guarded c s) : Guarded c (execute texts me env request s).1 := by
  refine ⟨guarded.accepted, guarded.law.append ?_, ?_⟩
  · rintro rfl other before
    exact record_refused texts env (guarded.locked before) other
  · intro before
    have locked := guarded.locked fun g member => before g (List.mem_append_left _ member)
    rcases call_flags texts env me request s.daemon c with kept | ⟨rfl, entity, value⟩
    · exact kept.trans locked
    · exact absurd ⟨rfl, entity, value⟩ (before _ (List.mem_append_right _ (List.mem_singleton_self _)))

theorem message_guarded (texts : Texts) {c me : ClientId} (envs : ℕ → Env) (received : Received)
    {s : State} (guarded : Guarded c s) : Guarded c (threadRecvMsg texts me envs received s) :=
  threadRecvMsg_rule (Guarded c) (fun env request _ => execute_guarded texts env request)
    (fun _ _ guarded => ⟨guarded.accepted, guarded.law, guarded.locked⟩)
    (fun _ _ _ guarded => ⟨guarded.accepted, guarded.law, guarded.locked⟩) envs received s guarded

theorem flags_accept (s : State) (c : ClientId) (peer : Peer) (memory : Bool) :
    flags (s.accept c peer memory).daemon c = memory := by
  change (Function.update s.daemon.clients c (connect peer memory) c).authenticated = memory
  rw [Function.update_self, connect]

theorem flags_accept_of_ne (s : State) {c me : ClientId} (apart : c ≠ me) (peer : Peer) (memory : Bool) :
    flags (s.accept me peer memory).daemon c = flags s.daemon c := by
  change (Function.update s.daemon.clients me (connect peer memory) c).authenticated = _
  rw [Function.update_of_ne apart]
  rfl

theorem step_guarded (texts : Texts) {c : ClientId} {s t : State} {e : Event}
    (guarded : Guarded c s) (step : (machine texts).step? s e = some t) : Guarded c t := by
  obtain ⟨-, step⟩ := Option.ite_none_left_eq_some.mp step
  cases e with
  | accept me peer memory =>
    obtain ⟨fresh, ⟨⟩⟩ := Option.ite_none_right_eq_some.mp step
    have apart : c ≠ me := by
      rintro rfl
      exact fresh guarded.accepted
    refine ⟨List.mem_cons_of_mem _ guarded.accepted, guarded.law, fun before => ?_⟩
    exact (flags_accept_of_ne s apart peer memory).trans (guarded.locked before)
  | message me envs received =>
    obtain ⟨-, ⟨⟩⟩ := Option.ite_none_right_eq_some.mp step
    exact message_guarded texts envs received guarded
  | elsewhere nodeMgr port counterMap =>
    obtain rfl := Option.some.inj step
    exact ⟨guarded.accepted, guarded.law, guarded.locked⟩

/-- Whoever had a request handled had been accepted. -/
def Known (s : State) : Prop := ∀ h ∈ s.handled, h.client ∈ s.accepted

theorem execute_known (texts : Texts) {c : ClientId} (env : Env) (request : Request) {s : State}
    (known : Known s ∧ c ∈ s.accepted) :
    Known (execute texts c env request s).1 ∧ c ∈ (execute texts c env request s).1.accepted := by
  refine ⟨fun h member => ?_, known.2⟩
  rcases List.mem_append.mp member with old | new
  · exact known.1 h old
  · obtain rfl := List.mem_singleton.mp new
    exact known.2

theorem step_known (texts : Texts) {s t : State} {e : Event} (known : Known s)
    (step : (machine texts).step? s e = some t) : Known t := by
  obtain ⟨-, step⟩ := Option.ite_none_left_eq_some.mp step
  cases e with
  | accept me peer memory =>
    obtain ⟨-, ⟨⟩⟩ := Option.ite_none_right_eq_some.mp step
    exact fun h member => List.mem_cons_of_mem _ (known h member)
  | message me envs received =>
    obtain ⟨⟨accepted, -⟩, ⟨⟩⟩ := Option.ite_none_right_eq_some.mp step
    exact (threadRecvMsg_rule (fun s => Known s ∧ me ∈ s.accepted)
      (fun env request _ => execute_known texts env request) (fun _ _ known => known)
      (fun _ _ _ known => known) envs received s ⟨known, accepted⟩).1
  | elsewhere nodeMgr port counterMap =>
    obtain rfl := Option.some.inj step
    exact known

theorem reachable_known {texts : Texts} {s : State} (reachable : (machine texts).Reachable s) :
    Known s := by
  refine reachable.invariant Known ?_ fun s e t => step_known texts
  intro s start h member
  rw [start.2.2.2.2] at member
  cases member

/-- A request that any connection may send. -/
def versionRequest : Request := ⟨.null, "get_version", .null⟩

/-- With a flag that is true from the start the first request is executed. -/
theorem executed_at_once (texts : Texts) (c : ClientId) (env : Env) {d : Daemon}
    (unlocked : flags d c = true) : ¬Refused (record texts c env versionRequest d) := by
  rintro ⟨executed, -⟩
  change admitted (flags d c) versionRequest = none at executed
  rw [unlocked] at executed
  exact absurd executed (by decide)

/-- What a message with that request does. -/
def asksVersion (texts : Texts) (c : ClientId) (env : Env) (s : State) : State :=
  threadRecvMsg texts c (fun _ => env) (.entity (some (.request versionRequest))) s

theorem run_asksVersion (texts : Texts) (env : Env) {s : State} (live : ¬s.terminated = true)
    (c : ClientId) (peer : Peer) (memory : Bool) :
    (machine texts).run? (s.accept c peer memory)
        [.message c (fun _ => env) (.entity (some (.request versionRequest)))] =
      some (asksVersion texts c env (s.accept c peer memory)) := by
  rw [LabeledMachine.run?_singleton]
  exact (if_neg live).trans (if_pos ⟨List.mem_cons_self .., Function.update_self ..⟩)

theorem not_law_asksVersion (texts : Texts) (env : Env) {s : State} {c : ClientId} (peer : Peer)
    (others : ∀ h ∈ s.handled, h.client ≠ c) :
    ¬Law c (asksVersion texts c env (s.accept c peer true)).handled := by
  intro law
  refine executed_at_once texts c env (flags_accept s c peer true) ?_
  refine law s.handled _ [] (recvRequest_handled texts c env versionRequest _) rfl ?_ ?_
  · simp [record, versionRequest, Method.name]
  · exact fun g member authenticated => others g member authenticated.1

/-- The methods of a connection are behind its authentication exactly if the memory that becomes its
flag holds false when the connection is accepted. -/
theorem methods_need_authentication (texts : Texts) {s s₀ : State} {c : ClientId} {peer : Peer}
    {memory : Bool} (reachable : (machine texts).Reachable s)
    (accepted : (machine texts).step? s (.accept c peer memory) = some s₀) :
    (∀ es t, (machine texts).run? s₀ es = some t → Law c t.handled ∧ Delivered t) ↔ memory = false := by
  obtain ⟨live, step⟩ := Option.ite_none_left_eq_some.mp accepted
  obtain ⟨fresh, ⟨⟩⟩ := Option.ite_none_right_eq_some.mp step
  have others : ∀ h ∈ s.handled, h.client ≠ c := by
    rintro h member rfl
    exact fresh (reachable_known reachable h member)
  constructor
  · intro law
    cases memory with
    | false => rfl
    | true =>
      exact absurd (law _ _ (run_asksVersion texts default live c peer true)).1
        (not_law_asksVersion texts default peer others)
  · rintro rfl es t run
    have first : Guarded c (s.accept c peer false) :=
      ⟨List.mem_cons_self .., law_of_forall_ne others, fun _ => flags_accept s c peer false⟩
    have start : (machine texts).Reachable (s.accept c peer false) :=
      reachable.run ((LabeledMachine.run?_singleton _ _).trans accepted)
    exact ⟨(LabeledMachine.run_invariant (Guarded c) (fun s e t => step_guarded texts) first run).law,
      reachable_delivered (start.run run)⟩

theorem step_accept_initial (c : ClientId) (peer : Peer) (memory : Bool) :
    (machine default).step? initial (.accept c peer memory) = some (initial.accept c peer memory) := by
  have fresh : c ∉ initial.accepted := List.not_mem_nil
  change (if initial.terminated then none else step? default initial (.accept c peer memory)) = _
  rw [if_neg (show ¬initial.terminated = true from Bool.false_ne_true), step?, if_pos fresh]

theorem methods_need_authentication_first :
    (machine default).step? initial (.accept 0 default false) = some (initial.accept 0 default false) ∧
      ∀ es t, (machine default).run? (initial.accept 0 default false) es = some t →
        Law 0 t.handled ∧ Delivered t := by
  have accepted := step_accept_initial 0 default false
  exact ⟨accepted, (methods_need_authentication default (.of_initial start_initial) accepted).mpr rfl⟩

/-- A connection that authenticates never, but finds its flag true, gets its request executed. -/
theorem served_without_authentication :
    ∃ t, (machine default).run? initial
        [.accept 0 default true,
          .message 0 (fun _ => default) (.entity (some (.request versionRequest)))] = some t ∧
      ¬Law 0 t.handled := by
  have others : ∀ h ∈ initial.handled, h.client ≠ 0 := fun _ member => absurd member List.not_mem_nil
  refine ⟨_, ?_, not_law_asksVersion default default default others⟩
  rw [LabeledMachine.run?_cons_eq_some]
  exact ⟨_, step_accept_initial 0 default true,
    run_asksVersion default default Bool.false_ne_true 0 default true⟩

end TCPServer

end H9d
