import H9d.Model.API
import H9d.Soundness.CounterTree
import H9d.Soundness.DescriptionFiles
import H9d.Soundness.RegisterOutcomes
import H9d.Soundness.SendFrameRequests

/-! # Which requests are answered

The thread of a client expects a response or one kind of exception from a call. Each handler turns
the exceptions of its own accesses into that kind; what a node or the node manager raises is turned
where the handler has a `catch`. For each method there is the exact condition under which its
requests are answered.
-/

namespace H9d

open Cxx Nlohmann Jsonrpcpp H9Frame

/-- The exception that the thread of a client catches. -/
def Exception.IsRequest : Exception → Prop
  | .request _ => True
  | .devNode _ | .access _ => False

namespace API

section Catch

variable {α β : Type} (id : Id) (d : Daemon)

theorem orInvalidParams_bind_only {x : Except AccessError α} {k : α → Call Daemon Exception β} :
    ((orInvalidParams id x >>= k).outcome d).Only Exception.IsRequest ↔
      ∀ a, x = .ok a → ((k a).outcome d).Only Exception.IsRequest := by
  cases x with
  | ok a => simp [orInvalidParams]
  | error e => exact iff_of_true trivial nofun

theorem uncaught_only {c : Call Port DevNodeException α} :
    ((uncaught c).outcome d).Only Exception.IsRequest ↔ (c.outcome d.port).Returns := by
  change (Call.tryCatch _ _ d).1.Only _ ↔ _
  rw [Call.tryCatch, Call.outcome_on]
  cases c.outcome d.port with
  | value a => exact Iff.rfl
  | throws e => exact Iff.rfl
  | undefined => exact Iff.rfl

theorem orDevNodeError_only {c : Call Port DevNodeException α} :
    ((orDevNodeError id c).outcome d).Only Exception.IsRequest ↔ (c.outcome d.port).Defined :=
  Call.only_tryCatch fun _ _ => trivial

theorem orDevNodeError_throws {c : Call Port DevNodeException α} {e : DevNodeException}
    (throws : c.outcome d.port = .throws e) :
    (orDevNodeError id c).outcome d = .throws (requestException id e) :=
  Call.outcome_tryCatch_of_throws throws

theorem orDevError_only {c : Call Port Exception α} :
    ((orDevError id c).outcome d).Only Exception.IsRequest ↔
      (c.outcome d.port).Only fun e => ∀ a, e ≠ .access a := by
  change (Call.tryCatch _ _ d).1.Only _ ↔ _
  rw [Call.tryCatch, Call.outcome_on]
  cases c.outcome d.port with
  | value a => exact Iff.rfl
  | throws e =>
    cases e with
    | devNode e => exact iff_of_true trivial (fun a same => by cases same)
    | request e => exact iff_of_true trivial (fun a same => by cases same)
    | access a => exact iff_of_false (fun only => only) fun none => none a rfl
  | undefined => exact Iff.rfl

theorem orDevError_returns {c : Call Port Exception α} (returns : (c.outcome d.port).Returns) :
    ((orDevError id c).outcome d).Returns := by
  obtain ⟨a, value⟩ := Outcome.returns_iff.mp returns
  change (Call.tryCatch _ _ d).1.Only _
  rw [Call.tryCatch, Call.outcome_on, value]
  trivial

theorem orDevError_throws {c : Call Port Exception α} {e : DevNodeException}
    (throws : c.outcome d.port = .throws (.devNode e)) :
    (orDevError id c).outcome d = .throws (requestException id e) :=
  Call.outcome_tryCatch_of_throws (c := c.on Daemon.port fun port d => { d with port }) throws

theorem orInvalidParams_bind {x : Except AccessError α} {a : α} (read : x = .ok a)
    (k : α → Call Daemon Exception β) : (orInvalidParams id x >>= k).outcome d = (k a).outcome d := by
  subst read
  rfl

/-- An operation on a node with its `catch`. -/
theorem operation_only (c : Call Port DevNodeException α) (f : α → β) :
    ((orDevNodeError id c >>= fun a => pure (f a)).outcome d).Only Exception.IsRequest ↔
      (c.outcome d.port).Defined :=
  (Call.only_bind_of_forall (k := fun a => pure (f a)) fun _ _ => trivial).trans
    (orDevNodeError_only id d)

theorem operation_throws {c : Call Port DevNodeException α} {e : DevNodeException}
    (throws : c.outcome d.port = .throws e) (f : α → β) :
    (orDevNodeError id c >>= fun a => pure (f a)).outcome d = .throws (requestException id e) :=
  Call.outcome_bind_of_throws (orDevNodeError_throws id d throws) _

end Catch

/-- The exceptions that a node or the node manager raises while a method is executed. -/
inductive Raises (env : Env) (id : Id) (params : Parameter) (d : Daemon) : Method → DevNodeException → Prop
  | getNodeInfo {n e} : nodeId env.cast params = .ok n →
      (d.nodeMgr.getNodeInfo n).outcome d.port = .throws e → Raises env id params d .getNodeInfo e
  | nodeReset {n e} : nodeId env.cast params = .ok n →
      (d.nodeMgr.nodeReset env n).outcome d.port = .throws e → Raises env id params d .nodeReset e
  | getRegisterValue {n reg e} : registerParams env.cast params = .ok (n, reg) →
      (d.nodeMgr.getRegister env n reg).outcome d.port = .throws e →
      Raises env id params d .getRegisterValue e
  | setRegisterValue {n reg value e} : setRegisterParams env.cast params = .ok ((n, reg), some value) →
      (d.nodeMgr.setRegister env n reg value).outcome d.port = .throws e →
      Raises env id params d .setRegisterValue e
  | setRegisterBit {n reg bit e} : bitParams env.cast params = .ok ((n, reg), bit) →
      (d.nodeMgr.setRegisterBit env n reg bit).outcome d.port = .throws e →
      Raises env id params d .setRegisterBit e
  | clearRegisterBit {n reg bit e} : bitParams env.cast params = .ok ((n, reg), bit) →
      (d.nodeMgr.clearRegisterBit env n reg bit).outcome d.port = .throws e →
      Raises env id params d .clearRegisterBit e
  | getDevDescription {name e} : devName params = .ok name →
      (d.nodeMgr.getDevDescription env name).outcome d.port = .throws (.devNode e) →
      Raises env id params d .getDevDescription e
  | getDevStatus {name e} : devName params = .ok name →
      (d.nodeMgr.getDevState name).outcome d.port = .throws (.devNode e) →
      Raises env id params d .getDevStatus e
  | devMethodCall {name method e} : devMethodParams params = .ok (name, method) →
      (d.nodeMgr.callDevMethod env name id params).outcome d.port = .throws (.devNode e) →
      Raises env id params d .devMethodCall e
  /-- in the device, which catches it itself -/
  | command {name method dev body e} {c : Dev.Command} : devMethodParams params = .ok (name, method) →
      d.nodeMgr.devsMap.lookup name = some dev → (Dev.methodMap env.cast dev.kind).lookup method = some body →
      body params = .ok c →
      (d.nodeMgr.setRegister env c.nodeId c.reg (.int c.value)).outcome d.port = .throws e →
      Raises env id params d .devMethodCall e

/-- The condition under which a request for a method is answered. -/
def Method.Serves (env : Env) (me : ClientId) (params : Parameter) (d : Daemon) : Method → Prop
  | .subscribe => ∀ event, params.getAt "event" Json.getString = .ok event → env.assertions = true →
      (event = "frame" → (d.clients me).frameObserver = false) ∧
        (event = "dev_status" → (d.clients me).devStatusObserver = false)
  | .getStats => MetricsCollector.CountersFit d.counterMap
      (.object [("uptime", .numberInteger (BitVec.ofInt 64 (env.now - d.startTime)))])
  | .reloadNodesDescription => NodeDescLoader.Complete env.nodesFile
  | .getNodeInfo => ∀ n, nodeId env.cast params = .ok n → d.nodeMgr.SomeAt n fun _ => True
  | .nodeReset | .getRegistersList => ∀ n, nodeId env.cast params = .ok n → n.toNat ≤ H9Frame.ID_MAX_VALUE
  | .getRegisterValue => ∀ n reg, registerParams env.cast params = .ok (n, reg) →
      d.nodeMgr.EveryAt n (Node.SafeGet env reg)
  | .setRegisterValue => ∀ n reg value, setRegisterParams env.cast params = .ok ((n, reg), some value) →
      d.nodeMgr.EveryAt n (Node.SafeSet env reg value)
  | .setRegisterBit | .clearRegisterBit => ∀ n reg bit, bitParams env.cast params = .ok ((n, reg), bit) →
      d.nodeMgr.EveryAt n (Node.SafeBit env reg)
  | .devMethodCall => ∀ name method, devMethodParams params = .ok (name, method) →
      ∀ dev, d.nodeMgr.devsMap.lookup name = some dev →
      ∀ body, (Dev.methodMap env.cast dev.kind).lookup method = some body →
      ∀ c, body params = .ok c → d.nodeMgr.SomeAt c.nodeId (Node.TakesInt env c.reg)
  | .sendFrame => ∀ frame raw, sendFrameParams env params = .ok (frame, raw) →
      frame.type.toNat < 2 ^ TYPE_BIT_LENGTH ∧ frame.dlc.toNat ≤ MAX_DATA_LENGTH
  | .authenticate | .discoverNodes | .getDevDescription | .getDevStatus | .getDevsList | .getMethodsList
  | .getNodesList | .getTcpClients | .getVersion => True

/-- The outcome is a response or an exception for the client, and every exception of a node has become
one that carries its code and text. -/
def Answers {α : Type} (id : Id) (raises : DevNodeException → Prop) (x : Outcome Exception α) : Prop :=
  x.Only Exception.IsRequest ∧ ∀ e, raises e → x = .throws (requestException id e)

section Handlers

variable {α : Type} (texts : Texts) (env : Env) (me : ClientId) (id : Id) (params : Parameter) (d : Daemon)

theorem answers_iff_only {raises : DevNodeException → Prop} {x : Outcome Exception α}
    (none : ∀ e, ¬raises e) : Answers id raises x ↔ x.Only Exception.IsRequest :=
  and_iff_left fun e raised => absurd raised (none e)

theorem answers_iff_of_turned {raises : DevNodeException → Prop} {x : Outcome Exception α}
    (turned : ∀ e, raises e → x = .throws (requestException id e)) :
    Answers id raises x ↔ x.Only Exception.IsRequest :=
  and_iff_left turned

theorem answers_bind_pure {β : Type} {raises : DevNodeException → Prop} (c : Call Daemon Exception α)
    (f : α → β) : Answers id raises ((c >>= fun a => pure (f a)).outcome d) ↔
      Answers id raises (c.outcome d) := by
  change Answers id raises (Call.bind c _ d).1 ↔ _
  rw [Call.bind]
  cases c.outcome d <;> simp [Answers, pure]

/-- A request for an operation on a node, with the `catch` around the operation. -/
theorem nodeRequest_answers {β γ : Type} {raises : DevNodeException → Prop} {Ends : γ → Prop}
    (x : Except AccessError γ) (operation : γ → NodeMgr → Call Port DevNodeException α) (json : α → β)
    (ends : ∀ a, ((operation a d.nodeMgr).outcome d.port).Defined ↔ Ends a)
    (raised : ∀ e, raises e → ∃ a, x = .ok a ∧ (operation a d.nodeMgr).outcome d.port = .throws e) :
    Answers id raises ((orInvalidParams id x >>= fun a => Call.read Daemon.nodeMgr >>= fun m =>
      orDevNodeError id (operation a m) >>= fun r => pure (json r)).outcome d) ↔ ∀ a, x = .ok a → Ends a := by
  rw [answers_iff_of_turned, orInvalidParams_bind_only]
  · refine forall₂_congr fun a _ => ?_
    rw [Call.read_bind, operation_only]
    exact ends a
  · intro e raise
    obtain ⟨a, read, throws⟩ := raised e raise
    rw [orInvalidParams_bind id d read]
    exact operation_throws id d throws _

/-- A request to a device, which may answer with an exception for the client itself. -/
theorem devRequest_answers {γ : Type} {raises : DevNodeException → Prop} (x : Except AccessError γ)
    (operation : γ → NodeMgr → Call Port Exception α)
    (ends : ∀ a, ((operation a d.nodeMgr).outcome d.port).Only fun e => ∀ access, e ≠ .access access)
    (raised : ∀ e, raises e → ∃ a, x = .ok a ∧ (operation a d.nodeMgr).outcome d.port = .throws (.devNode e)) :
    Answers id raises ((orInvalidParams id x >>= fun a => Call.read Daemon.nodeMgr >>= fun m =>
      orDevError id (operation a m)).outcome d) := by
  rw [answers_iff_of_turned, orInvalidParams_bind_only]
  · intro a _
    rw [Call.read_bind, orDevError_only]
    exact ends a
  · intro e raise
    obtain ⟨a, read, throws⟩ := raised e raise
    rw [orInvalidParams_bind id d read]
    exact orDevError_throws id d throws

theorem setFrameObserver_only {P : Exception → Prop} : ((setFrameObserver env me).outcome d).Only P ↔
    (env.assertions = true → (d.clients me).frameObserver = false) := by
  rw [setFrameObserver, Call.read_bind]
  cases env.assertions <;> cases (d.clients me).frameObserver <;> simp

theorem setDevStatusObserver_only {P : Exception → Prop} :
    ((setDevStatusObserver env me).outcome d).Only P ↔
      (env.assertions = true → (d.clients me).devStatusObserver = false) := by
  rw [setDevStatusObserver, Call.read_bind]
  cases env.assertions <;> cases (d.clients me).devStatusObserver <;> simp

theorem subscribe_only : ((subscribe env me id params).outcome d).Only Exception.IsRequest ↔
    Method.Serves env me params d .subscribe := by
  rw [subscribe, orInvalidParams_bind_only, Method.Serves]
  refine forall₂_congr fun event _ => ?_
  rcases eq_or_ne event "frame" with rfl | other
  · rw [if_pos rfl, Call.only_bind_of_forall (fun _ _ => by trivial), setFrameObserver_only]
    simp
  · rw [if_neg other]
    rcases eq_or_ne event "dev_status" with rfl | neither
    · rw [if_pos rfl, Call.only_bind_of_forall (fun _ _ => by trivial), setDevStatusObserver_only]
      simp
    · rw [if_neg neither]
      exact iff_of_true trivial fun _ => ⟨fun h => absurd h other, fun h => absurd h neither⟩

theorem getStats_only : ((getStats env me id params).outcome d).Only Exception.IsRequest ↔
    Method.Serves env me params d .getStats := by
  rw [getStats, Call.read_bind, Method.Serves, ← MetricsCollector.metricsToJson_ok]
  dsimp only
  cases MetricsCollector.metricsToJson _ _ with
  | ok j => exact iff_of_true trivial ⟨j, rfl⟩
  | error e => exact iff_of_false (fun only => only) nofun

theorem reloadNodesDescription_only :
    ((reloadNodesDescription env me id params).outcome d).Only Exception.IsRequest ↔
      Method.Serves env me params d .reloadNodesDescription := by
  rw [reloadNodesDescription, Call.read_bind, Call.only_bind_of_forall, uncaught_only, Method.Serves,
    ← NodeDescLoader.reload_returns DevNodeException, Call.outcome_ofOutcome, Outcome.Returns,
    NodeMgr.reloadNodesDescription, Outcome.only_bind]
  · exact and_iff_left fun _ _ => trivial
  · exact fun _ _ => trivial

theorem getNodeInfo_answers : Answers id (Raises env id params d .getNodeInfo)
    ((getNodeInfo texts env me id params).outcome d) ↔ Method.Serves env me params d .getNodeInfo := by
  have only : ((getNodeInfo texts env me id params).outcome d).Only Exception.IsRequest ↔
      Method.Serves env me params d .getNodeInfo := by
    rw [getNodeInfo, orInvalidParams_bind_only]
    refine forall₂_congr fun n _ => ?_
    rw [Call.read_bind, Call.only_bind_of_forall, uncaught_only]
    · exact NodeMgr.withNode_returns _ _ _ fun _ => Iff.rfl
    · exact fun _ _ => trivial
  refine ⟨fun answers => only.mp answers.1, fun serves => ⟨only.mpr serves, fun e raised => ?_⟩⟩
  cases raised with
  | getNodeInfo read throws =>
    have returns := (@NodeMgr.withNode_returns _ _ _ pure _ d.port fun _ => Iff.rfl).mpr
      (serves _ read)
    exact absurd throws ((Outcome.returns_iff_defined.mp returns).2 e)

theorem nodeReset_answers : Answers id (Raises env id params d .nodeReset)
    ((nodeReset env me id params).outcome d) ↔ Method.Serves env me params d .nodeReset := by
  refine nodeRequest_answers id d (nodeId env.cast params) (fun n m => m.nodeReset env n)
    (fun _ => Json.boolean true) (fun n => ?_) ?_
  · rw [NodeMgr.nodeReset, NodeMgr.withNode_defined (P := fun _ => True) _ _ _ fun node =>
      iff_of_true (Node.nodeReset_defined ..) trivial]
    simp only [NodeMgr.EveryAt, Nat.lt_succ_iff, implies_true, exists_prop, and_true]
  · intro e raised
    cases raised with
    | nodeReset read throws => exact ⟨_, read, throws⟩

theorem getRegistersList_only :
    ((getRegistersList env me id params).outcome d).Only Exception.IsRequest ↔
      Method.Serves env me params d .getRegistersList := by
  rw [getRegistersList, orInvalidParams_bind_only]
  refine forall₂_congr fun n _ => ?_
  rw [Call.read_bind, Call.only_bind, uncaught_only, Call.outcome_ofOutcome, NodeMgr.isNodeExist,
    Outcome.Returns, Outcome.only_bind]
  by_cases inside : n.toNat < H9Frame.ID_MAX_VALUE + 1
  · have entry : (d.nodeMgr.nodeAt n : Outcome DevNodeException _) = .value _ := dif_pos inside
    rw [entry]
    refine iff_of_true ⟨⟨trivial, fun _ _ => trivial⟩, fun exist _ => ?_⟩ (Nat.lt_succ_iff.mp inside)
    cases exist with
    | false => trivial
    | true =>
      rw [if_pos rfl, Call.only_bind_of_forall, uncaught_only, Call.outcome_ofOutcome,
        NodeMgr.getRegistersList, entry]
      · trivial
      · exact fun _ _ => trivial
  · have entry : (d.nodeMgr.nodeAt n : Outcome DevNodeException _) = .undefined := dif_neg inside
    rw [entry]
    exact iff_of_false (fun only => only.1.1) fun le => inside (Nat.lt_succ_iff.mpr le)

theorem getRegisterValue_answers : Answers id (Raises env id params d .getRegisterValue)
    ((getRegisterValue env me id params).outcome d) ↔ Method.Serves env me params d .getRegisterValue := by
  refine (nodeRequest_answers id d (registerParams env.cast params) (fun a m => m.getRegister env a.1 a.2)
    (registerJson env.cast) (fun a => NodeMgr.withNode_defined _ _ _ fun node =>
      Node.getRegister_defined env node a.2 d.port) ?_).trans Prod.forall
  intro e raised
  cases raised with
  | getRegisterValue read throws => exact ⟨_, read, throws⟩

theorem setRegisterValue_answers : Answers id (Raises env id params d .setRegisterValue)
    ((setRegisterValue env me id params).outcome d) ↔ Method.Serves env me params d .setRegisterValue := by
  rw [answers_iff_of_turned, setRegisterValue, orInvalidParams_bind_only, Prod.forall, Prod.forall,
    Method.Serves]
  · refine forall₂_congr fun n reg => ⟨fun only value read => ?_, fun safe value read => ?_⟩
    · have ends := only (some value) read
      rw [Call.read_bind, operation_only] at ends
      exact (NodeMgr.withNode_defined _ _ _ fun node =>
        Node.setRegister_defined env node reg d.port value).mp ends
    · cases value with
      | none => trivial
      | some value =>
        rw [Call.read_bind, operation_only]
        exact (NodeMgr.withNode_defined _ _ _ fun node =>
          Node.setRegister_defined env node reg d.port value).mpr (safe value read)
  · intro e raised
    cases raised with
    | setRegisterValue read throws =>
      rw [setRegisterValue, orInvalidParams_bind id d read]
      exact operation_throws id d throws _

theorem setRegisterBit_answers : Answers id (Raises env id params d .setRegisterBit)
    ((setRegisterBit env me id params).outcome d) ↔ Method.Serves env me params d .setRegisterBit := by
  refine (nodeRequest_answers id d (bitParams env.cast params) (fun a m => m.setRegisterBit env a.1.1 a.1.2 a.2)
    (bitsJson env.cast) (fun a => NodeMgr.withNode_defined _ _ _ fun node =>
      Node.setRegisterBit_defined env node a.1.2 d.port a.2) ?_).trans ?_
  · intro e raised
    cases raised with
    | setRegisterBit read throws => exact ⟨_, read, throws⟩
  · rw [Prod.forall, Prod.forall]
    rfl

theorem clearRegisterBit_answers : Answers id (Raises env id params d .clearRegisterBit)
    ((clearRegisterBit env me id params).outcome d) ↔ Method.Serves env me params d .clearRegisterBit := by
  refine (nodeRequest_answers id d (bitParams env.cast params) (fun a m => m.clearRegisterBit env a.1.1 a.1.2 a.2)
    (bitsJson env.cast) (fun a => NodeMgr.withNode_defined _ _ _ fun node =>
      Node.clearRegisterBit_defined env node a.1.2 d.port a.2) ?_).trans ?_
  · intro e raised
    cases raised with
    | clearRegisterBit read throws => exact ⟨_, read, throws⟩
  · rw [Prod.forall, Prod.forall]
    rfl

theorem devMethodParams_method {name method : String}
    (read : devMethodParams params = .ok (name, method)) :
    ∃ value, params.paramMap.lookup "method" = some value ∧ value.getString = .ok method := by
  obtain ⟨devName, -, rest⟩ := bind_eq_ok.mp read
  obtain ⟨m, get, ⟨⟩⟩ := bind_eq_ok.mp rest
  obtain ⟨value, found, text⟩ := bind_eq_ok.mp get
  refine ⟨value, ?_, text⟩
  rw [atKey] at found
  cases entry : params.paramMap.lookup "method" with
  | none => simp [entry] at found
  | some v => simpa [entry] using found

/-- A device that is found looks the method up by its checked name. -/
theorem callDevMethod_found {name method : String} {dev : Dev}
    (read : devMethodParams params = .ok (name, method))
    (found : d.nodeMgr.devsMap.lookup name = some dev) :
    d.nodeMgr.callDevMethod env name id params =
      match (Dev.methodMap env.cast dev.kind).lookup method with
      | some body =>
        match body params with
        | .ok command => command.execute env d.nodeMgr
        | .error e => Call.throw (.request
            (invalidParamsException ("Method '" ++ method ++ "' execution error: " ++ e.what ++ ".") id))
      | none => Call.throw (.request
          (invalidParamsException ("Dev object does not provide '" ++ method ++ "' method.") id)) := by
  obtain ⟨value, entry, text⟩ := devMethodParams_method params read
  rw [NodeMgr.callDevMethod, NodeMgr.withDev, found]
  dsimp only
  rw [Dev.callDevMethod, entry]
  dsimp only
  revert text
  generalize value.getString = read'
  rintro rfl
  rfl

theorem execute_only {P : Exception → Prop} (m : NodeMgr) (c : Dev.Command) (port : Port) :
    ((c.execute env m).outcome port).Only P ↔
      ((m.setRegister env c.nodeId c.reg (.int c.value)).outcome port).Defined := by
  rw [Dev.Command.execute, Call.only_tryCatch]
  · exact Call.only_bind_of_forall fun _ _ => trivial
  · exact fun _ _ => trivial

/-- A method of a device throws nothing but errors about its parameters, and ends if its command does. -/
theorem callDevMethod_only {name method : String} (read : devMethodParams params = .ok (name, method)) :
    ((d.nodeMgr.callDevMethod env name id params).outcome d.port).Only (fun e => ∀ a, e ≠ .access a) ↔
      ∀ dev, d.nodeMgr.devsMap.lookup name = some dev →
      ∀ body, (Dev.methodMap env.cast dev.kind).lookup method = some body →
      ∀ c, body params = .ok c →
        ((d.nodeMgr.setRegister env c.nodeId c.reg (.int c.value)).outcome d.port).Defined := by
  cases found : d.nodeMgr.devsMap.lookup name with
  | none =>
    rw [NodeMgr.callDevMethod, NodeMgr.withDev, found]
    exact iff_of_true nofun nofun
  | some dev =>
    rw [callDevMethod_found env id params d read found]
    simp only [Option.some.injEq, forall_eq']
    cases (Dev.methodMap env.cast dev.kind).lookup method with
    | none => exact iff_of_true nofun nofun
    | some body =>
      simp only [Option.some.injEq, forall_eq']
      cases body params with
      | error e => exact iff_of_true nofun nofun
      | ok c =>
        simp only [Except.ok.injEq, forall_eq']
        exact execute_only env d.nodeMgr c d.port

theorem setRegister_int_returns (n : BitVec 16) (reg : Byte) (v : BitVec 64) :
    ((d.nodeMgr.setRegister env n reg (.int v)).outcome d.port).Returns ↔
      d.nodeMgr.SomeAt n (Node.TakesInt env reg) :=
  NodeMgr.withNode_returns _ _ _ fun node => Node.setRegister_int_returns env node reg d.port v

theorem devMethodCall_answers : Answers id (Raises env id params d .devMethodCall)
    ((devMethodCall env me id params).outcome d) ↔ Method.Serves env me params d .devMethodCall := by
  have only : ((devMethodCall env me id params).outcome d).Only Exception.IsRequest ↔
      ∀ name method, devMethodParams params = .ok (name, method) →
        ((d.nodeMgr.callDevMethod env name id params).outcome d.port).Only fun e => ∀ a, e ≠ .access a := by
    rw [devMethodCall, orInvalidParams_bind_only, Prod.forall]
    refine forall₃_congr fun name method _ => ?_
    rw [Call.read_bind, orDevError_only]
  constructor
  · rintro ⟨requests, turned⟩ name method read dev found body provided c command
    rw [← setRegister_int_returns env d c.nodeId c.reg c.value, Outcome.returns_iff_defined]
    have ends := (callDevMethod_only env id params d read).mp (only.mp requests name method read) dev found
      body provided c command
    refine ⟨ends, fun e throws => ?_⟩
    -- the device catches the exception, and the request is answered as if nothing had happened
    have returns : ((orDevError id (d.nodeMgr.callDevMethod env name id params)).outcome d).Returns := by
      apply orDevError_returns
      rw [callDevMethod_found env id params d read found, provided]
      dsimp only
      rw [command]
      exact (execute_only env d.nodeMgr c d.port).mpr ends
    have error := turned e (.command read found provided command throws)
    rw [devMethodCall, orInvalidParams_bind id d read] at error
    exact (Outcome.returns_iff_defined.mp returns).2 _ error
  · intro serves
    refine ⟨only.mpr fun name method read => ?_, fun e raised => ?_⟩
    · refine (callDevMethod_only env id params d read).mpr fun dev found body provided c command => ?_
      have returns := (setRegister_int_returns env d c.nodeId c.reg c.value).mpr
        (serves name method read dev found body provided c command)
      exact (Outcome.returns_iff_defined.mp returns).1
    · cases raised with
      | devMethodCall read throws =>
        rw [devMethodCall, orInvalidParams_bind id d read]
        exact orDevError_throws id d throws
      | @command name method dev body e c read found provided command throws =>
        have returns := (setRegister_int_returns env d c.nodeId c.reg c.value).mpr
          (serves name method read dev found body provided c command)
        exact absurd throws ((Outcome.returns_iff_defined.mp returns).2 e)

theorem withDev_only {name : String} {operation : Dev → Call Port Exception α}
    (ends : ∀ dev, ((operation dev).outcome d.port).Only fun e => ∀ access, e ≠ .access access) :
    ((d.nodeMgr.withDev name operation).outcome d.port).Only fun e => ∀ access, e ≠ .access access := by
  rw [NodeMgr.withDev]
  cases d.nodeMgr.devsMap.lookup name with
  | none => exact nofun
  | some dev => exact ends dev

theorem getDevDescription_answers : Answers id (Raises env id params d .getDevDescription)
    ((getDevDescription env me id params).outcome d) := by
  refine devRequest_answers id d (devName params) (fun name m => m.getDevDescription env name)
    (fun name => withDev_only d fun dev => trivial) ?_
  intro e raised
  cases raised with
  | getDevDescription read throws => exact ⟨_, read, throws⟩

theorem getDevStatus_answers : Answers id (Raises env id params d .getDevStatus)
    ((getDevStatus env me id params).outcome d) := by
  refine devRequest_answers id d (devName params) (fun name m => m.getDevState name)
    (fun name => withDev_only d fun dev => trivial) ?_
  intro e raised
  cases raised with
  | getDevStatus read throws => exact ⟨_, read, throws⟩

theorem sendFrame_only : ((sendFrame env me id params).outcome d).Only Exception.IsRequest ↔
    Method.Serves env me params d .sendFrame := by
  rw [Method.Serves]
  cases read : sendFrameParams env params with
  | error e =>
    rw [(sendFrame_rejected env me id params d read).1]
    exact iff_of_true trivial nofun
  | ok given =>
    obtain ⟨frame, raw⟩ := given
    rw [(sendFrame_accepted env me id params d read).1]
    simp only [Except.ok.injEq, Prod.mk.injEq, and_imp, forall_apply_eq_imp_iff, forall_eq']
    split
    · next counted => exact iff_of_true trivial counted
    · next uncounted => exact iff_of_false Outcome.not_only_undefined uncounted

theorem authenticate_only : ((authenticate env me id params).outcome d).Only Exception.IsRequest := by
  rw [authenticate, orInvalidParams_bind_only]
  exact fun _ _ => trivial

theorem handler_answers (method : Method) :
    Answers id (Raises env id params d method) ((method.handler texts env me id params).outcome d) ↔
      method.Serves env me params d := by
  cases method with
  | getNodeInfo => exact getNodeInfo_answers texts env me id params d
  | nodeReset => exact nodeReset_answers env me id params d
  | getRegisterValue => exact getRegisterValue_answers env me id params d
  | setRegisterValue => exact setRegisterValue_answers env me id params d
  | setRegisterBit => exact setRegisterBit_answers env me id params d
  | clearRegisterBit => exact clearRegisterBit_answers env me id params d
  | devMethodCall => exact devMethodCall_answers env me id params d
  | getDevDescription => exact iff_of_true (getDevDescription_answers env me id params d) trivial
  | getDevStatus => exact iff_of_true (getDevStatus_answers env me id params d) trivial
  | subscribe => exact (answers_iff_only id nofun).trans (subscribe_only env me id params d)
  | getStats => exact (answers_iff_only id nofun).trans (getStats_only env me id params d)
  | reloadNodesDescription =>
    exact (answers_iff_only id nofun).trans (reloadNodesDescription_only env me id params d)
  | getRegistersList => exact (answers_iff_only id nofun).trans (getRegistersList_only env me id params d)
  | sendFrame => exact (answers_iff_only id nofun).trans (sendFrame_only env me id params d)
  | authenticate =>
    exact (answers_iff_only id nofun).trans (iff_of_true (authenticate_only env me id params d) trivial)
  | discoverNodes | getDevsList | getMethodsList | getNodesList | getTcpClients | getVersion =>
    exact (answers_iff_only id nofun).trans (iff_of_true trivial trivial)

end Handlers

def nodeInfoRequest : Request := ⟨.null, "get_node_info", .map [("node_id", .numberUnsigned 5)]⟩

/-- The daemon after its first client has authenticated. -/
def firstClient : Daemon := Daemon.initial.setClient 0 ((default : ClientThread).authenticate "client")

end API
end H9d
