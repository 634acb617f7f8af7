import H9d.Soundness.ApiAnswers
import H9d.Soundness.Handlers
import H9d.Soundness.NodeRefusals

/-! # Which calls wait for the bus

A call that has given a frame to the bus goes on when the bus has acknowledged it. On a bus that never does, a
request is answered if its call ends before it gives the bus anything; for each method this is a condition on
the parameters, the nodes and the devices.
-/

namespace H9d

open Cxx Nlohmann Jsonrpcpp H9Frame

section Port

variable {ε α : Type} {c : Call Port ε α} {port : Port}

/-- The call gives a frame to the bus. -/
def GivesFrame (c : Call Port ε α) (port : Port) : Prop := port.length < (c.after port).length

theorem not_givesFrame (same : c.after port = port) : ¬GivesFrame c port := by
  rw [GivesFrame, same]
  exact lt_irrefl _

theorem Sends.givesFrame {frame : H9Frame} {x : Outcome ε α} (sends : Sends c frame x) : GivesFrame c port := by
  rw [GivesFrame, sends.after, List.length_append, List.length_singleton]
  exact Nat.lt_succ_self _

end Port

namespace Node

variable (env : Env) (n : Node) {reg : Byte} {port : Port}

/-- An operation that ends gives the bus its frame, unless it refuses the request. -/
theorem run_givesFrame (op : NodeOperation) (port : Port) (safe : op.Safe env n) :
    GivesFrame (op.run env n) port ↔ ¬(op.run env n).Refuses id port := by
  have ends := (NodeOperation.run_defined env n op port).mpr safe
  rcases NodeOperation.handled_run env n op with ⟨x, silent, fails⟩ | ⟨frame, _, _, _, -, -, -, sends⟩
  · rw [silent.refuses_iff]
    rw [silent.outcome] at ends
    refine iff_of_false (not_givesFrame (silent.after port)) (not_not.mpr ?_)
    cases x with
    | value a => exact absurd trivial fails
    | throws e => exact ⟨e, rfl⟩
    | undefined => exact absurd ends Outcome.not_defined_undefined
  · exact iff_of_true sends.givesFrame sends.not_refuses

theorem nodeReset_givesFrame : GivesFrame (n.nodeReset env) port := (NodeOperation.nodeReset_sends env n).givesFrame

theorem givesFrame_of_run {α : Type} {c : Call Port DevNodeException α} {f : α → Unit}
    (gives : GivesFrame (c >>= fun a => pure (f a)) port ↔ ¬(c >>= fun a => pure (f a)).Refuses id port) :
    GivesFrame c port ↔ ¬c.Refuses id port := by
  rwa [GivesFrame, Call.after_bind_pure, Call.refuses_bind_pure] at gives

theorem getRegister_givesFrame (safe : n.SafeGet env reg) :
    GivesFrame (n.getRegister env reg) port ↔ ¬n.RefusesGet reg :=
  (givesFrame_of_run (run_givesFrame env n (.getRegister reg) port safe)).trans
    (not_congr (getRegister_refused env n reg port))

theorem setRegister_givesFrame {value : RegValue} (safe : n.SafeSet env reg value) :
    GivesFrame (n.setRegister env reg value) port ↔ ¬n.RefusesSet reg value :=
  (givesFrame_of_run (run_givesFrame env n (.setRegister reg value) port safe)).trans
    (not_congr (setRegister_refused env n reg port value))

theorem setRegisterBit_givesFrame (bitNum : Byte) (safe : n.SafeBit env reg) :
    GivesFrame (n.setRegisterBit env reg bitNum) port ↔ ¬n.RefusesBit reg :=
  (givesFrame_of_run (run_givesFrame env n (.setRegisterBit reg bitNum) port safe)).trans
    (not_congr (bitOperation_refused env n reg port (.setBit reg bitNum)))

theorem clearRegisterBit_givesFrame (bitNum : Byte) (safe : n.SafeBit env reg) :
    GivesFrame (n.clearRegisterBit env reg bitNum) port ↔ ¬n.RefusesBit reg :=
  (givesFrame_of_run (run_givesFrame env n (.clearRegisterBit reg bitNum) port safe)).trans
    (not_congr (bitOperation_refused env n reg port (.clearBit reg bitNum)))

end Node

/-- Where the array is indexed inside, the operation of the node counts, if there is one. -/
theorem NodeMgr.withNode_givesFrame {α : Type} (m : NodeMgr) {nodeId : BitVec 16}
    {operation : Node → Call Port DevNodeException α} {Safe Refuses : Node → Prop} {port : Port}
    (safe : m.EveryAt nodeId Safe)
    (gives : ∀ node, Safe node → (GivesFrame (operation node) port ↔ ¬Refuses node)) :
    GivesFrame (m.withNode nodeId operation) port ↔ ¬m.EveryAt nodeId Refuses := by
  obtain ⟨inside, safe⟩ := safe
  rw [GivesFrame, withNode, nodeAt, dif_pos inside, EveryAt, exists_prop_of_true inside]
  cases found : m.nodes ⟨nodeId.toNat, inside⟩ with
  | none => exact iff_of_false (lt_irrefl _) (not_not.mpr (by rintro _ ⟨⟩))
  | some node =>
    simp only [Option.some.injEq, forall_eq']
    exact gives node (safe node found)

namespace API

section Waits

variable {α β : Type} {id : Id} {d : Daemon}

/-- The call has given a frame to the bus when it ends. -/
def Waits (c : Call Daemon Exception α) (d : Daemon) : Prop := d.port.length < (c.after d).port.length

theorem not_waits {c : Call Daemon Exception α} (kept : Call.Preserves Daemon.port c) : ¬Waits c d := by
  rw [Waits, kept d]
  exact lt_irrefl _

/-- A call that gives the bus nothing does not wait. -/
theorem awaited_of_not_waits (env : Env) {c : Call Daemon Exception α} (quiet : ¬Waits c d) :
    awaited env c d = c d := by
  rw [awaited, if_neg fun blocked => quiet blocked.2]

theorem waits_orInvalidParams {x : Except AccessError α} {k : α → Call Daemon Exception β} :
    Waits (orInvalidParams id x >>= k) d ↔ ∃ a, x = .ok a ∧ Waits (k a) d := by
  cases x with
  | ok a => exact ⟨fun waits => ⟨a, rfl, waits⟩, by rintro ⟨_, ⟨⟩, waits⟩; exact waits⟩
  | error e => exact iff_of_false (lt_irrefl _) (by rintro ⟨_, ⟨⟩, -⟩)

theorem waits_bind_pure {c : Call Daemon Exception α} (f : α → β) :
    Waits (c >>= fun a => pure (f a)) d ↔ Waits c d := by
  rw [Waits, Call.after_bind_pure, Waits]

/-- The clauses that catch the exceptions of an operation leave the bus alone. -/
theorem waits_tryCatch {ε : Type} {c : Call Port ε α} {handler : ε → Call Daemon Exception α}
    (kept : ∀ e, Call.Preserves Daemon.port (handler e)) :
    Waits (Call.tryCatch (c.on Daemon.port fun port d => { d with port }) handler) d ↔ GivesFrame c d.port := by
  have after : ((Call.tryCatch (c.on Daemon.port fun port d => { d with port }) handler).after d).port =
      c.after d.port := by
    rw [Call.after, Call.tryCatch, Call.outcome_on]
    cases c.outcome d.port with
    | value a => rfl
    | throws e => exact kept e _
    | undefined => rfl
  rw [Waits, after, GivesFrame]

theorem waits_orDevNodeError {c : Call Port DevNodeException α} :
    Waits (orDevNodeError id c) d ↔ GivesFrame c d.port := waits_tryCatch fun _ => .throw _

theorem waits_orDevError {c : Call Port Exception α} : Waits (orDevError id c) d ↔ GivesFrame c d.port := by
  rw [orDevError_eq]
  exact waits_tryCatch fun _ => .throw _

/-- What does not touch the bus, with its exceptions. -/
theorem preserves_uncaught {c : Call Port DevNodeException α} (kept : ∀ port, c.after port = port) :
    Call.Preserves Daemon.port (uncaught c) := by
  intro d
  rw [uncaught, Call.after, Call.tryCatch, Call.outcome_on]
  cases c.outcome d.port <;> exact kept d.port

theorem preserves_orInvalidParams (x : Except AccessError α) :
    Call.Preserves Daemon.port (orInvalidParams id x) := by
  cases x with
  | ok a => exact .pure a
  | error e => exact .throw _

end Waits

/-- The requests for a method that give the bus no frame. -/
def Method.Quiet (env : Env) (params : Parameter) (d : Daemon) : Method → Prop
  | .sendFrame => ∀ frame raw, sendFrameParams env params ≠ .ok (frame, raw)
  | .discoverNodes => False
  | .nodeReset => ∀ n, nodeId env.cast params = .ok n → d.nodeMgr.EveryAt n fun _ => False
  | .getRegisterValue => ∀ n reg, registerParams env.cast params = .ok (n, reg) →
      d.nodeMgr.EveryAt n (Node.RefusesGet reg)
  | .setRegisterValue => ∀ n reg value, setRegisterParams env.cast params = .ok ((n, reg), some value) →
      d.nodeMgr.EveryAt n (Node.RefusesSet reg value)
  | .setRegisterBit | .clearRegisterBit => ∀ n reg bit, bitParams env.cast params = .ok ((n, reg), bit) →
      d.nodeMgr.EveryAt n (Node.RefusesBit reg)
  | .devMethodCall => ∀ name method, devMethodParams params = .ok (name, method) →
      ∀ dev, d.nodeMgr.devsMap.lookup name = some dev →
      ∀ body, (Dev.methodMap env.cast dev.kind).lookup method = some body → ∀ c, body params ≠ .ok c
  | .authenticate | .getDevDescription | .getDevStatus | .getDevsList | .getMethodsList | .getNodeInfo
  | .getNodesList | .getRegistersList | .getStats | .getTcpClients | .getVersion | .reloadNodesDescription
  | .subscribe => True

section Handlers

variable (texts : Texts) (env : Env) (me : ClientId) (id : Id) (params : Parameter) (d : Daemon)

/-- A request for an operation on a node waits unless the node refuses the operation. -/
theorem nodeRequest_waits {α β γ : Type} (x : Except AccessError γ)
    (operation : γ → NodeMgr → Call Port DevNodeException α) (json : α → β) {Refused : γ → Prop}
    (gives : ∀ a, x = .ok a → (GivesFrame (operation a d.nodeMgr) d.port ↔ ¬Refused a)) :
    Waits (orInvalidParams id x >>= fun a => Call.read Daemon.nodeMgr >>= fun m =>
      orDevNodeError id (operation a m) >>= fun r => pure (json r)) d ↔ ¬∀ a, x = .ok a → Refused a := by
  rw [waits_orInvalidParams, not_forall]
  refine exists_congr fun a => ?_
  rw [Classical.not_imp]
  refine and_congr_right fun read => ?_
  refine Iff.trans ?_ (gives a read)
  rw [Waits, Call.after_read_bind]
  exact (waits_bind_pure json).trans waits_orDevNodeError

theorem sendFrame_waits : Waits (sendFrame env me id params) d ↔ ¬Method.Quiet env params d .sendFrame := by
  rw [Waits, Method.Quiet]
  cases read : sendFrameParams env params with
  | error e =>
    rw [(sendFrame_rejected env me id params d read).2]
    exact iff_of_false (lt_irrefl _) (not_not.mpr (by rintro _ _ ⟨⟩))
  | ok given =>
    rw [(sendFrame_accepted env me id params d read).2]
    refine iff_of_true ?_ fun quiet => quiet _ _ rfl
    rw [List.length_append]
    exact Nat.lt_succ_self _

theorem setRegisterValue_waits (serves : Method.Serves env me params d .setRegisterValue) :
    Waits (setRegisterValue env me id params) d ↔ ¬Method.Quiet env params d .setRegisterValue := by
  have gives {n : BitVec 16} {reg : Byte} {value : RegValue}
      (read : setRegisterParams env.cast params = .ok ((n, reg), some value)) :
      GivesFrame (d.nodeMgr.setRegister env n reg value) d.port ↔ ¬d.nodeMgr.EveryAt n (Node.RefusesSet reg value) :=
    d.nodeMgr.withNode_givesFrame (serves n reg value read) fun node => node.setRegister_givesFrame env
  rw [setRegisterValue, waits_orInvalidParams, Method.Quiet]
  constructor
  · rintro ⟨⟨⟨n, reg⟩, value⟩, read, waits⟩ quiet
    cases value with
    | none => exact lt_irrefl _ waits
    | some value =>
      have given := waits_orDevNodeError.mp ((waits_bind_pure _).mp waits)
      exact (gives read).mp given (quiet n reg value read)
  · intro loud
    simp only [not_forall] at loud
    obtain ⟨n, reg, value, read, asked⟩ := loud
    exact ⟨_, read, (waits_bind_pure _).mpr (waits_orDevNodeError.mpr ((gives read).mpr asked))⟩

theorem getRegistersList_quiet : ¬Waits (getRegistersList env me id params) d := by
  refine not_waits (.bind (preserves_orInvalidParams _) fun _ => .bind (.read _) fun _ =>
    .bind (preserves_uncaught fun _ => rfl) fun exist => ?_)
  split
  · exact .bind (preserves_uncaught fun _ => rfl) fun _ => .pure _
  · exact .throw _

theorem getNodeInfo_quiet : ¬Waits (getNodeInfo texts env me id params) d := by
  refine not_waits (.bind (preserves_orInvalidParams _) fun nodeId => .bind (.read _) fun m =>
    .bind (preserves_uncaught fun port => ?_) fun _ => .pure _)
  rw [NodeMgr.getNodeInfo, NodeMgr.withNode]
  cases (m.nodeAt nodeId : Outcome DevNodeException (Option Node)) with
  | value node => cases node <;> rfl
  | throws e => rfl
  | undefined => rfl

theorem subscribe_quiet : ¬Waits (subscribe env me id params) d := by
  have frame : Call.Preserves Daemon.port (setFrameObserver env me) := by
    refine .bind (.read _) fun t => ?_
    split
    · exact .undefined
    · exact .modify fun _ => rfl
  have devStatus : Call.Preserves Daemon.port (setDevStatusObserver env me) := by
    refine .bind (.read _) fun t => ?_
    split
    · exact .undefined
    · exact .modify fun _ => rfl
  refine not_waits (.bind (preserves_orInvalidParams _) fun eventName => ?_)
  split
  · exact .bind frame fun _ => .pure _
  · split
    · exact .bind devStatus fun _ => .pure _
    · exact .pure _

theorem getStats_quiet : ¬Waits (getStats env me id params) d := by
  refine not_waits (.bind (.read _) ?_)
  rintro ⟨counterMap, startTime⟩
  dsimp only
  split
  · exact .pure _
  · exact .throw _

/-- Looking up a device, and reading of it. -/
theorem withDev_quiet {name : String} (f : Dev → Json) :
    ¬GivesFrame (d.nodeMgr.withDev name fun dev => (pure (f dev) : Call Port Exception Json)) d.port := by
  apply not_givesFrame
  rw [NodeMgr.withDev]
  cases d.nodeMgr.devsMap.lookup name <;> rfl

theorem devRequest_quiet {γ : Type} (x : Except AccessError γ) (operation : γ → NodeMgr → Call Port Exception Json)
    (quiet : ∀ a, ¬GivesFrame (operation a d.nodeMgr) d.port) :
    ¬Waits (orInvalidParams id x >>= fun a => Call.read Daemon.nodeMgr >>= fun m =>
      orDevError id (operation a m)) d := by
  rw [waits_orInvalidParams]
  rintro ⟨a, -, waits⟩
  exact quiet a (waits_orDevError.mp waits)

/-- The method of a device that writes a register which is there gives its frame. -/
theorem execute_givesFrame {c : Dev.Command} {port : Port}
    (takes : d.nodeMgr.SomeAt c.nodeId (Node.TakesInt env c.reg)) :
    GivesFrame (c.execute env d.nodeMgr) port := by
  obtain ⟨inside, node, found, takesInt⟩ := takes
  have returns := (Node.setRegister_int_returns env node c.reg port c.value).mpr takesInt
  have safe : node.SafeSet env c.reg (.int c.value) :=
    (Node.setRegister_defined env node c.reg port (.int c.value)).mp (Outcome.returns_iff_defined.mp returns).1
  have given : GivesFrame (d.nodeMgr.setRegister env c.nodeId c.reg (.int c.value)) port := by
    rw [GivesFrame, NodeMgr.setRegister, NodeMgr.withNode, NodeMgr.nodeAt, dif_pos inside, found]
    refine (node.setRegister_givesFrame env safe).mpr fun refuses => ?_
    obtain ⟨e, throws⟩ := ((Node.setRegister_refused env node c.reg port _).mpr refuses).1
    rw [throws] at returns
    exact returns
  have after : (c.execute env d.nodeMgr).after port =
      (d.nodeMgr.setRegister env c.nodeId c.reg (.int c.value)).after port := by
    rw [Dev.Command.execute, Call.after, Call.tryCatch, Call.after_bind_pure]
    cases ((d.nodeMgr.setRegister env c.nodeId c.reg (.int c.value) >>= fun _ => pure Json.null).outcome port) <;> rfl
  rwa [GivesFrame, after]

theorem devMethodCall_waits (serves : Method.Serves env me params d .devMethodCall) :
    Waits (devMethodCall env me id params) d ↔ ¬Method.Quiet env params d .devMethodCall := by
  rw [devMethodCall, waits_orInvalidParams, Method.Quiet]
  constructor
  · rintro ⟨⟨name, method⟩, read, waits⟩ quiet
    have given : GivesFrame (d.nodeMgr.callDevMethod env name id params) d.port := waits_orDevError.mp waits
    cases found : d.nodeMgr.devsMap.lookup name with
    | none =>
      rw [NodeMgr.callDevMethod, NodeMgr.withDev, found] at given
      exact not_givesFrame rfl given
    | some dev =>
      rw [callDevMethod_found env id params d read found] at given
      cases provided : (Dev.methodMap env.cast dev.kind).lookup method with
      | none =>
        rw [provided] at given
        exact not_givesFrame rfl given
      | some body =>
        rw [provided] at given
        dsimp only at given
        cases command : body params with
        | error e =>
          rw [command] at given
          exact not_givesFrame rfl given
        | ok c => exact quiet name method read dev found body provided c command
  · intro loud
    simp only [not_forall, not_not] at loud
    obtain ⟨name, method, read, dev, found, body, provided, c, command⟩ := loud
    refine ⟨_, read, waits_orDevError.mpr ?_⟩
    rw [callDevMethod_found env id params d read found, provided]
    dsimp only
    rw [command]
    exact execute_givesFrame env d (serves name method read dev found body provided c command)

/-- A request that is served waits for the bus, unless it is quiet. -/
theorem handler_waits {method : Method} (serves : method.Serves env me params d) :
    Waits (method.handler texts env me id params) d ↔ ¬method.Quiet env params d := by
  cases method with
  | sendFrame => exact sendFrame_waits env me id params d
  | nodeReset =>
    exact nodeRequest_waits id d (nodeId env.cast params) (fun n m => m.nodeReset env n) (fun _ => Json.boolean true)
      fun n read => d.nodeMgr.withNode_givesFrame
        (⟨Nat.lt_succ_of_le (serves n read), fun _ _ => trivial⟩ : d.nodeMgr.EveryAt n fun _ => True) fun node _ =>
          iff_of_true (node.nodeReset_givesFrame env) not_false
  | getRegisterValue =>
    refine (nodeRequest_waits id d (registerParams env.cast params) (fun a m => m.getRegister env a.1 a.2)
      (registerJson env.cast) fun a read => d.nodeMgr.withNode_givesFrame (serves a.1 a.2 read) fun node =>
        node.getRegister_givesFrame env).trans (not_congr Prod.forall)
  | setRegisterValue => exact setRegisterValue_waits env me id params d serves
  | setRegisterBit =>
    refine (nodeRequest_waits id d (bitParams env.cast params) (fun a m => m.setRegisterBit env a.1.1 a.1.2 a.2)
      (bitsJson env.cast) fun a read => d.nodeMgr.withNode_givesFrame (serves a.1.1 a.1.2 a.2 read) fun node =>
        node.setRegisterBit_givesFrame env a.2).trans (not_congr ?_)
    rw [Prod.forall, Prod.forall]
    rfl
  | clearRegisterBit =>
    refine (nodeRequest_waits id d (bitParams env.cast params) (fun a m => m.clearRegisterBit env a.1.1 a.1.2 a.2)
      (bitsJson env.cast) fun a read => d.nodeMgr.withNode_givesFrame (serves a.1.1 a.1.2 a.2 read) fun node =>
        node.clearRegisterBit_givesFrame env a.2).trans (not_congr ?_)
    rw [Prod.forall, Prod.forall]
    rfl
  | devMethodCall => exact devMethodCall_waits env me id params d serves
  | discoverNodes =>
    refine iff_of_true ?_ not_false
    change d.port.length < (d.port ++ [_]).length
    rw [List.length_append]
    exact Nat.lt_succ_self _
  | subscribe => exact iff_of_false (subscribe_quiet env me id params d) (not_not.mpr trivial)
  | getStats => exact iff_of_false (getStats_quiet env me id params d) (not_not.mpr trivial)
  | getNodeInfo => exact iff_of_false (getNodeInfo_quiet texts env me id params d) (not_not.mpr trivial)
  | getRegistersList => exact iff_of_false (getRegistersList_quiet env me id params d) (not_not.mpr trivial)
  | getDevDescription =>
    exact iff_of_false (devRequest_quiet id d (devName params) (fun name m => m.getDevDescription env name)
      fun name => withDev_quiet d fun dev => dev.getDevDescription env.cast) (not_not.mpr trivial)
  | getDevStatus =>
    exact iff_of_false (devRequest_quiet id d (devName params) (fun name m => m.getDevState name)
      fun name => withDev_quiet d Dev.getDevState) (not_not.mpr trivial)
  | authenticate =>
    refine iff_of_false (not_waits ?_) (not_not.mpr trivial)
    exact .bind (preserves_orInvalidParams _) fun _ => .bind (.modify fun _ => rfl) fun _ => .pure _
  | reloadNodesDescription =>
    refine iff_of_false (not_waits ?_) (not_not.mpr trivial)
    exact .bind (.read _) fun _ => .bind (preserves_uncaught fun _ => rfl) fun _ =>
      .bind (.modify fun _ => rfl) fun _ => .pure _
  | getVersion | getMethodsList => exact iff_of_false (not_waits (.pure _)) (not_not.mpr trivial)
  | getTcpClients | getNodesList | getDevsList =>
    exact iff_of_false (not_waits (.bind (.read _) fun _ => .pure _)) (not_not.mpr trivial)

end Handlers

/-- What the nodes and their manager raise while a request is executed. -/
def RaisesIn (env : Env) (me : ClientId) (request : Request) (d : Daemon) (e : DevNodeException) : Prop :=
  ∃ method, admitted (d.clients me).authenticated request = some method ∧
    Raises env request.id request.params d method e

/-- A handler with the wait is answered if it is answered without, and does not wait for ever. -/
theorem awaited_answers {α : Type} (env : Env) (id : Id) {raises : DevNodeException → Prop}
    (c : Call Daemon Exception α) (d : Daemon) :
    Answers id raises ((awaited env c).outcome d) ↔
      Answers id raises (c.outcome d) ∧ (env.stalled = true → ¬Waits c d) := by
  rw [Call.outcome, awaited]
  split
  · next blocked => exact iff_of_false (fun answers => answers.1) fun quiet => quiet.2 blocked.1 blocked.2
  · next goes => exact (and_iff_left fun stalled waits => goes ⟨stalled, waits⟩).symm

/-- A request is answered exactly if its method, when there is one that the client may call, serves it, on a bus
that does not acknowledge without a frame. -/
theorem call_answers (texts : Texts) (env : Env) (me : ClientId) (request : Request) (d : Daemon) :
    Answers request.id (RaisesIn env me request d) ((call texts env me request).outcome d) ↔
      ∀ method, admitted (d.clients me).authenticated request = some method →
        method.Serves env me request.params d ∧ (env.stalled = true → method.Quiet env request.params d) := by
  rw [call, Call.read_bind]
  cases passed : admitted (d.clients me).authenticated request with
  | none =>
    refine iff_of_true ⟨trivial, ?_⟩ (by rintro _ ⟨⟩)
    rintro e ⟨method, found, -⟩
    cases passed.symm.trans found
  | some method =>
    have raised : RaisesIn env me request d = Raises env request.id request.params d method := by
      funext e
      simp [RaisesIn, passed]
    simp only [Option.some.injEq, forall_eq', raised]
    refine (answers_bind_pure request.id d _ _).trans ?_
    rw [awaited_answers, handler_answers texts env me request.id request.params d method]
    refine and_congr_right fun serves => forall_congr' fun _ => ?_
    rw [handler_waits texts env me request.id request.params d serves, not_not]

end API

end H9d
