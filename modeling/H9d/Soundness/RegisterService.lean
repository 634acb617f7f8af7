import H9d.Core.CallLog
import H9d.Model.RegisterService
import H9d.Soundness.ExactParameters
import H9d.Soundness.Handlers
import H9d.Soundness.RegisterFile

/-! # The interface as a store of registers

The requests for registers that any clients make, in any order, are answered as by a store that holds a
number for each register of each node. What the handlers read of the parameters is an operation on one
register; the frame of the operation goes to the node of the register and to no other.
-/

namespace H9d

open Cxx Nlohmann Jsonrpcpp H9Frame

/-! ## The frames of an operation -/

namespace Node

/-- The frame is for the node and begins with the number of the register. -/
def Concerns (nodeId reg : Byte) (entry : H9Frame × Bool) : Prop :=
  entry.1.destinationId = nodeId ∧ entry.1.data 0 = reg

section Appends

variable {ε : Type} (env : Env) (n : Node) (reg : Byte) (desc : RegisterDesc)

theorem frame_concerns (mem : H9Frame) (origin : String) (nodeId : Byte) {request : RawNode.Request}
    (register : request.register? = some reg) : Concerns nodeId reg (request.frame mem origin nodeId, false) := by
  cases request with
  | reset => cases register
  | setReg r regVal =>
    obtain rfl := Option.some.inj register
    exact ⟨rfl, API.setData_data _ rfl (by decide)⟩
  | getReg r | setBit r bit | clearBit r bit =>
    obtain rfl := Option.some.inj register
    exact ⟨rfl, API.setData_data _ rfl (by decide)⟩

theorem exchange_appends (nodeId : Byte) {request : RawNode.Request} (register : request.register? = some reg)
    (limit : ℕ → ℕ) (buf : List Byte) :
    Call.Appends (Concerns nodeId reg) (RawNode.exchange env nodeId request limit buf : Call Port ε _) := by
  rw [RawNode.exchange]
  apply Call.Appends.bind
  · rw [RawNode.ask]
    exact (Call.Appends.append (frame_concerns reg env.frameMemory "h9d" nodeId register)).bind fun _ => .pure _
  · intro reply
    cases reply with
    | none => exact .pure _
    | some res =>
      dsimp only
      split_ifs
      · exact (Call.Appends.ofOutcome _).bind fun _ => .pure _
      · exact .pure _
      · exact .pure _

theorem throwOnError_appends (ret : ℤ) : Call.Appends (Concerns n.nodeId reg) (throwOnError ret) := by
  rw [throwOnError]
  split_ifs
  · exact .throw _
  · exact .throw _
  · exact .throw _
  · exact .pure _

theorem throwOnSize_appends (ret : ℤ) (size : ℕ) : Call.Appends (Concerns n.nodeId reg) (throwOnSize ret size) := by
  rw [throwOnSize]
  split_ifs
  · exact .throw _
  · exact .pure _

/-- What follows an exchange sends nothing. -/
theorem checked_appends {α β : Type} {c : Call Port DevNodeException (ℤ × β)} {f : ℤ × β → Call Port DevNodeException α}
    (asks : Call.Appends (Concerns n.nodeId reg) c) (rest : ∀ x, Call.Appends (Concerns n.nodeId reg) (f x)) :
    Call.Appends (Concerns n.nodeId reg) (do
      let x ← c
      throwOnError x.1
      f x) :=
  asks.bind fun x => (throwOnError_appends n reg x.1).bind fun _ => rest x

theorem setRegNumber_appends (width : ℕ) (v : BitVec 64) :
    Call.Appends (Concerns n.nodeId reg)
      (RawNode.setRegNumber env n.nodeId reg width v : Call Port DevNodeException (ℤ × ℕ)) := by
  rw [RawNode.setRegNumber, RawNode.setReg]
  exact (exchange_appends env reg n.nodeId rfl _ _).bind fun _ => .pure _

theorem getRegNumber_appends (width : ℕ) :
    Call.Appends (Concerns n.nodeId reg)
      (RawNode.getRegNumber env n.nodeId reg width : Call Port DevNodeException (ℤ × ℕ)) := by
  rw [RawNode.getRegNumber, RawNode.getReg]
  exact (exchange_appends env reg n.nodeId rfl _ _).bind fun _ => .pure _

theorem setRegister_appends (value : RegValue) :
    Call.Appends (Concerns n.nodeId reg) (n.setRegister env reg value) := by
  rw [setRegister]
  cases n.registerMap reg with
  | none => exact .throw _
  | some desc =>
    dsimp only
    split
    · cases value with
      | int v =>
        dsimp only
        split
        · rw [setInt]
          cases numberWidth desc.size with
          | none => exact .throw _
          | some width =>
            refine (Call.Appends.ofOutcome _).bind fun tmp => ?_
            apply checked_appends n reg (setRegNumber_appends env n reg width tmp)
            exact fun x => (throwOnSize_appends n reg x.1 width).bind fun _ => .pure _
        · exact .throw _
      | float v =>
        dsimp only
        split
        · rw [setFloat]
          apply checked_appends n reg (setRegNumber_appends env n reg 4 (v.setWidth 64))
          exact fun x => (throwOnSize_appends n reg x.1 4).bind fun _ => .pure _
        · exact .throw _
      | string v =>
        dsimp only
        split
        · rw [setString, RawNode.setReg]
          apply checked_appends n reg (exchange_appends env reg n.nodeId rfl _ _)
          exact fun x => (Call.Appends.ofOutcome _).bind fun _ => .pure _
        · exact .throw _
      | bytes v =>
        dsimp only
        rw [setBytes]
        split
        · rw [RawNode.setReg]
          apply checked_appends n reg (exchange_appends env reg n.nodeId rfl _ _)
          exact fun x => (throwOnSize_appends n reg x.1 v.length).bind fun _ => .ofOutcome _
        · exact .throw _
    · exact .throw _

theorem getNumber_appends (width : ℕ) : Call.Appends (Concerns n.nodeId reg) (n.getNumber env reg width) := by
  rw [getNumber]
  apply checked_appends n reg (getRegNumber_appends env n reg width)
  exact fun x => (throwOnSize_appends n reg x.1 width).bind fun _ => .pure _

theorem getRegister_appends : Call.Appends (Concerns n.nodeId reg) (n.getRegister env reg) := by
  rw [getRegister]
  cases n.registerMap reg with
  | none => exact .throw _
  | some desc =>
    dsimp only
    split_ifs
    · exact (getNumber_appends env n reg 4).bind fun _ => .pure _
    · cases numberWidth desc.size with
      | some width => exact (getNumber_appends env n reg width).bind fun _ => .pure _
      | none =>
        dsimp only
        rw [getBytes, RawNode.getReg]
        apply checked_appends n reg (exchange_appends env reg n.nodeId rfl _ _)
        exact fun x => (throwOnSize_appends n reg x.1 _).bind fun _ => .ofOutcome _
    · rw [getString, RawNode.getReg]
      apply checked_appends n reg (exchange_appends env reg n.nodeId rfl _ _)
      exact fun x => (Call.Appends.ofOutcome _).bind fun _ => .pure _
    · exact .throw _

theorem bitOperation_appends {operation : ℕ → List Byte → Call Port DevNodeException (ℤ × List Byte)}
    (asks : ∀ length buf, Call.Appends (Concerns n.nodeId reg) (operation length buf)) :
    Call.Appends (Concerns n.nodeId reg) (n.bitOperation env reg operation) := by
  rw [bitOperation]
  cases n.registerMap reg with
  | none => exact .throw _
  | some desc =>
    dsimp only
    split_ifs
    · apply checked_appends n reg (asks _ _)
      exact fun x => .ofOutcome _
    · exact .throw _
    · exact .throw _

end Appends

/-- Whatever an operation comes to, it sends frames for its register only. -/
theorem operation_appends (env : Env) (n : Node) (reg : Byte) (op : RegisterOp) :
    Call.Appends (Concerns n.nodeId reg) (op.call env n reg) := by
  cases op with
  | get => exact getRegister_appends env n reg
  | set value => exact setRegister_appends env n reg value
  | setBit bit => exact bitOperation_appends env n reg fun _ _ => exchange_appends env reg n.nodeId rfl _ _
  | clearBit bit => exact bitOperation_appends env n reg fun _ _ => exchange_appends env reg n.nodeId rfl _ _

end Node

namespace RegisterService

/-! ## The calls -/

section Calls

variable (texts : API.Texts) (env : Env) {d : Daemon} {a : Visit}

/-- The exceptions of a node become errors, and the call changes nothing of the daemon but its port. -/
theorem operation_apply (id : Id) (op : RegisterOp) (c : Call Port DevNodeException RegValue) :
    (do
        let r ← (do return op.json env.cast (← API.orDevNodeError id c) : Call Daemon Exception Json)
        return ⟨id, r⟩ : Call Daemon Exception Response) d =
      (op.answer env.cast id (c.outcome d.port), { d with port := c.after d.port }) := by
  rw [bind_assoc]
  simp only [pure_bind]
  change Call.bind (Call.tryCatch _ _) _ d = _
  rw [Call.bind, Call.outcome, Call.after, Call.tryCatch, Call.outcome_on]
  cases c.outcome d.port <;> rfl

theorem call_closed (closed : (d.clients a.client).authenticated = false) :
    API.call texts env a.client a.request d = (.throws (.request (methodNotFoundException a.id)), d) := by
  have refused : API.admitted (d.clients a.client).authenticated a.request = none := by
    rw [closed, Visit.request]
    cases a.method <;> rfl
  rw [API.call, Call.read_bind_apply, refused]
  rfl

theorem call_open (acknowledges : env.stalled = false) (opened : (d.clients a.client).authenticated = true) :
    API.call texts env a.client a.request d =
      match a.method.asked env.cast a.params with
      | .ok (some (nodeId, reg, op)) =>
          let c := d.nodeMgr.withNode nodeId fun n => op.call env n reg
          (op.answer env.cast a.id (c.outcome d.port), { d with port := c.after d.port })
      | .ok none => (.throws (.request (invalidParamsException "Unsupported JSON type as a value" a.id)), d)
      | .error e => (.throws (.request (invalidParamsException e.what a.id)), d) := by
  have passed : API.admitted (d.clients a.client).authenticated a.request = some a.method.method := by
    rw [opened, Visit.request]
    cases a.method <;> rfl
  rw [API.call_acknowledged texts env acknowledges passed]
  obtain ⟨env', hostId, garbage, client, id, method, params⟩ := a
  cases method with
  | getRegisterValue =>
    change (do let r ← API.getRegisterValue env client id params; return ⟨id, r⟩ : Call Daemon Exception Response) d = _
    rw [API.getRegisterValue, API.RegisterMethod.asked]
    cases API.registerParams env.cast params with
    | error e => rfl
    | ok read =>
      obtain ⟨nodeId, reg⟩ := read
      exact operation_apply env id .get _
  | setRegisterValue =>
    change (do let r ← API.setRegisterValue env client id params; return ⟨id, r⟩ : Call Daemon Exception Response) d = _
    rw [API.setRegisterValue, API.RegisterMethod.asked]
    cases API.setRegisterParams env.cast params with
    | error e => rfl
    | ok read =>
      obtain ⟨⟨nodeId, reg⟩, val⟩ := read
      cases val with
      | none => rfl
      | some val => exact operation_apply env id (.set val) _
  | setRegisterBit =>
    change (do let r ← API.setRegisterBit env client id params; return ⟨id, r⟩ : Call Daemon Exception Response) d = _
    rw [API.setRegisterBit, API.RegisterMethod.asked]
    cases API.bitParams env.cast params with
    | error e => rfl
    | ok read =>
      obtain ⟨⟨nodeId, reg⟩, bitNum⟩ := read
      exact operation_apply env id (.setBit bitNum) _
  | clearRegisterBit =>
    change (do let r ← API.clearRegisterBit env client id params; return ⟨id, r⟩ : Call Daemon Exception Response) d = _
    rw [API.clearRegisterBit, API.RegisterMethod.asked]
    cases API.bitParams env.cast params with
    | error e => rfl
    | ok read =>
      obtain ⟨⟨nodeId, reg⟩, bitNum⟩ := read
      exact operation_apply env id (.clearBit bitNum) _

end Calls

/-! ## The store -/

/-- Each node of the manager is at its id, and keeps to the description of the frames. -/
structure Kept (m : NodeMgr) (programs : Programs) : Prop where
  placed : ∀ i node, m.nodes i = some node → node.nodeId.toNat = i
  documented : ∀ i node, m.nodes i = some node → RegisterNode.Documented node.nodeId (programs node.nodeId)

/-- The bytes in the nodes are the numbers of the store. -/
def Represents (m : NodeMgr) (mems : Memories) (files : Files) : Prop :=
  ∀ i node, m.nodes i = some node → node.Represents (mems node.nodeId) (files node.nodeId)

/-- If the request is about a register, both ends know the length of the register, the code is defined for the
request, and it is about a bit of the register. -/
def Admissible (m : NodeMgr) (a : Visit) : Prop :=
  ∀ nodeId reg op i node, a.method.asked a.env.cast a.params = .ok (some (nodeId, reg, op)) →
    i.val = nodeId.toNat → m.nodes i = some node → node.Admissible (a.access reg op)

/-- The daemon apart from what it has sent. -/
def idle (d : Daemon) : Daemon := { d with port := [] }

section Store

variable {texts : API.Texts} {programs : Programs} {d : Daemon} {mems : Memories} {files : Files} {a : Visit}

theorem withNode_eq {α : Type} (m : NodeMgr) (nodeId : BitVec 16) (operation : Node → Call Port DevNodeException α) :
    m.withNode nodeId operation =
      match (m.nodeAt nodeId : Outcome DevNodeException (Option Node)) with
      | .value (some node) => operation node
      | .value none => Call.throw .nodeNotExistException
      | .throws e => Call.throw e
      | .undefined => Call.undefined := by
  funext port
  rw [NodeMgr.withNode]
  cases (m.nodeAt nodeId : Outcome DevNodeException (Option Node)) with
  | value found => cases found <;> rfl
  | throws e => rfl
  | undefined => rfl

theorem exists_of_nodeAt {m : NodeMgr} {nodeId : BitVec 16} {node : Node}
    (found : (m.nodeAt nodeId : Outcome DevNodeException _) = .value (some node)) :
    ∃ i : Fin (ID_MAX_VALUE + 1), i.val = nodeId.toNat ∧ m.nodes i = some node := by
  rw [NodeMgr.nodeAt] at found
  split at found
  · next inside => exact ⟨⟨nodeId.toNat, inside⟩, rfl, Outcome.value.inj found⟩
  · cases found

theorem Represents.update {m : NodeMgr} (kept : Kept m programs) (represents : Represents m mems files)
    {i : Fin (ID_MAX_VALUE + 1)} {node : Node} (there : m.nodes i = some node) {mem : RegisterNode.Memory}
    {file : RegisterFile.File} (follows : node.Represents mem file) :
    Represents m (Function.update mems node.nodeId mem) (Function.update files node.nodeId file) := by
  intro j other present
  rcases eq_or_ne other.nodeId node.nodeId with same | apart
  · have place : j = i := by
      apply Fin.ext
      rw [← kept.placed j other present, ← kept.placed i node there, same]
    subst place
    obtain rfl := Option.some.inj (there.symm.trans present)
    rw [Function.update_self, Function.update_self]
    exact follows
  · rw [Function.update_of_ne apart, Function.update_of_ne apart]
    exact represents j other present

theorem serve_eq : serve texts programs d mems a =
    match ((API.call texts { a.env with reply := none, stalled := false } a.client a.request).after (idle d)).port with
    | [] => ((API.call texts { a.env with reply := none, stalled := false } a.client a.request).outcome (idle d),
        (API.call texts { a.env with reply := none, stalled := false } a.client a.request).after (idle d), mems)
    | (frame, _) :: _ =>
        let (reply, mems) := exchange programs a frame mems
        ((API.call texts { a.env with reply, stalled := false } a.client a.request).outcome (idle d),
          (API.call texts { a.env with reply, stalled := false } a.client a.request).after (idle d), mems) := rfl

/-- The node that the frame is for gets it, and its answer is looked at for the register. -/
theorem exchange_of_concerns {nodeId reg : Byte} {frame : H9Frame} {raw : Bool}
    (concerns : Node.Concerns nodeId reg (frame, raw)) :
    let result := programs nodeId { frame with seqnum := a.env.seqnum, sourceId := a.hostId } (mems nodeId)
    let comparator := (RawNode.registerComparator a.garbage nodeId reg).setSeqnum a.env.seqnum
    exchange programs a frame mems =
      (if comparator.eqFrame result.1 then some result.1 else none, Function.update mems nodeId result.2) := by
  obtain ⟨rfl, rfl⟩ := concerns
  rfl

/-- A request that sends nothing. -/
theorem serve_silent {x : Outcome Exception Response}
    (ends : ∀ reply, API.call texts { a.env with reply, stalled := false } a.client a.request (idle d) = (x, idle d)) :
    serve texts programs d mems a = (x, idle d, mems) := by
  rw [serve_eq, Call.after_of_eq (ends none), Call.outcome_of_eq (ends none)]
  rfl

/-- A request for a register of a node does to the node what the operation does. -/
theorem serve_operation (programs : Programs) (mems : Memories) {node : Node} {reg : Byte} {op : RegisterOp}
    (ends : ∀ reply, API.call texts { a.env with reply, stalled := false } a.client a.request (idle d) =
      (op.answer a.env.cast a.id ((op.call { a.env with reply } node reg).outcome []),
        { d with port := (op.call { a.env with reply } node reg).after [] })) :
    ∃ t, serve texts programs d mems a = (op.answer a.env.cast a.id
        (node.perform (programs node.nodeId) (mems node.nodeId) (a.access reg op)).1, t,
      Function.update mems node.nodeId
        (node.perform (programs node.nodeId) (mems node.nodeId) (a.access reg op)).2) ∧ idle t = idle d := by
  rw [serve_eq, Node.perform, Call.after_of_eq (ends none), Call.outcome_of_eq (ends none)]
  dsimp only [Visit.access]
  cases sent : (op.call { a.env with reply := none } node reg).after [] with
  | nil =>
    dsimp only
    rw [Function.update_eq_self]
    exact ⟨_, rfl, rfl⟩
  | cons entry rest =>
    obtain ⟨frame, raw⟩ := entry
    have concerns : Node.Concerns node.nodeId reg (frame, raw) := by
      apply (Node.operation_appends { a.env with reply := none } node reg op).of_empty
      rw [sent]
      exact List.mem_cons_self
    dsimp only
    rw [exchange_of_concerns concerns]
    dsimp only
    rw [Call.outcome_of_eq (ends _), Call.after_of_eq (ends _)]
    exact ⟨_, rfl, rfl⟩

/-- One request. -/
theorem serve_refines (texts : API.Texts) (kept : Kept d.nodeMgr programs) (represents : Represents d.nodeMgr mems files)
    (admissible : Admissible d.nodeMgr a) :
    ∃ t mems', serve texts programs d mems a = ((files.answer d a).1, t, mems') ∧ idle t = idle d ∧
      Represents d.nodeMgr mems' (files.answer d a).2 := by
  cases authenticated : (d.clients a.client).authenticated with
  | false =>
    have closed (reply : Option H9Frame) : API.call texts { a.env with reply, stalled := false } a.client a.request (idle d) = _ :=
      call_closed texts { a.env with reply, stalled := false } authenticated
    rw [Files.answer, authenticated]
    exact ⟨_, _, serve_silent closed, rfl, represents⟩
  | true =>
    have opened (reply : Option H9Frame) : API.call texts { a.env with reply, stalled := false } a.client a.request (idle d) = _ :=
      call_open texts { a.env with reply, stalled := false } rfl authenticated
    rw [Files.answer, if_pos authenticated]
    cases asked : a.method.asked a.env.cast a.params with
    | error e =>
      simp only [asked] at opened
      exact ⟨_, _, serve_silent opened, rfl, represents⟩
    | ok read =>
      cases read with
      | none =>
        simp only [asked] at opened
        exact ⟨_, _, serve_silent opened, rfl, represents⟩
      | some read =>
        obtain ⟨nodeId, reg, op⟩ := read
        simp only [asked] at opened
        dsimp only
        rw [Files.perform]
        simp only [withNode_eq, idle] at opened
        cases found : (d.nodeMgr.nodeAt nodeId : Outcome DevNodeException (Option Node)) with
        | value present =>
          simp only [found] at opened
          cases present with
          | none => exact ⟨_, _, serve_silent opened, rfl, represents⟩
          | some node =>
            obtain ⟨i, place, there⟩ := exists_of_nodeAt found
            obtain ⟨t, served, same⟩ := serve_operation programs mems opened
            obtain ⟨outcome, follows⟩ := Node.agrees (a := a.access reg op) (kept.documented i node there)
              (represents i node there) (admissible nodeId reg op i node asked place there)
            dsimp only
            rw [← outcome]
            exact ⟨t, _, served, same, represents.update kept there follows⟩
        | throws e =>
          simp only [found] at opened
          exact ⟨_, _, serve_silent opened, rfl, represents⟩
        | undefined =>
          simp only [found] at opened
          exact ⟨_, _, serve_silent opened, rfl, represents⟩

/-- What is sent does not count for the answers. -/
theorem answer_idle {t : Daemon} (same : idle t = idle d) : files.answer t a = files.answer d a :=
  calc files.answer t a = files.answer (idle t) a := rfl
    _ = files.answer (idle d) a := by rw [same]
    _ = files.answer d a := rfl

theorem answerAll_idle {t : Daemon} (same : idle t = idle d) (visits : List Visit) :
    Files.answerAll t files visits = Files.answerAll d files visits := by
  induction visits generalizing files with
  | nil => rfl
  | cons a later ih =>
    rw [Files.answerAll, Files.answerAll, answer_idle same]
    dsimp only
    rw [ih]

/-- Any number of requests. -/
theorem serveAll_refines (texts : API.Texts) {visits : List Visit} (kept : Kept d.nodeMgr programs)
    (represents : Represents d.nodeMgr mems files) (admissible : ∀ a ∈ visits, Admissible d.nodeMgr a) :
    (serveAll texts programs d mems visits).1 = (Files.answerAll d files visits).1 ∧
      Represents d.nodeMgr (serveAll texts programs d mems visits).2.2 (Files.answerAll d files visits).2 ∧
      idle (serveAll texts programs d mems visits).2.1 = idle d := by
  induction visits generalizing d mems files with
  | nil => exact ⟨rfl, represents, rfl⟩
  | cons a later ih =>
    obtain ⟨t, mems', served, same, follows⟩ :=
      serve_refines texts kept represents (admissible a List.mem_cons_self)
    have nodeMgr : t.nodeMgr = d.nodeMgr := by
      change (idle t).nodeMgr = (idle d).nodeMgr
      rw [same]
    rw [← nodeMgr] at kept follows admissible ⊢
    obtain ⟨outcomes, rest, quiet⟩ :=
      ih kept follows fun b among => admissible b (List.mem_cons_of_mem a among)
    rw [answerAll_idle same] at outcomes rest
    rw [serveAll, served, Files.answerAll]
    exact ⟨congrArg₂ List.cons rfl outcomes, rest, quiet.trans same⟩

end Store

/-! ## What is written is read -/

/-- The request does not change the register of the node. -/
def Leaves (nodeId : BitVec 16) (reg : Byte) (a : Visit) : Prop :=
  ∀ op, a.method.asked a.env.cast a.params = .ok (some (nodeId, reg, op)) → op = .get

section Values

variable {d : Daemon} {files : Files} {a : Visit} {nodeId : BitVec 16} {reg : Byte} {op : RegisterOp}

/-- What a read leaves behind. -/
theorem apply_get (desc : RegisterDesc) (k : ℕ) : (RegisterFile.apply desc reg .get k).2 = k := by
  rw [RegisterFile.apply]
  split_ifs <;> rfl

/-- The register that an answered request is about, and what it does to it. -/
theorem answer_value (asked : a.method.asked a.env.cast a.params = .ok (some (nodeId, reg, op))) {r : Response}
    (answered : (files.answer d a).1 = .value r) :
    ∃ node desc v k, (d.nodeMgr.nodeAt nodeId : Outcome DevNodeException _) = .value (some node) ∧
      node.registerMap reg = some desc ∧ RegisterFile.apply desc reg op (files node.nodeId reg) = (.value v, k) ∧
      r = ⟨a.id, op.json a.env.cast v⟩ ∧
      (files.answer d a).2 = Function.update files node.nodeId (Function.update (files node.nodeId) reg k) := by
  rw [Files.answer, asked] at answered ⊢
  dsimp only at answered ⊢
  split_ifs at answered ⊢
  rw [Files.perform] at answered ⊢
  cases found : (d.nodeMgr.nodeAt nodeId : Outcome DevNodeException (Option Node)) with
  | value present =>
    rw [found] at answered
    cases present with
    | none => cases answered
    | some node =>
      dsimp only at answered ⊢
      rw [RegisterFile.step] at answered ⊢
      dsimp only [Visit.access] at answered ⊢
      cases described : node.registerMap reg with
      | none =>
        rw [described] at answered
        cases answered
      | some desc =>
        rw [described] at answered
        dsimp only at answered ⊢
        cases applied : RegisterFile.apply desc reg op (files node.nodeId reg) with
        | mk outcome k =>
          rw [applied] at answered
          cases outcome with
          | value v => exact ⟨node, desc, v, k, rfl, described, applied, (Outcome.value.inj answered).symm, rfl⟩
          | throws e => cases answered
          | undefined => cases answered
  | throws e =>
    rw [found] at answered
    cases answered
  | undefined =>
    rw [found] at answered
    cases answered

theorem step_leaves {node : Node} {file : RegisterFile.File} {reg' : Byte}
    (leaves : reg' = reg → op = .get) : (RegisterFile.step node file (a.access reg' op)).2 reg = file reg := by
  rw [RegisterFile.step]
  dsimp only [Visit.access]
  cases node.registerMap reg' with
  | none => rfl
  | some desc =>
    dsimp only
    rcases eq_or_ne reg reg' with rfl | apart
    · rw [leaves rfl, apply_get, Function.update_self]
    · rw [Function.update_of_ne apart]

/-- A request about another register, or one that reads, keeps the number. -/
theorem answer_leaves {programs : Programs} (kept : Kept d.nodeMgr programs) {node : Node}
    (found : (d.nodeMgr.nodeAt nodeId : Outcome DevNodeException _) = .value (some node))
    (leaves : Leaves nodeId reg a) : (files.answer d a).2 node.nodeId reg = files node.nodeId reg := by
  rw [Files.answer]
  split_ifs
  · cases asked : a.method.asked a.env.cast a.params with
    | error e => rfl
    | ok read =>
      cases read with
      | none => rfl
      | some read =>
        obtain ⟨nodeId', reg', op⟩ := read
        dsimp only
        rw [Files.perform]
        cases at' : (d.nodeMgr.nodeAt nodeId' : Outcome DevNodeException (Option Node)) with
        | throws e => rfl
        | undefined => rfl
        | value present =>
          cases present with
          | none => rfl
          | some other =>
            dsimp only
            rcases eq_or_ne node.nodeId other.nodeId with same | apart
            · obtain ⟨i, place, there⟩ := exists_of_nodeAt found
              obtain ⟨j, place', there'⟩ := exists_of_nodeAt at'
              have one : nodeId = nodeId' := by
                apply BitVec.eq_of_toNat_eq
                rw [← place, ← place', ← kept.placed i node there, ← kept.placed j other there', same]
              subst one
              obtain rfl : node = other := Option.some.inj (Outcome.value.inj (found.symm.trans at'))
              rw [Function.update_self]
              exact step_leaves fun here => leaves op (here ▸ asked)
            · rw [Function.update_of_ne apart]
  · rfl

theorem answerAll_leaves {programs : Programs} (kept : Kept d.nodeMgr programs) {node : Node}
    (found : (d.nodeMgr.nodeAt nodeId : Outcome DevNodeException _) = .value (some node)) {visits : List Visit}
    (leaves : ∀ a ∈ visits, Leaves nodeId reg a) :
    (Files.answerAll d files visits).2 node.nodeId reg = files node.nodeId reg := by
  induction visits generalizing files with
  | nil => rfl
  | cons a later ih =>
    rw [Files.answerAll]
    exact (ih fun b among => leaves b (List.mem_cons_of_mem a among)).trans
      (answer_leaves kept found (leaves a List.mem_cons_self))

theorem answerAll_append (first second : List Visit) :
    Files.answerAll d files (first ++ second) =
      ((Files.answerAll d files first).1 ++ (Files.answerAll d (Files.answerAll d files first).2 second).1,
        (Files.answerAll d (Files.answerAll d files first).2 second).2) := by
  induction first generalizing files with
  | nil => rfl
  | cons a later ih =>
    rw [List.cons_append, Files.answerAll]
    dsimp only
    rw [ih]
    rfl

theorem length_answerAll (visits : List Visit) : (Files.answerAll d files visits).1.length = visits.length := by
  induction visits generalizing files with
  | nil => rfl
  | cons a later ih =>
    rw [Files.answerAll, List.length_cons, List.length_cons, ih]

/-- The answer at a place is that of the store after the requests before it. -/
theorem getElem?_answerAll (earlier : List Visit) (a : Visit) (later : List Visit) :
    (Files.answerAll d files (earlier ++ a :: later)).1[earlier.length]? =
      some ((Files.answerAll d files earlier).2.answer d a).1 := by
  rw [answerAll_append, List.getElem?_append_right (length_answerAll earlier).le, length_answerAll, Nat.sub_self]
  rfl

/-- A value that a register takes reads as it was written, unless it was written as bytes to a register that
reads as a number. -/
theorem written_eq_view {desc : RegisterDesc} (regular : Node.Regular desc) {v : RegValue} {k : ℕ}
    (number : RegisterFile.number? desc v = some k) (kind : ∀ bytes, v = .bytes bytes → 32 < desc.size) :
    RegisterFile.written k v = RegisterFile.view desc k := by
  rw [RegisterFile.view]
  cases v with
  | int v =>
    rw [RegisterFile.number?] at number
    split_ifs at number with narrow
    rw [if_neg narrow.ne, if_pos narrow]
    rfl
  | float x =>
    rw [RegisterFile.number?] at number
    split_ifs at number with float
    obtain rfl := Option.some.inj number
    rw [if_pos (regular.float float), BitVec.ofNat_toNat, BitVec.setWidth_eq]
    rfl
  | bytes bytes =>
    rw [RegisterFile.number?] at number
    split_ifs at number with length
    obtain rfl := Option.some.inj number
    have wide := kind bytes rfl
    rw [if_neg wide.ne', if_neg (Nat.lt_asymm wide), length, Bytes.ofValue_value]
    rfl
  | string s => cases number

/-- A read between which and a write nothing changes the register gives the value that the write returned. -/
theorem answer_reads {programs : Programs} (kept : Kept d.nodeMgr programs) {write read : Visit}
    (admissible : Admissible d.nodeMgr write) {between : List Visit} {v : RegValue} {r r' : Response}
    (wrote : write.method.asked write.env.cast write.params = .ok (some (nodeId, reg, .set v)))
    (leaves : ∀ a ∈ between, Leaves nodeId reg a)
    (asks : read.method.asked read.env.cast read.params = .ok (some (nodeId, reg, .get)))
    (written : (files.answer d write).1 = .value r)
    (given : ((Files.answerAll d (files.answer d write).2 between).2.answer d read).1 = .value r')
    (kind : ∀ i node desc bytes, i.val = nodeId.toNat → d.nodeMgr.nodes i = some node →
      node.registerMap reg = some desc → v = .bytes bytes → 32 < desc.size) :
    ∃ w, r = ⟨write.id, API.registerJson write.env.cast w⟩ ∧ r' = ⟨read.id, API.registerJson read.env.cast w⟩ := by
  obtain ⟨node, desc, w, k, found, described, applied, rfl, changed⟩ := answer_value wrote written
  obtain ⟨node', desc', w', k', found', described', applied', rfl, -⟩ := answer_value asks given
  obtain rfl : node = node' := Option.some.inj (Outcome.value.inj (found.symm.trans found'))
  obtain rfl : desc = desc' := Option.some.inj (described.symm.trans described')
  obtain ⟨i, place, there⟩ := exists_of_nodeAt found
  obtain ⟨regular, -⟩ := admissible nodeId reg _ i node wrote place there desc described
  rw [answerAll_leaves kept found leaves, changed, Function.update_self, Function.update_self,
    RegisterFile.apply] at applied'
  have readable : desc.readable = true := by
    by_contra off
    rw [if_neg off] at applied'
    cases applied'
  rw [if_pos readable] at applied'
  have writable : desc.writable = true := by
    by_contra off
    rw [RegisterFile.apply, if_neg off] at applied
    cases applied
  rw [RegisterFile.apply, if_pos writable] at applied
  cases number : RegisterFile.number? desc v with
  | none =>
    rw [number] at applied
    cases applied
  | some n =>
    rw [number] at applied
    obtain ⟨rfl, rfl⟩ : RegisterFile.written n v = w ∧ n = k := by simpa using applied
    obtain ⟨rfl, -⟩ : RegisterFile.view desc n = w' ∧ n = k' := by simpa using applied'
    refine ⟨RegisterFile.written n v, rfl, ?_⟩
    rw [written_eq_view regular number fun bytes same => kind i node desc bytes place there described same]
    rfl

end Values

/-- Where a request writes to a register, a later one reads it, and none between them changes it, both get the
same value, if it is not given as bytes to a register that reads as a number. -/
def ReadsBack (m : NodeMgr) (visits : List Visit) (outcomes : List (Outcome Exception Response)) : Prop :=
  ∀ earlier write between read later nodeId reg v r r',
    visits = earlier ++ write :: (between ++ read :: later) →
    write.method.asked write.env.cast write.params = .ok (some (nodeId, reg, .set v)) →
    (∀ a ∈ between, Leaves nodeId reg a) →
    read.method.asked read.env.cast read.params = .ok (some (nodeId, reg, .get)) →
    outcomes[earlier.length]? = some (.value r) →
    outcomes[earlier.length + 1 + between.length]? = some (.value r') →
    (∀ i node desc bytes, i.val = nodeId.toNat → m.nodes i = some node → node.registerMap reg = some desc →
      v = .bytes bytes → 32 < desc.size) →
    ∃ w, r = ⟨write.id, API.registerJson write.env.cast w⟩ ∧ r' = ⟨read.id, API.registerJson read.env.cast w⟩

theorem answerAll_readsBack {d : Daemon} {programs : Programs} (kept : Kept d.nodeMgr programs) (files : Files)
    {visits : List Visit} (admissible : ∀ a ∈ visits, Admissible d.nodeMgr a) : ReadsBack d.nodeMgr visits (Files.answerAll d files visits).1 := by
  rintro earlier write between read later nodeId reg v r r' rfl wrote leaves asks written given kind
  rw [getElem?_answerAll] at written
  have shape : earlier ++ write :: (between ++ read :: later) =
      (earlier ++ write :: between) ++ read :: later := by
    rw [List.append_assoc, List.cons_append]
  have place : earlier.length + 1 + between.length = (earlier ++ write :: between).length := by
    rw [List.length_append, List.length_cons]
    omega
  rw [shape, place, getElem?_answerAll, answerAll_append] at given
  exact answer_reads kept (admissible write (by simp)) wrote leaves asks (Option.some.inj written) (Option.some.inj given) kind

/-- Requests of any clients for the registers of any nodes are answered, in the order in which they are
served, as by a store of numbers; the nodes follow the store, nothing else of the daemon changes, and what
is written is read until something else is written. -/
theorem serveAll_refines_store {texts : API.Texts} {programs : Programs} {d : Daemon} {mems : Memories}
    {files : Files} {visits : List Visit} (kept : Kept d.nodeMgr programs)
    (represents : Represents d.nodeMgr mems files) (admissible : ∀ a ∈ visits, Admissible d.nodeMgr a) :
    (serveAll texts programs d mems visits).1 = (Files.answerAll d files visits).1 ∧
      Represents d.nodeMgr (serveAll texts programs d mems visits).2.2 (Files.answerAll d files visits).2 ∧
      idle (serveAll texts programs d mems visits).2.1 = idle d ∧
      ReadsBack d.nodeMgr visits (serveAll texts programs d mems visits).1 := by
  obtain ⟨outcomes, follows, quiet⟩ := serveAll_refines texts kept represents admissible
  refine ⟨outcomes, follows, quiet, ?_⟩
  rw [outcomes]
  exact answerAll_readsBack kept files admissible

/-- Two nodes with a register of twelve bits each. -/
def twoNodes : Daemon :=
  let node := Node.oneRegister 11 (Node.writableRegister "uint" 12)
  { Daemon.initial with
    nodeMgr := ⟨fun i => if i.val = 5 then some { node with nodeId := 5 } else if i.val = 7 then some node else none,
      fun _ => none, []⟩
    clients := fun _ => (default : ClientThread).authenticate "client" }

theorem twoNodes_described {i : Fin (ID_MAX_VALUE + 1)} {node : Node} (there : twoNodes.nodeMgr.nodes i = some node) :
    node.nodeId.toNat = i ∧ ∀ reg desc, node.registerMap reg = some desc →
      reg = 11 ∧ desc = Node.writableRegister "uint" 12 := by
  have only {reg : Byte} {desc : RegisterDesc}
      (described : (if reg = 11 then some (Node.writableRegister "uint" 12) else none) = some desc) :
      reg = 11 ∧ desc = Node.writableRegister "uint" 12 := by
    split_ifs at described with same
    exact ⟨same, (Option.some.inj described).symm⟩
  change (if i.val = 5 then _ else if i.val = 7 then _ else none) = some node at there
  split_ifs at there with five seven
  · obtain rfl := Option.some.inj there
    exact ⟨by rw [five]; rfl, fun reg desc described => only described⟩
  · obtain rfl := Option.some.inj there
    exact ⟨by rw [seven]; rfl, fun reg desc described => only described⟩

theorem kept_twoNodes : Kept twoNodes.nodeMgr RegisterNode.onFrame :=
  ⟨fun _ _ there => (twoNodes_described there).1, fun _ node _ => RegisterNode.onFrame_documented node.nodeId⟩

/-- A request for one of these registers. -/
def visit (client : ClientId) (id : BitVec 32) (method : API.RegisterMethod) (members : List (String × Json)) :
    Visit :=
  ⟨default, 0, 0, client, .integer id, method, .map (("reg", .numberUnsigned 11) :: members)⟩

def clearedMemories : Memories := fun _ r => if r = 11 then some ⟨[0, 0], true, true⟩ else none

theorem represents_clearedMemories : Represents twoNodes.nodeMgr clearedMemories fun _ _ => 0 := by
  intro i node there reg desc described regular
  obtain ⟨rfl, rfl⟩ := (twoNodes_described there).2 reg desc described
  refine ⟨Nat.two_pow_pos 16, ?_⟩
  change clearedMemories node.nodeId 11 = some ⟨Bytes.ofValue 2 0, true, true⟩
  rfl

/-- One client writes to a register of a node, another sets a bit of the other node, and the first reads. -/
theorem serveAll_refines_store_twoNodes :
    (serveAll default RegisterNode.onFrame twoNodes clearedMemories
      [visit 0 1 .setRegisterValue [("node_id", .numberUnsigned 7), ("value", .numberUnsigned 0x12345)],
        visit 1 1 .setRegisterBit [("node_id", .numberUnsigned 5), ("bit_num", .numberUnsigned 4)],
        visit 0 2 .getRegisterValue [("node_id", .numberUnsigned 7)]]).1 =
      [.value ⟨.integer 1, .numberInteger 0x345⟩, .value ⟨.integer 1, .ofBytes [0x00, 0x10]⟩,
        .value ⟨.integer 2, .numberInteger 0x345⟩] := by
  refine (serveAll_refines_store kept_twoNodes represents_clearedMemories fun a among => ?_).1.trans rfl
  intro nodeId reg op i node asked place there desc described
  obtain ⟨-, rfl⟩ := (twoNodes_described there).2 _ desc described
  simp only [List.mem_cons, List.not_mem_nil, or_false] at among
  refine ⟨Node.regular_twelveBits, ?_⟩
  obtain rfl | rfl | rfl := among
  · cases asked
    exact .inl (by decide)
  · cases asked
    change (4 : Byte).toNat < 8 * Node.byteSize (Node.writableRegister "uint" 12)
    decide
  · cases asked
    trivial

end RegisterService

end H9d
