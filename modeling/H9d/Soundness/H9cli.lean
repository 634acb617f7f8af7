import H9d.Soundness.BitNumbers
import H9d.Soundness.CliNames
import H9d.Soundness.RegisterService
import H9d.Soundness.Sessions
import H9d.Soundness.ThreadAnswers

/-! # The command line as a store of registers

What is typed at the command line reaches the registers of the nodes by their names: through the lookups of the
cache, the texts on the wire, the handlers of the daemon and the frames on the bus, a session gives what it would
give without a cache, on registers that are numbers.
-/

namespace H9d

open Cxx Nlohmann Jsonrpcpp Machine API

namespace CliCache

/-! ## What the cache reads -/

theorem member_reread (j : Json) (key : String) : member j.reread key = (member j key).reread := by
  rw [member, member, Json.lookup_reread]
  cases j.members.lookup key <;> rfl

theorem mapM_map_reread {α : Type} {read : Json → Except AccessError α} (blind : ∀ j, read j.reread = read j)
    (elems : List Json) : (elems.map Json.reread).mapM read = elems.mapM read := by
  have same : read ∘ Json.reread = read := funext blind
  rw [List.mapM_map, same]

theorem getStrings_reread (j : Json) : getStrings j.reread = getStrings j := by
  cases j with
  | array elems =>
    rw [Json.reread, Json.rereadElems_eq]
    exact mapM_map_reread Json.getString_reread elems
  | numberInteger i => exact Json.apply_reread_numberInteger getStrings i rfl
  | _ => rfl

variable (cast : FloatCast)

theorem readRegister_reread (reg : Json) : readRegister cast reg.reread = readRegister cast reg := by
  simp only [readRegister, member_reread, Json.getString_reread, Json.getNumber_reread, getStrings_reread]

theorem readNode_reread (node : Json) : readNode cast node.reread = readNode cast node := by
  simp only [readNode, member_reread, Json.getString_reread, Json.getNumber_reread]

end CliCache

namespace H9cli

section Names

variable (texts : Texts) {c : ClientId} (env : Env) {d : Daemon}

theorem outcome_asked (opened : (d.clients c).authenticated = true) (method : Method) (params : Parameter)
    (quiet : ¬Waits (method.handler texts env c .null params) d) :
    (asked texts c env d method.name params).outcome =
      (do return ⟨.null, ← method.handler texts env c .null params⟩ : Call Daemon Exception Response).outcome d := by
  have passed : admitted (d.clients c).authenticated ⟨.null, method.name, params⟩ = some method := by
    rw [opened]
    cases method <;> rfl
  change (API.call texts env c ⟨.null, method.name, params⟩).outcome d = _
  rw [API.call, Call.read_bind, passed]
  change (Call.bind (awaited env _) _ d).1 = (Call.bind _ _ d).1
  rw [Call.bind, Call.bind, Call.outcome, Call.outcome, Call.after, Call.after, awaited_of_not_waits env quiet]

theorem outcome_registers (opened : (d.clients c).authenticated = true) (params : Parameter) :
    (asked texts c env d "get_registers_list" params).outcome =
      (do return ⟨.null, ← API.getRegistersList env c .null params⟩ : Call Daemon Exception Response).outcome d :=
  outcome_asked texts env opened .getRegistersList params (getRegistersList_quiet env c .null params d)

/-- An error that a request leads to is written, if the request is. -/
theorem isWritten_error {method : String} {params : Parameter} (isUtf8 : params.IsUtf8) {e : RequestException}
    (answer : (asked texts c env d method params).answer = some (.error e)) :
    (TCPServer.Reply.error e).isWritten = true := by
  have thrown : (asked texts c env d method params).outcome = .throws (.request e) := by
    rw [TCPServer.Handled.answer] at answer
    split at answer
    · cases answer
    · next throws =>
      cases answer
      exact throws
    · cases answer
    · cases answer
  obtain ⟨id, texts⟩ := throws_call texts env c ⟨.null, method, params⟩ d _ thrown
  apply decide_eq_true
  apply TCPServer.error_isUtf8
  · rw [id]
    exact Id.isUtf8_null
  · exact texts isUtf8

/-- A node in the answer to `get_nodes_list`. -/
def listedNode (entry : Fin (H9Frame.ID_MAX_VALUE + 1) × Node) : Json :=
  .object [("id", .numberUnsigned (BitVec.ofNat 64 entry.1)), ("name", .string entry.2.nodeName),
    ("type", .ofUInt16 entry.2.nodeType)]

theorem answer_getNodesList (opened : (d.clients c).authenticated = true) :
    (asked texts c env d "get_nodes_list" .null).answer =
      some (.response ⟨.null, .array (d.nodeMgr.getNodesList.map listedNode)⟩) := by
  have outcome : (asked texts c env d "get_nodes_list" .null).outcome = _ :=
    outcome_asked texts env opened .getNodesList .null (not_waits (.bind (.read _) fun _ => .pure _))
  rw [TCPServer.Handled.answer, outcome]
  rfl

variable {nodeId : BitVec 16} {params : Parameter}

theorem nodeId_ofUInt16 (cast : FloatCast) (nodeId : BitVec 16) :
    API.nodeId cast (.map [("node_id", .ofUInt16 nodeId)]) = .ok nodeId := by
  change Except.ok ((nodeId.setWidth 64).setWidth 16) = _
  rw [BitVec.setWidth_setWidth_of_le _ (by decide), BitVec.setWidth_eq]

theorem answer_found (opened : (d.clients c).authenticated = true) (read : API.nodeId env.cast params = .ok nodeId)
    {n : Node} (found : (d.nodeMgr.nodeAt nodeId : Outcome DevNodeException _) = .value (some n)) :
    (asked texts c env d "get_registers_list" params).answer =
      some (.response ⟨.null, .array (n.getRegistersList.map API.registerInfo)⟩) := by
  obtain ⟨i, place, there⟩ := RegisterService.exists_of_nodeAt found
  have same : nodeId = BitNumbers.idOf i := by
    rw [BitNumbers.idOf, place, BitVec.ofNat_toNat, BitVec.setWidth_eq]
  have listed : (API.getRegistersList env c .null params).outcome d =
      .value (.array (n.getRegistersList.map API.registerInfo)) :=
    BitNumbers.answers_of_found there env c .null params d rfl (same ▸ read)
  have outcome : (asked texts c env d "get_registers_list" params).outcome = _ :=
    (outcome_registers texts env opened _).trans (Call.outcome_bind_of_value listed _)
  rw [TCPServer.Handled.answer, outcome]
  rfl

/-- The handler up to the question whether the node exists. -/
theorem outcome_getRegistersList (read : API.nodeId env.cast params = .ok nodeId) (x : Outcome DevNodeException Bool)
    (exist : d.nodeMgr.isNodeExist nodeId = x) : (API.getRegistersList env c .null params).outcome d =
      (do
        if ← API.uncaught (Call.ofOutcome x) then
          let registers ← API.uncaught (Call.ofOutcome (d.nodeMgr.getRegistersList nodeId))
          return .array (registers.map API.registerInfo)
        else
          Call.throw (.request ⟨⟨"Node " ++ toString nodeId.toNat ++ "does not exist.", NODE_IS_NOT_EXIST, none⟩, .null⟩) :
        Call Daemon Exception Json).outcome d := by
  rw [API.getRegistersList, read]
  refine (Call.outcome_bind_of_value (a := nodeId) rfl _).trans ?_
  rw [Call.read_bind]
  subst exist
  rfl

theorem answer_missing (opened : (d.clients c).authenticated = true) (read : API.nodeId env.cast params = .ok nodeId)
    (missing : (d.nodeMgr.nodeAt nodeId : Outcome DevNodeException (Option Node)) = .value none) :
    ∃ e, (asked texts c env d "get_registers_list" params).answer = some (.error e) := by
  have exist : d.nodeMgr.isNodeExist nodeId = .value false := by
    rw [NodeMgr.isNodeExist, missing]
    rfl
  have refused := (outcome_getRegistersList (c := c) env read _ exist).trans
    (Call.outcome_bind_of_value (a := false) (BitNumbers.uncaught_value rfl d) _)
  have outcome : (asked texts c env d "get_registers_list" params).outcome = _ :=
    (outcome_registers texts env opened _).trans (Call.outcome_bind_of_throws refused _)
  rw [TCPServer.Handled.answer, outcome]
  exact ⟨_, rfl⟩

/-- The array is read behind its end. -/
theorem answer_outside (opened : (d.clients c).authenticated = true)
    (read : API.nodeId env.cast params = .ok nodeId) (outside : ¬nodeId.toNat ≤ H9Frame.ID_MAX_VALUE) :
    (asked texts c env d "get_registers_list" params).answer = none := by
  have exist : d.nodeMgr.isNodeExist nodeId = .undefined := by
    rw [NodeMgr.isNodeExist, NodeMgr.nodeAt, dif_neg (by omega)]
    rfl
  have undefined := (outcome_getRegistersList (c := c) env read _ exist).trans
    (Call.outcome_bind_of_undefined rfl _)
  have outcome : (asked texts c env d "get_registers_list" params).outcome = _ :=
    (outcome_registers texts env opened _).trans (Call.outcome_bind_of_undefined undefined _)
  rw [TCPServer.Handled.answer, outcome]

/-- What is said of the nodes in the table and of their registers is UTF-8. -/
structure Legible (m : NodeMgr) : Prop where
  nodes : ∀ entry ∈ m.getNodesList, Utf8.Valid entry.2.nodeName
  registers : ∀ i n, m.nodes i = some n → ∀ desc ∈ n.getRegistersList, desc.Speaks

theorem isText_listedNode {entry : Fin (H9Frame.ID_MAX_VALUE + 1) × Node} (valid : Utf8.Valid entry.2.nodeName) :
    (listedNode entry).IsText := by
  refine ⟨?_, List.forall_mem_nil _⟩
  rw [listedNode, Json.isUtf8_object, utf8_keys (by decide), utf8_keys (by decide), utf8_keys (by decide)]
  exact ⟨Json.isUtf8_numberUnsigned _, (Json.isUtf8_string _).mpr valid, isUtf8_ofUInt16 _, Json.areUtf8_nil⟩

theorem floats_ofStrings (strings : List String) : (Json.ofStrings strings).floats = [] := by
  change Json.floatsElems (strings.map .string) = []
  induction strings with
  | nil => rfl
  | cons s strings ih => exact ih

theorem isText_registerInfo {desc : RegisterDesc} (speaks : desc.Speaks) : (API.registerInfo desc).IsText := by
  refine ⟨(registerInfo_isUtf8 desc).mpr speaks, ?_⟩
  change ∀ x ∈ (Json.ofStrings desc.bitsNames).floats ++ [], Json.isFinite x = true
  rw [floats_ofStrings]
  exact List.forall_mem_nil _

theorem isText_getNodesList {m : NodeMgr} (legible : Legible m) :
    (Json.array (m.getNodesList.map listedNode)).IsText :=
  Json.isText_array.mpr (List.forall_mem_map.mpr fun entry listed => isText_listedNode (legible.nodes entry listed))

theorem isText_getRegistersList {m : NodeMgr} (legible : Legible m) {i : Fin (H9Frame.ID_MAX_VALUE + 1)} {n : Node}
    (there : m.nodes i = some n) : (Json.array (n.getRegistersList.map API.registerInfo)).IsText :=
  Json.isText_array.mpr (List.forall_mem_map.mpr fun desc listed =>
    isText_registerInfo (legible.registers i n there desc listed))

/-- Each register of a node is kept under its own number. -/
def Keyed (m : NodeMgr) : Prop := ∀ i n, m.nodes i = some n → BitNumbers.Keyed n

/-- The registers in one entry of the table. -/
def registersAt (m : NodeMgr) (keyed : Keyed m) (i : Fin (H9Frame.ID_MAX_VALUE + 1)) : Option CliCache.Registers :=
  match there : m.nodes i with
  | some n => some (BitNumbers.registersOfNode n (keyed i n there))
  | none => none

theorem registersAt_some {m : NodeMgr} (keyed : Keyed m) {i : Fin (H9Frame.ID_MAX_VALUE + 1)} {n : Node}
    (there : m.nodes i = some n) : registersAt m keyed i = some (BitNumbers.registersOfNode n (keyed i n there)) := by
  rw [registersAt]
  split
  · next n' there' =>
    obtain rfl := Option.some.inj (there'.symm.trans there)
    rfl
  · next none => cases none.symm.trans there

theorem registersAt_none {m : NodeMgr} (keyed : Keyed m) {i : Fin (H9Frame.ID_MAX_VALUE + 1)}
    (missing : m.nodes i = none) : registersAt m keyed i = none := by
  rw [registersAt]
  split
  · next n there => cases there.symm.trans missing
  · rfl

/-- The names in the table of the nodes. -/
def directory (m : NodeMgr) (keyed : Keyed m) : CliCache.Daemon where
  nodes := some (m.getNodesList.map fun (id, node) => (node.nodeName, BitNumbers.idOf id))
  devs := none
  registers nodeId :=
    if inside : nodeId.toNat < H9Frame.ID_MAX_VALUE + 1 then registersAt m keyed ⟨nodeId.toNat, inside⟩ else none
  devMethods _ := none

theorem replies_nodes (opened : (d.clients c).authenticated = true) (legible : Legible d.nodeMgr) :
    (replies texts c env d).nodes =
      some (d.nodeMgr.getNodesList.map fun (id, node) => (node.nodeName, BitNumbers.idOf id)) := by
  have read (entry : Fin (H9Frame.ID_MAX_VALUE + 1) × Node) :
      CliCache.readNode env.cast (listedNode entry) = .ok (entry.2.nodeName, BitNumbers.idOf entry.1) := by
    have number : (BitVec.ofNat 64 entry.1).setWidth 16 = BitNumbers.idOf entry.1 := by
      rw [BitNumbers.idOf, ← BitVec.toNat_inj]
      simp
    rw [← number]
    rfl
  have reads : CliCache.readNode env.cast ∘ listedNode = fun entry =>
      pure (entry.2.nodeName, BitNumbers.idOf entry.1) := funext read
  rw [replies, result?, answer_getNodesList texts env opened]
  dsimp only
  rw [Json.throughText?_of_isText (isText_getNodesList legible)]
  simp only [Option.bind_some, Json.reread, Json.rereadElems_eq, CliCache.elements]
  rw [CliCache.mapM_map_reread (CliCache.readNode_reread env.cast), List.mapM_map, reads, List.mapM_pure]
  rfl

theorem replies_registers (opened : (d.clients c).authenticated = true) (legible : Legible d.nodeMgr)
    (keyed : Keyed d.nodeMgr) :
    (replies texts c env d).registers = (directory d.nodeMgr keyed).registers := by
  funext nodeId
  have read := nodeId_ofUInt16 env.cast nodeId
  change (result? texts c env d "get_registers_list" _).bind _ = dite _ _ _
  by_cases inside : nodeId.toNat < H9Frame.ID_MAX_VALUE + 1
  · have place (found : Option Node) (there : d.nodeMgr.nodes ⟨nodeId.toNat, inside⟩ = found) :
        (d.nodeMgr.nodeAt nodeId : Outcome DevNodeException _) = .value found := by
      rw [NodeMgr.nodeAt, dif_pos inside, there]
    rw [dif_pos inside]
    cases there : d.nodeMgr.nodes ⟨nodeId.toNat, inside⟩ with
    | none =>
      obtain ⟨e, refused⟩ := answer_missing texts env opened read (place none there)
      rw [registersAt_none keyed there, result?, refused]
      rfl
    | some n =>
      rw [registersAt_some keyed there, result?, answer_found texts env opened read (place (some n) there)]
      dsimp only
      rw [Json.throughText?_of_isText (isText_getRegistersList legible there)]
      simp only [Option.bind_some, Json.reread, Json.rereadElems_eq, CliCache.elements]
      rw [CliCache.readRegisters, CliCache.mapM_map_reread (CliCache.readRegister_reread env.cast),
        ← CliCache.readRegisters, BitNumbers.readRegisters_registerInfo]
      exact dif_pos (BitNumbers.distinct_getRegistersList (keyed _ n there))
  · rw [dif_neg inside, result?, answer_outside texts env opened read (by omega)]
    rfl

/-- The daemon replies what its table has. -/
theorem replies_eq (opened : (d.clients c).authenticated = true) (legible : Legible d.nodeMgr)
    (keyed : Keyed d.nodeMgr) : replies texts c env d = directory d.nodeMgr keyed := by
  have nodes := replies_nodes texts env opened legible
  have registers := replies_registers texts env opened legible keyed
  calc replies texts c env d
      = ⟨(replies texts c env d).nodes, none, (replies texts c env d).registers, fun _ => none⟩ := rfl
    _ = directory d.nodeMgr keyed := by
      rw [nodes, registers]
      rfl

/-- A result that is a text is written. -/
theorem isWritten_response {j : Json} (isText : j.IsText) : (TCPServer.Reply.response ⟨.null, j⟩).isWritten = true :=
  decide_eq_true ((TCPServer.response_isUtf8 _).mpr ⟨Id.isUtf8_null, isText.1⟩)

/-- The daemon survives what is asked about the nodes of its array. -/
theorem answers_survives (opened : (d.clients c).authenticated = true) (legible : Legible d.nodeMgr) :
    CliParser.Answers (survives texts c env d) where
  nodes := by
    have answered : (asked texts c env d "get_nodes_list" .null).answer = _ := answer_getNodesList texts env opened
    change (asked texts c env d "get_nodes_list" .null).answer.any _ = true
    rw [answered]
    exact isWritten_response (isText_getNodesList legible)
  registers nodeId := by
    have read : API.nodeId env.cast (.map [("node_id", .numberInteger (.ofInt 64 nodeId.toNat))]) = .ok nodeId := by
      change Except.ok ((BitVec.ofInt 64 nodeId.toNat).setWidth 16) = _
      rw [BitVec.ofInt_natCast, BitVec.setWidth_ofNat_of_le (by decide), BitVec.ofNat_toNat, BitVec.setWidth_eq]
    change (asked texts c env d "get_registers_list" _).answer.any _ = _
    by_cases inside : nodeId.toNat ≤ H9Frame.ID_MAX_VALUE
    · rw [decide_eq_true inside]
      have place : (d.nodeMgr.nodeAt nodeId : Outcome DevNodeException _) =
          .value (d.nodeMgr.nodes ⟨nodeId.toNat, Nat.lt_succ_of_le inside⟩) := dif_pos _
      cases there : d.nodeMgr.nodes ⟨nodeId.toNat, Nat.lt_succ_of_le inside⟩ with
      | none =>
        obtain ⟨e, refused⟩ := answer_missing texts env opened read (place.trans (congrArg _ there))
        have number : (Parameter.map [("node_id", .numberInteger (.ofInt 64 nodeId.toNat))]).IsUtf8 :=
          (utf8_keys (by decide) _).mpr ⟨Json.isUtf8_numberInteger _, Json.areUtf8_nil⟩
        have written := isWritten_error texts env number refused
        exact (congrArg (Option.any _) refused).trans written
      | some n =>
        have found := answer_found texts env opened read (place.trans (congrArg _ there))
        exact (congrArg (Option.any _) found).trans (isWritten_response (isText_getRegistersList legible there))
    · rw [decide_eq_false inside]
      exact congrArg (Option.any _) (answer_outside texts env opened read inside)

end Names

/-! ## One request -/

section Requests

variable (cast : FloatCast)

theorem getAt_reread {α : Type} (params : Parameter) (key : String) {get : Json → Except AccessError α}
    (blind : ∀ j, get j.reread = get j) : params.reread.getAt key get = params.getAt key get := by
  cases params with
  | map members =>
    rw [Parameter.getAt, Parameter.getAt, atKey, atKey]
    simp only [Parameter.reread, Parameter.paramMap, Json.lookup_rereadMembers]
    cases members.lookup key with
    | none => rfl
    | some value => exact blind value
  | _ => rfl

theorem registerValue_reread (j : Json) : registerValue cast j.reread = registerValue cast j := by
  cases j with
  | numberInteger i => exact Json.apply_reread_numberInteger (registerValue cast) i rfl
  | array elems =>
    rw [Json.reread, Json.rereadElems_eq, registerValue, registerValue, Json.getBytes, Json.getBytes,
      CliCache.mapM_map_reread (Json.getNumber_reread cast 8)]
  | _ => rfl

/-- The daemon reads of the text what was meant. -/
theorem asked_reread (method : RegisterMethod) (params : Parameter) :
    method.asked cast params.reread = method.asked cast params := by
  cases method <;> simp only [RegisterMethod.asked, registerParams, setRegisterParams, bitParams, API.nodeId,
    getAt_reread params _ (Json.getNumber_reread cast _), getAt_reread params _ (registerValue_reread cast)]

variable {files : RegisterService.Files} {d : Daemon}

/-- Where the id of the request goes. -/
def Named (id : Id) : Outcome Exception Response → Prop
  | .value r => r.id = id
  | .throws (.request e) => e.id = id
  | .throws _ | .undefined => True

theorem named_answer (op : RegisterOp) (id : Id) (x : Outcome DevNodeException RegValue) :
    Named id (op.answer cast id x) := by
  cases x with
  | value v => exact rfl
  | throws e => exact rfl
  | undefined => trivial

theorem said_answer (op : RegisterOp) (id id' : Id) (method : String) (x : Outcome DevNodeException RegValue) :
    said method (op.answer cast id x) = said method (op.answer cast id' x) := by
  cases x <;> rfl

/-- The answer of the store by what is asked, the request having an id of its own. -/
theorem answer_renamed (a : RegisterService.Visit) (id : Id) {params : Parameter}
    (same : a.method.asked a.env.cast params = a.method.asked a.env.cast a.params) (method : String) :
    Named id (files.answer d { a with id, params }).1 ∧
      said method (files.answer d { a with id, params }).1 = said method (files.answer d a).1 ∧
      (files.answer d { a with id, params }).2 = (files.answer d a).2 := by
  rw [RegisterService.Files.answer, RegisterService.Files.answer]
  dsimp only
  rw [same]
  split_ifs
  · cases a.method.asked a.env.cast a.params with
    | error e => exact ⟨rfl, rfl, rfl⟩
    | ok read =>
      cases read with
      | none => exact ⟨rfl, rfl, rfl⟩
      | some read => exact ⟨named_answer .., said_answer .., rfl⟩
  · exact ⟨rfl, rfl, rfl⟩

/-- The texts of an answer are UTF-8. -/
def Written : Outcome Exception Response → Prop
  | .value r => r.result.IsUtf8
  | .throws (.request e) => e.error.IsUtf8
  | .throws _ | .undefined => True

/-- The errors of a node. -/
theorem written_throws (op : RegisterOp) (id : Id) {e : DevNodeException} (isUtf8 : e.IsUtf8) :
    Written (op.answer cast id (.throws e)) := ⟨isUtf8, nofun⟩

theorem written_answer (op : RegisterOp) (id : Id) {x : Outcome DevNodeException RegValue}
    (value : x.Gives RegValue.IsUtf8) (error : ∀ e, x = .throws e → e.IsUtf8) : Written (op.answer cast id x) := by
  cases x with
  | value v =>
    have isUtf8 := value v rfl
    cases op with
    | get | set => exact (registerJson_isUtf8 cast v).mpr isUtf8
    | setBit | clearBit => exact bitsJson_isUtf8 cast isUtf8
  | throws e => exact written_throws cast op id (error e rfl)
  | undefined => trivial

theorem isUtf8_view (desc : RegisterDesc) (k : ℕ) : (RegisterFile.view desc k).IsUtf8 := by
  rw [RegisterFile.view]
  split_ifs <;> trivial

theorem isUtf8_written {desc : RegisterDesc} {v : RegValue} {k : ℕ} (number : RegisterFile.number? desc v = some k) :
    (RegisterFile.written k v).IsUtf8 := by
  cases v with
  | string s => cases number
  | int | float | bytes => trivial

/-- No register of the store is a text. -/
theorem apply_isUtf8 (desc : RegisterDesc) (reg : Byte) (op : RegisterOp) (k : ℕ) :
    (RegisterFile.apply desc reg op k).1.Gives RegValue.IsUtf8 ∧
      ∀ e, (RegisterFile.apply desc reg op k).1 = .throws e → e.IsUtf8 := by
  have thrown {e : DevNodeException} (isUtf8 : e.IsUtf8) :
      (Outcome.throws e : Outcome DevNodeException RegValue).Gives RegValue.IsUtf8 ∧
        ∀ e', (Outcome.throws e : Outcome DevNodeException RegValue) = .throws e' → e'.IsUtf8 := by
    refine ⟨nofun, ?_⟩
    rintro _ ⟨⟩
    exact isUtf8
  have given {v : RegValue} (isUtf8 : v.IsUtf8) :
      (Outcome.value v : Outcome DevNodeException RegValue).Gives RegValue.IsUtf8 ∧
        ∀ e, (Outcome.value v : Outcome DevNodeException RegValue) = .throws e → e.IsUtf8 :=
    ⟨(Outcome.gives_value v).mpr isUtf8, nofun⟩
  have notWritable := thrown (DevNodeException.isUtf8_registerNotWritableException reg)
  cases op with
  | get =>
    rw [RegisterFile.apply]
    split
    · exact given (isUtf8_view desc k)
    · exact thrown (DevNodeException.isUtf8_registerNotReadableException reg)
  | set value =>
    rw [RegisterFile.apply]
    split
    · cases number : RegisterFile.number? desc value with
      | some k => exact given (isUtf8_written number)
      | none => exact thrown (DevNodeException.isUtf8_unsupportedRegisterDataConversionException reg)
    · exact notWritable
  | setBit bit | clearBit bit =>
    rw [RegisterFile.apply, RegisterFile.apply.change]
    split
    · exact given trivial
    · exact notWritable

theorem errors_asked (method : RegisterMethod) (params : Parameter) :
    Errors AccessError.IsUtf8 (method.asked cast params) := by
  cases method with
  | getRegisterValue => exact (errors_registerParams cast params).bind fun _ _ => errors_ok _
  | setRegisterValue => exact (errors_setRegisterParams cast params).bind fun _ _ => errors_ok _
  | setRegisterBit | clearRegisterBit => exact (errors_bitParams cast params).bind fun _ _ => errors_ok _

/-- What the store answers is UTF-8. -/
theorem written_store (a : RegisterService.Visit) : Written (files.answer d a).1 := by
  have valid : Utf8.Valid "Invalid params" ∧ Utf8.Valid "Unsupported JSON type as a value" ∧
      Utf8.Valid "Method not found" ∧ Utf8.Valid "Node not exist exception" := by decide
  rw [RegisterService.Files.answer]
  split
  · cases asked : a.method.asked a.env.cast a.params with
    | error e => exact ⟨valid.1, fun data same => Option.some.inj same ▸ errors_asked _ _ _ e asked⟩
    | ok read =>
      cases read with
      | none => exact ⟨valid.1, fun data same => Option.some.inj same ▸ valid.2.1⟩
      | some read =>
        obtain ⟨nodeId, reg, op⟩ := read
        dsimp only
        rw [RegisterService.Files.perform, NodeMgr.nodeAt]
        split
        · next node _ =>
          rw [RegisterFile.step]
          dsimp only [RegisterService.Visit.access]
          cases node.registerMap reg with
          | none =>
            exact written_throws _ op _ (DevNodeException.isUtf8_registerNotExistException reg)
          | some desc =>
            obtain ⟨value, error⟩ := apply_isUtf8 desc reg op (files node.nodeId reg)
            exact written_answer _ _ _ value error
        · exact written_throws _ op _ valid.2.2.2
        · next e thrown => split at thrown <;> cases thrown
        · trivial
  · exact ⟨valid.2.2.1, by rintro _ ⟨⟩⟩

/-- What the daemon answers is printed, if it answers. -/
theorem printed_answer {id : Id} (isUtf8 : id.toJson.IsUtf8) (method : String) {h : TCPServer.Handled}
    (named : Named id h.outcome) (written : Written h.outcome) :
    (h.answer = none ∧ said method h.outcome = none) ∨
      ∃ reply json printed, h.answer = some reply ∧ (TCPServer.Message.reply reply).toJson.throughText? = some json ∧
        said method h.outcome = some printed ∧ getAndParseResponse cast id method json = .value [printed] := by
  have read (reply : TCPServer.Reply) : H9Connector.recv cast
      (some (TCPServer.Message.reply reply).toJson.finite.reread) = .value (some (.response reply.said)) := by
    rw [H9Connector.recv, (TCPServer.Message.reply reply).doParseJson_toJson cast fun _ batch => by cases batch]
    rfl
  rw [TCPServer.Handled.answer]
  cases outcome : h.outcome with
  | undefined => exact .inl ⟨rfl, rfl⟩
  | value r =>
    rw [outcome] at named written
    have text := (TCPServer.response_isUtf8 r).mpr ⟨named ▸ isUtf8, written⟩
    refine .inr ⟨.response r, _, _, rfl, Json.throughText?_of_isUtf8 text, rfl, ?_⟩
    rw [getAndParseResponse, read, ← named]
    simp [TCPServer.Reply.said, Response.object, ResponseObject.reread]
  | throws e =>
    cases e with
    | devNode e => exact .inl ⟨rfl, rfl⟩
    | access e => exact .inl ⟨rfl, rfl⟩
    | request e =>
      rw [outcome] at named written
      have text := TCPServer.error_isUtf8 (named ▸ isUtf8) written
      refine .inr ⟨.error e, _, _, rfl, Json.throughText?_of_isUtf8 text, rfl, ?_⟩
      rw [getAndParseResponse, read, ← named]
      simp [TCPServer.Reply.said, RequestException.response, ResponseObject.reread, ErrorObject.reread, Error.object]

/-- The request of a line has no number that is not finite. -/
theorem floats_members (req : CliParser.Request) : ∀ member ∈ req.members, member.2.floats = [] := by
  intro member listed
  obtain ⟨⟨key, value⟩, among, given⟩ := List.mem_filterMap.mp listed
  obtain ⟨v, found, rfl⟩ := Option.map_eq_some_iff.mp given
  simp only [List.mem_cons, Prod.mk.injEq, List.not_mem_nil, or_false] at among
  obtain ⟨rfl, rfl⟩ | ⟨rfl, rfl⟩ | ⟨rfl, rfl⟩ | ⟨rfl, rfl⟩ | ⟨rfl, rfl⟩ | ⟨rfl, rfl⟩ := among <;>
    obtain ⟨w, -, rfl⟩ := Option.map_eq_some_iff.mp found
  · rfl
  · rfl
  · rfl
  · rfl
  · rfl
  · cases w <;> rfl

/-- A request with strings that are UTF-8 is sent as a text. -/
theorem isText_request (n : BitVec 32) {method : String} (valid : Utf8.Valid method) (req : CliParser.Request)
    (isUtf8 : req.params.IsUtf8) : (Request.toJson ⟨.integer n, method, req.params⟩).IsText := by
  have utf8 := (Request.isUtf8_toJson ⟨.integer n, method, req.params⟩).mpr ⟨Id.isUtf8_integer n, valid, isUtf8⟩
  refine ⟨utf8, Json.forall_floats_object.mpr (List.forall_mem_append.mpr ⟨?_, ?_⟩)⟩
  · exact List.forall_mem_cons.mpr ⟨List.forall_mem_nil _, List.forall_mem_cons.mpr ⟨List.forall_mem_nil _,
      List.forall_mem_singleton.mpr (List.forall_mem_nil _)⟩⟩
  · dsimp only
    rw [CliParser.Request.params]
    split
    · exact List.forall_mem_nil _
    · refine List.forall_mem_singleton.mpr (Json.forall_floats_object.mpr fun member listed => ?_)
      rw [floats_members req member listed]
      exact List.forall_mem_nil _

end Requests

/-! ## The session -/

/-- A session on the nodes, and the numbers of their registers. -/
structure Related (names : CliCache.Daemon) (d : Daemon) (s : State) (files : RegisterService.Files) : Prop where
  current : CliCache.Current names s.cache
  idle : RegisterService.idle s.daemon = RegisterService.idle d
  represents : RegisterService.Represents d.nodeMgr s.mems files

section Session

variable {texts : Texts} {programs : RegisterService.Programs} {c : ClientId} {d : Daemon}
  {names : CliCache.Daemon} {line : Line} {s : State} {files : RegisterService.Files}

theorem Related.nodeMgr (related : Related names d s files) : s.daemon.nodeMgr = d.nodeMgr :=
  calc s.daemon.nodeMgr = (RegisterService.idle s.daemon).nodeMgr := rfl
    _ = d.nodeMgr := by rw [related.idle]; rfl

theorem Related.clients (related : Related names d s files) : s.daemon.clients = d.clients :=
  calc s.daemon.clients = (RegisterService.idle s.daemon).clients := rfl
    _ = d.clients := by rw [related.idle]; rfl

theorem ofName_method (method : RegisterMethod) : RegisterMethod.ofName? method.method.name = some method := by
  cases method <;> rfl

/-- The nodes answer a request for a register. -/
theorem handle_eq (mems : RegisterService.Memories) {request : Request} {method : RegisterMethod}
    (named : request.method = method.method.name) {outcome : Outcome Exception Response} {after : Daemon}
    {mems' : RegisterService.Memories} (served : RegisterService.serve texts programs d mems
      ⟨line.env, line.hostId, line.garbage, c, request.id, method, request.params⟩ = (outcome, after, mems')) :
    handle texts programs c line d mems request =
      ({ TCPServer.record texts c line.env request d with outcome, after }, mems') := by
  rw [handle, named, ofName_method]
  dsimp only
  rw [served]

/-- A request for a register, on the nodes and in the store. -/
theorem agree_execute (texts : Texts) (kept : RegisterService.Kept d.nodeMgr programs)
    (related : Related names d s files)
    {req : CliParser.Request} {method : RegisterMethod} (named : req.method = method.method.name)
    (isUtf8 : req.params.IsUtf8)
    (admissible : RegisterService.Admissible d.nodeMgr (visit c line method req.params)) :
    Responder.Agree (Related names d) (execute texts programs c line s req)
      ((said req.method (files.answer d (visit c line method req.params)).1).toList,
        (said req.method (files.answer d (visit c line method req.params)).1).map fun _ =>
          (files.answer d (visit c line method req.params)).2) := by
  have text : req.method ≠ "" ∧ Utf8.Valid req.method := by
    rw [named]
    cases method <;> decide
  have blind := asked_reread line.env.cast method req.params
  -- the request as the daemon reads it
  let a : RegisterService.Visit :=
    { visit c line method req.params with id := .integer (s.nextMsgId + 1), params := req.params.reread }
  have admitted : RegisterService.Admissible s.daemon.nodeMgr a := by
    rw [related.nodeMgr]
    intro nodeId reg op i node asks
    exact admissible nodeId reg op i node (blind.symm.trans asks)
  obtain ⟨t, mems, served, same, follows⟩ := RegisterService.serve_refines texts
    (related.nodeMgr ▸ kept) (related.nodeMgr ▸ related.represents) admitted
  rw [RegisterService.answer_idle related.idle] at served follows
  obtain ⟨itsOwn, renamed, changed⟩ : Named a.id (files.answer d a).1 ∧
      said req.method (files.answer d a).1 = said req.method (files.answer d (visit c line method req.params)).1 ∧
      (files.answer d a).2 = (files.answer d (visit c line method req.params)).2 :=
    answer_renamed (visit c line method req.params) a.id blind req.method
  have received : (Request.toJson ⟨.integer (s.nextMsgId + 1), req.method, req.params⟩).throughText?.map
      (fun json => TCPServer.received line.env.cast (some json)) =
        some (.entity (some (.request ⟨a.id, req.method, a.params⟩))) := by
    rw [Json.throughText?_of_isText (isText_request (s.nextMsgId + 1) text.2 req isUtf8)]
    exact congrArg some (Session.received_request text.1)
  obtain ⟨h, handled, outcome, after⟩ : ∃ h, handle texts programs c line s.daemon s.mems
      ⟨a.id, req.method, a.params⟩ = (h, mems) ∧ h.outcome = (files.answer d a).1 ∧ h.after = t :=
    ⟨_, handle_eq s.mems named served, rfl, rfl⟩
  have written : Written h.outcome := outcome ▸ written_store a
  rw [← outcome] at itsOwn renamed
  rw [execute]
  dsimp only
  rw [received]
  dsimp only
  rw [handled, ← renamed]
  rcases printed_answer line.env.cast (Id.isUtf8_integer _) req.method itsOwn written with
    ⟨unanswered, unsaid⟩ | ⟨reply, json, printed, answered, sent, said, parsed⟩
  · rw [unanswered, unsaid]
    exact ⟨rfl, .none⟩
  · rw [answered, said, Option.bind_some, sent]
    dsimp only
    rw [parsed]
    refine ⟨rfl, .some ⟨related.current, ?_, ?_⟩⟩
    · rw [after]
      exact same.trans related.idle
    · rw [← changed, ← related.nodeMgr]
      exact follows

/-- If a line makes a request, it is for a register, in UTF-8 and with what the code is defined for. -/
def Sensible (names : CliCache.Daemon) (d : Daemon) (c : ClientId) (line : Line) : Prop :=
  ∀ req, (CliParser.parse names CliCache.new line.text).2 = .ok (.jsonrpc req) →
    ∃ method : RegisterMethod, req.method = method.method.name ∧ req.params.IsUtf8 ∧
      RegisterService.Admissible d.nodeMgr (visit c line method req.params)

theorem Related.replies_eq {keyed : Keyed d.nodeMgr} (related : Related (directory d.nodeMgr keyed) d s files)
    (opened : (d.clients c).authenticated = true) (legible : Legible d.nodeMgr) (texts : Texts) (env : Env) :
    replies texts c env s.daemon = directory d.nodeMgr keyed := by
  have own : (s.daemon.clients c).authenticated = true := by rw [related.clients, opened]
  have same (m : NodeMgr) (keyed' : Keyed m) (eq : m = d.nodeMgr) : directory m keyed' = directory d.nodeMgr keyed := by
    subst eq
    rfl
  exact (H9cli.replies_eq texts env own (related.nodeMgr ▸ legible) (related.nodeMgr ▸ keyed)).trans
    (same _ _ related.nodeMgr)

/-- A line in a session, and the line as the first one of a session in the store. -/
theorem agree_line (texts : Texts) {keyed : Keyed d.nodeMgr} (kept : RegisterService.Kept d.nodeMgr programs)
    (opened : (d.clients c).authenticated = true) (legible : Legible d.nodeMgr)
    (sensible : Sensible (directory d.nodeMgr keyed) d c line)
    (related : Related (directory d.nodeMgr keyed) d s files) :
    Responder.Agree (Related (directory d.nodeMgr keyed) d) (session texts programs c s line)
      (ideal (directory d.nodeMgr keyed) d c files line) := by
  have own : (s.daemon.clients c).authenticated = true := by rw [related.clients, opened]
  have answers := answers_survives texts line.env own (related.nodeMgr ▸ legible)
  have alike := CliParser.alike_parse answers related.current line.text
  rw [session, ideal, related.replies_eq opened legible]
  cases here : CliParser.parse (directory d.nodeMgr keyed) s.cache line.text with
  | mk t parsed =>
  cases fresh : CliParser.parse (directory d.nodeMgr keyed) CliCache.new line.text with
  | mk u parsed' =>
  rw [here, fresh] at alike
  have well : t.asks.all (survives texts c line.env s.daemon) = u.lookups.all (·.query.isInside) := alike.well
  dsimp only
  rw [← CliParser.State.asks, ← well]
  cases alive : t.asks.all (survives texts c line.env s.daemon) with
  | false => exact ⟨rfl, .none⟩
  | true =>
    obtain ⟨same, current, -⟩ := alike.same alive
    dsimp only at same current
    subst same
    have next (cache : CliCache) (nextMsgId : BitVec 32) (current : CliCache.Current (directory d.nodeMgr keyed) cache) :
        Related (directory d.nodeMgr keyed) d { s with cache, nextMsgId } files :=
      ⟨current, related.idle, related.represents⟩
    rw [if_pos rfl, if_pos rfl]
    cases parsed with
    | error e =>
      dsimp only
      cases e.ends with
      | false => exact ⟨rfl, .some (next _ _ current)⟩
      | true => exact ⟨rfl, .none⟩
    | ok command =>
      cases command with
      | nop => exact ⟨rfl, .some (next _ _ current)⟩
      | print n => exact ⟨rfl, .some (next _ _ current)⟩
      | clearCache => exact ⟨rfl, .some (next _ _ CliCache.current_new)⟩
      | jsonrpc req =>
        obtain ⟨method, named, isUtf8, admissible⟩ := sensible req (by rw [fresh])
        have agree := agree_execute texts kept (next t.cache (s.nextMsgId + BitVec.ofNat 32 t.asks.length) current)
          named isUtf8 admissible
        dsimp only
        rw [named, ofName_method, ← named]
        exact agree

/-- Over a session whose requests are for registers, each line prints what it would print as the first one on a
daemon whose registers are a store of numbers: of the cache nothing is seen, and the nodes follow the store. -/
theorem session_refines_store {mems : RegisterService.Memories} {lines : List Line} {keyed : Keyed d.nodeMgr}
    (kept : RegisterService.Kept d.nodeMgr programs) (opened : (d.clients c).authenticated = true)
    (legible : Legible d.nodeMgr) (represents : RegisterService.Represents d.nodeMgr mems files)
    (sensible : ∀ line ∈ lines, Sensible (directory d.nodeMgr keyed) d c line) (nextMsgId : BitVec 32) :
    Responder.Agree (Related (directory d.nodeMgr keyed) d)
      (Responder.run (session texts programs c) ⟨CliCache.new, nextMsgId, d, mems⟩ lines)
      (Responder.run (ideal (directory d.nodeMgr keyed) d c) files lines) :=
  Responder.agree_run (fun _ _ related line among => agree_line texts kept opened legible (sensible line among) related)
    ⟨CliCache.current_new, rfl, represents⟩

end Session

section Example

open CliLexer RegisterService

theorem keyed_twoNodes : Keyed twoNodes.nodeMgr := by
  intro i n there reg desc described
  obtain ⟨rfl, rfl⟩ := (twoNodes_described there).2 reg desc described
  rfl

def setLine : CString := ⟨"node 7 reg register set 9".toList, by decide⟩

def getLine : CString := ⟨"node 7 reg register get".toList, by decide⟩

theorem scan_setLine : scan setLine =
    ([.literal .node, .number 7, .literal .reg, .string "register".toList, .literal .set, .number 9], .eof) := by
  decide +kernel

theorem scan_getLine : scan getLine =
    ([.literal .node, .number 7, .literal .reg, .string "register".toList, .literal .get], .eof) := by
  decide +kernel

/-- The register, by its name. -/
def onRegister (method : String) (value : Option CliParser.Value) : CliParser.Request :=
  { method, nodeId := some 7, reg := some 11, value }

theorem isUtf8_onRegister (method : String) {value : Option CliParser.Value}
    (isUtf8 : ∀ v ∈ value, v.json.IsUtf8) : (onRegister method value).params.IsUtf8 := by
  have members (later : List (String × Json)) (utf8 : Json.AreUtf8 later) :
      Json.AreUtf8 (("node_id", .numberInteger 7) :: ("reg", .numberInteger 11) :: later) :=
    (utf8_keys (by decide) _).mpr ⟨Json.isUtf8_numberInteger _,
      (utf8_keys (by decide) _).mpr ⟨Json.isUtf8_numberInteger _, utf8⟩⟩
  cases value with
  | none => exact members [] Json.areUtf8_nil
  | some v => exact members [("value", v.json)] ((utf8_keys (by decide) _).mpr ⟨isUtf8 v rfl, Json.areUtf8_nil⟩)

theorem legible_twoNodes : Legible twoNodes.nodeMgr := by
  have named {i : Fin (H9Frame.ID_MAX_VALUE + 1)} {node : Node} (there : twoNodes.nodeMgr.nodes i = some node) :
      node.nodeName = "unknown" := by
    change (if i.val = 5 then _ else if i.val = 7 then _ else none) = some node at there
    split_ifs at there <;> exact Option.some.inj there ▸ rfl
  constructor
  · intro entry listed
    obtain ⟨i, -, given⟩ := List.mem_filterMap.mp listed
    obtain ⟨node, found, rfl⟩ := Option.map_eq_some_iff.mp given
    rw [named (Option.mem_filter_iff.mp found).1]
    decide
  · intro i n there desc listed
    obtain ⟨number, -, described⟩ := List.mem_filterMap.mp listed
    obtain ⟨-, rfl⟩ := (twoNodes_described there).2 _ desc described
    exact ⟨by decide, by decide, by decide, by decide⟩

theorem parse_setLine : (CliParser.parse (directory twoNodes.nodeMgr keyed_twoNodes) CliCache.new setLine).2 =
    .ok (.jsonrpc (onRegister "set_register_value" (some (.number 9)))) := by
  rw [CliParser.parse, scan_setLine]
  rfl

theorem parse_getLine : (CliParser.parse (directory twoNodes.nodeMgr keyed_twoNodes) CliCache.new getLine).2 =
    .ok (.jsonrpc (onRegister "get_register_value" none)) := by
  rw [CliParser.parse, scan_getLine]
  rfl

/-- A value is written to a register by its name, and read when the name is known. -/
theorem session_refines_store_twoNodes :
    (Responder.run (session default RegisterNode.onFrame 0) ⟨CliCache.new, 0, twoNodes, clearedMemories⟩
      [⟨setLine, default, 0, 0⟩, ⟨getLine, default, 0, 0⟩]).1 =
      [[.result "set_register_value" (.numberUnsigned 9)], [.result "get_register_value" (.numberUnsigned 9)]] := by
  have sensible (line : Line) (among : line ∈ [(⟨setLine, default, 0, 0⟩ : Line), ⟨getLine, default, 0, 0⟩]) :
      Sensible (directory twoNodes.nodeMgr keyed_twoNodes) twoNodes 0 line := by
    intro req accepted
    simp only [List.mem_cons, List.not_mem_nil, or_false] at among
    obtain rfl | rfl := among
    · rw [parse_setLine] at accepted
      cases accepted
      have number : ∀ v ∈ some (CliParser.Value.number 9), v.json.IsUtf8 := by
        rintro v ⟨⟩
        exact Json.isUtf8_numberInteger _
      refine ⟨.setRegisterValue, rfl, isUtf8_onRegister _ number,
        fun nodeId reg op i node asked place there desc described => ?_⟩
      obtain ⟨-, rfl⟩ := (twoNodes_described there).2 _ desc described
      cases asked
      exact ⟨Node.regular_twelveBits, .inl (by decide)⟩
    · rw [parse_getLine] at accepted
      cases accepted
      refine ⟨.getRegisterValue, rfl, isUtf8_onRegister _ nofun,
        fun nodeId reg op i node asked place there desc described => ?_⟩
      obtain ⟨-, rfl⟩ := (twoNodes_described there).2 _ desc described
      cases asked
      exact ⟨Node.regular_twelveBits, trivial⟩
  refine (session_refines_store kept_twoNodes rfl legible_twoNodes represents_clearedMemories sensible
    0).output.trans ?_
  simp only [Responder.run, ideal, CliParser.parse, scan_setLine, scan_getLine]
  rfl

end Example

end H9cli

end H9d
