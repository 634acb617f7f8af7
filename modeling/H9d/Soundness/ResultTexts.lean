import H9d.Soundness.ApiAnswers
import H9d.Soundness.CounterPlaces
import H9d.Soundness.Handlers
import H9d.Soundness.RegisterReplies

/-! # The texts of results

Most results are numbers, flags and words of the daemon's own. A few have texts that came from elsewhere: the
names and descriptions of nodes and devices, what a connection says of itself, and what a node answers for a
register that is a string. Such a result is UTF-8 exactly if these texts are.
-/

namespace H9d

open Cxx Nlohmann Jsonrpcpp H9Frame Json

namespace API

variable {α β : Type} {Q : α → Prop} {d : Daemon} {id : Id}

theorem gives_orInvalidParams {x : Except AccessError β} {k : β → Call Daemon Exception α} :
    ((orInvalidParams id x >>= k).outcome d).Gives Q ↔ ∀ b, x = .ok b → ((k b).outcome d).Gives Q := by
  cases x with
  | ok b =>
    change ((k b).outcome d).Gives Q ↔ _
    simp
  | error e => exact iff_of_true nofun nofun

theorem gives_orDevNodeError {c : Call Port DevNodeException α} :
    ((orDevNodeError id c).outcome d).Gives Q ↔ (c.outcome d.port).Gives Q := Call.gives_tryCatch _

theorem gives_uncaught {c : Call Port DevNodeException α} :
    ((uncaught c).outcome d).Gives Q ↔ (c.outcome d.port).Gives Q := Call.gives_tryCatch _

theorem gives_orDevError {c : Call Port Exception α} :
    ((orDevError id c).outcome d).Gives Q ↔ (c.outcome d.port).Gives Q := by
  change (Call.tryCatch _ _ d).1.Gives Q ↔ _
  rw [Call.tryCatch, Call.outcome_on]
  cases c.outcome d.port with
  | value a => exact (Outcome.gives_value a).trans (Outcome.gives_value a).symm
  | throws e => cases e <;> exact iff_of_true (Outcome.gives_throws _) (Outcome.gives_throws _)
  | undefined => exact iff_of_true Outcome.gives_undefined Outcome.gives_undefined

/-- A request for an operation of the manager. -/
theorem gives_operation {γ : Type} (x : Except AccessError γ) (operation : γ → NodeMgr → Call Port DevNodeException β)
    (json : β → α) :
    ((orInvalidParams id x >>= fun a => Call.read Daemon.nodeMgr >>= fun m =>
      orDevNodeError id (operation a m) >>= fun r => pure (json r)).outcome d).Gives Q ↔
        ∀ a, x = .ok a → ((operation a d.nodeMgr).outcome d.port).Gives fun r => Q (json r) := by
  rw [gives_orInvalidParams]
  refine forall₂_congr fun a _ => ?_
  rw [Call.read_bind, Call.gives_bind_pure, gives_orDevNodeError]

end API

/-- The node of the id, if there is one, satisfies `P`. -/
def NodeMgr.OfNode (m : NodeMgr) (nodeId : BitVec 16) (P : Node → Prop) : Prop :=
  ∀ inside : nodeId.toNat < H9Frame.ID_MAX_VALUE + 1, ∀ node, m.nodes ⟨nodeId.toNat, inside⟩ = some node → P node

theorem NodeMgr.withNode_gives {α : Type} {Q : α → Prop} {m : NodeMgr} {nodeId : BitVec 16}
    {operation : Node → Call Port DevNodeException α} {port : Port} :
    ((m.withNode nodeId operation).outcome port).Gives Q ↔
      m.OfNode nodeId fun node => ((operation node).outcome port).Gives Q := by
  rw [withNode, Call.gives_bind, OfNode]
  by_cases inside : nodeId.toNat < H9Frame.ID_MAX_VALUE + 1
  · have entry : (m.nodeAt nodeId : Outcome DevNodeException _) = .value _ := dif_pos inside
    simp only [Call.outcome_ofOutcome, entry, Outcome.value.injEq, forall_eq', inside, forall_true_left]
    cases m.nodes ⟨nodeId.toNat, inside⟩ with
    | none =>
      refine iff_of_true (Outcome.gives_throws _) ?_
      rintro _ ⟨⟩
    | some node =>
      simp only [Option.some.injEq, forall_eq']
      exact Iff.rfl
  · have entry : (m.nodeAt nodeId : Outcome DevNodeException (Option Node)) = .undefined := dif_neg inside
    simp only [Call.outcome_ofOutcome, entry]
    refine iff_of_true ?_ fun within => absurd within inside
    rintro _ ⟨⟩

/-! ## What a node answers -/

section Texts

variable (env : Env) (n : Node) (reg : Byte) {port : Port}

/-- The text in an answer with the value of a register. -/
def H9Frame.valueText (res : H9Frame) : String :=
  String.ofList (((res.valueBytes.take res.valueLength).takeWhile (· ≠ 0)).map fun b => Char.ofNat b.toNat)

/-- The node answers with a text, if it answers with a value. -/
def Env.AnswersText : Prop :=
  ∀ res, env.reply = some res → res.type = FrameType.REG_VALUE → 1 < res.dlc.toNat → Utf8.Valid res.valueText

theorem Env.answersText_iff : env.AnswersText ↔ ∀ res, answer env.reply = .value res → Utf8.Valid res.valueText := by
  rw [AnswersText]
  cases env.reply with
  | none => exact iff_of_true nofun nofun
  | some res =>
    rw [answer]
    split
    · next value =>
      simp only [Option.some.injEq, forall_eq', Answer.value.injEq]
      exact ⟨fun all => all value.1 value.2, fun valid _ _ => valid⟩
    · next other =>
      refine iff_of_true ?_ ?_
      · rintro _ ⟨⟩ type length
        exact absurd ⟨type, length⟩ other
      · split <;> rintro _ ⟨⟩

/-- The texts of the registers that a request reads. -/
def Node.SpeaksGet (reg : Byte) (n : Node) : Prop :=
  ∀ desc, n.registerMap reg = some desc → desc.readable = true → desc.type = "str" → env.AnswersText

/-- The texts of the registers that a request writes. -/
def Node.SpeaksSet (reg : Byte) (n : Node) : Prop :=
  ∀ desc, n.registerMap reg = some desc → desc.writable = true → desc.type = "str" → env.AnswersText

def RegValue.IsUtf8 : RegValue → Prop
  | .string s => Utf8.Valid s
  | .int _ | .float _ | .bytes _ => True

theorem API.registerJson_isUtf8 (cast : FloatCast) (v : RegValue) : (API.registerJson cast v).IsUtf8 ↔ v.IsUtf8 := by
  cases v with
  | string s => exact isUtf8_string s
  | bytes v =>
    refine iff_of_true ((isUtf8_array _).mpr ?_) trivial
    exact List.forall_mem_map.mpr fun b _ => isUtf8_numberUnsigned _
  | int | float => exact iff_of_true nofun trivial

theorem API.bitsJson_isUtf8 (cast : FloatCast) {v : RegValue} (isUtf8 : v.IsUtf8) : (API.bitsJson cast v).IsUtf8 := by
  cases v with
  | float x => exact isUtf8_null
  | string | int | bytes => exact (API.registerJson_isUtf8 cast _).mpr isUtf8

namespace Node

theorem cString_zero {buf : List Byte} (room : 0 < buf.length) : cString buf 0 = .value "" := by
  rw [cString, if_pos room, takeWhile_set_zero room]
  rfl

/-- What is made of an answer to a request for a text is UTF-8 if the answer is. -/
theorem text_gives {size : ℕ} (copied : H9Frame → ℕ)
    (ends : (ofAnswer (fun res => textOf size (copied res) res)
      (do return .string (← cString (env.buffer (size + 1)) 0)) (answer env.reply)).Defined) :
    (ofAnswer (fun res => textOf size (copied res) res)
      (do return .string (← cString (env.buffer (size + 1)) 0)) (answer env.reply)).Gives RegValue.IsUtf8 ↔
        env.AnswersText := by
  rw [Env.answersText_iff]
  cases reply : answer env.reply with
  | timeout => exact iff_of_true nofun nofun
  | malformed => exact iff_of_true nofun nofun
  | refused code =>
    refine iff_of_true ?_ nofun
    rw [ofAnswer, cString_zero (by rw [env.buffer_length]; exact Nat.succ_pos size)]
    split
    · exact (Outcome.gives_value _).mpr (by decide : Utf8.Valid "")
    · exact Outcome.gives_throws _
  | value res =>
    rw [reply] at ends
    simp only [Answer.value.injEq, forall_eq']
    rw [ofAnswer, textOf] at ends ⊢
    split at ends
    · next fits =>
      rw [if_pos fits]
      exact Outcome.gives_value _
    · exact absurd ends Outcome.not_defined_undefined

theorem getString_gives (desc : RegisterDesc) (ends : ((n.getString env reg desc).outcome port).Defined) :
    ((n.getString env reg desc).outcome port).Gives RegValue.IsUtf8 ↔ env.AnswersText := by
  rw [(getString_sends env n reg desc).outcome] at ends ⊢
  exact text_gives env (fun res => min (byteSize desc) res.valueLength) ends

theorem setString_gives (desc : RegisterDesc) (v : String)
    (ends : ((n.setString env reg desc v).outcome port).Defined) :
    ((n.setString env reg desc v).outcome port).Gives RegValue.IsUtf8 ↔ env.AnswersText := by
  rw [(setString_sends env n reg desc v).outcome] at ends ⊢
  exact text_gives env (fun res => copiedText desc (textBytes desc v).length res.valueLength) ends

theorem vector_gives (buf : List Byte) (ret : ℕ) : (vector buf ret).Gives RegValue.IsUtf8 := by
  rw [vector]
  split
  · exact (Outcome.gives_value _).mpr trivial
  · exact Outcome.gives_undefined

theorem getRegister_gives (safe : n.SafeGet env reg) :
    ((n.getRegister env reg).outcome port).Gives RegValue.IsUtf8 ↔ n.SpeaksGet env reg := by
  have ends := (getRegister_defined env n reg port).mpr safe
  rw [getRegister] at ends ⊢
  rw [SpeaksGet]
  cases found : n.registerMap reg with
  | none =>
    refine iff_of_true (Outcome.gives_throws _) ?_
    rintro _ ⟨⟩
  | some desc =>
    rw [found] at ends
    simp only [Option.some.injEq, forall_eq'] at ends ⊢
    split
    · next readable =>
      rw [if_pos readable] at ends
      simp only [readable, forall_true_left]
      by_cases str : desc.type = "str"
      · simp only [str, ne_eq, not_true_eq_false, false_and, if_false, forall_true_left] at ends ⊢
        exact getString_gives env n reg desc ends
      · refine iff_of_true ?_ fun same => absurd same str
        simp only [str, ne_eq, not_false_eq_true, true_and, if_true]
        split
        · exact (Call.gives_bind_pure _).mpr (Outcome.gives_of_forall (fun _ => trivial) _)
        · split
          · exact (Call.gives_bind_pure _).mpr (Outcome.gives_of_forall (fun _ => trivial) _)
          · exact Call.gives_bind_of_forall fun _ _ => Call.gives_bind_of_forall fun _ _ =>
              Call.gives_bind_of_forall fun _ _ => vector_gives _ _
    · next unreadable => exact iff_of_true (Outcome.gives_throws _) fun readable => absurd readable unreadable

/-- A value that is no text is answered with one that is none either. -/
theorem setRegister_gives_of_ne (value : RegValue) (other : ∀ s, value ≠ .string s) :
    ((n.setRegister env reg value).outcome port).Gives RegValue.IsUtf8 := by
  rw [setRegister]
  split
  · next desc _ =>
    split
    · cases value with
      | int v =>
        dsimp only
        split
        · rw [setInt]
          split
          · exact Call.gives_bind_of_forall fun _ _ => Call.gives_bind_of_forall fun _ _ =>
              Call.gives_bind_of_forall fun _ _ => (Call.gives_bind_pure _).mpr
                (Outcome.gives_of_forall (fun _ => trivial) _)
          · exact Outcome.gives_throws _
        · exact Outcome.gives_throws _
      | float v =>
        dsimp only
        split
        · exact Call.gives_bind_of_forall fun _ _ => Call.gives_bind_of_forall fun _ _ =>
            (Call.gives_bind_pure _).mpr (Outcome.gives_of_forall (fun _ => trivial) _)
        · exact Outcome.gives_throws _
      | bytes v =>
        dsimp only
        rw [setBytes]
        split
        · exact Call.gives_bind_of_forall fun _ _ => Call.gives_bind_of_forall fun _ _ =>
            Call.gives_bind_of_forall fun _ _ => vector_gives _ _
        · exact Outcome.gives_throws _
      | string v => exact absurd rfl (other v)
    · exact Outcome.gives_throws _
  · exact Outcome.gives_throws _

theorem setRegister_gives (value : RegValue) (safe : n.SafeSet env reg value) :
    ((n.setRegister env reg value).outcome port).Gives RegValue.IsUtf8 ↔
      ∀ s, value = .string s → n.SpeaksSet env reg := by
  cases value with
  | int | float | bytes => exact iff_of_true (setRegister_gives_of_ne env n reg _ (by rintro _ ⟨⟩)) (by rintro _ ⟨⟩)
  | string v =>
    have ends := (setRegister_defined env n reg port (.string v)).mpr safe
    simp only [RegValue.string.injEq, forall_eq', SpeaksSet]
    rw [setRegister] at ends ⊢
    cases found : n.registerMap reg with
    | none =>
      refine iff_of_true (Outcome.gives_throws _) ?_
      rintro _ ⟨⟩
    | some desc =>
      rw [found] at ends
      simp only [Option.some.injEq, forall_eq'] at ends ⊢
      split
      · next writable =>
        rw [if_pos writable] at ends
        simp only [writable, forall_true_left]
        split
        · next str =>
          rw [if_pos str] at ends
          rw [setString_gives env n reg desc v ends, imp_iff_right str]
        · next other => exact iff_of_true (Outcome.gives_throws _) fun str => absurd str other
      · next fixed => exact iff_of_true (Outcome.gives_throws _) fun writable => absurd writable fixed

theorem bitOperation_gives (operation : ℕ → List Byte → Call Port DevNodeException (ℤ × List Byte)) :
    ((n.bitOperation env reg operation).outcome port).Gives RegValue.IsUtf8 := by
  rw [bitOperation]
  split
  · split
    · split
      · exact Call.gives_bind_of_forall fun _ _ => Call.gives_bind_of_forall fun _ _ => vector_gives _ _
      · exact Outcome.gives_throws _
    · exact Outcome.gives_throws _
  · exact Outcome.gives_throws _

end Node

end Texts

/-! ## The counters -/

namespace MetricsCollector

theorem Word.valid {s : String} (word : Word s.toList) : Utf8.Valid s := by
  apply Utf8.Plain.valid
  intro c listed
  have known : ((c.isUpper || c.isLower || c.isDigit) || c == '_' || c == '-') = true := word.2 c listed
  simp only [Bool.or_eq_true, beq_iff_eq] at known
  have code : c.toNat = c.val.toNat := rfl
  rcases known with (((upper | lower) | digit) | rfl) | rfl
  · have le : c.val.toNat ≤ 90 := UInt32.le_iff_toNat_le.mp (of_decide_eq_true upper).2
    omega
  · have le : c.val.toNat ≤ 122 := UInt32.le_iff_toNat_le.mp (of_decide_eq_true (Bool.and_eq_true_iff.mp lower).2)
    omega
  · have le : c.val.toNat ≤ 57 := UInt32.le_iff_toNat_le.mp (of_decide_eq_true (Bool.and_eq_true_iff.mp digit).2)
    omega
  · decide
  · decide

theorem Worded.isUtf8 {j : Json} (worded : Worded j) : j.IsUtf8 := by
  induction worded with
  | null => exact isUtf8_null
  | boolean b => exact isUtf8_boolean b
  | string word => exact (isUtf8_string _).mpr word.valid
  | numberInteger i => exact isUtf8_numberInteger i
  | numberUnsigned n => exact isUtf8_numberUnsigned n
  | numberFloat x => exact isUtf8_numberFloat x
  | array each ih => exact (isUtf8_array _).mpr ih
  | object named each ih =>
    exact (isUtf8_object _).mpr fun member listed => ⟨(named member listed).valid, ih member listed⟩

end MetricsCollector

/-! ## The methods -/

/-- What a connection says of itself. -/
def ClientThread.Speaks (texts : API.Texts) (t : ClientThread) : Prop :=
  Utf8.Valid (texts.time t.connectionTime) ∧ Utf8.Valid t.entity ∧ Utf8.Valid t.remoteAddress ∧
    Utf8.Valid t.remotePort

/-- What is said of a node. -/
def Node.Speaks (texts : API.Texts) (n : Node) : Prop :=
  Utf8.Valid n.nodeName ∧ Utf8.Valid n.nodeDescription ∧ Utf8.Valid (texts.time n.createdTime) ∧
    Utf8.Valid (texts.time n.lastSeenTime)

/-- What is said of a register. -/
def RegisterDesc.Speaks (desc : RegisterDesc) : Prop :=
  Utf8.Valid desc.name ∧ Utf8.Valid desc.description ∧ Utf8.Valid desc.type ∧ ∀ name ∈ desc.bitsNames, Utf8.Valid name

namespace API

/-- The texts in the result of a method are UTF-8. -/
def Method.Speaks (texts : Texts) (env : Env) (params : Parameter) (d : Daemon) : Method → Prop
  | .getVersion => Utf8.Valid texts.version
  | .getTcpClients => ∀ c ∈ d.clientsList, (d.clients c).Speaks texts
  | .getNodesList => ∀ node ∈ d.nodeMgr.getNodesList, Utf8.Valid node.2.nodeName
  | .getNodeInfo => ∀ n, nodeId env.cast params = .ok n → d.nodeMgr.OfNode n (Node.Speaks texts)
  | .getRegistersList => ∀ n, nodeId env.cast params = .ok n →
      d.nodeMgr.OfNode n fun node => ∀ desc ∈ node.getRegistersList, desc.Speaks
  | .getRegisterValue => ∀ n reg, registerParams env.cast params = .ok (n, reg) →
      d.nodeMgr.OfNode n (Node.SpeaksGet env reg)
  | .setRegisterValue => ∀ n reg s, setRegisterParams env.cast params = .ok ((n, reg), some (.string s)) →
      d.nodeMgr.OfNode n (Node.SpeaksSet env reg)
  | .getDevsList => ∀ dev ∈ d.nodeMgr.devsMap, Utf8.Valid dev.1
  | .getDevDescription => ∀ name, devName params = .ok name →
      ∀ dev, d.nodeMgr.devsMap.lookup name = some dev → Utf8.Valid dev.name
  | .authenticate | .clearRegisterBit | .devMethodCall | .discoverNodes | .getDevStatus | .getMethodsList
  | .getStats | .nodeReset | .reloadNodesDescription | .sendFrame | .setRegisterBit | .subscribe => True

section Results

variable (texts : Texts) (env : Env) (me : ClientId) (id : Id) (params : Parameter) (d : Daemon)

theorem isUtf8_ofStrings (strings : List String) :
    (Json.ofStrings strings).IsUtf8 ↔ ∀ s ∈ strings, Utf8.Valid s := by
  rw [ofStrings, isUtf8_array, List.forall_mem_map]
  exact forall₂_congr fun s _ => isUtf8_string s

@[simp] theorem isUtf8_ofUInt16 (n : BitVec 16) : (Json.ofUInt16 n).IsUtf8 := isUtf8_numberUnsigned _

@[simp] theorem isUtf8_ofByte (b : Byte) : (Json.ofByte b).IsUtf8 := isUtf8_numberUnsigned _

theorem clientInfo_isUtf8 (t : ClientThread) : (clientInfo texts t).IsUtf8 ↔ t.Speaks texts := by
  have separators : Utf8.Valid "@" ∧ Utf8.Valid ":" := by decide
  have identifies (entity : Utf8.Valid t.entity) (address : Utf8.Valid t.remoteAddress)
      (port : Utf8.Valid t.remotePort) : Utf8.Valid t.getClientIdstring :=
    Utf8.valid_append (Utf8.valid_append (Utf8.valid_append (Utf8.valid_append entity separators.1) address)
      separators.2) port
  rw [clientInfo, isUtf8_object, utf8_keys (by decide), utf8_keys (by decide), utf8_keys (by decide),
    utf8_keys (by decide), utf8_keys (by decide), utf8_keys (by decide), utf8_keys (by decide), utf8_keys (by decide),
    ClientThread.Speaks]
  simp only [isUtf8_boolean, isUtf8_string, areUtf8_nil, true_and, and_true]
  constructor
  · rintro ⟨time, entity, -, address, port⟩
    exact ⟨time, entity, address, port⟩
  · rintro ⟨time, entity, address, port⟩
    exact ⟨time, entity, identifies entity address port, address, port⟩

theorem nodeInfo_isUtf8 (n : BitVec 16) (node : Node) : (nodeInfo texts n node).IsUtf8 ↔ node.Speaks texts := by
  rw [nodeInfo, isUtf8_object, utf8_keys (by decide), utf8_keys (by decide), utf8_keys (by decide),
    utf8_keys (by decide), utf8_keys (by decide), utf8_keys (by decide), utf8_keys (by decide), utf8_keys (by decide),
    utf8_keys (by decide), utf8_keys (by decide), Node.Speaks]
  simp only [isUtf8_numberInteger, isUtf8_ofUInt16, isUtf8_ofByte, isUtf8_string, areUtf8_nil, true_and, and_true]
  constructor
  · rintro ⟨created, description, seen, name⟩
    exact ⟨name, description, created, seen⟩
  · rintro ⟨name, description, created, seen⟩
    exact ⟨created, description, seen, name⟩

theorem registerInfo_isUtf8 (desc : RegisterDesc) : (registerInfo desc).IsUtf8 ↔ desc.Speaks := by
  rw [registerInfo, isUtf8_object, utf8_keys (by decide), utf8_keys (by decide), utf8_keys (by decide),
    utf8_keys (by decide), utf8_keys (by decide), utf8_keys (by decide), utf8_keys (by decide), utf8_keys (by decide),
    RegisterDesc.Speaks, isUtf8_ofStrings]
  simp only [isUtf8_numberInteger, isUtf8_ofByte, isUtf8_boolean, isUtf8_string, areUtf8_nil, true_and, and_true]
  constructor
  · rintro ⟨bits, description, name, type⟩
    exact ⟨name, description, type, bits⟩
  · rintro ⟨name, description, type, bits⟩
    exact ⟨bits, description, name, type⟩

theorem getVersion_gives : ((getVersion texts env me id params).outcome d).Gives IsUtf8 ↔ Utf8.Valid texts.version := by
  refine (Outcome.gives_value _).trans ?_
  rw [isUtf8_object, utf8_keys (by decide), utf8_keys (by decide), utf8_keys (by decide), utf8_keys (by decide)]
  simp only [isUtf8_numberUnsigned, isUtf8_string, areUtf8_nil, true_and, and_true]

theorem getTcpClients_gives : ((getTcpClients texts env me id params).outcome d).Gives IsUtf8 ↔
    ∀ c ∈ d.clientsList, (d.clients c).Speaks texts := by
  refine (Outcome.gives_value _).trans ?_
  rw [isUtf8_array, List.forall_mem_map, List.forall_mem_map]
  exact forall₂_congr fun c _ => clientInfo_isUtf8 texts _

theorem getNodesList_gives : ((getNodesList env me id params).outcome d).Gives IsUtf8 ↔
    ∀ node ∈ d.nodeMgr.getNodesList, Utf8.Valid node.2.nodeName := by
  refine (Outcome.gives_value _).trans ?_
  rw [isUtf8_array, List.forall_mem_map]
  refine forall₂_congr fun node _ => ?_
  rw [isUtf8_object, utf8_keys (by decide), utf8_keys (by decide), utf8_keys (by decide)]
  simp only [isUtf8_numberUnsigned, isUtf8_ofUInt16, isUtf8_string, areUtf8_nil, true_and, and_true]

theorem getNodeInfo_gives : ((getNodeInfo texts env me id params).outcome d).Gives IsUtf8 ↔
    Method.Speaks texts env params d .getNodeInfo := by
  rw [getNodeInfo, gives_orInvalidParams, Method.Speaks]
  refine forall₂_congr fun n _ => ?_
  rw [Call.read_bind, Call.gives_bind_pure, gives_uncaught, NodeMgr.getNodeInfo, NodeMgr.withNode_gives]
  refine forall₃_congr fun _ node _ => ?_
  exact (Outcome.gives_value _).trans (nodeInfo_isUtf8 texts n node)

theorem getRegistersList_gives : ((getRegistersList env me id params).outcome d).Gives IsUtf8 ↔
    Method.Speaks texts env params d .getRegistersList := by
  rw [getRegistersList, gives_orInvalidParams, Method.Speaks]
  refine forall₂_congr fun n _ => ?_
  rw [Call.read_bind, NodeMgr.OfNode, NodeMgr.isNodeExist, NodeMgr.getRegistersList]
  by_cases inside : n.toNat < H9Frame.ID_MAX_VALUE + 1
  · have entry : (d.nodeMgr.nodeAt n : Outcome DevNodeException _) = .value _ := dif_pos inside
    simp only [entry, inside, forall_true_left]
    cases d.nodeMgr.nodes ⟨n.toNat, inside⟩ with
    | none =>
      refine iff_of_true (Outcome.gives_throws _) ?_
      rintro _ ⟨⟩
    | some node =>
      simp only [Option.some.injEq, forall_eq']
      refine (Outcome.gives_value _).trans ?_
      rw [isUtf8_array, List.forall_mem_map]
      exact forall₂_congr fun desc _ => registerInfo_isUtf8 desc
  · have entry : (d.nodeMgr.nodeAt n : Outcome DevNodeException (Option Node)) = .undefined := dif_neg inside
    rw [entry]
    exact iff_of_true Outcome.gives_undefined fun within => absurd within inside

theorem getRegisterValue_gives (serves : Method.Serves env me params d .getRegisterValue) :
    ((getRegisterValue env me id params).outcome d).Gives IsUtf8 ↔
      Method.Speaks texts env params d .getRegisterValue := by
  refine (gives_operation (registerParams env.cast params) (fun a m => m.getRegister env a.1 a.2)
    (registerJson env.cast)).trans (Prod.forall.trans ?_)
  refine forall₃_congr fun n reg read => ?_
  rw [NodeMgr.getRegister, NodeMgr.withNode_gives]
  obtain ⟨inside, safe⟩ := serves n reg read
  refine forall₃_congr fun _ node found => ?_
  simp only [registerJson_isUtf8]
  exact node.getRegister_gives env reg (safe node found)

theorem setRegisterValue_gives (serves : Method.Serves env me params d .setRegisterValue) :
    ((setRegisterValue env me id params).outcome d).Gives IsUtf8 ↔
      Method.Speaks texts env params d .setRegisterValue := by
  have given (n : BitVec 16) (reg : Byte) (value : RegValue)
      (read : setRegisterParams env.cast params = .ok ((n, reg), some value)) :
      ((d.nodeMgr.setRegister env n reg value).outcome d.port).Gives RegValue.IsUtf8 ↔
        ∀ s, value = .string s → d.nodeMgr.OfNode n (Node.SpeaksSet env reg) := by
    obtain ⟨inside, safe⟩ := serves n reg value read
    rw [NodeMgr.setRegister, NodeMgr.withNode_gives]
    constructor
    · intro all s same within node found
      exact (node.setRegister_gives env reg value (safe node found)).mp (all within node found) s same
    · intro speaks within node found
      exact (node.setRegister_gives env reg value (safe node found)).mpr fun s same => speaks s same within node found
  rw [setRegisterValue, gives_orInvalidParams, Method.Speaks]
  constructor
  · intro all n reg s read
    have gives := all ((n, reg), some (.string s)) read
    rw [Call.read_bind, Call.gives_bind_pure, gives_orDevNodeError] at gives
    simp only [registerJson_isUtf8] at gives
    exact (given n reg _ read).mp gives s rfl
  · rintro speaks ⟨⟨n, reg⟩, value⟩ read
    cases value with
    | none => exact Outcome.gives_throws _
    | some value =>
      rw [Call.read_bind, Call.gives_bind_pure, gives_orDevNodeError]
      simp only [registerJson_isUtf8]
      refine (given n reg value read).mpr fun s same => speaks n reg s ?_
      rw [read, same]

theorem setRegisterBit_gives : ((setRegisterBit env me id params).outcome d).Gives IsUtf8 := by
  refine (gives_operation (bitParams env.cast params) (fun a m => m.setRegisterBit env a.1.1 a.1.2 a.2)
    (bitsJson env.cast)).mpr fun a _ => NodeMgr.withNode_gives.mpr fun _ node _ => ?_
  exact fun v value => bitsJson_isUtf8 env.cast (node.bitOperation_gives env _ _ v value)

theorem clearRegisterBit_gives : ((clearRegisterBit env me id params).outcome d).Gives IsUtf8 := by
  refine (gives_operation (bitParams env.cast params) (fun a m => m.clearRegisterBit env a.1.1 a.1.2 a.2)
    (bitsJson env.cast)).mpr fun a _ => NodeMgr.withNode_gives.mpr fun _ node _ => ?_
  exact fun v value => bitsJson_isUtf8 env.cast (node.bitOperation_gives env _ _ v value)

/-- An operation on the device of the name, if there is one. -/
theorem withDev_gives {name : String} {operation : Dev → Call Port Exception Json} :
    ((d.nodeMgr.withDev name operation).outcome d.port).Gives IsUtf8 ↔
      ∀ dev, d.nodeMgr.devsMap.lookup name = some dev → ((operation dev).outcome d.port).Gives IsUtf8 := by
  rw [NodeMgr.withDev]
  cases d.nodeMgr.devsMap.lookup name with
  | none =>
    refine iff_of_true (Outcome.gives_throws _) ?_
    rintro _ ⟨⟩
  | some dev =>
    simp only [Option.some.injEq, forall_eq']

theorem valid_type (kind : Dev.Kind) : Utf8.Valid kind.type := by
  unfold Dev.Kind.type
  split <;> decide

theorem valid_methods (cast : FloatCast) (kind : Dev.Kind) :
    ∀ method ∈ (Dev.methodMap cast kind).map (·.1), Utf8.Valid method := by
  cases kind with
  | antennaSwitch => exact List.forall_mem_singleton.mpr (by decide : Utf8.Valid "select_antenna")
  | atu => exact nofun
  | powerSwitch =>
    have names : Utf8.Valid "power_off" ∧ Utf8.Valid "power_on" := by decide
    exact List.forall_mem_cons.mpr ⟨names.1, List.forall_mem_singleton.mpr names.2⟩
  | thunderSwitch =>
    have names : Utf8.Valid "switch_off" ∧ Utf8.Valid "switch_on" := by decide
    exact List.forall_mem_cons.mpr ⟨names.1, List.forall_mem_singleton.mpr names.2⟩

theorem getDevsList_gives : ((getDevsList env me id params).outcome d).Gives IsUtf8 ↔
    ∀ dev ∈ d.nodeMgr.devsMap, Utf8.Valid dev.1 := by
  refine (Outcome.gives_value _).trans ?_
  rw [isUtf8_array, List.forall_mem_map]
  refine forall₂_congr fun dev _ => ?_
  rw [isUtf8_object, utf8_keys (by decide), utf8_keys (by decide)]
  simp only [isUtf8_string, areUtf8_nil, valid_type, and_true]

theorem devDescription_isUtf8 (cast : FloatCast) (dev : Dev) :
    (dev.getDevDescription cast).IsUtf8 ↔ Utf8.Valid dev.name := by
  have methods := (isUtf8_ofStrings _).mpr (valid_methods cast dev.kind)
  have nodes : (Json.array (dev.dependentOnNodes.map .ofUInt16)).IsUtf8 :=
    (isUtf8_array _).mpr (List.forall_mem_map.mpr fun n _ => isUtf8_ofUInt16 n)
  rw [Dev.getDevDescription, isUtf8_object, utf8_keys (by decide), utf8_keys (by decide), utf8_keys (by decide),
    utf8_keys (by decide)]
  simp only [methods, nodes, valid_type, isUtf8_string, areUtf8_nil, true_and, and_true]

theorem getDevDescription_gives : ((getDevDescription env me id params).outcome d).Gives IsUtf8 ↔
    Method.Speaks texts env params d .getDevDescription := by
  rw [getDevDescription, gives_orInvalidParams, Method.Speaks]
  refine forall₂_congr fun name _ => ?_
  rw [Call.read_bind, gives_orDevError, NodeMgr.getDevDescription, withDev_gives]
  exact forall₂_congr fun dev _ => (Outcome.gives_value _).trans (devDescription_isUtf8 env.cast dev)

theorem devState_isUtf8 (dev : Dev) : dev.getDevState.IsUtf8 := by
  rw [Dev.getDevState]
  cases dev.kind with
  | antennaSwitch =>
    dsimp only
    rw [isUtf8_object, utf8_keys (by decide), utf8_keys (by decide), utf8_keys (by decide)]
    exact ⟨(isUtf8_array _).mpr nofun, isUtf8_numberUnsigned _, isUtf8_ofByte _, areUtf8_nil⟩
  | atu | powerSwitch | thunderSwitch =>
    dsimp only
    rw [isUtf8_object, utf8_keys (by decide), utf8_keys (by decide)]
    exact ⟨isUtf8_numberInteger _, isUtf8_numberInteger _, areUtf8_nil⟩

theorem getDevStatus_gives : ((getDevStatus env me id params).outcome d).Gives IsUtf8 := by
  refine gives_orInvalidParams.mpr fun name _ => ?_
  rw [Call.read_bind, gives_orDevError, NodeMgr.getDevState, withDev_gives]
  exact fun dev _ => (Outcome.gives_value _).mpr (devState_isUtf8 dev)

/-- A device answers with null. -/
theorem execute_gives (c : Dev.Command) (m : NodeMgr) (port : Port) :
    ((c.execute env m).outcome port).Gives IsUtf8 := by
  intro j value
  rw [Dev.Command.execute, Call.outcome, Call.tryCatch] at value
  split at value
  · next ending =>
    cases value
    obtain ⟨_, _, same⟩ := Call.outcome_bind_eq_value.mp ending
    cases same
    exact isUtf8_null
  · cases value
    exact isUtf8_null
  · cases value

theorem devMethodCall_gives : ((devMethodCall env me id params).outcome d).Gives IsUtf8 := by
  refine gives_orInvalidParams.mpr fun a _ => ?_
  rw [Call.read_bind, gives_orDevError, NodeMgr.callDevMethod, withDev_gives]
  intro dev _
  rw [Dev.callDevMethod]
  split
  · exact Outcome.gives_throws _
  · split
    · exact Outcome.gives_throws _
    · split
      · split
        · exact execute_gives env _ _ _
        · exact Outcome.gives_throws _
      · exact Outcome.gives_throws _

theorem isUtf8_member {key : String} (plain : Utf8.Plain key.toList) {value : Json} (isUtf8 : value.IsUtf8) :
    (Json.object [(key, value)]).IsUtf8 := by
  rw [isUtf8_object, utf8_keys plain]
  exact ⟨isUtf8, areUtf8_nil⟩

theorem getStats_gives : ((getStats env me id params).outcome d).Gives IsUtf8 := by
  rw [getStats, Call.read_bind]
  dsimp only
  split
  · next j ended => exact (Outcome.gives_value j).mpr (MetricsCollector.metricsToJson_words ended).isUtf8
  · exact Outcome.gives_throws _

theorem sendFrame_gives : ((sendFrame env me id params).outcome d).Gives IsUtf8 := by
  refine gives_orInvalidParams.mpr fun a _ => ?_
  obtain ⟨frame, raw⟩ := a
  dsimp only
  split
  · exact Outcome.gives_throws _
  · refine Call.gives_bind_of_forall fun t _ => Call.gives_bind_of_forall fun _ _ => ?_
    split
    · exact (Outcome.gives_value _).mpr (isUtf8_member (by decide) (isUtf8_numberInteger _))
    · exact Outcome.gives_undefined

theorem subscribe_gives : ((subscribe env me id params).outcome d).Gives IsUtf8 := by
  have text : Utf8.Valid "ok" := by decide
  have ok (d : Daemon) : ((pure (.object [("return", .string "ok")]) : Call Daemon Exception Json).outcome d).Gives
      IsUtf8 := (Outcome.gives_value _).mpr (isUtf8_member (by decide) ((isUtf8_string _).mpr text))
  refine gives_orInvalidParams.mpr fun event _ => ?_
  split
  · exact Call.gives_bind_of_forall fun _ d => ok d
  · split
    · exact Call.gives_bind_of_forall fun _ d => ok d
    · exact ok d

theorem getMethodsList_gives : ((getMethodsList env me id params).outcome d).Gives IsUtf8 := by
  refine (Outcome.gives_value _).mpr (isUtf8_member (by decide) ((isUtf8_ofStrings _).mpr ?_))
  exact List.forall_mem_map.mpr fun method _ => by cases method <;> decide

/-- A request that is served is answered with a text if it speaks one. -/
theorem handler_gives {method : Method} (serves : method.Serves env me params d) :
    ((method.handler texts env me id params).outcome d).Gives IsUtf8 ↔ method.Speaks texts env params d := by
  cases method with
  | getVersion => exact getVersion_gives texts env me id params d
  | getTcpClients => exact getTcpClients_gives texts env me id params d
  | getNodesList => exact getNodesList_gives env me id params d
  | getNodeInfo => exact getNodeInfo_gives texts env me id params d
  | getRegistersList => exact getRegistersList_gives texts env me id params d
  | getRegisterValue => exact getRegisterValue_gives texts env me id params d serves
  | setRegisterValue => exact setRegisterValue_gives texts env me id params d serves
  | getDevsList => exact getDevsList_gives env me id params d
  | getDevDescription => exact getDevDescription_gives texts env me id params d
  | getDevStatus => exact iff_of_true (getDevStatus_gives env me id params d) trivial
  | setRegisterBit => exact iff_of_true (setRegisterBit_gives env me id params d) trivial
  | clearRegisterBit => exact iff_of_true (clearRegisterBit_gives env me id params d) trivial
  | devMethodCall => exact iff_of_true (devMethodCall_gives env me id params d) trivial
  | getStats => exact iff_of_true (getStats_gives env me id params d) trivial
  | sendFrame => exact iff_of_true (sendFrame_gives env me id params d) trivial
  | subscribe => exact iff_of_true (subscribe_gives env me id params d) trivial
  | getMethodsList => exact iff_of_true (getMethodsList_gives env me id params d) trivial
  | authenticate =>
    refine iff_of_true (gives_orInvalidParams.mpr fun _ _ => ?_) trivial
    exact (Outcome.gives_value _).mpr (isUtf8_member (by decide) (isUtf8_boolean _))
  | nodeReset =>
    exact iff_of_true ((gives_operation (nodeId env.cast params) (fun n m => m.nodeReset env n)
      fun _ => Json.boolean true).mpr fun _ _ => Outcome.gives_of_forall (fun _ => isUtf8_boolean _) _) trivial
  | discoverNodes =>
    exact iff_of_true (Call.gives_bind_of_forall fun _ _ => (Outcome.gives_value _).mpr (isUtf8_boolean _)) trivial
  | reloadNodesDescription =>
    exact iff_of_true (Call.gives_bind_of_forall fun _ _ => Call.gives_bind_of_forall fun _ _ =>
      Call.gives_bind_of_forall fun _ _ => (Outcome.gives_value _).mpr (isUtf8_boolean _)) trivial

end Results

end API

end H9d
