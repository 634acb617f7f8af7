import H9d.Soundness.NodeRefusals
import H9d.Soundness.SendFrameDeterminacy

/-! # The numbers of a request

A client gives numbers of any size, and each is converted to the width of the variable that it is read
into. So a number that does not fit becomes another one, which may name a node or a register too.
-/

namespace H9d

open Cxx Nlohmann Jsonrpcpp H9Frame

namespace API

/-! ## The requests to a node -/

/-- The methods that act on one node. -/
inductive NodeMethod
  | getNodeInfo
  | nodeReset
  | getRegisterValue
  | setRegisterValue
  | setRegisterBit
  | clearRegisterBit
  deriving DecidableEq

def NodeMethod.method : NodeMethod → Method
  | .getNodeInfo => .getNodeInfo
  | .nodeReset => .nodeReset
  | .getRegisterValue => .getRegisterValue
  | .setRegisterValue => .setRegisterValue
  | .setRegisterBit => .setRegisterBit
  | .clearRegisterBit => .clearRegisterBit

/-- What a handler has read of the parameters when it turns to the node manager. -/
inductive NodeCall
  | getNodeInfo (nodeId : BitVec 16)
  | nodeReset (nodeId : BitVec 16)
  | getRegisterValue (nodeId : BitVec 16) (reg : Byte)
  | setRegisterValue (nodeId : BitVec 16) (reg : Byte) (val : RegValue)
  | setRegisterBit (nodeId : BitVec 16) (reg bitNum : Byte)
  | clearRegisterBit (nodeId : BitVec 16) (reg bitNum : Byte)

namespace NodeCall

def method : NodeCall → NodeMethod
  | getNodeInfo _ => .getNodeInfo
  | nodeReset _ => .nodeReset
  | getRegisterValue _ _ => .getRegisterValue
  | setRegisterValue _ _ _ => .setRegisterValue
  | setRegisterBit _ _ _ => .setRegisterBit
  | clearRegisterBit _ _ _ => .clearRegisterBit

def nodeId : NodeCall → BitVec 16
  | getNodeInfo nodeId | nodeReset nodeId | getRegisterValue nodeId _ | setRegisterValue nodeId _ _
  | setRegisterBit nodeId _ _ | clearRegisterBit nodeId _ _ => nodeId

def reg? : NodeCall → Option Byte
  | getNodeInfo _ | nodeReset _ => none
  | getRegisterValue _ reg | setRegisterValue _ reg _ | setRegisterBit _ reg _ | clearRegisterBit _ reg _ =>
      some reg

def bitNum? : NodeCall → Option Byte
  | setRegisterBit _ _ bitNum | clearRegisterBit _ _ bitNum => some bitNum
  | getNodeInfo _ | nodeReset _ | getRegisterValue _ _ | setRegisterValue _ _ _ => none

def val? : NodeCall → Option RegValue
  | setRegisterValue _ _ val => some val
  | getNodeInfo _ | nodeReset _ | getRegisterValue _ _ | setRegisterBit _ _ _ | clearRegisterBit _ _ _ => none

/-- The rest of the handler. -/
def act (texts : Texts) (env : Env) (id : Id) : NodeCall → Call Daemon Exception Json
  | getNodeInfo nodeId => do
      let m ← Call.read Daemon.nodeMgr
      let node ← uncaught (m.getNodeInfo nodeId)
      return nodeInfo texts nodeId node
  | nodeReset nodeId => do
      let m ← Call.read Daemon.nodeMgr
      orDevNodeError id (m.nodeReset env nodeId)
      return .boolean true
  | getRegisterValue nodeId reg => do
      let m ← Call.read Daemon.nodeMgr
      return registerJson env.cast (← orDevNodeError id (m.getRegister env nodeId reg))
  | setRegisterValue nodeId reg val => do
      let m ← Call.read Daemon.nodeMgr
      return registerJson env.cast (← orDevNodeError id (m.setRegister env nodeId reg val))
  | setRegisterBit nodeId reg bitNum => do
      let m ← Call.read Daemon.nodeMgr
      return bitsJson env.cast (← orDevNodeError id (m.setRegisterBit env nodeId reg bitNum))
  | clearRegisterBit nodeId reg bitNum => do
      let m ← Call.read Daemon.nodeMgr
      return bitsJson env.cast (← orDevNodeError id (m.clearRegisterBit env nodeId reg bitNum))

/-- The array is indexed inside, and there is no node at the place or one that refuses. -/
def Refused (m : NodeMgr) : NodeCall → Prop
  | getNodeInfo nodeId | nodeReset nodeId => m.EveryAt nodeId fun _ => False
  | getRegisterValue nodeId reg => m.EveryAt nodeId (Node.RefusesGet reg)
  | setRegisterValue nodeId reg val => m.EveryAt nodeId (Node.RefusesSet reg val)
  | setRegisterBit nodeId reg _ | clearRegisterBit nodeId reg _ => m.EveryAt nodeId (Node.RefusesBit reg)

section Refused

variable {α β : Type} (id : Id) (d : Daemon)

theorem orDevNodeError_refuses (c : Call Port DevNodeException α) (f : α → β) :
    (orDevNodeError id c >>= fun a => pure (f a)).Refuses Daemon.port d ↔ c.Refuses (fun port => port) d.port :=
  (Call.refuses_bind_pure f).trans (Call.refuses_tryCatch_on _ fun _ => rfl)

theorem act_refused (texts : Texts) (env : Env) (call : NodeCall) :
    (call.act texts env id).Refuses Daemon.port d ↔ call.Refused d.nodeMgr := by
  cases call with
  | getNodeInfo nodeId =>
    refine (Call.refuses_bind_pure (c := uncaught (d.nodeMgr.getNodeInfo nodeId)) (nodeInfo texts nodeId)).trans ?_
    refine (Call.refuses_tryCatch_on _ fun _ => rfl).trans ?_
    exact d.nodeMgr.withNode_refuses nodeId d.port fun node => iff_of_false (Call.not_refuses_pure node) not_false
  | nodeReset nodeId =>
    refine (orDevNodeError_refuses id d (d.nodeMgr.nodeReset env nodeId) fun _ => Json.boolean true).trans ?_
    exact d.nodeMgr.withNode_refuses nodeId d.port fun node =>
      iff_of_false (node.nodeReset_not_refused env d.port) not_false
  | getRegisterValue nodeId reg =>
    refine (orDevNodeError_refuses id d (d.nodeMgr.getRegister env nodeId reg) (registerJson env.cast)).trans ?_
    exact d.nodeMgr.withNode_refuses nodeId d.port fun node => node.getRegister_refused env reg d.port
  | setRegisterValue nodeId reg val =>
    refine (orDevNodeError_refuses id d (d.nodeMgr.setRegister env nodeId reg val)
      (registerJson env.cast)).trans ?_
    exact d.nodeMgr.withNode_refuses nodeId d.port fun node => node.setRegister_refused env reg d.port val
  | setRegisterBit nodeId reg bitNum =>
    refine (orDevNodeError_refuses id d (d.nodeMgr.setRegisterBit env nodeId reg bitNum)
      (bitsJson env.cast)).trans ?_
    exact d.nodeMgr.withNode_refuses nodeId d.port fun node =>
      node.bitOperation_refused env reg d.port (.setBit reg bitNum)
  | clearRegisterBit nodeId reg bitNum =>
    refine (orDevNodeError_refuses id d (d.nodeMgr.clearRegisterBit env nodeId reg bitNum)
      (bitsJson env.cast)).trans ?_
    exact d.nodeMgr.withNode_refuses nodeId d.port fun node =>
      node.bitOperation_refused env reg d.port (.clearBit reg bitNum)

end Refused

/-- The integers of the parameters are the numbers of the call, and the node is one of the array. -/
structure Named (params : Parameter) (call : NodeCall) : Prop where
  nodeId : Exactly params.paramMap "node_id" call.nodeId
  known : ∀ value i, params.paramMap.lookup "node_id" = some value → value.integer? = some i →
    call.nodeId.toNat ≤ H9Frame.ID_MAX_VALUE
  reg : ∀ reg, call.reg? = some reg → Exactly params.paramMap "reg" reg
  bitNum : ∀ bitNum, call.bitNum? = some bitNum → Exactly params.paramMap "bit_num" bitNum
  bytes : ∀ val elems, call.val? = some val → params.paramMap.lookup "value" = some (.array elems) →
    ∃ bytes, val = .bytes bytes ∧ List.Forall₂ Json.Denotes elems bytes

end NodeCall

namespace NodeMethod

def takesReg : NodeMethod → Bool
  | getNodeInfo | nodeReset => false
  | getRegisterValue | setRegisterValue | setRegisterBit | clearRegisterBit => true

def takesBitNum : NodeMethod → Bool
  | setRegisterBit | clearRegisterBit => true
  | getNodeInfo | nodeReset | getRegisterValue | setRegisterValue => false

/-- The accesses to the parameters; `none` is a value of a type that is not supported. -/
def asked (cast : FloatCast) (params : Parameter) : NodeMethod → Except AccessError (Option NodeCall)
  | getNodeInfo => do return some (.getNodeInfo (← API.nodeId cast params))
  | nodeReset => do return some (.nodeReset (← API.nodeId cast params))
  | getRegisterValue => do
      let (nodeId, reg) ← registerParams cast params
      return some (.getRegisterValue nodeId reg)
  | setRegisterValue => do
      let ((nodeId, reg), val) ← setRegisterParams cast params
      return val.map (.setRegisterValue nodeId reg)
  | setRegisterBit => do
      let ((nodeId, reg), bitNum) ← bitParams cast params
      return some (.setRegisterBit nodeId reg bitNum)
  | clearRegisterBit => do
      let ((nodeId, reg), bitNum) ← bitParams cast params
      return some (.clearRegisterBit nodeId reg bitNum)

/-- The integers among the parameters of the method fit: a node id the array, the others a byte. -/
structure InRange (params : Parameter) (method : NodeMethod) : Prop where
  nodeId : Fits params.paramMap "node_id" (H9Frame.ID_MAX_VALUE + 1)
  reg : method.takesReg = true → Fits params.paramMap "reg" 256
  bitNum : method.takesBitNum = true → Fits params.paramMap "bit_num" 256
  bytes : method = .setRegisterValue → ∀ elems, params.paramMap.lookup "value" = some (.array elems) →
    ∀ elem ∈ elems, elem.Within 256

/-- A handler reads its parameters, and goes on with what it has read. -/
theorem handler_eq (texts : Texts) (env : Env) (me : ClientId) (id : Id) (params : Parameter)
    (method : NodeMethod) :
    method.method.handler texts env me id params =
      match method.asked env.cast params with
      | .ok (some call) => call.act texts env id
      | .ok none => Call.throw (.request (invalidParamsException "Unsupported JSON type as a value" id))
      | .error e => Call.throw (.request (invalidParamsException e.what id)) := by
  cases method with
  | getNodeInfo =>
    change API.getNodeInfo texts env me id params = _
    rw [API.getNodeInfo, asked]
    cases API.nodeId env.cast params <;> rfl
  | nodeReset =>
    change API.nodeReset env me id params = _
    rw [API.nodeReset, asked]
    cases API.nodeId env.cast params <;> rfl
  | getRegisterValue =>
    change API.getRegisterValue env me id params = _
    rw [API.getRegisterValue, asked]
    cases registerParams env.cast params <;> rfl
  | setRegisterValue =>
    change API.setRegisterValue env me id params = _
    rw [API.setRegisterValue, asked]
    cases setRegisterParams env.cast params with
    | error e => rfl
    | ok read =>
      obtain ⟨⟨nodeId, reg⟩, val⟩ := read
      cases val <;> rfl
  | setRegisterBit =>
    change API.setRegisterBit env me id params = _
    rw [API.setRegisterBit, asked]
    cases bitParams env.cast params <;> rfl
  | clearRegisterBit =>
    change API.clearRegisterBit env me id params = _
    rw [API.clearRegisterBit, asked]
    cases bitParams env.cast params <;> rfl

/-- What was read under each key. -/
structure Read (cast : FloatCast) (params : Parameter) (method : NodeMethod) (call : NodeCall) : Prop where
  method : call.method = method
  nodeId : ∀ value, params.paramMap.lookup "node_id" = some value →
    Json.getNumber cast 16 value = .ok call.nodeId
  reg : ∀ reg, call.reg? = some reg → ∀ value, params.paramMap.lookup "reg" = some value →
    Json.getNumber cast 8 value = .ok reg
  bitNum : ∀ bitNum, call.bitNum? = some bitNum → ∀ value, params.paramMap.lookup "bit_num" = some value →
    Json.getNumber cast 8 value = .ok bitNum
  val : ∀ val, call.val? = some val → ∀ value, params.paramMap.lookup "value" = some value →
    registerValue cast value = .ok (some val)

theorem getAt_eq_ok {α : Type} {params : Parameter} {key : String} {get : Json → Except AccessError α} {a : α}
    (read : params.getAt key get = .ok a) (value : Json) (found : params.paramMap.lookup key = some value) :
    get value = .ok a := by
  obtain ⟨_, entry, given⟩ := bind_eq_ok.mp read
  rw [atKey, found] at entry
  cases entry
  exact given

theorem registerParams_eq_ok {cast : FloatCast} {params : Parameter} {nodeId : BitVec 16} {reg : Byte}
    (read : registerParams cast params = .ok (nodeId, reg)) :
    API.nodeId cast params = .ok nodeId ∧ params.getAt "reg" (Json.getNumber cast 8) = .ok reg := by
  obtain ⟨_, node, rest⟩ := bind_eq_ok.mp read
  obtain ⟨_, given, ⟨⟩⟩ := bind_eq_ok.mp rest
  exact ⟨node, given⟩

theorem bitParams_eq_ok {cast : FloatCast} {params : Parameter} {nodeId : BitVec 16} {reg bitNum : Byte}
    (read : bitParams cast params = .ok ((nodeId, reg), bitNum)) :
    registerParams cast params = .ok (nodeId, reg) ∧
      params.getAt "bit_num" (Json.getNumber cast 8) = .ok bitNum := by
  obtain ⟨_, register, rest⟩ := bind_eq_ok.mp read
  obtain ⟨_, given, ⟨⟩⟩ := bind_eq_ok.mp rest
  exact ⟨register, given⟩

theorem setRegisterParams_eq_ok {cast : FloatCast} {params : Parameter} {nodeId : BitVec 16} {reg : Byte}
    {val : Option RegValue} (read : setRegisterParams cast params = .ok ((nodeId, reg), val)) :
    registerParams cast params = .ok (nodeId, reg) ∧
      params.getAt "value" (API.registerValue cast) = .ok val := by
  obtain ⟨_, register, rest⟩ := bind_eq_ok.mp read
  obtain ⟨_, given, ⟨⟩⟩ := bind_eq_ok.mp rest
  exact ⟨register, given⟩

theorem asked_read {cast : FloatCast} {params : Parameter} {method : NodeMethod} {call : NodeCall}
    (read : method.asked cast params = .ok (some call)) : Read cast params method call := by
  cases method with
  | getNodeInfo | nodeReset =>
    obtain ⟨nodeId, node, ⟨⟩⟩ := bind_eq_ok.mp read
    exact ⟨rfl, getAt_eq_ok node, nofun, nofun, nofun⟩
  | getRegisterValue =>
    obtain ⟨⟨nodeId, reg⟩, register, ⟨⟩⟩ := bind_eq_ok.mp read
    obtain ⟨node, given⟩ := registerParams_eq_ok register
    refine ⟨rfl, getAt_eq_ok node, ?_, nofun, nofun⟩
    rintro _ ⟨⟩
    exact getAt_eq_ok given
  | setRegisterValue =>
    obtain ⟨⟨⟨nodeId, reg⟩, val⟩, parameters, same⟩ := bind_eq_ok.mp read
    obtain ⟨register, value⟩ := setRegisterParams_eq_ok parameters
    obtain ⟨node, given⟩ := registerParams_eq_ok register
    cases val with
    | none => cases same
    | some val =>
      cases same
      refine ⟨rfl, getAt_eq_ok node, ?_, nofun, ?_⟩
      · rintro _ ⟨⟩
        exact getAt_eq_ok given
      · rintro _ ⟨⟩
        exact getAt_eq_ok value
  | setRegisterBit | clearRegisterBit =>
    obtain ⟨⟨⟨nodeId, reg⟩, bitNum⟩, parameters, ⟨⟩⟩ := bind_eq_ok.mp read
    obtain ⟨register, bit⟩ := bitParams_eq_ok parameters
    obtain ⟨node, given⟩ := registerParams_eq_ok register
    refine ⟨rfl, getAt_eq_ok node, ?_, ?_, nofun⟩
    · rintro _ ⟨⟩
      exact getAt_eq_ok given
    · rintro _ ⟨⟩
      exact getAt_eq_ok bit

theorem takesReg_method (call : NodeCall) : call.method.takesReg = call.reg?.isSome := by
  cases call <;> rfl

theorem takesBitNum_method (call : NodeCall) : call.method.takesBitNum = call.bitNum?.isSome := by
  cases call <;> rfl

/-- Numbers of the width of their variables fit. -/
theorem inRange_of_named {params : Parameter} {call : NodeCall} (named : call.Named params) :
    InRange params call.method where
  nodeId value found i integer := by
    have same := named.nodeId value found i integer
    have known := named.known value i found integer
    omega
  reg takes value found := by
    rw [takesReg_method] at takes
    obtain ⟨reg, some⟩ := Option.isSome_iff_exists.mp takes
    exact (named.reg reg some value found).within
  bitNum takes value found := by
    rw [takesBitNum_method] at takes
    obtain ⟨bitNum, some⟩ := Option.isSome_iff_exists.mp takes
    exact (named.bitNum bitNum some value found).within
  bytes method elems found := by
    cases call with
    | setRegisterValue nodeId reg val =>
      obtain ⟨bytes, -, denote⟩ := named.bytes val elems rfl found
      exact Json.within_of_denote denote
    | getNodeInfo | nodeReset | getRegisterValue | setRegisterBit | clearRegisterBit => cases method

theorem registerValue_array {cast : FloatCast} {elems : List Json} {val : RegValue}
    (read : API.registerValue cast (.array elems) = .ok (some val)) :
    ∃ bytes, val = .bytes bytes ∧ Json.getBytes cast (.array elems) = .ok bytes := by
  obtain ⟨bytes, given, ⟨⟩⟩ := bind_eq_ok.mp read
  exact ⟨bytes, rfl, given⟩

/-- Integers that fit are kept by every conversion on the way. -/
theorem Read.named {cast : FloatCast} {params : Parameter} {method : NodeMethod} {call : NodeCall}
    (read : Read cast params method call) (inRange : InRange params method) : call.Named params := by
  obtain rfl := read.method
  have nodeId : Exactly params.paramMap "node_id" call.nodeId := by
    apply (exactly_iff_fits cast read.nodeId).mpr
    exact fun value found => (inRange.nodeId value found).mono (by decide)
  constructor
  · exact nodeId
  · intro value i found integer
    have same := nodeId value found i integer
    have inside := inRange.nodeId value found i integer
    omega
  · intro reg some
    apply (exactly_iff_fits cast (read.reg reg some)).mpr
    exact inRange.reg ((takesReg_method call).trans (Option.isSome_of_eq_some some))
  · intro bitNum some
    apply (exactly_iff_fits cast (read.bitNum bitNum some)).mpr
    exact inRange.bitNum ((takesBitNum_method call).trans (Option.isSome_of_eq_some some))
  · intro val elems some found
    obtain ⟨bytes, rfl, given⟩ := registerValue_array (read.val val some _ found)
    have method : call.method = .setRegisterValue := by cases call <;> first | rfl | cases some
    exact ⟨bytes, rfl, Json.getBytes_denote cast given (inRange.bytes method elems found)⟩

section Exact

variable (texts : Texts) (env : Env) (me : ClientId) (id : Id) (params : Parameter) (d : Daemon)
  (method : NodeMethod)

/-- The request is carried out for the numbers that are given, or it fails and sends nothing. -/
def Exact : Prop :=
  (∃ call : NodeCall, call.method = method ∧ call.Named params ∧
    method.method.handler texts env me id params d = call.act texts env id d) ∨
  (method.method.handler texts env me id params).Refuses Daemon.port d

theorem exact_iff_inRange :
    method.Exact texts env me id params d ↔
      ∀ call, method.asked env.cast params = .ok (some call) →
        InRange params method ∨ call.Refused d.nodeMgr := by
  rw [Exact, handler_eq]
  cases asked : method.asked env.cast params with
  | error e => exact iff_of_true (.inr (Call.refuses_throw _)) nofun
  | ok read =>
    cases read with
    | none => exact iff_of_true (.inr (Call.refuses_throw _)) nofun
    | some call =>
      simp only [Except.ok.injEq, Option.some.injEq, forall_eq', NodeCall.act_refused]
      refine or_congr_left ⟨?_, fun inRange => ?_⟩
      · rintro ⟨call', rfl, named, -⟩
        exact inRange_of_named named
      · exact ⟨call, (asked_read asked).method, (asked_read asked).named inRange, rfl⟩

end Exact

end NodeMethod

/-! ## The frame of a request -/

/-- The integers of the data are the bytes of the frame, and that of the length its length. -/
structure CarriesData (f : H9Frame) (j : Json) : Prop where
  dlc : Exactly j.members "dlc" f.dlc
  data : ∀ elems, j.members.lookup "data" = some (.array elems) → ∀ k elem i, elems[k]? = some elem →
    elem.integer? = some i → ∃ inside : k < MAX_DATA_LENGTH, ((f.data ⟨k, inside⟩).toNat : ℤ) = i

/-- The integers of a frame object are the members of the frame. -/
structure Carries (f : H9Frame) (j : Json) : Prop where
  type : Exactly j.members "type" f.type
  sourceId : Exactly j.members "source_id" f.sourceId
  seqnum : Exactly j.members "seqnum" f.seqnum
  destinationId : Exactly j.members "destination_id" f.destinationId
  flags : Exactly j.members "flags" f.flags
  group : Exactly j.members "broadcast_group" f.group
  data : CarriesData f j

/-- The integers of the data are bytes at the first eight places, and a length beside data is that of the
bytes that are kept. -/
structure DataFits (j : Json) : Prop where
  dlc : j.contains "data" = false → Fits j.members "dlc" 256
  length : ∀ elems value i, j.members.lookup "data" = some (.array elems) →
    j.members.lookup "dlc" = some value → value.integer? = some i → i = min elems.length MAX_DATA_LENGTH
  data : ∀ elems, j.members.lookup "data" = some (.array elems) → ∀ k elem i, elems[k]? = some elem →
    elem.integer? = some i → k < MAX_DATA_LENGTH ∧ 0 ≤ i ∧ i < 256

/-- The integers of a frame object fit: a group two bytes, the other members a byte. -/
structure FrameFits (j : Json) : Prop where
  byte : ∀ key ∈ ["type", "source_id", "seqnum", "destination_id", "flags"], Fits j.members key 256
  group : Fits j.members "broadcast_group" 65536
  data : DataFits j

section Carries

variable {cast : FloatCast} {j : Json} (m : H9Frame)

theorem memberOr_exactly_iff {w : ℕ} {key : String}
    (readable : ∃ read, j.optional key (Json.getNumber cast w) = .ok read) (old : BitVec w) :
    Exactly j.members key (memberOr j key (Json.getNumber cast w) old) ↔ Fits j.members key (2 ^ w) := by
  obtain ⟨read, ok⟩ := readable
  apply exactly_iff_fits cast
  intro value found
  obtain ⟨missing, -⟩ | ⟨value', a, found', given, rfl⟩ := optional_eq_ok ok
  · cases missing.symm.trans found
  · cases found'.symm.trans found
    rw [given, ← optional_getD ok]
    rfl

/-- The data of a frame object, if it has any. -/
theorem readable_data (readable : Readable cast j) {value : Json} (found : j.members.lookup "data" = some value) :
    ∃ elems bytes, value = .array elems ∧ Json.getBytes cast (.array elems) = .ok bytes := by
  obtain ⟨read, ok⟩ := readable.data
  obtain ⟨missing, -⟩ | ⟨value', bytes, found', given, rfl⟩ := optional_eq_ok ok
  · cases missing.symm.trans found
  · cases found'.symm.trans found
    cases value with
    | array elems => exact ⟨elems, bytes, rfl, given⟩
    | null | boolean | string | numberInteger | numberUnsigned | numberFloat | object => cases given

/-- Without data the length is read like the other members. -/
theorem readFrame_dlc_missing (missing : j.members.lookup "data" = none) :
    (readFrame cast j m).dlc = memberOr j "dlc" (Json.getNumber cast 8) m.dlc := by
  rw [readFrame, missing]
  rfl

theorem readFrame_array {elems : List Json} {bytes : List Byte}
    (found : j.members.lookup "data" = some (.array elems))
    (read : Json.getBytes cast (.array elems) = .ok bytes) :
    readFrame cast j m = (readHeader cast j m).setData bytes := by
  rw [readFrame, found]
  dsimp only
  rw [read]
  rfl

theorem setData_dlc (f : H9Frame) (bytes : List Byte) :
    (f.setData bytes).dlc.toNat = min bytes.length MAX_DATA_LENGTH := by
  change (BitVec.ofNat 8 (min bytes.length 8)).toNat = min bytes.length 8
  rw [BitVec.toNat_ofNat]
  omega

theorem setData_data (f : H9Frame) {bytes : List Byte} {k : ℕ} {b : Byte} (at_k : bytes[k]? = some b)
    (inside : k < MAX_DATA_LENGTH) : (f.setData bytes).data ⟨k, inside⟩ = b := by
  change bytes.getD k _ = b
  rw [List.getD_eq_getElem?_getD, at_k]
  rfl

/-- The bytes of a frame are the integers of its data exactly if there are places for them. -/
theorem data_exactly_iff (f : H9Frame) {elems : List Json} {bytes : List Byte}
    (read : Json.getBytes cast (.array elems) = .ok bytes) (k : ℕ) {elem : Json} (at_k : elems[k]? = some elem)
    {i : ℤ} (integer : elem.integer? = some i) :
    (∃ inside : k < MAX_DATA_LENGTH, (((f.setData bytes).data ⟨k, inside⟩).toNat : ℤ) = i) ↔
      k < MAX_DATA_LENGTH ∧ 0 ≤ i ∧ i < 256 := by
  obtain ⟨length, numbers⟩ := List.forall₂_iff_get.mp (Json.getBytes_numbers cast read)
  obtain ⟨inElems, same⟩ := List.getElem?_eq_some_iff.mp at_k
  have inBytes : k < bytes.length := length ▸ inElems
  have number : Json.getNumber cast 8 elem = .ok bytes[k] := by
    rw [← same]
    exact numbers k inElems inBytes
  rw [← exists_prop]
  refine exists_congr fun inside => ?_
  rw [setData_data f (List.getElem?_eq_getElem inBytes) inside]
  have iff := Json.denotes_iff_within cast number
  rw [Json.Denotes, Json.Within, integer] at iff
  simpa using iff

theorem carriesData_iff (readable : Readable cast j) : CarriesData (readFrame cast j m) j ↔ DataFits j := by
  cases found : j.members.lookup "data" with
  | none =>
    have missing : j.contains "data" = false := by
      rw [Json.contains, found]
      rfl
    have dlc := memberOr_exactly_iff (readable.byte "dlc" (by decide)) m.dlc
    rw [← readFrame_dlc_missing m found] at dlc
    constructor
    · intro carries
      exact ⟨fun _ => dlc.mp carries.dlc, fun _ _ _ given => by simp [found] at given,
        fun _ given => by simp [found] at given⟩
    · intro fits
      exact ⟨dlc.mpr (fits.dlc missing), fun _ given => by simp [found] at given⟩
  | some value =>
    obtain ⟨elems, bytes, rfl, read⟩ := readable_data readable found
    have given : j.contains "data" = true := by
      rw [Json.contains, found]
      rfl
    have length : bytes.length = elems.length := (Json.getBytes_numbers cast read).length_eq.symm
    rw [readFrame_array m found read]
    constructor
    · intro carries
      refine ⟨fun missing => by simp [given] at missing, ?_, ?_⟩
      · intro elems' value i found' dlc integer
        cases found.symm.trans found'
        rw [← carries.dlc value dlc i integer, setData_dlc, length]
      · intro elems' found' k elem i at_k integer
        cases found.symm.trans found'
        exact (data_exactly_iff _ read k at_k integer).mp (carries.data elems found k elem i at_k integer)
    · intro fits
      constructor
      · intro value dlc i integer
        rw [fits.length elems value i found dlc integer, setData_dlc, length]
      · intro elems' found' k elem i at_k integer
        cases found.symm.trans found'
        exact (data_exactly_iff _ read k at_k integer).mpr (fits.data elems found k elem i at_k integer)

/-- A frame that is read carries the integers of its object exactly if they fit. -/
theorem carries_iff (readable : Readable cast j) : Carries (readFrame cast j m) j ↔ FrameFits j := by
  have type := memberOr_exactly_iff (readable.byte "type" (by decide)) m.type
  have sourceId := memberOr_exactly_iff (readable.byte "source_id" (by decide)) m.sourceId
  have seqnum := memberOr_exactly_iff (readable.byte "seqnum" (by decide)) m.seqnum
  have destinationId := memberOr_exactly_iff (readable.byte "destination_id" (by decide)) m.destinationId
  have flags := memberOr_exactly_iff (readable.byte "flags" (by decide)) m.flags
  have group := memberOr_exactly_iff readable.group m.group
  rw [← readFrame_type] at type
  rw [← readFrame_sourceId] at sourceId
  rw [← readFrame_seqnum] at seqnum
  rw [← readFrame_destinationId] at destinationId
  rw [← readFrame_flags] at flags
  rw [← readFrame_group] at group
  constructor
  · intro carries
    refine ⟨?_, group.mp carries.group, (carriesData_iff m readable).mp carries.data⟩
    simp only [List.forall_mem_cons]
    exact ⟨type.mp carries.type, sourceId.mp carries.sourceId, seqnum.mp carries.seqnum,
      destinationId.mp carries.destinationId, flags.mp carries.flags, nofun⟩
  · rintro ⟨byte, inGroup, data⟩
    simp only [List.forall_mem_cons] at byte
    obtain ⟨inType, inSource, inSeqnum, inDestination, inFlags, -⟩ := byte
    exact ⟨type.mpr inType, sourceId.mpr inSource, seqnum.mpr inSeqnum, destinationId.mpr inDestination,
      flags.mpr inFlags, group.mpr inGroup, (carriesData_iff m readable).mpr data⟩

end Carries

section SendFrame

variable (env : Env) (me : ClientId) (id : Id) (params : Parameter) (d : Daemon)

/-- The name of the client is none of the numbers. -/
theorem carries_fromClient {f : H9Frame} {j : Json} : Carries (fromClient me d f) j ↔ Carries f j :=
  ⟨fun ⟨type, sourceId, seqnum, destinationId, flags, group, ⟨dlc, data⟩⟩ =>
      ⟨type, sourceId, seqnum, destinationId, flags, group, ⟨dlc, data⟩⟩,
    fun ⟨type, sourceId, seqnum, destinationId, flags, group, ⟨dlc, data⟩⟩ =>
      ⟨type, sourceId, seqnum, destinationId, flags, group, ⟨dlc, data⟩⟩⟩

/-- The frame that is given to the bus is the one that the request describes, or the request fails and
sends nothing. -/
def ExactFrame : Prop :=
  (∃ j f raw, params.paramMap.lookup "frame" = some j ∧ Queues env me id params d f raw ∧ Carries f j) ∨
  (sendFrame env me id params).Refuses Daemon.port d

theorem exactFrame_iff :
    ExactFrame env me id params d ↔ ∀ j raw, Given env.cast params j raw → FrameFits j := by
  constructor
  · intro exact j raw given
    have queued : Queues env me id params d (fromClient me d (readFrame env.cast j env.frameMemory)) raw :=
      queues_iff.mpr ⟨j, given, rfl⟩
    rcases exact with ⟨j', f, raw', found, queues, carries⟩ | ⟨-, unchanged⟩
    · cases found.symm.trans given.frame
      obtain ⟨_, given', rfl⟩ := queues_iff.mp queues
      cases found.symm.trans given'.frame
      exact (carries_iff env.frameMemory given.readable).mp ((carries_fromClient me d).mp carries)
    · rw [Queues, unchanged] at queued
      exact absurd (congrArg List.length queued) (by simp)
  · intro fits
    cases read : sendFrameParams env params with
    | error e =>
      obtain ⟨outcome, after⟩ := sendFrame_rejected env me id params d read
      exact .inr ⟨⟨_, outcome⟩, congrArg Daemon.port after⟩
    | ok sent =>
      obtain ⟨frame, raw⟩ := sent
      obtain ⟨j, given, rfl⟩ := sendFrameParams_eq_ok.mp read
      have carries := (carries_iff env.frameMemory given.readable).mpr (fits j raw given)
      exact .inl ⟨j, _, raw, given.frame, queues_iff.mpr ⟨j, given, rfl⟩, (carries_fromClient me d).mpr carries⟩

end SendFrame

/-! ## Every request with numbers -/

/-- The methods whose parameters are numbers. -/
inductive NumericMethod
  | node (method : NodeMethod)
  | sendFrame

namespace NumericMethod

variable (texts : Texts) (env : Env) (me : ClientId) (id : Id) (params : Parameter) (d : Daemon)

/-- The request is carried out for exactly the integers that it gives, or it fails and sends nothing. -/
def Exact : NumericMethod → Prop
  | node method => method.Exact texts env me id params d
  | sendFrame => ExactFrame env me id params d

/-- If the parameters can be read, the integers among them fit, or what they are cut down to is refused. -/
def Admissible : NumericMethod → Prop
  | node method => ∀ call, method.asked env.cast params = .ok (some call) →
      NodeMethod.InRange params method ∨ call.Refused d.nodeMgr
  | sendFrame => ∀ j raw, Given env.cast params j raw → FrameFits j

end NumericMethod

/-- A daemon that knows node 7 with one register, of number 10. -/
def oneNode : Daemon :=
  { Daemon.initial with
    nodeMgr := ⟨fun nodeId => if nodeId.val = 7 then
      some (Node.oneRegister 10 { Node.writableRegister "uint" 16 with number := 10 }) else none, fun _ => none, []⟩ }

/-- A request to write register 266. -/
def register266 : Parameter :=
  .map [("node_id", .numberUnsigned 7), ("reg", .numberUnsigned 266), ("value", .numberUnsigned 5)]

end API

end H9d
