import H9d.Model.API
import H9d.Soundness.CliCache
import H9d.Soundness.DescriptionFiles
import H9d.Soundness.NodeDescriptions
import H9d.Soundness.RegisterReplies

/-! # The numbers of bits

A file lists the names of bits with the most significant one first. The loader puts them the other way round, so
that the index in the daemon's list is the number, which the command line counts again.
-/

namespace H9d

open Cxx Machine LabeledMachine Nlohmann NodeDescLoader NodeMgr

namespace BitNumbers

section Registered

variable {std : StdRegisters}

/-- The registers that `load_description` gives. -/
def registersOf (std : StdRegisters) (types : Types) (type : BitVec 16) : Byte → Option RegisterDesc := fun reg =>
  (getNodeRegisterByType types type reg).or ((stdRegister std).find? (·.number = reg))

/-- An initialised node has the registers of its type; the others wait for the first announcement. -/
structure Registered (std : StdRegisters) (types : Types) (n : Node) : Prop where
  described : n.init = true → (types n.nodeType).isSome → n.registerMap = registersOf std types n.nodeType
  unseen : n.init = false → n.nodeType = 0

theorem registerMap_loadDescription (types : Types) (n : Node) :
    (n.loadDescription std types).registerMap = registersOf std types n.nodeType := by
  rw [Node.loadDescription]
  dsimp only
  split <;> rfl

theorem Registered.initAs {types : Types} {n : Node} (registered : Registered std types n) (untyped : types 0 = none)
    (nodeType : BitVec 16) (version : BitVec 32) (hardwareRevision resetReason : Byte) :
    Registered std types (n.initAs std types nodeType version hardwareRevision resetReason) := by
  refine ⟨fun _ described => ?_, fun unseen => ?_⟩
  · rw [Node.initAs] at described ⊢
    split
    · next same =>
      rw [if_pos same] at described
      cases init : n.init with
      | true => exact registered.described init described
      | false =>
        -- a node that was not seen has the type 0, which no file describes
        have zero : types n.nodeType = none := (congrArg types (registered.unseen init)).trans untyped
        change (types n.nodeType).isSome at described
        rw [zero] at described
        cases described
    · rw [registerMap_loadDescription, Node.loadDescription_nodeType]
  · rw [Node.initAs] at unseen
    split at unseen
    · cases unseen
    · rw [Node.loadDescription_init] at unseen
      cases unseen

/-- Each node is registered, with descriptions that have no type 0. -/
structure AllRegistered (std : StdRegisters) (m : NodeMgr) : Prop where
  untyped : m.types 0 = none
  nodes : ∀ id n, m.nodes id = some n → Registered std m.types n

theorem AllRegistered.sourceNode {m : NodeMgr} (all : AllRegistered std m) (env : Env) (frame : H9Frame) :
    Registered std m.types (m.sourceNode env frame) := by
  rw [NodeMgr.sourceNode]
  cases found : m.nodes (source frame) with
  | none => exact ⟨fun init => absurd init Bool.false_ne_true, fun _ => rfl⟩
  | some n => exact all.nodes _ n found

theorem AllRegistered.handleFrame {m : NodeMgr} (all : AllRegistered std m) (env : Env) (frame : H9Frame) :
    AllRegistered std (m.handleFrame { env with std } frame) := by
  refine ⟨all.untyped, fun id n found => ?_⟩
  have described : Registered std m.types (m.described { env with std } frame) := by
    rw [NodeMgr.described]
    dsimp only
    split
    · exact (all.sourceNode { env with std } frame).initAs all.untyped _ _ _ _
    · exact all.sourceNode { env with std } frame
  rw [NodeMgr.handleFrame] at found
  dsimp only at found
  by_cases same : id = source frame
  · rw [same, Function.update_self] at found
    cases found
    exact ⟨described.described, described.unseen⟩
  · rw [Function.update_of_ne same] at found
    exact all.nodes id n found

/-- Before the first announcement a node has the type 0, whatever was loaded. -/
def Unseen (m : NodeMgr) : Prop := ∀ id n, m.nodes id = some n → n.init = false → n.nodeType = 0

theorem unseen_initial {m : NodeMgr} (initial : (updates std).Initial m) : Unseen m := by
  intro id n found _
  obtain ⟨env, nodeId, rfl⟩ := initial id n found
  rfl

theorem Unseen.step {m next : NodeMgr} {update : Update} (unseen : Unseen m)
    (step : (updates std).step? m update = some next) : Unseen next := by
  cases update with
  | frame env frame =>
    cases step
    intro id n found init
    rw [NodeMgr.handleFrame] at found
    dsimp only at found
    by_cases same : id = source frame
    · rw [same, Function.update_self] at found
      cases found
      change (m.described { env with std } frame).init = false at init
      change (m.described { env with std } frame).nodeType = 0
      rw [NodeMgr.described] at init ⊢
      dsimp only at init ⊢
      split at init
      · rw [initAs_init] at init
        cases init
      · next silent =>
        rw [if_neg silent]
        rw [NodeMgr.sourceNode] at init ⊢
        cases old : m.nodes (source frame) with
        | none => rfl
        | some n =>
          rw [old] at init
          exact unseen _ n old init
    · rw [Function.update_of_ne same] at found
      exact unseen id n found init
  | reload env =>
    obtain ⟨types, -, rfl⟩ := reload_inv step
    intro id n found init
    obtain ⟨before, known, rfl⟩ := Option.map_eq_some_iff.mp found
    split at init
    · next seen =>
      rw [Node.loadDescription_init, seen] at init
      cases init
    · next silent =>
      rw [if_neg silent]
      exact unseen id before known init

/-- A reload registers every node that was seen. -/
theorem registered_reload {m next : NodeMgr} {env : Env} (unseen : Unseen m)
    (step : (updates std).step? m (.reload env) = some next) (untyped : next.types 0 = none) :
    AllRegistered std next := by
  obtain ⟨types, -, rfl⟩ := reload_inv step
  refine ⟨untyped, fun id n found => ?_⟩
  obtain ⟨before, known, rfl⟩ := Option.map_eq_some_iff.mp found
  by_cases init : before.init = true
  · rw [if_pos init]
    refine ⟨fun _ _ => ?_, fun silent => ?_⟩
    · rw [registerMap_loadDescription, Node.loadDescription_nodeType]
    · rw [Node.loadDescription_init, init] at silent
      cases silent
  · rw [if_neg init]
    exact ⟨fun seen => absurd seen init, unseen id before known⟩

/-- What the frames after a reload leave of it. -/
theorem registered_run {m next : NodeMgr} {frames : List (Env × H9Frame)} (all : AllRegistered std m)
    (run : (updates std).run? m (frames.map fun (env, frame) => .frame env frame) = some next) :
    AllRegistered std next ∧ next.types = m.types := by
  induction frames generalizing m with
  | nil =>
    cases run
    exact ⟨all, rfl⟩
  | cons event frames ih =>
    obtain ⟨middle, step, rest⟩ := run?_cons_eq_some.mp run
    cases step
    obtain ⟨all, types⟩ := ih (all.handleFrame event.1 event.2) rest
    exact ⟨all, types⟩

end Registered

section Answer

/-- The number under which the clients know an entry of the array. -/
def idOf (id : Fin (H9Frame.ID_MAX_VALUE + 1)) : BitVec 16 := BitVec.ofNat 16 id

theorem nodeAt_idOf {ε : Type} (m : NodeMgr) (id : Fin (H9Frame.ID_MAX_VALUE + 1)) :
    (m.nodeAt (idOf id) : Outcome ε _) = .value (m.nodes id) := by
  have number : (idOf id).toNat = id := by
    have bound : id.val < 2 ^ 16 := lt_of_lt_of_le id.isLt (by decide)
    rw [idOf, BitVec.toNat_ofNat, Nat.mod_eq_of_lt bound]
  rw [NodeMgr.nodeAt, dif_pos (by rw [number]; exact id.isLt)]
  exact congrArg (fun entry => Outcome.value (m.nodes entry)) (Fin.ext number)

/-- What `get_registers_list` answers about a node, whoever asks. -/
def Answers (m : NodeMgr) (nodeId : BitVec 16) (infos : List Json) : Prop :=
  ∀ env me id params d, d.nodeMgr = m → API.nodeId env.cast params = .ok nodeId →
    (API.getRegistersList env me id params).outcome d = .value (.array infos)

theorem uncaught_value {α : Type} {x : Outcome DevNodeException α} {a : α} (value : x = .value a) (d : Daemon) :
    (API.uncaught (Call.ofOutcome x)).outcome d = .value a := by
  rw [value]
  rfl

theorem answers_of_found {m : NodeMgr} {id : Fin (H9Frame.ID_MAX_VALUE + 1)} {n : Node}
    (found : m.nodes id = some n) : Answers m (idOf id) (n.getRegistersList.map API.registerInfo) := by
  rintro env me rid params d rfl read
  have exist : (d.nodeMgr.isNodeExist (idOf id)) = .value true := by
    rw [NodeMgr.isNodeExist, nodeAt_idOf, found]
    rfl
  have list : (d.nodeMgr.getRegistersList (idOf id)) = .value n.getRegistersList := by
    rw [NodeMgr.getRegistersList, nodeAt_idOf, found]
    rfl
  rw [API.getRegistersList, read]
  refine (Call.outcome_bind_of_value (a := idOf id) rfl _).trans ?_
  rw [Call.read_bind]
  refine (Call.outcome_bind_of_value (a := true) ?_ _).trans ?_
  · exact uncaught_value exist d
  · rw [if_pos rfl]
    exact (Call.outcome_bind_of_value (a := n.getRegistersList) (uncaught_value list _) _).trans rfl

/-- What the command line keeps of a register. -/
def replied (desc : RegisterDesc) : CliCache.Register := ⟨desc.name, desc.number, desc.bitsNames⟩

theorem getStrings_ofStrings (strings : List String) : CliCache.getStrings (.ofStrings strings) = .ok strings := by
  rw [Json.ofStrings, CliCache.getStrings]
  induction strings with
  | nil => rfl
  | cons s strings ih =>
    rw [List.map_cons, List.mapM_cons, ih]
    rfl

theorem readRegister_registerInfo (cast : FloatCast) (desc : RegisterDesc) :
    CliCache.readRegister cast (API.registerInfo desc) = .ok (replied desc) := by
  have number : (desc.number.setWidth 64).setWidth 8 = desc.number := by
    rw [← BitVec.toNat_inj]
    simp
  change (do
    let number ← Except.ok ((desc.number.setWidth 64).setWidth 8)
    let bitsNames ← CliCache.getStrings (.ofStrings desc.bitsNames)
    return (⟨desc.name, number, bitsNames⟩ : CliCache.Register)) = _
  rw [number, getStrings_ofStrings]
  rfl

theorem readRegisters_registerInfo (cast : FloatCast) (descs : List RegisterDesc) :
    CliCache.readRegisters cast (descs.map API.registerInfo) = .ok (descs.map replied) := by
  rw [CliCache.readRegisters]
  induction descs with
  | nil => rfl
  | cons desc descs ih =>
    rw [List.map_cons, List.mapM_cons, readRegister_registerInfo, ih]
    rfl

/-- Each register is kept under its own number. -/
def Keyed (n : Node) : Prop := ∀ reg desc, n.registerMap reg = some desc → desc.number = reg

theorem mem_getRegistersList {n : Node} {desc : RegisterDesc} :
    desc ∈ n.getRegistersList ↔ ∃ reg, n.registerMap reg = some desc := by
  rw [Node.getRegistersList, List.mem_filterMap]
  constructor
  · rintro ⟨reg, -, found⟩
    exact ⟨_, found⟩
  · rintro ⟨reg, found⟩
    refine ⟨reg.toNat, List.mem_range.mpr reg.isLt, ?_⟩
    rw [BitVec.ofNat_toNat, BitVec.setWidth_eq]
    exact found

theorem distinct_getRegistersList {n : Node} (keyed : Keyed n) :
    ((n.getRegistersList.map replied).map (·.number)).Nodup := by
  rw [List.map_map, Node.getRegistersList, List.map_filterMap, List.Nodup, List.pairwise_filterMap]
  refine List.pairwise_lt_range.imp_of_mem fun {a b} ha hb less number found number' found' same => ?_
  obtain ⟨desc, known, rfl⟩ := Option.map_eq_some_iff.mp found
  obtain ⟨desc', known', rfl⟩ := Option.map_eq_some_iff.mp found'
  have key : BitVec.ofNat 8 a = BitVec.ofNat 8 b :=
    (keyed _ desc known).symm.trans (same.trans (keyed _ desc' known'))
  have numbers := congrArg BitVec.toNat key
  rw [List.mem_range] at ha hb
  rw [BitVec.toNat_ofNat, BitVec.toNat_ofNat] at numbers
  omega

/-- The registers that the answer tells. -/
def registersOfNode (n : Node) (keyed : Keyed n) : CliCache.Registers :=
  ⟨n.getRegistersList.map replied, distinct_getRegistersList keyed⟩

end Answer

section Numbers

variable {before after names : List String} {name : String}

/-- The last of equal names counts. -/
theorem bitIndex_of_last {reg : CliCache.Register} (split : reg.bitsNames = before ++ name :: after)
    (last : name ∉ after) : reg.bitIndex name = some (BitVec.ofNat 8 before.length) := by
  have later : (after.zipIdx (before.length + 1)).reverse.find? (·.1 = name) = none := by
    rw [List.find?_eq_none]
    rintro ⟨bit, k⟩ member same
    have listed := List.fst_mem_of_mem_zipIdx (List.mem_reverse.mp member)
    simp only [decide_eq_true_eq] at same
    exact last (same ▸ listed)
  rw [CliCache.Register.bitIndex, split, List.zipIdx_append, List.zipIdx_cons, List.reverse_append,
    List.reverse_cons, List.find?_append, List.find?_append, Nat.zero_add, later, Option.none_or,
    List.find?_cons_of_pos (by simp)]
  rfl

/-- The names of a list behind others, each of them once. -/
theorem bitIndex_of_distinct {reg : CliCache.Register} (split : reg.bitsNames = before ++ names)
    (distinct : names.Nodup) {j : ℕ} (inside : j < names.length) :
    reg.bitIndex names[j] = some (BitVec.ofNat 8 (before.length + j)) := by
  have cut : names = names.take j ++ names[j] :: names.drop (j + 1) := by
    rw [List.getElem_cons_drop inside, List.take_append_drop]
  have last : names[j] ∉ names.drop (j + 1) := by
    rw [cut, List.nodup_append] at distinct
    exact (List.nodup_cons.mp distinct.2.1).1
  have length : (before ++ names.take j).length = before.length + j := by
    rw [List.length_append, List.length_take, Nat.min_eq_left inside.le]
  rw [← length]
  refine bitIndex_of_last (split.trans ?_) last
  rw [List.append_assoc, ← cut]

end Numbers

section Command

/-- The parameters of a request about a bit. -/
def bitParameter (nodeId : BitVec 16) (reg bit : Byte) : Jsonrpcpp.Parameter :=
  .map [("bit_num", .ofByte bit), ("node_id", .ofUInt16 nodeId), ("reg", .ofByte reg)]

theorem bitParams_bitParameter (cast : FloatCast) (nodeId : BitVec 16) (reg bit : Byte) :
    API.bitParams cast (bitParameter nodeId reg bit) = .ok ((nodeId, reg), bit) := by
  have byte (b : Byte) : (b.setWidth 64).setWidth 8 = b := by
    rw [← BitVec.toNat_inj]
    simp
  have word : (nodeId.setWidth 64).setWidth 16 = nodeId := by
    rw [← BitVec.toNat_inj]
    simp
  change Except.ok ((((nodeId.setWidth 64).setWidth 16, (reg.setWidth 64).setWidth 8), (bit.setWidth 64).setWidth 8)) = _
  rw [byte, byte, word]

/-- A request about a bit gives one frame with its number to the bus, if the register takes it. -/
def SendsBit (handler : API.Handler) (type : H9Frame.FrameType) (m : NodeMgr) (nodeId : BitVec 16)
    (desc : RegisterDesc) (bit : Byte) : Prop :=
  ∀ env me id d, d.nodeMgr = m → ∃ frame : H9Frame,
    frame.type = type ∧ frame.data 0 = desc.number ∧ frame.data 1 = bit ∧
      ((handler env me id (bitParameter nodeId desc.number bit)).after d).port =
        d.port ++ if desc.writable = true ∧ desc.type ≠ "str" then [(frame, false)] else []

variable {m : NodeMgr} {id : Fin (H9Frame.ID_MAX_VALUE + 1)} {n : Node} {desc : RegisterDesc}

theorem port_orDevNodeError {α : Type} (rid : Jsonrpcpp.Id) (c : Call Port DevNodeException α) (d : Daemon) :
    ((API.orDevNodeError rid c).after d).port = c.after d.port := by
  change (Call.tryCatch _ _ d).2.port = _
  rw [Call.tryCatch, Call.outcome_on]
  cases c.outcome d.port <;> rfl

theorem after_withNode {α : Type} (found : m.nodes id = some n) (operation : Node → Call Port DevNodeException α)
    (port : Port) : (m.withNode (idOf id) operation).after port = (operation n).after port := by
  rw [NodeMgr.withNode, nodeAt_idOf, found]
  rfl

theorem after_bitOperation (env : Env) {reg : Byte} (known : n.registerMap reg = some desc)
    (request : RawNode.Request) (port : Port) :
    (n.bitOperation env reg fun length buf => RawNode.exchange env n.nodeId request
      (fun k => if length < k then length else k) buf).after port =
      port ++ if desc.writable = true ∧ desc.type ≠ "str" then [(n.requestFrame env request, false)] else [] := by
  rw [Node.bitOperation, known]
  dsimp only
  by_cases writable : desc.writable = true
  · by_cases text : desc.type = "str"
    · rw [if_pos writable, if_neg (not_not.mpr text), if_neg fun both => both.2 text, List.append_nil]
      rfl
    · rw [if_pos writable, if_pos text, if_pos ⟨writable, text⟩]
      exact (Node.bits_sends env n desc request).after port
  · rw [if_neg writable, if_neg fun both => writable both.1, List.append_nil]
    rfl

/-- Both requests about a bit only differ in the operation on the node. -/
theorem port_bitHandler (env : Env) (rid : Jsonrpcpp.Id) {d : Daemon} (found : d.nodeMgr.nodes id = some n)
    (operation : Node → Call Port DevNodeException RegValue) :
    ((Call.read Daemon.nodeMgr >>= fun m => API.orDevNodeError rid (m.withNode (idOf id) operation) >>= fun value =>
      pure (API.bitsJson env.cast value) : Call Daemon Exception Json).after d).port = (operation n).after d.port := by
  rw [Call.after_read_bind, Call.after_bind_pure, port_orDevNodeError, after_withNode found]

theorem sendsBit_set (found : m.nodes id = some n) (known : n.registerMap desc.number = some desc) (bit : Byte) :
    SendsBit API.setRegisterBit H9Frame.FrameType.SET_BIT m (idOf id) desc bit := by
  rintro env me rid d rfl
  refine ⟨n.requestFrame env (.setBit desc.number bit), rfl, rfl, rfl, ?_⟩
  rw [API.setRegisterBit, bitParams_bitParameter]
  exact (port_bitHandler env rid found _).trans (after_bitOperation env known (.setBit desc.number bit) d.port)

theorem sendsBit_clear (found : m.nodes id = some n) (known : n.registerMap desc.number = some desc) (bit : Byte) :
    SendsBit API.clearRegisterBit H9Frame.FrameType.CLEAR_BIT m (idOf id) desc bit := by
  rintro env me rid d rfl
  refine ⟨n.requestFrame env (.clearBit desc.number bit), rfl, rfl, rfl, ?_⟩
  rw [API.clearRegisterBit, bitParams_bitParameter]
  exact (port_bitHandler env rid found _).trans (after_bitOperation env known (.clearBit desc.number bit) d.port)

end Command

/-- The names of a list, as the answer about the registers has them, as the command line resolves them, and as
they are sent. -/
structure NumberedIn (m : NodeMgr) (nodeId : BitVec 16) (desc : RegisterDesc) (names : List String)
    (infos : List Json) (registers : CliCache.Registers) : Prop where
  answers : Answers m nodeId infos
  read : ∀ cast, CliCache.readRegisters cast infos = .ok registers.list
  listed : ∀ k (inside : k < names.length), ∃ reg ∈ registers.list,
    reg.number = desc.number ∧ reg.bitsNames[names.length - 1 - k]? = some names[k]
  resolved : ∀ c d d' k (inside : k < names.length), d.registers nodeId = some registers →
    ((CliCache.refreshRegister c d nodeId).getBitNumberByName d' nodeId desc.number names[k]).2.toNat =
      names.length - 1 - k
  sent : ∀ k < names.length,
    SendsBit API.setRegisterBit H9Frame.FrameType.SET_BIT m nodeId desc (BitVec.ofNat 8 (names.length - 1 - k)) ∧
      SendsBit API.clearRegisterBit H9Frame.FrameType.CLEAR_BIT m nodeId desc
        (BitVec.ofNat 8 (names.length - 1 - k))

/-- The name at the place `k` from the left has the number `n - 1 - k` all the way. -/
def Numbered (m : NodeMgr) (id : Fin (H9Frame.ID_MAX_VALUE + 1)) (reg : Byte) (names : List String) : Prop :=
  ∃ n desc infos registers, m.nodes id = some n ∧ n.registerMap reg = some desc ∧
    NumberedIn m (idOf id) desc names infos registers


section Resolve

variable {id : Fin (H9Frame.ID_MAX_VALUE + 1)} {n : Node} {desc : RegisterDesc}

/-- After a reply that lists the bit, no other reply is asked for. -/
theorem getBitNumberByName_of_known {c : CliCache} (d : CliCache.Daemon) {nodeId : BitVec 16} {reg number : Byte}
    {name : String} (known : c.bitNumber? nodeId reg name = some number) :
    (c.getBitNumberByName d nodeId reg name).2 = number := by
  have present' : c.nodeRegistriesBitsNameToNumber.entry Map.empty nodeId reg ≠ none :=
    Map.ne_none_of_entry known
  have present : c.nodeRegistriesBitsNameToNumber nodeId ≠ none := by
    obtain ⟨numbers, listed⟩ := Option.ne_none_iff_exists'.mp present'
    exact Map.ne_none_of_entry listed
  have asked : c.asked d (.getBitNumberByName nodeId reg name) = c := by
    rw [CliCache.asked, CliCache.Call.refreshes?, if_neg]
    simp [present, present']
  rw [CliCache.getBitNumberByName, asked, known]
  rfl

/-- The number of a bit after the reply about the registers of a node. -/
theorem resolved_eq (keyed : Keyed n) {reg : Byte} (known : n.registerMap reg = some desc) {name : String}
    {number : Byte} (index : (replied desc).bitIndex name = some number) (c : CliCache) (d d' : CliCache.Daemon)
    {nodeId : BitVec 16} (told : d.registers nodeId = some (registersOfNode n keyed)) :
    ((c.refreshRegister d nodeId).getBitNumberByName d' nodeId desc.number name).2 = number := by
  have reply : d.reply nodeId = n.getRegistersList.map replied := by
    rw [CliCache.Daemon.reply, told]
    rfl
  have member : replied desc ∈ n.getRegistersList.map replied :=
    List.mem_map_of_mem (mem_getRegistersList.mpr ⟨reg, known⟩)
  have listed : CliCache.bitOf (d.reply nodeId) desc.number name = some number := by
    have found := CliCache.find_number (distinct_getRegistersList keyed) member
    rw [CliCache.bitOf, reply]
    change (List.find? (fun other : CliCache.Register => other.number = (replied desc).number) _).bind _ = _
    rw [found]
    exact index
  have adds : CliCache.Adds (c.cleared d nodeId) nodeId (d.reply nodeId) (c.refreshRegister d nodeId) :=
    CliCache.adds_foldl _ _ (d.distinct_reply nodeId)
  apply getBitNumberByName_of_known
  rw [adds.bit, listed, Option.some_or]

end Resolve

section Exact

variable {m : NodeMgr} {id : Fin (H9Frame.ID_MAX_VALUE + 1)} {n : Node} {reg : Byte} {desc : RegisterDesc}
  {pushed names : List String}

theorem nodeId_bitParameter (cast : FloatCast) (nodeId : BitVec 16) (reg bit : Byte) :
    API.nodeId cast (bitParameter nodeId reg bit) = .ok nodeId := by
  have word : (nodeId.setWidth 64).setWidth 16 = nodeId := by
    rw [← BitVec.toNat_inj]
    simp
  exact congrArg Except.ok word

/-- There is one answer about a node, and one way to read it. -/
theorem registers_of_answers (found : m.nodes id = some n) {infos : List Json} {registers : CliCache.Registers}
    (answers : Answers m (idOf id) infos)
    (read : ∀ cast, CliCache.readRegisters cast infos = .ok registers.list) :
    registers.list = n.getRegistersList.map replied := by
  let d : Daemon := { Daemon.initial with nodeMgr := m }
  have params := nodeId_bitParameter default (idOf id) 0 0
  have one := answers default 0 .null _ d rfl params
  have other := answers_of_found found default 0 .null _ d rfl params
  obtain rfl : infos = n.getRegistersList.map API.registerInfo :=
    Json.array.inj (Outcome.value.inj (one.symm.trans other))
  exact Except.ok.inj ((read default).symm.trans (readRegisters_registerInfo default n.getRegistersList))

/-- The bits have their numbers exactly if what was pushed before them is as long as the numbers go round, and
begins with the same names. -/
theorem getElem_fromRight {names : List String} {k : ℕ} (inside : k < names.length) :
    ∃ inside' : names.length - 1 - k < names.reverse.length, names[k] = names.reverse[names.length - 1 - k] := by
  refine ⟨by rw [List.length_reverse]; omega, ?_⟩
  rw [List.getElem_reverse]
  congr 1
  omega

/-- The names that were pushed before move the numbers up. -/
theorem resolved_of_split (keyed : Keyed n) (known : n.registerMap reg = some desc)
    (split : desc.bitsNames = pushed ++ names.reverse) (distinct : names.Nodup) {k : ℕ} (inside : k < names.length)
    (c : CliCache) (d d' : CliCache.Daemon) {nodeId : BitVec 16}
    (told : d.registers nodeId = some (registersOfNode n keyed)) :
    ((c.refreshRegister d nodeId).getBitNumberByName d' nodeId desc.number names[k]).2.toNat =
      (pushed.length + (names.length - 1 - k)) % 256 := by
  obtain ⟨inside', same⟩ := getElem_fromRight inside
  have index : (replied desc).bitIndex names[k] =
      some (BitVec.ofNat 8 (pushed.length + (names.length - 1 - k))) := by
    rw [same]
    exact bitIndex_of_distinct split (List.nodup_reverse.mpr distinct) inside'
  rw [resolved_eq keyed known index c d d' told]
  rfl

/-- The answer has one register of the number. -/
theorem eq_replied (keyed : Keyed n) (known : n.registerMap reg = some desc) {other : CliCache.Register}
    (member : other ∈ (registersOfNode n keyed).list) (same : other.number = desc.number) : other = replied desc := by
  have listed : replied desc ∈ n.getRegistersList.map replied :=
    List.mem_map_of_mem (mem_getRegistersList.mpr ⟨reg, known⟩)
  have only := CliCache.find_number (distinct_getRegistersList keyed) listed
  have found := CliCache.find_number (distinct_getRegistersList keyed) member
  rw [same] at found
  exact Option.some.inj (found.symm.trans only)

theorem numbered_iff (found : m.nodes id = some n) (keyed : Keyed n) (known : n.registerMap reg = some desc)
    (split : desc.bitsNames = pushed ++ names.reverse) (distinct : names.Nodup) (few : names.length ≤ 256) :
    Numbered m id reg names ↔ names = [] ∨ (256 ∣ pushed.length ∧ names.reverse <+: pushed ++ names.reverse) := by
  have resolves {k : ℕ} (inside : k < names.length) :=
    resolved_of_split keyed known split distinct inside
  constructor
  · rintro ⟨n', desc', infos, registers, found', known', answers, read, listed, resolved, -⟩
    obtain rfl := Option.some.inj (found.symm.trans found')
    obtain rfl := Option.some.inj (known.symm.trans known')
    have list := registers_of_answers found answers read
    obtain rfl : registers = registersOfNode n keyed := by
      cases registers
      cases list
      rfl
    rcases Nat.eq_zero_or_pos names.length with none | some'
    · exact .inl (List.length_eq_zero_iff.mp none)
    refine .inr ⟨?_, List.prefix_iff_getElem?.mpr fun j inside => ?_⟩
    · -- the last name has the number 0
      let d : CliCache.Daemon := ⟨none, none, fun _ => some (registersOfNode n keyed), fun _ => none⟩
      have inside : names.length - 1 < names.length := by omega
      have last := resolved CliCache.new d d (names.length - 1) inside rfl
      rw [resolves inside CliCache.new d d rfl, Nat.sub_self, Nat.add_zero] at last
      exact Nat.dvd_of_mod_eq_zero last
    · rw [List.length_reverse] at inside
      have inside' : names.length - 1 - j < names.length := by omega
      obtain ⟨reg', member, same, listed⟩ := listed (names.length - 1 - j) inside'
      obtain rfl := eq_replied keyed known member same
      have back : names.length - 1 - (names.length - 1 - j) = j := by omega
      change desc.bitsNames[_]? = _ at listed
      rw [back, split] at listed
      rw [listed, List.getElem_reverse]
  · intro condition
    refine ⟨n, desc, _, registersOfNode n keyed, found, known, answers_of_found found,
      fun cast => readRegisters_registerInfo cast _, fun k inside => ?_, fun c d d' k inside told => ?_,
      fun k _ => ?_⟩
    · rcases condition with rfl | ⟨-, begins⟩
      · cases inside
      · obtain ⟨inside', same⟩ := getElem_fromRight inside
        refine ⟨replied desc, List.mem_map_of_mem (mem_getRegistersList.mpr ⟨reg, known⟩), rfl, ?_⟩
        change desc.bitsNames[_]? = _
        rw [split, List.prefix_iff_getElem?.mp begins _ inside', same]
    · rcases condition with rfl | ⟨⟨rounds, length⟩, -⟩
      · cases inside
      · rw [resolves inside c d d' told]
        omega
    · have number : desc.number = reg := keyed reg desc known
      rw [← number] at known
      exact ⟨sendsBit_set found known _, sendsBit_clear found known _⟩

end Exact

section Reloads

variable {std : StdRegisters} {sections : List NodeTypeSection} {type : BitVec 16} {reg : Byte} {r : RegisterSection}

/-- What the loader pushes for a register before the names of its last section. -/
def pushedBefore (sections : List NodeTypeSection) (type : BitVec 16) (reg : Byte) : List String :=
  (registerSections (typeSections sections type) reg).dropLast.flatMap fun r => r.bitsNames.reverse

/-- The table that a file gives. -/
def loaded (sections : List NodeTypeSection) : Types := fun type => extendType none (typeSections sections type)

theorem getNodeRegisterByType_loaded (sections : List NodeTypeSection) (type : BitVec 16) (reg : Byte) :
    getNodeRegisterByType (loaded sections) type reg =
      extend reg none (registerSections (typeSections sections type) reg) := by
  have registers := registers_extendType none (typeSections sections type) reg
  change _ = extend reg none _ at registers
  rw [← registers, getNodeRegisterByType, loaded]
  cases extendType none (typeSections sections type) <;> rfl

theorem number_of_extend {sections : List RegisterSection} {desc : RegisterDesc}
    (known : extend reg none sections = some desc) : desc.number = reg := by
  rw [extend, Option.or_none] at known
  obtain ⟨s, -, rfl⟩ := Option.map_eq_some_iff.mp known
  rfl

theorem keyed_of_registersOf {n : Node} (registers : n.registerMap = registersOf std (loaded sections) type) :
    Keyed n := by
  intro reg desc known
  rw [registers, registersOf, getNodeRegisterByType_loaded] at known
  rcases Option.or_eq_some_iff.mp known with own | ⟨-, standard⟩
  · exact number_of_extend own
  · have same := List.find?_some standard
    exact of_decide_eq_true same

/-- The register has the names of all its sections. -/
theorem registersOf_of_last (last : (registerSections (typeSections sections type) reg).getLast? = some r) :
    registersOf std (loaded sections) type reg =
      some (r.desc reg (pushedBefore sections type reg ++ r.bitsNames.reverse)) := by
  obtain ⟨before, split⟩ := List.getLast?_eq_some_iff.mp last
  rw [registersOf, getNodeRegisterByType_loaded, pushedBefore, split, extend_concat, List.dropLast_concat,
    Option.map_none, Option.getD_none, List.nil_append, List.flatMap_append, List.flatMap_singleton, Option.some_or]

/-- Updates of which the last reload reads this file. -/
structure ReadLast (std : StdRegisters) (sections : List NodeTypeSection) (m : NodeMgr) : Prop where
  titled : ∀ s ∈ sections, s.title ≠ 0
  reached : ∃ start earlier env, ∃ frames : List (Env × H9Frame), (updates std).Initial start ∧
    env.nodesFile = some sections ∧
      (updates std).run? start (earlier ++ .reload env :: frames.map fun (env, frame) => .frame env frame) = some m

variable {m : NodeMgr} {id : Fin (H9Frame.ID_MAX_VALUE + 1)} {n : Node}

theorem ReadLast.registered (read : ReadLast std sections m) :
    AllRegistered std m ∧ m.types = loaded sections := by
  obtain ⟨titled, start, earlier, env, frames, initial, file, run⟩ := read
  obtain ⟨before, ran, rest⟩ := run?_append_eq_some.mp run
  obtain ⟨middle, reloaded, rest⟩ := run?_cons_eq_some.mp rest
  have unseen : Unseen before := run_invariant Unseen (fun _ _ _ unseen step => unseen.step step)
    (unseen_initial initial) ran
  have types : middle.types = loaded sections := by
    obtain ⟨types, read, rfl⟩ := reload_inv reloaded
    rw [file] at read
    have complete : Complete (some sections) := (reload_returns DevNodeException _).mp (by rw [read]; trivial)
    exact Outcome.value.inj (read.symm.trans (reload_eq complete))
  have untyped : middle.types 0 = none := by
    have nothing : typeSections sections 0 = [] := by
      rw [typeSections, List.filter_eq_nil_iff]
      intro s member same
      exact titled s member (of_decide_eq_true same)
    rw [types, loaded, nothing]
    rfl
  obtain ⟨all, kept⟩ := registered_run (registered_reload unseen reloaded untyped) rest
  exact ⟨all, kept.trans types⟩

/-- A node has the register of the file, with what all its sections pushed. -/
theorem ReadLast.known (read : ReadLast std sections m) (found : m.nodes id = some n)
    (last : (registerSections (typeSections sections n.nodeType) reg).getLast? = some r) :
    Keyed n ∧
      n.registerMap reg = some (r.desc reg (pushedBefore sections n.nodeType reg ++ r.bitsNames.reverse)) := by
  obtain ⟨all, types⟩ := read.registered
  have listed : typeSections sections n.nodeType ≠ [] := by
    intro empty
    rw [empty] at last
    cases last
  have described : (m.types n.nodeType).isSome := by
    rw [types, loaded]
    rcases List.eq_nil_or_concat (typeSections sections n.nodeType) with nothing | ⟨others, s, split⟩
    · exact absurd nothing listed
    · rw [split, List.concat_eq_append, extendType_concat]
      rfl
  obtain ⟨registers, silent⟩ := all.nodes id n found
  have init : n.init = true := by
    by_contra unseen
    rw [silent (Bool.of_not_eq_true unseen), all.untyped] at described
    cases described
  have registers := registers init described
  rw [types] at registers
  refine ⟨keyed_of_registersOf registers, ?_⟩
  rw [registers, registersOf_of_last last]

/-- After any updates of which the last reload read a file, the bits of a register have the same numbers from the
file to the bus exactly if what its earlier sections pushed does not shift them. -/
theorem numbered_after_reloads_iff (read : ReadLast std sections m) (found : m.nodes id = some n)
    (last : (registerSections (typeSections sections n.nodeType) reg).getLast? = some r)
    (distinct : r.bitsNames.Nodup) (few : r.bitsNames.length ≤ 256) :
    Numbered m id reg r.bitsNames ↔ r.bitsNames = [] ∨
      (256 ∣ (pushedBefore sections n.nodeType reg).length ∧
        r.bitsNames.reverse <+: pushedBefore sections n.nodeType reg ++ r.bitsNames.reverse) := by
  obtain ⟨keyed, known⟩ := read.known found last
  exact numbered_iff found keyed known rfl distinct few

/-- The section of a register with these bits. -/
def flags (names : List String) : RegisterSection := ⟨10, some "FLAGS", some "bool", 2, true, true, names, ""⟩

/-- A file for type 5 whose register 10 has a section for each list. -/
def flagsFile (lists : List (List String)) : List NodeTypeSection := [⟨5, some "Switch", "", lists.map flags⟩]

/-- A node of type 5 announces itself after the file was read. -/
theorem readLast_flagsFile (lists : List (List String)) :
    ∃ m n, ReadLast default (flagsFile lists) m ∧ m.nodes ⟨7, by decide⟩ = some n ∧ n.nodeType = 5 := by
  let start : NodeMgr := ⟨fun _ => none, fun _ => none, []⟩
  let env : Env := { (default : Env) with nodesFile := some (flagsFile lists) }
  let announcement : H9Frame := { (default : Env).frameMemory with
    type := H9Frame.FrameType.NODE_INFO, sourceId := 7 }.setData [0, 5, 0, 0, 0, 0, 0, 0]
  have complete : Complete (some (flagsFile lists)) := by
    intro s member
    obtain rfl := List.mem_singleton.mp member
    refine ⟨rfl, fun r listed _ _ => ?_⟩
    obtain ⟨names, -, rfl⟩ := List.mem_map.mp listed
    exact ⟨rfl, rfl⟩
  obtain ⟨next, step⟩ : ∃ next, (updates default).step? start (.reload env) = some next := by
    refine ⟨{ start with types := loaded (flagsFile lists), nodes := fun _ => none }, ?_⟩
    dsimp only [updates, NodeMgr.step?, reloadNodesDescription]
    rw [reload_eq complete]
    rfl
  let m := next.handleFrame { (default : Env) with std := default } announcement
  refine ⟨m, { next.described { (default : Env) with std := default } announcement with lastSeenTime := _ },
    ⟨?_, start, [], env, [(default, announcement)], fun _ _ => nofun, rfl, ?_⟩, rfl, ?_⟩
  · intro s member
    obtain rfl := List.mem_singleton.mp member
    exact (by decide : (5 : BitVec 16) ≠ 0)
  · rw [List.nil_append, run?_cons, step]
    rfl
  · change (next.described { (default : Env) with std := default } announcement).nodeType = 5
    have announced : announces announcement = true := rfl
    rw [NodeMgr.described]
    dsimp only
    rw [if_pos announced, initAs_nodeType]
    change ((0 : Byte) ++ (5 : Byte) : BitVec 16) = 5
    decide

/-- One section. -/
theorem numbered_after_reload :
    ∃ m, ReadLast default (flagsFile [["Breaker", "Relay"]]) m ∧ Numbered m ⟨7, by decide⟩ 10 ["Breaker", "Relay"] := by
  obtain ⟨m, n, read, found, type⟩ := readLast_flagsFile [["Breaker", "Relay"]]
  have last : (registerSections (typeSections (flagsFile [["Breaker", "Relay"]]) n.nodeType) 10).getLast? =
      some (flags ["Breaker", "Relay"]) := by
    rw [type]
    rfl
  have pushed : pushedBefore (flagsFile [["Breaker", "Relay"]]) n.nodeType 10 = [] := by
    rw [type]
    rfl
  refine ⟨m, read, (numbered_after_reloads_iff read found last (by decide) (by decide)).mpr (.inr ?_)⟩
  rw [pushed]
  decide

/-- Two sections, with the titles `10` and `010`. -/
theorem not_numbered : ¬∀ std sections m id n reg r, ReadLast std sections m → m.nodes id = some n →
    (registerSections (typeSections sections n.nodeType) reg).getLast? = some r → r.bitsNames.Nodup →
      r.bitsNames.length ≤ 256 → Numbered m id reg r.bitsNames := by
  intro all
  obtain ⟨m, n, read, found, type⟩ := readLast_flagsFile [["Breaker"], ["Relay"]]
  have last : (registerSections (typeSections (flagsFile [["Breaker"], ["Relay"]]) n.nodeType) 10).getLast? =
      some (flags ["Relay"]) := by
    rw [type]
    rfl
  have pushed : pushedBefore (flagsFile [["Breaker"], ["Relay"]]) n.nodeType 10 = ["Breaker"] := by
    rw [type]
    rfl
  have numbered := all _ _ m _ n 10 _ read found last (by decide) (by decide)
  obtain ⟨keyed, known⟩ := read.known found last
  rw [numbered_iff found keyed known rfl (by decide) (by decide), pushed] at numbered
  revert numbered
  decide

end Reloads

end BitNumbers

end H9d
