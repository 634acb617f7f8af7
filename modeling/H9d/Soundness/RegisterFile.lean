import H9d.Model.RegisterFile
import H9d.Soundness.RegisterWrites

/-! # Registers are a file of numbers

The operations of a node, with the node at the other end of the bus, do to the registers what the
operations of the file do to its numbers: they return the same, and the bytes in the node are the numbers.
-/

namespace H9d

open Cxx H9Frame

namespace RegisterNode

variable {r : Register} {payload : List Byte}

theorem access_get (readable : r.readable = true) : access FrameType.GET_REG payload r = .ok r := by
  unfold access
  rw [if_pos rfl, if_pos readable]

theorem access_set (writable : r.writable = true) (length : payload.length = r.bytes.length) :
    access FrameType.SET_REG payload r = .ok { r with bytes := payload } := by
  unfold access
  rw [if_neg (by decide), if_neg (not_not_intro writable), if_pos rfl, if_pos length]

/-- The frame that writes a bit. -/
def bitType (on : Bool) : FrameType := if on then FrameType.SET_BIT else FrameType.CLEAR_BIT

theorem access_bit (on : Bool) {bit : Byte} (writable : r.writable = true)
    (inside : bit.toNat < 8 * r.bytes.length) :
    access (bitType on) [bit] r = .ok { r with bytes := Bytes.assignBit on bit.toNat r.bytes } := by
  have bits : bitType on = FrameType.SET_BIT ∨ bitType on = FrameType.CLEAR_BIT := by
    cases on <;> decide
  have kind : decide (bitType on = FrameType.SET_BIT) = on := by
    cases on <;> decide
  rw [access, if_neg (by cases on <;> decide), if_neg (not_not_intro writable),
    if_neg (by cases on <;> decide), if_pos bits, if_pos inside, kind]

/-- A node that computes its answers as described. -/
theorem onFrame_documented (nodeId : Byte) : Documented nodeId (onFrame nodeId) := by
  intro request mem reg payload bytes r listed held accepted short
  have short' : (reg :: bytes).length ≤ 8 := Nat.succ_le_succ short
  have ran : onFrame nodeId request mem =
      (answer nodeId request FrameType.REG_VALUE (reg :: bytes), Function.update mem reg (some { r with bytes })) := by
    rw [onFrame, listed]
    dsimp only
    rw [held]
    dsimp only
    rw [accepted]
  rw [ran]
  refine ⟨⟨rfl, rfl, rfl, ?_, ?_⟩, rfl⟩
  · change (BitVec.ofNat 8 (min (reg :: bytes).length 8)).toNat = _
    rw [BitVec.toNat_ofNat, min_eq_left short', Nat.mod_eq_of_lt (by omega), List.length_cons]
  · exact (H9Frame.listed_setData _ _).trans (List.take_of_length_le short')

end RegisterNode

namespace Node

/-- A register of which both ends know the length: its type is no text, it fits a frame, and its variable
has as many bytes as the register. -/
structure Regular (desc : RegisterDesc) : Prop where
  other : desc.type ≠ "str"
  positive : 0 < desc.size
  fits : desc.size ≤ 56
  aligned : desc.size ≤ 16 ∨ 24 < desc.size
  float : desc.type = "float" → desc.size = 32

theorem Regular.length {desc : RegisterDesc} (regular : Regular desc) : byteSize desc ≤ 7 := by
  have fits := regular.fits
  rw [byteSize]
  omega

theorem Regular.numberWidth_eq {desc : RegisterDesc} (regular : Regular desc) (narrow : desc.size ≤ 32) :
    numberWidth desc.size = some (byteSize desc) := by
  have aligned := regular.aligned
  have positive := regular.positive
  rw [Node.numberWidth_eq narrow, byteSize]
  congr 1
  split_ifs <;> omega

/-- An access to a register of which both ends know the length, for which the code is defined and which is about
a bit of the register. -/
def Admissible (n : Node) (a : RegisterAccess) : Prop :=
  ∀ desc, n.registerMap a.reg = some desc → Regular desc ∧
    match a.op with
    | .get => True
    | .set (.int _) => desc.size ≤ 30 ∨ 32 < desc.size
    | .set _ => True
    | .setBit bit | .clearBit bit => bit.toNat < 8 * byteSize desc

/-- The bytes in these registers of the node are the numbers of the file. -/
def Represents (n : Node) (mem : RegisterNode.Memory) (file : RegisterFile.File) : Prop :=
  ∀ reg desc, n.registerMap reg = some desc → Regular desc → file reg < 256 ^ byteSize desc ∧
    mem reg = some ⟨Bytes.ofValue (byteSize desc) (file reg), desc.readable, desc.writable⟩

section Echo

variable {reg : Byte} {res : H9Frame} {bytes : List Byte}

/-- The frame holds the number of the register and its bytes. -/
structure Holds (res : H9Frame) (reg : Byte) (bytes : List Byte) : Prop where
  listed : res.listed = reg :: bytes
  dlc : res.dlc.toNat = bytes.length + 1

theorem Holds.value (holds : Holds res reg bytes) :
    res.valueLength = bytes.length ∧ res.valueBytes.take bytes.length = bytes := by
  obtain ⟨listed, dlc⟩ := holds
  rw [H9Frame.listed, dlc] at listed
  constructor
  · rw [H9Frame.valueLength, dlc]
    rfl
  · rw [H9Frame.valueBytes, ← List.drop_one, List.take_drop, Nat.add_comm, listed]
    rfl

theorem Holds.first (holds : Holds res reg bytes) : res.data 0 = reg := by
  obtain ⟨listed, dlc⟩ := holds
  rw [H9Frame.listed, dlc, List.ofFn_succ, List.take_succ_cons] at listed
  exact (List.cons.inj listed).1

variable {size : ℕ} (holds : Holds res reg bytes) (length : bytes.length = size)

include holds length

theorem Holds.numberOf : numberOf size res = .value (Bytes.value bytes) := by
  subst length
  obtain ⟨counted, taken⟩ := holds.value
  rw [Node.numberOf, sized, if_pos counted, taken]
  rfl

theorem Holds.bytesOf (short : size ≤ 7) : bytesOf size res = .value (.bytes bytes) := by
  subst length
  obtain ⟨counted, taken⟩ := holds.value
  rw [Node.bytesOf, if_pos (by omega), sized, if_pos counted, taken]
  rfl

theorem Holds.bitsOf (short : size ≤ 7) : bitsOf size res = .value (.bytes bytes) := by
  subst length
  obtain ⟨counted, taken⟩ := holds.value
  rw [Node.bitsOf, if_pos ⟨counted.le, by omega⟩, counted, taken]

end Echo

section Perform

variable {n : Node} {program : RegisterNode.Program} {mem : RegisterNode.Memory} {a : RegisterAccess}

/-- A call that sends nothing does not reach the node. -/
theorem perform_silent {x : Outcome DevNodeException RegValue}
    (silent : Silent (a.op.call { a.env with reply := none } n a.reg) x) : n.perform program mem a = (x, mem) := by
  rw [perform, silent.after, silent.outcome]

/-- A request that the node accepts: its answer fulfils the promise, and the call computes with it. -/
theorem perform_sends (documented : RegisterNode.Documented n.nodeId program) {request : RawNode.Request} {payload bytes : List Byte}
    {value : H9Frame → Outcome DevNodeException RegValue} {zero : Outcome DevNodeException RegValue}
    {r : RegisterNode.Register} {type : FrameType}
    (sends : ∀ reply, Sends (a.op.call { a.env with reply } n a.reg) (n.requestFrame a.env request)
      (ofAnswer value zero (answer reply)))
    (frame : (n.requestFrame a.env request).type = type)
    (listed : (n.requestFrame a.env request).listed = a.reg :: payload) (held : mem a.reg = some r)
    (accepted : RegisterNode.access type payload r = .ok { r with bytes }) (some : 0 < bytes.length)
    (short : bytes.length ≤ 7) :
    ∃ res, Holds res a.reg bytes ∧
      n.perform program mem a = (value res, Function.update mem a.reg (Option.some { r with bytes })) := by
  let sent : H9Frame := { n.requestFrame a.env request with seqnum := a.env.seqnum, sourceId := a.hostId }
  have same : sent.listed = a.reg :: payload := listed
  have kind : sent.type = type := frame
  obtain ⟨reports, changed⟩ := documented sent mem a.reg payload bytes r same held (by rw [kind, accepted]) short
  let res := (program sent mem).1
  have holds : Holds res a.reg bytes := ⟨reports.listed, reports.dlc⟩
  have answered : 1 < res.dlc.toNat := by
    rw [holds.dlc]
    omega
  have fulfilled : n.fulfils a res = true := by
    rw [fulfils, RawNode.registerComparator_setSeqnum_eqFrame, RawNode.registerComparator_eqFrame]
    exact ⟨⟨reports.sourceId, .inl ⟨reports.type, by omega, holds.first⟩⟩, reports.seqnum⟩
  refine ⟨res, holds, ?_⟩
  rw [perform, (sends none).after]
  change ((a.op.call { a.env with reply := if n.fulfils a res then Option.some res else none } n a.reg).outcome
    [], (program sent mem).2) = _
  rw [if_pos fulfilled, (sends _).outcome, answer_value reports.type answered, changed]
  rfl

end Perform

/-- The call for a register that may be read. -/
theorem getRegister_regular {n : Node} {desc : RegisterDesc} (regular : Regular desc) (readable : desc.readable = true) (env : Env) {reg : Byte}
    (described : n.registerMap reg = some desc) : n.getRegister env reg =
      if desc.size = 32 then (do return RegValue.float (BitVec.ofNat 32 (← n.getNumber env reg 4)))
      else match numberWidth desc.size with
        | some width => (do return RegValue.int (BitVec.ofNat 64 (← n.getNumber env reg width)))
        | none => n.getBytes env reg desc := by
  rw [getRegister, described]
  dsimp only
  rw [if_pos readable]
  refine if_congr (and_iff_right regular.other) rfl ?_
  exact if_pos regular.other

section Step

variable {n : Node} {program : RegisterNode.Program} {mem : RegisterNode.Memory} {file : RegisterFile.File}
  {a : RegisterAccess} {desc : RegisterDesc}

theorem Represents.update (represents : Represents n mem file) {reg : Byte} {k : ℕ}
    (described : n.registerMap reg = some desc) (fits : k < 256 ^ byteSize desc) :
    Represents n (Function.update mem reg
      (some ⟨Bytes.ofValue (byteSize desc) k, desc.readable, desc.writable⟩)) (Function.update file reg k) := by
  intro reg' desc' described' regular
  rcases eq_or_ne reg' reg with rfl | apart
  · rw [described] at described'
    obtain rfl := Option.some.inj described'
    rw [Function.update_self, Function.update_self]
    exact ⟨fits, rfl⟩
  · rw [Function.update_of_ne apart, Function.update_of_ne apart]
    exact represents reg' desc' described' regular

/-- The operation returns what the file returns, and the node follows the file. -/
def Agrees (n : Node) (program : RegisterNode.Program) (mem : RegisterNode.Memory) (file : RegisterFile.File)
    (a : RegisterAccess) : Prop :=
  (n.perform program mem a).1 = (RegisterFile.step n file a).1 ∧
    Represents n (n.perform program mem a).2 (RegisterFile.step n file a).2

variable (represents : Represents n mem file) (described : n.registerMap a.reg = some desc)

include represents described

/-- A refusal before anything is sent. -/
theorem agrees_silent {x : Outcome DevNodeException RegValue}
    (silent : Silent (a.op.call { a.env with reply := none } n a.reg) x)
    (same : RegisterFile.apply desc a.reg a.op (file a.reg) = (x, file a.reg)) : Agrees n program mem file a := by
  rw [Agrees, perform_silent silent, RegisterFile.step, described]
  dsimp only
  rw [same]
  dsimp only
  rw [Function.update_eq_self]
  exact ⟨rfl, represents⟩

/-- Writing to a register that may not be written, or not with this value. -/
theorem agrees_set_refused {value : RegValue} (op : a.op = .set value) {e : DevNodeException}
    (silent : ∀ env, Silent (n.setRegister env a.reg value) (.throws e))
    (same : RegisterFile.apply desc a.reg (.set value) (file a.reg) = (.throws e, file a.reg)) :
    Agrees n program mem file a := by
  apply agrees_silent represents described
  · rw [op]
    exact silent _
  · rw [op]
    exact same

variable (documented : RegisterNode.Documented n.nodeId program)

include documented

/-- A request that the node accepts, and that leaves a number there. -/
theorem agrees_sends (regular : Regular desc) {request : RawNode.Request} {payload : List Byte} {k : ℕ}
    (value : H9Frame → Outcome DevNodeException RegValue) (zero : Outcome DevNodeException RegValue)
    {x : RegValue}
    (sends : ∀ reply, Sends (a.op.call { a.env with reply } n a.reg) (n.requestFrame a.env request)
      (ofAnswer value zero (answer reply)))
    {type : FrameType} (frame : (n.requestFrame a.env request).type = type)
    (listed : (n.requestFrame a.env request).listed = a.reg :: payload)
    (accepted : RegisterNode.access type payload
        ⟨Bytes.ofValue (byteSize desc) (file a.reg), desc.readable, desc.writable⟩ =
      .ok ⟨Bytes.ofValue (byteSize desc) k, desc.readable, desc.writable⟩)
    (fits : k < 256 ^ byteSize desc)
    (computed : ∀ res, Holds res a.reg (Bytes.ofValue (byteSize desc) k) → value res = .value x)
    (same : RegisterFile.apply desc a.reg a.op (file a.reg) = (.value x, k)) : Agrees n program mem file a := by
  obtain ⟨-, held⟩ := represents a.reg desc described regular
  have length : (Bytes.ofValue (byteSize desc) k).length = byteSize desc := Bytes.length_ofValue _ _
  have positive := regular.positive
  have some : 0 < byteSize desc := by
    rw [byteSize]
    omega
  obtain ⟨res, holds, performed⟩ := perform_sends documented sends frame listed held accepted (by omega)
    (length.le.trans regular.length)
  rw [Agrees, performed, RegisterFile.step, described]
  dsimp only
  rw [same, computed res holds]
  exact ⟨rfl, represents.update described fits⟩

/-- A read of a register with a variable for its number. -/
theorem agrees_getNumber (regular : Regular desc) (op : a.op = .get) (readable : desc.readable = true)
    (narrow : desc.size ≤ 32) : Agrees n program mem file a := by
  obtain ⟨fits, -⟩ := represents a.reg desc described regular
  have number := regular.numberWidth_eq narrow
  have small := (numberWidth_bounds number).2
  have value := Bytes.value_ofValue_of_lt fits
  have listed : (n.requestFrame a.env (.getReg a.reg)).listed = [a.reg] := H9Frame.listed_setData _ _
  -- the variable for 32 bits is a float
  let shown (val : ℕ) : RegValue :=
    if desc.size = 32 then .float (BitVec.ofNat 32 val) else .int (BitVec.ofNat 64 val)
  have view : RegisterFile.view desc (file a.reg) = shown (file a.reg) := by
    rcases eq_or_ne desc.size 32 with word | other
    · simp only [RegisterFile.view, shown, if_pos word]
    · simp only [RegisterFile.view, shown, if_neg other, if_pos (lt_of_le_of_ne narrow other)]
  have call (env : Env) : a.op.call env n a.reg =
      (do return shown (← n.getNumber env a.reg (byteSize desc))) := by
    rw [op, RegisterOp.call, getRegister_regular regular readable env described, number]
    rcases eq_or_ne desc.size 32 with word | other
    · have four : byteSize desc = 4 := by rw [byteSize, word]
      simp only [shown, if_pos word, four]
    · simp only [shown, if_neg other]
  refine agrees_sends represents described documented regular
    (fun res => do return shown (← numberOf (byteSize desc) res))
    (do
      let val ← (do sized 0 (byteSize desc); return RawNode.ofBigEndian (a.env.buffer (byteSize desc)))
      return shown val) (x := RegisterFile.view desc (file a.reg)) (fun reply => ?_) rfl listed
    (RegisterNode.access_get readable) fits (fun res holds => ?_) ?_
  · have read := (getNumber_sends { a.env with reply } n a.reg small).bind fun val => Silent.pure (shown val)
    rw [ofAnswer_bind] at read
    rw [call]
    exact read
  · rw [holds.numberOf (Bytes.length_ofValue _ _), value, view]
    rfl
  · rw [op, RegisterFile.apply, if_pos readable]

theorem agrees_get (regular : Regular desc) (op : a.op = .get) : Agrees n program mem file a := by
  cases readable : desc.readable with
  | false =>
    apply agrees_silent represents described (x := .throws (.registerNotReadableException a.reg))
    · rw [op, RegisterOp.call, getRegister, described]
      dsimp only
      rw [if_neg (by rw [readable]; decide)]
      exact Silent.throw _
    · rw [op, RegisterFile.apply, if_neg (by rw [readable]; decide)]
  | true =>
    rcases Nat.lt_or_ge 32 desc.size with wide | narrow
    · obtain ⟨fits, -⟩ := represents a.reg desc described regular
      have view : RegisterFile.view desc (file a.reg) =
          .bytes (Bytes.ofValue (byteSize desc) (file a.reg)) := by
        rw [RegisterFile.view, if_neg wide.ne', if_neg wide.not_gt]
      have listed : (n.requestFrame a.env (.getReg a.reg)).listed = [a.reg] := H9Frame.listed_setData _ _
      refine agrees_sends represents described documented regular (bytesOf (byteSize desc))
        (do sized 0 (byteSize desc); vector (a.env.buffer (byteSize desc)) 0)
        (x := RegisterFile.view desc (file a.reg)) (fun reply => ?_) rfl listed
        (RegisterNode.access_get readable) fits (fun res holds => ?_) ?_
      · rw [op, RegisterOp.call, getRegister_regular regular readable _ described, if_neg wide.ne',
          numberWidth_eq_none.mpr wide]
        exact getBytes_sends { a.env with reply } n a.reg desc
      · rw [holds.bytesOf (Bytes.length_ofValue _ _) regular.length, view]
      · rw [op, RegisterFile.apply, if_pos readable]
    · exact agrees_getNumber represents described documented regular op readable narrow

/-- Writing. -/
theorem agrees_set (regular : Regular desc) {value : RegValue} (op : a.op = .set value)
    (writable : desc.writable = true) {bytes : List Byte} {k : ℕ}
    (number : RegisterFile.number? desc value = some k) (digits : bytes = Bytes.ofValue (byteSize desc) k)
    (fits : k < 256 ^ byteSize desc)
    (shown : H9Frame → Outcome DevNodeException RegValue) (zero : Outcome DevNodeException RegValue)
    (sends : ∀ reply, Sends (n.setRegister { a.env with reply } a.reg value)
      (n.requestFrame a.env (.setReg a.reg bytes)) (ofAnswer shown zero (answer reply)))
    (computed : ∀ res, Holds res a.reg bytes → shown res = .value (RegisterFile.written k value)) :
    Agrees n program mem file a := by
  have length : bytes.length = byteSize desc := by rw [digits, Bytes.length_ofValue]
  have short := regular.length
  refine agrees_sends represents described documented regular shown zero (fun reply => ?_) rfl
    (writesFrame a.env n a.reg bytes (by omega)).listed ?_ fits
    (fun res holds => computed res (digits ▸ holds)) ?_
  · rw [op]
    exact sends reply
  · refine (RegisterNode.access_set writable ?_).trans ?_
    · rw [length, Bytes.length_ofValue]
    · rw [digits]
  · rw [op, RegisterFile.apply, if_pos writable, number]

theorem agrees_set_int (regular : Regular desc) {v : BitVec 64} (op : a.op = .set (.int v))
    (writable : desc.writable = true) (small : desc.size ≤ 30) : Agrees n program mem file a := by
  have number := regular.numberWidth_eq (small.trans (by decide))
  have below : v.toNat % 2 ^ desc.size < 256 ^ byteSize desc := by
    have room : 256 ^ byteSize desc = 2 ^ (8 * byteSize desc) := by rw [Nat.pow_mul]
    rw [room]
    apply (Nat.mod_lt _ (Nat.two_pow_pos _)).trans_le
    exact Nat.pow_le_pow_right (by decide) (size_le_width number)
  have digits : intBytes desc.size (byteSize desc) v =
      Bytes.ofValue (byteSize desc) (v.toNat % 2 ^ desc.size) := by
    rw [intBytes, RawNode.toBigEndian_eq, toNat_masked small]
  have taken : RegisterFile.number? desc (.int v) = some (v.toNat % 2 ^ desc.size) :=
    if_pos (show desc.size < 32 by omega)
  refine agrees_set represents described documented regular op writable taken digits below
    (fun res => do return .int (BitVec.ofNat 64 (← numberOf (byteSize desc) res)))
    (do
      sized 0 (byteSize desc)
      return .int (BitVec.ofNat 64 (RawNode.ofBigEndian (a.env.buffer (byteSize desc)))))
    (fun reply => ?_) fun res holds => ?_
  · exact setRegister_int_sends { a.env with reply } n a.reg described writable regular.other v number small
  rw [holds.numberOf (by rw [digits, Bytes.length_ofValue]), digits, Bytes.value_ofValue_of_lt below]
  rfl

theorem agrees_set_float (regular : Regular desc) {x : BitVec 32} (op : a.op = .set (.float x))
    (writable : desc.writable = true) (float : desc.type = "float") : Agrees n program mem file a := by
  have four : byteSize desc = 4 := by rw [byteSize, regular.float float]
  have below : x.toNat < 256 ^ byteSize desc := by
    rw [four]
    exact x.isLt
  have digits : RawNode.toBigEndian 4 (x.setWidth 64) = Bytes.ofValue (byteSize desc) x.toNat := by
    have bound := x.isLt
    rw [RawNode.toBigEndian_eq, four, BitVec.toNat_setWidth, Nat.mod_eq_of_lt (by omega)]
  have taken : RegisterFile.number? desc (.float x) = some x.toNat := if_pos float
  have sends (reply : Option H9Frame) := setFloat_sends { a.env with reply } n a.reg x
  refine agrees_set represents described documented regular op writable taken digits below
    (fun res => do return .float (BitVec.ofNat 32 (← numberOf 4 res)))
    (do
      sized 0 4
      return .float (BitVec.ofNat 32 (RawNode.ofBigEndian (a.env.buffer 4)))) (fun reply => ?_)
    fun res holds => ?_
  · rw [setRegister_float _ n a.reg described writable, if_pos float]
    exact sends reply
  · rw [holds.numberOf (by rw [length_toBigEndian]), digits, Bytes.value_ofValue_of_lt below]
    simp [RegisterFile.written]

theorem agrees_set_bytes (regular : Regular desc) {v : List Byte} (op : a.op = .set (.bytes v))
    (writable : desc.writable = true) (whole : byteSize desc = v.length) : Agrees n program mem file a := by
  have below : Bytes.value v < 256 ^ byteSize desc := by
    rw [whole]
    exact Bytes.value_lt v
  have digits : v = Bytes.ofValue (byteSize desc) (Bytes.value v) := by
    rw [whole, Bytes.ofValue_value]
  have taken : RegisterFile.number? desc (.bytes v) = some (Bytes.value v) := if_pos whole
  have short := regular.length
  refine agrees_set represents described documented regular op writable taken digits below (bytesOf v.length)
    (do sized 0 v.length; vector (a.env.buffer v.length) 0) (fun reply => ?_) fun res holds => ?_
  · rw [setRegister_bytes _ n a.reg described writable]
    exact setBytes_sends { a.env with reply } n a.reg desc v whole
  · exact holds.bytesOf rfl (by omega)

/-- Every write is taken or refused. -/
theorem agrees_write (regular : Regular desc) {value : RegValue} (op : a.op = .set value)
    (admissible : ∀ v, value = .int v → desc.size ≤ 30 ∨ 32 < desc.size) : Agrees n program mem file a := by
  cases writable : desc.writable with
  | false =>
    apply agrees_set_refused represents described op (e := .registerNotWritableException a.reg)
    · intro env
      rw [setRegister, described]
      dsimp only
      rw [if_neg (by rw [writable]; decide)]
      exact Silent.throw _
    · rw [RegisterFile.apply, if_neg (by rw [writable]; decide)]
  | true =>
    have refused (none : RegisterFile.number? desc value = .none) :
        RegisterFile.apply desc a.reg (.set value) (file a.reg) =
          (.throws (.unsupportedRegisterDataConversionException a.reg), file a.reg) := by
      rw [RegisterFile.apply, if_pos writable, none]
    cases value with
    | int v =>
      rcases admissible v rfl with small | wide
      · exact agrees_set_int represents described documented regular op writable small
      · apply agrees_set_refused represents described op _ (refused (if_neg (by omega)))
        intro env
        rw [setRegister_int env n a.reg described writable, if_pos regular.other]
        exact setInt_refused env n a.reg wide v
    | float x =>
      rcases Classical.em (desc.type = "float") with float | other
      · exact agrees_set_float represents described documented regular op writable float
      · apply agrees_set_refused represents described op _ (refused (if_neg other))
        intro env
        rw [setRegister_float env n a.reg described writable, if_neg other]
        exact Silent.throw _
    | string v =>
      apply agrees_set_refused represents described op _ (refused rfl)
      intro env
      rw [setRegister_string env n a.reg described writable, if_neg regular.other]
      exact Silent.throw _
    | bytes v =>
      rcases eq_or_ne (byteSize desc) v.length with whole | other
      · exact agrees_set_bytes represents described documented regular op writable whole
      · apply agrees_set_refused represents described op _ (refused (if_neg other))
        intro env
        rw [setRegister_bytes env n a.reg described writable, setBytes, if_neg other]
        exact Silent.throw _

/-- The two bit operations. -/
theorem agrees_bit (regular : Regular desc) (on : Bool) {bit : Byte} {request : RawNode.Request}
    (call : ∀ env, a.op.call env n a.reg = n.bitOperation env a.reg fun length buf =>
      RawNode.exchange env n.nodeId request (fun k => if length < k then length else k) buf)
    (frame : (n.requestFrame a.env request).type = RegisterNode.bitType on)
    (listed : (n.requestFrame a.env request).listed = [a.reg, bit])
    (inside : bit.toNat < 8 * byteSize desc)
    (same : RegisterFile.apply desc a.reg a.op (file a.reg) =
      RegisterFile.apply.change desc a.reg (file a.reg) on bit) : Agrees n program mem file a := by
  obtain ⟨fits, -⟩ := represents a.reg desc described regular
  cases writable : desc.writable with
  | false =>
    apply agrees_silent represents described (x := .throws (.registerNotWritableException a.reg))
    · rw [call, bitOperation, described]
      dsimp only
      rw [if_neg (by rw [writable]; decide)]
      exact Silent.throw _
    · rw [same, RegisterFile.apply.change, if_neg (by rw [writable]; decide)]
  | true =>
    have assigned := Bytes.assignBit_ofValue on inside fits
    refine agrees_sends represents described documented regular (bitsOf (byteSize desc))
      (vector (a.env.buffer (byteSize desc)) 0) (fun reply => ?_) frame listed ?_
      (Bytes.assign_lt on inside fits)
      (fun res holds => holds.bitsOf (Bytes.length_ofValue _ _) regular.length) ?_
    · rw [call, bitOperation, described]
      dsimp only
      rw [if_pos writable, if_pos regular.other]
      exact bits_sends { a.env with reply } n desc request
    · rw [← assigned]
      exact RegisterNode.access_bit on writable (by rwa [Bytes.length_ofValue])
    · rw [same, RegisterFile.apply.change, if_pos writable]

end Step

/-- One operation. -/
theorem agrees {n : Node} {program : RegisterNode.Program} {mem : RegisterNode.Memory}
    {file : RegisterFile.File} {a : RegisterAccess} (documented : RegisterNode.Documented n.nodeId program)
    (represents : Represents n mem file) (admissible : n.Admissible a) : Agrees n program mem file a := by
  cases described : n.registerMap a.reg with
  | none =>
    have silent (env : Env) : Silent (a.op.call env n a.reg) (.throws (.registerNotExistException a.reg)) := by
      cases op : a.op with
      | get =>
        rw [RegisterOp.call, getRegister, described]
        exact Silent.throw _
      | set value =>
        rw [RegisterOp.call, setRegister, described]
        exact Silent.throw _
      | setBit bit =>
        rw [RegisterOp.call, setRegisterBit, bitOperation, described]
        exact Silent.throw _
      | clearBit bit =>
        rw [RegisterOp.call, clearRegisterBit, bitOperation, described]
        exact Silent.throw _
    rw [Agrees, perform_silent (silent _), RegisterFile.step, described]
    exact ⟨rfl, represents⟩
  | some desc =>
    obtain ⟨known, defined⟩ := admissible desc described
    have bitFrame (on : Bool) (bit : Byte) :
        (n.requestFrame a.env (if on then .setBit a.reg bit else .clearBit a.reg bit)).listed = [a.reg, bit] := by
      cases on <;> exact H9Frame.listed_setData _ _
    cases op : a.op with
    | get => exact agrees_get represents described documented known op
    | set value =>
      rw [op] at defined
      apply agrees_write represents described documented known op
      rintro v rfl
      exact defined
    | setBit bit =>
      rw [op] at defined
      apply agrees_bit represents described documented known true _ rfl (bitFrame true bit) defined
      · rw [op]
        rfl
      · intro env
        rw [op]
        rfl
    | clearBit bit =>
      rw [op] at defined
      apply agrees_bit represents described documented known false _ rfl (bitFrame false bit) defined
      · rw [op]
        rfl
      · intro env
        rw [op]
        rfl

/-- Operations on registers do to a node what they do to a file of numbers, in any order and on any of
them. -/
theorem performAll_refines_file {n : Node} {program : RegisterNode.Program} {mem : RegisterNode.Memory}
    {file : RegisterFile.File} {accesses : List RegisterAccess}
    (documented : RegisterNode.Documented n.nodeId program)
    (represents : Represents n mem file) (admissible : ∀ a ∈ accesses, n.Admissible a) :
    (n.performAll program mem accesses).1 = (RegisterFile.stepAll n file accesses).1 ∧
      Represents n (n.performAll program mem accesses).2 (RegisterFile.stepAll n file accesses).2 := by
  induction accesses generalizing mem file with
  | nil => exact ⟨rfl, represents⟩
  | cons a later ih =>
    obtain ⟨outcome, follows⟩ := agrees documented represents (admissible a List.mem_cons_self)
    obtain ⟨outcomes, rest⟩ := ih follows fun b among => admissible b (List.mem_cons_of_mem a among)
    exact ⟨congrArg₂ List.cons outcome outcomes, rest⟩

theorem regular_twelveBits : Regular (writableRegister "uint" 12) :=
  ⟨by decide, by decide, by decide, .inl (by decide), fun float => absurd float (by decide)⟩

/-- A register of twelve bits is written, a bit of it is set, and it is read. -/
theorem performAll_refines_file_twelveBits :
    let n := oneRegister 11 (writableRegister "uint" 12)
    let access (op : RegisterOp) : RegisterAccess := ⟨default, 3, 0, 11, op⟩
    let mem : RegisterNode.Memory := fun r => if r = 11 then some ⟨[0, 0], true, true⟩ else none
    (n.performAll (RegisterNode.onFrame n.nodeId) mem [access (.set (.int 0x12345)), access (.setBit 4), access .get]).1 =
      [.value (.int 0x345), .value (.bytes [0x03, 0x55]), .value (.int 0x355)] := by
  intro n access mem
  have only (reg : Byte) (desc : RegisterDesc) (described : n.registerMap reg = some desc) :
      reg = 11 ∧ desc = writableRegister "uint" 12 := by
    change (if reg = 11 then some (writableRegister "uint" 12) else none) = some desc at described
    split at described
    · next same => exact ⟨same, (Option.some.inj described).symm⟩
    · cases described
  have represents : Represents n mem fun _ => 0 := by
    intro reg desc described regular
    obtain ⟨rfl, rfl⟩ := only reg desc described
    exact ⟨by decide, rfl⟩
  have admissible : ∀ a ∈ [access (.set (.int 0x12345)), access (.setBit 4), access .get],
      n.Admissible a := by
    intro a among desc described
    obtain ⟨-, rfl⟩ := only a.reg desc described
    simp only [List.mem_cons, List.not_mem_nil, or_false] at among
    refine ⟨regular_twelveBits, ?_⟩
    obtain rfl | rfl | rfl := among
    · exact .inl (by decide)
    · change (4 : Byte).toNat < 8 * byteSize (writableRegister "uint" 12)
      decide
    · trivial
  exact (performAll_refines_file (RegisterNode.onFrame_documented _) represents admissible).1.trans (by decide)

end Node

end H9d
