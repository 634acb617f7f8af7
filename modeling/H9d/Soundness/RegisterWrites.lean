import H9d.Core.BigEndian
import H9d.Soundness.FrameCodec
import H9d.Soundness.RegisterReplies

/-! # What is written to a register

A value is turned into bytes in a way that depends on its own kind, on the type of the register and on
its size, and the bytes go behind the number of the register into one frame of eight.
-/

namespace H9d

open Cxx H9Frame

namespace RawNode

theorem toBigEndian_eq (width : ℕ) (v : BitVec 64) : toBigEndian width v = Bytes.ofValue width v.toNat := by
  induction width with
  | zero => rfl
  | succ width ih =>
    have digit : (v >>> (8 * width)).setWidth 8 = BitVec.ofNat 8 (v.toNat / 256 ^ width) := by
      apply BitVec.eq_of_toNat_eq
      rw [BitVec.toNat_setWidth, BitVec.toNat_ushiftRight, BitVec.toNat_ofNat, Nat.shiftRight_eq_div_pow,
        Nat.pow_mul]
    rw [Bytes.ofValue, ← ih, ← digit, toBigEndian, List.range_succ, List.reverse_append, toBigEndian]
    rfl

theorem ofBigEndian_toBigEndian (width : ℕ) (v : BitVec 64) :
    ofBigEndian (toBigEndian width v) = v.toNat % 256 ^ width := by
  rw [toBigEndian_eq]
  exact Bytes.value_ofValue width v.toNat

end RawNode

namespace Node

variable (env : Env) (n : Node) (reg : Byte) {desc : RegisterDesc}

/-! ## Which branch is taken -/

section Branches

variable (described : n.registerMap reg = some desc) (writable : desc.writable = true)

include described writable

theorem setRegister_int (v : BitVec 64) :
    n.setRegister env reg (.int v) = if desc.type ≠ "str" then n.setInt env reg desc v
      else Call.throw (.unsupportedRegisterDataConversionException reg) := by
  rw [setRegister, described]
  exact if_pos writable

theorem setRegister_float (v : BitVec 32) :
    n.setRegister env reg (.float v) = if desc.type = "float" then n.setFloat env reg v
      else Call.throw (.unsupportedRegisterDataConversionException reg) := by
  rw [setRegister, described]
  exact if_pos writable

theorem setRegister_string (v : String) :
    n.setRegister env reg (.string v) = if desc.type = "str" then n.setString env reg desc v
      else Call.throw (.unsupportedRegisterDataConversionException reg) := by
  rw [setRegister, described]
  exact if_pos writable

theorem setRegister_bytes (v : List Byte) :
    n.setRegister env reg (.bytes v) = n.setBytes env reg desc v := by
  rw [setRegister, described]
  exact if_pos writable

end Branches

/-! ## Integers -/

/-- The bytes that an integer is sent as. -/
def intBytes (size width : ℕ) (v : BitVec 64) : List Byte :=
  RawNode.toBigEndian width (v &&& BitVec.ofNat 64 (2 ^ size - 1))

theorem toNat_masked {size : ℕ} (small : size ≤ 30) (v : BitVec 64) :
    (v &&& BitVec.ofNat 64 (2 ^ size - 1)).toNat = v.toNat % 2 ^ size := by
  have bound : 2 ^ size ≤ 2 ^ 30 := Nat.pow_le_pow_right (by omega) small
  have positive : 0 < 2 ^ size := Nat.two_pow_pos size
  rw [BitVec.toNat_and, BitVec.toNat_ofNat, Nat.mod_eq_of_lt (by omega), Nat.and_two_pow_sub_one_eq_mod]

/-- The remainder of a signed number is that of its bits. -/
theorem toInt_emod {size : ℕ} (small : size ≤ 64) (v : BitVec 64) :
    v.toInt % 2 ^ size = ((v.toNat % 2 ^ size : ℕ) : ℤ) := by
  have divides : ((2 : ℤ) ^ size) ∣ ((2 ^ 64 : ℕ) : ℤ) := by
    rw [Int.natCast_pow]
    exact pow_dvd_pow 2 small
  calc
    v.toInt % 2 ^ size = v.toInt % ((2 ^ 64 : ℕ) : ℤ) % 2 ^ size := (Int.emod_emod_of_dvd _ divides).symm
    _ = (v.toNat : ℤ) % ((2 ^ 64 : ℕ) : ℤ) % 2 ^ size := by rw [BitVec.toInt_eq_toNat_bmod, Int.bmod_emod]
    _ = (v.toNat : ℤ) % 2 ^ size := Int.emod_emod_of_dvd _ divides
    _ = _ := by rw [Int.natCast_emod, Int.natCast_pow, Nat.cast_ofNat]

theorem numberWidth_eq {size : ℕ} (bounded : size ≤ 32) :
    numberWidth size = some (if size ≤ 8 then 1 else if size ≤ 16 then 2 else 4) := by
  rw [numberWidth]
  split_ifs <;> rfl

theorem size_le_width {size width : ℕ} (number : numberWidth size = some width) : size ≤ 8 * width := by
  revert number
  rw [numberWidth]
  split_ifs <;> rintro ⟨⟩ <;> omega

/-- What is sent is the remainder, whatever the width. -/
theorem value_intBytes {size width : ℕ} (number : numberWidth size = some width) (small : size ≤ 30)
    (v : BitVec 64) : RawNode.ofBigEndian (intBytes size width v) = v.toNat % 2 ^ size := by
  have below : v.toNat % 2 ^ size < 2 ^ size := Nat.mod_lt _ (Nat.two_pow_pos size)
  have room : 2 ^ size ≤ 256 ^ width := by
    change 2 ^ size ≤ (2 ^ 8) ^ width
    rw [← Nat.pow_mul]
    exact Nat.pow_le_pow_right (by omega) (size_le_width number)
  rw [intBytes, RawNode.ofBigEndian_toBigEndian, toNat_masked small, Nat.mod_eq_of_lt (by omega)]

theorem ofAnswer_bind {α β : Type} (value : H9Frame → Outcome DevNodeException α)
    (zero : Outcome DevNodeException α) (f : α → Outcome DevNodeException β) (a : Answer) :
    ofAnswer value zero a >>= f = ofAnswer (fun res => value res >>= f) (zero >>= f) a := by
  cases a with
  | timeout => rfl
  | value res => rfl
  | refused code => rw [ofAnswer, ofAnswer]; split <;> rfl
  | malformed => rfl

theorem setInt_sends {width : ℕ} (number : numberWidth desc.size = some width) (small : desc.size ≤ 30)
    (v : BitVec 64) :
    Sends (n.setInt env reg desc v) (n.requestFrame env (.setReg reg (intBytes desc.size width v)))
      (ofAnswer (fun res => do return .int (BitVec.ofNat 64 (← numberOf width res)))
        (do
          sized 0 width
          return .int (BitVec.ofNat 64 (RawNode.ofBigEndian (env.buffer width))))
        (answer env.reply)) := by
  have width_le := (numberWidth_bounds number).2
  have sent := (setNumber_sends env n reg width_le (v &&& BitVec.ofNat 64 (2 ^ desc.size - 1))).bind
    fun val => Silent.pure (RegValue.int (BitVec.ofNat 64 val))
  rw [ofAnswer_bind] at sent
  simp only [bind_assoc, pure_bind] at sent
  rw [setInt, number]
  dsimp only
  rw [maskTo, if_pos small]
  exact sent

theorem setInt_undefined (large : 30 < desc.size) (bounded : desc.size ≤ 32) (v : BitVec 64) :
    Silent (n.setInt env reg desc v) .undefined := by
  rw [setInt, numberWidth_eq bounded]
  dsimp only
  rw [maskTo, if_neg (by omega)]
  exact fun _ => rfl

theorem setInt_refused (large : 32 < desc.size) (v : BitVec 64) :
    Silent (n.setInt env reg desc v) (.throws (.unsupportedRegisterDataConversionException reg)) := by
  rw [setInt, numberWidth_eq_none.mpr large]
  exact Silent.throw _

/-- The frame that writes these bytes to the register. -/
structure WritesFrame (n : Node) (reg : Byte) (bytes : List Byte) (frame : H9Frame) : Prop where
  type : frame.type = FrameType.SET_REG
  destinationId : frame.destinationId = n.nodeId
  listed : frame.listed = reg :: bytes

theorem writesFrame (bytes : List Byte) (fits : bytes.length ≤ 7) :
    n.WritesFrame reg bytes (n.requestFrame env (.setReg reg bytes)) where
  type := rfl
  destinationId := rfl
  listed := by
    change (H9Frame.setData _ (reg :: bytes)).listed = _
    rw [H9Frame.listed_setData, List.take_of_length_le]
    rw [List.length_cons]
    omega

/-- An answer that echoes the bytes has them as its value. -/
theorem numberOf_echo {res : H9Frame} {bytes : List Byte} (short : bytes.length ≤ 4)
    (echo : res.listed = reg :: bytes) :
    res.valueLength = bytes.length ∧ numberOf bytes.length res = .value (RawNode.ofBigEndian bytes) := by
  have counted := congrArg List.length echo
  rw [H9Frame.listed, List.length_take, List.length_ofFn, List.length_cons] at counted
  have length : res.dlc.toNat = bytes.length + 1 := by omega
  have same : res.valueLength = bytes.length := by
    rw [H9Frame.valueLength]
    omega
  have taken : res.valueBytes.take bytes.length = bytes := by
    rw [H9Frame.listed, length] at echo
    rw [H9Frame.valueBytes, ← List.drop_one, List.take_drop, Nat.add_comm, echo]
    rfl
  refine ⟨same, ?_⟩
  rw [numberOf, sized, if_pos same, taken]
  rfl

/-- An integer is written to a register of `size` bits: one frame carries its remainder, most significant
byte first, and an echo of these bytes returns it. -/
structure WritesInteger (env : Env) (n : Node) (reg : Byte) (size : ℕ) (v : BitVec 64)
    (bytes : List Byte) : Prop where
  width : bytes.length = if size ≤ 8 then 1 else if size ≤ 16 then 2 else 4
  remainder : (RawNode.ofBigEndian bytes : ℤ) = v.toInt % 2 ^ size
  defined : ∀ port, ((n.setRegister env reg (.int v)).outcome port).Defined
  sent : ∀ port, ∃ frame, n.WritesFrame reg bytes frame ∧
    (n.setRegister env reg (.int v)).after port = port ++ [(frame, false)]
  echoed : ∀ port res, env.reply = some res → res.type = FrameType.REG_VALUE → res.listed = reg :: bytes →
    ∃ w : BitVec 64, w.toInt = v.toInt % 2 ^ size ∧
      (n.setRegister env reg (.int v)).outcome port = .value (.int w)

section Integers

variable (described : n.registerMap reg = some desc) (writable : desc.writable = true)
  (other : desc.type ≠ "str") (v : BitVec 64)

include described writable other

theorem setRegister_int_sends {width : ℕ} (number : numberWidth desc.size = some width)
    (small : desc.size ≤ 30) :
    Sends (n.setRegister env reg (.int v)) (n.requestFrame env (.setReg reg (intBytes desc.size width v)))
      (ofAnswer (fun res => do return .int (BitVec.ofNat 64 (← numberOf width res)))
        (do
          sized 0 width
          return .int (BitVec.ofNat 64 (RawNode.ofBigEndian (env.buffer width))))
        (answer env.reply)) := by
  rw [setRegister_int env n reg described writable, if_pos other]
  exact setInt_sends env n reg number small v

theorem setRegister_int_defined (port : Port) :
    ((n.setRegister env reg (.int v)).outcome port).Defined ↔ desc.size ≤ 30 ∨ 32 < desc.size := by
  rw [setRegister_int env n reg described writable, if_pos other]
  exact setInt_defined env n reg desc port v

theorem writesInteger {width : ℕ} (number : numberWidth desc.size = some width) (small : desc.size ≤ 30) :
    n.WritesInteger env reg desc.size v (intBytes desc.size width v) := by
  obtain ⟨positive, width_le⟩ := numberWidth_bounds number
  have sends := setRegister_int_sends env n reg described writable other v number small
  have length : (intBytes desc.size width v).length = width := length_toBigEndian width _
  have remainder := value_intBytes number small v
  constructor
  · rw [length]
    exact Option.some.inj (number.symm.trans (numberWidth_eq (by omega)))
  · rw [remainder, toInt_emod (by omega)]
  · intro port
    rw [setRegister_int_defined env n reg described writable other]
    exact .inl small
  · intro port
    exact ⟨_, writesFrame env n reg _ (by omega), sends.after port⟩
  · intro port res reply type echo
    obtain ⟨counted, number⟩ := numberOf_echo reg (by omega) echo
    rw [length] at counted number
    have long : 1 < res.dlc.toNat := by
      rw [H9Frame.valueLength] at counted
      omega
    refine ⟨BitVec.ofNat 64 (v.toNat % 2 ^ desc.size), ?_, ?_⟩
    · have below : v.toNat % 2 ^ desc.size < 2 ^ desc.size := Nat.mod_lt _ (Nat.two_pow_pos _)
      have bound : 2 ^ desc.size ≤ 2 ^ 30 := Nat.pow_le_pow_right (by omega) small
      have same : (BitVec.ofNat 64 (v.toNat % 2 ^ desc.size)).toNat = v.toNat % 2 ^ desc.size := by
        rw [BitVec.toNat_ofNat, Nat.mod_eq_of_lt (by omega)]
      rw [toInt_emod (by omega), BitVec.toInt_eq_toNat_of_lt (by omega), same]
    · rw [sends.outcome, reply, answer_value type long, ofAnswer, number, remainder]
      rfl

end Integers

/-- An integer is written as its remainder exactly if the mask of the register is made without leaving
the range of `int`. -/
theorem writesInteger_iff (described : n.registerMap reg = some desc) (writable : desc.writable = true)
    (type : desc.type = "uint" ∨ desc.type = "bool" ∨ desc.type = "char") (positive : 1 ≤ desc.size)
    (bounded : desc.size ≤ 32) (v : BitVec 64) :
    (∃ bytes, n.WritesInteger env reg desc.size v bytes) ↔ desc.size ≤ 30 := by
  have other : desc.type ≠ "str" := by
    rcases type with same | same | same <;> rw [same] <;> decide
  constructor
  · rintro ⟨bytes, writes⟩
    have ends := writes.defined []
    rw [setRegister_int_defined env n reg described writable other] at ends
    omega
  · intro small
    exact ⟨_, writesInteger env n reg described writable other v (numberWidth_eq (by omega)) small⟩

/-- A node with one register. -/
def oneRegister (reg : Byte) (desc : RegisterDesc) : Node :=
  { make default 7 with registerMap := fun r => if r = reg then some desc else none }

theorem oneRegister_described (reg : Byte) (desc : RegisterDesc) :
    (oneRegister reg desc).registerMap reg = some desc :=
  if_pos rfl

/-- A writable register. -/
def writableRegister (type : String) (size : ℕ) : RegisterDesc :=
  ⟨11, "register", type, size, true, true, [], ""⟩

theorem writesInteger_twelveBits :
    ∃ bytes, (oneRegister 11 (writableRegister "uint" 12)).WritesInteger default 11 12 0x12345 bytes :=
  (writesInteger_iff default (oneRegister 11 (writableRegister "uint" 12)) 11
    (oneRegister_described 11 (writableRegister "uint" 12)) rfl (.inl rfl) (by decide) (by decide)
    0x12345).mpr (by decide)

/-- The mask of a register of 32 bits is a shift by the width of `int`. -/
theorem writesInteger_word :
    (((oneRegister 11 (writableRegister "uint" 32)).setRegister default 11 (.int 5)).outcome [] =
        .undefined) ∧
      ¬∃ bytes, (oneRegister 11 (writableRegister "uint" 32)).WritesInteger default 11 32 5 bytes := by
  have described := oneRegister_described 11 (writableRegister "uint" 32)
  have undefined : ((oneRegister 11 (writableRegister "uint" 32)).setRegister default 11 (.int 5)).outcome [] =
      .undefined := by
    rw [setRegister_int default _ 11 described rfl, if_pos (by decide)]
    exact (setInt_undefined default _ 11 (by decide) (by decide) 5).outcome []
  refine ⟨undefined, ?_⟩
  rintro ⟨bytes, writes⟩
  have ends := writes.defined []
  rw [undefined] at ends
  exact ends

/-! ## Texts and raw bytes -/

theorem setFloat_sends (v : BitVec 32) :
    Sends (n.setFloat env reg v) (n.requestFrame env (.setReg reg (RawNode.toBigEndian 4 (v.setWidth 64))))
      (ofAnswer (fun res => do return .float (BitVec.ofNat 32 (← numberOf 4 res)))
        (do
          sized 0 4
          return .float (BitVec.ofNat 32 (RawNode.ofBigEndian (env.buffer 4))))
        (answer env.reply)) := by
  have sent := (setNumber_sends env n reg le_rfl (v.setWidth 64)).bind
    fun val => Silent.pure (RegValue.float (BitVec.ofNat 32 val))
  rw [ofAnswer_bind] at sent
  simp only [bind_assoc, pure_bind] at sent
  exact sent

/-- A value that the register takes, and the bytes to be written: of a text as many as the register has
room for, of raw bytes all. -/
inductive TakesBytes (desc : RegisterDesc) : RegValue → List Byte → Prop
  | string (v : String) (str : desc.type = "str") : TakesBytes desc (.string v) (textBytes desc v)
  | bytes (v : List Byte) (whole : v.length = byteSize desc) : TakesBytes desc (.bytes v) v

theorem TakesBytes.sends {value : RegValue} {payload : List Byte} (takes : TakesBytes desc value payload)
    (described : n.registerMap reg = some desc) (writable : desc.writable = true) :
    ∃ x, Sends (n.setRegister env reg value) (n.requestFrame env (.setReg reg payload)) x := by
  cases takes with
  | string v str =>
    rw [setRegister_string env n reg described writable, if_pos str]
    exact ⟨_, setString_sends env n reg desc v⟩
  | bytes v whole =>
    rw [setRegister_bytes env n reg described writable]
    exact ⟨_, setBytes_sends env n reg desc payload whole.symm⟩

/-- The frame carries all the bytes, or the call throws and sends nothing. -/
def WritesWhole (env : Env) (n : Node) (reg : Byte) (value : RegValue) (payload : List Byte) : Prop :=
  ∀ port,
    (∃ frame, n.WritesFrame reg payload frame ∧
      (n.setRegister env reg value).after port = port ++ [(frame, false)]) ∨
    (∃ e, (n.setRegister env reg value).outcome port = .throws e) ∧
      (n.setRegister env reg value).after port = port

/-- A frame has no room for more than seven bytes of a value. -/
theorem not_writesWhole {value : RegValue} {payload : List Byte} {frame : H9Frame}
    {x : Outcome DevNodeException RegValue} (sends : Sends (n.setRegister env reg value) frame x)
    (long : 7 < payload.length) : ¬n.WritesWhole env reg value payload := by
  intro whole
  rcases whole [] with ⟨sent, writes, -⟩ | ⟨-, silent⟩
  · have counted := congrArg List.length writes.listed
    rw [H9Frame.listed, List.length_take, List.length_ofFn, List.length_cons] at counted
    omega
  · exact sends.after_ne [] silent

/-- A value is written whole exactly if it fits behind the number of the register. -/
theorem writesWhole_iff (described : n.registerMap reg = some desc) (writable : desc.writable = true)
    {value : RegValue} {payload : List Byte} (takes : TakesBytes desc value payload) :
    n.WritesWhole env reg value payload ↔ payload.length ≤ 7 := by
  obtain ⟨x, sends⟩ := takes.sends env n reg described writable
  constructor
  · intro whole
    by_contra long
    exact not_writesWhole env n reg sends (by omega) whole
  · intro fits port
    exact .inl ⟨_, writesFrame env n reg payload fits, sends.after port⟩

theorem writesWhole_text :
    (oneRegister 11 (writableRegister "str" 32)).WritesWhole default 11 (.string "abcdef")
      (textBytes (writableRegister "str" 32) "abcdef") :=
  (writesWhole_iff default (oneRegister 11 (writableRegister "str" 32)) 11
    (oneRegister_described 11 (writableRegister "str" 32)) rfl (.string "abcdef" rfl)).mpr (by decide)

/-- Of eight bytes for a register of 64 bits the last one is not sent. -/
theorem writesWhole_eightBytes :
    (∃ frame, ((oneRegister 11 (writableRegister "blob" 64)).setRegister default 11
        (.bytes [1, 2, 3, 4, 5, 6, 7, 8])).after [] = [(frame, false)] ∧
          frame.listed = [11, 1, 2, 3, 4, 5, 6, 7]) ∧
      ¬(oneRegister 11 (writableRegister "blob" 64)).WritesWhole default 11
        (.bytes [1, 2, 3, 4, 5, 6, 7, 8]) [1, 2, 3, 4, 5, 6, 7, 8] := by
  have described := oneRegister_described 11 (writableRegister "blob" 64)
  have takes : TakesBytes (writableRegister "blob" 64) (.bytes [1, 2, 3, 4, 5, 6, 7, 8])
      [1, 2, 3, 4, 5, 6, 7, 8] := .bytes _ rfl
  obtain ⟨x, sends⟩ := takes.sends default (oneRegister 11 (writableRegister "blob" 64)) 11 described rfl
  refine ⟨⟨_, sends.after [], H9Frame.listed_setData _ _⟩, ?_⟩
  exact not_writesWhole default _ 11 sends (by decide)

/-! ## Types and values -/

/-- The pairs of a register and a value that the interface documents. -/
def Documented (desc : RegisterDesc) : RegValue → Prop
  | .int _ => desc.type = "uint" ∨ desc.type = "int" ∨ desc.type = "bool" ∨ desc.type = "char"
  | .float _ => desc.type = "float"
  | .string _ => desc.type = "str" ∨ desc.type = "char"
  | .bytes v => v.length = byteSize desc

/-- The bytes that a value of a documented pair stands for. -/
def Encodes (desc : RegisterDesc) (bytes : List Byte) : RegValue → Prop
  | .int v => numberWidth desc.size = some bytes.length ∧
      (RawNode.ofBigEndian bytes : ℤ) = v.toInt % 2 ^ desc.size
  | .float x => bytes.length = 4 ∧ RawNode.ofBigEndian bytes = x.toNat
  | .string v => bytes = textBytes desc v
  | .bytes v => bytes = v

/-- The size, not the type, keeps an integer out of a register. -/
def TooLarge (desc : RegisterDesc) : RegValue → Prop
  | .int _ => 32 < desc.size
  | .float _ | .string _ | .bytes _ => False

/-- The call refuses the value for the register and sends nothing. -/
def Refuses (env : Env) (n : Node) (reg : Byte) (value : RegValue) : Prop :=
  Silent (n.setRegister env reg value) (.throws (.unsupportedRegisterDataConversionException reg))

/-- Documented pairs are written by their type, as far as a frame reaches, and no other pair is. -/
structure WritesByType (env : Env) (n : Node) (reg : Byte) (desc : RegisterDesc) (value : RegValue) :
    Prop where
  documented : Documented desc value →
    (TooLarge desc value ∧ n.Refuses env reg value) ∨
      ∃ bytes, Encodes desc bytes value ∧
        ∀ port, (n.setRegister env reg value).after port =
          port ++ [(n.requestFrame env (.setReg reg bytes), false)]
  other : ¬Documented desc value → n.Refuses env reg value

/-- Where the code asks for the type that the interface documents. -/
def TypesRespected (desc : RegisterDesc) : RegValue → Prop
  | .int _ => desc.type = "str" ∨ 32 < desc.size ∨
      desc.size ≤ 30 ∧ (desc.type = "uint" ∨ desc.type = "int" ∨ desc.type = "bool" ∨ desc.type = "char")
  | .string _ => desc.type ≠ "char"
  | .float _ | .bytes _ => True

section Types

variable (described : n.registerMap reg = some desc) (writable : desc.writable = true)

include described writable

theorem refuses_int {v : BitVec 64} (kept : desc.type = "str" ∨ 32 < desc.size) :
    n.Refuses env reg (.int v) := by
  rw [Refuses, setRegister_int env n reg described writable]
  split
  · next other => exact setInt_refused env n reg (kept.resolve_left other) v
  · exact Silent.throw _

theorem refuses_float {x : BitVec 32} (other : desc.type ≠ "float") : n.Refuses env reg (.float x) := by
  rw [Refuses, setRegister_float env n reg described writable, if_neg other]
  exact Silent.throw _

theorem refuses_string {v : String} (other : desc.type ≠ "str") : n.Refuses env reg (.string v) := by
  rw [Refuses, setRegister_string env n reg described writable, if_neg other]
  exact Silent.throw _

theorem refuses_bytes {v : List Byte} (other : v.length ≠ byteSize desc) :
    n.Refuses env reg (.bytes v) := by
  rw [Refuses, setRegister_bytes env n reg described writable, setBytes, if_neg other.symm]
  exact Silent.throw _

theorem setRegister_float_sends {x : BitVec 32} (float : desc.type = "float") :
    ∃ y, Sends (n.setRegister env reg (.float x))
      (n.requestFrame env (.setReg reg (RawNode.toBigEndian 4 (x.setWidth 64)))) y := by
  rw [setRegister_float env n reg described writable, if_pos float]
  exact ⟨_, setFloat_sends env n reg x⟩

omit described writable in
theorem value_floatBytes (x : BitVec 32) :
    RawNode.ofBigEndian (RawNode.toBigEndian 4 (x.setWidth 64)) = x.toNat := by
  have bound := x.isLt
  rw [RawNode.ofBigEndian_toBigEndian, BitVec.toNat_setWidth]
  omega

/-- The pairs of a text, a float or raw bytes, for which the code does what their types say. -/
theorem writesByType_other {value : RegValue} (respected : TypesRespected desc value)
    (kind : ∀ v, value ≠ .int v) : n.WritesByType env reg desc value := by
  cases value with
  | int v => exact absurd rfl (kind v)
  | float x =>
    constructor
    · intro float
      obtain ⟨_, sends⟩ := setRegister_float_sends env n reg described writable float
      exact .inr ⟨_, ⟨length_toBigEndian 4 _, value_floatBytes x⟩, sends.after⟩
    · exact refuses_float env n reg described writable
  | string v =>
    constructor
    · intro text
      have takes := TakesBytes.string v (text.resolve_right respected)
      obtain ⟨_, sends⟩ := takes.sends env n reg described writable
      exact .inr ⟨_, rfl, sends.after⟩
    · intro other
      exact refuses_string env n reg described writable fun str => other (.inl str)
  | bytes v =>
    constructor
    · intro whole
      obtain ⟨_, sends⟩ := (TakesBytes.bytes v whole).sends env n reg described writable
      exact .inr ⟨_, rfl, sends.after⟩
    · exact refuses_bytes env n reg described writable

theorem writesByType_int {v : BitVec 64} (respected : TypesRespected desc (.int v)) :
    n.WritesByType env reg desc (.int v) := by
  rcases respected with str | large | ⟨small, integer⟩
  · have refuses := refuses_int env n reg described writable (v := v) (.inl str)
    refine ⟨fun documented => ?_, fun _ => refuses⟩
    rw [Documented, str] at documented
    exact absurd documented (by decide)
  · have refuses := refuses_int env n reg described writable (v := v) (.inr large)
    exact ⟨fun _ => .inl ⟨large, refuses⟩, fun _ => refuses⟩
  · have other : desc.type ≠ "str" := by
      rcases integer with same | same | same | same <;> rw [same] <;> decide
    have number : numberWidth desc.size = _ := numberWidth_eq (by omega)
    have sends := setRegister_int_sends env n reg described writable other v number small
    refine ⟨fun _ => .inr ⟨_, ⟨?_, ?_⟩, sends.after⟩, fun undocumented => absurd integer undocumented⟩
    · rw [intBytes, length_toBigEndian, number]
    · rw [value_intBytes number small, toInt_emod (by omega)]

/-- An integer that the code does not refuse is sent or runs into the undefined mask. -/
theorem typesRespected_int {v : BitVec 64} (byType : n.WritesByType env reg desc (.int v)) :
    TypesRespected desc (.int v) := by
  rw [TypesRespected]
  by_contra fails
  obtain ⟨other, small, unfit⟩ : desc.type ≠ "str" ∧ desc.size ≤ 32 ∧
      ¬(desc.size ≤ 30 ∧ Documented desc (.int v)) := by
    simpa [Documented] using fails
  have number := numberWidth_eq small
  rcases Nat.lt_or_ge 30 desc.size with large | fits
  · have silent : Silent (n.setRegister env reg (.int v)) .undefined := by
      rw [setRegister_int env n reg described writable, if_pos other]
      exact setInt_undefined env n reg large small v
    by_cases documented : Documented desc (.int v)
    · rcases byType.documented documented with ⟨tooLarge, -⟩ | ⟨bytes, -, after⟩
      · exact absurd tooLarge (by rw [TooLarge]; omega)
      · have sent := after []
        rw [silent.after] at sent
        simp at sent
    · have refused := Silent.outcome (byType.other documented) []
      rw [silent.outcome] at refused
      cases refused
  · have sends := setRegister_int_sends env n reg described writable other v number fits
    have refuses := byType.other fun documented => unfit ⟨fits, documented⟩
    exact sends.after_ne [] (Silent.after refuses [])

/-- Values are written by the documented types exactly where the code asks for these types and the mask
of an integer is defined. -/
theorem writesByType_iff (value : RegValue) :
    n.WritesByType env reg desc value ↔ TypesRespected desc value := by
  cases value with
  | int v =>
    exact ⟨typesRespected_int env n reg described writable, writesByType_int env n reg described writable⟩
  | float x =>
    exact ⟨fun _ => trivial, fun respected => writesByType_other env n reg described writable respected nofun⟩
  | bytes v =>
    exact ⟨fun _ => trivial, fun respected => writesByType_other env n reg described writable respected nofun⟩
  | string v =>
    refine ⟨fun byType char => ?_, fun respected =>
      writesByType_other env n reg described writable respected nofun⟩
    have refuses := refuses_string env n reg described writable (v := v) (by rw [char]; decide)
    rcases byType.documented (.inr char) with ⟨tooLarge, -⟩ | ⟨bytes, -, after⟩
    · exact tooLarge
    · have sent := after []
      rw [Silent.after refuses] at sent
      simp at sent

end Types

theorem writesByType_text :
    (oneRegister 11 (writableRegister "str" 32)).WritesByType default 11 (writableRegister "str" 32)
      (.string "abc") :=
  (writesByType_iff default (oneRegister 11 (writableRegister "str" 32)) 11
    (oneRegister_described 11 (writableRegister "str" 32)) rfl (.string "abc")).mpr
    (show (writableRegister "str" 32).type ≠ "char" by decide)

/-- The integer 5 goes into a float register of 16 bits as it is. -/
theorem writesByType_integerFloat :
    ((oneRegister 11 (writableRegister "float" 16)).setRegister default 11 (.int 5)).after [] =
        [((oneRegister 11 (writableRegister "float" 16)).requestFrame default (.setReg 11 [0, 5]), false)] ∧
      ¬(oneRegister 11 (writableRegister "float" 16)).WritesByType default 11
        (writableRegister "float" 16) (.int 5) := by
  have number : numberWidth (writableRegister "float" 16).size = some 2 := rfl
  have sends := setRegister_int_sends default (oneRegister 11 (writableRegister "float" 16)) 11
    (oneRegister_described 11 (writableRegister "float" 16)) rfl (by decide) 5 number (by decide)
  have other : ¬Documented (writableRegister "float" 16) (.int 5) := by
    rw [Documented]
    decide
  refine ⟨sends.after [], fun byType => ?_⟩
  exact sends.after_ne [] (Silent.after (byType.other other) [])

end Node

end H9d
