import H9d.Core.Call
import H9d.Core.Json
import H9d.Model.NodeDescLoader
import H9d.Model.RegisterTraffic

/-! # Nodes and their registers

The operations of a node as the thread that calls them sees them on a bus that acknowledges: a frame is
given to the bus and the wait for the answer ends with a frame or with a timeout. An access outside an array, a shift or
an overflow that C++ leaves undefined ends the call as undefined; a variable without initialiser
holds what is in memory.
-/

namespace H9d

open H9Frame Cxx

/-- What a call learns from outside the daemon's state. -/
structure Env where
  /-- the number of the frame that the call sends -/
  seqnum : Byte
  /-- the frame that fulfils the promise of the call, unless the wait times out -/
  reply : Option H9Frame
  now : ℤ
  nodesFile : Option (List NodeDescLoader.NodeTypeSection)
  std : NodeDescLoader.StdRegisters
  cast : Nlohmann.FloatCast
  /-- whether the build keeps assertions -/
  assertions : Bool
  /-- whether the bus never acknowledges the frame that the call gives it, as it has no endpoint or one that
  does not answer -/
  stalled : Bool
  frameMemory : H9Frame
  memory : ℕ → Byte
  deriving Inhabited

/-- A buffer from `new std::uint8_t[length]`. -/
def Env.buffer (env : Env) (length : ℕ) : List Byte := (List.range length).map env.memory

structure DevNodeException where
  code : ℤ
  msg : String
  deriving DecidableEq, Repr

def H9Frame.errorToString : ℕ → String
  | 1 => "INVALID FRAME"
  | 2 => "BOOTLOADER UNSUPPORTED"
  | 3 => "UNSUPPORTED OPERATION"
  | 4 => "UNSUPPORTED REGISTER"
  | 5 => "INVALID REGISTER"
  | 6 => "READ ONLY REGISTER"
  | 7 => "WRITE ONLY REGISTER"
  | 8 => "REGISTER SIZE MISMATCH"
  | _ => "UNKNOWN_ERROR"

namespace DevNodeException

def nodeException (code : ℕ) : DevNodeException :=
  ⟨-1000 - code, s!"Node exception: {code} - {errorToString code}."⟩

def timeoutException : DevNodeException := ⟨-10, "Timeout exception"⟩
def nodeNotExistException : DevNodeException := ⟨-11, "Node not exist exception"⟩
def deviceNotExistException (devName : String) : DevNodeException :=
  ⟨-12, s!"Device '" ++ devName ++ "'not exist exception"⟩
def malformedFrameException : DevNodeException := ⟨-13, "Malformed frame exception"⟩
def sizeMismatchException : DevNodeException := ⟨-14, "Size mismatch exception"⟩
def registerNotExistException (reg : Byte) : DevNodeException :=
  ⟨-15, s!"Register {reg.toNat} does not exist."⟩
def registerNotWritableException (reg : Byte) : DevNodeException :=
  ⟨-16, s!"Register {reg.toNat} is not writable."⟩
def registerNotReadableException (reg : Byte) : DevNodeException :=
  ⟨-17, s!"Register {reg.toNat} is not readable."⟩
def unsupportedRegisterDataConversionException (reg : Byte) : DevNodeException :=
  ⟨-18, s!"Register {reg.toNat} unsupported data conversion."⟩

end DevNodeException

/-- The frames given to `Bus::send_frame`, with the flag `raw`. -/
abbrev Port := List (H9Frame × Bool)

namespace RawNode

abbrev TIMEOUT_ERROR : ℤ := -1000
abbrev MALFORMED_FRAME_ERROR : ℤ := -1001

variable {ε : Type}

/-- Sends the frame of a request and waits for the promise. -/
def ask (env : Env) (nodeId : Byte) (request : Request) : Call Port ε (Option H9Frame) := do
  Call.modify fun sent => sent ++ [(request.frame env.frameMemory "h9d" nodeId, false)]
  return env.reply

/-- The loop that copies `max` bytes after the first to a buffer; a frame holds eight. -/
def copyData (res : H9Frame) (max : ℕ) (buf : List Byte) : Outcome ε (List Byte) :=
  if max ≤ 7 ∧ max ≤ buf.length then .value ((List.ofFn res.data).tail.take max ++ buf.drop max)
  else .undefined

def reset (env : Env) (nodeId : Byte) : Call Port ε ℤ := do
  match ← ask env nodeId .reset with
  | none => return TIMEOUT_ERROR
  | some res =>
    if res.type = FrameType.NODE_TURNED_ON then return res.dlc.toNat
    else if res.type = FrameType.COMMAND_ERROR ∧ res.dlc = 1 then return -(res.data 0).toNat
    else return MALFORMED_FRAME_ERROR

/-- The end that `bit_operation`, `set_reg` and `get_reg` share; `limit` says how many of the bytes
of the answer are copied. -/
def exchange (env : Env) (nodeId : Byte) (request : Request) (limit : ℕ → ℕ) (buf : List Byte) :
    Call Port ε (ℤ × List Byte) := do
  match ← ask env nodeId request with
  | none => return (TIMEOUT_ERROR, buf)
  | some res =>
    if res.type = FrameType.REG_VALUE ∧ 1 < res.dlc.toNat then
      let buf ← Call.ofOutcome (copyData res (limit (res.dlc.toNat - 1)) buf)
      return (res.dlc.toNat - 1, buf)
    else if res.type = FrameType.COMMAND_ERROR ∧ res.dlc = 1 then return (-(res.data 0).toNat, buf)
    else return (MALFORMED_FRAME_ERROR, buf)

def setBit (env : Env) (nodeId reg bit : Byte) (length : ℕ) (regAfterSet : List Byte) :
    Call Port ε (ℤ × List Byte) :=
  exchange env nodeId (.setBit reg bit) (fun n => if length < n then length else n) regAfterSet

def clearBit (env : Env) (nodeId reg bit : Byte) (length : ℕ) (regAfterSet : List Byte) :
    Call Port ε (ℤ × List Byte) :=
  exchange env nodeId (.clearBit reg bit) (fun n => if length < n then length else n) regAfterSet

/-- `regAfterSetLength` is `none` where the source leaves out the last argument. -/
def setReg (env : Env) (nodeId reg : Byte) (regVal regAfterSet : List Byte)
    (regAfterSetLength : Option ℕ) : Call Port ε (ℤ × List Byte) :=
  exchange env nodeId (.setReg reg regVal)
    (fun n => if regVal.length < n then regAfterSetLength.getD regVal.length else n) regAfterSet

def getReg (env : Env) (nodeId reg : Byte) (length : ℕ) (regVal : List Byte) :
    Call Port ε (ℤ × List Byte) :=
  exchange env nodeId (.getReg reg) (fun n => if length < n then length else n) regVal

def ofBigEndian (bytes : List Byte) : ℕ := bytes.foldl (fun n b => 256 * n + b.toNat) 0

def toBigEndian (width : ℕ) (v : BitVec 64) : List Byte :=
  (List.range width).reverse.map fun i => (v >>> (8 * i)).setWidth 8

/-- The overloads of `set_reg` for numbers of 1, 2 and 4 bytes. -/
def setRegNumber (env : Env) (nodeId reg : Byte) (width : ℕ) (regVal : BitVec 64) :
    Call Port ε (ℤ × ℕ) := do
  let (ret, buf) ← setReg env nodeId reg (toBigEndian width regVal) (env.buffer width) none
  return (ret, ofBigEndian buf)

/-- The overloads of `get_reg` for numbers of 1, 2 and 4 bytes. -/
def getRegNumber (env : Env) (nodeId reg : Byte) (width : ℕ) : Call Port ε (ℤ × ℕ) := do
  let (ret, buf) ← getReg env nodeId reg width (env.buffer width)
  return (ret, ofBigEndian buf)

end RawNode

/-- `std::variant` of the values of a register; a float is given by its bits. -/
inductive RegValue
  | string (s : String)
  | int (v : BitVec 64)
  | float (x : BitVec 32)
  | bytes (v : List Byte)
  deriving DecidableEq, Repr

structure Node where
  nodeId : Byte
  nodeType : BitVec 16
  nodeVersion : BitVec 64
  hardwareRevision : Byte
  resetReason : Byte
  nodeName : String
  nodeDescription : String
  createdTime : ℤ
  lastSeenTime : ℤ
  registerMap : Byte → Option RegisterDesc
  init : Bool

namespace Node

/-- The two members without initialiser keep what is in memory. -/
def make (env : Env) (nodeId : Byte) : Node where
  nodeId := nodeId
  nodeType := 0
  nodeVersion := 0
  hardwareRevision := env.memory 0
  resetReason := env.memory 1
  nodeName := "unknown"
  nodeDescription := ""
  createdTime := env.now
  lastSeenTime := 0
  registerMap := fun _ => none
  init := false

def nodeVersionMajor (n : Node) : BitVec 16 := (n.nodeVersion >>> 16).setWidth 16
def nodeVersionMinor (n : Node) : BitVec 16 := n.nodeVersion.setWidth 16

open NodeDescLoader in
def loadDescription (std : StdRegisters) (types : Types) (n : Node) : Node :=
  let n :=
    if getNodeNameByType types n.nodeType ≠ "" then
      { n with
        nodeName := getNodeNameByType types n.nodeType
        nodeDescription := getNodeDescriptionByType types n.nodeType }
    else n
  { n with
    registerMap := fun reg =>
      (getNodeRegisterByType types n.nodeType reg).or
        ((stdRegister std).find? (·.number = reg)) }

def getRegistersList (n : Node) : List RegisterDesc :=
  (List.range 256).filterMap fun reg => n.registerMap (BitVec.ofNat 8 reg)

variable (env : Env) (n : Node)

/-- The three branches that every operation has for a negative result. -/
def throwOnError (ret : ℤ) : Call Port DevNodeException Unit :=
  if ret < 0 then
    if ret = RawNode.TIMEOUT_ERROR then Call.throw .timeoutException
    else if ret = RawNode.MALFORMED_FRAME_ERROR then Call.throw .malformedFrameException
    else Call.throw (.nodeException (-ret).toNat)
  else pure ()

def throwOnSize (ret : ℤ) (size : ℕ) : Call Port DevNodeException Unit :=
  if ret ≠ size then Call.throw .sizeMismatchException else pure ()

def nodeReset : Call Port DevNodeException Unit := do
  throwOnError (← RawNode.reset env n.nodeId)

/-- `buf[ret] = '\0'`, and the string up to the first zero byte. -/
def cString (buf : List Byte) (ret : ℕ) : Outcome DevNodeException String :=
  if ret < buf.length then
    .value (String.ofList (((buf.set ret 0).takeWhile (· ≠ 0)).map fun b => Char.ofNat b.toNat))
  else .undefined

/-- `std::vector(buf, buf + ret)`. -/
def vector (buf : List Byte) (ret : ℕ) : Outcome DevNodeException RegValue :=
  if ret ≤ buf.length then .value (.bytes (buf.take ret)) else .undefined

/-- The bytes of a register, rounded up. -/
def byteSize (desc : RegisterDesc) : ℕ := (desc.size + 7) / 8

/-- The type of the variable for an integer register. -/
def numberWidth (size : ℕ) : Option ℕ :=
  if size ≤ 8 then some 1 else if size ≤ 16 then some 2 else if size ≤ 32 then some 4 else none

/-- `v & ((1 << size) - 1)`, where the shift and the subtraction are made in `int`. -/
def maskTo (size : ℕ) (v : BitVec 64) : Outcome DevNodeException (BitVec 64) :=
  if size ≤ 30 then .value (v &&& BitVec.ofNat 64 (2 ^ size - 1)) else .undefined

def setInt (reg : Byte) (desc : RegisterDesc) (v : BitVec 64) : Call Port DevNodeException RegValue :=
  match numberWidth desc.size with
  | some width => do
    let tmp ← Call.ofOutcome (maskTo desc.size v)
    let (ret, val) ← RawNode.setRegNumber env n.nodeId reg width tmp
    throwOnError ret
    throwOnSize ret width
    return .int (BitVec.ofNat 64 val)
  | none => Call.throw (.unsupportedRegisterDataConversionException reg)

def setFloat (reg : Byte) (v : BitVec 32) : Call Port DevNodeException RegValue := do
  let (ret, val) ← RawNode.setRegNumber env n.nodeId reg 4 (v.setWidth 64)
  throwOnError ret
  throwOnSize ret 4
  return .float (BitVec.ofNat 32 val)

def setString (reg : Byte) (desc : RegisterDesc) (v : String) : Call Port DevNodeException RegValue := do
  let bytes := v.toList.map fun c => BitVec.ofNat 8 c.toNat
  let retLen := byteSize desc + 1
  let (ret, buf) ← RawNode.setReg env n.nodeId reg (bytes.take (desc.size / 8)) (env.buffer retLen)
    (some retLen)
  throwOnError ret
  return .string (← Call.ofOutcome (cString buf ret.toNat))

def setBytes (reg : Byte) (desc : RegisterDesc) (v : List Byte) : Call Port DevNodeException RegValue :=
  if byteSize desc = v.length then do
    let (ret, buf) ← RawNode.setReg env n.nodeId reg v (env.buffer v.length) none
    throwOnError ret
    throwOnSize ret v.length
    Call.ofOutcome (vector buf ret.toNat)
  else Call.throw (.unsupportedRegisterDataConversionException reg)

def setRegister (reg : Byte) (value : RegValue) : Call Port DevNodeException RegValue :=
  match n.registerMap reg with
  | some desc =>
    if desc.writable then
      match value with
      | .int v =>
          if desc.type ≠ "str" then n.setInt env reg desc v
          else Call.throw (.unsupportedRegisterDataConversionException reg)
      | .float v =>
          if desc.type = "float" then n.setFloat env reg v
          else Call.throw (.unsupportedRegisterDataConversionException reg)
      | .string v =>
          if desc.type = "str" then n.setString env reg desc v
          else Call.throw (.unsupportedRegisterDataConversionException reg)
      | .bytes v => n.setBytes env reg desc v
    else Call.throw (.registerNotWritableException reg)
  | none => Call.throw (.registerNotExistException reg)

def getNumber (reg : Byte) (width : ℕ) : Call Port DevNodeException ℕ := do
  let (ret, val) ← RawNode.getRegNumber env n.nodeId reg width
  throwOnError ret
  throwOnSize ret width
  return val

def getBytes (reg : Byte) (desc : RegisterDesc) : Call Port DevNodeException RegValue := do
  let (ret, buf) ← RawNode.getReg env n.nodeId reg (byteSize desc) (env.buffer (byteSize desc))
  throwOnError ret
  throwOnSize ret (byteSize desc)
  Call.ofOutcome (vector buf ret.toNat)

def getString (reg : Byte) (desc : RegisterDesc) : Call Port DevNodeException RegValue := do
  let (ret, buf) ← RawNode.getReg env n.nodeId reg (byteSize desc) (env.buffer (byteSize desc + 1))
  throwOnError ret
  return .string (← Call.ofOutcome (cString buf ret.toNat))

def getRegister (reg : Byte) : Call Port DevNodeException RegValue :=
  match n.registerMap reg with
  | some desc =>
    if desc.readable then
      if desc.type ≠ "str" ∧ desc.size = 32 then
        return .float (BitVec.ofNat 32 (← n.getNumber env reg 4))
      else if desc.type ≠ "str" then
        match numberWidth desc.size with
        | some width => return .int (BitVec.ofNat 64 (← n.getNumber env reg width))
        | none => n.getBytes env reg desc
      else n.getString env reg desc
    else Call.throw (.registerNotReadableException reg)
  | none => Call.throw (.registerNotExistException reg)

/-- The value that a frame carries; a frame of another type leaves `value` as it is. `strlen` reads on
until it finds a zero byte, the vector as far as `dlc` says. -/
def getRegValueFromFrame (frame : H9Frame) (value : RegValue) :
    Outcome DevNodeException (Byte × RegValue) :=
  if frame.type = FrameType.REG_VALUE ∨ frame.type = FrameType.REG_VALUE_BROADCAST then
    if frame.dlc.toNat < 2 then .throws .malformedFrameException
    else
      let reg := frame.data 0
      let frameRegSize := frame.dlc.toNat - 1
      let bytes := (List.ofFn frame.data).tail
      match n.registerMap reg with
      | none => .throws (.registerNotExistException reg)
      | some desc =>
        if desc.type ≠ "str" then
          match numberWidth desc.size with
          | some width =>
            if frameRegSize ≠ width then .throws .sizeMismatchException
            else .value (reg, .int (BitVec.ofNat 64 (RawNode.ofBigEndian (bytes.take width))))
          | none =>
            if byteSize desc < frameRegSize then .throws .sizeMismatchException
            else if 7 < frameRegSize then .undefined
            else .value (reg, .bytes (bytes.take frameRegSize))
        else if 0 ∉ bytes then .undefined
        else if byteSize desc < frameRegSize then .throws .sizeMismatchException
        else
          .value (reg, .string (String.ofList
            (((bytes.takeWhile (· ≠ 0)).take frameRegSize).map fun b => Char.ofNat b.toNat)))
  else .value (0, value)

/-- The body that `set_register_bit` and `clear_register_bit` share. -/
def bitOperation (reg : Byte)
    (operation : ℕ → List Byte → Call Port DevNodeException (ℤ × List Byte)) :
    Call Port DevNodeException RegValue :=
  match n.registerMap reg with
  | some desc =>
    if desc.writable then
      if desc.type ≠ "str" then do
        let (ret, buf) ← operation (byteSize desc) (env.buffer (byteSize desc))
        throwOnError ret
        Call.ofOutcome (vector buf ret.toNat)
      else Call.throw (.unsupportedRegisterDataConversionException reg)
    else Call.throw (.registerNotWritableException reg)
  | none => Call.throw (.registerNotExistException reg)

def setRegisterBit (reg bitNum : Byte) : Call Port DevNodeException RegValue :=
  n.bitOperation env reg (RawNode.setBit env n.nodeId reg bitNum)

def clearRegisterBit (reg bitNum : Byte) : Call Port DevNodeException RegValue :=
  n.bitOperation env reg (RawNode.clearBit env n.nodeId reg bitNum)

end Node

end H9d
