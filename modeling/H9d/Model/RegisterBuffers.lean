import H9d.Core.Buffer
import H9d.Model.Node

/-! # The buffers of the register operations

The operations that take the value of a register through a buffer on the heap, access by access. A cell
of a buffer is empty until it is written, and an answer has the bytes that its length counts; an access
beyond either, and the use of an empty cell, ends the call as undefined.
-/

namespace H9d

open H9Frame Cxx

/-- The end that the register requests share, over any kind of memory: `copy` takes the first bytes of the
value in an answer to the buffer. -/
def RawNode.exchangeWith {ε β : Type} (copy : H9Frame → ℕ → β → Outcome ε β) (env : Env) (nodeId : Byte)
    (request : RawNode.Request) (limit : ℕ → ℕ) (buf : β) : Call Port ε (ℤ × β) := do
  match ← RawNode.ask env nodeId request with
  | none => return (RawNode.TIMEOUT_ERROR, buf)
  | some res =>
    if res.type = FrameType.REG_VALUE ∧ 1 < res.dlc.toNat then
      let buf ← Call.ofOutcome (copy res (limit (res.dlc.toNat - 1)) buf)
      return (res.dlc.toNat - 1, buf)
    else if res.type = FrameType.COMMAND_ERROR ∧ res.dlc = 1 then return (-(res.data 0).toNat, buf)
    else return (RawNode.MALFORMED_FRAME_ERROR, buf)

theorem RawNode.exchange_eq {ε : Type} (env : Env) (nodeId : Byte) (request : RawNode.Request) (limit : ℕ → ℕ)
    (buf : List Byte) :
    (RawNode.exchange env nodeId request limit buf : Call Port ε _) =
      RawNode.exchangeWith RawNode.copyData env nodeId request limit buf := rfl

namespace Guarded

section Requests

variable {ε : Type}

/-- What a failed access leaves. -/
def access {α : Type} : Option α → Outcome ε α
  | some a => .value a
  | none => .undefined

/-- The loop over `reg_after_set[i] = res.data()[i + 1]`. -/
def copyData (res : H9Frame) (max : ℕ) (buf : Buffer Byte) : Outcome ε (Buffer Byte) :=
  access (Buffer.copy res.listed.tail max buf)

variable (env : Env) (nodeId reg : Byte)

def bitOperation (request : RawNode.Request) (length : ℕ) (regAfterSet : Buffer Byte) :
    Call Port ε (ℤ × Buffer Byte) :=
  RawNode.exchangeWith copyData env nodeId request (fun n => if length < n then length else n) regAfterSet

def setReg (regVal : List Byte) (regAfterSet : Buffer Byte) (regAfterSetLength : Option ℕ) :
    Call Port ε (ℤ × Buffer Byte) :=
  RawNode.exchangeWith copyData env nodeId (.setReg reg regVal)
    (fun n => if regVal.length < n then regAfterSetLength.getD regVal.length else n) regAfterSet

def getReg (length : ℕ) (regVal : Buffer Byte) : Call Port ε (ℤ × Buffer Byte) :=
  RawNode.exchangeWith copyData env nodeId (.getReg reg) (fun n => if length < n then length else n) regVal

end Requests

/-- `buf[ret] = '\0'`, and the string up to the first zero byte. -/
def cString (buf : Buffer Byte) (ret : ℕ) : Outcome DevNodeException String := do
  let buf ← access (buf.write ret [0])
  let bytes ← access buf.cString
  return String.ofList (bytes.map fun b => Char.ofNat b.toNat)

/-- `std::vector(buf, buf + ret)`. -/
def vector (buf : Buffer Byte) (ret : ℕ) : Outcome DevNodeException RegValue :=
  if ret ≤ buf.length then do return .bytes (← access (Buffer.load (buf.take ret))) else .undefined

variable (env : Env) (n : Node) (reg : Byte)

def setString (desc : RegisterDesc) (v : String) : Call Port DevNodeException RegValue := do
  let bytes := v.toList.map fun c => BitVec.ofNat 8 c.toNat
  let retLen := Node.byteSize desc + 1
  let (ret, buf) ← setReg env n.nodeId reg (bytes.take (desc.size / 8)) (Buffer.malloc retLen) (some retLen)
  Node.throwOnError ret
  return .string (← Call.ofOutcome (cString buf ret.toNat))

def setBytes (desc : RegisterDesc) (v : List Byte) : Call Port DevNodeException RegValue :=
  if Node.byteSize desc = v.length then do
    let (ret, buf) ← setReg env n.nodeId reg v (Buffer.malloc v.length) none
    Node.throwOnError ret
    Node.throwOnSize ret v.length
    Call.ofOutcome (vector buf ret.toNat)
  else Call.throw (.unsupportedRegisterDataConversionException reg)

/-- A number is returned to a variable, not to a buffer on the heap. -/
def setRegister (value : RegValue) : Call Port DevNodeException RegValue :=
  match n.registerMap reg with
  | some desc =>
    if desc.writable then
      match value with
      | .int _ | .float _ => n.setRegister env reg value
      | .string v =>
          if desc.type = "str" then setString env n reg desc v
          else Call.throw (.unsupportedRegisterDataConversionException reg)
      | .bytes v => setBytes env n reg desc v
    else Call.throw (.registerNotWritableException reg)
  | none => Call.throw (.registerNotExistException reg)

def getBytes (desc : RegisterDesc) : Call Port DevNodeException RegValue := do
  let len := Node.byteSize desc
  let (ret, buf) ← getReg env n.nodeId reg len (Buffer.malloc len)
  Node.throwOnError ret
  Node.throwOnSize ret len
  Call.ofOutcome (vector buf ret.toNat)

def getString (desc : RegisterDesc) : Call Port DevNodeException RegValue := do
  let len := Node.byteSize desc + 1
  let (ret, buf) ← getReg env n.nodeId reg (len - 1) (Buffer.malloc len)
  Node.throwOnError ret
  return .string (← Call.ofOutcome (cString buf ret.toNat))

def getRegister : Call Port DevNodeException RegValue :=
  match n.registerMap reg with
  | some desc =>
    if desc.readable then
      if desc.type ≠ "str" ∧ desc.size ≤ 32 then n.getRegister env reg
      else if desc.type ≠ "str" then getBytes env n reg desc
      else getString env n reg desc
    else Call.throw (.registerNotReadableException reg)
  | none => Call.throw (.registerNotExistException reg)

/-- The body that `set_register_bit` and `clear_register_bit` share. -/
def registerBit (request : RawNode.Request) : Call Port DevNodeException RegValue :=
  match n.registerMap reg with
  | some desc =>
    if desc.writable then
      if desc.type ≠ "str" then do
        let resultLen := Node.byteSize desc
        let (ret, resultBuf) ← bitOperation env n.nodeId request resultLen (Buffer.malloc resultLen)
        Node.throwOnError ret
        Call.ofOutcome (vector resultBuf ret.toNat)
      else Call.throw (.unsupportedRegisterDataConversionException reg)
    else Call.throw (.registerNotWritableException reg)
  | none => Call.throw (.registerNotExistException reg)

def setRegisterBit (bitNum : Byte) : Call Port DevNodeException RegValue :=
  registerBit env n reg (.setBit reg bitNum)

def clearRegisterBit (bitNum : Byte) : Call Port DevNodeException RegValue :=
  registerBit env n reg (.clearBit reg bitNum)

end Guarded

end H9d
