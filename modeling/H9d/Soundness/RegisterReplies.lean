import H9d.Model.RegisterBuffers
import H9d.Soundness.RegisterOutcomes

/-! # One frame out, one answer in

Every operation on a register gives one frame to the bus and computes with the answer alone from then
on. So an operation is known once its frame is known and what it makes of each kind of answer.
-/

namespace H9d

open Cxx H9Frame

section Port

variable {ε α β : Type}

/-- The call gives one frame to the bus and ends with `x`. -/
def Sends (c : Call Port ε α) (frame : H9Frame) (x : Outcome ε α) : Prop :=
  ∀ port, c port = (x, port ++ [(frame, false)])

/-- The call gives nothing to the bus and ends with `x`. -/
def Silent (c : Call Port ε α) (x : Outcome ε α) : Prop := ∀ port, c port = (x, port)

namespace Silent

theorem pure (a : α) : Silent (Pure.pure a : Call Port ε α) (.value a) := fun _ => rfl

theorem throw (e : ε) : Silent (Call.throw e : Call Port ε α) (.throws e) := fun _ => rfl

theorem ofOutcome (x : Outcome ε α) : Silent (Call.ofOutcome x : Call Port ε α) x := fun _ => rfl

theorem bind {c : Call Port ε α} {x : Outcome ε α} {k : α → Call Port ε β} {f : α → Outcome ε β}
    (first : Silent c x) (rest : ∀ a, Silent (k a) (f a)) : Silent (c >>= k) (x >>= f) := by
  intro port
  change Call.bind c k port = _
  rw [Call.bind, Call.outcome, Call.after, first port]
  cases x with
  | value a => exact rest a port
  | throws e => rfl
  | undefined => rfl

/-- What follows an exception is not run. -/
theorem throws_bind {c : Call Port ε α} {e : ε} {k : α → Call Port ε β} (first : Silent c (.throws e)) :
    Silent (c >>= k) (.throws e) := by
  intro port
  change Call.bind c k port = _
  rw [Call.bind, Call.outcome, Call.after, first port]

end Silent

namespace Sends

variable {c : Call Port ε α} {frame : H9Frame} {x : Outcome ε α}

theorem bind {k : α → Call Port ε β} {f : α → Outcome ε β} (first : Sends c frame x)
    (rest : ∀ a, Silent (k a) (f a)) : Sends (c >>= k) frame (x >>= f) := by
  intro port
  change Call.bind c k port = _
  rw [Call.bind, Call.outcome, Call.after, first port]
  cases x with
  | value a => exact rest a _
  | throws e => rfl
  | undefined => rfl

theorem congr {y : Outcome ε α} (sends : Sends c frame x) (same : x = y) : Sends c frame y :=
  same ▸ sends

theorem outcome (sends : Sends c frame x) (port : Port) : c.outcome port = x :=
  congrArg Prod.fst (sends port)

theorem after (sends : Sends c frame x) (port : Port) : c.after port = port ++ [(frame, false)] :=
  congrArg Prod.snd (sends port)

/-- A call that sends a frame is not silent. -/
theorem after_ne (sends : Sends c frame x) (port : Port) : c.after port ≠ port := by
  rw [sends.after]
  simp

end Sends

theorem Silent.outcome {c : Call Port ε α} {x : Outcome ε α} (silent : Silent c x) (port : Port) :
    c.outcome port = x :=
  congrArg Prod.fst (silent port)

theorem Silent.after {c : Call Port ε α} {x : Outcome ε α} (silent : Silent c x) (port : Port) :
    c.after port = port :=
  congrArg Prod.snd (silent port)

end Port

/-- What the frame that fulfils a promise says to a register request. -/
inductive Answer
  | timeout
  | value (res : H9Frame)
  | refused (code : Byte)
  | malformed

def answer : Option H9Frame → Answer
  | none => .timeout
  | some res =>
      if res.type = FrameType.REG_VALUE ∧ 1 < res.dlc.toNat then .value res
      else if res.type = FrameType.COMMAND_ERROR ∧ res.dlc = 1 then .refused (res.data 0)
      else .malformed

/-- The data of a frame behind the number of the register, as far as the array goes. -/
def H9Frame.valueBytes (res : H9Frame) : List Byte := (List.ofFn res.data).tail

/-- How many bytes of it the length of the frame counts. -/
def H9Frame.valueLength (res : H9Frame) : ℕ := res.dlc.toNat - 1

@[simp] theorem H9Frame.length_valueBytes (res : H9Frame) : res.valueBytes.length = 7 := rfl

section Answers

variable {res : H9Frame}

theorem answer_value (type : res.type = FrameType.REG_VALUE) (length : 1 < res.dlc.toNat) :
    answer (some res) = .value res :=
  if_pos ⟨type, length⟩

theorem answer_refused (type : res.type = FrameType.COMMAND_ERROR) (length : res.dlc = 1) :
    answer (some res) = .refused (res.data 0) := by
  have other : ¬(res.type = FrameType.REG_VALUE ∧ 1 < res.dlc.toNat) := by
    rw [type]
    rintro ⟨same, -⟩
    exact absurd same (by decide)
  rw [answer, if_neg other, if_pos ⟨type, length⟩]

theorem answer_malformed (value : ¬(res.type = FrameType.REG_VALUE ∧ 1 < res.dlc.toNat))
    (refused : ¬(res.type = FrameType.COMMAND_ERROR ∧ res.dlc = 1)) :
    answer (some res) = .malformed := by
  rw [answer, if_neg value, if_neg refused]

end Answers

namespace RawNode

variable {ε : Type} (env : Env) (nodeId : Byte) (request : Request) (limit : ℕ → ℕ)

theorem copyData_eq (res : H9Frame) {max : ℕ} {buf : List Byte} (inFrame : max ≤ 7)
    (inBuffer : max ≤ buf.length) :
    (copyData res max buf : Outcome ε _) = .value (res.valueBytes.take max ++ buf.drop max) :=
  if_pos ⟨inFrame, inBuffer⟩

section Exchange

variable {β : Type} (copy : H9Frame → ℕ → β → Outcome ε β) (cells : β)

/-- The result and the buffer that `bit_operation`, `set_reg` and `get_reg` return. -/
def received : Answer → Outcome ε (ℤ × β)
  | .timeout => .value (TIMEOUT_ERROR, cells)
  | .value res => do
      let bytes ← copy res (limit res.valueLength) cells
      return (res.valueLength, bytes)
  | .refused code => .value (-(code.toNat : ℤ), cells)
  | .malformed => .value (MALFORMED_FRAME_ERROR, cells)

theorem exchangeWith_sends :
    Sends (exchangeWith copy env nodeId request limit cells)
      (request.frame env.frameMemory "h9d" nodeId) (received limit copy cells (answer env.reply)) := by
  intro port
  rw [exchangeWith]
  cases reply : env.reply with
  | none =>
    change (match env.reply with | none => _ | some res => _ : Call Port ε (ℤ × β)) _ = _
    rw [reply]
    rfl
  | some res =>
    change (match env.reply with | none => _ | some res => _ : Call Port ε (ℤ × β)) _ = _
    rw [reply]
    dsimp only
    by_cases value : res.type = FrameType.REG_VALUE ∧ 1 < res.dlc.toNat
    · have count : (res.dlc.toNat : ℤ) - 1 = ((res.dlc.toNat - 1 : ℕ) : ℤ) := by omega
      rw [if_pos value, answer_value value.1 value.2, count]
      exact (Silent.ofOutcome _).bind (fun _ => Silent.pure _) _
    · rw [if_neg value]
      by_cases refused : res.type = FrameType.COMMAND_ERROR ∧ res.dlc = 1
      · rw [if_pos refused, answer_refused refused.1 refused.2]
        rfl
      · rw [if_neg refused, answer_malformed value refused]
        rfl

end Exchange

end RawNode

namespace Node

theorem throwOnError_timeout : Silent (throwOnError RawNode.TIMEOUT_ERROR) (.throws .timeoutException) :=
  fun _ => rfl

theorem throwOnError_malformed :
    Silent (throwOnError RawNode.MALFORMED_FRAME_ERROR) (.throws .malformedFrameException) :=
  fun _ => rfl

theorem throwOnError_count (n : ℕ) : Silent (throwOnError n) (.value ()) := by
  intro port
  have nonneg : ¬(n : ℤ) < 0 := by omega
  rw [throwOnError, if_neg nonneg]
  rfl

/-- An error code is told from the two results of the daemon itself by its size. -/
theorem throwOnError_code {code : Byte} (refused : code ≠ 0) :
    Silent (throwOnError (-(code.toNat : ℤ))) (.throws (.nodeException code.toNat)) := by
  have small := code.isLt
  have positive : code.toNat ≠ 0 := fun zero => refused (BitVec.eq_of_toNat_eq zero)
  have negative : -(code.toNat : ℤ) < 0 := by omega
  have timeout : -(code.toNat : ℤ) ≠ RawNode.TIMEOUT_ERROR := by
    simp only [RawNode.TIMEOUT_ERROR]
    omega
  have malformed : -(code.toNat : ℤ) ≠ RawNode.MALFORMED_FRAME_ERROR := by
    simp only [RawNode.MALFORMED_FRAME_ERROR]
    omega
  intro port
  rw [throwOnError, if_pos negative, if_neg timeout, if_neg malformed, neg_neg, Int.toNat_natCast]
  rfl

/-- What an operation makes of an answer: `value` computes with the value of the register, `zero` is what
happens on the error code 0, which is no negative number. -/
def ofAnswer {α : Type} (value : H9Frame → Outcome DevNodeException α)
    (zero : Outcome DevNodeException α) : Answer → Outcome DevNodeException α
  | .timeout => .throws .timeoutException
  | .value res => value res
  | .refused code => if code = 0 then zero else .throws (.nodeException code.toNat)
  | .malformed => .throws .malformedFrameException

theorem ofAnswer_congr {α : Type} {value value' : H9Frame → Outcome DevNodeException α}
    (same : ∀ res, value res = value' res) (zero : Outcome DevNodeException α) (a : Answer) :
    ofAnswer value zero a = ofAnswer value' zero a := by
  rw [funext same]

/-- `throwOnSize`, as what it computes. -/
def sized (n size : ℕ) : Outcome DevNodeException Unit :=
  if n = size then .value () else .throws .sizeMismatchException

theorem throwOnSize_silent (n size : ℕ) : Silent (throwOnSize n size) (sized n size) := by
  intro port
  rw [throwOnSize, sized]
  rcases eq_or_ne n size with same | apart
  · rw [if_pos same, if_neg (by omega)]
    rfl
  · rw [if_neg apart, if_pos (by omega)]
    rfl

section Exchange

variable {α β : Type} (env : Env) (nodeId : Byte) (request : RawNode.Request) (limit : ℕ → ℕ)
  (copy : H9Frame → ℕ → β → Outcome DevNodeException β) (buf : β)

/-- An exchange, the branches for negative results, and a rest that only computes. -/
theorem checkedExchange_sends {k : ℤ → β → Call Port DevNodeException α}
    {f : ℕ → β → Outcome DevNodeException α} (rest : ∀ (n : ℕ) bytes, Silent (k n bytes) (f n bytes)) :
    Sends (do
        let (ret, bytes) ← RawNode.exchangeWith copy env nodeId request limit buf
        throwOnError ret
        k ret bytes)
      (request.frame env.frameMemory "h9d" nodeId)
      (ofAnswer (fun res => do
          let bytes ← copy res (limit res.valueLength) buf
          f res.valueLength bytes)
        (f 0 buf) (answer env.reply)) := by
  intro port
  change Call.bind (RawNode.exchangeWith copy env nodeId request limit buf) _ port = _
  rw [Call.bind, Call.outcome, Call.after,
    RawNode.exchangeWith_sends env nodeId request limit copy buf port]
  cases answer env.reply with
  | timeout => exact throwOnError_timeout.throws_bind _
  | malformed => exact throwOnError_malformed.throws_bind _
  | refused code =>
    rw [RawNode.received, ofAnswer]
    rcases eq_or_ne code 0 with zero | other
    · rw [if_pos zero, zero]
      exact (throwOnError_count 0).bind (fun _ => rest 0 buf) _
    · rw [if_neg other]
      exact (throwOnError_code other).throws_bind _
  | value res =>
    rw [RawNode.received, ofAnswer]
    cases copy res (limit res.valueLength) buf with
    | value bytes => exact (throwOnError_count _).bind (fun _ => rest _ bytes) _
    | throws e => rfl
    | undefined => rfl

end Exchange

section Values

/-- A number of `width` bytes. -/
def numberOf (width : ℕ) (res : H9Frame) : Outcome DevNodeException ℕ := do
  sized res.valueLength width
  return RawNode.ofBigEndian (res.valueBytes.take width)

/-- All bytes of a register of `size` bytes. -/
def bytesOf (size : ℕ) (res : H9Frame) : Outcome DevNodeException RegValue :=
  if min size res.valueLength ≤ 7 then do
    sized res.valueLength size
    return .bytes (res.valueBytes.take size)
  else .undefined

/-- The characters in front of the first zero. -/
def text (bytes : List Byte) : RegValue :=
  .string (String.ofList ((bytes.takeWhile (· ≠ 0)).map fun b => Char.ofNat b.toNat))

/-- A text in a buffer for `size` bytes and a zero; `copied` is how many bytes are copied there. -/
def textOf (size copied : ℕ) (res : H9Frame) : Outcome DevNodeException RegValue :=
  if res.valueLength ≤ size ∧ copied ≤ 7 then .value (text (res.valueBytes.take res.valueLength))
  else .undefined

/-- The result of a bit operation: as many bytes as came. -/
def bitsOf (size : ℕ) (res : H9Frame) : Outcome DevNodeException RegValue :=
  if res.valueLength ≤ size ∧ res.valueLength ≤ 7 then
    .value (.bytes (res.valueBytes.take res.valueLength))
  else .undefined

variable (limit : ℕ → ℕ) {buf : List Byte} (res : H9Frame)

theorem copy_numberOf {width : ℕ} (small : width ≤ 4) (room : buf.length = width)
    (limited : ∀ n, limit n ≤ width) (full : limit width = width) :
    (do
        let bytes ← RawNode.copyData res (limit res.valueLength) buf
        sized res.valueLength width
        return RawNode.ofBigEndian bytes) = numberOf width res := by
  have fits := limited res.valueLength
  rw [RawNode.copyData_eq res (by omega) (by omega), Outcome.value_bind, numberOf, sized]
  rcases eq_or_ne res.valueLength width with same | apart
  · rw [if_pos same, same, full, List.drop_eq_nil_of_le room.le, List.append_nil]
  · rw [if_neg apart]
    rfl

theorem copy_bytesOf {size : ℕ} (room : buf.length = size) (limited : ∀ n, limit n = min size n) :
    (do
        let bytes ← RawNode.copyData res (limit res.valueLength) buf
        sized res.valueLength size
        vector bytes res.valueLength) = bytesOf size res := by
  rw [bytesOf, limited]
  rcases Nat.lt_or_ge 7 (min size res.valueLength) with beyond | inside
  · rw [if_neg (by omega), RawNode.copyData, if_neg (by omega)]
    rfl
  · rw [if_pos inside, RawNode.copyData_eq res inside (by omega), Outcome.value_bind, sized]
    rcases eq_or_ne res.valueLength size with same | apart
    · have taken : (res.valueBytes.take size).length = size := by
        rw [List.length_take, H9Frame.length_valueBytes]
        omega
      rw [if_pos same, same, Nat.min_self, List.drop_eq_nil_of_le room.le, List.append_nil, vector,
        if_pos taken.ge, List.take_of_length_le taken.le]
      rfl
    · rw [if_neg apart]
      rfl

/-- The zero that is written behind the bytes cuts off what was copied beyond them. -/
theorem takeWhile_set_zero {bytes : List Byte} {n : ℕ} (inside : n < bytes.length) :
    (bytes.set n 0).takeWhile (· ≠ 0) = (bytes.take n).takeWhile (· ≠ 0) := by
  induction bytes generalizing n with
  | nil => simp at inside
  | cons b bytes ih =>
    cases n with
    | zero => simp
    | succ n =>
      have later := ih (Nat.lt_of_succ_lt_succ inside)
      rw [List.set_cons_succ, List.take_succ_cons, List.takeWhile_cons, List.takeWhile_cons, later]

theorem copy_textOf {size copied : ℕ} (room : buf.length = size + 1)
    (enough : min res.valueLength size ≤ copied) (fits : copied ≤ size + 1) :
    (do
        let bytes ← RawNode.copyData res copied buf
        return RegValue.string (← cString bytes res.valueLength)) = textOf size copied res := by
  rw [textOf]
  rcases Nat.lt_or_ge 7 copied with beyond | inside
  · rw [if_neg (by omega), RawNode.copyData, if_neg (by omega)]
    rfl
  · have length : (res.valueBytes.take copied ++ buf.drop copied).length = size + 1 := by
      rw [List.length_append, List.length_take, List.length_drop, H9Frame.length_valueBytes]
      omega
    rw [RawNode.copyData_eq res inside (by omega), Outcome.value_bind, cString, length]
    rcases Nat.lt_or_ge size res.valueLength with long | short
    · rw [if_neg (by omega), if_neg (by omega)]
      rfl
    · rw [Nat.min_eq_left short] at enough
      rw [if_pos (by omega), if_pos ⟨short, inside⟩, takeWhile_set_zero (by rw [length]; omega),
        List.take_append_of_le_length (by rw [List.length_take, H9Frame.length_valueBytes]; omega),
        List.take_take, Nat.min_eq_left enough]
      rfl

theorem copy_bitsOf {size : ℕ} (room : buf.length = size) (limited : ∀ n, limit n = min size n) :
    (do
        let bytes ← RawNode.copyData res (limit res.valueLength) buf
        vector bytes res.valueLength) = bitsOf size res := by
  rw [bitsOf, limited]
  rcases Nat.lt_or_ge 7 (min size res.valueLength) with beyond | inside
  · rw [if_neg (by omega), RawNode.copyData, if_neg (by omega)]
    rfl
  · have length : (res.valueBytes.take (min size res.valueLength) ++
        buf.drop (min size res.valueLength)).length = size := by
      rw [List.length_append, List.length_take, List.length_drop, H9Frame.length_valueBytes]
      omega
    rw [RawNode.copyData_eq res inside (by omega), Outcome.value_bind, vector, length]
    rcases Nat.lt_or_ge size res.valueLength with long | short
    · rw [if_neg (by omega), if_neg (by omega)]
    · rw [Nat.min_eq_right short] at inside ⊢
      rw [if_pos short, if_pos ⟨short, inside⟩, List.take_append_of_le_length
        (by rw [List.length_take, H9Frame.length_valueBytes]; omega), List.take_take, Nat.min_self]

end Values

section Operations

variable (env : Env) (n : Node) (reg : Byte) (desc : RegisterDesc)

/-- The frame of a request to the node. -/
abbrev requestFrame (request : RawNode.Request) : H9Frame :=
  request.frame env.frameMemory "h9d" n.nodeId

theorem length_toBigEndian (width : ℕ) (v : BitVec 64) : (RawNode.toBigEndian width v).length = width := by
  simp [RawNode.toBigEndian]

theorem getNumber_sends {width : ℕ} (small : width ≤ 4) :
    Sends (n.getNumber env reg width) (n.requestFrame env (.getReg reg))
      (ofAnswer (numberOf width) (do sized 0 width; return RawNode.ofBigEndian (env.buffer width))
        (answer env.reply)) := by
  have read := checkedExchange_sends env n.nodeId (.getReg reg) (fun k => if width < k then width else k)
    RawNode.copyData (env.buffer width) (k := fun ret bytes => do throwOnSize ret width; return RawNode.ofBigEndian bytes)
    fun k bytes => (throwOnSize_silent k width).bind fun _ => Silent.pure _
  simp only [getNumber, RawNode.getRegNumber, RawNode.getReg, bind_assoc, pure_bind]
  refine read.congr (ofAnswer_congr (fun res => ?_) _ _)
  apply copy_numberOf (fun k => if width < k then width else k) res small (env.buffer_length width)
  · intro k
    split <;> omega
  · simp

theorem setNumber_sends {width : ℕ} (small : width ≤ 4) (v : BitVec 64) :
    Sends (do
        let (ret, val) ← RawNode.setRegNumber env n.nodeId reg width v
        throwOnError ret
        throwOnSize ret width
        return val)
      (n.requestFrame env (.setReg reg (RawNode.toBigEndian width v)))
      (ofAnswer (numberOf width) (do sized 0 width; return RawNode.ofBigEndian (env.buffer width))
        (answer env.reply)) := by
  have read := checkedExchange_sends env n.nodeId (.setReg reg (RawNode.toBigEndian width v))
    (fun k => if (RawNode.toBigEndian width v).length < k then
      (none : Option ℕ).getD (RawNode.toBigEndian width v).length else k)
    RawNode.copyData (env.buffer width) (k := fun ret bytes => do throwOnSize ret width; return RawNode.ofBigEndian bytes)
    fun k bytes => (throwOnSize_silent k width).bind fun _ => Silent.pure _
  simp only [RawNode.setRegNumber, RawNode.setReg, bind_assoc, pure_bind]
  rw [length_toBigEndian, Option.getD_none] at read ⊢
  refine read.congr (ofAnswer_congr (fun res => ?_) _ _)
  apply copy_numberOf (fun k => if width < k then width else k) res small (env.buffer_length width)
  · intro k
    split <;> omega
  · simp

theorem getBytes_sends :
    Sends (n.getBytes env reg desc) (n.requestFrame env (.getReg reg))
      (ofAnswer (bytesOf (byteSize desc))
        (do sized 0 (byteSize desc); vector (env.buffer (byteSize desc)) 0) (answer env.reply)) := by
  have read := checkedExchange_sends env n.nodeId (.getReg reg)
    (fun k => if byteSize desc < k then byteSize desc else k) RawNode.copyData (env.buffer (byteSize desc))
    (k := fun ret bytes => do
      throwOnSize ret (byteSize desc)
      Call.ofOutcome (vector bytes ret.toNat))
    fun k bytes => (throwOnSize_silent k (byteSize desc)).bind fun _ => Silent.ofOutcome _
  rw [getBytes, RawNode.getReg]
  refine read.congr (ofAnswer_congr (fun res => ?_) _ _)
  apply copy_bytesOf (fun k => if byteSize desc < k then byteSize desc else k) res (env.buffer_length _)
  intro k
  split <;> omega

theorem setBytes_sends (v : List Byte) (length : byteSize desc = v.length) :
    Sends (n.setBytes env reg desc v) (n.requestFrame env (.setReg reg v))
      (ofAnswer (bytesOf v.length) (do sized 0 v.length; vector (env.buffer v.length) 0)
        (answer env.reply)) := by
  have read := checkedExchange_sends env n.nodeId (.setReg reg v)
    (fun k => if v.length < k then (none : Option ℕ).getD v.length else k) RawNode.copyData
    (env.buffer v.length)
    (k := fun ret bytes => do
      throwOnSize ret v.length
      Call.ofOutcome (vector bytes ret.toNat))
    fun k bytes => (throwOnSize_silent k v.length).bind fun _ => Silent.ofOutcome _
  rw [setBytes, if_pos length, RawNode.setReg]
  refine read.congr (ofAnswer_congr (fun res => ?_) _ _)
  apply copy_bytesOf (fun k => if v.length < k then v.length else k) res (env.buffer_length _)
  intro k
  split <;> omega

theorem getString_sends :
    Sends (n.getString env reg desc) (n.requestFrame env (.getReg reg))
      (ofAnswer (fun res => textOf (byteSize desc) (min (byteSize desc) res.valueLength) res)
        (do return .string (← cString (env.buffer (byteSize desc + 1)) 0)) (answer env.reply)) := by
  have read := checkedExchange_sends env n.nodeId (.getReg reg)
    (fun k => if byteSize desc < k then byteSize desc else k) RawNode.copyData
    (env.buffer (byteSize desc + 1))
    (k := fun ret bytes => do return RegValue.string (← Call.ofOutcome (cString bytes ret.toNat)))
    fun k bytes => (Silent.ofOutcome _).bind fun _ => Silent.pure _
  rw [getString, RawNode.getReg]
  refine read.congr (ofAnswer_congr (fun res => ?_) _ _)
  have copied : (if byteSize desc < res.valueLength then byteSize desc else res.valueLength) =
      min (byteSize desc) res.valueLength := by
    split <;> omega
  rw [← copy_textOf res (env.buffer_length _) (Nat.min_comm _ _).le (by omega), copied]
  rfl

/-- The bytes of a text that are sent. -/
def textBytes (desc : RegisterDesc) (v : String) : List Byte :=
  (v.toList.map fun c => BitVec.ofNat 8 c.toNat).take (desc.size / 8)

/-- How many bytes of an answer of `k` bytes are copied when a text of `sent` bytes was written. -/
def copiedText (desc : RegisterDesc) (sent k : ℕ) : ℕ := if sent < k then byteSize desc + 1 else k

theorem length_textBytes (v : String) : (textBytes desc v).length = min (desc.size / 8) v.length := by
  rw [textBytes, List.length_take, List.length_map, String.length_toList]

theorem setString_sends (v : String) :
    Sends (n.setString env reg desc v) (n.requestFrame env (.setReg reg (textBytes desc v)))
      (ofAnswer
        (fun res =>
          textOf (byteSize desc) (copiedText desc (textBytes desc v).length res.valueLength) res)
        (do return .string (← cString (env.buffer (byteSize desc + 1)) 0)) (answer env.reply)) := by
  have read := checkedExchange_sends env n.nodeId (.setReg reg (textBytes desc v))
    (fun k => if (textBytes desc v).length < k then (some (byteSize desc + 1)).getD (textBytes desc v).length
      else k)
    RawNode.copyData (env.buffer (byteSize desc + 1))
    (k := fun ret bytes => do return RegValue.string (← Call.ofOutcome (cString bytes ret.toNat)))
    fun k bytes => (Silent.ofOutcome _).bind fun _ => Silent.pure _
  rw [setString, RawNode.setReg]
  refine read.congr (ofAnswer_congr (fun res => ?_) _ _)
  have short : (textBytes desc v).length ≤ byteSize desc := by
    rw [length_textBytes, byteSize]
    omega
  rw [Option.getD_some]
  apply copy_textOf res (env.buffer_length _)
  · split <;> omega
  · split <;> omega

/-- The body that both bit operations share, behind its checks of the description. -/
theorem bits_sends (request : RawNode.Request) :
    Sends (do
        let (ret, buf) ← RawNode.exchange env n.nodeId request
          (fun k => if byteSize desc < k then byteSize desc else k) (env.buffer (byteSize desc))
        throwOnError ret
        Call.ofOutcome (vector buf ret.toNat))
      (n.requestFrame env request)
      (ofAnswer (bitsOf (byteSize desc)) (vector (env.buffer (byteSize desc)) 0) (answer env.reply)) := by
  have read := checkedExchange_sends env n.nodeId request
    (fun k => if byteSize desc < k then byteSize desc else k) RawNode.copyData (env.buffer (byteSize desc))
    (k := fun ret bytes => Call.ofOutcome (vector bytes ret.toNat)) fun k bytes => Silent.ofOutcome _
  refine read.congr (ofAnswer_congr (fun res => ?_) _ _)
  apply copy_bitsOf (fun k => if byteSize desc < k then byteSize desc else k) res (env.buffer_length _)
  intro k
  split <;> omega

end Operations

end Node

end H9d
