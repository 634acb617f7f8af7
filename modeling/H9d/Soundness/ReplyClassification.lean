import H9d.Soundness.RegisterReads

/-! # What a caller learns of a reply

The lengths of values, the codes of nodes and the errors of the daemon itself come back in one signed
number, and the operations tell them apart by its sign. So the code 0 is no error to them.
-/

namespace H9d

open Cxx H9Frame

/-- The operations that wait for a frame of the node. -/
inductive NodeOperation
  | nodeReset
  | setRegister (reg : Byte) (value : RegValue)
  | getRegister (reg : Byte)
  | setRegisterBit (reg bitNum : Byte)
  | clearRegisterBit (reg bitNum : Byte)

namespace NodeOperation

/-- The operation, as far as its caller learns how it ended. -/
def run (env : Env) (n : Node) : NodeOperation → Call Port DevNodeException Unit
  | nodeReset => n.nodeReset env
  | setRegister reg value => do let _ ← n.setRegister env reg value
  | getRegister reg => do let _ ← n.getRegister env reg
  | setRegisterBit reg bitNum => do let _ ← n.setRegisterBit env reg bitNum
  | clearRegisterBit reg bitNum => do let _ ← n.clearRegisterBit env reg bitNum

/-- The frames that say that it was done. -/
def Success : NodeOperation → H9Frame → Prop
  | nodeReset, res => res.type = FrameType.NODE_TURNED_ON
  | setRegister _ _, res | getRegister _, res | setRegisterBit _ _, res | clearRegisterBit _ _, res =>
      res.type = FrameType.REG_VALUE ∧ 2 ≤ res.dlc.toNat

/-- The frames that say why it was not. -/
def Refusal (res : H9Frame) : Prop := res.type = FrameType.COMMAND_ERROR ∧ res.dlc = 1

instance (res : H9Frame) : Decidable (Refusal res) := inferInstanceAs (Decidable (_ ∧ _))

/-- How the operation has to end, by the reply alone. Of a success reply the length may be wrong. -/
def Classified (op : NodeOperation) (reply : Option H9Frame) (x : Outcome DevNodeException Unit) : Prop :=
  (reply = none → x = .throws .timeoutException) ∧
    ∀ res, reply = some res →
      (op.Success res → x = .value () ∨ x = .throws .sizeMismatchException) ∧
      (Refusal res → ∃ e, x = .throws e ∧ e = .nodeException (res.data 0).toNat ∧
        e.code = -1000 - (res.data 0).toNat) ∧
      (¬op.Success res → ¬Refusal res →
        x = .throws .malformedFrameException ∨ x = .throws .sizeMismatchException)

/-- A request goes to the node. -/
def Asks (env : Env) (n : Node) (op : NodeOperation) : Prop := ∀ port, (op.run env n).after port ≠ port

/-- The operation stays inside its buffers. -/
def Safe (env : Env) (n : Node) : NodeOperation → Prop
  | nodeReset => True
  | setRegister reg value => n.SafeSet env reg value
  | getRegister reg => n.SafeGet env reg
  | setRegisterBit reg _ | clearRegisterBit reg _ => n.SafeBit env reg

section Answers

/-- How an operation with these success frames reads a reply. -/
inductive Reads (success : H9Frame → Prop) : Option H9Frame → Answer → Prop
  | timeout : Reads success none .timeout
  | value (res : H9Frame) (done : success res) (other : ¬Refusal res) : Reads success (some res) (.value res)
  | refused (res : H9Frame) (undone : ¬success res) (refusal : Refusal res) :
      Reads success (some res) (.refused (res.data 0))
  | malformed (res : H9Frame) (undone : ¬success res) (other : ¬Refusal res) :
      Reads success (some res) .malformed

theorem reads_answer (reply : Option H9Frame) :
    Reads (fun res => res.type = FrameType.REG_VALUE ∧ 2 ≤ res.dlc.toNat) reply (answer reply) := by
  cases reply with
  | none => exact .timeout
  | some res =>
    by_cases done : res.type = FrameType.REG_VALUE ∧ 2 ≤ res.dlc.toNat
    · have other : ¬Refusal res := by
        rintro ⟨type, -⟩
        rw [done.1] at type
        exact absurd type (by decide)
      rw [answer_value done.1 done.2]
      exact .value res done other
    · by_cases refusal : Refusal res
      · rw [answer_refused refusal.1 refusal.2]
        exact .refused res done refusal
      · rw [answer_malformed done refusal]
        exact .malformed res done refusal

/-- The values that an operation computes go wrong only by their length. -/
def Measured {α : Type} (x : Outcome DevNodeException α) : Prop :=
  ∀ e, x = .throws e → e = .sizeMismatchException

/-- The operation gives nothing to the bus and does not return, or it gives one frame, and then it ends by the
answer. -/
def Handled {α : Type} (success : H9Frame → Prop) (reply : Option H9Frame)
    (c : Call Port DevNodeException α) : Prop :=
  (∃ x, Silent c x ∧ ¬x.Returns) ∨
    ∃ frame value zero a, Reads success reply a ∧ (∀ res, Measured (value res)) ∧ Measured zero ∧
      Sends c frame (Node.ofAnswer value zero a)

theorem measured_sized {α : Type} (n size : ℕ) {f : Unit → Outcome DevNodeException α}
    (rest : ∀ a, Measured (f a)) : Measured (Node.sized n size >>= f) := by
  rw [Node.sized]
  split
  · exact rest ()
  · rintro e ⟨⟩
    rfl

theorem measured_value {α : Type} (a : α) : Measured (.value a) := nofun

theorem measured_undefined {α : Type} : Measured (.undefined : Outcome DevNodeException α) := nofun

theorem measured_bind {α β : Type} {x : Outcome DevNodeException α} {f : α → Outcome DevNodeException β}
    (first : Measured x) (rest : ∀ a, Measured (f a)) : Measured (x >>= f) := by
  cases x with
  | value a => exact rest a
  | throws e =>
    rintro _ ⟨⟩
    exact first e rfl
  | undefined => exact measured_undefined

theorem measured_numberOf (width : ℕ) (res : H9Frame) : Measured (Node.numberOf width res) :=
  measured_sized _ _ fun _ => measured_value _

theorem measured_bytesOf (size : ℕ) (res : H9Frame) : Measured (Node.bytesOf size res) := by
  rw [Node.bytesOf]
  split
  · exact measured_sized _ _ fun _ => measured_value _
  · exact measured_undefined

theorem measured_textOf (size copied : ℕ) (res : H9Frame) : Measured (Node.textOf size copied res) := by
  rw [Node.textOf]
  split
  · exact measured_value _
  · exact measured_undefined

theorem measured_bitsOf (size : ℕ) (res : H9Frame) : Measured (Node.bitsOf size res) := by
  rw [Node.bitsOf]
  split
  · exact measured_value _
  · exact measured_undefined

theorem measured_vector (buf : List Byte) (ret : ℕ) : Measured (Node.vector buf ret) := by
  rw [Node.vector]
  split
  · exact measured_value _
  · exact measured_undefined

theorem measured_cString (buf : List Byte) (ret : ℕ) : Measured (Node.cString buf ret) := by
  rw [Node.cString]
  split
  · exact measured_value _
  · exact measured_undefined

namespace Handled

variable {α β : Type} {success : H9Frame → Prop} {reply : Option H9Frame}

theorem of_silent {c : Call Port DevNodeException α} {x : Outcome DevNodeException α} (silent : Silent c x)
    (ends : ¬x.Returns) : Handled success reply c :=
  .inl ⟨x, silent, ends⟩

theorem throw (e : DevNodeException) : Handled success reply (Call.throw e : Call Port DevNodeException α) :=
  .of_silent (Silent.throw e) (Outcome.not_returns_throws e)

theorem map {c : Call Port DevNodeException α} (handled : Handled success reply c) (f : α → β) :
    Handled success reply (c >>= fun a => pure (f a)) := by
  rcases handled with ⟨x, silent, ends⟩ | ⟨frame, value, zero, a, reads, values, zeros, sends⟩
  · refine .of_silent (silent.bind fun a => Silent.pure (f a)) ?_
    rw [Outcome.Returns, Outcome.only_bind]
    exact fun returns => ends returns.1
  · refine .inr ⟨frame, _, _, a, reads, fun res => ?_, ?_,
      (sends.bind fun a => Silent.pure (f a)).congr (Node.ofAnswer_bind value zero _ a)⟩
    · exact measured_bind (values res) fun _ => measured_value _
    · exact measured_bind zeros fun _ => measured_value _

theorem of_sends {frame : H9Frame} {value : H9Frame → Outcome DevNodeException α}
    {zero : Outcome DevNodeException α} {env : Env} {c : Call Port DevNodeException α}
    (sends : Sends c frame (Node.ofAnswer value zero (answer env.reply)))
    (values : ∀ res, Measured (value res)) (zeros : Measured zero) :
    Handled (fun res => res.type = FrameType.REG_VALUE ∧ 2 ≤ res.dlc.toNat) env.reply c :=
  .inr ⟨frame, value, zero, answer env.reply, reads_answer env.reply, values, zeros, sends⟩

end Handled

end Answers

section Operations

variable (env : Env) (n : Node) (reg : Byte)

/-- The success frames of a register operation. -/
abbrev registerValue (res : H9Frame) : Prop := res.type = FrameType.REG_VALUE ∧ 2 ≤ res.dlc.toNat

theorem handled_setInt (desc : RegisterDesc) (v : BitVec 64) :
    Handled registerValue env.reply (n.setInt env reg desc v) := by
  rcases Nat.lt_or_ge 32 desc.size with large | bounded
  · exact .of_silent (Node.setInt_refused env n reg large v) (Outcome.not_returns_throws _)
  · rcases Nat.lt_or_ge 30 desc.size with unmasked | small
    · exact .of_silent (Node.setInt_undefined env n reg unmasked bounded v) Outcome.not_returns_undefined
    · apply Handled.of_sends (Node.setInt_sends env n reg (Node.numberWidth_eq bounded) small v)
      · intro res
        exact measured_bind (measured_numberOf _ res) fun _ => measured_value _
      · exact measured_sized _ _ fun _ => measured_value _

theorem handled_setFloat (v : BitVec 32) : Handled registerValue env.reply (n.setFloat env reg v) := by
  apply Handled.of_sends (Node.setFloat_sends env n reg v)
  · intro res
    exact measured_bind (measured_numberOf _ res) fun _ => measured_value _
  · exact measured_sized _ _ fun _ => measured_value _

theorem handled_setString (desc : RegisterDesc) (v : String) :
    Handled registerValue env.reply (n.setString env reg desc v) := by
  apply Handled.of_sends (Node.setString_sends env n reg desc v)
  · exact fun res => measured_textOf _ _ res
  · exact measured_bind (measured_cString _ _) fun _ => measured_value _

theorem handled_setBytes (desc : RegisterDesc) (v : List Byte) :
    Handled registerValue env.reply (n.setBytes env reg desc v) := by
  rcases eq_or_ne (Node.byteSize desc) v.length with length | apart
  · apply Handled.of_sends (Node.setBytes_sends env n reg desc v length)
    · exact fun res => measured_bytesOf _ res
    · exact measured_sized _ _ fun _ => measured_vector _ _
  · rw [Node.setBytes, if_neg apart]
    exact .throw _

theorem handled_setRegister (value : RegValue) :
    Handled registerValue env.reply (n.setRegister env reg value) := by
  rw [Node.setRegister]
  cases n.registerMap reg with
  | none => exact .throw _
  | some desc =>
    dsimp only
    split
    · cases value with
      | int v =>
        dsimp only
        split
        · exact handled_setInt env n reg desc v
        · exact .throw _
      | float v =>
        dsimp only
        split
        · exact handled_setFloat env n reg v
        · exact .throw _
      | string v =>
        dsimp only
        split
        · exact handled_setString env n reg desc v
        · exact .throw _
      | bytes v => exact handled_setBytes env n reg desc v
    · exact .throw _

theorem handled_getNumber {width : ℕ} (small : width ≤ 4) :
    Handled registerValue env.reply (n.getNumber env reg width) := by
  apply Handled.of_sends (Node.getNumber_sends env n reg small)
  · exact fun res => measured_numberOf width res
  · exact measured_sized _ _ fun _ => measured_value _

theorem handled_getBytes (desc : RegisterDesc) :
    Handled registerValue env.reply (n.getBytes env reg desc) := by
  apply Handled.of_sends (Node.getBytes_sends env n reg desc)
  · exact fun res => measured_bytesOf _ res
  · exact measured_sized _ _ fun _ => measured_vector _ _

theorem handled_getString (desc : RegisterDesc) :
    Handled registerValue env.reply (n.getString env reg desc) := by
  apply Handled.of_sends (Node.getString_sends env n reg desc)
  · exact fun res => measured_textOf _ _ res
  · exact measured_bind (measured_cString _ _) fun _ => measured_value _

theorem handled_getRegister : Handled registerValue env.reply (n.getRegister env reg) := by
  rw [Node.getRegister]
  cases n.registerMap reg with
  | none => exact .throw _
  | some desc =>
    dsimp only
    split
    · split
      · exact (handled_getNumber env n reg le_rfl).map _
      · split
        · cases number : Node.numberWidth desc.size with
          | some width => exact (handled_getNumber env n reg (Node.numberWidth_bounds number).2).map _
          | none => exact handled_getBytes env n reg desc
        · exact handled_getString env n reg desc
    · exact .throw _

theorem handled_bitOperation (request : RawNode.Request) :
    Handled registerValue env.reply (n.bitOperation env reg fun length buf =>
      RawNode.exchange env n.nodeId request (fun k => if length < k then length else k) buf) := by
  rw [Node.bitOperation]
  cases n.registerMap reg with
  | none => exact .throw _
  | some desc =>
    dsimp only
    split
    · split
      · apply Handled.of_sends (Node.bits_sends env n desc request)
        · exact fun res => measured_bitsOf _ res
        · exact measured_vector _ _
      · exact .throw _
    · exact .throw _

/-- A reset reads a reply as the register operations do, but for the frame that says it was done. -/
def resetAnswer : Option H9Frame → Answer
  | none => .timeout
  | some res =>
      if res.type = FrameType.NODE_TURNED_ON then .value res
      else if Refusal res then .refused (res.data 0)
      else .malformed

theorem reads_resetAnswer (reply : Option H9Frame) :
    Reads (fun res => res.type = FrameType.NODE_TURNED_ON) reply (resetAnswer reply) := by
  cases reply with
  | none => exact .timeout
  | some res =>
    rw [resetAnswer]
    split
    · next done =>
      refine .value res done ?_
      rintro ⟨type, -⟩
      rw [done] at type
      exact absurd type (by decide)
    · next undone =>
      split
      · next refusal => exact .refused res undone refusal
      · next other => exact .malformed res undone other

/-- The number that a reset returns. -/
def resetResult : Answer → ℤ
  | .timeout => RawNode.TIMEOUT_ERROR
  | .value res => res.dlc.toNat
  | .refused code => -(code.toNat : ℤ)
  | .malformed => RawNode.MALFORMED_FRAME_ERROR

theorem reset_sends {ε : Type} (nodeId : Byte) :
    Sends (RawNode.reset env nodeId : Call Port ε ℤ)
      (RawNode.Request.reset.frame env.frameMemory "h9d" nodeId)
      (.value (resetResult (resetAnswer env.reply))) := by
  intro port
  rw [RawNode.reset]
  cases reply : env.reply with
  | none =>
    change (match env.reply with | none => _ | some res => _ : Call Port ε ℤ) _ = _
    rw [reply]
    rfl
  | some res =>
    change (match env.reply with | none => _ | some res => _ : Call Port ε ℤ) _ = _
    rw [reply, resetAnswer]
    dsimp only
    by_cases done : res.type = FrameType.NODE_TURNED_ON
    · rw [if_pos done, if_pos done]
      rfl
    · rw [if_neg done, if_neg done]
      by_cases refusal : Refusal res
      · rw [if_pos refusal, if_pos (show res.type = FrameType.COMMAND_ERROR ∧ res.dlc = 1 from refusal)]
        rfl
      · rw [if_neg refusal, if_neg (show ¬(res.type = FrameType.COMMAND_ERROR ∧ res.dlc = 1) from refusal)]
        rfl

theorem nodeReset_sends :
    Sends (n.nodeReset env) (n.requestFrame env .reset)
      (Node.ofAnswer (fun _ => .value ()) (.value ()) (resetAnswer env.reply)) := by
  intro port
  change Call.bind (RawNode.reset env n.nodeId) _ port = _
  rw [Call.bind, Call.outcome, Call.after, reset_sends env n.nodeId port]
  cases resetAnswer env.reply with
  | timeout => exact Node.throwOnError_timeout _
  | value res => exact Node.throwOnError_count res.dlc.toNat _
  | malformed => exact Node.throwOnError_malformed _
  | refused code =>
    rw [resetResult, Node.ofAnswer]
    rcases eq_or_ne code 0 with zero | other
    · rw [if_pos zero, zero]
      exact Node.throwOnError_count 0 _
    · rw [if_neg other]
      exact Node.throwOnError_code other _

theorem handled_run (op : NodeOperation) : Handled op.Success env.reply (op.run env n) := by
  cases op with
  | nodeReset =>
    exact .inr ⟨_, _, _, _, reads_resetAnswer env.reply, fun _ => measured_value _, measured_value _,
      nodeReset_sends env n⟩
  | setRegister reg value => exact (handled_setRegister env n reg value).map fun _ => ()
  | getRegister reg => exact (handled_getRegister env n reg).map fun _ => ()
  | setRegisterBit reg bitNum => exact (handled_bitOperation env n reg (.setBit reg bitNum)).map fun _ => ()
  | clearRegisterBit reg bitNum =>
    exact (handled_bitOperation env n reg (.clearBit reg bitNum)).map fun _ => ()

theorem discard_defined {c : Call Port DevNodeException RegValue} (port : Port) :
    ((c >>= fun _ => pure ()).outcome port).Defined ↔ (c.outcome port).Defined :=
  Call.only_bind_of_forall fun _ _ => trivial

theorem run_defined (op : NodeOperation) (port : Port) :
    ((op.run env n).outcome port).Defined ↔ op.Safe env n := by
  cases op with
  | nodeReset => exact iff_of_true (Node.nodeReset_defined env n port) trivial
  | setRegister reg value =>
    exact (discard_defined port).trans (Node.setRegister_defined env n reg port value)
  | getRegister reg => exact (discard_defined port).trans (Node.getRegister_defined env n reg port)
  | setRegisterBit reg bitNum =>
    exact (discard_defined port).trans (Node.setRegisterBit_defined env n reg port bitNum)
  | clearRegisterBit reg bitNum =>
    exact (discard_defined port).trans (Node.clearRegisterBit_defined env n reg port bitNum)

end Operations

section Classification

variable {op : NodeOperation} {reply : Option H9Frame}

/-- What does not end is no classification. -/
theorem Classified.defined {x : Outcome DevNodeException Unit} (classified : op.Classified reply x) :
    x.Defined := by
  obtain ⟨timeout, replied⟩ := classified
  cases reply with
  | none =>
    rw [timeout rfl]
    exact Outcome.defined_throws _
  | some res =>
    obtain ⟨success, refused, malformed⟩ := replied res rfl
    by_cases done : op.Success res
    · rcases success done with same | same <;> rw [same] <;> trivial
    · by_cases refusal : Refusal res
      · obtain ⟨e, same, -⟩ := refused refusal
        rw [same]
        exact Outcome.defined_throws _
      · rcases malformed done refusal with same | same <;> rw [same] <;> trivial

theorem classified_some {res : H9Frame} {x : Outcome DevNodeException Unit} :
    op.Classified (some res) x ↔
      (op.Success res → x = .value () ∨ x = .throws .sizeMismatchException) ∧
      (Refusal res → ∃ e, x = .throws e ∧ e = .nodeException (res.data 0).toNat ∧
        e.code = -1000 - (res.data 0).toNat) ∧
      (¬op.Success res → ¬Refusal res →
        x = .throws .malformedFrameException ∨ x = .throws .sizeMismatchException) := by
  simp [Classified]

/-- The code 0 is the one that is not told from a success. -/
theorem classified_ofAnswer {value : H9Frame → Outcome DevNodeException Unit}
    {zero : Outcome DevNodeException Unit} {a : Answer} (reads : Reads op.Success reply a)
    (values : ∀ res, Measured (value res)) (zeros : Measured zero)
    (defined : (Node.ofAnswer value zero a).Defined) :
    op.Classified reply (Node.ofAnswer value zero a) ↔
      ∀ res, reply = some res → Refusal res → res.data 0 ≠ 0 := by
  cases reads with
  | timeout =>
    apply iff_of_true
    · refine ⟨fun _ => rfl, ?_⟩
      rintro _ ⟨⟩
    · rintro _ ⟨⟩
  | value res done other =>
    have ends : value res = .value () ∨ value res = .throws .sizeMismatchException := by
      rw [Node.ofAnswer] at defined
      cases ending : value res with
      | value u => exact .inl rfl
      | throws e => exact .inr (congrArg _ (values res e ending))
      | undefined =>
        rw [ending] at defined
        exact absurd defined Outcome.not_defined_undefined
    apply iff_of_true
    · exact classified_some.mpr
        ⟨fun _ => ends, fun refusal => absurd refusal other, fun undone => absurd done undone⟩
    · rintro _ ⟨⟩ refusal
      exact absurd refusal other
  | refused res undone refusal =>
    rw [Node.ofAnswer]
    rcases eq_or_ne (res.data 0) 0 with null | code
    · rw [if_pos null]
      apply iff_of_false
      · rintro ⟨-, replied⟩
        obtain ⟨e, same, named, -⟩ := (replied res rfl).2.1 refusal
        have mismatch := zeros e same
        rw [named, null] at mismatch
        exact absurd mismatch (by decide)
      · exact fun nonzero => nonzero res rfl refusal null
    · rw [if_neg code]
      apply iff_of_true
      · exact classified_some.mpr
          ⟨fun done => absurd done undone, fun _ => ⟨_, rfl, rfl, rfl⟩, fun _ other => absurd refusal other⟩
      · rintro _ ⟨⟩ _
        exact code
  | malformed res undone other =>
    apply iff_of_true
    · exact classified_some.mpr
        ⟨fun done => absurd done undone, fun refusal => absurd refusal other, fun _ _ => .inl rfl⟩
    · rintro _ ⟨⟩ refusal
      exact absurd refusal other

/-- An operation that asks the node tells its caller what the reply was, exactly if the reply is no error
with the code 0 and stays inside the buffers. -/
theorem classified_iff (env : Env) (n : Node) (asks : op.Asks env n) :
    (∀ port, op.Classified env.reply ((op.run env n).outcome port)) ↔
      (∀ res, env.reply = some res → Refusal res → res.data 0 ≠ 0) ∧ op.Safe env n := by
  rcases handled_run env n op with ⟨_, silent, -⟩ | ⟨frame, value, zero, a, reads, values, zeros, sends⟩
  · exact absurd (silent.after []) (asks [])
  · have ends := run_defined env n op
    simp only [sends.outcome] at ends ⊢
    constructor
    · intro classified
      have defined := (classified []).defined
      exact ⟨(classified_ofAnswer reads values zeros defined).mp (classified []), (ends []).mp defined⟩
    · rintro ⟨nonzero, safe⟩ port
      exact (classified_ofAnswer reads values zeros ((ends port).mpr safe)).mpr nonzero

end Classification

theorem asks_nodeReset (env : Env) (n : Node) : nodeReset.Asks env n :=
  fun port => (nodeReset_sends env n).after_ne port

/-- An error of a node in answer to the frame numbered 0. -/
def commandError (nodeId code : Byte) : H9Frame :=
  ({ (default : H9Frame) with type := FrameType.COMMAND_ERROR, sourceId := nodeId }).setData [code]

theorem classified_refusedReset :
    nodeReset.Classified (some (commandError 7 5))
      ((nodeReset.run (Node.answeredBy (commandError 7 5)) (Node.make default 7)).outcome []) :=
  (classified_iff (Node.answeredBy (commandError 7 5)) (Node.make default 7) (asks_nodeReset _ _)).mpr
    ⟨by rintro _ ⟨⟩ -; decide, trivial⟩ []

/-- The error with the code 0 fulfils the promise of a reset, and the reset returns as if it was done. -/
theorem classified_errorZero :
    ((RawNode.Request.reset.comparator 0 7).setSeqnum (Node.answeredBy (commandError 7 0)).seqnum).eqFrame
        (commandError 7 0) = true ∧
      (nodeReset.run (Node.answeredBy (commandError 7 0)) (Node.make default 7)).outcome [] = .value () ∧
      ¬∀ port, nodeReset.Classified (some (commandError 7 0))
        ((nodeReset.run (Node.answeredBy (commandError 7 0)) (Node.make default 7)).outcome port) := by
  have returns : (nodeReset.run (Node.answeredBy (commandError 7 0)) (Node.make default 7)).outcome [] =
      .value () := (nodeReset_sends _ _).outcome []
  refine ⟨by decide, returns, fun classified => ?_⟩
  obtain ⟨e, thrown, -⟩ := ((classified []).2 (commandError 7 0) rfl).2.1 ⟨rfl, rfl⟩
  rw [returns] at thrown
  cases thrown

end NodeOperation

end H9d
