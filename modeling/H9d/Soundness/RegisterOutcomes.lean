import H9d.Model.NodeMgr

/-! # How the operations on registers end

The value in an answer is copied byte by byte to a buffer that follows the description of the
register. The loop is bounded by the length that was asked for, or by the answer alone, and in
neither case by the frame. Each operation gets the exact condition under which it ends; the other
calls run into undefined behaviour.
-/

namespace H9d

open Cxx H9Frame

/-- The bytes of the register value that answers the call, if one does. -/
def Env.answered (env : Env) : Option ℕ :=
  env.reply.bind fun res =>
    if res.type = FrameType.REG_VALUE ∧ 1 < res.dlc.toNat then some (res.dlc.toNat - 1) else none

theorem Env.answered_pos {env : Env} {n : ℕ} (answered : env.answered = some n) : 0 < n := by
  obtain ⟨res, -, cond⟩ := Option.bind_eq_some_iff.mp answered
  obtain ⟨⟨-, length⟩, ⟨⟩⟩ := Option.ite_none_right_eq_some.mp cond
  omega

@[simp] theorem Env.buffer_length (env : Env) (length : ℕ) : (env.buffer length).length = length := by
  rw [Env.buffer, List.length_map, List.length_range]

namespace RawNode

variable {ε : Type} (env : Env) (nodeId : Byte) (request : Request) (limit : ℕ → ℕ) (buf : List Byte)

theorem copyData_of_le (res : H9Frame) {max : ℕ} (frame : max ≤ 7) (length : max ≤ buf.length) :
    ∃ bytes, bytes.length = buf.length ∧ (copyData res max buf : Outcome ε _) = .value bytes := by
  refine ⟨_, ?_, if_pos ⟨frame, length⟩⟩
  simp only [List.length_append, List.length_take, List.length_tail, List.length_ofFn,
    List.length_drop]
  omega

theorem ask_bind {α : Type} (k : Option H9Frame → Call Port ε α) (port : Port) :
    (ask env nodeId request >>= k).outcome port =
      (k env.reply).outcome (port ++ [(request.frame env.frameMemory "h9d" nodeId, false)]) := rfl

/-- Without a register value the buffer stays as it is, and the result is not positive. -/
theorem exchange_unanswered (none : env.answered = none) (port : Port) :
    ∃ ret ≤ (0 : ℤ),
      (exchange env nodeId request limit buf : Call Port ε _).outcome port = .value (ret, buf) := by
  rw [exchange, ask_bind]
  cases reply : env.reply with
  | none => exact ⟨TIMEOUT_ERROR, by decide, rfl⟩
  | some res =>
    have other : ¬(res.type = FrameType.REG_VALUE ∧ 1 < res.dlc.toNat) := by
      simpa [Env.answered, reply] using none
    dsimp only
    rw [if_neg other]
    split
    · exact ⟨_, by simp, rfl⟩
    · exact ⟨MALFORMED_FRAME_ERROR, by decide, rfl⟩

theorem exchange_answered {n : ℕ} (some : env.answered = some n) (port : Port) :
    ∃ res, (exchange env nodeId request limit buf : Call Port ε _).outcome port =
      copyData res (limit n) buf >>= fun bytes => .value ((n : ℤ), bytes) := by
  obtain ⟨res, reply, cond⟩ := Option.bind_eq_some_iff.mp some
  obtain ⟨value, length⟩ := Option.ite_none_right_eq_some.mp cond
  obtain rfl := Option.some.inj length
  refine ⟨res, ?_⟩
  rw [exchange, ask_bind, reply]
  dsimp only
  rw [if_pos value]
  have count : ((res.dlc.toNat - 1 : ℕ) : ℤ) = (res.dlc.toNat : ℤ) - 1 := by omega
  rw [count]
  change (Call.bind _ _ _).1 = _
  rw [Call.bind, Call.outcome_ofOutcome]
  cases (copyData res (limit (res.dlc.toNat - 1)) buf : Outcome ε _) <;> rfl

/-- What a call with an answer needs: the bytes that are copied are in the frame and in the buffer,
and the rest ends. -/
theorem exchange_bind_only {α : Type} {P : ε → Prop} {k : ℤ × List Byte → Call Port ε α} {Q : ℕ → Prop}
    {U : Prop} (port : Port)
    (unanswered : ∀ ret ≤ 0, ∀ s, ((k (ret, buf)).outcome s).Only P ↔ U)
    (answered : ∀ n : ℕ, 0 < n → ∀ bytes, bytes.length = buf.length →
      ∀ s, ((k ((n : ℤ), bytes)).outcome s).Only P ↔ Q n) :
    ((exchange env nodeId request limit buf >>= k).outcome port).Only P ↔
      match env.answered with
      | some n => limit n ≤ 7 ∧ limit n ≤ buf.length ∧ Q n
      | none => U := by
  rw [Call.only_bind]
  cases answer : env.answered with
  | none =>
    obtain ⟨ret, nonpos, value⟩ := exchange_unanswered env nodeId request limit buf answer port
    rw [value]
    simp [unanswered ret nonpos]
  | some n =>
    obtain ⟨res, copy⟩ := exchange_answered env nodeId request limit buf answer port
    rw [copy]
    dsimp only
    by_cases fits : limit n ≤ 7 ∧ limit n ≤ buf.length
    · obtain ⟨bytes, length, copied⟩ := copyData_of_le buf res fits.1 fits.2
      rw [copied, Outcome.value_bind]
      simp [fits, answered n (Env.answered_pos answer) bytes length]
    · rw [copyData, if_neg fits, Outcome.undefined_bind]
      simpa using fun frame length => absurd ⟨frame, length⟩ fits

end RawNode

namespace Node

section Checks

variable {α : Type} {b : Prop} (k : Unit → Call Port DevNodeException α) (port : Port)

theorem throwOnError_bind_only (ret : ℤ) :
    ((throwOnError ret >>= k).outcome port).Only (fun _ => b) ↔
      (ret < 0 → b) ∧ (0 ≤ ret → ((k ()).outcome port).Only fun _ => b) := by
  rw [throwOnError]
  rcases lt_or_ge ret 0 with negative | nonneg
  · rw [if_pos negative, Call.only_bind]
    have apart : ¬0 ≤ ret := by omega
    split_ifs <;> simp [negative, apart]
  · have apart : ¬ret < 0 := by omega
    simp [apart, nonneg]

theorem throwOnSize_bind_only (ret : ℤ) (size : ℕ) :
    ((throwOnSize ret size >>= k).outcome port).Only (fun _ => b) ↔
      (ret ≠ size → b) ∧ (ret = size → ((k ()).outcome port).Only fun _ => b) := by
  rw [throwOnSize]
  rcases eq_or_ne ret size with same | apart
  · simp [same]
  · rw [if_pos apart, Call.only_bind]
    simp [apart]

/-- Both checks, one after the other. -/
theorem checked_only (ret : ℤ) (size : ℕ) :
    ((throwOnError ret >>= fun _ => throwOnSize ret size >>= k).outcome port).Only (fun _ => b) ↔
      (ret ≠ size → b) ∧ (ret = size → ((k ()).outcome port).Only fun _ => b) := by
  rw [throwOnError_bind_only, throwOnSize_bind_only]
  constructor
  · rintro ⟨negative, checked⟩
    refine ⟨fun apart => ?_, fun same => (checked (by omega)).2 same⟩
    rcases lt_or_ge ret 0 with neg | nonneg
    · exact negative neg
    · exact (checked nonneg).1 apart
  · exact fun ⟨apart, rest⟩ => ⟨fun neg => apart (by omega), fun _ => ⟨apart, rest⟩⟩

end Checks

section Numbers

variable {α : Type} {b : Prop} (env : Env) (nodeId reg : Byte) {width : ℕ}
  (rest : ℕ → Call Port DevNodeException α) (port : Port)

/-- A number fits its buffer and every frame, so only the length of the answer counts. -/
theorem exchange_number_only (request : RawNode.Request) {limit : ℕ → ℕ} {buf : List Byte}
    (positive : 0 < width) (small : width ≤ 4) (length : buf.length = width)
    (limited : ∀ n, limit n ≤ width)
    (harmless : ∀ v s, ((rest v).outcome s).Only fun _ => b) :
    ((do
        let (ret, buf) ← RawNode.exchange env nodeId request limit buf
        throwOnError ret
        throwOnSize ret width
        rest (RawNode.ofBigEndian buf)).outcome port).Only (fun _ => b) ↔
      (env.answered ≠ some width → b) := by
  rw [RawNode.exchange_bind_only env nodeId request limit buf (U := b) (Q := fun n => n ≠ width → b)]
  · cases env.answered with
    | none => simp
    | some n =>
      have copied : limit n ≤ 7 ∧ limit n ≤ buf.length := by
        have := limited n
        omega
      simp [copied]
  · intro ret nonpos s
    rw [checked_only]
    simp [harmless]
    omega
  · intro n _ bytes _ s
    rw [checked_only]
    simp [harmless]

theorem setRegNumber_only (positive : 0 < width) (small : width ≤ 4) (regVal : BitVec 64)
    (harmless : ∀ v s, ((rest v).outcome s).Only fun _ => b) :
    ((do
        let (ret, val) ← RawNode.setRegNumber env nodeId reg width regVal
        throwOnError ret
        throwOnSize ret width
        rest val).outcome port).Only (fun _ => b) ↔ (env.answered ≠ some width → b) := by
  simp only [RawNode.setRegNumber, RawNode.setReg, bind_assoc, pure_bind]
  refine exchange_number_only env nodeId rest port _ positive small (by simp) (fun n => ?_)
    harmless
  simp only [RawNode.toBigEndian, List.length_map, List.length_reverse, List.length_range,
    Option.getD_none]
  split <;> omega

theorem getRegNumber_only (positive : 0 < width) (small : width ≤ 4)
    (harmless : ∀ v s, ((rest v).outcome s).Only fun _ => b) :
    ((do
        let (ret, val) ← RawNode.getRegNumber env nodeId reg width
        throwOnError ret
        throwOnSize ret width
        rest val).outcome port).Only (fun _ => b) ↔ (env.answered ≠ some width → b) := by
  simp only [RawNode.getRegNumber, RawNode.getReg, bind_assoc, pure_bind]
  refine exchange_number_only env nodeId rest port _ positive small (by simp) (fun n => ?_)
    harmless
  split <;> omega

end Numbers

theorem numberWidth_bounds {size width : ℕ} (number : numberWidth size = some width) :
    0 < width ∧ width ≤ 4 := by
  revert number
  rw [numberWidth]
  split_ifs <;> rintro ⟨⟩ <;> decide

theorem numberWidth_eq_none {size : ℕ} : numberWidth size = none ↔ 32 < size := by
  rw [numberWidth]
  split_ifs <;> simp <;> omega

variable (env : Env) (n : Node) (reg : Byte) (desc : RegisterDesc) (port : Port)

theorem setInt_only {b : Prop} {width : ℕ} (number : numberWidth desc.size = some width) (v : BitVec 64) :
    ((n.setInt env reg desc v).outcome port).Only (fun _ => b) ↔
      desc.size ≤ 30 ∧ (env.answered ≠ some width → b) := by
  obtain ⟨positive, small⟩ := numberWidth_bounds number
  rw [setInt, number, Call.only_bind, Call.outcome_ofOutcome, maskTo]
  rcases Nat.lt_or_ge 30 desc.size with large | fits
  · rw [if_neg (by omega)]
    simp [large]
  · rw [if_pos fits]
    simp only [Outcome.only_value, true_and, fits, Outcome.value.injEq, forall_eq']
    exact setRegNumber_only env n.nodeId reg (fun val => pure (RegValue.int (BitVec.ofNat 64 val))) _
      positive small _ fun _ _ => trivial

theorem setInt_defined (v : BitVec 64) :
    ((n.setInt env reg desc v).outcome port).Defined ↔ (desc.size ≤ 30 ∨ 32 < desc.size) := by
  cases number : numberWidth desc.size with
  | none =>
    have large := numberWidth_eq_none.mp number
    rw [setInt, number]
    simp [large]
  | some width =>
    have small : ¬32 < desc.size := by
      rw [← numberWidth_eq_none, number]
      simp
    rw [Outcome.Defined, setInt_only env n reg desc port number]
    simp [small]

theorem setFloat_defined (v : BitVec 32) : ((n.setFloat env reg v).outcome port).Defined :=
  (setRegNumber_only env n.nodeId reg (fun val => pure (RegValue.float (BitVec.ofNat 32 val))) port
    (by decide) le_rfl _ fun _ _ => trivial).mpr fun _ => trivial

/-- The string of an answer ends behind its bytes, in the buffer. -/
theorem cString_only {α : Type} {b : Prop} {buf : List Byte} {ret : ℕ}
    {k : String → Call Port DevNodeException α} (harmless : ∀ t s, ((k t).outcome s).Only fun _ => b) :
    ((Call.ofOutcome (cString buf ret) >>= k).outcome port).Only (fun _ => b) ↔ ret < buf.length := by
  rw [Call.only_bind_of_forall harmless, Call.outcome_ofOutcome, cString]
  split_ifs with inside <;> simp [inside]

theorem vector_defined (buf : List Byte) (ret : ℕ) : (vector buf ret).Defined ↔ ret ≤ buf.length := by
  rw [vector]
  split_ifs with inside <;> simp [inside]

/-- A string value and the zero byte behind it. -/
theorem stringAnswer_defined (ret : ℤ) {buf : List Byte} (room : 0 < buf.length) :
    ((throwOnError ret >>= fun _ => Call.ofOutcome (cString buf ret.toNat) >>= fun t =>
      pure (RegValue.string t)).outcome port).Defined ↔ ret < buf.length := by
  rw [Outcome.Defined, throwOnError_bind_only,
    cString_only port (k := fun t => pure (RegValue.string t)) fun _ _ => trivial]
  simp
  omega

/-- A register read or written as a string: what is copied and the zero byte must be in the buffer. -/
theorem stringExchange_defined (nodeId : Byte) (request : RawNode.Request) (limit : ℕ → ℕ) (size : ℕ) :
    ((do
        let (ret, buf) ← RawNode.exchange env nodeId request limit (env.buffer (size + 1))
        throwOnError ret
        return RegValue.string (← Call.ofOutcome (cString buf ret.toNat))).outcome port).Defined ↔
      ∀ bytes, env.answered = some bytes → (limit bytes ≤ 7 ∧ limit bytes ≤ size + 1) ∧ bytes ≤ size := by
  rw [Outcome.Defined, RawNode.exchange_bind_only (U := True) (Q := fun bytes => bytes ≤ size)]
  · cases env.answered with
    | none => simp
    | some bytes => simp only [Env.buffer_length, Option.some.injEq, forall_eq', and_assoc]
  · intro ret nonpos s
    refine (stringAnswer_defined s ret (by simp)).trans (iff_of_true ?_ trivial)
    rw [Env.buffer_length]
    omega
  · intro bytes _ buf length s
    refine (stringAnswer_defined s bytes (by simp [length])).trans ?_
    rw [length, Env.buffer_length]
    omega

theorem setString_defined (v : String) :
    ((n.setString env reg desc v).outcome port).Defined ↔
      ∀ bytes, env.answered = some bytes → bytes ≤ byteSize desc ∧
        if min (desc.size / 8) v.length < bytes then byteSize desc ≤ 6 else bytes ≤ 7 := by
  rw [setString, RawNode.setReg, stringExchange_defined]
  refine forall₂_congr fun bytes _ => ?_
  simp only [List.length_take, List.length_map, String.length_toList, Option.getD_some]
  have shorter : desc.size / 8 ≤ byteSize desc := by
    rw [byteSize]
    omega
  split <;> omega

theorem getString_defined :
    ((n.getString env reg desc).outcome port).Defined ↔
      ∀ bytes, env.answered = some bytes → bytes ≤ byteSize desc ∧ bytes ≤ 7 := by
  rw [getString, RawNode.getReg, stringExchange_defined]
  refine forall₂_congr fun bytes _ => ?_
  split <;> omega

/-- A value of the length that was asked for. -/
theorem bytesAnswer_defined (ret : ℤ) {buf : List Byte} {size : ℕ} (room : size ≤ buf.length) :
    ((throwOnError ret >>= fun _ => throwOnSize ret size >>= fun _ =>
      Call.ofOutcome (vector buf ret.toNat)).outcome port).Defined := by
  rw [Outcome.Defined, checked_only]
  refine ⟨fun _ => trivial, ?_⟩
  rintro rfl
  exact (vector_defined buf size).mpr room

/-- A register read or written as bytes. -/
theorem bytesExchange_defined (nodeId : Byte) (request : RawNode.Request) (limit : ℕ → ℕ) (size : ℕ) :
    ((do
        let (ret, buf) ← RawNode.exchange env nodeId request limit (env.buffer size)
        throwOnError ret
        throwOnSize ret size
        Call.ofOutcome (vector buf ret.toNat)).outcome port).Defined ↔
      ∀ bytes, env.answered = some bytes → limit bytes ≤ 7 ∧ limit bytes ≤ size := by
  rw [Outcome.Defined, RawNode.exchange_bind_only (U := True) (Q := fun _ => True)]
  · cases env.answered with
    | none => simp
    | some bytes => simp only [Env.buffer_length, Option.some.injEq, forall_eq', and_true]
  · exact fun ret _ s => iff_of_true (bytesAnswer_defined s ret (by simp)) trivial
  · exact fun bytes _ buf length s =>
      iff_of_true (bytesAnswer_defined s bytes (by simp [length])) trivial

theorem setBytes_defined (v : List Byte) :
    ((n.setBytes env reg desc v).outcome port).Defined ↔
      (v.length = byteSize desc → ∀ bytes, env.answered = some bytes → min v.length bytes ≤ 7) := by
  rw [setBytes]
  rcases eq_or_ne (byteSize desc) v.length with same | apart
  · rw [if_pos same, RawNode.setReg, bytesExchange_defined, imp_iff_right same.symm]
    refine forall₂_congr fun bytes _ => ?_
    rw [Option.getD_none]
    split <;> omega
  · rw [if_neg apart]
    simp [apart.symm]

theorem getBytes_defined :
    ((n.getBytes env reg desc).outcome port).Defined ↔
      ∀ bytes, env.answered = some bytes → min (byteSize desc) bytes ≤ 7 := by
  rw [getBytes, RawNode.getReg, bytesExchange_defined]
  refine forall₂_congr fun bytes _ => ?_
  split <;> omega

theorem getNumber_defined {width : ℕ} (positive : 0 < width) (small : width ≤ 4) (f : ℕ → RegValue) :
    ((n.getNumber env reg width >>= fun val => pure (f val)).outcome port).Defined := by
  rw [getNumber]
  simp only [bind_assoc, pure_bind]
  exact (getRegNumber_only env n.nodeId reg (fun val => pure (f val)) port positive small
    fun _ _ => trivial).mpr fun _ => trivial

/-- The condition under which `get_register` ends. -/
def SafeGet (env : Env) (reg : Byte) (n : Node) : Prop :=
  ∀ desc, n.registerMap reg = some desc → desc.readable = true → ∀ bytes, env.answered = some bytes →
    if desc.type = "str" then bytes ≤ byteSize desc ∧ bytes ≤ 7
    else 32 < desc.size → min (byteSize desc) bytes ≤ 7

/-- The condition under which `set_register` ends. -/
def SafeSet (env : Env) (reg : Byte) (value : RegValue) (n : Node) : Prop :=
  ∀ desc, n.registerMap reg = some desc → desc.writable = true →
    match value with
    | .int _ => desc.type ≠ "str" → desc.size ≤ 30 ∨ 32 < desc.size
    | .float _ => True
    | .string v => desc.type = "str" → ∀ bytes, env.answered = some bytes →
        bytes ≤ byteSize desc ∧ if min (desc.size / 8) v.length < bytes then byteSize desc ≤ 6 else bytes ≤ 7
    | .bytes v =>
        v.length = byteSize desc → ∀ bytes, env.answered = some bytes → min v.length bytes ≤ 7

/-- The condition under which `set_register_bit` and `clear_register_bit` end. -/
def SafeBit (env : Env) (reg : Byte) (n : Node) : Prop :=
  ∀ desc, n.registerMap reg = some desc → desc.writable = true → desc.type ≠ "str" →
    ∀ bytes, env.answered = some bytes → bytes ≤ byteSize desc ∧ bytes ≤ 7

theorem getRegister_defined : ((n.getRegister env reg).outcome port).Defined ↔ n.SafeGet env reg := by
  rw [getRegister, SafeGet]
  cases n.registerMap reg with
  | none => simp
  | some desc =>
    simp only [Option.some.injEq, forall_eq']
    cases readable : desc.readable with
    | false => simp
    | true =>
      simp only [if_true, true_imp_iff]
      rcases eq_or_ne desc.type "str" with str | other
      · simp [str, getString_defined]
      · simp only [ne_eq, other, not_false_eq_true, true_and, if_true, if_false]
        rcases eq_or_ne desc.size 32 with word | apart
        · refine iff_of_true ?_ (fun _ _ large => absurd large (by omega))
          rw [if_pos word]
          exact getNumber_defined env n reg port (by decide) le_rfl fun val => .float (BitVec.ofNat 32 val)
        · rw [if_neg apart]
          cases number : numberWidth desc.size with
          | none =>
            rw [getBytes_defined]
            simp [numberWidth_eq_none.mp number]
          | some width =>
            obtain ⟨positive, small⟩ := numberWidth_bounds number
            have bounded : ¬32 < desc.size := by
              rw [← numberWidth_eq_none, number]
              simp
            refine iff_of_true ?_ (fun _ _ large => absurd large bounded)
            exact getNumber_defined env n reg port positive small fun val => .int (BitVec.ofNat 64 val)

theorem setRegister_defined (value : RegValue) :
    ((n.setRegister env reg value).outcome port).Defined ↔ n.SafeSet env reg value := by
  rw [setRegister, SafeSet]
  cases n.registerMap reg with
  | none => simp
  | some desc =>
    simp only [Option.some.injEq, forall_eq']
    cases writable : desc.writable with
    | false => simp
    | true =>
      simp only [if_true, true_imp_iff]
      cases value with
      | int v =>
        rcases eq_or_ne desc.type "str" with str | other
        · simp [str]
        · simp [other, setInt_defined]
      | float v =>
        refine iff_of_true ?_ trivial
        dsimp only
        split
        · exact setFloat_defined env n reg port v
        · trivial
      | string v =>
        rcases eq_or_ne desc.type "str" with str | other
        · simp [str, setString_defined]
        · simp [other]
      | bytes v => exact setBytes_defined env n reg desc port v

theorem bitOperation_defined (request : RawNode.Request) :
    ((n.bitOperation env reg fun length buf =>
        RawNode.exchange env n.nodeId request (fun k => if length < k then length else k) buf).outcome
      port).Defined ↔ n.SafeBit env reg := by
  rw [bitOperation, SafeBit]
  cases n.registerMap reg with
  | none => simp
  | some desc =>
    simp only [Option.some.injEq, forall_eq']
    cases writable : desc.writable with
    | false => simp
    | true =>
      simp only [if_true, true_imp_iff]
      rcases eq_or_ne desc.type "str" with str | other
      · simp [str]
      · rw [if_pos other, Outcome.Defined, RawNode.exchange_bind_only (U := True)
          (Q := fun bytes => bytes ≤ byteSize desc)]
        · cases env.answered with
          | none => simp
          | some bytes =>
            simp only [ne_eq, other, not_false_eq_true, true_imp_iff, Env.buffer, List.length_map,
              List.length_range, Option.some.injEq, forall_eq']
            split <;> omega
        · intro ret nonpos s
          rw [throwOnError_bind_only]
          refine iff_of_true ⟨fun _ => trivial, fun _ => (vector_defined _ _).mpr ?_⟩ trivial
          omega
        · intro bytes _ buf length s
          rw [throwOnError_bind_only]
          simp only [implies_true, Int.natCast_nonneg, true_imp_iff, true_and]
          refine (vector_defined _ _).trans ?_
          simp [length, Env.buffer]

theorem setRegisterBit_defined (bitNum : Byte) :
    ((n.setRegisterBit env reg bitNum).outcome port).Defined ↔ n.SafeBit env reg :=
  bitOperation_defined env n reg port (.setBit reg bitNum)

theorem clearRegisterBit_defined (bitNum : Byte) :
    ((n.clearRegisterBit env reg bitNum).outcome port).Defined ↔ n.SafeBit env reg :=
  bitOperation_defined env n reg port (.clearBit reg bitNum)

theorem nodeReset_defined : ((n.nodeReset env).outcome port).Defined := by
  rw [nodeReset, RawNode.reset, bind_assoc, RawNode.ask_bind, Outcome.Defined]
  cases env.reply with
  | none => trivial
  | some res =>
    dsimp only
    split_ifs <;> rw [pure_bind, ← bind_pure (throwOnError _), throwOnError_bind_only] <;>
      exact ⟨fun _ => trivial, fun _ => trivial⟩

/-- The condition under which `set_register` takes an integer and returns a value. -/
def TakesInt (env : Env) (reg : Byte) (n : Node) : Prop :=
  ∃ desc, n.registerMap reg = some desc ∧ desc.writable = true ∧ desc.type ≠ "str" ∧ desc.size ≤ 30 ∧
    ∃ width, numberWidth desc.size = some width ∧ env.answered = some width

theorem setRegister_int_returns (v : BitVec 64) :
    ((n.setRegister env reg (.int v)).outcome port).Returns ↔ n.TakesInt env reg := by
  rw [setRegister, TakesInt]
  cases n.registerMap reg with
  | none => simp
  | some desc =>
    simp only [Option.some.injEq, exists_eq_left']
    cases writable : desc.writable with
    | false => simp
    | true =>
      simp only [if_true, true_and]
      rcases eq_or_ne desc.type "str" with str | other
      · simp [str]
      · rw [if_pos other]
        cases number : numberWidth desc.size with
        | none =>
          rw [setInt, number]
          simp
        | some width =>
          refine (setInt_only env n reg desc port number v).trans ?_
          simp [other]

end Node

namespace NodeMgr

variable {α : Type} (m : NodeMgr) (nodeId : BitVec 16) {operation : Node → Call Port DevNodeException α}
  {P : Node → Prop} (port : Port)

/-- The id is an index of the array, and a node there satisfies `P`. -/
def EveryAt (P : Node → Prop) : Prop :=
  ∃ h : nodeId.toNat < H9Frame.ID_MAX_VALUE + 1, ∀ node, m.nodes ⟨nodeId.toNat, h⟩ = some node → P node

/-- There is a node of the id, and it satisfies `P`. -/
def SomeAt (P : Node → Prop) : Prop :=
  ∃ h : nodeId.toNat < H9Frame.ID_MAX_VALUE + 1, ∃ node, m.nodes ⟨nodeId.toNat, h⟩ = some node ∧ P node

theorem withNode_only {P : DevNodeException → Prop} :
    ((m.withNode nodeId operation).outcome port).Only P ↔
      ∃ h : nodeId.toNat < H9Frame.ID_MAX_VALUE + 1,
        match m.nodes ⟨nodeId.toNat, h⟩ with
        | some node => ((operation node).outcome port).Only P
        | none => P .nodeNotExistException := by
  rw [withNode, Call.only_bind, Call.outcome_ofOutcome, nodeAt]
  by_cases inside : nodeId.toNat < H9Frame.ID_MAX_VALUE + 1
  · rw [dif_pos inside]
    simp only [Outcome.only_value, true_and, Outcome.value.injEq, forall_eq', inside, exists_true_left]
    cases m.nodes ⟨nodeId.toNat, inside⟩ <;> exact Iff.rfl
  · rw [dif_neg inside]
    simp [inside]

theorem withNode_defined (ends : ∀ node, ((operation node).outcome port).Defined ↔ P node) :
    ((m.withNode nodeId operation).outcome port).Defined ↔ m.EveryAt nodeId P := by
  rw [Outcome.Defined, withNode_only]
  refine exists_congr fun h => ?_
  cases m.nodes ⟨nodeId.toNat, h⟩ with
  | none => simp
  | some node => exact (ends node).trans (by simp)

theorem withNode_returns (returns : ∀ node, ((operation node).outcome port).Returns ↔ P node) :
    ((m.withNode nodeId operation).outcome port).Returns ↔ m.SomeAt nodeId P := by
  rw [Outcome.Returns, withNode_only]
  refine exists_congr fun h => ?_
  cases m.nodes ⟨nodeId.toNat, h⟩ with
  | none => simp
  | some node => exact (returns node).trans (by simp)

end NodeMgr

end H9d
