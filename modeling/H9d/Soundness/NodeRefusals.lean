import H9d.Soundness.ReplyClassification

/-! # What a node refuses

An operation looks at the description of its register before it sends anything. Where it throws at this
point, the bus gets nothing; everywhere else it gets one frame, or the call goes wrong.
-/

namespace H9d

open Cxx H9Frame

section Port

variable {ε α β : Type} {c : Call Port ε α} {frame : H9Frame} {x : Outcome ε α} {port : Port}

theorem Sends.not_refuses (sends : Sends c frame x) : ¬c.Refuses id port :=
  fun refuses => sends.after_ne port refuses.2

theorem Silent.refuses_iff (silent : Silent c x) : c.Refuses id port ↔ ∃ e, x = .throws e := by
  rw [Call.Refuses, silent.outcome, silent.after]
  exact and_iff_left rfl

end Port

namespace Node

variable (env : Env) (n : Node) (reg : Byte) (port : Port)

theorem nodeReset_not_refused : ¬(n.nodeReset env).Refuses id port :=
  (NodeOperation.nodeReset_sends env n).not_refuses

/-- A register that is not there, or may not be read. -/
def RefusesGet (reg : Byte) (n : Node) : Prop :=
  ∀ desc, n.registerMap reg = some desc → desc.readable = false

/-- A value that a register does not take. -/
def Unsupported (desc : RegisterDesc) : RegValue → Prop
  | .int _ => desc.type = "str" ∨ 32 < desc.size
  | .float _ => desc.type ≠ "float"
  | .string _ => desc.type ≠ "str"
  | .bytes v => byteSize desc ≠ v.length

/-- A register that is not there, or may not be written, or not with this value. -/
def RefusesSet (reg : Byte) (value : RegValue) (n : Node) : Prop :=
  ∀ desc, n.registerMap reg = some desc → desc.writable = true → Unsupported desc value

/-- A register that is not there, or may not be written, or is a text. -/
def RefusesBit (reg : Byte) (n : Node) : Prop :=
  ∀ desc, n.registerMap reg = some desc → desc.writable = true → desc.type = "str"

theorem getRegister_refused : (n.getRegister env reg).Refuses id port ↔ n.RefusesGet reg := by
  rw [getRegister, RefusesGet]
  cases n.registerMap reg with
  | none =>
    apply iff_of_true
    · exact Call.refuses_throw _
    · rintro _ ⟨⟩
  | some desc =>
    simp only [Option.some.injEq, forall_eq']
    cases desc.readable with
    | false => exact iff_of_true (Call.refuses_throw _) rfl
    | true =>
      rw [if_pos rfl]
      refine iff_of_false ?_ (by decide)
      split
      · rw [Call.refuses_bind_pure]
        exact (getNumber_sends env n reg le_rfl).not_refuses
      · split
        · cases number : numberWidth desc.size with
          | some width =>
            dsimp only
            rw [Call.refuses_bind_pure]
            exact (getNumber_sends env n reg (numberWidth_bounds number).2).not_refuses
          | none => exact (getBytes_sends env n reg desc).not_refuses
        · exact (getString_sends env n reg desc).not_refuses

theorem setInt_refused_iff (desc : RegisterDesc) (v : BitVec 64) :
    (n.setInt env reg desc v).Refuses id port ↔ 32 < desc.size := by
  rcases Nat.lt_or_ge 32 desc.size with large | bounded
  · rw [(setInt_refused env n reg large v).refuses_iff]
    exact iff_of_true ⟨_, rfl⟩ large
  · refine iff_of_false ?_ (by omega)
    rcases Nat.lt_or_ge 30 desc.size with unmasked | small
    · rw [(setInt_undefined env n reg unmasked bounded v).refuses_iff]
      exact nofun
    · exact (setInt_sends env n reg (numberWidth_eq bounded) small v).not_refuses

theorem setRegister_refused (value : RegValue) :
    (n.setRegister env reg value).Refuses id port ↔ n.RefusesSet reg value := by
  rw [setRegister, RefusesSet]
  cases n.registerMap reg with
  | none =>
    apply iff_of_true
    · exact Call.refuses_throw _
    · rintro _ ⟨⟩
  | some desc =>
    simp only [Option.some.injEq, forall_eq']
    cases desc.writable with
    | false => exact iff_of_true (Call.refuses_throw _) fun enabled => absurd enabled Bool.false_ne_true
    | true =>
      rw [if_pos rfl, imp_iff_right rfl]
      cases value with
      | int v =>
        dsimp only
        rcases eq_or_ne desc.type "str" with str | other
        · rw [if_neg (not_not.mpr str)]
          exact iff_of_true (Call.refuses_throw _) (.inl str)
        · rw [if_pos other, setInt_refused_iff, Unsupported]
          exact (or_iff_right other).symm
      | float v =>
        dsimp only
        rcases eq_or_ne desc.type "float" with float | other
        · rw [if_pos float]
          exact iff_of_false (setFloat_sends env n reg v).not_refuses (not_not.mpr float)
        · rw [if_neg other]
          exact iff_of_true (Call.refuses_throw _) other
      | string v =>
        dsimp only
        rcases eq_or_ne desc.type "str" with str | other
        · rw [if_pos str]
          exact iff_of_false (setString_sends env n reg desc v).not_refuses (not_not.mpr str)
        · rw [if_neg other]
          exact iff_of_true (Call.refuses_throw _) other
      | bytes v =>
        dsimp only
        rcases eq_or_ne (byteSize desc) v.length with length | apart
        · exact iff_of_false (setBytes_sends env n reg desc v length).not_refuses (not_not.mpr length)
        · rw [setBytes, if_neg apart]
          exact iff_of_true (Call.refuses_throw _) apart

theorem bitOperation_refused (request : RawNode.Request) :
    (n.bitOperation env reg fun length buf => RawNode.exchange env n.nodeId request
      (fun k => if length < k then length else k) buf).Refuses id port ↔ n.RefusesBit reg := by
  rw [bitOperation, RefusesBit]
  cases n.registerMap reg with
  | none =>
    apply iff_of_true
    · exact Call.refuses_throw _
    · rintro _ ⟨⟩
  | some desc =>
    simp only [Option.some.injEq, forall_eq']
    cases desc.writable with
    | false => exact iff_of_true (Call.refuses_throw _) fun enabled => absurd enabled Bool.false_ne_true
    | true =>
      rw [if_pos rfl, imp_iff_right rfl]
      rcases eq_or_ne desc.type "str" with str | other
      · rw [if_neg (not_not.mpr str)]
        exact iff_of_true (Call.refuses_throw _) str
      · rw [if_pos other]
        exact iff_of_false (bits_sends env n desc request).not_refuses other

end Node

theorem NodeMgr.withNode_refuses {α : Type} (m : NodeMgr) (nodeId : BitVec 16)
    {operation : Node → Call Port DevNodeException α} {P : Node → Prop} (port : Port)
    (refuses : ∀ node, (operation node).Refuses id port ↔ P node) :
    (m.withNode nodeId operation).Refuses id port ↔ m.EveryAt nodeId P := by
  rw [withNode, nodeAt, EveryAt]
  by_cases inside : nodeId.toNat < H9Frame.ID_MAX_VALUE + 1
  · rw [dif_pos inside, exists_prop_of_true inside]
    cases m.nodes ⟨nodeId.toNat, inside⟩ with
    | none =>
      apply iff_of_true
      · exact ⟨⟨_, rfl⟩, rfl⟩
      · rintro _ ⟨⟩
    | some node =>
      simp only [Option.some.injEq, forall_eq']
      exact refuses node
  · rw [dif_neg inside]
    apply iff_of_false
    · rintro ⟨⟨_, ⟨⟩⟩, -⟩
    · rintro ⟨index, -⟩
      exact inside index

end H9d
