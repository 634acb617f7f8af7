import H9d.Model.API
import H9d.Soundness.JsonrpcCodec

/-! # The texts of errors

The exceptions of an access to a value, of the nodes and of their manager carry texts of the daemon's own,
with numbers in them. Only the name of a device comes from a request. All are UTF-8, if the request is.
-/

namespace Nlohmann

section Errors

variable {ε α β : Type} {P : ε → Prop}

/-- Every error of the computation satisfies `P`. -/
def Errors (P : ε → Prop) (x : Except ε α) : Prop := ∀ e, x = .error e → P e

theorem errors_ok (a : α) : Errors P (.ok a : Except ε α) := nofun

theorem errors_error {e : ε} (holds : P e) : Errors P (.error e : Except ε α) := by
  rintro _ ⟨⟩
  exact holds

theorem Errors.bind {x : Except ε α} {f : α → Except ε β} (first : Errors P x)
    (rest : ∀ a, x = .ok a → Errors P (f a)) : Errors P (x >>= f) := by
  cases x with
  | ok a => exact rest a rfl
  | error e => exact errors_error (first e rfl)

theorem Errors.mapM {f : α → Except ε β} (each : ∀ a, Errors P (f a)) (as : List α) : Errors P (as.mapM f) := by
  induction as with
  | nil => exact errors_ok _
  | cons a as ih =>
    rw [List.mapM_cons]
    exact (each a).bind fun _ _ => ih.bind fun _ _ => errors_ok _

end Errors

def AccessError.IsUtf8 (e : AccessError) : Prop := Utf8.Valid e.what

namespace Json

theorem isUtf8_typeName (j : Json) : Utf8.Valid j.typeName := by
  unfold typeName
  split <;> decide

theorem isUtf8_mustBe {wanted : String} (valid : Utf8.Valid wanted) (j : Json) : (j.mustBe wanted).IsUtf8 := by
  have head : Utf8.Valid "[json.exception.type_error.302] type must be " := by decide
  have middle : Utf8.Valid ", but is " := by decide
  exact Utf8.valid_append (Utf8.valid_append (Utf8.valid_append head valid) middle) (isUtf8_typeName j)

theorem errors_mustBe {α : Type} {wanted : String} (valid : Utf8.Valid wanted) (j : Json) :
    Errors AccessError.IsUtf8 (.error (j.mustBe wanted) : Except AccessError α) :=
  errors_error (isUtf8_mustBe valid j)

theorem errors_getString (j : Json) : Errors AccessError.IsUtf8 j.getString := by
  cases j with
  | string s => exact errors_ok s
  | _ => exact errors_mustBe (by decide) _

theorem errors_getBool (j : Json) : Errors AccessError.IsUtf8 j.getBool := by
  cases j with
  | boolean b => exact errors_ok b
  | _ => exact errors_mustBe (by decide) _

variable (cast : FloatCast)

theorem errors_getNumber (w : ℕ) (j : Json) : Errors AccessError.IsUtf8 (getNumber cast w j) := by
  cases j with
  | null | string | array | object => exact errors_mustBe (by decide) _
  | boolean | numberInteger | numberUnsigned | numberFloat => exact errors_ok _

theorem errors_getBytes (j : Json) : Errors AccessError.IsUtf8 (getBytes cast j) := by
  cases j with
  | array elems => exact .mapM (errors_getNumber cast 8) elems
  | _ => exact errors_mustBe (by decide) _

theorem errors_optional {α : Type} {get : Json → Except AccessError α}
    (each : ∀ value, Errors AccessError.IsUtf8 (get value)) (j : Json) (key : String) :
    Errors AccessError.IsUtf8 (j.optional key get) := by
  rw [optional]
  cases j.members.lookup key with
  | none => exact errors_ok _
  | some value => exact (each value).bind fun _ _ => errors_ok _

end Json

theorem atKey_eq_ok {α : Type} {members : List (String × α)} {key : String} {value : α} :
    atKey members key = .ok value ↔ members.lookup key = some value := by
  rw [atKey]
  cases members.lookup key with
  | some v => rw [Except.ok.injEq, Option.some.injEq]
  | none => exact iff_of_false nofun nofun

theorem errors_atKey {α : Type} (members : List (String × α)) (key : String) :
    Errors AccessError.IsUtf8 (atKey members key) := by
  rw [atKey]
  cases members.lookup key with
  | some value => exact errors_ok value
  | none => exact errors_error (by decide : Utf8.Valid "map::at")

end Nlohmann

namespace H9d

open Cxx Nlohmann Jsonrpcpp Json

theorem Jsonrpcpp.Parameter.errors_getAt {α : Type} (params : Parameter) (key : String)
    {get : Json → Except AccessError α} (each : ∀ value, Errors AccessError.IsUtf8 (get value)) :
    Errors AccessError.IsUtf8 (params.getAt key get) :=
  (errors_atKey _ _).bind fun value _ => each value

theorem H9Frame.errors_fromJson (cast : FloatCast) (j : Json) (f : H9Frame) :
    Errors AccessError.IsUtf8 (fromJson cast j f) := by
  have byte (key : String) : Errors AccessError.IsUtf8 (j.optional key (getNumber cast 8)) :=
    errors_optional (errors_getNumber cast 8) j key
  have group := errors_optional (errors_getNumber cast 16) j "broadcast_group"
  have data := errors_optional (errors_getBytes cast) j "data"
  exact (byte _).bind fun _ _ => (byte _).bind fun _ _ => (byte _).bind fun _ _ => (byte _).bind fun _ _ =>
    (byte _).bind fun _ _ => group.bind fun _ _ => (byte _).bind fun _ _ => data.bind fun _ _ => errors_ok _

namespace API

variable (cast : FloatCast) (params : Parameter)

theorem errors_nodeId : Errors AccessError.IsUtf8 (nodeId cast params) :=
  params.errors_getAt _ (errors_getNumber cast 16)

theorem errors_registerParams : Errors AccessError.IsUtf8 (registerParams cast params) :=
  (errors_nodeId cast params).bind fun _ _ =>
    (params.errors_getAt _ (errors_getNumber cast 8)).bind fun _ _ => errors_ok _

theorem errors_registerValue (j : Json) : Errors AccessError.IsUtf8 (registerValue cast j) := by
  cases j with
  | array elems => exact (errors_getBytes cast (.array elems)).bind fun _ _ => errors_ok _
  | _ => exact errors_ok _

theorem errors_setRegisterParams : Errors AccessError.IsUtf8 (setRegisterParams cast params) :=
  (errors_registerParams cast params).bind fun _ _ =>
    (params.errors_getAt _ (errors_registerValue cast)).bind fun _ _ => errors_ok _

theorem errors_bitParams : Errors AccessError.IsUtf8 (bitParams cast params) :=
  (errors_registerParams cast params).bind fun _ _ =>
    (params.errors_getAt _ (errors_getNumber cast 8)).bind fun _ _ => errors_ok _

theorem errors_devName : Errors AccessError.IsUtf8 (devName params) := params.errors_getAt _ errors_getString

theorem errors_devMethodParams : Errors AccessError.IsUtf8 (devMethodParams params) :=
  (errors_devName params).bind fun _ _ =>
    (params.errors_getAt _ errors_getString).bind fun _ _ => errors_ok _

/-- The parameters of a method of a device. -/
theorem errors_command {kind : Dev.Kind} {method : String} {body : Parameter → Except AccessError Dev.Command}
    (provided : (Dev.methodMap cast kind).lookup method = some body) :
    Errors AccessError.IsUtf8 (body params) := by
  have each : ∀ entry ∈ Dev.methodMap cast kind, Errors AccessError.IsUtf8 (entry.2 params) := by
    cases kind with
    | antennaSwitch switchNodeId =>
      exact List.forall_mem_singleton.mpr
        ((params.errors_getAt _ (errors_getNumber cast 32)).bind fun _ _ => errors_ok _)
    | atu => exact nofun
    | powerSwitch | thunderSwitch =>
      exact List.forall_mem_cons.mpr ⟨errors_ok _, List.forall_mem_singleton.mpr (errors_ok _)⟩
  obtain ⟨before, after, parts, -⟩ := List.lookup_eq_some_iff.mp provided
  exact each _ (parts ▸ List.mem_append_right _ (List.mem_cons_self ..))

/-- A string among the values of a call is UTF-8 if they are. -/
theorem valid_of_getAt {key s : String} (isUtf8 : params.IsUtf8) (read : params.getAt key getString = .ok s) :
    Utf8.Valid s := by
  obtain ⟨value, found, text⟩ := bind_eq_ok.mp read
  cases params with
  | null | array => cases found
  | map paramMap =>
    have entry : paramMap.lookup key = some value := atKey_eq_ok.mp found
    obtain ⟨before, after, parts, -⟩ := List.lookup_eq_some_iff.mp entry
    have member := (isUtf8 (key, value) (parts ▸ List.mem_append_right _ (List.mem_cons_self ..))).2
    cases value with
    | string t =>
      cases text
      exact (isUtf8_string s).mp member
    | _ => cases text

end API

/-! ## The nodes -/

def DevNodeException.IsUtf8 (e : DevNodeException) : Prop := Utf8.Valid e.msg

namespace DevNodeException

theorem valid_errorToString (code : ℕ) : Utf8.Valid (H9Frame.errorToString code) := by
  unfold H9Frame.errorToString
  split <;> decide

theorem isUtf8_nodeException (code : ℕ) : (nodeException code).IsUtf8 := by
  have head : Utf8.Valid "Node exception: " := by decide
  have middle : Utf8.Valid " - " := by decide
  have last : Utf8.Valid "." := by decide
  exact Utf8.valid_append (Utf8.valid_append (Utf8.valid_append (Utf8.valid_append head (Utf8.valid_toString code))
    middle) (valid_errorToString code)) last

theorem isUtf8_deviceNotExistException {devName : String} (valid : Utf8.Valid devName) :
    (deviceNotExistException devName).IsUtf8 := by
  have head : Utf8.Valid "Device '" := by decide
  have last : Utf8.Valid "'not exist exception" := by decide
  exact Utf8.valid_append (Utf8.valid_append head valid) last

/-- The exceptions about a register name it by its number. -/
theorem valid_register (reg : Byte) {rest : String} (valid : Utf8.Valid rest) :
    Utf8.Valid ("Register " ++ toString reg.toNat ++ rest) := by
  have head : Utf8.Valid "Register " := by decide
  exact Utf8.valid_append (Utf8.valid_append head (Utf8.valid_toString _)) valid

theorem isUtf8_registerNotExistException (reg : Byte) : (registerNotExistException reg).IsUtf8 :=
  valid_register reg (by decide)

theorem isUtf8_registerNotWritableException (reg : Byte) : (registerNotWritableException reg).IsUtf8 :=
  valid_register reg (by decide)

theorem isUtf8_registerNotReadableException (reg : Byte) : (registerNotReadableException reg).IsUtf8 :=
  valid_register reg (by decide)

theorem isUtf8_unsupportedRegisterDataConversionException (reg : Byte) :
    (unsupportedRegisterDataConversionException reg).IsUtf8 :=
  valid_register reg (by decide)

end DevNodeException

section Throws

open Call DevNodeException

variable {ε α : Type} {P : ε → Prop} (env : Env) (nodeId : Byte)

theorem RawNode.throws_exchange (request : RawNode.Request) (limit : ℕ → ℕ) (buf : List Byte) :
    Throws P (RawNode.exchange env nodeId request limit buf) := by
  refine .bind (.bind (.modify _) fun _ => .pure _) fun reply => ?_
  cases reply with
  | none => exact .pure _
  | some res =>
    dsimp only
    split
    · exact .bind (.guard _) fun _ => .pure _
    · split <;> exact .pure _

theorem RawNode.throws_reset : Throws P (RawNode.reset env nodeId) := by
  refine .bind (.bind (.modify _) fun _ => .pure _) fun reply => ?_
  cases reply with
  | none => exact .pure _
  | some res =>
    dsimp only
    split
    · exact .pure _
    · split <;> exact .pure _

namespace Node

theorem throws_throwOnError (ret : ℤ) : Throws DevNodeException.IsUtf8 (throwOnError ret) := by
  have timeout : timeoutException.IsUtf8 := (by decide : Utf8.Valid "Timeout exception")
  have malformed : malformedFrameException.IsUtf8 := (by decide : Utf8.Valid "Malformed frame exception")
  rw [throwOnError]
  split
  · split
    · exact .throw timeout
    · split
      · exact .throw malformed
      · exact .throw (isUtf8_nodeException _)
  · exact .pure _

theorem throws_throwOnSize (ret : ℤ) (size : ℕ) : Throws DevNodeException.IsUtf8 (throwOnSize ret size) := by
  have mismatch : sizeMismatchException.IsUtf8 := (by decide : Utf8.Valid "Size mismatch exception")
  rw [throwOnSize]
  split
  · exact .throw mismatch
  · exact .pure _

variable {P : DevNodeException → Prop}

theorem throws_cString (buf : List Byte) (ret : ℕ) : Throws P (Call.ofOutcome (cString buf ret) : Call Port _ _) :=
  .guard _

theorem throws_vector (buf : List Byte) (ret : ℕ) : Throws P (Call.ofOutcome (vector buf ret) : Call Port _ _) :=
  .guard _

theorem throws_maskTo (size : ℕ) (v : BitVec 64) : Throws P (Call.ofOutcome (maskTo size v) : Call Port _ _) :=
  .guard _

variable (n : Node) (reg : Byte)

theorem throws_nodeReset : Throws DevNodeException.IsUtf8 (n.nodeReset env) :=
  .bind (RawNode.throws_reset env n.nodeId) throws_throwOnError

theorem throws_getNumber (width : ℕ) : Throws DevNodeException.IsUtf8 (n.getNumber env reg width) :=
  .bind (.bind (RawNode.throws_exchange _ _ _ _ _) fun _ => .pure _) fun _ => .bind (throws_throwOnError _) fun _ =>
    .bind (throws_throwOnSize _ _) fun _ => .pure _

theorem throws_getRegister : Throws DevNodeException.IsUtf8 (n.getRegister env reg) := by
  rw [getRegister]
  split
  · next desc _ =>
    split
    · split
      · exact .bind (throws_getNumber env n reg 4) fun _ => .pure _
      · split
        · split
          · exact .bind (throws_getNumber env n reg _) fun _ => .pure _
          · exact .bind (RawNode.throws_exchange _ _ _ _ _) fun _ => .bind (throws_throwOnError _) fun _ =>
              .bind (throws_throwOnSize _ _) fun _ => throws_vector _ _
        · exact .bind (RawNode.throws_exchange _ _ _ _ _) fun _ => .bind (throws_throwOnError _) fun _ =>
            .bind (throws_cString _ _) fun _ => .pure _
    · exact .throw (isUtf8_registerNotReadableException reg)
  · exact .throw (isUtf8_registerNotExistException reg)

/-- A number of the daemon is written to a register. -/
theorem throws_setNumber (width : ℕ) (v : BitVec 64) (f : ℕ → RegValue) :
    Throws DevNodeException.IsUtf8 (do
      let (ret, val) ← RawNode.setRegNumber env n.nodeId reg width v
      throwOnError ret
      throwOnSize ret width
      return f val) :=
  .bind (.bind (RawNode.throws_exchange _ _ _ _ _) fun _ => .pure _) fun _ => .bind (throws_throwOnError _) fun _ =>
    .bind (throws_throwOnSize _ _) fun _ => .pure _

theorem throws_setInt (desc : RegisterDesc) (v : BitVec 64) :
    Throws DevNodeException.IsUtf8 (n.setInt env reg desc v) := by
  rw [setInt]
  split
  · exact .bind (throws_maskTo _ _) fun tmp => throws_setNumber env n reg _ tmp fun val => .int (BitVec.ofNat 64 val)
  · exact .throw (isUtf8_unsupportedRegisterDataConversionException reg)

theorem throws_setBytes (desc : RegisterDesc) (v : List Byte) :
    Throws DevNodeException.IsUtf8 (n.setBytes env reg desc v) := by
  rw [setBytes]
  split
  · exact .bind (RawNode.throws_exchange _ _ _ _ _) fun _ => .bind (throws_throwOnError _) fun _ =>
      .bind (throws_throwOnSize _ _) fun _ => throws_vector _ _
  · exact .throw (isUtf8_unsupportedRegisterDataConversionException reg)

theorem throws_setRegister (value : RegValue) : Throws DevNodeException.IsUtf8 (n.setRegister env reg value) := by
  have unsupported := isUtf8_unsupportedRegisterDataConversionException reg
  rw [setRegister]
  split
  · next desc _ =>
    split
    · cases value with
      | int v =>
        dsimp only
        split
        · exact throws_setInt env n reg desc v
        · exact .throw unsupported
      | float v =>
        dsimp only
        split
        · exact throws_setNumber env n reg 4 (v.setWidth 64) fun val => .float (BitVec.ofNat 32 val)
        · exact .throw unsupported
      | string v =>
        dsimp only
        split
        · exact .bind (RawNode.throws_exchange _ _ _ _ _) fun _ => .bind (throws_throwOnError _) fun _ =>
            .bind (throws_cString _ _) fun _ => .pure _
        · exact .throw unsupported
      | bytes v => exact throws_setBytes env n reg desc v
    · exact .throw (isUtf8_registerNotWritableException reg)
  · exact .throw (isUtf8_registerNotExistException reg)

theorem throws_bitOperation {operation : ℕ → List Byte → Call Port DevNodeException (ℤ × List Byte)}
    (each : ∀ length buf, Throws DevNodeException.IsUtf8 (operation length buf)) :
    Throws DevNodeException.IsUtf8 (n.bitOperation env reg operation) := by
  rw [bitOperation]
  split
  · split
    · split
      · exact .bind (each _ _) fun _ => .bind (throws_throwOnError _) fun _ => throws_vector _ _
      · exact .throw (isUtf8_unsupportedRegisterDataConversionException reg)
    · exact .throw (isUtf8_registerNotWritableException reg)
  · exact .throw (isUtf8_registerNotExistException reg)

end Node

theorem Node.throws_setRegisterBit (n : Node) (reg bitNum : Byte) :
    Throws DevNodeException.IsUtf8 (n.setRegisterBit env reg bitNum) :=
  n.throws_bitOperation env reg fun _ _ => RawNode.throws_exchange _ _ _ _ _

theorem Node.throws_clearRegisterBit (n : Node) (reg bitNum : Byte) :
    Throws DevNodeException.IsUtf8 (n.clearRegisterBit env reg bitNum) :=
  n.throws_bitOperation env reg fun _ _ => RawNode.throws_exchange _ _ _ _ _

theorem NodeMgr.throws_withNode (m : NodeMgr) (n : BitVec 16) {operation : Node → Call Port DevNodeException α}
    (each : ∀ node, Throws DevNodeException.IsUtf8 (operation node)) :
    Throws DevNodeException.IsUtf8 (m.withNode n operation) := by
  have missing : nodeNotExistException.IsUtf8 := (by decide : Utf8.Valid "Node not exist exception")
  refine .bind (fun _ e throws => ?_) fun node => ?_
  · rw [outcome_ofOutcome, NodeMgr.nodeAt] at throws
    split at throws <;> cases throws
  · cases node with
    | none => exact .throw missing
    | some node => exact each node

end Throws

end H9d
