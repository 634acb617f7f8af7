import H9d.Soundness.RegisterWrites

/-! # Two decoders of one register value

`get_register` decodes the answer to its own request, `get_reg_value_from_frame` a frame that arrives by
itself. They look at the type and the size of the register in another order and compare the lengths in
another way, so they need not find the same value in the same frame.
-/

namespace H9d

open Cxx H9Frame

namespace Node

/-- Both calls return one value, or both throw. -/
def SameAnswer {α : Type} : Outcome DevNodeException α → Outcome DevNodeException α → Prop
  | .value a, .value b => a = b
  | .throws _, .throws _ => True
  | _, _ => False

section SameAnswer

variable {α : Type} {a b : α} {x : Outcome DevNodeException α} {e : DevNodeException}

@[simp] theorem sameAnswer_value : SameAnswer (.value a) (.value b) ↔ a = b := Iff.rfl

@[simp] theorem sameAnswer_undefined : ¬SameAnswer (.undefined : Outcome DevNodeException α) x := by
  cases x <;> exact id

@[simp] theorem sameAnswer_value_throws : ¬SameAnswer (.value a) (.throws e) := id

@[simp] theorem sameAnswer_throws_value : ¬SameAnswer (.throws e) (.value a) := id

@[simp] theorem sameAnswer_throws {e' : DevNodeException} :
    SameAnswer (.throws e : Outcome DevNodeException α) (.throws e') :=
  trivial

@[simp] theorem sameAnswer_throws_undefined : ¬SameAnswer (.throws e : Outcome DevNodeException α) .undefined :=
  id

@[simp] theorem sameAnswer_value_undefined : ¬SameAnswer (.value a) .undefined := id

/-- A call that ends like itself has ended. -/
theorem sameAnswer_self : SameAnswer x x ↔ x.Defined := by
  cases x <;> simp

end SameAnswer

variable (env : Env) (n : Node) (reg : Byte) {desc : RegisterDesc} {res : H9Frame}

/-! ## The answer to a request -/

section Answer

variable (described : n.registerMap reg = some desc) (reply : env.reply = some res)
  (type : res.type = FrameType.REG_VALUE) (long : 2 ≤ res.dlc.toNat) (port : Port)

include described

theorem getRegister_unreadable (unreadable : desc.readable = false) :
    (n.getRegister env reg).outcome port = .throws (.registerNotReadableException reg) := by
  rw [getRegister, described]
  dsimp only
  rw [if_neg (by rw [unreadable]; decide)]
  rfl

include reply type long

theorem getRegister_word (readable : desc.readable = true) (other : desc.type ≠ "str")
    (word : desc.size = 32) :
    (n.getRegister env reg).outcome port =
      numberOf 4 res >>= fun val => .value (.float (BitVec.ofNat 32 val)) := by
  have read := (getNumber_sends env n reg le_rfl).bind
    fun val => Silent.pure (RegValue.float (BitVec.ofNat 32 val))
  rw [reply, answer_value type long] at read
  rw [getRegister, described]
  dsimp only
  rw [if_pos readable, if_pos ⟨other, word⟩]
  exact read.outcome port

theorem getRegister_number (readable : desc.readable = true) (other : desc.type ≠ "str")
    (apart : desc.size ≠ 32) {width : ℕ} (number : numberWidth desc.size = some width) :
    (n.getRegister env reg).outcome port =
      numberOf width res >>= fun val => .value (.int (BitVec.ofNat 64 val)) := by
  have read := (getNumber_sends env n reg (numberWidth_bounds number).2).bind
    fun val => Silent.pure (RegValue.int (BitVec.ofNat 64 val))
  rw [reply, answer_value type long] at read
  rw [getRegister, described]
  dsimp only
  rw [if_pos readable, if_neg fun word => apart word.2, if_pos other, number]
  exact read.outcome port

theorem getRegister_bytes (readable : desc.readable = true) (other : desc.type ≠ "str")
    (wide : 32 < desc.size) :
    (n.getRegister env reg).outcome port = bytesOf (byteSize desc) res := by
  have read := getBytes_sends env n reg desc
  rw [reply, answer_value type long] at read
  rw [getRegister, described]
  dsimp only
  rw [if_pos readable, if_neg fun word => wide.ne' word.2, if_pos other, numberWidth_eq_none.mpr wide]
  exact read.outcome port

theorem getRegister_string (readable : desc.readable = true) (str : desc.type = "str") :
    (n.getRegister env reg).outcome port =
      textOf (byteSize desc) (min (byteSize desc) res.valueLength) res := by
  have read := getString_sends env n reg desc
  rw [reply, answer_value type long] at read
  rw [getRegister, described]
  dsimp only
  rw [if_pos readable, if_neg fun word => word.1 str, if_neg fun other => other str]
  exact read.outcome port

end Answer

/-! ## A frame by itself -/

/-- The value that `get_reg_value_from_frame` leaves, without the number of the register. -/
def valueFromFrame (n : Node) (res : H9Frame) (value : RegValue) : Outcome DevNodeException RegValue :=
  Prod.snd <$> n.getRegValueFromFrame res value

section FromFrame

variable (described : n.registerMap (res.data 0) = some desc) (type : res.type = FrameType.REG_VALUE)
  (long : 2 ≤ res.dlc.toNat) (value : RegValue)

include described type long

theorem valueFromFrame_number (other : desc.type ≠ "str") {width : ℕ}
    (number : numberWidth desc.size = some width) :
    n.valueFromFrame res value = numberOf width res >>= fun val => .value (.int (BitVec.ofNat 64 val)) := by
  rw [valueFromFrame, getRegValueFromFrame, if_pos (.inl type), if_neg (by omega)]
  dsimp only
  rw [described]
  dsimp only
  rw [if_pos other, number, numberOf, sized, H9Frame.valueLength]
  dsimp only
  rcases eq_or_ne (res.dlc.toNat - 1) width with same | apart
  · rw [if_neg (not_not.mpr same), if_pos same]
    rfl
  · rw [if_pos apart, if_neg apart]
    rfl

theorem valueFromFrame_bytes (short : res.dlc.toNat ≤ 8) (other : desc.type ≠ "str")
    (wide : 32 < desc.size) :
    n.valueFromFrame res value =
      if byteSize desc < res.valueLength then .throws .sizeMismatchException
      else .value (.bytes (res.valueBytes.take res.valueLength)) := by
  rw [valueFromFrame, getRegValueFromFrame, if_pos (.inl type), if_neg (by omega)]
  dsimp only
  rw [described]
  dsimp only
  rw [if_pos other, numberWidth_eq_none.mpr wide, H9Frame.valueLength]
  dsimp only
  rcases Nat.lt_or_ge (byteSize desc) (res.dlc.toNat - 1) with larger | fits
  · rw [if_pos larger, if_pos larger]
    rfl
  · rw [if_neg (by omega), if_neg (by omega), if_neg (by omega)]
    rfl

theorem valueFromFrame_string (str : desc.type = "str") :
    n.valueFromFrame res value =
      if 0 ∉ res.valueBytes then .undefined
      else if byteSize desc < res.valueLength then .throws .sizeMismatchException
      else .value (text (res.valueBytes.take res.valueLength)) := by
  rw [valueFromFrame, getRegValueFromFrame, if_pos (.inl type), if_neg (by omega)]
  dsimp only
  rw [described]
  dsimp only
  rw [if_neg (not_not.mpr str), H9Frame.valueLength, H9Frame.valueBytes, text, ← List.take_takeWhile]
  by_cases zero : 0 ∈ (List.ofFn res.data).tail
  · rw [if_neg (not_not.mpr zero), if_neg (not_not.mpr zero)]
    rcases Nat.lt_or_ge (byteSize desc) (res.dlc.toNat - 1) with larger | fits
    · rw [if_pos larger, if_pos larger]
      rfl
    · rw [if_neg (by omega), if_neg (by omega)]
      rfl
  · rw [if_pos zero, if_pos zero]
    rfl

end FromFrame

/-! ## Where they agree -/

/-- Where both functions find the same in a frame. A register that may not be read has no answer, so
there the other function has to refuse the frame. -/
def DecodesAlike (desc : RegisterDesc) (res : H9Frame) : Prop :=
  if desc.readable = true then
    if desc.type = "str" then 0 ∈ res.valueBytes ∧ res.valueLength ≤ byteSize desc
    else if desc.size = 32 then res.valueLength ≠ 4
    else 32 < desc.size → byteSize desc ≤ res.valueLength
  else
    if desc.type = "str" then 0 ∈ res.valueBytes ∧ byteSize desc < res.valueLength
    else if 32 < desc.size then byteSize desc < res.valueLength
    else numberWidth desc.size ≠ some res.valueLength

theorem numberOf_throws {width : ℕ} (apart : res.valueLength ≠ width) :
    numberOf width res = .throws .sizeMismatchException := by
  rw [numberOf, sized, if_neg apart]
  rfl

theorem numberOf_value {width : ℕ} (same : res.valueLength = width) :
    numberOf width res = .value (RawNode.ofBigEndian (res.valueBytes.take width)) := by
  rw [numberOf, sized, if_pos same]
  rfl

theorem numberOf_defined (width : ℕ) : (numberOf width res).Defined := by
  rcases eq_or_ne res.valueLength width with same | apart
  · rw [numberOf_value same]
    exact Outcome.defined_value _
  · rw [numberOf_throws apart]
    exact Outcome.defined_throws _

section Alike

variable (type : res.type = FrameType.REG_VALUE) (long : 2 ≤ res.dlc.toNat) (short : res.dlc.toNat ≤ 8)
  (value : RegValue)

include type long short

theorem sameAnswer_readable (described : n.registerMap (res.data 0) = some desc) (reply : env.reply = some res)
    (readable : desc.readable = true) (port : Port) :
    SameAnswer ((n.getRegister env (res.data 0)).outcome port) (n.valueFromFrame res value) ↔
      DecodesAlike desc res := by
  have seven : res.valueLength ≤ 7 := by
    rw [H9Frame.valueLength]
    omega
  rw [DecodesAlike, if_pos readable]
  rcases eq_or_ne desc.type "str" with str | other
  · rw [if_pos str, getRegister_string env n _ described reply type long port readable str,
      valueFromFrame_string n described type long value str, textOf]
    by_cases zero : 0 ∈ res.valueBytes
    · rcases Nat.lt_or_ge (byteSize desc) res.valueLength with larger | fits
      · rw [if_neg (by omega)]
        exact iff_of_false sameAnswer_undefined fun alike => by omega
      · rw [if_pos ⟨fits, by omega⟩, if_neg (not_not.mpr zero), if_neg (by omega)]
        exact iff_of_true rfl ⟨zero, fits⟩
    · rw [if_pos zero]
      refine iff_of_false ?_ fun alike => zero alike.1
      split
      · exact sameAnswer_value_undefined
      · exact sameAnswer_undefined
  · rw [if_neg other]
    rcases eq_or_ne desc.size 32 with word | apart
    · have number : numberWidth desc.size = some 4 := by rw [word]; rfl
      rw [if_pos word, getRegister_word env n _ described reply type long port readable other word,
        valueFromFrame_number n described type long value other number]
      rcases eq_or_ne res.valueLength 4 with four | notFour
      · rw [numberOf_value four]
        simp [four]
      · rw [numberOf_throws notFour]
        simp [notFour]
    · rw [if_neg apart]
      rcases Nat.lt_or_ge 32 desc.size with wide | narrow
      · rw [getRegister_bytes env n _ described reply type long port readable other wide,
          valueFromFrame_bytes n described type long value short other wide, bytesOf, sized,
          if_pos (by omega), imp_iff_right wide]
        rcases Nat.lt_trichotomy res.valueLength (byteSize desc) with below | same | above
        · rw [if_neg below.ne, if_neg (by omega)]
          simpa using below
        · rw [if_pos same, if_neg (by omega), same]
          simp
        · rw [if_neg above.ne', if_pos above]
          simpa using above.le
      · have number := numberWidth_eq narrow
        rw [getRegister_number env n _ described reply type long port readable other apart number,
          valueFromFrame_number n described type long value other number, sameAnswer_self]
        apply iff_of_true
        · exact Outcome.only_bind.mpr ⟨numberOf_defined _, fun _ _ => trivial⟩
        · exact fun wide => absurd wide (by omega)

theorem sameAnswer_unreadable (described : n.registerMap (res.data 0) = some desc)
    (unreadable : desc.readable = false) (port : Port) :
    SameAnswer ((n.getRegister env (res.data 0)).outcome port) (n.valueFromFrame res value) ↔
      DecodesAlike desc res := by
  rw [DecodesAlike, if_neg (by rw [unreadable]; decide), getRegister_unreadable env n _ described port unreadable]
  rcases eq_or_ne desc.type "str" with str | other
  · rw [if_pos str, valueFromFrame_string n described type long value str]
    by_cases zero : 0 ∈ res.valueBytes
    · rw [if_neg (not_not.mpr zero)]
      split
      · next larger => exact iff_of_true sameAnswer_throws ⟨zero, larger⟩
      · next fits => exact iff_of_false sameAnswer_throws_value fun alike => fits alike.2
    · rw [if_pos zero]
      exact iff_of_false sameAnswer_throws_undefined fun alike => zero alike.1
  · rw [if_neg other]
    rcases Nat.lt_or_ge 32 desc.size with wide | narrow
    · rw [if_pos wide, valueFromFrame_bytes n described type long value short other wide]
      split
      · next larger => simp [larger]
      · next fits => simp [fits]
    · have number := numberWidth_eq narrow
      rw [if_neg (by omega), valueFromFrame_number n described type long value other number, number, ne_eq,
        Option.some.injEq, eq_comm]
      by_cases same : res.valueLength = if desc.size ≤ 8 then 1 else if desc.size ≤ 16 then 2 else 4
      · rw [numberOf_value same]
        simp [same]
      · rw [numberOf_throws same]
        simp [same]

/-- Both functions find the same in a register value exactly if the frame is one that both measure
alike, and the register is not one of 32 bits whose value the frame carries. -/
theorem sameAnswer_iff (described : n.registerMap (res.data 0) = some desc) (reply : env.reply = some res)
    (port : Port) :
    SameAnswer ((n.getRegister env (res.data 0)).outcome port) (n.valueFromFrame res value) ↔
      DecodesAlike desc res := by
  cases readable : desc.readable with
  | true => exact sameAnswer_readable env n type long short value described reply readable port
  | false => exact sameAnswer_unreadable env n type long short value described readable port

end Alike

/-- A register value of a node. -/
def registerValue (bytes : List Byte) : H9Frame :=
  ({ (default : H9Frame) with type := FrameType.REG_VALUE }).setData bytes

/-- The answer of a node to a request. -/
def answeredBy (res : H9Frame) : Env := { (default : Env) with reply := some res }

theorem sameAnswer_twoBytes :
    SameAnswer (((oneRegister 11 (writableRegister "uint" 16)).getRegister
        (answeredBy (registerValue [11, 1, 2])) 11).outcome [])
      ((oneRegister 11 (writableRegister "uint" 16)).valueFromFrame (registerValue [11, 1, 2]) (.int 0)) :=
  (sameAnswer_iff (answeredBy (registerValue [11, 1, 2])) (oneRegister 11 (writableRegister "uint" 16))
    (show (registerValue [11, 1, 2]).type = FrameType.REG_VALUE from rfl) (by decide) (by decide) (.int 0)
    (oneRegister_described 11 (writableRegister "uint" 16)) rfl []).mpr (fun wide => absurd wide (by decide))

/-- Of a register of 32 bits one function finds a float, the other an integer. -/
theorem sameAnswer_word :
    ((oneRegister 11 (writableRegister "uint" 32)).getRegister
        (answeredBy (registerValue [11, 1, 2, 3, 4])) 11).outcome [] = .value (.float 0x01020304) ∧
      (oneRegister 11 (writableRegister "uint" 32)).valueFromFrame (registerValue [11, 1, 2, 3, 4]) (.int 0) =
        .value (.int 0x01020304) ∧
      ¬SameAnswer (((oneRegister 11 (writableRegister "uint" 32)).getRegister
          (answeredBy (registerValue [11, 1, 2, 3, 4])) 11).outcome [])
        ((oneRegister 11 (writableRegister "uint" 32)).valueFromFrame
          (registerValue [11, 1, 2, 3, 4]) (.int 0)) := by
  have described := oneRegister_described 11 (writableRegister "uint" 32)
  have type : (registerValue [11, 1, 2, 3, 4]).type = FrameType.REG_VALUE := rfl
  have number : numberWidth (writableRegister "uint" 32).size = some 4 := rfl
  have asked : ((oneRegister 11 (writableRegister "uint" 32)).getRegister
      (answeredBy (registerValue [11, 1, 2, 3, 4])) 11).outcome [] = .value (.float 0x01020304) := by
    rw [getRegister_word _ _ _ described rfl type (by decide) [] rfl (by decide) rfl]
    rfl
  have arrived : (oneRegister 11 (writableRegister "uint" 32)).valueFromFrame
      (registerValue [11, 1, 2, 3, 4]) (.int 0) = .value (.int 0x01020304) := by
    rw [valueFromFrame_number _ described type (by decide) (.int 0) (by decide) number]
    rfl
  refine ⟨asked, arrived, ?_⟩
  rw [asked, arrived]
  exact nofun

end Node

end H9d
