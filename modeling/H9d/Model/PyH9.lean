import H9d.Model.NodeMgr
import H9d.Model.VirtualPyNode

/-! # The frames of the Python module

The Python code of a virtual node makes frame objects, writes their attributes and sends them. A new object
is zeroed memory; a call of the constructor or an assignment may fail on the way, and what it has written by
then stays. The object for a received frame is memory that nobody has initialised.
-/

namespace H9d.PyH9

open H9Frame

/-- What Python hands over: what counts is whether it is an integer or a sequence, and whether the sequence
has a `__len__` that does not fail. -/
inductive PyValue
  | int (n : ℤ)
  | sequence (size : Option ℕ) (items : List PyValue)
  | other

/-- An exception of the interpreter, or one of the module with its text. -/
inductive PyError
  | conversion
  | typeError (what : String)
  | overflowError (what : String)
  deriving DecidableEq

namespace PyValue

/-- `PyLong_AsUnsignedLong`. -/
def asUnsignedLong : PyValue → Except PyError (BitVec 64)
  | .int n => if 0 ≤ n ∧ n < 2 ^ 64 then .ok (BitVec.ofInt 64 n) else .error .conversion
  | .sequence .. | .other => .error .conversion

/-- The formats `B` and `H`, which check no overflow. -/
def asMask (width : ℕ) : PyValue → Except PyError (BitVec width)
  | .int n => .ok (BitVec.ofInt width n)
  | .sequence .. | .other => .error .conversion

end PyValue

/-- The frame after a call, with the exception if there is one. -/
abbrev Result := H9Frame × Option PyError

def maximum (max : ℕ) : PyError := .overflowError ("maximum allowed value is " ++ toString max)

/-- The setters of numbers. The value is converted to `unsigned int` before it is compared. -/
def setNumber (named : String) (max : ℕ) (write : H9Frame → Byte → H9Frame) (f : H9Frame) :
    Option PyValue → Result
  | none => (f, some (.typeError ("Cannot delete the '" ++ named ++ "' attribute")))
  | some value =>
      match value.asUnsignedLong with
      | .error e => (f, some e)
      | .ok v =>
          let tmp := v.setWidth 32
          if max < tmp.toNat then (f, some (maximum max)) else (write f (tmp.setWidth 8), none)

def TYPE_MAX_VALUE : ℕ := 2 ^ TYPE_BIT_LENGTH - 1

/-- The text names another attribute. -/
def setType : H9Frame → Option PyValue → Result :=
  setNumber "seqnum" TYPE_MAX_VALUE fun f type => { f with type }

def setSeqnum : H9Frame → Option PyValue → Result :=
  setNumber "seqnum" SEQNUM_MAX_VALUE fun f seqnum => { f with seqnum }

def setDestinationId : H9Frame → Option PyValue → Result :=
  setNumber "destination_id" ID_MAX_VALUE fun f destinationId => { f with destinationId }

/-- This one has a check of its own for what is no integer. -/
def setSourceId (f : H9Frame) (value : Option PyValue) : Result :=
  match value with
  | some (.sequence ..) | some .other =>
      (f, some (.typeError "The 'source_id' attribute value must be a int"))
  | value => setNumber "source_id" ID_MAX_VALUE (fun f sourceId => { f with sourceId }) f value

def setDlc : H9Frame → Option PyValue → Result :=
  setNumber "dlc" MAX_DATA_LENGTH fun f dlc => { f with dlc }

/-- The loop over the items. -/
def storeItems (f : H9Frame) : ℕ → List PyValue → Result
  | _, [] => (f, none)
  | i, item :: items =>
      match item.asUnsignedLong with
      | .error e => ({ f with dlc := 0 }, some e)
      | .ok v =>
          let tmp := v.setWidth 32
          if 255 < tmp.toNat then ({ f with dlc := 0 }, some (maximum 255))
          else storeItems { f with data := fun j => if j.val = i then tmp.setWidth 8 else f.data j } (i + 1) items

/-- `PySequence_Size` as an `int`. -/
def sequenceSize : Option ℕ → BitVec 32
  | some size => BitVec.ofNat 32 size
  | none => -1

/-- `PySequence_GetItem` for the first indices. What it returns where there is no item is no integer. -/
def firstItems (n : ℕ) (items : List PyValue) : List PyValue := (items ++ List.replicate n PyValue.other).take n

/-- The exception of `PySequence_Size` is not looked at. -/
def storeData (f : H9Frame) : PyValue → Result
  | .sequence size items =>
      let len := sequenceSize size
      if (MAX_DATA_LENGTH : ℤ) < len.toInt then
        (f, some (.overflowError "The length of the 'date' attribute must be less or equal than 8."))
      else
        match storeItems f 0 (firstItems len.toInt.toNat items) with
        | (f, none) => ({ f with dlc := len.setWidth 8 }, none)
        | failed => failed
  | .int _ | .other =>
      (f, some (.typeError "The 'data' attribute value must be a sequence object (e.g. tuple, list)"))

def setData (f : H9Frame) : Option PyValue → Result
  | none => (f, some (.typeError "Cannot delete the 'data' attribute"))
  | some value => storeData f value

/-- A loop over as many bytes as `dlc` counts, from an array of eight. -/
def getData (f : H9Frame) : Option (List Byte) :=
  if f.dlc.toNat ≤ MAX_DATA_LENGTH then some f.listed else none

/-- The arguments of the constructor, all of them optional. -/
structure Arguments where
  type : Option PyValue := none
  sourceId : Option PyValue := none
  broadcastGroup : Option PyValue := none
  destinationId : Option PyValue := none
  seqnum : Option PyValue := none
  dlc : Option PyValue := none
  data : Option PyValue := none

/-- A number of the constructor, zero without an argument. -/
def argument (width : ℕ) : Option PyValue → Except PyError (BitVec width)
  | none => .ok 0
  | some value => value.asMask width

structure Parsed where
  type : Byte
  sourceId : Byte
  destinationId : Byte
  seqnum : Byte
  dlc : Byte

/-- `PyArg_ParseTupleAndKeywords`; nothing looks at the broadcast group behind it. -/
def Arguments.parse (args : Arguments) : Except PyError Parsed := do
  let type ← argument 8 args.type
  let sourceId ← argument 8 args.sourceId
  let _ ← argument 16 args.broadcastGroup
  let destinationId ← argument 8 args.destinationId
  let seqnum ← argument 8 args.seqnum
  let dlc ← argument 8 args.dlc
  return { type, sourceId, destinationId, seqnum, dlc }

/-- `H9Frame_init`. A byte is never beyond the last id. -/
def init (f : H9Frame) (args : Arguments) : Result :=
  match args.parse with
  | .error e => (f, some e)
  | .ok parsed =>
    if TYPE_MAX_VALUE < parsed.type.toNat then (f, some (maximum TYPE_MAX_VALUE))
    else
      let f := { f with type := parsed.type }
      if SEQNUM_MAX_VALUE < parsed.seqnum.toNat then (f, some (maximum SEQNUM_MAX_VALUE))
      else
        let f := { f with
          seqnum := parsed.seqnum, destinationId := parsed.destinationId, sourceId := parsed.sourceId }
        if 8 < parsed.dlc.toNat then (f, some (maximum 8))
        else
          let f := { f with dlc := parsed.dlc }
          match args.data with
          | none => (f, none)
          | some data => storeData f data

/-! ## Objects -/

/-- What Python code can do to a frame object. A deletion assigns nothing. -/
inductive Operation
  | init (args : Arguments)
  | setType (value : Option PyValue)
  | setSeqnum (value : Option PyValue)
  | setDestinationId (value : Option PyValue)
  | setSourceId (value : Option PyValue)
  | setDlc (value : Option PyValue)
  | setData (value : Option PyValue)

def Operation.apply (f : H9Frame) : Operation → Result
  | .init args => PyH9.init f args
  | .setType value => PyH9.setType f value
  | .setSeqnum value => PyH9.setSeqnum f value
  | .setDestinationId value => PyH9.setDestinationId f value
  | .setSourceId value => PyH9.setSourceId f value
  | .setDlc value => PyH9.setDlc f value
  | .setData value => PyH9.setData f value

/-- A new object; its origin is no string yet, and nothing looks at it before it is sent. -/
def zeroed : H9Frame where
  origin := ""
  creationTimestamp := 0
  type := 0
  sourceId := 0
  flags := 0
  destinationId := 0
  seqnum := 0
  group := 0
  dlc := 0
  data := fun _ => 0

/-- `PyH9Frame_New`. The assignment of the frame is defined only if the memory of the object happens to hold
a string where the origin is. -/
def pyH9FrameNew (memory : Option H9Frame) (frame : H9Frame) : Option H9Frame := memory.map fun _ => frame

/-- Python code goes on after an exception if it likes. -/
def build (f : H9Frame) (operations : List Operation) : H9Frame :=
  operations.foldl (fun f operation => (operation.apply f).1) f

end H9d.PyH9
