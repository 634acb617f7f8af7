import H9d.Core.Future
import H9d.Core.LabeledMachine
import H9d.Model.H9FrameComparator
import Mathlib.Data.List.Sort

/-! # Request promises of a raw node

Every register request registers a `FramePromise` before its frame is sent and tells it the
sequence number after the send. Frames that arrive in between are stored and replayed. The four
operations below run under `frame_promise_set_mtx`, so each is one step. Received frames carry a
tag that no operation reads; it names the arrival when two frames have equal contents.
-/

namespace H9d

open H9Frame Machine

/-- A received frame with the identity of its arrival. -/
structure ReceivedFrame (Tag : Type) where
  frame : H9Frame
  tag : Tag
  deriving DecidableEq

namespace RawNode

/-- The requests that wait for a frame; the fields are those their comparators or frames use. -/
inductive Request
  | reset
  | setReg (reg : Byte) (regVal : List Byte)
  | getReg (reg : Byte)
  | setBit (reg bit : Byte)
  | clearBit (reg bit : Byte)
  deriving DecidableEq, Repr

section Comparators

open H9FrameComparator

variable (garbage : BitVec 16) (nodeId : Byte)

def resetComparator : H9FrameComparator :=
  (((defaultConstructed garbage).setSourceId nodeId).setType FrameType.COMMAND_ERROR
    |>.setTypeInAlternateSet FrameType.NODE_TURNED_ON).seqnumOverrideForAlternateSet 0

/-- The four lines that `bit_operation`, `set_reg` and `get_reg` share. -/
def registerComparator (reg : Byte) : H9FrameComparator :=
  (((defaultConstructed garbage).setSourceId nodeId).setType FrameType.REG_VALUE
    |>.setFirstDataByte reg).setTypeInAlternateSet FrameType.COMMAND_ERROR

def bitOperationComparator (reg : Byte) : H9FrameComparator := registerComparator garbage nodeId reg
def setRegComparator (reg : Byte) : H9FrameComparator := registerComparator garbage nodeId reg
def getRegComparator (reg : Byte) : H9FrameComparator := registerComparator garbage nodeId reg

def Request.comparator : Request → H9FrameComparator
  | .reset => resetComparator garbage nodeId
  | .setReg reg _ => setRegComparator garbage nodeId reg
  | .getReg reg => getRegComparator garbage nodeId reg
  | .setBit reg _ => bitOperationComparator garbage nodeId reg
  | .clearBit reg _ => bitOperationComparator garbage nodeId reg

theorem registerComparator_fields (reg : Byte) :
    (registerComparator garbage nodeId reg).fieldsToCompare =
      SOURCE_ID ||| TYPE_SET1 ||| FIRST_DATA_BYTE_SET1 ||| TYPE_SET2 := by
  simp only [registerComparator, setSourceId, setType, setFirstDataByte, setTypeInAlternateSet,
    defaultConstructed]
  decide

theorem resetComparator_fields :
    (resetComparator garbage nodeId).fieldsToCompare =
      SOURCE_ID ||| TYPE_SET1 ||| TYPE_SET2 ||| SEQNUM_OVERRIDE := by
  simp only [resetComparator, setSourceId, setType, setTypeInAlternateSet,
    seqnumOverrideForAlternateSet, defaultConstructed]
  decide

theorem Request.comparator_unnumbered (request : Request) :
    (request.comparator garbage nodeId).compares SEQNUM = false := by
  cases request with
  | reset =>
    rw [compares, Request.comparator, resetComparator_fields]
    decide
  | setReg reg _ | getReg reg | setBit reg _ | clearBit reg _ =>
    change (registerComparator garbage nodeId reg).compares SEQNUM = false
    rw [compares, registerComparator_fields]
    decide

private theorem registerComparator_compares (reg : Byte) (flag : BitVec 16) :
    (registerComparator garbage nodeId reg).compares flag =
      ((SOURCE_ID ||| TYPE_SET1 ||| FIRST_DATA_BYTE_SET1 ||| TYPE_SET2) &&& flag != 0) := by
  rw [compares, registerComparator_fields]

private theorem registerComparator_eq (reg : Byte) (f : H9Frame) :
    (registerComparator garbage nodeId reg).eq f = true ↔
      f.type = FrameType.REG_VALUE ∧ 1 ≤ f.dlc.toNat ∧ f.data 0 = reg := by
  have off (flag : BitVec 16) : (registerComparator garbage nodeId reg).compares flag = true ↔
      ((SOURCE_ID ||| TYPE_SET1 ||| FIRST_DATA_BYTE_SET1 ||| TYPE_SET2) &&& flag != 0) = true := by
    rw [registerComparator_compares]
  rw [eq_iff, off, off, off, off, off, off, sameFirstByte_iff]
  constructor
  · rintro ⟨-, -, type, -, -, first⟩
    obtain ⟨length, same⟩ := first (by decide)
    exact ⟨(type (by decide)).symm, length, same.symm⟩
  · rintro ⟨type, length, same⟩
    exact ⟨(absurd · (by decide)), (absurd · (by decide)), fun _ => type.symm,
      (absurd · (by decide)), (absurd · (by decide)), fun _ => ⟨length, same.symm⟩⟩

private theorem registerComparator_eqAlternateSet (reg : Byte) (f : H9Frame) :
    (registerComparator garbage nodeId reg).eqAlternateSet f = true ↔
      f.type = FrameType.COMMAND_ERROR := by
  have off (flag : BitVec 16) : (registerComparator garbage nodeId reg).compares flag =
      ((SOURCE_ID ||| TYPE_SET1 ||| FIRST_DATA_BYTE_SET1 ||| TYPE_SET2) &&& flag != 0) :=
    registerComparator_compares garbage nodeId reg flag
  rw [eqAlternateSet_iff]
  simp only [off]
  constructor
  · rintro ⟨-, -, type, -, -, -, -⟩
    exact (type (by decide)).symm
  · intro type
    exact ⟨(absurd · (by decide)), fun _ => (absurd · (by decide)), fun _ => type.symm,
      (absurd · (by decide)), (absurd · (by decide)), (absurd · (by decide)), by decide⟩

/-- A register comparator accepts the value of its register and any command error, from its node. -/
theorem registerComparator_eqFrame (reg : Byte) (f : H9Frame) :
    (registerComparator garbage nodeId reg).eqFrame f = true ↔
      f.sourceId = nodeId ∧ ((f.type = FrameType.REG_VALUE ∧ 1 ≤ f.dlc.toNat ∧ f.data 0 = reg) ∨
        f.type = FrameType.COMMAND_ERROR) := by
  rw [eqFrame_iff, registerComparator_eq, registerComparator_eqAlternateSet,
    registerComparator_compares]
  refine and_congr_left fun _ => ⟨fun source => (source (by decide)).symm, fun source _ => source.symm⟩

theorem registerComparator_setSeqnum_eqFrame (reg seqnum : Byte) (f : H9Frame) :
    ((registerComparator garbage nodeId reg).setSeqnum seqnum).eqFrame f = true ↔
      (registerComparator garbage nodeId reg).eqFrame f = true ∧ f.seqnum = seqnum := by
  have unnumbered : (registerComparator garbage nodeId reg).compares SEQNUM = false := by
    rw [registerComparator_compares]
    decide
  have kept : (registerComparator garbage nodeId reg).compares SEQNUM_OVERRIDE = false := by
    rw [registerComparator_compares]
    decide
  rw [eqFrame_setSeqnum_iff _ _ unnumbered, eqFrame_iff, kept]
  grind

/-- The register a register request is about. -/
def Request.register? : Request → Option Byte
  | .reset => none
  | .setReg reg _ | .getReg reg | .setBit reg _ | .clearBit reg _ => some reg

end Comparators

structure FramePromise (Tag : Type) where
  comparatorHasSeqnum : Bool
  comparator : H9FrameComparator
  frameStorage : List (ReceivedFrame Tag)
  promise : Cxx.Promise (ReceivedFrame Tag)

/-- An exception that leaves an operation, or a use of a deleted promise. -/
inductive Fault
  | futureError (e : Cxx.FutureError)
  | dangling
  deriving DecidableEq, Repr

namespace FramePromise

variable {Tag : Type}

def make (comparator : H9FrameComparator) : FramePromise Tag :=
  ⟨false, comparator, [], Cxx.Promise.unset⟩

/-- The Boolean is the return value: a full match, after which the promise can be erased. -/
def onFrame (fp : FramePromise Tag) (frame : ReceivedFrame Tag) :
    Except Fault (Bool × FramePromise Tag) :=
  if fp.comparator.eqFrame frame.frame then
    if fp.comparatorHasSeqnum then
      match fp.promise.setValue frame with
      | .ok promise => .ok (true, { fp with promise })
      | .error e => .error (.futureError e)
    else .ok (false, { fp with frameStorage := fp.frameStorage ++ [frame] })
  else .ok (false, fp)

/-- The loop of `set_comparator_seqnum` over the queue; it stops at the first full match. -/
def replayStorage (fp : FramePromise Tag) :
    List (ReceivedFrame Tag) → Except Fault (Bool × FramePromise Tag)
  | [] => .ok (false, { fp with frameStorage := [] })
  | front :: rest => do
    let (full, fp) ← { fp with frameStorage := front :: rest }.onFrame front
    if full then return (true, fp) else replayStorage fp rest

def setComparatorSeqnum (fp : FramePromise Tag) (seqnum : Byte) :
    Except Fault (Bool × FramePromise Tag) :=
  { fp with comparator := fp.comparator.setSeqnum seqnum, comparatorHasSeqnum := true }.replayStorage
    fp.frameStorage

end FramePromise

abbrev Pointer := ℕ

structure State (Tag : Type) where
  heap : Pointer → Option (FramePromise Tag)
  /-- The elements of the `std::set`, in its order. -/
  framePromiseSet : List Pointer
  fault : Option Fault

namespace State

variable {Tag : Type}

def empty : State Tag := ⟨fun _ => none, [], none⟩

def write (s : State Tag) (p : Pointer) (fp : Option (FramePromise Tag)) : State Tag :=
  { s with heap := Function.update s.heap p fp }

def erase (s : State Tag) (p : Pointer) : State Tag :=
  { s with framePromiseSet := s.framePromiseSet.filter (· ≠ p) }

def insert (s : State Tag) (p : Pointer) : State Tag :=
  { s with framePromiseSet :=
      if p ∈ s.framePromiseSet then s.framePromiseSet
      else s.framePromiseSet.orderedInsert (· ≤ ·) p }

/-- Stores the result of an operation on the object at `p`, which is erased after a full match. -/
def settle (s : State Tag) (p : Pointer) (result : Bool × FramePromise Tag) : State Tag :=
  let s := s.write p (some result.2)
  if result.1 then s.erase p else s

/-- One iteration of the loop in `on_frame_recv`. -/
def visit (frame : ReceivedFrame Tag) (s : State Tag) (p : Pointer) : Except Fault (State Tag) :=
  match s.heap p with
  | none => .error .dangling
  | some fp => do
    let result ← fp.onFrame frame
    return s.settle p result

def onFrameRecv (s : State Tag) (frame : ReceivedFrame Tag) : Except Fault (State Tag) :=
  s.framePromiseSet.foldlM (visit frame) s

def createFramePromise (s : State Tag) (p : Pointer) (comparator : H9FrameComparator) : State Tag :=
  (s.write p (some (FramePromise.make comparator))).insert p

def destroyFramePromise (s : State Tag) (p : Pointer) : State Tag :=
  (s.erase p).write p none

def setComparatorSeqnum (s : State Tag) (p : Pointer) (seqnum : Byte) : Except Fault (State Tag) :=
  match s.heap p with
  | none => .error .dangling
  | some fp => do
    let result ← fp.setComparatorSeqnum seqnum
    return s.settle p result

/-- An operation that throws leaves the fault behind. -/
def afterCall (s : State Tag) : Except Fault (State Tag) → State Tag
  | .ok next => next
  | .error e => { s with fault := some e }

end State

inductive Event (Tag : Type)
  | createFramePromise (p : Pointer) (garbage : BitVec 16) (request : Request)
  | onFrameRecv (frame : ReceivedFrame Tag)
  | setComparatorSeqnum (p : Pointer) (seqnum : Byte)
  | destroyFramePromise (p : Pointer)

/-- The guards are the callers' discipline: `new` returns a free address, and a request tells its
own live promise the sequence number once and destroys it once. -/
def step? (Tag : Type) (nodeId : Byte) (s : State Tag) : Event Tag → Option (State Tag)
  | .createFramePromise p garbage request =>
      if s.fault = none ∧ (s.heap p).isNone then
        some (s.createFramePromise p (request.comparator garbage nodeId))
      else none
  | .onFrameRecv frame => if s.fault = none then some (s.afterCall (s.onFrameRecv frame)) else none
  | .setComparatorSeqnum p seqnum =>
      if s.fault = none ∧ (s.heap p).any (fun fp => !fp.comparatorHasSeqnum) then
        some (s.afterCall (s.setComparatorSeqnum p seqnum))
      else none
  | .destroyFramePromise p =>
      if s.fault = none ∧ (s.heap p).isSome then some (s.destroyFramePromise p) else none

def machine (Tag : Type) (nodeId : Byte) : LabeledMachine (State Tag) (Event Tag) where
  Initial s := s = State.empty
  step? := step? Tag nodeId

end RawNode

end H9d
