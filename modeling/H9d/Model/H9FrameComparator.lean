import H9d.Model.H9Frame

/-! # Frame comparators

A comparator holds two alternative field sets and a set of flags that say which fields take part.
The default constructor leaves `broadcast_group` unset, so its content is an argument here.
-/

namespace H9d

open H9Frame

structure H9FrameComparator where
  fieldsToCompare : BitVec 16
  sourceId : Byte
  broadcastGroup : BitVec 16
  seqnum : Byte
  seqnumOverride : Byte
  typeSet1 : FrameType
  destinationIdSet1 : Byte
  dlcSet1 : Byte
  dataSet1 : Fin 8 → Byte
  firstDataByteSet1 : Byte
  typeSet2 : FrameType
  destinationIdSet2 : Byte
  dlcSet2 : Byte
  dataSet2 : Fin 8 → Byte
  firstDataByteSet2 : Byte
  deriving DecidableEq

namespace H9FrameComparator

def SOURCE_ID : BitVec 16 := 1
def BROADCAST_GROUP : BitVec 16 := 2
def SEQNUM : BitVec 16 := 4
def TYPE_SET1 : BitVec 16 := 8
def DESTINATION_ID_SET1 : BitVec 16 := 16
def DATA_SET1 : BitVec 16 := 32
def FIRST_DATA_BYTE_SET1 : BitVec 16 := 64
def TYPE_SET2 : BitVec 16 := 128
def DESTINATION_ID_SET2 : BitVec 16 := 256
def DATA_SET2 : BitVec 16 := 512
def FIRST_DATA_BYTE_SET2 : BitVec 16 := 1024
def SEQNUM_OVERRIDE : BitVec 16 := 2048

def defaultConstructed (broadcastGroup : BitVec 16) : H9FrameComparator where
  fieldsToCompare := 0
  sourceId := 0
  broadcastGroup := broadcastGroup
  seqnum := 0
  seqnumOverride := 0
  typeSet1 := FrameType.RES1
  destinationIdSet1 := 0
  dlcSet1 := 0
  dataSet1 := fun _ => 0
  firstDataByteSet1 := 0
  typeSet2 := FrameType.RES1
  destinationIdSet2 := 0
  dlcSet2 := 0
  dataSet2 := fun _ => 0
  firstDataByteSet2 := 0

/-- The test `fields_to_compare & flag`. -/
def compares (c : H9FrameComparator) (flag : BitVec 16) : Bool := c.fieldsToCompare &&& flag != 0

def sameData (dlc : Byte) (data : Fin 8 → Byte) (b : H9Frame) : Bool :=
  dlc == b.dlc && decide (∀ i : Fin 8, i.val < dlc.toNat → data i = b.data i)

def sameFirstByte (data0 : Byte) (b : H9Frame) : Bool := !(b.dlc.ult 1) && data0 == b.data 0

def eq (c : H9FrameComparator) (b : H9Frame) : Bool :=
  if c.compares BROADCAST_GROUP && c.broadcastGroup != b.group then false
  else if c.compares SEQNUM && c.seqnum != b.seqnum then false
  else if c.compares TYPE_SET1 && c.typeSet1 != b.type then false
  else if c.compares DESTINATION_ID_SET1 && c.destinationIdSet1 != b.destinationId then false
  else if c.compares DATA_SET1 && !sameData c.dlcSet1 c.dataSet1 b then false
  else if c.compares FIRST_DATA_BYTE_SET1 && !sameFirstByte c.firstDataByteSet1 b then false
  else true

def eqAlternateSet (c : H9FrameComparator) (b : H9Frame) : Bool :=
  if c.compares SEQNUM_OVERRIDE && c.seqnumOverride != b.seqnum then false
  else if !c.compares SEQNUM_OVERRIDE && c.compares SEQNUM && c.seqnum != b.seqnum then false
  else if c.compares TYPE_SET2 && c.typeSet2 != b.type then false
  else if c.compares DESTINATION_ID_SET2 && c.destinationIdSet2 != b.destinationId then false
  else if c.compares DATA_SET2 && !sameData c.dlcSet2 c.dataSet2 b then false
  else if c.compares FIRST_DATA_BYTE_SET2 && !sameFirstByte c.firstDataByteSet2 b then false
  else c.compares (TYPE_SET2 ||| DESTINATION_ID_SET2 ||| DATA_SET2 ||| FIRST_DATA_BYTE_SET2)

/-- `operator==` of a comparator and a frame. -/
def eqFrame (c : H9FrameComparator) (b : H9Frame) : Bool :=
  if c.compares SOURCE_ID && c.sourceId != b.sourceId then false
  else c.eq b || c.eqAlternateSet b

def lessData (dlc : Byte) (data data' : Fin 8 → Byte) : Bool :=
  decide (∃ i : Fin 8, i.val < dlc.toNat ∧ (data i).ult (data' i))

/-- `operator<` of two comparators. -/
def lt (a b : H9FrameComparator) : Bool :=
  if a.fieldsToCompare.ult b.fieldsToCompare then true
  else if a.sourceId.ult b.sourceId then true
  else if a.seqnum.ult b.seqnum then true
  else if a.typeSet1.ult b.typeSet1 then true
  else if a.destinationIdSet1.ult b.destinationIdSet1 then true
  else if a.dlcSet1.ult b.dlcSet1 then true
  else if a.dlcSet1 == b.dlcSet1 && lessData a.dlcSet1 a.dataSet1 b.dataSet1 then true
  else if a.firstDataByteSet1.ult b.firstDataByteSet1 then true
  else if a.seqnumOverride.ult b.seqnumOverride then true
  else if a.typeSet2.ult b.typeSet2 then true
  else if a.destinationIdSet2.ult b.destinationIdSet2 then true
  else if a.dlcSet2.ult b.dlcSet2 then true
  else if a.dlcSet2 == b.dlcSet2 && lessData a.dlcSet2 a.dataSet2 b.dataSet2 then true
  else if a.firstDataByteSet2.ult b.firstDataByteSet2 then true
  else false

def setSeqnum (c : H9FrameComparator) (seqnum : Byte) : H9FrameComparator :=
  { c with seqnum, fieldsToCompare := c.fieldsToCompare ||| SEQNUM }

def seqnumOverrideForAlternateSet (c : H9FrameComparator) (seqnum : Byte) : H9FrameComparator :=
  { c with seqnumOverride := seqnum, fieldsToCompare := c.fieldsToCompare ||| SEQNUM_OVERRIDE }

def setSourceId (c : H9FrameComparator) (sourceId : Byte) : H9FrameComparator :=
  { c with sourceId, fieldsToCompare := c.fieldsToCompare ||| SOURCE_ID }

def setBroadcastGroup (c : H9FrameComparator) (broadcastGroup : BitVec 16) : H9FrameComparator :=
  { c with broadcastGroup, fieldsToCompare := c.fieldsToCompare ||| BROADCAST_GROUP }

def setType (c : H9FrameComparator) (type : FrameType) : H9FrameComparator :=
  { c with typeSet1 := type, fieldsToCompare := c.fieldsToCompare ||| TYPE_SET1 }

def setTypeInAlternateSet (c : H9FrameComparator) (type : FrameType) : H9FrameComparator :=
  { c with typeSet2 := type, fieldsToCompare := c.fieldsToCompare ||| TYPE_SET2 }

def setFirstDataByte (c : H9FrameComparator) (data0 : Byte) : H9FrameComparator :=
  { c with firstDataByteSet1 := data0, fieldsToCompare := c.fieldsToCompare ||| FIRST_DATA_BYTE_SET1 }

def setDestinationId (c : H9FrameComparator) (destinationId : Byte) : H9FrameComparator :=
  { c with destinationIdSet1 := destinationId, fieldsToCompare := c.fieldsToCompare ||| DESTINATION_ID_SET1 }

def setDestinationIdInAlternateSet (c : H9FrameComparator) (destinationId : Byte) : H9FrameComparator :=
  { c with destinationIdSet2 := destinationId, fieldsToCompare := c.fieldsToCompare ||| DESTINATION_ID_SET2 }

/-- The loop writes all bytes that it is given to an array of eight. -/
def setData (c : H9FrameComparator) (data : List Byte) : Option H9FrameComparator :=
  if data.length ≤ MAX_DATA_LENGTH then
    some { c with
      dataSet1 := fun i => data.getD i (c.dataSet1 i)
      dlcSet1 := BitVec.ofNat 8 data.length
      fieldsToCompare := c.fieldsToCompare ||| DATA_SET1 }
  else none

def setDataInAlternateSet (c : H9FrameComparator) (data : List Byte) : Option H9FrameComparator :=
  if data.length ≤ MAX_DATA_LENGTH then
    some { c with
      dataSet2 := fun i => data.getD i (c.dataSet2 i)
      dlcSet2 := BitVec.ofNat 8 data.length
      fieldsToCompare := c.fieldsToCompare ||| DATA_SET2 }
  else none

def setFirstDataByteInAlternateSet (c : H9FrameComparator) (data0 : Byte) : H9FrameComparator :=
  { c with firstDataByteSet2 := data0, fieldsToCompare := c.fieldsToCompare ||| FIRST_DATA_BYTE_SET2 }

inductive Setter
  | seqnum (seqnum : Byte)
  | seqnumOverrideForAlternateSet (seqnum : Byte)
  | sourceId (sourceId : Byte)
  | broadcastGroup (broadcastGroup : BitVec 16)
  | type (type : FrameType)
  | typeInAlternateSet (type : FrameType)
  | destinationId (destinationId : Byte)
  | destinationIdInAlternateSet (destinationId : Byte)
  | data (data : List Byte)
  | dataInAlternateSet (data : List Byte)
  | firstDataByte (data0 : Byte)
  | firstDataByteInAlternateSet (data0 : Byte)

def set (c : H9FrameComparator) : Setter → Option H9FrameComparator
  | .seqnum seqnum => some (c.setSeqnum seqnum)
  | .seqnumOverrideForAlternateSet seqnum => some (c.seqnumOverrideForAlternateSet seqnum)
  | .sourceId sourceId => some (c.setSourceId sourceId)
  | .broadcastGroup broadcastGroup => some (c.setBroadcastGroup broadcastGroup)
  | .type type => some (c.setType type)
  | .typeInAlternateSet type => some (c.setTypeInAlternateSet type)
  | .destinationId destinationId => some (c.setDestinationId destinationId)
  | .destinationIdInAlternateSet destinationId => some (c.setDestinationIdInAlternateSet destinationId)
  | .data data => c.setData data
  | .dataInAlternateSet data => c.setDataInAlternateSet data
  | .firstDataByte data0 => some (c.setFirstDataByte data0)
  | .firstDataByteInAlternateSet data0 => some (c.setFirstDataByteInAlternateSet data0)

/-- A comparator as a caller makes it; `memory` is what is in the group before. -/
def built (memory : BitVec 16) (setters : List Setter) : Option H9FrameComparator :=
  setters.foldlM set (defaultConstructed memory)

section Reading

variable (c : H9FrameComparator) (b : H9Frame)

theorem sameFirstByte_iff (data0 : Byte) (b : H9Frame) :
    sameFirstByte data0 b = true ↔ 1 ≤ b.dlc.toNat ∧ data0 = b.data 0 := by
  rw [sameFirstByte, Bool.and_eq_true, Bool.not_eq_true', beq_iff_eq, ← Bool.not_eq_true,
    BitVec.ult_iff_lt, BitVec.lt_def, not_lt]
  rfl

/-- An early `return false` guards what follows it. -/
private theorem unless_iff (fails rest : Bool) :
    (if fails then false else rest) = true ↔ fails = false ∧ rest = true := by
  cases fails <;> simp

private theorem field_iff {α : Type*} [DecidableEq α] (flag : Bool) (x y : α) :
    (flag && x != y) = false ↔ (flag = true → x = y) := by
  cases flag <;> simp

private theorem test_iff (flag test : Bool) :
    (flag && !test) = false ↔ (flag = true → test = true) := by
  cases flag <;> simp

/-- The first field set, read as one implication for each flag. -/
theorem eq_iff : c.eq b = true ↔
    (c.compares BROADCAST_GROUP → c.broadcastGroup = b.group) ∧
    (c.compares SEQNUM → c.seqnum = b.seqnum) ∧
    (c.compares TYPE_SET1 → c.typeSet1 = b.type) ∧
    (c.compares DESTINATION_ID_SET1 → c.destinationIdSet1 = b.destinationId) ∧
    (c.compares DATA_SET1 → sameData c.dlcSet1 c.dataSet1 b) ∧
    (c.compares FIRST_DATA_BYTE_SET1 → sameFirstByte c.firstDataByteSet1 b) := by
  simp only [eq, unless_iff, field_iff, test_iff, and_true]

/-- The alternate set needs a field of its own, and an override replaces the sequence number. -/
theorem eqAlternateSet_iff : c.eqAlternateSet b = true ↔
    (c.compares SEQNUM_OVERRIDE → c.seqnumOverride = b.seqnum) ∧
    (c.compares SEQNUM_OVERRIDE = false → c.compares SEQNUM → c.seqnum = b.seqnum) ∧
    (c.compares TYPE_SET2 → c.typeSet2 = b.type) ∧
    (c.compares DESTINATION_ID_SET2 → c.destinationIdSet2 = b.destinationId) ∧
    (c.compares DATA_SET2 → sameData c.dlcSet2 c.dataSet2 b) ∧
    (c.compares FIRST_DATA_BYTE_SET2 → sameFirstByte c.firstDataByteSet2 b) ∧
    c.compares (TYPE_SET2 ||| DESTINATION_ID_SET2 ||| DATA_SET2 ||| FIRST_DATA_BYTE_SET2) := by
  simp only [eqAlternateSet, unless_iff, field_iff, test_iff, Bool.and_assoc]
  cases c.compares SEQNUM_OVERRIDE <;> simp

theorem eqFrame_iff : c.eqFrame b = true ↔
    (c.compares SOURCE_ID → c.sourceId = b.sourceId) ∧
      (c.eq b = true ∨ c.eqAlternateSet b = true) := by
  rw [eqFrame, unless_iff, field_iff, Bool.or_eq_true]

end Reading

section SetSeqnum

variable (c : H9FrameComparator) (s : Byte)

theorem compares_setSeqnum_of_disjoint (flag : BitVec 16) (disjoint : SEQNUM &&& flag = 0#16) :
    (c.setSeqnum s).compares flag = c.compares flag := by
  rw [compares, compares, setSeqnum, Bits.or_and_of_disjoint _ _ _ disjoint]

theorem compares_setSeqnum : (c.setSeqnum s).compares SEQNUM = true := by
  have selected : (c.fieldsToCompare ||| SEQNUM) &&& SEQNUM = SEQNUM := by
    ext i bound
    simp only [BitVec.getElem_and, BitVec.getElem_or]
    cases c.fieldsToCompare[i] <;> cases SEQNUM[i] <;> rfl
  rw [compares, setSeqnum, selected]
  rfl

/-- What a comparator accepts after it learns a sequence number. -/
theorem eqFrame_setSeqnum_iff (unnumbered : c.compares SEQNUM = false) (b : H9Frame) :
    (c.setSeqnum s).eqFrame b = true ↔
      (c.compares SOURCE_ID → c.sourceId = b.sourceId) ∧
        ((c.eq b = true ∧ s = b.seqnum) ∨
          (c.eqAlternateSet b = true ∧ (c.compares SEQNUM_OVERRIDE = false → s = b.seqnum))) := by
  have keeps := compares_setSeqnum_of_disjoint c s
  rw [eqFrame_iff, eq_iff, eqAlternateSet_iff, eq_iff, eqAlternateSet_iff, keeps SOURCE_ID rfl,
    keeps BROADCAST_GROUP rfl, keeps TYPE_SET1 rfl, keeps DESTINATION_ID_SET1 rfl,
    keeps DATA_SET1 rfl, keeps FIRST_DATA_BYTE_SET1 rfl, keeps SEQNUM_OVERRIDE rfl,
    keeps TYPE_SET2 rfl, keeps DESTINATION_ID_SET2 rfl, keeps DATA_SET2 rfl,
    keeps FIRST_DATA_BYTE_SET2 rfl,
    keeps (TYPE_SET2 ||| DESTINATION_ID_SET2 ||| DATA_SET2 ||| FIRST_DATA_BYTE_SET2) rfl,
    unnumbered, compares_setSeqnum]
  simp only [setSeqnum]
  grind

/-- Learning the sequence number only narrows what a comparator without one accepts. -/
theorem eqFrame_of_setSeqnum (unnumbered : c.compares SEQNUM = false) (b : H9Frame)
    (matched : (c.setSeqnum s).eqFrame b = true) : c.eqFrame b = true := by
  obtain ⟨source, hit⟩ := (eqFrame_setSeqnum_iff c s unnumbered b).mp matched
  exact (eqFrame_iff c b).mpr ⟨source, hit.imp And.left And.left⟩

end SetSeqnum

end H9FrameComparator

end H9d
