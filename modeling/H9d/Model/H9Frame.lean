import H9d.Core.BitSlice
import Mathlib.Data.Fin.VecNotation
import Mathlib.Data.Fintype.Pi
import Mathlib.Tactic.FinCases

/-! # H9 frames

The frame object and its two binary codecs: the 29-bit CAN identifier with eight data bytes, and
the 13-byte serialization. Members keep the widths of the C++ members, so a setter may leave a
value in a member that is wider than its field in the identifier.
-/

namespace H9d

abbrev Byte := BitVec 8

/-- An `enum class` over `uint8_t`: every byte is a value, the named ones are constants. -/
abbrev H9Frame.FrameType := BitVec 8

namespace H9Frame

namespace FrameType

def RES1 : FrameType := 0
def PAGE_START : FrameType := 1
def QUIT_BOOTLOADER : FrameType := 2
def PAGE_FILL : FrameType := 3
def RES2 : FrameType := 4
def PAGE_FILL_NEXT : FrameType := 5
def PAGE_WRITED : FrameType := 6
def PAGE_FILL_BREAK : FrameType := 7
def COMMAND_ERROR : FrameType := 8
def REG_VALUE : FrameType := 9
def SET_REG : FrameType := 10
def GET_REG : FrameType := 11
def SET_BIT : FrameType := 12
def CLEAR_BIT : FrameType := 13
def NODE_UPGRADE : FrameType := 14
def NODE_RESET : FrameType := 15
def DISCOVER : FrameType := 16
def GROUP_RESET : FrameType := 17
def NODE_FAULT : FrameType := 18
def REG_VALUE_BROADCAST : FrameType := 19
def NODE_HEARTBEAT : FrameType := 20
def NODE_INFO : FrameType := 21
def NODE_TURNED_ON : FrameType := 22
def BOOTLOADER_TURNED_ON : FrameType := 23
def NODE_SPECIFIC_BROADCAST0 : FrameType := 24
def NODE_SPECIFIC_BROADCAST1 : FrameType := 25
def NODE_SPECIFIC_BROADCAST2 : FrameType := 26
def NODE_SPECIFIC_BROADCAST3 : FrameType := 27
def NODE_SPECIFIC_BROADCAST4 : FrameType := 28
def NODE_SPECIFIC_BROADCAST5 : FrameType := 29
def NODE_SPECIFIC_BROADCAST6 : FrameType := 30
def NODE_SPECIFIC_BROADCAST7 : FrameType := 31

end FrameType

def SINGE_FRAME : Byte := 0

abbrev MAX_DATA_LENGTH : ℕ := 8
abbrev SERIALIZATION_LENGTH : ℕ := 13
abbrev TYPE_BIT_LENGTH : ℕ := 5
abbrev FLAGS_BITS_LENGTH : ℕ := 3
abbrev SEQNUM_BIT_LENGTH : ℕ := 5
abbrev ID_BIT_LENGTH : ℕ := 8
abbrev BROADCAST_GROUP_BIT_LENGTH : ℕ := 16
instance neZeroDataLength : NeZero MAX_DATA_LENGTH := ⟨by decide⟩
instance neZeroSerializationLength : NeZero SERIALIZATION_LENGTH := ⟨by decide⟩
instance lawfulByte : LawfulBEq Byte := inferInstance

def SEQNUM_MAX_VALUE : ℕ := 2 ^ SEQNUM_BIT_LENGTH - 1

end H9Frame

open H9Frame Bits

@[ext] structure H9Frame where
  origin : String
  creationTimestamp : ℤ
  type : FrameType
  sourceId : Byte
  flags : Byte
  destinationId : Byte
  seqnum : Byte
  group : BitVec 16
  dlc : Byte
  data : Fin 8 → Byte
  deriving DecidableEq, Inhabited

namespace H9Frame

def isUnicast (f : H9Frame) : Bool := f.type.ult FrameType.DISCOVER
def isBroadcast (f : H9Frame) : Bool := FrameType.DISCOVER.ule f.type

def canId (f : H9Frame) : BitVec 32 :=
  let id : BitVec 32 := 0#32 ||| f.type.setWidth 32 &&& lowMask 32 TYPE_BIT_LENGTH
  let id := id <<< ID_BIT_LENGTH ||| f.sourceId.setWidth 32 &&& lowMask 32 ID_BIT_LENGTH
  if f.isUnicast then
    let id := id <<< FLAGS_BITS_LENGTH ||| f.flags.setWidth 32 &&& lowMask 32 FLAGS_BITS_LENGTH
    let id := id <<< ID_BIT_LENGTH ||| f.destinationId.setWidth 32 &&& lowMask 32 ID_BIT_LENGTH
    id <<< SEQNUM_BIT_LENGTH ||| f.seqnum.setWidth 32 &&& lowMask 32 SEQNUM_BIT_LENGTH
  else
    id <<< BROADCAST_GROUP_BIT_LENGTH |||
      f.group.setWidth 32 &&& lowMask 32 BROADCAST_GROUP_BIT_LENGTH

/-- The setter overload of `can_id`; the layout is chosen by the type just decoded. -/
def setCanId (f : H9Frame) (canId : BitVec 32) : H9Frame :=
  let f := { f with
    type := (canId >>> (ID_BIT_LENGTH + FLAGS_BITS_LENGTH + ID_BIT_LENGTH + SEQNUM_BIT_LENGTH) &&&
      lowMask 32 TYPE_BIT_LENGTH).setWidth 8
    sourceId := (canId >>> (FLAGS_BITS_LENGTH + ID_BIT_LENGTH + SEQNUM_BIT_LENGTH) &&&
      lowMask 32 ID_BIT_LENGTH).setWidth 8 }
  if f.isUnicast then
    { f with
      flags := (canId >>> (ID_BIT_LENGTH + SEQNUM_BIT_LENGTH) &&&
        lowMask 32 FLAGS_BITS_LENGTH).setWidth 8
      destinationId := (canId >>> SEQNUM_BIT_LENGTH &&& lowMask 32 ID_BIT_LENGTH).setWidth 8
      seqnum := (canId >>> 0 &&& lowMask 32 SEQNUM_BIT_LENGTH).setWidth 8 }
  else
    { f with group := (canId &&& lowMask 32 BROADCAST_GROUP_BIT_LENGTH).setWidth 16 }

def serialize (f : H9Frame) : Fin SERIALIZATION_LENGTH → Byte :=
  let id := f.canId
  ![(id >>> 24 &&& 0xff#32).setWidth 8, (id >>> 16 &&& 0xff#32).setWidth 8,
    (id >>> 8 &&& 0xff#32).setWidth 8, (id &&& 0xff#32).setWidth 8, f.dlc,
    f.data 0, f.data 1, f.data 2, f.data 3, f.data 4, f.data 5, f.data 6, f.data 7]

/-- The overload of `deserialize` that takes an identifier, a length and eight data bytes. -/
def deserialize (f : H9Frame) (origin : String) (canId : BitVec 32) (dlc : Byte)
    (data : Fin 8 → Byte) : H9Frame :=
  { ({ f with origin }).setCanId canId with data, dlc }

/-- The overload of `deserialize` that takes thirteen serialized bytes. -/
def deserializeBytes (f : H9Frame) (origin : String)
    (serializedData : Fin SERIALIZATION_LENGTH → Byte) : H9Frame :=
  let f := { f with
    origin
    type := serializedData 0 &&& lowMask 8 TYPE_BIT_LENGTH
    sourceId := ((serializedData 1).setWidth 32 &&& lowMask 32 ID_BIT_LENGTH).setWidth 8 }
  let f :=
    if f.isUnicast then
      { f with
        flags := (serializedData 2 >>> (8 - FLAGS_BITS_LENGTH)) &&& lowMask 8 FLAGS_BITS_LENGTH
        -- the shift is made in `int` and the high bits are lost in the assignment
        destinationId := ((serializedData 2).setWidth 32 <<< FLAGS_BITS_LENGTH |||
          (serializedData 3).setWidth 32 >>> SEQNUM_BIT_LENGTH).setWidth 8
        seqnum := serializedData 3 &&& lowMask 8 SEQNUM_BIT_LENGTH }
    else
      { f with
        group := ((serializedData 2).setWidth 32 <<< 8 |||
          (serializedData 3).setWidth 32).setWidth 16 }
  { f with
    dlc := if (serializedData 4).ult 8 then serializedData 4 else 8
    data := ![serializedData 5, serializedData 6, serializedData 7, serializedData 8,
      serializedData 9, serializedData 10, serializedData 11, serializedData 12] }

/-- The `vector` overload of the data setter: at most eight bytes are stored, and counted. -/
def setData (f : H9Frame) (data : List Byte) : H9Frame :=
  { f with
    data := fun i => (data.getD i (f.data i))
    dlc := BitVec.ofNat 8 (min data.length MAX_DATA_LENGTH) }

/-- The bytes that the length counts. -/
def listed (f : H9Frame) : List Byte := (List.ofFn f.data).take f.dlc.toNat

end H9Frame

end H9d
