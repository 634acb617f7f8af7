import H9d.Model.NodeDescLoader

/-! # Values that the sniffer prints

Below a frame that carries a register's value the sniffer prints the value, read as the description of
the register says. The data bytes are read through a function that may refuse an index, so the same
code can be run on the eight bytes of the frame object and on those only that the frame carried.
-/

namespace H9d

namespace H9sniffer

inductive Fault
  /-- A 32-bit value is shifted by 32 or more. -/
  | shift
  /-- An index outside of the eight data bytes. -/
  | outside
  /-- An index from the frame's length on. -/
  | unsent
  deriving DecidableEq, Repr

abbrev Reader := ℕ → Except Fault Byte

/-- The value in the words of the description. The text of a `float` is that of its four bytes. -/
inductive Typed
  | uint (size : ℕ) (uval : BitVec 32)
  | bool (isSet : Bool)
  | int (size : ℕ) (ival : ℤ)
  | char (c : Byte)
  | str (text : List Byte)
  | float (bytes : List Byte)
  deriving DecidableEq, Repr

inductive Line
  | totalFrame (n : Byte)
  | frameOffset (n : Byte)
  | frameOffsetLast (n : Byte)
  | bit (i : ℕ) (name : Option String) (bitVal : Bool)
  | value (raw : Option (BitVec 32)) (typed : Option Typed)
  deriving DecidableEq, Repr

end H9sniffer

namespace H9Frame

/-- `frame.data()` as the array that it is. -/
def dataReader (f : H9Frame) : H9sniffer.Reader := fun i =>
  if bound : i < MAX_DATA_LENGTH then .ok (f.data ⟨i, bound⟩) else .error .outside

/-- The array as far as the frame's length goes. -/
def carriedReader (f : H9Frame) : H9sniffer.Reader := fun i =>
  if i < f.dlc.toNat then f.dataReader i else .error .unsent

end H9Frame

namespace H9sniffer

/-- `(bval << 8) | d[start + i]` for `i` from 0 on. -/
def accumulate (d : Reader) (start count : ℕ) : Except Fault (BitVec 32) :=
  (List.range count).foldlM (fun bval i => do return bval <<< 8 ||| (← d (start + i)).setWidth 32) 0

def multiFrameOffset (f : H9Frame) : ℕ := if f.flags ≠ H9Frame.SINGE_FRAME then 1 else 0

/-- `(bval >> i) & 1`, and the name of the bit where the description has one. -/
def bitLine (desc : RegisterDesc) (bval : BitVec 32) (i : ℕ) : Except Fault Line :=
  if i < 32 then .ok (.bit i desc.bitsNames[i]? (bval.getLsbD i)) else .error .shift

/-- The bits of a bit field, the highest first. -/
def bitLines (d : Reader) (start dataLen : ℕ) (desc : RegisterDesc) : Except Fault (List Line) := do
  let bval ← accumulate d start (min ((desc.size + 7) / 8) dataLen)
  (List.range desc.size).reverse.mapM (bitLine desc bval)

def rawValue (d : Reader) (start : ℕ) : ℕ → Except Fault (Option (BitVec 32))
  | 1 => some <$> accumulate d start 1
  | 2 => some <$> accumulate d start 2
  | 4 => some <$> accumulate d start 4
  | _ => pure none

/-- The widest of the signed types that the bytes fill. -/
def signedValue (d : Reader) (start dataLen : ℕ) : Except Fault ℤ := do
  if 4 ≤ dataLen then
    return (← accumulate d start 4).toInt
  else if 2 ≤ dataLen then
    return ((← accumulate d start 2).setWidth 16).toInt
  else
    return ((← accumulate d start 1).setWidth 8).toInt

def stringBytes (d : Reader) (start : ℕ) : ℕ → Except Fault (List Byte)
  | 0 => pure []
  | slen + 1 => do
    let c ← d start
    if c = 0 then return [] else return c :: (← stringBytes d (start + 1) slen)

def typedValue (d : Reader) (start dataLen : ℕ) (desc : RegisterDesc) : Except Fault (Option Typed) := do
  if desc.type = "uint" then
    return some (.uint desc.size (← accumulate d start (min dataLen 4)))
  else if desc.type = "bool" then
    return some (.bool ((← d start) != 0))
  else if desc.type = "int" then
    return some (.int desc.size (← signedValue d start dataLen))
  else if desc.type = "char" then
    return some (.char (← d start))
  else if desc.type = "str" then
    return some (.str (← stringBytes d start (min dataLen 7)))
  else if desc.type = "float" then
    return some (.float (← (List.range 4).mapM fun i => d (start + i)))
  else
    return none

def valueLine (d : Reader) (start dataLen : ℕ) (regDesc : Option RegisterDesc) : Except Fault Line := do
  let raw ← rawValue d start dataLen
  match regDesc with
  | none => return .value raw none
  | some desc => return .value raw (← typedValue d start dataLen desc)

section Flags

-- The two flags have their values from a header outside of the repository.
variable (MULTI_FRAME_FIRST MULTI_FRAME_LAST : Byte)

/-- The byte of a multi-frame message that counts its frames. -/
def frameLines (d : Reader) (f : H9Frame) : Except Fault (List Line) := do
  if f.isUnicast = true ∧ f.flags ≠ H9Frame.SINGE_FRAME then
    if f.flags = MULTI_FRAME_FIRST then
      return [.totalFrame (← d 1), .frameOffset 0]
    else if f.flags = MULTI_FRAME_LAST then
      return [.frameOffsetLast (← d 1)]
    else
      return [.frameOffset (← d 1)]
  else
    return []

/-- `print_reg_value` on the bytes that `d` gives. -/
def printRegValueFrom (d : Reader) (f : H9Frame) (regDesc : Option RegisterDesc) :
    Except Fault (List Line) := do
  let offset := multiFrameOffset f
  if f.dlc.toNat ≤ 1 + offset then
    return []
  let dataLen := f.dlc.toNat - 1 - offset
  let lines ← frameLines MULTI_FRAME_FIRST MULTI_FRAME_LAST d f
  match regDesc with
  | some desc =>
    if desc.type = "bool" ∧ 1 < desc.size then
      return lines ++ (← bitLines d (1 + offset) dataLen desc)
    else
      return lines ++ [← valueLine d (1 + offset) dataLen regDesc]
  | none => return lines ++ [← valueLine d (1 + offset) dataLen none]

def printRegValue (f : H9Frame) (regDesc : Option RegisterDesc) : Except Fault (List Line) :=
  printRegValueFrom MULTI_FRAME_FIRST MULTI_FRAME_LAST f.dataReader f regDesc

end Flags

end H9sniffer

end H9d
