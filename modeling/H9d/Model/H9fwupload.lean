import H9d.Core.Lines
import H9d.Core.Outcome
import H9d.Model.FirmwareUploader

/-! # The program `h9fwupload`

It reads an Intel HEX file into a block of memory, opens the bus, sends one frame and uploads the block. The
file is read line by line, and a record is taken from its line by the places of its digits. What stands behind
the zero that ends a line is not part of it, so reading there is undefined here, as is writing behind the block.
-/

namespace H9d.H9fwupload

open H9Frame Cxx Machine FirmwareUploader

variable {ε : Type}

/-- `line[i]`; the zero behind the last character can be read. -/
def charAt (line : List Byte) (i : ℕ) : Outcome ε Byte :=
  if i < line.length then .value (line.getD i 0) else if i = line.length then .value 0 else .undefined

/-- The branches of `hex2bin`; a character that is no digit stays what it is. -/
def digit (c : Byte) : Byte :=
  if 0x30 ≤ c ∧ c ≤ 0x39 then c - 0x30
  else if 0x61 ≤ c ∧ c ≤ 0x66 then c - 0x61 + 10
  else if 0x41 ≤ c ∧ c ≤ 0x46 then c - 0x41 + 10
  else c

/-- `hex2bin(line + start)`, with both rounds of its loop. -/
def hex2bin (line : List Byte) (start : ℕ) : Outcome ε Byte := do
  let c ← charAt line start
  if c = 0 then return 0
  else
    let val := (0 : Byte) <<< 4 ||| digit c &&& 0xf
    let c ← charAt line (start + 1)
    if c = 0 then return val
    else return val <<< 4 ||| digit c &&& 0xf

/-- The block, and the variables that live as long as the file is read. -/
structure Reading where
  fwData : Fin FW_DATA_LENGTH → Byte
  extendedAddress : BitVec 32
  dataLength : ℕ

namespace Reading

def start : Reading where
  fwData := fun _ => 0xff
  extendedAddress := 0
  dataLength := 0

end Reading

/-- The loop over the bytes of a data record: `n` of them are written and `left` are not. -/
def readData (line : List Byte) (s : Reading) (crc : Byte) (n : ℕ) : ℕ → Outcome ε (Reading × Byte)
  | 0 => .value (s, crc)
  | left + 1 => do
    let tmp ← hex2bin line (9 + n * 2)
    if h : s.dataLength < FW_DATA_LENGTH then
      readData line
        { s with fwData := Function.update s.fwData ⟨s.dataLength, h⟩ tmp, dataLength := s.dataLength + 1 }
        (crc + tmp) (n + 1) left
    else .undefined

/-- What becomes of the loop over the lines. -/
inductive Progress
  | goesOn (s : Reading)
  /-- addresses above 128 kB -/
  | stops (s : Reading)
  /-- "Intel HEX file corrupted" -/
  | corrupted (s : Reading)

/-- One round of the loop. -/
def readLine (s : Reading) (line : List Byte) : Outcome ε Progress :=
  if line.head? ≠ some 0x3a then .value (.goesOn s)
  else do
    let size ← hex2bin line 1
    let msb ← hex2bin line 3
    let lsb ← hex2bin line 5
    let address := s.extendedAddress + (msb.setWidth 32 <<< 8) + lsb.setWidth 32
    let rtype ← hex2bin line 7
    let crc := size + msb + lsb + rtype
    if rtype = 0 then
      let s := { s with dataLength := if s.dataLength < address.toNat then address.toNat else s.dataLength }
      let (s, crc) ← readData line s crc 0 size.toNat
      let sum ← hex2bin line (9 + size.toNat * 2)
      if 0 - crc ≠ sum then return .corrupted { s with dataLength := 0 }
      else return .goesOn s
    else if rtype = 4 then
      let high ← hex2bin line 9
      let low ← hex2bin line 11
      let s := { s with extendedAddress := (high.setWidth 32 <<< 8 + low.setWidth 32) <<< 16 }
      let sum ← hex2bin line 13
      if 0 - (crc + high + low) ≠ sum then return .corrupted { s with dataLength := 0 }
      else if 1#32 <<< 16 < s.extendedAddress then return .stops s
      else return .goesOn s
    else return .goesOn s

def readLines (s : Reading) : List (List Byte) → Outcome ε Progress
  | [] => .value (.goesOn s)
  | line :: rest => do
    match ← readLine s line with
    | .goesOn s => readLines s rest
    | .stops s => return .stops s
    | .corrupted s => return .corrupted s

/-- The lines that `getline` returns, each with its end; the last line of a file may have none. -/
def getlines (text : List Byte) : List (List Byte) :=
  let (lines, rest) := Lines.split (· == 0x0a) [] text
  if rest = [] then lines else lines ++ [rest]

/-- The block and the length that is returned. -/
def readIhex (text : List Byte) : Outcome ε Reading := do
  match ← readLines Reading.start (getlines text) with
  | .goesOn s | .stops s | .corrupted s => return s

structure Options where
  dstId : BitVec 16
  noupgrademsg : Bool

/-- `exit(EXIT_FAILURE)`. -/
inductive Exit
  | failure
  deriving DecidableEq

/-- `main` up to the upload. The file may be missing, and the bus may not be opened. -/
def main (options : Options) (ihex : Option (List Byte)) (busOpens : Bool) (garbage : H9Frame) :
    Outcome Exit (FirmwareUploader × History) :=
  match ihex with
  | none => .throws .failure
  | some text => do
    let fw ← readIhex text
    if busOpens then
      return (⟨List.ofFn fw.fwData, fw.dataLength, options.dstId⟩,
        ⟨FirmwareUploader.start, [firstFrame garbage options.dstId options.noupgrademsg]⟩)
    else .throws .failure

end H9d.H9fwupload
