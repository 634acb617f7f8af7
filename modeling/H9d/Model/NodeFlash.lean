import H9d.Core.BigEndian
import H9d.Model.FirmwareUploader

/-! # The flash of a node

The bootloader's side of an upload. The blocks of a page are collected, and when the page is full, it is written
to its place in the flash.
-/

namespace H9d.FirmwareUploader

open H9Frame Machine

/-- The page that is filled, what came of it, and the flash by its addresses. -/
structure Memory where
  page : ℕ
  buffer : List Byte
  flash : ℕ → Byte

namespace Memory

def writePage (pageSize : ℕ) (m : Memory) : Memory :=
  let start := m.page * pageSize
  { m with flash := fun a => if start ≤ a then m.buffer.getD (a - start) (m.flash a) else m.flash a }

/-- What the data of a frame do in a phase; a frame that the phase ignores does nothing. -/
def take (pageSize : ℕ) (m : Memory) : Phase → FrameType → List Byte → Memory
  | .ready, type, data =>
      if type = FrameType.PAGE_START then { m with page := Bytes.value data, buffer := [] } else m
  | .filling blocks, type, data =>
      if type = FrameType.PAGE_FILL then
        let m := { m with buffer := m.buffer ++ data }
        if 8 * (blocks + 1) = pageSize then m.writePage pageSize else m
      else m
  | .application, _, _ | .quit, _, _ => m

end Memory

/-- An upload with the memory of the node. -/
structure Programming where
  system : System
  memory : Memory

def Programming.step? (u : FirmwareUploader) (pageSize : ℕ) (p : Programming) (e : Event) : Option Programming :=
  (u.step? pageSize p.system e).map fun system =>
    match e, p.system.toNode with
    | .react _, frame :: _ => ⟨system, p.memory.take pageSize p.system.node frame.type frame.listed⟩
    | _, _ => { p with system }

/-- The flash has anything in it at first. -/
def programming (u : FirmwareUploader) (pageSize : ℕ) : LabeledMachine Programming Event where
  Initial p := (machine u pageSize).Initial p.system
  step? := Programming.step? u pageSize

end H9d.FirmwareUploader
