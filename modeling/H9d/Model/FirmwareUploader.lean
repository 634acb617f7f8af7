import H9d.Core.LabeledMachine
import H9d.Model.H9Frame

/-! # The firmware uploader

`h9fwupload` reads an image into a block of memory, sends one frame to the node, and then answers the
frames of the node's bootloader until the bootloader has written the image. The bootloader knows how
long a page is, the uploader does not.
-/

namespace H9d

open H9Frame Machine

/-- The image is at the front of the block `firmware`, and the rest of the block is `0xff`. -/
structure FirmwareUploader where
  firmware : List Byte
  fwSize : ℕ
  nodeId : BitVec 16

namespace FirmwareUploader

/-- What `read_ihex` allocates. -/
abbrev FW_DATA_LENGTH : ℕ := 128 * 1024

/-- `undefined`: a division by an empty image, or a read behind the block. -/
inductive Status
  | running
  | returned
  | undefined
  deriving DecidableEq, Repr

/-- The variables of `upload`, and the two counters of the object. -/
structure State where
  fwIdx : ℕ
  page : BitVec 16
  recvFrameCount : BitVec 32
  sentFrameCount : BitVec 32
  status : Status
  deriving DecidableEq

def start : State where
  fwIdx := 0
  page := 0
  recvFrameCount := 0
  sentFrameCount := 0
  status := .running

def PBWIDTH : ℕ := 60

/-- The percentage that is printed on PAGE_WRITED, and the widths on both sides of the bar's head. -/
structure ProgressBar where
  val : BitVec 32
  lpad : BitVec 32
  rpad : BitVec 32
  deriving DecidableEq

/-- The quotients are of `size_t`, and are narrowed to `unsigned int`. -/
def progressBar (u : FirmwareUploader) (s : State) : ProgressBar where
  val := BitVec.ofNat 32 (s.fwIdx * 100 / u.fwSize)
  lpad := BitVec.ofNat 32 (s.fwIdx * PBWIDTH / u.fwSize)
  rpad := BitVec.ofNat 32 PBWIDTH - BitVec.ofNat 32 (s.fwIdx * PBWIDTH / u.fwSize)

section Frames

variable (garbage : H9Frame) (nodeId : BitVec 16)

/-- `garbage` is what a default-constructed frame finds in memory. -/
def command (type : FrameType) (dlc : Byte) : H9Frame :=
  { garbage with type, destinationId := nodeId.setWidth 8, dlc }

def pageStart (page : BitVec 16) : H9Frame :=
  (command garbage nodeId FrameType.PAGE_START 2).setData
    [(page >>> 8 &&& 0xff#16).setWidth 8, (page &&& 0xff#16).setWidth 8]

def pageFill (data : List Byte) : H9Frame :=
  { command garbage nodeId FrameType.PAGE_FILL 8 with data := fun i => data.getD i 0 }

def quitBootloader : H9Frame := command garbage nodeId FrameType.QUIT_BOOTLOADER 0

/-- What `main` sends before the upload. -/
def firstFrame (noupgrademsg : Bool) : H9Frame :=
  if noupgrademsg then pageStart garbage nodeId 0 else command garbage nodeId FrameType.NODE_UPGRADE 0

end Frames

/-- One turn of the loop, and the frame that it sends. -/
def recv (u : FirmwareUploader) (garbage : H9Frame) (s : State) (recvFrame : H9Frame) :
    State × Option H9Frame :=
  if recvFrame.sourceId.setWidth 16 ≠ u.nodeId then (s, none)
  else
    let s := { s with recvFrameCount := s.recvFrameCount + 1 }
    let sent := { s with sentFrameCount := s.sentFrameCount + 1 }
    if recvFrame.type = FrameType.BOOTLOADER_TURNED_ON then
      (sent, some (pageStart garbage u.nodeId s.page))
    else if recvFrame.type = FrameType.PAGE_WRITED then
      if u.fwSize = 0 then ({ s with status := .undefined }, none)
      else if u.fwSize ≤ s.fwIdx then ({ sent with status := .returned }, some (quitBootloader garbage u.nodeId))
      else ({ sent with page := s.page + 1 }, some (pageStart garbage u.nodeId (s.page + 1)))
    else if recvFrame.type = FrameType.PAGE_FILL_NEXT then
      let data := (u.firmware.drop s.fwIdx).take MAX_DATA_LENGTH
      if data.length = MAX_DATA_LENGTH then
        ({ sent with fwIdx := s.fwIdx + 8 }, some (pageFill garbage u.nodeId data))
      else ({ s with status := .undefined }, none)
    else (s, none)

/-- The upload on a bus on which any frame may come. `sent` is history. -/
structure History where
  uploader : State
  sent : List H9Frame

/-- The frame that is received, and what the frame of the answer finds in memory. -/
structure Arrival where
  frame : H9Frame
  garbage : H9Frame

def uploading (u : FirmwareUploader) : LabeledMachine History Arrival where
  Initial s := ∃ garbage noupgrademsg, s = ⟨start, [firstFrame garbage u.nodeId noupgrademsg]⟩
  step? s arrival :=
    if s.uploader.status = .running then
      match u.recv arrival.garbage s.uploader arrival.frame with
      | (uploader, answer) => some ⟨uploader, s.sent ++ answer.toList⟩
    else none

/-! ## The bootloader

The diagram of the documentation, for pages of `pageSize` bytes. The node is in its application until it
starts the bootloader; a frame that the diagram does not name is ignored.
-/

inductive Phase
  | application
  | ready
  | filling (blocks : ℕ)
  | quit
  deriving DecidableEq

def Phase.react (pageSize : ℕ) : Phase → FrameType → Phase × Option FrameType
  | .ready, type =>
      if type = FrameType.PAGE_START then (.filling 0, some FrameType.PAGE_FILL_NEXT)
      else if type = FrameType.QUIT_BOOTLOADER then (.quit, none)
      else (.ready, none)
  | .filling blocks, type =>
      if type = FrameType.PAGE_FILL then
        if 8 * (blocks + 1) = pageSize then (.ready, some FrameType.PAGE_WRITED)
        else (.filling (blocks + 1), some FrameType.PAGE_FILL_NEXT)
      else (.filling blocks, none)
  | phase, _ => (phase, none)

/-- The uploader, the node, and the frames on their way. `sent` is history. -/
structure System where
  uploader : State
  node : Phase
  toNode : List H9Frame
  toUploader : List H9Frame
  sent : List H9Frame

inductive Event
  /-- the node: a reply is any frame of the node that has the type which the diagram asks for -/
  | bootloaderTurnedOn (frame : H9Frame)
  | react (reply : H9Frame)
  /-- any other node -/
  | other (frame : H9Frame)
  /-- the uploader: a frame is received, or none -/
  | recvFrame (garbage : H9Frame)
  | recvNothing

/-- A frame that was sent before the bootloader started is lost. -/
def step? (u : FirmwareUploader) (pageSize : ℕ) (s : System) : Event → Option System
  | .bootloaderTurnedOn frame =>
      if s.node = .application ∧ frame.type = FrameType.BOOTLOADER_TURNED_ON ∧
          frame.sourceId.setWidth 16 = u.nodeId then
        some { s with node := .ready, toNode := [], toUploader := s.toUploader ++ [frame] }
      else none
  | .react reply =>
      match s.node, s.toNode with
      | .application, _ | _, [] => none
      | node, frame :: toNode =>
          match node.react pageSize frame.type with
          | (node, none) => some { s with node, toNode }
          | (node, some type) =>
              if reply.type = type ∧ reply.sourceId.setWidth 16 = u.nodeId then
                some { s with node, toNode, toUploader := s.toUploader ++ [reply] }
              else none
  | .other frame =>
      if frame.sourceId.setWidth 16 ≠ u.nodeId then some { s with toUploader := s.toUploader ++ [frame] }
      else none
  | .recvFrame garbage =>
      match s.uploader.status, s.toUploader with
      | .running, frame :: toUploader =>
          match u.recv garbage s.uploader frame with
          | (uploader, answer) => some { s with
              uploader
              toUploader
              toNode := s.toNode ++ answer.toList
              sent := s.sent ++ answer.toList }
      | _, _ => none
  | .recvNothing => if s.uploader.status = .running then some s else none

/-- `main` has sent its frame. With `noupgrademsg` the bootloader may run already. -/
def beginning (u : FirmwareUploader) (garbage : H9Frame) (noupgrademsg : Bool) (node : Phase) : System where
  uploader := start
  node := node
  toNode := [firstFrame garbage u.nodeId noupgrademsg]
  toUploader := []
  sent := [firstFrame garbage u.nodeId noupgrademsg]

def machine (u : FirmwareUploader) (pageSize : ℕ) : LabeledMachine System Event where
  Initial s := ∃ garbage noupgrademsg node,
    (node = .application ∨ noupgrademsg = true ∧ node = .ready) ∧ s = u.beginning garbage noupgrademsg node
  step? := u.step? pageSize

end FirmwareUploader

end H9d
