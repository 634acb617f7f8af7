import H9d.Model.API

/-! # Frames as JSON values

A frame is written with the members of its kind and read with every member optional. Clients get it
in a notification; the driver for a remote daemon reads these notifications, and sends a frame by a
request for `send_frame`.
-/

namespace H9d

open Cxx Nlohmann Jsonrpcpp

/-- The vector that `to_json` copies from the data array; beyond the array nothing is promised. -/
def H9Frame.dataVector {ε : Type} (f : H9Frame) : Outcome ε (List Byte) :=
  if f.dlc.toNat ≤ MAX_DATA_LENGTH then .value ((List.ofFn f.data).take f.dlc.toNat) else .undefined

/-- `to_json`; the members are kept in the order of their names. -/
def H9Frame.toJson {ε : Type} (f : H9Frame) : Outcome ε Json := do
  let data ← f.dataVector
  if f.isUnicast then
    return .object [("data", .ofBytes data), ("destination_id", .ofByte f.destinationId),
      ("dlc", .ofByte f.dlc), ("flags", .ofByte f.flags), ("origin", .string f.origin),
      ("seqnum", .ofByte f.seqnum), ("source_id", .ofByte f.sourceId), ("type", .ofByte f.type)]
  else
    return .object [("broadcast_group", .ofUInt16 f.group), ("data", .ofBytes data),
      ("dlc", .ofByte f.dlc), ("origin", .string f.origin), ("source_id", .ofByte f.sourceId),
      ("type", .ofByte f.type)]

structure Jsonrpcpp.Notification where
  method : String
  params : Parameter

/-- What `ClientFrameObs` sends for a frame, received or sent. -/
def onFrame {ε : Type} (frame : H9Frame) : Outcome ε Notification := do
  return ⟨"on_frame", .map [("frame", ← frame.toJson)]⟩

namespace H9DDriver

/-- What `recv_data` returns. -/
inductive Received
  | recvFrame (frame : H9Frame)
  | emptyBuf

/-- `recv_data` after the connector returned; `none` is a message that is no notification. -/
def recvData (cast : FloatCast) (name : String) (msg : Option Notification) (frame : H9Frame) :
    Except AccessError Received :=
  match msg with
  | some notification =>
    if notification.method = "on_frame" then
      match notification.params.paramMap.lookup "frame" with
      | some j => return .recvFrame (← H9Frame.fromJson cast j { frame with origin := name })
      | none => return .emptyBuf
    else return .emptyBuf
  | none => return .emptyBuf

/-- The request that `send_data` sends. -/
def sendData {ε : Type} (id : Id) (frame : H9Frame) : Outcome ε Request := do
  return ⟨id, "send_frame", .map [("frame", ← frame.toJson), ("raw", .boolean true)]⟩

end H9DDriver

end H9d
