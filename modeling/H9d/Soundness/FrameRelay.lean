import H9d.Soundness.Authentication
import H9d.Soundness.SendFrameRequests

/-! # Frames relayed as JSON

A frame reaches another daemon as a notification of the one or as a raw request to the other. On the
wire it is the frame that the 13-byte transports carry.
-/

namespace H9d

open Cxx Nlohmann Jsonrpcpp H9Frame

namespace H9Frame

theorem sameOnWire_deserializeBytes (f before : H9Frame) (origin : String) (fits : f.dlc.toNat ≤ 8) :
    SameOnWire f (before.deserializeBytes origin f.serialize) := by
  have decoded := addressed_deserializeBytes before origin f.serialize
  rw [bigEndian_serialize] at decoded
  constructor
  · apply BitVec.eq_of_toNat_eq
    rw [decoded.canId]
    exact Nat.mod_eq_of_lt f.canId_lt
  · apply BitVec.eq_of_toNat_eq
    rw [deserializeBytes_dlc]
    change min f.dlc.toNat 8 = f.dlc.toNat
    omega
  · intro i _
    rw [deserializeBytes_data, serialize_data]

end H9Frame

section Relays

variable (ε : Type) {f : H9Frame} (fits : f.dlc.toNat ≤ 8)

include fits

theorem recvData_onFrame (cast : FloatCast) (name : String) (g : H9Frame) :
    ∃ msg h, (onFrame f : Outcome ε Notification) = .value msg ∧
      H9DDriver.recvData cast name (some msg) g = .ok (.recvFrame h) ∧ SameOnWire f h := by
  obtain ⟨j, h, written, read, same⟩ := fromJson_toJson cast ε f { g with origin := name } fits
  refine ⟨⟨"on_frame", .map [("frame", j)]⟩, h, ?_, ?_, same⟩
  · rw [onFrame, written]
    rfl
  · have entry : (Parameter.map [("frame", j)]).paramMap.lookup "frame" = some j := List.lookup_cons_self
    rw [H9DDriver.recvData]
    dsimp only
    rw [if_pos rfl, entry]
    dsimp only
    rw [read]
    rfl

/-- The raw request of the driver puts the frame on the other bus, which does not stamp it. A bus that
acknowledges answers for every frame of one of the types. -/
theorem call_sendData (texts : API.Texts) (env : Env) {me : ClientId} (id : Id) {d : Daemon}
    (authenticated : (d.clients me).authenticated = true) :
    ∃ request h, (H9DDriver.sendData id f : Outcome ε Request) = .value request ∧
      (env.stalled = false → f.type.toNat < 2 ^ TYPE_BIT_LENGTH →
        ∃ reply, (API.call texts env me request).outcome d = .value reply) ∧
      ((API.call texts env me request).after d).port = d.port ++ [(h, true)] ∧ SameOnWire f h ∧
      ∀ busId nextSeqnum, (Bus.stamp busId nextSeqnum true h).1 = h := by
  obtain ⟨j, h, written, read, type, same⟩ := fromJson_toJson_type env.cast ε f env.frameMemory fits
  let request : Request := ⟨id, "send_frame", .map [("frame", j), ("raw", .boolean true)]⟩
  have params : API.sendFrameParams env request.params = .ok (h, true) := by
    have raw : request.params.paramMap.lookup "raw" = some (.boolean true) := rfl
    have frame : request.params.getAt "frame" (fun j => fromJson env.cast j env.frameMemory) = .ok h :=
      read
    rw [API.sendFrameParams, raw]
    dsimp only
    rw [frame]
    rfl
  obtain ⟨outcome, after⟩ := API.sendFrame_accepted env me id request.params d params
  have passed : API.admitted (API.flags d me) request = some .sendFrame := by
    change API.admitted (d.clients me).authenticated request = _
    rw [authenticated]
    rfl
  obtain ⟨state, answered⟩ := API.call_admitted texts env passed
  refine ⟨request, API.fromClient me d h, ?_, fun acknowledges counted => ?_, ?_, ?_, fun _ _ => rfl⟩
  · rw [H9DDriver.sendData, written]
    rfl
  · rw [if_pos ⟨type ▸ counted, same.dlc ▸ fits⟩] at outcome
    exact ⟨_, answered _ outcome (.inl acknowledges)⟩
  · rw [state]
    exact congrArg Daemon.port after
  · exact ⟨same.canId, same.dlc, same.data⟩

/-- The JSON form of a frame carries what the binary form carries, from one frame object to another and
over both ways between two daemons. -/
theorem json_form_carries_frame :
    (∀ (cast : FloatCast) (g : H9Frame), ∃ j h, (f.toJson : Outcome Exception Json) = .value j ∧
      fromJson cast j g = .ok h ∧ SameOnWire f h) ∧
    (∀ (cast : FloatCast) (name : String) (g : H9Frame), ∃ msg h,
      (onFrame f : Outcome Exception Notification) = .value msg ∧
      H9DDriver.recvData cast name (some msg) g = .ok (.recvFrame h) ∧ SameOnWire f h) ∧
    (∀ (texts : API.Texts) (env : Env) (me : ClientId) (id : Id) (d : Daemon),
      (d.clients me).authenticated = true →
      ∃ request h, (H9DDriver.sendData id f : Outcome Exception Request) = .value request ∧
        (env.stalled = false → f.type.toNat < 2 ^ TYPE_BIT_LENGTH →
          ∃ reply, (API.call texts env me request).outcome d = .value reply) ∧
        ((API.call texts env me request).after d).port = d.port ++ [(h, true)] ∧ SameOnWire f h ∧
        ∀ busId nextSeqnum, (Bus.stamp busId nextSeqnum true h).1 = h) ∧
    ∀ (before : H9Frame) (origin : String), SameOnWire f (before.deserializeBytes origin f.serialize) :=
  ⟨fun cast g => fromJson_toJson cast Exception f g fits,
    fun cast name g => recvData_onFrame Exception fits cast name g,
    fun texts env _ id _ authenticated => call_sendData Exception fits texts env id authenticated,
    fun before origin => sameOnWire_deserializeBytes f before origin fits⟩

end Relays

/-- A broadcast of two bytes. -/
theorem json_form_carries_frame_heartbeat :
    let f : H9Frame := { (default : H9Frame) with
      type := FrameType.NODE_HEARTBEAT, sourceId := 7, group := 0x1234, dlc := 2
      data := ![1, 2, 0, 0, 0, 0, 0, 0] }
    ∃ j h, (f.toJson : Outcome Exception Json) = .value j ∧ fromJson default j default = .ok h ∧
      SameOnWire f h :=
  (json_form_carries_frame (by decide)).1 default default

end H9d
