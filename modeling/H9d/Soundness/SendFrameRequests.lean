import H9d.Soundness.FrameJson
import H9d.Soundness.SequenceNumbers

/-! # Frames that clients send

A client describes a frame by numbers of any size. The bus counts frames by type in an array with one
entry for each value of the type field, the drivers and the logs read as many data bytes as the length
says, and the identifier keeps only the low bits of each field.
-/

namespace H9d

open Cxx Nlohmann Jsonrpcpp H9Frame

namespace API

variable (env : Env) (me : ClientId) (id : Id) (params : Parameter) (d : Daemon)

/-- The accesses to the parameters of `send_frame`. -/
def sendFrameParams : Except AccessError (H9Frame × Bool) := do
  let raw ← match params.paramMap.lookup "raw" with
    | some raw => raw.getBool
    | none => .ok false
  let frame ← params.getAt "frame" fun j => fromJson env.cast j env.frameMemory
  return (frame, raw)

/-- The flag is read first, whether it is given or not. -/
theorem sendFrameParams_eq :
    sendFrameParams env params =
      (match params.paramMap.lookup "raw" with
        | some raw => raw.getBool
        | none => .ok false) >>= fun raw =>
      params.getAt "frame" (fun j => fromJson env.cast j env.frameMemory) >>= fun frame => .ok (frame, raw) := by
  unfold sendFrameParams
  cases params.paramMap.lookup "raw" <;> rfl

/-- Parameters that can be read have a frame. -/
theorem sendFrameParams_frame {frame : H9Frame} {raw : Bool}
    (read : sendFrameParams env params = .ok (frame, raw)) :
    ∃ j, params.paramMap.lookup "frame" = some j ∧ fromJson env.cast j env.frameMemory = .ok frame := by
  rw [sendFrameParams_eq] at read
  obtain ⟨_, -, rest⟩ := bind_eq_ok.mp read
  obtain ⟨_, get, ⟨⟩⟩ := bind_eq_ok.mp rest
  obtain ⟨j, found, parsed⟩ := bind_eq_ok.mp get
  rw [atKey] at found
  cases entry : params.paramMap.lookup "frame" with
  | none => simp [entry] at found
  | some value =>
    rw [entry] at found
    cases found
    exact ⟨j, rfl, parsed⟩

/-- The frame with the name of the client that sends it. -/
def fromClient (frame : H9Frame) : H9Frame :=
  { frame with origin := (d.clients me).getClientIdstring }

theorem sendFrame_rejected {e : AccessError} (unreadable : sendFrameParams env params = .error e) :
    (sendFrame env me id params).outcome d = .throws (.request (invalidParamsException e.what id)) ∧
      (sendFrame env me id params).after d = d := by
  change ((orInvalidParams id (sendFrameParams env params) >>= _ : Call Daemon Exception Json).outcome d = _) ∧
    (orInvalidParams id (sendFrameParams env params) >>= _ : Call Daemon Exception Json).after d = d
  rw [unreadable]
  exact ⟨rfl, rfl⟩

/-- Whatever its numbers, the frame is given to the bus. -/
theorem sendFrame_accepted {frame : H9Frame} {raw : Bool}
    (read : sendFrameParams env params = .ok (frame, raw)) :
    (sendFrame env me id params).outcome d =
        (if frame.type.toNat < 2 ^ TYPE_BIT_LENGTH ∧ frame.dlc.toNat ≤ MAX_DATA_LENGTH then
          .value (.object [("seqnum", .numberInteger (env.seqnum.setWidth 64))])
        else .undefined) ∧
      (sendFrame env me id params).after d =
        { d with port := d.port ++ [(fromClient me d frame, raw)] } := by
  have accepted : sendFrame env me id params d =
      (if frame.type.toNat < 2 ^ TYPE_BIT_LENGTH ∧ frame.dlc.toNat ≤ MAX_DATA_LENGTH then
        (pure (.object [("seqnum", .numberInteger (env.seqnum.setWidth 64))]) : Call Daemon Exception Json)
      else Call.undefined) { d with port := d.port ++ [(fromClient me d frame, raw)] } := by
    change (orInvalidParams id (sendFrameParams env params) >>= _ : Call Daemon Exception Json) d = _
    rw [read]
    cases raw <;> rfl
  rw [Call.outcome, Call.after, accepted]
  split <;> exact ⟨rfl, rfl⟩

theorem sendFrame_not_throws {frame : H9Frame} {raw : Bool}
    (read : sendFrameParams env params = .ok (frame, raw)) (e : Exception) :
    (sendFrame env me id params).outcome d ≠ .throws e := by
  rw [(sendFrame_accepted env me id params d read).1]
  split <;> exact nofun

end API

namespace H9Frame

/-- Every member fits its field. -/
structure InRange (f : H9Frame) : Prop where
  type : f.type.toNat < 32
  flags : f.flags.toNat < 8
  seqnum : f.seqnum.toNat < 32
  dlc : f.dlc.toNat ≤ 8

/-- The counters and the data array are indexed inside, and the identifier gives back the members that
it is made from. -/
structure Carried (f : H9Frame) : Prop where
  counter : f.type.toNat < 2 ^ TYPE_BIT_LENGTH
  bytes : ∀ i < f.dlc.toNat, i < MAX_DATA_LENGTH
  type : ∀ g : H9Frame, (g.setCanId f.canId).type = f.type
  kind : ∀ g : H9Frame, (g.setCanId f.canId).isUnicast = f.isUnicast
  unicast : f.isUnicast = true →
    ∀ g : H9Frame, (g.setCanId f.canId).flags = f.flags ∧ (g.setCanId f.canId).seqnum = f.seqnum

theorem InRange.carried {f : H9Frame} (inRange : InRange f) : Carried f := by
  have recovered (g : H9Frame) :=
    (addressed_setCanId g f.canId).recover inRange.type inRange.flags inRange.seqnum
  constructor
  · exact inRange.type
  · intro i inside
    exact lt_of_lt_of_le inside inRange.dlc
  · exact fun g => (recovered g).1
  · exact fun g => isUnicast_congr (recovered g).1
  · exact fun unicast g => ⟨((recovered g).2.2.1 unicast).1, ((recovered g).2.2.1 unicast).2.2⟩

/-- The numbers of a JSON value fit the fields; a member that is missing has what is in memory. The
length counts only where no data is given. -/
structure FieldsFit (cast : FloatCast) (memory : H9Frame) (j : Json) : Prop where
  type : (memberOr j "type" (Json.getNumber cast 8) memory.type).toNat < 32
  flags : (memberOr j "flags" (Json.getNumber cast 8) memory.flags).toNat < 8
  seqnum : (memberOr j "seqnum" (Json.getNumber cast 8) memory.seqnum).toNat < 32
  dlc : j.contains "data" = false →
    (memberOr j "dlc" (Json.getNumber cast 8) memory.dlc).toNat ≤ 8

theorem inRange_iff_fieldsFit {cast : FloatCast} {memory f : H9Frame} {j : Json}
    (read : fromJson cast j memory = .ok f) : f.InRange ↔ FieldsFit cast memory j := by
  obtain ⟨data, found, rfl⟩ := fromJson_eq_ok cast read
  have given := optional_isSome found
  cases data with
  | none =>
    constructor
    · exact fun ⟨type, flags, seqnum, dlc⟩ => ⟨type, flags, seqnum, fun _ => dlc⟩
    · exact fun ⟨type, flags, seqnum, dlc⟩ => ⟨type, flags, seqnum, dlc given.symm⟩
  | some bytes =>
    have length : ((readHeader cast j memory).setData bytes).dlc.toNat ≤ 8 := by
      change (BitVec.ofNat 8 (min bytes.length 8)).toNat ≤ 8
      rw [BitVec.toNat_ofNat]
      omega
    constructor
    · intro ⟨type, flags, seqnum, _⟩
      refine ⟨type, flags, seqnum, fun missing => ?_⟩
      cases given.trans missing
    · exact fun ⟨type, flags, seqnum, _⟩ => ⟨type, flags, seqnum, length⟩

theorem InRange.stamp {frame : H9Frame} (inRange : InRange frame) (busId : BitVec 16) {nextSeqnum : Byte}
    (next : nextSeqnum.toNat < 32) (raw : Bool) : InRange (Bus.stamp busId nextSeqnum raw frame).1 := by
  cases raw with
  | true => exact inRange
  | false =>
    simp only [Bus.stamp, Bool.false_eq_true, if_false]
    cases Bus.takesSeqnum frame.type with
    | true => exact ⟨inRange.type, inRange.flags, next, inRange.dlc⟩
    | false => exact ⟨inRange.type, inRange.flags, inRange.seqnum, inRange.dlc⟩

end H9Frame

namespace API

/-- Either the request is rejected and nothing is queued, or the frame that is queued is in range, and
what any bus makes of it before it is sent can be counted, copied and decoded. -/
inductive SafelySent (env : Env) (me : ClientId) (id : Id) (params : Parameter) (d : Daemon) : Prop
  | rejected (data : String)
      (outcome : (sendFrame env me id params).outcome d = .throws (.request (invalidParamsException data id)))
      (after : (sendFrame env me id params).after d = d)
  | queued (frame : H9Frame) (raw : Bool)
      (port : ((sendFrame env me id params).after d).port = d.port ++ [(frame, raw)])
      (inRange : frame.InRange)
      (carried : ∀ (c : Bus.Config) (s : Bus.State), (Bus.machine c).Reachable s →
        ((Bus.stamp c.busId s.nextSeqnum raw frame).1).Carried)

/-- A frame of a client is handled safely exactly if its numbers fit their fields. -/
theorem sendFrame_safe (env : Env) (me : ClientId) (id : Id) (params : Parameter) (d : Daemon) :
    SafelySent env me id params d ↔
      ∀ j, params.paramMap.lookup "frame" = some j →
        (∃ frame raw, sendFrameParams env params = .ok (frame, raw)) →
        FieldsFit env.cast env.frameMemory j := by
  constructor
  · rintro safe j entry ⟨frame, raw, read⟩
    obtain ⟨_, found, parsed⟩ := sendFrameParams_frame env params read
    cases entry.symm.trans found
    have after := (sendFrame_accepted env me id params d read).2
    cases safe with
    | rejected data rejected _ => exact absurd rejected (sendFrame_not_throws env me id params d read _)
    | queued queued raw' port inRange _ =>
      rw [after] at port
      obtain ⟨rfl, rfl⟩ : fromClient me d frame = queued ∧ raw = raw' := by simpa using port
      rw [← inRange_iff_fieldsFit parsed]
      exact ⟨inRange.type, inRange.flags, inRange.seqnum, inRange.dlc⟩
  · intro fits
    cases read : sendFrameParams env params with
    | error e =>
      obtain ⟨outcome, after⟩ := sendFrame_rejected env me id params d read
      exact .rejected e.what outcome after
    | ok given =>
      obtain ⟨frame, raw⟩ := given
      obtain ⟨j, entry, parsed⟩ := sendFrameParams_frame env params read
      have inRange := (inRange_iff_fieldsFit parsed).mpr (fits j entry ⟨frame, raw, read⟩)
      have sent : (fromClient me d frame).InRange :=
        ⟨inRange.type, inRange.flags, inRange.seqnum, inRange.dlc⟩
      refine .queued _ raw ?_ sent fun c s reachable => ?_
      · rw [(sendFrame_accepted env me id params d read).2]
      · have next : s.nextSeqnum.toNat < 32 := by
          have := (Bus.reachable_numbering reachable).next
          omega
        exact (sent.stamp c.busId next raw).carried

/-- A raw frame of type 40, which the type field cannot hold. -/
def typeForty : Parameter :=
  .map [("frame", .object [("destination_id", .numberUnsigned 7), ("dlc", .numberUnsigned 0),
    ("flags", .numberUnsigned 0), ("seqnum", .numberUnsigned 0), ("source_id", .numberUnsigned 1),
    ("type", .numberUnsigned 40)]), ("raw", .boolean true)]

/-- The frame is queued, and on the wire it is an error message of another kind. -/
theorem typeForty_queued :
    (∃ frame, ((sendFrame default 0 .null typeForty).after Daemon.initial).port = [(frame, true)] ∧
        frame.type = 40 ∧ frame.isBroadcast = true ∧
        ((default : H9Frame).setCanId frame.canId).type = FrameType.COMMAND_ERROR) ∧
      ¬SafelySent default 0 .null typeForty Daemon.initial := by
  have queued : ∃ frame, ((sendFrame default 0 .null typeForty).after Daemon.initial).port = [(frame, true)] ∧
      frame.type = 40 ∧ frame.isBroadcast = true ∧
      ((default : H9Frame).setCanId frame.canId).type = FrameType.COMMAND_ERROR :=
    ⟨_, rfl, rfl, rfl, rfl⟩
  refine ⟨queued, fun safe => ?_⟩
  obtain ⟨frame, port, type, -⟩ := queued
  cases safe with
  | rejected data outcome after =>
    rw [after] at port
    cases port
  | queued sent raw port' inRange _ =>
    obtain ⟨rfl, -⟩ : frame = sent ∧ true = raw := by simpa [Daemon.initial] using port.symm.trans port'
    exact absurd inRange.type (by rw [type]; decide)

end API

end H9d
