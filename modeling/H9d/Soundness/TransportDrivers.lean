import H9d.Model.TransportDrivers
import H9d.Soundness.FrameCodec

/-! # Frames made of a read

The drivers look at the length of a read only to tell no bytes from some, so that a short one leaves part of
the buffer as it was. A read that fills the buffer still leaves part of the frame as it was: the group of a
unicast, and the flags, the destination and the sequence number of a broadcast.
-/

namespace H9d

open Cxx H9Frame

section Decoding

theorem origin_deserializeBytes (before : H9Frame) (name : String) (bytes : Fin SERIALIZATION_LENGTH → Byte) :
    (before.deserializeBytes name bytes).origin = name := by
  unfold deserializeBytes
  dsimp only
  split <;> rfl

theorem origin_deserializeCanFrame (before : H9Frame) (name : String) (canMsg : Fin CAN_FRAME_SIZE → Byte) :
    (SocketCANDriver.deserializeCanFrame name before canMsg).origin = name := by
  change (({ before with origin := name } : H9Frame).setCanId _).origin = name
  unfold setCanId
  dsimp only
  split <;> rfl

variable {before before' f g : H9Frame} {id : ℕ}

/-- Equal frames, made at whatever times. -/
def SameFrame (f g : H9Frame) : Prop := g = { f with creationTimestamp := g.creationTimestamp }

/-- Two frame objects agree in what a frame of the other kind carries. -/
def SameLeft (unicast : Bool) (before before' : H9Frame) : Prop :=
  if unicast then before'.group = before.group
  else before'.flags = before.flags ∧ before'.destinationId = before.destinationId ∧
    before'.seqnum = before.seqnum

/-- What is decoded from one number differs exactly as the objects did before. -/
theorem H9Frame.Addressed.same_iff (left : Addressed before id f) (right : Addressed before' id g)
    (origin : g.origin = f.origin) (dlc : g.dlc = f.dlc) (data : g.data = f.data) :
    SameFrame f g ↔ SameLeft f.isUnicast before before' := by
  have type : g.type = f.type := BitVec.eq_of_toNat_eq (right.type.trans left.type.symm)
  have source : g.sourceId = f.sourceId := BitVec.eq_of_toNat_eq (right.sourceId.trans left.sourceId.symm)
  have fields : SameFrame f g ↔ g.flags = f.flags ∧ g.destinationId = f.destinationId ∧
      g.seqnum = f.seqnum ∧ g.group = f.group := by
    constructor
    · intro same
      rw [same]
      exact ⟨rfl, rfl, rfl, rfl⟩
    · rintro ⟨flags, destination, seqnum, group⟩
      exact H9Frame.ext origin rfl type source flags destination seqnum group dlc data
  rw [fields, ← BitVec.toNat_inj, ← BitVec.toNat_inj, ← BitVec.toNat_inj, ← BitVec.toNat_inj,
    left.flags, left.destinationId, left.seqnum, left.group, right.flags, right.destinationId,
    right.seqnum, right.group, isUnicast_congr type, SameLeft]
  cases f.isUnicast with
  | true => simp only [if_true, true_and, BitVec.toNat_inj]
  | false => simp only [Bool.false_eq_true, if_false, and_true, BitVec.toNat_inj]

theorem addressed_deserialize (before : H9Frame) (name : String) (w : BitVec 32) (dlc : Byte) (data : Fin 8 → Byte) :
    Addressed before w.toNat (before.deserialize name w dlc data) := by
  obtain ⟨type, source, flags, destination, seqnum, group⟩ := addressed_setCanId { before with origin := name } w
  exact ⟨type, source, flags, destination, seqnum, group⟩

theorem same_of_bytes_iff (before before' : H9Frame) (name : String) (bytes : Fin SERIALIZATION_LENGTH → Byte) :
    SameFrame (before.deserializeBytes name bytes) (before'.deserializeBytes name bytes) ↔
      SameLeft (before.deserializeBytes name bytes).isUnicast before before' := by
  have left := addressed_deserializeBytes before name bytes
  have right := addressed_deserializeBytes before' name bytes
  refine left.same_iff right ?_ rfl rfl
  rw [origin_deserializeBytes, origin_deserializeBytes]

theorem same_of_canFrame_iff (before before' : H9Frame) (name : String) (canMsg : Fin CAN_FRAME_SIZE → Byte) :
    SameFrame (SocketCANDriver.deserializeCanFrame name before canMsg)
      (SocketCANDriver.deserializeCanFrame name before' canMsg) ↔
      SameLeft (SocketCANDriver.deserializeCanFrame name before canMsg).isUnicast before before' := by
  have decoded (before : H9Frame) : Addressed before _ (SocketCANDriver.deserializeCanFrame name before canMsg) :=
    addressed_deserialize before name _ (canMsg 4) _
  refine (decoded before).same_iff (decoded before') ?_ rfl rfl
  rw [origin_deserializeCanFrame, origin_deserializeCanFrame]

end Decoding

theorem filled_of_full {size : ℕ} {bytes : List Byte} (full : bytes.length = size)
    (memory memory' : Fin size → Byte) : filled bytes memory = filled bytes memory' := by
  funext i
  have inside : i.val < bytes.length := full ▸ i.isLt
  rw [filled, filled, List.getD_eq_getElem _ _ inside, List.getD_eq_getElem _ _ inside]

/-- What `recv_data` owes its caller for one result of the read. -/
structure Faithful (d : TransportDriver) (result : ReadResult d.size) : Prop where
  complete : ∀ name frame memory errno s g,
    (d.recvData name frame memory errno result).outcome s = .value (some g) →
      ∃ bytes fits, result = .read bytes fits ∧ bytes.length = d.size
  determined : ∀ name frame frame' memory memory' errno errno' s s' g g',
    (d.recvData name frame memory errno result).outcome s = .value (some g) →
    (d.recvData name frame' memory' errno' result).outcome s' = .value (some g') →
      SameFrame g g'
  throws : ∀ failed, result = .error failed → ∀ name frame memory errno s,
    (d.recvData name frame memory errno result).outcome s = .throws ⟨failed⟩

/-- No bytes, or a failure that the driver sees. -/
def Expected (d : TransportDriver) : ReadResult d.size → Prop
  | .error _ => d ≠ .socketCan
  | .read bytes _ => bytes.length = 0

section Reading

variable {name : String} {frame : H9Frame} {errno : ℕ} {s : Bool} {bytes : List Byte}

theorem recvSerialized_nonempty {memory : Fin SERIALIZATION_LENGTH → Byte} (fits : bytes.length ≤ SERIALIZATION_LENGTH)
    (some' : bytes.length ≠ 0) : (recvSerialized name frame memory (.read bytes fits)).outcome s =
      .value (some (frame.deserializeBytes name (filled bytes memory))) := by
  rw [recvSerialized, if_pos some']
  rfl

theorem recvCan_nonempty {memory : Fin CAN_FRAME_SIZE → Byte} (fits : bytes.length ≤ CAN_FRAME_SIZE)
    (some' : bytes.length ≠ 0) : (SocketCANDriver.recvData name frame memory errno (.read bytes fits)).outcome s =
      .value (some (SocketCANDriver.deserializeCanFrame name frame (filled bytes memory))) := by
  have small : bytes.length ≤ 16 := fits
  have length : (BitVec.ofNat 64 bytes.length).toNat = bytes.length := by
    rw [BitVec.toNat_ofNat]
    omega
  have positive : ¬BitVec.ofNat 64 bytes.length ≤ 0 := by
    rw [BitVec.le_def, length]
    exact fun none => some' (Nat.le_zero.mp none)
  have distinct : BitVec.ofNat 64 bytes.length ≠ 0 := fun none => positive (BitVec.le_of_eq none)
  rw [SocketCANDriver.recvData]
  dsimp only
  rw [if_neg positive, if_pos distinct]
  rfl

end Reading

section Drivers

variable {d : TransportDriver} {name : String} {frame : H9Frame} {errno : ℕ} {s : Bool} {bytes : List Byte}
  {memory : Fin d.size → Byte}

theorem TransportDriver.size_ne_zero (d : TransportDriver) : d.size ≠ 0 := by cases d <;> decide

/-- The frame that a driver makes of its buffer. -/
def TransportDriver.decode (d : TransportDriver) (name : String) (frame : H9Frame) (buf : Fin d.size → Byte) :
    H9Frame :=
  match d with
  | udp | pipe | loop | virtual => frame.deserializeBytes name buf
  | socketCan => SocketCANDriver.deserializeCanFrame name frame buf

theorem same_decode_iff (d : TransportDriver) (name : String) (frame frame' : H9Frame)
    (buf : Fin d.size → Byte) : SameFrame (d.decode name frame buf) (d.decode name frame' buf) ↔
      SameLeft (d.decode name frame buf).isUnicast frame frame' := by
  cases d with
  | udp => exact same_of_bytes_iff frame frame' name buf
  | pipe => exact same_of_bytes_iff frame frame' name buf
  | loop => exact same_of_bytes_iff frame frame' name buf
  | virtual => exact same_of_bytes_iff frame frame' name buf
  | socketCan => exact same_of_canFrame_iff frame frame' name buf

/-- Whatever is in the buffer, some two objects keep different things. -/
theorem exists_not_same_decode (d : TransportDriver) (name : String) (buf : Fin d.size → Byte) :
    ∃ frame frame', ¬SameFrame (d.decode name frame buf) (d.decode name frame' buf) := by
  cases unicast : (d.decode name default buf).isUnicast with
  | true =>
    refine ⟨default, { (default : H9Frame) with group := 1 }, fun same => ?_⟩
    have kept := (same_decode_iff d name default _ buf).mp same
    rw [unicast, SameLeft, if_pos rfl] at kept
    exact absurd kept (by decide)
  | false =>
    refine ⟨default, { (default : H9Frame) with seqnum := 1 }, fun same => ?_⟩
    have kept := (same_decode_iff d name default _ buf).mp same
    rw [unicast, SameLeft, if_neg Bool.false_ne_true] at kept
    exact absurd kept.2.2 (by decide)

/-- A read of some bytes makes a frame, of however many. -/
theorem recvData_nonempty (fits : bytes.length ≤ d.size) (some' : bytes.length ≠ 0) :
    (d.recvData name frame memory errno (.read bytes fits)).outcome s =
      .value (some (d.decode name frame (filled bytes memory))) := by
  cases d with
  | udp => exact recvSerialized_nonempty fits some'
  | pipe => exact recvSerialized_nonempty fits some'
  | loop => exact recvSerialized_nonempty fits some'
  | virtual => exact recvSerialized_nonempty fits some'
  | socketCan => exact recvCan_nonempty fits some'

theorem recvData_empty (fits : bytes.length ≤ d.size) (none' : bytes.length = 0) (g : H9Frame) :
    (d.recvData name frame memory errno (.read bytes fits)).outcome s ≠ .value (some g) := by
  obtain rfl := List.length_eq_zero_iff.mp none'
  intro made
  cases d <;> cases made

theorem recvData_error (other : d ≠ .socketCan) (failed : ℕ) :
    (d.recvData name frame memory errno (.error failed)).outcome s = .throws ⟨failed⟩ := by
  cases d with
  | udp => rfl
  | pipe => rfl
  | loop => rfl
  | virtual => rfl
  | socketCan => exact absurd rfl other

theorem faithful_error (other : d ≠ .socketCan) (failed : ℕ) : Faithful d (.error failed) := by
  have throws (name : String) (frame : H9Frame) (memory : Fin d.size → Byte) (errno : ℕ) (s : Bool) :
      (d.recvData name frame memory errno (.error failed)).outcome s = .throws ⟨failed⟩ :=
    recvData_error other failed
  refine ⟨?_, ?_, ?_⟩
  · intro name frame memory errno s g made
    cases (throws name frame memory errno s).symm.trans made
  · intro name frame _ memory _ errno _ s _ g _ made
    cases (throws name frame memory errno s).symm.trans made
  · rintro _ ⟨⟩
    exact throws

theorem faithful_empty (fits : bytes.length ≤ d.size) (none' : bytes.length = 0) :
    Faithful d (.read bytes fits) := by
  refine ⟨?_, ?_, nofun⟩
  · intro name frame memory errno s g made
    exact absurd made (recvData_empty fits none' g)
  · intro name frame _ memory _ errno _ s _ g _ made
    exact absurd made (recvData_empty fits none' g)

theorem not_faithful_nonempty (fits : bytes.length ≤ d.size) (some' : bytes.length ≠ 0) :
    ¬Faithful d (.read bytes fits) := by
  intro faithful
  let memory : Fin d.size → Byte := fun _ => 0
  obtain ⟨frame, frame', differ⟩ := exists_not_same_decode d "can0" (filled bytes memory)
  exact differ (faithful.determined "can0" frame frame' memory memory 0 0 true true _ _
    (recvData_nonempty fits some') (recvData_nonempty fits some'))

end Drivers

/-- Each driver does what it owes exactly for the results that make no frame or are seen to fail. Two
whole reads of the same bytes make the same frame exactly if the objects given to the driver agree in
what the layout of its type leaves out. -/
theorem recvData_faithful_iff (d : TransportDriver) (result : ReadResult d.size) :
    (Faithful d result ↔ Expected d result) ∧
    ∀ bytes fits, result = .read bytes fits → bytes.length = d.size →
      ∀ name frame frame' memory memory' errno errno' s s', ∃ g g',
        (d.recvData name frame memory errno result).outcome s = .value (some g) ∧
        (d.recvData name frame' memory' errno' result).outcome s' = .value (some g') ∧
        (SameFrame g g' ↔ SameLeft g.isUnicast frame frame') := by
  constructor
  · cases result with
    | error failed =>
      refine ⟨?_, fun other => faithful_error other failed⟩
      rintro faithful rfl
      have thrown := faithful.throws failed rfl "can0" default (fun _ => 0) 0 true
      cases thrown
    | read bytes fits =>
      refine ⟨fun faithful => ?_, faithful_empty fits⟩
      by_contra some'
      exact not_faithful_nonempty fits some' faithful
  · rintro bytes fits rfl full name frame frame' memory memory' errno errno' s s'
    have some' : bytes.length ≠ 0 := full.trans_ne d.size_ne_zero
    refine ⟨_, _, recvData_nonempty fits some', recvData_nonempty fits some', ?_⟩
    rw [filled_of_full full memory' memory]
    exact same_decode_iff d name frame frame' _

/-- One byte from the network, and an interface that fails, are both turned into frames. A whole
broadcast leaves members of the frame object as they were. -/
theorem recvData_not_faithful :
    ¬Faithful .udp (.read [0x15] (by decide)) ∧ ¬Faithful .socketCan (.error 100) ∧
      ¬Faithful .udp (.read (List.replicate 13 0x15) (by decide)) := by
  refine ⟨fun faithful => ?_, fun faithful => ?_, not_faithful_nonempty _ (by decide)⟩
  · obtain ⟨_, _, ⟨⟩, full⟩ := faithful.complete "udp0" default (fun _ => 0) 0 true _ (recvData_nonempty _ (by decide))
    exact absurd full (by decide)
  · obtain ⟨_, _, ⟨⟩, -⟩ := faithful.complete "can0" default (fun _ => 0) 0 true _ (rfl)

/-- What the bus takes from these drivers is what they make of a whole frame. -/
theorem recvData_arrival (d : TransportDriver) (name : String) (frame : H9Frame) (memory : Fin d.size → Byte)
    (errno : ℕ) (s : Bool) (bytes : List Byte) (full : bytes.length = d.size) :
    ∃ arrival frame', BusDriver.recvData name frame arrival = .ok (some frame') ∧
      (d.recvData name frame memory errno (.read bytes full.le)).outcome s = .value (some frame') := by
  have some' : bytes.length ≠ 0 := full.trans_ne d.size_ne_zero
  have made : (d.recvData name frame memory errno (.read bytes full.le)).outcome s = _ :=
    recvData_nonempty full.le some'
  cases d with
  | socketCan => exact ⟨.socketCan _ _ _, _, rfl, made⟩
  | udp => exact ⟨.serialized _, _, rfl, made⟩
  | pipe => exact ⟨.serialized _, _, rfl, made⟩
  | loop => exact ⟨.serialized _, _, rfl, made⟩
  | virtual => exact ⟨.serialized _, _, rfl, made⟩

end H9d
