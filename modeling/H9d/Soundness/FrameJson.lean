import H9d.Model.FrameJson
import H9d.Soundness.FrameCodec

/-! # Reading frames from JSON

A member that is present replaces the old value, one that is missing leaves it, and the data array
decides the length whatever `dlc` said. Reading what was written gives the same frame on the wire.
-/

namespace H9d

open Cxx Nlohmann Jsonrpcpp

namespace H9Frame

variable {α : Type}

/-- A member of a value, or what was there before. -/
def memberOr (j : Json) (key : String) (get : Json → Except AccessError α) (old : α) : α :=
  match j.members.lookup key with
  | some value => (get value).toOption.getD old
  | none => old

theorem optional_eq_ok {j : Json} {key : String} {get : Json → Except AccessError α} {read : Option α}
    (ok : j.optional key get = .ok read) :
    (j.members.lookup key = none ∧ read = none) ∨
      ∃ value a, j.members.lookup key = some value ∧ get value = .ok a ∧ read = some a := by
  rw [Json.optional] at ok
  cases found : j.members.lookup key with
  | none =>
    rw [found] at ok
    cases ok
    exact .inl ⟨rfl, rfl⟩
  | some value =>
    rw [found] at ok
    change some <$> get value = .ok read at ok
    cases given : get value with
    | error e =>
      rw [given] at ok
      cases ok
    | ok a =>
      rw [given] at ok
      cases ok
      exact .inr ⟨value, a, rfl, given, rfl⟩

theorem optional_getD {j : Json} {key : String} {get : Json → Except AccessError α} {read : Option α}
    (ok : j.optional key get = .ok read) (old : α) : read.getD old = memberOr j key get old := by
  rw [memberOr]
  obtain ⟨missing, rfl⟩ | ⟨value, a, found, given, rfl⟩ := optional_eq_ok ok
  · rw [missing]
    rfl
  · rw [found]
    dsimp only
    rw [given]
    rfl

theorem optional_isSome {j : Json} {key : String} {get : Json → Except AccessError α} {read : Option α}
    (ok : j.optional key get = .ok read) : read.isSome = j.contains key := by
  rw [Json.contains]
  obtain ⟨missing, rfl⟩ | ⟨value, a, found, given, rfl⟩ := optional_eq_ok ok
  · rw [missing]
    rfl
  · rw [found]
    rfl

variable (cast : FloatCast)

/-- The frame before its data is read. -/
def readHeader (j : Json) (f : H9Frame) : H9Frame :=
  { f with
    type := memberOr j "type" (Json.getNumber cast 8) f.type
    sourceId := memberOr j "source_id" (Json.getNumber cast 8) f.sourceId
    seqnum := memberOr j "seqnum" (Json.getNumber cast 8) f.seqnum
    destinationId := memberOr j "destination_id" (Json.getNumber cast 8) f.destinationId
    flags := memberOr j "flags" (Json.getNumber cast 8) f.flags
    group := memberOr j "broadcast_group" (Json.getNumber cast 16) f.group
    dlc := memberOr j "dlc" (Json.getNumber cast 8) f.dlc }

/-- Every member that is given can be read. -/
structure Readable (cast : FloatCast) (j : Json) : Prop where
  byte : ∀ key ∈ ["type", "source_id", "seqnum", "destination_id", "flags", "dlc"],
    ∃ read, j.optional key (Json.getNumber cast 8) = .ok read
  group : ∃ read, j.optional "broadcast_group" (Json.getNumber cast 16) = .ok read
  data : ∃ read, j.optional "data" (Json.getBytes cast) = .ok read

theorem readable_of_ok {j : Json} {f g : H9Frame} (ok : fromJson cast j f = .ok g) : Readable cast j := by
  obtain ⟨type, readType, ok⟩ := bind_eq_ok.mp ok
  obtain ⟨sourceId, readSourceId, ok⟩ := bind_eq_ok.mp ok
  obtain ⟨seqnum, readSeqnum, ok⟩ := bind_eq_ok.mp ok
  obtain ⟨destinationId, readDestinationId, ok⟩ := bind_eq_ok.mp ok
  obtain ⟨flags, readFlags, ok⟩ := bind_eq_ok.mp ok
  obtain ⟨group, readGroup, ok⟩ := bind_eq_ok.mp ok
  obtain ⟨dlc, readDlc, ok⟩ := bind_eq_ok.mp ok
  obtain ⟨data, readData, -⟩ := bind_eq_ok.mp ok
  refine ⟨?_, ⟨group, readGroup⟩, ⟨data, readData⟩⟩
  simp only [List.forall_mem_cons]
  exact ⟨⟨_, readType⟩, ⟨_, readSourceId⟩, ⟨_, readSeqnum⟩, ⟨_, readDestinationId⟩, ⟨_, readFlags⟩,
    ⟨_, readDlc⟩, nofun⟩

/-- The frame that is read over another one. -/
def readFrame (j : Json) (f : H9Frame) : H9Frame :=
  match j.members.lookup "data" with
  | some value => (readHeader cast j f).setData ((Json.getBytes cast value).toOption.getD [])
  | none => readHeader cast j f

/-- Whether a frame can be read does not depend on the frame it is read over. -/
theorem fromJson_of_readable {j : Json} (readable : Readable cast j) (f : H9Frame) :
    fromJson cast j f = .ok (readFrame cast j f) := by
  obtain ⟨byte, ⟨group, readGroup⟩, ⟨data, readData⟩⟩ := readable
  simp only [List.forall_mem_cons] at byte
  obtain ⟨⟨type, readType⟩, ⟨sourceId, readSourceId⟩, ⟨seqnum, readSeqnum⟩,
    ⟨destinationId, readDestinationId⟩, ⟨flags, readFlags⟩, ⟨dlc, readDlc⟩, -⟩ := byte
  simp only [fromJson, readType, readSourceId, readSeqnum, readDestinationId, readFlags, readGroup, readDlc,
    readData, ok_bind, optional_getD readType, optional_getD readSourceId, optional_getD readSeqnum,
    optional_getD readDestinationId, optional_getD readFlags, optional_getD readGroup,
    optional_getD readDlc, readFrame]
  obtain ⟨missing, rfl⟩ | ⟨value, a, found, given, rfl⟩ := optional_eq_ok readData
  · rw [missing]
    rfl
  · rw [found]
    dsimp only
    rw [given]
    rfl

theorem eq_readFrame {j : Json} {f g : H9Frame} (ok : fromJson cast j f = .ok g) : g = readFrame cast j f :=
  Except.ok.inj (ok.symm.trans (fromJson_of_readable cast (readable_of_ok cast ok) f))

theorem fromJson_eq_ok {j : Json} {f g : H9Frame} (ok : fromJson cast j f = .ok g) :
    ∃ data, j.optional "data" (Json.getBytes cast) = .ok data ∧
      g = (data.map (readHeader cast j f).setData).getD (readHeader cast j f) := by
  obtain ⟨data, readData⟩ := (readable_of_ok cast ok).data
  refine ⟨data, readData, ?_⟩
  rw [eq_readFrame cast ok, readFrame]
  obtain ⟨missing, rfl⟩ | ⟨value, a, found, given, rfl⟩ := optional_eq_ok readData
  · rw [missing]
    rfl
  · rw [found]
    dsimp only
    rw [given]
    rfl

section Members

variable {j : Json} {key : String} {get : Json → Except AccessError α} {read : Option α}

theorem memberOr_missing (missing : j.contains key = false) (old : α) : memberOr j key get old = old := by
  rw [Json.contains, Option.isSome_eq_false_iff, Option.isNone_iff_eq_none] at missing
  rw [memberOr, missing]

/-- A member that is given leaves nothing of the old value. -/
theorem memberOr_given (ok : j.optional key get = .ok read) (given : j.contains key = true) (old new : α) :
    memberOr j key get old = memberOr j key get new := by
  rw [← optional_isSome ok] at given
  obtain ⟨a, rfl⟩ := Option.isSome_iff_exists.mp given
  rw [← optional_getD ok, ← optional_getD ok]
  rfl

end Members

/-! ## Reading what was written -/

/-- What a CAN bus carries of a frame. -/
structure SameOnWire (f g : H9Frame) : Prop where
  canId : g.canId = f.canId
  dlc : g.dlc = f.dlc
  data : ∀ i : Fin 8, i < f.dlc.toNat → g.data i = f.data i

theorem canId_unicast {f g : H9Frame} (unicast : f.isUnicast = true) (type : g.type = f.type)
    (sourceId : g.sourceId = f.sourceId) (flags : g.flags = f.flags)
    (destinationId : g.destinationId = f.destinationId) (seqnum : g.seqnum = f.seqnum) :
    g.canId = f.canId := by
  have same : g.isUnicast = true := (isUnicast_congr type).trans unicast
  rw [H9Frame.canId, H9Frame.canId, if_pos same, if_pos unicast, type, sourceId, flags, destinationId,
    seqnum]

theorem canId_broadcast {f g : H9Frame} (broadcast : f.isUnicast = false) (type : g.type = f.type)
    (sourceId : g.sourceId = f.sourceId) (group : g.group = f.group) : g.canId = f.canId := by
  have same : g.isUnicast = false := (isUnicast_congr type).trans broadcast
  rw [H9Frame.canId, H9Frame.canId, same, broadcast, type, sourceId, group]
  rfl

theorem getNumber_ofByte (b : Byte) : Json.getNumber cast 8 (.ofByte b) = .ok b := by
  simp [Json.ofByte, Json.getNumber]

theorem getNumber_ofUInt16 (n : BitVec 16) : Json.getNumber cast 16 (.ofUInt16 n) = .ok n := by
  simp [Json.ofUInt16, Json.getNumber]

theorem getBytes_ofBytes (bytes : List Byte) : Json.getBytes cast (.ofBytes bytes) = .ok bytes := by
  rw [Json.ofBytes, Json.getBytes]
  induction bytes with
  | nil => rfl
  | cons b bytes ih =>
    rw [List.map_cons, List.mapM_cons, getNumber_ofByte, ih]
    rfl

theorem setData_listed (f g : H9Frame) (fits : f.dlc.toNat ≤ 8) :
    (g.setData f.listed).dlc = f.dlc ∧
      ∀ i : Fin 8, i < f.dlc.toNat → (g.setData f.listed).data i = f.data i := by
  have length : f.listed.length = f.dlc.toNat := by
    rw [listed, List.length_take, List.length_ofFn]
    omega
  constructor
  · apply BitVec.eq_of_toNat_eq
    change (BitVec.ofNat 8 (min f.listed.length 8)).toNat = f.dlc.toNat
    rw [length, BitVec.toNat_ofNat]
    omega
  · intro i inside
    have inside : (i : ℕ) < f.listed.length := by omega
    change f.listed.getD i (g.data i) = f.data i
    rw [List.getD_eq_getElem _ _ inside]
    simp only [listed, List.getElem_take, List.getElem_ofFn]

/-- The members that `to_json` writes for a unicast frame. -/
def unicastMembers (f : H9Frame) : List (String × Json) :=
  [("data", .ofBytes f.listed), ("destination_id", .ofByte f.destinationId), ("dlc", .ofByte f.dlc),
    ("flags", .ofByte f.flags), ("origin", .string f.origin), ("seqnum", .ofByte f.seqnum),
    ("source_id", .ofByte f.sourceId), ("type", .ofByte f.type)]

theorem toJson_unicast {ε : Type} {f : H9Frame} (unicast : f.isUnicast = true) (fits : f.dlc.toNat ≤ 8) :
    (f.toJson : Outcome ε Json) = .value (.object f.unicastMembers) := by
  have vector : (f.dataVector : Outcome ε _) = .value f.listed := if_pos fits
  rw [toJson, vector, Outcome.value_bind, if_pos unicast]
  rfl

theorem fromJson_unicast (f g : H9Frame) :
    fromJson cast (.object f.unicastMembers) g = .ok
      (({ g with
        type := f.type
        sourceId := f.sourceId
        seqnum := f.seqnum
        destinationId := f.destinationId
        flags := f.flags
        dlc := f.dlc } : H9Frame).setData f.listed) := by
  simp [unicastMembers, fromJson, Json.optional, Json.members, List.lookup_cons, getNumber_ofByte,
    getBytes_ofBytes]
  rfl

/-- The members that `to_json` writes for a broadcast frame. -/
def broadcastMembers (f : H9Frame) : List (String × Json) :=
  [("broadcast_group", .ofUInt16 f.group), ("data", .ofBytes f.listed), ("dlc", .ofByte f.dlc),
    ("origin", .string f.origin), ("source_id", .ofByte f.sourceId), ("type", .ofByte f.type)]

theorem toJson_broadcast {ε : Type} {f : H9Frame} (broadcast : f.isUnicast = false)
    (fits : f.dlc.toNat ≤ 8) : (f.toJson : Outcome ε Json) = .value (.object f.broadcastMembers) := by
  have vector : (f.dataVector : Outcome ε _) = .value f.listed := if_pos fits
  rw [toJson, vector, Outcome.value_bind, broadcast]
  rfl

theorem fromJson_broadcast (f g : H9Frame) :
    fromJson cast (.object f.broadcastMembers) g = .ok
      (({ g with type := f.type, sourceId := f.sourceId, group := f.group, dlc := f.dlc } : H9Frame).setData
        f.listed) := by
  simp [broadcastMembers, fromJson, Json.optional, Json.members, List.lookup_cons, getNumber_ofByte,
    getNumber_ofUInt16, getBytes_ofBytes]
  rfl

/-- Reading the JSON value of a frame into any frame gives back its type and what goes on the wire. -/
theorem fromJson_toJson_type (ε : Type) (f g : H9Frame) (fits : f.dlc.toNat ≤ 8) :
    ∃ j h, (f.toJson : Outcome ε Json) = .value j ∧ fromJson cast j g = .ok h ∧ h.type = f.type ∧
      SameOnWire f h := by
  cases unicast : f.isUnicast with
  | true =>
    refine ⟨_, _, toJson_unicast unicast fits, fromJson_unicast cast f g, rfl, ?_, ?_, ?_⟩
    · exact canId_unicast unicast rfl rfl rfl rfl rfl
    · exact (setData_listed f _ fits).1
    · exact (setData_listed f _ fits).2
  | false =>
    refine ⟨_, _, toJson_broadcast unicast fits, fromJson_broadcast cast f g, rfl, ?_, ?_, ?_⟩
    · exact canId_broadcast unicast rfl rfl rfl
    · exact (setData_listed f _ fits).1
    · exact (setData_listed f _ fits).2

theorem fromJson_toJson (ε : Type) (f g : H9Frame) (fits : f.dlc.toNat ≤ 8) :
    ∃ j h, (f.toJson : Outcome ε Json) = .value j ∧ fromJson cast j g = .ok h ∧ SameOnWire f h := by
  obtain ⟨j, h, written, read, -, same⟩ := fromJson_toJson_type cast ε f g fits
  exact ⟨j, h, written, read, same⟩

end H9Frame

end H9d
