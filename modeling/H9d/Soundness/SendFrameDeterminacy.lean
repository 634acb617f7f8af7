import H9d.Soundness.SendFrameRequests

/-! # What a request puts on the bus

The frame of a request is read over a new object, whose members hold what was in memory. What the bus does
not stamp and the request does not give stays as it was, and the encoder reads the members of its kind.
So two runs of one request put one frame on the bus only if the request gives all of these.
-/

namespace H9d.API

open Cxx Nlohmann Jsonrpcpp H9Frame

/-- What a CAN bus carries of a frame. -/
def wire (f : H9Frame) : BitVec 32 × Byte × List Byte := (f.canId, f.dlc, f.listed)

/-- The request is accepted, and this frame goes to the bus. -/
def Queues (env : Env) (me : ClientId) (id : Id) (params : Parameter) (d : Daemon) (f : H9Frame)
    (raw : Bool) : Prop :=
  ((sendFrame env me id params).after d).port = d.port ++ [(f, raw)]

/-- Whatever was in memory, and whoever sends the request, the same goes on the bus. -/
def Determined (cast : FloatCast) (params : Parameter) : Prop :=
  ∀ (env env' : Env) me me' id id' d d' f f' raw raw', env.cast = cast → env'.cast = cast →
    Queues env me id params d f raw → Queues env' me' id' params d' f' raw' →
      ∀ busId nextSeqnum,
        wire (Bus.stamp busId nextSeqnum raw f).1 = wire (Bus.stamp busId nextSeqnum raw' f').1

section Parameters

variable {env : Env} {me : ClientId} {id : Id} {params : Parameter} {d : Daemon} {f : H9Frame} {raw : Bool}

/-- The flag of a request and the value of its frame, if they can be read. -/
structure Given (cast : FloatCast) (params : Parameter) (j : Json) (raw : Bool) : Prop where
  raw : (match params.paramMap.lookup "raw" with
    | some value => value.getBool
    | none => .ok false) = .ok raw
  frame : params.paramMap.lookup "frame" = some j
  readable : Readable cast j

theorem sendFrameParams_eq_ok :
    sendFrameParams env params = .ok (f, raw) ↔
      ∃ j, Given env.cast params j raw ∧ f = readFrame env.cast j env.frameMemory := by
  constructor
  · intro read
    obtain ⟨j, found, parsed⟩ := sendFrameParams_frame env params read
    rw [sendFrameParams_eq] at read
    obtain ⟨_, flagged, rest⟩ := bind_eq_ok.mp read
    obtain ⟨_, -, ⟨⟩⟩ := bind_eq_ok.mp rest
    exact ⟨j, ⟨flagged, found, readable_of_ok env.cast parsed⟩, eq_readFrame env.cast parsed⟩
  · rintro ⟨j, ⟨flagged, found, readable⟩, rfl⟩
    rw [sendFrameParams_eq]
    refine bind_eq_ok.mpr ⟨raw, flagged, bind_eq_ok.mpr ⟨_, ?_, rfl⟩⟩
    refine bind_eq_ok.mpr ⟨j, ?_, fromJson_of_readable env.cast readable env.frameMemory⟩
    rw [atKey, found]

theorem queues_iff :
    Queues env me id params d f raw ↔
      ∃ j, Given env.cast params j raw ∧ f = fromClient me d (readFrame env.cast j env.frameMemory) := by
  rw [Queues]
  cases read : sendFrameParams env params with
  | error e =>
    rw [(sendFrame_rejected env me id params d read).2]
    refine iff_of_false (by simp) ?_
    rintro ⟨j, given, -⟩
    have accepted := sendFrameParams_eq_ok.mpr ⟨j, given, rfl⟩
    rw [read] at accepted
    cases accepted
  | ok given =>
    obtain ⟨frame, flag⟩ := given
    obtain ⟨j, accepted, rfl⟩ := sendFrameParams_eq_ok.mp read
    rw [(sendFrame_accepted env me id params d read).2]
    constructor
    · intro port
      obtain ⟨rfl, rfl⟩ : fromClient me d (readFrame env.cast j env.frameMemory) = f ∧ flag = raw := by
        simpa using port
      exact ⟨j, accepted, rfl⟩
    · rintro ⟨j', given, rfl⟩
      cases accepted.frame.symm.trans given.frame
      cases accepted.raw.symm.trans given.raw
      rfl

end Parameters

/-! ## What the bus makes of it -/

theorem stamp_eq (busId : BitVec 16) (nextSeqnum : Byte) (raw : Bool) (f : H9Frame) :
    (Bus.stamp busId nextSeqnum raw f).1 =
      { f with
        sourceId := if raw then f.sourceId else busId.setWidth 8
        seqnum := if !raw && Bus.takesSeqnum f.type then nextSeqnum else f.seqnum } := by
  cases raw with
  | true => rfl
  | false =>
    cases takes : Bus.takesSeqnum f.type <;> simp [Bus.stamp, takes]

section ReadFrame

variable (cast : FloatCast) (j : Json) (m : H9Frame)

/-- The data has no part in the identifier. -/
theorem readFrame_header : ∃ dlc data, readFrame cast j m = { readHeader cast j m with dlc, data } := by
  rw [readFrame]
  split <;> exact ⟨_, _, rfl⟩

@[simp] theorem readFrame_type :
    (readFrame cast j m).type = memberOr j "type" (Json.getNumber cast 8) m.type := by
  obtain ⟨_, _, same⟩ := readFrame_header cast j m
  rw [same]
  rfl

@[simp] theorem readFrame_sourceId :
    (readFrame cast j m).sourceId = memberOr j "source_id" (Json.getNumber cast 8) m.sourceId := by
  obtain ⟨_, _, same⟩ := readFrame_header cast j m
  rw [same]
  rfl

@[simp] theorem readFrame_seqnum :
    (readFrame cast j m).seqnum = memberOr j "seqnum" (Json.getNumber cast 8) m.seqnum := by
  obtain ⟨_, _, same⟩ := readFrame_header cast j m
  rw [same]
  rfl

@[simp] theorem readFrame_destinationId :
    (readFrame cast j m).destinationId =
      memberOr j "destination_id" (Json.getNumber cast 8) m.destinationId := by
  obtain ⟨_, _, same⟩ := readFrame_header cast j m
  rw [same]
  rfl

@[simp] theorem readFrame_flags :
    (readFrame cast j m).flags = memberOr j "flags" (Json.getNumber cast 8) m.flags := by
  obtain ⟨_, _, same⟩ := readFrame_header cast j m
  rw [same]
  rfl

@[simp] theorem readFrame_group :
    (readFrame cast j m).group = memberOr j "broadcast_group" (Json.getNumber cast 16) m.group := by
  obtain ⟨_, _, same⟩ := readFrame_header cast j m
  rw [same]
  rfl

end ReadFrame

/-- The same frame for any memory, for any bus. -/
def Independent (cast : FloatCast) (j : Json) (raw : Bool) : Prop :=
  ∀ (m m' : H9Frame) busId nextSeqnum,
    wire (Bus.stamp busId nextSeqnum raw (readFrame cast j m)).1 =
      wire (Bus.stamp busId nextSeqnum raw (readFrame cast j m')).1

/-- The name of the client is not on the wire. -/
theorem wire_fromClient (me : ClientId) (d : Daemon) (f : H9Frame) (busId : BitVec 16) (nextSeqnum : Byte)
    (raw : Bool) :
    wire (Bus.stamp busId nextSeqnum raw (fromClient me d f)).1 =
      wire (Bus.stamp busId nextSeqnum raw f).1 := by
  rw [stamp_eq, stamp_eq]
  rfl

theorem determined_iff_independent (cast : FloatCast) (params : Parameter) :
    Determined cast params ↔ ∀ j raw, Given cast params j raw → Independent cast j raw := by
  constructor
  · intro determined j raw given m m' busId nextSeqnum
    have same := determined { (default : Env) with cast, frameMemory := m }
      { (default : Env) with cast, frameMemory := m' } 0 0 .null .null Daemon.initial Daemon.initial _ _ raw raw
      rfl rfl (queues_iff.mpr ⟨j, given, rfl⟩) (queues_iff.mpr ⟨j, given, rfl⟩) busId nextSeqnum
    rw [wire_fromClient, wire_fromClient] at same
    exact same
  · rintro independent env env' me me' id id' d d' f f' raw raw' rfl same queued queued' busId nextSeqnum
    obtain ⟨j, given, rfl⟩ := queues_iff.mp queued
    obtain ⟨j', given', rfl⟩ := queues_iff.mp queued'
    rw [same] at given'
    cases given.frame.symm.trans given'.frame
    cases given.raw.symm.trans given'.raw
    rw [wire_fromClient, wire_fromClient, same]
    exact independent j raw given _ _ busId nextSeqnum

/-! ## The members that a request has to give -/

/-- The type that a request gives. -/
def givenType (cast : FloatCast) (j : Json) : FrameType := memberOr j "type" (Json.getNumber cast 8) 0

/-- The members that the encoder reads and the bus does not stamp are given, and the data by itself or by
its length, which then is 0. -/
structure Complete (cast : FloatCast) (j : Json) (raw : Bool) : Prop where
  type : j.contains "type" = true
  sourceId : raw = true → j.contains "source_id" = true
  unicast : (givenType cast j).ult FrameType.DISCOVER = true →
    j.contains "flags" = true ∧ j.contains "destination_id" = true ∧
      ((!raw && Bus.takesSeqnum (givenType cast j)) = false → j.contains "seqnum" = true)
  broadcast : (givenType cast j).ult FrameType.DISCOVER = false → j.contains "broadcast_group" = true
  data : j.contains "data" = true ∨
    j.contains "dlc" = true ∧ memberOr j "dlc" (Json.getNumber cast 8) 0 = 0

section Complete

variable {cast : FloatCast} {j : Json} {raw : Bool} (readable : Readable cast j)

include readable

theorem byte_given {key : String} (member : key ∈ ["type", "source_id", "seqnum", "destination_id", "flags", "dlc"])
    (given : j.contains key = true) (old new : Byte) :
    memberOr j key (Json.getNumber cast 8) old = memberOr j key (Json.getNumber cast 8) new := by
  obtain ⟨_, ok⟩ := readable.byte key member
  exact memberOr_given ok given old new

theorem group_given (given : j.contains "broadcast_group" = true) (old new : BitVec 16) :
    memberOr j "broadcast_group" (Json.getNumber cast 16) old =
      memberOr j "broadcast_group" (Json.getNumber cast 16) new := by
  obtain ⟨_, ok⟩ := readable.group
  exact memberOr_given ok given old new

/-- Data that is given decides the length as well. -/
theorem readFrame_data (data : j.contains "data" = true ∨
    j.contains "dlc" = true ∧ memberOr j "dlc" (Json.getNumber cast 8) 0 = 0) (m m' : H9Frame) :
    (readFrame cast j m).dlc = (readFrame cast j m').dlc ∧
      (readFrame cast j m).listed = (readFrame cast j m').listed := by
  rw [readFrame, readFrame]
  cases found : j.members.lookup "data" with
  | some value =>
    dsimp only
    rw [listed_setData, listed_setData]
    exact ⟨rfl, rfl⟩
  | none =>
    have missing : j.contains "data" = false := by
      rw [Json.contains, found]
      rfl
    obtain ⟨given, zero⟩ := data.resolve_left (by rw [missing]; decide)
    have length (m : H9Frame) : (readHeader cast j m).dlc = 0 :=
      (byte_given readable (by decide) given m.dlc 0).trans zero
    dsimp only
    rw [listed, listed, length m, length m']
    exact ⟨rfl, rfl⟩

theorem independent_of_complete (complete : Complete cast j raw) : Independent cast j raw := by
  intro m m' busId nextSeqnum
  have type : memberOr j "type" (Json.getNumber cast 8) m.type =
      memberOr j "type" (Json.getNumber cast 8) m'.type := byte_given readable (by decide) complete.type _ _
  have named : memberOr j "type" (Json.getNumber cast 8) m'.type = givenType cast j :=
    byte_given readable (by decide) complete.type _ _
  obtain ⟨dlc, listed⟩ := readFrame_data readable complete.data m m'
  have source : (if raw then memberOr j "source_id" (Json.getNumber cast 8) m.sourceId else busId.setWidth 8) =
      if raw then memberOr j "source_id" (Json.getNumber cast 8) m'.sourceId else busId.setWidth 8 := by
    cases raw with
    | true => exact byte_given readable (by decide) (complete.sourceId rfl) _ _
    | false => rfl
  rw [stamp_eq, stamp_eq, wire, wire]
  refine Prod.ext ?_ (Prod.ext dlc listed)
  dsimp only
  cases kind : (givenType cast j).ult FrameType.DISCOVER with
  | true =>
    obtain ⟨flags, destinationId, seqnum⟩ := complete.unicast kind
    refine canId_unicast ?_ ?_ ?_ ?_ ?_ ?_ <;>
      simp only [isUnicast, readFrame_type, readFrame_sourceId, readFrame_flags, readFrame_destinationId,
        readFrame_seqnum, type, named]
    · exact kind
    · exact source
    · exact byte_given readable (by decide) flags _ _
    · exact byte_given readable (by decide) destinationId _ _
    · cases stamped : !raw && Bus.takesSeqnum (givenType cast j) with
      | true => rfl
      | false => exact byte_given readable (by decide) (seqnum stamped) _ _
  | false =>
    refine canId_broadcast ?_ ?_ ?_ ?_ <;>
      simp only [isUnicast, readFrame_type, readFrame_sourceId, readFrame_group, type, named]
    · exact kind
    · exact source
    · exact group_given readable (complete.broadcast kind) _ _

end Complete

section Independent

variable {cast : FloatCast} {j : Json} {raw : Bool}

/-- The digits of the address of a unicast frame. -/
theorem unicast_digits {f g : H9Frame} (unicast : f.isUnicast = true) (unicast' : g.isUnicast = true)
    (same : f.addressValue = g.addressValue) :
    f.flags.toNat % 8 = g.flags.toNat % 8 ∧ f.destinationId = g.destinationId ∧
      f.seqnum.toNat % 32 = g.seqnum.toNat % 32 := by
  have destination := f.destinationId.isLt
  have destination' := g.destinationId.isLt
  rw [addressValue, addressValue, if_pos unicast, if_pos unicast'] at same
  refine ⟨?_, BitVec.eq_of_toNat_eq ?_, ?_⟩ <;> omega

variable (independent : Independent cast j raw) (m m' : H9Frame)

include independent

/-- What two memories have in common in a frame that does not depend on them. -/
theorem independent_members :
    (memberOr j "type" (Json.getNumber cast 8) m.type).toNat % 32 =
        (memberOr j "type" (Json.getNumber cast 8) m'.type).toNat % 32 ∧
      (raw = true → memberOr j "source_id" (Json.getNumber cast 8) m.sourceId =
        memberOr j "source_id" (Json.getNumber cast 8) m'.sourceId) ∧
      (Bus.stamp 0 0 raw (readFrame cast j m)).1.addressValue =
        (Bus.stamp 0 0 raw (readFrame cast j m')).1.addressValue := by
  obtain ⟨type, source, address⟩ := canId_inj (congrArg Prod.fst (independent m m' 0 0))
  refine ⟨?_, fun isRaw => ?_, address⟩
  · simpa [stamp_eq] using type
  · simpa [stamp_eq, isRaw] using source

theorem independent_type : j.contains "type" = true := by
  by_contra missing
  rw [Bool.not_eq_true] at missing
  have same := (independent_members independent { (default : H9Frame) with type := 0 }
    { (default : H9Frame) with type := 1 }).1
  rw [memberOr_missing missing, memberOr_missing missing] at same
  exact absurd same (by decide)

theorem independent_sourceId (isRaw : raw = true) : j.contains "source_id" = true := by
  by_contra missing
  rw [Bool.not_eq_true] at missing
  have same := (independent_members independent { (default : H9Frame) with sourceId := 0 }
    { (default : H9Frame) with sourceId := 1 }).2.1 isRaw
  rw [memberOr_missing missing, memberOr_missing missing] at same
  exact absurd same (by decide)

variable (readable : Readable cast j)

include readable

theorem stamp_isUnicast (m : H9Frame) :
    (Bus.stamp 0 0 raw (readFrame cast j m)).1.isUnicast = (givenType cast j).ult FrameType.DISCOVER := by
  have type : memberOr j "type" (Json.getNumber cast 8) m.type = givenType cast j :=
    byte_given readable (by decide) (independent_type independent) _ _
  rw [stamp_eq, isUnicast, readFrame_type, type]

/-- Of a unicast frame the three members of its address are the same. -/
theorem independent_unicast (unicast : (givenType cast j).ult FrameType.DISCOVER = true) :
    (memberOr j "flags" (Json.getNumber cast 8) m.flags).toNat % 8 =
        (memberOr j "flags" (Json.getNumber cast 8) m'.flags).toNat % 8 ∧
      memberOr j "destination_id" (Json.getNumber cast 8) m.destinationId =
        memberOr j "destination_id" (Json.getNumber cast 8) m'.destinationId ∧
      ((!raw && Bus.takesSeqnum (givenType cast j)) = false →
        (memberOr j "seqnum" (Json.getNumber cast 8) m.seqnum).toNat % 32 =
          (memberOr j "seqnum" (Json.getNumber cast 8) m'.seqnum).toNat % 32) := by
  have kind := stamp_isUnicast independent readable
  have type (m : H9Frame) : memberOr j "type" (Json.getNumber cast 8) m.type = givenType cast j :=
    byte_given readable (by decide) (independent_type independent) _ _
  obtain ⟨flags, destination, seqnum⟩ := unicast_digits ((kind m).trans unicast) ((kind m').trans unicast)
    (independent_members independent m m').2.2
  refine ⟨by simpa [stamp_eq] using flags, by simpa [stamp_eq] using destination, fun unstamped => ?_⟩
  rw [stamp_eq, stamp_eq] at seqnum
  simpa only [readFrame_type, type, unstamped, Bool.false_eq_true, if_false, readFrame_seqnum] using seqnum

theorem independent_broadcast (broadcast : (givenType cast j).ult FrameType.DISCOVER = false) :
    j.contains "broadcast_group" = true := by
  by_contra missing
  rw [Bool.not_eq_true] at missing
  have kind := stamp_isUnicast independent readable
  have same := (independent_members independent { (default : H9Frame) with group := 0 }
    { (default : H9Frame) with group := 1 }).2.2
  rw [addressValue, addressValue, kind, kind, broadcast, stamp_eq, stamp_eq] at same
  simp only [Bool.false_eq_true, if_false, readFrame_group, memberOr_missing missing] at same
  exact absurd same (by decide)

theorem independent_data : j.contains "data" = true ∨
    j.contains "dlc" = true ∧ memberOr j "dlc" (Json.getNumber cast 8) 0 = 0 := by
  cases missing : j.contains "data" with
  | true => exact .inl rfl
  | false =>
    refine .inr ?_
    have header (m : H9Frame) : readFrame cast j m = readHeader cast j m := by
      rw [Json.contains, Option.isSome_eq_false_iff, Option.isNone_iff_eq_none] at missing
      rw [readFrame, missing]
    have same (m m' : H9Frame) := congrArg Prod.snd (independent m m' 0 0)
    simp only [wire, stamp_eq, header, Prod.mk.injEq] at same
    have given : j.contains "dlc" = true := by
      by_contra absent
      rw [Bool.not_eq_true] at absent
      have length := (same { (default : H9Frame) with dlc := 0 } { (default : H9Frame) with dlc := 1 }).1
      simp only [readHeader, memberOr_missing absent] at length
      exact absurd length (by decide)
    refine ⟨given, ?_⟩
    by_contra nonempty
    have length (m : H9Frame) : (readHeader cast j m).dlc = memberOr j "dlc" (Json.getNumber cast 8) 0 :=
      byte_given readable (by decide) given m.dlc 0
    have positive : (memberOr j "dlc" (Json.getNumber cast 8) (0 : Byte)).toNat ≠ 0 :=
      fun zero => nonempty (BitVec.eq_of_toNat_eq zero)
    have bytes := congrArg List.head? (same { (default : H9Frame) with data := fun _ => 0 }
      { (default : H9Frame) with data := fun _ => 1 }).2
    simp only [listed, length, List.head?_take, positive, if_false] at bytes
    have first : some (0 : Byte) = some 1 := bytes
    exact absurd first (by decide)

theorem complete_of_independent : Complete cast j raw where
  type := independent_type independent
  sourceId := independent_sourceId independent
  unicast kind := by
    refine ⟨?_, ?_, fun unstamped => ?_⟩ <;> by_contra missing <;> rw [Bool.not_eq_true] at missing
    · have same := (independent_unicast independent { (default : H9Frame) with flags := 0 }
        { (default : H9Frame) with flags := 1 } readable kind).1
      rw [memberOr_missing missing, memberOr_missing missing] at same
      exact absurd same (by decide)
    · have same := (independent_unicast independent { (default : H9Frame) with destinationId := 0 }
        { (default : H9Frame) with destinationId := 1 } readable kind).2.1
      rw [memberOr_missing missing, memberOr_missing missing] at same
      exact absurd same (by decide)
    · have same := (independent_unicast independent { (default : H9Frame) with seqnum := 0 }
        { (default : H9Frame) with seqnum := 1 } readable kind).2.2 unstamped
      rw [memberOr_missing missing, memberOr_missing missing] at same
      exact absurd same (by decide)
  broadcast := independent_broadcast independent readable
  data := independent_data independent readable

end Independent

/-- What a request puts on the bus is a function of the request and the bus exactly if the request gives
every member that the bus does not. -/
theorem determined_iff (cast : FloatCast) (params : Parameter) :
    Determined cast params ↔ ∀ j raw, Given cast params j raw → Complete cast j raw := by
  rw [determined_iff_independent]
  constructor
  · exact fun independent j raw given => complete_of_independent (independent j raw given) given.readable
  · exact fun complete j raw given => independent_of_complete given.readable (complete j raw given)

/-- A request to read register 10 of node 7 that says nothing of the flags. -/
def withoutFlags : Parameter :=
  .map [("frame", .object [("data", .array [.numberUnsigned 10]), ("destination_id", .numberUnsigned 7),
    ("type", .numberUnsigned 11)])]

/-- What the memory held for the flags goes on the bus. -/
theorem withoutFlags_sent :
    (∃ f, Queues default 0 .null withoutFlags Daemon.initial f false ∧
      (Bus.stamp 1 0 false f).1.canId = 0x0B0100E0) ∧
    (∃ f, Queues { (default : Env) with frameMemory := { (default : H9Frame) with flags := 7 } } 0 .null
        withoutFlags Daemon.initial f false ∧
      (Bus.stamp 1 0 false f).1.canId = 0x0B01E0E0) ∧
    ¬Determined default withoutFlags := by
  refine ⟨⟨_, rfl, by decide⟩, ⟨_, rfl, by decide⟩, fun determined => ?_⟩
  have same := determined default
    { (default : Env) with frameMemory := { (default : H9Frame) with flags := 7 } } 0 0 .null .null
    Daemon.initial Daemon.initial _ _ false false rfl rfl rfl rfl 1 0
  exact absurd (congrArg Prod.fst same) (by decide)

end H9d.API
