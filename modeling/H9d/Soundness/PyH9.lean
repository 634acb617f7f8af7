import H9d.Model.PyH9
import H9d.Soundness.FrameCodec
import H9d.Soundness.TransportDrivers

/-! # Frames from Python

Each setter checks its value before it writes, so whatever a program does to its objects, in any order and
with any failures, the members of a frame fit their fields: the getter stays inside the array, and the
driver reads the frame that was sent.
-/

namespace H9d.PyH9

open Cxx H9Frame

/-- A sequence that is assigned has a size, and an `int` can tell it. -/
def Sized : Option PyValue → Prop
  | some (.sequence size _) => ∃ n ∈ size, n < 2 ^ 31
  | _ => True

def Operation.Sized : Operation → Prop
  | .init args => PyH9.Sized args.data
  | .setData value => PyH9.Sized value
  | _ => True

/-- The objects of a program: made new, made for a frame that the node is given, and changed. -/
inductive Object : H9Frame → Prop
  | new : Object zeroed
  | received (memory : H9Frame) (name : String) (bytes : Fin SERIALIZATION_LENGTH → Byte)
      (unicast : (memory.deserializeBytes name bytes).isUnicast = true) (object : Option H9Frame) {f : H9Frame}
      (made : pyH9FrameNew object (memory.deserializeBytes name bytes) = some f) : Object f
  | changed {f : H9Frame} (object : Object f) (operation : Operation) (sized : operation.Sized) :
      Object (operation.apply f).1

/-- The members fit their fields. -/
structure Fits (f : H9Frame) : Prop where
  type : f.type.toNat < 32
  flags : f.flags.toNat < 8
  seqnum : f.seqnum.toNat < 32
  dlc : f.dlc.toNat ≤ 8

variable {f : H9Frame}

theorem fits_zeroed : Fits zeroed := ⟨by decide, by decide, by decide, by decide⟩

theorem fits_received {memory : H9Frame} {name : String} {bytes : Fin SERIALIZATION_LENGTH → Byte}
    (unicast : (memory.deserializeBytes name bytes).isUnicast = true) :
    Fits (memory.deserializeBytes name bytes) := by
  obtain ⟨type, -, flags, -, seqnum, -⟩ := addressed_deserializeBytes memory name bytes
  rw [if_pos unicast] at flags seqnum
  have dlc := deserializeBytes_dlc memory name bytes
  constructor <;> omega

/-! ## Setters -/

private theorem type_max : TYPE_MAX_VALUE = 31 := rfl

private theorem py_seqnum_max : SEQNUM_MAX_VALUE = 31 := rfl

/-- A setter writes what is not beyond its maximum, or nothing. -/
theorem setNumber_frame (named : String) {max : ℕ} (small : max ≤ 255) (write : H9Frame → Byte → H9Frame)
    (value : Option PyValue) : (setNumber named max write f value).1 = f ∨
      ∃ b : Byte, b.toNat ≤ max ∧ (setNumber named max write f value).1 = write f b := by
  cases value with
  | none => exact .inl rfl
  | some value =>
    rw [setNumber]
    cases value.asUnsignedLong with
    | error e => exact .inl rfl
    | ok v =>
      dsimp only
      split
      · exact .inl rfl
      · next inside =>
        refine .inr ⟨_, ?_, rfl⟩
        rw [BitVec.toNat_setWidth, Nat.mod_eq_of_lt (by omega)]
        omega

theorem setSourceId_frame (value : Option PyValue) : (setSourceId f value).1 = f ∨
    ∃ b : Byte, (setSourceId f value).1 = { f with sourceId := b } := by
  cases value with
  | none => exact .inl rfl
  | some value =>
    cases value with
    | sequence size items => exact .inl rfl
    | other => exact .inl rfl
    | int n =>
      refine (setNumber_frame "source_id" le_rfl (fun f sourceId => { f with sourceId }) (some (.int n))).imp_right ?_
      rintro ⟨b, -, same⟩
      exact ⟨b, same⟩

/-- The loop writes data, and no length but zero. -/
theorem storeItems_frame (i : ℕ) (items : List PyValue) :
    ∃ data, (storeItems f i items).1 = { f with data } ∨ (storeItems f i items).1 = { f with data, dlc := 0 } := by
  induction items generalizing f i with
  | nil => exact ⟨f.data, .inl rfl⟩
  | cons item items ih =>
    rw [storeItems]
    cases item.asUnsignedLong with
    | error e => exact ⟨f.data, .inr rfl⟩
    | ok v =>
      dsimp only
      split
      · exact ⟨f.data, .inr rfl⟩
      · exact ih (i + 1)

theorem toInt_sequenceSize {n : ℕ} (short : n < 2 ^ 31) : (sequenceSize (some n)).toInt = n := by
  rw [sequenceSize, BitVec.toInt_ofNat', Int.bmod_eq_of_le] <;> omega

theorem Fits.withData (fits : Fits f) {data : Fin 8 → Byte} {dlc : Byte} (short : dlc.toNat ≤ 8) :
    Fits { f with data, dlc } :=
  ⟨fits.type, fits.flags, fits.seqnum, short⟩

theorem Fits.storeData (fits : Fits f) {value : PyValue} (sized : Sized (some value)) :
    Fits (storeData f value).1 := by
  cases value with
  | int n => exact fits
  | other => exact fits
  | sequence size items =>
    obtain ⟨n, rfl, short⟩ := sized
    simp only [PyH9.storeData, toInt_sequenceSize short]
    split
    · exact fits
    · next inside =>
      obtain ⟨data, stored⟩ := @storeItems_frame f 0 (firstItems (n : ℤ).toNat items)
      have kept : Fits (storeItems f 0 (firstItems (n : ℤ).toNat items)).1 := by
        rcases stored with same | same <;> rw [same]
        · exact fits.withData fits.dlc
        · exact fits.withData (by decide)
      generalize storeItems f 0 (firstItems (n : ℤ).toNat items) = result at kept
      obtain ⟨g, failed⟩ := result
      cases failed with
      | some e => exact kept
      | none =>
        have few : n ≤ 8 := by exact_mod_cast not_lt.mp inside
        refine kept.withData ?_
        rw [sequenceSize, BitVec.toNat_setWidth, BitVec.toNat_ofNat]
        omega

theorem Fits.init (fits : Fits f) {args : Arguments} (sized : Sized args.data) : Fits (PyH9.init f args).1 := by
  rw [PyH9.init]
  cases args.parse with
  | error e => exact fits
  | ok parsed =>
    dsimp only
    split
    · exact fits
    · next type =>
      have type : parsed.type.toNat < 32 := by
        rw [type_max] at type
        omega
      split
      · exact ⟨type, fits.flags, fits.seqnum, fits.dlc⟩
      · next seqnum =>
        have seqnum : parsed.seqnum.toNat < 32 := by
          rw [py_seqnum_max] at seqnum
          omega
        split
        · exact ⟨type, fits.flags, seqnum, fits.dlc⟩
        · next dlc =>
          have next : Fits { f with
              type := parsed.type, seqnum := parsed.seqnum, destinationId := parsed.destinationId,
              sourceId := parsed.sourceId, dlc := parsed.dlc } :=
            ⟨type, fits.flags, seqnum, not_lt.mp dlc⟩
          cases data : args.data with
          | none => exact next
          | some value =>
            rw [data] at sized
            exact next.storeData sized

theorem Fits.apply (fits : Fits f) {operation : Operation} (sized : operation.Sized) :
    Fits (operation.apply f).1 := by
  cases operation with
  | init args => exact fits.init sized
  | setType value =>
    rcases @setNumber_frame f "seqnum" TYPE_MAX_VALUE (by decide) (fun f type => { f with type }) value with
      same | ⟨b, inside, same⟩
    · exact same.symm ▸ fits
    · exact same.symm ▸ ⟨Nat.lt_succ_of_le inside, fits.flags, fits.seqnum, fits.dlc⟩
  | setSeqnum value =>
    rcases @setNumber_frame f "seqnum" SEQNUM_MAX_VALUE (by decide) (fun f seqnum => { f with seqnum }) value with
      same | ⟨b, inside, same⟩
    · exact same.symm ▸ fits
    · exact same.symm ▸ ⟨fits.type, fits.flags, Nat.lt_succ_of_le inside, fits.dlc⟩
  | setDestinationId value =>
    rcases @setNumber_frame f "destination_id" ID_MAX_VALUE le_rfl (fun f destinationId => { f with destinationId }) value with
      same | ⟨b, -, same⟩
    · exact same.symm ▸ fits
    · exact same.symm ▸ ⟨fits.type, fits.flags, fits.seqnum, fits.dlc⟩
  | setSourceId value =>
    rcases @setSourceId_frame f value with same | ⟨b, same⟩
    · exact same.symm ▸ fits
    · exact same.symm ▸ ⟨fits.type, fits.flags, fits.seqnum, fits.dlc⟩
  | setDlc value =>
    rcases @setNumber_frame f "dlc" MAX_DATA_LENGTH (by decide) (fun f dlc => { f with dlc }) value with
      same | ⟨b, inside, same⟩
    · exact same.symm ▸ fits
    · exact same.symm ▸ ⟨fits.type, fits.flags, fits.seqnum, inside⟩
  | setData value =>
    cases value with
    | none => exact fits
    | some value => exact fits.storeData sized

theorem Object.fits (object : Object f) : Fits f := by
  induction object with
  | new => exact fits_zeroed
  | received memory name bytes unicast object made =>
    obtain ⟨-, -, rfl⟩ := Option.map_eq_some_iff.mp made
    exact fits_received unicast
  | changed object operation sized ih => exact ih.apply sized

theorem Object.build (object : Object f) {operations : List Operation}
    (sized : ∀ operation ∈ operations, operation.Sized) : Object (build f operations) := by
  induction operations generalizing f with
  | nil => exact object
  | cons operation operations ih =>
    obtain ⟨here, later⟩ := List.forall_mem_cons.mp sized
    exact ih (object.changed operation here) later

/-! ## Reading what was sent -/

/-- A frame object of a program survives the way to the bus: the getter reads as many bytes as the object
counts, and the driver of the virtual node reads the frame that was sent. -/
theorem object_survives_wire (object : Object f) (name : String) (memory : H9Frame)
    (stack : Fin SERIALIZATION_LENGTH → Byte) (isOpen : Bool) :
    getData f = some f.listed ∧ f.listed.length = f.dlc.toNat ∧
      ∃ g, (VirtualDriver.recvData name memory stack
          (.read (List.ofFn f.serialize) (List.length_ofFn).le)).outcome isOpen = .value (some g) ∧
        g.origin = name ∧ RecoveredFrom f g := by
  obtain ⟨type, flags, seqnum, dlc⟩ := object.fits
  have whole : filled (List.ofFn f.serialize) stack = f.serialize := by
    funext i
    rw [filled, List.getD_eq_getElem _ _ (by rw [List.length_ofFn]; exact i.isLt), List.getElem_ofFn]
  refine ⟨if_pos dlc, ?_, _, recvSerialized_nonempty _ ?_, ?_, ?_⟩
  · rw [H9Frame.listed, List.length_take, List.length_ofFn]
    exact min_eq_left dlc
  · rw [List.length_ofFn]
    decide
  · rw [deserializeBytes]
    dsimp only
    split <;> rfl
  · rw [whole]
    exact recovered_deserializeBytes f memory name type flags seqnum dlc

/-- Python makes a GET_REG with one byte of data, after an assignment that fails. -/
theorem object_survives_wire_getReg :
    let operations : List Operation :=
      [.init { type := some (.int 11), destinationId := some (.int 7) }, .setSeqnum (some (.int 32)),
        .setData (some (.sequence (some 1) [.int 10]))]
    let f := build zeroed operations
    f.seqnum = 0 ∧ getData f = some [10] ∧
      ∃ g, (VirtualDriver.recvData "virtual" default (fun _ => 0)
          (.read (List.ofFn f.serialize) (List.length_ofFn).le)).outcome true = .value (some g) ∧
        g.origin = "virtual" ∧ RecoveredFrom f g := by
  intro operations f
  have object : Object f := by
    apply Object.new.build
    intro operation among
    simp only [operations, List.mem_cons, List.not_mem_nil, or_false] at among
    obtain rfl | rfl | rfl := among
    · trivial
    · trivial
    · exact ⟨1, rfl, by decide⟩
  obtain ⟨read, -, received⟩ := object_survives_wire object "virtual" default (fun _ => 0) true
  exact ⟨rfl, read, received⟩

/-- The length of a longer sequence wraps: no item is stored, and the length of the frame is beyond its
array. -/
theorem storeData_long (items : List PyValue) :
    storeData f (.sequence (some (2 ^ 31 + 200)) items) = ({ f with dlc := 200 }, none) ∧
      getData (storeData f (.sequence (some (2 ^ 31 + 200)) items)).1 = none := by
  have stored : storeData f (.sequence (some (2 ^ 31 + 200)) items) = ({ f with dlc := 200 }, none) := rfl
  rw [stored]
  exact ⟨rfl, rfl⟩

/-- A sequence without a size is stored too, and the getter reads 255 bytes. -/
theorem storeData_sizeless (items : List PyValue) :
    storeData f (.sequence none items) = ({ f with dlc := 255 }, none) ∧
      getData (storeData f (.sequence none items)).1 = none := by
  have stored : storeData f (.sequence none items) = ({ f with dlc := 255 }, none) := rfl
  rw [stored]
  exact ⟨rfl, rfl⟩

end H9d.PyH9
