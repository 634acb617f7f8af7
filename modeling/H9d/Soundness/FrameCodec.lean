import H9d.Model.H9Frame

/-! # The two binary codecs of a frame

The identifier is read as a natural number with one digit per field. Both decoders are compared
with that number, so their agreement and both round trips reduce to Euclidean division.
-/

namespace H9d.H9Frame

open Bits

/-- The value of the sixteen addressing bits below type and source. -/
def addressValue (f : H9Frame) : ℕ :=
  if f.isUnicast then
    f.flags.toNat % 2 ^ 3 * 2 ^ 13 + f.destinationId.toNat * 2 ^ 5 + f.seqnum.toNat % 2 ^ 5
  else f.group.toNat

theorem addressValue_lt (f : H9Frame) : f.addressValue < 2 ^ 16 := by
  have destination := f.destinationId.isLt
  have group := f.group.isLt
  unfold addressValue
  split <;> omega

private theorem toNat_widened {n : ℕ} (x : BitVec n) (narrow : n ≤ 32) :
    (x.setWidth 32).toNat = x.toNat :=
  BitVec.toNat_setWidth_of_le narrow

private theorem header_toNat (f : H9Frame) :
    ((0#32 ||| f.type.setWidth 32 &&& lowMask 32 5) <<< 8 |||
      f.sourceId.setWidth 32 &&& lowMask 32 8).toNat =
      f.type.toNat % 2 ^ 5 * 2 ^ 8 + f.sourceId.toNat := by
  have source := f.sourceId.isLt
  have type : (0#32 ||| f.type.setWidth 32 &&& lowMask 32 5).toNat = f.type.toNat % 2 ^ 5 := by
    rw [BitVec.zero_or, toNat_and_lowMask _ (by omega), toNat_widened _ (by omega)]
  rw [toNat_append_masked _ _ (by omega) (by rw [type]; omega), type, toNat_widened _ (by omega)]
  omega

/-- The identifier as a number: five bits of type, eight of source, sixteen of address. -/
theorem canId_toNat (f : H9Frame) :
    f.canId.toNat =
      (f.type.toNat % 2 ^ 5 * 2 ^ 8 + f.sourceId.toNat) * 2 ^ 16 + f.addressValue := by
  have source := f.sourceId.isLt
  have destination := f.destinationId.isLt
  have group := f.group.isLt
  have header := header_toNat f
  simp only [canId, addressValue, TYPE_BIT_LENGTH, ID_BIT_LENGTH, FLAGS_BITS_LENGTH,
    SEQNUM_BIT_LENGTH, BROADCAST_GROUP_BIT_LENGTH]
  split
  · have flags := toNat_append_masked _ (f.flags.setWidth 32) (k := 3) (by omega)
      (by rw [header]; omega)
    rw [header, toNat_widened _ (by omega)] at flags
    have addressed := toNat_append_masked _ (f.destinationId.setWidth 32) (k := 8) (by omega)
      (by rw [flags]; omega)
    rw [flags, toNat_widened _ (by omega)] at addressed
    have numbered := toNat_append_masked _ (f.seqnum.setWidth 32) (k := 5) (by omega)
      (by rw [addressed]; omega)
    rw [addressed, toNat_widened _ (by omega)] at numbered
    rw [numbered]
    omega
  · rw [toNat_append_masked _ _ (by omega) (by rw [header]; omega), header,
      toNat_widened _ (by omega)]
    omega

/-- Frames with one identifier agree in what it carries. -/
theorem canId_inj {f g : H9Frame} (same : f.canId = g.canId) :
    f.type.toNat % 2 ^ 5 = g.type.toNat % 2 ^ 5 ∧ f.sourceId = g.sourceId ∧
      f.addressValue = g.addressValue := by
  have left := canId_toNat f
  have right := canId_toNat g
  have address := f.addressValue_lt
  have address' := g.addressValue_lt
  have source := f.sourceId.isLt
  have source' := g.sourceId.isLt
  rw [same, right] at left
  refine ⟨?_, BitVec.eq_of_toNat_eq ?_, ?_⟩ <;> omega

theorem canId_lt (f : H9Frame) : f.canId.toNat < 2 ^ 29 := by
  have source := f.sourceId.isLt
  have address := f.addressValue_lt
  rw [canId_toNat]
  omega

/-- The fields that an identifier sets, as the digits of a number. A field that the layout of the
number's type does not have keeps its previous content. -/
structure Addressed (before : H9Frame) (id : ℕ) (f : H9Frame) : Prop where
  type : f.type.toNat = id / 2 ^ 24 % 2 ^ 5
  sourceId : f.sourceId.toNat = id / 2 ^ 16 % 2 ^ 8
  flags : f.flags.toNat = if f.isUnicast then id / 2 ^ 13 % 2 ^ 3 else before.flags.toNat
  destinationId :
    f.destinationId.toNat = if f.isUnicast then id / 2 ^ 5 % 2 ^ 8 else before.destinationId.toNat
  seqnum : f.seqnum.toNat = if f.isUnicast then id % 2 ^ 5 else before.seqnum.toNat
  group : f.group.toNat = if f.isUnicast then before.group.toNat else id % 2 ^ 16

private theorem slice_narrow (x : BitVec 32) (k n m : ℕ) (fits : n ≤ m) (bound : n < 32) :
    ((x >>> k &&& lowMask 32 n).setWidth m).toNat = x.toNat / 2 ^ k % 2 ^ n := by
  have digit := toNat_slice x k bound
  have small : x.toNat / 2 ^ k % 2 ^ n < 2 ^ n := Nat.mod_lt _ (Nat.two_pow_pos n)
  have room : 2 ^ n ≤ 2 ^ m := Nat.pow_le_pow_right (by omega) fits
  rw [BitVec.toNat_setWidth, digit, Nat.mod_eq_of_lt (by omega)]

/-- The word-wise decoder reads every field off the number. -/
theorem addressed_setCanId (f : H9Frame) (w : BitVec 32) :
    Addressed f w.toNat (f.setCanId w) := by
  have type := slice_narrow w 24 5 8 (by omega) (by omega)
  have source := slice_narrow w 16 8 8 (by omega) (by omega)
  have flags := slice_narrow w 13 3 8 (by omega) (by omega)
  have destination := slice_narrow w 5 8 8 (by omega) (by omega)
  have seqnum := slice_narrow w 0 5 8 (by omega) (by omega)
  have group := slice_narrow w 0 16 16 (by omega) (by omega)
  rw [Nat.pow_zero, Nat.div_one] at seqnum group
  rw [BitVec.ushiftRight_zero] at group
  unfold setCanId
  dsimp only
  split
  · next unicast =>
    have unicast' := unicast
    unfold isUnicast at unicast'
    constructor <;> simp only [isUnicast, unicast', if_true]
    · exact type
    · exact source
    · exact flags
    · exact destination
    · exact seqnum
  · next broadcast =>
    have broadcast' := broadcast
    unfold isUnicast at broadcast'
    constructor <;> simp only [isUnicast, broadcast', if_false, Bool.false_eq_true]
    · exact type
    · exact source
    · exact group

/-- Eight bytes of data are kept. -/
theorem listed_setData (f : H9Frame) (bytes : List Byte) : (f.setData bytes).listed = bytes.take 8 := by
  have counted : (f.setData bytes).dlc.toNat = min bytes.length 8 := by
    change (BitVec.ofNat 8 (min bytes.length 8)).toNat = _
    rw [BitVec.toNat_ofNat]
    omega
  apply List.ext_getElem
  · rw [listed, List.length_take, List.length_ofFn, List.length_take, counted]
    omega
  · intro i inside _
    rw [listed, List.length_take, counted] at inside
    have given : i < bytes.length := by omega
    simp only [listed, List.getElem_take, List.getElem_ofFn]
    change bytes.getD i _ = _
    rw [List.getD_eq_getElem _ _ given]

/-- The first four serialized bytes as a big-endian number. -/
def bigEndian (b : Fin SERIALIZATION_LENGTH → Byte) : ℕ :=
  (((b 0).toNat * 2 ^ 8 + (b 1).toNat) * 2 ^ 8 + (b 2).toNat) * 2 ^ 8 + (b 3).toNat

private theorem split_destination (high low : Byte) :
    ((high.setWidth 32 <<< 3 ||| low.setWidth 32 >>> 5).setWidth 8).toNat =
      (high.toNat * 2 ^ 8 + low.toNat) / 2 ^ 5 % 2 ^ 8 := by
  have highBound := high.isLt
  have lowBound := low.isLt
  have wide := toNat_widened high (by omega)
  have shifted : (low.setWidth 32 >>> 5).toNat = low.toNat / 2 ^ 5 := by
    rw [BitVec.toNat_ushiftRight, toNat_widened _ (by omega), Nat.shiftRight_eq_div_pow]
  rw [BitVec.toNat_setWidth,
    toNat_append_digit _ _ _ (by rw [wide]; omega) (by rw [shifted]; omega), wide, shifted]
  omega

private theorem joined_group (high low : Byte) :
    ((high.setWidth 32 <<< 8 ||| low.setWidth 32).setWidth 16).toNat =
      high.toNat * 2 ^ 8 + low.toNat := by
  have highBound := high.isLt
  have lowBound := low.isLt
  have wideHigh := toNat_widened high (by omega)
  have wideLow := toNat_widened low (by omega)
  rw [BitVec.toNat_setWidth, toNat_append_digit _ _ _ (by rw [wideHigh]; omega)
    (by rw [wideLow]; omega), wideHigh, wideLow]
  omega

/-- The byte-wise decoder reads the same digits, although it cuts the identifier differently. -/
theorem addressed_deserializeBytes (f : H9Frame) (origin : String)
    (b : Fin SERIALIZATION_LENGTH → Byte) :
    Addressed f (bigEndian b) (f.deserializeBytes origin b) := by
  have b0 := (b 0).isLt
  have b1 := (b 1).isLt
  have b2 := (b 2).isLt
  have b3 := (b 3).isLt
  have type : (b 0 &&& lowMask 8 5).toNat = bigEndian b / 2 ^ 24 % 2 ^ 5 := by
    rw [toNat_and_lowMask _ (by omega), bigEndian]
    omega
  have source : (((b 1).setWidth 32 &&& lowMask 32 8).setWidth 8).toNat =
      bigEndian b / 2 ^ 16 % 2 ^ 8 := by
    rw [BitVec.toNat_setWidth, toNat_and_lowMask _ (by omega), toNat_widened _ (by omega), bigEndian]
    omega
  have flags : (b 2 >>> 5 &&& lowMask 8 3).toNat = bigEndian b / 2 ^ 13 % 2 ^ 3 := by
    rw [toNat_slice _ _ (by omega), bigEndian]
    omega
  have destination : (((b 2).setWidth 32 <<< 3 ||| (b 3).setWidth 32 >>> 5).setWidth 8).toNat =
      bigEndian b / 2 ^ 5 % 2 ^ 8 := by
    rw [split_destination, bigEndian]
    omega
  have seqnum : (b 3 &&& lowMask 8 5).toNat = bigEndian b % 2 ^ 5 := by
    rw [toNat_and_lowMask _ (by omega), bigEndian]
    omega
  have group : (((b 2).setWidth 32 <<< 8 ||| (b 3).setWidth 32).setWidth 16).toNat =
      bigEndian b % 2 ^ 16 := by
    rw [joined_group, bigEndian]
    omega
  unfold deserializeBytes
  dsimp only
  split
  · next unicast =>
    have unicast' := unicast
    unfold isUnicast at unicast'
    constructor <;> simp only [isUnicast, unicast', if_true]
    · exact type
    · exact source
    · exact flags
    · exact destination
    · exact seqnum
  · next broadcast =>
    have broadcast' := broadcast
    unfold isUnicast at broadcast'
    constructor <;> simp only [isUnicast, broadcast', if_false, Bool.false_eq_true]
    · exact type
    · exact source
    · exact group

section Recovered

variable {before f g : H9Frame} {id : ℕ}

theorem isUnicast_congr (same : f.type = g.type) : f.isUnicast = g.isUnicast := by
  rw [isUnicast, isUnicast, same]

/-- Members decoded from one number agree. -/
theorem Addressed.unique (left : Addressed before id f) (right : Addressed before id g) :
    f.type = g.type ∧ f.sourceId = g.sourceId ∧ f.flags = g.flags ∧
      f.destinationId = g.destinationId ∧ f.seqnum = g.seqnum ∧ f.group = g.group := by
  have type : f.type = g.type := BitVec.eq_of_toNat_eq (left.type.trans right.type.symm)
  have layout := isUnicast_congr type
  refine ⟨type, ?_, ?_, ?_, ?_, ?_⟩ <;> apply BitVec.eq_of_toNat_eq
  · exact left.sourceId.trans right.sourceId.symm
  · rw [left.flags, right.flags, layout]
  · rw [left.destinationId, right.destinationId, layout]
  · rw [left.seqnum, right.seqnum, layout]
  · rw [left.group, right.group, layout]

/-- Encoding what was decoded keeps the low 29 bits. -/
theorem Addressed.canId (decoded : Addressed before id f) : f.canId.toNat = id % 2 ^ 29 := by
  have type := decoded.type
  have source := decoded.sourceId
  rw [canId_toNat, addressValue, type, source]
  by_cases unicast : f.isUnicast = true
  · have flags := decoded.flags
    have destination := decoded.destinationId
    have seqnum := decoded.seqnum
    rw [if_pos unicast] at flags destination seqnum ⊢
    omega
  · have group := decoded.group
    rw [if_neg unicast] at group ⊢
    omega

/-- Members that fit their fields are the digits of the identifier. -/
theorem Addressed.recover (decoded : Addressed before f.canId.toNat g)
    (type : f.type.toNat < 32) (flags : f.flags.toNat < 8) (seqnum : f.seqnum.toNat < 32) :
    g.type = f.type ∧ g.sourceId = f.sourceId ∧
      (f.isUnicast = true →
        g.flags = f.flags ∧ g.destinationId = f.destinationId ∧ g.seqnum = f.seqnum) ∧
      (f.isUnicast = false → g.group = f.group) := by
  have source := f.sourceId.isLt
  have destination := f.destinationId.isLt
  have group := f.group.isLt
  have address := f.addressValue_lt
  have number := f.canId_toNat
  have sameType : g.type = f.type := BitVec.eq_of_toNat_eq (by rw [decoded.type]; omega)
  have layout := isUnicast_congr sameType
  refine ⟨sameType, BitVec.eq_of_toNat_eq (by rw [decoded.sourceId]; omega), ?_, ?_⟩
  · intro unicast
    rw [addressValue, if_pos unicast] at number
    rw [← layout] at unicast
    refine ⟨?_, ?_, ?_⟩ <;> apply BitVec.eq_of_toNat_eq
    · rw [decoded.flags, if_pos unicast]; omega
    · rw [decoded.destinationId, if_pos unicast]; omega
    · rw [decoded.seqnum, if_pos unicast]; omega
  · intro broadcast
    rw [addressValue, broadcast, if_neg Bool.false_ne_true] at number
    rw [← layout] at broadcast
    apply BitVec.eq_of_toNat_eq
    rw [decoded.group, broadcast, if_neg Bool.false_ne_true]
    omega

end Recovered

private theorem serialize_byte (w : BitVec 32) (k : ℕ) :
    ((w >>> k &&& 0xff#32).setWidth 8).toNat = w.toNat / 2 ^ k % 2 ^ 8 :=
  slice_narrow w k 8 8 (by omega) (by omega)

theorem serialize_zero (f : H9Frame) : (f.serialize 0).toNat = f.canId.toNat / 2 ^ 24 % 2 ^ 8 :=
  serialize_byte f.canId 24

theorem serialize_one (f : H9Frame) : (f.serialize 1).toNat = f.canId.toNat / 2 ^ 16 % 2 ^ 8 :=
  serialize_byte f.canId 16

theorem serialize_two (f : H9Frame) : (f.serialize 2).toNat = f.canId.toNat / 2 ^ 8 % 2 ^ 8 :=
  serialize_byte f.canId 8

theorem serialize_three (f : H9Frame) : (f.serialize 3).toNat = f.canId.toNat % 2 ^ 8 := by
  have byte := serialize_byte f.canId 0
  rwa [BitVec.ushiftRight_zero, Nat.pow_zero, Nat.div_one] at byte

/-- The serialized identifier is big-endian. -/
theorem bigEndian_serialize (f : H9Frame) : bigEndian f.serialize = f.canId.toNat := by
  have bound := f.canId_lt
  rw [bigEndian, serialize_zero, serialize_one, serialize_two, serialize_three]
  omega

theorem deserializeBytes_dlc (f : H9Frame) (origin : String)
    (b : Fin SERIALIZATION_LENGTH → Byte) :
    (f.deserializeBytes origin b).dlc.toNat = min (b 4).toNat 8 := by
  change (if (b 4).ult 8 then b 4 else 8).toNat = _
  split
  · next short =>
    rw [BitVec.ult_iff_lt, BitVec.lt_def] at short
    change (b 4).toNat < 8 at short
    omega
  · next long =>
    rw [BitVec.ult_iff_lt, BitVec.lt_def] at long
    change ¬ (b 4).toNat < 8 at long
    change 8 = _
    omega

theorem deserializeBytes_data (f : H9Frame) (origin : String)
    (b : Fin SERIALIZATION_LENGTH → Byte) (i : Fin 8) :
    (f.deserializeBytes origin b).data i = b ⟨i + 5, Nat.add_lt_add_right i.isLt 5⟩ := by
  fin_cases i <;> rfl

theorem serialize_data (f : H9Frame) (i : Fin 8) :
    f.serialize ⟨i + 5, Nat.add_lt_add_right i.isLt 5⟩ = f.data i := by
  fin_cases i <;> rfl

/-- What a decoder gives back of an encoded frame. The layout of the type decides which of the
addressing members are on the wire. -/
def RecoveredFrom (f g : H9Frame) : Prop :=
  g.type = f.type ∧ g.sourceId = f.sourceId ∧ g.dlc = f.dlc ∧ g.data = f.data ∧
    (f.isUnicast = true →
      g.flags = f.flags ∧ g.destinationId = f.destinationId ∧ g.seqnum = f.seqnum) ∧
    (f.isUnicast = false → g.group = f.group)

/-- The members that decide where a frame goes and what it answers. -/
def SameAddressing (f g : H9Frame) : Prop :=
  f.type = g.type ∧ f.sourceId = g.sourceId ∧ f.flags = g.flags ∧
    f.destinationId = g.destinationId ∧ f.seqnum = g.seqnum ∧ f.group = g.group

/-- The buffer that every other buffer of the same frame serializes to. -/
def canonicalBytes (b : Fin SERIALIZATION_LENGTH → Byte) : Fin SERIALIZATION_LENGTH → Byte :=
  fun i =>
    if i = 0 then b 0 &&& 0x1f#8
    else if i = 4 then BitVec.ofNat 8 (min (b 4).toNat 8)
    else b i

theorem recovered_deserializeBytes (f before : H9Frame) (origin : String)
    (type : f.type.toNat < 32) (flags : f.flags.toNat < 8) (seqnum : f.seqnum.toNat < 32)
    (dlc : f.dlc.toNat ≤ 8) : RecoveredFrom f (before.deserializeBytes origin f.serialize) := by
  have decoded := addressed_deserializeBytes before origin f.serialize
  rw [bigEndian_serialize] at decoded
  obtain ⟨sameType, sameSource, unicast, broadcast⟩ := decoded.recover type flags seqnum
  refine ⟨sameType, sameSource, ?_, ?_, unicast, broadcast⟩
  · apply BitVec.eq_of_toNat_eq
    rw [deserializeBytes_dlc]
    change min f.dlc.toNat 8 = f.dlc.toNat
    omega
  · funext i
    rw [deserializeBytes_data, serialize_data]

theorem recovered_deserialize (f before : H9Frame) (origin : String)
    (type : f.type.toNat < 32) (flags : f.flags.toNat < 8) (seqnum : f.seqnum.toNat < 32) :
    RecoveredFrom f (before.deserialize origin f.canId f.dlc f.data) := by
  have decoded := addressed_setCanId { before with origin } f.canId
  obtain ⟨sameType, sameSource, unicast, broadcast⟩ := decoded.recover type flags seqnum
  exact ⟨sameType, sameSource, rfl, rfl, unicast, broadcast⟩

theorem serialize_deserializeBytes (before : H9Frame) (origin : String)
    (b : Fin SERIALIZATION_LENGTH → Byte) :
    (before.deserializeBytes origin b).serialize = canonicalBytes b := by
  have number := (addressed_deserializeBytes before origin b).canId
  have b0 := (b 0).isLt
  have b1 := (b 1).isLt
  have b2 := (b 2).isLt
  have b3 := (b 3).isLt
  have masked : (b 0 &&& 0x1f#8).toNat = (b 0).toNat % 2 ^ 5 :=
    toNat_and_lowMask (n := 5) (b 0) (by omega)
  unfold bigEndian at number
  funext i
  apply BitVec.eq_of_toNat_eq
  fin_cases i
  · change (serialize _ 0).toNat = (b 0 &&& 0x1f#8).toNat
    rw [serialize_zero, number, masked]
    omega
  · change (serialize _ 1).toNat = (b 1).toNat
    rw [serialize_one, number]
    omega
  · change (serialize _ 2).toNat = (b 2).toNat
    rw [serialize_two, number]
    omega
  · change (serialize _ 3).toNat = (b 3).toNat
    rw [serialize_three, number]
    omega
  · change (before.deserializeBytes origin b).dlc.toNat = (BitVec.ofNat 8 (min (b 4).toNat 8)).toNat
    rw [deserializeBytes_dlc, BitVec.toNat_ofNat]
    omega
  all_goals rfl

/-- The two codecs are mutual inverses on the bits they carry, and they agree. -/
theorem codecs_inverse_and_agree :
    (∀ (f before : H9Frame) (origin : String), f.type.toNat < 32 → f.flags.toNat < 8 →
      f.seqnum.toNat < 32 → f.dlc.toNat ≤ 8 →
        RecoveredFrom f (before.deserializeBytes origin f.serialize) ∧
        RecoveredFrom f (before.deserialize origin f.canId f.dlc f.data)) ∧
    (∀ (before : H9Frame) (origin : String) (b : Fin SERIALIZATION_LENGTH → Byte),
      (before.deserializeBytes origin b).serialize = canonicalBytes b) ∧
    (∀ (before : H9Frame) (w : BitVec 32), (before.setCanId w).canId.toNat = w.toNat % 2 ^ 29) ∧
    (∀ (before : H9Frame) (origin : String) (b : Fin SERIALIZATION_LENGTH → Byte),
      SameAddressing (before.deserializeBytes origin b)
        (before.setCanId (b 0 ++ b 1 ++ b 2 ++ b 3))) := by
  refine ⟨?_, serialize_deserializeBytes, ?_, ?_⟩
  · intro f before origin type flags seqnum dlc
    exact ⟨recovered_deserializeBytes f before origin type flags seqnum dlc,
      recovered_deserialize f before origin type flags seqnum⟩
  · intro before w
    exact (addressed_setCanId before w).canId
  · intro before origin b
    have words := addressed_setCanId before (b 0 ++ b 1 ++ b 2 ++ b 3)
    have number : (b 0 ++ b 1 ++ b 2 ++ b 3).toNat = bigEndian b := by
      rw [toNat_append, toNat_append, toNat_append, bigEndian]
    rw [number] at words
    exact (addressed_deserializeBytes before origin b).unique words

/-- A register write to node 7 survives both codecs. -/
theorem codecs_inverse_and_agree_setReg :
    let f : H9Frame := { (default : H9Frame) with
      type := FrameType.SET_REG
      sourceId := 0xff
      flags := 1
      destinationId := 7
      seqnum := 31
      dlc := 2
      data := ![5, 42, 0, 0, 0, 0, 0, 0] }
    RecoveredFrom f ((default : H9Frame).deserializeBytes "can0" f.serialize) ∧
      RecoveredFrom f ((default : H9Frame).deserialize "can0" f.canId f.dlc f.data) :=
  codecs_inverse_and_agree.1 _ default "can0" (by decide) (by decide) (by decide) (by decide)

end H9d.H9Frame
