import H9d.Model.DevStates
import H9d.Soundness.FrameCodec
import Mathlib.Data.List.TakeDrop

/-! # The bytes that a frame carries

A received frame holds eight bytes of data, of which its length counts some; the others are what the driver left
there. Two frames that differ in those only are one frame to a reader that reads no more than was carried. The
string of a register is read up to a zero byte, an ATU is told of by four bytes, and the type of a node is in the
first two.
-/

namespace H9d

open Cxx Nlohmann H9Frame

namespace H9Frame

/-- Two frames of which the bus carries the same. -/
structure SameCarried (f g : H9Frame) : Prop where
  type : f.type = g.type
  canId : f.canId = g.canId
  dlc : f.dlc = g.dlc
  listed : f.listed = g.listed

/-- The frame with other bytes after those that it carries. -/
def pad (f : H9Frame) (rest : Fin 8 → Byte) : H9Frame :=
  { f with data := fun i => if i.val < f.dlc.toNat then f.data i else rest i }

section Carried

variable {f g : H9Frame} {rest : Fin 8 → Byte}

theorem SameCarried.refl (f : H9Frame) : SameCarried f f := ⟨rfl, rfl, rfl, rfl⟩

/-- The type of a received frame comes with its identifier. -/
theorem sameCarried_of_received (received : f.type.toNat < 2 ^ TYPE_BIT_LENGTH)
    (received' : g.type.toNat < 2 ^ TYPE_BIT_LENGTH) (canId : f.canId = g.canId) (dlc : f.dlc = g.dlc)
    (listed : f.listed = g.listed) : SameCarried f g := by
  refine ⟨BitVec.eq_of_toNat_eq ?_, canId, dlc, listed⟩
  have digits := (canId_inj canId).1
  rwa [Nat.mod_eq_of_lt received, Nat.mod_eq_of_lt received'] at digits

theorem SameCarried.sourceId (same : SameCarried f g) : f.sourceId = g.sourceId := (canId_inj same.canId).2.1

theorem listed_getElem? (f : H9Frame) {i : Fin 8} (carried : i.val < f.dlc.toNat) :
    f.listed[i.val]? = some (f.data i) := by
  rw [listed, List.getElem?_take_of_lt carried, List.getElem?_ofFn, dif_pos i.isLt]

theorem SameCarried.data (same : SameCarried f g) {i : Fin 8} (carried : i.val < f.dlc.toNat) :
    f.data i = g.data i := by
  have left := listed_getElem? f carried
  rw [same.listed, listed_getElem? g (same.dlc ▸ carried)] at left
  exact (Option.some.inj left).symm

theorem SameCarried.data_eq (same : SameCarried f g) (whole : 8 ≤ f.dlc.toNat) : f.data = g.data := by
  funext i
  exact same.data (by omega)

theorem listed_congr (dlc : f.dlc = g.dlc) (same : ∀ i : Fin 8, i.val < f.dlc.toNat → f.data i = g.data i) :
    f.listed = g.listed := by
  apply List.ext_getElem
  · rw [listed, listed, List.length_take, List.length_take, List.length_ofFn, List.length_ofFn, dlc]
  · intro i inside _
    rw [listed, List.length_take, List.length_ofFn] at inside
    simp only [listed, List.getElem_take, List.getElem_ofFn]
    exact same ⟨i, by omega⟩ (by dsimp only; omega)

/-- What two drivers make of one message. -/
theorem sameCarried_deserialize (before before' : H9Frame) (origin origin' : String) (canId : BitVec 32)
    (dlc : Byte) {data data' : Fin 8 → Byte} (same : ∀ i : Fin 8, i.val < dlc.toNat → data i = data' i) :
    SameCarried (before.deserialize origin canId dlc data) (before'.deserialize origin' canId dlc data') := by
  have decoded := addressed_setCanId { before with origin } canId
  have decoded' := addressed_setCanId { before' with origin := origin' } canId
  refine sameCarried_of_received ?_ ?_ ?_ rfl (listed_congr rfl same)
  · exact decoded.type.trans_lt (Nat.mod_lt _ (by decide))
  · exact decoded'.type.trans_lt (Nat.mod_lt _ (by decide))
  · exact BitVec.eq_of_toNat_eq (decoded.canId.trans decoded'.canId.symm)

theorem sameCarried_pad (f : H9Frame) (rest : Fin 8 → Byte) : SameCarried f (f.pad rest) :=
  ⟨rfl, rfl, rfl, listed_congr rfl fun _ carried => (if_pos carried).symm⟩

theorem pad_data {i : Fin 8} (missing : f.dlc.toNat ≤ i.val) : (f.pad rest).data i = rest i :=
  if_neg (Nat.not_lt.mpr missing)

theorem pad_data_of_lt {i : Fin 8} (carried : i.val < f.dlc.toNat) : (f.pad rest).data i = f.data i :=
  if_pos carried

theorem tail_listed (f : H9Frame) : f.listed.tail = (List.ofFn f.data).tail.take (f.dlc.toNat - 1) :=
  List.tail_take_eq_take_tail _ _

theorem mem_tail_ofFn {d : Fin 8 → Byte} {b : Byte} : b ∈ (List.ofFn d).tail ↔ ∃ i : Fin 7, d i.succ = b := by
  rw [List.ofFn_succ, List.tail_cons, List.mem_ofFn]

theorem mem_tail_listed {i : Fin 7} (carried : i.succ.val < f.dlc.toNat) : f.data i.succ ∈ f.listed.tail := by
  refine List.mem_of_getElem? (i := i.val) ?_
  rw [List.getElem?_tail]
  exact listed_getElem? f carried

theorem SameCarried.valueBytes (same : SameCarried f g) :
    (List.ofFn f.data).tail.take (g.dlc.toNat - 1) = (List.ofFn g.data).tail.take (g.dlc.toNat - 1) := by
  rw [← tail_listed, ← same.listed, tail_listed, same.dlc]

end Carried

end H9Frame

namespace Node

/-- The string of a register ends in what the frame carries. -/
def Terminated (n : Node) (f : H9Frame) : Prop :=
  2 ≤ f.dlc.toNat → ∀ desc, n.registerMap (f.data 0) = some desc → desc.type = "str" →
    8 ≤ f.dlc.toNat ∨ 0 ∈ f.listed.tail

section Registers

variable {n : Node} {f g : H9Frame} {value : RegValue}

theorem Terminated.zero_mem (terminated : n.Terminated f) (same : SameCarried f g) (long : 2 ≤ f.dlc.toNat)
    {desc : RegisterDesc} (found : n.registerMap (f.data 0) = some desc) (string : desc.type = "str") :
    0 ∈ (List.ofFn f.data).tail ↔ 0 ∈ (List.ofFn g.data).tail := by
  rcases terminated long desc found string with whole | zero
  · rw [same.data_eq whole]
  · have zero' := zero
    rw [same.listed, tail_listed] at zero'
    rw [tail_listed] at zero
    exact iff_of_true (List.mem_of_mem_take zero) (List.mem_of_mem_take zero')

theorem getRegValueFromFrame_same (same : SameCarried f g) (terminated : n.Terminated f) :
    n.getRegValueFromFrame f value = n.getRegValueFromFrame g value := by
  rw [getRegValueFromFrame, getRegValueFromFrame, same.type, same.dlc]
  split
  · split
    · rfl
    · next long =>
      have long' : 2 ≤ f.dlc.toNat := by rw [same.dlc]; omega
      have reg : f.data 0 = g.data 0 := same.data (Nat.zero_lt_of_lt long')
      dsimp only
      rw [reg]
      cases found : n.registerMap (g.data 0) with
      | none => rfl
      | some desc =>
        dsimp only
        split
        · split
          · split
            · rfl
            · next size =>
              rw [← not_not.mp size, same.valueBytes]
          · split
            · rfl
            · split
              · rfl
              · rw [same.valueBytes]
        · next string =>
          have zero := terminated.zero_mem same long' (reg ▸ found) (not_not.mp string)
          simp only [zero, List.take_takeWhile, same.valueBytes]
  · rfl

theorem getRegValueFromFrame_string (isValue : f.type = FrameType.REG_VALUE ∨ f.type = FrameType.REG_VALUE_BROADCAST)
    (long : 2 ≤ f.dlc.toNat) {desc : RegisterDesc} (found : n.registerMap (f.data 0) = some desc)
    (string : desc.type = "str") :
    n.getRegValueFromFrame f value = .undefined ↔ 0 ∉ (List.ofFn f.data).tail := by
  rw [getRegValueFromFrame, if_pos isValue, if_neg (Nat.not_lt.mpr long)]
  dsimp only
  rw [found]
  dsimp only
  rw [if_neg (not_not.mpr string)]
  split
  · next unterminated => exact iff_of_true rfl unterminated
  · next terminated =>
    refine iff_of_false ?_ terminated
    split <;> nofun

/-- Without a zero byte in what is carried, a string has an end or not with the bytes after it. -/
theorem terminated_of_pad (isValue : f.type = FrameType.REG_VALUE ∨ f.type = FrameType.REG_VALUE_BROADCAST)
    (alike : ∀ rest, n.getRegValueFromFrame f value = n.getRegValueFromFrame (f.pad rest) value) :
    n.Terminated f := by
  intro long desc found string
  by_contra unmet
  obtain ⟨short, unterminated⟩ := not_or.mp unmet
  have equal := (alike fun _ => 0).symm.trans (alike fun _ => 1)
  have string_pad (rest : Fin 8 → Byte) :
      n.getRegValueFromFrame (f.pad rest) value = .undefined ↔ 0 ∉ (List.ofFn (f.pad rest).data).tail := by
    have reg : (f.pad rest).data 0 = f.data 0 := pad_data_of_lt (Nat.zero_lt_of_lt long)
    exact getRegValueFromFrame_string isValue long (reg ▸ found) string
  have ends : 0 ∈ (List.ofFn (f.pad fun _ => 0).data).tail :=
    mem_tail_ofFn.mpr ⟨6, pad_data (by change f.dlc.toNat ≤ 7; omega)⟩
  have goesOn : 0 ∉ (List.ofFn (f.pad fun _ => 1).data).tail := by
    intro zero
    obtain ⟨i, zero⟩ := mem_tail_ofFn.mp zero
    rcases Nat.lt_or_ge i.succ.val f.dlc.toNat with carried | missing
    · rw [pad_data_of_lt carried] at zero
      exact unterminated (zero ▸ mem_tail_listed carried)
    · rw [pad_data missing] at zero
      cases zero
  exact (string_pad _).mp (equal.trans ((string_pad _).mpr goesOn)) ends

end Registers

end Node

namespace Dev

/-- The device learns of the frame no more than it carries. -/
structure Informed (m : NodeMgr) (nodeId : BitVec 16) (f : H9Frame) (d : Dev) : Prop where
  info : f.type = FrameType.NODE_INFO ∨ f.type = FrameType.NODE_TURNED_ON →
    ∀ switch controller selected, d.kind = .antennaSwitch switch controller selected →
      2 ≤ f.dlc.toNat ∨ (1 ≤ f.dlc.toNat ∧ f.data 0 ≠ 0) ∨ (switch = nodeId ∧ controller = nodeId)
  register : f.type = FrameType.REG_VALUE ∨ f.type = FrameType.REG_VALUE_BROADCAST →
    ∀ n, (m.nodeAt nodeId : Outcome DevNodeException (Option Node)) = .value (some n) → n.Terminated f
  bulk : f.type = FrameType.NODE_SPECIFIC_BROADCAST0 → ∀ atuId, d.kind = .atu atuId → 4 ≤ f.dlc.toNat

section Updates

variable {m : NodeMgr} {nodeId : BitVec 16} {f g : H9Frame} {d next : Dev}

theorem outcome_getRegValueFromFrame (m : NodeMgr) (nodeId : BitVec 16) (f : H9Frame) (value : RegValue) :
    (m.getRegValueFromFrame nodeId f value).outcome [] = m.nodeAt nodeId >>= fun
      | some n => n.getRegValueFromFrame f value
      | none => .throws .nodeNotExistException := by
  rw [NodeMgr.getRegValueFromFrame, NodeMgr.withNode]
  change (Call.bind _ _ _).1 = _
  rw [Call.bind, Call.outcome_ofOutcome]
  cases (m.nodeAt nodeId : Outcome DevNodeException (Option Node)) with
  | value entry => cases entry <;> rfl
  | throws e => rfl
  | undefined => rfl

theorem Informed.reading (informed : d.Informed m nodeId f) (same : SameCarried f g) :
    reading m nodeId f = reading m nodeId g := by
  rw [Dev.reading, Dev.reading, same.type]
  split
  · next isValue =>
    rw [outcome_getRegValueFromFrame, outcome_getRegValueFromFrame]
    cases found : (m.nodeAt nodeId : Outcome DevNodeException (Option Node)) with
    | value entry =>
      cases entry with
      | none => rfl
      | some n =>
        have terminated := informed.register (same.type ▸ isValue) n found
        exact congrArg (fun x => [x]) (Node.getRegValueFromFrame_same same terminated)
    | throws e => rfl
    | undefined => rfl
  · rfl

/-- A register value comes in two bytes at least. -/
theorem long_of_value {reg : Byte} {value value' : RegValue}
    (isValue : f.type = FrameType.REG_VALUE ∨ f.type = FrameType.REG_VALUE_BROADCAST)
    (decoded : (m.getRegValueFromFrame nodeId f value).outcome [] = .value (reg, value')) : 2 ≤ f.dlc.toNat := by
  rw [outcome_getRegValueFromFrame] at decoded
  obtain ⟨entry, -, decoded⟩ := Outcome.bind_eq_value.mp decoded
  cases entry with
  | none => cases decoded
  | some n =>
    dsimp only at decoded
    rw [Node.getRegValueFromFrame, if_pos isValue] at decoded
    split at decoded
    · cases decoded
    · next long => exact Nat.le_of_not_lt long

/-- The types that an antenna switch looks for are small numbers. -/
theorem onDevInfo_of_high {high : Byte} (other : high ≠ 0) (low : Byte) (switch controller : BitVec 16)
    (selected : Byte) :
    onDevInfo nodeId (high ++ low) (.antennaSwitch switch controller selected) =
      .antennaSwitch switch controller selected := by
  have switchType : high ++ low ≠ ANTENNA_SWITCH_NODE_TYPE := fun type =>
    other (Bits.append_inj.mp (type.trans (by decide : ANTENNA_SWITCH_NODE_TYPE = (0 : Byte) ++ (5 : Byte)))).1
  have controllerType : high ++ low ≠ ANTENNA_CONTROLLER_NODE_TYPE := fun type =>
    other (Bits.append_inj.mp (type.trans (by decide : ANTENNA_CONTROLLER_NODE_TYPE = (0 : Byte) ++ (3 : Byte)))).1
  rw [onDevInfo, if_neg switchType, if_neg controllerType]

theorem onDevInfo_self (type : BitVec 16) (selected : Byte) :
    onDevInfo nodeId type (.antennaSwitch nodeId nodeId selected) = .antennaSwitch nodeId nodeId selected := by
  rw [onDevInfo]
  split
  · rfl
  · split <;> rfl

theorem Informed.onDevInfo (informed : d.Informed m nodeId f) (same : SameCarried f g)
    (info : f.type = FrameType.NODE_INFO ∨ f.type = FrameType.NODE_TURNED_ON) :
    onDevInfo nodeId (f.data 0 ++ f.data 1) d.kind = onDevInfo nodeId (g.data 0 ++ g.data 1) d.kind := by
  cases kind : d.kind with
  | antennaSwitch switch controller selected =>
    rcases informed.info info switch controller selected kind with long | ⟨long, high⟩ | ⟨rfl, rfl⟩
    · rw [same.data (i := 0) (Nat.zero_lt_of_lt long), same.data (i := 1) long]
    · have high' : g.data 0 ≠ 0 := same.data (i := 0) long ▸ high
      rw [onDevInfo_of_high high, onDevInfo_of_high high']
    · rw [onDevInfo_self, onDevInfo_self]
  | atu atuId => rfl
  | powerSwitch switchId => rfl
  | thunderSwitch switchId => rfl

theorem Informed.updateDevState (informed : d.Informed m nodeId f) (same : SameCarried f g) :
    d.updateDevState m nodeId f = d.updateDevState m nodeId g := by
  have readings := informed.reading same
  rw [Dev.updateDevState, Dev.updateDevState, ← same.type]
  split
  · next info => rw [informed.onDevInfo same info]
  · split
    · next isValue =>
      rw [Dev.reading, Dev.reading, ← same.type, if_pos isValue, if_pos isValue] at readings
      have decoded := (List.cons.inj readings).1
      rw [← decoded]
      split
      · next reg value found =>
        have long := long_of_value isValue found
        rw [same.data (i := 0) (Nat.zero_lt_of_lt long)]
      · rfl
      · rfl
    · rfl

theorem Informed.emits (informed : d.Informed m nodeId f) (same : SameCarried f g) (next : Dev) :
    d.emits f next = d.emits g next := by
  rw [Dev.emits, Dev.emits, ← same.type]
  split
  · rfl
  · split
    · cases kind : d.kind with
      | atu atuId =>
        rw [onDevBulk, onDevBulk]
        split
        · next bulk =>
          have long := informed.bulk bulk atuId kind
          have carried (i : Fin 8) (small : i.val < 4) : f.data i = g.data i := same.data (small.trans_le long)
          dsimp only
          rw [carried 0 (by decide), carried 1 (by decide), carried 2 (by decide), carried 3 (by decide)]
        · rfl
      | antennaSwitch switch controller selected => rfl
      | powerSwitch switchId => rfl
      | thunderSwitch switchId => rfl
    · rfl

end Updates

section Padded

variable {m : NodeMgr} {nodeId : BitVec 16} {f : H9Frame} {d : Dev}

theorem reading_of_node (isValue : f.type = FrameType.REG_VALUE ∨ f.type = FrameType.REG_VALUE_BROADCAST) {n : Node}
    (found : (m.nodeAt nodeId : Outcome DevNodeException (Option Node)) = .value (some n)) :
    reading m nodeId f = [n.getRegValueFromFrame f (.string "")] := by
  rw [reading, if_pos isValue, outcome_getRegValueFromFrame, found]
  rfl

/-- The node types of an antenna switch and of its controller differ in the second byte. -/
theorem info_of_pad {switch controller : BitVec 16} {selected : Byte}
    (alike : ∀ rest, onDevInfo nodeId (f.data 0 ++ f.data 1) (.antennaSwitch switch controller selected) =
      onDevInfo nodeId ((f.pad rest).data 0 ++ (f.pad rest).data 1) (.antennaSwitch switch controller selected)) :
    2 ≤ f.dlc.toNat ∨ (1 ≤ f.dlc.toNat ∧ f.data 0 ≠ 0) ∨ (switch = nodeId ∧ controller = nodeId) := by
  by_contra unmet
  obtain ⟨short, unmet⟩ := not_or.mp unmet
  obtain ⟨high, other⟩ := not_or.mp unmet
  have told (low : Byte) : onDevInfo nodeId (f.data 0 ++ f.data 1) (.antennaSwitch switch controller selected) =
      onDevInfo nodeId ((0 : Byte) ++ low) (.antennaSwitch switch controller selected) := by
    have same := alike fun i => if i = 0 then 0 else low
    have second : (f.pad fun i => if i = 0 then 0 else low).data 1 = low :=
      pad_data (by change f.dlc.toNat ≤ 1; omega)
    have first : (f.pad fun i => if i = 0 then 0 else low).data 0 = 0 := by
      rcases Nat.eq_zero_or_pos f.dlc.toNat with empty | one
      · exact pad_data (by rw [empty]; exact Nat.zero_le _)
      · exact (pad_data_of_lt one).trans (not_not.mp fun nonzero => high ⟨one, nonzero⟩)
    rwa [first, second] at same
  have neither : onDevInfo nodeId ((0 : Byte) ++ (0 : Byte)) (.antennaSwitch switch controller selected) =
      .antennaSwitch switch controller selected := by
    rw [onDevInfo, if_neg (by decide), if_neg (by decide)]
  have isSwitch : onDevInfo nodeId ((0 : Byte) ++ (5 : Byte)) (.antennaSwitch switch controller selected) =
      .antennaSwitch nodeId controller selected := by
    rw [onDevInfo, if_pos (by decide)]
  have isController : onDevInfo nodeId ((0 : Byte) ++ (3 : Byte)) (.antennaSwitch switch controller selected) =
      .antennaSwitch switch nodeId selected := by
    rw [onDevInfo, if_neg (by decide), if_pos (by decide)]
  have unchanged := (told 0).trans neither
  have one := unchanged.symm.trans ((told 5).trans isSwitch)
  have two := unchanged.symm.trans ((told 3).trans isController)
  exact other ⟨(Kind.antennaSwitch.inj one).1, (Kind.antennaSwitch.inj two).2.1⟩

theorem updateDevState_bulk (bulk : f.type = FrameType.NODE_SPECIFIC_BROADCAST0) :
    d.updateDevState m nodeId f = .value d := by
  rw [updateDevState, bulk, if_neg (by decide), if_neg (by decide)]

theorem emits_bulk (bulk : f.type = FrameType.NODE_SPECIFIC_BROADCAST0) {atuId : BitVec 16}
    (atu : d.kind = .atu atuId) (next : Dev) :
    d.emits f next =
      [.object [("pwr", .ofUInt16 (f.data 2 ++ f.data 3)), ("swr", .ofUInt16 (f.data 0 ++ f.data 1))]] := by
  rw [emits, bulk, if_neg (by decide), if_pos (by decide), atu, onDevBulk, if_pos rfl]

end Padded

end Dev

end H9d
