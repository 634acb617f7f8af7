import H9d.Model.CliCache
import Mathlib.Data.List.Basic

/-! # The cache and the last reply

Three of the four maps about a node are made anew from each reply. In the fourth, the numbers of the bits,
what the reply does not name stays, so it is right exactly where the reply names everything that is there.
-/

namespace H9d.CliCache

open Machine LabeledMachine Cxx

/-- The last bit of the name. -/
def Register.bitIndex (reg : Register) (name : String) : Option Byte :=
  (reg.bitsNames.zipIdx.reverse.find? (·.1 = name)).map fun bit => BitVec.ofNat 8 bit.2

section Reply

variable (reply : List Register) (number : Byte) (name : String)

/-- The number of the last register of the name. -/
def numberOf : Option (BitVec 16) :=
  (reply.reverse.find? (·.name = name)).map fun reg => reg.number.setWidth 16

def bitsOf : Option (List String) := (reply.find? (·.number = number)).map (·.bitsNames)

def bitOf : Option Byte := (reply.find? (·.number = number)).bind (·.bitIndex name)

end Reply

/-- A register that is listed is found under its number. -/
theorem find_number {registers : List Register} (distinct : (registers.map (·.number)).Nodup)
    {reg : Register} (member : reg ∈ registers) :
    registers.find? (·.number = reg.number) = some reg := by
  induction registers with
  | nil => cases member
  | cons first registers ih =>
    obtain ⟨fresh, distinct⟩ := List.nodup_cons.mp distinct
    rcases List.mem_cons.mp member with rfl | later
    · exact List.find?_cons_of_pos (by simp)
    · have apart : first.number ≠ reg.number := by
        intro same
        exact fresh (List.mem_map.mpr ⟨reg, later, same.symm⟩)
      rw [List.find?_cons_of_neg (by simpa using apart), ih distinct later]

/-- What a reply about a node adds to a cache. -/
structure Adds (c : CliCache) (nodeId : BitVec 16) (reply : List Register) (t : CliCache) : Prop where
  list : t.nodeRegistriesList.entry [] nodeId = c.nodeRegistriesList.entry [] nodeId ++ reply.map (·.name)
  number : ∀ name, t.registerNumber? nodeId name = (numberOf reply name).or (c.registerNumber? nodeId name)
  bits : ∀ number, t.nodeRegistriesBitsList.entry Map.empty nodeId number =
    (bitsOf reply number).or (c.nodeRegistriesBitsList.entry Map.empty nodeId number)
  bit : ∀ number name, t.bitNumber? nodeId number name =
    (bitOf reply number name).or (c.bitNumber? nodeId number name)

section Additions

variable {nodeId : BitVec 16} {number : Byte}

section Bits

variable (bits : List String) (m : Map (BitVec 16) (Map Byte (Map String Byte)))

/-- The bits of a register, the first with the index `k`. -/
theorem addBits_self (k : ℕ) (name : String) :
    ((bits.foldl (addBit nodeId number) (m, BitVec.ofNat 8 k)).1.entry Map.empty nodeId).entry Map.empty number
        name =
      (((bits.zipIdx k).reverse.find? (·.1 = name)).map fun bit => BitVec.ofNat 8 bit.2).or
        ((m.entry Map.empty nodeId).entry Map.empty number name) := by
  induction bits generalizing k m with
  | nil => rfl
  | cons bit bits ih =>
    have next : BitVec.ofNat 8 k + 1 = BitVec.ofNat 8 (k + 1) := (BitVec.ofNat_add k 1).symm
    rw [List.foldl_cons, addBit]
    dsimp only
    rw [next, ih, Map.entry_modify_self, Map.entry_modify_self, List.zipIdx_cons, List.reverse_cons,
      List.find?_append, Option.map_or, Option.or_assoc]
    congr 1
    by_cases same : name = bit
    · rw [same, Map.assign_self, List.find?_cons_of_pos (by simp)]
      rfl
    · rw [Map.assign_of_ne _ _ _ same, List.find?_cons_of_neg (by simpa using Ne.symm same)]
      rfl

theorem addBits_other {other : Byte} (apart : other ≠ number) (k : Byte) :
    (bits.foldl (addBit nodeId number) (m, k)).1.entry Map.empty nodeId other =
      m.entry Map.empty nodeId other := by
  induction bits generalizing k m with
  | nil => rfl
  | cons bit bits ih =>
    rw [List.foldl_cons, addBit]
    dsimp only
    rw [ih, Map.entry_modify_self, Map.modify_of_ne _ _ _ _ apart]

theorem addBits_node {other : BitVec 16} (apart : other ≠ nodeId) (k : Byte) :
    (bits.foldl (addBit nodeId number) (m, k)).1 other = m other := by
  induction bits generalizing k m with
  | nil => rfl
  | cons bit bits ih =>
    rw [List.foldl_cons, addBit]
    dsimp only
    rw [ih, Map.modify_of_ne _ _ _ _ apart]

end Bits

variable (c : CliCache) (reg : Register)

theorem addRegister_list : (addRegister nodeId c reg).nodeRegistriesList =
    c.nodeRegistriesList.modify [] nodeId fun names => names ++ [reg.name] := rfl

theorem addRegister_nameToNumber : (addRegister nodeId c reg).nodeRegistriesNameToNumber =
    c.nodeRegistriesNameToNumber.modify Map.empty nodeId fun numbers =>
      numbers.assign reg.name (reg.number.setWidth 16) := rfl

theorem addRegister_bitsList : (addRegister nodeId c reg).nodeRegistriesBitsList =
    c.nodeRegistriesBitsList.modify Map.empty nodeId fun lists => lists.assign reg.number reg.bitsNames := rfl

theorem addRegister_registerNumber (name : String) :
    (addRegister nodeId c reg).registerNumber? nodeId name =
      if name = reg.name then some (reg.number.setWidth 16) else c.registerNumber? nodeId name := by
  rw [registerNumber?, addRegister_nameToNumber, Map.entry_modify_self]
  split
  · next same => rw [same, Map.assign_self]
  · next apart => exact Map.assign_of_ne _ _ _ apart

theorem addRegister_bits (other : Byte) :
    (addRegister nodeId c reg).nodeRegistriesBitsList.entry Map.empty nodeId other =
      if other = reg.number then some reg.bitsNames
      else c.nodeRegistriesBitsList.entry Map.empty nodeId other := by
  rw [addRegister_bitsList, Map.entry_modify_self]
  split
  · next same => rw [same, Map.assign_self]
  · next apart => exact Map.assign_of_ne _ _ _ apart

theorem addRegister_bitNumber (other : Byte) (name : String) :
    (addRegister nodeId c reg).bitNumber? nodeId other name =
      if other = reg.number then (reg.bitIndex name).or (c.bitNumber? nodeId other name)
      else c.bitNumber? nodeId other name := by
  split
  · next same =>
    rw [same]
    exact addBits_self reg.bitsNames c.nodeRegistriesBitsNameToNumber 0 name
  · next apart =>
    have kept := @addBits_other nodeId reg.number reg.bitsNames c.nodeRegistriesBitsNameToNumber other apart 0
    exact congrArg (fun names => Option.getD names Map.empty name) kept

/-- The registers of a reply are added one after the other. -/
theorem adds_foldl (reply : List Register) (distinct : (reply.map (·.number)).Nodup) :
    Adds c nodeId reply (reply.foldl (addRegister nodeId) c) := by
  induction reply generalizing c with
  | nil => exact ⟨(List.append_nil _).symm, fun _ => rfl, fun _ => rfl, fun _ _ => rfl⟩
  | cons reg reply ih =>
    obtain ⟨fresh, distinct⟩ := List.nodup_cons.mp distinct
    obtain ⟨list, number, bits, bit⟩ := ih (addRegister nodeId c reg) distinct
    have unique : reply.find? (·.number = reg.number) = none := by
      rw [List.find?_eq_none]
      intro other member same
      exact fresh (List.mem_map.mpr ⟨other, member, of_decide_eq_true same⟩)
    refine ⟨?_, fun name => ?_, fun other => ?_, fun other name => ?_⟩
    · rw [List.foldl_cons, list, addRegister_list, Map.entry_modify_self, List.append_assoc]
      rfl
    · rw [List.foldl_cons, number, addRegister_registerNumber, numberOf, numberOf, List.reverse_cons,
        List.find?_append, Option.map_or, Option.or_assoc]
      congr 1
      split
      · next same =>
        rw [List.find?_cons_of_pos (by simpa using same.symm)]
        rfl
      · next apart =>
        rw [List.find?_cons_of_neg (by simpa using Ne.symm apart)]
        rfl
    · rw [List.foldl_cons, bits, addRegister_bits, bitsOf, bitsOf]
      split
      · next same =>
        rw [same, unique, List.find?_cons_of_pos (by simp)]
        rfl
      · next apart => rw [List.find?_cons_of_neg (by simpa using Ne.symm apart)]
    · rw [List.foldl_cons, bit, addRegister_bitNumber, bitOf, bitOf]
      split
      · next same =>
        rw [same, unique, List.find?_cons_of_pos (by simp)]
        rfl
      · next apart => rw [List.find?_cons_of_neg (by simpa using Ne.symm apart)]

theorem foldl_addRegister_node {other : BitVec 16} (apart : other ≠ nodeId) (reply : List Register) :
    (reply.foldl (addRegister nodeId) c).nodeRegistriesList other = c.nodeRegistriesList other ∧
      (reply.foldl (addRegister nodeId) c).nodeRegistriesNameToNumber other = c.nodeRegistriesNameToNumber other ∧
      (reply.foldl (addRegister nodeId) c).nodeRegistriesBitsList other = c.nodeRegistriesBitsList other ∧
      (reply.foldl (addRegister nodeId) c).nodeRegistriesBitsNameToNumber other =
        c.nodeRegistriesBitsNameToNumber other := by
  induction reply generalizing c with
  | nil => exact ⟨rfl, rfl, rfl, rfl⟩
  | cons reg reply ih =>
    obtain ⟨list, numbers, bits, bit⟩ := ih (addRegister nodeId c reg)
    rw [List.foldl_cons, list, numbers, bits, bit, addRegister_list, addRegister_nameToNumber, addRegister_bitsList]
    exact ⟨Map.modify_of_ne _ _ _ _ apart, Map.modify_of_ne _ _ _ _ apart, Map.modify_of_ne _ _ _ _ apart,
      addBits_node _ _ apart 0⟩

/-- The history and the presence of what was there do not change. -/
theorem foldl_addRegister_present (reply : List Register) :
    (reply.foldl (addRegister nodeId) c).reported = c.reported ∧
      ((c.nodeRegistriesList nodeId).isSome →
        ((reply.foldl (addRegister nodeId) c).nodeRegistriesList nodeId).isSome) ∧
      ((c.nodeRegistriesNameToNumber nodeId).isSome →
        ((reply.foldl (addRegister nodeId) c).nodeRegistriesNameToNumber nodeId).isSome) ∧
      ((c.nodeRegistriesBitsList nodeId).isSome →
        ((reply.foldl (addRegister nodeId) c).nodeRegistriesBitsList nodeId).isSome) := by
  induction reply generalizing c with
  | nil => exact ⟨rfl, id, id, id⟩
  | cons reg reply ih =>
    obtain ⟨reported, list, numbers, bits⟩ := ih (addRegister nodeId c reg)
    refine ⟨reported, fun _ => list ?_, fun _ => numbers ?_, fun _ => bits ?_⟩
    · rw [addRegister_list, Map.modify_self, Option.isSome_some]
    · rw [addRegister_nameToNumber, Map.modify_self, Option.isSome_some]
    · rw [addRegister_bitsList, Map.modify_self, Option.isSome_some]

end Additions

/-! ## One reply -/

/-- What the registers of a node are in the cache, against a reply. -/
structure Describes (c : CliCache) (nodeId : BitVec 16) (reply : List Register) : Prop where
  list : c.nodeRegistriesList nodeId = some (reply.map (·.name))
  number : ∀ name, c.registerNumber? nodeId name = numberOf reply name
  bits : ∀ number, c.bits nodeId number = (bitsOf reply number).getD []
  bit : ∀ number name, c.bitNumber? nodeId number name = bitOf reply number name

/-- The registers that a reply lists, none for an error. -/
def Daemon.reply (d : Daemon) (nodeId : BitVec 16) : List Register := ((d.registers nodeId).map (·.list)).getD []

/-- Each bit that the cache has is in the reply, with whatever number. -/
def Covers (c : CliCache) (nodeId : BitVec 16) (reply : List Register) : Prop :=
  ∀ number name, c.bitNumber? nodeId number name ≠ none → bitOf reply number name ≠ none

section Refresh

variable (c : CliCache) (d : Daemon) (nodeId : BitVec 16)

theorem Daemon.distinct_reply : ((d.reply nodeId).map (·.number)).Nodup := by
  rw [Daemon.reply]
  cases d.registers nodeId with
  | none => exact List.nodup_nil
  | some registers => exact registers.distinct

/-- The cache that the registers of a reply are added to. -/
def cleared : CliCache :=
  { c with
    nodeRegistriesList := c.nodeRegistriesList.assign nodeId []
    nodeRegistriesNameToNumber := c.nodeRegistriesNameToNumber.assign nodeId Map.empty
    nodeRegistriesBitsList := c.nodeRegistriesBitsList.assign nodeId Map.empty
    reported := c.reported.assign nodeId (d.reply nodeId) }

theorem refreshRegister_eq :
    c.refreshRegister d nodeId = (d.reply nodeId).foldl (addRegister nodeId) (c.cleared d nodeId) := rfl

/-- After a reply the cache describes it exactly when the reply covers the bits that were there. -/
theorem describes_refreshRegister_iff :
    Describes (c.refreshRegister d nodeId) nodeId (d.reply nodeId) ↔ Covers c nodeId (d.reply nodeId) := by
  obtain ⟨list, number, bits, bit⟩ := adds_foldl (c.cleared d nodeId) (d.reply nodeId) (d.distinct_reply nodeId)
  obtain ⟨-, present, -, -⟩ := @foldl_addRegister_present nodeId (c.cleared d nodeId) (d.reply nodeId)
  rw [← refreshRegister_eq] at list number bits bit present
  have names : (c.cleared d nodeId).nodeRegistriesList nodeId = some [] := Map.assign_self ..
  have noNames : (c.cleared d nodeId).nodeRegistriesList.entry [] nodeId = [] := Map.entry_assign_self ..
  have noNumbers : (c.cleared d nodeId).nodeRegistriesNameToNumber.entry Map.empty nodeId = Map.empty :=
    Map.entry_assign_self ..
  have noBits : (c.cleared d nodeId).nodeRegistriesBitsList.entry Map.empty nodeId = Map.empty :=
    Map.entry_assign_self ..
  rw [noNames, List.nil_append] at list
  constructor
  · intro describes number name old absent
    have kept := (bit number name).symm.trans (describes.bit number name)
    rw [absent, Option.none_or] at kept
    exact old kept
  · intro covers
    refine ⟨?_, fun name => ?_, fun number => ?_, fun number name => ?_⟩
    · rw [Map.eq_some_entry [] (present (by rw [names]; rfl)), list]
    · rw [number, registerNumber?, noNumbers]
      exact Option.or_none
    · rw [CliCache.bits, Map.entry, bits, noBits]
      exact congrArg (fun bits => Option.getD bits []) Option.or_none
    · rw [bit]
      cases found : bitOf (d.reply nodeId) number name with
      | some index => rfl
      | none =>
        have absent := mt (covers number name) (not_not_intro found)
        exact not_not.mp absent

theorem refreshRegister_reported :
    (c.refreshRegister d nodeId).reported = c.reported.assign nodeId (d.reply nodeId) :=
  (@foldl_addRegister_present nodeId (c.cleared d nodeId) (d.reply nodeId)).1

/-- A reply about one node leaves what is known of the others. -/
theorem refreshRegister_elsewhere {other : BitVec 16} (apart : other ≠ nodeId) :
    (c.refreshRegister d nodeId).nodeRegistriesList other = c.nodeRegistriesList other ∧
      (c.refreshRegister d nodeId).nodeRegistriesNameToNumber other = c.nodeRegistriesNameToNumber other ∧
      (c.refreshRegister d nodeId).nodeRegistriesBitsList other = c.nodeRegistriesBitsList other ∧
      (c.refreshRegister d nodeId).nodeRegistriesBitsNameToNumber other =
        c.nodeRegistriesBitsNameToNumber other := by
  obtain ⟨list, numbers, bits, bit⟩ := foldl_addRegister_node (c.cleared d nodeId) apart (d.reply nodeId)
  rw [refreshRegister_eq, list, numbers, bits, bit]
  exact ⟨Map.assign_of_ne _ _ _ apart, Map.assign_of_ne _ _ _ apart, Map.assign_of_ne _ _ _ apart, rfl⟩

end Refresh

/-! ## Calls -/

/-- Each map about a node is as its last reply, and there is nothing without a reply. -/
structure Coherent (c : CliCache) : Prop where
  described : ∀ nodeId reply, c.reported nodeId = some reply → Describes c nodeId reply
  absent : ∀ nodeId, c.reported nodeId = none →
    c.nodeRegistriesList nodeId = none ∧ c.nodeRegistriesNameToNumber nodeId = none ∧
      c.nodeRegistriesBitsList nodeId = none ∧ c.nodeRegistriesBitsNameToNumber nodeId = none

/-- A call that asks for the registers of a node gets a reply with each bit that the cache has. -/
def Covered (c : CliCache) (event : Call × Daemon) : Prop :=
  ∀ nodeId ∈ event.1.refreshes? c, Covers c nodeId (event.2.reply nodeId)

section Calls

variable {c t : CliCache} {d : Daemon} {nodeId : BitVec 16}

theorem coherent_new : Coherent new := ⟨nofun, fun _ _ => ⟨rfl, rfl, rfl, rfl⟩⟩

/-- What is known of a node is known of its entries in the maps. -/
theorem Describes.congr {reply : List Register} (describes : Describes c nodeId reply)
    (list : t.nodeRegistriesList nodeId = c.nodeRegistriesList nodeId)
    (numbers : t.nodeRegistriesNameToNumber nodeId = c.nodeRegistriesNameToNumber nodeId)
    (bits : ∀ number, t.bits nodeId number = c.bits nodeId number)
    (bit : t.nodeRegistriesBitsNameToNumber nodeId = c.nodeRegistriesBitsNameToNumber nodeId) :
    Describes t nodeId reply where
  list := list.trans describes.list
  number name := by
    rw [registerNumber?, Map.entry, numbers]
    exact describes.number name
  bits number := (bits number).trans (describes.bits number)
  bit number name := by
    rw [bitNumber?, Map.entry, Map.entry, bit]
    exact describes.bit number name

theorem Coherent.refreshRegister (coherent : Coherent c) (covers : Covers c nodeId (d.reply nodeId)) :
    Coherent (c.refreshRegister d nodeId) := by
  refine ⟨fun other reply reported => ?_, fun other unreported => ?_⟩
  · rw [refreshRegister_reported] at reported
    by_cases here : other = nodeId
    · rw [here, Map.assign_self] at reported
      obtain rfl := Option.some.inj reported
      rw [here]
      exact (describes_refreshRegister_iff c d nodeId).mpr covers
    · rw [Map.assign_of_ne _ _ _ here] at reported
      obtain ⟨list, numbers, bits, bit⟩ := refreshRegister_elsewhere c d nodeId here
      refine (coherent.described other reply reported).congr list numbers (fun number => ?_) bit
      rw [CliCache.bits, CliCache.bits, Map.entry, Map.entry, bits]
      rfl
  · rw [refreshRegister_reported] at unreported
    by_cases here : other = nodeId
    · rw [here, Map.assign_self] at unreported
      cases unreported
    · rw [Map.assign_of_ne _ _ _ here] at unreported
      obtain ⟨list, numbers, bits, bit⟩ := refreshRegister_elsewhere c d nodeId here
      rw [list, numbers, bits, bit]
      exact coherent.absent other unreported

theorem Coherent.asked (coherent : Coherent c) {call : Call} (covered : Covered c (call, d)) :
    Coherent (c.asked d call) := by
  rw [CliCache.asked]
  split
  · next nodeId refreshes => exact coherent.refreshRegister (covered nodeId refreshes)
  · exact coherent

/-- The node whose registers a call is about. -/
def Call.node? : Call → Option (BitVec 16)
  | getRegistersList nodeId | getBitsList nodeId _ | getRegisterNumberByName nodeId _ |
    getBitNumberByName nodeId _ _ => some nodeId
  | getNodesList | getDevList | getDevMethodList _ | getNodeIdByName _ | clear => none

/-- A call about a node that is not in one of the maps asks for its registers. -/
theorem Call.refreshes_of_absent {call : Call} (about : call.node? = some nodeId)
    (absent : c.nodeRegistriesList nodeId = none ∧ c.nodeRegistriesNameToNumber nodeId = none ∧
      c.nodeRegistriesBitsList nodeId = none ∧ c.nodeRegistriesBitsNameToNumber nodeId = none) :
    call.refreshes? c = some nodeId := by
  obtain ⟨list, numbers, bits, bit⟩ := absent
  induction call with
  | getRegistersList other =>
    obtain rfl := Option.some.inj about
    rw [refreshes?, list, Option.isNone_none, if_pos rfl]
  | getBitsList other regNumber =>
    obtain rfl := Option.some.inj about
    rw [refreshes?, bits, Option.isNone_none, if_pos rfl]
  | getRegisterNumberByName other regName =>
    obtain rfl := Option.some.inj about
    rw [refreshes?, numbers, if_pos (.inl rfl)]
  | getBitNumberByName other regNumber bitName =>
    obtain rfl := Option.some.inj about
    rw [refreshes?, bit, if_pos (.inl rfl)]
  | getNodesList => cases about
  | getDevList => cases about
  | getDevMethodList => cases about
  | getNodeIdByName => cases about
  | clear => cases about

theorem Call.refreshes_own {call : Call} (about : call.node? = some nodeId) {other : BitVec 16}
    (refreshes : call.refreshes? c = some other) : other = nodeId := by
  induction call with
  | getRegistersList own =>
    obtain rfl := Option.some.inj about
    exact (Option.some.inj (Option.ite_none_right_eq_some.mp refreshes).2).symm
  | getBitsList own regNumber =>
    obtain rfl := Option.some.inj about
    exact (Option.some.inj (Option.ite_none_right_eq_some.mp refreshes).2).symm
  | getRegisterNumberByName own regName =>
    obtain rfl := Option.some.inj about
    exact (Option.some.inj (Option.ite_none_right_eq_some.mp refreshes).2).symm
  | getBitNumberByName own regNumber bitName =>
    obtain rfl := Option.some.inj about
    exact (Option.some.inj (Option.ite_none_right_eq_some.mp refreshes).2).symm
  | getNodesList => cases about
  | getDevList => cases about
  | getDevMethodList => cases about
  | getNodeIdByName => cases about
  | clear => cases about

/-- After a call about a node there is a reply about it. -/
theorem Coherent.reported_asked (coherent : Coherent c) {call : Call} (covered : Covered c (call, d))
    (about : call.node? = some nodeId) :
    ∃ reply, (c.asked d call).reported nodeId = some reply ∧ Describes (c.asked d call) nodeId reply := by
  have reported : (c.asked d call).reported nodeId ≠ none := by
    rw [CliCache.asked]
    split
    · next other refreshes =>
      rw [Call.refreshes_own about refreshes, refreshRegister_reported, Map.assign_self]
      exact Option.some_ne_none _
    · next refreshes =>
      intro unreported
      rw [Call.refreshes_of_absent about (coherent.absent nodeId unreported)] at refreshes
      cases refreshes
  obtain ⟨reply, found⟩ := Option.ne_none_iff_exists'.mp reported
  exact ⟨reply, found, (coherent.asked covered).described nodeId reply found⟩

/-- `get_register_number_by_name` gives what the last reply says, and 0 for a name that is not in it. -/
theorem Coherent.getRegisterNumberByName (coherent : Coherent c) {regName : String}
    (covered : Covered c (.getRegisterNumberByName nodeId regName, d)) :
    ∃ reply, (c.getRegisterNumberByName d nodeId regName).1.reported nodeId = some reply ∧
      (c.getRegisterNumberByName d nodeId regName).2 = ((numberOf reply regName).getD 0).setWidth 8 := by
  obtain ⟨reply, reported, describes⟩ := coherent.reported_asked covered rfl
  refine ⟨reply, reported, ?_⟩
  rw [CliCache.getRegisterNumberByName]
  dsimp only
  rw [describes.number]

/-- `get_bit_number_by_name` gives what the last reply says, and 0xff for a name that is not in it. -/
theorem Coherent.getBitNumberByName (coherent : Coherent c) {regNumber : Byte} {bitName : String}
    (covered : Covered c (.getBitNumberByName nodeId regNumber bitName, d)) :
    ∃ reply, (c.getBitNumberByName d nodeId regNumber bitName).1.reported nodeId = some reply ∧
      (c.getBitNumberByName d nodeId regNumber bitName).2 = (bitOf reply regNumber bitName).getD 0xff := by
  obtain ⟨reply, reported, describes⟩ := coherent.reported_asked covered rfl
  refine ⟨reply, reported, ?_⟩
  rw [CliCache.getBitNumberByName]
  dsimp only
  rw [describes.bit]

/-- The maps about nodes and devices are apart from those about registers. -/
theorem Coherent.congr (coherent : Coherent c) (list : t.nodeRegistriesList = c.nodeRegistriesList)
    (numbers : t.nodeRegistriesNameToNumber = c.nodeRegistriesNameToNumber)
    (bits : t.nodeRegistriesBitsList = c.nodeRegistriesBitsList)
    (bit : t.nodeRegistriesBitsNameToNumber = c.nodeRegistriesBitsNameToNumber)
    (reported : t.reported = c.reported) : Coherent t where
  described nodeId reply found := by
    rw [reported] at found
    refine (coherent.described nodeId reply found).congr (congrFun list _) (congrFun numbers _)
      (fun number => ?_) (congrFun bit _)
    rw [CliCache.bits, bits]
    rfl
  absent nodeId unreported := by
    rw [reported] at unreported
    rw [list, numbers, bits, bit]
    exact coherent.absent nodeId unreported

/-- The list that a call finds is already there. -/
theorem Coherent.getRegistersList (coherent : Coherent c) (covered : Covered c (.getRegistersList nodeId, d)) :
    Coherent (c.getRegistersList d nodeId).1 := by
  obtain ⟨reply, -, describes⟩ := coherent.reported_asked covered rfl
  refine (coherent.asked covered).congr (Map.modify_id [] nodeId ?_) rfl rfl rfl rfl
  rw [describes.list]
  exact Option.some_ne_none _

/-- A register without bits gets an empty list of bits, which reads the same. -/
theorem bits_modify (regNumber : Byte) (other : BitVec 16) (number : Byte) :
    CliCache.bits { c with
        nodeRegistriesBitsList := c.nodeRegistriesBitsList.modify Map.empty nodeId fun lists =>
          lists.modify [] regNumber id } other number = c.bits other number := by
  rw [CliCache.bits, CliCache.bits]
  dsimp only
  by_cases node : other = nodeId
  · rw [node, Map.entry_modify_self]
    by_cases register : number = regNumber
    · rw [register, Map.entry_modify_self, id_eq]
    · rw [Map.entry_modify_of_ne _ _ _ _ register]
  · rw [Map.entry_modify_of_ne _ _ _ _ node]

theorem Coherent.getBitsList (coherent : Coherent c) {regNumber : Byte}
    (covered : Covered c (.getBitsList nodeId regNumber, d)) :
    Coherent (c.getBitsList d nodeId regNumber).1 := by
  obtain ⟨reply, found, -⟩ := coherent.reported_asked covered rfl
  obtain ⟨described, absent⟩ := coherent.asked covered
  refine ⟨fun other reply reported => ?_, fun other unreported => ?_⟩
  · exact (described other reply reported).congr rfl rfl (bits_modify regNumber other) rfl
  · obtain ⟨list, numbers, bits, bit⟩ := absent other unreported
    have apart : other ≠ nodeId := by
      rintro rfl
      exact Option.some_ne_none reply (found.symm.trans unreported)
    refine ⟨list, numbers, ?_, bit⟩
    rw [CliCache.getBitsList]
    dsimp only
    rw [Map.modify_of_ne _ _ _ _ apart]
    exact bits

/-- Each call keeps the cache coherent. -/
theorem Coherent.call (coherent : Coherent c) {call : Call} (covered : Covered c (call, d)) :
    Coherent (c.call d call) := by
  induction call with
  | getNodesList =>
    dsimp only [CliCache.call, CliCache.getNodesList]
    split
    · exact coherent.congr rfl rfl rfl rfl rfl
    · exact coherent
  | getRegistersList nodeId => exact coherent.getRegistersList covered
  | getBitsList nodeId regNumber => exact coherent.getBitsList covered
  | getDevList =>
    dsimp only [CliCache.call, CliCache.getDevList]
    split
    · exact coherent.congr rfl rfl rfl rfl rfl
    · exact coherent
  | getDevMethodList devName =>
    dsimp only [CliCache.call, CliCache.getDevMethodList]
    split
    · exact coherent.congr rfl rfl rfl rfl rfl
    · exact coherent
  | getNodeIdByName name =>
    dsimp only [CliCache.call, CliCache.getNodeIdByName]
    split
    · exact coherent.congr rfl rfl rfl rfl rfl
    · exact coherent
  | getRegisterNumberByName nodeId regName => exact coherent.asked covered
  | getBitNumberByName nodeId regNumber bitName => exact coherent.asked covered
  | clear => exact coherent_new

end Calls

/-! ## Runs -/

section Runs

variable {c t : CliCache} {events : List (Call × Daemon)}

/-- While each reply about a node covers the bits that the cache has of it, the cache describes the last
reply about each node, and the two calls that resolve names give what this reply says. -/
theorem coherent_of_covered (initial : machine.Initial c) (covered : machine.AllSteps Covered c events)
    (run : machine.run? c events = some t) :
    (∀ nodeId reply, t.reported nodeId = some reply → Describes t nodeId reply) ∧
      (∀ d nodeId regName, Covered t (.getRegisterNumberByName nodeId regName, d) →
        ∃ reply, (t.getRegisterNumberByName d nodeId regName).1.reported nodeId = some reply ∧
          (t.getRegisterNumberByName d nodeId regName).2 = ((numberOf reply regName).getD 0).setWidth 8) ∧
      ∀ d nodeId regNumber bitName, Covered t (.getBitNumberByName nodeId regNumber bitName, d) →
        ∃ reply, (t.getBitNumberByName d nodeId regNumber bitName).1.reported nodeId = some reply ∧
          (t.getBitNumberByName d nodeId regNumber bitName).2 = (bitOf reply regNumber bitName).getD 0xff := by
  have coherent : Coherent t := by
    obtain rfl := initial
    refine run_invariant_of_guard Coherent (fun s event next coherent covered step => ?_) coherent_new covered run
    obtain rfl := Option.some.inj step
    exact coherent.call covered
  exact ⟨coherent.described, fun d nodeId regName covered => coherent.getRegisterNumberByName covered,
    fun d nodeId regNumber bitName covered => coherent.getBitNumberByName covered⟩

/-- A daemon that knows the registers of the node 7 only. -/
def daemon (registers : Registers) : Daemon where
  nodes := none
  devs := none
  registers := fun nodeId => if nodeId = 7 then some registers else none
  devMethods := fun _ => none

def twoBits : Daemon := daemon ⟨[⟨"led", 10, ["x", "y"]⟩], by decide⟩

/-- Another register, and the two bits the other way round. -/
def moreBits : Daemon := daemon ⟨[⟨"led", 10, ["y", "x"]⟩, ⟨"relay", 11, []⟩], by decide⟩

/-- Another register, and one bit fewer. -/
def fewerBits : Daemon := daemon ⟨[⟨"led", 10, ["y"]⟩, ⟨"relay", 11, []⟩], by decide⟩

theorem covers_moreBits (number : Byte) (name : String) (old : bitOf (twoBits.reply 7) number name ≠ none) :
    bitOf (moreBits.reply 7) number name ≠ none := by
  have before : twoBits.reply 7 = [⟨"led", 10, ["x", "y"]⟩] := rfl
  have after : moreBits.reply 7 = [⟨"led", 10, ["y", "x"]⟩, ⟨"relay", 11, []⟩] := rfl
  rw [before] at old
  rw [after]
  by_cases led : 10#8 = number
  · by_cases x : "x" = name
    · rw [← led, ← x]
      decide
    · by_cases y : "y" = name
      · rw [← led, ← y]
        decide
      · exact absurd (by simp [bitOf, Register.bitIndex, List.zipIdx, led, x, y]) old
  · exact absurd (by simp [bitOf, led]) old

/-- The number of the bit x is the new one. -/
theorem coherent_of_covered_moreBits :
    ∃ t, machine.run? new [(.getBitNumberByName 7 10 "x", twoBits), (.getRegisterNumberByName 7 "relay", moreBits)] =
        some t ∧
      t.bitNumber? 7 10 "x" = some 1 := by
  have covered : machine.AllSteps Covered new
      [(.getBitNumberByName 7 10 "x", twoBits), (.getRegisterNumberByName 7 "relay", moreBits)] := by
    refine ⟨fun nodeId _ number name old => absurd rfl old, fun nodeId refreshes number name old => ?_, trivial⟩
    obtain rfl := Call.refreshes_own rfl refreshes
    have described := (describes_refreshRegister_iff new twoBits 7).mpr fun number name old => absurd rfl old
    exact covers_moreBits number name (by rw [← described.bit]; exact old)
  obtain ⟨described, -, -⟩ := coherent_of_covered rfl covered rfl
  exact ⟨_, rfl, (described 7 (moreBits.reply 7) rfl).bit 10 "x"⟩

/-- The daemon has no bit of the name x any more, and its number is found. -/
theorem stale_fewerBits :
    ∃ t, machine.run? new [(.getBitNumberByName 7 10 "x", twoBits), (.getRegisterNumberByName 7 "relay", fewerBits)] =
        some t ∧
      t.reported 7 = some (fewerBits.reply 7) ∧ bitOf (fewerBits.reply 7) 10 "x" = none ∧
      (t.getBitNumberByName fewerBits 7 10 "x").2 = 0 ∧ ¬ Describes t 7 (fewerBits.reply 7) := by
  refine ⟨_, rfl, rfl, by decide, by decide +kernel, fun describes => ?_⟩
  have found := describes.bit 10 "x"
  revert found
  decide +kernel

end Runs

end H9d.CliCache
