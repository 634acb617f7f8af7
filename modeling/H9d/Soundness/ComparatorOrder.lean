import H9d.Core.OrderedMap
import H9d.Model.H9FrameComparator

/-! # The order of comparators

`operator<` says that some member is less. So what it denies is that no member is: a preorder, in which two
comparators need not be ordered at all. The broadcast group is no member that it looks at.
-/

namespace H9d.H9FrameComparator

open Cxx H9Frame

/-- No member that `operator<` looks at is greater; the data counts if it is as long. -/
structure AtMost (a b : H9FrameComparator) : Prop where
  fieldsToCompare : a.fieldsToCompare ≤ b.fieldsToCompare
  sourceId : a.sourceId ≤ b.sourceId
  seqnum : a.seqnum ≤ b.seqnum
  typeSet1 : a.typeSet1 ≤ b.typeSet1
  destinationIdSet1 : a.destinationIdSet1 ≤ b.destinationIdSet1
  dlcSet1 : a.dlcSet1 ≤ b.dlcSet1
  dataSet1 : a.dlcSet1 = b.dlcSet1 → ∀ i : Fin 8, i.val < a.dlcSet1.toNat → a.dataSet1 i ≤ b.dataSet1 i
  firstDataByteSet1 : a.firstDataByteSet1 ≤ b.firstDataByteSet1
  seqnumOverride : a.seqnumOverride ≤ b.seqnumOverride
  typeSet2 : a.typeSet2 ≤ b.typeSet2
  destinationIdSet2 : a.destinationIdSet2 ≤ b.destinationIdSet2
  dlcSet2 : a.dlcSet2 ≤ b.dlcSet2
  dataSet2 : a.dlcSet2 = b.dlcSet2 → ∀ i : Fin 8, i.val < a.dlcSet2.toNat → a.dataSet2 i ≤ b.dataSet2 i
  firstDataByteSet2 : a.firstDataByteSet2 ≤ b.firstDataByteSet2

section Order

variable {a b c : H9FrameComparator}

private theorem orElse_iff (less rest : Bool) :
    (if less then true else rest) = false ↔ less = false ∧ rest = false := by
  cases less <;> simp

private theorem not_ult_iff {n : ℕ} (x y : BitVec n) : y.ult x = false ↔ x ≤ y := by
  rw [← Bool.not_eq_true, BitVec.ult_iff_lt, BitVec.not_lt]

private theorem not_lessData_iff (dlc dlc' : Byte) (data data' : Fin 8 → Byte) :
    (dlc' == dlc && lessData dlc' data' data) = false ↔
      (dlc = dlc' → ∀ i : Fin 8, i.val < dlc.toNat → data i ≤ data' i) := by
  rw [Bool.and_eq_false_imp, beq_iff_eq, lessData, decide_eq_false_iff_not]
  constructor
  · rintro none rfl i inside
    refine (not_ult_iff _ _).mp (Bool.eq_false_iff.mpr fun less => none rfl ⟨i, inside, less⟩)
  · rintro ordered rfl ⟨i, inside, less⟩
    exact Bool.false_ne_true (((not_ult_iff _ _).mpr (ordered rfl i inside)).symm.trans less)

/-- What `operator<` denies. -/
theorem lt_eq_false_iff : b.lt a = false ↔ AtMost a b := by
  simp only [lt, orElse_iff, not_ult_iff, not_lessData_iff, and_true]
  constructor
  · rintro ⟨fields, source, seqnum, type, destination, dlc, data, first, override, type', destination', dlc', data',
      first'⟩
    exact ⟨fields, source, seqnum, type, destination, dlc, data, first, override, type', destination', dlc', data',
      first'⟩
  · rintro ⟨fields, source, seqnum, type, destination, dlc, data, first, override, type', destination', dlc', data',
      first'⟩
    exact ⟨fields, source, seqnum, type, destination, dlc, data, first, override, type', destination', dlc', data',
      first'⟩

theorem AtMost.refl (a : H9FrameComparator) : AtMost a a := by
  constructor
  case dataSet1 => exact fun _ i _ => BitVec.le_refl _
  case dataSet2 => exact fun _ i _ => BitVec.le_refl _
  all_goals exact BitVec.le_refl _

/-- Data of one length at both ends has that length in between. -/
private theorem data_trans {dlc dlc' dlc'' : Byte} {data data' data'' : Fin 8 → Byte} (first : dlc ≤ dlc')
    (second : dlc' ≤ dlc'') (low : dlc = dlc' → ∀ i : Fin 8, i.val < dlc.toNat → data i ≤ data' i)
    (high : dlc' = dlc'' → ∀ i : Fin 8, i.val < dlc'.toNat → data' i ≤ data'' i) :
    dlc = dlc'' → ∀ i : Fin 8, i.val < dlc.toNat → data i ≤ data'' i := by
  rintro rfl i inside
  obtain rfl := BitVec.le_antisymm first second
  exact BitVec.le_trans (low rfl i inside) (high rfl i inside)

theorem AtMost.trans (first : AtMost a b) (second : AtMost b c) : AtMost a c where
  fieldsToCompare := BitVec.le_trans first.fieldsToCompare second.fieldsToCompare
  sourceId := BitVec.le_trans first.sourceId second.sourceId
  seqnum := BitVec.le_trans first.seqnum second.seqnum
  typeSet1 := BitVec.le_trans first.typeSet1 second.typeSet1
  destinationIdSet1 := BitVec.le_trans first.destinationIdSet1 second.destinationIdSet1
  dlcSet1 := BitVec.le_trans first.dlcSet1 second.dlcSet1
  dataSet1 := data_trans first.dlcSet1 second.dlcSet1 first.dataSet1 second.dataSet1
  firstDataByteSet1 := BitVec.le_trans first.firstDataByteSet1 second.firstDataByteSet1
  seqnumOverride := BitVec.le_trans first.seqnumOverride second.seqnumOverride
  typeSet2 := BitVec.le_trans first.typeSet2 second.typeSet2
  destinationIdSet2 := BitVec.le_trans first.destinationIdSet2 second.destinationIdSet2
  dlcSet2 := BitVec.le_trans first.dlcSet2 second.dlcSet2
  dataSet2 := data_trans first.dlcSet2 second.dlcSet2 first.dataSet2 second.dataSet2
  firstDataByteSet2 := BitVec.le_trans first.firstDataByteSet2 second.firstDataByteSet2

theorem equivalent_iff : Equivalent lt a b ↔ AtMost a b ∧ AtMost b a := by
  rw [Equivalent, lt_eq_false_iff, lt_eq_false_iff]
  exact and_comm

/-- Comparators are ordered by `operator<` exactly if, of each two of them, one has no greater member. -/
theorem strictWeakOn_iff (comparators : List H9FrameComparator) :
    StrictWeakOn lt comparators ↔ ∀ a ∈ comparators, ∀ b ∈ comparators, AtMost a b ∨ AtMost b a := by
  apply strictWeakOn_iff_total AtMost.refl
  · exact fun _ _ _ => AtMost.trans
  · exact fun _ _ => lt_eq_false_iff

end Order

section Matching

variable {a b : H9FrameComparator}

/-- Up to its length the data of both is the same. -/
private theorem sameData_congr {dlc dlc' : Byte} {data data' : Fin 8 → Byte} (length : dlc = dlc')
    (low : dlc = dlc' → ∀ i : Fin 8, i.val < dlc.toNat → data i ≤ data' i)
    (high : dlc' = dlc → ∀ i : Fin 8, i.val < dlc'.toNat → data' i ≤ data i) (frame : H9Frame) :
    sameData dlc data frame = sameData dlc' data' frame := by
  subst length
  rw [sameData, sameData]
  refine congrArg (dlc == frame.dlc && ·) (decide_eq_decide.mpr ?_)
  refine forall_congr' fun i => imp_congr_right fun inside => ?_
  rw [BitVec.le_antisymm (low rfl i inside) (high rfl i inside)]

theorem compares_congr (low : AtMost a b) (high : AtMost b a) (flag : BitVec 16) :
    a.compares flag = b.compares flag := by
  rw [compares, compares, BitVec.le_antisymm low.fieldsToCompare high.fieldsToCompare]

theorem eqAlternateSet_congr (low : AtMost a b) (high : AtMost b a) (frame : H9Frame) :
    a.eqAlternateSet frame = b.eqAlternateSet frame := by
  have data := sameData_congr (BitVec.le_antisymm low.dlcSet2 high.dlcSet2) low.dataSet2 high.dataSet2 frame
  rw [Bool.eq_iff_iff, eqAlternateSet_iff, eqAlternateSet_iff]
  simp only [compares_congr low high, BitVec.le_antisymm low.seqnum high.seqnum,
    BitVec.le_antisymm low.seqnumOverride high.seqnumOverride, BitVec.le_antisymm low.typeSet2 high.typeSet2,
    BitVec.le_antisymm low.destinationIdSet2 high.destinationIdSet2,
    BitVec.le_antisymm low.firstDataByteSet2 high.firstDataByteSet2, data]

theorem eq_congr (low : AtMost a b) (high : AtMost b a)
    (group : a.compares BROADCAST_GROUP = true → a.broadcastGroup = b.broadcastGroup) (frame : H9Frame) :
    a.eq frame = b.eq frame := by
  have data := sameData_congr (BitVec.le_antisymm low.dlcSet1 high.dlcSet1) low.dataSet1 high.dataSet1 frame
  have grouped : (a.compares BROADCAST_GROUP = true → a.broadcastGroup = frame.group) ↔
      (b.compares BROADCAST_GROUP = true → b.broadcastGroup = frame.group) := by
    rw [← compares_congr low high]
    exact imp_congr_right fun flag => by rw [group flag]
  rw [Bool.eq_iff_iff, eq_iff, eq_iff, grouped]
  simp only [compares_congr low high, BitVec.le_antisymm low.seqnum high.seqnum,
    BitVec.le_antisymm low.typeSet1 high.typeSet1, BitVec.le_antisymm low.destinationIdSet1 high.destinationIdSet1,
    BitVec.le_antisymm low.firstDataByteSet1 high.firstDataByteSet1, data]

/-- `operator<` sees all that decides about frames but the group. -/
theorem eqFrame_of_equivalent (same : Equivalent lt a b)
    (group : a.compares BROADCAST_GROUP = true → a.broadcastGroup = b.broadcastGroup)
    (frame : H9Frame) : a.eqFrame frame = b.eqFrame frame := by
  obtain ⟨low, high⟩ := equivalent_iff.mp same
  rw [Bool.eq_iff_iff, eqFrame_iff, eqFrame_iff, eq_congr low high group, eqAlternateSet_congr low high,
    compares_congr low high, BitVec.le_antisymm low.sourceId high.sourceId]

/-- The comparator that takes frames of any group. -/
def ignoringGroup (c : H9FrameComparator) : H9FrameComparator :=
  { c with fieldsToCompare := c.fieldsToCompare &&& ~~~BROADCAST_GROUP }

theorem compares_ignoringGroup (c : H9FrameComparator) (flag : BitVec 16)
    (other : ~~~BROADCAST_GROUP &&& flag = flag) : c.ignoringGroup.compares flag = c.compares flag := by
  rw [compares, compares, ignoringGroup]
  dsimp only
  rw [BitVec.and_assoc, other]

theorem not_compares_ignoringGroup (c : H9FrameComparator) :
    c.ignoringGroup.compares BROADCAST_GROUP = false := by
  have cleared : ~~~BROADCAST_GROUP &&& BROADCAST_GROUP = 0#16 := by decide
  rw [compares, ignoringGroup]
  dsimp only
  rw [BitVec.and_assoc, cleared, BitVec.and_zero]
  rfl

theorem eqAlternateSet_ignoringGroup (c : H9FrameComparator) (frame : H9Frame) :
    c.ignoringGroup.eqAlternateSet frame = c.eqAlternateSet frame := by
  have keeps := compares_ignoringGroup c
  rw [Bool.eq_iff_iff, eqAlternateSet_iff, eqAlternateSet_iff, keeps SEQNUM_OVERRIDE rfl, keeps SEQNUM rfl,
    keeps TYPE_SET2 rfl, keeps DESTINATION_ID_SET2 rfl, keeps DATA_SET2 rfl, keeps FIRST_DATA_BYTE_SET2 rfl,
    keeps (TYPE_SET2 ||| DESTINATION_ID_SET2 ||| DATA_SET2 ||| FIRST_DATA_BYTE_SET2) rfl]
  rfl

theorem eq_ignoringGroup_iff (c : H9FrameComparator) (frame : H9Frame) : c.eq frame = true ↔
    (c.compares BROADCAST_GROUP → c.broadcastGroup = frame.group) ∧ c.ignoringGroup.eq frame = true := by
  have keeps := compares_ignoringGroup c
  rw [eq_iff, eq_iff, keeps SEQNUM rfl, keeps TYPE_SET1 rfl, keeps DESTINATION_ID_SET1 rfl, keeps DATA_SET1 rfl,
    keeps FIRST_DATA_BYTE_SET1 rfl, not_compares_ignoringGroup]
  simp only [Bool.false_eq_true, false_imp_iff, true_and]
  rfl

/-- A frame is accepted in its group, or by the alternate set, which does not look at the group. -/
theorem eqFrame_ignoringGroup_iff (c : H9FrameComparator) (frame : H9Frame) : c.eqFrame frame = true ↔
    c.ignoringGroup.eqFrame frame = true ∧
      ((c.compares BROADCAST_GROUP → c.broadcastGroup = frame.group) ∨ c.eqAlternateSet frame = true) := by
  rw [eqFrame_iff, eqFrame_iff, eq_ignoringGroup_iff, eqAlternateSet_ignoringGroup,
    compares_ignoringGroup c SOURCE_ID rfl]
  change (_ → c.sourceId = _) ∧ _ ↔ ((_ → c.sourceId = _) ∧ _) ∧ _
  tauto

end Matching

/-- What a map asks of the order of its keys, and that it takes no two keys for one that accept other frames. -/
structure OrderLaws (comparators : List H9FrameComparator) : Prop where
  irrefl : ∀ a ∈ comparators, a.lt a = false
  asymm : ∀ a ∈ comparators, ∀ b ∈ comparators, a.lt b = true → b.lt a = false
  trans : ∀ a ∈ comparators, ∀ b ∈ comparators, ∀ c ∈ comparators, a.lt b = true → b.lt c = true → a.lt c = true
  equivalentTrans : ∀ a ∈ comparators, ∀ b ∈ comparators, ∀ c ∈ comparators,
    Equivalent lt a b → Equivalent lt b c → Equivalent lt a c
  matching : ∀ a ∈ comparators, ∀ b ∈ comparators, Equivalent lt a b →
    ∀ frame, a.eqFrame frame = b.eqFrame frame

/-- Of each two comparators, one has no greater member. If they differ in the group at most, the group does not
count: it is not looked at or the same, or the alternate set accepts all frames of other groups as well. -/
structure Comparable (comparators : List H9FrameComparator) : Prop where
  ordered : ∀ a ∈ comparators, ∀ b ∈ comparators, AtMost a b ∨ AtMost b a
  group : ∀ a ∈ comparators, ∀ b ∈ comparators, AtMost a b → AtMost b a →
    a.compares BROADCAST_GROUP = true → a.broadcastGroup ≠ b.broadcastGroup →
      ∀ frame, a.ignoringGroup.eqFrame frame = true → a.eqAlternateSet frame = true

section Laws

variable {a b : H9FrameComparator}

theorem eqFrame_ignoringGroup_congr (low : AtMost a b) (high : AtMost b a) (frame : H9Frame) :
    a.ignoringGroup.eqFrame frame = b.ignoringGroup.eqFrame frame := by
  have fields : a.ignoringGroup.fieldsToCompare = b.ignoringGroup.fieldsToCompare := by
    rw [ignoringGroup, ignoringGroup, BitVec.le_antisymm low.fieldsToCompare high.fieldsToCompare]
  refine eqFrame_of_equivalent (equivalent_iff.mpr ⟨?_, ?_⟩) ?_ frame
  · exact { low with fieldsToCompare := BitVec.le_of_eq fields }
  · exact { high with fieldsToCompare := BitVec.le_of_eq fields.symm }
  · intro group
    exact absurd group (Bool.eq_false_iff.mp (not_compares_ignoringGroup a))

/-- The group of a frame can be changed, and nothing but the group is looked at differently. -/
theorem eqFrame_ignoringGroup_group (c : H9FrameComparator) (frame : H9Frame) (group : BitVec 16) :
    c.ignoringGroup.eqFrame { frame with group } = c.ignoringGroup.eqFrame frame := by
  rw [Bool.eq_iff_iff, eqFrame_iff, eqFrame_iff, eq_iff, eq_iff, not_compares_ignoringGroup]
  simp only [Bool.false_eq_true, false_imp_iff, true_and]
  rfl

theorem matching_iff (low : AtMost a b) (high : AtMost b a) :
    (∀ frame, a.eqFrame frame = b.eqFrame frame) ↔
      (a.compares BROADCAST_GROUP = true → a.broadcastGroup ≠ b.broadcastGroup →
        ∀ frame, a.ignoringGroup.eqFrame frame = true → a.eqAlternateSet frame = true) := by
  constructor
  · intro same grouped differ frame accepted
    by_contra alternate
    have accepts : a.eqFrame { frame with group := a.broadcastGroup } = true := by
      rw [eqFrame_ignoringGroup_iff, eqFrame_ignoringGroup_group]
      exact ⟨accepted, .inl fun _ => rfl⟩
    rw [same, eqFrame_ignoringGroup_iff, ← eqAlternateSet_congr low high, ← compares_congr low high] at accepts
    rcases accepts.2 with group | alternate'
    · exact differ (group grouped).symm
    · exact alternate alternate'
  · intro covers frame
    by_cases counts : a.compares BROADCAST_GROUP = true ∧ a.broadcastGroup ≠ b.broadcastGroup
    · rw [Bool.eq_iff_iff, eqFrame_ignoringGroup_iff a, eqFrame_ignoringGroup_iff b,
        ← eqFrame_ignoringGroup_congr low high, ← eqAlternateSet_congr low high]
      refine and_congr_right fun accepted => ?_
      have alternate := covers counts.1 counts.2 frame accepted
      exact iff_of_true (.inr alternate) (.inr alternate)
    · refine eqFrame_of_equivalent (equivalent_iff.mpr ⟨low, high⟩) (fun grouped => ?_) frame
      exact not_not.mp fun differ => counts ⟨grouped, differ⟩

end Laws

/-- Which comparators a map can have as keys. -/
theorem orderLaws_iff (comparators : List H9FrameComparator) :
    OrderLaws comparators ↔ Comparable comparators := by
  constructor
  · intro laws
    have order : StrictWeakOn lt comparators := ⟨laws.irrefl, laws.trans, laws.equivalentTrans⟩
    refine ⟨(strictWeakOn_iff comparators).mp order, fun a ha b hb low high => ?_⟩
    exact (matching_iff low high).mp (laws.matching a ha b hb (equivalent_iff.mpr ⟨low, high⟩))
  · rintro ⟨ordered, group⟩
    obtain ⟨irrefl, trans, equivalentTrans⟩ := (strictWeakOn_iff comparators).mpr ordered
    refine ⟨irrefl, fun a ha b hb less => ?_, trans, equivalentTrans, fun a ha b hb same => ?_⟩
    · refine Bool.eq_false_iff.mpr fun greater => ?_
      exact Bool.false_ne_true ((irrefl a ha).symm.trans (trans a ha b hb a ha less greater))
    · obtain ⟨low, high⟩ := equivalent_iff.mp same
      exact (matching_iff low high).mpr (group a ha b hb low high)

/-- Two comparators of a type and a sequence number, each of which is less than the other, and two of a group
that are one key although they accept frames of different groups. -/
theorem not_orderLaws :
    (∃ a b, built 0 [.type 2, .seqnum 1] = some a ∧ built 0 [.type 1, .seqnum 2] = some b ∧
      a.lt b = true ∧ b.lt a = true) ∧
    ∃ a b, built 0 [.broadcastGroup 1] = some a ∧ built 0 [.broadcastGroup 2] = some b ∧
      Equivalent lt a b ∧ ∃ frame, a.eqFrame frame = true ∧ b.eqFrame frame = false := by
  refine ⟨⟨_, _, rfl, rfl, by decide, by decide⟩, ⟨_, _, rfl, rfl, by decide, ?_⟩⟩
  exact ⟨{ (default : H9Frame) with group := 1 }, by decide, by decide⟩

end H9d.H9FrameComparator
