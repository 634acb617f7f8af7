import H9d.Model.NodeUpdates

/-! # The description of a node depends on its type

A node that is described takes the registers of its type, but its name and its description text only when
the type has a name. So a node that never had a name, or whose types all have one, is described by its
type alone.
-/

namespace H9d

open Cxx Machine LabeledMachine NodeDescLoader

/-- The descriptions give a name for the type. -/
def NodeDescLoader.Named (types : Types) (type : BitVec 16) : Prop := getNodeNameByType types type ≠ ""

instance (types : Types) (type : BitVec 16) : Decidable (Named types type) :=
  inferInstanceAs (Decidable (_ ≠ _))

namespace Node

/-- The name and the description text are those of the constructor. -/
def Undescribed (n : Node) : Prop := n.nodeName = "unknown" ∧ n.nodeDescription = ""

/-- What the type alone says of a node. -/
structure Canonical (std : StdRegisters) (types : Types) (n : Node) : Prop where
  name : n.nodeName = if Named types n.nodeType then getNodeNameByType types n.nodeType else "unknown"
  description : n.nodeDescription = if Named types n.nodeType then getNodeDescriptionByType types n.nodeType else ""
  registers : n.registerMap = fun reg =>
    (getNodeRegisterByType types n.nodeType reg).or ((stdRegister std).find? (·.number = reg))

section Describe

variable {std : StdRegisters} {types : Types} {n : Node}

theorem loadDescription_of_named (named : Named types n.nodeType) :
    n.loadDescription std types =
      { n with
        nodeName := getNodeNameByType types n.nodeType
        nodeDescription := getNodeDescriptionByType types n.nodeType
        registerMap := fun reg =>
          (getNodeRegisterByType types n.nodeType reg).or ((stdRegister std).find? (·.number = reg)) } := by
  have found : getNodeNameByType types n.nodeType ≠ "" := named
  simp only [loadDescription, if_pos found]

theorem loadDescription_of_unnamed (unnamed : ¬ Named types n.nodeType) :
    n.loadDescription std types =
      { n with
        registerMap := fun reg =>
          (getNodeRegisterByType types n.nodeType reg).or ((stdRegister std).find? (·.number = reg)) } := by
  have missed : ¬ getNodeNameByType types n.nodeType ≠ "" := unnamed
  simp only [loadDescription, if_neg missed]

theorem loadDescription_nodeType : (n.loadDescription std types).nodeType = n.nodeType := by
  by_cases named : Named types n.nodeType
  · rw [loadDescription_of_named named]
  · rw [loadDescription_of_unnamed named]

theorem loadDescription_init : (n.loadDescription std types).init = n.init := by
  by_cases named : Named types n.nodeType
  · rw [loadDescription_of_named named]
  · rw [loadDescription_of_unnamed named]

/-- A node is described by its type alone exactly when the type has a name or the node had none. -/
theorem loadDescription_canonical_iff :
    (n.loadDescription std types).Canonical std types ↔ Named types n.nodeType ∨ n.Undescribed := by
  by_cases named : Named types n.nodeType
  · rw [loadDescription_of_named named]
    refine iff_of_true ⟨?_, ?_, rfl⟩ (.inl named)
    · exact (if_pos named).symm
    · exact (if_pos named).symm
  · rw [loadDescription_of_unnamed named]
    constructor
    · rintro ⟨name, description, -⟩
      exact .inr ⟨name.trans (if_neg named), description.trans (if_neg named)⟩
    · intro described
      obtain ⟨name, description⟩ := described.resolve_left named
      refine ⟨?_, ?_, rfl⟩
      · exact name.trans (if_neg named).symm
      · exact description.trans (if_neg named).symm

/-- The standard registers are among those of a node that is described. -/
theorem Canonical.standard (canonical : n.Canonical std types) {desc : RegisterDesc}
    (member : desc ∈ stdRegister std) : (n.registerMap desc.number).isSome := by
  rw [canonical.registers, Option.isSome_or, Bool.or_eq_true]
  refine .inr (List.find?_isSome.mpr ⟨desc, member, ?_⟩)
  exact decide_eq_true rfl

end Describe

end Node

namespace NodeMgr

open Node

/-- The frame announces what the node is already. -/
def SameAs (info : NodeInfoFrame) (n : Node) : Prop :=
  n.nodeType = info.nodeType ∧ n.nodeVersion = info.version.setWidth 64 ∧ n.hardwareRevision = info.hardwareRevision

/-- A node that was not announced before is described, and a node whose type has no name had none. -/
def Describes (m : NodeMgr) : Update → Prop
  | .frame env frame => announces frame →
      (SameAs (parseNodeInfoFrame frame) (m.sourceNode env frame) → (m.sourceNode env frame).init = true) ∧
      (¬ SameAs (parseNodeInfoFrame frame) (m.sourceNode env frame) →
        Named m.types (parseNodeInfoFrame frame).nodeType ∨ (m.sourceNode env frame).Undescribed)
  | .reload env => ∀ types, (reload env.nodesFile : Outcome DevNodeException Types) = .value types →
      ∀ id n, m.nodes id = some n → n.init = true → Named types n.nodeType ∨ n.Undescribed

/-- The type that an update announces for a node. -/
def announcement (id : Fin (H9Frame.ID_MAX_VALUE + 1)) : Update → Option (BitVec 16)
  | .frame _ frame =>
      if announces frame ∧ source frame = id then some (parseNodeInfoFrame frame).nodeType else none
  | .reload _ => none

/-- The last type announced. -/
def announcedType (id : Fin (H9Frame.ID_MAX_VALUE + 1)) (updates : List Update) : Option (BitVec 16) :=
  updates.reverse.findSome? (announcement id)

/-- Nodes that were announced are described by their types, and the others not at all. -/
structure Regular (std : StdRegisters) (types : Types) (n : Node) : Prop where
  described : n.init = true → n.Canonical std types
  unseen : n.init = false → n.Undescribed

/-- The type of a node that was announced. -/
def typeOf (n : Node) : Option (BitVec 16) := if n.init then some n.nodeType else none

section InitAs

variable {std : StdRegisters} {types : Types} {n : Node} {info : NodeInfoFrame}

theorem initAs_init (resetReason : Byte) :
    (n.initAs std types info.nodeType info.version info.hardwareRevision resetReason).init = true := by
  rw [Node.initAs]
  split
  · rfl
  · exact loadDescription_init

theorem initAs_nodeType (resetReason : Byte) :
    (n.initAs std types info.nodeType info.version info.hardwareRevision resetReason).nodeType =
      info.nodeType := by
  rw [Node.initAs]
  split
  · next known => exact known.1
  · exact loadDescription_nodeType

theorem regular_make (env : Env) (nodeId : Byte) : Regular std types (Node.make env nodeId) := by
  refine ⟨fun init => ?_, fun _ => ⟨rfl, rfl⟩⟩
  exact absurd init Bool.false_ne_true

theorem Regular.initAs (regular : Regular std types n) (same : SameAs info n → n.init = true)
    (other : ¬ SameAs info n → Named types info.nodeType ∨ n.Undescribed) (resetReason : Byte) :
    Regular std types (n.initAs std types info.nodeType info.version info.hardwareRevision resetReason) := by
  refine ⟨fun _ => ?_, fun unseen => ?_⟩
  · rw [Node.initAs]
    split
    · next known =>
      obtain ⟨name, description, registers⟩ := regular.described (same known)
      exact ⟨name, description, registers⟩
    · next known => exact loadDescription_canonical_iff.mpr (other known)
  · rw [initAs_init] at unseen
    exact absurd unseen.symm Bool.false_ne_true

/-- A node that is described anew after the descriptions changed. -/
theorem Regular.reload {next : Types} (regular : Regular std types n)
    (other : n.init = true → Named next n.nodeType ∨ n.Undescribed) :
    Regular std next (if n.init then n.loadDescription std next else n) := by
  by_cases init : n.init = true
  · rw [if_pos init]
    refine ⟨fun _ => loadDescription_canonical_iff.mpr (other init), fun unseen => ?_⟩
    rw [loadDescription_init, init] at unseen
    exact absurd unseen.symm Bool.false_ne_true
  · rw [if_neg init]
    exact ⟨fun seen => absurd seen init, regular.unseen⟩

end InitAs

section Steps

variable {std : StdRegisters} {m next : NodeMgr}

/-- Every node is regular. -/
def AllRegular (std : StdRegisters) (m : NodeMgr) : Prop :=
  ∀ id n, m.nodes id = some n → Regular std m.types n

theorem AllRegular.initial (start : (updates std).Initial m) : AllRegular std m := by
  intro id n found
  obtain ⟨env, nodeId, rfl⟩ := start id n found
  exact regular_make env nodeId

theorem AllRegular.sourceNode (regular : AllRegular std m) (env : Env) (frame : H9Frame) :
    Regular std m.types (m.sourceNode env frame) := by
  rw [NodeMgr.sourceNode]
  cases found : m.nodes (source frame) with
  | none => exact regular_make env frame.sourceId
  | some n => exact regular _ n found

theorem AllRegular.described {env : Env} {frame : H9Frame} (regular : AllRegular std m)
    (describes : m.Describes (.frame env frame)) :
    Regular std m.types (m.described { env with std } frame) := by
  rw [NodeMgr.described]
  dsimp only
  split
  · next announced =>
    obtain ⟨same, other⟩ := describes announced
    exact (regular.sourceNode env frame).initAs same other _
  · exact regular.sourceNode env frame

theorem reload_inv {env : Env} (step : (updates std).step? m (.reload env) = some next) :
    ∃ types, (reload env.nodesFile : Outcome DevNodeException Types) = .value types ∧
      next = { m with
        types
        nodes := fun id => (m.nodes id).map fun node =>
          if node.init then node.loadDescription std types else node } := by
  dsimp only [updates, step?, reloadNodesDescription] at step
  cases loaded : (reload env.nodesFile : Outcome DevNodeException Types) with
  | value types =>
    rw [loaded] at step
    exact ⟨types, rfl, (Option.some.inj step).symm⟩
  | throws e => rw [loaded] at step; cases step
  | undefined => rw [loaded] at step; cases step

/-- Each update keeps the nodes regular. -/
theorem AllRegular.step {update : Update} (regular : AllRegular std m) (describes : m.Describes update)
    (step : (updates std).step? m update = some next) : AllRegular std next := by
  cases update with
  | frame env frame =>
    cases step
    intro id n found
    by_cases same : id = source frame
    · rw [same, handleFrame] at found
      dsimp only at found
      rw [Function.update_self] at found
      obtain ⟨described, unseen⟩ := regular.described describes
      cases found
      exact ⟨fun init => ⟨(described init).name, (described init).description, (described init).registers⟩,
        unseen⟩
    · rw [handleFrame] at found
      dsimp only at found
      rw [Function.update_of_ne same] at found
      exact regular id n found
  | reload env =>
    obtain ⟨types, loaded, rfl⟩ := reload_inv step
    intro id n found
    obtain ⟨before, known, rfl⟩ := Option.map_eq_some_iff.mp found
    exact (regular id before known).reload (describes types loaded id before known)

theorem typeOf_sourceNode (env : Env) (frame : H9Frame) :
    typeOf (m.sourceNode env frame) =
      (m.nodes (source frame)).bind typeOf := by
  rw [NodeMgr.sourceNode]
  cases m.nodes (source frame) with
  | none => exact if_neg Bool.false_ne_true
  | some n => rfl

theorem typeOf_described (env : Env) (frame : H9Frame) :
    typeOf (m.described env frame) =
      (if announces frame then some (parseNodeInfoFrame frame).nodeType else none).or
        ((m.nodes (source frame)).bind typeOf) := by
  rw [NodeMgr.described]
  dsimp only
  by_cases announced : announces frame = true
  · rw [if_pos announced, if_pos announced, typeOf, if_pos (initAs_init _), initAs_nodeType]
    rfl
  · rw [if_neg announced, if_neg announced]
    exact typeOf_sourceNode env frame

/-- Each update leaves to every node the type that was announced for it last. -/
theorem typeOf_step {update : Update} (step : (updates std).step? m update = some next)
    (id : Fin (H9Frame.ID_MAX_VALUE + 1)) :
    (next.nodes id).bind typeOf = (announcement id update).or ((m.nodes id).bind typeOf) := by
  cases update with
  | frame env frame =>
    cases step
    rw [handleFrame, announcement]
    dsimp only
    by_cases same : id = source frame
    · rw [same, Function.update_self]
      simp only [and_true]
      exact typeOf_described { env with std } frame
    · rw [Function.update_of_ne same, if_neg (fun both => same both.2.symm)]
      rfl
  | reload env =>
    obtain ⟨types, -, rfl⟩ := reload_inv step
    dsimp only [announcement]
    rw [Option.none_or]
    cases m.nodes id with
    | none => rfl
    | some n =>
      change typeOf (if n.init = true then n.loadDescription std types else n) = typeOf n
      split
      · rw [typeOf, typeOf, loadDescription_init, loadDescription_nodeType]
      · rfl

theorem typeOf_run {history : List Update} (run : (updates std).run? m history = some next)
    (id : Fin (H9Frame.ID_MAX_VALUE + 1)) :
    (next.nodes id).bind typeOf = (announcedType id history).or ((m.nodes id).bind typeOf) := by
  induction history generalizing m with
  | nil => cases run; rfl
  | cons update history ih =>
    obtain ⟨middle, step, rest⟩ := run?_cons_eq_some.mp run
    rw [ih rest, typeOf_step step, announcedType, announcedType, List.reverse_cons, List.findSome?_append,
      Option.or_assoc]
    congr 2
    exact (List.findSome?_singleton ..).symm

end Steps

section Histories

variable {std : StdRegisters}

/-- A node at the end of a history, with the type announced for it last. -/
theorem canonical_of_describes {s t : NodeMgr} {history : List Update} {id : Fin (H9Frame.ID_MAX_VALUE + 1)}
    {n : Node} {type : BitVec 16} (start : (updates std).Initial s)
    (describes : (updates std).AllSteps Describes s history) (run : (updates std).run? s history = some t)
    (found : t.nodes id = some n) (announced : announcedType id history = some type) :
    n.nodeType = type ∧ n.Canonical std t.types := by
  have regular : AllRegular std t :=
    run_invariant_of_guard (AllRegular std) (fun _ _ _ regular describes step => regular.step describes step)
      (AllRegular.initial start) describes run
  have type := typeOf_run run id
  rw [found, announced] at type
  have seen : (if n.init then some n.nodeType else none) = some _ := type
  obtain ⟨init, known⟩ := Option.ite_none_right_eq_some.mp seen
  exact ⟨Option.some.inj known, (regular id n found).described init⟩

/-- Whatever was announced and loaded before, a node whose announced type has a name whenever it is described,
or which had no name before, is described by the type and the descriptions. -/
theorem described_by_type {s t s' t' : NodeMgr} {history history' : List Update}
    {id id' : Fin (H9Frame.ID_MAX_VALUE + 1)} {n n' : Node} {type : BitVec 16}
    (start : (updates std).Initial s) (describes : (updates std).AllSteps Describes s history)
    (run : (updates std).run? s history = some t) (found : t.nodes id = some n)
    (announced : announcedType id history = some type)
    (start' : (updates std).Initial s') (describes' : (updates std).AllSteps Describes s' history')
    (run' : (updates std).run? s' history' = some t') (found' : t'.nodes id' = some n')
    (announced' : announcedType id' history' = some type) (types : t.types type = t'.types type) :
    n.Canonical std t.types ∧ n.nodeName = n'.nodeName ∧ n.nodeDescription = n'.nodeDescription ∧
      n.registerMap = n'.registerMap ∧ ∀ desc ∈ stdRegister std, (n.registerMap desc.number).isSome := by
  obtain ⟨rfl, one⟩ := canonical_of_describes start describes run found announced
  obtain ⟨same, other⟩ := canonical_of_describes start' describes' run' found' announced'
  have sameName : getNodeNameByType t.types n.nodeType = getNodeNameByType t'.types n.nodeType := by
    rw [getNodeNameByType, types, getNodeNameByType]
  have sameDescription :
      getNodeDescriptionByType t.types n.nodeType = getNodeDescriptionByType t'.types n.nodeType := by
    rw [getNodeDescriptionByType, types, getNodeDescriptionByType]
  have sameRegisters : getNodeRegisterByType t.types n.nodeType = getNodeRegisterByType t'.types n.nodeType := by
    funext reg
    rw [getNodeRegisterByType, types, getNodeRegisterByType]
  have sameNamed : Named t.types n.nodeType ↔ Named t'.types n.nodeType := by
    rw [Named, sameName, Named]
  refine ⟨one, ?_, ?_, ?_, fun desc member => one.standard member⟩
  · rw [one.name, other.name, same]
    simp only [sameName, sameNamed]
  · rw [one.description, other.description, same]
    simp only [sameDescription, sameNamed]
  · rw [one.registers, other.registers, same, sameRegisters]

/-- The descriptions name the types up to the given one. -/
def switchesUpTo (last : BitVec 16) : Types := fun type =>
  if 0 < type ∧ type ≤ last then some ⟨"switch", "A switch.", fun _ => none⟩ else none

def loaded (types : Types) : NodeMgr := ⟨fun _ => none, types, []⟩

def announcing (sourceId type : Byte) : Update :=
  .frame default { (default : H9Frame) with
    type := H9Frame.FrameType.NODE_INFO, sourceId, data := Function.update (fun _ => 0) 1 type }

/-- A node that changed its type, and another that did not. -/
theorem described_by_type_switches : ∃ t t' n n',
    (updates default).run? (loaded (switchesUpTo 2)) [announcing 7 1, announcing 7 2] = some t ∧
    (updates default).run? (loaded (switchesUpTo 3)) [announcing 9 2] = some t' ∧
    t.nodes 7 = some n ∧ t'.nodes 9 = some n' ∧ n.nodeName = n'.nodeName := by
  have start (types : Types) : (updates default).Initial (loaded types) := fun id n found => by cases found
  have describes : (updates default).AllSteps Describes (loaded (switchesUpTo 2))
      [announcing 7 1, announcing 7 2] :=
    ⟨fun _ => ⟨fun same => absurd same.1 (by decide), fun _ => .inl (by decide)⟩,
      fun _ => ⟨fun _ => rfl, fun _ => .inl (by decide)⟩, trivial⟩
  have describes' : (updates default).AllSteps Describes (loaded (switchesUpTo 3)) [announcing 9 2] :=
    ⟨fun _ => ⟨fun same => absurd same.1 (by decide), fun _ => .inl (by decide)⟩, trivial⟩
  have announced : announcedType 7 [announcing 7 1, announcing 7 2] = some 2 := by decide
  have announced' : announcedType 9 [announcing 9 2] = some 2 := by decide
  have same := described_by_type (start _) describes rfl rfl announced (start _) describes' rfl rfl announced' rfl
  exact ⟨_, _, _, _, rfl, rfl, rfl, rfl, same.2.1⟩

/-- The name of the type before is kept when the type has none, and a node whose first announcement says what
the constructor says has no registers. -/
theorem described_by_history : ∃ t t' t'' n n' n'',
    (updates default).run? (loaded (switchesUpTo 1)) [announcing 7 1, announcing 7 2] = some t ∧
    (updates default).run? (loaded (switchesUpTo 1)) [announcing 7 2] = some t' ∧
    (updates default).run? (loaded (switchesUpTo 1)) [announcing 7 0] = some t'' ∧
    t.nodes 7 = some n ∧ t'.nodes 7 = some n' ∧ t''.nodes 7 = some n'' ∧
    announcedType 7 [announcing 7 1, announcing 7 2] = some 2 ∧ announcedType 7 [announcing 7 2] = some 2 ∧
    n.init = true ∧ n'.init = true ∧ n''.init = true ∧ t.types = t'.types ∧
    n.nodeName = "switch" ∧ n'.nodeName = "unknown" ∧ ∀ reg, n''.registerMap reg = none := by
  refine ⟨_, _, _, _, _, _, rfl, rfl, rfl, rfl, rfl, rfl, by decide, by decide, ?_⟩
  exact ⟨by decide, by decide, by decide, rfl, by decide, by decide, fun reg => rfl⟩

end Histories

end NodeMgr

end H9d
