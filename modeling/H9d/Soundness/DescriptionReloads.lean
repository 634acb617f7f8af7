import H9d.Soundness.DescriptionFiles
import H9d.Soundness.NodeDescriptions

/-! # Descriptions that are loaded again

The table of descriptions is cleared before the file is opened, and the nodes are described anew whatever became
of the file. So nothing that a file that cannot be read would have to keep is kept, apart from names.
-/

namespace H9d

open Cxx Machine LabeledMachine NodeDescLoader

namespace Node

/-- The name, the description text and the registers are those of the type. -/
structure DescribedBy (std : StdRegisters) (types : Types) (n : Node) : Prop where
  name : n.nodeName = ((types n.nodeType).map (·.name)).getD "unknown"
  description : n.nodeDescription = ((types n.nodeType).map (·.description)).getD ""
  registers : n.registerMap = fun reg =>
    (getNodeRegisterByType types n.nodeType reg).or ((stdRegister std).find? (·.number = reg))

/-- The description of a node is what it was. -/
structure Kept (n next : Node) : Prop where
  name : next.nodeName = n.nodeName
  description : next.nodeDescription = n.nodeDescription
  registers : next.registerMap = n.registerMap

/-- The type has a name, or the node is called already what it should be called without one. -/
def Fits (types : Types) (n : Node) : Prop :=
  match types n.nodeType with
  | none => n.Undescribed
  | some desc => desc.name = "" → n.nodeName = "" ∧ n.nodeDescription = desc.description

section Describe

variable {std : StdRegisters} {types : Types} {n : Node}

/-- A type without a name leaves the name and the text as they are. -/
theorem describedBy_of_unnamed (unnamed : ¬Named types n.nodeType) :
    (n.loadDescription std types).DescribedBy std types ↔
      n.nodeName = ((types n.nodeType).map (·.name)).getD "unknown" ∧
        n.nodeDescription = ((types n.nodeType).map (·.description)).getD "" := by
  rw [loadDescription_of_unnamed unnamed]
  constructor
  · rintro ⟨name, description, -⟩
    exact ⟨name, description⟩
  · rintro ⟨name, description⟩
    exact ⟨name, description, rfl⟩

theorem describedBy_loadDescription_iff : (n.loadDescription std types).DescribedBy std types ↔ n.Fits types := by
  rw [Fits]
  cases found : types n.nodeType with
  | none =>
    have unnamed : ¬Named types n.nodeType := by
      rw [Named, getNodeNameByType, found]
      exact not_not_intro rfl
    rw [describedBy_of_unnamed unnamed, found]
    exact Iff.rfl
  | some desc =>
    have name : getNodeNameByType types n.nodeType = desc.name := by
      rw [getNodeNameByType, found]
      rfl
    have description : getNodeDescriptionByType types n.nodeType = desc.description := by
      rw [getNodeDescriptionByType, found]
      rfl
    by_cases named : desc.name = ""
    · have unnamed : ¬Named types n.nodeType := by
        rw [Named, name, named]
        exact not_not_intro rfl
      rw [describedBy_of_unnamed unnamed, found]
      change n.nodeName = desc.name ∧ _ ↔ (desc.name = "" → _)
      rw [imp_iff_right named, named]
      exact Iff.rfl
    · have known : Named types n.nodeType := by
        rw [Named, name]
        exact named
      rw [loadDescription_of_named known]
      refine iff_of_true ⟨?_, ?_, rfl⟩ fun empty => absurd empty named
      · dsimp only
        rw [name, found]
        rfl
      · dsimp only
        rw [description, found]
        rfl

theorem Kept.refl (n : Node) : Kept n n := ⟨rfl, rfl, rfl⟩

/-- Without descriptions a node keeps its name, and loses the registers of its type. -/
theorem kept_loadDescription_iff : Kept n (n.loadDescription std fun _ => none) ↔
    n.registerMap = fun reg => (stdRegister std).find? (·.number = reg) := by
  have unnamed : ¬Named (fun _ => none) n.nodeType := not_not_intro rfl
  rw [loadDescription_of_unnamed unnamed]
  exact ⟨fun kept => kept.registers.symm, fun standard => ⟨rfl, rfl, standard.symm⟩⟩

end Describe

end Node

namespace NodeMgr

/-- A file that cannot be read changes nothing, and after another one everything is as the file says. -/
def Atomic (env : Env) (m : NodeMgr) : Prop :=
  ∃ next, m.reloadNodesDescription env = .value next ∧
    match env.nodesFile with
    | none => next.types = m.types ∧
        ∀ id n, m.nodes id = some n → ∃ n', next.nodes id = some n' ∧ n.Kept n'
    | some sections => next.types = told sections ∧
        ∀ id n, m.nodes id = some n → n.init = true →
          ∃ n', next.nodes id = some n' ∧ n'.DescribedBy env.std (told sections)

/-- There is nothing to lose when the file cannot be read. Another file gives every name, no names of bits pile up
in it, and no node is left with another name. -/
def Harmless (env : Env) (m : NodeMgr) : Prop :=
  match env.nodesFile with
  | none => m.types = (fun _ => none) ∧ ∀ id n, m.nodes id = some n → n.init = true →
      n.registerMap = fun reg => (stdRegister env.std).find? (·.number = reg)
  | some sections => Complete (some sections) ∧ OneListOfBits sections ∧
      ∀ id n, m.nodes id = some n → n.init = true → n.Fits (told sections)

section Reload

variable {env : Env} {m : NodeMgr}

/-- The manager after a reload that gave these types. -/
def redescribed (m : NodeMgr) (std : StdRegisters) (types : Types) : NodeMgr :=
  { m with
    types
    nodes := fun id => (m.nodes id).map fun node => if node.init then node.loadDescription std types else node }

section Redescribed

variable {id : Fin (H9Frame.ID_MAX_VALUE + 1)} {n : Node} (std : StdRegisters) (types : Types)

theorem redescribed_of_init (found : m.nodes id = some n) (init : n.init = true) :
    (m.redescribed std types).nodes id = some (n.loadDescription std types) := by
  rw [redescribed]
  dsimp only
  rw [found, Option.map_some, if_pos init]

theorem redescribed_of_not_init (found : m.nodes id = some n) (unseen : ¬n.init = true) :
    (m.redescribed std types).nodes id = some n := by
  rw [redescribed]
  dsimp only
  rw [found, Option.map_some, if_neg unseen]

end Redescribed

theorem reload_of_types {types : Types}
    (loaded : (reload env.nodesFile : Outcome DevNodeException Types) = .value types) :
    m.reloadNodesDescription env = .value (m.redescribed env.std types) := by
  rw [reloadNodesDescription, loaded]
  rfl

theorem atomic_unreadable_iff (unreadable : env.nodesFile = none) : Atomic env m ↔ Harmless env m := by
  have loaded : (reload env.nodesFile : Outcome DevNodeException Types) = .value fun _ => none := by
    rw [unreadable]
    rfl
  have run := reload_of_types (m := m) loaded
  rw [Atomic, Harmless, run, unreadable]
  dsimp only
  constructor
  · rintro ⟨next, ⟨⟩, types, nodes⟩
    refine ⟨types.symm, fun id n found init => ?_⟩
    obtain ⟨n', found', kept⟩ := nodes id n found
    cases found'.symm.trans (redescribed_of_init env.std _ found init)
    exact Node.kept_loadDescription_iff.mp kept
  · rintro ⟨types, nodes⟩
    refine ⟨_, rfl, types.symm, fun id n found => ?_⟩
    by_cases init : n.init = true
    · exact ⟨_, redescribed_of_init env.std _ found init, Node.kept_loadDescription_iff.mpr (nodes id n found init)⟩
    · exact ⟨n, redescribed_of_not_init env.std _ found init, .refl n⟩

theorem atomic_readable_iff {sections : List NodeTypeSection} (readable : env.nodesFile = some sections) :
    Atomic env m ↔ Harmless env m := by
  rw [Harmless, readable]
  dsimp only
  by_cases complete : Complete (some sections)
  · have loaded := reload_eq (ε := DevNodeException) complete
    rw [← readable] at loaded
    have run := reload_of_types (m := m) loaded
    rw [Atomic, run, readable, ← loaded_eq_told_iff, and_iff_right complete]
    generalize (fun type => extendType none (typeSections sections type)) = types
    dsimp only
    constructor
    · rintro ⟨next, ⟨⟩, rfl, nodes⟩
      refine ⟨rfl, fun id n found init => ?_⟩
      obtain ⟨n', found', described⟩ := nodes id n found init
      cases found'.symm.trans (redescribed_of_init env.std _ found init)
      exact Node.describedBy_loadDescription_iff.mp described
    · rintro ⟨rfl, nodes⟩
      refine ⟨_, rfl, rfl, fun id n found init => ?_⟩
      exact ⟨_, redescribed_of_init env.std _ found init,
        Node.describedBy_loadDescription_iff.mpr (nodes id n found init)⟩
  · refine iff_of_false ?_ fun harmless => complete harmless.1
    rintro ⟨next, run, -⟩
    obtain ⟨types, loaded, -⟩ := Outcome.bind_eq_value.mp run
    rw [readable] at loaded
    exact complete ((reload_returns DevNodeException (some sections)).mp (Outcome.returns_iff.mpr ⟨types, loaded⟩))

theorem atomic_iff (env : Env) (m : NodeMgr) : Atomic env m ↔ Harmless env m := by
  cases file : env.nodesFile with
  | none => exact atomic_unreadable_iff file
  | some sections => exact atomic_readable_iff file

end Reload

section Runs

/-- Reloads are atomic. -/
def AtomicStep (std : StdRegisters) (m : NodeMgr) : Update → Prop
  | .frame .. => True
  | .reload env => Atomic { env with std } m

def HarmlessStep (std : StdRegisters) (m : NodeMgr) : Update → Prop
  | .frame .. => True
  | .reload env => Harmless { env with std } m

/-- In every history, the reloads are atomic that have nothing to lose. -/
theorem atomic_runs_iff (std : StdRegisters) (s : NodeMgr) (history : List Update) :
    (updates std).AllSteps (AtomicStep std) s history ↔ (updates std).AllSteps (HarmlessStep std) s history := by
  refine AllSteps.congr (fun m update => ?_) s history
  cases update with
  | frame env frame => exact Iff.rfl
  | reload env => exact atomic_iff { env with std } m

/-- A type is described, and then the file cannot be read. -/
theorem not_atomic : ¬∀ (std : StdRegisters) (s : NodeMgr) (history : List Update), (updates std).Initial s →
    (updates std).AllSteps (AtomicStep std) s history := by
  intro all
  let loaded : NodeMgr :=
    { nodes := fun _ => none, types := fun _ => some ⟨"switch", "", fun _ => none⟩, devsMap := [] }
  have step := (all default loaded [.reload { (default : Env) with nodesFile := none }] (fun id n => nofun)).1
  obtain ⟨next, ⟨⟩, types, -⟩ := step
  have entry := congrFun types 1
  cases entry

end Runs

end NodeMgr

end H9d
