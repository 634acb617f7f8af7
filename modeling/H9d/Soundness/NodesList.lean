import H9d.Model.NodeTable
import H9d.Soundness.NodeDescriptions

/-! # The list of nodes

Frames and devices make nodes, but only a frame that announces a node puts it on the list, with what it carries.
The objects behind the array are the nodes of the manager, and each of them stays where it is.
-/

namespace H9d.NodeTable

open Cxx Machine LabeledMachine H9Frame
open NodeMgr (announces parseNodeInfoFrame source)

/-- What a frame that announces a node says of it. -/
structure Announcement where
  type : BitVec 16
  versionMajor : BitVec 16
  versionMinor : BitVec 16
  hardwareRevision : Byte
  resetReason : Byte
  deriving DecidableEq

def carried (frame : H9Frame) : Announcement where
  type := frame.data 0 ++ frame.data 1
  versionMajor := frame.data 2 ++ frame.data 3
  versionMinor := frame.data 4 ++ frame.data 5
  hardwareRevision := frame.data 6
  resetReason := frame.data 7

/-- What is listed, but the name. -/
def announced (d : NodeDsc) : Announcement :=
  ⟨d.type, d.versionMajor, d.versionMinor, d.hardwareRevision, d.resetReason⟩

/-- The frames that were processed. -/
def frames (events : List Event) : List H9Frame :=
  events.filterMap fun
    | .frame _ frame => some frame
    | .addDev .. | .reload _ => none

/-- The last frame that announced a node. -/
def lastAnnouncement (id : DevRegistry.NodeId) (frames : List H9Frame) : Option H9Frame :=
  (frames.filter fun frame => announces frame && source frame = id).getLast?

/-- What is expected of the list. -/
structure Reports (events : List Event) (s : NodeTable) : Prop where
  ascending : (s.getNodesList.map NodeDsc.id).Pairwise (· < ·)
  exact : ∀ id a, (∃ d ∈ s.getNodesList, d.id = id ∧ announced d = a) ↔
    (lastAnnouncement id (frames events)).map carried = some a

/-- What an entry of the array has on the list. -/
def listed (s : NodeTable) (id : DevRegistry.NodeId) : Option Announcement :=
  ((s.nodes.get? id).filter Node.init).map fun n => announced (n.dsc id)

section Nodes

variable {std : NodeDescLoader.StdRegisters} {types : NodeDescLoader.Types} {n : Node} {id : DevRegistry.NodeId}

theorem version_split (a b : BitVec 16) :
    (((a ++ b).setWidth 64 : BitVec 64) >>> 16).setWidth 16 = a ∧
      ((a ++ b).setWidth 64 : BitVec 64).setWidth 16 = b := by
  have first := a.isLt
  have second := b.isLt
  have whole : (a ++ b).toNat = a.toNat * 2 ^ 16 + b.toNat := Bits.toNat_append a b
  constructor
  · apply BitVec.eq_of_toNat_eq
    rw [BitVec.toNat_setWidth, BitVec.toNat_ushiftRight, BitVec.toNat_setWidth, whole, Nat.shiftRight_eq_div_pow]
    omega
  · apply BitVec.eq_of_toNat_eq
    rw [BitVec.toNat_setWidth, BitVec.toNat_setWidth, whole]
    omega

/-- A description has no say in what is listed but the name. -/
theorem announced_loadDescription : announced ((n.loadDescription std types).dsc id) = announced (n.dsc id) := by
  rw [Node.loadDescription]
  split <;> rfl

/-- The node takes all of the frame, also when nothing seems to have changed. -/
theorem announced_initAs (frame : H9Frame) :
    announced ((n.initAs std types (parseNodeInfoFrame frame).nodeType (parseNodeInfoFrame frame).version
      (parseNodeInfoFrame frame).hardwareRevision (parseNodeInfoFrame frame).resetReason).dsc id) =
        carried frame := by
  obtain ⟨major, minor⟩ := version_split (frame.data 2 ++ frame.data 3) (frame.data 4 ++ frame.data 5)
  rw [Node.initAs]
  split
  · next known =>
    obtain ⟨type, version, revision⟩ := known
    simp only [announced, Node.dsc, Node.nodeVersionMajor, Node.nodeVersionMinor, type, version, revision]
    rw [carried, Announcement.mk.injEq]
    exact ⟨rfl, major, minor, rfl, rfl⟩
  · rw [announced_loadDescription]
    simp only [announced, Node.dsc, Node.nodeVersionMajor, Node.nodeVersionMinor]
    rw [carried, Announcement.mk.injEq]
    exact ⟨rfl, major, minor, rfl, rfl⟩

end Nodes

section Steps

variable {s t : NodeTable} {id other : DevRegistry.NodeId}

/-- A node that is made is not on the list. -/
theorem listed_ensure {make : Node} (fresh : make.init = false) :
    listed { s with nodes := s.nodes.ensure other make } id = listed s id := by
  rw [listed, listed]
  dsimp only
  by_cases here : id = other
  · subst here
    rw [PointerArray.get?_ensure_self]
    cases s.nodes.get? id with
    | none =>
      rw [Option.getD_none, Option.filter_some, fresh]
      rfl
    | some n => rfl
  · rw [PointerArray.get?_ensure_of_ne here]

/-- A change that keeps what is listed of a node. -/
theorem listed_modify {f : Node → Node} (init : ∀ n, (f n).init = n.init)
    (same : ∀ n, announced ((f n).dsc id) = announced (n.dsc id)) :
    listed { s with nodes := s.nodes.modify other f } id = listed s id := by
  rw [listed, listed]
  dsimp only
  by_cases here : id = other
  · subst here
    rw [PointerArray.get?_modify_self]
    cases s.nodes.get? id with
    | none => rfl
    | some n =>
      rw [Option.map_some, Option.filter_some, Option.filter_some, init]
      split
      · exact congrArg some (same n)
      · rfl
  · rw [PointerArray.get?_modify_of_ne here]

/-- A node that is announced. -/
theorem listed_initNode {env : Env} {frame : H9Frame} (exists' : s.nodes.get? other ≠ none) :
    listed (s.initNode env other (parseNodeInfoFrame frame)) id =
      if other = id then some (carried frame) else listed s id := by
  rw [initNode, listed]
  dsimp only
  split
  · next here =>
    subst here
    obtain ⟨n, found⟩ := Option.ne_none_iff_exists'.mp exists'
    rw [PointerArray.get?_modify_self, found, Option.map_some, Option.filter_some, NodeMgr.initAs_init, if_pos rfl,
      Option.map_some, announced_initAs]
  · next apart =>
    rw [PointerArray.get?_modify_of_ne fun same => apart same.symm]
    rfl

theorem listed_handleFrame (env : Env) (frame : H9Frame) :
    listed (s.handleFrame env frame) id =
      if announces frame ∧ source frame = id then some (carried frame) else listed s id := by
  have seen (s : NodeTable) : listed (s.updateNodeLastSeenTime (source frame) frame.creationTimestamp) id =
      listed s id := listed_modify (fun _ => rfl) fun _ => rfl
  have made : listed { s with nodes := s.nodes.ensure (source frame) (Node.make env frame.sourceId) } id =
      listed s id := listed_ensure rfl
  rw [handleFrame, seen]
  by_cases announcing : announces frame = true
  · have exists' : (s.nodes.ensure (source frame) (Node.make env frame.sourceId)).get? (source frame) ≠ none := by
      rw [PointerArray.get?_ensure_self]
      exact Option.some_ne_none _
    rw [if_pos announcing, listed_initNode exists', made]
    simp only [announcing, true_and]
  · rw [if_neg announcing, if_neg fun both => announcing both.1, made]

theorem listed_addDev (env : DevRegistry.NodeId → Env) (d : Dev) : listed (s.addDev env d) id = listed s id := by
  have fold (nodeIds : List (BitVec 16)) (nodes : PointerArray DevRegistry.NodeId Node) :
      listed { s with nodes := nodeIds.foldl (addNode env) nodes } id = listed { s with nodes } id := by
    induction nodeIds generalizing nodes with
    | nil => rfl
    | cons nodeId nodeIds ih =>
      rw [List.foldl_cons, ih, addNode]
      split
      · exact listed_ensure (s := { s with nodes }) rfl
      · rfl
  rw [addDev]
  split
  · exact fold d.dependentOnNodes s.nodes
  · rfl

theorem reload_inv {env : Env} (step : machine.step? s (.reload env) = some t) :
    ∃ types, t = { s with
      types
      nodes := s.nodes.modifyEach (fun n => if n.init then n.loadDescription env.std types else n)
        (List.finRange (ID_MAX_VALUE + 1)) } := by
  dsimp only [machine, step?, reloadNodesDescription] at step
  cases loaded : (NodeDescLoader.reload env.nodesFile : Outcome DevNodeException NodeDescLoader.Types) with
  | value types =>
    rw [loaded] at step
    exact ⟨types, (Option.some.inj step).symm⟩
  | throws e => rw [loaded] at step; cases step
  | undefined => rw [loaded] at step; cases step

theorem listed_reload {env : Env} (step : machine.step? s (.reload env) = some t) : listed t id = listed s id := by
  obtain ⟨types, rfl⟩ := reload_inv step
  rw [listed, listed]
  dsimp only
  rw [PointerArray.get?_modifyEach_of_mem (List.nodup_finRange _) (List.mem_finRange id)]
  cases s.nodes.get? id with
  | none => rfl
  | some n =>
    rw [Option.map_some]
    by_cases init : n.init = true
    · rw [if_pos init, Option.filter_some, Option.filter_some, Node.loadDescription_init, if_pos init, if_pos init,
        Option.map_some, announced_loadDescription]
      rfl
    · rw [if_neg init]

/-- The frame of an event that announces a node. -/
def announcement (id : DevRegistry.NodeId) : Event → Option H9Frame
  | .frame _ frame => if announces frame ∧ source frame = id then some frame else none
  | .addDev .. | .reload _ => none

theorem listed_step {event : Event} (step : machine.step? s event = some t) :
    listed t id = ((announcement id event).map carried).or (listed s id) := by
  cases event with
  | frame env frame =>
    cases step
    rw [listed_handleFrame, announcement]
    split <;> rfl
  | addDev env d =>
    cases step
    exact listed_addDev env d
  | reload env => exact listed_reload step

theorem lastAnnouncement_cons (event : Event) (events : List Event) :
    lastAnnouncement id (frames (event :: events)) =
      (lastAnnouncement id (frames events)).or (announcement id event) := by
  cases event with
  | frame env frame =>
    have first : frames (.frame env frame :: events) = frame :: frames events := rfl
    rw [first, lastAnnouncement, lastAnnouncement, List.filter_cons, announcement]
    by_cases here : announces frame = true ∧ source frame = id
    · have counts : (announces frame && decide (source frame = id)) = true := by
        rw [here.1, decide_eq_true here.2]
        rfl
      rw [if_pos here, if_pos counts, List.getLast?_cons]
      cases ((frames events).filter fun frame => announces frame && decide (source frame = id)).getLast? <;> rfl
    · have apart : ¬(announces frame && decide (source frame = id)) = true := by
        rw [Bool.and_eq_true, decide_eq_true_iff]
        exact here
      rw [if_neg here, if_neg apart, Option.or_none]
  | addDev env d => exact (Option.or_none).symm
  | reload env => exact (Option.or_none).symm

/-- What is listed of a node is what the last frame that announced it says. -/
theorem listed_run {events : List Event} (run : machine.run? s events = some t) :
    listed t id = ((lastAnnouncement id (frames events)).map carried).or (listed s id) := by
  induction events generalizing s with
  | nil =>
    cases run
    rfl
  | cons event events ih =>
    obtain ⟨middle, step, rest⟩ := run?_cons_eq_some.mp run
    rw [ih rest, listed_step step, lastAnnouncement_cons, ← Option.or_assoc]
    congr 1
    cases lastAnnouncement id (frames events) <;> rfl

end Steps

section Lists

variable {s t u : NodeTable} {events : List Event}

theorem mem_getNodesList_iff {id : DevRegistry.NodeId} {a : Announcement} :
    (∃ d ∈ s.getNodesList, d.id = id ∧ announced d = a) ↔ listed s id = some a := by
  constructor
  · rintro ⟨d, member, rfl, rfl⟩
    obtain ⟨id, -, found⟩ := List.mem_filterMap.mp member
    obtain ⟨n, seen, rfl⟩ := Option.map_eq_some_iff.mp found
    exact Option.map_eq_some_iff.mpr ⟨n, seen, rfl⟩
  · intro found
    obtain ⟨n, seen, same⟩ := Option.map_eq_some_iff.mp found
    exact ⟨n.dsc id, List.mem_filterMap.mpr ⟨id, List.mem_finRange id, by rw [seen]; rfl⟩, rfl, same⟩

/-- The loop over the array goes up. -/
theorem ascending_getNodesList (s : NodeTable) : (s.getNodesList.map NodeDsc.id).Pairwise (· < ·) := by
  rw [List.pairwise_map, getNodesList, List.pairwise_filterMap]
  refine (List.pairwise_lt_finRange _).imp fun {i j} less d found e found' => ?_
  obtain ⟨n, -, rfl⟩ := Option.map_eq_some_iff.mp found
  obtain ⟨n', -, rfl⟩ := Option.map_eq_some_iff.mp found'
  exact less

theorem extends_step {event : Event} (step : machine.step? s event = some t) : s.nodes.Extends t.nodes := by
  cases event with
  | frame env frame =>
    cases step
    have made := PointerArray.extends_ensure (a := s.nodes) (source frame) (Node.make env frame.sourceId)
    rw [handleFrame]
    split
    · exact (made.trans (PointerArray.extends_modify _ _)).trans (PointerArray.extends_modify _ _)
    · exact made.trans (PointerArray.extends_modify _ _)
  | addDev env d =>
    cases step
    have fold (nodeIds : List (BitVec 16)) (nodes : PointerArray DevRegistry.NodeId Node) :
        nodes.Extends (nodeIds.foldl (addNode env) nodes) := by
      induction nodeIds generalizing nodes with
      | nil => exact .refl nodes
      | cons nodeId nodeIds ih =>
        refine PointerArray.Extends.trans ?_ (ih _)
        rw [addNode]
        split
        · exact PointerArray.extends_ensure _ _
        · exact .refl nodes
    rw [addDev]
    split
    · exact fold d.dependentOnNodes s.nodes
    · exact .refl s.nodes
  | reload env =>
    obtain ⟨types, rfl⟩ := reload_inv step
    generalize List.finRange (ID_MAX_VALUE + 1) = ids
    exact PointerArray.extends_modifyEach _ ids

theorem extends_run (run : machine.run? s events = some t) : s.nodes.Extends t.nodes :=
  run_invariant (fun t => s.nodes.Extends t.nodes) (fun _ _ _ before step => before.trans (extends_step step))
    (.refl s.nodes) run

/-- Whatever was processed, the list has the nodes that announced themselves, with what they said last, and the
nodes that were there before are there still. -/
theorem reports_of_run (initial : machine.Initial s) (run : machine.run? s events = some t) :
    Reports events t ∧ ∀ first second, events = first ++ second → ∀ u, machine.run? s first = some u →
      u.nodes.Extends t.nodes := by
  refine ⟨⟨ascending_getNodesList t, fun id a => ?_⟩, ?_⟩
  · obtain ⟨types, rfl⟩ := initial
    have fresh : listed (start types) id = none := rfl
    rw [mem_getNodesList_iff, listed_run run, fresh, Option.or_none]
  · rintro first second rfl u before
    obtain ⟨middle, run', rest⟩ := run?_append_eq_some.mp run
    cases before.symm.trans run'
    exact extends_run rest

/-- A device of the node 5, a node 7 that announces itself, and a frame of the node 9. -/
def threeNodes : List Event :=
  [.addDev (fun _ => default) ⟨"antennas", [5], .atu 5⟩,
    .frame default { (default : H9Frame) with type := FrameType.NODE_INFO, sourceId := 7 },
    .frame default { (default : H9Frame) with type := FrameType.REG_VALUE, sourceId := 9 }]

theorem reports_of_run_threeNodes : ∃ t, machine.run? (start fun _ => none) threeNodes = some t ∧
    Reports threeNodes t :=
  ⟨_, rfl, (reports_of_run ⟨_, rfl⟩ rfl).1⟩

end Lists

section Manager

variable {s t : NodeTable}

/-- The array of pointers does what the manager does to its nodes. -/
theorem manager_handleFrame (env : Env) (frame : H9Frame) :
    (s.handleFrame env frame).manager = s.manager.handleFrame env frame := by
  have table : (s.handleFrame env frame).types = s.types ∧ (s.handleFrame env frame).devsMap = s.devsMap := by
    rw [handleFrame]
    split <;> exact ⟨rfl, rfl⟩
  have nodes : (s.handleFrame env frame).nodes.get? = Function.update s.nodes.get? (source frame)
      (some { s.manager.described env frame with lastSeenTime := frame.creationTimestamp }) := by
    funext id
    rw [handleFrame, NodeMgr.described]
    by_cases here : id = source frame
    · subst here
      rw [Function.update_self]
      split <;> rw [updateNodeLastSeenTime, PointerArray.get?_modify_self]
      · rw [initNode, PointerArray.get?_modify_self, PointerArray.get?_ensure_self]
        rfl
      · rw [PointerArray.get?_ensure_self]
        rfl
    · rw [Function.update_of_ne here]
      split <;> rw [updateNodeLastSeenTime, PointerArray.get?_modify_of_ne here]
      · rw [initNode, PointerArray.get?_modify_of_ne here, PointerArray.get?_ensure_of_ne here]
      · rw [PointerArray.get?_ensure_of_ne here]
  rw [manager, nodes, table.1, table.2]
  rfl

theorem manager_reload {env : Env} {m : NodeTable} (reloaded : s.reloadNodesDescription env = .value m) :
    s.manager.reloadNodesDescription env = .value m.manager := by
  obtain ⟨types, loaded, same⟩ := Outcome.bind_eq_value.mp reloaded
  have each (f : Node → Node) : (s.nodes.modifyEach f (List.finRange (ID_MAX_VALUE + 1))).get? =
      fun id => (s.nodes.get? id).map f :=
    funext fun id => PointerArray.get?_modifyEach_of_mem (List.nodup_finRange _) (List.mem_finRange id)
  rw [Outcome.pure_eq, Outcome.value.injEq] at same
  rw [← same, manager, manager, each]
  exact Outcome.bind_eq_value.mpr ⟨types, loaded, rfl⟩

theorem getNodesList_manager (s : NodeTable) :
    s.getNodesList = s.manager.getNodesList.map fun entry => entry.2.dsc entry.1 := by
  rw [getNodesList, NodeMgr.getNodesList, List.map_filterMap]
  refine List.filterMap_congr fun id _ => ?_
  rw [Option.map_map]
  rfl

end Manager

end H9d.NodeTable
