import H9d.Model.DevRegistry
import Mathlib.Data.List.Nodup

/-! # The two places where a device is registered

A device that is added is in the map and in the lists of its nodes, once for each time that a node is
among its ids. A device that is deleted leaves the lists, and stays in the map.
-/

namespace H9d.DevRegistry

open H9Frame Machine LabeledMachine Cxx NodeMgr

variable {Device : Type} [DecidableEq Device]

/-- The map has the device under its name. -/
def Registered (s : DevRegistry Device) (dev : Device) (d : Dev) : Prop :=
  s.devsMap.lookup d.name = some dev ∧ s.heap dev = some d

def DependsOn (s : DevRegistry Device) (dev : Device) (node : NodeId) : Prop :=
  ∃ d, s.Registered dev d ∧ node ∈ d.dependentOnNodes.filterMap inArray

/-- The devices in the map are there, under their names. -/
def Owned (s : DevRegistry Device) : Prop :=
  ∀ name dev, s.devsMap.lookup name = some dev → ∃ d, s.heap dev = some d ∧ d.name = name

/-- The lists of the nodes say what the map says. -/
structure Exact (s : DevRegistry Device) : Prop where
  mem : ∀ node dev, dev ∈ s.dependentDevices node ↔ s.DependsOn dev node
  once : ∀ node, (s.dependentDevices node).Nodup

/-- No call of the API finds the name. -/
def Unknown (s : DevRegistry Device) (name : String) : Prop :=
  name ∉ s.devs.map Prod.fst ∧ ∀ (m : NodeMgr) (α : Type) (operation : Dev → Call Port Exception α),
    NodeMgr.withDev { m with devsMap := s.devs } name operation =
      Call.throw (.devNode (.deviceNotExistException name))

/-- No registered device is deleted, and no node is twice among the ids of a device that is accepted. -/
def Keeps (s : DevRegistry Device) : Event Device → Prop
  | .addDev _ d => s.devsMap.lookup d.name = none → (d.dependentOnNodes.filterMap inArray).Nodup
  | .delDev devId => s.devsMap.lookup devId = none
  | .frame _ => True

section Loops

variable (dev : Device) (ids : List (BitVec 16))

omit [DecidableEq Device] in
/-- The loop of `add_dev` adds the device once for each time that a node is among its ids. -/
theorem foldl_addDependent (nodes : NodeId → Option (List Device)) (node : NodeId) :
    (ids.foldl (addDependent dev) nodes node).getD [] =
      (nodes node).getD [] ++ List.replicate ((ids.filterMap inArray).count node) dev := by
  induction ids generalizing nodes with
  | nil => exact (List.append_nil _).symm
  | cons nodeId ids ih =>
    rw [List.foldl_cons, ih, List.filterMap_cons, addDependent]
    cases inArray nodeId with
    | none => rfl
    | some other =>
      dsimp only
      by_cases same : node = other
      · rw [same, Function.update_self, Option.getD_some, List.count_cons_self, List.replicate_succ,
          List.append_assoc, List.singleton_append]
      · rw [Function.update_of_ne same, List.count_cons_of_ne (Ne.symm same)]

/-- The loop of `del_dev` takes the device from the lists of its nodes. -/
theorem foldlM_delDependent {nodes after : NodeId → Option (List Device)}
    (deleted : ids.foldlM (delDependent dev) nodes = some after) (node : NodeId) :
    (after node).getD [] =
      if node ∈ ids.filterMap inArray then ((nodes node).getD []).filter (· ≠ dev) else (nodes node).getD [] := by
  induction ids generalizing nodes with
  | nil => cases deleted; rfl
  | cons nodeId ids ih =>
    rw [List.foldlM_cons, Option.bind_eq_bind, Option.bind_eq_some_iff] at deleted
    obtain ⟨middle, first, rest⟩ := deleted
    rw [ih rest, List.filterMap_cons]
    rw [delDependent] at first
    cases found : inArray nodeId with
    | none =>
      rw [found] at first
      cases first
      rfl
    | some other =>
      rw [found] at first
      obtain ⟨devices, there, rfl⟩ := Option.map_eq_some_iff.mp first
      dsimp only
      by_cases same : node = other
      · rw [same, Function.update_self, if_pos List.mem_cons_self, there, Option.getD_some, Option.getD_some,
          List.filter_filter]
        simp only [Bool.and_self, ite_self]
      · rw [Function.update_of_ne same]
        simp only [List.mem_cons, same, false_or]

end Loops

section Calls

variable {s t : DevRegistry Device} {dev : Device} {d : Dev}

/-- Only equal names are one name. -/
theorem equivalent_name (a b : String) : Equivalent (fun a b : String => decide (a < b)) a b ↔ a = b := by
  constructor
  · intro equivalent
    obtain ⟨one, other⟩ := equivalent
    exact le_antisymm (not_lt.mp (of_decide_eq_false other)) (not_lt.mp (of_decide_eq_false one))
  · rintro rfl
    exact ⟨decide_eq_false (lt_irrefl a), decide_eq_false (lt_irrefl a)⟩

/-- The manager with a device that it accepted. -/
def accepted (s : DevRegistry Device) (dev : Device) (d : Dev) : DevRegistry Device where
  heap := Function.update s.heap dev (some d)
  devsMap := s.devsMap.access (fun a b => a < b) d.name dev fun _ => dev
  nodes := d.dependentOnNodes.foldl (addDependent dev) s.nodes

/-- A device of a new name is accepted, and one that is refused leaves nothing. -/
theorem addDev_step (fresh : s.heap dev = none) :
    step? s (.addDev dev d) = some (if s.devsMap.lookup d.name = none then s.accepted dev d else s) := by
  have free : Function.update s.heap dev none = s.heap := by rw [← fresh, Function.update_eq_self]
  rw [step?, if_pos fresh, addDev]
  dsimp only
  rw [Function.update_self]
  dsimp only [Option.bind_eq_bind, Option.bind_some]
  split
  · rfl
  · rw [Function.update_idem, free]
    rfl

theorem fresh_of_step (step : step? s (.addDev dev d) = some t) : s.heap dev = none :=
  (Option.ite_none_right_eq_some.mp step).1

theorem heap_accepted : (s.accepted dev d).heap = Function.update s.heap dev (some d) := rfl

theorem lookup_accepted (absent : s.devsMap.lookup d.name = none) (name : String) :
    (s.accepted dev d).devsMap.lookup name = if name = d.name then some dev else s.devsMap.lookup name :=
  OrderedMap.lookup_access_of_absent _ _ _ _ equivalent_name absent name

/-- A name that is not known stays so, and one that is known is of a device that leaves the lists. -/
theorem delDev_cases {devId : String} (step : step? s (.delDev devId) = some t) :
    (s.devsMap.lookup devId = none ∧ t = s) ∨
    ∃ dev d, s.devsMap.lookup devId = some dev ∧ s.heap dev = some d ∧
      ∃ nodes, d.dependentOnNodes.foldlM (delDependent dev) s.nodes = some nodes ∧ t = { s with nodes } := by
  rw [step?, delDev] at step
  cases found : s.devsMap.lookup devId with
  | none =>
    rw [found] at step
    exact .inl ⟨rfl, (Option.some.inj step).symm⟩
  | some dev =>
    rw [found] at step
    obtain ⟨d, there, step⟩ := Option.bind_eq_some_iff.mp step
    obtain ⟨nodes, loop, step⟩ := Option.bind_eq_some_iff.mp step
    exact .inr ⟨dev, d, rfl, there, nodes, loop, (Option.some.inj step).symm⟩

omit [DecidableEq Device] in
theorem dependentDevices_handleFrame (frame : H9Frame) :
    (s.handleFrame frame).dependentDevices = s.dependentDevices := by
  funext node
  rw [dependentDevices, handleFrame]
  dsimp only
  by_cases same : node = source frame
  · rw [same, Function.update_self]
    rfl
  · rw [Function.update_of_ne same]
    rfl

end Calls

section Registration

variable {s t : DevRegistry Device} {dev : Device} {d : Dev}

theorem Owned.accepted (owned : s.Owned) (fresh : s.heap dev = none)
    (absent : s.devsMap.lookup d.name = none) : (s.accepted dev d).Owned := by
  intro name other found
  rw [lookup_accepted absent] at found
  split at found
  · next same =>
    cases found
    exact ⟨d, Function.update_self .., same.symm⟩
  · next apart =>
    obtain ⟨e, there, named⟩ := owned name other found
    refine ⟨e, (Function.update_of_ne ?_ ..).trans there, named⟩
    rintro rfl
    cases fresh.symm.trans there

theorem registered_accepted (owned : s.Owned) (fresh : s.heap dev = none)
    (absent : s.devsMap.lookup d.name = none) (other : Device) (e : Dev) :
    (s.accepted dev d).Registered other e ↔ s.Registered other e ∨ other = dev ∧ e = d := by
  rw [Registered, lookup_accepted absent, heap_accepted]
  constructor
  · rintro ⟨found, there⟩
    split at found
    · cases found
      rw [Function.update_self] at there
      exact .inr ⟨rfl, (Option.some.inj there).symm⟩
    · obtain ⟨_, before, -⟩ := owned e.name other found
      rw [Function.update_of_ne] at there
      · exact .inl ⟨found, there⟩
      · rintro rfl
        cases fresh.symm.trans before
  · rintro (⟨found, there⟩ | ⟨rfl, rfl⟩)
    · have apart : e.name ≠ d.name := by
        intro same
        cases absent.symm.trans (same ▸ found)
      refine ⟨(if_neg apart).trans found, (Function.update_of_ne ?_ ..).trans there⟩
      rintro rfl
      cases fresh.symm.trans there
    · exact ⟨if_pos rfl, Function.update_self ..⟩

theorem dependsOn_accepted (owned : s.Owned) (fresh : s.heap dev = none)
    (absent : s.devsMap.lookup d.name = none) (other : Device) (node : NodeId) :
    (s.accepted dev d).DependsOn other node ↔
      s.DependsOn other node ∨ other = dev ∧ node ∈ d.dependentOnNodes.filterMap inArray := by
  simp only [DependsOn, registered_accepted owned fresh absent]
  constructor
  · rintro ⟨e, before | ⟨rfl, rfl⟩, among⟩
    · exact .inl ⟨e, before, among⟩
    · exact .inr ⟨rfl, among⟩
  · rintro (⟨e, before, among⟩ | ⟨rfl, among⟩)
    · exact ⟨e, .inl before, among⟩
    · exact ⟨d, .inr ⟨rfl, rfl⟩, among⟩

/-- The lists stay right exactly when the device has no node twice. -/
theorem exact_accepted_iff (exact : s.Exact) (owned : s.Owned) (fresh : s.heap dev = none)
    (absent : s.devsMap.lookup d.name = none) :
    (s.accepted dev d).Exact ↔ (d.dependentOnNodes.filterMap inArray).Nodup := by
  have lists (node : NodeId) : (s.accepted dev d).dependentDevices node = s.dependentDevices node ++
      List.replicate ((d.dependentOnNodes.filterMap inArray).count node) dev :=
    foldl_addDependent dev d.dependentOnNodes s.nodes node
  have unlisted (node : NodeId) : dev ∉ s.dependentDevices node := by
    rw [exact.mem]
    rintro ⟨e, ⟨-, there⟩, -⟩
    cases fresh.symm.trans there
  rw [List.nodup_iff_count_le_one]
  constructor
  · intro after node
    have once := after.once node
    rw [lists] at once
    exact List.nodup_replicate.mp (List.nodup_append.mp once).2.1
  · intro few
    refine ⟨fun node other => ?_, fun node => ?_⟩
    · rw [lists, List.mem_append, exact.mem, dependsOn_accepted owned fresh absent, List.mem_replicate,
        ← Nat.pos_iff_ne_zero, List.count_pos_iff, and_comm]
    · rw [lists]
      refine List.nodup_append.mpr ⟨exact.once node, List.nodup_replicate.mpr (few node), ?_⟩
      intro one before other added
      obtain rfl := List.eq_of_mem_replicate added
      rintro rfl
      exact unlisted node before

omit [DecidableEq Device] in
theorem dependentDevices_nodes {nodes : NodeId → Option (List Device)} (node : NodeId) :
    dependentDevices { s with nodes } node = (nodes node).getD [] := rfl

/-- The lists stay right exactly when the device that is deleted has no nodes. -/
theorem exact_deleted_iff (exact : s.Exact) (registered : s.Registered dev d)
    {nodes : NodeId → Option (List Device)}
    (loop : d.dependentOnNodes.foldlM (delDependent dev) s.nodes = some nodes) :
    Exact { s with nodes } ↔ d.dependentOnNodes.filterMap inArray = [] := by
  have lists := foldlM_delDependent dev d.dependentOnNodes loop
  constructor
  · intro after
    refine List.eq_nil_iff_forall_not_mem.mpr fun node among => ?_
    have listed := (after.mem node dev).mpr ⟨d, registered, among⟩
    rw [dependentDevices_nodes, lists, if_pos among] at listed
    exact absurd rfl (of_decide_eq_true (List.mem_filter.mp listed).2)
  · intro none
    have same : dependentDevices { s with nodes } = s.dependentDevices := by
      funext node
      rw [dependentDevices_nodes, lists, none, if_neg List.not_mem_nil]
      rfl
    refine ⟨fun node other => ?_, fun node => ?_⟩
    · rw [same]
      exact exact.mem node other
    · rw [same]
      exact exact.once node

omit [DecidableEq Device] in
theorem unknown_iff (owned : s.Owned) (name : String) : s.Unknown name ↔ s.devsMap.lookup name = none := by
  constructor
  · intro unknown
    cases found : s.devsMap.lookup name with
    | none => rfl
    | some dev =>
      obtain ⟨d, there, -⟩ := owned name dev found
      obtain ⟨before, after, split, -⟩ := List.lookup_eq_some_iff.mp found
      refine absurd (List.mem_map.mpr ⟨(name, d), List.mem_filterMap.mpr ⟨(name, dev), ?_, ?_⟩, rfl⟩) unknown.1
      · rw [split]
        exact List.mem_append_right _ List.mem_cons_self
      · exact congrArg (Option.map fun d => (name, d)) there
  · intro absent
    have unlisted : name ∉ s.devs.map Prod.fst := by
      intro listed
      obtain ⟨⟨_, d⟩, member, rfl⟩ := List.mem_map.mp listed
      obtain ⟨⟨other, dev⟩, entry, found⟩ := List.mem_filterMap.mp member
      obtain ⟨e, -, same⟩ := Option.map_eq_some_iff.mp found
      cases same
      exact absurd (List.lookup_eq_none_iff.mp absent _ entry) (by simp)
    refine ⟨unlisted, fun m α operation => ?_⟩
    have missed : s.devs.lookup name = none := by
      refine List.lookup_eq_none_iff.mpr fun entry member => ?_
      rw [bne_iff_ne]
      rintro rfl
      exact unlisted (List.mem_map_of_mem member)
    rw [NodeMgr.withDev]
    dsimp only
    rw [missed]

end Registration

section Runs

variable {s t : DevRegistry Device}

omit [DecidableEq Device] in
theorem exact_start : Exact (start : DevRegistry Device) := by
  refine ⟨fun node dev => iff_of_false List.not_mem_nil ?_, fun node => List.nodup_nil⟩
  rintro ⟨d, ⟨found, -⟩, -⟩
  cases found

omit [DecidableEq Device] in
theorem owned_start : Owned (start : DevRegistry Device) := fun name dev found => by cases found

/-- A frame and a name that is not known change nothing that is registered. -/
theorem step_inv {e : Event Device} (keeps : s.Keeps e) (step : step? s e = some t) :
    t = s ∨ (∃ frame, t = s.handleFrame frame) ∨
    ∃ dev d, s.heap dev = none ∧ s.devsMap.lookup d.name = none ∧
      (d.dependentOnNodes.filterMap inArray).Nodup ∧ t = s.accepted dev d := by
  cases e with
  | addDev dev d =>
    have fresh := fresh_of_step step
    rw [addDev_step fresh] at step
    by_cases absent : s.devsMap.lookup d.name = none
    · rw [if_pos absent] at step
      exact .inr (.inr ⟨dev, d, fresh, absent, keeps absent, (Option.some.inj step).symm⟩)
    · rw [if_neg absent] at step
      exact .inl (Option.some.inj step).symm
  | delDev devId =>
    have absent : s.devsMap.lookup devId = none := keeps
    rcases delDev_cases step with ⟨-, same⟩ | ⟨dev, d, found, -⟩
    · exact .inl same
    · cases absent.symm.trans found
  | frame frame => exact .inr (.inl ⟨frame, (Option.some.inj step).symm⟩)

theorem Exact.step {e : Event Device} (exact : s.Exact) (owned : s.Owned) (keeps : s.Keeps e)
    (step : step? s e = some t) : t.Exact ∧ t.Owned := by
  rcases step_inv keeps step with rfl | ⟨frame, rfl⟩ | ⟨dev, d, fresh, absent, distinct, rfl⟩
  · exact ⟨exact, owned⟩
  · refine ⟨⟨fun node dev => ?_, fun node => ?_⟩, owned⟩
    · rw [dependentDevices_handleFrame]
      exact exact.mem node dev
    · rw [dependentDevices_handleFrame]
      exact exact.once node
  · exact ⟨(exact_accepted_iff exact owned fresh absent).mpr distinct, owned.accepted fresh absent⟩

/-- The task of a device for a frame. -/
def task (dev : Device) (frame : H9Frame) : DevWorkers.Task Device :=
  .updateTask dev (frame.sourceId.setWidth 16) frame

theorem Exact.tasks (exact : s.Exact) (frame : H9Frame) :
    (∀ dev, s.DependsOn dev (source frame) → (s.updateTasks frame).count (task dev frame) = 1) ∧
      ∀ made ∈ s.updateTasks frame, ∃ dev, s.DependsOn dev (source frame) ∧ made = task dev frame := by
  have injective : Function.Injective fun dev : Device => task dev frame := by
    intro one other same
    cases same
    rfl
  constructor
  · intro dev depends
    have member : dev ∈ s.dependentDevices (source frame) := (exact.mem _ dev).mpr depends
    refine List.count_eq_one_of_mem ?_ (List.mem_map_of_mem member)
    exact (exact.once (source frame)).map injective
  · intro made member
    obtain ⟨dev, listed, rfl⟩ := List.mem_map.mp member
    exact ⟨dev, (exact.mem _ dev).mp listed, rfl⟩

/-- The thread of the manager makes the tasks from the lists when it takes a frame. -/
theorem handle_updateTasks {Worker : Type} [DecidableEq Worker] {w next : DevWorkers.State Worker Device}
    {frame : H9Frame} {frames : List H9Frame} (queued : w.frameQueue = frame :: frames)
    (step : DevWorkers.step? w (.handle (s.dependentDevices (source frame))) = some next) :
    next.jobs = s.updateTasks frame ∧ next.frameQueue = frames := by
  obtain ⟨-, taken⟩ := Option.ite_none_left_eq_some.mp step
  rw [DevWorkers.enabled?, queued] at taken
  cases jobs : w.jobs with
  | cons task jobs =>
    rw [jobs] at taken
    cases taken
  | nil =>
    cases releasing : w.releasing with
    | true =>
      rw [jobs, releasing] at taken
      cases taken
    | false =>
      rw [jobs, releasing] at taken
      cases taken
      exact ⟨rfl, rfl⟩

/-- What a deletion says of the name afterwards. -/
def Gone (s : DevRegistry Device) (name : String) : Prop :=
  s.Unknown name ∧ ∀ dev d, s.heap dev = none → d.name = name →
    ∃ t, step? s (.addDev dev d) = some t ∧ t.Registered dev d

theorem gone_iff (owned : s.Owned) {name : String} (step : step? s (.delDev name) = some t) :
    t.Gone name ↔ s.devsMap.lookup name = none := by
  have ownedAfter : t.Owned ∧ t.devsMap = s.devsMap := by
    rcases delDev_cases step with ⟨-, rfl⟩ | ⟨dev, d, -, -, nodes, -, rfl⟩
    · exact ⟨owned, rfl⟩
    · exact ⟨owned, rfl⟩
  rw [Gone, unknown_iff ownedAfter.1, ownedAfter.2, and_iff_left_iff_imp]
  rintro absent dev d fresh rfl
  have missing : t.devsMap.lookup d.name = none := by rwa [ownedAfter.2]
  refine ⟨t.accepted dev d, ?_, ?_⟩
  · rw [addDev_step fresh, if_pos missing]
  · exact (registered_accepted ownedAfter.1 fresh missing dev d).mpr (.inr ⟨rfl, rfl⟩)

/-- As long as no registered device is deleted, and no node is twice among the ids of a device, the lists of the
nodes say what the map says. -/
theorem exact_of_keeps {es : List (Event Device)} (keeps : (machine Device).AllSteps Keeps start es)
    (run : (machine Device).run? start es = some t) :
    t.Exact ∧
    (∀ frame dev, t.DependsOn dev (source frame) → (t.updateTasks frame).count (task dev frame) = 1) ∧
    (∀ frame, ∀ made ∈ t.updateTasks frame, ∃ dev, t.DependsOn dev (source frame) ∧ made = task dev frame) ∧
    (∀ dev d, t.heap dev = none → t.devsMap.lookup d.name ≠ none → step? t (.addDev dev d) = some t) ∧
    ∀ name next, step? t (.delDev name) = some next → (next.Gone name ↔ t.Keeps (.delDev name)) := by
  have both : t.Exact ∧ t.Owned :=
    run_invariant_of_guard (fun s => Exact s ∧ Owned s)
      (fun _ _ _ both keeps step => both.1.step both.2 keeps step) ⟨exact_start, owned_start⟩ keeps run
  refine ⟨both.1, fun frame => (both.1.tasks frame).1, fun frame => (both.1.tasks frame).2, ?_, ?_⟩
  · intro dev d fresh known
    rw [addDev_step fresh, if_neg known]
  · intro name next step
    exact gone_iff both.2 step

def switchOf (dependentOnNodes : List (BitVec 16)) : Dev := ⟨"switch", dependentOnNodes, .powerSwitch 0⟩

/-- An id that is no node, a duplicate of another device, and the deletion of a name that is not known. -/
theorem exact_of_keeps_switch : ∃ t,
    (machine ℕ).run? start [.addDev 0 (switchOf [7, 300]), .addDev 1 (switchOf [8]), .delDev "antenna"] = some t ∧
      t.Exact ∧ t.dependentDevices 7 = [0] := by
  have keeps : (machine ℕ).AllSteps Keeps start
      [.addDev 0 (switchOf [7, 300]), .addDev 1 (switchOf [8]), .delDev "antenna"] :=
    ⟨fun _ => by decide, fun known => absurd known (by decide), rfl, trivial⟩
  exact ⟨_, rfl, (exact_of_keeps keeps rfl).1, by decide +kernel⟩

/-- A device that was deleted is in the map, so another one of its name is refused; and a device with a node
twice among its ids is twice in the list. -/
theorem inexact_deleted : ∃ t u,
    (machine ℕ).run? start [.addDev 0 (switchOf [7]), .delDev "switch"] = some t ∧
      t.DependsOn 0 7 ∧ t.dependentDevices 7 = [] ∧ ¬ t.Unknown "switch" ∧
      step? t (.addDev 1 (switchOf [7])) = some t ∧
    (machine ℕ).run? start [.addDev 0 (switchOf [7, 7])] = some u ∧ u.dependentDevices 7 = [0, 0] := by
  refine ⟨_, _, rfl, ⟨switchOf [7], ⟨rfl, rfl⟩, by decide⟩, by decide +kernel, ?_, ?_, rfl, by decide +kernel⟩
  · intro unknown
    exact unknown.1 (by decide +kernel)
  · rw [addDev_step rfl]
    rfl

end Runs

end H9d.DevRegistry
