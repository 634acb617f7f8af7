import H9d.Soundness.CarriedBytes
import H9d.Soundness.NodeDescriptions

/-! # The bytes after those that a frame carries

Two runs whose frames differ only in bytes that were not carried leave the same nodes and devices, as long as no
more is read of a frame than it carries. The announcement of a node is read to its last byte whatever its length.
-/

namespace H9d

open Cxx Machine LabeledMachine Nlohmann H9Frame

section Related

variable {α β : Type*} {R : α → β → Prop}

theorem forall₂_getElem? {as : List α} {bs : List β} (related : List.Forall₂ R as bs) (i : ℕ) :
    Option.Rel R as[i]? bs[i]? := by
  induction related generalizing i with
  | nil => exact .none
  | cons head _ ih =>
    cases i with
    | zero => exact .some head
    | succ i => exact ih i

theorem forall₂_eraseIdx {as : List α} {bs : List β} (related : List.Forall₂ R as bs) (i : ℕ) :
    List.Forall₂ R (as.eraseIdx i) (bs.eraseIdx i) := by
  rw [List.eraseIdx_eq_take_drop_succ, List.eraseIdx_eq_take_drop_succ]
  exact List.rel_append (List.forall₂_take i related) (List.forall₂_drop (i + 1) related)

/-- A list with one entry that is replaced. -/
theorem forall₂_set {R : α → α → Prop} (refl : ∀ a, R a a) {as : List α} {i : ℕ} {a b : α}
    (found : as[i]? = some a) (related : R a b) : List.Forall₂ R as (as.set i b) := by
  induction as generalizing i with
  | nil => exact .nil
  | cons head as ih =>
    cases i with
    | zero =>
      obtain rfl : head = a := Option.some.inj found
      exact .cons related (List.forall₂_same.mpr fun a _ => refl a)
    | succ i => exact .cons (refl head) (ih found)

theorem map_eq_of_rel {R : α → α → Prop} {f : α → β} (same : ∀ {a b}, R a b → f a = f b) {a b : Option α}
    (related : Option.Rel R a b) : a.map f = b.map f := by
  cases related with
  | none => rfl
  | some related => exact congrArg some (same related)

theorem rel_of_map_eq {f : α → β} {a b : Option α} (same : a.map f = b.map f) :
    Option.Rel (fun a b => f a = f b) a b := by
  cases a with
  | none =>
    cases b with
    | none => exact .none
    | some b => cases same
  | some a =>
    cases b with
    | none => cases same
    | some b => exact .some (Option.some.inj same)

end Related

namespace Node

/-- All of a node but the time of its last frame. -/
def timeless (n : Node) : Node := { n with lastSeenTime := 0 }

section Describe

variable {std : NodeDescLoader.StdRegisters} {types : NodeDescLoader.Types} {n : Node} {nodeType : BitVec 16}
  {nodeVersion : BitVec 32} {hardwareRevision resetReason : Byte}

theorem timeless_loadDescription : (n.loadDescription std types).timeless = n.timeless.loadDescription std types := by
  by_cases named : NodeDescLoader.Named types n.nodeType
  · rw [loadDescription_of_named named, loadDescription_of_named (n := n.timeless) named]
    rfl
  · rw [loadDescription_of_unnamed named, loadDescription_of_unnamed (n := n.timeless) named]
    rfl

theorem loadDescription_resetReason : (n.loadDescription std types).resetReason = n.resetReason := by
  rw [loadDescription]
  dsimp only
  split <;> rfl

theorem timeless_initAs :
    (n.initAs std types nodeType nodeVersion hardwareRevision resetReason).timeless =
      n.timeless.initAs std types nodeType nodeVersion hardwareRevision resetReason := by
  rw [initAs, initAs]
  by_cases same : n.nodeType = nodeType ∧ n.nodeVersion = nodeVersion.setWidth 64 ∧
      n.hardwareRevision = hardwareRevision
  · rw [if_pos same]
    exact (if_pos same).symm
  · rw [if_neg same, timeless_loadDescription]
    exact (if_neg same).symm

theorem initAs_resetReason :
    (n.initAs std types nodeType nodeVersion hardwareRevision resetReason).resetReason = resetReason := by
  rw [initAs]
  split
  · rfl
  · exact loadDescription_resetReason

theorem timeless_redescribe :
    (if n.init then n.loadDescription std types else n).timeless =
      if n.timeless.init then n.timeless.loadDescription std types else n.timeless := by
  change _ = if n.init then _ else _
  split
  · exact timeless_loadDescription
  · rfl

end Describe

end Node

namespace NodeMgr

/-- The manager without the times. -/
def timeless (m : NodeMgr) : NodeMgr := { m with nodes := Option.map Node.timeless ∘ m.nodes }

section Times

variable {m m' : NodeMgr} {env : Env} {f g : H9Frame}

theorem timeless_sourceNode (m : NodeMgr) (env : Env) (f : H9Frame) :
    (m.sourceNode env f).timeless = m.timeless.sourceNode env f := by
  rw [sourceNode, sourceNode]
  change _ = ((m.nodes (source f)).map Node.timeless).getD _
  cases m.nodes (source f) <;> rfl

theorem timeless_described (m : NodeMgr) (env : Env) (f : H9Frame) :
    (m.described env f).timeless = m.timeless.described env f := by
  rw [described, described]
  dsimp only
  split
  · rw [Node.timeless_initAs, timeless_sourceNode]
    rfl
  · exact timeless_sourceNode m env f

theorem timeless_handleFrame (m : NodeMgr) (env : Env) (f : H9Frame) :
    (m.handleFrame env f).timeless =
      { m.timeless with
        nodes := Function.update m.timeless.nodes (source f) (some (m.timeless.described env f)) } := by
  rw [handleFrame, timeless, Function.comp_update, ← timeless_described]
  rfl

theorem handleFrame_source (m : NodeMgr) (env : Env) (f : H9Frame) :
    (m.handleFrame env f).nodes (source f) =
      some { m.described env f with lastSeenTime := f.creationTimestamp } :=
  Function.update_self ..

theorem described_resetReason (announced : announces f = true) : (m.described env f).resetReason = f.data 7 := by
  rw [described, if_pos announced]
  exact Node.initAs_resetReason

theorem source_same (same : SameCarried f g) : source f = source g := by
  simp only [source, same.sourceId]

theorem described_same (same : SameCarried f g) (whole : announces f = true → 8 ≤ f.dlc.toNat) :
    m.described env f = m.described env g := by
  have announces' : announces f = announces g := by rw [announces, announces, same.type]
  have node : m.sourceNode env f = m.sourceNode env g := by
    rw [sourceNode, sourceNode, source_same same, same.sourceId]
  rw [described, described, node, ← announces']
  dsimp only
  split
  · next announced =>
    rw [parseNodeInfoFrame, parseNodeInfoFrame, same.data_eq (whole announced)]
  · rfl

theorem handleFrame_same (alike : m.timeless = m'.timeless) (same : SameCarried f g)
    (whole : announces f = true → 8 ≤ f.dlc.toNat) :
    (m.handleFrame env f).timeless = (m'.handleFrame env g).timeless := by
  rw [timeless_handleFrame, timeless_handleFrame, alike, described_same same whole, source_same same]

theorem timeless_reload (m : NodeMgr) (std : NodeDescLoader.StdRegisters) (env : Env) :
    (m.step? std (.reload env)).map timeless = m.timeless.step? std (.reload env) := by
  rw [step?, step?, reloadNodesDescription, reloadNodesDescription]
  cases (NodeDescLoader.reload env.nodesFile : Outcome DevNodeException NodeDescLoader.Types) with
  | value types =>
    have nodes : (Option.map Node.timeless ∘ fun id => (m.nodes id).map fun n =>
          if n.init then n.loadDescription std types else n) =
        fun id => ((Option.map Node.timeless ∘ m.nodes) id).map fun n =>
          if n.init then n.loadDescription std types else n := by
      funext id
      dsimp only [Function.comp]
      cases m.nodes id with
      | none => rfl
      | some n => exact congrArg some Node.timeless_redescribe
    exact congrArg (fun nodes => some { m with types, nodes }) nodes
  | throws e => rfl
  | undefined => rfl

theorem reload_same {std : NodeDescLoader.StdRegisters} (env : Env) (alike : m.timeless = m'.timeless) :
    Option.Rel (fun n n' => n.timeless = n'.timeless) (m.step? std (.reload env)) (m'.step? std (.reload env)) := by
  refine rel_of_map_eq ?_
  rw [timeless_reload, timeless_reload, alike]

/-- The registers of a node do not depend on the time. -/
theorem getRegValueFromFrame_timeless (m : NodeMgr) (nodeId : BitVec 16) (f : H9Frame) (value : RegValue) :
    (m.timeless.getRegValueFromFrame nodeId f value).outcome [] =
      (m.getRegValueFromFrame nodeId f value).outcome [] := by
  rw [Dev.outcome_getRegValueFromFrame, Dev.outcome_getRegValueFromFrame, nodeAt, nodeAt]
  split
  · next inside =>
    have node : m.timeless.nodes ⟨nodeId.toNat, inside⟩ = (m.nodes ⟨nodeId.toNat, inside⟩).map Node.timeless := rfl
    rw [node]
    cases m.nodes ⟨nodeId.toNat, inside⟩ <;> rfl
  · rfl

end Times

end NodeMgr

namespace Dev

section Times

variable {m : NodeMgr} {nodeId : BitVec 16} {f : H9Frame} {d : Dev}

theorem reading_timeless : reading m.timeless nodeId f = reading m nodeId f := by
  rw [reading, reading, NodeMgr.getRegValueFromFrame_timeless]

theorem updateDevState_timeless : d.updateDevState m.timeless nodeId f = d.updateDevState m nodeId f := by
  rw [updateDevState, updateDevState, NodeMgr.getRegValueFromFrame_timeless]

end Times

end Dev

namespace DevStates

variable {Device : Type}

inductive SameTask : DevWorkers.Task Device → DevWorkers.Task Device → Prop
  | updateTask (dev : Device) (nodeId : BitVec 16) {f g : H9Frame} (same : SameCarried f g) :
      SameTask (.updateTask dev nodeId f) (.updateTask dev nodeId g)
  | periodicTask (dev : Device) : SameTask (.periodicTask dev) (.periodicTask dev)

inductive SameEvent : Event Device → Event Device → Prop
  | frame (env : Env) {f g : H9Frame} (same : SameCarried f g) :
      SameEvent (.update (.frame env f)) (.update (.frame env g))
  | reload (env : Env) : SameEvent (.update (.reload env)) (.update (.reload env))
  | periodDevUpdate (devsMap : List Device) : SameEvent (.periodDevUpdate devsMap) (.periodDevUpdate devsMap)
  | execute (task : ℕ) : SameEvent (.execute task) (.execute task)

/-- The states differ in the times, and in bytes that were not carried of frames whose updates wait. -/
structure Alike (s t : DevStates Device) : Prop where
  manager : s.manager.timeless = t.manager.timeless
  dependentDevices : s.dependentDevices = t.dependentDevices
  devs : s.devs = t.devs
  tasks : List.Forall₂ SameTask s.tasks t.tasks
  fault : s.fault = t.fault
  decoded : s.decoded = t.decoded
  emitted : s.emitted = t.emitted

/-- The type, the version, the hardware revision and the reset reason of the nodes, the devices, and what was
read and told. -/
structure View (Device : Type) where
  nodes : DevRegistry.NodeId → Option (BitVec 16 × BitVec 64 × Byte × Byte)
  devs : Device → Dev
  fault : Option DevWorkers.Fault
  decoded : List (Outcome DevNodeException (Byte × RegValue))
  emitted : List (String × Json)

def view (s : DevStates Device) : View Device where
  nodes := Option.map (fun n => (n.nodeType, n.nodeVersion, n.hardwareRevision, n.resetReason)) ∘ s.manager.nodes
  devs := s.devs
  fault := s.fault
  decoded := s.decoded
  emitted := s.emitted

/-- The bytes that a step reads of a frame are those that the frame carries. -/
def Carried (s : DevStates Device) (e : Event Device) : Prop :=
  s.fault = none →
    match e with
    | .update (.frame _ f) => NodeMgr.announces f = true → 8 ≤ f.dlc.toNat
    | .update (.reload _) | .periodDevUpdate _ => True
    | .execute task => ∀ dev nodeId f, s.tasks[task]? = some (.updateTask dev nodeId f) →
        (s.devs dev).Informed s.manager nodeId f

variable {s t : DevStates Device}

theorem SameTask.refl (task : DevWorkers.Task Device) : SameTask task task := by
  cases task with
  | updateTask dev nodeId f => exact .updateTask dev nodeId (.refl f)
  | periodicTask dev => exact .periodicTask dev

theorem Alike.refl (s : DevStates Device) : Alike s s :=
  ⟨rfl, rfl, rfl, List.forall₂_same.mpr fun task _ => .refl task, rfl, rfl, rfl⟩

theorem Alike.view_eq (alike : Alike s t) : s.view = t.view := by
  have nodes : s.view.nodes = t.view.nodes := by
    have same := congrArg (fun m : NodeMgr => Option.map (fun n : Node =>
      (n.nodeType, n.nodeVersion, n.hardwareRevision, n.resetReason)) ∘ m.nodes) alike.manager
    simp only [NodeMgr.timeless, ← Function.comp_assoc, Option.map_comp_map] at same
    exact same
  rw [view, view, alike.devs, alike.fault, alike.decoded, alike.emitted]
  exact congrArg (fun nodes => View.mk nodes _ _ _ _) nodes

theorem Alike.updateTasks (alike : Alike s t) (env : Env) {f g : H9Frame} (same : SameCarried f g) :
    List.Forall₂ SameTask (s.updateTasks (.frame env f)) (t.updateTasks (.frame env g)) := by
  rw [DevStates.updateTasks, DevStates.updateTasks, alike.dependentDevices, NodeMgr.source_same same, same.sourceId]
  rw [List.forall₂_map_left_iff, List.forall₂_map_right_iff]
  exact List.forall₂_same.mpr fun dev _ => .updateTask dev _ same

section Steps

variable [DecidableEq Device] {std : NodeDescLoader.StdRegisters}

theorem Alike.execute (alike : Alike s t) {work work' : DevWorkers.Task Device} (same : SameTask work work')
    (informed : ∀ dev nodeId f, work = .updateTask dev nodeId f → (s.devs dev).Informed s.manager nodeId f) :
    Alike (s.execute work) (t.execute work') := by
  cases same with
  | periodicTask dev => exact alike
  | @updateTask dev nodeId f g same =>
    have informed := informed dev nodeId f rfl
    have readings : Dev.reading t.manager nodeId g = Dev.reading s.manager nodeId f := by
      rw [informed.reading same, ← Dev.reading_timeless, ← alike.manager, Dev.reading_timeless]
    have update : (s.devs dev).updateDevState t.manager nodeId g =
        (s.devs dev).updateDevState s.manager nodeId f := by
      rw [informed.updateDevState same, ← Dev.updateDevState_timeless, ← alike.manager, Dev.updateDevState_timeless]
    rw [DevStates.execute, DevStates.execute]
    dsimp only
    rw [readings, ← alike.devs, update, ← alike.decoded, ← alike.emitted]
    cases (s.devs dev).updateDevState s.manager nodeId f with
    | value next =>
      dsimp only
      rw [informed.emits same next]
      exact ⟨alike.manager, alike.dependentDevices, rfl, alike.tasks, alike.fault, rfl, rfl⟩
    | throws e => exact ⟨alike.manager, alike.dependentDevices, rfl, alike.tasks, rfl, rfl, rfl⟩
    | undefined => exact ⟨alike.manager, alike.dependentDevices, rfl, alike.tasks, rfl, rfl, rfl⟩

theorem Alike.step (alike : Alike s t) {e e' : Event Device} (same : SameEvent e e') (carried : s.Carried e) :
    Option.Rel Alike (step? std s e) (step? std t e') := by
  rw [step?, step?, ← alike.fault]
  split
  · exact .none
  · next running =>
    have carried := carried (Option.not_isSome_iff_eq_none.mp running)
    cases same with
    | frame env same =>
      exact .some ⟨NodeMgr.handleFrame_same alike.manager same carried, alike.dependentDevices, alike.devs,
        List.rel_append alike.tasks (alike.updateTasks env same), alike.fault, alike.decoded, alike.emitted⟩
    | reload env =>
      have reloaded := @NodeMgr.reload_same _ _ std env alike.manager
      rw [enabled?, enabled?]
      generalize s.manager.step? std (.reload env) = left at reloaded ⊢
      generalize t.manager.step? std (.reload env) = right at reloaded ⊢
      cases reloaded with
      | none => exact .none
      | some manager =>
        exact .some ⟨manager, alike.dependentDevices, alike.devs, List.rel_append alike.tasks .nil, alike.fault,
          alike.decoded, alike.emitted⟩
    | periodDevUpdate devsMap =>
      exact .some ⟨alike.manager, alike.dependentDevices, alike.devs,
        List.rel_append alike.tasks (List.forall₂_same.mpr fun task _ => .refl task), alike.fault, alike.decoded,
        alike.emitted⟩
    | execute task =>
      rw [enabled?, enabled?]
      have works := forall₂_getElem? alike.tasks task
      dsimp only at carried
      generalize s.tasks[task]? = left at carried works ⊢
      generalize t.tasks[task]? = right at works ⊢
      cases works with
      | none => exact .none
      | some same =>
        have taken : Alike { s with tasks := s.tasks.eraseIdx task } { t with tasks := t.tasks.eraseIdx task } :=
          ⟨alike.manager, alike.dependentDevices, alike.devs, forall₂_eraseIdx alike.tasks task, alike.fault,
            alike.decoded, alike.emitted⟩
        refine .some (taken.execute same ?_)
        rintro dev nodeId f rfl
        exact carried dev nodeId f rfl

end Steps

section Parts

variable [DecidableEq Device] {std : NodeDescLoader.StdRegisters} {work : DevWorkers.Task Device}

/-- The devices are what the workers make of them. -/
theorem execute_of_run {devs : Device → Dev} (ran : DevWorkers.run s.manager s.devs work = .value devs) :
    (s.execute work).devs = devs ∧ (s.execute work).fault = s.fault := by
  cases work with
  | periodicTask dev => exact ⟨Outcome.value.inj ran, rfl⟩
  | updateTask dev nodeId f =>
    obtain ⟨next, updated, same⟩ := Outcome.bind_eq_value.mp ran
    rw [execute, updated]
    exact ⟨Outcome.value.inj same, rfl⟩

theorem manager_execute (s : DevStates Device) (work : DevWorkers.Task Device) :
    (s.execute work).manager = s.manager := by
  cases work with
  | periodicTask dev => rfl
  | updateTask dev nodeId f =>
    rw [execute]
    dsimp only
    cases (s.devs dev).updateDevState s.manager nodeId f <;> rfl

/-- What the manager takes. -/
def Event.update? : Event Device → Option NodeMgr.Update
  | .update u => some u
  | .periodDevUpdate _ | .execute _ => none

theorem manager_step {e : Event Device} (step : step? std s e = some t) :
    (NodeMgr.updates std).run? s.manager e.update?.toList = some t.manager := by
  rw [step?] at step
  split at step
  · cases step
  · cases e with
    | update update =>
      obtain ⟨manager, stepped, rfl⟩ := Option.map_eq_some_iff.mp step
      exact (@run?_singleton _ _ (NodeMgr.updates std) s.manager update).trans stepped
    | periodDevUpdate devsMap =>
      cases step
      rfl
    | execute task =>
      obtain ⟨work, -, rfl⟩ := Option.map_eq_some_iff.mp step
      exact congrArg some (manager_execute { s with tasks := s.tasks.eraseIdx task } work).symm

/-- The manager goes on as it does without any device. -/
theorem manager_run {events : List (Event Device)} (run : (machine std).run? s events = some t) :
    (NodeMgr.updates std).run? s.manager (events.flatMap fun e => e.update?.toList) = some t.manager := by
  induction events generalizing s with
  | nil =>
    cases run
    rfl
  | cons e events ih =>
    obtain ⟨next, step, rest⟩ := run?_cons_eq_some.mp run
    rw [List.flatMap_cons]
    exact run?_append_eq_some.mpr ⟨next.manager, manager_step step, ih rest⟩

end Parts

section Indifference

variable [DecidableEq Device]

/-- What the step leaves does not depend on bytes that were not carried. -/
def Indifferent (std : NodeDescLoader.StdRegisters) (s : DevStates Device) (e : Event Device) : Prop :=
  ∀ t e', Alike s t → SameEvent e e' → (step? std s e).map view = (step? std t e').map view

variable {std : NodeDescLoader.StdRegisters}

theorem indifferent_of_carried {e : Event Device} (carried : s.Carried e) : s.Indifferent std e := by
  intro t e' alike same
  exact map_eq_of_rel Alike.view_eq (alike.step same carried)

theorem step?_of_running (running : s.fault = none) (e : Event Device) : step? std s e = enabled? std s e := by
  rw [step?, running]
  rfl

theorem resetReason_frame {env : Env} {f : H9Frame} (running : s.fault = none)
    (announced : NodeMgr.announces f = true) :
    (step? std s (.update (.frame env f))).map (fun next => (next.view.nodes (NodeMgr.source f)).map (·.2.2.2)) =
      some (some (f.data 7)) := by
  rw [step?_of_running running]
  change some (Option.map _ (Option.map _ ((s.manager.handleFrame { env with std } f).nodes (NodeMgr.source f)))) = _
  rw [NodeMgr.handleFrame_source, Option.map_some, Option.map_some]
  dsimp only
  rw [NodeMgr.described_resetReason announced]

/-- The last byte of an announcement says why the node was reset. -/
theorem whole_of_indifferent {env : Env} {f : H9Frame} (running : s.fault = none)
    (indifferent : s.Indifferent std (.update (.frame env f))) (announced : NodeMgr.announces f = true) :
    8 ≤ f.dlc.toNat := by
  by_contra short
  have reset (b : Byte) : some (some (f.data 7)) = some (some b) := by
    have padded := indifferent s _ (.refl s) (.frame env (sameCarried_pad f fun _ => b))
    have reasons := congrArg (Option.map fun v => (v.nodes (NodeMgr.source f)).map (·.2.2.2)) padded
    rw [Option.map_map, Option.map_map] at reasons
    have last : (f.pad fun _ => b).data 7 = b := pad_data (by change f.dlc.toNat ≤ 7; omega)
    exact (resetReason_frame running announced).symm.trans
      (reasons.trans ((resetReason_frame (f := f.pad fun _ => b) running announced).trans (by rw [last])))
  cases (reset 0).symm.trans (reset 1)

theorem step?_execute {task : ℕ} {work : DevWorkers.Task Device} (running : s.fault = none)
    (waits : s.tasks[task]? = some work) :
    step? std s (.execute task) = some ({ s with tasks := s.tasks.eraseIdx task }.execute work) := by
  rw [step?_of_running running, enabled?, waits]
  rfl

/-- What waits is not seen. -/
theorem view_execute (s : DevStates Device) (tasks : List (DevWorkers.Task Device)) (work : DevWorkers.Task Device) :
    ({ s with tasks }.execute work).view = (s.execute work).view := by
  cases work with
  | periodicTask dev => rfl
  | updateTask dev nodeId f =>
    rw [execute, execute]
    dsimp only
    cases (s.devs dev).updateDevState s.manager nodeId f <;> rfl

variable {task : ℕ} {dev : Device} {nodeId : BitVec 16} {f : H9Frame}

/-- The frame of an update that waits may have other bytes after those that it carries. -/
theorem Indifferent.pad (indifferent : s.Indifferent std (.execute task)) (running : s.fault = none)
    (waits : s.tasks[task]? = some (.updateTask dev nodeId f)) (rest : Fin 8 → Byte) :
    (s.execute (.updateTask dev nodeId f)).view = (s.execute (.updateTask dev nodeId (f.pad rest))).view := by
  obtain ⟨inside, -⟩ := List.getElem?_eq_some_iff.mp waits
  let padded := s.tasks.set task (.updateTask dev nodeId (f.pad rest))
  have alike : Alike s { s with tasks := padded } :=
    ⟨rfl, rfl, rfl, forall₂_set SameTask.refl waits (.updateTask dev nodeId (sameCarried_pad f rest)), rfl, rfl, rfl⟩
  have waits' : padded[task]? = some (.updateTask dev nodeId (f.pad rest)) := List.getElem?_set_self inside
  have views := indifferent _ _ alike (.execute task)
  rw [step?_execute running waits, @step?_execute _ { s with tasks := padded } _ _ _ _ running waits'] at views
  have same := Option.some.inj views
  rw [view_execute] at same
  exact same.trans (view_execute s _ _)

theorem decoded_execute :
    (s.execute (.updateTask dev nodeId f)).decoded = s.decoded ++ Dev.reading s.manager nodeId f := by
  rw [execute]
  dsimp only
  cases (s.devs dev).updateDevState s.manager nodeId f <;> rfl

theorem kind_execute_info (info : f.type = FrameType.NODE_INFO ∨ f.type = FrameType.NODE_TURNED_ON) :
    ((s.execute (.updateTask dev nodeId f)).devs dev).kind =
      Dev.onDevInfo nodeId (f.data 0 ++ f.data 1) (s.devs dev).kind := by
  rw [execute, Dev.updateDevState, if_pos info]
  dsimp only
  rw [Function.update_self]

theorem emitted_execute_bulk (bulk : f.type = FrameType.NODE_SPECIFIC_BROADCAST0) {atuId : BitVec 16}
    (atu : (s.devs dev).kind = .atu atuId) :
    (s.execute (.updateTask dev nodeId f)).emitted = s.emitted ++ [((s.devs dev).name,
      .object [("pwr", .ofUInt16 (f.data 2 ++ f.data 3)), ("swr", .ofUInt16 (f.data 0 ++ f.data 1))])] := by
  rw [execute, Dev.updateDevState_bulk bulk]
  dsimp only
  rw [Dev.emits_bulk bulk atu]
  rfl

theorem informed_of_indifferent (running : s.fault = none) (indifferent : s.Indifferent std (.execute task))
    (waits : s.tasks[task]? = some (.updateTask dev nodeId f)) : (s.devs dev).Informed s.manager nodeId f := by
  have alike := indifferent.pad running waits
  refine ⟨?_, ?_, ?_⟩
  · intro info switch controller selected kind
    refine @Dev.info_of_pad _ _ _ _ selected fun rest => ?_
    have same := congrArg (fun v => (v.devs dev).kind) (alike rest)
    rw [← kind]
    exact (kind_execute_info info).symm.trans (same.trans (kind_execute_info (f := f.pad rest) info))
  · intro isValue n found
    have readings (rest : Fin 8 → Byte) :
        n.getRegValueFromFrame f (.string "") = n.getRegValueFromFrame (f.pad rest) (.string "") := by
      have same : s.decoded ++ Dev.reading s.manager nodeId f =
          s.decoded ++ Dev.reading s.manager nodeId (f.pad rest) :=
        decoded_execute.symm.trans ((congrArg View.decoded (alike rest)).trans decoded_execute)
      rw [Dev.reading_of_node isValue found, Dev.reading_of_node (f := f.pad rest) isValue found] at same
      exact (List.cons.inj (List.append_cancel_left same)).1
    exact Node.terminated_of_pad isValue readings
  · intro bulk atuId atu
    by_contra short
    have last (b : Byte) : f.data 3 = b := by
      have same := congrArg View.emitted (alike fun _ => b)
      have told := (emitted_execute_bulk bulk atu).symm.trans
        (same.trans (emitted_execute_bulk (f := f.pad _) bulk atu))
      have state := (Prod.mk.inj (List.cons.inj (List.append_cancel_left told)).1).2
      have pwr := (Prod.mk.inj (List.cons.inj (Json.object.inj state)).1).2
      exact (Bits.append_inj.mp (Json.ofUInt16_inj pwr)).2.trans (pad_data (by change f.dlc.toNat ≤ 3; omega))
    cases (last 0).symm.trans (last 1)

theorem indifferent_iff_carried (std : NodeDescLoader.StdRegisters) (s : DevStates Device) (e : Event Device) :
    s.Indifferent std e ↔ s.Carried e := by
  refine ⟨fun indifferent running => ?_, indifferent_of_carried⟩
  cases e with
  | update update =>
    cases update with
    | frame env f => exact whole_of_indifferent running indifferent
    | reload env => trivial
  | periodDevUpdate devsMap => trivial
  | execute task => exact fun dev nodeId f waits => informed_of_indifferent running indifferent waits

end Indifference

section Runs

variable [DecidableEq Device]

/-- In every history, the steps depend on carried bytes only that read no others. Where all do, two runs whose
frames differ in other bytes leave the same. -/
theorem unused_bytes_runs_iff (std : NodeDescLoader.StdRegisters) (s : DevStates Device)
    (history : List (Event Device)) :
    ((machine std).AllSteps (Indifferent std) s history ↔ (machine std).AllSteps Carried s history) ∧
      ((machine std).AllSteps Carried s history → ∀ t history', Alike s t → List.Forall₂ SameEvent history history' →
        ((machine std).run? s history).map view = ((machine std).run? t history').map view) := by
  refine ⟨AllSteps.congr (indifferent_iff_carried std) s history, fun carried t history' alike same => ?_⟩
  exact map_eq_of_rel Alike.view_eq
    (run_related Alike SameEvent (fun _ _ _ _ alike same carried => alike.step same carried) alike same carried)

end Runs

/-- Nothing is known of any node. -/
def unknown : DevStates Unit where
  manager := ⟨fun _ => none, fun _ => none, []⟩
  dependentDevices := fun _ => []
  devs := fun _ => ⟨"", [], .atu 0xffff⟩
  tasks := []
  fault := none
  decoded := []
  emitted := []

/-- A node is announced without any data. -/
theorem not_indifferent : ¬∀ (std : NodeDescLoader.StdRegisters) (s : DevStates Unit) (history : List (Event Unit)),
    (machine std).Initial s → (machine std).AllSteps (Indifferent std) s history := by
  intro all
  let empty : H9Frame := { (default : H9Frame) with type := FrameType.NODE_INFO, dlc := 0 }
  have step := (all default unknown [.update (.frame default empty)] ⟨fun _ _ => nofun, rfl, rfl, rfl, rfl⟩).1
  have whole := whole_of_indifferent rfl step rfl
  exact absurd whole (by decide)

end DevStates

end H9d
