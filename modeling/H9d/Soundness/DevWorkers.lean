import H9d.Core.WorkQueue
import H9d.Model.DevWorkers
import Mathlib.Data.Finset.Card

/-! # The order of the updates of a device

The tasks of a device are queued in the order of the frames. They are executed in that order as long as
a worker begins with a task only when no other worker has an earlier one of the same device in hand;
the workers then refine a queue whose tasks are finished in the order of each owner.
-/

namespace H9d.DevWorkers

open H9Frame Machine Cxx

variable {Worker Device : Type} [DecidableEq Worker] [DecidableEq Device]

/-- One enabled step, and what it leaves. -/
inductive Step (s : State Worker Device) : Event Worker Device → State Worker Device → Prop
  | onFrameRecv (frame : H9Frame) : Step s (.onFrameRecv frame)
      { s with frameQueue := s.frameQueue ++ [frame], received := s.received ++ [frame] }
  | handle (devices : List Device) (frame : H9Frame) (frameQueue : List H9Frame) (idle : s.jobs = [])
      (next : s.frameQueue = frame :: frameQueue) : Step s (.handle devices) { s with
        frameQueue
        jobs := devices.map fun d => .updateTask d (frame.sourceId.setWidth 16) frame
        handled := s.handled ++ [(frame, devices)] }
  | periodDevUpdate (devices : List Device) (idle : s.jobs = []) :
      Step s (.periodDevUpdate devices) { s with jobs := devices.map .periodicTask }
  | push (task : Task Device) (jobs : List (Task Device)) (next : s.jobs = task :: jobs)
      (released : s.releasing = false) : Step s .push { s with
        jobs, releasing := true, taskQueue := s.taskQueue ++ [task], pushed := s.pushed ++ [task] }
  | release (owed : s.releasing = true) :
      Step s .release { s with releasing := false, sema := s.sema + 1 }
  | acquire (worker : Worker) (sema : ℕ) (waiting : s.workers worker = .waiting)
      (permit : s.sema = sema + 1) : Step s (.acquire worker)
        { s with sema, workers := Function.update s.workers worker .acquired }
  | pop (worker : Worker) (task : Task Device) (taskQueue : List (Task Device))
      (acquired : s.workers worker = .acquired) (next : s.taskQueue = task :: taskQueue) :
      Step s (.pop worker) { s with
        taskQueue
        workers := Function.update s.workers worker (.popped task)
        inHand := s.inHand ++ [(worker, task)] }
  | popEmpty (worker : Worker) (acquired : s.workers worker = .acquired) (empty : s.taskQueue = []) :
      Step s (.pop worker) { s with fault := some .emptyQueue }
  | execute (worker : Worker) (task : Task Device) (popped : s.workers worker = .popped task) :
      Step s (.execute worker) { s with workers := Function.update s.workers worker (.running task) }
  | finish (worker : Worker) (m : NodeMgr) (task : Task Device) (devs : Device → Dev)
      (running : s.workers worker = .running task) (ran : run m s.devs task = .value devs) :
      Step s (.finish worker m) { s with
        devs
        workers := Function.update s.workers worker .waiting
        inHand := s.inHand.filter (·.1 ≠ worker)
        executed := s.executed ++ [(task, m)] }
  | fail (worker : Worker) (m : NodeMgr) (fault : Fault) (other : fault ≠ .emptyQueue) :
      Step s (.finish worker m) { s with fault := some fault }

theorem step_cases {s t : State Worker Device} {e : Event Worker Device} (step : step? s e = some t) :
    Step s e t := by
  unfold step? at step
  split at step
  · cases step
  · cases e with
    | onFrameRecv frame =>
      cases step
      exact .onFrameRecv frame
    | handle devices =>
      dsimp only [enabled?] at step
      split at step
      · next idle _ next =>
        cases step
        exact .handle devices _ _ idle next
      · cases step
    | periodDevUpdate devices =>
      dsimp only [enabled?] at step
      split at step
      · next idle _ _ =>
        cases step
        exact .periodDevUpdate devices idle
      · cases step
    | push =>
      dsimp only [enabled?] at step
      split at step
      · next next released =>
        cases step
        exact .push _ _ next released
      · cases step
    | release =>
      dsimp only [enabled?] at step
      split at step
      · next owed =>
        cases step
        exact .release owed
      · cases step
    | acquire worker =>
      dsimp only [enabled?] at step
      split at step
      · next waiting permit =>
        cases step
        exact .acquire worker _ waiting permit
      · cases step
    | pop worker =>
      dsimp only [enabled?] at step
      split at step
      · next acquired next =>
        cases step
        exact .pop worker _ _ acquired next
      · next acquired empty =>
        cases step
        exact .popEmpty worker acquired empty
      · cases step
    | execute worker =>
      dsimp only [enabled?] at step
      split at step
      · next popped =>
        cases step
        exact .execute worker _ popped
      · cases step
    | finish worker m =>
      dsimp only [enabled?] at step
      split at step
      · next running =>
        split at step
        · next ran =>
          cases step
          exact .finish worker m _ _ running ran
        · cases step
          exact .fail worker m _ (by simp)
        · cases step
          exact .fail worker m _ (by simp)
      · cases step

/-- What a task updates a device with. -/
def updateOf (d : Device) : Task Device → Option (BitVec 16 × H9Frame)
  | .updateTask dev nodeId frame => if dev = d then some (nodeId, frame) else none
  | .periodicTask _ => none

def updates (d : Device) (tasks : List (Task Device)) : List (BitVec 16 × H9Frame) :=
  tasks.filterMap (updateOf d)

/-- The updates that a device is due, in the order of the frames. -/
def State.due (s : State Worker Device) (d : Device) : List (BitVec 16 × H9Frame) :=
  s.handled.flatMap fun h => (h.2.filter (· = d)).map fun _ => (h.1.sourceId.setWidth 16, h.1)

/-- An update with the nodes at its execution. -/
def updatesWith (d : Device) (executed : List (Task Device × NodeMgr)) :
    List ((BitVec 16 × H9Frame) × NodeMgr) :=
  executed.filterMap fun e => (updateOf d e.1).map fun update => (update, e.2)

/-- The state of a device after some updates. -/
def afterUpdates (dev : Dev) (us : List ((BitVec 16 × H9Frame) × NodeMgr)) : Outcome Dev.UpdateError Dev :=
  us.foldlM (fun dev u => dev.updateDevState u.2 u.1.1 u.1.2) dev

/-- What holds in any run. -/
structure Consistent (devs : Device → Dev) (s : State Worker Device) : Prop where
  frames : s.received = s.handled.map Prod.fst ++ s.frameQueue
  jobs : ∀ d, updates d (s.pushed ++ s.jobs) = s.due d
  permits : ∃ acquired : Finset Worker, (∀ w, w ∈ acquired ↔ s.workers w = .acquired) ∧
    s.taskQueue.length = s.sema + acquired.card + if s.releasing then 1 else 0
  state : ∀ d, afterUpdates (devs d) (updatesWith d s.executed) = .value (s.devs d)
  fault : s.fault ≠ some .emptyQueue

section Consistent

variable {devs : Device → Dev} {s t : State Worker Device}

theorem updates_append (d : Device) (tasks more : List (Task Device)) :
    updates d (tasks ++ more) = updates d tasks ++ updates d more := List.filterMap_append

theorem updates_updateTask (d : Device) (nodeId : BitVec 16) (frame : H9Frame) (devices : List Device) :
    updates d (devices.map fun dev => .updateTask dev nodeId frame) =
      (devices.filter (· = d)).map fun _ => (nodeId, frame) := by
  induction devices with
  | nil => rfl
  | cons dev devices ih =>
    rw [updates] at ih ⊢
    rw [List.map_cons, List.filterMap_cons, updateOf, List.filter_cons, ih]
    by_cases same : dev = d
    · rw [if_pos same, if_pos (decide_eq_true same)]
      rfl
    · rw [if_neg same, if_neg (by simpa using same)]

theorem updates_periodicTask (d : Device) (devices : List Device) :
    updates d (devices.map .periodicTask) = [] := by
  induction devices with
  | nil => rfl
  | cons dev devices ih => exact ih

omit [DecidableEq Device] in
/-- A worker that leaves or enters the section between `acquire` and the lock. -/
theorem permits_update {acquired : Finset Worker} {workers : Worker → Phase Device}
    (members : ∀ w, w ∈ acquired ↔ workers w = .acquired) (worker : Worker) (phase : Phase Device)
    (other : phase ≠ .acquired) (w : Worker) :
    w ∈ acquired.erase worker ↔ Function.update workers worker phase w = .acquired := by
  rw [Finset.mem_erase, members]
  by_cases same : w = worker
  · subst same
    rw [Function.update_self]
    exact iff_of_false (fun both => both.1 rfl) other
  · rw [Function.update_of_ne same]
    exact and_iff_right same

omit [DecidableEq Worker] in
/-- An executed task changes its device only. -/
theorem afterUpdates_run {m : NodeMgr} {task : Task Device} {devs' : Device → Dev} {d : Device}
    {executed : List (Task Device × NodeMgr)}
    (state : afterUpdates (devs d) (updatesWith d executed) = .value (s.devs d))
    (ran : run m s.devs task = .value devs') :
    afterUpdates (devs d) (updatesWith d (executed ++ [(task, m)])) = .value (devs' d) := by
  rw [updatesWith] at state ⊢
  rw [List.filterMap_append, afterUpdates, List.foldlM_append]
  change afterUpdates _ _ >>= _ = _
  rw [state, Outcome.value_bind]
  cases task with
  | updateTask dev nodeId frame =>
    obtain ⟨dev', updated, ran⟩ := Outcome.bind_eq_value.mp ran
    obtain rfl := Outcome.value.inj ran
    by_cases same : dev = d
    · subst same
      rw [Function.update_self, List.filterMap_cons, updateOf, if_pos rfl]
      change Dev.updateDevState m nodeId frame (s.devs dev) >>= _ = _
      rw [updated]
      rfl
    · rw [Function.update_of_ne (Ne.symm same), List.filterMap_cons, updateOf, if_neg same]
      rfl
  | periodicTask dev =>
    obtain rfl := Outcome.value.inj ran
    rfl

theorem Consistent.step {e : Event Worker Device} (consistent : Consistent devs s) (step : Step s e t) :
    Consistent devs t := by
  obtain ⟨frames, jobs, ⟨acquired, members, permits⟩, state, fault⟩ := consistent
  cases step with
  | onFrameRecv frame =>
    refine ⟨?_, jobs, ⟨acquired, members, permits⟩, state, fault⟩
    rw [frames, List.append_assoc]
  | handle devices frame frameQueue idle next =>
    refine ⟨?_, fun d => ?_, ⟨acquired, members, permits⟩, state, fault⟩
    · rw [frames, next, List.map_append, List.append_assoc]
      rfl
    · have due := jobs d
      rw [idle, List.append_nil] at due
      rw [updates_append, due, updates_updateTask, State.due, State.due, List.flatMap_append]
      simp only [List.flatMap_singleton]
  | periodDevUpdate devices idle =>
    refine ⟨frames, fun d => ?_, ⟨acquired, members, permits⟩, state, fault⟩
    have due := jobs d
    rw [idle, List.append_nil] at due
    rw [updates_append, updates_periodicTask, List.append_nil, due]
    rfl
  | push task tasks next released =>
    refine ⟨frames, fun d => ?_, ⟨acquired, members, ?_⟩, state, fault⟩
    · have due := jobs d
      rw [next] at due
      rw [List.append_assoc]
      exact due
    · rw [released, if_neg Bool.false_ne_true] at permits
      rw [List.length_append, permits, List.length_singleton, if_pos rfl]
  | release owed =>
    refine ⟨frames, jobs, ⟨acquired, members, ?_⟩, state, fault⟩
    rw [owed, if_pos rfl] at permits
    dsimp only
    rw [permits, if_neg Bool.false_ne_true]
    omega
  | acquire worker sema waiting permit =>
    have outside : worker ∉ acquired := by
      rw [members, waiting]
      exact nofun
    refine ⟨frames, jobs, ⟨insert worker acquired, fun w => ?_, ?_⟩, state, fault⟩
    · dsimp only
      rw [Finset.mem_insert, members]
      by_cases same : w = worker
      · subst same
        rw [Function.update_self]
        exact iff_of_true (.inl rfl) rfl
      · rw [Function.update_of_ne same]
        exact or_iff_right same
    · dsimp only
      rw [Finset.card_insert_of_notMem outside, permits, permit]
      omega
  | pop worker task taskQueue waiting next =>
    refine ⟨frames, jobs, ⟨acquired.erase worker, permits_update members worker _ nofun, ?_⟩, state, fault⟩
    rw [next, List.length_cons, ← Finset.card_erase_add_one ((members worker).mpr waiting)] at permits
    dsimp only
    omega
  | popEmpty worker waiting empty =>
    have some := Finset.card_pos.mpr ⟨worker, (members worker).mpr waiting⟩
    rw [empty, List.length_nil] at permits
    omega
  | execute worker task popped =>
    have outside : worker ∉ acquired := by
      rw [members, popped]
      exact nofun
    refine ⟨frames, jobs, ⟨acquired.erase worker, permits_update members worker _ nofun, ?_⟩, state, fault⟩
    rw [Finset.erase_eq_of_notMem outside]
    exact permits
  | finish worker m task devs' running ran =>
    have outside : worker ∉ acquired := by
      rw [members, running]
      exact nofun
    refine ⟨frames, jobs, ⟨acquired.erase worker, permits_update members worker _ nofun, ?_⟩,
      fun d => afterUpdates_run (state d) ran, fault⟩
    rw [Finset.erase_eq_of_notMem outside]
    exact permits
  | fail worker m fault' other =>
    exact ⟨frames, jobs, ⟨acquired, members, permits⟩, state, fun same => other (Option.some.inj same)⟩

omit [DecidableEq Worker] in
theorem consistent_start (devs : Device → Dev) : Consistent devs (start devs : State Worker Device) where
  frames := rfl
  jobs _ := rfl
  permits := ⟨∅, fun _ => ⟨nofun, nofun⟩, rfl⟩
  state _ := rfl
  fault := nofun

end Consistent

/-- A worker begins with a task only when nobody has an earlier one of the same device in hand. -/
def OnlyFirst (s : State Worker Device) : Event Worker Device → Prop
  | .execute worker => ∀ task, s.workers worker = .popped task →
      WorkQueue.First Task.dev s.inHand worker task
  | _ => True

instance (s : State Worker Device) : (e : Event Worker Device) → Decidable (OnlyFirst s e)
  | .execute worker =>
      match phase : s.workers worker with
      | .popped task => decidable_of_iff (WorkQueue.First Task.dev s.inHand worker task)
          ⟨fun first _ same => Phase.popped.inj (phase.symm.trans same) ▸ first, fun only => only task phase⟩
      | .waiting | .acquired | .running _ => .isTrue fun _ same => by cases phase.symm.trans same
  | .onFrameRecv _ | .handle _ | .periodDevUpdate _ | .push | .release | .acquire _ | .pop _ | .finish .. =>
      inferInstanceAs (Decidable True)

/-- The tasks in hand are those of the workers, and those that run are the first of their devices. -/
structure InHand (s : State Worker Device) : Prop where
  held : ∀ worker task, (worker, task) ∈ s.inHand ↔
    s.workers worker = .popped task ∨ s.workers worker = .running task
  first : ∀ worker task, s.workers worker = .running task → WorkQueue.First Task.dev s.inHand worker task

section InHand

variable {s t : State Worker Device}

omit [DecidableEq Worker] in
theorem InHand.absent (inHand : InHand s) {worker : Worker}
    (empty : s.workers worker = .waiting ∨ s.workers worker = .acquired) : worker ∉ s.inHand.map Prod.fst := by
  intro member
  obtain ⟨⟨_, task⟩, entry, rfl⟩ := List.mem_map.mp member
  have phase := (inHand.held _ task).mp entry
  dsimp only at empty
  rcases empty with waiting | acquired
  · simp [waiting] at phase
  · simp [acquired] at phase

/-- A worker that goes on to another phase, with what it has in hand then. -/
theorem InHand.update (inHand : InHand s) {worker : Worker} {phase : Phase Device}
    (workers : t.workers = Function.update s.workers worker phase)
    (own : ∀ task, (worker, task) ∈ t.inHand ↔ phase = .popped task ∨ phase = .running task)
    (others : ∀ w, w ≠ worker → ∀ task, (w, task) ∈ t.inHand ↔ (w, task) ∈ s.inHand)
    (starts : ∀ task, phase = .running task → WorkQueue.First Task.dev t.inHand worker task)
    (stays : ∀ w, w ≠ worker → ∀ task, WorkQueue.First Task.dev s.inHand w task →
      WorkQueue.First Task.dev t.inHand w task) : InHand t := by
  refine ⟨fun w task => ?_, fun w task running => ?_⟩
  · rw [workers]
    by_cases same : w = worker
    · rw [same, Function.update_self]
      exact own task
    · rw [Function.update_of_ne same, others w same]
      exact inHand.held w task
  · rw [workers] at running
    by_cases same : w = worker
    · rw [same, Function.update_self] at running
      exact same ▸ starts task running
    · rw [Function.update_of_ne same] at running
      exact stays w same task (inHand.first w task running)

theorem InHand.step (inHand : InHand s) {e : Event Worker Device} (only : OnlyFirst s e) (step : Step s e t) :
    InHand t := by
  cases step with
  | onFrameRecv | handle | periodDevUpdate | push | release | popEmpty | fail => exact ⟨inHand.held, inHand.first⟩
  | acquire worker sema waiting permit =>
    refine inHand.update rfl (fun task => ?_) (fun _ _ _ => Iff.rfl) (fun task same => by cases same)
      (fun _ _ _ first => first)
    dsimp only
    rw [inHand.held, waiting]
    simp only [reduceCtorEq, or_self]
  | pop worker task taskQueue acquired next =>
    refine inHand.update rfl (fun other => ?_) (fun w apart other => ?_) (fun other same => by cases same)
      (fun _ _ _ first => first.append _)
    · have absent : (worker, other) ∉ s.inHand := fun member =>
        inHand.absent (.inr acquired) (List.mem_map_of_mem member)
      dsimp only
      rw [List.mem_append, List.mem_singleton, or_iff_right absent]
      simp only [Prod.mk.injEq, true_and, Phase.popped.injEq, reduceCtorEq, or_false, eq_comm]
    · dsimp only
      rw [List.mem_append, List.mem_singleton]
      exact or_iff_left fun equal => apart (Prod.mk.inj equal).1
  | execute worker task popped =>
    refine inHand.update rfl (fun other => ?_) (fun _ _ _ => Iff.rfl) (fun other same => ?_)
      (fun _ _ _ first => first)
    · dsimp only
      rw [inHand.held, popped]
      simp only [Phase.popped.injEq, Phase.running.injEq, reduceCtorEq, or_false, false_or]
    · obtain rfl := Phase.running.inj same
      exact only task popped
  | finish worker m task devs running ran =>
    refine inHand.update rfl (fun other => ?_) (fun w apart other => ?_) (fun other same => by cases same)
      (fun w apart _ first => first.without apart)
    · dsimp only
      rw [List.mem_filter]
      simp only [ne_eq, not_true_eq_false, decide_false, Bool.false_eq_true, and_false, reduceCtorEq, or_self]
    · dsimp only
      rw [List.mem_filter]
      exact and_iff_left (decide_eq_true apart)

end InHand

/-- The workers and their queue, without the threads around them. -/
def queueOf (s : State Worker Device) : WorkQueue.State Worker (Task Device) :=
  ⟨s.taskQueue, s.inHand, s.pushed, s.executed.map Prod.fst⟩

/-- The workers refine a queue whose tasks are finished in the order of each device. -/
def refinement (devs : Device → Dev) :
    (machine devs : LabeledMachine (State Worker Device) (Event Worker Device)).Simulation
      (WorkQueue.machine (Task.dev : Task Device → Device) :
        LabeledMachine (WorkQueue.State Worker (Task Device)) _) where
  Guard := OnlyFirst
  Rel s u := u = queueOf s ∧ InHand s
  initial := by
    rintro _ rfl
    exact ⟨.empty, rfl, rfl, fun _ _ => by simp [start], nofun⟩
  step := by
    rintro s e t _ only ⟨rfl, inHand⟩ step
    have next := step_cases step
    have inHand' := inHand.step only next
    cases next with
    | onFrameRecv | handle | periodDevUpdate | release | acquire | popEmpty | execute | fail =>
      exact ⟨[], queueOf s, rfl, rfl, inHand'⟩
    | push task => exact ⟨[.push task], _, rfl, rfl, inHand'⟩
    | pop worker task taskQueue acquired front =>
      refine ⟨[.take worker], _, ?_, rfl, inHand'⟩
      rw [LabeledMachine.run?_singleton, WorkQueue.machine_take front (inHand.absent (.inr acquired))]
      rfl
    | finish worker m task devs running ran =>
      refine ⟨[.finish worker task], _, ?_, rfl, inHand'⟩
      rw [LabeledMachine.run?_singleton, WorkQueue.machine_finish (inHand.first worker task running), queueOf,
        queueOf, List.map_append]
      rfl

/-- No task waits anywhere. -/
structure Drained (s : State Worker Device) : Prop where
  frames : s.frameQueue = []
  jobs : s.jobs = []
  tasks : s.taskQueue = []
  idle : ∀ worker task, s.workers worker ≠ .popped task ∧ s.workers worker ≠ .running task

/-- The frame is a value of the register that selects the antenna, from the switch. -/
structure Brings (switch : BitVec 16) (update : (BitVec 16 × H9Frame) × NodeMgr) (value : BitVec 64) : Prop where
  type : update.1.2.type = FrameType.REG_VALUE ∨ update.1.2.type = FrameType.REG_VALUE_BROADCAST
  node : update.1.1 = switch
  reg : update.1.2.data 0 = Dev.ANTENNA_SELECT_REG
  value : ∃ reg, (update.2.getRegValueFromFrame update.1.1 update.1.2 (.string "")).outcome [] =
    .value (reg, .int value)

/-- The frame does not make another node the switch. -/
def KeepsSwitch (switch : BitVec 16) (update : (BitVec 16 × H9Frame) × NodeMgr) : Prop :=
  update.1.2.type = FrameType.NODE_INFO ∨ update.1.2.type = FrameType.NODE_TURNED_ON →
    update.1.2.data 0 ++ update.1.2.data 1 = Dev.ANTENNA_SWITCH_NODE_TYPE → update.1.1 = switch

/-- The updates of each device are executed in the order in which its frames were received, and one at a
time; when nothing is left its state is that after all of them, which for an antenna switch is the last
value received. -/
structure UpdatedInOrder (devs : Device → Dev) (s : State Worker Device) : Prop where
  received : s.received = s.handled.map Prod.fst ++ s.frameQueue
  order : ∀ d, updates d (s.executed.map Prod.fst) <+: s.due d
  apart : ∀ worker worker' task task', s.workers worker = .running task → s.workers worker' = .running task' →
    task.dev = task'.dev → worker = worker'
  drained : Drained s → ∀ d, updates d (s.executed.map Prod.fst) = s.due d
  state : ∀ d, afterUpdates (devs d) (updatesWith d s.executed) = .value (s.devs d)
  lastValue : ∀ d earlier update later dev switch controller selected value,
    updatesWith d s.executed = earlier ++ update :: later → afterUpdates (devs d) earlier = .value dev →
    dev.kind = .antennaSwitch switch controller selected → Brings switch update value →
    (∀ u ∈ later, KeepsSwitch switch u ∧ ∀ v, ¬Brings switch u v) →
    ∃ controller, (s.devs d).kind = .antennaSwitch switch controller (value.setWidth 8)
  queue : s.fault ≠ some .emptyQueue

section Antenna

variable {m : NodeMgr} {nodeId switch controller : BitVec 16} {frame : H9Frame} {dev dev' : Dev} {selected : Byte}

/-- A value of the register is taken over. -/
theorem updateDevState_brings {value : BitVec 64}
    (kind : dev.kind = .antennaSwitch switch controller selected)
    (brings : Brings switch ((nodeId, frame), m) value) :
    dev.updateDevState m nodeId frame =
      .value { dev with kind := .antennaSwitch switch controller (value.setWidth 8) } := by
  obtain ⟨type, rfl, reg, reg', decoded⟩ := brings
  dsimp only at type reg decoded
  have other : ¬(frame.type = FrameType.NODE_INFO ∨ frame.type = FrameType.NODE_TURNED_ON) := by
    rcases type with value | value <;> rw [value] <;> decide
  rw [Dev.updateDevState, if_neg other, if_pos type, decoded, kind]
  dsimp only
  rw [Dev.onDevRegisterValue, if_pos ⟨rfl, reg⟩]
  rfl

/-- Any other update leaves the selection as it is. -/
theorem updateDevState_other (kind : dev.kind = .antennaSwitch switch controller selected)
    (keeps : KeepsSwitch switch ((nodeId, frame), m)) (silent : ∀ v, ¬Brings switch ((nodeId, frame), m) v)
    (updated : dev.updateDevState m nodeId frame = .value dev') :
    ∃ controller, dev'.kind = .antennaSwitch switch controller selected := by
  rw [Dev.updateDevState] at updated
  split at updated
  · next info =>
    obtain rfl := Outcome.value.inj updated
    dsimp only
    rw [kind, Dev.onDevInfo]
    split
    · next type =>
      obtain rfl : nodeId = switch := keeps info type
      exact ⟨_, rfl⟩
    · split
      · exact ⟨_, rfl⟩
      · exact ⟨_, rfl⟩
  · split at updated
    · next type =>
      split at updated
      · next reg value decoded =>
        obtain ⟨kind', changed, updated⟩ := Outcome.bind_eq_value.mp updated
        obtain rfl := Outcome.value.inj updated
        rw [kind, Dev.onDevRegisterValue] at changed
        split at changed
        · next selects =>
          obtain ⟨v, int, -⟩ := Outcome.bind_eq_value.mp changed
          cases value with
          | int v' => exact absurd ⟨type, selects.1, selects.2, reg, decoded⟩ (silent v')
          | string | float | bytes => cases int
        · obtain rfl := Outcome.value.inj changed
          exact ⟨_, rfl⟩
      · obtain rfl := Outcome.value.inj updated
        exact ⟨_, kind⟩
      · cases updated
    · obtain rfl := Outcome.value.inj updated
      exact ⟨_, kind⟩

theorem afterUpdates_other {later : List ((BitVec 16 × H9Frame) × NodeMgr)}
    (kind : dev.kind = .antennaSwitch switch controller selected)
    (silent : ∀ u ∈ later, KeepsSwitch switch u ∧ ∀ v, ¬Brings switch u v)
    (updated : afterUpdates dev later = .value dev') :
    ∃ controller, dev'.kind = .antennaSwitch switch controller selected := by
  induction later generalizing dev controller with
  | nil =>
    obtain rfl := Outcome.value.inj updated
    exact ⟨_, kind⟩
  | cons u later ih =>
    obtain ⟨middle, first, rest⟩ := Outcome.bind_eq_value.mp updated
    obtain ⟨keeps, other⟩ := silent u List.mem_cons_self
    obtain ⟨controller', kind'⟩ := updateDevState_other kind keeps other first
    exact ih kind' (fun v member => silent v (List.mem_cons_of_mem _ member)) rest

end Antenna

theorem updates_of (d : Device) (tasks : List (Task Device)) :
    updates d (WorkQueue.of Task.dev d tasks) = updates d tasks := by
  rw [updates, WorkQueue.of, List.filterMap_filter]
  refine List.filterMap_congr fun task _ => ?_
  cases task with
  | updateTask dev nodeId frame =>
    by_cases same : dev = d
    · exact if_pos (decide_eq_true same)
    · rw [updateOf, if_neg same]
      exact ite_self none
  | periodicTask dev => exact ite_self none

omit [DecidableEq Worker] in
/-- What is executed comes first, then what is in hand, and then the queue. -/
theorem due_eq {devs : Device → Dev} {s : State Worker Device} (consistent : Consistent devs s)
    (inOrder : WorkQueue.InOrder Task.dev (queueOf s)) (d : Device) :
    s.due d = updates d (s.executed.map Prod.fst) ++
      (updates d (s.inHand.map Prod.snd) ++ updates d s.taskQueue ++ updates d s.jobs) := by
  have split := congrArg (updates d) (inOrder.split d)
  rw [updates_append, updates_append, updates_of, updates_of, updates_of, updates_of] at split
  rw [← consistent.jobs, updates_append]
  change updates d (queueOf s).pushed ++ _ = _
  rw [split]
  simp only [List.append_assoc, queueOf]

/-- As long as no worker overtakes another one at the same device, updates reach it in order. -/
theorem updatedInOrder_of_onlyFirst (devs : Device → Dev) (events : List (Event Worker Device))
    (only : (machine devs).AllSteps OnlyFirst (start devs) events) {t : State Worker Device}
    (run : (machine devs).run? (start devs) events = some t) : UpdatedInOrder devs t := by
  have consistent : Consistent devs t := LabeledMachine.run_invariant (Consistent devs)
    (fun _ _ _ consistent step => consistent.step (step_cases step)) (consistent_start devs) run
  obtain ⟨_, reachable, rfl, inHand⟩ := (refinement devs).reachable rfl only run
  have due := due_eq consistent (WorkQueue.inOrder_of_reachable reachable)
  constructor
  · exact consistent.frames
  · intro d
    rw [due d]
    exact List.prefix_append _ _
  · intro worker worker' task task' running running' same
    exact (inHand.first worker task running).unique (inHand.first worker' task' running') same
  · intro drained d
    have empty : t.inHand = [] := by
      refine List.eq_nil_iff_forall_not_mem.mpr fun ⟨worker, task⟩ member => ?_
      rcases (inHand.held worker task).mp member with popped | running
      · exact (drained.idle worker task).1 popped
      · exact (drained.idle worker task).2 running
    rw [due d, empty, drained.tasks, drained.jobs]
    exact (List.append_nil _).symm
  · exact consistent.state
  · intro d earlier update later dev switch controller selected value split before kind brings silent
    have after := consistent.state d
    rw [split, afterUpdates, List.foldlM_append] at after
    obtain ⟨dev', first, rest⟩ := Outcome.bind_eq_value.mp after
    obtain rfl := Outcome.value.inj (before.symm.trans first)
    obtain ⟨middle, here, rest⟩ := Outcome.bind_eq_value.mp rest
    obtain rfl := Outcome.value.inj ((updateDevState_brings kind brings).symm.trans here)
    exact afterUpdates_other rfl silent rest
  · exact consistent.fault

section Runs

/-- Node 7 is an antenna switch, of which the register of the antenna is known. -/
def switchNodes : NodeMgr where
  nodes := fun id => if id = 7 then some { Node.make default 7 with
    registerMap := fun reg =>
      if reg = Dev.ANTENNA_SELECT_REG then some ⟨10, "antenna", "uint", 8, true, true, [], ""⟩ else none }
    else none
  types := fun _ => none
  devsMap := []

def antenna : ℕ → Dev := fun _ => ⟨"antenna", [7], .antennaSwitch 0xffff 0xffff 0⟩

def infoFrame : H9Frame :=
  { (default : H9Frame) with type := FrameType.NODE_INFO, sourceId := 7, dlc := 7, data := ![0, 5, 0, 0, 0, 0, 0, 0] }

def selectFrame (antenna : Byte) : H9Frame :=
  { (default : H9Frame) with
    type := FrameType.REG_VALUE, sourceId := 7, dlc := 2, data := ![10, antenna, 0, 0, 0, 0, 0, 0] }

/-- A frame from its receipt to the end of its task. -/
def handled (frame : H9Frame) (worker : Fin 5) : List (Event (Fin 5) ℕ) :=
  [.onFrameRecv frame, .handle [0], .push, .release, .acquire worker, .pop worker, .execute worker,
    .finish worker switchNodes]

theorem updatedInOrder_of_onlyFirst_info :
    ∃ t, (machine antenna).run? (start antenna) (handled infoFrame 0) = some t ∧ UpdatedInOrder antenna t := by
  have returns : ((machine antenna).run? (start antenna) (handled infoFrame 0)).isSome = true := by decide +kernel
  obtain ⟨t, run⟩ := Option.isSome_iff_exists.mp returns
  exact ⟨t, run, updatedInOrder_of_onlyFirst antenna (handled infoFrame 0) (by decide +kernel) run⟩

/-- Two values are received. The worker with the second one is faster. -/
def overtaking : List (Event (Fin 5) ℕ) :=
  handled infoFrame 0 ++
    ([.onFrameRecv (selectFrame 1), .onFrameRecv (selectFrame 2), .handle [0], .push, .release, .handle [0], .push,
      .release, .acquire 0, .acquire 1, .pop 0, .pop 1, .execute 1, .finish 1 switchNodes, .execute 0,
      .finish 0 switchNodes] : List (Event (Fin 5) ℕ))

/-- The switch is left with the antenna that was received first. -/
theorem updatedInOrder_overtaking :
    ∃ t, (machine antenna).run? (start antenna) overtaking = some t ∧
      t.received = [infoFrame, selectFrame 1, selectFrame 2] ∧
      (t.devs 0).kind = .antennaSwitch 7 0xffff 1 ∧ ¬UpdatedInOrder antenna t := by
  have run : ((machine antenna).run? (start antenna) overtaking).map (fun t =>
      (t.received, (t.devs 0).kind, updates 0 (t.executed.map Prod.fst), t.due 0)) =
      some ([infoFrame, selectFrame 1, selectFrame 2], .antennaSwitch 7 0xffff 1,
        [(7, infoFrame), (7, selectFrame 2), (7, selectFrame 1)],
        [(7, infoFrame), (7, selectFrame 1), (7, selectFrame 2)]) := by
    decide +kernel
  obtain ⟨t, run, outcome⟩ := Option.map_eq_some_iff.mp run
  simp only [Prod.mk.injEq] at outcome
  obtain ⟨received, kind, executed, due⟩ := outcome
  refine ⟨t, run, received, kind, fun inOrder => ?_⟩
  have order := inOrder.order 0
  rw [executed, due] at order
  revert order
  decide

end Runs

end H9d.DevWorkers
