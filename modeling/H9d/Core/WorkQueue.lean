import H9d.Core.LabeledMachine
import Mathlib.Data.List.Nodup

/-! # Several workers on one queue

Tasks are taken from one queue and finished by several workers. Every task has an owner. If a worker
finishes a task only when no task of the same owner was taken earlier and is still unfinished, then
each owner sees its tasks done in the order in which they came, as if there were one worker.
-/

namespace Machine.WorkQueue

variable {Worker Task Owner : Type*} [DecidableEq Owner] (owner : Task → Owner)

structure State (Worker Task : Type*) where
  queue : List Task
  /-- the tasks taken and not finished, in the order of taking -/
  taken : List (Worker × Task)
  /-- history -/
  pushed : List Task
  done : List Task

def State.empty : State Worker Task := ⟨[], [], [], []⟩

inductive Event (Worker Task : Type*)
  | push (task : Task)
  | take (worker : Worker)
  | finish (worker : Worker) (task : Task)

/-- The worker has the task, and nobody has one of the same owner for longer. -/
def First (taken : List (Worker × Task)) (worker : Worker) (task : Task) : Prop :=
  taken.find? (fun entry => owner entry.2 = owner task) = some (worker, task)

/-- The tasks of one owner. -/
def of (d : Owner) (tasks : List Task) : List Task := tasks.filter (owner · = d)

@[simp] theorem of_append (d : Owner) (tasks more : List Task) :
    of owner d (tasks ++ more) = of owner d tasks ++ of owner d more := List.filter_append ..

theorem of_cons_self (task : Task) (tasks : List Task) :
    of owner (owner task) (task :: tasks) = task :: of owner (owner task) tasks :=
  List.filter_cons_of_pos (decide_eq_true rfl)

theorem of_cons_of_ne {d : Owner} {task : Task} (other : owner task ≠ d) (tasks : List Task) :
    of owner d (task :: tasks) = of owner d tasks :=
  List.filter_cons_of_neg (by simpa using other)

namespace First

variable {owner} {taken : List (Worker × Task)} {worker worker' : Worker} {task task' : Task}

theorem iff : First owner taken worker task ↔ ∃ before after, taken = before ++ (worker, task) :: after ∧
    ∀ entry ∈ before, owner entry.2 ≠ owner task := by
  rw [First, List.find?_eq_some_iff_append]
  simp only [decide_true, true_and, Bool.not_eq_true', decide_eq_false_iff_not]

theorem append (first : First owner taken worker task) (more : List (Worker × Task)) :
    First owner (taken ++ more) worker task := by
  obtain ⟨before, after, rfl, others⟩ := iff.mp first
  exact iff.mpr ⟨before, after ++ more, List.append_assoc .., others⟩

/-- Only one task of an owner is the first. -/
theorem unique (first : First owner taken worker task) (first' : First owner taken worker' task')
    (same : owner task = owner task') : worker = worker' := by
  rw [First, same] at first
  exact congrArg Prod.fst (Option.some.inj (first.symm.trans first'))

variable [DecidableEq Worker]

theorem without (first : First owner taken worker task) (apart : worker ≠ worker') :
    First owner (taken.filter (·.1 ≠ worker')) worker task := by
  obtain ⟨before, after, rfl, others⟩ := iff.mp first
  refine iff.mpr ⟨before.filter (·.1 ≠ worker'), after.filter (·.1 ≠ worker'), ?_, ?_⟩
  · rw [List.filter_append, List.filter_cons_of_pos (by simpa using apart)]
  · exact fun entry member => others entry (List.mem_of_mem_filter member)

/-- A task that is the first of its owner goes, and the others stay. -/
theorem filter (first : First owner taken worker task) (nodup : (taken.map Prod.fst).Nodup) (d : Owner) :
    of owner d (taken.map Prod.snd) =
      of owner d [task] ++ of owner d ((taken.filter (·.1 ≠ worker)).map Prod.snd) := by
  obtain ⟨before, after, rfl, others⟩ := iff.mp first
  rw [List.map_append, List.map_cons, List.nodup_middle, List.nodup_cons] at nodup
  have kept {entries : List (Worker × Task)} (absent : worker ∉ entries.map Prod.fst) :
      entries.filter (·.1 ≠ worker) = entries := by
    refine List.filter_eq_self.mpr fun entry member => decide_eq_true fun same => absent ?_
    rw [← same]
    exact List.mem_map_of_mem member
  have absent := nodup.1
  rw [List.mem_append, not_or] at absent
  have gone : (before ++ (worker, task) :: after).filter (·.1 ≠ worker) = before ++ after := by
    rw [List.filter_append, kept absent.1, List.filter_cons_of_neg (by simp), kept absent.2]
  rw [gone, List.map_append, List.map_append, List.map_cons, of_append, of_append]
  by_cases mine : owner task = d
  · subst mine
    have none : of owner (owner task) (before.map Prod.snd) = [] := by
      refine List.filter_eq_nil_iff.mpr fun other member => ?_
      obtain ⟨entry, earlier, rfl⟩ := List.mem_map.mp member
      simpa using others entry earlier
    rw [none, of_cons_self, of_cons_self]
    rfl
  · rw [of_cons_of_ne owner mine, of_cons_of_ne owner mine]
    rfl

end First

section Runs

variable [DecidableEq Worker] [DecidableEq Task]

instance (taken : List (Worker × Task)) (worker : Worker) (task : Task) :
    Decidable (First owner taken worker task) :=
  inferInstanceAs (Decidable (_ = _))

def step? (s : State Worker Task) : Event Worker Task → Option (State Worker Task)
  | .push task => some { s with queue := s.queue ++ [task], pushed := s.pushed ++ [task] }
  | .take worker =>
      match s.queue with
      | [] => none
      | task :: queue =>
          if worker ∈ s.taken.map Prod.fst then none
          else some { s with queue, taken := s.taken ++ [(worker, task)] }
  | .finish worker task =>
      if First owner s.taken worker task then
        some { s with taken := s.taken.filter (·.1 ≠ worker), done := s.done ++ [task] }
      else none

def machine : LabeledMachine (State Worker Task) (Event Worker Task) where
  Initial s := s = .empty
  step? := step? owner

variable {owner} {s t : State Worker Task} {worker : Worker} {task : Task}

theorem machine_take {queue : List Task} (front : s.queue = task :: queue)
    (fresh : worker ∉ s.taken.map Prod.fst) : (machine owner).step? s (.take worker) =
      some { s with queue, taken := s.taken ++ [(worker, task)] } := by
  simp only [machine, step?, front, if_neg fresh]

theorem machine_finish (first : First owner s.taken worker task) :
    (machine owner).step? s (.finish worker task) =
      some { s with taken := s.taken.filter (·.1 ≠ worker), done := s.done ++ [task] } :=
  if_pos first

variable (owner) in
/-- Nothing of an owner is lost, doubled or overtaken. -/
structure InOrder (s : State Worker Task) : Prop where
  nodup : (s.taken.map Prod.fst).Nodup
  split : ∀ d, of owner d s.pushed =
    of owner d s.done ++ of owner d (s.taken.map Prod.snd) ++ of owner d s.queue

theorem InOrder.step {e : Event Worker Task} (inOrder : InOrder owner s) (step : step? owner s e = some t) :
    InOrder owner t := by
  cases e with
  | push task =>
    cases step
    refine ⟨inOrder.nodup, fun d => ?_⟩
    rw [of_append, inOrder.split d, of_append, List.append_assoc]
  | take worker =>
    dsimp only [step?] at step
    split at step
    · cases step
    · next task queue waiting =>
      split at step
      · cases step
      · next fresh =>
        cases step
        refine ⟨?_, fun d => ?_⟩
        · dsimp only
          rw [List.map_append, List.map_singleton, List.nodup_append_comm]
          exact List.nodup_cons.mpr ⟨fresh, inOrder.nodup⟩
        · have front := of_append owner d [task] queue
          rw [List.singleton_append, ← waiting] at front
          rw [inOrder.split d, front, List.map_append, of_append]
          simp only [List.append_assoc, List.map_singleton]
  | finish worker task =>
    dsimp only [step?] at step
    split at step
    · next first =>
      cases step
      refine ⟨?_, fun d => ?_⟩
      · exact inOrder.nodup.sublist (List.filter_sublist.map Prod.fst)
      · rw [inOrder.split d, first.filter inOrder.nodup d, of_append]
        simp only [List.append_assoc]
    · cases step

/-- In every run each owner sees its tasks done in the order in which they came. -/
theorem inOrder_of_reachable (reachable : (machine owner).Reachable s) : InOrder owner s := by
  refine reachable.invariant (InOrder owner) ?_ fun _ _ _ inOrder step => inOrder.step step
  rintro _ rfl
  exact ⟨List.nodup_nil, fun _ => rfl⟩

end Runs

end Machine.WorkQueue
