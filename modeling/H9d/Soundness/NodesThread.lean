import H9d.Model.NodesThread
import H9d.Soundness.NodesList

/-! # The nodes follow the frames

What the thread does to its queue are steps of a queue behind a condition variable, and what it does to the
table are rounds with the frames that it has handled, in the order in which they came.
-/

namespace H9d.NodesThread

open Machine LabeledMachine NodeTable

variable {s t : NodesThread} {e : Event}

theorem step?_eq_some : step? s e = some t ↔
    (Monitor.machine H9Frame).run? s.monitor e.onQueue = some t.monitor ∧
      NodeTable.machine.run? s.table (e.onTable s.monitor.phase) = some t.table := by
  obtain ⟨monitor, table⟩ := t
  refine Option.bind_eq_some_iff.trans ?_
  constructor
  · rintro ⟨monitor', queued, told⟩
    obtain ⟨table', handled, same⟩ := Option.bind_eq_some_iff.mp told
    cases same
    exact ⟨queued, handled⟩
  · rintro ⟨queued, handled⟩
    exact ⟨monitor, queued, Option.bind_eq_some_iff.mpr ⟨table, handled, rfl⟩⟩

/-- The queue is one behind a condition variable. -/
theorem run_queue {es : List Event} (run : machine.run? s es = some t) :
    (Monitor.machine H9Frame).run? s.monitor (es.flatMap Event.onQueue) = some t.monitor := by
  induction es generalizing s with
  | nil =>
    cases run
    rfl
  | cons e es ih =>
    obtain ⟨next, step, rest⟩ := run?_cons_eq_some.mp run
    rw [List.flatMap_cons]
    exact run?_append_eq_some.mpr ⟨next.monitor, (step?_eq_some.mp step).1, ih rest⟩

/-- The table has seen the frames that were handled, in their order. -/
def Follows (s : NodesThread) : Prop :=
  ∃ types events, NodeTable.machine.run? (start types) events = some s.table ∧ frames events = s.monitor.done

theorem frames_append (first second : List NodeTable.Event) :
    frames (first ++ second) = frames first ++ frames second := List.filterMap_append

theorem frames_onTable (step : step? s e = some t) :
    t.monitor.done = s.monitor.done ++ frames (e.onTable s.monitor.phase) := by
  have queued := (step?_eq_some.mp step).1
  have others {m : Monitor.Event H9Frame} (same : e.onQueue = [m]) (other : m ≠ .finish)
      (silent : frames (e.onTable s.monitor.phase) = []) :
      t.monitor.done = s.monitor.done ++ frames (e.onTable s.monitor.phase) := by
    rw [same, run?_singleton] at queued
    rcases (Monitor.Step.of_step? queued).done with ⟨-, kept⟩ | ⟨finish, -⟩
    · rw [silent, List.append_nil, kept]
    · exact absurd finish other
  cases e with
  | onFrameRecv frame => exact others rfl nofun rfl
  | notifyOne => exact others rfl nofun rfl
  | waitUntil => exact others rfl nofun rfl
  | wake cause => exact others rfl nofun rfl
  | periodDevUpdate => exact others rfl nofun rfl
  | addDev env d | reload env =>
    have same : s.monitor = t.monitor := Option.some.inj queued
    rw [← same]
    exact (List.append_nil _).symm
  | handle env =>
    have step : Monitor.step? s.monitor .finish = some t.monitor := (run?_singleton _ _).symm.trans queued
    rcases (Monitor.Step.of_step? step).done with ⟨other, -⟩ | ⟨-, frame, phase, handled⟩
    · exact absurd rfl other
    · rw [handled, Event.onTable, phase]
      rfl

theorem Follows.step (follows : Follows s) (step : step? s e = some t) : Follows t := by
  obtain ⟨types, events, run, handled⟩ := follows
  refine ⟨types, events ++ e.onTable s.monitor.phase, run?_append_eq_some.mpr ⟨s.table, run, (step?_eq_some.mp step).2⟩, ?_⟩
  rw [frames_append, handled, frames_onTable step]

theorem reachable_follows (reachable : machine.Reachable s) : Follows s := by
  apply reachable.invariant Follows
  · rintro _ ⟨types, rfl⟩
    exact ⟨types, [], rfl, rfl⟩
  · exact fun _ _ _ follows step => follows.step step

theorem reachable_orderly (reachable : machine.Reachable s) : Monitor.Orderly s.monitor := by
  obtain ⟨_, es, ⟨types, rfl⟩, run⟩ := reachable
  exact Monitor.orderly_of_reachable ⟨_, _, rfl, run_queue run⟩

/-- What is due for the queue is due for the thread. -/
theorem Quiet.queue (quiet : Quiet s) : Monitor.Quiet s.monitor := by
  intro m due
  cases queued : Monitor.step? s.monitor m with
  | none => rfl
  | some monitor =>
    have enabled (e : Event) (asked : e.onQueue = [m]) {table : NodeTable}
        (told : NodeTable.machine.run? s.table (e.onTable s.monitor.phase) = some table) : False := by
      have stopped := quiet e (by rw [Event.isDue, asked, List.any_cons, due]; rfl)
      have step : step? s e = some ⟨monitor, table⟩ :=
        step?_eq_some.mpr ⟨by rw [asked, run?_singleton]; exact queued, told⟩
      exact absurd (step.symm.trans stopped) (Option.some_ne_none _)
    exfalso
    cases m with
    | push item => cases due
    | notify => exact enabled .notifyOne rfl rfl
    | look => exact enabled .waitUntil rfl rfl
    | wake cause => exact enabled (.wake cause) rfl rfl
    | resume => exact enabled .periodDevUpdate rfl rfl
    | finish =>
      cases phase : s.monitor.phase with
      | busy frame => exact enabled (.handle default) rfl (by rw [phase]; rfl)
      | ready | blocked | idle =>
        rw [Monitor.step?, phase] at queued
        cases queued

theorem countP_onQueue (es : List Event) :
    (es.flatMap Event.onQueue).countP Monitor.Event.isDue = es.countP Event.isDue := by
  induction es with
  | nil => rfl
  | cons e es ih =>
    rw [List.flatMap_cons, List.countP_append, ih, List.countP_cons, Nat.add_comm]
    congr 1
    cases e <;> simp [Event.onQueue, Event.isDue]

theorem sum_cost_onQueue (es : List Event) :
    ((es.flatMap Event.onQueue).map Monitor.Event.cost).sum = (es.map Event.cost).sum := by
  induction es with
  | nil => rfl
  | cons e es ih =>
    rw [List.flatMap_cons, List.map_append, List.sum_append, ih, List.map_cons, List.sum_cons]
    rfl

/-- In every run the frames that came are handled once and in their order, and the list tells of each node
what the last handled frame that announced it says. The thread has not stopped before it has handled them
all, and what it still does until then is bounded, whatever the schedule. -/
theorem nodes_follow_frames (reachable : machine.Reachable s) :
    s.monitor.pushed = s.monitor.done ++ s.monitor.phase.item?.toList ++ s.monitor.queue ∧
      (∀ id a, (∃ d ∈ s.table.getNodesList, d.id = id ∧ announced d = a) ↔
        (lastAnnouncement id s.monitor.done).map carried = some a) ∧
      (Quiet s → s.monitor.done = s.monitor.pushed) ∧
      ∀ es t, machine.run? s es = some t →
        t.monitor.weight + es.countP Event.isDue ≤ s.monitor.weight + (es.map Event.cost).sum := by
  have orderly := reachable_orderly reachable
  refine ⟨orderly.order, fun id a => ?_, fun quiet => (orderly.of_quiet quiet.queue).2.2, fun es t run => ?_⟩
  · obtain ⟨types, events, run, handled⟩ := reachable_follows reachable
    have fresh : listed (start types) id = none := rfl
    rw [mem_getNodesList_iff, listed_run run, fresh, Option.or_none, handled]
  · have bound := Monitor.run_weight (run_queue run)
    rw [countP_onQueue, sum_cost_onQueue] at bound
    exact bound

/-- A node announces itself and the thread sleeps again. -/
def oneAnnouncement : List Event :=
  [.waitUntil, .onFrameRecv { (default : H9Frame) with type := H9Frame.FrameType.NODE_INFO, sourceId := 7 },
    .notifyOne, .wake .notified, .handle default, .waitUntil]

theorem nodes_follow_frames_oneAnnouncement : ∃ s, machine.run? ⟨Monitor.initial, start fun _ => none⟩ oneAnnouncement =
      some s ∧ ∃ d ∈ s.table.getNodesList, d.id = 7 ∧ announced d = ⟨0, 0, 0, 0, 0⟩ := by
  refine ⟨_, rfl, ?_⟩
  obtain ⟨-, listed, -⟩ := nodes_follow_frames ⟨_, oneAnnouncement, ⟨fun _ => none, rfl⟩, rfl⟩
  exact (listed 7 ⟨0, 0, 0, 0, 0⟩).mpr (by decide)

end H9d.NodesThread
