import H9d.Core.LabeledMachine
import Mathlib.Data.List.Basic
import Mathlib.Logic.Function.Basic
import Mathlib.Tactic.Ring

/-! # Waking a consumer through an edge-triggered event

Producers announce a push only when they saw the queue empty, and the announcement is a separate
step. One consumer takes the event, drains the queues and goes back to sleep when all are empty.
No queue is left behind: while one holds something, the event is pending, the consumer is
draining, or a producer still owes its announcement.
-/

namespace Machine.Wakeup

variable {Queue : Type*} [DecidableEq Queue]

@[ext] structure State (Queue : Type*) where
  backlog : Queue → ℕ
  pending : Bool
  draining : Bool
  announcing : ℕ

inductive Event (Queue : Type*)
  | push (q : Queue)
  | trigger
  | take
  | pop (q : Queue)
  | rest

open Classical in
/-- The consumer rests only after it has seen every queue empty. -/
noncomputable def step? (s : State Queue) : Event Queue → Option (State Queue)
  | .push q => some { s with
      backlog := Function.update s.backlog q (s.backlog q + 1)
      announcing := if s.backlog q = 0 then s.announcing + 1 else s.announcing }
  | .trigger =>
      if 0 < s.announcing then some { s with pending := true, announcing := s.announcing - 1 }
      else none
  | .take => if s.pending then some { s with pending := false, draining := true } else none
  | .pop q =>
      if s.draining ∧ 0 < s.backlog q then
        some { s with backlog := Function.update s.backlog q (s.backlog q - 1) }
      else none
  | .rest => if ∀ q, s.backlog q = 0 then some { s with draining := false } else none

noncomputable def machine (Queue : Type*) [DecidableEq Queue] :
    LabeledMachine (State Queue) (Event Queue) where
  Initial s := s.backlog = (fun _ => 0) ∧ s.draining = false
  step? := step?

/-- A consumer that will see the queues again. -/
def State.Awake (s : State Queue) : Prop :=
  s.pending = true ∨ s.draining = true ∨ 0 < s.announcing

/-- Nothing waits in a queue behind a sleeping consumer. -/
def State.Safe (s : State Queue) : Prop := (∃ q, s.backlog q ≠ 0) → s.Awake

theorem step?_safe {s t : State Queue} {e : Event Queue} (safe : s.Safe)
    (step : step? s e = some t) : t.Safe := by
  cases e with
  | push q =>
    cases step
    intro _
    by_cases first : s.backlog q = 0
    · exact .inr (.inr (by simp only [first, if_true]; omega))
    · rcases safe ⟨q, first⟩ with pending | draining | owed
      · exact .inl pending
      · exact .inr (.inl draining)
      · exact .inr (.inr (by simp only [first, if_false]; exact owed))
  | trigger =>
    simp only [step?, Option.ite_none_right_eq_some, Option.some.injEq] at step
    obtain ⟨-, rfl⟩ := step
    exact fun _ => .inl rfl
  | take =>
    simp only [step?, Option.ite_none_right_eq_some, Option.some.injEq] at step
    obtain ⟨-, rfl⟩ := step
    exact fun _ => .inr (.inl rfl)
  | pop q =>
    simp only [step?, Option.ite_none_right_eq_some, Option.some.injEq] at step
    obtain ⟨⟨draining, -⟩, rfl⟩ := step
    exact fun _ => .inr (.inl draining)
  | rest =>
    simp only [step?, Option.ite_none_right_eq_some, Option.some.injEq] at step
    obtain ⟨empty, rfl⟩ := step
    exact fun ⟨q, waiting⟩ => (waiting (empty q)).elim

theorem reachable_safe {s : State Queue} (reachable : (machine Queue).Reachable s) : s.Safe :=
  reachable.invariant State.Safe
    (fun _ start => fun ⟨q, waiting⟩ => (waiting (congrFun start.1 q)).elim)
    fun _ _ _ safe step => step?_safe safe step

/-- What a consumer does in one step, or in none, as runs of the protocol. -/
theorem run_step {u v : State Queue} (label : Event Queue) (step : step? u label = some v) :
    ∃ labels, (machine Queue).run? u labels = some v :=
  ⟨[label], (LabeledMachine.run?_singleton u label).trans step⟩

theorem run_stay {u v : State Queue} (same : v = u) :
    ∃ labels, (machine Queue).run? u labels = some v :=
  ⟨[], congrArg some same.symm⟩

end Machine.Wakeup
