import Mathlib.Data.List.Basic
import Mathlib.Data.List.Forall2
import Mathlib.Data.Option.Basic

/-! # Labelled machines and their finite runs

A machine is a partial step function whose events carry every choice of the environment, so a
run is the replay of an event tape. Invariants are proved once per step and transported along
runs, either unconditionally or under a guard that every step of the run meets. A forward
simulation transports reachability from a concrete machine to an abstract one.
-/

namespace Machine

/-- A step that is not enabled has no successor. -/
structure LabeledMachine (State Event : Type*) where
  Initial : State → Prop
  step? : State → Event → Option State

namespace LabeledMachine

variable {State Event : Type*} (m : LabeledMachine State Event)

/-- Replay of an event tape. -/
def run? : State → List Event → Option State
  | s, [] => some s
  | s, e :: es => (m.step? s e).bind fun next => run? next es

/-- Every step of the replay satisfies `ok` in the state before it. -/
def AllSteps (ok : State → Event → Prop) : State → List Event → Prop
  | _, [] => True
  | s, e :: es => ok s e ∧
      match m.step? s e with
      | none => True
      | some next => AllSteps ok next es

/-- A guard that can be tested can be tested along a run. -/
def AllSteps.decidable (ok : State → Event → Prop) [∀ s e, Decidable (ok s e)] :
    (s : State) → (es : List Event) → Decidable (m.AllSteps ok s es)
  | _, [] => inferInstanceAs (Decidable True)
  | s, e :: es =>
      match h : m.step? s e with
      | none => decidable_of_iff (ok s e) (by simp only [AllSteps, h, and_true])
      | some next =>
          have := AllSteps.decidable ok next es
          decidable_of_iff (ok s e ∧ m.AllSteps ok next es) (by simp only [AllSteps, h])

instance (ok : State → Event → Prop) [∀ s e, Decidable (ok s e)] (s : State) (es : List Event) :
    Decidable (m.AllSteps ok s es) := AllSteps.decidable m ok s es

/-- States reached by some run from an initial state. -/
def Reachable (t : State) : Prop :=
  ∃ s es, m.Initial s ∧ m.run? s es = some t

variable {m}

@[simp] theorem run?_nil (s : State) : m.run? s [] = some s := rfl

theorem run?_cons (s : State) (e : Event) (es : List Event) :
    m.run? s (e :: es) = (m.step? s e).bind fun next => m.run? next es := rfl

theorem run?_cons_eq_some {s t : State} {e : Event} {es : List Event} :
    m.run? s (e :: es) = some t ↔ ∃ next, m.step? s e = some next ∧ m.run? next es = some t := by
  rw [run?_cons, Option.bind_eq_some_iff]

theorem run?_singleton (s : State) (e : Event) : m.run? s [e] = m.step? s e := by
  rw [run?_cons]
  exact Option.bind_fun_some _

/-- Replay composes at a cut of the tape. -/
theorem run?_append (s : State) (first second : List Event) :
    m.run? s (first ++ second) = (m.run? s first).bind fun middle => m.run? middle second := by
  induction first generalizing s with
  | nil => rfl
  | cons e es ih => simp only [List.cons_append, run?_cons, ih, Option.bind_assoc]

theorem run?_append_eq_some {s t : State} {first second : List Event} :
    m.run? s (first ++ second) = some t ↔
      ∃ middle, m.run? s first = some middle ∧ m.run? middle second = some t := by
  rw [run?_append, Option.bind_eq_some_iff]

theorem AllSteps.of_forall {ok : State → Event → Prop} (always : ∀ s e, ok s e) (s : State)
    (es : List Event) : m.AllSteps ok s es := by
  induction es generalizing s with
  | nil => trivial
  | cons e es ih =>
    refine ⟨always s e, ?_⟩
    cases m.step? s e with
    | none => trivial
    | some next => exact ih next

/-- A property preserved by every guarded step survives a run whose steps all meet the guard. -/
theorem run_invariant_of_guard (Inv : State → Prop) {ok : State → Event → Prop}
    (preserved : ∀ s e t, Inv s → ok s e → m.step? s e = some t → Inv t)
    {s t : State} {es : List Event} (inv : Inv s) (guard : m.AllSteps ok s es)
    (run : m.run? s es = some t) : Inv t := by
  induction es generalizing s with
  | nil => cases run; exact inv
  | cons e es ih =>
    obtain ⟨next, step, rest⟩ := run?_cons_eq_some.mp run
    obtain ⟨here, later⟩ := guard
    rw [step] at later
    exact ih (preserved s e next inv here step) later rest

/-- A property preserved by every step survives every run. -/
theorem run_invariant (Inv : State → Prop)
    (preserved : ∀ s e t, Inv s → m.step? s e = some t → Inv t)
    {s t : State} {es : List Event} (inv : Inv s) (run : m.run? s es = some t) : Inv t :=
  run_invariant_of_guard Inv (fun s e t inv _ step => preserved s e t inv step) inv
    (AllSteps.of_forall (fun _ _ => trivial) s es) run

theorem Reachable.invariant (Inv : State → Prop) (initial : ∀ s, m.Initial s → Inv s)
    (preserved : ∀ s e t, Inv s → m.step? s e = some t → Inv t) {t : State}
    (reachable : m.Reachable t) : Inv t := by
  obtain ⟨s, es, start, run⟩ := reachable
  exact run_invariant Inv preserved (initial s start) run

theorem Reachable.of_initial {s : State} (start : m.Initial s) : m.Reachable s :=
  ⟨s, [], start, rfl⟩

theorem Reachable.run {s t : State} {es : List Event} (reachable : m.Reachable s)
    (run : m.run? s es = some t) : m.Reachable t := by
  obtain ⟨start, first, initial, prior⟩ := reachable
  exact ⟨start, first ++ es, initial, run?_append_eq_some.mpr ⟨s, prior, run⟩⟩

theorem AllSteps.and {first second : State → Event → Prop} {s : State} {es : List Event}
    (one : m.AllSteps first s es) (other : m.AllSteps second s es) :
    m.AllSteps (fun s e => first s e ∧ second s e) s es := by
  induction es generalizing s with
  | nil => trivial
  | cons e es ih =>
    obtain ⟨here, later⟩ := one
    obtain ⟨here', later'⟩ := other
    refine ⟨⟨here, here'⟩, ?_⟩
    cases step : m.step? s e with
    | none => trivial
    | some next =>
      rw [step] at later later'
      exact ih later later'

theorem AllSteps.congr {ok ok' : State → Event → Prop} (same : ∀ s e, ok s e ↔ ok' s e) (s : State)
    (es : List Event) : m.AllSteps ok s es ↔ m.AllSteps ok' s es := by
  have guards : ok = ok' := by
    funext s e
    exact propext (same s e)
  rw [guards]

/-- Two guards that agree where an invariant holds agree along a run of admitted events. -/
theorem AllSteps.congr_of_invariant {Inv : State → Prop} {Admitted : Event → Prop} {ok ok' : State → Event → Prop}
    (preserved : ∀ s e t, Inv s → Admitted e → m.step? s e = some t → Inv t)
    (same : ∀ s e, Inv s → Admitted e → (ok s e ↔ ok' s e)) {s : State} {es : List Event} (inv : Inv s)
    (admitted : ∀ e ∈ es, Admitted e) : m.AllSteps ok s es ↔ m.AllSteps ok' s es := by
  induction es generalizing s with
  | nil => rfl
  | cons e es ih =>
    obtain ⟨here, later⟩ := List.forall_mem_cons.mp admitted
    refine and_congr (same s e inv here) ?_
    cases step : m.step? s e with
    | none => rfl
    | some next => exact ih (preserved s e next inv here step) later

/-- Two runs of one machine that are related step by step end in related states, or neither of them ends. -/
theorem run_related (Rel : State → State → Prop) (Same : Event → Event → Prop) {ok : State → Event → Prop}
    (step : ∀ s t e e', Rel s t → Same e e' → ok s e → Option.Rel Rel (m.step? s e) (m.step? t e'))
    {s t : State} {es es' : List Event} (related : Rel s t) (same : List.Forall₂ Same es es')
    (guard : m.AllSteps ok s es) : Option.Rel Rel (m.run? s es) (m.run? t es') := by
  induction same generalizing s t with
  | nil => exact .some related
  | @cons e e' es es' first rest ih =>
    obtain ⟨here, later⟩ := guard
    have stepped := step s t e e' related first here
    rw [run?_cons, run?_cons]
    generalize m.step? s e = one at stepped later ⊢
    generalize m.step? t e' = other at stepped ⊢
    cases stepped with
    | none => exact .none
    | some related' => exact ih related' later

/-- A forward simulation: each concrete step that meets the guard is matched by a run of the
abstract machine. -/
structure Simulation {Abstract Label : Type*} (m : LabeledMachine State Event)
    (a : LabeledMachine Abstract Label) where
  Guard : State → Event → Prop
  Rel : State → Abstract → Prop
  initial : ∀ s, m.Initial s → ∃ u, a.Initial u ∧ Rel s u
  step : ∀ s e t u, Guard s e → Rel s u → m.step? s e = some t →
    ∃ labels v, a.run? u labels = some v ∧ Rel t v

/-- Concrete runs are matched by abstract runs from related states. -/
theorem Simulation.run {Abstract Label : Type*} {a : LabeledMachine Abstract Label}
    (sim : Simulation m a) {s t : State} {u : Abstract} {es : List Event} (related : sim.Rel s u)
    (guard : m.AllSteps sim.Guard s es) (run : m.run? s es = some t) :
    ∃ labels v, a.run? u labels = some v ∧ sim.Rel t v := by
  induction es generalizing s u with
  | nil => cases run; exact ⟨[], u, rfl, related⟩
  | cons e es ih =>
    obtain ⟨next, step, rest⟩ := run?_cons_eq_some.mp run
    obtain ⟨here, later⟩ := guard
    rw [step] at later
    obtain ⟨first, middle, firstRun, firstRel⟩ := sim.step s e next u here related step
    obtain ⟨second, v, secondRun, secondRel⟩ := ih firstRel later rest
    exact ⟨first ++ second, v, run?_append_eq_some.mpr ⟨middle, firstRun, secondRun⟩, secondRel⟩

/-- What every reachable abstract state satisfies transfers to the end of a guarded run. -/
theorem Simulation.reachable {Abstract Label : Type*} {a : LabeledMachine Abstract Label}
    (sim : Simulation m a) {s t : State} {es : List Event} (start : m.Initial s)
    (guard : m.AllSteps sim.Guard s es) (run : m.run? s es = some t) :
    ∃ v, a.Reachable v ∧ sim.Rel t v := by
  obtain ⟨u, abstractStart, related⟩ := sim.initial s start
  obtain ⟨labels, v, abstractRun, relatedEnd⟩ := sim.run related guard run
  exact ⟨v, ⟨u, labels, abstractStart, abstractRun⟩, relatedEnd⟩

end LabeledMachine

end Machine
