import H9d.Core.LabeledMachine
import Mathlib.Algebra.Ring.Nat

/-! # A queue behind a condition variable

Producers push under a lock and notify after they have released it. One consumer takes an item under the
lock and works on it without; it waits on the condition variable while it finds nothing, and a wait may also
end for no reason or at its time. Whatever the schedule, the items are worked on in their order, no
notification is lost, and the consumer is not done before the queue is empty.
-/

namespace Machine.Monitor

open LabeledMachine

variable {Item : Type*}

/-- Where the consumer is: before the lock, in the wait, at work, or at what it does when the time is up. -/
inductive Phase (Item : Type*)
  | ready
  | blocked
  | busy (item : Item)
  | idle

structure State (Item : Type*) where
  queue : List Item
  phase : Phase Item
  /-- the waiting consumer was notified -/
  notified : Bool
  /-- pushes that are not followed by their notification yet -/
  owed : ℕ
  /-- history -/
  pushed : List Item
  done : List Item

inductive Wake
  | notified
  | spurious
  | timeout
  deriving DecidableEq

inductive Event (Item : Type*)
  | push (item : Item)
  | notify
  | look
  | wake (cause : Wake)
  | finish
  | resume

def initial : State Item := ⟨[], .ready, false, 0, [], []⟩

/-- The first item of the queue, or what is done without one. -/
def State.take (s otherwise : State Item) : State Item :=
  match s.queue with
  | [] => otherwise
  | item :: queue => { s with queue, phase := .busy item }

def step? (s : State Item) : Event Item → Option (State Item)
  | .push item => some { s with queue := s.queue ++ [item], owed := s.owed + 1, pushed := s.pushed ++ [item] }
  | .notify =>
      if 0 < s.owed then
        some { s with
          owed := s.owed - 1
          notified := match s.phase with
            | .blocked => true
            | _ => s.notified }
      else none
  | .look =>
      match s.phase with
      | .ready => some (s.take { s with phase := .blocked, notified := false })
      | _ => none
  | .wake cause =>
      match s.phase with
      | .blocked =>
          if cause = .notified → s.notified = true then
            let s := { s with notified := false }
            some (s.take (if cause = .timeout then { s with phase := .idle } else s))
          else none
      | _ => none
  | .finish =>
      match s.phase with
      | .busy item => some { s with phase := .ready, done := s.done ++ [item] }
      | _ => none
  | .resume =>
      match s.phase with
      | .idle => some { s with phase := .ready }
      | _ => none

def machine (Item : Type*) : LabeledMachine (State Item) (Event Item) where
  Initial s := s = initial
  step? := step?

/-- The item that the consumer works on. -/
def Phase.item? : Phase Item → Option Item
  | .busy item => some item
  | _ => none

theorem take_cases (s otherwise : State Item) : (s.queue = [] ∧ s.take otherwise = otherwise) ∨
    ∃ item queue, s.queue = item :: queue ∧ s.take otherwise = { s with queue, phase := .busy item } := by
  rw [State.take]
  cases front : s.queue with
  | nil => exact .inl ⟨rfl, rfl⟩
  | cons item queue => exact .inr ⟨item, queue, rfl, rfl⟩

/-- One constructor for each thing that a step can do. -/
inductive Step (s : State Item) : Event Item → State Item → Prop
  | push (item : Item) :
      Step s (.push item) { s with queue := s.queue ++ [item], owed := s.owed + 1, pushed := s.pushed ++ [item] }
  | notify (owed : 0 < s.owed) (notified : Bool) (heard : s.phase = .blocked → notified = true)
      (other : s.phase ≠ .blocked → notified = s.notified) :
      Step s .notify { s with owed := s.owed - 1, notified }
  | lookNone (phase : s.phase = .ready) (empty : s.queue = []) :
      Step s .look { s with phase := .blocked, notified := false }
  | look (item : Item) (queue : List Item) (phase : s.phase = .ready) (front : s.queue = item :: queue) :
      Step s .look { s with queue, phase := .busy item }
  | wake (cause : Wake) (item : Item) (queue : List Item) (phase : s.phase = .blocked)
      (front : s.queue = item :: queue) (woken : cause = .notified → s.notified = true) :
      Step s (.wake cause) { s with queue, phase := .busy item, notified := false }
  | wakeNone (cause : Wake) (phase : s.phase = .blocked) (empty : s.queue = []) (early : cause ≠ .timeout)
      (woken : cause = .notified → s.notified = true) : Step s (.wake cause) { s with notified := false }
  | timeout (phase : s.phase = .blocked) (empty : s.queue = []) :
      Step s (.wake .timeout) { s with phase := .idle, notified := false }
  | finish (item : Item) (phase : s.phase = .busy item) :
      Step s .finish { s with phase := .ready, done := s.done ++ [item] }
  | resume (phase : s.phase = .idle) : Step s .resume { s with phase := .ready }

variable {s t : State Item} {e : Event Item}

theorem Step.of_step? (step : step? s e = some t) : Step s e t := by
  cases e with
  | push item =>
    cases step
    exact .push item
  | notify =>
    obtain ⟨owed, ⟨⟩⟩ := Option.ite_none_right_eq_some.mp step
    refine .notify owed _ (fun blocked => ?_) fun other => ?_
    · rw [blocked]
    · split
      · next blocked => exact absurd blocked other
      · rfl
  | look =>
    simp only [step?] at step
    split at step
    · next phase =>
      cases step
      rcases take_cases s { s with phase := .blocked, notified := false } with ⟨empty, same⟩ | ⟨item, queue, front, same⟩
      · rw [same]
        exact .lookNone phase empty
      · rw [same]
        exact .look item queue phase front
    · cases step
  | wake cause =>
    simp only [step?] at step
    split at step
    · next phase =>
      obtain ⟨woken, ⟨⟩⟩ := Option.ite_none_right_eq_some.mp step
      rcases take_cases { s with notified := false }
        (if cause = .timeout then { s with notified := false, phase := .idle } else { s with notified := false }) with
          ⟨empty, same⟩ | ⟨item, queue, front, same⟩
      · rw [same]
        split
        · next timeout =>
          subst timeout
          exact .timeout phase empty
        · next early => exact .wakeNone cause phase empty early woken
      · rw [same]
        exact .wake cause item queue phase front woken
    · cases step
  | finish =>
    simp only [step?] at step
    split at step
    · next item phase =>
      cases step
      exact .finish item phase
    · cases step
  | resume =>
    simp only [step?] at step
    split at step
    · next phase =>
      cases step
      exact .resume phase
    · cases step

/-- An item is done when the consumer has finished it. -/
theorem Step.done (step : Step s e t) : (e ≠ .finish ∧ t.done = s.done) ∨
    (e = .finish ∧ ∃ item, s.phase = .busy item ∧ t.done = s.done ++ [item]) := by
  cases step with
  | finish item phase => exact .inr ⟨rfl, item, phase, rfl⟩
  | _ => exact .inl ⟨nofun, rfl⟩

/-! ## Safety -/

/-- Every item is in one place, and a notification is on its way to a consumer that waits in vain. -/
structure Orderly (s : State Item) : Prop where
  order : s.pushed = s.done ++ s.phase.item?.toList ++ s.queue
  awake : s.phase = .blocked → s.queue ≠ [] → s.notified = true ∨ 0 < s.owed

theorem orderly_initial : Orderly (initial : State Item) where
  order := rfl
  awake blocked := by cases blocked

theorem Orderly.step (orderly : Orderly s) (step : Step s e t) : Orderly t := by
  obtain ⟨order, awake⟩ := orderly
  cases step with
  | push item =>
    refine ⟨?_, fun _ _ => .inr (Nat.succ_pos _)⟩
    rw [order, List.append_assoc]
  | notify owed notified heard other => exact ⟨order, fun blocked _ => .inl (heard blocked)⟩
  | lookNone phase empty =>
    rw [phase] at order
    exact ⟨order, fun _ waiting => absurd empty waiting⟩
  | look item queue phase front =>
    rw [phase, front] at order
    exact ⟨order.trans (by simp [Phase.item?]), fun blocked => by cases blocked⟩
  | wake cause item queue phase front woken =>
    rw [phase, front] at order
    exact ⟨order.trans (by simp [Phase.item?]), fun blocked => by cases blocked⟩
  | wakeNone cause phase empty early woken => exact ⟨order, fun _ waiting => absurd empty waiting⟩
  | timeout phase empty =>
    rw [phase] at order
    exact ⟨order, fun blocked => by cases blocked⟩
  | finish item phase =>
    rw [phase] at order
    exact ⟨order.trans (by simp [Phase.item?]), fun blocked => by cases blocked⟩
  | resume phase =>
    rw [phase] at order
    exact ⟨order, fun blocked => by cases blocked⟩

theorem orderly_of_reachable (reachable : (machine Item).Reachable s) : Orderly s :=
  reachable.invariant Orderly (by rintro _ rfl; exact orderly_initial)
    fun _ _ _ orderly step => orderly.step (Step.of_step? step)

/-! ## Progress -/

/-- The steps that the consumer and the producers owe; the rest of them is up to the clock and to who pushes. -/
def Event.isDue : Event Item → Bool
  | .notify | .look | .wake .notified | .finish | .resume => true
  | .push _ | .wake .spurious | .wake .timeout => false

/-- No step is due. -/
def Quiet (s : State Item) : Prop := ∀ e : Event Item, e.isDue = true → step? s e = none

/-- When no step is due the consumer waits, and everything was worked on. -/
theorem Orderly.of_quiet (orderly : Orderly s) (quiet : Quiet s) :
    s.phase = .blocked ∧ s.queue = [] ∧ s.done = s.pushed := by
  have blocked : s.phase = .blocked := by
    cases phase : s.phase with
    | blocked => rfl
    | ready =>
      have look := quiet .look rfl
      rw [step?, phase] at look
      cases look
    | busy item =>
      have finish := quiet .finish rfl
      rw [step?, phase] at finish
      cases finish
    | idle =>
      have resume := quiet .resume rfl
      rw [step?, phase] at resume
      cases resume
  have empty : s.queue = [] := by
    by_contra waiting
    rcases orderly.awake blocked waiting with notified | owed
    · have wake := quiet (.wake .notified) rfl
      rw [step?, blocked] at wake
      exact absurd ((if_pos fun _ => notified).symm.trans wake) (Option.some_ne_none _)
    · have notify := quiet .notify rfl
      exact absurd ((if_pos owed).symm.trans notify) (Option.some_ne_none _)
  have order := orderly.order
  rw [blocked, empty, List.append_nil] at order
  exact ⟨blocked, empty, (order.trans (List.append_nil _)).symm⟩

/-- What is left to do. -/
def Phase.weight : Phase Item → ℕ
  | .blocked => 0
  | .ready => 1
  | .busy _ | .idle => 2

def State.weight (s : State Item) : ℕ := 3 * s.queue.length + s.phase.weight + s.notified.toNat + 2 * s.owed

/-- What a step that is not due may add to it. -/
def Event.cost : Event Item → ℕ
  | .push _ => 5
  | .wake .timeout => 2
  | _ => 0

theorem Step.weight (step : Step s e t) : t.weight + e.isDue.toNat ≤ s.weight + e.cost := by
  have flag := Bool.toNat_le s.notified
  cases step with
  | push item =>
    simp only [State.weight, Event.isDue, Event.cost, List.length_append, List.length_singleton, Bool.toNat_false]
    omega
  | notify owed notified heard other =>
    have flag := Bool.toNat_le notified
    simp only [State.weight, Event.isDue, Event.cost, Bool.toNat_true]
    omega
  | lookNone phase empty | resume phase | finish item phase =>
    simp only [State.weight, phase, Phase.weight, Event.isDue, Event.cost, Bool.toNat_true, Bool.toNat_false]
    omega
  | look item queue phase front =>
    simp only [State.weight, phase, front, Phase.weight, Event.isDue, Event.cost, Bool.toNat_true, List.length_cons]
    omega
  | wake cause item queue phase front woken =>
    have due := Bool.toNat_le (Event.wake cause : Event Item).isDue
    simp only [State.weight, phase, front, Phase.weight, Bool.toNat_false, List.length_cons]
    omega
  | wakeNone cause phase empty early woken =>
    cases cause with
    | notified =>
      simp only [State.weight, woken rfl, Event.isDue, Event.cost, Bool.toNat_true, Bool.toNat_false]
      omega
    | spurious =>
      simp only [State.weight, Event.isDue, Event.cost, Bool.toNat_false]
      omega
    | timeout => exact absurd rfl early
  | timeout phase empty =>
    simp only [State.weight, phase, Phase.weight, Event.isDue, Event.cost, Bool.toNat_false]
    omega

/-- In every run the steps that are due are at most as many as what was left and what was added ask for. -/
theorem run_weight {es : List (Event Item)} (run : (machine Item).run? s es = some t) :
    t.weight + es.countP Event.isDue ≤ s.weight + (es.map Event.cost).sum := by
  induction es generalizing s with
  | nil =>
    cases run
    exact Nat.le_refl _
  | cons e es ih =>
    obtain ⟨next, step, rest⟩ := run?_cons_eq_some.mp run
    have first := (Step.of_step? step).weight
    have later := ih rest
    have due : (e :: es).countP Event.isDue = es.countP Event.isDue + e.isDue.toNat := by
      rw [List.countP_cons]
      cases e.isDue <;> rfl
    rw [due, List.map_cons, List.sum_cons]
    omega

end Machine.Monitor
