import H9d.Core.Wakeup
import H9d.Model.TCPClientThread

/-! # Messages queued for a client

A client thread that never gets the socket and the async event in one `wait` refines the wake-up
protocol, so a queued message always has somebody who will make the thread look. When both are
reported together the event is consumed and the queue is not looked at.
-/

namespace H9d.TCPClientThread

open Machine LabeledMachine

variable {Msg : Type} {s t : State Msg} {e : Event Msg}

/-- One constructor for each thing a step can do, with the guards it has passed. -/
inductive Step (s : State Msg) : Event Msg → State Msg → Prop
  | push (thread : Thread) (msg : Msg) (free : s.mutex = .free) :
      Step s (.push thread msg) { s with
        asyncMsgQueue := s.asyncMsgQueue ++ [msg]
        mutex := .pushed thread
        queued := s.queued ++ [msg] }
  | trigger (thread : Thread) (holds : s.mutex = .pushed thread) :
      Step s (.trigger thread) { s with
        asyncPending := s.asyncMsgQueue.length == 1 || s.asyncPending
        mutex := .notified thread }
  | unlock (thread : Thread) (holds : s.mutex = .notified thread) :
      Step s (.unlock thread) { s with mutex := .free }
  | waitSocket (async : Bool) (loop : s.phase = .loop) (pending : async → s.asyncPending) :
      Step s (.wait true async)
        { s with asyncPending := if async then false else s.asyncPending, phase := .recvMsg }
  | waitAsync (loop : s.phase = .loop) (pending : s.asyncPending = true) :
      Step s (.wait false true) { s with asyncPending := false, phase := .sendAsyncMsg }
  | recvMsg (result : SocketResult) (running : Bool) (fault : Option Fault) (phase : Phase Msg)
      (serving : s.phase = .recvMsg) (after : phase = .loop ∨ phase = .recvMsg)
      (stops : running = true → s.running = true) (throws : fault ≠ some .assertion) :
      Step s (.recvMsg result) { s with running, fault, phase }
  | popNone (draining : s.phase = .sendAsyncMsg) (empty : s.asyncMsgQueue = []) :
      Step s .pop { s with fault := some .assertion }
  | pop (msg : Msg) (rest : List Msg) (draining : s.phase = .sendAsyncMsg) (free : s.mutex = .free)
      (front : s.asyncMsgQueue = msg :: rest) :
      Step s .pop { s with asyncMsgQueue := rest, phase := .send msg rest.isEmpty }
  | sent (msg : Msg) (queueEmpty : Bool) (inHand : s.phase = .send msg queueEmpty) :
      Step s (.send .ok) { s with
        phase := if queueEmpty then .loop else .sendAsyncMsg
        sent := s.sent ++ [msg] }
  | unsent (result : SocketResult) (msg : Msg) (queueEmpty : Bool)
      (inHand : s.phase = .send msg queueEmpty) :
      Step s (.send result) { s with
        phase := if queueEmpty then .loop else .sendAsyncMsg
        running := false }
  | sendFails (result : SocketResult) : Step s (.send result) { s with fault := some .systemError }
  | closeConnection : Step s .closeConnection { s with running := false }
  | leave (loop : s.phase = .loop) (stopped : s.running = false) :
      Step s .leave { s with phase := .finished }

theorem Step.of_step? (step : (machine Msg).step? s e = some t) : s.fault = none ∧ Step s e t := by
  change (if s.fault = none then step? s e else none) = some t at step
  obtain ⟨noFault, step⟩ := Option.ite_none_right_eq_some.mp step
  refine ⟨noFault, ?_⟩
  cases e with
  | push thread msg =>
    simp only [step?, Option.ite_none_right_eq_some, Option.some.injEq] at step
    obtain ⟨free, rfl⟩ := step
    exact .push thread msg free
  | trigger thread =>
    simp only [step?, Option.ite_none_right_eq_some, Option.some.injEq] at step
    obtain ⟨holds, rfl⟩ := step
    exact .trigger thread holds
  | unlock thread =>
    simp only [step?, Option.ite_none_right_eq_some, Option.some.injEq] at step
    obtain ⟨holds, rfl⟩ := step
    exact .unlock thread holds
  | wait socket async =>
    simp only [step?] at step
    split at step
    · next loop =>
      simp only [Option.ite_none_right_eq_some, Option.some.injEq] at step
      obtain ⟨⟨-, reported, pending⟩, rfl⟩ := step
      cases socket with
      | true => exact .waitSocket async loop pending
      | false =>
        obtain rfl : async = true := reported.resolve_left Bool.false_ne_true
        exact .waitAsync loop (pending rfl)
    · cases step
  | recvMsg result =>
    simp only [step?] at step
    split at step
    · next serving =>
      cases step
      cases result with
      | ok =>
        exact .recvMsg .ok s.running s.fault _ serving (.inl rfl) id (by rw [noFault]; exact nofun)
      | closed =>
        exact .recvMsg .closed false s.fault _ serving (.inl rfl) nofun (by rw [noFault]; exact nofun)
      | failed =>
        exact .recvMsg .failed s.running (some .systemError) s.phase serving (.inr serving) id nofun
    · cases step
  | pop =>
    simp only [step?] at step
    split at step
    · next draining =>
      simp only [Option.ite_none_right_eq_some, Option.some.injEq] at step
      obtain ⟨free, rfl⟩ := step
      unfold TCPClientThread.pop
      split
      · next empty => exact .popNone draining empty
      · next msg rest front => exact .pop msg rest draining free front
    · cases step
  | send result =>
    simp only [step?] at step
    split at step
    · next msg queueEmpty inHand =>
      cases step
      cases result with
      | ok => exact .sent msg queueEmpty inHand
      | closed => exact .unsent .closed msg queueEmpty inHand
      | failed => exact .sendFails .failed
    · cases step
  | closeConnection =>
    cases step
    exact .closeConnection
  | leave =>
    simp only [step?] at step
    split at step
    · next loop =>
      rw [Option.ite_none_left_eq_some, Option.some.injEq] at step
      obtain ⟨stopped, rfl⟩ := step
      exact .leave loop (Bool.not_eq_true _ ▸ stopped)
    · cases step

/-- The thread will look at the queue again before it sleeps. -/
def Phase.draining : Phase Msg → Bool
  | .sendAsyncMsg | .send _ false => true
  | .loop | .recvMsg | .send _ true | .finished => false

/-- A producer that has pushed on the empty queue and not triggered yet. -/
def State.owes (s : State Msg) : Bool :=
  match s.mutex with
  | .pushed _ => s.asyncMsgQueue.length == 1
  | .free | .notified _ => false

/-- The thread as the consumer of one queue. -/
def wakeupView (s : State Msg) : Wakeup.State Unit where
  backlog _ := s.asyncMsgQueue.length
  pending := s.asyncPending
  draining := s.phase.draining
  announcing := s.owes.toNat

/-- `wait` reports the socket or the async event, and not both. -/
def ReportsOne (_ : State Msg) : Event Msg → Prop
  | .wait socket async => (socket && async) = false
  | _ => True

instance (s : State Msg) : (e : Event Msg) → Decidable (ReportsOne s e)
  | .wait socket async => inferInstanceAs (Decidable ((socket && async) = false))
  | .push _ _ | .trigger _ | .unlock _ | .recvMsg _ | .pop | .send _ | .closeConnection | .leave =>
    isTrue trivial

/-- The queue, the event and the thread, with the histories. -/
structure Inv (s : State Msg) : Prop where
  pending : s.asyncPending = true → s.asyncMsgQueue ≠ []
  draining : s.phase.draining = true → s.asyncMsgQueue ≠ [] ∧ s.asyncPending = false
  owes : s.owes = true → s.phase.draining = false ∧ s.asyncPending = false
  inHand : ∀ msg queueEmpty, s.phase = .send msg queueEmpty → queueEmpty = true ∨ s.asyncMsgQueue ≠ []
  noAssertion : s.fault ≠ some .assertion

theorem inv_initial : Inv (initial : State Msg) where
  pending := nofun
  draining := nofun
  owes := nofun
  inHand := nofun
  noAssertion := nofun

/-- The last message of the queue is popped with the flag that ends the loop. -/
theorem Phase.draining_send (msg : Msg) (queueEmpty : Bool) :
    (Phase.send msg queueEmpty).draining = !queueEmpty := by
  cases queueEmpty <;> rfl

theorem Phase.draining_next (queueEmpty : Bool) :
    (if queueEmpty then Phase.loop else Phase.sendAsyncMsg : Phase Msg).draining = !queueEmpty := by
  cases queueEmpty <;> rfl

theorem Phase.next_ne_send (queueEmpty : Bool) (msg : Msg) (flag : Bool) :
    (if queueEmpty then Phase.loop else Phase.sendAsyncMsg : Phase Msg) ≠ .send msg flag := by
  cases queueEmpty <;> exact nofun

theorem State.owes_iff : s.owes = true ↔ (∃ thread, s.mutex = .pushed thread) ∧ s.asyncMsgQueue.length = 1 := by
  unfold State.owes
  cases s.mutex with
  | free => simp
  | pushed thread => simp
  | notified thread => simp

theorem State.owes_of_free (free : s.mutex = .free) : s.owes = false := by
  rw [State.owes, free]

/-- Between two messages the thread only changes its place in the loop. -/
theorem Inv.resume (inv : Inv s) {phase : Phase Msg} (same : phase.draining = s.phase.draining)
    (emptyHanded : ∀ msg queueEmpty, phase ≠ .send msg queueEmpty) (running : Bool) {fault : Option Fault}
    (throws : fault ≠ some .assertion) (sent : List Msg) :
    Inv { s with phase, running, fault, sent } where
  pending := inv.pending
  draining more := inv.draining (same ▸ more)
  owes owed := ⟨same.trans (inv.owes owed).1, (inv.owes owed).2⟩
  inHand msg queueEmpty holds := (emptyHanded msg queueEmpty holds).elim
  noAssertion := throws

theorem Step.inv (step : Step s e t) (inv : Inv s) : Inv t := by
  cases step with
  | push thread msg free =>
    have filled : s.asyncMsgQueue ++ [msg] ≠ [] := by simp
    refine ⟨fun _ => filled, fun draining => ⟨filled, (inv.draining draining).2⟩, fun owes => ?_,
      fun _ _ _ => .inr filled, inv.noAssertion⟩
    -- the queue was empty, so nobody was draining it and no event was pending
    have empty : s.asyncMsgQueue = [] := by
      have length := (State.owes_iff.mp owes).2
      rw [List.length_append, List.length_singleton, Nat.add_eq_right] at length
      exact List.length_eq_zero_iff.mp length
    exact ⟨Bool.not_eq_true _ ▸ fun draining => (inv.draining draining).1 empty,
      Bool.not_eq_true _ ▸ fun pending => inv.pending pending empty⟩
  | trigger thread holds =>
    refine ⟨fun pending => ?_, fun draining => ⟨(inv.draining draining).1, ?_⟩, fun owes => ?_, inv.inHand,
      inv.noAssertion⟩
    · rcases Bool.or_eq_true _ _ ▸ pending with one | before
      · rintro empty
        rw [empty] at one
        cases one
      · exact inv.pending before
    · have two : s.owes = false := by
        cases owes : s.owes with
        | false => rfl
        | true => exact absurd draining (by rw [(inv.owes owes).1]; exact Bool.false_ne_true)
      rw [State.owes, holds] at two
      change (s.asyncMsgQueue.length == 1) = false at two
      change (s.asyncMsgQueue.length == 1 || s.asyncPending) = false
      rw [two, (inv.draining draining).2]
      rfl
    · cases owes
  | unlock thread holds =>
    exact ⟨inv.pending, inv.draining, nofun, inv.inHand, inv.noAssertion⟩
  | waitSocket async loop pending =>
    have quiet : (if async then false else s.asyncPending) = true → s.asyncPending = true := by
      cases async with
      | true => exact nofun
      | false => exact id
    refine ⟨fun pending => inv.pending (quiet pending), nofun, fun owes => ⟨rfl, ?_⟩, nofun,
      inv.noAssertion⟩
    have none := (inv.owes owes).2
    cases async with
    | true => rfl
    | false => exact none
  | waitAsync loop pending =>
    refine ⟨nofun, fun _ => ⟨inv.pending pending, rfl⟩, fun owes => ?_, nofun, inv.noAssertion⟩
    have none := (inv.owes owes).2
    rw [pending] at none
    cases none
  | recvMsg result running fault phase serving after stops throws =>
    refine inv.resume ?_ ?_ running throws s.sent <;> rcases after with rfl | rfl
    · rw [serving]; rfl
    · rw [serving]
    · exact nofun
    · exact nofun
  | popNone draining empty => exact absurd empty (inv.draining (by rw [draining]; rfl)).1
  | pop msg rest draining free front =>
    have quiet := (inv.draining (by rw [draining]; rfl)).2
    refine ⟨fun pending => ?_, fun more => ⟨?_, quiet⟩, fun owes => ?_, fun msg' queueEmpty same => ?_,
      inv.noAssertion⟩
    · change s.asyncPending = true at pending
      rw [quiet] at pending
      cases pending
    · rintro rfl
      cases more
    · rw [State.owes_iff] at owes
      obtain ⟨⟨thread, holds⟩, -⟩ := owes
      change s.mutex = _ at holds
      rw [free] at holds
      cases holds
    · cases same
      cases rest with
      | nil => exact .inl rfl
      | cons next rest => exact .inr (List.cons_ne_nil next rest)
  | sent msg queueEmpty inHand =>
    exact inv.resume (by rw [inHand, Phase.draining_next, Phase.draining_send])
      (Phase.next_ne_send queueEmpty) s.running inv.noAssertion _
  | unsent result msg queueEmpty inHand =>
    exact inv.resume (by rw [inHand, Phase.draining_next, Phase.draining_send])
      (Phase.next_ne_send queueEmpty) false inv.noAssertion s.sent
  | sendFails result => exact ⟨inv.pending, inv.draining, inv.owes, inv.inHand, nofun⟩
  | closeConnection => exact ⟨inv.pending, inv.draining, inv.owes, inv.inHand, inv.noAssertion⟩
  | leave loop stopped =>
    refine inv.resume ?_ ?_ s.running inv.noAssertion s.sent
    · rw [loop]; rfl
    · exact nofun

/-- Each step of the thread and its producers is at most two steps of the wake-up protocol. -/
theorem Step.wakeup (step : Step s e t) (inv : Inv s) (one : ReportsOne s e) :
    ∃ labels, (Wakeup.machine Unit).run? (wakeupView s) labels = some (wakeupView t) := by
  cases step with
  | push thread msg free =>
    apply Wakeup.run_step (.push ())
    rw [Wakeup.step?, Option.some.injEq]
    ext q
    · simp [wakeupView]
    · rfl
    · rfl
    · simp only [wakeupView, State.owes, free, List.length_append, List.length_singleton]
      rcases eq_or_ne s.asyncMsgQueue [] with empty | filled
      · simp [empty]
      · have length : s.asyncMsgQueue.length ≠ 0 := fun none => filled (List.length_eq_zero_iff.mp none)
        simp [length, beq_eq_false_iff_ne.mpr length]
  | trigger thread holds =>
    cases owes : s.owes with
    | true =>
      have one := (State.owes_iff.mp owes).2
      apply Wakeup.run_step .trigger
      simp only [Wakeup.step?, wakeupView, owes]
      rw [if_pos (by decide), one]
      rfl
    | false =>
      have more := owes
      rw [State.owes, holds] at more
      change (s.asyncMsgQueue.length == 1) = false at more
      apply Wakeup.run_stay
      simp only [wakeupView, more, Bool.false_or, owes]
      rfl
  | unlock thread holds =>
    apply Wakeup.run_stay
    simp only [wakeupView, State.owes, holds]
  | waitSocket async loop pending =>
    obtain rfl : async = false := one
    apply Wakeup.run_stay
    simp only [wakeupView, loop, State.owes]
    rfl
  | waitAsync loop pending =>
    apply Wakeup.run_step .take
    simp only [Wakeup.step?, wakeupView, pending, if_true]
    rfl
  | recvMsg result running fault phase serving after stops throws =>
    apply Wakeup.run_stay
    simp only [wakeupView, serving, State.owes]
    rcases after with rfl | rfl <;> rfl
  | popNone draining empty => exact absurd empty (inv.draining (by rw [draining]; rfl)).1
  | pop msg rest draining free front =>
    have popped : Wakeup.step? (wakeupView s) (.pop ()) =
        some ⟨fun _ => rest.length, s.asyncPending, true, 0⟩ := by
      simp only [Wakeup.step?, wakeupView, draining, front, State.owes_of_free free,
        List.length_cons, Nat.zero_lt_succ, and_true]
      rw [if_pos (by rfl), Option.some.injEq]
      ext <;> simp [Phase.draining]
    cases rest with
    | nil =>
      -- the flag that ends the loop is set with the queue still locked
      have rested : Wakeup.step? ⟨fun _ => 0, s.asyncPending, true, 0⟩ .rest =
          some (wakeupView { s with asyncMsgQueue := [], phase := .send msg true }) := by
        simp only [Wakeup.step?, implies_true, if_true, wakeupView, State.owes, free]
        rfl
      refine ⟨[.pop (), .rest], run?_cons_eq_some.mpr ⟨_, popped, ?_⟩⟩
      rw [run?_singleton]
      exact rested
    | cons next rest =>
      apply Wakeup.run_step (.pop ())
      rw [popped, Option.some.injEq]
      simp only [wakeupView, State.owes, free]
      rfl
  | sent msg queueEmpty inHand | unsent _ msg queueEmpty inHand =>
    apply Wakeup.run_stay
    simp only [wakeupView, inHand, Phase.draining_next, Phase.draining_send, State.owes]
  | sendFails result => exact Wakeup.run_stay rfl
  | closeConnection => exact Wakeup.run_stay rfl
  | leave loop stopped =>
    apply Wakeup.run_stay
    simp only [wakeupView, loop, State.owes]
    rfl

/-- Whoever will make the thread look at its queue: a pending event, the thread itself while it
drains, or a producer that is about to trigger. -/
def State.Awake (s : State Msg) : Prop :=
  s.asyncPending = true ∨ s.phase.draining = true ∨ s.owes = true

theorem awake_of_safe (safe : (wakeupView s).Safe) (waiting : s.asyncMsgQueue ≠ []) : s.Awake := by
  rcases safe ⟨(), fun empty => waiting (List.length_eq_zero_iff.mp empty)⟩ with pending | draining | owed
  · exact .inl pending
  · exact .inr (.inl draining)
  · refine .inr (.inr ?_)
    cases owes : s.owes with
    | true => rfl
    | false =>
      simp only [wakeupView, owes] at owed
      exact absurd owed (by decide)

/-- The messages popped and not sent yet. -/
def Phase.inHand : Phase Msg → List Msg
  | .send msg _ => [msg]
  | .loop | .recvMsg | .sendAsyncMsg | .finished => []

theorem Phase.inHand_next (queueEmpty : Bool) :
    (if queueEmpty then Phase.loop else Phase.sendAsyncMsg : Phase Msg).inHand = [] := by
  cases queueEmpty <;> rfl

/-- While the client is live, every message is sent, in hand or queued, in this order. -/
def State.InOrder (s : State Msg) : Prop :=
  s.running = true → s.sent ++ s.phase.inHand ++ s.asyncMsgQueue = s.queued

theorem Step.inOrder (step : Step s e t) (inOrder : s.InOrder) : t.InOrder := by
  intro live
  cases step with
  | push thread msg free =>
    change s.sent ++ s.phase.inHand ++ (s.asyncMsgQueue ++ [msg]) = s.queued ++ [msg]
    rw [← List.append_assoc, inOrder live]
  | trigger _ _ | unlock _ _ | popNone _ _ | sendFails _ => exact inOrder live
  | waitSocket _ loop _ | waitAsync loop _ | leave loop _ =>
    have before := inOrder live
    rw [loop] at before
    exact before
  | recvMsg result running fault phase serving after stops throws =>
    have before := inOrder (stops live)
    rw [serving] at before
    rcases after with rfl | rfl <;> exact before
  | pop msg rest draining free front =>
    have before := inOrder live
    rw [draining, front] at before
    rw [← before]
    simp [Phase.inHand]
  | sent msg queueEmpty inHand =>
    have before := inOrder live
    rw [inHand] at before
    rw [Phase.inHand_next, List.append_nil]
    exact before
  | unsent _ _ _ _ => cases live
  | closeConnection => cases live

/-- What holds of the thread as long as `wait` reports one thing at a time. -/
structure Attentive (s : State Msg) : Prop where
  inv : Inv s
  safe : (wakeupView s).Safe
  inOrder : s.InOrder
  alive : s.running = true → s.phase ≠ .finished

theorem attentive_initial : Attentive (initial : State Msg) where
  inv := inv_initial
  safe := fun ⟨_, waiting⟩ => (waiting rfl).elim
  inOrder _ := rfl
  alive _ := nofun

theorem Step.alive (step : Step s e t) (alive : s.running = true → s.phase ≠ .finished) :
    t.running = true → t.phase ≠ .finished := by
  intro live
  cases step with
  | push _ _ _ | trigger _ _ | unlock _ _ | popNone _ _ | sendFails _ => exact alive live
  | waitSocket _ _ _ | waitAsync _ _ | pop _ _ _ _ _ => exact nofun
  | recvMsg _ _ _ phase _ after _ _ => rcases after with rfl | rfl <;> exact nofun
  | sent _ queueEmpty _ => cases queueEmpty <;> exact nofun
  | unsent _ _ _ _ => cases live
  | closeConnection => cases live
  | leave loop stopped =>
    rw [show s.running = true from live] at stopped
    cases stopped

theorem Attentive.step (a : Attentive s) (one : ReportsOne s e)
    (step : (machine Msg).step? s e = some t) : Attentive t := by
  have step := (Step.of_step? step).2
  obtain ⟨labels, run⟩ := step.wakeup a.inv one
  exact ⟨step.inv a.inv,
    run_invariant Wakeup.State.Safe (fun _ _ _ safe => Wakeup.step?_safe safe) a.safe run,
    step.inOrder a.inOrder, step.alive a.alive⟩

theorem run_attentive {events : List (Event Msg)} (a : Attentive s)
    (one : (machine Msg).AllSteps ReportsOne s events)
    (run : (machine Msg).run? s events = some t) : Attentive t :=
  run_invariant_of_guard Attentive (fun _ _ _ a one step => a.step one step) a one run

/-- Reporting both consumes the event and leaves the queue behind a sleeping thread. -/
theorem Attentive.wait_both (a : Attentive s) (step : (machine Msg).step? s (.wait true true) = some t) :
    t.asyncMsgQueue ≠ [] ∧ ¬ t.Awake := by
  cases (Step.of_step? step).2 with
  | waitSocket _ loop pending =>
    refine ⟨a.inv.pending (pending rfl), ?_⟩
    rintro (pending' | draining | owes)
    · cases pending'
    · cases draining
    · have quiet := (a.inv.owes owes).2
      rw [pending rfl] at quiet
      cases quiet

section Progress

/-- What is left to do before every message is sent, in steps. -/
def State.work (s : State Msg) : ℕ :=
  3 * s.asyncMsgQueue.length +
    (match s.phase with
    | .loop => 2
    | .recvMsg | .send _ _ => 3
    | .sendAsyncMsg => 1
    | .finished => 0) +
    match s.mutex with
    | .free => 0
    | .notified _ => 1
    | .pushed _ => 2

/-- A live thread and the producer that holds the mutex can always do the next step. -/
theorem Attentive.next (a : Attentive s) (live : s.running = true) (noFault : s.fault = none)
    (unsent : s.sent ≠ s.queued) :
    ∃ e t, ReportsOne s e ∧ (machine Msg).step? s e = some t ∧ t.work < s.work ∧
      t.queued = s.queued ∧ t.running = true ∧ t.fault = none := by
  have stepIs (e : Event Msg) : (machine Msg).step? s e = step? s e := if_pos noFault
  cases mutex : s.mutex with
  | pushed thread =>
    refine ⟨.trigger thread, _, trivial, (stepIs _).trans (if_pos mutex), ?_, rfl, live, noFault⟩
    simp only [State.work, mutex]
    omega
  | notified thread =>
    refine ⟨.unlock thread, _, trivial, (stepIs _).trans (if_pos mutex), ?_, rfl, live, noFault⟩
    simp only [State.work, mutex]
    omega
  | free =>
    cases phase : s.phase with
    | loop =>
      have waiting : s.asyncMsgQueue ≠ [] := by
        intro empty
        have order := a.inOrder live
        rw [phase, empty, Phase.inHand, List.append_nil, List.append_nil] at order
        exact unsent order
      have pending : s.asyncPending = true := by
        rcases awake_of_safe a.safe waiting with pending | draining | owes
        · exact pending
        · rw [phase] at draining
          cases draining
        · rw [State.owes_of_free mutex] at owes
          cases owes
      refine ⟨.wait false true, wait s false true, rfl, ?_, ?_, rfl, live, noFault⟩
      · rw [stepIs, step?, phase]
        exact if_pos ⟨live, .inr rfl, fun _ => pending⟩
      · simp only [State.work, wait, phase, mutex]
        simp
    | recvMsg =>
      refine ⟨.recvMsg .ok, recvMsg s .ok, trivial, ?_, ?_, rfl, live, noFault⟩
      · rw [stepIs, step?, phase]
      · simp only [State.work, recvMsg, phase, mutex]
        omega
    | sendAsyncMsg =>
      obtain ⟨msg, rest, front⟩ := List.exists_cons_of_ne_nil
        (a.inv.draining (by rw [phase]; rfl)).1
      have popped : pop s = { s with asyncMsgQueue := rest, phase := .send msg rest.isEmpty } := by
        rw [pop, front]
      refine ⟨.pop, pop s, trivial, ?_, ?_, ?_, ?_, ?_⟩
      · rw [stepIs, step?, phase]
        exact if_pos mutex
      · simp only [popped, State.work, phase, mutex, front, List.length_cons]
        omega
      · rw [popped]
      · rw [popped]; exact live
      · rw [popped]; exact noFault
    | send msg queueEmpty =>
      refine ⟨.send .ok, send s msg queueEmpty .ok, trivial, ?_, ?_, rfl, live, noFault⟩
      · rw [stepIs, step?, phase]
      · cases queueEmpty <;> simp only [State.work, send, phase, mutex] <;> simp
    | finished => exact absurd phase (a.alive live)

/-- From every such state the run can go on, with nothing new queued, until every message is sent. -/
theorem Attentive.completes (a : Attentive s) (live : s.running = true) (noFault : s.fault = none) :
    ∃ events t, (machine Msg).run? s events = some t ∧ t.queued = s.queued ∧ t.sent = t.queued := by
  induction work : s.work using Nat.strong_induction_on generalizing s with
  | _ n ih =>
    by_cases unsent : s.sent = s.queued
    · exact ⟨[], s, rfl, rfl, unsent⟩
    · obtain ⟨e, t, one, step, less, queued, live, noFault⟩ := a.next live noFault unsent
      obtain ⟨events, u, run, same, sent⟩ :=
        ih t.work (work ▸ less) (a.step one step) live noFault rfl
      exact ⟨e :: events, u, run?_cons_eq_some.mpr ⟨t, step, run⟩, same.trans queued, sent⟩

end Progress

/-- While `wait` never reports the socket and the async event together, no message is left behind a
sleeping thread, messages are sent once and in order, and the assertion holds; a `wait` that reports
both loses the notification. -/
theorem queued_messages_sent {events : List (Event Msg)} {t : State Msg}
    (run : (machine Msg).run? initial events = some t)
    (one : (machine Msg).AllSteps ReportsOne initial events) :
    (t.asyncMsgQueue ≠ [] → t.Awake) ∧
    (t.running = true → t.sent ++ t.phase.inHand ++ t.asyncMsgQueue = t.queued) ∧
    (t.running = true → t.fault = none → ∃ more u,
      (machine Msg).run? t more = some u ∧ u.queued = t.queued ∧ u.sent = u.queued) ∧
    t.fault ≠ some .assertion ∧
    ∀ u, (machine Msg).step? t (.wait true true) = some u → u.asyncMsgQueue ≠ [] ∧ ¬ u.Awake := by
  have a := run_attentive attentive_initial one run
  exact ⟨awake_of_safe a.safe, a.inOrder, a.completes, a.inv.noAssertion, fun _ => a.wait_both⟩

private def twoMessages : List (Event ℕ) :=
  [.push 0 10, .trigger 0, .wait false true, .unlock 0, .push 1 11, .trigger 1, .unlock 1, .pop,
    .send .ok]

/-- Two producers, the second while the thread is draining. -/
theorem queued_messages_sent_twoMessages :
    ∃ t, (machine ℕ).run? initial twoMessages = some t ∧ t.sent = [10] ∧ t.asyncMsgQueue = [11] ∧
      t.Awake := by
  have done : ((machine ℕ).run? initial twoMessages).any
      (fun t => t.sent == [10] && t.asyncMsgQueue == [11]) = true := by
    decide +kernel
  obtain ⟨t, run, checked⟩ := (Option.any_eq_true _ _).mp done
  rw [Bool.and_eq_true, beq_iff_eq, beq_iff_eq] at checked
  obtain ⟨awake, -⟩ := queued_messages_sent run (by decide +kernel)
  exact ⟨t, run, checked.1, checked.2, awake (by rw [checked.2]; exact List.cons_ne_nil _ _)⟩

/-- The claim for every run fails: the socket and the async event are reported together. -/
theorem notification_lost :
    ¬ ∀ (events : List (Event ℕ)) (t : State ℕ), (machine ℕ).run? initial events = some t →
      t.asyncMsgQueue ≠ [] → t.Awake := by
  intro everywhere
  have lost : ((machine ℕ).run? initial
      [.push 0 10, .trigger 0, .unlock 0, .wait true true, .recvMsg .ok]).any
      (fun t => t.asyncMsgQueue == [10] && !t.asyncPending && !t.phase.draining && !t.owes) = true := by
    decide +kernel
  obtain ⟨t, run, checked⟩ := (Option.any_eq_true _ _).mp lost
  simp only [Bool.and_eq_true, beq_iff_eq, Bool.not_eq_true'] at checked
  obtain ⟨⟨⟨queue, pending⟩, draining⟩, owes⟩ := checked
  rcases everywhere _ t run (by rw [queue]; exact List.cons_ne_nil _ _) with h | h | h
  · rw [pending] at h
    cases h
  · rw [draining] at h
    cases h
  · rw [owes] at h
    cases h

end H9d.TCPClientThread
