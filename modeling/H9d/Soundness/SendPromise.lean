import H9d.Core.Heap
import H9d.Soundness.BusDelivery
import Mathlib.Algebra.BigOperators.Group.Finset.Piecewise
import Mathlib.Algebra.Order.BigOperators.Group.Finset

/-! # Counting the acknowledgements of one frame

A frame object is shared by the pending queues of all endpoints. Its counters are sums over the
endpoints of the acknowledgements that belong to it by position, so the promise of a local frame is
fulfilled by the acknowledgement that completes the sum, and never again.
-/

namespace H9d

namespace BusFrame

theorem finish_of_inactive {f : BusFrame} (inactive : f.activatePromise = false) :
    f.finish = .ok f := by
  rw [BusFrame.finish, inactive, Bool.false_and, if_neg Bool.false_ne_true]

theorem finish_of_short {f : BusFrame}
    (short : f.sendCounter + f.sendFailCounter < f.numberOfActiveBus) : f.finish = .ok f := by
  have unfinished : f.isSentFinish = false := decide_eq_false (by omega)
  rw [BusFrame.finish, unfinished, Bool.and_false, if_neg Bool.false_ne_true]

theorem finish_of_last {f : BusFrame} (active : f.activatePromise = true)
    (last : f.numberOfActiveBus ≤ f.sendCounter + f.sendFailCounter)
    (unset : f.sendPromise.value = none) :
    f.finish = .ok { f with sendPromise := ⟨some f.sendResult⟩ } := by
  have finished : f.isSentFinish = true := decide_eq_true last
  rw [BusFrame.finish, active, finished, Bool.and_true, if_pos rfl,
    Cxx.Promise.setValue_of_unset f.sendResult unset]

end BusFrame

namespace Bus

open Machine LabeledMachine

/-- The acknowledgements of `id` with one outcome: the driver answers in the order of `handed`. -/
def BusEndpoint.acks (e : BusEndpoint) (id : FrameId) (success : Bool) : ℕ :=
  (e.handed.zip e.outcomes).count (id, success)

def State.acks (c : Config) (s : State) (id : FrameId) (success : Bool) : ℕ :=
  ∑ socket ∈ c.sockets.toFinset, (s.endpoints socket).acks id success

private theorem count_pair {α : Type} [DecidableEq α] (a : α) (l : List (α × Bool)) :
    l.count (a, true) + l.count (a, false) = (l.map Prod.fst).count a := by
  induction l with
  | nil => rfl
  | cons head rest ih =>
    obtain ⟨b, flag⟩ := head
    rw [List.map_cons, List.count_cons, List.count_cons, List.count_cons, ← ih]
    by_cases same : b = a
    · subst same
      cases flag <;> simp <;> omega
    · have apart : ∀ flag', ((b, flag) == (a, flag')) = false := by
        intro flag'
        simp [same]
      simp [apart, same]

private theorem zip_take {α β : Type} (l : List α) (m : List β) :
    l.zip m = (l.take m.length).zip m := by
  induction m generalizing l with
  | nil => simp
  | cons b m ih =>
    cases l with
    | nil => rfl
    | cons a l => simp only [List.zip_cons_cons, List.length_cons, List.take_succ_cons, ← ih]

private theorem zip_snoc {α β : Type} {l rest : List α} {m : List β} {a : α} (b : β)
    (next : l.drop m.length = a :: rest) : l.zip (m ++ [b]) = l.zip m ++ [(a, b)] := by
  induction m generalizing l with
  | nil =>
    rw [List.length_nil, List.drop_zero] at next
    rw [next]
    simp
  | cons b' m ih =>
    cases l with
    | nil => cases next
    | cons a' l =>
      rw [List.length_cons, List.drop_succ_cons] at next
      simp only [List.cons_append, List.zip_cons_cons, ih next]

namespace BusEndpoint

variable (e : BusEndpoint) (id : FrameId)

/-- A frame is acknowledged once for each time it was handed over and answered. -/
theorem acks_add : e.acks id true + e.acks id false = (e.handed.take e.outcomes.length).count id := by
  rw [acks, acks, count_pair, zip_take, List.map_fst_zip (List.length_take_le _ _)]

theorem acks_of_not_handed (success : Bool) (absent : id ∉ e.handed) : e.acks id success = 0 := by
  refine List.count_eq_zero.mpr fun member => absent ?_
  exact (List.of_mem_zip member).1

/-- The next acknowledgement belongs to the first frame that has none yet. -/
theorem acks_snoc {e after : BusEndpoint} {front : FrameId} {rest : List FrameId} {success : Bool}
    (next : e.handed.drop e.outcomes.length = front :: rest) (handed : after.handed = e.handed)
    (outcomes : after.outcomes = e.outcomes ++ [success]) (id : FrameId) (flag : Bool) :
    after.acks id flag = e.acks id flag + if id = front ∧ flag = success then 1 else 0 := by
  rw [acks, acks, handed, outcomes, zip_snoc success next, List.count_append, List.count_singleton]
  congr 1
  by_cases same : id = front ∧ flag = success
  · obtain ⟨rfl, rfl⟩ := same
    simp
  · rw [if_neg same, if_neg]
    intro equal
    rw [beq_iff_eq, Prod.mk.injEq] at equal
    exact same ⟨equal.1.symm, equal.2.symm⟩

/-- Handing over another frame does not move earlier acknowledgements. -/
theorem acks_handed_snoc {e after : BusEndpoint} {front : FrameId}
    (ordered : e.outcomes.length ≤ e.handed.length) (handed : after.handed = e.handed ++ [front])
    (outcomes : after.outcomes = e.outcomes) (id : FrameId) (flag : Bool) :
    after.acks id flag = e.acks id flag := by
  rw [acks, acks, handed, outcomes, zip_take, List.take_append_of_le_length ordered, ← zip_take]

end BusEndpoint

section Totals

variable {c : Config} {s t : State} {id : FrameId}

theorem acks_congr (same : ∀ socket, (t.endpoints socket).handed = (s.endpoints socket).handed ∧
    (t.endpoints socket).outcomes = (s.endpoints socket).outcomes) (success : Bool) :
    t.acks c id success = s.acks c id success :=
  Finset.sum_congr rfl fun socket _ => by
    rw [BusEndpoint.acks, BusEndpoint.acks, (same socket).1, (same socket).2]

theorem acks_of_not_handed (absent : ∀ socket ∈ c.sockets, id ∉ (s.endpoints socket).handed)
    (success : Bool) : s.acks c id success = 0 :=
  Finset.sum_eq_zero fun socket member =>
    BusEndpoint.acks_of_not_handed _ _ success (absent socket (List.mem_toFinset.mp member))

/-- One endpoint's next acknowledgement adds one to the sum of the frame it belongs to. -/
theorem acks_snoc {socket : Socket} (member : socket ∈ c.sockets) {rest : List FrameId}
    {success : Bool}
    (next : (s.endpoints socket).handed.drop (s.endpoints socket).outcomes.length = id :: rest)
    (others : ∀ k, k ≠ socket → t.endpoints k = s.endpoints k)
    (handed : (t.endpoints socket).handed = (s.endpoints socket).handed)
    (outcomes : (t.endpoints socket).outcomes = (s.endpoints socket).outcomes ++ [success])
    (other : FrameId) (flag : Bool) :
    t.acks c other flag = s.acks c other flag + if other = id ∧ flag = success then 1 else 0 := by
  have each : ∀ k ∈ c.sockets.toFinset, (t.endpoints k).acks other flag =
      (s.endpoints k).acks other flag +
        if k = socket then (if other = id ∧ flag = success then 1 else 0) else 0 := by
    intro k _
    by_cases same : k = socket
    · subst same
      rw [if_pos rfl]
      exact BusEndpoint.acks_snoc next handed outcomes other flag
    · rw [if_neg same, others k same, Nat.add_zero]
  rw [State.acks, Finset.sum_congr rfl each, Finset.sum_add_distrib, Finset.sum_ite_eq',
    if_pos (List.mem_toFinset.mpr member)]
  rfl

/-- No frame has more acknowledgements than there are endpoints. -/
theorem acks_le (nodup : ∀ socket ∈ c.sockets, (s.endpoints socket).handed.Nodup) (id : FrameId) :
    s.acks c id true + s.acks c id false ≤ c.sockets.length := by
  rw [State.acks, State.acks, ← Finset.sum_add_distrib, ← List.toFinset_card_of_nodup c.nodup,
    Finset.card_eq_sum_ones]
  refine Finset.sum_le_sum fun k inSockets => ?_
  rw [BusEndpoint.acks_add]
  exact (List.nodup_iff_count_le_one.mp
    ((nodup k (List.mem_toFinset.mp inSockets)).sublist (List.take_sublist _ _))) id

/-- Before the acknowledgement of an endpoint that was given the frame once, the sum is short. -/
theorem acks_lt (nodup : ∀ socket ∈ c.sockets, (s.endpoints socket).handed.Nodup) {socket : Socket}
    (member : socket ∈ c.sockets) {rest : List FrameId}
    (next : (s.endpoints socket).handed.drop (s.endpoints socket).outcomes.length = id :: rest) :
    s.acks c id true + s.acks c id false < c.sockets.length := by
  have bound : ∀ k ∈ c.sockets.toFinset,
      (s.endpoints k).acks id true + (s.endpoints k).acks id false ≤ 1 := by
    intro k inSockets
    rw [BusEndpoint.acks_add]
    exact (List.nodup_iff_count_le_one.mp
      ((nodup k (List.mem_toFinset.mp inSockets)).sublist (List.take_sublist _ _))) id
  have here : (s.endpoints socket).acks id true + (s.endpoints socket).acks id false < 1 := by
    rw [BusEndpoint.acks_add, Nat.lt_one_iff, List.count_eq_zero]
    intro before
    have all := nodup socket member
    rw [← List.take_append_drop (s.endpoints socket).outcomes.length (s.endpoints socket).handed,
      next] at all
    exact (List.nodup_append.mp all).2.2 id before id List.mem_cons_self rfl
  rw [State.acks, State.acks, ← Finset.sum_add_distrib, ← List.toFinset_card_of_nodup c.nodup,
    Finset.card_eq_sum_ones]
  exact Finset.sum_lt_sum bound ⟨socket, List.mem_toFinset.mpr member, here⟩

end Totals

/-- The value of the promise of a frame that was stamped as `st`. -/
def expectedResult (c : Config) (s : State) (st : Stamped) : Option SendFrameResult :=
  if s.acks c st.id true + s.acks c st.id false = c.sockets.length then
    some ⟨st.frame.seqnum, st.frame.sourceId.setWidth 16, s.acks c st.id true, s.acks c st.id false⟩
  else none

/-- The state of a frame object once it was taken from the send queue. -/
structure Counting (c : Config) (s : State) (st : Stamped) (f : BusFrame) : Prop where
  isLocal : f.localFrame = true
  frame : f.toH9Frame = st.frame
  active : f.activatePromise = true
  buses : f.numberOfActiveBus = c.sockets.length
  value : f.sendPromise.value = expectedResult c s st

/-- The books of the bus: pending queues, counters and promises agree with the histories. -/
structure Accounting (c : Config) (s : State) : Prop where
  noFault : s.fault = none
  ordered : ∀ socket, (s.endpoints socket).outcomes.length ≤ (s.endpoints socket).handed.length
  pending : ∀ socket, (s.endpoints socket).pendingFrames =
    (s.endpoints socket).handed.drop (s.endpoints socket).outcomes.length
  counted : ∀ id f, s.heap id = some f →
    f.sendCounter = s.acks c id true ∧ f.sendFailCounter = s.acks c id false
  inactive : ∀ id f, s.heap id = some f → (∀ st ∈ s.stamped, st.id ≠ id) →
    f.activatePromise = false ∧ f.sendPromise.value = none
  counting : ∀ st ∈ s.stamped, ∃ f, s.heap st.id = some f ∧ Counting c s st f
  history : s.stamped.map Stamped.id ++ s.sendQueue = s.queuedLocal

/-- Steps that hand over and acknowledge nothing leave the books alone. -/
theorem Accounting.of_same {c : Config} {s t : State} (a : Accounting c s) (heap : t.heap = s.heap)
    (endpoints : t.endpoints = s.endpoints) (fault : t.fault = s.fault)
    (stamped : t.stamped = s.stamped) (sendQueue : t.sendQueue = s.sendQueue)
    (queuedLocal : t.queuedLocal = s.queuedLocal) : Accounting c t := by
  have acks : t.acks c = s.acks c := by
    funext id success
    exact acks_congr (fun socket => by rw [endpoints]; exact ⟨rfl, rfl⟩) success
  have expected : expectedResult c t = expectedResult c s := by
    funext st
    rw [expectedResult, expectedResult, acks]
  refine ⟨by rw [fault]; exact a.noFault, by rw [endpoints]; exact a.ordered,
    by rw [endpoints]; exact a.pending, by rw [heap, acks]; exact a.counted,
    by rw [heap, stamped]; exact a.inactive, ?_, by rw [stamped, sendQueue, queuedLocal]; exact a.history⟩
  rw [stamped, heap]
  intro st member
  obtain ⟨f, found, counting⟩ := a.counting st member
  exact ⟨f, found, { counting with value := by rw [expected]; exact counting.value }⟩

section Steps

variable {c : Config} {s t : State} {e : Event}

theorem expectedResult_congr (same : ∀ success id, t.acks c id success = s.acks c id success) :
    expectedResult c t = expectedResult c s := by
  funext st
  rw [expectedResult, expectedResult, same, same]

/-- A new frame object has no acknowledgements. -/
theorem Accounting.fresh (a : Accounting c s) (d : Delivery c s) {id : FrameId} (f : BusFrame)
    (free : s.heap id = none) (unsent : f.sendCounter = 0 ∧ f.sendFailCounter = 0)
    (inactive : f.activatePromise = false ∧ f.sendPromise.value = none)
    (heap : t.heap = Function.update s.heap id (some f)) (endpoints : t.endpoints = s.endpoints)
    (fault : t.fault = s.fault) (stamped : t.stamped = s.stamped)
    (history : t.stamped.map Stamped.id ++ t.sendQueue = t.queuedLocal) : Accounting c t := by
  have acks (success : Bool) (other : FrameId) : t.acks c other success = s.acks c other success :=
    acks_congr (fun socket => by rw [endpoints]; exact ⟨rfl, rfl⟩) success
  have absent : ∀ socket ∈ c.sockets, id ∉ (s.endpoints socket).handed := by
    intro socket _ member
    have known := d.handedKnown socket id member
    rw [kind_of_free free] at known
    cases known
  refine ⟨by rw [fault]; exact a.noFault, by rw [endpoints]; exact a.ordered,
    by rw [endpoints]; exact a.pending, fun other g found => ?_, fun other g found unstamped => ?_, ?_,
    history⟩
  · rw [acks, acks]
    rw [heap] at found
    rcases Heap.update_eq_some.mp found with ⟨rfl, ⟨⟩⟩ | ⟨-, found⟩
    · rw [acks_of_not_handed absent, acks_of_not_handed absent]
      exact unsent
    · exact a.counted other g found
  · rw [heap] at found
    rw [stamped] at unstamped
    rcases Heap.update_eq_some.mp found with ⟨rfl, ⟨⟩⟩ | ⟨-, found⟩
    · exact inactive
    · exact a.inactive other g found unstamped
  · rw [stamped]
    intro st member
    obtain ⟨g, found, counting⟩ := a.counting st member
    refine ⟨g, ?_, { counting with value := ?_ }⟩
    · rw [heap]
      exact Heap.update_of_free free found
    · rw [expectedResult_congr acks]
      exact counting.value

/-- Handing a frame over makes it pending and acknowledges nothing. -/
theorem Accounting.sendFrame (a : Accounting c s) (socket : Socket) (id : FrameId) (phase : Phase) :
    Accounting c ({ s with phase }.sendFrame socket id) := by
  have acks (success : Bool) (other : FrameId) :
      ({ s with phase }.sendFrame socket id).acks c other success = s.acks c other success := by
    refine Finset.sum_congr rfl fun k _ => ?_
    by_cases same : k = socket
    · subst same
      refine BusEndpoint.acks_handed_snoc (a.ordered k) (sendFrame_handed_self _ k id) ?_ other success
      simp only [State.sendFrame, State.writeEndpoint, Function.update_self]
    · rw [sendFrame_other _ _ _ same]
  refine ⟨a.noFault, fun k => ?_, fun k => ?_, fun other g found => ?_, a.inactive, ?_, a.history⟩
  · by_cases same : k = socket
    · subst same
      have ordered := a.ordered k
      simp only [State.sendFrame, State.writeEndpoint, Function.update_self, List.length_append]
      omega
    · rw [sendFrame_other _ _ _ same]
      exact a.ordered k
  · by_cases same : k = socket
    · subst same
      simp only [State.sendFrame, State.writeEndpoint, Function.update_self]
      rw [a.pending k, List.drop_append_of_le_length (a.ordered k)]
    · rw [sendFrame_other _ _ _ same]
      exact a.pending k
  · rw [acks, acks]
    exact a.counted other g found
  · intro st member
    obtain ⟨g, found, counting⟩ := a.counting st member
    exact ⟨g, found, { counting with value := by rw [expectedResult_congr acks]; exact counting.value }⟩

/-- The dequeue of a local frame starts its count at zero. -/
theorem Accounting.sendPop (a : Accounting c s) (d : Delivery c s) {id : FrameId}
    {queue : List FrameId} {f : BusFrame} (frame : H9Frame) (nextSeqnum : Byte)
    (front : s.sendQueue = id :: queue) (found : s.heap id = some f) :
    Accounting c { s.writeFrame id { f.activateSendFinishPromise c.sockets.length with
        toH9Frame := frame } with
      sendQueue := queue
      nextSeqnum
      phase := .sending id c.sockets
      stamped := s.stamped ++ [⟨id, f.raw, frame⟩] } := by
  have known : s.kind id = some (true, f.origin) := by
    have queued : id ∈ s.queuedLocal := by
      rw [← a.history, front]
      exact List.mem_append_right _ List.mem_cons_self
    obtain ⟨origin, kind⟩ := (d.localKnown id).mp queued
    rw [State.kind, found, Option.map_some, Option.some.injEq, Prod.mk.injEq] at kind ⊢
    exact ⟨kind.1, rfl⟩
  have isLocal : f.localFrame = true := by
    rw [State.kind, found, Option.map_some, Option.some.injEq, Prod.mk.injEq] at known
    exact known.1
  have unstamped : ∀ st ∈ s.stamped, st.id ≠ id := by
    intro st member same
    have all := d.nodupLocal
    rw [← a.history, front] at all
    exact (List.nodup_append.mp all).2.2 st.id (List.mem_map_of_mem member) id List.mem_cons_self same
  have absent : ∀ socket ∈ c.sockets, id ∉ (s.endpoints socket).handed := by
    intro socket member handed
    have all := d.nodupLocal
    rw [← d.sent socket member, front] at all
    have flagged : s.isLocal id = true := by rw [State.isLocal, known, Option.any_some]
    exact (List.nodup_append.mp all).2.2 id
      (List.mem_append_left _ (List.mem_filter.mpr ⟨handed, flagged⟩)) id List.mem_cons_self rfl
  have zero := acks_of_not_handed absent
  have positive : 0 < c.sockets.length := List.length_pos_of_ne_nil c.nonempty
  refine ⟨a.noFault, a.ordered, a.pending, fun other g there => ?_, fun other g there fresh => ?_, ?_, ?_⟩
  · rcases Heap.update_eq_some.mp there with ⟨rfl, ⟨⟩⟩ | ⟨-, there⟩
    · exact a.counted other f found
    · exact a.counted other g there
  · rcases Heap.update_eq_some.mp there with ⟨rfl, -⟩ | ⟨-, there⟩
    · exact absurd rfl (fresh ⟨other, f.raw, frame⟩ (List.mem_append_right _ (List.mem_singleton_self _)))
    · exact a.inactive other g there fun st member => fresh st (List.mem_append_left _ member)
  · intro st member
    rcases List.mem_append.mp member with old | new
    · obtain ⟨g, there, counting⟩ := a.counting st old
      exact ⟨g, (Function.update_of_ne (unstamped st old) _ _).trans there,
        { counting with value := counting.value }⟩
    · obtain rfl := List.mem_singleton.mp new
      refine ⟨_, Function.update_self _ _ _, isLocal, rfl, rfl, rfl, ?_⟩
      have short : s.acks c id true + s.acks c id false ≠ c.sockets.length := by
        rw [zero, zero]
        omega
      exact (a.inactive id f found unstamped).2.trans (if_neg short).symm
  · have history := a.history
    rw [front] at history
    simp only [List.map_append, List.map_cons, List.map_nil, List.append_assoc, List.singleton_append]
    exact history

/-- The object of the acknowledged frame after its counter moved. -/
def BusFrame.counted (f : BusFrame) (success : Bool) : BusFrame :=
  if success then { f with sendCounter := f.sendCounter + 1 }
  else { f with sendFailCounter := f.sendFailCounter + 1 }

/-- The callback for a frame whose count goes through. -/
theorem sendAckCallback_of_ok {socket : Socket} {success : Bool} {id : FrameId}
    {rest : List FrameId} {f g : BusFrame} (front : (s.endpoints socket).pendingFrames = id :: rest)
    (found : s.heap id = some f) (ok : (BusFrame.counted f success).finish = .ok g) :
    s.sendAckCallback socket success =
      (s.writeEndpoint socket { s.endpoints socket with
        pendingFrames := rest
        outcomes := (s.endpoints socket).outcomes ++ [success] }).writeFrame id g := by
  have counts : (if success then f.incSendCounter else f.incSendFailCounter) = .ok g := by
    cases success <;> exact ok
  unfold State.sendAckCallback
  dsimp only
  rw [front]
  dsimp only
  split
  · next missing =>
    change s.heap id = none at missing
    rw [found] at missing
    cases missing
  · next f' there =>
    change s.heap id = some f' at there
    rw [found] at there
    cases there
    rw [counts]

theorem counted_counters (f : BusFrame) (success : Bool) :
    (BusFrame.counted f success).sendCounter = f.sendCounter + (if success then 1 else 0) ∧
      (BusFrame.counted f success).sendFailCounter = f.sendFailCounter + (if success then 0 else 1) := by
  cases success <;> exact ⟨rfl, rfl⟩

/-- Completing the count of a frame object, with one acknowledgement still to come before it. -/
theorem Accounting.finish_counted (a : Accounting c s) {id : FrameId} {f : BusFrame} (success : Bool)
    (found : s.heap id = some f)
    (short : s.acks c id true + s.acks c id false < c.sockets.length) :
    ∃ g, (BusFrame.counted f success).finish = .ok g ∧
      (g.localFrame = f.localFrame ∧ g.toH9Frame = f.toH9Frame ∧
        g.activatePromise = f.activatePromise ∧ g.numberOfActiveBus = f.numberOfActiveBus) ∧
      (g.sendCounter = f.sendCounter + (if success then 1 else 0) ∧
        g.sendFailCounter = f.sendFailCounter + (if success then 0 else 1)) ∧
      ((∀ st ∈ s.stamped, st.id ≠ id) → g.activatePromise = false ∧ g.sendPromise.value = none) ∧
      (∀ st ∈ s.stamped, st.id = id → g.sendPromise.value =
        if s.acks c id true + (if success then 1 else 0) +
            (s.acks c id false + (if success then 0 else 1)) = c.sockets.length then
          some ⟨st.frame.seqnum, st.frame.sourceId.setWidth 16,
            s.acks c id true + (if success then 1 else 0),
            s.acks c id false + (if success then 0 else 1)⟩
        else none) := by
  obtain ⟨counter, failCounter⟩ := a.counted id f found
  obtain ⟨newCounter, newFailCounter⟩ := counted_counters f success
  have kept : (BusFrame.counted f success).localFrame = f.localFrame ∧
      (BusFrame.counted f success).toH9Frame = f.toH9Frame ∧
      (BusFrame.counted f success).activatePromise = f.activatePromise ∧
      (BusFrame.counted f success).numberOfActiveBus = f.numberOfActiveBus ∧
      (BusFrame.counted f success).sendPromise = f.sendPromise := by
    cases success <;> exact ⟨rfl, rfl, rfl, rfl, rfl⟩
  obtain ⟨isLocal, frame, active, buses, promise⟩ := kept
  have total : (BusFrame.counted f success).sendCounter + (BusFrame.counted f success).sendFailCounter =
      s.acks c id true + (if success then 1 else 0) +
        (s.acks c id false + (if success then 0 else 1)) := by
    rw [newCounter, newFailCounter, counter, failCounter]
  have next : s.acks c id true + (if success then 1 else 0) +
      (s.acks c id false + (if success then 0 else 1)) = s.acks c id true + s.acks c id false + 1 := by
    cases success <;> simp <;> omega
  by_cases stamped : ∃ st ∈ s.stamped, st.id = id
  · obtain ⟨st, inStamped, same⟩ := stamped
    obtain ⟨f', there, counting⟩ := a.counting st inStamped
    rw [same, found] at there
    cases there
    have unset : f.sendPromise.value = none := by
      rw [counting.value, expectedResult, same, if_neg (by omega)]
    have buses' := buses.trans counting.buses
    have unique (st' : Stamped) (member : st' ∈ s.stamped) (same' : st'.id = id) :
        st'.frame = f.toH9Frame := by
      obtain ⟨f', there, counting'⟩ := a.counting st' member
      rw [same', found] at there
      cases there
      exact counting'.frame.symm
    by_cases last : s.acks c id true + (if success then 1 else 0) +
        (s.acks c id false + (if success then 0 else 1)) = c.sockets.length
    · refine ⟨_, BusFrame.finish_of_last (active.trans counting.active) (by omega)
        (by rw [promise]; exact unset), ⟨isLocal, frame, active, buses⟩, ⟨newCounter, newFailCounter⟩,
        fun fresh => absurd same (fresh st inStamped), fun st' member same' => ?_⟩
      rw [if_pos last, unique st' member same']
      simp only [BusFrame.sendResult, newCounter, newFailCounter, counter, failCounter, frame]
    · refine ⟨_, BusFrame.finish_of_short (by omega), ⟨isLocal, frame, active, buses⟩,
        ⟨newCounter, newFailCounter⟩, fun fresh => absurd same (fresh st inStamped), fun _ _ _ => ?_⟩
      rw [if_neg last, promise]
      exact unset
  · have fresh : ∀ st ∈ s.stamped, st.id ≠ id := fun st member same => stamped ⟨st, member, same⟩
    obtain ⟨idle, unset⟩ := a.inactive id f found fresh
    refine ⟨_, BusFrame.finish_of_inactive (active.trans idle), ⟨isLocal, frame, active, buses⟩,
      ⟨newCounter, newFailCounter⟩, fun _ => ⟨active.trans idle, by rw [promise]; exact unset⟩,
      fun st member same => absurd same (fresh st member)⟩

/-- An acknowledgement is counted for the frame it belongs to, and only the last one of a local
frame fulfils its promise. -/
theorem Accounting.ack (a : Accounting c s) (d : Delivery c s) {socket : Socket} (success : Bool)
    (member : socket ∈ c.sockets)
    (owed : (s.endpoints socket).outcomes.length < (s.endpoints socket).handed.length) :
    Accounting c (s.sendAckCallback socket success) := by
  obtain ⟨id, rest, next⟩ : ∃ id rest,
      (s.endpoints socket).handed.drop (s.endpoints socket).outcomes.length = id :: rest := by
    refine List.exists_cons_of_ne_nil fun none => ?_
    rw [List.drop_eq_nil_iff] at none
    omega
  have front := (a.pending socket).trans next
  obtain ⟨f, found⟩ : ∃ f, s.heap id = some f := by
    have inHanded : id ∈ (s.endpoints socket).handed :=
      List.mem_of_mem_drop (by rw [next]; exact List.mem_cons_self)
    have known := d.handedKnown socket id inHanded
    rw [State.kind, Option.isSome_map] at known
    exact Option.isSome_iff_exists.mp known
  have short := acks_lt (fun k inSockets => d.handed_nodup inSockets) member next
  obtain ⟨counter, failCounter⟩ := a.counted id f found
  obtain ⟨newCounter, newFailCounter⟩ := counted_counters f success
  -- the counters of the frame after the callback, whatever becomes of its promise
  have acks (t : State) (shape : t.endpoints = (s.writeEndpoint socket { s.endpoints socket with
      pendingFrames := rest
      outcomes := (s.endpoints socket).outcomes ++ [success] }).endpoints) (other : FrameId)
      (flag : Bool) : t.acks c other flag =
        s.acks c other flag + if other = id ∧ flag = success then 1 else 0 := by
    refine acks_snoc member next (fun k apart => ?_) ?_ ?_ other flag <;> rw [shape]
    · exact Function.update_of_ne apart _ _
    · simp only [State.writeEndpoint, Function.update_self]
    · simp only [State.writeEndpoint, Function.update_self]
  obtain ⟨g, ok, same, counters, promise⟩ := a.finish_counted success found short
  rw [sendAckCallback_of_ok front found ok]
  have moved (flag : Bool) (other : FrameId) := acks ((s.writeEndpoint socket { s.endpoints socket with
      pendingFrames := rest
      outcomes := (s.endpoints socket).outcomes ++ [success] }).writeFrame id g) rfl other flag
  refine ⟨a.noFault, fun k => ?_, fun k => ?_, fun other h there => ?_, fun other h there fresh => ?_,
    fun st inStamped => ?_, a.history⟩
  · by_cases here : k = socket
    · subst here
      simp only [State.writeFrame, State.writeEndpoint, Function.update_self, List.length_append,
        List.length_singleton]
      omega
    · simp only [State.writeFrame, State.writeEndpoint, Function.update_of_ne here]
      exact a.ordered k
  · by_cases here : k = socket
    · subst here
      simp only [State.writeFrame, State.writeEndpoint, Function.update_self, List.length_append,
        List.length_singleton]
      rw [← List.drop_drop, next, List.drop_one, List.tail_cons]
    · simp only [State.writeFrame, State.writeEndpoint, Function.update_of_ne here]
      exact a.pending k
  · rw [moved, moved]
    rcases Heap.update_eq_some.mp there with ⟨rfl, ⟨⟩⟩ | ⟨here, there⟩
    · obtain ⟨counter, failCounter⟩ := a.counted other f found
      rw [counters.1, counters.2, counter, failCounter]
      cases success <;> simp
    · simp only [here, false_and, if_false, Nat.add_zero]
      exact a.counted other h there
  · rcases Heap.update_eq_some.mp there with ⟨rfl, ⟨⟩⟩ | ⟨-, there⟩
    · exact promise.1 fresh
    · exact a.inactive other h there fresh
  · obtain ⟨h, there, counting⟩ := a.counting st inStamped
    by_cases here : st.id = id
    · have value := promise.2 st inStamped here
      rw [here, found] at there
      cases there
      refine ⟨g, by rw [here]; exact Function.update_self _ _ _,
        same.1.trans counting.isLocal, same.2.1.trans counting.frame,
        same.2.2.1.trans counting.active, same.2.2.2.trans counting.buses, ?_⟩
      rw [value, expectedResult, moved, moved, here]
      cases success <;> simp
    · refine ⟨h, (Function.update_of_ne here _ _).trans there, { counting with value := ?_ }⟩
      rw [counting.value, expectedResult, expectedResult, moved, moved]
      simp only [here, false_and, if_false, Nat.add_zero]

theorem accounting_initial : Accounting c initial where
  noFault := rfl
  ordered _ := Nat.le_refl 0
  pending _ := rfl
  counted id f found := by cases found
  inactive id f found := by cases found
  counting st member := by cases member
  history := rfl

/-- Every step keeps the books. -/
theorem Step.accounting (step : Step c s e t) (a : Accounting c s) (d : Delivery c s) :
    Accounting c t := by
  cases step with
  | push thread id frame raw free =>
    refine a.fresh d (BusFrame.make frame raw).markAsLocalOrigin free ⟨rfl, rfl⟩ ⟨rfl, rfl⟩ rfl rfl
      rfl rfl ?_
    change s.stamped.map Stamped.id ++ (s.sendQueue ++ [id]) = s.queuedLocal ++ [id]
    rw [← List.append_assoc, a.history]
  | readForward id frame more sockets next phase free on =>
    exact a.fresh d (BusFrame.make frame false) free ⟨rfl, rfl⟩ ⟨rfl, rfl⟩ rfl rfl rfl rfl a.history
  | forwardHand id f socket rest phase found addressed foreign => exact a.sendFrame socket id _
  | hand id socket rest phase => exact a.sendFrame socket id _
  | sendPop ret id queue f phase front found => exact a.sendPop d _ _ front found
  | ack socket success member owed => exact a.ack d success member owed
  | trigger _ _ | waitAsync _ _ _ | waitSockets _ _ | read _ _ _ _ _ _ _ _ _ | announce _ _
  | forwardNone _ _ | forwardPop _ _ _ _ | forwardSkip _ _ _ _ _ _ _ | forwardDone _ _
  | sendNone _ _ _ | handDone _ _ => exact a.of_same rfl rfl rfl rfl rfl rfl

theorem reachable_accounting (reachable : (machine c).Reachable s) : Accounting c s := by
  refine (reachable.invariant (fun s => Delivery c s ∧ Accounting c s) ?_ ?_).2
  · rintro _ rfl
    exact ⟨delivery_initial, accounting_initial⟩
  · intro s e t both step
    exact ⟨(Step.of_step? step).2.delivery both.1, (Step.of_step? step).2.accounting both.2 both.1⟩

/-- A fulfilled promise is not touched again. -/
theorem Step.promise_kept (step : Step c s e t) (a : Accounting c s) (d : Delivery c s)
    {id : FrameId} {f : BusFrame} {r : SendFrameResult} (found : s.heap id = some f)
    (fulfilled : f.sendPromise.value = some r) :
    ∃ g, t.heap id = some g ∧ g.sendPromise.value = some r := by
  have fresh {other : FrameId} (free : s.heap other = none) (g : BusFrame) :
      Function.update s.heap other (some g) id = some f := Heap.update_of_free free found
  cases step with
  | push thread other frame raw free => exact ⟨f, fresh free _, fulfilled⟩
  | readForward other frame more sockets next phase free on => exact ⟨f, fresh free _, fulfilled⟩
  | sendPop ret other queue g phase front there =>
    by_cases same : id = other
    · subst same
      rw [found] at there
      cases there
      exact ⟨_, Function.update_self _ _ _, fulfilled⟩
    · exact ⟨f, (Function.update_of_ne same _ _).trans found, fulfilled⟩
  | ack socket success member owed =>
    obtain ⟨front, rest, next⟩ : ∃ front rest,
        (s.endpoints socket).handed.drop (s.endpoints socket).outcomes.length = front :: rest := by
      refine List.exists_cons_of_ne_nil fun none => ?_
      rw [List.drop_eq_nil_iff] at none
      omega
    have short := acks_lt (fun k inSockets => d.handed_nodup inSockets) member next
    -- the frame acknowledged here still misses an answer, so its promise has no value
    have apart : id ≠ front := by
      rintro rfl
      by_cases stamped : ∃ st ∈ s.stamped, st.id = id
      · obtain ⟨st, inStamped, rfl⟩ := stamped
        obtain ⟨g, there, counting⟩ := a.counting st inStamped
        rw [found] at there
        cases there
        rw [counting.value, expectedResult, if_neg (by omega)] at fulfilled
        cases fulfilled
      · have unset := (a.inactive id f found fun st member same => stamped ⟨st, member, same⟩).2
        rw [unset] at fulfilled
        cases fulfilled
    obtain ⟨g, there⟩ : ∃ g, s.heap front = some g := by
      have inHanded : front ∈ (s.endpoints socket).handed :=
        List.mem_of_mem_drop (by rw [next]; exact List.mem_cons_self)
      have known := d.handedKnown socket front inHanded
      rw [State.kind, Option.isSome_map] at known
      exact Option.isSome_iff_exists.mp known
    obtain ⟨h, ok, -⟩ := a.finish_counted success there short
    rw [sendAckCallback_of_ok ((a.pending socket).trans next) there ok]
    exact ⟨f, (Function.update_of_ne apart _ _).trans found, fulfilled⟩
  | trigger _ _ | waitAsync _ _ _ | waitSockets _ _ | read _ _ _ _ _ _ _ _ _ | announce _ _
  | forwardNone _ _ | forwardPop _ _ _ _ | forwardSkip _ _ _ _ _ _ _ | forwardHand _ _ _ _ _ _ _ _
  | forwardDone _ _ | sendNone _ _ _ | hand _ _ _ _ | handDone _ _ => exact ⟨f, found, fulfilled⟩

/-- The send promise of a local frame is fulfilled once, by the last of its acknowledgements, with
its own counts and stamp; the promise of any other frame stays empty, and nothing throws. -/
theorem send_promise_fulfilled_once (reachable : (machine c).Reachable s) :
    s.fault = none ∧
    s.stamped.map Stamped.id ++ s.sendQueue = s.queuedLocal ∧
    (∀ st ∈ s.stamped, ∃ f, s.heap st.id = some f ∧ f.localFrame = true ∧ f.toH9Frame = st.frame ∧
      s.acks c st.id true + s.acks c st.id false ≤ c.sockets.length ∧
      f.sendPromise.value =
        if s.acks c st.id true + s.acks c st.id false = c.sockets.length then
          some ⟨st.frame.seqnum, st.frame.sourceId.setWidth 16, s.acks c st.id true,
            s.acks c st.id false⟩
        else none) ∧
    (∀ id f, s.heap id = some f → f.localFrame = false ∨ id ∈ s.sendQueue →
      f.sendPromise.value = none) ∧
    (∀ e t, (machine c).step? s e = some t → ∀ id f r, s.heap id = some f →
      f.sendPromise.value = some r → ∃ g, t.heap id = some g ∧ g.sendPromise.value = some r) := by
  have a := reachable_accounting reachable
  have d := reachable_delivery reachable
  refine ⟨a.noFault, a.history, fun st member => ?_, fun id f found other => ?_,
    fun e t step id f r found fulfilled => ?_⟩
  · obtain ⟨f, found, counting⟩ := a.counting st member
    exact ⟨f, found, counting.isLocal, counting.frame,
      acks_le (fun k inSockets => d.handed_nodup inSockets) st.id, counting.value⟩
  · refine (a.inactive id f found fun st member same => ?_).2
    rcases other with foreign | queued
    · obtain ⟨g, there, counting⟩ := a.counting st member
      rw [same, found] at there
      cases there
      rw [counting.isLocal] at foreign
      cases foreign
    · have all := d.nodupLocal
      rw [← a.history] at all
      exact (List.nodup_append.mp all).2.2 st.id (List.mem_map_of_mem member) id queued same
  · exact (Step.of_step? step).2.promise_kept a d found fulfilled

end Steps

private def getReg : H9Frame := { (default : H9Frame) with type := H9Frame.FrameType.GET_REG }

private def answeredTwice : List Event :=
  [.push 0 0 getReg false, .trigger 0, .wait true [], .forward, .send, .hand, .ack 3 true, .hand,
    .hand, .ack 4 false]

private def countsOneEach (s : State) : Bool :=
  s.stamped == [⟨0, false, { getReg with sourceId := 0xff }⟩] && s.acks twoEndpoints 0 true == 1 &&
    s.acks twoEndpoints 0 false == 1

/-- Both acknowledgements of a register read, one of them negative. -/
theorem send_promise_fulfilled_once_getReg :
    ∃ s, (machine twoEndpoints).run? initial answeredTwice = some s ∧ ∃ f, s.heap 0 = some f ∧
      f.sendPromise.value = some ⟨0, 0xff, 1, 1⟩ := by
  have done : ((machine twoEndpoints).run? initial answeredTwice).any countsOneEach = true := by
    decide +kernel
  obtain ⟨s, run, checked⟩ := (Option.any_eq_true _ _).mp done
  simp only [countsOneEach, Bool.and_eq_true, beq_iff_eq] at checked
  obtain ⟨⟨stamped, positive⟩, negative⟩ := checked
  obtain ⟨-, -, counting, -⟩ := send_promise_fulfilled_once ⟨initial, answeredTwice, rfl, run⟩
  obtain ⟨f, found, -, -, -, value⟩ := counting _ (stamped ▸ List.mem_singleton_self _)
  rw [positive, negative] at value
  exact ⟨s, run, f, found, value⟩

end Bus

end H9d
