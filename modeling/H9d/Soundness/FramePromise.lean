import H9d.Core.Heap
import H9d.Model.RawNode

/-! # The life of one frame promise

Every step acts on each live promise through a function of that promise alone. So a run projects
to the events one promise sees, and its value is the first arrival that matches the comparator with
the sequence number, whichever of the two comes first.
-/

namespace H9d.RawNode

open H9Frame Machine LabeledMachine

variable {Tag : Type} {nodeId : Byte}

namespace FramePromise

def accepts (fp : FramePromise Tag) (frame : ReceivedFrame Tag) : Bool :=
  fp.comparator.eqFrame frame.frame

/-- The effect of an arrival on a promise that is still in the set. -/
def receive (fp : FramePromise Tag) (frame : ReceivedFrame Tag) : FramePromise Tag :=
  if fp.accepts frame then
    if fp.comparatorHasSeqnum then { fp with promise := ⟨some frame⟩ }
    else { fp with frameStorage := fp.frameStorage ++ [frame] }
  else fp

/-- The effect of learning the sequence number. -/
def learn (fp : FramePromise Tag) (seqnum : Byte) : FramePromise Tag :=
  let comparator := fp.comparator.setSeqnum seqnum
  { comparatorHasSeqnum := true
    comparator
    frameStorage := fp.frameStorage.dropWhile fun f => !comparator.eqFrame f.frame
    promise := ⟨fp.frameStorage.find? fun f => comparator.eqFrame f.frame⟩ }

theorem receive_of_refused (fp : FramePromise Tag) {frame : ReceivedFrame Tag}
    (refused : fp.accepts frame = false) : fp.receive frame = fp := by
  rw [receive, if_neg (by rw [refused]; exact Bool.false_ne_true)]

theorem receive_of_known (fp : FramePromise Tag) {frame : ReceivedFrame Tag}
    (accepted : fp.accepts frame = true) (known : fp.comparatorHasSeqnum = true) :
    fp.receive frame = { fp with promise := ⟨some frame⟩ } := by
  rw [receive, if_pos accepted, if_pos known]

theorem receive_of_unknown (fp : FramePromise Tag) {frame : ReceivedFrame Tag}
    (accepted : fp.accepts frame = true) (unknown : fp.comparatorHasSeqnum = false) :
    fp.receive frame = { fp with frameStorage := fp.frameStorage ++ [frame] } := by
  rw [receive, if_pos accepted, if_neg (by rw [unknown]; exact Bool.false_ne_true)]

theorem onFrame_of_unset (fp : FramePromise Tag) (frame : ReceivedFrame Tag)
    (unset : fp.promise.value = none) :
    fp.onFrame frame = .ok (fp.accepts frame && fp.comparatorHasSeqnum, fp.receive frame) := by
  unfold onFrame receive accepts
  rw [Cxx.Promise.setValue_of_unset frame unset]
  split
  · next accepted =>
    rw [accepted, Bool.true_and]
    cases fp.comparatorHasSeqnum <;> rfl
  · next refused =>
    rw [Bool.not_eq_true] at refused
    rw [refused, Bool.false_and]

/-- The replay stops at the first stored frame that matches and keeps the rest. -/
theorem replayStorage_of_unset (fp : FramePromise Tag) (queue : List (ReceivedFrame Tag))
    (known : fp.comparatorHasSeqnum = true) (unset : fp.promise.value = none) :
    fp.replayStorage queue = .ok ((queue.find? fp.accepts).isSome,
      { fp with
        frameStorage := queue.dropWhile fun f => !fp.accepts f
        promise := ⟨queue.find? fp.accepts⟩ }) := by
  induction queue generalizing fp with
  | nil =>
    rw [replayStorage]
    cases fp with
    | mk has comparator storage promise =>
      cases promise
      cases unset
      rfl
  | cons front rest ih =>
    have first : onFrame { fp with frameStorage := front :: rest } front =
        .ok (fp.accepts front, receive { fp with frameStorage := front :: rest } front) := by
      rw [onFrame_of_unset { fp with frameStorage := front :: rest } front unset, known,
        Bool.and_true]
      rfl
    rw [replayStorage, first]
    cases hit : fp.accepts front with
    | true =>
      rw [receive_of_known { fp with frameStorage := front :: rest } hit known,
        List.find?_cons_of_pos hit, List.dropWhile_cons_of_neg (by rw [hit]; decide)]
      rfl
    | false =>
      rw [receive_of_refused { fp with frameStorage := front :: rest } hit,
        List.find?_cons_of_neg (by rw [hit]; decide), List.dropWhile_cons_of_pos (by rw [hit]; rfl)]
      exact ih { fp with frameStorage := front :: rest } known unset

theorem receive_isSome {fp : FramePromise Tag} (frame : ReceivedFrame Tag)
    (unset : fp.promise.value = none) :
    (fp.receive frame).promise.value.isSome = (fp.accepts frame && fp.comparatorHasSeqnum) := by
  unfold receive
  split
  · next accepted =>
    rw [accepted, Bool.true_and]
    split
    · next known => rw [known]; rfl
    · next unknown =>
      rw [Bool.not_eq_true] at unknown
      rw [unset, unknown]
      rfl
  · next refused =>
    rw [Bool.not_eq_true] at refused
    rw [unset, refused, Bool.false_and]
    rfl

theorem receive_waiting {fp : FramePromise Tag} (frame : ReceivedFrame Tag)
    (unset : fp.promise.value = none)
    (unknown : (fp.receive frame).comparatorHasSeqnum = false) :
    (fp.receive frame).promise.value = none := by
  unfold receive at unknown ⊢
  split at unknown
  · next accepted =>
    split at unknown
    · next known => rw [known] at unknown; cases unknown
    · next other => rw [if_pos accepted, if_neg other]; exact unset
  · next refused => rw [if_neg refused]; exact unset

theorem setComparatorSeqnum_of_unset {fp : FramePromise Tag} (seqnum : Byte)
    (unset : fp.promise.value = none) :
    fp.setComparatorSeqnum seqnum =
      .ok ((fp.learn seqnum).promise.value.isSome, fp.learn seqnum) :=
  replayStorage_of_unset { fp with
    comparator := fp.comparator.setSeqnum seqnum
    comparatorHasSeqnum := true } fp.frameStorage rfl unset

end FramePromise

namespace State

@[simp] theorem write_heap (s : State Tag) (p : Pointer) (fp : Option (FramePromise Tag)) :
    (s.write p fp).heap = Function.update s.heap p fp := rfl

@[simp] theorem write_set (s : State Tag) (p : Pointer) (fp : Option (FramePromise Tag)) :
    (s.write p fp).framePromiseSet = s.framePromiseSet := rfl

theorem mem_erase {s : State Tag} {p q : Pointer} :
    q ∈ (s.erase p).framePromiseSet ↔ q ∈ s.framePromiseSet ∧ q ≠ p := by
  simp only [erase, List.mem_filter, decide_eq_true_eq]

theorem mem_insert {s : State Tag} {p q : Pointer} :
    q ∈ (s.insert p).framePromiseSet ↔ q = p ∨ q ∈ s.framePromiseSet := by
  unfold insert
  dsimp only
  split
  · next member =>
    constructor
    · exact Or.inr
    · rintro (rfl | other)
      · exact member
      · exact other
  · exact List.mem_orderedInsert _

theorem nodup_insert {s : State Tag} (p : Pointer) (nodup : s.framePromiseSet.Nodup) :
    (s.insert p).framePromiseSet.Nodup := by
  unfold insert
  dsimp only
  split
  · exact nodup
  · next fresh =>
    exact (List.perm_orderedInsert _ p s.framePromiseSet).nodup_iff.mpr
      (List.nodup_cons.mpr ⟨fresh, nodup⟩)

/-- The set holds exactly the live promises without a value, and nothing has thrown. -/
structure WellFormed (s : State Tag) : Prop where
  noFault : s.fault = none
  nodup : s.framePromiseSet.Nodup
  member : ∀ p, p ∈ s.framePromiseSet ↔ ∃ fp, s.heap p = some fp ∧ fp.promise.value = none
  waiting : ∀ p fp, s.heap p = some fp → fp.comparatorHasSeqnum = false → fp.promise.value = none

theorem wellFormed_empty : (empty : State Tag).WellFormed where
  noFault := rfl
  nodup := List.nodup_nil
  member p := by simp [empty]
  waiting p fp found := by cases found

/-- A promise in the set is live and unset. -/
theorem WellFormed.pending {s : State Tag} (wf : s.WellFormed) {p : Pointer}
    (member : p ∈ s.framePromiseSet) :
    ∃ fp, s.heap p = some fp ∧ fp.promise.value = none :=
  (wf.member p).mp member

section Settle

variable {s : State Tag} {p : Pointer}

@[simp] theorem settle_heap (result : Bool × FramePromise Tag) :
    (s.settle p result).heap = Function.update s.heap p (some result.2) := by
  unfold settle
  dsimp only
  split <;> rfl

@[simp] theorem settle_fault (result : Bool × FramePromise Tag) :
    (s.settle p result).fault = s.fault := by
  unfold settle
  dsimp only
  split <;> rfl

theorem mem_settle {result : Bool × FramePromise Tag} {q : Pointer} :
    q ∈ (s.settle p result).framePromiseSet ↔
      q ∈ s.framePromiseSet ∧ (q = p → result.1 = false) := by
  unfold settle
  dsimp only
  split
  · next full =>
    rw [mem_erase, full]
    exact and_congr_right fun _ => ⟨fun other same => (other same).elim, fun h same => nomatch h same⟩
  · next pending =>
    rw [Bool.not_eq_true] at pending
    exact ⟨fun member => ⟨member, fun _ => pending⟩, And.left⟩

/-- Replacing a pending promise keeps the invariant when the erasure matches the new value. -/
theorem WellFormed.settle (wf : s.WellFormed) (fp : FramePromise Tag) (member : p ∈ s.framePromiseSet)
    (known : fp.comparatorHasSeqnum = false → fp.promise.value = none) :
    (s.settle p (fp.promise.value.isSome, fp)).WellFormed where
  noFault := by rw [settle_fault]; exact wf.noFault
  nodup := by
    unfold State.settle
    dsimp only
    split
    · exact wf.nodup.filter _
    · exact wf.nodup
  member q := by
    rw [mem_settle, settle_heap]
    by_cases same : q = p
    · subst same
      simp only [Function.update_self, Option.some.injEq, exists_eq_left', forall_const,
        Option.isSome_eq_false_iff, Option.isNone_iff_eq_none]
      exact ⟨And.right, fun unset => ⟨member, unset⟩⟩
    · rw [Function.update_of_ne same, ← wf.member q]
      exact ⟨And.left, fun m => ⟨m, fun h => (same h).elim⟩⟩
  waiting q fq found unknown := by
    rw [settle_heap] at found
    rcases Heap.update_eq_some.mp found with ⟨rfl, ⟨⟩⟩ | ⟨-, found⟩
    · exact known unknown
    · exact wf.waiting q fq found unknown

end Settle

theorem visit_of_pending {s : State Tag} {p : Pointer} {fp : FramePromise Tag}
    (frame : ReceivedFrame Tag) (found : s.heap p = some fp) (unset : fp.promise.value = none) :
    s.visit frame p = .ok (s.settle p ((fp.receive frame).promise.value.isSome, fp.receive frame)) := by
  rw [visit, found, FramePromise.receive_isSome frame unset]
  simp only [FramePromise.onFrame_of_unset fp frame unset]
  rfl

/-- The loop over any part of the set treats each of its members on its own. -/
private theorem foldlM_visit (frame : ReceivedFrame Tag) (pointers : List Pointer) :
    ∀ s : State Tag, s.WellFormed → pointers.Nodup → (∀ p ∈ pointers, p ∈ s.framePromiseSet) →
      ∃ t, pointers.foldlM (visit frame) s = .ok t ∧ t.WellFormed ∧
        ∀ q, t.heap q =
          if q ∈ pointers then (s.heap q).map (·.receive frame) else s.heap q := by
  induction pointers with
  | nil => exact fun s wf _ _ => ⟨s, rfl, wf, fun q => by rw [if_neg List.not_mem_nil]⟩
  | cons p rest ih =>
    intro s wf nodup members
    obtain ⟨fresh, nodup⟩ := List.nodup_cons.mp nodup
    have member := members p List.mem_cons_self
    obtain ⟨fp, found, unset⟩ := wf.pending member
    have first := visit_of_pending frame found unset
    have wf' := wf.settle (fp.receive frame) member (FramePromise.receive_waiting frame unset)
    obtain ⟨t, ran, wfEnd, heap⟩ := ih _ wf' nodup fun q inRest =>
      mem_settle.mpr ⟨members q (List.mem_cons_of_mem p inRest), fun same =>
        absurd (same ▸ inRest) fresh⟩
    refine ⟨t, by rw [List.foldlM_cons, first]; exact ran, wfEnd, fun q => ?_⟩
    rw [heap q, settle_heap]
    by_cases same : q = p
    · subst same
      rw [if_neg fresh, Function.update_self, if_pos List.mem_cons_self, found]
      rfl
    · rw [Function.update_of_ne same]
      simp only [List.mem_cons, same, false_or]

end State

namespace FramePromise

/-- What one event does to the live promise at `p`. -/
def observe (p : Pointer) (fp : FramePromise Tag) : Event Tag → FramePromise Tag
  | .onFrameRecv frame => if fp.promise.value = none then fp.receive frame else fp
  | .setComparatorSeqnum q seqnum => if q = p then fp.learn seqnum else fp
  | .createFramePromise .. | .destroyFramePromise _ => fp

theorem observe_of_unset (p : Pointer) {fp : FramePromise Tag} (frame : ReceivedFrame Tag)
    (unset : fp.promise.value = none) : fp.observe p (.onFrameRecv frame) = fp.receive frame :=
  if_pos unset

theorem observe_of_set (p : Pointer) {fp : FramePromise Tag} (frame : ReceivedFrame Tag)
    (set : fp.promise.value ≠ none) : fp.observe p (.onFrameRecv frame) = fp :=
  if_neg set

end FramePromise

open State

theorem onFrameRecv_spec {s : State Tag} (wf : s.WellFormed) (frame : ReceivedFrame Tag) :
    ∃ t, s.onFrameRecv frame = .ok t ∧ t.WellFormed ∧
      ∀ q, t.heap q = (s.heap q).map (·.observe q (.onFrameRecv frame)) := by
  obtain ⟨t, ran, wfEnd, heap⟩ := foldlM_visit frame s.framePromiseSet s wf wf.nodup fun _ m => m
  refine ⟨t, ran, wfEnd, fun q => ?_⟩
  rw [heap q]
  split
  · next member =>
    obtain ⟨fp, found, unset⟩ := wf.pending member
    rw [found, Option.map_some, Option.map_some, FramePromise.observe, if_pos unset]
  · next absent =>
    cases found : s.heap q with
    | none => rfl
    | some fp =>
      have set : fp.promise.value ≠ none := fun unset => absent ((wf.member q).mpr ⟨fp, found, unset⟩)
      rw [Option.map_some, FramePromise.observe, if_neg set]

theorem setComparatorSeqnum_spec {s : State Tag} (wf : s.WellFormed) {p : Pointer}
    {fp : FramePromise Tag} (found : s.heap p = some fp) (unknown : fp.comparatorHasSeqnum = false)
    (seqnum : Byte) :
    ∃ t, s.setComparatorSeqnum p seqnum = .ok t ∧ t.WellFormed ∧
      t.heap = Function.update s.heap p (some (fp.learn seqnum)) := by
  have unset := wf.waiting p fp found unknown
  have member := (wf.member p).mpr ⟨fp, found, unset⟩
  refine ⟨s.settle p ((fp.learn seqnum).promise.value.isSome, fp.learn seqnum), ?_,
    wf.settle (fp.learn seqnum) member nofun, settle_heap _⟩
  rw [State.setComparatorSeqnum, found]
  simp only [FramePromise.setComparatorSeqnum_of_unset seqnum unset]
  rfl

theorem createFramePromise_wellFormed {s : State Tag} (wf : s.WellFormed) {p : Pointer}
    (free : s.heap p = none) (comparator : H9FrameComparator) :
    (s.createFramePromise p comparator).WellFormed where
  noFault := wf.noFault
  nodup := nodup_insert p wf.nodup
  member q := by
    change q ∈ ((s.write p _).insert p).framePromiseSet ↔ ∃ fp, (s.write p _).heap q = some fp ∧ _
    rw [mem_insert, write_heap, write_set, wf.member q]
    by_cases same : q = p
    · subst same
      rw [Function.update_self]
      exact ⟨fun _ => ⟨_, rfl, rfl⟩, fun _ => Or.inl rfl⟩
    · rw [Function.update_of_ne same]
      exact or_iff_right same
  waiting q fp found unknown := by
    change (s.write p _).heap q = some fp at found
    rw [write_heap] at found
    rcases Heap.update_eq_some.mp found with ⟨rfl, ⟨⟩⟩ | ⟨-, found⟩
    · rfl
    · exact wf.waiting q fp found unknown

theorem destroyFramePromise_wellFormed {s : State Tag} (wf : s.WellFormed) (p : Pointer) :
    (s.destroyFramePromise p).WellFormed where
  noFault := wf.noFault
  nodup := wf.nodup.filter _
  member q := by
    change q ∈ (s.erase p).framePromiseSet ↔ ∃ fp, Function.update s.heap p none q = some fp ∧ _
    rw [mem_erase, wf.member q]
    by_cases same : q = p
    · subst same
      rw [Function.update_self]
      exact ⟨fun h => (h.2 rfl).elim, fun ⟨_, found, _⟩ => nomatch found⟩
    · rw [Function.update_of_ne same]
      exact and_iff_left same
  waiting q fp found unknown := by
    rcases Heap.update_eq_some.mp found with ⟨_, ⟨⟩⟩ | ⟨-, found⟩
    exact wf.waiting q fp found unknown

section Step

variable {s t : State Tag} {e : Event Tag}

private theorem unnumbered_iff {slot : Option (FramePromise Tag)} :
    slot.any (fun fp => !fp.comparatorHasSeqnum) = true ↔
      ∃ fp, slot = some fp ∧ fp.comparatorHasSeqnum = false := by
  cases slot with
  | none => simp
  | some fp => simp

/-- Everything a step can do, guards included. -/
theorem step?_cases (wf : s.WellFormed) (step : (machine Tag nodeId).step? s e = some t) :
    t.WellFormed ∧
      ((∃ p garbage request, e = .createFramePromise p garbage request ∧ s.heap p = none ∧
        t = s.createFramePromise p (request.comparator garbage nodeId)) ∨
      (∃ frame, e = .onFrameRecv frame ∧
        ∀ q, t.heap q = (s.heap q).map (·.observe q (.onFrameRecv frame))) ∨
      (∃ p seqnum fp, e = .setComparatorSeqnum p seqnum ∧ s.heap p = some fp ∧
        fp.comparatorHasSeqnum = false ∧ t.heap = Function.update s.heap p (some (fp.learn seqnum))) ∨
      (∃ p fp, e = .destroyFramePromise p ∧ s.heap p = some fp ∧ t = s.destroyFramePromise p)) := by
  change RawNode.step? Tag nodeId s e = some t at step
  cases e with
  | createFramePromise p garbage request =>
    simp only [RawNode.step?, Option.ite_none_right_eq_some, Option.some.injEq,
      Option.isNone_iff_eq_none] at step
    obtain ⟨⟨-, free⟩, rfl⟩ := step
    exact ⟨createFramePromise_wellFormed wf free _, .inl ⟨p, garbage, request, rfl, free, rfl⟩⟩
  | onFrameRecv frame =>
    simp only [RawNode.step?, Option.ite_none_right_eq_some, Option.some.injEq] at step
    obtain ⟨-, rfl⟩ := step
    obtain ⟨next, ran, wfNext, heap⟩ := onFrameRecv_spec wf frame
    rw [ran]
    exact ⟨wfNext, .inr (.inl ⟨frame, rfl, heap⟩)⟩
  | setComparatorSeqnum p seqnum =>
    simp only [RawNode.step?, Option.ite_none_right_eq_some, Option.some.injEq] at step
    obtain ⟨⟨-, guard⟩, rfl⟩ := step
    obtain ⟨fp, found, unknown⟩ := unnumbered_iff.mp guard
    obtain ⟨next, ran, wfNext, heap⟩ := setComparatorSeqnum_spec wf found unknown seqnum
    rw [ran]
    exact ⟨wfNext, .inr (.inr (.inl ⟨p, seqnum, fp, rfl, found, unknown, heap⟩))⟩
  | destroyFramePromise p =>
    simp only [RawNode.step?, Option.ite_none_right_eq_some, Option.some.injEq,
      Option.isSome_iff_exists] at step
    obtain ⟨⟨-, fp, found⟩, rfl⟩ := step
    exact ⟨destroyFramePromise_wellFormed wf p, .inr (.inr (.inr ⟨p, fp, rfl, found, rfl⟩))⟩

theorem step?_wellFormed (wf : s.WellFormed) (step : (machine Tag nodeId).step? s e = some t) :
    t.WellFormed :=
  (step?_cases wf step).1

/-- A live promise that the step does not destroy changes by its own view of the event. -/
theorem step?_heap (wf : s.WellFormed) (step : (machine Tag nodeId).step? s e = some t) {q : Pointer}
    {fp : FramePromise Tag} (found : s.heap q = some fp) (kept : e ≠ .destroyFramePromise q) :
    t.heap q = some (fp.observe q e) := by
  rcases (step?_cases wf step).2 with ⟨p, _, _, rfl, free, rfl⟩ | ⟨frame, rfl, heap⟩ |
    ⟨p, seqnum, fp', rfl, live, -, heap⟩ | ⟨p, _, rfl, -, rfl⟩
  · have other : q ≠ p := fun same => by rw [same, free] at found; cases found
    exact (Function.update_of_ne other _ _).trans found
  · rw [heap q, found]
    rfl
  · rw [heap, FramePromise.observe]
    by_cases same : p = q
    · subst same
      rw [found] at live
      cases live
      rw [Function.update_self, if_pos rfl]
    · rw [Function.update_of_ne (Ne.symm same), if_neg same]
      exact found
  · have other : q ≠ p := fun same => kept (same ▸ rfl)
    exact (Function.update_of_ne other _ _).trans found

/-- A promise is told its sequence number only while it has none. -/
theorem step?_untold (wf : s.WellFormed) (step : (machine Tag nodeId).step? s e = some t)
    {q : Pointer} {fp : FramePromise Tag} (found : s.heap q = some fp) (seqnum : Byte)
    (told : e = .setComparatorSeqnum q seqnum) : fp.comparatorHasSeqnum = false := by
  subst told
  rcases (step?_cases wf step).2 with ⟨_, _, _, same, _⟩ | ⟨_, same, _⟩ |
    ⟨_, _, fp', same, live, unknown, _⟩ | ⟨_, _, same, _⟩ <;> cases same
  rw [found] at live
  cases live
  exact unknown

end Step

theorem reachable_wellFormed {s : State Tag} (reachable : (machine Tag nodeId).Reachable s) :
    s.WellFormed :=
  reachable.invariant WellFormed (by rintro _ rfl; exact wellFormed_empty)
    fun _ _ _ wf step => step?_wellFormed wf step

def Event.arrival? : Event Tag → Option (ReceivedFrame Tag)
  | .onFrameRecv frame => some frame
  | .createFramePromise .. | .setComparatorSeqnum .. | .destroyFramePromise _ => none

def Event.seqnum? (p : Pointer) : Event Tag → Option Byte
  | .setComparatorSeqnum q seqnum => if q = p then some seqnum else none
  | .createFramePromise .. | .onFrameRecv _ | .destroyFramePromise _ => none

/-- The frames that arrive in a stretch of a run. -/
def arrivals (events : List (Event Tag)) : List (ReceivedFrame Tag) := events.filterMap Event.arrival?

/-- The sequence numbers told to the promise at `p` in a stretch of a run. -/
def seqnumsOf (p : Pointer) (events : List (Event Tag)) : List Byte :=
  events.filterMap (Event.seqnum? p)

theorem filterMap_cons_toList {α β : Type} (f : α → Option β) (a : α) (as : List α) :
    (a :: as).filterMap f = (f a).toList ++ as.filterMap f := by
  rw [List.filterMap_cons]
  cases f a <;> rfl

/-- The value of a promise as a function of the frames that arrived since its creation and of the
sequence numbers it was told. -/
def expectedValue (comparator : H9FrameComparator) (arrived : List (ReceivedFrame Tag)) :
    List Byte → Option (ReceivedFrame Tag)
  | [] => none
  | seqnum :: _ => arrived.find? fun f => (comparator.setSeqnum seqnum).eqFrame f.frame

/-- A promise object agrees with the history of its own events. -/
inductive Tracks : H9FrameComparator → List (ReceivedFrame Tag) →
    List Byte → FramePromise Tag → Prop
  | waiting (comparator : H9FrameComparator) (arrived : List (ReceivedFrame Tag)) :
      Tracks comparator arrived []
        ⟨false, comparator, arrived.filter fun f => comparator.eqFrame f.frame, Cxx.Promise.unset⟩
  | numbered (comparator : H9FrameComparator) (arrived : List (ReceivedFrame Tag)) (seqnum : Byte)
      (storage : List (ReceivedFrame Tag)) :
      Tracks comparator arrived [seqnum] ⟨true, comparator.setSeqnum seqnum, storage,
        ⟨arrived.find? fun f => (comparator.setSeqnum seqnum).eqFrame f.frame⟩⟩

namespace Tracks

variable {comparator : H9FrameComparator} {arrived : List (ReceivedFrame Tag)} {told : List Byte}
  {fp : FramePromise Tag}

theorem value (tracks : Tracks comparator arrived told fp) :
    fp.promise.value = expectedValue comparator arrived told := by
  cases tracks <;> rfl

theorem length_le (tracks : Tracks comparator arrived told fp) : told.length ≤ 1 := by
  cases tracks <;> simp

/-- An arrival extends the history by one frame, whether or not the sequence number is known. -/
theorem receive (tracks : Tracks comparator arrived told fp) (p : Pointer)
    (frame : ReceivedFrame Tag) :
    Tracks comparator (arrived ++ [frame]) told (fp.observe p (.onFrameRecv frame)) := by
  by_cases set : fp.promise.value = none
  · rw [FramePromise.observe_of_unset p frame set]
    cases accepted : fp.accepts frame with
    | false =>
      rw [FramePromise.receive_of_refused _ accepted]
      cases tracks with
      | waiting =>
        have next := Tracks.waiting comparator (arrived ++ [frame])
        rwa [List.filter_append, List.filter_cons_of_neg (by rw [Bool.not_eq_true]; exact accepted),
          List.filter_nil, List.append_nil] at next
      | numbered seqnum storage =>
        have next := Tracks.numbered comparator (arrived ++ [frame]) seqnum storage
        rwa [List.find?_append, List.find?_cons_of_neg (by rw [Bool.not_eq_true]; exact accepted),
          List.find?_nil, Option.or_none] at next
    | true =>
      cases tracks with
      | waiting =>
        rw [FramePromise.receive_of_unknown _ accepted rfl]
        have next := Tracks.waiting comparator (arrived ++ [frame])
        rw [List.filter_append, List.filter_cons_of_pos (by exact accepted), List.filter_nil] at next
        exact next
      | numbered seqnum storage =>
        rw [FramePromise.receive_of_known _ accepted rfl]
        have next := Tracks.numbered comparator (arrived ++ [frame]) seqnum storage
        change List.find? _ arrived = none at set
        rw [List.find?_append, set, Option.none_or, List.find?_cons_of_pos (by exact accepted)] at next
        exact next
  · rw [FramePromise.observe_of_set p frame set]
    cases tracks with
    | waiting => exact absurd rfl set
    | numbered seqnum storage =>
      obtain ⟨first, hit⟩ := Option.ne_none_iff_exists'.mp set
      change List.find? _ arrived = some first at hit
      have next := Tracks.numbered comparator (arrived ++ [frame]) seqnum storage
      rw [List.find?_append, hit, Option.some_or] at next
      rwa [hit]

theorem learn (tracks : Tracks comparator arrived told fp)
    (unnumbered : comparator.compares H9FrameComparator.SEQNUM = false)
    (unknown : fp.comparatorHasSeqnum = false) (seqnum : Byte) :
    Tracks comparator arrived (told ++ [seqnum]) (fp.learn seqnum) := by
  cases tracks with
  | waiting =>
    have next := Tracks.numbered comparator arrived seqnum
      ((arrived.filter fun f => comparator.eqFrame f.frame).dropWhile
        fun f => !(comparator.setSeqnum seqnum).eqFrame f.frame)
    have same : (arrived.filter fun f => comparator.eqFrame f.frame).find?
        (fun f => (comparator.setSeqnum seqnum).eqFrame f.frame) =
          arrived.find? fun f => (comparator.setSeqnum seqnum).eqFrame f.frame := by
      rw [List.find?_filter]
      congr 1
      funext f
      cases matched : (comparator.setSeqnum seqnum).eqFrame f.frame with
      | true =>
        rw [H9FrameComparator.eqFrame_of_setSeqnum _ _ unnumbered _ matched]
        rfl
      | false => simp only [Bool.false_eq_true, and_false, decide_false]
    rw [← same] at next
    exact next
  | numbered => cases unknown

/-- One step of a run, seen by one promise. -/
theorem observe (tracks : Tracks comparator arrived told fp)
    (unnumbered : comparator.compares H9FrameComparator.SEQNUM = false) (p : Pointer)
    (e : Event Tag)
    (single : ∀ seqnum, e = .setComparatorSeqnum p seqnum → fp.comparatorHasSeqnum = false) :
    Tracks comparator (arrived ++ e.arrival?.toList) (told ++ (e.seqnum? p).toList)
      (fp.observe p e) := by
  cases e with
  | onFrameRecv frame =>
    have next := tracks.receive p frame
    rwa [← List.append_nil told] at next
  | setComparatorSeqnum q seqnum =>
    have unchanged : arrived ++ ((Event.setComparatorSeqnum q seqnum : Event Tag).arrival?).toList =
        arrived := List.append_nil arrived
    rw [FramePromise.observe, Event.seqnum?, unchanged]
    split
    · next same =>
      subst same
      exact tracks.learn unnumbered (single seqnum rfl) seqnum
    · rw [Option.toList_none, List.append_nil]
      exact tracks
  | createFramePromise _ _ _ | destroyFramePromise _ =>
    rw [← List.append_nil arrived, ← List.append_nil told] at tracks
    exact tracks

end Tracks

/-- Along a run that does not destroy it, a promise keeps agreeing with its history. -/
theorem run_tracks {s t : State Tag} (wf : s.WellFormed) {p : Pointer} {fp : FramePromise Tag}
    {comparator : H9FrameComparator} {arrived : List (ReceivedFrame Tag)} {told : List Byte}
    (unnumbered : comparator.compares H9FrameComparator.SEQNUM = false)
    (found : s.heap p = some fp) (tracks : Tracks comparator arrived told fp)
    {events : List (Event Tag)} (run : (machine Tag nodeId).run? s events = some t)
    (kept : .destroyFramePromise p ∉ events) :
    ∃ final, t.heap p = some final ∧
      Tracks comparator (arrived ++ arrivals events) (told ++ seqnumsOf p events) final := by
  induction events generalizing s fp arrived told with
  | nil =>
    cases run
    rw [arrivals, seqnumsOf, List.filterMap_nil, List.filterMap_nil, List.append_nil,
      List.append_nil]
    exact ⟨fp, found, tracks⟩
  | cons e rest ih =>
    obtain ⟨next, step, later⟩ := run?_cons_eq_some.mp run
    have stays : e ≠ .destroyFramePromise p := fun same => kept (same ▸ List.mem_cons_self)
    have moved := step?_heap wf step found stays
    have tail := ih (step?_wellFormed wf step) moved
      (tracks.observe unnumbered p e (step?_untold wf step found)) later
      fun member => kept (List.mem_cons_of_mem e member)
    rw [arrivals, seqnumsOf, filterMap_cons_toList, filterMap_cons_toList, ← List.append_assoc,
      ← List.append_assoc]
    exact tail

/-- A promise that was created and not destroyed since agrees with the history of its lifetime. -/
theorem created_tracks {s t : State Tag} (wf : s.WellFormed) {p : Pointer} {garbage : BitVec 16}
    {request : Request} {events : List (Event Tag)}
    (run : (machine Tag nodeId).run? s (.createFramePromise p garbage request :: events) = some t)
    (live : .destroyFramePromise p ∉ events) :
    ∃ fp, t.heap p = some fp ∧
      Tracks (request.comparator garbage nodeId) (arrivals events) (seqnumsOf p events) fp := by
  obtain ⟨created, step, later⟩ := run?_cons_eq_some.mp run
  have found : created.heap p =
      some (FramePromise.make (request.comparator garbage nodeId)) := by
    rcases (step?_cases wf step).2 with ⟨_, _, _, same, _, rfl⟩ | ⟨_, same, _⟩ | ⟨_, _, _, same, _⟩ |
      ⟨_, _, same, _⟩ <;> cases same
    exact Function.update_self _ _ _
  exact run_tracks (step?_wellFormed wf step) (request.comparator_unnumbered garbage nodeId) found
    (Tracks.waiting (request.comparator garbage nodeId) []) later live

/-- Whether an event is an operation on the promise at `p`. -/
def Event.concerns (p : Pointer) : Event Tag → Prop
  | .createFramePromise q _ _ | .setComparatorSeqnum q _ | .destroyFramePromise q => q = p
  | .onFrameRecv _ => False

/-- An operation on one promise, or a frame that another does not accept, leaves the other alone. -/
theorem step?_other {s t : State Tag} {e : Event Tag} (wf : s.WellFormed)
    (step : (machine Tag nodeId).step? s e = some t) {q : Pointer} {fp : FramePromise Tag}
    (found : s.heap q = some fp) (apart : ¬ e.concerns q)
    (refused : ∀ frame, e = .onFrameRecv frame → fp.accepts frame = false) :
    t.heap q = some fp ∧ (q ∈ t.framePromiseSet ↔ q ∈ s.framePromiseSet) := by
  have same : fp.observe q e = fp := by
    cases e with
    | createFramePromise _ _ _ | destroyFramePromise _ => rfl
    | setComparatorSeqnum p seqnum => exact if_neg apart
    | onFrameRecv frame =>
      rw [FramePromise.observe, FramePromise.receive_of_refused _ (refused frame rfl), ite_self]
  have kept : e ≠ .destroyFramePromise q := fun eq => apart (eq ▸ rfl)
  have moved := step?_heap wf step found kept
  rw [same] at moved
  refine ⟨moved, ?_⟩
  rw [(step?_wellFormed wf step).member, wf.member, moved, found]

/-- A frame promise is fulfilled at most once, by the first arrival of its lifetime that matches
with its sequence number, and the operations of one promise never change another. -/
theorem framePromise_lifetime {s t : State Tag} (reachable : (machine Tag nodeId).Reachable s)
    {p : Pointer} {garbage : BitVec 16} {request : Request} {events : List (Event Tag)}
    (run : (machine Tag nodeId).run? s (.createFramePromise p garbage request :: events) = some t)
    (live : .destroyFramePromise p ∉ events) :
    t.fault = none ∧
    (∃ fp, t.heap p = some fp ∧
      (seqnumsOf p events).length ≤ 1 ∧
      fp.promise.value =
        expectedValue (request.comparator garbage nodeId) (arrivals events) (seqnumsOf p events) ∧
      (p ∈ t.framePromiseSet ↔ fp.promise.value = none)) ∧
    (∀ e u, (machine Tag nodeId).step? t e = some u → ∀ q fq, t.heap q = some fq → ¬ e.concerns q →
      (∀ frame, e = .onFrameRecv frame → fq.comparator.eqFrame frame.frame = false) →
        u.heap q = some fq ∧ (q ∈ u.framePromiseSet ↔ q ∈ t.framePromiseSet)) := by
  have wf := reachable_wellFormed reachable
  have wfEnd : t.WellFormed :=
    run_invariant WellFormed (fun _ _ _ wf step => step?_wellFormed wf step) wf run
  obtain ⟨fp, final, tracks⟩ := created_tracks wf run live
  refine ⟨wfEnd.noFault, ⟨fp, final, tracks.length_le, tracks.value, ?_⟩, ?_⟩
  · rw [wfEnd.member, final]
    simp only [Option.some.injEq, exists_eq_left']
  · intro e u stepped q fq foundOther apart refused
    exact step?_other wfEnd stepped foundOther apart refused

private def storedReply : H9Frame :=
  { (default : H9Frame) with
    type := FrameType.REG_VALUE
    sourceId := 7
    seqnum := 3
    dlc := 2
    data := ![5, 42, 0, 0, 0, 0, 0, 0] }

/-- The reply to a register read arrives before the sender learns its sequence number. -/
theorem framePromise_lifetime_stored :
    ∃ t, (machine ℕ 7).run? State.empty [.createFramePromise 0 0 (.getReg 5),
        .onFrameRecv ⟨storedReply, 0⟩, .setComparatorSeqnum 0 3] = some t ∧
      t.fault = none ∧
      ∃ fp, t.heap 0 = some fp ∧ fp.promise.value = some ⟨storedReply, 0⟩ ∧
        0 ∉ t.framePromiseSet := by
  obtain ⟨t, run⟩ := Option.isSome_iff_exists.mp (by decide +kernel :
    ((machine ℕ 7).run? State.empty [.createFramePromise 0 0 (.getReg 5),
      .onFrameRecv ⟨storedReply, 0⟩, .setComparatorSeqnum 0 3]).isSome = true)
  obtain ⟨noFault, ⟨fp, found, -, value, member⟩, -⟩ :=
    framePromise_lifetime (Reachable.of_initial rfl) run (by simp)
  have first : fp.promise.value = some ⟨storedReply, 0⟩ := value.trans (by decide +kernel)
  refine ⟨t, run, noFault, fp, found, first, fun absent => ?_⟩
  rw [member, first] at absent
  cases absent

end H9d.RawNode
