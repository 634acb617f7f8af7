import H9d.Model.FrameSubject
import H9d.Soundness.ComparatorOrder

/-! # Which observers a frame reaches

The map holds the attachments that are not detached, as long as each one is entered under a key that
accepts the same frames. Two comparators that differ in their group only are one key, so the order
alone does not ensure it.
-/

namespace H9d.FrameSubject

open Machine Cxx

variable {FrameObserver : Type} [DecidableEq FrameObserver]

/-- The attachments after a call. -/
def record (attached : List (FrameObserver × H9FrameComparator)) :
    Event FrameObserver → List (FrameObserver × H9FrameComparator)
  | .attach observer comparator => attached ++ [(observer, comparator)]
  | .detach observer => attached.filter fun a => a.1 ≠ observer

/-- The attachments that are not detached. -/
def attachments (events : List (Event FrameObserver)) : List (FrameObserver × H9FrameComparator) :=
  events.foldl record []

/-- How often an observer is to be called for a frame. -/
def matching (observer : FrameObserver) (frame : H9Frame)
    (attached : List (FrameObserver × H9FrameComparator)) : ℕ :=
  attached.countP fun a => a.1 = observer ∧ a.2.eqFrame frame

/-- Each observer is called once for each attachment that accepts the frame, and nobody else is. -/
structure NotifiesExactly (s : FrameSubject FrameObserver)
    (attached : List (FrameObserver × H9FrameComparator)) : Prop where
  recv : ∀ frame observer, (s.notifyFrameRecvObserver frame).count (.onFrameRecv observer frame) =
    matching observer frame attached
  send : ∀ frame observer, (s.notifyFrameSendObserver frame).count (.onFrameSend observer frame) =
    matching observer frame attached
  recvOnly : ∀ frame, ∀ call ∈ s.notifyFrameRecvObserver frame,
    ∃ observer comparator, call = .onFrameRecv observer frame ∧ (observer, comparator) ∈ attached ∧
      comparator.eqFrame frame = true
  sendOnly : ∀ frame, ∀ call ∈ s.notifyFrameSendObserver frame,
    ∃ observer comparator, call = .onFrameSend observer frame ∧ (observer, comparator) ∈ attached ∧
      comparator.eqFrame frame = true

/-- `operator<` orders the comparator among the keys, and a key that it cannot tell from the comparator
accepts the same frames. -/
def Separates (s : FrameSubject FrameObserver) : Event FrameObserver → Prop
  | .attach _ comparator =>
      StrictWeakOn H9FrameComparator.lt (comparator :: s.frameObservers.keys) ∧
        ∀ key ∈ s.frameObservers.keys, Equivalent H9FrameComparator.lt key comparator →
          ∀ frame, key.eqFrame frame = comparator.eqFrame frame
  | .detach _ => True

omit [DecidableEq FrameObserver] in
/-- Comparators of which one has no greater member are told apart. -/
theorem separates_of_comparable {s : FrameSubject FrameObserver} {comparator : H9FrameComparator}
    (comparable : H9FrameComparator.Comparable (comparator :: s.frameObservers.keys)) (observer : FrameObserver) :
    Separates s (.attach observer comparator) := by
  obtain ⟨irrefl, -, trans, equivalentTrans, matching⟩ := (H9FrameComparator.orderLaws_iff _).mpr comparable
  refine ⟨⟨irrefl, trans, equivalentTrans⟩, fun key member same frame => ?_⟩
  exact matching key (List.mem_cons_of_mem _ member) comparator List.mem_cons_self same frame

/-- The map reaches the attached observers, and its keys are in order. -/
structure Holds (s : FrameSubject FrameObserver)
    (attached : List (FrameObserver × H9FrameComparator)) : Prop where
  reached : ∀ frame observer,
    (notified frame s.frameObservers).count observer = matching observer frame attached
  sorted : s.frameObservers.keys.Pairwise fun a b => a.lt b = true

section Steps

variable {s : FrameSubject FrameObserver} {attached : List (FrameObserver × H9FrameComparator)}

theorem Holds.attach (holds : Holds s attached) {observer : FrameObserver} {comparator : H9FrameComparator}
    (separates : Separates s (.attach observer comparator)) :
    ∃ t, s.attachFrameObserver observer comparator = some t ∧
      Holds t (attached ++ [(observer, comparator)]) := by
  obtain ⟨order, same⟩ := separates
  refine ⟨_, if_pos order, fun frame o => ?_, OrderedMap.sorted_access _ _ _ _ order holds.sorted⟩
  have before := holds.reached frame o
  have added : matching o frame (attached ++ [(observer, comparator)]) =
      matching o frame attached + if observer = o ∧ comparator.eqFrame frame then 1 else 0 := by
    rw [matching, List.countP_append, List.countP_singleton]
    simp only [decide_eq_true_eq]
    rfl
  have called : [observer].count o = if observer = o then 1 else 0 := by
    rw [List.count_singleton]
    simp only [beq_iff_eq]
  rw [added, ← before]
  dsimp only
  rcases OrderedMap.access_cases H9FrameComparator.lt comparator [] (· ++ [observer]) s.frameObservers with
    ⟨front, key, observers, back, entries, equivalent, changed⟩ | ⟨front, back, entries, entered⟩
  · have accepts : key.eqFrame frame = comparator.eqFrame frame := by
      refine same key ?_ equivalent frame
      rw [entries]
      simp [OrderedMap.keys]
    rw [changed, entries, notified_append, notified_append, notified_cons, notified_cons, accepts]
    simp only [List.count_append]
    cases comparator.eqFrame frame with
    | false => simp
    | true =>
      simp only [if_true, List.count_append, called, and_true]
      omega
  · rw [entered, entries, notified_append, notified_append, notified_cons]
    simp only [List.count_append]
    cases comparator.eqFrame frame with
    | false => simp
    | true =>
      simp only [if_true, List.nil_append, called, and_true]
      omega

theorem Holds.detach (holds : Holds s attached) (observer : FrameObserver) :
    Holds (s.detachFrameObserver observer) (attached.filter fun a => a.1 ≠ observer) := by
  refine ⟨fun frame o => ?_, ?_⟩
  · have before := holds.reached frame o
    rw [notified_detached frame s.frameObservers, matching, List.countP_filter]
    by_cases gone : o = observer
    · rw [List.count_eq_zero.mpr (by simp [gone]), eq_comm, List.countP_eq_zero]
      intro a _ hit
      simp only [decide_eq_true_eq, Bool.and_eq_true] at hit
      exact hit.2 (hit.1.1.trans gone)
    · rw [List.count_filter (by simpa using gone), before]
      refine List.countP_congr fun a _ => ?_
      simp only [decide_eq_true_eq, Bool.and_eq_true]
      exact ⟨fun hit => ⟨hit, fun same => gone (hit.1.symm.trans same)⟩, And.left⟩
  · have kept : (s.detachFrameObserver observer).frameObservers.keys.Sublist s.frameObservers.keys := by
      have entries := (List.filter_sublist (p := fun it => decide (it.2 ≠ []))
        (l := s.frameObservers.map fun it => (it.1, it.2.filter (· ≠ observer)))).map Prod.fst
      rw [List.map_map] at entries
      exact entries
    exact holds.sorted.sublist kept

theorem Holds.notifiesExactly (holds : Holds s attached) : NotifiesExactly s attached := by
  have called {frame : H9Frame} {observer : FrameObserver}
      (member : observer ∈ notified frame s.frameObservers) :
      ∃ comparator, (observer, comparator) ∈ attached ∧ comparator.eqFrame frame = true := by
    have some := List.count_pos_iff.mpr member
    rw [holds.reached, matching, List.countP_pos_iff] at some
    obtain ⟨⟨o, comparator⟩, attachedTo, hit⟩ := some
    obtain ⟨rfl, accepts⟩ := of_decide_eq_true hit
    exact ⟨comparator, attachedTo, accepts⟩
  constructor
  · intro frame observer
    rw [← holds.reached]
    exact List.count_map_of_injective _ (Callback.onFrameRecv · frame)
      (fun _ _ same => (Callback.onFrameRecv.inj same).1) observer
  · intro frame observer
    rw [← holds.reached]
    exact List.count_map_of_injective _ (Callback.onFrameSend · frame)
      (fun _ _ same => (Callback.onFrameSend.inj same).1) observer
  · intro frame call member
    obtain ⟨observer, reached, rfl⟩ := List.mem_map.mp member
    obtain ⟨comparator, attachedTo, accepts⟩ := called reached
    exact ⟨observer, comparator, rfl, attachedTo, accepts⟩
  · intro frame call member
    obtain ⟨observer, reached, rfl⟩ := List.mem_map.mp member
    obtain ⟨comparator, attachedTo, accepts⟩ := called reached
    exact ⟨observer, comparator, rfl, attachedTo, accepts⟩

theorem Holds.step (holds : Holds s attached) {e : Event FrameObserver} (separates : Separates s e) :
    ∃ t, machine.step? s e = some t ∧ Holds t (record attached e) := by
  cases e with
  | attach observer comparator => exact holds.attach separates
  | detach observer => exact ⟨_, rfl, holds.detach observer⟩

theorem Holds.run (holds : Holds s attached) {events : List (Event FrameObserver)}
    (separates : machine.AllSteps Separates s events) :
    ∃ t, machine.run? s events = some t ∧ Holds t (events.foldl record attached) := by
  induction events generalizing s attached with
  | nil => exact ⟨s, rfl, holds⟩
  | cons e events ih =>
    obtain ⟨here, later⟩ := separates
    obtain ⟨middle, step, placed⟩ := holds.step here
    rw [step] at later
    obtain ⟨t, run, final⟩ := ih placed later
    exact ⟨t, LabeledMachine.run?_cons_eq_some.mpr ⟨middle, step, run⟩, final⟩

end Steps

/-- As long as the comparators of all attachments are told apart, the map behaves, and each frame is
brought to those whom it is for. -/
theorem notifiesExactly_of_separates (events : List (Event FrameObserver))
    (separates : machine.AllSteps Separates new events) :
    ∃ t, machine.run? new events = some t ∧ NotifiesExactly t (attachments events) := by
  have start : Holds (new : FrameSubject FrameObserver) [] := ⟨fun _ _ => rfl, List.Pairwise.nil⟩
  obtain ⟨t, run, holds⟩ := start.run separates
  exact ⟨t, run, holds.notifiesExactly⟩

def typeComparator (type : H9Frame.FrameType) : H9FrameComparator :=
  (H9FrameComparator.defaultConstructed 0).setType type

/-- Two observers of one type and one of another; the first one leaves. -/
theorem notifiesExactly_of_separates_types :
    ∃ t, machine.run? new [.attach 1 (typeComparator 16), .attach 2 (typeComparator 16),
        .attach 3 (typeComparator 17), .detach 1] = some t ∧
      NotifiesExactly t [(2, typeComparator 16), (3, typeComparator 17)] := by
  refine notifiesExactly_of_separates [.attach 1 (typeComparator 16), .attach 2 (typeComparator 16),
    .attach 3 (typeComparator 17), .detach 1] ⟨⟨by decide, nofun⟩, ⟨by decide, ?_⟩, ⟨by decide, ?_⟩, trivial, trivial⟩
  · intro key member same
    refine H9FrameComparator.eqFrame_of_equivalent same ?_
    rw [List.mem_singleton.mp member]
    decide
  · intro key member same
    rw [List.mem_singleton.mp member] at same
    exact absurd same (by decide)

def groupComparator (group : BitVec 16) : H9FrameComparator :=
  (H9FrameComparator.defaultConstructed 0).setBroadcastGroup group

/-- The observer of group 2 is entered under the key of group 1, and gets the frames of that group. -/
theorem notifiesExactly_of_groups :
    ∃ t, machine.run? new [.attach 1 (groupComparator 1), .attach 2 (groupComparator 2)] = some t ∧
      ¬NotifiesExactly t (attachments [.attach 1 (groupComparator 1), .attach 2 (groupComparator 2)]) := by
  refine ⟨⟨[(groupComparator 1, [1, 2])]⟩, rfl, fun exact => ?_⟩
  have calls := exact.recv { (default : H9Frame) with group := 1 } 2
  revert calls
  decide

end H9d.FrameSubject
