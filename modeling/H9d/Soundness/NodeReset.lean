import H9d.Soundness.FramePromise
import H9d.Soundness.ReplyClassification

/-! # When a reset reports success

A node that is reset answers with a broadcast, and a broadcast has no sequence number. The promise of a
reset asks for the number 0 instead, which is whatever the frame object held before the broadcast was
decoded into it, and it keeps what arrives before the reset is sent.
-/

namespace H9d.RawNode

open Cxx H9Frame Machine LabeledMachine

variable {Tag : Type}

/-! ## The frames that decide -/

section Frames

variable (nodeId seqnum : Byte) (f : H9Frame)

/-- The node says that it turned on. -/
def TurnedOn : Prop := f.sourceId = nodeId ∧ f.type = FrameType.NODE_TURNED_ON

/-- The node refuses the request of this number. -/
def Refuses : Prop := f.sourceId = nodeId ∧ f.type = FrameType.COMMAND_ERROR ∧ f.seqnum = seqnum

/-- The frames that the promise of a reset takes. -/
def Counts : Prop := Refuses nodeId seqnum f ∨ TurnedOn nodeId f ∧ f.seqnum = 0

/-- The frames that end a reset. -/
def Decides : Prop := Refuses nodeId seqnum f ∨ TurnedOn nodeId f

/-- An error whose code is no error to the daemon. -/
def NullError : Prop := f.dlc = 1 ∧ f.data 0 = 0

instance : Decidable (TurnedOn nodeId f) := inferInstanceAs (Decidable (_ ∧ _))
instance : Decidable (Refuses nodeId seqnum f) := inferInstanceAs (Decidable (_ ∧ _))
instance : Decidable (Counts nodeId seqnum f) := inferInstanceAs (Decidable (_ ∨ _))
instance : Decidable (Decides nodeId seqnum f) := inferInstanceAs (Decidable (_ ∨ _))
instance : Decidable (NullError f) := inferInstanceAs (Decidable (_ ∧ _))

variable {nodeId seqnum f}

theorem Refuses.not_turnedOn (refuses : Refuses nodeId seqnum f) : ¬TurnedOn nodeId f := by
  rintro ⟨-, type⟩
  rw [refuses.2.1] at type
  exact absurd type (by decide)

theorem Refuses.counts (refuses : Refuses nodeId seqnum f) : Counts nodeId seqnum f := .inl refuses

theorem TurnedOn.decides (turnedOn : TurnedOn nodeId f) : Decides nodeId seqnum f := .inr turnedOn

theorem Counts.decides (counts : Counts nodeId seqnum f) : Decides nodeId seqnum f :=
  counts.imp_right And.left

end Frames

/-- The first of the arrivals with this property. -/
def first (P : H9Frame → Prop) [DecidablePred P] (frames : List (ReceivedFrame Tag)) :
    Option (ReceivedFrame Tag) :=
  frames.find? fun f => decide (P f.frame)

section First

variable {P : H9Frame → Prop} [DecidablePred P] {frames : List (ReceivedFrame Tag)} {f : ReceivedFrame Tag}

theorem first_append (earlier later : List (ReceivedFrame Tag)) :
    first P (earlier ++ later) = (first P earlier).or (first P later) :=
  List.find?_append

theorem first_eq_none : first P frames = none ↔ ∀ f ∈ frames, ¬P f.frame := by
  simp [first]

theorem first_eq_some : first P frames = some f ↔
    P f.frame ∧ ∃ before after, frames = before ++ f :: after ∧ ∀ g ∈ before, ¬P g.frame := by
  rw [first, List.find?_eq_some_iff_append]
  simp

theorem first_holds (found : first P frames = some f) : P f.frame := (first_eq_some.mp found).1

theorem first_mem (found : first P frames = some f) : f ∈ frames := List.mem_of_find?_eq_some found

end First

section Comparator

open H9FrameComparator

variable (garbage : BitVec 16) (nodeId seqnum : Byte) (f : H9Frame)

private theorem resetComparator_compares (flag : BitVec 16) :
    (resetComparator garbage nodeId).compares flag =
      ((SOURCE_ID ||| TYPE_SET1 ||| TYPE_SET2 ||| SEQNUM_OVERRIDE) &&& flag != 0) := by
  rw [compares, resetComparator_fields]

private theorem resetComparator_eq :
    (resetComparator garbage nodeId).eq f = true ↔ f.type = FrameType.COMMAND_ERROR := by
  have off := resetComparator_compares garbage nodeId
  rw [eq_iff]
  simp only [off]
  constructor
  · rintro ⟨-, -, type, -, -, -⟩
    exact (type (by decide)).symm
  · intro type
    exact ⟨(absurd · (by decide)), (absurd · (by decide)), fun _ => type.symm, (absurd · (by decide)),
      (absurd · (by decide)), (absurd · (by decide))⟩

private theorem resetComparator_eqAlternateSet :
    (resetComparator garbage nodeId).eqAlternateSet f = true ↔
      f.type = FrameType.NODE_TURNED_ON ∧ f.seqnum = 0 := by
  have off := resetComparator_compares garbage nodeId
  rw [eqAlternateSet_iff]
  simp only [off]
  constructor
  · rintro ⟨override, -, type, -, -, -, -⟩
    exact ⟨(type (by decide)).symm, (override (by decide)).symm⟩
  · rintro ⟨type, zero⟩
    exact ⟨fun _ => zero.symm, fun never => absurd never (by decide), fun _ => type.symm,
      (absurd · (by decide)), (absurd · (by decide)), (absurd · (by decide)), by decide⟩

/-- What fulfils the promise of a reset that knows the number of its frame. -/
theorem resetComparator_setSeqnum_eqFrame :
    ((resetComparator garbage nodeId).setSeqnum seqnum).eqFrame f = true ↔ Counts nodeId seqnum f := by
  have unnumbered : (resetComparator garbage nodeId).compares SEQNUM = false := by
    rw [resetComparator_compares]
    decide
  have source : (resetComparator garbage nodeId).compares SOURCE_ID = true := by
    rw [resetComparator_compares]
    decide
  have override : (resetComparator garbage nodeId).compares SEQNUM_OVERRIDE = true := by
    rw [resetComparator_compares]
    decide
  have self : (resetComparator garbage nodeId).sourceId = nodeId := rfl
  rw [eqFrame_setSeqnum_iff _ _ unnumbered, source, override, resetComparator_eq,
    resetComparator_eqAlternateSet, self, Counts, Refuses, TurnedOn]
  grind

end Comparator

/-! ## Runs -/

/-- The frame that has fulfilled the promise at `p`. -/
def completedBy (t : State Tag) (p : Pointer) : Option H9Frame :=
  ((t.heap p).bind fun fp => fp.promise.value).map ReceivedFrame.frame

/-- A reset waits: the frames `early` came after its promise was created and before its frame was put on
the bus, `late` since then, and the promise knows the number of the frame. -/
def Waiting (nodeId : Byte) (p : Pointer) (seqnum : Byte) (early late : List (ReceivedFrame Tag))
    (t : State Tag) : Prop :=
  ∃ s garbage before after, (machine Tag nodeId).Reachable s ∧
    (machine Tag nodeId).run? s (.createFramePromise p garbage .reset :: (before ++ after)) = some t ∧
    .destroyFramePromise p ∉ before ++ after ∧
    arrivals before = early ∧ arrivals after = late ∧ seqnumsOf p before = [] ∧ seqnumsOf p after = [seqnum]

/-- A reset that ends with this reply returns no error. -/
def ReportsSuccess (nodeId : Byte) (reply : Option H9Frame) : Prop :=
  ∀ (env : Env) (port : Port), env.reply = reply →
    ∃ ret, (reset env nodeId : Call Port DevNodeException ℤ).outcome port = .value ret ∧ 0 ≤ ret

/-- The node turned on after its reset was sent, and did not refuse it before. -/
def TurnedOnInTime (nodeId seqnum : Byte) (early late : List (ReceivedFrame Tag)) : Prop :=
  ∃ before f after, late = before ++ f :: after ∧ TurnedOn nodeId f.frame ∧
    ∀ g ∈ early ++ before, ¬Refuses nodeId seqnum g.frame

section Runs

variable {nodeId seqnum : Byte} {p : Pointer} {early late : List (ReceivedFrame Tag)} {t : State Tag}

theorem Waiting.completed (waiting : Waiting nodeId p seqnum early late t) :
    completedBy t p = (first (Counts nodeId seqnum) (early ++ late)).map ReceivedFrame.frame := by
  obtain ⟨s, garbage, before, after, reachable, run, live, rfl, rfl, untold, told⟩ := waiting
  obtain ⟨-, ⟨fp, found, -, value, -⟩, -⟩ := framePromise_lifetime reachable run live
  have arrived : arrivals (before ++ after) = arrivals before ++ arrivals after := List.filterMap_append
  have numbers : seqnumsOf p (before ++ after) = [seqnum] := by
    rw [seqnumsOf, List.filterMap_append, ← seqnumsOf, ← seqnumsOf, untold, told]
    rfl
  rw [completedBy, found, Option.bind_some, value, arrived, numbers, expectedValue, first]
  congr 2
  funext f
  rw [Bool.eq_iff_iff, decide_eq_true_iff]
  exact resetComparator_setSeqnum_eqFrame garbage nodeId seqnum f.frame

theorem reportsSuccess_iff (nodeId : Byte) (reply : Option H9Frame) :
    ReportsSuccess nodeId reply ↔ 0 ≤ NodeOperation.resetResult (NodeOperation.resetAnswer reply) := by
  constructor
  · intro reports
    obtain ⟨ret, returned, nonneg⟩ := reports { (default : Env) with reply } [] rfl
    rw [(NodeOperation.reset_sends _ nodeId).outcome] at returned
    cases returned
    exact nonneg
  · rintro nonneg env port rfl
    exact ⟨_, (NodeOperation.reset_sends env nodeId).outcome port, nonneg⟩

/-- Of the frames that a promise takes, a success is one that says so, or an error that is none. -/
theorem reportsSuccess_first (frames : List (ReceivedFrame Tag)) :
    ReportsSuccess nodeId ((first (Counts nodeId seqnum) frames).map ReceivedFrame.frame) ↔
      ∃ f, first (Counts nodeId seqnum) frames = some f ∧ (TurnedOn nodeId f.frame ∨ NullError f.frame) := by
  rw [reportsSuccess_iff]
  cases found : first (Counts nodeId seqnum) frames with
  | none => exact iff_of_false (show ¬0 ≤ TIMEOUT_ERROR by decide) (by rintro ⟨_, ⟨⟩, _⟩)
  | some f =>
    simp only [Option.map_some, Option.some.injEq, exists_eq_left', NodeOperation.resetAnswer]
    rcases first_holds found with refuses | ⟨turnedOn, -⟩
    · have other : f.frame.type ≠ FrameType.NODE_TURNED_ON := by
        rw [refuses.2.1]
        decide
      rw [if_neg other, or_iff_right refuses.not_turnedOn]
      by_cases length : f.frame.dlc = 1
      · rw [if_pos ⟨refuses.2.1, length⟩, NodeOperation.resetResult, NullError, and_iff_right length,
          ← BitVec.toNat_inj]
        change 0 ≤ -(_ : ℤ) ↔ _ = 0
        omega
      · rw [if_neg fun refusal => length refusal.2]
        exact iff_of_false (by decide) fun null => length null.1
    · rw [if_pos turnedOn.2]
      exact iff_of_true (Int.natCast_nonneg _) (.inl turnedOn)

/-- Of the frames that end a reset the first after the put must be the broadcast. -/
theorem turnedOnInTime_iff :
    TurnedOnInTime nodeId seqnum early late ↔
      (∀ f ∈ early, ¬Refuses nodeId seqnum f.frame) ∧
        ∃ f, first (Decides nodeId seqnum) late = some f ∧ TurnedOn nodeId f.frame := by
  constructor
  · rintro ⟨before, f, after, rfl, turnedOn, unrefused⟩
    refine ⟨fun g member => unrefused g (List.mem_append_left _ member), ?_⟩
    cases earlier : first (Decides nodeId seqnum) before with
    | none =>
      refine ⟨f, first_eq_some.mpr ⟨turnedOn.decides, before, after, rfl, ?_⟩, turnedOn⟩
      exact first_eq_none.mp earlier
    | some g =>
      have unrefusing := unrefused g (List.mem_append_right early (first_mem earlier))
      refine ⟨g, ?_, (first_holds earlier).resolve_left unrefusing⟩
      rw [first_append, earlier]
      rfl
  · rintro ⟨unrefused, f, found, turnedOn⟩
    obtain ⟨-, before, after, rfl, undecided⟩ := first_eq_some.mp found
    refine ⟨before, f, after, rfl, turnedOn, fun g member refuses => ?_⟩
    rcases List.mem_append.mp member with stored | arrived
    · exact unrefused g stored refuses
    · exact undecided g arrived refuses.counts.decides

/-- The first frame before the put that the promise takes, if there is one, is an error with a code; else
the first frame after it that ends a reset is one, or a broadcast decoded over the number 0. -/
structure Decided (nodeId seqnum : Byte) (early late : List (ReceivedFrame Tag)) : Prop where
  stored : ∀ f, first (Counts nodeId seqnum) early = some f →
    Refuses nodeId seqnum f.frame ∧ ¬NullError f.frame
  arrived : first (Counts nodeId seqnum) early = none →
    ∀ f, first (Decides nodeId seqnum) late = some f →
      Counts nodeId seqnum f.frame ∧ (Refuses nodeId seqnum f.frame → ¬NullError f.frame)

/-- At this moment a reset reports what it should. -/
def Right (nodeId seqnum : Byte) (early late : List (ReceivedFrame Tag)) : Prop :=
  ReportsSuccess nodeId ((first (Counts nodeId seqnum) (early ++ late)).map ReceivedFrame.frame) ↔
    TurnedOnInTime nodeId seqnum early late

/-- Nothing that the promise takes is in front of the frame that ends the reset. -/
theorem first_counts_of_decides {f : ReceivedFrame Tag} (found : first (Decides nodeId seqnum) late = some f)
    (counts : Counts nodeId seqnum f.frame) : first (Counts nodeId seqnum) late = some f := by
  obtain ⟨-, before, after, rfl, undecided⟩ := first_eq_some.mp found
  exact first_eq_some.mpr ⟨counts, before, after, rfl, fun g member taken => undecided g member taken.decides⟩

theorem unrefused_of_none (stored : first (Counts nodeId seqnum) early = none) :
    ∀ f ∈ early, ¬Refuses nodeId seqnum f.frame :=
  fun f member refuses => first_eq_none.mp stored f member refuses.counts

theorem Decided.right (decided : Decided nodeId seqnum early late) : Right nodeId seqnum early late := by
  rw [Right, reportsSuccess_first, turnedOnInTime_iff, first_append]
  cases stored : first (Counts nodeId seqnum) early with
  | some f =>
    obtain ⟨refuses, code⟩ := decided.stored f stored
    apply iff_of_false
    · rintro ⟨_, ⟨⟩, success⟩
      exact success.elim refuses.not_turnedOn code
    · rintro ⟨unrefused, -⟩
      exact unrefused f (first_mem stored) refuses
  | none =>
    rw [Option.none_or, and_iff_right (unrefused_of_none stored)]
    cases found : first (Decides nodeId seqnum) late with
    | none =>
      apply iff_of_false
      · rintro ⟨f, taken, -⟩
        exact first_eq_none.mp found f (first_mem taken) (first_holds taken).decides
      · rintro ⟨_, ⟨⟩, -⟩
    | some f =>
      obtain ⟨counts, code⟩ := decided.arrived stored f found
      rw [first_counts_of_decides found counts]
      simp only [Option.some.injEq, exists_eq_left']
      constructor
      · intro success
        rcases counts with refuses | ⟨turnedOn, -⟩
        · exact success.resolve_right (code refuses)
        · exact turnedOn
      · exact .inl

/-- The condition speaks of the first frames alone, so it holds at every earlier moment too. -/
theorem Decided.of_prefix {later : List (ReceivedFrame Tag)} (decided : Decided nodeId seqnum early later)
    (begins : late <+: later) : Decided nodeId seqnum early late where
  stored := decided.stored
  arrived stored f found := by
    obtain ⟨rest, rfl⟩ := begins
    refine decided.arrived stored f ?_
    rw [first_append, found]
    rfl

/-- Where a reset is right at every moment, no other frame comes first. -/
theorem decided_of_right (right : ∀ now, now <+: late → Right nodeId seqnum early now) :
    Decided nodeId seqnum early late where
  stored f stored := by
    have start := right [] List.nil_prefix
    rw [Right, reportsSuccess_first, turnedOnInTime_iff, List.append_nil, stored] at start
    have silent : ¬(TurnedOn nodeId f.frame ∨ NullError f.frame) := by
      intro success
      obtain ⟨-, _, found, -⟩ := start.mp ⟨f, rfl, success⟩
      cases found
    rcases first_holds stored with refuses | ⟨turnedOn, -⟩
    · exact ⟨refuses, fun null => silent (.inr null)⟩
    · exact absurd (.inl turnedOn) silent
  arrived stored f found := by
    obtain ⟨decides, before, after, rfl, undecided⟩ := first_eq_some.mp found
    have ended := right (before ++ [f]) ⟨after, by rw [List.append_assoc]; rfl⟩
    have last : first (Decides nodeId seqnum) (before ++ [f]) = some f :=
      first_eq_some.mpr ⟨decides, before, [], rfl, undecided⟩
    rw [Right, reportsSuccess_first, turnedOnInTime_iff, first_append, stored, Option.none_or,
      and_iff_right (unrefused_of_none stored), last] at ended
    simp only [Option.some.injEq, exists_eq_left'] at ended
    rcases decides with refuses | turnedOn
    · refine ⟨refuses.counts, fun _ null => refuses.not_turnedOn (ended.mp ⟨f, ?_, .inr null⟩)⟩
      exact first_counts_of_decides last refuses.counts
    · obtain ⟨g, taken, -⟩ := ended.mpr turnedOn
      have counts := first_holds taken
      rcases List.mem_append.mp (first_mem taken) with earlier | same
      · exact absurd counts.decides (undecided g earlier)
      · rw [List.mem_singleton.mp same] at counts
        exact ⟨counts, fun refuses => absurd turnedOn refuses.not_turnedOn⟩

/-! ## All runs -/

/-- Any frames may arrive, one after the other. -/
theorem run?_arrivals (nodeId : Byte) {s : State Tag} (wf : s.WellFormed) (frames : List (ReceivedFrame Tag)) :
    ∃ t, (machine Tag nodeId).run? s (frames.map .onFrameRecv) = some t ∧ t.WellFormed := by
  induction frames generalizing s with
  | nil => exact ⟨s, rfl, wf⟩
  | cons f frames ih =>
    obtain ⟨next, received, wfNext, -⟩ := onFrameRecv_spec wf f
    obtain ⟨t, run, wfEnd⟩ := ih wfNext
    have step : (machine Tag nodeId).step? s (.onFrameRecv f) = some next := by
      change (if s.fault = none then some (s.afterCall (s.onFrameRecv f)) else none) = some next
      rw [if_pos wf.noFault, received]
      rfl
    exact ⟨t, run?_cons_eq_some.mpr ⟨next, step, run⟩, wfEnd⟩

theorem arrivals_map (frames : List (ReceivedFrame Tag)) :
    arrivals (frames.map Event.onFrameRecv) = frames := by
  rw [arrivals, List.filterMap_map]
  exact List.filterMap_some

theorem seqnumsOf_map (p : Pointer) (frames : List (ReceivedFrame Tag)) :
    seqnumsOf p (frames.map Event.onFrameRecv) = [] := by
  rw [seqnumsOf, List.filterMap_map]
  exact List.filterMap_eq_nil_iff.mpr fun _ _ => rfl

theorem destroy_notMem_map (p : Pointer) (frames : List (ReceivedFrame Tag)) :
    .destroyFramePromise p ∉ frames.map Event.onFrameRecv := by
  simp

/-- Every window of arrivals is that of some run. -/
theorem exists_waiting (nodeId : Byte) (p : Pointer) (seqnum : Byte) (early late : List (ReceivedFrame Tag)) :
    ∃ t, Waiting nodeId p seqnum early late t := by
  have start : (machine Tag nodeId).step? State.empty (.createFramePromise p 0 .reset) =
      some (State.empty.createFramePromise p (Request.reset.comparator 0 nodeId)) := rfl
  have wf := step?_wellFormed State.wellFormed_empty start
  obtain ⟨sent, before, wfSent⟩ := run?_arrivals nodeId wf early
  obtain ⟨fp, found, tracks⟩ := created_tracks State.wellFormed_empty (run?_cons_eq_some.mpr ⟨_, start, before⟩)
    (destroy_notMem_map p early)
  have untold : fp.comparatorHasSeqnum = false := by
    rw [seqnumsOf_map] at tracks
    cases tracks
    rfl
  obtain ⟨told, answered, wfTold, -⟩ := setComparatorSeqnum_spec wfSent found untold seqnum
  have telling : (machine Tag nodeId).step? sent (.setComparatorSeqnum p seqnum) = some told := by
    change (if sent.fault = none ∧ (sent.heap p).any (fun fp => !fp.comparatorHasSeqnum) then _ else _) = _
    rw [if_pos ⟨wfSent.noFault, by rw [found, Option.any_some, untold]; rfl⟩, answered]
    rfl
  obtain ⟨t, after, -⟩ := run?_arrivals nodeId wfTold late
  refine ⟨t, State.empty, 0, early.map .onFrameRecv,
    .setComparatorSeqnum p seqnum :: late.map .onFrameRecv, Reachable.of_initial rfl, ?_, ?_,
    arrivals_map early, arrivals_map late, seqnumsOf_map p early, ?_⟩
  · refine run?_cons_eq_some.mpr ⟨_, start, ?_⟩
    exact run?_append_eq_some.mpr ⟨sent, before, run?_cons_eq_some.mpr ⟨told, telling, after⟩⟩
  · simp
  · rw [seqnumsOf, List.filterMap_cons_some (show Event.seqnum? p (.setComparatorSeqnum p seqnum) = some seqnum
      from if_pos rfl), ← seqnumsOf, seqnumsOf_map]

/-- Whenever a reset ends, it reports a success exactly if the node turned on in time, in all runs with
these arrivals, exactly if their first frames are as the condition says. -/
theorem reset_right_iff (nodeId seqnum : Byte) (early late : List (ReceivedFrame Tag)) :
    (∀ p now (t : State Tag), now <+: late → Waiting nodeId p seqnum early now t →
      (ReportsSuccess nodeId (completedBy t p) ↔ TurnedOnInTime nodeId seqnum early now)) ↔
        Decided nodeId seqnum early late := by
  constructor
  · intro right
    refine decided_of_right fun now begins => ?_
    obtain ⟨t, waiting⟩ := exists_waiting nodeId 0 seqnum early now
    have ends := right 0 now t begins waiting
    rw [waiting.completed] at ends
    exact ends
  · intro decided p now t begins waiting
    rw [waiting.completed]
    exact (decided.of_prefix begins).right

end Runs

/-- A broadcast leaves the number in the frame object as it was. -/
theorem seqnum_deserialize {nodeId : Byte} {f : H9Frame} {origin : String} {canId : BitVec 32} {dlc : Byte}
    {data : Fin 8 → Byte} (turnedOn : TurnedOn nodeId (f.deserialize origin canId dlc data)) :
    (f.deserialize origin canId dlc data).seqnum = f.seqnum := by
  have type := turnedOn.2
  revert type
  rw [deserialize, setCanId]
  dsimp only
  split
  · next unicast =>
    intro type
    rw [isUnicast] at unicast
    rw [type] at unicast
    exact absurd unicast (by decide)
  · exact fun _ => rfl

/-- So the promise of a reset takes a broadcast exactly if that number happened to be 0. -/
theorem counts_deserialize_iff {nodeId seqnum : Byte} {f : H9Frame} {origin : String} {canId : BitVec 32}
    {dlc : Byte} {data : Fin 8 → Byte} (turnedOn : TurnedOn nodeId (f.deserialize origin canId dlc data)) :
    Counts nodeId seqnum (f.deserialize origin canId dlc data) ↔ f.seqnum = 0 := by
  rw [← seqnum_deserialize turnedOn]
  constructor
  · rintro (refuses | ⟨-, zero⟩)
    · exact absurd turnedOn refuses.not_turnedOn
    · exact zero
  · exact fun zero => .inr ⟨turnedOn, zero⟩

/-- The broadcast of node 7, decoded over an object that held the number 5. -/
def staleBroadcast : H9Frame :=
  { (default : H9Frame) with seqnum := 5 }.deserialize "can" 0x16070000 0 default

/-- A reset does not take it, although the node turned on in time. -/
theorem reset_misses_staleBroadcast :
    staleBroadcast.type = FrameType.NODE_TURNED_ON ∧
      ∃ t : State Unit, Waiting 7 0 3 [] [⟨staleBroadcast, ()⟩] t ∧
        TurnedOnInTime 7 3 [] [⟨staleBroadcast, ()⟩] ∧ ¬ReportsSuccess 7 (completedBy t 0) := by
  obtain ⟨t, waiting⟩ := exists_waiting 7 0 3 [] [(⟨staleBroadcast, ()⟩ : ReceivedFrame Unit)]
  refine ⟨by decide, t, waiting, ⟨[], _, [], rfl, by decide, nofun⟩, ?_⟩
  rw [waiting.completed, reportsSuccess_iff]
  decide

end H9d.RawNode
