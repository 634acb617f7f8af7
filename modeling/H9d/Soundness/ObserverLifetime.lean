import H9d.Core.Heap
import H9d.Soundness.ClientReaping

/-! # How long observers live

An observer is attached when it is made, detached by the thread of its client behind the loop, and
deleted by the next subscription or with the client. Where nobody subscribes twice and no client is
deleted before it has detached its observers, exactly the observers of the live clients are attached.
-/

namespace H9d.ClientLifetime

open Machine LabeledMachine TCPSocket

variable {assertions : Bool} {s t : State} {e : Event} {c : ClientId}

/-- The observer that is about to be assigned. -/
def Phase.sets : Phase → Option (Subscription × ObserverId)
  | .subscribing event observer _ | .assigning event observer _ => some (event, observer)
  | _ => none

/-- The event that the request under way subscribes to. -/
def Phase.requests : Phase → Option Subscription
  | .handling (.subscribe event :: _) => some event
  | _ => none

/-- The thread is behind the call of `detach`. -/
def Phase.detached : Phase → Subscription → Bool
  | .detaching .devStatus, .frame | .cleanup, _ | .finished, _ => true
  | _, _ => false

/-- The observer member of a client, or the one that a subscription puts in its place. -/
def Client.pointer (client : Client) (event : Subscription) : Option ObserverId :=
  match client.phase.sets with
  | some (other, observer) => if other = event then some observer else client.observer event
  | none => client.observer event

/-- The observer of a live client. -/
def Client.current (client : Client) (event : Subscription) : Option ObserverId :=
  if client.phase.detached event then none else client.pointer event

theorem Client.pointer_of_current {client : Client} {event : Subscription} {observer : ObserverId}
    (current : client.current event = some observer) : client.pointer event = some observer := by
  rw [Client.current] at current
  split at current
  · cases current
  · exact current

/-- The destructor has passed the deletion of the observer. -/
def Destructor.past : Destructor → Subscription → Bool
  | .deleteObserver .frame, _ | .deleteObserver .devStatus, .devStatus => false
  | .deleteObserver .devStatus, .frame | .closeConnection, _ | .join, _ => true

def Disposed (s : State) (c : ClientId) (event : Subscription) : Prop :=
  c ∈ s.deleted ∨ ∃ next rest, s.server = .deleting c next rest ∧ next.past event = true

/-- Where every observer is that was ever made. -/
structure Observed (s : State) : Prop where
  listed : Listed s
  unborn : ∀ c, (s.clients c).phase = .absent → ∀ event, (s.clients c).observer event = none
  first : ∀ c event observer, (s.clients c).phase.sets = some (event, observer) →
    (s.clients c).observer event = none
  injective : ∀ c d event event' observer, (s.clients c).pointer event = some observer →
    (s.clients d).pointer event' = some observer → c = d ∧ event = event'
  live : ∀ c event observer, (s.clients c).current event = some observer →
    s.observers observer = some ⟨true, false⟩ ∧ observer ∈ s.attached event
  gone : ∀ c event observer, (s.clients c).phase.detached event = true →
    (s.clients c).pointer event = some observer → ∃ destroyed,
      s.observers observer = some ⟨false, destroyed⟩ ∧ (destroyed = true → Disposed s c event)
  attached : ∀ event, ∀ observer ∈ s.attached event, ∃ c, (s.clients c).current event = some observer
  nodup : ∀ event, (s.attached event).Nodup
  destroyed : ∀ observer object, s.observers observer = some object → object.destroyed = true →
    object.hasSubject = false
  notifying : ∀ event, ∀ observers ∈ s.notifying event, observers ⊆ s.attached event
  deleting : ∀ c next rest, s.server = .deleting c next rest → ∀ event, (s.clients c).phase.detached event = true
  noFault : s.fault ≠ some .assertion ∧ s.fault ≠ some .useAfterFree

/-- No client subscribes to an event that it has subscribed to, and a reaping pass takes for finished only
clients that have detached their observers. -/
def Orderly (s : State) : Event → Prop
  | .subscribe c _ => ∀ event ∈ (s.clients c).phase.requests, (s.clients c).observer event = none
  | .examine => ∀ c ∈ s.server.examines, (s.clients c).threadRunning = true ∨
      (s.clients c).phase.detached .frame = true ∧ (s.clients c).phase.detached .devStatus = true
  | _ => True

theorem observed_initial : Observed initial where
  listed := listed_initial
  unborn _ _ _ := rfl
  first := nofun
  injective := nofun
  live := nofun
  gone := nofun
  attached := nofun
  nodup _ := List.nodup_nil
  destroyed := nofun
  notifying := nofun
  deleting := nofun
  noFault := ⟨nofun, nofun⟩

/-- Every observer that a client points to is an object. -/
theorem Observed.known (o : Observed s) {event : Subscription} {observer : ObserverId}
    (points : (s.clients c).pointer event = some observer) : s.observers observer ≠ none := by
  cases detached : (s.clients c).phase.detached event with
  | true =>
    obtain ⟨_, found, -⟩ := o.gone c event observer detached points
    rw [found]
    exact nofun
  | false =>
    have current : (s.clients c).current event = some observer := by
      rw [Client.current, detached]
      exact points
    rw [(o.live c event observer current).1]
    exact nofun

/-- A move of a client that concerns none of its observers. -/
structure SameObservers (client next : Client) : Prop where
  present : next.phase = .absent → client.phase = .absent ∧ next.observer = client.observer
  sets : ∀ event observer, next.phase.sets = some (event, observer) →
    client.phase.sets = some (event, observer) ∧ next.observer = client.observer
  pointer : ∀ event, next.pointer event = client.pointer event
  current : ∀ event, next.current event = client.current event
  detached : ∀ event, client.phase.detached event = true → next.phase.detached event = true
  back : ∀ event observer, next.phase.detached event = true → next.pointer event = some observer →
    client.phase.detached event = true

theorem SameObservers.refl (client : Client) : SameObservers client client :=
  ⟨fun absent => ⟨absent, rfl⟩, fun _ _ sets => ⟨sets, rfl⟩, fun _ => rfl, fun _ => rfl, fun _ => id,
    fun _ _ detached _ => detached⟩

theorem SameObservers.setClient {next : Client} (same : SameObservers (s.clients c) next) (d : ClientId) :
    SameObservers (s.clients d) ((s.setClient c next).clients d) := by
  by_cases eq : d = c
  · subst eq
    rw [setClient_self]
    exact same
  · rw [setClient_of_ne s eq]
    exact .refl _

theorem Observed.keep (o : Observed s) (listed : Listed t)
    (clients : ∀ c, SameObservers (s.clients c) (t.clients c)) (observers : t.observers = s.observers)
    (attached : t.attached = s.attached) (notifying : t.notifying = s.notifying)
    (disposed : ∀ c event, Disposed s c event → Disposed t c event)
    (deleting : ∀ c next rest, t.server = .deleting c next rest →
      ∀ event, (s.clients c).phase.detached event = true)
    (noFault : t.fault ≠ some .assertion ∧ t.fault ≠ some .useAfterFree) : Observed t where
  listed := listed
  unborn c absent event := by
    obtain ⟨before, same⟩ := (clients c).present absent
    rw [same]
    exact o.unborn c before event
  first c event observer sets := by
    obtain ⟨before, same⟩ := (clients c).sets event observer sets
    rw [same]
    exact o.first c event observer before
  injective c d event event' observer one other := by
    rw [(clients c).pointer] at one
    rw [(clients d).pointer] at other
    exact o.injective c d event event' observer one other
  live c event observer current := by
    rw [observers, attached]
    exact o.live c event observer ((clients c).current event ▸ current)
  gone c event observer detached points := by
    have before := (clients c).back event observer detached points
    rw [(clients c).pointer] at points
    obtain ⟨destroyed, found, gone⟩ := o.gone c event observer before points
    exact ⟨destroyed, by rw [observers, found], fun dead => disposed c event (gone dead)⟩
  attached event observer member := by
    rw [attached] at member
    obtain ⟨c, current⟩ := o.attached event observer member
    exact ⟨c, ((clients c).current event).trans current⟩
  nodup event := by
    rw [attached]
    exact o.nodup event
  destroyed := by
    rw [observers]
    exact o.destroyed
  notifying := by
    rw [notifying, attached]
    exact o.notifying
  deleting c next rest other event := (clients c).detached event (deleting c next rest other event)
  noFault := noFault

theorem SameObservers.of_sets {client next : Client} (observer : next.observer = client.observer)
    (present : next.phase = .absent → client.phase = .absent) (sets : next.phase.sets = client.phase.sets)
    (detached : next.phase.detached = client.phase.detached) : SameObservers client next := by
  have pointer (event : Subscription) : next.pointer event = client.pointer event := by
    rw [Client.pointer, Client.pointer, sets, observer]
  refine ⟨fun absent => ⟨present absent, observer⟩, fun _ _ same => ⟨sets ▸ same, observer⟩, pointer,
    fun event => ?_, fun event => detached ▸ id, fun event _ done _ => detached ▸ done⟩
  rw [Client.current, Client.current, detached, pointer]

theorem SameObservers.of_serves {client next : Client} (serves : Serves client next) :
    SameObservers client next := by
  have plain {phase : Phase} (serving : phase.serving = true) :
      phase.sets = none ∧ phase.detached = fun _ => false := by
    cases phase <;> first | exact ⟨rfl, rfl⟩ | cases serving
  obtain ⟨sets, detached⟩ := plain serves.before
  obtain ⟨sets', detached'⟩ := plain serves.after
  refine .of_sets serves.observer (fun absent => ?_) (sets'.trans sets.symm) (detached'.trans detached.symm)
  have after := serves.after
  rw [absent] at after
  cases after

/-- The member gets the observer that the subscription has made. -/
theorem SameObservers.assign {client : Client} {event : Subscription} {observer : ObserverId}
    {rest : List Action} (assigning : client.phase = .assigning event observer rest) :
    SameObservers client { client with
      observer := Function.update client.observer event (some observer), phase := .handling rest } := by
  have pointer (other : Subscription) : Client.pointer { client with
      observer := Function.update client.observer event (some observer), phase := .handling rest } other =
      client.pointer other := by
    simp only [Client.pointer, assigning, Phase.sets]
    by_cases same : event = other
    · subst same
      rw [if_pos rfl, Function.update_self]
    · rw [if_neg same, Function.update_of_ne (Ne.symm same)]
  refine ⟨nofun, nofun, pointer, fun other => ?_, fun other detached => ?_, nofun⟩
  · simp only [Client.current, pointer, assigning, Phase.detached]
  · rw [assigning] at detached
    cases detached

section AfterDetach

variable {client : Client} {event : Subscription} (detaching : client.phase = .detaching event)

include detaching

theorem afterDetach_detached (other : Subscription) :
    event.afterDetach.detached other = (client.phase.detached other || other == event) := by
  rw [detaching]
  cases event <;> cases other <;> rfl

theorem afterDetach_pointer (other : Subscription) :
    Client.pointer { client with phase := event.afterDetach } other = client.pointer other := by
  simp only [Client.pointer, detaching]
  cases event <;> rfl

theorem afterDetach_current (other : Subscription) :
    Client.current { client with phase := event.afterDetach } other =
      if other = event then none else client.current other := by
  simp only [Client.current, afterDetach_pointer detaching, afterDetach_detached detaching]
  by_cases same : other = event
  · rw [if_pos same, if_pos (by rw [same, beq_self_eq_true, Bool.or_true])]
  · rw [if_neg same, beq_eq_false_iff_ne.mpr same, Bool.or_false]

/-- There is nothing to detach. -/
theorem SameObservers.detachNone (none : client.observer event = none) :
    SameObservers client { client with phase := event.afterDetach } := by
  have points : client.pointer event = Option.none := by
    rw [Client.pointer, detaching]
    exact none
  refine ⟨by cases event <;> exact nofun, fun _ _ sets => ?_, afterDetach_pointer detaching, fun other => ?_,
    fun other detached => ?_, fun other observer detached same => ?_⟩
  · cases event <;> cases sets
  · rw [afterDetach_current detaching]
    split
    · next same =>
      rw [same, Client.current, points, ite_self]
    · rfl
  · exact (afterDetach_detached detaching other).trans (by rw [detached, Bool.true_or])
  · rw [afterDetach_pointer detaching] at same
    rcases Bool.or_eq_true_iff.mp ((afterDetach_detached detaching other).symm.trans detached) with before | eq
    · exact before
    · rw [beq_iff_eq.mp eq, points] at same
      cases same

end AfterDetach

/-- What an attached observer is. -/
theorem Observed.attached_alive (o : Observed s) {event : Subscription} {observer : ObserverId}
    (member : observer ∈ s.attached event) : s.observers observer = some ⟨true, false⟩ := by
  obtain ⟨c, current⟩ := o.attached event observer member
  exact (o.live c event observer current).1

/-- A notification begins, goes on or ends. -/
theorem Observed.notification (o : Observed s) {event : Subscription} {lists : List (List ObserverId)}
    (subjects : ∀ observers ∈ lists, observers ⊆ s.attached event)
    (listed : Listed { s with notifying := Function.update s.notifying event lists }) :
    Observed { s with notifying := Function.update s.notifying event lists } :=
  { o with
    listed
    notifying := (Function.forall_update_iff s.notifying fun other lists =>
      ∀ observers ∈ lists, observers ⊆ s.attached other).mpr ⟨subjects, fun other _ => o.notifying other⟩ }

/-- An object is written that is detached if it is destroyed. -/
theorem Observed.write (o : Observed s) (observer : ObserverId) {new : Observer}
    (fine : new.destroyed = true → new.hasSubject = false) :
    ∀ x object, Function.update s.observers observer (some new) x = some object → object.destroyed = true →
      object.hasSubject = false := by
  intro x object found dead
  rcases Heap.update_eq_some.mp found with ⟨rfl, ⟨⟩⟩ | ⟨-, found⟩
  · exact fine dead
  · exact o.destroyed x object found dead

section Subscribe

variable {event : Subscription} {observer : ObserverId} {rest : List Action}

theorem subscribe_clients (s : State) (c d : ClientId) (event : Subscription) (observer : ObserverId)
    (rest : List Action) : (subscribe s c event observer rest).clients d =
      if d = c then { s.clients c with phase := .subscribing event observer rest } else s.clients d :=
  Function.update_apply ..

theorem mem_subscribe_attached {x : ObserverId} {other : Subscription} :
    x ∈ (subscribe s c event observer rest).attached other ↔
      x ∈ s.attached other ∨ other = event ∧ x = observer := by
  change x ∈ Function.update s.attached event (s.attached event ++ [observer]) other ↔ _
  rw [Function.update_apply]
  split
  · next same => rw [same, List.mem_append, List.mem_singleton, and_iff_right rfl]
  · next apart => rw [or_iff_left fun both => apart both.1]

theorem subscribe_pointer (handling : (s.clients c).phase = .handling (.subscribe event :: rest))
    (d : ClientId) (other : Subscription) : ((subscribe s c event observer rest).clients d).pointer other =
      if d = c ∧ other = event then some observer else (s.clients d).pointer other := by
  rw [subscribe_clients]
  by_cases same : d = c
  · subst same
    rw [if_pos rfl]
    simp only [Client.pointer, handling, Phase.sets, true_and, eq_comm]
  · rw [if_neg same, if_neg fun both => same both.1]

theorem subscribe_current (handling : (s.clients c).phase = .handling (.subscribe event :: rest))
    (d : ClientId) (other : Subscription) : ((subscribe s c event observer rest).clients d).current other =
      if d = c ∧ other = event then some observer else (s.clients d).current other := by
  rw [Client.current, subscribe_pointer handling, subscribe_clients]
  by_cases same : d = c
  · subst same
    rw [if_pos rfl, Client.current, handling]
    rfl
  · have other : ¬ (d = c ∧ other = event) := fun both => same both.1
    rw [if_neg same, if_neg other, if_neg other, Client.current]

/-- The new observer of a client that had none. -/
theorem Observed.subscribe (o : Observed s)
    (handling : (s.clients c).phase = .handling (.subscribe event :: rest))
    (fresh : s.observers observer = none) (unset : (s.clients c).observer event = none)
    (listed : Listed (subscribe s c event observer rest)) :
    Observed (subscribe s c event observer rest) := by
  have new {d : ClientId} {ev : Subscription} {x : ObserverId} (points : (s.clients d).pointer ev = some x) :
      x ≠ observer := by
    rintro rfl
    exact o.known points fresh
  have none : (s.clients c).current event = none := by
    rw [Client.current, Client.pointer, handling]
    exact unset
  have kept {x : ObserverId} {object : Observer} (found : s.observers x = some object) :
      (ClientLifetime.subscribe s c event observer rest).observers x = some object :=
    Heap.update_of_free fresh found
  refine
    { listed, unborn := ?unborn, first := ?first, injective := ?injective, live := ?live, gone := ?gone,
      attached := ?attached, nodup := ?nodup, destroyed := o.write observer nofun
      notifying := fun ev observers member x inside =>
        mem_subscribe_attached.mpr (.inl (o.notifying ev observers member inside))
      deleting := ?deleting, noFault := o.noFault }
  case unborn =>
    intro d absent
    rw [subscribe_clients] at absent ⊢
    split at absent
    · cases absent
    · next apart =>
      rw [if_neg apart]
      exact o.unborn d absent
  case first =>
    intro d ev x sets
    rw [subscribe_clients] at sets ⊢
    split at sets
    · next same =>
      cases sets
      rw [if_pos same]
      exact unset
    · next apart =>
      rw [if_neg apart]
      exact o.first d ev x sets
  case injective =>
    intro d d' ev ev' x one other
    rw [subscribe_pointer handling] at one other
    split at one <;> split at other
    · next both both' => exact ⟨both.1.trans both'.1.symm, both.2.trans both'.2.symm⟩
    · cases one
      exact absurd rfl (new other)
    · cases other
      exact absurd rfl (new one)
    · exact o.injective d d' ev ev' x one other
  case live =>
    intro d ev x current
    rw [subscribe_current handling] at current
    split at current
    · next both =>
      cases current
      exact ⟨Function.update_self .., mem_subscribe_attached.mpr (.inr ⟨both.2, rfl⟩)⟩
    · obtain ⟨found, member⟩ := o.live d ev x current
      exact ⟨kept found, mem_subscribe_attached.mpr (.inl member)⟩
  case gone =>
    intro d ev x detached points
    rw [subscribe_clients] at detached
    split at detached
    · cases detached
    · next apart =>
      rw [subscribe_pointer handling, if_neg fun both => apart both.1] at points
      obtain ⟨destroyed, found, gone⟩ := o.gone d ev x detached points
      exact ⟨destroyed, kept found, gone⟩
  case attached =>
    intro ev x member
    rcases mem_subscribe_attached.mp member with before | ⟨rfl, rfl⟩
    · obtain ⟨d, current⟩ := o.attached ev x before
      refine ⟨d, ?_⟩
      rw [subscribe_current handling, if_neg]
      · exact current
      · rintro ⟨rfl, rfl⟩
        cases none.symm.trans current
    · exact ⟨c, (subscribe_current handling c ev).trans (if_pos ⟨rfl, rfl⟩)⟩
  case nodup =>
    refine (Function.forall_update_iff s.attached fun _ => List.Nodup).mpr ⟨?_, fun ev _ => o.nodup ev⟩
    refine List.nodup_append.mpr ⟨o.nodup event, List.nodup_singleton _, ?_⟩
    rintro x before y last rfl
    rw [List.mem_singleton.mp last] at before
    cases fresh.symm.trans (o.attached_alive before)
  case deleting =>
    intro d next rest' deleting
    rw [subscribe_clients]
    by_cases same : d = c
    · subst same
      have detached := o.deleting d next rest' deleting .frame
      rw [handling] at detached
      cases detached
    · rw [if_neg same]
      exact o.deleting d next rest' deleting

end Subscribe

section Detach

/-- What `detach` leaves of a state in which the observer is alive. -/
def State.afterDetach (s : State) (c : ClientId) (event : Subscription) (observer : ObserverId) : State :=
  { s.setClient c { s.clients c with phase := event.afterDetach } with
    observers := Function.update s.observers observer (some ⟨false, false⟩)
    attached := Function.update s.attached event ((s.attached event).filter (· ≠ observer)) }

variable {event : Subscription} {observer : ObserverId}

theorem detach_of_alive (alive : s.observers observer = some ⟨true, false⟩) :
    (s.detachObserver event observer).setClient c { s.clients c with phase := event.afterDetach } =
      s.afterDetach c event observer := by
  unfold State.detachObserver
  rw [alive]
  rfl

theorem afterDetach_clients (s : State) (c d : ClientId) (event : Subscription) (observer : ObserverId) :
    (s.afterDetach c event observer).clients d =
      if d = c then { s.clients c with phase := event.afterDetach } else s.clients d :=
  Function.update_apply ..

theorem mem_afterDetach_attached {x : ObserverId} {other : Subscription} :
    x ∈ (s.afterDetach c event observer).attached other ↔
      x ∈ s.attached other ∧ ¬ (other = event ∧ x = observer) := by
  change x ∈ Function.update s.attached event ((s.attached event).filter (· ≠ observer)) other ↔ _
  rw [Function.update_apply]
  split
  · next same =>
    subst same
    simp only [List.mem_filter, decide_eq_true_iff, true_and, ne_eq]
  · next apart => rw [and_iff_left fun both => apart both.1]

theorem pointer_afterDetach (detaching : (s.clients c).phase = .detaching event) (d : ClientId)
    (other : Subscription) :
    ((s.afterDetach c event observer).clients d).pointer other = (s.clients d).pointer other := by
  rw [afterDetach_clients]
  split
  · next same => rw [same, afterDetach_pointer detaching]
  · rfl

theorem current_afterDetach (detaching : (s.clients c).phase = .detaching event) (d : ClientId)
    (other : Subscription) : ((s.afterDetach c event observer).clients d).current other =
      if d = c ∧ other = event then none else (s.clients d).current other := by
  rw [afterDetach_clients]
  by_cases same : d = c
  · simp only [same, if_true, true_and, afterDetach_current detaching]
  · simp only [same, if_false, false_and]

theorem detached_afterDetach (detaching : (s.clients c).phase = .detaching event) (d : ClientId)
    (other : Subscription) : ((s.afterDetach c event observer).clients d).phase.detached other =
      ((s.clients d).phase.detached other || decide (d = c ∧ other = event)) := by
  rw [afterDetach_clients]
  split
  · next same =>
    rw [same]
    refine (afterDetach_detached detaching other).trans (congrArg _ ?_)
    simp only [true_and, beq_eq_decide]
  · next apart => simp only [apart, false_and, decide_false, Bool.or_false]

/-- A client behind the call of `detach`. -/
theorem Observed.detach (o : Observed s) (detaching : (s.clients c).phase = .detaching event)
    (member : (s.clients c).observer event = some observer) (unlocked : s.notifying event = [])
    (listed : Listed ((s.detachObserver event observer).setClient c { s.clients c with phase := event.afterDetach })) :
    Observed ((s.detachObserver event observer).setClient c { s.clients c with phase := event.afterDetach }) := by
  have ahead : (s.clients c).phase.detached event = false := by
    rw [detaching]
    cases event <;> rfl
  have own : (s.clients c).pointer event = some observer := by
    rw [Client.pointer, detaching]
    exact member
  have current : (s.clients c).current event = some observer := by
    rw [Client.current, ahead]
    exact own
  rw [detach_of_alive (o.live c event observer current).1] at listed ⊢
  have kept {d : ClientId} {ev : Subscription} {x : ObserverId} (points : (s.clients d).pointer ev = some x)
      (apart : ¬ (d = c ∧ ev = event)) :
      (s.afterDetach c event observer).observers x = s.observers x := by
    refine Function.update_of_ne ?_ ..
    rintro rfl
    exact apart (o.injective d c ev event x points own)
  refine
    { listed, unborn := ?unborn, first := ?first, injective := ?injective, live := ?live, gone := ?gone
      attached := ?attached, nodup := ?nodup, destroyed := o.write observer fun _ => rfl
      notifying := ?notifying, deleting := ?deleting, noFault := o.noFault }
  case unborn =>
    intro d absent
    rw [afterDetach_clients] at absent ⊢
    split at absent
    · cases event <;> cases absent
    · next apart =>
      rw [if_neg apart]
      exact o.unborn d absent
  case first =>
    intro d ev x sets
    rw [afterDetach_clients] at sets ⊢
    split at sets
    · cases event <;> cases sets
    · next apart =>
      rw [if_neg apart]
      exact o.first d ev x sets
  case injective =>
    intro d d' ev ev' x one two
    rw [pointer_afterDetach detaching] at one two
    exact o.injective d d' ev ev' x one two
  case live =>
    intro d ev x live
    rw [current_afterDetach detaching] at live
    split at live
    · cases live
    · next apart =>
      have points := Client.pointer_of_current live
      obtain ⟨found, inside⟩ := o.live d ev x live
      refine ⟨(kept points apart).trans found, mem_afterDetach_attached.mpr ⟨inside, ?_⟩⟩
      rintro ⟨-, rfl⟩
      exact apart (o.injective d c ev event x points own)
  case gone =>
    intro d ev x detached points
    rw [pointer_afterDetach detaching] at points
    rw [detached_afterDetach detaching] at detached
    by_cases both : d = c ∧ ev = event
    · obtain ⟨rfl, rfl⟩ := both
      cases own.symm.trans points
      exact ⟨false, Function.update_self .., nofun⟩
    · rw [decide_eq_false both, Bool.or_false] at detached
      obtain ⟨destroyed, found, gone⟩ := o.gone d ev x detached points
      exact ⟨destroyed, (kept points both).trans found, gone⟩
  case attached =>
    intro ev x inside
    obtain ⟨before, apart⟩ := mem_afterDetach_attached.mp inside
    obtain ⟨d, live⟩ := o.attached ev x before
    refine ⟨d, (current_afterDetach detaching d ev).trans ((if_neg ?_).trans live)⟩
    rintro ⟨rfl, rfl⟩
    cases current.symm.trans live
    exact apart ⟨rfl, rfl⟩
  case nodup =>
    exact (Function.forall_update_iff s.attached fun _ => List.Nodup).mpr
      ⟨(o.nodup event).filter _, fun ev _ => o.nodup ev⟩
  case notifying =>
    intro ev observers inside x within
    refine mem_afterDetach_attached.mpr ⟨o.notifying ev observers inside within, ?_⟩
    rintro ⟨rfl, -⟩
    change observers ∈ s.notifying ev at inside
    rw [unlocked] at inside
    cases inside
  case deleting =>
    intro d next rest deleting ev
    rw [detached_afterDetach detaching, o.deleting d next rest deleting ev, Bool.true_or]

end Detach

section Delete

variable {event : Subscription} {rest : List ClientId}

theorem Phase.sets_of_detached {phase : Phase} (detached : phase.detached event = true) : phase.sets = none := by
  cases phase <;> first | rfl | cases detached

theorem Disposed.afterDelete (deleting : s.server = .deleting c (.deleteObserver event) rest)
    (deleted : t.deleted = s.deleted) (server : t.server = .deleting c event.afterDelete rest) {d : ClientId}
    {other : Subscription} (disposed : Disposed s d other) : Disposed t d other := by
  rcases disposed with before | ⟨next, rest', same, past⟩
  · exact .inl (deleted ▸ before)
  · cases deleting.symm.trans same
    refine .inr ⟨_, rest, server, ?_⟩
    revert past
    cases event <;> cases other <;> decide

/-- The destructor has not been at this observer before. -/
theorem Observed.not_disposed (o : Observed s) (deleting : s.server = .deleting c (.deleteObserver event) rest) :
    ¬ Disposed s c event := by
  rintro (before | ⟨next, rest', same, past⟩)
  · have due := o.listed.due
    rw [deleting] at due
    exact (o.listed.deleted c before).1 (due.subset List.mem_cons_self)
  · cases deleting.symm.trans same
    cases event <;> cases past

/-- The observer of a client that has detached it is deleted. -/
theorem Observed.deleteObserver (o : Observed s) (deleting : s.server = .deleting c (.deleteObserver event) rest)
    (listed : Listed { s.delete assertions ((s.clients c).observer event) with
      server := .deleting c event.afterDelete rest }) :
    Observed { s.delete assertions ((s.clients c).observer event) with
      server := .deleting c event.afterDelete rest } := by
  have detached := o.deleting c _ rest deleting
  have onward : ∀ d next rest', (ServerPhase.deleting c event.afterDelete rest) = .deleting d next rest' →
      ∀ ev, (s.clients d).phase.detached ev = true := by
    intro d next rest' same
    cases same
    exact detached
  cases member : (s.clients c).observer event with
  | none =>
    rw [member] at listed
    refine o.keep listed (fun _ => .refl _) rfl rfl rfl (fun d ev => ?_) onward o.noFault
    apply Disposed.afterDelete deleting
    · rfl
    · rfl
  | some x =>
    have own : (s.clients c).pointer event = some x := by
      rw [Client.pointer, Phase.sets_of_detached (detached event)]
      exact member
    obtain ⟨dead, found, disposed⟩ := o.gone c event x (detached event) own
    have alive : dead = false := Bool.eq_false_iff.mpr fun yes => o.not_disposed deleting (disposed yes)
    subst alive
    have deleted : s.delete assertions (some x) = s.setObserver x ⟨false, true⟩ := by
      simp only [State.delete, found, Bool.and_false]
      rfl
    rw [member, deleted] at listed
    rw [deleted]
    have kept {y : ObserverId} (apart : y ≠ x) :
        Function.update s.observers x (some ⟨false, true⟩) y = s.observers y :=
      Function.update_of_ne apart ..
    refine { o with listed, live := ?live, gone := ?gone, destroyed := o.write x fun _ => rfl, deleting := onward }
    case live =>
      intro d ev y live
      obtain ⟨livesOn, inside⟩ := o.live d ev y live
      have apart : y ≠ x := by
        rintro rfl
        cases found.symm.trans livesOn
      exact ⟨(kept apart).trans livesOn, inside⟩
    case gone =>
      intro d ev y done points
      by_cases same : y = x
      · subst same
        obtain ⟨rfl, rfl⟩ := o.injective d c ev event y points own
        refine ⟨true, Function.update_self .., fun _ => .inr ⟨_, rest, rfl, ?_⟩⟩
        cases ev <;> rfl
      · obtain ⟨gone, before, past⟩ := o.gone d ev y done points
        refine ⟨gone, (kept same).trans before, fun yes => ?_⟩
        apply Disposed.afterDelete deleting _ _ (past yes)
        · rfl
        · rfl

end Delete

theorem Disposed.of_server (server : t.server = s.server) (deleted : t.deleted = s.deleted) (c : ClientId)
    (event : Subscription) (disposed : Disposed s c event) : Disposed t c event := by
  rw [Disposed, server, deleted]
  exact disposed

/-- While the server deletes nobody, the destructors that have run are the finished ones. -/
theorem Disposed.of_idle (idle : ∀ c next rest, s.server ≠ .deleting c next rest) (deleted : t.deleted = s.deleted)
    (c : ClientId) (event : Subscription) (disposed : Disposed s c event) : Disposed t c event := by
  rcases disposed with before | ⟨next, rest, same, -⟩
  · exact .inl (deleted ▸ before)
  · exact absurd same (idle c next rest)

section Server

variable {rest : List ClientId}

/-- The server goes on without touching a client. -/
theorem Observed.idle (o : Observed s) (idle : ∀ c next rest, s.server ≠ .deleting c next rest)
    {server : ServerPhase} {list : List ClientId} {asyncPending : Bool}
    (l : Listed { s with server, list, asyncPending }) (other : ∀ c next rest, server ≠ .deleting c next rest) :
    Observed { s with server, list, asyncPending } :=
  o.keep l (fun _ => .refl _) rfl rfl rfl (Disposed.of_idle idle rfl)
    (fun c next rest deleting => absurd deleting (other c next rest)) o.noFault

theorem Observed.accept (o : Observed s) (accepting : s.server = .accepting) (absent : (s.clients c).phase = .absent)
    (l : Listed (ClientLifetime.accept s c)) : Observed (ClientLifetime.accept s c) := by
  refine o.keep l (SameObservers.setClient (.of_sets ?_ nofun ?_ ?_)) rfl rfl rfl
    (Disposed.of_idle (by rw [accepting]; exact nofun) rfl) nofun o.noFault
  · exact (funext (o.unborn c absent)).symm
  · rw [absent]
    rfl
  · rw [absent]
    rfl

theorem Observed.condemn (o : Observed s) (reaping : s.server = .reaping (c :: rest))
    (stopped : (s.clients c).threadRunning = false) (orderly : Orderly s .examine)
    (l : Listed { s with server := .deleting c (.deleteObserver .frame) rest }) :
    Observed { s with server := .deleting c (.deleteObserver .frame) rest } := by
  refine o.keep l (fun _ => .refl _) rfl rfl rfl (Disposed.of_idle (by rw [reaping]; exact nofun) rfl)
    (fun d next rest deleting event => ?_) o.noFault
  cases deleting
  have detached := (orderly c (show s.server.examines = some c by rw [reaping]; rfl)).resolve_left
    (by rw [stopped]; exact nofun)
  cases event with
  | frame => exact detached.1
  | devStatus => exact detached.2

theorem Observed.closeConnection (o : Observed s) (deleting : s.server = .deleting c .closeConnection rest)
    (l : Listed { s.setClient c { s.clients c with running := false } with server := .deleting c .join rest }) :
    Observed { s.setClient c { s.clients c with running := false } with server := .deleting c .join rest } := by
  refine o.keep l (SameObservers.setClient (.of_sets rfl id rfl rfl)) rfl rfl rfl (fun d event disposed => ?_)
    (fun d next rest' same => ?_) o.noFault
  · rcases disposed with before | ⟨next, rest', same, -⟩
    · exact .inl before
    · cases deleting.symm.trans same
      exact .inr ⟨_, _, rfl, rfl⟩
  · cases same
    exact o.deleting c _ rest deleting

theorem Observed.join (o : Observed s) (deleting : s.server = .deleting c .join rest)
    (l : Listed { s with list := s.list.erase c, deleted := s.deleted ++ [c], server := .reaping rest }) :
    Observed { s with list := s.list.erase c, deleted := s.deleted ++ [c], server := .reaping rest } := by
  refine o.keep l (fun _ => .refl _) rfl rfl rfl (fun d event disposed => ?_) nofun o.noFault
  rcases disposed with before | ⟨next, rest', same, -⟩
  · exact .inl (List.mem_append_left _ before)
  · cases deleting.symm.trans same
    exact .inl (List.mem_append_right _ (List.mem_singleton_self c))

end Server

section Thread

/-- A client goes on within its thread, with the observers that it has. -/
theorem Observed.move (o : Observed s) {next : Client} (same : SameObservers (s.clients c) next)
    (l : Listed (s.setClient c next)) : Observed (s.setClient c next) :=
  o.keep l same.setClient rfl rfl rfl (Disposed.of_server rfl rfl) o.deleting o.noFault

variable {event : Subscription} {observer : ObserverId} {rest : List Action}

theorem Observed.deleteOld (o : Observed s) (subscribing : (s.clients c).phase = .subscribing event observer rest)
    (l : Listed (ClientLifetime.deleteOld assertions s c event observer rest)) :
    Observed (ClientLifetime.deleteOld assertions s c event observer rest) := by
  have unset : (s.clients c).observer event = none :=
    o.first c event observer (by rw [subscribing]; rfl)
  unfold ClientLifetime.deleteOld at l ⊢
  rw [unset] at l ⊢
  exact o.move (.of_sets rfl nofun (by rw [subscribing]; rfl) (by rw [subscribing]; rfl)) l

theorem Observed.stop (o : Observed s) (left : (s.clients c).phase = .left)
    (l : Listed (s.setClient c { s.clients c with threadRunning := false, phase := .detaching .frame })) :
    Observed (s.setClient c { s.clients c with threadRunning := false, phase := .detaching .frame }) := by
  refine o.move (.of_sets rfl nofun (by rw [left]; rfl) (funext fun event => ?_)) l
  rw [left]
  cases event <;> rfl

theorem Observed.cleanup (o : Observed s) (detached : (s.clients c).phase = .cleanup)
    (l : Listed (ClientLifetime.cleanup s c)) : Observed (ClientLifetime.cleanup s c) :=
  o.keep l (SameObservers.setClient (.of_sets rfl nofun (by rw [detached]; rfl) (by rw [detached]; rfl))) rfl rfl rfl
    (Disposed.of_server rfl rfl) o.deleting o.noFault

end Thread

section Notifications

variable {event : Subscription} {notification : ℕ} {observer : ObserverId} {rest : List ObserverId}

theorem Observed.notify (o : Observed s)
    (l : Listed { s with notifying := Function.update s.notifying event (s.notifying event ++ [s.attached event]) }) :
    Observed { s with notifying := Function.update s.notifying event (s.notifying event ++ [s.attached event]) } := by
  refine o.notification (fun observers member => ?_) l
  rcases List.mem_append.mp member with before | last
  · exact o.notifying event observers before
  · rw [List.mem_singleton.mp last]
    exact List.Subset.refl _

theorem Observed.call (o : Observed s) (next : (s.notifying event)[notification]? = some (observer :: rest))
    (l : Listed { s with
      notifying := Function.update s.notifying event ((s.notifying event).set notification rest) }) :
    Observed { s with
      notifying := Function.update s.notifying event ((s.notifying event).set notification rest) } := by
  refine o.notification (fun observers member => ?_) l
  rcases List.mem_or_eq_of_mem_set member with before | rfl
  · exact o.notifying event observers before
  · exact fun x inside => o.notifying event _ (List.mem_of_getElem? next) (List.mem_cons_of_mem _ inside)

/-- No observer that is called is dead. -/
theorem Observed.not_dangling (o : Observed s) (next : (s.notifying event)[notification]? = some (observer :: rest)) :
    ¬ ∀ object, s.observers observer = some object → object.destroyed = true := by
  intro dead
  have member : observer ∈ s.attached event :=
    o.notifying event _ (List.mem_of_getElem? next) List.mem_cons_self
  cases dead _ (o.attached_alive member)

end Notifications

theorem Step.observed (step : Step assertions s e t) (orderly : Orderly s e) (o : Observed s) : Observed t := by
  have l := step.listed o.listed
  cases step with
  | wait socket async idle =>
    exact o.idle (by rw [idle]; exact nofun) l (by cases socket <;> exact nofun)
  | accept c accepting absent => exact o.accept accepting absent l
  | pushBack c constructed => exact o.idle (by rw [constructed]; exact nofun) l nofun
  | examined reaping => exact o.idle (by rw [reaping]; exact nofun) l nofun
  | keep c rest reaping running => exact o.idle (by rw [reaping]; exact nofun) l nofun
  | condemn c rest reaping stopped => exact o.condemn reaping stopped orderly l
  | deleteObserver c event rest deleting => exact o.deleteObserver deleting l
  | closeConnection c rest deleting => exact o.closeConnection deleting l
  | join c rest deleting finished => exact o.join deleting l
  | start c created => exact o.move (.of_sets rfl nofun (by rw [created]; rfl) (by rw [created]; rfl)) l
  | serve e c next thread quiet serves => exact o.move (.of_serves serves) l
  | throw e c thread throws =>
    exact o.keep l (fun _ => .refl _) rfl rfl rfl (Disposed.of_server rfl rfl) o.deleting ⟨nofun, nofun⟩
  | leave c loop stopped => exact o.move (.of_sets rfl nofun (by rw [loop]; rfl) (by rw [loop]; rfl)) l
  | subscribe c event observer rest handling fresh unlocked =>
    have unset := orderly event (show (s.clients c).phase.requests = some event by rw [handling]; rfl)
    exact o.subscribe handling fresh unset l
  | deleteOld c event observer rest subscribing => exact o.deleteOld subscribing l
  | assign c event observer rest assigning => exact o.move (.assign assigning) l
  | stop c left => exact o.stop left l
  | detachNone c event detaching none => exact o.move (.detachNone detaching none) l
  | detach c event observer detaching current unlocked => exact o.detach detaching current unlocked l
  | cleanup c detached => exact o.cleanup detached l
  | notify event locked => exact o.notify l
  | called event notification done =>
    exact o.notification (fun observers member => o.notifying event observers (List.mem_of_mem_eraseIdx member)) l
  | call event notification observer rest next alive => exact o.call next l
  | dangling event notification observer rest next dead => exact absurd dead (o.not_dangling next)

/-- The observers attached are those of the live clients, each once, and no other is called. -/
structure ObserversAlive (s : State) : Prop where
  nodup : ∀ event, (s.attached event).Nodup
  attached : ∀ event observer, observer ∈ s.attached event ↔ ∃ c, (s.clients c).current event = some observer
  own : ∀ c d event event' observer, (s.clients c).current event = some observer →
    (s.clients d).current event' = some observer → c = d ∧ event = event'
  destroyed : ∀ observer object, s.observers observer = some object → object.destroyed = true →
    object.hasSubject = false ∧ ∀ event, observer ∉ s.attached event
  noFault : s.fault ≠ some .assertion ∧ s.fault ≠ some .useAfterFree

theorem observers_alive {events : List Event} (orderly : (machine assertions).AllSteps Orderly initial events)
    (run : (machine assertions).run? initial events = some s) : ObserversAlive s := by
  have o : Observed s :=
    run_invariant_of_guard Observed (fun _ _ _ inv ok step => (Step.of_step? step).2.observed ok inv)
      observed_initial orderly run
  refine
    { nodup := o.nodup, attached := fun event observer => ⟨o.attached event observer, ?attached⟩
      own := fun c d event event' observer one other => o.injective c d event event' observer
        (Client.pointer_of_current one) (Client.pointer_of_current other)
      destroyed := fun observer object found dead => ⟨o.destroyed observer object found dead, ?destroyed⟩
      noFault := o.noFault }
  case attached =>
    rintro ⟨c, current⟩
    exact (o.live c event observer current).2
  case destroyed =>
    intro event member
    cases found.symm.trans (o.attached_alive member)
    cases dead

instance (s : State) (e : Event) : Decidable (Orderly s e) := by
  unfold Orderly
  split <;> infer_instance

/-- A client connects and sends one message. -/
private def message (c : ClientId) (actions : List Action) : List Event :=
  [.wait true false, .accept c, .pushBack, .start c, .enter c, .waitClient c true false,
    .recv c (.data [0, 0, 0, 1]) [], .recv c (.data [7]) actions]

/-- The connection ends, and the thread clears its flag. -/
private def hangUp (c : ClientId) : List Event :=
  [.enter c, .waitClient c true false, .recv c (.data []) [], .enter c, .stop c]

private def subscribed : List Event :=
  message 0 [.subscribe .frame] ++
    ([.subscribe 0 7, .deleteOld 0, .assign 0, .notify .frame, .call .frame 0] : List Event) ++ hangUp 0 ++
    ([.call .frame 0, .detach 0, .detach 0, .cleanup 0, .wait false true, .examine, .destroy, .destroy] : List Event)

/-- A client that has subscribed is deleted after its thread has detached the observer. -/
theorem observers_alive_subscribed : ∃ s, (machine true).run? initial subscribed = some s ∧ ObserversAlive s ∧
    s.observers 7 = some ⟨false, true⟩ := by
  have done : ((machine true).run? initial subscribed).any
      (fun s => s.observers 7 == some ⟨false, true⟩) = true := by decide +kernel
  obtain ⟨s, run, checked⟩ := (Option.any_eq_true _ _).mp done
  exact ⟨s, run, observers_alive (by decide +kernel) run, beq_iff_eq.mp checked⟩

/-- A second subscription deletes the first observer while it is attached, and without assertions the next
notification calls it; and a client is deleted before its thread has detached its observer. -/
theorem attached_observer_deleted :
    (∃ events s, (machine false).run? initial events = some s ∧ s.fault = some .useAfterFree ∧
      ¬ ObserversAlive s) ∧
    ∃ events s, (machine true).run? initial events = some s ∧ s.fault = some .assertion ∧ ¬ ObserversAlive s := by
  constructor
  · have done : ((machine false).run? initial (message 0 [.subscribe .frame, .send 1, .subscribe .frame, .send 1] ++
        [.subscribe 0 7, .deleteOld 0, .assign 0, .reply 0 (.count 4), .reply 0 (.count 1), .subscribe 0 8,
          .deleteOld 0, .assign 0, .notify .frame, .call .frame 0])).any
        (fun s => s.fault == some .useAfterFree) = true := by decide +kernel
    obtain ⟨s, run, checked⟩ := (Option.any_eq_true _ _).mp done
    have fault := beq_iff_eq.mp checked
    exact ⟨_, s, run, fault, fun alive => alive.noFault.2 fault⟩
  · have done : ((machine true).run? initial (connection 0 ++ message 1 [.subscribe .frame] ++
        [.subscribe 1 7, .deleteOld 1, .assign 1] ++ hangUp 1 ++ [.wait false true, .examine, .destroy, .destroy,
          .destroy, .destroy, .examine, .destroy])).any (fun s => s.fault == some .assertion) = true := by
      decide +kernel
    obtain ⟨s, run, checked⟩ := (Option.any_eq_true _ _).mp done
    have fault := beq_iff_eq.mp checked
    exact ⟨_, s, run, fault, fun alive => alive.noFault.1 fault⟩

end H9d.ClientLifetime
