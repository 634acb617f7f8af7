import H9d.Soundness.ClientStep

/-! # Which clients the server deletes, and when

A thread tells that it runs by a flag that it sets itself, and that it has finished by an event that is
looked at only when no connection is reported. Where neither is missed, the server deletes exactly the
clients whose connections have ended, and none of them stays in the list unnoticed.
-/

namespace H9d.ClientLifetime

open Machine LabeledMachine TCPSocket

variable {assertions : Bool} {s t : State} {e : Event} {c : ClientId}

/-- The thread has set its flag and not cleared it yet. -/
def Phase.started : Phase → Bool
  | .left | .subscribing .. | .assigning .. => true
  | phase => phase.serving

def Phase.behindLoop : Phase → Bool
  | .left | .detaching _ | .cleanup | .finished => true
  | _ => false

/-- The clients that the reaping pass under way has still to deal with. -/
def ServerPhase.due : ServerPhase → List ClientId
  | .reaping rest => rest
  | .deleting c _ rest => c :: rest
  | .waiting | .accepting | .constructed _ => []

/-- The client that the reaping pass looks at next. -/
def ServerPhase.examines : ServerPhase → Option ClientId
  | .reaping (c :: _) => some c
  | _ => none

/-- Where the clients are that were ever accepted. -/
structure Listed (s : State) : Prop where
  nodup : s.list.Nodup
  known : ∀ c ∈ s.list, (s.clients c).phase ≠ .absent
  deleted : ∀ c ∈ s.deleted, c ∉ s.list ∧ (s.clients c).phase = .finished
  constructed : ∀ c, s.server = .constructed c → c ∉ s.list ∧ c ∉ s.deleted ∧ (s.clients c).phase ≠ .absent
  due : s.server.due.Sublist s.list

theorem listed_initial : Listed initial where
  nodup := List.nodup_nil
  known := nofun
  deleted := nofun
  constructed := nofun
  due := List.Sublist.slnil

theorem Listed.setClient (l : Listed s) (next : Client) (present : next.phase ≠ .absent)
    (finished : (s.clients c).phase = .finished → next.phase = .finished) : Listed (s.setClient c next) := by
  have kept {d : ClientId} : (s.clients d).phase ≠ .absent → ((s.setClient c next).clients d).phase ≠ .absent :=
    forall_setClient (P := fun d client => (s.clients d).phase ≠ .absent → client.phase ≠ .absent)
      (fun _ => id) (fun _ => present) d
  refine ⟨l.nodup, fun d member => kept (l.known d member), fun d member => ?_, fun d constructed => ?_, l.due⟩
  · obtain ⟨outside, done⟩ := l.deleted d member
    exact ⟨outside, forall_setClient (P := fun d client => (s.clients d).phase = .finished → client.phase = .finished)
      (fun _ => id) finished d done⟩
  · obtain ⟨outside, new, known⟩ := l.constructed d constructed
    exact ⟨outside, new, kept known⟩

theorem Step.listed (step : Step assertions s e t) (l : Listed s) : Listed t := by
  cases step with
  | wait socket async idle =>
    refine ⟨l.nodup, l.known, l.deleted, fun c constructed => ?_, ?_⟩
    · cases socket <;> cases constructed
    · cases socket
      · exact List.Sublist.refl _
      · exact List.nil_sublist _
  | accept c accepting absent =>
    have outside : c ∉ s.list := fun member => l.known c member absent
    have new : c ∉ s.deleted := fun member => by
      cases absent.symm.trans (l.deleted c member).2
    have moved : Listed (s.setClient c Client.connected) :=
      l.setClient _ nofun (fun finished => by cases absent.symm.trans finished)
    refine ⟨moved.nodup, moved.known, moved.deleted, fun d constructed => ?_, List.nil_sublist _⟩
    cases constructed
    exact ⟨outside, new, by change ((s.setClient c _).clients c).phase ≠ _; rw [setClient_self]; exact nofun⟩
  | pushBack c constructed =>
    obtain ⟨outside, new, known⟩ := l.constructed c constructed
    refine ⟨?_, fun d member => ?_, fun d member => ⟨fun listed => ?_, (l.deleted d member).2⟩, nofun,
      List.nil_sublist _⟩
    · exact List.nodup_append.mpr ⟨l.nodup, List.nodup_singleton c, by
        rintro a old b last rfl
        exact outside (List.mem_singleton.mp last ▸ old)⟩
    · rcases List.mem_append.mp member with old | last
      · exact l.known d old
      · exact List.mem_singleton.mp last ▸ known
    · rcases List.mem_append.mp listed with old | last
      · exact (l.deleted d member).1 old
      · exact new (List.mem_singleton.mp last ▸ member)
  | examined reaping => exact ⟨l.nodup, l.known, l.deleted, nofun, List.nil_sublist _⟩
  | keep c rest reaping running =>
    have due := l.due
    rw [reaping] at due
    exact ⟨l.nodup, l.known, l.deleted, nofun, (List.sublist_cons_self c rest).trans due⟩
  | condemn c rest reaping stopped =>
    have due := l.due
    rw [reaping] at due
    exact ⟨l.nodup, l.known, l.deleted, nofun, due⟩
  | deleteObserver c event rest deleting =>
    have due := l.due
    rw [deleting] at due
    obtain ⟨_, _, same⟩ := delete_eq s assertions ((s.clients c).observer event)
    rw [same]
    cases event <;> exact ⟨l.nodup, l.known, l.deleted, nofun, due⟩
  | closeConnection c rest deleting =>
    have due := l.due
    rw [deleting] at due
    have member : c ∈ s.list := due.subset List.mem_cons_self
    have moved := l.setClient { s.clients c with running := false } (l.known c member) id
    exact ⟨moved.nodup, moved.known, moved.deleted, nofun, due⟩
  | join c rest deleting finished =>
    have due := l.due
    rw [deleting] at due
    refine ⟨l.nodup.erase c, fun d member => l.known d (List.mem_of_mem_erase member), fun d member => ?_, nofun, ?_⟩
    · rcases List.mem_append.mp member with old | last
      · obtain ⟨outside, done⟩ := l.deleted d old
        exact ⟨fun listed => outside (List.mem_of_mem_erase listed), done⟩
      · obtain rfl := List.mem_singleton.mp last
        exact ⟨l.nodup.not_mem_erase, finished⟩
    · have rest := due.erase c
      rw [ServerPhase.due, List.erase_cons_head] at rest
      exact rest
  | start c created => exact l.setClient _ nofun (fun finished => by cases created.symm.trans finished)
  | serve e c next thread quiet serves =>
    refine l.setClient next (fun absent => ?_) (fun finished => ?_)
    · have after := serves.after
      rw [absent] at after
      cases after
    · have before := serves.before
      rw [finished] at before
      cases before
  | throw e c thread throws => exact ⟨l.nodup, l.known, l.deleted, l.constructed, l.due⟩
  | leave c loop stopped => exact l.setClient _ nofun (fun finished => by cases loop.symm.trans finished)
  | subscribe c event observer rest handling =>
    have moved := l.setClient ({ s.clients c with phase := .subscribing event observer rest }) nofun
      (fun finished => by cases handling.symm.trans finished)
    exact ⟨moved.nodup, moved.known, moved.deleted, moved.constructed, moved.due⟩
  | deleteOld c event observer rest subscribing =>
    have moved := l.setClient ({ s.clients c with phase := .assigning event observer rest }) nofun
      (fun finished => by cases subscribing.symm.trans finished)
    obtain ⟨_, _, same⟩ := deleteOld_eq s assertions c event observer rest
    rw [same]
    exact ⟨moved.nodup, moved.known, moved.deleted, moved.constructed, moved.due⟩
  | assign c event observer rest assigning =>
    exact l.setClient _ nofun (fun finished => by cases assigning.symm.trans finished)
  | stop c left => exact l.setClient _ nofun (fun finished => by cases left.symm.trans finished)
  | detachNone c event detaching =>
    exact l.setClient _ (by cases event <;> exact nofun) (fun finished => by cases detaching.symm.trans finished)
  | detach c event observer detaching =>
    have moved := l.setClient ({ s.clients c with phase := event.afterDetach })
      (by cases event <;> exact nofun) (fun finished => by cases detaching.symm.trans finished)
    obtain ⟨_, _, _, same⟩ := detachObserver_eq s event observer
    rw [same]
    exact ⟨moved.nodup, moved.known, moved.deleted, moved.constructed, moved.due⟩
  | cleanup c detached =>
    have moved := l.setClient (c := c) { s.clients c with phase := .finished } nofun (fun _ => rfl)
    exact ⟨moved.nodup, moved.known, moved.deleted, moved.constructed, moved.due⟩
  | notify | called | call | dangling => exact ⟨l.nodup, l.known, l.deleted, l.constructed, l.due⟩

/-- What the server may conclude from the members of a client. -/
structure Client.Sound (client : Client) : Prop where
  threadRunning : client.threadRunning = client.phase.started
  ended : client.running = false → client.ended = true
  behind : client.phase.behindLoop = true → client.ended = true

structure Reaping (s : State) : Prop where
  listed : Listed s
  client : ∀ c, (s.clients c).Sound
  deleting : ∀ c next rest, s.server = .deleting c next rest → (s.clients c).phase.behindLoop = true
  woken : ∀ c, c ∈ s.list ∨ s.server = .constructed c → (s.clients c).phase = .finished →
    s.asyncPending = true ∨ c ∈ s.server.due

/-- No connection is reported together with the async event while a finished client is in the list, and
a reaping pass finds no client whose thread has not started. -/
def Timely (s : State) : Event → Prop
  | .wait true true => ∀ c ∈ s.list, (s.clients c).phase ≠ .finished
  | .examine => ∀ c ∈ s.server.examines, (s.clients c).phase ≠ .created
  | _ => True

theorem reaping_initial : Reaping initial where
  listed := listed_initial
  client _ := ⟨rfl, nofun, nofun⟩
  deleting := nofun
  woken c member := by rcases member with member | member <;> cases member

theorem Reaping.setClient (r : Reaping s) (next : Client) (present : next.phase ≠ .absent) (sound : next.Sound)
    (behind : (s.clients c).phase.behindLoop = true → next.phase.behindLoop = true)
    (finished : next.phase = .finished ↔ (s.clients c).phase = .finished) : Reaping (s.setClient c next) := by
  refine ⟨r.listed.setClient next present finished.mpr, fun d => ?_, fun d stage rest deleting => ?_,
    fun d member done => ?_⟩
  · exact forall_setClient (P := fun _ => Client.Sound) r.client sound d
  · exact forall_setClient (P := fun d client => ∀ stage rest, s.server = .deleting d stage rest →
      client.phase.behindLoop = true) r.deleting (fun stage rest deleting => behind (r.deleting c stage rest deleting))
      d stage rest deleting
  · exact r.woken d member (forall_setClient (P := fun d client => client.phase = .finished →
      (s.clients d).phase = .finished) (fun _ => id) finished.mp d done)

/-- A move between phases that are not behind the loop. -/
theorem Reaping.moveBefore (r : Reaping s) (next : Client) (sound : next.Sound) (present : next.phase ≠ .absent)
    (ahead : (s.clients c).phase.behindLoop = false) (inside : next.phase.behindLoop = false) :
    Reaping (s.setClient c next) := by
  refine r.setClient next present sound (fun behind => ?_) ⟨fun finished => ?_, fun finished => ?_⟩
  · cases ahead.symm.trans behind
  · rw [finished] at inside
    cases inside
  · rw [finished] at ahead
    cases ahead

/-- A thread moves behind its loop. -/
theorem Reaping.moveBehind (r : Reaping s) (next : Client) (sound : next.Sound)
    (inside : next.phase.behindLoop = true) (before : (s.clients c).phase ≠ .finished) (after : next.phase ≠ .finished) :
    Reaping (s.setClient c next) := by
  refine r.setClient next (fun absent => ?_) sound (fun _ => inside)
    ⟨fun finished => absurd finished after, fun finished => absurd finished before⟩
  rw [absent] at inside
  cases inside

/-- The members of a client stay sound while only its phase, within the same part of its thread, and its
observers change. -/
theorem Client.Sound.move {client : Client} (sound : client.Sound) (phase : Phase)
    (observer : Subscription → Option ObserverId) (started : client.phase.started = phase.started)
    (behind : phase.behindLoop = true → client.ended = true) : Client.Sound { client with phase, observer } :=
  ⟨sound.threadRunning.trans started, sound.ended, behind⟩

/-- A client whose flag is not set and whose thread has started is behind its loop. -/
theorem Client.Sound.behind_of_stopped {client : Client} (sound : client.Sound)
    (stopped : client.threadRunning = false) (present : client.phase ≠ .absent)
    (started : client.phase ≠ .created) : client.phase.behindLoop = true := by
  have flag := sound.threadRunning.symm.trans stopped
  cases phase : client.phase with
  | absent => exact absurd phase present
  | created => exact absurd phase started
  | left | detaching _ | cleanup | finished => rfl
  | handling _ | waiting | receiving | subscribing _ _ _ | assigning _ _ _ | replying _ _ | sendAsyncMsg
  | sending _ _ =>
    rw [phase] at flag
    cases flag

theorem Phase.started_of_serving {phase : Phase} (serving : phase.serving = true) : phase.started = true := by
  cases phase <;> first | rfl | cases serving

theorem Phase.behindLoop_of_serving {phase : Phase} (serving : phase.serving = true) :
    phase.behindLoop = false := by
  cases phase <;> first | rfl | cases serving

theorem Serves.sound {client next : Client} (serves : Serves client next) (sound : client.Sound) : next.Sound := by
  refine ⟨?_, fun stopped => ?_, fun behind => ?_⟩
  · rw [serves.threadRunning, sound.threadRunning, Phase.started_of_serving serves.before,
      Phase.started_of_serving serves.after]
  · rcases serves.ended with ⟨running, ended⟩ | ⟨-, ended⟩
    · exact ended.trans (sound.ended (running.symm.trans stopped))
    · exact ended
  · rw [Phase.behindLoop_of_serving serves.after] at behind
    cases behind

theorem Reaping.afterDetach (r : Reaping s) {event : Subscription}
    (detaching : (s.clients c).phase = .detaching event) :
    Reaping (s.setClient c { s.clients c with phase := event.afterDetach }) := by
  have ended := (r.client c).behind (by rw [detaching]; rfl)
  have sound := (r.client c).move event.afterDetach (s.clients c).observer
    (by rw [detaching]; cases event <;> rfl) (fun _ => ended)
  exact r.moveBehind _ sound (by cases event <;> rfl) (by rw [detaching]; exact nofun)
    (by cases event <;> exact nofun)

section Server

variable {rest : List ClientId}

theorem Reaping.wait {socket async : Bool} (r : Reaping s) (idle : s.server = .waiting)
    (timely : Timely s (.wait socket async)) (l : Listed (ClientLifetime.wait s socket async)) :
    Reaping (ClientLifetime.wait s socket async) := by
  refine ⟨l, r.client, fun c next rest deleting => ?_, fun c member finished => ?_⟩
  · cases socket <;> cases deleting
  · have listed : c ∈ s.list := by
      rcases member with listed | constructed
      · exact listed
      · cases socket <;> cases constructed
    have woken := r.woken c (.inl listed) finished
    rw [idle] at woken
    have held := woken.resolve_right List.not_mem_nil
    cases socket with
    | false =>
      exact .inr listed
    | true =>
      cases async with
      | false => exact .inl held
      | true => exact absurd finished (timely c listed)

theorem Reaping.accept (r : Reaping s) (accepting : s.server = .accepting) (absent : (s.clients c).phase = .absent)
    (l : Listed (ClientLifetime.accept s c)) : Reaping (ClientLifetime.accept s c) := by
  have moved : Reaping (s.setClient c Client.connected) :=
    r.moveBefore _ ⟨rfl, nofun, nofun⟩ nofun (by rw [absent]; rfl) rfl
  refine ⟨l, moved.client, nofun, fun d member finished => ?_⟩
  rcases member with listed | constructed
  · have woken := moved.woken d (.inl listed) finished
    change s.asyncPending = true ∨ d ∈ s.server.due at woken
    rw [accepting] at woken
    exact woken
  · cases constructed
    change ((s.setClient c Client.connected).clients c).phase = .finished at finished
    rw [setClient_self] at finished
    cases finished

theorem Reaping.pushBack (r : Reaping s) (constructed : s.server = .constructed c)
    (l : Listed { s with list := s.list ++ [c], server := .waiting }) :
    Reaping { s with list := s.list ++ [c], server := .waiting } := by
  refine ⟨l, r.client, nofun, fun d member finished => ?_⟩
  have either : d ∈ s.list ∨ s.server = .constructed d := by
    rcases member with listed | other
    · rcases List.mem_append.mp listed with old | last
      · exact .inl old
      · exact .inr (List.mem_singleton.mp last ▸ constructed)
    · cases other
  have woken := r.woken d either finished
  rw [constructed] at woken
  exact woken

theorem Reaping.examined (r : Reaping s) (reaping : s.server = .reaping [])
    (l : Listed { s with server := .waiting }) : Reaping { s with server := .waiting } := by
  refine ⟨l, r.client, nofun, fun d member finished => ?_⟩
  have woken := r.woken d (.inl (member.resolve_right nofun)) finished
  rw [reaping] at woken
  exact woken

theorem Reaping.keep (r : Reaping s) (reaping : s.server = .reaping (c :: rest))
    (running : (s.clients c).threadRunning = true) (l : Listed { s with server := .reaping rest }) :
    Reaping { s with server := .reaping rest } := by
  refine ⟨l, r.client, nofun, fun d member finished => ?_⟩
  have woken := r.woken d (.inl (member.resolve_right nofun)) finished
  rw [reaping] at woken
  refine woken.imp_right fun due => (List.mem_cons.mp due).resolve_left ?_
  rintro rfl
  have flag := (r.client d).threadRunning
  rw [running, finished] at flag
  cases flag

theorem Reaping.condemn (r : Reaping s) (reaping : s.server = .reaping (c :: rest))
    (stopped : (s.clients c).threadRunning = false) (timely : Timely s .examine)
    (l : Listed { s with server := .deleting c (.deleteObserver .frame) rest }) :
    Reaping { s with server := .deleting c (.deleteObserver .frame) rest } := by
  have due := r.listed.due
  rw [reaping] at due
  have started : (s.clients c).phase ≠ .created := timely c (show s.server.examines = some c by rw [reaping]; rfl)
  refine ⟨l, r.client, fun d next rest deleting => ?_, fun d member finished => ?_⟩
  · cases deleting
    exact (r.client c).behind_of_stopped stopped (r.listed.known c (due.subset List.mem_cons_self)) started
  · have woken := r.woken d (.inl (member.resolve_right nofun)) finished
    rw [reaping] at woken
    exact woken

theorem Reaping.deleteObserver (r : Reaping s) {event : Subscription}
    (deleting : s.server = .deleting c (.deleteObserver event) rest)
    (l : Listed { s.delete assertions ((s.clients c).observer event) with
      server := .deleting c event.afterDelete rest }) :
    Reaping { s.delete assertions ((s.clients c).observer event) with
      server := .deleting c event.afterDelete rest } := by
  have behind := r.deleting c _ rest deleting
  obtain ⟨_, _, same⟩ := delete_eq s assertions ((s.clients c).observer event)
  rw [same] at l ⊢
  refine ⟨l, r.client, fun d next rest' other => ?_, fun d member finished => ?_⟩
  · cases event <;> cases other <;> exact behind
  · have woken := r.woken d (.inl (member.resolve_right (by cases event <;> exact nofun))) finished
    rw [deleting] at woken
    cases event <;> exact woken

theorem Reaping.closeConnection (r : Reaping s) (deleting : s.server = .deleting c .closeConnection rest)
    (l : Listed { s.setClient c { s.clients c with running := false } with server := .deleting c .join rest }) :
    Reaping { s.setClient c { s.clients c with running := false } with server := .deleting c .join rest } := by
  have behind := r.deleting c _ rest deleting
  have due := r.listed.due
  rw [deleting] at due
  have sound := r.client c
  have moved : Reaping (s.setClient c { s.clients c with running := false }) :=
    r.setClient _ (r.listed.known c (due.subset List.mem_cons_self))
      ⟨sound.threadRunning, fun _ => sound.behind behind, sound.behind⟩ id Iff.rfl
  refine ⟨l, moved.client, fun d next rest' other => ?_, fun d member finished => ?_⟩
  · cases other
    exact moved.deleting c _ rest deleting
  · have woken := moved.woken d (.inl (member.resolve_right nofun)) finished
    change s.asyncPending = true ∨ d ∈ s.server.due at woken
    rw [deleting] at woken
    exact woken

theorem Reaping.join (r : Reaping s) (deleting : s.server = .deleting c .join rest)
    (l : Listed { s with list := s.list.erase c, deleted := s.deleted ++ [c], server := .reaping rest }) :
    Reaping { s with list := s.list.erase c, deleted := s.deleted ++ [c], server := .reaping rest } := by
  refine ⟨l, r.client, nofun, fun d member done => ?_⟩
  obtain ⟨apart, listed⟩ := (r.listed.nodup.mem_erase_iff).mp (member.resolve_right nofun)
  have woken := r.woken d (.inl listed) done
  rw [deleting] at woken
  exact woken.imp_right fun due => (List.mem_cons.mp due).resolve_left apart

end Server

section Thread

theorem Reaping.serve (r : Reaping s) {next : Client} (serves : Serves (s.clients c) next) :
    Reaping (s.setClient c next) := by
  refine r.moveBefore next (serves.sound (r.client c)) (fun absent => ?_)
    (Phase.behindLoop_of_serving serves.before) (Phase.behindLoop_of_serving serves.after)
  have after := serves.after
  rw [absent] at after
  cases after

theorem Reaping.leave (r : Reaping s) (loop : (s.clients c).phase = .loop)
    (stopped : (s.clients c).running = false) : Reaping (s.setClient c { s.clients c with phase := .left }) := by
  have sound := (r.client c).move .left (s.clients c).observer (by rw [loop]; rfl)
    (fun _ => (r.client c).ended stopped)
  exact r.moveBehind _ sound rfl (by rw [loop]; exact nofun) nofun

variable {event : Subscription} {observer : ObserverId} {rest : List Action}

theorem Reaping.subscribe (r : Reaping s) (handling : (s.clients c).phase = .handling (.subscribe event :: rest))
    (l : Listed (ClientLifetime.subscribe s c event observer rest)) :
    Reaping (ClientLifetime.subscribe s c event observer rest) := by
  have sound := (r.client c).move (.subscribing event observer rest) (s.clients c).observer
    (by rw [handling]; rfl) nofun
  have moved := r.moveBefore _ sound nofun (by rw [handling]; rfl) rfl
  exact ⟨l, moved.client, moved.deleting, moved.woken⟩

theorem Reaping.deleteOld (r : Reaping s) (subscribing : (s.clients c).phase = .subscribing event observer rest)
    (l : Listed (ClientLifetime.deleteOld assertions s c event observer rest)) :
    Reaping (ClientLifetime.deleteOld assertions s c event observer rest) := by
  have sound := (r.client c).move (.assigning event observer rest) (s.clients c).observer
    (by rw [subscribing]; rfl) nofun
  have moved := r.moveBefore _ sound nofun (by rw [subscribing]; rfl) rfl
  obtain ⟨_, _, same⟩ := deleteOld_eq s assertions c event observer rest
  rw [same] at l ⊢
  exact ⟨l, moved.client, moved.deleting, moved.woken⟩

theorem Reaping.assign (r : Reaping s) (assigning : (s.clients c).phase = .assigning event observer rest) :
    Reaping (ClientLifetime.assign s c event observer rest) := by
  have sound := (r.client c).move (.handling rest) (Function.update (s.clients c).observer event (some observer))
    (by rw [assigning]; rfl) nofun
  exact r.moveBefore _ sound nofun (by rw [assigning]; rfl) rfl

theorem Reaping.stop (r : Reaping s) (left : (s.clients c).phase = .left) :
    Reaping (s.setClient c { s.clients c with threadRunning := false, phase := .detaching .frame }) := by
  have ended := (r.client c).behind (by rw [left]; rfl)
  exact r.moveBehind _ ⟨rfl, (r.client c).ended, fun _ => ended⟩ rfl (by rw [left]; exact nofun) nofun

theorem Reaping.detach (r : Reaping s) (detaching : (s.clients c).phase = .detaching event)
    (l : Listed ((s.detachObserver event observer).setClient c { s.clients c with phase := event.afterDetach })) :
    Reaping ((s.detachObserver event observer).setClient c { s.clients c with phase := event.afterDetach }) := by
  have moved := r.afterDetach detaching
  obtain ⟨_, _, _, same⟩ := detachObserver_eq s event observer
  rw [same] at l ⊢
  exact ⟨l, moved.client, moved.deleting, moved.woken⟩

theorem Reaping.cleanup (r : Reaping s) (detached : (s.clients c).phase = .cleanup)
    (l : Listed (ClientLifetime.cleanup s c)) : Reaping (ClientLifetime.cleanup s c) := by
  have sound := (r.client c).move .finished (s.clients c).observer (by rw [detached]; rfl)
    (fun _ => (r.client c).behind (by rw [detached]; rfl))
  refine ⟨l, forall_setClient (P := fun _ => Client.Sound) r.client sound, fun d next rest deleting => ?_,
    fun _ _ _ => .inl rfl⟩
  exact forall_setClient (P := fun d client => ∀ next rest, s.server = .deleting d next rest →
    client.phase.behindLoop = true) r.deleting (fun _ _ _ => rfl) d next rest deleting

end Thread

theorem Step.reaping (step : Step assertions s e t) (timely : Timely s e) (r : Reaping s) : Reaping t := by
  have l := step.listed r.listed
  cases step with
  | wait socket async idle reported pending => exact r.wait idle timely l
  | accept c accepting absent => exact r.accept accepting absent l
  | pushBack c constructed => exact r.pushBack constructed l
  | examined reaping => exact r.examined reaping l
  | keep c rest reaping running => exact r.keep reaping running l
  | condemn c rest reaping stopped => exact r.condemn reaping stopped timely l
  | deleteObserver c event rest deleting => exact r.deleteObserver deleting l
  | closeConnection c rest deleting => exact r.closeConnection deleting l
  | join c rest deleting finished => exact r.join deleting l
  | start c created => exact r.moveBefore _ ⟨rfl, (r.client c).ended, nofun⟩ nofun (by rw [created]; rfl) rfl
  | serve e c next thread quiet serves => exact r.serve serves
  | leave c loop stopped => exact r.leave loop stopped
  | subscribe c event observer rest handling => exact r.subscribe handling l
  | deleteOld c event observer rest subscribing => exact r.deleteOld subscribing l
  | assign c event observer rest assigning => exact r.assign assigning
  | stop c left => exact r.stop left
  | detachNone c event detaching => exact r.afterDetach detaching
  | detach c event observer detaching => exact r.detach detaching l
  | cleanup c detached => exact r.cleanup detached l
  | throw | notify | called | call | dangling => exact ⟨l, r.client, r.deleting, r.woken⟩

/-- The server deletes only clients whose connections have ended, and looks for them as long as one of
them is left. -/
structure ReapedInTime (s : State) : Prop where
  deletes : ∀ c next rest, s.server = .deleting c next rest →
    (s.clients c).phase.behindLoop = true ∧ (s.clients c).ended = true
  deleted : ∀ c ∈ s.deleted, (s.clients c).phase = .finished ∧ (s.clients c).ended = true
  noticed : ∀ c ∈ s.list, (s.clients c).phase = .finished → s.asyncPending = true ∨ c ∈ s.server.due

theorem clients_reaped_in_time {events : List Event} (timely : (machine assertions).AllSteps Timely initial events)
    (run : (machine assertions).run? initial events = some s) : ReapedInTime s := by
  have r : Reaping s :=
    run_invariant_of_guard Reaping (fun _ _ _ inv ok step => (Step.of_step? step).2.reaping ok inv)
      reaping_initial timely run
  refine ⟨fun c next rest deleting => ?_, fun c member => ?_, fun c member => r.woken c (.inl member)⟩
  · have behind := r.deleting c next rest deleting
    exact ⟨behind, (r.client c).behind behind⟩
  · have finished := (r.listed.deleted c member).2
    exact ⟨finished, (r.client c).behind (by rw [finished]; rfl)⟩

instance (s : State) (e : Event) : Decidable (Timely s e) := by
  unfold Timely
  split <;> infer_instance

/-- The connection of a client from its acceptance to its end. -/
def connection (c : ClientId) : List Event :=
  [.wait true false, .accept c, .pushBack, .start c, .enter c, .waitClient c true false,
    .recv c (.data []) [], .enter c, .stop c, .detach c, .detach c, .cleanup c]

/-- What the server does about a client that has finished. -/
private def reap : List Event := [.examine, .destroy, .destroy, .destroy, .destroy, .examine]

theorem clients_reaped_in_time_one : ∃ s, (machine true).run? initial
    (connection 0 ++ [.wait false true] ++ reap) = some s ∧ ReapedInTime s ∧ s.deleted = [0] := by
  have done : ((machine true).run? initial (connection 0 ++ [.wait false true] ++ reap)).any
      (fun s => s.deleted == [0]) = true := by decide +kernel
  obtain ⟨s, run, checked⟩ := (Option.any_eq_true _ _).mp done
  exact ⟨s, run, clients_reaped_in_time (by decide +kernel) run, beq_iff_eq.mp checked⟩

/-- A client is deleted whose thread has not started, and another one stays in the list unnoticed when
its end is reported together with a new connection. -/
theorem clients_missed :
    (∃ events s, (machine true).run? initial events = some s ∧ ¬ ReapedInTime s ∧
      ∃ c next rest, s.server = .deleting c next rest ∧ (s.clients c).phase = .created) ∧
    ∃ events s, (machine true).run? initial events = some s ∧ ¬ ReapedInTime s ∧
      ∃ c ∈ s.list, (s.clients c).phase = .finished ∧ s.asyncPending = false ∧ s.server = .waiting := by
  constructor
  · have done : ((machine true).run? initial
        (connection 0 ++ [.wait true false, .accept 1, .pushBack, .wait false true] ++ reap)).any
        (fun s => s.server == .deleting 1 (.deleteObserver .frame) [] && (s.clients 1).phase == .created) = true := by
      decide +kernel
    obtain ⟨s, run, checked⟩ := (Option.any_eq_true _ _).mp done
    obtain ⟨deleting, created⟩ := (Bool.and_eq_true _ _).mp checked
    have deleting := beq_iff_eq.mp deleting
    have created := beq_iff_eq.mp created
    refine ⟨_, s, run, fun sound => ?_, 1, _, _, deleting, created⟩
    have behind := (sound.deletes 1 _ _ deleting).1
    rw [created] at behind
    cases behind
  · have done : ((machine true).run? initial (connection 0 ++ [.wait true true, .accept 1, .pushBack])).any
        (fun s => s.list == [0, 1] && (s.clients 0).phase == .finished && !s.asyncPending && s.server == .waiting) =
        true := by
      decide +kernel
    obtain ⟨s, run, checked⟩ := (Option.any_eq_true _ _).mp done
    simp only [Bool.and_eq_true, beq_iff_eq, Bool.not_eq_true'] at checked
    obtain ⟨⟨⟨list, finished⟩, lost⟩, waiting⟩ := checked
    have member : 0 ∈ s.list := by
      rw [list]
      exact List.mem_cons_self
    refine ⟨_, s, run, fun sound => ?_, 0, member, finished, lost, waiting⟩
    rcases sound.noticed 0 member finished with pending | due
    · rw [lost] at pending
      cases pending
    · rw [waiting] at due
      cases due

end H9d.ClientLifetime
