import H9d.Soundness.Authentication

/-! # Who gets notifications

The observers of a connection are set by its own `subscribe` and by nothing else: the other methods leave
the clients alone, or write what does not concern the observers.
-/

namespace H9d

open Cxx Nlohmann Jsonrpcpp Call

namespace API

/-- The observers of a connection, set or not. -/
def observers (c : ClientId) (d : Daemon) : Bool × Bool :=
  ((d.clients c).frameObserver, (d.clients c).devStatusObserver)

section Clients

variable {id : Id} {α : Type}

theorem keeps_orInvalidParams (x : Except AccessError α) :
    Preserves Daemon.clients (orInvalidParams id x) := by
  cases x with
  | ok a => exact .pure a
  | error e => exact .throw _

theorem keeps_uncaught (c : Call Port DevNodeException α) : Preserves Daemon.clients (uncaught c) :=
  .tryCatch (fun _ => rfl) fun _ => .throw _

theorem keeps_orDevNodeError (c : Call Port DevNodeException α) :
    Preserves Daemon.clients (orDevNodeError id c) :=
  .tryCatch (fun _ => rfl) fun _ => .throw _

theorem keeps_orDevError (c : Call Port Exception α) : Preserves Daemon.clients (orDevError id c) := by
  rw [orDevError_eq]
  exact .tryCatch (fun _ => rfl) fun _ => .throw _

theorem keeps_params {x : Except AccessError α} {k : α → NodeMgr → Call Daemon Exception Json}
    (rest : ∀ a m, Preserves Daemon.clients (k a m)) : Preserves Daemon.clients (do
      let a ← orInvalidParams id x
      let m ← Call.read Daemon.nodeMgr
      k a m) :=
  .bind (keeps_orInvalidParams x) fun a => .bind (.read _) (rest a)

/-- Two methods write to the clients. -/
theorem keeps_handler (texts : Texts) (env : Env) (me : ClientId) (params : Parameter) {method : Method}
    (auth : method ≠ .authenticate) (sub : method ≠ .subscribe) :
    Preserves Daemon.clients (method.handler texts env me id params) := by
  cases method with
  | authenticate => exact absurd rfl auth
  | subscribe => exact absurd rfl sub
  | sendFrame =>
    refine .bind (keeps_orInvalidParams _) ?_
    rintro ⟨frame, raw⟩
    dsimp only
    split
    · exact .throw _
    · refine .bind (.read _) fun _ => .bind (.modify fun _ => rfl) fun _ => ?_
      split
      · exact .pure _
      · exact .undefined
  | getStats =>
    refine .bind (.read _) ?_
    rintro ⟨counterMap, startTime⟩
    dsimp only
    split
    · exact .pure _
    · exact .throw _
  | reloadNodesDescription =>
    exact .bind (.read _) fun _ => .bind (keeps_uncaught _) fun _ => .bind (.modify fun _ => rfl) fun _ => .pure _
  | getRegistersList =>
    refine keeps_params fun _ _ => .bind (keeps_uncaught _) fun exist => ?_
    split
    · exact .bind (keeps_uncaught _) fun _ => .pure _
    · exact .throw _
  | setRegisterValue =>
    refine .bind (keeps_orInvalidParams _) fun value => ?_
    split
    · exact .bind (.read _) fun _ => .bind (keeps_orDevNodeError _) fun _ => .pure _
    · exact .throw _
  | getVersion | getMethodsList => exact .pure _
  | getTcpClients | getNodesList | getDevsList => exact .bind (.read _) fun _ => .pure _
  | discoverNodes => exact .bind (keeps_uncaught _) fun _ => .pure _
  | getNodeInfo => exact keeps_params fun _ _ => .bind (keeps_uncaught _) fun _ => .pure _
  | nodeReset | getRegisterValue | setRegisterBit | clearRegisterBit =>
    exact keeps_params fun _ _ => .bind (keeps_orDevNodeError _) fun _ => .pure _
  | getDevDescription | getDevStatus | devMethodCall => exact keeps_params fun _ _ => keeps_orDevError _

end Clients

section Observers

variable (env : Env) {me c : ClientId} (id : Id) (params : Parameter)

theorem observers_setClient_of_ne (other : c ≠ me) (d : Daemon) (t : ClientThread) :
    observers c (d.setClient me t) = observers c d := by
  simp only [observers, Daemon.setClient, Function.update_of_ne other]

/-- A connection subscribes for itself only. -/
theorem subscribe_observers (other : c ≠ me) : Preserves (observers c) (subscribe env me id params) := by
  have frame : Preserves (observers c) (setFrameObserver env me) := by
    refine .bind (.read _) fun t => ?_
    split
    · exact .undefined
    · exact .modify fun d => observers_setClient_of_ne other d _
  have devStatus : Preserves (observers c) (setDevStatusObserver env me) := by
    refine .bind (.read _) fun t => ?_
    split
    · exact .undefined
    · exact .modify fun d => observers_setClient_of_ne other d _
  refine .bind (fun d => congrArg _ ?_) fun eventName => ?_
  · cases params.getAt "event" Json.getString <;> rfl
  · split
    · exact .bind frame fun _ => .pure _
    · split
      · exact .bind devStatus fun _ => .pure _
      · exact .pure _

theorem authenticate_observers : Preserves (observers c) (authenticate env me id params) := by
  refine .bind (fun d => congrArg _ ?_) fun entity => .bind (.modify fun d => ?_) fun _ => .pure _
  · cases params.getAt "entity" Json.getString <;> rfl
  · rcases eq_or_ne c me with rfl | other
    · simp only [observers, Daemon.setClient, Function.update_self, ClientThread.authenticate]
    · exact observers_setClient_of_ne other d _

/-- A call that is no `subscribe` of the connection itself leaves its observers alone. -/
theorem call_observers (texts : Texts) (request : Request) (d : Daemon)
    (other : c ≠ me ∨ request.method ≠ "subscribe") :
    observers c ((call texts env me request).after d) = observers c d := by
  cases passed : admitted (flags d me) request with
  | none => rw [(call_refused texts env passed).2]
  | some method =>
    obtain ⟨after, -⟩ := call_admitted texts env passed
    rw [after]
    rcases eq_or_ne method .authenticate with rfl | auth
    · exact authenticate_observers env request.id request.params d
    rcases eq_or_ne method .subscribe with rfl | sub
    · have apart := other.resolve_right fun named => named (admitted_name passed).symm
      exact subscribe_observers env request.id request.params apart d
    · have kept : Preserves Daemon.clients (method.handler texts env me request.id request.params) :=
        keeps_handler texts env me request.params auth sub
      simp only [observers, kept d]

end Observers

end API

end H9d
