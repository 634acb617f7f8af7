import H9d.Soundness.ErrorTexts

/-! # What the handlers are made of

Every handler reads its parameters and the state of the daemon, runs operations of the node manager
behind a `catch`, throws errors with the id of the request whose texts are UTF-8 if the parameters are,
and writes no flag of a connection. A
property of calls that these steps have, and that their composition keeps, holds of every handler;
`authenticate` alone writes a flag.
-/

namespace H9d

open Cxx Nlohmann Jsonrpcpp

/-- The texts of an error. -/
def Jsonrpcpp.Error.IsUtf8 (e : Error) : Prop := Utf8.Valid e.message ∧ ∀ data ∈ e.data, Utf8.Valid data

/-- An exception that names a request names this one, with texts that are UTF-8 if the parameters are. -/
def Exception.IsFor (id : Id) (params : Parameter) : Exception → Prop
  | .request e => e.id = id ∧ (params.IsUtf8 → e.error.IsUtf8)
  | .devNode _ | .access _ => True

section IsFor

variable {id : Id} {params : Parameter}

theorem isFor_invalidParams {what : String} (valid : params.IsUtf8 → Utf8.Valid what) :
    Exception.IsFor id params (.request (invalidParamsException what id)) := by
  have message : Utf8.Valid "Invalid params" := by decide
  refine ⟨rfl, fun isUtf8 => ⟨message, ?_⟩⟩
  rintro _ ⟨⟩
  exact valid isUtf8

theorem isFor_requestException {e : DevNodeException} (valid : params.IsUtf8 → e.IsUtf8) :
    Exception.IsFor id params (API.requestException id e) :=
  ⟨rfl, fun isUtf8 => ⟨valid isUtf8, nofun⟩⟩

/-- What a device throws: an error for the client, or an exception that becomes one. -/
def Exception.IsOfDevice (id : Id) (params : Parameter) : Exception → Prop
  | .devNode e => params.IsUtf8 → e.IsUtf8
  | e => e.IsFor id params

end IsFor

namespace API

/-- The flags of all connections. -/
def flags (d : Daemon) : ClientId → Bool := fun c => (d.clients c).authenticated

/-- A property of calls that the steps of a handler have. -/
structure HandlerRule (id : Id) (params : Parameter) (R : ∀ {α : Type}, Call Daemon Exception α → Prop) :
    Prop where
  pure : ∀ {α : Type} (a : α), R (pure a)
  bind : ∀ {α β : Type} {c : Call Daemon Exception α} {k : α → Call Daemon Exception β}, R c →
    (∀ a, R (k a)) → R (c >>= k)
  read : ∀ {α : Type} (f : Daemon → α), R (Call.read f)
  undefined : ∀ {α : Type}, R (Call.undefined : Call Daemon Exception α)
  throw : ∀ {α : Type} {e : Exception}, e.IsFor id params → R (Call.throw e : Call Daemon Exception α)
  modify : ∀ {f : Daemon → Daemon}, (∀ d, flags (f d) = flags d) → R (Call.modify f)
  /-- an operation of the node manager, with a `catch` -/
  operation : ∀ {α ε : Type} {P : ε → Prop} {c : Call Port ε α} {handler : ε → Exception},
    Call.Throws P c → (∀ e, P e → (handler e).IsFor id params) →
    R (Call.tryCatch (c.on Daemon.port fun port d => { d with port }) fun e => Call.throw (handler e))

section Devices

variable {id : Id} {params : Parameter}

theorem throws_withDev {α : Type} (m : NodeMgr) {name : String} (valid : params.IsUtf8 → Utf8.Valid name)
    {operation : Dev → Call Port Exception α}
    (each : ∀ dev, Call.Throws (Exception.IsOfDevice id params) (operation dev)) :
    Call.Throws (Exception.IsOfDevice id params) (m.withDev name operation) := by
  rw [NodeMgr.withDev]
  split
  · exact each _
  · exact .throw fun isUtf8 => DevNodeException.isUtf8_deviceNotExistException (valid isUtf8)

/-- The errors of a device's method name the request. -/
theorem throws_callDevMethod (env : Env) (m : NodeMgr) (dev : Dev) :
    Call.Throws (Exception.IsOfDevice id params) (dev.callDevMethod env m id params) := by
  have head : Utf8.Valid "Method '" := by decide
  have middle : Utf8.Valid "' execution error: " := by decide
  have last : Utf8.Valid "." := by decide
  have other : Utf8.Valid "Dev object does not provide '" := by decide
  have unprovided : Utf8.Valid "' method." := by decide
  rw [Dev.callDevMethod]
  split
  · exact .throw (isFor_invalidParams fun _ => by decide)
  · next value found =>
    split
    · exact .throw trivial
    · next method text =>
      have named (isUtf8 : params.IsUtf8) : Utf8.Valid method :=
        valid_of_getAt params isUtf8 (bind_eq_ok.mpr ⟨value, atKey_eq_ok.mpr found, text⟩)
      split
      · next body provided =>
        split
        · exact .tryCatch (.any _) fun _ _ => .pure _
        · next e refused =>
          have what : Utf8.Valid e.what := errors_command env.cast params provided e refused
          exact .throw (isFor_invalidParams fun isUtf8 => Utf8.valid_append (Utf8.valid_append (Utf8.valid_append
            (Utf8.valid_append head (named isUtf8)) middle) what) last)
      · exact .throw (isFor_invalidParams fun isUtf8 =>
          Utf8.valid_append (Utf8.valid_append other (named isUtf8)) unprovided)

end Devices

/-- What the `catch` around a device throws. -/
def devError (id : Id) : Exception → Exception
  | .devNode e => requestException id e
  | e => e

theorem orDevError_eq {α : Type} (id : Id) (c : Call Port Exception α) : orDevError id c =
    Call.tryCatch (c.on Daemon.port fun port d => { d with port }) fun e => Call.throw (devError id e) := by
  rw [orDevError]
  congr 1
  funext e
  cases e <;> rfl

theorem flags_setClient (d : Daemon) (me : ClientId) {t : ClientThread}
    (kept : t.authenticated = (d.clients me).authenticated) : flags (d.setClient me t) = flags d := by
  funext c
  change (Function.update d.clients me t c).authenticated = (d.clients c).authenticated
  rw [Function.update_apply]
  split
  · next same => rw [kept, same]
  · rfl

namespace HandlerRule

variable {id : Id} {params : Parameter} {R : ∀ {α : Type}, Call Daemon Exception α → Prop}
  (rule : HandlerRule id params R) {α : Type}

include rule

theorem orInvalidParams {x : Except AccessError α} (texts : Errors AccessError.IsUtf8 x) :
    R (orInvalidParams id x) := by
  cases x with
  | ok a => exact rule.pure a
  | error e => exact rule.throw (isFor_invalidParams fun _ => texts e rfl)

theorem uncaught (c : Call Port DevNodeException α) : R (uncaught c) :=
  rule.operation (.any c) fun _ _ => trivial

theorem orDevNodeError {c : Call Port DevNodeException α} (body : Call.Throws DevNodeException.IsUtf8 c) :
    R (orDevNodeError id c) :=
  rule.operation body fun _ isUtf8 => isFor_requestException fun _ => isUtf8

/-- The shape of most handlers: read the parameters, look up the manager, go on. -/
theorem ofParams {x : Except AccessError α} {k : α → NodeMgr → Call Daemon Exception Json}
    (texts : Errors AccessError.IsUtf8 x) (rest : ∀ a, x = .ok a → ∀ m, R (k a m)) : R (do
      let a ← API.orInvalidParams id x
      let m ← Call.read Daemon.nodeMgr
      k a m) := by
  cases x with
  | ok a =>
    change R (Pure.pure a >>= fun a => Call.read Daemon.nodeMgr >>= k a)
    rw [pure_bind]
    exact rule.bind (rule.read _) (rest a rfl)
  | error e =>
    change R (Call.throw (.request (invalidParamsException e.what id)))
    exact rule.throw (isFor_invalidParams fun _ => texts e rfl)

theorem orDevError {c : Call Port Exception α} (body : Call.Throws (Exception.IsOfDevice id params) c) :
    R (orDevError id c) := by
  rw [orDevError_eq]
  refine rule.operation body fun e thrown => ?_
  cases e with
  | devNode e => exact isFor_requestException thrown
  | request e => exact thrown
  | access e => exact thrown

variable (env : Env) (me : ClientId)

theorem setFrameObserver : R (setFrameObserver env me) := by
  refine rule.bind (rule.read _) fun t => ?_
  split
  · exact rule.undefined
  · exact rule.modify fun d => flags_setClient d me rfl

theorem setDevStatusObserver : R (setDevStatusObserver env me) := by
  refine rule.bind (rule.read _) fun t => ?_
  split
  · exact rule.undefined
  · exact rule.modify fun d => flags_setClient d me rfl

theorem subscribe : R (subscribe env me id params) := by
  refine rule.bind (rule.orInvalidParams (params.errors_getAt _ Json.errors_getString)) fun eventName => ?_
  split
  · exact rule.bind (rule.setFrameObserver env me) fun _ => rule.pure _
  · split
    · exact rule.bind (rule.setDevStatusObserver env me) fun _ => rule.pure _
    · exact rule.pure _

theorem sendFrame : R (sendFrame env me id params) := by
  have frame (raw : Bool) : Errors AccessError.IsUtf8 (do
      let frame ← params.getAt "frame" fun j => H9Frame.fromJson env.cast j env.frameMemory
      return (frame, raw)) :=
    (params.errors_getAt "frame" fun j => H9Frame.errors_fromJson env.cast j _).bind fun _ _ => errors_ok _
  refine rule.bind (rule.orInvalidParams ?_) ?_
  · cases params.paramMap.lookup "raw" with
    | none => exact frame false
    | some raw => exact (Json.errors_getBool raw).bind fun raw _ => frame raw
  rintro ⟨frame, raw⟩
  dsimp only
  split
  · exact rule.throw (isFor_invalidParams fun _ => by decide)
  · refine rule.bind (rule.read _) fun t => rule.bind (rule.modify fun _ => rfl) fun _ => ?_
    split
    · exact rule.pure _
    · exact rule.undefined

theorem getStats : R (getStats env me id params) := by
  refine rule.bind (rule.read _) ?_
  rintro ⟨counterMap, startTime⟩
  dsimp only
  split
  · exact rule.pure _
  · exact rule.throw trivial

theorem reloadNodesDescription : R (reloadNodesDescription env me id params) :=
  rule.bind (rule.read _) fun _ => rule.bind (rule.uncaught _) fun _ =>
    rule.bind (rule.modify fun _ => rfl) fun _ => rule.pure _

theorem getRegistersList : R (getRegistersList env me id params) := by
  have head : Utf8.Valid "Node " := by decide
  have last : Utf8.Valid "does not exist." := by decide
  refine rule.ofParams (errors_nodeId env.cast params) fun nodeId _ m => rule.bind (rule.uncaught _) fun exist => ?_
  split
  · exact rule.bind (rule.uncaught _) fun _ => rule.pure _
  · exact rule.throw ⟨rfl, fun _ =>
      ⟨Utf8.valid_append (Utf8.valid_append head (Utf8.valid_toString _)) last, nofun⟩⟩

theorem setRegisterValue : R (setRegisterValue env me id params) := by
  refine rule.bind (rule.orInvalidParams (errors_setRegisterParams env.cast params)) fun value => ?_
  split
  · exact rule.bind (rule.read _) fun m => rule.bind
      (rule.orDevNodeError (m.throws_withNode _ fun node => node.throws_setRegister env _ _)) fun _ => rule.pure _
  · exact rule.throw (isFor_invalidParams fun _ => by decide)

/-- A request to a device by its name. -/
theorem devRequest {x : Except AccessError α} (texts : Errors AccessError.IsUtf8 x)
    {operation : α → NodeMgr → Call Port Exception Json}
    (each : ∀ a, x = .ok a → ∀ m, Call.Throws (Exception.IsOfDevice id params) (operation a m)) :
    R (do
      let a ← API.orInvalidParams id x
      let m ← Call.read Daemon.nodeMgr
      API.orDevError id (operation a m)) :=
  rule.ofParams texts fun a read m => rule.orDevError (each a read m)

theorem handler (texts : Texts) {method : Method} (other : method ≠ .authenticate) :
    R (method.handler texts env me id params) := by
  have named {name : String} (read : devName params = .ok name) (isUtf8 : params.IsUtf8) : Utf8.Valid name :=
    valid_of_getAt params isUtf8 read
  cases method with
  | authenticate => exact absurd rfl other
  | subscribe => exact rule.subscribe env me
  | sendFrame => exact rule.sendFrame env me
  | getStats => exact rule.getStats env me
  | reloadNodesDescription => exact rule.reloadNodesDescription env me
  | getRegistersList => exact rule.getRegistersList env me
  | setRegisterValue => exact rule.setRegisterValue env me
  | getVersion | getMethodsList => exact rule.pure _
  | getTcpClients | getNodesList | getDevsList => exact rule.bind (rule.read _) fun _ => rule.pure _
  | discoverNodes => exact rule.bind (rule.uncaught _) fun _ => rule.pure _
  | getNodeInfo =>
    exact rule.ofParams (errors_nodeId env.cast params) fun _ _ _ => rule.bind (rule.uncaught _) fun _ => rule.pure _
  | nodeReset =>
    exact rule.ofParams (errors_nodeId env.cast params) fun _ _ m => rule.bind
      (rule.orDevNodeError (m.throws_withNode _ fun node => node.throws_nodeReset env)) fun _ => rule.pure _
  | getRegisterValue =>
    exact rule.ofParams (errors_registerParams env.cast params) fun _ _ m => rule.bind
      (rule.orDevNodeError (m.throws_withNode _ fun node => node.throws_getRegister env _)) fun _ => rule.pure _
  | setRegisterBit =>
    exact rule.ofParams (errors_bitParams env.cast params) fun _ _ m => rule.bind
      (rule.orDevNodeError (m.throws_withNode _ fun node => node.throws_setRegisterBit env _ _)) fun _ => rule.pure _
  | clearRegisterBit =>
    exact rule.ofParams (errors_bitParams env.cast params) fun _ _ m => rule.bind
      (rule.orDevNodeError (m.throws_withNode _ fun node => node.throws_clearRegisterBit env _ _)) fun _ =>
        rule.pure _
  | getDevDescription | getDevStatus =>
    exact rule.devRequest (errors_devName params) fun _ read m => throws_withDev m (named read) fun _ => .pure _
  | devMethodCall =>
    refine rule.devRequest (errors_devMethodParams params) ?_
    rintro ⟨name, method⟩ read m
    obtain ⟨name', given, rest⟩ := bind_eq_ok.mp read
    obtain ⟨_, -, ⟨⟩⟩ := bind_eq_ok.mp rest
    exact throws_withDev m (named given) fun dev => throws_callDevMethod env m dev

end HandlerRule

/-- No handler but `authenticate` writes a flag. -/
theorem preservesFlags (id : Id) (params : Parameter) : HandlerRule id params fun c => Call.Preserves flags c where
  pure := .pure
  bind := .bind
  read := .read
  undefined := .undefined
  throw _ := .throw _
  modify := .modify
  operation _ _ := .tryCatch (fun _ => rfl) fun _ => .throw _

/-- What leaves a handler is for its request. -/
theorem throwsFor (id : Id) (params : Parameter) :
    HandlerRule id params fun c => Call.Throws (Exception.IsFor id params) c where
  pure := .pure
  bind := .bind
  read := .read
  undefined := .undefined
  throw := .throw
  modify _ := .modify _
  operation body named := .tryCatch (.on body) fun e thrown => .throw (named e thrown)

theorem throws_handler (texts : Texts) (env : Env) (me : ClientId) (id : Id) (params : Parameter)
    (method : Method) : Call.Throws (Exception.IsFor id params) (method.handler texts env me id params) := by
  by_cases auth : method = .authenticate
  · subst auth
    exact .bind ((throwsFor id params).orInvalidParams (params.errors_getAt _ Json.errors_getString)) fun _ =>
      .bind (.modify _) fun _ => .pure _
  · exact (throwsFor id params).handler env me texts auth

section Awaited

variable {α : Type} (env : Env) (c : Call Daemon Exception α) (d : Daemon)

/-- The wait comes after everything that a handler writes. -/
@[simp] theorem after_awaited : (awaited env c).after d = c.after d := by
  rw [Call.after, awaited]
  split <;> rfl

/-- There is no wait on a bus that acknowledges, or without a frame. -/
theorem awaited_eq (quiet : env.stalled = false ∨ (c.after d).port = d.port) : awaited env c d = c d := by
  rw [awaited, if_neg]
  rintro ⟨stalled, grown⟩
  rcases quiet with acknowledges | same
  · rw [acknowledges] at stalled
    cases stalled
  · rw [same] at grown
    exact lt_irrefl _ grown

end Awaited

/-- On a bus that acknowledges, a call is its handler. -/
theorem call_acknowledged (texts : Texts) (env : Env) (acknowledges : env.stalled = false) {me : ClientId}
    {request : Request} {d : Daemon} {method : Method}
    (passed : admitted (d.clients me).authenticated request = some method) :
    call texts env me request d =
      (do
        let r ← method.handler texts env me request.id request.params
        return ⟨request.id, r⟩ : Call Daemon Exception Response) d := by
  rw [call, Call.read_bind_apply, passed]
  have same : awaited env (method.handler texts env me request.id request.params) =
      method.handler texts env me request.id request.params := by
    funext d
    exact awaited_eq env _ d (.inl acknowledges)
  dsimp only
  rw [same]

theorem throws_awaited {α : Type} {P : Exception → Prop} {env : Env} {c : Call Daemon Exception α}
    (body : Call.Throws P c) : Call.Throws P (awaited env c) := by
  intro d e throws
  rw [Call.outcome, awaited] at throws
  split at throws
  · cases throws
  · exact body d e throws

end API

end H9d
