import H9d.Model.H9cli
import H9d.Soundness.CliCache

/-! # Names that stay

While the daemon has the same nodes and registers, what the cache was told it would be told again. A line is then
parsed as by a new cache, and only the requests for its names may differ.
-/

namespace H9d

open Cxx CliLexer CliCache

namespace CliCache

/-! ## What the cache knows -/

/-- What the cache was told is what the daemon says, and no node outside of the daemon's array was asked for. -/
structure Current (names : Daemon) (c : CliCache) : Prop where
  coherent : Coherent c
  reported : ∀ nodeId reply, c.reported nodeId = some reply →
    reply = names.reply nodeId ∧ nodeId.toNat ≤ H9Frame.ID_MAX_VALUE
  nodes : c.nodeNameToId = Map.empty ∨ c.nodeNameToId = (c.refreshNode names).nodeNameToId

section Current

variable {names : Daemon} {c : CliCache} {nodeId : BitVec 16} {call : Call}

theorem current_new : Current names new where
  coherent := coherent_new
  reported nodeId reply told := by cases told
  nodes := .inl rfl

/-- The daemon would say the bits again that the cache has. -/
theorem Current.covered (current : Current names c) (call : Call) : Covered c (call, names) := by
  intro nodeId _ number name known
  cases told : c.reported nodeId with
  | none =>
    obtain ⟨-, -, -, none⟩ := current.coherent.absent nodeId told
    rw [bitNumber?, Map.entry, Map.entry, none] at known
    exact absurd rfl known
  | some reply =>
    rw [← (current.reported nodeId reply told).1, ← (current.coherent.described nodeId reply told).bit]
    exact known

theorem addRegister_nodeNameToId (reply : List Register) :
    (reply.foldl (addRegister nodeId) c).nodeNameToId = c.nodeNameToId := by
  induction reply generalizing c with
  | nil => rfl
  | cons reg reply ih =>
    rw [List.foldl_cons, ih]
    rfl

theorem asked_nodeNameToId : (c.asked names call).nodeNameToId = c.nodeNameToId := by
  rw [CliCache.asked]
  cases call.refreshes? c with
  | none => rfl
  | some nodeId =>
    dsimp only
    rw [refreshRegister_eq, addRegister_nodeNameToId]
    rfl

/-- A call about a node of the array. -/
theorem Current.asked (current : Current names c) (about : call.node? = some nodeId)
    (inside : nodeId.toNat ≤ H9Frame.ID_MAX_VALUE) : Current names (c.asked names call) := by
  refine ⟨current.coherent.asked (current.covered call), fun other reply told => ?_, ?_⟩
  · rw [CliCache.asked] at told
    split at told
    · next refreshed refreshes =>
      obtain rfl := Call.refreshes_own about refreshes
      rw [refreshRegister_reported] at told
      by_cases here : other = refreshed
      · rw [here, Map.assign_self] at told
        rw [here]
        exact ⟨(Option.some.inj told).symm, inside⟩
      · rw [Map.assign_of_ne _ _ _ here] at told
        exact current.reported other reply told
    · exact current.reported other reply told
  · rw [asked_nodeNameToId]
    exact current.nodes

theorem Current.getNodeIdByName (current : Current names c) (name : String) :
    Current names (c.getNodeIdByName names name).1 := by
  dsimp only [CliCache.getNodeIdByName]
  split
  · refine ⟨current.coherent.congr rfl rfl rfl rfl rfl, current.reported, .inr rfl⟩
  · exact current

/-- A call asks about a node that was not asked for. -/
theorem Current.refreshes (current : Current names c) (about : call.node? = some nodeId)
    (outside : ¬nodeId.toNat ≤ H9Frame.ID_MAX_VALUE) : call.refreshes? c = some nodeId := by
  apply Call.refreshes_of_absent about
  apply current.coherent.absent
  cases told : c.reported nodeId with
  | none => rfl
  | some reply => exact absurd (current.reported nodeId reply told).2 outside

/-! ## What a name is found to be -/

/-- The last node with a name counts. -/
theorem Current.getNodeIdByName_snd (current : Current names c) (name : String) :
    (c.getNodeIdByName names name).2 = ((new.refreshNode names).nodeNameToId name).getD 0xffff := by
  rw [CliCache.getNodeIdByName]
  dsimp only
  cases known : c.nodeNameToId name with
  | none =>
    rw [if_pos (by rfl)]
    rfl
  | some id =>
    rw [if_neg (by simp)]
    rcases current.nodes with none | same
    · rw [none] at known
      cases known
    · rw [same]
      rfl

theorem Current.getRegisterNumberByName_snd (current : Current names c) (inside : nodeId.toNat ≤ H9Frame.ID_MAX_VALUE)
    (name : String) : (c.getRegisterNumberByName names nodeId name).2 =
      ((numberOf (names.reply nodeId) name).getD 0).setWidth 8 := by
  have asked : Current names (c.asked names (.getRegisterNumberByName nodeId name)) := current.asked rfl inside
  obtain ⟨reply, told, found⟩ := current.coherent.getRegisterNumberByName (current.covered _)
  rw [found, (asked.reported nodeId reply told).1]

theorem Current.getBitNumberByName_snd (current : Current names c) (inside : nodeId.toNat ≤ H9Frame.ID_MAX_VALUE)
    (number : Byte) (name : String) : (c.getBitNumberByName names nodeId number name).2 =
      (bitOf (names.reply nodeId) number name).getD 0xff := by
  have asked : Current names (c.asked names (.getBitNumberByName nodeId number name)) := current.asked rfl inside
  obtain ⟨reply, told, found⟩ := current.coherent.getBitNumberByName (current.covered _)
  rw [found, (asked.reported nodeId reply told).1]

end Current

end CliCache

namespace CliParser

/-! ## Two parsers -/

/-- The requests for names that were sent. -/
def State.asks (s : State) : List Request := s.events.filterMap Event.sent?

/-- The daemon answers what is asked about the nodes of its array. -/
structure Answers (survives : Request → Bool) : Prop where
  nodes : survives { method := "get_nodes_list" } = true
  registers : ∀ nodeId : BitVec 16, survives { method := "get_registers_list", nodeId := some nodeId.toNat } =
    decide (nodeId.toNat ≤ H9Frame.ID_MAX_VALUE)

section Alike

variable (names : CliCache.Daemon) (survives : Request → Bool) {α β : Type}

/-- A parser with its own cache, whose requests the daemon may not survive, and one that tells what it looks up.
As long as all is well they come to the same. -/
structure Alike (p q : State × α) : Prop where
  well : p.1.asks.all survives = q.1.lookups.all (·.query.isInside)
  same : p.1.asks.all survives = true →
    p.2 = q.2 ∧ CliCache.Current names p.1.cache ∧ CliCache.Current names q.1.cache

/-- Nothing is taken back. -/
structure Extends (s t : State) : Prop where
  events : s.events <+: t.events
  lookups : s.lookups <+: t.lookups

variable {names survives}

theorem Extends.refl (s : State) : Extends s s := ⟨List.prefix_rfl, List.prefix_rfl⟩

theorem Extends.trans {s t u : State} (first : Extends s t) (second : Extends t u) : Extends s u :=
  ⟨first.events.trans second.events, first.lookups.trans second.lookups⟩

theorem extends_lookedUp (s : State) (query : Query) (cache : CliCache) (events : List Event) :
    Extends s (s.lookedUp query cache events) :=
  ⟨List.prefix_append .., List.prefix_append ..⟩

/-- What is not well stays so. -/
theorem Extends.lost {s t : State} (extended : Extends s t) (lost : s.asks.all survives = false) :
    t.asks.all survives = false := by
  obtain ⟨more, events⟩ := extended.events
  simp only [State.asks, ← events, List.filterMap_append, List.all_append]
  rw [← State.asks, lost, Bool.false_and]

theorem Extends.outside {s t : State} (extended : Extends s t)
    (outside : s.lookups.all (·.query.isInside) = false) : t.lookups.all (·.query.isInside) = false := by
  obtain ⟨more, lookups⟩ := extended.lookups
  rw [← lookups, List.all_append, outside, Bool.false_and]

theorem Alike.map {p q : State × α} (alike : Alike names survives p q) (f : α → β) :
    Alike names survives (p.1, f p.2) (q.1, f q.2) :=
  ⟨alike.well, fun well => ⟨congrArg f (alike.same well).1, (alike.same well).2⟩⟩

/-- What goes on alike from where both are the same, goes on alike. -/
theorem Alike.next {p q : State × α} (alike : Alike names survives p q) (k : α → State → State × β)
    (extended : ∀ a s, Extends s (k a s).1)
    (each : ∀ a s t, Alike names survives (s, ()) (t, ()) → Alike names survives (k a s) (k a t)) :
    Alike names survives (k p.2 p.1) (k q.2 q.1) := by
  cases well : p.1.asks.all survives with
  | true =>
    obtain ⟨value, current⟩ := alike.same well
    rw [← value]
    exact each p.2 p.1 q.1 ⟨alike.well, fun _ => ⟨rfl, current⟩⟩
  | false =>
    have lost := (extended p.2 p.1).lost well
    have outside := (extended q.2 q.1).outside (alike.well.symm.trans well)
    exact ⟨lost.trans outside.symm, fun well => absurd (lost.symm.trans well) Bool.false_ne_true⟩

end Alike

section Lookups

variable {names : CliCache.Daemon} {survives : Request → Bool} {s t : State}

/-- A lookup in the registers of a node. -/
theorem Alike.lookedUp (alike : Alike names survives (s, ()) (t, ())) (answers : Answers survives) {query : Query}
    {nodeId : BitVec 16} {call : CliCache.Call} (about : call.node? = some nodeId)
    (place : query.isInside = decide (nodeId.toNat ≤ H9Frame.ID_MAX_VALUE)) {failed failed' : List Event}
    (errors : failed.filterMap Event.sent? = []) {v w : ℤ}
    (value : nodeId.toNat ≤ H9Frame.ID_MAX_VALUE → CliCache.Current names s.cache →
      CliCache.Current names t.cache → v = w) :
    Alike names survives (s.lookedUp query (s.cache.asked names call) (s.asked call ++ failed), v)
      (t.lookedUp query (t.cache.asked names call) (t.asked call ++ failed'), w) := by
  have asks : (s.lookedUp query (s.cache.asked names call) (s.asked call ++ failed)).asks.all survives =
      (s.asks.all survives && ((s.asked call).filterMap Event.sent?).all survives) := by
    simp only [State.asks, State.lookedUp, List.filterMap_append, errors, List.append_nil, List.all_append]
  have lookups : (t.lookedUp query (t.cache.asked names call) (t.asked call ++ failed')).lookups.all
      (·.query.isInside) = (t.lookups.all (·.query.isInside) && decide (nodeId.toNat ≤ H9Frame.ID_MAX_VALUE)) := by
    simp only [State.lookedUp, List.all_append, List.all_cons, List.all_nil, Bool.and_true, place]
  cases well : s.asks.all survives with
  | false =>
    rw [well, Bool.false_and] at asks
    rw [← alike.well, well, Bool.false_and] at lookups
    exact ⟨asks.trans lookups.symm, fun well => absurd (asks.symm.trans well) Bool.false_ne_true⟩
  | true =>
    obtain ⟨-, current, current'⟩ := alike.same well
    rw [well, Bool.true_and] at asks
    rw [← alike.well, well, Bool.true_and] at lookups
    by_cases inside : nodeId.toNat ≤ H9Frame.ID_MAX_VALUE
    · refine ⟨?_, fun _ => ⟨value inside current current', current.asked about inside, current'.asked about inside⟩⟩
      rw [asks, lookups, decide_eq_true inside, State.asked]
      cases refreshes : call.refreshes? s.cache with
      | none => rfl
      | some other =>
        obtain rfl := CliCache.Call.refreshes_own about refreshes
        simp [Event.sent?, answers.registers, inside]
    · have lost : ((s.asked call).filterMap Event.sent?).all survives = false := by
        rw [State.asked, current.refreshes about inside]
        simp [Event.sent?, answers.registers, inside]
      rw [lost] at asks
      refine ⟨?_, fun well => absurd (asks.symm.trans well) Bool.false_ne_true⟩
      rw [asks, lookups, decide_eq_false inside]

theorem Alike.getNodeIdByName (alike : Alike names survives (s, ()) (t, ())) (answers : Answers survives)
    (name : String) :
    Alike names survives (s.getNodeIdByName names name) (t.getNodeIdByName names name) := by
  have asks : (s.getNodeIdByName names name).1.asks.all survives = s.asks.all survives := by
    simp only [State.asks, State.getNodeIdByName, State.lookedUp, List.filterMap_append, List.all_append]
    split_ifs <;> simp [Event.sent?, answers.nodes]
  have lookups : (t.getNodeIdByName names name).1.lookups.all (·.query.isInside) =
      t.lookups.all (·.query.isInside) := by
    simp [State.getNodeIdByName, State.lookedUp, Query.isInside]
  refine ⟨asks.trans (alike.well.trans lookups.symm), fun well => ?_⟩
  obtain ⟨-, current, current'⟩ := alike.same (asks.symm.trans well)
  have value := (current.getNodeIdByName_snd name).trans (current'.getNodeIdByName_snd name).symm
  exact ⟨congrArg (fun id : BitVec 16 => (id.toNat : ℤ)) value, current.getNodeIdByName name,
    current'.getNodeIdByName name⟩

theorem Alike.getRegisterNumberByName (alike : Alike names survives (s, ()) (t, ())) (answers : Answers survives)
    (nodeId : ℤ) (name : String) : Alike names survives (s.getRegisterNumberByName names nodeId name)
      (t.getRegisterNumberByName names nodeId name) := by
  refine alike.lookedUp answers rfl rfl ?_ fun inside current current' => ?_
  · split_ifs <;> rfl
  · exact congrArg (fun number : Byte => (number.toNat : ℤ))
      ((current.getRegisterNumberByName_snd inside name).trans (current'.getRegisterNumberByName_snd inside name).symm)

theorem Alike.getBitNumberByName (alike : Alike names survives (s, ()) (t, ())) (answers : Answers survives)
    (nodeId reg : ℤ) (name : String) : Alike names survives (s.getBitNumberByName names nodeId reg name)
      (t.getBitNumberByName names nodeId reg name) := by
  refine alike.lookedUp answers rfl rfl ?_ fun inside current current' => ?_
  · split_ifs <;> rfl
  · exact congrArg (fun number : Byte => (number.toNat : ℤ))
      ((current.getBitNumberByName_snd inside _ name).trans (current'.getBitNumberByName_snd inside _ name).symm)

end Lookups

section Commands

variable {names : CliCache.Daemon} {survives : Request → Bool} (ending : Ending)

theorem extends_bitCommand (method : String) (nodeId reg : ℤ) (tokens : List Token) (s : State) :
    Extends s (bitCommand names ending method nodeId reg tokens s).1 := by
  rw [bitCommand]
  cases tokens.head?.bind strExp? with
  | some name => exact extends_lookedUp s _ _ _
  | none => exact .refl s

theorem extends_nodeRegCommand (nodeId reg : ℤ) (tokens : List Token) (s : State) :
    Extends s (nodeRegCommand names ending nodeId reg tokens s).1 := by
  rw [nodeRegCommand.eq_def]
  split <;> first
    | exact extends_bitCommand ending _ nodeId reg _ s
    | exact .refl s

theorem extends_nodeRegExp (nodeId : ℤ) (tokens : List Token) (s : State) :
    Extends s (nodeRegExp names ending nodeId tokens s).1 := by
  rw [nodeRegExp]
  cases tokens.head?.bind strExp? with
  | some name => exact (extends_lookedUp s _ _ _).trans (extends_nodeRegCommand ending _ _ _ _)
  | none =>
    cases numExp ending tokens [] none with
    | error e => exact .refl s
    | ok parsed => exact extends_nodeRegCommand ending _ _ _ s

theorem extends_nodeCommand (nodeId : ℤ) (tokens : List Token) (s : State) :
    Extends s (nodeCommand names ending nodeId tokens s).1 := by
  rw [nodeCommand.eq_def]
  split <;> first
    | exact extends_nodeRegExp ending nodeId _ s
    | exact .refl s

variable {s t : State}

/-- What does not look up. -/
theorem Alike.plain {α : Type} (alike : Alike names survives (s, ()) (t, ())) (a : α) :
    Alike names survives (s, a) (t, a) :=
  alike.map fun _ => a

theorem Alike.bitCommand (alike : Alike names survives (s, ()) (t, ())) (answers : Answers survives)
    (method : String) (nodeId reg : ℤ) (tokens : List Token) :
    Alike names survives (bitCommand names ending method nodeId reg tokens s)
      (bitCommand names ending method nodeId reg tokens t) := by
  rw [CliParser.bitCommand, CliParser.bitCommand]
  cases tokens.head?.bind strExp? with
  | some name =>
    exact (alike.getBitNumberByName answers nodeId reg name).map fun bitNum =>
      finish ending (.jsonrpc { method, nodeId := some nodeId, reg := some reg, bitNum := some bitNum }) tokens.tail
  | none => exact alike.plain _

theorem Alike.nodeRegCommand (alike : Alike names survives (s, ()) (t, ())) (answers : Answers survives)
    (nodeId reg : ℤ) (tokens : List Token) : Alike names survives (nodeRegCommand names ending nodeId reg tokens s)
      (nodeRegCommand names ending nodeId reg tokens t) := by
  rw [CliParser.nodeRegCommand.eq_def, CliParser.nodeRegCommand.eq_def]
  split <;> first
    | exact alike.bitCommand ending answers _ nodeId reg _
    | exact alike.plain _

theorem Alike.nodeRegExp (alike : Alike names survives (s, ()) (t, ())) (answers : Answers survives)
    (nodeId : ℤ) (tokens : List Token) :
    Alike names survives (nodeRegExp names ending nodeId tokens s) (nodeRegExp names ending nodeId tokens t) := by
  rw [CliParser.nodeRegExp, CliParser.nodeRegExp]
  cases tokens.head?.bind strExp? with
  | some name =>
    exact (alike.getRegisterNumberByName answers nodeId name).next
      (fun reg => CliParser.nodeRegCommand names ending nodeId reg tokens.tail)
      (fun reg => extends_nodeRegCommand ending nodeId reg _)
      fun reg s t alike => alike.nodeRegCommand ending answers nodeId reg _
  | none =>
    cases numExp ending tokens [] none with
    | error e => exact alike.plain _
    | ok parsed => exact alike.nodeRegCommand ending answers nodeId _ _

theorem Alike.nodeCommand (alike : Alike names survives (s, ()) (t, ())) (answers : Answers survives)
    (nodeId : ℤ) (tokens : List Token) :
    Alike names survives (nodeCommand names ending nodeId tokens s) (nodeCommand names ending nodeId tokens t) := by
  rw [CliParser.nodeCommand.eq_def, CliParser.nodeCommand.eq_def]
  split <;> first
    | exact alike.nodeRegExp ending answers nodeId _
    | exact alike.plain _

theorem Alike.nodeExp (alike : Alike names survives (s, ()) (t, ())) (answers : Answers survives)
    (tokens : List Token) :
    Alike names survives (nodeExp names ending tokens s) (nodeExp names ending tokens t) := by
  rw [CliParser.nodeExp, CliParser.nodeExp]
  cases tokens.head?.bind strExp? with
  | some name =>
    exact (alike.getNodeIdByName answers name).next
      (fun nodeId => CliParser.nodeCommand names ending nodeId tokens.tail)
      (fun nodeId => extends_nodeCommand ending nodeId _)
      fun nodeId s t alike => alike.nodeCommand ending answers nodeId _
  | none =>
    cases numExp ending tokens [] none with
    | error e => exact alike.plain _
    | ok parsed => exact alike.nodeCommand ending answers _ _

end Commands

/-- A line is parsed as by a new cache, as long as the daemon survives what is asked. -/
theorem alike_parse {names : CliCache.Daemon} {survives : Request → Bool} (answers : Answers survives)
    {c : CliCache} (current : CliCache.Current names c) (str : CString) :
    Alike names survives (parse names c str) (parse names CliCache.new str) := by
  have alike : Alike names survives (State.start c, ()) (State.start CliCache.new, ()) :=
    ⟨rfl, fun _ => ⟨rfl, current, CliCache.current_new⟩⟩
  rw [parse, parse]
  dsimp only
  rw [unit.eq_def, unit.eq_def]
  split <;> first
    | exact alike.nodeExp _ answers _
    | exact alike.plain _

end CliParser

end H9d
