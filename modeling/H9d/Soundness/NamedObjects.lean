import H9d.Model.CliParser
import H9d.Soundness.CliCache

/-! # Requests for named objects

A lookup that fails logs an error and returns a number that the actions cannot tell from another one, so the
request is sent all the same. What the cache has is not asked for again. A request is right where every name
of the line is one that the cache has right, or does not have and the daemon has.
-/

namespace H9d.CliParser

open Cxx CliLexer CliCache

/-! ## What a lookup finds -/

/-- The registers of a node in the daemon's list, none for a number that no node can have. -/
def registersOf (d : CliCache.Daemon) (nodeId : ℤ) : List Register :=
  if 0 ≤ nodeId ∧ nodeId < 2 ^ 16 then d.reply (BitVec.ofInt 16 nodeId) else []

/-- The number is that of an object with this name in the daemon's current lists. -/
def Query.Names (d : CliCache.Daemon) (k : ℤ) : Query → Prop
  | .node name => ∃ id, (name, id) ∈ d.nodes.getD [] ∧ k = id.toNat
  | .register nodeId name => ∃ reg ∈ registersOf d nodeId, reg.name = name ∧ k = reg.number.toNat
  | .bit nodeId number name =>
    ∃ reg ∈ registersOf d nodeId, number = reg.number.toNat ∧ ∃ i : ℕ, reg.bitsNames[i]? = some name ∧ k = i

/-- The daemon's current lists contain the name. -/
def Query.Known (d : CliCache.Daemon) (query : Query) : Prop := ∃ k, query.Names d k

/-- The value that a lookup returns when it does not find the name. -/
def Query.errorValue : Query → ℤ
  | .node _ => 0xffff
  | .register _ _ => 0
  | .bit _ _ _ => 0xff

namespace Lookup

variable (d : CliCache.Daemon) (l : Lookup)

/-- The number that the lookup finds. -/
def found : Option ℤ :=
  match l.query with
  | .node name => ((l.before.getNodeIdByName d name).1.nodeNameToId name).map fun id => id.toNat
  | .register nodeId name =>
    ((l.before.getRegisterNumberByName d (.ofInt 16 nodeId) name).1.registerNumber? (.ofInt 16 nodeId) name).map
      fun number => (number.setWidth 8).toNat
  | .bit nodeId reg name =>
    ((l.before.getBitNumberByName d (.ofInt 16 nodeId) (.ofInt 8 reg) name).1.bitNumber? (.ofInt 16 nodeId)
      (.ofInt 8 reg) name).map fun number => number.toNat

def value : ℤ := (l.found d).getD l.query.errorValue

/-- The lookup finds the number of an object with exactly this name. -/
def Exact : Prop := ∃ k, l.found d = some k ∧ l.query.Names d k

/-- The cache has the name with the number of a current object of this name, or does not have it and the
daemon's lists do. The last bit of its name counts, with an index that is a byte. -/
def Answerable : Prop :=
  match l.query with
  | .node name =>
    match l.before.nodeNameToId name with
    | some id => (Query.node name).Names d id.toNat
    | none => (Query.node name).Known d
  | .register nodeId name =>
    match l.before.registerNumber? (.ofInt 16 nodeId) name with
    | some number => (Query.register nodeId name).Names d (number.setWidth 8).toNat
    | none => (Query.register nodeId name).Known d
  | .bit nodeId reg name =>
    match l.before.nodeRegistriesBitsNameToNumber.entry Map.empty (.ofInt 16 nodeId) (.ofInt 8 reg) with
    | some numbers => ∃ number, numbers name = some number ∧ (Query.bit nodeId reg name).Names d number.toNat
    | none => ∃ register ∈ registersOf d nodeId, reg = register.number.toNat ∧
        ∃ index, register.bitIndex name = some index ∧ register.bitsNames[index.toNat]? = some name

end Lookup

section Nodes

variable {d : CliCache.Daemon} {c : CliCache} {name : String}

theorem exact_node_iff : Lookup.Exact d ⟨c, .node name⟩ ↔ Lookup.Answerable d ⟨c, .node name⟩ := by
  rw [Lookup.Exact, Lookup.Answerable, Lookup.found]
  dsimp only
  rw [getNodeIdByName]
  dsimp only
  cases cached : c.nodeNameToId name with
  | some id =>
    rw [if_neg (by simp), cached]
    simp
  | none =>
    rw [if_pos (by simp), refreshNode]
    dsimp only
    constructor
    · rintro ⟨k, _, names⟩
      exact ⟨k, names⟩
    · rintro ⟨_, id, listed, rfl⟩
      obtain ⟨id', found⟩ := Option.isSome_iff_exists.mp
        (@Map.isSome_foldl_assign _ _ _ Map.empty _ name (.inl ⟨id, listed⟩))
      have listed' := (Map.mem_of_foldl_assign found).resolve_right nofun
      rw [found]
      exact ⟨id'.toNat, rfl, id', listed', rfl⟩

end Nodes

section Registers

variable {d : CliCache.Daemon} {c : CliCache} {nodeId : ℤ} {name : String}

/-- What a refresh brings in replaces what was known of the registers of the node. -/
theorem registerNumber_refreshRegister (id : BitVec 16) :
    (c.refreshRegister d id).registerNumber? id name = numberOf (d.reply id) name := by
  have adds : Adds (c.cleared d id) id (d.reply id) (c.refreshRegister d id) :=
    adds_foldl _ _ (d.distinct_reply id)
  have noNumbers : (c.cleared d id).nodeRegistriesNameToNumber.entry Map.empty id = Map.empty :=
    Map.entry_assign_self ..
  rw [adds.number, registerNumber?, noNumbers]
  exact Option.or_none

theorem bitNumber_refreshRegister {id : BitVec 16} {number : Byte}
    (absent : c.nodeRegistriesBitsNameToNumber.entry Map.empty id number = none) :
    (c.refreshRegister d id).bitNumber? id number name = bitOf (d.reply id) number name := by
  have adds : Adds (c.cleared d id) id (d.reply id) (c.refreshRegister d id) :=
    adds_foldl _ _ (d.distinct_reply id)
  have old : (c.cleared d id).bitNumber? id number name = none := by
    change (c.nodeRegistriesBitsNameToNumber.entry Map.empty id).entry Map.empty number name = none
    rw [Map.entry, absent]
    rfl
  rw [adds.bit, old]
  exact Option.or_none

theorem mem_registersOf {reg : Register} (listed : reg ∈ registersOf d nodeId) :
    (0 ≤ nodeId ∧ nodeId < 2 ^ 16) ∧ reg ∈ d.reply (.ofInt 16 nodeId) := by
  rw [registersOf] at listed
  split at listed
  · next within => exact ⟨within, listed⟩
  · exact absurd listed List.not_mem_nil

theorem exact_register_iff :
    Lookup.Exact d ⟨c, .register nodeId name⟩ ↔ Lookup.Answerable d ⟨c, .register nodeId name⟩ := by
  rw [Lookup.Exact, Lookup.Answerable, Lookup.found]
  dsimp only
  rw [getRegisterNumberByName, CliCache.asked, Call.refreshes?]
  dsimp only
  cases cached : c.registerNumber? (.ofInt 16 nodeId) name with
  | some number =>
    have present : c.nodeRegistriesNameToNumber (.ofInt 16 nodeId) ≠ none := Map.ne_none_of_entry cached
    rw [if_neg (by simp [present])]
    dsimp only
    rw [cached]
    simp
  | none =>
    rw [if_pos (by simp)]
    dsimp only
    rw [registerNumber_refreshRegister]
    constructor
    · rintro ⟨k, _, names⟩
      exact ⟨k, names⟩
    · rintro ⟨_, reg, listed, named, rfl⟩
      obtain ⟨within, replied⟩ := mem_registersOf listed
      cases last : (d.reply (.ofInt 16 nodeId)).reverse.find? (·.name = name) with
      | none =>
        have other := List.find?_eq_none.mp last reg (List.mem_reverse.mpr replied)
        exact absurd (decide_eq_true named) other
      | some reg' =>
        have listed' : reg' ∈ registersOf d nodeId := by
          rw [registersOf, if_pos within]
          exact List.mem_reverse.mp (List.mem_of_find?_eq_some last)
        have named' : reg'.name = name := by
          have found := @List.find?_some _ (fun other : Register => decide (other.name = name)) _ _ last
          exact of_decide_eq_true found
        have narrowed : (reg'.number.setWidth 16).setWidth 8 = reg'.number := by
          apply BitVec.eq_of_toNat_eq
          simp
        refine ⟨reg'.number.toNat, ?_, reg', listed', named', rfl⟩
        rw [numberOf, last, Option.map_some, Option.map_some, narrowed]

theorem bitOf_listed {register : Register} (listed : register ∈ registersOf d nodeId) :
    bitOf (d.reply (.ofInt 16 nodeId)) (.ofInt 8 register.number.toNat) name = register.bitIndex name := by
  have number : BitVec.ofInt 8 register.number.toNat = register.number := by
    rw [BitVec.ofInt_natCast, BitVec.ofNat_toNat, BitVec.setWidth_eq]
  rw [bitOf, number, find_number (d.distinct_reply _) (mem_registersOf listed).2]
  rfl

theorem exact_bit_iff {reg : ℤ} :
    Lookup.Exact d ⟨c, .bit nodeId reg name⟩ ↔ Lookup.Answerable d ⟨c, .bit nodeId reg name⟩ := by
  rw [Lookup.Exact, Lookup.Answerable, Lookup.found]
  dsimp only
  rw [getBitNumberByName, CliCache.asked, Call.refreshes?]
  dsimp only
  cases cached : c.nodeRegistriesBitsNameToNumber.entry Map.empty (.ofInt 16 nodeId) (.ofInt 8 reg) with
  | some numbers =>
    have present : c.nodeRegistriesBitsNameToNumber (.ofInt 16 nodeId) ≠ none := Map.ne_none_of_entry cached
    have read : c.bitNumber? (.ofInt 16 nodeId) (.ofInt 8 reg) name = numbers name := by
      rw [bitNumber?, Map.entry, cached]
      rfl
    rw [if_neg (by simp [present])]
    dsimp only
    rw [read]
    constructor
    · rintro ⟨_, answer, names⟩
      obtain ⟨number, there, rfl⟩ := Option.map_eq_some_iff.mp answer
      exact ⟨number, there, names⟩
    · rintro ⟨number, there, names⟩
      rw [there]
      exact ⟨number.toNat, rfl, names⟩
  | none =>
    rw [if_pos (by simp)]
    dsimp only
    rw [bitNumber_refreshRegister cached]
    constructor
    · rintro ⟨k, answer, register, listed, rfl, i, named, rfl⟩
      rw [bitOf_listed listed] at answer
      obtain ⟨index, last, same⟩ := Option.map_eq_some_iff.mp answer
      refine ⟨register, listed, rfl, index, last, ?_⟩
      rwa [Int.ofNat_inj.mp same]
    · rintro ⟨register, listed, rfl, index, last, named⟩
      rw [bitOf_listed listed, last]
      exact ⟨index.toNat, rfl, register, listed, rfl, index.toNat, named, rfl⟩

end Registers

theorem Lookup.exact_iff_answerable {d : CliCache.Daemon} (l : Lookup) : l.Exact d ↔ l.Answerable d := by
  obtain ⟨c, query⟩ := l
  cases query with
  | node name => exact exact_node_iff
  | register nodeId name => exact exact_register_iff
  | bit nodeId reg name => exact exact_bit_iff

/-! ## What the parser sends -/

/-- The call of the cache that a lookup is. -/
def Lookup.call (l : Lookup) : Call :=
  match l.query with
  | .node name => .getNodeIdByName name
  | .register nodeId name => .getRegisterNumberByName (.ofInt 16 nodeId) name
  | .bit nodeId reg name => .getBitNumberByName (.ofInt 16 nodeId) (.ofInt 8 reg) name

/-- The daemon is asked for the registers of a node. -/
def Lookup.Asks (l : Lookup) : Prop := l.call.refreshes? l.before ≠ none

def Lookup.IsNode (l : Lookup) : Prop := ∃ name, l.query = .node name

/-- The parameter of a request that stands for a name. -/
def Query.parameter (req : Request) : Query → Option ℤ
  | .node _ => req.nodeId
  | .register _ _ => req.reg
  | .bit _ _ _ => req.bitNum

section Lookups

variable {d : CliCache.Daemon} {s : State}

variable (d) in
/-- The request has the value of the lookup. -/
def Carries (req : Request) (l : Lookup) : Prop := l.query.parameter req = some (l.value d)

theorem getNodeIdByName_snd (name : String) :
    (s.getNodeIdByName d name).2 = Lookup.value d ⟨s.cache, .node name⟩ := by
  rw [Lookup.value, Lookup.found]
  exact (Option.getD_map (fun id : BitVec 16 => (id.toNat : ℤ)) 0xffff _).symm

theorem getRegisterNumberByName_snd (nodeId : ℤ) (name : String) :
    (s.getRegisterNumberByName d nodeId name).2 = Lookup.value d ⟨s.cache, .register nodeId name⟩ := by
  rw [Lookup.value, Lookup.found]
  exact (Option.getD_map (fun number : BitVec 16 => ((number.setWidth 8).toNat : ℤ)) 0 _).symm

theorem getBitNumberByName_snd (nodeId reg : ℤ) (name : String) :
    (s.getBitNumberByName d nodeId reg name).2 = Lookup.value d ⟨s.cache, .bit nodeId reg name⟩ := by
  rw [Lookup.value, Lookup.found]
  exact (Option.getD_map (fun number : Byte => (number.toNat : ℤ)) 0xff _).symm

/-- The number of a node is 16 bits wide, also the error value. -/
theorem exists_node_value {l : Lookup} (node : l.IsNode) : ∃ id : BitVec 16, l.value d = id.toNat := by
  obtain ⟨name, same⟩ := node
  obtain ⟨c, query⟩ := l
  subst same
  exact ⟨(c.getNodeIdByName d name).2, (@getNodeIdByName_snd d (.start c) name).symm⟩

variable (d s) in
/-- A request that the parser sends is for the list of nodes, or for the registers of the node that was named. -/
structure Told : Prop where
  sent : ∀ req, .sent req ∈ s.events → req.reg = none ∧ req.bitNum = none ∧
    (req.nodeId = none ∨ (∃ l ∈ s.lookups, l.Asks) ∧ ∀ l ∈ s.lookups, l.IsNode → Carries d req l)
  asks : ∀ l ∈ s.lookups, l.Asks →
    ∃ req, .sent req ∈ s.events ∧ ∀ l ∈ s.lookups, l.IsNode → Carries d req l

/-- Such a request stands for no other name. -/
theorem Told.carries (told : Told d s) {req : Request} (sent : .sent req ∈ s.events) {l : Lookup}
    (listed : l ∈ s.lookups) {v : ℤ} (parameter : l.query.parameter req = some v) :
    (∃ l ∈ s.lookups, l.Asks) ∧ l.IsNode ∧ Carries d req l := by
  obtain ⟨noReg, noBit, named⟩ := told.sent req sent
  cases query : l.query with
  | node name =>
    rw [query, Query.parameter] at parameter
    obtain unnamed | ⟨asks, carries⟩ := named
    · rw [unnamed] at parameter
      cases parameter
    · exact ⟨asks, ⟨name, query⟩, carries l listed ⟨name, query⟩⟩
  | register nodeId name =>
    rw [query, Query.parameter, noReg] at parameter
    cases parameter
  | bit nodeId reg name =>
    rw [query, Query.parameter, noBit] at parameter
    cases parameter

variable (d s) in
/-- Each request with these parameters has what was looked up. -/
structure Tracked (Fits : Request → Prop) : Prop extends Told d s where
  carries : ∀ req, Fits req → ∀ l ∈ s.lookups, Carries d req l

theorem tracked_start {Fits : Request → Prop} (c : CliCache) : Tracked d (.start c) Fits := by
  refine ⟨⟨fun _ sent => ?_, fun _ listed => ?_⟩, fun _ _ _ listed => ?_⟩
  · exact absurd sent List.not_mem_nil
  · exact absurd listed List.not_mem_nil
  · exact absurd listed List.not_mem_nil

theorem Told.lookedUp (told : Told d s) {query : Query} (other : ¬Lookup.IsNode ⟨s.cache, query⟩)
    {cache : CliCache} {events : List Event}
    (sent : ∀ req, .sent req ∈ events → Lookup.Asks ⟨s.cache, query⟩ ∧ req.reg = none ∧ req.bitNum = none ∧
      ∀ l ∈ s.lookups, l.IsNode → Carries d req l)
    (asks : Lookup.Asks ⟨s.cache, query⟩ → ∃ req, .sent req ∈ events) :
    Told d (s.lookedUp query cache events) := by
  have nodes {req : Request} (carries : ∀ l ∈ s.lookups, l.IsNode → Carries d req l) :
      ∀ l ∈ (s.lookedUp query cache events).lookups, l.IsNode → Carries d req l := by
    intro l member isNode
    rcases List.mem_append.mp member with old | new
    · exact carries l old isNode
    · obtain rfl := List.mem_singleton.mp new
      exact absurd isNode other
  constructor
  · intro req member
    rcases List.mem_append.mp member with old | new
    · obtain ⟨noReg, noBit, unnamed | ⟨⟨l, listed, asking⟩, carries⟩⟩ := told.sent req old
      · exact ⟨noReg, noBit, .inl unnamed⟩
      · exact ⟨noReg, noBit, .inr ⟨⟨l, List.mem_append_left _ listed, asking⟩, nodes carries⟩⟩
    · obtain ⟨asking, noReg, noBit, carries⟩ := sent req new
      have listed := List.mem_append_right s.lookups (List.mem_singleton_self (Lookup.mk s.cache query))
      exact ⟨noReg, noBit, .inr ⟨⟨_, listed, asking⟩, nodes carries⟩⟩
  · intro l member asking
    rcases List.mem_append.mp member with old | new
    · obtain ⟨req, there, carries⟩ := told.asks l old asking
      exact ⟨req, List.mem_append_left _ there, nodes carries⟩
    · obtain rfl := List.mem_singleton.mp new
      obtain ⟨req, there⟩ := asks asking
      obtain ⟨_, _, _, carries⟩ := sent req there
      exact ⟨req, List.mem_append_right _ there, nodes carries⟩

theorem mem_asked_append {call : Call} {failed : List Event} (errors : ∀ req, .sent req ∉ failed) {req : Request} :
    .sent req ∈ s.asked call ++ failed ↔ ∃ id, call.refreshes? s.cache = some id ∧
      req = { method := "get_registers_list", nodeId := some id.toNat } := by
  rw [List.mem_append, State.asked]
  cases call.refreshes? s.cache with
  | none => simp [errors]
  | some id => simp [errors]

/-- A lookup in the registers of a node: the node has the number that the requests carry. -/
theorem Tracked.asked {Fits : Request → Prop} (tracked : Tracked d s Fits) {query : Query} {nodeId : ℤ}
    (about : (Lookup.call ⟨s.cache, query⟩).node? = some (.ofInt 16 nodeId))
    (known : ∃ req, Fits req ∧ req.nodeId = some nodeId) {cache : CliCache} {failed : List Event}
    (errors : ∀ req, .sent req ∉ failed) {Narrower : Request → Prop}
    (narrower : ∀ req, Narrower req → Fits req ∧ Carries d req ⟨s.cache, query⟩) :
    Tracked d (s.lookedUp query cache (s.asked (Lookup.call ⟨s.cache, query⟩) ++ failed)) Narrower := by
  refine ⟨tracked.lookedUp ?_ ?_ ?_, ?_⟩
  · rintro ⟨name, node⟩
    rw [Lookup.call, node] at about
    cases about
  · intro req member
    obtain ⟨id, asked, rfl⟩ := (mem_asked_append errors).mp member
    obtain rfl := Call.refreshes_own about asked
    refine ⟨Option.ne_none_iff_exists'.mpr ⟨_, asked⟩, rfl, rfl, fun l listed node => ?_⟩
    obtain ⟨req, fits, numbered⟩ := known
    obtain ⟨id, value⟩ := @exists_node_value d _ node
    have carried := tracked.carries req fits l listed
    obtain ⟨name, named⟩ := node
    rw [Carries, named, Query.parameter, numbered, value] at carried
    rw [Carries, named, Query.parameter, value, Option.some_inj.mp carried]
    rw [BitVec.ofInt_natCast, BitVec.ofNat_toNat, BitVec.setWidth_eq]
  · intro asking
    obtain ⟨id, asked⟩ := Option.ne_none_iff_exists'.mp asking
    exact ⟨_, (mem_asked_append errors).mpr ⟨id, asked, rfl⟩⟩
  · intro req fits l member
    rcases List.mem_append.mp member with old | new
    · exact tracked.carries req (narrower req fits).1 l old
    · obtain rfl := List.mem_singleton.mp new
      exact (narrower req fits).2

theorem tracked_getNodeIdByName (c : CliCache) (name : String) :
    Tracked d ((State.start c).getNodeIdByName d name).1
      fun req => req.nodeId = some ((State.start c).getNodeIdByName d name).2 := by
  have only {l : Lookup} (member : l ∈ ((State.start c).getNodeIdByName d name).1.lookups) :
      l = ⟨c, .node name⟩ := List.mem_singleton.mp member
  refine ⟨⟨fun req member => ?_, fun l member asking => ?_⟩, fun req numbered l member => ?_⟩
  · change Event.sent req ∈ [] ++ (_ ++ _) at member
    rw [List.nil_append] at member
    rcases List.mem_append.mp member with asked | failed
    · split at asked
      · obtain rfl := Event.sent.inj (List.mem_singleton.mp asked)
        exact ⟨rfl, rfl, .inl rfl⟩
      · cases asked
    · split at failed <;> simp at failed
  · rw [only member] at asking
    exact absurd rfl asking
  · rw [getNodeIdByName_snd] at numbered
    rw [only member]
    exact numbered

theorem Tracked.getRegisterNumberByName {nodeId : ℤ} (tracked : Tracked d s fun req => req.nodeId = some nodeId)
    (name : String) : Tracked d (s.getRegisterNumberByName d nodeId name).1 fun req =>
      req.nodeId = some nodeId ∧ req.reg = some (s.getRegisterNumberByName d nodeId name).2 := by
  apply @Tracked.asked d s _ tracked (.register nodeId name) nodeId rfl
    ⟨{ method := "", nodeId := some nodeId }, rfl, rfl⟩
  · intro req
    split <;> simp
  · rintro req ⟨node, number⟩
    rw [getRegisterNumberByName_snd] at number
    exact ⟨node, number⟩

theorem Tracked.getBitNumberByName {nodeId reg : ℤ}
    (tracked : Tracked d s fun req => req.nodeId = some nodeId ∧ req.reg = some reg) (name : String) :
    Tracked d (s.getBitNumberByName d nodeId reg name).1 fun req => req.nodeId = some nodeId ∧
      req.reg = some reg ∧ req.bitNum = some (s.getBitNumberByName d nodeId reg name).2 := by
  apply @Tracked.asked d s _ tracked (.bit nodeId reg name) nodeId rfl
    ⟨{ method := "", nodeId := some nodeId, reg := some reg }, ⟨rfl, rfl⟩, rfl⟩
  · intro req
    split <;> simp
  · rintro req ⟨node, number, bit⟩
    rw [getBitNumberByName_snd] at bit
    exact ⟨⟨node, number⟩, bit⟩

end Lookups

section Commands

variable {d : CliCache.Daemon} {ending : Ending} {s : State} {nodeId reg : ℤ}

variable (d) in
/-- Where the line was accepted and names were looked up, it makes a request that carries their values. -/
structure Settled (p : State × Except Stop Command) : Prop where
  told : Told d p.1
  accepted : ∀ command, p.2 = .ok command →
    p.1.lookups = [] ∨ ∃ req, command = .jsonrpc req ∧ ∀ l ∈ p.1.lookups, Carries d req l

theorem Settled.carries {p : State × Except Stop Command} (settled : Settled d p) {req : Request}
    (executed : p.2 = .ok (.jsonrpc req)) {l : Lookup} (listed : l ∈ p.1.lookups) : Carries d req l := by
  obtain empty | ⟨req', same, carries⟩ := settled.accepted _ executed
  · rw [empty] at listed
    cases listed
  · obtain rfl := Command.jsonrpc.inj same
    exact carries l listed

theorem finish_eq {command accepted : Command} {rest : List Token} (eq : finish ending command rest = .ok accepted) :
    accepted = command := by
  cases rest with
  | cons => cases eq
  | nil =>
    cases ending with
    | eof => exact (Except.ok.inj eq).symm
    | _ => cases eq

section Tracked

variable {Fits : Request → Prop}

theorem Tracked.stopped (tracked : Tracked d s Fits) (e : Stop) : Settled d (s, .error e) := by
  refine ⟨tracked.toTold, ?_⟩
  intro command accepted
  cases accepted

theorem Tracked.finished (tracked : Tracked d s Fits) {req : Request} (fits : Fits req) (rest : List Token) :
    Settled d (s, finish ending (.jsonrpc req) rest) := by
  refine ⟨tracked.toTold, fun command eq => .inr ⟨req, finish_eq eq, ?_⟩⟩
  exact tracked.carries req fits

end Tracked

theorem settled_bitCommand (tracked : Tracked d s fun req => req.nodeId = some nodeId ∧ req.reg = some reg)
    (method : String) (tokens : List Token) : Settled d (bitCommand d ending method nodeId reg tokens s) := by
  rw [bitCommand]
  cases tokens.head?.bind strExp? with
  | none =>
    cases numExp ending tokens [] none with
    | error e => exact tracked.stopped e
    | ok parsed =>
      apply tracked.finished
      exact ⟨rfl, rfl⟩
  | some name => exact (tracked.getBitNumberByName name).finished ⟨rfl, rfl, rfl⟩ _

theorem settled_nodeRegCommand (tracked : Tracked d s fun req => req.nodeId = some nodeId ∧ req.reg = some reg)
    (tokens : List Token) : Settled d (nodeRegCommand d ending nodeId reg tokens s) := by
  rw [nodeRegCommand.eq_def]
  split
  · exact tracked.finished ⟨rfl, rfl⟩ _
  · exact settled_bitCommand tracked _ _
  · exact settled_bitCommand tracked _ _
  · exact settled_bitCommand tracked _ _
  · exact tracked.finished ⟨rfl, rfl⟩ _
  · next rest _ =>
    cases numExp ending rest [] none with
    | error e => exact tracked.stopped e
    | ok parsed =>
      apply tracked.finished
      exact ⟨rfl, rfl⟩
  · exact tracked.stopped _
  · exact tracked.stopped _

theorem settled_nodeRegExp (tracked : Tracked d s fun req => req.nodeId = some nodeId) (tokens : List Token) :
    Settled d (nodeRegExp d ending nodeId tokens s) := by
  rw [nodeRegExp]
  cases tokens.head?.bind strExp? with
  | some name => exact settled_nodeRegCommand (tracked.getRegisterNumberByName name) _
  | none =>
    cases numExp ending tokens [] none with
    | error e => exact tracked.stopped e
    | ok parsed =>
      -- a number is not looked up, so that any request carries what was
      have narrower : Tracked d s fun req => req.nodeId = some nodeId ∧ req.reg = some parsed.1 :=
        ⟨tracked.toTold, fun req fits => tracked.carries req fits.1⟩
      exact settled_nodeRegCommand narrower _

theorem settled_nodeCommand (tracked : Tracked d s fun req => req.nodeId = some nodeId) (tokens : List Token) :
    Settled d (nodeCommand d ending nodeId tokens s) := by
  rw [nodeCommand.eq_def]
  split
  · exact tracked.finished rfl _
  · exact tracked.finished rfl _
  · exact settled_nodeRegExp tracked _
  · exact tracked.stopped _
  · exact tracked.stopped _

theorem settled_nodeExp (c : CliCache) (tokens : List Token) : Settled d (nodeExp d ending tokens (.start c)) := by
  rw [nodeExp]
  cases tokens.head?.bind strExp? with
  | some name => exact settled_nodeCommand (tracked_getNodeIdByName c name) _
  | none =>
    cases numExp ending tokens [] none with
    | error e => exact (@tracked_start d (fun _ => True) c).stopped e
    | ok parsed => exact settled_nodeCommand (tracked_start c) _

theorem settled_parse (c : CliCache) (str : CString) : Settled d (parse d c str) := by
  have unread (result : Except Stop Command) : Settled d (.start c, result) :=
    ⟨(@tracked_start d (fun _ => True) c).toTold, fun _ _ => .inl rfl⟩
  rw [parse]
  dsimp only
  rw [unit.eq_def]
  split
  all_goals first
    | exact settled_nodeExp c _
    | exact unread _

end Commands

/-! ## Accepted lines -/

/-- The request of a line that is accepted. -/
def request? : Except Stop Command → Option Request
  | .ok (.jsonrpc req) => some req
  | _ => none

section Accepted

variable (d d' : CliCache.Daemon) (ending : Ending) (nodeId nodeId' reg reg' : ℤ) (tokens : List Token) (s s' : State)

theorem isSome_finish (req req' : Request) : (request? (finish ending (.jsonrpc req) tokens)).isSome =
    (request? (finish ending (.jsonrpc req') tokens)).isSome := by
  cases tokens with
  | cons => rfl
  | nil => cases ending <;> rfl

theorem isSome_bitCommand (method : String) :
    (request? (bitCommand d ending method nodeId reg tokens s).2).isSome =
      (request? (bitCommand d' ending method nodeId' reg' tokens s').2).isSome := by
  rw [bitCommand, bitCommand]
  cases tokens.head?.bind strExp? with
  | some name => apply isSome_finish
  | none =>
    cases numExp ending tokens [] none with
    | error e => rfl
    | ok parsed => apply isSome_finish

theorem isSome_nodeRegCommand : (request? (nodeRegCommand d ending nodeId reg tokens s).2).isSome =
    (request? (nodeRegCommand d' ending nodeId' reg' tokens s').2).isSome := by
  rw [nodeRegCommand.eq_def, nodeRegCommand.eq_def]
  split
  · apply isSome_finish
  · apply isSome_bitCommand
  · apply isSome_bitCommand
  · apply isSome_bitCommand
  · apply isSome_finish
  · next rest _ =>
    cases numExp ending rest [] none with
    | error e => rfl
    | ok parsed => apply isSome_finish
  · rfl
  · rfl

theorem isSome_nodeRegExp : (request? (nodeRegExp d ending nodeId tokens s).2).isSome =
    (request? (nodeRegExp d' ending nodeId' tokens s').2).isSome := by
  rw [nodeRegExp, nodeRegExp]
  cases tokens.head?.bind strExp? with
  | some name => apply isSome_nodeRegCommand
  | none =>
    cases numExp ending tokens [] none with
    | error e => rfl
    | ok parsed => apply isSome_nodeRegCommand

theorem isSome_nodeCommand : (request? (nodeCommand d ending nodeId tokens s).2).isSome =
    (request? (nodeCommand d' ending nodeId' tokens s').2).isSome := by
  rw [nodeCommand.eq_def, nodeCommand.eq_def]
  split
  · apply isSome_finish
  · apply isSome_finish
  · apply isSome_nodeRegExp
  · rfl
  · rfl

theorem isSome_nodeExp : (request? (nodeExp d ending tokens s).2).isSome =
    (request? (nodeExp d' ending tokens s').2).isSome := by
  rw [nodeExp, nodeExp]
  cases tokens.head?.bind strExp? with
  | some name => apply isSome_nodeCommand
  | none =>
    cases numExp ending tokens [] none with
    | error e => rfl
    | ok parsed => apply isSome_nodeCommand

/-- Whether a line is accepted does not depend on what its names are found to be. -/
theorem isSome_parse (c c' : CliCache) (str : CString) :
    (request? (parse d c str).2).isSome = (request? (parse d' c' str).2).isSome := by
  rw [parse, parse]
  dsimp only
  rw [unit.eq_def, unit.eq_def]
  split
  · rfl
  · rfl
  · rfl
  · rfl
  · rfl
  · apply isSome_nodeExp
  · rfl
  · rfl

end Accepted

/-- The line is a command that makes a request. -/
def Accepted (str : CString) : Prop := ∃ d c, (request? (parse d c str).2).isSome

theorem Accepted.request {str : CString} (accepted : Accepted str) (d : CliCache.Daemon) (c : CliCache) :
    ∃ req, (parse d c str).2 = .ok (.jsonrpc req) := by
  obtain ⟨d', c', some⟩ := accepted
  rw [isSome_parse d' d c' c] at some
  cases result : (parse d c str).2 with
  | error e =>
    rw [result] at some
    cases some
  | ok command =>
    rw [result] at some
    cases command with
    | jsonrpc req => exact ⟨req, rfl⟩
    | _ => cases some

/-! ## Lines with names -/

section Lines

variable (d : CliCache.Daemon) (c : CliCache) (str : CString)

/-- The line with a name that the daemon does not know ends in an error and is not executed, and each request has
the number that the name was found to have, which is that of an object of this name. -/
structure Right : Prop where
  unknown : ∀ l ∈ (runLine d c str).1.lookups, ¬l.query.Known d → request? (parse d c str).2 = none ∧
    ((∃ what, .error what ∈ (runLine d c str).1.events) ∨ (runLine d c str).2 ≠ none)
  carried : ∀ req, .sent req ∈ (runLine d c str).1.events → ∀ l ∈ (runLine d c str).1.lookups, ∀ v,
    l.query.parameter req = some v → ∃ k, l.found d = some k ∧ v = k ∧ l.query.Names d k

variable {d c str}

theorem lookups_runLine : (runLine d c str).1.lookups = (parse d c str).1.lookups := by
  rw [runLine]
  rcases parse d c str with ⟨s, e | command⟩
  · rfl
  · cases command <;> rfl

theorem sent_runLine {req : Request} : .sent req ∈ (runLine d c str).1.events ↔
    .sent req ∈ (parse d c str).1.events ∨ (parse d c str).2 = .ok (.jsonrpc req) := by
  rw [runLine]
  rcases parse d c str with ⟨s, e | command⟩
  · simp
  · cases command with
    | nop => simp [State.execute]
    | print n => simp [State.execute]
    | clearCache => simp [State.execute]
    | jsonrpc other =>
      simp only [State.execute, List.mem_append, List.mem_singleton, Event.sent.injEq, Except.ok.injEq,
        Command.jsonrpc.injEq]
      rw [eq_comm (a := req)]

theorem stopped_runLine {e : Stop} (stopped : (parse d c str).2 = .error e) : (runLine d c str).2 = some e := by
  rw [runLine]
  rcases parsed : parse d c str with ⟨s, result⟩
  rw [parsed] at stopped
  obtain rfl : result = .error e := stopped
  rfl

theorem Right.answerable (right : Right d c str) {req : Request}
    (sent : .sent req ∈ (parse d c str).1.events ∨ (parse d c str).2 = .ok (.jsonrpc req)) {l : Lookup}
    (listed : l ∈ (parse d c str).1.lookups) (carries : Carries d req l) : l.Answerable d := by
  rw [← lookups_runLine] at listed
  obtain ⟨k, found, _, names⟩ := right.carried req (sent_runLine.mpr sent) l listed _ carries
  exact l.exact_iff_answerable.mp ⟨k, found, names⟩

theorem found_of_carries {req : Request} {l : Lookup} (carries : Carries d req l)
    (answerable : l.Answerable d) {v : ℤ} (parameter : l.query.parameter req = some v) :
    ∃ k, l.found d = some k ∧ v = k ∧ l.query.Names d k := by
  obtain ⟨k, found, names⟩ := l.exact_iff_answerable.mpr answerable
  refine ⟨k, found, ?_, names⟩
  rw [Carries, parameter, Lookup.value, found] at carries
  exact Option.some_inj.mp carries

/-- A line with a name is executed, or it is not accepted. -/
theorem accepted_or_stopped {l : Lookup} (listed : l ∈ (parse d c str).1.lookups) :
    Accepted str ∨ request? (parse d c str).2 = none ∧ (runLine d c str).2 ≠ none := by
  cases result : (parse d c str).2 with
  | error e =>
    rw [stopped_runLine result]
    exact .inr ⟨rfl, Option.some_ne_none e⟩
  | ok command =>
    obtain empty | ⟨req, rfl, _⟩ := (settled_parse c str).accepted command result
    · rw [empty] at listed
      cases listed
    · refine .inl ⟨d, c, ?_⟩
      rw [result]
      rfl

/-- A line of names is right exactly when, if it is accepted, the cache and the daemon have the right answer for
each name, and if the registers of a node are asked for, for the name of the node. -/
theorem right_iff_answerable (d : CliCache.Daemon) (c : CliCache) (str : CString) : Right d c str ↔
    (Accepted str → ∀ l ∈ (runLine d c str).1.lookups, l.Answerable d) ∧
    ((∃ l ∈ (runLine d c str).1.lookups, l.Asks) →
      ∀ l ∈ (runLine d c str).1.lookups, l.IsNode → l.Answerable d) := by
  have settled := settled_parse (d := d) c str
  rw [lookups_runLine]
  constructor
  · intro right
    constructor
    · intro accepted l listed
      obtain ⟨req, executed⟩ := accepted.request d c
      exact right.answerable (.inr executed) listed (settled.carries executed listed)
    · rintro ⟨asking, there, asks⟩ l listed node
      obtain ⟨req, sent, carries⟩ := settled.told.asks asking there asks
      exact right.answerable (.inl sent) listed (carries l listed node)
  · rintro ⟨complete, refreshing⟩
    constructor
    · intro l listed unknown
      rw [lookups_runLine] at listed
      obtain accepted | ⟨none, stopped⟩ := accepted_or_stopped listed
      · obtain ⟨k, _, names⟩ := l.exact_iff_answerable.mpr (complete accepted l listed)
        exact absurd ⟨k, names⟩ unknown
      · exact ⟨none, .inr stopped⟩
    · intro req sent l listed v parameter
      rw [lookups_runLine] at listed
      rcases sent_runLine.mp sent with asked | executed
      · obtain ⟨asks, node, carries⟩ := settled.told.carries asked listed parameter
        exact found_of_carries carries (refreshing asks l listed node) parameter
      · have accepted : Accepted str := ⟨d, c, by rw [executed]; rfl⟩
        exact found_of_carries (settled.carries executed listed) (complete accepted l listed) parameter

/-- Without nodes. -/
def nodeless : CliCache.Daemon := ⟨some [], some [], fun _ => none, fun _ => none⟩

def resetBar : CString := ⟨"node bar reset".toList, by decide⟩

theorem scan_resetBar :
    scan resetBar = ([.literal .node, .string ['b', 'a', 'r'], .literal .reset], .eof) := by
  have node : next "node bar reset".toList = some (.token (.literal .node), " bar reset".toList) := by decide
  have blank : next " bar reset".toList = some (.skip, "bar reset".toList) := by decide
  have bar : next "bar reset".toList = some (.token (.string ['b', 'a', 'r']), " reset".toList) := by decide
  have blank' : next " reset".toList = some (.skip, "reset".toList) := by decide
  have reset : next "reset".toList = some (.token (.literal .reset), []) := by decide
  change scanFrom 14 "node bar reset".toList = _
  rw [scanFrom, node, continueScan, scanFrom, blank, continueScan, scanFrom, bar, continueScan, scanFrom, blank',
    continueScan, scanFrom, reset, continueScan]
  rfl

theorem parse_resetBar : parse nodeless CliCache.new resetBar =
    ((State.start CliCache.new).getNodeIdByName nodeless (.ofList ['b', 'a', 'r']) |>.1,
      .ok (.jsonrpc { method := "node_reset", nodeId := some 0xffff })) := by
  rw [parse, scan_resetBar]
  rfl

/-- The node 65535 is reset for a node that the daemon does not know. -/
theorem not_right_unknown : ¬Right nodeless CliCache.new resetBar := by
  intro right
  have unknown : ¬(Query.node (.ofList ['b', 'a', 'r'])).Known nodeless := by
    rintro ⟨_, id, listed, _⟩
    cases listed
  have refused := (right.unknown ⟨CliCache.new, .node (.ofList ['b', 'a', 'r'])⟩
    (by rw [lookups_runLine, parse_resetBar]; exact List.mem_singleton_self _) unknown).1
  rw [parse_resetBar] at refused
  cases refused

end Lines

end H9d.CliParser
