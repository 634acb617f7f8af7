import H9d.Soundness.CounterTree

/-! # Places in the tree of counters

A path is read through members and through the one entry that its token chooses. Where the tree has room
for a path, the value put at its end is read there, and paths that part from it keep what they had.
-/

namespace H9d.MetricsCollector

open Nlohmann

section Members

theorem lookup_setMember_self (key : String) (value : Json) (members : List (String × Json)) :
    (setMember key value members).lookup key = some value := by
  induction members with
  | nil => simp [setMember]
  | cons member members ih =>
    obtain ⟨k, v⟩ := member
    rw [setMember]
    split
    · next same => simp [same]
    · next other =>
      split
      · simp
      · rw [List.lookup_cons, beq_eq_false_iff_ne.mpr other]
        exact ih

theorem lookup_setMember_other {key key' : String} (other : key' ≠ key) (value : Json)
    (members : List (String × Json)) : (setMember key value members).lookup key' = members.lookup key' := by
  induction members with
  | nil => simp [setMember, other]
  | cons member members ih =>
    obtain ⟨k, v⟩ := member
    rw [setMember]
    split
    · next same => simp [← same, List.lookup_cons, beq_eq_false_iff_ne.mpr other]
    · split
      · rw [List.lookup_cons, beq_eq_false_iff_ne.mpr other]
      · rw [List.lookup_cons, List.lookup_cons, ih]

theorem mem_setMember {key : String} {value : Json} {members : List (String × Json)} {member : String × Json}
    (listed : member ∈ setMember key value members) : member = (key, value) ∨ member ∈ members := by
  induction members with
  | nil =>
    rw [setMember, List.mem_singleton] at listed
    exact .inl listed
  | cons first members ih =>
    obtain ⟨k, v⟩ := first
    rw [setMember] at listed
    split at listed
    · next same =>
      rcases List.mem_cons.mp listed with rfl | later
      · exact .inl (same ▸ rfl)
      · exact .inr (List.mem_cons_of_mem _ later)
    · split at listed
      · rcases List.mem_cons.mp listed with rfl | later
        · exact .inl rfl
        · exact .inr later
      · rcases List.mem_cons.mp listed with rfl | later
        · exact .inr List.mem_cons_self
        · exact (ih later).imp_right (List.mem_cons_of_mem _)

/-- A place for a member sets it, and an absent one was null. -/
theorem memberPlace_eq (tag : String) {j : Json} (branches : Branches j) :
    memberPlace tag j = .ok ⟨(j.members.lookup tag).getD .null, fun v => .object (setMember tag v j.members)⟩ := by
  rcases branches with rfl | ⟨members, rfl⟩
  · rfl
  · rfl

theorem isEntry_inj {arg first second : String} {k : Json} (isFirst : isEntry arg first k = true)
    (isSecond : isEntry arg second k = true) : first = second := by
  rw [isEntry] at isFirst isSecond
  split at isFirst
  · next s found =>
    rw [found] at isSecond
    exact (eq_of_beq isFirst).symm.trans (eq_of_beq isSecond)
  · exact nomatch isFirst

theorem isEntry_iff {arg argValue : String} {k : Json} :
    isEntry arg argValue k = true ↔ k.members.lookup arg = some (.string argValue) := by
  rw [isEntry]
  split
  · next s found => simp [found]
  · next other =>
    constructor
    · exact nofun
    · intro found
      exact absurd found (other argValue)

end Members

def Token.tag : Token → String
  | .member tag => tag
  | .entry tag _ _ => tag

/-- What a place has when nothing was there. -/
def Token.fresh : Token → Json
  | .member _ => .null
  | .entry _ arg argValue => .object [(arg, .string argValue)]

/-- The entries of a member that is an array. -/
def entriesOf : Option Json → List Json
  | some (.array elems) => elems
  | _ => []

/-- The one entry with that value. -/
def theEntry (arg argValue : String) (elems : List Json) : Option Json :=
  match elems.filter (isEntry arg argValue) with
  | [k] => some k
  | _ => none

def Token.read (j : Json) : Token → Option Json
  | .member tag => j.members.lookup tag
  | .entry tag arg argValue => theEntry arg argValue (entriesOf (j.members.lookup tag))

def readPath : List Token → Json → Option Json
  | [], j => some j
  | t :: ts, j => (t.read j).bind (readPath ts)

def Token.next (j : Json) (t : Token) : Json := (t.read j).getD t.fresh

/-- There is no array yet, or it has the entry once at most. -/
def HasRoom (arg argValue : String) (child : Json) : Prop :=
  child = .null ∨ ∃ elems, child = .array elems ∧ (elems.filter (isEntry arg argValue)).length ≤ 1

def Token.Room (j : Json) : Token → Prop
  | .member _ => Branches j
  | .entry tag arg argValue => Branches j ∧ HasRoom arg argValue ((j.members.lookup tag).getD .null)

def PathRoom : List Token → Json → Prop
  | [], _ => True
  | t :: ts, j => t.Room j ∧ PathRoom ts (t.next j)

/-- A value that may stand at the place: an entry keeps the member that it was chosen by. -/
def Token.Accepts (v : Json) : Token → Prop
  | .member _ => True
  | .entry _ arg argValue => isEntry arg argValue v = true

/-- Places of which neither is inside of the other. -/
def Apart (t t' : Token) : Prop :=
  t.tag ≠ t'.tag ∨ ∃ tag arg v v', t = .entry tag arg v ∧ t' = .entry tag arg v' ∧ v ≠ v'

/-- The paths part at some token. -/
def Diverge : List Token → List Token → Prop
  | t :: ts, t' :: ts' => Apart t t' ∨ t = t' ∧ Diverge ts ts'
  | _, _ => False

/-- Below an entry the path goes on, and not into the member that the entry is chosen by. -/
def Safe : List Token → Prop
  | [] => True
  | [t] => ∀ tag arg v, t ≠ .entry tag arg v
  | t :: t' :: ts => (∀ tag arg v, t = .entry tag arg v → t'.tag ≠ arg) ∧ Safe (t' :: ts)

theorem Apart.symm {t t' : Token} (apart : Apart t t') : Apart t' t := by
  rcases apart with tags | ⟨tag, arg, v, v', rfl, rfl, values⟩
  · exact .inl tags.symm
  · exact .inr ⟨tag, arg, v', v, rfl, rfl, values.symm⟩

theorem Diverge.symm {ts ts' : List Token} (diverge : Diverge ts ts') : Diverge ts' ts := by
  induction ts generalizing ts' with
  | nil => exact diverge.elim
  | cons t ts ih =>
    cases ts' with
    | nil => exact diverge.elim
    | cons t' ts' =>
      rcases diverge with apart | ⟨rfl, later⟩
      · exact .inl apart.symm
      · exact .inr ⟨rfl, ih later⟩

section Places

variable {arg argValue : String} {elems : List Json}

theorem theEntry_eq {k : Json} (one : elems.filter (isEntry arg argValue) = [k]) :
    theEntry arg argValue elems = some k := by
  rw [theEntry, one]

theorem theEntry_none (absent : elems.filter (isEntry arg argValue) = []) : theEntry arg argValue elems = none := by
  rw [theEntry, absent]

/-- An entry is exchanged for another one with the same value: it stays the only one, and those with other
values stay. -/
theorem filter_exchange {before after : List Json} {k v : Json} (found : isEntry arg argValue k = true)
    (accepted : isEntry arg argValue v = true)
    (one : ((before ++ k :: after).filter (isEntry arg argValue)).length ≤ 1) :
    (before ++ k :: after).filter (isEntry arg argValue) = [k] ∧
      (before ++ v :: after).filter (isEntry arg argValue) = [v] ∧
      ∀ other, argValue ≠ other →
        (before ++ v :: after).filter (isEntry arg other) = (before ++ k :: after).filter (isEntry arg other) := by
  rw [List.filter_append, List.filter_cons_of_pos found, List.length_append, List.length_cons] at one
  have none_before : before.filter (isEntry arg argValue) = [] := List.eq_nil_of_length_eq_zero (by omega)
  have none_after : after.filter (isEntry arg argValue) = [] := List.eq_nil_of_length_eq_zero (by omega)
  refine ⟨?_, ?_, ?_⟩
  · rw [List.filter_append, List.filter_cons_of_pos found, none_before, none_after, List.nil_append]
  · rw [List.filter_append, List.filter_cons_of_pos accepted, none_before, none_after, List.nil_append]
  · intro other values
    have notOld : ¬isEntry arg other k = true := fun isOther => values (isEntry_inj found isOther)
    have notNew : ¬isEntry arg other v = true := fun isOther => values (isEntry_inj accepted isOther)
    rw [List.filter_append, List.filter_append, List.filter_cons_of_neg notOld, List.filter_cons_of_neg notNew]

/-- The place of an entry holds what is read there, and a value that is put there becomes the only entry of
its value. -/
theorem entryPlace_room {child : Json} (room : HasRoom arg argValue child) :
    ∃ place, entryPlace arg argValue child = .ok place ∧
      place.child = (theEntry arg argValue (entriesOf (some child))).getD (.object [(arg, .string argValue)]) ∧
      ∀ v, isEntry arg argValue v = true → ∃ elems, place.put v = .array elems ∧
        elems.filter (isEntry arg argValue) = [v] ∧
        ∀ other, argValue ≠ other →
          elems.filter (isEntry arg other) = (entriesOf (some child)).filter (isEntry arg other) := by
  have excluded {v : Json} (accepted : isEntry arg argValue v = true) {other : String} (values : argValue ≠ other) :
      ¬isEntry arg other v = true := fun isOther => values (isEntry_inj accepted isOther)
  rcases room with rfl | ⟨elems, rfl, one⟩
  · refine ⟨_, rfl, rfl, ?_⟩
    intro v accepted
    refine ⟨[v], rfl, List.filter_cons_of_pos accepted, ?_⟩
    intro other values
    rw [List.filter_cons_of_neg (excluded accepted values)]
    rfl
  · rw [entryPlace, entriesOf]
    cases index : elems.findIdx? (isEntry arg argValue) with
    | none =>
      have absent : elems.filter (isEntry arg argValue) = [] := by
        rw [List.filter_eq_nil_iff]
        simpa using List.findIdx?_eq_none_iff.mp index
      refine ⟨_, rfl, ?_, ?_⟩
      · rw [theEntry_none absent, Option.getD_none]
      · intro v accepted
        refine ⟨elems ++ [v], rfl, ?_, ?_⟩
        · rw [List.filter_append, absent, List.filter_cons_of_pos accepted]
          rfl
        · intro other values
          rw [List.filter_append, List.filter_cons_of_neg (excluded accepted values), List.filter_nil,
            List.append_nil]
    | some i =>
      obtain ⟨bound, found, _⟩ := List.findIdx?_eq_some_iff_getElem.mp index
      have parts : elems = elems.take i ++ elems[i] :: elems.drop (i + 1) := by simp
      rw [parts] at one
      have exchange {v : Json} (accepted : isEntry arg argValue v = true) := filter_exchange found accepted one
      rw [← parts] at exchange
      refine ⟨_, rfl, ?_, ?_⟩
      · rw [theEntry_eq (exchange found).1, Option.getD_some]
        simp [List.getD_eq_getElem?_getD, bound]
      · intro v accepted
        have set : elems.set i v = elems.take i ++ v :: elems.drop (i + 1) :=
          List.set_eq_take_append_cons_drop.trans (if_pos bound)
        refine ⟨elems.set i v, rfl, ?_, ?_⟩
        · rw [set]
          exact (exchange accepted).2.1
        · intro other values
          rw [set]
          exact (exchange accepted).2.2 other values

end Places

section Tokens

variable {t t' : Token} {j j' : Json}

theorem Token.Room.branches (room : t.Room j) : Branches j := by
  cases t with
  | member tag => exact room
  | entry tag arg argValue => exact room.1

/-- What is read depends on the member alone. -/
theorem Token.read_congr (same : j'.members.lookup t.tag = j.members.lookup t.tag) : t.read j' = t.read j := by
  cases t with
  | member tag => exact same
  | entry tag arg argValue => exact congrArg (fun child => theEntry arg argValue (entriesOf child)) same

theorem Token.Room.congr (branches : Branches j') (same : j'.members.lookup t.tag = j.members.lookup t.tag)
    (room : t.Room j) : t.Room j' := by
  cases t with
  | member tag => exact branches
  | entry tag arg argValue =>
    refine ⟨branches, ?_⟩
    have child : j'.members.lookup tag = j.members.lookup tag := same
    rw [child]
    exact room.2

theorem entriesOf_getD (child : Option Json) : entriesOf (some (child.getD .null)) = entriesOf child := by
  cases child with
  | none => rfl
  | some k => rfl

/-- The place of a token: it holds what is read, a value that is put there is read again, and what is apart
from it is not changed. -/
theorem place_room (room : t.Room j) :
    ∃ place, t.place j = .ok place ∧ place.child = t.next j ∧
      ∀ v, t.Accepts v → t.read (place.put v) = some v ∧ t.Room (place.put v) ∧
        ∀ t', Apart t t' → t'.Room j → t'.Room (place.put v) ∧ t'.read (place.put v) = t'.read j := by
  cases t with
  | member tag =>
    refine ⟨_, memberPlace_eq tag room.branches, rfl, ?_⟩
    intro v _
    refine ⟨lookup_setMember_self tag v j.members, .inr ⟨_, rfl⟩, ?_⟩
    intro t' apart roomy
    have tags : t'.tag ≠ tag := by
      rcases apart with tags | ⟨_, _, _, _, same, _⟩
      · exact tags.symm
      · exact nomatch same
    have same := lookup_setMember_other tags v j.members
    exact ⟨roomy.congr (.inr ⟨_, rfl⟩) same, Token.read_congr same⟩
  | entry tag arg argValue =>
    have outer := memberPlace_eq tag room.branches
    obtain ⟨inner, found, child, put⟩ := entryPlace_room room.2
    rw [entriesOf_getD] at child put
    refine ⟨⟨inner.child, fun v => .object (setMember tag (inner.put v) j.members)⟩, ?_, child, ?_⟩
    · rw [Token.place, outer, ok_bind, found, ok_bind]
      rfl
    · intro v accepted
      obtain ⟨elems, array, one, others⟩ := put v accepted
      have self : (setMember tag (inner.put v) j.members).lookup tag = some (.array elems) := by
        rw [lookup_setMember_self, array]
      refine ⟨?_, ⟨.inr ⟨_, rfl⟩, ?_⟩, ?_⟩
      · change theEntry arg argValue (entriesOf ((setMember tag (inner.put v) j.members).lookup tag)) = _
        rw [self]
        exact theEntry_eq one
      · change HasRoom arg argValue (((setMember tag (inner.put v) j.members).lookup tag).getD .null)
        rw [self]
        exact .inr ⟨elems, rfl, by rw [one]; rfl⟩
      · intro t' apart roomy
        rcases apart with tags | ⟨_, _, _, other, same, rfl, values⟩
        · have same := lookup_setMember_other tags.symm (inner.put v) j.members
          exact ⟨roomy.congr (.inr ⟨_, rfl⟩) same, Token.read_congr same⟩
        · cases same
          have kept := others other values
          constructor
          · refine ⟨.inr ⟨_, rfl⟩, ?_⟩
            change HasRoom arg other (((setMember tag (inner.put v) j.members).lookup tag).getD .null)
            rw [self]
            refine .inr ⟨elems, rfl, ?_⟩
            rw [kept]
            rcases roomy.2 with null | ⟨old, array', one'⟩
            · rw [← entriesOf_getD, null]
              exact Nat.zero_le 1
            · rw [← entriesOf_getD, array']
              exact one'
          · change theEntry arg other (entriesOf ((setMember tag (inner.put v) j.members).lookup tag)) = _
            rw [self, Token.read, theEntry, theEntry, ← kept]
            rfl

end Tokens

section Insert

variable {value : BitVec 64} {ts : List Token}

/-- Below a place that has room, the fresh value of the place has room for the rest. -/
theorem pathRoom_of_absent {j : Json} (safe : Safe ts) (branches : Branches j)
    (absent : ∀ t ∈ ts.head?, j.members.lookup t.tag = none) : PathRoom ts j := by
  induction ts generalizing j with
  | nil => trivial
  | cons t ts ih =>
    have nothing : j.members.lookup t.tag = none := absent t rfl
    have unread : t.read j = none := by
      cases t with
      | member tag => exact nothing
      | entry tag arg argValue =>
        have child : j.members.lookup tag = none := nothing
        rw [Token.read, child]
        rfl
    have roomy : t.Room j := by
      cases t with
      | member tag => exact branches
      | entry tag arg argValue =>
        have child : j.members.lookup tag = none := nothing
        refine ⟨branches, ?_⟩
        rw [child]
        exact .inl rfl
    refine ⟨roomy, ?_⟩
    rw [Token.next, unread, Option.getD_none]
    cases ts with
    | nil => trivial
    | cons t' ts =>
      apply ih safe.2
      · cases t with
        | member tag => exact .inl rfl
        | entry tag arg argValue => exact .inr ⟨_, rfl⟩
      · rintro _ ⟨⟩
        cases t with
        | member tag => rfl
        | entry tag arg argValue =>
          have tags := safe.1 tag arg argValue rfl
          simp [Token.fresh, Json.members, List.lookup_cons, beq_eq_false_iff_ne.mpr tags]

/-- An entry that is gone into keeps the member that it was chosen by. -/
theorem next_accepted (t : Token) (j : Json) : t.Accepts (t.next j) := by
  cases t with
  | member tag => trivial
  | entry tag arg argValue =>
    change isEntry arg argValue ((theEntry arg argValue (entriesOf (j.members.lookup tag))).getD _) = true
    rw [theEntry]
    split
    · next k one =>
      have listed : k ∈ [k] := List.mem_cons_self
      rw [← one] at listed
      exact (List.mem_filter.mp listed).2
    · rw [isEntry_iff]
      simp [Token.fresh, Json.members]

/-- One counter is put at its place: it is read there, and a path that parts from its path keeps its room
and its value. The induction follows the path into the tree. -/
theorem insert_room (safe : Safe ts) {j : Json} (room : PathRoom ts j) :
    ∃ next, insert value ts j = .ok next ∧ PathRoom ts next ∧
      readPath ts next = some (.numberUnsigned value) ∧
      ∀ ts', Diverge ts ts' → PathRoom ts' j →
        PathRoom ts' next ∧ ∀ v, readPath ts' j = some v → readPath ts' next = some v := by
  induction ts generalizing j with
  | nil => exact ⟨_, rfl, trivial, rfl, fun _ diverge => diverge.elim⟩
  | cons t ts ih =>
    obtain ⟨place, found, child, put⟩ := place_room room.1
    have below : Safe ts := by
      cases ts with
      | nil => trivial
      | cons t' ts => exact safe.2
    obtain ⟨next, inserted, again, value', others⟩ := ih below room.2
    have accepted : t.Accepts next := by
      cases t with
      | member tag => trivial
      | entry tag arg argValue =>
        cases ts with
        | nil => exact absurd rfl (safe tag arg argValue)
        | cons t' ts =>
          have tags := safe.1 tag arg argValue rfl
          have chosen := isEntry_iff.mp (next_accepted (.entry tag arg argValue) j)
          have kept := (others [.member arg] (.inl (.inl tags)) ⟨room.2.1.branches, trivial⟩).2
            (.string argValue)
          simp only [readPath, Token.read, Option.bind_fun_some, chosen, true_implies] at kept
          exact isEntry_iff.mpr kept
    obtain ⟨read, roomy, apart⟩ := put next accepted
    have into : t.next (place.put next) = next := by rw [Token.next, read, Option.getD_some]
    refine ⟨place.put next, ?_, ⟨roomy, ?_⟩, ?_, ?_⟩
    · rw [insert, found, ok_bind, child, inserted, ok_bind]
      rfl
    · rwa [into]
    · rw [readPath, read, Option.bind_some, value']
    · rintro (_ | ⟨t', ts'⟩) diverge room'
      · exact diverge.elim
      · rcases diverge with parts | ⟨rfl, later⟩
        · obtain ⟨roomy', same⟩ := apart t' parts room'.1
          have next' : t'.next (place.put next) = t'.next j := congrArg (Option.getD · t'.fresh) same
          refine ⟨⟨roomy', ?_⟩, ?_⟩
          · rw [next']
            exact room'.2
          · intro v
            rw [readPath, readPath, same]
            exact id
        · obtain ⟨again', kept⟩ := others ts' later room'.2
          refine ⟨⟨roomy, ?_⟩, ?_⟩
          · rwa [into]
          · intro v
            rw [readPath, readPath, read, Option.bind_some]
            intro old
            obtain ⟨k, there, old⟩ := Option.bind_eq_some_iff.mp old
            apply kept
            rw [Token.next, there]
            exact old

/-- Counters whose paths part from each other are all found in the end, and so is what stood on a path that
parts from all of them. -/
theorem foldlM_room {counters : List (String × BitVec 64)} (safe : ∀ c ∈ counters, Safe (tokens c.1))
    (apart : counters.Pairwise fun c c' => Diverge (tokens c.1) (tokens c'.1)) {j : Json}
    (room : ∀ c ∈ counters, PathRoom (tokens c.1) j) :
    ∃ next, counters.foldlM (fun j (name, value) => insert value (tokens name) j) j = .ok next ∧
      (∀ c ∈ counters, readPath (tokens c.1) next = some (.numberUnsigned c.2)) ∧
      ∀ ts, (∀ c ∈ counters, Diverge (tokens c.1) ts) → PathRoom ts j →
        ∀ v, readPath ts j = some v → readPath ts next = some v := by
  induction counters generalizing j with
  | nil => exact ⟨j, rfl, nofun, fun _ _ _ _ => id⟩
  | cons counter counters ih =>
    obtain ⟨name, value⟩ := counter
    obtain ⟨first, later⟩ := List.pairwise_cons.mp apart
    obtain ⟨middle, inserted, again, placed, others⟩ :=
      @insert_room value _ (safe _ List.mem_cons_self) _ (room _ List.mem_cons_self)
    obtain ⟨next, folded, found, kept⟩ := @ih (fun c listed => safe c (List.mem_cons_of_mem _ listed)) later middle
      fun c listed => (others _ (first c listed) (room c (List.mem_cons_of_mem _ listed))).1
    refine ⟨next, ?_, ?_, ?_⟩
    · rw [List.foldlM_cons]
      change insert value (tokens name) j >>= _ = _
      rw [inserted, ok_bind]
      exact folded
    · intro c listed
      rcases List.mem_cons.mp listed with rfl | tail
      · exact kept (tokens name) (fun c tail => (first c tail).symm) again _ placed
      · exact found c tail
    · intro ts parts roomy v old
      obtain ⟨roomy', old'⟩ := others ts (parts _ List.mem_cons_self) roomy
      exact kept ts (fun c tail => parts c (List.mem_cons_of_mem _ tail)) roomy' v (old' v old)

end Insert

end H9d.MetricsCollector
