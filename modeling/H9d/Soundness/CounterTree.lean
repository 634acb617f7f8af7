import H9d.Model.MetricsCollector

/-! # When the counters fit one value

A path goes through objects, and through arrays where a token chooses an entry. A null on the way
becomes what is needed; every other kind of value ends the path with an exception.
-/

namespace H9d.MetricsCollector

open Nlohmann

/-- A value that can be given a member. -/
def Branches (j : Json) : Prop := j = .null ∨ ∃ members, j = .object members

/-- A value in which an entry is found, or can be made. -/
def Chooses (arg argValue : String) (j : Json) : Prop :=
  j = .null ∨ (∃ elems, j = .array elems) ∨
    ∃ members, j = .object members ∧ ∃ member ∈ members, isEntry arg argValue member.2 = true

/-- The value has a place for the token. -/
def Token.Fits (j : Json) : Token → Prop
  | .member _ => Branches j
  | .entry tag arg argValue => Branches j ∧ Chooses arg argValue ((j.members.lookup tag).getD .null)

/-- Every token of a path meets a value that has a place for it. -/
def PathFits : List Token → Json → Prop
  | [], _ => True
  | t :: ts, j => t.Fits j ∧ ∀ place, t.place j = .ok place → PathFits ts place.child

/-- The counters have room in a value, one after the other. -/
def CountersFit : List (String × BitVec 64) → Json → Prop
  | [], _ => True
  | (name, value) :: rest, j =>
      PathFits (tokens name) j ∧ ∀ next, insert value (tokens name) j = .ok next → CountersFit rest next

theorem memberPlace_ok (tag : String) (j : Json) :
    (∃ place, memberPlace tag j = .ok place) ↔ Branches j := by
  cases j <;> simp [memberPlace, Branches]

theorem memberPlace_child {tag : String} {j : Json} {place : Place} (ok : memberPlace tag j = .ok place) :
    place.child = (j.members.lookup tag).getD .null := by
  cases j <;> cases ok <;> rfl

theorem entryPlace_ok (arg argValue : String) (j : Json) :
    (∃ place, entryPlace arg argValue j = .ok place) ↔ Chooses arg argValue j := by
  cases j with
  | array elems =>
    refine iff_of_true ?_ (.inr (.inl ⟨elems, rfl⟩))
    rw [entryPlace]
    split <;> exact ⟨_, rfl⟩
  | object members =>
    rw [entryPlace, Chooses]
    cases found : members.find? (isEntry arg argValue ·.2) with
    | none => simpa using fun key k => List.find?_eq_none.mp found (key, k)
    | some member =>
      refine iff_of_true ⟨_, rfl⟩ (.inr (.inr ⟨members, rfl, member, ?_, ?_⟩))
      · exact List.mem_of_find?_eq_some found
      · exact List.find?_some (p := fun member : String × Json => isEntry arg argValue member.2) found
  | null | boolean | string | numberInteger | numberUnsigned | numberFloat =>
    simp [entryPlace, Chooses]

theorem place_ok (t : Token) (j : Json) : (∃ place, t.place j = .ok place) ↔ t.Fits j := by
  cases t with
  | member tag => exact memberPlace_ok tag j
  | entry tag arg argValue =>
    rw [Token.place, Token.Fits, ← memberPlace_ok tag j]
    cases outer : memberPlace tag j with
    | error e => simp [error_bind]
    | ok place =>
      rw [← memberPlace_child outer, ← entryPlace_ok, ok_bind]
      cases entryPlace arg argValue place.child with
      | error e => simp
      | ok _ => simp [ok_bind, pure, Except.pure]

theorem insert_ok (value : BitVec 64) (ts : List Token) (j : Json) :
    (∃ next, insert value ts j = .ok next) ↔ PathFits ts j := by
  induction ts generalizing j with
  | nil => simp [insert, PathFits]
  | cons t ts ih =>
    rw [insert, PathFits, ← place_ok]
    cases t.place j with
    | error e => simp [error_bind]
    | ok place =>
      simp only [ok_bind, Except.ok.injEq, exists_eq', forall_eq', true_and]
      rw [← ih]
      cases insert value ts place.child with
      | error e => simp
      | ok next => simp [ok_bind, pure, Except.pure]

theorem metricsToJson_ok (uptime : BitVec 64) (counterMap : List (String × BitVec 64)) :
    (∃ j, metricsToJson uptime counterMap = .ok j) ↔
      CountersFit counterMap (.object [("uptime", .numberInteger uptime)]) := by
  rw [metricsToJson]
  generalize Json.object [("uptime", .numberInteger uptime)] = j
  induction counterMap generalizing j with
  | nil => exact iff_of_true ⟨j, rfl⟩ trivial
  | cons counter rest ih =>
    obtain ⟨name, value⟩ := counter
    rw [List.foldlM_cons, CountersFit, ← insert_ok value]
    dsimp only
    cases insert value (tokens name) j with
    | error e => simp [error_bind]
    | ok next =>
      rw [ok_bind, ih next]
      simp

end H9d.MetricsCollector
