import Mathlib.Data.List.Basic
import Mathlib.Logic.Function.Basic

/-! # Arrays of pointers

An array holds pointers to objects that are made one after the other, and no two entries hold the same one.
So an object is changed through its entry only, and an entry that has an object keeps it.
-/

/-- The objects in the order in which they were made; a pointer is the place of an object. -/
structure PointerArray (Index Object : Type*) where
  objects : List Object
  pointers : Index → Option ℕ
  inside : ∀ i p, pointers i = some p → p < objects.length
  distinct : ∀ i j p, pointers i = some p → pointers j = some p → i = j

namespace PointerArray

variable {Index Object : Type*}

def empty : PointerArray Index Object where
  objects := []
  pointers := fun _ => none
  inside := fun _ _ => nofun
  distinct := fun _ _ _ => nofun

/-- The object of an entry. -/
def get? (a : PointerArray Index Object) (i : Index) : Option Object := (a.pointers i).bind (a.objects[·]?)

/-- The object of an entry is changed where it is. -/
def modify (a : PointerArray Index Object) (i : Index) (f : Object → Object) : PointerArray Index Object where
  objects := match a.pointers i with
    | some p => a.objects.modify p f
    | none => a.objects
  pointers := a.pointers
  inside j p found := by
    cases a.pointers i with
    | some q => exact Nat.lt_of_lt_of_eq (a.inside j p found) (List.length_modify ..).symm
    | none => exact a.inside j p found
  distinct := a.distinct

/-- Each of some entries is changed. -/
def modifyEach (a : PointerArray Index Object) (f : Object → Object) (indices : List Index) :
    PointerArray Index Object :=
  indices.foldl (fun a i => a.modify i f) a

/-- All entries keep their objects. -/
def Extends (a b : PointerArray Index Object) : Prop := ∀ i p, a.pointers i = some p → b.pointers i = some p

section Ensure

variable [DecidableEq Index]

/-- A new object for an entry that has none. -/
def ensure (a : PointerArray Index Object) (i : Index) (make : Object) : PointerArray Index Object :=
  match free : a.pointers i with
  | some _ => a
  | none =>
    { objects := a.objects ++ [make]
      pointers := Function.update a.pointers i (some a.objects.length)
      inside := by
        intro j p found
        rw [List.length_append, List.length_singleton]
        rw [Function.update_apply] at found
        split at found
        · cases found
          exact Nat.lt_succ_self _
        · exact Nat.lt_succ_of_lt (a.inside j p found)
      distinct := by
        intro j k p first second
        rw [Function.update_apply] at first second
        split at first <;> split at second
        · next here here' => exact here.trans here'.symm
        · cases first
          exact absurd (a.inside k _ second) (Nat.lt_irrefl _)
        · cases second
          exact absurd (a.inside j _ first) (Nat.lt_irrefl _)
        · exact a.distinct j k p first second }

end Ensure

variable {a b c : PointerArray Index Object} {i j : Index} {make : Object} {f : Object → Object}

section Get

/-- An entry with a pointer has an object. -/
theorem get?_eq_none_iff : a.get? i = none ↔ a.pointers i = none := by
  rw [get?]
  cases found : a.pointers i with
  | none => exact iff_of_true rfl rfl
  | some p =>
    have inside := a.inside i p found
    rw [Option.bind_some, List.getElem?_eq_getElem inside]
    exact iff_of_false (by rintro ⟨⟩) (by rintro ⟨⟩)

theorem get?_modify_self : (a.modify i f).get? i = (a.get? i).map f := by
  rw [get?, get?, modify]
  dsimp only
  cases a.pointers i with
  | none => rfl
  | some p =>
    rw [Option.bind_some, Option.bind_some, List.getElem?_modify_eq]
    rfl

theorem get?_modify_of_ne (apart : j ≠ i) : (a.modify i f).get? j = a.get? j := by
  rw [get?, get?, modify]
  dsimp only
  cases here : a.pointers i with
  | none => rfl
  | some p =>
    cases there : a.pointers j with
    | none => rfl
    | some q =>
      have other : p ≠ q := by
        rintro rfl
        exact apart (a.distinct j i p there here)
      rw [Option.bind_some, Option.bind_some, List.getElem?_modify_ne _ _ other]

theorem get?_modifyEach_of_notMem {indices : List Index} (absent : i ∉ indices) :
    (a.modifyEach f indices).get? i = a.get? i := by
  induction indices generalizing a with
  | nil => rfl
  | cons j indices ih =>
    have apart : i ≠ j := fun same => absent (List.mem_cons.mpr (.inl same))
    have later : i ∉ indices := fun member => absent (List.mem_cons_of_mem j member)
    exact (ih later).trans (get?_modify_of_ne apart)

theorem get?_modifyEach_of_mem {indices : List Index} (nodup : indices.Nodup) (member : i ∈ indices) :
    (a.modifyEach f indices).get? i = (a.get? i).map f := by
  induction indices generalizing a with
  | nil => cases member
  | cons j indices ih =>
    obtain ⟨absent, nodup⟩ := List.nodup_cons.mp nodup
    rcases List.mem_cons.mp member with rfl | later
    · exact (get?_modifyEach_of_notMem absent).trans get?_modify_self
    · have apart : i ≠ j := by
        rintro rfl
        exact absent later
      refine (ih nodup later).trans ?_
      rw [get?_modify_of_ne apart]

section Ensure

variable [DecidableEq Index]

theorem get?_ensure_self : (a.ensure i make).get? i = some ((a.get? i).getD make) := by
  rw [ensure]
  split
  · next p found =>
    rw [get?, found, Option.bind_some, List.getElem?_eq_getElem (a.inside i p found)]
    rfl
  · next free =>
    have none' : a.get? i = none := get?_eq_none_iff.mpr free
    rw [none', get?]
    dsimp only
    rw [Function.update_self, Option.bind_some, List.getElem?_concat_length]
    rfl

theorem get?_ensure_of_ne (apart : j ≠ i) : (a.ensure i make).get? j = a.get? j := by
  rw [ensure]
  split
  · rfl
  · rw [get?, get?]
    dsimp only
    rw [Function.update_of_ne apart]
    cases found : a.pointers j with
    | none => rfl
    | some p => exact List.getElem?_append_left (a.inside j p found)

end Ensure

end Get

section Extends

theorem Extends.refl (a : PointerArray Index Object) : Extends a a := fun _ _ found => found

theorem Extends.trans (first : Extends a b) (second : Extends b c) : Extends a c :=
  fun i p found => second i p (first i p found)

theorem extends_modify (i : Index) (f : Object → Object) : Extends a (a.modify i f) := fun _ _ found => found

theorem extends_modifyEach (f : Object → Object) (indices : List Index) : Extends a (a.modifyEach f indices) := by
  induction indices generalizing a with
  | nil => exact .refl a
  | cons i indices ih => exact (extends_modify i f).trans ih

theorem extends_ensure [DecidableEq Index] (i : Index) (make : Object) : Extends a (a.ensure i make) := by
  intro j p found
  rw [ensure]
  split
  · exact found
  · next free =>
    dsimp only
    rw [Function.update_of_ne, found]
    rintro rfl
    cases free.symm.trans found

end Extends

end PointerArray
