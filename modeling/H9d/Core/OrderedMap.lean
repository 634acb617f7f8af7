import Mathlib.Data.List.Basic

/-! # Maps ordered by a comparison of their own

A `std::map` keeps its entries in the order of a comparison, and keys of which neither is less are one
key to it. That it finds its keys rests on the comparison being a strict weak order on them.
-/

namespace Cxx

variable {K V : Type*} (lt : K → K → Bool)

/-- Neither is less. -/
def Equivalent (a b : K) : Prop := lt a b = false ∧ lt b a = false

structure StrictWeakOn (keys : List K) : Prop where
  irrefl : ∀ a ∈ keys, lt a a = false
  trans : ∀ a ∈ keys, ∀ b ∈ keys, ∀ c ∈ keys, lt a b = true → lt b c = true → lt a c = true
  equivalentTrans : ∀ a ∈ keys, ∀ b ∈ keys, ∀ c ∈ keys,
    Equivalent lt a b → Equivalent lt b c → Equivalent lt a c

instance (a b : K) : Decidable (Equivalent lt a b) :=
  inferInstanceAs (Decidable (lt a b = false ∧ lt b a = false))

instance (keys : List K) : Decidable (StrictWeakOn lt keys) :=
  decidable_of_iff
    ((∀ a ∈ keys, lt a a = false) ∧
      (∀ a ∈ keys, ∀ b ∈ keys, ∀ c ∈ keys, lt a b = true → lt b c = true → lt a c = true) ∧
      (∀ a ∈ keys, ∀ b ∈ keys, ∀ c ∈ keys, Equivalent lt a b → Equivalent lt b c → Equivalent lt a c))
    ⟨fun order => ⟨order.1, order.2.1, order.2.2⟩,
      fun order => ⟨order.irrefl, order.trans, order.equivalentTrans⟩⟩

section Refuted

variable {lt} {le : K → K → Prop}

/-- A comparison that is the negation of a preorder is an order on the keys that the preorder can tell apart
in one direction each. -/
theorem strictWeakOn_iff_total (refl : ∀ a, le a a) (trans : ∀ a b c, le a b → le b c → le a c)
    (refutes : ∀ a b, lt b a = false ↔ le a b) (keys : List K) :
    StrictWeakOn lt keys ↔ ∀ a ∈ keys, ∀ b ∈ keys, le a b ∨ le b a := by
  constructor
  · intro order a ha b hb
    by_contra neither
    obtain ⟨notLe, notGe⟩ := not_or.mp neither
    have less : lt b a = true := Bool.of_not_eq_false (mt (refutes a b).mp notLe)
    have greater : lt a b = true := Bool.of_not_eq_false (mt (refutes b a).mp notGe)
    have self := order.trans a ha b hb a ha greater less
    exact Bool.false_ne_true ((order.irrefl a ha).symm.trans self)
  · intro total
    refine ⟨fun a _ => (refutes a a).mpr (refl a), ?_, ?_⟩
    · intro a ha b hb c hc less less'
      have notGe : ¬le b a := fun ge => Bool.false_ne_true (((refutes b a).mpr ge).symm.trans less)
      have notGe' : ¬le c b := fun ge => Bool.false_ne_true (((refutes c b).mpr ge).symm.trans less')
      have between : le b c := (total b hb c hc).resolve_right notGe'
      refine Bool.of_not_eq_false fun same => ?_
      exact notGe (trans b c a between ((refutes c a).mp same))
    · intro a _ b _ c _ same same'
      have first : le a b ∧ le b a := ⟨(refutes a b).mp same.2, (refutes b a).mp same.1⟩
      have second : le b c ∧ le c b := ⟨(refutes b c).mp same'.2, (refutes c b).mp same'.1⟩
      exact ⟨(refutes c a).mpr (trans c b a second.2 first.2), (refutes a c).mpr (trans a b c first.1 second.1)⟩

end Refuted

/-- The entries in the order of their keys. -/
abbrev OrderedMap (K V : Type*) := List (K × V)

namespace OrderedMap

variable (key : K) (fresh : V) (update : V → V)

def keys (m : OrderedMap K V) : List K := m.map Prod.fst

/-- Changes the value of a key, which `operator[]` enters with a fresh one when it does not find it. -/
def access : OrderedMap K V → OrderedMap K V
  | [] => [(key, update fresh)]
  | (k, v) :: m =>
      if lt k key then (k, v) :: access m
      else if lt key k then (key, update fresh) :: (k, v) :: m
      else (k, update v) :: m

/-- One entry is changed, of a key that is equivalent, or one is new. -/
theorem access_cases (m : OrderedMap K V) :
    (∃ before k v after, m = before ++ (k, v) :: after ∧ Equivalent lt k key ∧
      access lt key fresh update m = before ++ (k, update v) :: after) ∨
    ∃ before after, m = before ++ after ∧
      access lt key fresh update m = before ++ (key, update fresh) :: after := by
  induction m with
  | nil => exact .inr ⟨[], [], rfl, rfl⟩
  | cons entry m ih =>
    obtain ⟨k, v⟩ := entry
    by_cases less : lt k key = true
    · have later : access lt key fresh update ((k, v) :: m) = (k, v) :: access lt key fresh update m :=
        if_pos less
      rw [later]
      rcases ih with ⟨before, k', v', after, rfl, same, changed⟩ | ⟨before, after, rfl, entered⟩
      · rw [changed]
        exact .inl ⟨(k, v) :: before, k', v', after, rfl, same, rfl⟩
      · rw [entered]
        exact .inr ⟨(k, v) :: before, after, rfl, rfl⟩
    · by_cases greater : lt key k = true
      · refine .inr ⟨[], (k, v) :: m, rfl, ?_⟩
        rw [access, if_neg less, if_pos greater]
        rfl
      · refine .inl ⟨[], k, v, m, rfl, ⟨by simpa using less, by simpa using greater⟩, ?_⟩
        rw [access, if_neg less, if_neg greater]
        rfl

theorem mem_keys_access {m : OrderedMap K V} {k : K} (member : k ∈ keys (access lt key fresh update m)) :
    k = key ∨ k ∈ keys m := by
  rcases access_cases lt key fresh update m with ⟨before, k', v, after, rfl, -, changed⟩ |
    ⟨before, after, rfl, entered⟩
  · rw [changed] at member
    refine .inr ?_
    simpa [keys] using member
  · rw [entered] at member
    simp only [keys, List.map_append, List.map_cons, List.mem_append, List.mem_cons] at member ⊢
    rcases member with before | here | after
    · exact .inr (.inl before)
    · exact .inl here
    · exact .inr (.inr after)

/-- The entries stay in order. -/
theorem sorted_access {m : OrderedMap K V} (order : StrictWeakOn lt (key :: keys m))
    (sorted : (keys m).Pairwise fun a b => lt a b = true) :
    (keys (access lt key fresh update m)).Pairwise fun a b => lt a b = true := by
  induction m with
  | nil => exact List.pairwise_singleton _ key
  | cons entry m ih =>
    obtain ⟨k, v⟩ := entry
    obtain ⟨first, rest⟩ := List.pairwise_cons.mp sorted
    have within : ∀ a ∈ key :: keys m, a ∈ key :: keys ((k, v) :: m) := by
      intro a member
      rcases List.mem_cons.mp member with rfl | later
      · exact List.mem_cons_self
      · exact List.mem_cons_of_mem _ (List.mem_cons_of_mem _ later)
    have order' : StrictWeakOn lt (key :: keys m) :=
      ⟨fun a ha => order.irrefl a (within a ha),
        fun a ha b hb c hc => order.trans a (within a ha) b (within b hb) c (within c hc),
        fun a ha b hb c hc => order.equivalentTrans a (within a ha) b (within b hb) c (within c hc)⟩
    have kIn : k ∈ key :: keys ((k, v) :: m) := List.mem_cons_of_mem _ List.mem_cons_self
    rw [access]
    by_cases less : lt k key = true
    · rw [if_pos less]
      refine List.pairwise_cons.mpr ⟨fun a member => ?_, ih order' rest⟩
      rcases mem_keys_access lt key fresh update member with rfl | old
      · exact less
      · exact first a old
    · rw [if_neg less]
      by_cases greater : lt key k = true
      · rw [if_pos greater]
        refine List.pairwise_cons.mpr ⟨fun a member => ?_, sorted⟩
        rcases List.mem_cons.mp member with rfl | later
        · exact greater
        · exact order.trans key List.mem_cons_self k kIn a (within a (List.mem_cons_of_mem _ later)) greater
            (first a later)
      · rw [if_neg greater]
        exact sorted

section Lookup

variable [DecidableEq K] {m : OrderedMap K V}

/-- A new key is found afterwards, and the others as before, where only equal keys are one key. -/
theorem lookup_access_of_absent (exact : ∀ a b, Equivalent lt a b ↔ a = b) (absent : m.lookup key = none)
    (other : K) :
    (access lt key fresh update m).lookup other =
      if other = key then some (update fresh) else m.lookup other := by
  rcases access_cases lt key fresh update m with ⟨before, k, v, after, rfl, same, -⟩ |
    ⟨before, after, rfl, entered⟩
  · obtain rfl := (exact k key).mp same
    rw [List.lookup_append, List.lookup_cons_self, Option.or_eq_none_iff] at absent
    cases absent.2
  · rw [List.lookup_append, Option.or_eq_none_iff] at absent
    rw [entered, List.lookup_append, List.lookup_append]
    split
    · next same => rw [same, absent.1, List.lookup_cons_self, Option.none_or]
    · next apart => rw [List.lookup_cons, beq_false_of_ne apart]

/-- In a map that is in order, a key has the changed value afterwards, and the others what they had. -/
theorem lookup_access (exact : ∀ a b, Equivalent lt a b ↔ a = b)
    (trans : ∀ a b c, lt a b = true → lt b c = true → lt a c = true)
    (sorted : (keys m).Pairwise fun a b => lt a b = true) (other : K) :
    (access lt key fresh update m).lookup other =
      if other = key then some (update ((m.lookup key).getD fresh)) else m.lookup other := by
  have apart {a b : K} (less : lt a b = true) : a ≠ b := by
    intro same
    have neither := (exact a b).mpr same
    exact Bool.false_ne_true (neither.1.symm.trans less)
  induction m with
  | nil =>
    rw [access, List.lookup_cons]
    by_cases same : other = key
    · simp [same]
    · simp [same, beq_false_of_ne same]
  | cons entry m ih =>
    obtain ⟨k, v⟩ := entry
    obtain ⟨first, rest⟩ := List.pairwise_cons.mp sorted
    rw [access]
    by_cases less : lt k key = true
    · rw [if_pos less, List.lookup_cons, List.lookup_cons, List.lookup_cons, ih rest,
        beq_false_of_ne (apart less).symm]
      by_cases same : other = k
      · simp [same, apart less]
      · simp [beq_false_of_ne same]
    · rw [if_neg less]
      by_cases greater : lt key k = true
      · have absent : ((k, v) :: m).lookup key = none := by
          rw [List.lookup_eq_none_iff]
          intro entry member
          apply bne_iff_ne.mpr
          rcases List.mem_cons.mp member with rfl | later
          · exact apart greater
          · exact apart (trans key k entry.1 greater (first entry.1 (List.mem_map_of_mem later)))
        rw [if_pos greater, List.lookup_cons, absent, Option.getD_none]
        by_cases same : other = key
        · simp [same]
        · simp [same, beq_false_of_ne same]
      · obtain rfl := (exact k key).mp ⟨by simpa using less, by simpa using greater⟩
        rw [if_neg greater, List.lookup_cons, List.lookup_cons, List.lookup_cons, beq_self_eq_true]
        by_cases same : other = k
        · simp [same]
        · simp [same, beq_false_of_ne same]

end Lookup

end OrderedMap

end Cxx
