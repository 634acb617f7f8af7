import H9d.Core.OrderedMap
import Mathlib.Data.BitVec

/-! # Maps with unsigned keys

A `std::map` whose keys are unsigned integers of some width. Its entries are in the order of their keys by
construction, so that each key is found where it was entered.
-/

namespace Cxx

open OrderedMap

/-- `std::less` for unsigned keys. -/
def less {w : ℕ} (a b : BitVec w) : Bool := decide (a.toNat < b.toNat)

structure UIntMap (w : ℕ) (V : Type*) where
  entries : OrderedMap (BitVec w) V
  sorted : (keys entries).Pairwise fun a b => less a b = true

section Less

variable {w : ℕ}

theorem less_trans (a b c : BitVec w) (first : less a b = true) (second : less b c = true) : less a c = true := by
  simp only [less, decide_eq_true_eq] at first second ⊢
  omega

theorem equivalent_less_iff (a b : BitVec w) : Equivalent less a b ↔ a = b := by
  simp only [Equivalent, less, decide_eq_false_iff_not, ← BitVec.toNat_inj]
  omega

theorem strictWeakOn_less (keys : List (BitVec w)) : StrictWeakOn less keys := by
  refine ⟨fun a _ => ?_, fun a _ b _ c _ => less_trans a b c, fun a _ b _ c _ => ?_⟩
  · simp [less]
  · simp only [equivalent_less_iff]
    exact Eq.trans

end Less

namespace UIntMap

variable {w v : ℕ} {V : Type*}

def empty : UIntMap w V := ⟨[], List.Pairwise.nil⟩

def find (m : UIntMap w V) (key : BitVec w) : Option V := m.entries.lookup key

/-- A change through `operator[]`. -/
def modify (m : UIntMap w V) (key : BitVec w) (fresh : V) (update : V → V) : UIntMap w V where
  entries := access less key fresh update m.entries
  sorted := sorted_access less key fresh update (strictWeakOn_less _) m.sorted

def assign (m : UIntMap w V) (key : BitVec w) (value : V) : UIntMap w V := m.modify key value fun _ => value

/-- An initialiser list, of which the first of several entries with one key is entered. -/
def ofList (entries : List (BitVec w × V)) : UIntMap w V :=
  entries.foldl (fun m (key, value) => m.modify key value id) empty

/-- A loop that assigns each entry to a map whose keys have another width. -/
def copyTo (m : UIntMap w V) (target : UIntMap v V) : UIntMap v V :=
  m.entries.foldl (fun target (key, value) => target.assign (key.setWidth v) value) target

section Find

variable (m : UIntMap w V) (key other : BitVec w) (fresh value : V) (update : V → V)

@[simp] theorem find_empty : (empty : UIntMap w V).find key = none := rfl

theorem find_modify : (m.modify key fresh update).find other =
    if other = key then some (update ((m.find key).getD fresh)) else m.find other :=
  lookup_access less key fresh update equivalent_less_iff less_trans m.sorted other

theorem find_assign : (m.assign key value).find other = if other = key then some value else m.find other :=
  m.find_modify key other value fun _ => value

theorem find_foldl_modify (entries : List (BitVec w × V)) :
    (entries.foldl (fun m (key, value) => m.modify key value id) m).find key =
      (m.find key).or (entries.lookup key) := by
  induction entries generalizing m with
  | nil => simp
  | cons entry entries ih =>
    obtain ⟨k, v⟩ := entry
    rw [List.foldl_cons, ih, find_modify, List.lookup_cons]
    by_cases same : key = k
    · subst same
      cases found : m.find key <;> simp
    · simp [same, beq_false_of_ne same]

/-- Of an initialiser list, the first entry of a key is found. -/
theorem find_ofList (entries : List (BitVec w × V)) : (ofList entries).find key = entries.lookup key := by
  rw [ofList, find_foldl_modify, find_empty, Option.none_or]

theorem mem_keys_ofList {entries : List (BitVec w × V)} (member : key ∈ keys (ofList entries).entries) :
    key ∈ entries.map Prod.fst := by
  have either : ∀ m : UIntMap w V,
      key ∈ keys (entries.foldl (fun m (key, value) => m.modify key value id) m).entries →
        key ∈ keys m.entries ∨ key ∈ entries.map Prod.fst := by
    clear member
    induction entries with
    | nil => exact fun m => .inl
    | cons entry entries ih =>
      intro m member
      rw [List.map_cons, List.mem_cons]
      rcases ih _ member with earlier | later
      · rcases mem_keys_access less entry.1 entry.2 id earlier with here | old
        · exact .inr (.inl here)
        · exact .inl old
      · exact .inr (.inr later)
  exact (either empty member).resolve_left List.not_mem_nil

theorem mem_of_find {m : UIntMap w V} (found : m.find key = some value) : key ∈ keys m.entries := by
  obtain ⟨before, after, split, -⟩ := List.lookup_eq_some_iff.mp found
  simp [keys, split]

/-- The entries that are copied hide those that were there, if no key loses a digit. -/
theorem find_copyTo {m : UIntMap w V} (wider : v ≤ w) (kept : ∀ k ∈ keys m.entries, k.toNat < 2 ^ v)
    (target : UIntMap v V) (reg : BitVec v) :
    (m.copyTo target).find reg = (m.find (reg.setWidth w)).or (target.find reg) := by
  have apart : ∀ k ∈ keys m.entries, reg = k.setWidth v ↔ reg.setWidth w = k := by
    intro k member
    have below := kept k member
    have bound : reg.toNat < 2 ^ v := reg.isLt
    have wide : 2 ^ v ≤ 2 ^ w := Nat.pow_le_pow_right Nat.two_pos wider
    simp only [← BitVec.toNat_inj, BitVec.toNat_setWidth]
    rw [Nat.mod_eq_of_lt below, Nat.mod_eq_of_lt (by omega : reg.toNat < 2 ^ w)]
  have distinct : (keys m.entries).Nodup := by
    refine m.sorted.imp fun {a b} before same => ?_
    rw [same, less] at before
    simp at before
  change (m.entries.foldl _ target).find reg = (m.entries.lookup _).or _
  generalize m.entries = entries at apart distinct
  induction entries generalizing target with
  | nil => rfl
  | cons entry entries ih =>
    obtain ⟨k, value⟩ := entry
    obtain ⟨absent, distinct⟩ := List.nodup_cons.mp distinct
    obtain ⟨here, later⟩ := List.forall_mem_cons.mp apart
    rw [List.foldl_cons, ih _ later distinct, find_assign, List.lookup_cons]
    by_cases same : reg.setWidth w = k
    · have missing : entries.lookup (reg.setWidth w) = none := by
        rw [List.lookup_eq_none_iff]
        intro entry member
        apply bne_iff_ne.mpr
        intro again
        refine absent ?_
        change k ∈ entries.map Prod.fst
        rw [← same, again]
        exact List.mem_map_of_mem member
      rw [missing, if_pos (here.mpr same), Option.none_or, beq_iff_eq.mpr same]
      rfl
    · rw [if_neg (mt here.mp same), beq_false_of_ne same]

end Find

end UIntMap

end Cxx
