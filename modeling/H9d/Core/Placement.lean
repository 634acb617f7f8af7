import Mathlib.Algebra.Ring.Nat
import Mathlib.Data.List.Nodup
import Mathlib.Data.Nat.Basic
import Mathlib.Order.Basic

/-! # Images of memory

Segments put values at addresses, and an image is what is read at each address afterwards. Segments can also be
put one behind the other where their own address is taken already, which displaces their values. Then the image
is the one that is meant only as far as the displaced values are what is read at addresses without one.
-/

namespace Placement

variable {α : Type*}

/-- The values of a list from an address on. -/
def cellsFrom : ℕ → List α → List (ℕ × α)
  | _, [] => []
  | a, x :: xs => (a, x) :: cellsFrom (a + 1) xs

/-- The values of segments at their addresses. -/
def cells (segments : List (ℕ × List α)) : List (ℕ × α) := segments.flatMap fun s => cellsFrom s.1 s.2

/-- What is read at an address. -/
def image (fill : α) (cells : List (ℕ × α)) (a : ℕ) : α := (cells.lookup a).getD fill

/-- The first address above all values. -/
def top (cells : List (ℕ × α)) : ℕ := (cells.map fun c => c.1 + 1).foldr max 0

/-- A value that is meant for an address and put at a position. -/
structure Move (α : Type*) where
  address : ℕ
  position : ℕ
  value : α

def Move.meant (m : Move α) : ℕ × α := (m.address, m.value)
def Move.put (m : Move α) : ℕ × α := (m.position, m.value)

def movesFrom : ℕ → ℕ → List α → List (Move α)
  | _, _, [] => []
  | a, p, x :: xs => ⟨a, p, x⟩ :: movesFrom (a + 1) (p + 1) xs

/-- Each segment is put at its address, or at the end of what is there if that is further. -/
def moves : ℕ → List (ℕ × List α) → List (Move α)
  | _, [] => []
  | reach, s :: rest => movesFrom s.1 (max reach s.1) s.2 ++ moves (max reach s.1 + s.2.length) rest

/-- The end of what is there afterwards. -/
def stacked : ℕ → List (ℕ × List α) → ℕ
  | reach, [] => reach
  | reach, s :: rest => stacked (max reach s.1 + s.2.length) rest

def size (segments : List (ℕ × List α)) : ℕ := (segments.map fun s => s.2.length).sum

/-- The segments from some one on, put end to end from its address, go beyond the address. -/
def Overtaken (segments : List (ℕ × List α)) (a : ℕ) : Prop :=
  ∃ before s after, segments = before ++ s :: after ∧ a < s.1 + size (s :: after)

section Images

variable {fill : α} {entries : List (ℕ × α)} {a : ℕ} {x : α}

theorem image_of_mem (distinct : (entries.map Prod.fst).Nodup) (member : (a, x) ∈ entries) :
    image fill entries a = x := by
  induction entries with
  | nil => cases member
  | cons entry entries ih =>
    obtain ⟨b, y⟩ := entry
    obtain ⟨fresh, distinct⟩ := List.nodup_cons.mp distinct
    rcases List.mem_cons.mp member with same | later
    · cases same
      rw [image, List.lookup_cons_self]
      rfl
    · have apart : a ≠ b := by
        rintro rfl
        exact fresh (List.mem_map.mpr ⟨(a, x), later, rfl⟩)
      rw [image, List.lookup_cons, beq_false_of_ne apart]
      exact ih distinct later

theorem mem_of_image_ne (other : image fill entries a ≠ fill) : (a, image fill entries a) ∈ entries := by
  induction entries with
  | nil => exact absurd rfl other
  | cons entry entries ih =>
    obtain ⟨b, y⟩ := entry
    by_cases here : a = b
    · subst here
      rw [image, List.lookup_cons_self]
      exact List.mem_cons_self
    · have later : image fill ((b, y) :: entries) a = image fill entries a := by
        rw [image, List.lookup_cons, beq_false_of_ne here]
        rfl
      rw [later] at other ⊢
      exact List.mem_cons_of_mem _ (ih other)

theorem image_of_absent (absent : ∀ x, (a, x) ∈ entries → x = fill) : image fill entries a = fill := by
  by_contra other
  exact other (absent _ (mem_of_image_ne other))

theorem top_le {n : ℕ} (below : ∀ c ∈ entries, c.1 < n) : top entries ≤ n := by
  induction entries with
  | nil => exact Nat.zero_le n
  | cons entry entries ih =>
    obtain ⟨here, below⟩ := List.forall_mem_cons.mp below
    exact Nat.max_le.mpr ⟨here, ih below⟩

end Images

section Displaced

variable {fill : α} {moves : List (Move α)} {lost : List (ℕ × α)}

/-- Values go up. So the first displaced value that can be seen at its address would have to be one that was put
there by itself. -/
theorem image_eq_iff (up : ∀ m ∈ moves, m.address ≤ m.position)
    (positions : (moves.map Move.position).Nodup)
    (addresses : ((moves.map Move.meant ++ lost).map Prod.fst).Nodup) :
    (∀ a, image fill (moves.map Move.put) a = image fill (moves.map Move.meant ++ lost) a) ↔
      (∀ m ∈ moves, m.address ≠ m.position → m.value = fill) ∧ ∀ c ∈ lost, c.2 = fill := by
  have puts : ((moves.map Move.put).map Prod.fst).Nodup := by
    rw [List.map_map]
    exact positions
  have meant {m : Move α} (member : m ∈ moves) : m.meant ∈ moves.map Move.meant ++ lost :=
    List.mem_append_left _ (List.mem_map_of_mem member)
  have same {m n : Move α} (first : m ∈ moves) (second : n ∈ moves) (address : m.address = n.address) :
      m = n := by
    have distinct : (moves.map Move.address).Nodup := by
      rw [List.map_append, List.map_map] at addresses
      exact addresses.of_append_left
    exact List.inj_on_of_nodup_map distinct first second address
  have apart {m : Move α} {c : ℕ × α} (member : m ∈ moves) (other : c ∈ lost) : m.address ≠ c.1 := by
    intro address
    rw [List.map_append] at addresses
    have first : m.address ∈ (moves.map Move.meant).map Prod.fst :=
      List.mem_map.mpr ⟨m.meant, List.mem_map_of_mem member, rfl⟩
    have second : m.address ∈ lost.map Prod.fst := List.mem_map.mpr ⟨c, other, address.symm⟩
    exact List.disjoint_of_nodup_append addresses first second
  have put_of_seen {a : ℕ} {x : α} (seen : image fill (moves.map Move.put) a = x) (other : x ≠ fill) :
      ∃ n ∈ moves, n.position = a ∧ n.value = x := by
    have member := mem_of_image_ne (seen.trans_ne other)
    rw [seen] at member
    obtain ⟨n, inside, put⟩ := List.mem_map.mp member
    exact ⟨n, inside, (Prod.mk.inj put).1, (Prod.mk.inj put).2⟩
  constructor
  · intro images
    have early : ∀ p, ∀ m ∈ moves, m.position = p → m.address ≠ m.position → m.value = fill := by
      intro p
      induction p using Nat.strongRecOn with
      | ind p ih =>
        rintro m member rfl displaced
        by_contra other
        have seen := (images m.address).trans (image_of_mem addresses (meant member))
        obtain ⟨n, inside, position, value⟩ := put_of_seen seen other
        by_cases placed : n.address = n.position
        · obtain rfl := same inside member (placed.trans position)
          exact displaced position.symm
        · have lower : n.position < m.position := by
            have below := up m member
            omega
          exact other (value.symm.trans (ih n.position lower n inside rfl placed))
    refine ⟨fun m member => early _ m member rfl, fun c member => ?_⟩
    by_contra other
    have seen := (images c.1).trans (image_of_mem addresses (List.mem_append_right _ member))
    obtain ⟨n, inside, position, value⟩ := put_of_seen seen other
    by_cases placed : n.address = n.position
    · exact apart inside member (placed.trans position)
    · exact other (value.symm.trans (early _ n inside rfl placed))
  · rintro ⟨displaced, unread⟩ a
    by_cases here : ∃ m ∈ moves, m.address = a ∧ m.position = a
    · obtain ⟨m, member, rfl, position⟩ := here
      have put : (m.address, m.value) ∈ moves.map Move.put :=
        List.mem_map.mpr ⟨m, member, congrArg (·, m.value) position⟩
      rw [image_of_mem puts put, image_of_mem addresses (meant member)]
    · have moved {m : Move α} (member : m ∈ moves) (at' : m.address = a ∨ m.position = a) : m.value = fill := by
        refine displaced m member fun placed => here ⟨m, member, ?_⟩
        omega
      rw [image_of_absent, image_of_absent]
      · intro x member
        rcases List.mem_append.mp member with read | lost
        · obtain ⟨m, inside, meant⟩ := List.mem_map.mp read
          obtain ⟨address, rfl⟩ := Prod.mk.inj meant
          exact moved inside (.inl address)
        · exact unread _ lost
      · intro x member
        obtain ⟨m, inside, put⟩ := List.mem_map.mp member
        obtain ⟨position, rfl⟩ := Prod.mk.inj put
        exact moved inside (.inr position)

end Displaced

section Stacking

variable {a p reach : ℕ} {xs : List α} {m : Move α} {segments : List (ℕ × List α)}

@[simp] theorem map_meant_movesFrom (a p : ℕ) (xs : List α) : (movesFrom a p xs).map Move.meant = cellsFrom a xs := by
  induction xs generalizing a p with
  | nil => rfl
  | cons x xs ih => rw [movesFrom, List.map_cons, ih, cellsFrom, Move.meant]

/-- All segments are moved, whatever becomes of them. -/
theorem map_meant_moves (reach : ℕ) (segments : List (ℕ × List α)) :
    (moves reach segments).map Move.meant = cells segments := by
  induction segments generalizing reach with
  | nil => rfl
  | cons s rest ih =>
    rw [moves, List.map_append, map_meant_movesFrom, ih]
    rfl

theorem mem_movesFrom (member : m ∈ movesFrom a p xs) :
    ∃ i, i < xs.length ∧ m.address = a + i ∧ m.position = p + i := by
  induction xs generalizing a p with
  | nil => cases member
  | cons x xs ih =>
    rcases List.mem_cons.mp member with rfl | later
    · exact ⟨0, Nat.zero_lt_succ _, rfl, rfl⟩
    · obtain ⟨i, inside, address, position⟩ := ih later
      exact ⟨i + 1, Nat.succ_lt_succ inside, by omega, by omega⟩

theorem up_of_mem_moves (member : m ∈ moves reach segments) : m.address ≤ m.position := by
  induction segments generalizing reach with
  | nil => cases member
  | cons s rest ih =>
    rcases List.mem_append.mp member with here | later
    · obtain ⟨i, -, address, position⟩ := mem_movesFrom here
      omega
    · exact ih later

theorem reach_le_of_mem_moves (member : m ∈ moves reach segments) : reach ≤ m.position := by
  induction segments generalizing reach with
  | nil => cases member
  | cons s rest ih =>
    rcases List.mem_append.mp member with here | later
    · obtain ⟨i, -, -, position⟩ := mem_movesFrom here
      omega
    · have beyond := ih later
      omega

theorem nodup_movesFrom (a p : ℕ) (xs : List α) : ((movesFrom a p xs).map Move.position).Nodup := by
  induction xs generalizing a p with
  | nil => exact List.nodup_nil
  | cons x xs ih =>
    refine List.nodup_cons.mpr ⟨fun member => ?_, ih (a + 1) (p + 1)⟩
    obtain ⟨m, later, position⟩ := List.mem_map.mp member
    obtain ⟨i, -, -, further⟩ := mem_movesFrom later
    dsimp only at position
    omega

theorem lookup_eq_none {entries : List (ℕ × α)} (absent : ∀ x, (a, x) ∉ entries) : entries.lookup a = none := by
  rw [List.lookup_eq_none_iff]
  intro entry member
  refine bne_iff_ne.mpr fun same => ?_
  subst same
  exact absent entry.2 member

theorem lookup_movesFrom_of_lt {i : ℕ} (below : i < p) : ((movesFrom a p xs).map Move.put).lookup i = none := by
  refine lookup_eq_none fun x member => ?_
  obtain ⟨m, inside, put⟩ := List.mem_map.mp member
  obtain ⟨k, -, -, position⟩ := mem_movesFrom inside
  have here : m.position = i := (Prod.mk.inj put).1
  omega

theorem lookup_movesFrom_of_le {i : ℕ} (above : p + xs.length ≤ i) :
    ((movesFrom a p xs).map Move.put).lookup i = none := by
  refine lookup_eq_none fun x member => ?_
  obtain ⟨m, inside, put⟩ := List.mem_map.mp member
  obtain ⟨k, within, -, position⟩ := mem_movesFrom inside
  have here : m.position = i := (Prod.mk.inj put).1
  omega

theorem lookup_moves_of_lt {i : ℕ} (below : i < reach) :
    ((moves reach segments).map Move.put).lookup i = none := by
  refine lookup_eq_none fun x member => ?_
  obtain ⟨m, inside, put⟩ := List.mem_map.mp member
  have beyond := reach_le_of_mem_moves inside
  have here : m.position = i := (Prod.mk.inj put).1
  omega

/-- No value is put where another one is. -/
theorem nodup_moves (reach : ℕ) (segments : List (ℕ × List α)) :
    ((moves reach segments).map Move.position).Nodup := by
  induction segments generalizing reach with
  | nil => exact List.nodup_nil
  | cons s rest ih =>
    rw [moves, List.map_append]
    refine List.Nodup.append (nodup_movesFrom _ _ _) (ih _) fun p first second => ?_
    obtain ⟨m, here, rfl⟩ := List.mem_map.mp first
    obtain ⟨n, later, same⟩ := List.mem_map.mp second
    obtain ⟨i, inside, -, position⟩ := mem_movesFrom here
    have beyond := reach_le_of_mem_moves later
    omega

theorem size_cons (s : ℕ × List α) (segments : List (ℕ × List α)) :
    size (s :: segments) = s.2.length + size segments := List.sum_cons

theorem overtaken_cons {s : ℕ × List α} :
    Overtaken (s :: segments) a ↔ a < s.1 + size (s :: segments) ∨ Overtaken segments a := by
  constructor
  · rintro ⟨before, first, after, split, low⟩
    cases before with
    | nil =>
      cases split
      exact .inl low
    | cons b before =>
      cases split
      exact .inr ⟨before, first, after, rfl, low⟩
  · rintro (low | ⟨before, first, after, rfl, low⟩)
    · exact ⟨[], s, segments, rfl, low⟩
    · exact ⟨s :: before, first, after, rfl, low⟩

theorem lt_stacked_iff : a < stacked reach segments ↔ a < reach + size segments ∨ Overtaken segments a := by
  induction segments generalizing reach with
  | nil =>
    refine ⟨.inl, fun low => low.resolve_right ?_⟩
    rintro ⟨before, s, after, split, -⟩
    cases before <;> cases split
  | cons s rest ih =>
    rw [stacked, ih, overtaken_cons, size_cons, ← or_assoc]
    refine or_congr_left ?_
    omega

theorem le_stacked : reach ≤ stacked reach segments :=
  Nat.le_of_not_lt fun low => absurd (lt_stacked_iff.mpr (.inl (Nat.lt_add_right _ low))) (Nat.lt_irrefl _)

/-- Where the segments end when they are stacked. -/
theorem lt_stacked_zero_iff : a < stacked 0 segments ↔ Overtaken segments a := by
  rw [lt_stacked_iff]
  refine or_iff_right_of_imp fun low => ?_
  cases segments with
  | nil => exact absurd low (Nat.not_lt_zero a)
  | cons s rest => exact ⟨[], s, rest, rfl, by omega⟩

theorem displaced_movesFrom {fill : α} : (∀ m ∈ movesFrom a p xs, m.address ≠ m.position → m.value = fill) ↔
    (a ≠ p → ∀ x ∈ xs, x = fill) := by
  induction xs generalizing a p with
  | nil => exact iff_of_true nofun fun _ => nofun
  | cons x xs ih =>
    rw [movesFrom, List.forall_mem_cons, List.forall_mem_cons, ih, Nat.succ_ne_succ_iff]
    exact imp_and.symm

theorem lt_stacked_of_mem_moves (member : m ∈ moves reach segments) : m.position < stacked reach segments := by
  induction segments generalizing reach with
  | nil => cases member
  | cons s rest ih =>
    rcases List.mem_append.mp member with here | later
    · obtain ⟨i, inside, -, position⟩ := mem_movesFrom here
      have further : max reach s.1 + s.2.length ≤ stacked reach (s :: rest) := le_stacked
      omega
    · exact ih later

/-- Which values are displaced. -/
theorem displaced_iff {fill : α} : (∀ m ∈ moves reach segments, m.address ≠ m.position → m.value = fill) ↔
    ∀ before s after, segments = before ++ s :: after → s.1 < stacked reach before → ∀ x ∈ s.2, x = fill := by
  induction segments generalizing reach with
  | nil =>
    refine iff_of_true nofun fun before s after split => ?_
    cases before <;> cases split
  | cons s rest ih =>
    rw [moves, List.forall_mem_append, displaced_movesFrom, ih]
    constructor
    · rintro ⟨here, later⟩ before first after split low
      cases before with
      | nil =>
        cases split
        change s.1 < reach at low
        exact here (by omega)
      | cons b before =>
        cases split
        exact later before first after rfl low
    · intro all
      refine ⟨fun displaced => all [] s rest rfl ?_, fun before first after split low => ?_⟩
      · change s.1 < reach
        omega
      · exact all (s :: before) first after (congrArg (s :: ·) split) low

theorem cells_append (first second : List (ℕ × List α)) : cells (first ++ second) = cells first ++ cells second :=
  List.flatMap_append

theorem mem_cellsFrom {x : α} : (∃ b, (b, x) ∈ cellsFrom a xs) ↔ x ∈ xs := by
  induction xs generalizing a with
  | nil => simp [cellsFrom]
  | cons y ys ih => simp [cellsFrom, exists_or, ih]

theorem forall_mem_cells {P : α → Prop} :
    (∀ c ∈ cells segments, P c.2) ↔ ∀ s ∈ segments, ∀ x ∈ s.2, P x := by
  constructor
  · intro all s member x inside
    obtain ⟨b, cell⟩ := (mem_cellsFrom (a := s.1)).mpr inside
    exact all (b, x) (List.mem_flatMap.mpr ⟨s, member, cell⟩)
  · intro all c member
    obtain ⟨s, inside, cell⟩ := List.mem_flatMap.mp member
    exact all s inside c.2 (mem_cellsFrom.mp ⟨c.1, cell⟩)

end Stacking

section Settled

variable {fill : α} {read unread : List (ℕ × List α)}

/-- When stacking the segments that are read gives the image of all segments, and its length. -/
structure Settled (fill : α) (read unread : List (ℕ × List α)) : Prop where
  inOrder : ∀ before s after, read = before ++ s :: after → Overtaken before s.1 → ∀ x ∈ s.2, x = fill
  notRead : ∀ s ∈ unread, ∀ x ∈ s.2, x = fill
  reaches : ∀ a, Overtaken read a ↔ a < top (cells (read ++ unread))

theorem settled_iff (distinct : ((cells (read ++ unread)).map Prod.fst).Nodup) :
    ((∀ a, image fill ((moves 0 read).map Move.put) a = image fill (cells (read ++ unread)) a) ∧
      stacked 0 read = top (cells (read ++ unread))) ↔ Settled fill read unread := by
  have meant : cells (read ++ unread) = (moves 0 read).map Move.meant ++ cells unread := by
    rw [cells_append, map_meant_moves]
  have images := @image_eq_iff α fill (moves 0 read) (cells unread)
    (fun m => up_of_mem_moves) (nodup_moves 0 read) (meant ▸ distinct)
  rw [← meant] at images
  rw [images, displaced_iff, forall_mem_cells (P := (· = fill))]
  simp only [lt_stacked_zero_iff]
  have length : stacked 0 read = top (cells (read ++ unread)) ↔
      ∀ a, Overtaken read a ↔ a < top (cells (read ++ unread)) := by
    simp only [← lt_stacked_zero_iff]
    exact ⟨fun same a => by rw [same], fun same => eq_of_forall_lt_iff same⟩
  rw [length]
  constructor
  · rintro ⟨⟨inOrder, unread⟩, reaches⟩
    exact ⟨inOrder, unread, reaches⟩
  · rintro ⟨inOrder, unread, reaches⟩
    exact ⟨⟨inOrder, unread⟩, reaches⟩

/-- Segments one above the other. -/
def Ascending (segments : List (ℕ × List α)) : Prop :=
  segments.Pairwise fun s t => s.1 + s.2.length ≤ t.1

theorem Ascending.not_overtaken {before after : List (ℕ × List α)} {s : ℕ × List α}
    (ascending : Ascending (before ++ s :: after)) : ¬Overtaken before s.1 := by
  rintro ⟨lower, t, upper, rfl, overtaken⟩
  rw [List.append_assoc] at ascending
  have tail : Ascending ((t :: upper) ++ s :: after) := (List.pairwise_append.mp ascending).2.1
  clear ascending lower
  induction upper generalizing t with
  | nil =>
    have below := (List.pairwise_cons.mp tail).1 s List.mem_cons_self
    rw [size_cons] at overtaken
    change _ < t.1 + (t.2.length + 0) at overtaken
    omega
  | cons u upper ih =>
    obtain ⟨first, rest⟩ := List.pairwise_cons.mp tail
    have below := first u List.mem_cons_self
    rw [size_cons] at overtaken
    exact ih u (by omega) rest

theorem top_cellsFrom (a : ℕ) {xs : List α} (nonempty : xs ≠ []) : top (cellsFrom a xs) = a + xs.length := by
  induction xs generalizing a with
  | nil => exact absurd rfl nonempty
  | cons x xs ih =>
    change max (a + 1) (top (cellsFrom (a + 1) xs)) = _
    rw [List.length_cons]
    cases xs with
    | nil => exact Nat.max_eq_left (Nat.zero_le _)
    | cons y ys =>
      rw [ih (a + 1) (List.cons_ne_nil y ys)]
      omega

theorem top_append (first second : List (ℕ × α)) : top (first ++ second) = max (top first) (top second) := by
  induction first with
  | nil => exact (Nat.max_eq_right (Nat.zero_le _)).symm
  | cons c first ih =>
    change max (c.1 + 1) (top (first ++ second)) = max (max (c.1 + 1) (top first)) (top second)
    rw [ih, Nat.max_assoc]

/-- Segments one above the other are stacked to where they belong. -/
theorem Ascending.stacked_eq {segments : List (ℕ × List α)} (ascending : Ascending segments)
    (nonempty : ∀ s ∈ segments, s.2 ≠ []) {reach : ℕ} (above : ∀ s ∈ segments, reach ≤ s.1) :
    stacked reach segments = max reach (top (cells segments)) := by
  induction segments generalizing reach with
  | nil => exact (Nat.max_eq_left (Nat.zero_le _)).symm
  | cons s rest ih =>
    obtain ⟨first, ascending⟩ := List.pairwise_cons.mp ascending
    have here := above s List.mem_cons_self
    have ends : max reach s.1 + s.2.length = s.1 + s.2.length := by rw [Nat.max_eq_right here]
    have split : top (cells (s :: rest)) = max (s.1 + s.2.length) (top (cells rest)) := by
      rw [← top_cellsFrom s.1 (nonempty s List.mem_cons_self), ← top_append]
      rfl
    rw [stacked, ends, ih ascending (fun t member => nonempty t (List.mem_cons_of_mem _ member)) first, split]
    omega

theorem Ascending.settled (ascending : Ascending read) (nonempty : ∀ s ∈ read, s.2 ≠ []) :
    Settled fill read [] where
  inOrder before s after split overtaken := by
    rw [split] at ascending
    exact absurd overtaken ascending.not_overtaken
  notRead := fun _ => nofun
  reaches a := by
    rw [← lt_stacked_zero_iff, List.append_nil, ascending.stacked_eq nonempty fun _ _ => Nat.zero_le _,
      Nat.zero_max]

theorem map_put_movesFrom (a : ℕ) (xs : List α) : (movesFrom a a xs).map Move.put = cellsFrom a xs := by
  induction xs generalizing a with
  | nil => rfl
  | cons x xs ih => exact congrArg _ (ih (a + 1))

/-- Each value is put where it belongs. -/
theorem Ascending.map_put_moves {segments : List (ℕ × List α)} (ascending : Ascending segments) {reach : ℕ}
    (above : ∀ s ∈ segments, reach ≤ s.1) : (moves reach segments).map Move.put = cells segments := by
  induction segments generalizing reach with
  | nil => rfl
  | cons s rest ih =>
    obtain ⟨first, ascending⟩ := List.pairwise_cons.mp ascending
    have here : max reach s.1 = s.1 := Nat.max_eq_right (above s List.mem_cons_self)
    rw [moves, here, List.map_append, map_put_movesFrom, ih ascending first]
    rfl

theorem Ascending.distinct {segments : List (ℕ × List α)} (ascending : Ascending segments) :
    ((cells segments).map Prod.fst).Nodup := by
  rw [← ascending.map_put_moves fun _ _ => Nat.zero_le _, List.map_map]
  exact nodup_moves 0 segments

theorem Ascending.lt_stacked {segments : List (ℕ × List α)} (ascending : Ascending segments) {c : ℕ × α}
    (member : c ∈ cells segments) : c.1 < stacked 0 segments := by
  rw [← ascending.map_put_moves fun _ _ => Nat.zero_le _] at member
  obtain ⟨m, moved, rfl⟩ := List.mem_map.mp member
  exact lt_stacked_of_mem_moves moved

end Settled

end Placement
