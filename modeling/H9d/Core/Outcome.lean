import Mathlib.Data.Option.Basic

/-! # Outcomes of a call

A call returns a value, leaves with an exception, or runs into undefined behaviour. The last two are
kept apart: an exception can be caught, and nothing can be said after undefined behaviour.
-/

namespace Cxx

inductive Outcome (ε α : Type)
  | value (a : α)
  | throws (e : ε)
  | undefined
  deriving DecidableEq, Repr

namespace Outcome

variable {ε α β : Type}

def bind (x : Outcome ε α) (f : α → Outcome ε β) : Outcome ε β :=
  match x with
  | value a => f a
  | throws e => throws e
  | undefined => undefined

instance : Monad (Outcome ε) where
  pure := value
  bind := bind

protected theorem id_map (x : Outcome ε α) : id <$> x = x := by
  cases x <;> rfl

protected theorem bind_assoc {γ : Type} (x : Outcome ε α) (f : α → Outcome ε β) (g : β → Outcome ε γ) :
    x >>= f >>= g = x >>= fun a => f a >>= g := by
  cases x <;> rfl

instance : LawfulMonad (Outcome ε) :=
  LawfulMonad.mk' _ Outcome.id_map (fun _ _ => rfl) Outcome.bind_assoc

@[simp] theorem pure_eq (a : α) : (pure a : Outcome ε α) = value a := rfl

@[simp] theorem value_bind (a : α) (f : α → Outcome ε β) : value a >>= f = f a := rfl

@[simp] theorem throws_bind (e : ε) (f : α → Outcome ε β) : throws e >>= f = throws e := rfl

@[simp] theorem undefined_bind (f : α → Outcome ε β) : (undefined : Outcome ε α) >>= f = undefined :=
  rfl

theorem bind_eq_value {x : Outcome ε α} {f : α → Outcome ε β} {b : β} :
    x >>= f = value b ↔ ∃ a, x = value a ∧ f a = value b := by
  cases x with
  | value a =>
    rw [value_bind]
    exact ⟨fun h => ⟨a, rfl, h⟩, by rintro ⟨_, ⟨⟩, h⟩; exact h⟩
  | throws e => exact ⟨nofun, by rintro ⟨_, ⟨⟩, _⟩⟩
  | undefined => exact ⟨nofun, by rintro ⟨_, ⟨⟩, _⟩⟩

/-- The call ends, and only exceptions that satisfy `P` leave it. -/
def Only (P : ε → Prop) : Outcome ε α → Prop
  | value _ => True
  | throws e => P e
  | undefined => False

/-- The call ends, with a value or with any exception. -/
def Defined (x : Outcome ε α) : Prop := x.Only fun _ => True

/-- The call ends with a value. -/
def Returns (x : Outcome ε α) : Prop := x.Only fun _ => False

section Only

variable {P : ε → Prop}

@[simp] theorem only_value (a : α) : (value a : Outcome ε α).Only P := trivial

@[simp] theorem only_throws (e : ε) : (throws e : Outcome ε α).Only P ↔ P e := Iff.rfl

@[simp] theorem not_only_undefined : ¬(undefined : Outcome ε α).Only P := id

@[simp] theorem defined_value (a : α) : (value a : Outcome ε α).Defined := trivial

@[simp] theorem defined_throws (e : ε) : (throws e : Outcome ε α).Defined := trivial

@[simp] theorem not_defined_undefined : ¬(undefined : Outcome ε α).Defined := id

@[simp] theorem returns_value (a : α) : (value a : Outcome ε α).Returns := trivial

@[simp] theorem not_returns_throws (e : ε) : ¬(throws e : Outcome ε α).Returns := id

@[simp] theorem not_returns_undefined : ¬(undefined : Outcome ε α).Returns := id

theorem returns_iff {x : Outcome ε α} : x.Returns ↔ ∃ a, x = value a := by
  cases x <;> simp

theorem returns_iff_defined {x : Outcome ε α} : x.Returns ↔ x.Defined ∧ ∀ e, x ≠ throws e := by
  cases x <;> simp

theorem only_bind {x : Outcome ε α} {f : α → Outcome ε β} :
    (x >>= f).Only P ↔ x.Only P ∧ ∀ a, x = value a → (f a).Only P := by
  cases x with
  | value a => simp
  | throws e => simp
  | undefined => simp

/-- A loop returns if every round does, where the state has no say in it. -/
theorem returns_foldlM {σ : Type} {f : σ → α → Outcome ε σ} {Q : α → Prop}
    (round : ∀ s a, (f s a).Returns ↔ Q a) (as : List α) (s : σ) :
    (as.foldlM f s).Returns ↔ ∀ a ∈ as, Q a := by
  induction as generalizing s with
  | nil => simp
  | cons a as ih =>
    rw [List.foldlM_cons, List.forall_mem_cons, ← round s a]
    cases f s a with
    | value t => simpa using ih t
    | throws e => simp
    | undefined => simp

end Only

/-- What the call returns satisfies `Q`, if it returns. -/
def Gives (Q : α → Prop) (x : Outcome ε α) : Prop := ∀ a, x = value a → Q a

section Gives

variable {Q : α → Prop}

@[simp] theorem gives_value (a : α) : (value a : Outcome ε α).Gives Q ↔ Q a := by
  simp [Gives]

@[simp] theorem gives_throws (e : ε) : (throws e : Outcome ε α).Gives Q := nofun

@[simp] theorem gives_undefined : (undefined : Outcome ε α).Gives Q := nofun

theorem gives_of_forall (all : ∀ a, Q a) (x : Outcome ε α) : x.Gives Q := fun a _ => all a

end Gives

section Loops

variable {σ τ : Type}

/-- What each round keeps holds after the loop. -/
theorem foldlM_invariant {P : σ → Prop} {f : σ → α → Outcome ε σ}
    (round : ∀ s a t, P s → f s a = value t → P t) {as : List α} {s t : σ} (start : P s)
    (ran : as.foldlM f s = value t) : P t := by
  induction as generalizing s with
  | nil =>
    cases ran
    exact start
  | cons a as ih =>
    rw [List.foldlM_cons, bind_eq_value] at ran
    obtain ⟨next, first, rest⟩ := ran
    exact ih (round s a next start first) rest

/-- A loop on what is seen of the state, where each round keeps to it. -/
theorem map_foldlM {view : σ → τ} {f : σ → α → Outcome ε σ} {g : τ → α → Outcome ε τ}
    (round : ∀ s a, view <$> f s a = g (view s) a) (as : List α) (s : σ) :
    view <$> as.foldlM f s = as.foldlM g (view s) := by
  induction as generalizing s with
  | nil => rfl
  | cons a as ih =>
    rw [List.foldlM_cons, List.foldlM_cons, ← round s a, map_bind, bind_map_left]
    exact bind_congr fun next => ih next

end Loops

end Outcome

end Cxx
