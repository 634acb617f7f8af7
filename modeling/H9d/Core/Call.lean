import H9d.Core.Outcome

/-! # Calls with a state

A call reads and writes a state and has an outcome. The state is there also when the call throws,
so a caller that catches the exception goes on from what the callee left behind.
-/

namespace Cxx

def Call (σ ε α : Type) := σ → Outcome ε α × σ

namespace Call

variable {σ τ ρ ε ε' α β : Type}

def outcome (c : Call σ ε α) (s : σ) : Outcome ε α := (c s).1

/-- The state that the call leaves behind, whatever its outcome. -/
def after (c : Call σ ε α) (s : σ) : σ := (c s).2

protected def bind (c : Call σ ε α) (k : α → Call σ ε β) : Call σ ε β := fun s =>
  match c.outcome s with
  | .value a => k a (c.after s)
  | .throws e => (.throws e, c.after s)
  | .undefined => (.undefined, c.after s)

instance : Monad (Call σ ε) where
  pure a := fun s => (.value a, s)
  bind := Call.bind

protected theorem id_map (c : Call σ ε α) : id <$> c = c := by
  funext s
  change Call.bind c pure s = c s
  rw [Call.bind, outcome, after]
  generalize c s = result
  obtain ⟨x, t⟩ := result
  cases x <;> rfl

protected theorem bind_assoc {γ : Type} (c : Call σ ε α) (f : α → Call σ ε β) (g : β → Call σ ε γ) :
    c >>= f >>= g = c >>= fun a => f a >>= g := by
  funext s
  change Call.bind (Call.bind c f) g s = Call.bind c (fun a => Call.bind (f a) g) s
  simp only [Call.bind, outcome, after]
  cases (c s).1 <;> rfl

instance : LawfulMonad (Call σ ε) :=
  LawfulMonad.mk' _ Call.id_map (fun _ _ => rfl) Call.bind_assoc

def throw (e : ε) : Call σ ε α := fun s => (.throws e, s)

def undefined : Call σ ε α := fun s => (.undefined, s)

def read (f : σ → α) : Call σ ε α := fun s => (.value (f s), s)

def modify (f : σ → σ) : Call σ ε Unit := fun s => (.value (), f s)

/-- A computation without state. -/
def ofOutcome (x : Outcome ε α) : Call σ ε α := fun s => (x, s)

/-- `try` with a handler for every exception of the body; the handler may throw others. -/
def tryCatch (c : Call σ ε α) (handler : ε → Call σ ε' α) : Call σ ε' α := fun s =>
  match c.outcome s with
  | .value a => (.value a, c.after s)
  | .throws e => handler e (c.after s)
  | .undefined => (.undefined, c.after s)

/-- A call on a part of the state. -/
def on (get : σ → τ) (set : τ → σ → σ) (c : Call τ ε α) : Call σ ε α := fun s =>
  (c.outcome (get s), set (c.after (get s)) s)

section Outcomes

variable {P : ε → Prop} {s : σ}

@[simp] theorem outcome_pure (a : α) (s : σ) : (pure a : Call σ ε α).outcome s = .value a := rfl

@[simp] theorem outcome_throw (e : ε) (s : σ) : (throw e : Call σ ε α).outcome s = .throws e := rfl

@[simp] theorem outcome_undefined (s : σ) : (undefined : Call σ ε α).outcome s = .undefined := rfl

@[simp] theorem outcome_modify (f : σ → σ) (s : σ) : (modify f : Call σ ε Unit).outcome s = .value () :=
  rfl

@[simp] theorem outcome_ofOutcome (x : Outcome ε α) (s : σ) : (ofOutcome x : Call σ ε α).outcome s = x :=
  rfl

@[simp] theorem outcome_on (get : σ → τ) (set : τ → σ → σ) (c : Call τ ε α) (s : σ) :
    (c.on get set).outcome s = c.outcome (get s) := rfl

@[simp] theorem read_bind (f : σ → α) (k : α → Call σ ε β) (s : σ) :
    (read f >>= k).outcome s = (k (f s)).outcome s := rfl

theorem read_bind_apply (f : σ → α) (k : α → Call σ ε β) (s : σ) : (read f >>= k) s = k (f s) s := rfl

theorem after_read_bind (f : σ → α) (k : α → Call σ ε β) (s : σ) :
    (read f >>= k).after s = (k (f s)).after s := rfl

@[simp] theorem after_bind_pure (c : Call σ ε α) (f : α → β) (s : σ) :
    (c >>= fun a => pure (f a)).after s = c.after s := by
  change (Call.bind c (fun a => pure (f a)) s).2 = _
  rw [Call.bind]
  cases c.outcome s <;> rfl

theorem outcome_bind_of_value {c : Call σ ε α} {a : α} (value : c.outcome s = .value a)
    (k : α → Call σ ε β) : (c >>= k).outcome s = (k a).outcome (c.after s) := by
  change (Call.bind c k s).1 = _
  rw [Call.bind, value]
  rfl

theorem outcome_bind_of_throws {c : Call σ ε α} {e : ε} (throws : c.outcome s = .throws e)
    (k : α → Call σ ε β) : (c >>= k).outcome s = .throws e := by
  change (Call.bind c k s).1 = _
  rw [Call.bind, throws]

theorem outcome_bind_of_undefined {c : Call σ ε α} (undefined : c.outcome s = .undefined)
    (k : α → Call σ ε β) : (c >>= k).outcome s = .undefined := by
  change (Call.bind c k s).1 = _
  rw [Call.bind, undefined]

theorem outcome_bind_eq_value {c : Call σ ε α} {k : α → Call σ ε β} {b : β} :
    (c >>= k).outcome s = .value b ↔
      ∃ a, c.outcome s = .value a ∧ (k a).outcome (c.after s) = .value b := by
  change (Call.bind c k s).1 = _ ↔ _
  rw [Call.bind]
  cases c.outcome s with
  | value a => exact ⟨fun value => ⟨a, rfl, value⟩, by rintro ⟨_, ⟨⟩, value⟩; exact value⟩
  | throws e => exact ⟨nofun, by rintro ⟨_, ⟨⟩, _⟩⟩
  | undefined => exact ⟨nofun, by rintro ⟨_, ⟨⟩, _⟩⟩

theorem only_bind {c : Call σ ε α} {k : α → Call σ ε β} :
    ((c >>= k).outcome s).Only P ↔
      (c.outcome s).Only P ∧ ∀ a, c.outcome s = .value a → ((k a).outcome (c.after s)).Only P := by
  change (Call.bind c k s).1.Only P ↔ _
  rw [Call.bind]
  cases value : c.outcome s with
  | value a => simp [outcome]
  | throws e => simp
  | undefined => simp

/-- When what follows is harmless, only the first call counts. -/
theorem only_bind_of_forall {c : Call σ ε α} {k : α → Call σ ε β}
    (harmless : ∀ a s, ((k a).outcome s).Only P) :
    ((c >>= k).outcome s).Only P ↔ (c.outcome s).Only P := by
  rw [only_bind]
  exact and_iff_left fun a _ => harmless a _

/-- If every exception is turned into one that may leave, the body only has to end. -/
theorem only_tryCatch {P : ε' → Prop} {c : Call σ ε α} {handler : ε → Call σ ε' α}
    (handled : ∀ e s, ((handler e).outcome s).Only P) :
    ((tryCatch c handler).outcome s).Only P ↔ (c.outcome s).Defined := by
  change (tryCatch c handler s).1.Only P ↔ _
  rw [tryCatch]
  cases c.outcome s with
  | value a => simp
  | throws e => exact iff_of_true (handled e _) trivial
  | undefined => simp

theorem outcome_tryCatch_of_throws {c : Call σ ε α} {handler : ε → Call σ ε' α} {e : ε}
    (throws : c.outcome s = .throws e) :
    (tryCatch c handler).outcome s = (handler e).outcome (c.after s) := by
  change (tryCatch c handler s).1 = _
  rw [tryCatch, throws]
  rfl

end Outcomes

section Gives

variable {Q : α → Prop} {c : Call σ ε β} {k : β → Call σ ε α} {s : σ}

theorem gives_bind :
    ((c >>= k).outcome s).Gives Q ↔ ∀ b, c.outcome s = .value b → ((k b).outcome (c.after s)).Gives Q := by
  simp only [Outcome.Gives, outcome_bind_eq_value]
  constructor
  · exact fun all b first a last => all a ⟨b, first, last⟩
  · rintro all a ⟨b, first, last⟩
    exact all b first a last

theorem gives_bind_pure (f : β → α) :
    ((c >>= fun b => pure (f b)).outcome s).Gives Q ↔ (c.outcome s).Gives fun b => Q (f b) := by
  rw [gives_bind]
  exact forall₂_congr fun b _ => Outcome.gives_value _

/-- If what comes last is fine, the call is. -/
theorem gives_bind_of_forall (all : ∀ b s, ((k b).outcome s).Gives Q) : ((c >>= k).outcome s).Gives Q :=
  gives_bind.mpr fun b _ => all b _

/-- A `catch` that throws again. -/
theorem gives_tryCatch {c : Call σ ε α} (handler : ε → ε') :
    ((tryCatch c fun e => throw (handler e)).outcome s).Gives Q ↔ (c.outcome s).Gives Q := by
  change (tryCatch _ _ s).1.Gives Q ↔ _
  rw [tryCatch]
  cases c.outcome s with
  | value a => exact (Outcome.gives_value a).trans (Outcome.gives_value a).symm
  | throws e => exact iff_of_true nofun nofun
  | undefined => exact iff_of_true nofun nofun

end Gives

/-- An observation of the state that no run of the call changes. -/
def Preserves (f : σ → ρ) (c : Call σ ε α) : Prop := ∀ s, f (c.after s) = f s

namespace Preserves

variable {f : σ → ρ}

theorem pure (a : α) : Preserves f (pure a : Call σ ε α) := fun _ => rfl

theorem throw (e : ε) : Preserves f (throw e : Call σ ε α) := fun _ => rfl

theorem undefined : Preserves f (undefined : Call σ ε α) := fun _ => rfl

theorem read (g : σ → α) : Preserves f (read g : Call σ ε α) := fun _ => rfl

theorem modify {g : σ → σ} (kept : ∀ s, f (g s) = f s) : Preserves f (modify g : Call σ ε Unit) := kept

theorem bind {c : Call σ ε α} {k : α → Call σ ε β} (first : Preserves f c)
    (rest : ∀ a, Preserves f (k a)) : Preserves f (c >>= k) := by
  intro s
  change f (Call.bind c k s).2 = f s
  rw [Call.bind]
  cases c.outcome s with
  | value a => exact (rest a _).trans (first s)
  | throws e => exact first s
  | undefined => exact first s

theorem tryCatch {c : Call σ ε α} {handler : ε → Call σ ε' α} (body : Preserves f c)
    (handled : ∀ e, Preserves f (handler e)) : Preserves f (tryCatch c handler) := by
  intro s
  change f (Call.tryCatch c handler s).2 = f s
  rw [Call.tryCatch]
  cases c.outcome s with
  | value a => exact body s
  | throws e => exact (handled e _).trans (body s)
  | undefined => exact body s

end Preserves

/-- Every exception that leaves the call satisfies `P`, whatever the state. -/
def Throws (P : ε → Prop) (c : Call σ ε α) : Prop := ∀ s e, c.outcome s = .throws e → P e

namespace Throws

variable {P : ε → Prop} {Q : ε' → Prop}

theorem pure (a : α) : Throws P (pure a : Call σ ε α) := nofun

theorem throw {e : ε} (holds : P e) : Throws P (throw e : Call σ ε α) := by
  rintro s _ ⟨⟩
  exact holds

theorem undefined : Throws P (undefined : Call σ ε α) := nofun

/-- Of a value that may not be there. -/
theorem guard {p : Prop} [Decidable p] (a : α) :
    Throws P (ofOutcome (if p then .value a else .undefined) : Call σ ε α) := by
  intro s e throws
  rw [outcome_ofOutcome] at throws
  split at throws <;> cases throws

theorem read (f : σ → α) : Throws P (read f : Call σ ε α) := nofun

theorem modify (f : σ → σ) : Throws P (modify f : Call σ ε Unit) := nofun

theorem bind {c : Call σ ε α} {k : α → Call σ ε β} (first : Throws P c) (rest : ∀ a, Throws P (k a)) :
    Throws P (c >>= k) := by
  intro s e throws
  change (Call.bind c k s).1 = _ at throws
  rw [Call.bind] at throws
  cases outcome : c.outcome s with
  | value a =>
    rw [outcome] at throws
    exact rest a _ e throws
  | throws e' =>
    rw [outcome] at throws
    obtain rfl : e' = e := Outcome.throws.inj throws
    exact first s e' outcome
  | undefined =>
    rw [outcome] at throws
    cases throws

theorem on {get : σ → τ} {set : τ → σ → σ} {c : Call τ ε α} (body : Throws P c) :
    Throws P (c.on get set) :=
  fun _ e throws => body _ e throws

/-- What leaves a `try` comes from its handler. -/
theorem tryCatch {c : Call σ ε α} {handler : ε → Call σ ε' α} (body : Throws P c)
    (handled : ∀ e, P e → Throws Q (handler e)) : Throws Q (tryCatch c handler) := by
  intro s e throws
  change (Call.tryCatch c handler s).1 = _ at throws
  rw [Call.tryCatch] at throws
  cases outcome : c.outcome s with
  | value a =>
    rw [outcome] at throws
    cases throws
  | throws e' =>
    rw [outcome] at throws
    exact handled e' (body s e' outcome) _ e throws
  | undefined =>
    rw [outcome] at throws
    cases throws

theorem any (c : Call σ ε α) : Throws (fun _ => True) c := fun _ _ _ => trivial

end Throws

/-- The call throws, and what is observed of the state is as before. -/
def Refuses (f : σ → ρ) (c : Call σ ε α) (s : σ) : Prop :=
  (∃ e, c.outcome s = .throws e) ∧ f (c.after s) = f s

section Refuses

variable {f : σ → ρ} {c : Call σ ε α} {s : σ}

theorem refuses_throw (e : ε) : Refuses f (throw e : Call σ ε α) s := ⟨⟨e, rfl⟩, rfl⟩

theorem not_refuses_pure (a : α) : ¬Refuses f (pure a : Call σ ε α) s := by
  rintro ⟨⟨_, ⟨⟩⟩, -⟩

theorem refuses_bind_pure (g : α → β) : Refuses f (c >>= fun a => pure (g a)) s ↔ Refuses f c s := by
  rw [Refuses, after_bind_pure]
  refine and_congr_left fun _ => exists_congr fun e => ?_
  change (Call.bind c _ s).1 = _ ↔ _
  rw [Call.bind]
  cases c.outcome s <;> simp

/-- A `catch` that throws again keeps a refusal of a part of the state. -/
theorem refuses_tryCatch_on {get : σ → τ} {set : τ → σ → σ} {c : Call τ ε α} (handler : ε → ε')
    (lens : ∀ t, get (set t s) = t) :
    Refuses get (tryCatch (c.on get set) fun e => throw (handler e)) s ↔ Refuses id c (get s) := by
  change (∃ e, (tryCatch _ _ s).1 = _) ∧ get (tryCatch _ _ s).2 = get s ↔ _
  rw [Refuses, tryCatch, outcome_on]
  cases c.outcome (get s) with
  | value a => simp
  | throws e =>
    change (∃ e', Outcome.throws (handler e) = _) ∧ get (set (c.after (get s)) s) = get s ↔ _
    simp [lens]
  | undefined => simp

end Refuses

end Call

end Cxx
