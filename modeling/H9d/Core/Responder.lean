import Mathlib.Data.List.Basic
import Mathlib.Data.Option.Basic

/-! # Machines that answer

A responder takes one input after the other, gives an output for each, and goes on in a new state or ends. Two
responders whose states are related give the same outputs if each input of theirs keeps the relation.
-/

namespace Machine

/-- The output for an input, and the state after it; `none` is the end. -/
abbrev Responder (σ ι ω : Type*) := σ → ι → ω × Option σ

namespace Responder

variable {σ τ ι ω : Type*}

/-- The outputs for the inputs up to the end, and the state behind them. -/
def run (m : Responder σ ι ω) : σ → List ι → List ω × Option σ
  | s, [] => ([], some s)
  | s, i :: later =>
      match (m s i).2 with
      | some next => ((m s i).1 :: (run m next later).1, (run m next later).2)
      | none => ([(m s i).1], none)

/-- The outputs are the same; both go on in related states, or both end. -/
structure Agree (R : σ → τ → Prop) (x : ω × Option σ) (y : ω × Option τ) : Prop where
  output : x.1 = y.1
  next : Option.Rel R x.2 y.2

variable {m : Responder σ ι ω} {n : Responder τ ι ω} {R : σ → τ → Prop} {s : σ} {t : τ}

/-- What each input keeps, a run keeps. -/
theorem agree_run {inputs : List ι} (each : ∀ s t, R s t → ∀ i ∈ inputs, Agree R (m s i) (n t i))
    (related : R s t) : Agree R (run m s inputs) (run n t inputs) := by
  induction inputs generalizing s t with
  | nil => exact ⟨rfl, .some related⟩
  | cons i later ih =>
    obtain ⟨output, next⟩ := each s t related i List.mem_cons_self
    simp only [run, output]
    cases ran : (m s i).2 <;> cases ran' : (n t i).2 <;> simp only [ran, ran'] at next
    · exact ⟨rfl, .none⟩
    · cases next
    · cases next
    · have kept := ih (fun s t r j among => each s t r j (List.mem_cons_of_mem i among)) (Option.rel_some_some.mp next)
      exact ⟨congrArg _ kept.output, kept.next⟩

end Responder

end Machine
