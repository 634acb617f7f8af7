import H9d.Core.Call

/-! # Calls that write a log

The state is a list to which a call appends. What holds of every entry that the parts append holds of every
entry that the call appends.
-/

namespace Cxx.Call

variable {σ τ ε α β : Type} {P : τ → Prop}

theorem outcome_of_eq {c : Call σ ε α} {s t : σ} {x : Outcome ε α} (run : c s = (x, t)) : c.outcome s = x :=
  congrArg Prod.fst run

theorem after_of_eq {c : Call σ ε α} {s t : σ} {x : Outcome ε α} (run : c s = (x, t)) : c.after s = t :=
  congrArg Prod.snd run

/-- The call adds entries to the log, each of which satisfies `P`. -/
def Appends (P : τ → Prop) (c : Call (List τ) ε α) : Prop :=
  ∀ log, ∃ added, c.after log = log ++ added ∧ ∀ entry ∈ added, P entry

namespace Appends

theorem of_after_eq {c : Call (List τ) ε α} (same : ∀ log, c.after log = log) : Appends P c := by
  intro log
  exact ⟨[], by rw [same, List.append_nil], fun entry among => absurd among List.not_mem_nil⟩

theorem pure (a : α) : Appends P (pure a : Call (List τ) ε α) := of_after_eq fun _ => rfl

theorem throw (e : ε) : Appends P (throw e : Call (List τ) ε α) := of_after_eq fun _ => rfl

theorem ofOutcome (x : Outcome ε α) : Appends P (ofOutcome x : Call (List τ) ε α) := of_after_eq fun _ => rfl

theorem append {entry : τ} (holds : P entry) :
    Appends P (modify fun log => log ++ [entry] : Call (List τ) ε Unit) := by
  intro log
  refine ⟨[entry], rfl, fun other among => ?_⟩
  rw [List.mem_singleton.mp among]
  exact holds

theorem bind {c : Call (List τ) ε α} {k : α → Call (List τ) ε β} (first : Appends P c)
    (rest : ∀ a, Appends P (k a)) : Appends P (c >>= k) := by
  intro log
  obtain ⟨added, after, holds⟩ := first log
  change ∃ more, (Call.bind c k log).2 = log ++ more ∧ _
  rw [Call.bind]
  cases c.outcome log with
  | value a =>
    obtain ⟨later, ended, also⟩ := rest a (c.after log)
    refine ⟨added ++ later, ?_, fun entry among => ?_⟩
    · change (k a).after (c.after log) = _
      rw [ended, after, List.append_assoc]
    · exact (List.mem_append.mp among).elim (holds entry) (also entry)
  | throws e => exact ⟨added, after, holds⟩
  | undefined => exact ⟨added, after, holds⟩

/-- What a call writes to an empty log. -/
theorem of_empty {c : Call (List τ) ε α} (appends : Appends P c) {entry : τ}
    (among : entry ∈ c.after []) : P entry := by
  obtain ⟨added, after, holds⟩ := appends []
  rw [after, List.nil_append] at among
  exact holds entry among

end Appends

end Cxx.Call
