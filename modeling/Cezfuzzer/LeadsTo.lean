import Mathlib.Order.WellFounded
import Cezfuzzer.StepRuns

set_option autoImplicit false

/-!
# What a machine can still reach

`Leads step ok P Q`: from every state in `P` some run, all of whose steps meet `ok`, goes on to
a state in `Q`. The rule of proof is a rank that some step makes smaller as long as `Q` has not
been reached.
-/
namespace Cezfuzzer.LeadsTo
open StepRuns

variable {σ ε : Type*} {step : σ → ε → Option σ} {ok : σ → ε → Prop} {P Q R : σ → Prop}

theorem runs_append {s t u : σ} {es es' : List ε} (h : Runs step ok s es t)
    (h' : Runs step ok t es' u) : Runs step ok s (es ++ es') u := by
  induction h' with
  | refl => rwa [List.append_nil]
  | next _ met h ih =>
    rw [← List.append_assoc]
    exact .next ih met h

theorem runs_single {s t : σ} {e : ε} (met : ok s e) (h : step s e = some t) :
    Runs step ok s [e] t := Runs.cons met h .refl

def Leads (step : σ → ε → Option σ) (ok : σ → ε → Prop) (P Q : σ → Prop) : Prop :=
  ∀ s, P s → ∃ es u, Runs step ok s es u ∧ Q u

theorem Leads.of_imp (h : ∀ s, P s → Q s) : Leads step ok P Q :=
  fun s hs => ⟨[], s, .refl, h s hs⟩

theorem Leads.trans (h : Leads step ok P Q) (h' : Leads step ok Q R) : Leads step ok P R := by
  intro s hs
  obtain ⟨es, t, run, ht⟩ := h s hs
  obtain ⟨es', u, run', hu⟩ := h' t ht
  exact ⟨es ++ es', u, runs_append run run', hu⟩

theorem Leads.mono (h : Leads step ok P Q) (weaker : ∀ s, Q s → R s) : Leads step ok P R :=
  h.trans (of_imp weaker)

theorem Leads.cases (h : Leads step ok P (fun s => Q s ∨ R s)) (h' : Leads step ok Q R) :
    Leads step ok P R :=
  h.trans fun s hs => hs.elim (h' s) (fun done => ⟨[], s, .refl, done⟩)

theorem Leads.or_trans {Q' : σ → Prop} (h : Leads step ok P (fun s => Q s ∨ R s))
    (h' : Leads step ok Q (fun s => Q' s ∨ R s)) : Leads step ok P (fun s => Q' s ∨ R s) :=
  h.trans fun s hs => hs.elim (h' s) (fun done => ⟨[], s, .refl, Or.inr done⟩)

theorem Leads.of_step (h : ∀ s, P s → ∃ e t, ok s e ∧ step s e = some t ∧ Q t) :
    Leads step ok P Q := by
  intro s hs
  obtain ⟨e, t, met, ht, ok'⟩ := h s hs
  exact ⟨[e], t, runs_single met ht, ok'⟩

/-- As long as the goal has not been reached, some run makes the rank smaller. -/
theorem Leads.of_rank {ι : Type*} [Preorder ι] [WellFoundedLT ι] (rank : σ → ι)
    (falls : ∀ s, P s → ∃ es t, Runs step ok s es t ∧ (Q t ∨ P t ∧ rank t < rank s)) :
    Leads step ok P Q := by
  intro s
  induction h : rank s using WellFoundedLT.induction generalizing s with
  | ind n ih =>
    intro hs
    obtain ⟨es, t, run, done | ⟨kept, less⟩⟩ := falls s hs
    · exact ⟨es, t, run, done⟩
    · obtain ⟨es', u, run', hu⟩ := ih (rank t) (h ▸ less) t rfl kept
      exact ⟨es ++ es', u, runs_append run run', hu⟩

/-- What can always be made to grow gets as large as one likes. -/
theorem Leads.grows (count : σ → ℕ)
    (more : ∀ n, Leads step ok (fun s => P s ∧ count s = n) (fun s => P s ∧ n < count s)) (n : ℕ) :
    Leads step ok P (fun s => P s ∧ n ≤ count s) := by
  induction n with
  | zero => exact Leads.of_imp fun s hs => ⟨hs, Nat.zero_le _⟩
  | succ n ih =>
    refine ih.trans fun s ⟨hs, le⟩ => ?_
    obtain ⟨es, u, run, hu, lt⟩ := more (count s) s ⟨hs, rfl⟩
    exact ⟨es, u, run, hu, by omega⟩

end Cezfuzzer.LeadsTo
