import Mathlib.Data.List.Induction

set_option autoImplicit false

/-!
# Runs of a partial step function

A machine is a function `step : σ → ε → Option σ`: an event carries every choice its step
makes, and `none` says that the event cannot happen in that state. A run keeps the events
in order, and may ask a condition `ok` of the state before each step.
-/
namespace Cezfuzzer.StepRuns

variable {σ ε : Type*}

inductive Runs (step : σ → ε → Option σ) (ok : σ → ε → Prop) (s : σ) : List ε → σ → Prop where
  | refl : Runs step ok s [] s
  | next {es : List ε} {t u : σ} {e : ε} (head : Runs step ok s es t)
      (met : ok t e) (h : step t e = some u) : Runs step ok s (es ++ [e]) u

def anyStep (_ : σ) (_ : ε) : Prop := True

/-- What holds at the start and is kept by every step holds after every run. -/
theorem Runs.invariant {step : σ → ε → Option σ} {ok : σ → ε → Prop} {s u : σ} {es : List ε}
    (I : List ε → σ → Prop) (base : I [] s)
    (preserve : ∀ es t e u, I es t → ok t e → step t e = some u → I (es ++ [e]) u)
    (h : Runs step ok s es u) : I es u := by
  induction h with
  | refl => exact base
  | next _ met h ih => exact preserve _ _ _ _ ih met h

theorem Runs.state_invariant {step : σ → ε → Option σ} {ok : σ → ε → Prop} {s u : σ} {es : List ε}
    (I : σ → Prop) (base : I s) (preserve : ∀ t e u, I t → ok t e → step t e = some u → I u)
    (h : Runs step ok s es u) : I u :=
  h.invariant (fun _ => I) base (fun _ => preserve)

theorem Runs.mono {step : σ → ε → Option σ} {ok ok' : σ → ε → Prop} {s u : σ} {es : List ε}
    (weaker : ∀ t e, ok t e → ok' t e) (h : Runs step ok s es u) : Runs step ok' s es u := by
  induction h with
  | refl => exact .refl
  | next _ met h ih => exact .next ih (weaker _ _ met) h

theorem Runs.forget {step : σ → ε → Option σ} {ok : σ → ε → Prop} {s u : σ} {es : List ε}
    (h : Runs step ok s es u) : Runs step anyStep s es u :=
  h.mono (fun _ _ _ => trivial)

/-- A condition on the events alone. -/
theorem Runs.events_iff {step : σ → ε → Option σ} {p : ε → Prop} {s u : σ} {es : List ε} :
    Runs step (fun _ e => p e) s es u ↔ Runs step anyStep s es u ∧ ∀ e ∈ es, p e := by
  constructor
  · intro h
    refine ⟨h.forget, h.invariant (fun es _ => ∀ e ∈ es, p e) (by simp) ?_⟩
    intro es t e u all met _
    exact List.forall_mem_append.mpr ⟨all, by simpa using met⟩
  · rintro ⟨h, all⟩
    induction h with
    | refl => exact .refl
    | next _ _ h ih =>
      obtain ⟨before, last⟩ := List.forall_mem_append.mp all
      exact .next (ih before) (last _ List.mem_cons_self) h

/-- Under an invariant the condition that a run meets may imply another. -/
theorem Runs.ensures {step : σ → ε → Option σ} {ok ok' : σ → ε → Prop} {s u : σ} {es : List ε}
    (I : σ → Prop) (base : I s) (preserve : ∀ t e u, I t → ok t e → step t e = some u → I u)
    (sound : ∀ t e u, I t → ok t e → step t e = some u → ok' t e)
    (h : Runs step ok s es u) : Runs step ok' s es u := by
  have both : I u ∧ Runs step ok' s es u := by
    induction h with
    | refl => exact ⟨base, .refl⟩
    | next _ met h ih => exact ⟨preserve _ _ _ ih.1 met h, .next ih.2 (sound _ _ _ ih.1 met h) h⟩
  exact both.2

/-- A part of a machine runs by itself: the events that belong to it are steps of the part, and
    the others leave it as it is. -/
theorem Runs.project {σ' ε' : Type*} {step : σ → ε → Option σ} {ok : σ → ε → Prop}
    {step' : σ' → ε' → Option σ'} {s u : σ} {es : List ε} (part : ε → Option ε') (view : σ → σ')
    (I : σ → Prop) (base : I s) (preserve : ∀ t e u, I t → ok t e → step t e = some u → I u)
    (own : ∀ t e e' u, I t → step t e = some u → part e = some e' →
      step' (view t) e' = some (view u))
    (other : ∀ t e u, I t → step t e = some u → part e = none → view u = view t)
    (h : Runs step ok s es u) : Runs step' anyStep (view s) (es.filterMap part) (view u) := by
  have both : I u ∧ Runs step' anyStep (view s) (es.filterMap part) (view u) := by
    induction h with
    | refl => exact ⟨base, .refl⟩
    | @next es t u e _ met h ih =>
      refine ⟨preserve _ _ _ ih.1 met h, ?_⟩
      rw [List.filterMap_append]
      cases belongs : part e with
      | none =>
        rw [List.filterMap_cons_none belongs, List.filterMap_nil, List.append_nil,
          other t e u ih.1 h belongs]
        exact ih.2
      | some e' =>
        rw [List.filterMap_cons_some belongs, List.filterMap_nil]
        exact .next ih.2 trivial (own t e e' u ih.1 h belongs)
  exact both.2

/-- Another machine follows a run, with a step of its own or by staying where it is. -/
theorem Runs.simulate {σ' ε' : Type*} {step : σ → ε → Option σ} {ok : σ → ε → Prop}
    {step' : σ' → ε' → Option σ'} {ok' : σ' → ε' → Prop} {s u : σ} {s' : σ'} {es : List ε}
    (R : σ → σ' → Prop) (start : R s s')
    (follow : ∀ t e u t', R t t' → ok t e → step t e = some u →
      R u t' ∨ ∃ e' u', ok' t' e' ∧ step' t' e' = some u' ∧ R u u')
    (h : Runs step ok s es u) : ∃ es' u', Runs step' ok' s' es' u' ∧ R u u' := by
  induction h with
  | refl => exact ⟨[], s', .refl, start⟩
  | @next es t u e _ met h ih =>
    obtain ⟨es', t', run, related⟩ := ih
    rcases follow t e u t' related met h with stays | ⟨e', u', met', h', related'⟩
    · exact ⟨es', t', run, stays⟩
    · exact ⟨es' ++ [e'], u', .next run met' h', related'⟩

/-- The state after a list of events, if each of them can happen in turn. -/
def execute (step : σ → ε → Option σ) (s : σ) (es : List ε) : Option σ := es.foldlM step s

theorem exists_execute (step : σ → ε → Option σ) (s : σ) (es : List ε) (p : σ → Bool)
    (h : (execute step s es).any p = true) : ∃ u, execute step s es = some u ∧ p u = true := by
  cases hu : execute step s es with
  | none => simp [hu] at h
  | some u => exact ⟨u, rfl, by simpa [hu] using h⟩

/-- The same machine, with the steps that miss the condition cut off. -/
def guarded (step : σ → ε → Option σ) (ok : σ → ε → Prop) [∀ s e, Decidable (ok s e)]
    (s : σ) (e : ε) : Option σ := if ok s e then step s e else none

theorem guarded_some {step : σ → ε → Option σ} {ok : σ → ε → Prop} [∀ s e, Decidable (ok s e)]
    {s u : σ} {e : ε} (h : guarded step ok s e = some u) : ok s e ∧ step s e = some u := by
  unfold guarded at h
  split at h
  · rename_i met
    exact ⟨met, h⟩
  · cases h

theorem execute_append (step : σ → ε → Option σ) (s : σ) (es : List ε) (e : ε) :
    execute step s (es ++ [e]) = (execute step s es).bind (fun t => step t e) := by
  simp [execute, List.foldlM_append]

theorem Runs.execute_eq {step : σ → ε → Option σ} {ok : σ → ε → Prop} {s u : σ} {es : List ε}
    (h : Runs step ok s es u) : execute step s es = some u := by
  induction h with
  | refl => rfl
  | next _ _ h ih => rw [execute_append, ih, Option.bind_some, h]

/-- The events decide the state. -/
theorem Runs.unique {step : σ → ε → Option σ} {ok ok' : σ → ε → Prop} {s u u' : σ} {es : List ε}
    (h : Runs step ok s es u) (h' : Runs step ok' s es u') : u = u' :=
  Option.some.inj (h.execute_eq.symm.trans h'.execute_eq)

theorem Runs.nil_eq {step : σ → ε → Option σ} {ok : σ → ε → Prop} {s u : σ}
    (h : Runs step ok s [] u) : u = s := by
  generalize hl : ([] : List ε) = l at h
  cases h with
  | refl => rfl
  | next => simp at hl

theorem Runs.snoc_iff {step : σ → ε → Option σ} {ok : σ → ε → Prop} {s u : σ} {es : List ε}
    {e : ε} : Runs step ok s (es ++ [e]) u ↔
      ∃ t, Runs step ok s es t ∧ ok t e ∧ step t e = some u := by
  constructor
  · intro h
    generalize hl : es ++ [e] = l at h
    cases h with
    | refl => simp at hl
    | next head met step =>
      obtain ⟨rfl, same⟩ := List.append_inj' hl rfl
      cases same
      exact ⟨_, head, met, step⟩
  · rintro ⟨t, head, met, step⟩
    exact .next head met step

theorem Runs.cons {step : σ → ε → Option σ} {ok : σ → ε → Prop} {s t u : σ} {e : ε}
    {es : List ε} (met : ok s e) (first : step s e = some t) (h : Runs step ok t es u) :
    Runs step ok s (e :: es) u := by
  induction h with
  | refl => exact .next .refl met first
  | next _ met h ih => exact .next ih met h

/-- A run meets a family of conditions when it meets each of them. -/
theorem Runs.forall_iff {ι : Type*} [Nonempty ι] {step : σ → ε → Option σ}
    {ok : ι → σ → ε → Prop} {s u : σ} {es : List ε} :
    Runs step (fun s e => ∀ i, ok i s e) s es u ↔ ∀ i, Runs step (ok i) s es u := by
  refine ⟨fun h i => h.mono fun _ _ met => met i, fun h => ?_⟩
  induction es using List.reverseRecOn generalizing u with
  | nil =>
    obtain rfl := (h (Classical.arbitrary ι)).nil_eq
    exact .refl
  | append_singleton es e ih =>
    obtain ⟨t, head, -, last⟩ := Runs.snoc_iff.mp (h (Classical.arbitrary ι))
    have each : ∀ i, Runs step (ok i) s es t ∧ ok i t e := by
      intro i
      obtain ⟨t', head', met, -⟩ := Runs.snoc_iff.mp (h i)
      obtain rfl := head'.unique head
      exact ⟨head', met⟩
    exact .next (ih fun i => (each i).1) (fun i => (each i).2) last

theorem Runs.split {step : σ → ε → Option σ} {ok : σ → ε → Prop} {s u : σ} {es es' : List ε}
    (h : Runs step ok s (es ++ es') u) : ∃ t, Runs step ok s es t := by
  induction es' using List.reverseRecOn generalizing u with
  | nil => exact ⟨u, by simpa using h⟩
  | append_singleton es' e ih =>
    rw [← List.append_assoc] at h
    obtain ⟨_, head, -, -⟩ := snoc_iff.mp h
    exact ih head

/-- When a condition on the steps keeps `P`, and every step that arrives in `P` meets it, `P`
    holds all along a run exactly when the run meets the condition. -/
theorem Runs.always_iff {step : σ → ε → Option σ} {ok : σ → ε → Prop} {P : σ → Prop} {s u : σ}
    {es : List ε} (kept : ∀ es t, Runs step ok s es t → P t)
    (needed : ∀ es t e v, Runs step ok s es t → step t e = some v → P v → ok t e)
    (run : Runs step anyStep s es u) :
    (∀ es₁ es₂ t, es = es₁ ++ es₂ → Runs step anyStep s es₁ t → P t) ↔ Runs step ok s es u := by
  constructor
  · intro always
    induction run with
    | refl => exact .refl
    | @next es t v e head met h ih =>
      have before := ih fun es₁ es₂ t eq => always es₁ (es₂ ++ [e]) t (by simp [eq])
      have last := always (es ++ [e]) [] v (by simp) (.next head met h)
      exact .next before (needed es t e v before h last) h
  · rintro met es₁ es₂ t rfl run₁
    obtain ⟨t', met₁⟩ := met.split
    exact run₁.unique met₁ ▸ kept es₁ t' met₁

theorem runs_of_execute {step step' : σ → ε → Option σ} {ok : σ → ε → Prop}
    (refines : ∀ t e u, step' t e = some u → ok t e ∧ step t e = some u)
    {s u : σ} {es : List ε} (h : execute step' s es = some u) : Runs step ok s es u := by
  induction es using List.reverseRecOn generalizing u with
  | nil =>
    cases h
    exact .refl
  | append_singleton es e ih =>
    rw [execute_append] at h
    obtain ⟨t, ht, hu⟩ := Option.bind_eq_some_iff.mp h
    obtain ⟨met, hs⟩ := refines t e u hu
    exact .next (ih ht) met hs

theorem runs_of_unguarded {step : σ → ε → Option σ} {s u : σ} {es : List ε}
    (h : execute step s es = some u) : Runs step anyStep s es u :=
  runs_of_execute (fun _ _ _ hs => ⟨trivial, hs⟩) h

theorem runs_of_guarded {step : σ → ε → Option σ} {ok : σ → ε → Prop}
    [∀ s e, Decidable (ok s e)] {s u : σ} {es : List ε}
    (h : execute (guarded step ok) s es = some u) : Runs step ok s es u :=
  runs_of_execute (fun _ _ _ => guarded_some) h

/-! ## States that are lists

A step changes one entry, or adds one. -/

section
variable {α : Type*} {l : List α} {i j : ℕ} {a b x : α}

theorem getElem_snoc (h : (l ++ [a])[i]? = some x) : l[i]? = some x ∨ x = a := by
  rw [List.getElem?_append] at h
  split at h
  · exact Or.inl h
  · rw [List.getElem?_singleton] at h
    split at h
    · exact Or.inr (Option.some.inj h).symm
    · cases h

theorem getElem_set (h : (l.set i b)[j]? = some x) :
    j = i ∧ x = b ∨ j ≠ i ∧ l[j]? = some x := by
  rw [List.getElem?_set] at h
  split at h
  · split at h
    · exact Or.inl ⟨Eq.symm (by assumption), (Option.some.inj h).symm⟩
    · cases h
  · exact Or.inr ⟨Ne.symm (by assumption), h⟩

end

end Cezfuzzer.StepRuns
