import Cezfuzzer.RadamsaPipes

set_option autoImplicit false

/-!
# Descriptors that `runRadamsa` leaves open

Two of the exits do not close what has been opened before them: the second `pipe` fails
after the first has succeeded, or `fork` fails. On every other exit a call has closed all
four ends.
-/
namespace Cezfuzzer.RadamsaDescriptors
open StepRuns RadamsaPipes

/-- The descriptor is open in the proxy. -/
def Open (s : State) (d : Descriptor) : Prop := (Process.proxy, d) ∈ s.held

/-- "pipe failed" and "fork failed" with pipes in hand. -/
def Leaks (s : State) (e : Event) : Prop :=
  e.act = .forkFails ∨ e.act = .pipeFails ∧ s.parent e.call = .inPiped

instance (s : State) (e : Event) : Decidable (Leaks s e) :=
  inferInstanceAs (Decidable (_ ∨ _ ∧ _))

def NoLeak (s : State) (e : Event) : Prop := ¬ Leaks s e

instance (s : State) (e : Event) : Decidable (NoLeak s e) := inferInstanceAs (Decidable (¬ _))

/-- Every call that has moved has been entered and has returned. -/
def Complete (s u : State) : Prop :=
  ∀ i, u.parent i = s.parent i ∨ s.parent i = .start ∧ u.parent i = .returned

/-- The ends that a call should have open in the proxy. -/
def openEnds : Parent → List PipeEnd
  | .start | .waiting | .returned => []
  | .inPiped => [.inRead, .inWrite]
  | .piped | .forked => [.inRead, .inWrite, .outRead, .outWrite]
  | .inReadClosed => [.inWrite, .outRead, .outWrite]
  | .outWriteClosed | .written => [.inWrite, .outRead]
  | .allocating | .reading | .closing => [.outRead]

def Settled (s : State) (i : ℕ) : Prop :=
  ∀ e, Open s ⟨i, e⟩ ↔ e ∈ openEnds (s.parent i)

def Leaked (s : State) (i : ℕ) : Prop := s.parent i = .returned ∧ Open s ⟨i, .inWrite⟩

/-- The steps of one call leave the descriptors of the others alone. -/
theorem open_other {s : State} {f : ℕ} (a : Act) {d : Descriptor} (h : d.call ≠ f) :
    Open (effect s f a) d ↔ Open s d := by
  have hne : ∀ e, d ≠ ⟨f, e⟩ := fun e same => h (same ▸ rfl)
  cases a with
  | exec ok => cases ok <;> simp [Open, effect, dies, setChild]
  | _ => simp [Open, effect, opens, closes, dies, inherits, setChild, setParent, hne]

/-- The child's own steps leave the proxy alone. -/
def Childs : Act → Prop
  | .dupStdin | .dupStdout | .childCloseInWrite | .childCloseOutRead | .exec _ | .answer _ => True
  | _ => False

theorem parent_child {s : State} {f : ℕ} {a : Act} (child : Childs a) :
    (effect s f a).parent = s.parent := by
  cases a with
  | exec ok => cases ok <;> simp [effect, dies, setChild]
  | _ => simp_all [Childs, effect, opens, closes, dies, setChild]

theorem open_child {s : State} {f : ℕ} {a : Act} (child : Childs a) (d : Descriptor) :
    Open (effect s f a) d ↔ Open s d := by
  cases a with
  | exec ok => cases ok <;> simp [Open, effect, dies, setChild]
  | _ => simp_all [Childs, Open, effect, opens, closes, dies, setChild]

theorem settled_child {s : State} {f : ℕ} {a : Act} (child : Childs a) (i : ℕ) :
    Settled (effect s f a) i ↔ Settled s i := by
  simp only [Settled, parent_child child, open_child child]

/-- What a step of the proxy opens and closes is what the next place in the code has. -/
theorem settled_step {s : State} {f : ℕ} {a : Act} (enabled : Enabled s f a)
    (noLeak : NoLeak s ⟨f, a⟩) (settled : Settled s f) : Settled (effect s f a) f := by
  by_cases child : Childs a
  · exact (settled_child child f).mpr settled
  · intro e
    have before := settled e
    cases a with
    | pipeFails =>
      have entered : s.parent f = .start :=
        enabled.resolve_right fun piped => noLeak (Or.inr ⟨rfl, piped⟩)
      simpa [Open, effect, setParent, entered, openEnds] using before
    | forkFails => exact absurd (Or.inl rfl) noLeak
    | malloc ok =>
      cases ok <;> simp_all [Open, Enabled, effect, setParent, openEnds]
    | read | waitpid =>
      simpa [Open, effect, setParent, enabled.1, openEnds] using before
    | fork | write => simp_all [Open, Enabled, effect, inherits, setChild, setParent, openEnds]
    | pipeIn | pipeOut | closeInRead | closeOutWrite | closeInWrite | closeOutRead =>
      cases e <;> simp_all [Open, Enabled, effect, opens, closes, setParent, openEnds]
    | _ => exact absurd trivial child

theorem leaked_step {s : State} {f : ℕ} {a : Act} (enabled : Enabled s f a)
    (leaks : Leaks s ⟨f, a⟩) (settled : Settled s f) : Leaked (effect s f a) f := by
  have before := settled .inWrite
  rcases leaks with failed | ⟨failed, piped⟩
  all_goals
    obtain rfl : a = _ := failed
    refine ⟨by simp [effect, setParent], ?_⟩
  · have piped : s.parent f = .piped := enabled
    simpa [Open, effect, setParent, piped, openEnds] using before
  · simpa [Open, effect, setParent, show s.parent f = .inPiped from piped, openEnds] using before

/-- A call that has returned does nothing more in the proxy. -/
theorem returned_step {s : State} {f : ℕ} {a : Act} (enabled : Enabled s f a)
    (returned : s.parent f = .returned) : Childs a := by
  cases a <;> simp_all [Enabled, Childs]

theorem returned_noLeak {s : State} {e : Event} (enabled : Enabled s e.call e.act)
    (returned : s.parent e.call = .returned) : NoLeak s e := by
  have child := returned_step enabled returned
  rintro (failed | ⟨failed, -⟩) <;> simp [failed, Childs] at child

def NoLeakOf (i : ℕ) (s : State) (e : Event) : Prop := e.call = i → NoLeak s e

/-- Up to some point a call has open what its place in the code has, and it can leave that
    only by one of the two exits. -/
theorem run_settled {s u : State} {es : List Event} {i : ℕ} (run : Runs step anyStep s es u)
    (settled : Settled s i) :
    Settled u i ∧ Runs step (NoLeakOf i) s es u ∨
      Leaked u i ∧ ¬ Runs step (NoLeakOf i) s es u := by
  induction run with
  | refl => exact Or.inl ⟨settled, .refl⟩
  | @next es t u e head _ h ih =>
    obtain ⟨enabled, rfl⟩ := step_eq_some.mp h
    have earlier : Runs step (NoLeakOf i) s (es ++ [e]) (effect t e.call e.act) →
        Runs step (NoLeakOf i) s es t ∧ NoLeakOf i t e := by
      intro clean
      obtain ⟨t', head', met, -⟩ := Runs.snoc_iff.mp clean
      obtain rfl := head'.unique head
      exact ⟨head', met⟩
    by_cases other : i ≠ e.call
    · have same : Settled (effect t e.call e.act) i ↔ Settled t i := by
        simp only [Settled, (effect_other e.act other).1, open_other e.act (d := ⟨i, _⟩) other]
      have same' : Leaked (effect t e.call e.act) i ↔ Leaked t i := by
        simp only [Leaked, (effect_other e.act other).1, open_other e.act (d := ⟨i, _⟩) other]
      rw [same, same']
      refine ih.imp (fun ⟨now, clean⟩ => ⟨now, .next clean (fun mine => ?_) h⟩)
        (fun ⟨now, dirty⟩ => ⟨now, fun clean => dirty (earlier clean).1⟩)
      exact absurd mine.symm other
    · obtain rfl : i = e.call := not_not.mp other
      rcases ih with ⟨now, clean⟩ | ⟨now, dirty⟩
      · by_cases leaks : Leaks t e
        · exact Or.inr ⟨leaked_step enabled leaks now, fun clean => (earlier clean).2 rfl leaks⟩
        · exact Or.inl ⟨settled_step enabled leaks now, .next clean (fun _ => leaks) h⟩
      · have child := returned_step enabled now.1
        refine Or.inr ⟨⟨?_, (open_child child _).mpr now.2⟩, fun clean => dirty (earlier clean).1⟩
        rw [parent_child child]
        exact now.1

theorem run_returned {s u : State} {es : List Event} {i : ℕ} (run : Runs step anyStep s es u)
    (returned : s.parent i = .returned) :
    (u.parent i = .returned ∧ ∀ e, Open u ⟨i, e⟩ ↔ Open s ⟨i, e⟩) ∧
      Runs step (NoLeakOf i) s es u := by
  induction run with
  | refl => exact ⟨⟨returned, fun _ => Iff.rfl⟩, .refl⟩
  | @next es t u e head _ h ih =>
    obtain ⟨⟨still, same⟩, clean⟩ := ih
    obtain ⟨enabled, rfl⟩ := step_eq_some.mp h
    refine ⟨⟨?_, fun d => ?_⟩, .next clean (fun mine => ?_) h⟩
    · by_cases other : i ≠ e.call
      · rwa [(effect_other e.act other).1]
      · obtain rfl : i = e.call := not_not.mp other
        rwa [parent_child (returned_step enabled still)]
    · rw [← same d]
      by_cases other : i ≠ e.call
      · exact open_other e.act other
      · obtain rfl : i = e.call := not_not.mp other
        exact open_child (returned_step enabled still) _
    · subst mine
      exact returned_noLeak enabled still

theorem initial_settled (i : ℕ) : Settled initial i := by simp [Settled, Open, initial, openEnds]

theorem run_noLeak {s u : State} {es : List Event} :
    Runs step NoLeak s es u ↔ ∀ i, Runs step (NoLeakOf i) s es u := by
  have same : NoLeak = fun s e => ∀ i, NoLeakOf i s e := by
    funext s e
    exact propext ⟨fun h _ _ => h, fun h => h e.call rfl⟩
  rw [same]
  exact Runs.forall_iff

/-- Whatever else the table of the proxy holds, any calls from their entry to their return, in
    any order of steps, leave it as it was exactly when none of them takes one of the two
    exits. -/
theorem unchanged_iff (s u : State) (before es : List Event)
    (reached : Runs step anyStep initial before s) (run : Runs step anyStep s es u)
    (complete : Complete s u) : (∀ d, Open u d ↔ Open s d) ↔ Runs step NoLeak s es u := by
  rw [run_noLeak]
  constructor
  · intro unchanged i
    rcases run_settled reached (initial_settled i) with ⟨settled, -⟩ | ⟨leaked, -⟩
    · rcases run_settled run settled with ⟨-, clean⟩ | ⟨⟨returned, held⟩, -⟩
      · exact clean
      · -- the write end is open at the return, and no call has it open at its entry
        have entered := (settled .inWrite).mp ((unchanged _).mp held)
        rcases complete i with same | ⟨start, -⟩
        · rw [← same, returned] at entered
          cases entered
        · rw [start] at entered
          cases entered
    · exact (run_returned run leaked.1).2
  · rintro clean ⟨i, e⟩
    rcases run_settled reached (initial_settled i) with ⟨settled, -⟩ | ⟨leaked, -⟩
    · rcases run_settled run settled with ⟨settled', -⟩ | ⟨-, dirty⟩
      · rw [settled' e, settled e]
        rcases complete i with same | ⟨start, returned⟩
        · rw [same]
        · rw [start, returned]
          exact Iff.rfl
      · exact absurd (clean i) dirty
    · exact (run_returned run leaked.1).1.2 e

theorem parent_uncalled {s u : State} {es : List Event} {i : ℕ} (run : Runs step anyStep s es u)
    (uncalled : ∀ e ∈ es, e.call ≠ i) : u.parent i = s.parent i := by
  induction run with
  | refl => rfl
  | next head _ h ih =>
    obtain ⟨-, rfl⟩ := step_eq_some.mp h
    rw [(effect_other _ (uncalled _ (by simp)).symm).1]
    exact ih fun e he => uncalled e (by simp [he])

def forkFails : List Event := [⟨0, .pipeIn⟩, ⟨0, .pipeOut⟩, ⟨0, .forkFails⟩]

def secondPipeFails : List Event := [⟨0, .pipeIn⟩, ⟨0, .pipeFails⟩]

/-- Each of the two exits changes the table. -/
theorem failures_leak :
    (∃ u, Runs step anyStep initial forkFails u ∧ u.parent 0 = .returned ∧
      ¬ ∀ d, Open u d ↔ Open initial d) ∧
    ∃ u, Runs step anyStep initial secondPipeFails u ∧ u.parent 0 = .returned ∧
      ¬ ∀ d, Open u d ↔ Open initial d := by
  have changes : ∀ es, (execute step initial es).any (fun u =>
        decide (u.parent 0 = .returned ∧ (Process.proxy, ⟨0, .inWrite⟩) ∈ u.held)) = true →
      ∃ u, Runs step anyStep initial es u ∧ u.parent 0 = .returned ∧
        ¬ ∀ d, Open u d ↔ Open initial d := by
    intro es h
    obtain ⟨u, hu, left⟩ := exists_execute step initial es _ h
    obtain ⟨returned, held⟩ := of_decide_eq_true left
    exact ⟨u, runs_of_unguarded hu, returned,
      fun unchanged => by simpa [Open, initial] using (unchanged _).mp held⟩
  exact ⟨changes _ (by decide +kernel), changes _ (by decide +kernel)⟩

/-- A call whose `malloc` fails, after one whose first `pipe` fails. -/
def cleanFailures : List Event :=
  [⟨0, .pipeFails⟩, ⟨1, .pipeIn⟩, ⟨1, .pipeOut⟩, ⟨1, .fork⟩, ⟨1, .closeInRead⟩,
    ⟨1, .closeOutWrite⟩, ⟨1, .write⟩, ⟨1, .closeInWrite⟩, ⟨1, .malloc false⟩,
    ⟨1, .closeOutRead⟩, ⟨1, .dupStdin⟩, ⟨1, .dupStdout⟩, ⟨1, .childCloseInWrite⟩,
    ⟨1, .childCloseOutRead⟩, ⟨1, .exec false⟩, ⟨1, .waitpid⟩]

theorem cleanFailures_unchanged :
    ∃ u, Runs step anyStep initial cleanFailures u ∧ ∀ d, Open u d ↔ Open initial d := by
  obtain ⟨u, hu, returned⟩ := exists_execute (guarded step NoLeak) initial cleanFailures
    (fun u => decide (u.parent 0 = .returned ∧ u.parent 1 = .returned)) (by decide +kernel)
  obtain ⟨first, second⟩ := of_decide_eq_true returned
  have clean := runs_of_guarded hu
  refine ⟨u, clean.forget,
    (unchanged_iff initial u [] cleanFailures .refl clean.forget ?_).mpr clean⟩
  intro i
  by_cases called : i = 0 ∨ i = 1
  · rcases called with rfl | rfl
    · exact Or.inr ⟨rfl, first⟩
    · exact Or.inr ⟨rfl, second⟩
  · refine Or.inl (parent_uncalled clean.forget fun e he same => called ?_)
    have calls : ∀ e ∈ cleanFailures, e.call = 0 ∨ e.call = 1 := by decide
    exact same ▸ calls e he

end Cezfuzzer.RadamsaDescriptors
