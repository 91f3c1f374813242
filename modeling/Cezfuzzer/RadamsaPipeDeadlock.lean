import Mathlib.Data.List.Nodup
import Mathlib.Tactic.Tauto
import Cezfuzzer.IntervalWaits
import Cezfuzzer.RadamsaPipes

set_option autoImplicit false

/-!
# When concurrent calls of `runRadamsa` can deadlock

A child holds the write end of another call's `in_pipe` exactly when it was forked while
that end was open in the proxy. Those periods are intervals, so a deadlock contains two
calls that were each forked inside the other's interval.
-/
namespace Cezfuzzer.RadamsaPipeDeadlock
open StepRuns IntervalWaits RadamsaPipes

def Holds (s : State) (p : Process) (i : ℕ) : Prop := (p, ⟨i, .inWrite⟩) ∈ s.held

def Alive (s : State) (i : ℕ) : Prop := s.child i ≠ .none ∧ ∀ wrote, s.child i ≠ .exited wrote

def forkOf (e : Event) : Option ℕ := if e.act = .fork then some e.call else none

def forks (es : List Event) : List ℕ := es.filterMap forkOf

def rank (es : List Event) (i : ℕ) : ℕ := (forks es).idxOf i

theorem forks_snoc (es : List Event) (e : Event) :
    forks (es ++ [e]) = forks es ++ (if e.act = .fork then [e.call] else []) := by
  simp only [forks, forkOf, List.filterMap_append, List.filterMap_cons, List.filterMap_nil]
  split_ifs <;> rfl

theorem forks_fork (es : List Event) (i : ℕ) : forks (es ++ [⟨i, .fork⟩]) = forks es ++ [i] :=
  forks_snoc es ⟨i, .fork⟩

theorem forks_other (es : List Event) (e : Event) (h : e.act ≠ .fork) :
    forks (es ++ [e]) = forks es := by
  simp [forks_snoc, h]

theorem rank_old (es : List Event) (f i : ℕ) (h : i ∈ forks es) :
    rank (es ++ [⟨f, .fork⟩]) i = rank es i := by
  rw [rank, forks_fork, List.idxOf_append_of_mem h, rank]

theorem rank_new (es : List Event) (f : ℕ) (h : f ∉ forks es) :
    rank (es ++ [⟨f, .fork⟩]) f = (forks es).length := by
  rw [rank, forks_fork, List.idxOf_append, if_neg h]
  simp

theorem rank_lt (es : List Event) (i : ℕ) (h : i ∈ forks es) : rank es i < (forks es).length :=
  List.idxOf_lt_length_of_mem h

/-- Which calls have a child, and which processes a write end can be found in. -/
structure Shape (es : List Event) (s : State) : Prop where
  forked : ∀ i, s.child i ≠ .none ↔ i ∈ forks es
  unforked : ∀ i, s.parent i = .start ∨ s.parent i = .inPiped ∨ s.parent i = .piped →
    s.child i = .none
  opened : ∀ p i, Holds s p i → s.parent i ≠ .start
  owned : ∀ i, s.parent i = .inPiped ∨ s.parent i = .piped → Holds s .proxy i
  born : ∀ i j, Holds s (.child j) i → s.child j ≠ .none
  closed : ∀ i, s.child i = .inWriteClosed ∨ s.child i = .outReadClosed ∨
    s.child i = .readingStdin → ¬ Holds s (.child i) i
  gone : ∀ i j wrote, s.child j = .exited wrote → ¬ Holds s (.child j) i

/-- The children that hold one write end are those forked in one stretch of the run. -/
structure Windows (es : List Event) (s : State) : Prop where
  openSince : ∀ i j k, i ≠ k → Holds s .proxy i → Holds s (.child j) i →
    rank es j < rank es k → Alive s k → Holds s (.child k) i
  openSinceFork : ∀ i k, Holds s .proxy i → i ∈ forks es →
    rank es i < rank es k → Alive s k → Holds s (.child k) i
  between : ∀ i j k, Holds s (.child j) i → i ∈ forks es →
    (rank es i < rank es k ∧ rank es k < rank es j ∨
      rank es j < rank es k ∧ rank es k < rank es i) → Alive s k → Holds s (.child k) i

/-- No two calls are forked inside each other's stretch. -/
def Apart (s : State) : Prop :=
  ∀ i j, i ≠ j → Holds s (.child j) i → ¬ Holds s (.child i) j

/-- When a call forks, no child that already holds the write end of its `in_pipe` belongs
    to a call whose own write end is still open in the proxy. -/
def ForksApart (s : State) (e : Event) : Prop :=
  e.act = .fork → ∀ h ∈ s.held, h.1 = .proxy → h.2.pipeEnd = .inWrite →
    (Process.child h.2.call, (⟨e.call, .inWrite⟩ : Descriptor)) ∉ s.held

instance (s : State) (e : Event) : Decidable (ForksApart s e) :=
  inferInstanceAs (Decidable (_ → ∀ h ∈ s.held, _ → _ → _))

theorem holds_fork (s : State) (f : ℕ) (p : Process) (i : ℕ) :
    Holds (effect s f .fork) p i ↔ Holds s p i ∨ p = .child f ∧ Holds s .proxy i := by
  simp only [Holds, effect, inherits, setChild, setParent, Finset.mem_union, Finset.mem_image,
    Finset.mem_filter, Prod.mk.injEq, Prod.exists]
  constructor
  · rintro (h | ⟨q, d, ⟨hm, rfl⟩, rfl, rfl⟩)
    · exact Or.inl h
    · exact Or.inr ⟨rfl, hm⟩
  · rintro (h | ⟨rfl, hm⟩)
    · exact Or.inl h
    · exact Or.inr ⟨.proxy, _, ⟨hm, rfl⟩, rfl, rfl⟩

theorem holds_pipeIn (s : State) (f : ℕ) (p : Process) (i : ℕ) :
    Holds (effect s f .pipeIn) p i ↔ Holds s p i ∨ p = .proxy ∧ i = f := by
  simp [Holds, effect, opens, setParent, or_comm]

theorem holds_shrinks (s : State) (f : ℕ) (a : Act) (p : Process) (i : ℕ)
    (hf : a ≠ .fork) (hp : a ≠ .pipeIn) (h : Holds (effect s f a) p i) : Holds s p i := by
  cases a with
  | fork => exact absurd rfl hf
  | pipeIn => exact absurd rfl hp
  | exec ok => cases ok <;> simp_all [Holds, effect, dies, setChild]
  | _ => simp_all [Holds, effect, opens, closes, dies, setChild, setParent]

/-- A child gives up another call's write end only by its exit. -/
theorem holds_kept (s : State) (f : ℕ) (a : Act) (i k : ℕ) (hik : i ≠ k)
    (alive : Alive (effect s f a) k) (h : Holds s (.child k) i) :
    Holds (effect s f a) (.child k) i := by
  cases a with
  | fork => exact (holds_fork s f _ i).mpr (Or.inl h)
  | exec ok =>
    cases ok
    · have hk : k ≠ f := by
        rintro rfl
        exact alive.2 false (by simp [effect, dies, setChild])
      simpa [Holds, effect, dies, setChild, hk] using h
    · exact h
  | answer wrote =>
    have hk : k ≠ f := by
      rintro rfl
      exact alive.2 wrote (by simp [effect, dies, setChild])
    simpa [Holds, effect, dies, setChild, hk] using h
  | childCloseInWrite =>
    have hne : ¬ (k = f ∧ i = f) := by
      rintro ⟨rfl, rfl⟩
      exact hik rfl
    simp only [Holds, effect, closes, setChild, Finset.mem_erase]
    exact ⟨by simpa using hne, h⟩
  | _ => simp_all [Holds, effect, opens, closes, setChild, setParent]

theorem alive_before (s : State) (f : ℕ) (a : Act) (k : ℕ) (enabled : Enabled s f a)
    (hf : a ≠ .fork) (alive : Alive (effect s f a) k) : Alive s k := by
  by_cases hk : k = f
  · subst hk
    cases a with
    | fork => exact absurd rfl hf
    | exec ok =>
      have hc : s.child k = .outReadClosed := enabled
      simp [Alive, hc]
    | answer wrote =>
      have hc : s.child k = .readingStdin := enabled.1
      simp [Alive, hc]
    | dupStdin | dupStdout | childCloseInWrite | childCloseOutRead =>
      have hc := enabled
      simp only [Enabled] at hc
      simp [Alive, hc]
    | _ => exact alive
  · simpa only [Alive, (effect_other a hk).2] using alive

theorem child_none (s : State) (f : ℕ) (a : Act) (i : ℕ) (enabled : Enabled s f a)
    (hf : a ≠ .fork) : (effect s f a).child i = .none ↔ s.child i = .none := by
  by_cases hi : i = f
  · subst hi
    cases a with
    | fork => exact absurd rfl hf
    | exec ok => cases ok <;> simp_all [Enabled, effect, dies, setChild]
    | _ => simp_all [Enabled, effect, opens, closes, dies, setChild, setParent]
  · rw [(effect_other a hi).2]

theorem parent_early (s : State) (f : ℕ) (a : Act) (i : ℕ) (enabled : Enabled s f a)
    (h : (effect s f a).parent i = .start ∨ (effect s f a).parent i = .inPiped ∨
      (effect s f a).parent i = .piped) :
    s.parent i = .start ∨ s.parent i = .inPiped ∨ s.parent i = .piped := by
  by_cases hi : i = f
  · subst hi
    cases a with
    | exec ok => cases ok <;> simpa [effect, dies, setChild] using h
    | malloc ok => cases ok <;> simp [effect, setParent] at h
    | _ => simp_all [Enabled, effect, opens, closes, dies, inherits, setChild, setParent]
  · simpa only [(effect_other a hi).1] using h

theorem proxy_kept (s : State) (f : ℕ) (a : Act) (i : ℕ) (h : Holds s .proxy i)
    (other : i ≠ f ∨ a ≠ .closeInWrite) : Holds (effect s f a) .proxy i := by
  cases a with
  | fork => exact (holds_fork s f _ i).mpr (Or.inl h)
  | exec ok => cases ok <;> simpa [Holds, effect, dies, setChild] using h
  | closeInWrite =>
    have hi : i ≠ f := by simpa using other
    simpa [Holds, effect, closes, setParent, hi] using h
  | _ => simp_all [Holds, effect, opens, closes, dies, setChild, setParent]

theorem shape_owned {es : List Event} {s : State} (shape : Shape es s) (f : ℕ) (a : Act)
    (enabled : Enabled s f a) (i : ℕ)
    (h : (effect s f a).parent i = .inPiped ∨ (effect s f a).parent i = .piped) :
    Holds (effect s f a) .proxy i := by
  rcases parent_early s f a i enabled (by tauto) with start | piped
  · -- only the call's own `pipe(in_pipe)` leaves the start
    have hi : i = f ∧ a = .pipeIn := by
      by_contra hc
      by_cases hi : i = f
      · subst hi
        cases a with
        | pipeIn => exact hc ⟨rfl, rfl⟩
        | exec ok => cases ok <;> simp_all [effect, dies, setChild]
        | _ => simp_all [Enabled, effect, opens, closes, dies, setChild, setParent]
      · simp [(effect_other a hi).1, start] at h
    obtain ⟨rfl, rfl⟩ := hi
    exact (holds_pipeIn s i _ i).mpr (Or.inr ⟨rfl, rfl⟩)
  · refine proxy_kept s f a i (shape.owned i piped) ?_
    by_contra hc
    obtain ⟨rfl, rfl⟩ : i = f ∧ a = .closeInWrite := by tauto
    have hw : s.parent i = .written := enabled
    simp [hw] at piped

theorem shape_closed {es : List Event} {s : State} (shape : Shape es s) (f : ℕ) (a : Act)
    (enabled : Enabled s f a) (i : ℕ)
    (h : (effect s f a).child i = .inWriteClosed ∨ (effect s f a).child i = .outReadClosed ∨
      (effect s f a).child i = .readingStdin) : ¬ Holds (effect s f a) (.child i) i := by
  by_cases hi : i = f
  · subst hi
    have old := shape.closed i
    cases a with
    | fork => simp [effect, inherits, setChild] at h
    | childCloseInWrite => simp [Holds, effect, closes]
    | exec ok =>
      cases ok
      · simp [Holds, effect, dies]
      · exact old (Or.inr (Or.inl enabled))
    | childCloseOutRead =>
      intro hh
      exact old (Or.inl enabled) (holds_shrinks s i _ _ i (by simp) (by simp) hh)
    | pipeIn =>
      rw [holds_pipeIn]
      simpa using old h
    | answer wrote => simp [Holds, effect, dies]
    | dupStdin | dupStdout => simp [effect, opens, setChild] at h
    | _ =>
      intro hh
      exact old h (holds_shrinks s i _ _ i (by simp) (by simp) hh)
  · rw [(effect_other a hi).2] at h
    have old := shape.closed i h
    by_cases hfork : a = .fork
    · subst hfork
      rw [holds_fork]
      simpa [hi] using old
    · by_cases hpipe : a = .pipeIn
      · subst hpipe
        rw [holds_pipeIn]
        simpa using old
      · intro hh
        exact old (holds_shrinks s f a _ i hfork hpipe hh)

theorem parent_start (s : State) (f : ℕ) (a : Act) (i : ℕ)
    (h : (effect s f a).parent i = .start) : s.parent i = .start := by
  by_cases hi : i = f
  · subst hi
    cases a with
    | exec ok => cases ok <;> simpa [effect, dies, setChild] using h
    | malloc ok => cases ok <;> simp [effect, setParent] at h
    | _ => simp_all [effect, opens, closes, dies, inherits, setChild, setParent]
  · simpa only [(effect_other a hi).1] using h

theorem shape_opened {es : List Event} {s : State} (shape : Shape es s) (f : ℕ) (a : Act)
    (p : Process) (i : ℕ) (h : Holds (effect s f a) p i) : (effect s f a).parent i ≠ .start := by
  by_cases hpipe : a = .pipeIn ∧ i = f
  · obtain ⟨rfl, rfl⟩ := hpipe
    simp [effect, opens, setParent]
  · intro hs
    have start := parent_start s f a i hs
    by_cases hfork : a = .fork
    · subst hfork
      rcases (holds_fork s f p i).mp h with old | ⟨_, old⟩
      · exact shape.opened p i old start
      · exact shape.opened .proxy i old start
    · by_cases hp : a = .pipeIn
      · subst hp
        rcases (holds_pipeIn s f p i).mp h with old | ⟨_, rfl⟩
        · exact shape.opened p i old start
        · exact hpipe ⟨rfl, rfl⟩
      · exact shape.opened p i (holds_shrinks s f a p i hfork hp h) start

theorem shape_born {es : List Event} {s : State} (shape : Shape es s) (f : ℕ) (a : Act)
    (enabled : Enabled s f a) (i j : ℕ) (h : Holds (effect s f a) (.child j) i) :
    (effect s f a).child j ≠ .none := by
  by_cases hfork : a = .fork
  · subst hfork
    by_cases hj : j = f
    · simp [effect, inherits, setChild, hj]
    · have old : Holds s (.child j) i := by simpa [holds_fork, hj] using h
      rw [(effect_other .fork hj).2]
      exact shape.born i j old
  · rw [ne_eq, child_none s f a j enabled hfork]
    by_cases hpipe : a = .pipeIn
    · subst hpipe
      exact shape.born i j (by simpa [holds_pipeIn] using h)
    · exact shape.born i j (holds_shrinks s f a _ i hfork hpipe h)

theorem shape_gone {es : List Event} {s : State} (shape : Shape es s) (f : ℕ) (a : Act)
    (enabled : Enabled s f a) (i j : ℕ) (wrote : Bool)
    (h : (effect s f a).child j = .exited wrote) : ¬ Holds (effect s f a) (.child j) i := by
  intro hh
  by_cases hfork : a = .fork
  · subst hfork
    by_cases hj : j = f
    · simp [effect, inherits, setChild, hj] at h
    · rw [(effect_other .fork hj).2] at h
      exact shape.gone i j wrote h (by simpa [holds_fork, hj] using hh)
  · have old : Holds s (.child j) i := by
      by_cases hpipe : a = .pipeIn
      · subst hpipe
        simpa [holds_pipeIn] using hh
      · exact holds_shrinks s f a _ i hfork hpipe hh
    by_cases hj : j = f
    · subst hj
      cases a with
      | exec ok => cases ok <;> simp_all [Holds, effect, dies, setChild]
      | answer wrote => simp_all [Holds, effect, dies, setChild]
      | dupStdin | dupStdout | childCloseInWrite | childCloseOutRead =>
        simp [effect, opens, closes, setChild] at h
      | fork => exact absurd rfl hfork
      | _ => exact shape.gone i j wrote h old
    · rw [(effect_other a hj).2] at h
      exact shape.gone i j wrote h old

theorem shape_step {es : List Event} {s : State} (shape : Shape es s) (e : Event)
    (enabled : Enabled s e.call e.act) : Shape (es ++ [e]) (effect s e.call e.act) := by
  obtain ⟨f, a⟩ := e
  refine ⟨?_, ?_, shape_opened shape f a, shape_owned shape f a enabled,
    shape_born shape f a enabled, shape_closed shape f a enabled, shape_gone shape f a enabled⟩
  · intro i
    by_cases hfork : a = .fork
    · subst hfork
      rw [forks_fork, List.mem_append, ← shape.forked i]
      by_cases hi : i = f <;> simp [effect, inherits, setChild, setParent, hi]
    · rw [forks_other es _ hfork, ne_eq, child_none s f a i enabled hfork]
      exact shape.forked i
  · intro i h
    have hne : a ≠ .fork ∨ i ≠ f := by
      by_contra hc
      obtain ⟨rfl, rfl⟩ : a = .fork ∧ i = f := by tauto
      simp [effect, inherits, setChild, setParent] at h
    have none := shape.unforked i (parent_early s f a i enabled h)
    by_cases hfork : a = .fork
    · subst hfork
      have hi : i ≠ f := by simpa using hne
      rw [(effect_other .fork hi).2]
      exact none
    · exact (child_none s f a i enabled hfork).mpr none

theorem initial_shape : Shape [] initial := by
  constructor <;> simp [initial, Holds, forks]

theorem rank_fork_le {es : List Event} {f k : ℕ} (h : k ∈ forks (es ++ [⟨f, .fork⟩])) :
    rank (es ++ [⟨f, .fork⟩]) k ≤ (forks es).length := by
  have := rank_lt _ k h
  rw [forks_fork, List.length_append, List.length_singleton] at this
  omega

theorem fork_fresh {es : List Event} {s : State} (shape : Shape es s) {f : ℕ}
    (enabled : Enabled s f .fork) : f ∉ forks es := fun h =>
  (shape.forked f).mpr h (shape.unforked f (Or.inr (Or.inr enabled)))

theorem proxy_fork {s : State} {f i : ℕ} (h : Holds (effect s f .fork) .proxy i) :
    Holds s .proxy i := by
  simpa [holds_fork] using h

theorem holder_forked {es : List Event} {s : State} (shape : Shape es s) {i j : ℕ}
    (h : Holds s (.child j) i) : j ∈ forks es := (shape.forked j).mp (shape.born i j h)

/-- Whoever is alive after a fork is either the new child or was alive before. -/
theorem alive_fork {es : List Event} {s : State} (shape : Shape es s) {f k : ℕ} (hk : k ≠ f)
    (alive : Alive (effect s f .fork) k) : Alive s k ∧ k ∈ forks es := by
  have ha : Alive s k := by
    simpa only [Alive, (effect_other .fork hk).2] using alive
  exact ⟨ha, (shape.forked k).mp ha.1⟩

theorem between_fork {es : List Event} {s : State} (shape : Shape es s) (w : Windows es s)
    {f : ℕ} (enabled : Enabled s f .fork) (i j k : ℕ)
    (hj : Holds (effect s f .fork) (.child j) i) (hi : i ∈ forks (es ++ [⟨f, .fork⟩]))
    (hbt : rank (es ++ [⟨f, .fork⟩]) i < rank (es ++ [⟨f, .fork⟩]) k ∧
        rank (es ++ [⟨f, .fork⟩]) k < rank (es ++ [⟨f, .fork⟩]) j ∨
      rank (es ++ [⟨f, .fork⟩]) j < rank (es ++ [⟨f, .fork⟩]) k ∧
        rank (es ++ [⟨f, .fork⟩]) k < rank (es ++ [⟨f, .fork⟩]) i)
    (alive : Alive (effect s f .fork) k) : Holds (effect s f .fork) (.child k) i := by
  have hf := fork_fresh shape enabled
  have hjm : j ∈ forks (es ++ [⟨f, .fork⟩]) := by
    rw [forks_fork, List.mem_append, List.mem_singleton]
    rcases (holds_fork s f _ i).mp hj with hj | ⟨hjf, _⟩
    · exact Or.inl (holder_forked shape hj)
    · exact Or.inr (by simpa using hjf)
  have hlasti := rank_fork_le hi
  have hlastj := rank_fork_le hjm
  -- the new child is the last, and nobody comes after it
  have hk : k ≠ f := by
    rintro rfl
    rw [rank_new es k hf] at hbt
    omega
  obtain ⟨ha, hkm⟩ := alive_fork shape hk alive
  rw [holds_fork]
  rw [rank_old es f k hkm] at hbt
  have hkl := rank_lt es k hkm
  by_cases hif : i = f
  · subst hif
    rw [rank_new es i hf] at hbt
    rcases (holds_fork s i _ i).mp hj with hj | ⟨hji, _⟩
    · rw [rank_old es i j (holder_forked shape hj)] at hbt
      have hown := shape.owned i (Or.inr enabled)
      exact Or.inl (w.openSince i j k (Ne.symm hk) hown hj (by omega) ha)
    · obtain rfl : j = i := by simpa using hji
      rw [rank_new es j hf] at hbt
      omega
  · have him : i ∈ forks es := by simpa [forks_fork, hif] using hi
    rw [rank_old es f i him] at hbt
    rcases (holds_fork s f _ i).mp hj with hj | ⟨hjf, hp⟩
    · rw [rank_old es f j (holder_forked shape hj)] at hbt
      exact Or.inl (w.between i j k hj him hbt ha)
    · obtain rfl : j = f := by simpa using hjf
      rw [rank_new es j hf] at hbt
      exact Or.inl (w.openSinceFork i k hp him (by omega) ha)

/-- A fork puts its call last, and gives its child every write end open in the proxy. -/
theorem windows_fork {es : List Event} {s : State} (shape : Shape es s) (w : Windows es s)
    (f : ℕ) (enabled : Enabled s f .fork) :
    Windows (es ++ [⟨f, .fork⟩]) (effect s f .fork) := by
  have hf := fork_fresh shape enabled
  refine ⟨?_, ?_, between_fork shape w enabled⟩
  · intro i j k hik hp hj hlt alive
    rw [holds_fork]
    by_cases hk : k = f
    · exact Or.inr ⟨by rw [hk], proxy_fork hp⟩
    · obtain ⟨ha, hkm⟩ := alive_fork shape hk alive
      rcases (holds_fork s f _ i).mp hj with hj | ⟨hjf, _⟩
      · rw [rank_old es f j (holder_forked shape hj), rank_old es f k hkm] at hlt
        exact Or.inl (w.openSince i j k hik (proxy_fork hp) hj hlt ha)
      · obtain rfl : j = f := by simpa using hjf
        rw [rank_new es j hf, rank_old es j k hkm] at hlt
        have := rank_lt es k hkm
        omega
  · intro i k hp hi hlt alive
    rw [holds_fork]
    by_cases hk : k = f
    · exact Or.inr ⟨by rw [hk], proxy_fork hp⟩
    · obtain ⟨ha, hkm⟩ := alive_fork shape hk alive
      rw [rank_old es f k hkm] at hlt
      have hif : i ≠ f := by
        rintro rfl
        rw [rank_new es i hf] at hlt
        have := rank_lt es k hkm
        omega
      have him : i ∈ forks es := by simpa [forks_fork, hif] using hi
      rw [rank_old es f i him] at hlt
      exact Or.inl (w.openSinceFork i k (proxy_fork hp) him hlt ha)

/-- The other steps only take write ends away, or open one that no child has yet. -/
theorem windows_other {es : List Event} {s : State} (shape : Shape es s) (w : Windows es s)
    (f : ℕ) (a : Act) (hfork : a ≠ .fork) (enabled : Enabled s f a) :
    Windows (es ++ [⟨f, a⟩]) (effect s f a) := by
  have hes : forks (es ++ [⟨f, a⟩]) = forks es := forks_other es _ hfork
  have hrank : rank (es ++ [⟨f, a⟩]) = rank es := by
    funext i
    rw [rank, hes, rank]
  have before : ∀ k, Alive (effect s f a) k → Alive s k :=
    fun k => alive_before s f a k enabled hfork
  have child : ∀ i j, Holds (effect s f a) (.child j) i → Holds s (.child j) i := by
    intro i j h
    by_cases hpipe : a = .pipeIn
    · subst hpipe
      simpa [holds_pipeIn] using h
    · exact holds_shrinks s f a _ i hfork hpipe h
  have proxy : ∀ i, Holds (effect s f a) .proxy i → Holds s .proxy i ∨ s.parent i = .start := by
    intro i h
    by_cases hpipe : a = .pipeIn
    · subst hpipe
      rcases (holds_pipeIn s f _ i).mp h with h | ⟨_, rfl⟩
      · exact Or.inl h
      · exact Or.inr enabled
    · exact Or.inl (holds_shrinks s f a _ i hfork hpipe h)
  have unforked : ∀ i, s.parent i = .start → i ∉ forks es :=
    fun i h hm => (shape.forked i).mpr hm (shape.unforked i (Or.inl h))
  refine ⟨?_, ?_, ?_⟩
  · intro i j k hik hp hj hlt alive
    rw [hrank] at hlt
    rcases proxy i hp with hp | start
    · exact holds_kept s f a i k hik alive
        (w.openSince i j k hik hp (child i j hj) hlt (before k alive))
    · exact absurd start (shape.opened _ i (child i j hj))
  · intro i k hp hi hlt alive
    rw [hrank] at hlt
    rw [hes] at hi
    rcases proxy i hp with hp | start
    · have hik : i ≠ k := by
        rintro rfl
        omega
      exact holds_kept s f a i k hik alive (w.openSinceFork i k hp hi hlt (before k alive))
    · exact absurd hi (unforked i start)
  · intro i j k hj hi hbt alive
    rw [hrank] at hbt
    rw [hes] at hi
    have hik : i ≠ k := by
      rintro rfl
      omega
    exact holds_kept s f a i k hik alive
      (w.between i j k (child i j hj) hi hbt (before k alive))

theorem windows_step {es : List Event} {s : State} (shape : Shape es s) (w : Windows es s)
    (e : Event) (enabled : Enabled s e.call e.act) :
    Windows (es ++ [e]) (effect s e.call e.act) := by
  obtain ⟨f, a⟩ := e
  by_cases hfork : a = .fork
  · subst hfork
    exact windows_fork shape w f enabled
  · exact windows_other shape w f a hfork enabled

theorem apart_step {s : State} (apart : Apart s) (e : Event) (met : ForksApart s e) :
    Apart (effect s e.call e.act) := by
  obtain ⟨f, a⟩ := e
  intro i j hij hj hi
  by_cases hfork : a = .fork
  · subst hfork
    have clear : ∀ k, Holds s .proxy k → ¬ Holds s (.child k) f :=
      fun k hk => met rfl _ hk rfl rfl
    rcases (holds_fork s f _ i).mp hj with hjo | ⟨hjf, hpi⟩
    · rcases (holds_fork s f _ j).mp hi with hio | ⟨hif, hpj⟩
      · exact apart i j hij hjo hio
      · obtain rfl : i = f := by simpa using hif
        exact clear j hpj hjo
    · obtain rfl : j = f := by simpa using hjf
      rcases (holds_fork s j _ j).mp hi with hio | ⟨hif, _⟩
      · exact clear i hpi hio
      · exact hij (by simpa using hif)
  · have child : ∀ p q, Holds (effect s f a) (.child p) q → Holds s (.child p) q := by
      intro p q h
      by_cases hpipe : a = .pipeIn
      · subst hpipe
        simpa [holds_pipeIn] using h
      · exact holds_shrinks s f a _ q hfork hpipe h
    exact apart i j hij (child j i hj) (child i j hi)

theorem run_shape {ok : State → Event → Prop} {es : List Event} {s : State}
    (h : Runs step ok initial es s) : Shape es s ∧ Windows es s := by
  refine h.invariant (fun es s => Shape es s ∧ Windows es s) ?_ ?_
  · exact ⟨initial_shape, by constructor <;> simp [initial, Holds]⟩
  · rintro es t e u ⟨shape, w⟩ - hs
    obtain ⟨enabled, rfl⟩ := step_eq_some.mp hs
    exact ⟨shape_step shape e enabled, windows_step shape w e enabled⟩

theorem run_apart {es : List Event} {s : State} (h : Runs step ForksApart initial es s) :
    Apart s := by
  refine h.state_invariant Apart (by simp [Apart, initial, Holds]) ?_
  intro t e u apart met hs
  obtain ⟨_, rfl⟩ := step_eq_some.mp hs
  exact apart_step apart e met

/-- A deadlock contains two calls whose children hold each other's write end. -/
theorem deadlock_mutual {ok : State → Event → Prop} {es : List Event} {s : State}
    (h : Runs step ok initial es s) {S : Finset ℕ} (dead : Deadlocked s S) :
    ∃ i j, i ≠ j ∧ Holds s (.child j) i ∧ Holds s (.child i) j := by
  obtain ⟨shape, w⟩ := run_shape h
  obtain ⟨nonempty, blocked⟩ := dead
  have reading : ∀ i ∈ S, s.child i = .readingStdin := fun i hi => (blocked i hi).2.1
  have member : ∀ i ∈ S, i ∈ forks es :=
    fun i hi => (shape.forked i).mp (by simp [reading i hi])
  let waits := fun i j => Holds s (.child j) i
  have inj : Set.InjOn (rank es) S := fun i hi j _ eq => (List.idxOf_inj (member i hi)).mp eq
  have irrefl : ∀ i ∈ S, ¬ waits i i :=
    fun i hi => shape.closed i (Or.inr (Or.inr (reading i hi)))
  have convex : Convex S (rank es) waits := fun i hi j _ k hk hj hbt =>
    w.between i j k hj (member i hi) hbt (by simp [Alive, reading k hk])
  have stuck : ∀ i ∈ S, ∃ j ∈ S, waits i j := by
    intro i hi
    obtain ⟨_, _, held, only⟩ := blocked i hi
    simp only [NoHolder, not_forall, not_not] at held
    obtain ⟨⟨p, d⟩, hm, rfl⟩ := held
    obtain ⟨j, hj, rfl⟩ := only _ hm rfl
    exact ⟨j, hj, hm⟩
  obtain ⟨p, _, q, _, hpq, hwpq, hwqp⟩ := exists_mutual_wait inj irrefl convex nonempty stuck
  exact ⟨p, q, hpq, hwpq, hwqp⟩

/-- No deadlock is reachable while no two calls fork inside each other's stretch. -/
theorem forksApart_no_deadlock {es : List Event} {s : State}
    (h : Runs step ForksApart initial es s) (S : Finset ℕ) : ¬ Deadlocked s S := by
  intro dead
  obtain ⟨i, j, hij, hj, hi⟩ := deadlock_mutual h dead
  exact run_apart h i j hij hj hi

structure Crossed (s : State) (i j : ℕ) : Prop where
  distinct : i ≠ j
  alive : Alive s i ∧ Alive s j
  first : Holds s (.child j) i
  second : Holds s (.child i) j

theorem Crossed.symm {s : State} {i j : ℕ} (h : Crossed s i j) : Crossed s j i :=
  ⟨h.distinct.symm, h.alive.symm, h.second, h.first⟩

def ExecWorks (_ : State) (e : Event) : Prop := e.act ≠ .exec false

theorem crossed_alive {s : State} {i j : ℕ} (h : Crossed s i j) (e : Event)
    (enabled : Enabled s e.call e.act) (met : ExecWorks s e) :
    Alive (effect s e.call e.act) i := by
  obtain ⟨f, a⟩ := e
  by_cases hi : i = f
  · subst hi
    cases a with
    | exec ok =>
      cases ok
      · exact absurd rfl met
      · simp [Alive, effect, setChild]
    | answer wrote => exact absurd rfl (enabled.2 _ h.first)
    | fork => simp [Alive, effect, inherits, setChild]
    | dupStdin | dupStdout | childCloseInWrite | childCloseOutRead =>
      simp [Alive, effect, opens, closes, setChild]
    | _ => exact h.alive.1
  · simpa only [Alive, (effect_other a hi).2] using h.alive.1

/-- A crossed pair never comes apart again: neither child sees the end of its stdin. -/
theorem crossed_forever {s u : State} {es : List Event} {i j : ℕ} (h : Crossed s i j)
    (run : Runs step ExecWorks s es u) : Crossed u i j := by
  refine run.state_invariant (fun u => Crossed u i j) h ?_
  intro t e u ht met hs
  obtain ⟨enabled, rfl⟩ := step_eq_some.mp hs
  have hi := crossed_alive ht e enabled met
  have hj := crossed_alive ht.symm e enabled met
  exact ⟨ht.distinct, ⟨hi, hj⟩, holds_kept t _ _ i j ht.distinct hj ht.first,
    holds_kept t _ _ j i ht.distinct.symm hi ht.second⟩

/-- The condition is needed: once a fork misses it, two children never exit. -/
theorem missed_fork_crossed {s t u : State} {es es' : List Event} {e : Event}
    (h : Runs step anyStep initial es s) (miss : ¬ ForksApart s e) (hs : step s e = some t)
    (after : Runs step ExecWorks t es' u) : ∃ i j, Crossed u i j := by
  obtain ⟨shape, _⟩ := run_shape h
  obtain ⟨f, a⟩ := e
  obtain ⟨enabled, rfl⟩ := step_eq_some.mp hs
  simp only [ForksApart, Classical.not_imp, not_forall, not_not] at miss
  obtain ⟨rfl, ⟨q, i, d⟩, hproxy, rfl, rfl, hchild⟩ := miss
  have hnone := shape.unforked f (Or.inr (Or.inr enabled))
  have hif : i ≠ f := by
    rintro rfl
    exact shape.born i i hchild hnone
  have hi : Alive s i :=
    ⟨shape.born f i hchild, fun wrote hc => shape.gone f i wrote hc hchild⟩
  refine ⟨i, f, crossed_forever ⟨hif, ⟨?_, ?_⟩, ?_, ?_⟩ after⟩
  · simpa only [Alive, (effect_other .fork hif).2] using hi
  · simp [Alive, effect, inherits, setChild]
  · exact (holds_fork s f _ i).mpr (Or.inr ⟨rfl, hproxy⟩)
  · exact (holds_fork s f _ f).mpr (Or.inl hchild)

/-- Two calls that open their pipes, fork while both write ends are open, and go on to
    `read`: each child keeps the other's stdin from ending. -/
def crossedCalls : List Event :=
  [⟨0, .pipeIn⟩, ⟨0, .pipeOut⟩, ⟨1, .pipeIn⟩, ⟨1, .pipeOut⟩, ⟨0, .fork⟩, ⟨1, .fork⟩,
    ⟨0, .dupStdin⟩, ⟨0, .dupStdout⟩, ⟨0, .childCloseInWrite⟩, ⟨0, .childCloseOutRead⟩,
    ⟨0, .exec true⟩, ⟨1, .dupStdin⟩, ⟨1, .dupStdout⟩, ⟨1, .childCloseInWrite⟩,
    ⟨1, .childCloseOutRead⟩, ⟨1, .exec true⟩, ⟨0, .closeInRead⟩, ⟨0, .closeOutWrite⟩,
    ⟨0, .write⟩, ⟨0, .closeInWrite⟩, ⟨0, .malloc true⟩, ⟨1, .closeInRead⟩,
    ⟨1, .closeOutWrite⟩, ⟨1, .write⟩, ⟨1, .closeInWrite⟩, ⟨1, .malloc true⟩]

theorem crossedCalls_deadlock :
    ∃ s, Runs step anyStep initial crossedCalls s ∧ Deadlocked s {0, 1} := by
  obtain ⟨s, hs, dead⟩ := exists_execute step initial crossedCalls
    (fun s => decide (Deadlocked s {0, 1})) (by decide +kernel)
  exact ⟨s, runs_of_unguarded hs, of_decide_eq_true dead⟩

def spacedCalls : List Event :=
  [⟨0, .pipeIn⟩, ⟨0, .pipeOut⟩, ⟨1, .pipeIn⟩, ⟨1, .pipeOut⟩, ⟨0, .fork⟩,
    ⟨0, .closeInRead⟩, ⟨0, .closeOutWrite⟩, ⟨0, .write⟩, ⟨0, .closeInWrite⟩,
    ⟨0, .malloc true⟩, ⟨1, .fork⟩, ⟨0, .dupStdin⟩, ⟨0, .dupStdout⟩, ⟨0, .childCloseInWrite⟩,
    ⟨0, .childCloseOutRead⟩, ⟨0, .exec true⟩, ⟨1, .dupStdin⟩, ⟨1, .dupStdout⟩,
    ⟨1, .childCloseInWrite⟩, ⟨1, .childCloseOutRead⟩, ⟨1, .exec true⟩, ⟨1, .closeInRead⟩,
    ⟨1, .closeOutWrite⟩, ⟨1, .write⟩, ⟨1, .closeInWrite⟩, ⟨1, .malloc true⟩]

theorem spacedCalls_no_deadlock :
    ∃ s, Runs step ForksApart initial spacedCalls s ∧ ∀ S, ¬ Deadlocked s S := by
  obtain ⟨s, hs, _⟩ := exists_execute (guarded step ForksApart) initial spacedCalls
    (fun _ => true) (by decide +kernel)
  exact ⟨s, runs_of_guarded hs, forksApart_no_deadlock (runs_of_guarded hs)⟩

end Cezfuzzer.RadamsaPipeDeadlock
