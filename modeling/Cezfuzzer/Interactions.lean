import Mathlib.Data.List.Basic

set_option autoImplicit false

/-!
# Programs that give commands

A program gives one command after another, goes on with the answers, and in the end returns or
raises an exception. Its environment may give any answer to any command, or it has a state of
its own of which the answers depend. A program carries out a plan if, whatever the answers are,
its commands are those of the plan in their order, up to the first answer that is a failure.
-/
namespace Cezfuzzer.Interactions

/-- `R c` are the answers to the command `c`. -/
inductive Task (C : Type) (R : C → Type) (ε α : Type) where
  | done (a : α)
  | fail (e : ε)
  | ask (c : C) (next : R c → Task C R ε α)

variable {C W σ ε α β : Type} {R : C → Type}

def Task.bind : Task C R ε α → (α → Task C R ε β) → Task C R ε β
  | .done a, f => f a
  | .fail e, _ => .fail e
  | .ask c next, f => .ask c (fun r => (next r).bind f)

instance : Monad (Task C R ε) where
  pure := .done
  bind := .bind

/-- One command whose answer is read, or raises an exception. -/
def Task.request (c : C) (read : R c → Except ε α) : Task C R ε α :=
  .ask c (fun r => match read r with
    | .ok a => .done a
    | .error e => .fail e)

/-- Every command that the program may give is allowed. -/
def Task.Only (allowed : C → Prop) : Task C R ε α → Prop
  | .done _ => True
  | .fail _ => True
  | .ask c next => allowed c ∧ ∀ r, (next r).Only allowed

section
variable {allowed : C → Prop}

theorem Task.Only.bind {t : Task C R ε α} {f : α → Task C R ε β} (first : t.Only allowed)
    (second : ∀ a, (f a).Only allowed) : (t >>= f).Only allowed := by
  induction t with
  | done a => exact second a
  | fail e => trivial
  | ask c next ih => exact ⟨first.1, fun r => ih r (first.2 r)⟩

theorem Task.Only.mono {allowed' : C → Prop} {t : Task C R ε α} (only : t.Only allowed)
    (more : ∀ c, allowed c → allowed' c) : t.Only allowed' := by
  induction t with
  | done a => trivial
  | fail e => trivial
  | ask c next ih => exact ⟨more c only.1, fun r => ih r (only.2 r)⟩

theorem Task.Only.request {c : C} {read : R c → Except ε α} (given : allowed c) :
    (Task.request c read).Only allowed := by
  refine ⟨given, fun r => ?_⟩
  beta_reduce
  cases read r <;> trivial

theorem Task.Only.forM {f : α → Task C R ε PUnit} {l : List α}
    (each : ∀ a ∈ l, (f a).Only allowed) : (l.forM f).Only allowed := by
  induction l with
  | nil => trivial
  | cons a l ih =>
    exact Task.Only.bind (each a List.mem_cons_self)
      fun _ => ih fun b member => each b (List.mem_cons_of_mem a member)

end

abbrev Event (R : C → Type) := Σ c, R c

/-! ## Any answers -/

inductive Dialogue : Task C R ε α → List (Event R) → Except ε α → Prop where
  | done (a : α) : Dialogue (.done a) [] (.ok a)
  | fail (e : ε) : Dialogue (.fail e) [] (.error e)
  | ask {c : C} {next : R c → Task C R ε α} {r : R c} {h : List (Event R)} {x : Except ε α}
    (rest : Dialogue (next r) h x) : Dialogue (.ask c next) (⟨c, r⟩ :: h) x

theorem Dialogue.of_bind {t : Task C R ε α} {f : α → Task C R ε β} {h : List (Event R)}
    {x : Except ε β} (d : Dialogue (t >>= f) h x) :
    (∃ e, x = .error e ∧ Dialogue t h (.error e)) ∨
      ∃ a h₁ h₂, h = h₁ ++ h₂ ∧ Dialogue t h₁ (.ok a) ∧ Dialogue (f a) h₂ x := by
  induction t generalizing h with
  | done a => exact Or.inr ⟨a, [], h, rfl, .done a, d⟩
  | fail e =>
    cases d
    exact Or.inl ⟨e, rfl, .fail e⟩
  | ask c next ih =>
    cases d with
    | ask rest =>
      rcases ih _ rest with ⟨e, rfl, first⟩ | ⟨a, h₁, h₂, rfl, first, second⟩
      · exact Or.inl ⟨e, rfl, .ask first⟩
      · exact Or.inr ⟨a, _ :: h₁, h₂, rfl, .ask first, second⟩

theorem Dialogue.only {allowed : C → Prop} {t : Task C R ε α} {h : List (Event R)}
    {x : Except ε α} (only : t.Only allowed) (d : Dialogue t h x) : ∀ e ∈ h, allowed e.1 := by
  induction d with
  | done a => exact fun e member => by cases member
  | fail e => exact fun e member => by cases member
  | ask rest ih => exact List.forall_mem_cons.mpr ⟨only.1, ih (only.2 _)⟩

theorem Dialogue.of_request {c : C} {read : R c → Except ε α} {a : α} {h : List (Event R)}
    (d : Dialogue (.request c read) h (.ok a)) : ∃ r, read r = .ok a ∧ h = [⟨c, r⟩] := by
  cases d with
  | @ask _ _ r _ _ rest =>
    beta_reduce at rest
    cases ok : read r with
    | error e =>
      rw [ok] at rest
      cases rest
    | ok a' =>
      rw [ok] at rest
      cases rest
      exact ⟨r, ok, rfl⟩

/-- Whatever the answers are, the history is of the kind `P`. -/
def Task.Tells (P : List (Event R) → Prop) (t : Task C R ε α) : Prop :=
  ∀ h x, Dialogue t h x → P h

section
variable {P : List (Event R) → Prop}

theorem Task.Tells.bind (join : ∀ h h', P h → P h' → P (h ++ h')) {t : Task C R ε α}
    {f : α → Task C R ε β} (first : t.Tells P) (second : ∀ a, (f a).Tells P) :
    (t >>= f).Tells P := by
  intro h x d
  rcases d.of_bind with ⟨e, -, d⟩ | ⟨a, h₁, h₂, rfl, d₁, d₂⟩
  · exact first h _ d
  · exact join h₁ h₂ (first h₁ _ d₁) (second a h₂ _ d₂)

theorem Task.Tells.forM (empty : P []) (join : ∀ h h', P h → P h' → P (h ++ h'))
    {f : α → Task C R ε PUnit} {l : List α} (each : ∀ a ∈ l, (f a).Tells P) :
    (l.forM f).Tells P := by
  induction l with
  | nil =>
    intro h x d
    cases d
    exact empty
  | cons a l ih =>
    exact .bind join (each a List.mem_cons_self)
      fun _ => ih fun b member => each b (List.mem_cons_of_mem a member)

end

/-- Which commands are work, and which answers are failures, with the exception that a failure
    ends the program with. -/
structure Terms (C : Type) (R : C → Type) (W ε : Type) where
  work : C → Option W
  verdict : (c : C) → R c → Option ε

namespace Terms
variable (m : Terms C R W ε)

def worked (h : List (Event R)) : List W := h.filterMap (fun e => m.work e.1)

def Smooth (h : List (Event R)) : Prop := ∀ e ∈ h, m.verdict e.1 e.2 = none

/-- How a program may end that carries out `plan` and may raise exceptions of its `own`. -/
inductive Ends (own : ε → Prop) (plan : List W) : List (Event R) → Except ε α → Prop where
  | finished {h : List (Event R)} (a : α) (smooth : m.Smooth h) (all : m.worked h = plan) :
    Ends own plan h (.ok a)
  | stopped {h : List (Event R)} {e : Event R} {x : ε} (smooth : m.Smooth h)
    (failed : m.verdict e.1 e.2 = some x) (part : m.worked (h ++ [e]) <+: plan) :
    Ends own plan (h ++ [e]) (.error x)
  | raised {h : List (Event R)} {x : ε} (smooth : m.Smooth h) (raises : own x)
    (part : m.worked h <+: plan) : Ends own plan h (.error x)

def CarriesOut (own : ε → Prop) (t : Task C R ε α) (plan : List W) : Prop :=
  ∀ h x, Dialogue t h x → m.Ends own plan h x

variable {m} {own : ε → Prop} {plan rest : List W} {h h' : List (Event R)}

@[simp] theorem worked_append :
    m.worked (h ++ h') = m.worked h ++ m.worked h' := List.filterMap_append

theorem worked_cons (e : Event R) :
    m.worked (e :: h) = (m.work e.1).toList ++ m.worked h := by
  unfold worked
  cases hw : m.work e.1 with
  | none => simp [hw]
  | some w => simp [hw]

theorem smooth_append : m.Smooth (h ++ h') ↔ m.Smooth h ∧ m.Smooth h' :=
  List.forall_mem_append

theorem Ends.part {x : Except ε α} (ends : m.Ends own plan h x) : m.worked h <+: plan := by
  cases ends with
  | finished a smooth all => exact all ▸ List.prefix_refl _
  | stopped smooth failed part => exact part
  | raised smooth raises part => exact part

def Done (m : Terms C R W ε) (h : List (Event R)) (w : W) : Prop :=
  ∃ e ∈ h, m.work e.1 = some w ∧ m.verdict e.1 e.2 = none

theorem done_of_smooth (smooth : m.Smooth h) {w : W} (member : w ∈ m.worked h) : m.Done h w := by
  obtain ⟨e, he, hw⟩ := List.mem_filterMap.mp member
  exact ⟨e, he, hw, smooth e he⟩

/-- Only the last answer can be a failure. -/
theorem Ends.smooth_before {x : Except ε α} {e : Event R}
    (ends : m.Ends own plan (h ++ e :: h') x) : m.Smooth h := by
  generalize whole : h ++ e :: h' = all at ends
  cases ends with
  | finished a smooth _ =>
    subst whole
    exact (smooth_append.mp smooth).1
  | raised smooth _ _ =>
    subst whole
    exact (smooth_append.mp smooth).1
  | @stopped front last _ smooth _ _ =>
    have part : h <+: front := by
      have cut := congrArg List.dropLast whole
      rw [List.dropLast_concat, List.dropLast_append_of_ne_nil (List.cons_ne_nil _ _)] at cut
      exact cut ▸ List.prefix_append _ _
    exact fun e member => smooth e (part.subset member)

/-- A part of the plan that a piece of work does not belong to is done before it, if it comes
    first. -/
theorem Ends.done_before {x : Except ε α} {e : Event R} {first : List W} {w : W}
    (ends : m.Ends own (first ++ rest) (h ++ e :: h') x) (names : m.work e.1 = some w)
    (later : w ∉ first) {v : W} (member : v ∈ first) : m.Done h v := by
  refine done_of_smooth ends.smooth_before ?_
  have part := ends.part
  rw [worked_append, worked_cons, names] at part
  rcases List.prefix_or_prefix_of_prefix ((List.prefix_append _ _).trans part)
    (List.prefix_append first rest) with shorter | longer
  · obtain ⟨l, rfl⟩ := shorter
    rw [List.append_assoc, List.prefix_append_right_inj] at part
    cases l with
    | nil => simpa using member
    | cons v' l =>
      have same := (List.cons_prefix_cons.mp part).1
      exact absurd (by simp [same]) later
  · exact longer.subset member

/-- A program that has failed does nothing more. -/
theorem Ends.longer {x : ε} (ends : m.Ends (α := α) own plan h (.error x)) (rest : List W) :
    m.Ends (α := β) own (plan ++ rest) h (.error x) := by
  have longer : plan <+: plan ++ rest := List.prefix_append _ _
  cases ends with
  | stopped smooth failed part => exact .stopped smooth failed (part.trans longer)
  | raised smooth raises part => exact .raised smooth raises (part.trans longer)

theorem Ends.after {x : Except ε β} (smooth : m.Smooth h) (all : m.worked h = plan)
    (ends : m.Ends own rest h' x) : m.Ends own (plan ++ rest) (h ++ h') x := by
  cases ends with
  | finished a smooth' all' =>
    exact .finished a (smooth_append.mpr ⟨smooth, smooth'⟩) (by rw [worked_append, all, all'])
  | stopped smooth' failed part =>
    rw [← List.append_assoc]
    refine .stopped (smooth_append.mpr ⟨smooth, smooth'⟩) failed ?_
    rw [List.append_assoc, worked_append, all]
    exact (List.prefix_append_right_inj plan).mpr part
  | raised smooth' raises part =>
    refine .raised (smooth_append.mpr ⟨smooth, smooth'⟩) raises ?_
    rw [worked_append, all]
    exact (List.prefix_append_right_inj plan).mpr part

namespace CarriesOut

theorem done (a : α) : m.CarriesOut own (.done a) [] := by
  intro h x d
  cases d
  exact .finished a (fun e member => by cases member) rfl

theorem fail {e : ε} (raises : own e) (plan : List W) :
    m.CarriesOut (α := α) own (.fail e) plan := by
  intro h x d
  cases d
  exact .raised (fun e member => by cases member) raises List.nil_prefix

/-- The second part may depend on what the first one can return. -/
theorem bind_returned {t : Task C R ε α} {f : α → Task C R ε β}
    (first : m.CarriesOut own t plan)
    (second : ∀ a h, Dialogue t h (.ok a) → m.CarriesOut own (f a) rest) :
    m.CarriesOut own (t >>= f) (plan ++ rest) := by
  intro h x d
  rcases d.of_bind with ⟨e, rfl, d₁⟩ | ⟨a, h₁, h₂, rfl, d₁, d₂⟩
  · exact (first h _ d₁).longer rest
  · cases first h₁ _ d₁ with
    | finished a smooth all => exact Ends.after smooth all (second a h₁ d₁ h₂ x d₂)

theorem bind {t : Task C R ε α} {f : α → Task C R ε β} (first : m.CarriesOut own t plan)
    (second : ∀ a, m.CarriesOut own (f a) rest) : m.CarriesOut own (t >>= f) (plan ++ rest) :=
  bind_returned first fun a _ _ => second a

/-- A first part that has no work of its own. -/
theorem bind_idle {t : Task C R ε α} {f : α → Task C R ε β} (first : m.CarriesOut own t [])
    (second : ∀ a, m.CarriesOut own (f a) rest) : m.CarriesOut own (t >>= f) rest :=
  bind first second

/-- A last part that has no work of its own. -/
theorem bind_last {t : Task C R ε α} {f : α → Task C R ε β} (first : m.CarriesOut own t plan)
    (second : ∀ a, m.CarriesOut own (f a) []) : m.CarriesOut own (t >>= f) plan :=
  List.append_nil plan ▸ bind first second

theorem ask {c : C} {next : R c → Task C R ε α}
    (goes : ∀ r, m.verdict c r = none → m.CarriesOut own (next r) rest)
    (stops : ∀ r e, m.verdict c r = some e → next r = .fail e) :
    m.CarriesOut own (.ask c next) ((m.work c).toList ++ rest) := by
  intro h x d
  cases d with
  | @ask _ _ r h _ d =>
    have single : m.worked [⟨c, r⟩] = (m.work c).toList := by
      rw [worked_cons]
      exact List.append_nil _
    cases verdict : m.verdict c r with
    | none =>
      refine Ends.after (h := [⟨c, r⟩]) ?_ single (goes r verdict h x d)
      rintro e member
      cases List.mem_singleton.mp member
      exact verdict
    | some e =>
      rw [stops r e verdict] at d
      cases d
      refine .stopped (h := []) (fun e member => by cases member) verdict ?_
      rw [List.nil_append, single]
      exact List.prefix_append _ _

theorem request {c : C} {read : R c → Except ε α}
    (reads : ∀ r, m.verdict c r = none → ∃ a, read r = .ok a)
    (stops : ∀ r e, m.verdict c r = some e → read r = .error e) :
    m.CarriesOut own (.request c read) (m.work c).toList := by
  rw [← List.append_nil (m.work c).toList]
  refine ask (fun r passed => ?_) (fun r e failed => ?_)
  · obtain ⟨a, ok⟩ := reads r passed
    rw [ok]
    exact done a
  · rw [stops r e failed]

theorem forM {f : α → Task C R ε PUnit} {work : α → List W} {l : List α}
    (each : ∀ a ∈ l, m.CarriesOut own (f a) (work a)) :
    m.CarriesOut own (l.forM f) (l.flatMap work) := by
  induction l with
  | nil => exact done PUnit.unit
  | cons a l ih =>
    rw [List.flatMap_cons]
    exact bind (each a List.mem_cons_self)
      fun _ => ih fun b member => each b (List.mem_cons_of_mem a member)

end CarriesOut
end Terms

/-! ## An environment with a state -/

variable (step : σ → (c : C) → R c → σ → Prop)

/-- The run of a program in an environment, with its history. -/
inductive Execution : Task C R ε α → σ → List (Event R) → Except ε α → σ → Prop where
  | done (a : α) (s : σ) : Execution (.done a) s [] (.ok a) s
  | fail (e : ε) (s : σ) : Execution (.fail e) s [] (.error e) s
  | ask {c : C} {next : R c → Task C R ε α} {r : R c} {s s' s'' : σ} {h : List (Event R)}
    {x : Except ε α} (answer : step s c r s') (rest : Execution (next r) s' h x s'') :
    Execution (.ask c next) s (⟨c, r⟩ :: h) x s''

variable {step} {s s' : σ} {h : List (Event R)}

theorem Execution.dialogue {t : Task C R ε α} {x : Except ε α}
    (run : Execution step t s h x s') : Dialogue t h x := by
  induction run with
  | done a s => exact .done a
  | fail e s => exact .fail e
  | ask answer rest ih => exact .ask ih

theorem Execution.of_bind {t : Task C R ε α} {f : α → Task C R ε β} {x : Except ε β}
    (run : Execution step (t >>= f) s h x s') :
    (∃ e, x = .error e ∧ Execution step t s h (.error e) s') ∨
      ∃ a h₁ h₂ u, h = h₁ ++ h₂ ∧ Execution step t s h₁ (.ok a) u ∧
        Execution step (f a) u h₂ x s' := by
  induction t generalizing s h with
  | done a => exact Or.inr ⟨a, [], h, s, rfl, .done a s, run⟩
  | fail e =>
    cases run
    exact Or.inl ⟨e, rfl, .fail e _⟩
  | ask c next ih =>
    cases run with
    | ask answer rest =>
      rcases ih _ rest with ⟨e, rfl, first⟩ | ⟨a, h₁, h₂, u, rfl, first, second⟩
      · exact Or.inl ⟨e, rfl, .ask answer first⟩
      · exact Or.inr ⟨a, _ :: h₁, h₂, u, rfl, .ask answer first, second⟩

theorem Execution.only {allowed : C → Prop} {t : Task C R ε α} {x : Except ε α}
    (only : t.Only allowed) (run : Execution step t s h x s') : ∀ e ∈ h, allowed e.1 :=
  run.dialogue.only only

/-- What the allowed commands keep is kept by a program that gives no others. -/
theorem Execution.invariant {allowed : C → Prop} {t : Task C R ε α} {x : Except ε α}
    (I : σ → Prop) (kept : ∀ s c r s', allowed c → step s c r s' → I s → I s')
    (only : t.Only allowed) (run : Execution step t s h x s') (start : I s) : I s' := by
  induction run with
  | done a s => exact start
  | fail e s => exact start
  | ask answer rest ih => exact ih (only.2 _) (kept _ _ _ _ only.1 answer start)

theorem Execution.of_request {c : C} {read : R c → Except ε α} {a : α}
    (run : Execution step (.request c read) s h (.ok a) s') :
    ∃ r, read r = .ok a ∧ step s c r s' := by
  cases run with
  | @ask _ _ r _ _ _ _ _ answer rest =>
    beta_reduce at rest
    cases ok : read r with
    | error e =>
      rw [ok] at rest
      cases rest
    | ok a' =>
      rw [ok] at rest
      cases rest
      exact ⟨r, ok, answer⟩

/-- What every round of a loop keeps is kept by the loop. -/
theorem Execution.forM_keeps {f : α → Task C R ε PUnit} (I : σ → Prop) {l : List α}
    (kept : ∀ a ∈ l, ∀ s h s', Execution step (f a) s h (.ok ⟨⟩) s' → I s → I s')
    (run : Execution step (l.forM f) s h (.ok ⟨⟩) s') (start : I s) : I s' := by
  induction l generalizing s h with
  | nil =>
    cases run
    exact start
  | cons a l ih =>
    rw [List.forall_mem_cons] at kept
    rcases Execution.of_bind run with ⟨e, eq, -⟩ | ⟨_, h₁, h₂, u, -, first, rest⟩
    · cases eq
    · exact ih kept.2 rest (kept.1 s h₁ u first start)

/-- Each round of a loop brings something about, and the later rounds keep it. -/
theorem Execution.forM {f : α → Task C R ε PUnit} {l : List α} {P : α → σ → Prop}
    (each : ∀ a ∈ l, ∀ s h s', Execution step (f a) s h (.ok ⟨⟩) s' → P a s')
    (later : l.Pairwise fun a b =>
      ∀ s h s', Execution step (f b) s h (.ok ⟨⟩) s' → P a s → P a s')
    (run : Execution step (l.forM f) s h (.ok ⟨⟩) s') : ∀ a ∈ l, P a s' := by
  induction l generalizing s h with
  | nil => exact fun a member => by cases member
  | cons a l ih =>
    rw [List.forall_mem_cons] at each ⊢
    rw [List.pairwise_cons] at later
    rcases Execution.of_bind run with ⟨e, eq, -⟩ | ⟨_, h₁, h₂, u, -, first, rest⟩
    · cases eq
    · exact ⟨Execution.forM_keeps (P a) later.1 rest (each.1 s h₁ u first),
        ih each.2 later.2 rest⟩

def Task.run (act : σ → (c : C) → R c × σ) :
    Task C R ε α → σ → List (Event R) × Except ε α × σ
  | .done a, s => ([], .ok a, s)
  | .fail e, s => ([], .error e, s)
  | .ask c next, s =>
    let r := act s c
    let rest := (next r.1).run act r.2
    (⟨c, r.1⟩ :: rest.1, rest.2)

theorem Task.run_execution {act : σ → (c : C) → R c × σ}
    (answers : ∀ s c, step s c (act s c).1 (act s c).2) (t : Task C R ε α) (s : σ) :
    Execution step t s (t.run act s).1 (t.run act s).2.1 (t.run act s).2.2 := by
  induction t generalizing s with
  | done a => exact .done a s
  | fail e => exact .fail e s
  | ask c next ih => exact .ask (answers s c) (ih (act s c).1 (act s c).2)

end Cezfuzzer.Interactions
