import Mathlib.Data.List.Forall2

set_option autoImplicit false

/-!
# Loops that may fail

Successful runs of programs in `Except`. A loop that first reads every element and then works
on what it has read does the same as a loop that does both for each element in turn, if
nothing fails.
-/
namespace Cezfuzzer.FallibleLoops

variable {ε α β γ σ : Type}

theorem ok_bind {x : Except ε α} {f : α → Except ε β} {b : β} :
    x >>= f = .ok b ↔ ∃ a, x = .ok a ∧ f a = .ok b := by
  cases x with
  | error e => simp [bind, Except.bind]
  | ok a => simp [bind, Except.bind]

theorem ok_pure {a b : α} : (pure a : Except ε α) = .ok b ↔ b = a := by
  simp [pure, Except.pure, eq_comm]

theorem ok_pair {a c : α} {b d : β} :
    (pure (a, b) : Except ε (α × β)) = .ok (c, d) ↔ c = a ∧ d = b := by
  rw [ok_pure, Prod.mk.injEq]

theorem bind_of_ok {x : Except ε α} {a : α} (h : x = .ok a) (f : α → Except ε β) :
    x >>= f = f a := by
  subst h
  rfl

theorem mapM_eq_ok {f : α → Except ε β} {l : List α} {bs : List β} :
    l.mapM f = .ok bs ↔ List.Forall₂ (fun a b => f a = .ok b) l bs := by
  induction l generalizing bs with
  | nil =>
    rw [List.mapM_nil, ok_pure, List.forall₂_nil_left_iff]
  | cons a l ih =>
    rw [List.mapM_cons, ok_bind, List.forall₂_cons_left_iff]
    refine exists_congr fun b => ?_
    simp only [ok_bind, ok_pure, ih]
    constructor
    · rintro ⟨hb, bs', hbs, rfl⟩
      exact ⟨bs', hb, hbs, rfl⟩
    · rintro ⟨bs', hb, hbs, rfl⟩
      exact ⟨hb, bs', hbs, rfl⟩

theorem mapM_succeeds {f : α → Except ε β} {l : List α} :
    (∃ bs, l.mapM f = .ok bs) ↔ ∀ a ∈ l, ∃ b, f a = .ok b := by
  simp only [mapM_eq_ok]
  induction l with
  | nil => simp
  | cons a l ih =>
    rw [List.forall_mem_cons, ← ih]
    constructor
    · rintro ⟨_, first⟩
      obtain ⟨b, bs, hb, hbs, rfl⟩ := List.forall₂_cons_left_iff.mp first
      exact ⟨⟨b, hb⟩, bs, hbs⟩
    · rintro ⟨⟨b, hb⟩, bs, hbs⟩
      exact ⟨b :: bs, .cons hb hbs⟩

/-- A relation that, between the elements of two lists, depends on the first alone. -/
theorem forall₂_left {R S : α → β → Prop} {p : α → Prop} (reduces : ∀ a b, R a b → (S a b ↔ p a))
    {l : List α} {bs : List β} (h : List.Forall₂ R l bs) :
    List.Forall₂ S l bs ↔ ∀ a ∈ l, p a := by
  induction h with
  | nil => simp
  | cons first _ ih => rw [List.forall₂_cons, List.forall_mem_cons, reduces _ _ first, ih]

theorem mapM_ok {f : α → Except ε β} {g : α → Except ε γ} {p : β → γ}
    (same : ∀ a b, f a = .ok b → g a = .ok (p b)) {l : List α} {bs : List β}
    (h : l.mapM f = .ok bs) : l.mapM g = .ok (bs.map p) := by
  rw [mapM_eq_ok] at h ⊢
  exact List.forall₂_map_right_iff.mpr (h.imp same)

theorem mapM_eq_self {f : α → Except ε α} {l : List α} :
    l.mapM f = .ok l ↔ ∀ a ∈ l, f a = .ok a := by
  rw [mapM_eq_ok, List.forall₂_same]

/-- If a step leaves alone what it makes of an element, so does the loop. -/
theorem mapM_fixed {f : α → Except ε α} (fixed : ∀ a b, f a = .ok b → f b = .ok b)
    {l l' : List α} (h : l.mapM f = .ok l') : l'.mapM f = .ok l' := by
  rw [mapM_eq_ok] at h ⊢
  induction h with
  | nil => exact .nil
  | cons first _ ih => exact .cons (fixed _ _ first) ih

theorem map_of_mapM {f : α → Except ε β} {p : α → γ} {q : β → γ}
    (same : ∀ a b, f a = .ok b → q b = p a) {l : List α} {bs : List β}
    (h : l.mapM f = .ok bs) : bs.map q = l.map p := by
  rw [mapM_eq_ok] at h
  induction h with
  | nil => rfl
  | cons first _ ih => rw [List.map_cons, List.map_cons, same _ _ first, ih]

section
variable {visit : σ → α → Except ε σ} {read : α → Except ε β} {work : σ → β → Except ε σ}

/-- The work is left to do once everything is read. -/
theorem foldlM_of_read (split : ∀ s a b, read a = .ok b → visit s a = work s b)
    {l : List α} {bs : List β} (h : l.mapM read = .ok bs) (s : σ) :
    l.foldlM visit s = bs.foldlM work s := by
  rw [mapM_eq_ok] at h
  induction h generalizing s with
  | nil => rfl
  | cons first _ ih =>
    rw [List.foldlM_cons, List.foldlM_cons, split _ _ _ first]
    exact congrArg _ (funext fun t => ih t)

/-- A loop that succeeds has read everything. -/
theorem read_of_foldlM (readable : ∀ s a t, visit s a = .ok t → ∃ b, read a = .ok b)
    {l : List α} {s t : σ} (h : l.foldlM visit s = .ok t) : ∃ bs, l.mapM read = .ok bs := by
  induction l generalizing s with
  | nil => exact ⟨[], rfl⟩
  | cons a l ih =>
    rw [List.foldlM_cons] at h
    obtain ⟨u, hu, h⟩ := ok_bind.mp h
    obtain ⟨b, hb⟩ := readable s a u hu
    obtain ⟨bs, hbs⟩ := ih h
    refine ⟨b :: bs, ?_⟩
    rw [List.mapM_cons, bind_of_ok hb, bind_of_ok hbs]
    rfl

theorem foldlM_flatten (bss : List (List β)) (s : σ) :
    bss.foldlM (fun s bs => bs.foldlM work s) s = bss.flatten.foldlM work s := by
  induction bss generalizing s with
  | nil => rfl
  | cons bs bss ih =>
    rw [List.foldlM_cons, List.flatten_cons, List.foldlM_append]
    exact congrArg _ (funext fun t => ih t)

end

/-- Two runs that succeed and end related, or that fail alike. -/
def Agree {ε' : Type} (E : ε → ε' → Prop) (R : α → β → Prop) : Except ε α → Except ε' β → Prop
  | .ok a, .ok b => R a b
  | .error e, .error e' => E e e'
  | _, _ => False

section
variable {ε' α' β' σ' : Type} {E : ε → ε' → Prop}

theorem Agree.bind {R : α → α' → Prop} {S : β → β' → Prop} {x : Except ε α} {y : Except ε' α'}
    {f : α → Except ε β} {g : α' → Except ε' β'} (h : Agree E R x y)
    (next : ∀ a a', R a a' → Agree E S (f a) (g a')) : Agree E S (x >>= f) (y >>= g) := by
  cases x with
  | error e =>
    cases y with
    | error e' => exact h
    | ok b => exact h.elim
  | ok a =>
    cases y with
    | error e' => exact h.elim
    | ok b => exact next a b h

theorem Agree.foldlM {T : α → α' → Prop} {R : σ → σ' → Prop} {f : σ → α → Except ε σ}
    {g : σ' → α' → Except ε' σ'}
    (step : ∀ s s' a a', R s s' → T a a' → Agree E R (f s a) (g s' a'))
    {l : List α} {l' : List α'} (h : List.Forall₂ T l l') {s : σ} {s' : σ'} (start : R s s') :
    Agree E R (l.foldlM f s) (l'.foldlM g s') := by
  induction h generalizing s s' with
  | nil => exact start
  | cons first _ ih =>
    rw [List.foldlM_cons, List.foldlM_cons]
    exact (step _ _ _ _ start first).bind fun t t' same => ih same

end

end Cezfuzzer.FallibleLoops
