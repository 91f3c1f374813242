import Mathlib.Data.List.Forall2

set_option autoImplicit false

/-!
# Dictionaries in insertion order

A dictionary is the list of its entries. An assignment leaves a key where it is and puts a new
one last. No lemma needs the keys to be distinct.
-/
namespace Cezfuzzer.OrderedDict

variable {κ ν : Type*}

section
variable [DecidableEq κ]

def assign (k : κ) (v : ν) : List (κ × ν) → List (κ × ν)
  | [] => [(k, v)]
  | e :: es => if e.1 = k then (e.1, v) :: es else e :: assign k v es

def discard (k : κ) : List (κ × ν) → List (κ × ν)
  | [] => []
  | e :: es => if e.1 = k then es else e :: discard k es

/-- What is at `k`, if anything is, goes through `f`. -/
def update (k : κ) (f : ν → ν) : List (κ × ν) → List (κ × ν)
  | [] => []
  | e :: es => if e.1 = k then (e.1, f e.2) :: es else e :: update k f es

variable {k k' : κ} {v w : ν} {f g : ν → ν} {es : List (κ × ν)}

theorem lookup_cons (k : κ) (e : κ × ν) (es : List (κ × ν)) :
    (e :: es).lookup k = if e.1 = k then some e.2 else es.lookup k := by
  obtain ⟨k', v⟩ := e
  change (match k == k' with | true => some v | false => es.lookup k) = _
  by_cases h : k' = k
  · simp [h]
  · have : (k == k') = false := by simpa using Ne.symm h
    simp [h, this]

theorem lookup_assign (k : κ) (v : ν) (es : List (κ × ν)) :
    (assign k v es).lookup k = some v := by
  induction es with
  | nil => simp [assign]
  | cons e es ih =>
    by_cases h : e.1 = k
    · simp [assign, lookup_cons, h]
    · simp [assign, lookup_cons, h, ih]

theorem lookup_assign_of_ne (h : k ≠ k') (v : ν) (es : List (κ × ν)) :
    (assign k' v es).lookup k = es.lookup k := by
  induction es with
  | nil => simp [assign, lookup_cons, Ne.symm h]
  | cons e es ih =>
    by_cases h' : e.1 = k'
    · simp [assign, lookup_cons, h', Ne.symm h]
    · simp [assign, lookup_cons, h', ih]

theorem lookup_discard_of_ne (h : k ≠ k') (es : List (κ × ν)) :
    (discard k' es).lookup k = es.lookup k := by
  induction es with
  | nil => rfl
  | cons e es ih =>
    by_cases h' : e.1 = k'
    · simp [discard, lookup_cons, h', Ne.symm h]
    · simp [discard, lookup_cons, h', ih]

theorem lookup_update (k : κ) (f : ν → ν) (es : List (κ × ν)) :
    (update k f es).lookup k = (es.lookup k).map f := by
  induction es with
  | nil => rfl
  | cons e es ih =>
    by_cases h : e.1 = k
    · simp [update, lookup_cons, h]
    · simp [update, lookup_cons, h, ih]

theorem lookup_update_of_ne (h : k ≠ k') (f : ν → ν) (es : List (κ × ν)) :
    (update k' f es).lookup k = es.lookup k := by
  induction es with
  | nil => rfl
  | cons e es ih =>
    by_cases h' : e.1 = k'
    · simp [update, lookup_cons, h', Ne.symm h]
    · simp [update, lookup_cons, h', ih]

theorem discard_assign (k : κ) (v : ν) (es : List (κ × ν)) :
    discard k (assign k v es) = discard k es := by
  induction es with
  | nil => simp [assign, discard]
  | cons e es ih =>
    by_cases h : e.1 = k
    · simp [assign, discard, h]
    · simp [assign, discard, h, ih]

theorem discard_assign_of_ne (h : k ≠ k') (v : ν) (es : List (κ × ν)) :
    discard k (assign k' v es) = assign k' v (discard k es) := by
  induction es with
  | nil => simp [assign, discard, Ne.symm h]
  | cons e es ih =>
    by_cases h₁ : e.1 = k
    · have h₂ : e.1 ≠ k' := h₁ ▸ h
      simp [assign, discard, h₁, h]
    · by_cases h₂ : e.1 = k'
      · simp [assign, discard, h₂, Ne.symm h]
      · simp [assign, discard, h₁, h₂, ih]

theorem update_assign_of_ne (h : k ≠ k') (f : ν → ν) (v : ν) (es : List (κ × ν)) :
    update k f (assign k' v es) = assign k' v (update k f es) := by
  induction es with
  | nil => simp [assign, update, Ne.symm h]
  | cons e es ih =>
    by_cases h₁ : e.1 = k
    · simp [assign, update, h₁, h]
    · by_cases h₂ : e.1 = k'
      · simp [assign, update, h₂, Ne.symm h]
      · simp [assign, update, h₁, h₂, ih]

/-- An assignment that `f` does not see. -/
theorem update_assign (present : es.lookup k = some w) (same : f v = f w) :
    update k f (assign k v es) = update k f es := by
  induction es with
  | nil => cases present
  | cons e es ih =>
    by_cases h : e.1 = k
    · rw [lookup_cons, if_pos h, Option.some.injEq] at present
      simp [assign, update, h, present, same]
    · rw [lookup_cons, if_neg h] at present
      simp [assign, update, h, ih present]

theorem update_update (k : κ) (f g : ν → ν) (es : List (κ × ν)) :
    update k f (update k g es) = update k (f ∘ g) es := by
  induction es with
  | nil => rfl
  | cons e es ih =>
    by_cases h : e.1 = k
    · simp [update, h]
    · simp [update, h, ih]

theorem discard_update_of_ne (h : k ≠ k') (f : ν → ν) (es : List (κ × ν)) :
    discard k (update k' f es) = update k' f (discard k es) := by
  induction es with
  | nil => rfl
  | cons e es ih =>
    by_cases h₁ : e.1 = k
    · simp [update, discard, h₁, h]
    · by_cases h₂ : e.1 = k'
      · simp [update, discard, h₂, Ne.symm h]
      · simp [update, discard, h₁, h₂, ih]

theorem update_congr (same : ∀ v, es.lookup k = some v → f v = g v) :
    update k f es = update k g es := by
  induction es with
  | nil => rfl
  | cons e es ih =>
    by_cases h : e.1 = k
    · have := same e.2 (by rw [lookup_cons, if_pos h])
      simp [update, h, this]
    · have := ih (by simpa [lookup_cons, h] using same)
      simp [update, h, this]

theorem update_eq_self (present : es.lookup k = some v) (same : f v = v) :
    update k f es = es := by
  induction es with
  | nil => rfl
  | cons e es ih =>
    by_cases h : e.1 = k
    · rw [lookup_cons, if_pos h, Option.some.injEq] at present
      simp [update, h, present, same, Prod.ext_iff]
    · rw [lookup_cons, if_neg h] at present
      simp [update, h, ih present]

end

def mapValues (f : ν → ν) (es : List (κ × ν)) : List (κ × ν) := es.map (fun e => (e.1, f e.2))

/-- The first value that satisfies `p` goes through `f`. -/
def updateFirst (p : ν → Bool) (f : ν → ν) : List (κ × ν) → List (κ × ν)
  | [] => []
  | e :: es => if p e.2 then (e.1, f e.2) :: es else e :: updateFirst p f es

section
variable {p : ν → Bool} {f g h : ν → ν}

theorem updateFirst_updateFirst (kept : ∀ v, p v = true → p (g v) = true)
    (es : List (κ × ν)) :
    updateFirst p f (updateFirst p g es) = updateFirst p (f ∘ g) es := by
  induction es with
  | nil => rfl
  | cons e es ih =>
    by_cases first : p e.2
    · simp [updateFirst, first, kept]
    · simp [updateFirst, first, ih]

theorem map_updateFirst {τ : Type*} {read : ν → τ} (same : ∀ v, p v = true → read (f v) = read v)
    (es : List (κ × ν)) :
    (updateFirst p f es).map (fun e => read e.2) = es.map (fun e => read e.2) := by
  induction es with
  | nil => rfl
  | cons e es ih =>
    by_cases first : p e.2
    · simp [updateFirst, first, same]
    · simp [updateFirst, first, ih]

theorem mapM_updateFirst {m : Type → Type} [Monad m] [LawfulMonad m] {τ : Type} {read : ν → m τ}
    (same : ∀ v, p v = true → read (f v) = read v) (es : List (κ × ν)) :
    (updateFirst p f es).mapM (fun e => read e.2) = es.mapM (fun e => read e.2) := by
  have mapped := congrArg (List.mapM id) (map_updateFirst same es)
  simpa only [List.mapM_map, Function.comp_def, id_eq] using mapped

theorem updateFirst_congr (same : ∀ v, p v = true → f v = g v) (es : List (κ × ν)) :
    updateFirst p f es = updateFirst p g es := by
  induction es with
  | nil => rfl
  | cons e es ih =>
    by_cases first : p e.2
    · simp [updateFirst, first, same]
    · simp [updateFirst, first, ih]

/-- What `f` takes out again may go in before or after the rest of the values change. -/
theorem updateFirst_mapValues (mapped : ∀ v, p (h v) = p v)
    (kept : ∀ v, p v = true → p (g v) = true)
    (same : ∀ v, p v = true → f (h (g v)) = f (h v)) (es : List (κ × ν)) :
    updateFirst p f (mapValues h (updateFirst p g es)) = updateFirst p f (mapValues h es) := by
  unfold mapValues
  induction es with
  | nil => rfl
  | cons e es ih =>
    by_cases first : p e.2
    · simp [updateFirst, mapped, first, kept, same]
    · simp [updateFirst, mapped, first, ih]

theorem mem_updateFirst {e : κ × ν} {es : List (κ × ν)} (h : e ∈ updateFirst p f es) :
    e ∈ es ∨ ∃ e₀ ∈ es, p e₀.2 = true ∧ e = (e₀.1, f e₀.2) := by
  induction es with
  | nil => cases h
  | cons e₁ es ih =>
    by_cases first : p e₁.2
    · rw [updateFirst, if_pos first] at h
      rcases List.mem_cons.mp h with rfl | h
      · exact Or.inr ⟨e₁, List.mem_cons_self, first, rfl⟩
      · exact Or.inl (List.mem_cons_of_mem _ h)
    · rw [updateFirst, if_neg first] at h
      rcases List.mem_cons.mp h with rfl | h
      · exact Or.inl List.mem_cons_self
      · rcases ih h with h | ⟨e₀, h₀, h⟩
        · exact Or.inl (List.mem_cons_of_mem _ h)
        · exact Or.inr ⟨e₀, List.mem_cons_of_mem _ h₀, h⟩

theorem updateFirst_related {R : ν → ν → Prop} (refl : ∀ v, R v v)
    (updated : ∀ v, p v = true → R v (f v)) (es : List (κ × ν)) :
    List.Forall₂ (fun e e' => e'.1 = e.1 ∧ R e.2 e'.2) es (updateFirst p f es) := by
  induction es with
  | nil => exact .nil
  | cons e es ih =>
    by_cases first : p e.2
    · simp only [updateFirst, first, if_true]
      exact .cons ⟨rfl, updated _ first⟩ (List.forall₂_same.mpr fun e _ => ⟨rfl, refl _⟩)
    · simp only [updateFirst, first]
      exact .cons ⟨rfl, refl _⟩ ih

end

end Cezfuzzer.OrderedDict
