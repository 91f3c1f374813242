import Mathlib.Data.List.Nodup

set_option autoImplicit false

/-!
# First occurrences by key

A loop over a list that skips every element whose key it has met, and what a search for the
first match finds in the elements it keeps.
-/
namespace Cezfuzzer.FirstSeen

variable {α β κ : Type*} [DecidableEq κ]

def firstSeen (key : α → κ) : List κ → List α → List α
  | _, [] => []
  | seen, a :: l =>
    if key a ∈ seen then firstSeen key seen l else a :: firstSeen key (seen ++ [key a]) l

theorem mem_of_mem_firstSeen {key : α → κ} {seen : List κ} {l : List α} {a : α}
    (h : a ∈ firstSeen key seen l) : a ∈ l := by
  induction l generalizing seen with
  | nil => simp [firstSeen] at h
  | cons b l ih =>
    rw [firstSeen] at h
    split at h
    · exact List.mem_cons_of_mem _ (ih h)
    · rcases List.mem_cons.mp h with rfl | h
      · exact List.mem_cons_self
      · exact List.mem_cons_of_mem _ (ih h)

theorem key_unseen {key : α → κ} {seen : List κ} {l : List α} {a : α}
    (h : a ∈ firstSeen key seen l) : key a ∉ seen := by
  induction l generalizing seen with
  | nil => simp [firstSeen] at h
  | cons b l ih =>
    rw [firstSeen] at h
    split at h
    · exact ih h
    · rename_i unseen
      rcases List.mem_cons.mp h with rfl | h
      · exact unseen
      · exact fun member => ih h (List.mem_append_left _ member)

theorem keys_nodup (key : α → κ) (seen : List κ) (l : List α) :
    ((firstSeen key seen l).map key).Nodup := by
  induction l generalizing seen with
  | nil => simp [firstSeen]
  | cons a l ih =>
    rw [firstSeen]
    split
    · exact ih seen
    · refine List.nodup_cons.mpr ⟨fun member => ?_, ih _⟩
      obtain ⟨b, hb, same⟩ := List.mem_map.mp member
      exact key_unseen hb (by simp [same])

/-- No key is lost. -/
theorem key_kept {key : α → κ} (seen : List κ) {l : List α} {a : α} (h : a ∈ l) :
    key a ∈ seen ∨ key a ∈ (firstSeen key seen l).map key := by
  induction l generalizing seen with
  | nil => simp at h
  | cons b l ih =>
    rw [firstSeen]
    split
    · rename_i member
      rcases List.mem_cons.mp h with rfl | h
      · exact Or.inl member
      · exact ih seen h
    · rcases List.mem_cons.mp h with rfl | h
      · exact Or.inr (by simp)
      · rcases ih (seen ++ [key b]) h with member | member
        · rcases List.mem_append.mp member with member | member
          · exact Or.inl member
          · exact Or.inr (by simp_all)
        · exact Or.inr (List.mem_cons_of_mem _ member)

theorem firstSeen_append (key : α → κ) (seen : List κ) (l l' : List α) :
    firstSeen key seen (l ++ l') = firstSeen key seen l ++
      firstSeen key (seen ++ (firstSeen key seen l).map key) l' := by
  induction l generalizing seen with
  | nil => simp [firstSeen]
  | cons a l ih =>
    simp only [List.cons_append, firstSeen]
    split
    · exact ih seen
    · rw [ih, List.cons_append, List.map_cons, List.append_assoc, List.singleton_append]

/-- What is skipped is never the first match, if it matches only where the element with its
    key does. -/
theorem find_flatMap_firstSeen (key : α → κ) (f : α → List β) (p : β → Bool) (l : List α)
    (same : ∀ a ∈ l, ∀ b ∈ l, key a = key b → (f a).find? p = none → (f b).find? p = none) :
    ((firstSeen key [] l).flatMap f).find? p = (l.flatMap f).find? p := by
  suffices general : ∀ seen, (∀ a ∈ l, key a ∈ seen → (f a).find? p = none) →
      ((firstSeen key seen l).flatMap f).find? p = (l.flatMap f).find? p from
    general [] (by simp)
  induction l with
  | nil => simp [firstSeen]
  | cons a l ih =>
    intro seen skipped
    have ih := ih fun b hb c hc =>
      same b (List.mem_cons_of_mem _ hb) c (List.mem_cons_of_mem _ hc)
    rw [firstSeen]
    split
    · rename_i member
      rw [List.flatMap_cons, List.find?_append, skipped a List.mem_cons_self member,
        Option.none_or]
      exact ih seen fun b hb => skipped b (List.mem_cons_of_mem _ hb)
    · rw [List.flatMap_cons, List.flatMap_cons, List.find?_append, List.find?_append]
      cases found : (f a).find? p with
      | some x => rfl
      | none =>
        rw [Option.none_or, Option.none_or]
        refine ih _ fun b hb member => ?_
        rcases List.mem_append.mp member with member | member
        · exact skipped b (List.mem_cons_of_mem _ hb) member
        · exact same a List.mem_cons_self b (List.mem_cons_of_mem _ hb)
            (List.mem_singleton.mp member).symm found

/-- The first match is a match that no match is ahead of. -/
theorem find_eq_some_iff_idxOf [DecidableEq α] {p : α → Bool} {l : List α} {a : α} :
    l.find? p = some a ↔
      a ∈ l ∧ p a = true ∧ ∀ b ∈ l, l.idxOf b < l.idxOf a → p b = false := by
  induction l with
  | nil => simp
  | cons c l ih =>
    by_cases same : c = a
    · subst same
      cases matching : p c with
      | true => simp [matching]
      | false =>
        rw [List.find?_cons_of_neg (by simp [matching])]
        constructor
        · intro found
          have := List.find?_some found
          simp [matching] at this
        · rintro ⟨-, h, -⟩
          cases h
    · cases matching : p c with
      | true =>
        rw [List.find?_cons_of_pos matching]
        constructor
        · intro h
          exact absurd (Option.some.inj h) same
        · rintro ⟨-, -, first⟩
          have := first c List.mem_cons_self (by simp [List.idxOf_cons_ne _ same])
          simp [matching] at this
      | false =>
        rw [List.find?_cons_of_neg (by simp [matching]), ih]
        simp only [List.mem_cons, Ne.symm same, false_or, forall_eq_or_imp, matching, implies_true,
          true_and, List.idxOf_cons_ne _ same]
        refine and_congr_right fun _ => and_congr_right fun _ => ?_
        refine forall_congr' fun b => forall_congr' fun _ => ?_
        by_cases h : c = b
        · subst h
          simp [matching]
        · rw [List.idxOf_cons_ne _ h]
          simp

end Cezfuzzer.FirstSeen
