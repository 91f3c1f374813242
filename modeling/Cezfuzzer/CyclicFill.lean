import Mathlib.Data.List.Basic

set_option autoImplicit false

/-!
# Filling a buffer with copies of a list

The loop that appends copies of a source, the last one cut, until a target length is
reached, and its closed form. A source without elements adds nothing, and the loop then
never ends.
-/
namespace Cezfuzzer.CyclicFill

variable {α : Type*}

/-- `while (copied < target)`, for `rounds` tests of its condition at most. -/
def fillLoop (src : List α) (target : ℕ) : ℕ → List α → Option (List α)
  | 0, _ => none
  | rounds + 1, copied =>
    if copied.length < target then
      fillLoop src target rounds (copied ++ src.take (min src.length (target - copied.length)))
    else some copied

/-- The first `n` elements of the endless repetition. -/
def repeated (src : List α) (n : ℕ) : List α := (List.replicate n src).flatten.take n

theorem length_flatten_replicate (src : List α) (n : ℕ) :
    (List.replicate n src).flatten.length = n * src.length := by
  simp

theorem repeated_length {src : List α} (nonempty : src ≠ []) (n : ℕ) :
    (repeated src n).length = n := by
  have h := Nat.le_mul_of_pos_right n (List.length_pos_iff.mpr nonempty)
  simp only [repeated, List.length_take, length_flatten_replicate]
  omega

theorem take_flatten_replicate {src : List α} (nonempty : src ≠ []) {m k : ℕ} (h : m ≤ k) :
    (List.replicate k src).flatten.take m = repeated src m := by
  obtain ⟨j, rfl⟩ := Nat.exists_eq_add_of_le h
  rw [List.replicate_add, List.flatten_append, repeated]
  apply List.take_append_of_le_length
  rw [length_flatten_replicate]
  exact Nat.le_mul_of_pos_right m (List.length_pos_iff.mpr nonempty)

theorem repeated_copy {src : List α} (nonempty : src ≠ []) {n : ℕ} (h : src.length ≤ n) :
    repeated src n = src ++ repeated src (n - src.length) := by
  have pos := List.length_pos_iff.mpr nonempty
  obtain ⟨k, rfl⟩ : ∃ k, n = k + 1 := ⟨n - 1, by omega⟩
  rw [repeated, List.replicate_succ, List.flatten_cons, List.take_append,
    List.take_of_length_le h, take_flatten_replicate nonempty (by omega)]

theorem repeated_cut {src : List α} {n : ℕ} (h : n ≤ src.length) :
    repeated src n = src.take n := by
  cases n with
  | zero => simp [repeated]
  | succ n =>
    rw [repeated, List.replicate_succ, List.flatten_cons, List.take_append_of_le_length h]

theorem repeated_take {src : List α} (nonempty : src ≠ []) {m n : ℕ} (h : m ≤ n) :
    (repeated src n).take m = repeated src m := by
  rw [repeated, List.take_take, Nat.min_eq_left h, take_flatten_replicate nonempty h]

theorem repeated_get {src : List α} (nonempty : src ≠ []) {n i : ℕ} (h : i < n) :
    (repeated src n)[i]? = src[i % src.length]? := by
  have pos := List.length_pos_iff.mpr nonempty
  induction n using Nat.strongRecOn generalizing i with
  | ind n ih =>
    rcases Nat.lt_or_ge i src.length with early | late
    · rw [Nat.mod_eq_of_lt early]
      rcases Nat.le_total n src.length with cut | whole
      · rw [repeated_cut cut, List.getElem?_take_of_lt h]
      · rw [repeated_copy nonempty whole, List.getElem?_append_left early]
    · rw [repeated_copy nonempty (by omega), List.getElem?_append_right late,
        ih (n - src.length) (by omega) (by omega), ← Nat.mod_eq_sub_mod late]

/-- Of a list and what repeats it, the shorter one is a prefix of the other. -/
theorem prefix_of_cyclic {src copy : List α}
    (cyclic : ∀ i < copy.length, copy[i]? = src[i % src.length]?) :
    (src.length ≤ copy.length → src <+: copy) ∧ (copy.length ≤ src.length → copy <+: src) := by
  have same : ∀ i, i < src.length → i < copy.length → copy[i]? = src[i]? := by
    intro i inside here
    rw [cyclic i here, Nat.mod_eq_of_lt inside]
  constructor
  · intro short
    rw [List.prefix_iff_getElem?]
    intro i inside
    rw [same i inside (by omega), List.getElem?_eq_getElem inside]
  · intro short
    rw [List.prefix_iff_getElem?]
    intro i here
    rw [← same i (by omega) here, List.getElem?_eq_getElem here]

theorem repeated_congr {src other : List α} (nonempty : src ≠ []) (nonempty' : other ≠ [])
    {n : ℕ} : repeated src n = repeated other n ↔
      ∀ i < n, src[i % src.length]? = other[i % other.length]? := by
  constructor
  · intro same i h
    rw [← repeated_get nonempty h, same, repeated_get nonempty' h]
  · intro same
    refine List.ext_getElem? fun i => ?_
    rcases Nat.lt_or_ge i n with h | h
    · rw [repeated_get nonempty h, repeated_get nonempty' h, same i h]
    · rw [List.getElem?_eq_none, List.getElem?_eq_none] <;> rwa [repeated_length (by assumption)]

theorem repeated_head {src : List α} {n : ℕ} (pos : 0 < n) :
    (repeated src n).head? = src.head? := by
  obtain ⟨n, rfl⟩ : ∃ m, n = m + 1 := ⟨n - 1, by omega⟩
  cases src with
  | nil => simp [repeated]
  | cons a src => simp [repeated, List.replicate_succ]

theorem fillLoop_full (src : List α) {target rounds : ℕ} {copied : List α}
    (full : target ≤ copied.length) (enough : 0 < rounds) :
    fillLoop src target rounds copied = some copied := by
  obtain ⟨rounds, rfl⟩ : ∃ r, rounds = r + 1 := ⟨rounds - 1, by omega⟩
  rw [fillLoop, if_neg (Nat.not_lt.mpr full)]

/-- With something to copy the loop ends, and has appended the repetition. -/
theorem fillLoop_eq {src : List α} (nonempty : src ≠ []) (target rounds : ℕ)
    (copied : List α) (enough : target - copied.length < rounds) :
    fillLoop src target rounds copied =
      some (copied ++ repeated src (target - copied.length)) := by
  have pos := List.length_pos_iff.mpr nonempty
  induction rounds generalizing copied with
  | zero => omega
  | succ rounds ih =>
    by_cases more : copied.length < target
    · rw [fillLoop, if_pos more]
      by_cases whole : src.length ≤ target - copied.length
      · rw [Nat.min_eq_left whole, List.take_length, ih _ (by simp; omega),
          repeated_copy nonempty whole, List.append_assoc, List.length_append, Nat.sub_sub]
      · -- the last copy is cut, and the next test finds the target reached
        rw [Nat.min_eq_right (by omega), ← repeated_cut (by omega : _ ≤ src.length)]
        apply fillLoop_full
        · rw [List.length_append, repeated_length nonempty]
          omega
        · omega
    · rw [fillLoop_full src (by omega) (by omega), Nat.sub_eq_zero_of_le (by omega)]
      simp [repeated]

theorem fillLoop_nil {target : ℕ} {copied : List α} (more : copied.length < target)
    (rounds : ℕ) : fillLoop [] target rounds copied = none := by
  induction rounds with
  | zero => rfl
  | succ rounds ih =>
    rw [fillLoop, if_pos more, List.take_nil, List.append_nil]
    exact ih

end Cezfuzzer.CyclicFill
