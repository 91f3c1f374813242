import Mathlib.Data.Finset.Max

set_option autoImplicit false

/-!
# Waiting over intervals

Members of a set start at distinct times, and each waits for those members that started
inside an interval of its own, an interval that contains its own start. If every member
waits for another member, then two of them wait for each other: no longer cycle is needed.
-/
namespace Cezfuzzer.IntervalWaits

variable {ι τ : Type*} [LinearOrder τ]

/-- Whoever starts between a member and one it waits for is waited for as well. -/
def Convex (S : Finset ι) (start : ι → τ) (waits : ι → ι → Prop) : Prop :=
  ∀ i ∈ S, ∀ j ∈ S, ∀ k ∈ S, waits i j →
    (start i < start k ∧ start k < start j ∨ start j < start k ∧ start k < start i) → waits i k

/-- Members that wait for somebody who started later. -/
def WaitsLater (S : Finset ι) (start : ι → τ) (waits : ι → ι → Prop) (i : ι) : Prop :=
  ∃ j ∈ S, start i < start j ∧ waits i j

/-- Where everybody waits, the first to start waits for somebody later. -/
theorem exists_waitsLater {S : Finset ι} {start : ι → τ} {waits : ι → ι → Prop}
    (inj : Set.InjOn start S) (irrefl : ∀ i ∈ S, ¬ waits i i) (nonempty : S.Nonempty)
    (stuck : ∀ i ∈ S, ∃ j ∈ S, waits i j) : ∃ i ∈ S, WaitsLater S start waits i := by
  obtain ⟨m, hm, first⟩ := S.exists_min_image start nonempty
  obtain ⟨j, hj, hw⟩ := stuck m hm
  have hne : start m ≠ start j := by
    intro eq
    have : m = j := inj hm hj eq
    subst this
    exact irrefl m hm hw
  exact ⟨m, hm, j, hj, lt_of_le_of_ne (first j hj) hne, hw⟩

theorem exists_mutual_wait {S : Finset ι} {start : ι → τ} {waits : ι → ι → Prop}
    (inj : Set.InjOn start S) (irrefl : ∀ i ∈ S, ¬ waits i i)
    (convex : Convex S start waits) (nonempty : S.Nonempty)
    (stuck : ∀ i ∈ S, ∃ j ∈ S, waits i j) :
    ∃ p ∈ S, ∃ q ∈ S, p ≠ q ∧ waits p q ∧ waits q p := by
  classical
  -- p is the last member that waits for a later one, q the member that starts next
  obtain ⟨i, hi, hlater⟩ := exists_waitsLater inj irrefl nonempty stuck
  obtain ⟨p, hp, last⟩ := (S.filter (WaitsLater S start waits)).exists_max_image start
    ⟨i, Finset.mem_filter.mpr ⟨hi, hlater⟩⟩
  obtain ⟨hpS, j, hj, hpj, hwpj⟩ := Finset.mem_filter.mp hp
  obtain ⟨q, hq, next⟩ := (S.filter (fun k => start p < start k)).exists_min_image start
    ⟨j, Finset.mem_filter.mpr ⟨hj, hpj⟩⟩
  obtain ⟨hqS, hpq⟩ := Finset.mem_filter.mp hq
  obtain ⟨r, hr, hwqr⟩ := stuck q hqS
  have hqr : start r < start q := by
    rcases lt_trichotomy (start r) (start q) with h | h | h
    · exact h
    · have : r = q := inj hr hqS h
      subst this
      exact absurd hwqr (irrefl r hr)
    · have hle := last q (Finset.mem_filter.mpr ⟨hqS, r, hr, h, hwqr⟩)
      exact absurd hpq (not_lt_of_ge hle)
  have hrp : start r ≤ start p := by
    by_contra h
    have hle := next r (Finset.mem_filter.mpr ⟨hr, lt_of_not_ge h⟩)
    exact absurd hqr (not_lt_of_ge hle)
  refine ⟨p, hpS, q, hqS, fun eq => absurd hpq (by simp [eq]), ?_, ?_⟩
  · rcases (next j (Finset.mem_filter.mpr ⟨hj, hpj⟩)).eq_or_lt with eq | lt
    · rwa [inj hqS hj eq]
    · exact convex p hpS j hj q hqS hwpj (Or.inl ⟨hpq, lt⟩)
  · rcases hrp.eq_or_lt with eq | lt
    · rwa [← inj hr hpS eq]
    · exact convex q hqS r hr p hpS hwqr (Or.inr ⟨lt, hpq⟩)

end Cezfuzzer.IntervalWaits
