import Mathlib.Algebra.BigOperators.Group.List.Basic
import Mathlib.Algebra.Order.Ring.Nat
import Cezfuzzer.StepRuns

set_option autoImplicit false

/-!
# Weighing the elements of a list

The sum of a weight over a list, and how it moves when one element is replaced. Over the
events of a run it counts what happened; a potential on the states then bounds one such
count by another.
-/
namespace Cezfuzzer.Tallies
open StepRuns

variable {α σ ε : Type*}

def tally (w : α → ℕ) (l : List α) : ℕ := (l.map w).sum

@[simp] theorem tally_nil (w : α → ℕ) : tally w [] = 0 := rfl

@[simp] theorem tally_append (w : α → ℕ) (l l' : List α) :
    tally w (l ++ l') = tally w l + tally w l' := by
  simp [tally]

@[simp] theorem tally_singleton (w : α → ℕ) (a : α) : tally w [a] = w a := by
  simp [tally]

@[simp] theorem tally_cons (w : α → ℕ) (a : α) (l : List α) :
    tally w (a :: l) = w a + tally w l := by
  simp [tally]

theorem tally_set (w : α → ℕ) {l : List α} {i : ℕ} {a : α} (h : l[i]? = some a) (b : α) :
    tally w (l.set i b) + w a = tally w l + w b := by
  induction l generalizing i with
  | nil => simp at h
  | cons x l ih =>
    cases i with
    | zero =>
      obtain rfl : x = a := by simpa using h
      simp only [List.set_cons_zero, tally_cons]
      omega
    | succ i =>
      have := ih (i := i) (by simpa using h)
      simp only [List.set_cons_succ, tally_cons]
      omega

theorem tally_modify (w : α → ℕ) (f : α → α) (same : ∀ a, w (f a) = w a) (l : List α) (i : ℕ) :
    tally w (l.modify i f) = tally w l := by
  induction l generalizing i with
  | nil => simp
  | cons x l ih => cases i <;> simp [same, ih]

theorem le_tally (w : α → ℕ) {l : List α} {a : α} (h : a ∈ l) : w a ≤ tally w l := by
  induction h with
  | head => simp
  | tail b h ih =>
    rw [tally_cons]
    omega

/-- Two elements at different places both count. -/
theorem add_le_tally (w : α → ℕ) {l : List α} {i j : ℕ} {a b : α} (hi : l[i]? = some a)
    (hj : l[j]? = some b) (other : i ≠ j) : w a + w b ≤ tally w l := by
  induction l generalizing i j with
  | nil => simp at hi
  | cons x l ih =>
    rw [tally_cons]
    cases i with
    | zero =>
      cases j with
      | zero => exact absurd rfl other
      | succ j =>
        obtain rfl : x = a := by simpa using hi
        have := le_tally w (List.mem_of_getElem? (l := l) (i := j) hj)
        omega
    | succ i =>
      cases j with
      | zero =>
        obtain rfl : x = b := by simpa using hj
        have := le_tally w (List.mem_of_getElem? (l := l) (i := i) hi)
        omega
      | succ j =>
        have := ih (i := i) (j := j) hi hj (by omega)
        omega

theorem tally_eq_zero {w : α → ℕ} {l : List α} : tally w l = 0 ↔ ∀ a ∈ l, w a = 0 := by
  induction l with
  | nil => simp
  | cons a l ih => simp [ih]

theorem tally_le {w w' : α → ℕ} (le : ∀ a, w a ≤ w' a) (l : List α) :
    tally w l ≤ tally w' l := by
  induction l with
  | nil => simp
  | cons a l ih =>
    simp only [tally_cons]
    have := le a
    omega

/-- If every step pays for what it gains out of a potential and its own cost, so does every
    run. -/
theorem runs_tally_le {step : σ → ε → Option σ} {ok : σ → ε → Prop} {s u : σ} {es : List ε}
    (I : σ → Prop) (potential : σ → ℕ) (gain cost : ε → ℕ) (base : I s)
    (preserve : ∀ t e u, I t → ok t e → step t e = some u → I u)
    (pays : ∀ t e u, I t → ok t e → step t e = some u →
      gain e + potential u ≤ potential t + cost e)
    (h : Runs step ok s es u) :
    tally gain es + potential u ≤ potential s + tally cost es := by
  refine (h.invariant (fun es t => I t ∧
    tally gain es + potential t ≤ potential s + tally cost es) ⟨base, by simp⟩ ?_).2
  intro es t e v ⟨inv, paid⟩ met hs
  have := pays t e v inv met hs
  refine ⟨preserve t e v inv met hs, ?_⟩
  simp only [tally_append, tally_singleton]
  omega

end Cezfuzzer.Tallies
