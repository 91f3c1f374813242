import Cezfuzzer.BlockMemory

set_option autoImplicit false

/-!
# Arrays that grow

An array in a memory of blocks that is grown with `realloc`. The block may stay where it is
or move, and whoever still has a pointer to the old place has one to a block that is not
live any more.
-/
namespace Cezfuzzer.GrowingArrays
open BlockMemory

variable {α : Type} {m : Memory α} {p q : Pointer} {cells : Cells α}

/-- What does not fit in the place where the block is has `moved`. Without memory the block
    is left as it is. -/
def realloc (given moved : Bool) : Pointer → ℕ → Program α Pointer
  | .null, size => malloc given size
  | .address b offset, size => fun m => match live m b with
    | none => .error .notLive
    | some cells =>
      if offset ≠ 0 then .error .notStart
      else if given = false then .ok (.null, m)
      else
        let grown := cells.take size ++ List.replicate (size - cells.length) none
        if moved then .ok (.address m.length 0, m.set b none ++ [some grown])
        else .ok (.address b 0, m.set b (some grown))

def fetch : Pointer → Program α α
  | .null => throw .notLive
  | .address b offset => fun m => match live m b with
    | none => .error .notLive
    | some cells => match cells[offset]? with
      | none => .error .outOfBounds
      | some none => .error .uninitialised
      | some (some value) => .ok (value, m)

/-- Where the block of a pointer begins. -/
def start : Pointer → Pointer
  | .null => .null
  | .address b _ => .address b 0

/-- The block that begins at `p` has these cells and no other is live; at `null` begins none. -/
def Only (m : Memory α) : Pointer → Cells α → Prop
  | .null, cells => cells = [] ∧ live m = fun _ => none
  | .address b offset, cells =>
    offset = 0 ∧ live m = Function.update (fun _ => none) b (some cells)

theorem start_advance (p : Pointer) (i : ℕ) : start (p.advance i) = start p := by
  cases p <;> rfl

theorem Only.start_eq (only : Only m p cells) : start p = p := by
  cases p with
  | null => rfl
  | address b offset => rw [start, only.1]

theorem Only.refused (only : Only m p cells) (moved : Bool) (size : ℕ) :
    realloc false moved p size m = .ok (.null, m) := by
  cases p with
  | null => rfl
  | address b offset =>
    obtain ⟨rfl, blocks⟩ := only
    simp [realloc, blocks]

/-- The array has one more cell afterwards. It begins where it did exactly when it has not
    moved. -/
theorem Only.realloc (only : Only m p cells) (moved : Bool) :
    ∃ p' m', realloc true moved p (cells.length + 1) m = .ok (p', m') ∧ p' ≠ .null ∧
      Only m' p' (cells ++ [none]) ∧ (p' = p ↔ moved = false ∧ p ≠ .null) := by
  cases p with
  | null =>
    obtain ⟨rfl, blocks⟩ := only
    refine ⟨.address m.length 0, m ++ [some [none]], rfl, nofun, ⟨rfl, ?_⟩, by simp⟩
    rw [live_append, blocks]
    rfl
  | address b offset =>
    obtain ⟨rfl, blocks⟩ := only
    have here : live m b = some cells := by rw [blocks, Function.update_self]
    have inside := lt_length_of_live here
    have all : cells.take (cells.length + 1) = cells := List.take_of_length_le (Nat.le_succ _)
    cases moved with
    | true =>
      refine ⟨.address m.length 0, m.set b none ++ [some (cells ++ [none])], ?_, nofun,
        ⟨rfl, ?_⟩, ?_⟩
      · simp [GrowingArrays.realloc, here, all]
      · rw [live_append, live_set inside, blocks, Function.update_idem, List.length_set,
          Function.update_eq_self]
      · simpa using (Nat.ne_of_gt inside)
    | false =>
      refine ⟨.address b 0, m.set b (some (cells ++ [none])), ?_, nofun, ⟨rfl, ?_⟩, by simp⟩
      · simp [GrowingArrays.realloc, here, all]
      · rw [live_set inside, blocks, Function.update_idem]

theorem Only.store {old : Option α} (only : Only m p (cells ++ [old])) (value : α) :
    ∃ m', store (p.advance cells.length) [value] m = .ok ((), m') ∧
      Only m' p (cells ++ [some value]) := by
  cases p with
  | null => simp [Only] at only
  | address b offset =>
    obtain ⟨rfl, blocks⟩ := only
    have here : live m b = some (cells ++ [old] ++ []) := by
      rw [blocks, Function.update_self, List.append_nil]
    have written : Ensures (write [some value] (.address b cells.length)) m fun _ m' =>
        live m' = Function.update (live m) b (some (cells ++ [some value] ++ [])) :=
      .write cells [old] [] here rfl rfl fun _ written => written
    obtain ⟨_, m', run, blocks'⟩ := written
    refine ⟨m', by rw [← run, Pointer.advance, Nat.zero_add]; rfl, rfl, ?_⟩
    rw [blocks', blocks, Function.update_idem, List.append_nil]

theorem Only.fetch (only : Only m p cells) {i : ℕ} {value : α}
    (here : cells[i]? = some (some value)) : fetch (p.advance i) m = .ok (value, m) := by
  cases p with
  | null =>
    rw [only.1] at here
    cases here
  | address b offset =>
    obtain ⟨rfl, blocks⟩ := only
    simp [GrowingArrays.fetch, Pointer.advance, blocks, here]

theorem Only.dangling (only : Only m p cells) (other : start q ≠ p) (i : ℕ) :
    GrowingArrays.fetch (q.advance i) m = .error .notLive := by
  cases q with
  | null => rfl
  | address b offset =>
    have dead : live m b = none := by
      cases p with
      | null => rw [only.2]
      | address b' offset' =>
        obtain ⟨rfl, blocks⟩ := only
        have apart : b ≠ b' := fun same => other (by rw [start, same])
        rw [blocks, Function.update_of_ne apart]
    simp [GrowingArrays.fetch, Pointer.advance, dead]

/-- Only a pointer into the array reads something. -/
theorem Only.fetched (only : Only m p cells) {i : ℕ} {found : α × Memory α}
    (begins : start q = q) (h : GrowingArrays.fetch (q.advance i) m = .ok found) :
    q = p ∧ cells[i]? = some (some found.1) ∧ found.2 = m := by
  by_cases same : q = p
  · subst same
    cases q with
    | null => cases h
    | address b offset =>
      obtain ⟨rfl, blocks⟩ := only
      refine ⟨rfl, ?_⟩
      simp only [GrowingArrays.fetch, Pointer.advance, blocks, Function.update_self,
        Nat.zero_add] at h
      split at h
      · cases h
      · cases h
      · cases h
        exact ⟨by assumption, rfl⟩
  · rw [only.dangling (begins.symm ▸ same)] at h
    cases h

end Cezfuzzer.GrowingArrays
