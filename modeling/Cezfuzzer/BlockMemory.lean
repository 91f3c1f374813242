import Mathlib.Logic.Function.Basic
import Cezfuzzer.CyclicFill

set_option autoImplicit false

/-!
# Programs over a memory of blocks

A block is a list of cells, and a cell without a value has not been written yet. Blocks are
numbered as they are allocated and no number is used again. Every access that leaves its
block, and every use of a block that is not live, is a fault.
-/
namespace Cezfuzzer.BlockMemory
open CyclicFill

variable {α β γ : Type}

abbrev Cells (α : Type) := List (Option α)

/-- All blocks that have been allocated, `none` for one that has been freed. -/
abbrev Memory (α : Type) := List (Option (Cells α))

inductive Pointer where
  | null
  | address (block offset : ℕ)
  deriving DecidableEq, Repr

inductive Fault where
  | notLive | notStart | outOfBounds | overlap | uninitialised | unfinished
  deriving DecidableEq, Repr

abbrev Program (α β : Type) := StateT (Memory α) (Except Fault) β

def live (m : Memory α) (b : ℕ) : Option (Cells α) := m[b]?.join

def Pointer.advance : Pointer → ℕ → Pointer
  | .null, _ => .null
  | .address b offset, n => .address b (offset + n)

/-- The `size` cells from each of the two have one in common. -/
def Overlaps (size : ℕ) : Pointer → Pointer → Prop
  | .address b offset, .address b' offset' =>
    b = b' ∧ offset < offset' + size ∧ offset' < offset + size
  | _, _ => False

instance (size : ℕ) (p q : Pointer) : Decidable (Overlaps size p q) := by
  cases p <;> cases q <;> simp only [Overlaps] <;> infer_instance

def malloc (given : Bool) (size : ℕ) : Program α Pointer := fun m =>
  if given then .ok (.address m.length 0, m ++ [some (List.replicate size none)])
  else .ok (.null, m)

def free : Pointer → Program α Unit
  | .null => pure ()
  | .address b offset => fun m =>
    if live m b = none then .error .notLive
    else if offset ≠ 0 then .error .notStart
    else .ok ((), m.set b none)

def read (size : ℕ) : Pointer → Program α (Cells α)
  | .null => throw .notLive
  | .address b offset => fun m => match live m b with
    | none => .error .notLive
    | some cells =>
      if offset + size ≤ cells.length then .ok ((cells.drop offset).take size, m)
      else .error .outOfBounds

def write (new : Cells α) : Pointer → Program α Unit
  | .null => throw .notLive
  | .address b offset => fun m => match live m b with
    | none => .error .notLive
    | some cells =>
      if offset + new.length ≤ cells.length then
        .ok ((), m.set b (some (cells.take offset ++ new ++ cells.drop (offset + new.length))))
      else .error .outOfBounds

def memcpy (dst src : Pointer) (size : ℕ) : Program α Unit :=
  if Overlaps size dst src then throw .overlap
  else do
    let cells ← read size src
    write cells dst

def memset (dst : Pointer) (value : α) (size : ℕ) : Program α Unit :=
  write (List.replicate size (some value)) dst

/-- The values of cells that have all been written. -/
def load (src : Pointer) (size : ℕ) : Program α (List α) := do
  let cells ← read size src
  match cells.allSome with
  | some values => pure values
  | none => throw .uninitialised

def store (dst : Pointer) (values : List α) : Program α Unit := write (values.map some) dst

/-- `while (copied < target)` with copies of the `size` cells at `src`, for a number of tests
    of its condition. -/
def fill (dst : Pointer) (target : ℕ) (src : Pointer) (size : ℕ) : ℕ → ℕ → Program α ℕ
  | 0, _ => throw .unfinished
  | rounds + 1, copied =>
    if copied < target then do
      let toCopy := min size (target - copied)
      memcpy (dst.advance copied) src toCopy
      fill dst target src size rounds (copied + toCopy)
    else pure copied

/-- From this memory the program runs without a fault and leaves what is asked for. -/
def Ensures (prog : Program α β) (m : Memory α) (post : β → Memory α → Prop) : Prop :=
  ∃ b m', prog m = .ok (b, m') ∧ post b m'

theorem Ensures.pure {m : Memory α} {b : β} {post : β → Memory α → Prop} (h : post b m) :
    Ensures (pure b) m post := ⟨b, m, rfl, h⟩

theorem Ensures.bind {prog : Program α β} {rest : β → Program α γ} {m : Memory α}
    {post : γ → Memory α → Prop}
    (h : Ensures prog m (fun b m' => Ensures (rest b) m' post)) :
    Ensures (prog >>= rest) m post := by
  obtain ⟨b, m', first, c, m'', second, done⟩ := h
  refine ⟨c, m'', ?_, done⟩
  rw [← second]
  change Except.bind (prog m) _ = _
  rw [first]
  rfl

theorem Ensures.mono {prog : Program α β} {m : Memory α} {post post' : β → Memory α → Prop}
    (h : Ensures prog m post) (weaker : ∀ b m', post b m' → post' b m') :
    Ensures prog m post' := by
  obtain ⟨b, m', run, done⟩ := h
  exact ⟨b, m', run, weaker b m' done⟩

theorem live_append (m : Memory α) (cells : Cells α) :
    live (m ++ [some cells]) = Function.update (live m) m.length (some cells) := by
  funext b
  rcases Nat.lt_trichotomy b m.length with before | rfl | after
  · rw [Function.update_of_ne (Nat.ne_of_lt before), live, live, List.getElem?_append_left before]
  · simp [live]
  · rw [Function.update_of_ne (Nat.ne_of_gt after), live, live, List.getElem?_eq_none,
      List.getElem?_eq_none]
    · exact Nat.le_of_lt after
    · rwa [List.length_append, List.length_singleton]

theorem lt_length_of_live {m : Memory α} {b : ℕ} {cells : Cells α} (h : live m b = some cells) :
    b < m.length := by
  by_contra outside
  simp [live, List.getElem?_eq_none (Nat.not_lt.mp outside)] at h

theorem live_set {m : Memory α} {b : ℕ} (inside : b < m.length) (cells : Option (Cells α)) :
    live (m.set b cells) = Function.update (live m) b cells := by
  funext b'
  by_cases same : b' = b
  · subst same
    simp [live, inside]
  · rw [Function.update_of_ne same, live, live, List.getElem?_set_ne (Ne.symm same)]

theorem allSome_map (values : List α) : (values.map some).allSome = some values := by
  induction values with
  | nil => rfl
  | cons value values ih =>
    rw [List.allSome] at ih ⊢
    simp [ih]

section Rules
variable {m : Memory α} {b : ℕ}

theorem Ensures.malloc {size : ℕ} {post : Pointer → Memory α → Prop}
    (h : ∀ b m', live m b = none →
      live m' = Function.update (live m) b (some (List.replicate size none)) →
      post (.address b 0) m') : Ensures (malloc true size) m post :=
  ⟨_, _, rfl, h m.length _ (by simp [live]) (live_append m _)⟩

theorem Ensures.refused {size : ℕ} {post : Pointer → Memory α → Prop} (h : post .null m) :
    Ensures (BlockMemory.malloc false size) m post := ⟨_, _, rfl, h⟩

theorem Ensures.free {cells : Cells α} {post : Unit → Memory α → Prop}
    (given : live m b = some cells)
    (h : ∀ m', live m' = Function.update (live m) b none → post () m') :
    Ensures (free (.address b 0)) m post := by
  refine ⟨(), m.set b none, ?_, h _ (live_set (lt_length_of_live given) none)⟩
  simp [BlockMemory.free, given]

theorem Ensures.read {offset : ℕ} (front cells back : Cells α)
    {post : Cells α → Memory α → Prop} (given : live m b = some (front ++ cells ++ back))
    (start : offset = front.length) (h : post cells m) :
    Ensures (read cells.length (.address b offset)) m post := by
  refine ⟨cells, m, ?_, h⟩
  subst start
  simp [BlockMemory.read, given]

theorem Ensures.write {offset : ℕ} (front old back : Cells α) {new : Cells α}
    {post : Unit → Memory α → Prop} (given : live m b = some (front ++ old ++ back))
    (start : offset = front.length) (fits : new.length = old.length)
    (h : ∀ m', live m' = Function.update (live m) b (some (front ++ new ++ back)) → post () m') :
    Ensures (write new (.address b offset)) m post := by
  subst start
  refine ⟨(), m.set b (some (front ++ new ++ back)), ?_,
    h _ (live_set (lt_length_of_live given) _)⟩
  simp [BlockMemory.write, given, fits]

theorem Ensures.memset {offset size : ℕ} (front old back : Cells α) {value : α}
    {post : Unit → Memory α → Prop} (given : live m b = some (front ++ old ++ back))
    (start : offset = front.length) (fits : size = old.length)
    (h : ∀ m', live m' = Function.update (live m) b
      (some (front ++ List.replicate size (some value) ++ back)) → post () m') :
    Ensures (memset (.address b offset) value size) m post :=
  .write front old back given start (by rw [List.length_replicate, fits]) h

theorem Ensures.load {values : List α} {back : Cells α} {post : List α → Memory α → Prop}
    (given : live m b = some (values.map some ++ back)) (h : post values m) :
    Ensures (load (.address b 0) values.length) m post := by
  refine .bind ?_
  rw [← List.length_map some]
  refine .read [] _ _ given rfl ?_
  rw [allSome_map]
  exact .pure h

theorem Ensures.store {values : List α} (old back : Cells α) {post : Unit → Memory α → Prop}
    (given : live m b = some (old ++ back)) (fits : values.length = old.length)
    (h : ∀ m', live m' = Function.update (live m) b (some (values.map some ++ back)) → post () m') :
    Ensures (store (.address b 0) values) m post :=
  .write [] old back given rfl (by rw [List.length_map, fits]) h

/-- Between two blocks nothing can overlap. -/
theorem Ensures.memcpy {src offset : ℕ} (front old back new rest : Cells α)
    {post : Unit → Memory α → Prop} (apart : b ≠ src)
    (given : live m b = some (front ++ old ++ back)) (source : live m src = some (new ++ rest))
    (start : offset = front.length) (fits : new.length = old.length)
    (h : ∀ m', live m' = Function.update (live m) b (some (front ++ new ++ back)) → post () m') :
    Ensures (memcpy (.address b offset) (.address src 0) new.length) m post := by
  rw [BlockMemory.memcpy, if_neg (fun overlaps => apart overlaps.1)]
  exact .bind (.read [] new rest source rfl (.write front old back given start fits h))

/-- The loop does to the block what `fillLoop` does to a list. -/
theorem Ensures.fill {src target rounds : ℕ} {data full : List α} (copied : List α)
    (old rest : Cells α) {post : ℕ → Memory α → Prop} (apart : b ≠ src)
    (given : live m b = some (copied.map some ++ old))
    (room : copied.length + old.length = target)
    (source : live m src = some (data.map some ++ rest))
    (filled : fillLoop data target rounds copied = some full)
    (h : ∀ m', live m' = Function.update (live m) b (some (full.map some)) →
      post full.length m') :
    Ensures (fill (.address b 0) target (.address src 0) data.length rounds copied.length)
      m post := by
  induction rounds generalizing copied old m with
  | zero => cases filled
  | succ rounds ih =>
    rw [fillLoop] at filled
    rw [BlockMemory.fill]
    by_cases more : copied.length < target
    · rw [if_pos more] at filled ⊢
      set n := min data.length (target - copied.length) with hn
      have size : ((data.take n).map some).length = n := by
        rw [List.length_map, List.length_take]
        omega
      have parts : data.map some ++ rest =
          (data.take n).map some ++ ((data.drop n).map some ++ rest) := by
        rw [← List.append_assoc, ← List.map_append, List.take_append_drop]
      refine .bind ?_
      rw [Pointer.advance, Nat.zero_add, ← size]
      refine .memcpy (copied.map some) (old.take n) (old.drop n) _ _ apart ?_
        (source.trans (congrArg some parts)) (by simp) ?_ fun m' written => ?_
      · rw [given, List.append_assoc, List.take_append_drop]
      · rw [size, List.length_take]
        omega
      · have sum : copied.length + ((data.take n).map some).length =
            (copied ++ data.take n).length := by simp
        rw [sum]
        refine ih _ (old.drop n) ?_ ?_ ?_ filled fun m'' done => h m'' ?_
        · rw [written, Function.update_self, List.map_append]
        · rw [List.length_append, List.length_drop, List.length_take]
          omega
        · rw [written, Function.update_of_ne (Ne.symm apart), source]
        · rw [done, written, Function.update_idem]
    · rw [if_neg more] at filled ⊢
      obtain rfl := Option.some.inj filled
      have none_left : old = [] := List.length_eq_zero_iff.mp (by omega)
      refine .pure (h m ?_)
      rw [none_left, List.append_nil] at given
      rw [← given, Function.update_eq_self]

end Rules

end Cezfuzzer.BlockMemory
