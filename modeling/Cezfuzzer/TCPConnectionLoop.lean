import Cezfuzzer.FuzzerCore

set_option autoImplicit false

/-!
# `TCP_Connection::_connection_thread_loop`

The loop has a branch for a failed `recv`, and none for the end of the stream: it goes on
with an empty buffer. Then `postFuzzing` either turns radamsa's answer to nothing into a
message, or copies nothing for ever.
-/
namespace Cezfuzzer.TCPConnectionLoop
open LengthPrefix FuzzerCore

def bufferSize : ℕ := 65536

/-- What the n-th round meets: the answer of `recv`, `none` for -1, and what its
    `postFuzzing` meets. -/
structure Channel where
  recv : ℕ → Option Bytes
  fuzz : ℕ → FuzzCall

/-- `exited` is the `exit(-1)` of the loop, `copying` a `postFuzzing` that has not come back
    within the rounds given to it. -/
inductive Control where
  | looping | copying | exited
  deriving DecidableEq, Repr

/-- A buffer given to `send`, and the chunk that it was made from. -/
structure Write where
  chunk : Bytes
  buffer : Bytes
  deriving DecidableEq

structure State where
  control : Control
  written : List Write
  deriving DecidableEq

/-- One round of `while (true)`; `send` writes `fuzzedSize` bytes from the buffer. -/
def round (ch : Channel) (rounds n : ℕ) (s : State) : State :=
  match ch.recv n with
  | none => { s with control := .exited }
  | some chunk => match postFuzzing rounds (ch.fuzz n) (chunk.take bufferSize) with
    | none => { s with control := .copying }
    | some fuzzed => { s with written := s.written ++
        [⟨chunk.take bufferSize, (fuzzed.ptr.getD []).take fuzzed.size⟩] }

def connectionThreadLoop (ch : Channel) (rounds : ℕ) : ℕ → State
  | 0 => ⟨.looping, []⟩
  | n + 1 =>
    let s := connectionThreadLoop ch rounds n
    match s.control with
    | .looping => round ch rounds n s
    | _ => s

/-- Chunks, and then the end of the stream for good. -/
structure EndsAfter (ch : Channel) (k : ℕ) : Prop where
  chunks : ∀ i < k, ∃ chunk, ch.recv i = some chunk ∧ chunk ≠ []
  ended : ∀ i, k ≤ i → ch.recv i = some []

/-- The loop is left at some time, and whatever it has written comes from a chunk. -/
structure SilentAfterEnd (ch : Channel) : Prop where
  left : ∃ rounds n, (connectionThreadLoop ch rounds n).control = .exited
  silent : ∀ rounds n, ∀ w ∈ (connectionThreadLoop ch rounds n).written,
    w.buffer ≠ [] → w.chunk ≠ []

variable {ch : Channel} {k : ℕ}

theorem recv_some (ends : EndsAfter ch k) (n : ℕ) : ∃ chunk, ch.recv n = some chunk := by
  rcases Nat.lt_or_ge n k with before | after
  · obtain ⟨chunk, h, -⟩ := ends.chunks n before
    exact ⟨chunk, h⟩
  · exact ⟨[], ends.ended n after⟩

theorem round_not_exited (ends : EndsAfter ch k) (rounds n : ℕ) {s : State}
    (looping : s.control = .looping) : (round ch rounds n s).control ≠ .exited := by
  obtain ⟨chunk, h⟩ := recv_some ends n
  unfold round
  rw [h]
  split
  · contradiction
  · split <;> simp [looping]

theorem not_exited (ends : EndsAfter ch k) (rounds n : ℕ) :
    (connectionThreadLoop ch rounds n).control ≠ .exited := by
  induction n with
  | zero => simp [connectionThreadLoop]
  | succ n ih =>
    simp only [connectionThreadLoop]
    split
    · exact round_not_exited ends rounds n (by assumption)
    · exact ih

theorem round_writes (ends : EndsAfter ch k) {rounds n : ℕ} (after : k ≤ n)
    (enough : minOutputSize < rounds) (allocates : Allocates (ch.fuzz n))
    (answers : answer (ch.fuzz n).radamsa [] ≠ []) (s : State) :
    ∃ buffer, round ch rounds n s = { s with written := s.written ++ [⟨[], buffer⟩] } ∧
      minOutputSize ≤ buffer.length := by
  obtain ⟨size, h, hsize⟩ := postFuzzing_eq allocates enough (Or.inr answers)
  have long := fuzz_length (Or.inr answers)
  refine ⟨(fuzz (ch.fuzz n) []).take maxBufferSize, ?_, ?_⟩
  · unfold round
    rw [ends.ended n after]
    simp only [List.take_nil, h, Option.getD_some, List.nil_append, hsize, List.take_length]
  · simp only [List.length_take, minOutputSize, maxBufferSize, batch] at *
    omega

theorem round_copies (ends : EndsAfter ch k) {n : ℕ} (after : k ≤ n)
    (allocates : (ch.fuzz n).expanded = true)
    (silent : answer (ch.fuzz n).radamsa [] = []) (rounds : ℕ) (s : State) :
    round ch rounds n s = { s with control := .copying } := by
  unfold round
  rw [ends.ended n after]
  simp only [List.take_nil, postFuzzing_stuck allocates silent rounds]

/-- As long as radamsa answers something, every round after the end writes one more buffer
    that no chunk has given rise to. -/
theorem writes_after_end (ends : EndsAfter ch k) {rounds : ℕ} (enough : minOutputSize < rounds)
    (allocates : ∀ n, Allocates (ch.fuzz n))
    (answers : ∀ n, k ≤ n → answer (ch.fuzz n).radamsa [] ≠ [])
    (arrived : (connectionThreadLoop ch rounds k).control = .looping) (n : ℕ) :
    ∃ writes, connectionThreadLoop ch rounds (k + n) =
        ⟨.looping, (connectionThreadLoop ch rounds k).written ++ writes⟩ ∧
      writes.length = n ∧ ∀ w ∈ writes, w.chunk = [] ∧ minOutputSize ≤ w.buffer.length := by
  induction n with
  | zero =>
    refine ⟨[], ?_, rfl, by simp⟩
    rw [List.append_nil, ← arrived]
    rfl
  | succ n ih =>
    obtain ⟨writes, state, count, fuzz⟩ := ih
    obtain ⟨buffer, more, long⟩ := round_writes ends (Nat.le_add_right k n) enough
      (allocates _) (answers _ (Nat.le_add_right k n)) (connectionThreadLoop ch rounds (k + n))
    refine ⟨writes ++ [⟨[], buffer⟩], ?_, by simp [count], ?_⟩
    · rw [← Nat.add_assoc, connectionThreadLoop]
      simp only [state] at more ⊢
      rw [more, List.append_assoc]
    · simp only [List.mem_append, List.mem_singleton]
      rintro w (old | rfl)
      · exact fuzz w old
      · exact ⟨rfl, long⟩

/-- When it answers nothing, the first round after the end does not come back. -/
theorem copies_after_end (ends : EndsAfter ch k) (allocates : (ch.fuzz k).expanded = true)
    (silent : answer (ch.fuzz k).radamsa [] = []) {rounds : ℕ}
    (arrived : (connectionThreadLoop ch rounds k).control = .looping) (n : ℕ) :
    connectionThreadLoop ch rounds (k + 1 + n) =
      ⟨.copying, (connectionThreadLoop ch rounds k).written⟩ := by
  induction n with
  | zero =>
    simp only [connectionThreadLoop, arrived]
    exact round_copies ends le_rfl allocates silent rounds _
  | succ n ih => rw [← Nat.add_assoc, connectionThreadLoop, ih]

/-- Whatever arrives before the end and whatever radamsa answers, the loop is never left. -/
theorem endsAfter_not_silent (ch : Channel) (k : ℕ) (ends : EndsAfter ch k) :
    ¬ SilentAfterEnd ch := by
  rintro ⟨⟨rounds, n, left⟩, -⟩
  exact not_exited ends rounds n left

def oneChunk : Channel := ⟨fun n => if n = 0 then some [1] else some [], fun _ => echo⟩

theorem oneChunk_ends : EndsAfter oneChunk 1 := by
  refine ⟨fun i hi => ⟨[1], ?_, by simp⟩, fun i hi => ?_⟩
  · simp [oneChunk, Nat.lt_one_iff.mp hi]
  · simp [oneChunk, Nat.one_le_iff_ne_zero.mp hi]

theorem oneChunk_not_silent : ¬ SilentAfterEnd oneChunk :=
  endsAfter_not_silent oneChunk 1 oneChunk_ends

def closedAtOnce : Channel := ⟨fun _ => some [], fun _ => answering [65]⟩

theorem closedAtOnce_ends : EndsAfter closedAtOnce 0 := ⟨nofun, fun _ _ => rfl⟩

/-- It is not left, and has written something before it has received anything. -/
theorem closedAtOnce_writes : ¬ SilentAfterEnd closedAtOnce ∧
    ∃ w ∈ (connectionThreadLoop closedAtOnce (minOutputSize + 1) 1).written,
      w.chunk = [] ∧ w.buffer ≠ [] := by
  have heard : answer (answering [65]).radamsa [] = [65] := answer_answering (by decide) []
  obtain ⟨writes, state, count, fuzz⟩ := writes_after_end closedAtOnce_ends
    (Nat.lt_succ_self minOutputSize) (fun _ => answering_allocates [65])
    (fun _ _ => by simp [closedAtOnce, heard]) rfl 1
  have written : ∃ w ∈ (connectionThreadLoop closedAtOnce (minOutputSize + 1) 1).written,
      w.chunk = [] ∧ w.buffer ≠ [] := by
    obtain ⟨w, rfl⟩ := List.length_eq_one_iff.mp count
    obtain ⟨chunk, long⟩ := fuzz w (by simp)
    refine ⟨w, ?_, chunk, ?_⟩
    · rw [Nat.zero_add] at state
      rw [state]
      simp
    · rintro empty
      rw [empty] at long
      exact absurd long (by decide)
  refine ⟨fun silent => ?_, written⟩
  obtain ⟨w, hw, chunk, some_bytes⟩ := written
  exact silent.silent _ _ w hw some_bytes chunk

end Cezfuzzer.TCPConnectionLoop
