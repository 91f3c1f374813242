import Cezfuzzer.FuzzedMessages
import Cezfuzzer.TCPConnectionLoop

set_option autoImplicit false

/-!
# Short sends of the connection loop

The loop gives each buffer to a single `send` and does not look at how much of it has been
accepted. A buffer has at least `MIN_OUTPUT_SIZE` bytes, and what a short send leaves of it
is missing in the middle of the stream.
-/
namespace Cezfuzzer.TCPShortSends
open CyclicFill LengthPrefix FuzzerCore FuzzerVariants FuzzedMessages TCPConnectionLoop

/-- What arrives at `send_fd` when the i-th `send` accepts `accepts i` bytes at most. -/
def stream (accepts : ℕ → ℕ) (writes : List Write) : Bytes :=
  (writes.zipIdx.map (fun w => w.1.buffer.take (accepts w.2))).flatten

/-- The buffer that `postFuzzing` has returned for the i-th chunk. -/
def returned (ch : Channel) (rounds i : ℕ) : Bytes :=
  (((ch.recv i).bind (fun chunk => postFuzzing rounds (ch.fuzz i) (chunk.take bufferSize))).bind
    Buffer.ptr).getD []

/-- After `n` rounds the loop still runs, and the stream has every byte of the buffers. -/
def SendsEverything (ch : Channel) (accepts : ℕ → ℕ) (rounds n : ℕ) : Prop :=
  (connectionThreadLoop ch rounds n).control = .looping ∧
    stream accepts (connectionThreadLoop ch rounds n).written =
      (List.range n).flatMap (returned ch rounds)

/-- The length of radamsa's part. -/
def fuzzLength (call : FuzzCall) (input : Bytes) : ℕ :=
  if call.radamsa.tempBuf = true ∧ call.radamsa.finalBuf = true then
    max minOutputSize (answer call.radamsa input).length
  else minOutputSize

/-- How long the buffer for an input is, after any failures of the allocations. -/
def forwardedLength (call : FuzzCall) (input : Bytes) : ℕ :=
  if call.combined = false then 0
  else if call.expanded = false then input.length
  else if call.normalized = false then 0
  else min (input.length + fuzzLength call input) maxBufferSize

/-- A null pointer, or a buffer of `length` bytes that stores its length. -/
def HasLength (b : Buffer) (given : Bool) (length : ℕ) : Prop :=
  if given then ∃ bytes : Bytes, b = ⟨some bytes, bytes.length⟩ ∧ bytes.length = length
  else b = nullptr

theorem normalizeOutputSize_long (rounds : ℕ) {bytes : Bytes}
    (low : minOutputSize ≤ bytes.length) (malloc : Bool) :
    ∃ b, normalizeOutputSize rounds malloc bytes bytes.length = some b ∧
      HasLength b malloc (min bytes.length maxBufferSize) := by
  have notShort := Nat.not_lt.mpr low
  cases malloc
  · exact ⟨nullptr, by simp [normalizeOutputSize, notShort], rfl⟩
  · simp only [normalizeOutputSize, notShort, low, true_and, if_false, if_true, List.take_length]
    split
    · exact ⟨_, rfl, bytes, rfl, by omega⟩
    · refine ⟨_, rfl, bytes.take maxBufferSize, ?_, ?_⟩ <;> rw [List.length_take]
      · rw [Nat.min_eq_left (by omega)]
      · exact Nat.min_comm _ _

theorem repeatInput_length {rounds : ℕ} {data : Bytes} (nonempty : data ≠ [])
    (enough : minOutputSize < rounds) (malloc : Bool) :
    ∃ b, repeatInput rounds malloc data = some b ∧ HasLength b malloc minOutputSize := by
  have whole := repeated_length nonempty minOutputSize
  cases malloc
  · exact ⟨nullptr, rfl, rfl⟩
  · refine ⟨⟨some (repeated data minOutputSize), minOutputSize⟩, ?_, _, by rw [whole], whole⟩
    simp only [repeatInput, if_true]
    rw [fillLoop_eq nonempty minOutputSize rounds [] (by simpa using enough)]
    rfl

theorem clamped_length_eq {bytes : Bytes} (nonempty : bytes ≠ [])
    (bounded : bytes.length ≤ maxBufferSize) :
    (clamped bytes).length = max minOutputSize bytes.length := by
  unfold clamped
  split
  · rw [repeated_length nonempty, Nat.max_eq_left (by omega)]
  · rw [List.take_of_length_le bounded, Nat.max_eq_right (by omega)]

theorem fuzzLength_delivers {call : FuzzCall} {input : Bytes}
    (delivers : Delivers call.radamsa input) :
    fuzzLength call input = (clamped (answer call.radamsa input)).length := by
  rw [fuzzLength, if_pos ⟨delivers.1, delivers.2.1⟩,
    clamped_length_eq delivers.2.2 (answer_length _ _)]

theorem fuzzLength_null {call : FuzzCall} {input : Bytes}
    (silent : ¬ Delivers call.radamsa input) : fuzzLength call input = minOutputSize := by
  unfold fuzzLength
  split
  · rename_i allocates
    have none_left : answer call.radamsa input = [] := by
      by_contra heard
      exact silent ⟨allocates.1, allocates.2, heard⟩
    simp [none_left]
  · rfl

theorem fuzzLength_range (call : FuzzCall) (input : Bytes) :
    minOutputSize ≤ fuzzLength call input ∧ fuzzLength call input ≤ maxBufferSize := by
  have low : minOutputSize ≤ maxBufferSize := by decide
  have := answer_length call.radamsa input
  unfold fuzzLength
  split <;> omega

theorem runRadamsaExpanded_length {rounds : ℕ} (call : FuzzCall) {data : Bytes}
    (nonempty : data ≠ []) (enough : minOutputSize < rounds) :
    ∃ b, runRadamsaExpanded rounds call data = some b ∧
      HasLength b call.expanded (fuzzLength call data) := by
  unfold runRadamsaExpanded
  by_cases delivers : Delivers call.radamsa data
  · obtain ⟨low, high⟩ := clamped_length delivers.2.2
    have positive : (clamped (answer call.radamsa data)).length ≠ 0 := by
      simp only [minOutputSize, batch] at low
      omega
    rw [runRadamsa_delivers delivers enough, fuzzLength_delivers delivers]
    simp only [Option.bind_some, positive, if_false, low, if_true]
    obtain ⟨b, h, length⟩ := normalizeOutputSize_long rounds low call.expanded
    exact ⟨b, h, by rwa [Nat.min_eq_left high] at length⟩
  · rw [runRadamsa_null delivers, fuzzLength_null delivers]
    exact repeatInput_length nonempty enough call.expanded

theorem postFuzzing_length {rounds : ℕ} (call : FuzzCall) {input : Bytes}
    (nonempty : input ≠ []) (enough : minOutputSize < rounds) :
    ∃ b, postFuzzing rounds call input = some b ∧ b.size = (b.ptr.getD []).length ∧
      (b.ptr.getD []).length = forwardedLength call input := by
  obtain ⟨fuzz, h, length⟩ := runRadamsaExpanded_length call nonempty enough
  simp only [postFuzzing, h, Option.bind_some, forwardedLength]
  cases hc : call.combined <;> cases he : call.expanded
  all_goals simp only [HasLength, he, if_false, if_true, Bool.false_eq_true] at length
  · exact ⟨nullptr, by simp [length, nullptr], rfl, rfl⟩
  · obtain ⟨bytes, rfl, -⟩ := length
    exact ⟨nullptr, by simp, rfl, rfl⟩
  · exact ⟨⟨some input, input.length⟩, by simp [length, nullptr], rfl, by simp⟩
  · obtain ⟨bytes, rfl, length⟩ := length
    obtain ⟨low, -⟩ := fuzzLength_range call input
    have long : minOutputSize ≤ (input ++ bytes).length := by
      rw [List.length_append]
      omega
    obtain ⟨b, hb, result⟩ := normalizeOutputSize_long rounds long call.normalized
    refine ⟨b, ?_, ?_⟩
    · rw [← hb, List.length_append]
      simp
    · cases hn : call.normalized
      all_goals simp only [HasLength, hn, if_false, if_true, Bool.false_eq_true] at result
      · simp [result, nullptr]
      · obtain ⟨whole, rfl, size⟩ := result
        rw [List.length_append, length] at size
        simp [size]

variable {ch : Channel} {rounds n : ℕ}

/-- A chunk arrives in every one of the first `n` rounds. -/
def Receives (ch : Channel) (chunk : ℕ → Bytes) (n : ℕ) : Prop :=
  ∀ i < n, chunk i ≠ [] ∧ ch.recv i = some (chunk i)

theorem received_nonempty {chunk : ℕ → Bytes} (receives : Receives ch chunk n) {i : ℕ}
    (h : i < n) : (chunk i).take bufferSize ≠ [] := by
  simp [(receives i h).1, bufferSize]

/-- Each round adds the buffer that has been returned for its chunk. -/
theorem loop_written {chunk : ℕ → Bytes} (receives : Receives ch chunk n)
    (enough : minOutputSize < rounds) :
    connectionThreadLoop ch rounds n = ⟨.looping, (List.range n).map
      (fun i => ⟨(chunk i).take bufferSize, returned ch rounds i⟩)⟩ := by
  induction n with
  | zero => rfl
  | succ n ih =>
    obtain ⟨b, h, size, -⟩ := postFuzzing_length (ch.fuzz n)
      (received_nonempty receives (Nat.lt_succ_self n)) enough
    have arrived := (receives n (Nat.lt_succ_self n)).2
    have buffer : returned ch rounds n = b.ptr.getD [] := by simp [returned, arrived, h]
    rw [connectionThreadLoop, ih (fun i hi => receives i (by omega))]
    simp [TCPConnectionLoop.round, arrived, h, size, List.range_succ, buffer]

theorem returned_length {chunk : ℕ → Bytes} (receives : Receives ch chunk n)
    (enough : minOutputSize < rounds) {i : ℕ} (h : i < n) : (returned ch rounds i).length =
      forwardedLength (ch.fuzz i) ((chunk i).take bufferSize) := by
  obtain ⟨b, hb, -, length⟩ := postFuzzing_length (ch.fuzz i) (received_nonempty receives h) enough
  rw [← length]
  simp [returned, (receives i h).2, hb]

theorem stream_range (accepts : ℕ → ℕ) (writes : ℕ → Write) (n : ℕ) :
    stream accepts ((List.range n).map writes) =
      (List.range n).flatMap (fun i => (writes i).buffer.take (accepts i)) := by
  induction n with
  | zero => rfl
  | succ n ih =>
    rw [stream] at ih ⊢
    rw [List.range_succ, List.map_append, List.zipIdx_append, List.map_append,
      List.flatten_append, ih, List.flatMap_append]
    simp

theorem flatMap_take_length {α : Type*} (f : ℕ → List α) (accepts : ℕ → ℕ) (n : ℕ) :
    ((List.range n).flatMap (fun i => (f i).take (accepts i))).length ≤
      ((List.range n).flatMap f).length := by
  induction n with
  | zero => exact le_rfl
  | succ n ih =>
    simp only [List.range_succ, List.flatMap_append, List.flatMap_singleton, List.length_append]
    exact Nat.add_le_add ih (List.length_take_le' _ _)

/-- Pieces that have been cut make the whole only when none of them has lost anything. -/
theorem flatMap_take_eq_iff {α : Type*} (f : ℕ → List α) (accepts : ℕ → ℕ) (n : ℕ) :
    (List.range n).flatMap (fun i => (f i).take (accepts i)) = (List.range n).flatMap f ↔
      ∀ i < n, (f i).length ≤ accepts i := by
  induction n with
  | zero => simp
  | succ n ih =>
    simp only [List.range_succ, List.flatMap_append, List.flatMap_singleton]
    constructor
    · intro same
      have shorter := flatMap_take_length f accepts n
      have lengths := congrArg List.length same
      rw [List.length_append, List.length_append, List.length_take] at lengths
      have before := (List.append_inj same (by omega)).1
      intro i h
      rcases Nat.lt_succ_iff_lt_or_eq.mp h with earlier | rfl
      · exact ih.mp before i earlier
      · omega
    · intro whole
      rw [ih.mpr (fun i h => whole i (by omega)), List.take_of_length_le (whole n (by omega))]

/-- Every `send` has to accept a whole buffer, and that is not less than the minimum unless an
    allocation has failed. -/
theorem sendsEverything_iff (ch : Channel) (chunk : ℕ → Bytes) (accepts : ℕ → ℕ) (rounds n : ℕ)
    (enough : minOutputSize < rounds) (receives : Receives ch chunk n) :
    SendsEverything ch accepts rounds n ↔
      ∀ i < n, forwardedLength (ch.fuzz i) ((chunk i).take bufferSize) ≤ accepts i := by
  have lengths : (∀ i < n, (returned ch rounds i).length ≤ accepts i) ↔
      ∀ i < n, forwardedLength (ch.fuzz i) ((chunk i).take bufferSize) ≤ accepts i :=
    forall₂_congr fun i h => by rw [returned_length receives enough h]
  rw [SendsEverything, loop_written receives enough, stream_range, ← lengths]
  exact (and_iff_right rfl).trans (flatMap_take_eq_iff _ _ _)

/-- Chunks of three bytes, to which radamsa answers two others. -/
def threeBytes : Channel := ⟨fun _ => some [1, 2, 3], fun _ => answering [7, 8]⟩

theorem threeBytes_receives (n : ℕ) : Receives threeBytes (fun _ => [1, 2, 3]) n :=
  fun _ _ => ⟨by simp, rfl⟩

theorem forwardedLength_threeBytes :
    forwardedLength (answering [7, 8]) ([(1 : UInt8), 2, 3].take bufferSize) =
      minOutputSize + 3 := by
  have short : [(1 : UInt8), 2, 3].take bufferSize = [1, 2, 3] := by decide
  rw [short, forwardedLength, fuzzLength, answer_answering (by decide)]
  decide

/-- `send` accepts what fits into a socket buffer of 65536 bytes. -/
theorem threeBytes_cut :
    ¬ SendsEverything threeBytes (fun _ => 65536) (minOutputSize + 1) 1 := by
  rw [sendsEverything_iff threeBytes (fun _ => [1, 2, 3]) _ _ 1 (Nat.lt_succ_self _)
    (threeBytes_receives 1)]
  intro whole
  have := whole 0 (by decide)
  rw [show threeBytes.fuzz 0 = answering [7, 8] from rfl, forwardedLength_threeBytes] at this
  exact absurd this (by decide)

theorem threeBytes_sent :
    SendsEverything threeBytes (fun _ => maxBufferSize) (minOutputSize + 1) 2 := by
  rw [sendsEverything_iff threeBytes (fun _ => [1, 2, 3]) _ _ 2 (Nat.lt_succ_self _)
    (threeBytes_receives 2)]
  intro i _
  rw [show threeBytes.fuzz i = answering [7, 8] from rfl, forwardedLength_threeBytes]
  decide

end Cezfuzzer.TCPShortSends
