import Cezfuzzer.FuzzerVariants

set_option autoImplicit false

/-!
# Where the message is after fuzzing

The parts are joined and then cut at the end. With the message in front that only shortens
the fuzz; behind fuzz that nearly fills the buffer it cuts the message.
-/
namespace Cezfuzzer.FuzzedMessages
open CyclicFill LengthPrefix FuzzerCore FuzzerVariants

/-- With enough rounds the call returns these bytes, and stores how many they are. -/
def Returns (f : ℕ → Option Buffer) (bytes : Bytes) : Prop :=
  ∀ rounds, minOutputSize < rounds → f rounds = some ⟨some bytes, bytes.length⟩

def SizeInRange (bytes : Bytes) : Prop :=
  minOutputSize ≤ bytes.length ∧ bytes.length ≤ maxBufferSize

/-- `[original message][fuzz]` -/
def PostSurvives (call : FuzzCall) (input : Bytes) : Prop :=
  ∃ fuzz part, Returns (fun rounds => runRadamsaExpanded rounds call input) fuzz ∧
    Returns (fun rounds => postFuzzing rounds call input) (input ++ part) ∧
    SizeInRange (input ++ part) ∧ part <+: fuzz ∧ part ≠ []

/-- `[fuzz][original message]` -/
def PreSurvives (call : FuzzCall) (input : Bytes) : Prop :=
  ∃ fuzz part, Returns (fun rounds => runRadamsaExpanded rounds call input) fuzz ∧
    Returns (fun rounds => preFuzzing rounds call input) (part ++ input) ∧
    SizeInRange (part ++ input) ∧ part <+: fuzz ∧ part ≠ []

/-- `[fuzz1][original message][fuzz2]` -/
def FullSurvives (call : FullCall) (input : Bytes) : Prop :=
  ∃ fuzz1 fuzz2 part, Returns (fun rounds => runRadamsaExpanded rounds call.first input) fuzz1 ∧
    Returns (fun rounds => runRadamsaExpanded rounds call.second input) fuzz2 ∧
    Returns (fun rounds => fullFuzzing rounds call input) (fuzz1 ++ input ++ part) ∧
    SizeInRange (fuzz1 ++ input ++ part) ∧ fuzz1 ≠ [] ∧ part <+: fuzz2 ∧ part ≠ []

theorem expanded_returns {call : FuzzCall} (allocates : Allocates call) {input : Bytes}
    (nonempty : input ≠ []) :
    Returns (fun rounds => runRadamsaExpanded rounds call input) (fuzz call input) :=
  fun _ enough => runRadamsaExpanded_eq allocates enough (Or.inl nonempty)

theorem Returns.unique {f : ℕ → Option Buffer} {bytes bytes' : Bytes} (h : Returns f bytes)
    (h' : Returns f bytes') : bytes = bytes' := by
  have enough := Nat.lt_succ_self minOutputSize
  have same := (h _ enough).symm.trans (h' _ enough)
  simpa using congrArg (fun b => b.bind Buffer.ptr) same

theorem answer_length (call : RadamsaCall) (data : Bytes) :
    (answer call data).length ≤ maxBufferSize := by
  unfold answer
  split
  · exact Nat.zero_le _
  · rw [RadamsaCall.read, List.length_take]
    omega

theorem answer_oneRead {call : RadamsaCall} (oneRead : call.OneRead) (data : Bytes) :
    (answer call data).length ≤ pipeCapacity := by
  unfold answer
  split
  · exact Nat.zero_le _
  · rw [RadamsaCall.read, List.length_take]
    exact (Nat.min_le_left _ _).trans ((Nat.min_le_left _ _).trans oneRead)

theorem fuzz_range (call : FuzzCall) {input : Bytes} (nonempty : input ≠ []) :
    SizeInRange (fuzz call input) := by
  unfold fuzz
  split
  · rw [SizeInRange, repeated_length nonempty]
    decide
  · exact clamped_length (by assumption)

/-- Radamsa's answer is not longer than the fuzz, and is the fuzz when that is longer than the
    minimum. -/
theorem answer_fuzz (call : FuzzCall) {input : Bytes} (nonempty : input ≠ []) :
    (answer call.radamsa input).length ≤ (fuzz call input).length ∧
      (minOutputSize < (fuzz call input).length → fuzz call input = answer call.radamsa input) := by
  have high := answer_length call.radamsa input
  unfold fuzz
  split
  · rename_i silent
    rw [silent, repeated_length nonempty]
    exact ⟨Nat.zero_le _, fun long => absurd long (Nat.lt_irrefl _)⟩
  · rename_i heard
    unfold clamped
    split
    · rename_i short
      rw [repeated_length heard]
      exact ⟨short.le, fun long => absurd long (Nat.lt_irrefl _)⟩
    · rw [List.take_of_length_le high]
      exact ⟨le_rfl, fun _ => rfl⟩

theorem joinedFuzzing_returns (join : Bytes → Bytes → Bytes)
    (sizes : ∀ a b, (join a b).length = a.length + b.length) {call : FuzzCall}
    (allocates : Allocates call) {input : Bytes} (nonempty : input ≠ []) :
    Returns (fun rounds => joinedFuzzing join rounds call input)
      ((join input (fuzz call input)).take maxBufferSize) := by
  intro rounds enough
  obtain ⟨low, -⟩ := fuzz_range call nonempty
  have long : minOutputSize ≤ (join input (fuzz call input)).length := by
    rw [sizes]
    omega
  have some_bytes : join input (fuzz call input) ≠ [] := by
    apply List.ne_nil_of_length_pos
    simp only [minOutputSize, batch] at long
    omega
  simp only [joinedFuzzing, expanded_returns allocates nonempty rounds enough, Option.bind_some,
    allocates.combined, if_true, List.take_length, allocates.normalized]
  rw [← sizes, normalizeOutputSize_eq some_bytes enough, clamped_of_le long]

theorem fullFuzzing_returns {call : FullCall} (first : Allocates call.first)
    (second : Allocates call.second) {input : Bytes} (nonempty : input ≠ []) :
    Returns (fun rounds => fullFuzzing rounds call input)
      ((fuzz call.first input ++ input ++ fuzz call.second input).take maxBufferSize) := by
  intro rounds enough
  obtain ⟨low, -⟩ := fuzz_range call.first nonempty
  have sizes : (fuzz call.first input).length + input.length + (fuzz call.second input).length =
      (fuzz call.first input ++ input ++ fuzz call.second input).length := by
    rw [List.length_append, List.length_append]
  have long : minOutputSize ≤
      (fuzz call.first input ++ input ++ fuzz call.second input).length := by omega
  have some_bytes : fuzz call.first input ++ input ++ fuzz call.second input ≠ [] := by
    apply List.ne_nil_of_length_pos
    simp only [minOutputSize, batch] at long
    omega
  simp only [fullFuzzing, expanded_returns first nonempty rounds enough,
    expanded_returns second nonempty rounds enough, Option.bind_some, fuzzSize, reduceCtorEq,
    false_and, if_false, second.combined, if_true, Option.getD_some, List.take_length,
    second.normalized]
  rw [sizes, normalizeOutputSize_eq some_bytes enough, clamped_of_le long]

theorem take_range {bytes : Bytes} (long : minOutputSize ≤ bytes.length) :
    SizeInRange (bytes.take maxBufferSize) := by
  have : minOutputSize ≤ maxBufferSize := by decide
  rw [SizeInRange, List.length_take]
  omega

theorem take_append_end {α : Type*} {l m : List α} {n : ℕ} (fits : m.length ≤ n)
    (full : n - m.length ≤ l.length) :
    (l ++ m).take n = l.take (n - m.length) ++ (l.drop (n - m.length) ++ m).take m.length := by
  conv_lhs => rw [← Nat.sub_add_cancel fits, List.take_add]
  rw [List.take_append_of_le_length full, List.drop_append_of_le_length full]

theorem postFuzzing_survives {call : FuzzCall} (allocates : Allocates call) {input : Bytes}
    (nonempty : input ≠ []) (short : input.length < maxBufferSize) : PostSurvives call input := by
  obtain ⟨low, -⟩ := fuzz_range call nonempty
  have whole : (input ++ fuzz call input).take maxBufferSize =
      input ++ (fuzz call input).take (maxBufferSize - input.length) := by
    rw [List.take_append, List.take_of_length_le short.le]
  refine ⟨fuzz call input, (fuzz call input).take (maxBufferSize - input.length),
    expanded_returns allocates nonempty, ?_, ?_, List.take_prefix _ _, ?_⟩
  · rw [← whole]
    exact joinedFuzzing_returns (· ++ ·) (fun _ _ => List.length_append) allocates nonempty
  · rw [← whole]
    refine take_range ?_
    rw [List.length_append]
    omega
  · apply List.ne_nil_of_length_pos
    rw [List.length_take]
    simp only [minOutputSize, batch] at low
    omega

/-- The message survives at the end when the whole fits, and also when the bytes of the fuzz
    that should have been cut look like its beginning. -/
theorem preFuzzing_survives_iff {call : FuzzCall} (allocates : Allocates call) {input : Bytes}
    (nonempty : input ≠ []) (short : input.length + minOutputSize ≤ maxBufferSize) :
    PreSurvives call input ↔ input <+:
      (answer call.radamsa input).drop (maxBufferSize - input.length) ++ input := by
  obtain ⟨low, high⟩ := fuzz_range call nonempty
  obtain ⟨notLonger, exact⟩ := answer_fuzz call nonempty
  have result := joinedFuzzing_returns (fun input fuzz => fuzz ++ input)
    (fun a b => by rw [List.length_append, Nat.add_comm]) allocates nonempty
  by_cases fits : (fuzz call input).length + input.length ≤ maxBufferSize
  · rw [List.drop_of_length_le (by omega), List.nil_append]
    refine iff_of_true ⟨fuzz call input, fuzz call input, expanded_returns allocates nonempty,
      ?_, ⟨?_, ?_⟩, List.prefix_rfl, ?_⟩ List.prefix_rfl
    · rwa [List.take_of_length_le (by rw [List.length_append]; exact fits)] at result
    · rw [List.length_append]
      omega
    · rwa [List.length_append]
    · apply List.ne_nil_of_length_pos
      simp only [minOutputSize, batch] at low
      omega
  · rw [← exact (by omega)]
    rw [take_append_end (by omega) (by omega)] at result
    constructor
    · rintro ⟨-, part, -, returns, -, -, -⟩
      have same := returns.unique result
      have parts := List.append_inj_right' same (by
        rw [List.length_take, List.length_append]
        omega)
      exact List.prefix_iff_eq_take.mpr parts
    · intro begins
      rw [← List.prefix_iff_eq_take.mp begins] at result
      refine ⟨fuzz call input, (fuzz call input).take (maxBufferSize - input.length),
        expanded_returns allocates nonempty, result, ⟨?_, ?_⟩, List.take_prefix _ _, ?_⟩
      · rw [List.length_append, List.length_take]
        omega
      · rw [List.length_append, List.length_take]
        omega
      · apply List.ne_nil_of_length_pos
        rw [List.length_take]
        simp only [minOutputSize, batch] at low short
        omega

theorem fullFuzzing_survives_iff {call : FullCall} (first : Allocates call.first)
    (second : Allocates call.second) {input : Bytes} (nonempty : input ≠ [])
    (short : input.length + minOutputSize < maxBufferSize) :
    FullSurvives call input ↔
      (answer call.first.radamsa input).length + input.length < maxBufferSize := by
  obtain ⟨low, high⟩ := fuzz_range call.first nonempty
  obtain ⟨low2, -⟩ := fuzz_range call.second nonempty
  obtain ⟨notLonger, exact⟩ := answer_fuzz call.first nonempty
  have result := fullFuzzing_returns first second nonempty
  constructor
  · rintro ⟨fuzz1, -, part, returns1, -, returns, ⟨-, range⟩, -, -, some_fuzz⟩
    obtain rfl := returns1.unique (expanded_returns first nonempty)
    have := List.length_pos_iff.mpr some_fuzz
    rw [List.length_append, List.length_append] at range
    omega
  · intro fits
    have room : (fuzz call.first input ++ input).length < maxBufferSize := by
      rw [List.length_append]
      by_cases long : minOutputSize < (fuzz call.first input).length
      · rw [exact long]
        exact fits
      · omega
    have whole : (fuzz call.first input ++ input ++ fuzz call.second input).take maxBufferSize =
        fuzz call.first input ++ input ++ (fuzz call.second input).take
          (maxBufferSize - (fuzz call.first input ++ input).length) := by
      rw [List.take_append, List.take_of_length_le room.le]
    refine ⟨fuzz call.first input, fuzz call.second input, _, expanded_returns first nonempty,
      expanded_returns second nonempty, whole ▸ result, ?_, ?_, List.take_prefix _ _, ?_⟩
    · rw [← whole]
      refine take_range ?_
      rw [List.length_append, List.length_append]
      omega
    · apply List.ne_nil_of_length_pos
      simp only [minOutputSize, batch] at low
      omega
    · apply List.ne_nil_of_length_pos
      rw [List.length_take]
      simp only [minOutputSize, batch] at low2
      omega

/-- One `read` of a default pipe leaves room for the message wherever it is put. -/
theorem message_survives (post pre : FuzzCall) (full : FullCall) (input : Bytes)
    (nonempty : input ≠ []) (short : input.length ≤ 65536) (postAllocates : Allocates post)
    (preAllocates : Allocates pre) (first : Allocates full.first)
    (second : Allocates full.second) (preRead : pre.radamsa.OneRead)
    (firstRead : full.first.radamsa.OneRead) :
    PostSurvives post input ∧ PreSurvives pre input ∧ FullSurvives full input := by
  have limits : pipeCapacity + 65536 + minOutputSize < maxBufferSize := by decide
  have preShort := answer_oneRead preRead input
  have firstShort := answer_oneRead firstRead input
  refine ⟨postFuzzing_survives postAllocates nonempty (by omega),
    (preFuzzing_survives_iff preAllocates nonempty (by omega)).mpr ?_,
    (fullFuzzing_survives_iff first second nonempty (by omega)).mpr (by omega)⟩
  rw [List.drop_of_length_le (by omega)]
  exact List.prefix_rfl

/-- Three bytes, to which radamsa answers two others and then one. -/
theorem threeBytes_survive : PostSurvives (answering [7, 8]) [1, 2, 3] ∧
    PreSurvives (answering [9]) [1, 2, 3] ∧
    FullSurvives ⟨answering [7, 8], answering [9]⟩ [1, 2, 3] :=
  message_survives (answering [7, 8]) (answering [9]) ⟨answering [7, 8], answering [9]⟩
    [1, 2, 3] (by simp) (by simp) (answering_allocates _) (answering_allocates _)
    (answering_allocates _) (answering_allocates _) (Nat.le_refl _) (Nat.le_refl _)

end Cezfuzzer.FuzzedMessages
