import Cezfuzzer.CyclicFill
import Cezfuzzer.LengthPrefix

set_option autoImplicit false

/-!
# `FuzzerCore`

The length normalisation and the two functions between it and `postFuzzing`. Every answer of
the system and radamsa itself are parameters; `rounds` bounds the tests of each copying
loop, and `none` is a loop that is still copying.
-/
namespace Cezfuzzer.FuzzerCore
open CyclicFill LengthPrefix

/-- `BATCH`, `MIN_OUTPUT_SIZE`, `MAX_BUFFER_SIZE` -/
def batch : ℕ := 4096
def minOutputSize : ℕ := 100 * batch
def maxBufferSize : ℕ := 10000 * batch

/-- A returned pointer, with the size that the call has stored. -/
structure Buffer where
  ptr : Option Bytes
  size : ℕ
  deriving DecidableEq

def nullptr : Buffer := ⟨none, 0⟩

/-- The bytes that a pipe holds by default, so that one `read` of it returns no more. -/
def pipeCapacity : ℕ := 65536

/-- What one `runRadamsa` meets: its two `pipe` calls, its `fork`, the bytes that `write`
    accepts, radamsa from its stdin to its stdout, the bytes that `read` returns at most,
    and its two allocations. No pipe is taken for granted; `OneRead` says that it is a
    default one. -/
structure RadamsaCall where
  inPipe : Bool
  outPipe : Bool
  fork : Bool
  accepted : ℕ
  program : Bytes → Bytes
  available : ℕ
  tempBuf : Bool
  finalBuf : Bool

/-- What one `postFuzzing` meets, with the allocations in `runRadamsaExpanded`, before the
    concatenation and in the last `normalizeOutputSize`. -/
structure FuzzCall where
  radamsa : RadamsaCall
  expanded : Bool
  combined : Bool
  normalized : Bool

def RadamsaCall.OneRead (call : RadamsaCall) : Prop := call.available ≤ pipeCapacity

def RadamsaCall.read (call : RadamsaCall) (data : Bytes) : Bytes :=
  (call.program (data.take call.accepted)).take (min call.available maxBufferSize)

def normalizeOutputSize (rounds : ℕ) (malloc : Bool) (input : Bytes) (input_len : ℕ) :
    Option Buffer :=
  if minOutputSize ≤ input_len ∧ input_len ≤ maxBufferSize then
    if malloc then some ⟨some (input.take input_len), input_len⟩ else some nullptr
  else if input_len < minOutputSize then
    let target := if minOutputSize > maxBufferSize then maxBufferSize else minOutputSize
    if malloc then
      (fillLoop (input.take input_len) target rounds []).map
        (fun expanded => ⟨some expanded, expanded.length⟩)
    else some nullptr
  else if malloc then some ⟨some (input.take maxBufferSize), maxBufferSize⟩
  else some nullptr

def runRadamsa (rounds : ℕ) (call : RadamsaCall) (data : Bytes) : Option Buffer :=
  if call.inPipe = false ∨ call.outPipe = false then some nullptr
  else if call.fork = false then some nullptr
  else if call.tempBuf = false then some nullptr
  else if call.read data = [] then some nullptr
  else normalizeOutputSize rounds call.finalBuf (call.read data) (call.read data).length

/-- The fallback of `runRadamsaExpanded`. -/
def repeatInput (rounds : ℕ) (malloc : Bool) (data : Bytes) : Option Buffer :=
  if malloc then
    (fillLoop data minOutputSize rounds []).map (fun result => ⟨some result, minOutputSize⟩)
  else some nullptr

def runRadamsaExpanded (rounds : ℕ) (call : FuzzCall) (data : Bytes) : Option Buffer :=
  (runRadamsa rounds call.radamsa data).bind (fun first =>
    match first.ptr with
    | none => repeatInput rounds call.expanded data
    | some firstFuzz =>
      if first.size = 0 then repeatInput rounds call.expanded data
      else if minOutputSize ≤ first.size then
        normalizeOutputSize rounds call.expanded firstFuzz first.size
      else
        let target := if minOutputSize > maxBufferSize then maxBufferSize else minOutputSize
        if call.expanded then
          (fillLoop data target rounds (firstFuzz.take first.size)).map
            (fun expanded => ⟨some expanded, expanded.length⟩)
        else some nullptr)

def postFuzzing (rounds : ℕ) (call : FuzzCall) (input : Bytes) : Option Buffer :=
  (runRadamsaExpanded rounds call input).bind (fun fuzz =>
    match fuzz.ptr with
    | none => if call.combined then some ⟨some input, input.length⟩ else some nullptr
    | some fuzzed =>
      if call.combined then
        normalizeOutputSize rounds call.normalized (input ++ fuzzed.take fuzz.size)
          (input.length + fuzz.size)
      else some nullptr)

structure Allocates (call : FuzzCall) : Prop where
  tempBuf : call.radamsa.tempBuf = true
  finalBuf : call.radamsa.finalBuf = true
  expanded : call.expanded = true
  combined : call.combined = true
  normalized : call.normalized = true

/-- Nothing fails, and radamsa gives back what it has read. -/
def echo : FuzzCall := ⟨⟨true, true, true, 65536, id, 65536, true, true⟩, true, true, true⟩

/-- Nothing fails, and radamsa answers the same whatever it has read. -/
def answering (bytes : Bytes) : FuzzCall :=
  { echo with radamsa := { echo.radamsa with program := fun _ => bytes } }

/-- The input repeated up to the minimum, or cut to the maximum. -/
def clamped (input : Bytes) : Bytes :=
  if input.length < minOutputSize then repeated input minOutputSize else input.take maxBufferSize

def answer (call : RadamsaCall) (data : Bytes) : Bytes :=
  if call.inPipe = false ∨ call.outPipe = false ∨ call.fork = false then [] else call.read data

/-- What is put behind the input. -/
def fuzz (call : FuzzCall) (data : Bytes) : Bytes :=
  if answer call.radamsa data = [] then repeated data minOutputSize
  else clamped (answer call.radamsa data)

theorem answering_allocates (bytes : Bytes) : Allocates (answering bytes) :=
  ⟨rfl, rfl, rfl, rfl, rfl⟩

theorem answer_answering {bytes : Bytes} (fits : bytes.length ≤ pipeCapacity) (data : Bytes) :
    answer (answering bytes).radamsa data = bytes := by
  have available : min 65536 maxBufferSize = pipeCapacity := by decide
  simp only [answer, answering, echo, RadamsaCall.read, reduceCtorEq, or_self, if_false, available]
  exact List.take_of_length_le fits

theorem target_eq :
    (if minOutputSize > maxBufferSize then maxBufferSize else minOutputSize) = minOutputSize :=
  if_neg (by decide)

theorem clamped_length {input : Bytes} (nonempty : input ≠ []) :
    minOutputSize ≤ (clamped input).length ∧ (clamped input).length ≤ maxBufferSize := by
  unfold clamped
  split
  · rw [repeated_length nonempty]
    simp only [minOutputSize, maxBufferSize, batch]
    omega
  · simp only [List.length_take, minOutputSize, maxBufferSize, batch] at *
    omega

theorem clamped_of_le {input : Bytes} (long : minOutputSize ≤ input.length) :
    clamped input = input.take maxBufferSize := if_neg (Nat.not_lt.mpr long)

theorem clamped_size {input : Bytes} (nonempty : input ≠ []) :
    (clamped input).length = max minOutputSize (min input.length maxBufferSize) := by
  have ordered : minOutputSize ≤ maxBufferSize := by decide
  unfold clamped
  split
  · rw [repeated_length nonempty]
    omega
  · rw [List.length_take]
    omega

theorem clamped_get {input : Bytes} (nonempty : input ≠ []) {i : ℕ}
    (h : i < (clamped input).length) : (clamped input)[i]? = input[i % input.length]? := by
  by_cases short : input.length < minOutputSize
  · rw [clamped, if_pos short] at h ⊢
    rw [repeated_length nonempty] at h
    rw [repeated_get nonempty h]
  · rw [clamped, if_neg short] at h ⊢
    rw [List.length_take] at h
    rw [List.getElem?_take_of_lt (by omega), Nat.mod_eq_of_lt (by omega)]

theorem clamped_clamped {input : Bytes} (nonempty : input ≠ []) :
    clamped (clamped input) = clamped input := by
  obtain ⟨low, high⟩ := clamped_length nonempty
  rw [clamped_of_le low, List.take_of_length_le high]

theorem clamped_head {input : Bytes} : (clamped input).head? = input.head? := by
  unfold clamped
  split
  · exact repeated_head (by simp [minOutputSize, batch])
  · cases input <;> simp [maxBufferSize, batch]

theorem normalizeOutputSize_eq {rounds : ℕ} {input : Bytes} (nonempty : input ≠ [])
    (enough : minOutputSize < rounds) :
    normalizeOutputSize rounds true input input.length =
      some ⟨some (clamped input), (clamped input).length⟩ := by
  unfold normalizeOutputSize clamped
  by_cases short : input.length < minOutputSize
  · have low : ¬ (minOutputSize ≤ input.length ∧ input.length ≤ maxBufferSize) := by omega
    simp only [low, short, target_eq, if_true, if_false, List.take_length]
    rw [fillLoop_eq nonempty minOutputSize rounds [] (by simpa using enough)]
    rfl
  · by_cases high : input.length ≤ maxBufferSize
    · have inside : minOutputSize ≤ input.length ∧ input.length ≤ maxBufferSize := by omega
      simp [inside, short, List.take_of_length_le high]
    · have outside : ¬ (minOutputSize ≤ input.length ∧ input.length ≤ maxBufferSize) := by omega
      simp only [outside, short, if_true, if_false, List.length_take]
      rw [Nat.min_eq_left (by omega)]

/-- The output is the endless repetition of the input, cut to a size within the bounds. -/
structure ClampedCopy (input output : Bytes) : Prop where
  size : output.length = max minOutputSize (min input.length maxBufferSize)
  byte : ∀ i < output.length, output[i]? = input[i % input.length]?
  whole : input.length ≤ output.length → input <+: output
  cut : output.length ≤ input.length → output <+: input

/-- A non-empty input is normalised after at most `MIN_OUTPUT_SIZE` copies, and once for all. -/
theorem normalizeOutputSize_clamps (input : Bytes) (nonempty : input ≠ []) :
    ∃ output, ClampedCopy input output ∧ ∀ rounds, minOutputSize < rounds →
      normalizeOutputSize rounds true input input.length = some ⟨some output, output.length⟩ ∧
      normalizeOutputSize rounds true output output.length =
        some ⟨some output, output.length⟩ := by
  have cyclic := fun i => clamped_get nonempty (i := i)
  obtain ⟨whole, cut⟩ := prefix_of_cyclic cyclic
  refine ⟨clamped input, ⟨clamped_size nonempty, cyclic, whole, cut⟩, fun rounds enough => ?_⟩
  refine ⟨normalizeOutputSize_eq nonempty enough, ?_⟩
  have nonempty' : clamped input ≠ [] := by
    intro empty
    have low := (clamped_length nonempty).1
    rw [empty] at low
    exact absurd low (by decide)
  rw [normalizeOutputSize_eq nonempty' enough, clamped_clamped nonempty]

theorem threeBytes_clamps : ∃ output, ClampedCopy [65, 66, 67] output ∧
    ∀ rounds, minOutputSize < rounds →
      normalizeOutputSize rounds true [65, 66, 67] 3 = some ⟨some output, output.length⟩ ∧
      normalizeOutputSize rounds true output output.length =
        some ⟨some output, output.length⟩ :=
  normalizeOutputSize_clamps [65, 66, 67] (by decide)

theorem runRadamsa_eq {rounds : ℕ} {call : RadamsaCall} (tempBuf : call.tempBuf = true)
    (finalBuf : call.finalBuf = true) (enough : minOutputSize < rounds) (data : Bytes) :
    runRadamsa rounds call data =
      if answer call data = [] then some nullptr
      else some ⟨some (clamped (answer call data)), (clamped (answer call data)).length⟩ := by
  unfold runRadamsa answer
  cases call.inPipe <;> cases call.outPipe <;> cases call.fork <;> simp [tempBuf, finalBuf]
  split
  · rfl
  · exact normalizeOutputSize_eq (by assumption) enough

theorem runRadamsaExpanded_eq {rounds : ℕ} {call : FuzzCall} (allocates : Allocates call)
    (enough : minOutputSize < rounds) {data : Bytes}
    (copies : data ≠ [] ∨ answer call.radamsa data ≠ []) :
    runRadamsaExpanded rounds call data =
      some ⟨some (fuzz call data), (fuzz call data).length⟩ := by
  unfold runRadamsaExpanded fuzz
  rw [runRadamsa_eq allocates.tempBuf allocates.finalBuf enough]
  by_cases silent : answer call.radamsa data = []
  · have nonempty := copies.resolve_right (not_not.mpr silent)
    simp only [silent, if_true, Option.bind_some, nullptr, repeatInput, allocates.expanded]
    rw [fillLoop_eq nonempty minOutputSize rounds [] (by simpa using enough)]
    simp [repeated_length nonempty]
  · obtain ⟨low, high⟩ := clamped_length silent
    have some_fuzz : clamped (answer call.radamsa data) ≠ [] := by
      intro empty
      rw [empty] at low
      simp [minOutputSize, batch] at low
    have positive : ¬ (clamped (answer call.radamsa data)).length = 0 := by
      simpa using some_fuzz
    simp only [silent, if_false, Option.bind_some, positive, low, if_true, allocates.expanded]
    rw [normalizeOutputSize_eq some_fuzz enough, clamped_clamped silent]

theorem fuzz_length {call : FuzzCall} {data : Bytes}
    (copies : data ≠ [] ∨ answer call.radamsa data ≠ []) :
    minOutputSize ≤ (fuzz call data).length := by
  by_cases silent : answer call.radamsa data = []
  · rw [fuzz, if_pos silent, repeated_length (copies.resolve_right (not_not.mpr silent))]
  · rw [fuzz, if_neg silent]
    exact (clamped_length silent).1

/-- `postFuzzing` ends when there is an input or an answer, and puts fuzz behind the input. -/
theorem postFuzzing_eq {rounds : ℕ} {call : FuzzCall} (allocates : Allocates call)
    (enough : minOutputSize < rounds) {input : Bytes}
    (copies : input ≠ [] ∨ answer call.radamsa input ≠ []) :
    ∃ size, postFuzzing rounds call input =
      some ⟨some ((input ++ fuzz call input).take maxBufferSize), size⟩ ∧
      size = ((input ++ fuzz call input).take maxBufferSize).length := by
  have long := fuzz_length copies
  have some_input : input ++ fuzz call input ≠ [] := by
    apply List.ne_nil_of_length_pos
    simp only [List.length_append, minOutputSize, batch] at *
    omega
  have sizes : input.length + (fuzz call input).length = (input ++ fuzz call input).length := by
    simp
  refine ⟨_, ?_, rfl⟩
  unfold postFuzzing
  rw [runRadamsaExpanded_eq allocates enough copies]
  simp only [Option.bind_some, allocates.combined, if_true, List.take_length, allocates.normalized]
  rw [sizes, normalizeOutputSize_eq some_input enough, clamped_of_le (by simp; omega)]

theorem normalizeOutputSize_total {rounds : ℕ} (malloc : Bool) {input : Bytes} {input_len : ℕ}
    (enough : minOutputSize < rounds)
    (copies : input.take input_len ≠ [] ∨ minOutputSize ≤ input_len) :
    ∃ b, normalizeOutputSize rounds malloc input input_len = some b := by
  simp only [normalizeOutputSize, target_eq]
  split_ifs with inside _ short
  · exact ⟨_, rfl⟩
  · exact ⟨_, rfl⟩
  · have nonempty := copies.resolve_right (Nat.not_le.mpr short)
    exact ⟨_, congrArg _ (fillLoop_eq nonempty minOutputSize rounds [] (by simpa using enough))⟩
  · exact ⟨_, rfl⟩
  · exact ⟨_, rfl⟩
  · exact ⟨_, rfl⟩

theorem repeatInput_total {rounds : ℕ} (malloc : Bool) {data : Bytes} (nonempty : data ≠ [])
    (enough : minOutputSize < rounds) : ∃ b, repeatInput rounds malloc data = some b := by
  unfold repeatInput
  split
  · exact ⟨_, congrArg _ (fillLoop_eq nonempty minOutputSize rounds [] (by simpa using enough))⟩
  · exact ⟨_, rfl⟩

theorem runRadamsa_total {rounds : ℕ} (call : RadamsaCall) (data : Bytes)
    (enough : minOutputSize < rounds) : ∃ b, runRadamsa rounds call data = some b := by
  unfold runRadamsa
  split_ifs with _ _ _ silent
  iterate 4 exact ⟨_, rfl⟩
  exact normalizeOutputSize_total call.finalBuf enough (Or.inl (by simpa using silent))

theorem runRadamsaExpanded_total {rounds : ℕ} (call : FuzzCall) {data : Bytes}
    (nonempty : data ≠ []) (enough : minOutputSize < rounds) :
    ∃ b, runRadamsaExpanded rounds call data = some b := by
  obtain ⟨first, h⟩ := runRadamsa_total call.radamsa data enough
  simp only [runRadamsaExpanded, h, Option.bind_some, target_eq]
  split
  · exact repeatInput_total call.expanded nonempty enough
  · split_ifs with zero long
    · exact repeatInput_total call.expanded nonempty enough
    · exact normalizeOutputSize_total call.expanded enough (Or.inr long)
    · exact ⟨_, congrArg _ (fillLoop_eq nonempty minOutputSize rounds _ (by omega))⟩
    · exact ⟨_, rfl⟩

theorem postFuzzing_total {rounds : ℕ} (call : FuzzCall) {input : Bytes} (nonempty : input ≠ [])
    (enough : minOutputSize < rounds) : ∃ b, postFuzzing rounds call input = some b := by
  obtain ⟨fuzz, h⟩ := runRadamsaExpanded_total call nonempty enough
  simp only [postFuzzing, h, Option.bind_some]
  split
  · split <;> exact ⟨_, rfl⟩
  · split
    · refine normalizeOutputSize_total call.normalized enough (Or.inl ?_)
      cases input with
      | nil => exact absurd rfl nonempty
      | cons b input => simp [Nat.add_right_comm]
    · exact ⟨_, rfl⟩

/-- When radamsa answers nothing to an empty input, there is nothing to repeat: the loop of
    `runRadamsaExpanded` copies for ever. -/
theorem postFuzzing_stuck {call : FuzzCall} (allocates : call.expanded = true)
    (silent : answer call.radamsa [] = []) (rounds : ℕ) : postFuzzing rounds call [] = none := by
  have null : runRadamsa rounds call.radamsa [] = some nullptr := by
    unfold answer at silent
    unfold runRadamsa
    cases h₁ : call.radamsa.inPipe <;> cases h₂ : call.radamsa.outPipe <;>
      cases h₃ : call.radamsa.fork <;> simp_all
  have filling : fillLoop ([] : Bytes) minOutputSize rounds [] = none :=
    fillLoop_nil (by simp [minOutputSize, batch]) rounds
  simp only [postFuzzing, runRadamsaExpanded, null, Option.bind_some, nullptr, repeatInput,
    allocates, if_true, filling, Option.map_none, Option.bind_none]

end Cezfuzzer.FuzzerCore
