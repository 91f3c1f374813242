import Cezfuzzer.FuzzedMessages

set_option autoImplicit false

/-!
# How a short answer is completed

`runRadamsa` normalises what it has read, and does so by repeating it. What
`runRadamsaExpanded` gets from it is then never shorter than the minimum, and the loop that
appends copies of the input is not reached.
-/
namespace Cezfuzzer.ShortFuzz
open CyclicFill LengthPrefix FuzzerCore FuzzerVariants FuzzedMessages

/-- "If initial fuzz size < MIN_OUTPUT_SIZE, repeatedly concatenate copies of the original
    input until reaching at least MIN_OUTPUT_SIZE." -/
def CompletedWithInput (call : FuzzCall) (input : Bytes) : Prop :=
  Returns (fun rounds => runRadamsaExpanded rounds call input)
    (answer call.radamsa input ++
      repeated input (minOutputSize - (answer call.radamsa input).length))

theorem fuzz_short {call : FuzzCall} {input : Bytes} (heard : answer call.radamsa input ≠ [])
    (short : (answer call.radamsa input).length < minOutputSize) :
    fuzz call input = answer call.radamsa input ++ repeated (answer call.radamsa input)
      (minOutputSize - (answer call.radamsa input).length) := by
  rw [fuzz, if_neg heard, clamped, if_pos short, repeated_copy heard short.le]

/-- `firstSize < MIN_OUTPUT_SIZE` does not happen with a buffer. -/
theorem runRadamsa_long {rounds : ℕ} {call : RadamsaCall} {data bytes : Bytes} {size : ℕ}
    (h : runRadamsa rounds call data = some ⟨some bytes, size⟩) : minOutputSize ≤ size := by
  rcases runRadamsa_inRange h with null | ⟨bytes', same, low, -⟩
  · cases null
  · cases same
    exact low

/-- The answer itself is repeated behind the answer, which is the same only as long as it
    looks like the input. -/
theorem completedWithInput_iff (call : FuzzCall) (input : Bytes) (allocates : Allocates call)
    (nonempty : input ≠ []) (heard : answer call.radamsa input ≠ [])
    (short : (answer call.radamsa input).length < minOutputSize) :
    CompletedWithInput call input ↔
      ∀ i < minOutputSize - (answer call.radamsa input).length,
        (answer call.radamsa input)[i % (answer call.radamsa input).length]? =
          input[i % input.length]? := by
  have returns := expanded_returns allocates nonempty
  rw [fuzz_short heard short] at returns
  rw [← repeated_congr heard nonempty]
  constructor
  · intro completed
    exact List.append_cancel_left (returns.unique completed)
  · intro same
    rwa [same] at returns

/-- The input is a single 1, and radamsa answers a single 2. -/
def changed : FuzzCall := answering [2]

theorem changed_not_completed : ¬ CompletedWithInput changed [1] := by
  have heard : answer changed.radamsa [1] = [2] := answer_answering (by decide) [1]
  rw [completedWithInput_iff changed [1] ⟨rfl, rfl, rfl, rfl, rfl⟩ (by simp) (by simp [heard])
    (by rw [heard]; decide), heard]
  intro same
  exact absurd (same 0 (by decide)) (by decide)

theorem echo_completed : CompletedWithInput echo [1] := by
  have heard : answer echo.radamsa [1] = [1] := by
    simp [answer, echo, RadamsaCall.read, maxBufferSize, batch]
  rw [completedWithInput_iff echo [1] ⟨rfl, rfl, rfl, rfl, rfl⟩ (by simp) (by simp [heard])
    (by rw [heard]; decide), heard]
  exact fun _ _ => rfl

end Cezfuzzer.ShortFuzz
