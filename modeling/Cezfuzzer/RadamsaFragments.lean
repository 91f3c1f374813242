import Cezfuzzer.FuzzedMessages

set_option autoImplicit false

/-!
# What the pipes to and from radamsa carry

`runRadamsa` writes once and reads once. A pipe may accept less than it is given and may
deliver an output in pieces, and then the rest of the input or of the output is lost.
-/
namespace Cezfuzzer.RadamsaFragments
open CyclicFill LengthPrefix FuzzerCore FuzzedMessages

variable {program : Bytes → Bytes} {data : Bytes}

/-- What the pipe accepts of `write(in_pipe[1], data, size)`, and the pieces in which `read`
    would return the child's output to this. -/
structure Fragments (program : Bytes → Bytes) (data : Bytes) where
  accepted : ℕ
  positive : 0 < accepted
  chunks : List Bytes
  nonempty : ∀ c ∈ chunks, c ≠ []
  output : chunks.flatten = program (data.take accepted)

def Fragments.first (f : Fragments program data) : Bytes := f.chunks.headD []

/-- The call that meets these pipes, and in which nothing fails. -/
def Fragments.call (f : Fragments program data) : RadamsaCall :=
  ⟨true, true, true, f.accepted, program, f.first.length, true, true⟩

/-- The outcome, with a null pointer for a child that says nothing. -/
def normalisation (output : Bytes) : Buffer :=
  if output = [] then nullptr else ⟨some (clamped output), (clamped output).length⟩

structure PassesThrough (f : Fragments program data) : Prop where
  input : data.take f.accepted = data
  output : ∀ rounds, minOutputSize < rounds →
    runRadamsa rounds f.call data = some (normalisation (program data))

theorem Fragments.first_prefix (f : Fragments program data) :
    f.first <+: program (data.take f.accepted) := by
  rw [← f.output, Fragments.first]
  cases f.chunks with
  | nil => exact List.nil_prefix
  | cons c chunks => exact List.prefix_append c chunks.flatten

theorem Fragments.first_eq_nil (f : Fragments program data) :
    f.first = [] ↔ program (data.take f.accepted) = [] := by
  constructor
  · intro silent
    have none_left : f.chunks = [] := by
      cases h : f.chunks with
      | nil => rfl
      | cons c chunks =>
        have := f.nonempty c (by simp [h])
        simp_all [Fragments.first]
    rw [← f.output, none_left, List.flatten_nil]
  · intro silent
    exact List.prefix_nil.mp (silent ▸ f.first_prefix)

theorem Fragments.read_eq (f : Fragments program data)
    (bounded : (program (data.take f.accepted)).length ≤ maxBufferSize) :
    answer f.call data = f.first := by
  have le := f.first_prefix.length_le
  simp only [answer, Fragments.call, RadamsaCall.read, Bool.true_eq_false, or_self, if_false]
  rw [Nat.min_eq_left (le.trans bounded), ← List.prefix_iff_eq_take.mp f.first_prefix]

theorem runRadamsa_normalisation (f : Fragments program data)
    (bounded : (program (data.take f.accepted)).length ≤ maxBufferSize) {rounds : ℕ}
    (enough : minOutputSize < rounds) :
    runRadamsa rounds f.call data = some (normalisation f.first) := by
  rw [runRadamsa_eq rfl rfl enough, f.read_eq bounded, normalisation]
  split <;> rfl

/-- Two outputs, one the beginning of the other, that are normalised to the same bytes. -/
def Alike (first output : Bytes) : Prop :=
  first = output ∨ output.length ≤ minOutputSize ∧
    ∀ i < minOutputSize, first[i % first.length]? = output[i % output.length]?

theorem clamped_short {bytes : Bytes} (short : bytes.length ≤ minOutputSize) :
    clamped bytes = repeated bytes minOutputSize := by
  unfold clamped
  split
  · rfl
  · have low : minOutputSize ≤ maxBufferSize := by decide
    rw [repeated_cut (by omega), List.take_of_length_le (by omega),
      List.take_of_length_le (by omega)]

theorem clamped_eq_iff {first output : Bytes} (heard : first ≠ []) (begins : first <+: output)
    (bounded : output.length ≤ maxBufferSize) :
    clamped first = clamped output ↔ Alike first output := by
  have more : output ≠ [] := by
    rintro rfl
    exact heard (List.prefix_nil.mp begins)
  by_cases short : output.length ≤ minOutputSize
  · rw [clamped_short short, clamped_short (begins.length_le.trans short),
      repeated_congr heard more, Alike]
    refine ⟨fun same => Or.inr ⟨short, same⟩, ?_⟩
    rintro (rfl | ⟨-, same⟩)
    · exact fun _ _ => rfl
    · exact same
  · have whole : clamped output = output := by
      rw [clamped_of_le (by omega), List.take_of_length_le bounded]
    refine ⟨fun same => Or.inl ?_, ?_⟩
    · rw [whole] at same
      by_cases long : minOutputSize ≤ first.length
      · rwa [clamped_of_le long, List.take_of_length_le (begins.length_le.trans bounded)] at same
      · rw [clamped_short (by omega)] at same
        have := congrArg List.length same
        rw [repeated_length heard] at this
        omega
    · rintro (rfl | ⟨le, -⟩)
      · rfl
      · exact absurd le short

theorem normalisation_eq_iff {first output : Bytes} (silent : first = [] ↔ output = [])
    (begins : first <+: output) (bounded : output.length ≤ maxBufferSize) :
    normalisation first = normalisation output ↔ Alike first output := by
  by_cases h : first = []
  · rw [h, silent.mp h]
    exact iff_of_true rfl (Or.inl rfl)
  · rw [normalisation, normalisation, if_neg h, if_neg (mt silent.mpr h),
      ← clamped_eq_iff h begins bounded]
    refine ⟨fun same => by simpa using congrArg Buffer.ptr same, fun same => by rw [same]⟩

/-- The whole input fits into the pipe, and the first piece of the output is either all of it
    or cannot be told from it after the padding. -/
theorem passesThrough_iff (program : Bytes → Bytes) (data : Bytes)
    (bounded : ∀ input, (program input).length ≤ maxBufferSize)
    (f : Fragments program data) :
    PassesThrough f ↔ data.length ≤ f.accepted ∧ Alike f.first (program data) := by
  constructor
  · rintro ⟨input, output⟩
    have enough := Nat.lt_succ_self minOutputSize
    have same := (runRadamsa_normalisation f (bounded _) enough).symm.trans (output _ enough)
    have silent := f.first_eq_nil
    have begins := f.first_prefix
    rw [input] at silent begins
    have fits : data.length ≤ f.accepted := by
      have := congrArg List.length input
      rw [List.length_take] at this
      omega
    exact ⟨fits, (normalisation_eq_iff silent begins (bounded _)).mp (Option.some.inj same)⟩
  · rintro ⟨fits, alike⟩
    have input : data.take f.accepted = data := List.take_of_length_le fits
    have silent := f.first_eq_nil
    have begins := f.first_prefix
    rw [input] at silent begins
    refine ⟨input, fun rounds enough => ?_⟩
    rw [runRadamsa_normalisation f (bounded _) enough,
      (normalisation_eq_iff silent begins (bounded _)).mpr alike]

/-- An answer of two bytes in two pieces. -/
def pieces : Fragments (fun _ => [65, 66]) [1] := ⟨1, by decide, [[65], [66]], by decide, rfl⟩

theorem pieces_lost : ¬ PassesThrough pieces := by
  rw [passesThrough_iff _ _ (fun _ => by simp [maxBufferSize, batch])]
  rintro ⟨-, same | ⟨-, same⟩⟩
  · exact absurd same (by decide)
  · exact absurd (same 1 (by decide)) (by decide)

/-- The same answer in one piece. -/
def onePiece : Fragments (fun _ => [65, 66]) [1] := ⟨1, by decide, [[65, 66]], by decide, rfl⟩

theorem onePiece_passes : PassesThrough onePiece :=
  (passesThrough_iff _ _ (fun _ => by simp [maxBufferSize, batch]) onePiece).mpr
    ⟨by decide, Or.inl rfl⟩

end Cezfuzzer.RadamsaFragments
