import Cezfuzzer.FuzzerCore

set_option autoImplicit false

/-!
# The variants of fuzzing

`preFuzzing` and `fullFuzzing` put the parts together in another order than `postFuzzing`,
`guidedFuzzing` and `pass` do without radamsa. On an empty input only radamsa or a failed
allocation keeps the first three from copying nothing for ever.
-/
namespace Cezfuzzer.FuzzerVariants
open CyclicFill LengthPrefix FuzzerCore

/-- What `postFuzzing` and `preFuzzing` have in common; they differ in how they put the input
    and the fuzz together. -/
def joinedFuzzing (join : Bytes → Bytes → Bytes) (rounds : ℕ) (call : FuzzCall)
    (input : Bytes) : Option Buffer :=
  (runRadamsaExpanded rounds call input).bind (fun fuzz =>
    match fuzz.ptr with
    | none => if call.combined then some ⟨some input, input.length⟩ else some nullptr
    | some fuzzed =>
      if call.combined then
        normalizeOutputSize rounds call.normalized (join input (fuzzed.take fuzz.size))
          (input.length + fuzz.size)
      else some nullptr)

theorem postFuzzing_joined (rounds : ℕ) (call : FuzzCall) (input : Bytes) :
    postFuzzing rounds call input =
      joinedFuzzing (fun input fuzz => input ++ fuzz) rounds call input := rfl

def preFuzzing (rounds : ℕ) (call : FuzzCall) (input : Bytes) : Option Buffer :=
  joinedFuzzing (fun input fuzz => fuzz ++ input) rounds call input

/-- What one `fullFuzzing` meets. The allocations after both invocations are those of
    `second`. -/
structure FullCall where
  first : FuzzCall
  second : FuzzCall

/-- "Treat individual failures as zero-length fuzz." -/
def fuzzSize (fuzz : Buffer) : ℕ := if fuzz.ptr = none then 0 else fuzz.size

def fullFuzzing (rounds : ℕ) (call : FullCall) (input : Bytes) : Option Buffer :=
  (runRadamsaExpanded rounds call.first input).bind (fun fuzz1 =>
    (runRadamsaExpanded rounds call.second input).bind (fun fuzz2 =>
      if fuzz1.ptr = none ∧ fuzz2.ptr = none then
        if call.second.combined then some ⟨some input, input.length⟩ else some nullptr
      else if call.second.combined then
        normalizeOutputSize rounds call.second.normalized
          ((fuzz1.ptr.getD []).take (fuzzSize fuzz1) ++ input ++
            (fuzz2.ptr.getD []).take (fuzzSize fuzz2))
          (fuzzSize fuzz1 + input.length + fuzzSize fuzz2)
      else some nullptr))

def guidedFuzzing (malloc : Bool) (input : Bytes) : Buffer :=
  let target := if input.length < minOutputSize then minOutputSize
    else if input.length > maxBufferSize then maxBufferSize else input.length
  let toCopy := min input.length target
  if malloc then ⟨some (input.take toCopy ++ List.replicate (target - toCopy) 0), target⟩
  else nullptr

def pass (malloc : Bool) (input : Bytes) : Buffer :=
  if malloc then ⟨some input, input.length⟩ else nullptr

/-- A null pointer with size 0, or as many bytes as the size says, which is in the range. -/
def InRange (b : Buffer) : Prop :=
  b = nullptr ∨ ∃ bytes : Bytes, b = ⟨some bytes, bytes.length⟩ ∧
    minOutputSize ≤ bytes.length ∧ bytes.length ≤ maxBufferSize

theorem fillLoop_length {src : Bytes} {target rounds : ℕ} {copied full : Bytes}
    (h : fillLoop src target rounds copied = some full) (room : copied.length ≤ target) :
    full.length = target := by
  induction rounds generalizing copied with
  | zero => cases h
  | succ rounds ih =>
    rw [fillLoop] at h
    split at h
    · refine ih h ?_
      rw [List.length_append, List.length_take]
      omega
    · cases h
      omega

theorem normalizeOutputSize_inRange {rounds : ℕ} {malloc : Bool} {input : Bytes} {b : Buffer}
    (h : normalizeOutputSize rounds malloc input input.length = some b) : InRange b := by
  simp only [normalizeOutputSize, target_eq, List.take_length] at h
  split_ifs at h with inside _ short
  · cases h
    exact Or.inr ⟨input, rfl, inside⟩
  · exact Or.inl (Option.some.inj h).symm
  · obtain ⟨full, hfull, rfl⟩ := Option.map_eq_some_iff.mp h
    have exact := fillLoop_length hfull (Nat.zero_le _)
    exact Or.inr ⟨full, rfl, by omega, by rw [exact]; decide⟩
  · exact Or.inl (Option.some.inj h).symm
  · cases h
    have cut : (input.take maxBufferSize).length = maxBufferSize := by
      rw [List.length_take]
      omega
    exact Or.inr ⟨_, by rw [cut], by rw [cut]; decide, cut.le⟩
  · exact Or.inl (Option.some.inj h).symm

theorem runRadamsa_inRange {rounds : ℕ} {call : RadamsaCall} {data : Bytes} {b : Buffer}
    (h : runRadamsa rounds call data = some b) : InRange b := by
  unfold runRadamsa at h
  split_ifs at h
  iterate 4 exact Or.inl (Option.some.inj h).symm
  exact normalizeOutputSize_inRange h

theorem repeatInput_inRange {rounds : ℕ} {malloc : Bool} {data : Bytes} {b : Buffer}
    (h : repeatInput rounds malloc data = some b) : InRange b := by
  unfold repeatInput at h
  split at h
  · obtain ⟨full, hfull, rfl⟩ := Option.map_eq_some_iff.mp h
    have exact := fillLoop_length hfull (Nat.zero_le _)
    exact Or.inr ⟨full, by rw [exact], exact.ge, by rw [exact]; decide⟩
  · exact Or.inl (Option.some.inj h).symm

theorem runRadamsaExpanded_inRange {rounds : ℕ} {call : FuzzCall} {data : Bytes} {b : Buffer}
    (h : runRadamsaExpanded rounds call data = some b) : InRange b := by
  unfold runRadamsaExpanded at h
  obtain ⟨first, hfirst, h⟩ := Option.bind_eq_some_iff.mp h
  rcases runRadamsa_inRange hfirst with rfl | ⟨bytes, rfl, low, -⟩
  · exact repeatInput_inRange h
  · have positive : bytes.length ≠ 0 := by
      simp only [minOutputSize, batch] at low
      omega
    simp only [positive, if_false, low, if_true] at h
    exact normalizeOutputSize_inRange h

/-- Radamsa's answer gets through `runRadamsa`: the outcome is not null. -/
def Delivers (call : RadamsaCall) (data : Bytes) : Prop :=
  call.tempBuf = true ∧ call.finalBuf = true ∧ answer call data ≠ []

theorem runRadamsa_delivers {rounds : ℕ} {call : RadamsaCall} {data : Bytes}
    (delivers : Delivers call data) (enough : minOutputSize < rounds) :
    runRadamsa rounds call data =
      some ⟨some (clamped (answer call data)), (clamped (answer call data)).length⟩ := by
  rw [runRadamsa_eq delivers.1 delivers.2.1 enough, if_neg delivers.2.2]

theorem runRadamsa_null {call : RadamsaCall} {data : Bytes} (silent : ¬ Delivers call data)
    (rounds : ℕ) : runRadamsa rounds call data = some nullptr := by
  unfold runRadamsa
  split_ifs with pipes fork temp empty
  iterate 4 rfl
  have heard : answer call data = call.read data := by
    rw [answer, if_neg]
    rintro (inPipe | outPipe | forked)
    · exact pipes (Or.inl inPipe)
    · exact pipes (Or.inr outPipe)
    · exact fork forked
  have refused : call.finalBuf = false := by
    by_contra given
    exact silent ⟨by simpa using temp, by simpa using given, heard ▸ empty⟩
  simp [normalizeOutputSize, refused]

/-- There is something to copy, or nothing to copy it into. -/
def Fills (call : FuzzCall) (input : Bytes) : Prop :=
  input ≠ [] ∨ Delivers call.radamsa input ∨ call.expanded = false

theorem runRadamsaExpanded_fills {call : FuzzCall} {input : Bytes} (fills : Fills call input)
    {rounds : ℕ} (enough : minOutputSize < rounds) :
    ∃ b, runRadamsaExpanded rounds call input = some b := by
  by_cases nonempty : input ≠ []
  · exact runRadamsaExpanded_total call nonempty enough
  · unfold runRadamsaExpanded
    by_cases delivers : Delivers call.radamsa input
    · obtain ⟨low, -⟩ := clamped_length delivers.2.2
      have positive : (clamped (answer call.radamsa input)).length ≠ 0 := by
        simp only [minOutputSize, batch] at low
        omega
      rw [runRadamsa_delivers delivers enough]
      simp only [Option.bind_some, positive, if_false, low, if_true]
      exact normalizeOutputSize_total call.expanded enough (Or.inr low)
    · have refused := (fills.resolve_left nonempty).resolve_left delivers
      rw [runRadamsa_null delivers]
      exact ⟨nullptr, by simp [nullptr, repeatInput, refused]⟩

theorem joinedFuzzing_fills (join : Bytes → Bytes → Bytes) {call : FuzzCall} {input : Bytes}
    (fills : Fills call input) {rounds : ℕ} (enough : minOutputSize < rounds) :
    ∃ b, joinedFuzzing join rounds call input = some b := by
  obtain ⟨fuzz, hfuzz⟩ := runRadamsaExpanded_fills fills enough
  simp only [joinedFuzzing, hfuzz, Option.bind_some]
  rcases runRadamsaExpanded_inRange hfuzz with rfl | ⟨bytes, rfl, low, -⟩
  · simp only [nullptr]
    split <;> exact ⟨_, rfl⟩
  · simp only
    split
    · exact normalizeOutputSize_total call.normalized enough (Or.inr (by omega))
    · exact ⟨_, rfl⟩

theorem fuzzSize_large {fuzz : Buffer} (range : InRange fuzz) (some_fuzz : fuzz.ptr ≠ none) :
    minOutputSize ≤ fuzzSize fuzz := by
  rcases range with rfl | ⟨bytes, rfl, low, -⟩
  · exact absurd rfl some_fuzz
  · simpa [fuzzSize] using low

theorem fullFuzzing_fills {call : FullCall} {input : Bytes} (fills1 : Fills call.first input)
    (fills2 : Fills call.second input) {rounds : ℕ} (enough : minOutputSize < rounds) :
    ∃ b, fullFuzzing rounds call input = some b := by
  obtain ⟨fuzz1, h1⟩ := runRadamsaExpanded_fills fills1 enough
  obtain ⟨fuzz2, h2⟩ := runRadamsaExpanded_fills fills2 enough
  simp only [fullFuzzing, h1, h2, Option.bind_some]
  split_ifs with failed copied given
  · exact ⟨_, rfl⟩
  · exact ⟨_, rfl⟩
  · refine normalizeOutputSize_total call.second.normalized enough (Or.inr ?_)
    rcases not_and_or.mp failed with some1 | some2
    · have := fuzzSize_large (runRadamsaExpanded_inRange h1) some1
      omega
    · have := fuzzSize_large (runRadamsaExpanded_inRange h2) some2
      omega
  · exact ⟨_, rfl⟩

theorem runRadamsaExpanded_stuck {call : FuzzCall} {input : Bytes} (stuck : ¬ Fills call input)
    (rounds : ℕ) : runRadamsaExpanded rounds call input = none := by
  obtain ⟨empty, silent, given⟩ : input = [] ∧ ¬ Delivers call.radamsa input ∧
      call.expanded = true := by simpa [Fills] using stuck
  unfold runRadamsaExpanded
  rw [runRadamsa_null silent, empty]
  have filling : fillLoop ([] : Bytes) minOutputSize rounds [] = none :=
    fillLoop_nil (by simp [minOutputSize, batch]) rounds
  simp [nullptr, repeatInput, given, filling]

end Cezfuzzer.FuzzerVariants
