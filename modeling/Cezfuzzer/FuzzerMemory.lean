import Cezfuzzer.BlockMemory
import Cezfuzzer.FuzzerVariants

set_option autoImplicit false

/-!
# `FuzzerCore` in memory

The same eight functions with their buffers: what they allocate, copy and free, by pointer
and size. An allocation is given or refused as in the calls of `FuzzerCore`.
-/
namespace Cezfuzzer.FuzzerMemory
open CyclicFill LengthPrefix FuzzerCore FuzzerVariants BlockMemory

/-- The pointer that a function returns, and the size that it stores. -/
abbrev Result := Pointer × ℕ

/-- The sum of two `size_t`. -/
def sizeSum (a b : ℕ) : ℕ := (a + b) % 18446744073709551616

def normalizeOutputSize (rounds : ℕ) (given : Bool) (input : Pointer) (input_len : ℕ) :
    Program UInt8 Result :=
  if minOutputSize ≤ input_len ∧ input_len ≤ maxBufferSize then do
    let copy ← malloc given input_len
    if copy = .null then pure (.null, 0)
    else do
      memcpy copy input input_len
      pure (copy, input_len)
  else if input_len < minOutputSize then do
    let target := if minOutputSize > maxBufferSize then maxBufferSize else minOutputSize
    let expanded ← malloc given target
    if expanded = .null then pure (.null, 0)
    else do
      let copied ← fill expanded target input input_len rounds 0
      pure (expanded, copied)
  else do
    let target := maxBufferSize
    let truncated ← malloc given target
    if truncated = .null then pure (.null, 0)
    else do
      memcpy truncated input target
      pure (truncated, target)

/-- `write` takes the bytes of `data`, and `read` stores the answer. -/
def runRadamsa (rounds : ℕ) (call : RadamsaCall) (data : Pointer) (size : ℕ) :
    Program UInt8 Result :=
  if call.inPipe = false ∨ call.outPipe = false then pure (.null, 0)
  else if call.fork = false then pure (.null, 0)
  else do
    let written ← load data size
    let tempBuf ← malloc call.tempBuf maxBufferSize
    if tempBuf = .null then pure (.null, 0)
    else do
      store tempBuf (call.read written)
      if call.read written = [] then do
        free tempBuf
        pure (.null, 0)
      else do
        let finalBuf ← normalizeOutputSize rounds call.finalBuf tempBuf (call.read written).length
        free tempBuf
        pure finalBuf

/-- The fallback of `runRadamsaExpanded`. -/
def repeatInput (rounds : ℕ) (given : Bool) (data : Pointer) (size : ℕ) :
    Program UInt8 Result := do
  let target := minOutputSize
  let result ← malloc given target
  if result = .null then pure (.null, 0)
  else do
    let _ ← fill result target data size rounds 0
    pure (result, target)

def runRadamsaExpanded (rounds : ℕ) (call : FuzzCall) (data : Pointer) (size : ℕ) :
    Program UInt8 Result := do
  let (firstFuzz, firstSize) ← runRadamsa rounds call.radamsa data size
  if firstFuzz = .null ∨ firstSize = 0 then do
    free firstFuzz
    repeatInput rounds call.expanded data size
  else if minOutputSize ≤ firstSize then do
    let normalized ← normalizeOutputSize rounds call.expanded firstFuzz firstSize
    free firstFuzz
    pure normalized
  else do
    let target := if minOutputSize > maxBufferSize then maxBufferSize else minOutputSize
    let expanded ← malloc call.expanded target
    if expanded = .null then do
      free firstFuzz
      pure (.null, 0)
    else do
      memcpy expanded firstFuzz firstSize
      free firstFuzz
      let copied ← fill expanded target data size rounds firstSize
      pure (expanded, copied)

/-- A copy of the original input. -/
def pass (given : Bool) (input : Pointer) (size : ℕ) : Program UInt8 Result := do
  let buffer ← malloc given size
  if buffer = .null then pure (.null, 0)
  else do
    memcpy buffer input size
    pure (buffer, size)

def copyBoth (dst first : Pointer) (firstSize : ℕ) (second : Pointer) (secondSize : ℕ) :
    Program UInt8 Unit := do
  memcpy dst first firstSize
  memcpy (dst.advance firstSize) second secondSize

/-- What `postFuzzing` and `preFuzzing` have in common; `copy` puts the input and the fuzz
    into the combined buffer. -/
def joinedFuzzing (copy : Pointer → Pointer → ℕ → Program UInt8 Unit) (rounds : ℕ)
    (call : FuzzCall) (input : Pointer) (size : ℕ) : Program UInt8 Result := do
  let (fuzzed, fuzzSize) ← runRadamsaExpanded rounds call input size
  if fuzzed = .null then pass call.combined input size
  else do
    let combinedLen := sizeSum size fuzzSize
    let combined ← malloc call.combined combinedLen
    if combined = .null then do
      free fuzzed
      pure (.null, 0)
    else do
      copy combined fuzzed fuzzSize
      free fuzzed
      let normalized ← normalizeOutputSize rounds call.normalized combined combinedLen
      free combined
      pure normalized

def postFuzzing (rounds : ℕ) (call : FuzzCall) (input : Pointer) (size : ℕ) :
    Program UInt8 Result :=
  joinedFuzzing (fun combined fuzzed fuzzSize => copyBoth combined input size fuzzed fuzzSize)
    rounds call input size

def preFuzzing (rounds : ℕ) (call : FuzzCall) (input : Pointer) (size : ℕ) :
    Program UInt8 Result :=
  joinedFuzzing (fun combined fuzzed fuzzSize => copyBoth combined fuzzed fuzzSize input size)
    rounds call input size

def fullFuzzing (rounds : ℕ) (call : FullCall) (input : Pointer) (size : ℕ) :
    Program UInt8 Result := do
  let (fuzz1, size1) ← runRadamsaExpanded rounds call.first input size
  let (fuzz2, size2) ← runRadamsaExpanded rounds call.second input size
  if fuzz1 = .null ∧ fuzz2 = .null then pass call.second.combined input size
  else do
    let fuzz1Size := if fuzz1 = .null then 0 else size1
    let fuzz2Size := if fuzz2 = .null then 0 else size2
    let combinedLen := sizeSum (sizeSum fuzz1Size size) fuzz2Size
    let combined ← malloc call.second.combined combinedLen
    if combined = .null then do
      free fuzz1
      free fuzz2
      pure (.null, 0)
    else do
      if 0 < fuzz1Size then memcpy combined fuzz1 fuzz1Size
      memcpy (combined.advance fuzz1Size) input size
      if 0 < fuzz2Size then memcpy (combined.advance (fuzz1Size + size)) fuzz2 fuzz2Size
      free fuzz1
      free fuzz2
      let normalized ← normalizeOutputSize rounds call.second.normalized combined combinedLen
      free combined
      pure normalized

def guidedFuzzing (given : Bool) (input : Pointer) (size : ℕ) : Program UInt8 Result := do
  let target := if size < minOutputSize then minOutputSize
    else if size > maxBufferSize then maxBufferSize else size
  let buffer ← malloc given target
  if buffer = .null then pure (.null, 0)
  else do
    let toCopy := min size target
    memcpy buffer input toCopy
    if toCopy < target then memset (buffer.advance toCopy) 0 (target - toCopy)
    pure (buffer, target)

abbrev Blocks := ℕ → Option (Cells UInt8)

/-- The block starts with the bytes. -/
def Holds (base : Blocks) (b : ℕ) (bytes : Bytes) : Prop :=
  ∃ rest, base b = some (bytes.map some ++ rest)

/-- A new block has been filled with the bytes, and has some room left. -/
structure Filled (base : Blocks) (b : ℕ) (bytes : Bytes) (room : ℕ) (after : Blocks) : Prop where
  fresh : base b = none
  block : after = Function.update base b (some (bytes.map some ++ List.replicate room none))

/-- A null pointer with size 0, or a new block of these bytes with their number as its size;
    nothing else has changed. -/
def Gives (base : Blocks) (out : Buffer) (r : Result) (m : Memory UInt8) : Prop :=
  match out.ptr with
  | none => r = (.null, 0) ∧ out.size = 0 ∧ live m = base
  | some bytes => ∃ b, r = (.address b 0, bytes.length) ∧ out.size = bytes.length ∧
    Filled base b bytes 0 (live m)

variable {base after last : Blocks} {m : Memory UInt8} {b c i rounds room left : ℕ}
  {input bytes more : Bytes} {out : Buffer} {r : Result}

theorem Holds.take (holds : Holds base i input) (n : ℕ) : Holds base i (input.take n) := by
  obtain ⟨rest, given⟩ := holds
  refine ⟨(input.drop n).map some ++ rest, ?_⟩
  rw [given, ← List.append_assoc, ← List.map_append, List.take_append_drop]

theorem Filled.apart (filled : Filled base b bytes room after) (holds : Holds base i input) :
    b ≠ i := by
  rintro rfl
  obtain ⟨rest, given⟩ := holds
  rw [filled.fresh] at given
  cases given

theorem Filled.here (filled : Filled base b bytes room after) :
    after b = some (bytes.map some ++ List.replicate room none) := by
  rw [filled.block, Function.update_self]

theorem Filled.holds (filled : Filled base b bytes room after) : Holds after b bytes :=
  ⟨_, filled.here⟩

theorem Filled.keeps (filled : Filled base b bytes room after) (holds : Holds base i input) :
    Holds after i input := by
  have other := filled.apart holds
  obtain ⟨rest, given⟩ := holds
  exact ⟨rest, by rw [filled.block, Function.update_of_ne (Ne.symm other), given]⟩

/-- Of two new blocks either may be taken for the first. -/
theorem Filled.swap (first : Filled base b bytes room after)
    (second : Filled after c more left last) :
    ∃ between, Filled base c more left between ∧ Filled between b bytes room last := by
  have other : c ≠ b := second.apart first.holds
  have fresh := second.fresh
  rw [first.block, Function.update_of_ne other] at fresh
  refine ⟨_, ⟨fresh, rfl⟩, ?_, ?_⟩
  · rw [Function.update_of_ne (Ne.symm other), first.fresh]
  · rw [second.block, first.block, Function.update_comm other]

theorem malloc_filled {size : ℕ} {post : Pointer → Memory UInt8 → Prop}
    (h : ∀ b m', Filled (live m) b [] size (live m') → post (.address b 0) m') :
    Ensures (malloc true size) m post :=
  .malloc fun b m' fresh allocated => h b m' ⟨fresh, allocated⟩

theorem free_filled (temp : Filled base b bytes room (live m)) :
    Ensures (free (.address b 0)) m (fun _ m' => live m' = base) := by
  refine .free temp.here fun m' freed => ?_
  rw [freed, temp.block, Function.update_idem, ← temp.fresh, Function.update_eq_self]

/-- A buffer is freed that is older than another one. -/
theorem free_older (older : Filled base b bytes room after)
    (filled : Filled after c more left (live m)) :
    Ensures (free (.address b 0)) m (fun _ m' => Filled base c more left (live m')) := by
  obtain ⟨between, swapped, temp⟩ := older.swap filled
  exact (free_filled temp).mono fun _ _ same => same ▸ swapped

/-- A buffer that was only needed on the way is freed, and nobody has freed it before. -/
theorem Gives.release (gives : Gives after out r m) (temp : Filled base b bytes room after) :
    Ensures (free (.address b 0)) m (fun _ m' => Gives base out r m') := by
  unfold Gives at gives ⊢
  split at gives
  · obtain ⟨rfl, size, same⟩ := gives
    exact (free_filled (same ▸ temp)).mono fun _ _ freed => ⟨rfl, size, freed⟩
  · obtain ⟨b', rfl, size, filled⟩ := gives
    exact (free_older temp filled).mono fun _ _ filled => ⟨b', rfl, size, filled⟩

/-- A copy behind what the block has already. -/
theorem append_part {part : Bytes} (filled : Filled base b bytes (part.length + room) (live m))
    (holds : Holds base i part) :
    Ensures (memcpy (.address b bytes.length) (.address i 0) part.length) m
      (fun _ m' => Filled base b (bytes ++ part) room (live m')) := by
  obtain ⟨rest, source⟩ := filled.keeps holds
  have block : live m b = some
      (bytes.map some ++ List.replicate part.length none ++ List.replicate room none) := by
    rw [filled.here, List.append_assoc, ← List.replicate_add]
  have length (l : Bytes) : l.length = (l.map some).length := (List.length_map some).symm
  rw [length part, length bytes]
  refine .memcpy _ _ _ _ _ (filled.apart holds) block source rfl
    (by rw [List.length_map, List.length_replicate]) fun m' copied => ⟨filled.fresh, ?_⟩
  rw [copied, filled.block, Function.update_idem, List.map_append]

theorem copy_start (size room : ℕ) (filled : Filled base b [] (size + room) (live m))
    (fits : size ≤ input.length) (holds : Holds base i input) :
    Ensures (memcpy (.address b 0) (.address i 0) size) m
      (fun _ m' => Filled base b (input.take size) room (live m')) := by
  have length : (input.take size).length = size := by
    rw [List.length_take, Nat.min_eq_left fits]
  have copy := append_part (by rwa [length]) (holds.take size)
  rwa [length] at copy

theorem fill_start {target : ℕ} {full : Bytes} (filled : Filled base b [] target (live m))
    (holds : Holds base i input) (loop : fillLoop input target rounds [] = some full) :
    Ensures (fill (.address b 0) target (.address i 0) input.length rounds 0) m
      (fun n m' => n = full.length ∧ Filled base b full 0 (live m')) := by
  obtain ⟨rest, source⟩ := filled.keeps holds
  refine .fill [] _ rest (filled.apart holds) filled.here (by simp) source loop
    fun m' done => ⟨rfl, filled.fresh, ?_⟩
  rw [done, filled.block, Function.update_idem, List.replicate_zero, List.append_nil]

theorem set_rest (value : UInt8) (filled : Filled base b bytes room (live m)) :
    Ensures (memset (.address b bytes.length) value room) m
      (fun _ m' => Filled base b (bytes ++ List.replicate room value) 0 (live m')) := by
  have block : live m b = some (bytes.map some ++ List.replicate room none ++ []) := by
    rw [filled.here, List.append_nil]
  refine .memset _ _ _ block (List.length_map some).symm List.length_replicate.symm
    fun m' set => ⟨filled.fresh, ?_⟩
  rw [set, filled.block, Function.update_idem, List.map_append, List.map_replicate,
    List.replicate_zero]

theorem store_start {size : ℕ} (filled : Filled base b [] size (live m))
    (fits : bytes.length ≤ size) :
    Ensures (store (.address b 0) bytes) m
      (fun _ m' => Filled base b bytes (size - bytes.length) (live m')) := by
  have block : live m = Function.update base b (some
      (List.replicate bytes.length none ++ List.replicate (size - bytes.length) none)) := by
    rw [filled.block, ← List.replicate_add, Nat.add_sub_cancel' fits]
    rfl
  refine .store _ _ (by rw [block, Function.update_self]) List.length_replicate.symm ?_
  exact fun m' stored => ⟨filled.fresh, by rw [stored, block, Function.update_idem]⟩

theorem normalizeOutputSize_gives (given : Bool) (holds : Holds (live m) i input)
    (h : FuzzerCore.normalizeOutputSize rounds given input input.length = some out) :
    Ensures (normalizeOutputSize rounds given (.address i 0) input.length) m
      (Gives (live m) out) := by
  simp only [FuzzerCore.normalizeOutputSize, target_eq] at h
  simp only [normalizeOutputSize, target_eq]
  cases given
  · simp only [Bool.false_eq_true, if_false, ite_self, Option.some.injEq] at h
    subst h
    split_ifs
    all_goals exact .bind (.refused (.pure ⟨rfl, rfl, rfl⟩))
  · simp only [if_true, List.take_length] at h
    split_ifs at h ⊢ with inside short
    · cases h
      refine .bind (malloc_filled fun b m' new => ?_)
      refine .bind ((copy_start _ 0 new le_rfl holds).mono fun _ _ copied => .pure ?_)
      rw [List.take_length] at copied
      exact ⟨b, rfl, rfl, copied⟩
    · obtain ⟨full, loop, rfl⟩ := Option.map_eq_some_iff.mp h
      refine .bind (malloc_filled fun b m' new => ?_)
      refine .bind ((fill_start new holds loop).mono fun n _ done => .pure ?_)
      obtain ⟨rfl, filled⟩ := done
      exact ⟨b, rfl, rfl, filled⟩
    · cases h
      refine .bind (malloc_filled fun b m' new => ?_)
      have size : maxBufferSize = (input.take maxBufferSize).length := by
        rw [List.length_take]
        omega
      exact .bind ((copy_start maxBufferSize 0 new (by omega) holds).mono
        fun _ _ copied => .pure ⟨b, by rw [← size], size, copied⟩)

theorem pass_gives (given : Bool) (holds : Holds (live m) i input) :
    Ensures (pass given (.address i 0) input.length) m
      (Gives (live m) (FuzzerVariants.pass given input)) := by
  cases given
  · exact .bind (.refused (.pure ⟨rfl, rfl, rfl⟩))
  · refine .bind (malloc_filled fun b m' new => ?_)
    refine .bind ((copy_start _ 0 new le_rfl holds).mono fun _ _ copied => .pure ?_)
    rw [List.take_length] at copied
    exact ⟨b, rfl, rfl, copied⟩

theorem repeatInput_gives (given : Bool) (holds : Holds (live m) i input)
    (h : FuzzerCore.repeatInput rounds given input = some out) :
    Ensures (repeatInput rounds given (.address i 0) input.length) m (Gives (live m) out) := by
  cases given
  · cases h
    exact .bind (.refused (.pure ⟨rfl, rfl, rfl⟩))
  · obtain ⟨full, loop, rfl⟩ := Option.map_eq_some_iff.mp h
    refine .bind (malloc_filled fun b m' new => ?_)
    have size := fillLoop_length loop (Nat.zero_le _)
    exact .bind ((fill_start new holds loop).mono
      fun _ _ done => .pure ⟨b, by rw [size], size.symm, done.2⟩)

theorem runRadamsa_gives (call : RadamsaCall) (holds : Holds (live m) i input)
    (h : FuzzerCore.runRadamsa rounds call input = some out) :
    Ensures (runRadamsa rounds call (.address i 0) input.length) m (Gives (live m) out) := by
  simp only [FuzzerCore.runRadamsa] at h
  unfold runRadamsa
  by_cases pipes : call.inPipe = false ∨ call.outPipe = false
  · rw [if_pos pipes] at h ⊢
    cases h
    exact .pure ⟨rfl, rfl, rfl⟩
  by_cases fork : call.fork = false
  · rw [if_neg pipes, if_pos fork] at h ⊢
    cases h
    exact .pure ⟨rfl, rfl, rfl⟩
  rw [if_neg pipes, if_neg fork] at h ⊢
  obtain ⟨rest, source⟩ := holds
  refine .bind (.load source ?_)
  cases given : call.tempBuf
  · rw [if_pos given] at h
    cases h
    exact .bind (.refused (.pure ⟨rfl, rfl, rfl⟩))
  rw [if_neg (by rw [given]; decide)] at h
  have fits : (call.read input).length ≤ maxBufferSize := by
    rw [RadamsaCall.read, List.length_take]
    omega
  refine .bind (malloc_filled fun t m₁ new => ?_)
  refine .bind ((store_start new fits).mono fun _ m₂ temp => ?_)
  by_cases silent : call.read input = []
  · rw [if_pos silent] at h ⊢
    cases h
    exact .bind ((free_filled temp).mono fun _ _ same => .pure ⟨rfl, rfl, same⟩)
  · rw [if_neg silent] at h ⊢
    refine .bind ((normalizeOutputSize_gives _ temp.holds h).mono fun r m₃ gives => ?_)
    exact .bind ((gives.release temp).mono fun _ _ => .pure)

theorem runRadamsaExpanded_gives (call : FuzzCall) (holds : Holds (live m) i input)
    (h : FuzzerCore.runRadamsaExpanded rounds call input = some out) :
    Ensures (runRadamsaExpanded rounds call (.address i 0) input.length) m
      (Gives (live m) out) := by
  obtain ⟨first, hfirst, h⟩ := Option.bind_eq_some_iff.mp h
  refine .bind ((runRadamsa_gives call.radamsa holds hfirst).mono fun r m₁ gives => ?_)
  rcases runRadamsa_inRange hfirst with rfl | ⟨bytes, rfl, low, -⟩
  · obtain ⟨rfl, -, same⟩ := gives
    refine .bind (.pure ?_)
    rw [← same] at holds ⊢
    exact repeatInput_gives call.expanded holds h
  · obtain ⟨b, rfl, -, temp⟩ := gives
    have positive : bytes.length ≠ 0 := by
      simp only [minOutputSize, batch] at low
      omega
    simp only [positive, if_false, low, if_true] at h
    simp only [positive, reduceCtorEq, or_self, if_false, low, if_true]
    refine .bind ((normalizeOutputSize_gives _ temp.holds h).mono fun r m₂ gives => ?_)
    exact .bind ((gives.release temp).mono fun _ _ => .pure)

theorem guidedFuzzing_gives (given : Bool) (holds : Holds (live m) i input) :
    Ensures (guidedFuzzing given (.address i 0) input.length) m
      (Gives (live m) (FuzzerVariants.guidedFuzzing given input)) := by
  unfold guidedFuzzing
  have named : FuzzerVariants.guidedFuzzing given input =
      let target := if input.length < minOutputSize then minOutputSize
        else if input.length > maxBufferSize then maxBufferSize else input.length
      if given then ⟨some (input.take (min input.length target) ++
        List.replicate (target - min input.length target) 0), target⟩ else nullptr := rfl
  rw [named]
  generalize (if input.length < minOutputSize then minOutputSize
    else if input.length > maxBufferSize then maxBufferSize else input.length) = target
  cases given
  · exact .bind (.refused (.pure ⟨rfl, rfl, rfl⟩))
  · refine .bind (malloc_filled fun b m' new => ?_)
    have parts : target = min input.length target + (target - min input.length target) := by omega
    have new : Filled (live m) b [] (min input.length target + (target - min input.length target))
        (live m') := parts ▸ new
    refine .bind ((copy_start _ _ new (by omega) holds).mono fun _ m₁ copied => ?_)
    have size : (input.take (min input.length target)).length = min input.length target := by
      rw [List.length_take]
      omega
    by_cases padded : min input.length target < target
    · simp only [padded, if_true]
      have rest := set_rest 0 copied
      rw [size] at rest
      rw [Pointer.advance, Nat.zero_add]
      have whole : target = (input.take (min input.length target) ++
          List.replicate (target - min input.length target) 0).length := by
        rw [List.length_append, size, List.length_replicate]
        exact parts
      exact .bind (rest.mono fun _ _ full => .pure ⟨b, by rw [← whole], whole, full⟩)
    · have full : target - min input.length target = 0 := by omega
      rw [full] at copied
      simp only [padded, if_false]
      rw [full, List.replicate_zero, List.append_nil]
      have whole : target = (input.take (min input.length target)).length := by omega
      exact .bind (.pure (.pure ⟨b, by rw [← whole], whole, copied⟩))

end Cezfuzzer.FuzzerMemory
