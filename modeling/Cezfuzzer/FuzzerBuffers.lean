import Cezfuzzer.FuzzerMemory

set_option autoImplicit false

/-!
# The buffers of the fuzzing functions

The functions that join the input with fuzz hold two or three buffers at a time. Each of
them leaves at most the one that it returns.
-/
namespace Cezfuzzer.FuzzerBuffers
open LengthPrefix FuzzerCore FuzzerVariants BlockMemory FuzzerMemory

variable {base after last : Blocks} {m : Memory UInt8} {c i rounds room : ℕ}
  {input bytes more : Bytes} {out : Buffer} {r : Result} {p q : Pointer}

/-- The sizes of real buffers do not overflow when they are added. -/
theorem sizeSum_eq {a b : ℕ} (small : a + b < 18446744073709551616) : sizeSum a b = a + b :=
  Nat.mod_eq_of_lt small

theorem copyBoth_fills {first second : Bytes} {x y : ℕ}
    (new : Filled base c [] (first.length + second.length) (live m))
    (holds : Holds base x first) (holds' : Holds base y second) :
    Ensures (copyBoth (.address c 0) (.address x 0) first.length (.address y 0) second.length) m
      (fun _ m' => Filled base c (first ++ second) 0 (live m')) := by
  refine .bind ((append_part new holds).mono fun _ m' half => ?_)
  rw [Pointer.advance, Nat.zero_add]
  exact append_part half holds'

theorem joinedFuzzing_gives {join : Bytes → Bytes → Bytes}
    {copy : Pointer → Pointer → ℕ → Program UInt8 Unit}
    (sizes : ∀ fuzz, (join input fuzz).length = input.length + fuzz.length)
    (copies : ∀ {base m c f fuzz}, Filled base c [] (input.length + fuzz.length) (live m) →
      Holds base i input → Holds base f fuzz →
      Ensures (copy (.address c 0) (.address f 0) fuzz.length) m
        (fun _ m' => Filled base c (join input fuzz) 0 (live m')))
    (small : input.length < 9223372036854775808) (call : FuzzCall)
    (holds : Holds (live m) i input)
    (h : FuzzerVariants.joinedFuzzing join rounds call input = some out) :
    Ensures (FuzzerMemory.joinedFuzzing copy rounds call (.address i 0) input.length) m
      (Gives (live m) out) := by
  obtain ⟨fuzz, hfuzz, h⟩ := Option.bind_eq_some_iff.mp h
  refine .bind ((runRadamsaExpanded_gives call holds hfuzz).mono fun r m₁ gives => ?_)
  rcases runRadamsaExpanded_inRange hfuzz with rfl | ⟨bytes, rfl, low, high⟩
  · obtain ⟨rfl, -, same⟩ := gives
    rw [← same] at holds ⊢
    have outcome : FuzzerVariants.pass call.combined input = out := by
      cases hc : call.combined <;> simpa [hc, FuzzerVariants.pass, nullptr] using h
    exact outcome ▸ pass_gives call.combined holds
  · obtain ⟨f, rfl, -, temp⟩ := gives
    have sum : sizeSum input.length bytes.length = input.length + bytes.length := by
      refine sizeSum_eq ?_
      simp only [maxBufferSize, batch] at high
      omega
    simp only [reduceCtorEq, if_false, sum]
    cases hc : call.combined
    · simp only [hc, Bool.false_eq_true, if_false, Option.some.injEq] at h
      subst h
      refine .bind (.refused ?_)
      exact .bind ((free_filled temp).mono fun _ _ same => .pure ⟨rfl, rfl, same⟩)
    · simp only [hc, if_true, List.take_length, ← sizes] at h
      refine .bind (malloc_filled fun c m₂ new => ?_)
      refine .bind ((copies new (temp.keeps holds) temp.holds).mono fun _ m₃ both => ?_)
      refine .bind ((free_older temp both).mono fun _ m₄ combined => ?_)
      rw [← sizes]
      refine .bind ((normalizeOutputSize_gives _ combined.holds h).mono fun r m₅ gives => ?_)
      exact .bind ((gives.release combined).mono fun _ _ => .pure)

theorem postFuzzing_gives (small : input.length < 9223372036854775808) (call : FuzzCall)
    (holds : Holds (live m) i input)
    (h : FuzzerCore.postFuzzing rounds call input = some out) :
    Ensures (FuzzerMemory.postFuzzing rounds call (.address i 0) input.length) m
      (Gives (live m) out) :=
  joinedFuzzing_gives (fun _ => List.length_append) (fun new holds holds' =>
    copyBoth_fills new holds holds') small call holds h

theorem preFuzzing_gives (small : input.length < 9223372036854775808) (call : FuzzCall)
    (holds : Holds (live m) i input)
    (h : FuzzerVariants.preFuzzing rounds call input = some out) :
    Ensures (FuzzerMemory.preFuzzing rounds call (.address i 0) input.length) m
      (Gives (live m) out) :=
  joinedFuzzing_gives (fun _ => by rw [List.length_append, Nat.add_comm])
    (fun new holds holds' => copyBoth_fills (by rwa [Nat.add_comm]) holds' holds)
    small call holds h

/-- A null pointer, or a new block with at least one byte. -/
def Taken (base : Blocks) (p : Pointer) (bytes : Bytes) (after : Blocks) : Prop :=
  p = .null ∧ bytes = [] ∧ after = base ∨
    ∃ b, p = .address b 0 ∧ bytes ≠ [] ∧ Filled base b bytes 0 after

theorem Taken.keeps (taken : Taken base p bytes after) (holds : Holds base i input) :
    Holds after i input := by
  rcases taken with ⟨-, -, rfl⟩ | ⟨b, -, -, filled⟩
  · exact holds
  · exact filled.keeps holds

theorem Taken.of_null (taken : Taken base .null bytes after) : after = base := by
  rcases taken with ⟨-, -, same⟩ | ⟨b, null, -, -⟩
  · exact same
  · cases null

theorem Taken.swap (first : Taken base p bytes after) (second : Taken after q more last) :
    ∃ between, Taken base q more between ∧ Taken between p bytes last := by
  rcases first with ⟨rfl, rfl, rfl⟩ | ⟨b, rfl, some_bytes, filled⟩
  · exact ⟨last, second, Or.inl ⟨rfl, rfl, rfl⟩⟩
  · rcases second with ⟨rfl, rfl, rfl⟩ | ⟨b', rfl, some_more, filled'⟩
    · exact ⟨base, Or.inl ⟨rfl, rfl, rfl⟩, Or.inr ⟨b, rfl, some_bytes, filled⟩⟩
    · obtain ⟨between, swapped, swapped'⟩ := filled.swap filled'
      exact ⟨between, Or.inr ⟨b', rfl, some_more, swapped⟩,
        Or.inr ⟨b, rfl, some_bytes, swapped'⟩⟩

theorem free_taken (taken : Taken base p bytes (live m)) :
    Ensures (free p) m (fun _ m' => live m' = base) := by
  rcases taken with ⟨rfl, -, same⟩ | ⟨b, rfl, -, filled⟩
  · exact .pure same
  · exact free_filled filled

theorem free_taken_older (taken : Taken base p bytes after)
    (filled : Filled after c more room (live m)) :
    Ensures (free p) m (fun _ m' => Filled base c more room (live m')) := by
  rcases taken with ⟨rfl, -, rfl⟩ | ⟨b, rfl, -, older⟩
  · exact .pure filled
  · exact free_older older filled

/-- The bytes can be read from the pointer, unless there are none. -/
def Offers (base : Blocks) (p : Pointer) (bytes : Bytes) : Prop :=
  bytes = [] ∨ ∃ b, p = .address b 0 ∧ Holds base b bytes

theorem Taken.offers (taken : Taken base p bytes after) : Offers after p bytes :=
  taken.imp (fun h => h.2.1) (fun ⟨b, h, _, filled⟩ => ⟨b, h, filled.holds⟩)

theorem Taken.keeps_offers (taken : Taken base q more after) (offers : Offers base p bytes) :
    Offers after p bytes :=
  offers.imp_right fun ⟨b, h, holds⟩ => ⟨b, h, taken.keeps holds⟩

/-- The copy that is left out for a fuzz of length zero. -/
theorem append_offered {β : Type} (room : ℕ) {part : Bytes} {rest : Program UInt8 β}
    {post : β → Memory UInt8 → Prop}
    (filled : Filled base c bytes (part.length + room) (live m)) (offers : Offers base p part)
    (h : ∀ m', Filled base c (bytes ++ part) room (live m') → Ensures rest m' post) :
    Ensures (if 0 < part.length then do
        memcpy (.address c bytes.length) p part.length
        rest
      else rest) m post := by
  by_cases some_bytes : 0 < part.length
  · obtain ⟨b, rfl, holds⟩ := offers.resolve_left (List.length_pos_iff.mp some_bytes)
    rw [if_pos some_bytes]
    exact .bind ((append_part filled holds).mono fun _ m' => h m')
  · obtain rfl : part = [] := List.length_eq_zero_iff.mp (by omega)
    rw [if_neg some_bytes]
    refine h m ?_
    rwa [List.append_nil, ← Nat.zero_add room]

theorem gives_taken (gives : Gives base out r m) (range : InRange out) :
    Taken base r.1 (out.ptr.getD []) (live m) ∧ (r.1 = .null ↔ out.ptr = none) ∧
      (if r.1 = .null then 0 else r.2) = (out.ptr.getD []).length ∧
      fuzzSize out = (out.ptr.getD []).length := by
  rcases range with rfl | ⟨bytes, rfl, low, -⟩
  · obtain ⟨rfl, -, same⟩ := gives
    exact ⟨Or.inl ⟨rfl, rfl, same⟩, by simp [nullptr], rfl, rfl⟩
  · obtain ⟨b, rfl, -, filled⟩ := gives
    have some_bytes : bytes ≠ [] := by
      apply List.ne_nil_of_length_pos
      simp only [minOutputSize, batch] at low
      omega
    exact ⟨Or.inr ⟨b, rfl, some_bytes, filled⟩, by simp, by simp, by simp [fuzzSize]⟩

theorem getD_length_le (range : InRange out) : (out.ptr.getD []).length ≤ maxBufferSize := by
  rcases range with rfl | ⟨bytes, rfl, -, high⟩
  · exact Nat.zero_le _
  · exact high

theorem fullFuzzing_gives (small : input.length < 9223372036854775808) (call : FullCall)
    (holds : Holds (live m) i input)
    (h : FuzzerVariants.fullFuzzing rounds call input = some out) :
    Ensures (FuzzerMemory.fullFuzzing rounds call (.address i 0) input.length) m
      (Gives (live m) out) := by
  obtain ⟨fuzz1, hfuzz1, h⟩ := Option.bind_eq_some_iff.mp h
  obtain ⟨fuzz2, hfuzz2, h⟩ := Option.bind_eq_some_iff.mp h
  have high1 := getD_length_le (runRadamsaExpanded_inRange hfuzz1)
  have high2 := getD_length_le (runRadamsaExpanded_inRange hfuzz2)
  refine .bind ((runRadamsaExpanded_gives call.first holds hfuzz1).mono fun r1 m₁ gives1 => ?_)
  obtain ⟨taken1, null1, length1, size1⟩ := gives_taken gives1 (runRadamsaExpanded_inRange hfuzz1)
  have holds1 := taken1.keeps holds
  refine .bind ((runRadamsaExpanded_gives call.second holds1 hfuzz2).mono fun r2 m₂ gives2 => ?_)
  obtain ⟨taken2, null2, length2, size2⟩ := gives_taken gives2 (runRadamsaExpanded_inRange hfuzz2)
  have holds2 := taken2.keeps holds1
  simp only [length1, length2]
  simp only [size1, size2, List.take_length] at h
  by_cases both : fuzz1.ptr = none ∧ fuzz2.ptr = none
  · obtain ⟨none1, none2⟩ := both
    rw [if_pos ⟨none1, none2⟩] at h
    rw [if_pos ⟨null1.mpr none1, null2.mpr none2⟩]
    rw [null1.mpr none1] at taken1
    rw [null2.mpr none2] at taken2
    have same : live m₂ = live m := taken2.of_null.trans taken1.of_null
    have outcome : FuzzerVariants.pass call.second.combined input = out := by
      cases hc : call.second.combined <;> simpa [hc, FuzzerVariants.pass, nullptr] using h
    rw [← same, ← outcome]
    exact pass_gives call.second.combined holds2
  rw [if_neg both] at h
  rw [if_neg (fun nulls => both ⟨null1.mp nulls.1, null2.mp nulls.2⟩)]
  generalize fuzz1.ptr.getD [] = part1 at *
  generalize fuzz2.ptr.getD [] = part2 at *
  have sum : sizeSum (sizeSum part1.length input.length) part2.length =
      part1.length + input.length + part2.length := by
    simp only [maxBufferSize, batch] at high1 high2
    rw [sizeSum_eq (a := part1.length) (by omega), sizeSum_eq (by omega)]
  rw [sum]
  obtain ⟨between, second, first⟩ := taken1.swap taken2
  cases hc : call.second.combined
  · simp only [hc, Bool.false_eq_true, if_false, Option.some.injEq] at h
    subst h
    refine .bind (.refused (.bind ((free_taken first).mono fun _ m₃ left => ?_)))
    rw [← left] at second
    exact .bind ((free_taken second).mono fun _ _ same => .pure ⟨rfl, rfl, same⟩)
  · simp only [hc, if_true] at h
    refine .bind (malloc_filled fun c m₃ new => ?_)
    have offers1 := taken2.keeps_offers taken1.offers
    refine append_offered (input.length + part2.length) (by rwa [← Nat.add_assoc])
      offers1 fun m₄ one => ?_
    rw [Pointer.advance, Nat.zero_add, Pointer.advance]
    refine .bind ((append_part one holds2).mono fun _ m₅ two => ?_)
    rw [Nat.zero_add, ← List.length_append]
    refine append_offered 0 two taken2.offers fun m₆ three => ?_
    refine .bind ((free_taken_older first three).mono fun _ m₇ older => ?_)
    refine .bind ((free_taken_older second older).mono fun _ m₈ combined => ?_)
    rw [← List.length_append, ← List.length_append] at h
    rw [← List.length_append]
    refine .bind ((normalizeOutputSize_gives _ combined.holds h).mono fun r m₉ gives => ?_)
    exact .bind ((gives.release combined).mono fun _ _ => .pure)

/-- The program runs without a fault: every copy stays inside live blocks and nothing is freed
    twice. It ends with a null pointer and size 0, or with a new block of as many cells as the
    size says, all of them written; every other block is as it was before. -/
def Agrees (m : Memory UInt8) (prog : Program UInt8 Result) : Prop :=
  Ensures prog m (fun r m' =>
    r = (.null, 0) ∧ live m' = live m ∨
    ∃ b, ∃ bytes : Bytes, r = (.address b 0, bytes.length) ∧ live m b = none ∧
      live m' = Function.update (live m) b (some (bytes.map some)))

theorem agrees_of_gives {prog : Program UInt8 Result}
    (gives : Ensures prog m (Gives (live m) out)) : Agrees m prog := by
  refine gives.mono fun r m' h => ?_
  unfold Gives at h
  split at h
  · exact Or.inl ⟨h.1, h.2.2⟩
  · obtain ⟨b, rfl, -, filled⟩ := h
    refine Or.inr ⟨b, _, rfl, filled.fresh, ?_⟩
    rw [filled.block, List.replicate_zero, List.append_nil]

/-- Whatever fails on the way, the pointer, the size and the memory agree. -/
theorem buffers_agree (m : Memory UInt8) (i rounds : ℕ) (input : Bytes) (radamsa : RadamsaCall)
    (call : FuzzCall) (full : FullCall) (given : Bool) (enough : minOutputSize < rounds)
    (holds : live m i = some (input.map some)) (nonempty : input ≠ [])
    (small : input.length < 9223372036854775808) :
    Agrees m (FuzzerMemory.runRadamsa rounds radamsa (.address i 0) input.length) ∧
    Agrees m (FuzzerMemory.runRadamsaExpanded rounds call (.address i 0) input.length) ∧
    Agrees m (FuzzerMemory.normalizeOutputSize rounds given (.address i 0) input.length) ∧
    Agrees m (FuzzerMemory.postFuzzing rounds call (.address i 0) input.length) ∧
    Agrees m (FuzzerMemory.preFuzzing rounds call (.address i 0) input.length) ∧
    Agrees m (FuzzerMemory.fullFuzzing rounds full (.address i 0) input.length) ∧
    Agrees m (FuzzerMemory.guidedFuzzing given (.address i 0) input.length) ∧
    Agrees m (FuzzerMemory.pass given (.address i 0) input.length) := by
  have holds : Holds (live m) i input := ⟨[], by rw [holds, List.append_nil]⟩
  obtain ⟨_, hradamsa⟩ := runRadamsa_total radamsa input enough
  obtain ⟨_, hexpanded⟩ := runRadamsaExpanded_total call nonempty enough
  have copies : input.take input.length ≠ [] ∨ minOutputSize ≤ input.length :=
    Or.inl (by rwa [List.take_length])
  obtain ⟨_, hnormalized⟩ := normalizeOutputSize_total given enough copies
  obtain ⟨_, hpost⟩ := postFuzzing_total call nonempty enough
  obtain ⟨_, hpre⟩ := joinedFuzzing_fills (fun input fuzz => fuzz ++ input)
    (Or.inl nonempty : Fills call input) enough
  obtain ⟨_, hfull⟩ := fullFuzzing_fills (Or.inl nonempty : Fills full.first input)
    (Or.inl nonempty) enough
  exact ⟨agrees_of_gives (runRadamsa_gives radamsa holds hradamsa),
    agrees_of_gives (runRadamsaExpanded_gives call holds hexpanded),
    agrees_of_gives (normalizeOutputSize_gives given holds hnormalized),
    agrees_of_gives (postFuzzing_gives small call holds hpost),
    agrees_of_gives (preFuzzing_gives small call holds hpre),
    agrees_of_gives (fullFuzzing_gives small full holds hfull),
    agrees_of_gives (guidedFuzzing_gives given holds),
    agrees_of_gives (pass_gives given holds)⟩

/-- Three bytes in a memory with nothing else; the expansion of the first answer gets no
    memory. -/
theorem threeBytes_agrees : Agrees [some [some 1, some 2, some 3]]
    (FuzzerMemory.fullFuzzing (minOutputSize + 1)
      ⟨{ answering [7, 8] with expanded := false }, answering [9]⟩ (.address 0 0) 3) :=
  (buffers_agree [some [some 1, some 2, some 3]] 0 (minOutputSize + 1) [1, 2, 3] echo.radamsa
    (answering [7, 8]) ⟨{ answering [7, 8] with expanded := false }, answering [9]⟩ true
    (Nat.lt_succ_self _) rfl (by simp) (by simp)).2.2.2.2.2.1

end Cezfuzzer.FuzzerBuffers
