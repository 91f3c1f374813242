import Cezfuzzer.FuzzerBuffers
import Cezfuzzer.UDPForwarding

set_option autoImplicit false

/-!
# The payload of a forwarded datagram

The datagram comes first and is followed by the endless repetition of what radamsa has
answered, or of the datagram itself, up to one byte less than the array on the stack has.
-/
namespace Cezfuzzer.UDPPayload
open CyclicFill LengthPrefix FuzzerCore BlockMemory FuzzerMemory FuzzerBuffers UDPRelay
open UDPForwarding

/-- The same statements stand in `recvThreadEntry` and in `sendThreadEntry`, from the call of
    the fuzzer to the end of the round. `_UDPPayload` is a block that ends with its scope; the
    value is what `sendto` reads from it. -/
def forwardPayload (rounds : ℕ) (call : FuzzCall) (buffer : Pointer) (len : ℕ) :
    Program UInt8 Bytes := do
  let (fuzzedBuf, fuzzedSize) ← FuzzerMemory.postFuzzing rounds call buffer len
  let payload ← malloc true maxUDPPayloadSize
  memset payload 0 maxUDPPayloadSize
  let payloadSize :=
    if fuzzedSize > maxUDPPayloadSize - 1 then maxUDPPayloadSize - 1 else fuzzedSize
  memcpy payload fuzzedBuf payloadSize
  let sent ← load payload payloadSize
  free fuzzedBuf
  free payload
  pure sent

/-- What is repeated behind the datagram. -/
def repeatedPart (call : FuzzCall) (d : Bytes) : Bytes :=
  if answer call.radamsa d = [] then d else answer call.radamsa d

theorem fuzz_take {call : FuzzCall} {d : Bytes} (nonempty : d ≠ []) {n : ℕ}
    (short : n ≤ minOutputSize) : (fuzz call d).take n = repeated (repeatedPart call d) n := by
  unfold fuzz repeatedPart
  split
  · exact repeated_take nonempty short
  · unfold clamped
    split
    · exact repeated_take (by assumption) short
    · have low : minOutputSize ≤ maxBufferSize := by decide
      rw [List.take_take, Nat.min_eq_left (by omega), repeated_cut (by omega)]

theorem repeatedPart_nonempty {call : FuzzCall} {d : Bytes} (nonempty : d ≠ []) :
    repeatedPart call d ≠ [] := by
  unfold repeatedPart
  split <;> assumption

theorem take_payload (call : FuzzCall) {d : Bytes} (nonempty : d ≠ []) (fits : d.length ≤ 4096) :
    (d ++ fuzz call d).take (maxUDPPayloadSize - 1) =
      d ++ repeated (repeatedPart call d) (maxUDPPayloadSize - 1 - d.length) := by
  have short : maxUDPPayloadSize - 1 ≤ minOutputSize := by decide
  have room : 4096 ≤ maxUDPPayloadSize - 1 := by decide
  rw [List.take_append, List.take_of_length_le (by omega), fuzz_take nonempty (by omega)]

/-- A copy over cells that have been written before. -/
theorem overwrite_start {base : Blocks} {m : Memory UInt8} {b i size room : ℕ}
    {bytes input : Bytes} (filled : Filled base b bytes room (live m))
    (fits : size ≤ bytes.length) (enough : size ≤ input.length) (holds : Holds base i input) :
    Ensures (memcpy (.address b 0) (.address i 0) size) m
      (fun _ m' => Filled base b (input.take size ++ bytes.drop size) room (live m')) := by
  obtain ⟨rest, source⟩ := (filled.keeps holds).take size
  have length : ((input.take size).map some).length = size := by
    rw [List.length_map, List.length_take, Nat.min_eq_left enough]
  have block : live m b = some ([] ++ (bytes.take size).map some ++
      ((bytes.drop size).map some ++ List.replicate room none)) := by
    rw [filled.here, List.nil_append, ← List.append_assoc, ← List.map_append,
      List.take_append_drop]
  rw [← length]
  refine .memcpy _ _ _ _ _ (filled.apart holds) block source rfl ?_ fun m' copied =>
    ⟨filled.fresh, ?_⟩
  · rw [length, List.length_map, List.length_take, Nat.min_eq_left fits]
  · rw [copied, filled.block, Function.update_idem, length, List.nil_append, List.map_append,
      List.append_assoc]

theorem forwardPayload_sends {m : Memory UInt8} {b rounds : ℕ} {call : FuzzCall}
    {d bytes : Bytes} (small : d.length < 9223372036854775808) (holds : Holds (live m) b d)
    (h : FuzzerCore.postFuzzing rounds call d = some ⟨some bytes, bytes.length⟩)
    (long : maxUDPPayloadSize - 1 < bytes.length) :
    Ensures (forwardPayload rounds call (.address b 0) d.length) m (fun sent m' =>
      sent = bytes.take (maxUDPPayloadSize - 1) ∧ live m' = live m) := by
  refine .bind ((postFuzzing_gives small call holds h).mono fun r m₁ gives => ?_)
  obtain ⟨f, rfl, -, fuzzed⟩ := gives
  simp only [gt_iff_lt, long, if_true]
  refine .bind (malloc_filled fun p m₂ new => ?_)
  refine .bind ((set_rest 0 new).mono fun _ m₃ zeroed => ?_)
  rw [List.nil_append] at zeroed
  have below : maxUDPPayloadSize - 1 ≤ maxUDPPayloadSize := Nat.sub_le _ _
  refine .bind ((overwrite_start zeroed (by rwa [List.length_replicate]) long.le
    fuzzed.holds).mono fun _ m₄ copied => ?_)
  have size : (bytes.take (maxUDPPayloadSize - 1)).length = maxUDPPayloadSize - 1 := by
    rw [List.length_take, Nat.min_eq_left long.le]
  have read := copied.here
  rw [List.map_append, List.append_assoc] at read
  refine .bind ?_
  rw [← size]
  refine .load read ?_
  refine .bind ((free_older fuzzed copied).mono fun _ m₅ payload => ?_)
  exact .bind ((free_filled payload).mono fun _ _ freed => .pure ⟨by rw [size], freed⟩)

/-- The payload that a thread of the relay hands to `sendto`: always 65499 bytes, and on the
    way no copy leaves its buffer and nothing is left allocated. -/
theorem payload_exact (m : Memory UInt8) (b rounds : ℕ) (call : FuzzCall) (d : Bytes)
    (unused : Cells UInt8) (enough : minOutputSize < rounds) (allocates : Allocates call)
    (nonempty : d ≠ []) (fits : d.length ≤ 4096)
    (received : live m b = some (d.map some ++ unused)) :
    Ensures (forwardPayload rounds call (.address b 0) d.length) m (fun sent m' =>
      sent = d ++ repeated (repeatedPart call d) (65499 - d.length) ∧ sent.length = 65499 ∧
        live m' = live m) ∧
    udpPayload call d = d ++ repeated (repeatedPart call d) (65499 - d.length) := by
  have limit : maxUDPPayloadSize - 1 = 65499 := rfl
  have content := take_payload call nonempty fits
  rw [limit] at content
  refine ⟨?_, by rw [udpPayload_eq allocates nonempty, limit, content]⟩
  obtain ⟨size, h, rfl⟩ := postFuzzing_eq allocates enough (Or.inl nonempty)
  have low := fuzz_length (Or.inl nonempty : d ≠ [] ∨ answer call.radamsa d ≠ [])
  have limits : maxUDPPayloadSize - 1 < minOutputSize ∧ minOutputSize ≤ maxBufferSize := by decide
  have long : maxUDPPayloadSize - 1 < ((d ++ fuzz call d).take maxBufferSize).length := by
    rw [List.length_take, List.length_append]
    omega
  refine (forwardPayload_sends (by omega) ⟨unused, received⟩ h long).mono fun sent m' done => ?_
  obtain ⟨rfl, same⟩ := done
  rw [List.take_take, Nat.min_eq_left (by omega), limit, content]
  refine ⟨rfl, ?_, same⟩
  rw [List.length_append, repeated_length (repeatedPart_nonempty nonempty)]
  omega

/-- Three bytes in a buffer of five, with another answer. -/
theorem threeBytes_payload : ∃ sent m', forwardPayload (minOutputSize + 1) (answering [7, 8])
      (.address 0 0) 3 [some [some 1, some 2, some 3, none, none]] = .ok (sent, m') ∧
    sent = [1, 2, 3] ++ repeated (repeatedPart (answering [7, 8]) [1, 2, 3]) 65496 := by
  obtain ⟨sent, m', run, same, -, -⟩ := (payload_exact
    [some [some 1, some 2, some 3, none, none]] 0 (minOutputSize + 1) (answering [7, 8])
    [1, 2, 3] [none, none] (Nat.lt_succ_self _) (answering_allocates _) (by simp) (by simp)
    rfl).1
  exact ⟨sent, m', run, same⟩

end Cezfuzzer.UDPPayload
