import Mathlib.Data.List.Basic
import Mathlib.Data.Nat.Digits.Defs

set_option autoImplicit false

/-!
# Length-prefixed frames

A frame is the length of its message in a fixed number of little-endian bytes, then the
message. Reading is by position: the first bytes give the length of what follows.
-/
namespace Cezfuzzer.LengthPrefix

abbrev Bytes := List UInt8

/-- The memory of an unsigned word of `width` bytes, lowest byte first. -/
def wordBytes (width value : ℕ) : Bytes :=
  (List.range width).map (fun i => UInt8.ofNat (value / 256 ^ i))

def wordValue (bytes : Bytes) : ℕ := Nat.ofDigits 256 (bytes.map UInt8.toNat)

@[simp] theorem wordBytes_length (width value : ℕ) : (wordBytes width value).length = width := by
  simp [wordBytes]

theorem wordBytes_succ (width value : ℕ) :
    wordBytes (width + 1) value = UInt8.ofNat value :: wordBytes width (value / 256) := by
  simp only [wordBytes, List.range_succ_eq_map, List.map_cons, List.map_map, pow_zero,
    Nat.div_one]
  congr 1
  apply List.map_congr_left
  intro i _
  simp only [Function.comp_apply, Nat.succ_eq_add_one, Nat.pow_succ']
  rw [Nat.div_div_eq_div_mul]

theorem wordValue_wordBytes (width value : ℕ) (fits : value < 256 ^ width) :
    wordValue (wordBytes width value) = value := by
  induction width generalizing value with
  | zero =>
    have : value = 0 := by simpa using fits
    simp [wordBytes, wordValue, this]
  | succ width ih =>
    have hdiv : value / 256 < 256 ^ width := by
      rw [Nat.div_lt_iff_lt_mul (by omega)]
      simpa [pow_succ] using fits
    have hrest := ih (value / 256) hdiv
    simp only [wordValue] at hrest ⊢
    rw [wordBytes_succ, List.map_cons, Nat.ofDigits_cons, hrest]
    simp only [UInt8.toNat_ofNat']
    omega

theorem wordBytes_wordValue (bytes : Bytes) : wordBytes bytes.length (wordValue bytes) = bytes := by
  induction bytes with
  | nil => rfl
  | cons b bytes ih =>
    have small := b.toNat_lt
    have value : wordValue (b :: bytes) = b.toNat + 256 * wordValue bytes := by
      rw [wordValue, List.map_cons, Nat.ofDigits_cons]
      rfl
    have rest : (b.toNat + 256 * wordValue bytes) / 256 = wordValue bytes := by omega
    have first : UInt8.ofNat (b.toNat + 256 * wordValue bytes) = b := by
      apply UInt8.toNat_inj.mp
      rw [UInt8.toNat_ofNat']
      omega
    rw [List.length_cons, wordBytes_succ, value, rest, ih, first]

def frame (width : ℕ) (message : Bytes) : Bytes := wordBytes width message.length ++ message

theorem frame_length (width : ℕ) (message : Bytes) :
    (frame width message).length = width + message.length := by
  simp [frame]

end Cezfuzzer.LengthPrefix
