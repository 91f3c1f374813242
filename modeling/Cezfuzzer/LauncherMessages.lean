import Mathlib.Tactic.Cases
import Cezfuzzer.LengthPrefix

set_option autoImplicit false

/-!
# The messages of the launchers

`Messages.h`, the comparisons that recognise them, and the frames that the two programs
put into their messages. Buffers are read as C strings; a byte past the message is zero,
since every receiving loop clears its buffer first.
-/
namespace Cezfuzzer.LauncherMessages
open LengthPrefix

/-- `START`, `RESTART` and `CRASH`, without the terminating zero. -/
def START : Bytes := [83, 84, 65, 82, 84]
def RESTART : Bytes := [82, 69, 83, 84, 65, 82, 84]
def CRASH : Bytes := [67, 82, 65, 83, 72]

/-- `strncmp(a, b, n) == 0` -/
def strncmpEq : ℕ → Bytes → Bytes → Bool
  | 0, _, _ => true
  | n + 1, a, b =>
    if a.headD 0 ≠ b.headD 0 then false
    else if a.headD 0 = 0 then true
    else strncmpEq n a.tail b.tail

theorem strncmpEq_head (n : ℕ) (a b : Bytes) (h : a.headD 0 ≠ b.headD 0) :
    strncmpEq (n + 1) a b = false := by
  rw [strncmpEq, if_pos h]

inductive Command where
  | start | restart
  deriving DecidableEq, Repr

/-- The two tests of `multiplex_message`; `sizeof` counts the terminating zero. -/
def multiplexMessage (buffer : Bytes) : Option Command :=
  if strncmpEq 6 buffer START then some .start
  else if strncmpEq 8 buffer RESTART then some .restart
  else none

/-- The test of `handle_client_connection`; `strlen` does not count it. -/
def isCrash (buffer : Bytes) : Bool := strncmpEq 5 buffer CRASH

/-- What `strcpy` and `strcmp` see of a buffer. -/
def cString (buffer : Bytes) : Bytes := buffer.takeWhile (· ≠ 0)

theorem strncmpEq_cons (n : ℕ) (a b : UInt8) (as bs : Bytes) :
    strncmpEq (n + 1) (a :: as) (b :: bs) =
      if a ≠ b then false else if a = 0 then true else strncmpEq n as bs := rfl

/-- Up to and with its terminating zero a text is compared with the whole C string. -/
theorem strncmpEq_cString (text : Bytes) (letters : 0 ∉ text) (bytes : Bytes) :
    strncmpEq (text.length + 1) bytes text = true ↔ cString bytes = text := by
  induction text generalizing bytes with
  | nil =>
    cases bytes with
    | nil => simp [strncmpEq, cString]
    | cons b bytes => by_cases zero : b = 0 <;> simp [strncmpEq, cString, zero]
  | cons c text ih =>
    obtain ⟨first, rest⟩ := List.ne_and_not_mem_of_not_mem_cons letters
    cases bytes with
    | nil => simp [strncmpEq, cString, first]
    | cons b bytes =>
      rw [List.length_cons, strncmpEq_cons]
      by_cases zero : b = 0
      · simp [zero, first, cString]
      · have string : cString (b :: bytes) = b :: cString bytes := by simp [cString, zero]
        rw [string, List.cons.injEq, ← ih rest]
        by_cases same : b = c <;> simp [same, first.symm]

/-- Without the terminating zero it is compared with the start of the C string. -/
theorem strncmpEq_prefix (text : Bytes) (letters : 0 ∉ text) (bytes : Bytes) :
    strncmpEq text.length bytes text = true ↔ text <+: bytes := by
  induction text generalizing bytes with
  | nil => simp [strncmpEq]
  | cons c text ih =>
    obtain ⟨first, rest⟩ := List.ne_and_not_mem_of_not_mem_cons letters
    cases bytes with
    | nil => simp [strncmpEq, first]
    | cons b bytes =>
      rw [List.length_cons, strncmpEq_cons, List.cons_prefix_cons, ← ih rest]
      by_cases same : b = c
      · simp [same, first.symm]
      · simp [same, Ne.symm same]

/-- The text of an IPv4 address as `inet_ntoa` writes it: digits and dots, at most 15. -/
structure Address where
  text : Bytes
  dotted : ∀ b ∈ text, b = 46 ∨ 48 ≤ b ∧ b ≤ 57
  fits : text.length ≤ 15
  deriving DecidableEq

inductive Frame where
  | ip (client : Address)
  | start
  | restart
  | crash
  deriving DecidableEq

/-- The bytes handed to `send_message`. An address is sent as the whole `clientIP` field of
    64 bytes, of which `addNewClient` sets the first 16; `unset` stands for the others. -/
def Frame.payload (unset : Bytes) : Frame → Bytes
  | .ip a => a.text ++ List.replicate (16 - a.text.length) 0 ++ unset
  | .start => START
  | .restart => RESTART ++ [0]
  | .crash => CRASH

def Frame.command : Frame → Option Command
  | .start => some .start
  | .restart => some .restart
  | _ => none

def Frame.text : Frame → Bytes
  | .ip a => a.text
  | .start => START
  | .restart => RESTART
  | .crash => CRASH

theorem dotted_head (a : Address) (unset : Bytes) :
    ((Frame.ip a).payload unset).headD 0 ≤ 57 := by
  simp only [Frame.payload]
  cases h : a.text with
  | nil => simp [List.replicate_succ]
  | cons b rest =>
    have hb := a.dotted b (by simp [h])
    simp only [List.cons_append, List.headD_cons]
    rcases hb with rfl | hb
    · decide
    · exact hb.2

theorem address_head (a : Address) (unset : Bytes) (c : UInt8) (letter : 57 < c) :
    ((Frame.ip a).payload unset).headD 0 ≠ c := by
  intro eq
  have h := dotted_head a unset
  rw [eq] at h
  exact absurd letter (UInt8.not_lt.mpr h)

/-- A frame is acted on as the command it is, and an address is no command. -/
theorem multiplexMessage_payload (unset : Bytes) (f : Frame) :
    multiplexMessage (f.payload unset) = f.command := by
  cases f with
  | ip a =>
    have hs := strncmpEq_head 5 _ START (address_head a unset 83 (by decide))
    have hr := strncmpEq_head 7 _ RESTART (address_head a unset 82 (by decide))
    simp only [multiplexMessage, hs, hr, Frame.command, Bool.false_eq_true, if_false]
  | start | restart | crash => rfl

theorem isCrash_payload (unset : Bytes) (f : Frame) :
    isCrash (f.payload unset) = decide (f = .crash) := by
  cases f with
  | ip a =>
    have hc := strncmpEq_head 4 _ CRASH (address_head a unset 67 (by decide))
    simp only [isCrash, hc, reduceCtorEq, decide_false]
  | start | restart | crash => rfl

theorem cString_payload (unset : Bytes) (f : Frame) : cString (f.payload unset) = f.text := by
  cases f with
  | ip a =>
    have hfits := a.fits
    obtain ⟨n, hn⟩ : ∃ n, 16 - a.text.length = n + 1 := ⟨15 - a.text.length, by omega⟩
    have hne : ∀ b ∈ a.text, b ≠ 0 := by
      rintro b hb rfl
      rcases a.dotted 0 hb with h | h
      · exact absurd h (by decide)
      · exact absurd h.1 (by decide)
    simp only [cString, Frame.payload, Frame.text, hn, List.append_assoc]
    rw [List.takeWhile_append_of_pos (by simpa using hne)]
    simp [List.replicate_succ]
  | start | restart | crash => rfl

end Cezfuzzer.LauncherMessages
