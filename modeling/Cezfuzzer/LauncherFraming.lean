import Cezfuzzer.LengthPrefix

set_option autoImplicit false

/-!
# `send_message` and `recv_message` of the launchers

The client's and the server's copies of the two functions are the same text. A `send` may
accept, and a `recv` may return, any positive part of what it is asked for; both functions
loop until they have the rest.
-/
namespace Cezfuzzer.LauncherFraming
open LengthPrefix

def maxMsgSize : ℕ := 4096

def sizeofSizeT : ℕ := 8

/-- A running `send_message`: what is left of the length, and what is left of the message. -/
structure SendCall where
  length : Bytes
  message : Bytes
  deriving DecidableEq, Repr

def sendMessage (message : Bytes) : SendCall :=
  ⟨wordBytes sizeofSizeT message.length, message⟩

def SendCall.done (c : SendCall) : Prop := c = ⟨[], []⟩

instance (c : SendCall) : Decidable c.done := inferInstanceAs (Decidable (c = _))

/-- One `send` call, of the first loop while the length is not out, else of the second:
    it accepts `n` of the bytes it is given. -/
def SendCall.send (c : SendCall) (n : ℕ) : Option (Bytes × SendCall) :=
  if c.length ≠ [] then
    if 1 ≤ n ∧ n ≤ c.length.length then
      some (c.length.take n, { c with length := c.length.drop n })
    else none
  else if 1 ≤ n ∧ n ≤ c.message.length then
    some (c.message.take n, { c with message := c.message.drop n })
  else none

/-- The reading end of a connection: the bytes still to come and the `recv` calls made. -/
structure Incoming where
  stream : Bytes
  calls : ℕ
  deriving DecidableEq, Repr

/-- One `recv` call that asks for `asked` bytes. `chunk` says how much each call would
    return; a call returns at least one byte and no more than asked or than there is. `none`
    is the end of the stream, a result of zero or less. -/
def recv (chunk : ℕ → ℕ) (asked : ℕ) (c : Incoming) : Option (Bytes × Incoming) :=
  if c.stream = [] then none
  else
    let n := max 1 (min (chunk c.calls) asked)
    some (c.stream.take n, ⟨c.stream.drop n, c.calls + 1⟩)

structure Filled where
  bytes : Bytes
  complete : Bool
  rest : Incoming
  deriving DecidableEq, Repr

/-- `while (bytes_received < total_bytes)`, with `asked` bytes to go. Every round brings a
    byte, so `asked` rounds are enough. -/
def recvLoop (chunk : ℕ → ℕ) : ℕ → ℕ → Incoming → Filled
  | 0, asked, c => ⟨[], asked == 0, c⟩
  | rounds + 1, asked, c =>
    if asked = 0 then ⟨[], true, c⟩
    else match recv chunk asked c with
      | none => ⟨[], false, c⟩
      | some (bytes, c') =>
        let more := recvLoop chunk rounds (asked - bytes.length) c'
        ⟨bytes ++ more.bytes, more.complete, more.rest⟩

/-- The result of `recv_message`: the length it returns, `none` for -1, and the bytes it has
    written at the start of the caller's buffer. -/
structure Received where
  ret : Option ℕ
  written : Bytes
  deriving DecidableEq, Repr

def recvMessage (chunk : ℕ → ℕ) (c : Incoming) : Received × Incoming :=
  let length := recvLoop chunk sizeofSizeT sizeofSizeT c
  if length.complete = false then (⟨none, []⟩, length.rest)
  else
    let len := wordValue length.bytes
    if len > maxMsgSize then (⟨none, []⟩, length.rest)
    else
      let body := recvLoop chunk len len length.rest
      if body.complete = false then (⟨none, body.bytes⟩, body.rest)
      else (⟨some len, body.bytes⟩, body.rest)

def Received.message (r : Received) : Option Bytes := r.ret.map (fun _ => r.written)

def recvMessages (chunk : ℕ → ℕ) : ℕ → Incoming → List Received × Incoming
  | 0, c => ([], c)
  | n + 1, c =>
    let first := recvMessage chunk c
    let more := recvMessages chunk n first.2
    (first.1 :: more.1, more.2)

/-- Whatever the fragmentation, the loop takes the bytes it asks for, or all there are. -/
theorem recvLoop_eq (chunk : ℕ → ℕ) (rounds asked : ℕ) (c : Incoming) (enough : asked ≤ rounds) :
    ∃ calls, recvLoop chunk rounds asked c =
      ⟨c.stream.take asked, decide (asked ≤ c.stream.length),
        ⟨c.stream.drop asked, calls⟩⟩ := by
  induction rounds generalizing asked c with
  | zero =>
    obtain rfl : asked = 0 := by omega
    exact ⟨c.calls, by simp [recvLoop]⟩
  | succ rounds ih =>
    by_cases zero : asked = 0
    · subst zero
      exact ⟨c.calls, by simp [recvLoop]⟩
    · by_cases ended : c.stream = []
      · exact ⟨c.calls, by obtain ⟨_, _⟩ := c; simp_all [recvLoop, recv]⟩
      · simp only [recvLoop, zero, if_false, recv, ended]
        generalize hn : max 1 (min (chunk c.calls) asked) = n
        have hna : n ≤ asked := by omega
        obtain ⟨calls, h⟩ := ih (asked - min n c.stream.length) ⟨c.stream.drop n, c.calls + 1⟩
          (by have := List.length_pos_of_ne_nil ended; omega)
        rw [List.length_take, h]
        refine ⟨calls, ?_⟩
        simp only [Filled.mk.injEq, Incoming.mk.injEq, List.length_drop, List.drop_drop, and_true,
          decide_eq_decide]
        rcases Nat.le_total n c.stream.length with within | beyond
        · rw [Nat.min_eq_left within]
          refine ⟨?_, by omega, by congr 1; omega⟩
          rw [← List.take_append_drop n (c.stream.take asked), List.take_take, List.drop_take,
            Nat.min_eq_left hna]
        · rw [Nat.min_eq_right beyond, List.take_of_length_le beyond,
            List.take_of_length_le (beyond.trans hna), List.drop_of_length_le beyond,
            List.drop_of_length_le (beyond.trans hna), List.drop_of_length_le (by omega)]
          exact ⟨by simp, by omega, rfl⟩

theorem recvLoop_complete (chunk : ℕ → ℕ) (rounds asked : ℕ) (c : Incoming)
    (enough : asked ≤ rounds) (there : asked ≤ c.stream.length) :
    ∃ calls, recvLoop chunk rounds asked c =
      ⟨c.stream.take asked, true, ⟨c.stream.drop asked, calls⟩⟩ := by
  obtain ⟨calls, h⟩ := recvLoop_eq chunk rounds asked c enough
  exact ⟨calls, by rw [h, decide_eq_true there]⟩

theorem recvMessage_frame (chunk : ℕ → ℕ) (message rest : Bytes) (calls : ℕ)
    (short : message.length ≤ maxMsgSize) :
    ∃ calls', recvMessage chunk ⟨frame sizeofSizeT message ++ rest, calls⟩ =
      (⟨some message.length, message⟩, ⟨rest, calls'⟩) := by
  have hfits : message.length < 256 ^ sizeofSizeT := by
    simp only [maxMsgSize, sizeofSizeT] at *
    omega
  have hword := wordValue_wordBytes sizeofSizeT message.length hfits
  have hlen := wordBytes_length sizeofSizeT message.length
  obtain ⟨calls₁, h₁⟩ := recvLoop_complete chunk sizeofSizeT sizeofSizeT
    ⟨frame sizeofSizeT message ++ rest, calls⟩ le_rfl
    (by simp [frame_length]; omega)
  obtain ⟨calls₂, h₂⟩ := recvLoop_complete chunk message.length message.length
    ⟨message ++ rest, calls₁⟩ le_rfl (by simp)
  have htake : (frame sizeofSizeT message ++ rest).take sizeofSizeT =
      wordBytes sizeofSizeT message.length := by
    rw [frame, List.append_assoc, List.take_left' hlen]
  have hdrop : (frame sizeofSizeT message ++ rest).drop sizeofSizeT = message ++ rest := by
    rw [frame, List.append_assoc, List.drop_left' hlen]
  refine ⟨calls₂, ?_⟩
  simp only [recvMessage, h₁, htake, hdrop, hword, h₂]
  simp [short]

theorem recvMessages_frames (chunk : ℕ → ℕ) (messages : List Bytes)
    (short : ∀ m ∈ messages, m.length ≤ maxMsgSize) (rest : Bytes) (calls : ℕ) :
    ∃ calls', recvMessages chunk messages.length
        ⟨(messages.map (frame sizeofSizeT)).flatten ++ rest, calls⟩ =
      (messages.map (fun m => ⟨some m.length, m⟩), ⟨rest, calls'⟩) := by
  induction messages generalizing calls with
  | nil => exact ⟨calls, rfl⟩
  | cons m messages ih =>
    obtain ⟨calls₁, h₁⟩ := recvMessage_frame chunk m
      ((messages.map (frame sizeofSizeT)).flatten ++ rest) calls (short m (by simp))
    obtain ⟨calls₂, h₂⟩ := ih (fun m hm => short m (by simp [hm])) calls₁
    refine ⟨calls₂, ?_⟩
    simp only [List.map_cons, List.flatten_cons, List.append_assoc, List.length_cons,
      recvMessages, h₁, h₂]

end Cezfuzzer.LauncherFraming
