import Cezfuzzer.LauncherRoundTrip
import Cezfuzzer.LauncherMessages
import Cezfuzzer.LauncherStreams

set_option autoImplicit false

/-!
# The callers of `recv_message`

Three loops give `recv_message` a buffer that they have filled with zeros, ignore what it
returns, and read the buffer.
-/
namespace Cezfuzzer.LauncherBuffers
open LengthPrefix LauncherFraming LauncherMessages LauncherStreams
open LauncherRoundTrip (Program)

inductive Caller where
  | setEntitiesList | clientLoop | handleClientConnection
  deriving DecidableEq, Repr

def Caller.capacity : Caller → ℕ
  | .setEntitiesList => 64
  | .clientLoop | .handleClientConnection => maxMsgSize

def caller : Program → ℕ → Caller
  | .client, 0 => .setEntitiesList
  | .client, _ + 1 => .clientLoop
  | .server, _ => .handleClientConnection

/-- The calls that the endless loops of a program make on a stream, with their callers. -/
def Calls (p : Program) (stream : Bytes) (k : ℕ) (c : Caller) (r : Received) : Prop :=
  c = caller p k ∧ ∃ (chunk : ℕ → ℕ) (n calls : ℕ),
    (recvMessages chunk n ⟨stream, calls⟩).1[k]? = some r

theorem calls_iff {p : Program} {stream : Bytes} {k : ℕ} {c : Caller} {r : Received} :
    Calls p stream k c r ↔
      c = caller p k ∧ ∃ t t', Position stream k t ∧ Front t r t' := by
  simp only [Calls, recvMessages_getElem?]
  refine and_congr_right (fun _ => ?_)
  constructor
  · rintro ⟨_, _, _, -, found⟩
    exact found
  · intro found
    exact ⟨fun _ => 0, k + 1, 0, Nat.lt_succ_self k, found⟩

theorem calls_front (p : Program) {stream t t' : Bytes} {k : ℕ} {r : Received}
    (position : Position stream k t) (front : Front t r t') : Calls p stream k (caller p k) r :=
  calls_iff.mpr ⟨rfl, t, t', position, front⟩

/-! ## The buffers -/

/-- The buffer after a call that has written its first bytes, and others behind it if they are
    too many. -/
def buffer (capacity : ℕ) (written : Bytes) : Bytes :=
  (written ++ List.replicate capacity 0).take capacity

structure Safe (capacity : ℕ) (written : Bytes) : Prop where
  inside : ∀ i < written.length, i < capacity
  terminated : 0 ∈ buffer capacity written

def BuffersSafe (p : Program) (stream : Bytes) : Prop :=
  ∀ k c r, Calls p stream k c r → Safe c.capacity r.written

theorem safe_iff {capacity : ℕ} {written : Bytes} : Safe capacity written ↔
    written.length ≤ capacity ∧ (written.length < capacity ∨ 0 ∈ written) := by
  constructor
  · rintro ⟨inside, terminated⟩
    have fits : written.length ≤ capacity := by
      by_contra long
      exact absurd (inside capacity (not_le.mp long)) (lt_irrefl _)
    refine ⟨fits, ?_⟩
    rw [buffer, List.take_append, List.take_of_length_le fits, List.mem_append] at terminated
    rcases terminated with zero | zero
    · exact Or.inr zero
    · rw [List.take_replicate] at zero
      have := List.length_pos_of_mem zero
      rw [List.length_replicate] at this
      omega
  · rintro ⟨fits, terminated⟩
    refine ⟨fun i lt => lt.trans_le fits, ?_⟩
    rw [buffer, List.take_append, List.take_of_length_le fits, List.mem_append,
      List.take_replicate, List.mem_replicate]
    rcases terminated with less | zero
    · exact Or.inr ⟨by omega, rfl⟩
    · exact Or.inl zero

/-- The message at the front of a stream, as far as it is there. -/
def arrived (stream : Bytes) : Bytes :=
  if stream.length < sizeofSizeT ∨ maxMsgSize < announced stream then []
  else (stream.drop sizeofSizeT).take (announced stream)

theorem front_written {t t' : Bytes} {r : Received} (front : Front t r t') :
    r.written = arrived t := by
  rw [(front_eq front).1, received, arrived]
  split <;> rfl

theorem buffersSafe_iff (p : Program) (stream : Bytes) : BuffersSafe p stream ↔
    ∀ k t, Position stream k t → (arrived t).length ≤ (caller p k).capacity ∧
      ((arrived t).length < (caller p k).capacity ∨ 0 ∈ arrived t) := by
  constructor
  · intro safe k t position
    have front := front_received t
    rw [← safe_iff, ← front_written front]
    exact safe k _ _ (calls_front p position front)
  · intro fits k c r call
    obtain ⟨rfl, t, t', position, front⟩ := calls_iff.mp call
    rw [front_written front, safe_iff]
    exact fits k t position

theorem arrived_length (stream : Bytes) : (arrived stream).length ≤ maxMsgSize := by
  unfold arrived
  split
  · exact Nat.zero_le _
  · rename_i short
    exact (List.length_take_le _ _).trans (not_lt.mp (not_or.mp short).2)

/-- The buffer of `set_entities_list` is too short for a message that `recv_message` takes. -/
theorem long_address_unsafe :
    ¬BuffersSafe .client (frame sizeofSizeT (List.replicate 100 65)) := by
  intro safe
  have front := Front.message (List.replicate 100 65) [] (by decide)
  rw [List.append_nil] at front
  have inside := (safe 0 _ _ (calls_front .client .first front)).inside
  exact absurd (inside 64 (by decide)) (lt_irrefl _)

/-! ## The actions -/

inductive Action where
  | entities (command : Command)
  | notification
  deriving DecidableEq, Repr

def Caller.action (buffer : Bytes) : Caller → Option Action
  | .setEntitiesList => none
  | .clientLoop => (multiplexMessage buffer).map .entities
  | .handleClientConnection => if isCrash buffer then some .notification else none

/-- The `k`-th call has returned the length of a frame that is there with all its bytes. -/
def Complete (stream : Bytes) (k : ℕ) (r : Received) : Prop :=
  ∃ m rest, Position stream k (frame sizeofSizeT m ++ rest) ∧ m.length ≤ maxMsgSize ∧
    r = ⟨some m.length, m⟩

def OnlyCompleteActed (p : Program) (stream : Bytes) : Prop :=
  ∀ k c r, Calls p stream k c r → c.action r.written ≠ none → Complete stream k r

def Recognised (bytes : Bytes) : Caller → Prop
  | .setEntitiesList => False
  | .clientLoop => cString bytes = START ∨ cString bytes = RESTART
  | .handleClientConnection => CRASH <+: bytes

theorem action_iff (bytes : Bytes) (c : Caller) :
    c.action bytes ≠ none ↔ Recognised bytes c := by
  cases c with
  | setEntitiesList => simp [Caller.action, Recognised]
  | clientLoop =>
    have start := strncmpEq_cString START (by decide) bytes
    have restart := strncmpEq_cString RESTART (by decide) bytes
    simp only [Caller.action, Recognised, ← start, ← restart, multiplexMessage]
    by_cases first : strncmpEq 6 bytes START = true
    · simp [first, show START.length + 1 = 6 from rfl]
    · by_cases second : strncmpEq 8 bytes RESTART = true <;>
        simp [first, second, show START.length + 1 = 6 from rfl,
          show RESTART.length + 1 = 8 from rfl]
  | handleClientConnection =>
    have crash := strncmpEq_prefix CRASH (by decide) bytes
    simp only [Caller.action, Recognised, ← crash, isCrash]
    by_cases same : strncmpEq 5 bytes CRASH = true <;>
      simp [same, show CRASH.length = 5 from rfl]

theorem not_recognised_nil (c : Caller) : ¬Recognised [] c := by
  cases c <;> simp [Recognised, cString, START, RESTART, CRASH]

/-- A call that fails with part of a message in the buffer leads to no action unless that part
    is a command by itself. -/
theorem onlyCompleteActed_iff (p : Program) (stream : Bytes) : OnlyCompleteActed p stream ↔
    ∀ k head part, Position stream k (head ++ part) → head.length = sizeofSizeT →
      wordValue head ≤ maxMsgSize → part.length < wordValue head →
        ¬Recognised part (caller p k) := by
  constructor
  · intro acted k head part position whole short less recognised
    have call := calls_front p position (.cut head part whole short less)
    obtain ⟨m, rest, -, -, complete⟩ := acted k _ _ call ((action_iff _ _).mpr recognised)
    cases complete
  · intro unrecognised k c r call action
    obtain ⟨rfl, t, t', position, front⟩ := calls_iff.mp call
    have recognised := (action_iff _ _).mp action
    cases front with
    | message m rest short => exact ⟨m, _, position, short, rfl⟩
    | cut head part whole short less =>
      exact absurd recognised (unrecognised k head part position whole short less)
    | refused head rest whole long | ends part less =>
      exact absurd recognised (not_recognised_nil _)

/-- The `RESTART` of the server without its last byte, which is its terminating zero, and an
    empty address before it. -/
def cutRestart : Bytes :=
  frame sizeofSizeT [] ++ (wordBytes sizeofSizeT (RESTART ++ [0]).length ++ RESTART)

/-- The entities are restarted although `recv_message` has returned -1. -/
theorem cutRestart_acted : ¬OnlyCompleteActed .client cutRestart := by
  intro acted
  have first := Front.message [] (wordBytes sizeofSizeT (RESTART ++ [0]).length ++ RESTART)
    (by decide)
  have second := Front.cut (wordBytes sizeofSizeT (RESTART ++ [0]).length) RESTART
    (wordBytes_length _ _) (by decide) (by decide)
  have call := calls_front .client (.next .first first) second
  obtain ⟨m, rest, -, -, complete⟩ := acted 1 _ _ call (by decide)
  cases complete

end Cezfuzzer.LauncherBuffers
