import Mathlib.Algebra.BigOperators.Group.List.Basic
import Mathlib.Algebra.Order.BigOperators.Group.List
import Cezfuzzer.LauncherSenders
import Cezfuzzer.LauncherStreams

set_option autoImplicit false

/-!
# Messages that are too long

`send_message` has no limit of its own. `recv_message` refuses a length above
`MAX_MSG_SIZE` and leaves what follows it in the stream.
-/
namespace Cezfuzzer.LauncherOversized
open LengthPrefix LauncherFraming LauncherStreams

/-- A message in memory, with a length that a `size_t` holds. -/
structure Message where
  bytes : Bytes
  fits : bytes.length < 256 ^ sizeofSizeT

/-- `total_bytes = len`, where `total_bytes` is an `int`. -/
def totalBytes (len : ℕ) : ℤ := Int.bmod len 4294967296

/-- The bytes of one `send_message`. The loop over the message runs while
    `total_bytes > bytes_sent`. -/
def wire (m : Message) : Bytes :=
  wordBytes sizeofSizeT m.bytes.length ++ m.bytes.take (totalBytes m.bytes.length).toNat

def expected (m : Message) : Option Bytes :=
  if m.bytes.length ≤ maxMsgSize then some m.bytes else none

/-- The calls return what they should, and the next one starts where the messages end, whatever
    comes after them. -/
def InSync (messages : List Message) : Prop :=
  ∀ (chunk : ℕ → ℕ) (rest : Bytes) (calls : ℕ), ∃ results calls',
    recvMessages chunk messages.length ⟨messages.flatMap wire ++ rest, calls⟩ =
      (results, ⟨rest, calls'⟩) ∧ results.map Received.message = messages.map expected

theorem totalBytes_small {len : ℕ} (small : len < 2147483648) : totalBytes len = len := by
  unfold totalBytes
  exact Int.bmod_eq_of_le (by omega) (by omega)

/-- The messages of the launchers are sent as the frames that `SendCall` sends. -/
theorem wire_eq_left {m : Message} (small : m.bytes.length < 2147483648) :
    wire m = LauncherSenders.left (sendMessage m.bytes) := by
  rw [LauncherSenders.left_sendMessage, wire, totalBytes_small small, Int.toNat_natCast,
    List.take_length, frame]

theorem front_short {m : Message} (short : m.bytes.length ≤ maxMsgSize) (rest : Bytes) :
    Front (wire m ++ rest) ⟨some m.bytes.length, m.bytes⟩ rest := by
  have small : m.bytes.length < 2147483648 := short.trans_lt (by decide)
  rw [wire_eq_left small, LauncherSenders.left_sendMessage]
  exact .message m.bytes rest short

theorem front_long {m : Message} (long : maxMsgSize < m.bytes.length) (rest : Bytes) :
    Front (wire m ++ rest) ⟨none, []⟩
      (m.bytes.take (totalBytes m.bytes.length).toNat ++ rest) := by
  rw [wire, List.append_assoc]
  refine .refused _ _ (wordBytes_length _ _) ?_
  rwa [wordValue_wordBytes _ _ m.fits]

/-- What stays in the stream of a message that is refused. -/
def leftover (m : Message) : Bytes :=
  if m.bytes.length ≤ maxMsgSize then []
  else m.bytes.take (totalBytes m.bytes.length).toNat

theorem front_wire (m : Message) (rest : Bytes) :
    ∃ r, Front (wire m ++ rest) r (leftover m ++ rest) ∧ r.message = expected m := by
  unfold leftover expected
  split
  · rename_i short
    exact ⟨_, front_short short rest, rfl⟩
  · rename_i long
    exact ⟨_, front_long (not_le.mp long) rest, rfl⟩

theorem leftover_eq_nil {m : Message} :
    leftover m = [] ↔ m.bytes.length ≤ maxMsgSize ∨ totalBytes m.bytes.length ≤ 0 := by
  unfold leftover
  split
  · simp_all
  · rename_i long
    rw [List.take_eq_nil_iff, ← List.length_eq_zero_iff]
    omega

theorem inSync_of_empty {messages : List Message} (empty : ∀ m ∈ messages, leftover m = []) :
    InSync messages := by
  intro chunk rest calls
  induction messages generalizing calls with
  | nil => exact ⟨[], calls, rfl, rfl⟩
  | cons m messages ih =>
    obtain ⟨r, front, message⟩ := front_wire m (messages.flatMap wire ++ rest)
    rw [empty m List.mem_cons_self, List.nil_append] at front
    have next := front_eq front
    obtain ⟨calls₁, h₁⟩ := recvMessage_eq chunk (wire m ++ (messages.flatMap wire ++ rest)) calls
    obtain ⟨results, calls₂, h₂, same⟩ :=
      ih (fun m member => empty m (List.mem_cons_of_mem _ member)) calls₁
    rw [← next.1, ← next.2] at h₁
    refine ⟨r :: results, calls₂, ?_, by rw [List.map_cons, List.map_cons, message, same]⟩
    rw [List.length_cons, List.flatMap_cons, List.append_assoc, recvMessages, h₁]
    simp only [h₂]

/-- The bytes that a call takes, unless the stream ends before it has them. -/
def taken (message : Option Bytes) : ℕ := sizeofSizeT + message.elim 0 List.length

theorem front_taken {stream rest : Bytes} {r : Received} (front : Front stream r rest)
    (enough : sizeofSizeT + maxMsgSize ≤ stream.length) :
    stream.length = rest.length + taken r.message := by
  cases front with
  | message m _ short =>
    simp only [List.length_append, frame_length, taken, Received.message, Option.map_some,
      Option.elim_some]
    omega
  | refused head _ whole long => simp [taken, Received.message, whole, Nat.add_comm]
  | cut head part whole short less =>
    rw [List.length_append] at enough
    omega
  | ends part less => omega

theorem taken_le {stream rest : Bytes} {r : Received} (front : Front stream r rest) :
    taken r.message ≤ sizeofSizeT + maxMsgSize := by
  cases front with
  | message m _ short => simpa [taken, Received.message] using short
  | refused head _ whole long | cut head part whole short less | ends part less =>
    simp [taken, Received.message]

theorem recvMessages_taken (chunk : ℕ → ℕ) (n : ℕ) (stream : Bytes) (calls : ℕ)
    (enough : n * (sizeofSizeT + maxMsgSize) ≤ stream.length) :
    stream.length = (recvMessages chunk n ⟨stream, calls⟩).2.stream.length +
      (((recvMessages chunk n ⟨stream, calls⟩).1.map Received.message).map taken).sum := by
  induction n generalizing stream calls with
  | zero => simp [recvMessages]
  | succ n ih =>
    obtain ⟨calls₁, h₁⟩ := recvMessage_eq chunk stream calls
    have front := front_received stream
    have first := front_taken front (by rw [Nat.succ_mul] at enough; omega)
    have bound := taken_le front
    have more := ih (after stream) calls₁ (by rw [Nat.succ_mul] at enough; omega)
    simp only [recvMessages, h₁, List.map_cons, List.sum_cons]
    omega

theorem wire_length (m : Message) :
    (wire m).length = taken (expected m) + (leftover m).length := by
  unfold taken expected leftover
  split
  · rename_i short
    have small : m.bytes.length < 2147483648 := short.trans_lt (by decide)
    simp [wire, totalBytes_small small]
  · simp [wire]

theorem wires_length (messages : List Message) : (messages.flatMap wire).length =
    ((messages.map expected).map taken).sum + (messages.flatMap leftover).length := by
  induction messages with
  | nil => rfl
  | cons m messages ih =>
    have first := wire_length m
    simp only [List.flatMap_cons, List.length_append, List.map_cons, List.sum_cons]
    omega

/-- With enough bytes behind them the calls take what they return, so that what stays behind of
    refused messages is never made up for. -/
theorem InSync.empty {messages : List Message} (sync : InSync messages) :
    ∀ m ∈ messages, leftover m = [] := by
  let rest : Bytes := List.replicate (messages.length * (sizeofSizeT + maxMsgSize)) 0
  obtain ⟨results, calls', run, same⟩ := sync (fun _ => 0) rest 0
  have total := recvMessages_taken (fun _ => 0) messages.length (messages.flatMap wire ++ rest) 0
    (by simp [rest])
  rw [run, same, List.length_append, wires_length] at total
  have nothing : (messages.flatMap leftover).length = 0 := by
    simp only at total
    omega
  exact List.flatMap_eq_nil_iff.mp (List.length_eq_zero_iff.mp nothing)

theorem inSync_iff (messages : List Message) : InSync messages ↔
    ∀ m ∈ messages, m.bytes.length ≤ maxMsgSize ∨ totalBytes m.bytes.length ≤ 0 := by
  constructor
  · intro sync m member
    exact leftover_eq_nil.mp (sync.empty m member)
  · intro sound
    exact inSync_of_empty (fun m member => leftover_eq_nil.mpr (sound m member))

def long : Message := ⟨List.replicate 4097 7, by rw [List.length_replicate]; decide⟩

def start : Message := ⟨[83, 84, 65, 82, 84], by decide⟩

theorem long_start_unsynchronised : ¬InSync [long, start] := by
  intro sync
  have sound := leftover_eq_nil.mp (sync.empty long List.mem_cons_self)
  rw [long, List.length_replicate, totalBytes_small (by decide)] at sound
  revert sound
  decide

end Cezfuzzer.LauncherOversized
