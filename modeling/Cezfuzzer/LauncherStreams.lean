import Mathlib.Logic.Function.Iterate
import Cezfuzzer.LauncherFraming

set_option autoImplicit false

/-!
# `recv_message` on any stream

The bytes that a peer sends need not be frames, and they may end anywhere. What a call of
`recv_message` makes of them does not depend on how they are fragmented.
-/
namespace Cezfuzzer.LauncherStreams
open LengthPrefix LauncherFraming

/-- The length that the first eight bytes announce. -/
def announced (stream : Bytes) : ℕ := wordValue (stream.take sizeofSizeT)

def received (stream : Bytes) : Received :=
  if stream.length < sizeofSizeT ∨ maxMsgSize < announced stream then ⟨none, []⟩
  else
    let body := stream.drop sizeofSizeT
    ⟨if announced stream ≤ body.length then some (announced stream) else none,
      body.take (announced stream)⟩

/-- An announced message that is too long is not taken from the stream. -/
def after (stream : Bytes) : Bytes :=
  if maxMsgSize < announced stream then stream.drop sizeofSizeT
  else stream.drop (sizeofSizeT + announced stream)

theorem recvMessage_eq (chunk : ℕ → ℕ) (stream : Bytes) (calls : ℕ) :
    ∃ calls', recvMessage chunk ⟨stream, calls⟩ = (received stream, ⟨after stream, calls'⟩) := by
  obtain ⟨calls₁, h₁⟩ := recvLoop_eq chunk sizeofSizeT sizeofSizeT ⟨stream, calls⟩ le_rfl
  obtain ⟨calls₂, h₂⟩ := recvLoop_eq chunk (announced stream) (announced stream)
    ⟨stream.drop sizeofSizeT, calls₁⟩ le_rfl
  simp only [recvMessage, h₁, ← announced.eq_def, h₂, decide_eq_false_iff_not, not_le, received,
    after, List.drop_drop]
  by_cases short : stream.length < sizeofSizeT
  · rw [List.drop_of_length_le (i := sizeofSizeT) (by omega),
      List.drop_of_length_le (i := sizeofSizeT + announced stream) (by omega)]
    exact ⟨calls₁, by simp [short]⟩
  · by_cases long : maxMsgSize < announced stream
    · exact ⟨calls₁, by simp [short, long]⟩
    · refine ⟨calls₂, ?_⟩
      rw [List.length_drop]
      by_cases cut : stream.length - sizeofSizeT < announced stream
      · simp [short, long, cut, not_le.mpr cut]
      · simp [short, long, cut, not_lt.mp cut]

theorem recvMessages_eq (chunk : ℕ → ℕ) (n : ℕ) (stream : Bytes) (calls : ℕ) :
    ∃ calls', recvMessages chunk n ⟨stream, calls⟩ =
      ((List.range n).map (fun k => received (after^[k] stream)), ⟨after^[n] stream, calls'⟩) := by
  induction n generalizing stream calls with
  | zero => exact ⟨calls, rfl⟩
  | succ n ih =>
    obtain ⟨calls₁, h₁⟩ := recvMessage_eq chunk stream calls
    obtain ⟨calls₂, h₂⟩ := ih (after stream) calls₁
    refine ⟨calls₂, ?_⟩
    simp only [recvMessages, h₁, h₂, List.range_succ_eq_map, List.map_cons, List.map_map]
    rfl

/-- What may stand at the front of a stream: a frame, the length of one that is too long, a
    frame that the stream ends in, or less than a length. With it goes what a call makes of it,
    and where the next call starts. -/
inductive Front : Bytes → Received → Bytes → Prop where
  | message (m rest : Bytes) (short : m.length ≤ maxMsgSize) :
      Front (frame sizeofSizeT m ++ rest) ⟨some m.length, m⟩ rest
  | refused (head rest : Bytes) (whole : head.length = sizeofSizeT)
      (long : maxMsgSize < wordValue head) : Front (head ++ rest) ⟨none, []⟩ rest
  | cut (head part : Bytes) (whole : head.length = sizeofSizeT)
      (short : wordValue head ≤ maxMsgSize) (less : part.length < wordValue head) :
      Front (head ++ part) ⟨none, part⟩ []
  | ends (part : Bytes) (less : part.length < sizeofSizeT) : Front part ⟨none, []⟩ []

theorem announced_append {head : Bytes} (whole : head.length = sizeofSizeT) (rest : Bytes) :
    announced (head ++ rest) = wordValue head := by
  rw [announced, List.take_left' whole]

theorem maxMsgSize_lt : maxMsgSize < 256 ^ sizeofSizeT := by decide

theorem front_eq {stream rest : Bytes} {r : Received} (front : Front stream r rest) :
    r = received stream ∧ rest = after stream := by
  cases front with
  | message m _ short =>
    have whole := wordBytes_length sizeofSizeT m.length
    have value : announced (frame sizeofSizeT m ++ rest) = m.length := by
      rw [frame, List.append_assoc, announced_append whole,
        wordValue_wordBytes _ _ (short.trans_lt maxMsgSize_lt)]
    have body : (frame sizeofSizeT m ++ rest).drop sizeofSizeT = m ++ rest := by
      rw [frame, List.append_assoc, List.drop_left' whole]
    constructor
    · rw [received, value, body, if_neg (by simp [frame_length, short, Nat.add_assoc])]
      simp
    · rw [after, value, if_neg (not_lt.mpr short), ← List.drop_drop, body, List.drop_left]
  | refused head _ whole long =>
    have value := announced_append whole rest
    rw [received, after, value, if_pos (Or.inr long), if_pos long, List.drop_left' whole]
    exact ⟨rfl, rfl⟩
  | cut head part whole short less =>
    have value := announced_append whole part
    constructor
    · rw [received, value, if_neg (by simp [whole, short]), List.drop_left' whole]
      simp only [if_neg (not_le.mpr less), List.take_of_length_le less.le]
    · rw [after, value, if_neg (not_lt.mpr short), ← List.drop_drop, List.drop_left' whole,
        List.drop_of_length_le less.le]
  | ends part less =>
    constructor
    · rw [received, if_pos (Or.inl less)]
    · unfold after
      split
      · rw [List.drop_of_length_le less.le]
      · rw [List.drop_of_length_le (by omega)]

theorem front_exists (stream : Bytes) : ∃ r rest, Front stream r rest := by
  by_cases less : stream.length < sizeofSizeT
  · exact ⟨_, _, .ends stream less⟩
  obtain ⟨head, rest, rfl, whole⟩ : ∃ head rest, stream = head ++ rest ∧
      head.length = sizeofSizeT :=
    ⟨_, _, (List.take_append_drop sizeofSizeT stream).symm, by simp; omega⟩
  by_cases long : maxMsgSize < wordValue head
  · exact ⟨_, _, .refused head rest whole long⟩
  by_cases cut : rest.length < wordValue head
  · exact ⟨_, _, .cut head rest whole (not_lt.mp long) cut⟩
  · obtain ⟨m, rest', rfl, body⟩ : ∃ m rest', rest = m ++ rest' ∧ m.length = wordValue head :=
      ⟨_, _, (List.take_append_drop (wordValue head) rest).symm, by simp; omega⟩
    have framed : head ++ (m ++ rest') = frame sizeofSizeT m ++ rest' := by
      rw [frame, body, ← whole, wordBytes_wordValue, List.append_assoc]
    rw [framed]
    exact ⟨_, _, .message m rest' (body ▸ not_lt.mp long)⟩

theorem front_received (stream : Bytes) : Front stream (received stream) (after stream) := by
  obtain ⟨r, rest, front⟩ := front_exists stream
  obtain ⟨rfl, rfl⟩ := front_eq front
  exact front

/-- The `k`-th call on the stream `s` finds the stream `t`. -/
inductive Position (s : Bytes) : ℕ → Bytes → Prop where
  | first : Position s 0 s
  | next {k : ℕ} {t t' : Bytes} {r : Received} (position : Position s k t) (front : Front t r t') :
      Position s (k + 1) t'

theorem position_iff {s t : Bytes} {k : ℕ} : Position s k t ↔ after^[k] s = t := by
  constructor
  · intro position
    induction position with
    | first => rfl
    | next _ front ih => rw [Function.iterate_succ_apply', ih, (front_eq front).2]
  · rintro rfl
    induction k with
    | zero => exact .first
    | succ k ih =>
      rw [Function.iterate_succ_apply']
      exact .next ih (front_received _)

/-- The calls of a loop, one for each position. -/
theorem recvMessages_getElem? {chunk : ℕ → ℕ} {n calls k : ℕ} {s : Bytes} {r : Received} :
    (recvMessages chunk n ⟨s, calls⟩).1[k]? = some r ↔
      k < n ∧ ∃ t t', Position s k t ∧ Front t r t' := by
  obtain ⟨calls', h⟩ := recvMessages_eq chunk n s calls
  rw [h, List.getElem?_map, Option.map_eq_some_iff]
  constructor
  · rintro ⟨j, found, rfl⟩
    obtain ⟨lt, rfl⟩ := List.getElem?_eq_some_iff.mp found
    rw [List.length_range] at lt
    rw [List.getElem_range]
    exact ⟨lt, _, _, position_iff.mpr rfl, front_received _⟩
  · rintro ⟨lt, t, t', position, front⟩
    refine ⟨k, by simp [lt], ?_⟩
    rw [position_iff.mp position, (front_eq front).1]

end Cezfuzzer.LauncherStreams
