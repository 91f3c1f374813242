import Mathlib.Data.List.Perm.Lattice
import Mathlib.Data.List.Range
import Cezfuzzer.StepRuns
import Cezfuzzer.LauncherFraming
import Cezfuzzer.LauncherMessages

set_option autoImplicit false

/-!
# Concurrent senders on one socket

The `monitor_child` threads of a client launcher share one `sockfd`. Each runs one
`send_message`; the steps are their single `send` calls, in any interleaving.
-/
namespace Cezfuzzer.LauncherSenders
open StepRuns LengthPrefix LauncherFraming LauncherMessages

structure State where
  calls : List SendCall
  stream : Bytes
  deriving DecidableEq, Repr

def initial (messages : List Bytes) : State := ⟨messages.map sendMessage, []⟩

structure Event where
  sender : ℕ
  accepted : ℕ
  deriving DecidableEq, Repr

def step (s : State) (e : Event) : Option State :=
  match s.calls[e.sender]? with
  | none => none
  | some c => match c.send e.accepted with
    | none => none
    | some (bytes, c') => some ⟨s.calls.set e.sender c', s.stream ++ bytes⟩

def Finished (s : State) : Prop := ∀ c ∈ s.calls, c.done

instance (s : State) : Decidable (Finished s) := inferInstanceAs (Decidable (∀ c ∈ s.calls, _))

/-- Sender `j` has sent nothing yet, or everything. -/
def Settled (messages : List Bytes) (s : State) (j : ℕ) : Prop :=
  s.calls[j]? = (messages.map sendMessage)[j]? ∨ s.calls[j]? = some ⟨[], []⟩

instance (messages : List Bytes) (s : State) (j : ℕ) : Decidable (Settled messages s j) :=
  inferInstanceAs (Decidable (_ ∨ _))

/-- Nobody else is between the first and the last `send` of a message. -/
def Alone (messages : List Bytes) (s : State) (e : Event) : Prop :=
  ∀ j < messages.length, j ≠ e.sender → Settled messages s j

instance (messages : List Bytes) (s : State) (e : Event) : Decidable (Alone messages s e) :=
  inferInstanceAs (Decidable (∀ j < messages.length, _ → _))

def left (c : SendCall) : Bytes := c.length ++ c.message

theorem left_sendMessage (message : Bytes) :
    left (sendMessage message) = frame sizeofSizeT message := rfl

theorem left_eq_nil (c : SendCall) : left c = [] ↔ c.done := by
  obtain ⟨l, m⟩ := c
  simp [left, SendCall.done]

theorem send_left {c c' : SendCall} {n : ℕ} {bytes : Bytes} (h : c.send n = some (bytes, c')) :
    left c = bytes ++ left c' ∧ bytes ≠ [] := by
  have piece : ∀ xs : Bytes, 1 ≤ n ∧ n ≤ xs.length → xs.take n ≠ [] := by
    intro xs hn empty
    have := congrArg List.length empty
    rw [List.length_take, List.length_nil] at this
    omega
  unfold SendCall.send at h
  split_ifs at h with hl hn hn
  · simp only [Option.some.injEq, Prod.mk.injEq] at h
    obtain ⟨rfl, rfl⟩ := h
    refine ⟨?_, piece _ hn⟩
    simp only [left, ← List.append_assoc, List.take_append_drop]
  · simp only [Option.some.injEq, Prod.mk.injEq] at h
    obtain ⟨rfl, rfl⟩ := h
    have empty : c.length = [] := by simpa using hl
    refine ⟨?_, piece _ hn⟩
    simp only [left, empty, List.nil_append, List.take_append_drop]

theorem step_cases {s u : State} {e : Event} (h : step s e = some u) :
    ∃ c c' bytes, s.calls[e.sender]? = some c ∧ left c = bytes ++ left c' ∧ bytes ≠ [] ∧
      u = ⟨s.calls.set e.sender c', s.stream ++ bytes⟩ := by
  unfold step at h
  split at h
  · cases h
  · rename_i c hc
    split at h
    · cases h
    · rename_i bytes c' hs
      obtain ⟨hleft, hne⟩ := send_left hs
      exact ⟨c, c', bytes, hc, hleft, hne, by simpa using h.symm⟩

def frames (messages : List Bytes) (order : List ℕ) : Bytes :=
  (order.map (fun j => frame sizeofSizeT (messages.getD j []))).flatten

theorem frames_snoc (messages : List Bytes) (order : List ℕ) (i : ℕ) :
    frames messages (order ++ [i]) =
      frames messages order ++ frame sizeofSizeT (messages.getD i []) := by
  simp [frames]

/-- The senders in `order` have finished; the others, but for `current`, have not begun. -/
structure Ordered (messages : List Bytes) (s : State) (order : List ℕ) (current : Option ℕ) :
    Prop where
  size : s.calls.length = messages.length
  nodup : order.Nodup
  range : ∀ j ∈ order, j < messages.length
  finished : ∀ j ∈ order, s.calls[j]? = some ⟨[], []⟩
  fresh : ∀ j < messages.length, j ∉ order → some j ≠ current →
    s.calls[j]? = (messages.map sendMessage)[j]?

def Under (messages : List Bytes) (s : State) (order : List ℕ) (i : ℕ) (part : Bytes) : Prop :=
  i ∉ order ∧ s.stream = frames messages order ++ part ∧
    ∃ c, s.calls[i]? = some c ∧ ¬ c.done ∧
      part ++ left c = frame sizeofSizeT (messages.getD i [])

/-- The stream is whole frames, and then the first part of one more if one is under way. -/
def Framed (messages : List Bytes) (s : State) : Prop :=
  ∃ order, (Ordered messages s order none ∧ s.stream = frames messages order) ∨
    ∃ i part, Ordered messages s order (some i) ∧ Under messages s order i part ∧ part ≠ []

theorem initial_framed (messages : List Bytes) : Framed messages (initial messages) :=
  ⟨[], Or.inl ⟨⟨by simp [initial], List.nodup_nil, by simp, by simp, fun _ _ _ _ => rfl⟩, rfl⟩⟩

theorem fresh_left {messages : List Bytes} {i : ℕ} {c : SendCall}
    (h : (messages.map sendMessage)[i]? = some c) :
    left c = frame sizeofSizeT (messages.getD i []) := by
  rw [List.getElem?_map] at h
  cases hm : messages[i]? with
  | none => simp [hm] at h
  | some m =>
    simp only [hm, Option.map_some, Option.some.injEq] at h
    rw [← h, left_sendMessage, List.getD_eq_getElem?_getD, hm, Option.getD_some]

theorem fresh_not_done {messages : List Bytes} {i : ℕ} {c : SendCall}
    (h : (messages.map sendMessage)[i]? = some c) : ¬ c.done := by
  rw [← left_eq_nil, fresh_left h]
  intro empty
  have := congrArg List.length empty
  rw [frame_length] at this
  simp [sizeofSizeT] at this

theorem sender_under {messages : List Bytes} {s : State} {i : ℕ} {n : ℕ} {c : SendCall}
    (framed : Framed messages s) (alone : Alone messages s ⟨i, n⟩) (hc : s.calls[i]? = some c)
    (open' : ¬ c.done) :
    ∃ order part, Ordered messages s order (some i) ∧ Under messages s order i part := by
  obtain ⟨order, ⟨ord, hs⟩ | ⟨k, part, ord, ⟨hk, hs, ck, hck, dk, hpart⟩, hne⟩⟩ := framed
  · have hi : i ∉ order := by
      intro hi
      rw [ord.finished i hi] at hc
      exact open' (by simpa [SendCall.done] using hc.symm)
    have hlt : i < messages.length := by
      rw [← ord.size]
      exact (List.getElem?_eq_some_iff.mp hc).1
    have hfresh := hc ▸ ord.fresh i hlt hi (by simp)
    exact ⟨order, [], ⟨ord.size, ord.nodup, ord.range, ord.finished,
      fun j hj hjo _ => ord.fresh j hj hjo (by simp)⟩,
      hi, by simpa using hs, c, hc, open', by simpa using fresh_left hfresh.symm⟩
  · have hki : k = i := by
      by_contra hki
      have hlt : k < messages.length := by
        rw [← ord.size]
        exact (List.getElem?_eq_some_iff.mp hck).1
      rcases alone k hlt hki with start | done
      · -- nothing sent yet would leave the part empty
        have := fresh_left (start ▸ hck)
        rw [← hpart, List.self_eq_append_left] at this
        exact hne this
      · rw [done, Option.some.injEq] at hck
        exact dk hck.symm
    subst hki
    exact ⟨order, part, ord, hk, hs, ck, hck, dk, hpart⟩

theorem framed_step {messages : List Bytes} {s u : State} {e : Event}
    (framed : Framed messages s) (alone : Alone messages s e) (h : step s e = some u) :
    Framed messages u := by
  obtain ⟨i, n⟩ := e
  obtain ⟨c, c', bytes, hc, hleft, hne, rfl⟩ := step_cases h
  have open' : ¬ c.done := by
    rw [← left_eq_nil, hleft]
    simp [hne]
  obtain ⟨order, part, ord, hi, hs, c₀, hc₀, _, hpart⟩ := sender_under framed alone hc open'
  obtain rfl : c₀ = c := by
    rw [hc] at hc₀
    exact (Option.some.inj hc₀).symm
  have hlt : i < s.calls.length := (List.getElem?_eq_some_iff.mp hc).1
  have self : (s.calls.set i c')[i]? = some c' := by simp [hlt]
  have other : ∀ j, j ≠ i → (s.calls.set i c')[j]? = s.calls[j]? :=
    fun j hj => List.getElem?_set_ne (Ne.symm hj)
  have hnew : (part ++ bytes) ++ left c' = frame sizeofSizeT (messages.getD i []) := by
    rw [← hpart, hleft, List.append_assoc]
  have away : ∀ j ∈ order, j ≠ i := fun j hj eq => hi (eq ▸ hj)
  by_cases done : c'.done
  · refine ⟨order ++ [i], Or.inl ⟨⟨by simpa using ord.size, ?_, ?_, ?_, ?_⟩, ?_⟩⟩
    · exact List.nodup_append.mpr ⟨ord.nodup, by simp, by simpa using away⟩
    · intro j hj
      rcases List.mem_append.mp hj with hj | hj
      · exact ord.range j hj
      · obtain rfl : j = i := by simpa using hj
        exact ord.size ▸ hlt
    · intro j hj
      rcases List.mem_append.mp hj with hj | hj
      · exact (other j (away j hj)).trans (ord.finished j hj)
      · obtain rfl : j = i := by simpa using hj
        rw [self, done]
    · intro j hj hjo _
      simp only [List.mem_append, List.mem_singleton, not_or] at hjo
      exact (other j hjo.2).trans (ord.fresh j hj hjo.1 (by simpa using hjo.2))
    · rw [(left_eq_nil c').mpr done, List.append_nil] at hnew
      rw [frames_snoc, ← hnew, hs, List.append_assoc]
  · refine ⟨order, Or.inr ⟨i, part ++ bytes, ⟨by simpa using ord.size, ord.nodup, ord.range,
      fun j hj => (other j (away j hj)).trans (ord.finished j hj), ?_⟩,
      ⟨hi, by simp [hs], c', self, done, hnew⟩, by simp [hne]⟩⟩
    intro j hj hjo hji
    exact (other j (by simpa using hji)).trans (ord.fresh j hj hjo hji)

theorem run_framed {messages : List Bytes} {es : List Event} {s : State}
    (h : Runs step (Alone messages) (initial messages) es s) : Framed messages s :=
  h.state_invariant (Framed messages) (initial_framed messages)
    (fun _ _ _ framed alone hs => framed_step framed alone hs)

/-- Once everybody has finished, the stream is the frames of all messages in some order. -/
theorem finished_stream {messages : List Bytes} {s : State} (framed : Framed messages s)
    (finished : Finished s) :
    ∃ order, order.Perm (List.range messages.length) ∧ s.stream = frames messages order := by
  obtain ⟨order, ⟨ord, hs⟩ | ⟨i, part, _, ⟨_, _, c, hc, open', _⟩, _⟩⟩ := framed
  · refine ⟨order, (List.perm_ext_iff_of_nodup ord.nodup List.nodup_range).mpr ?_, hs⟩
    intro j
    rw [List.mem_range]
    refine ⟨ord.range j, fun hj => ?_⟩
    by_contra hjo
    have hfresh := ord.fresh j hj hjo (by simp)
    have hlt : j < s.calls.length := ord.size ▸ hj
    rw [List.getElem?_eq_getElem hlt] at hfresh
    exact fresh_not_done hfresh.symm (finished _ (List.getElem_mem hlt))
  · exact absurd (finished c (List.mem_of_getElem? hc)) open'

theorem range_getD {α : Type*} (xs : List α) (d : α) :
    (List.range xs.length).map (fun j => xs.getD j d) = xs := by
  apply List.ext_getElem
  · simp
  · intro j h _
    have hj : j < xs.length := by simpa using h
    simp [hj]

/-- The peer's calls of `recv_message` all succeed, and return the messages that were sent:
    none lost, none altered, none invented. -/
def ReceivedIntact (messages : List Bytes) (chunk : ℕ → ℕ) (stream : Bytes) : Prop :=
  ∃ out : List Bytes, out.Perm messages ∧
    (recvMessages chunk messages.length ⟨stream, 0⟩).1.map Received.message = out.map some ∧
    (recvMessages chunk messages.length ⟨stream, 0⟩).2.stream = []

/-- It is so when no `send` call falls inside somebody else's frame. -/
theorem alone_receivedIntact (messages : List Bytes)
    (short : ∀ m ∈ messages, m.length ≤ maxMsgSize) (es : List Event) (s : State)
    (run : Runs step (Alone messages) (initial messages) es s) (finished : Finished s)
    (chunk : ℕ → ℕ) : ReceivedIntact messages chunk s.stream := by
  obtain ⟨order, hperm, hs⟩ := finished_stream (run_framed run) finished
  let out := order.map (fun j => messages.getD j [])
  have hout : out.Perm messages := by
    simpa only [out, range_getD] using hperm.map (fun j => messages.getD j [])
  have hstream : s.stream = (out.map (frame sizeofSizeT)).flatten ++ [] := by
    rw [hs, frames, List.append_nil, List.map_map]
    rfl
  obtain ⟨calls, h⟩ := recvMessages_frames chunk out
    (fun m hm => short m (hout.mem_iff.mp hm)) [] 0
  rw [hout.length_eq, ← hstream] at h
  refine ⟨out, hout, ?_, by rw [h]⟩
  rw [h, List.map_map]
  rfl

/-- Two `monitor_child` threads that both get the length out before either sends `CRASH`. -/
def crossedSends : List Event := [⟨0, 8⟩, ⟨1, 8⟩, ⟨0, 5⟩, ⟨1, 5⟩]

/-- The peer takes the second length for a message, and the two `CRASH` for a length. -/
theorem crossedSends_not_intact : ∃ s,
    Runs step anyStep (initial [CRASH, CRASH]) crossedSends s ∧ Finished s ∧
      ¬ ReceivedIntact [CRASH, CRASH] (fun _ => 4096) s.stream := by
  obtain ⟨s, hs, h⟩ := exists_execute step (initial [CRASH, CRASH]) crossedSends
    (fun s => decide (Finished s ∧
      (recvMessages (fun _ => 4096) 2 ⟨s.stream, 0⟩).1.map Received.message =
        [some [5, 0, 0, 0, 0], none])) (by decide +kernel)
  obtain ⟨finished, received⟩ := of_decide_eq_true h
  refine ⟨s, runs_of_unguarded hs, finished, ?_⟩
  rintro ⟨out, -, intact, -⟩
  have failed : (none : Option Bytes) ∈ out.map some := by
    rw [← intact]
    exact received ▸ by simp
  simp at failed

def queuedSends : List Event := [⟨1, 3⟩, ⟨1, 5⟩, ⟨1, 5⟩, ⟨0, 8⟩, ⟨0, 4⟩, ⟨0, 1⟩]

theorem queuedSends_intact : ∃ s,
    Runs step (Alone [CRASH, CRASH]) (initial [CRASH, CRASH]) queuedSends s ∧ Finished s ∧
      ReceivedIntact [CRASH, CRASH] (fun _ => 2) s.stream := by
  obtain ⟨s, hs, h⟩ := exists_execute (guarded step (Alone [CRASH, CRASH]))
    (initial [CRASH, CRASH]) queuedSends (fun s => decide (Finished s)) (by decide +kernel)
  have run := runs_of_guarded hs
  have finished := of_decide_eq_true h
  exact ⟨s, run, finished, alone_receivedIntact [CRASH, CRASH] (by decide) queuedSends s run
    finished (fun _ => 2)⟩

end Cezfuzzer.LauncherSenders
