import Cezfuzzer.LauncherSenders

set_option autoImplicit false

/-!
# One sender and one receiver

`send_message` for one message after another at one end of a connection, and `recv_message` as
often at the other end. The steps are the single `send` and `recv` calls, in any interleaving.
-/
namespace Cezfuzzer.LauncherRoundTrip
open StepRuns LengthPrefix LauncherFraming
open LauncherSenders (left left_sendMessage left_eq_nil send_left)

/-- Each launcher has a copy of both functions. -/
inductive Program where
  | client
  | server
  deriving DecidableEq, Repr

/-- `MAX_MSG_SIZE` of `Client.hpp` and of `Server.hpp` -/
def Program.maxMsgSize : Program → ℕ
  | .client => 4096
  | .server => 4096

def Program.sendMessage : Program → Bytes → SendCall
  | .client, message => LauncherFraming.sendMessage message
  | .server, message => LauncherFraming.sendMessage message

/-- A running `recv_message`, in its first loop or in its second. -/
inductive RecvCall where
  | length (received : Bytes)
  | message (len : ℕ) (received : Bytes)
  deriving DecidableEq, Repr

/-- The number of bytes that the next `recv` asks for. -/
def RecvCall.asked : RecvCall → ℕ
  | .length received => sizeofSizeT - received.length
  | .message len received => len - received.length

/-- Between the two loops, the second of which has no round for an empty message. -/
def afterLength (p : Program) (len : ℕ) : RecvCall ⊕ Received :=
  if len > p.maxMsgSize then .inr ⟨none, []⟩
  else if len = 0 then .inr ⟨some 0, []⟩
  else .inl (.message len [])

def RecvCall.receive (p : Program) (bytes : Bytes) : RecvCall → RecvCall ⊕ Received
  | .length received =>
    if (received ++ bytes).length < sizeofSizeT then .inl (.length (received ++ bytes))
    else afterLength p (wordValue (received ++ bytes))
  | .message len received =>
    if (received ++ bytes).length < len then .inl (.message len (received ++ bytes))
    else .inr ⟨some len, received ++ bytes⟩

/-- The `send_message` calls that have not returned, the bytes on their way, the `recv_message`
    call that is running and the number of those to come, and what the calls have returned. -/
structure State where
  calls : List SendCall
  stream : Bytes
  call : Option RecvCall
  later : ℕ
  results : List Received
  deriving DecidableEq, Repr

def State.startCall (s : State) : State :=
  match s.later with
  | 0 => { s with call := none }
  | n + 1 => { s with call := some (.length []), later := n }

def initial (sender : Program) (messages : List Bytes) : State :=
  State.startCall ⟨messages.map sender.sendMessage, [], none, messages.length, []⟩

inductive Event where
  | send (accepted : ℕ)
  | recv (returned : ℕ)
  deriving DecidableEq, Repr

def State.send (s : State) (accepted : ℕ) : Option State :=
  match s.calls with
  | [] => none
  | c :: calls => (c.send accepted).map (fun (bytes, c') =>
      { s with
        calls := if c'.done then calls else c' :: calls
        stream := s.stream ++ bytes })

/-- A `recv` call blocks while nothing is there. -/
def State.recv (receiver : Program) (s : State) (returned : ℕ) : Option State :=
  match s.call with
  | none => none
  | some c =>
    if 1 ≤ returned ∧ returned ≤ c.asked ∧ returned ≤ s.stream.length then
      let s' := { s with stream := s.stream.drop returned }
      match c.receive receiver (s.stream.take returned) with
      | .inl c' => some { s' with call := some c' }
      | .inr result => some (State.startCall { s' with results := s.results ++ [result] })
    else none

def step (receiver : Program) (s : State) : Event → Option State
  | .send accepted => s.send accepted
  | .recv returned => s.recv receiver returned

/-- What `recv_message` should make of a message: its length, and its bytes. -/
def received (message : Bytes) : Received := ⟨some message.length, message⟩

def frames (messages : List Bytes) : Bytes := (messages.map (frame sizeofSizeT)).flatten

def unsent (s : State) : Bytes := (s.calls.map left).flatten

/-- What a running call has taken from the stream. -/
def RecvCall.taken : RecvCall → Bytes
  | .length received => received
  | .message len received => wordBytes sizeofSizeT len ++ received

def takenBy (s : State) : Bytes := s.call.elim [] RecvCall.taken

/-- The call is in the middle of the message `m`. -/
inductive Reading (m : Bytes) : RecvCall → Prop where
  | length (received : Bytes) (short : received.length < sizeofSizeT) :
    Reading m (.length received)
  | message (received : Bytes) (short : received.length < m.length) :
    Reading m (.message m.length received)

/-- What has been received, what is on its way and what has not been sent are the messages. -/
structure Aligned (messages : List Bytes) (s : State) : Prop where
  results : s.results = (messages.take s.results.length).map received
  bytes : takenBy s ++ s.stream ++ unsent s = frames (messages.drop s.results.length)
  busy : ∀ c ∈ s.calls, ¬ c.done
  reading : ∀ c, s.call = some c →
    ∃ m, messages[s.results.length]? = some m ∧ Reading m c
  count : s.results.length + s.later + (if s.call = none then 0 else 1) = messages.length
  rest : s.call = none → s.later = 0

theorem frames_drop {messages : List Bytes} {k : ℕ} {m : Bytes} (h : messages[k]? = some m) :
    frames (messages.drop k) =
      wordBytes sizeofSizeT m.length ++ (m ++ frames (messages.drop (k + 1))) := by
  obtain ⟨bound, rfl⟩ := List.getElem?_eq_some_iff.mp h
  rw [frames, List.drop_eq_getElem_cons bound, List.map_cons, List.flatten_cons, frame,
    List.append_assoc]
  rfl

theorem startCall_aligned {messages : List Bytes} {s : State}
    (results : s.results = (messages.take s.results.length).map received)
    (bytes : s.stream ++ unsent s = frames (messages.drop s.results.length))
    (busy : ∀ c ∈ s.calls, ¬ c.done) (count : s.results.length + s.later = messages.length) :
    Aligned messages s.startCall := by
  unfold State.startCall
  split
  · rename_i last
    exact ⟨results, by simpa [takenBy, unsent] using bytes, busy, by simp, by simp; omega,
      fun _ => last⟩
  · rename_i n later
    refine ⟨results, by simpa [takenBy, unsent, RecvCall.taken] using bytes, busy, ?_,
      by simp; omega, by simp⟩
    intro c hc
    cases hc
    have bound : s.results.length < messages.length := by omega
    exact ⟨_, List.getElem?_eq_getElem bound, .length [] (by simp [sizeofSizeT])⟩

theorem sendMessage_eq (p : Program) (message : Bytes) :
    p.sendMessage message = LauncherFraming.sendMessage message := by
  cases p <;> rfl

theorem unsent_initial (sender : Program) (messages : List Bytes) :
    ((messages.map sender.sendMessage).map left).flatten = frames messages := by
  rw [List.map_map, frames]
  congr 1
  apply List.map_congr_left
  intro m _
  rw [Function.comp_apply, sendMessage_eq, left_sendMessage]

theorem initial_aligned (sender : Program) (messages : List Bytes) :
    Aligned messages (initial sender messages) := by
  refine startCall_aligned rfl ?_ ?_ (by simp)
  · simpa [unsent] using unsent_initial sender messages
  · intro c hc
    obtain ⟨m, -, rfl⟩ := List.mem_map.mp hc
    rw [sendMessage_eq, ← left_eq_nil, left_sendMessage]
    intro empty
    have := congrArg List.length empty
    simp [frame_length, sizeofSizeT] at this

theorem send_cases {s u : State} {n : ℕ} (h : s.send n = some u) :
    ∃ c c' calls bytes, s.calls = c :: calls ∧ left c = bytes ++ left c' ∧ bytes ≠ [] ∧
      u = { s with
        calls := if c'.done then calls else c' :: calls
        stream := s.stream ++ bytes } := by
  unfold State.send at h
  split at h
  · cases h
  · rename_i c calls hcalls
    obtain ⟨⟨bytes, c'⟩, hsend, rfl⟩ := Option.map_eq_some_iff.mp h
    obtain ⟨hleft, nonempty⟩ := send_left hsend
    exact ⟨c, c', calls, bytes, hcalls, hleft, nonempty, rfl⟩

/-- A call that has returned has nothing left to send. -/
theorem left_popped (c : SendCall) (calls : List SendCall) :
    ((if c.done then calls else c :: calls).map left).flatten =
      left c ++ (calls.map left).flatten := by
  split
  · rename_i done
    rw [(left_eq_nil c).mpr done, List.nil_append]
  · rw [List.map_cons, List.flatten_cons]

theorem send_aligned {messages : List Bytes} {s u : State} {n : ℕ} (aligned : Aligned messages s)
    (h : s.send n = some u) : Aligned messages u := by
  obtain ⟨c, c', calls, bytes, hcalls, hleft, -, rfl⟩ := send_cases h
  refine ⟨aligned.results, ?_, ?_, aligned.reading, aligned.count, aligned.rest⟩
  · rw [← aligned.bytes]
    simp only [takenBy, unsent, left_popped, hcalls, List.map_cons, List.flatten_cons, hleft,
      List.append_assoc]
  · intro x hx
    have busy := hcalls ▸ aligned.busy
    split at hx
    · exact busy x (List.mem_cons_of_mem _ hx)
    · rename_i running
      rcases List.mem_cons.mp hx with rfl | hx
      · exact running
      · exact busy x (List.mem_cons_of_mem _ hx)

theorem maxMsgSize_lt (p : Program) : p.maxMsgSize < 256 ^ sizeofSizeT := by
  cases p <;> decide

/-- Between the two loops the length is known to be that of the message. -/
theorem receive_length {p : Program} {m got bytes rest tail : Bytes}
    (short : m.length ≤ p.maxMsgSize) (few : (got ++ bytes).length ≤ sizeofSizeT)
    (same : got ++ bytes ++ rest = wordBytes sizeofSizeT m.length ++ (m ++ tail)) :
    (∃ c', (RecvCall.length got).receive p bytes = .inl c' ∧ Reading m c' ∧
      c'.taken = got ++ bytes) ∨
    ((RecvCall.length got).receive p bytes = .inr (received m) ∧ rest = tail) := by
  by_cases more : (got ++ bytes).length < sizeofSizeT
  · exact Or.inl ⟨_, if_pos more, .length _ more, rfl⟩
  · have full : (got ++ bytes).length = (wordBytes sizeofSizeT m.length).length := by
      rw [wordBytes_length]
      omega
    obtain ⟨word, body⟩ := List.append_inj same full
    have value : wordValue (got ++ bytes) = m.length := by
      rw [word, wordValue_wordBytes]
      exact lt_of_le_of_lt short (maxMsgSize_lt p)
    have between : (RecvCall.length got).receive p bytes = afterLength p m.length := by
      rw [RecvCall.receive, if_neg more, value]
    rw [between, afterLength, if_neg (not_lt.mpr short)]
    by_cases empty : m.length = 0
    · obtain rfl := List.eq_nil_of_length_eq_zero empty
      exact Or.inr ⟨if_pos rfl, by simpa using body⟩
    · refine Or.inl ⟨_, if_neg empty, .message [] (by simp; omega), ?_⟩
      rw [RecvCall.taken, List.append_nil, word]

theorem receive_message {p : Program} {m got bytes rest tail : Bytes}
    (few : (got ++ bytes).length ≤ m.length) (same : got ++ bytes ++ rest = m ++ tail) :
    (∃ c', (RecvCall.message m.length got).receive p bytes = .inl c' ∧ Reading m c' ∧
      c'.taken = wordBytes sizeofSizeT m.length ++ (got ++ bytes)) ∨
    ((RecvCall.message m.length got).receive p bytes = .inr (received m) ∧ rest = tail) := by
  by_cases more : (got ++ bytes).length < m.length
  · exact Or.inl ⟨_, if_pos more, .message _ more, rfl⟩
  · obtain ⟨body, rest⟩ := List.append_inj same (by omega)
    refine Or.inr ⟨?_, rest⟩
    rw [RecvCall.receive, if_neg more, body]
    rfl

theorem receive_reading {p : Program} {m bytes rest tail : Bytes} {c : RecvCall}
    (reading : Reading m c) (short : m.length ≤ p.maxMsgSize) (few : bytes.length ≤ c.asked)
    (same : c.taken ++ bytes ++ rest = wordBytes sizeofSizeT m.length ++ (m ++ tail)) :
    (∃ c', c.receive p bytes = .inl c' ∧ Reading m c' ∧ c'.taken = c.taken ++ bytes) ∨
    (c.receive p bytes = .inr (received m) ∧ rest = tail) := by
  cases reading with
  | length got less =>
    refine receive_length short ?_ same
    rw [List.length_append]
    simp only [RecvCall.asked] at few
    omega
  | message got less =>
    simp only [RecvCall.taken, List.append_assoc, List.append_cancel_left_eq] at same ⊢
    refine receive_message ?_ (by rwa [List.append_assoc])
    rw [List.length_append]
    simp only [RecvCall.asked] at few
    omega

theorem recv_cases {p : Program} {s u : State} {n : ℕ} (h : s.recv p n = some u) :
    ∃ c, s.call = some c ∧ 1 ≤ n ∧ n ≤ c.asked ∧ n ≤ s.stream.length ∧
      ((∃ c', c.receive p (s.stream.take n) = .inl c' ∧
        u = { s with stream := s.stream.drop n, call := some c' }) ∨
      ∃ result, c.receive p (s.stream.take n) = .inr result ∧
        u = State.startCall
          { s with stream := s.stream.drop n, results := s.results ++ [result] }) := by
  unfold State.recv at h
  split at h
  · cases h
  · rename_i c hc
    split at h
    · rename_i bounds
      refine ⟨c, hc, bounds.1, bounds.2.1, bounds.2.2, ?_⟩
      simp only at h
      split at h
      · rename_i c' hreceive
        exact Or.inl ⟨c', hreceive, (Option.some.inj h).symm⟩
      · rename_i result hreceive
        exact Or.inr ⟨result, hreceive, (Option.some.inj h).symm⟩
    · cases h

theorem recv_aligned {p : Program} {messages : List Bytes} {s u : State} {n : ℕ}
    (short : ∀ m ∈ messages, m.length ≤ p.maxMsgSize) (aligned : Aligned messages s)
    (h : s.recv p n = some u) : Aligned messages u := by
  obtain ⟨c, hc, -, few, -, after⟩ := recv_cases h
  obtain ⟨m, hm, reading⟩ := aligned.reading c hc
  have same := aligned.bytes
  rw [frames_drop hm, takenBy, hc, Option.elim_some, ← List.take_append_drop n s.stream,
    List.append_assoc, List.append_assoc, ← List.append_assoc] at same
  have next := receive_reading reading (short m (List.mem_of_getElem? hm))
    (by rw [List.length_take]; omega) same
  rcases after with ⟨c', hreceive, rfl⟩ | ⟨result, hreceive, rfl⟩
  · rw [hreceive] at next
    obtain ⟨_, eq, reading', taken⟩ := next.resolve_right (by simp)
    cases eq
    refine ⟨aligned.results, ?_, aligned.busy, ?_, by simpa [hc] using aligned.count, by simp⟩
    · rw [frames_drop hm, ← same]
      simp only [takenBy, Option.elim_some, taken, unsent, List.append_assoc]
    · rintro _ ⟨⟩
      exact ⟨m, hm, reading'⟩
  · rw [hreceive] at next
    obtain ⟨eq, rest⟩ := next.resolve_left (by simp)
    cases eq
    refine startCall_aligned ?_ ?_ aligned.busy ?_
    · rw [List.length_append, List.length_singleton, List.take_add_one, hm, Option.toList_some,
        List.map_append, ← aligned.results]
      rfl
    · rw [List.length_append, List.length_singleton, ← rest]
      rfl
    · have count := aligned.count
      rw [hc, if_neg (by simp)] at count
      rw [List.length_append, List.length_singleton]
      simp only
      omega

theorem run_aligned {sender receiver : Program} {messages : List Bytes}
    (short : ∀ m ∈ messages, m.length ≤ receiver.maxMsgSize) {es : List Event} {s : State}
    (run : Runs (step receiver) anyStep (initial sender messages) es s) : Aligned messages s := by
  refine run.state_invariant (Aligned messages) (initial_aligned sender messages) ?_
  intro t e u aligned _ h
  cases e with
  | send n => exact send_aligned aligned h
  | recv n => exact recv_aligned short aligned h

/-- Every byte is sent once and received once. -/
def work (s : State) : ℕ := 2 * (unsent s).length + s.stream.length

theorem startCall_work (s : State) : work s.startCall = work s := by
  unfold State.startCall
  split <;> rfl

theorem step_work {p : Program} {s u : State} {e : Event} (h : step p s e = some u) :
    work u + 1 ≤ work s := by
  cases e with
  | send n =>
    obtain ⟨c, c', calls, bytes, hcalls, hleft, nonempty, rfl⟩ := send_cases h
    have some := List.length_pos_of_ne_nil nonempty
    simp only [work, unsent, left_popped, hcalls, List.map_cons, List.flatten_cons, hleft,
      List.length_append]
    omega
  | recv n =>
    obtain ⟨c, hc, some, -, there, ⟨c', -, rfl⟩ | ⟨result, -, rfl⟩⟩ := recv_cases h
    · simp only [work, unsent, List.length_drop]
      omega
    · rw [startCall_work]
      simp only [work, unsent, List.length_drop]
      omega

theorem run_work {sender receiver : Program} {messages : List Bytes} {es : List Event} {s : State}
    (run : Runs (step receiver) anyStep (initial sender messages) es s) :
    es.length + work s ≤ 2 * (frames messages).length := by
  refine run.invariant (fun es s => es.length + work s ≤ 2 * (frames messages).length) ?_ ?_
  · rw [initial, startCall_work, work, unsent, unsent_initial]
    simp
  · intro es t e u bound _ h
    have := step_work h
    rw [List.length_append, List.length_singleton]
    omega

theorem send_enabled {c : SendCall} (running : ¬ c.done) :
    ∃ bytes c', c.send 1 = some (bytes, c') := by
  obtain ⟨length, message⟩ := c
  unfold SendCall.send
  by_cases out : length = []
  · subst out
    have some : 1 ≤ message.length := by
      rw [Nat.one_le_iff_ne_zero]
      intro empty
      exact running (by rw [SendCall.done, List.eq_nil_of_length_eq_zero empty])
    simp [some]
  · have some := List.length_pos_of_ne_nil out
    simp only [ne_eq, out, not_false_eq_true, if_true]
    rw [if_pos ⟨le_rfl, some⟩]
    exact ⟨_, _, rfl⟩

theorem reading_asked {m : Bytes} {c : RecvCall} (reading : Reading m c) :
    1 ≤ c.asked ∧ c.taken.length < sizeofSizeT + m.length := by
  cases reading with
  | length got short =>
    simp only [RecvCall.asked, RecvCall.taken]
    omega
  | message got short =>
    simp only [RecvCall.asked, RecvCall.taken, List.length_append, wordBytes_length]
    omega

/-- Neither end can wait for the other for ever. -/
theorem stuck_complete {p : Program} {messages : List Bytes} {s : State}
    (aligned : Aligned messages s) (stuck : ∀ e, step p s e = none) :
    s.calls = [] ∧ s.call = none := by
  have calls : s.calls = [] := by
    by_contra some
    obtain ⟨c, calls, hcalls⟩ := List.exists_cons_of_ne_nil some
    obtain ⟨bytes, c', hsend⟩ := send_enabled (aligned.busy c (by simp [hcalls]))
    have := stuck (.send 1)
    simp [step, State.send, hcalls, hsend] at this
  refine ⟨calls, ?_⟩
  cases hc : s.call with
  | none => rfl
  | some c =>
    obtain ⟨m, hm, reading⟩ := aligned.reading c hc
    obtain ⟨asked, fewer⟩ := reading_asked reading
    have bytes := congrArg List.length aligned.bytes
    rw [frames_drop hm] at bytes
    simp only [takenBy, hc, Option.elim_some, unsent, calls, List.map_nil, List.flatten_nil,
      List.append_nil, List.length_append, wordBytes_length] at bytes
    have there : 1 ≤ s.stream.length := by omega
    have := stuck (.recv 1)
    simp only [step, State.recv, hc, le_rfl, asked, there, and_self, if_true] at this
    split at this <;> cases this

/-- The reader of single `recv` calls and `recvMessages` on the whole stream agree. -/
theorem sequential_results (p : Program) (messages : List Bytes)
    (short : ∀ m ∈ messages, m.length ≤ p.maxMsgSize) (chunk : ℕ → ℕ) :
    (recvMessages chunk messages.length ⟨frames messages, 0⟩).1 = messages.map received := by
  have limit : p.maxMsgSize = maxMsgSize := by cases p <;> rfl
  obtain ⟨calls, h⟩ := recvMessages_frames chunk messages (limit ▸ short) [] 0
  rw [List.append_nil] at h
  rw [frames, h]
  rfl

/-- Over any fragmentation and in any order of the calls at the two ends: what has been received
    is what was sent, no run goes on for ever, and where it ends everything has been received and
    nothing is left in the stream. -/
theorem round_trip (sender receiver : Program) (messages : List Bytes)
    (short : ∀ m ∈ messages, m.length ≤ receiver.maxMsgSize) (es : List Event) (s : State)
    (run : Runs (step receiver) anyStep (initial sender messages) es s) :
    s.results = (messages.take s.results.length).map received ∧
      es.length ≤ 2 * (frames messages).length ∧
      ((∀ e, step receiver s e = none) →
        s.results = messages.map received ∧ s.stream = [] ∧ s.calls = [] ∧ s.call = none) := by
  have aligned := run_aligned short run
  have bound := run_work run
  refine ⟨aligned.results, by omega, fun stuck => ?_⟩
  obtain ⟨calls, call⟩ := stuck_complete aligned stuck
  have all : s.results.length = messages.length := by
    have count := aligned.count
    rw [aligned.rest call, if_pos call] at count
    omega
  have bytes := aligned.bytes
  rw [all, List.drop_length, unsent, calls, takenBy, call] at bytes
  have results := aligned.results
  rw [all, List.take_length] at results
  exact ⟨results, by simpa [frames] using bytes, calls, call⟩

def emptyThenTwo : List Bytes := [[], [7, 8]]

/-- The first length is split in three at either end, and the two ends take turns. -/
def fragments : List Event :=
  [.send 3, .recv 2, .send 4, .send 1, .recv 1, .recv 5, .send 8, .recv 8, .send 1, .recv 1,
    .send 1, .recv 1]

theorem emptyThenTwo_round_trip : ∃ s,
    Runs (step .server) anyStep (initial .client emptyThenTwo) fragments s ∧
      s.results = emptyThenTwo.map received ∧ s.stream = [] := by
  obtain ⟨s, hs, ended⟩ := exists_execute (step .server) (initial .client emptyThenTwo) fragments
    (fun s => s.calls = [] ∧ s.call = none) (by decide +kernel)
  obtain ⟨calls, call⟩ := of_decide_eq_true ended
  have run := runs_of_unguarded hs
  obtain ⟨-, -, complete⟩ := round_trip .client .server emptyThenTwo (by decide) fragments s run
  obtain ⟨results, stream, -⟩ := complete (by
    intro e
    cases e with
    | send n => simp [step, State.send, calls]
    | recv n => simp [step, State.recv, call])
  exact ⟨s, run, results, stream⟩

end Cezfuzzer.LauncherRoundTrip
