import Cezfuzzer.TCPChannels

set_option autoImplicit false

/-!
# What the channels of the TCP proxy carry

Each connection thread takes every byte of its own client or server once and in order, and all
that ever goes to its counterpart is what it has made of these bytes. The threads together do
what each `_connection_thread_loop` does alone. No UDP entities share the process.
-/
namespace Cezfuzzer.TCPStreams
open StepRuns LengthPrefix FuzzerCore TCPRedirections TCPProxy TCPChannels
open TCPConnectionLoop (Channel Write bufferSize connectionThreadLoop)

variable {rounds : ℕ} {attempts : List ListenAttempt} {s u : State} {e : Event}

/-- The chunks that a thread has received. -/
def chunksOf (t : Thread) : List Bytes :=
  t.sends.map Sent.chunk ++ match t.control with
    | .receiving => []
    | .fuzzing chunk | .sending chunk _ _ => [chunk]

/-- The bytes that `send` has accepted from a thread. -/
def outputOf (t : Thread) : Bytes :=
  (t.sends.map (fun x => x.buffer.take x.accepted)).flatten

structure Streams (s : State) : Prop where
  bounded : ∀ (j : ℕ) (k : Socket), s.sockets[j]? = some k → k.taken ≤ k.arrived.length
  received : ∀ t ∈ s.threads, ∀ k, s.sockets[t.recv_fd]? = some k →
    k.arrived.take k.taken = (chunksOf t).flatten
  sent : ∀ t ∈ s.threads, ∀ k, s.sockets[t.send_fd]? = some k → k.sent = outputOf t
  unread : ∀ (j : ℕ) (k : Socket), s.sockets[j]? = some k → (∀ p ∈ links s, p.1 ≠ j) → k.taken = 0
  unwritten : ∀ (j : ℕ) (k : Socket), s.sockets[j]? = some k → (∀ p ∈ links s, p.2 ≠ j) →
    k.sent = []

/-- Nothing has been received or sent: sockets and threads are as before, or new. -/
structure Carried (s u : State) : Prop where
  socket : ∀ (j : ℕ) (k' : Socket), u.sockets[j]? = some k' →
    (∃ k, s.sockets[j]? = some k ∧ k'.taken = k.taken ∧ k'.sent = k.sent ∧
      k.arrived <+: k'.arrived) ∨ k'.taken = 0 ∧ k'.sent = [] ∧ s.sockets.length ≤ j
  thread : ∀ t' ∈ u.threads,
    (∃ t ∈ s.threads, t'.recv_fd = t.recv_fd ∧ t'.send_fd = t.send_fd ∧
      chunksOf t' = chunksOf t ∧ outputOf t' = outputOf t) ∨
    chunksOf t' = [] ∧ outputOf t' = [] ∧
      ∀ p ∈ links s, p.1 ≠ t'.recv_fd ∧ p.2 ≠ t'.send_fd
  links : ∀ p ∈ links s, p ∈ links u

theorem made_of_thread (wired : Wired s) {t : Thread} (member : t ∈ s.threads) :
    t.recv_fd < s.sockets.length ∧ t.send_fd < s.sockets.length := by
  have used : ∀ (fd : Thread → ℕ) (toUse : ListenPhase → List ℕ), users fd toUse s (fd t) ≠ 0 := by
    intro fd toUse
    have := Tallies.le_tally (fun x => if fd x = fd t then 1 else 0) member
    simp only [if_true] at this
    simp only [users]
    omega
  exact ⟨wired.reader.made _ (used _ _), wired.writer.made _ (used _ _)⟩

theorem streams_carried (wired : Wired s) (streams : Streams s) (carried : Carried s u) :
    Streams u := by
  refine ⟨fun j k' h => ?_, fun t' ht k' h => ?_, fun t' ht k' h => ?_, fun j k' h unread => ?_,
    fun j k' h unwritten => ?_⟩
  · rcases carried.socket j k' h with ⟨k, hk, taken, -, arrived⟩ | ⟨taken, -⟩
    · have := streams.bounded j k hk
      have := arrived.length_le
      omega
    · omega
  · rcases carried.thread t' ht with ⟨t, member, recv_fd, -, chunks, -⟩ | ⟨chunks, -, fresh⟩
    · rw [recv_fd] at h
      rcases carried.socket _ k' h with ⟨k, hk, taken, -, arrived⟩ | ⟨-, -, new⟩
      · obtain ⟨more, same⟩ := arrived
        rw [taken, ← same, List.take_append_of_le_length (streams.bounded _ k hk), chunks]
        exact streams.received t member k hk
      · exact absurd (made_of_thread wired member).1 (by omega)
    · have taken : k'.taken = 0 := by
        rcases carried.socket _ k' h with ⟨k, hk, taken, -⟩ | ⟨taken, -⟩
        · exact taken.trans (streams.unread _ k hk fun p hp => (fresh p hp).1)
        · exact taken
      simp [taken, chunks]
  · rcases carried.thread t' ht with ⟨t, member, -, send_fd, -, output⟩ | ⟨-, output, fresh⟩
    · rw [send_fd] at h
      rcases carried.socket _ k' h with ⟨k, hk, -, sent, -⟩ | ⟨-, -, new⟩
      · rw [sent, output]
        exact streams.sent t member k hk
      · exact absurd (made_of_thread wired member).2 (by omega)
    · rw [output]
      rcases carried.socket _ k' h with ⟨k, hk, -, sent, -⟩ | ⟨-, sent, -⟩
      · exact sent.trans (streams.unwritten _ k hk fun p hp => (fresh p hp).2)
      · exact sent
  · rcases carried.socket j k' h with ⟨k, hk, taken, -⟩ | ⟨taken, -⟩
    · exact taken.trans (streams.unread j k hk fun p hp => unread p (carried.links p hp))
    · exact taken
  · rcases carried.socket j k' h with ⟨k, hk, -, sent, -⟩ | ⟨-, sent, -⟩
    · exact sent.trans (streams.unwritten j k hk fun p hp => unwritten p (carried.links p hp))
    · exact sent

theorem carried_sockets (socket : ∀ (j : ℕ) (k' : Socket), u.sockets[j]? = some k' →
    (∃ k, s.sockets[j]? = some k ∧ k'.taken = k.taken ∧ k'.sent = k.sent ∧
      k.arrived <+: k'.arrived) ∨ k'.taken = 0 ∧ k'.sent = [] ∧ s.sockets.length ≤ j)
    (threads : u.threads = s.threads) : Carried s u := by
  refine ⟨socket, fun t' ht => Or.inl ⟨t', threads ▸ ht, rfl, rfl, rfl, rfl⟩, fun p hp => ?_⟩
  rwa [links, threads]

theorem socket_unchanged (same : u.sockets = s.sockets) {j : ℕ} {k' : Socket}
    (h : u.sockets[j]? = some k') :
    (∃ k, s.sockets[j]? = some k ∧ k'.taken = k.taken ∧ k'.sent = k.sent ∧
      k.arrived <+: k'.arrived) ∨ k'.taken = 0 ∧ k'.sent = [] ∧ s.sockets.length ≤ j :=
  Or.inl ⟨k', same ▸ h, rfl, rfl, List.prefix_rfl⟩

theorem carried_setSocket {j : ℕ} {k k₁ : Socket} (found : s.sockets[j]? = some k)
    (sockets : u.sockets = s.sockets.set j k₁) (threads : u.threads = s.threads)
    (taken : k₁.taken = k.taken) (sent : k₁.sent = k.sent) (arrived : k.arrived <+: k₁.arrived) :
    Carried s u := by
  refine carried_sockets (fun i k' h => ?_) threads
  rw [sockets] at h
  rcases getElem_set h with ⟨rfl, rfl⟩ | ⟨-, old⟩
  · exact Or.inl ⟨k, found, taken, sent, arrived⟩
  · exact Or.inl ⟨k', old, rfl, rfl, List.prefix_rfl⟩

theorem carried_newSocket {origin : Origin} (sockets : u.sockets = s.sockets ++ [newSocket origin])
    (threads : u.threads = s.threads) : Carried s u := by
  refine carried_sockets (fun i k' h => ?_) threads
  rw [sockets, List.getElem?_append] at h
  split at h
  · exact Or.inl ⟨k', h, rfl, rfl, List.prefix_rfl⟩
  · obtain rfl := List.mem_singleton.mp (List.mem_of_getElem? h)
    exact Or.inr ⟨rfl, rfl, by omega⟩

theorem carried_started {r w : ℕ} {ok : Bool} {x : List Listener}
    (fresh : ∀ p ∈ links s, p.1 ≠ r ∧ p.2 ≠ w) :
    Carried s (startConnectionThread { s with listeners := x } r w ok) := by
  cases ok with
  | false => exact carried_sockets (fun _ _ => socket_unchanged rfl) rfl
  | true =>
    refine ⟨fun _ _ => socket_unchanged rfl, fun t' ht => ?_, fun p hp => ?_⟩
    · rcases List.mem_append.mp ht with old | new
      · exact Or.inl ⟨t', old, rfl, rfl, rfl, rfl⟩
      · obtain rfl := List.mem_singleton.mp new
        exact Or.inr ⟨rfl, rfl, fresh⟩
    · simpa [links, startConnectionThread] using Or.inl (List.mem_map.mp hp)

theorem carried_move (wired : Wired s) (move : Move rounds s e u)
    (other : ∀ i n, e ≠ .thread i (.recv n) ∧ e ≠ .thread i (.send n)) :
    Carried s u := by
  cases move with
  | accept | socket => exact carried_newSocket rfl rfl
  | connect l c v x k found at' created =>
    exact carried_setSocket created rfl rfl rfl rfl List.prefix_rfl
  | arrives k x bytes found =>
    exact carried_setSocket found rfl rfl rfl rfl (List.prefix_append _ _)
  | ends k x found | breaks k x found =>
    exact carried_setSocket found rfl rfl rfl rfl List.prefix_rfl
  | startClient l c v x ok found at' =>
    refine carried_started fun p hp => ?_
    have fresh := wired.fresh found at' hp
    exact ⟨fresh.1.1, fresh.2.2⟩
  | startServer l c v x ok found at' =>
    refine carried_started fun p hp => ?_
    exact ⟨wired.unread found (by simp [toRead, at']) hp,
      wired.unwritten found (by simp [toWrite, at']) hp⟩
  | recv i n => exact absurd rfl (other i n).1
  | send i n => exact absurd rfl (other i n).2
  | fuzz i t chunk call fuzzed found at' =>
    refine ⟨fun _ _ => socket_unchanged rfl, fun t' ht => Or.inl ?_, fun p hp => ?_⟩
    · rcases List.mem_or_eq_of_mem_set ht with old | rfl
      · exact ⟨t', old, rfl, rfl, rfl, rfl⟩
      · exact ⟨t, List.mem_of_getElem? found, rfl, rfl, by simp [chunksOf, at'], rfl⟩
    · rwa [links_setThread found rfl (by rfl) (by rfl)]
  | _ => exact carried_sockets (fun _ _ => socket_unchanged rfl) rfl

theorem streams_recv (wired : Wired s) (streams : Streams s) {i n : ℕ} {t : Thread} {k : Socket}
    (found : s.threads[i]? = some t) (at' : t.control = .receiving)
    (socket : s.sockets[t.recv_fd]? = some k) (there : n ≤ k.available.length) :
    Streams ((s.setSocket t.recv_fd { k with taken := k.taken + n }).setThread i
      { t with control := .fuzzing (k.available.take n) }) := by
  have same : links ((s.setSocket t.recv_fd { k with taken := k.taken + n }).setThread i
      { t with control := .fuzzing (k.available.take n) }) = links s :=
    links_setThread found rfl (by rfl) (by rfl)
  have room := streams.bounded _ k socket
  rw [Socket.available, List.length_drop] at there
  refine ⟨fun j k' h => ?_, fun t' ht k' h => ?_, fun t' ht k' h => ?_, fun j k' h unread => ?_,
    fun j k' h unwritten => ?_⟩
  · rcases getElem_set h with ⟨rfl, rfl⟩ | ⟨-, old⟩
    · change k.taken + n ≤ k.arrived.length
      omega
    · exact streams.bounded j k' old
  · obtain ⟨j, hj⟩ := List.mem_iff_getElem?.mp ht
    rcases getElem_set hj with ⟨rfl, rfl⟩ | ⟨other, old⟩
    · rcases getElem_set h with ⟨-, rfl⟩ | ⟨absent, -⟩
      · have before := streams.received t (List.mem_of_getElem? found) k socket
        simp only [chunksOf, at', List.append_nil] at before
        simp [chunksOf, List.take_add, before, Socket.available]
      · exact absurd rfl absent
    · rcases getElem_set h with ⟨same, -⟩ | ⟨-, h⟩
      · exact absurd (wired.reader.alone old found same) other
      · exact streams.received t' (List.mem_of_getElem? old) k' h
  · have sent : ∃ k₀, s.sockets[t'.send_fd]? = some k₀ ∧ k'.sent = k₀.sent := by
      rcases getElem_set h with ⟨own, rfl⟩ | ⟨-, old⟩
      · exact ⟨k, own ▸ socket, rfl⟩
      · exact ⟨k', old, rfl⟩
    obtain ⟨k₀, h₀, sent⟩ := sent
    rw [sent]
    rcases List.mem_or_eq_of_mem_set ht with old | rfl
    · exact streams.sent t' old k₀ h₀
    · exact streams.sent t (List.mem_of_getElem? found) k₀ h₀
  · rw [same] at unread
    rcases getElem_set h with ⟨rfl, -⟩ | ⟨-, old⟩
    · exact absurd rfl (unread _ (List.mem_map_of_mem (List.mem_of_getElem? found)))
    · exact streams.unread j k' old unread
  · rw [same] at unwritten
    rcases getElem_set h with ⟨rfl, rfl⟩ | ⟨-, old⟩
    · exact streams.unwritten _ k socket unwritten
    · exact streams.unwritten j k' old unwritten

theorem streams_send (wired : Wired s) (streams : Streams s) {i n : ℕ} {t : Thread} {k : Socket}
    {chunk buffer : Bytes} {call : FuzzCall} (found : s.threads[i]? = some t)
    (at' : t.control = .sending chunk call buffer) (socket : s.sockets[t.send_fd]? = some k) :
    Streams ((s.setSocket t.send_fd { k with sent := k.sent ++ buffer.take n }).setThread i
      { t with control := .receiving, sends := t.sends ++ [⟨chunk, call, buffer, n⟩] }) := by
  have same : links ((s.setSocket t.send_fd { k with sent := k.sent ++ buffer.take n }).setThread i
      { t with control := .receiving, sends := t.sends ++ [⟨chunk, call, buffer, n⟩] }) =
      links s := links_setThread found rfl (by rfl) (by rfl)
  refine ⟨fun j k' h => ?_, fun t' ht k' h => ?_, fun t' ht k' h => ?_, fun j k' h unread => ?_,
    fun j k' h unwritten => ?_⟩
  · rcases getElem_set h with ⟨rfl, rfl⟩ | ⟨-, old⟩
    · exact streams.bounded _ k socket
    · exact streams.bounded j k' old
  · have arrived : ∃ k₀, s.sockets[t'.recv_fd]? = some k₀ ∧ k'.arrived = k₀.arrived ∧
        k'.taken = k₀.taken := by
      rcases getElem_set h with ⟨own, rfl⟩ | ⟨-, old⟩
      · exact ⟨k, own ▸ socket, rfl, rfl⟩
      · exact ⟨k', old, rfl, rfl⟩
    obtain ⟨k₀, h₀, arrived, taken⟩ := arrived
    rw [arrived, taken]
    rcases List.mem_or_eq_of_mem_set ht with old | rfl
    · exact streams.received t' old k₀ h₀
    · have before := streams.received t (List.mem_of_getElem? found) k₀ h₀
      rw [before]
      simp [chunksOf, at']
  · obtain ⟨j, hj⟩ := List.mem_iff_getElem?.mp ht
    rcases getElem_set hj with ⟨rfl, rfl⟩ | ⟨other, old⟩
    · rcases getElem_set h with ⟨-, rfl⟩ | ⟨absent, -⟩
      · have before := streams.sent t (List.mem_of_getElem? found) k socket
        simp [outputOf, before]
      · exact absurd rfl absent
    · rcases getElem_set h with ⟨same, -⟩ | ⟨-, h⟩
      · exact absurd (wired.writer.alone old found same) other
      · exact streams.sent t' (List.mem_of_getElem? old) k' h
  · rw [same] at unread
    rcases getElem_set h with ⟨rfl, rfl⟩ | ⟨-, old⟩
    · exact streams.unread _ k socket unread
    · exact streams.unread j k' old unread
  · rw [same] at unwritten
    rcases getElem_set h with ⟨rfl, -⟩ | ⟨-, old⟩
    · exact absurd rfl (unwritten _ (List.mem_map_of_mem (List.mem_of_getElem? found)))
    · exact streams.unwritten j k' old unwritten

theorem streams_move (wired : Wired s) (streams : Streams s) (move : Move rounds s e u) :
    Streams u := by
  by_cases other : ∀ i n, e ≠ .thread i (.recv n) ∧ e ≠ .thread i (.send n)
  · exact streams_carried wired streams (carried_move wired move other)
  · cases move with
    | recv i n t k found at' socket there =>
      exact streams_recv wired streams found at' socket there
    | send i n t chunk buffer call k found at' socket =>
      exact streams_send wired streams found at' socket
    | exits => exact ⟨streams.bounded, streams.received, streams.sent, streams.unread,
        streams.unwritten⟩
    | _ => exact absurd (fun _ _ => ⟨by simp, by simp⟩) other

/-! ## What a thread does to its chunks -/

structure Fuzzed (rounds : ℕ) (chunk : Bytes) (call : FuzzCall) (buffer : Bytes) : Prop where
  fits : chunk.length ≤ bufferSize
  returned : ∃ fuzzed, postFuzzing rounds call chunk = some fuzzed ∧
    buffer = (fuzzed.ptr.getD []).take fuzzed.size

structure Obeys (rounds : ℕ) (t : Thread) : Prop where
  sends : ∀ x ∈ t.sends, Fuzzed rounds x.chunk x.call x.buffer
  control : match t.control with
    | .receiving => True
    | .fuzzing chunk => chunk.length ≤ bufferSize
    | .sending chunk call buffer => Fuzzed rounds chunk call buffer

theorem obeys_move (obeys : ∀ t ∈ s.threads, Obeys rounds t) (move : Move rounds s e u) :
    ∀ t ∈ u.threads, Obeys rounds t := by
  intro t' ht
  cases move with
  | startClient _ _ _ _ ok | startServer _ _ _ _ ok =>
    cases ok with
    | false => exact obeys t' ht
    | true =>
      rcases List.mem_append.mp ht with old | new
      · exact obeys t' old
      · obtain rfl := List.mem_singleton.mp new
        exact ⟨by simp, trivial⟩
  | recv i n t k found at' socket there fits =>
    rcases List.mem_or_eq_of_mem_set ht with old | rfl
    · exact obeys t' old
    · exact ⟨(obeys t (List.mem_of_getElem? found)).sends, by
        simpa using Or.inl fits⟩
  | fuzz i t chunk call fuzzed found at' returned =>
    rcases List.mem_or_eq_of_mem_set ht with old | rfl
    · exact obeys t' old
    · have before := obeys t (List.mem_of_getElem? found)
      refine ⟨before.sends, ?_, fuzzed, returned, rfl⟩
      simpa [at'] using before.control
  | send i n t chunk buffer call k found at' =>
    rcases List.mem_or_eq_of_mem_set ht with old | rfl
    · exact obeys t' old
    · have before := obeys t (List.mem_of_getElem? found)
      refine ⟨fun x hx => ?_, trivial⟩
      rcases List.mem_append.mp hx with old | new
      · exact before.sends x old
      · obtain rfl := List.mem_singleton.mp new
        simpa [at'] using before.control
  | _ => exact obeys t' ht

def Sent.write (x : Sent) : Write := ⟨x.chunk, x.buffer⟩

/-- What a thread has met, round after round. -/
def met (t : Thread) : Channel :=
  ⟨fun n => (t.sends[n]?).map Sent.chunk, fun n => ((t.sends[n]?).map Sent.call).getD echo⟩

/-- By itself the loop does the same with what the thread has met. -/
theorem loop_of_obeys {t : Thread} (obeys : Obeys rounds t) {n : ℕ} (le : n ≤ t.sends.length) :
    connectionThreadLoop (met t) rounds n = ⟨.looping, (t.sends.take n).map Sent.write⟩ := by
  induction n with
  | zero => rfl
  | succ n ih =>
    have here := List.getElem?_eq_getElem (Nat.lt_of_succ_le le)
    obtain ⟨fits, fuzzed, returned, buffer⟩ :=
      obeys.sends _ (List.getElem_mem (Nat.lt_of_succ_le le))
    rw [connectionThreadLoop, ih (Nat.le_of_succ_le le)]
    simp only [TCPConnectionLoop.round, met, here, Option.map_some, Option.getD_some,
      List.take_of_length_le fits, returned]
    rw [List.take_add_one, here, List.map_append]
    simp [Sent.write, buffer]

/-! ## The redirections -/

/-- Every listen thread serves one of the redirections. -/
structure Serves (attempts : List ListenAttempt) (s : State) : Prop where
  listener : ∀ x ∈ s.listeners, x.args ∈ (tcpHandler attempts).threads
  rest : ∀ rest, s.main = .building rest → ∀ a ∈ rest, a ∈ attempts

theorem serves_initial : Serves attempts (initial attempts) := by
  refine ⟨by simp [initial], fun rest at' a member => ?_⟩
  obtain rfl := Main.building.inj at'
  exact member

theorem launched_args {a : ListenAttempt} (member : a ∈ attempts) {x : Listener}
    (new : x ∈ launched a) : x.args ∈ (tcpHandler attempts).threads := by
  obtain ⟨args, made, rfl⟩ := List.mem_map.mp new
  rw [addRedirection_threads, List.nil_append] at made
  rw [tcpHandler_threads]
  split at made
  · rename_i succeeds
    obtain rfl := List.mem_singleton.mp made
    exact List.mem_map_of_mem (List.mem_filter.mpr ⟨member, decide_eq_true succeeds⟩)
  · cases made

theorem serves_move (serves : Serves attempts s) (move : Move rounds s e u) :
    Serves attempts u := by
  have set : ∀ {l : ℕ} {x : Listener} {phase : ListenPhase}, s.listeners[l]? = some x →
      ∀ y ∈ s.listeners.set l { x with phase := phase },
        y.args ∈ (tcpHandler attempts).threads := by
    intro l x phase found y hy
    rcases List.mem_or_eq_of_mem_set hy with old | rfl
    · exact serves.listener y old
    · exact serves.listener x (List.mem_of_getElem? found)
  cases move with
  | redirection a rest at' =>
    refine ⟨fun x hx => ?_, fun rest' same b member => ?_⟩
    · rcases List.mem_append.mp hx with old | new
      · exact serves.listener x old
      · exact launched_args (serves.rest _ at' a List.mem_cons_self) new
    · obtain rfl := Main.building.inj same
      exact serves.rest _ at' b (List.mem_cons_of_mem a member)
  | leaveTry at' => exact ⟨serves.listener, by simp⟩
  | accept _ _ _ found | socket _ _ _ found | connect _ _ _ _ _ found
  | addChannelPair _ _ _ _ found => exact ⟨set found, serves.rest⟩
  | startClient l c v x ok found | startServer l c v x ok found =>
    refine ⟨fun y hy => ?_, fun rest same => serves.rest rest ?_⟩
    · rw [startConnectionThread_listeners] at hy
      exact set found y hy
    · cases ok <;> exact same
  | _ => exact ⟨serves.listener, serves.rest⟩

/-! ## The threads together -/

structure Invariant (rounds : ℕ) (attempts : List ListenAttempt) (s : State) : Prop where
  wired : Wired s
  traced : Traced s
  paired : Paired s
  streams : Streams s
  obeys : ∀ t ∈ s.threads, Obeys rounds t
  serves : Serves attempts s

theorem initial_invariant : Invariant rounds attempts (initial attempts) :=
  ⟨⟨single_initial, single_initial⟩, traced_initial,
    ⟨by simp [initial, links], by simp [initial]⟩, by constructor <;> simp [initial],
    by simp [initial], serves_initial⟩

theorem invariant_move (inv : Invariant rounds attempts s) (move : Move rounds s e u) :
    Invariant rounds attempts u :=
  ⟨wired_move inv.wired move, traced_move inv.wired inv.traced move,
    paired_move inv.wired inv.traced inv.paired move, streams_move inv.wired inv.streams move,
    obeys_move inv.obeys move, serves_move inv.serves move⟩

theorem run_invariant {es : List Event}
    (run : Runs (step rounds) anyStep (initial attempts) es s) : Invariant rounds attempts s :=
  run.state_invariant _ initial_invariant fun _ _ _ inv _ h => invariant_move inv (step_move h)

/-- What the i-th connection thread does by itself, whatever the others do. -/
structure Apart (rounds : ℕ) (attempts : List ListenAttempt) (s : State) (i : ℕ) (t : Thread) :
    Prop where
  joins : ∃ args ∈ (tcpHandler attempts).threads,
    Joined s args t.recv_fd t.send_fd ∨ Joined s args t.send_fd t.recv_fd
  alone : ∀ (j : ℕ) (t' : Thread), s.threads[j]? = some t' →
    t'.recv_fd = t.recv_fd ∨ t'.send_fd = t.send_fd → j = i
  back : ∀ t' ∈ s.threads, t'.recv_fd = t.send_fd ↔ t'.send_fd = t.recv_fd
  received : ∃ k, s.sockets[t.recv_fd]? = some k ∧ (chunksOf t).flatten = k.arrived.take k.taken
  sent : ∃ k, s.sockets[t.send_fd]? = some k ∧ k.sent = outputOf t
  loop : connectionThreadLoop (met t) rounds t.sends.length = ⟨.looping, t.sends.map Sent.write⟩

/-- However the threads take turns, every channel is one loop between a client and the server of
    its redirection, and no byte of one channel gets into another. -/
theorem channels_apart (rounds : ℕ) (attempts : List ListenAttempt) (es : List Event) (s : State)
    (run : Runs (step rounds) anyStep (initial attempts) es s) (i : ℕ) (t : Thread)
    (found : s.threads[i]? = some t) : Apart rounds attempts s i t := by
  have inv := run_invariant run
  have member := List.mem_of_getElem? found
  have linked : ∀ t' ∈ s.threads, (t'.recv_fd, t'.send_fd) ∈ links s :=
    fun _ h => List.mem_map_of_mem h
  obtain ⟨recv_lt, send_lt⟩ := made_of_thread inv.wired member
  refine ⟨?_, fun j t' hj same => ?_, fun t' ht => ⟨fun same => ?_, fun same => ?_⟩, ?_, ?_, ?_⟩
  · obtain ⟨x, here, joined⟩ := inv.traced.link _ (linked t member)
    exact ⟨x.args, inv.serves.listener x here, joined⟩
  · rcases same with same | same
    · exact inv.wired.reader.alone hj found same
    · exact inv.wired.writer.alone hj found same
  · exact (inv.paired.back _ (linked t member) _ (linked t' ht) same.symm).symm
  · exact inv.paired.back _ (linked t' ht) _ (linked t member) same
  · have here := List.getElem?_eq_getElem recv_lt
    exact ⟨_, here, (inv.streams.received t member _ here).symm⟩
  · have here := List.getElem?_eq_getElem send_lt
    exact ⟨_, here, inv.streams.sent t member _ here⟩
  · simpa using loop_of_obeys (inv.obeys t member) le_rfl

/-- No descriptor and no memory for the fuzzer: the message is passed on as it is. -/
def refused : FuzzCall := ⟨⟨false, false, false, 0, id, 0, false, false⟩, false, true, true⟩

def oneServer : List ListenAttempt := [⟨⟨"10.0.0.3", 9000, 20000⟩, 3, true, true, true⟩]

/-- A client connects and sends three bytes, which go to the server in two chunks. -/
def oneClient : List Event :=
  [.main .redirection, .listen 0 (.accept ("10.0.0.2", 5000)), .listen 0 (.socket true),
    .listen 0 (.connect true), .listen 0 (.startClient true), .network 0 (.arrives [1, 2, 3]),
    .thread 0 (.recv 2), .listen 0 (.startServer true), .thread 0 (.fuzz refused),
    .thread 0 (.send 2), .thread 0 (.recv 1), .thread 0 (.fuzz refused), .thread 0 (.send 1)]

theorem oneClient_apart : ∃ s t, Runs (step 1) anyStep (initial oneServer) oneClient s ∧
    s.threads[0]? = some t ∧ outputOf t = [1, 2, 3] ∧ Apart 1 oneServer s 0 t := by
  obtain ⟨s, hs, h⟩ := exists_execute (step 1) (initial oneServer) oneClient
    (fun s => s.threads[0]?.any (fun t => outputOf t = [1, 2, 3])) (by decide +kernel)
  obtain ⟨t, found, output⟩ := (Option.any_eq_true _ _).mp h
  have run := runs_of_unguarded hs
  exact ⟨s, t, run, found, of_decide_eq_true output,
    channels_apart 1 oneServer oneClient s run 0 t found⟩

end Cezfuzzer.TCPStreams
