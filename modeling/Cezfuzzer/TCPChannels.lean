import Cezfuzzer.Tallies
import Cezfuzzer.TCPProxy

set_option autoImplicit false

/-!
# The channels of the TCP proxy

Two connection threads for each client, and no others on the same sockets: the only reader of a
socket is the only writer of its counterpart. So every channel is a `_connection_thread_loop` of
its own, however the threads, the clients and the servers take turns.
-/
namespace Cezfuzzer.TCPChannels
open StepRuns Tallies LengthPrefix FuzzerCore TCPRedirections TCPProxy
open TCPConnectionLoop (Channel Write bufferSize connectionThreadLoop)

variable {rounds : ℕ} {attempts : List ListenAttempt} {s u : State} {e : Event}

/-! ## Who may use a socket -/

/-- The sockets that a listen thread has still to give a reader. -/
def toRead : ListenPhase → List ℕ
  | .accepting | .adding _ _ => []
  | .accepted c => [c]
  | .connecting c v | .startingClient c v => [c, v]
  | .startingServer _ v => [v]

/-- The sockets that a listen thread has still to give a writer. -/
def toWrite : ListenPhase → List ℕ
  | .accepting | .adding _ _ => []
  | .accepted c => [c]
  | .connecting c v | .startingClient c v => [c, v]
  | .startingServer c _ => [c]

section
variable (fd : Thread → ℕ) (toUse : ListenPhase → List ℕ)

/-- The threads that use the socket `k`, and the listen threads that are to give it one. -/
def users (s : State) (k : ℕ) : ℕ :=
  tally (fun t => if fd t = k then 1 else 0) s.threads +
    tally (fun x => (toUse x.phase).count k) s.listeners

/-- A use that every socket gets once at most. -/
structure Single (s : State) : Prop where
  le_one : ∀ k, users fd toUse s k ≤ 1
  made : ∀ k, users fd toUse s k ≠ 0 → k < s.sockets.length

theorem users_setListener {l : ℕ} {x : Listener} (found : s.listeners[l]? = some x)
    (phase : ListenPhase) (k : ℕ) :
    users fd toUse (s.setListener l { x with phase := phase }) k + (toUse x.phase).count k =
      users fd toUse s k + (toUse phase).count k := by
  have := tally_set (fun x : Listener => (toUse x.phase).count k) found { x with phase := phase }
  simp only [users, State.setListener] at this ⊢
  omega

theorem users_startConnectionThread (s : State) (recv_fd send_fd : ℕ) (ok : Bool) (k : ℕ) :
    users fd toUse (startConnectionThread s recv_fd send_fd ok) k ≤ users fd toUse s k +
      [fd ⟨recv_fd, send_fd, .receiving, []⟩].count k := by
  cases ok with
  | false => exact Nat.le_add_right _ _
  | true =>
    simp only [users, startConnectionThread, if_true, tally_append, tally_singleton,
      List.count_singleton, beq_iff_eq]
    omega

variable {fd toUse}

theorem Single.mono (single : Single fd toUse s) (le : ∀ k, users fd toUse u k ≤ users fd toUse s k)
    (length : s.sockets.length ≤ u.sockets.length) : Single fd toUse u :=
  ⟨fun k => (le k).trans (single.le_one k), fun k used =>
    (single.made k (by have := le k; omega)).trans_le length⟩

/-- A new socket has not been used before. -/
theorem Single.new (single : Single fd toUse s)
    (le : ∀ k, users fd toUse u k ≤ users fd toUse s k + [s.sockets.length].count k)
    (length : u.sockets.length = s.sockets.length + 1) : Single fd toUse u := by
  have unused : users fd toUse s s.sockets.length = 0 := by
    by_contra used
    exact absurd (single.made _ used) (lt_irrefl _)
  refine ⟨fun k => ?_, fun k used => ?_⟩ <;> have grown := le k
  · by_cases new : k = s.sockets.length
    · subst new
      simpa [unused] using grown
    · rw [List.count_singleton, if_neg (by simpa using Ne.symm new)] at grown
      exact grown.trans (single.le_one k)
  · by_cases new : k = s.sockets.length
    · omega
    · rw [List.count_singleton, if_neg (by simpa using Ne.symm new)] at grown
      have := single.made k (by omega)
      omega

theorem users_setThread {i : ℕ} {t t' : Thread} (found : s.threads[i]? = some t)
    (same : fd t' = fd t) (k : ℕ) : users fd toUse (s.setThread i t') k = users fd toUse s k := by
  have := tally_set (fun t => if fd t = k then 1 else 0) found t'
  rw [same] at this
  simp only [users, State.setThread]
  omega

theorem launched_phase {a : ListenAttempt} {x : Listener} (member : x ∈ launched a) :
    x.phase = .accepting := by
  obtain ⟨args, -, rfl⟩ := List.mem_map.mp member
  rfl

/-- A use is to be given out from the new socket on, until a thread has it. -/
structure Handed (fd : Thread → ℕ) (toUse : ListenPhase → List ℕ) : Prop where
  kept : ∀ (t : Thread) (control : Control) (sends : List Sent),
    fd { t with control := control, sends := sends } = fd t
  idle : toUse .accepting = []
  accept : ∀ c k, (toUse (.accepted c)).count k = [c].count k
  socket : ∀ c v k, (toUse (.connecting c v)).count k = (toUse (.accepted c)).count k + [v].count k
  connect : ∀ c v, toUse (.startingClient c v) = toUse (.connecting c v)
  client : ∀ c v k, (toUse (.startingServer c v)).count k + [fd ⟨c, v, .receiving, []⟩].count k =
    (toUse (.startingClient c v)).count k
  server : ∀ c v k, (toUse (.adding c v)).count k + [fd ⟨v, c, .receiving, []⟩].count k =
    (toUse (.startingServer c v)).count k
  done : ∀ c v, toUse (.adding c v) = []

theorem handed_recv : Handed Thread.recv_fd toRead := by
  constructor <;> simp [toRead, List.count_cons, Nat.add_comm]

theorem handed_send : Handed Thread.send_fd toWrite := by
  constructor <;> simp [toWrite, List.count_cons, Nat.add_comm]

theorem single_initial : Single fd toUse (initial attempts) := by
  constructor <;> simp [users, initial]

/-- One `startConnectionThread` of `startChannelThreads`. -/
theorem single_started (single : Single fd toUse s) {l : ℕ} {x : Listener}
    (found : s.listeners[l]? = some x) (phase : ListenPhase) (recv_fd send_fd : ℕ) (ok : Bool)
    (gives : ∀ k, (toUse phase).count k + [fd ⟨recv_fd, send_fd, .receiving, []⟩].count k =
      (toUse x.phase).count k) : Single fd toUse
      (startConnectionThread (s.setListener l { x with phase := phase }) recv_fd send_fd ok) := by
  refine single.mono (fun k => ?_) ?_
  · have new := users_startConnectionThread fd toUse (s.setListener l { x with phase := phase })
      recv_fd send_fd ok k
    have moved := users_setListener fd toUse found phase k
    rw [← gives] at moved
    omega
  · cases ok <;> simp [startConnectionThread, State.setListener]

theorem single_move (handed : Handed fd toUse) (single : Single fd toUse s)
    (move : Move rounds s e u) : Single fd toUse u := by
  cases move with
  | redirection a rest at' =>
    refine single.mono (fun k => ?_) le_rfl
    have none : tally (fun x : Listener => (toUse x.phase).count k) (launched a) = 0 :=
      tally_eq_zero.mpr fun x member => by simp [launched_phase member, handed.idle]
    simp only [users, tally_append, none]
    omega
  | leaveTry | acceptFails | exits => exact single.mono (fun k => le_rfl) le_rfl
  | arrives | ends | breaks => exact single.mono (fun k => le_rfl) (by simp [State.setSocket])
  | accept l x client found at' =>
    refine single.new (fun k => ?_) (by simp)
    have := users_setListener fd toUse found (.accepted s.sockets.length) k
    rw [at', handed.idle, handed.accept] at this
    exact this.le
  | socket l c x found at' =>
    refine single.new (fun k => ?_) (by simp)
    have := users_setListener fd toUse found (.connecting c s.sockets.length) k
    rw [at', handed.socket] at this
    change users fd toUse (s.setListener l _) k ≤ _
    omega
  | connect l c v x k found at' created =>
    refine single.mono (fun i => ?_) (by simp [State.setSocket, State.setListener])
    have := users_setListener fd toUse found (.startingClient c v) i
    rw [at', handed.connect] at this
    exact (Nat.add_right_cancel this).le
  | startClient l c v x ok found at' =>
    exact single_started single found _ c v ok fun k => at' ▸ handed.client c v k
  | startServer l c v x ok found at' =>
    exact single_started single found _ v c ok fun k => at' ▸ handed.server c v k
  | addChannelPair l c v x found at' =>
    refine single.mono (fun k => ?_) le_rfl
    have := users_setListener fd toUse found .accepting k
    rw [at', handed.done, handed.idle] at this
    exact (Nat.add_right_cancel this).le
  | recv i n t k found | send i n t _ _ _ k found =>
    refine single.mono (fun k => ?_) (by simp [State.setSocket, State.setThread])
    exact (users_setThread found (handed.kept t _ _) k).le
  | fuzz i t _ _ _ found =>
    refine single.mono (fun k => ?_) le_rfl
    exact (users_setThread found (handed.kept t _ _) k).le

/-- The only thread that uses a socket. -/
theorem Single.alone (single : Single fd toUse s) {i j : ℕ} {t t' : Thread}
    (hi : s.threads[i]? = some t) (hj : s.threads[j]? = some t') (same : fd t = fd t') : i = j := by
  by_contra other
  have two := add_le_tally (fun x => if fd x = fd t then 1 else 0) hi hj other
  have one := single.le_one (fd t)
  simp only [← same, if_true, users] at two one
  omega

/-- What is still to be given out is not in use. -/
theorem Single.unused (single : Single fd toUse s) {x : Listener} {k : ℕ} (here : x ∈ s.listeners)
    (toGive : k ∈ toUse x.phase) {t : Thread} (thread : t ∈ s.threads) : fd t ≠ k := by
  rintro rfl
  have two := le_tally (fun x => if fd x = fd t then 1 else 0) thread
  have more := le_tally (fun x : Listener => (toUse x.phase).count (fd t)) here
  have one := single.le_one (fd t)
  have positive := List.count_pos_iff.mpr toGive
  simp only [if_true, users] at two one more
  omega

/-- No two listen threads are to give out the same socket. -/
theorem Single.exclusive (single : Single fd toUse s) {l l' k : ℕ} {x x' : Listener}
    (found : s.listeners[l]? = some x) (found' : s.listeners[l']? = some x')
    (toGive : k ∈ toUse x.phase) (toGive' : k ∈ toUse x'.phase) : l = l' := by
  by_contra other
  have two := add_le_tally (fun x : Listener => (toUse x.phase).count k) found found' other
  have one := single.le_one k
  have positive := List.count_pos_iff.mpr toGive
  have positive' := List.count_pos_iff.mpr toGive'
  simp only [users] at two one
  omega

end

structure Wired (s : State) : Prop where
  reader : Single Thread.recv_fd toRead s
  writer : Single Thread.send_fd toWrite s

theorem wired_move (wired : Wired s) (move : Move rounds s e u) : Wired u :=
  ⟨single_move handed_recv wired.reader move, single_move handed_send wired.writer move⟩

/-! ## What the sockets are -/

def originAt (s : State) (k : ℕ) : Option Origin := (s.sockets[k]?).map Socket.origin

/-- The socket of a client that has been accepted for `args`. -/
def ClientOf (s : State) (args : ListenThreadArgs) (c : ℕ) : Prop :=
  ∃ client, originAt s c = some (.accept args client)

def ServerOf (s : State) (args : ListenThreadArgs) (v : ℕ) : Prop :=
  originAt s v = some (.connect args.server)

def Joined (s : State) (args : ListenThreadArgs) (c v : ℕ) : Prop :=
  ClientOf s args c ∧ ServerOf s args v

def Traces (s : State) (x : Listener) : Prop :=
  match x.phase with
  | .accepting => True
  | .accepted c => ClientOf s x.args c
  | .connecting c v => ClientOf s x.args c ∧ originAt s v = some .socket
  | .startingClient c v | .startingServer c v | .adding c v => Joined s x.args c v

/-- The descriptors of the connection threads. -/
def links (s : State) : List (ℕ × ℕ) := s.threads.map (fun t => (t.recv_fd, t.send_fd))

structure Traced (s : State) : Prop where
  listener : ∀ (l : ℕ) (x : Listener), s.listeners[l]? = some x → Traces s x
  link : ∀ p ∈ links s, ∃ x ∈ s.listeners,
    Joined s x.args p.1 p.2 ∨ Joined s x.args p.2 p.1

theorem originAt_append {o : Origin} {k : ℕ} (new : Socket) (h : originAt s k = some o)
    (same : u.sockets = s.sockets ++ [new]) : originAt u k = some o := by
  obtain ⟨x, found, rfl⟩ := Option.map_eq_some_iff.mp h
  rw [originAt, same, List.getElem?_append_left (List.getElem?_eq_some_iff.mp found).1, found]
  rfl

theorem originAt_setSocket {i k : ℕ} {x x' : Socket} (found : s.sockets[i]? = some x)
    (origin : x'.origin = x.origin) : originAt (s.setSocket i x') k = originAt s k := by
  rw [originAt, originAt, State.setSocket, List.getElem?_set]
  split
  · rename_i own
    subst own
    rw [if_pos (List.getElem?_eq_some_iff.mp found).1, found]
    exact congrArg some origin
  · rfl

/-- Only `connect` changes what a socket is. -/
theorem origin_move (move : Move rounds s e u) {k : ℕ} {o : Origin} (h : originAt s k = some o) :
    originAt u k = some o ∨ ∃ (l c : ℕ) (x : Listener), e = .listen l (.connect true) ∧
      s.listeners[l]? = some x ∧ x.phase = .connecting c k := by
  cases move with
  | accept | socket => exact Or.inl (originAt_append _ h rfl)
  | connect l c v x y found at' created =>
    by_cases own : v = k
    · subst own
      exact Or.inr ⟨l, c, x, rfl, found, at'⟩
    · refine Or.inl ?_
      rw [← h]
      simp [originAt, State.setSocket, State.setListener, List.getElem?_set_ne own]
  | startClient _ _ _ _ ok | startServer _ _ _ _ ok =>
    refine Or.inl (Eq.trans ?_ h)
    cases ok <;> rfl
  | recv _ _ _ _ _ _ found => exact Or.inl ((originAt_setSocket found (by rfl)).trans h)
  | send _ _ _ _ _ _ _ _ _ found => exact Or.inl ((originAt_setSocket found (by rfl)).trans h)
  | arrives _ _ _ found | ends _ _ found | breaks _ _ found =>
    exact Or.inl ((originAt_setSocket found (by rfl)).trans h)
  | redirection | leaveTry | acceptFails | addChannelPair | fuzz | exits => exact Or.inl h

theorem origin_kept (traced : Traced s) (move : Move rounds s e u) {k : ℕ} {o : Origin}
    (other : o ≠ .socket) (h : originAt s k = some o) : originAt u k = some o := by
  rcases origin_move move h with kept | ⟨l, c, x, -, found, at'⟩
  · exact kept
  · have created := traced.listener l x found
    rw [Traces, at'] at created
    exact absurd (Option.some.inj (h.symm.trans created.2)) other

theorem clientOf_move (traced : Traced s) (move : Move rounds s e u) {args : ListenThreadArgs}
    {c : ℕ} (h : ClientOf s args c) : ClientOf u args c := by
  obtain ⟨client, h⟩ := h
  exact ⟨client, origin_kept traced move (by simp) h⟩

theorem joined_move (traced : Traced s) (move : Move rounds s e u) {args : ListenThreadArgs}
    {c v : ℕ} (h : Joined s args c v) : Joined u args c v :=
  ⟨clientOf_move traced move h.1, origin_kept traced move (by simp) h.2⟩

/-- What a listen thread knows of its sockets stays true while others move. -/
theorem traces_move (wired : Wired s) (traced : Traced s) (move : Move rounds s e u) {l : ℕ}
    {x : Listener} (found : s.listeners[l]? = some x)
    (other : e ≠ .listen l (.connect true)) : Traces u x := by
  have h := traced.listener l x found
  unfold Traces at h ⊢
  split at h
  · trivial
  · exact clientOf_move traced move h
  · rename_i c v at'
    refine ⟨clientOf_move traced move h.1, ?_⟩
    rcases origin_move move h.2 with kept | ⟨l', c', x', rfl, found', at''⟩
    · exact kept
    · have same := wired.reader.exclusive found found' (k := v) (by simp [toRead, at'])
        (by simp [toRead, at''])
      exact absurd (same ▸ rfl) other
  all_goals exact joined_move traced move h

theorem links_setThread {i : ℕ} {t t' : Thread} (found : s.threads[i]? = some t)
    (same : u.threads = s.threads.set i t') (recv_fd : t'.recv_fd = t.recv_fd)
    (send_fd : t'.send_fd = t.send_fd) : links u = links s := by
  refine List.ext_getElem? fun j => ?_
  simp only [links, same, List.getElem?_map, List.getElem?_set]
  split
  · rename_i own
    subst own
    rw [if_pos (List.getElem?_eq_some_iff.mp found).1, found, Option.map_some, recv_fd, send_fd]
    rfl
  · rfl

/-- A connection thread is only ever started on the two sockets of a listen thread. -/
theorem links_move (move : Move rounds s e u) :
    links u = links s ∨ ∃ (l c v : ℕ) (x : Listener), s.listeners[l]? = some x ∧
      (x.phase = .startingClient c v ∧ links u = links s ++ [(c, v)] ∧
          u.listeners = s.listeners.set l { x with phase := .startingServer c v } ∨
        x.phase = .startingServer c v ∧ links u = links s ++ [(v, c)] ∧
          u.listeners = s.listeners.set l { x with phase := .adding c v }) := by
  cases move with
  | startClient l c v x ok found at' =>
    cases ok with
    | false => exact Or.inl rfl
    | true => exact Or.inr ⟨l, c, v, x, found, Or.inl ⟨at', by simp [links,
        startConnectionThread, State.setListener], rfl⟩⟩
  | startServer l c v x ok found at' =>
    cases ok with
    | false => exact Or.inl rfl
    | true => exact Or.inr ⟨l, c, v, x, found, Or.inr ⟨at', by simp [links,
        startConnectionThread, State.setListener], rfl⟩⟩
  | recv _ _ _ _ found | send _ _ _ _ _ _ _ found | fuzz _ _ _ _ _ found =>
    exact Or.inl (links_setThread found rfl (by rfl) (by rfl))
  | _ => exact Or.inl rfl

/-- A listen thread stays, and serves the same redirection. -/
theorem listener_kept (move : Move rounds s e u) {l : ℕ} {x : Listener}
    (found : s.listeners[l]? = some x) :
    ∃ x', u.listeners[l]? = some x' ∧ x'.args = x.args := by
  have set : ∀ i y phase, s.listeners[i]? = some y →
      ∃ x', (s.listeners.set i { y with phase := phase })[l]? = some x' ∧ x'.args = x.args := by
    intro i y phase hy
    by_cases own : i = l
    · subst own
      obtain rfl := Option.some.inj (found.symm.trans hy)
      exact ⟨_, List.getElem?_set_self (List.getElem?_eq_some_iff.mp found).1, rfl⟩
    · exact ⟨x, by rw [List.getElem?_set_ne own, found], rfl⟩
  cases move with
  | redirection =>
    refine ⟨x, ?_, rfl⟩
    rw [List.getElem?_append_left (List.getElem?_eq_some_iff.mp found).1, found]
  | accept i y _ hy | addChannelPair i _ _ y hy => exact set i y _ hy
  | socket i _ y hy | connect i _ _ y _ hy => exact set i y _ hy
  | startClient i _ _ y ok hy | startServer i _ _ y ok hy =>
    cases ok <;> exact set i y _ hy
  | _ => exact ⟨x, found, rfl⟩

theorem Traced.starting (traced : Traced s) {l c v : ℕ} {x : Listener}
    (found : s.listeners[l]? = some x)
    (at' : x.phase = .startingClient c v ∨ x.phase = .startingServer c v) :
    Joined s x.args c v := by
  have known := traced.listener l x found
  rcases at' with at' | at' <;> rwa [Traces, at'] at known

theorem traced_link (traced : Traced s) (move : Move rounds s e u) {p : ℕ × ℕ}
    (member : p ∈ links u) :
    ∃ x ∈ u.listeners, Joined u x.args p.1 p.2 ∨ Joined u x.args p.2 p.1 := by
  have joined : ∀ args c v, Joined s args c v → Joined u args c v :=
    fun _ _ _ => joined_move traced move
  have old : ∃ x ∈ s.listeners, Joined s x.args p.1 p.2 ∨ Joined s x.args p.2 p.1 := by
    rcases links_move move with same | ⟨l, c, v, x, found, ⟨at', same, -⟩ | ⟨at', same, -⟩⟩ <;>
      rw [same] at member
    · exact traced.link p member
    · rcases List.mem_append.mp member with old | new
      · exact traced.link p old
      · obtain rfl := List.mem_singleton.mp new
        exact ⟨x, List.mem_of_getElem? found, Or.inl (traced.starting found (Or.inl at'))⟩
    · rcases List.mem_append.mp member with old | new
      · exact traced.link p old
      · obtain rfl := List.mem_singleton.mp new
        exact ⟨x, List.mem_of_getElem? found, Or.inr (traced.starting found (Or.inr at'))⟩
  obtain ⟨x, here, known⟩ := old
  obtain ⟨l, found⟩ := List.mem_iff_getElem?.mp here
  obtain ⟨x', found', same⟩ := listener_kept move found
  exact ⟨x', List.mem_of_getElem? found', same ▸ known.imp (joined _ _ _) (joined _ _ _)⟩

theorem traced_move (wired : Wired s) (traced : Traced s) (move : Move rounds s e u) :
    Traced u := by
  refine ⟨fun i y hy => ?_, fun p => traced_link traced move⟩
  have kept : ∀ {i y}, s.listeners[i]? = some y → e ≠ .listen i (.connect true) → Traces u y :=
    fun found => traces_move wired traced move found
  have client : ∀ args c, ClientOf s args c → ClientOf u args c :=
    fun _ _ => clientOf_move traced move
  have joined : ∀ args c v, Joined s args c v → Joined u args c v :=
    fun _ _ _ => joined_move traced move
  have known : ∀ {l x}, s.listeners[l]? = some x → Traces s x := fun found =>
    traced.listener _ _ found
  cases move with
  | redirection a rest at' =>
    rw [List.getElem?_append] at hy
    split at hy
    · exact kept hy (by simp)
    · simp [Traces, launched_phase (List.mem_of_getElem? hy)]
  | accept l x from' found at' =>
    rcases getElem_set hy with ⟨rfl, rfl⟩ | ⟨other, hy⟩
    · exact ⟨from', by simp [originAt, newSocket]⟩
    · exact kept hy (by simp)
  | socket l c x found at' =>
    rcases getElem_set hy with ⟨rfl, rfl⟩ | ⟨other, hy⟩
    · have := known found
      rw [Traces, at'] at this
      exact ⟨client _ _ this, by simp [originAt, newSocket]⟩
    · exact kept hy (by simp)
  | connect l c v x k found at' created =>
    rcases getElem_set hy with ⟨rfl, rfl⟩ | ⟨other, hy⟩
    · have := known found
      rw [Traces, at'] at this
      refine ⟨client _ _ this.1, ?_⟩
      simp [ServerOf, originAt, State.setSocket, State.setListener,
        (List.getElem?_eq_some_iff.mp created).1]
    · exact kept hy (by simpa using Ne.symm other)
  | startClient l c v x ok found at' | startServer l c v x ok found at' =>
    rw [startConnectionThread_listeners] at hy
    rcases getElem_set hy with ⟨rfl, rfl⟩ | ⟨other, hy⟩
    · have := known found
      rw [Traces, at'] at this
      exact joined _ _ _ this
    · exact kept hy (by simp)
  | addChannelPair l c v x found at' =>
    rcases getElem_set hy with ⟨rfl, rfl⟩ | ⟨other, hy⟩
    · trivial
    · exact kept hy (by simp)
  | exits => exact known hy
  | _ => exact kept hy (by simp)

theorem traced_initial : Traced (initial attempts) := by
  constructor <;> simp [initial, links]

/-! ## Both directions -/

/-- A socket's reader and its writer have the same counterpart. -/
structure Paired (s : State) : Prop where
  back : ∀ p ∈ links s, ∀ q ∈ links s, p.2 = q.1 → p.1 = q.2
  half : ∀ (l : ℕ) (x : Listener) (c v : ℕ), s.listeners[l]? = some x →
    x.phase = .startingServer c v → ∀ p ∈ links s, p.1 = c ↔ p.2 = v

theorem Wired.unread (wired : Wired s) {l k : ℕ} {x : Listener} (found : s.listeners[l]? = some x)
    (toGive : k ∈ toRead x.phase) {p : ℕ × ℕ} (member : p ∈ links s) : p.1 ≠ k := by
  obtain ⟨t, thread, rfl⟩ := List.mem_map.mp member
  exact wired.reader.unused (List.mem_of_getElem? found) toGive thread

theorem Wired.unwritten (wired : Wired s) {l k : ℕ} {x : Listener}
    (found : s.listeners[l]? = some x) (toGive : k ∈ toWrite x.phase) {p : ℕ × ℕ}
    (member : p ∈ links s) : p.2 ≠ k := by
  obtain ⟨t, thread, rfl⟩ := List.mem_map.mp member
  exact wired.writer.unused (List.mem_of_getElem? found) toGive thread

/-- No socket is both a client's and a server's. -/
theorem client_ne_server {args args' : ListenThreadArgs} {c v : ℕ} (client : ClientOf s args c)
    (server : ServerOf s args' v) : c ≠ v := by
  rintro rfl
  obtain ⟨address, client⟩ := client
  rw [ServerOf, client] at server
  cases server

theorem startingServer_move (move : Move rounds s e u) {l c v : ℕ} {x : Listener}
    (found : u.listeners[l]? = some x) (at' : x.phase = .startingServer c v) :
    s.listeners[l]? = some x ∨
      ∃ y, s.listeners[l]? = some y ∧ y.phase = .startingClient c v := by
  have set : ∀ {i : ℕ} {y : Listener} {phase : ListenPhase}, s.listeners[i]? = some y →
      (s.listeners.set i { y with phase := phase })[l]? = some x →
      (phase = .startingServer c v → y.phase = .startingClient c v) →
      s.listeners[l]? = some x ∨ ∃ y, s.listeners[l]? = some y ∧ y.phase = .startingClient c v := by
    intro i y phase hy h before
    rcases getElem_set h with ⟨rfl, rfl⟩ | ⟨-, old⟩
    · exact Or.inr ⟨y, hy, before at'⟩
    · exact Or.inl old
  cases move with
  | redirection =>
    rw [List.getElem?_append] at found
    split at found
    · exact Or.inl found
    · simp [launched_phase (List.mem_of_getElem? found)] at at'
  | accept i y _ hy | addChannelPair i _ _ y hy | socket i _ y hy | connect i _ _ y _ hy =>
    exact set hy found (by simp)
  | startClient i c' v' y ok hy before =>
    rw [startConnectionThread_listeners] at found
    refine set hy found fun same => ?_
    obtain ⟨rfl, rfl⟩ := ListenPhase.startingServer.inj same
    exact before
  | startServer i _ _ y ok hy =>
    rw [startConnectionThread_listeners] at found
    exact set hy found (by simp)
  | _ => exact Or.inl found

/-- Before the first of the two threads nothing uses either socket. -/
theorem Wired.fresh (wired : Wired s) {l c v : ℕ} {x : Listener} (found : s.listeners[l]? = some x)
    (at' : x.phase = .startingClient c v) {p : ℕ × ℕ} (member : p ∈ links s) :
    (p.1 ≠ c ∧ p.1 ≠ v) ∧ p.2 ≠ c ∧ p.2 ≠ v := by
  refine ⟨⟨?_, ?_⟩, ?_, ?_⟩
  · exact wired.unread found (by simp [toRead, at']) member
  · exact wired.unread found (by simp [toRead, at']) member
  · exact wired.unwritten found (by simp [toWrite, at']) member
  · exact wired.unwritten found (by simp [toWrite, at']) member

theorem back_move (wired : Wired s) (traced : Traced s) (paired : Paired s)
    (move : Move rounds s e u) {p q : ℕ × ℕ} (hp : p ∈ links u) (hq : q ∈ links u)
    (meet : p.2 = q.1) : p.1 = q.2 := by
  rcases links_move move with same | ⟨l, c, v, x, found, ⟨at', same, -⟩ | ⟨at', same, -⟩⟩ <;>
    rw [same] at hp hq
  · exact paired.back p hp q hq meet
  all_goals
    have joined := traced.starting (c := c) (v := v) found (by simp [at'])
    have apart := client_ne_server joined.1 joined.2
    simp only [List.mem_append, List.mem_singleton] at hp hq
  · rcases hp with hp | rfl <;> rcases hq with hq | rfl
    · exact paired.back p hp q hq meet
    · exact absurd meet (wired.fresh found at' hp).2.1
    · exact absurd meet.symm (wired.fresh found at' hq).1.2
    · exact absurd meet.symm apart
  · rcases hp with hp | rfl <;> rcases hq with hq | rfl
    · exact paired.back p hp q hq meet
    · exact (paired.half l x c v found at' p hp).mpr meet
    · exact ((paired.half l x c v found at' q hq).mp meet.symm).symm
    · exact absurd meet apart

theorem half_move (wired : Wired s) (traced : Traced s) (paired : Paired s)
    (move : Move rounds s e u) {l c v : ℕ} {x : Listener} (found : u.listeners[l]? = some x)
    (at' : x.phase = .startingServer c v) {p : ℕ × ℕ} (hp : p ∈ links u) :
    p.1 = c ↔ p.2 = v := by
  have old : p ∈ links s → (p.1 = c ↔ p.2 = v) := by
    intro member
    rcases startingServer_move move found at' with before | ⟨y, before, starting⟩
    · exact paired.half l x c v before at' p member
    · have fresh := wired.fresh before starting member
      exact iff_of_false fresh.1.1 fresh.2.2
  rcases links_move move with same | ⟨i, c', v', y, hy, ⟨starting, same, listeners⟩ |
    ⟨starting, same, listeners⟩⟩ <;> rw [same] at hp
  · exact old hp
  all_goals
    rcases List.mem_append.mp hp with hp | new
    · exact old hp
    obtain rfl := List.mem_singleton.mp new
    rw [listeners] at found
    have joined := traced.starting (c := c') (v := v') hy (by simp [starting])
  · rcases getElem_set found with ⟨rfl, rfl⟩ | ⟨other, found⟩
    · obtain ⟨rfl, rfl⟩ := ListenPhase.startingServer.inj at'
      exact iff_of_true rfl rfl
    · refine iff_of_false (fun same => other ?_) (fun same => other ?_)
      · exact wired.writer.exclusive found hy (k := c) (by simp [toWrite, at'])
          (by simp [toWrite, starting, ← same])
      · exact wired.reader.exclusive found hy (k := v) (by simp [toRead, at'])
          (by simp [toRead, starting, ← same])
  · rcases getElem_set found with ⟨rfl, rfl⟩ | ⟨other, found⟩
    · cases at'
    · have mine := traced.starting found (Or.inr at')
      exact iff_of_false (client_ne_server mine.1 joined.2).symm
        (client_ne_server joined.1 mine.2)

theorem paired_move (wired : Wired s) (traced : Traced s) (paired : Paired s)
    (move : Move rounds s e u) : Paired u :=
  ⟨fun _ hp _ hq => back_move wired traced paired move hp hq,
    fun _ _ _ _ found at' _ hp => half_move wired traced paired move found at' hp⟩

end Cezfuzzer.TCPChannels
