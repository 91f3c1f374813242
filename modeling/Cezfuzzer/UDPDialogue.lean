import Cezfuzzer.UDPExchange

set_option autoImplicit false

/-!
# Requests and replies through the relay

One side `X` has a dynamic port and sends requests to its receiving socket; the other side
has a static one, takes the requests in the order in which they were forwarded, and sends a
reply to each or ignores it. The network between the proxy and that side keeps the order and
loses nothing. Two threads of the relay do the work of the exchange.
-/
namespace Cezfuzzer.UDPDialogue
open StepRuns FuzzerCore UDPRelay UDPExchange

/-- `handled`, `answered` and `replies` are those of the exchange. -/
structure State where
  relay : UDPRelay.State
  handled : ℕ
  answered : List Reply
  replies : List Datagram

def initial : State := ⟨UDPRelay.initial, 0, [], []⟩

inductive Event where
  | request (d : Datagram)
  | choose (w : Socket)
  | push (w : Socket)
  | sendto (w : Socket) (call : FuzzCall)
  | reply (d : Datagram)
  | ignore
  | replyArrives

def relayStep (conn : UDPConnection) (s : State) (e : UDPRelay.Event) : Option State :=
  (UDPRelay.step conn s.relay e).map (fun r => { s with relay := r })

def step (conn : UDPConnection) (X : Side) (s : State) : Event → Option State
  | .request d => relayStep conn s (.recvfrom (.recv X) d)
  | .choose w => relayStep conn s (.choose w)
  | .push w => relayStep conn s (.push w)
  | .sendto w call => relayStep conn s (.sendto w call)
  | .reply d =>
    if s.handled < (forwards s.relay.log (.recv X)).length then
      some { s with
        handled := s.handled + 1
        answered := s.answered ++ [⟨s.handled, d⟩]
        replies := s.replies ++ [d] }
    else none
  | .ignore =>
    if s.handled < (forwards s.relay.log (.recv X)).length then
      some { s with handled := s.handled + 1 }
    else none
  | .replyArrives => match s.replies with
    | d :: rest => relayStep conn { s with replies := rest } (.recvfrom (.send X.other) d)
    | [] => none

/-- The exchange that the two threads and the log make up. -/
def exchange (X : Side) (s : State) : Exchange where
  dynamicPorts := s.relay.dynamicPorts
  requester := s.relay.thread (.recv X)
  replier := s.relay.thread (.send X.other)
  requests := received s.relay.log (.recv X)
  passed := (forwards s.relay.log (.recv X)).length
  handled := s.handled
  answered := s.answered
  replies := s.replies
  repliesTaken := received s.relay.log (.send X.other)
  forwardedReplies := forwards s.relay.log (.send X.other)

/-- The other threads have nothing to do, the requester goes on, and the replier stores no
    port. -/
def Busy (X : Side) (w : Socket) (t : Thread) : Prop :=
  t = .receiving ∨ w = .recv X ∧ t ≠ .closed ∨
    w = .send X.other ∧ ∀ d target_port, t ≠ .pushing d target_port

variable {conn : UDPConnection} {X : Side} {s u : State} {e : Event}

theorem busy_thread {w : Socket} {t : Thread} (busy : Busy X w t) (at' : t ≠ .receiving) :
    w = .recv X ∨ w = .send X.other :=
  (busy.resolve_left at').imp And.left And.left

theorem requester_there (busy : Busy X (.recv X) (s.relay.thread (.recv X))) :
    s.relay.thread (.recv X) ≠ .closed := by
  rcases busy with idle | ⟨-, there⟩ | ⟨other, -⟩
  · rw [idle]
    nofun
  · exact there
  · cases other

theorem replier_stores_none {d : Datagram} {port : ℤ}
    (busy : Busy X (.send X.other) (.pushing d port)) : False := by
  rcases busy with idle | ⟨other, -⟩ | ⟨-, none⟩
  · cases idle
  · cases other
  · exact none d port rfl

inductive Move (conn : UDPConnection) (X : Side) (s : State) : Event → State → Prop where
  | request (d : Datagram) (r : UDPRelay.State)
      (move : UDPRelay.Move conn s.relay (.recvfrom (.recv X) d) r) :
      Move conn X s (.request d) { s with relay := r }
  | choose (w : Socket) (r : UDPRelay.State) (move : UDPRelay.Move conn s.relay (.choose w) r) :
      Move conn X s (.choose w) { s with relay := r }
  | push (w : Socket) (r : UDPRelay.State) (move : UDPRelay.Move conn s.relay (.push w) r) :
      Move conn X s (.push w) { s with relay := r }
  | sendto (w : Socket) (call : FuzzCall) (r : UDPRelay.State)
      (move : UDPRelay.Move conn s.relay (.sendto w call) r) :
      Move conn X s (.sendto w call) { s with relay := r }
  | reply (d : Datagram) (open' : s.handled < (forwards s.relay.log (.recv X)).length) :
      Move conn X s (.reply d) { s with
        handled := s.handled + 1
        answered := s.answered ++ [⟨s.handled, d⟩]
        replies := s.replies ++ [d] }
  | ignore (open' : s.handled < (forwards s.relay.log (.recv X)).length) :
      Move conn X s .ignore { s with handled := s.handled + 1 }
  | replyArrives (d : Datagram) (rest : List Datagram) (r : UDPRelay.State)
      (next : s.replies = d :: rest)
      (move : UDPRelay.Move conn s.relay (.recvfrom (.send X.other) d) r) :
      Move conn X s .replyArrives { s with replies := rest, relay := r }

theorem relayStep_move {e : UDPRelay.Event} (h : relayStep conn s e = some u) :
    ∃ r, UDPRelay.Move conn s.relay e r ∧ u = { s with relay := r } := by
  obtain ⟨r, hr, rfl⟩ := Option.map_eq_some_iff.mp h
  exact ⟨r, UDPRelay.step_move hr, rfl⟩

theorem step_move (h : step conn X s e = some u) : Move conn X s e u := by
  cases e with
  | request d =>
    obtain ⟨r, move, rfl⟩ := relayStep_move h
    exact .request d r move
  | choose w =>
    obtain ⟨r, move, rfl⟩ := relayStep_move h
    exact .choose w r move
  | push w =>
    obtain ⟨r, move, rfl⟩ := relayStep_move h
    exact .push w r move
  | sendto w call =>
    obtain ⟨r, move, rfl⟩ := relayStep_move h
    exact .sendto w call r move
  | reply d =>
    simp only [step] at h
    split at h
    · cases h
      exact .reply d (by assumption)
    · cases h
  | ignore =>
    simp only [step] at h
    split at h
    · cases h
      exact .ignore (by assumption)
    · cases h
  | replyArrives =>
    simp only [step] at h
    split at h
    · obtain ⟨r, move, rfl⟩ := relayStep_move h
      exact .replyArrives _ _ r (by assumption) move
    · cases h

theorem of_eq {v w w' : Exchange} (move : UDPExchange.Move conn X v w) (same : w' = w) :
    UDPExchange.Move conn X v w' := same ▸ move

theorem busy_setThread (busy : ∀ w, Busy X w (s.relay.thread w)) {w₀ : Socket} {t : Thread}
    (new : Busy X w₀ t) (w : Socket) : Busy X w ((s.relay.setThread w₀ t).thread w) :=
  threads_setThread (fun w' _ => busy w') new w

theorem exchange_request (busy : ∀ w, Busy X w (s.relay.thread w)) {d : Datagram}
    (some_data : d.data ≠ []) {r : UDPRelay.State}
    (move : UDPRelay.Move conn s.relay (.recvfrom (.recv X) d) r) :
    (∀ w, Busy X w (r.thread w)) ∧
      UDPExchange.Move conn X (exchange X s) (exchange X { s with relay := r }) := by
  cases move with
  | close _ _ at' served empty => exact absurd ((buffer_eq_nil d).mp empty) some_data
  | recvfrom _ _ at' served nonempty =>
    refine ⟨busy_setThread busy (by simp [Busy]), of_eq (.request d at') ?_⟩
    simp [exchange, received_snoc, setThread_other]

theorem exchange_arrives (busy : ∀ w, Busy X w (s.relay.thread w)) {d : Datagram}
    {rest : List Datagram} (next : s.replies = d :: rest) {r : UDPRelay.State}
    (move : UDPRelay.Move conn s.relay (.recvfrom (.send X.other) d) r) :
    (∀ w, Busy X w (r.thread w)) ∧
      UDPExchange.Move conn X (exchange X s)
        (exchange X { s with replies := rest, relay := r }) := by
  cases move with
  | close _ _ at' served empty =>
    refine ⟨busy_setThread busy (by simp [Busy]),
      of_eq (.lose d rest next at' ((buffer_eq_nil d).mp empty)) ?_⟩
    simp [exchange, setThread_other]
  | recvfrom _ _ at' served nonempty =>
    refine ⟨busy_setThread busy (by simp [Busy]),
      of_eq (.arrive d rest next at' (mt (buffer_eq_nil d).mpr nonempty)) ?_⟩
    simp [exchange, received_snoc, setThread_other]

theorem exchange_choose (dynamic : conn.entityPort X = -1)
    (fixed : conn.entityPort X.other ≠ -1) (busy : ∀ w, Busy X w (s.relay.thread w)) {w : Socket}
    {r : UDPRelay.State} (move : UDPRelay.Move conn s.relay (.choose w) r) :
    (∀ w, Busy X w (r.thread w)) ∧
      UDPExchange.Move conn X (exchange X s) (exchange X { s with relay := r }) := by
  cases move with
  | choose _ d at' =>
    rcases busy_thread (busy w) (by rw [at']; nofun) with rfl | rfl
    · have after : UDPRelay.choose conn s.relay (.recv X) d =
          s.relay.setThread (.recv X) (.pushing d (conn.entityPort X.other)) := by
        rw [UDPRelay.choose, targetPort_fixed (w := .recv X) fixed]
        simp only [afterChoice, dynamic, if_true]
        rfl
      rw [after]
      refine ⟨busy_setThread busy (by simp [Busy]), of_eq (.target d at') ?_⟩
      simp [exchange, setThread_other]
    · have side : conn.entityPort (Socket.send X.other).side.other = -1 := by
        simpa [Socket.side]
      cases found : s.relay.dynamicPorts with
      | cons front rest =>
        have after : UDPRelay.choose conn s.relay (.send X.other) d =
            { s.relay.setThread (.send X.other) (.sending d front) with dynamicPorts := rest } := by
          rw [UDPRelay.choose, found, targetPort_pop side]
          rfl
        rw [after]
        refine ⟨busy_setThread busy (by simp [Busy]),
          of_eq (.pop d front rest at' found) ?_⟩
        simp [exchange, setThread_other]
      | nil =>
        have after : UDPRelay.choose conn s.relay (.send X.other) d =
            s.relay.setThread (.send X.other) (.sending d d.src_port) := by
          rw [UDPRelay.choose, found, targetPort_empty (X := X.other) side]
          simp [UDPRelay.State.setThread, found, afterChoice]
        rw [after]
        refine ⟨busy_setThread busy (by simp [Busy]),
          of_eq (.popEmpty d at' found) ?_⟩
        simp [exchange, setThread_other]

theorem exchange_push (busy : ∀ w, Busy X w (s.relay.thread w)) {w : Socket}
    {r : UDPRelay.State} (move : UDPRelay.Move conn s.relay (.push w) r) :
    (∀ w, Busy X w (r.thread w)) ∧
      UDPExchange.Move conn X (exchange X s) (exchange X { s with relay := r }) := by
  cases move with
  | push _ d port at' =>
    rcases busy_thread (busy w) (by rw [at']; nofun) with rfl | rfl
    · refine ⟨busy_setThread busy (by simp [Busy]), of_eq (.push d port at') ?_⟩
      simp [exchange, setThread_other]
    · exact (replier_stores_none (at' ▸ busy _)).elim

theorem exchange_sendto (busy : ∀ w, Busy X w (s.relay.thread w)) {w : Socket} {call : FuzzCall}
    {r : UDPRelay.State} (move : UDPRelay.Move conn s.relay (.sendto w call) r) :
    (∀ w, Busy X w (r.thread w)) ∧
      UDPExchange.Move conn X (exchange X s) (exchange X { s with relay := r }) := by
  cases move with
  | sendFails _ _ d port at' gone =>
    rcases busy_thread (busy w) (by rw [at']; nofun) with rfl | rfl
    · refine ⟨busy_setThread busy (Or.inl rfl), of_eq (.passFails d port at' gone) ?_⟩
      simp [exchange, setThread_other]
    · rw [Socket.forwardSock, other_other] at gone
      exact absurd gone (requester_there (busy _))
  | sendto _ _ d port at' there =>
    rcases busy_thread (busy w) (by rw [at']; nofun) with rfl | rfl
    · refine ⟨busy_setThread busy (Or.inl rfl), of_eq (.pass d port at' there) ?_⟩
      simp [exchange, forwards_snoc, setThread_other]
    · refine ⟨busy_setThread busy (Or.inl rfl), of_eq (.forward call d port at') ?_⟩
      simp [exchange, forwards_snoc, setThread_other, Socket.forwardSock, Socket.side]

/-- Every step of the dialogue is a step of the exchange. -/
theorem exchange_move (dynamic : conn.entityPort X = -1) (fixed : conn.entityPort X.other ≠ -1)
    (busy : ∀ w, Busy X w (s.relay.thread w)) (some_data : ∀ d, e = .request d → d.data ≠ [])
    (move : Move conn X s e u) :
    (∀ w, Busy X w (u.relay.thread w)) ∧
      UDPExchange.Move conn X (exchange X s) (exchange X u) := by
  cases move with
  | request d r move => exact exchange_request busy (some_data d rfl) move
  | choose w r move => exact exchange_choose dynamic fixed busy move
  | push w r move => exact exchange_push busy move
  | sendto w call r move => exact exchange_sendto busy move
  | replyArrives d rest r next move => exact exchange_arrives busy next move
  | reply d open' => exact ⟨busy, .reply d open'⟩
  | ignore open' => exact ⟨busy, .ignore open'⟩

theorem run_matched (dynamic : conn.entityPort X = -1) (fixed : conn.entityPort X.other ≠ -1)
    {ok : State → Event → Prop} (some_data : ∀ t d, ok t (.request d) → d.data ≠ [])
    {es : List Event} (run : Runs (step conn X) ok initial es s) :
    (∀ w, Busy X w (s.relay.thread w)) ∧ Matched conn X (exchange X s) := by
  have start : Matched conn X (exchange X initial) := initial_matched conn X
  refine run.state_invariant
    (fun s => (∀ w, Busy X w (s.relay.thread w)) ∧ Matched conn X (exchange X s))
    ⟨fun _ => Or.inl rfl, start⟩ ?_
  intro t e v ⟨busy, matched⟩ met hs
  obtain ⟨busy', move⟩ := exchange_move dynamic fixed busy
    (fun d same => some_data t d (same ▸ met)) (step_move hs)
  exact ⟨busy', matched_move matched move⟩

end Cezfuzzer.UDPDialogue
