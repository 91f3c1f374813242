import Cezfuzzer.LauncherInvariants

set_option autoImplicit false

/-!
# The start-up handshake

A client is put into `client_fd_list` before its handler runs. A broadcast that comes in
between sends it a `RESTART` ahead of its own IP, and `set_entities_list` takes the first
frame for the IP whatever it is.
-/
namespace Cezfuzzer.LauncherHandshake
open StepRuns LengthPrefix LauncherMessages LauncherClient LauncherMachine LauncherInvariants

variable {config : List EntityConfig} {s u : State} {e : Event}

/-- The client's IP, `START`, and then only `RESTART`. -/
def handshake (c : Connection) (restarts : ℕ) : List Frame :=
  .ip c.peer :: .start :: List.replicate restarts .restart

def InOrder (c : Connection) : Prop := ∃ n, c.sent <+: handshake c n

/-- The frame that `set_entities_list` will take is the client's IP. -/
def IdentifiesByIP (c : Connection) : Prop :=
  c.client.phase = .identifying → ∀ f ∈ c.toClient.head?, f = .ip c.peer

/-- `handle_client_connection` is past `send_start_signal`. -/
def Started (h : Handler) : Prop := h ≠ .absent ∧ h ≠ .sendingIP ∧ h ≠ .sendingStart

instance (h : Handler) : Decidable (Started h) := inferInstanceAs (Decidable (_ ∧ _))

def nextClient : MainLoop → Option ℕ
  | .broadcasting (fd :: _) => some fd
  | _ => none

/-- A `RESTART` goes only to a client that has been sent its `START`. -/
def StartedFirst (s : State) : Event → Prop
  | .main .broadcast =>
    ∀ fd ∈ nextClient s.mainLoop, ∀ c ∈ s.connections[fd]?, Started c.handler
  | _ => True

instance (s : State) (e : Event) : Decidable (StartedFirst s e) := by
  unfold StartedFirst
  split <;> infer_instance

def SentSoFar (c : Connection) : Handler → Prop
  | .absent | .sendingIP => c.sent = []
  | .sendingStart => c.sent = [.ip c.peer]
  | _ => ∃ n, c.sent = handshake c n

/-- Until the client takes its first frame, all that has been sent to it is on the way. -/
structure Greeted (c : Connection) : Prop where
  sent : SentSoFar c c.handler
  waiting : c.client.phase = .identifying → c.toClient = c.sent

theorem sentSoFar_started {c : Connection} {h : Handler} (started : Started h) :
    SentSoFar c h ↔ ∃ n, c.sent = handshake c n := by
  cases h <;> simp_all [Started, SentSoFar]

theorem accepted_greeted (peer : Address) : Greeted (accepted peer) := ⟨rfl, fun _ => rfl⟩

theorem greeted_inOrder {c : Connection} (greeted : Greeted c) : InOrder c := by
  by_cases started : Started c.handler
  · obtain ⟨n, hn⟩ := (sentSoFar_started started).mp greeted.sent
    exact ⟨n, hn ▸ List.prefix_rfl⟩
  · refine ⟨0, ?_⟩
    have sent := greeted.sent
    cases h : c.handler <;> simp_all [Started, SentSoFar, handshake, List.prefix_iff_eq_take]

theorem greeted_identifies {c : Connection} (greeted : Greeted c) : IdentifiesByIP c := by
  intro identifying f first
  obtain ⟨n, ⟨rest, order⟩⟩ := greeted_inOrder greeted
  rw [← greeted.waiting identifying] at order
  cases h : c.toClient with
  | nil => simp [h] at first
  | cons g gs =>
    simp only [h, List.head?_cons, Option.mem_def, Option.some.injEq] at first
    simp only [h, handshake, List.cons_append, List.cons.injEq] at order
    rw [← first, order.1]

theorem clientMove_greeted {c c' : Connection} {e : ClientEvent} (greeted : Greeted c)
    (move : ClientMove config c e c') : Greeted c' := by
  obtain ⟨sent, waiting⟩ := greeted
  cases move with
  | receive f rest at' next =>
    refine ⟨sent, fun identifying => ?_⟩
    unfold multiplex at identifying
    split at identifying <;> simp_all [startEntities]
  | register pid rest child at' found => exact ⟨sent, fun identifying => by cases identifying⟩
  | exits pid child found | dies pid child found | reap pid child found
  | report pid child found => exact ⟨sent, waiting⟩
  | _ => exact ⟨sent, fun identifying => by cases identifying⟩

theorem greeted_sendRestart {c : Connection} (greeted : Greeted c) (started : Started c.handler) :
    Greeted (sendTo c .restart) := by
  refine ⟨(sentSoFar_started started).mpr ?_, fun h => ?_⟩
  · obtain ⟨n, hn⟩ := (sentSoFar_started started).mp greeted.sent
    refine ⟨n + 1, ?_⟩
    simp only [sendTo, hn, handshake, List.cons_append, List.replicate_succ']
  · simp only [sendTo, greeted.waiting h]

theorem greeted_setConnection {t : State} {fd : ℕ} {c c' : Connection}
    (greeted : ∀ (i : ℕ) (x : Connection), s.connections[i]? = some x → Greeted x)
    (found : s.connections[fd]? = some c) {i : ℕ} {x : Connection}
    (hx : t.connections[i]? = some x)
    (same : t.connections = (s.setConnection fd c').connections) (new : Greeted c') :
    Greeted x := by
  rw [same] at hx
  rcases setConnection_getElem hx with ⟨rfl, rfl⟩ | ⟨_, hx⟩
  · exact new
  · exact greeted i x hx

theorem greeted_move (registered : Registered s)
    (greeted : ∀ (i : ℕ) (x : Connection), s.connections[i]? = some x → Greeted x)
    (met : StartedFirst s e) (move : Move config s e u) (i : ℕ) (x : Connection)
    (hx : u.connections[i]? = some x) : Greeted x := by
  cases move with
  | accept peer at' =>
    rcases getElem_snoc hx with hx | rfl
    · exact greeted i x hx
    · exact accepted_greeted peer
  | client fd e c c' found move =>
    exact greeted_setConnection greeted found hx rfl
      (clientMove_greeted (greeted fd c found) move)
  | createHandler fd c at' found =>
    have absent := registered.absent fd c found (by simp [listenFd, at'])
    obtain ⟨sent, waiting⟩ := greeted fd c found
    rw [absent] at sent
    exact greeted_setConnection greeted found hx rfl ⟨sent, waiting⟩
  | sendClientIP fd c ci found at' listed =>
    -- the entry of `client_list` is this client's
    have own : ci.sockfd = fd := by simpa using List.find?_some listed
    have address := registered.address ci (List.mem_of_find?_eq_some listed)
    rw [own, found, Option.map_some, Option.some.injEq] at address
    obtain ⟨sent, waiting⟩ := greeted fd c found
    rw [at'] at sent
    refine greeted_setConnection greeted found hx rfl ⟨?_, fun h => ?_⟩
    · change c.sent ++ [.ip ci.clientIP] = [.ip c.peer]
      rw [show c.sent = [] from sent, address, List.nil_append]
    · simp only [setHandler, sendTo, waiting h]
  | sendStartSignal fd c found at' =>
    obtain ⟨sent, waiting⟩ := greeted fd c found
    rw [at'] at sent
    refine greeted_setConnection greeted found hx rfl ⟨⟨0, ?_⟩, fun h => ?_⟩
    · change c.sent ++ [.start] = [.ip c.peer, .start]
      rw [show c.sent = [.ip c.peer] from sent, List.singleton_append]
    · simp only [setHandler, sendTo, waiting h]
  | recvMessage fd c f rest found at' next =>
    obtain ⟨sent, waiting⟩ := greeted fd c found
    rw [at'] at sent
    refine greeted_setConnection greeted found hx rfl ⟨?_, waiting⟩
    refine (sentSoFar_started ?_).mpr sent
    by_cases crash : f = .crash <;> simp [crash, Started]
  | lock fd c found at' | storeMessage fd c found at' | storeFlag fd c found at'
  | unlock fd c found at' | wake fd c found at' =>
    obtain ⟨sent, waiting⟩ := greeted fd c found
    rw [at'] at sent
    exact greeted_setConnection greeted found hx rfl ⟨sent, waiting⟩
  | broadcast fd rest c at' found =>
    have started := met fd (by simp [nextClient, at']) c found
    exact greeted_setConnection greeted found hx rfl
      (greeted_sendRestart (greeted fd c found) started)
  | _ => exact greeted i x hx

theorem run_greeted {es : List Event} (run : Runs (step config) StartedFirst initial es s)
    (fd : ℕ) (c : Connection) (found : s.connections[fd]? = some c) : Greeted c := by
  have inv := run.state_invariant
    (fun s => Registered s ∧
      ∀ (fd : ℕ) (c : Connection), s.connections[fd]? = some c → Greeted c)
    ⟨initial_registered, fun _ _ found => by simp [initial] at found⟩
    (fun _ _ _ ⟨registered, greeted⟩ met hs => ⟨registered_move registered (step_move hs),
      greeted_move registered greeted met (step_move hs)⟩)
  exact inv.2 fd c found

theorem sent_setConnection {fd i : ℕ} {c c' x : Connection} (found : s.connections[fd]? = some c)
    (hx : s.connections[i]? = some x) (peer : c'.peer = c.peer) (sent : c.sent <+: c'.sent) :
    ∃ x', (s.setConnection fd c').connections[i]? = some x' ∧ x'.peer = x.peer ∧
      x.sent <+: x'.sent := by
  simp only [State.setConnection]
  by_cases hi : i = fd
  · subst hi
    obtain rfl : c = x := Option.some.inj (found.symm.trans hx)
    exact ⟨c', List.getElem?_set_self (List.getElem?_eq_some_iff.mp found).1, peer, sent⟩
  · exact ⟨x, (List.getElem?_set_ne (Ne.symm hi)).trans hx, rfl, List.prefix_rfl⟩

theorem move_sent (move : Move config s e u) {i : ℕ} {x : Connection}
    (hx : s.connections[i]? = some x) :
    ∃ x', u.connections[i]? = some x' ∧ x'.peer = x.peer ∧ x.sent <+: x'.sent := by
  cases move with
  | accept peer at' =>
    exact ⟨x, List.getElem?_append_left (List.getElem?_eq_some_iff.mp hx).1 ▸ hx, rfl,
      List.prefix_rfl⟩
  | client fd e c c' found move =>
    obtain ⟨-, peer, sent⟩ := clientMove_server move
    exact sent_setConnection found hx peer (sent ▸ List.prefix_rfl)
  | sendClientIP fd c ci found | sendStartSignal fd c found | broadcast fd rest c at' found =>
    exact sent_setConnection found hx rfl (List.prefix_append _ _)
  | createHandler fd c at' found | recvMessage fd c f rest found | lock fd c found
  | storeMessage fd c found | storeFlag fd c found | unlock fd c found | wake fd c found =>
    exact sent_setConnection found hx rfl List.prefix_rfl
  | _ => exact ⟨x, hx, rfl, List.prefix_rfl⟩

theorem inOrder_of_prefix {c c' : Connection} (peer : c'.peer = c.peer) (sent : c.sent <+: c'.sent)
    (order : InOrder c') : InOrder c := by
  obtain ⟨n, hn⟩ := order
  refine ⟨n, sent.trans ?_⟩
  rwa [handshake, peer] at hn

theorem sendRestart_disorder {c : Connection} (greeted : Greeted c)
    (early : ¬ Started c.handler) : ¬ InOrder (sendTo c .restart) := by
  rintro ⟨n, hn⟩
  have sent := greeted.sent
  have short : c.sent = [] ∨ c.sent = [.ip c.peer] := by
    cases h : c.handler <;> simp_all [Started, SentSoFar]
  rcases short with h | h <;> simp [sendTo, h, handshake] at hn

/-- Every frame in its place, and every client about to take its own IP. -/
def Orderly (s : State) : Prop :=
  ∀ (fd : ℕ) (c : Connection), s.connections[fd]? = some c → InOrder c ∧ IdentifiesByIP c

theorem orderly_run {es : List Event} (run : Runs (step config) StartedFirst initial es s) :
    Orderly s := fun fd c found =>
  ⟨greeted_inOrder (run_greeted run fd c found), greeted_identifies (run_greeted run fd c found)⟩

theorem run_startedFirst {es : List Event} (run : Runs (step config) anyStep initial es s)
    (order : ∀ (fd : ℕ) (c : Connection), s.connections[fd]? = some c → InOrder c) :
    Runs (step config) StartedFirst initial es s := by
  induction run with
  | refl => exact .refl
  | @next es t u e head _ hs ih =>
    have move := step_move hs
    have before : ∀ (fd : ℕ) (c : Connection), t.connections[fd]? = some c → InOrder c := by
      intro fd c found
      obtain ⟨c', found', peer, sent⟩ := move_sent move found
      exact inOrder_of_prefix peer sent (order fd c' found')
    have head' := ih before
    refine .next head' ?_ hs
    cases move with
    | broadcast fd rest c at' found =>
      intro fd' turn c' found'
      obtain rfl : fd = fd' := by simpa [nextClient, at'] using turn
      obtain rfl : c = c' := by simpa [found] using found'
      by_contra early
      refine sendRestart_disorder (run_greeted head' fd c found) early (order fd _ ?_)
      exact List.getElem?_set_self (List.getElem?_eq_some_iff.mp found).1
    | _ => trivial

/-- The handshake is orderly in exactly the runs in which every `RESTART` goes to a client
    that has been sent its `START`. -/
theorem orderly_iff_startedFirst (config : List EntityConfig) (es : List Event) (s : State)
    (run : Runs (step config) anyStep initial es s) :
    Orderly s ↔ Runs (step config) StartedFirst initial es s :=
  ⟨fun orderly => run_startedFirst run (fun fd c found => (orderly fd c found).1), orderly_run⟩

/-- The first client crashes while the second is listed and not served yet. -/
def crashWhileListed : List Event :=
  [.main (.boot true)] ++ accepts clientAddress ++ greets 0 ++ starts 0 2 ++
    [.client 0 (.exits 0)] ++ accepts clientAddress ++ reports 0 0 ++ answers 2

/-- The second client will take the `RESTART` for its IP. -/
theorem crashWhileListed_disorder : ∃ s c,
    Runs (step twoEntities) anyStep initial crashWhileListed s ∧
      s.connections[1]? = some c ∧ ¬ InOrder c ∧ ¬ IdentifiesByIP c := by
  obtain ⟨s, hs, h⟩ := exists_execute (step twoEntities) initial crashWhileListed
    (fun s => s.connections[1]?.any (fun c => c.sent = [.restart] ∧
      c.client.phase = .identifying ∧ c.toClient = [.restart])) (by decide +kernel)
  obtain ⟨c, found, h⟩ := (Option.any_eq_true _ _).mp h
  obtain ⟨sent, identifying, first⟩ := of_decide_eq_true h
  refine ⟨s, c, runs_of_unguarded hs, found, ?_, fun byIP => ?_⟩
  · rintro ⟨n, hn⟩
    simp [sent, handshake] at hn
  · have := byIP identifying .restart (by simp [first])
    cases this

def crashWhenServed : List Event :=
  [.main (.boot true)] ++ accepts clientAddress ++ greets 0 ++ starts 0 2 ++
    [.client 0 (.exits 0)] ++ accepts clientAddress ++ greets 1 ++ reports 0 0 ++ answers 2

theorem crashWhenServed_orderly : ∃ s,
    Runs (step twoEntities) anyStep initial crashWhenServed s ∧ Orderly s := by
  obtain ⟨s, hs, -⟩ := exists_execute (guarded (step twoEntities) StartedFirst) initial
    crashWhenServed (fun _ => true) (by decide +kernel)
  have run := runs_of_guarded hs
  exact ⟨s, run.forget,
    (orderly_iff_startedFirst twoEntities crashWhenServed s run.forget).mpr run⟩

end Cezfuzzer.LauncherHandshake
