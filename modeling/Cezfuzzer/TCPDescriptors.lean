import Cezfuzzer.TCPStreams

set_option autoImplicit false

/-!
# The descriptors of the TCP proxy

Nothing in the proxy closes a connection. Two descriptors go to each client for good, whether it
stays or leaves, and what the system allows a process bounds the clients of its whole life.
-/
namespace Cezfuzzer.TCPDescriptors
open StepRuns Tallies TCPRedirections TCPProxy
open TCPStreams (oneServer)

variable {rounds limit : ℕ} {attempts : List ListenAttempt} {s u : State} {e : Event}
  {es : List Event}

def acceptance : Event → ℕ
  | .listen _ (.accept _) => 1
  | _ => 0

/-- The clients that have been accepted in a run. -/
def accepts (es : List Event) : ℕ := tally acceptance es

/-- A client that has been accepted and whose server has no socket yet. -/
def alone (x : Listener) : ℕ :=
  match x.phase with
  | .accepted _ => 1
  | _ => 0

/-- `limit` descriptors are left for connections. -/
def WithinLimit (rounds limit : ℕ) (s : State) (e : Event) : Prop :=
  ∀ u ∈ step rounds s e, u.sockets.length ≤ limit

instance (rounds limit : ℕ) (s : State) (e : Event) : Decidable (WithinLimit rounds limit s e) :=
  inferInstanceAs (Decidable (∀ u ∈ step rounds s e, u.sockets.length ≤ limit))

/-- What the clients have used up. -/
def Paid (es : List Event) (s : State) : Prop :=
  2 * accepts es = s.sockets.length + tally alone s.listeners

theorem alone_set {l : ℕ} {x : Listener} (found : s.listeners[l]? = some x) (y : Listener) :
    tally alone (s.listeners.set l y) + alone x = tally alone s.listeners + alone y :=
  tally_set alone found y

theorem launched_alone (a : ListenAttempt) : tally alone (launched a) = 0 := by
  refine tally_eq_zero.mpr fun x member => ?_
  obtain ⟨args, -, rfl⟩ := List.mem_map.mp member
  rfl

/-- A client that is accepted does not end the proxy. -/
theorem accept_runs {l : ℕ} {client : String × UInt16}
    (h : step rounds s (.listen l (.accept client)) = some u) : u.exited = false := by
  unfold step at h
  split at h
  · cases h
  · rename_i running
    obtain ⟨x, -, h⟩ := Option.bind_eq_some_iff.mp h
    unfold listenStep at h
    cases at' : x.phase with
    | accepting =>
      simp only [at', Option.some.injEq] at h
      subst h
      simpa [State.setListener] using running
    | _ => simp [at'] at h

theorem paid_move (paid : Paid es s) (move : Move rounds s e u)
    (accepted : u.exited = true → acceptance e = 0) : Paid (es ++ [e]) u := by
  have count : accepts (es ++ [e]) = accepts es + acceptance e := by simp [accepts]
  unfold Paid at paid ⊢
  rw [count]
  cases move with
  | redirection a rest at' =>
    have := launched_alone a
    simp only [tally_append, acceptance]
    omega
  | accept l x client found at' =>
    have := alone_set found { x with phase := .accepted s.sockets.length }
    simp only [alone, at', State.setListener, List.length_append, List.length_singleton,
      acceptance] at this ⊢
    omega
  | socket l c x found at' =>
    have := alone_set found { x with phase := .connecting c s.sockets.length }
    simp only [alone, at', State.setListener, List.length_append, List.length_singleton,
      acceptance] at this ⊢
    omega
  | connect l c v x k found at' created =>
    have := alone_set found { x with phase := .startingClient c v }
    simp only [alone, at', State.setListener, State.setSocket, List.length_set,
      acceptance] at this ⊢
    omega
  | startClient l c v x ok found at' =>
    have := alone_set found { x with phase := .startingServer c v }
    simp only [alone, at', startConnectionThread_listeners, startConnectionThread_sockets,
      State.setListener, acceptance] at this ⊢
    omega
  | startServer l c v x ok found at' =>
    have := alone_set found { x with phase := .adding c v }
    simp only [alone, at', startConnectionThread_listeners, startConnectionThread_sockets,
      State.setListener, acceptance] at this ⊢
    omega
  | addChannelPair l c v x found at' =>
    have := alone_set found { x with phase := .accepting }
    simp only [alone, at', State.setListener, acceptance] at this ⊢
    omega
  | fuzz i t chunk call fuzzed found at' returned => exact paid
  | recv i n t k found at' socket there fits ready =>
    simpa [State.setSocket, State.setThread, acceptance] using paid
  | send i n t chunk buffer call k found at' socket fits =>
    simpa [State.setSocket, State.setThread, acceptance] using paid
  | arrives k x bytes found | ends k x found | breaks k x found =>
    simpa [State.setSocket, acceptance] using paid
  | exits e =>
    rw [accepted rfl]
    exact paid
  | _ => simpa [acceptance] using paid

theorem paid_step (paid : Paid es s) (h : step rounds s e = some u) : Paid (es ++ [e]) u := by
  refine paid_move paid (step_move h) fun exited => ?_
  cases e with
  | listen l e =>
    cases e with
    | accept client =>
      rw [accept_runs h] at exited
      cases exited
    | _ => rfl
  | _ => rfl

/-- The redirections that have no listen thread yet. -/
def toCome : Main → ℕ
  | .building rest => rest.length
  | .spinning => 0

theorem launched_length (a : ListenAttempt) : (launched a).length ≤ 1 := by
  rw [launched, List.length_map, addRedirection_threads]
  split <;> simp

theorem room_move (room : s.listeners.length + toCome s.main ≤ attempts.length)
    (move : Move rounds s e u) : u.listeners.length + toCome u.main ≤ attempts.length := by
  cases move with
  | redirection a rest at' =>
    have := launched_length a
    simp only [at', toCome, List.length_cons, List.length_append] at room ⊢
    omega
  | leaveTry at' =>
    simp only [at', toCome] at room ⊢
    omega
  | startClient l c v x ok found at' | startServer l c v x ok found at' =>
    cases ok <;> simpa [startConnectionThread, State.setListener] using room
  | accept l x client found at' | socket l c x found at' | addChannelPair l c v x found at' =>
    simpa [State.setListener] using room
  | connect l c v x k found at' created =>
    simpa [State.setListener, State.setSocket] using room
  | _ => exact room

/-- Two descriptors for each client that was ever accepted, but for those that a listen thread
    is about to connect. With `limit` descriptors for connections that makes about half as many
    clients in the whole life of the proxy, whichever of them have left. -/
theorem accepts_bounded (rounds limit : ℕ) (attempts : List ListenAttempt) (es : List Event)
    (s : State) (run : Runs (step rounds) (WithinLimit rounds limit) (initial attempts) es s) :
    2 * accepts es = s.sockets.length + tally alone s.listeners ∧
      2 * accepts es ≤ limit + attempts.length := by
  have inv : Paid es s ∧ s.listeners.length + toCome s.main ≤ attempts.length ∧
      s.sockets.length ≤ limit := by
    refine run.invariant (fun es s => Paid es s ∧
      s.listeners.length + toCome s.main ≤ attempts.length ∧ s.sockets.length ≤ limit) ?_ ?_
    · refine ⟨rfl, ?_, Nat.zero_le _⟩
      simp [initial, toCome]
    · rintro es t e u ⟨paid, room, -⟩ met h
      exact ⟨paid_step paid h, room_move room (step_move h), met u h⟩
  obtain ⟨paid, room, within⟩ := inv
  have few : tally alone s.listeners ≤ s.listeners.length := by
    have : ∀ x, alone x ≤ 1 := by
      intro x
      unfold alone
      split <;> omega
    refine (tally_le this s.listeners).trans (le_of_eq ?_)
    simp [tally]
  unfold Paid at paid
  exact ⟨paid, by omega⟩

/-- A client takes the only two descriptors, and leaves. -/
def oneLeaves : List Event :=
  [.main .redirection, .listen 0 (.accept ("10.0.0.2", 5000)), .listen 0 (.socket true),
    .listen 0 (.connect true), .listen 0 (.startClient true), .listen 0 (.startServer true),
    .listen 0 .addChannelPair, .network 0 .ends]

theorem oneLeaves_bounded : ∃ s,
    Runs (step 1) (WithinLimit 1 2) (initial oneServer) oneLeaves s ∧
      2 * accepts oneLeaves = s.sockets.length + tally alone s.listeners ∧
      2 * accepts oneLeaves ≤ 2 + oneServer.length := by
  obtain ⟨s, hs, -⟩ := exists_execute (guarded (step 1) (WithinLimit 1 2)) (initial oneServer)
    oneLeaves (fun _ => true) (by decide +kernel)
  have run := runs_of_guarded hs
  exact ⟨s, run, accepts_bounded 1 2 oneServer oneLeaves s run⟩

end Cezfuzzer.TCPDescriptors
