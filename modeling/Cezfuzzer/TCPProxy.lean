import Cezfuzzer.StepRuns
import Cezfuzzer.TCPRedirections
import Cezfuzzer.TCPConnectionLoop

set_option autoImplicit false

/-!
# The TCP proxy

The threads of one proxy process: `main` in the constructor of its `TCPHandler`, a listen thread
for each redirection, and two connection threads for each client. No socket is ever closed, so
that its number stands for its descriptor. There are no UDP entities: a `UDPHandler` in the same
process would close sockets, and `accept` could give out their numbers again.
-/
namespace Cezfuzzer.TCPProxy
open StepRuns LengthPrefix FuzzerCore TCPConnectionLoop TCPRedirections

/-- What a socket has been made by: `accept` on the listening socket of a thread, `socket`, or
    `connect` after that. -/
inductive Origin where
  | accept (listener : ListenThreadArgs) (client : String × UInt16)
  | socket
  | connect (server : String × UInt16)
  deriving DecidableEq, Repr

/-- All bytes that have arrived and how many of them have been received, whether the peer has
    closed or reset the connection, and all bytes that `send` has accepted. -/
structure Socket where
  origin : Origin
  arrived : Bytes
  taken : ℕ
  ended : Bool
  broken : Bool
  sent : Bytes
  deriving DecidableEq, Repr

def newSocket (origin : Origin) : Socket := ⟨origin, [], 0, false, false, []⟩

def Socket.available (k : Socket) : Bytes := k.arrived.drop k.taken

/-- Where a listen thread stands: in `accept`, before its `socket`, before its `connect`, before
    either of the two `pthread_create`s of `startChannelThreads`, before `addChannelPair`. -/
inductive ListenPhase where
  | accepting
  | accepted (client : ℕ)
  | connecting (client server : ℕ)
  | startingClient (client server : ℕ)
  | startingServer (client server : ℕ)
  | adding (client server : ℕ)
  deriving DecidableEq, Repr

structure Listener where
  args : ListenThreadArgs
  phase : ListenPhase
  deriving DecidableEq, Repr

/-- A chunk, what its `postFuzzing` met, and how much of the buffer `send` has accepted. -/
structure Sent where
  chunk : Bytes
  call : FuzzCall
  buffer : Bytes
  accepted : ℕ

/-- A connection thread is in `recv`, in `postFuzzing`, or in `send`. -/
inductive Control where
  | receiving
  | fuzzing (chunk : Bytes)
  | sending (chunk : Bytes) (call : FuzzCall) (buffer : Bytes)

structure Thread where
  recv_fd : ℕ
  send_fd : ℕ
  control : Control
  sends : List Sent

/-- `main` in the constructor with the redirections still to come, or in its last loop. -/
inductive Main where
  | building (rest : List ListenAttempt)
  | spinning
  deriving DecidableEq, Repr

/-- `dangling` says that a listen thread has called its handler after the handler was destroyed
    at the end of the `try` block. What that call writes is taken to be harmless. -/
structure State where
  main : Main
  listeners : List Listener
  sockets : List Socket
  threads : List Thread
  channelPairs : List (ℕ × ℕ)
  dangling : Bool
  exited : Bool

def initial (attempts : List ListenAttempt) : State :=
  ⟨.building attempts, [], [], [], [], false, false⟩

inductive MainEvent where
  | redirection | leaveTry
  deriving DecidableEq, Repr

inductive ListenEvent where
  | accept (client : String × UInt16) | acceptFails | socket (ok : Bool) | connect (ok : Bool)
  | startClient (ok : Bool) | startServer (ok : Bool) | addChannelPair
  deriving DecidableEq, Repr

inductive ThreadEvent where
  | recv (n : ℕ) | recvFails | fuzz (call : FuzzCall) | send (n : ℕ) | sigpipe

inductive NetworkEvent where
  | arrives (bytes : Bytes) | ends | breaks
  deriving DecidableEq, Repr

inductive Event where
  | main (e : MainEvent)
  | listen (l : ℕ) (e : ListenEvent)
  | thread (i : ℕ) (e : ThreadEvent)
  | network (k : ℕ) (e : NetworkEvent)

def State.setListener (s : State) (l : ℕ) (x : Listener) : State :=
  { s with listeners := s.listeners.set l x }

def State.setSocket (s : State) (k : ℕ) (x : Socket) : State :=
  { s with sockets := s.sockets.set k x }

def State.setThread (s : State) (i : ℕ) (t : Thread) : State :=
  { s with threads := s.threads.set i t }

/-- The listen thread that one round of the constructor leaves behind. -/
def launched (a : ListenAttempt) : List Listener :=
  (addRedirection ⟨[], []⟩ a).threads.map (fun args => ⟨args, .accepting⟩)

def mainStep (s : State) (e : MainEvent) : Option State :=
  match s.main, e with
  | .building (a :: rest), .redirection =>
    some { s with main := .building rest, listeners := s.listeners ++ launched a }
  | .building [], .leaveTry => some { s with main := .spinning }
  | _, _ => none

/-- `startConnectionThread`: `pthread_create` does not return a negative number, so that a thread
    that cannot be made is not noticed. -/
def startConnectionThread (s : State) (recv_fd send_fd : ℕ) (ok : Bool) : State :=
  if ok then { s with threads := s.threads ++ [⟨recv_fd, send_fd, .receiving, []⟩] } else s

@[simp] theorem startConnectionThread_listeners (s : State) (recv_fd send_fd : ℕ) (ok : Bool) :
    (startConnectionThread s recv_fd send_fd ok).listeners = s.listeners := by
  cases ok <;> rfl

@[simp] theorem startConnectionThread_sockets (s : State) (recv_fd send_fd : ℕ) (ok : Bool) :
    (startConnectionThread s recv_fd send_fd ok).sockets = s.sockets := by
  cases ok <;> rfl

/-- `_listen_thread` -/
def listenStep (s : State) (l : ℕ) (x : Listener) (e : ListenEvent) : Option State :=
  match x.phase, e with
  | .accepting, .accept client => some { s.setListener l { x with
      phase := .accepted s.sockets.length } with
      sockets := s.sockets ++ [newSocket (.accept x.args client)] }
  | .accepting, .acceptFails => some s
  | .accepted c, .socket ok =>
    if ok then some { s.setListener l { x with phase := .connecting c s.sockets.length } with
      sockets := s.sockets ++ [newSocket .socket] }
    else some { s with exited := true }
  | .connecting c v, .connect ok => match s.sockets[v]? with
    | some k =>
      if ok then some ((s.setListener l { x with phase := .startingClient c v }).setSocket v
        { k with origin := .connect x.args.server })
      else some { s with exited := true }
    | none => none
  | .startingClient c v, .startClient ok =>
    some (startConnectionThread (s.setListener l { x with phase := .startingServer c v }) c v ok)
  | .startingServer c v, .startServer ok =>
    some (startConnectionThread (s.setListener l { x with phase := .adding c v }) v c ok)
  | .adding c v, .addChannelPair => some { s.setListener l { x with phase := .accepting } with
      channelPairs := s.channelPairs ++ [(c, v)]
      dangling := s.dangling || s.main = .spinning }
  | _, _ => none

/-- `_connection_thread_loop`. The return value of `send` is not looked at: a `send` that fails
    has accepted nothing. -/
def threadStep (rounds : ℕ) (s : State) (i : ℕ) (t : Thread) (e : ThreadEvent) : Option State :=
  match t.control, e with
  | .receiving, .recv n => match s.sockets[t.recv_fd]? with
    | some k =>
      if k.broken = false ∧ n ≤ k.available.length ∧ n ≤ bufferSize ∧
          (0 < n ∨ k.available = [] ∧ k.ended = true) then
        some ((s.setSocket t.recv_fd { k with taken := k.taken + n }).setThread i
          { t with control := .fuzzing (k.available.take n) })
      else none
    | none => none
  | .receiving, .recvFails => match s.sockets[t.recv_fd]? with
    | some k => if k.broken = true then some { s with exited := true } else none
    | none => none
  | .fuzzing chunk, .fuzz call => match postFuzzing rounds call chunk with
    | some fuzzed => some (s.setThread i { t with
        control := .sending chunk call ((fuzzed.ptr.getD []).take fuzzed.size) })
    | none => none
  | .sending chunk call buffer, .send n => match s.sockets[t.send_fd]? with
    | some k =>
      if n ≤ buffer.length then
        some ((s.setSocket t.send_fd { k with sent := k.sent ++ buffer.take n }).setThread i
          { t with control := .receiving, sends := t.sends ++ [⟨chunk, call, buffer, n⟩] })
      else none
    | none => none
  | .sending _ _ _, .sigpipe => match s.sockets[t.send_fd]? with
    | some k => if k.broken = true ∨ k.ended = true then some { s with exited := true } else none
    | none => none
  | _, _ => none

def networkStep (s : State) (k : ℕ) (x : Socket) (e : NetworkEvent) : Option State :=
  if x.origin = .socket ∨ x.ended = true ∨ x.broken = true then none
  else match e with
    | .arrives bytes => some (s.setSocket k { x with arrived := x.arrived ++ bytes })
    | .ends => some (s.setSocket k { x with ended := true })
    | .breaks => some (s.setSocket k { x with broken := true })

def step (rounds : ℕ) (s : State) (e : Event) : Option State :=
  if s.exited = true then none
  else match e with
    | .main e => mainStep s e
    | .listen l e => (s.listeners[l]?).bind (fun x => listenStep s l x e)
    | .thread i e => (s.threads[i]?).bind (fun t => threadStep rounds s i t e)
    | .network k e => (s.sockets[k]?).bind (fun x => networkStep s k x e)

inductive Move (rounds : ℕ) (s : State) : Event → State → Prop where
  | redirection (a : ListenAttempt) (rest : List ListenAttempt)
      (at' : s.main = .building (a :: rest)) :
      Move rounds s (.main .redirection)
        { s with main := .building rest, listeners := s.listeners ++ launched a }
  | leaveTry (at' : s.main = .building []) :
      Move rounds s (.main .leaveTry) { s with main := .spinning }
  | accept (l : ℕ) (x : Listener) (client : String × UInt16) (found : s.listeners[l]? = some x)
      (at' : x.phase = .accepting) :
      Move rounds s (.listen l (.accept client)) { s.setListener l { x with
        phase := .accepted s.sockets.length } with
        sockets := s.sockets ++ [newSocket (.accept x.args client)] }
  | acceptFails (l : ℕ) : Move rounds s (.listen l .acceptFails) s
  | socket (l c : ℕ) (x : Listener) (found : s.listeners[l]? = some x)
      (at' : x.phase = .accepted c) :
      Move rounds s (.listen l (.socket true)) { s.setListener l { x with
        phase := .connecting c s.sockets.length } with
        sockets := s.sockets ++ [newSocket .socket] }
  | connect (l c v : ℕ) (x : Listener) (k : Socket) (found : s.listeners[l]? = some x)
      (at' : x.phase = .connecting c v) (created : s.sockets[v]? = some k) :
      Move rounds s (.listen l (.connect true))
        ((s.setListener l { x with phase := .startingClient c v }).setSocket v
          { k with origin := .connect x.args.server })
  | startClient (l c v : ℕ) (x : Listener) (ok : Bool) (found : s.listeners[l]? = some x)
      (at' : x.phase = .startingClient c v) :
      Move rounds s (.listen l (.startClient ok)) (startConnectionThread
        (s.setListener l { x with phase := .startingServer c v }) c v ok)
  | startServer (l c v : ℕ) (x : Listener) (ok : Bool) (found : s.listeners[l]? = some x)
      (at' : x.phase = .startingServer c v) :
      Move rounds s (.listen l (.startServer ok)) (startConnectionThread
        (s.setListener l { x with phase := .adding c v }) v c ok)
  | addChannelPair (l c v : ℕ) (x : Listener) (found : s.listeners[l]? = some x)
      (at' : x.phase = .adding c v) :
      Move rounds s (.listen l .addChannelPair) { s.setListener l { x with
        phase := .accepting } with
        channelPairs := s.channelPairs ++ [(c, v)]
        dangling := s.dangling || s.main = .spinning }
  | recv (i n : ℕ) (t : Thread) (k : Socket) (found : s.threads[i]? = some t)
      (at' : t.control = .receiving) (socket : s.sockets[t.recv_fd]? = some k)
      (there : n ≤ k.available.length) (fits : n ≤ bufferSize)
      (ready : 0 < n ∨ k.available = [] ∧ k.ended = true) :
      Move rounds s (.thread i (.recv n))
        ((s.setSocket t.recv_fd { k with taken := k.taken + n }).setThread i
          { t with control := .fuzzing (k.available.take n) })
  | fuzz (i : ℕ) (t : Thread) (chunk : Bytes) (call : FuzzCall) (fuzzed : Buffer)
      (found : s.threads[i]? = some t) (at' : t.control = .fuzzing chunk)
      (returned : postFuzzing rounds call chunk = some fuzzed) :
      Move rounds s (.thread i (.fuzz call)) (s.setThread i { t with
        control := .sending chunk call ((fuzzed.ptr.getD []).take fuzzed.size) })
  | send (i n : ℕ) (t : Thread) (chunk buffer : Bytes) (call : FuzzCall) (k : Socket)
      (found : s.threads[i]? = some t) (at' : t.control = .sending chunk call buffer)
      (socket : s.sockets[t.send_fd]? = some k) (fits : n ≤ buffer.length) :
      Move rounds s (.thread i (.send n))
        ((s.setSocket t.send_fd { k with sent := k.sent ++ buffer.take n }).setThread i
          { t with control := .receiving, sends := t.sends ++ [⟨chunk, call, buffer, n⟩] })
  | arrives (k : ℕ) (x : Socket) (bytes : Bytes) (found : s.sockets[k]? = some x) :
      Move rounds s (.network k (.arrives bytes))
        (s.setSocket k { x with arrived := x.arrived ++ bytes })
  | ends (k : ℕ) (x : Socket) (found : s.sockets[k]? = some x) :
      Move rounds s (.network k .ends) (s.setSocket k { x with ended := true })
  | breaks (k : ℕ) (x : Socket) (found : s.sockets[k]? = some x) :
      Move rounds s (.network k .breaks) (s.setSocket k { x with broken := true })
  | exits (e : Event) : Move rounds s e { s with exited := true }

theorem listenStep_move {rounds : ℕ} {s u : State} {l : ℕ} {x : Listener} {e : ListenEvent}
    (found : s.listeners[l]? = some x) (h : listenStep s l x e = some u) :
    Move rounds s (.listen l e) u := by
  unfold listenStep at h
  split at h
  · cases h
    exact .accept l x _ found (by assumption)
  · cases h
    exact .acceptFails l
  · split at h
    · rename_i ok
      cases h
      exact ok ▸ .socket l _ x found (by assumption)
    · cases h
      exact .exits _
  · split at h
    · split at h
      · rename_i ok
        cases h
        exact ok ▸ .connect l _ _ x _ found (by assumption) (by assumption)
      · cases h
        exact .exits _
    · cases h
  · cases h
    exact .startClient l _ _ x _ found (by assumption)
  · cases h
    exact .startServer l _ _ x _ found (by assumption)
  · cases h
    exact .addChannelPair l _ _ x found (by assumption)
  · cases h

theorem threadStep_move {rounds : ℕ} {s u : State} {i : ℕ} {t : Thread} {e : ThreadEvent}
    (found : s.threads[i]? = some t) (h : threadStep rounds s i t e = some u) :
    Move rounds s (.thread i e) u := by
  unfold threadStep at h
  split at h
  · split at h
    · split at h
      · rename_i met
        cases h
        exact .recv i _ t _ found (by assumption) (by assumption) met.2.1 met.2.2.1 met.2.2.2
      · cases h
    · cases h
  · split at h
    · split at h
      · cases h
        exact .exits _
      · cases h
    · cases h
  · split at h
    · cases h
      exact .fuzz i t _ _ _ found (by assumption) (by assumption)
    · cases h
  · split at h
    · split at h
      · cases h
        exact .send i _ t _ _ _ _ found (by assumption) (by assumption) (by assumption)
      · cases h
    · cases h
  · split at h
    · split at h
      · cases h
        exact .exits _
      · cases h
    · cases h
  · cases h

theorem networkStep_move {rounds : ℕ} {s u : State} {k : ℕ} {x : Socket} {e : NetworkEvent}
    (found : s.sockets[k]? = some x) (h : networkStep s k x e = some u) :
    Move rounds s (.network k e) u := by
  unfold networkStep at h
  split at h
  · cases h
  · split at h
    · cases h
      exact .arrives k x _ found
    · cases h
      exact .ends k x found
    · cases h
      exact .breaks k x found

theorem step_move {rounds : ℕ} {s u : State} {e : Event} (h : step rounds s e = some u) :
    Move rounds s e u := by
  unfold step at h
  split at h
  · cases h
  cases e with
  | main e =>
    simp only [mainStep] at h
    split at h
    · cases h
      exact .redirection _ _ (by assumption)
    · cases h
      exact .leaveTry (by assumption)
    · cases h
  | listen l e =>
    obtain ⟨x, found, h⟩ := Option.bind_eq_some_iff.mp h
    exact listenStep_move found h
  | thread i e =>
    obtain ⟨t, found, h⟩ := Option.bind_eq_some_iff.mp h
    exact threadStep_move found h
  | network k e =>
    obtain ⟨x, found, h⟩ := Option.bind_eq_some_iff.mp h
    exact networkStep_move found h

end Cezfuzzer.TCPProxy
