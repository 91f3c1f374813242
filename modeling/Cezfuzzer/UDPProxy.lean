import Cezfuzzer.UDPHandlerSockets

set_option autoImplicit false

/-!
# The UDP proxy

All threads of a `UDPHandler` on all of its connections. A connection has one queue of dynamic
ports for its four threads; a socket is closed by the thread that reads it.
-/
namespace Cezfuzzer.UDPProxy
open LengthPrefix FuzzerCore CommanderConfig UDPHandlerSockets
open UDPRelay (Datagram htons udpPayload recvTargetPort sendDstPort)

/-- What a thread has handed to `sendto`. -/
structure Sent where
  fd : ℤ
  ip : String
  port : UInt16
  payload : Bytes
  deriving DecidableEq

inductive Entry where
  | received (t : Thread) (d : Datagram)
  | sent (t : Thread) (x : Sent)
  deriving DecidableEq

/-- A thread is told by its place in the list of all threads. -/
structure State where
  dynamicPorts : UDPConnection → List ℤ
  phase : ℕ → UDPRelay.Thread
  closed : List ℤ
  log : List Entry

def initial : State := ⟨fun _ => [], fun _ => .receiving, [], []⟩

inductive Action where
  | recvfrom (d : Datagram)
  | choose
  | push
  | sendto (call : FuzzCall)

structure Event where
  thread : ℕ
  action : Action

def State.setPhase (s : State) (i : ℕ) (p : UDPRelay.Thread) : State :=
  { s with phase := Function.update s.phase i p }

def State.setPorts (s : State) (u : UDPConnection) (ports : List ℤ) : State :=
  { s with dynamicPorts := Function.update s.dynamicPorts u ports }

/-- The port of the entity that a recv thread hears from; it stores the ports of a dynamic one. -/
def ownPort : Thread → Option ℤ
  | .recv recv_sock u =>
    if recv_sock = u.recv_sock_from_entityA then some u.conn.entityA_port
    else if recv_sock = u.recv_sock_from_entityB then some u.conn.entityB_port
    else none
  | .send _ _ _ => none

def targetPort (t : Thread) (port : ℤ) (dynamicPorts : List ℤ) (d : Datagram) : ℤ × List ℤ :=
  match t with
  | .recv _ _ => recvTargetPort port dynamicPorts
  | .send _ _ _ => sendDstPort port dynamicPorts d.src_port

def afterChoice (t : Thread) (d : Datagram) (target_port : ℤ) : UDPRelay.Thread :=
  if ownPort t = some (-1) then .pushing d target_port else .sending d target_port

/-- A `recv_sock` that the connection does not know goes back to `recvfrom`. -/
def choose (s : State) (i : ℕ) (t : Thread) (d : Datagram) : State :=
  match t.target with
  | none => s.setPhase i .receiving
  | some (_, dst) =>
    let choice := targetPort t dst.port (s.dynamicPorts t.conn) d
    (s.setPhase i (afterChoice t d choice.1)).setPorts t.conn choice.2

def sendto (s : State) (i : ℕ) (t : Thread) (d : Datagram) (target_port : ℤ) (call : FuzzCall) :
    State :=
  match t.target with
  | none => s.setPhase i .receiving
  | some (fd, dst) =>
    if fd ∈ s.closed then s.setPhase i .receiving
    else { s.setPhase i .receiving with
      log := s.log ++ [.sent t ⟨fd, dst.ip, htons target_port, udpPayload call d.buffer⟩] }

/-- The loops of `recvThreadEntry` and `sendThreadEntry`. -/
def threadStep (s : State) (i : ℕ) (t : Thread) : Action → Option State
  | .recvfrom d => match s.phase i with
    | .receiving =>
      if d.buffer = [] then some { s.setPhase i .closed with closed := s.closed ++ [t.sock] }
      else some { s.setPhase i (.choosing d) with log := s.log ++ [.received t d] }
    | _ => none
  | .choose => match s.phase i with
    | .choosing d => some (choose s i t d)
    | _ => none
  | .push => match s.phase i with
    | .pushing d target_port => some ((s.setPhase i (.sending d target_port)).setPorts t.conn
        (s.dynamicPorts t.conn ++ [d.src_port]))
    | _ => none
  | .sendto call => match s.phase i with
    | .sending d target_port => some (sendto s i t d target_port call)
    | _ => none

def step (ts : List Thread) (s : State) (e : Event) : Option State :=
  (ts[e.thread]?).bind (fun t => threadStep s e.thread t e.action)

inductive ThreadMove (s : State) (i : ℕ) (t : Thread) : Action → State → Prop where
  | ends (d : Datagram) (at' : s.phase i = .receiving) (empty : d.buffer = []) :
      ThreadMove s i t (.recvfrom d)
        { s.setPhase i .closed with closed := s.closed ++ [t.sock] }
  | recvfrom (d : Datagram) (at' : s.phase i = .receiving) (bytes : d.buffer ≠ []) :
      ThreadMove s i t (.recvfrom d)
        { s.setPhase i (.choosing d) with log := s.log ++ [.received t d] }
  | stray (d : Datagram) (at' : s.phase i = .choosing d) (unknown : t.target = none) :
      ThreadMove s i t .choose (s.setPhase i .receiving)
  | choose (d : Datagram) (fd : ℤ) (dst : Endpoint) (at' : s.phase i = .choosing d)
      (target : t.target = some (fd, dst)) :
      ThreadMove s i t .choose ((s.setPhase i (afterChoice t d
        (targetPort t dst.port (s.dynamicPorts t.conn) d).1)).setPorts t.conn
        (targetPort t dst.port (s.dynamicPorts t.conn) d).2)
  | push (d : Datagram) (target_port : ℤ) (at' : s.phase i = .pushing d target_port) :
      ThreadMove s i t .push ((s.setPhase i (.sending d target_port)).setPorts t.conn
        (s.dynamicPorts t.conn ++ [d.src_port]))
  | lose (d : Datagram) (target_port : ℤ) (call : FuzzCall)
      (at' : s.phase i = .sending d target_port)
      (shut : ∀ fd dst, t.target = some (fd, dst) → fd ∈ s.closed) :
      ThreadMove s i t (.sendto call) (s.setPhase i .receiving)
  | sendto (d : Datagram) (target_port : ℤ) (call : FuzzCall) (fd : ℤ) (dst : Endpoint)
      (at' : s.phase i = .sending d target_port) (target : t.target = some (fd, dst))
      (opened : fd ∉ s.closed) :
      ThreadMove s i t (.sendto call) { s.setPhase i .receiving with
        log := s.log ++ [.sent t ⟨fd, dst.ip, htons target_port, udpPayload call d.buffer⟩] }

theorem threadStep_move {s u : State} {i : ℕ} {t : Thread} {a : Action}
    (h : threadStep s i t a = some u) : ThreadMove s i t a u := by
  cases a with
  | recvfrom d =>
    simp only [threadStep] at h
    split at h
    · split at h
      · cases h
        exact .ends d (by assumption) (by assumption)
      · cases h
        exact .recvfrom d (by assumption) (by assumption)
    · cases h
  | choose =>
    simp only [threadStep] at h
    split at h
    · rename_i d choosing
      cases h
      rw [UDPProxy.choose]
      split
      · exact .stray d choosing (by assumption)
      · exact .choose d _ _ choosing (by assumption)
    · cases h
  | push =>
    simp only [threadStep] at h
    split at h
    · cases h
      exact .push _ _ (by assumption)
    · cases h
  | sendto call =>
    simp only [threadStep] at h
    split at h
    · rename_i d target_port sending
      cases h
      rw [UDPProxy.sendto]
      split
      · rename_i unknown
        exact .lose d target_port call sending fun fd dst target => by
          cases unknown.symm.trans target
      · rename_i fd dst target
        split
        · rename_i closed
          refine .lose d target_port call sending fun fd' dst' target' => ?_
          cases target.symm.trans target'
          exact closed
        · exact .sendto d target_port call _ _ sending (by assumption) (by assumption)
    · cases h

end Cezfuzzer.UDPProxy
