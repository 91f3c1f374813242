import Mathlib.Tactic.Cases
import Cezfuzzer.FuzzerCore
import Cezfuzzer.StepRuns

set_option autoImplicit false

/-!
# The UDP relay

One `UDPConnection` with the threads that serve its four sockets. A thread's `recvfrom`, its
two operations on the queue of dynamic ports and its `sendto` are separate steps; the
operations on the queue hold its mutex and are atomic.
-/
namespace Cezfuzzer.UDPRelay
open StepRuns LengthPrefix FuzzerCore

def maxUDPPayloadSize : ℕ := 65500

inductive Side where
  | A | B
  deriving DecidableEq, Repr

def Side.other : Side → Side
  | .A => .B
  | .B => .A

@[simp] theorem other_other (X : Side) : X.other.other = X := by cases X <;> rfl

@[simp] theorem other_ne (X : Side) : X.other ≠ X := by cases X <;> decide

theorem eq_other {X Y : Side} (h : X ≠ Y) : X = Y.other := by
  cases X <;> cases Y <;> first | rfl | exact absurd rfl h

/-- The proxy's own ports only decide where the sockets are bound, and are left out. -/
structure UDPConnection where
  entityA_ip : Bytes
  entityA_port : ℤ
  entityB_ip : Bytes
  entityB_port : ℤ
  deriving DecidableEq

def dynamicB : UDPConnection := ⟨[49], 5000, [50], -1⟩

def UDPConnection.entityIP (conn : UDPConnection) : Side → Bytes
  | .A => conn.entityA_ip
  | .B => conn.entityB_ip

def UDPConnection.entityPort (conn : UDPConnection) : Side → ℤ
  | .A => conn.entityA_port
  | .B => conn.entityB_port

/-- `recv_sock_from_entityX` and `send_sock_to_entityX`. The datagrams of a side arrive at
    its receiving socket, and as replies at the socket the proxy sends to it from. -/
inductive Socket where
  | recv (X : Side)
  | send (X : Side)
  deriving DecidableEq, Repr

def Socket.side : Socket → Side
  | .recv X | .send X => X

def Socket.forwardSock : Socket → Socket
  | .recv X => .send X.other
  | .send X => .recv X.other

/-- `startRecvThreads` and `startSendThreads`: the sending sockets have a thread only when
    a port is dynamic. -/
def Served (conn : UDPConnection) : Socket → Prop
  | .recv _ => True
  | .send _ => conn.entityA_port = -1 ∨ conn.entityB_port = -1

instance (conn : UDPConnection) (w : Socket) : Decidable (Served conn w) := by
  cases w <;> unfold Served <;> infer_instance

structure Datagram where
  data : Bytes
  srcPort : UInt16
  deriving DecidableEq

/-- What `recvfrom` puts into `buffer[4096]`. -/
def Datagram.buffer (d : Datagram) : Bytes := d.data.take 4096

theorem buffer_eq_nil (d : Datagram) : d.buffer = [] ↔ d.data = [] := by
  simp [Datagram.buffer]

def Datagram.src_port (d : Datagram) : ℤ := d.srcPort.toNat

/-- `htons` takes the low 16 bits. -/
def htons (port : ℤ) : UInt16 := UInt16.ofInt port

/-- Where a thread stands with a datagram: before the choice of the port that it goes to,
    before the `push`, and before the `sendto`. -/
inductive Thread where
  | receiving
  | choosing (d : Datagram)
  | pushing (d : Datagram) (target_port : ℤ)
  | sending (d : Datagram) (target_port : ℤ)
  | closed
  deriving DecidableEq

structure Forward where
  thread : Socket
  sock : Socket
  ip : Bytes
  port : UInt16
  payload : Bytes
  deriving DecidableEq

inductive Entry where
  | received (w : Socket) (d : Datagram)
  | forwarded (f : Forward)
  deriving DecidableEq

structure State where
  dynamicPorts : List ℤ
  thread : Socket → Thread
  log : List Entry

def initial : State := ⟨[], fun _ => .receiving, []⟩

inductive Event where
  | recvfrom (w : Socket) (d : Datagram)
  | choose (w : Socket)
  | push (w : Socket)
  | sendto (w : Socket) (call : FuzzCall)

/-- `popDynamicPort(port)`: the port afterwards, the queue, and the result. -/
def popDynamicPort (dynamicPorts : List ℤ) (port : ℤ) : ℤ × List ℤ × Bool :=
  match dynamicPorts with
  | [] => (port, [], false)
  | front :: rest => (front, rest, true)

/-- The recv threads ignore the result of the pop. -/
def recvTargetPort (port : ℤ) (dynamicPorts : List ℤ) : ℤ × List ℤ :=
  if port = -1 then
    ((popDynamicPort dynamicPorts port).1, (popDynamicPort dynamicPorts port).2.1)
  else (port, dynamicPorts)

/-- The send threads fall back to the datagram's own source port. -/
def sendDstPort (port : ℤ) (dynamicPorts : List ℤ) (src_port : ℤ) : ℤ × List ℤ :=
  if port = -1 then
    if (popDynamicPort dynamicPorts (-1)).2.2 then
      ((popDynamicPort dynamicPorts (-1)).1, (popDynamicPort dynamicPorts (-1)).2.1)
    else (src_port, (popDynamicPort dynamicPorts (-1)).2.1)
  else (port, dynamicPorts)

/-- The port that a thread forwards to, and the queue after its choice. -/
def targetPort (conn : UDPConnection) (dynamicPorts : List ℤ) (d : Datagram) :
    Socket → ℤ × List ℤ
  | .recv X => recvTargetPort (conn.entityPort X.other) dynamicPorts
  | .send X => sendDstPort (conn.entityPort X.other) dynamicPorts d.src_port

/-- Only the recv threads store the source port of a dynamic side. -/
def afterChoice (conn : UDPConnection) (d : Datagram) (target_port : ℤ) : Socket → Thread
  | .recv X => if conn.entityPort X = -1 then .pushing d target_port else .sending d target_port
  | .send _ => .sending d target_port

theorem targetPort_fixed {conn : UDPConnection} {w : Socket}
    (fixed : conn.entityPort w.side.other ≠ -1) (dynamicPorts : List ℤ) (d : Datagram) :
    targetPort conn dynamicPorts d w = (conn.entityPort w.side.other, dynamicPorts) := by
  cases w <;> exact if_neg fixed

theorem targetPort_pop {conn : UDPConnection} {w : Socket}
    (dynamic : conn.entityPort w.side.other = -1) (front : ℤ) (rest : List ℤ) (d : Datagram) :
    targetPort conn (front :: rest) d w = (front, rest) := by
  cases w <;> exact if_pos dynamic

theorem targetPort_empty {conn : UDPConnection} {X : Side}
    (dynamic : conn.entityPort X.other = -1) (d : Datagram) :
    targetPort conn [] d (.send X) = (d.src_port, []) := by
  simp [targetPort, sendDstPort, popDynamicPort, dynamic]

/-- The bytes handed to `sendto`. The buffer is never empty, so that this many rounds are
    enough for `postFuzzing`. -/
def udpPayload (call : FuzzCall) (buffer : Bytes) : Bytes :=
  match postFuzzing (minOutputSize + 1) call buffer with
  | some fuzzed => (fuzzed.ptr.getD []).take (min fuzzed.size (maxUDPPayloadSize - 1))
  | none => []

def State.setThread (s : State) (w : Socket) (t : Thread) : State :=
  { s with thread := Function.update s.thread w t }

@[simp] theorem setThread_self (s : State) (w : Socket) (t : Thread) :
    (s.setThread w t).thread w = t := Function.update_self ..

theorem setThread_other (s : State) {w w' : Socket} (t : Thread) (other : w' ≠ w) :
    (s.setThread w t).thread w' = s.thread w' := Function.update_of_ne other ..

theorem threads_setThread {s : State} {P : Socket → Thread → Prop} {w : Socket} {t : Thread}
    (others : ∀ w' ≠ w, P w' (s.thread w')) (new : P w t) (w' : Socket) :
    P w' ((s.setThread w t).thread w') := by
  by_cases other : w' = w
  · subst other
    rwa [setThread_self]
  · rw [setThread_other s t other]
    exact others w' other

@[simp] theorem setThread_log (s : State) (w : Socket) (t : Thread) :
    (s.setThread w t).log = s.log := rfl

@[simp] theorem setThread_dynamicPorts (s : State) (w : Socket) (t : Thread) :
    (s.setThread w t).dynamicPorts = s.dynamicPorts := rfl

def choose (conn : UDPConnection) (s : State) (w : Socket) (d : Datagram) : State :=
  { s.setThread w (afterChoice conn d (targetPort conn s.dynamicPorts d w).1 w) with
    dynamicPorts := (targetPort conn s.dynamicPorts d w).2 }

/-- A thread that leaves its loop closes its socket; a `sendto` through it fails from then
    on, which is only printed. -/
def step (conn : UDPConnection) (s : State) : Event → Option State
  | .recvfrom w d => match s.thread w with
    | .receiving =>
      if ¬ Served conn w then none
      else if d.buffer = [] then some (s.setThread w .closed)
      else some { s.setThread w (.choosing d) with log := s.log ++ [.received w d] }
    | _ => none
  | .choose w => match s.thread w with
    | .choosing d => some (choose conn s w d)
    | _ => none
  | .push w => match s.thread w with
    | .pushing d target_port => some { s.setThread w (.sending d target_port) with
        dynamicPorts := s.dynamicPorts ++ [d.src_port] }
    | _ => none
  | .sendto w call => match s.thread w with
    | .sending d target_port =>
      if s.thread w.forwardSock = .closed then some (s.setThread w .receiving)
      else some { s.setThread w .receiving with
        log := s.log ++ [.forwarded ⟨w, w.forwardSock, conn.entityIP w.side.other,
          htons target_port, udpPayload call d.buffer⟩] }
    | _ => none

def inHand : Thread → Option Datagram
  | .choosing d | .pushing d _ | .sending d _ => some d
  | _ => none

def chosen : Thread → Option ℤ
  | .pushing _ port | .sending _ port => some port
  | _ => none

theorem inHand_afterChoice (conn : UDPConnection) (d : Datagram) (port : ℤ) (w : Socket) :
    inHand (afterChoice conn d port w) = some d := by
  cases w with
  | recv X =>
    simp only [afterChoice]
    split <;> rfl
  | send X => rfl

theorem chosen_afterChoice (conn : UDPConnection) (d : Datagram) (port : ℤ) (w : Socket) :
    chosen (afterChoice conn d port w) = some port := by
  cases w with
  | recv X =>
    simp only [afterChoice]
    split <;> rfl
  | send X => rfl

/-- The datagrams that a thread has taken, and those that it has forwarded. -/
def received (log : List Entry) (w : Socket) : List Datagram :=
  log.filterMap (fun
    | .received w' d => if w' = w then some d else none
    | .forwarded _ => none)

def forwards (log : List Entry) (w : Socket) : List Forward :=
  log.filterMap (fun
    | .received _ _ => none
    | .forwarded f => if f.thread = w then some f else none)

theorem mem_received {log : List Entry} {w : Socket} {d : Datagram} :
    d ∈ received log w ↔ .received w d ∈ log := by
  simp only [received, List.mem_filterMap]
  constructor
  · rintro ⟨x, hx, same⟩
    cases x with
    | received w' d' =>
      obtain ⟨rfl, rfl⟩ : w' = w ∧ d' = d := by simpa using same
      exact hx
    | forwarded f => cases same
  · intro listed
    exact ⟨_, listed, by simp⟩

theorem mem_forwards {log : List Entry} {w : Socket} {f : Forward} :
    f ∈ forwards log w ↔ .forwarded f ∈ log ∧ f.thread = w := by
  simp only [forwards, List.mem_filterMap]
  constructor
  · rintro ⟨x, hx, same⟩
    cases x with
    | received w' d' => cases same
    | forwarded f' =>
      obtain ⟨own, rfl⟩ : f'.thread = w ∧ f' = f := by simpa using same
      exact ⟨hx, own⟩
  · rintro ⟨listed, own⟩
    exact ⟨_, listed, by simp [own]⟩

theorem received_snoc (log : List Entry) (w w' : Socket) (d : Datagram) :
    received (log ++ [.received w' d]) w =
      received log w ++ if w' = w then [d] else [] := by
  by_cases same : w' = w <;> simp [received, List.filterMap_append, same]

@[simp] theorem received_forwarded (log : List Entry) (w : Socket) (f : Forward) :
    received (log ++ [.forwarded f]) w = received log w := by
  simp [received, List.filterMap_append]

theorem forwards_snoc (log : List Entry) (w : Socket) (f : Forward) :
    forwards (log ++ [.forwarded f]) w =
      forwards log w ++ if f.thread = w then [f] else [] := by
  by_cases same : f.thread = w <;> simp [forwards, List.filterMap_append, same]

@[simp] theorem forwards_received (log : List Entry) (w w' : Socket) (d : Datagram) :
    forwards (log ++ [.received w' d]) w = forwards log w := by
  simp [forwards, List.filterMap_append]

inductive Move (conn : UDPConnection) (s : State) : Event → State → Prop where
  | close (w : Socket) (d : Datagram) (at' : s.thread w = .receiving) (served : Served conn w)
      (empty : d.buffer = []) : Move conn s (.recvfrom w d) (s.setThread w .closed)
  | recvfrom (w : Socket) (d : Datagram) (at' : s.thread w = .receiving)
      (served : Served conn w) (some_data : d.buffer ≠ []) :
      Move conn s (.recvfrom w d)
        { s.setThread w (.choosing d) with log := s.log ++ [.received w d] }
  | choose (w : Socket) (d : Datagram) (at' : s.thread w = .choosing d) :
      Move conn s (.choose w) (choose conn s w d)
  | push (w : Socket) (d : Datagram) (target_port : ℤ)
      (at' : s.thread w = .pushing d target_port) :
      Move conn s (.push w) { s.setThread w (.sending d target_port) with
        dynamicPorts := s.dynamicPorts ++ [d.src_port] }
  | sendFails (w : Socket) (call : FuzzCall) (d : Datagram) (target_port : ℤ)
      (at' : s.thread w = .sending d target_port) (gone : s.thread w.forwardSock = .closed) :
      Move conn s (.sendto w call) (s.setThread w .receiving)
  | sendto (w : Socket) (call : FuzzCall) (d : Datagram) (target_port : ℤ)
      (at' : s.thread w = .sending d target_port) (there : s.thread w.forwardSock ≠ .closed) :
      Move conn s (.sendto w call) { s.setThread w .receiving with
        log := s.log ++ [.forwarded ⟨w, w.forwardSock, conn.entityIP w.side.other,
          htons target_port, udpPayload call d.buffer⟩] }

theorem step_move {conn : UDPConnection} {s u : State} {e : Event}
    (h : step conn s e = some u) : Move conn s e u := by
  cases e with
  | recvfrom w d =>
    simp only [step] at h
    split at h
    · split_ifs at h with served empty
      · cases h
        exact .close w d (by assumption) served empty
      · cases h
        exact .recvfrom w d (by assumption) served empty
    · cases h
  | choose w =>
    simp only [step] at h
    split at h
    · cases h
      exact .choose w _ (by assumption)
    · cases h
  | push w =>
    simp only [step] at h
    split at h
    · cases h
      exact .push w _ _ (by assumption)
    · cases h
  | sendto w call =>
    simp only [step] at h
    split at h
    · split_ifs at h with gone
      · cases h
        exact .sendFails w call _ _ (by assumption) gone
      · cases h
        exact .sendto w call _ _ (by assumption) gone
    · cases h

theorem closed_move {conn : UDPConnection} {s u : State} {e : Event} (move : Move conn s e u)
    (w : Socket) : s.thread w = .closed → u.thread w = .closed := by
  cases move with
  | close w₀ d at' | recvfrom w₀ d at' | choose w₀ d at' | push w₀ d port at'
  | sendFails w₀ call d port at' | sendto w₀ call d port at' =>
    refine threads_setThread (P := fun w t => s.thread w = .closed → t = .closed)
      (fun _ _ => id) (fun closed => ?_) w
    exact absurd (at'.symm.trans closed) nofun

theorem htons_src_port (d : Datagram) : htons d.src_port = d.srcPort := by
  have bound := d.srcPort.toNat_lt
  have same : ((d.srcPort.toNat : ℤ) % 2 ^ 16).toNat = d.srcPort.toNat := by omega
  rw [htons, Datagram.src_port, UInt16.ofInt, same, UInt16.ofNat_toNat]

end Cezfuzzer.UDPRelay
