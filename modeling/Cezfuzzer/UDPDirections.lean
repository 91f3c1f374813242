import Cezfuzzer.UDPHandlerSockets

set_option autoImplicit false

/-!
# Where the datagrams of all connections go

The threads of the proxy at work, in any interleaving. A thread that gets an empty datagram
takes the result 0 of `recvfrom` for an error, and closes its socket.
-/
namespace Cezfuzzer.UDPDirections
open StepRuns LengthPrefix CommanderConfig UDPHandlerSockets
open UDPRelay (Side Socket)

/-- A datagram that was read: from which socket, and through which socket and to which IP it
    was sent, if it was. -/
structure Relay where
  sock : ℤ
  sent : Option (ℤ × String)
  deriving DecidableEq, Repr

structure State where
  closed : List ℤ
  log : List Relay
  deriving DecidableEq, Repr

def initial : State := ⟨[], []⟩

/-- A datagram arrives, and a thread takes it through its loop. -/
structure Event where
  thread : ℕ
  data : Bytes
  deriving DecidableEq, Repr

/-- `sendto` fails on a socket that its own thread has closed. -/
def sendto (closed : List ℤ) : Option (ℤ × Endpoint) → Option (ℤ × String)
  | some (fd, dst) => if fd ∈ closed then none else some (fd, dst.ip)
  | none => none

def step (ts : List Thread) (s : State) (e : Event) : Option State :=
  match ts[e.thread]? with
  | none => none
  | some t =>
    if t.sock ∈ s.closed then none
    else if e.data.take 4096 = [] then
      some ⟨s.closed ++ [t.sock], s.log ++ [⟨t.sock, none⟩]⟩
    else some { s with log := s.log ++ [⟨t.sock, sendto s.closed t.target⟩] }

/-- From a socket of a side, through the socket of the other side, to the other entity. -/
def Right (us : List UDPConnection) (r : Relay) : Prop :=
  ∃ u ∈ us, ∃ w : Socket, r.sock = u.sock w ∧
    r.sent = some (u.sock w.forwardSock, (entityEnd u.conn w.side.other).ip)

/-- Every thread serves a complete connection, every datagram is sent where it belongs, and
    none to its own side or into another connection. -/
structure Directed (getsockname : ℤ → Option ℤ) (attempts : List Attempt) (s : State) : Prop where
  threads : ∀ t ∈ threads getsockname attempts, ∃ a ∈ attempts,
    a.connection = some t.conn ∧ ∀ w, 0 ≤ a.sock w
  sent : ∀ r ∈ s.log, Right (complete attempts) r
  apart : ∀ r ∈ s.log, ∀ fd ip, r.sent = some (fd, ip) →
    ∀ u ∈ complete attempts, ∀ w, r.sock = u.sock w →
      ∀ v ∈ complete attempts, ∀ w', fd = v.sock w' → v = u ∧ w'.side = w.side.other

variable {getsockname : ℤ → Option ℤ} {attempts : List Attempt}

theorem thread_complete (distinct : DistinctSockets attempts) {t : Thread}
    (member : t ∈ threads getsockname attempts) :
    ∃ a ∈ attempts, a.connection = some t.conn ∧ ∀ w, 0 ≤ a.sock w := by
  obtain ⟨u, hu, w, h⟩ := (mem_threads distinct).mp member
  obtain ⟨a, ha, connection⟩ := List.mem_filterMap.mp hu
  rw [(threadOf_sock h).2]
  exact ⟨a, ha, connection, (connection_some connection).2.2.1⟩

theorem right_apart (distinct : DistinctSockets attempts) {r : Relay}
    (right : Right (complete attempts) r) {fd : ℤ} {ip : String} (sent : r.sent = some (fd, ip))
    {u : UDPConnection} (hu : u ∈ complete attempts) {w : Socket} (from' : r.sock = u.sock w)
    {v : UDPConnection} (hv : v ∈ complete attempts) {w' : Socket} (to' : fd = v.sock w') :
    v = u ∧ w'.side = w.side.other := by
  obtain ⟨x, hx, z, fromX, toX⟩ := right
  obtain ⟨rfl, rfl⟩ := sock_inj distinct hu hx (from'.symm.trans fromX)
  rw [sent, Option.some.injEq, Prod.mk.injEq] at toX
  obtain ⟨rfl, rfl⟩ := sock_inj distinct hv hu (to'.symm.trans toX.1)
  refine ⟨rfl, ?_⟩
  cases w <;> rfl

/-- Whatever is sent at all is sent where it belongs; with no empty datagram, all is sent. -/
theorem run_right {es : List Event} {s : State} (distinct : DistinctSockets attempts)
    (reported : PortsReported getsockname attempts)
    (ports : ∀ u ∈ complete attempts, ProxyPorts u.conn)
    (run : Runs (step (threads getsockname attempts)) anyStep initial es s) :
    (∀ r ∈ s.log, r.sent ≠ none → Right (complete attempts) r) ∧
      ((∀ e ∈ es, e.data ≠ []) → s.closed = [] ∧ ∀ r ∈ s.log, r.sent ≠ none) := by
  refine run.invariant (fun es s => (∀ r ∈ s.log, r.sent ≠ none → Right (complete attempts) r) ∧
    ((∀ e ∈ es, e.data ≠ []) → s.closed = [] ∧ ∀ r ∈ s.log, r.sent ≠ none))
    (by simp [initial]) ?_
  rintro es t e u ⟨right, whole⟩ - h
  unfold step at h
  split at h
  · cases h
  · rename_i thread at'
    obtain ⟨u, hu, w, ht⟩ := (mem_threads distinct).mp (List.mem_of_getElem? at')
    have target := threadOf_target distinct reported hu (ports u hu) ht
    split at h
    · cases h
    · split at h
      · rename_i empty
        cases h
        refine ⟨fun r member => ?_, fun full => ?_⟩
        · rcases List.mem_append.mp member with member | member
          · exact right r member
          · obtain rfl := List.mem_singleton.mp member
            exact fun sent => absurd rfl sent
        · have data : e.data ≠ [] := full e (by simp)
          simp [data] at empty
      · cases h
        refine ⟨fun r member => ?_, fun full => ?_⟩
        · rcases List.mem_append.mp member with member | member
          · exact right r member
          · obtain rfl := List.mem_singleton.mp member
            intro sent
            refine ⟨u, hu, w, (threadOf_sock ht).1, ?_⟩
            simp only [target, sendto] at sent ⊢
            split at sent
            · exact absurd rfl sent
            · rename_i open'
              rw [if_neg open']
        · obtain ⟨open', sent⟩ := whole fun e' member => full e' (List.mem_append_left _ member)
          refine ⟨open', fun r member => ?_⟩
          rcases List.mem_append.mp member with member | member
          · exact sent r member
          · obtain rfl := List.mem_singleton.mp member
            simp [open', target, sendto]

theorem empty_unsent {es : List Event} {s : State} {ts : List Thread}
    (run : Runs (step ts) anyStep initial es s) :
    (∃ e ∈ es, e.data = []) → ∃ r ∈ s.log, r.sent = none := by
  refine run.invariant (fun es s => (∃ e ∈ es, e.data = []) → ∃ r ∈ s.log, r.sent = none)
    (by simp) ?_
  rintro es t e u ih - h ⟨e', member, empty⟩
  unfold step at h
  split at h
  · cases h
  · split at h
    · cases h
    · rcases List.mem_append.mp member with member | member
      · obtain ⟨r, logged, unsent⟩ := ih ⟨e', member, empty⟩
        split at h <;> cases h <;> exact ⟨r, List.mem_append_left _ logged, unsent⟩
      · obtain rfl := List.mem_singleton.mp member
        rw [empty, List.take_nil, if_pos rfl] at h
        cases h
        exact ⟨_, List.mem_append_right _ (List.mem_singleton_self _), rfl⟩

/-- All directions are right, for every set of connections and every failure of a `bind`, in
    exactly the runs without an empty datagram. -/
theorem directed_iff (getsockname : ℤ → Option ℤ) (attempts : List Attempt)
    (distinct : DistinctSockets attempts) (reported : PortsReported getsockname attempts)
    (ports : ∀ u ∈ complete attempts, ProxyPorts u.conn) (es : List Event) (s : State)
    (run : Runs (step (threads getsockname attempts)) anyStep initial es s) :
    Directed getsockname attempts s ↔ ∀ e ∈ es, e.data ≠ [] := by
  constructor
  · intro directed e member empty
    obtain ⟨r, logged, unsent⟩ := empty_unsent run ⟨e, member, empty⟩
    obtain ⟨u, _, w, _, sent⟩ := directed.sent r logged
    rw [unsent] at sent
    cases sent
  · intro full
    obtain ⟨right, whole⟩ := run_right distinct reported ports run
    have all : ∀ r ∈ s.log, Right (complete attempts) r := fun r logged =>
      right r logged ((whole full).2 r logged)
    exact ⟨fun t member => thread_complete distinct member, all,
      fun r logged _ _ sent _ hu _ from' _ hv _ to' =>
        right_apart distinct (all r logged) sent hu from' hv to'⟩

def bound (socket : ℤ) : SocketCalls := ⟨socket, true, true⟩

/-- A connection with a dynamic port at B, and one of which a `bind` fails. -/
def boundAndUnbound : List Attempt :=
  [⟨⟨"10.0.0.2", 5000, 20000, 20001, "10.0.0.3", -1, 20002, 20003⟩,
      bound 4, bound 5, bound 6, bound 7⟩,
    ⟨⟨"10.0.0.2", 5000, 20004, 20005, "10.0.0.4", 6000, 20006, 20007⟩,
      bound 8, bound 9, ⟨10, true, false⟩, bound 11⟩]

def boundPort : ℤ → Option ℤ
  | 4 => some 20000
  | 5 => some 20003
  | 6 => some 20002
  | 7 => some 20001
  | _ => none

def boundConnection : UDPConnection :=
  ⟨⟨"10.0.0.2", 5000, 20000, 20001, "10.0.0.3", -1, 20002, 20003⟩, 7, 5, 4, 6⟩

theorem boundAndUnbound_complete : complete boundAndUnbound = [boundConnection] := by decide

theorem boundAndUnbound_reported : PortsReported boundPort boundAndUnbound := by
  intro u member w
  rw [boundAndUnbound_complete, List.mem_singleton] at member
  subst member
  rcases w with (_ | _) | (_ | _) <;> decide

theorem boundAndUnbound_ports : ∀ u ∈ complete boundAndUnbound, ProxyPorts u.conn := by
  intro u member
  rw [boundAndUnbound_complete, List.mem_singleton] at member
  subst member
  refine ⟨?_, ?_⟩
  · rintro ((_ | _) | (_ | _)) <;> decide
  · rintro ((_ | _) | (_ | _)) ((_ | _) | (_ | _)) <;> decide

/-- One datagram to each of the four sockets. -/
def fourDatagrams : List Event := [⟨0, [1]⟩, ⟨1, [2]⟩, ⟨2, [3]⟩, ⟨3, [4]⟩]

theorem fourDatagrams_directed : ∃ s,
    Runs (step (threads boundPort boundAndUnbound)) anyStep initial fourDatagrams s ∧
      s.log.length = 4 ∧ Directed boundPort boundAndUnbound s := by
  obtain ⟨s, hs, h⟩ := exists_execute (step (threads boundPort boundAndUnbound)) initial
    fourDatagrams (fun s => s.log.length = 4) (by decide +kernel)
  have run := runs_of_unguarded hs
  exact ⟨s, run, of_decide_eq_true h,
    (directed_iff boundPort boundAndUnbound (by decide) boundAndUnbound_reported
      boundAndUnbound_ports fourDatagrams s run).mpr (by decide)⟩

def emptyDatagram : List Event := [⟨0, []⟩]

/-- An empty datagram that A sends to B is not sent to B. -/
theorem emptyDatagram_not_directed : ∃ s,
    Runs (step (threads boundPort boundAndUnbound)) anyStep initial emptyDatagram s ∧
      s.log = [⟨4, none⟩] ∧ ¬ Directed boundPort boundAndUnbound s := by
  obtain ⟨s, hs, h⟩ := exists_execute (step (threads boundPort boundAndUnbound)) initial
    emptyDatagram (fun s => s.log = [⟨4, none⟩]) (by decide +kernel)
  have log := of_decide_eq_true h
  refine ⟨s, runs_of_unguarded hs, log, fun directed => ?_⟩
  obtain ⟨u, _, w, _, sent⟩ := directed.sent ⟨4, none⟩ (by simp [log])
  cases sent

end Cezfuzzer.UDPDirections
