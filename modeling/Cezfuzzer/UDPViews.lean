import Cezfuzzer.UDPProxy
import Cezfuzzer.UDPReaders

set_option autoImplicit false

/-!
# The connections of the UDP proxy by themselves

What the proxy shows of one connection, whatever happens on the others, is a run of the relay
that has this connection alone.
-/
namespace Cezfuzzer.UDPViews
open StepRuns FuzzerCore CommanderConfig UDPHandlerSockets UDPReaders UDPProxy
open UDPRelay (Side Socket Datagram)
open UDPDirections (bound)

def sockets : List Socket := [.recv .A, .send .A, .recv .B, .send .B]

theorem mem_sockets (w : Socket) : w ∈ sockets := by rcases w with (_ | _) | (_ | _) <;> decide

/-- Which socket of a connection a descriptor is, and a thread reads. -/
def socketAt (u : UDPConnection) (fd : ℤ) : Option Socket :=
  sockets.find? (fun w => u.sock w = fd)

def socketOf (u : UDPConnection) (t : Thread) : Option Socket :=
  if t.conn = u then socketAt u t.sock else none

def relayEvent (w : Socket) : Action → UDPRelay.Event
  | .recvfrom d => .recvfrom w d
  | .choose => .choose w
  | .push => .push w
  | .sendto call => .sendto w call

/-- The events of the threads of one connection, as the relay has them. -/
def part (ts : List Thread) (u : UDPConnection) (e : Event) : Option UDPRelay.Event := do
  let t ← ts[e.thread]?
  let w ← socketOf u t
  return relayEvent w e.action

def entryOf (u : UDPConnection) : Entry → Option UDPRelay.Entry
  | .received t d => (socketOf u t).map (fun w => .received w d)
  | .sent t x => do
    let w ← socketOf u t
    let sock ← socketAt u x.fd
    return .forwarded ⟨w, sock, x.ip.toUTF8.toList, x.port, x.payload⟩

/-- A socket without a thread is never read. -/
def phaseOf (ts : List Thread) (u : UDPConnection) (phase : ℕ → UDPRelay.Thread) (w : Socket) :
    UDPRelay.Thread :=
  match ts.findIdx? (fun t => socketOf u t = some w) with
  | some i => phase i
  | none => .receiving

/-- What one connection is in. -/
def view (ts : List Thread) (u : UDPConnection) (s : State) : UDPRelay.State :=
  ⟨s.dynamicPorts u, phaseOf ts u s.phase, s.log.filterMap (entryOf u)⟩

variable {getsockname : ℤ → Option ℤ} {attempts : List Attempt} {u : UDPConnection}
  {ts : List Thread} {s : State} {t : Thread} {w : Socket} {i : ℕ}

theorem socketAt_some {fd : ℤ} (h : socketAt u fd = some w) : fd = u.sock w := by
  have found := List.find?_some h
  exact (of_decide_eq_true found).symm

theorem socketOf_some (h : socketOf u t = some w) : t.conn = u ∧ t.sock = u.sock w := by
  unfold socketOf at h
  split at h
  · rename_i own
    exact ⟨own, socketAt_some h⟩
  · cases h

theorem socketAt_sock (distinct : DistinctSockets attempts) (member : u ∈ complete attempts)
    (w : Socket) : socketAt u (u.sock w) = some w := by
  cases h : socketAt u (u.sock w) with
  | none =>
    have absent := List.find?_eq_none.mp h w (mem_sockets w)
    exact absurd (decide_eq_true rfl) absent
  | some w' => rw [(sock_inj distinct member member (socketAt_some h)).2]

/-- A thread belongs to one socket of one connection. -/
theorem thread_place (distinct : DistinctSockets attempts)
    (at' : (threads getsockname attempts)[i]? = some t) : ∃ v ∈ complete attempts, ∃ w,
      threadOf getsockname v w = some t ∧ socketOf v t = some w := by
  obtain ⟨v, member, w, started⟩ := (mem_threads distinct).mp (List.mem_of_getElem? at')
  obtain ⟨sock, conn⟩ := threadOf_sock started
  refine ⟨v, member, w, started, ?_⟩
  rw [socketOf, if_pos conn, sock, socketAt_sock distinct member]

theorem socketOf_place (distinct : DistinctSockets attempts)
    (at' : (threads getsockname attempts)[i]? = some t) (own : socketOf u t = some w) :
    u ∈ complete attempts ∧ threadOf getsockname u w = some t := by
  obtain ⟨v, member, w', started, place⟩ := thread_place distinct at'
  obtain rfl : v = u := (socketOf_some place).1.symm.trans (socketOf_some own).1
  cases place.symm.trans own
  exact ⟨member, started⟩

/-- The thread of a socket is the only one in the list. -/
theorem findIdx_place (distinct : DistinctSockets attempts)
    (at' : (threads getsockname attempts)[i]? = some t) (own : socketOf u t = some w) :
    (threads getsockname attempts).findIdx? (fun t => socketOf u t = some w) = some i := by
  obtain ⟨low, here⟩ := List.getElem?_eq_some_iff.mp at'
  refine List.findIdx?_eq_some_iff_getElem.mpr ⟨low, by rw [here]; exact decide_eq_true own, ?_⟩
  intro j before found
  have nodup : ((threads getsockname attempts).map Thread.sock).Nodup := threads_nodup distinct
  have same : (threads getsockname attempts)[j].sock = (threads getsockname attempts)[i].sock := by
    rw [(socketOf_some (of_decide_eq_true found)).2, here, (socketOf_some own).2]
  rw [← List.getElem_map Thread.sock, ← List.getElem_map Thread.sock, nodup.getElem_inj_iff] at same
  · exact Nat.ne_of_lt before same
  · rwa [List.length_map]
  · rw [List.length_map]
    exact before.trans low

theorem phaseOf_own (distinct : DistinctSockets attempts)
    (at' : (threads getsockname attempts)[i]? = some t) (own : socketOf u t = some w)
    (phase : ℕ → UDPRelay.Thread) :
    phaseOf (threads getsockname attempts) u phase w = phase i := by
  rw [phaseOf, findIdx_place distinct at' own]

theorem phaseOf_other (at' : ts[i]? = some t) (other : socketOf u t ≠ some w)
    (phase : ℕ → UDPRelay.Thread) (p : UDPRelay.Thread) :
    phaseOf ts u (Function.update phase i p) w = phaseOf ts u phase w := by
  unfold phaseOf
  split
  · rename_i j found
    obtain ⟨low, here, -⟩ := List.findIdx?_eq_some_iff_getElem.mp found
    refine Function.update_of_ne ?_ _ _
    rintro rfl
    rw [List.getElem?_eq_getElem low] at at'
    cases at'
    exact other (of_decide_eq_true here)
  · rfl

theorem view_setPhase (distinct : DistinctSockets attempts)
    (at' : (threads getsockname attempts)[i]? = some t) (own : socketOf u t = some w)
    (s : State) (p : UDPRelay.Thread) :
    view (threads getsockname attempts) u (s.setPhase i p) =
      (view (threads getsockname attempts) u s).setThread w p := by
  have phases : phaseOf (threads getsockname attempts) u (Function.update s.phase i p) =
      Function.update (phaseOf (threads getsockname attempts) u s.phase) w p := by
    funext w'
    by_cases same : w' = w
    · subst same
      rw [phaseOf_own distinct at' own, Function.update_self, Function.update_self]
    · rw [Function.update_of_ne same]
      exact phaseOf_other at' (fun own' => same (Option.some.inj (own'.symm.trans own))) _ _
  rw [view, State.setPhase, phases]
  rfl

/-- The other connections see nothing of a thread. -/
theorem view_setPhase_other (at' : ts[i]? = some t) (other : socketOf u t = none) (s : State)
    (p : UDPRelay.Thread) : view ts u (s.setPhase i p) = view ts u s := by
  have phases : phaseOf ts u (Function.update s.phase i p) = phaseOf ts u s.phase :=
    funext fun w => phaseOf_other at' (by rw [other]; simp) _ _
  rw [view, State.setPhase, phases]
  rfl

@[simp] theorem view_ports (s : State) (ports : List ℤ) :
    view ts u (s.setPorts u ports) = { view ts u s with dynamicPorts := ports } := by
  simp [view, State.setPorts]

theorem view_ports_other {v : UDPConnection} (other : v ≠ u) (s : State) (ports : List ℤ) :
    view ts u (s.setPorts v ports) = view ts u s := by
  simp [view, State.setPorts, Function.update_of_ne other.symm]

theorem view_log (s : State) (x : Entry) : view ts u { s with log := s.log ++ [x] } =
    { view ts u s with log := (view ts u s).log ++ (entryOf u x).toList } := by
  cases h : entryOf u x <;> simp [view, List.filterMap_append, h]

/-- The sockets that are closed are those whose thread has ended. -/
def Shut (ts : List Thread) (s : State) : Prop :=
  ∀ fd, fd ∈ s.closed ↔ ∃ (i : ℕ) (t : Thread), ts[i]? = some t ∧ t.sock = fd ∧ s.phase i = .closed

theorem entityPort_relay (c : Connection) (X : Side) :
    (relayConnection c).entityPort X = (entityEnd c X).port := by cases X <;> rfl

theorem entityIP_relay (c : Connection) (X : Side) :
    (relayConnection c).entityIP X = (entityEnd c X).ip.toUTF8.toList := by cases X <;> rfl

theorem targetPort_relay (started : threadOf getsockname u w = some t) (ports : List ℤ)
    (d : Datagram) : targetPort t (entityEnd u.conn w.side.other).port ports d =
      UDPRelay.targetPort (relayConnection u.conn) ports d w := by
  cases w with
  | recv X =>
    cases started
    rw [UDPRelay.targetPort, entityPort_relay]
    rfl
  | send X =>
    simp only [threadOf, sendThread] at started
    split at started
    · cases started
    · cases started
      rw [UDPRelay.targetPort, entityPort_relay]
      rfl

theorem ownPort_recv (distinct : DistinctSockets attempts) (member : u ∈ complete attempts)
    (X : Side) : ownPort (.recv (u.sock (.recv X)) u) = some (entityEnd u.conn X).port := by
  cases X with
  | A => exact if_pos rfl
  | B =>
    have other : u.sock (.recv .B) ≠ u.sock (.recv .A) := by
      intro same
      cases (sock_inj distinct member member same).2
    exact (if_neg other).trans (if_pos rfl)

theorem afterChoice_relay (distinct : DistinctSockets attempts) (member : u ∈ complete attempts)
    (started : threadOf getsockname u w = some t) (d : Datagram) (port : ℤ) :
    afterChoice t d port = UDPRelay.afterChoice (relayConnection u.conn) d port w := by
  cases w with
  | recv X =>
    cases started
    rw [afterChoice, ownPort_recv distinct member, UDPRelay.afterChoice, entityPort_relay]
    simp only [Option.some.injEq]
  | send X =>
    simp only [threadOf, sendThread] at started
    split at started
    · cases started
    · cases started
      exact if_neg (by simp [ownPort])

theorem shut_iff (distinct : DistinctSockets attempts) (member : u ∈ complete attempts)
    (shut : Shut (threads getsockname attempts) s) (w : Socket) :
    u.sock w ∈ s.closed ↔ (view (threads getsockname attempts) u s).thread w = .closed := by
  rw [shut]
  constructor
  · rintro ⟨i, t, at', sock, closed⟩
    obtain ⟨v, hv, w', started, place⟩ := thread_place distinct at'
    obtain ⟨rfl, rfl⟩ := sock_inj distinct hv member
      ((threadOf_sock started).1.symm.trans sock)
    exact (phaseOf_own distinct at' place s.phase).trans closed
  · intro closed
    change phaseOf _ _ _ _ = _ at closed
    unfold phaseOf at closed
    split at closed
    · rename_i i found
      obtain ⟨low, here, -⟩ := List.findIdx?_eq_some_iff_getElem.mp found
      exact ⟨i, _, List.getElem?_eq_getElem low, (socketOf_some (of_decide_eq_true here)).2, closed⟩
    · cases closed

section
variable (distinct : DistinctSockets attempts) (reported : PortsReported getsockname attempts)
  (ports : ∀ u ∈ complete attempts, ProxyPorts u.conn)
include distinct reported ports

/-- A step of a thread is the step of its socket's thread in the relay, or neither is possible. -/
theorem threadStep_view (shut : Shut (threads getsockname attempts) s)
    (at' : (threads getsockname attempts)[i]? = some t) (own : socketOf u t = some w)
    (a : Action) : (threadStep s i t a).map (view (threads getsockname attempts) u) =
      UDPRelay.step (relayConnection u.conn) (view (threads getsockname attempts) u s)
        (relayEvent w a) := by
  obtain ⟨member, started⟩ := socketOf_place distinct at' own
  obtain ⟨sock, conn⟩ := threadOf_sock started
  have phase : (view (threads getsockname attempts) u s).thread w = s.phase i :=
    phaseOf_own distinct at' own s.phase
  have setPhase := view_setPhase distinct at' own
  have target := threadOf_target distinct reported member (ports u member) started
  cases a with
  | recvfrom d =>
    have served : UDPRelay.Served (relayConnection u.conn) w :=
      (threadOf_served u w).mp (Option.isSome_iff_exists.mpr ⟨t, started⟩)
    simp only [threadStep, relayEvent, UDPRelay.step, phase]
    cases s.phase i with
    | receiving =>
      simp only [served, not_true_eq_false, if_false]
      by_cases empty : d.buffer = []
      · rw [if_pos empty, if_pos empty, ← setPhase]
        rfl
      · rw [if_neg empty, if_neg empty, ← setPhase, Option.map_some]
        congr 1
        refine (view_log (s.setPhase i (.choosing d)) _).trans ?_
        rw [entryOf, own]
        rfl
    | _ => rfl
  | choose =>
    simp only [threadStep, relayEvent, UDPRelay.step, phase]
    cases s.phase i with
    | choosing d =>
      rw [Option.map_some, choose, target]
      simp only
      rw [targetPort_relay started, afterChoice_relay distinct member started, conn, view_ports,
        setPhase]
      rfl
    | _ => rfl
  | push =>
    simp only [threadStep, relayEvent, UDPRelay.step, phase]
    cases s.phase i with
    | pushing d port =>
      rw [Option.map_some, conn, view_ports, setPhase]
      rfl
    | _ => rfl
  | sendto call =>
    simp only [threadStep, relayEvent, UDPRelay.step, phase]
    cases s.phase i with
    | sending d port =>
      rw [Option.map_some, sendto, target]
      simp only [shut_iff distinct member shut]
      split
      · rw [setPhase]
      · rw [← setPhase]
        congr 1
        refine (view_log (s.setPhase i .receiving) _).trans ?_
        rw [entryOf, own, entityIP_relay]
        simp only [Option.bind_eq_bind, Option.bind_some, socketAt_sock distinct member]
        rfl
    | _ => rfl

end

/-- The steps of a thread of another connection. -/
theorem threadStep_other {v : State} {a : Action} (at' : ts[i]? = some t)
    (other : socketOf u t = none) (apart : t.conn ≠ u) (h : threadStep s i t a = some v) :
    view ts u v = view ts u s := by
  have phase := fun s p => view_setPhase_other at' other s p
  have log : ∀ (s : State) (x : Entry), entryOf u x = none →
      view ts u { s with log := s.log ++ [x] } = view ts u s := by
    intro s x none
    rw [view_log, none]
    simp
  cases threadStep_move h with
  | ends | stray | lose => exact phase s _
  | recvfrom d =>
    exact (log (s.setPhase i (.choosing d)) _ (by rw [entryOf, other]; rfl)).trans (phase s _)
  | choose | push => exact (view_ports_other apart _ _).trans (phase s _)
  | sendto =>
    exact (log (s.setPhase i .receiving) _ (by rw [entryOf, other]; rfl)).trans (phase s _)

theorem afterChoice_open (t : Thread) (d : Datagram) (port : ℤ) :
    afterChoice t d port ≠ .closed := by
  unfold afterChoice
  split <;> simp

/-- A step moves one thread, which closes its socket when it ends. -/
theorem threadStep_phase {v : State} {a : Action} (h : threadStep s i t a = some v) :
    s.phase i ≠ .closed ∧ ∃ p, v.phase = Function.update s.phase i p ∧
      (p = .closed ∧ v.closed = s.closed ++ [t.sock] ∨ p ≠ .closed ∧ v.closed = s.closed) := by
  cases threadStep_move h with
  | ends d receiving empty =>
    exact ⟨by simp [receiving], .closed, rfl, Or.inl ⟨rfl, rfl⟩⟩
  | recvfrom d at' | stray d at' | lose d port call at' | push d port at'
  | sendto d port call fd dst at' =>
    exact ⟨by simp [at'], _, rfl, Or.inr ⟨by simp, rfl⟩⟩
  | choose d fd dst choosing =>
    exact ⟨by simp [choosing], _, rfl, Or.inr ⟨afterChoice_open t d _, rfl⟩⟩

theorem shut_threadStep {v : State} {a : Action} (shut : Shut ts s) (at' : ts[i]? = some t)
    (h : threadStep s i t a = some v) : Shut ts v := by
  obtain ⟨before, p, phase, ended⟩ := threadStep_phase h
  have others : ∀ fd, (∃ (j : ℕ) (t' : Thread), ts[j]? = some t' ∧ t'.sock = fd ∧
      v.phase j = .closed) ↔ fd ∈ s.closed ∨ fd = t.sock ∧ p = .closed := by
    intro fd
    rw [shut, phase]
    constructor
    · rintro ⟨j, t', there, sock, closed⟩
      by_cases own : j = i
      · subst own
        obtain rfl := Option.some.inj (at'.symm.trans there)
        rw [Function.update_self] at closed
        exact Or.inr ⟨sock.symm, closed⟩
      · rw [Function.update_of_ne own] at closed
        exact Or.inl ⟨j, t', there, sock, closed⟩
    · rintro (⟨j, t', there, sock, closed⟩ | ⟨rfl, rfl⟩)
      · refine ⟨j, t', there, sock, ?_⟩
        rw [Function.update_of_ne (by rintro rfl; exact before closed)]
        exact closed
      · exact ⟨i, t, at', rfl, Function.update_self ..⟩
  intro fd
  rw [others]
  rcases ended with ⟨ended, closed⟩ | ⟨running, closed⟩
  · simp [closed, ended]
  · simp [closed, running]

theorem shut_step {v : State} {e : Event} (shut : Shut ts s) (h : step ts s e = some v) :
    Shut ts v := by
  obtain ⟨t, at', h⟩ := Option.bind_eq_some_iff.mp h
  exact shut_threadStep shut at' h

theorem shut_initial (ts : List Thread) : Shut ts initial := by
  intro fd
  simp [initial]

theorem view_initial (ts : List Thread) (u : UDPConnection) : view ts u initial =
    UDPRelay.initial := by
  have idle : phaseOf ts u (fun _ => UDPRelay.Thread.receiving) = fun _ => .receiving := by
    funext w
    unfold phaseOf
    split <;> rfl
  rw [view, initial, idle]
  rfl

theorem part_some {e : Event} {e' : UDPRelay.Event} (h : part ts u e = some e') :
    ∃ t w, ts[e.thread]? = some t ∧ socketOf u t = some w ∧ e' = relayEvent w e.action := by
  simp only [part, Option.bind_eq_bind, Option.bind_eq_some_iff, Option.pure_def,
    Option.some.injEq] at h
  obtain ⟨t, at', w, own, rfl⟩ := h
  exact ⟨t, w, at', own, rfl⟩

theorem part_none {e : Event} (at' : ts[e.thread]? = some t) (h : part ts u e = none) :
    socketOf u t = none := by
  rw [part, at'] at h
  cases own : socketOf u t with
  | none => rfl
  | some w => simp [own] at h

section
variable (distinct : DistinctSockets attempts) (reported : PortsReported getsockname attempts)
  (ports : ∀ u ∈ complete attempts, ProxyPorts u.conn)
include distinct reported ports

theorem step_view {e : Event} {e' : UDPRelay.Event} (shut : Shut (threads getsockname attempts) s)
    (h : part (threads getsockname attempts) u e = some e') :
    (step (threads getsockname attempts) s e).map (view (threads getsockname attempts) u) =
      UDPRelay.step (relayConnection u.conn) (view (threads getsockname attempts) u s) e' := by
  obtain ⟨t, w, at', own, rfl⟩ := part_some h
  rw [← threadStep_view distinct reported ports shut at' own, step, at', Option.bind_some]

theorem run_view {es : List Event}
    (run : Runs (step (threads getsockname attempts)) anyStep initial es s) :
    Runs (UDPRelay.step (relayConnection u.conn)) anyStep UDPRelay.initial
      (es.filterMap (part (threads getsockname attempts) u))
      (view (threads getsockname attempts) u s) := by
  rw [← view_initial (threads getsockname attempts) u]
  refine run.project _ _ (Shut (threads getsockname attempts)) (shut_initial _)
    (fun _ _ _ shut _ h => shut_step shut h) ?_ ?_
  · intro v e e' v' shut h belongs
    rw [← step_view distinct reported ports shut belongs, h, Option.map_some]
  · rintro v e v' - h belongs
    obtain ⟨t, at', h⟩ := Option.bind_eq_some_iff.mp h
    have other := part_none at' belongs
    refine threadStep_other at' other ?_ h
    rintro rfl
    obtain ⟨v, -, w, started, place⟩ := thread_place distinct at'
    rw [(threadOf_sock started).2, place] at other
    cases other

end

/-- Only a thread of the list is heard of, and it sends where its target is. -/
def Accounted (ts : List Thread) : Entry → Prop
  | .received t _ => t ∈ ts
  | .sent t x => t ∈ ts ∧ ∃ dst, t.target = some (x.fd, dst) ∧ x.ip = dst.ip

theorem threadStep_log {v : State} {a : Action} (at' : ts[i]? = some t)
    (h : threadStep s i t a = some v) :
    v.log = s.log ∨ ∃ x, v.log = s.log ++ [x] ∧ Accounted ts x := by
  have member := List.mem_of_getElem? at'
  cases threadStep_move h with
  | ends | stray | choose | push | lose => exact Or.inl rfl
  | recvfrom d => exact Or.inr ⟨_, rfl, member⟩
  | sendto d port call fd dst _ target => exact Or.inr ⟨_, rfl, member, dst, target, rfl⟩

theorem run_accounted {es : List Event} (run : Runs (step ts) anyStep initial es s) :
    ∀ x ∈ s.log, Accounted ts x := by
  refine run.state_invariant (fun s => ∀ x ∈ s.log, Accounted ts x) (by simp [initial]) ?_
  rintro v e v' ih - h x member
  obtain ⟨t, at', h⟩ := Option.bind_eq_some_iff.mp h
  rcases threadStep_log at' h with same | ⟨y, more, accounted⟩
  · exact ih x (same ▸ member)
  · rw [more] at member
    rcases List.mem_append.mp member with member | member
    · exact ih x member
    · obtain rfl := List.mem_singleton.mp member
      exact accounted

/-- One of the connections has `p`, and no other. -/
def OfOne (us : List UDPConnection) (p : UDPConnection → Bool) : Prop :=
  ∃ u ∈ us, p u = true ∧ ∀ v ∈ us, v ≠ u → p v = false

/-- Each connection runs as the relay that has no other, and could go on just as that could;
    every step that is possible and every datagram belongs to one of them. -/
structure Independent (ts : List Thread) (us : List UDPConnection) (es : List Event)
    (s : State) : Prop where
  runs : ∀ u ∈ us, Runs (UDPRelay.step (relayConnection u.conn)) anyStep UDPRelay.initial
    (es.filterMap (part ts u)) (view ts u s)
  enabled : ∀ u ∈ us, ∀ e e', part ts u e = some e' →
    (step ts s e).isSome = (UDPRelay.step (relayConnection u.conn) (view ts u s) e').isSome
  events : ∀ e, (step ts s e).isSome = true → OfOne us (fun u => (part ts u e).isSome)
  log : ∀ x ∈ s.log, OfOne us (fun u => (entryOf u x).isSome)

theorem socketOf_other {v : UDPConnection} (own : socketOf u t = some w) (other : v ≠ u) :
    socketOf v t = none :=
  if_neg fun same => other (same.symm.trans (socketOf_some own).1)

theorem connections_independent (getsockname : ℤ → Option ℤ) (attempts : List Attempt)
    (distinct : DistinctSockets attempts) (reported : PortsReported getsockname attempts)
    (ports : ∀ u ∈ complete attempts, ProxyPorts u.conn) (es : List Event) (s : State)
    (run : Runs (step (threads getsockname attempts)) anyStep initial es s) :
    Independent (threads getsockname attempts) (complete attempts) es s := by
  have shut : Shut (threads getsockname attempts) s :=
    run.state_invariant _ (shut_initial _) fun _ _ _ shut _ h => shut_step shut h
  refine ⟨fun u _ => run_view distinct reported ports run, fun u _ e e' belongs => ?_,
    fun e possible => ?_, fun x logged => ?_⟩
  · rw [← step_view distinct reported ports shut belongs, Option.isSome_map]
  · obtain ⟨v, h⟩ := Option.isSome_iff_exists.mp possible
    obtain ⟨t, at', -⟩ := Option.bind_eq_some_iff.mp h
    obtain ⟨u, member, w, -, own⟩ := thread_place distinct at'
    refine ⟨u, member, by simp [part, at', own], fun v _ other => ?_⟩
    simp [part, at', socketOf_other own other]
  · have accounted := run_accounted run x logged
    cases x with
    | received t d =>
      obtain ⟨i, at'⟩ := List.mem_iff_getElem?.mp accounted
      obtain ⟨u, member, w, -, own⟩ := thread_place distinct at'
      exact ⟨u, member, by simp [entryOf, own], fun v _ other => by
        simp [entryOf, socketOf_other own other]⟩
    | sent t x =>
      obtain ⟨listed, dst, target, -⟩ := accounted
      obtain ⟨i, at'⟩ := List.mem_iff_getElem?.mp listed
      obtain ⟨u, member, w, started, own⟩ := thread_place distinct at'
      rw [threadOf_target distinct reported member (ports u member) started] at target
      obtain ⟨fd, -⟩ := Prod.mk.inj (Option.some.inj target)
      have sock := socketAt_sock distinct member w.forwardSock
      rw [fd] at sock
      exact ⟨u, member, by simp [entryOf, own, sock], fun v _ other => by
        simp [entryOf, socketOf_other own other]⟩

/-- Two complete connections of A, with a dynamic port at the B of the first. -/
def twoBound : List Attempt :=
  [⟨⟨"10.0.0.2", 5000, 20000, 20001, "10.0.0.3", -1, 20002, 20003⟩,
      bound 4, bound 5, bound 6, bound 7⟩,
    ⟨⟨"10.0.0.2", 5000, 20004, 20005, "10.0.0.4", 6000, 20006, 20007⟩,
      bound 8, bound 9, bound 10, bound 11⟩]

def twoPorts : ℤ → Option ℤ
  | 4 => some 20000
  | 5 => some 20003
  | 6 => some 20002
  | 7 => some 20001
  | 8 => some 20004
  | 9 => some 20007
  | 10 => some 20006
  | 11 => some 20005
  | _ => none

/-- A datagram of the second connection on its way, while the first gets one from its B. -/
def crossing : List Event :=
  [⟨2, .recvfrom ⟨[1], 5000⟩⟩, ⟨1, .recvfrom ⟨[2], 7000⟩⟩, ⟨2, .choose⟩, ⟨1, .choose⟩,
    ⟨1, .push⟩, ⟨2, .sendto echo⟩, ⟨1, .sendto echo⟩]

theorem twoBound_reported : PortsReported twoPorts twoBound := by
  have all : ∀ u ∈ complete twoBound, ∀ w ∈ sockets, twoPorts (u.sock w) =
      some ((UDPRelay.htons (proxyPort u.conn w)).toNat : ℤ) := by decide
  exact fun u member w => all u member w (mem_sockets w)

theorem twoBound_ports : ∀ u ∈ complete twoBound, ProxyPorts u.conn := by
  have range : ∀ u ∈ complete twoBound, ∀ w ∈ sockets,
      20000 ≤ proxyPort u.conn w ∧ proxyPort u.conn w ≤ 60000 := by decide
  have apart : ∀ u ∈ complete twoBound, ∀ w ∈ sockets, ∀ w' ∈ sockets,
      proxyPort u.conn w = proxyPort u.conn w' → w = w' := by decide
  exact fun u member => ⟨fun w => range u member w (mem_sockets w),
    fun w w' => apart u member w (mem_sockets w) w' (mem_sockets w')⟩

theorem crossing_independent : ∃ s,
    Runs (step (threads twoPorts twoBound)) anyStep initial crossing s ∧ s.log.length = 4 ∧
      Independent (threads twoPorts twoBound) (complete twoBound) crossing s := by
  obtain ⟨s, hs, h⟩ := exists_execute (step (threads twoPorts twoBound)) initial crossing
    (fun s => s.log.length = 4) (by decide +kernel)
  have run := runs_of_unguarded hs
  exact ⟨s, run, of_decide_eq_true h, connections_independent twoPorts twoBound (by decide)
    twoBound_reported twoBound_ports crossing s run⟩

end Cezfuzzer.UDPViews
