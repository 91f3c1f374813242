import Mathlib.Data.List.Nodup
import Mathlib.Logic.Function.Basic
import Cezfuzzer.CommanderConfig
import Cezfuzzer.UDPRelay

set_option autoImplicit false

/-!
# `UDPHandler`

How the proxy gets from the `connections` of the configuration to the threads that read its
UDP sockets, and to which socket and entity a thread forwards.
-/
namespace Cezfuzzer.UDPHandlerSockets
open CommanderConfig
open UDPRelay (Side Socket htons)

/-- What the three calls of one `createAndBindSocket` return: a descriptor or a negative
    number, and whether the other two succeed. -/
structure SocketCalls where
  socket : ℤ
  setsockopt : Bool
  bind : Bool
  deriving DecidableEq, Repr

def createAndBindSocket (calls : SocketCalls) : ℤ :=
  if calls.socket < 0 then -1
  else if calls.setsockopt = false then -1
  else if calls.bind = false then -1
  else calls.socket

structure UDPConnection where
  conn : Connection
  send_sock_to_entityA : ℤ
  send_sock_to_entityB : ℤ
  recv_sock_from_entityA : ℤ
  recv_sock_from_entityB : ℤ
  deriving DecidableEq, Repr

def entityEnd (c : Connection) : Side → Endpoint
  | .A => ⟨c.entityA_ip, c.entityA_port⟩
  | .B => ⟨c.entityB_ip, c.entityB_port⟩

def proxyPort (c : Connection) : Socket → ℤ
  | .recv .A => c.entityA_proxy_port_recv
  | .send .A => c.entityA_proxy_port_send
  | .recv .B => c.entityB_proxy_port_recv
  | .send .B => c.entityB_proxy_port_send

def UDPConnection.sock (u : UDPConnection) : Socket → ℤ
  | .recv .A => u.recv_sock_from_entityA
  | .send .A => u.send_sock_to_entityA
  | .recv .B => u.recv_sock_from_entityB
  | .send .B => u.send_sock_to_entityB

/-- One round of the loop of `buildFromConnections`: the connection, and its four calls of
    `createAndBindSocket` in their order. -/
structure Attempt where
  conn : Connection
  recvA : SocketCalls
  sendB : SocketCalls
  recvB : SocketCalls
  sendA : SocketCalls
  deriving DecidableEq, Repr

def Attempt.calls (a : Attempt) : Socket → SocketCalls
  | .recv .A => a.recvA
  | .send .A => a.sendA
  | .recv .B => a.recvB
  | .send .B => a.sendB

def Attempt.sock (a : Attempt) (w : Socket) : ℤ := createAndBindSocket (a.calls w)

structure UDPHandler where
  sockToConnection : ℤ → Option UDPConnection
  recvSockets : List ℤ
  sendSockets : List ℤ
  connections : List UDPConnection

def noConnections : UDPHandler := ⟨fun _ => none, [], [], []⟩

def Attempt.connection (a : Attempt) : Option UDPConnection :=
  if a.sock (.recv .A) ≥ 0 ∧ a.sock (.send .B) ≥ 0 ∧ a.sock (.recv .B) ≥ 0 ∧
    a.sock (.send .A) ≥ 0 then
    some ⟨a.conn, a.sock (.send .A), a.sock (.send .B), a.sock (.recv .A), a.sock (.recv .B)⟩
  else none

/-- The sockets of a connection that is not complete stay open, and are forgotten. -/
def addConnection (h : UDPHandler) (a : Attempt) : UDPHandler :=
  match a.connection with
  | none => h
  | some u =>
    let map₁ := Function.update h.sockToConnection u.recv_sock_from_entityA (some u)
    let map₂ := Function.update map₁ u.recv_sock_from_entityB (some u)
    let map₃ := Function.update map₂ u.send_sock_to_entityA (some u)
    let map₄ := Function.update map₃ u.send_sock_to_entityB (some u)
    { sockToConnection := map₄
      recvSockets := h.recvSockets ++ [u.recv_sock_from_entityA, u.recv_sock_from_entityB]
      sendSockets := h.sendSockets ++ [u.send_sock_to_entityA, u.send_sock_to_entityB]
      connections := h.connections ++ [u] }

def buildFromConnections (attempts : List Attempt) : UDPHandler :=
  attempts.foldl addConnection noConnections

inductive Thread where
  | recv (recv_sock : ℤ) (conn : UDPConnection)
  | send (send_sock : ℤ) (conn : UDPConnection) (isFromA : Bool)
  deriving DecidableEq, Repr

def Thread.sock : Thread → ℤ
  | .recv sock _ | .send sock _ _ => sock

def Thread.conn : Thread → UDPConnection
  | .recv _ conn | .send _ conn _ => conn

/-- Every `pthread_create` succeeds. -/
def startRecvThreads (h : UDPHandler) : List Thread :=
  h.recvSockets.filterMap (fun sock => (h.sockToConnection sock).map (.recv sock))

/-- `getsockname` gives the port that a socket is bound to, if it succeeds. -/
def isFromA (getsockname : ℤ → Option ℤ) (sock : ℤ) (u : UDPConnection) : Bool :=
  match getsockname sock with
  | none => false
  | some bound_port => bound_port = u.conn.entityA_proxy_port_send

def sendThread (getsockname : ℤ → Option ℤ) (sock : ℤ) (u : UDPConnection) : Option Thread :=
  if u.conn.entityA_port ≠ -1 ∧ u.conn.entityB_port ≠ -1 then none
  else some (.send sock u (isFromA getsockname sock u))

def startSendThreads (getsockname : ℤ → Option ℤ) (h : UDPHandler) : List Thread :=
  h.sendSockets.filterMap (fun sock => (h.sockToConnection sock).bind (sendThread getsockname sock))

def threads (getsockname : ℤ → Option ℤ) (attempts : List Attempt) : List Thread :=
  startRecvThreads (buildFromConnections attempts) ++
    startSendThreads getsockname (buildFromConnections attempts)

/-- The branches of `recvThreadEntry` and `sendThreadEntry`: the socket that a datagram is
    sent through, and the entity it is sent to with the port that the configuration gives. -/
def Thread.target : Thread → Option (ℤ × Endpoint)
  | .recv recv_sock u =>
    if recv_sock = u.recv_sock_from_entityA then
      some (u.send_sock_to_entityB, entityEnd u.conn .B)
    else if recv_sock = u.recv_sock_from_entityB then
      some (u.send_sock_to_entityA, entityEnd u.conn .A)
    else none
  | .send _ u true => some (u.recv_sock_from_entityB, entityEnd u.conn .B)
  | .send _ u false => some (u.recv_sock_from_entityA, entityEnd u.conn .A)

def UDPConnection.socks (u : UDPConnection) : List ℤ :=
  [u.sock (.recv .A), u.sock (.send .B), u.sock (.recv .B), u.sock (.send .A)]

theorem sock_mem_socks (u : UDPConnection) (w : Socket) : u.sock w ∈ u.socks := by
  rcases w with (_ | _) | (_ | _) <;> simp [UDPConnection.socks]

def Attempt.opened (a : Attempt) : List ℤ :=
  [a.sock (.recv .A), a.sock (.send .B), a.sock (.recv .B), a.sock (.send .A)].filter (0 ≤ ·)

theorem connection_some {a : Attempt} {u : UDPConnection} (h : a.connection = some u) :
    u.conn = a.conn ∧ (∀ w, u.sock w = a.sock w) ∧ (∀ w, 0 ≤ a.sock w) ∧ a.opened = u.socks := by
  unfold Attempt.connection at h
  split at h
  · rename_i bound
    obtain ⟨recvA, sendB, recvB, sendA⟩ := bound
    cases h
    refine ⟨rfl, ?_, ?_, ?_⟩
    · rintro ((_ | _) | (_ | _)) <;> rfl
    · rintro ((_ | _) | (_ | _)) <;> assumption
    · simp [Attempt.opened, UDPConnection.socks, UDPConnection.sock, recvA, sendB, recvB, sendA]
  · cases h

/-- `h` is what the complete connections `us` make of a handler. -/
structure Built (h : UDPHandler) (us : List UDPConnection) : Prop where
  connections : h.connections = us
  recvSockets : h.recvSockets = us.flatMap (fun u => [u.sock (.recv .A), u.sock (.recv .B)])
  sendSockets : h.sendSockets = us.flatMap (fun u => [u.sock (.send .A), u.sock (.send .B)])
  mapped : ∀ u ∈ us, ∀ w, h.sockToConnection (u.sock w) = some u
  only : ∀ fd u, h.sockToConnection fd = some u → u ∈ us ∧ ∃ w, fd = u.sock w

theorem update_socks {map : ℤ → Option UDPConnection} (u : UDPConnection) (fd : ℤ) :
    Function.update (Function.update (Function.update (Function.update map
      u.recv_sock_from_entityA (some u)) u.recv_sock_from_entityB (some u))
      u.send_sock_to_entityA (some u)) u.send_sock_to_entityB (some u) fd =
    if fd ∈ u.socks then some u else map fd := by
  simp only [Function.update_apply, UDPConnection.socks, UDPConnection.sock, List.mem_cons,
    List.not_mem_nil, or_false]
  grind

theorem socks_exists {u : UDPConnection} {fd : ℤ} (h : fd ∈ u.socks) : ∃ w, fd = u.sock w := by
  simp only [UDPConnection.socks, List.mem_cons, List.not_mem_nil, or_false] at h
  rcases h with h | h | h | h <;> exact ⟨_, h⟩

theorem built_add {h : UDPHandler} {us : List UDPConnection} {a : Attempt} {u : UDPConnection}
    (built : Built h us) (complete : a.connection = some u)
    (fresh : ∀ v ∈ us, ∀ w, v.sock w ∉ u.socks) : Built (addConnection h a) (us ++ [u]) := by
  have lookup : ∀ fd, (addConnection h a).sockToConnection fd =
      if fd ∈ u.socks then some u else h.sockToConnection fd := by
    intro fd
    rw [addConnection, complete]
    exact update_socks u fd
  refine ⟨?_, ?_, ?_, ?_, ?_⟩
  · rw [addConnection, complete, ← built.connections]
  · rw [addConnection, complete, List.flatMap_append, ← built.recvSockets]
    rfl
  · rw [addConnection, complete, List.flatMap_append, ← built.sendSockets]
    rfl
  · intro v member w
    rw [lookup]
    rcases List.mem_append.mp member with member | member
    · rw [if_neg (fresh v member w), built.mapped v member w]
    · obtain rfl := List.mem_singleton.mp member
      rw [if_pos (sock_mem_socks v w)]
  · intro fd v found
    rw [lookup] at found
    split at found
    · rename_i own
      cases found
      exact ⟨by simp, socks_exists own⟩
    · obtain ⟨member, place⟩ := built.only fd v found
      exact ⟨List.mem_append_left _ member, place⟩

theorem built_foldl {h : UDPHandler} {us : List UDPConnection} (attempts : List Attempt)
    (built : Built h us)
    (distinct : (us.flatMap UDPConnection.socks ++ attempts.flatMap Attempt.opened).Nodup) :
    Built (attempts.foldl addConnection h) (us ++ attempts.filterMap Attempt.connection) := by
  induction attempts generalizing h us with
  | nil => simpa using built
  | cons a attempts ih =>
    rw [List.foldl_cons]
    cases complete : a.connection with
    | none =>
      rw [List.filterMap_cons_none complete]
      have same : addConnection h a = h := by rw [addConnection, complete]
      rw [same]
      refine ih built (distinct.sublist ?_)
      exact (List.Sublist.refl _).append (by simp)
    | some u =>
      obtain ⟨-, -, -, opened⟩ := connection_some complete
      rw [List.flatMap_cons, opened, ← List.append_assoc] at distinct
      have fresh : ∀ v ∈ us, ∀ w, v.sock w ∉ u.socks := by
        intro v member w own
        have apart := (List.nodup_append.mp (List.nodup_append.mp distinct).1).2.2
        exact apart _ (List.mem_flatMap.mpr ⟨v, member, sock_mem_socks v w⟩) _ own rfl
      rw [List.filterMap_cons_some complete, ← List.singleton_append, ← List.append_assoc]
      refine ih (built_add built complete fresh) ?_
      simpa [List.flatMap_append] using distinct

def complete (attempts : List Attempt) : List UDPConnection :=
  attempts.filterMap Attempt.connection

/-- The system never gives one descriptor to two open sockets. -/
def DistinctSockets (attempts : List Attempt) : Prop := (attempts.flatMap Attempt.opened).Nodup

instance (attempts : List Attempt) : Decidable (DistinctSockets attempts) :=
  inferInstanceAs (Decidable (List.Nodup _))

theorem build_built {attempts : List Attempt} (distinct : DistinctSockets attempts) :
    Built (buildFromConnections attempts) (complete attempts) := by
  have start : Built noConnections [] :=
    ⟨rfl, rfl, rfl, by simp, fun _ _ h => by cases h⟩
  exact built_foldl attempts start distinct

theorem socks_nodup {attempts : List Attempt} (distinct : DistinctSockets attempts) :
    ((complete attempts).flatMap UDPConnection.socks).Nodup := by
  refine distinct.sublist ?_
  unfold complete
  induction attempts with
  | nil => simp
  | cons a attempts ih =>
    have rest := ih ((List.nodup_append.mp distinct).2.1)
    cases complete : a.connection with
    | none =>
      rw [List.filterMap_cons_none complete]
      exact rest.trans (List.sublist_append_right _ _)
    | some u =>
      obtain ⟨-, -, -, opened⟩ := connection_some complete
      rw [List.filterMap_cons_some complete, List.flatMap_cons, List.flatMap_cons, opened]
      exact (List.Sublist.refl _).append rest

theorem sock_inj {attempts : List Attempt} (distinct : DistinctSockets attempts)
    {u v : UDPConnection} (hu : u ∈ complete attempts) (hv : v ∈ complete attempts)
    {w w' : Socket} (same : u.sock w = v.sock w') : u = v ∧ w = w' := by
  have built := build_built distinct
  have owner : u = v := by
    have h := built.mapped u hu w
    rw [same, built.mapped v hv w'] at h
    exact (Option.some.inj h).symm
  subst owner
  refine ⟨rfl, ?_⟩
  have nodup := (List.nodup_flatMap.mp (socks_nodup distinct)).1 u hu
  simp only [UDPConnection.socks, List.nodup_cons, List.mem_cons, List.not_mem_nil, or_false,
    not_or] at nodup
  rcases w with (_ | _) | (_ | _) <;> rcases w' with (_ | _) | (_ | _) <;> simp_all

def threadOf (getsockname : ℤ → Option ℤ) (u : UDPConnection) : Socket → Option Thread
  | .recv X => some (.recv (u.sock (.recv X)) u)
  | .send X => sendThread getsockname (u.sock (.send X)) u

/-- There is no thread for a sending socket when both entities have fixed ports. -/
theorem threadOf_isSome (getsockname : ℤ → Option ℤ) (u : UDPConnection) (w : Socket) :
    (threadOf getsockname u w).isSome = true ↔
      ∀ X, w = .send X → u.conn.entityA_port = -1 ∨ u.conn.entityB_port = -1 := by
  cases w with
  | recv X => simp [threadOf]
  | send X =>
    simp only [threadOf, sendThread]
    split
    · rename_i fixed
      simp [fixed.1, fixed.2]
    · rename_i dynamic
      simp only [Option.isSome_some, true_iff]
      intro _ _
      tauto

def recvThreadsOf (getsockname : ℤ → Option ℤ) (u : UDPConnection) : List Thread :=
  [Socket.recv .A, .recv .B].filterMap (threadOf getsockname u)

def sendThreadsOf (getsockname : ℤ → Option ℤ) (u : UDPConnection) : List Thread :=
  [Socket.send .A, .send .B].filterMap (threadOf getsockname u)

theorem threads_eq (getsockname : ℤ → Option ℤ) {attempts : List Attempt}
    (distinct : DistinctSockets attempts) : threads getsockname attempts =
      (complete attempts).flatMap (recvThreadsOf getsockname) ++
        (complete attempts).flatMap (sendThreadsOf getsockname) := by
  have built := build_built distinct
  rw [threads, startRecvThreads, startSendThreads, built.recvSockets, built.sendSockets,
    List.filterMap_flatMap, List.filterMap_flatMap]
  congr 1
  · apply List.flatMap_congr
    intro u member
    simp [recvThreadsOf, threadOf, built.mapped u member]
  · apply List.flatMap_congr
    intro u member
    change List.filterMap _ (List.map u.sock [.send .A, .send .B]) = _
    rw [List.filterMap_map, sendThreadsOf]
    apply List.filterMap_congr
    intro w sending
    obtain ⟨X, rfl⟩ : ∃ X, w = .send X := by
      simp only [List.mem_cons, List.not_mem_nil, or_false] at sending
      rcases sending with rfl | rfl <;> exact ⟨_, rfl⟩
    rw [Function.comp_apply, built.mapped u member, Option.bind_some, threadOf]

theorem mem_threads {getsockname : ℤ → Option ℤ} {attempts : List Attempt}
    (distinct : DistinctSockets attempts) {t : Thread} : t ∈ threads getsockname attempts ↔
      ∃ u ∈ complete attempts, ∃ w, threadOf getsockname u w = some t := by
  rw [threads_eq getsockname distinct]
  simp only [List.mem_append, List.mem_flatMap, recvThreadsOf, sendThreadsOf, List.mem_filterMap,
    List.mem_cons, List.not_mem_nil, or_false]
  constructor
  · rintro (⟨u, hu, w, -, h⟩ | ⟨u, hu, w, -, h⟩) <;> exact ⟨u, hu, w, h⟩
  · rintro ⟨u, hu, (_ | _) | (_ | _), h⟩
    · exact Or.inl ⟨u, hu, _, Or.inl rfl, h⟩
    · exact Or.inl ⟨u, hu, _, Or.inr rfl, h⟩
    · exact Or.inr ⟨u, hu, _, Or.inl rfl, h⟩
    · exact Or.inr ⟨u, hu, _, Or.inr rfl, h⟩

theorem threadOf_sock {getsockname : ℤ → Option ℤ} {u : UDPConnection} {w : Socket} {t : Thread}
    (h : threadOf getsockname u w = some t) : t.sock = u.sock w ∧ t.conn = u := by
  cases w with
  | recv X =>
    cases h
    exact ⟨rfl, rfl⟩
  | send X =>
    simp only [threadOf, sendThread] at h
    split at h
    · cases h
    · cases h
      exact ⟨rfl, rfl⟩

/-- `getsockname` tells the port that each socket was bound to. -/
def PortsReported (getsockname : ℤ → Option ℤ) (attempts : List Attempt) : Prop :=
  ∀ u ∈ complete attempts, ∀ w : Socket,
    getsockname (u.sock w) = some ((htons (proxyPort u.conn w)).toNat : ℤ)

structure ProxyPorts (c : Connection) : Prop where
  range : ∀ w, 20000 ≤ proxyPort c w ∧ proxyPort c w ≤ 60000
  distinct : ∀ w w', proxyPort c w = proxyPort c w' → w = w'

theorem htons_toNat {port : ℤ} (low : 0 ≤ port) (high : port ≤ 65535) :
    ((htons port).toNat : ℤ) = port := by
  rw [htons, UInt16.ofInt, UInt16.toNat_ofNat']
  omega

theorem isFromA_iff {getsockname : ℤ → Option ℤ} {attempts : List Attempt} {u : UDPConnection}
    (reported : PortsReported getsockname attempts) (member : u ∈ complete attempts)
    (ports : ProxyPorts u.conn) (X : Side) :
    isFromA getsockname (u.sock (.send X)) u = decide (X = .A) := by
  have range := ports.range (.send X)
  rw [isFromA, reported u member, htons_toNat (by omega) (by omega)]
  apply decide_eq_decide.mpr
  constructor
  · intro same
    have := ports.distinct (.send X) (.send .A) same
    cases this
    rfl
  · rintro rfl
    rfl

theorem threadOf_target {getsockname : ℤ → Option ℤ} {attempts : List Attempt}
    {u : UDPConnection} {w : Socket} {t : Thread} (distinct : DistinctSockets attempts)
    (reported : PortsReported getsockname attempts) (member : u ∈ complete attempts)
    (ports : ProxyPorts u.conn) (h : threadOf getsockname u w = some t) :
    t.target = some (u.sock w.forwardSock, entityEnd u.conn w.side.other) := by
  cases w with
  | recv X =>
    cases h
    cases X with
    | A => simp [Thread.target, UDPConnection.sock, Socket.forwardSock, Socket.side, Side.other]
    | B =>
      have other : u.sock (.recv .B) ≠ u.sock (.recv .A) := by
        intro same
        have := (sock_inj distinct member member same).2
        cases this
      exact (if_neg other).trans (if_pos rfl)
  | send X =>
    simp only [threadOf, sendThread] at h
    split at h
    · cases h
    · cases h
      rw [isFromA_iff reported member ports X]
      cases X <;> rfl

end Cezfuzzer.UDPHandlerSockets
