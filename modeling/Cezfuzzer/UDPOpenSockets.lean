import Mathlib.Data.List.Nodup
import Mathlib.Data.List.Pairwise
import Cezfuzzer.UDPHandlerSockets

set_option autoImplicit false

/-!
# The sockets that `buildFromConnections` opens

The loop over the connections once more, now with the open sockets of the process beside the
four containers of the handler. Each of the four calls of a round may fail at each of its
steps.
-/
namespace Cezfuzzer.UDPOpenSockets
open CommanderConfig
open UDPHandlerSockets (Attempt SocketCalls UDPHandler UDPConnection DistinctSockets addConnection
  noConnections complete connection_some build_built sock_mem_socks)
open UDPRelay (Side Socket htons)

/-- How far one `createAndBindSocket` comes. -/
inductive Outcome where
  | noSocket | noOption | noBind | bound
  deriving DecidableEq, Repr

/-- `round` is the round of the loop that opened the socket. -/
structure OpenSocket where
  fd : ℤ
  port : Option UInt16
  round : ℕ
  deriving DecidableEq, Repr

def descriptors (table : List OpenSocket) : List ℤ := table.map OpenSocket.fd

/-- The descriptor that a successful `socket` returns is never one that is open. -/
structure Descriptors where
  next : List ℤ → ℤ
  nonneg : ∀ fds, 0 ≤ next fds
  fresh : ∀ fds, next fds ∉ fds

def close (sock : ℤ) (table : List OpenSocket) : List OpenSocket :=
  table.filter (fun s => s.fd ≠ sock)

def bind (sock : ℤ) (port : UInt16) (table : List OpenSocket) : List OpenSocket :=
  table.map (fun s => if s.fd = sock then { s with port := some port } else s)

variable (d : Descriptors)

def createAndBindSocket (round : ℕ) (port : ℤ) (outcome : Outcome) (table : List OpenSocket) :
    ℤ × List OpenSocket :=
  if outcome = .noSocket then (-1, table)
  else
    let sock := d.next (descriptors table)
    let opened := table ++ [⟨sock, none, round⟩]
    if outcome = .noOption then (-1, close sock opened)
    else if outcome = .noBind then (-1, close sock opened)
    else (sock, bind sock (htons port) opened)

/-- A connection of the list, and how its four sockets turn out. -/
structure Round where
  conn : Connection
  recvA : Outcome
  sendB : Outcome
  recvB : Outcome
  sendA : Outcome
  deriving DecidableEq, Repr

def Round.outcome (r : Round) : Socket → Outcome
  | .recv .A => r.recvA
  | .send .A => r.sendA
  | .recv .B => r.recvB
  | .send .B => r.sendB

/-- The handler, the open sockets, and what the calls of each round have returned. -/
structure Build where
  handler : UDPHandler
  table : List OpenSocket
  attempts : List Attempt

def start : Build := ⟨noConnections, [], []⟩

/-- All that the loop sees of a call is the number that it returns. -/
def returned (sock : ℤ) : SocketCalls := ⟨sock, true, true⟩

/-- The failing branch only prints its message. -/
def buildRound (b : Build) (r : Round) : Build :=
  let i := b.attempts.length
  let recvA := createAndBindSocket d i r.conn.entityA_proxy_port_recv r.recvA b.table
  let sendB := createAndBindSocket d i r.conn.entityB_proxy_port_send r.sendB recvA.2
  let recvB := createAndBindSocket d i r.conn.entityB_proxy_port_recv r.recvB sendB.2
  let sendA := createAndBindSocket d i r.conn.entityA_proxy_port_send r.sendA recvB.2
  let attempt : Attempt := ⟨r.conn, returned recvA.1, returned sendB.1, returned recvB.1,
    returned sendA.1⟩
  ⟨addConnection b.handler attempt, sendA.2, b.attempts ++ [attempt]⟩

def buildFromConnections (rounds : List Round) : Build := rounds.foldl (buildRound d) start

def opens (round : ℕ) (port : ℤ) (outcome : Outcome) (sock : ℤ) : List OpenSocket :=
  if outcome = .bound then [⟨sock, some (htons port), round⟩] else []

theorem close_new {table : List OpenSocket} {s : OpenSocket} (new : s.fd ∉ descriptors table) :
    close s.fd (table ++ [s]) = table := by
  have others : ∀ t ∈ table, t.fd ≠ s.fd := by
    intro t member same
    exact new (List.mem_map.mpr ⟨t, member, same⟩)
  rw [close, List.filter_append, List.filter_eq_self.mpr (by simpa using others)]
  simp

theorem bind_new {table : List OpenSocket} {s : OpenSocket} (new : s.fd ∉ descriptors table)
    (port : UInt16) : bind s.fd port (table ++ [s]) = table ++ [{ s with port := some port }] := by
  have others : table.map (fun t => if t.fd = s.fd then { t with port := some port } else t) =
      table := by
    refine (List.map_congr_left ?_).trans (List.map_id table)
    intro t member
    exact if_neg (fun same => new (List.mem_map.mpr ⟨t, member, same⟩))
  rw [bind, List.map_append, others]
  simp

theorem createAndBindSocket_eq (round : ℕ) (port : ℤ) (outcome : Outcome)
    (table : List OpenSocket) : createAndBindSocket d round port outcome table =
      (if outcome = .bound then d.next (descriptors table) else -1,
        table ++ opens round port outcome (d.next (descriptors table))) := by
  have new := d.fresh (descriptors table)
  have closed := close_new (s := ⟨d.next (descriptors table), none, round⟩) new
  have bound := bind_new (s := ⟨d.next (descriptors table), none, round⟩) new (htons port)
  cases outcome with
  | noSocket => simp [createAndBindSocket, opens]
  | noOption | noBind => simpa [createAndBindSocket, opens] using closed
  | bound => simpa [createAndBindSocket, opens] using bound

theorem descriptors_opens (round : ℕ) (port : ℤ) (outcome : Outcome) {table : List OpenSocket}
    (nodup : (descriptors table).Nodup) :
    (descriptors (table ++ opens round port outcome (d.next (descriptors table)))).Nodup := by
  have new := d.fresh (descriptors table)
  unfold opens
  split
  · rw [descriptors, List.map_append]
    exact List.Nodup.append nodup (List.nodup_singleton _) (List.disjoint_singleton.mpr new)
  · simpa using nodup

def openSocket (round : ℕ) (a : Attempt) (w : Socket) : List OpenSocket :=
  if 0 ≤ a.sock w then
    [⟨a.sock w, some (htons (UDPHandlerSockets.proxyPort a.conn w)), round⟩]
  else []

def order : List Socket := [.recv .A, .send .B, .recv .B, .send .A]

def openSockets (round : ℕ) (a : Attempt) : List OpenSocket := order.flatMap (openSocket round a)

theorem descriptors_openSockets (round : ℕ) (a : Attempt) :
    descriptors (openSockets round a) = a.opened := by
  change _ = (order.map a.sock).filter (0 ≤ ·)
  unfold openSockets
  induction order with
  | nil => rfl
  | cons w ws ih =>
    rw [descriptors] at ih
    rw [List.flatMap_cons, descriptors, List.map_append, ih, List.map_cons, List.filter_cons,
      openSocket]
    by_cases bound : 0 ≤ a.sock w <;> simp [bound]

/-- What the calls of a round return says which of them have succeeded. -/
structure Returns (r : Round) (a : Attempt) : Prop where
  conn : a.conn = r.conn
  bound : ∀ w, 0 ≤ a.sock w ↔ r.outcome w = .bound

theorem sock_returned (outcome : Outcome) {sock : ℤ} (nonneg : 0 ≤ sock) :
    UDPHandlerSockets.createAndBindSocket (returned (if outcome = .bound then sock else -1)) =
      if outcome = .bound then sock else -1 := by
  by_cases bound : outcome = .bound <;>
    simp [UDPHandlerSockets.createAndBindSocket, returned, bound, nonneg]

theorem returned_bound {outcome : Outcome} {sock result : ℤ} (nonneg : 0 ≤ sock)
    (h : result = if outcome = .bound then sock else -1) : 0 ≤ result ↔ outcome = .bound := by
  rw [h]
  by_cases bound : outcome = .bound <;> simp [bound, nonneg]

theorem opens_eq (round : ℕ) {outcome : Outcome} {sock : ℤ} {a : Attempt} {w : Socket}
    (nonneg : 0 ≤ sock) (h : a.sock w = if outcome = .bound then sock else -1) :
    opens round (UDPHandlerSockets.proxyPort a.conn w) outcome sock = openSocket round a w := by
  rw [opens, openSocket, h]
  by_cases bound : outcome = .bound <;> simp [bound, nonneg]

theorem buildRound_spec (b : Build) (r : Round) : ∃ a, Returns r a ∧
    buildRound d b r = ⟨addConnection b.handler a,
      b.table ++ openSockets b.attempts.length a, b.attempts ++ [a]⟩ ∧
    ((descriptors b.table).Nodup → (descriptors (buildRound d b r).table).Nodup) := by
  obtain ⟨conn, recvA, sendB, recvB, sendA⟩ := r
  let i := b.attempts.length
  let t₁ := b.table ++ opens i conn.entityA_proxy_port_recv recvA (d.next (descriptors b.table))
  let t₂ := t₁ ++ opens i conn.entityB_proxy_port_send sendB (d.next (descriptors t₁))
  let t₃ := t₂ ++ opens i conn.entityB_proxy_port_recv recvB (d.next (descriptors t₂))
  let t₄ := t₃ ++ opens i conn.entityA_proxy_port_send sendA (d.next (descriptors t₃))
  let a : Attempt := ⟨conn,
    returned (if recvA = .bound then d.next (descriptors b.table) else -1),
    returned (if sendB = .bound then d.next (descriptors t₁) else -1),
    returned (if recvB = .bound then d.next (descriptors t₂) else -1),
    returned (if sendA = .bound then d.next (descriptors t₃) else -1)⟩
  have round : buildRound d b ⟨conn, recvA, sendB, recvB, sendA⟩ =
      ⟨addConnection b.handler a, t₄, b.attempts ++ [a]⟩ := by
    simp only [buildRound, createAndBindSocket_eq]
    rfl
  have fresh := d.nonneg
  have hRecvA : a.sock (.recv .A) = _ := sock_returned recvA (fresh (descriptors b.table))
  have hSendB : a.sock (.send .B) = _ := sock_returned sendB (fresh (descriptors t₁))
  have hRecvB : a.sock (.recv .B) = _ := sock_returned recvB (fresh (descriptors t₂))
  have hSendA : a.sock (.send .A) = _ := sock_returned sendA (fresh (descriptors t₃))
  have returns : Returns ⟨conn, recvA, sendB, recvB, sendA⟩ a := by
    refine ⟨rfl, ?_⟩
    rintro ((_ | _) | (_ | _))
    · exact returned_bound (fresh _) hRecvA
    · exact returned_bound (fresh _) hRecvB
    · exact returned_bound (fresh _) hSendA
    · exact returned_bound (fresh _) hSendB
  have opened : t₄ = b.table ++ openSockets i a := by
    have h₁ := opens_eq i (fresh _) hRecvA
    have h₂ := opens_eq i (fresh _) hSendB
    have h₃ := opens_eq i (fresh _) hRecvB
    have h₄ := opens_eq i (fresh _) hSendA
    simp only [openSockets, order, List.flatMap_cons, List.flatMap_nil, List.append_nil, ← h₁,
      ← h₂, ← h₃, ← h₄, ← List.append_assoc]
    rfl
  refine ⟨a, returns, ?_, ?_⟩
  · rw [round, opened]
  · intro nodup
    rw [round]
    have nodup₁ := descriptors_opens d i conn.entityA_proxy_port_recv recvA nodup
    have nodup₂ := descriptors_opens d i conn.entityB_proxy_port_send sendB nodup₁
    have nodup₃ := descriptors_opens d i conn.entityB_proxy_port_recv recvB nodup₂
    exact descriptors_opens d i conn.entityA_proxy_port_send sendA nodup₃

/-- What the loop has made of the rounds behind it. -/
structure Progress (b : Build) (rounds : List Round) : Prop where
  handler : b.handler = UDPHandlerSockets.buildFromConnections b.attempts
  table : b.table = b.attempts.zipIdx.flatMap (fun p => openSockets p.2 p.1)
  distinct : (descriptors b.table).Nodup
  returns : List.Forall₂ Returns rounds b.attempts

theorem progress_round {b : Build} {rounds : List Round} (progress : Progress b rounds)
    (r : Round) : Progress (buildRound d b r) (rounds ++ [r]) := by
  obtain ⟨a, returns, round, distinct⟩ := buildRound_spec d b r
  refine ⟨?_, ?_, distinct progress.distinct, ?_⟩
  · rw [round, progress.handler, UDPHandlerSockets.buildFromConnections,
      UDPHandlerSockets.buildFromConnections, List.foldl_concat]
  · rw [round, progress.table, List.zipIdx_append, List.flatMap_append]
    simp
  · rw [round]
    exact List.rel_append progress.returns (.cons returns .nil)

theorem build_progress (rounds : List Round) : Progress (buildFromConnections d rounds) rounds := by
  induction rounds using List.reverseRecOn with
  | nil => exact ⟨rfl, rfl, List.nodup_nil, .nil⟩
  | append_singleton rounds r ih =>
    rw [buildFromConnections, List.foldl_concat]
    exact progress_round d ih r

theorem flatMap_zipIdx_opened (attempts : List Attempt) (i : ℕ) :
    descriptors ((attempts.zipIdx i).flatMap (fun p => openSockets p.2 p.1)) =
      attempts.flatMap Attempt.opened := by
  induction attempts generalizing i with
  | nil => rfl
  | cons a attempts ih =>
    have rest := ih (i + 1)
    have first := descriptors_openSockets i a
    rw [descriptors] at rest first
    rw [List.zipIdx_cons, List.flatMap_cons, descriptors, List.map_append, rest, first,
      List.flatMap_cons]

/-- No descriptor is given to two of the sockets that stay open. -/
theorem Progress.distinctSockets {b : Build} {rounds : List Round} (progress : Progress b rounds) :
    DistinctSockets b.attempts := by
  have distinct := progress.distinct
  rwa [progress.table, flatMap_zipIdx_opened] at distinct

def Round.allBound (r : Round) : Prop := ∀ w, r.outcome w = .bound

def Round.noneBound (r : Round) : Prop := ∀ w, r.outcome w ≠ .bound

instance (r : Round) : Decidable r.allBound :=
  decidable_of_iff (r.recvA = .bound ∧ r.sendB = .bound ∧ r.recvB = .bound ∧ r.sendA = .bound) (by
    constructor
    · rintro ⟨recvA, sendB, recvB, sendA⟩ ((_ | _) | (_ | _)) <;> assumption
    · intro all
      exact ⟨all (.recv .A), all (.send .B), all (.recv .B), all (.send .A)⟩)

/-- The connection `u` is in the containers of the handler, with its sockets. -/
structure Registered (h : UDPHandler) (u : UDPConnection) : Prop where
  connections : u ∈ h.connections
  recvSockets : ∀ X, u.sock (.recv X) ∈ h.recvSockets
  sendSockets : ∀ X, u.sock (.send X) ∈ h.sendSockets
  mapped : ∀ w, h.sockToConnection (u.sock w) = some u

structure Unknown (h : UDPHandler) (sock : ℤ) : Prop where
  connections : ∀ u ∈ h.connections, ∀ w, u.sock w ≠ sock
  recvSockets : sock ∉ h.recvSockets
  sendSockets : sock ∉ h.sendSockets
  mapped : h.sockToConnection sock = none

/-- What is to hold of the handler and of the open sockets when the loop is over. -/
structure AllOrNothing (rounds : List Round) (b : Build) : Prop where
  connections : b.handler.connections.map UDPConnection.conn =
    (rounds.filter (fun r => r.allBound)).map Round.conn
  whole : ∀ (i : ℕ) (r : Round) (a : Attempt), rounds[i]? = some r → b.attempts[i]? = some a →
    r.allBound → ∃ u, u.conn = r.conn ∧ (∀ w, u.sock w = a.sock w) ∧ Registered b.handler u
  nothing : ∀ (i : ℕ) (r : Round) (a : Attempt), rounds[i]? = some r → b.attempts[i]? = some a →
    ¬r.allBound → (∀ w, 0 ≤ a.sock w → Unknown b.handler (a.sock w)) ∧
      ∀ s ∈ b.table, s.round ≠ i

variable {b : Build} {rounds : List Round} {a : Attempt} {r : Round} {u : UDPConnection}

theorem Returns.connection_isSome (returns : Returns r a) :
    a.connection.isSome = true ↔ r.allBound := by
  simp only [Attempt.connection, ge_iff_le, Option.isSome_ite, returns.bound]
  constructor
  · rintro ⟨recvA, sendB, recvB, sendA⟩ ((_ | _) | (_ | _)) <;> assumption
  · intro all
    exact ⟨all _, all _, all _, all _⟩

theorem Progress.registered (progress : Progress b rounds) (member : u ∈ complete b.attempts) :
    Registered b.handler u := by
  have built := build_built progress.distinctSockets
  rw [← progress.handler] at built
  refine ⟨built.connections ▸ member, ?_, ?_, built.mapped u member⟩
  · intro X
    rw [built.recvSockets]
    exact List.mem_flatMap.mpr ⟨u, member, by cases X <;> simp⟩
  · intro X
    rw [built.sendSockets]
    exact List.mem_flatMap.mpr ⟨u, member, by cases X <;> simp⟩

/-- A socket of a failed connection is none of a complete one. -/
theorem Progress.apart (progress : Progress b rounds) (member : a ∈ b.attempts)
    (failed : a.connection = none) (other : u ∈ complete b.attempts) (w w' : Socket)
    (open' : 0 ≤ a.sock w) : u.sock w' ≠ a.sock w := by
  intro same
  obtain ⟨a', member', made⟩ := List.mem_filterMap.mp other
  obtain ⟨-, -, -, opened⟩ := connection_some made
  have ne : a ≠ a' := by
    rintro rfl
    rw [failed] at made
    cases made
  have symmetric : Std.Symm (Function.onFun List.Disjoint Attempt.opened) :=
    ⟨fun _ _ disjoint _ right left => disjoint left right⟩
  have disjoint := (List.nodup_flatMap.mp progress.distinctSockets).2.forall member member' ne
  have left : a.sock w ∈ a.opened := by
    refine List.mem_filter.mpr ⟨?_, by simpa using open'⟩
    rcases w with (_ | _) | (_ | _) <;> simp
  have right : a.sock w ∈ a'.opened := opened ▸ same ▸ sock_mem_socks u w'
  exact disjoint left right

theorem Progress.unknown (progress : Progress b rounds) (member : a ∈ b.attempts)
    (failed : a.connection = none) (w : Socket) (open' : 0 ≤ a.sock w) :
    Unknown b.handler (a.sock w) := by
  have built := build_built progress.distinctSockets
  rw [← progress.handler] at built
  have apart := fun u (other : u ∈ complete b.attempts) w' =>
    progress.apart member failed other w w' open'
  refine ⟨?_, ?_, ?_, ?_⟩
  · intro u other
    exact apart u (built.connections ▸ other)
  · rw [built.recvSockets, List.mem_flatMap]
    rintro ⟨u, other, sock⟩
    simp only [List.mem_cons, List.not_mem_nil, or_false] at sock
    rcases sock with sock | sock <;> exact apart u other _ sock.symm
  · rw [built.sendSockets, List.mem_flatMap]
    rintro ⟨u, other, sock⟩
    simp only [List.mem_cons, List.not_mem_nil, or_false] at sock
    rcases sock with sock | sock <;> exact apart u other _ sock.symm
  · rw [Option.eq_none_iff_forall_ne_some]
    intro u found
    obtain ⟨other, w', same⟩ := built.only _ u found
    exact apart u other w' same.symm

theorem complete_conn {attempts : List Attempt} (returns : List.Forall₂ Returns rounds attempts) :
    (complete attempts).map UDPConnection.conn =
      (rounds.filter (fun r => r.allBound)).map Round.conn := by
  unfold complete
  induction returns with
  | nil => rfl
  | @cons r a rounds attempts returns _ ih =>
    cases made : a.connection with
    | none =>
      have failed : ¬r.allBound := by simp [← returns.connection_isSome, made]
      rw [List.filterMap_cons_none made, ih, List.filter_cons_of_neg (by simpa using failed)]
    | some u =>
      have bound : r.allBound := by simp [← returns.connection_isSome, made]
      obtain ⟨conn, -⟩ := connection_some made
      rw [List.filterMap_cons_some made, List.map_cons, ih,
        List.filter_cons_of_pos (by simpa using bound), List.map_cons, conn, returns.conn]

theorem Progress.connections (progress : Progress b rounds) :
    b.handler.connections.map UDPConnection.conn =
      (rounds.filter (fun r => r.allBound)).map Round.conn := by
  rw [progress.handler, (build_built progress.distinctSockets).connections,
    complete_conn progress.returns]

theorem Progress.at (progress : Progress b rounds) {i : ℕ} (hr : rounds[i]? = some r)
    (ha : b.attempts[i]? = some a) : Returns r a := by
  obtain ⟨ltr, rfl⟩ := List.getElem?_eq_some_iff.mp hr
  obtain ⟨lta, rfl⟩ := List.getElem?_eq_some_iff.mp ha
  exact progress.returns.get ltr lta

theorem Progress.mem_table (progress : Progress b rounds) {s : OpenSocket} :
    s ∈ b.table ↔ ∃ i a, b.attempts[i]? = some a ∧ s ∈ openSockets i a := by
  rw [progress.table, List.mem_flatMap]
  constructor
  · rintro ⟨⟨a, i⟩, member, opened⟩
    exact ⟨i, a, List.mem_zipIdx_iff_getElem?.mp member, opened⟩
  · rintro ⟨i, a, found, opened⟩
    exact ⟨(a, i), List.mem_zipIdx_iff_getElem?.mpr found, opened⟩

theorem mem_openSockets {i : ℕ} {s : OpenSocket} : s ∈ openSockets i a ↔ ∃ w, 0 ≤ a.sock w ∧
    s = ⟨a.sock w, some (htons (UDPHandlerSockets.proxyPort a.conn w)), i⟩ := by
  have all : ∀ w, w ∈ order := by rintro ((_ | _) | (_ | _)) <;> simp [order]
  simp only [openSockets, List.mem_flatMap, all, true_and, openSocket]
  apply exists_congr
  intro w
  by_cases bound : 0 ≤ a.sock w <;> simp [bound]

/-- A connection leaves a socket open as soon as one of its four calls succeeds. -/
theorem Progress.open_iff (progress : Progress b rounds) {i : ℕ} (hr : rounds[i]? = some r)
    (ha : b.attempts[i]? = some a) : (∃ s ∈ b.table, s.round = i) ↔ ¬r.noneBound := by
  have returns := progress.at hr ha
  simp only [Round.noneBound, not_forall, not_not, ← returns.bound]
  constructor
  · rintro ⟨s, member, round⟩
    obtain ⟨j, a', found, opened⟩ := progress.mem_table.mp member
    obtain ⟨w, bound, rfl⟩ := mem_openSockets.mp opened
    obtain rfl : j = i := round
    obtain rfl : a' = a := Option.some.inj (found.symm.trans ha)
    exact ⟨w, bound⟩
  · rintro ⟨w, bound⟩
    exact ⟨_, progress.mem_table.mpr ⟨i, a, ha, mem_openSockets.mpr ⟨w, bound, rfl⟩⟩, rfl⟩

/-- The containers are as they should be after any failures, and only sockets of connections of
    which some, but not all, calls fail are left over. -/
theorem allOrNothing_iff (d : Descriptors) (rounds : List Round) :
    AllOrNothing rounds (buildFromConnections d rounds) ↔
      ∀ r ∈ rounds, r.allBound ∨ r.noneBound := by
  have progress := build_progress d rounds
  generalize buildFromConnections d rounds = b at progress
  constructor
  · intro all r member
    obtain ⟨i, hr⟩ := List.mem_iff_getElem?.mp member
    have lt := (List.getElem?_eq_some_iff.mp hr).1
    have ha := List.getElem?_eq_getElem (progress.returns.length_eq ▸ lt)
    by_cases bound : r.allBound
    · exact Or.inl bound
    · refine Or.inr (not_not.mp (fun some => ?_))
      obtain ⟨s, member, round⟩ := (progress.open_iff hr ha).mpr some
      exact (all.nothing i r _ hr ha bound).2 s member round
  · intro clean
    refine ⟨progress.connections, ?_, ?_⟩
    · intro i r a hr ha bound
      have returns := progress.at hr ha
      obtain ⟨u, made⟩ := Option.isSome_iff_exists.mp (returns.connection_isSome.mpr bound)
      obtain ⟨conn, socks, -⟩ := connection_some made
      have member : u ∈ complete b.attempts :=
        List.mem_filterMap.mpr ⟨a, List.mem_of_getElem? ha, made⟩
      exact ⟨u, conn.trans returns.conn, socks, progress.registered member⟩
    · intro i r a hr ha failed
      have returns := progress.at hr ha
      have made : a.connection = none := by
        rw [← Option.not_isSome_iff_eq_none, returns.connection_isSome]
        exact failed
      refine ⟨fun w => progress.unknown (List.mem_of_getElem? ha) made w, ?_⟩
      intro s member round
      have none := (clean r (List.mem_of_getElem? hr)).resolve_left failed
      exact (progress.open_iff hr ha).mp ⟨s, member, round⟩ none

/-- Descriptors above those in use, from 3 on. -/
def ascending : Descriptors where
  next fds := fds.foldr max 2 + 1
  nonneg fds := by
    have least : 2 ≤ fds.foldr max 2 := by
      induction fds with
      | nil => exact le_rfl
      | cons fd fds ih => exact le_max_of_le_right ih
    omega
  fresh fds := by
    have above : ∀ fd ∈ fds, fd ≤ fds.foldr max 2 := by
      induction fds with
      | nil => simp
      | cons fd fds ih =>
        rintro x (_ | ⟨_, member⟩)
        · exact le_max_left _ _
        · exact le_max_of_le_right (ih x member)
    intro member
    have := above _ member
    omega

/-- The port of the third socket is taken. -/
def portTaken : Round :=
  ⟨⟨"172.20.0.2", 5000, 20000, 20001, "172.20.0.3", 6000, 20002, 20003⟩,
    .bound, .bound, .noBind, .bound⟩

/-- Three sockets stay open of a connection that the handler does not have. -/
theorem portTaken_leaks :
    ¬AllOrNothing [portTaken] (buildFromConnections ascending [portTaken]) := by
  intro all
  have failed := all.nothing 0 portTaken _ rfl rfl (by decide)
  exact failed.2 ⟨3, some (htons 20000), 0⟩ (by decide) rfl

end Cezfuzzer.UDPOpenSockets
