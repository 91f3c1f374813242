import Cezfuzzer.UDPDirections

set_option autoImplicit false

/-!
# Which sockets have a reader

`startRecvThreads` starts a thread for each receiving socket. `startSendThreads` passes over a
connection whose two entities have fixed ports; its sending sockets are read by nobody.
-/
namespace Cezfuzzer.UDPReaders
open StepRuns LengthPrefix CommanderConfig UDPHandlerSockets UDPDirections
open UDPRelay (Side Socket)

variable {getsockname : ℤ → Option ℤ} {attempts : List Attempt}

def readers (ts : List Thread) (fd : ℤ) : ℕ := (ts.map Thread.sock).count fd

/-- The threads of a connection read sockets of its own. -/
theorem sock_of_threads {u : UDPConnection} {ws : List Socket} {fd : ℤ}
    (member : fd ∈ (ws.filterMap (threadOf getsockname u)).map Thread.sock) :
    ∃ w ∈ ws, fd = u.sock w := by
  obtain ⟨t, ht, rfl⟩ := List.mem_map.mp member
  obtain ⟨w, hw, h⟩ := List.mem_filterMap.mp ht
  exact ⟨w, hw, (threadOf_sock h).1⟩

theorem socks_of_one_nodup (distinct : DistinctSockets attempts) {u : UDPConnection}
    (member : u ∈ complete attempts) {w w' : Socket} (ne : w ≠ w') :
    (([w, w'].filterMap (threadOf getsockname u)).map Thread.sock).Nodup := by
  have apart : u.sock w ≠ u.sock w' := fun same => ne (sock_inj distinct member member same).2
  have sock : ∀ z, (threadOf getsockname u z).map Thread.sock =
      if (threadOf getsockname u z).isSome then some (u.sock z) else none := by
    intro z
    cases h : threadOf getsockname u z with
    | none => rfl
    | some t => rw [Option.map_some, (threadOf_sock h).1]; rfl
  rw [List.map_filterMap]
  simp only [sock, List.filterMap_cons, List.filterMap_nil]
  split <;> split <;> simp_all

theorem threads_nodup (distinct : DistinctSockets attempts) :
    ((threads getsockname attempts).map Thread.sock).Nodup := by
  have pairs := (List.nodup_flatMap.mp (socks_nodup distinct)).2
  have part : ∀ w w' : Socket, w ≠ w' →
      ((complete attempts).flatMap (fun u =>
        ([w, w'].filterMap (threadOf getsockname u)).map Thread.sock)).Nodup := by
    intro w w' ne
    refine List.nodup_flatMap.mpr ⟨fun u hu => socks_of_one_nodup distinct hu ne, ?_⟩
    refine pairs.imp fun disjoint fd inU inV => ?_
    obtain ⟨z, _, rfl⟩ := sock_of_threads inU
    obtain ⟨z', _, same⟩ := sock_of_threads inV
    exact disjoint (sock_mem_socks _ z) (same ▸ sock_mem_socks _ z')
  rw [threads_eq getsockname distinct, List.map_append, List.map_flatMap, List.map_flatMap]
  refine List.nodup_append.mpr ⟨part _ _ (by decide), part _ _ (by decide), ?_⟩
  intro fd inRecv fd' inSend same
  obtain ⟨u, hu, member⟩ := List.mem_flatMap.mp inRecv
  obtain ⟨v, hv, member'⟩ := List.mem_flatMap.mp inSend
  obtain ⟨w, hw, fromU⟩ := sock_of_threads member
  obtain ⟨w', hw', fromV⟩ := sock_of_threads member'
  have eq := (sock_inj distinct hu hv (fromU.symm.trans (same.trans fromV))).2
  subst eq
  simp only [List.mem_cons, List.not_mem_nil, or_false] at hw hw'
  rcases hw with rfl | rfl <;> rcases hw' with h | h <;> cases h

theorem readers_eq (distinct : DistinctSockets attempts) {u : UDPConnection}
    (member : u ∈ complete attempts) (w : Socket) :
    readers (threads getsockname attempts) (u.sock w) =
      if (threadOf getsockname u w).isSome then 1 else 0 := by
  split
  · rename_i started
    obtain ⟨t, ht⟩ := Option.isSome_iff_exists.mp started
    refine List.count_eq_one_of_mem (threads_nodup distinct) ?_
    exact List.mem_map.mpr ⟨t, (mem_threads distinct).mpr ⟨u, member, w, ht⟩, (threadOf_sock ht).1⟩
  · rename_i absent
    refine List.count_eq_zero.mpr fun read => absent ?_
    obtain ⟨t, ht, same⟩ := List.mem_map.mp read
    obtain ⟨v, hv, w', h⟩ := (mem_threads distinct).mp ht
    rw [(threadOf_sock h).1] at same
    obtain ⟨rfl, rfl⟩ := sock_inj distinct hv member same
    exact h ▸ rfl

def Dynamic (c : Connection) : Prop := c.entityA_port = -1 ∨ c.entityB_port = -1

instance (c : Connection) : Decidable (Dynamic c) := inferInstanceAs (Decidable (_ ∨ _))

theorem threadOf_send {u : UDPConnection} {X : Side} :
    (threadOf getsockname u (.send X)).isSome = true ↔ Dynamic u.conn := by
  rw [threadOf_isSome]
  exact ⟨fun h => h X rfl, fun h _ _ => h⟩

/-- The connection as the relay of one connection has it. -/
def relayConnection (c : Connection) : UDPRelay.UDPConnection :=
  ⟨c.entityA_ip.toUTF8.toList, c.entityA_port, c.entityB_ip.toUTF8.toList, c.entityB_port⟩

theorem threadOf_served (u : UDPConnection) (w : Socket) :
    (threadOf getsockname u w).isSome = true ↔ UDPRelay.Served (relayConnection u.conn) w := by
  cases w with
  | recv X => exact ⟨fun _ => trivial, fun _ => rfl⟩
  | send X => exact threadOf_send

/-- Who reads the sockets in `sock_to_connection_`, and what becomes of an answer to a sending
    socket that has a reader. -/
structure Readable (getsockname : ℤ → Option ℤ) (attempts : List Attempt) : Prop where
  mapped : ∀ fd u, (buildFromConnections attempts).sockToConnection fd = some u →
    u ∈ complete attempts ∧ ∃ w, fd = u.sock w
  recv : ∀ u ∈ complete attempts, ∀ X,
    readers (threads getsockname attempts) (u.sock (.recv X)) = 1
  send : ∀ u ∈ complete attempts, ∀ X,
    readers (threads getsockname attempts) (u.sock (.send X)) = if Dynamic u.conn then 1 else 0
  answered : PortsReported getsockname attempts → (∀ u ∈ complete attempts, ProxyPorts u.conn) →
    ∀ es s, Runs (step (threads getsockname attempts)) anyStep initial es s →
    (∀ e ∈ es, e.data ≠ []) → ∀ u ∈ complete attempts, Dynamic u.conn → ∀ X, ∃ i,
      ∀ data : Bytes, data ≠ [] → step (threads getsockname attempts) s ⟨i, data⟩ =
        some { s with log := s.log ++ [⟨u.sock (.send X),
          some (u.sock (.recv X.other), (entityEnd u.conn X.other).ip)⟩] }

/-- Every receiving socket has one reader; a sending socket has one exactly when a port of its
    connection is dynamic, and the answers it gets then go on to the opposite entity. -/
theorem sockets_readable (getsockname : ℤ → Option ℤ) (attempts : List Attempt)
    (distinct : DistinctSockets attempts) : Readable getsockname attempts := by
  refine ⟨(build_built distinct).only, ?_, ?_, ?_⟩
  · intro u member X
    rw [readers_eq distinct member, threadOf, Option.isSome_some, if_pos rfl]
  · intro u member X
    simp only [readers_eq distinct member, threadOf_send]
  · intro reported ports es s run full u member dynamic X
    have answering : (threadOf getsockname u (.send X)).isSome = true :=
      threadOf_send.mpr dynamic
    obtain ⟨t, ht⟩ := Option.isSome_iff_exists.mp answering
    obtain ⟨i, lt, at'⟩ := List.getElem_of_mem
      ((mem_threads distinct).mpr ⟨u, member, _, ht⟩)
    refine ⟨i, fun data some => ?_⟩
    have open' := ((run_right distinct reported ports run).2 full).1
    have buffer : data.take 4096 ≠ [] := by simpa using some
    rw [step, List.getElem?_eq_getElem lt, at']
    simp only [open', List.not_mem_nil, if_false, buffer]
    rw [threadOf_target distinct reported member (ports u member) ht, (threadOf_sock ht).1]
    rfl

theorem boundAndUnbound_readable : Readable boundPort boundAndUnbound ∧
    PortsReported boundPort boundAndUnbound ∧
      ∀ u ∈ complete boundAndUnbound, ProxyPorts u.conn :=
  ⟨sockets_readable boundPort boundAndUnbound (by decide), boundAndUnbound_reported,
    boundAndUnbound_ports⟩

def fixedPorts : List Attempt :=
  [⟨⟨"10.0.0.2", 5000, 20000, 20001, "10.0.0.3", 6000, 20002, 20003⟩,
    bound 4, bound 5, bound 6, bound 7⟩]

/-- The socket that the proxy sends to B from is in the map, and no thread reads it. -/
theorem fixedPorts_unread : (∀ a ∈ fixedPorts, ∀ w, 0 ≤ a.sock w) ∧
    ((buildFromConnections fixedPorts).sockToConnection 5).isSome = true ∧
      readers (threads boundPort fixedPorts) 5 = 0 := by
  refine ⟨?_, by decide +kernel, by decide +kernel⟩
  intro a member
  rw [fixedPorts, List.mem_singleton] at member
  subst member
  rintro ((_ | _) | (_ | _)) <;> decide

end Cezfuzzer.UDPReaders
