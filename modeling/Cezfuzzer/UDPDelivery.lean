import Cezfuzzer.TCPRedirections
import Cezfuzzer.UDPForwarding
import Cezfuzzer.UDPRedirection
import Cezfuzzer.UDPViews

set_option autoImplicit false

/-!
# From the injected connections to the datagrams that the proxy sends

The first rule that takes a packet of a fuzzed entity leads to one receiving socket of the
proxy. Its thread sends what it reads there, and nothing else, to the entity that the packet was
for, whatever the other threads do.
-/
namespace Cezfuzzer.UDPDelivery
open StepRuns LengthPrefix CommanderConfig RedirectionInjector DockerBuild FuzzerCore
open UDPHandlerSockets UDPReaders UDPRedirection UDPProxy UDPViews
open UDPRelay (Side Socket Datagram htons udpPayload inHand chosen received forwards)
open UDPForwarding (relayLoop)

variable {getsockname : ℤ → Option ℤ} {attempts : List Attempt} {u : UDPConnection} {s : State}
  {t : Thread} {w : Socket} {i : ℕ} {es : List Event}

def receivedBy (s : State) (t : Thread) : List Datagram :=
  s.log.filterMap (fun
    | .received t' d => if t' = t then some d else none
    | .sent _ _ => none)

def sentBy (s : State) (t : Thread) : List Sent :=
  s.log.filterMap (fun
    | .received _ _ => none
    | .sent t' x => if t' = t then some x else none)

theorem mem_sentBy {x : Sent} : x ∈ sentBy s t ↔ .sent t x ∈ s.log := by
  simp only [sentBy, List.mem_filterMap]
  constructor
  · rintro ⟨y, hy, same⟩
    cases y with
    | received t' d => cases same
    | sent t' x' =>
      obtain ⟨rfl, rfl⟩ : t' = t ∧ x' = x := by simpa using same
      exact hy
  · intro listed
    exact ⟨_, listed, by simp⟩

/-- A fixed port of the other side is the port that a thread chooses, and sends to. -/
structure FixedPort (conn : UDPRelay.UDPConnection) (r : UDPRelay.State) (w : Socket) : Prop where
  choice : ∀ port, chosen (r.thread w) = some port → port = conn.entityPort w.side.other
  sent : ∀ f ∈ forwards r.log w, f.port = htons (conn.entityPort w.side.other)

theorem fixedPort_move {conn : UDPRelay.UDPConnection} {r v : UDPRelay.State} {e : UDPRelay.Event}
    (fixed : conn.entityPort w.side.other ≠ -1) (before : FixedPort conn r w)
    (move : UDPRelay.Move conn r e v) : FixedPort conn v w := by
  obtain ⟨choice, sent⟩ := before
  have thread : ∀ (w₀ : Socket) (p : UDPRelay.Thread), (w₀ = w → ∀ port, chosen p = some port →
      port = conn.entityPort w.side.other) → ∀ port,
      chosen ((r.setThread w₀ p).thread w) = some port → port = conn.entityPort w.side.other := by
    intro w₀ p own port h
    by_cases same : w₀ = w
    · subst same
      rw [UDPRelay.setThread_self] at h
      exact own rfl port h
    · rw [UDPRelay.setThread_other r p (Ne.symm same)] at h
      exact choice port h
  cases move with
  | close w₀ d at' => exact ⟨thread w₀ _ (by simp [chosen]), sent⟩
  | recvfrom w₀ d at' =>
    refine ⟨thread w₀ _ (by simp [chosen]), fun f hf => sent f ?_⟩
    rwa [UDPRelay.forwards_received] at hf
  | choose w₀ d at' =>
    refine ⟨thread w₀ _ ?_, sent⟩
    rintro rfl port h
    rw [UDPRelay.chosen_afterChoice, UDPRelay.targetPort_fixed fixed] at h
    exact (Option.some.inj h).symm
  | push w₀ d port at' =>
    refine ⟨thread w₀ _ ?_, sent⟩
    rintro rfl port' h
    exact choice port' (by rw [at']; exact h)
  | sendFails w₀ call d port at' => exact ⟨thread w₀ _ (by simp [chosen]), sent⟩
  | sendto w₀ call d port at' =>
    refine ⟨thread w₀ _ (by simp [chosen]), fun f hf => ?_⟩
    rw [UDPRelay.forwards_snoc] at hf
    rcases List.mem_append.mp hf with hf | hf
    · exact sent f hf
    · split at hf
      · rename_i own
        obtain rfl := List.mem_singleton.mp hf
        obtain rfl : w₀ = w := own
        exact congrArg htons (choice port (by rw [at']; rfl))
      · cases hf

theorem run_fixedPort {conn : UDPRelay.UDPConnection} {es : List UDPRelay.Event}
    {r : UDPRelay.State} (fixed : conn.entityPort w.side.other ≠ -1)
    (run : Runs (UDPRelay.step conn) anyStep UDPRelay.initial es r) : FixedPort conn r w := by
  refine run.state_invariant (fun r => FixedPort conn r w) ⟨by simp [UDPRelay.initial, chosen],
    by simp [UDPRelay.initial, forwards]⟩ ?_
  intro v e v' before _ h
  exact fixedPort_move fixed before (UDPRelay.step_move h)

theorem relayLoop_sent {arrivals : List (Datagram × FuzzCall)}
    (running : (relayLoop arrivals).running = true) :
    (relayLoop arrivals).sent = arrivals.map (fun x => udpPayload x.2 x.1.buffer) := by
  induction arrivals with
  | nil => rfl
  | cons x rest ih =>
    obtain ⟨d, call⟩ := x
    by_cases empty : d.buffer = []
    · simp [relayLoop, empty] at running
    · simp only [relayLoop, empty, if_false] at running ⊢
      rw [ih running, List.map_cons]

/-- A socket has one thread. -/
theorem thread_unique (distinct : DistinctSockets attempts)
    (member : t ∈ threads getsockname attempts) (own : socketOf u t = some w) {t' : Thread}
    (member' : t' ∈ threads getsockname attempts) : socketOf u t' = some w ↔ t' = t := by
  constructor
  · intro own'
    obtain ⟨i, at'⟩ := List.mem_iff_getElem?.mp member
    obtain ⟨j, there⟩ := List.mem_iff_getElem?.mp member'
    have started := (socketOf_place distinct at' own).2
    rw [(socketOf_place distinct there own').2] at started
    exact Option.some.inj started
  · rintro rfl
    exact own

theorem received_view (distinct : DistinctSockets attempts)
    (accounted : ∀ x ∈ s.log, Accounted (threads getsockname attempts) x)
    (member : t ∈ threads getsockname attempts) (own : socketOf u t = some w) :
    received (view (threads getsockname attempts) u s).log w = receivedBy s t := by
  change List.filterMap _ (List.filterMap _ _) = _
  rw [List.filterMap_filterMap]
  refine List.filterMap_congr fun x listed => ?_
  cases x with
  | received t' d =>
    have unique := thread_unique distinct member own (accounted _ listed)
    by_cases same : t' = t
    · simp [entryOf, same, own]
    · simp only [entryOf, if_neg same]
      cases h : socketOf u t' with
      | none => rfl
      | some w' =>
        have other : w' ≠ w := fun eq => same (unique.mp (eq ▸ h))
        simp [other]
  | sent t' x =>
    rw [entryOf]
    cases socketOf u t' with
    | none => rfl
    | some w' => cases h : socketAt u x.fd <;> simp

/-- What the relay shows of something that a thread has sent. -/
def forward (w sock : Socket) (x : Sent) : UDPRelay.Forward :=
  ⟨w, sock, x.ip.toUTF8.toList, x.port, x.payload⟩

theorem forwards_view (distinct : DistinctSockets attempts)
    (accounted : ∀ x ∈ s.log, Accounted (threads getsockname attempts) x)
    (member : t ∈ threads getsockname attempts) (own : socketOf u t = some w)
    (through : ∀ x ∈ sentBy s t, socketAt u x.fd = some w.forwardSock) :
    forwards (view (threads getsockname attempts) u s).log w =
      (sentBy s t).map (forward w w.forwardSock) := by
  change List.filterMap _ (List.filterMap _ _) = _
  rw [List.filterMap_filterMap, sentBy, List.map_filterMap]
  refine List.filterMap_congr fun x listed => ?_
  cases x with
  | received t' d =>
    rw [entryOf]
    cases socketOf u t' <;> rfl
  | sent t' x =>
    have unique := thread_unique distinct member own (accounted _ listed).1
    by_cases same : t' = t
    · subst same
      simp [entryOf, own, through x (mem_sentBy.mpr listed), forward]
    · simp only [entryOf, if_neg same]
      cases h : socketOf u t' with
      | none => rfl
      | some w' =>
        have other : w' ≠ w := fun eq => same (unique.mp (eq ▸ h))
        cases socketAt u x.fd <;> simp [other]

/-- The thread sends all that it is done with, in order, and sends it to `d`; of what it has read,
    at most one datagram is still in hand. -/
structure Serves (s : State) (i : ℕ) (t : Thread) (d : Endpoint) (port : UInt16) : Prop where
  goal : ∀ x ∈ sentBy s t, x.ip = d.ip ∧ (d.port ≠ -1 → x.port = port)
  sent : ∃ arrivals : List (Datagram × FuzzCall),
    receivedBy s t = arrivals.map Prod.fst ++ (inHand (s.phase i)).toList ∧
    ((∀ fd dst, t.target = some (fd, dst) → fd ∉ s.closed) →
      (sentBy s t).map Sent.payload = arrivals.map (fun x => udpPayload x.2 x.1.buffer))

theorem serves_of_run (distinct : DistinctSockets attempts)
    (reported : PortsReported getsockname attempts)
    (ports : ∀ u ∈ complete attempts, ProxyPorts u.conn)
    (run : Runs (step (threads getsockname attempts)) anyStep initial es s)
    (at' : (threads getsockname attempts)[i]? = some t) (own : socketOf u t = some w)
    {port : UInt16} (addressed : (entityEnd u.conn w.side.other).port ≠ -1 →
      (entityEnd u.conn w.side.other).port = port.toNat) :
    Serves s i t (entityEnd u.conn w.side.other) port := by
  obtain ⟨member, started⟩ := socketOf_place distinct at' own
  have listed := List.mem_of_getElem? at'
  have target := threadOf_target distinct reported member (ports u member) started
  have accounted := run_accounted run
  have shut : Shut (threads getsockname attempts) s :=
    run.state_invariant _ (shut_initial _) fun _ _ _ shut _ h => shut_step shut h
  have relay := run_view distinct reported ports (u := u) run
  have sentTo : ∀ x ∈ sentBy s t, x.fd = u.sock w.forwardSock ∧
      x.ip = (entityEnd u.conn w.side.other).ip := by
    intro x hx
    obtain ⟨-, dst, there, ip⟩ := accounted _ (mem_sentBy.mp hx)
    rw [target] at there
    obtain ⟨fd, rfl⟩ := Prod.mk.inj (Option.some.inj there)
    exact ⟨fd.symm, ip⟩
  have through : ∀ x ∈ sentBy s t, socketAt u x.fd = some w.forwardSock := by
    intro x hx
    rw [(sentTo x hx).1]
    exact socketAt_sock distinct member _
  have sends := forwards_view distinct accounted listed own through
  refine ⟨fun x hx => ⟨(sentTo x hx).2, fun fixed => ?_⟩, ?_⟩
  · have entity := entityPort_relay u.conn w.side.other
    have fixedPort := (run_fixedPort (w := w) (by rwa [entity]) relay).sent
      (forward w w.forwardSock x) (sends ▸ List.mem_map_of_mem hx)
    rw [entity, addressed fixed] at fixedPort
    refine fixedPort.trans ?_
    exact UDPRelay.htons_src_port ⟨[], port⟩
  · obtain ⟨-, arrivals, running, taken, forwarded⟩ := UDPForwarding.run_follows relay w
    rw [received_view distinct accounted listed own] at taken
    have phase : (view (threads getsockname attempts) u s).thread w = s.phase i :=
      phaseOf_own distinct at' own s.phase
    rw [phase] at taken
    refine ⟨arrivals, taken, fun there => ?_⟩
    have still := there _ _ target
    rw [shut_iff distinct member shut] at still
    have payloads := forwarded still
    rw [sends, List.map_map, relayLoop_sent running] at payloads
    exact payloads

/-- The fuzzer's connections as both injectors leave them. -/
theorem injected_connections {config config' : List Entity} {draws draws' : List Draw}
    (inject : injectBoth config draws = .ok (config', draws')) : ∃ fuzzer₀ fuzzer connections,
      getFuzzer config = some fuzzer₀ ∧ getFuzzer config' = some fuzzer ∧
      fuzzer.ip = fuzzer₀.ip ∧ fuzzer.connections = some connections ∧
      Injected config connections := by
  obtain ⟨config₁, draws₁, udp, tcp⟩ := injectBoth_eq_ok.mp inject
  obtain ⟨fuzzer, connections, found, injected, rfl⟩ := injectFuzzerRedirections_spec udp
  obtain ⟨-, redirections, -, -, rfl⟩ := injectTCPRedirections_spec tcp
  refine ⟨fuzzer, (fuzzer.withConnections connections).withTCPRedirections redirections,
    connections, found, ?_, rfl, rfl, injected⟩
  rw [getFuzzer_update (withTCPRedirections_role redirections),
    getFuzzer_update (withConnections_role connections), found]
  rfl

theorem proxyPorts_injected {config : List Entity} {connections : List Connection}
    (injected : Injected config connections) {c : Connection} (member : c ∈ connections) :
    ProxyPorts c :=
  ⟨fun w => injected.range _ (List.mem_flatMap.mpr ⟨c, member, proxyPort_mem c w⟩),
    fun _ _ same => (proxyPort_inj injected.nodup member member same).2⟩

theorem complete_conn (member : u ∈ complete attempts) : u.conn ∈ attempts.map Attempt.conn := by
  obtain ⟨a, ha, connection⟩ := List.mem_filterMap.mp member
  rw [(connection_some connection).1]
  exact List.mem_map_of_mem ha

/-- An unshadowed destination is the first peer that takes its own packets. -/
theorem first_of_unshadowed {config : List Entity} (unshadowed : Unshadowed config) {X : Entity}
    (member : X ∈ config) (fuzzed : FuzzedUDP X) {x : Endpoint} (hx : X.endpoint = some x)
    {d : Endpoint} (named : d ∈ destinationsOf X) {port : UInt16}
    (addressed : Addressed X d port) : (peers config x).find? (takes d.ip port) = some d := by
  refine FirstSeen.find_eq_some_iff_idxOf.mpr ⟨destination_peer member fuzzed.1.1 hx named,
    takes_of_addressed addressed, fun q hq earlier => ?_⟩
  by_contra took
  have ne : q ≠ d := by
    rintro rfl
    exact lt_irrefl _ earlier
  exact unshadowed X member fuzzed x hx d named q hq earlier
    ((shadows_iff ne).mpr ⟨port, addressed, by simpa using took⟩)

/-- The proxy port is where the one receiving socket is bound that the rule leads to. -/
theorem place_of_port {config : List Entity} {connections : List Connection}
    (injected : Injected config connections) (built : attempts.map Attempt.conn = connections)
    (reported : PortsReported getsockname attempts) {d : Endpoint} {port : ℤ}
    (forwards : ForwardsTo connections port d) (member : u ∈ complete attempts)
    (sock : getsockname (u.sock w) = some port) : entityEnd u.conn w.side.other = d := by
  obtain ⟨c, hc, X, samePort, rfl⟩ := forwardsTo_iff.mp forwards
  have conn : u.conn ∈ connections := built ▸ complete_conn member
  have range := (proxyPorts_injected injected conn).range w
  rw [reported u member, htons_toNat (by omega) (by omega), Option.some.injEq, ← samePort] at sock
  obtain ⟨rfl, rfl⟩ := proxyPort_inj injected.nodup conn hc sock
  rfl

theorem datagrams_delivered (config config' : List Entity) (draws draws' : List Draw)
    (distinct : DistinctIPs config) (unshadowed : Unshadowed config)
    (inject : injectBoth config draws = .ok (config', draws')) (X : Entity)
    (member : X ∈ config) (fuzzed : FuzzedUDP X) (d : Endpoint) (named : d ∈ destinationsOf X)
    (port : UInt16) (addressed : Addressed X d port) :
    ∃ fuzzer connections lines rule, getFuzzer config' = some fuzzer ∧
      fuzzer.connections = some connections ∧ generateDockerfile X config' = .ok lines ∧
      firstMatch lines ⟨.udp, d.ip, port⟩ = some rule ∧ some rule.toIP = fuzzer.ip ∧
      ∀ getsockname attempts, attempts.map Attempt.conn = connections →
        DistinctSockets attempts → PortsReported getsockname attempts →
        ((∀ a ∈ attempts, a.connection.isSome = true) →
          ∃ t ∈ threads getsockname attempts, getsockname t.sock = some rule.toPort) ∧
        ∀ es s, Runs (step (threads getsockname attempts)) anyStep initial es s →
          ∀ i t, (threads getsockname attempts)[i]? = some t →
            getsockname t.sock = some rule.toPort → Serves s i t d port := by
  obtain ⟨fuzzer₀, fuzzer, connections, found₀, found, sameIP, given, injected⟩ :=
    injected_connections inject
  obtain ⟨fuzzer_ip, located₀⟩ := Option.isSome_iff_exists.mp
    (distinct.1 fuzzer₀ (List.mem_of_find?_eq_some found₀))
  have located : fuzzer.ip = some fuzzer_ip := sameIP.trans located₀
  obtain ⟨x, hx⟩ := (injected.located X member fuzzed.1.1).1
  obtain ⟨lines, script, rules⟩ := generateDockerfile_udp fuzzed.1 fuzzed.2 found given located
  obtain ⟨rule, first, ip, forwards⟩ := (firstMatch_iff injected distinct member hx rules d
    port).mpr (first_of_unshadowed unshadowed member fuzzed hx named addressed)
  refine ⟨fuzzer, connections, lines, rule, found, given, script, first, ip.trans located.symm,
    fun getsockname attempts built sockets reported => ⟨fun whole => ?_, ?_⟩⟩
  · obtain ⟨c, hc, X, samePort, -⟩ := forwardsTo_iff.mp forwards
    rw [← built] at hc
    obtain ⟨a, ha, rfl⟩ := List.mem_map.mp hc
    obtain ⟨u, connection⟩ := Option.isSome_iff_exists.mp (whole a ha)
    have hu : u ∈ complete attempts := List.mem_filterMap.mpr ⟨a, ha, connection⟩
    have conn := (connection_some connection).1
    have range := (proxyPorts_injected injected (built ▸ List.mem_map_of_mem ha)).range (.recv X)
    refine ⟨_, (mem_threads sockets).mpr ⟨u, hu, .recv X, rfl⟩, ?_⟩
    change getsockname (u.sock (.recv X)) = _
    rw [reported u hu, conn, htons_toNat (by omega) (by omega), samePort]
  · intro es s run i t at' bound
    obtain ⟨u, hu, w, started, own⟩ := thread_place sockets at'
    rw [(threadOf_sock started).1] at bound
    obtain rfl := place_of_port injected built reported forwards hu bound
    refine serves_of_run sockets reported (fun v hv => proxyPorts_injected injected
      (built ▸ complete_conn hv)) run at' own fun fixed => ?_
    exact addressed.resolve_right fun dynamic => fixed dynamic.1

theorem fixedFirst_delivered : ∃ config draws fuzzer connections lines rule,
    injectBoth fixedFirst someDraws = .ok (config, draws) ∧ getFuzzer config = some fuzzer ∧
      fuzzer.connections = some connections ∧
      firstMatch lines ⟨.udp, "10.0.0.3", 5000⟩ = some rule ∧
      ∀ getsockname attempts, attempts.map Attempt.conn = connections →
        DistinctSockets attempts → PortsReported getsockname attempts →
        ∀ es s, Runs (step (threads getsockname attempts)) anyStep initial es s →
          ∀ i t, (threads getsockname attempts)[i]? = some t →
            getsockname t.sock = some rule.toPort → Serves s i t ⟨"10.0.0.3", 5000⟩ 5000 := by
  obtain ⟨⟨config, draws⟩, inject⟩ := isOk_eq_ok (injectBoth fixedFirst someDraws)
    (by decide +kernel)
  obtain ⟨fuzzer, connections, lines, rule, found, given, -, first, -, served⟩ :=
    datagrams_delivered fixedFirst config someDraws draws (by decide +kernel) (by decide +kernel)
      inject (entity "client" "client" "10.0.0.2" 6000
        [⟨some "10.0.0.3", some 5000⟩, ⟨some "10.0.0.3", some (-1)⟩]) List.mem_cons_self
      (by decide +kernel) ⟨"10.0.0.3", 5000⟩ (by decide +kernel) 5000 (Or.inl rfl)
  exact ⟨config, draws, fuzzer, connections, lines, rule, inject, found, given, first,
    fun getsockname attempts built sockets reported =>
      (served getsockname attempts built sockets reported).2⟩

end Cezfuzzer.UDPDelivery
