import Mathlib.Data.List.Find
import Mathlib.Data.List.Pairwise
import Cezfuzzer.DockerBuild
import Cezfuzzer.RedirectionInjector
import Cezfuzzer.UDPHandlerSockets

set_option autoImplicit false

/-!
# From a UDP packet to its target

The first rule that matches a packet of a fuzzed entity, and what the proxy does with a datagram
that it receives on the port of that rule.
-/
namespace Cezfuzzer.UDPRedirection
open CommanderConfig RedirectionInjector DockerBuild FirstSeen UDPHandlerSockets
open UDPRelay (Side Socket)

/-- `recv_port` belongs to a side of a connection, and `recvThreadEntry` forwards what comes in
    there to `d`. -/
def ForwardsTo (connections : List Connection) (recv_port : ℤ) (d : Endpoint) : Prop :=
  ∃ c ∈ connections, ∃ X : Side, proxyPort c (.recv X) = recv_port ∧
    ∀ u : UDPConnection, u.conn = c → u.recv_sock_from_entityA ≠ u.recv_sock_from_entityB →
      (Thread.recv (u.sock (.recv X)) u).target = some (u.sock (.send X.other), d)

theorem recv_target {u : UDPConnection} (X : Side)
    (apart : u.recv_sock_from_entityA ≠ u.recv_sock_from_entityB) :
    (Thread.recv (u.sock (.recv X)) u).target =
      some (u.sock (.send X.other), entityEnd u.conn X.other) := by
  cases X with
  | A => exact if_pos rfl
  | B => exact (if_neg apart.symm).trans (if_pos rfl)

theorem forwardsTo_iff {connections : List Connection} {recv_port : ℤ} {d : Endpoint} :
    ForwardsTo connections recv_port d ↔ ∃ c ∈ connections, ∃ X : Side,
      proxyPort c (.recv X) = recv_port ∧ entityEnd c X.other = d := by
  refine exists_congr fun c => and_congr_right fun _ => exists_congr fun X =>
    and_congr_right fun _ => ⟨fun h => ?_, ?_⟩
  · have own := h ⟨c, 3, 4, 5, 6⟩ rfl (by simp)
    rw [recv_target X (by simp)] at own
    exact (Prod.mk.inj (Option.some.inj own)).2
  · rintro rfl u rfl apart
    exact recv_target X apart

def FuzzedUDP (X : Entity) : Prop := Redirectable X ∧ X.protocolLower = .ok "udp"

instance (X : Entity) : Decidable (FuzzedUDP X) := inferInstanceAs (Decidable (_ ∧ _))

def destinationsOf (X : Entity) : List Endpoint := X.targets.filterMap Target.endpoint

/-- A port of a packet for the destination `d` of `X`: the port of `d`, or, if that is dynamic,
    a port that no destination of `X` with this IP has. -/
def Addressed (X : Entity) (d : Endpoint) (port : UInt16) : Prop :=
  d.port = port.toNat ∨ d.port = -1 ∧ ⟨d.ip, port.toNat⟩ ∉ destinationsOf X

/-- The packet gets to the fuzzer, and from there to `d`. -/
def Delivers (config : List Entity) (X : Entity) (d : Endpoint) (port : UInt16) : Prop :=
  ∃ fuzzer connections lines rule, getFuzzer config = some fuzzer ∧
    fuzzer.connections = some connections ∧ generateDockerfile X config = .ok lines ∧
    firstMatch lines ⟨.udp, d.ip, port⟩ = some rule ∧ some rule.toIP = fuzzer.ip ∧
    ForwardsTo connections rule.toPort d

def Redirects (config : List Entity) : Prop :=
  ∀ X ∈ config, FuzzedUDP X → ∀ d ∈ destinationsOf X, ∀ port, Addressed X d port →
    Delivers config X d port

/-- The peers of `x` in a link: a destination of its own, and an entity that names the IP of
    `x` with its port or a dynamic one. -/
def peersOf (x : Endpoint) (link : Endpoint × Endpoint) : List Endpoint :=
  (if link.1 = x then [link.2] else []) ++
  (if link.2.ip = x.ip ∧ (x.port = -1 ∨ link.2.port = x.port ∨ link.2.port = -1)
    then [link.1] else [])

def peers (config : List Entity) (x : Endpoint) : List Endpoint :=
  (links config).flatMap (peersOf x)

def IsPort (port : ℤ) : Prop := 0 ≤ port ∧ port < 65536

instance (port : ℤ) : Decidable (IsPort port) := inferInstanceAs (Decidable (_ ∧ _))

/-- There is a packet for the destination `d` of `X` that is one for its peer `q` as well. -/
def Shadows (X : Entity) (q d : Endpoint) : Prop :=
  q.ip = d.ip ∧ (q.port = -1 ∧ IsPort d.port ∨
    d.port = -1 ∧ IsPort q.port ∧ q ∉ destinationsOf X)

instance (X : Entity) (q d : Endpoint) : Decidable (Shadows X q d) :=
  inferInstanceAs (Decidable (_ ∧ _))

/-- No destination comes after a peer that shadows it. -/
def Unshadowed (config : List Entity) : Prop :=
  ∀ X ∈ config, FuzzedUDP X → ∀ x ∈ X.endpoint, ∀ d ∈ destinationsOf X, ∀ q ∈ peers config x,
    (peers config x).idxOf q < (peers config x).idxOf d → ¬ Shadows X q d

instance (config : List Entity) : Decidable (Unshadowed config) :=
  inferInstanceAs (Decidable (∀ X ∈ config, _))

def DistinctIPs (config : List Entity) : Prop :=
  (∀ e ∈ config, e.ip.isSome) ∧ (config.map Entity.ip).Nodup

instance (config : List Entity) : Decidable (DistinctIPs config) :=
  inferInstanceAs (Decidable (_ ∧ _))

/-- The packets that a rule for the peer `q` matches, among those to `ip` and `port`. -/
def takes (ip : String) (port : UInt16) (q : Endpoint) : Bool :=
  q.ip = ip && (q.port = -1 || q.port = port.toNat)

def rulePeer (r : DnatRule) : Endpoint := ⟨r.destination, r.dport.getD (-1)⟩

theorem mem_connectionRules {ip : Option String} {port : ℤ} {fuzzer_ip : String}
    {c : Connection} {r : DnatRule} (h : r ∈ connectionRules ip port fuzzer_ip c) :
    ∃ X : Side, r = ⟨.udp, (entityEnd c X.other).ip, dportCond (entityEnd c X.other).port,
      fuzzer_ip, proxyPort c (.recv X)⟩ := by
  rcases List.mem_append.mp h with h | h
  · split at h
    · exact ⟨.A, List.mem_singleton.mp h⟩
    · cases h
  · split at h
    · exact ⟨.B, List.mem_singleton.mp h⟩
    · cases h

theorem dportCond_getD (port : ℤ) : (dportCond port).getD (-1) = port := by
  unfold dportCond
  split
  · rfl
  · rename_i dynamic
    exact (not_not.mp dynamic).symm

theorem covers_eq_takes {ip : Option String} {port : ℤ} {fuzzer_ip : String} {c : Connection}
    {r : DnatRule} (h : r ∈ connectionRules ip port fuzzer_ip c) (dst : String)
    (dport : UInt16) : r.covers ⟨.udp, dst, dport⟩ = takes dst dport (rulePeer r) := by
  obtain ⟨X, rfl⟩ := mem_connectionRules h
  rw [Bool.eq_iff_iff]
  by_cases dynamic : (entityEnd c X.other).port = -1
  · simp [DnatRule.covers, takes, rulePeer, dportCond, dynamic]
  · simp [DnatRule.covers, takes, rulePeer, dportCond, dynamic]

/-- Under distinct IPs, only the entity itself is linked under its IP. -/
theorem source_eq {config : List Entity} (distinct : DistinctIPs config) {X : Entity}
    (member : X ∈ config) {x : Endpoint} (hx : X.endpoint = some x)
    {link : Endpoint × Endpoint} (linked : link ∈ links config) (same : link.1.ip = x.ip) :
    link.1 = x := by
  obtain ⟨Y, hY, -, src, -⟩ := mem_links.mp linked
  have ips : Y.ip = X.ip := by
    rw [(entity_endpoint.mp src).1, (entity_endpoint.mp hx).1, same]
  obtain rfl := List.inj_on_of_nodup_map distinct.2 hY member ips
  exact Option.some.inj (src.symm.trans hx)

theorem connectionRules_peers {config : List Entity} (distinct : DistinctIPs config) {X : Entity}
    (member : X ∈ config) {x : Endpoint} (hx : X.endpoint = some x) (fuzzer_ip : String)
    {c : Connection} (linked : ends c ∈ links config) :
    (connectionRules X.ip (X.port.getD (-1)) fuzzer_ip c).map rulePeer = peersOf x (ends c) := by
  obtain ⟨ip, port⟩ := entity_endpoint.mp hx
  have caseA : caseEntityA X.ip (X.port.getD (-1)) c ↔ (ends c).1 = x := by
    rw [caseEntityA, ip, port, Option.some.injEq, Option.getD_some]
    constructor
    · intro h
      exact source_eq distinct member hx linked h.1
    · intro h
      exact ⟨congrArg Endpoint.ip h, Or.inr (congrArg Endpoint.port h)⟩
  have caseB : caseEntityB X.ip (X.port.getD (-1)) c ↔ (ends c).2.ip = x.ip ∧
      (x.port = -1 ∨ (ends c).2.port = x.port ∨ (ends c).2.port = -1) := by
    rw [caseEntityB, ip, port, Option.some.injEq, Option.getD_some]
    rfl
  rw [connectionRules, peersOf, List.map_append]
  congr 1
  · by_cases h : (ends c).1 = x
    · rw [if_pos h, if_pos (caseA.mpr h), List.map_singleton, rulePeer, dportCond_getD]
      rfl
    · rw [if_neg h, if_neg (caseA.not.mpr h), List.map_nil]
  · simp only [caseB]
    split
    · rw [List.map_singleton, rulePeer, dportCond_getD]
      rfl
    · rfl

theorem peersOf_subset {config : List Entity} (distinct : DistinctIPs config) {X : Entity}
    (member : X ∈ config) {x : Endpoint} (hx : X.endpoint = some x)
    {a b : Endpoint × Endpoint} (linked : a ∈ links config) (same : pairKey a = pairKey b) :
    peersOf x b ⊆ peersOf x a := by
  rcases (sortedPair_eq_iff _ _ _ _).mp same with ⟨h₁, h₂⟩ | ⟨h₁, h₂⟩
  · rw [Prod.ext h₁ h₂]
    exact List.Subset.refl _
  · intro q hq
    rcases List.mem_append.mp hq with hq | hq
    · split at hq
      · rename_i own
        obtain rfl := List.mem_singleton.mp hq
        refine List.mem_append_right _ ?_
        rw [if_pos (by rw [h₂, own]; simp)]
        exact List.mem_singleton.mpr h₁.symm
      · cases hq
    · split at hq
      · rename_i named
        obtain rfl := List.mem_singleton.mp hq
        refine List.mem_append_left _ ?_
        rw [if_pos (source_eq distinct member hx linked (h₁ ▸ named.1))]
        exact List.mem_singleton.mpr h₂.symm
      · cases hq

/-- Deduplication does not change which peer is the first that takes a packet. -/
theorem find_peers {config : List Entity} (distinct : DistinctIPs config) {X : Entity}
    (member : X ∈ config) {x : Endpoint} (hx : X.endpoint = some x) (p : Endpoint → Bool) :
    ((firstSeen pairKey [] (links config)).flatMap (peersOf x)).find? p =
      (peers config x).find? p := by
  apply find_flatMap_firstSeen
  intro a linked b _ same none
  rw [List.find?_eq_none] at none ⊢
  intro q hq
  exact none q (peersOf_subset distinct member hx linked same hq)

theorem proxyPort_mem (c : Connection) (w : Socket) : proxyPort c w ∈ proxyPorts c := by
  rcases w with (_ | _) | (_ | _) <;> simp [proxyPorts, proxyPort]

theorem proxyPort_inj {connections : List Connection}
    (nodup : (connections.flatMap proxyPorts).Nodup) {c c' : Connection}
    (hc : c ∈ connections) (hc' : c' ∈ connections) {w w' : Socket}
    (same : proxyPort c w = proxyPort c' w') : c = c' ∧ w = w' := by
  obtain ⟨own, apart⟩ := List.nodup_flatMap.mp nodup
  have eq : c = c' := by
    by_contra ne
    have : Std.Symm (Function.onFun List.Disjoint proxyPorts) := ⟨fun _ _ h => List.disjoint_symm h⟩
    exact apart.forall hc hc' ne (proxyPort_mem c w) (same ▸ proxyPort_mem c' w')
  subst eq
  refine ⟨rfl, ?_⟩
  have := own c hc
  simp only [proxyPorts, List.nodup_cons, List.mem_cons, List.not_mem_nil, or_false, not_or] at this
  rcases w with (_ | _) | (_ | _) <;> rcases w' with (_ | _) | (_ | _) <;>
    simp_all [proxyPort]

theorem firstMatch_iff {config : List Entity} {connections : List Connection}
    (injected : Injected config connections) (distinct : DistinctIPs config) {X : Entity}
    (member : X ∈ config) {x : Endpoint} (hx : X.endpoint = some x) {fuzzer_ip : String}
    {lines : List Line} (rules : dnatRules lines =
      connections.flatMap (connectionRules X.ip (X.port.getD (-1)) fuzzer_ip))
    (d : Endpoint) (port : UInt16) :
    (∃ rule, firstMatch lines ⟨.udp, d.ip, port⟩ = some rule ∧ some rule.toIP = some fuzzer_ip ∧
      ForwardsTo connections rule.toPort d) ↔
      (peers config x).find? (takes d.ip port) = some d := by
  have linked : ∀ c ∈ connections, ends c ∈ links config := fun c hc =>
    mem_of_mem_firstSeen (injected.ends ▸ List.mem_map_of_mem hc)
  have image : (dnatRules lines).map rulePeer =
      (firstSeen pairKey [] (links config)).flatMap (peersOf x) := by
    rw [rules, ← injected.ends, List.map_flatMap, List.flatMap_map]
    exact List.flatMap_congr fun c hc =>
      connectionRules_peers distinct member hx fuzzer_ip (linked c hc)
  have first : (peers config x).find? (takes d.ip port) =
      (firstMatch lines ⟨.udp, d.ip, port⟩).map rulePeer := by
    rw [← find_peers distinct member hx, ← image, List.find?_map, firstMatch]
    congr 1
    rw [rules]
    apply List.find?_congr
    intro r hr
    obtain ⟨c, -, hr⟩ := List.mem_flatMap.mp hr
    exact (covers_eq_takes hr d.ip port).symm
  rw [first, Option.map_eq_some_iff]
  refine exists_congr fun rule => and_congr_right fun found => ?_
  have own := List.mem_of_find?_eq_some found
  rw [rules] at own
  obtain ⟨c, hc, hr⟩ := List.mem_flatMap.mp own
  obtain ⟨X, rfl⟩ := mem_connectionRules hr
  simp only [rulePeer, dportCond_getD, forwardsTo_iff, true_and]
  constructor
  · rintro ⟨c', hc', X', samePort, rfl⟩
    obtain ⟨rfl, same⟩ := proxyPort_inj injected.nodup hc' hc samePort
    cases same
    rfl
  · rintro rfl
    exact ⟨c, hc, X, rfl, rfl⟩

theorem destination_peer {config : List Entity} {X : Entity} (member : X ∈ config)
    (other : ¬ X.isFuzzer) {x : Endpoint} (hx : X.endpoint = some x) {d : Endpoint}
    (hd : d ∈ destinationsOf X) : d ∈ peers config x := by
  obtain ⟨t, ht, hd⟩ := List.mem_filterMap.mp hd
  refine List.mem_flatMap.mpr ⟨(x, d), mem_links.mpr ⟨X, member, other, hx, t, ht, hd⟩, ?_⟩
  exact List.mem_append_left _ (by rw [if_pos rfl]; exact List.mem_singleton_self d)

theorem takes_iff {ip : String} {port : UInt16} {q : Endpoint} :
    takes ip port q = true ↔ q.ip = ip ∧ (q.port = -1 ∨ q.port = port.toNat) := by
  simp [takes]

theorem isPort_iff {port : ℤ} : IsPort port ↔ ∃ p : UInt16, port = p.toNat := by
  constructor
  · rintro ⟨low, high⟩
    refine ⟨UInt16.ofNat port.toNat, ?_⟩
    rw [UInt16.toNat_ofNat']
    omega
  · rintro ⟨p, rfl⟩
    exact ⟨by omega, by exact_mod_cast p.toNat_lt⟩

theorem takes_of_addressed {X : Entity} {d : Endpoint} {port : UInt16}
    (addressed : Addressed X d port) : takes d.ip port d = true := by
  rcases addressed with h | h
  · exact takes_iff.mpr ⟨rfl, Or.inr h⟩
  · exact takes_iff.mpr ⟨rfl, Or.inl h.1⟩

theorem shadows_iff {X : Entity} {q d : Endpoint} (ne : q ≠ d) :
    Shadows X q d ↔ ∃ port, Addressed X d port ∧ takes d.ip port q = true := by
  simp only [takes_iff]
  constructor
  · rintro ⟨ip, ⟨dynamic, fixed⟩ | ⟨dynamic, fixed, free⟩⟩
    · obtain ⟨port, h⟩ := isPort_iff.mp fixed
      exact ⟨port, Or.inl h, ip, Or.inl dynamic⟩
    · obtain ⟨port, h⟩ := isPort_iff.mp fixed
      have eq : (⟨d.ip, port.toNat⟩ : Endpoint) = q := Endpoint.ext ip.symm h.symm
      exact ⟨port, Or.inr ⟨dynamic, eq ▸ free⟩, ip, Or.inr h⟩
  · rintro ⟨port, h | ⟨dynamic, free⟩, ip, dynamic' | h'⟩
    · exact ⟨ip, Or.inl ⟨dynamic', isPort_iff.mpr ⟨port, h⟩⟩⟩
    · exact absurd (Endpoint.ext ip (h'.trans h.symm)) ne
    · exact absurd (Endpoint.ext ip (dynamic'.trans dynamic.symm)) ne
    · have eq : (⟨d.ip, port.toNat⟩ : Endpoint) = q := Endpoint.ext ip.symm h'.symm
      exact ⟨ip, Or.inr ⟨dynamic, isPort_iff.mpr ⟨port, h'⟩, eq ▸ free⟩⟩

theorem delivers_iff {config config' : List Entity} {draws draws' : List Draw}
    (distinct : DistinctIPs config)
    (inject : injectFuzzerRedirections config draws = .ok (config', draws')) {X : Entity}
    (member : X ∈ config) (fuzzed : FuzzedUDP X) {x : Endpoint} (hx : X.endpoint = some x)
    (d : Endpoint) (port : UInt16) :
    Delivers config' X d port ↔ (peers config x).find? (takes d.ip port) = some d := by
  obtain ⟨fuzzer, connections, found, injected, rfl⟩ := injectFuzzerRedirections_spec inject
  have found' : getFuzzer (updateFuzzer (Entity.withConnections connections) config) =
      some (fuzzer.withConnections connections) := by
    rw [getFuzzer_update (withConnections_role connections), found, Option.map_some]
  obtain ⟨fuzzer_ip, located⟩ := Option.isSome_iff_exists.mp
    (distinct.1 fuzzer (List.mem_of_find?_eq_some found))
  have given : (fuzzer.withConnections connections).connections = some connections := rfl
  obtain ⟨lines, hlines, rules⟩ :=
    generateDockerfile_udp fuzzed.1 fuzzed.2 found' given located
  rw [← firstMatch_iff injected distinct member hx rules d port]
  constructor
  · rintro ⟨f, cs, ls, rule, hf, hcs, hls, first, ip, forwards⟩
    obtain rfl := Option.some.inj (found'.symm.trans hf)
    obtain rfl := Option.some.inj hcs
    cases hlines.symm.trans hls
    exact ⟨rule, first, ip.trans located, forwards⟩
  · rintro ⟨rule, first, ip, forwards⟩
    exact ⟨_, _, lines, rule, found', rfl, hlines, first, ip.trans located.symm, forwards⟩

theorem mem_injected {config config' : List Entity} {draws draws' : List Draw}
    (inject : injectFuzzerRedirections config draws = .ok (config', draws')) {X : Entity}
    (other : ¬ X.isFuzzer) : X ∈ config' ↔ X ∈ config := by
  obtain ⟨-, connections, -, -, rfl⟩ := injectFuzzerRedirections_spec inject
  exact mem_update (withConnections_role connections) other

theorem located_injected {config config' : List Entity} {draws draws' : List Draw}
    (inject : injectFuzzerRedirections config draws = .ok (config', draws')) {X : Entity}
    (member : X ∈ config) (other : ¬ X.isFuzzer) : ∃ x, X.endpoint = some x := by
  obtain ⟨fuzzer, connections, -, injected, -⟩ := injectFuzzerRedirections_spec inject
  exact (injected.located X member other).1

/-- The redirection is right exactly when no rule for a destination comes after one that takes
    packets of it. -/
theorem redirects_iff_unshadowed (config config' : List Entity) (draws draws' : List Draw)
    (distinct : DistinctIPs config)
    (inject : injectFuzzerRedirections config draws = .ok (config', draws')) :
    Redirects config' ↔ Unshadowed config := by
  constructor
  · intro redirects X member fuzzed x hx d hd q hq earlier shadows
    have ne : q ≠ d := by
      rintro rfl
      exact lt_irrefl _ earlier
    obtain ⟨port, addressed, took⟩ := (shadows_iff ne).mp shadows
    have delivered := redirects X ((mem_injected inject fuzzed.1.1).mpr member) fuzzed d hd port
      addressed
    have first := (delivers_iff distinct inject member fuzzed hx d port).mp delivered
    have free := (find_eq_some_iff_idxOf.mp first).2.2 q hq earlier
    rw [took] at free
    cases free
  · intro unshadowed X member fuzzed d hd port addressed
    have member := (mem_injected inject fuzzed.1.1).mp member
    obtain ⟨x, hx⟩ := located_injected inject member fuzzed.1.1
    refine (delivers_iff distinct inject member fuzzed hx d port).mpr
      (find_eq_some_iff_idxOf.mpr ⟨destination_peer member fuzzed.1.1 hx hd,
        takes_of_addressed addressed, ?_⟩)
    intro q hq earlier
    by_contra took
    have ne : q ≠ d := by
      rintro rfl
      exact lt_irrefl _ earlier
    exact unshadowed X member fuzzed x hx d hd q hq earlier
      ((shadows_iff ne).mpr ⟨port, addressed, by simpa using took⟩)

/-- A client of a host that it reaches on port 5000 and on ports that nobody knows. -/
def oneHost (targets : List Target) : List Entity :=
  [entity "client" "client" "10.0.0.2" 6000 targets, entity "host" "server" "10.0.0.3" (-1) [],
    entity "fuzzer" "fuzzer" "10.0.0.4" 0 []]

def fixedFirst : List Entity :=
  oneHost [⟨some "10.0.0.3", some 5000⟩, ⟨some "10.0.0.3", some (-1)⟩]

def dynamicFirst : List Entity :=
  oneHost [⟨some "10.0.0.3", some (-1)⟩, ⟨some "10.0.0.3", some 5000⟩]

theorem fixedFirst_redirected : ∃ config draws,
    injectFuzzerRedirections fixedFirst someDraws = .ok (config, draws) ∧ Redirects config := by
  obtain ⟨⟨config, draws⟩, h⟩ := isOk_eq_ok (injectFuzzerRedirections fixedFirst someDraws)
    (by decide +kernel)
  refine ⟨config, draws, h, ?_⟩
  exact (redirects_iff_unshadowed fixedFirst config someDraws draws (by decide +kernel) h).mpr
    (by decide +kernel)

theorem dynamicFirst_not_redirected : ∃ config draws,
    injectFuzzerRedirections dynamicFirst someDraws = .ok (config, draws) ∧
      ¬ Redirects config := by
  obtain ⟨⟨config, draws⟩, h⟩ := isOk_eq_ok
    (injectFuzzerRedirections dynamicFirst someDraws) (by decide +kernel)
  refine ⟨config, draws, h, fun redirects => ?_⟩
  have member : entity "client" "client" "10.0.0.2" 6000
      [⟨some "10.0.0.3", some (-1)⟩, ⟨some "10.0.0.3", some 5000⟩] ∈ dynamicFirst := by
    exact List.mem_cons_self
  have fuzzed : FuzzedUDP (entity "client" "client" "10.0.0.2" 6000
      [⟨some "10.0.0.3", some (-1)⟩, ⟨some "10.0.0.3", some 5000⟩]) := by decide +kernel
  have delivered := redirects _ ((mem_injected h fuzzed.1.1).mpr member) fuzzed
    ⟨"10.0.0.3", 5000⟩ (by decide +kernel) 5000 (Or.inl rfl)
  have first := (delivers_iff (by decide +kernel) h member fuzzed
    (x := ⟨"10.0.0.2", 6000⟩) rfl ⟨"10.0.0.3", 5000⟩ 5000).mp delivered
  revert first
  decide +kernel

end Cezfuzzer.UDPRedirection
