import Mathlib.Data.Sym.Sym2
import Cezfuzzer.RedirectionInjector

set_option autoImplicit false

/-!
# The connections are the topology

After both injectors, every edge between a non-fuzzer entity and one of its destinations has
one connection, whichever end it was listed at, and all proxy ports are different.
-/
namespace Cezfuzzer.InjectedTopology
open CommanderConfig RedirectionInjector FirstSeen

/-- The two endpoints of a connection, in no order. -/
def endpointPair (c : Connection) : Sym2 Endpoint := s((ends c).1, (ends c).2)

theorem pairKey_eq_iff (l l' : Endpoint × Endpoint) :
    pairKey l = pairKey l' ↔ s(l.1, l.2) = s(l'.1, l'.2) := by
  rw [pairKey, pairKey, sortedPair_eq_iff, Sym2.eq_iff]

/-- The fuzzer entity's share of a configuration after the injectors. -/
structure Covers (config : List Entity) (connections : List Connection)
    (redirections : List TCPRedirection) : Prop where
  once : ∀ X ∈ config, ¬ X.isFuzzer → ∀ d ∈ X.targets, ∃ x y, X.endpoint = some x ∧
    d.endpoint = some y ∧ connections.countP (fun c => endpointPair c = s(x, y)) = 1
  origin : ∀ c ∈ connections, ∃ X ∈ config, ¬ X.isFuzzer ∧ X.endpoint = some (ends c).1 ∧
    ∃ d ∈ X.targets, d.endpoint = some (ends c).2
  distinct : (connections.flatMap proxyPorts ++
    redirections.map TCPRedirection.proxy_port).Nodup
  range : ∀ p ∈ connections.flatMap proxyPorts ++ redirections.map TCPRedirection.proxy_port,
    20000 ≤ p ∧ p ≤ 60000

theorem injected_once {config : List Entity} {connections : List Connection}
    (injected : Injected config connections) {link : Endpoint × Endpoint}
    (member : link ∈ links config) :
    connections.countP (fun c => endpointPair c = s(link.1, link.2)) = 1 := by
  have keys : (connections.map (fun c => pairKey (ends c))) =
      (firstSeen pairKey [] (links config)).map pairKey := by
    rw [← injected.ends, List.map_map]
    rfl
  have kept : pairKey link ∈ connections.map (fun c => pairKey (ends c)) := by
    rw [keys]
    exact (key_kept [] member).resolve_left (by simp)
  have once := List.count_eq_one_of_mem (keys ▸ keys_nodup pairKey [] (links config)) kept
  rw [List.count_eq_countP, List.countP_map] at once
  rw [← once]
  apply List.countP_congr
  intro c _
  rw [decide_eq_true_iff, Function.comp_apply, beq_iff_eq, pairKey_eq_iff]
  rfl

theorem injected_origin {config : List Entity} {connections : List Connection}
    (injected : Injected config connections) {c : Connection} (member : c ∈ connections) :
    ends c ∈ links config := by
  have : ends c ∈ firstSeen pairKey [] (links config) :=
    injected.ends ▸ List.mem_map_of_mem member
  exact mem_of_mem_firstSeen this

/-- Whatever random numbers are drawn, the injectors cover the topology exactly. -/
theorem injectors_cover (config config₁ config₂ : List Entity) (draws draws₁ draws₂ : List Draw)
    (udp : injectFuzzerRedirections config draws = .ok (config₁, draws₁))
    (tcp : injectTCPRedirections config₁ draws₁ = .ok (config₂, draws₂)) :
    ∃ fuzzer connections redirections, getFuzzer config₂ = some fuzzer ∧
      fuzzer.connections = some connections ∧ fuzzer.tcp_redirections = some redirections ∧
      Covers config connections redirections := by
  obtain ⟨fuzzer, connections, found, injected, rfl⟩ := injectFuzzerRedirections_spec udp
  obtain ⟨fuzzer₁, redirections, found₁, redirected, rfl⟩ := injectTCPRedirections_spec tcp
  have first : getFuzzer (updateFuzzer (Entity.withConnections connections) config) =
      some (fuzzer.withConnections connections) := by
    rw [getFuzzer_update (withConnections_role connections), found, Option.map_some]
  obtain rfl := Option.some.inj (first.symm.trans found₁)
  have last : getFuzzer (updateFuzzer (Entity.withTCPRedirections redirections)
      (updateFuzzer (Entity.withConnections connections) config)) =
      some ((fuzzer.withConnections connections).withTCPRedirections redirections) := by
    rw [getFuzzer_update (withTCPRedirections_role redirections), first, Option.map_some]
  refine ⟨_, connections, redirections, last, rfl, rfl, ?_, ?_, ?_, ?_⟩
  · intro X member other d hd
    obtain ⟨⟨x, hx⟩, all⟩ := injected.located X member other
    obtain ⟨y, hy⟩ := all d hd
    have link : (x, y) ∈ links config := mem_links.mpr ⟨X, member, other, hx, d, hd, hy⟩
    exact ⟨x, y, hx, hy, injected_once injected link⟩
  · intro c member
    exact mem_links.mp (injected_origin injected member)
  · exact redirected.nodup injected.nodup
  · intro p member
    rcases List.mem_append.mp member with member | member
    · exact injected.range p member
    · exact redirected.range p member

/-- Two peers that name each other, one of them itself as well, and a TCP server. -/
def peersAndServer : List Entity :=
  [entity "a" "hybrid" "10.0.0.2" 5000 [⟨some "10.0.0.3", some (-1)⟩],
    entity "b" "hybrid" "10.0.0.3" (-1)
      [⟨some "10.0.0.2", some 5000⟩, ⟨some "10.0.0.3", some (-1)⟩],
    { entity "s" "server" "10.0.0.4" 9000 [] with protocol := some (.str "TCP") },
    entity "fuzzer" "fuzzer" "10.0.0.5" 0 []]

theorem peersAndServer_covered : ∃ fuzzer connections redirections config draws,
    injectBoth peersAndServer someDraws = .ok (config, draws) ∧
      getFuzzer config = some fuzzer ∧ fuzzer.connections = some connections ∧
      fuzzer.tcp_redirections = some redirections ∧
      Covers peersAndServer connections redirections := by
  obtain ⟨⟨config₂, draws₂⟩, h⟩ := isOk_eq_ok (injectBoth peersAndServer someDraws)
    (by decide +kernel)
  obtain ⟨config₁, draws₁, udp, tcp⟩ := injectBoth_eq_ok.mp h
  obtain ⟨fuzzer, connections, redirections, covered⟩ :=
    injectors_cover peersAndServer config₁ config₂ someDraws draws₁ draws₂ udp tcp
  exact ⟨fuzzer, connections, redirections, config₂, draws₂, h, covered⟩

end Cezfuzzer.InjectedTopology
