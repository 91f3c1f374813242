import Cezfuzzer.InjectedTopology
import Cezfuzzer.TCPRedirections

set_option autoImplicit false

/-!
# What the proxy reads of what the commander has written

The commander dumps the fuzzer's two lists into the file, and the proxy parses the whole file.
Neither injection makes a file unreadable, and the handlers get what was injected.
-/
namespace Cezfuzzer.InjectedFile
open CommanderConfig RedirectionInjector FirstSeen ConfigurationManager
open TCPRedirections (ofInt_toNat)
open InjectedTopology (injected_origin)

/-- The fuzzer as both injectors leave it. -/
def written (connections : List Connection) (redirections : List TCPRedirection) (e : Entity) :
    Entity := (e.withConnections connections).withTCPRedirections redirections

/-- The file without what the injectors overwrite. -/
def cleared (config : List Entity) : List Entity := updateFuzzer (written [] []) config

/-- A redirection as the proxy holds it. -/
structure SameRedirection (r : TCPRedirection) (r' : ProxyRedirection) : Prop where
  server_ip : r'.server_ip = r.server_ip
  proxy_port : (r'.proxy_port.toNat : ℤ) = r.proxy_port
  server_port : 0 ≤ r.server_port → r.server_port ≤ 65535 →
    (r'.server_port.toNat : ℤ) = r.server_port

variable {config config' : List Entity} {draws draws' : List Draw}
  {connections : List Connection} {redirections : List TCPRedirection} {e : Entity}

theorem update_update {f g : Entity → Entity} (same : ∀ e, (f e).role = e.role) :
    updateFuzzer g (updateFuzzer f config) = updateFuzzer (fun e => g (f e)) config := by
  induction config with
  | nil => rfl
  | cons e config ih =>
    by_cases fuzzer : e.isFuzzer
    · have : (f e).isFuzzer := (same e).trans fuzzer
      simp [updateFuzzer, fuzzer, this]
    · simp only [updateFuzzer, fuzzer, if_false, ih]

/-- Two updates that a property does not tell apart. -/
theorem forall_update {f g : Entity → Entity} {P : Entity → Prop}
    (same : ∀ e ∈ config, P (f e) ↔ P (g e)) :
    (∀ e ∈ updateFuzzer f config, P e) ↔ ∀ e ∈ updateFuzzer g config, P e := by
  induction config with
  | nil => simp [updateFuzzer]
  | cons e config ih =>
    by_cases fuzzer : e.isFuzzer
    · simp only [updateFuzzer, fuzzer, if_true, List.forall_mem_cons, same e List.mem_cons_self]
    · simp only [updateFuzzer, fuzzer, if_false, List.forall_mem_cons]
      rw [ih fun e member => same e (List.mem_cons_of_mem _ member)]

theorem injected_written (inject : injectBoth config draws = .ok (config', draws')) :
    ∃ fuzzer connections redirections used, getFuzzer config = some fuzzer ∧
      Injected config connections ∧ Redirected config used redirections ∧
      config' = updateFuzzer (written connections redirections) config := by
  obtain ⟨config₁, draws₁, udp, tcp⟩ := injectBoth_eq_ok.mp inject
  obtain ⟨fuzzer, connections, found, injected, rfl⟩ := injectFuzzerRedirections_spec udp
  obtain ⟨fuzzer₁, redirections, -, redirected, rfl⟩ := injectTCPRedirections_spec tcp
  refine ⟨fuzzer, connections, redirections, _, found, injected, ⟨?_, redirected.nodup,
    redirected.range⟩, update_update (withConnections_role connections)⟩
  rw [redirected.ends, servers_update (withConnections_role connections)]

theorem readable_written : ReadableEntity (written connections redirections e) ↔
    ReadableEntity (written [] [] e) ∧ (∀ c ∈ connections, ReadableConnection c) ∧
      ∀ r ∈ redirections, ReadableRedirection r := by
  constructor
  · rintro ⟨role, protocol, ip, port, fuzzed, path, exec, destinations, connect_to, cs, rs⟩
    exact ⟨⟨role, protocol, ip, port, fuzzed, path, exec, destinations, connect_to,
      by simp [written, Entity.withConnections, Entity.withTCPRedirections],
      by simp [written, Entity.withTCPRedirections]⟩, cs, rs⟩
  · rintro ⟨⟨role, protocol, ip, port, fuzzed, path, exec, destinations, connect_to, -, -⟩, cs, rs⟩
    exact ⟨role, protocol, ip, port, fuzzed, path, exec, destinations, connect_to, cs, rs⟩

section
variable (readable : ∀ e ∈ config, ¬ e.isFuzzer → ReadableEntity e)
include readable

/-- The ports of an injected connection are those of entities and destinations of the file. -/
theorem connections_readable (injected : Injected config connections) {c : Connection}
    (member : c ∈ connections) : ReadableConnection c := by
  obtain ⟨X, hX, other, src, d, hd, dst⟩ := mem_links.mp (injected_origin injected member)
  have own := readable X hX other
  obtain ⟨port, given, portA⟩ := own.port
  obtain ⟨-, port', given', portB⟩ := own.destinations d hd
  have src := (entity_endpoint.mp src).2
  have dst := (target_endpoint.mp dst).2
  obtain rfl : port = c.entityA_port := Option.some.inj (given.symm.trans src)
  obtain rfl : port' = c.entityB_port := Option.some.inj (given'.symm.trans dst)
  have drawn : ∀ p ∈ proxyPorts c, IsInt p := by
    intro p hp
    have := injected.range p (List.mem_flatMap.mpr ⟨c, member, hp⟩)
    exact ⟨by omega, by omega⟩
  simp only [proxyPorts, List.forall_mem_cons] at drawn
  exact ⟨portA, drawn.1, drawn.2.1, portB, drawn.2.2.1, drawn.2.2.2.1⟩

theorem redirections_readable {used : List ℤ} (redirected : Redirected config used redirections)
    {r : TCPRedirection} (member : r ∈ redirections) : ReadableRedirection r := by
  have server : serverEnd r ∈ servers config := by
    have listed : serverEnd r ∈ redirections.map serverEnd := List.mem_map_of_mem member
    rw [redirected.ends] at listed
    exact mem_of_mem_firstSeen listed
  obtain ⟨X, hX, own⟩ := List.mem_flatMap.mp server
  unfold serverOf at own
  split at own
  · rename_i role
    have other : ¬ X.isFuzzer := by
      rw [Entity.isFuzzer, role.1, Option.some.injEq]
      decide
    obtain ⟨port, given, int⟩ := (readable X hX other).port
    have same := congrArg Endpoint.port (List.mem_singleton.mp own)
    rw [Option.mem_def.mp given] at same
    have drawn := redirected.range _ (List.mem_map_of_mem member)
    refine ⟨?_, by omega, by omega⟩
    change IsInt (serverEnd r).port
    rw [same]
    exact int
  · cases own

end

theorem written_role (connections : List Connection) (redirections : List TCPRedirection)
    (e : Entity) : (written connections redirections e).role = e.role := rfl

/-- A file can be read after the injections exactly when it could before, without the lists that
    they overwrite. -/
theorem readable_injected {used : List ℤ} (injected : Injected config connections)
    (redirected : Redirected config used redirections) :
    (∀ e ∈ updateFuzzer (written connections redirections) config, ReadableEntity e) ↔
      ∀ e ∈ cleared config, ReadableEntity e := by
  have others : ∀ {cs rs}, (∀ e ∈ updateFuzzer (written cs rs) config, ReadableEntity e) →
      ∀ e ∈ config, ¬ e.isFuzzer → ReadableEntity e := by
    intro cs rs all e member other
    exact all e ((mem_update (written_role cs rs) other).mpr member)
  have lists : (∀ e ∈ config, ¬ e.isFuzzer → ReadableEntity e) →
      ∀ e ∈ config, ReadableEntity (written connections redirections e) ↔
        ReadableEntity (written [] [] e) := by
    intro readable e _
    rw [readable_written, and_iff_left]
    exact ⟨fun c member => connections_readable readable injected member,
      fun r member => redirections_readable readable redirected member⟩
  exact ⟨fun all => (forall_update (lists (others all))).mp all,
    fun all => (forall_update (lists (others all))).mpr all⟩

theorem sameRedirection {used : List ℤ} (redirected : Redirected config used redirections)
    {r : TCPRedirection} (member : r ∈ redirections) {r' : ProxyRedirection}
    (parsed : parseRedirection r = some r') : SameRedirection r r' := by
  obtain ⟨-, rfl⟩ := parseRedirection_eq_some.mp parsed
  have drawn := redirected.range _ (List.mem_map_of_mem member)
  exact ⟨rfl, ofInt_toNat (by omega) (by omega), fun low high => ofInt_toNat low high⟩

theorem exists_update {f : Entity → Entity} {P : Entity → Prop} (same : ∀ e, P (f e) ↔ P e) :
    (∃ e ∈ updateFuzzer f config, P e) ↔ ∃ e ∈ config, P e := by
  induction config with
  | nil => rfl
  | cons e config ih =>
    by_cases fuzzer : e.isFuzzer
    · simp only [updateFuzzer, fuzzer, if_true, List.exists_mem_cons_iff, same e]
    · simp only [updateFuzzer, fuzzer, if_false, List.exists_mem_cons_iff, ih]

/-- The entities of one protocol, before and after the parsing. -/
theorem filter_protocol {es : List EntityConfig} {l : List Entity}
    (parsed : List.Forall₂ (fun e c => parseEntity e = some c) l es) (protocol : String) :
    (es.filter (·.protocol = protocol)).length > 0 ↔
      ∃ e ∈ l, asProtocol e.protocol = some protocol := by
  rw [gt_iff_lt, List.length_pos_iff_exists_mem]
  simp only [List.mem_filter, decide_eq_true_eq]
  induction parsed with
  | nil => simp
  | @cons e c l es first parsed ih =>
    have own := (parseEntity_parsed first).protocol
    simp only [List.exists_mem_cons_iff, own, Option.some.injEq, ih]

/-- The handlers that the proxy starts on a file, and what it starts them with. -/
structure Handed (config : List Entity) (connections : List Connection)
    (redirections : List TCPRedirection) (base : ProxyBase) : Prop where
  udp : base.udp_handler = if ∃ e ∈ config, asProtocol e.protocol = some "udp"
    then some connections else none
  tcp : (∃ e ∈ config, asProtocol e.protocol = some "tcp") → ∃ rs, base.tcp_handler = some rs ∧
    List.Forall₂ SameRedirection redirections rs
  no_tcp : (¬ ∃ e ∈ config, asProtocol e.protocol = some "tcp") → base.tcp_handler = none

theorem handed_of_parse {used : List ℤ} (redirected : Redirected config used redirections)
    {fuzzer : Entity} (found : getFuzzer config = some fuzzer) {es : List EntityConfig}
    (parsed : List.Forall₂ (fun e c => parseEntity e = some c)
      (updateFuzzer (written connections redirections) config) es) :
    Handed config connections redirections (startHandlers es) := by
  have found' : getFuzzer (updateFuzzer (written connections redirections) config) =
      some (written connections redirections fuzzer) := by
    rw [getFuzzer_update (written_role connections redirections), found, Option.map_some]
  obtain ⟨c, own, hc⟩ := parse_fuzzer parsed found'
  have fields := parseEntity_parsed hc
  have entities : ∀ protocol, (es.filter (·.protocol = protocol)).length > 0 ↔
      ∃ e ∈ config, asProtocol e.protocol = some protocol := by
    intro protocol
    rw [filter_protocol parsed]
    exact exists_update fun e => Iff.rfl
  refine ⟨?_, fun given => ?_, fun none => ?_⟩
  · have cs : c.connections = connections := parseConnections_eq fields.connections
    simp only [startHandlers, entities, own, Option.elim_some, cs]
  · refine ⟨c.tcp_redirections, ?_, ?_⟩
    · simp only [startHandlers, entities, own, Option.elim_some, given, if_true]
    · have all := mapM_eq_some_iff.mp fields.tcp_redirections
      refine (List.forall₂_iff_zip.mpr ⟨all.length_eq, fun {r r'} member => ?_⟩)
      exact sameRedirection redirected (List.of_mem_zip member).1
        ((List.forall₂_iff_zip.mp all).2 member)
  · simp only [startHandlers, entities, none, if_false]

/-- What the injectors write never keeps the proxy from reading the file, and the handlers get
    all of it, whatever the file held before and whatever ports are drawn. -/
theorem injected_reads_back (general : Option GeneralSection) (network : Option NetworkSection)
    (config config' : List Entity) (draws draws' : List Draw)
    (inject : injectBoth config draws = .ok (config', draws')) :
    ((proxyBase ⟨general, network, config'⟩).isSome = true ↔
      Readable ⟨general, network, cleared config⟩) ∧
    ∃ fuzzer connections redirections, getFuzzer config' = some fuzzer ∧
      fuzzer.connections = some connections ∧ fuzzer.tcp_redirections = some redirections ∧
      ∀ base, proxyBase ⟨general, network, config'⟩ = some base →
        Handed config connections redirections base := by
  obtain ⟨fuzzer, connections, redirections, used, found, injected, redirected, rfl⟩ :=
    injected_written inject
  refine ⟨?_, written connections redirections fuzzer, connections, redirections, ?_, rfl, rfl,
    fun base h => ?_⟩
  · rw [proxyBase, Option.isSome_map, parse_isSome]
    have entities := readable_injected injected redirected
    exact ⟨fun h => ⟨h.general, h.network, entities.mp h.entities⟩,
      fun h => ⟨h.general, h.network, entities.mpr h.entities⟩⟩
  · rw [getFuzzer_update (written_role connections redirections), found, Option.map_some]
  · obtain ⟨es, parsed, rfl⟩ := Option.map_eq_some_iff.mp h
    exact handed_of_parse redirected found (parse_entities parsed)

theorem clientAndServer_reads_back : ∃ config draws base connections redirections,
    injectBoth TCPRedirections.clientAndServer someDraws = .ok (config, draws) ∧
      proxyBase ⟨none, none, config⟩ = some base ∧
      Handed TCPRedirections.clientAndServer connections redirections base := by
  obtain ⟨⟨config, draws⟩, inject⟩ := isOk_eq_ok
    (injectBoth TCPRedirections.clientAndServer someDraws) (by decide +kernel)
  obtain ⟨reads, -, connections, redirections, -, -, -, handed⟩ :=
    injected_reads_back none none TCPRedirections.clientAndServer config someDraws draws inject
  have readable : Readable ⟨none, none, cleared TCPRedirections.clientAndServer⟩ :=
    parse_isSome.mp (by decide +kernel)
  obtain ⟨base, h⟩ := Option.isSome_iff_exists.mp (reads.mpr readable)
  exact ⟨config, draws, base, connections, redirections, inject, h, handed base h⟩

end Cezfuzzer.InjectedFile
