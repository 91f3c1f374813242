import Cezfuzzer.ConfigurationManager
import Cezfuzzer.UDPRedirection

set_option autoImplicit false

/-!
# The protocol of an entity in both programs

The commander writes rules for an entity by its protocol in any letter case, and by `udp` if it
has none. The proxy starts a handler for a protocol that is written as it is.
-/
namespace Cezfuzzer.ProxyProtocols
open CommanderConfig DockerBuild ConfigurationManager UDPRedirection
open UDPHandlerSockets (proxyPort)

/-- The proxy puts the entity among its UDP entities, and a UDP handler has the port of the
    rule. -/
def OpensUDP (config : ConfigFile) (e : Entity) (rule : DnatRule) : Prop :=
  ∃ proxy connections, proxyBase config = some proxy ∧
    (∃ c ∈ proxy.udp_entities, parseEntity e = some c) ∧
    proxy.udp_handler = some connections ∧
    ∃ c ∈ connections, ∃ X, proxyPort c (.recv X) = rule.toPort

def OpensTCP (config : ConfigFile) (e : Entity) (rule : DnatRule) : Prop :=
  ∃ proxy redirections, proxyBase config = some proxy ∧
    (∃ c ∈ proxy.tcp_entities, parseEntity e = some c) ∧
    proxy.tcp_handler = some redirections ∧
    ∃ r ∈ redirections, r.proxy_port = UInt16.ofInt rule.toPort

/-- No rule leads to a port that nobody opens. -/
def Agrees (config : ConfigFile) : Prop :=
  ∀ e ∈ config.entities, ∀ lines, generateDockerfile e config.entities = .ok lines →
    ∀ rule ∈ dnatRules lines,
      (rule.protocol = .udp → OpensUDP config e rule) ∧
      (rule.protocol = .tcp → OpensTCP config e rule)

/-- The commander writes a UDP rule for `e`. -/
structure GivenUDPRules (config : List Entity) (e : Entity) : Prop where
  redirectable : Redirectable e
  protocol : e.protocolLower = .ok "udp"
  connected : ∃ fuzzer connections c, getFuzzer config = some fuzzer ∧ fuzzer.ip.isSome ∧
    fuzzer.connections = some connections ∧ c ∈ connections ∧
    (caseEntityA e.ip (e.port.getD (-1)) c ∨ caseEntityB e.ip (e.port.getD (-1)) c)

/-- The commander writes a TCP rule for `e`. -/
structure GivenTCPRule (config : List Entity) (e : Entity) : Prop where
  redirectable : Redirectable e
  protocol : e.protocolLower = .ok "tcp"
  connected : ∃ fuzzer d fuzzer_ip r, getFuzzer config = some fuzzer ∧
    TCPMatch e fuzzer d fuzzer_ip r

/-- The proxy can read the file, and an entity with a rule has its protocol in lower case. -/
def Spelled (config : ConfigFile) : Prop :=
  ∀ e ∈ config.entities,
    (GivenUDPRules config.entities e → Readable config ∧ e.protocol = some (.str "udp")) ∧
    (GivenTCPRule config.entities e → Readable config ∧ e.protocol = some (.str "tcp"))

theorem origin_udp {config : List Entity} {e : Entity} {rule : DnatRule}
    (redirectable : Redirectable e) (origin : Origin config e rule) (udp : rule.protocol = .udp) :
    GivenUDPRules config e ∧ ∃ fuzzer connections, getFuzzer config = some fuzzer ∧
      fuzzer.connections = some connections ∧
      ∃ c ∈ connections, ∃ X, proxyPort c (.recv X) = rule.toPort := by
  cases origin with
  | tcp _ _ _ _ _ _ _ eq =>
    rw [eq] at udp
    cases udp
  | udp fuzzer connections c fuzzer_ip protocol found given located member own =>
    obtain ⟨X, eq⟩ := mem_connectionRules own
    refine ⟨⟨redirectable, protocol, fuzzer, connections, c, found, by simp [located], given,
      member, ?_⟩, fuzzer, connections, found, given, c, member, X, by rw [eq]⟩
    rcases List.mem_append.mp own with own | own
    · split at own
      · exact Or.inl ‹_›
      · cases own
    · split at own
      · exact Or.inr ‹_›
      · cases own

theorem origin_tcp {config : List Entity} {e : Entity} {rule : DnatRule}
    (redirectable : Redirectable e) (origin : Origin config e rule) (tcp : rule.protocol = .tcp) :
    GivenTCPRule config e ∧ ∃ fuzzer, getFuzzer config = some fuzzer ∧
      ∃ r ∈ fuzzer.tcp_redirections.getD [], r.proxy_port = rule.toPort := by
  cases origin with
  | tcp fuzzer d fuzzer_ip r protocol found matching eq =>
    refine ⟨⟨redirectable, protocol, fuzzer, d, fuzzer_ip, r, found, matching⟩, fuzzer, found, r,
      List.mem_of_find?_eq_some matching.found, by rw [eq]⟩
  | udp fuzzer connections c fuzzer_ip protocol found given located member own =>
    obtain ⟨X, eq⟩ := mem_connectionRules own
    rw [eq] at tcp
    cases tcp

theorem given_udp {config : List Entity} {e : Entity} (given : GivenUDPRules config e) :
    ∃ lines, generateDockerfile e config = .ok lines ∧
      ∃ rule ∈ dnatRules lines, rule.protocol = .udp := by
  obtain ⟨fuzzer, connections, c, found, located, present, member, applies⟩ := given.connected
  obtain ⟨fuzzer_ip, located⟩ := Option.isSome_iff_exists.mp located
  obtain ⟨lines, hlines, rules⟩ := generateDockerfile_udp given.redirectable given.protocol found
    present located
  refine ⟨lines, hlines, ?_⟩
  have nonempty : connectionRules e.ip (e.port.getD (-1)) fuzzer_ip c ≠ [] := by
    rcases applies with h | h <;> simp [connectionRules, h]
  obtain ⟨rule, own⟩ := List.exists_mem_of_ne_nil _ nonempty
  obtain ⟨X, eq⟩ := mem_connectionRules own
  exact ⟨rule, rules ▸ List.mem_flatMap.mpr ⟨c, member, own⟩, by rw [eq]⟩

theorem given_tcp {config : List Entity} {e : Entity} (given : GivenTCPRule config e) :
    ∃ lines, generateDockerfile e config = .ok lines ∧
      ∃ rule ∈ dnatRules lines, rule.protocol = .tcp := by
  obtain ⟨fuzzer, d, fuzzer_ip, r, found, matching⟩ := given.connected
  refine ⟨_, generateDockerfile_tcp given.redirectable given.protocol found, ?_⟩
  rw [generateTcp_rules matching]
  exact ⟨_, List.mem_singleton_self _, rfl⟩

/-- A protocol that both programs read as the same word is written as this word. -/
theorem protocol_eq {e : Entity} {word : String} (named : word ≠ "")
    (lower : e.protocolLower = .ok word) (exact : asProtocol e.protocol = some word) :
    e.protocol = some (.str word) := by
  cases h : e.protocol with
  | none =>
    rw [h] at exact
    exact absurd (Option.some.inj exact).symm named
  | some scalar =>
    cases scalar with
    | str text =>
      rw [h] at exact
      rw [Option.some.inj exact]
    | other text =>
      rw [Entity.protocolLower, h] at lower
      cases lower

theorem opened_readable {config : ConfigFile} {proxy : ProxyBase}
    (h : proxyBase config = some proxy) : Readable config ∧ ∃ es, parse config = some es ∧
      proxy = startHandlers es := by
  obtain ⟨es, hes, rfl⟩ := Option.map_eq_some_iff.mp h
  exact ⟨parse_isSome.mp (by simp [hes]), es, hes, rfl⟩

theorem given_opens_udp {config : ConfigFile} {e : Entity} (member : e ∈ config.entities)
    (readable : Readable config) (spelled : e.protocol = some (.str "udp")) {fuzzer : Entity}
    {connections : List Connection} {rule : DnatRule}
    (found : getFuzzer config.entities = some fuzzer)
    (given : fuzzer.connections = some connections)
    (port : ∃ c ∈ connections, ∃ X, proxyPort c (.recv X) = rule.toPort) :
    OpensUDP config e rule := by
  obtain ⟨es, hes⟩ := Option.isSome_iff_exists.mp (parse_isSome.mpr readable)
  obtain ⟨c, hc, parsed⟩ := exists_of_mem (parse_entities hes) member
  obtain ⟨f, hf, parsedFuzzer⟩ := parse_fuzzer (parse_entities hes) found
  have protocol := (parseEntity_parsed parsed).protocol
  rw [spelled] at protocol
  have own : c ∈ es.filter (·.protocol = "udp") :=
    List.mem_filter.mpr ⟨hc, by simp [(Option.some.inj protocol).symm]⟩
  have same := (parseEntity_parsed parsedFuzzer).connections
  rw [given, Option.getD_some] at same
  refine ⟨startHandlers es, connections, by rw [proxyBase, hes]; rfl, ⟨c, own, parsed⟩, ?_, port⟩
  rw [startHandlers]
  simp only [if_pos (List.length_pos_of_mem own), hf, Option.elim_some,
    parseConnections_eq same]

theorem given_opens_tcp {config : ConfigFile} {e : Entity} (member : e ∈ config.entities)
    (readable : Readable config) (spelled : e.protocol = some (.str "tcp")) {fuzzer : Entity}
    {rule : DnatRule} (found : getFuzzer config.entities = some fuzzer)
    (port : ∃ r ∈ fuzzer.tcp_redirections.getD [], r.proxy_port = rule.toPort) :
    OpensTCP config e rule := by
  obtain ⟨es, hes⟩ := Option.isSome_iff_exists.mp (parse_isSome.mpr readable)
  obtain ⟨c, hc, parsed⟩ := exists_of_mem (parse_entities hes) member
  obtain ⟨f, hf, parsedFuzzer⟩ := parse_fuzzer (parse_entities hes) found
  have protocol := (parseEntity_parsed parsed).protocol
  rw [spelled] at protocol
  have own : c ∈ es.filter (·.protocol = "tcp") :=
    List.mem_filter.mpr ⟨hc, by simp [(Option.some.inj protocol).symm]⟩
  obtain ⟨r, hr, samePort⟩ := port
  obtain ⟨r', hr', parsedRedirection⟩ := exists_of_mem
    (mapM_eq_some_iff.mp (parseEntity_parsed parsedFuzzer).tcp_redirections) hr
  refine ⟨startHandlers es, f.tcp_redirections, by rw [proxyBase, hes]; rfl, ⟨c, own, parsed⟩, ?_,
    r', hr', ?_⟩
  · rw [startHandlers]
    simp only [if_pos (List.length_pos_of_mem own), hf, Option.elim_some]
  · rw [(parseRedirection_eq_some.mp parsedRedirection).2, samePort]

/-- The two programs agree exactly when every entity with a rule spells its protocol as the
    proxy does. -/
theorem agrees_iff_spelled (config : ConfigFile) : Agrees config ↔ Spelled config := by
  constructor
  · intro agrees e member
    constructor
    · intro given
      obtain ⟨lines, hlines, rule, hrule, udp⟩ := given_udp given
      obtain ⟨proxy, _, started, ⟨c, hc, parsed⟩, -⟩ :=
        (agrees e member lines hlines rule hrule).1 udp
      obtain ⟨readable, es, -, rfl⟩ := opened_readable started
      have exact := (parseEntity_parsed parsed).protocol
      rw [of_decide_eq_true (List.mem_filter.mp hc).2] at exact
      exact ⟨readable, protocol_eq (by decide) given.protocol exact⟩
    · intro given
      obtain ⟨lines, hlines, rule, hrule, tcp⟩ := given_tcp given
      obtain ⟨proxy, _, started, ⟨c, hc, parsed⟩, -⟩ :=
        (agrees e member lines hlines rule hrule).2 tcp
      obtain ⟨readable, es, -, rfl⟩ := opened_readable started
      have exact := (parseEntity_parsed parsed).protocol
      rw [of_decide_eq_true (List.mem_filter.mp hc).2] at exact
      exact ⟨readable, protocol_eq (by decide) given.protocol exact⟩
  · intro spelled e member lines hlines rule hrule
    obtain ⟨redirectable, origin⟩ := generateDockerfile_origin hlines hrule
    constructor
    · intro udp
      obtain ⟨given, fuzzer, connections, found, present, port⟩ :=
        origin_udp redirectable origin udp
      obtain ⟨readable, word⟩ := (spelled e member).1 given
      exact given_opens_udp member readable word found present port
    · intro tcp
      obtain ⟨given, fuzzer, found, port⟩ := origin_tcp redirectable origin tcp
      obtain ⟨readable, word⟩ := (spelled e member).2 given
      exact given_opens_tcp member readable word found port

/-- Two peers, one in capital letters and one with no protocol at all. -/
def otherSpellings : ConfigFile :=
  ⟨none, none,
    [{ entity "a" "hybrid" "10.0.0.2" 5000 [⟨some "10.0.0.3", some 6000⟩] with
      protocol := some (.str "UDP") },
    { entity "b" "hybrid" "10.0.0.3" 6000 [] with protocol := none },
    { entity "fuzzer" "fuzzer" "10.0.0.4" 0 [] with
      protocol := none
      connections := some [⟨"10.0.0.2", 5000, 20000, 20001, "10.0.0.3", 6000, 20002, 20003⟩] }]⟩

/-- Rules are written for both, and the proxy starts no handler. -/
theorem otherSpellings_not_agreed : ¬ Agrees otherSpellings := by
  intro agrees
  have given : GivenUDPRules otherSpellings.entities
      { entity "a" "hybrid" "10.0.0.2" 5000 [⟨some "10.0.0.3", some 6000⟩] with
        protocol := some (.str "UDP") } := by
    refine ⟨by decide +kernel, by decide +kernel, _, _,
      ⟨"10.0.0.2", 5000, 20000, 20001, "10.0.0.3", 6000, 20002, 20003⟩, rfl, rfl, rfl,
      List.mem_cons_self, Or.inl (by decide +kernel)⟩
  obtain ⟨lines, hlines, rule, hrule, udp⟩ := given_udp given
  obtain ⟨proxy, _, started, ⟨c, hc, -⟩, -⟩ :=
    (agrees _ List.mem_cons_self lines hlines rule hrule).1 udp
  have none : (proxyBase otherSpellings).map ProxyBase.udp_entities = some [] := by decide +kernel
  rw [started] at none
  rw [Option.some.inj none] at hc
  cases hc

end Cezfuzzer.ProxyProtocols
