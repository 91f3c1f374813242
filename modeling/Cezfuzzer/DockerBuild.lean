import Cezfuzzer.CommanderConfig

set_option autoImplicit false

/-!
# `docker_build.py`

The firewall rules that the entry point of an entity installs. Of the text of a script only the
lines between `#!/bin/sh` and `exec "$@"` are kept.
-/
namespace Cezfuzzer.DockerBuild
open CommanderConfig

inductive Protocol where
  | udp
  | tcp
  deriving DecidableEq, Repr

/-- `iptables -t nat -A OUTPUT -p … -d … --dport … -j DNAT --to-destination …:…` -/
structure DnatRule where
  protocol : Protocol
  destination : String
  dport : Option ℤ
  toIP : String
  toPort : ℤ
  deriving DecidableEq, Repr

inductive Line where
  | comment (text : String)
  | dnat (rule : DnatRule)
  /-- `iptables -A INPUT -p udp -s … --sport … -j ACCEPT` -/
  | accept (source : String) (sport : ℤ)
  deriving DecidableEq, Repr

def dportCond (port : ℤ) : Option ℤ := if port ≠ -1 then some port else none

def caseEntityA (ip : Option String) (port : ℤ) (conn : Connection) : Prop :=
  some conn.entityA_ip = ip ∧ (port = -1 ∨ conn.entityA_port = port)

/-- Unlike an `entityA`, an `entityB` matches with a dynamic port of its own as well. -/
def caseEntityB (ip : Option String) (port : ℤ) (conn : Connection) : Prop :=
  some conn.entityB_ip = ip ∧
    (port = -1 ∨ conn.entityB_port = port ∨ conn.entityB_port = -1)

instance (ip : Option String) (port : ℤ) (conn : Connection) :
    Decidable (caseEntityA ip port conn) := inferInstanceAs (Decidable (_ ∧ _))

instance (ip : Option String) (port : ℤ) (conn : Connection) :
    Decidable (caseEntityB ip port conn) := inferInstanceAs (Decidable (_ ∧ _))

def linesIf (applies : Prop) [Decidable applies] (lines : Except Failure (List Line)) :
    Except Failure (List Line) := if applies then lines else return []

/-- The three lines of either case. -/
def entityLines (entity : String) (peer_ip : String) (peer_port recv_port send_port : ℤ)
    (fuzzer : Entity) : Except Failure (List Line) := do
  let fuzzer_ip ← required "ip" fuzzer.ip
  return [.comment ("# DNAT for " ++ entity ++ " to " ++ peer_ip),
    .dnat ⟨.udp, peer_ip, dportCond peer_port, fuzzer_ip, recv_port⟩,
    .accept fuzzer_ip send_port]

def connectionLines (ip : Option String) (port : ℤ) (fuzzer : Entity) (conn : Connection) :
    Except Failure (List Line) := do
  let linesA ← linesIf (caseEntityA ip port conn)
    (entityLines "EntityA" conn.entityB_ip conn.entityB_port conn.entityA_proxy_port_recv
      conn.entityA_proxy_port_send fuzzer)
  let linesB ← linesIf (caseEntityB ip port conn)
    (entityLines "EntityB" conn.entityA_ip conn.entityA_port conn.entityB_proxy_port_recv
      conn.entityB_proxy_port_send fuzzer)
  return linesA ++ linesB

def appendLines (ip : Option String) (port : ℤ) (fuzzer : Entity) (lines : List Line)
    (conn : Connection) : Except Failure (List Line) := do
  let more ← connectionLines ip port fuzzer conn
  return lines ++ more

def generateUdpDnatRulesForClient (ip : Option String) (port : ℤ)
    (connections : List Connection) (fuzzer : Entity) : Except Failure (List Line) := do
  let lines ← connections.foldlM (appendLines ip port fuzzer) []
  if lines = [] then
    return [.comment "# No DNAT rules generated. No matching fuzzer connections found."]
  else return lines

/-- `None`, the empty string and 0 are not `all` true. -/
def generateTcpDnatRulesForClient (entity_cfg fuzzer : Entity) : List Line :=
  if entity_cfg.role = some "server" then []
  else
    let connect_info := entity_cfg.connect_to.getD ⟨none, none⟩
    match connect_info.ip.filter (· ≠ ""), connect_info.port.filter (· ≠ 0),
        fuzzer.ip.filter (· ≠ "") with
    | some target_ip, some target_port, some fuzzer_ip =>
      match (fuzzer.tcp_redirections.getD []).find?
          (fun r => r.server_ip = target_ip ∧ r.server_port = target_port) with
      | none => [.comment ("# No matching TCP redirection for " ++ target_ip ++ ":" ++
          toString target_port ++ ". Skipping.")]
      | some r =>
        [.comment ("# DNAT rule for TCP client " ++ entity_cfg.ip.getD "None" ++
          ": redirecting connect() to " ++ target_ip ++ ":" ++ toString target_port ++
          " → fuzzer " ++ fuzzer_ip ++ ":" ++ toString r.proxy_port),
        .dnat ⟨.tcp, target_ip, some target_port, fuzzer_ip, r.proxy_port⟩]
    | _, _, _ =>
      [.comment "# Missing client connect_to or fuzzer information. Skipping TCP DNAT."]

def udpBlock (entity_cfg : Entity) (all_entities : List Entity) : Except Failure (List Line) :=
  let skipped := [.comment "# No fuzzer connections found. Skipping UDP DNAT generation."]
  match getFuzzer all_entities with
  | none => return skipped
  | some fuzzer =>
    match fuzzer.connections with
    | none => return skipped
    | some connections => generateUdpDnatRulesForClient entity_cfg.ip (entity_cfg.port.getD (-1))
        connections fuzzer

def tcpBlock (entity_cfg : Entity) (all_entities : List Entity) : List Line :=
  match getFuzzer all_entities with
  | none => [.comment "# No fuzzer found. Skipping TCP DNAT generation."]
  | some fuzzer => generateTcpDnatRulesForClient entity_cfg fuzzer

/-- `role != "fuzzer" and is_fuzzed` -/
def Redirectable (e : Entity) : Prop := ¬ e.isFuzzer ∧ e.fuzzed.getD false = true

instance (e : Entity) : Decidable (Redirectable e) := inferInstanceAs (Decidable (_ ∧ _))

def generateDockerfile (entity_cfg : Entity) (all_entities : List Entity) :
    Except Failure (List Line) := do
  let proto ← entity_cfg.protocolLower
  let udp ← linesIf (Redirectable entity_cfg ∧ proto = "udp") (udpBlock entity_cfg all_entities)
  let tcp ← linesIf (Redirectable entity_cfg ∧ proto = "tcp")
    (return tcpBlock entity_cfg all_entities)
  return udp ++ tcp

/-- The nat `OUTPUT` rules of a script, in the order in which they are appended. -/
def dnatRules (lines : List Line) : List DnatRule :=
  lines.filterMap (fun
    | .dnat rule => some rule
    | _ => none)

/-- What the rules look at in the first packet of a flow. -/
structure Packet where
  protocol : Protocol
  ip : String
  port : UInt16
  deriving DecidableEq, Repr

def DnatRule.covers (r : DnatRule) (p : Packet) : Bool :=
  r.protocol = p.protocol && r.destination = p.ip &&
    match r.dport with
    | none => true
    | some port => port = p.port.toNat

/-- The first match wins. -/
def firstMatch (lines : List Line) (p : Packet) : Option DnatRule :=
  (dnatRules lines).find? (·.covers p)

@[simp] theorem dnatRules_append (lines lines' : List Line) :
    dnatRules (lines ++ lines') = dnatRules lines ++ dnatRules lines' :=
  List.filterMap_append

/-- The rules of the two cases of a connection. -/
def connectionRules (ip : Option String) (port : ℤ) (fuzzer_ip : String) (conn : Connection) :
    List DnatRule :=
  (if caseEntityA ip port conn then [⟨.udp, conn.entityB_ip, dportCond conn.entityB_port,
    fuzzer_ip, conn.entityA_proxy_port_recv⟩] else []) ++
  (if caseEntityB ip port conn then [⟨.udp, conn.entityA_ip, dportCond conn.entityA_port,
    fuzzer_ip, conn.entityB_proxy_port_recv⟩] else [])

theorem entityLines_rules {fuzzer : Entity} {fuzzer_ip : String}
    (located : fuzzer.ip = some fuzzer_ip) (entity peer_ip : String)
    (peer_port recv_port send_port : ℤ) :
    ∃ lines, entityLines entity peer_ip peer_port recv_port send_port fuzzer = .ok lines ∧
      dnatRules lines = [⟨.udp, peer_ip, dportCond peer_port, fuzzer_ip, recv_port⟩] := by
  refine ⟨_, bind_eq_ok.mpr ⟨fuzzer_ip, ?_, rfl⟩, rfl⟩
  rw [located]
  rfl

theorem connectionLines_rules (ip : Option String) (port : ℤ) {fuzzer : Entity}
    {fuzzer_ip : String} (located : fuzzer.ip = some fuzzer_ip) (conn : Connection) :
    ∃ lines, connectionLines ip port fuzzer conn = .ok lines ∧
      dnatRules lines = connectionRules ip port fuzzer_ip conn := by
  obtain ⟨linesA, hA, rulesA⟩ := entityLines_rules located "EntityA" conn.entityB_ip
    conn.entityB_port conn.entityA_proxy_port_recv conn.entityA_proxy_port_send
  obtain ⟨linesB, hB, rulesB⟩ := entityLines_rules located "EntityB" conn.entityA_ip
    conn.entityA_port conn.entityB_proxy_port_recv conn.entityB_proxy_port_send
  refine ⟨(if caseEntityA ip port conn then linesA else []) ++
    (if caseEntityB ip port conn then linesB else []), ?_, ?_⟩
  · simp only [connectionLines, bind_eq_ok, pure_eq_ok]
    refine ⟨_, ?_, _, ?_, rfl⟩
    · unfold linesIf
      split
      · exact hA
      · rfl
    · unfold linesIf
      split
      · exact hB
      · rfl
  · rw [dnatRules_append, connectionRules, ← rulesA, ← rulesB]
    split <;> split <;> rfl

theorem appendLines_rules (ip : Option String) (port : ℤ) {fuzzer : Entity}
    {fuzzer_ip : String} (located : fuzzer.ip = some fuzzer_ip) (connections : List Connection)
    (start : List Line) :
    ∃ lines, connections.foldlM (appendLines ip port fuzzer) start = .ok lines ∧
      dnatRules lines =
        dnatRules start ++ connections.flatMap (connectionRules ip port fuzzer_ip) := by
  induction connections generalizing start with
  | nil => exact ⟨start, rfl, by simp⟩
  | cons conn connections ih =>
    obtain ⟨more, hmore, rules⟩ := connectionLines_rules ip port located conn
    obtain ⟨lines, hlines, all⟩ := ih (start ++ more)
    refine ⟨lines, ?_, ?_⟩
    · rw [List.foldlM_cons, bind_eq_ok]
      exact ⟨start ++ more, bind_eq_ok.mpr ⟨more, hmore, rfl⟩, hlines⟩
    · rw [all, dnatRules_append, rules, List.flatMap_cons, List.append_assoc]

theorem generateUdp_rules (ip : Option String) (port : ℤ) {fuzzer : Entity}
    {fuzzer_ip : String} (located : fuzzer.ip = some fuzzer_ip) (connections : List Connection) :
    ∃ lines, generateUdpDnatRulesForClient ip port connections fuzzer = .ok lines ∧
      dnatRules lines = connections.flatMap (connectionRules ip port fuzzer_ip) := by
  obtain ⟨lines, hlines, rules⟩ := appendLines_rules ip port located connections []
  simp only [generateUdpDnatRulesForClient, bind_eq_ok]
  by_cases none : lines = []
  · subst none
    exact ⟨_, ⟨[], hlines, if_pos rfl⟩, rules⟩
  · exact ⟨_, ⟨lines, hlines, if_neg none⟩, rules⟩

theorem linesIf_origin {applies : Prop} [Decidable applies] {lines : Except Failure (List Line)}
    {result : List Line} (h : linesIf applies lines = .ok result) {r : DnatRule}
    (member : r ∈ dnatRules result) : applies ∧ lines = .ok result := by
  unfold linesIf at h
  split at h
  · rename_i yes
    exact ⟨yes, h⟩
  · cases h
    cases member

theorem entityLines_located {entity peer_ip : String} {peer_port recv_port send_port : ℤ}
    {fuzzer : Entity} {lines : List Line}
    (h : entityLines entity peer_ip peer_port recv_port send_port fuzzer = .ok lines) :
    ∃ fuzzer_ip, fuzzer.ip = some fuzzer_ip := by
  obtain ⟨fuzzer_ip, located, -⟩ := bind_eq_ok.mp h
  exact ⟨fuzzer_ip, required_eq_ok.mp located⟩

theorem connectionLines_origin {ip : Option String} {port : ℤ} {fuzzer : Entity}
    {conn : Connection} {lines : List Line}
    (h : connectionLines ip port fuzzer conn = .ok lines) {r : DnatRule}
    (member : r ∈ dnatRules lines) :
    ∃ fuzzer_ip, fuzzer.ip = some fuzzer_ip ∧ r ∈ connectionRules ip port fuzzer_ip conn := by
  have located : ∃ fuzzer_ip, fuzzer.ip = some fuzzer_ip := by
    simp only [connectionLines, bind_eq_ok, pure_eq_ok] at h
    obtain ⟨linesA, hA, linesB, hB, rfl⟩ := h
    rw [dnatRules_append, List.mem_append] at member
    rcases member with member | member
    · exact entityLines_located (linesIf_origin hA member).2
    · exact entityLines_located (linesIf_origin hB member).2
  obtain ⟨fuzzer_ip, located⟩ := located
  obtain ⟨lines', h', rules⟩ := connectionLines_rules ip port located conn
  cases h.symm.trans h'
  exact ⟨fuzzer_ip, located, rules ▸ member⟩

theorem appendLines_origin {ip : Option String} {port : ℤ} {fuzzer : Entity}
    {connections : List Connection} {start lines : List Line}
    (h : connections.foldlM (appendLines ip port fuzzer) start = .ok lines) {r : DnatRule}
    (member : r ∈ dnatRules lines) : r ∈ dnatRules start ∨ ∃ fuzzer_ip,
      fuzzer.ip = some fuzzer_ip ∧ ∃ c ∈ connections, r ∈ connectionRules ip port fuzzer_ip c := by
  induction connections generalizing start with
  | nil =>
    cases h
    exact Or.inl member
  | cons conn connections ih =>
    rw [List.foldlM_cons, bind_eq_ok] at h
    obtain ⟨next, hnext, h⟩ := h
    obtain ⟨more, hmore, eq⟩ := bind_eq_ok.mp hnext
    cases eq
    rcases ih h with old | ⟨fuzzer_ip, located, c, hc, own⟩
    · rw [dnatRules_append, List.mem_append] at old
      rcases old with old | new
      · exact Or.inl old
      · obtain ⟨fuzzer_ip, located, own⟩ := connectionLines_origin hmore new
        exact Or.inr ⟨fuzzer_ip, located, conn, List.mem_cons_self, own⟩
    · exact Or.inr ⟨fuzzer_ip, located, c, List.mem_cons_of_mem _ hc, own⟩

/-- Every UDP rule is one of the two of a connection. -/
theorem generateUdp_origin {ip : Option String} {port : ℤ} {fuzzer : Entity}
    {connections : List Connection} {lines : List Line}
    (h : generateUdpDnatRulesForClient ip port connections fuzzer = .ok lines) {r : DnatRule}
    (member : r ∈ dnatRules lines) : ∃ fuzzer_ip, fuzzer.ip = some fuzzer_ip ∧
      ∃ c ∈ connections, r ∈ connectionRules ip port fuzzer_ip c := by
  simp only [generateUdpDnatRulesForClient, bind_eq_ok] at h
  obtain ⟨result, hresult, h⟩ := h
  split at h
  · cases h
    cases member
  · cases h
    exact (appendLines_origin hresult member).resolve_left (by simp [dnatRules])

/-- The redirection whose rule an entity gets. -/
structure TCPMatch (e fuzzer : Entity) (d : Endpoint) (fuzzer_ip : String)
    (r : TCPRedirection) : Prop where
  client : e.role ≠ some "server"
  connect_to : (e.connect_to.getD ⟨none, none⟩).endpoint = some d
  ip : d.ip ≠ ""
  port : d.port ≠ 0
  located : fuzzer.ip = some fuzzer_ip
  fuzzer_ip : fuzzer_ip ≠ ""
  found : (fuzzer.tcp_redirections.getD []).find?
    (fun r => r.server_ip = d.ip ∧ r.server_port = d.port) = some r

theorem filter_ne {α : Type} [DecidableEq α] {o : Option α} {a b : α} (h : o = some a)
    (ne : a ≠ b) : o.filter (· ≠ b) = some a := by
  subst h
  simp [Option.filter, ne]

theorem generateTcp_rules {e fuzzer : Entity} {d : Endpoint} {fuzzer_ip : String}
    {r : TCPRedirection} (h : TCPMatch e fuzzer d fuzzer_ip r) :
    dnatRules (generateTcpDnatRulesForClient e fuzzer) =
      [⟨.tcp, d.ip, some d.port, fuzzer_ip, r.proxy_port⟩] := by
  obtain ⟨ip, port⟩ := target_endpoint.mp h.connect_to
  rw [generateTcpDnatRulesForClient, if_neg h.client]
  simp only [filter_ne ip h.ip, filter_ne port h.port, filter_ne h.located h.fuzzer_ip, h.found]
  rfl

theorem generateTcp_origin {e fuzzer : Entity} {rule : DnatRule}
    (member : rule ∈ dnatRules (generateTcpDnatRulesForClient e fuzzer)) :
    ∃ d fuzzer_ip r, TCPMatch e fuzzer d fuzzer_ip r ∧
      rule = ⟨.tcp, d.ip, some d.port, fuzzer_ip, r.proxy_port⟩ := by
  unfold generateTcpDnatRulesForClient at member
  split at member
  · cases member
  · rename_i client
    simp only at member
    split at member
    · rename_i ip port fuzzer_ip hip hport hfuzzer
      rw [Option.filter_eq_some_iff] at hip hport hfuzzer
      split at member
      · cases member
      · rename_i r found
        refine ⟨⟨ip, port⟩, fuzzer_ip, r, ⟨client, target_endpoint.mpr ⟨hip.1, hport.1⟩,
          by simpa using hip.2, by simpa using hport.2, hfuzzer.1, by simpa using hfuzzer.2,
          found⟩, ?_⟩
        simpa [dnatRules] using member
    · cases member

theorem generateDockerfile_udp {X fuzzer : Entity} {config : List Entity}
    {connections : List Connection} {fuzzer_ip : String} (redirectable : Redirectable X)
    (udp : X.protocolLower = .ok "udp") (found : getFuzzer config = some fuzzer)
    (given : fuzzer.connections = some connections) (located : fuzzer.ip = some fuzzer_ip) :
    ∃ lines, generateDockerfile X config = .ok lines ∧ dnatRules lines =
      connections.flatMap (connectionRules X.ip (X.port.getD (-1)) fuzzer_ip) := by
  obtain ⟨lines, hlines, rules⟩ := generateUdp_rules X.ip (X.port.getD (-1)) located connections
  refine ⟨lines, ?_, rules⟩
  simp only [generateDockerfile, bind_eq_ok, pure_eq_ok]
  refine ⟨"udp", udp, lines, ?_, [], ?_, List.append_nil lines⟩
  · rw [linesIf, if_pos ⟨redirectable, rfl⟩, udpBlock, found]
    simp only [given]
    exact hlines
  · rw [linesIf, if_neg (fun h => absurd h.2 (by decide))]
    rfl

theorem generateDockerfile_tcp {X fuzzer : Entity} {config : List Entity}
    (redirectable : Redirectable X) (tcp : X.protocolLower = .ok "tcp")
    (found : getFuzzer config = some fuzzer) :
    generateDockerfile X config = .ok (generateTcpDnatRulesForClient X fuzzer) := by
  simp only [generateDockerfile, bind_eq_ok, pure_eq_ok]
  refine ⟨"tcp", tcp, [], ?_, generateTcpDnatRulesForClient X fuzzer, ?_, List.nil_append _⟩
  · rw [linesIf, if_neg (fun h => absurd h.2 (by decide))]
    rfl
  · rw [linesIf, if_pos ⟨redirectable, rfl⟩, tcpBlock, found]
    rfl

/-- Where a rule in the script of `X` comes from. -/
inductive Origin (config : List Entity) (X : Entity) (rule : DnatRule) : Prop where
  | udp (fuzzer : Entity) (connections : List Connection) (c : Connection) (fuzzer_ip : String)
    (protocol : X.protocolLower = .ok "udp") (found : getFuzzer config = some fuzzer)
    (given : fuzzer.connections = some connections) (located : fuzzer.ip = some fuzzer_ip)
    (member : c ∈ connections)
    (rule : rule ∈ connectionRules X.ip (X.port.getD (-1)) fuzzer_ip c)
  | tcp (fuzzer : Entity) (d : Endpoint) (fuzzer_ip : String) (r : TCPRedirection)
    (protocol : X.protocolLower = .ok "tcp") (found : getFuzzer config = some fuzzer)
    (matching : TCPMatch X fuzzer d fuzzer_ip r)
    (rule : rule = ⟨.tcp, d.ip, some d.port, fuzzer_ip, r.proxy_port⟩)

theorem generateDockerfile_origin {X : Entity} {config : List Entity} {lines : List Line}
    (h : generateDockerfile X config = .ok lines) {rule : DnatRule}
    (member : rule ∈ dnatRules lines) : Redirectable X ∧ Origin config X rule := by
  simp only [generateDockerfile, bind_eq_ok, pure_eq_ok] at h
  obtain ⟨proto, hproto, udp, hudp, tcp, htcp, rfl⟩ := h
  rw [dnatRules_append, List.mem_append] at member
  rcases member with member | member
  · obtain ⟨⟨redirectable, rfl⟩, block⟩ := linesIf_origin hudp member
    refine ⟨redirectable, ?_⟩
    unfold udpBlock at block
    split at block
    · cases block
      cases member
    · rename_i fuzzer found
      split at block
      · cases block
        cases member
      · rename_i connections given
        obtain ⟨fuzzer_ip, located, c, hc, own⟩ := generateUdp_origin block member
        exact .udp fuzzer connections c fuzzer_ip hproto found given located hc own
  · obtain ⟨⟨redirectable, rfl⟩, block⟩ := linesIf_origin htcp member
    refine ⟨redirectable, ?_⟩
    cases block
    unfold tcpBlock at member
    split at member
    · cases member
    · rename_i fuzzer found
      obtain ⟨d, fuzzer_ip, r, matching, eq⟩ := generateTcp_origin member
      exact .tcp fuzzer d fuzzer_ip r hproto found matching eq

end Cezfuzzer.DockerBuild
