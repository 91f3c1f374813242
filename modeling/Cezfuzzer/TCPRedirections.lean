import Cezfuzzer.ConfigurationManager
import Cezfuzzer.DockerBuild
import Cezfuzzer.RedirectionInjector
import Cezfuzzer.UDPRelay

set_option autoImplicit false

/-!
# From a TCP connection to its server

The one rule of a fuzzed TCP client, and the server that the proxy connects to for a client that
it accepts on the port of that rule.
-/
namespace Cezfuzzer.TCPRedirections
open CommanderConfig RedirectionInjector DockerBuild ConfigurationManager FirstSeen
open UDPRelay (htons)

/-- One round of the constructor's loop: what `socket` returns, and whether the other calls
    succeed. -/
structure ListenAttempt where
  redir : ProxyRedirection
  socket : ℤ
  bind : Bool
  listen : Bool
  pthread_create : Bool
  deriving DecidableEq, Repr

structure ListenThreadArgs where
  port : ℤ
  ip : String
  proxy_port : ℤ
  listen_fd : ℤ
  deriving DecidableEq, Repr

structure TCPHandler where
  listenSockets : List ℤ
  threads : List ListenThreadArgs
  deriving DecidableEq, Repr

def ListenAttempt.args (a : ListenAttempt) : ListenThreadArgs :=
  ⟨a.redir.server_port.toNat, a.redir.server_ip, a.redir.proxy_port.toNat, a.socket⟩

/-- A socket without a thread is closed, and stays in the list. -/
def addRedirection (h : TCPHandler) (a : ListenAttempt) : TCPHandler :=
  if a.socket < 0 then h
  else if a.bind = false then h
  else if a.listen = false then h
  else
    { listenSockets := h.listenSockets ++ [a.socket]
      threads := if a.pthread_create then h.threads ++ [a.args] else h.threads }

def tcpHandler (attempts : List ListenAttempt) : TCPHandler :=
  attempts.foldl addRedirection ⟨[], []⟩

def ListenAttempt.Succeeds (a : ListenAttempt) : Prop :=
  0 ≤ a.socket ∧ a.bind = true ∧ a.listen = true ∧ a.pthread_create = true

instance (a : ListenAttempt) : Decidable a.Succeeds := inferInstanceAs (Decidable (_ ∧ _))

/-- The address that `_listen_thread` connects to for each client that it accepts. -/
def ListenThreadArgs.server (data : ListenThreadArgs) : String × UInt16 :=
  (data.ip, htons data.port)

theorem addRedirection_threads (h : TCPHandler) (a : ListenAttempt) :
    (addRedirection h a).threads = h.threads ++ if a.Succeeds then [a.args] else [] := by
  by_cases succeeds : a.Succeeds
  · obtain ⟨socket, bind, listen, create⟩ := id succeeds
    simp [addRedirection, succeeds, not_lt.mpr socket, bind, listen, create]
  · rw [if_neg succeeds, List.append_nil]
    unfold addRedirection
    split
    · rfl
    · split
      · rfl
      · split
        · rfl
        · rename_i socket bind listen
          rw [Bool.not_eq_false] at bind listen
          exact if_neg fun create => succeeds ⟨not_lt.mp socket, bind, listen, create⟩

theorem tcpHandler_threads (attempts : List ListenAttempt) : (tcpHandler attempts).threads =
    (attempts.filter (·.Succeeds)).map ListenAttempt.args := by
  have loop : ∀ h : TCPHandler, (attempts.foldl addRedirection h).threads =
      h.threads ++ (attempts.filter (·.Succeeds)).map ListenAttempt.args := by
    induction attempts with
    | nil => simp
    | cons a attempts ih =>
      intro h
      rw [List.foldl_cons, ih, addRedirection_threads, List.append_assoc]
      by_cases succeeds : a.Succeeds <;> simp [succeeds]
  exact loop ⟨[], []⟩

/-- A fuzzed TCP entity that is neither a server nor the fuzzer. -/
structure TCPClient (X : Entity) : Prop where
  redirectable : Redirectable X
  protocol : X.protocolLower = .ok "tcp"
  client : X.role ≠ some "server"

structure TCPServer (S : Entity) (d : Endpoint) : Prop where
  server : S.role = some "server"
  protocol : S.protocolLower = .ok "tcp"
  endpoint : S.endpoint = some d

/-- The proxy was started on `redirections`, with `attempts` at listening. -/
def StartedOn (redirections : List TCPRedirection) (attempts : List ListenAttempt) : Prop :=
  redirections.mapM parseRedirection = some (attempts.map ListenAttempt.redir)

/-- A client that connects to `d` gets to the fuzzer, and the fuzzer connects it to `d`. -/
structure RedirectedTo (config : List Entity) (X : Entity) (d : Endpoint) (fuzzer : Entity)
    (redirections : List TCPRedirection) (rule : DnatRule) (r : TCPRedirection) : Prop where
  found : getFuzzer config = some fuzzer
  given : fuzzer.tcp_redirections = some redirections
  rules : dnatRules (generateTcpDnatRulesForClient X fuzzer) = [rule]
  script : generateDockerfile X config = .ok (generateTcpDnatRulesForClient X fuzzer)
  covers : ∀ p : Packet, rule.covers p = true ↔
    p.protocol = .tcp ∧ p.ip = d.ip ∧ (p.port.toNat : ℤ) = d.port
  to_fuzzer : some rule.toIP = fuzzer.ip
  once : redirections.filter (·.proxy_port = rule.toPort) = [r]
  server : serverEnd r = d
  connects : ∀ attempts, StartedOn redirections attempts →
    ∀ data ∈ (tcpHandler attempts).threads, data.proxy_port = rule.toPort →
      data.server.1 = d.ip ∧ (data.server.2.toNat : ℤ) = d.port
  listens : ∀ attempts, StartedOn redirections attempts →
    (∀ a ∈ attempts, a.Succeeds) → ∃ data ∈ (tcpHandler attempts).threads,
      data.proxy_port = rule.toPort

theorem filter_eq_singleton {α β : Type} [DecidableEq β] {f : α → β} {l : List α}
    (nodup : (l.map f).Nodup) {a : α} (member : a ∈ l) : l.filter (f · = f a) = [a] := by
  induction l with
  | nil => cases member
  | cons b l ih =>
    rw [List.map_cons, List.nodup_cons] at nodup
    rcases List.mem_cons.mp member with rfl | member
    · have rest : l.filter (f · = f a) = [] := by
        rw [List.filter_eq_nil_iff]
        intro c hc same
        exact nodup.1 (of_decide_eq_true same ▸ List.mem_map_of_mem hc)
      rw [List.filter_cons_of_pos (by simp), rest]
    · have other : f b ≠ f a := fun same => nodup.1 (same ▸ List.mem_map_of_mem member)
      rw [List.filter_cons_of_neg (by simp [other]), ih nodup.2 member]

theorem ofInt_toNat {n : ℤ} (low : 0 ≤ n) (high : n ≤ 65535) :
    ((UInt16.ofInt n).toNat : ℤ) = n := by
  rw [UInt16.ofInt, UInt16.toNat_ofNat']
  omega

theorem mem_servers {config : List Entity} {S : Entity} (member : S ∈ config) {d : Endpoint}
    (server : TCPServer S d) (ip : d.ip ≠ "") (port : d.port ≠ -1) : d ∈ servers config := by
  obtain ⟨hip, hport⟩ := entity_endpoint.mp server.endpoint
  refine List.mem_flatMap.mpr ⟨S, member, ?_⟩
  rw [serverOf, hip, hport, if_pos ⟨server.server, server.protocol, ip, port⟩]
  exact List.mem_singleton_self d

/-- The redirection that the injector makes for a server is found, and is the only one. -/
theorem redirection_found {config : List Entity} {used : List ℤ}
    {redirections : List TCPRedirection} (redirected : Redirected config used redirections)
    (nodup : used.Nodup) {d : Endpoint} (server : d ∈ servers config) :
    ∃ r, redirections.find? (fun r => r.server_ip = d.ip ∧ r.server_port = d.port) = some r ∧
      r ∈ redirections ∧ serverEnd r = d ∧
      redirections.filter (·.proxy_port = r.proxy_port) = [r] := by
  have kept : d ∈ redirections.map serverEnd := by
    have key : id d ∈ (firstSeen id [] (servers config)).map id :=
      (key_kept [] server).resolve_left (by simp)
    rwa [List.map_id, ← redirected.ends] at key
  obtain ⟨r', hr', rfl⟩ := List.mem_map.mp kept
  have some : (redirections.find? (fun r => r.server_ip = (serverEnd r').ip ∧
      r.server_port = (serverEnd r').port)).isSome = true := by
    rw [List.find?_isSome]
    exact ⟨r', hr', by simp [serverEnd]⟩
  obtain ⟨r, found⟩ := Option.isSome_iff_exists.mp some
  have member := List.mem_of_find?_eq_some found
  have same := List.find?_some found
  have ports := (List.nodup_append.mp (redirected.nodup nodup)).2.1
  exact ⟨r, found, member, Endpoint.ext (of_decide_eq_true same).1 (of_decide_eq_true same).2,
    filter_eq_singleton ports member⟩

/-- Every thread of the handler serves a redirection. -/
theorem thread_origin {redirections : List TCPRedirection} {attempts : List ListenAttempt}
    (started : StartedOn redirections attempts) {data : ListenThreadArgs}
    (member : data ∈ (tcpHandler attempts).threads) : ∃ r ∈ redirections,
      data.ip = r.server_ip ∧ data.port = (UInt16.ofInt r.server_port).toNat ∧
      data.proxy_port = (UInt16.ofInt r.proxy_port).toNat := by
  rw [tcpHandler_threads] at member
  obtain ⟨a, ha, rfl⟩ := List.mem_map.mp member
  obtain ⟨r, hr, parsed⟩ := exists_of_mem (mapM_eq_some_iff.mp started).flip
    (List.mem_map_of_mem (List.mem_filter.mp ha).1)
  have eq := (parseRedirection_eq_some.mp parsed).2
  exact ⟨r, hr, by simp [ListenAttempt.args, eq], by simp [ListenAttempt.args, eq],
    by simp [ListenAttempt.args, eq]⟩

theorem thread_exists {redirections : List TCPRedirection} {attempts : List ListenAttempt}
    (started : StartedOn redirections attempts) (succeed : ∀ a ∈ attempts, a.Succeeds)
    {r : TCPRedirection} (member : r ∈ redirections) : ∃ data ∈ (tcpHandler attempts).threads,
      data.proxy_port = (UInt16.ofInt r.proxy_port).toNat := by
  obtain ⟨redir, hredir, parsed⟩ := exists_of_mem (mapM_eq_some_iff.mp started) member
  obtain ⟨a, ha, rfl⟩ := List.mem_map.mp hredir
  refine ⟨a.args, ?_, by rw [ListenAttempt.args, (parseRedirection_eq_some.mp parsed).2]⟩
  rw [tcpHandler_threads]
  exact List.mem_map_of_mem (List.mem_filter.mpr ⟨ha, decide_eq_true (succeed a ha)⟩)

/-- Cut off to 16 bits, a drawn port is still its own. -/
theorem thread_serves {redirections : List TCPRedirection} {attempts : List ListenAttempt}
    {r : TCPRedirection} (range : ∀ p ∈ redirections.map TCPRedirection.proxy_port,
      20000 ≤ p ∧ p ≤ 60000)
    (single : redirections.filter (·.proxy_port = r.proxy_port) = [r])
    (started : StartedOn redirections attempts) {data : ListenThreadArgs}
    (member : data ∈ (tcpHandler attempts).threads) (same : data.proxy_port = r.proxy_port) :
    data.ip = r.server_ip ∧ data.port = (UInt16.ofInt r.server_port).toNat := by
  obtain ⟨r', hr', dataIP, dataPort, dataProxy⟩ := thread_origin started member
  have bounds := range _ (List.mem_map_of_mem hr')
  rw [ofInt_toNat (by omega) (by omega)] at dataProxy
  have own : r' ∈ redirections.filter (·.proxy_port = r.proxy_port) :=
    List.mem_filter.mpr ⟨hr', decide_eq_true (dataProxy.symm.trans same)⟩
  rw [single] at own
  obtain rfl := List.mem_singleton.mp own
  exact ⟨dataIP, dataPort⟩

/-- The fuzzer as both injectors leave it. -/
theorem injected_fuzzer {config config' : List Entity} {draws draws' : List Draw}
    (inject : injectBoth config draws = .ok (config', draws')) {fuzzer : Entity}
    (found : getFuzzer config = some fuzzer) : ∃ fuzzer' used redirections,
      getFuzzer config' = some fuzzer' ∧ fuzzer'.ip = fuzzer.ip ∧
      fuzzer'.tcp_redirections = some redirections ∧ used.Nodup ∧
      Redirected config' used redirections := by
  obtain ⟨config₁, draws₁, udp, tcp⟩ := injectBoth_eq_ok.mp inject
  obtain ⟨fuzzer₀, connections, found₀, injected, rfl⟩ := injectFuzzerRedirections_spec udp
  obtain ⟨fuzzer₁, redirections, found₁, redirected, rfl⟩ := injectTCPRedirections_spec tcp
  have first : getFuzzer (updateFuzzer (Entity.withConnections connections) config) =
      (getFuzzer config).map (Entity.withConnections connections) :=
    getFuzzer_update (withConnections_role connections)
  rw [found, found₁] at first
  cases first
  have last : getFuzzer (updateFuzzer (Entity.withTCPRedirections redirections)
      (updateFuzzer (Entity.withConnections connections) config)) =
      (getFuzzer (updateFuzzer (Entity.withConnections connections) config)).map
        (Entity.withTCPRedirections redirections) :=
    getFuzzer_update (withTCPRedirections_role redirections)
  rw [found₁] at last
  refine ⟨_, _, redirections, last, rfl, rfl, injected.nodup, ?_, redirected.nodup,
    redirected.range⟩
  rw [servers_update (withTCPRedirections_role redirections)]
  exact redirected.ends

/-- The TCP redirection is right whatever the servers, the clients and the random numbers
    are. -/
theorem tcp_redirected (config config' : List Entity) (draws draws' : List Draw)
    (located : ∃ fuzzer ip, getFuzzer config = some fuzzer ∧ fuzzer.ip = some ip ∧ ip ≠ "")
    (inject : injectBoth config draws = .ok (config', draws')) :
    ∀ X ∈ config', TCPClient X → ∀ t d, X.connect_to = some t → t.endpoint = some d →
      (∃ S ∈ config', TCPServer S d) → d.ip ≠ "" → 1 ≤ d.port → d.port ≤ 65535 →
      ∃ fuzzer redirections rule r, RedirectedTo config' X d fuzzer redirections rule r := by
  intro X _ client t d connect target ⟨S, hS, server⟩ ip low high
  obtain ⟨fuzzer₀, fuzzer_ip, found₀, located, nonempty⟩ := located
  obtain ⟨fuzzer, used, redirections, found, sameIP, given, nodup, redirected⟩ :=
    injected_fuzzer inject found₀
  rw [located] at sameIP
  obtain ⟨r, hfind, member, rfl, single⟩ := redirection_found redirected nodup
    (mem_servers hS server ip (by omega))
  have matching : TCPMatch X fuzzer (serverEnd r) fuzzer_ip r :=
    ⟨client.client, by rw [connect]; exact target, ip, by omega, sameIP, nonempty,
      by rw [given]; exact hfind⟩
  have range := redirected.range _ (List.mem_map_of_mem member)
  refine ⟨fuzzer, redirections, _, r, found, given, generateTcp_rules matching,
    generateDockerfile_tcp client.redirectable client.protocol found, ?_, sameIP.symm, single, rfl,
    ?_, ?_⟩
  · rintro ⟨protocol, dst, port⟩
    simp only [DnatRule.covers, Bool.and_eq_true, decide_eq_true_eq]
    tauto
  · intro attempts started data hdata same
    obtain ⟨dataIP, dataPort⟩ := thread_serves redirected.range single started hdata same
    have word : ((UInt16.ofInt r.server_port).toNat : ℤ) = r.server_port :=
      ofInt_toNat (Int.le_trans (by decide) low) high
    refine ⟨dataIP, ?_⟩
    change ((htons data.port).toNat : ℤ) = r.server_port
    rw [dataPort, htons, word, word]
  · intro attempts started succeed
    obtain ⟨data, hdata, eq⟩ := thread_exists started succeed member
    exact ⟨data, hdata, eq.trans (ofInt_toNat (by omega) (by omega))⟩

theorem mem_injectBoth {config config' : List Entity} {draws draws' : List Draw}
    (inject : injectBoth config draws = .ok (config', draws')) {X : Entity}
    (other : ¬ X.isFuzzer) : X ∈ config' ↔ X ∈ config := by
  obtain ⟨config₁, draws₁, udp, tcp⟩ := injectBoth_eq_ok.mp inject
  obtain ⟨-, connections, -, -, rfl⟩ := injectFuzzerRedirections_spec udp
  obtain ⟨-, redirections, -, -, rfl⟩ := injectTCPRedirections_spec tcp
  rw [mem_update (withTCPRedirections_role redirections) other,
    mem_update (withConnections_role connections) other]

def client : Entity :=
  { entity "client" "client" "10.0.0.2" 0 [] with
    protocol := some (.str "tcp")
    connect_to := some ⟨some "10.0.0.3", some 9000⟩ }

def server : Entity :=
  { entity "server" "server" "10.0.0.3" 9000 [] with protocol := some (.str "tcp") }

def clientAndServer : List Entity := [client, server, entity "fuzzer" "fuzzer" "10.0.0.4" 0 []]

theorem clientAndServer_redirected : ∃ config draws fuzzer redirections rule r,
    injectBoth clientAndServer someDraws = .ok (config, draws) ∧
      RedirectedTo config client ⟨"10.0.0.3", 9000⟩ fuzzer redirections rule r := by
  obtain ⟨⟨config, draws⟩, inject⟩ := isOk_eq_ok (injectBoth clientAndServer someDraws)
    (by decide +kernel)
  have clientMember : client ∈ config :=
    (mem_injectBoth inject (by decide +kernel)).mpr (by decide +kernel)
  have serverMember : server ∈ config :=
    (mem_injectBoth inject (by decide +kernel)).mpr (by decide +kernel)
  obtain ⟨fuzzer, redirections, rule, r, redirected⟩ := tcp_redirected clientAndServer config
    someDraws draws ⟨_, "10.0.0.4", rfl, rfl, by decide⟩ inject client clientMember
    ⟨by decide +kernel, by decide +kernel, by decide +kernel⟩ ⟨some "10.0.0.3", some 9000⟩
    ⟨"10.0.0.3", 9000⟩ rfl rfl
    ⟨server, serverMember, by decide +kernel, by decide +kernel, rfl⟩ (by decide) (by decide)
    (by decide)
  exact ⟨config, draws, fuzzer, redirections, rule, r, inject, redirected⟩

end Cezfuzzer.TCPRedirections
