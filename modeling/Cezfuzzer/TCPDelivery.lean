import Cezfuzzer.TCPStreams

set_option autoImplicit false

/-!
# From the injected redirection to the server's stream

The commander's rule sends a client's connection to a port of the fuzzer, and the proxy that was
started on the injected redirections serves everyone who connects there with a channel of his
own to the server that the client has asked for. It is a proxy without UDP entities.
-/
namespace Cezfuzzer.TCPDelivery
open StepRuns LengthPrefix CommanderConfig RedirectionInjector DockerBuild ConfigurationManager
open TCPRedirections TCPProxy TCPChannels TCPStreams
open UDPRelay (htons)

variable {rounds : ℕ} {attempts : List ListenAttempt} {s : State}

/-- A client that has connected to the port. -/
def AcceptedOn (s : State) (port : ℤ) (fd : ℕ) : Prop :=
  ∃ args client, originAt s fd = some (.accept args client) ∧ args.proxy_port = port

/-- The thread takes the client's bytes in order and sends only to `d`, which gets nothing else
    on that connection; what comes back to the client comes from there. -/
structure ServedBy (s : State) (d : Endpoint) (t : Thread) : Prop where
  taken : ∃ k, s.sockets[t.recv_fd]? = some k ∧ (chunksOf t).flatten <+: k.arrived
  server : ∃ k port, s.sockets[t.send_fd]? = some k ∧ k.origin = .connect (d.ip, port) ∧
    (port.toNat : ℤ) = d.port ∧ k.sent = outputOf t
  answers : ∀ t' ∈ s.threads, t'.send_fd = t.recv_fd → t'.recv_fd = t.send_fd

/-- The server of a client's channel is the one of the thread that has accepted the client. -/
theorem server_of_accepted (traced : Traced s) {t : Thread} (member : t ∈ s.threads)
    {args : ListenThreadArgs} {client : String × UInt16}
    (accepted : originAt s t.recv_fd = some (.accept args client)) :
    (∃ x ∈ s.listeners, x.args = args) ∧ ServerOf s args t.send_fd := by
  obtain ⟨x, here, joined | joined⟩ :=
    traced.link (t.recv_fd, t.send_fd) (List.mem_map_of_mem member)
  · obtain ⟨client', same⟩ := joined.1
    rw [accepted] at same
    obtain ⟨rfl, -⟩ := Origin.accept.inj (Option.some.inj same)
    exact ⟨⟨x, here, rfl⟩, joined.2⟩
  · exact absurd rfl (client_ne_server ⟨client, accepted⟩ joined.2)

theorem served_of_run {es : List Event} (run : Runs (step rounds) anyStep (initial attempts) es s)
    {d : Endpoint} {port : ℤ} (connects : ∀ data ∈ (tcpHandler attempts).threads,
      data.proxy_port = port → data.server.1 = d.ip ∧ (data.server.2.toNat : ℤ) = d.port)
    {t : Thread} (member : t ∈ s.threads) (accepted : AcceptedOn s port t.recv_fd) :
    ServedBy s d t := by
  have inv := run_invariant run
  obtain ⟨recv_lt, send_lt⟩ := made_of_thread inv.wired member
  obtain ⟨args, client, origin, same⟩ := accepted
  obtain ⟨⟨x, here, rfl⟩, server⟩ := server_of_accepted inv.traced member origin
  obtain ⟨ip, number⟩ := connects _ (inv.serves.listener x here) same
  refine ⟨?_, ?_, fun t' ht => ?_⟩
  · have found := List.getElem?_eq_getElem recv_lt
    refine ⟨_, found, ?_⟩
    rw [← inv.streams.received t member _ found]
    exact List.take_prefix _ _
  · obtain ⟨k, found, connected⟩ := Option.map_eq_some_iff.mp server
    exact ⟨k, x.args.server.2, found, by rw [connected, ← ip], number,
      inv.streams.sent t member k found⟩
  · exact inv.paired.back (t'.recv_fd, t'.send_fd) (List.mem_map_of_mem ht)
      (t.recv_fd, t.send_fd) (List.mem_map_of_mem member)

/-- From the configuration to the bytes: the client's connection is sent to one port of the
    fuzzer, and there it becomes a channel to its own server, whatever the proxy does at the
    same time for others. -/
theorem client_served (config config' : List Entity) (draws draws' : List Draw)
    (located : ∃ fuzzer ip, getFuzzer config = some fuzzer ∧ fuzzer.ip = some ip ∧ ip ≠ "")
    (inject : injectBoth config draws = .ok (config', draws')) (X : Entity) (client : TCPClient X)
    (target : Target) (d : Endpoint) (connect : X.connect_to = some target)
    (endpoint : target.endpoint = some d) (serves : ∃ S ∈ config', TCPServer S d)
    (ip : d.ip ≠ "") (low : 1 ≤ d.port) (high : d.port ≤ 65535) :
    ∃ fuzzer redirections rule, getFuzzer config' = some fuzzer ∧
      fuzzer.tcp_redirections = some redirections ∧
      generateDockerfile X config' = .ok (generateTcpDnatRulesForClient X fuzzer) ∧
      dnatRules (generateTcpDnatRulesForClient X fuzzer) = [rule] ∧
      (∀ p : Packet, rule.covers p = true ↔
        p.protocol = .tcp ∧ p.ip = d.ip ∧ (p.port.toNat : ℤ) = d.port) ∧
      some rule.toIP = fuzzer.ip ∧
      ∀ rounds attempts es s, StartedOn redirections attempts →
        Runs (step rounds) anyStep (initial attempts) es s →
        ∀ t ∈ s.threads, AcceptedOn s rule.toPort t.recv_fd → ServedBy s d t := by
  obtain ⟨S, hS, server⟩ := serves
  obtain ⟨fuzzer₀, fuzzer_ip, found₀, located, nonempty⟩ := located
  obtain ⟨fuzzer, used, redirections, found, sameIP, given, nodup, redirected⟩ :=
    injected_fuzzer inject found₀
  rw [located] at sameIP
  obtain ⟨r, hfind, member, rfl, single⟩ := redirection_found redirected nodup
    (mem_servers hS server ip (by omega))
  have matching : TCPMatch X fuzzer (serverEnd r) fuzzer_ip r :=
    ⟨client.client, by rw [connect]; exact endpoint, ip, by omega, sameIP, nonempty,
      by rw [given]; exact hfind⟩
  refine ⟨fuzzer, redirections, _, found, given,
    generateDockerfile_tcp client.redirectable client.protocol found, generateTcp_rules matching,
    ?_, sameIP.symm, fun rounds attempts es s started run t thread accepted => ?_⟩
  · rintro ⟨protocol, dst, port⟩
    simp only [DnatRule.covers, Bool.and_eq_true, decide_eq_true_eq]
    tauto
  · refine served_of_run run (fun data hdata same => ?_) thread accepted
    obtain ⟨dataIP, dataPort⟩ := thread_serves redirected.range single started hdata same
    have word : ((UInt16.ofInt r.server_port).toNat : ℤ) = r.server_port :=
      ofInt_toNat (Int.le_trans (by decide) low) high
    refine ⟨dataIP, ?_⟩
    change ((htons data.port).toNat : ℤ) = r.server_port
    rw [dataPort, htons, word, word]

theorem clientAndServer_served : ∃ config draws fuzzer redirections rule,
    injectBoth clientAndServer someDraws = .ok (config, draws) ∧
      getFuzzer config = some fuzzer ∧ fuzzer.tcp_redirections = some redirections ∧
      dnatRules (generateTcpDnatRulesForClient TCPRedirections.client fuzzer) = [rule] ∧
      ∀ rounds attempts es s, StartedOn redirections attempts →
        Runs (step rounds) anyStep (initial attempts) es s →
        ∀ t ∈ s.threads, AcceptedOn s rule.toPort t.recv_fd → ServedBy s ⟨"10.0.0.3", 9000⟩ t := by
  obtain ⟨⟨config, draws⟩, inject⟩ := isOk_eq_ok (injectBoth clientAndServer someDraws)
    (by decide +kernel)
  have member : server ∈ config :=
    (mem_injectBoth inject (by decide +kernel)).mpr (by decide +kernel)
  obtain ⟨fuzzer, redirections, rule, found, given, -, rules, -, -, served⟩ :=
    client_served clientAndServer config someDraws draws ⟨_, "10.0.0.4", rfl, rfl, by decide⟩ inject
      TCPRedirections.client ⟨by decide +kernel, by decide +kernel, by decide +kernel⟩
      ⟨some "10.0.0.3", some 9000⟩ ⟨"10.0.0.3", 9000⟩ rfl rfl
      ⟨server, member, by decide +kernel, by decide +kernel, rfl⟩ (by decide) (by decide)
      (by decide)
  exact ⟨config, draws, fuzzer, redirections, rule, inject, found, given, rules, served⟩

end Cezfuzzer.TCPDelivery
