import Cezfuzzer.CommanderConfig
import Cezfuzzer.FirstSeen

set_option autoImplicit false

/-!
# `redirection_injector.py`

The two functions that give the fuzzer entity its `connections` and its `tcp_redirections`.
Both draw proxy ports until they find one that is not in use.
-/
namespace Cezfuzzer.RedirectionInjector
open CommanderConfig FirstSeen

/-- A result of `random.randint(20000, 60000)`. -/
structure Draw where
  port : ℤ
  low : 20000 ≤ port
  high : port ≤ 60000
  deriving DecidableEq, Repr

/-- Enough for two connections and a redirection. The third number is one that is taken. -/
def someDraws : List Draw :=
  [⟨20000, by decide, by decide⟩, ⟨20001, by decide, by decide⟩, ⟨20000, by decide, by decide⟩,
    ⟨20002, by decide, by decide⟩, ⟨20003, by decide, by decide⟩, ⟨20004, by decide, by decide⟩,
    ⟨20005, by decide, by decide⟩, ⟨20006, by decide, by decide⟩, ⟨20007, by decide, by decide⟩,
    ⟨60000, by decide, by decide⟩]

/-- `used_ports`, and the random numbers still to come. -/
structure Ports where
  used : List ℤ
  draws : List Draw
  deriving DecidableEq, Repr

def drawPort (used : List ℤ) : List Draw → Except Failure (ℤ × Ports)
  | [] => .error .outOfDraws
  | d :: draws =>
    if d.port ∈ used then drawPort used draws else .ok (d.port, ⟨used ++ [d.port], draws⟩)

def randomPort (s : Ports) : Except Failure (ℤ × Ports) := drawPort s.used s.draws

/-- `<` on tuples of an IP and a port -/
def tupleLt (a b : Endpoint) : Prop := a.ip < b.ip ∨ a.ip = b.ip ∧ a.port < b.port

instance (a b : Endpoint) : Decidable (tupleLt a b) := inferInstanceAs (Decidable (_ ∨ _))

/-- `tuple(sorted([a, b]))` -/
def sortedPair (a b : Endpoint) : Endpoint × Endpoint := if tupleLt b a then (b, a) else (a, b)

/-- The order in which the dictionary of a connection is evaluated. -/
def newConnection (src dst : Endpoint) (s : Ports) : Except Failure (Connection × Ports) := do
  let (recvA, s) ← randomPort s
  let (sendA, s) ← randomPort s
  let (recvB, s) ← randomPort s
  let (sendB, s) ← randomPort s
  return (⟨src.ip, src.port, recvA, sendA, dst.ip, dst.port, recvB, sendB⟩, s)

structure Progress where
  ports : Ports
  connections : List Connection
  seenPairs : List (Endpoint × Endpoint)
  deriving DecidableEq, Repr

def visitDestination (src : Endpoint) (s : Progress) (dest : Target) :
    Except Failure Progress := do
  let dst_ip ← required "ip" dest.ip
  let dst_port ← required "port" dest.port
  let key := sortedPair src ⟨dst_ip, dst_port⟩
  if key ∈ s.seenPairs then return s
  else do
    let (connection, ports) ← newConnection src ⟨dst_ip, dst_port⟩ s.ports
    return ⟨ports, s.connections ++ [connection], s.seenPairs ++ [key]⟩

def visitEntity (s : Progress) (e : Entity) : Except Failure Progress :=
  if e.isFuzzer then return s
  else do
    let src_ip ← required "ip" e.ip
    let src_port ← required "port" e.port
    e.targets.foldlM (visitDestination ⟨src_ip, src_port⟩) s

def injectFuzzerRedirections (config : List Entity) (draws : List Draw) :
    Except Failure (List Entity × List Draw) :=
  match getFuzzer config with
  | none => .error .exit
  | some _ => do
    let s ← config.foldlM visitEntity ⟨⟨[], draws⟩, [], []⟩
    return (updateFuzzer (Entity.withConnections s.connections) config, s.ports.draws)

def proxyPorts (c : Connection) : List ℤ :=
  [c.entityA_proxy_port_recv, c.entityA_proxy_port_send, c.entityB_proxy_port_recv,
    c.entityB_proxy_port_send]

structure TCPProgress where
  ports : Ports
  tcpRedirections : List TCPRedirection
  seenServers : List Endpoint
  deriving DecidableEq, Repr

def visitServer (s : TCPProgress) (e : Entity) : Except Failure TCPProgress :=
  if e.role ≠ some "server" then return s
  else do
    let protocol ← e.protocolLower
    if protocol ≠ "tcp" then return s
    else
      -- `not server_ip` holds of the empty string as well
      let server : Endpoint := ⟨e.ip.getD "", e.port.getD (-1)⟩
      if server.ip = "" ∨ server.port = -1 then return s
      else if server ∈ s.seenServers then return s
      else do
        let (proxy_port, ports) ← randomPort s.ports
        return ⟨ports, s.tcpRedirections ++ [⟨server.ip, server.port, proxy_port⟩],
          s.seenServers ++ [server]⟩

def injectTCPRedirections (config : List Entity) (draws : List Draw) :
    Except Failure (List Entity × List Draw) :=
  match getFuzzer config with
  | none => .error .exit
  | some fuzzer => do
    let used := (fuzzer.connections.getD []).flatMap proxyPorts
    let s ← config.foldlM visitServer ⟨⟨used, draws⟩, [], []⟩
    return (updateFuzzer (Entity.withTCPRedirections s.tcpRedirections) config,
      s.ports.draws)

/-- `inject_fuzzer_redirections`, then `inject_tcp_redirections`. -/
def injectBoth (config : List Entity) (draws : List Draw) :
    Except Failure (List Entity × List Draw) := do
  let (config, draws) ← injectFuzzerRedirections config draws
  injectTCPRedirections config draws

theorem injectBoth_eq_ok {config config₂ : List Entity} {draws draws₂ : List Draw} :
    injectBoth config draws = .ok (config₂, draws₂) ↔ ∃ config₁ draws₁,
      injectFuzzerRedirections config draws = .ok (config₁, draws₁) ∧
        injectTCPRedirections config₁ draws₁ = .ok (config₂, draws₂) := by
  simp [injectBoth]

/-- From `s` to `s'` the ports `new` were drawn. -/
structure Drawn (s : Ports) (new : List ℤ) (s' : Ports) : Prop where
  used : s'.used = s.used ++ new
  nodup : s.used.Nodup → s'.used.Nodup
  range : ∀ p ∈ new, 20000 ≤ p ∧ p ≤ 60000

theorem Drawn.refl (s : Ports) : Drawn s [] s := ⟨by simp, fun h => h, by simp⟩

theorem Drawn.trans {s t u : Ports} {new new' : List ℤ} (h : Drawn s new t)
    (h' : Drawn t new' u) : Drawn s (new ++ new') u := by
  refine ⟨?_, fun nodup => h'.nodup (h.nodup nodup), ?_⟩
  · rw [h'.used, h.used, List.append_assoc]
  · intro p member
    rcases List.mem_append.mp member with member | member
    · exact h.range p member
    · exact h'.range p member

theorem randomPort_drawn {s s' : Ports} {p : ℤ} (h : randomPort s = .ok (p, s')) :
    Drawn s [p] s' := by
  obtain ⟨used, draws⟩ := s
  unfold randomPort at h
  induction draws with
  | nil => simp [drawPort] at h
  | cons d draws ih =>
    simp only [drawPort] at h
    split at h
    · obtain ⟨h₁, h₂, h₃⟩ := ih h
      exact ⟨h₁, h₂, h₃⟩
    · rename_i unused
      cases h
      refine ⟨rfl, fun nodup => ?_, ?_⟩
      · exact List.nodup_append.mpr ⟨nodup, by simp, by
          rintro a member b last rfl
          exact unused (List.mem_singleton.mp last ▸ member)⟩
      · intro p member
        obtain rfl := List.mem_singleton.mp member
        exact ⟨d.low, d.high⟩

/-- The two endpoints of a connection, side A first. -/
def ends (c : Connection) : Endpoint × Endpoint :=
  (⟨c.entityA_ip, c.entityA_port⟩, ⟨c.entityB_ip, c.entityB_port⟩)

theorem newConnection_drawn {src dst : Endpoint} {s s' : Ports} {c : Connection}
    (h : newConnection src dst s = .ok (c, s')) :
    ends c = (src, dst) ∧ Drawn s (proxyPorts c) s' := by
  simp only [newConnection, bind_eq_ok, pure_eq_ok, Prod.exists] at h
  obtain ⟨p₁, s₁, h₁, p₂, s₂, h₂, p₃, s₃, h₃, p₄, s₄, h₄, eq⟩ := h
  cases eq
  exact ⟨rfl, (randomPort_drawn h₁).trans ((randomPort_drawn h₂).trans
    ((randomPort_drawn h₃).trans (randomPort_drawn h₄)))⟩

def pairKey (link : Endpoint × Endpoint) : Endpoint × Endpoint := sortedPair link.1 link.2

/-- Every edge of the topology, in the order of the file: a destination of an entity, with the
    entity ahead of it. -/
def linksOf (e : Entity) : List (Endpoint × Endpoint) :=
  if e.isFuzzer then []
  else match e.endpoint with
    | some src => (e.targets.filterMap Target.endpoint).map (fun dst => (src, dst))
    | none => []

def links (config : List Entity) : List (Endpoint × Endpoint) := config.flatMap linksOf

theorem mem_links {config : List Entity} {link : Endpoint × Endpoint} :
    link ∈ links config ↔ ∃ X ∈ config, ¬ X.isFuzzer ∧ X.endpoint = some link.1 ∧
      ∃ d ∈ X.targets, d.endpoint = some link.2 := by
  simp only [links, List.mem_flatMap]
  refine exists_congr fun X => and_congr_right fun _ => ?_
  by_cases fuzzer : X.isFuzzer
  · simp [linksOf, fuzzer]
  · obtain ⟨src, dst⟩ := link
    cases hX : X.endpoint with
    | none => simp [linksOf, fuzzer, hX]
    | some x =>
      simp only [linksOf, fuzzer, if_false, hX, List.mem_map, List.mem_filterMap, Prod.mk.injEq,
        not_false_eq_true, true_and, Option.some.injEq]
      constructor
      · rintro ⟨y, ⟨d, hd, hy⟩, rfl, rfl⟩
        exact ⟨rfl, d, hd, hy⟩
      · rintro ⟨rfl, d, hd, hy⟩
        exact ⟨dst, ⟨d, hd, hy⟩, rfl, rfl⟩

/-- The loops connect the links `l` whose pairs are new, each once and in this order. -/
def Connects (s : Progress) (l : List (Endpoint × Endpoint)) (s' : Progress) : Prop :=
  ∃ new : List Connection, s'.connections = s.connections ++ new ∧
    new.map ends = firstSeen pairKey s.seenPairs l ∧
    s'.seenPairs = s.seenPairs ++ (new.map ends).map pairKey ∧
    Drawn s.ports (new.flatMap proxyPorts) s'.ports

theorem Connects.refl (s : Progress) : Connects s [] s :=
  ⟨[], by simp, rfl, by simp, Drawn.refl _⟩

theorem Connects.trans {s t u : Progress} {l l' : List (Endpoint × Endpoint)}
    (h : Connects s l t) (h' : Connects t l' u) : Connects s (l ++ l') u := by
  obtain ⟨new, h₁, h₂, h₃, h₄⟩ := h
  obtain ⟨new', h₁', h₂', h₃', h₄'⟩ := h'
  refine ⟨new ++ new', ?_, ?_, ?_, ?_⟩
  · rw [h₁', h₁, List.append_assoc]
  · rw [List.map_append, h₂', h₃, h₂, firstSeen_append]
  · rw [h₃', h₃, List.map_append, List.map_append, List.append_assoc]
  · rw [List.flatMap_append]
    exact h₄.trans h₄'

theorem visitDestination_connects {src : Endpoint} {s s' : Progress} {dest : Target}
    (h : visitDestination src s dest = .ok s') :
    ∃ dst, dest.endpoint = some dst ∧ Connects s [(src, dst)] s' := by
  simp only [visitDestination, bind_eq_ok, required_eq_ok] at h
  obtain ⟨ip, hip, port, hport, h⟩ := h
  refine ⟨⟨ip, port⟩, target_endpoint.mpr ⟨hip, hport⟩, ?_⟩
  split at h
  · rename_i seen
    rw [pure_eq_ok] at h
    subst h
    have key : pairKey (src, ⟨ip, port⟩) ∈ s.seenPairs := seen
    exact ⟨[], by simp, by simp [firstSeen, key], by simp, Drawn.refl _⟩
  · rename_i unseen
    simp only [bind_eq_ok, pure_eq_ok, Prod.exists] at h
    obtain ⟨c, ports, hc, rfl⟩ := h
    obtain ⟨hends, drawn⟩ := newConnection_drawn hc
    have key : pairKey (src, ⟨ip, port⟩) ∉ s.seenPairs := unseen
    exact ⟨[c], rfl, by simp [firstSeen, key, hends], by simp [hends, pairKey], by
      simpa using drawn⟩

theorem visitDestinations_connect {src : Endpoint} {s s' : Progress} {dests : List Target}
    (h : dests.foldlM (visitDestination src) s = .ok s') :
    (∀ d ∈ dests, ∃ dst, d.endpoint = some dst) ∧
      Connects s ((dests.filterMap Target.endpoint).map (fun dst => (src, dst))) s' := by
  induction dests generalizing s with
  | nil =>
    rw [List.foldlM_nil, pure_eq_ok] at h
    exact ⟨by simp, h ▸ Connects.refl s⟩
  | cons d dests ih =>
    rw [List.foldlM_cons, bind_eq_ok] at h
    obtain ⟨t, ht, h⟩ := h
    obtain ⟨dst, hdst, first⟩ := visitDestination_connects ht
    obtain ⟨all, rest⟩ := ih h
    refine ⟨?_, ?_⟩
    · intro x member
      rcases List.mem_cons.mp member with rfl | member
      · exact ⟨dst, hdst⟩
      · exact all x member
    · rw [List.filterMap_cons_some hdst, List.map_cons]
      exact first.trans rest

/-- A run that gets past an entity has found its endpoint and those of its destinations. -/
def Located (e : Entity) : Prop :=
  ¬ e.isFuzzer → (∃ src, e.endpoint = some src) ∧ ∀ d ∈ e.targets, ∃ dst, d.endpoint = some dst

theorem visitEntity_connects {s s' : Progress} {e : Entity} (h : visitEntity s e = .ok s') :
    Located e ∧ Connects s (linksOf e) s' := by
  unfold visitEntity at h
  split at h
  · rename_i fuzzer
    rw [pure_eq_ok] at h
    refine ⟨fun other => absurd fuzzer other, ?_⟩
    rw [linksOf, if_pos fuzzer]
    exact h ▸ Connects.refl s
  · rename_i other
    simp only [bind_eq_ok, required_eq_ok] at h
    obtain ⟨ip, hip, port, hport, h⟩ := h
    obtain ⟨all, connects⟩ := visitDestinations_connect h
    have src : e.endpoint = some ⟨ip, port⟩ := entity_endpoint.mpr ⟨hip, hport⟩
    refine ⟨fun _ => ⟨⟨_, src⟩, all⟩, ?_⟩
    rw [linksOf, if_neg other, src]
    exact connects

theorem visitEntities_connect {s s' : Progress} {config : List Entity}
    (h : config.foldlM visitEntity s = .ok s') :
    (∀ e ∈ config, Located e) ∧ Connects s (links config) s' := by
  induction config generalizing s with
  | nil =>
    rw [List.foldlM_nil, pure_eq_ok] at h
    exact ⟨by simp, h ▸ Connects.refl s⟩
  | cons e config ih =>
    rw [List.foldlM_cons, bind_eq_ok] at h
    obtain ⟨t, ht, h⟩ := h
    obtain ⟨located, first⟩ := visitEntity_connects ht
    obtain ⟨all, rest⟩ := ih h
    exact ⟨by simpa using ⟨located, all⟩, first.trans rest⟩

/-- The connections of a configuration, as the injector leaves them: one for each pair of
    linked endpoints, in the order in which the pairs first occur, on ports of its own. -/
structure Injected (config : List Entity) (connections : List Connection) : Prop where
  located : ∀ e ∈ config, Located e
  ends : connections.map ends = firstSeen pairKey [] (links config)
  nodup : (connections.flatMap proxyPorts).Nodup
  range : ∀ p ∈ connections.flatMap proxyPorts, 20000 ≤ p ∧ p ≤ 60000

theorem injectFuzzerRedirections_spec {config config' : List Entity} {draws draws' : List Draw}
    (h : injectFuzzerRedirections config draws = .ok (config', draws')) :
    ∃ fuzzer connections, getFuzzer config = some fuzzer ∧ Injected config connections ∧
      config' = updateFuzzer (Entity.withConnections connections) config := by
  unfold injectFuzzerRedirections at h
  split at h
  · cases h
  · rename_i fuzzer found
    simp only [bind_eq_ok, pure_eq_ok, Prod.mk.injEq] at h
    obtain ⟨s, hs, rfl, -⟩ := h
    obtain ⟨located, new, h₁, h₂, -, h₄⟩ := visitEntities_connect hs
    rw [List.nil_append] at h₁
    refine ⟨fuzzer, s.connections, found, ⟨located, h₁ ▸ h₂, ?_, h₁ ▸ h₄.range⟩, rfl⟩
    have used := h₄.used
    rw [List.nil_append] at used
    exact h₁ ▸ used ▸ h₄.nodup List.nodup_nil

/-- The endpoint of an entity that `inject_tcp_redirections` takes for a server. -/
def serverOf (e : Entity) : List Endpoint :=
  if e.role = some "server" ∧ e.protocolLower = .ok "tcp" ∧ e.ip.getD "" ≠ "" ∧
    e.port.getD (-1) ≠ -1 then [⟨e.ip.getD "", e.port.getD (-1)⟩] else []

def servers (config : List Entity) : List Endpoint := config.flatMap serverOf

def serverEnd (r : TCPRedirection) : Endpoint := ⟨r.server_ip, r.server_port⟩

def Redirects (s : TCPProgress) (l : List Endpoint) (s' : TCPProgress) : Prop :=
  ∃ new : List TCPRedirection, s'.tcpRedirections = s.tcpRedirections ++ new ∧
    new.map serverEnd = firstSeen id s.seenServers l ∧
    s'.seenServers = s.seenServers ++ new.map serverEnd ∧
    Drawn s.ports (new.map TCPRedirection.proxy_port) s'.ports

theorem Redirects.refl (s : TCPProgress) : Redirects s [] s :=
  ⟨[], by simp, rfl, by simp, Drawn.refl _⟩

theorem Redirects.trans {s t u : TCPProgress} {l l' : List Endpoint}
    (h : Redirects s l t) (h' : Redirects t l' u) : Redirects s (l ++ l') u := by
  obtain ⟨new, h₁, h₂, h₃, h₄⟩ := h
  obtain ⟨new', h₁', h₂', h₃', h₄'⟩ := h'
  refine ⟨new ++ new', ?_, ?_, ?_, ?_⟩
  · rw [h₁', h₁, List.append_assoc]
  · rw [List.map_append, h₂', h₃, h₂, firstSeen_append, List.map_id]
  · rw [h₃', h₃, List.map_append, List.append_assoc]
  · rw [List.map_append]
    exact h₄.trans h₄'

theorem visitServer_redirects {s s' : TCPProgress} {e : Entity} (h : visitServer s e = .ok s') :
    Redirects s (serverOf e) s' := by
  unfold visitServer at h
  split at h
  · rename_i role
    rw [pure_eq_ok] at h
    rw [serverOf, if_neg (by simp [role])]
    exact h ▸ Redirects.refl s
  · rename_i role
    rw [bind_eq_ok] at h
    obtain ⟨protocol, hp, h⟩ := h
    simp only at h
    split at h
    · rename_i other
      rw [pure_eq_ok] at h
      rw [serverOf, if_neg (by simp [hp, other])]
      exact h ▸ Redirects.refl s
    · rename_i tcp
      rw [ne_eq, not_not] at role tcp
      split at h
      · rename_i skip
        rw [pure_eq_ok] at h
        rw [serverOf, if_neg (by tauto)]
        exact h ▸ Redirects.refl s
      · rename_i full
        rw [not_or] at full
        rw [serverOf, if_pos ⟨role, tcp ▸ hp, full⟩]
        split at h
        · rename_i seen
          rw [pure_eq_ok] at h
          subst h
          exact ⟨[], by simp, by simp [firstSeen, seen], by simp, Drawn.refl _⟩
        · rename_i unseen
          simp only [bind_eq_ok, pure_eq_ok, Prod.exists] at h
          obtain ⟨p, ports, hport, rfl⟩ := h
          exact ⟨[⟨e.ip.getD "", e.port.getD (-1), p⟩], rfl,
            by simp [firstSeen, unseen, serverEnd], by simp [serverEnd], by
            simpa using randomPort_drawn hport⟩

theorem visitServers_redirect {s s' : TCPProgress} {config : List Entity}
    (h : config.foldlM visitServer s = .ok s') : Redirects s (servers config) s' := by
  induction config generalizing s with
  | nil =>
    rw [List.foldlM_nil, pure_eq_ok] at h
    exact h ▸ Redirects.refl s
  | cons e config ih =>
    rw [List.foldlM_cons, bind_eq_ok] at h
    obtain ⟨t, ht, h⟩ := h
    exact (visitServer_redirects ht).trans (ih h)

/-- The redirections of a configuration, as the injector leaves them: one for each server, on
    ports that no connection uses. -/
structure Redirected (config : List Entity) (used : List ℤ)
    (redirections : List TCPRedirection) : Prop where
  ends : redirections.map serverEnd = firstSeen id [] (servers config)
  nodup : used.Nodup → (used ++ redirections.map TCPRedirection.proxy_port).Nodup
  range : ∀ p ∈ redirections.map TCPRedirection.proxy_port, 20000 ≤ p ∧ p ≤ 60000

theorem injectTCPRedirections_spec {config config' : List Entity} {draws draws' : List Draw}
    (h : injectTCPRedirections config draws = .ok (config', draws')) :
    ∃ fuzzer redirections, getFuzzer config = some fuzzer ∧
      Redirected config ((fuzzer.connections.getD []).flatMap proxyPorts) redirections ∧
      config' = updateFuzzer (Entity.withTCPRedirections redirections) config := by
  unfold injectTCPRedirections at h
  split at h
  · cases h
  · rename_i fuzzer found
    simp only [bind_eq_ok, pure_eq_ok, Prod.mk.injEq] at h
    obtain ⟨s, hs, rfl, -⟩ := h
    obtain ⟨new, h₁, h₂, -, h₄⟩ := visitServers_redirect hs
    rw [List.nil_append] at h₁
    refine ⟨fuzzer, s.tcpRedirections, found, ⟨h₁ ▸ h₂, fun nodup => ?_, h₁ ▸ h₄.range⟩, rfl⟩
    exact h₁ ▸ h₄.used ▸ h₄.nodup nodup

section
variable {f : Entity → Entity} {config : List Entity}

/-- The fuzzer itself is no server. -/
theorem servers_update (same : ∀ e, (f e).role = e.role) :
    servers (updateFuzzer f config) = servers config := by
  have none : ∀ e : Entity, e.isFuzzer → serverOf e = [] := by
    intro e fuzzer
    rw [serverOf, if_neg]
    rintro ⟨server, -⟩
    rw [Entity.isFuzzer, server, Option.some.injEq] at fuzzer
    exact absurd fuzzer (by decide)
  induction config with
  | nil => rfl
  | cons e config ih =>
    by_cases fuzzer : e.isFuzzer
    · simp [updateFuzzer, servers, fuzzer, none e fuzzer, none (f e) ((same e).trans fuzzer)]
    · simp only [updateFuzzer, fuzzer, if_false, servers, List.flatMap_cons] at ih ⊢
      rw [ih]

end

theorem tupleLt_asymm {a b : Endpoint} (h : tupleLt a b) : ¬ tupleLt b a := by
  rintro h'
  rcases h with h | ⟨ip, h⟩ <;> rcases h' with h' | ⟨ip', h'⟩
  · exact lt_asymm h h'
  · exact lt_irrefl _ (ip' ▸ h)
  · exact lt_irrefl _ (ip ▸ h')
  · omega

theorem tupleLt_trichotomy (a b : Endpoint) : tupleLt a b ∨ a = b ∨ tupleLt b a := by
  rcases lt_trichotomy a.ip b.ip with h | ip | h
  · exact Or.inl (Or.inl h)
  · rcases lt_trichotomy a.port b.port with h | port | h
    · exact Or.inl (Or.inr ⟨ip, h⟩)
    · exact Or.inr (Or.inl (Endpoint.ext ip port))
    · exact Or.inr (Or.inr (Or.inr ⟨ip.symm, h⟩))
  · exact Or.inr (Or.inr (Or.inl h))

theorem sortedPair_comm (a b : Endpoint) : sortedPair a b = sortedPair b a := by
  unfold sortedPair
  rcases tupleLt_trichotomy a b with h | rfl | h
  · rw [if_neg (tupleLt_asymm h), if_pos h]
  · rfl
  · rw [if_pos h, if_neg (tupleLt_asymm h)]

/-- The key of a pair forgets nothing but its order. -/
theorem sortedPair_eq_iff (a b c d : Endpoint) :
    sortedPair a b = sortedPair c d ↔ a = c ∧ b = d ∨ a = d ∧ b = c := by
  constructor
  · intro h
    unfold sortedPair at h
    split at h <;> split at h <;> (rw [Prod.mk.injEq] at h; tauto)
  · rintro (⟨rfl, rfl⟩ | ⟨rfl, rfl⟩)
    · rfl
    · exact sortedPair_comm a b

end Cezfuzzer.RedirectionInjector
