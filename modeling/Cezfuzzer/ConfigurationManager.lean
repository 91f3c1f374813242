import Mathlib.Data.List.Forall2
import Cezfuzzer.CommanderConfig

set_option autoImplicit false

/-!
# `ConfigurationManager` and `ProxyBase`

The proxy's own reader of the configuration file, and the handlers that the proxy starts. An
exception anywhere in the file makes `parse` return false, and the proxy exit.
-/
namespace Cezfuzzer.ConfigurationManager
open CommanderConfig

structure GeneralSection where
  log_level : Option String
  log_dir : Option String
  deriving DecidableEq, Repr

structure NetworkSection where
  docker_network_name : Option String
  subnet : Option String
  gateway : Option String
  deriving DecidableEq, Repr

structure ConfigFile where
  general : Option GeneralSection
  network : Option NetworkSection
  entities : List Entity
  deriving DecidableEq, Repr

/-- `utils::TCPRedirection` -/
structure ProxyRedirection where
  server_ip : String
  server_port : UInt16
  proxy_port : UInt16
  deriving DecidableEq, Repr

structure EntityConfig where
  name : String
  role : String
  protocol : String
  ip : String
  port : ℤ
  fuzzed : Bool
  binary_path : String
  exec_with : String
  destinations : List Endpoint
  connect_to : Option Endpoint
  connections : List Connection
  tcp_redirections : List ProxyRedirection
  deriving DecidableEq, Repr

def IsInt (n : ℤ) : Prop := -2147483648 ≤ n ∧ n ≤ 2147483647

instance (n : ℤ) : Decidable (IsInt n) := inferInstanceAs (Decidable (_ ∧ _))

/-- `as<int>()` -/
def asInt (n : ℤ) : Option ℤ := if IsInt n then some n else none

/-- `as<std::string>()` of a `protocol` field, or the empty string if there is none. -/
def asProtocol : Option Scalar → Option String
  | none => some ""
  | some (.str text) => some text
  | some (.other text) => text

def parseTarget (t : Target) : Option Endpoint := do
  let ip ← t.ip
  let port ← t.port
  let port ← asInt port
  return ⟨ip, port⟩

def parseConnection (c : Connection) : Option Connection := do
  let entityA_port ← asInt c.entityA_port
  let entityA_proxy_port_recv ← asInt c.entityA_proxy_port_recv
  let entityA_proxy_port_send ← asInt c.entityA_proxy_port_send
  let entityB_port ← asInt c.entityB_port
  let entityB_proxy_port_recv ← asInt c.entityB_proxy_port_recv
  let entityB_proxy_port_send ← asInt c.entityB_proxy_port_send
  return ⟨c.entityA_ip, entityA_port, entityA_proxy_port_recv, entityA_proxy_port_send,
    c.entityB_ip, entityB_port, entityB_proxy_port_recv, entityB_proxy_port_send⟩

/-- The ports are cut off to 16 bits. -/
def parseRedirection (r : TCPRedirection) : Option ProxyRedirection := do
  let server_port ← asInt r.server_port
  let proxy_port ← asInt r.proxy_port
  return ⟨r.server_ip, UInt16.ofInt server_port, UInt16.ofInt proxy_port⟩

def parseConnectTo : Option Target → Option (Option Endpoint)
  | none => some none
  | some t => (parseTarget t).map some

/-- The `args` are left out. They are taken to be scalars, which `parse` can always read. -/
def parseEntity (data : Entity) : Option EntityConfig := do
  let role ← data.role
  let protocol ← asProtocol data.protocol
  let ip ← data.ip
  let port ← data.port
  let port ← asInt port
  let fuzzed ← data.fuzzed
  let binary_path ← data.binary_path
  let exec_with ← data.exec_with
  let destinations ← data.targets.mapM parseTarget
  let connect_to ← parseConnectTo data.connect_to
  let connections ← (data.connections.getD []).mapM parseConnection
  let tcp_redirections ← (data.tcp_redirections.getD []).mapM parseRedirection
  return ⟨data.name, role, protocol, ip, port, fuzzed, binary_path, exec_with, destinations,
    connect_to, connections, tcp_redirections⟩

def GeneralSection.Complete (s : GeneralSection) : Prop := s.log_level.isSome ∧ s.log_dir.isSome

def NetworkSection.Complete (s : NetworkSection) : Prop :=
  s.docker_network_name.isSome ∧ s.subnet.isSome ∧ s.gateway.isSome

instance (s : GeneralSection) : Decidable s.Complete := inferInstanceAs (Decidable (_ ∧ _))

instance (s : NetworkSection) : Decidable s.Complete := inferInstanceAs (Decidable (_ ∧ _))

/-- The entities, if `parse` returns true. -/
def parse (config : ConfigFile) : Option (List EntityConfig) :=
  if (∀ s ∈ config.general, s.Complete) ∧ ∀ s ∈ config.network, s.Complete then
    config.entities.mapM parseEntity
  else none

/-- The code returns an empty configuration if there is no fuzzer. -/
def fuzzerConfig (entities : List EntityConfig) : Option EntityConfig :=
  entities.find? (·.role = "fuzzer")

/-- The two lists of entities, and what each handler is made of if it is started. -/
structure ProxyBase where
  udp_entities : List EntityConfig
  tcp_entities : List EntityConfig
  udp_handler : Option (List Connection)
  tcp_handler : Option (List ProxyRedirection)
  deriving DecidableEq, Repr

def startHandlers (entities : List EntityConfig) : ProxyBase :=
  let udp_entities := entities.filter (·.protocol = "udp")
  let tcp_entities := entities.filter (·.protocol = "tcp")
  { udp_entities
    tcp_entities
    udp_handler := if udp_entities.length > 0 then
      some ((fuzzerConfig entities).elim [] EntityConfig.connections) else none
    tcp_handler := if tcp_entities.length > 0 then
      some ((fuzzerConfig entities).elim [] EntityConfig.tcp_redirections) else none }

/-- `none` is `exit(-1)`. -/
def proxyBase (config : ConfigFile) : Option ProxyBase := (parse config).map startHandlers

theorem mapM_eq_some_iff {α β : Type} {f : α → Option β} {l : List α} {l' : List β} :
    l.mapM f = some l' ↔ List.Forall₂ (fun a b => f a = some b) l l' := by
  induction l generalizing l' with
  | nil => cases l' <;> simp
  | cons a l ih =>
    rw [List.mapM_cons, List.forall₂_cons_left_iff]
    simp only [Option.bind_eq_bind, Option.bind_eq_some_iff, Option.pure_def, Option.some.injEq,
      ih]
    constructor
    · rintro ⟨b, hb, bs, hbs, rfl⟩
      exact ⟨b, bs, hb, hbs, rfl⟩
    · rintro ⟨b, bs, hb, hbs, rfl⟩
      exact ⟨b, hb, bs, hbs, rfl⟩

theorem mapM_isSome_iff {α β : Type} {f : α → Option β} {l : List α} :
    (l.mapM f).isSome = true ↔ ∀ a ∈ l, (f a).isSome = true := by
  induction l with
  | nil => simp
  | cons a l ih =>
    rw [List.mapM_cons, List.forall_mem_cons, ← ih]
    cases f a <;> cases l.mapM f <;> simp

theorem exists_of_mem {α β : Type} {R : α → β → Prop} {l : List α} {l' : List β}
    (h : List.Forall₂ R l l') {a : α} (member : a ∈ l) : ∃ b ∈ l', R a b := by
  induction h with
  | nil => cases member
  | cons head tail ih =>
    rcases List.mem_cons.mp member with rfl | member
    · exact ⟨_, List.mem_cons_self, head⟩
    · obtain ⟨b, hb, related⟩ := ih member
      exact ⟨b, List.mem_cons_of_mem _ hb, related⟩

def ReadableTarget (t : Target) : Prop := t.ip.isSome ∧ ∃ port ∈ t.port, IsInt port

def ReadableConnection (c : Connection) : Prop :=
  IsInt c.entityA_port ∧ IsInt c.entityA_proxy_port_recv ∧ IsInt c.entityA_proxy_port_send ∧
    IsInt c.entityB_port ∧ IsInt c.entityB_proxy_port_recv ∧ IsInt c.entityB_proxy_port_send

def ReadableRedirection (r : TCPRedirection) : Prop := IsInt r.server_port ∧ IsInt r.proxy_port

/-- All that the proxy requires of an entity. -/
structure ReadableEntity (e : Entity) : Prop where
  role : e.role.isSome
  protocol : (asProtocol e.protocol).isSome
  ip : e.ip.isSome
  port : ∃ port ∈ e.port, IsInt port
  fuzzed : e.fuzzed.isSome
  binary_path : e.binary_path.isSome
  exec_with : e.exec_with.isSome
  destinations : ∀ t ∈ e.targets, ReadableTarget t
  connect_to : ∀ t ∈ e.connect_to, ReadableTarget t
  connections : ∀ c ∈ e.connections.getD [], ReadableConnection c
  tcp_redirections : ∀ r ∈ e.tcp_redirections.getD [], ReadableRedirection r

structure Readable (config : ConfigFile) : Prop where
  general : ∀ s ∈ config.general, s.Complete
  network : ∀ s ∈ config.network, s.Complete
  entities : ∀ e ∈ config.entities, ReadableEntity e

theorem asInt_eq_some {n m : ℤ} : asInt n = some m ↔ IsInt n ∧ n = m := by
  unfold asInt
  split <;> simp_all

theorem parseTarget_isSome {t : Target} : (parseTarget t).isSome = true ↔ ReadableTarget t := by
  obtain ⟨ip, port⟩ := t
  cases ip with
  | none => simp [parseTarget, ReadableTarget]
  | some ip =>
    cases port with
    | none => simp [parseTarget, ReadableTarget]
    | some port =>
      by_cases h : IsInt port <;> simp [parseTarget, ReadableTarget, asInt, h]

theorem parseConnection_eq_some {c c' : Connection} :
    parseConnection c = some c' ↔ ReadableConnection c ∧ c = c' := by
  simp only [parseConnection, ReadableConnection, Option.bind_eq_bind, Option.bind_eq_some_iff,
    asInt_eq_some, Option.pure_def, Option.some.injEq]
  constructor
  · rintro ⟨_, ⟨h₁, rfl⟩, _, ⟨h₂, rfl⟩, _, ⟨h₃, rfl⟩, _, ⟨h₄, rfl⟩, _, ⟨h₅, rfl⟩, _, ⟨h₆, rfl⟩, rfl⟩
    exact ⟨⟨h₁, h₂, h₃, h₄, h₅, h₆⟩, rfl⟩
  · rintro ⟨⟨h₁, h₂, h₃, h₄, h₅, h₆⟩, rfl⟩
    exact ⟨_, ⟨h₁, rfl⟩, _, ⟨h₂, rfl⟩, _, ⟨h₃, rfl⟩, _, ⟨h₄, rfl⟩, _, ⟨h₅, rfl⟩, _, ⟨h₆, rfl⟩, rfl⟩

theorem parseRedirection_eq_some {r : TCPRedirection} {r' : ProxyRedirection} :
    parseRedirection r = some r' ↔ ReadableRedirection r ∧
      r' = ⟨r.server_ip, UInt16.ofInt r.server_port, UInt16.ofInt r.proxy_port⟩ := by
  simp only [parseRedirection, ReadableRedirection, Option.bind_eq_bind, Option.bind_eq_some_iff,
    asInt_eq_some, Option.pure_def, Option.some.injEq]
  constructor
  · rintro ⟨_, ⟨h₁, rfl⟩, _, ⟨h₂, rfl⟩, rfl⟩
    exact ⟨⟨h₁, h₂⟩, rfl⟩
  · rintro ⟨⟨h₁, h₂⟩, rfl⟩
    exact ⟨_, ⟨h₁, rfl⟩, _, ⟨h₂, rfl⟩, rfl⟩

theorem parseConnection_isSome {c : Connection} :
    (parseConnection c).isSome = true ↔ ReadableConnection c := by
  simp [Option.isSome_iff_exists, parseConnection_eq_some]

theorem parseRedirection_isSome {r : TCPRedirection} :
    (parseRedirection r).isSome = true ↔ ReadableRedirection r := by
  simp [Option.isSome_iff_exists, parseRedirection_eq_some]

theorem parseConnectTo_isSome {o : Option Target} :
    (parseConnectTo o).isSome = true ↔ ∀ t ∈ o, ReadableTarget t := by
  cases o with
  | none => simp [parseConnectTo]
  | some t => simp [parseConnectTo, parseTarget_isSome]

/-- What of an entity the handlers depend on. -/
structure Parsed (e : Entity) (c : EntityConfig) : Prop where
  role : e.role = some c.role
  protocol : asProtocol e.protocol = some c.protocol
  connections : (e.connections.getD []).mapM parseConnection = some c.connections
  tcp_redirections :
    (e.tcp_redirections.getD []).mapM parseRedirection = some c.tcp_redirections

theorem parseEntity_parsed {e : Entity} {c : EntityConfig} (h : parseEntity e = some c) :
    Parsed e c := by
  simp only [parseEntity, Option.bind_eq_bind, Option.bind_eq_some_iff, Option.pure_def,
    Option.some.injEq] at h
  obtain ⟨role, hrole, protocol, hprotocol, ip, -, port, -, _, -, fuzzed, -, binary_path, -,
    exec_with, -, destinations, -, connect_to, -, connections, hconnections, redirections,
    hredirections, rfl⟩ := h
  exact ⟨hrole, hprotocol, hconnections, hredirections⟩

theorem parseEntity_isSome {e : Entity} :
    (parseEntity e).isSome = true ↔ ReadableEntity e := by
  have destinations : (e.targets.mapM parseTarget).isSome = true ↔
      ∀ t ∈ e.targets, ReadableTarget t := by
    simp only [mapM_isSome_iff, parseTarget_isSome]
  have connections : ((e.connections.getD []).mapM parseConnection).isSome = true ↔
      ∀ c ∈ e.connections.getD [], ReadableConnection c := by
    simp only [mapM_isSome_iff, parseConnection_isSome]
  have redirections : ((e.tcp_redirections.getD []).mapM parseRedirection).isSome = true ↔
      ∀ r ∈ e.tcp_redirections.getD [], ReadableRedirection r := by
    simp only [mapM_isSome_iff, parseRedirection_isSome]
  constructor
  · intro h
    obtain ⟨c, h⟩ := Option.isSome_iff_exists.mp h
    simp only [parseEntity, Option.bind_eq_bind, Option.bind_eq_some_iff, Option.pure_def,
      asInt_eq_some] at h
    obtain ⟨role, hrole, protocol, hprotocol, ip, hip, port, hport, _, ⟨int, -⟩, fuzzed, hfuzzed,
      path, hpath, exec, hexec, ds, hds, server, hto, cs, hcs, rs, hrs, -⟩ := h
    exact ⟨by simp [hrole], by simp [hprotocol], by simp [hip], ⟨port, hport, int⟩,
      by simp [hfuzzed], by simp [hpath], by simp [hexec], destinations.mp (by simp [hds]),
      parseConnectTo_isSome.mp (by simp [hto]), connections.mp (by simp [hcs]),
      redirections.mp (by simp [hrs])⟩
  · intro h
    obtain ⟨role, hrole⟩ := Option.isSome_iff_exists.mp h.role
    obtain ⟨protocol, hprotocol⟩ := Option.isSome_iff_exists.mp h.protocol
    obtain ⟨ip, hip⟩ := Option.isSome_iff_exists.mp h.ip
    obtain ⟨port, hport, int⟩ := h.port
    obtain ⟨fuzzed, hfuzzed⟩ := Option.isSome_iff_exists.mp h.fuzzed
    obtain ⟨path, hpath⟩ := Option.isSome_iff_exists.mp h.binary_path
    obtain ⟨exec, hexec⟩ := Option.isSome_iff_exists.mp h.exec_with
    obtain ⟨ds, hds⟩ := Option.isSome_iff_exists.mp (destinations.mpr h.destinations)
    obtain ⟨server, hto⟩ := Option.isSome_iff_exists.mp (parseConnectTo_isSome.mpr h.connect_to)
    obtain ⟨cs, hcs⟩ := Option.isSome_iff_exists.mp (connections.mpr h.connections)
    obtain ⟨rs, hrs⟩ := Option.isSome_iff_exists.mp (redirections.mpr h.tcp_redirections)
    simp only [Option.mem_def] at hport
    simp [parseEntity, hrole, hprotocol, hip, hport, asInt, int, hfuzzed, hpath, hexec, hds, hto,
      hcs, hrs]

theorem parse_isSome {config : ConfigFile} : (parse config).isSome = true ↔ Readable config := by
  unfold parse
  split
  · rename_i sections
    simp only [mapM_isSome_iff, parseEntity_isSome]
    exact ⟨fun h => ⟨sections.1, sections.2, h⟩, Readable.entities⟩
  · rename_i incomplete
    simp only [Option.isSome_none, Bool.false_eq_true, false_iff]
    exact fun h => incomplete ⟨h.general, h.network⟩

theorem parse_entities {config : ConfigFile} {es : List EntityConfig}
    (h : parse config = some es) :
    List.Forall₂ (fun e c => parseEntity e = some c) config.entities es := by
  unfold parse at h
  split at h
  · exact mapM_eq_some_iff.mp h
  · cases h

/-- Both programs find the same fuzzer. -/
theorem parse_fuzzer {l : List Entity} {es : List EntityConfig} {fuzzer : Entity}
    (h : List.Forall₂ (fun e c => parseEntity e = some c) l es)
    (found : getFuzzer l = some fuzzer) :
    ∃ c, fuzzerConfig es = some c ∧ parseEntity fuzzer = some c := by
  induction h with
  | nil => cases found
  | @cons e c l es hc h ih =>
    have role := (parseEntity_parsed hc).role
    by_cases own : c.role = "fuzzer"
    · rw [getFuzzer, List.find?_cons_of_pos (by simp [Entity.isFuzzer, role, own])] at found
      cases found
      exact ⟨c, List.find?_cons_of_pos (by simp [own]), hc⟩
    · rw [getFuzzer, List.find?_cons_of_neg (by simp [Entity.isFuzzer, role, own])] at found
      rw [fuzzerConfig, List.find?_cons_of_neg (by simp [own])]
      exact ih found

theorem parseConnections_eq {cs cs' : List Connection} (h : cs.mapM parseConnection = some cs') :
    cs' = cs := by
  have same := mapM_eq_some_iff.mp h
  simp only [parseConnection_eq_some] at same
  exact (List.forall₂_eq_eq_eq ▸ same.imp fun _ _ h => h.2 : cs = cs').symm

end Cezfuzzer.ConfigurationManager
