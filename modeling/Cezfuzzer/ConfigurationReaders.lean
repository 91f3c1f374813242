import Mathlib.Data.String.Basic
import Cezfuzzer.FallibleLoops

set_option autoImplicit false

/-!
# The two readers of the configuration file

The launcher and the proxy each have a `ConfigurationManager`. The proxy's reads two more
lists of every entity, after all that the launcher's reads, so it is the one that can fail.
-/
namespace Cezfuzzer.ConfigurationReaders
open FallibleLoops (ok_bind mapM_ok)

/-- What the readers use of yaml-cpp, which may throw at every access. Indexing a node that is
    not const may add to the document, everything else only reads it. -/
structure YamlCpp where
  Document : Type
  Node : Type
  Item : Type
  loadFile : String → Except String (Node × Document)
  index : Node → String → StateT Document (Except String) Node
  constIndex : Document → Node → String → Except String Node
  isDefined : Document → Node → Bool
  iterate : Document → Node → Except String (List Item)
  first : Item → Node
  second : Item → Node
  value : Item → Node
  asString : Document → Node → Except String String
  asInt : Document → Node → Except String ℤ
  asBool : Document → Node → Except String Bool

structure GeneralConfig where
  log_level : String
  log_dir : String
  deriving DecidableEq, Repr

structure NetworkConfig where
  docker_network_name : String
  subnet : String
  gateway : String
  deriving DecidableEq, Repr

structure Destination where
  ip : String
  port : ℤ
  deriving DecidableEq, Repr

structure ConnectTo where
  ip : String
  port : ℤ
  deriving DecidableEq, Repr

/-- `strcmp(a.c_str(), b) == 0` -/
def sameCString (a b : String) : Bool :=
  a.toList.takeWhile (· ≠ '\x00') = b.toList.takeWhile (· ≠ '\x00')

namespace YamlCpp
variable (yaml : YamlCpp)

/-- `config["section"]["key"].as<std::string>()` -/
def sectionString (config : yaml.Node) (name key : String) :
    StateT yaml.Document (Except String) String := do
  let node ← yaml.index config name
  let field ← yaml.index node key
  yaml.asString (← get) field

/-- `if (config["section"])` -/
def hasSection (config : yaml.Node) (name : String) :
    StateT yaml.Document (Except String) Bool := do
  let node ← yaml.index config name
  return yaml.isDefined (← get) node

variable (doc : yaml.Document) (data : yaml.Node) (key : String)

def string : Except String String := do
  yaml.asString doc (← yaml.constIndex doc data key)

def int : Except String ℤ := do
  yaml.asInt doc (← yaml.constIndex doc data key)

def bool : Except String Bool := do
  yaml.asBool doc (← yaml.constIndex doc data key)

/-- `if (data["key"])`, with what the field is otherwise. -/
def ifHas {α : Type} (absent : α) (present : Except String α) : Except String α := do
  let node ← yaml.constIndex doc data key
  if yaml.isDefined doc node then present else return absent

/-- `for (const auto& it : data["key"])` -/
def items : Except String (List yaml.Item) := do
  yaml.iterate doc (← yaml.constIndex doc data key)

end YamlCpp

namespace Launcher

structure EntityConfig where
  name : String
  role : String
  protocol : String
  ip : String
  port : ℤ
  fuzzed : Bool
  binary_path : String
  exec_with : String
  args : List String
  destinations : List Destination
  connect_to : Option ConnectTo
  deriving DecidableEq, Repr

structure ConfigurationManager where
  general : GeneralConfig
  network : NetworkConfig
  entities : List EntityConfig
  deriving DecidableEq, Repr

variable (yaml : YamlCpp)

def parseGeneral (config : yaml.Node) :
    StateT yaml.Document (Except String) GeneralConfig := do
  if ← yaml.hasSection config "general" then
    let log_level ← yaml.sectionString config "general" "log_level"
    let log_dir ← yaml.sectionString config "general" "log_dir"
    return ⟨log_level, log_dir⟩
  else return ⟨"", ""⟩

def parseNetwork (config : yaml.Node) :
    StateT yaml.Document (Except String) NetworkConfig := do
  if ← yaml.hasSection config "network" then
    let docker_network_name ← yaml.sectionString config "network" "docker_network_name"
    let subnet ← yaml.sectionString config "network" "subnet"
    let gateway ← yaml.sectionString config "network" "gateway"
    return ⟨docker_network_name, subnet, gateway⟩
  else return ⟨"", "", ""⟩

def parseEntity (doc : yaml.Document) (it : yaml.Item) : Except String EntityConfig := do
  let name ← yaml.asString doc (yaml.first it)
  let data := yaml.second it
  let role ← yaml.string doc data "role"
  let protocol ← yaml.ifHas doc data "protocol" "" (yaml.string doc data "protocol")
  let ip ← yaml.string doc data "ip"
  let port ← yaml.int doc data "port"
  let fuzzed ← yaml.bool doc data "fuzzed"
  let binary_path ← yaml.string doc data "binary_path"
  let exec_with ← yaml.string doc data "exec_with"
  let args ← yaml.ifHas doc data "args" [] (do
    (← yaml.items doc data "args").mapM (fun arg => yaml.asString doc (yaml.value arg)))
  let destinations ← yaml.ifHas doc data "destinations" [] (do
    (← yaml.items doc data "destinations").mapM (fun dst => do
      let ip ← yaml.string doc (yaml.value dst) "ip"
      let port ← yaml.int doc (yaml.value dst) "port"
      return ⟨ip, port⟩))
  let connect_to ← yaml.ifHas doc data "connect_to" none (do
    let ip ← yaml.string doc (← yaml.constIndex doc data "connect_to") "ip"
    let port ← yaml.int doc (← yaml.constIndex doc data "connect_to") "port"
    return some ⟨ip, port⟩)
  return ⟨name, role, protocol, ip, port, fuzzed, binary_path, exec_with, args, destinations,
    connect_to⟩

def parseEntities (config : yaml.Node) :
    StateT yaml.Document (Except String) (List EntityConfig) := do
  if ← yaml.hasSection config "entities" then
    let node ← yaml.index config "entities"
    let doc ← get
    let its ← yaml.iterate doc node
    StateT.lift (its.mapM (parseEntity yaml doc))
  else return []

/-- `parse` of a new manager; an exception is its `false`. -/
def parse (path : String) : Except String ConfigurationManager := do
  let (config, doc) ← yaml.loadFile path
  let parsed : StateT yaml.Document (Except String) ConfigurationManager := do
    let general ← parseGeneral yaml config
    let network ← parseNetwork yaml config
    let entities ← parseEntities yaml config
    return ⟨general, network, entities⟩
  let (cm, _) ← parsed.run doc
  return cm

def ConfigurationManager.getEntities (cm : ConfigurationManager) (IP : String) :
    List EntityConfig :=
  cm.entities.filter (fun entity => sameCString entity.ip IP)

/-- `none` is the empty configuration that the code returns if there is no fuzzer. -/
def ConfigurationManager.getFuzzer (cm : ConfigurationManager) : Option EntityConfig :=
  cm.entities.find? (·.role = "fuzzer")

end Launcher

namespace Proxy

structure Connection where
  entityA_ip : String
  entityA_port : ℤ
  entityA_proxy_port_recv : ℤ
  entityA_proxy_port_send : ℤ
  entityB_ip : String
  entityB_port : ℤ
  entityB_proxy_port_recv : ℤ
  entityB_proxy_port_send : ℤ
  deriving DecidableEq, Repr

structure TCPRedirection where
  server_ip : String
  server_port : UInt16
  proxy_port : UInt16
  deriving DecidableEq, Repr

structure EntityConfig where
  name : String
  role : String
  protocol : String
  ip : String
  port : ℤ
  fuzzed : Bool
  binary_path : String
  exec_with : String
  args : List String
  destinations : List Destination
  connect_to : Option ConnectTo
  connections : List Connection
  tcp_redirections : List TCPRedirection
  deriving DecidableEq, Repr

structure ConfigurationManager where
  general : GeneralConfig
  network : NetworkConfig
  entities : List EntityConfig
  deriving DecidableEq, Repr

variable (yaml : YamlCpp)

def parseGeneral (config : yaml.Node) :
    StateT yaml.Document (Except String) GeneralConfig := do
  if ← yaml.hasSection config "general" then
    let log_level ← yaml.sectionString config "general" "log_level"
    let log_dir ← yaml.sectionString config "general" "log_dir"
    return ⟨log_level, log_dir⟩
  else return ⟨"", ""⟩

def parseNetwork (config : yaml.Node) :
    StateT yaml.Document (Except String) NetworkConfig := do
  if ← yaml.hasSection config "network" then
    let docker_network_name ← yaml.sectionString config "network" "docker_network_name"
    let subnet ← yaml.sectionString config "network" "subnet"
    let gateway ← yaml.sectionString config "network" "gateway"
    return ⟨docker_network_name, subnet, gateway⟩
  else return ⟨"", "", ""⟩

def parseEntity (doc : yaml.Document) (it : yaml.Item) : Except String EntityConfig := do
  let name ← yaml.asString doc (yaml.first it)
  let data := yaml.second it
  let role ← yaml.string doc data "role"
  let protocol ← yaml.ifHas doc data "protocol" "" (yaml.string doc data "protocol")
  let ip ← yaml.string doc data "ip"
  let port ← yaml.int doc data "port"
  let fuzzed ← yaml.bool doc data "fuzzed"
  let binary_path ← yaml.string doc data "binary_path"
  let exec_with ← yaml.string doc data "exec_with"
  let args ← yaml.ifHas doc data "args" [] (do
    (← yaml.items doc data "args").mapM (fun arg => yaml.asString doc (yaml.value arg)))
  let destinations ← yaml.ifHas doc data "destinations" [] (do
    (← yaml.items doc data "destinations").mapM (fun dst => do
      let ip ← yaml.string doc (yaml.value dst) "ip"
      let port ← yaml.int doc (yaml.value dst) "port"
      return ⟨ip, port⟩))
  let connect_to ← yaml.ifHas doc data "connect_to" none (do
    let ip ← yaml.string doc (← yaml.constIndex doc data "connect_to") "ip"
    let port ← yaml.int doc (← yaml.constIndex doc data "connect_to") "port"
    return some ⟨ip, port⟩)
  let connections ← yaml.ifHas doc data "connections" [] (do
    (← yaml.items doc data "connections").mapM (fun it => do
      let cnode := yaml.value it
      let entityA_ip ← yaml.string doc cnode "entityA_ip"
      let entityA_port ← yaml.int doc cnode "entityA_port"
      let entityA_proxy_port_recv ← yaml.int doc cnode "entityA_proxy_port_recv"
      let entityA_proxy_port_send ← yaml.int doc cnode "entityA_proxy_port_send"
      let entityB_ip ← yaml.string doc cnode "entityB_ip"
      let entityB_port ← yaml.int doc cnode "entityB_port"
      let entityB_proxy_port_recv ← yaml.int doc cnode "entityB_proxy_port_recv"
      let entityB_proxy_port_send ← yaml.int doc cnode "entityB_proxy_port_send"
      return ⟨entityA_ip, entityA_port, entityA_proxy_port_recv, entityA_proxy_port_send,
        entityB_ip, entityB_port, entityB_proxy_port_recv, entityB_proxy_port_send⟩))
  let tcp_redirections ← yaml.ifHas doc data "tcp_redirections" [] (do
    (← yaml.items doc data "tcp_redirections").mapM (fun it => do
      let cnode := yaml.value it
      let server_ip ← yaml.string doc cnode "server_ip"
      let server_port ← yaml.int doc cnode "server_port"
      let proxy_port ← yaml.int doc cnode "proxy_port"
      return ⟨server_ip, UInt16.ofInt server_port, UInt16.ofInt proxy_port⟩))
  return ⟨name, role, protocol, ip, port, fuzzed, binary_path, exec_with, args, destinations,
    connect_to, connections, tcp_redirections⟩

def parseEntities (config : yaml.Node) :
    StateT yaml.Document (Except String) (List EntityConfig) := do
  if ← yaml.hasSection config "entities" then
    let node ← yaml.index config "entities"
    let doc ← get
    let its ← yaml.iterate doc node
    StateT.lift (its.mapM (parseEntity yaml doc))
  else return []

def parse (path : String) : Except String ConfigurationManager := do
  let (config, doc) ← yaml.loadFile path
  let parsed : StateT yaml.Document (Except String) ConfigurationManager := do
    let general ← parseGeneral yaml config
    let network ← parseNetwork yaml config
    let entities ← parseEntities yaml config
    return ⟨general, network, entities⟩
  let (cm, _) ← parsed.run doc
  return cm

def ConfigurationManager.getEntities (cm : ConfigurationManager) (IP : String) :
    List EntityConfig :=
  cm.entities.filter (fun entity => sameCString entity.ip IP)

def ConfigurationManager.getFuzzer (cm : ConfigurationManager) : Option EntityConfig :=
  cm.entities.find? (·.role = "fuzzer")

/-- What the launcher's `EntityConfig` has of an entity. -/
def EntityConfig.shared (e : EntityConfig) : Launcher.EntityConfig :=
  ⟨e.name, e.role, e.protocol, e.ip, e.port, e.fuzzed, e.binary_path, e.exec_with, e.args,
    e.destinations, e.connect_to⟩

end Proxy

theorem ok_state_bind {σ ε α β : Type} {x : StateT σ (Except ε) α}
    {f : α → StateT σ (Except ε) β} {s : σ} {r : β × σ} :
    (x >>= f) s = .ok r ↔ ∃ a t, x s = .ok (a, t) ∧ f a t = .ok r := by
  change (x s >>= fun p => f p.1 p.2) = _ ↔ _
  rw [ok_bind, Prod.exists]

/-- Two programs that begin alike. -/
theorem ok_prefix {ε α β γ : Type} {x : Except ε α} {f : α → Except ε β} {g : α → Except ε γ}
    {b : β} {c : γ} (h : x >>= f = .ok b) (same : ∀ a, f a = .ok b → g a = .ok c) :
    x >>= g = .ok c := by
  obtain ⟨a, ha, h⟩ := ok_bind.mp h
  exact ok_bind.mpr ⟨a, ha, same a h⟩

variable {yaml : YamlCpp}

/-- The proxy reads everything that the launcher reads before the two lists of its own. -/
theorem parseEntity_shared {doc : yaml.Document} {it : yaml.Item} {e : Proxy.EntityConfig}
    (h : Proxy.parseEntity yaml doc it = .ok e) :
    Launcher.parseEntity yaml doc it = .ok e.shared := by
  refine ok_prefix h fun name h => ?_
  refine ok_prefix h fun role h => ?_
  refine ok_prefix h fun protocol h => ?_
  refine ok_prefix h fun ip h => ?_
  refine ok_prefix h fun port h => ?_
  refine ok_prefix h fun fuzzed h => ?_
  refine ok_prefix h fun binary_path h => ?_
  refine ok_prefix h fun exec_with h => ?_
  refine ok_prefix h fun args h => ?_
  refine ok_prefix h fun destinations h => ?_
  refine ok_prefix h fun connect_to h => ?_
  obtain ⟨connections, -, h⟩ := ok_bind.mp h
  obtain ⟨redirections, -, h⟩ := ok_bind.mp h
  cases h
  rfl

theorem parseEntities_shared {config : yaml.Node} {doc doc' : yaml.Document}
    {es : List Proxy.EntityConfig}
    (h : Proxy.parseEntities yaml config doc = .ok (es, doc')) :
    Launcher.parseEntities yaml config doc =
      .ok (es.map Proxy.EntityConfig.shared, doc') := by
  obtain ⟨present, t, hpresent, h⟩ := ok_state_bind.mp h
  refine ok_state_bind.mpr ⟨present, t, hpresent, ?_⟩
  cases present
  · cases h
    rfl
  · obtain ⟨node, t₁, hnode, h⟩ := ok_state_bind.mp h
    obtain ⟨doc₁, t₂, hdoc, h⟩ := ok_state_bind.mp h
    obtain ⟨its, t₃, hits, h⟩ := ok_state_bind.mp h
    refine ok_state_bind.mpr ⟨node, t₁, hnode, ?_⟩
    refine ok_state_bind.mpr ⟨doc₁, t₂, hdoc, ?_⟩
    refine ok_state_bind.mpr ⟨its, t₃, hits, ?_⟩
    obtain ⟨es', hes, h⟩ := ok_bind.mp h
    cases h
    exact ok_bind.mpr ⟨_, mapM_ok (fun _ _ => parseEntity_shared) hes, rfl⟩

theorem find_map_shared (es : List Proxy.EntityConfig) :
    (es.map Proxy.EntityConfig.shared).find? (·.role = "fuzzer") =
      (es.find? (·.role = "fuzzer")).map Proxy.EntityConfig.shared :=
  List.find?_map ..

theorem filter_map_shared (es : List Proxy.EntityConfig) (IP : String) :
    (es.map Proxy.EntityConfig.shared).filter (fun entity => sameCString entity.ip IP) =
      (es.filter (fun entity => sameCString entity.ip IP)).map Proxy.EntityConfig.shared :=
  List.filter_map ..

/-- A document of maps, sequences and typed scalars, and what yaml-cpp does with it. -/
inductive Tree where
  | text (value : String)
  | int (value : ℤ)
  | bool (value : Bool)
  | sequence (items : List Tree)
  | map (entries : List (String × Tree))

def Tree.find : Option Tree → String → Except String (Option Tree)
  | some (.map entries), key => .ok (entries.lookup key)
  | some (.sequence _), _ => .ok none
  | some _, _ => .error "operator[] call on a scalar"
  | none, _ => .error "invalid node"

def Tree.items : Option Tree → List (Option Tree × Option Tree × Option Tree)
  | some (.map entries) => entries.map (fun e => (some (.text e.1), some e.2, none))
  | some (.sequence items) => items.map (fun item => (none, none, some item))
  | _ => []

def treeYaml (tree : Tree) : YamlCpp where
  Document := Unit
  Node := Option Tree
  Item := Option Tree × Option Tree × Option Tree
  loadFile _ := .ok (some tree, ())
  index node key := Tree.find node key
  constIndex _ := Tree.find
  isDefined _ := Option.isSome
  iterate _ node := .ok (Tree.items node)
  first := fun it => it.1
  second := fun it => it.2.1
  value := fun it => it.2.2
  asString
    | _, some (.text value) => .ok value
    | _, _ => .error "bad conversion"
  asInt
    | _, some (.int value) => .ok value
    | _, _ => .error "bad conversion"
  asBool
    | _, some (.bool value) => .ok value
    | _, _ => .error "bad conversion"

/-- A client of a TCP server, and a fuzzer with both of its lists. -/
def clientAndFuzzer : Tree :=
  .map [
    ("general", .map [("log_level", .text "debug"), ("log_dir", .text "/tmp/logs")]),
    ("network", .map [("docker_network_name", .text "net"), ("subnet", .text "10.0.0.0/24"),
      ("gateway", .text "10.0.0.1")]),
    ("entities", .map [
      ("sender", .map [("role", .text "client"), ("protocol", .text "tcp"),
        ("ip", .text "10.0.0.3"), ("port", .int 5000), ("fuzzed", .bool true),
        ("binary_path", .text "/bin/sender"), ("exec_with", .text "stdbuf"),
        ("args", .sequence [.text "-v", .text "once"]),
        ("destinations", .sequence [.map [("ip", .text "10.0.0.4"), ("port", .int 7000)]]),
        ("connect_to", .map [("ip", .text "10.0.0.5"), ("port", .int 6000)])]),
      ("proxy", .map [("role", .text "fuzzer"), ("ip", .text "10.0.0.2"), ("port", .int 5001),
        ("fuzzed", .bool false), ("binary_path", .text "/bin/proxy"), ("exec_with", .text ""),
        ("connections", .sequence [.map [("entityA_ip", .text "10.0.0.3"),
          ("entityA_port", .int 5000), ("entityA_proxy_port_recv", .int 20000),
          ("entityA_proxy_port_send", .int 20001), ("entityB_ip", .text "10.0.0.4"),
          ("entityB_port", .int (-1)), ("entityB_proxy_port_recv", .int 20002),
          ("entityB_proxy_port_send", .int 20003)]]),
        ("tcp_redirections", .sequence [.map [("server_ip", .text "10.0.0.5"),
          ("server_port", .int 6000), ("proxy_port", .int 30000)]])])])]

def clientAndFuzzerRead : Proxy.ConfigurationManager where
  general := ⟨"debug", "/tmp/logs"⟩
  network := ⟨"net", "10.0.0.0/24", "10.0.0.1"⟩
  entities := [
    ⟨"sender", "client", "tcp", "10.0.0.3", 5000, true, "/bin/sender", "stdbuf", ["-v", "once"],
      [⟨"10.0.0.4", 7000⟩], some ⟨"10.0.0.5", 6000⟩, [], []⟩,
    ⟨"proxy", "fuzzer", "", "10.0.0.2", 5001, false, "/bin/proxy", "", [], [], none,
      [⟨"10.0.0.3", 5000, 20000, 20001, "10.0.0.4", -1, 20002, 20003⟩],
      [⟨"10.0.0.5", 6000, 30000⟩]⟩]

end Cezfuzzer.ConfigurationReaders
