import Cezfuzzer.PythonValues
import Cezfuzzer.FallibleLoops
import Cezfuzzer.RedirectionInjector

set_option autoImplicit false

/-!
# The three passes over the configuration file

`normalize_udp_ports`, `inject_fuzzer_redirections` and `inject_tcp_redirections` on any
document without aliases that `yaml.safe_load` can return. Each reads the file that the one
before it wrote; dumping a document and loading it gives the same document.
-/
namespace Cezfuzzer.CommanderPasses
open OrderedDict PythonValues
open RedirectionInjector (Draw)

variable {σ : Type} [DecidableEq σ] (py : Python σ)

/-- `ip_to_port`, the last assignment first -/
abbrev PortMap (σ : Type) := List (Scalar σ × Value σ)

def PortMap.find (m : PortMap σ) (ip : Scalar σ) : Option (Value σ) :=
  (m.find? (fun e => py.same ip e.1)).map Prod.snd

def declarePort (ip_to_port : PortMap σ) (entity : Value σ) :
    Except Failure (Value σ × PortMap σ) := do
  let protocol ← entity.get "protocol" .null
  if !protocol.isText "udp" then return (entity, ip_to_port)
  else do
    let ip ← entity.get "ip" .null
    let port ← entity.get "port" .null
    let key ← ip.hash py
    if port.isNone then return (entity.assign "port" (.int (-1)), (key, .int (-1)) :: ip_to_port)
    else return (entity, (key, port) :: ip_to_port)

def declarePorts (ip_to_port : PortMap σ) :
    List (Scalar σ × Value σ) → Except Failure (List (Scalar σ × Value σ) × PortMap σ)
  | [] => .ok ([], ip_to_port)
  | (name, entity) :: entities => do
    let (entity, ip_to_port) ← declarePort py ip_to_port entity
    let (entities, ip_to_port) ← declarePorts ip_to_port entities
    return ((name, entity) :: entities, ip_to_port)

def fillPort (ip_to_port : PortMap σ) (dest : Value σ) : Except Failure (Value σ) := do
  let dest_ip ← dest.get "ip" .null
  if (dest.lookup "port").isSome then return dest
  else do
    let key ← dest_ip.hash py
    match ip_to_port.find py key with
    | some port => return dest.assign "port" port
    | none => return dest

/-- What the loop over the destinations makes of them. What can be iterated over and is not a
    list has no dictionaries in it. -/
def filled (dests : List (Value σ)) : Value σ → Value σ
  | .list _ => .list dests
  | d => d

def fillDestinations (ip_to_port : PortMap σ) (entity : Value σ) :
    Except Failure (Value σ) := do
  let protocol ← entity.get "protocol" .null
  if !protocol.isText "udp" then return entity
  else do
    let destinations ← entity.get "destinations" (.list [])
    let dests ← destinations.iterate py
    let dests ← dests.mapM (fillPort py ip_to_port)
    return entity.update "destinations" (filled dests)

def fillEntry (ip_to_port : PortMap σ) (e : Scalar σ × Value σ) :
    Except Failure (Scalar σ × Value σ) := do
  return (e.1, ← fillDestinations py ip_to_port e.2)

def entitiesOf (config : Value σ) : Except Failure (List (Scalar σ × Value σ)) := do
  (← config.item "entities").entries "values"

def onEntities (f : List (Scalar σ × Value σ) → List (Scalar σ × Value σ)) (config : Value σ) :
    Value σ :=
  config.update "entities" (Value.onEntries f)

def normalizeUDPPorts (config : Value σ) : Except Failure (Value σ) := do
  let entities ← config.get "entities" (.dict [])
  let entities ← entities.entries "items"
  let (entities, ip_to_port) ← declarePorts py [] entities
  let entities ← entities.mapM (fillEntry py ip_to_port)
  return onEntities (fun _ => entities) config

def isFuzzer (cfg : Value σ) : Bool := (cfg.field "role" .null).isText "fuzzer"

/-- `next((cfg for cfg in … if cfg.get("role") == "fuzzer"), None)` -/
def findFuzzer : List (Scalar σ × Value σ) → Except Failure (Option (Value σ))
  | [] => .ok none
  | (_, cfg) :: entities => do
    let role ← cfg.get "role" .null
    if role.isText "fuzzer" then return some cfg else findFuzzer entities

def theFuzzer (entities : List (Scalar σ × Value σ)) : Except Failure (Value σ) := do
  match ← findFuzzer entities with
  | none => .error .exit
  | some fuzzer => return fuzzer

def onFuzzer (f : Value σ → Value σ) (config : Value σ) : Value σ :=
  onEntities (updateFirst isFuzzer f) config

/-- `used_ports`, and the random numbers still to come. -/
structure Ports (σ : Type) where
  used : List (Scalar σ)
  draws : List Draw

def drawPort (used : List (Scalar σ)) : List Draw → Except Failure (ℤ × Ports σ)
  | [] => .error .outOfDraws
  | d :: draws =>
    if py.mem (.int d.port) used then drawPort used draws
    else .ok (d.port, ⟨used ++ [.int d.port], draws⟩)

def randomPort (s : Ports σ) : Except Failure (ℤ × Ports σ) := drawPort py s.used s.draws

/-- What a loop of an injector has added so far, and the keys of it. -/
structure Progress (σ κ : Type) where
  ports : Ports σ
  added : List (Value σ)
  seen : List κ

def addUnseen {κ : Type} (met : κ → List κ → Bool) (key : κ)
    (make : Ports σ → Except Failure (Value σ × Ports σ)) (s : Progress σ κ) :
    Except Failure (Progress σ κ) :=
  if met key s.seen then .ok s
  else do
    let (value, ports) ← make s.ports
    return ⟨ports, s.added ++ [value], s.seen ++ [key]⟩

abbrev PairKey (σ : Type) := (Scalar σ × Scalar σ) × (Scalar σ × Scalar σ)

def pairSeen (key : PairKey σ) (seen_pairs : List (PairKey σ)) : Bool :=
  seen_pairs.any (fun k => py.tupleSame key.1 k.1 && py.tupleSame key.2 k.2)

/-- A source, a destination and `tuple(sorted([…]))` of the two. -/
structure Link (σ : Type) where
  src : Scalar σ × Scalar σ
  dst : Scalar σ × Scalar σ
  key : PairKey σ

def connection (link : Link σ) (recvA sendA recvB sendB : Value σ) : Value σ :=
  .dict [(.str "entityA_ip", .scalar link.src.1), (.str "entityA_port", .scalar link.src.2),
    (.str "entityA_proxy_port_recv", recvA), (.str "entityA_proxy_port_send", sendA),
    (.str "entityB_ip", .scalar link.dst.1), (.str "entityB_port", .scalar link.dst.2),
    (.str "entityB_proxy_port_recv", recvB), (.str "entityB_proxy_port_send", sendB)]

/-- What has no hash cannot be a part of the key, whether it can be compared or not. -/
def readLink (src_ip src_port : Value σ) (dest : Value σ) : Except Failure (Link σ) := do
  let dst_ip ← dest.item "ip"
  let dst_port ← dest.item "port"
  let src := (← src_ip.hash py, ← src_port.hash py)
  let dst := (← dst_ip.hash py, ← dst_port.hash py)
  return ⟨src, dst, ← py.sortedPair src dst⟩

def newConnection (link : Link σ) (ports : Ports σ) : Except Failure (Value σ × Ports σ) := do
  let (recvA, ports) ← randomPort py ports
  let (sendA, ports) ← randomPort py ports
  let (recvB, ports) ← randomPort py ports
  let (sendB, ports) ← randomPort py ports
  return (connection link (.int recvA) (.int sendA) (.int recvB) (.int sendB), ports)

def connect (s : Progress σ (PairKey σ)) (link : Link σ) :
    Except Failure (Progress σ (PairKey σ)) :=
  addUnseen (pairSeen py) link.key (newConnection py link) s

def visitDestination (src_ip src_port : Value σ) (s : Progress σ (PairKey σ)) (dest : Value σ) :
    Except Failure (Progress σ (PairKey σ)) := do
  let link ← readLink py src_ip src_port dest
  connect py s link

def visitEntity (s : Progress σ (PairKey σ)) (e : Scalar σ × Value σ) :
    Except Failure (Progress σ (PairKey σ)) := do
  let role ← e.2.get "role" .null
  if role.isText "fuzzer" then return s
  else do
    let src_ip ← e.2.item "ip"
    let src_port ← e.2.item "port"
    let destinations ← e.2.get "destinations" (.list [])
    let dests ← destinations.iterate py
    dests.foldlM (visitDestination py src_ip src_port) s

def injectFuzzerRedirections (config : Value σ) (draws : List Draw) :
    Except Failure (Value σ × List Draw) := do
  let entities ← entitiesOf config
  let _ ← theFuzzer entities
  let s ← entities.foldlM (visitEntity py) ⟨⟨[], draws⟩, [], []⟩
  return (onFuzzer (·.assign "connections" (.list s.added)) config, s.ports.draws)

/-- The four proxy ports of an entry of `fuzzer["connections"]`. -/
def connectionPorts (conn : Value σ) : Except Failure (List (Scalar σ)) := do
  let recvA ← conn.item "entityA_proxy_port_recv"
  let sendA ← conn.item "entityA_proxy_port_send"
  let recvB ← conn.item "entityB_proxy_port_recv"
  let sendB ← conn.item "entityB_proxy_port_send"
  [recvA, sendA, recvB, sendB].mapM (Value.hash py)

def usedPorts (fuzzer : Value σ) : Except Failure (List (Scalar σ)) := do
  match fuzzer.lookup "connections" with
  | none => return []
  | some connections =>
    let conns ← connections.iterate py
    return (← conns.mapM (connectionPorts py)).flatten

/-- The IP and the port of an entity, if `inject_tcp_redirections` takes it for a server. -/
def readServer (entity : Value σ) : Except Failure (List (Scalar σ × Scalar σ)) := do
  let role ← entity.get "role" .null
  if !role.isText "server" then return []
  else do
    let protocol ← (← entity.get "protocol" (.str "udp")).lower py
    if !protocol.isText "tcp" then return []
    else do
      let server_ip ← entity.get "ip" .null
      let server_port ← entity.get "port" (.int (-1))
      if !server_ip.truthy py || server_port.isInt py (-1) then return []
      else return [(← server_ip.hash py, ← server_port.hash py)]

def redirection (server : Scalar σ × Scalar σ) (proxy_port : Value σ) : Value σ :=
  .dict [(.str "server_ip", .scalar server.1), (.str "server_port", .scalar server.2),
    (.str "proxy_port", proxy_port)]

def newRedirection (server : Scalar σ × Scalar σ) (ports : Ports σ) :
    Except Failure (Value σ × Ports σ) := do
  let (proxy_port, ports) ← randomPort py ports
  return (redirection server (.int proxy_port), ports)

def serverSeen (key : Scalar σ × Scalar σ) (seen_servers : List (Scalar σ × Scalar σ)) : Bool :=
  seen_servers.any (py.tupleSame key)

def redirect (s : Progress σ (Scalar σ × Scalar σ)) (server : Scalar σ × Scalar σ) :
    Except Failure (Progress σ (Scalar σ × Scalar σ)) :=
  addUnseen (serverSeen py) server (newRedirection py server) s

def visitServer (s : Progress σ (Scalar σ × Scalar σ)) (e : Scalar σ × Value σ) :
    Except Failure (Progress σ (Scalar σ × Scalar σ)) := do
  let servers ← readServer py e.2
  servers.foldlM (redirect py) s

def injectTCPRedirections (config : Value σ) (draws : List Draw) :
    Except Failure (Value σ × List Draw) := do
  let entities ← entitiesOf config
  let fuzzer ← theFuzzer entities
  let used ← usedPorts py fuzzer
  let s ← entities.foldlM (visitServer py) ⟨⟨used, draws⟩, [], []⟩
  return (onFuzzer (·.assign "tcp_redirections" (.list s.added)) config,
    s.ports.draws)

def runPasses (config : Value σ) (draws : List Draw) : Except Failure (Value σ × List Draw) := do
  let config ← normalizeUDPPorts py config
  let (config, draws) ← injectFuzzerRedirections py config draws
  injectTCPRedirections py config draws

end Cezfuzzer.CommanderPasses
