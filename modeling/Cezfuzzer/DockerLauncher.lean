import Mathlib.Data.List.Sort
import Cezfuzzer.DockerBuild
import Cezfuzzer.Interactions
import Cezfuzzer.ShellWords

set_option autoImplicit false

/-!
# `docker_network.py` and `docker_launcher.py`

What `main` does with a configuration: it makes the network, the files that `docker build` reads,
one image and one container for each entity, and starts a launcher in each container. Docker and
the files are the environment. The log lines are left out.
-/
namespace Cezfuzzer.DockerLauncher
open CommanderConfig DockerBuild Interactions

structure Network where
  docker_network_name : Option String
  subnet : Option String
  gateway : Option String
  deriving DecidableEq, Repr

structure Config where
  network : Network
  entities : List Entity
  deriving DecidableEq, Repr

inductive Command where
  | networkLs (name : Option String)
  | networkRm (name : Option String)
  | networkCreate (subnet gateway name : Option String)
  | build (df tag : String)
  | ps (cname : String)
  | rm (cname : String)
  | run (cname : String) (network ip : Option String) (image_tag : String)
  | exec (container script : String)
  deriving DecidableEq, Repr

def Command.argv : Command → List (Option String)
  | .networkLs name => ["docker", "network", "ls", "--filter",
      "name=^" ++ name.getD "None" ++ "$", "--format", "\x7b\x7b.Name\x7d\x7d"]
  | .networkRm name => ["docker", "network", "rm", name]
  | .networkCreate subnet gateway name =>
    ["docker", "network", "create", "--subnet", subnet, "--gateway", gateway, name]
  | .build df tag => ["docker", "build", "-f", df, "-t", tag, "."]
  | .ps cname => ["docker", "ps", "-a", "-q", "-f", "name=^" ++ cname ++ "$"]
  | .rm cname => ["docker", "rm", "-f", cname]
  | .run cname network ip image_tag => ["docker", "run", "-d", "--name", cname,
      "--network", network, "--ip", ip, "--cap-add=NET_ADMIN", image_tag]
  | .exec container script => ["docker", "exec", "-d", container, "sh", "-c", script]

inductive Action where
  | docker (command : Command)
  | makedirs
  | readTemplate (path : String)
  /-- `open(entry_path, "w")` -/
  | openScript (entity_name : String)
  | writeScript (entity_name : String) (lines : List Line)
  | writeDockerfile (entity_name content : String)
  deriving DecidableEq, Repr

structure Completed where
  returncode : ℤ
  stdout : String
  deriving DecidableEq, Repr

inductive TemplateFile where
  | missing
  | unreadable
  | text (content : String)
  deriving DecidableEq, Repr

/-- `none` is a program that cannot be started, `false` a directory or a file that cannot be
    written. -/
def Reply : Action → Type
  | .docker _ => Option Completed
  | .readTemplate _ => TemplateFile
  | _ => Bool

inductive Exception where
  | failure (f : Failure)
  | typeError
  | stopIteration
  | osError
  deriving DecidableEq, Repr

abbrev Deploy := Task Action Reply Exception

/-- What `log_error` does after its line. -/
def sysExit {α : Type} : Deploy α := .fail (.failure .exit)

def lift {α : Type} : Except Failure α → Deploy α
  | .ok a => .done a
  | .error f => .fail (.failure f)

def subprocessRun (c : Command) : Deploy Completed :=
  if none ∈ c.argv then .fail .typeError
  else .request (.docker c) (fun
    | some completed => .ok completed
    | none => .error .osError)

/-- `if subprocess.run(…).returncode != 0: log_error(…)` -/
def checkedRun (c : Command) : Deploy Unit := do
  let completed ← subprocessRun c
  if completed.returncode ≠ 0 then sysExit else return ()

def written : Bool → Except Exception Unit
  | true => .ok ()
  | false => .error .osError

def makedirs : Deploy Unit := .request .makedirs written

def openScript (entity_name : String) : Deploy Unit := .request (.openScript entity_name) written

def writeScript (entity_name : String) (lines : List Line) : Deploy Unit :=
  .request (.writeScript entity_name lines) written

def writeDockerfile (entity_name content : String) : Deploy Unit :=
  .request (.writeDockerfile entity_name content) written

def loadTemplate (template_path : String) : Deploy String :=
  .request (.readTemplate template_path) (fun
    | .missing => .error (.failure .exit)
    | .unreadable => .error .osError
    | .text content => .ok content)

def isSpace (c : Char) : Bool :=
  (9 ≤ c.toNat && c.toNat ≤ 13) || (28 ≤ c.toNat && c.toNat ≤ 32) ||
    (0x2000 ≤ c.toNat && c.toNat ≤ 0x200a) ||
    [0x85, 0xa0, 0x1680, 0x2028, 0x2029, 0x202f, 0x205f, 0x3000].contains c.toNat

def strip (s : String) : String :=
  String.ofList (((s.toList.dropWhile isSpace).reverse.dropWhile isSpace).reverse)

def createDockerNetwork (net_cfg : Network) : Deploy Unit := do
  let r ← subprocessRun (.networkLs net_cfg.docker_network_name)
  if some (strip r.stdout) = net_cfg.docker_network_name then
    checkedRun (.networkRm net_cfg.docker_network_name)
  checkedRun (.networkCreate net_cfg.subnet net_cfg.gateway net_cfg.docker_network_name)

def generateExecCommand : String := "CMD [\"tail\", \"-f\", \"/dev/null\"]"

/-- The template with the two placeholders replaced. -/
def dockerfile (entity_name tpl : String) : String :=
  let entry_block := "COPY docker/entrypoint_" ++ entity_name ++ ".sh /entrypoint.sh\n" ++
    "RUN chmod +x /entrypoint.sh\n" ++ "ENTRYPOINT [\"/entrypoint.sh\"]"
  (tpl.replace "# <ENTRYPOINT>" entry_block).replace "# <EXEC_COMMAND>" generateExecCommand

def generateDockerfile (entity_cfg : Entity) (all_entities : List Entity)
    (template_path : String) : Deploy Unit := do
  makedirs
  let tpl ← loadTemplate template_path
  openScript entity_cfg.name
  let lines ← lift (DockerBuild.generateDockerfile entity_cfg all_entities)
  writeScript entity_cfg.name lines
  writeDockerfile entity_cfg.name (dockerfile entity_cfg.name tpl)

def generateAllDockerfiles (entities : List Entity) (template_path : String) : Deploy Unit :=
  entities.forM (fun entity_cfg => generateDockerfile entity_cfg entities template_path)

def dockerfileOf (entity_name : String) : String := "docker/Dockerfile." ++ entity_name

def tagOf (entity_name : String) : String := entity_name ++ "_image"

def containerOf (entity_name : String) : String := entity_name ++ "_container"

def buildImage (entity_name : String) : Deploy String := do
  checkedRun (.build (dockerfileOf entity_name) (tagOf entity_name))
  return tagOf entity_name

def runContainer (entity_name : String) (entity_cfg : Entity) (image_tag : String)
    (network_cfg : Network) : Deploy Unit := do
  let cname := containerOf entity_name
  let existing ← subprocessRun (.ps cname)
  if strip existing.stdout ≠ "" then
    checkedRun (.rm cname)
  checkedRun (.run cname network_cfg.docker_network_name entity_cfg.ip image_tag)

def launchAllEntities (config : Config) : Deploy Unit :=
  config.entities.forM (fun ent => do
    let tag ← buildImage ent.name
    runContainer ent.name ent tag config.network)

/-- The empty string is not true. -/
def launcherArgs (launcher : String) (fuzzer_ip : Option String) (extra_args : List String) :
    List String :=
  launcher :: (fuzzer_ip.filter (· ≠ "")).toList ++ extra_args.filter (· ≠ "")

def buildLauncherCmd (container launcher : String) (fuzzer_ip : Option String)
    (extra_args : List String) : Command :=
  let arg_string := " ".intercalate ((launcherArgs launcher fuzzer_ip extra_args).map
    (fun arg => String.ofList (ShellWords.quote arg.toList)))
  .exec container (arg_string ++ " > /tmp/launcher.log 2>&1")

/-- `item[1].get("role") != "fuzzer"`, of which the fuzzer's is the smaller. -/
def launchKey (ent : Entity) : Bool := ¬ ent.isFuzzer

def sortedEntities (entities : List Entity) : List Entity :=
  entities.insertionSort (fun a b => launchKey a ≤ launchKey b)

def launcherCmd (fuzzer_ip config_path : String) (ent : Entity) : Command :=
  if ent.isFuzzer then
    buildLauncherCmd (containerOf ent.name) "/app/build/luncher/server/server" none [config_path]
  else
    buildLauncherCmd (containerOf ent.name) "/app/build/luncher/client/client" (some fuzzer_ip)
      [config_path]

/-- `next(ent["ip"] for ent in … if ent.get("role") == "fuzzer")` -/
def nextFuzzerIP (entities : List Entity) : Deploy String :=
  match getFuzzer entities with
  | none => .fail .stopIteration
  | some ent => lift (required "ip" ent.ip)

def runLauncher (config : Config) (config_path : String) : Deploy Unit := do
  let entities := sortedEntities config.entities
  let fuzzer_ip ← nextFuzzerIP entities
  entities.forM (fun ent => checkedRun (launcherCmd fuzzer_ip config_path ent))

def deploy (cfg : Config) (config_path template_path : String) : Deploy Unit := do
  createDockerNetwork cfg.network
  generateAllDockerfiles cfg.entities template_path
  launchAllEntities cfg
  runLauncher cfg config_path

end Cezfuzzer.DockerLauncher
