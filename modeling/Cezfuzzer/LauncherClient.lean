import Mathlib.Data.List.Basic
import Cezfuzzer.LauncherMessages

set_option autoImplicit false

/-!
# The client launcher

One `client_loop` with its `monitor_child` threads and the processes that it forked. Frames
are sent atomically. Processes are numbered in the order in which they were forked; the
number stands for the pid.
-/
namespace Cezfuzzer.LauncherClient
open LengthPrefix LauncherMessages

/-- The fields of `utils::EntityConfig` that decide which launcher starts the entity. -/
structure EntityConfig where
  name : Bytes
  ip : Bytes
  deriving DecidableEq

def getEntities (entities : List EntityConfig) (IP : Bytes) : List EntityConfig :=
  entities.filter (fun entity => entity.ip = IP)

/-- The `monitor_child` thread of a process: not created yet, in `waitpid`, about to send
    `CRASH`, finished. -/
inductive Monitor where
  | uncreated | waiting | reaped | sent
  deriving DecidableEq, Repr

/-- A process, with the arguments of its `launchEntity`. `killed` says that `stop_process`
    has sent it SIGKILL before it terminated. -/
structure Child where
  entity : EntityConfig
  index : ℕ
  alive : Bool
  killed : Bool
  monitor : Monitor
  deriving DecidableEq

/-- Where `client_loop` stands: in `set_entities_list`, in `recv_message`, in
    `stop_processes` with the pids still to kill, in `start_entities` with the entities
    still to launch, and there between the `fork` and the new thread. -/
inductive Phase where
  | identifying
  | receiving
  | stopping (rest : List ℕ)
  | launching (rest : List EntityConfig)
  | registering (pid : ℕ) (rest : List EntityConfig)
  deriving DecidableEq

structure Client where
  phase : Phase
  entities : List EntityConfig
  processList : List ℕ
  children : List Child
  index : ℕ
  deriving DecidableEq

def unconnected : Client := ⟨.identifying, [], [], [], 0⟩

/-- The thread of the server that serves the connection: not created yet, before
    `send_client_ip`, before `send_start_signal`, in `recv_message`, and with a `CRASH` in
    hand before, in and after the critical section; last in `sleep(1)`. -/
inductive Handler where
  | absent | sendingIP | sendingStart | receiving | raising | storing | flagging | unlocking
  | sleeping
  deriving DecidableEq, Repr

/-- An accepted connection: the peer's address as `accept` gave it, the frames in flight
    either way, every frame sent to the client so far, and the client itself. -/
structure Connection where
  peer : Address
  handler : Handler
  toClient : List Frame
  toServer : List Frame
  sent : List Frame
  client : Client
  deriving DecidableEq

inductive ClientEvent where
  | identify | receive | kill | clear | fork (ok : Bool) | register | loop
  | exits (pid : ℕ) | dies (pid : ℕ) | reap (pid : ℕ) | report (pid : ℕ)
  deriving DecidableEq, Repr

def startEntities (c : Client) : Client :=
  { c with index := c.index + 1, phase := .launching c.entities }

/-- `multiplex_message` up to the first loop that it enters. -/
def multiplex (c : Client) (f : Frame) : Client :=
  match f.command with
  | some .start => startEntities c
  | some .restart => { c with phase := .stopping c.processList }
  | none => c

/-- SIGKILL does nothing to a process that has terminated. -/
def stopProcess (child : Child) : Child := { child with killed := child.killed || child.alive }

def Client.setChild (c : Client) (pid : ℕ) (child : Child) : Client :=
  { c with children := c.children.set pid child }

/-- `exits` is a target that terminates by itself, `dies` one that a launcher has killed. -/
def clientStep (config : List EntityConfig) (c : Connection) : ClientEvent → Option Connection
  | .identify => match c.client.phase, c.toClient with
    | .identifying, f :: rest => some { c with
        toClient := rest
        client := { c.client with
          phase := .receiving, entities := getEntities config f.text } }
    | _, _ => none
  | .receive => match c.client.phase, c.toClient with
    | .receiving, f :: rest => some { c with toClient := rest, client := multiplex c.client f }
    | _, _ => none
  | .kill => match c.client.phase with
    | .stopping (pid :: rest) => some { c with client := { c.client with
        phase := .stopping rest, children := c.client.children.modify pid stopProcess } }
    | _ => none
  | .clear => match c.client.phase with
    | .stopping [] => some { c with client := startEntities { c.client with processList := [] } }
    | _ => none
  | .fork ok => match c.client.phase with
    | .launching (entity :: rest) =>
      if ok then some { c with client := { c.client with
        phase := .registering c.client.children.length rest
        children := c.client.children ++
          [⟨entity, c.client.index, true, false, .uncreated⟩] } }
      else some { c with client := { c.client with phase := .launching rest } }
    | _ => none
  | .register => match c.client.phase with
    | .registering pid rest => match c.client.children[pid]? with
      | some child => some { c with client := { c.client.setChild pid
          { child with monitor := .waiting } with
          phase := .launching rest, processList := c.client.processList ++ [pid] } }
      | none => none
    | _ => none
  | .loop => match c.client.phase with
    | .launching [] => some { c with client := { c.client with phase := .receiving } }
    | _ => none
  | .exits pid => match c.client.children[pid]? with
    | some child =>
      if child.alive = true ∧ child.killed = false then
        some { c with client := c.client.setChild pid { child with alive := false } }
      else none
    | none => none
  | .dies pid => match c.client.children[pid]? with
    | some child =>
      if child.alive = true ∧ child.killed = true then
        some { c with client := c.client.setChild pid { child with alive := false } }
      else none
    | none => none
  | .reap pid => match c.client.children[pid]? with
    | some child =>
      if child.alive = false ∧ child.monitor = .waiting then
        some { c with client := c.client.setChild pid { child with monitor := .reaped } }
      else none
    | none => none
  | .report pid => match c.client.children[pid]? with
    | some child =>
      if child.monitor = .reaped then
        some { c with
          toServer := c.toServer ++ [.crash]
          client := c.client.setChild pid { child with monitor := .sent } }
      else none
    | none => none

inductive ClientMove (config : List EntityConfig) (c : Connection) :
    ClientEvent → Connection → Prop where
  | identify (f : Frame) (rest : List Frame) (at' : c.client.phase = .identifying)
      (next : c.toClient = f :: rest) :
      ClientMove config c .identify { c with
        toClient := rest
        client := { c.client with
          phase := .receiving, entities := getEntities config f.text } }
  | receive (f : Frame) (rest : List Frame) (at' : c.client.phase = .receiving)
      (next : c.toClient = f :: rest) :
      ClientMove config c .receive { c with toClient := rest, client := multiplex c.client f }
  | kill (pid : ℕ) (rest : List ℕ) (at' : c.client.phase = .stopping (pid :: rest)) :
      ClientMove config c .kill { c with client := { c.client with
        phase := .stopping rest, children := c.client.children.modify pid stopProcess } }
  | clear (at' : c.client.phase = .stopping []) :
      ClientMove config c .clear
        { c with client := startEntities { c.client with processList := [] } }
  | fork (entity : EntityConfig) (rest : List EntityConfig)
      (at' : c.client.phase = .launching (entity :: rest)) :
      ClientMove config c (.fork true) { c with client := { c.client with
        phase := .registering c.client.children.length rest
        children := c.client.children ++
          [⟨entity, c.client.index, true, false, .uncreated⟩] } }
  | forkFails (entity : EntityConfig) (rest : List EntityConfig)
      (at' : c.client.phase = .launching (entity :: rest)) :
      ClientMove config c (.fork false)
        { c with client := { c.client with phase := .launching rest } }
  | register (pid : ℕ) (rest : List EntityConfig) (child : Child)
      (at' : c.client.phase = .registering pid rest)
      (found : c.client.children[pid]? = some child) :
      ClientMove config c .register { c with client := { c.client.setChild pid
        { child with monitor := .waiting } with
        phase := .launching rest, processList := c.client.processList ++ [pid] } }
  | loop (at' : c.client.phase = .launching []) :
      ClientMove config c .loop { c with client := { c.client with phase := .receiving } }
  | exits (pid : ℕ) (child : Child) (found : c.client.children[pid]? = some child)
      (alive : child.alive = true) (killed : child.killed = false) :
      ClientMove config c (.exits pid)
        { c with client := c.client.setChild pid { child with alive := false } }
  | dies (pid : ℕ) (child : Child) (found : c.client.children[pid]? = some child)
      (alive : child.alive = true) (killed : child.killed = true) :
      ClientMove config c (.dies pid)
        { c with client := c.client.setChild pid { child with alive := false } }
  | reap (pid : ℕ) (child : Child) (found : c.client.children[pid]? = some child)
      (alive : child.alive = false) (monitor : child.monitor = .waiting) :
      ClientMove config c (.reap pid)
        { c with client := c.client.setChild pid { child with monitor := .reaped } }
  | report (pid : ℕ) (child : Child) (found : c.client.children[pid]? = some child)
      (monitor : child.monitor = .reaped) :
      ClientMove config c (.report pid) { c with
        toServer := c.toServer ++ [.crash]
        client := c.client.setChild pid { child with monitor := .sent } }

theorem clientStep_move {config : List EntityConfig} {c c' : Connection} {e : ClientEvent}
    (h : clientStep config c e = some c') : ClientMove config c e c' := by
  cases e with
  | identify | receive =>
    simp only [clientStep] at h
    split at h
    · cases h
      constructor <;> assumption
    · cases h
  | kill | clear | loop =>
    simp only [clientStep] at h
    split at h
    · cases h
      constructor
      assumption
    · cases h
  | fork ok =>
    simp only [clientStep] at h
    split at h
    · cases ok <;> (cases h; constructor; assumption)
    · cases h
  | register =>
    simp only [clientStep] at h
    split at h
    · split at h
      · cases h
        constructor <;> assumption
      · cases h
    · cases h
  | exits pid | dies pid | reap pid =>
    simp only [clientStep] at h
    split at h
    · split at h
      · rename_i both
        cases h
        constructor
        · assumption
        · exact both.1
        · exact both.2
      · cases h
    · cases h
  | report pid =>
    simp only [clientStep] at h
    split at h
    · split at h
      · cases h
        constructor <;> assumption
      · cases h
    · cases h

theorem clientMove_step {config : List EntityConfig} {c c' : Connection} {e : ClientEvent}
    (move : ClientMove config c e c') : clientStep config c e = some c' := by
  cases move <;> simp_all [clientStep]

end Cezfuzzer.LauncherClient
