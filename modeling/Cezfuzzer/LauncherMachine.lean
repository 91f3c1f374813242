import Cezfuzzer.StepRuns
import Cezfuzzer.LauncherClient

set_option autoImplicit false

/-!
# The two launchers together

The server launcher with its listen thread, its handler threads and its main loop, and one
client launcher for each accepted connection. A connection's number is its `client_fd`: the
server closes none, so `accept` never gives one out twice. Each handler serves the
connection that it was created for, frames are sent whole, and no `push_back` moves
`client_fd_list` while a broadcast goes over it.
-/
namespace Cezfuzzer.LauncherMachine
open StepRuns LengthPrefix LauncherMessages LauncherClient

structure ClientInfo where
  sockfd : ℕ
  clientIP : Address
  deriving DecidableEq

/-- `listen_thread_func`: in `accept`, then before `addNewClient`, before the `push_back` to
    `client_fd_list`, and before the `pthread_create`. -/
inductive Listen where
  | accepting
  | adding (client_fd : ℕ) (peer : Address)
  | listing (client_fd : ℕ)
  | creating (client_fd : ℕ)
  deriving DecidableEq

inductive Owner where
  | main
  | handler (client_fd : ℕ)
  deriving DecidableEq, Repr

/-- `main` from its first `launchEntity` on. The range `for` takes both ends of `client_fd_list`
    when it begins, and so goes over what the list held then. `aborted` is an uncaught
    `bad_optional_access`. -/
inductive MainLoop where
  | booting | locking | testing | waiting | dispatching | stopping | launching
  | broadcasting (rest : List ℕ)
  | clearingMessage | clearingFlag | unlocking | aborted
  deriving DecidableEq, Repr

structure State where
  listen : Listen
  clientList : List ClientInfo
  clientFdList : List ℕ
  notification : Bool
  notificationMessage : Bytes
  mutex : Option Owner
  mainLoop : MainLoop
  proxyPid : Option ℕ
  launches : ℕ
  connections : List Connection
  deriving DecidableEq

def initial : State := ⟨.accepting, [], [], false, [], none, .booting, none, 0, []⟩

inductive ListenEvent where
  | accept (peer : Address) | addNewClient | pushClientFd | createHandler
  deriving DecidableEq

inductive HandlerEvent where
  | sendClientIP | sendStartSignal | recvMessage | lock | storeMessage | storeFlag | unlock | wake
  deriving DecidableEq, Repr

inductive MainEvent where
  | boot (ok : Bool) | lock | test | wake | dispatch | stopProxy | launchProxy (ok : Bool)
  | broadcast | endBroadcast | clearMessage | clearFlag | unlock
  deriving DecidableEq, Repr

inductive Event where
  | listen (e : ListenEvent)
  | handler (client_fd : ℕ) (e : HandlerEvent)
  | main (e : MainEvent)
  | client (client_fd : ℕ) (e : ClientEvent)
  deriving DecidableEq

def accepted (peer : Address) : Connection := ⟨peer, .absent, [], [], [], unconnected⟩

def State.setConnection (s : State) (fd : ℕ) (c : Connection) : State :=
  { s with connections := s.connections.set fd c }

/-- The server's `send_message` of a whole frame to a client. -/
def sendTo (c : Connection) (f : Frame) : Connection :=
  { c with toClient := c.toClient ++ [f], sent := c.sent ++ [f] }

def setHandler (c : Connection) (h : Handler) : Connection := { c with handler := h }

def listenStep (s : State) (e : ListenEvent) : Option State :=
  match s.listen, e with
  | .accepting, .accept peer => some { s with
      listen := .adding s.connections.length peer
      connections := s.connections ++ [accepted peer] }
  | .adding fd peer, .addNewClient => some { s with
      listen := .listing fd
      clientList := s.clientList ++ [⟨fd, peer⟩] }
  | .listing fd, .pushClientFd => some { s with
      listen := .creating fd
      clientFdList := s.clientFdList ++ [fd] }
  | .creating fd, .createHandler => match s.connections[fd]? with
    | some c => some { s.setConnection fd (setHandler c .sendingIP) with listen := .accepting }
    | none => none
  | _, _ => none

/-- `handle_client_connection`. The signal to the condition variable has no step of its own,
    since the main loop may wake at any time. -/
def handlerStep (s : State) (fd : ℕ) (c : Connection) (e : HandlerEvent) : Option State :=
  match c.handler, e with
  | .sendingIP, .sendClientIP => match s.clientList.find? (fun ci => ci.sockfd = fd) with
    | some ci => some (s.setConnection fd (setHandler (sendTo c (.ip ci.clientIP)) .sendingStart))
    | none => none
  | .sendingStart, .sendStartSignal =>
    some (s.setConnection fd (setHandler (sendTo c .start) .receiving))
  | .receiving, .recvMessage => match c.toServer with
    | f :: rest => some (s.setConnection fd { c with
        toServer := rest, handler := if f = .crash then .raising else .sleeping })
    | [] => none
  | .raising, .lock =>
    if s.mutex = none then
      some { s.setConnection fd (setHandler c .storing) with mutex := some (.handler fd) }
    else none
  | .storing, .storeMessage =>
    some { s.setConnection fd (setHandler c .flagging) with notificationMessage := RESTART }
  | .flagging, .storeFlag =>
    some { s.setConnection fd (setHandler c .unlocking) with notification := true }
  | .unlocking, .unlock =>
    some { s.setConnection fd (setHandler c .sleeping) with mutex := none }
  | .sleeping, .wake => some (s.setConnection fd (setHandler c .receiving))
  | _, _ => none

def launchEntity (s : State) (ok : Bool) : State :=
  { s with
    proxyPid := if ok then some s.launches else none
    launches := if ok then s.launches + 1 else s.launches }

/-- A message other than `RESTART` would bring the main loop back to its lock with the mutex
    still held. -/
def mainStep (s : State) (e : MainEvent) : Option State :=
  match s.mainLoop, e with
  | .booting, .boot ok => some { launchEntity s ok with mainLoop := .locking }
  | .locking, .lock =>
    if s.mutex = none then some { s with mutex := some .main, mainLoop := .testing } else none
  | .testing, .test =>
    if s.notification = false then some { s with mutex := none, mainLoop := .waiting }
    else some { s with mainLoop := .dispatching }
  | .waiting, .wake =>
    if s.mutex = none then some { s with mutex := some .main, mainLoop := .testing } else none
  | .dispatching, .dispatch =>
    if s.notificationMessage = RESTART then some { s with mainLoop := .stopping }
    else some { s with mainLoop := .locking }
  | .stopping, .stopProxy => match s.proxyPid with
    | some _ => some { s with mainLoop := .launching }
    | none => some { s with mainLoop := .aborted }
  | .launching, .launchProxy ok =>
    some { launchEntity s ok with mainLoop := .broadcasting s.clientFdList }
  | .broadcasting (fd :: rest), .broadcast => match s.connections[fd]? with
    | some c => some { s.setConnection fd (sendTo c .restart) with mainLoop := .broadcasting rest }
    | none => none
  | .broadcasting [], .endBroadcast => some { s with mainLoop := .clearingMessage }
  | .clearingMessage, .clearMessage =>
    some { s with notificationMessage := [], mainLoop := .clearingFlag }
  | .clearingFlag, .clearFlag => some { s with notification := false, mainLoop := .unlocking }
  | .unlocking, .unlock => some { s with mutex := none, mainLoop := .locking }
  | _, _ => none

/-- An aborted server takes no step any more; its clients go on. -/
def step (config : List EntityConfig) (s : State) : Event → Option State
  | .listen e => if s.mainLoop = .aborted then none else listenStep s e
  | .handler fd e =>
    if s.mainLoop = .aborted then none
    else match s.connections[fd]? with
      | some c => handlerStep s fd c e
      | none => none
  | .main e => mainStep s e
  | .client fd e => match s.connections[fd]? with
    | some c => (clientStep config c e).map (s.setConnection fd)
    | none => none

/-- 10.0.0.2 -/
def clientAddress : Address := ⟨[49, 48, 46, 48, 46, 48, 46, 50], by simp, by decide⟩

def twoEntities : List EntityConfig := [⟨[65], clientAddress.text⟩, ⟨[66], clientAddress.text⟩]

/-- The listen thread takes a client up to `client_fd_list`. -/
def accepts (peer : Address) : List Event :=
  [.listen (.accept peer), .listen .addNewClient, .listen .pushClientFd]

def greets (fd : ℕ) : List Event :=
  [.listen .createHandler, .handler fd .sendClientIP, .handler fd .sendStartSignal]

/-- The client reads its address and the `START`, and launches `n` entities. -/
def starts (fd n : ℕ) : List Event :=
  [.client fd .identify, .client fd .receive] ++
    (List.replicate n [.client fd (.fork true), .client fd .register]).flatten ++
    [.client fd .loop]

/-- A terminated process is reported, and the handler sets the flag. -/
def reports (fd pid : ℕ) : List Event :=
  [.client fd (.reap pid), .client fd (.report pid), .handler fd .recvMessage, .handler fd .lock,
    .handler fd .storeMessage, .handler fd .storeFlag, .handler fd .unlock]

/-- The main loop restarts the proxy and `n` clients. -/
def answers (n : ℕ) : List Event :=
  [.main .lock, .main .test, .main .dispatch, .main .stopProxy, .main (.launchProxy true)] ++
    List.replicate n (.main .broadcast) ++
    [.main .endBroadcast, .main .clearMessage, .main .clearFlag, .main .unlock]

inductive Move (config : List EntityConfig) (s : State) : Event → State → Prop where
  | accept (peer : Address) (at' : s.listen = .accepting) :
      Move config s (.listen (.accept peer)) { s with
        listen := .adding s.connections.length peer
        connections := s.connections ++ [accepted peer] }
  | addNewClient (fd : ℕ) (peer : Address) (at' : s.listen = .adding fd peer) :
      Move config s (.listen .addNewClient)
        { s with listen := .listing fd, clientList := s.clientList ++ [⟨fd, peer⟩] }
  | pushClientFd (fd : ℕ) (at' : s.listen = .listing fd) :
      Move config s (.listen .pushClientFd)
        { s with listen := .creating fd, clientFdList := s.clientFdList ++ [fd] }
  | createHandler (fd : ℕ) (c : Connection) (at' : s.listen = .creating fd)
      (found : s.connections[fd]? = some c) :
      Move config s (.listen .createHandler)
        { s.setConnection fd (setHandler c .sendingIP) with listen := .accepting }
  | sendClientIP (fd : ℕ) (c : Connection) (ci : ClientInfo)
      (found : s.connections[fd]? = some c) (at' : c.handler = .sendingIP)
      (listed : s.clientList.find? (fun ci => ci.sockfd = fd) = some ci) :
      Move config s (.handler fd .sendClientIP)
        (s.setConnection fd (setHandler (sendTo c (.ip ci.clientIP)) .sendingStart))
  | sendStartSignal (fd : ℕ) (c : Connection) (found : s.connections[fd]? = some c)
      (at' : c.handler = .sendingStart) :
      Move config s (.handler fd .sendStartSignal)
        (s.setConnection fd (setHandler (sendTo c .start) .receiving))
  | recvMessage (fd : ℕ) (c : Connection) (f : Frame) (rest : List Frame)
      (found : s.connections[fd]? = some c) (at' : c.handler = .receiving)
      (next : c.toServer = f :: rest) :
      Move config s (.handler fd .recvMessage) (s.setConnection fd { c with
        toServer := rest, handler := if f = .crash then .raising else .sleeping })
  | lock (fd : ℕ) (c : Connection) (found : s.connections[fd]? = some c)
      (at' : c.handler = .raising) (free : s.mutex = none) :
      Move config s (.handler fd .lock)
        { s.setConnection fd (setHandler c .storing) with mutex := some (.handler fd) }
  | storeMessage (fd : ℕ) (c : Connection) (found : s.connections[fd]? = some c)
      (at' : c.handler = .storing) :
      Move config s (.handler fd .storeMessage)
        { s.setConnection fd (setHandler c .flagging) with notificationMessage := RESTART }
  | storeFlag (fd : ℕ) (c : Connection) (found : s.connections[fd]? = some c)
      (at' : c.handler = .flagging) :
      Move config s (.handler fd .storeFlag)
        { s.setConnection fd (setHandler c .unlocking) with notification := true }
  | unlock (fd : ℕ) (c : Connection) (found : s.connections[fd]? = some c)
      (at' : c.handler = .unlocking) :
      Move config s (.handler fd .unlock)
        { s.setConnection fd (setHandler c .sleeping) with mutex := none }
  | wake (fd : ℕ) (c : Connection) (found : s.connections[fd]? = some c)
      (at' : c.handler = .sleeping) :
      Move config s (.handler fd .wake) (s.setConnection fd (setHandler c .receiving))
  | boot (ok : Bool) (at' : s.mainLoop = .booting) :
      Move config s (.main (.boot ok)) { launchEntity s ok with mainLoop := .locking }
  | mainLock (at' : s.mainLoop = .locking) (free : s.mutex = none) :
      Move config s (.main .lock) { s with mutex := some .main, mainLoop := .testing }
  | wait (at' : s.mainLoop = .testing) (clear : s.notification = false) :
      Move config s (.main .test) { s with mutex := none, mainLoop := .waiting }
  | notified (at' : s.mainLoop = .testing) (set : s.notification = true) :
      Move config s (.main .test) { s with mainLoop := .dispatching }
  | mainWake (at' : s.mainLoop = .waiting) (free : s.mutex = none) :
      Move config s (.main .wake) { s with mutex := some .main, mainLoop := .testing }
  | dispatch (at' : s.mainLoop = .dispatching) (restart : s.notificationMessage = RESTART) :
      Move config s (.main .dispatch) { s with mainLoop := .stopping }
  | ignore (at' : s.mainLoop = .dispatching) (other : s.notificationMessage ≠ RESTART) :
      Move config s (.main .dispatch) { s with mainLoop := .locking }
  | stopProxy (pid : ℕ) (at' : s.mainLoop = .stopping) (running : s.proxyPid = some pid) :
      Move config s (.main .stopProxy) { s with mainLoop := .launching }
  | abort (at' : s.mainLoop = .stopping) (missing : s.proxyPid = none) :
      Move config s (.main .stopProxy) { s with mainLoop := .aborted }
  | launchProxy (ok : Bool) (at' : s.mainLoop = .launching) :
      Move config s (.main (.launchProxy ok))
        { launchEntity s ok with mainLoop := .broadcasting s.clientFdList }
  | broadcast (fd : ℕ) (rest : List ℕ) (c : Connection)
      (at' : s.mainLoop = .broadcasting (fd :: rest)) (found : s.connections[fd]? = some c) :
      Move config s (.main .broadcast)
        { s.setConnection fd (sendTo c .restart) with mainLoop := .broadcasting rest }
  | endBroadcast (at' : s.mainLoop = .broadcasting []) :
      Move config s (.main .endBroadcast) { s with mainLoop := .clearingMessage }
  | clearMessage (at' : s.mainLoop = .clearingMessage) :
      Move config s (.main .clearMessage)
        { s with notificationMessage := [], mainLoop := .clearingFlag }
  | clearFlag (at' : s.mainLoop = .clearingFlag) :
      Move config s (.main .clearFlag) { s with notification := false, mainLoop := .unlocking }
  | mainUnlock (at' : s.mainLoop = .unlocking) :
      Move config s (.main .unlock) { s with mutex := none, mainLoop := .locking }
  | client (fd : ℕ) (e : ClientEvent) (c c' : Connection) (found : s.connections[fd]? = some c)
      (move : ClientMove config c e c') :
      Move config s (.client fd e) (s.setConnection fd c')

theorem listenStep_move {config : List EntityConfig} {s u : State} {e : ListenEvent}
    (h : listenStep s e = some u) : Move config s (.listen e) u := by
  unfold listenStep at h
  split at h
  · cases h
    exact .accept _ (by assumption)
  · cases h
    exact .addNewClient _ _ (by assumption)
  · cases h
    exact .pushClientFd _ (by assumption)
  · split at h
    · cases h
      exact .createHandler _ _ (by assumption) (by assumption)
    · cases h
  · cases h

theorem handlerStep_move {config : List EntityConfig} {s u : State} {fd : ℕ} {c : Connection}
    {e : HandlerEvent} (found : s.connections[fd]? = some c)
    (h : handlerStep s fd c e = some u) : Move config s (.handler fd e) u := by
  unfold handlerStep at h
  split at h
  · split at h
    · cases h
      exact .sendClientIP fd c _ found (by assumption) (by assumption)
    · cases h
  · cases h
    exact .sendStartSignal fd c found (by assumption)
  · split at h
    · cases h
      exact .recvMessage fd c _ _ found (by assumption) (by assumption)
    · cases h
  · split at h
    · cases h
      exact .lock fd c found (by assumption) (by assumption)
    · cases h
  · cases h
    exact .storeMessage fd c found (by assumption)
  · cases h
    exact .storeFlag fd c found (by assumption)
  · cases h
    exact .unlock fd c found (by assumption)
  · cases h
    exact .wake fd c found (by assumption)
  · cases h

theorem mainStep_move {config : List EntityConfig} {s u : State} {e : MainEvent}
    (h : mainStep s e = some u) : Move config s (.main e) u := by
  unfold mainStep at h
  split at h
  · cases h
    exact .boot _ (by assumption)
  · split at h
    · cases h
      exact .mainLock (by assumption) (by assumption)
    · cases h
  · split at h
    · cases h
      exact .wait (by assumption) (by assumption)
    · rename_i set
      cases h
      exact .notified (by assumption) (by simpa using set)
  · split at h
    · cases h
      exact .mainWake (by assumption) (by assumption)
    · cases h
  · split at h
    · cases h
      exact .dispatch (by assumption) (by assumption)
    · cases h
      exact .ignore (by assumption) (by assumption)
  · split at h
    · cases h
      exact .stopProxy _ (by assumption) (by assumption)
    · cases h
      exact .abort (by assumption) (by assumption)
  · cases h
    exact .launchProxy _ (by assumption)
  · split at h
    · cases h
      exact .broadcast _ _ _ (by assumption) (by assumption)
    · cases h
  · cases h
    exact .endBroadcast (by assumption)
  · cases h
    exact .clearMessage (by assumption)
  · cases h
    exact .clearFlag (by assumption)
  · cases h
    exact .mainUnlock (by assumption)
  · cases h

theorem step_move {config : List EntityConfig} {s u : State} {e : Event}
    (h : step config s e = some u) : Move config s e u := by
  cases e with
  | listen e =>
    simp only [step] at h
    split at h
    · cases h
    · exact listenStep_move h
  | handler fd e =>
    simp only [step] at h
    split at h
    · cases h
    · split at h
      · exact handlerStep_move (by assumption) h
      · cases h
  | main e => exact mainStep_move h
  | client fd e =>
    simp only [step] at h
    split at h
    · obtain ⟨c', hc, rfl⟩ := Option.map_eq_some_iff.mp h
      exact .client fd e _ c' (by assumption) (clientStep_move hc)
    · cases h

end Cezfuzzer.LauncherMachine
