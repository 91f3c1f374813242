import Cezfuzzer.LauncherDisconnects

set_option autoImplicit false

/-!
# The proxies that the server launches

The main loop of the server over the results of its `launchEntity` calls, with the processes
that they begin. Clients come, report crashes and go as they like.
-/
namespace Cezfuzzer.LauncherProxies
open StepRuns LauncherMessages LauncherClient LauncherInvariants
open LauncherMachine hiding State Event initial step
open LauncherDisconnects (toReach Placed placed_move placed_setConnection follow_server sendsTo)

/-- The launchers, and whether each process that the server has forked for the proxy, in the
    order of the forks, has not terminated yet. -/
structure System where
  launchers : LauncherDisconnects.State
  proxies : List Bool
  deriving DecidableEq

def initial : System := ⟨LauncherDisconnects.initial, []⟩

inductive Event where
  | launchers (e : LauncherDisconnects.Event)
  | exits (proxy : ℕ)
  deriving DecidableEq

def Event.main (e : MainEvent) : Event := .launchers (.launcher (.main e))

def System.server (s : System) : LauncherMachine.State := s.launchers.server

def AliveAt (s : System) (proxy : ℕ) : Prop := s.proxies[proxy]? = some true

instance (s : System) (proxy : ℕ) : Decidable (AliveAt s proxy) :=
  inferInstanceAs (Decidable (_ = _))

/-- `waitpid` in `stop_process` returns when the proxy has terminated. -/
def Waiting (s : System) (e : LauncherDisconnects.Event) : Prop :=
  e = .launcher (.main .stopProxy) ∧ ∃ proxy ∈ s.server.proxyPid, AliveAt s proxy

instance (s : System) (e : LauncherDisconnects.Event) : Decidable (Waiting s e) :=
  inferInstanceAs (Decidable (_ ∧ _))

def launched : LauncherDisconnects.Event → List Bool
  | .launcher (.main (.boot true)) | .launcher (.main (.launchProxy true)) => [true]
  | _ => []

def step (config : List EntityConfig) (s : System) : Event → Option System
  | .launchers e =>
    if Waiting s e then none
    else (LauncherDisconnects.step config s.launchers e).map
      (fun l => ⟨l, s.proxies ++ launched e⟩)
  | .exits proxy =>
    if AliveAt s proxy then some { s with proxies := s.proxies.set proxy false } else none

def Handling : MainLoop → Prop
  | .dispatching | .stopping | .launching | .broadcasting _ | .clearingMessage | .clearingFlag
  | .unlocking => True
  | _ => False

/-- Where an iteration that has handled a notification is to end. -/
def Ended (s : LauncherMachine.State) : Prop :=
  s.mainLoop = .locking ∧ s.notification = false ∧ s.mutex = none

/-- A step of the main loop itself, or the end of a proxy that it waits for. -/
def Own : System → Event → Prop
  | _, .launchers (.launcher (.main _)) | _, .exits _ => True
  | _, _ => False

/-- What is to hold in a state of the server. `message` leaves out the moment between the two
    assignments that clear both variables, inside the critical section; `ends` and `stays` leave
    out a server that exits since its message to a client cannot be sent. -/
structure Survives (config : List EntityConfig) (s : System) : Prop where
  single : ∀ m n, AliveAt s m → AliveAt s n → m = n
  present : s.server.mainLoop ≠ .aborted
  message : s.server.notification = true → s.server.mainLoop ≠ .clearingFlag →
    s.server.notificationMessage = RESTART
  ends : Handling s.server.mainLoop → ∃ es u, Runs (step config) Own s es u ∧
    (Ended u.server ∨ u.launchers.exited = true)
  stays : ∀ e u, Handling s.server.mainLoop → step config s e = some u →
    Handling u.server.mainLoop ∨ Ended u.server ∨ u.launchers.exited = true

/-- A notification is taken up only when the last `launchEntity` has returned a pid. -/
def PidWhenNotified (s : System) : Event → Prop
  | .launchers (.launcher (.main .test)) =>
    s.server.notification = true → s.server.proxyPid ≠ none
  | _ => True

instance (s : System) (e : Event) : Decidable (PidWhenNotified s e) := by
  unfold PidWhenNotified
  split <;> infer_instance

variable {config : List EntityConfig} {s u : System}

/-! ## The notification -/

/-- The flag and the message agree whenever the mutex changes hands. -/
structure Notified (s : LauncherMachine.State) : Prop where
  guarded : Guarded s
  placed : Placed s
  message : s.notification = true → s.mainLoop ≠ .clearingFlag → s.notificationMessage = RESTART
  dispatching : s.mainLoop = .dispatching → s.notification = true
  unlocking : s.mainLoop = .unlocking → s.notification = false

theorem initial_notified : Notified LauncherMachine.initial := by
  refine ⟨initial_guarded, ⟨?_, ?_, ?_⟩, ?_, ?_, ?_⟩ <;>
    simp [LauncherMachine.initial, listenFd, toReach]

theorem notified_move {t t' : LauncherMachine.State} {e : LauncherMachine.Event}
    (notified : Notified t) (move : Move config t e t') : Notified t' := by
  have guarded := guarded_move notified.guarded move
  have placed := placed_move notified.placed move
  obtain ⟨guarded₀, -, message, dispatching, unlocking⟩ := notified
  refine ⟨guarded, placed, ?_, ?_, ?_⟩
  · cases move with
    | storeFlag fd c found at' => exact fun _ _ => guarded₀.message fd c found at'
    | storeMessage => exact fun _ _ => rfl
    | clearMessage at' => exact fun _ passed => absurd rfl passed
    | clearFlag at' =>
      intro set
      cases set
    | boot _ at' | mainLock at' | wait at' | notified at' | mainWake at' | dispatch at'
    | ignore at' | stopProxy _ at' | abort at' | launchProxy _ at' | broadcast _ _ _ at'
    | endBroadcast at' | mainUnlock at' => exact fun set _ => message set (by simp [at'])
    | _ => exact message
  · cases move with
    | storeFlag => exact fun _ => rfl
    | notified at' set => exact fun _ => set
    | boot | mainLock | wait | mainWake | dispatch | ignore | stopProxy | abort | launchProxy
    | broadcast | endBroadcast | clearMessage | clearFlag | mainUnlock =>
      intro loop
      cases loop
    | _ => exact dispatching
  · cases move with
    | storeFlag fd c found at' =>
      intro main
      refine absurd ?_ (guarded₀.alone found (Or.inr (Or.inl at'))).1
      simp only [LauncherMachine.State.setConnection] at main
      simp [main, Holds]
    | clearFlag => exact fun _ => rfl
    | boot | mainLock | wait | notified | mainWake | dispatch | ignore | stopProxy | abort
    | launchProxy | broadcast | endBroadcast | clearMessage | mainUnlock =>
      intro loop
      cases loop
    | _ => exact unlocking

/-- A connection may change by itself, but for its handler in the critical section. -/
theorem notified_setConnection {t : LauncherMachine.State} {fd : ℕ} {c c' : Connection}
    (notified : Notified t) (found : t.connections[fd]? = some c)
    (outside : c'.handler = c.handler ∨ ¬Critical c'.handler) :
    Notified (t.setConnection fd c') := by
  obtain ⟨guarded, placed, message, dispatching, unlocking⟩ := notified
  exact ⟨guarded_setConnection guarded found outside, placed_setConnection placed fd c', message,
    dispatching, unlocking⟩

variable {l l' : LauncherDisconnects.State} {e : LauncherDisconnects.Event}

theorem notified_step (notified : Notified l.server)
    (h : LauncherDisconnects.Step config l e l') : Notified l'.server := by
  cases h with
  | hangUp fd reset c found here =>
    cases reset with
    | false => exact notified
    | true => exact notified_setConnection notified found (Or.inl rfl)
  | closed fd c found gone at' empty =>
    exact notified_setConnection notified found (Or.inr (by simp [setHandler, Critical]))
  | fails e t fd move target gone => exact notified
  | follows e t move target =>
    rw [(follow_server l e t).1]
    exact notified_move notified move

/-! ## The proxies -/

inductive ProxyStep (l l' : LauncherDisconnects.State) : LauncherDisconnects.Event → Prop where
  | launch (e : LauncherDisconnects.Event) (ok : Bool)
      (forked : launched e = if ok then [true] else [])
      (before : l.server.mainLoop = .booting ∨ l.server.mainLoop = .launching)
      (pid : l'.server.proxyPid = if ok then some l.server.launches else none)
      (launches : l'.server.launches = l.server.launches + (launched e).length)
      (after : l'.server.mainLoop ≠ .booting ∧ l'.server.mainLoop ≠ .launching) :
      ProxyStep l l' e
  | stop (pid : ℕ) (running : l.server.proxyPid = some pid)
      (same : l'.server.proxyPid = some pid) (launches : l'.server.launches = l.server.launches) :
      ProxyStep l l' (.launcher (.main .stopProxy))
  | other (e : LauncherDisconnects.Event) (forked : launched e = [])
      (pid : l'.server.proxyPid = l.server.proxyPid)
      (launches : l'.server.launches = l.server.launches)
      (before : l'.server.mainLoop = .booting ∨ l'.server.mainLoop = .launching →
        l.server.mainLoop = .booting ∨ l.server.mainLoop = .launching) : ProxyStep l l' e

theorem proxyStep (h : LauncherDisconnects.Step config l e l') : ProxyStep l l' e := by
  cases h with
  | hangUp fd reset c found here => cases reset <;> exact .other _ rfl rfl rfl id
  | closed fd c found gone at' empty => exact .other _ rfl rfl rfl id
  | fails e t fd move target gone =>
    have forked : launched (.launcher e) = [] := by
      cases move <;> first | rfl | cases target
    exact .other _ forked rfl rfl id
  | follows e t move target =>
    have server := (follow_server l e t).1
    have pid := congrArg LauncherMachine.State.proxyPid server
    have launches := congrArg LauncherMachine.State.launches server
    cases move with
    | boot ok at' =>
      refine .launch _ ok ?_ (Or.inl at') rfl ?_ (by simp [server]) <;> cases ok <;> rfl
    | launchProxy ok at' =>
      refine .launch _ ok ?_ (Or.inr at') rfl ?_ (by simp [server]) <;> cases ok <;> rfl
    | stopProxy n at' running => exact .stop n running running rfl
    | mainLock | wait | notified | mainWake | dispatch | ignore | abort | broadcast
    | endBroadcast | clearMessage | clearFlag | mainUnlock =>
      refine .other _ rfl pid launches (fun loop => ?_)
      rw [server] at loop
      rcases loop with loop | loop <;> cases loop
    | _ =>
      refine .other _ rfl pid launches (fun loop => ?_)
      rwa [server] at loop

/-- A living proxy is the one that `proxyPid` names, and none lives where one is launched. -/
structure Single (s : System) : Prop where
  length : s.proxies.length = s.server.launches
  current : ∀ n, AliveAt s n → s.server.proxyPid = some n
  idle : s.server.mainLoop = .booting ∨ s.server.mainLoop = .launching → ∀ n, ¬AliveAt s n

theorem initial_single : Single initial := by
  refine ⟨rfl, ?_, ?_⟩ <;> simp [initial, AliveAt]

theorem step_cases {e : Event} (h : step config s e = some u) :
    (∃ n, e = .exits n ∧ AliveAt s n ∧ u = { s with proxies := s.proxies.set n false }) ∨
      ∃ e', e = .launchers e' ∧ ¬Waiting s e' ∧ u.proxies = s.proxies ++ launched e' ∧
        LauncherDisconnects.Step config s.launchers e' u.launchers := by
  cases e with
  | exits n =>
    simp only [step] at h
    split at h
    · rename_i alive
      cases h
      exact Or.inl ⟨n, rfl, alive, rfl⟩
    · cases h
  | launchers e =>
    simp only [step] at h
    split at h
    · cases h
    · rename_i free
      obtain ⟨l, hl, rfl⟩ := Option.map_eq_some_iff.mp h
      exact Or.inr ⟨e, rfl, free, rfl, LauncherDisconnects.step_step hl⟩

theorem alive_append {proxies more : List Bool} {n : ℕ} (h : (proxies ++ more)[n]? = some true) :
    proxies[n]? = some true ∨ proxies.length ≤ n ∧ n < proxies.length + more.length := by
  rw [List.getElem?_append] at h
  split at h
  · exact Or.inl h
  · rename_i beyond
    have := (List.getElem?_eq_some_iff.mp h).1
    exact Or.inr ⟨by omega, by omega⟩

theorem single_step {e : Event} (single : Single s) (h : step config s e = some u) : Single u := by
  obtain ⟨length, current, idle⟩ := single
  rcases step_cases h with ⟨n, rfl, alive, rfl⟩ | ⟨e, rfl, free, proxies, move⟩
  · have old : ∀ m, AliveAt { s with proxies := s.proxies.set n false } m → AliveAt s m := by
      intro m alive'
      by_cases same : n = m
      · subst same
        have lt := (List.getElem?_eq_some_iff.mp alive).1
        simp [AliveAt, lt] at alive'
      · simpa [AliveAt, same] using alive'
    refine ⟨(List.length_set ..).trans length, fun m alive' => current m (old m alive'), ?_⟩
    exact fun at' m alive' => idle at' m (old m alive')
  · have grown : u.proxies.length = s.server.launches + (launched e).length := by
      rw [proxies, List.length_append, length]
    have alive : ∀ m, AliveAt u m → AliveAt s m ∨
        s.server.launches ≤ m ∧ m < s.server.launches + (launched e).length := by
      intro m alive
      rw [AliveAt, proxies] at alive
      rw [← length]
      exact alive_append alive
    cases proxyStep move with
    | launch _ ok forked before pid launches after =>
      refine ⟨grown.trans launches.symm, ?_, fun at' => absurd at' (not_or.mpr after)⟩
      intro m alive'
      rcases alive m alive' with old | ⟨low, high⟩
      · exact absurd old (idle before m)
      · cases ok with
        | false => simp [forked] at high; omega
        | true =>
          simp only [forked, if_true, List.length_singleton] at high
          obtain rfl : m = s.server.launches := by omega
          exact pid
    | stop pid running same launches =>
      have dead : ∀ m, ¬AliveAt u m := by
        intro m alive'
        rcases alive m alive' with old | ⟨low, high⟩
        · have := current m old
          exact free ⟨rfl, m, this, old⟩
        · simp [launched] at high
          omega
      exact ⟨grown.trans launches.symm, fun m alive' => absurd alive' (dead m), fun _ => dead⟩
    | other _ forked pid launches before =>
      have old : ∀ m, AliveAt u m → AliveAt s m := by
        intro m alive'
        refine (alive m alive').resolve_right ?_
        simp [forked]
      refine ⟨by rw [grown, forked]; exact launches.symm, ?_, ?_⟩
      · exact fun m alive' => pid.trans (current m (old m alive'))
      · exact fun at' m alive' => idle (before at') m (old m alive')

/-! ## An iteration -/

/-- There is a pid where it is read. -/
structure Launched (s : LauncherMachine.State) : Prop where
  pid : s.mainLoop = .dispatching ∨ s.mainLoop = .stopping → s.proxyPid ≠ none
  present : s.mainLoop ≠ .aborted

theorem launched_move {t t' : LauncherMachine.State} {e : LauncherMachine.Event}
    (launched : Launched t)
    (met : e = .main .test → t.notification = true → t.proxyPid ≠ none)
    (move : Move config t e t') : Launched t' := by
  obtain ⟨pid, present⟩ := launched
  cases move with
  | notified at' set => exact ⟨fun _ => met rfl set, by simp⟩
  | dispatch at' restart => exact ⟨fun _ => pid (Or.inl at'), by simp⟩
  | abort at' missing => exact absurd missing (pid (Or.inr at'))
  | boot | mainLock | wait | mainWake | ignore | stopProxy | launchProxy | broadcast
  | endBroadcast | clearMessage | clearFlag | mainUnlock => exact ⟨by simp, by simp⟩
  | _ => exact ⟨pid, present⟩

theorem launched_step {e : Event} (launched : Launched s.server) (met : PidWhenNotified s e)
    (h : step config s e = some u) : Launched u.server := by
  rcases step_cases h with ⟨n, rfl, -, rfl⟩ | ⟨e, rfl, -, -, move⟩
  · exact ⟨launched.pid, launched.present⟩
  · cases u with
    | mk l proxies =>
      cases move with
      | hangUp fd reset c found here =>
        cases reset <;> exact ⟨launched.pid, launched.present⟩
      | closed fd c found gone at' empty => exact ⟨launched.pid, launched.present⟩
      | fails e t fd move target gone => exact ⟨launched.pid, launched.present⟩
      | follows e t move target =>
        change Launched (s.launchers.follow e t).server
        rw [(follow_server s.launchers e t).1]
        refine launched_move launched ?_ move
        rintro rfl
        exact met

/-- The main loop leaves an iteration at its end only. -/
theorem handling_move {t t' : LauncherMachine.State} {e : LauncherMachine.Event}
    (notified : Notified t) (launched : Launched t) (handling : Handling t.mainLoop)
    (move : Move config t e t') : Handling t'.mainLoop ∨ Ended t' := by
  cases move with
  | mainUnlock at' => exact Or.inr ⟨rfl, notified.unlocking at', rfl⟩
  | abort at' missing => exact absurd missing (launched.pid (Or.inr at'))
  | ignore at' other =>
    exact absurd (notified.message (notified.dispatching at') (by simp [at'])) other
  | _ => simp_all [Handling, LauncherMachine.State.setConnection]

theorem handling_step {e : Event} (notified : Notified s.server) (launched : Launched s.server)
    (handling : Handling s.server.mainLoop) (h : step config s e = some u) :
    Handling u.server.mainLoop ∨ Ended u.server ∨ u.launchers.exited = true := by
  rcases step_cases h with ⟨n, rfl, -, rfl⟩ | ⟨e, rfl, -, -, move⟩
  · exact Or.inl handling
  · cases u with
    | mk l proxies =>
      cases move with
      | hangUp fd reset c found here => cases reset <;> exact Or.inl handling
      | closed fd c found gone at' empty => exact Or.inl handling
      | fails e t fd move target gone => exact Or.inr (Or.inr rfl)
      | follows e t move target =>
        change Handling (s.launchers.follow e t).server.mainLoop ∨
          Ended (s.launchers.follow e t).server ∨ _
        rw [(follow_server s.launchers e t).1]
        exact (handling_move notified launched handling move).imp id Or.inl

def Finishes (config : List EntityConfig) (s : System) : Prop :=
  ∃ es u, Runs (step config) Own s es u ∧ (Ended u.server ∨ u.launchers.exited = true)

theorem finishes_step {e : Event} (own : Own s e) (h : step config s e = some u)
    (rest : Finishes config u) : Finishes config s := by
  obtain ⟨es, v, run, last⟩ := rest
  exact ⟨e :: es, v, run.cons own h, last⟩

theorem main_step {e : MainEvent} {t : LauncherMachine.State} (running : s.launchers.exited = false)
    (h : mainStep s.server e = some t) (silent : e ≠ .broadcast)
    (free : ¬Waiting s (.launcher (.main e))) :
    ∃ u, step config s (.main e) = some u ∧ u.server = t ∧ u.launchers.exited = false := by
  have quiet : sendsTo s.server (.main e) = none := by
    cases e <;> first | rfl | exact absurd rfl silent
  obtain ⟨server, -, exited, -⟩ := follow_server s.launchers (.main e) t
  refine ⟨⟨s.launchers.follow (.main e) t, s.proxies ++ launched (.launcher (.main e))⟩, ?_,
    server, exited.trans running⟩
  have next : LauncherDisconnects.step config s.launchers (.launcher (.main e)) =
      some (s.launchers.follow (.main e) t) := by
    simp only [System.server] at h quiet
    simp [LauncherDisconnects.step, running, LauncherDisconnects.State.serverStep,
      LauncherMachine.step, h, quiet]
  simp [step, Event.main, free, next]

theorem finishes_main {e : MainEvent} {t : LauncherMachine.State}
    (running : s.launchers.exited = false) (h : mainStep s.server e = some t)
    (silent : e ≠ .broadcast) (free : ¬Waiting s (.launcher (.main e)))
    (rest : ∀ u : System, u.server = t → u.launchers.exited = false → Finishes config u) :
    Finishes config s := by
  obtain ⟨u, next, server, running'⟩ := main_step running h silent free
  exact finishes_step (by simp [Event.main, Own]) next (rest u server running')

theorem finishes_unlocking (running : s.launchers.exited = false)
    (at' : s.server.mainLoop = .unlocking) (clear : s.server.notification = false) :
    Finishes config s := by
  have h : mainStep s.server .unlock =
      some { s.server with mutex := none, mainLoop := .locking } := by simp [mainStep, at']
  refine finishes_main running h (by simp) (by simp [Waiting]) (fun u server _ => ?_)
  exact ⟨[], u, .refl, Or.inl (by rw [server]; exact ⟨rfl, clear, rfl⟩)⟩

theorem finishes_clearingFlag (running : s.launchers.exited = false)
    (at' : s.server.mainLoop = .clearingFlag) : Finishes config s := by
  have h : mainStep s.server .clearFlag =
      some { s.server with notification := false, mainLoop := .unlocking } := by
    simp [mainStep, at']
  refine finishes_main running h (by simp) (by simp [Waiting]) (fun u server running' => ?_)
  exact finishes_unlocking running' (by rw [server]) (by rw [server])

theorem finishes_clearingMessage (running : s.launchers.exited = false)
    (at' : s.server.mainLoop = .clearingMessage) : Finishes config s := by
  have h : mainStep s.server .clearMessage =
      some { s.server with notificationMessage := [], mainLoop := .clearingFlag } := by
    simp [mainStep, at']
  refine finishes_main running h (by simp) (by simp [Waiting]) (fun u server running' => ?_)
  exact finishes_clearingFlag running' (by rw [server])

def Listed (s : LauncherMachine.State) : Prop := ∀ fd ∈ s.clientFdList, fd < s.connections.length

/-- A `RESTART` is sent, or the server exits. -/
theorem broadcast_step (config : List EntityConfig) {fd : ℕ} {rest : List ℕ} {c : Connection}
    (running : s.launchers.exited = false) (at' : s.server.mainLoop = .broadcasting (fd :: rest))
    (found : s.server.connections[fd]? = some c) :
    ∃ u, step config s (.main .broadcast) = some u ∧
      (u.launchers.exited = true ∨ u.launchers.exited = false ∧
        u.server = { s.server.setConnection fd (sendTo c .restart) with
          mainLoop := .broadcasting rest }) := by
  simp only [System.server] at at' found
  have send : LauncherMachine.step config s.launchers.server (.main .broadcast) =
      some { s.launchers.server.setConnection fd (sendTo c .restart) with
        mainLoop := .broadcasting rest } := by
    simp [LauncherMachine.step, mainStep, at', found]
  have target : sendsTo s.launchers.server (.main .broadcast) = some fd := by
    simp [sendsTo, at', LauncherHandshake.nextClient]
  by_cases gone : fd ∈ s.launchers.gone
  · refine ⟨⟨{ s.launchers with exited := true, toGone := s.launchers.toGone ++ [fd] },
      s.proxies⟩, ?_, Or.inl rfl⟩
    simp [step, Event.main, Waiting, LauncherDisconnects.step, running,
      LauncherDisconnects.State.serverStep, send, target, gone, launched]
  · refine ⟨⟨s.launchers.follow (.main .broadcast) { s.launchers.server.setConnection fd
      (sendTo c .restart) with mainLoop := .broadcasting rest }, s.proxies⟩, ?_,
      Or.inr ⟨running, rfl⟩⟩
    simp [step, Event.main, Waiting, LauncherDisconnects.step, running,
      LauncherDisconnects.State.serverStep, send, target, gone, launched]

theorem finishes_broadcasting {rest : List ℕ} (running : s.launchers.exited = false)
    (at' : s.server.mainLoop = .broadcasting rest)
    (placed : ∀ fd ∈ rest, fd < s.server.connections.length) : Finishes config s := by
  induction rest generalizing s with
  | nil =>
    have h : mainStep s.server .endBroadcast =
        some { s.server with mainLoop := .clearingMessage } := by simp [mainStep, at']
    refine finishes_main running h (by simp) (by simp [Waiting]) (fun u server running' => ?_)
    exact finishes_clearingMessage running' (by rw [server])
  | cons fd rest ih =>
    have found := List.getElem?_eq_getElem (placed fd List.mem_cons_self)
    obtain ⟨u, h, next⟩ := broadcast_step config running at' found
    refine finishes_step (by simp [Event.main, Own]) h ?_
    rcases next with exited | ⟨running', server⟩
    · exact ⟨[], u, .refl, Or.inr exited⟩
    · refine ih running' (by rw [server]) (fun fd' member => ?_)
      rw [server]
      simpa [LauncherMachine.State.setConnection] using
        placed fd' (List.mem_cons_of_mem _ member)

theorem finishes_launching (running : s.launchers.exited = false)
    (at' : s.server.mainLoop = .launching) (listed : Listed s.server) : Finishes config s := by
  have h : mainStep s.server (.launchProxy true) = some { launchEntity s.server true with
      mainLoop := .broadcasting s.server.clientFdList } := by simp [mainStep, at']
  refine finishes_main running h (by simp) (by simp [Waiting]) (fun u server running' => ?_)
  refine finishes_broadcasting running' (by rw [server]) ?_
  rw [server]
  exact listed

theorem finishes_stopping {pid : ℕ} (running : s.launchers.exited = false)
    (at' : s.server.mainLoop = .stopping) (present : s.server.proxyPid = some pid)
    (listed : Listed s.server) : Finishes config s := by
  have dead : ∀ s : System, s.launchers.exited = false → s.server.mainLoop = .stopping →
      s.server.proxyPid = some pid → Listed s.server → ¬AliveAt s pid → Finishes config s := by
    intro s running at' present listed gone
    have h : mainStep s.server .stopProxy = some { s.server with mainLoop := .launching } := by
      simp [mainStep, at', present]
    refine finishes_main running h (by simp) (by simp [Waiting, present, gone])
      (fun u server running' => ?_)
    refine finishes_launching running' (by rw [server]) ?_
    rw [server]
    exact listed
  by_cases alive : AliveAt s pid
  · -- `SIGKILL` ends the proxy, and with that the `waitpid`
    have h : step config s (.exits pid) = some { s with proxies := s.proxies.set pid false } := by
      simp [step, alive]
    refine finishes_step (by simp [Own]) h (dead _ running at' present listed ?_)
    have lt := (List.getElem?_eq_some_iff.mp alive).1
    simp [AliveAt, lt]
  · exact dead s running at' present listed alive

theorem finishes_dispatching (running : s.launchers.exited = false) (notified : Notified s.server)
    {pid : ℕ} (at' : s.server.mainLoop = .dispatching) (present : s.server.proxyPid = some pid) :
    Finishes config s := by
  have restart := notified.message (notified.dispatching at') (by simp [at'])
  have h : mainStep s.server .dispatch = some { s.server with mainLoop := .stopping } := by
    simp [mainStep, at', restart]
  refine finishes_main running h (by simp) (by simp [Waiting]) (fun u server running' => ?_)
  refine finishes_stopping running' (by rw [server]) (by rw [server]; exact present) ?_
  rw [server]
  exact notified.placed.listed

theorem finishes_handling (notified : Notified s.server) (launched : Launched s.server)
    (handling : Handling s.server.mainLoop) : Finishes config s := by
  cases exited : s.launchers.exited with
  | true => exact ⟨[], s, .refl, Or.inr exited⟩
  | false =>
    cases at' : s.server.mainLoop with
    | dispatching =>
      obtain ⟨pid, present⟩ := Option.ne_none_iff_exists'.mp (launched.pid (Or.inl at'))
      exact finishes_dispatching exited notified at' present
    | stopping =>
      obtain ⟨pid, present⟩ := Option.ne_none_iff_exists'.mp (launched.pid (Or.inr at'))
      exact finishes_stopping exited at' present notified.placed.listed
    | launching => exact finishes_launching exited at' notified.placed.listed
    | broadcasting rest =>
      exact finishes_broadcasting exited at'
        (fun fd member => notified.placed.reaching fd (by rw [at']; exact member))
    | clearingMessage => exact finishes_clearingMessage exited at'
    | clearingFlag => exact finishes_clearingFlag exited at'
    | unlocking => exact finishes_unlocking exited at' (notified.unlocking at')
    | booting | locking | testing | waiting | aborted => simp [at', Handling] at handling

structure Sound (s : System) : Prop where
  notified : Notified s.server
  single : Single s

theorem initial_sound : Sound initial := ⟨initial_notified, initial_single⟩

theorem sound_step {e : Event} (sound : Sound s) (h : step config s e = some u) : Sound u := by
  refine ⟨?_, single_step sound.single h⟩
  rcases step_cases h with ⟨n, rfl, -, rfl⟩ | ⟨e, rfl, -, -, move⟩
  · exact sound.notified
  · exact notified_step sound.notified move

theorem sound_survives (sound : Sound s) (launched : Launched s.server) : Survives config s := by
  refine ⟨?_, launched.present, sound.notified.message, ?_, ?_⟩
  · intro m n hm hn
    exact Option.some.inj ((sound.single.current m hm).symm.trans (sound.single.current n hn))
  · exact finishes_handling sound.notified launched
  · intro e u handling h
    exact handling_step sound.notified launched handling h

theorem run_sound {es : List Event} {ok : System → Event → Prop}
    (run : Runs (step config) ok initial es s) : Sound s :=
  run.state_invariant Sound initial_sound (fun _ _ _ sound _ h => sound_step sound h)

theorem run_launched {es : List Event}
    (run : Runs (step config) PidWhenNotified initial es s) : Launched s.server :=
  run.state_invariant (fun s => Launched s.server) ⟨by simp [System.server, initial,
    LauncherDisconnects.initial, LauncherMachine.initial], by simp [System.server, initial,
    LauncherDisconnects.initial, LauncherMachine.initial]⟩
    (fun _ _ _ launched met h => launched_step launched met h)

/-- Without a pid the main loop comes to read it, and no further. -/
def DeadEnd (s : LauncherMachine.State) : Prop :=
  s.mainLoop = .aborted ∨ s.proxyPid = none ∧
    (s.mainLoop = .dispatching ∧ s.notificationMessage = RESTART ∨ s.mainLoop = .stopping)

def Stuck (s : System) : Prop := s.launchers.exited = false ∧ DeadEnd s.server

theorem own_main {e : LauncherMachine.Event} (own : Own s (.launchers (.launcher e))) :
    ∃ e', e = .main e' := by
  cases e with
  | main e => exact ⟨e, rfl⟩
  | listen | handler | client => exact own.elim

theorem stuck_step {e : Event} (stuck : Stuck s) (own : Own s e) (h : step config s e = some u) :
    Stuck u := by
  obtain ⟨running, at'⟩ := stuck
  rcases step_cases h with ⟨n, rfl, -, rfl⟩ | ⟨e, rfl, -, -, move⟩
  · exact ⟨running, at'⟩
  · cases u with
    | mk l proxies =>
      cases move with
      | hangUp => exact own.elim
      | closed => exact own.elim
      | fails e t fd move target gone =>
        obtain ⟨e, rfl⟩ := own_main own
        cases move <;> simp_all [sendsTo, System.server, DeadEnd]
      | follows e t move target =>
        obtain ⟨e, rfl⟩ := own_main own
        obtain ⟨server, -, exited, -⟩ := follow_server s.launchers (.main e) t
        refine ⟨exited.trans running, ?_⟩
        change DeadEnd (s.launchers.follow (.main e) t).server
        rw [server]
        simp only [System.server] at at'
        cases move <;> simp_all [DeadEnd]

theorem stuck_run {es : List Event} (stuck : Stuck s) (run : Runs (step config) Own s es u) :
    ¬Ended u.server ∧ u.launchers.exited = false := by
  obtain ⟨running, at'⟩ := run.state_invariant Stuck stuck
    (fun _ _ _ stuck own h => stuck_step stuck own h)
  refine ⟨fun ended => ?_, running⟩
  rcases at' with aborted | ⟨-, ⟨dispatching, -⟩ | stopping⟩ <;> simp_all [Ended]

theorem running_of_main {e : MainEvent} (h : step config s (.main e) = some u) :
    s.launchers.exited = false := by
  by_contra exited
  simp [step, Event.main, LauncherDisconnects.step, exited] at h

/-- A notification that is taken up without a pid leaves the iteration stuck. -/
theorem notified_stuck (sound : Sound s) (set : s.server.notification = true)
    (missing : s.server.proxyPid = none) (h : step config s (.main .test) = some u) :
    Stuck u ∧ Handling u.server.mainLoop := by
  have running := running_of_main h
  rcases step_cases h with ⟨n, same, -⟩ | ⟨e, same, -, -, move⟩
  · cases same
  · cases same
    cases u with
    | mk l proxies =>
      cases move with
      | fails e t fd move target gone => cases target
      | follows e t move target =>
        cases move with
        | wait at' clear => exact absurd set (by simp [System.server, clear])
        | notified at' set' =>
          have restart := sound.notified.message set (by simp [System.server, at'])
          exact ⟨⟨running, Or.inr ⟨missing, Or.inl ⟨rfl, restart⟩⟩⟩, trivial⟩

/-- The server survives all along a run exactly when no notification is taken up after a
    `launchEntity` without a pid. -/
theorem survivesLaunches_iff (config : List EntityConfig) (es : List Event) (s : System)
    (run : Runs (step config) anyStep initial es s) :
    (∀ es₁ es₂ s₁, es = es₁ ++ es₂ → Runs (step config) anyStep initial es₁ s₁ →
      Survives config s₁) ↔ Runs (step config) PidWhenNotified initial es s := by
  refine run.always_iff (fun _ _ met => sound_survives (run_sound met) (run_launched met)) ?_
  intro es t e u head h last
  unfold PidWhenNotified
  split
  · intro set missing
    obtain ⟨stuck, handling⟩ := notified_stuck (run_sound head) set missing h
    obtain ⟨es', v, run, ended⟩ := last.ends handling
    obtain ⟨going, running⟩ := stuck_run stuck run
    exact ended.elim going (by simp [running])
  · trivial

/-- A client starts two entities, and one of them crashes. -/
def crash (ok : Bool) : List LauncherMachine.Event :=
  [.main (.boot ok)] ++ accepts clientAddress ++ greets 0 ++ starts 0 2 ++
    [.client 0 (.exits 0)] ++ reports 0 0

def crashed (ok : Bool) : List Event :=
  (crash ok).map (fun e => Event.launchers (.launcher e))

/-- The proxy is stopped, and its next launch fails. -/
def launchFails : List Event := crashed true ++
  [.main .lock, .main .test, .main .dispatch, .exits 0, .main .stopProxy,
    .main (.launchProxy false), .main .broadcast, .main .endBroadcast, .main .clearMessage,
    .main .clearFlag, .main .unlock]

theorem launchFails_survives : ∃ s, Runs (step twoEntities) anyStep initial launchFails s ∧
    s.server.proxyPid = none ∧ ∀ es₁ es₂ s₁, launchFails = es₁ ++ es₂ →
      Runs (step twoEntities) anyStep initial es₁ s₁ → Survives twoEntities s₁ := by
  obtain ⟨s, hs, h⟩ := exists_execute (guarded (step twoEntities) PidWhenNotified) initial
    launchFails (fun s => s.server.proxyPid = none) (by decide +kernel)
  have run := runs_of_guarded hs
  exact ⟨s, run.forget, of_decide_eq_true h,
    (survivesLaunches_iff twoEntities launchFails s run.forget).mpr run⟩

/-- The first launch fails, and a crash is reported. -/
def noProxy : List Event := crashed false ++
  [.main .lock, .main .test, .main .dispatch, .main .stopProxy]

/-- `proxyPid.value()` throws, and the server is gone. -/
theorem noProxy_aborts : ∃ s, Runs (step twoEntities) anyStep initial noProxy s ∧
    ¬Survives twoEntities s := by
  obtain ⟨s, hs, h⟩ := exists_execute (step twoEntities) initial noProxy
    (fun s => s.server.mainLoop = .aborted) (by decide +kernel)
  exact ⟨s, runs_of_unguarded hs, fun survives => survives.present (of_decide_eq_true h)⟩

end Cezfuzzer.LauncherProxies
