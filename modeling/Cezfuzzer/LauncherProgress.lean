import Cezfuzzer.LauncherRests

set_option autoImplicit false

/-!
# A reported crash can always be answered

No interleaving of the threads, the mutex and the frames leaves the launchers in a state from
which the next restart is out of reach. From the report of a process its monitor, the handler
of its connection and the main loop can each take their next step, until the proxy has been
launched again and every listed client is to be sent a `RESTART`. As in `LauncherMachine`, reports
do not cross and each handler serves its own connection (`LauncherDescriptors` has the shared
`client_fd`).
-/
namespace Cezfuzzer.LauncherProgress
open StepRuns LeadsTo LengthPrefix LauncherMessages LauncherClient LauncherMachine
open LauncherInvariants LauncherReports LauncherReadiness LauncherRests
open LauncherDisconnects (toReach)

variable {config : List EntityConfig} {s u : State} {e : Event} {n : ℕ}

/-! ## The report -/

/-- The listen thread before `pthread_create`, or a handler before it can receive. -/
def receiveRank (listen : Listen) : Handler → ℕ
  | .absent => match listen with
    | .accepting => 3
    | .creating _ => 4
    | .listing _ => 5
    | .adding _ _ => 6
  | .sendingIP => 3
  | .sendingStart => 2
  | .sleeping => 1
  | _ => 0

/-- A `CRASH` waits for the handler of `fd`, or is in its hand. -/
def CrashAt (fd : ℕ) (s : State) : Prop :=
  ∃ c, s.connections[fd]? = some c ∧ .crash ∈ c.toServer

def reportRank (fd : ℕ) (s : State) : ℕ :=
  match s.connections[fd]? with
  | some c => 2 * c.toServer.length + receiveRank s.listen c.handler
  | none => 0

theorem reportRank_some {fd : ℕ} {c : Connection} (found : s.connections[fd]? = some c) :
    reportRank fd s = 2 * c.toServer.length + receiveRank s.listen c.handler := by
  simp [reportRank, found]

theorem quiet_step (quiet : Quiet n s) (calm : Calm s e) (h : step config s e = some u)
    (launches : u.launches = s.launches) (loop : u.mainLoop = s.mainLoop)
    (mutex : u.mutex = s.mutex) : Quiet n u :=
  ⟨going_step quiet.going calm h, launches ▸ quiet.least, loop ▸ quiet.idle, mutex ▸ quiet.free⟩

/-- The listen thread goes on with the connection that it has accepted. -/
theorem listen_goes {fd : ℕ} {c : Connection}
    (found : s.connections[fd]? = some c) (listening : listenFd s.listen = some fd) :
    ∃ e t, listenStep s e = some t ∧
      t.launches = s.launches ∧ t.mainLoop = s.mainLoop ∧ t.mutex = s.mutex ∧
      ((∃ c', t.connections[fd]? = some c' ∧ c'.handler = .sendingIP ∧ c'.toServer = c.toServer) ∨
        t.connections[fd]? = some c ∧ receiveRank t.listen .absent < receiveRank s.listen .absent)
      := by
  cases at' : s.listen with
  | accepting => simp [at', listenFd] at listening
  | adding fd' peer =>
    refine ⟨.addNewClient, { s with
      listen := .listing fd'
      clientList := s.clientList ++ [⟨fd', peer⟩] }, ?_, rfl, rfl, rfl, Or.inr ⟨found, ?_⟩⟩
    · simp [listenStep, at']
    · simp [receiveRank]
  | listing fd' =>
    refine ⟨.pushClientFd, { s with
      listen := .creating fd'
      clientFdList := s.clientFdList ++ [fd'] }, ?_, rfl, rfl, rfl, Or.inr ⟨found, ?_⟩⟩
    · simp [listenStep, at']
    · simp [receiveRank]
  | creating fd' =>
    obtain rfl : fd' = fd := by simpa [at', listenFd] using listening
    refine ⟨.createHandler, { s.setConnection fd' (setHandler c .sendingIP) with
      listen := .accepting }, ?_, rfl, rfl, rfl,
      Or.inl ⟨_, setConnection_self found _, rfl, rfl⟩⟩
    simp [listenStep, at', found]

/-- Another step towards the `CRASH` of `fd`. -/
def Nearer (config : List EntityConfig) (n fd : ℕ) (s : State) : Prop :=
  ∃ es t, Runs (step config) Calm s es t ∧
    (Quiet n t ∧ CrashAt fd t) ∧ reportRank fd t < reportRank fd s

/-- A connection without a handler gets one, or its listen thread comes closer to that. -/
theorem absent_goes {fd : ℕ} {c : Connection} (quiet : Quiet n s)
    (found : s.connections[fd]? = some c) (crash : .crash ∈ c.toServer)
    (at' : c.handler = .absent) : Nearer config n fd s := by
  have listening := quiet.going.ready.served.absent fd c found at'
  obtain ⟨e, t, h, launches, loop, mutex, next⟩ := listen_goes found listening
  have h : step config s (.listen e) = some t := by simp [step, quiet.going.running, h]
  have run : Runs (step config) Calm s [.listen e] t := runs_single trivial h
  have quiet' := quiet_step (e := .listen e) quiet trivial h launches loop mutex
  rcases next with ⟨c', found', served, same⟩ | ⟨found', less⟩
  · refine ⟨_, t, run, ⟨quiet', c', found', same ▸ crash⟩, ?_⟩
    rw [reportRank_some found, reportRank_some found', same, served, at']
    cases l : s.listen with
    | accepting => simp [l, listenFd] at listening
    | adding | listing | creating => simp [receiveRank]
  · refine ⟨_, t, run, ⟨quiet', c, found', crash⟩, ?_⟩
    rw [reportRank_some found, reportRank_some found', at']
    omega

theorem handler_next {fd : ℕ} {c c' : Connection} {e : HandlerEvent} (quiet : Quiet n s)
    (found : s.connections[fd]? = some c)
    (h : handlerStep s fd c e = some (s.setConnection fd c')) :
    Runs (step config) Calm s [.handler fd e] (s.setConnection fd c') ∧
      Quiet n (s.setConnection fd c') := by
  have next : step config s (.handler fd e) = some (s.setConnection fd c') :=
    handler_step quiet.going found h
  exact ⟨runs_single trivial next, quiet_step (e := .handler fd e) quiet trivial next rfl rfl rfl⟩

theorem handler_goes {fd : ℕ} {c : Connection} (e : HandlerEvent) (c' : Connection)
    (quiet : Quiet n s) (found : s.connections[fd]? = some c)
    (h : handlerStep s fd c e = some (s.setConnection fd c')) (crash : .crash ∈ c'.toServer)
    (less : 2 * c'.toServer.length + receiveRank s.listen c'.handler <
      2 * c.toServer.length + receiveRank s.listen c.handler) : Nearer config n fd s := by
  obtain ⟨run, quiet'⟩ := handler_next quiet found h
  have found' : (s.setConnection fd c').connections[fd]? = some c' := setConnection_self found c'
  refine ⟨_, _, run, ⟨quiet', c', found', crash⟩, ?_⟩
  rw [reportRank_some found, reportRank_some found']
  exact less

theorem crash_received (fd : ℕ) : Leads (step config) Calm
    (fun s => Quiet n s ∧ CrashAt fd s)
    (fun s => Quiet n s ∧ ∃ c, s.connections[fd]? = some c ∧ c.handler = .raising) := by
  refine Leads.of_rank (reportRank fd) fun s ⟨quiet, c, found, crash⟩ => ?_
  have nearer (h : Nearer config n fd s) : ∃ es t, Runs (step config) Calm s es t ∧
      ((Quiet n t ∧ ∃ c, t.connections[fd]? = some c ∧ c.handler = .raising) ∨
        (Quiet n t ∧ CrashAt fd t) ∧ reportRank fd t < reportRank fd s) := by
    obtain ⟨es, t, run, next⟩ := h
    exact ⟨es, t, run, Or.inr next⟩
  have inside : ¬Critical c.handler := by
    intro critical
    have := quiet.going.ready.notified.guarded.handler fd c found critical
    rw [quiet.free] at this
    cases this
  cases at' : c.handler with
  | absent => exact nearer (absent_goes quiet found crash at')
  | sendingIP =>
    obtain ⟨ci, listed, own⟩ := quiet.going.ready.served.known fd c found (by simp [at'])
    have isSome : (s.clientList.find? (fun ci => ci.sockfd = fd)).isSome = true :=
      List.find?_isSome.mpr ⟨ci, listed, by simp [own]⟩
    obtain ⟨ci, first⟩ := Option.isSome_iff_exists.mp isSome
    exact nearer (handler_goes .sendClientIP
      (setHandler (sendTo c (.ip ci.clientIP)) .sendingStart) quiet found
      (by simp [handlerStep, at', first]) crash (by simp [receiveRank, at', setHandler, sendTo]))
  | sendingStart =>
    exact nearer (handler_goes .sendStartSignal (setHandler (sendTo c .start) .receiving) quiet
      found (by simp [handlerStep, at']) crash (by simp [receiveRank, at', setHandler, sendTo]))
  | receiving =>
    obtain ⟨f, rest, next⟩ := List.exists_cons_of_ne_nil (List.ne_nil_of_mem crash)
    let c' : Connection := { c with
      toServer := rest, handler := if f = .crash then .raising else .sleeping }
    have h : handlerStep s fd c .recvMessage = some (s.setConnection fd c') := by
      simp [handlerStep, at', next, c']
    by_cases taken : f = .crash
    · obtain ⟨run, quiet'⟩ := handler_next quiet found h
      exact ⟨_, _, run, Or.inl ⟨quiet', c', setConnection_self found c', if_pos taken⟩⟩
    · rw [next, List.mem_cons] at crash
      refine nearer (handler_goes .recvMessage c' quiet found h
        (crash.resolve_left (Ne.symm taken)) ?_)
      simp only [c', next, if_neg taken, at', receiveRank, List.length_cons]
      omega
  | raising => exact ⟨[], s, .refl, Or.inl ⟨quiet, c, found, at'⟩⟩
  | sleeping =>
    exact nearer (handler_goes .wake (setHandler c .receiving) quiet found
      (by simp [handlerStep, at']) crash (by simp [receiveRank, at', setHandler]))
  | storing | flagging | unlocking => simp [at', Critical] at inside

/-- What is left until the monitor of a process has sent its `CRASH`. -/
def childRank (child : Child) : ℕ :=
  (if child.alive then 4 else 0) + match child.monitor with
    | .uncreated => 3
    | .waiting => 2
    | .reaped => 1
    | .sent => 0

/-- The process `pid` of the client `fd` is unreported. -/
def UnreportedAt (fd pid : ℕ) (s : State) : Prop :=
  ∃ c child, s.connections[fd]? = some c ∧ c.client.children[pid]? = some child ∧ Unreported child

def unreportedRank (fd pid : ℕ) (s : State) : ℕ :=
  ((s.connections[fd]?.bind (fun c => c.client.children[pid]?)).map childRank).getD 0

/-- The client takes the process to its next state or its monitor to the next step. -/
theorem child_goes {fd pid : ℕ} {c c' : Connection} {child : Child} {e : ClientEvent}
    (child' : Child) (quiet : Quiet n s) (found : s.connections[fd]? = some c)
    (process : c.client.children[pid]? = some child)
    (move : ClientMove config c e c') (calm : Calm s (.client fd e))
    (same : c'.client.children = c.client.children.set pid child')
    (unreported : Unreported child') (less : childRank child' < childRank child) :
    ∃ es t, Runs (step config) Calm s es t ∧ (Quiet n t ∧ CrashAt fd t ∨
      (Quiet n t ∧ UnreportedAt fd pid t) ∧ unreportedRank fd pid t < unreportedRank fd pid s) := by
  have next : step config s (.client fd e) = some (s.setConnection fd c') := by
    simp [step, found, clientMove_step move]
  have at' : c'.client.children[pid]? = some child' := by
    rw [same, List.getElem?_set_self (List.getElem?_eq_some_iff.mp process).1]
  refine ⟨_, _, runs_single calm next, Or.inr ⟨⟨quiet_step quiet calm next rfl rfl rfl,
    c', child', setConnection_self found c', at', unreported⟩, ?_⟩⟩
  simpa [unreportedRank, setConnection_self found c', at', found, process] using less

theorem unreported_crash (fd pid : ℕ) : Leads (step config) Calm
    (fun s => Quiet n s ∧ UnreportedAt fd pid s) (fun s => Quiet n s ∧ CrashAt fd s) := by
  refine Leads.of_rank (unreportedRank fd pid) fun s ⟨quiet, c, child, found, process, ended,
    unsent⟩ => ?_
  cases alive : child.alive with
  | true =>
    have killed := ended.resolve_left (by simp [alive])
    exact child_goes { child with alive := false } quiet found process
      (.dies pid child process alive killed) trivial rfl ⟨Or.inl rfl, unsent⟩
      (by simp [childRank, alive])
  | false =>
    cases monitor : child.monitor with
    | uncreated =>
      obtain ⟨rest, at'⟩ := quiet.going.ready.registering fd c found pid child process monitor
      exact child_goes { child with monitor := .waiting } quiet found process
        (.register pid rest child at' process) trivial rfl ⟨Or.inl alive, nofun⟩
        (by simp [childRank, monitor])
    | waiting =>
      exact child_goes { child with monitor := .reaped } quiet found process
        (.reap pid child process alive monitor) trivial rfl ⟨Or.inl alive, nofun⟩
        (by simp [childRank, monitor])
    | reaped =>
      let c' : Connection := { c with
        toServer := c.toServer ++ [.crash]
        client := c.client.setChild pid { child with monitor := .sent } }
      have next : step config s (.client fd (.report pid)) = some (s.setConnection fd c') := by
        simp [step, found, clientStep, process, monitor, c']
      have run : Runs (step config) Calm s [.client fd (.report pid)] (s.setConnection fd c') :=
        runs_single trivial next
      exact ⟨_, _, run, Or.inl ⟨quiet_step (e := .client fd (.report pid)) quiet trivial next rfl
        rfl rfl, c', setConnection_self found c', by simp [c']⟩⟩
    | sent => exact absurd monitor unsent

/-! ## The answer -/

theorem raised_restarts (fd : ℕ) : Leads (step config) Calm (fun s => Quiet n s ∧
    ∃ c, s.connections[fd]? = some c ∧ c.handler = .raising) (Restarts n) := by
  intro s ⟨quiet, here⟩
  exact raising_restarts fd s ⟨⟨quiet.going, quiet.least, quiet.idle, here⟩, quiet.free⟩

theorem crash_restarts (fd : ℕ) : Leads (step config) Calm
    (fun s => Quiet n s ∧ CrashAt fd s) (Restarts n) :=
  (crash_received fd).trans (raised_restarts fd)

theorem unanswered_kept : KeptByCalm config Unanswered := by
  intro s e t going unanswered _ other h
  rcases unanswered_move going.ready unanswered (step_move h) with kept | ⟨ok, same⟩
  · exact kept
  · exact absurd same (other ok)

theorem quiet_unanswered : Leads (step config) Calm
    (fun s => Quiet n s ∧ Unanswered s) (Restarts n) := by
  intro s ⟨quiet, unanswered⟩
  rcases unanswered with ⟨flag, -⟩ | ⟨fd, c, found, crash | ⟨pid, child, process, unreported⟩⟩
  · exact quiet_restarts s ⟨quiet, flag⟩
  · rcases crash with sent | raising | critical
    · exact crash_restarts fd s ⟨quiet, c, found, sent⟩
    · exact raised_restarts fd s ⟨quiet, c, found, raising⟩
    · -- nobody is inside while the mutex is free
      have inside := quiet.going.ready.notified.guarded.handler fd c found
        (critical.imp id Or.inl)
      rw [quiet.free] at inside
      cases inside
  · exact (unreported_crash fd pid).trans (crash_restarts fd) s
      ⟨quiet, c, child, found, process, unreported⟩

theorem unanswered_restarts : Leads (step config) Calm (Kept Unanswered n) (Restarts n) := by
  have rested : Leads (step config) Calm (Kept Unanswered n)
      (fun s => Quiet n s ∧ Unanswered s ∨ Restarts n s) :=
    (kept_rested unanswered_kept).or_trans (rested_quiet unanswered_kept)
  exact rested.cases quiet_unanswered

/-! ## The broadcast -/

/-- How many `RESTART`s have been sent to a client. -/
def restartsSent (s : State) (fd : ℕ) : ℕ :=
  ((s.connections[fd]?).map (fun c => c.sent.count .restart)).getD 0

theorem restartsSent_setConnection {fd : ℕ} {c c' : Connection}
    (found : s.connections[fd]? = some c) (i : ℕ) :
    restartsSent (s.setConnection fd c') i =
      if i = fd then c'.sent.count .restart else restartsSent s i := by
  by_cases own : i = fd
  · subst own
    simp [restartsSent, setConnection_self found]
  · simp [restartsSent, State.setConnection, List.getElem?_set_ne (Ne.symm own), own]

theorem restartsSent_le {t : State} {fd : ℕ} {c c' : Connection}
    (found : s.connections[fd]? = some c)
    (same : t.connections = (s.setConnection fd c').connections)
    (more : c.sent.count .restart ≤ c'.sent.count .restart) (i : ℕ) :
    restartsSent s i ≤ restartsSent t i := by
  have next : restartsSent t i = restartsSent (s.setConnection fd c') i := by
    simp [restartsSent, same]
  rw [next, restartsSent_setConnection found]
  split
  · rename_i own
    simpa [restartsSent, own, found] using more
  · exact le_rfl

theorem restartsSent_move (move : Move config s e u) (i : ℕ) :
    restartsSent s i ≤ restartsSent u i := by
  cases move with
  | accept peer at' =>
    by_cases old : i < s.connections.length
    · simp [restartsSent, List.getElem?_append_left old]
    · simp [restartsSent, List.getElem?_eq_none (not_lt.mp old)]
  | client fd e c c' found move =>
    exact restartsSent_le found rfl (by rw [(clientMove_server move).2.2]) i
  | createHandler fd c _ found | recvMessage fd c _ _ found | lock fd c found
  | storeMessage fd c found | storeFlag fd c found | unlock fd c found | wake fd c found =>
    exact restartsSent_le found rfl (by simp [setHandler]) i
  | sendClientIP fd c _ found | sendStartSignal fd c found | broadcast fd _ c _ found =>
    exact restartsSent_le found rfl (by simp [setHandler, sendTo, List.count_append]) i
  | _ => exact le_rfl

/-- The main loop has to go on to `rest`, and has told all others that were listed before. -/
structure Telling (before : State) (rest : List ℕ) (s : State) : Prop where
  going : Going s
  at' : s.mainLoop = .broadcasting rest
  launched : before.launches < s.launches
  told : ∀ fd ∈ before.clientFdList, restartsSent before fd ≤ restartsSent s fd ∧
    (fd ∈ rest ∨ restartsSent before fd < restartsSent s fd)

theorem telling_told (before : State) (rest : List ℕ) :
    Leads (step config) Calm (Telling before rest) (Telling before []) := by
  induction rest with
  | nil => exact Leads.of_imp fun _ => id
  | cons fd rest ih =>
    refine Leads.trans (Leads.of_step fun s telling => ?_) ih
    have bound := telling.going.ready.notified.placed.reaching fd (by simp [telling.at', toReach])
    have found := List.getElem?_eq_getElem bound
    let t : State := { s.setConnection fd (sendTo s.connections[fd] .restart) with
      mainLoop := .broadcasting rest }
    have next : step config s (.main .broadcast) = some t := by
      simp [step, mainStep, telling.at', found, t]
    have going : Going t := going_step (e := .main .broadcast) telling.going trivial next
    refine ⟨.main .broadcast, t, trivial, next, going, rfl, telling.launched, fun i listed => ?_⟩
    obtain ⟨le, toGo⟩ := telling.told i listed
    have sent : restartsSent t i =
        if i = fd then (sendTo s.connections[fd] .restart).sent.count .restart
        else restartsSent s i := restartsSent_setConnection found i
    by_cases own : i = fd
    · subst own
      have old : restartsSent s i = s.connections[i].sent.count .restart := by
        simp [restartsSent, found]
      rw [if_pos rfl] at sent
      simp only [sendTo, List.count_append, List.count_singleton_self] at sent
      omega
    · rw [if_neg own] at sent
      rw [sent]
      exact ⟨le, toGo.imp (fun member => (List.mem_cons.mp member).resolve_left own) id⟩

/-- From every state that can be reached, a crash that is not answered yet can be: the proxy is
    launched again, and every listed client is sent one more `RESTART`. -/
theorem report_answerable (config : List EntityConfig) (es : List Event) (s : State)
    (run : Runs (step config) anyStep initial es s) (launches : Launches s)
    (unanswered : Unanswered s) : ∃ es' u, Runs (step config) Calm s es' u ∧
      s.launches < u.launches ∧
      ∀ fd ∈ s.clientFdList, restartsSent s fd < restartsSent u fd := by
  obtain ⟨es₁, t, run₁, restarts⟩ : ∃ es₁ t, Runs (step config) Calm s es₁ t ∧
      Restarts s.launches t :=
    unanswered_restarts s ⟨⟨run_ready run, launches⟩, unanswered, le_rfl⟩
  have grown := run₁.state_invariant (fun t => s.clientFdList ⊆ t.clientFdList ∧
      ∀ fd, restartsSent s fd ≤ restartsSent t fd) ⟨List.Subset.refl _, fun _ => le_rfl⟩
    (fun _ _ _ ⟨listed, sent⟩ _ h => ⟨List.Subset.trans listed (move_clientFdList (step_move h)),
      fun fd => (sent fd).trans (restartsSent_move (step_move h) fd)⟩)
  obtain ⟨es₂, u, run₂, told⟩ : ∃ es₂ u, Runs (step config) Calm t es₂ u ∧ Telling s [] u :=
    telling_told s t.clientFdList t ⟨restarts.going, restarts.toAll, restarts.more,
      fun fd listed => ⟨grown.2 fd, Or.inl (grown.1 listed)⟩⟩
  refine ⟨es₁ ++ es₂, u, runs_append run₁ run₂, told.launched, fun fd listed => ?_⟩
  exact (told.told fd listed).2.resolve_left (List.not_mem_nil)

/-- One of two entities has crashed, and its monitor is still in its `waitpid`. -/
def oneCrashed : List Event :=
  [.main (.boot true)] ++ accepts clientAddress ++ greets 0 ++ starts 0 2 ++
    [.client 0 (.exits 0)]

theorem oneCrashed_answerable : ∃ s, Runs (step twoEntities) anyStep initial oneCrashed s ∧
    ∃ es' u, Runs (step twoEntities) Calm s es' u ∧ s.launches < u.launches ∧
      ∀ fd ∈ s.clientFdList, restartsSent s fd < restartsSent u fd := by
  obtain ⟨s, hs, h⟩ := exists_execute (step twoEntities) initial oneCrashed
    (fun s => s.proxyPid ≠ none ∧ s.connections[0]?.any (fun c =>
      c.client.children[0]?.any (fun child => child.alive = false ∧ child.monitor ≠ .sent)))
    (by decide +kernel)
  obtain ⟨launched, h⟩ := of_decide_eq_true h
  obtain ⟨c, found, h⟩ := (Option.any_eq_true _ _).mp h
  obtain ⟨child, process, h⟩ := (Option.any_eq_true _ _).mp h
  obtain ⟨ended, unsent⟩ := of_decide_eq_true h
  have run := runs_of_unguarded hs
  exact ⟨s, run, report_answerable twoEntities oneCrashed s run (Or.inr launched)
    (Or.inr ⟨0, c, found, Or.inr ⟨0, child, process, Or.inl ended, unsent⟩⟩)⟩

end Cezfuzzer.LauncherProgress
