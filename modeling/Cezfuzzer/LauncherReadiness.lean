import Cezfuzzer.LauncherReports
import Cezfuzzer.LauncherRestarts
import Cezfuzzer.LauncherProxies

set_option autoImplicit false

/-!
# What every thread of the launchers can rely on

`Ready` is kept by every step: whoever has the mutex is in a critical section, a handler finds
its client in the list, a connection without a handler is still in the hands of the listen
thread. `Unanswered` is what a crash leaves behind until the main loop launches the proxy again.
-/
namespace Cezfuzzer.LauncherReadiness
open StepRuns LengthPrefix LauncherMessages LauncherClient LauncherMachine
open LauncherInvariants LauncherReports
open LauncherRestarts (Answering)
open LauncherProxies (Notified initial_notified notified_move)

variable {config : List EntityConfig} {s u : State} {e : Event}

/-- No target terminates by itself, and every `fork` succeeds. -/
def Calm (_ : State) : Event → Prop
  | .client _ (.exits _) | .client _ (.fork false) => False
  | .main (.boot false) | .main (.launchProxy false) => False
  | _ => True

instance (s : State) (e : Event) : Decidable (Calm s e) := by
  unfold Calm
  split <;> infer_instance

/-! ## What the threads can rely on -/

/-- Whoever has the mutex is in a critical section. -/
structure Owned (s : State) : Prop where
  main : s.mutex = some .main → Holds s.mainLoop ∨ s.mainLoop = .aborted
  handler : ∀ fd : ℕ, s.mutex = some (.handler fd) →
    ∃ c, s.connections[fd]? = some c ∧ Critical c.handler

/-- A connection without a handler is in the hands of the listen thread, and a handler finds
    its client in the list. -/
structure Served (s : State) : Prop where
  absent : ∀ (fd : ℕ) (c : Connection), s.connections[fd]? = some c → c.handler = .absent →
    listenFd s.listen = some fd
  known : ∀ (fd : ℕ) (c : Connection), s.connections[fd]? = some c → c.handler ≠ .absent →
    ∃ ci ∈ s.clientList, ci.sockfd = fd
  added : ∀ fd : ℕ, s.listen = .listing fd ∨ s.listen = .creating fd →
    ∃ ci ∈ s.clientList, ci.sockfd = fd

/-- Only a process that has just been forked is without a monitor. -/
def Registering (c : Client) : Prop :=
  ∀ (pid : ℕ) (child : Child), c.children[pid]? = some child → child.monitor = .uncreated →
    ∃ rest, c.phase = .registering pid rest

theorem initial_owned : Owned initial := by
  constructor <;> simp [initial]

theorem owned_setConnection {t : State} {fd : ℕ} {c d : Connection} (owned : Owned s)
    (found : s.connections[fd]? = some c)
    (same : t.connections = (s.setConnection fd d).connections)
    (inside : Critical c.handler → Critical d.handler) {i : ℕ}
    (holds : s.mutex = some (.handler i)) :
    ∃ x, t.connections[i]? = some x ∧ Critical x.handler := by
  obtain ⟨x, hx, critical⟩ := owned.handler i holds
  rw [same, State.setConnection]
  by_cases own : i = fd
  · subst own
    obtain rfl := Option.some.inj (found.symm.trans hx)
    exact ⟨d, List.getElem?_set_self (List.getElem?_eq_some_iff.mp found).1, inside critical⟩
  · exact ⟨x, by rw [List.getElem?_set_ne (Ne.symm own), hx], critical⟩

theorem owned_move (notified : Notified s) (registered : Registered s) (owned : Owned s)
    (move : Move config s e u) : Owned u := by
  cases move with
  | accept peer at' =>
    refine ⟨owned.main, fun fd holds => ?_⟩
    obtain ⟨c, found, critical⟩ := owned.handler fd holds
    refine ⟨c, ?_, critical⟩
    rw [List.getElem?_append_left (List.getElem?_eq_some_iff.mp found).1, found]
  | addNewClient | pushClientFd => exact ⟨owned.main, owned.handler⟩
  | createHandler fd c at' found =>
    have absent := registered.absent fd c found (by simp [listenFd, at'])
    refine ⟨owned.main, fun i holds => owned_setConnection owned found rfl ?_ holds⟩
    simp [absent, Critical]
  | sendClientIP fd c ci found at' | sendStartSignal fd c found at' | wake fd c found at'
  | recvMessage fd c f rest found at' =>
    refine ⟨owned.main, fun i holds => owned_setConnection owned found rfl ?_ holds⟩
    simp [at', Critical]
  | storeMessage fd c found at' | storeFlag fd c found at' =>
    refine ⟨owned.main, fun i holds => owned_setConnection owned found rfl ?_ holds⟩
    simp [setHandler, Critical]
  | lock fd c found at' free =>
    refine ⟨by simp, fun i holds => ?_⟩
    cases holds
    exact ⟨_, List.getElem?_set_self (List.getElem?_eq_some_iff.mp found).1,
      by simp [setHandler, Critical]⟩
  | client fd e c c' found move =>
    refine ⟨owned.main, fun i holds => owned_setConnection owned found rfl ?_ holds⟩
    rw [(clientMove_server move).1]
    exact id
  | broadcast fd rest c at' found =>
    refine ⟨fun _ => Or.inl trivial, fun i holds => ?_⟩
    exact owned_setConnection (d := sendTo c .restart) owned found rfl id holds
  | unlock | wait | mainUnlock => exact ⟨by simp, by simp⟩
  | mainLock | mainWake => exact ⟨fun _ => Or.inl trivial, by simp⟩
  | boot ok at' =>
    refine ⟨fun holds => ?_, owned.handler⟩
    have := owned.main holds
    simp [at', Holds] at this
  | ignore at' other =>
    exact absurd (notified.message (notified.dispatching at') (by simp [at'])) other
  | abort at' missing => exact ⟨fun _ => Or.inr rfl, owned.handler⟩
  | notified | dispatch | stopProxy | launchProxy | endBroadcast | clearMessage | clearFlag =>
    exact ⟨fun _ => Or.inl trivial, owned.handler⟩

theorem initial_served : Served initial := by
  constructor <;> simp [initial]

theorem served_setConnection {t : State} {fd : ℕ} {c d : Connection} (served : Served s)
    (found : s.connections[fd]? = some c)
    (same : t.connections = (s.setConnection fd d).connections)
    (clients : t.clientList = s.clientList) (listen : t.listen = s.listen)
    (handler : d.handler = .absent ↔ c.handler = .absent) : Served t := by
  refine ⟨fun i x hx absent => ?_, fun i x hx here => ?_, fun i at' => ?_⟩
  · rw [same] at hx
    rcases setConnection_getElem hx with ⟨rfl, rfl⟩ | ⟨-, old⟩
    · exact listen ▸ served.absent _ c found (handler.mp absent)
    · exact listen ▸ served.absent i x old absent
  · rw [same] at hx
    rcases setConnection_getElem hx with ⟨rfl, rfl⟩ | ⟨-, old⟩
    · exact clients ▸ served.known _ c found (fun absent => here (handler.mpr absent))
    · exact clients ▸ served.known i x old here
  · rw [listen] at at'
    exact clients ▸ served.added i at'

theorem served_move (served : Served s) (move : Move config s e u) : Served u := by
  cases move with
  | accept peer at' =>
    refine ⟨fun i x hx absent => ?_, fun i x hx here => ?_, by simp⟩
    · by_cases old : i < s.connections.length
      · rw [List.getElem?_append_left old] at hx
        have := served.absent i x hx absent
        simp [at', listenFd] at this
      · have bound := (List.getElem?_eq_some_iff.mp hx).1
        rw [List.length_append, List.length_singleton] at bound
        obtain rfl : i = s.connections.length := by omega
        rfl
    · rcases getElem_snoc hx with old | rfl
      · exact served.known i x old here
      · exact absurd rfl here
  | addNewClient fd peer at' =>
    refine ⟨fun i x hx absent => ?_, fun i x hx here => ?_, fun i at'' => ?_⟩
    · simpa [at', listenFd] using served.absent i x hx absent
    · obtain ⟨ci, listed, own⟩ := served.known i x hx here
      exact ⟨ci, List.mem_append_left _ listed, own⟩
    · obtain rfl : fd = i := by simpa using at''
      exact ⟨⟨fd, peer⟩, List.mem_append_right _ (List.mem_singleton_self _), rfl⟩
  | pushClientFd fd at' =>
    refine ⟨fun i x hx absent => ?_, served.known, fun i at'' => ?_⟩
    · simpa [at', listenFd] using served.absent i x hx absent
    · obtain rfl : fd = i := by simpa using at''
      exact served.added fd (Or.inl at')
  | createHandler fd c at' found =>
    refine ⟨fun i x hx absent => ?_, fun i x hx here => ?_, by simp⟩
    · rcases setConnection_getElem hx with ⟨rfl, rfl⟩ | ⟨other, old⟩
      · cases absent
      · have own := served.absent i x old absent
        rw [at'] at own
        exact absurd (Option.some.inj own).symm other
    · rcases setConnection_getElem hx with ⟨rfl, -⟩ | ⟨-, old⟩
      · exact served.added _ (Or.inr at')
      · exact served.known i x old here
  | client fd e c c' found move =>
    exact served_setConnection served found rfl rfl rfl (by rw [(clientMove_server move).1])
  | recvMessage fd c f rest found at' =>
    refine served_setConnection served found rfl rfl rfl ?_
    by_cases crash : f = .crash <;> simp [crash, at']
  | sendClientIP fd c _ found at' | sendStartSignal fd c found at' | lock fd c found at'
  | storeMessage fd c found at' | storeFlag fd c found at' | unlock fd c found at'
  | wake fd c found at' =>
    exact served_setConnection served found rfl rfl rfl (by simp [setHandler, at'])
  | broadcast fd rest c at' found =>
    exact served_setConnection (d := sendTo c .restart) served found rfl rfl rfl Iff.rfl
  | _ => exact ⟨served.absent, served.known, served.added⟩

theorem registering_setChild {c : Client} {pid : ℕ} {child child' : Child}
    (registering : Registering c) (found : c.children[pid]? = some child)
    (created : child'.monitor = .uncreated → child.monitor = .uncreated) :
    Registering (c.setChild pid child') := by
  intro p x hx new
  rcases getElem_set hx with ⟨rfl, rfl⟩ | ⟨-, old⟩
  · exact registering _ child found (created new)
  · exact registering p x old new

theorem registering_move {c c' : Connection} {e : ClientEvent} (registering : Registering c.client)
    (move : ClientMove config c e c') : Registering c'.client := by
  -- in every other phase there is no process without a monitor
  have none : (∀ pid rest, c.client.phase ≠ .registering pid rest) →
      ∀ (pid : ℕ) (child : Child), c.client.children[pid]? = some child →
        child.monitor ≠ .uncreated := by
    intro phase pid child found new
    obtain ⟨rest, at'⟩ := registering pid child found new
    exact phase pid rest at'
  cases move with
  | receive f rest at' next =>
    intro pid child found new
    have same : (multiplex c.client f).children = c.client.children := by
      unfold multiplex
      split <;> rfl
    rw [same] at found
    exact absurd new (none (by simp [at']) pid child found)
  | kill pid rest at' =>
    intro p x hx new
    rw [List.getElem?_modify] at hx
    obtain ⟨x₀, found, rfl⟩ := Option.map_eq_some_iff.mp hx
    refine absurd ?_ (none (by simp [at']) p x₀ found)
    split at new <;> exact new
  | fork entity rest at' =>
    intro p x hx new
    by_cases old : p < c.client.children.length
    · rw [List.getElem?_append_left old] at hx
      exact absurd new (none (by simp [at']) p x hx)
    · have bound := (List.getElem?_eq_some_iff.mp hx).1
      rw [List.length_append, List.length_singleton] at bound
      obtain rfl : p = c.client.children.length := by omega
      exact ⟨rest, rfl⟩
  | register pid rest child at' found =>
    intro p x hx new
    rcases getElem_set hx with ⟨rfl, rfl⟩ | ⟨other, old⟩
    · cases new
    · obtain ⟨rest', at''⟩ := registering p x old new
      rw [at'] at at''
      simp at at''
      exact absurd at''.1.symm other
  | identify f rest at' | clear at' | forkFails entity rest at' | loop at' =>
    exact fun pid child found new => absurd new (none (by simp [at']) pid child found)
  | exits pid child found | dies pid child found =>
    exact registering_setChild registering found id
  | reap pid child found | report pid child found =>
    exact registering_setChild registering found nofun

structure Ready (s : State) : Prop where
  notified : Notified s
  registered : Registered s
  owned : Owned s
  served : Served s
  sound : ∀ (fd : ℕ) (c : Connection), s.connections[fd]? = some c → ClientSound c.client
  registering : ∀ (fd : ℕ) (c : Connection), s.connections[fd]? = some c → Registering c.client
  aborted : s.mainLoop = .aborted → s.proxyPid = none

theorem initial_ready : Ready initial :=
  ⟨initial_notified, initial_registered, initial_owned, initial_served, initial_sound,
    fun fd c found => by simp [initial] at found, nofun⟩

theorem ready_move (ready : Ready s) (move : Move config s e u) : Ready u := by
  refine ⟨notified_move ready.notified move, registered_move ready.registered move,
    owned_move ready.notified ready.registered ready.owned move, served_move ready.served move,
    sound_move ready.sound move, fun fd c found => ?_, ?_⟩
  · rcases move_client move found with ⟨peer, rfl⟩ | ⟨c₀, found₀, same | ⟨e', move'⟩⟩
    · exact fun pid child none => by simp [accepted, unconnected] at none
    · exact same ▸ ready.registering fd c₀ found₀
    · exact registering_move (ready.registering fd c₀ found₀) move'
  · have aborted := ready.aborted
    cases move with
    | abort at' missing => exact fun _ => missing
    | boot | mainLock | wait | notified | mainWake | dispatch | ignore | stopProxy | launchProxy
    | broadcast | endBroadcast | clearMessage | clearFlag | mainUnlock =>
      exact fun stopped => absurd stopped (by simp)
    | _ => exact aborted

theorem run_ready {ok : State → Event → Prop} {es : List Event}
    (run : Runs (step config) ok initial es s) : Ready s :=
  run.state_invariant Ready initial_ready (fun _ _ _ ready _ h => ready_move ready (step_move h))

/-- The last launch of the proxy has returned a pid, or the first is still to come. -/
def Launches (s : State) : Prop := s.mainLoop = .booting ∨ s.proxyPid ≠ none

theorem launches_move (launches : Launches s) (calm : Calm s e) (move : Move config s e u) :
    Launches u := by
  cases move with
  | boot ok at' | launchProxy ok at' =>
    cases ok with
    | true => exact Or.inr (by simp [launchEntity])
    | false => cases calm
  | mainLock at' | wait at' | notified at' | mainWake at' | dispatch at' | ignore at'
  | stopProxy _ at' | abort at' | broadcast _ _ _ at' | endBroadcast at' | clearMessage at'
  | clearFlag at' | mainUnlock at' => exact Or.inr (launches.resolve_left (by simp [at']))
  | _ => exact launches

/-! ## What is not answered yet -/

/-- Its `CRASH` is still to be sent. -/
def Unreported (child : Child) : Prop :=
  (child.alive = false ∨ child.killed = true) ∧ child.monitor ≠ .sent

def Reporting (c : Connection) : Prop :=
  CrashInFlight c ∨ ∃ (pid : ℕ) (child : Child), c.client.children[pid]? = some child ∧
    Unreported child

/-- A flag that is up and has not brought a broadcast, or a report on its way. -/
def Unanswered (s : State) : Prop :=
  s.notification = true ∧ ¬Answering s.mainLoop ∨
    ∃ (fd : ℕ) (c : Connection), s.connections[fd]? = some c ∧ Reporting c

theorem reporting_setChild {c : Connection} {pid : ℕ} {child child' : Child}
    (found : c.client.children[pid]? = some child) (kept : Unreported child → Unreported child')
    (reporting : Reporting c) :
    Reporting { c with client := c.client.setChild pid child' } := by
  rcases reporting with crash | ⟨p, x, hx, unreported⟩
  · exact Or.inl crash
  · refine Or.inr ?_
    by_cases own : p = pid
    · subst own
      obtain rfl := Option.some.inj (found.symm.trans hx)
      exact ⟨p, child', List.getElem?_set_self (List.getElem?_eq_some_iff.mp found).1,
        kept unreported⟩
    · exact ⟨p, x, by rw [Client.setChild, List.getElem?_set_ne (Ne.symm own), hx], unreported⟩

theorem reporting_clientMove {c c' : Connection} {e : ClientEvent} (reporting : Reporting c)
    (move : ClientMove config c e c') : Reporting c' := by
  cases move with
  | receive f rest at' next =>
    have same : (multiplex c.client f).children = c.client.children := by
      unfold multiplex
      split <;> rfl
    refine reporting.imp id ?_
    rintro ⟨pid, child, found, unreported⟩
    exact ⟨pid, child, by rw [same, found], unreported⟩
  | kill pid rest at' =>
    refine reporting.imp id ?_
    rintro ⟨p, x, hx, ended, unsent⟩
    refine ⟨p, if pid = p then stopProcess x else x, ?_, ?_⟩
    · rw [List.getElem?_modify, hx]
      rfl
    · split
      · exact ⟨ended.imp id (by simp +contextual [stopProcess]), unsent⟩
      · exact ⟨ended, unsent⟩
  | fork entity rest at' =>
    refine reporting.imp id ?_
    rintro ⟨pid, child, found, unreported⟩
    refine ⟨pid, child, ?_, unreported⟩
    rw [List.getElem?_append_left (List.getElem?_eq_some_iff.mp found).1, found]
  | register pid rest child at' found =>
    exact reporting_setChild found (fun unreported => ⟨unreported.1, by simp⟩) reporting
  | exits pid child found | dies pid child found =>
    exact reporting_setChild found (fun unreported => ⟨Or.inl rfl, unreported.2⟩) reporting
  | reap pid child found =>
    exact reporting_setChild found (fun unreported => ⟨unreported.1, by simp⟩) reporting
  | report pid child found => exact Or.inl (Or.inl (by simp))
  | _ => exact reporting

theorem reporting_setConnection {t : State} {fd : ℕ} {c d : Connection}
    (found : s.connections[fd]? = some c)
    (same : t.connections = (s.setConnection fd d).connections)
    (kept : Reporting c → Reporting d)
    (h : ∃ (i : ℕ) (x : Connection), s.connections[i]? = some x ∧ Reporting x) :
    ∃ (i : ℕ) (x : Connection), t.connections[i]? = some x ∧ Reporting x := by
  obtain ⟨i, x, hx, reporting⟩ := h
  rw [same, State.setConnection]
  by_cases own : i = fd
  · subst own
    obtain rfl := Option.some.inj (found.symm.trans hx)
    exact ⟨i, d, List.getElem?_set_self (List.getElem?_eq_some_iff.mp found).1, kept reporting⟩
  · exact ⟨i, x, by rw [List.getElem?_set_ne (Ne.symm own), hx], reporting⟩

theorem holds_of_answering {m : MainLoop} (answering : Answering m) : Holds m := by
  cases m <;> trivial

/-- What is not answered stays so until the proxy is launched again. -/
theorem unanswered_move (ready : Ready s) (unanswered : Unanswered s) (move : Move config s e u) :
    Unanswered u ∨ ∃ ok, e = .main (.launchProxy ok) := by
  cases move with
  | launchProxy ok at' => exact Or.inr ⟨ok, rfl⟩
  | accept peer at' =>
    refine Or.inl (unanswered.imp id fun ⟨i, x, hx, reporting⟩ => ⟨i, x, ?_, reporting⟩)
    rw [List.getElem?_append_left (List.getElem?_eq_some_iff.mp hx).1, hx]
  | client fd e c c' found move =>
    exact Or.inl (unanswered.imp id (reporting_setConnection found rfl fun reporting =>
      reporting_clientMove reporting move))
  | createHandler fd c at' found =>
    have absent := ready.registered.absent fd c found (by simp [listenFd, at'])
    refine Or.inl (unanswered.imp id (reporting_setConnection found rfl fun reporting => ?_))
    exact reporting.imp (by simp [CrashInFlight, setHandler, absent]) id
  | sendClientIP fd c ci found at' | sendStartSignal fd c found at' | unlock fd c found at'
  | wake fd c found at' =>
    refine Or.inl (unanswered.imp id (reporting_setConnection found rfl fun reporting => ?_))
    exact reporting.imp (by simp [CrashInFlight, setHandler, sendTo, at']) id
  | recvMessage fd c f rest found at' next =>
    refine Or.inl (unanswered.imp id (reporting_setConnection found rfl fun reporting => ?_))
    refine reporting.imp (fun crash => ?_) id
    by_cases taken : f = .crash
    · simp [CrashInFlight, taken]
    · simpa [CrashInFlight, next, at', taken, Ne.symm taken] using crash
  | lock fd c found at' =>
    refine Or.inl (unanswered.imp id (reporting_setConnection found rfl fun _ => ?_))
    exact Or.inl (Or.inr (Or.inr (Or.inl rfl)))
  | storeMessage fd c found at' =>
    refine Or.inl (unanswered.imp id (reporting_setConnection found rfl fun _ => ?_))
    exact Or.inl (Or.inr (Or.inr (Or.inr rfl)))
  | storeFlag fd c found at' =>
    -- the handler is inside, so that the main loop is not at an answer
    have outside := (ready.notified.guarded.alone found (Or.inr (Or.inl at'))).1
    exact Or.inl (Or.inl ⟨rfl, fun answering => outside (holds_of_answering answering)⟩)
  | broadcast fd rest c at' found =>
    refine Or.inl (unanswered.elim (fun flag => absurd ?_ flag.2) (fun h => Or.inr ?_))
    · simp [at', Answering]
    · exact reporting_setConnection (d := sendTo c .restart) found rfl id h
  | endBroadcast at' | clearMessage at' | clearFlag at' =>
    refine Or.inl (unanswered.elim (fun flag => absurd ?_ flag.2) Or.inr)
    simp [at', Answering]
  | boot | mainLock | wait | notified | mainWake | dispatch | ignore | stopProxy | abort
  | mainUnlock =>
    exact Or.inl (unanswered.imp (fun flag => ⟨flag.1, by simp [Answering]⟩) id)
  | addNewClient | pushClientFd => exact Or.inl unanswered

end Cezfuzzer.LauncherReadiness
