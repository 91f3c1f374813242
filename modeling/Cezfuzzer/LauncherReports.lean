import Cezfuzzer.LauncherInvariants

set_option autoImplicit false

/-!
# No crash is forgotten

The report of a process that is still in its client's `processList` is on its way: from the
monitor, in the connection, in the handler's hand, in the notification, or as a `RESTART`
back to the client, until `stop_processes` has cleared the list.
-/
namespace Cezfuzzer.LauncherReports
open StepRuns LengthPrefix LauncherMessages LauncherClient LauncherMachine LauncherInvariants

variable {config : List EntityConfig} {s u : State} {e : Event}

/-- A `CRASH` in flight to the server, or held by the handler before it sets the flag. -/
def CrashInFlight (c : Connection) : Prop :=
  .crash ∈ c.toServer ∨ c.handler = .raising ∨ c.handler = .storing ∨ c.handler = .flagging

def RestartNotified (s : State) : Prop :=
  s.notification = true ∧ s.notificationMessage = RESTART

def RestartInFlight (c : Connection) : Prop := .restart ∈ c.toClient

/-- The client has taken a `RESTART`, and `stop_processes` has not cleared the list yet. -/
def Stopping (c : Connection) : Prop := ∃ rest, c.client.phase = .stopping rest

def Reported (c : Client) : Prop :=
  ∃ pid ∈ c.processList, ∃ child, c.children[pid]? = some child ∧ child.monitor = .sent

def ToReach (fd : ℕ) : MainLoop → Prop
  | .broadcasting rest => fd ∈ rest
  | .clearingMessage | .clearingFlag => False
  | _ => True

def Pending (s : State) (fd : ℕ) : Prop :=
  RestartNotified s ∧ fd ∈ s.clientFdList ∧ ToReach fd s.mainLoop

def Announced (s : State) (fd : ℕ) (c : Connection) : Prop :=
  CrashInFlight c ∨ Pending s fd ∨ RestartInFlight c ∨ Stopping c

/-- The invariant: what has been reported is announced to the main loop or by it. -/
def Remembered (s : State) : Prop :=
  ∀ (fd : ℕ) (c : Connection), s.connections[fd]? = some c → Reported c.client →
    Announced s fd c

theorem announced_mono {fd : ℕ} {c c' : Connection} (h : Announced s fd c)
    (crash : CrashInFlight c → CrashInFlight c') (pending : Pending s fd → Pending u fd)
    (restart : RestartInFlight c → RestartInFlight c') (stopping : Stopping c → Stopping c') :
    Announced u fd c' := by
  rcases h with h | h | h | h
  · exact Or.inl (crash h)
  · exact Or.inr (Or.inl (pending h))
  · exact Or.inr (Or.inr (Or.inl (restart h)))
  · exact Or.inr (Or.inr (Or.inr (stopping h)))

theorem reported_setChild {c : Client} {pid : ℕ} {child child' : Child}
    (found : c.children[pid]? = some child) (h : Reported (c.setChild pid child'))
    (sent : child'.monitor = .sent → child.monitor = .sent) : Reported c := by
  obtain ⟨p, listed, x, hx, ended⟩ := h
  rcases getElem_set hx with ⟨rfl, rfl⟩ | ⟨-, hx⟩
  · exact ⟨p, listed, child, found, sent ended⟩
  · exact ⟨p, listed, x, hx, ended⟩

theorem announced_clientMove {fd : ℕ} {c c' : Connection} {e : ClientEvent}
    (sound : ClientSound c.client) (announced : Reported c.client → Announced s fd c)
    (move : ClientMove config c e c') (reported : Reported c'.client) : Announced s fd c' := by
  cases move with
  | identify f rest at' next =>
    obtain ⟨pid, listed, -⟩ := reported
    simp [(sound.identifying at').1] at listed
  | clear at' =>
    obtain ⟨pid, listed, -⟩ := reported
    simp [startEntities] at listed
  | receive f rest at' next =>
    have same : Reported c.client := by
      unfold multiplex at reported
      split at reported <;> exact reported
    rcases announced same with crash | pending | restart | ⟨rest', stopping⟩
    · exact Or.inl crash
    · exact Or.inr (Or.inl pending)
    · -- the `RESTART` is the frame that is taken, or it is behind it
      simp only [RestartInFlight, next, List.mem_cons] at restart
      rcases restart with rfl | behind
      · exact Or.inr (Or.inr (Or.inr ⟨_, rfl⟩))
      · exact Or.inr (Or.inr (Or.inl behind))
    · simp [at'] at stopping
  | kill pid rest at' => exact Or.inr (Or.inr (Or.inr ⟨rest, rfl⟩))
  | report pid child found monitor => exact Or.inl (Or.inl (by simp))
  | fork entity rest at' =>
    obtain ⟨pid, listed, child, found, sent⟩ := reported
    refine announced_mono (announced ?_) id id id (fun h => by simp [Stopping, at'] at h)
    rcases getElem_snoc found with found | rfl
    · exact ⟨pid, listed, child, found, sent⟩
    · cases sent
  | forkFails entity rest at' | loop at' =>
    exact announced_mono (announced reported) id id id (fun h => by simp [Stopping, at'] at h)
  | register pid rest child at' found =>
    refine announced_mono (announced ?_) id id id (fun h => by simp [Stopping, at'] at h)
    obtain ⟨p, listed, x, hx, sent⟩ := reported
    rcases List.mem_append.mp listed with listed | new
    · exact reported_setChild found ⟨p, listed, x, hx, sent⟩ (fun h => by cases h)
    · -- the process that is listed now is not reported
      obtain rfl : p = pid := by simpa using new
      rcases getElem_set hx with ⟨-, rfl⟩ | ⟨other, -⟩
      · cases sent
      · exact absurd rfl other
  | exits pid child found | dies pid child found =>
    exact announced_mono (announced (reported_setChild found reported id)) id id id id
  | reap pid child found =>
    exact announced_mono (announced (reported_setChild found reported (fun h => by cases h)))
      id id id id

theorem initial_remembered : Remembered initial := by
  intro fd c found
  simp [initial] at found

theorem unconnected_not_reported : ¬ Reported unconnected := by
  rintro ⟨pid, listed, -⟩
  simp [unconnected] at listed

theorem remembered_setConnection {t : State} {fd : ℕ} {c c' : Connection}
    (remembered : Remembered s) (found : s.connections[fd]? = some c)
    (same : t.connections = (s.setConnection fd c').connections)
    (pending : ∀ i ≠ fd, Pending s i → Pending t i)
    (announced : Reported c'.client → Announced t fd c') : Remembered t := by
  intro i x hx reported
  rw [same] at hx
  rcases setConnection_getElem hx with ⟨rfl, rfl⟩ | ⟨other, hx⟩
  · exact announced reported
  · exact announced_mono (remembered i x hx reported) id (pending i other) id id

theorem remembered_main {t : State} (remembered : Remembered s)
    (same : t.connections = s.connections) (pending : ∀ i, Pending s i → Pending t i) :
    Remembered t := by
  intro i x hx reported
  rw [same] at hx
  exact announced_mono (remembered i x hx reported) id (pending i) id id

theorem toReach_outside {fd : ℕ} {m : MainLoop} (outside : ¬ Holds m) : ToReach fd m := by
  cases m <;> first | trivial | exact absurd trivial outside

theorem remembered_move (guarded : Guarded s) (registered : Registered s)
    (sound : ∀ (fd : ℕ) (c : Connection), s.connections[fd]? = some c → ClientSound c.client)
    (remembered : Remembered s) (move : Move config s e u) : Remembered u := by
  cases move with
  | accept peer at' =>
    intro i x hx reported
    rcases getElem_snoc hx with hx | rfl
    · exact remembered i x hx reported
    · exact absurd reported unconnected_not_reported
  | client fd e c c' found move =>
    exact remembered_setConnection remembered found rfl (fun _ _ => id)
      (announced_clientMove (s := s) (sound fd c found) (remembered fd c found) move)
  | addNewClient fd peer at' =>
    exact remembered_main remembered rfl (fun _ => id)
  | pushClientFd fd at' =>
    exact remembered_main remembered rfl
      (fun i ⟨notified, listed, reach⟩ => ⟨notified, List.mem_append_left _ listed, reach⟩)
  | createHandler fd c at' found =>
    have absent := registered.absent fd c found (by simp [listenFd, at'])
    refine remembered_setConnection remembered found rfl (fun _ _ => id) (fun reported => ?_)
    refine announced_mono (remembered fd c found reported) ?_ id id id
    simp [CrashInFlight, setHandler, absent]
  | sendClientIP fd c ci found at' | sendStartSignal fd c found at' =>
    refine remembered_setConnection remembered found rfl (fun _ _ => id) (fun reported => ?_)
    refine announced_mono (remembered fd c found reported) ?_ id (List.mem_append_left _) id
    simp [CrashInFlight, setHandler, sendTo, at']
  | recvMessage fd c f rest found at' next =>
    refine remembered_setConnection remembered found rfl (fun _ _ => id) (fun reported => ?_)
    refine announced_mono (remembered fd c found reported) ?_ id id id
    by_cases crash : f = .crash
    · simp [CrashInFlight, crash]
    · simp [CrashInFlight, next, at', crash, Ne.symm crash]
  | lock fd c found at' =>
    exact remembered_setConnection remembered found rfl (fun _ _ => id)
      (fun _ => Or.inl (Or.inr (Or.inr (Or.inl rfl))))
  | storeMessage fd c found at' =>
    exact remembered_setConnection remembered found rfl
      (fun i _ ⟨notified, listed, reach⟩ => ⟨⟨notified.1, rfl⟩, listed, reach⟩)
      (fun _ => Or.inl (Or.inr (Or.inr (Or.inr rfl))))
  | storeFlag fd c found at' =>
    -- the handler is inside, so the main loop is not, and will come to every listed client
    have inside := guarded.handler fd c found (Or.inr (Or.inl at'))
    have outside : ¬ Holds s.mainLoop := by
      intro holds
      rw [guarded.main holds] at inside
      cases inside
    have message := guarded.message fd c found at'
    have listed := registered.listed fd c found (by simp [at'])
    exact remembered_setConnection remembered found rfl
      (fun i _ ⟨notified, listed, reach⟩ => ⟨⟨rfl, notified.2⟩, listed, reach⟩)
      (fun _ => Or.inr (Or.inl ⟨⟨rfl, message⟩, listed, toReach_outside outside⟩))
  | unlock fd c found at' | wake fd c found at' =>
    refine remembered_setConnection remembered found rfl (fun _ _ => id) (fun reported => ?_)
    refine announced_mono (remembered fd c found reported) ?_ id id id
    simp [CrashInFlight, setHandler, at']
  | launchProxy ok at' =>
    exact remembered_main remembered rfl
      (fun i ⟨notified, listed, _⟩ => ⟨notified, listed, listed⟩)
  | broadcast fd rest c at' found =>
    refine remembered_setConnection remembered found rfl ?_
      (fun _ => Or.inr (Or.inr (Or.inl (by simp [RestartInFlight, sendTo]))))
    rintro i other ⟨notified, listed, reach⟩
    rw [at'] at reach
    exact ⟨notified, listed, (List.mem_cons.mp reach).resolve_left other⟩
  | endBroadcast at' | clearMessage at' | clearFlag at' =>
    -- the broadcast has reached every client
    refine remembered_main remembered rfl (fun i ⟨_, _, reach⟩ => ?_)
    simp [at', ToReach] at reach
  | boot _ at' | mainLock at' | wait at' | notified at' | mainWake at' | dispatch at'
  | ignore at' | stopProxy _ at' | abort at' | mainUnlock at' =>
    exact remembered_main remembered rfl
      (fun i ⟨notified, listed, _⟩ => ⟨notified, listed, trivial⟩)

structure Invariant (s : State) : Prop where
  guarded : Guarded s
  registered : Registered s
  sound : ∀ (fd : ℕ) (c : Connection), s.connections[fd]? = some c → ClientSound c.client
  remembered : Remembered s

theorem initial_invariant : Invariant initial :=
  ⟨initial_guarded, initial_registered, initial_sound, initial_remembered⟩

theorem invariant_move (inv : Invariant s) (move : Move config s e u) : Invariant u :=
  ⟨guarded_move inv.guarded move, registered_move inv.registered move, sound_move inv.sound move,
    remembered_move inv.guarded inv.registered inv.sound inv.remembered move⟩

def NotForgotten (s : State) (c : Connection) (child : Child) : Prop :=
  child.monitor ≠ .sent ∨ CrashInFlight c ∨ RestartNotified s ∨ RestartInFlight c

instance (s : State) (c : Connection) (child : Child) : Decidable (NotForgotten s c child) := by
  unfold NotForgotten CrashInFlight RestartNotified RestartInFlight
  infer_instance

/-- In every reachable state the crash of a listed process is in one of these places, or its
    client is in `stop_processes`. -/
theorem crash_not_forgotten (config : List EntityConfig) (es : List Event) (s : State)
    (run : Runs (step config) anyStep initial es s) (fd : ℕ) (c : Connection)
    (found : s.connections[fd]? = some c) (pid : ℕ) (listed : pid ∈ c.client.processList)
    (child : Child) (process : c.client.children[pid]? = some child) :
    child.alive = false → NotForgotten s c child ∨ Stopping c := by
  intro _
  have inv := run.state_invariant Invariant initial_invariant
    (fun _ _ _ inv _ hs => invariant_move inv (step_move hs))
  by_cases sent : child.monitor = .sent
  · rcases inv.remembered fd c found ⟨pid, listed, child, process, sent⟩ with h | h | h | h
    · exact Or.inl (Or.inr (Or.inl h))
    · exact Or.inl (Or.inr (Or.inr (Or.inl h.1)))
    · exact Or.inl (Or.inr (Or.inr (Or.inr h)))
    · exact Or.inr h
  · exact Or.inl (Or.inl sent)

/-- One of two entities has crashed, and the `RESTART` for it has been sent. -/
def restartSent : List Event :=
  [.main (.boot true)] ++ accepts clientAddress ++ greets 0 ++ starts 0 2 ++
    [.client 0 (.exits 0)] ++ reports 0 0 ++ answers 1

/-- The client has taken that `RESTART`, and the process is still in its list. -/
theorem restartTaken_forgotten : ∃ s c child,
    Runs (step twoEntities) anyStep initial (restartSent ++ [.client 0 .receive]) s ∧
      s.connections[0]? = some c ∧ 0 ∈ c.client.processList ∧
      c.client.children[0]? = some child ∧ child.alive = false ∧ ¬ NotForgotten s c child := by
  obtain ⟨s, hs, h⟩ := exists_execute (step twoEntities) initial
    (restartSent ++ [.client 0 .receive])
    (fun s => s.connections[0]?.any (fun c => c.client.children[0]?.any (fun child =>
      0 ∈ c.client.processList ∧ child.alive = false ∧ ¬ NotForgotten s c child)))
    (by decide +kernel)
  obtain ⟨c, found, h⟩ := (Option.any_eq_true _ _).mp h
  obtain ⟨child, process, h⟩ := (Option.any_eq_true _ _).mp h
  obtain ⟨listed, ended, forgotten⟩ := of_decide_eq_true h
  exact ⟨s, c, child, runs_of_unguarded hs, found, listed, process, ended, forgotten⟩

theorem restartSent_not_forgotten : ∃ s c child,
    Runs (step twoEntities) anyStep initial restartSent s ∧
      s.connections[0]? = some c ∧ 0 ∈ c.client.processList ∧
      c.client.children[0]? = some child ∧ child.alive = false ∧
      (NotForgotten s c child ∨ Stopping c) := by
  obtain ⟨s, hs, h⟩ := exists_execute (step twoEntities) initial restartSent
    (fun s => s.connections[0]?.any (fun c => c.client.children[0]?.any (fun child =>
      0 ∈ c.client.processList ∧ child.alive = false))) (by decide +kernel)
  obtain ⟨c, found, h⟩ := (Option.any_eq_true _ _).mp h
  obtain ⟨child, process, h⟩ := (Option.any_eq_true _ _).mp h
  obtain ⟨listed, ended⟩ := of_decide_eq_true h
  have run := runs_of_unguarded hs
  exact ⟨s, c, child, run, found, listed, process, ended,
    crash_not_forgotten twoEntities restartSent s run 0 c found 0 listed child process ended⟩

end Cezfuzzer.LauncherReports
