import Cezfuzzer.Tallies
import Cezfuzzer.LauncherInvariants

set_option autoImplicit false

/-!
# What a restart is caused by

Every broadcast answers a `CRASH`, and every `CRASH` a process that has terminated. The
monitors do not ask why it has: a process that `stop_processes` has killed is reported like
one that crashed, and the report brings the next broadcast.
-/
namespace Cezfuzzer.LauncherRestarts
open StepRuns Tallies LengthPrefix LauncherMessages LauncherClient LauncherMachine
open LauncherInvariants

variable {config : List EntityConfig} {s u : State} {e : Event}

/-- A broadcast begins when the proxy has been launched again. -/
def broadcasts : Event → ℕ
  | .main (.launchProxy _) => 1
  | _ => 0

def clientExits : ClientEvent → ℕ
  | .exits _ => 1
  | _ => 0

/-- A target terminates, and not by a launcher's SIGKILL. -/
def exits : Event → ℕ
  | .client _ e => clientExits e
  | _ => 0

/-- A monitor that is about to send its `CRASH` was not waiting for a killed process. -/
def ReportsExit (c : Connection) : ClientEvent → Prop
  | .report pid => ∀ child ∈ c.client.children[pid]?, child.killed = false
  | _ => True

instance (c : Connection) (e : ClientEvent) : Decidable (ReportsExit c e) := by
  cases e <;> unfold ReportsExit <;> infer_instance

def ReportsExits (s : State) : Event → Prop
  | .client fd e => ∀ c ∈ s.connections[fd]?, ReportsExit c e
  | _ => True

instance (s : State) (e : Event) : Decidable (ReportsExits s e) := by
  cases e <;> unfold ReportsExits <;> infer_instance

def unreported (child : Child) : ℕ :=
  if child.alive = false ∧ child.killed = false ∧ child.monitor ≠ .sent then 1 else 0

def raised (h : Handler) : ℕ := if h = .raising ∨ h = .storing ∨ h = .flagging then 1 else 0

/-- The broadcasts that a connection may still cause. -/
def owed (c : Connection) : ℕ :=
  c.toServer.count .crash + raised c.handler + tally unreported c.client.children

/-- From the launch of the proxy on, a flag that is up has been answered. -/
def Answering : MainLoop → Prop
  | .broadcasting _ | .clearingMessage | .clearingFlag => True
  | _ => False

instance (m : MainLoop) : Decidable (Answering m) := by
  cases m <;> unfold Answering <;> infer_instance

def flagged (s : State) : ℕ := if s.notification = true ∧ ¬ Answering s.mainLoop then 1 else 0

def debt (s : State) : ℕ := flagged s + tally owed s.connections

/-- The main loop goes on to a restart only with the flag up. -/
structure Caused (s : State) : Prop where
  sound : ∀ (fd : ℕ) (c : Connection), s.connections[fd]? = some c → ClientSound c.client
  notified : s.mainLoop = .dispatching ∨ s.mainLoop = .stopping ∨ s.mainLoop = .launching →
    s.notification = true

theorem initial_caused : Caused initial := ⟨initial_sound, by simp [initial]⟩

theorem caused_move (caused : Caused s) (move : Move config s e u) : Caused u := by
  refine ⟨sound_move caused.sound move, ?_⟩
  have notified := caused.notified
  cases move <;> simp_all [State.setConnection, launchEntity]

theorem unreported_stopProcess (child : Child) :
    unreported (stopProcess child) = unreported child := by
  cases h : child.alive <;> simp [unreported, stopProcess, h]

theorem owed_setChild (c : Connection) {pid : ℕ} {child : Child}
    (found : c.client.children[pid]? = some child) (child' : Child) :
    tally unreported (c.client.setChild pid child').children + unreported child =
      tally unreported c.client.children + unreported child' :=
  tally_set unreported found child'

theorem clientMove_owed {c c' : Connection} {e : ClientEvent} (sound : ClientSound c.client)
    (met : ReportsExit c e) (move : ClientMove config c e c') :
    owed c' ≤ owed c + clientExits e := by
  cases move with
  | receive f rest at' next =>
    have same : (multiplex c.client f).children = c.client.children := by
      unfold multiplex
      split <;> rfl
    simp only [owed, same]
    omega
  | kill pid rest at' =>
    simp only [owed, tally_modify unreported stopProcess unreported_stopProcess]
    omega
  | fork entity rest at' =>
    simp only [owed, tally_append, tally_singleton, unreported]
    simp
  | register pid rest child at' found =>
    have fresh := sound.registering pid rest child at' found
    have swap := owed_setChild c found { child with monitor := .waiting }
    simp [owed, unreported, fresh] at *
    omega
  | exits pid child found alive killed =>
    have swap := owed_setChild c found { child with alive := false }
    simp [owed, unreported, alive, killed, clientExits] at *
    split at swap <;> omega
  | dies pid child found alive killed =>
    have swap := owed_setChild c found { child with alive := false }
    simp [owed, unreported, killed] at *
    omega
  | reap pid child found alive monitor =>
    have swap := owed_setChild c found { child with monitor := .reaped }
    simp [owed, unreported, monitor] at *
    omega
  | report pid child found monitor =>
    -- the exit that the report is about has not been reported before
    have ended := sound.reaped pid child found (Or.inl monitor)
    have own : child.killed = false := met child (by simp [found])
    have swap := owed_setChild c found { child with monitor := .sent }
    simp [owed, unreported, ended, own, monitor] at *
    omega
  | _ =>
    simp only [owed, startEntities]
    omega

theorem debt_setConnection {fd : ℕ} {c : Connection} (found : s.connections[fd]? = some c)
    (c' : Connection) :
    tally owed (s.setConnection fd c').connections + owed c =
      tally owed s.connections + owed c' :=
  tally_set owed found c'

theorem debt_le {t : State} {fd : ℕ} {c c' : Connection} (found : s.connections[fd]? = some c)
    (same : t.connections = (s.setConnection fd c').connections)
    (paid : flagged t + owed c' ≤ flagged s + owed c) : 0 + debt t ≤ debt s + 0 := by
  have := debt_setConnection found c'
  simp only [debt, same]
  omega

theorem flagged_le (s : State) : flagged s ≤ 1 := by
  unfold flagged
  split <;> omega

theorem flagged_congr {t : State} (same : t.notification = s.notification)
    (loop : Answering t.mainLoop ↔ Answering s.mainLoop) : flagged t = flagged s := by
  simp only [flagged, same, loop]

theorem owed_accepted (peer : Address) : owed (accepted peer) = 0 := rfl

theorem debt_move (caused : Caused s) (met : ReportsExits s e) (move : Move config s e u) :
    broadcasts e + debt u ≤ debt s + exits e := by
  cases move with
  | accept peer at' =>
    simp only [debt, tally_append, tally_singleton, owed_accepted, broadcasts, exits]
    simp only [flagged]
    omega
  | client fd e c c' found move =>
    have step := clientMove_owed (caused.sound fd c found) (met c found) move
    have := debt_setConnection found c'
    have server : flagged (s.setConnection fd c') = flagged s := rfl
    simp only [debt, server, broadcasts, exits]
    omega
  | recvMessage fd c f rest found at' next =>
    -- the frame leaves the connection, and a `CRASH` comes into the handler's hand
    refine debt_le found rfl (Nat.add_le_add (le_of_eq (flagged_congr rfl Iff.rfl)) ?_)
    by_cases crash : f = .crash <;> simp [owed, next, raised, at', crash]
  | storeFlag fd c found at' =>
    have hand : 1 + owed (setHandler c .unlocking) = owed c := by
      simp [owed, setHandler, raised, at']
      omega
    exact debt_le found rfl (calc
      _ ≤ 1 + owed (setHandler c .unlocking) := Nat.add_le_add_right (flagged_le _) _
      _ = owed c := hand
      _ ≤ flagged s + owed c := Nat.le_add_left _ _)
  | launchProxy ok at' =>
    -- the flag was up for this broadcast, and is answered by it
    have up := caused.notified (Or.inr (Or.inr at'))
    simp [debt, flagged, launchEntity, Answering, up, at', broadcasts, exits]
  | createHandler fd c at' found | sendClientIP fd c ci found at' | sendStartSignal fd c found at'
  | lock fd c found at' | storeMessage fd c found at' | unlock fd c found at'
  | wake fd c found at' =>
    refine debt_le found rfl (Nat.add_le_add (le_of_eq (flagged_congr rfl Iff.rfl)) ?_)
    simp [owed, setHandler, sendTo, raised, at']
  | broadcast fd rest c at' found =>
    refine debt_le found rfl (Nat.add_le_add (le_of_eq (flagged_congr rfl ?_)) le_rfl)
    simp [at', Answering]
  | _ => simp_all [debt, flagged, launchEntity, Answering, broadcasts, exits]

theorem reportsExits_broadcasts_le (config : List EntityConfig) (es : List Event) (s : State)
    (run : Runs (step config) ReportsExits initial es s) :
    tally broadcasts es ≤ tally exits es := by
  have bound := runs_tally_le Caused debt broadcasts exits initial_caused
    (fun _ _ _ caused _ hs => caused_move caused (step_move hs))
    (fun _ _ _ caused met hs => debt_move caused met (step_move hs)) run
  have start : debt initial = 0 := rfl
  omega

/-- The first of two entities crashes, and the proxy is restarted. -/
def firstRestart : List Event :=
  [.main (.boot true)] ++ accepts clientAddress ++ greets 0 ++ starts 0 2 ++
    [.client 0 (.exits 0)] ++ reports 0 0 ++ answers 1

/-- The restart kills the second entity, and its monitor sends a `CRASH`. -/
def secondRestart : List Event :=
  firstRestart ++ [.handler 0 .wake, .client 0 .receive, .client 0 .kill, .client 0 .kill,
    .client 0 .clear, .client 0 (.dies 1)] ++ reports 0 1 ++ answers 1

theorem secondRestart_without_exit : ∃ s,
    Runs (step twoEntities) anyStep initial secondRestart s ∧
      ¬ tally broadcasts secondRestart ≤ tally exits secondRestart := by
  obtain ⟨s, hs, -⟩ := exists_execute (step twoEntities) initial secondRestart (fun _ => true)
    (by decide +kernel)
  exact ⟨s, runs_of_unguarded hs, by decide +kernel⟩

theorem firstRestart_broadcasts_le : ∃ s,
    Runs (step twoEntities) ReportsExits initial firstRestart s ∧
      tally broadcasts firstRestart = 1 ∧
      tally broadcasts firstRestart ≤ tally exits firstRestart := by
  obtain ⟨s, hs, -⟩ := exists_execute (guarded (step twoEntities) ReportsExits) initial
    firstRestart (fun _ => true) (by decide +kernel)
  have run := runs_of_guarded hs
  exact ⟨s, run, by decide +kernel,
    reportsExits_broadcasts_le twoEntities firstRestart s run⟩

end Cezfuzzer.LauncherRestarts
