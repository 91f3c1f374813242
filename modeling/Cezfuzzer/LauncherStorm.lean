import Mathlib.Data.Prod.Lex
import Cezfuzzer.LauncherProgress

set_option autoImplicit false

/-!
# Restarts without end

`stop_processes` kills the targets that still run, their monitors report them like crashes, and
the server answers each report with the next restart. Once a report is unanswered while another
target runs, the restarts go on for ever, even if no target terminates by itself again. Frames
are whole: two reports that cross could end it.
-/
namespace Cezfuzzer.LauncherStorm
open StepRuns LeadsTo LengthPrefix LauncherMessages LauncherClient LauncherMachine
open LauncherInvariants LauncherReports LauncherReadiness LauncherRests LauncherProgress
open LauncherDisconnects (toReach)

variable {config : List EntityConfig} {s u : State} {e : Event} {fd n : ℕ} {c c' : Connection}

/-- The process runs, and no launcher has killed it. -/
def Alive (c : Client) (pid : ℕ) : Prop :=
  ∃ child, c.children[pid]? = some child ∧ child.alive = true ∧ child.killed = false

def Running (c : Client) : Prop := ∃ pid ∈ c.processList, Alive c pid

/-- The client has entities, and runs one of them or is about to launch one. -/
structure Busy (c : Client) : Prop where
  entities : c.entities ≠ []
  identified : c.phase ≠ .identifying
  receiving : c.phase = .receiving → Running c
  launching : ∀ rest, c.phase = .launching rest → rest ≠ [] ∨ Running c
  registering : ∀ pid rest, c.phase = .registering pid rest → Alive c pid

/-- A `RESTART` is on its way to the client, or `stop_processes` is about to kill a target. -/
def Doomed (c : Connection) : Prop :=
  RestartInFlight c ∨
    ∃ rest, c.client.phase = .stopping rest ∧ ∃ pid ∈ rest, Alive c.client pid

/-! ## What a client does -/

theorem alive_setChild {c : Client} {pid p : ℕ} {child child' : Child}
    (found : c.children[pid]? = some child) (alive : Alive c p)
    (kept : child.alive = true → child.killed = false →
      child'.alive = true ∧ child'.killed = false) : Alive (c.setChild pid child') p := by
  obtain ⟨x, hx, running, unharmed⟩ := alive
  by_cases own : p = pid
  · subst own
    obtain rfl := Option.some.inj (found.symm.trans hx)
    exact ⟨child', List.getElem?_set_self (List.getElem?_eq_some_iff.mp found).1,
      kept running unharmed⟩
  · exact ⟨x, by rw [Client.setChild, List.getElem?_set_ne (Ne.symm own), hx], running, unharmed⟩

theorem busy_setChild {c : Client} {pid : ℕ} {child child' : Child} (busy : Busy c)
    (found : c.children[pid]? = some child)
    (kept : child.alive = true → child.killed = false →
      child'.alive = true ∧ child'.killed = false) : Busy (c.setChild pid child') := by
  have runs : Running c → Running (c.setChild pid child') :=
    fun ⟨p, listed, alive⟩ => ⟨p, listed, alive_setChild found alive kept⟩
  exact ⟨busy.entities, busy.identified, fun at' => runs (busy.receiving at'),
    fun rest at' => (busy.launching rest at').imp id runs,
    fun p rest at' => alive_setChild found (busy.registering p rest at') kept⟩

theorem busy_startEntities {c : Client} (entities : c.entities ≠ []) : Busy (startEntities c) :=
  ⟨entities, nofun, nofun, fun _ same => Or.inl (Phase.launching.inj same ▸ entities), nofun⟩

/-- Unless a target terminates by itself, or a `fork` fails, a busy client stays busy. -/
theorem busy_clientMove {e : ClientEvent} (busy : Busy c.client) (calm : Calm s (.client fd e))
    (move : ClientMove config c e c') : Busy c'.client := by
  cases move with
  | identify f rest at' => exact absurd at' busy.identified
  | receive f rest at' next =>
    show Busy (multiplex c.client f)
    unfold multiplex
    split
    · exact busy_startEntities busy.entities
    · exact ⟨busy.entities, nofun, nofun, nofun, nofun⟩
    · exact busy
  | kill pid rest at' => exact ⟨busy.entities, nofun, nofun, nofun, nofun⟩
  | clear at' => exact busy_startEntities busy.entities
  | fork entity rest at' =>
    refine ⟨busy.entities, nofun, nofun, nofun, fun p rest' same => ?_⟩
    obtain ⟨rfl, -⟩ := Phase.registering.inj same
    exact ⟨⟨entity, c.client.index, true, false, .uncreated⟩, by simp, rfl, rfl⟩
  | forkFails entity rest at' => cases calm
  | register pid rest child at' found =>
    refine ⟨busy.entities, nofun, nofun, fun _ _ => Or.inr ⟨pid, by simp, ?_⟩, nofun⟩
    exact alive_setChild found (busy.registering pid rest at') fun alive killed => ⟨alive, killed⟩
  | loop at' =>
    refine ⟨busy.entities, nofun, fun _ => ?_, nofun, nofun⟩
    exact (busy.launching [] at').resolve_left (by simp)
  | exits pid child found => cases calm
  | dies pid child found alive killed =>
    exact busy_setChild busy found fun _ unharmed => absurd killed (by simp [unharmed])
  | reap pid child found | report pid child found =>
    exact busy_setChild busy found fun alive killed => ⟨alive, killed⟩

theorem doomed_setChild {pid : ℕ} {child child' : Child} (doomed : Doomed c)
    (found : c.client.children[pid]? = some child)
    (kept : child.alive = true → child.killed = false →
      child'.alive = true ∧ child'.killed = false) :
    Doomed { c with client := c.client.setChild pid child' } :=
  doomed.imp id fun ⟨rest, at', p, toKill, alive⟩ =>
    ⟨rest, at', p, toKill, alive_setChild found alive kept⟩

/-- The `RESTART` kills a target, whose monitor has not sent its report yet. -/
theorem doomed_clientMove {e : ClientEvent} (sound : ClientSound c.client) (busy : Busy c.client)
    (doomed : Doomed c) (calm : Calm s (.client fd e)) (move : ClientMove config c e c') :
    Doomed c' ∨ Reporting c' := by
  cases move with
  | identify f rest at' => exact absurd at' busy.identified
  | receive f rest at' next =>
    have restart := doomed.resolve_right (by simp [at'])
    simp only [RestartInFlight, next, List.mem_cons] at restart
    rcases restart with rfl | behind
    · obtain ⟨pid, listed, alive⟩ := busy.receiving at'
      exact Or.inl (Or.inr ⟨_, rfl, pid, listed, alive⟩)
    · exact Or.inl (Or.inl behind)
  | kill pid rest at' =>
    rcases doomed with restart | ⟨rest', at'', p, toKill, child, found, alive, unharmed⟩
    · exact Or.inl (Or.inl restart)
    obtain rfl := Phase.stopping.inj (at'.symm.trans at'')
    by_cases own : p = pid
    · subst own
      refine Or.inr (Or.inr ⟨p, stopProcess child, ?_, Or.inr ?_, fun sent => ?_⟩)
      · simp [found]
      · simp [stopProcess, alive]
      · have := sound.reaped p child found (Or.inr sent)
        rw [alive] at this
        cases this
    · refine Or.inl (Or.inr ⟨rest, rfl, p, (List.mem_cons.mp toKill).resolve_left own, child, ?_,
        alive, unharmed⟩)
      simp [found, Ne.symm own]
  | clear at' => exact Or.inl (Or.inl (doomed.resolve_right (by simp [at'])))
  | fork entity rest at' | forkFails entity rest at' | loop at' =>
    exact Or.inl (Or.inl (doomed.resolve_right (by simp [at'])))
  | register pid rest child at' found =>
    exact Or.inl (Or.inl (doomed.resolve_right (by simp [at'])))
  | exits pid child found => cases calm
  | dies pid child found alive killed =>
    exact Or.inl (doomed_setChild doomed found fun _ unharmed => absurd killed (by simp [unharmed]))
  | reap pid child found =>
    exact Or.inl (doomed_setChild doomed found fun alive killed => ⟨alive, killed⟩)
  | report pid child found =>
    have kept : Doomed { c with client := c.client.setChild pid { child with monitor := .sent } } :=
      doomed_setChild doomed found fun alive killed => ⟨alive, killed⟩
    exact Or.inl kept

/-! ## What the launchers do -/

/-- Only its own steps change a client or take a frame from it. -/
theorem move_forward (move : Move config s e u) (found : s.connections[fd]? = some c) :
    ∃ c', u.connections[fd]? = some c' ∧ (c'.client = c.client ∧ c.toClient ⊆ c'.toClient ∨
      ∃ e', e = .client fd e' ∧ ClientMove config c e' c') := by
  have other : ∀ {i x x'}, s.connections[i]? = some x → x'.client = x.client →
      x.toClient ⊆ x'.toClient → ∃ c', (s.setConnection i x').connections[fd]? = some c' ∧
        (c'.client = c.client ∧ c.toClient ⊆ c'.toClient ∨
          ∃ e', e = .client fd e' ∧ ClientMove config c e' c') := by
    intro i x x' hx client frames
    by_cases own : i = fd
    · subst own
      obtain rfl := Option.some.inj (found.symm.trans hx)
      exact ⟨x', setConnection_self hx x', Or.inl ⟨client, frames⟩⟩
    · exact ⟨c, by rw [State.setConnection, List.getElem?_set_ne own, found],
        Or.inl ⟨rfl, List.Subset.refl _⟩⟩
  cases move with
  | accept peer at' =>
    refine ⟨c, ?_, Or.inl ⟨rfl, List.Subset.refl _⟩⟩
    rw [List.getElem?_append_left (List.getElem?_eq_some_iff.mp found).1, found]
  | client i e x x' hx move =>
    by_cases own : i = fd
    · subst own
      obtain rfl := Option.some.inj (found.symm.trans hx)
      exact ⟨x', setConnection_self hx x', Or.inr ⟨e, rfl, move⟩⟩
    · exact ⟨c, by rw [State.setConnection, List.getElem?_set_ne own, found],
        Or.inl ⟨rfl, List.Subset.refl _⟩⟩
  | createHandler i x _ hx | recvMessage i x _ _ hx | lock i x hx | storeMessage i x hx
  | storeFlag i x hx | unlock i x hx | wake i x hx =>
    exact other hx rfl (List.Subset.refl _)
  | sendClientIP i x _ hx | sendStartSignal i x hx | broadcast i _ x _ hx =>
    exact other hx rfl (List.subset_append_left _ _)
  | _ => exact ⟨c, found, Or.inl ⟨rfl, List.Subset.refl _⟩⟩

/-- The client `fd` is busy, and the next restart is certain to reach the server or the client. -/
structure Storming (fd : ℕ) (s : State) : Prop where
  listed : fd ∈ s.clientFdList
  goesOn : ∃ c, s.connections[fd]? = some c ∧ Busy c.client ∧
    (Unanswered s ∨ fd ∈ toReach s.mainLoop ∨ Doomed c)

theorem toReach_move (move : Move config s e u) (toGo : fd ∈ toReach s.mainLoop) :
    fd ∈ toReach u.mainLoop ∨ ∃ c, u.connections[fd]? = some c ∧ Doomed c := by
  cases move with
  | broadcast i rest c at' found =>
    by_cases own : i = fd
    · subst own
      refine Or.inr ⟨sendTo c .restart, setConnection_self found _, Or.inl ?_⟩
      simp [RestartInFlight, sendTo]
    · rw [at', toReach, List.mem_cons] at toGo
      exact Or.inl (toGo.resolve_left (Ne.symm own))
  | endBroadcast at' | boot _ at' | mainLock at' | wait at' | notified at' | mainWake at'
  | dispatch at' | ignore at' | stopProxy _ at' | abort at' | launchProxy _ at' | clearMessage at'
  | clearFlag at' | mainUnlock at' => simp [at', toReach] at toGo
  | _ => exact Or.inl toGo

theorem storming_move (ready : Ready s) (storming : Storming fd s) (calm : Calm s e)
    (move : Move config s e u) : Storming fd u := by
  obtain ⟨c, found, busy, token⟩ := storming.goesOn
  have listed := move_clientFdList move storming.listed
  obtain ⟨c', found', next⟩ := move_forward move found
  have busy' : Busy c'.client := by
    rcases next with ⟨same, -⟩ | ⟨e', rfl, move'⟩
    · rwa [same]
    · exact busy_clientMove busy calm move'
  refine ⟨listed, c', found', busy', ?_⟩
  rcases token with unanswered | toGo | doomed
  · rcases unanswered_move ready unanswered move with kept | ⟨ok, rfl⟩
    · exact Or.inl kept
    · cases move with
      | launchProxy _ at' => exact Or.inr (Or.inl storming.listed)
  · rcases toReach_move move toGo with kept | ⟨c'', found'', doomed⟩
    · exact Or.inr (Or.inl kept)
    · obtain rfl := Option.some.inj (found'.symm.trans found'')
      exact Or.inr (Or.inr doomed)
  · rcases next with ⟨same, frames⟩ | ⟨e', rfl, move'⟩
    · exact Or.inr (Or.inr (doomed.imp (fun restart => frames restart) (same ▸ ·)))
    · rcases doomed_clientMove (ready.sound fd c found) busy doomed calm move' with kept | crash
      · exact Or.inr (Or.inr kept)
      · exact Or.inl (Or.inr ⟨fd, c', found', crash⟩)

/-! ## What comes of it -/

/-- The steps of a client up to its next `recv_message`. -/
def phaseRank (c : Client) : ℕ :=
  match c.phase with
  | .identifying | .receiving => 0
  | .launching rest => 2 * rest.length + 1
  | .registering _ rest => 2 * rest.length + 2
  | .stopping rest => rest.length + 2 * c.entities.length + 2

def clientRank (fd : ℕ) (s : State) : ℕ ×ₗ ℕ :=
  match s.connections[fd]? with
  | some c => toLex (c.toClient.length, phaseRank c.client)
  | none => toLex (0, 0)

theorem clientRank_some (found : s.connections[fd]? = some c) :
    clientRank fd s = toLex (c.toClient.length, phaseRank c.client) := by
  simp [clientRank, found]

def DoomedAt (fd : ℕ) (s : State) : Prop :=
  ∃ c, s.connections[fd]? = some c ∧ Busy c.client ∧ Doomed c

theorem client_goes {e : ClientEvent} (quiet : Quiet n s) (found : s.connections[fd]? = some c)
    (busy : Busy c.client) (doomed : Doomed c) (move : ClientMove config c e c')
    (calm : Calm s (.client fd e))
    (less : c'.toClient.length < c.toClient.length ∨ c'.toClient = c.toClient ∧
      phaseRank c'.client < phaseRank c.client) :
    ∃ es t, Runs (step config) Calm s es t ∧ (Quiet n t ∧ Unanswered t ∨
      (Quiet n t ∧ DoomedAt fd t) ∧ clientRank fd t < clientRank fd s) := by
  have next : step config s (.client fd e) = some (s.setConnection fd c') := by
    simp [step, found, clientMove_step move]
  have found' := setConnection_self found c'
  have quiet' := quiet_step quiet calm next rfl rfl rfl
  refine ⟨_, _, runs_single calm next, ?_⟩
  rcases doomed_clientMove (quiet.going.ready.sound fd c found) busy doomed calm move with
    kept | crash
  · refine Or.inr ⟨⟨quiet', c', found', busy_clientMove busy calm move, kept⟩, ?_⟩
    rw [clientRank_some found, clientRank_some found', Prod.Lex.toLex_lt_toLex]
    rcases less with shorter | ⟨same, less⟩
    · exact Or.inl shorter
    · exact Or.inr ⟨by rw [same], less⟩
  · exact Or.inl ⟨quiet', Or.inr ⟨fd, c', found', crash⟩⟩

/-- The client takes the `RESTART` and kills the target. -/
theorem doomed_unanswered (fd : ℕ) : Leads (step config) Calm
    (fun s => Quiet n s ∧ DoomedAt fd s) (fun s => Quiet n s ∧ Unanswered s) := by
  refine Leads.of_rank (clientRank fd) fun s ⟨quiet, c, found, busy, doomed⟩ => ?_
  cases at' : c.client.phase with
  | identifying => exact absurd at' busy.identified
  | receiving =>
    have restart : .restart ∈ c.toClient := doomed.resolve_right (by simp [at'])
    obtain ⟨f, rest, next⟩ := List.exists_cons_of_ne_nil (List.ne_nil_of_mem restart)
    exact client_goes quiet found busy doomed (.receive f rest at' next) trivial
      (Or.inl (by simp [next]))
  | stopping rest =>
    cases rest with
    | nil =>
      exact client_goes quiet found busy doomed (.clear at') trivial
        (Or.inr ⟨rfl, by simp [phaseRank, at', startEntities]⟩)
    | cons pid rest =>
      exact client_goes quiet found busy doomed (.kill pid rest at') trivial
        (Or.inr ⟨rfl, by simp [phaseRank, at']⟩)
  | launching rest =>
    cases rest with
    | nil =>
      exact client_goes quiet found busy doomed (.loop at') trivial
        (Or.inr ⟨rfl, by simp [phaseRank, at']⟩)
    | cons entity rest =>
      exact client_goes quiet found busy doomed (.fork entity rest at') trivial
        (Or.inr ⟨rfl, by simp [phaseRank, at']; omega⟩)
  | registering pid rest =>
    obtain ⟨child, process, -⟩ := busy.registering pid rest at'
    exact client_goes quiet found busy doomed (.register pid rest child at' process) trivial
      (Or.inr ⟨rfl, by simp [phaseRank, at']⟩)

theorem storming_kept (fd : ℕ) : KeptByCalm config (Storming fd) :=
  fun _ _ _ going storming calm _ h => storming_move going.ready storming calm (step_move h)

theorem quiet_storming (fd : ℕ) : Leads (step config) Calm
    (fun s => Quiet n s ∧ Storming fd s) (Restarts n) := by
  intro s ⟨quiet, storming⟩
  obtain ⟨c, found, busy, unanswered | toGo | doomed⟩ := storming.goesOn
  · exact quiet_unanswered s ⟨quiet, unanswered⟩
  · rcases quiet.idle with at' | at' <;> simp [at', toReach] at toGo
  · exact (doomed_unanswered fd).trans quiet_unanswered s ⟨quiet, c, found, busy, doomed⟩

theorem storming_restarts (fd : ℕ) :
    Leads (step config) Calm (Kept (Storming fd) n) (Restarts n) := by
  have rested : Leads (step config) Calm (Kept (Storming fd) n)
      (fun s => Quiet n s ∧ Storming fd s ∨ Restarts n s) :=
    (kept_rested (storming_kept fd)).or_trans (rested_quiet (storming_kept fd))
  exact rested.cases (quiet_storming fd)

theorem storm_run {es : List Event} (going : Going s) (storming : Storming fd s)
    (run : Runs (step config) Calm s es u) : Going u ∧ Storming fd u :=
  run.state_invariant (fun t => Going t ∧ Storming fd t) ⟨going, storming⟩
    fun _ _ _ ⟨going, storming⟩ calm h =>
      ⟨going_step going calm h, storming_move going.ready storming calm (step_move h)⟩

end Cezfuzzer.LauncherStorm
