import Cezfuzzer.LeadsTo
import Cezfuzzer.LauncherReadiness

set_option autoImplicit false

/-!
# The main loop and the critical sections

What calm runs can always bring about on the server: the main loop comes to rest before its
lock or in its wait, or it launches the proxy again; and a handler that has the mutex gives it
back, or sets the flag and brings the next launch itself.
-/
namespace Cezfuzzer.LauncherRests
open StepRuns LeadsTo LengthPrefix LauncherMessages LauncherClient LauncherMachine
open LauncherInvariants LauncherReadiness
open LauncherDisconnects (toReach)

variable {config : List EntityConfig} {s u : State} {e : Event}

/-! ## The main loop -/

/-- What every calm run keeps. -/
structure Going (s : State) : Prop where
  ready : Ready s
  launches : Launches s

theorem going_step (going : Going s) (calm : Calm s e) (h : step config s e = some u) :
    Going u :=
  ⟨ready_move going.ready (step_move h), launches_move going.launches calm (step_move h)⟩

theorem Going.running (going : Going s) : s.mainLoop ≠ .aborted := by
  intro aborted
  have missing := going.ready.aborted aborted
  rcases going.launches with booting | launched
  · rw [aborted] at booting
    cases booting
  · exact launched missing

/-- The proxy has been launched again, and all clients are to be sent a `RESTART`. -/
structure Restarts (n : ℕ) (s : State) : Prop where
  going : Going s
  toAll : s.mainLoop = .broadcasting s.clientFdList
  more : n < s.launches

/-- The main loop is at `m`, after `n` launches at least. -/
structure At (n : ℕ) (m : MainLoop) (s : State) : Prop where
  going : Going s
  at' : s.mainLoop = m
  least : n ≤ s.launches

variable {n : ℕ}

theorem main_leads {P Q : State → Prop} (h : ∀ s, P s → Going s ∧
    ∃ e t, mainStep s e = some t ∧ Calm s (.main e) ∧ (Going t → Q t)) :
    Leads (step config) Calm P Q := by
  refine Leads.of_step fun s hs => ?_
  obtain ⟨going, e, t, next, calm, done⟩ := h s hs
  have next : step config s (.main e) = some t := next
  exact ⟨.main e, t, calm, next, done (going_step going calm next)⟩

theorem launching_restarts : Leads (step config) Calm (At n .launching) (Restarts n) := by
  refine main_leads fun s here => ⟨here.going, .launchProxy true, { launchEntity s true with
    mainLoop := .broadcasting s.clientFdList }, ?_, trivial, fun going => ?_⟩
  · simp [mainStep, here.at']
  · exact ⟨going, rfl, Nat.lt_succ_of_le here.least⟩

theorem stopping_restarts : Leads (step config) Calm (At n .stopping) (Restarts n) := by
  refine Leads.trans (main_leads fun s here => ⟨here.going, .stopProxy,
    { s with mainLoop := .launching }, ?_, trivial, fun going => ?_⟩) launching_restarts
  · obtain ⟨pid, present⟩ := Option.ne_none_iff_exists'.mp
      (here.going.launches.resolve_left (by simp [here.at']))
    simp [mainStep, here.at', present]
  · exact ⟨going, rfl, here.least⟩

theorem dispatching_restarts : Leads (step config) Calm (At n .dispatching) (Restarts n) := by
  refine Leads.trans (main_leads fun s here => ⟨here.going, .dispatch,
    { s with mainLoop := .stopping }, ?_, trivial, fun going => ?_⟩) stopping_restarts
  · have notified := here.going.ready.notified
    have message := notified.message (notified.dispatching here.at') (by simp [here.at'])
    simp [mainStep, here.at', message]
  · exact ⟨going, rfl, here.least⟩

theorem testing_restarts : Leads (step config) Calm
    (fun s => At n .testing s ∧ s.notification = true) (Restarts n) := by
  refine Leads.trans (main_leads fun s ⟨here, flag⟩ => ⟨here.going, .test,
    { s with mainLoop := .dispatching }, ?_, trivial, fun going => ?_⟩) dispatching_restarts
  · simp [mainStep, here.at', flag]
  · exact ⟨going, rfl, here.least⟩

/-- The main loop is before its lock or in its wait. -/
def Idle (m : MainLoop) : Prop := m = .locking ∨ m = .waiting

/-- A property that calm steps keep, at least up to the next launch. -/
def KeptByCalm (config : List EntityConfig) (I : State → Prop) : Prop :=
  ∀ s e t, Going s → I s → Calm s e → (∀ ok, e ≠ .main (.launchProxy ok)) →
    step config s e = some t → I t

structure Kept (I : State → Prop) (n : ℕ) (s : State) : Prop where
  going : Going s
  inv : I s
  least : n ≤ s.launches

def Rested (I : State → Prop) (n : ℕ) (s : State) : Prop :=
  Kept I n s ∧ Idle s.mainLoop ∨ Restarts n s

section
variable {I : State → Prop}

theorem kept_leads (kept : KeptByCalm config I) {P : State → Prop} {m : MainLoop}
    (h : ∀ s, Going s → P s → ∃ e t, mainStep s e = some t ∧ Calm s (.main e) ∧
      (∀ ok, e ≠ .launchProxy ok) ∧ t.mainLoop = m ∧ s.launches ≤ t.launches)
    (rest : Leads (step config) Calm (fun s => Kept I n s ∧ s.mainLoop = m) (Rested I n)) :
    Leads (step config) Calm (fun s => Kept I n s ∧ P s) (Rested I n) := by
  refine Leads.trans (Leads.of_step fun s ⟨inv, at'⟩ => ?_) rest
  obtain ⟨e, t, next, calm, other, arrived, more⟩ := h s inv.going at'
  have next : step config s (.main e) = some t := next
  have going := going_step inv.going calm next
  have inv' := kept s (.main e) t inv.going inv.inv calm
    (fun ok same => other ok (Event.main.inj same)) next
  exact ⟨.main e, t, calm, next, ⟨going, inv', inv.least.trans more⟩, arrived⟩

theorem rested_locking :
    Leads (step config) Calm (fun s => Kept I n s ∧ s.mainLoop = .locking) (Rested I n) :=
  Leads.of_imp fun _ ⟨inv, at'⟩ => Or.inl ⟨inv, Or.inl at'⟩

theorem rested_waiting :
    Leads (step config) Calm (fun s => Kept I n s ∧ s.mainLoop = .waiting) (Rested I n) :=
  Leads.of_imp fun _ ⟨inv, at'⟩ => Or.inl ⟨inv, Or.inr at'⟩

theorem rested_unlocking (kept : KeptByCalm config I) :
    Leads (step config) Calm (fun s => Kept I n s ∧ s.mainLoop = .unlocking) (Rested I n) := by
  refine kept_leads kept (fun s _ at' => ⟨.unlock, { s with mutex := none, mainLoop := .locking },
    ?_, trivial, nofun, rfl, le_rfl⟩) rested_locking
  simp [mainStep, at']

theorem rested_clearingFlag (kept : KeptByCalm config I) :
    Leads (step config) Calm (fun s => Kept I n s ∧ s.mainLoop = .clearingFlag)
      (Rested I n) := by
  refine kept_leads kept (fun s _ at' => ⟨.clearFlag,
    { s with notification := false, mainLoop := .unlocking }, ?_, trivial, nofun, rfl, le_rfl⟩)
    (rested_unlocking kept)
  simp [mainStep, at']

theorem rested_clearingMessage (kept : KeptByCalm config I) :
    Leads (step config) Calm (fun s => Kept I n s ∧ s.mainLoop = .clearingMessage)
      (Rested I n) := by
  refine kept_leads kept (fun s _ at' => ⟨.clearMessage,
    { s with notificationMessage := [], mainLoop := .clearingFlag }, ?_, trivial, nofun, rfl,
    le_rfl⟩) (rested_clearingFlag kept)
  simp [mainStep, at']

theorem rested_broadcasting (kept : KeptByCalm config I) (rest : List ℕ) :
    Leads (step config) Calm (fun s => Kept I n s ∧ s.mainLoop = .broadcasting rest)
      (Rested I n) := by
  induction rest with
  | nil =>
    refine kept_leads kept (fun s _ at' => ⟨.endBroadcast, { s with mainLoop := .clearingMessage },
      ?_, trivial, by simp, rfl, le_rfl⟩) (rested_clearingMessage kept)
    simp [mainStep, at']
  | cons fd rest ih =>
    refine kept_leads kept (fun s going at' => ?_) ih
    have bound := going.ready.notified.placed.reaching fd (by simp [at', toReach])
    have found := List.getElem?_eq_getElem bound
    refine ⟨.broadcast, { s.setConnection fd (sendTo s.connections[fd] .restart) with
      mainLoop := .broadcasting rest }, ?_, trivial, by simp, rfl, le_rfl⟩
    simp [mainStep, at', found]

theorem rested_testing (kept : KeptByCalm config I) :
    Leads (step config) Calm (fun s => Kept I n s ∧ s.mainLoop = .testing) (Rested I n) := by
  intro s ⟨inv, at'⟩
  cases flag : s.notification with
  | true =>
    exact testing_restarts.mono (fun _ => Or.inr) s ⟨⟨inv.going, at', inv.least⟩, flag⟩
  | false =>
    refine kept_leads kept (P := fun s => s.mainLoop = .testing ∧ s.notification = false)
      (fun s _ ⟨at', clear⟩ => ⟨.test, { s with mutex := none, mainLoop := .waiting }, ?_, trivial,
        nofun, rfl, le_rfl⟩) rested_waiting s ⟨inv, at', flag⟩
    simp [mainStep, at', clear]

/-- The main loop comes to rest, or to the next restart. -/
theorem kept_rested (kept : KeptByCalm config I) :
    Leads (step config) Calm (Kept I n) (Rested I n) := by
  intro s inv
  have restarts : ∀ m, Leads (step config) Calm (At n m) (Restarts n) → s.mainLoop = m →
      ∃ es u, Runs (step config) Calm s es u ∧ Rested I n u :=
    fun m leads at' => leads.mono (fun _ => Or.inr) s ⟨inv.going, at', inv.least⟩
  cases at' : s.mainLoop with
  | booting =>
    refine kept_leads kept (P := fun s => s.mainLoop = .booting) (fun s _ at' => ⟨.boot true,
      { launchEntity s true with mainLoop := .locking }, ?_, trivial, nofun, rfl, Nat.le_succ _⟩)
      rested_locking s ⟨inv, at'⟩
    simp [mainStep, at']
  | locking => exact rested_locking s ⟨inv, at'⟩
  | testing => exact rested_testing kept s ⟨inv, at'⟩
  | waiting => exact rested_waiting s ⟨inv, at'⟩
  | dispatching => exact restarts _ dispatching_restarts at'
  | stopping => exact restarts _ stopping_restarts at'
  | launching => exact restarts _ launching_restarts at'
  | broadcasting rest => exact rested_broadcasting kept rest s ⟨inv, at'⟩
  | clearingMessage => exact rested_clearingMessage kept s ⟨inv, at'⟩
  | clearingFlag => exact rested_clearingFlag kept s ⟨inv, at'⟩
  | unlocking => exact rested_unlocking kept s ⟨inv, at'⟩
  | aborted => exact absurd at' inv.going.running

end

/-! ## The handlers -/

theorem handler_step (going : Going s) {fd : ℕ} {c : Connection} {e : HandlerEvent} {t : State}
    (found : s.connections[fd]? = some c) (h : handlerStep s fd c e = some t) :
    step config s (.handler fd e) = some t := by
  simp [step, going.running, found, h]

theorem setConnection_self {fd : ℕ} {c : Connection} (found : s.connections[fd]? = some c)
    (c' : Connection) : (s.setConnection fd c').connections[fd]? = some c' :=
  List.getElem?_set_self (List.getElem?_eq_some_iff.mp found).1

/-- The main loop is idle, and the handler of `fd` is at `h`. -/
structure Serving (n fd : ℕ) (h : Handler) (s : State) : Prop where
  going : Going s
  least : n ≤ s.launches
  idle : Idle s.mainLoop
  here : ∃ c, s.connections[fd]? = some c ∧ c.handler = h

/-- The main loop can take the mutex. -/
structure Quiet (n : ℕ) (s : State) : Prop where
  going : Going s
  least : n ≤ s.launches
  idle : Idle s.mainLoop
  free : s.mutex = none

theorem serving_leads {fd : ℕ} {h : Handler} {P Q : State → Prop}
    (go : ∀ s c, Serving n fd h s → P s → s.connections[fd]? = some c → c.handler = h →
      ∃ e t, handlerStep s fd c e = some t ∧ (Going t → Q t)) :
    Leads (step config) Calm (fun s => Serving n fd h s ∧ P s) Q := by
  refine Leads.of_step fun s ⟨serving, hs⟩ => ?_
  obtain ⟨c, found, at'⟩ := serving.here
  obtain ⟨e, t, next, done⟩ := go s c serving hs found at'
  have next : step config s (.handler fd e) = some t := handler_step serving.going found next
  have going := going_step (e := .handler fd e) serving.going trivial next
  exact ⟨.handler fd e, t, trivial, next, done going⟩

theorem quiet_restarts : Leads (step config) Calm
    (fun s => Quiet n s ∧ s.notification = true) (Restarts n) := by
  refine Leads.trans (main_leads fun s ⟨quiet, flag⟩ => ⟨quiet.going, ?_⟩) testing_restarts
  have done : Going { s with mutex := some .main, mainLoop := .testing } →
      At n .testing { s with mutex := some .main, mainLoop := .testing } ∧ s.notification = true :=
    fun going => ⟨⟨going, rfl, quiet.least⟩, flag⟩
  rcases quiet.idle with at' | at'
  · exact ⟨.lock, _, by simp [mainStep, at', quiet.free], trivial, done⟩
  · exact ⟨.wake, _, by simp [mainStep, at', quiet.free], trivial, done⟩

theorem unlocking_restarts (fd : ℕ) : Leads (step config) Calm
    (fun s => Serving n fd .unlocking s ∧ s.notification = true) (Restarts n) := by
  refine Leads.trans (serving_leads fun s c serving flag found at' => ⟨.unlock,
    { s.setConnection fd (setHandler c .sleeping) with mutex := none }, ?_, fun going => ?_⟩)
    quiet_restarts
  · simp [handlerStep, at']
  · exact ⟨⟨going, serving.least, serving.idle, rfl⟩, flag⟩

theorem flagging_restarts (fd : ℕ) : Leads (step config) Calm
    (fun s => Serving n fd .flagging s ∧ True) (Restarts n) := by
  refine Leads.trans (serving_leads fun s c serving _ found at' => ⟨.storeFlag,
    { s.setConnection fd (setHandler c .unlocking) with notification := true }, ?_,
    fun going => ?_⟩) (unlocking_restarts fd)
  · simp [handlerStep, at']
  · exact ⟨⟨going, serving.least, serving.idle, _, setConnection_self found _, rfl⟩, rfl⟩

theorem storing_restarts (fd : ℕ) : Leads (step config) Calm
    (fun s => Serving n fd .storing s ∧ True) (Restarts n) := by
  refine Leads.trans (serving_leads fun s c serving _ found at' => ⟨.storeMessage,
    { s.setConnection fd (setHandler c .flagging) with notificationMessage := RESTART }, ?_,
    fun going => ?_⟩) (flagging_restarts fd)
  · simp [handlerStep, at']
  · exact ⟨⟨going, serving.least, serving.idle, _, setConnection_self found _, rfl⟩, trivial⟩

theorem raising_restarts (fd : ℕ) : Leads (step config) Calm
    (fun s => Serving n fd .raising s ∧ s.mutex = none) (Restarts n) := by
  refine Leads.trans (serving_leads fun s c serving free found at' => ⟨.lock,
    { s.setConnection fd (setHandler c .storing) with mutex := some (.handler fd) }, ?_,
    fun going => ?_⟩) (storing_restarts fd)
  · simp [handlerStep, at', free]
  · exact ⟨⟨going, serving.least, serving.idle, _, setConnection_self found _, rfl⟩, trivial⟩

/-- A handler that has the mutex gives it back, or brings the restart itself. -/
theorem rested_quiet {I : State → Prop} (kept : KeptByCalm config I) :
    Leads (step config) Calm (fun s => Kept I n s ∧ Idle s.mainLoop)
      (fun s => Quiet n s ∧ I s ∨ Restarts n s) := by
  intro s ⟨inv, idle⟩
  have outside : ¬Holds s.mainLoop := by
    rcases idle with at' | at' <;> simp [at', Holds]
  cases owner : s.mutex with
  | none => exact ⟨[], s, .refl, Or.inl ⟨⟨inv.going, inv.least, idle, owner⟩, inv.inv⟩⟩
  | some o =>
    cases o with
    | main =>
      rcases inv.going.ready.owned.main owner with holds | aborted
      · exact absurd holds outside
      · exact absurd aborted inv.going.running
    | handler fd =>
      obtain ⟨c, found, critical⟩ := inv.going.ready.owned.handler fd owner
      rcases critical with at' | at' | at'
      · exact (storing_restarts fd).mono (fun _ => Or.inr) s
          ⟨⟨inv.going, inv.least, idle, c, found, at'⟩, trivial⟩
      · exact (flagging_restarts fd).mono (fun _ => Or.inr) s
          ⟨⟨inv.going, inv.least, idle, c, found, at'⟩, trivial⟩
      · let t : State := { s.setConnection fd (setHandler c .sleeping) with mutex := none }
        have next : step config s (.handler fd .unlock) = some t :=
          handler_step inv.going found (by simp [handlerStep, at', t])
        have going : Going t := going_step (e := .handler fd .unlock) inv.going trivial next
        have run : Runs (step config) Calm s [.handler fd .unlock] t := runs_single trivial next
        exact ⟨_, t, run, Or.inl ⟨⟨going, inv.least, idle, rfl⟩,
          kept s (.handler fd .unlock) t inv.going inv.inv trivial (by simp) next⟩⟩

end Cezfuzzer.LauncherRests
