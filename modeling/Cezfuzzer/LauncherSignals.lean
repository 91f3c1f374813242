import Cezfuzzer.LauncherInstances

set_option autoImplicit false

/-!
# The pids that `stop_processes` signals

A client launcher among the other processes of its machine. The system gives a pid to a new
process when no process has it, and a terminated child has its pid until it is waited for.
`processList` keeps a pid until the next `RESTART`.
-/
namespace Cezfuzzer.LauncherSignals
open StepRuns LauncherMessages LauncherClient LauncherInstances
open LauncherMachine (accepted clientAddress)
open LauncherInvariants (ClientSound clientSound_move unconnected_sound)

/-- `waitpid` has not returned the child yet. -/
def unreaped (child : Child) : Bool := child.monitor = .uncreated ∨ child.monitor = .waiting

def UnreapedAt (c : Client) (n : ℕ) : Prop := c.children[n]?.any unreaped = true

/-- The launcher, the pid of each of its children in the order of their forks, and the pids of
    the processes that are no children of it. -/
structure System where
  launcher : Connection
  pids : List ℕ
  others : List ℕ
  deriving DecidableEq

def System.ownPids (s : System) : List ℕ :=
  ((s.launcher.client.children.zip s.pids).filter (fun p => unreaped p.1)).map Prod.snd

inductive Event where
  | launcher (e : LauncherInstances.Event)
  | fork (pid : ℕ)
  | kill
  | spawn (pid : ℕ)
  | ends (pid : ℕ)
  deriving DecidableEq

/-- `kill(pid, SIGKILL)` reaches the process that has the pid now. -/
def System.kill (s : System) (pid : ℕ) (rest : List ℕ) : System :=
  { s with
    launcher := { s.launcher with client := { s.launcher.client with
      phase := .stopping rest
      children := s.launcher.client.children.mapIdx (fun n child =>
        if s.pids[n]? = some pid ∧ unreaped child then stopProcess child else child) } }
    others := s.others.erase pid }

def step (config : Config) (s : System) : Event → Option System
  | .launcher (.client .kill) | .launcher (.client (.fork true)) => none
  | .launcher e => (LauncherInstances.step config s.launcher e).map
      (fun c => { s with launcher := c })
  | .fork pid =>
    if pid ∈ s.ownPids ∨ pid ∈ s.others then none
    else (LauncherInstances.step config s.launcher (.client (.fork true))).map
      (fun c => { s with launcher := c, pids := s.pids ++ [pid] })
  | .kill => match s.launcher.client.phase with
    | .stopping (n :: rest) => s.pids[n]?.map (fun pid => s.kill pid rest)
    | _ => none
  | .spawn pid =>
    if pid ∈ s.ownPids ∨ pid ∈ s.others then none else some { s with others := pid :: s.others }
  | .ends pid => some { s with others := s.others.erase pid }

def start (peer : Address) (others : List ℕ) : System :=
  ⟨accepted peer, [], others⟩

/-- A signal is for a child of the launcher that has not been waited for, and for no other
    process. -/
def SignalsOwn (s : System) : Event → Prop
  | .kill => ∀ n rest, s.launcher.client.phase = .stopping (n :: rest) →
      UnreapedAt s.launcher.client n ∧ ∃ pid, s.pids[n]? = some pid ∧ pid ∉ s.others
  | _ => True

/-- The children that `stop_processes` is still to signal, in the loop that is running or in
    the next one. -/
def pending (c : Client) : List ℕ :=
  match c.phase with
  | .stopping rest => rest
  | _ => c.processList

/-- A child is waited for only after `stop_processes` has come to it. -/
def ReapsSignalled (s : System) : Event → Prop
  | .launcher (.client (.reap n)) => n ∉ pending s.launcher.client
  | _ => True

instance (s : System) (e : Event) : Decidable (ReapsSignalled s e) := by
  unfold ReapsSignalled
  split <;> infer_instance

variable {config : Config} {c c' : Connection} {s s' : System}

theorem unreapedAt_congr {c c' : Client} {i : ℕ}
    (same : c'.children[i]?.map Child.monitor = c.children[i]?.map Child.monitor) :
    UnreapedAt c' i ↔ UnreapedAt c i := by
  cases h : c.children[i]? <;> cases h' : c'.children[i]? <;>
    simp_all [UnreapedAt, unreaped]

theorem unreapedAt_setChild {c : Client} {n : ℕ} {child : Child} (child' : Child)
    (found : c.children[n]? = some child) (i : ℕ) : UnreapedAt (c.setChild n child') i ↔
      if i = n then unreaped child' = true else UnreapedAt c i := by
  obtain ⟨lt, -⟩ := List.getElem?_eq_some_iff.mp found
  unfold UnreapedAt Client.setChild
  by_cases same : i = n
  · subst same
    simp [lt]
  · simp [same, Ne.symm same]

theorem unreapedAt_unchanged {c : Client} {n : ℕ} {child : Child} (child' : Child)
    (found : c.children[n]? = some child) (same : unreaped child' = unreaped child) (i : ℕ) :
    UnreapedAt (c.setChild n child') i ↔ UnreapedAt c i := by
  rw [unreapedAt_setChild child' found]
  split
  · rename_i at'
    simp [UnreapedAt, at', found, same]
  · rfl

theorem unreaped_registering {c : Client} (sound : ClientSound c) {n : ℕ}
    {rest : List EntityConfig} {child : Child} (at' : c.phase = .registering n rest)
    (found : c.children[n]? = some child) : UnreapedAt c n := by
  have uncreated := sound.registering n rest child at' found
  simp [UnreapedAt, found, unreaped, uncreated]

/-- A move of the launcher ends the life of a pid by a `waitpid` only, and begins one by a
    `fork` only. -/
theorem move_unreaped {e : ClientEvent} (sound : ClientSound c.client)
    (move : ClientMove config.entities c e c') (i : ℕ) :
    UnreapedAt c'.client i ↔ (UnreapedAt c.client i ∧ e ≠ .reap i) ∨
      (e = .fork true ∧ i = c.client.children.length) := by
  cases move with
  | identify | clear | forkFails | loop => simp [UnreapedAt, startEntities]
  | receive f rest at' next =>
    simp only [multiplex]
    split <;> simp [UnreapedAt, startEntities]
  | kill pid rest at' =>
    simp only [ne_eq, reduceCtorEq, not_false_eq_true, and_true, false_and, or_false]
    refine unreapedAt_congr ?_
    rw [List.getElem?_modify]
    cases c.client.children[i]? with
    | none => rfl
    | some child => by_cases same : pid = i <;> simp [same, stopProcess]
  | fork entity rest at' =>
    simp only [UnreapedAt, ne_eq, reduceCtorEq, not_false_eq_true, and_true, true_and]
    rcases Nat.lt_trichotomy i c.client.children.length with lt | rfl | gt
    · simp [List.getElem?_append_left lt, lt.ne]
    · simp [unreaped]
    · rw [List.getElem?_eq_none (by simp; omega), List.getElem?_eq_none (by omega)]
      simp [gt.ne']
  | register pid rest child at' found =>
    have before := unreaped_registering sound at' found
    have after := unreapedAt_setChild { child with monitor := .waiting } found i
    simp only [UnreapedAt, ne_eq, reduceCtorEq, not_false_eq_true, and_true, false_and,
      or_false] at before after ⊢
    rw [after]
    by_cases same : i = pid <;> simp [same, unreaped, before]
  | exits pid child found alive killed | dies pid child found alive killed =>
    simpa using unreapedAt_unchanged { child with alive := false } found rfl i
  | reap pid child found alive monitor =>
    rw [unreapedAt_setChild _ found]
    by_cases same : i = pid
    · simp [same, unreaped]
    · simp [same, Ne.symm same]
  | report pid child found monitor =>
    have same : unreaped { child with monitor := .sent } = unreaped child := by
      simp [unreaped, monitor]
    simpa using unreapedAt_unchanged _ found same i

/-- What is still to be signalled is what was, and a child that has just been registered. -/
theorem move_pending {e : ClientEvent} (move : ClientMove config.entities c e c') {n : ℕ}
    (member : n ∈ pending c'.client) :
    n ∈ pending c.client ∨ e = .register ∧ ∃ rest child,
      c.client.phase = .registering n rest ∧ c.client.children[n]? = some child := by
  cases move with
  | receive f rest at' next =>
    simp only [multiplex, startEntities] at member
    split at member <;> simp_all [pending]
  | register pid rest child at' found =>
    simp only [pending, List.mem_append, List.mem_singleton] at member
    rcases member with member | rfl
    · exact Or.inl (by simpa [pending, at'] using member)
    · exact Or.inr ⟨rfl, rest, child, at', found⟩
  | identify f rest at' | kill pid rest at' | clear at' | fork entity rest at'
  | forkFails entity rest at' | loop at' => simp_all [pending, startEntities]
  | exits | dies | reap | report => exact Or.inl member

inductive Step (config : Config) (s : System) : Event → System → Prop where
  | server (peer : Address) (handler : Handler) (toClient toServer sent : List Frame) :
      Step config s (.launcher (.server peer handler toClient toServer sent))
        { s with launcher := ⟨peer, handler, toClient, toServer, sent, s.launcher.client⟩ }
  | client (e : ClientEvent) (c' : Connection) (others : e ≠ .kill ∧ e ≠ .fork true)
      (move : ClientMove config.entities s.launcher e c') :
      Step config s (.launcher (.client e)) { s with launcher := c' }
  | fork (pid : ℕ) (c' : Connection) (free : pid ∉ s.ownPids ∧ pid ∉ s.others)
      (move : ClientMove config.entities s.launcher (.fork true) c') :
      Step config s (.fork pid) { s with launcher := c', pids := s.pids ++ [pid] }
  | kill (n : ℕ) (rest : List ℕ) (pid : ℕ) (at' : s.launcher.client.phase = .stopping (n :: rest))
      (found : s.pids[n]? = some pid) : Step config s .kill (s.kill pid rest)
  | spawn (pid : ℕ) (free : pid ∉ s.ownPids ∧ pid ∉ s.others) :
      Step config s (.spawn pid) { s with others := pid :: s.others }
  | ends (pid : ℕ) : Step config s (.ends pid) { s with others := s.others.erase pid }

theorem step_step {e : Event} (h : step config s e = some s') : Step config s e s' := by
  cases e with
  | launcher e =>
    cases e with
    | server peer handler toClient toServer sent =>
      cases h
      exact .server peer handler toClient toServer sent
    | client e =>
      have other : e ≠ .kill ∧ e ≠ .fork true := by
        constructor <;> rintro rfl <;> cases h
      have turn : (clientStep config.entities s.launcher e).map
          (fun c => { s with launcher := c }) = some s' := by
        cases e with
        | fork ok => cases ok <;> first | exact h | exact absurd rfl other.2
        | kill => exact absurd rfl other.1
        | _ => exact h
      obtain ⟨c', move, rfl⟩ := Option.map_eq_some_iff.mp turn
      exact .client e c' other (clientStep_move move)
  | fork pid =>
    simp only [step] at h
    split at h
    · cases h
    · rename_i free
      obtain ⟨c', move, rfl⟩ := Option.map_eq_some_iff.mp h
      exact .fork pid c' (not_or.mp free) (clientStep_move move)
  | kill =>
    simp only [step] at h
    split at h
    · rename_i n rest at'
      obtain ⟨pid, found, rfl⟩ := Option.map_eq_some_iff.mp h
      exact .kill n rest pid at' found
    · cases h
  | spawn pid =>
    simp only [step] at h
    split at h
    · cases h
    · rename_i free
      cases h
      exact .spawn pid (not_or.mp free)
  | ends pid =>
    cases h
    exact .ends pid

theorem mem_ownPids {pid : ℕ} : pid ∈ s.ownPids ↔
    ∃ n, s.pids[n]? = some pid ∧ UnreapedAt s.launcher.client n := by
  rw [System.ownPids, List.mem_map]
  constructor
  · rintro ⟨⟨child, p⟩, member, rfl⟩
    obtain ⟨zipped, alive⟩ := List.mem_filter.mp member
    obtain ⟨n, entry⟩ := List.mem_iff_getElem?.mp zipped
    obtain ⟨hchild, hpid⟩ := List.getElem?_zip_eq_some.mp entry
    exact ⟨n, hpid, by simpa [UnreapedAt, hchild] using alive⟩
  · rintro ⟨n, hpid, un⟩
    obtain ⟨child, hchild, alive⟩ := (Option.any_eq_true _ _).mp un
    have entry : (s.launcher.client.children.zip s.pids)[n]? = some (child, pid) :=
      List.getElem?_zip_eq_some.mpr ⟨hchild, hpid⟩
    exact ⟨(child, pid), List.mem_filter.mpr ⟨List.mem_of_getElem? entry, alive⟩, rfl⟩

theorem kill_monitor (s : System) (pid : ℕ) (rest : List ℕ) (n : ℕ) :
    (s.kill pid rest).launcher.client.children[n]?.map Child.monitor =
      s.launcher.client.children[n]?.map Child.monitor := by
  simp only [System.kill, List.getElem?_mapIdx]
  cases s.launcher.client.children[n]? with
  | none => rfl
  | some child =>
    simp only [Option.map_some, Option.some.injEq]
    split <;> rfl

theorem kill_unreaped (s : System) (pid : ℕ) (rest : List ℕ) (n : ℕ) :
    UnreapedAt (s.kill pid rest).launcher.client n ↔ UnreapedAt s.launcher.client n :=
  unreapedAt_congr (kill_monitor s pid rest n)

/-- Each process has a pid of its own as long as it has one. -/
structure Allocated (s : System) : Prop where
  sound : ClientSound s.launcher.client
  length : s.pids.length = s.launcher.client.children.length
  unique : ∀ i j pid, s.pids[i]? = some pid → s.pids[j]? = some pid →
    UnreapedAt s.launcher.client i → UnreapedAt s.launcher.client j → i = j
  apart : ∀ n pid, s.pids[n]? = some pid → UnreapedAt s.launcher.client n → pid ∉ s.others

theorem start_allocated (peer : Address) (others : List ℕ) : Allocated (start peer others) := by
  refine ⟨unconnected_sound, rfl, ?_, ?_⟩ <;> simp [start]

/-- A step that begins no process of the launcher and no other one keeps the pids apart. -/
theorem allocated_mono (allocated : Allocated s) (sound : ClientSound s'.launcher.client)
    (pids : s'.pids = s.pids)
    (length : s'.launcher.client.children.length = s.launcher.client.children.length)
    (old : ∀ n, UnreapedAt s'.launcher.client n → UnreapedAt s.launcher.client n)
    (others : s'.others ⊆ s.others) : Allocated s' := by
  refine ⟨sound, by rw [pids, length, allocated.length], ?_, ?_⟩
  · intro i j pid hi hj ui uj
    rw [pids] at hi hj
    exact allocated.unique i j pid hi hj (old i ui) (old j uj)
  · intro n pid hn un member
    rw [pids] at hn
    exact allocated.apart n pid hn (old n un) (others member)

theorem move_children_length {e : ClientEvent} (move : ClientMove config.entities c e c') :
    c'.client.children.length =
      c.client.children.length + if e = .fork true then 1 else 0 := by
  cases move with
  | receive f rest at' next =>
    simp only [multiplex]
    split <;> rfl
  | _ => simp [Client.setChild, startEntities]

theorem kill_sound (sound : ClientSound s.launcher.client) (pid : ℕ) (rest : List ℕ) :
    ClientSound (s.kill pid rest).launcher.client := by
  refine ⟨nofun, nofun, ?_⟩
  intro n child found ended
  simp only [System.kill, List.getElem?_mapIdx] at found
  obtain ⟨child₀, found₀, rfl⟩ := Option.map_eq_some_iff.mp found
  have same : ∀ p : Prop, ∀ _ : Decidable p,
      (if p then stopProcess child₀ else child₀).monitor = child₀.monitor ∧
        (if p then stopProcess child₀ else child₀).alive = child₀.alive := by
    intro p _
    split <;> exact ⟨rfl, rfl⟩
  rw [(same _ _).1] at ended
  rw [(same _ _).2]
  exact sound.reaped n child₀ found₀ ended

theorem allocated_step {e : Event} (allocated : Allocated s) (h : Step config s e s') :
    Allocated s' := by
  cases h with
  | server => exact ⟨allocated.sound, allocated.length, allocated.unique, allocated.apart⟩
  | client e c' others move =>
    refine allocated_mono allocated (clientSound_move allocated.sound move) rfl ?_ ?_
      (List.Subset.refl _)
    · simpa [others.2] using move_children_length move
    · intro n un
      have := (move_unreaped allocated.sound move n).mp un
      tauto
  | fork pid c' free move =>
    have length := move_children_length move
    rw [if_pos rfl] at length
    have place : ∀ n p, (s.pids ++ [pid])[n]? = some p → UnreapedAt c'.client n →
        (s.pids[n]? = some p ∧ UnreapedAt s.launcher.client n) ∨
          (n = s.pids.length ∧ p = pid) := by
      intro n p hn un
      rw [List.getElem?_append] at hn
      split at hn
      · rename_i lt
        rcases (move_unreaped allocated.sound move n).mp un with ⟨un, -⟩ | ⟨-, last⟩
        · exact Or.inl ⟨hn, un⟩
        · rw [last, allocated.length] at lt
          exact absurd lt (lt_irrefl _)
      · rw [List.getElem?_singleton] at hn
        split at hn
        · exact Or.inr ⟨by omega, (Option.some.inj hn).symm⟩
        · cases hn
    refine ⟨clientSound_move allocated.sound move, ?_, ?_, ?_⟩
    · simp [length, allocated.length]
    · intro i j p hi hj ui uj
      rcases place i p hi ui with ⟨hi, ui⟩ | ⟨ei, rfl⟩ <;>
        rcases place j _ hj uj with ⟨hj, uj⟩ | ⟨ej, same⟩
      · exact allocated.unique i j p hi hj ui uj
      · exact absurd (mem_ownPids.mpr ⟨i, same ▸ hi, ui⟩) free.1
      · exact absurd (mem_ownPids.mpr ⟨j, hj, uj⟩) free.1
      · exact ei.trans ej.symm
    · intro n p hn un
      rcases place n p hn un with ⟨hn, un⟩ | ⟨-, rfl⟩
      · exact allocated.apart n p hn un
      · exact free.2
  | kill n rest pid at' found =>
    refine allocated_mono allocated (kill_sound allocated.sound pid rest) rfl ?_ ?_
      (List.erase_subset ..)
    · simp [System.kill]
    · exact fun n => (kill_unreaped s pid rest n).mp
  | spawn pid free =>
    refine ⟨allocated.sound, allocated.length, allocated.unique, ?_⟩
    rintro n p hn un (_ | ⟨_, member⟩)
    · exact free.1 (mem_ownPids.mpr ⟨n, hn, un⟩)
    · exact allocated.apart n p hn un member
  | ends pid =>
    exact allocated_mono allocated allocated.sound rfl rfl (fun _ un => un)
      (List.erase_subset ..)

/-- The children that are still to be signalled have not been waited for. -/
structure Signalled (s : System) : Prop where
  allocated : Allocated s
  pending : ∀ n ∈ pending s.launcher.client, UnreapedAt s.launcher.client n

theorem start_signalled (peer : Address) (others : List ℕ) : Signalled (start peer others) := by
  refine ⟨start_allocated peer others, ?_⟩
  simp [start, accepted, unconnected, LauncherSignals.pending]

theorem pending_move {e : ClientEvent} (sound : ClientSound c.client)
    (listed : ∀ n ∈ pending c.client, UnreapedAt c.client n)
    (met : ∀ n, e = .reap n → n ∉ pending c.client) (move : ClientMove config.entities c e c') :
    ∀ n ∈ pending c'.client, UnreapedAt c'.client n := by
  intro n member
  rw [move_unreaped sound move]
  refine Or.inl ?_
  rcases move_pending move member with member | ⟨rfl, rest, child, at', found⟩
  · exact ⟨listed n member, fun reaped => met n reaped member⟩
  · exact ⟨unreaped_registering sound at' found, by simp⟩

theorem signalled_step {e : Event} (signalled : Signalled s) (met : ReapsSignalled s e)
    (h : Step config s e s') : Signalled s' := by
  refine ⟨allocated_step signalled.allocated h, ?_⟩
  have sound := signalled.allocated.sound
  cases h with
  | server | spawn | ends => exact signalled.pending
  | client e c' others move =>
    refine pending_move sound signalled.pending ?_ move
    rintro n rfl
    exact met
  | fork pid c' free move => exact pending_move sound signalled.pending (by simp) move
  | kill n rest pid at' found =>
    intro m member
    rw [kill_unreaped]
    refine signalled.pending m ?_
    simp only [LauncherSignals.pending, at']
    exact List.mem_cons_of_mem n member

theorem signalled_own {e : Event} (signalled : Signalled s) : SignalsOwn s e := by
  cases e with
  | kill =>
    intro n rest at'
    have un := signalled.pending n (by simp [LauncherSignals.pending, at'])
    refine ⟨un, ?_⟩
    obtain ⟨child, found, -⟩ := (Option.any_eq_true _ _).mp un
    obtain ⟨lt, -⟩ := List.getElem?_eq_some_iff.mp found
    rw [← signalled.allocated.length] at lt
    have here := List.getElem?_eq_getElem lt
    exact ⟨_, here, signalled.allocated.apart n _ here un⟩
  | _ => trivial

/-- A signal for an unreaped child is the `kill` of the launcher that knows no other process. -/
theorem kill_launcher {n : ℕ} {rest : List ℕ} {pid : ℕ} (allocated : Allocated s)
    (at' : s.launcher.client.phase = .stopping (n :: rest)) (found : s.pids[n]? = some pid)
    (un : UnreapedAt s.launcher.client n) :
    LauncherInstances.step config s.launcher (.client .kill) =
      some (s.kill pid rest).launcher := by
  have children : s.launcher.client.children.modify n stopProcess =
      (s.kill pid rest).launcher.client.children := by
    apply List.ext_getElem?
    intro i
    rw [List.getElem?_modify, System.kill, List.getElem?_mapIdx]
    cases hi : s.launcher.client.children[i]? with
    | none => rfl
    | some child =>
      by_cases same : n = i
      · subst same
        have alive : unreaped child = true := by simpa [UnreapedAt, hi] using un
        simp [found, alive]
      · have other : ¬(s.pids[i]? = some pid ∧ unreaped child = true) := by
          rintro ⟨here, alive⟩
          exact same (allocated.unique n i pid found here un (by simp [UnreapedAt, hi, alive]))
        simp only [if_neg same, if_neg other, Option.map_some]
        rfl
  simp only [LauncherInstances.step, clientStep, at', children]
  rfl

/-- Among other processes the launcher behaves as it does alone. -/
theorem launcher_alone {peer : Address} {others : List ℕ} {es : List Event}
    (run : Runs (step config) ReapsSignalled (start peer others) es s) :
    ∃ es', Runs (LauncherInstances.step config) anyStep (accepted peer) es' s.launcher := by
  have inv := run.state_invariant (fun s => Signalled s ∧
      ∃ es', Runs (LauncherInstances.step config) anyStep (accepted peer) es' s.launcher)
    ⟨start_signalled peer others, [], .refl⟩ ?_
  · exact inv.2
  · rintro t e u ⟨signalled, es', alone⟩ met h
    refine ⟨signalled_step signalled met (step_step h), ?_⟩
    cases step_step h with
    | server peer handler toClient toServer sent =>
      have turn : LauncherInstances.step config t.launcher
          (.server peer handler toClient toServer sent) =
        some ⟨peer, handler, toClient, toServer, sent, t.launcher.client⟩ := rfl
      exact ⟨_, .next alone trivial turn⟩
    | client e c' other move =>
      have turn : LauncherInstances.step config t.launcher (.client e) = some c' :=
        clientMove_step move
      exact ⟨_, .next alone trivial turn⟩
    | fork pid c' free move =>
      have turn : LauncherInstances.step config t.launcher (.client (.fork true)) = some c' :=
        clientMove_step move
      exact ⟨_, .next alone trivial turn⟩
    | kill n rest pid at' found =>
      have un := signalled.pending n (by simp [LauncherSignals.pending, at'])
      exact ⟨_, .next alone trivial (kill_launcher signalled.allocated at' found un)⟩
    | spawn pid free => exact ⟨es', alone⟩
    | ends pid => exact ⟨es', alone⟩

/-- In a run in which `waitpid` returns no child that is still to be signalled, every signal
    is for a child of the launcher that has not been waited for. -/
theorem reapsSignalled_signalsOwn (config : Config) (peer : Address) (others : List ℕ)
    (es : List Event) (s : System)
    (run : Runs (step config) ReapsSignalled (start peer others) es s) :
    Runs (step config) SignalsOwn (start peer others) es s :=
  run.ensures Signalled (start_signalled peer others)
    (fun _ _ _ signalled met h => signalled_step signalled met (step_step h))
    (fun _ _ _ signalled _ _ => signalled_own signalled)

def client (e : ClientEvent) : Event := .launcher (.client e)

def bothStarted : List Event :=
  [.launcher (.server clientAddress .receiving [.ip clientAddress, .start, .restart] [] []),
    client .identify, client .receive, .fork 100, client .register, .fork 101, client .register,
    client .loop]

/-- Every process has been killed before it is waited for, and the first pid serves twice. -/
def pidFreed : List Event := bothStarted ++
  [client .receive, .kill, .kill, client (.dies 0), client (.reap 0), client .clear, .fork 100,
    client .register]

theorem pidFreed_signalsOwn : ∃ s, s.pids = [100, 101, 100] ∧
    Runs (step twoEntityConfig) SignalsOwn (start clientAddress []) pidFreed s := by
  obtain ⟨s, hs, h⟩ := exists_execute (guarded (step twoEntityConfig) ReapsSignalled)
    (start clientAddress []) pidFreed (fun s => s.pids = [100, 101, 100]) (by decide +kernel)
  exact ⟨s, of_decide_eq_true h,
    reapsSignalled_signalsOwn _ _ _ _ _ (runs_of_guarded hs)⟩

/-- One entity crashes and is waited for, another process gets its pid, and `RESTART` kills
    that process. -/
def pidReused : List Event := bothStarted ++
  [client (.exits 0), client (.reap 0), client .receive, .spawn 100]

theorem pidReused_signalsOther : ∃ s, Runs (step twoEntityConfig) anyStep
    (start clientAddress []) (pidReused ++ [.kill]) s ∧
    ¬Runs (step twoEntityConfig) SignalsOwn (start clientAddress []) (pidReused ++ [.kill]) s := by
  obtain ⟨t, ht, h⟩ := exists_execute (step twoEntityConfig) (start clientAddress []) pidReused
    (fun t => t.launcher.client.phase = .stopping [0, 1] ∧ t.pids[0]? = some 100 ∧
      100 ∈ t.others) (by decide +kernel)
  obtain ⟨at', pid, other⟩ := of_decide_eq_true h
  have last : step twoEntityConfig t .kill = some (t.kill 100 [1]) := by
    simp only [step, at', pid, Option.map_some]
  have run := runs_of_unguarded ht
  refine ⟨_, .next run trivial last, fun own => ?_⟩
  obtain ⟨t', run', met, -⟩ := Runs.snoc_iff.mp own
  obtain rfl := run'.unique run
  obtain ⟨-, pid', found, apart⟩ := met 0 [1] at'
  rw [pid] at found
  cases found
  exact apart other

end Cezfuzzer.LauncherSignals
