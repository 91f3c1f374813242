import Mathlib.Data.List.Nodup
import Cezfuzzer.LauncherInvariants

set_option autoImplicit false

/-!
# Live instances of an entity

One client launcher among any frames at all. `stop_processes` does not wait for the processes
that it kills, and `START` stops none, so that `start_entities` may fork an entity whose last
process is still running.
-/
namespace Cezfuzzer.LauncherInstances
open StepRuns LengthPrefix LauncherMessages LauncherClient
open LauncherMachine (accepted clientAddress twoEntities)
open LauncherInvariants (launches remaining launches_setChild launches_stopProcess)

/-- The entities of a configuration file. Their names are the keys of a mapping. -/
structure Config where
  entities : List EntityConfig
  distinct : (entities.map EntityConfig.name).Nodup

theorem Config.nodup (config : Config) : config.entities.Nodup :=
  config.distinct.of_map EntityConfig.name

/-- `server` is anything that the threads of the server do to the connection: they send and
    take frames, in any order and number, and leave the client alone. -/
inductive Event where
  | server (peer : Address) (handler : Handler) (toClient toServer sent : List Frame)
  | client (e : ClientEvent)
  deriving DecidableEq

def step (config : Config) (c : Connection) : Event → Option Connection
  | .server peer handler toClient toServer sent =>
    some ⟨peer, handler, toClient, toServer, sent, c.client⟩
  | .client e => clientStep config.entities c e

/-- No two living processes were launched for the same entity. -/
def SingleInstances (c : Client) : Prop :=
  ∀ (i j : ℕ) (x y : Child), c.children[i]? = some x → c.children[j]? = some y →
    x.alive = true → y.alive = true → x.entity = y.entity → i = j

/-- What `start_entities` launches next. -/
def nextEntity : Phase → Option EntityConfig
  | .launching (entity :: _) => some entity
  | _ => none

/-- When `start_entities` forks an entity, the processes that its earlier calls have forked
    for it have terminated. -/
def PredecessorsGone (c : Connection) : Event → Prop
  | .client (.fork true) => ∀ entity ∈ nextEntity c.client.phase, ∀ child ∈ c.client.children,
      child.entity = entity → child.index < c.client.index → child.alive = false
  | _ => True

instance (c : Connection) (e : Event) : Decidable (PredecessorsGone c e) := by
  unfold PredecessorsGone
  split <;> infer_instance

/-- A call of `start_entities` launches each entity once. -/
structure Rounds (c : Client) : Prop where
  entities : c.entities.Nodup
  bounded : ∀ x ∈ launches c, x.2 ≤ c.index
  todo : (remaining c.phase).Nodup
  pending : ∀ x ∈ launches c, x.2 = c.index → x.1 ∉ remaining c.phase

theorem accepted_rounds (peer : Address) : Rounds (accepted peer).client := by
  constructor <;> simp [accepted, unconnected, launches, remaining]

/-- What a step adds to the launches. -/
def newLaunch (c : Client) : ClientEvent → List (EntityConfig × ℕ)
  | .fork true => (nextEntity c.phase).toList.map (fun entity => (entity, c.index))
  | _ => []

theorem launches_move {config : List EntityConfig} {c c' : Connection} {e : ClientEvent}
    (move : ClientMove config c e c') :
    launches c'.client = launches c.client ++ newLaunch c.client e := by
  cases move with
  | fork entity rest at' => simp [launches, newLaunch, nextEntity, at']
  | receive f rest at' next =>
    simp only [multiplex, newLaunch, List.append_nil]
    split <;> rfl
  | kill pid rest at' =>
    simp only [newLaunch, List.append_nil]
    exact launches_stopProcess c.client pid
  | register pid rest child at' found | exits pid child found | dies pid child found
  | reap pid child found | report pid child found =>
    simp only [newLaunch, List.append_nil]
    exact launches_setChild found rfl rfl
  | identify f rest at' next | clear at' | forkFails entity rest at' | loop at' =>
    exact (List.append_nil _).symm

theorem rounds_of_same {c c' : Client} (rounds : Rounds c) (launched : launches c' = launches c)
    (entities : c'.entities = c.entities) (index : c'.index = c.index)
    (todo : remaining c'.phase = remaining c.phase) : Rounds c' := by
  obtain ⟨h₁, h₂, h₃, h₄⟩ := rounds
  exact ⟨entities ▸ h₁, launched ▸ index ▸ h₂, todo ▸ h₃, launched ▸ index ▸ todo ▸ h₄⟩

theorem startEntities_rounds {c : Client} (rounds : Rounds c) : Rounds (startEntities c) := by
  refine ⟨rounds.entities, ?_, rounds.entities, ?_⟩
  · intro x member
    exact Nat.le_succ_of_le (rounds.bounded x member)
  · intro x member current
    have := rounds.bounded x member
    simp only [startEntities] at current
    omega

theorem rounds_move {config : Config} {c c' : Connection} {e : ClientEvent}
    (rounds : Rounds c.client) (move : ClientMove config.entities c e c') : Rounds c'.client := by
  have added := launches_move move
  cases move with
  | identify f rest at' next =>
    exact ⟨config.nodup.filter _, rounds.bounded, List.nodup_nil, by simp [remaining]⟩
  | receive f rest at' next =>
    simp only [multiplex]
    split
    · exact startEntities_rounds rounds
    · exact rounds_of_same rounds rfl rfl rfl (by simp [remaining, at'])
    · exact rounds
  | clear at' => exact startEntities_rounds (rounds_of_same rounds rfl rfl rfl rfl)
  | fork entity rest at' =>
    obtain ⟨entities, bounded, todo, pending⟩ := rounds
    simp only [at', remaining, List.nodup_cons, List.mem_cons, not_or] at todo pending
    simp only [newLaunch, nextEntity, at', Option.toList_some, List.map_singleton] at added
    refine ⟨entities, fun x member => ?_, todo.2, fun x member current => ?_⟩
    · rw [added, List.mem_append, List.mem_singleton] at member
      rcases member with member | rfl
      · exact bounded x member
      · exact le_refl _
    · rw [added, List.mem_append, List.mem_singleton] at member
      rcases member with member | rfl
      · exact (pending x member current).2
      · exact todo.1
  | forkFails entity rest at' =>
    obtain ⟨entities, bounded, todo, pending⟩ := rounds
    simp only [at', remaining, List.nodup_cons, List.mem_cons, not_or] at todo pending
    exact ⟨entities, bounded, todo.2, fun x member current => (pending x member current).2⟩
  | kill pid rest at' | register pid rest child at' found | loop at' =>
    exact rounds_of_same rounds (added.trans (List.append_nil _)) rfl rfl
      (by simp [remaining, at'])
  | exits pid child found | dies pid child found | reap pid child found
  | report pid child found =>
    exact rounds_of_same rounds (added.trans (List.append_nil _)) rfl rfl rfl

variable {config : Config} {c c' : Connection}

theorem single_of_same {c c' : Client} (single : SingleInstances c)
    (old : ∀ (i : ℕ) (y : Child), c'.children[i]? = some y → y.alive = true →
      ∃ x, c.children[i]? = some x ∧ x.alive = true ∧ x.entity = y.entity) :
    SingleInstances c' := by
  intro i j x y hx hy ax ay same
  obtain ⟨x₀, hx₀, ax₀, ex⟩ := old i x hx ax
  obtain ⟨y₀, hy₀, ay₀, ey⟩ := old j y hy ay
  exact single i j x₀ y₀ hx₀ hy₀ ax₀ ay₀ (ex.trans (same.trans ey.symm))

theorem single_setChild {c : Client} {pid : ℕ} {child child' : Child} (single : SingleInstances c)
    (found : c.children[pid]? = some child) (alive : child'.alive = true → child.alive = true)
    (entity : child'.entity = child.entity) : SingleInstances (c.setChild pid child') := by
  refine single_of_same single fun i y hy ay => ?_
  rcases getElem_set hy with ⟨rfl, rfl⟩ | ⟨-, hy⟩
  · exact ⟨child, found, alive ay, entity.symm⟩
  · exact ⟨y, hy, ay, rfl⟩

/-- A new process has no living twin: of an earlier call by the condition, and of this call
    since each entity is launched once. -/
theorem single_fork {entity : EntityConfig} {rest : List EntityConfig} (rounds : Rounds c.client)
    (single : SingleInstances c.client) (at' : c.client.phase = .launching (entity :: rest))
    (met : PredecessorsGone c (.client (.fork true))) :
    SingleInstances { c.client with
      phase := .registering c.client.children.length rest
      children := c.client.children ++ [⟨entity, c.client.index, true, false, .uncreated⟩] } := by
  have gone : ∀ child ∈ c.client.children, child.entity = entity → child.alive = false := by
    intro child member same
    have launched : (child.entity, child.index) ∈ launches c.client :=
      List.mem_map_of_mem member
    rcases Nat.lt_or_eq_of_le (rounds.bounded _ launched) with earlier | current
    · exact met entity (by simp [nextEntity, at']) child member same earlier
    · have := rounds.pending _ launched current
      simp [at', remaining, same] at this
  have place : ∀ (i : ℕ) (x : Child), (c.client.children ++
      [⟨entity, c.client.index, true, false, .uncreated⟩])[i]? = some x →
        c.client.children[i]? = some x ∨ i = c.client.children.length ∧ x.entity = entity := by
    intro i x hx
    rw [List.getElem?_append] at hx
    split at hx
    · exact Or.inl hx
    · rw [List.getElem?_singleton] at hx
      split at hx
      · cases hx
        exact Or.inr ⟨by omega, rfl⟩
      · cases hx
  intro i j x y hx hy ax ay same
  rcases place i x hx with hx | ⟨hi, ex⟩ <;> rcases place j y hy with hy | ⟨hj, ey⟩
  · exact single i j x y hx hy ax ay same
  · rw [gone x (List.mem_of_getElem? hx) (same.trans ey)] at ax
    cases ax
  · rw [gone y (List.mem_of_getElem? hy) (same.symm.trans ex)] at ay
    cases ay
  · exact hi.trans hj.symm

theorem single_move {e : ClientEvent} (rounds : Rounds c.client)
    (single : SingleInstances c.client) (met : PredecessorsGone c (.client e))
    (move : ClientMove config.entities c e c') : SingleInstances c'.client := by
  cases move with
  | fork entity rest at' => exact single_fork rounds single at' met
  | receive f rest at' next =>
    simp only [multiplex]
    split <;> exact single
  | kill pid rest at' =>
    refine single_of_same single fun i y hy ay => ?_
    rw [List.getElem?_modify] at hy
    obtain ⟨x, hx, rfl⟩ := Option.map_eq_some_iff.mp hy
    refine ⟨x, hx, ?_, ?_⟩
    · by_cases same : pid = i <;> simpa [same, stopProcess] using ay
    · by_cases same : pid = i <;> simp [same, stopProcess]
  | register pid rest child at' found => exact single_setChild single found (fun h => h) rfl
  | exits pid child found | dies pid child found =>
    exact single_setChild single found (fun alive => by cases alive) rfl
  | reap pid child found | report pid child found =>
    exact single_setChild single found (fun h => h) rfl
  | identify f rest at' next | clear at' | forkFails entity rest at' | loop at' => exact single

theorem step_rounds {e : Event} (rounds : Rounds c.client) (h : step config c e = some c') :
    Rounds c'.client := by
  cases e with
  | server =>
    cases h
    exact rounds
  | client e => exact rounds_move rounds (clientStep_move h)

theorem step_single {e : Event} (rounds : Rounds c.client) (single : SingleInstances c.client)
    (met : PredecessorsGone c e) (h : step config c e = some c') : SingleInstances c'.client := by
  cases e with
  | server =>
    cases h
    exact single
  | client e => exact single_move rounds single met (clientStep_move h)

theorem run_single {peer : Address} {es : List Event}
    (run : Runs (step config) PredecessorsGone (accepted peer) es c) :
    SingleInstances c.client := by
  have inv := run.state_invariant (fun c => Rounds c.client ∧ SingleInstances c.client)
    ⟨accepted_rounds peer, fun _ _ _ _ hx => by simp [accepted, unconnected] at hx⟩
    (fun _ _ _ inv met h => ⟨step_rounds inv.1 h, step_single inv.1 inv.2 met h⟩)
  exact inv.2

/-- A fork that does not wait makes a second living instance. -/
theorem single_met {e : Event} (h : step config c e = some c')
    (single : SingleInstances c'.client) : PredecessorsGone c e := by
  cases e with
  | server => trivial
  | client e =>
    have move : ClientMove config.entities c e c' := clientStep_move h
    cases move with
    | fork entity rest at' =>
      intro entity' next child member same earlier
      obtain rfl : entity = entity' := by simpa [nextEntity, at'] using next
      by_contra alive
      obtain ⟨i, lt, found⟩ := List.getElem_of_mem member
      have old : (c.client.children ++
          [⟨entity, c.client.index, true, false, .uncreated⟩])[i]? = some child := by
        rw [List.getElem?_append_left lt, List.getElem?_eq_getElem lt, found]
      have := single i c.client.children.length child _ old List.getElem?_concat_length
        (by simpa using alive) rfl same
      omega
    | _ => trivial

/-- At most one instance of each entity is alive, all along a run, exactly when every fork
    finds the entity's earlier processes terminated. -/
theorem singleInstances_iff (config : Config) (peer : Address) (es : List Event) (c : Connection)
    (run : Runs (step config) anyStep (accepted peer) es c) :
    (∀ es₁ es₂ c₁, es = es₁ ++ es₂ → Runs (step config) anyStep (accepted peer) es₁ c₁ →
      SingleInstances c₁.client) ↔
      Runs (step config) PredecessorsGone (accepted peer) es c :=
  run.always_iff (fun _ _ gone => run_single gone)
    (fun _ _ _ _ _ h single => single_met h single)

/-- What the two launchers do to one connection is a run of its client launcher. -/
theorem launcher_run (config : Config) {es : List LauncherMachine.Event} {s : LauncherMachine.State}
    (run : Runs (LauncherMachine.step config.entities) anyStep LauncherMachine.initial es s)
    (fd : ℕ) (c : Connection) (found : s.connections[fd]? = some c) :
    ∃ peer es', Runs (step config) anyStep (accepted peer) es' c := by
  induction run generalizing c with
  | refl => simp [LauncherMachine.initial] at found
  | @next es t u e _ _ h ih =>
    rcases LauncherInvariants.move_client (LauncherMachine.step_move h) found with
      ⟨peer, rfl⟩ | ⟨c₀, found₀, same | ⟨e', move⟩⟩
    · exact ⟨peer, [], .refl⟩
    · obtain ⟨peer, es', run⟩ := ih c₀ found₀
      have turn : step config c₀
          (.server c.peer c.handler c.toClient c.toServer c.sent) = some c := by
        simp only [step, ← same]
      exact ⟨peer, _, .next run trivial turn⟩
    · obtain ⟨peer, es', run⟩ := ih c₀ found₀
      have turn : step config c₀ (.client e') = some c := clientMove_step move
      exact ⟨peer, _, .next run trivial turn⟩

def twoEntityConfig : Config := ⟨twoEntities, by decide⟩

/-- The client takes a `RESTART`, kills its two processes and launches the entities. -/
def restarts : List LauncherMachine.Event :=
  List.map (.client 0) [.receive, .kill, .kill, .clear, .fork true, .register, .fork true,
    .register, .loop]

/-- One entity crashes; the other is killed by the restart, and terminates too late. -/
def killedTooLate : List LauncherMachine.Event :=
  [.main (.boot true)] ++ LauncherMachine.accepts clientAddress ++ LauncherMachine.greets 0 ++
    LauncherMachine.starts 0 2 ++ [.client 0 (.exits 0)] ++ LauncherMachine.reports 0 0 ++
    LauncherMachine.answers 1 ++ restarts

theorem killedTooLate_twoInstances : ∃ s c,
    Runs (LauncherMachine.step twoEntities) anyStep LauncherMachine.initial killedTooLate s ∧
      s.connections[0]? = some c ∧ ¬ SingleInstances c.client := by
  obtain ⟨s, hs, h⟩ := exists_execute (LauncherMachine.step twoEntities) LauncherMachine.initial
    killedTooLate (fun s => s.connections[0]?.any (fun c =>
      c.client.children[1]?.any (fun x => c.client.children[3]?.any (fun y =>
        x.alive ∧ y.alive ∧ x.entity = y.entity)))) (by decide +kernel)
  obtain ⟨c, found, h⟩ := (Option.any_eq_true _ _).mp h
  obtain ⟨x, hx, h⟩ := (Option.any_eq_true _ _).mp h
  obtain ⟨y, hy, h⟩ := (Option.any_eq_true _ _).mp h
  obtain ⟨ax, ay, same⟩ := of_decide_eq_true h
  refine ⟨s, c, runs_of_unguarded hs, found, fun single => ?_⟩
  have := single 1 3 x y hx hy ax ay same
  omega

/-- The same frames, with every process gone before its entity is forked again. -/
def killedInTime : List Event :=
  .server clientAddress .receiving [.ip clientAddress, .start, .restart] [] [] ::
    List.map Event.client [.identify, .receive, .fork true, .register, .fork true, .register,
      .loop, .exits 0, .receive, .kill, .kill, .clear, .fork true, .register, .dies 1,
      .fork true, .register, .loop]

theorem killedInTime_singleInstances : ∃ c : Connection, c.client.children.length = 4 ∧
    ∀ es₁ es₂ c₁, killedInTime = es₁ ++ es₂ →
      Runs (step twoEntityConfig) anyStep (accepted clientAddress) es₁ c₁ →
        SingleInstances c₁.client := by
  obtain ⟨c, hc, h⟩ := exists_execute (guarded (step twoEntityConfig) PredecessorsGone)
    (accepted clientAddress) killedInTime (fun c => c.client.children.length = 4)
    (by decide +kernel)
  have run := runs_of_guarded hc
  exact ⟨c, of_decide_eq_true h,
    (singleInstances_iff twoEntityConfig clientAddress killedInTime c run.forget).mpr run⟩

end Cezfuzzer.LauncherInstances
