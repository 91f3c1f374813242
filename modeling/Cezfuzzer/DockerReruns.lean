import Cezfuzzer.DockerDeployment

set_option autoImplicit false

/-!
# Deploying again

A further deployment begins with the network, whose containers the first one has left running.
Docker removes no such network and makes no second one of its name.
-/
namespace Cezfuzzer.DockerReruns
open CommanderConfig Interactions DockerLauncher
open DockerDeployment (NetworkCommand ContainerCommand LauncherCommand subprocessRun_only
  createDockerNetwork_only buildImage_only runContainer_only runLauncher_only)

/-- What the documentation of docker says of a running container on a network. The containers
    run until they are removed, because their command is `tail -f /dev/null`. -/
structure Docker (σ : Type) where
  step : σ → (a : Action) → Reply a → σ → Prop
  attached : σ → (container network : String) → Prop
  attaches : ∀ s c n ip tag (r : Completed) s',
    step s (.docker (.run c (some n) ip tag)) (some r) s' → r.returncode = 0 → attached s' c n
  stays : ∀ s a r s' c n, a ≠ .docker (.rm c) → step s a r s' → attached s c n → attached s' c n
  keeps_network : ∀ s n (r : Completed) s' c, step s (.docker (.networkRm (some n))) (some r) s' →
    attached s c n → r.returncode ≠ 0
  unique_name : ∀ s subnet gateway n (r : Completed) s' c,
    step s (.docker (.networkCreate subnet gateway (some n))) (some r) s' →
    attached s c n → r.returncode ≠ 0

variable {σ : Type} {docker : Docker σ} {s s' s₁ s₂ : σ} {h h' : List (Event Reply)}

theorem containerOf_injective {name name' : String}
    (same : containerOf name = containerOf name') : name = name' := by
  have chars := congrArg String.toList same
  rw [containerOf, containerOf, String.toList_append, String.toList_append,
    List.append_left_inj] at chars
  exact String.toList_injective chars

/-! ## The commands of a deployment -/

theorem checkedRun_ok {step : σ → (a : Action) → Reply a → σ → Prop} {c : Command}
    (run : Execution step (checkedRun c) s h (.ok ()) s') :
    none ∉ c.argv ∧ ∃ r : Completed, r.returncode = 0 ∧ step s (.docker c) (some r) s' := by
  rcases Execution.of_bind run with ⟨e, eq, -⟩ | ⟨r, h₁, h₂, u, -, first, rest⟩
  · cases eq
  · unfold subprocessRun at first
    split at first
    · cases first
    · rename_i given
      obtain ⟨r', read, answer⟩ := first.of_request
      split at rest
      · cases rest
      · rename_i zero
        cases rest
        refine ⟨given, r, not_not.mp zero, ?_⟩
        cases r' with
        | none => cases read
        | some completed =>
          cases read
          exact answer

def Spares (c : String) (a : Action) : Prop := a ≠ .docker (.rm c)

theorem networkCommand_spares (c : String) (a : Action) (network : NetworkCommand a) :
    Spares c a := by
  rintro rfl
  exact network

theorem containerCommand_spares {c cname : String} (other : cname ≠ c) (a : Action)
    (container : ContainerCommand cname a) : Spares c a := by
  rintro rfl
  exact other container.symm

theorem launcherCommand_spares (c : String) (a : Action) (launcher : LauncherCommand a) :
    Spares c a := by
  rintro rfl
  exact launcher

/-! ## The first deployment -/

theorem attached_kept {α : Type} {t : Deploy α} {x : Except Exception α} {c n : String}
    (only : t.Only (Spares c)) (run : Execution docker.step t s h x s')
    (attached : docker.attached s c n) : docker.attached s' c n :=
  run.invariant (fun s => docker.attached s c n)
    (fun s a r s' spares answer => docker.stays s a r s' c n spares answer) only attached

/-- The container of an entity runs on the network of the configuration. -/
def OnNetwork (docker : Docker σ) (net_cfg : Network) (e : Entity) (s : σ) : Prop :=
  ∃ n, net_cfg.docker_network_name = some n ∧ docker.attached s (containerOf e.name) n

theorem run_attaches {e : Entity} {image_tag : String} {net_cfg : Network}
    (run : Execution docker.step (checkedRun (.run (containerOf e.name)
      net_cfg.docker_network_name e.ip image_tag)) s h (.ok ()) s') :
    OnNetwork docker net_cfg e s' := by
  obtain ⟨given, r, zero, answer⟩ := checkedRun_ok run
  cases named : net_cfg.docker_network_name with
  | none => simp [Command.argv, named] at given
  | some n =>
    rw [named] at answer
    exact ⟨n, named, docker.attaches s _ n _ _ r s' answer zero⟩

theorem runContainer_attaches {e : Entity} {image_tag : String} {net_cfg : Network}
    (run : Execution docker.step (runContainer e.name e image_tag net_cfg) s h (.ok ()) s') :
    OnNetwork docker net_cfg e s' := by
  rcases Execution.of_bind run with ⟨_, eq, -⟩ | ⟨existing, _, _, _, -, -, rest⟩
  · cases eq
  · split at rest
    · rcases Execution.of_bind rest with ⟨_, eq, -⟩ | ⟨_, _, _, _, -, -, last⟩
      · cases eq
      · exact run_attaches last
    · exact run_attaches rest

theorem launchAllEntities_attaches {cfg : Config}
    (distinct : (cfg.entities.map (·.name)).Nodup)
    (run : Execution docker.step (launchAllEntities cfg) s h (.ok ()) s') :
    ∀ e ∈ cfg.entities, OnNetwork docker cfg.network e s' := by
  refine Execution.forM (P := fun e => OnNetwork docker cfg.network e) ?_ ?_ run
  · intro e _ s h s' run
    rcases Execution.of_bind run with ⟨_, eq, -⟩ | ⟨_, _, _, _, -, -, last⟩
    · cases eq
    · exact runContainer_attaches last
  · refine (List.pairwise_map.mp distinct).imp fun {a b} other s h s' run => ?_
    rintro ⟨n, named, attached⟩
    refine ⟨n, named, attached_kept (Task.Only.mono (.bind (buildImage_only _ b.name) fun tag =>
      runContainer_only b tag _) (containerCommand_spares ?_)) run attached⟩
    exact fun same => other (containerOf_injective same).symm

theorem deploy_attaches {cfg : Config} {config_path template_path : String}
    (distinct : (cfg.entities.map (·.name)).Nodup)
    (run : Execution docker.step (deploy cfg config_path template_path) s h (.ok ()) s') :
    ∀ e ∈ cfg.entities, OnNetwork docker cfg.network e s' := by
  rcases Execution.of_bind run with ⟨_, eq, -⟩ | ⟨_, _, _, _, -, -, run⟩
  · cases eq
  rcases Execution.of_bind run with ⟨_, eq, -⟩ | ⟨_, _, _, _, -, -, run⟩
  · cases eq
  rcases Execution.of_bind run with ⟨_, eq, -⟩ | ⟨_, _, _, _, -, launch, run⟩
  · cases eq
  intro e member
  obtain ⟨n, named, attached⟩ := launchAllEntities_attaches distinct launch e member
  exact ⟨n, named, attached_kept ((runLauncher_only cfg config_path).mono
    (launcherCommand_spares _)) run attached⟩

/-- A deployment without a fuzzer does not return. -/
theorem deploy_inhabited {cfg : Config} {config_path template_path : String}
    (run : Execution docker.step (deploy cfg config_path template_path) s h (.ok ()) s') :
    ∃ e, e ∈ cfg.entities := by
  rcases Execution.of_bind run with ⟨_, eq, -⟩ | ⟨_, _, _, _, -, -, run⟩
  · cases eq
  rcases Execution.of_bind run with ⟨_, eq, -⟩ | ⟨_, _, _, _, -, -, run⟩
  · cases eq
  rcases Execution.of_bind run with ⟨_, eq, -⟩ | ⟨_, _, _, _, -, -, run⟩
  · cases eq
  rcases Execution.of_bind run with ⟨_, eq, -⟩ | ⟨_, _, _, _, -, located, -⟩
  · cases eq
  unfold nextFuzzerIP at located
  rw [DockerDeployment.getFuzzer_sorted] at located
  cases found : getFuzzer cfg.entities with
  | none =>
    rw [found] at located
    cases located
  | some e => exact ⟨e, List.mem_of_find?_eq_some found⟩

/-! ## Further deployments -/

theorem createDockerNetwork_refused {net_cfg : Network} {c n : String}
    (named : net_cfg.docker_network_name = some n) (attached : docker.attached s c n) :
    ¬ Execution docker.step (createDockerNetwork net_cfg) s h (.ok ()) s' := by
  intro run
  rcases Execution.of_bind run with ⟨_, eq, -⟩ | ⟨r, _, _, u, -, looked, rest⟩
  · cases eq
  have still : docker.attached u c n :=
    attached_kept (subprocessRun_only (by simp [Spares])) looked attached
  rw [named] at rest
  split at rest
  · rcases Execution.of_bind rest with ⟨_, eq, -⟩ | ⟨_, _, _, _, -, removed, -⟩
    · cases eq
    obtain ⟨-, r, zero, answer⟩ := checkedRun_ok removed
    exact docker.keeps_network _ n r _ c answer still zero
  · obtain ⟨-, r, zero, answer⟩ := checkedRun_ok rest
    exact docker.unique_name _ _ _ n r _ c answer still zero

/-- A deployment that ended at the network. -/
def Refused (h : List (Event Reply)) (x : Except Exception Unit) : Prop :=
  (∃ e, x = .error e) ∧ ∀ event ∈ h, NetworkCommand event.1

/-- No deployment gets past a network that somebody uses, and it disturbs nobody. -/
theorem deploy_refused {cfg : Config} {config_path template_path c n : String}
    {x : Except Exception Unit} (named : cfg.network.docker_network_name = some n)
    (attached : docker.attached s c n)
    (run : Execution docker.step (deploy cfg config_path template_path) s h x s') :
    Refused h x ∧ ∀ c', docker.attached s c' n → docker.attached s' c' n := by
  rcases Execution.of_bind run with ⟨f, rfl, refused⟩ | ⟨_, _, _, _, -, made, -⟩
  · have network := createDockerNetwork_only cfg.network
    exact ⟨⟨⟨f, rfl⟩, refused.only network⟩, fun c' attached =>
      attached_kept (network.mono (networkCommand_spares _)) refused attached⟩
  · exact absurd made (createDockerNetwork_refused named attached)

/-- Deployments of any configurations with one name of the network, one after another, each with
    its commands and its end. -/
inductive Deployments (docker : Docker σ) (name : Option String) :
    σ → List (List (Event Reply) × Except Exception Unit) → σ → Prop where
  | none (s : σ) : Deployments docker name s [] s
  | more {cfg : Config} {config_path template_path : String} {s s' s'' : σ}
    {h : List (Event Reply)} {x : Except Exception Unit}
    {rounds : List (List (Event Reply) × Except Exception Unit)}
    (same : cfg.network.docker_network_name = name)
    (round : Execution docker.step (deploy cfg config_path template_path) s h x s')
    (rest : Deployments docker name s' rounds s'') :
    Deployments docker name s ((h, x) :: rounds) s''

theorem deployments_refused {name : Option String} {c n : String}
    {rounds : List (List (Event Reply) × Except Exception Unit)} (named : name = some n)
    (further : Deployments docker name s rounds s') (attached : docker.attached s c n) :
    (∀ round ∈ rounds, Refused round.1 round.2) ∧
      ∀ c', docker.attached s c' n → docker.attached s' c' n := by
  induction further with
  | none s => exact ⟨fun _ member => (by cases member), fun _ => id⟩
  | more same round rest ih =>
    obtain ⟨refused, kept⟩ := deploy_refused (same.trans named) attached round
    obtain ⟨others, kept'⟩ := ih (kept _ attached)
    exact ⟨List.forall_mem_cons.mpr ⟨refused, others⟩, fun c' member => kept' c' (kept c' member)⟩

/-- Once a deployment has returned, no later one on the same network does. Each stops at the
    network: nothing is written, built or started, and the containers of the first one keep
    running. -/
theorem further_refused {cfg : Config} {config_path template_path : String}
    {rounds : List (List (Event Reply) × Except Exception Unit)}
    (distinct : (cfg.entities.map (·.name)).Nodup)
    (first : Execution docker.step (deploy cfg config_path template_path) s h (.ok ()) s₁)
    (further : Deployments docker cfg.network.docker_network_name s₁ rounds s₂) :
    (∀ round ∈ rounds, (∃ e, round.2 = .error e) ∧
        ∀ event ∈ round.1, NetworkCommand event.1) ∧
      ∀ e ∈ cfg.entities, OnNetwork docker cfg.network e s₂ := by
  have running := deploy_attaches distinct first
  obtain ⟨e, member⟩ := deploy_inhabited first
  obtain ⟨n, named, attached⟩ := running e member
  obtain ⟨refused, kept⟩ := deployments_refused named further attached
  refine ⟨refused, fun e member => ?_⟩
  obtain ⟨n', named', attached'⟩ := running e member
  obtain rfl : n = n' := Option.some.inj (named.symm.trans named')
  exact ⟨n, named, kept _ attached'⟩

/-! ## A daemon -/

structure Daemon where
  networks : List String
  /-- Each container with its network. -/
  containers : List (String × String)
  deriving DecidableEq, Repr

def succeeded (stdout : String) : Option Completed := some ⟨0, stdout⟩

def refused : Option Completed := some ⟨1, ""⟩

def Daemon.command (d : Daemon) : Command → Option Completed × Daemon
  | .networkLs (some n) => (succeeded (if n ∈ d.networks then n else ""), d)
  | .networkRm (some n) =>
    if n ∈ d.containers.map (·.2) then (refused, d)
    else (succeeded "", { d with networks := d.networks.filter (· ≠ n) })
  | .networkCreate _ _ (some n) =>
    if n ∈ d.networks then (refused, d)
    else (succeeded "", { d with networks := n :: d.networks })
  | .ps c => (succeeded (if c ∈ d.containers.map (·.1) then c else ""), d)
  | .rm c => (succeeded "", { d with containers := d.containers.filter (·.1 ≠ c) })
  | .run c (some n) _ _ =>
    if n ∈ d.networks ∧ c ∉ d.containers.map (·.1) then
      (succeeded "", { d with containers := (c, n) :: d.containers })
    else (refused, d)
  | .networkLs none | .build _ _ | .exec _ _ => (succeeded "", d)
  | .networkRm none | .networkCreate _ _ none | .run _ none _ _ => (refused, d)

def Daemon.act (d : Daemon) (a : Action) : Reply a × Daemon :=
  match a with
  | .docker c => d.command c
  | .readTemplate _ => (.text "", d)
  | .makedirs | .openScript _ | .writeScript _ _ | .writeDockerfile _ _ => (true, d)

def Daemon.attached (d : Daemon) (container network : String) : Prop :=
  network ∈ d.networks ∧ (container, network) ∈ d.containers

theorem command_stays {d : Daemon} {c n : String} (attached : d.attached c n) (a : Command)
    (spared : a ≠ .rm c) : (d.command a).2.attached c n := by
  obtain ⟨network, container⟩ := attached
  cases a with
  | networkLs name => cases name <;> exact ⟨network, container⟩
  | networkRm name =>
    cases name with
    | none => exact ⟨network, container⟩
    | some m =>
      simp only [Daemon.command]
      split
      · exact ⟨network, container⟩
      · rename_i empty
        refine ⟨List.mem_filter.mpr ⟨network, ?_⟩, container⟩
        have ne : n ≠ m := by
          rintro rfl
          exact empty (List.mem_map.mpr ⟨(c, n), container, rfl⟩)
        simpa using ne
  | networkCreate subnet gateway name =>
    cases name with
    | none => exact ⟨network, container⟩
    | some m =>
      simp only [Daemon.command]
      split
      · exact ⟨network, container⟩
      · exact ⟨List.mem_cons_of_mem m network, container⟩
  | build df tag => exact ⟨network, container⟩
  | ps c' => exact ⟨network, container⟩
  | rm c' =>
    have ne : c ≠ c' := by
      rintro rfl
      exact spared rfl
    exact ⟨network, List.mem_filter.mpr ⟨container, by simpa using ne⟩⟩
  | run c' name ip tag =>
    cases name with
    | none => exact ⟨network, container⟩
    | some m =>
      simp only [Daemon.command]
      split
      · exact ⟨network, List.mem_cons_of_mem _ container⟩
      · exact ⟨network, container⟩
  | exec c' script => exact ⟨network, container⟩

def daemon : Docker Daemon where
  step d a r d' := d.act a = (r, d')
  attached := Daemon.attached
  attaches := by
    intro d c n ip tag r d' answer zero
    have answer : d.command (.run c (some n) ip tag) = (some r, d') := answer
    simp only [Daemon.command] at answer
    split at answer
    · rename_i fresh
      cases answer
      exact ⟨fresh.1, List.mem_cons_self⟩
    · cases answer
      exact absurd zero (by decide)
  stays := by
    intro d a r d' c n spared answer attached
    have last : d' = (d.act a).2 := (congrArg Prod.snd answer).symm
    subst last
    cases a with
    | docker command =>
      exact command_stays attached command fun same => spared (congrArg Action.docker same)
    | makedirs => exact attached
    | readTemplate path => exact attached
    | openScript name => exact attached
    | writeScript name lines => exact attached
    | writeDockerfile name content => exact attached
  keeps_network := by
    intro d n r d' c answer attached
    have answer : d.command (.networkRm (some n)) = (some r, d') := answer
    simp only [Daemon.command] at answer
    rw [if_pos (List.mem_map.mpr ⟨(c, n), attached.2, rfl⟩)] at answer
    cases answer
    decide
  unique_name := by
    intro d subnet gateway n r d' c answer attached
    have answer : d.command (.networkCreate subnet gateway (some n)) = (some r, d') := answer
    simp only [Daemon.command] at answer
    rw [if_pos attached.1] at answer
    cases answer
    decide

def oneEntity : Config :=
  ⟨⟨some "net", some "10.0.0.0/24", some "10.0.0.1"⟩,
    [{ entity "fuzzer" "fuzzer" "10.0.0.2" 5001 [] with protocol := none }]⟩

/-- The second time with a client, the third time with the first configuration again. -/
def withClient : Config :=
  { oneEntity with
    entities := { entity "sender" "client" "10.0.0.3" 5000 [] with protocol := none } ::
      oneEntity.entities }

def deployInto (cfg : Config) (d : Daemon) : List (Event Reply) × Except Exception Unit × Daemon :=
  (deploy cfg "config.yaml" "Dockerfile.template").run Daemon.act d

theorem oneEntity_refused :
    let first := deployInto oneEntity ⟨[], []⟩
    let second := deployInto withClient first.2.2
    let third := deployInto oneEntity second.2.2
    (∀ round ∈ [(second.1, second.2.1), (third.1, third.2.1)], (∃ e, round.2 = .error e) ∧
        ∀ event ∈ round.1, NetworkCommand event.1) ∧
      ∀ e ∈ oneEntity.entities, OnNetwork daemon oneEntity.network e third.2.2 := by
  have run : ∀ cfg d, Execution daemon.step (deploy cfg "config.yaml" "Dockerfile.template") d
      (deployInto cfg d).1 (deployInto cfg d).2.1 (deployInto cfg d).2.2 :=
    fun cfg => Task.run_execution (fun _ _ => rfl) _
  exact further_refused (by decide) (run oneEntity ⟨[], []⟩)
    (.more (by rfl) (run withClient _) (.more (by rfl) (run oneEntity _) (.none _)))

end Cezfuzzer.DockerReruns
