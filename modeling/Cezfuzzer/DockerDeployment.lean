import Cezfuzzer.DockerLauncher

set_option autoImplicit false

/-!
# What a deployment does, whatever docker answers

The work of a deployment is one list, which depends on the configuration alone. What is done is
always a beginning of that list, and the first command that fails is the last one that is given.
-/
namespace Cezfuzzer.DockerDeployment
open CommanderConfig DockerBuild Interactions DockerLauncher

inductive Work where
  | docker (command : Command)
  | script (entity_name : String) (lines : List Line)
  | dockerfile (entity_name : String)
  deriving DecidableEq, Repr

/-- Looking at what is there, and removing it, is not in the plan. -/
def work : Action → Option Work
  | .docker (.networkLs _) | .docker (.networkRm _) | .docker (.ps _) | .docker (.rm _) => none
  | .docker command => some (.docker command)
  | .writeScript entity_name lines => some (.script entity_name lines)
  | .writeDockerfile entity_name _ => some (.dockerfile entity_name)
  | .makedirs | .readTemplate _ | .openScript _ => none

/-- Of the two commands that only look, no result is a failure. -/
def verdict : (a : Action) → Reply a → Option Exception
  | .docker _, none => some .osError
  | .docker (.networkLs _), some _ | .docker (.ps _), some _ => none
  | .docker _, some completed =>
    if completed.returncode ≠ 0 then some (.failure .exit) else none
  | .readTemplate _, .missing => some (.failure .exit)
  | .readTemplate _, .unreadable => some .osError
  | .readTemplate _, .text _ => none
  | .makedirs, true | .openScript _, true | .writeScript _ _, true | .writeDockerfile _ _, true =>
    none
  | .makedirs, false | .openScript _, false | .writeScript _ _, false
  | .writeDockerfile _ _, false => some .osError

def terms : Terms Action Reply Work Exception := ⟨work, verdict⟩

structure Complete (cfg : Config) : Prop where
  name : cfg.network.docker_network_name ≠ none
  subnet : cfg.network.subnet ≠ none
  gateway : cfg.network.gateway ≠ none
  located : ∀ e ∈ cfg.entities, e.ip ≠ none
  scripts : ∀ e ∈ cfg.entities, ∃ lines, DockerBuild.generateDockerfile e cfg.entities = .ok lines
  fuzzer : ∃ e ∈ cfg.entities, e.isFuzzer

def networkWork (net_cfg : Network) : List Work :=
  [.docker (.networkCreate net_cfg.subnet net_cfg.gateway net_cfg.docker_network_name)]

def fileWork (all_entities : List Entity) (e : Entity) : List Work :=
  match DockerBuild.generateDockerfile e all_entities with
  | .error _ => []
  | .ok lines => [.script e.name lines, .dockerfile e.name]

def containerWork (net_cfg : Network) (e : Entity) : List Work :=
  [.docker (.build (dockerfileOf e.name) (tagOf e.name)),
    .docker (.run (containerOf e.name) net_cfg.docker_network_name e.ip (tagOf e.name))]

/-- The fuzzer's launcher comes first. -/
def launchOrder (entities : List Entity) : List Entity :=
  entities.filter (fun e => e.isFuzzer) ++ entities.filter (fun e => ¬ e.isFuzzer)

def preparation (cfg : Config) : List Work :=
  networkWork cfg.network ++ cfg.entities.flatMap (fileWork cfg.entities) ++
    cfg.entities.flatMap (containerWork cfg.network)

/-- Nobody is launched without the address of the fuzzer. -/
def launches (config_path : String) (entities : List Entity) : List Work :=
  match (getFuzzer entities).bind (·.ip) with
  | none => []
  | some fuzzer_ip =>
    (launchOrder entities).map (fun e => .docker (launcherCmd fuzzer_ip config_path e))

def plan (cfg : Config) (config_path : String) : List Work :=
  preparation cfg ++ launches config_path cfg.entities

/-! ## The order of the launchers -/

theorem orderedInsert_between {α : Type} {r : α → α → Prop} [DecidableRel r] {a : α}
    {front back : List α} (before : ∀ b ∈ front, ¬ r a b) (behind : ∀ b ∈ back, r a b) :
    (front ++ back).orderedInsert r a = front ++ a :: back := by
  induction front with
  | nil =>
    cases back with
    | nil => rfl
    | cons b back => exact List.orderedInsert_cons_of_le r back (behind b List.mem_cons_self)
  | cons b front ih =>
    rw [List.forall_mem_cons] at before
    rw [List.cons_append, List.orderedInsert_of_not_le r _ before.1, ih before.2]
    rfl

/-- A stable sort by a key of two values. -/
theorem insertionSort_key {α : Type} (key : α → Bool) (l : List α) :
    l.insertionSort (fun a b => key a ≤ key b) =
      l.filter (fun a => !key a) ++ l.filter key := by
  induction l with
  | nil => rfl
  | cons a l ih =>
    cases smaller : key a with
    | false =>
      rw [List.insertionSort_cons_of_forall_rel _ (fun b _ => by simp [smaller]), ih,
        List.filter_cons_of_pos (by simp [smaller]), List.filter_cons_of_neg (by simp [smaller])]
      rfl
    | true =>
      rw [List.insertionSort_cons, ih, List.filter_cons_of_neg (by simp [smaller]),
        List.filter_cons_of_pos (by simp [smaller])]
      refine orderedInsert_between ?_ ?_
      · intro b member
        have small : key b = false := by simpa using (List.mem_filter.mp member).2
        rw [smaller, small]
        decide
      · intro b member
        simp [(List.mem_filter.mp member).2]

theorem sorted_eq (entities : List Entity) : sortedEntities entities = launchOrder entities := by
  have small : (fun e : Entity => !launchKey e) = fun e => decide e.isFuzzer := by
    funext e
    simp [launchKey]
  unfold sortedEntities launchOrder
  rw [insertionSort_key, small]
  rfl

theorem getFuzzer_sorted (entities : List Entity) :
    getFuzzer (sortedEntities entities) = getFuzzer entities := by
  rw [sorted_eq, launchOrder, getFuzzer, List.find?_append, List.find?_filter, List.find?_filter]
  have nobody : entities.find? (fun _ => false) = none := by simp
  simp [getFuzzer, nobody]

/-! ## The rules for the calls -/

section
variable {α : Type} {own : Exception → Prop} {c : Command} {rest : List Work}

/-- A command that only looks. -/
theorem looks (given : none ∉ c.argv) (free : work (.docker c) = none)
    (fine : ∀ completed, verdict (.docker c) (some completed) = none) {f : Completed → Deploy α}
    (goes : ∀ completed, terms.CarriesOut own (f completed) rest) :
    terms.CarriesOut own (subprocessRun c >>= f) rest := by
  have nothing : rest = ((terms.work (.docker c)).toList ++ []) ++ rest := by
    rw [show terms.work (.docker c) = none from free]
    rfl
  rw [nothing]
  refine .bind ?_ goes
  rw [List.append_nil, subprocessRun, if_neg given]
  refine .request (m := terms) ?_ ?_
  · rintro (_ | completed) passed
    · cases passed
    · exact ⟨completed, rfl⟩
  · rintro (_ | completed) e failed
    · cases failed
      rfl
    · cases (fine completed).symm.trans failed

/-- What `verdict` says of the commands whose result is looked at. -/
def Checked (c : Command) : Prop := ∀ completed, verdict (.docker c) (some completed) =
  if completed.returncode ≠ 0 then some (.failure .exit) else none

theorem checked (check : Checked c) (missing : none ∈ c.argv → own .typeError) :
    terms.CarriesOut own (checkedRun c) (work (.docker c)).toList := by
  unfold checkedRun subprocessRun
  by_cases given : none ∈ c.argv
  · rw [if_pos given]
    exact .fail (missing given) _
  · rw [if_neg given, ← List.append_nil (work (.docker c)).toList]
    refine .ask ?_ ?_
    · rintro (_ | completed) passed
      · cases passed
      · have zero : ¬ completed.returncode ≠ 0 := by
          intro nonzero
          cases ((check completed).trans (if_pos nonzero)).symm.trans passed
        change terms.CarriesOut own (if completed.returncode ≠ 0 then sysExit else pure ()) []
        rw [if_neg zero]
        exact .done ()
    · rintro (_ | completed) e failed
      · cases failed
        rfl
      · have failed := (check completed).symm.trans failed
        change (if completed.returncode ≠ 0 then sysExit else pure ()) = _
        split at failed
        · rename_i nonzero
          cases failed
          rw [if_pos nonzero]
          rfl
        · cases failed

theorem written_agrees {v : Bool → Option Exception} (done : v true = none)
    (failed : v false = some .osError) : (∀ r, v r = none → ∃ x, written r = .ok x) ∧
      ∀ r e, v r = some e → written r = .error e := by
  constructor
  · rintro (_ | _) h
    · cases failed.symm.trans h
    · exact ⟨(), rfl⟩
  · rintro (_ | _) e h
    · cases failed.symm.trans h
      rfl
    · cases done.symm.trans h

theorem makedirs_carries : terms.CarriesOut own makedirs [] :=
  have agrees := written_agrees (v := verdict .makedirs) rfl rfl
  .request (m := terms) agrees.1 agrees.2

theorem openScript_carries (entity_name : String) :
    terms.CarriesOut own (openScript entity_name) [] :=
  have agrees := written_agrees (v := verdict (.openScript entity_name)) rfl rfl
  .request (m := terms) agrees.1 agrees.2

theorem writeScript_carries (entity_name : String) (lines : List Line) :
    terms.CarriesOut own (writeScript entity_name lines) [.script entity_name lines] :=
  have agrees := written_agrees (v := verdict (.writeScript entity_name lines)) rfl rfl
  .request (m := terms) agrees.1 agrees.2

theorem writeDockerfile_carries (entity_name content : String) :
    terms.CarriesOut own (writeDockerfile entity_name content) [.dockerfile entity_name] :=
  have agrees := written_agrees (v := verdict (.writeDockerfile entity_name content)) rfl rfl
  .request (m := terms) agrees.1 agrees.2

theorem loadTemplate_carries (template_path : String) :
    terms.CarriesOut own (loadTemplate template_path) [] := by
  refine .request (m := terms) ?_ ?_
  · rintro (_ | _ | content) passed
    · cases passed
    · cases passed
    · exact ⟨content, rfl⟩
  · rintro (_ | _ | content) e failed
    · cases failed
      rfl
    · cases failed
      rfl
    · cases failed

end

/-! ## The parts of a deployment -/

section
variable {cfg : Config}

/-- Exceptions of the program itself mean that something is missing in the configuration. -/
def Incomplete (cfg : Config) (_ : Exception) : Prop := ¬ Complete cfg

theorem createDockerNetwork_carries :
    terms.CarriesOut (Incomplete cfg) (createDockerNetwork cfg.network)
      (networkWork cfg.network) := by
  have create : terms.CarriesOut (Incomplete cfg) (checkedRun (.networkCreate cfg.network.subnet
      cfg.network.gateway cfg.network.docker_network_name)) (networkWork cfg.network) := by
    refine checked (fun _ => rfl) fun missing complete => ?_
    have absent : cfg.network.subnet = none ∨ cfg.network.gateway = none ∨
        cfg.network.docker_network_name = none := by
      simpa [Command.argv, eq_comm] using missing
    rcases absent with subnet | gateway | name
    · exact complete.subnet subnet
    · exact complete.gateway gateway
    · exact complete.name name
  refine looks (by simp [Command.argv]) rfl (fun _ => rfl) fun r => ?_
  split
  · refine .bind_idle (checked (fun _ => rfl) fun missing complete => ?_) fun _ => create
    exact complete.name (by simpa [Command.argv, eq_comm] using missing)
  · exact create

theorem generateDockerfile_carries {e : Entity} (member : e ∈ cfg.entities)
    (template_path : String) :
    terms.CarriesOut (Incomplete cfg)
      (DockerLauncher.generateDockerfile e cfg.entities template_path)
      (fileWork cfg.entities e) := by
  refine .bind_idle makedirs_carries fun _ => ?_
  refine .bind_idle (loadTemplate_carries template_path) fun tpl => ?_
  refine .bind_idle (openScript_carries e.name) fun _ => ?_
  unfold fileWork
  cases script : DockerBuild.generateDockerfile e cfg.entities with
  | error f =>
    refine .fail (fun complete => ?_) _
    obtain ⟨lines, ok⟩ := complete.scripts e member
    cases script.symm.trans ok
  | ok lines =>
    have script : terms.CarriesOut (Incomplete cfg) (writeScript e.name lines)
        [.script e.name lines] := writeScript_carries e.name lines
    exact script.bind fun _ => writeDockerfile_carries e.name _

theorem buildImage_carries (entity_name : String) :
    terms.CarriesOut (Incomplete cfg) (buildImage entity_name)
      [.docker (.build (dockerfileOf entity_name) (tagOf entity_name))] := by
  refine .bind_last (checked (fun _ => rfl) fun missing => ?_) fun _ => .done _
  simp [Command.argv] at missing

theorem buildImage_returns {entity_name tag : String} {h : List (Event Reply)}
    (d : Dialogue (buildImage entity_name) h (.ok tag)) : tag = tagOf entity_name := by
  rcases d.of_bind with ⟨e, eq, -⟩ | ⟨_, _, _, -, -, last⟩
  · cases eq
  · cases last
    rfl

theorem runContainer_carries {e : Entity} (member : e ∈ cfg.entities) (image_tag : String) :
    terms.CarriesOut (Incomplete cfg) (runContainer e.name e image_tag cfg.network)
      [.docker (.run (containerOf e.name) cfg.network.docker_network_name e.ip image_tag)] := by
  have run : terms.CarriesOut (Incomplete cfg)
      (checkedRun (.run (containerOf e.name) cfg.network.docker_network_name e.ip image_tag))
      [.docker (.run (containerOf e.name) cfg.network.docker_network_name e.ip image_tag)] := by
    refine checked (fun _ => rfl) fun missing complete => ?_
    have absent : cfg.network.docker_network_name = none ∨ e.ip = none := by
      simpa [Command.argv, eq_comm] using missing
    rcases absent with name | ip
    · exact complete.name name
    · exact complete.located e member ip
  refine looks (by simp [Command.argv]) rfl (fun _ => rfl) fun existing => ?_
  split
  · refine .bind_idle (checked (fun _ => rfl) fun missing => ?_) fun _ => run
    simp [Command.argv] at missing
  · exact run

theorem launchAllEntities_carries :
    terms.CarriesOut (Incomplete cfg) (launchAllEntities cfg)
      (cfg.entities.flatMap (containerWork cfg.network)) := by
  refine .forM fun e member => ?_
  refine .bind_returned (buildImage_carries e.name) fun tag h built => ?_
  rw [buildImage_returns built]
  exact runContainer_carries member _

theorem launcherCmd_given (fuzzer_ip config_path : String) (e : Entity) :
    none ∉ (launcherCmd fuzzer_ip config_path e).argv := by
  unfold launcherCmd
  split <;> simp [buildLauncherCmd, Command.argv]

theorem launcherCmd_checked (fuzzer_ip config_path : String) (e : Entity) :
    Checked (launcherCmd fuzzer_ip config_path e) := by
  unfold launcherCmd
  split <;> exact fun _ => rfl

theorem launcherCmd_work (fuzzer_ip config_path : String) (e : Entity) :
    work (.docker (launcherCmd fuzzer_ip config_path e)) =
      some (.docker (launcherCmd fuzzer_ip config_path e)) := by
  unfold launcherCmd
  split <;> rfl

theorem runLauncher_carries (config_path : String) :
    terms.CarriesOut (Incomplete cfg) (runLauncher cfg config_path)
      (launches config_path cfg.entities) := by
  change terms.CarriesOut _ (nextFuzzerIP (sortedEntities cfg.entities) >>= fun fuzzer_ip =>
    (sortedEntities cfg.entities).forM fun e => checkedRun (launcherCmd fuzzer_ip config_path e)) _
  unfold nextFuzzerIP launches
  rw [getFuzzer_sorted]
  cases found : getFuzzer cfg.entities with
  | none =>
    refine .fail (fun complete => ?_) []
    obtain ⟨e, member, fuzzer⟩ := complete.fuzzer
    exact List.find?_eq_none.mp found e member (by simpa using fuzzer)
  | some e =>
    simp only [Option.bind_some]
    cases located : e.ip with
    | none =>
      refine .fail (fun complete => ?_) []
      exact complete.located e (List.mem_of_find?_eq_some found) located
    | some fuzzer_ip =>
      change terms.CarriesOut _ ((sortedEntities cfg.entities).forM fun e =>
        checkedRun (launcherCmd fuzzer_ip config_path e)) _
      rw [sorted_eq]
      simp only [List.map_eq_flatMap]
      refine .forM fun e member => ?_
      change terms.CarriesOut (Incomplete cfg) _
        (some (Work.docker (launcherCmd fuzzer_ip config_path e))).toList
      rw [← launcherCmd_work]
      exact checked (launcherCmd_checked fuzzer_ip config_path e)
        fun missing => absurd missing (launcherCmd_given _ _ e)

theorem deploy_ends {config_path template_path : String} {h : List (Event Reply)}
    {x : Except Exception Unit} (d : Dialogue (deploy cfg config_path template_path) h x) :
    terms.Ends (Incomplete cfg) (plan cfg config_path) h x := by
  have files : terms.CarriesOut (Incomplete cfg)
      (generateAllDockerfiles cfg.entities template_path)
      (cfg.entities.flatMap (fileWork cfg.entities)) :=
    .forM fun e member => generateDockerfile_carries member template_path
  have containers : terms.CarriesOut (Incomplete cfg) (launchAllEntities cfg)
      (cfg.entities.flatMap (containerWork cfg.network)) := launchAllEntities_carries
  have all := createDockerNetwork_carries.bind fun _ => files.bind fun _ =>
    containers.bind fun _ => runLauncher_carries config_path
  rw [plan, preparation, List.append_assoc, List.append_assoc]
  exact all h x d

end

/-! ## Which commands the parts give -/

theorem subprocessRun_only {allowed : Action → Prop} {c : Command} (given : allowed (.docker c)) :
    (subprocessRun c).Only allowed := by
  unfold subprocessRun
  split
  · trivial
  · exact Task.Only.request given

theorem checkedRun_only {allowed : Action → Prop} {c : Command} (given : allowed (.docker c)) :
    (checkedRun c).Only allowed := by
  refine (subprocessRun_only given).bind fun completed => ?_
  split <;> trivial

def NetworkCommand : Action → Prop
  | .docker (.networkLs _) | .docker (.networkRm _) | .docker (.networkCreate _ _ _) => True
  | _ => False

theorem createDockerNetwork_only (net_cfg : Network) :
    (createDockerNetwork net_cfg).Only NetworkCommand := by
  refine (subprocessRun_only trivial).bind fun r => ?_
  split
  · exact (checkedRun_only trivial).bind fun _ => checkedRun_only trivial
  · exact checkedRun_only trivial

/-- Only the container itself is removed before it is run. -/
def ContainerCommand (cname : String) : Action → Prop
  | .docker (.rm c) => c = cname
  | .docker (.build _ _) | .docker (.ps _) | .docker (.run _ _ _ _) => True
  | _ => False

theorem buildImage_only (cname entity_name : String) :
    (buildImage entity_name).Only (ContainerCommand cname) :=
  (checkedRun_only trivial).bind fun _ => trivial

theorem runContainer_only (e : Entity) (image_tag : String) (net_cfg : Network) :
    (runContainer e.name e image_tag net_cfg).Only (ContainerCommand (containerOf e.name)) := by
  refine (subprocessRun_only trivial).bind fun existing => ?_
  split
  · refine Task.Only.bind (checkedRun_only ?_) fun _ => checkedRun_only trivial
    rfl
  · exact checkedRun_only trivial

def LauncherCommand : Action → Prop
  | .docker (.exec _ _) => True
  | _ => False

theorem runLauncher_only (cfg : Config) (config_path : String) :
    (runLauncher cfg config_path).Only LauncherCommand := by
  refine Task.Only.bind ?_ fun fuzzer_ip => Task.Only.forM fun e _ => checkedRun_only ?_
  · unfold nextFuzzerIP
    cases getFuzzer (sortedEntities cfg.entities) with
    | none => trivial
    | some e =>
      change (lift (required "ip" e.ip)).Only _
      cases e.ip <;> trivial
  · unfold launcherCmd
    split <;> trivial

/-! ## The contents of the Dockerfiles -/

/-- What is written is the template that has been read, with the placeholders replaced. -/
def Filled (template_path : String) (h : List (Event Reply)) : Prop :=
  ∀ h₁ h₂ entity_name content r, h = h₁ ++ ⟨.writeDockerfile entity_name content, r⟩ :: h₂ →
    ∃ tpl, ⟨.readTemplate template_path, .text tpl⟩ ∈ h₁ ∧ content = dockerfile entity_name tpl

section
variable {template_path : String} {h h' : List (Event Reply)}

theorem Filled.join (first : Filled template_path h) (second : Filled template_path h') :
    Filled template_path (h ++ h') := by
  intro h₁ h₂ entity_name content r whole
  rcases List.append_eq_append_iff.mp whole with ⟨l, rfl, late⟩ | ⟨l, early, rest⟩
  · obtain ⟨tpl, read, eq⟩ := second l h₂ entity_name content r late
    exact ⟨tpl, List.mem_append_right h read, eq⟩
  · cases l with
    | nil =>
      obtain ⟨tpl, read, eq⟩ := second [] h₂ entity_name content r rest.symm
      cases read
    | cons event l =>
      rw [List.cons_append, List.cons.injEq] at rest
      exact first h₁ l entity_name content r (rest.1 ▸ early)

def WritesNone (a : Action) : Prop :=
  ∀ entity_name content, a ≠ .writeDockerfile entity_name content

theorem filled_of_only {α : Type} {t : Deploy α} (only : t.Only WritesNone) :
    t.Tells (Filled template_path) := by
  rintro h x d h₁ h₂ entity_name content r rfl
  have none := d.only only _ (List.mem_append_right h₁ List.mem_cons_self)
  exact absurd rfl (none entity_name content)

theorem createDockerNetwork_filled (net_cfg : Network) :
    (createDockerNetwork net_cfg).Tells (Filled template_path) :=
  filled_of_only ((createDockerNetwork_only net_cfg).mono fun a network => by
    rintro entity_name content rfl
    exact network)

theorem launchAllEntities_filled (cfg : Config) :
    (launchAllEntities cfg).Tells (Filled template_path) := by
  refine filled_of_only (.forM fun e _ => Task.Only.mono (.bind (buildImage_only _ _) fun tag =>
    runContainer_only e tag cfg.network) fun a container => ?_)
  rintro entity_name content rfl
  exact container

theorem runLauncher_filled (cfg : Config) (config_path : String) :
    (runLauncher cfg config_path).Tells (Filled template_path) :=
  filled_of_only ((runLauncher_only cfg config_path).mono fun a launcher => by
    rintro entity_name content rfl
    exact launcher)

def WritesOf (tpl : String) (a : Action) : Prop :=
  ∀ entity_name content, a = .writeDockerfile entity_name content →
    content = dockerfile entity_name tpl

theorem generateDockerfile_filled (e : Entity) (all_entities : List Entity) :
    (DockerLauncher.generateDockerfile e all_entities template_path).Tells
      (Filled template_path) := by
  refine .bind (fun _ _ => Filled.join) (filled_of_only (.request (by simp [WritesNone])))
    fun _ h x d => ?_
  rcases d.of_bind with ⟨_, -, failed⟩ | ⟨tpl, _, h₂, rfl, read, rest⟩
  · exact filled_of_only (.request (by simp [WritesNone])) h _ failed
  · obtain ⟨reply, text, rfl⟩ := read.of_request
    have only : ∀ event ∈ h₂, WritesOf tpl event.1 := by
      refine rest.only (.bind (.request (by simp [WritesOf])) fun _ => .bind ?_ fun lines =>
        .bind (.request (by simp [WritesOf])) fun _ => .request ?_)
      · cases DockerBuild.generateDockerfile e all_entities <;> trivial
      · rintro entity_name content ⟨⟩
        rfl
    cases reply with
    | missing => cases text
    | unreadable => cases text
    | text content =>
      cases text
      intro l₁ l₂ entity_name content r whole
      cases l₁ with
      | nil => cases whole
      | cons event l₁ =>
        obtain ⟨rfl, rfl⟩ := List.cons.inj whole
        refine ⟨tpl, List.mem_cons_self, ?_⟩
        exact only _ (List.mem_append_right l₁ List.mem_cons_self) entity_name content rfl

theorem deploy_filled (cfg : Config) (config_path : String) :
    (deploy cfg config_path template_path).Tells (Filled template_path) := by
  have join : ∀ h h', Filled template_path h → Filled template_path h' →
      Filled template_path (h ++ h') := fun _ _ => Filled.join
  refine .bind join (createDockerNetwork_filled _) fun _ => .bind join ?_ fun _ =>
    .bind join (launchAllEntities_filled cfg) fun _ => runLauncher_filled cfg config_path
  have none : Filled template_path [] := fun _ _ _ _ _ whole => by simp at whole
  exact .forM none join fun e _ => generateDockerfile_filled e cfg.entities

end

/-- Whatever docker answers and whichever files can be written: what a deployment does is a
    beginning of the plan, all of it if it returns, and the first failure is the last thing
    that happens. A complete configuration raises no exception of its own. The Dockerfiles are
    made of the template. -/
theorem deploy_carriesOut (cfg : Config) (config_path template_path : String) :
    terms.CarriesOut (Incomplete cfg) (deploy cfg config_path template_path)
        (plan cfg config_path) ∧
      (deploy cfg config_path template_path).Tells (Filled template_path) :=
  ⟨fun _ _ d => deploy_ends d, deploy_filled cfg config_path⟩

end Cezfuzzer.DockerDeployment
