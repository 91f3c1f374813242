import Cezfuzzer.DockerDeployment

set_option autoImplicit false

/-!
# The commands that start the launchers

Each launcher is started by a shell that reads a quoted line. The shell gets back the arguments
that the line was made of, and by then everything that the launcher needs has been made.
-/
namespace Cezfuzzer.LauncherCommands
open CommanderConfig Interactions DockerLauncher DockerDeployment
open ShellWords (Redirection parse resolve)

/-- An empty argument is left out. -/
def argument (arg : String) : List String := if arg = "" then [] else [arg]

/-- What a launcher is started with. -/
def launcherArguments (fuzzer_ip config_path : String) (e : Entity) : List String :=
  if e.isFuzzer then "/app/build/luncher/server/server" :: argument config_path
  else "/app/build/luncher/client/client" :: (argument fuzzer_ip ++ argument config_path)

theorem filter_argument (arg : String) : [arg].filter (· ≠ "") = argument arg := by
  unfold argument
  by_cases empty : arg = "" <;> simp [empty]

theorem launcherArgs_server (launcher config_path : String) :
    launcherArgs launcher none [config_path] = launcher :: argument config_path := by
  rw [launcherArgs, filter_argument]
  rfl

theorem launcherArgs_client (launcher fuzzer_ip config_path : String) :
    launcherArgs launcher (some fuzzer_ip) [config_path] =
      launcher :: (argument fuzzer_ip ++ argument config_path) := by
  have ip : ((some fuzzer_ip).filter (· ≠ "")).toList = argument fuzzer_ip := by
    unfold argument
    by_cases empty : fuzzer_ip = "" <;> simp [empty]
  rw [launcherArgs, filter_argument, ip]
  rfl

def logged : List Redirection :=
  [⟨['1'], .file "/tmp/launcher.log".toList⟩, ⟨['2'], .descriptor ['1']⟩]

theorem logged_resolve (opened : List Char → List Char) :
    resolve opened logged ['1'] = "/tmp/launcher.log".toList ∧
      resolve opened logged ['2'] = "/tmp/launcher.log".toList := by
  simp [logged, resolve, Function.update]

/-- The shell undoes the quoting. -/
theorem buildLauncherCmd_parse (container : String) {launcher : String} (path : List Char)
    (absolute : launcher.toList = '/' :: path) (fuzzer_ip : Option String)
    (extra_args : List String) :
    ∃ script, buildLauncherCmd container launcher fuzzer_ip extra_args = .exec container script ∧
      parse script.toList =
        some ⟨(launcherArgs launcher fuzzer_ip extra_args).map String.toList, logged⟩ := by
  refine ⟨_, rfl, ?_⟩
  set args := launcherArgs launcher fuzzer_ip extra_args with hargs
  have words : (args.map fun arg => String.ofList (ShellWords.quote arg.toList)).map
      String.toList = (args.map String.toList).map ShellWords.quote := by
    simp
  have tail : " > /tmp/launcher.log 2>&1".toList =
      ' ' :: "> /tmp/launcher.log 2>&1".toList := by decide
  rw [String.toList_append, String.toList_intercalate, words, tail,
    show " ".toList = [' '] from by decide,
    ShellWords.joined_words (by simp [hargs, launcherArgs]), List.flatMap_map]
  refine ShellWords.parse_quoted path ?_ (by decide)
  rw [hargs]
  simp [launcherArgs, absolute]

theorem launcherCmd_parse (fuzzer_ip config_path : String) (e : Entity) :
    ∃ script, launcherCmd fuzzer_ip config_path e = .exec (containerOf e.name) script ∧
      parse script.toList =
        some ⟨(launcherArguments fuzzer_ip config_path e).map String.toList, logged⟩ := by
  unfold launcherCmd launcherArguments
  by_cases fuzzer : e.isFuzzer
  · rw [if_pos fuzzer, if_pos fuzzer, ← launcherArgs_server]
    exact buildLauncherCmd_parse _ "app/build/luncher/server/server".toList (by decide) _ _
  · rw [if_neg fuzzer, if_neg fuzzer, ← launcherArgs_client]
    exact buildLauncherCmd_parse _ "app/build/luncher/client/client".toList (by decide) _ _

/-- The server's launcher and a client's are different programs. -/
theorem launcherCmd_ne {fuzzer_ip config_path : String} {e f : Entity} (fuzzer : f.isFuzzer)
    (other : ¬ e.isFuzzer) :
    launcherCmd fuzzer_ip config_path f ≠ launcherCmd fuzzer_ip config_path e := by
  intro same
  obtain ⟨script, cmd, arguments⟩ := launcherCmd_parse fuzzer_ip config_path e
  obtain ⟨script', cmd', arguments'⟩ := launcherCmd_parse fuzzer_ip config_path f
  rw [cmd, cmd', Command.exec.injEq] at same
  rw [same.2, arguments, Option.some.injEq, ShellWords.SimpleCommand.mk.injEq] at arguments'
  have first := congrArg List.head? arguments'.1
  rw [launcherArguments, launcherArguments, if_neg other, if_pos fuzzer] at first
  simp only [List.map_cons, List.head?_cons, Option.some.injEq] at first
  exact absurd first (by decide)

theorem exec_unprepared (cfg : Config) (container script : String) :
    .docker (.exec container script) ∉ preparation cfg := by
  intro member
  simp only [preparation, networkWork, containerWork, List.mem_append, List.mem_flatMap,
    List.mem_cons, List.not_mem_nil, Work.docker.injEq, reduceCtorEq, or_false, and_false,
    exists_false, false_or] at member
  obtain ⟨e, -, file⟩ := member
  unfold fileWork at file
  split at file
  · cases file
  · simp at file

/-- A launcher with all that has been done before it is started. -/
structure Launch (cfg : Config) (config_path fuzzer_ip : String) (before : List (Event Reply))
    (e : Entity) (container script : String) : Prop where
  container : container = containerOf e.name
  prepared : ∀ w ∈ preparation cfg, terms.Done before w
  fuzzer_first : ¬ e.isFuzzer → ∀ f ∈ cfg.entities, f.isFuzzer →
    terms.Done before (.docker (launcherCmd fuzzer_ip config_path f))
  program : ∃ redirections, parse script.toList =
      some ⟨(launcherArguments fuzzer_ip config_path e).map String.toList, redirections⟩ ∧
    ∀ opened, resolve opened redirections ['1'] = "/tmp/launcher.log".toList ∧
      resolve opened redirections ['2'] = "/tmp/launcher.log".toList

variable {cfg : Config} {config_path template_path container script : String}
  {h₁ h₂ : List (Event Reply)} {x : Except Exception Unit}

/-- The launchers in the plan are those of the entities, and they all get the address of one
    fuzzer. -/
theorem launch_planned (planned : .docker (.exec container script) ∈ plan cfg config_path) :
    ∃ fuzzer ∈ cfg.entities, ∃ e ∈ cfg.entities, ∃ fuzzer_ip, fuzzer.isFuzzer ∧
      fuzzer.ip = some fuzzer_ip ∧ (getFuzzer cfg.entities).bind (·.ip) = some fuzzer_ip ∧
      launcherCmd fuzzer_ip config_path e = .exec container script := by
  have launched := (List.mem_append.mp planned).resolve_left (exec_unprepared cfg _ _)
  unfold launches at launched
  cases located : (getFuzzer cfg.entities).bind (·.ip) with
  | none => simp [located] at launched
  | some fuzzer_ip =>
    rw [located] at launched
    obtain ⟨fuzzer, found, ip⟩ := Option.bind_eq_some_iff.mp located
    obtain ⟨e, ordered, command⟩ := List.mem_map.mp launched
    have member : e ∈ cfg.entities := by
      rcases List.mem_append.mp ordered with fuzzers | others
      · exact (List.mem_filter.mp fuzzers).1
      · exact (List.mem_filter.mp others).1
    exact ⟨fuzzer, List.mem_of_find?_eq_some found, e, member, fuzzer_ip,
      by simpa using List.find?_some found, ip, rfl, Work.docker.inj command⟩

/-- The plan has a first part with the launchers of all fuzzers and of nobody else. -/
theorem fuzzers_first (config_path : String) {fuzzer_ip : String} {e f : Entity}
    (located : (getFuzzer cfg.entities).bind (·.ip) = some fuzzer_ip) (other : ¬ e.isFuzzer)
    (member : f ∈ cfg.entities) (fuzzer : f.isFuzzer) :
    ∃ first rest, plan cfg config_path = first ++ rest ∧
      .docker (launcherCmd fuzzer_ip config_path f) ∈ first ∧
      .docker (launcherCmd fuzzer_ip config_path e) ∉ first := by
  let command (e : Entity) : Work := .docker (launcherCmd fuzzer_ip config_path e)
  refine ⟨preparation cfg ++ (cfg.entities.filter (fun e => e.isFuzzer)).map command,
    (cfg.entities.filter (fun e => ¬ e.isFuzzer)).map command, ?_, ?_, ?_⟩
  · rw [plan, launches, located, List.append_assoc, ← List.map_append]
    rfl
  · exact List.mem_append_right _ (List.mem_map_of_mem
      (List.mem_filter.mpr ⟨member, by simpa using fuzzer⟩))
  · intro early
    rcases List.mem_append.mp early with prepared | fuzzers
    · obtain ⟨script, exec, -⟩ := launcherCmd_parse fuzzer_ip config_path e
      exact exec_unprepared cfg _ _ (exec ▸ prepared)
    · obtain ⟨f', hf', same⟩ := List.mem_map.mp fuzzers
      have isFuzzer : f'.isFuzzer := by simpa using (List.mem_filter.mp hf').2
      exact launcherCmd_ne isFuzzer other (Work.docker.inj same)

/-- Whenever a launcher is started, the network, the files, the images and the containers of all
    entities have been made, and the fuzzer's launcher is up before those of the others. -/
theorem launcher_started {reply : Reply (.docker (.exec container script))}
    (d : Dialogue (deploy cfg config_path template_path)
      (h₁ ++ ⟨.docker (.exec container script), reply⟩ :: h₂) x) :
    ∃ fuzzer ∈ cfg.entities, ∃ e ∈ cfg.entities, ∃ fuzzer_ip, fuzzer.isFuzzer ∧
      fuzzer.ip = some fuzzer_ip ∧
      Launch cfg config_path fuzzer_ip h₁ e container script := by
  have ends := deploy_ends d
  have names : terms.work (.docker (.exec container script)) =
    some (.docker (.exec container script)) := rfl
  have planned : .docker (.exec container script) ∈ plan cfg config_path := by
    have given : ⟨.docker (.exec container script), reply⟩ ∈
        h₁ ++ (⟨.docker (.exec container script), reply⟩ : Event Reply) :: h₂ :=
      List.mem_append_right h₁ List.mem_cons_self
    exact ends.part.subset (List.mem_filterMap.mpr ⟨_, given, names⟩)
  obtain ⟨fuzzer, hf, e, he, fuzzer_ip, isFuzzer, ip, located, command⟩ := launch_planned planned
  obtain ⟨script', exec, program⟩ := launcherCmd_parse fuzzer_ip config_path e
  obtain ⟨rfl, rfl⟩ := Command.exec.inj (exec.symm.trans command)
  refine ⟨fuzzer, hf, e, he, fuzzer_ip, isFuzzer, ip, rfl, ?_, ?_, logged, program,
    logged_resolve⟩
  · intro w prepared
    exact ends.done_before names (exec_unprepared cfg _ _) prepared
  · intro other f member fuzzer
    obtain ⟨first, rest, split, early, later⟩ :=
      fuzzers_first config_path located other member fuzzer
    rw [split] at ends
    exact ends.done_before names (exec ▸ later) early

/-- No command fails and nothing is there before. -/
def quiet (_ : Unit) (a : Action) : Reply a × Unit :=
  match a with
  | .docker _ => (some ⟨0, ""⟩, ())
  | .readTemplate _ => (.text "", ())
  | .makedirs | .openScript _ | .writeScript _ _ | .writeDockerfile _ _ => (true, ())

/-- A client, in the file before the fuzzer. -/
def oneClient : Config :=
  ⟨⟨some "net", some "10.0.0.0/24", some "10.0.0.1"⟩,
    [{ entity "sender" "client" "10.0.0.3" 5000 [] with protocol := none },
      { entity "fuzzer" "fuzzer" "10.0.0.2" 5001 [] with protocol := none }]⟩

def oneClientScript : String :=
  "/app/build/luncher/client/client 10.0.0.2 'my config.yaml' > /tmp/launcher.log 2>&1"

theorem oneClient_started : ∃ h₁, ∃ fuzzer ∈ oneClient.entities, ∃ e ∈ oneClient.entities,
    ∃ fuzzer_ip, fuzzer.isFuzzer ∧ fuzzer.ip = some fuzzer_ip ∧
      Launch oneClient "my config.yaml" fuzzer_ip h₁ e "sender_container" oneClientScript := by
  let t := deploy oneClient "my config.yaml" "Dockerfile.template"
  let history := (t.run quiet ()).1
  have execution : Execution (fun _ _ _ _ => True) t () history (t.run quiet ()).2.1
      (t.run quiet ()).2.2 := t.run_execution (fun _ _ => trivial) ()
  let started : Event Reply :=
    ⟨.docker (.exec "sender_container" oneClientScript), some ⟨0, ""⟩⟩
  have run : Dialogue t (history.take 19 ++ started :: []) (t.run quiet ()).2.1 :=
    execution.dialogue
  exact ⟨history.take 19, launcher_started run⟩

end Cezfuzzer.LauncherCommands
