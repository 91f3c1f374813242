import Cezfuzzer.ClientListMemory

set_option autoImplicit false

/-!
# The array stands for the list

As long as every `realloc` is given its memory and nothing has faulted, what the threads do
with the array in any order is what `LauncherMachine` does with its list of clients: a client
is added when it is counted, and a handler has found it when it sends its address. Each handler
looks up its own descriptor.
-/
namespace Cezfuzzer.ClientListRefinement
open StepRuns BlockMemory GrowingArrays LauncherMessages LauncherClient LauncherMachine
  LauncherInvariants LauncherReadiness ClientListMemory

variable {config : List EntityConfig} {s u : ClientListMemory.State} {e : ClientListMemory.Event}
  {clients : List ClientInfo}

def Given (_ : ClientListMemory.State) : ClientListMemory.Event → Prop
  | .add (.realloc given _) => given = true
  | _ => True

instance (s : ClientListMemory.State) (e : ClientListMemory.Event) : Decidable (Given s e) := by
  unfold Given
  split <;> infer_instance

/-- The array that the listen thread has, also before it has stored the pointer to it. -/
def array (s : ClientListMemory.State) : Pointer :=
  match s.adding with
  | .pointing p => p
  | _ => s.list

def listed (s : ClientListMemory.State) : List ClientInfo :=
  match array s with
  | .null => []
  | .address b _ => (((live s.memory b).getD []).take s.no_clients).filterMap id

def withClients (clients : List ClientInfo) (l : LauncherMachine.State) : LauncherMachine.State :=
  { l with clientList := clients }

def abstract (s : ClientListMemory.State) : LauncherMachine.State :=
  withClients (listed s) s.launchers

/-- The step of `LauncherMachine` that a step in the memory completes. -/
def visible : ClientListMemory.Event → Option LauncherMachine.Event
  | .launchers e => some e
  | .add .count => some (.listen .addNewClient)
  | .lookup fd .send => some (.handler fd .sendClientIP)
  | _ => none

/-! ## What is in the array -/

/-- What follows the clients that are counted. -/
def tail (s : ClientListMemory.State) : Cells ClientInfo :=
  match s.adding, s.launchers.listen with
  | .reallocating, _ => []
  | .pointing _, _ | .filling, _ => [none]
  | .counting, .adding fd peer => [some ⟨fd, peer⟩]
  | .counting, _ => []

/-- No entry before the `i`-th one is that of `fd`. -/
def Missed (clients : List ClientInfo) (fd i : ℕ) : Prop :=
  ∀ ci ∈ clients.take i, ci.sockfd ≠ fd

def Found (clients : List ClientInfo) (fd i : ℕ) : Prop :=
  Missed clients fd i ∧ ∃ ci, clients[i]? = some ci ∧ ci.sockfd = fd

/-- What a handler knows of the list, whatever has been added since. -/
def Knows (clients : List ClientInfo) (fd : ℕ) : Lookup → Prop
  | .testing i => i ≤ clients.length ∧ Missed clients fd i
  | .loading i => i < clients.length ∧ Missed clients fd i
  | .comparing i list => i < clients.length ∧ Missed clients fd i ∧ start list = list
  | .taking i => Found clients fd i
  | .sending (some p) => ∃ i list, p = list.advance i ∧ start list = list ∧ Found clients fd i
  | .sending none => False

structure Represents (s : ClientListMemory.State) (clients : List ClientInfo) : Prop where
  counted : s.no_clients = clients.length
  stored : Only s.memory (array s) (clients.map some ++ tail s)
  begins : start s.list = s.list
  busy : s.adding ≠ .reallocating → ∃ fd peer, s.launchers.listen = .adding fd peer
  known : ∀ fd, Knows clients fd (s.lookups fd)

theorem Missed.snoc {fd i : ℕ} (missed : Missed clients fd i) (inside : i ≤ clients.length)
    (ci : ClientInfo) : Missed (clients ++ [ci]) fd i := by
  unfold Missed
  rwa [List.take_append_of_le_length inside]

theorem Missed.next {fd i : ℕ} {ci : ClientInfo} (missed : Missed clients fd i)
    (here : clients[i]? = some ci) (other : ci.sockfd ≠ fd) : Missed clients fd (i + 1) := by
  intro x member
  rw [List.take_add_one, here, Option.toList_some] at member
  rcases List.mem_append.mp member with before | last
  · exact missed x before
  · exact List.mem_singleton.mp last ▸ other

theorem Found.inside {fd i : ℕ} (found : Found clients fd i) : i < clients.length := by
  obtain ⟨-, info, here, -⟩ := found
  exact (List.getElem?_eq_some_iff.mp here).1

theorem Found.snoc {fd i : ℕ} (found : Found clients fd i) (ci : ClientInfo) :
    Found (clients ++ [ci]) fd i := by
  have inside := found.inside
  obtain ⟨missed, info, here, own⟩ := found
  exact ⟨missed.snoc inside.le ci, info, by rw [List.getElem?_append_left inside, here], own⟩

/-- The first entry of the descriptor is the one that `find?` gives. -/
theorem Found.find {fd i : ℕ} {ci : ClientInfo} (found : Found clients fd i)
    (here : clients[i]? = some ci) : clients.find? (fun ci => ci.sockfd = fd) = some ci := by
  obtain ⟨missed, info, here', own⟩ := found
  obtain rfl := Option.some.inj (here'.symm.trans here)
  have none : (clients.take i).find? (fun ci => ci.sockfd = fd) = none := by
    simpa [List.find?_eq_none, Missed] using missed
  rw [← List.take_append_drop i clients, List.find?_append, none, Option.none_or,
    List.drop_eq_getElem?_toList_append, here]
  simp [own]

theorem Knows.snoc {fd : ℕ} {lookup : Lookup} (knows : Knows clients fd lookup)
    (ci : ClientInfo) : Knows (clients ++ [ci]) fd lookup := by
  have more : clients.length ≤ (clients ++ [ci]).length := by simp
  cases lookup with
  | testing i => exact ⟨knows.1.trans more, knows.2.snoc knows.1 ci⟩
  | loading i => exact ⟨knows.1.trans_le more, knows.2.snoc knows.1.le ci⟩
  | comparing i list =>
    exact ⟨knows.1.trans_le more, knows.2.1.snoc knows.1.le ci, knows.2.2⟩
  | taking i => exact Found.snoc knows ci
  | sending p =>
    cases p with
    | none => exact knows
    | some p =>
      obtain ⟨i, list, eq, begins, found⟩ := knows
      exact ⟨i, list, eq, begins, found.snoc ci⟩

theorem knows_start (clients : List ClientInfo) (fd : ℕ) : Knows clients fd (.testing 0) :=
  ⟨Nat.zero_le _, by simp [Missed]⟩

theorem Represents.listed_eq (rep : Represents s clients) : listed s = clients := by
  have stored := rep.stored
  unfold listed
  cases at' : array s with
  | null =>
    rw [at'] at stored
    simpa using (List.append_eq_nil_iff.mp stored.1).1.symm
  | address b offset =>
    rw [at'] at stored
    simp [stored.2, rep.counted, List.filterMap_map]

/-! ## One step -/

/-- A step that does not use the list of clients takes place with every list. -/
theorem step_withClients {l u : LauncherMachine.State} {e : LauncherMachine.Event} (kept : Kept e)
    (h : LauncherMachine.step config l e = some u) (clients : List ClientInfo) :
    LauncherMachine.step config (withClients clients l) e = some (withClients clients u) := by
  have running : (∃ e', e = .listen e') ∨ (∃ fd e', e = .handler fd e') →
      l.mainLoop ≠ .aborted := by
    rintro (⟨e', rfl⟩ | ⟨fd, e', rfl⟩) aborted <;> simp [LauncherMachine.step, aborted] at h
  cases LauncherMachine.step_move h with
  | addNewClient | sendClientIP => cases kept
  | accept | pushClientFd | createHandler =>
    simp_all [LauncherMachine.step, withClients, listenStep, State.setConnection]
  | sendStartSignal | recvMessage | lock | storeMessage | storeFlag | unlock | wake =>
    simp_all [LauncherMachine.step, withClients, handlerStep, State.setConnection]
  | client fd e c c' found move =>
    simp only [LauncherMachine.step, withClients, found, Option.map_eq_some_iff] at h ⊢
    obtain ⟨c'', hc, same⟩ := h
    exact ⟨c'', hc, congrArg (withClients clients) same⟩
  | _ => simp_all [LauncherMachine.step, withClients, mainStep, State.setConnection, launchEntity]

theorem listen_kept {l u : LauncherMachine.State} {e : LauncherMachine.Event} (kept : Kept e)
    (h : LauncherMachine.step config l e = some u) {fd : ℕ} {peer : Address}
    (listen : l.listen = .adding fd peer) : u.listen = .adding fd peer := by
  cases LauncherMachine.step_move h with
  | addNewClient => cases kept
  | accept peer' at' | pushClientFd fd' at' | createHandler fd' c at' => cases listen.symm.trans at'
  | _ => exact listen

theorem after_ok {β : Type} {prog : Program ClientInfo β} {b : β} {m : Memory ClientInfo}
    (run : prog s.memory = .ok (b, m))
    (next : β → ClientListMemory.State → ClientListMemory.State) :
    s.after prog next = next b { s with memory := m } := by
  rw [State.after, run]

/-- What did not fault has run to its end. -/
theorem after_fine {β : Type} {prog : Program ClientInfo β}
    {next : β → ClientListMemory.State → ClientListMemory.State}
    (fine : (s.after prog next).fault = none) :
    ∃ b m, prog s.memory = .ok (b, m) ∧ s.after prog next = next b { s with memory := m } := by
  cases run : prog s.memory with
  | ok found => exact ⟨found.1, found.2, rfl, after_ok run next⟩
  | error f =>
    rw [State.after, run] at fine
    cases fine

theorem Represents.setLookup (rep : Represents s clients) {fd : ℕ} {lookup : Lookup}
    (knows : Knows clients fd lookup) : Represents (s.setLookup fd lookup) clients := by
  refine ⟨rep.counted, rep.stored, rep.begins, rep.busy, fun fd' => ?_⟩
  by_cases own : fd' = fd
  · subst own
    rwa [ClientListMemory.State.setLookup_self]
  · rw [ClientListMemory.State.setLookup_of_ne s own]
    exact rep.known fd'

/-- What a handler reads without a fault is an entry of the list. -/
theorem Represents.fetched (rep : Represents s clients) {list : Pointer} {i : ℕ} {ci : ClientInfo}
    {m : Memory ClientInfo} (begins : start list = list) (inside : i < clients.length)
    (run : fetch (list.advance i) s.memory = .ok (ci, m)) :
    list = array s ∧ clients[i]? = some ci ∧ m = s.memory := by
  obtain ⟨same, here, rfl⟩ := rep.stored.fetched begins run
  rw [List.getElem?_append_left (by rwa [List.length_map]), List.getElem?_map] at here
  exact ⟨same, by simpa using here, rfl⟩

theorem represents_launchers (rep : Represents s clients) {e : LauncherMachine.Event}
    {l : LauncherMachine.State} (kept : Kept e)
    (h : LauncherMachine.step config s.launchers e = some l) :
    Represents { s with launchers := l } clients := by
  refine ⟨rep.counted, ?_, rep.begins, fun adding => ?_, rep.known⟩
  · have same : tail { s with launchers := l } = tail s := by
      cases at' : s.adding with
      | counting =>
        obtain ⟨fd, peer, listen⟩ := rep.busy (by simp [at'])
        simp [tail, at', listen, listen_kept kept h listen]
      | _ => simp [tail, at']
    exact same ▸ rep.stored
  · obtain ⟨fd, peer, listen⟩ := rep.busy adding
    exact ⟨fd, peer, listen_kept kept h listen⟩

theorem represents_realloc (rep : Represents s clients) {fd : ℕ} {peer : Address}
    (listen : s.launchers.listen = .adding fd peer) (at' : s.adding = .reallocating)
    (moved : Bool) :
    ∃ p m, realloc true moved s.list (s.no_clients + 1) s.memory = .ok (p, m) ∧ p ≠ .null ∧
      (p = s.list ↔ moved = false ∧ s.list ≠ .null) ∧
      Represents { s with memory := m, adding := .pointing p } clients := by
  have stored := rep.stored
  simp only [array, tail, at', List.append_nil] at stored
  obtain ⟨p, m, run, here, only, same⟩ := stored.realloc moved
  rw [List.length_map, ← rep.counted] at run
  exact ⟨p, m, run, here, same, rep.counted, only, rep.begins, fun _ => ⟨fd, peer, listen⟩,
    rep.known⟩

theorem represents_point (rep : Represents s clients) {p : Pointer} (at' : s.adding = .pointing p) :
    Represents { s with list := p, adding := .filling } clients := by
  have stored := rep.stored
  simp only [array, tail, at'] at stored
  exact ⟨rep.counted, stored, stored.start_eq, fun _ => rep.busy (by simp [at']), rep.known⟩

theorem represents_fill (rep : Represents s clients) {fd : ℕ} {peer : Address}
    (listen : s.launchers.listen = .adding fd peer) (at' : s.adding = .filling) :
    ∃ m, store (s.list.advance s.no_clients) [⟨fd, peer⟩] s.memory = .ok ((), m) ∧
      Represents { s with memory := m, adding := .counting } clients := by
  have stored := rep.stored
  simp only [array, tail, at'] at stored
  obtain ⟨m, run, only⟩ := stored.store ⟨fd, peer⟩
  rw [List.length_map, ← rep.counted] at run
  refine ⟨m, run, rep.counted, ?_, rep.begins, fun _ => ⟨fd, peer, listen⟩, rep.known⟩
  simpa [array, tail, listen] using only

theorem represents_count (rep : Represents s clients) {fd : ℕ} {peer : Address}
    (listen : s.launchers.listen = .adding fd peer) (at' : s.adding = .counting) :
    Represents { s.returned fd with no_clients := s.no_clients + 1 }
      (clients ++ [⟨fd, peer⟩]) := by
  have stored := rep.stored
  simp only [array, tail, at', listen] at stored
  refine ⟨by simp [rep.counted], ?_, rep.begins, fun busy => absurd rfl busy,
    fun fd' => (rep.known fd').snoc _⟩
  simpa [array, tail, State.returned] using stored

/-- A handler always finds its client, which has been counted before. -/
theorem represents_test (rep : Represents s clients)
    (served : Served (withClients clients s.launchers)) {fd i : ℕ} {c : Connection}
    (found : s.launchers.connections[fd]? = some c) (serving : c.handler = .sendingIP)
    (at' : s.lookups fd = .testing i) :
    i < s.no_clients ∧ Represents (s.setLookup fd (.loading i)) clients := by
  have knows := rep.known fd
  rw [at'] at knows
  have inside : i < clients.length := by
    refine lt_of_le_of_ne knows.1 fun all => ?_
    obtain ⟨ci, listed, own⟩ := served.known fd c found (by simp [serving])
    exact knows.2 ci (by rwa [all, List.take_length]) own
  exact ⟨rep.counted ▸ inside, rep.setLookup ⟨inside, knows.2⟩⟩

theorem represents_compare (rep : Represents s clients) {fd i : ℕ} {list : Pointer}
    {ci : ClientInfo} {m : Memory ClientInfo} (at' : s.lookups fd = .comparing i list)
    (run : fetch (list.advance i) s.memory = .ok (ci, m)) :
    Represents ({ s with memory := m }.setLookup fd
      (if ci.sockfd = fd then .taking i else .testing (i + 1))) clients := by
  have knows := rep.known fd
  rw [at'] at knows
  obtain ⟨inside, missed, begins⟩ := knows
  obtain ⟨-, here, rfl⟩ := rep.fetched begins inside run
  refine rep.setLookup ?_
  by_cases own : ci.sockfd = fd
  · rw [if_pos own]
    exact ⟨missed, ci, here, own⟩
  · rw [if_neg own]
    exact ⟨inside, missed.next here own⟩

/-- What a handler sends without a fault is the entry that the list has for it. -/
theorem represents_send (rep : Represents s clients) {fd : ℕ} {c : Connection} {p : Pointer}
    {ci : ClientInfo} {m : Memory ClientInfo} (at' : s.lookups fd = .sending (some p))
    (run : fetch p s.memory = .ok (ci, m)) :
    clients.find? (fun ci => ci.sockfd = fd) = some ci ∧
      Represents ({ s with memory := m }.replied fd c ci) clients := by
  have knows := rep.known fd
  rw [at'] at knows
  obtain ⟨i, list, rfl, begins, found⟩ := knows
  obtain ⟨-, here, rfl⟩ := rep.fetched begins found.inside run
  have reset := rep.setLookup (knows_start clients fd)
  exact ⟨found.find here, reset.counted, reset.stored, reset.begins, reset.busy, reset.known⟩

/-- Under `LauncherMachine` the visible steps take the list from one to the other. -/
def Follows (config : List EntityConfig) (clients clients' : List ClientInfo)
    (s u : ClientListMemory.State) (e : ClientListMemory.Event) : Prop :=
  match visible e with
  | some e' => LauncherMachine.step config (withClients clients s.launchers) e' =
      some (withClients clients' u.launchers)
  | none => withClients clients' u.launchers = withClients clients s.launchers

theorem represents_move (rep : Represents s clients)
    (served : Served (withClients clients s.launchers)) (given : Given s e)
    (move : ClientListMemory.Move config s e u) (fine : u.fault = none) :
    ∃ clients', Represents u clients' ∧ Follows config clients clients' s u e := by
  cases move with
  | launchers e l kept h =>
    exact ⟨clients, represents_launchers rep kept h, step_withClients kept h clients⟩
  | realloc fd peer given' moved running listen at' =>
    obtain rfl : given' = true := given
    obtain ⟨p, m, run, here, -, rep'⟩ := represents_realloc rep listen at' moved
    rw [after_ok run, if_neg here]
    exact ⟨clients, rep', rfl⟩
  | point p at' => exact ⟨clients, represents_point rep at', rfl⟩
  | fill fd peer listen at' =>
    obtain ⟨m, run, rep'⟩ := represents_fill rep listen at'
    rw [after_ok run]
    exact ⟨clients, rep', rfl⟩
  | count fd peer running listen at' =>
    refine ⟨clients ++ [⟨fd, peer⟩], represents_count rep listen at', ?_⟩
    simp [Follows, visible, LauncherMachine.step, withClients, running, listenStep, listen,
      State.returned]
  | test fd i c found serving at' =>
    obtain ⟨inside, rep'⟩ := represents_test rep served found serving at'
    rw [if_pos inside]
    exact ⟨clients, rep', rfl⟩
  | load fd i c found serving at' =>
    have knows := rep.known fd
    rw [at'] at knows
    exact ⟨clients, rep.setLookup ⟨knows.1, knows.2, rep.begins⟩, rfl⟩
  | compare fd i list c found serving at' =>
    obtain ⟨ci, m, run, eq⟩ := after_fine fine
    rw [eq]
    exact ⟨clients, represents_compare rep at' run, rfl⟩
  | take fd i c found serving at' =>
    have knows := rep.known fd
    rw [at'] at knows
    exact ⟨clients, rep.setLookup ⟨i, s.list, rfl, rep.begins, knows⟩, rfl⟩
  | send fd c p running found serving at' =>
    obtain ⟨ci, m, run, eq⟩ := after_fine fine
    obtain ⟨first, rep'⟩ := represents_send (c := c) rep at' run
    rw [eq]
    refine ⟨clients, rep', ?_⟩
    simp [Follows, visible, LauncherMachine.step, withClients, running, found, handlerStep, serving,
      first, State.replied, ClientListMemory.State.setLookup, State.setConnection]
  | sendNothing fd c found serving at' => cases fine

theorem initial_represents : Represents ClientListMemory.initial [] := by
  refine ⟨rfl, ⟨rfl, ?_⟩, rfl, fun busy => absurd rfl busy, fun fd => knows_start [] fd⟩
  funext b
  simp [ClientListMemory.initial, live]

theorem served_run {es : List LauncherMachine.Event} {l : LauncherMachine.State}
    (run : Runs (LauncherMachine.step config) anyStep LauncherMachine.initial es l) : Served l :=
  run.state_invariant Served initial_served
    fun _ _ _ served _ h => served_move served (LauncherMachine.step_move h)

theorem represents_run {es : List ClientListMemory.Event}
    (run : Runs (ClientListMemory.step config) Given ClientListMemory.initial es u)
    (fine : u.fault = none) : ∃ clients, Represents u clients ∧
      Runs (LauncherMachine.step config) anyStep LauncherMachine.initial (es.filterMap visible)
        (withClients clients u.launchers) := by
  induction run with
  | refl => exact ⟨[], initial_represents, .refl⟩
  | @next es t u e _ given h ih =>
    obtain ⟨before, move⟩ := step_move h
    obtain ⟨clients, rep, abstractRun⟩ := ih before
    obtain ⟨clients', rep', follows⟩ :=
      represents_move rep (served_run abstractRun) given move fine
    refine ⟨clients', rep', ?_⟩
    rw [List.filterMap_append]
    unfold Follows at follows
    cases seen : visible e with
    | none =>
      simp only [seen] at follows
      rw [List.filterMap_cons_none seen, List.filterMap_nil, List.append_nil, follows]
      exact abstractRun
    | some e' =>
      simp only [seen] at follows
      rw [List.filterMap_cons_some seen, List.filterMap_nil]
      exact .next abstractRun trivial follows

/-- What the threads do with the array is what `LauncherMachine` does with its list. -/
theorem memory_refines_list {es : List ClientListMemory.Event}
    (run : Runs (ClientListMemory.step config) Given ClientListMemory.initial es u)
    (fine : u.fault = none) :
    Runs (LauncherMachine.step config) anyStep LauncherMachine.initial (es.filterMap visible)
      (abstract u) := by
  obtain ⟨clients, rep, abstractRun⟩ := represents_run run fine
  rwa [abstract, rep.listed_eq]

/-- The second client gets its entry while the first handler reads the array. -/
theorem overlaps_refines : ∃ es u,
    Runs (ClientListMemory.step []) Given ClientListMemory.initial es u ∧ u.fault = none ∧
      u.no_clients = 2 ∧
      Runs (LauncherMachine.step []) anyStep LauncherMachine.initial (es.filterMap visible)
        (abstract u) := by
  let es := overlaps clientAddress false ++
    [.lookup 0 .take, .add .point, .lookup 0 .send, .add .fill, .add .count]
  obtain ⟨u, run, goal⟩ := exists_execute (guarded (ClientListMemory.step []) Given)
    ClientListMemory.initial es (fun u => u.fault = none ∧ u.no_clients = 2) (by decide)
  obtain ⟨fine, two⟩ := of_decide_eq_true goal
  have run := runs_of_guarded run
  exact ⟨es, u, run, fine, two, memory_refines_list run fine⟩

end Cezfuzzer.ClientListRefinement
