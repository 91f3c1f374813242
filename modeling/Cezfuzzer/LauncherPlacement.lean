import Cezfuzzer.LauncherInvariants

set_option autoImplicit false

/-!
# Which launcher starts which entity

A client launcher is told its IP and starts the entities that have it, once for every `START`
and every `RESTART`. Whatever the order of the messages, no launcher starts an entity of another
machine, and none starts an entity twice in one call of `start_entities`. Frames are whole, and
each handler serves the connection that it was created for.
-/
namespace Cezfuzzer.LauncherPlacement
open StepRuns LengthPrefix LauncherMessages LauncherClient LauncherMachine LauncherInvariants

variable {config : List EntityConfig} {s u : State} {c c' : Connection} {e : Event}

/-- What the `i`-th call of `start_entities` has launched so far. -/
def launchedIn (c : Client) (i : ℕ) : List EntityConfig :=
  (c.children.filter (fun child => child.index = i)).map Child.entity

def stillIn (c : Client) (i : ℕ) : List EntityConfig :=
  if i = c.index then remaining c.phase else []

def FromServer (peer : Address) (f : Frame) : Prop := f = .ip peer ∨ f = .start ∨ f = .restart

/-- A message that is taken for an IP is the client's own or nobody's. -/
structure Placed (config : List EntityConfig) (c : Connection) : Prop where
  frames : ∀ f ∈ c.toClient, FromServer c.peer f
  home : c.client.entities = [] ∨ c.client.entities = getEntities config c.peer.text
  calls : ∀ i, (launchedIn c.client i ++ stillIn c.client i).Sublist c.client.entities
  counted : ∀ child ∈ c.client.children, child.index ≤ c.client.index

/-! ## The children -/

theorem launchedIn_launches (c : Client) (i : ℕ) :
    launchedIn c i = ((launches c).filter (fun launch => launch.2 = i)).map Prod.fst := by
  rw [launches, List.filter_map, List.map_map]
  rfl

/-- A client whose children are the same but for their ends. -/
theorem placed_children (placed : Placed config c)
    (frames : ∀ f ∈ c'.toClient, f ∈ c.toClient) (peer : c'.peer = c.peer)
    (same : launches c'.client = launches c.client)
    (entities : c'.client.entities = c.client.entities) (index : c'.client.index = c.client.index)
    (rest : (remaining c'.client.phase).Sublist (remaining c.client.phase)) :
    Placed config c' := by
  refine ⟨fun f member => peer ▸ placed.frames f (frames f member), ?_, fun i => ?_, ?_⟩
  · rw [entities, peer]
    exact placed.home
  · have old := placed.calls i
    rw [launchedIn_launches] at old ⊢
    rw [same, entities]
    refine (List.Sublist.append_left ?_ _).trans old
    unfold stillIn
    rw [index]
    split
    · exact rest
    · exact List.Sublist.refl []
  · intro child member
    have listed : (child.entity, child.index) ∈ launches c.client := by
      rw [← same]
      exact List.mem_map.mpr ⟨child, member, rfl⟩
    obtain ⟨child₀, member₀, eq⟩ := List.mem_map.mp listed
    rw [index, ← (Prod.mk.inj eq).2]
    exact placed.counted child₀ member₀

/-! ## The moves of a client -/

/-- No child has the number of a call that only begins. -/
theorem placed_startEntities (placed : Placed config c) {toClient : List Frame}
    (frames : ∀ f ∈ toClient, f ∈ c.toClient) {processList : List ℕ} :
    Placed config { c with
      toClient := toClient
      client := startEntities { c.client with processList := processList } } := by
  refine ⟨fun f member => placed.frames f (frames f member), placed.home, fun i => ?_, ?_⟩
  · have old := placed.calls i
    rw [launchedIn_launches] at old ⊢
    by_cases now : i = c.client.index + 1
    · have none : (launches c.client).filter (fun launch => launch.2 = i) = [] := by
        refine List.filter_eq_nil_iff.mpr fun launch member => ?_
        obtain ⟨child, member', rfl⟩ := List.mem_map.mp member
        have := placed.counted child member'
        simp only [decide_eq_true_eq]
        omega
      change ((launches c.client).filter _).map _ ++ _ |>.Sublist _
      rw [none]
      simp [stillIn, startEntities, now, remaining]
    · have ended : stillIn (startEntities { c.client with processList := processList }) i = [] := by
        simp [stillIn, startEntities, now]
      rw [ended]
      exact (List.Sublist.append_left (List.nil_sublist _) _).trans old
  · intro child member
    exact (placed.counted child member).trans (Nat.le_succ _)

/-- A message that is not an IP is taken for one that no entity has. -/
theorem placed_identify (unlike : ∀ e ∈ config, e.ip ≠ START ∧ e.ip ≠ RESTART)
    (placed : Placed config c) {f : Frame} {rest : List Frame} (next : c.toClient = f :: rest)
    (unlaunched : c.client.children = []) : Placed config { c with
      toClient := rest
      client := { c.client with phase := .receiving, entities := getEntities config f.text } } := by
  have nobody : ∀ text, (∀ e ∈ config, e.ip ≠ text) → getEntities config text = [] := by
    intro text no
    exact List.filter_eq_nil_iff.mpr fun e member => by simpa using no e member
  refine ⟨fun g member => placed.frames g (next ▸ List.mem_cons_of_mem f member), ?_,
    fun i => ?_, fun child member => ?_⟩
  · rcases placed.frames f (next ▸ List.mem_cons_self) with rfl | rfl | rfl
    · exact Or.inr rfl
    · exact Or.inl (nobody START fun e member => (unlike e member).1)
    · exact Or.inl (nobody RESTART fun e member => (unlike e member).2)
  · simp [launchedIn, stillIn, unlaunched, remaining]
  · rw [unlaunched] at member
    cases member

/-- An entity that is launched goes from what is still to come to what has been launched. -/
theorem placed_fork (placed : Placed config c) {entity : EntityConfig} {rest : List EntityConfig}
    (at' : c.client.phase = .launching (entity :: rest)) {pid : ℕ} {child : Child}
    (launched : child.entity = entity) (now : child.index = c.client.index) :
    Placed config { c with client := { c.client with
      phase := .registering pid rest, children := c.client.children ++ [child] } } := by
  refine ⟨placed.frames, placed.home, fun i => ?_, fun child' member => ?_⟩
  · have old := placed.calls i
    simp only [launchedIn, stillIn, at', remaining, List.filter_append, List.map_append] at old ⊢
    by_cases this : i = c.client.index
    · subst this
      simpa [now, launched] using old
    · simpa [now, this, Ne.symm this] using old
  · rcases List.mem_append.mp member with old | new
    · exact placed.counted child' old
    · rw [List.mem_singleton.mp new, now]

theorem placed_clientMove (unlike : ∀ e ∈ config, e.ip ≠ START ∧ e.ip ≠ RESTART)
    (sound : ClientSound c.client) (placed : Placed config c)
    {e : ClientEvent} (move : ClientMove config c e c') : Placed config c' := by
  cases move with
  | identify f rest at' next =>
    exact placed_identify unlike placed next (sound.identifying at').2
  | receive f rest at' next =>
    have frames : ∀ g ∈ rest, g ∈ c.toClient := fun g member =>
      next ▸ List.mem_cons_of_mem f member
    simp only [multiplex]
    split
    · exact placed_startEntities placed frames
    · exact placed_children placed frames rfl rfl rfl rfl (List.nil_sublist _)
    · exact placed_children placed frames rfl rfl rfl rfl (List.Sublist.refl _)
  | kill pid rest at' =>
    exact placed_children placed (fun _ member => member) rfl (launches_stopProcess c.client pid)
      rfl rfl (List.nil_sublist _)
  | clear at' =>
    exact placed_startEntities placed fun _ member => member
  | fork entity rest at' => exact placed_fork placed at' rfl rfl
  | forkFails entity rest at' =>
    refine placed_children placed (fun _ member => member) rfl rfl rfl rfl ?_
    rw [at']
    exact List.sublist_cons_self entity rest
  | register pid rest child at' found =>
    refine placed_children placed (fun _ member => member) rfl
      (launches_setChild found rfl rfl) rfl rfl ?_
    rw [at']
    exact List.Sublist.refl rest
  | loop at' =>
    exact placed_children placed (fun _ member => member) rfl rfl rfl rfl (List.nil_sublist _)
  | exits pid child found | dies pid child found | reap pid child found
  | report pid child found =>
    exact placed_children placed (fun _ member => member) rfl (launches_setChild found rfl rfl) rfl
      rfl (List.Sublist.refl _)

/-! ## All interleavings -/

theorem accepted_placed (peer : Address) : Placed config (accepted peer) := by
  refine ⟨?_, Or.inl rfl, ?_, ?_⟩
  · simp [accepted]
  · intro i
    have idle : stillIn unconnected i = [] := by
      unfold stillIn
      split <;> rfl
    change ([] ++ stillIn unconnected i).Sublist []
    rw [idle]
    exact List.Sublist.refl []
  · simp [accepted, unconnected]

theorem placed_sendTo {f : Frame} (placed : Placed config c) (frame : FromServer c.peer f) :
    Placed config (sendTo c f) := by
  refine ⟨fun g member => ?_, placed.home, placed.calls, placed.counted⟩
  rcases List.mem_append.mp member with old | new
  · exact placed.frames g old
  · rw [List.mem_singleton.mp new]
    exact frame

theorem placed_setHandler (placed : Placed config c) (h : Handler) :
    Placed config (setHandler c h) :=
  ⟨placed.frames, placed.home, placed.calls, placed.counted⟩

theorem placed_setConnection {t : State} {fd : ℕ} (found : s.connections[fd]? = some c)
    (placed : ∀ (i : ℕ) (x : Connection), s.connections[i]? = some x → Placed config x)
    (same : t.connections = (s.setConnection fd c').connections) (new : Placed config c') (i : ℕ)
    (x : Connection) (hx : t.connections[i]? = some x) : Placed config x := by
  rw [same] at hx
  rcases setConnection_getElem hx with ⟨rfl, rfl⟩ | ⟨-, hx⟩
  · exact new
  · exact placed i x hx

theorem placed_move (unlike : ∀ e ∈ config, e.ip ≠ START ∧ e.ip ≠ RESTART)
    (registered : Registered s)
    (sound : ∀ (i : ℕ) (x : Connection), s.connections[i]? = some x → ClientSound x.client)
    (placed : ∀ (i : ℕ) (x : Connection), s.connections[i]? = some x → Placed config x)
    (move : Move config s e u) :
    ∀ (i : ℕ) (x : Connection), u.connections[i]? = some x → Placed config x := by
  cases move with
  | accept peer at' =>
    intro i x hx
    rcases getElem_snoc hx with hx | rfl
    · exact placed i x hx
    · exact accepted_placed peer
  | client fd e c c' found move =>
    exact placed_setConnection found placed rfl
      (placed_clientMove unlike (sound fd c found) (placed fd c found) move)
  | sendClientIP fd c ci found at' listed =>
    -- the entry of `client_list` is this client's
    have own : ci.sockfd = fd := by simpa using List.find?_some listed
    have address := registered.address ci (List.mem_of_find?_eq_some listed)
    rw [own, found, Option.map_some, Option.some.injEq] at address
    exact placed_setConnection found placed rfl
      (placed_setHandler (placed_sendTo (placed fd c found) (Or.inl (by rw [address]))) _)
  | sendStartSignal fd c found at' =>
    exact placed_setConnection found placed rfl
      (placed_setHandler (placed_sendTo (placed fd c found) (Or.inr (Or.inl rfl))) _)
  | broadcast fd rest c at' found =>
    exact placed_setConnection found placed rfl
      (placed_sendTo (placed fd c found) (Or.inr (Or.inr rfl)))
  | recvMessage fd c f rest found at' next =>
    have old := placed fd c found
    exact placed_setConnection found placed rfl ⟨old.frames, old.home, old.calls, old.counted⟩
  | createHandler fd c at' found | lock fd c found at' | storeMessage fd c found at'
  | storeFlag fd c found at' | unlock fd c found at' | wake fd c found at' =>
    exact placed_setConnection found placed rfl (placed_setHandler (placed fd c found) _)
  | _ => exact placed

theorem run_placed (unlike : ∀ e ∈ config, e.ip ≠ START ∧ e.ip ≠ RESTART) {es : List Event}
    (run : Runs (step config) anyStep initial es s) :
    ∀ (i : ℕ) (x : Connection), s.connections[i]? = some x → Placed config x := by
  have inv := run.state_invariant
    (fun s => Registered s ∧
      (∀ (i : ℕ) (x : Connection), s.connections[i]? = some x → ClientSound x.client) ∧
      ∀ (i : ℕ) (x : Connection), s.connections[i]? = some x → Placed config x)
    ⟨initial_registered, initial_sound, fun _ _ found => by simp [initial] at found⟩
    (fun _ _ _ ⟨registered, sound, placed⟩ _ hs => ⟨registered_move registered (step_move hs),
      sound_move sound (step_move hs), placed_move unlike registered sound placed (step_move hs)⟩)
  exact inv.2.2

/-- However the messages, the forks and the crashes of all machines interleave, each call of
    `start_entities` launches some of the entities of its own machine, each at most once and in
    the order of the file. -/
theorem launched_at_home (config : List EntityConfig)
    (unlike : ∀ e ∈ config, e.ip ≠ START ∧ e.ip ≠ RESTART) (es : List Event) (s : State)
    (run : Runs (step config) anyStep initial es s) (fd : ℕ) (c : Connection)
    (found : s.connections[fd]? = some c) (i : ℕ) :
    (launchedIn c.client i).Sublist (getEntities config c.peer.text) := by
  have placed := run_placed unlike run fd c found
  have call := (List.sublist_append_left _ _).trans (placed.calls i)
  rcases placed.home with none | home
  · rw [none] at call
    rw [List.sublist_nil.mp call]
    exact List.nil_sublist _
  · exact home ▸ call

def oneStarted : List Event :=
  [.main (.boot true)] ++ accepts clientAddress ++ greets 0 ++ starts 0 2

theorem oneStarted_at_home : ∃ s c, Runs (step twoEntities) anyStep initial oneStarted s ∧
    s.connections[0]? = some c ∧ launchedIn c.client 1 = twoEntities ∧
    (launchedIn c.client 1).Sublist (getEntities twoEntities c.peer.text) := by
  obtain ⟨s, hs, h⟩ := exists_execute (step twoEntities) initial oneStarted
    (fun s => s.connections[0]?.any (fun c => launchedIn c.client 1 = twoEntities))
    (by decide +kernel)
  obtain ⟨c, found, h⟩ := (Option.any_eq_true _ _).mp h
  have run := runs_of_unguarded hs
  exact ⟨s, c, run, found, of_decide_eq_true h,
    launched_at_home twoEntities (by decide) oneStarted s run 0 c found 1⟩

end Cezfuzzer.LauncherPlacement
