import Cezfuzzer.LauncherMachine

set_option autoImplicit false

/-!
# What holds in every state of the launchers

The mutex of the notification, the order in which a connection is listed and served, and
what a client knows of its own processes.
-/
namespace Cezfuzzer.LauncherInvariants
open StepRuns LengthPrefix LauncherMessages LauncherClient LauncherMachine

variable {config : List EntityConfig} {s u : State} {e : Event}

def Holds : MainLoop → Prop
  | .testing | .dispatching | .stopping | .launching | .broadcasting _ | .clearingMessage
  | .clearingFlag | .unlocking => True
  | _ => False

def Critical (h : Handler) : Prop := h = .storing ∨ h = .flagging ∨ h = .unlocking

structure Guarded (s : State) : Prop where
  main : Holds s.mainLoop → s.mutex = some .main
  handler : ∀ (fd : ℕ) (c : Connection), s.connections[fd]? = some c → Critical c.handler →
    s.mutex = some (.handler fd)
  message : ∀ (fd : ℕ) (c : Connection), s.connections[fd]? = some c →
    c.handler = .flagging → s.notificationMessage = RESTART

/-- The connection that the listen thread has not finished with. -/
def listenFd : Listen → Option ℕ
  | .accepting => none
  | .adding fd _ | .listing fd | .creating fd => some fd

/-- A client is listed before it is served, and its address is the one it came from. -/
structure Registered (s : State) : Prop where
  listed : ∀ (fd : ℕ) (c : Connection), s.connections[fd]? = some c →
    c.handler ≠ .absent → fd ∈ s.clientFdList
  creating : ∀ fd : ℕ, s.listen = .creating fd → fd ∈ s.clientFdList
  absent : ∀ (fd : ℕ) (c : Connection), s.connections[fd]? = some c →
    listenFd s.listen = some fd → c.handler = .absent
  adding : ∀ (fd : ℕ) (peer : Address), s.listen = .adding fd peer →
    (s.connections[fd]?).map Connection.peer = some peer
  address : ∀ ci ∈ s.clientList,
    (s.connections[ci.sockfd]?).map Connection.peer = some ci.clientIP

/-- A client starts without processes, and a monitor is past its `waitpid` only when the
    process has terminated. -/
structure ClientSound (c : Client) : Prop where
  identifying : c.phase = .identifying → c.processList = [] ∧ c.children = []
  registering : ∀ (pid : ℕ) (rest : List EntityConfig) (child : Child),
    c.phase = .registering pid rest → c.children[pid]? = some child → child.monitor = .uncreated
  reaped : ∀ (pid : ℕ) (child : Child), c.children[pid]? = some child →
    child.monitor = .reaped ∨ child.monitor = .sent → child.alive = false

theorem setConnection_getElem {fd i : ℕ} {c' x : Connection}
    (h : (s.setConnection fd c').connections[i]? = some x) :
    i = fd ∧ x = c' ∨ i ≠ fd ∧ s.connections[i]? = some x :=
  getElem_set h

theorem clientMove_server {c c' : Connection} {e : ClientEvent} (move : ClientMove config c e c') :
    c'.handler = c.handler ∧ c'.peer = c.peer ∧ c'.sent = c.sent := by
  cases move <;> exact ⟨rfl, rfl, rfl⟩

theorem move_client (move : Move config s e u) {i : ℕ} {x : Connection}
    (h : u.connections[i]? = some x) :
    (∃ peer, x = accepted peer) ∨
      ∃ c, s.connections[i]? = some c ∧
        (x.client = c.client ∨ ∃ e', ClientMove config c e' x) := by
  cases move with
  | accept peer =>
    rcases getElem_snoc h with h | rfl
    · exact Or.inr ⟨x, h, Or.inl rfl⟩
    · exact Or.inl ⟨peer, rfl⟩
  | client fd e c c' found move =>
    rcases setConnection_getElem h with ⟨rfl, rfl⟩ | ⟨_, h⟩
    · exact Or.inr ⟨c, found, Or.inr ⟨e, move⟩⟩
    · exact Or.inr ⟨x, h, Or.inl rfl⟩
  | createHandler fd c _ found | sendClientIP fd c _ found | sendStartSignal fd c found
  | recvMessage fd c _ _ found | lock fd c found | storeMessage fd c found
  | storeFlag fd c found | unlock fd c found | wake fd c found | broadcast fd _ c _ found =>
    rcases setConnection_getElem h with ⟨rfl, rfl⟩ | ⟨_, h⟩
    · exact Or.inr ⟨c, found, Or.inl rfl⟩
    · exact Or.inr ⟨x, h, Or.inl rfl⟩
  | _ => exact Or.inr ⟨x, h, Or.inl rfl⟩

theorem initial_guarded : Guarded initial := by
  constructor <;> simp [initial, Holds]

/-- A connection may change, but for its handler in the critical section. -/
theorem guarded_setConnection {fd : ℕ} {c c' : Connection} (guarded : Guarded s)
    (found : s.connections[fd]? = some c)
    (outside : c'.handler = c.handler ∨ ¬Critical c'.handler) :
    Guarded (s.setConnection fd c') := by
  refine ⟨guarded.main, ?_, ?_⟩
  · intro i x hx critical
    rcases setConnection_getElem hx with ⟨rfl, rfl⟩ | ⟨-, old⟩
    · exact guarded.handler i c found (outside.elim (fun same => same ▸ critical) (absurd critical))
    · exact guarded.handler i x old critical
  · intro i x hx flagging
    have critical : Critical x.handler := Or.inr (Or.inl flagging)
    rcases setConnection_getElem hx with ⟨rfl, rfl⟩ | ⟨-, old⟩
    · exact guarded.message i c found (outside.elim (fun same => same ▸ flagging) (absurd critical))
    · exact guarded.message i x old flagging

/-- While the mutex is free nobody is inside. -/
theorem Guarded.nobody (guarded : Guarded s) (free : s.mutex = none) :
    ¬Holds s.mainLoop ∧
      ∀ (fd : ℕ) (c : Connection), s.connections[fd]? = some c → ¬Critical c.handler := by
  refine ⟨fun holds => ?_, fun fd c found critical => ?_⟩
  · have := guarded.main holds
    rw [free] at this
    cases this
  · have := guarded.handler fd c found critical
    rw [free] at this
    cases this

/-- A handler that is inside is alone there. -/
theorem Guarded.alone {fd : ℕ} {c : Connection} (guarded : Guarded s)
    (found : s.connections[fd]? = some c) (critical : Critical c.handler) :
    ¬Holds s.mainLoop ∧ ∀ (i : ℕ) (x : Connection), i ≠ fd → s.connections[i]? = some x →
      ¬Critical x.handler := by
  have mine := guarded.handler fd c found critical
  refine ⟨fun holds => ?_, fun i x other hx inside => ?_⟩
  · cases mine.symm.trans (guarded.main holds)
  · cases mine.symm.trans (guarded.handler i x hx inside)
    exact other rfl

/-- While the main loop is inside no handler is. -/
theorem Guarded.main_alone (guarded : Guarded s) (holds : Holds s.mainLoop) (fd : ℕ)
    (c : Connection) (found : s.connections[fd]? = some c) : ¬Critical c.handler :=
  fun critical => (guarded.alone found critical).1 holds

/-- Whoever takes the mutex finds it free, and nobody else is inside. -/
theorem guarded_move (guarded : Guarded s) (move : Move config s e u) : Guarded u := by
  obtain ⟨main, handler, message⟩ := id guarded
  cases move with
  | client fd e c c' found move =>
    exact guarded_setConnection guarded found (Or.inl (clientMove_server move).1)
  | sendClientIP fd c ci found at' listed | sendStartSignal fd c found at' | wake fd c found at' =>
    exact guarded_setConnection guarded found (Or.inr (by simp [setHandler, Critical]))
  | recvMessage fd c f rest found at' next =>
    refine guarded_setConnection guarded found (Or.inr ?_)
    by_cases crash : f = .crash <;> simp [crash, Critical]
  | createHandler fd c at' found =>
    have outside : Guarded (s.setConnection fd (setHandler c .sendingIP)) :=
      guarded_setConnection guarded found (Or.inr (by simp [setHandler, Critical]))
    exact ⟨outside.main, outside.handler, outside.message⟩
  | broadcast fd rest c at' found =>
    have outside : Guarded (s.setConnection fd (sendTo c .restart)) :=
      guarded_setConnection guarded found (Or.inl rfl)
    exact ⟨fun _ => main (by simp [at', Holds]), outside.handler, outside.message⟩
  | accept peer at' =>
    refine ⟨main, ?_, ?_⟩
    · intro fd c found critical
      rcases getElem_snoc found with found | rfl
      · exact handler fd c found critical
      · simp [accepted, Critical] at critical
    · intro fd c found flagging
      rcases getElem_snoc found with found | rfl
      · exact message fd c found flagging
      · cases flagging
  | lock fd c found at' free =>
    obtain ⟨idle, outside⟩ := guarded.nobody free
    refine ⟨fun holds => absurd holds idle, ?_, ?_⟩
    · intro i x hx critical
      rcases setConnection_getElem hx with ⟨rfl, rfl⟩ | ⟨-, old⟩
      · rfl
      · exact absurd critical (outside i x old)
    · intro i x hx flagging
      rcases setConnection_getElem hx with ⟨rfl, rfl⟩ | ⟨-, old⟩
      · cases flagging
      · exact absurd (Or.inr (Or.inl flagging)) (outside i x old)
  | storeMessage fd c found at' =>
    have mine := handler fd c found (Or.inl at')
    refine ⟨main, ?_, fun _ _ _ _ => rfl⟩
    intro i x hx critical
    rcases setConnection_getElem hx with ⟨rfl, -⟩ | ⟨-, old⟩
    · exact mine
    · exact handler i x old critical
  | storeFlag fd c found at' =>
    have mine := handler fd c found (Or.inr (Or.inl at'))
    refine ⟨main, ?_, ?_⟩
    · intro i x hx critical
      rcases setConnection_getElem hx with ⟨rfl, -⟩ | ⟨-, old⟩
      · exact mine
      · exact handler i x old critical
    · intro i x hx flagging
      rcases setConnection_getElem hx with ⟨rfl, rfl⟩ | ⟨-, old⟩
      · cases flagging
      · exact message i x old flagging
  | unlock fd c found at' =>
    obtain ⟨idle, outside⟩ := guarded.alone found (Or.inr (Or.inr at'))
    refine ⟨fun holds => absurd holds idle, ?_, ?_⟩
    · intro i x hx critical
      rcases setConnection_getElem hx with ⟨rfl, rfl⟩ | ⟨other, old⟩
      · simp [setHandler, Critical] at critical
      · exact absurd critical (outside i x other old)
    · intro i x hx flagging
      rcases setConnection_getElem hx with ⟨rfl, rfl⟩ | ⟨-, old⟩
      · cases flagging
      · exact message i x old flagging
  | mainLock at' free | mainWake at' free =>
    exact ⟨fun _ => rfl, fun fd c found critical =>
      absurd critical ((guarded.nobody free).2 fd c found), message⟩
  | wait at' clear | mainUnlock at' =>
    refine ⟨fun holds => holds.elim, fun fd c found critical => absurd critical ?_, message⟩
    exact guarded.main_alone (by simp [at', Holds]) fd c found
  | clearMessage at' =>
    refine ⟨fun _ => main (by simp [at', Holds]), handler, fun fd c found flagging => ?_⟩
    exact absurd (Or.inr (Or.inl flagging))
      (guarded.main_alone (by simp [at', Holds]) fd c found)
  | boot ok at' | ignore at' other | abort at' missing =>
    exact ⟨fun holds => holds.elim, handler, message⟩
  | notified at' set | dispatch at' restart | stopProxy pid at' running | launchProxy ok at'
  | endBroadcast at' | clearFlag at' =>
    exact ⟨fun _ => main (by simp [at', Holds]), handler, message⟩
  | addNewClient fd peer at' | pushClientFd fd at' => exact ⟨main, handler, message⟩

theorem peer_setConnection {fd fd' : ℕ} {c c' : Connection} {peer : Address}
    (found : s.connections[fd]? = some c) (same : c'.peer = c.peer)
    (h : (s.connections[fd']?).map Connection.peer = some peer) :
    ((s.setConnection fd c').connections[fd']?).map Connection.peer = some peer := by
  by_cases at' : fd = fd'
  · subst at'
    rw [found, Option.map_some] at h
    have lt := (List.getElem?_eq_some_iff.mp found).1
    rw [State.setConnection, List.getElem?_set_self lt, Option.map_some, same, h]
  · rwa [State.setConnection, List.getElem?_set_ne at']

/-- Connections are never taken away, and each keeps the address that it came from. -/
theorem move_peer (move : Move config s e u) {fd : ℕ} {peer : Address}
    (h : (s.connections[fd]?).map Connection.peer = some peer) :
    (u.connections[fd]?).map Connection.peer = some peer := by
  cases move with
  | accept peer' at' =>
    obtain ⟨c, found, rfl⟩ := Option.map_eq_some_iff.mp h
    have lt := (List.getElem?_eq_some_iff.mp found).1
    rw [List.getElem?_append_left lt, found, Option.map_some]
  | client fd' e c c' found move => exact peer_setConnection found (clientMove_server move).2.1 h
  | createHandler fd' c _ found | sendClientIP fd' c _ found | sendStartSignal fd' c found
  | recvMessage fd' c _ _ found | lock fd' c found | storeMessage fd' c found
  | storeFlag fd' c found | unlock fd' c found | wake fd' c found | broadcast fd' _ c _ found =>
    exact peer_setConnection found rfl h
  | _ => exact h

/-- Only `createHandler` gives a connection a handler. -/
theorem move_handler (move : Move config s e u) {i : ℕ} {x : Connection}
    (h : u.connections[i]? = some x) (served : x.handler ≠ .absent) :
    ∃ c, s.connections[i]? = some c ∧
      (c.handler ≠ .absent ∨ s.listen = .creating i ∧ u.listen = .accepting) := by
  cases move with
  | accept peer at' =>
    rcases getElem_snoc h with h | rfl
    · exact ⟨x, h, Or.inl served⟩
    · exact absurd rfl served
  | client fd e c c' found move =>
    rcases setConnection_getElem h with ⟨rfl, rfl⟩ | ⟨_, h⟩
    · exact ⟨c, found, Or.inl ((clientMove_server move).1 ▸ served)⟩
    · exact ⟨x, h, Or.inl served⟩
  | createHandler fd c at' found =>
    rcases setConnection_getElem h with ⟨rfl, -⟩ | ⟨_, h⟩
    · exact ⟨c, found, Or.inr ⟨at', rfl⟩⟩
    · exact ⟨x, h, Or.inl served⟩
  | sendClientIP fd c _ found at' | sendStartSignal fd c found at'
  | recvMessage fd c _ _ found at' | lock fd c found at' | storeMessage fd c found at'
  | storeFlag fd c found at' | unlock fd c found at' | wake fd c found at' =>
    rcases setConnection_getElem h with ⟨rfl, -⟩ | ⟨_, h⟩
    · exact ⟨c, found, Or.inl (by rw [at']; nofun)⟩
    · exact ⟨x, h, Or.inl served⟩
  | broadcast fd _ c _ found =>
    rcases setConnection_getElem h with ⟨rfl, rfl⟩ | ⟨_, h⟩
    · exact ⟨c, found, Or.inl served⟩
    · exact ⟨x, h, Or.inl served⟩
  | _ => exact ⟨x, h, Or.inl served⟩

theorem move_clientFdList (move : Move config s e u) : s.clientFdList ⊆ u.clientFdList := by
  cases move with
  | pushClientFd fd at' => exact List.subset_append_left _ _
  | _ => exact List.Subset.refl _

/-- The listen thread goes through its four steps with the connection that it has accepted. -/
theorem move_listen (move : Move config s e u) :
    u.listen = s.listen ∨ u.listen = .accepting ∨
      (∃ peer, u.listen = .adding s.connections.length peer ∧
        u.connections = s.connections ++ [accepted peer]) ∨
      ∃ fd, listenFd s.listen = some fd ∧
        (u.listen = .listing fd ∨ u.listen = .creating fd ∧ fd ∈ u.clientFdList) := by
  cases move with
  | accept peer at' => exact Or.inr (Or.inr (Or.inl ⟨peer, rfl, rfl⟩))
  | addNewClient fd peer at' =>
    exact Or.inr (Or.inr (Or.inr ⟨fd, by rw [at']; rfl, Or.inl rfl⟩))
  | pushClientFd fd at' =>
    exact Or.inr (Or.inr (Or.inr ⟨fd, by rw [at']; rfl, Or.inr ⟨rfl, by simp⟩⟩))
  | createHandler fd c at' found => exact Or.inr (Or.inl rfl)
  | _ => exact Or.inl rfl

theorem move_listenFd (move : Move config s e u) {fd : ℕ}
    (listening : listenFd u.listen = some fd) :
    listenFd s.listen = some fd ∨ s.connections.length = fd ∧ fd < u.connections.length := by
  rcases move_listen move with same | h | ⟨peer, h, new⟩ | ⟨fd', old, h | ⟨h, -⟩⟩
  · exact Or.inl (same ▸ listening)
  · rw [h] at listening
    cases listening
  · rw [h] at listening
    obtain rfl : s.connections.length = fd := Option.some.inj listening
    exact Or.inr ⟨rfl, by simp [new]⟩
  · rw [h] at listening
    exact Or.inl (old.trans listening)
  · rw [h] at listening
    exact Or.inl (old.trans listening)

theorem move_clientList (move : Move config s e u) {ci : ClientInfo} (member : ci ∈ u.clientList) :
    ci ∈ s.clientList ∨ s.listen = .adding ci.sockfd ci.clientIP := by
  cases move with
  | addNewClient fd peer at' =>
    rcases List.mem_append.mp member with old | new
    · exact Or.inl old
    · obtain rfl := List.mem_singleton.mp new
      exact Or.inr at'
  | _ => exact Or.inl member

theorem initial_registered : Registered initial := by
  constructor <;> simp [initial, listenFd]

theorem registered_move (registered : Registered s) (move : Move config s e u) :
    Registered u := by
  constructor
  case listed =>
    intro fd x found served
    obtain ⟨c, found, old | ⟨creating, -⟩⟩ := move_handler move found served
    · exact move_clientFdList move (registered.listed fd c found old)
    · exact move_clientFdList move (registered.creating fd creating)
  case creating =>
    intro fd at'
    rcases move_listen move with same | h | ⟨peer, h, -⟩ | ⟨fd', -, h | ⟨h, listed⟩⟩
    · exact move_clientFdList move (registered.creating fd (same ▸ at'))
    · cases h.symm.trans at'
    · cases h.symm.trans at'
    · cases h.symm.trans at'
    · cases h.symm.trans at'
      exact listed
  case absent =>
    intro fd x found listening
    by_contra served
    obtain ⟨c, found', old | ⟨-, at'⟩⟩ := move_handler move found served
    · rcases move_listenFd move listening with same | ⟨rfl, -⟩
      · exact old (registered.absent fd c found' same)
      · simp at found'
    · rw [at'] at listening
      cases listening
  case adding =>
    intro fd peer at'
    rcases move_listen move with same | h | ⟨peer', h, new⟩ | ⟨fd', -, h | ⟨h, -⟩⟩
    · exact move_peer move (registered.adding fd peer (same ▸ at'))
    · cases h.symm.trans at'
    · cases h.symm.trans at'
      rw [new, List.getElem?_concat_length]
      rfl
    · cases h.symm.trans at'
    · cases h.symm.trans at'
  case address =>
    intro ci member
    rcases move_clientList move member with old | at'
    · exact move_peer move (registered.address ci old)
    · exact move_peer move (registered.adding _ _ at')

theorem unconnected_sound : ClientSound unconnected := by
  constructor <;> simp [unconnected]

/-- A process may end, and its monitor go on, once it is registered. -/
theorem clientSound_setChild {c : Client} {pid : ℕ} {child child' : Child} (sound : ClientSound c)
    (found : c.children[pid]? = some child)
    (uncreated : child.monitor = .uncreated → child'.monitor = .uncreated)
    (ended : child'.monitor = .reaped ∨ child'.monitor = .sent → child'.alive = false) :
    ClientSound (c.setChild pid child') := by
  refine ⟨fun at' => ?_, fun pid' rest x at' hx => ?_, fun pid' x hx past => ?_⟩
  · obtain ⟨list, none⟩ := sound.identifying at'
    exact ⟨list, by rw [Client.setChild, none, List.set_nil]⟩
  · rcases getElem_set hx with ⟨rfl, rfl⟩ | ⟨-, old⟩
    · exact uncreated (sound.registering pid' rest child at' found)
    · exact sound.registering pid' rest x at' old
  · rcases getElem_set hx with ⟨rfl, rfl⟩ | ⟨-, old⟩
    · exact ended past
    · exact sound.reaped pid' x old past

/-- A client in a phase in which it knows all its monitors. -/
theorem clientSound_phase {c : Client} (identified : c.phase ≠ .identifying)
    (registered : ∀ pid rest, c.phase ≠ .registering pid rest)
    (reaped : ∀ (pid : ℕ) (child : Child), c.children[pid]? = some child →
      child.monitor = .reaped ∨ child.monitor = .sent → child.alive = false) : ClientSound c :=
  ⟨fun at' => absurd at' identified, fun pid rest _ at' => absurd at' (registered pid rest),
    reaped⟩

theorem clientSound_move {c c' : Connection} {e : ClientEvent} (sound : ClientSound c.client)
    (move : ClientMove config c e c') : ClientSound c'.client := by
  have reaped := sound.reaped
  cases move with
  | receive f rest at' next =>
    simp only [multiplex]
    split
    · exact clientSound_phase (by simp [startEntities]) (by simp [startEntities]) reaped
    · exact clientSound_phase (by simp) (by simp) reaped
    · exact sound
  | kill pid rest at' =>
    refine clientSound_phase (by simp) (by simp) ?_
    intro pid' child found ended
    rw [List.getElem?_modify] at found
    obtain ⟨child₀, found₀, rfl⟩ := Option.map_eq_some_iff.mp found
    have := reaped pid' child₀ found₀
    split at ended <;> simp_all [stopProcess]
  | fork entity rest at' =>
    refine ⟨fun at' => ?_, fun pid rest' child at' found => ?_, fun pid child found ended => ?_⟩
    · cases at'
    · cases at'
      rw [List.getElem?_concat_length] at found
      cases found
      rfl
    · rcases getElem_snoc found with old | rfl
      · exact reaped pid child old ended
      · rcases ended with ended | ended <;> cases ended
  | register pid rest child at' found =>
    refine clientSound_phase (by simp) (by simp) ?_
    intro pid' x hx ended
    rcases getElem_set hx with ⟨rfl, rfl⟩ | ⟨-, old⟩
    · rcases ended with ended | ended <;> cases ended
    · exact reaped pid' x old ended
  | identify f rest at' next | forkFails entity rest at' | loop at' =>
    exact clientSound_phase (by simp) (by simp) reaped
  | clear at' => exact clientSound_phase (by simp [startEntities]) (by simp [startEntities]) reaped
  | exits pid child found | dies pid child found =>
    exact clientSound_setChild sound found id (fun _ => rfl)
  | reap pid child found dead waiting =>
    exact clientSound_setChild sound found (fun new => by rw [waiting] at new; cases new)
      (fun _ => dead)
  | report pid child found monitor =>
    exact clientSound_setChild sound found (fun new => by rw [monitor] at new; cases new)
      (fun _ => reaped pid child found (Or.inl monitor))

theorem initial_sound (fd : ℕ) (c : Connection) (found : initial.connections[fd]? = some c) :
    ClientSound c.client := by
  simp [initial] at found

theorem sound_move
    (sound : ∀ (fd : ℕ) (c : Connection), s.connections[fd]? = some c → ClientSound c.client)
    (move : Move config s e u) (fd : ℕ) (c : Connection) (found : u.connections[fd]? = some c) :
    ClientSound c.client := by
  rcases move_client move found with ⟨peer, rfl⟩ | ⟨c₀, found₀, same | ⟨e', move'⟩⟩
  · exact unconnected_sound
  · exact same ▸ sound fd c₀ found₀
  · exact clientSound_move (sound fd c₀ found₀) move'

/-! ## What a client has launched -/

/-- Every process with the call of `start_entities` that forked it. -/
def launches (c : Client) : List (EntityConfig × ℕ) :=
  c.children.map (fun child => (child.entity, child.index))

/-- What the call that is going on has still to launch. -/
def remaining : Phase → List EntityConfig
  | .launching rest | .registering _ rest => rest
  | _ => []

theorem launches_setChild {c : Client} {pid : ℕ} {child child' : Child}
    (found : c.children[pid]? = some child) (entity : child'.entity = child.entity)
    (index : child'.index = child.index) : launches (c.setChild pid child') = launches c := by
  have entry : (launches c)[pid]? = some (child.entity, child.index) := by
    rw [launches, List.getElem?_map, found, Option.map_some]
  obtain ⟨lt, get⟩ := List.getElem?_eq_some_iff.mp entry
  simp only [launches, Client.setChild, List.map_set, entity, index] at get ⊢
  rw [← get, List.set_getElem_self]

theorem launches_stopProcess (c : Client) (pid : ℕ) :
    (c.children.modify pid stopProcess).map (fun child => (child.entity, child.index)) =
      launches c := by
  refine List.ext_getElem? fun i => ?_
  rw [launches, List.getElem?_map, List.getElem?_map, List.getElem?_modify]
  cases c.children[i]? with
  | none => rfl
  | some child =>
    simp only [Option.map_some]
    split <;> rfl

end Cezfuzzer.LauncherInvariants
