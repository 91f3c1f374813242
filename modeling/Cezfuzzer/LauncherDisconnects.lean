import Cezfuzzer.LauncherHandshake

set_option autoImplicit false

/-!
# Clients that disconnect

The launchers, with clients that close their connections. The server never takes a client off
`client_fd_list`; a `send` to a client that has gone fails, and `send_message` then exits. The
listen thread may also grow the list under the range `for` of a broadcast, without a lock.
-/
namespace Cezfuzzer.LauncherDisconnects
open StepRuns LauncherMessages LauncherClient LauncherInvariants
open LauncherMachine hiding State Event initial step
open LauncherHandshake (Started nextClient)

/-- `told` are the clients to which the last broadcast has sent `RESTART`, and `toGone` those
    that a message was sent to after they had gone. -/
structure State where
  server : LauncherMachine.State
  gone : List ℕ
  exited : Bool
  toGone : List ℕ
  told : List ℕ
  deriving DecidableEq

def initial : State := ⟨LauncherMachine.initial, [], false, [], []⟩

/-- With a `reset`, what the client has sent and the server has not received is lost. -/
inductive Event where
  | disconnect (fd : ℕ) (reset : Bool)
  | launcher (e : LauncherMachine.Event)
  deriving DecidableEq

/-- The client that the server sends a message to in a step. -/
def sendsTo (s : LauncherMachine.State) : LauncherMachine.Event → Option ℕ
  | .handler fd .sendClientIP | .handler fd .sendStartSignal => some fd
  | .main .broadcast => nextClient s.mainLoop
  | _ => none

def State.hangUp (s : State) (fd : ℕ) (reset : Bool) : Option State :=
  match s.server.connections[fd]? with
  | none => none
  | some c =>
    if fd ∈ s.gone then none
    else some { s with
      gone := s.gone ++ [fd]
      server := if reset then s.server.setConnection fd { c with toServer := [] } else s.server }

/-- `recv_message` returns -1 at the end of the stream, and the handler goes on with an empty
    buffer. -/
def State.recvClosed (s : State) (fd : ℕ) : Option State :=
  match s.server.connections[fd]? with
  | none => none
  | some c =>
    if fd ∈ s.gone ∧ c.handler = .receiving ∧ c.toServer = [] then
      some { s with server := s.server.setConnection fd (setHandler c .sleeping) }
    else none

/-- A step of the launchers that sends to nobody who has gone. -/
def State.follow (s : State) (e : LauncherMachine.Event) (t : LauncherMachine.State) : State :=
  match e with
  | .main (.launchProxy _) => { s with server := t, told := [] }
  | .main .broadcast =>
    { s with server := t, told := s.told ++ (nextClient s.server.mainLoop).toList }
  | _ => { s with server := t }

def State.serverStep (config : List EntityConfig) (s : State) (e : LauncherMachine.Event) :
    Option State :=
  match LauncherMachine.step config s.server e with
  | none => none
  | some t => match sendsTo s.server e with
    | none => some (s.follow e t)
    | some fd =>
      if fd ∈ s.gone then some { s with exited := true, toGone := s.toGone ++ [fd] }
      else some (s.follow e t)

def step (config : List EntityConfig) (s : State) : Event → Option State
  | .disconnect fd reset => s.hangUp fd reset
  | .launcher (.client fd e) =>
    if fd ∈ s.gone then none else s.serverStep config (.client fd e)
  | .launcher (.handler fd .recvMessage) =>
    if s.exited then none
    else (s.serverStep config (.handler fd .recvMessage)).or (s.recvClosed fd)
  | .launcher e => if s.exited then none else s.serverStep config e

/-- The clients that the broadcast has still to reach. -/
def toReach : MainLoop → List ℕ
  | .broadcasting rest => rest
  | _ => []

def Broadcasting : MainLoop → Prop
  | .broadcasting _ => True
  | _ => False

instance : DecidablePred Broadcasting
  | .broadcasting _ => .isTrue trivial
  | .booting | .locking | .testing | .waiting | .dispatching | .stopping | .launching
  | .clearingMessage | .clearingFlag | .unlocking | .aborted => .isFalse id

/-- The client that has been accepted and is not in `client_fd_list` yet. -/
def unlisted : Listen → Option ℕ
  | .adding fd _ | .listing fd => some fd
  | _ => none

/-- A client goes only after its `START`, not while a broadcast has still to reach it, and not
    if there is a restart after that. None comes in during a broadcast: `client_fd_list` is
    complete when it begins, and nothing is pushed before it has ended. The proxy is there when
    it is to be stopped. -/
def Undisturbed (s : State) : Event → Prop
  | .disconnect fd _ => fd ∉ toReach s.server.mainLoop ∧
    ∀ c ∈ s.server.connections[fd]?, Started c.handler
  | .launcher (.main (.launchProxy _)) =>
    (∀ fd ∈ s.server.clientFdList, fd ∉ s.gone) ∧ unlisted s.server.listen = none
  | .launcher (.listen (.accept _)) | .launcher (.listen .pushClientFd) =>
    ¬ Broadcasting s.server.mainLoop
  | .launcher (.main .stopProxy) => s.server.proxyPid ≠ none
  | _ => True

instance (s : State) (e : Event) : Decidable (Undisturbed s e) := by
  unfold Undisturbed
  split <;> infer_instance

/-- The server runs and has sent nothing to a client that had gone. When a broadcast has sent
    its last message, all connected clients have been sent `RESTART` in it, and until then it
    can always go on. -/
structure Unharmed (s : State) : Prop where
  alive : s.exited = false ∧ s.server.mainLoop ≠ .aborted
  present : s.toGone = []
  restarted : s.server.mainLoop = .broadcasting [] →
    ∀ fd < s.server.connections.length, fd ∉ s.gone → fd ∈ s.told
  proceeds : ∀ fd ∈ toReach s.server.mainLoop, ∃ c, s.server.connections[fd]? = some c

inductive Step (config : List EntityConfig) (s : State) : Event → State → Prop where
  | hangUp (fd : ℕ) (reset : Bool) (c : Connection)
      (found : s.server.connections[fd]? = some c) (here : fd ∉ s.gone) :
      Step config s (.disconnect fd reset) { s with
        gone := s.gone ++ [fd]
        server := if reset then s.server.setConnection fd { c with toServer := [] } else s.server }
  | closed (fd : ℕ) (c : Connection) (found : s.server.connections[fd]? = some c)
      (gone : fd ∈ s.gone) (at' : c.handler = .receiving) (empty : c.toServer = []) :
      Step config s (.launcher (.handler fd .recvMessage))
        { s with server := s.server.setConnection fd (setHandler c .sleeping) }
  | fails (e : LauncherMachine.Event) (t : LauncherMachine.State) (fd : ℕ)
      (move : Move config s.server e t) (target : sendsTo s.server e = some fd)
      (gone : fd ∈ s.gone) :
      Step config s (.launcher e) { s with exited := true, toGone := s.toGone ++ [fd] }
  | follows (e : LauncherMachine.Event) (t : LauncherMachine.State)
      (move : Move config s.server e t)
      (target : ∀ fd, sendsTo s.server e = some fd → fd ∉ s.gone) :
      Step config s (.launcher e) (s.follow e t)

variable {config : List EntityConfig} {s u : State} {e : Event}

theorem serverStep_step {e : LauncherMachine.Event} (h : s.serverStep config e = some u) :
    Step config s (.launcher e) u := by
  unfold State.serverStep at h
  split at h
  · cases h
  · rename_i t ht
    have move := step_move ht
    split at h
    · rename_i silent
      cases h
      exact .follows e t move (by simp [silent])
    · rename_i fd target
      split at h
      · rename_i gone
        cases h
        exact .fails e t fd move target gone
      · rename_i here
        cases h
        refine .follows e t move fun fd' target' => ?_
        rw [target] at target'
        cases target'
        exact here

theorem step_step (h : step config s e = some u) : Step config s e u := by
  unfold step at h
  split at h
  · unfold State.hangUp at h
    split at h
    · cases h
    · rename_i c found
      split at h
      · cases h
      · rename_i here
        cases h
        exact .hangUp _ _ c found here
  · split at h
    · cases h
    · exact serverStep_step h
  · split at h
    · cases h
    · rcases Option.or_eq_some_iff.mp h with h | ⟨-, h⟩
      · exact serverStep_step h
      · unfold State.recvClosed at h
        split at h
        · cases h
        · rename_i c found
          split at h
          · rename_i closed
            cases h
            exact .closed _ c found closed.1 closed.2.1 closed.2.2
          · cases h
  · split at h
    · cases h
    · exact serverStep_step h

/-- The handler of a client is past its first two messages. -/
def Past (s : LauncherMachine.State) (fd : ℕ) : Prop :=
  ∃ c, s.connections[fd]? = some c ∧ Started c.handler

/-- Only accepted connections are listed and sent to. -/
structure Placed (s : LauncherMachine.State) : Prop where
  listening : ∀ fd ∈ listenFd s.listen, fd < s.connections.length
  listed : ∀ fd ∈ s.clientFdList, fd < s.connections.length
  reaching : ∀ fd ∈ toReach s.mainLoop, fd < s.connections.length

/-- Every accepted client is listed, but for the one that is being taken up. -/
def Covered (s : LauncherMachine.State) : Prop :=
  ∀ fd < s.connections.length, fd ∈ s.clientFdList ∨ unlisted s.listen = some fd

/-- No client that has gone is due a message, and a broadcast goes to all. -/
structure Sound (s : State) : Prop where
  registered : Registered s.server
  placed : Placed s.server
  covered : Covered s.server
  alive : s.exited = false
  running : s.server.mainLoop ≠ .aborted
  present : s.toGone = []
  past : ∀ fd ∈ s.gone, Past s.server fd
  reachable : ∀ fd ∈ toReach s.server.mainLoop, fd ∉ s.gone
  settled : Broadcasting s.server.mainLoop → unlisted s.server.listen = none ∧
    ∀ fd < s.server.connections.length, fd ∈ s.told ∨ fd ∈ toReach s.server.mainLoop

theorem initial_sound : Sound initial := by
  refine ⟨initial_registered, ⟨?_, ?_, ?_⟩, ?_, ?_, ?_, ?_, ?_, ?_, ?_⟩ <;>
    simp [initial, LauncherMachine.initial, toReach, listenFd, Broadcasting, Covered]

theorem move_length {s t : LauncherMachine.State} {e : LauncherMachine.Event}
    (move : Move config s e t) : s.connections.length ≤ t.connections.length := by
  cases move <;> simp [LauncherMachine.State.setConnection, launchEntity]

theorem move_listed {s t : LauncherMachine.State} {e : LauncherMachine.Event}
    (move : Move config s e t) (fd : ℕ) (listed : fd ∈ t.clientFdList) :
    fd ∈ s.clientFdList ∨ fd ∈ listenFd s.listen := by
  cases move with
  | pushClientFd fd' at' =>
    rcases List.mem_append.mp listed with old | new
    · exact Or.inl old
    · obtain rfl := List.mem_singleton.mp new
      exact Or.inr (by rw [at']; rfl)
  | _ => exact Or.inl listed

theorem move_toReach {s t : LauncherMachine.State} {e : LauncherMachine.Event}
    (move : Move config s e t) :
    ((∀ ok, e ≠ .main (.launchProxy ok)) ∧ e ≠ .main .broadcast ∧
      toReach t.mainLoop = toReach s.mainLoop) ∨
      (∃ ok, e = .main (.launchProxy ok)) ∧ toReach t.mainLoop = s.clientFdList ∨
      ∃ fd rest, e = .main .broadcast ∧ s.mainLoop = .broadcasting (fd :: rest) ∧
        t.mainLoop = .broadcasting rest := by
  cases move with
  | launchProxy ok at' => exact Or.inr (Or.inl ⟨⟨ok, rfl⟩, rfl⟩)
  | broadcast fd rest c at' found => exact Or.inr (Or.inr ⟨fd, rest, rfl, at', rfl⟩)
  | _ => simp_all [toReach, LauncherMachine.State.setConnection]

theorem move_broadcasting {s t : LauncherMachine.State} {e : LauncherMachine.Event}
    (move : Move config s e t) (broadcasting : Broadcasting t.mainLoop) :
    (∃ ok, e = .main (.launchProxy ok)) ∨ Broadcasting s.mainLoop := by
  cases move with
  | launchProxy ok at' => exact Or.inl ⟨ok, rfl⟩
  | broadcast fd rest c at' found => exact Or.inr (by rw [at']; trivial)
  | _ => first | exact Or.inr broadcasting | exact broadcasting.elim

/-- Only `accept` and `push_back` change who is connected and who is listed. -/
theorem move_clients {s t : LauncherMachine.State} {e : LauncherMachine.Event}
    (move : Move config s e t) :
    (∃ peer, e = .listen (.accept peer) ∧ unlisted s.listen = none ∧
      unlisted t.listen = some s.connections.length ∧ t.clientFdList = s.clientFdList ∧
      t.connections.length = s.connections.length + 1) ∨
    (∃ fd, e = .listen .pushClientFd ∧ unlisted s.listen = some fd ∧
      t.clientFdList = s.clientFdList ++ [fd] ∧
      t.connections.length = s.connections.length) ∨
    unlisted t.listen = unlisted s.listen ∧ t.clientFdList = s.clientFdList ∧
      t.connections.length = s.connections.length := by
  cases move with
  | accept peer at' =>
    exact Or.inl ⟨peer, rfl, by rw [at']; rfl, rfl, rfl, List.length_append⟩
  | pushClientFd fd at' => exact Or.inr (Or.inl ⟨fd, rfl, by rw [at']; rfl, rfl, rfl⟩)
  | addNewClient fd peer at' => exact Or.inr (Or.inr ⟨by rw [at']; rfl, rfl, rfl⟩)
  | createHandler fd c at' found =>
    exact Or.inr (Or.inr ⟨by rw [at']; rfl, rfl, List.length_set⟩)
  | sendClientIP | sendStartSignal | recvMessage | lock | storeMessage | storeFlag | unlock
  | wake | broadcast | client => exact Or.inr (Or.inr ⟨rfl, rfl, List.length_set⟩)
  | _ => exact Or.inr (Or.inr ⟨rfl, rfl, rfl⟩)

theorem covered_move {s t : LauncherMachine.State} {e : LauncherMachine.Event}
    (covered : Covered s) (move : Move config s e t) : Covered t := by
  intro fd bound
  rcases move_clients move with ⟨peer, -, idle, new, list, length⟩ |
    ⟨fd', -, listing, list, length⟩ | ⟨same, list, length⟩
  · rw [list, new]
    by_cases old : fd < s.connections.length
    · have listed := covered fd old
      rw [idle] at listed
      exact Or.inl (listed.resolve_right nofun)
    · exact Or.inr (congrArg some (by omega))
  · rw [list]
    rcases covered fd (length ▸ bound) with listed | own
    · exact Or.inl (List.mem_append_left _ listed)
    · obtain rfl := Option.some.inj (listing.symm.trans own)
      exact Or.inl (List.mem_append_right _ List.mem_cons_self)
  · rw [list, same]
    exact covered fd (length ▸ bound)

theorem placed_move {s t : LauncherMachine.State} {e : LauncherMachine.Event} (placed : Placed s)
    (move : Move config s e t) : Placed t := by
  have grows := move_length move
  refine ⟨fun fd listening => ?_, fun fd listed => ?_, fun fd rest => ?_⟩
  · rcases move_listenFd move listening with old | ⟨-, new⟩
    · exact lt_of_lt_of_le (placed.listening fd old) grows
    · exact new
  · rcases move_listed move fd listed with old | new
    · exact lt_of_lt_of_le (placed.listed fd old) grows
    · exact lt_of_lt_of_le (placed.listening fd new) grows
  · rcases move_toReach move with ⟨-, -, same⟩ | ⟨-, listed⟩ | ⟨fd', rest', -, at', after⟩
    · exact lt_of_lt_of_le (placed.reaching fd (same ▸ rest)) grows
    · exact lt_of_lt_of_le (placed.listed fd (listed ▸ rest)) grows
    · rw [after] at rest
      refine lt_of_lt_of_le (placed.reaching fd ?_) grows
      rw [at']
      exact List.mem_cons_of_mem _ rest

theorem move_aborted {s t : LauncherMachine.State} {e : LauncherMachine.Event}
    (move : Move config s e t) (aborted : t.mainLoop = .aborted) :
    s.mainLoop = .aborted ∨ e = .main .stopProxy ∧ s.proxyPid = none := by
  cases move with
  | abort at' missing => exact Or.inr ⟨rfl, missing⟩
  | _ => simp_all [LauncherMachine.State.setConnection]

theorem registered_setConnection {s : LauncherMachine.State} {fd : ℕ} {c c' : Connection}
    (registered : Registered s) (found : s.connections[fd]? = some c) (peer : c'.peer = c.peer)
    (absent : c'.handler = .absent ↔ c.handler = .absent) : Registered (s.setConnection fd c') := by
  obtain ⟨listed, creating, unserved, adding, address⟩ := registered
  constructor <;> grind [LauncherMachine.State.setConnection]

theorem placed_setConnection {s : LauncherMachine.State} (placed : Placed s) (fd : ℕ)
    (c : Connection) : Placed (s.setConnection fd c) := by
  obtain ⟨listening, listed, reaching⟩ := placed
  constructor <;> simpa [LauncherMachine.State.setConnection]

theorem past_setConnection {s : LauncherMachine.State} {fd fd' : ℕ} {c c' : Connection}
    (found : s.connections[fd]? = some c) (started : Started c.handler → Started c'.handler)
    (h : Past s fd') : Past (s.setConnection fd c') fd' := by
  obtain ⟨x, foundx, startedx⟩ := h
  by_cases same : fd = fd'
  · subst same
    cases found.symm.trans foundx
    refine ⟨c', ?_, started startedx⟩
    exact List.getElem?_set_self (List.getElem?_eq_some_iff.mp found).1
  · exact ⟨x, (List.getElem?_set_ne same).trans foundx, startedx⟩

/-- A handler never goes back to its first messages. -/
theorem move_past {s t : LauncherMachine.State} {e : LauncherMachine.Event}
    (registered : Registered s) (move : Move config s e t) {fd : ℕ}
    (h : Past s fd) : Past t fd := by
  cases move with
  | accept peer at' =>
    obtain ⟨c, found, started⟩ := h
    have lt := (List.getElem?_eq_some_iff.mp found).1
    exact ⟨c, (List.getElem?_append_left lt).trans found, started⟩
  | client fd' e c c' found move =>
    exact past_setConnection found ((clientMove_server move).1 ▸ id) h
  | createHandler fd' c at' found =>
    have absent := registered.absent fd' c found (by rw [at']; rfl)
    exact past_setConnection found (by simp [absent, Started]) h
  | broadcast fd' rest c at' found => exact past_setConnection found id h
  | sendClientIP fd' c _ found at' | sendStartSignal fd' c found at' | wake fd' c found at'
  | lock fd' c found at' | storeMessage fd' c found at' | storeFlag fd' c found at'
  | unlock fd' c found at' =>
    exact past_setConnection found (by simp [at', Started, setHandler]) h
  | recvMessage fd' c f rest found at' =>
    refine past_setConnection found (fun _ => ?_) h
    by_cases crash : f = .crash <;> simp [crash, Started]
  | _ => exact h

theorem follow_server (s : State) (e : LauncherMachine.Event) (t : LauncherMachine.State) :
    (s.follow e t).server = t ∧ (s.follow e t).gone = s.gone ∧
      (s.follow e t).exited = s.exited ∧ (s.follow e t).toGone = s.toGone := by
  unfold State.follow
  split <;> exact ⟨rfl, rfl, rfl, rfl⟩

theorem follow_other {s : State} {e : LauncherMachine.Event} (t : LauncherMachine.State)
    (launch : ∀ ok, e ≠ .main (.launchProxy ok)) (broadcast : e ≠ .main .broadcast) :
    s.follow e t = { s with server := t } := by
  unfold State.follow
  split
  · exact absurd rfl (launch _)
  · exact absurd rfl broadcast
  · rfl

/-- A client that has gone is not sent anything. -/
theorem sends_here {e : LauncherMachine.Event} {t : LauncherMachine.State} {fd : ℕ}
    (sound : Sound s) (move : Move config s.server e t) (target : sendsTo s.server e = some fd) :
    fd ∉ s.gone := by
  have waiting : ∀ fd c, s.server.connections[fd]? = some c → ¬ Started c.handler →
      fd ∉ s.gone := by
    intro fd c found early gone
    obtain ⟨c', found', started⟩ := sound.past fd gone
    cases found.symm.trans found'
    exact early started
  cases move with
  | sendClientIP fd' c _ found at' =>
    cases target
    exact waiting fd c found (by simp [Started, at'])
  | sendStartSignal fd' c found at' =>
    cases target
    exact waiting fd c found (by simp [Started, at'])
  | broadcast fd' rest c at' found =>
    simp only [sendsTo, at', nextClient, Option.some.injEq] at target
    exact sound.reachable fd (by simp [at', toReach, target])
  | _ => cases target

/-- A broadcast begins with the complete list, goes on to the next client in it, or is not
    disturbed. -/
theorem settled_follow {e : LauncherMachine.Event} {t : LauncherMachine.State} (sound : Sound s)
    (met : Undisturbed s (.launcher e)) (move : Move config s.server e t)
    (broadcasting : Broadcasting t.mainLoop) : unlisted t.listen = none ∧
      ∀ fd < t.connections.length, fd ∈ (s.follow e t).told ∨ fd ∈ toReach t.mainLoop := by
  rcases move_broadcasting move broadcasting with ⟨ok, rfl⟩ | already
  · obtain ⟨-, complete⟩ := met
    cases move with
    | launchProxy ok at' =>
      refine ⟨complete, fun fd bound => Or.inr ?_⟩
      have listed := sound.covered fd bound
      rw [complete] at listed
      exact listed.resolve_right nofun
  · obtain ⟨complete, reached⟩ := sound.settled already
    rcases move_clients move with ⟨peer, rfl, -⟩ | ⟨fd, rfl, -⟩ | ⟨same, -, length⟩
    · exact absurd already met
    · exact absurd already met
    · refine ⟨same.trans complete, fun fd bound => ?_⟩
      have earlier := reached fd (length ▸ bound)
      rcases move_toReach move with ⟨launch, broadcast, toGo⟩ | ⟨⟨ok, rfl⟩, -⟩ |
        ⟨fd', rest, rfl, at', after⟩
      · rw [follow_other t launch broadcast, toGo]
        exact earlier
      · cases move with
        | launchProxy ok at' =>
          rw [at'] at already
          exact already.elim
      · rw [at'] at earlier
        rw [after]
        simp only [State.follow, at', nextClient, Option.toList_some, List.mem_append, toReach,
          List.mem_cons] at earlier ⊢
        tauto

theorem sound_follow {e : LauncherMachine.Event} {t : LauncherMachine.State} (sound : Sound s)
    (met : Undisturbed s (.launcher e)) (move : Move config s.server e t) :
    Sound (s.follow e t) := by
  have settled := settled_follow sound met move
  obtain ⟨server, gone, exited, toGone⟩ := follow_server s e t
  refine ⟨?_, ?_, ?_, exited.trans sound.alive, ?_, toGone.trans sound.present, ?_, ?_, ?_⟩
  · rw [server]
    exact registered_move sound.registered move
  · rw [server]
    exact placed_move sound.placed move
  · rw [server]
    exact covered_move sound.covered move
  · rw [server]
    intro aborted
    rcases move_aborted move aborted with already | ⟨rfl, missing⟩
    · exact sound.running already
    · exact met missing
  · rw [server, gone]
    exact fun fd hfd => move_past sound.registered move (sound.past fd hfd)
  · rw [server, gone]
    rcases move_toReach move with ⟨-, -, same⟩ | ⟨⟨ok, rfl⟩, listed⟩ | ⟨fd, rest, rfl, at', after⟩
    · rw [same]
      exact sound.reachable
    · rw [listed]
      exact met.1
    · intro fd' hfd'
      rw [after] at hfd'
      exact sound.reachable fd' (by rw [at']; exact List.mem_cons_of_mem _ hfd')
  · rw [server]
    exact settled

theorem sound_hangUp {fd : ℕ} {t : LauncherMachine.State} (sound : Sound s)
    (unreached : fd ∉ toReach s.server.mainLoop) (past : Past s.server fd)
    (loop : t.mainLoop = s.server.mainLoop) (registered : Registered t) (placed : Placed t)
    (clients : t.listen = s.server.listen ∧ t.clientFdList = s.server.clientFdList ∧
      t.connections.length = s.server.connections.length)
    (kept : ∀ fd, Past s.server fd → Past t fd) :
    Sound { s with gone := s.gone ++ [fd], server := t } := by
  obtain ⟨listen, list, length⟩ := clients
  refine ⟨registered, placed, ?_, sound.alive, loop ▸ sound.running, sound.present, ?_, ?_, ?_⟩
  · intro fd' bound
    rw [list, listen]
    exact sound.covered fd' (length ▸ bound)
  · intro fd' hfd'
    rcases List.mem_append.mp hfd' with old | new
    · exact kept fd' (sound.past fd' old)
    · exact kept fd' (List.mem_singleton.mp new ▸ past)
  · intro fd' hfd' gone
    rw [loop] at hfd'
    rcases List.mem_append.mp gone with old | new
    · exact sound.reachable fd' hfd' old
    · exact unreached (List.mem_singleton.mp new ▸ hfd')
  · simp only [loop, listen, length]
    exact sound.settled

theorem sound_step (sound : Sound s) (met : Undisturbed s e) (h : Step config s e u) :
    Sound u := by
  cases h with
  | hangUp fd reset c found here =>
    have past : Past s.server fd := ⟨c, found, met.2 c found⟩
    cases reset with
    | false =>
      exact sound_hangUp sound met.1 past rfl sound.registered sound.placed ⟨rfl, rfl, rfl⟩
        (fun _ h => h)
    | true =>
      exact sound_hangUp sound met.1 past rfl
        (registered_setConnection sound.registered found rfl Iff.rfl)
        (placed_setConnection sound.placed _ _) ⟨rfl, rfl, List.length_set⟩
        (fun _ => past_setConnection found id)
  | closed fd c found gone at' empty =>
    have served : (setHandler c .sleeping).handler = .absent ↔ c.handler = .absent := by
      simp [setHandler, at']
    have length : (s.server.setConnection fd (setHandler c .sleeping)).connections.length =
      s.server.connections.length := List.length_set
    exact ⟨registered_setConnection sound.registered found rfl served,
      placed_setConnection sound.placed _ _, fun fd' bound => sound.covered fd' (length ▸ bound),
      sound.alive, sound.running, sound.present,
      fun fd' hfd' => past_setConnection found (fun _ => by simp [setHandler, Started])
        (sound.past fd' hfd'), sound.reachable,
      fun broadcasting => ⟨(sound.settled broadcasting).1, fun fd' bound =>
        (sound.settled broadcasting).2 fd' (length ▸ bound)⟩⟩
  | fails e t fd move target gone => exact absurd gone (sends_here sound move target)
  | follows e t move target => exact sound_follow sound met move

theorem sound_unharmed (sound : Sound s) : Unharmed s := by
  refine ⟨⟨sound.alive, sound.running⟩, sound.present, fun finished fd bound _ => ?_,
    fun fd hfd => ?_⟩
  · have broadcasting : Broadcasting s.server.mainLoop := by rw [finished]; trivial
    rcases (sound.settled broadcasting).2 fd bound with told | rest
    · exact told
    · rw [finished] at rest
      cases rest
  · exact ⟨_, List.getElem?_eq_getElem (sound.placed.reaching fd hfd)⟩

/-- Two clients; the second has launched its entities. -/
def twoClients : List LauncherMachine.Event :=
  [.main (.boot true)] ++ accepts clientAddress ++ greets 0 ++ accepts clientAddress ++ greets 1 ++
    starts 1 2

/-- The second client reports a crash. -/
def crash : List LauncherMachine.Event := .client 1 (.exits 0) :: reports 1 0

/-- The second client crashes and both are restarted, then the first one goes. -/
def leavesAfterRestart : List Event :=
  (twoClients ++ crash ++ answers 2).map .launcher ++
    [.disconnect 0 false, .launcher (.handler 0 .recvMessage)]

/-- The first client goes, then the second one crashes. -/
def leavesBeforeCrash : List Event :=
  twoClients.map .launcher ++ [.disconnect 0 false] ++
    (crash ++ (answers 2).take 6).map .launcher

/-- The broadcast has still to reach a client that has gone. -/
def Stale (s : State) : Prop := ∃ fd ∈ toReach s.server.mainLoop, fd ∈ s.gone

theorem stale_launch (ok : Bool) (at' : s.server.mainLoop = .launching) (alive : s.exited = false)
    {fd : ℕ} (listed : fd ∈ s.server.clientFdList) (gone : fd ∈ s.gone) :
    ∃ u, step config s (.launcher (.main (.launchProxy ok))) = some u ∧ Stale u := by
  refine ⟨s.follow (.main (.launchProxy ok)) { launchEntity s.server ok with
    mainLoop := .broadcasting s.server.clientFdList }, ?_, fd, listed, gone⟩
  simp [step, alive, State.serverStep, LauncherMachine.step, mainStep, at', sendsTo]

/-- A stale entry is never passed: the server exits, or is still in this broadcast. -/
theorem stale_step (h : s.exited = true ∨ Stale s) (step : Step config s e u) :
    u.exited = true ∨ Stale u := by
  cases step with
  | hangUp fd reset c found here =>
    refine h.imp id ?_
    rintro ⟨fd', rest, gone⟩
    refine ⟨fd', ?_, List.mem_append_left _ gone⟩
    cases reset <;> exact rest
  | closed fd c found gone at' empty => exact h
  | fails e t fd move target gone => exact Or.inl rfl
  | follows e t move target =>
    obtain ⟨server, gone, exited, -⟩ := follow_server s e t
    rw [exited]
    refine h.imp id ?_
    rintro ⟨fd, rest, left⟩
    refine ⟨fd, ?_, gone ▸ left⟩
    rw [server]
    rcases move_toReach move with ⟨-, -, same⟩ | ⟨⟨ok, rfl⟩, -⟩ | ⟨fd', rest', rfl, at', after⟩
    · exact same ▸ rest
    · cases move with
      | launchProxy ok at' =>
        rw [at'] at rest
        cases rest
    · rw [at'] at rest
      rw [after]
      rcases List.mem_cons.mp rest with rfl | rest
      · exact absurd left (target fd (by simp [sendsTo, at', nextClient]))
      · exact rest

theorem stale_run {es : List Event} (stale : Stale s) (run : Runs (step config) anyStep s es u) :
    u.exited = true ∨ Stale u :=
  run.state_invariant (fun s => s.exited = true ∨ Stale s) (Or.inr stale)
    (fun _ _ _ h _ step => stale_step h (step_step step))

end Cezfuzzer.LauncherDisconnects
