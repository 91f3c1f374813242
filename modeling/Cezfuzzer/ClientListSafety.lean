import Cezfuzzer.ClientListRefinement

set_option autoImplicit false

/-!
# When the array may move

A `realloc` that moves the array leaves the handlers that are in `send_client_ip` with a
pointer to the old one, or lets them take it before the new pointer is stored. Without memory
the client is not in the array, and its handler sends from a pointer that was never set. Nothing
else goes wrong with the array, as long as each handler looks up its own descriptor.
-/
namespace Cezfuzzer.ClientListSafety
open StepRuns BlockMemory GrowingArrays LauncherMessages LauncherClient LauncherMachine
  LauncherInvariants LauncherReadiness ClientListMemory ClientListRefinement

variable {config : List EntityConfig} {s u : ClientListMemory.State} {e : ClientListMemory.Event}
  {clients : List ClientInfo}

/-- Every `realloc` is given its memory, and none moves the array while a handler is in
    `send_client_ip`. -/
def Quiet (s : ClientListMemory.State) : ClientListMemory.Event → Prop
  | .add (.realloc given moved) => given = true ∧ (moved = true → ∀ (fd : ℕ) (c : Connection),
      s.launchers.connections[fd]? = some c → c.handler ≠ .sendingIP)
  | _ => True

/-- The listen thread does not begin to add another client. -/
def Waits (_ : ClientListMemory.State) : ClientListMemory.Event → Prop
  | .add (.realloc _ _) => False
  | _ => True

/-- Without another client nothing can fault. -/
def Secure (config : List EntityConfig) (s : ClientListMemory.State) : Prop :=
  ∀ (es : List ClientListMemory.Event) (u : ClientListMemory.State),
    Runs (ClientListMemory.step config) Waits s es u → u.fault = none

/-! ## Who is in `send_client_ip` -/

theorem serving_before {l l' : LauncherMachine.State} {e : LauncherMachine.Event}
    (move : LauncherMachine.Move config l e l') {fd : ℕ} {c' : Connection}
    (found : l'.connections[fd]? = some c') (serving : c'.handler = .sendingIP) :
    (∃ c, l.connections[fd]? = some c ∧ c.handler = .sendingIP) ∨ l.listen = .creating fd := by
  cases move with
  | accept peer at' =>
    rcases getElem_snoc found with old | rfl
    · exact Or.inl ⟨c', old, serving⟩
    · cases serving
  | createHandler fd' c at' found' =>
    rcases setConnection_getElem found with ⟨rfl, -⟩ | ⟨-, old⟩
    · exact Or.inr at'
    · exact Or.inl ⟨c', old, serving⟩
  | client fd' e c d found' move =>
    rcases setConnection_getElem found with ⟨rfl, rfl⟩ | ⟨-, old⟩
    · exact Or.inl ⟨c, found', (clientMove_server move).1 ▸ serving⟩
    · exact Or.inl ⟨c', old, serving⟩
  | broadcast fd' rest c at' found' =>
    rcases setConnection_getElem found with ⟨rfl, rfl⟩ | ⟨-, old⟩
    · exact Or.inl ⟨c, found', serving⟩
    · exact Or.inl ⟨c', old, serving⟩
  | recvMessage fd' c f rest found' at' =>
    rcases setConnection_getElem found with ⟨rfl, rfl⟩ | ⟨-, old⟩
    · by_cases crash : f = .crash <;> simp [crash] at serving
    · exact Or.inl ⟨c', old, serving⟩
  | sendClientIP fd' c _ found' | sendStartSignal fd' c found' | lock fd' c found'
  | storeMessage fd' c found' | storeFlag fd' c found' | unlock fd' c found'
  | wake fd' c found' =>
    rcases setConnection_getElem found with ⟨rfl, rfl⟩ | ⟨-, old⟩
    · cases serving
    · exact Or.inl ⟨c', old, serving⟩
  | _ => exact Or.inl ⟨c', found, serving⟩

theorem serving_setConnection {l : LauncherMachine.State} {fd fd' : ℕ} {c d : Connection}
    (d' : Connection) (found' : l.connections[fd']? = some d)
    (kept : d.handler = .sendingIP → d'.handler = .sendingIP)
    (found : l.connections[fd]? = some c) (serving : c.handler = .sendingIP) :
    ∃ c', (l.setConnection fd' d').connections[fd]? = some c' ∧ c'.handler = .sendingIP := by
  rw [State.setConnection]
  by_cases own : fd' = fd
  · subst own
    obtain rfl := Option.some.inj (found'.symm.trans found)
    exact ⟨d', List.getElem?_set_self (List.getElem?_eq_some_iff.mp found).1, kept serving⟩
  · exact ⟨c, by rw [List.getElem?_set_ne own, found], serving⟩

theorem serving_after {l l' : LauncherMachine.State} {e : LauncherMachine.Event} (kept : Kept e)
    (move : LauncherMachine.Move config l e l') {fd : ℕ} {c : Connection}
    (found : l.connections[fd]? = some c) (serving : c.handler = .sendingIP) :
    ∃ c', l'.connections[fd]? = some c' ∧ c'.handler = .sendingIP := by
  cases move with
  | sendClientIP => cases kept
  | accept peer at' =>
    refine ⟨c, ?_, serving⟩
    rw [List.getElem?_append_left (List.getElem?_eq_some_iff.mp found).1, found]
  | createHandler fd' d at' found' =>
    exact serving_setConnection (setHandler d .sendingIP) found' (fun _ => rfl) found serving
  | client fd' e d d' found' move =>
    exact serving_setConnection d' found' (fun h => (clientMove_server move).1 ▸ h) found serving
  | broadcast fd' rest d at' found' =>
    exact serving_setConnection (sendTo d .restart) found' id found serving
  | sendStartSignal fd' d found' at' | recvMessage fd' d f rest found' at' | lock fd' d found' at'
  | storeMessage fd' d found' at' | storeFlag fd' d found' at' | unlock fd' d found' at'
  | wake fd' d found' at' =>
    refine serving_setConnection _ found' (fun h => ?_) found serving
    cases at'.symm.trans h
  | _ => exact ⟨c, found, serving⟩

/-! ## While nothing is lost -/

/-- Whatever a handler holds points into this array. -/
def Fresh (list : Pointer) : Lookup → Prop
  | .comparing _ list' => list' = list
  | .sending (some p) => start p = list
  | _ => True

/-- The launchers are somewhere where `LauncherMachine` gets to. -/
def Reached (config : List EntityConfig) (l : LauncherMachine.State) : Prop :=
  ∃ es, Runs (LauncherMachine.step config) anyStep LauncherMachine.initial es l

/-- A handler that searches has pointers into the array only, and nobody searches until the
    pointer to a new array is stored. -/
structure Attached (s : ClientListMemory.State) : Prop where
  fine : s.fault = none
  fresh : ∀ fd, Fresh (array s) (s.lookups fd)
  pinned : ∀ p, s.adding = .pointing p → p ≠ s.list → ∀ (fd : ℕ) (c : Connection),
    s.launchers.connections[fd]? = some c → c.handler ≠ .sendingIP
  idle : ∀ fd, s.lookups fd ≠ .testing 0 →
    ∃ c, s.launchers.connections[fd]? = some c ∧ c.handler = .sendingIP

structure Sound (config : List EntityConfig) (s : ClientListMemory.State)
    (clients : List ClientInfo) : Prop where
  represents : Represents s clients
  reached : Reached config (withClients clients s.launchers)
  attached : Attached s

theorem Reached.served {l : LauncherMachine.State} (reached : Reached config l) : Served l :=
  served_run reached.choose_spec

theorem reached_follows {clients' : List ClientInfo}
    (reached : Reached config (withClients clients s.launchers))
    (follows : Follows config clients clients' s u e) :
    Reached config (withClients clients' u.launchers) := by
  obtain ⟨es, run⟩ := reached
  unfold Follows at follows
  cases seen : visible e with
  | none =>
    simp only [seen] at follows
    exact ⟨es, follows ▸ run⟩
  | some e' =>
    simp only [seen] at follows
    exact ⟨es ++ [e'], .next run trivial follows⟩

theorem Attached.list_eq (attached : Attached s) {fd : ℕ} {c : Connection}
    (found : s.launchers.connections[fd]? = some c) (serving : c.handler = .sendingIP) :
    s.list = array s := by
  cases at' : s.adding with
  | pointing p =>
    by_contra moved
    simp only [array, at'] at moved
    exact attached.pinned p at' (Ne.symm moved) fd c found serving
  | _ => simp [array, at']

/-- Every entry can be read. -/
theorem fetch_entry (rep : Represents s clients) {i : ℕ} (inside : i < clients.length) :
    GrowingArrays.fetch ((array s).advance i) s.memory = .ok (clients[i], s.memory) := by
  refine rep.stored.fetch ?_
  rw [List.getElem?_append_left (by rwa [List.length_map]), List.getElem?_map,
    List.getElem?_eq_getElem inside, Option.map_some]

theorem attached_launchers (attached : Attached s) (rep : Represents s clients)
    {e : LauncherMachine.Event} {l : LauncherMachine.State} (kept : Kept e)
    (h : LauncherMachine.step config s.launchers e = some l) :
    Attached { s with launchers := l } := by
  have move := LauncherMachine.step_move h
  refine ⟨attached.fine, attached.fresh, fun p at' moved fd c' found' serving => ?_,
    fun fd busy => ?_⟩
  · rcases serving_before move found' serving with ⟨c, found, serving⟩ | creating
    · exact attached.pinned p at' moved fd c found serving
    · obtain ⟨fd', peer, listen⟩ := rep.busy (by rw [show s.adding = _ from at']; exact nofun)
      cases listen.symm.trans creating
  · obtain ⟨c, found, serving⟩ := attached.idle fd busy
    exact serving_after kept move found serving

theorem attached_setLookup (attached : Attached s) {fd : ℕ} {c : Connection}
    (found : s.launchers.connections[fd]? = some c) (serving : c.handler = .sendingIP)
    {lookup : Lookup} (fresh : Fresh (array s) lookup) : Attached (s.setLookup fd lookup) := by
  refine ⟨attached.fine, fun fd' => ?_, attached.pinned, fun fd' busy => ?_⟩
  · change Fresh (array s) _
    by_cases own : fd' = fd
    · subst own
      rwa [ClientListMemory.State.setLookup_self]
    · rw [ClientListMemory.State.setLookup_of_ne s own]
      exact attached.fresh fd'
  · by_cases own : fd' = fd
    · subst own
      exact ⟨c, found, serving⟩
    · rw [ClientListMemory.State.setLookup_of_ne s own] at busy
      exact attached.idle fd' busy

theorem attached_replied (attached : Attached s) {fd : ℕ} {c : Connection}
    (found : s.launchers.connections[fd]? = some c) (serving : c.handler = .sendingIP)
    (ci : ClientInfo) : Attached (s.replied fd c ci) := by
  have reset : Attached (s.setLookup fd (.testing 0)) :=
    attached_setLookup attached found serving trivial
  refine ⟨reset.fine, reset.fresh, fun p at' moved fd' c' found' serving' => ?_,
    fun fd' busy => ?_⟩
  · rcases setConnection_getElem found' with ⟨-, rfl⟩ | ⟨-, old⟩
    · cases serving'
    · exact attached.pinned p at' moved fd' c' old serving'
  · have other : fd' ≠ fd := by
      rintro rfl
      exact busy (ClientListMemory.State.setLookup_self ..)
    obtain ⟨c', found', serving'⟩ := reset.idle fd' busy
    refine ⟨c', ?_, serving'⟩
    change (s.launchers.connections.set fd _)[fd']? = some c'
    rw [List.getElem?_set_ne (Ne.symm other)]
    exact found'

/-- Nothing but a `realloc` can fault or let go of the array. -/
theorem attached_move (sound : Sound config s clients) (waits : Waits s e)
    (move : ClientListMemory.Move config s e u) : Attached u := by
  obtain ⟨rep, reached, attached⟩ := sound
  cases move with
  | launchers e l kept h => exact attached_launchers attached rep kept h
  | realloc => cases waits
  | point p at' =>
    have same : array s = p := by simp [array, at']
    have fresh (fd) : Fresh p (s.lookups fd) := same ▸ attached.fresh fd
    exact ⟨attached.fine, fresh, fun p pointing => (by cases pointing), attached.idle⟩
  | fill fd peer listen at' =>
    obtain ⟨m, run, -⟩ := represents_fill rep listen at'
    rw [after_ok run]
    have same : array s = s.list := by simp [array, at']
    have fresh (fd) : Fresh s.list (s.lookups fd) := same ▸ attached.fresh fd
    exact ⟨attached.fine, fresh, fun p pointing => (by cases pointing), attached.idle⟩
  | count fd peer running listen at' =>
    have same : array s = s.list := by simp [array, at']
    have fresh (fd) : Fresh s.list (s.lookups fd) := same ▸ attached.fresh fd
    exact ⟨attached.fine, fresh, fun p pointing => (by cases pointing), attached.idle⟩
  | test fd i c found serving at' =>
    refine attached_setLookup attached found serving ?_
    split <;> trivial
  | load fd i c found serving at' =>
    exact attached_setLookup attached found serving (attached.list_eq found serving)
  | compare fd i list c found serving at' =>
    have knows := rep.known fd
    have fresh := attached.fresh fd
    rw [at'] at knows fresh
    obtain rfl : list = array s := fresh
    rw [after_ok (fetch_entry rep knows.1)]
    refine attached_setLookup attached found serving ?_
    split <;> trivial
  | take fd i c found serving at' =>
    refine attached_setLookup attached found serving ?_
    rw [Fresh, start_advance, rep.begins, attached.list_eq found serving]
  | send fd c p running found serving at' =>
    have knows := rep.known fd
    have fresh := attached.fresh fd
    rw [at'] at knows fresh
    obtain ⟨i, list, rfl, begins, here⟩ := knows
    rw [Fresh, start_advance, begins] at fresh
    subst fresh
    rw [after_ok (fetch_entry rep here.inside)]
    exact attached_replied attached found serving _
  | sendNothing fd c found serving at' =>
    have knows := rep.known fd
    rw [at'] at knows
    cases knows

/-- A `realloc` that leaves the array elsewhere is not noticed when nobody searches. -/
theorem attached_realloc (sound : Sound config s clients) {moved : Bool}
    (quiet : Quiet s (.add (.realloc true moved))) (at' : s.adding = .reallocating)
    {p : Pointer} {m : Memory ClientInfo}
    (same : p = s.list ↔ moved = false ∧ s.list ≠ .null) :
    Attached { s with memory := m, adding := .pointing p } := by
  obtain ⟨rep, reached, attached⟩ := sound
  have nobody : p ≠ s.list → ∀ (fd : ℕ) (c : Connection),
      s.launchers.connections[fd]? = some c → c.handler ≠ .sendingIP := by
    intro elsewhere fd c found serving
    cases moved with
    | true => exact quiet.2 rfl fd c found serving
    | false =>
      have null : s.list = .null := by
        by_contra given
        exact elsewhere (same.mpr ⟨rfl, given⟩)
      have stored := rep.stored
      simp only [array, at', null, Only, List.append_eq_nil_iff, List.map_eq_nil_iff] at stored
      obtain ⟨ci, listed, -⟩ := reached.served.known fd c found (by simp [serving])
      rw [withClients, stored.1.1] at listed
      cases listed
  refine ⟨attached.fine, fun fd => ?_, fun p' at'' => ?_, attached.idle⟩
  · change Fresh p (s.lookups fd)
    by_cases stays : p = s.list
    · have array_eq : array s = p := by simp [array, at', stays]
      exact array_eq ▸ attached.fresh fd
    · have resting : s.lookups fd = .testing 0 := by
        by_contra busy
        obtain ⟨c, found, serving⟩ := attached.idle fd busy
        exact nobody stays fd c found serving
      rw [resting]
      trivial
  · obtain rfl : p = p' := Adding.pointing.inj at''
    exact nobody

theorem quiet_given (quiet : Quiet s e) : Given s e := by
  unfold Quiet at quiet
  split at quiet
  · exact quiet.1
  · rename_i other
    unfold Given
    split
    · exact absurd rfl (other _ _)
    · trivial

theorem quiet_of_waits (waits : Waits s e) : Quiet s e := by
  unfold Waits at waits
  split at waits
  · cases waits
  · rename_i other
    unfold Quiet
    split
    · exact absurd rfl (other _ _)
    · trivial

theorem sound_step (sound : Sound config s clients) (quiet : Quiet s e)
    (h : ClientListMemory.step config s e = some u) : ∃ clients', Sound config u clients' := by
  have move := (ClientListMemory.step_move h).2
  have given := quiet_given quiet
  have attached : Attached u := by
    by_cases waits : Waits s e
    · exact attached_move sound waits move
    · cases move with
      | realloc fd peer given' moved running listen at' =>
        obtain rfl : given' = true := given
        obtain ⟨p, m, run, here, same, -⟩ := represents_realloc sound.represents listen at' moved
        rw [after_ok run, if_neg here]
        exact attached_realloc sound quiet at' same
      | _ => exact absurd trivial waits
  obtain ⟨clients', rep', follows⟩ :=
    represents_move sound.represents sound.reached.served given move attached.fine
  exact ⟨clients', rep', reached_follows sound.reached follows, attached⟩

theorem initial_sound : Sound config ClientListMemory.initial [] := by
  refine ⟨initial_represents, ⟨[], .refl⟩, rfl, fun _ => trivial, nofun, fun fd busy => ?_⟩
  exact absurd rfl busy

theorem sound_run {es : List ClientListMemory.Event} {t : ClientListMemory.State}
    (sound : Sound config s clients)
    (run : Runs (ClientListMemory.step config) Quiet s es t) : ∃ clients, Sound config t clients :=
  run.state_invariant (fun t => ∃ clients, Sound config t clients) ⟨clients, sound⟩
    fun _ _ _ ⟨_, sound⟩ quiet h => sound_step sound quiet h

theorem secure_of_sound (sound : Sound config s clients) : Secure config s := by
  intro es t run
  obtain ⟨_, last⟩ := sound_run sound (run.mono fun _ _ => quiet_of_waits)
  exact last.attached.fine

/-! ## What becomes of a lost array -/

/-- The handlers that are at work, or the one that the listen thread is about to start, run
    into a fault by themselves. -/
def Doomed (config : List EntityConfig) (s : ClientListMemory.State) : Prop :=
  ∃ es u, Runs (ClientListMemory.step config) Waits s es u ∧ u.fault ≠ none

theorem Doomed.next {t : ClientListMemory.State} (doomed : Doomed config t) (waits : Waits s e)
    (h : ClientListMemory.step config s e = some t) : Doomed config s := by
  obtain ⟨es, u, run, fault⟩ := doomed
  exact ⟨e :: es, u, .cons waits h run, fault⟩

/-- A handler in `send_client_ip` of a server that goes on. -/
structure Searching (s : ClientListMemory.State) (fd : ℕ) (c : Connection) : Prop where
  fine : s.fault = none
  running : s.launchers.mainLoop ≠ .aborted
  found : s.launchers.connections[fd]? = some c
  serving : c.handler = .sendingIP

theorem Searching.step_eq {fd : ℕ} {c : Connection} (searching : Searching s fd c)
    (e : LookupEvent) :
    ClientListMemory.step config s (.lookup fd e) = lookupStep s fd c e := by
  simp [ClientListMemory.step, searching.fine, searching.running, searching.found,
    searching.serving]

theorem Searching.setLookup {fd : ℕ} {c : Connection} (searching : Searching s fd c)
    (lookup : Lookup) : Searching (s.setLookup fd lookup) fd c :=
  ⟨searching.fine, searching.running, searching.found, searching.serving⟩

/-- A step of the search that faults. -/
theorem Searching.faults {fd : ℕ} {c : Connection} (searching : Searching s fd c)
    {e : LookupEvent} (h : lookupStep s fd c e = some u) (fault : u.fault ≠ none) :
    Doomed config s :=
  ⟨[.lookup fd e], u, .cons trivial ((searching.step_eq e).trans h) .refl, fault⟩

theorem Searching.goes {fd : ℕ} {c : Connection} (searching : Searching s fd c)
    (e : LookupEvent) (lookup : Lookup)
    (h : lookupStep s fd c e = some (s.setLookup fd lookup))
    (doomed : Doomed config (s.setLookup fd lookup)) : Doomed config s :=
  doomed.next (e := .lookup fd e) trivial ((searching.step_eq e).trans h)

/-- The block that a pointer was into is gone. -/
def Lost (s : ClientListMemory.State) (list : Pointer) : Prop :=
  ∃ p cells, Only s.memory p cells ∧ start list ≠ p

theorem Lost.fetch {list : Pointer} (lost : Lost s list) (i : ℕ) :
    GrowingArrays.fetch (list.advance i) s.memory = .error .notLive := by
  obtain ⟨p, cells, only, other⟩ := lost
  exact only.dangling other i

theorem lost_comparing {fd : ℕ} {c : Connection} (i : ℕ) (list : Pointer)
    (searching : Searching s fd c) (lost : Lost s list)
    (at' : s.lookups fd = .comparing i list) : Doomed config s := by
  refine searching.faults (e := .compare) (u := { s with fault := some .notLive }) ?_ nofun
  simp [lookupStep, at', State.after, lost.fetch i]

theorem lost_loading {fd i : ℕ} {c : Connection} (searching : Searching s fd c)
    (lost : Lost s s.list) (at' : s.lookups fd = .loading i) : Doomed config s := by
  refine searching.goes .load (.comparing i s.list) (by simp [lookupStep, at']) ?_
  exact lost_comparing i s.list (searching.setLookup _) lost (by simp)

theorem lost_testing {fd i : ℕ} {c : Connection} (searching : Searching s fd c)
    (lost : Lost s s.list) (inside : i < s.no_clients) (at' : s.lookups fd = .testing i) :
    Doomed config s := by
  refine searching.goes .test (.loading i)
    (by simp [lookupStep, at', inside]) ?_
  exact lost_loading (i := i) (searching.setLookup _) lost (by simp)

theorem lost_sending {fd : ℕ} {c : Connection} (i : ℕ) (list : Pointer)
    (searching : Searching s fd c) (lost : Lost s list)
    (at' : s.lookups fd = .sending (some (list.advance i))) :
    Doomed config s := by
  refine searching.faults (e := .send) (u := { s with fault := some .notLive }) ?_ nofun
  simp [lookupStep, at', State.after, lost.fetch i]

theorem lost_taking {fd i : ℕ} {c : Connection} (searching : Searching s fd c)
    (lost : Lost s s.list) (at' : s.lookups fd = .taking i) : Doomed config s := by
  refine searching.goes .take (.sending (some (s.list.advance i)))
    (by simp [lookupStep, at']) ?_
  exact lost_sending i s.list (searching.setLookup _) lost (by simp)

/-- Whatever a handler does next in `send_client_ip`, it comes to the lost array. -/
theorem doomed_of_lost {fd : ℕ} {c : Connection} (searching : Searching s fd c)
    (lost : Lost s s.list) (counted : s.no_clients = clients.length)
    (knows : Knows clients fd (s.lookups fd)) (fresh : Fresh s.list (s.lookups fd))
    (listed : ∃ ci ∈ clients, ci.sockfd = fd) : Doomed config s := by
  cases at' : s.lookups fd with
  | testing i =>
    rw [at'] at knows
    have inside : i < s.no_clients := by
      rw [counted]
      refine lt_of_le_of_ne knows.1 fun all => ?_
      obtain ⟨ci, listed, own⟩ := listed
      exact knows.2 ci (by rwa [all, List.take_length]) own
    exact lost_testing searching lost inside at'
  | loading i => exact lost_loading searching lost at'
  | comparing i list =>
    rw [at'] at fresh
    exact lost_comparing i list searching (fresh ▸ lost) at'
  | taking i => exact lost_taking searching lost at'
  | sending p =>
    cases p with
    | none =>
      rw [at'] at knows
      cases knows
    | some p =>
      rw [at'] at knows fresh
      obtain ⟨i, list, rfl, begins, -⟩ := knows
      rw [Fresh, start_advance, begins] at fresh
      exact lost_sending i list searching (fresh ▸ lost) at'

theorem compare_other {fd i : ℕ} {c : Connection} {list : Pointer} {ci : ClientInfo}
    (at' : s.lookups fd = .comparing i list)
    (fetched : GrowingArrays.fetch (list.advance i) s.memory = .ok (ci, s.memory))
    (other : ci.sockfd ≠ fd) :
    lookupStep s fd c .compare = some (s.setLookup fd (.testing (i + 1))) := by
  simp [lookupStep, at', State.after, fetched, other]

/-- A search for a client that is not in the array ends without a value for `ci`. -/
theorem doomed_of_unlisted {fd i : ℕ} {c : Connection} (searching : Searching s fd c)
    (stored : Only s.memory s.list (clients.map some)) (counted : s.no_clients = clients.length)
    (unlisted : ∀ ci ∈ clients, ci.sockfd ≠ fd) (bound : i ≤ clients.length)
    (at' : s.lookups fd = .testing i) : Doomed config s := by
  induction hn : clients.length - i generalizing s i with
  | zero =>
    have outside : ¬i < s.no_clients := by omega
    refine searching.goes .test (.sending none)
      (by simp [lookupStep, at', outside]) ?_
    refine (searching.setLookup _).faults (e := .send)
      (u := { s.setLookup fd (.sending none) with fault := some .uninitialised }) ?_ nofun
    simp [lookupStep]
  | succ n ih =>
    have inside : i < clients.length := by omega
    have other : clients[i].sockfd ≠ fd := unlisted _ (List.getElem_mem inside)
    have fetched : GrowingArrays.fetch (s.list.advance i) s.memory =
        .ok (clients[i], s.memory) := stored.fetch (by simp [inside])
    refine searching.goes .test (.loading i)
      (by simp [lookupStep, at', counted, inside]) ?_
    refine (searching.setLookup _).goes .load (.comparing i s.list)
      (by simp [lookupStep, ClientListMemory.State.setLookup]) ?_
    refine ((searching.setLookup _).setLookup _).goes .compare
      (.testing (i + 1)) (compare_other (by simp) fetched other) ?_
    exact ih (((searching.setLookup _).setLookup _).setLookup _) stored counted inside
      (ClientListMemory.State.setLookup_self ..) (by omega)

/-- The client that is being added is not in the list yet. -/
def Unlisted (l : LauncherMachine.State) : Prop :=
  ∀ (fd : ℕ) (peer : Address), l.listen = .adding fd peer → ∀ ci ∈ l.clientList, ci.sockfd ≠ fd

theorem unlisted_move {l l' : LauncherMachine.State} {e : LauncherMachine.Event}
    (registered : Registered l) (unlisted : Unlisted l)
    (move : LauncherMachine.Move config l e l') : Unlisted l' := by
  intro fd peer at' ci member
  cases move with
  | accept peer' =>
    cases at'
    intro own
    have here := registered.address ci member
    simp [own] at here
  | addNewClient | pushClientFd | createHandler => cases at'
  | _ => exact unlisted fd peer at' ci member

theorem Reached.registered {l : LauncherMachine.State} (reached : Reached config l) :
    Registered l ∧ Unlisted l := by
  obtain ⟨es, run⟩ := reached
  refine run.state_invariant (fun l => Registered l ∧ Unlisted l)
    ⟨initial_registered, nofun⟩ fun t e u inv _ h => ?_
  have move := LauncherMachine.step_move h
  exact ⟨registered_move inv.1 move, unlisted_move inv.1 inv.2 move⟩

/-- After a `realloc` without memory the listen thread starts a handler all the same. -/
theorem doomed_of_refused (sound : Sound config s clients) {fd : ℕ} {peer : Address}
    (running : s.launchers.mainLoop ≠ .aborted) (listen : s.launchers.listen = .adding fd peer)
    (at' : s.adding = .reallocating) : Doomed config (s.returned fd) := by
  obtain ⟨rep, reached, attached⟩ := sound
  obtain ⟨registered, unlisted⟩ := reached.registered
  obtain ⟨c, found, -⟩ := Option.map_eq_some_iff.mp (registered.adding fd peer listen)
  have absent : c.handler = .absent := registered.absent fd c found
    (by rw [show (withClients clients s.launchers).listen = _ from listen]; rfl)
  have resting : s.lookups fd = .testing 0 := by
    by_contra busy
    obtain ⟨c', found', serving⟩ := attached.idle fd busy
    obtain rfl := Option.some.inj (found.symm.trans found')
    cases absent.symm.trans serving
  have stored := rep.stored
  simp only [array, tail, at', List.append_nil] at stored
  -- the listen thread lists the descriptor and creates the handler
  let listed : LauncherMachine.State := { s.launchers with
    listen := .creating fd
    clientFdList := s.launchers.clientFdList ++ [fd] }
  let created : LauncherMachine.State :=
    { listed.setConnection fd (setHandler c .sendingIP) with listen := .accepting }
  have pushes : ClientListMemory.step config (s.returned fd) (.launchers (.listen .pushClientFd)) =
      some { s.returned fd with launchers := listed } := by
    simp [ClientListMemory.step, State.returned, attached.fine, Kept, LauncherMachine.step, running,
      listenStep, listed]
  have creates : ClientListMemory.step config { s.returned fd with launchers := listed }
      (.launchers (.listen .createHandler)) = some { s.returned fd with launchers := created } := by
    have here : s.launchers.connections[fd]? = some c := found
    simp [ClientListMemory.step, State.returned, attached.fine, Kept, LauncherMachine.step, running,
      listenStep, listed, created, here]
  refine Doomed.next (e := .launchers (.listen .pushClientFd)) ?_ trivial pushes
  refine Doomed.next (e := .launchers (.listen .createHandler)) ?_ trivial creates
  have inside := (List.getElem?_eq_some_iff.mp found).1
  have searching : Searching { s.returned fd with launchers := created } fd
      (setHandler c .sendingIP) :=
    ⟨attached.fine, running, List.getElem?_set_self inside, rfl⟩
  exact doomed_of_unlisted searching stored rep.counted (unlisted fd peer listen)
    (Nat.zero_le _) resting

/-! ## The condition -/

theorem quiet_of_secure (sound : Sound config s clients)
    (h : ClientListMemory.step config s e = some u) (secure : Secure config u) : Quiet s e := by
  have safe : ¬Doomed config u := fun ⟨es, v, run, fault⟩ => fault (secure es v run)
  by_cases waits : Waits s e
  · exact quiet_of_waits waits
  obtain ⟨rep, reached, attached⟩ := sound
  cases (ClientListMemory.step_move h).2 with
  | realloc fd peer given moved running listen at' =>
    have stored := rep.stored
    simp only [array, tail, at', List.append_nil] at stored
    cases given with
    | false =>
      rw [after_ok (stored.refused moved _), if_pos rfl] at safe
      exact absurd (doomed_of_refused ⟨rep, reached, attached⟩ running listen at') safe
    | true =>
      refine ⟨rfl, fun elsewhere fd' c found serving => safe ?_⟩
      obtain ⟨p, m, run, here, same, rep'⟩ := represents_realloc rep listen at' moved
      rw [after_ok run, if_neg here]
      have lost : start s.list ≠ p := by
        rw [rep.begins]
        intro stays
        rw [(same.mp stays.symm).1] at elsewhere
        cases elsewhere
      have fresh := attached.fresh fd'
      rw [← attached.list_eq found serving] at fresh
      refine doomed_of_lost ⟨attached.fine, running, found, serving⟩
        ⟨p, _, rep'.stored, lost⟩ rep.counted (rep.known fd') fresh ?_
      exact reached.served.known fd' c found (by simp [serving])
  | _ => exact absurd trivial waits

/-- Whatever happens in the launchers, the handlers are safe in every state of a run exactly
    when each `realloc` is given its memory and moves the array only while no handler is in
    `send_client_ip`. -/
theorem secure_iff {es : List ClientListMemory.Event}
    (run : Runs (ClientListMemory.step config) anyStep ClientListMemory.initial es u) :
    (∀ es₁ es₂ t, es = es₁ ++ es₂ →
      Runs (ClientListMemory.step config) anyStep ClientListMemory.initial es₁ t →
      Secure config t) ↔
      Runs (ClientListMemory.step config) Quiet ClientListMemory.initial es u := by
  refine Runs.always_iff (fun es t quiet => ?_) (fun es t e v quiet h secure => ?_) run
  · obtain ⟨_, sound⟩ := sound_run initial_sound quiet
    exact secure_of_sound sound
  · obtain ⟨_, sound⟩ := sound_run initial_sound quiet
    exact quiet_of_secure sound h secure

/-- The second client moves the array under the first handler. -/
theorem overlaps_not_secure : ∃ es u,
    Runs (ClientListMemory.step []) anyStep ClientListMemory.initial es u ∧
      u.fault = some .notLive ∧
      ((∀ es₁ es₂ t, es = es₁ ++ es₂ →
        Runs (ClientListMemory.step []) anyStep ClientListMemory.initial es₁ t → Secure [] t) ↔
        Runs (ClientListMemory.step []) Quiet ClientListMemory.initial es u) := by
  obtain ⟨u, run, fault⟩ := exists_execute (ClientListMemory.step []) ClientListMemory.initial
    (overlaps clientAddress true) (fun u => u.fault = some .notLive) (by decide)
  have run := runs_of_unguarded run
  exact ⟨_, u, run, of_decide_eq_true fault, secure_iff run⟩

end Cezfuzzer.ClientListSafety
