import Cezfuzzer.GrowingArrays
import Cezfuzzer.LauncherReadiness

set_option autoImplicit false

/-!
# The client list in memory

`client_list` is an array that the listen thread grows with `realloc` while the handler
threads search it, without a lock. Here every access of theirs to the array, its pointer or
its length is one step, and everything else that the launchers do is a step of
`LauncherMachine`, which has a list of clients instead. A handler looks up the descriptor of its
own connection; that all handlers read one `client_fd` is the subject of `LauncherDescriptors`.
-/
namespace Cezfuzzer.ClientListMemory
open StepRuns BlockMemory GrowingArrays LauncherMessages LauncherClient LauncherMachine
  LauncherInvariants LauncherReadiness

/-- Where the listen thread is in `addNewClient`: before the `realloc`, before the pointer that
    it gave is stored, before the new entry is written, and before it is counted. -/
inductive Adding where
  | reallocating
  | pointing (new_list : Pointer)
  | filling
  | counting
  deriving DecidableEq, Repr

/-- Where a handler is in `send_client_ip`: before a test of the loop, before it takes the
    pointer to the array in the condition, before it reads the descriptor of entry `i`, before
    it takes the pointer for `ci`, and before it sends what `ci` points to. A loop that has
    found nothing leaves `ci` without a value. -/
inductive Lookup where
  | testing (i : ℕ)
  | loading (i : ℕ)
  | comparing (i : ℕ) (list : Pointer)
  | taking (i : ℕ)
  | sending (ci : Option Pointer)
  deriving DecidableEq, Repr

/-- Of `launchers` all but its `clientList` is in use, which stays empty. After a fault nothing
    is said about the server any more. -/
structure State where
  launchers : LauncherMachine.State
  memory : Memory ClientInfo
  list : Pointer
  no_clients : ℕ
  adding : Adding
  lookups : ℕ → Lookup
  fault : Option Fault

def initial : State :=
  ⟨LauncherMachine.initial, [], .null, 0, .reallocating, fun _ => .testing 0, none⟩

inductive AddEvent where
  | realloc (given moved : Bool) | point | fill | count
  deriving DecidableEq, Repr

inductive LookupEvent where
  | test | load | compare | take | send
  deriving DecidableEq, Repr

inductive Event where
  | launchers (e : LauncherMachine.Event)
  | add (e : AddEvent)
  | lookup (client_fd : ℕ) (e : LookupEvent)
  deriving DecidableEq

def State.setLookup (s : State) (fd : ℕ) (lookup : Lookup) : State :=
  { s with lookups := Function.update s.lookups fd lookup }

@[simp] theorem State.setLookup_self (s : State) (fd : ℕ) (lookup : Lookup) :
    (s.setLookup fd lookup).lookups fd = lookup := Function.update_self ..

theorem State.setLookup_of_ne (s : State) {fd fd' : ℕ} (other : fd' ≠ fd) (lookup : Lookup) :
    (s.setLookup fd lookup).lookups fd' = s.lookups fd' := Function.update_of_ne other ..

/-- The listen thread is back from `addNewClient`, of which it ignores the result. -/
def State.returned (s : State) (fd : ℕ) : State :=
  { s with adding := .reallocating, launchers := { s.launchers with listen := .listing fd } }

/-- The handler sends the address and is back from `send_client_ip`. -/
def State.replied (s : State) (fd : ℕ) (c : Connection) (ci : ClientInfo) : State :=
  { s.setLookup fd (.testing 0) with
    launchers :=
      s.launchers.setConnection fd (setHandler (sendTo c (.ip ci.clientIP)) .sendingStart) }

def State.after {β : Type} (s : State) (prog : Program ClientInfo β) (next : β → State → State) :
    State :=
  match prog s.memory with
  | .ok (b, m) => next b { s with memory := m }
  | .error f => { s with fault := some f }

def addStep (s : State) (fd : ℕ) (peer : Address) (e : AddEvent) : Option State :=
  match s.adding, e with
  | .reallocating, .realloc given moved =>
    some (s.after (realloc given moved s.list (s.no_clients + 1)) fun new_list t =>
      if new_list = .null then t.returned fd else { t with adding := .pointing new_list })
  | .pointing new_list, .point => some { s with list := new_list, adding := .filling }
  | .filling, .fill =>
    some (s.after (store (s.list.advance s.no_clients) [⟨fd, peer⟩]) fun _ t =>
      { t with adding := .counting })
  | .counting, .count => some { s.returned fd with no_clients := s.no_clients + 1 }
  | _, _ => none

def lookupStep (s : State) (fd : ℕ) (c : Connection) (e : LookupEvent) : Option State :=
  match s.lookups fd, e with
  | .testing i, .test =>
    some (s.setLookup fd (if i < s.no_clients then .loading i else .sending none))
  | .loading i, .load => some (s.setLookup fd (.comparing i s.list))
  | .comparing i list, .compare => some (s.after (fetch (list.advance i)) fun ci t =>
      t.setLookup fd (if ci.sockfd = fd then .taking i else .testing (i + 1)))
  | .taking i, .take => some (s.setLookup fd (.sending (some (s.list.advance i))))
  | .sending (some ci), .send => some (s.after (fetch ci) fun ci t => t.replied fd c ci)
  | .sending none, .send => some { s with fault := some .uninitialised }
  | _, _ => none

/-- The steps of `LauncherMachine` that use its list of clients are those that are taken here
    in the memory. -/
def Kept : LauncherMachine.Event → Prop
  | .listen .addNewClient | .handler _ .sendClientIP => False
  | _ => True

instance (e : LauncherMachine.Event) : Decidable (Kept e) := by
  unfold Kept
  split <;> infer_instance

def step (config : List EntityConfig) (s : State) (e : Event) : Option State :=
  if s.fault = none then match e with
    | .launchers e =>
      if Kept e then
        (LauncherMachine.step config s.launchers e).map fun l => { s with launchers := l }
      else none
    | .add e =>
      if s.launchers.mainLoop = .aborted then none
      else match s.launchers.listen with
        | .adding fd peer => addStep s fd peer e
        | _ => none
    | .lookup fd e =>
      if s.launchers.mainLoop = .aborted then none
      else match s.launchers.connections[fd]? with
        | some c => if c.handler = .sendingIP then lookupStep s fd c e else none
        | none => none
  else none

/-- The listen thread takes a client up to its handler. -/
def adds (peer : Address) (moved : Bool) : List Event :=
  [.launchers (.listen (.accept peer)), .add (.realloc true moved), .add .point, .add .fill,
    .add .count, .launchers (.listen .pushClientFd), .launchers (.listen .createHandler)]

/-- The first handler has taken the pointer to the array when the second client comes. -/
def overlaps (peer : Address) (moved : Bool) : List Event :=
  adds peer true ++ [.lookup 0 .test, .lookup 0 .load, .launchers (.listen (.accept peer)),
    .add (.realloc true moved), .lookup 0 .compare]

inductive Move (config : List EntityConfig) (s : State) : Event → State → Prop where
  | launchers (e : LauncherMachine.Event) (l : LauncherMachine.State) (kept : Kept e)
      (h : LauncherMachine.step config s.launchers e = some l) :
      Move config s (.launchers e) { s with launchers := l }
  | realloc (fd : ℕ) (peer : Address) (given moved : Bool)
      (running : s.launchers.mainLoop ≠ .aborted)
      (listen : s.launchers.listen = .adding fd peer) (at' : s.adding = .reallocating) :
      Move config s (.add (.realloc given moved))
        (s.after (realloc given moved s.list (s.no_clients + 1)) fun new_list t =>
          if new_list = .null then t.returned fd else { t with adding := .pointing new_list })
  | point (p : Pointer) (at' : s.adding = .pointing p) :
      Move config s (.add .point) { s with list := p, adding := .filling }
  | fill (fd : ℕ) (peer : Address) (listen : s.launchers.listen = .adding fd peer)
      (at' : s.adding = .filling) :
      Move config s (.add .fill)
        (s.after (store (s.list.advance s.no_clients) [⟨fd, peer⟩]) fun _ t =>
          { t with adding := .counting })
  | count (fd : ℕ) (peer : Address) (running : s.launchers.mainLoop ≠ .aborted)
      (listen : s.launchers.listen = .adding fd peer) (at' : s.adding = .counting) :
      Move config s (.add .count) { s.returned fd with no_clients := s.no_clients + 1 }
  | test (fd i : ℕ) (c : Connection) (found : s.launchers.connections[fd]? = some c)
      (serving : c.handler = .sendingIP) (at' : s.lookups fd = .testing i) :
      Move config s (.lookup fd .test)
        (s.setLookup fd (if i < s.no_clients then .loading i else .sending none))
  | load (fd i : ℕ) (c : Connection) (found : s.launchers.connections[fd]? = some c)
      (serving : c.handler = .sendingIP) (at' : s.lookups fd = .loading i) :
      Move config s (.lookup fd .load) (s.setLookup fd (.comparing i s.list))
  | compare (fd i : ℕ) (list : Pointer) (c : Connection)
      (found : s.launchers.connections[fd]? = some c) (serving : c.handler = .sendingIP)
      (at' : s.lookups fd = .comparing i list) :
      Move config s (.lookup fd .compare) (s.after (fetch (list.advance i)) fun ci t =>
        t.setLookup fd (if ci.sockfd = fd then .taking i else .testing (i + 1)))
  | take (fd i : ℕ) (c : Connection) (found : s.launchers.connections[fd]? = some c)
      (serving : c.handler = .sendingIP) (at' : s.lookups fd = .taking i) :
      Move config s (.lookup fd .take) (s.setLookup fd (.sending (some (s.list.advance i))))
  | send (fd : ℕ) (c : Connection) (p : Pointer) (running : s.launchers.mainLoop ≠ .aborted)
      (found : s.launchers.connections[fd]? = some c) (serving : c.handler = .sendingIP)
      (at' : s.lookups fd = .sending (some p)) :
      Move config s (.lookup fd .send) (s.after (fetch p) fun ci t => t.replied fd c ci)
  | sendNothing (fd : ℕ) (c : Connection) (found : s.launchers.connections[fd]? = some c)
      (serving : c.handler = .sendingIP) (at' : s.lookups fd = .sending none) :
      Move config s (.lookup fd .send) { s with fault := some .uninitialised }

variable {config : List EntityConfig} {s u : State} {e : Event}

theorem addStep_move {fd : ℕ} {peer : Address} {e : AddEvent}
    (running : s.launchers.mainLoop ≠ .aborted) (listen : s.launchers.listen = .adding fd peer)
    (h : addStep s fd peer e = some u) : Move config s (.add e) u := by
  unfold addStep at h
  split at h
  · cases h
    exact .realloc fd peer _ _ running listen (by assumption)
  · cases h
    exact .point _ (by assumption)
  · cases h
    exact .fill fd peer listen (by assumption)
  · cases h
    exact .count fd peer running listen (by assumption)
  · cases h

theorem lookupStep_move {fd : ℕ} {c : Connection} {e : LookupEvent}
    (running : s.launchers.mainLoop ≠ .aborted) (found : s.launchers.connections[fd]? = some c)
    (serving : c.handler = .sendingIP) (h : lookupStep s fd c e = some u) :
    Move config s (.lookup fd e) u := by
  unfold lookupStep at h
  split at h
  · cases h
    exact .test fd _ c found serving (by assumption)
  · cases h
    exact .load fd _ c found serving (by assumption)
  · cases h
    exact .compare fd _ _ c found serving (by assumption)
  · cases h
    exact .take fd _ c found serving (by assumption)
  · cases h
    exact .send fd c _ running found serving (by assumption)
  · cases h
    exact .sendNothing fd c found serving (by assumption)
  · cases h

theorem step_move (h : step config s e = some u) : s.fault = none ∧ Move config s e u := by
  unfold step at h
  split at h
  case isFalse => cases h
  case isTrue fine =>
    refine ⟨fine, ?_⟩
    cases e with
    | launchers e =>
      simp only [] at h
      split at h
      · obtain ⟨l, hl, rfl⟩ := Option.map_eq_some_iff.mp h
        exact .launchers e l (by assumption) hl
      · cases h
    | add e =>
      simp only [] at h
      split at h
      · cases h
      · split at h
        · exact addStep_move (by assumption) (by assumption) h
        · cases h
    | lookup fd e =>
      simp only [] at h
      split at h
      · cases h
      · split at h
        · split at h
          · exact lookupStep_move (by assumption) (by assumption) (by assumption) h
          · cases h
        · cases h

end Cezfuzzer.ClientListMemory
