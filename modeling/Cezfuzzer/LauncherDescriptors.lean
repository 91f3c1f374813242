import Cezfuzzer.Tallies
import Cezfuzzer.LauncherMachine

set_option autoImplicit false

/-!
# One variable for every accepted descriptor

`listen_thread_func` keeps the descriptor of the connection it has accepted in `client_fd`,
and gives each handler thread the address of that variable. A handler reads it in its first
step, which may come after the next `accept`.
-/
namespace Cezfuzzer.LauncherDescriptors
open StepRuns Tallies LauncherMessages
open LauncherMachine (ClientInfo)

/-- `listen_thread_func`: in `accept`, then before `addNewClient`, before the `push_back`, and
    before the `pthread_create`. -/
inductive Listen where
  | accepting
  | adding (peer : Address)
  | listing
  | creating
  deriving DecidableEq

/-- `handle_client_connection`: before `client_fd = *(int*) arg`, and then with the
    descriptor that it has read. -/
inductive Handler where
  | created
  | sendingIP (client_fd : ℕ)
  | sendingStart (client_fd : ℕ)
  | receiving (client_fd : ℕ)
  deriving DecidableEq

def Handler.fd : Handler → Option ℕ
  | .created => none
  | .sendingIP client_fd | .sendingStart client_fd | .receiving client_fd => some client_fd

/-- `sent` are the frames sent and the descriptors they were sent on, `crashes` the
    descriptors with a `CRASH` in flight, one entry for each, and `taken` each `CRASH` that
    was read with the number of the handler that read it. -/
structure State where
  client_fd : ℕ
  listen : Listen
  accepted : List ℕ
  clientList : List ClientInfo
  clientFdList : List ℕ
  handlers : List Handler
  sent : List (ℕ × Frame)
  crashes : List ℕ
  taken : List (ℕ × ℕ)
  deriving DecidableEq

def initial : State := ⟨0, .accepting, [], [], [], [], [], [], []⟩

inductive Event where
  | accept (fd : ℕ) (peer : Address)
  | addNewClient | pushClientFd | createHandler
  | readFd (i : ℕ) | sendClientIP (i : ℕ) | sendStartSignal (i : ℕ)
  | crash (fd : ℕ) | recvMessage (i : ℕ)
  deriving DecidableEq

def State.setHandler (s : State) (i : ℕ) (h : Handler) : State :=
  { s with handlers := s.handlers.set i h }

/-- No accepted descriptor is closed, so that `accept` returns another one each time. -/
def step (s : State) : Event → Option State
  | .accept fd peer =>
    if s.listen = .accepting ∧ fd ∉ s.accepted then
      some { s with client_fd := fd, listen := .adding peer, accepted := s.accepted ++ [fd] }
    else none
  | .addNewClient => match s.listen with
    | .adding peer => some { s with
        listen := .listing, clientList := s.clientList ++ [⟨s.client_fd, peer⟩] }
    | _ => none
  | .pushClientFd =>
    if s.listen = .listing then
      some { s with listen := .creating, clientFdList := s.clientFdList ++ [s.client_fd] }
    else none
  | .createHandler =>
    if s.listen = .creating then
      some { s with listen := .accepting, handlers := s.handlers ++ [.created] }
    else none
  | .readFd i =>
    if s.handlers[i]? = some .created then some (s.setHandler i (.sendingIP s.client_fd))
    else none
  | .sendClientIP i => match s.handlers[i]? with
    | some (.sendingIP fd) => match s.clientList.find? (fun ci => ci.sockfd = fd) with
      | some ci => some { s.setHandler i (.sendingStart fd) with
          sent := s.sent ++ [(fd, .ip ci.clientIP)] }
      | none => none
    | _ => none
  | .sendStartSignal i => match s.handlers[i]? with
    | some (.sendingStart fd) => some { s.setHandler i (.receiving fd) with
        sent := s.sent ++ [(fd, .start)] }
    | _ => none
  | .crash fd => if fd ∈ s.accepted then some { s with crashes := s.crashes ++ [fd] } else none
  | .recvMessage i => match s.handlers[i]? with
    | some (.receiving fd) =>
      if fd ∈ s.crashes then
        some { s with crashes := s.crashes.erase fd, taken := s.taken ++ [(fd, i)] }
      else none
    | _ => none

inductive Move (s : State) : Event → State → Prop where
  | accept (fd : ℕ) (peer : Address) (at' : s.listen = .accepting) (new : fd ∉ s.accepted) :
      Move s (.accept fd peer)
        { s with client_fd := fd, listen := .adding peer, accepted := s.accepted ++ [fd] }
  | addNewClient (peer : Address) (at' : s.listen = .adding peer) :
      Move s .addNewClient { s with
        listen := .listing, clientList := s.clientList ++ [⟨s.client_fd, peer⟩] }
  | pushClientFd (at' : s.listen = .listing) :
      Move s .pushClientFd
        { s with listen := .creating, clientFdList := s.clientFdList ++ [s.client_fd] }
  | createHandler (at' : s.listen = .creating) :
      Move s .createHandler
        { s with listen := .accepting, handlers := s.handlers ++ [.created] }
  | readFd (i : ℕ) (at' : s.handlers[i]? = some .created) :
      Move s (.readFd i) (s.setHandler i (.sendingIP s.client_fd))
  | sendClientIP (i fd : ℕ) (ci : ClientInfo) (at' : s.handlers[i]? = some (.sendingIP fd)) :
      Move s (.sendClientIP i) { s.setHandler i (.sendingStart fd) with
        sent := s.sent ++ [(fd, .ip ci.clientIP)] }
  | sendStartSignal (i fd : ℕ) (at' : s.handlers[i]? = some (.sendingStart fd)) :
      Move s (.sendStartSignal i) { s.setHandler i (.receiving fd) with
        sent := s.sent ++ [(fd, .start)] }
  | crash (fd : ℕ) : Move s (.crash fd) { s with crashes := s.crashes ++ [fd] }
  | recvMessage (i fd : ℕ) (at' : s.handlers[i]? = some (.receiving fd)) :
      Move s (.recvMessage i)
        { s with crashes := s.crashes.erase fd, taken := s.taken ++ [(fd, i)] }

theorem step_move {s u : State} {e : Event} (h : step s e = some u) : Move s e u := by
  cases e with
  | accept fd peer =>
    simp only [step] at h
    split at h
    · rename_i both
      cases h
      exact .accept fd peer both.1 both.2
    · cases h
  | addNewClient =>
    simp only [step] at h
    split at h
    · cases h
      exact .addNewClient _ (by assumption)
    · cases h
  | pushClientFd | createHandler | readFd i =>
    simp only [step] at h
    split at h
    · cases h
      constructor
      assumption
    · cases h
  | sendClientIP i =>
    simp only [step] at h
    split at h
    · split at h
      · cases h
        exact .sendClientIP i _ _ (by assumption)
      · cases h
    · cases h
  | sendStartSignal i =>
    simp only [step] at h
    split at h
    · cases h
      exact .sendStartSignal i _ (by assumption)
    · cases h
  | crash fd =>
    simp only [step] at h
    split at h
    · cases h
      exact .crash fd
    · cases h
  | recvMessage i =>
    simp only [step] at h
    split at h
    · split at h
      · cases h
        exact .recvMessage i _ (by assumption)
      · cases h
    · cases h

def readsFd (fd : ℕ) (h : Handler) : ℕ := if h.fd = some fd then 1 else 0

/-- How many handlers have read `fd` for their descriptor. -/
def readers (s : State) (fd : ℕ) : ℕ := tally (readsFd fd) s.handlers

def ipOn (fd : ℕ) : ℕ × Frame → ℕ
  | (d, .ip _) => if d = fd then 1 else 0
  | _ => 0

def startOn (fd : ℕ) : ℕ × Frame → ℕ
  | (d, .start) => if d = fd then 1 else 0
  | _ => 0

/-- `fd` is still in `client_fd`, and a handler is yet to read it there. -/
def Awaited (s : State) (fd : ℕ) : Prop :=
  s.client_fd = fd ∧ (s.listen ≠ .accepting ∨ .created ∈ s.handlers)

/-- Each accepted descriptor has one handler, or is about to get it; no client is greeted
    twice, one that is served has been greeted, and only one thread reads its crashes. -/
structure Served (s : State) : Prop where
  reader : ∀ fd ∈ s.accepted, readers s fd = 1 ∨ readers s fd = 0 ∧ Awaited s fd
  stranger : ∀ fd ∉ s.accepted, readers s fd = 0
  once : ∀ fd, tally (ipOn fd) s.sent ≤ 1 ∧ tally (startOn fd) s.sent ≤ 1
  greeted : ∀ fd, .receiving fd ∈ s.handlers →
    tally (ipOn fd) s.sent = 1 ∧ tally (startOn fd) s.sent = 1
  crashes : ∀ fd i j, (fd, i) ∈ s.taken → (fd, j) ∈ s.taken → i = j

/-- A new descriptor is stored only when every handler has read its own. -/
def ReadBefore (s : State) : Event → Prop
  | .accept _ _ => .created ∉ s.handlers
  | _ => True

instance (s : State) (e : Event) : Decidable (ReadBefore s e) := by
  unfold ReadBefore
  split <;> infer_instance

variable {s u : State} {e : Event}

def greetedIP (fd : ℕ) (h : Handler) : ℕ :=
  if h = .sendingStart fd ∨ h = .receiving fd then 1 else 0

def greetedStart (fd : ℕ) (h : Handler) : ℕ := if h = .receiving fd then 1 else 0

/-- The descriptors accepted that no handler has been created for. -/
def unassigned : Listen → ℕ
  | .accepting => 0
  | _ => 1

/-- What holds in every run: there are as many handlers as descriptors, each has read one
    that was accepted, and what was sent on it is what its phase says. -/
structure Sound (s : State) : Prop where
  nodup : s.accepted.Nodup
  size : s.accepted.length = s.handlers.length + unassigned s.listen
  stored : s.accepted ≠ [] → s.client_fd ∈ s.accepted
  reads : ∀ h ∈ s.handlers, ∀ fd ∈ h.fd, fd ∈ s.accepted
  ips : ∀ fd, tally (ipOn fd) s.sent = tally (greetedIP fd) s.handlers
  starts : ∀ fd, tally (startOn fd) s.sent = tally (greetedStart fd) s.handlers
  taken : ∀ x ∈ s.taken, s.handlers[x.2]? = some (.receiving x.1)

theorem initial_sound : Sound initial := by
  constructor <;> simp [initial, unassigned]

theorem tally_setHandler (w : Handler → ℕ) {i : ℕ} {h : Handler} (at' : s.handlers[i]? = some h)
    (h' : Handler) : tally w (s.setHandler i h').handlers + w h = tally w s.handlers + w h' :=
  tally_set w at' h'

theorem accepted_ne_nil (sound : Sound s) {i : ℕ} {h : Handler} (at' : s.handlers[i]? = some h) :
    s.accepted ≠ [] := by
  intro none
  have := (List.getElem?_eq_some_iff.mp at').1
  have := sound.size
  rw [none, List.length_nil] at this
  omega

theorem reads_setHandler (sound : Sound s) (i : ℕ) {h : Handler}
    (new : ∀ fd ∈ h.fd, fd ∈ s.accepted) :
    ∀ h' ∈ (s.setHandler i h).handlers, ∀ fd ∈ h'.fd, fd ∈ s.accepted := by
  intro h' member
  rcases List.mem_or_eq_of_mem_set member with member | rfl
  · exact sound.reads h' member
  · exact new

theorem taken_setHandler (sound : Sound s) {i : ℕ} {h : Handler} (h' : Handler)
    (at' : s.handlers[i]? = some h) (other : ∀ fd, h ≠ .receiving fd) :
    ∀ x ∈ s.taken, (s.setHandler i h').handlers[x.2]? = some (.receiving x.1) := by
  intro x member
  have reader := sound.taken x member
  by_cases same : x.2 = i
  · rw [same, at', Option.some.injEq] at reader
    exact absurd reader (other _)
  · exact (List.getElem?_set_ne (Ne.symm same)).trans reader

theorem sound_move (sound : Sound s) (move : Move s e u) : Sound u := by
  cases move with
  | accept fd peer at' new =>
    obtain ⟨nodup, size, stored, reads, ips, starts, taken⟩ := sound
    refine ⟨?_, ?_, ?_, ?_, ips, starts, taken⟩
    · refine List.nodup_append.mpr ⟨nodup, by simp, ?_⟩
      intro a member b last same
      rw [List.mem_singleton] at last
      exact new (last ▸ same ▸ member)
    · simp [size, at', unassigned]
    · simp
    · intro h member fd' read
      exact List.mem_append_left _ (reads h member fd' read)
  | addNewClient peer at' =>
    exact ⟨sound.nodup, by simp [sound.size, at', unassigned], sound.stored, sound.reads, sound.ips,
      sound.starts, sound.taken⟩
  | pushClientFd at' =>
    exact ⟨sound.nodup, by simp [sound.size, at', unassigned], sound.stored, sound.reads, sound.ips,
      sound.starts, sound.taken⟩
  | createHandler at' =>
    refine ⟨sound.nodup, by simp [sound.size, at', unassigned], sound.stored, ?_, ?_, ?_, ?_⟩
    · intro h member
      rcases List.mem_append.mp member with member | member
      · exact sound.reads h member
      · obtain rfl := List.mem_singleton.mp member
        simp [Handler.fd]
    · simp [sound.ips, greetedIP]
    · simp [sound.starts, greetedStart]
    · intro x member
      have reader := sound.taken x member
      exact (List.getElem?_append_left (List.getElem?_eq_some_iff.mp reader).1).trans reader
  | readFd i at' =>
    have some := accepted_ne_nil sound at'
    refine ⟨sound.nodup, by simp [sound.size, State.setHandler], sound.stored, ?_, ?_, ?_, ?_⟩
    · exact reads_setHandler sound i (by simpa [Handler.fd] using sound.stored some)
    · intro fd
      have := tally_setHandler (greetedIP fd) at' (.sendingIP s.client_fd)
      simp only [greetedIP, reduceCtorEq, or_self, if_false] at this
      exact (sound.ips fd).trans this.symm
    · intro fd
      have := tally_setHandler (greetedStart fd) at' (.sendingIP s.client_fd)
      simp only [greetedStart, reduceCtorEq, if_false] at this
      exact (sound.starts fd).trans this.symm
    · exact taken_setHandler sound _ at' (by simp)
  | sendClientIP i fd ci at' =>
    have own := sound.reads _ (List.mem_of_getElem? at') fd rfl
    refine ⟨sound.nodup, by simp [sound.size, State.setHandler], sound.stored, ?_, ?_, ?_, ?_⟩
    · exact reads_setHandler sound i (by simpa [Handler.fd] using own)
    · intro fd'
      have := tally_setHandler (greetedIP fd') at' (.sendingStart fd)
      simp only [greetedIP, reduceCtorEq, or_self, if_false, or_false,
        Handler.sendingStart.injEq] at this
      simp only [tally_append, tally_singleton, ipOn, sound.ips fd']
      exact this.symm
    · intro fd'
      have := tally_setHandler (greetedStart fd') at' (.sendingStart fd)
      simp only [greetedStart, reduceCtorEq, if_false] at this
      simp only [tally_append, tally_singleton, startOn, sound.starts fd']
      exact this.symm
    · exact taken_setHandler sound _ at' (by simp)
  | sendStartSignal i fd at' =>
    have own := sound.reads _ (List.mem_of_getElem? at') fd rfl
    refine ⟨sound.nodup, by simp [sound.size, State.setHandler], sound.stored, ?_, ?_, ?_, ?_⟩
    · exact reads_setHandler sound i (by simpa [Handler.fd] using own)
    · intro fd'
      have := tally_setHandler (greetedIP fd') at' (.receiving fd)
      simp only [greetedIP, reduceCtorEq, or_false, false_or, Handler.sendingStart.injEq,
        Handler.receiving.injEq, Nat.add_right_cancel_iff] at this
      simp only [tally_append, tally_singleton, ipOn, sound.ips fd']
      exact this.symm
    · intro fd'
      have := tally_setHandler (greetedStart fd') at' (.receiving fd)
      simp only [greetedStart, reduceCtorEq, if_false, Handler.receiving.injEq] at this
      simp only [tally_append, tally_singleton, startOn, sound.starts fd']
      exact this.symm
    · exact taken_setHandler sound _ at' (by simp)
  | crash fd => exact { sound with }
  | recvMessage i fd at' =>
    refine { sound with taken := ?_ }
    intro x member
    rcases List.mem_append.mp member with member | member
    · exact sound.taken x member
    · obtain rfl := List.mem_singleton.mp member
      exact at'

/-- The descriptor that each handler has, or would read now, in the order of the handlers. -/
def descriptors (s : State) : List ℕ :=
  s.handlers.map (fun h => h.fd.getD s.client_fd) ++
    List.replicate (unassigned s.listen) s.client_fd

theorem descriptors_set {i : ℕ} {h : Handler} (at' : s.handlers[i]? = some h) (h' : Handler)
    (same : h'.fd.getD s.client_fd = h.fd.getD s.client_fd) :
    descriptors (s.setHandler i h') = descriptors s := by
  have entry : (s.handlers.map (fun h => h.fd.getD s.client_fd))[i]? =
      some (h.fd.getD s.client_fd) := by
    rw [List.getElem?_map, at', Option.map_some]
  obtain ⟨lt, get⟩ := List.getElem?_eq_some_iff.mp entry
  simp only [descriptors, State.setHandler, List.map_set, same]
  rw [← get, List.set_getElem_self]

/-- As long as every descriptor is read before the next one is stored, the handlers have the
    accepted descriptors one by one. -/
theorem descriptors_move (order : descriptors s = s.accepted) (met : ReadBefore s e)
    (move : Move s e u) : descriptors u = u.accepted := by
  cases move with
  | accept fd peer at' new =>
    have kept : s.handlers.map (fun h => h.fd.getD fd) =
        s.handlers.map (fun h => h.fd.getD s.client_fd) := by
      apply List.map_congr_left
      intro h member
      cases h with
      | created => exact absurd member met
      | _ => rfl
    simp only [descriptors, at', unassigned, List.replicate_zero, List.append_nil] at order
    simp [descriptors, unassigned, kept, order]
  | addNewClient peer at' | pushClientFd at' =>
    simpa [descriptors, at', unassigned] using order
  | createHandler at' =>
    simpa [descriptors, at', unassigned, Handler.fd] using order
  | readFd i at' =>
    exact (descriptors_set at' (.sendingIP s.client_fd) rfl).trans order
  | sendClientIP i fd ci at' =>
    exact (descriptors_set at' (.sendingStart fd) rfl).trans order
  | sendStartSignal i fd at' =>
    exact (descriptors_set at' (.receiving fd) rfl).trans order
  | crash fd | recvMessage i fd at' => exact order

theorem readers_le_count (s : State) (fd : ℕ) : readers s fd ≤ (descriptors s).count fd := by
  have each : ∀ l : List Handler,
      tally (readsFd fd) l ≤ (l.map (fun h => h.fd.getD s.client_fd)).count fd := by
    intro l
    induction l with
    | nil => simp
    | cons h l ih =>
      simp only [tally_cons, List.map_cons, List.count_cons, readsFd]
      cases h.fd with
      | none =>
        simp only [reduceCtorEq, if_false]
        omega
      | some d =>
        simp only [Option.some.injEq, Option.getD_some, beq_iff_eq]
        omega
  rw [descriptors, List.count_append]
  exact (each s.handlers).trans (Nat.le_add_right _ _)

theorem readers_eq_zero {s : State} {fd : ℕ} :
    readers s fd = 0 ↔ ∀ h ∈ s.handlers, h.fd ≠ some fd := by
  simp [readers, tally_eq_zero, readsFd]

theorem awaited_of_unread {fd : ℕ} (member : fd ∈ descriptors s) (unread : readers s fd = 0) :
    Awaited s fd := by
  rw [readers_eq_zero] at unread
  rcases List.mem_append.mp member with member | member
  · obtain ⟨h, hh, rfl⟩ := List.mem_map.mp member
    have own := unread h hh
    cases h with
    | created => exact ⟨rfl, Or.inr hh⟩
    | _ => simp [Handler.fd] at own
  · have last := List.eq_of_mem_replicate member
    refine ⟨last.symm, Or.inl fun at' => ?_⟩
    simp [at', unassigned] at member

theorem greetedIP_le (fd : ℕ) (h : Handler) : greetedIP fd h ≤ readsFd fd h := by
  unfold greetedIP readsFd
  cases h <;> simp [Handler.fd]

theorem greetedStart_le (fd : ℕ) (h : Handler) : greetedStart fd h ≤ greetedIP fd h := by
  unfold greetedStart greetedIP
  split <;> simp_all

theorem served_of_order (sound : Sound s) (order : descriptors s = s.accepted) : Served s := by
  have once : ∀ fd, readers s fd ≤ 1 := fun fd =>
    (readers_le_count s fd).trans (order ▸ List.nodup_iff_count.mp sound.nodup fd)
  have ips : ∀ fd, tally (greetedIP fd) s.handlers ≤ readers s fd :=
    fun fd => tally_le (greetedIP_le fd) s.handlers
  have starts : ∀ fd, tally (greetedStart fd) s.handlers ≤ tally (greetedIP fd) s.handlers :=
    fun fd => tally_le (greetedStart_le fd) s.handlers
  refine ⟨?_, ?_, ?_, ?_, ?_⟩
  · intro fd member
    have := once fd
    by_cases unread : readers s fd = 0
    · exact Or.inr ⟨unread, awaited_of_unread (order ▸ member) unread⟩
    · exact Or.inl (by omega)
  · intro fd stranger
    exact readers_eq_zero.mpr fun h hh read => stranger (sound.reads h hh fd read)
  · intro fd
    rw [sound.ips, sound.starts]
    have := once fd
    have := ips fd
    have := starts fd
    omega
  · intro fd receiving
    rw [sound.ips, sound.starts]
    have some : tally (greetedStart fd) s.handlers ≠ 0 := by
      intro none
      have := tally_eq_zero.mp none _ receiving
      simp [greetedStart] at this
    have := once fd
    have := ips fd
    have := starts fd
    omega
  · intro fd i j hi hj
    have distinct : (s.handlers.map (fun h => h.fd.getD s.client_fd)).Nodup :=
      (List.nodup_append.mp (order ▸ sound.nodup : (descriptors s).Nodup)).1
    have read : ∀ k, (fd, k) ∈ s.taken →
        (s.handlers.map (fun h => h.fd.getD s.client_fd))[k]? = some fd := by
      intro k member
      rw [List.getElem?_map, sound.taken _ member]
      rfl
    have lt := (List.getElem?_eq_some_iff.mp (read i hi)).1
    exact (List.getElem?_inj lt distinct).mp ((read i hi).trans (read j hj).symm)

/-- A descriptor that is no longer in `client_fd` and that no handler has read. -/
def Lost (s : State) : Prop := ∃ fd ∈ s.accepted, s.client_fd ≠ fd ∧ readers s fd = 0

theorem lost_not_served (lost : Lost s) : ¬ Served s := by
  obtain ⟨fd, member, gone, unread⟩ := lost
  intro served
  rcases served.reader fd member with read | ⟨-, stored, -⟩
  · omega
  · exact gone stored

theorem readers_setHandler {fd i : ℕ} {h : Handler} (at' : s.handlers[i]? = some h) (h' : Handler)
    (same : readsFd fd h' = readsFd fd h) : readers (s.setHandler i h') fd = readers s fd := by
  have := tally_setHandler (readsFd fd) at' h'
  simp only [readers]
  omega

/-- Handlers only ever read what is in `client_fd`. -/
theorem lost_move (lost : Lost s) (move : Move s e u) : Lost u := by
  obtain ⟨fd, member, gone, unread⟩ := lost
  cases move with
  | accept fd' peer at' new =>
    refine ⟨fd, List.mem_append_left _ member, ?_, unread⟩
    rintro rfl
    exact new member
  | createHandler at' =>
    refine ⟨fd, member, gone, ?_⟩
    simpa [readers, readsFd, Handler.fd] using unread
  | readFd i at' =>
    refine ⟨fd, member, gone, (readers_setHandler at' _ ?_).trans unread⟩
    simp [readsFd, Handler.fd, gone]
  | sendClientIP i fd' ci at' =>
    exact ⟨fd, member, gone, (readers_setHandler at' (.sendingStart fd') rfl).trans unread⟩
  | sendStartSignal i fd' at' =>
    exact ⟨fd, member, gone, (readers_setHandler at' (.receiving fd') rfl).trans unread⟩
  | addNewClient peer at' | pushClientFd at' | crash fd' | recvMessage i fd' at' =>
    exact ⟨fd, member, gone, unread⟩

/-- While one handler has not read its descriptor, there is an accepted one without a reader. -/
theorem exists_unread (sound : Sound s) (at' : s.listen = .accepting)
    (pending : .created ∈ s.handlers) : ∃ fd ∈ s.accepted, readers s fd = 0 := by
  by_contra all
  have sub : s.accepted ⊆ s.handlers.filterMap Handler.fd := by
    intro fd member
    by_contra unread
    refine all ⟨fd, member, readers_eq_zero.mpr fun h hh read => unread ?_⟩
    exact List.mem_filterMap.mpr ⟨h, hh, read⟩
  have few : (s.handlers.filterMap Handler.fd).length < s.handlers.length := by
    rw [List.length_filterMap_lt_length_iff_exists]
    exact ⟨.created, pending, rfl⟩
  have := sound.nodup.length_le_of_subset sub
  have := sound.size
  rw [at', unassigned] at this
  omega

theorem early_lost (sound : Sound s) (move : Move s e u) (early : ¬ ReadBefore s e) : Lost u := by
  cases move with
  | accept fd peer at' new =>
    have pending : .created ∈ s.handlers := by simpa [ReadBefore] using early
    obtain ⟨fd', member, unread⟩ := exists_unread sound at' pending
    refine ⟨fd', List.mem_append_left _ member, ?_, unread⟩
    rintro rfl
    exact new member
  | _ => exact absurd trivial early

theorem run_sound {es : List Event} (run : Runs step anyStep initial es s) : Sound s :=
  run.state_invariant Sound initial_sound (fun _ _ _ sound _ hs => sound_move sound (step_move hs))

theorem run_order {es : List Event} (run : Runs step ReadBefore initial es s) :
    descriptors s = s.accepted :=
  run.state_invariant (fun s => descriptors s = s.accepted) rfl
    (fun _ _ _ order met hs => descriptors_move order met (step_move hs))

theorem run_readBefore {es : List Event} (run : Runs step anyStep initial es s)
    (kept : ¬ Lost s) : Runs step ReadBefore initial es s := by
  induction run with
  | refl => exact .refl
  | @next es t u e head _ hs ih =>
    have move := step_move hs
    refine .next (ih fun lost => kept (lost_move lost move)) ?_ hs
    by_contra early
    exact kept (early_lost (run_sound head) move early)

/-- Every client has its own handler in exactly the runs in which each handler reads
    `client_fd` before the next connection is accepted. -/
theorem served_iff_readBefore (es : List Event) (s : State)
    (run : Runs step anyStep initial es s) :
    Served s ↔ Runs step ReadBefore initial es s :=
  ⟨fun served => run_readBefore run fun lost => lost_not_served lost served,
    fun read => served_of_order (run_sound run) (run_order read)⟩

/-- When all threads have come to rest there is exactly one of each. -/
theorem served_rest (served : Served s) (at' : s.listen = .accepting)
    (rest : ∀ h ∈ s.handlers, ∃ fd, h = .receiving fd) (fd : ℕ) (member : fd ∈ s.accepted) :
    readers s fd = 1 ∧ tally (ipOn fd) s.sent = 1 ∧ tally (startOn fd) s.sent = 1 := by
  have read : readers s fd = 1 := by
    rcases served.reader fd member with read | ⟨-, -, listening | pending⟩
    · exact read
    · exact absurd at' listening
    · obtain ⟨_, other⟩ := rest _ pending
      cases other
  refine ⟨read, ?_⟩
  have found : ∃ h ∈ s.handlers, h.fd = some fd := by
    by_contra none
    have := readers_eq_zero.mpr fun h hh own => none ⟨h, hh, own⟩
    omega
  obtain ⟨h, hh, own⟩ := found
  obtain ⟨fd', rfl⟩ := rest h hh
  obtain rfl : fd' = fd := by simpa [Handler.fd] using own
  exact served.greeted fd' hh

def accepts (fd : ℕ) : List Event :=
  [.accept fd LauncherMachine.clientAddress, .addNewClient, .pushClientFd, .createHandler]

def serves (i : ℕ) : List Event := [.readFd i, .sendClientIP i, .sendStartSignal i]

/-- Two launchers connect at once; both handlers run after the second `accept`. -/
def closeTogether : List Event := accepts 4 ++ accepts 5 ++ serves 0 ++ serves 1

/-- The first client hears nothing, the second is greeted twice. -/
theorem closeTogether_not_served : ∃ s,
    Runs step anyStep initial closeTogether s ∧ ¬ Served s ∧
      readers s 4 = 0 ∧ readers s 5 = 2 ∧ tally (ipOn 5) s.sent = 2 := by
  obtain ⟨s, hs, h⟩ := exists_execute step initial closeTogether
    (fun s => decide (s.accepted = [4, 5] ∧ s.client_fd = 5 ∧
      readers s 4 = 0 ∧ readers s 5 = 2 ∧ tally (ipOn 5) s.sent = 2)) (by decide +kernel)
  obtain ⟨accepted, stored, none, two, ips⟩ := of_decide_eq_true h
  refine ⟨s, runs_of_unguarded hs, lost_not_served ⟨4, ?_, ?_, none⟩, none, two, ips⟩
  · simp [accepted]
  · simp [stored]

def spacedApart : List Event := accepts 4 ++ [.readFd 0] ++ accepts 5 ++
  [.sendClientIP 0, .sendStartSignal 0] ++ serves 1 ++ [.crash 5, .recvMessage 1]

theorem spacedApart_served : ∃ s, Runs step anyStep initial spacedApart s ∧ Served s := by
  obtain ⟨s, hs, -⟩ := exists_execute (guarded step ReadBefore) initial spacedApart
    (fun _ => true) (by decide +kernel)
  have run := runs_of_guarded hs
  exact ⟨s, run.forget, (served_iff_readBefore spacedApart s run.forget).mpr run⟩

end Cezfuzzer.LauncherDescriptors
