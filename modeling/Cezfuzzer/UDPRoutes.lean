import Cezfuzzer.UDPViews

set_option autoImplicit false

/-!
# A datagram at a time

`UDPDirections` takes a datagram through the loop of its thread in one step, and can so follow
every run of `UDPProxy`: what a thread does to a datagram shows when it is sent or lost. The
directions are then right in both.
-/
namespace Cezfuzzer.UDPRoutes
open StepRuns UDPHandlerSockets UDPReaders UDPProxy UDPViews
open UDPRelay (Datagram)

variable {getsockname : ℤ → Option ℤ} {attempts : List Attempt} {ts : List Thread} {s : State}
  {t : Thread} {i : ℕ}

/-- From which socket, through which one and to which IP. -/
def routeOf : Entry → Option (ℤ × ℤ × String)
  | .received _ _ => none
  | .sent t x => some (t.sock, x.fd, x.ip)

def relayRoute (r : UDPDirections.Relay) : Option (ℤ × ℤ × String) :=
  r.sent.map (fun x => (r.sock, x))

/-- The same sockets are closed, and the same has been sent. -/
structure Merged (ts : List Thread) (s : State) (r : UDPDirections.State) : Prop where
  shut : Shut ts s
  full : ∀ i d, UDPRelay.inHand (s.phase i) = some d → d.buffer ≠ []
  closed : r.closed = s.closed
  routes : r.log.filterMap relayRoute = s.log.filterMap routeOf

theorem merged_initial (ts : List Thread) : Merged ts initial UDPDirections.initial :=
  ⟨shut_initial ts, fun _ _ held => (by cases held), rfl, rfl⟩

/-- The socket of a thread is open until the thread ends. -/
theorem sock_open (single : (ts.map Thread.sock).Nodup) (shut : Shut ts s) (at' : ts[i]? = some t)
    (running : s.phase i ≠ .closed) : t.sock ∉ s.closed := by
  intro closed
  obtain ⟨j, t', there, sock, ended⟩ := (shut t.sock).mp closed
  have same : (ts.map Thread.sock)[j]? = (ts.map Thread.sock)[i]? := by
    rw [List.getElem?_map, List.getElem?_map, there, at', Option.map_some, Option.map_some, sock]
  have low : j < (ts.map Thread.sock).length := by
    rw [List.length_map]
    exact (List.getElem?_eq_some_iff.mp there).1
  obtain rfl := (List.getElem?_inj low single).mp same
  exact running ended

theorem full_setPhase {p : UDPRelay.Thread}
    (full : ∀ i d, UDPRelay.inHand (s.phase i) = some d → d.buffer ≠ [])
    (new : ∀ d, UDPRelay.inHand p = some d → d.buffer ≠ []) (j : ℕ) (d : Datagram)
    (held : UDPRelay.inHand ((s.setPhase i p).phase j) = some d) : d.buffer ≠ [] := by
  simp only [State.setPhase, Function.update_apply] at held
  split at held
  · exact new d held
  · exact full j d held

theorem inHand_afterChoice (t : Thread) (d : Datagram) (port : ℤ) :
    UDPRelay.inHand (afterChoice t d port) = some d := by
  unfold afterChoice
  split <;> rfl

/-- A thread that is done with a datagram: `UDPDirections` takes it through the loop now. -/
theorem merged_done {r : UDPDirections.State} (merged : Merged ts s r)
    (single : (ts.map Thread.sock).Nodup) (at' : ts[i]? = some t) {d : Datagram}
    (held : UDPRelay.inHand (s.phase i) = some d) :
    d.data ≠ [] ∧ UDPDirections.step ts r ⟨i, d.data⟩ = some { r with
      log := r.log ++ [⟨t.sock, UDPDirections.sendto s.closed t.target⟩] } := by
  have bytes : d.data.take 4096 ≠ [] := merged.full i d held
  have running : s.phase i ≠ .closed := fun ended => by
    rw [ended] at held
    cases held
  have opened := sock_open single merged.shut at' running
  refine ⟨fun empty => bytes (by rw [empty, List.take_nil]), ?_⟩
  simp only [UDPDirections.step, at', merged.closed, if_neg opened, if_neg bytes]

/-- An empty datagram arrives. -/
def EmptyArrives (a : Action) : Prop := ∃ d, a = .recvfrom d ∧ d.data = []

theorem merged_threadStep {r : UDPDirections.State} {v : State} {a : Action}
    (merged : Merged ts s r) (single : (ts.map Thread.sock).Nodup) (at' : ts[i]? = some t)
    (h : threadStep s i t a = some v) :
    Merged ts v r ∨ ∃ e' r', (e'.data = [] → EmptyArrives a) ∧
      UDPDirections.step ts r e' = some r' ∧ Merged ts v r' := by
  have shut := shut_threadStep merged.shut at' h
  have idle := full_setPhase (i := i) (p := .receiving) merged.full fun _ held => by cases held
  have lost : ∀ {p : UDPRelay.Thread}, s.phase i = p → ∀ {d}, UDPRelay.inHand p = some d →
      UDPDirections.sendto s.closed t.target = none → Shut ts (s.setPhase i .receiving) →
      ∃ e' r', (e'.data = [] → EmptyArrives a) ∧
        UDPDirections.step ts r e' = some r' ∧ Merged ts (s.setPhase i .receiving) r' := by
    intro p phase d held unsent shut
    obtain ⟨bytes, turn⟩ := merged_done merged single at' (phase ▸ held)
    refine ⟨_, _, fun empty => absurd empty bytes, turn, shut, idle, merged.closed, ?_⟩
    rw [unsent, List.filterMap_append, merged.routes]
    exact List.append_nil _
  cases threadStep_move h with
  | ends d receiving empty =>
    have opened := sock_open single merged.shut at' (by simp [receiving])
    refine Or.inr ⟨⟨i, d.data⟩, ⟨r.closed ++ [t.sock], r.log ++ [⟨t.sock, none⟩]⟩,
      fun none => ⟨d, rfl, none⟩, ?_, shut, full_setPhase merged.full (fun _ held => by cases held),
      ?_, ?_⟩
    · have empty : d.data.take 4096 = [] := empty
      simp only [UDPDirections.step, at', merged.closed, if_neg opened, if_pos empty]
    · exact congrArg (· ++ [t.sock]) merged.closed
    · rw [List.filterMap_append, merged.routes]
      exact List.append_nil _
  | recvfrom d receiving bytes =>
    refine Or.inl ⟨shut, full_setPhase merged.full ?_, merged.closed, ?_⟩
    · rintro _ ⟨⟩
      exact bytes
    · rw [List.filterMap_append, merged.routes]
      exact (List.append_nil _).symm
  | stray d choosing unknown =>
    exact Or.inr (lost choosing rfl (by rw [unknown]; rfl) shut)
  | choose d fd dst choosing target =>
    refine Or.inl ⟨shut, full_setPhase merged.full ?_, merged.closed, merged.routes⟩
    intro d' held
    obtain rfl := Option.some.inj ((inHand_afterChoice t d _).symm.trans held)
    exact merged.full i d (by rw [choosing]; rfl)
  | push d port pushing =>
    refine Or.inl ⟨shut, full_setPhase merged.full ?_, merged.closed, merged.routes⟩
    rintro _ ⟨⟩
    exact merged.full i d (by rw [pushing]; rfl)
  | lose d port call sending closed =>
    refine Or.inr (lost sending rfl ?_ shut)
    unfold UDPDirections.sendto
    split
    · rename_i fd dst target
      exact if_pos (closed fd dst target)
    · rfl
  | sendto d port call fd dst sending target opened =>
    obtain ⟨bytes, turn⟩ := merged_done merged single at' (d := d) (by rw [sending]; rfl)
    refine Or.inr ⟨_, _, fun empty => absurd empty bytes, turn, shut, idle, merged.closed, ?_⟩
    rw [target, UDPDirections.sendto, if_neg opened, List.filterMap_append, List.filterMap_append,
      merged.routes]
    rfl

/-- In a run without empty datagrams the other machine needs none either. -/
theorem run_merged (ok : Event → Prop) (ok' : UDPDirections.Event → Prop)
    (single : (ts.map Thread.sock).Nodup) {es : List Event}
    (quiet : ∀ e e', ok e → (e'.data = [] → EmptyArrives e.action) → ok' e')
    (run : Runs (step ts) (fun _ e => ok e) initial es s) :
    ∃ es' r, Runs (UDPDirections.step ts) (fun _ e => ok' e) UDPDirections.initial es' r ∧
      Merged ts s r := by
  refine run.simulate (Merged ts) (merged_initial ts) fun t e u r merged met h => ?_
  obtain ⟨thread, at', h⟩ := Option.bind_eq_some_iff.mp h
  rcases merged_threadStep merged single at' h with stays | ⟨e', r', empty, turn, merged'⟩
  · exact Or.inl stays
  · exact Or.inr ⟨e', r', quiet e e' met empty, turn, merged'⟩

/-- Whatever a thread sends, in any order of all their steps, it sends where it belongs, and
    without empty datagrams no socket is ever closed. -/
theorem sent_right (distinct : DistinctSockets attempts)
    (reported : PortsReported getsockname attempts)
    (ports : ∀ u ∈ complete attempts, ProxyPorts u.conn) {es : List Event}
    (run : Runs (step (threads getsockname attempts)) anyStep initial es s) :
    (∀ t x, .sent t x ∈ s.log →
        UDPDirections.Right (complete attempts) ⟨t.sock, some (x.fd, x.ip)⟩) ∧
      ((∀ e ∈ es, ¬ EmptyArrives e.action) → s.closed = []) := by
  have single : ((threads getsockname attempts).map Thread.sock).Nodup := threads_nodup distinct
  constructor
  · intro t x sent
    obtain ⟨es', r, run', merged⟩ := run_merged (fun _ => True) (fun _ => True) single
      (fun _ _ _ _ => trivial) run
    have route : (t.sock, x.fd, x.ip) ∈ r.log.filterMap relayRoute := by
      rw [merged.routes]
      exact List.mem_filterMap.mpr ⟨_, sent, rfl⟩
    obtain ⟨⟨sock, sent'⟩, logged, eq⟩ := List.mem_filterMap.mp route
    obtain ⟨y, rfl, pair⟩ := Option.map_eq_some_iff.mp eq
    cases pair
    exact (UDPDirections.run_right distinct reported ports run'.forget).1 _ logged (by simp)
  · intro quiet
    obtain ⟨es', r, run', merged⟩ := run_merged (fun e => ¬ EmptyArrives e.action)
      (fun e => e.data ≠ []) single (fun _ _ full empty none => full (empty none))
      (Runs.events_iff.mpr ⟨run, quiet⟩)
    obtain ⟨run', full⟩ := Runs.events_iff.mp run'
    rw [← merged.closed]
    exact ((UDPDirections.run_right distinct reported ports run').2 full).1

end Cezfuzzer.UDPRoutes
