import Cezfuzzer.UDPRelay

set_option autoImplicit false

/-!
# Which port a datagram is forwarded to

The queue of dynamic ports serves both directions, and a pop of the empty queue leaves -1,
or the port of the wrong side. As long as every pop finds a port, it finds one that the
right side has used.
-/
namespace Cezfuzzer.UDPDynamicPorts
open StepRuns LengthPrefix FuzzerCore UDPRelay

variable {conn : UDPConnection} {s u : State} {e : Event}

def UsedPort (log : List Entry) (X : Side) (port : ℤ) : Prop :=
  ∃ w d, .received w d ∈ log ∧ w.side = X ∧ d.src_port = port

/-- A datagram for a dynamic side goes to the source port of an earlier one from there. -/
def PortsUsed (conn : UDPConnection) (log : List Entry) : Prop :=
  ∀ before f after, log = before ++ .forwarded f :: after →
    conn.entityPort f.thread.side.other = -1 →
    ∃ w d, .received w d ∈ before ∧ w.side = f.thread.side.other ∧ f.port = d.srcPort

/-- A `popDynamicPort` call finds the queue with a port in it. -/
def PopsPort (conn : UDPConnection) (s : State) : Event → Prop
  | .choose w => conn.entityPort w.side.other = -1 → s.dynamicPorts ≠ []
  | _ => True

instance (conn : UDPConnection) (s : State) (e : Event) : Decidable (PopsPort conn s e) := by
  cases e <;> unfold PopsPort <;> infer_instance

structure ThreadSound (conn : UDPConnection) (log : List Entry) (w : Socket) (t : Thread) :
    Prop where
  holding : ∀ d, inHand t = some d → .received w d ∈ log
  choice : ∀ port, chosen t = some port → conn.entityPort w.side.other = -1 →
    UsedPort log w.side.other port
  pushing : ∀ d port, t = .pushing d port → conn.entityPort w.side = -1

structure Sound (conn : UDPConnection) (s : State) : Prop where
  threads : ∀ w, ThreadSound conn s.log w (s.thread w)
  queued : ∀ X, conn.entityPort X = -1 → ∀ port ∈ s.dynamicPorts, UsedPort s.log X port
  /-- With two dynamic sides the first pop would have to find a port that nobody stores. -/
  both : (∀ X, conn.entityPort X = -1) → s.dynamicPorts = [] ∧ ∀ w, chosen (s.thread w) = none
  forwarded : PortsUsed conn s.log

theorem usedPort_append {log more : List Entry} {X : Side} {port : ℤ} (h : UsedPort log X port) :
    UsedPort (log ++ more) X port := by
  obtain ⟨w, d, received, side, src⟩ := h
  exact ⟨w, d, List.mem_append_left _ received, side, src⟩

theorem ThreadSound.append {log more : List Entry} {w : Socket} {t : Thread}
    (sound : ThreadSound conn log w t) : ThreadSound conn (log ++ more) w t :=
  ⟨fun d h => List.mem_append_left _ (sound.holding d h),
    fun port h dynamic => usedPort_append (sound.choice port h dynamic), sound.pushing⟩

theorem idle_sound (log : List Entry) (w : Socket) {t : Thread}
    (idle : t = .receiving ∨ t = .closed) : ThreadSound conn log w t := by
  rcases idle with rfl | rfl <;> exact ⟨nofun, nofun, nofun⟩

theorem portsUsed_snoc {log : List Entry} {x : Entry} (used : PortsUsed conn log)
    (new : ∀ f, x = .forwarded f → conn.entityPort f.thread.side.other = -1 →
      ∃ w d, .received w d ∈ log ∧ w.side = f.thread.side.other ∧ f.port = d.srcPort) :
    PortsUsed conn (log ++ [x]) := by
  intro before f after split dynamic
  rcases List.eq_nil_or_concat after with rfl | ⟨after, y, rfl⟩
  · obtain ⟨rfl, same⟩ := List.append_inj' split rfl
    exact new f (by simpa using same) dynamic
  · rw [List.concat_eq_append, ← List.cons_append, ← List.append_assoc] at split
    exact used before f after (List.append_inj' split rfl).1 dynamic

theorem pushing_afterChoice {d d' : Datagram} {port port' : ℤ} {w : Socket}
    (h : afterChoice conn d port w = .pushing d' port') : conn.entityPort w.side = -1 := by
  cases w with
  | recv X =>
    simp only [afterChoice] at h
    split at h
    · assumption
    · cases h
  | send X => cases h

theorem initial_sound : Sound conn initial :=
  ⟨fun w => idle_sound [] w (Or.inl rfl), by simp [initial], fun _ => ⟨rfl, fun _ => rfl⟩,
    by simp [PortsUsed, initial]⟩

theorem static_side (sound : Sound conn s) {w : Socket} {port : ℤ}
    (h : chosen (s.thread w) = some port) (dynamic : conn.entityPort w.side = -1) :
    conn.entityPort w.side.other ≠ -1 := by
  intro other
  have none := (sound.both (fun X => ?_)).2 w
  · rw [h] at none
    cases none
  · by_cases same : X = w.side
    · rwa [same]
    · rwa [eq_other same]

theorem threads_sound (sound : Sound conn s) {w : Socket} {t : Thread}
    (new : ThreadSound conn s.log w t) (w' : Socket) :
    ThreadSound conn s.log w' ((s.setThread w t).thread w') :=
  threads_setThread (fun w' _ => sound.threads w') new w'

theorem threads_append (sound : Sound conn s) (more : List Entry) {w : Socket} {t : Thread}
    (new : ThreadSound conn (s.log ++ more) w t) (w' : Socket) :
    ThreadSound conn (s.log ++ more) w' ((s.setThread w t).thread w') :=
  threads_setThread (fun w' _ => (sound.threads w').append) new w'

theorem both_setThread (sound : Sound conn s) (w : Socket) {t : Thread} (none : chosen t = none)
    (all : ∀ X, conn.entityPort X = -1) :
    s.dynamicPorts = [] ∧ ∀ w', chosen ((s.setThread w t).thread w') = Option.none :=
  ⟨(sound.both all).1, threads_setThread (P := fun _ t => chosen t = Option.none)
    (fun w' _ => (sound.both all).2 w') none⟩

theorem queued_append (sound : Sound conn s) (more : List Entry) (X : Side)
    (dynamic : conn.entityPort X = -1) (port : ℤ) (queued : port ∈ s.dynamicPorts) :
    UsedPort (s.log ++ more) X port :=
  usedPort_append (sound.queued X dynamic port queued)

theorem sound_choose (sound : Sound conn s) {w : Socket} {d : Datagram}
    (met : conn.entityPort w.side.other = -1 → s.dynamicPorts ≠ [])
    (at' : s.thread w = .choosing d) : Sound conn (choose conn s w d) := by
  have held := (sound.threads w).holding d (by rw [at']; rfl)
  unfold UDPRelay.choose
  by_cases dynamic : conn.entityPort w.side.other = -1
  · obtain ⟨front, rest, queue⟩ := List.exists_cons_of_ne_nil (met dynamic)
    have used := sound.queued w.side.other dynamic
    rw [queue] at used
    have one : ¬ ∀ X, conn.entityPort X = -1 := by
      intro all
      have empty := (sound.both all).1
      rw [queue] at empty
      cases empty
    rw [queue, targetPort_pop dynamic]
    refine ⟨threads_sound sound ⟨fun d' h => ?_, fun port h _ => ?_, fun d' port h => ?_⟩,
      fun X h port queued => ?_, fun all => absurd all one, sound.forwarded⟩
    · rw [inHand_afterChoice] at h
      exact Option.some.inj h ▸ held
    · rw [chosen_afterChoice] at h
      exact Option.some.inj h ▸ used front (List.mem_cons_self ..)
    · exact pushing_afterChoice h
    · refine sound.queued X h port ?_
      rw [queue]
      exact List.mem_cons_of_mem _ queued
  · rw [targetPort_fixed dynamic]
    refine ⟨threads_sound sound ⟨fun d' h => ?_, fun port _ h => absurd h dynamic,
      fun d' port h => pushing_afterChoice h⟩, sound.queued,
      fun all => absurd (all w.side.other) dynamic, sound.forwarded⟩
    rw [inHand_afterChoice] at h
    exact Option.some.inj h ▸ held

theorem sound_move (sound : Sound conn s) (met : PopsPort conn s e) (move : Move conn s e u) :
    Sound conn u := by
  cases move with
  | close w d at' served empty =>
    exact ⟨threads_sound sound (idle_sound _ w (Or.inr rfl)), sound.queued,
      both_setThread sound w rfl, sound.forwarded⟩
  | recvfrom w d at' served some_data =>
    refine ⟨threads_append sound _ ⟨fun d' h => ?_, nofun, nofun⟩, queued_append sound _,
      both_setThread sound w rfl, portsUsed_snoc sound.forwarded nofun⟩
    obtain rfl := Option.some.inj h
    exact List.mem_append_right _ (List.mem_singleton_self _)
  | choose w d at' => exact sound_choose sound met at'
  | push w d port at' =>
    have held := (sound.threads w).holding d (by rw [at']; rfl)
    have choice := (sound.threads w).choice port (by rw [at']; rfl)
    have own := (sound.threads w).pushing d port at'
    have static := static_side sound (by rw [at']; rfl) own
    refine ⟨threads_sound sound ⟨fun d' h => ?_, fun port' h dynamic => ?_, nofun⟩,
      fun X dynamic port' queued => ?_, fun all => absurd (all w.side.other) static,
      sound.forwarded⟩
    · exact Option.some.inj h ▸ held
    · exact Option.some.inj h ▸ choice dynamic
    · rcases List.mem_append.mp queued with queued | new
      · exact sound.queued X dynamic port' queued
      · -- only the pushing thread's own side is dynamic
        obtain rfl : port' = d.src_port := by simpa using new
        refine ⟨w, d, held, ?_, rfl⟩
        by_contra other
        exact static (eq_other (Ne.symm other) ▸ dynamic)
  | sendFails w call d port at' gone =>
    exact ⟨threads_sound sound (idle_sound _ w (Or.inl rfl)), sound.queued,
      both_setThread sound w rfl, sound.forwarded⟩
  | sendto w call d port at' there =>
    have choice := (sound.threads w).choice port (by rw [at']; rfl)
    refine ⟨threads_append sound _ (idle_sound _ w (Or.inl rfl)), queued_append sound _,
      both_setThread sound w rfl, portsUsed_snoc sound.forwarded ?_⟩
    rintro f same dynamic
    obtain rfl := Entry.forwarded.inj same
    obtain ⟨w', d', received, side, rfl⟩ := choice dynamic
    exact ⟨w', d', received, side, htons_src_port d'⟩

/-- In a run whose pops all find a port, a datagram for a dynamic side never goes anywhere
    but to a port that this side has sent from before. -/
theorem popsPort_portsUsed (conn : UDPConnection) (es : List Event) (s : State)
    (run : Runs (step conn) (PopsPort conn) initial es s) : PortsUsed conn s.log :=
  (run.state_invariant (Sound conn) initial_sound
    (fun _ _ _ sound met hs => sound_move sound met (step_move hs))).forwarded

theorem portsUsed_received {log : List Entry} (used : PortsUsed conn log) {w : Socket}
    {f : Forward} (h : f ∈ forwards log w) (dynamic : conn.entityPort w.side.other = -1) :
    ∃ w' d, d ∈ received log w' ∧ w'.side = w.side.other ∧ f.port = d.srcPort := by
  obtain ⟨listed, rfl⟩ := mem_forwards.mp h
  obtain ⟨before, after, rfl⟩ := List.append_of_mem listed
  obtain ⟨w', d, taken, side, port⟩ := used before f after rfl dynamic
  exact ⟨w', d, mem_received.mpr (List.mem_append_left _ taken), side, port⟩

def firstFromA : List Event :=
  [.recvfrom (.recv .A) ⟨[1], 5000⟩, .choose (.recv .A), .sendto (.recv .A) echo]

/-- The datagram goes to the placeholder, which is 65535 after `htons`. -/
theorem firstFromA_not_used : ∃ s,
    Runs (step dynamicB) anyStep initial firstFromA s ∧ ¬ PortsUsed dynamicB s.log := by
  obtain ⟨s, hs, h⟩ := exists_execute (step dynamicB) initial firstFromA
    (fun s => (forwards s.log (.recv .A)).map Forward.port = [65535] ∧
      received s.log (.recv .B) = [] ∧ received s.log (.send .B) = []) (by decide +kernel)
  obtain ⟨port, noRequest, noReply⟩ := of_decide_eq_true h
  refine ⟨s, runs_of_unguarded hs, fun used => ?_⟩
  obtain ⟨f, hf, -⟩ : ∃ f ∈ forwards s.log (.recv .A), f.port = 65535 :=
    List.mem_map.mp (port ▸ List.mem_singleton_self _)
  obtain ⟨w, d, taken, side, -⟩ := portsUsed_received used hf rfl
  cases w with
  | recv X | send X =>
    obtain rfl : X = .B := side
    simp_all

def requestAndReply : List Event :=
  [.recvfrom (.recv .B) ⟨[1], 6000⟩, .choose (.recv .B), .push (.recv .B),
    .sendto (.recv .B) echo, .recvfrom (.send .A) ⟨[2], 5000⟩, .choose (.send .A),
    .sendto (.send .A) echo]

theorem requestAndReply_used : ∃ s,
    Runs (step dynamicB) (PopsPort dynamicB) initial requestAndReply s ∧
      PortsUsed dynamicB s.log := by
  obtain ⟨s, hs, -⟩ := exists_execute (guarded (step dynamicB) (PopsPort dynamicB)) initial
    requestAndReply (fun _ => true) (by decide +kernel)
  have run := runs_of_guarded hs
  exact ⟨s, run, popsPort_portsUsed dynamicB requestAndReply s run⟩

end Cezfuzzer.UDPDynamicPorts
