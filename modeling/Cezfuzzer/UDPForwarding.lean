import Mathlib.Data.List.Infix
import Cezfuzzer.UDPRelay

set_option autoImplicit false

/-!
# What a thread of the relay forwards

The loops of `recvThreadEntry` and `sendThreadEntry` do the same with the bytes. An empty
datagram ends them as an error would, and of a long one only the first 4096 bytes are read.
-/
namespace Cezfuzzer.UDPForwarding
open StepRuns LengthPrefix CyclicFill FuzzerCore UDPRelay

structure Relayed where
  sent : List Bytes
  running : Bool
  deriving DecidableEq

/-- `while (true)` of a thread, on the datagrams that arrive for it. -/
def relayLoop : List (Datagram × FuzzCall) → Relayed
  | [] => ⟨[], true⟩
  | (d, call) :: rest =>
    if d.buffer = [] then ⟨[], false⟩
    else ⟨udpPayload call d.buffer :: (relayLoop rest).sent, (relayLoop rest).running⟩

/-- One datagram out for each one in, in the same order and with the whole datagram in
    front up to the limit, and the thread is still there. -/
def Relays (arrivals : List (Datagram × FuzzCall)) : Prop :=
  (relayLoop arrivals).running = true ∧
    List.Forall₂ (fun d payload => d.data.take (maxUDPPayloadSize - 1) <+: payload)
      (arrivals.map Prod.fst) (relayLoop arrivals).sent

def Passes (d : Datagram) (call : FuzzCall) : Prop :=
  d.buffer ≠ [] ∧ d.data.take (maxUDPPayloadSize - 1) <+: udpPayload call d.buffer

theorem relays_cons (d : Datagram) (call : FuzzCall) (rest : List (Datagram × FuzzCall)) :
    Relays ((d, call) :: rest) ↔ Passes d call ∧ Relays rest := by
  by_cases empty : d.buffer = []
  · simp [Relays, Passes, relayLoop, empty]
  · simp only [Relays, Passes, relayLoop, empty, if_false, List.map_cons,
      List.forall₂_cons, ne_eq, not_false_eq_true, true_and]
    tauto

theorem relays_iff_passes (arrivals : List (Datagram × FuzzCall)) :
    Relays arrivals ↔ ∀ x ∈ arrivals, Passes x.1 x.2 := by
  induction arrivals with
  | nil => simp [Relays, relayLoop]
  | cons x rest ih =>
    obtain ⟨d, call⟩ := x
    rw [relays_cons, ih, List.forall_mem_cons]

theorem udpPayload_eq {call : FuzzCall} (allocates : Allocates call) {buffer : Bytes}
    (nonempty : buffer ≠ []) :
    udpPayload call buffer = (buffer ++ fuzz call buffer).take (maxUDPPayloadSize - 1) := by
  obtain ⟨size, h, hsize⟩ := postFuzzing_eq allocates (Nat.lt_succ_self minOutputSize)
    (Or.inl nonempty)
  have limit : maxUDPPayloadSize - 1 ≤ maxBufferSize := by decide
  rw [udpPayload, h]
  simp only [Option.getD_some, hsize]
  rw [Nat.min_comm, ← List.take_take, List.take_length, List.take_take, Nat.min_eq_left limit]

theorem passes_short {d : Datagram} {call : FuzzCall} (allocates : Allocates call)
    (some_data : 0 < d.data.length) (fits : d.data.length ≤ 4096) : Passes d call := by
  have whole : d.buffer = d.data := List.take_of_length_le fits
  have nonempty : d.buffer ≠ [] := by
    rw [whole]
    exact List.length_pos_iff.mp some_data
  refine ⟨nonempty, ?_⟩
  rw [udpPayload_eq allocates nonempty, whole]
  exact List.IsPrefix.take (List.prefix_append _ _) _

/-- Radamsa answers one byte that does not continue the datagram. -/
def contradicting (d : Datagram) : FuzzCall :=
  answering (if d.data[4096]? = some 0 then [1] else [0])

theorem contradicting_allocates (d : Datagram) : Allocates (contradicting d) :=
  answering_allocates _

theorem answer_contradicting (d : Datagram) (data : Bytes) :
    answer (contradicting d).radamsa data = if d.data[4096]? = some 0 then [1] else [0] := by
  refine answer_answering ?_ data
  split <;> decide

theorem fuzz_contradicting (d : Datagram) (data : Bytes) :
    (fuzz (contradicting d) data).head? ≠ d.data[4096]? := by
  have some_answer : answer (contradicting d).radamsa data ≠ [] := by
    rw [answer_contradicting]
    split <;> simp
  rw [fuzz, if_neg some_answer, clamped_head, answer_contradicting]
  split
  · rename_i zero
    simp [zero]
  · rename_i other
    exact fun same => other same.symm

/-- Of a longer datagram radamsa may continue the first part differently. -/
theorem not_passes_contradicting {d : Datagram} (long : 4096 < d.data.length) :
    ¬ Passes d (contradicting d) := by
  rintro ⟨nonempty, h⟩
  have cut : d.buffer.length = 4096 := by
    simp only [Datagram.buffer, List.length_take]
    omega
  rw [udpPayload_eq (contradicting_allocates d) nonempty] at h
  have limit : 4096 < maxUDPPayloadSize - 1 := by decide
  have left : (d.data.take (maxUDPPayloadSize - 1))[4096]? = d.data[4096]? :=
    List.getElem?_take_of_lt limit
  have right : ((d.buffer ++ fuzz (contradicting d) d.buffer).take (maxUDPPayloadSize - 1))[4096]? =
      (fuzz (contradicting d) d.buffer).head? := by
    rw [List.getElem?_take_of_lt limit, List.getElem?_append_right (by omega), cut,
      List.head?_eq_getElem?]
  have there : 4096 < (d.data.take (maxUDPPayloadSize - 1)).length := by
    rw [List.length_take]
    omega
  obtain ⟨rest, same⟩ := h
  apply fuzz_contradicting d d.buffer
  rw [← right, ← left, ← same, List.getElem?_append_left there]

theorem relayLoop_snoc {arrivals : List (Datagram × FuzzCall)} {d : Datagram}
    (running : (relayLoop arrivals).running = true) (nonempty : d.buffer ≠ []) (call : FuzzCall) :
    relayLoop (arrivals ++ [(d, call)]) =
      ⟨(relayLoop arrivals).sent ++ [udpPayload call d.buffer], true⟩ := by
  induction arrivals with
  | nil => simp [relayLoop, nonempty]
  | cons x rest ih =>
    obtain ⟨d', call'⟩ := x
    by_cases empty : d'.buffer = []
    · simp [relayLoop, empty] at running
    · simp only [relayLoop, empty, if_false] at running
      simp only [List.cons_append, relayLoop, empty, if_false, ih running]

/-- What a thread has sent is what its loop sends on the datagrams that it is done with, as
    long as the socket that it forwards through is open. -/
def Follows (log : List Entry) (w : Socket) (t : Thread) (there : Prop) : Prop :=
  (∀ d ∈ inHand t, d.buffer ≠ []) ∧
    ∃ arrivals, (relayLoop arrivals).running = true ∧
      received log w = arrivals.map Prod.fst ++ (inHand t).toList ∧
      (there → (forwards log w).map Forward.payload = (relayLoop arrivals).sent)

theorem follows_congr {log log' : List Entry} {w : Socket} {t t' : Thread} {p p' : Prop}
    (same : received log' w = received log w) (sent : forwards log' w = forwards log w)
    (hand : inHand t' = inHand t) (there : p' → p) (h : Follows log w t p) :
    Follows log' w t' p' := by
  obtain ⟨nonempty, arrivals, running, taken, forwarded⟩ := h
  refine ⟨hand ▸ nonempty, arrivals, running, ?_, fun now => ?_⟩
  · rw [same, taken, hand]
  · rw [sent, forwarded (there now)]

theorem follows_move {conn : UDPConnection} {s u : State} {e : Event}
    (follows : ∀ w, Follows s.log w (s.thread w) (s.thread w.forwardSock ≠ .closed))
    (move : Move conn s e u) (w : Socket) :
    Follows u.log w (u.thread w) (u.thread w.forwardSock ≠ .closed) := by
  -- a socket that is open now was open before the step
  refine follows_congr rfl rfl rfl (mt (closed_move move w.forwardSock)) ?_
  cases move with
  | close w₀ d at' served empty =>
    refine threads_setThread (P := fun w t => Follows s.log w t (s.thread w.forwardSock ≠ .closed))
      (fun w' _ => follows w') ?_ w
    exact follows_congr rfl rfl (by rw [at']; rfl) id (follows w₀)
  | recvfrom w₀ d at' served some_data =>
    refine threads_setThread (P := fun w t =>
      Follows (s.log ++ [.received w₀ d]) w t (s.thread w.forwardSock ≠ .closed))
      (fun w' other => ?_) ?_ w
    · refine follows_congr ?_ (forwards_received ..) rfl id (follows w')
      rw [received_snoc, if_neg (Ne.symm other), List.append_nil]
    · obtain ⟨-, arrivals, running, taken, sent⟩ := follows w₀
      rw [at'] at taken
      refine ⟨fun d' h => Option.some.inj h ▸ some_data, arrivals, running, ?_, fun there => ?_⟩
      · rw [received_snoc, if_pos rfl, taken]
        simp [inHand]
      · rw [forwards_received, sent there]
  | choose w₀ d at' =>
    refine threads_setThread (P := fun w t => Follows s.log w t (s.thread w.forwardSock ≠ .closed))
      (fun w' _ => follows w') ?_ w
    exact follows_congr rfl rfl (by rw [at', inHand_afterChoice]; rfl) id (follows w₀)
  | push w₀ d port at' =>
    refine threads_setThread (P := fun w t => Follows s.log w t (s.thread w.forwardSock ≠ .closed))
      (fun w' _ => follows w') ?_ w
    exact follows_congr rfl rfl (by rw [at']; rfl) id (follows w₀)
  | sendFails w₀ call d port at' gone =>
    refine threads_setThread (P := fun w t => Follows s.log w t (s.thread w.forwardSock ≠ .closed))
      (fun w' _ => follows w') ?_ w
    obtain ⟨nonempty, arrivals, running, taken, -⟩ := follows w₀
    rw [at'] at nonempty taken
    have more := relayLoop_snoc running (nonempty d rfl) call
    refine ⟨nofun, arrivals ++ [(d, call)], by rw [more], ?_, absurd gone⟩
    rw [taken]
    simp [inHand]
  | sendto w₀ call d port at' =>
    refine threads_setThread (P := fun w t => Follows _ w t (s.thread w.forwardSock ≠ .closed))
      (fun w' other => ?_) ?_ w
    · refine follows_congr (received_forwarded ..) ?_ rfl id (follows w')
      rw [forwards_snoc, if_neg (Ne.symm other), List.append_nil]
    · obtain ⟨nonempty, arrivals, running, taken, sent⟩ := follows w₀
      rw [at'] at nonempty taken
      have more := relayLoop_snoc running (nonempty d rfl) call
      refine ⟨nofun, arrivals ++ [(d, call)], by rw [more], ?_, fun there => ?_⟩
      · rw [received_forwarded, taken]
        simp [inHand]
      · rw [forwards_snoc, if_pos rfl, List.map_append, sent there, more]
        rfl

/-- In every run, with whatever the other threads do in between, each thread has sent what
    its loop sends on the datagrams that it has taken. -/
theorem run_follows {conn : UDPConnection} {ok : State → Event → Prop} {es : List Event}
    {s : State} (run : Runs (step conn) ok initial es s) (w : Socket) :
    Follows s.log w (s.thread w) (s.thread w.forwardSock ≠ .closed) := by
  refine run.state_invariant
    (fun s => ∀ w, Follows s.log w (s.thread w) (s.thread w.forwardSock ≠ .closed))
    (fun w => ?_) (fun _ _ _ follows _ hs => follows_move follows (step_move hs)) w
  exact ⟨nofun, [], rfl, rfl, fun _ => rfl⟩

def emptyFirst : List (Datagram × FuzzCall) := [(⟨[], 5000⟩, echo), (⟨[1], 5000⟩, echo)]

end Cezfuzzer.UDPForwarding
