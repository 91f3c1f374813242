import Cezfuzzer.UDPDialogue

set_option autoImplicit false

/-!
# Which request a reply is taken for

The replies take the ports of the requests one after another. This matches them as long as
every request is answered; a request that is not leaves its port to the next reply. An empty
datagram is not forwarded at all, and the thread that receives it is gone.
-/
namespace Cezfuzzer.UDPReplies
open StepRuns FuzzerCore UDPRelay UDPExchange UDPDialogue

variable {conn : UDPConnection} {X : Side} {s : UDPDialogue.State} {es : List UDPDialogue.Event}

def Answered (_ : UDPDialogue.State) : UDPDialogue.Event → Prop
  | .ignore => False
  | _ => True

def Carries (_ : UDPDialogue.State) : UDPDialogue.Event → Prop
  | .request d | .reply d => d.data ≠ []
  | _ => True

def AnsweredCarries (s : UDPDialogue.State) (e : UDPDialogue.Event) : Prop :=
  Answered s e ∧ Carries s e

instance (s : UDPDialogue.State) (e : UDPDialogue.Event) : Decidable (Answered s e) := by
  cases e <;> unfold Answered <;> infer_instance

instance (s : UDPDialogue.State) (e : UDPDialogue.Event) : Decidable (Carries s e) := by
  cases e <;> unfold Carries <;> infer_instance

instance (s : UDPDialogue.State) (e : UDPDialogue.Event) : Decidable (AnsweredCarries s e) :=
  inferInstanceAs (Decidable (_ ∧ _))

/-- The k-th reply goes to the k-th request's port, no pop finds the queue empty, and the
    queue, with the port that is just being stored, is that of the open requests. Once
    everything has come to rest every request has had its reply. -/
structure Pipelined (conn : UDPConnection) (X : Side) (s : UDPDialogue.State) : Prop where
  forwarded : ∀ (k : ℕ) (f : Forward), (exchange X s).forwardedReplies[k]? = some f →
    ∃ d, (exchange X s).requests[k]? = some d ∧ f.ip = conn.entityIP X ∧ f.port = d.srcPort
  pops : ∀ w d, s.relay.thread w = .choosing d → conn.entityPort w.side.other = -1 →
    s.relay.dynamicPorts ≠ []
  queue : s.relay.dynamicPorts ++ unpushed (s.relay.thread (.recv X)) =
    ((exchange X s).requests.drop (popped (exchange X s).forwardedReplies
      (exchange X s).replier)).map Datagram.src_port
  complete : AtRest (exchange X s) →
    (exchange X s).forwardedReplies.map Forward.port =
      (exchange X s).requests.map Datagram.srcPort

structure AllAnswered (s : UDPDialogue.State) : Prop where
  number : s.answered.length = s.handled
  some_data : ∀ r ∈ s.answered, r.datagram.data ≠ []

theorem run_answered (run : Runs (step conn X) AnsweredCarries initial es s) : AllAnswered s := by
  refine run.state_invariant AllAnswered ⟨rfl, by simp [UDPDialogue.initial]⟩ ?_
  intro t e u ⟨number, some_data⟩ ⟨answered, carries⟩ hs
  cases step_move hs with
  | reply d open' =>
    refine ⟨by simp [number], fun r hr => ?_⟩
    rcases List.mem_append.mp hr with old | new
    · exact some_data r old
    · exact List.mem_singleton.mp new ▸ carries
  | ignore open' => exact absurd answered id
  | _ => exact ⟨number, some_data⟩

/-- In every run in which nobody sends an empty datagram, requests and replies are matched. -/
theorem replies_pipelined (conn : UDPConnection) (X : Side) (dynamic : conn.entityPort X = -1)
    (fixed : conn.entityPort X.other ≠ -1) (es : List UDPDialogue.Event) (s : UDPDialogue.State)
    (run : Runs (step conn X) AnsweredCarries initial es s) : Pipelined conn X s := by
  obtain ⟨busy, matched⟩ := run_matched dynamic fixed (fun t d met => met.2) run
  have all := run_answered run
  have there : (exchange X s).replier ≠ .closed := by
    intro closed
    obtain ⟨-, r, hr, empty⟩ := matched.lost closed
    exact all.some_data r hr empty
  refine ⟨fun k f found => ?_, fun w d choosing pop => ?_, ?_, fun rest => ?_⟩
  · obtain ⟨d, number, port⟩ := forwarded_port matched found
    exact ⟨d, number, matched.addressed f (List.mem_of_getElem? found), port⟩
  · rcases busy_thread (busy w) (by rw [choosing]; nofun) with rfl | rfl
    · exact absurd pop fixed
    · exact queue_nonempty matched choosing
  · rw [List.map_drop]
    exact matched.queue
  · have sent := (rest_forwarded matched rest).mpr all.some_data
    have through := matched.through there
    have ports := matched.ports
    have number : (exchange X s).answered.length = (exchange X s).handled := all.number
    rw [rest.requester] at through
    rw [rest.chosen, popped, rest.chosen] at ports
    simp only [Option.toList_none, List.map_nil, List.append_nil, List.length_nil,
      Nat.add_zero] at ports through
    rw [ports, List.take_of_length_le]
    rw [List.length_map, through, ← rest.handled, ← number, sent]

def twoOutstanding : List UDPDialogue.Event :=
  [.request ⟨[1], 6000⟩, .choose (.recv .B), .push (.recv .B), .sendto (.recv .B) echo,
    .request ⟨[2], 6001⟩, .choose (.recv .B), .reply ⟨[3], 5000⟩, .push (.recv .B),
    .replyArrives, .sendto (.recv .B) echo, .choose (.send .A), .reply ⟨[4], 5000⟩,
    .sendto (.send .A) echo, .replyArrives, .choose (.send .A), .sendto (.send .A) echo]

theorem twoOutstanding_pipelined : ∃ s,
    Runs (step dynamicB .B) AnsweredCarries initial twoOutstanding s ∧
      Pipelined dynamicB .B s := by
  obtain ⟨s, hs, -⟩ := exists_execute (guarded (step dynamicB .B) AnsweredCarries) initial
    twoOutstanding (fun _ => true) (by decide +kernel)
  have run := runs_of_guarded hs
  exact ⟨s, run, replies_pipelined dynamicB .B rfl (by decide) twoOutstanding s run⟩

def emptyReply : List UDPDialogue.Event :=
  [.request ⟨[1], 6000⟩, .choose (.recv .B), .push (.recv .B), .sendto (.recv .B) echo,
    .reply ⟨[], 5000⟩, .replyArrives]

/-- The reply is not forwarded, and its port stays in the queue. -/
theorem emptyReply_not_pipelined : ∃ s,
    Runs (step dynamicB .B) Answered initial emptyReply s ∧ AtRest (exchange .B s) ∧
      (exchange .B s).answered.length = 1 ∧ (exchange .B s).forwardedReplies = [] ∧
      ¬ Pipelined dynamicB .B s := by
  obtain ⟨s, hs, h⟩ := exists_execute (guarded (step dynamicB .B) Answered) initial emptyReply
    (fun s => AtRest (exchange .B s) ∧ (exchange .B s).answered.length = 1 ∧
      (exchange .B s).forwardedReplies = [] ∧ (exchange .B s).requests = [⟨[1], 6000⟩])
    (by decide +kernel)
  obtain ⟨rest, number, none, one⟩ := of_decide_eq_true h
  refine ⟨s, runs_of_guarded hs, rest, number, none, fun pipelined => ?_⟩
  have complete := pipelined.complete rest
  rw [none, one] at complete
  cases complete

/-- The next request comes only when everything about the last one is done. It is not
    empty, so that the proxy forwards it. -/
def LockStep (X : Side) (s : UDPDialogue.State) : UDPDialogue.Event → Prop
  | .request d => AtRest (exchange X s) ∧ d.data ≠ []
  | _ => True

instance (s : UDPDialogue.State) (e : UDPDialogue.Event) : Decidable (LockStep X s e) := by
  cases e <;> unfold LockStep <;> infer_instance

/-- Reply number `k` has been forwarded to the source port of the request that it answers. -/
def Reaches (X : Side) (s : UDPDialogue.State) (k : ℕ) : Prop :=
  ∃ r d f, s.answered[k]? = some r ∧ (exchange X s).requests[r.request]? = some d ∧
    (exchange X s).forwardedReplies[k]? = some f ∧ f.port = d.srcPort

/-- The request that reply number `k` answers came from the port of request number `k`. -/
def SamePort (X : Side) (s : UDPDialogue.State) (k : ℕ) : Prop :=
  ∃ r d d', s.answered[k]? = some r ∧ (exchange X s).requests[r.request]? = some d ∧
    (exchange X s).requests[k]? = some d' ∧ d.srcPort = d'.srcPort

theorem reaches_iff (matched : Matched conn X (exchange X s)) {k : ℕ}
    (forwarded : k < (exchange X s).forwardedReplies.length) :
    Reaches X s k ↔ SamePort X s k := by
  obtain ⟨d', number', port'⟩ := forwarded_port matched (List.getElem?_eq_getElem forwarded)
  constructor
  · rintro ⟨r, d, f, answers, number, found, port⟩
    obtain rfl := Option.some.inj ((List.getElem?_eq_getElem forwarded).symm.trans found)
    exact ⟨r, d, d', answers, number, number', port ▸ port'⟩
  · rintro ⟨r, d, d'', answers, number, number'', port⟩
    obtain rfl := Option.some.inj (number'.symm.trans number'')
    exact ⟨r, d, _, answers, number, List.getElem?_eq_getElem forwarded, port'.trans port.symm⟩

/-- In lock-step a forwarded reply reaches its requester exactly when the ports agree. At
    rest every reply that A has sent has reached its requester exactly when all of them
    carry something and their ports agree. -/
theorem lockStep_reaches_iff (conn : UDPConnection) (X : Side)
    (dynamic : conn.entityPort X = -1) (fixed : conn.entityPort X.other ≠ -1)
    (es : List UDPDialogue.Event) (s : UDPDialogue.State)
    (run : Runs (step conn X) (LockStep X) initial es s) :
    (∀ k < (exchange X s).forwardedReplies.length, Reaches X s k ↔ SamePort X s k) ∧
      (AtRest (exchange X s) →
        ((∀ k < s.answered.length, Reaches X s k) ↔
          (∀ r ∈ s.answered, r.datagram.data ≠ []) ∧
            ∀ k < s.answered.length, SamePort X s k)) := by
  have matched := (run_matched dynamic fixed (fun t d met => met.2) run).2
  refine ⟨fun k hk => reaches_iff matched hk, fun rest => ?_⟩
  have sent := rest_forwarded matched rest
  constructor
  · intro reaches
    have all : (exchange X s).forwardedReplies.length = s.answered.length := by
      refine (forwarded_le matched).antisymm ?_
      by_contra short
      obtain ⟨-, -, f, -, -, found, -⟩ := reaches _ (Nat.lt_of_not_le short)
      exact absurd (List.getElem?_eq_some_iff.mp found).1 (lt_irrefl _)
    exact ⟨sent.mp all, fun k hk => (reaches_iff matched (all ▸ hk)).mp (reaches k hk)⟩
  · rintro ⟨some_data, same⟩ k hk
    have all : (exchange X s).forwardedReplies.length = s.answered.length := sent.mpr some_data
    exact (reaches_iff matched (all ▸ hk)).mpr (same k hk)

def firstIgnored : List UDPDialogue.Event :=
  [.request ⟨[1], 6000⟩, .choose (.recv .B), .push (.recv .B), .sendto (.recv .B) echo, .ignore,
    .request ⟨[2], 6001⟩, .choose (.recv .B), .push (.recv .B), .sendto (.recv .B) echo,
    .reply ⟨[3], 5000⟩, .replyArrives, .choose (.send .A), .sendto (.send .A) echo]

/-- The reply to the second goes to the port of the first. -/
theorem firstIgnored_misses : ∃ s,
    Runs (step dynamicB .B) (LockStep .B) initial firstIgnored s ∧ AtRest (exchange .B s) ∧
      s.answered = [⟨1, ⟨[3], 5000⟩⟩] ∧ ¬ Reaches .B s 0 := by
  obtain ⟨s, hs, h⟩ := exists_execute (guarded (step dynamicB .B) (LockStep .B)) initial
    firstIgnored (fun s => AtRest (exchange .B s) ∧ s.answered = [⟨1, ⟨[3], 5000⟩⟩] ∧
      (exchange .B s).requests = [⟨[1], 6000⟩, ⟨[2], 6001⟩] ∧
      (exchange .B s).forwardedReplies.map Forward.port = [6000]) (by decide +kernel)
  obtain ⟨rest, answers, requests, ports⟩ := of_decide_eq_true h
  refine ⟨s, runs_of_guarded hs, rest, answers, ?_⟩
  rintro ⟨r, d, f, first, number, found, port⟩
  obtain rfl : ⟨1, ⟨[3], 5000⟩⟩ = r := by simpa [answers] using first
  obtain rfl : ⟨[2], 6001⟩ = d := by simpa [requests] using number
  have := congrArg (Option.map Forward.port) found
  rw [← List.getElem?_map, ports, Option.map_some, port] at this
  cases this

def bothAnswered : List UDPDialogue.Event :=
  [.request ⟨[1], 6000⟩, .choose (.recv .B), .push (.recv .B), .sendto (.recv .B) echo,
    .reply ⟨[3], 5000⟩, .replyArrives, .choose (.send .A), .sendto (.send .A) echo,
    .request ⟨[2], 6001⟩, .choose (.recv .B), .push (.recv .B), .sendto (.recv .B) echo,
    .reply ⟨[4], 5000⟩, .replyArrives, .choose (.send .A), .sendto (.send .A) echo]

theorem bothAnswered_reaches : ∃ s,
    Runs (step dynamicB .B) (LockStep .B) initial bothAnswered s ∧ s.answered.length = 2 ∧
      ∀ k < s.answered.length, Reaches .B s k := by
  obtain ⟨s, hs, h⟩ := exists_execute (guarded (step dynamicB .B) (LockStep .B)) initial
    bothAnswered (fun s => AtRest (exchange .B s) ∧
      s.answered = [⟨0, ⟨[3], 5000⟩⟩, ⟨1, ⟨[4], 5000⟩⟩] ∧
      (exchange .B s).requests = [⟨[1], 6000⟩, ⟨[2], 6001⟩]) (by decide +kernel)
  obtain ⟨rest, answers, requests⟩ := of_decide_eq_true h
  have run := runs_of_guarded hs
  refine ⟨s, run, by rw [answers]; rfl, ?_⟩
  refine ((lockStep_reaches_iff dynamicB .B rfl (by decide) bothAnswered s run).2 rest).mpr
    ⟨by simp [answers], fun k hk => ?_⟩
  rw [answers] at hk
  match k, hk with
  | 0, _ | 1, _ => simp [SamePort, answers, requests]

end Cezfuzzer.UDPReplies
