import Cezfuzzer.UDPRelay

set_option autoImplicit false

/-!
# Requests and replies

What the relay does for one dynamic side `X`, without its sockets and its log. A requester
takes the requests, stores their source ports and passes them on; the other side answers
some of those that it gets; a replier takes the replies, and a port from the queue for each.
-/
namespace Cezfuzzer.UDPExchange
open FuzzerCore UDPRelay

structure Reply where
  request : ℕ
  datagram : Datagram
  deriving DecidableEq

/-- `passed` requests have gone on to the other side, which has dealt with `handled` of them
    and sent the replies in `answered`; those in `replies` have not arrived yet. -/
structure Exchange where
  dynamicPorts : List ℤ
  requester : Thread
  replier : Thread
  requests : List Datagram
  passed : ℕ
  handled : ℕ
  answered : List Reply
  replies : List Datagram
  repliesTaken : List Datagram
  forwardedReplies : List Forward

def initial : Exchange := ⟨[], .receiving, .receiving, [], 0, 0, [], [], [], []⟩

inductive Move (conn : UDPConnection) (X : Side) (v : Exchange) : Exchange → Prop where
  | request (d : Datagram) (at' : v.requester = .receiving) :
      Move conn X v { v with requester := .choosing d, requests := v.requests ++ [d] }
  | target (d : Datagram) (at' : v.requester = .choosing d) :
      Move conn X v { v with requester := .pushing d (conn.entityPort X.other) }
  | push (d : Datagram) (target_port : ℤ) (at' : v.requester = .pushing d target_port) :
      Move conn X v { v with
        requester := .sending d target_port, dynamicPorts := v.dynamicPorts ++ [d.src_port] }
  | pass (d : Datagram) (target_port : ℤ) (at' : v.requester = .sending d target_port)
      (there : v.replier ≠ .closed) :
      Move conn X v { v with requester := .receiving, passed := v.passed + 1 }
  | passFails (d : Datagram) (target_port : ℤ) (at' : v.requester = .sending d target_port)
      (gone : v.replier = .closed) : Move conn X v { v with requester := .receiving }
  | reply (d : Datagram) (open' : v.handled < v.passed) :
      Move conn X v { v with
        handled := v.handled + 1
        answered := v.answered ++ [⟨v.handled, d⟩]
        replies := v.replies ++ [d] }
  | ignore (open' : v.handled < v.passed) : Move conn X v { v with handled := v.handled + 1 }
  | lose (d : Datagram) (rest : List Datagram) (next : v.replies = d :: rest)
      (at' : v.replier = .receiving) (empty : d.data = []) :
      Move conn X v { v with replies := rest, replier := .closed }
  | arrive (d : Datagram) (rest : List Datagram) (next : v.replies = d :: rest)
      (at' : v.replier = .receiving) (some_data : d.data ≠ []) :
      Move conn X v { v with
        replies := rest, replier := .choosing d, repliesTaken := v.repliesTaken ++ [d] }
  | pop (d : Datagram) (front : ℤ) (rest : List ℤ) (at' : v.replier = .choosing d)
      (found : v.dynamicPorts = front :: rest) :
      Move conn X v { v with replier := .sending d front, dynamicPorts := rest }
  | popEmpty (d : Datagram) (at' : v.replier = .choosing d) (empty : v.dynamicPorts = []) :
      Move conn X v { v with replier := .sending d d.src_port }
  | forward (call : FuzzCall) (d : Datagram) (dst_port : ℤ)
      (at' : v.replier = .sending d dst_port) :
      Move conn X v { v with
        replier := .receiving
        forwardedReplies := v.forwardedReplies ++ [⟨.send X.other, .recv X, conn.entityIP X,
          htons dst_port, udpPayload call d.buffer⟩] }

/-- The source port that the requester has still to store. -/
def unpushed : Thread → List ℤ
  | .choosing d | .pushing d _ => [d.src_port]
  | _ => []

/-- The replies for which a port has been taken from the queue. -/
def popped (forwardedReplies : List Forward) (replier : Thread) : ℕ :=
  forwardedReplies.length + (chosen replier).toList.length

/-- The invariant: the queue goes on where the forwarded replies have stopped. An empty
    reply is lost, and closes the way back and forth. -/
structure Matched (conn : UDPConnection) (X : Side) (v : Exchange) : Prop where
  taken : v.passed + (inHand v.requester).toList.length ≤ v.requests.length
  through : v.replier ≠ .closed →
    v.requests.length = v.passed + (inHand v.requester).toList.length
  replied : v.repliesTaken.length =
    v.forwardedReplies.length + (inHand v.replier).toList.length
  handled : v.handled ≤ v.passed
  answered : v.answered.length ≤ v.handled
  arriving : v.replier ≠ .closed →
    v.repliesTaken ++ v.replies = v.answered.map Reply.datagram
  lost : v.replier = .closed →
    v.repliesTaken.length + v.replies.length < v.answered.length ∧
      ∃ r ∈ v.answered, r.datagram.data = []
  some_data : ∀ d ∈ v.repliesTaken, d.data ≠ []
  queue : v.dynamicPorts ++ unpushed v.requester =
    (v.requests.map Datagram.src_port).drop (popped v.forwardedReplies v.replier)
  ports : v.forwardedReplies.map Forward.port ++ (chosen v.replier).toList.map htons =
    (v.requests.map Datagram.srcPort).take (popped v.forwardedReplies v.replier)
  addressed : ∀ f ∈ v.forwardedReplies, f.ip = conn.entityIP X

theorem initial_matched (conn : UDPConnection) (X : Side) : Matched conn X initial := by
  constructor <;> simp [initial, inHand, chosen, unpushed, popped]

theorem exists_of_cons_eq_drop {α β : Type*} {f : α → β} {l : List α} {k : ℕ} {b : β}
    {tail : List β} (h : b :: tail = (l.map f).drop k) :
    ∃ a, l[k]? = some a ∧ f a = b ∧ tail = (l.map f).drop (k + 1) := by
  have first : (l.map f)[k]? = some b := by
    rw [← Nat.add_zero k, ← List.getElem?_drop, ← h]
    rfl
  rw [List.getElem?_map, Option.map_eq_some_iff] at first
  obtain ⟨a, found, same⟩ := first
  refine ⟨a, found, same, ?_⟩
  rw [← List.tail_drop, ← h, List.tail_cons]

theorem chosen_le_inHand (t : Thread) :
    (chosen t).toList.length ≤ (inHand t).toList.length := by
  cases t <;> simp [chosen, inHand]

theorem unpushed_le_inHand (t : Thread) : (unpushed t).length ≤ (inHand t).toList.length := by
  cases t <;> simp [unpushed, inHand]

variable {conn : UDPConnection} {X : Side} {v w : Exchange}

theorem flight_le (matched : Matched conn X v) :
    v.repliesTaken.length + v.replies.length ≤ v.answered.length := by
  by_cases closed : v.replier = .closed
  · exact (matched.lost closed).1.le
  · have := congrArg List.length (matched.arriving closed)
    simp only [List.length_append, List.length_map] at this
    omega

theorem popped_le (matched : Matched conn X v) :
    popped v.forwardedReplies v.replier ≤ v.requests.length := by
  have := chosen_le_inHand v.replier
  have := matched.taken
  have := matched.replied
  have := matched.handled
  have := matched.answered
  have := flight_le matched
  unfold popped
  omega

theorem queue_nonempty (matched : Matched conn X v) {d : Datagram}
    (replying : v.replier = .choosing d) : v.dynamicPorts ≠ [] := by
  intro empty
  have queue := congrArg List.length matched.queue
  have := unpushed_le_inHand v.requester
  have := matched.taken
  have replied := matched.replied
  have := matched.handled
  have := matched.answered
  have := flight_le matched
  rw [empty, popped, replying] at queue
  rw [replying] at replied
  simp [chosen, inHand] at queue replied
  omega

theorem matched_request (matched : Matched conn X v) (d : Datagram)
    (at' : v.requester = .receiving) :
    Matched conn X { v with requester := .choosing d, requests := v.requests ++ [d] } := by
  have le := popped_le matched
  have taken := matched.taken
  have through := matched.through
  have queue := matched.queue
  rw [at'] at taken through queue
  refine { matched with taken := ?_, through := ?_, queue := ?_, ports := ?_ }
  · simpa [inHand] using taken
  · simpa [inHand] using through
  · -- the new port is the last of the open requests, and waits to be stored
    simp only [unpushed, List.append_nil] at queue
    rw [List.map_append, List.drop_append_of_le_length (by simpa using le)]
    exact congrArg (· ++ [d.src_port]) queue
  · rw [List.map_append, List.take_append_of_le_length (by simpa using le)]
    exact matched.ports

theorem matched_pass (matched : Matched conn X v) {d : Datagram}
    {port : ℤ} (at' : v.requester = .sending d port) :
    Matched conn X { v with requester := .receiving, passed := v.passed + 1 } := by
  have taken := matched.taken
  have through := matched.through
  have queue := matched.queue
  have handled := matched.handled
  rw [at'] at taken through queue
  refine { matched with taken := ?_, through := ?_, queue := queue, handled := ?_ }
  · simpa [inHand] using taken
  · simpa [inHand] using through
  · exact Nat.le_succ_of_le handled

theorem matched_reply (matched : Matched conn X v) (d : Datagram)
    (open' : v.handled < v.passed) :
    Matched conn X { v with
      handled := v.handled + 1
      answered := v.answered ++ [⟨v.handled, d⟩]
      replies := v.replies ++ [d] } := by
  have answered := matched.answered
  refine { matched with handled := open', answered := ?_, arriving := ?_, lost := ?_ }
  · simpa using answered
  · intro there
    rw [← List.append_assoc, matched.arriving there, List.map_append]
    rfl
  · intro gone
    obtain ⟨short, r, hr, empty⟩ := matched.lost gone
    refine ⟨?_, r, List.mem_append_left _ hr, empty⟩
    simp only [List.length_append, List.length_singleton]
    omega

theorem matched_lose (matched : Matched conn X v) {d : Datagram}
    {rest : List Datagram} (next : v.replies = d :: rest) (at' : v.replier = .receiving)
    (empty : d.data = []) :
    Matched conn X { v with replies := rest, replier := .closed } := by
  have there : v.replier ≠ .closed := by rw [at']; nofun
  have replied := matched.replied
  have queue := matched.queue
  have ports := matched.ports
  have arriving := matched.arriving there
  rw [at'] at replied
  simp only [popped, at'] at queue ports
  rw [next] at arriving
  refine { matched with
    through := absurd rfl, replied := replied, arriving := absurd rfl, lost := ?_
    queue := queue, ports := ports }
  intro _
  have sent := congrArg List.length arriving
  have listed : d ∈ v.answered.map Reply.datagram := by simp [← arriving]
  obtain ⟨r, hr, rfl⟩ := List.mem_map.mp listed
  refine ⟨?_, r, hr, empty⟩
  simp only [List.length_append, List.length_cons, List.length_map] at sent ⊢
  omega

theorem matched_arrive (matched : Matched conn X v) {d : Datagram}
    {rest : List Datagram} (next : v.replies = d :: rest) (at' : v.replier = .receiving)
    (some_data : d.data ≠ []) :
    Matched conn X { v with
      replies := rest, replier := .choosing d, repliesTaken := v.repliesTaken ++ [d] } := by
  have there : v.replier ≠ .closed := by rw [at']; nofun
  have replied := matched.replied
  have queue := matched.queue
  have ports := matched.ports
  have arriving := matched.arriving there
  rw [at'] at replied
  simp only [popped, at'] at queue ports
  rw [next] at arriving
  refine { matched with
    through := fun _ => matched.through there, replied := ?_, arriving := ?_, lost := nofun
    some_data := ?_, queue := queue, ports := ports }
  · simpa [inHand] using replied
  · intro _
    rw [← arriving, List.append_assoc]
    rfl
  · intro d' hd'
    rcases List.mem_append.mp hd' with old | new
    · exact matched.some_data d' old
    · exact List.mem_singleton.mp new ▸ some_data

theorem matched_pop (matched : Matched conn X v) {d : Datagram}
    {front : ℤ} {rest : List ℤ} (at' : v.replier = .choosing d)
    (found : v.dynamicPorts = front :: rest) :
    Matched conn X { v with replier := .sending d front, dynamicPorts := rest } := by
  have there : v.replier ≠ .closed := by rw [at']; nofun
  have replied := matched.replied
  have queue := matched.queue
  have ports := matched.ports
  rw [at'] at replied
  simp only [popped, at', chosen, found, Option.toList_none, List.length_nil, Nat.add_zero,
    List.map_nil, List.append_nil] at queue ports
  -- the port that is taken is that of the request with the same number
  obtain ⟨request, number, src, left⟩ := exists_of_cons_eq_drop queue
  refine { matched with
    through := fun _ => matched.through there, replied := replied
    arriving := fun _ => matched.arriving there, lost := nofun, queue := left, ports := ?_ }
  have same : htons front = request.srcPort := src ▸ htons_src_port request
  simp only [popped, chosen, Option.toList_some, List.length_singleton, List.map_singleton]
  rw [List.take_add_one, ports, same, List.getElem?_map, number]
  rfl

theorem matched_forward (matched : Matched conn X v) (call : FuzzCall)
    {d : Datagram} {port : ℤ} (at' : v.replier = .sending d port) :
    Matched conn X { v with
      replier := .receiving
      forwardedReplies := v.forwardedReplies ++ [⟨.send X.other, .recv X, conn.entityIP X,
        htons port, udpPayload call d.buffer⟩] } := by
  have there : v.replier ≠ .closed := by rw [at']; nofun
  have replied := matched.replied
  have queue := matched.queue
  have ports := matched.ports
  rw [at'] at replied
  simp only [popped, at', chosen] at queue ports
  refine { matched with
    through := fun _ => matched.through there, replied := ?_
    arriving := fun _ => matched.arriving there, lost := nofun, queue := ?_, ports := ?_
    addressed := ?_ }
  · simpa [inHand] using replied
  · simpa [popped, chosen] using queue
  · simpa [popped, chosen] using ports
  · intro f hf
    rcases List.mem_append.mp hf with old | new
    · exact matched.addressed f old
    · rw [List.mem_singleton.mp new]

theorem matched_move (matched : Matched conn X v) (move : Move conn X v w) :
    Matched conn X w := by
  cases move with
  | request d at' => exact matched_request matched d at'
  | target d at' =>
    have taken := matched.taken
    have through := matched.through
    have queue := matched.queue
    rw [at'] at taken through queue
    exact { matched with taken := taken, through := through, queue := queue }
  | push d port at' =>
    have taken := matched.taken
    have through := matched.through
    have queue := matched.queue
    rw [at'] at taken through queue
    refine { matched with taken := taken, through := through, queue := ?_ }
    simpa [unpushed] using queue
  | pass d port at' there => exact matched_pass matched at'
  | passFails d port at' gone =>
    have taken := matched.taken
    have queue := matched.queue
    rw [at'] at taken queue
    refine { matched with taken := ?_, through := absurd gone, queue := queue }
    exact Nat.le_of_succ_le taken
  | reply d open' => exact matched_reply matched d open'
  | ignore open' =>
    exact { matched with handled := open', answered := Nat.le_succ_of_le matched.answered }
  | lose d rest next at' empty => exact matched_lose matched next at' empty
  | arrive d rest next at' some_data => exact matched_arrive matched next at' some_data
  | pop d front rest at' found => exact matched_pop matched at' found
  | popEmpty d at' empty => exact absurd empty (queue_nonempty matched at')
  | forward call d port at' => exact matched_forward matched call at'

theorem forwarded_port (matched : Matched conn X v) {k : ℕ} {f : Forward}
    (found : v.forwardedReplies[k]? = some f) :
    ∃ d, v.requests[k]? = some d ∧ f.port = d.srcPort := by
  have hk := (List.getElem?_eq_some_iff.mp found).1
  have before : k < popped v.forwardedReplies v.replier := Nat.lt_add_right _ hk
  have port : (v.forwardedReplies.map Forward.port ++
      (chosen v.replier).toList.map htons)[k]? = some f.port := by
    rw [List.getElem?_append_left (by simpa using hk), List.getElem?_map, found]
    rfl
  rw [matched.ports, List.getElem?_take_of_lt before, List.getElem?_map,
    Option.map_eq_some_iff] at port
  obtain ⟨d, number, same⟩ := port
  exact ⟨d, number, same.symm⟩

/-- Nobody has a datagram in hand, no reply is on its way, and no request is left. -/
structure AtRest (v : Exchange) : Prop where
  requester : inHand v.requester = none
  replier : inHand v.replier = none
  arrived : v.replies = []
  handled : v.handled = v.passed

instance (v : Exchange) : Decidable (AtRest v) :=
  decidable_of_iff (inHand v.requester = none ∧ inHand v.replier = none ∧ v.replies = [] ∧
      v.handled = v.passed)
    ⟨fun ⟨a, b, c, d⟩ => ⟨a, b, c, d⟩, fun ⟨a, b, c, d⟩ => ⟨a, b, c, d⟩⟩

theorem AtRest.chosen (rest : AtRest v) : UDPRelay.chosen v.replier = none := by
  have idle := rest.replier
  cases h : v.replier <;> simp_all [inHand, UDPRelay.chosen]

theorem forwarded_le (matched : Matched conn X v) :
    v.forwardedReplies.length ≤ v.answered.length := by
  have := matched.replied
  have := flight_le matched
  omega

/-- At rest every reply has been forwarded, unless an empty one was sent. -/
theorem rest_forwarded (matched : Matched conn X v) (rest : AtRest v) :
    v.forwardedReplies.length = v.answered.length ↔ ∀ r ∈ v.answered, r.datagram.data ≠ [] := by
  have replied := matched.replied
  rw [rest.replier, Option.toList_none, List.length_nil, Nat.add_zero] at replied
  by_cases closed : v.replier = .closed
  · obtain ⟨short, r, hr, empty⟩ := matched.lost closed
    constructor
    · intro all
      omega
    · intro all
      exact absurd empty (all r hr)
  · have arriving := matched.arriving closed
    rw [rest.arrived, List.append_nil] at arriving
    have sent := congrArg List.length arriving
    rw [List.length_map] at sent
    constructor
    · intro _ r hr
      exact matched.some_data _ (arriving ▸ List.mem_map_of_mem hr)
    · intro _
      omega

end Cezfuzzer.UDPExchange
