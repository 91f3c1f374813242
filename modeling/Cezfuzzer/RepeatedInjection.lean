import Mathlib.Data.Finset.Card
import Mathlib.Data.Fin.VecNotation
import Mathlib.Data.List.OfFn
import Cezfuzzer.NormalizedPorts

set_option autoImplicit false

/-!
# Injecting twice

What the two injectors add depends on the entities that are no fuzzers and on the random
numbers, and the random numbers decide nothing but the proxy ports.
-/
namespace Cezfuzzer.CommanderPasses
open OrderedDict PythonValues FallibleLoops
open RedirectionInjector (Draw)

variable {σ : Type} {py : Python σ}

/-- How many different ports that are not in use the random numbers still offer. -/
def fresh (py : Python σ) (s : Ports σ) : ℕ :=
  ((s.draws.map Draw.port).toFinset.filter (fun p => py.mem (.int p) s.used = false)).card

/-- From `s` the run draws `n` ports and ends with `Q`, or it fails for want of as many. -/
def DrawsPorts (py : Python σ) {τ : Type} (ports : τ → Ports σ) (s : Ports σ) (n : ℕ)
    (Q : τ → Prop) : Except Failure τ → Prop
  | .ok t => fresh py s = fresh py (ports t) + n ∧ Q t
  | .error e => e = .outOfDraws ∧ fresh py s < n

section
variable {τ τ' : Type} {ports : τ → Ports σ} {ports' : τ' → Ports σ} {s : Ports σ} {n k : ℕ}
  {Q : τ → Prop} {Q' : τ' → Prop} {x : Except Failure τ} {f : τ → Except Failure τ'}

theorem DrawsPorts.pure {t : τ} (h : Q t) :
    DrawsPorts py ports (ports t) 0 Q (Pure.pure t) := ⟨rfl, h⟩

theorem DrawsPorts.bind (h : DrawsPorts py ports s n Q x)
    (next : ∀ t, Q t → DrawsPorts py ports' (ports t) k Q' (f t)) :
    DrawsPorts py ports' s (n + k) Q' (x >>= f) := by
  cases x with
  | error e => exact ⟨h.1, by have := h.2; omega⟩
  | ok t =>
    obtain ⟨drawn, q⟩ := h
    have then' := next t q
    change DrawsPorts py ports' s (n + k) Q' (f t)
    cases hf : f t with
    | error e =>
      rw [hf] at then'
      exact ⟨then'.1, by have := then'.2; omega⟩
    | ok t' =>
      rw [hf] at then'
      exact ⟨by have := then'.1; omega, then'.2⟩

theorem DrawsPorts.from {s' : Ports σ} (h : DrawsPorts py ports s n Q x)
    (same : fresh py s' = fresh py s) : DrawsPorts py ports s' n Q x := by
  cases x with
  | error e => exact ⟨h.1, same ▸ h.2⟩
  | ok t => exact ⟨same.trans h.1, h.2⟩

theorem DrawsPorts.imp {Q' : τ → Prop} (h : DrawsPorts py ports s n Q x)
    (weaker : ∀ t, Q t → Q' t) : DrawsPorts py ports s n Q' x := by
  cases x with
  | error e => exact h
  | ok t => exact ⟨h.1, weaker t h.2⟩

/-- The whole of a run that has `n` ports to draw. -/
def Supplied (py : Python σ) (s : Ports σ) (n : ℕ) {τ : Type} (Q : τ → Prop) :
    Except Failure τ → Prop
  | .ok t => n ≤ fresh py s ∧ Q t
  | .error e => e = .outOfDraws ∧ fresh py s < n

theorem DrawsPorts.supplied (h : DrawsPorts py ports s n Q x)
    (next : ∀ t, Q t → Supplied py (ports t) k Q' (f t)) :
    Supplied py s (n + k) Q' (x >>= f) := by
  cases x with
  | error e => exact ⟨h.1, by have := h.2; omega⟩
  | ok t =>
    obtain ⟨drawn, q⟩ := h
    have then' := next t q
    change Supplied py s (n + k) Q' (f t)
    cases hf : f t with
    | error e =>
      rw [hf] at then'
      exact ⟨then'.1, by have := then'.2; omega⟩
    | ok t' =>
      rw [hf] at then'
      exact ⟨by have := then'.1; omega, then'.2⟩

end

theorem mem_append_int (used : List (Scalar σ)) (p q : ℤ) :
    py.mem (.int p) (used ++ [.int q]) = (py.mem (.int p) used || decide (p = q)) := by
  simp [Python.mem]

theorem randomPort_draws (s : Ports σ) :
    DrawsPorts py Prod.snd s 1 (fun r => r.2.used = s.used ++ [.int r.1]) (randomPort py s) := by
  obtain ⟨used, draws⟩ := s
  unfold randomPort
  induction draws with
  | nil => exact ⟨rfl, by simp [fresh]⟩
  | cons d draws ih =>
    simp only [drawPort]
    cases taken : py.mem (.int d.port) used with
    | true =>
      have skipped : fresh py ⟨used, d :: draws⟩ = fresh py ⟨used, draws⟩ := by
        simp [fresh, Finset.filter_insert, taken]
      rw [if_pos rfl]
      exact ih.from skipped
    | false =>
      rw [if_neg (by simp)]
      refine ⟨?_, rfl⟩
      simp only [fresh, List.map_cons, List.toFinset_cons, Finset.filter_insert, taken, if_true]
      have rest : (draws.map Draw.port).toFinset.filter
          (fun p => py.mem (.int p) (used ++ [.int d.port]) = false) =
            ((draws.map Draw.port).toFinset.filter
              (fun p => py.mem (.int p) used = false)).erase d.port := by
        ext p
        simp only [mem_append_int, Finset.mem_filter, Finset.mem_erase, Bool.or_eq_false_iff,
          decide_eq_false_iff_not]
        tauto
      rw [rest, ← Finset.erase_insert_eq_erase,
        Finset.card_erase_add_one (Finset.mem_insert_self _ _)]

section
variable {κ α : Type} (met : κ → List κ → Bool) (key : α → κ)

/-- The elements whose keys have not been met ahead of them. -/
def firstUnmet : List κ → List α → List α
  | _, [] => []
  | seen, a :: as =>
    if met (key a) seen then firstUnmet seen as else a :: firstUnmet (seen ++ [key a]) as

theorem firstUnmet_cons (seen : List κ) (a : α) (as : List α) :
    firstUnmet met key seen (a :: as) = firstUnmet met key seen [a] ++
      firstUnmet met key (seen ++ (firstUnmet met key seen [a]).map key) as := by
  cases h : met (key a) seen <;> simp [firstUnmet, h]

variable {n : ℕ} (build : α → (Fin n → ℤ) → Value σ)

def intPorts (p : Fin n → ℤ) : List (Scalar σ) := List.ofFn (fun i => .int (p i))

/-- A loop over `as` adds what `build` makes of the new ones among them and of `n` ports each. -/
def Adds (s : Progress σ κ) (as : List α) (s' : Progress σ κ) : Prop :=
  ∃ new : List (α × (Fin n → ℤ)), new.map Prod.fst = firstUnmet met key s.seen as ∧
    s'.added = s.added ++ new.map (fun x => build x.1 x.2) ∧
    s'.seen = s.seen ++ (new.map Prod.fst).map key ∧
    s'.ports.used = s.ports.used ++ new.flatMap (fun x => intPorts x.2)

variable {met key build}

theorem Adds.refl (s : Progress σ κ) : Adds met key build s [] s := ⟨[], rfl, by simp⟩

theorem Adds.cons {s t u : Progress σ κ} {a : α} {as : List α}
    (h : Adds met key build s [a] t) (h' : Adds met key build t as u) :
    Adds met key build s (a :: as) u := by
  obtain ⟨new, h₁, h₂, h₃, h₄⟩ := h
  obtain ⟨new', h₁', h₂', h₃', h₄'⟩ := h'
  refine ⟨new ++ new', ?_, ?_, ?_, ?_⟩
  · rw [List.map_append, h₁', h₃, h₁, firstUnmet_cons met key s.seen a as]
  · rw [h₂', h₂, List.map_append, List.append_assoc]
  · rw [h₃', h₃, List.map_append, List.map_append, List.append_assoc]
  · rw [h₄', h₄, List.flatMap_append, List.append_assoc]

variable {make : α → Ports σ → Except Failure (Value σ × Ports σ)}

/-- `make` draws `n` ports and builds its value with them. -/
def Makes (py : Python σ) (build : α → (Fin n → ℤ) → Value σ)
    (make : α → Ports σ → Except Failure (Value σ × Ports σ)) : Prop :=
  ∀ a s, DrawsPorts py Prod.snd s n (fun r => ∃ p : Fin n → ℤ, r.1 = build a p ∧
    r.2.used = s.used ++ intPorts p) (make a s)

theorem addUnseen_draws (makes : Makes py build make) (a : α) (s : Progress σ κ) :
    DrawsPorts py Progress.ports s.ports (n * (firstUnmet met key s.seen [a]).length)
      (Adds met key build s [a]) (addUnseen met (key a) (make a) s) := by
  unfold addUnseen
  cases seen : met (key a) s.seen with
  | true =>
    have none : firstUnmet met key s.seen [a] = [] := by simp [firstUnmet, seen]
    rw [if_pos rfl, none]
    exact ⟨rfl, [], none.symm, by simp⟩
  | false =>
    have one : firstUnmet met key s.seen [a] = [a] := by simp [firstUnmet, seen]
    rw [if_neg (by simp), one, List.length_singleton, Nat.mul_one]
    refine (makes a s.ports).bind (k := 0) ?_
    rintro ⟨value, ports⟩ ⟨p, rfl, used⟩
    exact ⟨rfl, [(a, p)], one.symm, rfl, rfl, by simpa using used⟩

theorem loop_draws (makes : Makes py build make) (as : List α) (s : Progress σ κ) :
    DrawsPorts py Progress.ports s.ports (n * (firstUnmet met key s.seen as).length)
      (Adds met key build s as)
      (as.foldlM (fun s a => addUnseen met (key a) (make a) s) s) := by
  induction as generalizing s with
  | nil => exact ⟨rfl, Adds.refl s⟩
  | cons a as ih =>
    rw [List.foldlM_cons, firstUnmet_cons, List.length_append, Nat.mul_add]
    refine (addUnseen_draws makes a s).bind fun t first => ?_
    obtain ⟨new, h₁, -, h₃, -⟩ := id first
    rw [← h₁, ← h₃]
    exact (ih t).imp fun u rest => first.cons rest

end

def withPorts (link : Link σ) (p : Fin 4 → ℤ) : Value σ :=
  connection link (.int (p 0)) (.int (p 1)) (.int (p 2)) (.int (p 3))

theorem newConnection_makes : Makes py withPorts (newConnection py) := by
  intro link s
  change DrawsPorts py Prod.snd s (1 + (1 + (1 + (1 + 0)))) _ _
  refine (randomPort_draws s).bind ?_
  rintro ⟨recvA, s₁⟩ h₁
  refine (randomPort_draws s₁).bind ?_
  rintro ⟨sendA, s₂⟩ h₂
  refine (randomPort_draws s₂).bind ?_
  rintro ⟨recvB, s₃⟩ h₃
  refine (randomPort_draws s₃).bind ?_
  rintro ⟨sendB, s₄⟩ h₄
  refine ⟨rfl, ![recvA, sendA, recvB, sendB], rfl, ?_⟩
  simp only at h₁ h₂ h₃ h₄
  simp [h₄, h₃, h₂, h₁, intPorts, List.ofFn_succ]

def withPort (server : Scalar σ × Scalar σ) (p : Fin 1 → ℤ) : Value σ :=
  redirection server (.int (p 0))

theorem newRedirection_makes : Makes py withPort (newRedirection py) := by
  intro server s
  change DrawsPorts py Prod.snd s (1 + 0) _ _
  refine (randomPort_draws s).bind ?_
  rintro ⟨proxy_port, s₁⟩ h₁
  refine ⟨rfl, ![proxy_port], rfl, ?_⟩
  simpa [intPorts] using h₁

section
variable [DecidableEq σ]

/-- The links of an entity, in the order of the loop over them. -/
def readLinks (py : Python σ) (entity : Value σ) : Except Failure (List (Link σ)) := do
  let role ← entity.get "role" .null
  if role.isText "fuzzer" then return []
  else do
    let src_ip ← entity.item "ip"
    let src_port ← entity.item "port"
    let destinations ← entity.get "destinations" (.list [])
    let dests ← destinations.iterate py
    dests.mapM (readLink py src_ip src_port)

theorem visitEntity_of_read (s : Progress σ (PairKey σ)) (e : Scalar σ × Value σ)
    (links : List (Link σ)) (h : readLinks py e.2 = .ok links) :
    visitEntity py s e = links.foldlM (connect py) s := by
  unfold readLinks at h
  unfold visitEntity
  obtain ⟨role, hrole, h⟩ := ok_bind.mp h
  rw [bind_of_ok hrole]
  split at h
  · rename_i fuzzer
    cases h
    rw [if_pos fuzzer]
    rfl
  · rename_i other
    obtain ⟨src_ip, hip, h⟩ := ok_bind.mp h
    obtain ⟨src_port, hport, h⟩ := ok_bind.mp h
    obtain ⟨destinations, hdestinations, h⟩ := ok_bind.mp h
    obtain ⟨dests, hdests, h⟩ := ok_bind.mp h
    rw [if_neg other, bind_of_ok hip, bind_of_ok hport, bind_of_ok hdestinations,
      bind_of_ok hdests]
    exact foldlM_of_read (fun s dest link hlink => bind_of_ok hlink _) h s

theorem visitEntity_reads (s : Progress σ (PairKey σ)) (e : Scalar σ × Value σ)
    (t : Progress σ (PairKey σ)) (h : visitEntity py s e = .ok t) :
    ∃ links, readLinks py e.2 = .ok links := by
  unfold visitEntity at h
  unfold readLinks
  obtain ⟨role, hrole, h⟩ := ok_bind.mp h
  rw [bind_of_ok hrole]
  split at h
  · rename_i fuzzer
    exact ⟨[], if_pos fuzzer⟩
  · rename_i other
    obtain ⟨src_ip, hip, h⟩ := ok_bind.mp h
    obtain ⟨src_port, hport, h⟩ := ok_bind.mp h
    obtain ⟨destinations, hdestinations, h⟩ := ok_bind.mp h
    obtain ⟨dests, hdests, h⟩ := ok_bind.mp h
    rw [if_neg other, bind_of_ok hip, bind_of_ok hport, bind_of_ok hdestinations,
      bind_of_ok hdests]
    refine read_of_foldlM (fun s dest t hvisit => ?_) h
    obtain ⟨link, hlink, -⟩ := ok_bind.mp hvisit
    exact ⟨link, hlink⟩

theorem visitServer_of_read (s : Progress σ (Scalar σ × Scalar σ)) (e : Scalar σ × Value σ)
    (servers : List (Scalar σ × Scalar σ)) (h : readServer py e.2 = .ok servers) :
    visitServer py s e = servers.foldlM (redirect py) s := bind_of_ok h _

theorem visitServer_reads (s : Progress σ (Scalar σ × Scalar σ)) (e : Scalar σ × Value σ)
    (t : Progress σ (Scalar σ × Scalar σ)) (h : visitServer py s e = .ok t) :
    ∃ servers, readServer py e.2 = .ok servers := by
  obtain ⟨servers, hservers, -⟩ := ok_bind.mp h
  exact ⟨servers, hservers⟩

section
variable {v : Value σ}

theorem isDict_of_isFuzzer (h : isFuzzer v = true) : v.isDict = true := by
  cases v with
  | dict => rfl
  | _ => cases h

theorem get_role (h : isFuzzer v = true) : v.get "role" .null = .ok (v.field "role" .null) :=
  Value.get_eq_ok.mpr ⟨isDict_of_isFuzzer h, rfl⟩

theorem isFuzzer_assign {key : String} {w : Value σ} (h : "role" ≠ key) :
    isFuzzer (v.assign key w) = isFuzzer v := by
  rw [isFuzzer, Value.field_assign_of_ne h, isFuzzer]

theorem isFuzzer_withoutUDPPorts : isFuzzer (withoutUDPPorts v) = isFuzzer v := by
  unfold withoutUDPPorts
  split
  · rw [isFuzzer, Value.field_update_of_ne (by decide), Value.field,
      Value.lookup_discard_of_ne (by decide), isFuzzer, Value.field]
  · rfl

theorem readLinks_fuzzer (h : isFuzzer v = true) : readLinks py v = .ok [] := by
  rw [readLinks, bind_of_ok (get_role h)]
  exact if_pos h

theorem readServer_fuzzer (h : isFuzzer v = true) : readServer py v = .ok [] := by
  have other : (v.field "role" .null).isText "server" = false := by
    unfold isFuzzer at h
    unfold Value.isText at h ⊢
    split at h
    · rename_i text
      rw [decide_eq_true_eq.mp h]
      rfl
    · cases h
  rw [readServer, bind_of_ok (get_role h), other]
  rfl

theorem findFuzzer_isFuzzer {es : List (Scalar σ × Value σ)} (h : findFuzzer es = .ok (some v)) :
    isFuzzer v = true := by
  induction es with
  | nil => cases h
  | cons e es ih =>
    obtain ⟨role, hrole, h⟩ := ok_bind.mp h
    obtain ⟨-, rfl⟩ := Value.get_eq_ok.mp hrole
    split at h
    · rename_i fuzzer
      cases h
      exact fuzzer
    · exact ih h

theorem findFuzzer_update {f : Value σ → Value σ} (kept : ∀ v, isFuzzer v = true → isFuzzer (f v))
    {es : List (Scalar σ × Value σ)} (h : findFuzzer es = .ok (some v)) :
    findFuzzer (updateFirst isFuzzer f es) = .ok (some (f v)) := by
  induction es with
  | nil => cases h
  | cons e es ih =>
    obtain ⟨role, hrole, h⟩ := ok_bind.mp h
    obtain ⟨isDict, rfl⟩ := Value.get_eq_ok.mp hrole
    split at h
    · rename_i fuzzer
      cases h
      have first : isFuzzer e.2 = true := fuzzer
      rw [updateFirst, if_pos first, findFuzzer, bind_of_ok (get_role (kept _ first))]
      exact if_pos (kept _ first)
    · rename_i other
      have later : ¬ isFuzzer e.2 = true := other
      rw [updateFirst, if_neg later, findFuzzer, bind_of_ok hrole, if_neg other]
      exact ih h

theorem theFuzzer_eq_ok {es : List (Scalar σ × Value σ)} :
    theFuzzer es = .ok v ↔ findFuzzer es = .ok (some v) := by
  unfold theFuzzer
  cases findFuzzer es with
  | error e => simp [bind, Except.bind]
  | ok found =>
    cases found with
    | none => simp [bind, Except.bind]
    | some fuzzer => simp [bind, Except.bind, pure, Except.pure]

end

/-- What the two injectors read of a document: its fuzzer, the links of the other entities and
    the servers. -/
structure Readable (py : Python σ) (config : Value σ) (fuzzer : Value σ) (links : List (Link σ))
    (servers : List (Scalar σ × Scalar σ)) : Prop where
  exists_entities : ∃ es, entitiesOf config = .ok es ∧ findFuzzer es = .ok (some fuzzer) ∧
    (∃ lss, es.mapM (fun e => readLinks py e.2) = .ok lss ∧ lss.flatten = links) ∧
    ∃ sss, es.mapM (fun e => readServer py e.2) = .ok sss ∧ sss.flatten = servers

section
variable {config fuzzer : Value σ} {links : List (Link σ)} {servers : List (Scalar σ × Scalar σ)}

/-- Nothing that is read is what the injectors write. -/
theorem Readable.assign (h : Readable py config fuzzer links servers) {key : String}
    (v : Value σ) (unread : "role" ≠ key) :
    Readable py (onFuzzer (·.assign key v) config) (fuzzer.assign key v) links servers := by
  obtain ⟨es, found, first, ⟨lss, hlinks, rfl⟩, sss, hservers, rfl⟩ := h
  have kept : ∀ e : Value σ, isFuzzer e = true → isFuzzer (e.assign key v) = true :=
    fun e fuzzer => (isFuzzer_assign unread).trans fuzzer
  have sameLinks : ∀ e : Value σ, isFuzzer e = true →
      readLinks py (e.assign key v) = readLinks py e :=
    fun e fuzzer => (readLinks_fuzzer (kept e fuzzer)).trans (readLinks_fuzzer fuzzer).symm
  have sameServer : ∀ e : Value σ, isFuzzer e = true →
      readServer py (e.assign key v) = readServer py e :=
    fun e fuzzer => (readServer_fuzzer (kept e fuzzer)).trans (readServer_fuzzer fuzzer).symm
  refine ⟨_, entitiesOf_onEntities found, findFuzzer_update kept first, ⟨lss, ?_, rfl⟩, sss, ?_,
    rfl⟩
  · rw [mapM_updateFirst sameLinks, hlinks]
  · rw [mapM_updateFirst sameServer, hservers]

theorem injectFuzzerRedirections_eq (h : Readable py config fuzzer links servers)
    (draws : List Draw) : injectFuzzerRedirections py config draws = (do
      let s ← links.foldlM (connect py) ⟨⟨[], draws⟩, [], []⟩
      return (onFuzzer (·.assign "connections" (.list s.added)) config, s.ports.draws)) := by
  obtain ⟨es, found, first, ⟨lss, hlinks, rfl⟩, -⟩ := h
  rw [injectFuzzerRedirections, bind_of_ok found, bind_of_ok (theFuzzer_eq_ok.mpr first),
    foldlM_of_read visitEntity_of_read hlinks, foldlM_flatten]

theorem injectTCPRedirections_eq (h : Readable py config fuzzer links servers)
    {used : List (Scalar σ)} (hused : usedPorts py fuzzer = .ok used) (draws : List Draw) :
    injectTCPRedirections py config draws = (do
      let s ← servers.foldlM (redirect py) ⟨⟨used, draws⟩, [], []⟩
      return (onFuzzer (·.assign "tcp_redirections" (.list s.added)) config, s.ports.draws)) := by
  obtain ⟨es, found, first, -, sss, hservers, rfl⟩ := h
  rw [injectTCPRedirections, bind_of_ok found, bind_of_ok (theFuzzer_eq_ok.mpr first),
    bind_of_ok hused, foldlM_of_read visitServer_of_read hservers, foldlM_flatten]

end

end

end Cezfuzzer.CommanderPasses
