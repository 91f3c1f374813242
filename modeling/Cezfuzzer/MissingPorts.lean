import Mathlib.Data.List.Pairwise
import Cezfuzzer.CommanderReruns

set_option autoImplicit false

/-!
# Missing ports

What `normalize_udp_ports` makes of the UDP entities and the destinations that have no port,
over every document that it can read.
-/
namespace Cezfuzzer.CommanderPasses
open OrderedDict PythonValues FallibleLoops
open Value (get_eq_ok)

variable {σ : Type} [DecidableEq σ] {py : Python σ}

/-- The key is absent, or its value is null. -/
def portMissing (v : Value σ) : Bool := (v.field "port" .null).isNone

/-- The key is there without a value. -/
def portNull (v : Value σ) : Bool := (v.lookup "port").any Value.isNone

/-- -1 exactly if the port was missing -/
def normalisedPort (entity : Value σ) : Value σ :=
  if portMissing entity then .int (-1) else entity.field "port" .null

def hashOfIP (py : Python σ) (v : Value σ) : Except Failure (Scalar σ) :=
  (v.field "ip" .null).hash py

def sameIP (py : Python σ) (v w : Value σ) : Bool :=
  match hashOfIP py v, hashOfIP py w with
  | .ok a, .ok b => py.same a b
  | _, _ => false

/-- The UDP entity whose ip a destination may have. -/
def IsPeer (py : Python σ) (dest entity : Value σ) : Prop :=
  isUDP entity = true ∧ sameIP py dest entity = true

instance (dest entity : Value σ) : Decidable (IsPeer py dest entity) :=
  inferInstanceAs (Decidable (_ ∧ _))

def DistinctIPs (py : Python σ) (es : List (Scalar σ × Value σ)) : Prop :=
  es.Pairwise (fun x y => isUDP x.2 = true → isUDP y.2 = true → sameIP py x.2 y.2 = false)

instance (es : List (Scalar σ × Value σ)) : Decidable (DistinctIPs py es) :=
  inferInstanceAs (Decidable (List.Pairwise _ _))

def entitiesIn (config : Value σ) : List (Scalar σ × Value σ) :=
  match config.field "entities" (.dict []) with
  | .dict es => es
  | _ => []

def destinationsIn (entity : Value σ) : List (Value σ) :=
  match entity.lookup "destinations" with
  | some (.list l) => l
  | _ => []

/-! ## What the pass is for -/

structure DestinationFilled (py : Python σ) (es : List (Scalar σ × Value σ))
    (dest dest' : Value σ) : Prop where
  filled : portMissing dest = true → ∀ x ∈ es, IsPeer py dest x.2 →
    dest'.lookup "port" = some (normalisedPort x.2)
  kept : portMissing dest = false ∨ (∀ x ∈ es, ¬IsPeer py dest x.2) → dest' = dest
  rest : dest'.discard "port" = dest.discard "port"

structure EntityFilled (py : Python σ) (es : List (Scalar σ × Value σ))
    (entity entity' : Value σ) : Prop where
  other : isUDP entity = false → entity' = entity
  port : isUDP entity = true → entity'.lookup "port" = some (normalisedPort entity)
  rest : isUDP entity = true → ∃ dests,
    entity'.discard "port" = (entity.discard "port").update "destinations" (filled dests) ∧
      List.Forall₂ (DestinationFilled py es) (destinationsIn entity) dests

/-- Every missing port is filled, and every other value is as it was. -/
def PortsFilled (py : Python σ) (config config' : Value σ) : Prop :=
  ∃ es, config' = onEntities (fun _ => es) config ∧
    List.Forall₂ (fun e e' => e'.1 = e.1 ∧ EntityFilled py (entitiesIn config) e.2 e'.2)
      (entitiesIn config) es

/-! ## What the pass can read -/

def readableDestination (py : Python σ) (dest : Value σ) : Bool :=
  dest.isDict && ((dest.lookup "port").isSome || (hashOfIP py dest).isOk)

def readableDestinations (py : Python σ) (entity : Value σ) : Bool :=
  match (entity.field "destinations" (.list [])).iterate py with
  | .ok items => items.all (readableDestination py)
  | .error _ => false

def readableEntity (py : Python σ) (entity : Value σ) : Bool :=
  entity.isDict &&
    (!isUDP entity || (hashOfIP py entity).isOk && readableDestinations py entity)

/-- The entities are a dictionary of dictionaries, the destinations of a UDP entity are
    dictionaries, and every ip that the pass looks up has a hash. -/
def readable (py : Python σ) (config : Value σ) : Bool :=
  config.isDict && (config.field "entities" (.dict [])).isDict &&
    (entitiesIn config).all (fun e => readableEntity py e.2)

/-- No destination of a UDP entity has the port key without a value and the ip of a UDP
    entity. -/
def NoNullPort (py : Python σ) (es : List (Scalar σ × Value σ)) : Prop :=
  ∀ e ∈ es, isUDP e.2 = true → ∀ dest ∈ destinationsIn e.2, portNull dest = true →
    ∀ x ∈ es, ¬IsPeer py dest x.2

instance (es : List (Scalar σ × Value σ)) : Decidable (NoNullPort py es) :=
  inferInstanceAs (Decidable (∀ e ∈ es, _ → ∀ dest ∈ destinationsIn e.2, _ → ∀ x ∈ es, _))

/-! ## The first loop -/

/-- What the first loop makes of an entity. -/
def declared (entity : Value σ) : Value σ :=
  if isUDP entity && portMissing entity then entity.assign "port" (.int (-1)) else entity

def portEntry (py : Python σ) (entity : Value σ) : PortMap σ :=
  if isUDP entity then
    match hashOfIP py entity with
    | .ok key => [(key, normalisedPort entity)]
    | .error _ => []
  else []

def declarable (py : Python σ) (entity : Value σ) : Bool :=
  entity.isDict && (!isUDP entity || (hashOfIP py entity).isOk)

section
variable {m m' : PortMap σ} {e e' : Value σ} {es es' : List (Scalar σ × Value σ)}

theorem isOk_iff {ε α : Type} {x : Except ε α} : x.isOk = true ↔ ∃ a, x = .ok a := by
  cases x <;> simp [Except.isOk, Except.toBool]

theorem declarePort_iff : declarePort py m e = .ok (e', m') ↔
    declarable py e = true ∧ e' = declared e ∧ m' = portEntry py e ++ m := by
  refine declarePort_eq_ok.trans ?_
  change e.isDict = true ∧ (isUDP e = false ∧ e' = e ∧ m' = m ∨ isUDP e = true ∧
    ∃ key, hashOfIP py e = .ok key ∧ (portMissing e = true ∧ _ ∨ portMissing e = false ∧ _)) ↔ _
  cases udp : isUDP e with
  | false => simp [declarable, declared, portEntry, udp]
  | true =>
    cases hash : hashOfIP py e with
    | error failure => simp [declarable, udp, hash, Except.isOk, Except.toBool]
    | ok key =>
      cases missing : portMissing e with
      | false =>
        simp [declarable, declared, portEntry, normalisedPort, udp, hash, missing, Except.isOk,
          Except.toBool]
      | true =>
        simp [declarable, declared, portEntry, normalisedPort, udp, hash, missing, Except.isOk,
          Except.toBool]

theorem declarePorts_iff : (∃ m', declarePorts py m es = .ok (es', m')) ↔
    (∀ e ∈ es, declarable py e.2 = true) ∧ es' = mapValues declared es := by
  induction es generalizing m es' with
  | nil => simp [declarePorts, mapValues]
  | cons e es ih =>
    obtain ⟨name, e⟩ := e
    simp only [declarePorts_cons, declarePort_iff]
    constructor
    · rintro ⟨m', _, _, es₁, ⟨first, rfl, rfl⟩, rest, rfl⟩
      obtain ⟨all, rfl⟩ := ih.mp ⟨m', rest⟩
      exact ⟨List.forall_mem_cons.mpr ⟨first, all⟩, rfl⟩
    · rintro ⟨all, rfl⟩
      obtain ⟨first, all⟩ := List.forall_mem_cons.mp all
      obtain ⟨m', rest⟩ := ih.mpr ⟨all, rfl⟩
      exact ⟨m', _, _, _, ⟨first, rfl, rfl⟩, rest, rfl⟩

theorem mem_declarePorts (h : declarePorts py m es = .ok (es', m'))
    {entry : Scalar σ × Value σ} :
    entry ∈ m' ↔ entry ∈ m ∨ ∃ e ∈ es, entry ∈ portEntry py e.2 := by
  induction es generalizing m es' with
  | nil =>
    cases h
    simp
  | cons e es ih =>
    obtain ⟨name, e⟩ := e
    obtain ⟨_, _, es₁, first, rest, rfl⟩ := declarePorts_cons.mp h
    obtain ⟨-, rfl, rfl⟩ := declarePort_iff.mp first
    rw [ih rest, List.mem_append]
    simp only [List.mem_cons, exists_eq_or_imp]
    tauto

theorem mem_portEntry {entry : Scalar σ × Value σ} : entry ∈ portEntry py e ↔
    isUDP e = true ∧ hashOfIP py e = .ok entry.1 ∧ entry.2 = normalisedPort e := by
  obtain ⟨key, port⟩ := entry
  unfold portEntry
  cases udp : isUDP e with
  | false => simp
  | true =>
    cases hash : hashOfIP py e with
    | error failure => simp
    | ok key' =>
      simp only [if_true, List.mem_singleton, Prod.mk.injEq, Except.ok.injEq, true_and]
      exact and_congr_left fun _ => eq_comm

end

section
variable {e : Value σ} {key : String} {d : Value σ}

theorem portMissing_iff :
    portMissing e = true ↔ (e.lookup "port").isSome = false ∨ portNull e = true := by
  rw [portMissing, portNull, Value.field]
  cases e.lookup "port" with
  | none => simp [Value.null, Value.isNone]
  | some v => simp

theorem normalisedPort_isNone : (normalisedPort e).isNone = false := by
  unfold normalisedPort
  cases missing : portMissing e with
  | false => exact missing
  | true => rfl

theorem isDict_declared : (declared e).isDict = e.isDict := by
  unfold declared
  split
  · exact Value.isDict_assign
  · rfl

theorem lookup_declared_of_ne (h : key ≠ "port") : (declared e).lookup key = e.lookup key := by
  unfold declared
  split
  · exact Value.lookup_assign_of_ne h
  · rfl

theorem field_declared_of_ne (h : key ≠ "port") : (declared e).field key d = e.field key d := by
  rw [Value.field, lookup_declared_of_ne h, Value.field]

theorem isUDP_declared : isUDP (declared e) = isUDP e := by
  rw [isUDP, field_declared_of_ne (by decide), isUDP]

theorem discard_declared : (declared e).discard "port" = e.discard "port" := by
  unfold declared
  split
  · exact Value.discard_assign
  · rfl

theorem lookup_declared (isDict : e.isDict = true) (udp : isUDP e = true) :
    (declared e).lookup "port" = some (normalisedPort e) := by
  unfold declared normalisedPort
  rw [udp, Bool.true_and]
  cases missing : portMissing e with
  | true => exact Value.lookup_assign isDict
  | false =>
    simp only [Bool.false_eq_true, if_false]
    rw [portMissing, Value.field] at missing
    rw [Value.field]
    cases found : e.lookup "port" with
    | none =>
      rw [found] at missing
      cases missing
    | some v => rfl

end

/-! ## The second loop -/

def Recorded (py : Python σ) (es : List (Scalar σ × Value σ)) (m : PortMap σ) : Prop :=
  ∀ entry, entry ∈ m ↔ ∃ e ∈ es, entry ∈ portEntry py e.2

/-- A destination has the ip of one UDP entity at most. -/
def OnePeer (py : Python σ) (es : List (Scalar σ × Value σ)) : Prop :=
  ∀ dest : Value σ, ∀ x ∈ es, ∀ y ∈ es, IsPeer py dest x.2 → IsPeer py dest y.2 → x = y

section
variable {m : PortMap σ} {es : List (Scalar σ × Value σ)} {dest dest' : Value σ}
variable {key : Scalar σ}

theorem isPeer_iff {entity : Value σ} (hash : hashOfIP py dest = .ok key) :
    IsPeer py dest entity ↔
      ∃ entry ∈ portEntry py entity, py.same key entry.1 = true := by
  simp only [IsPeer, sameIP, hash, mem_portEntry, Prod.exists]
  cases hash' : hashOfIP py entity with
  | error failure => simp
  | ok key' => simp

theorem find_some {port : Value σ} (recorded : Recorded py es m)
    (hash : hashOfIP py dest = .ok key) (found : m.find py key = some port) :
    ∃ x ∈ es, IsPeer py dest x.2 ∧ port = normalisedPort x.2 := by
  obtain ⟨entry, first, rfl⟩ := Option.map_eq_some_iff.mp found
  obtain ⟨x, hx, member⟩ := (recorded entry).mp (List.mem_of_find?_eq_some first)
  have same := List.find?_some first
  exact ⟨x, hx, (isPeer_iff hash).mpr ⟨entry, member, same⟩, (mem_portEntry.mp member).2.2⟩

theorem find_none (recorded : Recorded py es m) (hash : hashOfIP py dest = .ok key)
    (missing : m.find py key = none) : ∀ x ∈ es, ¬IsPeer py dest x.2 := by
  intro x hx peer
  obtain ⟨entry, member, same⟩ := (isPeer_iff hash).mp peer
  have none := List.find?_eq_none.mp (Option.map_eq_none_iff.mp missing) entry
    ((recorded entry).mpr ⟨x, hx, member⟩)
  exact none same

/-- The loop passes over a port key without a value. -/
theorem destinationFilled_iff (recorded : Recorded py es m) (one : OnePeer py es)
    (h : fillPort py m dest = .ok dest') : DestinationFilled py es dest dest' ↔
      (portNull dest = true → ∀ x ∈ es, ¬IsPeer py dest x.2) := by
  obtain ⟨isDict, ⟨present, rfl⟩ | ⟨absent, key, hash, rfl⟩⟩ := fillPort_eq_ok.mp h
  · constructor
    · intro filled null x hx peer
      have port := filled.filled (portMissing_iff.mpr (Or.inr null)) x hx peer
      rw [portNull, port, Option.any_some, normalisedPort_isNone] at null
      cases null
    · intro passed
      refine ⟨fun missing x hx peer => ?_, fun _ => rfl, rfl⟩
      rcases portMissing_iff.mp missing with absent | null
      · rw [present] at absent
        cases absent
      · exact absurd peer (passed null x hx)
  · have missing : portMissing dest = true := portMissing_iff.mpr (Or.inl absent)
    have passed : portNull dest = true → ∀ x ∈ es, ¬IsPeer py dest x.2 := by
      intro null
      rw [Option.isSome_eq_false_iff, Option.isNone_iff_eq_none] at absent
      rw [portNull, absent] at null
      cases null
    refine iff_of_true ?_ passed
    cases found : m.find py key with
    | none =>
      have none := find_none recorded hash found
      exact ⟨fun _ x hx peer => absurd peer (none x hx), fun _ => rfl, rfl⟩
    | some port =>
      obtain ⟨x, hx, peer, rfl⟩ := find_some recorded hash found
      refine ⟨fun _ y hy peer' => ?_, fun kept => ?_, Value.discard_assign⟩
      · rw [one dest y hy x hx peer' peer, Value.lookup_assign isDict]
      · rcases kept with given | none
        · rw [missing] at given
          cases given
        · exact absurd peer (none x hx)

end

section
variable {m : PortMap σ} {es : List (Scalar σ × Value σ)} {e e' : Value σ}

theorem destinations_filled (udp : isUDP e = true) (h : fillDestinations py m e = .ok e') :
    ∃ dests, List.Forall₂ (fun dest dest' => fillPort py m dest = .ok dest')
        (destinationsIn e) dests ∧ e' = e.update "destinations" (filled dests) := by
  obtain ⟨-, ⟨other, -⟩ | ⟨-, items, dests, hitems, hdests, rfl⟩⟩ := fillDestinations_eq_ok.mp h
  · rw [udp] at other
    cases other
  · rw [Value.field] at hitems
    unfold destinationsIn
    cases found : e.lookup "destinations" with
    | none =>
      refine ⟨[], .nil, Value.update_congr fun v hv => ?_⟩
      rw [found] at hv
      cases hv
    | some v =>
      rw [found, Option.getD_some] at hitems
      cases v with
      | list l =>
        cases hitems
        exact ⟨dests, mapM_eq_ok.mp hdests, rfl⟩
      | scalar | dict =>
        refine ⟨[], .nil, Value.update_congr fun v hv => ?_⟩
        rw [found, Option.some.injEq] at hv
        subst hv
        rfl

theorem destinationsIn_cases (e : Value σ) :
    (∃ l, e.lookup "destinations" = some (.list l)) ∨ destinationsIn e = [] := by
  unfold destinationsIn
  split
  · exact Or.inl ⟨_, by assumption⟩
  · exact Or.inr rfl

theorem filled_injective {dests dests' : List (Value σ)} {R S : Value σ → Value σ → Prop}
    (h : List.Forall₂ R (destinationsIn e) dests) (h' : List.Forall₂ S (destinationsIn e) dests')
    (same : (e.discard "port").update "destinations" (filled dests) =
      (e.discard "port").update "destinations" (filled dests')) : dests = dests' := by
  have looked := congrArg (Value.lookup "destinations") same
  simp only [Value.lookup_update, Value.lookup_discard_of_ne
    (show "destinations" ≠ "port" by decide)] at looked
  rcases destinationsIn_cases e with ⟨l, found⟩ | none
  · simpa only [found, Option.map_some, filled, Option.some.injEq, Value.list.injEq] using looked
  · rw [none] at h h'
    cases h
    cases h'
    rfl

theorem entityFilled_iff (recorded : Recorded py es m) (one : OnePeer py es)
    (h : fillDestinations py m (declared e) = .ok e') : EntityFilled py es e e' ↔
      (isUDP e = true → ∀ dest ∈ destinationsIn e, portNull dest = true →
        ∀ x ∈ es, ¬IsPeer py dest x.2) := by
  have isDict : e.isDict = true := isDict_declared.symm.trans (fillDestinations_eq_ok.mp h).1
  cases udp : isUDP e with
  | false =>
    have same : declared e = e := by simp [declared, udp]
    rw [same] at h
    obtain ⟨-, ⟨-, rfl⟩ | ⟨udp', -⟩⟩ := fillDestinations_eq_ok.mp h
    · exact iff_of_true ⟨fun _ => rfl, by simp [udp], by simp [udp]⟩ (by simp)
    · rw [udp] at udp'
      cases udp'
  | true =>
    obtain ⟨dests, each, rfl⟩ := destinations_filled (isUDP_declared.trans udp) h
    have items : destinationsIn (declared e) = destinationsIn e := by
      rw [destinationsIn, lookup_declared_of_ne (by decide), destinationsIn]
    rw [items] at each
    have rest : ((declared e).update "destinations" (filled dests)).discard "port" =
        (e.discard "port").update "destinations" (filled dests) := by
      rw [Value.discard_update_of_ne (by decide), discard_declared]
    have reduces : ∀ dest dest', fillPort py m dest = .ok dest' →
        (DestinationFilled py es dest dest' ↔
          (portNull dest = true → ∀ x ∈ es, ¬IsPeer py dest x.2)) :=
      fun _ _ => destinationFilled_iff recorded one
    rw [forall_prop_of_true rfl, ← forall₂_left reduces each]
    constructor
    · intro filled
      obtain ⟨dests', same, each'⟩ := filled.rest udp
      rwa [filled_injective each each' (rest.symm.trans same)]
    · intro each'
      refine ⟨by simp [udp], fun _ => ?_, fun _ => ⟨dests, rest, each'⟩⟩
      rw [Value.lookup_update_of_ne (by decide), lookup_declared isDict udp]

theorem fillPort_succeeds {dest : Value σ} : (∃ dest', fillPort py m dest = .ok dest') ↔
    readableDestination py dest = true := by
  simp only [fillPort_eq_ok, readableDestination, Bool.and_eq_true, Bool.or_eq_true, isOk_iff,
    exists_and_left, and_congr_right_iff]
  intro _
  cases (dest.lookup "port").isSome with
  | true => simp
  | false =>
    simp only [Bool.false_eq_true, false_and, true_and, false_or]
    exact ⟨fun ⟨_, key, hash, _⟩ => ⟨key, hash⟩, fun ⟨key, hash⟩ => ⟨_, key, hash, rfl⟩⟩

theorem fillDestinations_succeeds :
    (∃ e', fillDestinations py m (declared e) = .ok e') ↔ e.isDict = true ∧
      (isUDP e = true → readableDestinations py e = true) := by
  simp only [fillDestinations_eq_ok, isDict_declared, isUDP_declared, exists_and_left,
    and_congr_right_iff, field_declared_of_ne (show "destinations" ≠ "port" by decide)]
  intro _
  cases isUDP e with
  | false => simp
  | true =>
    rw [readableDestinations]
    cases (e.field "destinations" (.list [])).iterate py with
    | error failure => simp
    | ok items =>
      simp only [Bool.true_eq_false, false_and, true_and, false_or, forall_const,
        List.all_eq_true, ← fillPort_succeeds (m := m), ← mapM_succeeds]
      simp

end

/-! ## The pass -/

theorem entitiesIn_eq {config : Value σ} {es : List (Scalar σ × Value σ)}
    (h : config.field "entities" (.dict []) = .dict es) : entitiesIn config = es := by
  rw [entitiesIn, h]

section
variable {config config' : Value σ}

theorem normalizeUDPPorts_iff : normalizeUDPPorts py config = .ok config' ↔
    config.isDict = true ∧ (config.field "entities" (.dict [])).isDict = true ∧ ∃ m es,
      declarePorts py [] (entitiesIn config) = .ok (mapValues declared (entitiesIn config), m) ∧
      (mapValues declared (entitiesIn config)).mapM (fillEntry py m) = .ok es ∧
      config' = onEntities (fun _ => es) config := by
  simp only [normalizeUDPPorts, ok_bind, get_eq_ok, Value.entries_eq_ok, Prod.exists, ok_pure]
  constructor
  · rintro ⟨_, ⟨isDict, rfl⟩, es, found, es₁, m, hm, es₂, fill, rfl⟩
    obtain ⟨-, rfl⟩ := declarePorts_iff.mp ⟨m, hm⟩
    refine ⟨isDict, by rw [found, Value.isDict], m, es₂, ?_, ?_, rfl⟩
    · rw [entitiesIn_eq found, hm]
    · rw [entitiesIn_eq found, fill]
  · rintro ⟨isDict, isDict', m, es, hm, fill, rfl⟩
    refine ⟨_, ⟨isDict, rfl⟩, entitiesIn config, ?_, _, m, hm, es, fill, rfl⟩
    unfold entitiesIn
    cases found : config.field "entities" (.dict []) with
    | dict es => rfl
    | _ =>
      rw [found] at isDict'
      cases isDict'

theorem readableEntity_iff {e : Value σ} : readableEntity py e = true ↔
    declarable py e = true ∧ e.isDict = true ∧
      (isUDP e = true → readableDestinations py e = true) := by
  unfold readableEntity declarable
  cases isUDP e <;> simp [and_assoc, and_comm]

theorem fillEntry_succeeds {m : PortMap σ} {e : Scalar σ × Value σ} :
    (∃ e', fillEntry py m (e.1, declared e.2) = .ok e') ↔ e.2.isDict = true ∧
      (isUDP e.2 = true → readableDestinations py e.2 = true) := by
  rw [← fillDestinations_succeeds (m := m)]
  simp only [fillEntry_eq_ok, Prod.exists]
  exact ⟨fun ⟨_, v, _, h⟩ => ⟨v, h⟩, fun ⟨v, h⟩ => ⟨e.1, v, rfl, h⟩⟩

theorem normalizeUDPPorts_succeeds :
    (∃ config', normalizeUDPPorts py config = .ok config') ↔ readable py config = true := by
  simp only [normalizeUDPPorts_iff, readable, Bool.and_eq_true, List.all_eq_true, exists_and_left,
    and_assoc, and_congr_right_iff, readableEntity_iff]
  intro _ _
  constructor
  · rintro ⟨_, m, hm, es, fill, -⟩ e he
    obtain ⟨all, -⟩ := declarePorts_iff.mp ⟨m, hm⟩
    have entries := mapM_succeeds.mp ⟨es, fill⟩ _ (List.mem_map.mpr ⟨e, he, rfl⟩)
    exact ⟨all e he, fillEntry_succeeds.mp entries⟩
  · intro all
    obtain ⟨m, hm⟩ := declarePorts_iff.mpr ⟨fun e he => (all e he).1, rfl⟩
    obtain ⟨es, fill⟩ : ∃ es, (mapValues declared (entitiesIn config)).mapM (fillEntry py m) =
        .ok es := by
      refine mapM_succeeds.mpr fun _ member => ?_
      obtain ⟨e, he, rfl⟩ := List.mem_map.mp member
      exact fillEntry_succeeds.mpr (all e he).2
    exact ⟨_, m, hm, es, fill, rfl⟩

theorem onEntities_injective {es es' : List (Scalar σ × Value σ)}
    {R S : Scalar σ × Value σ → Scalar σ × Value σ → Prop}
    (h : List.Forall₂ R (entitiesIn config) es) (h' : List.Forall₂ S (entitiesIn config) es')
    (same : onEntities (fun _ => es) config = onEntities (fun _ => es') config) : es = es' := by
  have looked := congrArg (Value.lookup "entities") same
  simp only [onEntities, Value.lookup_update] at looked
  unfold entitiesIn Value.field at h h'
  cases found : config.lookup "entities" with
  | none =>
    simp only [found, Option.getD_none] at h h'
    cases h
    cases h'
    rfl
  | some v =>
    simp only [found, Option.getD_some, Option.map_some, Option.some.injEq] at h h' looked
    cases v with
    | dict => simpa [Value.onEntries] using looked
    | scalar | list =>
      cases h
      cases h'
      rfl

/-- The normalised document is what it should be exactly when the loop has not passed over a
    port key without a value. -/
theorem portsFilled_iff (one : OnePeer py (entitiesIn config))
    (h : normalizeUDPPorts py config = .ok config') :
    PortsFilled py config config' ↔ NoNullPort py (entitiesIn config) := by
  obtain ⟨-, -, m, es, hm, fill, rfl⟩ := normalizeUDPPorts_iff.mp h
  have recorded : Recorded py (entitiesIn config) m := fun entry => by
    rw [mem_declarePorts hm]
    simp
  have each : List.Forall₂ (fun e e' => e'.1 = e.1 ∧
      fillDestinations py m (declared e.2) = .ok e'.2) (entitiesIn config) es :=
    (List.forall₂_map_left_iff.mp (mapM_eq_ok.mp fill)).imp fun _ _ => fillEntry_eq_ok.mp
  have reduces : ∀ e e' : Scalar σ × Value σ,
      e'.1 = e.1 ∧ fillDestinations py m (declared e.2) = .ok e'.2 →
      (e'.1 = e.1 ∧ EntityFilled py (entitiesIn config) e.2 e'.2 ↔
        (isUDP e.2 = true → ∀ dest ∈ destinationsIn e.2, portNull dest = true →
          ∀ x ∈ entitiesIn config, ¬IsPeer py dest x.2)) := by
    rintro e e' ⟨name, fills⟩
    rw [and_iff_right name, entityFilled_iff recorded one fills]
  have all := forall₂_left reduces each
  constructor
  · rintro ⟨es', same, each'⟩
    obtain rfl := onEntities_injective each each' same
    exact all.mp each'
  · intro passed
    exact ⟨es, rfl, all.mpr passed⟩

end

/-- How `==` compares the keys of a dictionary. -/
structure ComparesKeys (py : Python σ) : Prop where
  symm : ∀ a b, py.same a b = true → py.same b a = true
  trans : ∀ a b c, py.same a b = true → py.same b c = true → py.same a c = true

section
variable {es : List (Scalar σ × Value σ)} {v w z : Value σ}

theorem sameIP_iff : sameIP py v w = true ↔
    ∃ a b, hashOfIP py v = .ok a ∧ hashOfIP py w = .ok b ∧ py.same a b = true := by
  unfold sameIP
  cases hashOfIP py v with
  | error failure => simp
  | ok a =>
    cases hashOfIP py w with
    | error failure => simp
    | ok b => simp

theorem sameIP_symm (keys : ComparesKeys py) (h : sameIP py v w = true) :
    sameIP py w v = true := by
  obtain ⟨a, b, ha, hb, same⟩ := sameIP_iff.mp h
  exact sameIP_iff.mpr ⟨b, a, hb, ha, keys.symm a b same⟩

theorem sameIP_trans (keys : ComparesKeys py) (h : sameIP py v w = true)
    (h' : sameIP py w z = true) : sameIP py v z = true := by
  obtain ⟨a, b, ha, hb, same⟩ := sameIP_iff.mp h
  obtain ⟨b', c, hb', hc, same'⟩ := sameIP_iff.mp h'
  obtain rfl := Except.ok.inj (hb.symm.trans hb')
  exact sameIP_iff.mpr ⟨a, c, ha, hc, keys.trans a b c same same'⟩

/-- An ip between two UDP entities would be the ip of both. -/
theorem DistinctIPs.onePeer (keys : ComparesKeys py) (distinct : DistinctIPs py es) :
    OnePeer py es := by
  have apart : Std.Symm (fun x y : Scalar σ × Value σ =>
      isUDP x.2 = true → isUDP y.2 = true → sameIP py x.2 y.2 = false) := by
    refine ⟨fun x y h udp udp' => ?_⟩
    have differs := h udp' udp
    rw [← Bool.not_eq_true] at differs ⊢
    exact fun same => differs (sameIP_symm keys same)
  rintro dest x hx y hy ⟨udp, peer⟩ ⟨udp', peer'⟩
  by_contra differ
  have differs := List.Pairwise.forall distinct hx hy differ udp udp'
  rw [sameIP_trans keys (sameIP_symm keys peer) peer'] at differs
  cases differs

end

/-- The pass returns a document with every missing port filled exactly when it can read the
    document and finds no port key without a value where it looks for missing ones. -/
theorem fillsPorts_iff (py : Python σ) (keys : ComparesKeys py) (config : Value σ)
    (distinct : DistinctIPs py (entitiesIn config)) :
    (∃ config', normalizeUDPPorts py config = .ok config' ∧ PortsFilled py config config') ↔
      readable py config = true ∧ NoNullPort py (entitiesIn config) := by
  have one := distinct.onePeer keys
  rw [← normalizeUDPPorts_succeeds]
  constructor
  · rintro ⟨config', h, filled⟩
    exact ⟨⟨config', h⟩, (portsFilled_iff one h).mp filled⟩
  · rintro ⟨⟨config', h⟩, passed⟩
    exact ⟨config', h, (portsFilled_iff one h).mpr passed⟩

def canonical : Scalar Empty → Scalar Empty
  | .bool b => .int (if b then 1 else 0)
  | s => s

theorem plainPython_same (a b : Scalar Empty) :
    plainPython.same a b = true ↔ canonical a = canonical b := by
  cases a <;> cases b <;> simp [Python.same, canonical, Scalar.number] <;> contradiction

theorem plainPython_keys : ComparesKeys plainPython := by
  refine ⟨fun a b h => ?_, fun a b c h h' => ?_⟩
  · rw [plainPython_same] at h ⊢
    exact h.symm
  · rw [plainPython_same] at h h' ⊢
    exact h.trans h'

/-- Two UDP entities that are each other's destination, the first without a port. -/
def dialogue (port : List (String × Value Empty)) : Value Empty :=
  plainEntity [("entities", plainEntity [
    ("udp_sender", plainEntity [("role", .str "sender"), ("protocol", .str "udp"),
      ("ip", .str "10.0.0.1"), ("port", .null),
      ("destinations", .list [plainEntity (("ip", .str "10.0.0.2") :: port)])]),
    ("udp_receiver", plainEntity [("role", .str "receiver"), ("protocol", .str "udp"),
      ("ip", .str "10.0.0.2"), ("port", .int 5000),
      ("destinations", .list [plainEntity [("ip", .str "10.0.0.1")]])])])]

theorem dialogue_filled : ∃ config', normalizeUDPPorts plainPython (dialogue []) = .ok config' ∧
    PortsFilled plainPython (dialogue []) config' :=
  (fillsPorts_iff plainPython plainPython_keys (dialogue []) (by decide)).mpr
    ⟨by decide, by decide⟩

/-- The empty port key of a destination, as in the template, stays empty. -/
theorem dialogue_null : DistinctIPs plainPython (entitiesIn (dialogue [("port", .null)])) ∧
    readable plainPython (dialogue [("port", .null)]) = true ∧
    ¬∃ config', normalizeUDPPorts plainPython (dialogue [("port", .null)]) = .ok config' ∧
      PortsFilled plainPython (dialogue [("port", .null)]) config' := by
  have distinct : DistinctIPs plainPython (entitiesIn (dialogue [("port", .null)])) := by decide
  refine ⟨distinct, by decide, ?_⟩
  rintro ⟨config', h, filled⟩
  have passed := (portsFilled_iff (distinct.onePeer plainPython_keys) h).mp filled
  exact absurd passed (by decide)

end Cezfuzzer.CommanderPasses
