import Cezfuzzer.CommanderPasses

set_option autoImplicit false

/-!
# Normalising the ports twice

What `normalize_udp_ports` writes is something that it leaves alone, and so is what becomes of
that when the fuzzer gets its connections and redirections.
-/
namespace Cezfuzzer.CommanderPasses
open OrderedDict PythonValues FallibleLoops
open Value (get_eq_ok)

variable {σ : Type} [DecidableEq σ] {py : Python σ}

def isUDP (entity : Value σ) : Bool := (entity.field "protocol" .null).isText "udp"

section
variable {m m' : PortMap σ} {e e' : Value σ}

theorem declarePort_eq_ok : declarePort py m e = .ok (e', m') ↔ e.isDict = true ∧
    (isUDP e = false ∧ e' = e ∧ m' = m ∨ isUDP e = true ∧
      ∃ key, (e.field "ip" .null).hash py = .ok key ∧
        ((e.field "port" .null).isNone = true ∧ e' = e.assign "port" (.int (-1)) ∧
            m' = (key, .int (-1)) :: m ∨
          (e.field "port" .null).isNone = false ∧ e' = e ∧
            m' = (key, e.field "port" .null) :: m)) := by
  simp only [declarePort, ok_bind, get_eq_ok, isUDP, and_assoc, exists_and_left, exists_eq_left']
  refine and_congr_right fun isDict => ?_
  cases udp : (e.field "protocol" .null).isText "udp" with
  | false => simp [ok_pair]
  | true =>
    simp only [Bool.not_true, Bool.false_eq_true, if_false, ok_bind, get_eq_ok, isDict, true_and,
      exists_eq_left', Bool.true_eq_false, false_and, false_or]
    refine exists_congr fun key => and_congr_right fun _ => ?_
    cases missing : (e.field "port" .null).isNone with
    | false => simp [ok_pair]
    | true => simp [ok_pair]

theorem isUDP_assign {key : String} {v : Value σ} (h : "protocol" ≠ key) :
    isUDP (e.assign key v) = isUDP e := by
  rw [isUDP, Value.field_assign_of_ne h, isUDP]

theorem isUDP_update {key : String} {f : Value σ → Value σ} (h : "protocol" ≠ key) :
    isUDP (e.update key f) = isUDP e := by
  rw [isUDP, Value.field_update_of_ne h, isUDP]

theorem declarePort_fixed (h : declarePort py m e = .ok (e', m')) :
    declarePort py m e' = .ok (e', m') := by
  rw [declarePort_eq_ok] at h ⊢
  obtain ⟨isDict, ⟨other, rfl, rfl⟩ | ⟨udp, key, hkey, h⟩⟩ := h
  · exact ⟨isDict, Or.inl ⟨other, rfl, rfl⟩⟩
  · rcases h with ⟨-, rfl, rfl⟩ | ⟨present, rfl, rfl⟩
    · have port : (e.assign "port" (.int (-1))).field "port" .null = .int (-1) :=
        Value.field_assign isDict
      refine ⟨by rwa [Value.isDict_assign], Or.inr ⟨?_, key, ?_, Or.inr ⟨?_, rfl, ?_⟩⟩⟩
      · rw [isUDP_assign (by decide), udp]
      · rw [Value.field_assign_of_ne (by decide), hkey]
      · rw [port]
        rfl
      · rw [port]
    · exact ⟨isDict, Or.inr ⟨udp, key, hkey, Or.inr ⟨present, rfl, rfl⟩⟩⟩

/-- An entity is declared by three of its fields. -/
theorem declarePort_congr (h : declarePort py m e = .ok (e, m'))
    (isDict : e'.isDict = e.isDict)
    (protocol : e'.field "protocol" .null = e.field "protocol" .null)
    (ip : e'.field "ip" .null = e.field "ip" .null)
    (port : e'.field "port" .null = e.field "port" .null) :
    declarePort py m e' = .ok (e', m') := by
  rw [declarePort_eq_ok] at h ⊢
  rw [isDict, isUDP, protocol, ip, port]
  obtain ⟨isDict, ⟨other, -, rfl⟩ | ⟨udp, key, hkey, h⟩⟩ := h
  · exact ⟨isDict, Or.inl ⟨other, rfl, rfl⟩⟩
  · rcases h with ⟨missing, assigned, -⟩ | ⟨present, -, rfl⟩
    · have port : e.field "port" .null = .int (-1) := by
        rw [assigned]
        exact Value.field_assign isDict
      rw [port] at missing
      cases missing
    · exact ⟨isDict, Or.inr ⟨udp, key, hkey, Or.inr ⟨present, rfl, rfl⟩⟩⟩

end

/-- If `e` is declared as it is, so is `e'`. -/
def StaysDeclared (py : Python σ) (e e' : Value σ) : Prop :=
  ∀ m m', declarePort py m e = .ok (e, m') → declarePort py m e' = .ok (e', m')

section
variable {m m' : PortMap σ} {es es' : List (Scalar σ × Value σ)}

theorem declarePorts_cons {name : Scalar σ} {e : Value σ} {r : List (Scalar σ × Value σ)} :
    declarePorts py m ((name, e) :: es) = .ok (r, m') ↔ ∃ e' m₁ es',
      declarePort py m e = .ok (e', m₁) ∧ declarePorts py m₁ es = .ok (es', m') ∧
        r = (name, e') :: es' := by
  simp only [declarePorts, ok_bind, Prod.exists, ok_pair]
  constructor
  · rintro ⟨e', m₁, h, es', _, h', rfl, rfl⟩
    exact ⟨e', m₁, es', h, h', rfl⟩
  · rintro ⟨e', m₁, es', h, h', rfl⟩
    exact ⟨e', m₁, h, es', m', h', rfl, rfl⟩

theorem declarePorts_fixed (h : declarePorts py m es = .ok (es', m')) :
    declarePorts py m es' = .ok (es', m') := by
  induction es generalizing m es' with
  | nil =>
    cases h
    rfl
  | cons e es ih =>
    obtain ⟨e', m₁, es₁, he, hes, rfl⟩ := declarePorts_cons.mp h
    exact declarePorts_cons.mpr ⟨e', m₁, es₁, declarePort_fixed he, ih hes, rfl⟩

theorem declarePorts_congr (h : declarePorts py m es = .ok (es, m'))
    (same : List.Forall₂ (fun e e' => e'.1 = e.1 ∧ StaysDeclared py e.2 e'.2) es es') :
    declarePorts py m es' = .ok (es', m') := by
  induction same generalizing m with
  | nil =>
    cases h
    rfl
  | @cons e e' _ _ first _ ih =>
    obtain ⟨name, e⟩ := e
    obtain ⟨name', e'⟩ := e'
    obtain ⟨rfl, same⟩ := first
    obtain ⟨_, m₁, _, he, hes, eq⟩ := declarePorts_cons.mp h
    cases eq
    exact declarePorts_cons.mpr ⟨e', m₁, _, same m m₁ he, ih hes, rfl⟩

end

section
variable {m : PortMap σ} {e e' dest dest' : Value σ}

theorem fillPort_eq_ok : fillPort py m dest = .ok dest' ↔ dest.isDict = true ∧
    ((dest.lookup "port").isSome = true ∧ dest' = dest ∨
      (dest.lookup "port").isSome = false ∧
        ∃ key, (dest.field "ip" .null).hash py = .ok key ∧
          dest' = match m.find py key with
            | some port => dest.assign "port" port
            | none => dest) := by
  simp only [fillPort, ok_bind, get_eq_ok, and_assoc, exists_and_left, exists_eq_left']
  refine and_congr_right fun isDict => ?_
  cases present : (dest.lookup "port").isSome with
  | true => simp [ok_pure]
  | false =>
    simp only [Bool.false_eq_true, if_false, ok_bind, false_and, true_and, false_or]
    refine exists_congr fun key => and_congr_right fun _ => ?_
    cases m.find py key with
    | some port => rw [ok_pure]
    | none => rw [ok_pure]

theorem fillPort_fixed (h : fillPort py m dest = .ok dest') : fillPort py m dest' = .ok dest' := by
  rw [fillPort_eq_ok] at h ⊢
  obtain ⟨isDict, ⟨present, rfl⟩ | ⟨missing, key, hkey, rfl⟩⟩ := h
  · exact ⟨isDict, Or.inl ⟨present, rfl⟩⟩
  · cases found : m.find py key with
    | some port =>
      refine ⟨by rwa [Value.isDict_assign], Or.inl ⟨?_, rfl⟩⟩
      rw [Value.lookup_assign isDict, Option.isSome_some]
    | none => exact ⟨isDict, Or.inr ⟨missing, key, hkey, by rw [found]⟩⟩

theorem fillPort_discard (h : fillPort py m dest = .ok dest') :
    dest'.discard "port" = dest.discard "port" := by
  obtain ⟨-, ⟨-, rfl⟩ | ⟨-, key, -, rfl⟩⟩ := fillPort_eq_ok.mp h
  · rfl
  · cases m.find py key with
    | some port => exact Value.discard_assign
    | none => rfl

theorem fillDestinations_eq_ok : fillDestinations py m e = .ok e' ↔ e.isDict = true ∧
    (isUDP e = false ∧ e' = e ∨ isUDP e = true ∧
      ∃ items dests, (e.field "destinations" (.list [])).iterate py = .ok items ∧
        items.mapM (fillPort py m) = .ok dests ∧
        e' = e.update "destinations" (filled dests)) := by
  simp only [fillDestinations, ok_bind, get_eq_ok, isUDP, and_assoc, exists_and_left,
    exists_eq_left']
  refine and_congr_right fun isDict => ?_
  cases udp : (e.field "protocol" .null).isText "udp" with
  | false => simp [ok_pure]
  | true =>
    simp only [Bool.not_true, Bool.false_eq_true, if_false, ok_bind, get_eq_ok, isDict, true_and,
      exists_eq_left', Bool.true_eq_false, false_and, false_or]
    refine exists_congr fun items => ?_
    simp only [← exists_and_left]
    refine exists_congr fun dests => ?_
    rw [ok_pure]

theorem fillDestinations_fixed (h : fillDestinations py m e = .ok e') :
    fillDestinations py m e' = .ok e' := by
  rw [fillDestinations_eq_ok] at h ⊢
  obtain ⟨isDict, ⟨other, rfl⟩ | ⟨udp, items, dests, hitems, hdests, rfl⟩⟩ := h
  · exact ⟨isDict, Or.inl ⟨other, rfl⟩⟩
  · refine ⟨by rwa [Value.isDict_update], Or.inr ⟨?_, ?_⟩⟩
    · rw [isUDP_update (by decide), udp]
    · have twice : (e.update "destinations" (filled dests)).update "destinations" (filled dests) =
          e.update "destinations" (filled dests) := by
        rw [Value.update_update]
        refine Value.update_congr fun d _ => ?_
        cases d <;> rfl
      rw [Value.field, Value.lookup_update]
      rw [Value.field] at hitems
      cases found : e.lookup "destinations" with
      | none =>
        rw [found] at hitems
        exact ⟨items, dests, hitems, hdests, twice.symm⟩
      | some d =>
        rw [found, Option.getD_some] at hitems
        rw [Option.map_some, Option.getD_some]
        cases d with
        | list =>
          have again := mapM_fixed (fun _ _ => fillPort_fixed) hdests
          exact ⟨dests, dests, rfl, again, twice.symm⟩
        | scalar => exact ⟨items, dests, hitems, hdests, twice.symm⟩
        | dict => exact ⟨items, dests, hitems, hdests, twice.symm⟩

theorem fillDestinations_assign {key : String} {v : Value σ}
    (h : fillDestinations py m e = .ok e) (protocol : "protocol" ≠ key)
    (destinations : "destinations" ≠ key) :
    fillDestinations py m (e.assign key v) = .ok (e.assign key v) := by
  rw [fillDestinations_eq_ok] at h ⊢
  rw [Value.isDict_assign, isUDP_assign protocol, Value.field_assign_of_ne destinations]
  obtain ⟨isDict, ⟨other, -⟩ | ⟨udp, items, dests, hitems, hdests, same⟩⟩ := h
  · exact ⟨isDict, Or.inl ⟨other, rfl⟩⟩
  · refine ⟨isDict, Or.inr ⟨udp, items, dests, hitems, hdests, ?_⟩⟩
    rw [Value.update_assign_of_ne destinations, ← same]

/-- The fields that an entity is declared by stay as they are. -/
theorem declarePort_filled {m₁ m₂ : PortMap σ} (h : fillDestinations py m e = .ok e')
    (declared : declarePort py m₁ e = .ok (e, m₂)) : declarePort py m₁ e' = .ok (e', m₂) := by
  obtain ⟨isDict, ⟨-, rfl⟩ | ⟨-, items, dests, -, -, rfl⟩⟩ := fillDestinations_eq_ok.mp h
  · exact declared
  · refine declarePort_congr declared Value.isDict_update ?_ ?_ ?_
    · exact Value.field_update_of_ne (by decide)
    · exact Value.field_update_of_ne (by decide)
    · exact Value.field_update_of_ne (by decide)

end

theorem fillEntry_eq_ok {m : PortMap σ} {e e' : Scalar σ × Value σ} :
    fillEntry py m e = .ok e' ↔ e'.1 = e.1 ∧ fillDestinations py m e.2 = .ok e'.2 := by
  obtain ⟨name, v⟩ := e
  obtain ⟨name', v'⟩ := e'
  simp only [fillEntry, ok_bind, ok_pair]
  constructor
  · rintro ⟨_, h, rfl, rfl⟩
    exact ⟨rfl, h⟩
  · rintro ⟨rfl, h⟩
    exact ⟨v', h, rfl, rfl⟩

/-- Entities that both loops leave alone. -/
def Normalized (py : Python σ) (es : List (Scalar σ × Value σ)) : Prop :=
  ∃ m, declarePorts py [] es = .ok (es, m) ∧ es.mapM (fillEntry py m) = .ok es

section
variable {es es₁ es₂ : List (Scalar σ × Value σ)} {m : PortMap σ}

theorem normalized_of_loops (declared : declarePorts py [] es = .ok (es₁, m))
    (filled : es₁.mapM (fillEntry py m) = .ok es₂) : Normalized py es₂ := by
  refine ⟨m, declarePorts_congr (declarePorts_fixed declared) ?_, mapM_fixed ?_ filled⟩
  · refine (mapM_eq_ok.mp filled).imp fun e e' h => ?_
    obtain ⟨name, h⟩ := fillEntry_eq_ok.mp h
    exact ⟨name, fun m₁ m₂ => declarePort_filled h⟩
  · intro e e' h
    obtain ⟨-, h⟩ := fillEntry_eq_ok.mp h
    exact fillEntry_eq_ok.mpr ⟨rfl, fillDestinations_fixed h⟩

/-- `normalize_udp_ports` looks at four fields of an entity. -/
theorem Normalized.assign (h : Normalized py es) (p : Value σ → Bool) (key : String) (v : Value σ)
    (unread : ∀ field ∈ ["protocol", "ip", "port", "destinations"], field ≠ key) :
    Normalized py (updateFirst p (·.assign key v) es) := by
  obtain ⟨m, declared, stays⟩ := h
  refine ⟨m, declarePorts_congr declared ?_, ?_⟩
  · refine updateFirst_related (R := StaysDeclared py) (fun _ _ _ h => h) ?_ es
    intro e _ m₁ m₂ h
    refine declarePort_congr h Value.isDict_assign ?_ ?_ ?_
    · exact Value.field_assign_of_ne (unread _ (by simp))
    · exact Value.field_assign_of_ne (unread _ (by simp))
    · exact Value.field_assign_of_ne (unread _ (by simp))
  · rw [mapM_eq_self] at stays ⊢
    intro e member
    rcases mem_updateFirst member with kept | ⟨e₀, before, -, rfl⟩
    · exact stays e kept
    · obtain ⟨-, h⟩ := fillEntry_eq_ok.mp (stays e₀ before)
      exact fillEntry_eq_ok.mpr ⟨rfl, fillDestinations_assign h (unread _ (by simp))
        (unread _ (by simp))⟩

end

/-- An entity without the ports that `normalize_udp_ports` may have given it. -/
def withoutUDPPorts (entity : Value σ) : Value σ :=
  if isUDP entity then
    (entity.discard "port").update "destinations" (Value.onItems (Value.discard "port"))
  else entity

section
variable {es es' : List (Scalar σ × Value σ)} {m m' : PortMap σ} {e e' : Value σ}

theorem declarePort_withoutUDPPorts (h : declarePort py m e = .ok (e', m')) :
    withoutUDPPorts e' = withoutUDPPorts e := by
  obtain ⟨-, ⟨-, rfl, -⟩ | ⟨udp, key, -, ⟨-, rfl, -⟩ | ⟨-, rfl, -⟩⟩⟩ := declarePort_eq_ok.mp h
  · rfl
  · have udp' : isUDP (e.assign "port" (.int (-1))) = true :=
      (isUDP_assign (by decide)).trans udp
    simp only [withoutUDPPorts, udp, udp', if_true, Value.discard_assign]
  · rfl

theorem declarePorts_withoutUDPPorts (h : declarePorts py m es = .ok (es', m')) :
    mapValues withoutUDPPorts es' = mapValues withoutUDPPorts es := by
  induction es generalizing m es' with
  | nil =>
    cases h
    rfl
  | cons e es ih =>
    obtain ⟨e', m₁, es₁, he, hes, rfl⟩ := declarePorts_cons.mp h
    simp only [mapValues, List.map_cons, declarePort_withoutUDPPorts he]
    exact congrArg _ (ih hes)

theorem fillDestinations_withoutUDPPorts (h : fillDestinations py m e = .ok e') :
    withoutUDPPorts e' = withoutUDPPorts e := by
  obtain ⟨-, ⟨-, rfl⟩ | ⟨udp, items, dests, hitems, hdests, rfl⟩⟩ :=
    fillDestinations_eq_ok.mp h
  · rfl
  · have udp' : isUDP (e.update "destinations" (filled dests)) = true :=
      (isUDP_update (by decide)).trans udp
    have same : ((e.update "destinations" (filled dests)).discard "port").update "destinations"
        (Value.onItems (Value.discard "port")) =
          (e.discard "port").update "destinations" (Value.onItems (Value.discard "port")) := by
      rw [Value.discard_update_of_ne (by decide), Value.update_update]
      refine Value.update_congr fun d found => ?_
      rw [Value.lookup_discard_of_ne (by decide)] at found
      rw [Value.field, found, Option.getD_some] at hitems
      cases d with
      | list l =>
        cases hitems
        exact congrArg Value.list (map_of_mapM (fun _ _ => fillPort_discard) hdests)
      | scalar => rfl
      | dict => rfl
    simp only [withoutUDPPorts, udp, udp', if_true, same]

end

section
variable {config config' : Value σ} {es : List (Scalar σ × Value σ)}

theorem entitiesOf_eq_ok :
    entitiesOf config = .ok es ↔ config.lookup "entities" = some (.dict es) := by
  simp only [entitiesOf, ok_bind, Value.item_eq_ok, Value.entries_eq_ok, exists_eq_right]

theorem entitiesOf_onEntities {f : List (Scalar σ × Value σ) → List (Scalar σ × Value σ)}
    (h : entitiesOf config = .ok es) :
    entitiesOf (onEntities f config) = .ok (f es) := by
  rw [entitiesOf_eq_ok] at h ⊢
  rw [onEntities, Value.lookup_update, h]
  rfl

/-- The pass finds entities if the next one does, and writes entities that it leaves alone. -/
theorem normalizeUDPPorts_ok {es' : List (Scalar σ × Value σ)}
    (h : normalizeUDPPorts py config = .ok config')
    (found : entitiesOf config' = .ok es') :
    Normalized py es' ∧ onEntities (mapValues withoutUDPPorts) config' =
      onEntities (mapValues withoutUDPPorts) config := by
  simp only [normalizeUDPPorts, ok_bind, get_eq_ok, Value.entries_eq_ok, Prod.exists,
    ok_pure] at h
  obtain ⟨_, ⟨isDict, rfl⟩, es, hes, es₁, m, declared, es₂, fill, rfl⟩ := h
  rw [entitiesOf_eq_ok, onEntities, Value.lookup_update, Option.map_eq_some_iff] at found
  obtain ⟨d, hd, eq⟩ := found
  rw [Value.field, hd, Option.getD_some] at hes
  subst hes
  cases eq
  refine ⟨normalized_of_loops declared fill, ?_⟩
  rw [onEntities, onEntities, Value.update_update, onEntities]
  refine Value.update_congr fun d found => ?_
  rw [hd, Option.some.injEq] at found
  subst found
  refine congrArg Value.dict ?_
  have filled : mapValues withoutUDPPorts es₂ = mapValues withoutUDPPorts es₁ := by
    refine map_of_mapM (fun e e' h => ?_) fill
    obtain ⟨name, h⟩ := fillEntry_eq_ok.mp h
    rw [name, fillDestinations_withoutUDPPorts h]
  exact filled.trans (declarePorts_withoutUDPPorts declared)

theorem normalizeUDPPorts_fixed (found : entitiesOf config = .ok es)
    (normalized : Normalized py es) : normalizeUDPPorts py config = .ok config := by
  rw [entitiesOf_eq_ok] at found
  obtain ⟨m, declared, fill⟩ := normalized
  have isDict : config.isDict = true := by
    cases config with
    | dict => rfl
    | _ => cases found
  have entities : config.get "entities" (.dict []) = .ok (.dict es) := by
    rw [get_eq_ok, Value.field, found]
    exact ⟨isDict, rfl⟩
  simp only [normalizeUDPPorts, ok_bind]
  refine ⟨_, entities, es, rfl, (es, m), declared, es, fill, ?_⟩
  exact congrArg Except.ok (Value.update_eq_self found rfl)

end

end Cezfuzzer.CommanderPasses
