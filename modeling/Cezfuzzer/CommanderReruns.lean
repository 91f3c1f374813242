import Cezfuzzer.RepeatedInjection

set_option autoImplicit false

/-!
# Running the commander again

The three passes on a file that they have written leave everything in it as it is but the
numbers of the proxy ports.
-/
namespace Cezfuzzer.CommanderPasses
open OrderedDict PythonValues FallibleLoops
open RedirectionInjector (Draw)

variable {σ : Type} [DecidableEq σ] {py : Python σ}

def connectionPortKeys : List String :=
  ["entityA_proxy_port_recv", "entityA_proxy_port_send", "entityB_proxy_port_recv",
    "entityB_proxy_port_send"]

/-- The values at some keys are put out of sight. -/
def blank (keys : List String) (v : Value σ) : Value σ :=
  keys.foldr (fun key v => v.update key (fun _ => .null)) v

def blankFuzzer (fuzzer : Value σ) : Value σ :=
  (fuzzer.update "connections" (Value.onItems (blank connectionPortKeys))).update
    "tcp_redirections" (Value.onItems (blank ["proxy_port"]))

/-- A configuration without the values of its proxy ports. -/
def withoutProxyPorts (config : Value σ) : Value σ := onFuzzer blankFuzzer config

/-- A configuration without the ports of its UDP entities and of their destinations and without
    the fuzzer's connections and redirections. -/
def core (config : Value σ) : Value σ :=
  onFuzzer (fun fuzzer => (fuzzer.discard "connections").discard "tcp_redirections")
    (onEntities (mapValues withoutUDPPorts) config)

theorem blank_withPorts (link : Link σ) (p : Fin 4 → ℤ) :
    blank connectionPortKeys (withPorts link p) = connection link .null .null .null .null := by
  simp [blank, connectionPortKeys, withPorts, connection, Value.update, OrderedDict.update]

theorem blank_withPort (server : Scalar σ × Scalar σ) (p : Fin 1 → ℤ) :
    blank ["proxy_port"] (withPort server p) = redirection server .null := by
  simp [blank, withPort, redirection, Value.update, OrderedDict.update]

theorem connectionPorts_withPorts (link : Link σ) (p : Fin 4 → ℤ) :
    connectionPorts py (withPorts link p) = .ok (intPorts p) := by
  simp [connectionPorts, withPorts, connection, Value.item, lookup_cons, intPorts,
    List.ofFn_succ, Value.int, Value.hash, bind, Except.bind, pure, Except.pure]

section
variable {config : Value σ} {f g : Value σ → Value σ}

theorem onFuzzer_onFuzzer (kept : ∀ v : Value σ, isFuzzer v = true → isFuzzer (g v) = true) :
    onFuzzer f (onFuzzer g config) = onFuzzer (f ∘ g) config := by
  rw [onFuzzer, onFuzzer, onEntities, onEntities, Value.update_update, onFuzzer, onEntities]
  refine Value.update_congr fun d _ => ?_
  cases d with
  | dict es => exact congrArg Value.dict (updateFirst_updateFirst kept es)
  | _ => rfl

theorem onFuzzer_congr (same : ∀ v : Value σ, isFuzzer v = true → f v = g v) :
    onFuzzer f config = onFuzzer g config := by
  refine Value.update_congr fun d _ => ?_
  cases d with
  | dict es => exact congrArg Value.dict (updateFirst_congr same es)
  | _ => rfl

/-- A fuzzer with the lists that the injectors give it. -/
def withInjected (connections redirections : List (Value σ)) (fuzzer : Value σ) : Value σ :=
  (fuzzer.assign "connections" (.list connections)).assign "tcp_redirections"
    (.list redirections)

variable {connections redirections : List (Value σ)}

theorem isFuzzer_withInjected {v : Value σ} :
    isFuzzer (withInjected connections redirections v) = isFuzzer v :=
  (isFuzzer_assign (by decide)).trans (isFuzzer_assign (by decide))

theorem onFuzzer_withInjected :
    onFuzzer (·.assign "tcp_redirections" (.list redirections))
      (onFuzzer (·.assign "connections" (.list connections)) config) =
        onFuzzer (withInjected connections redirections) config :=
  onFuzzer_onFuzzer fun _ fuzzer => (isFuzzer_assign (by decide)).trans fuzzer

theorem withoutUDPPorts_assign {key : String} {v w : Value σ} (protocol : "protocol" ≠ key)
    (port : "port" ≠ key) (destinations : "destinations" ≠ key) :
    withoutUDPPorts (v.assign key w) = (withoutUDPPorts v).assign key w := by
  cases udp : isUDP v with
  | false => simp [withoutUDPPorts, isUDP_assign protocol, udp]
  | true =>
    simp [withoutUDPPorts, isUDP_assign protocol, udp, Value.discard_assign_of_ne port,
      Value.update_assign_of_ne destinations]

theorem core_withInjected :
    core (onFuzzer (withInjected connections redirections) config) = core config := by
  have dropped : ∀ v : Value σ, isFuzzer v = true →
      ((withoutUDPPorts (withInjected connections redirections v)).discard
        "connections").discard "tcp_redirections" =
        ((withoutUDPPorts v).discard "connections").discard "tcp_redirections" := by
    intro v _
    rw [withInjected, withoutUDPPorts_assign (by decide) (by decide) (by decide),
      withoutUDPPorts_assign (by decide) (by decide) (by decide),
      Value.discard_assign_of_ne (by decide), Value.discard_assign, Value.discard_assign]
  have kept : ∀ v : Value σ, isFuzzer v = true →
      isFuzzer (withInjected connections redirections v) = true :=
    fun v fuzzer => isFuzzer_withInjected.trans fuzzer
  simp only [core, onFuzzer, onEntities, Value.update_update]
  refine Value.update_congr fun d _ => ?_
  cases d with
  | dict es =>
    exact congrArg Value.dict
      (updateFirst_mapValues (fun v => isFuzzer_withoutUDPPorts) kept dropped es)
  | _ => rfl

section
variable {connections' redirections' : List (Value σ)}
  (sameConnections : connections'.map (blank connectionPortKeys) =
    connections.map (blank connectionPortKeys))
  (sameRedirections : redirections'.map (blank ["proxy_port"]) =
    redirections.map (blank ["proxy_port"]))
include sameConnections sameRedirections

/-- Other lists in the place of two that differ from them in the ports only. -/
theorem blankFuzzer_withInjected {v : Value σ} (isDict : v.isDict = true) :
    blankFuzzer (withInjected connections' redirections'
      (withInjected connections redirections v)) =
        blankFuzzer (withInjected connections redirections v) := by
  have same : Value.onItems (blank connectionPortKeys) (.list connections') =
      Value.onItems (blank connectionPortKeys) (.list connections) :=
    congrArg Value.list sameConnections
  have same' : Value.onItems (blank ["proxy_port"]) (.list redirections') =
      Value.onItems (blank ["proxy_port"]) (.list redirections) :=
    congrArg Value.list sameRedirections
  generalize written : withInjected connections redirections v = w
  have hconnections : w.lookup "connections" = some (.list connections) := by
    rw [← written, withInjected, Value.lookup_assign_of_ne (by decide),
      Value.lookup_assign isDict]
  have hredirections : w.lookup "tcp_redirections" = some (.list redirections) := by
    rw [← written]
    exact Value.lookup_assign (by rwa [Value.isDict_assign])
  rw [blankFuzzer, withInjected, Value.update_assign_of_ne (by decide),
    Value.update_assign hconnections same]
  refine Value.update_assign ?_ same'
  rw [Value.lookup_update_of_ne (by decide), hredirections]

theorem withoutProxyPorts_withInjected :
    withoutProxyPorts (onFuzzer (withInjected connections' redirections')
      (onFuzzer (withInjected connections redirections) config)) =
        withoutProxyPorts (onFuzzer (withInjected connections redirections) config) := by
  have kept : ∀ {cs rs : List (Value σ)} (v : Value σ), isFuzzer v = true →
      isFuzzer (withInjected cs rs v) = true := fun v fuzzer => isFuzzer_withInjected.trans fuzzer
  unfold withoutProxyPorts
  rw [onFuzzer_onFuzzer kept, onFuzzer_onFuzzer kept, onFuzzer_onFuzzer kept]
  exact onFuzzer_congr fun v fuzzer =>
    blankFuzzer_withInjected sameConnections sameRedirections (isDict_of_isFuzzer fuzzer)

end

end

section
variable {config fuzzer : Value σ} {links : List (Link σ)} {servers : List (Scalar σ × Scalar σ)}

/-- The connections and redirections that the injectors put into a document. -/
def Injected (py : Python σ) (config : Value σ) (links : List (Link σ))
    (servers : List (Scalar σ × Scalar σ)) (result : Value σ × List Draw) : Prop :=
  ∃ connections redirections,
    result.1 = onFuzzer (withInjected connections redirections) config ∧
    connections.map (blank connectionPortKeys) = (firstUnmet (pairSeen py) Link.key [] links).map
      (fun link => connection link .null .null .null .null) ∧
    redirections.map (blank ["proxy_port"]) = (firstUnmet (serverSeen py) id [] servers).map
      (fun server => redirection server .null)

theorem Readable.injected (h : Readable py config fuzzer links servers)
    (connections redirections : List (Value σ)) :
    Readable py (onFuzzer (withInjected connections redirections) config)
      (withInjected connections redirections fuzzer) links servers := by
  rw [← onFuzzer_withInjected]
  exact (h.assign _ (by decide)).assign _ (by decide)

theorem usedPorts_withPorts {s : List (Value σ)} {new : List (Link σ × (Fin 4 → ℤ))}
    (isDict : fuzzer.isDict = true) (added : s = new.map (fun x => withPorts x.1 x.2)) :
    usedPorts py (fuzzer.assign "connections" (.list s)) =
      .ok (new.flatMap (fun x => intPorts x.2)) := by
  subst added
  have read : (new.map (fun x => withPorts x.1 x.2)).mapM (connectionPorts py) =
      .ok (new.map (fun x => intPorts x.2)) := by
    rw [mapM_eq_ok, List.forall₂_map_left_iff, List.forall₂_map_right_iff, List.forall₂_same]
    exact fun x _ => connectionPorts_withPorts x.1 x.2
  rw [usedPorts, Value.lookup_assign isDict]
  exact bind_of_ok read _

theorem injectors_supplied (h : Readable py config fuzzer links servers) (draws : List Draw) :
    Supplied py ⟨[], draws⟩ (4 * (firstUnmet (pairSeen py) Link.key [] links).length +
        (1 * (firstUnmet (serverSeen py) id [] servers).length + 0))
      (Injected py config links servers)
      (injectFuzzerRedirections py config draws >>= fun r => injectTCPRedirections py r.1 r.2) := by
  rw [injectFuzzerRedirections_eq h, bind_assoc]
  refine (loop_draws newConnection_makes links ⟨⟨[], draws⟩, [], []⟩).supplied ?_
  rintro s ⟨new, firstLinks, added, -, used⟩
  rw [List.nil_append] at added used
  have isDict : fuzzer.isDict = true := by
    obtain ⟨es, -, first, -⟩ := h
    exact isDict_of_isFuzzer (findFuzzer_isFuzzer first)
  have read : usedPorts py (fuzzer.assign "connections" (.list s.added)) =
      .ok s.ports.used := by
    rw [used]
    exact usedPorts_withPorts isDict added
  change Supplied py s.ports _ _ (injectTCPRedirections py _ _)
  rw [injectTCPRedirections_eq (h.assign _ (by decide)) read]
  refine (loop_draws newRedirection_makes servers ⟨s.ports, [], []⟩).supplied ?_
  rintro t ⟨new', firstServers, added', -, -⟩
  rw [List.nil_append] at added'
  refine ⟨Nat.zero_le _, s.added, t.added, onFuzzer_withInjected, ?_, ?_⟩
  · rw [added, ← firstLinks, List.map_map, List.map_map]
    exact List.map_congr_left fun x _ => blank_withPorts x.1 x.2
  · rw [added', ← firstServers, List.map_map, List.map_map]
    exact List.map_congr_left fun x _ => blank_withPort x.1 x.2

theorem Normalized.injected {es : List (Scalar σ × Value σ)} (h : Normalized py es)
    (connections redirections : List (Value σ)) :
    Normalized py (updateFirst isFuzzer (withInjected connections redirections) es) := by
  have both := (h.assign isFuzzer "connections" (.list connections) (by decide)).assign
    isFuzzer "tcp_redirections" (.list redirections) (by decide)
  rwa [updateFirst_updateFirst] at both
  exact fun v fuzzer => (isFuzzer_assign (by decide)).trans fuzzer

/-- Injectors that succeed have read all that there is to be read. -/
theorem readable_of_injectors {draws : List Draw} {result : Value σ × List Draw}
    (h : injectFuzzerRedirections py config draws >>= (fun r => injectTCPRedirections py r.1 r.2) =
      .ok result) : ∃ fuzzer links servers, Readable py config fuzzer links servers := by
  obtain ⟨r, first, second⟩ := ok_bind.mp h
  obtain ⟨es, found, first⟩ := ok_bind.mp first
  obtain ⟨fuzzer, hfuzzer, first⟩ := ok_bind.mp first
  obtain ⟨s, visited, first⟩ := ok_bind.mp first
  cases first
  obtain ⟨lss, hlinks⟩ := read_of_foldlM visitEntity_reads visited
  obtain ⟨es', found', second⟩ := ok_bind.mp second
  obtain ⟨fuzzer', -, second⟩ := ok_bind.mp second
  obtain ⟨used, -, second⟩ := ok_bind.mp second
  obtain ⟨t, visited', -⟩ := ok_bind.mp second
  obtain ⟨sss, hservers⟩ := read_of_foldlM visitServer_reads visited'
  obtain rfl := Except.ok.inj ((entitiesOf_onEntities found).symm.trans found')
  have sameServer : ∀ e : Value σ, isFuzzer e = true →
      readServer py (e.assign "connections" (.list s.added)) = readServer py e := by
    intro e fuzzer
    have kept : isFuzzer (e.assign "connections" (.list s.added)) = true :=
      (isFuzzer_assign (by decide)).trans fuzzer
    rw [readServer_fuzzer kept, readServer_fuzzer fuzzer]
  rw [mapM_updateFirst sameServer] at hservers
  exact ⟨fuzzer, _, _, es, found, theFuzzer_eq_ok.mp hfuzzer, ⟨lss, hlinks, rfl⟩, sss, hservers,
    rfl⟩

end

/-- How many different numbers there are among the random numbers. -/
def offered (draws : List Draw) : ℕ := (draws.map Draw.port).toFinset.card

omit [DecidableEq σ] in
theorem fresh_start (draws : List Draw) : fresh py ⟨[], draws⟩ = offered draws := by
  simp [fresh, offered, Python.mem]

/-- The passes change nothing but what they are there for. Once they have succeeded they do so
    again, if only the random numbers hold out, and change nothing but the proxy ports. -/
theorem runPasses_again (py : Python σ) (config config' : Value σ) (draws rest : List Draw)
    (h : runPasses py config draws = .ok (config', rest)) :
    core config' = core config ∧ ∀ draws' : List Draw,
      (∃ config'' rest', runPasses py config' draws' = .ok (config'', rest') ∧
        withoutProxyPorts config'' = withoutProxyPorts config') ∨
      runPasses py config' draws' = .error .outOfDraws ∧ offered draws' < offered draws := by
  obtain ⟨config₁, normalize, h⟩ := ok_bind.mp h
  change injectFuzzerRedirections py config₁ draws >>=
    (fun r => injectTCPRedirections py r.1 r.2) = _ at h
  obtain ⟨fuzzer, links, servers, readable⟩ := readable_of_injectors h
  have first := injectors_supplied readable draws
  rw [h] at first
  obtain ⟨enough, connections, redirections, hconfig, hconnections, hredirections⟩ := first
  obtain ⟨es, found, hfuzzer, -⟩ := readable.exists_entities
  obtain ⟨normalized, ports⟩ := normalizeUDPPorts_ok normalize found
  simp only at hconfig
  refine ⟨?_, fun draws' => ?_⟩
  · rw [hconfig, core_withInjected, core, ports, core]
  · have normalized' : normalizeUDPPorts py config' = .ok config' := by
      rw [hconfig]
      refine normalizeUDPPorts_fixed (entitiesOf_onEntities found) ?_
      exact normalized.injected connections redirections
    have again : runPasses py config' draws' = (injectFuzzerRedirections py config' draws' >>=
        fun r => injectTCPRedirections py r.1 r.2) := bind_of_ok normalized' _
    have readable' := readable.injected connections redirections
    rw [← hconfig] at readable'
    have second := injectors_supplied readable' draws'
    rw [← again] at second
    rw [fresh_start] at enough
    cases result : runPasses py config' draws' with
    | error e =>
      rw [result] at second
      obtain ⟨rfl, short⟩ := second
      rw [fresh_start] at short
      exact Or.inr ⟨rfl, by omega⟩
    | ok r =>
      rw [result] at second
      obtain ⟨-, connections', redirections', hconfig', hconnections', hredirections'⟩ := second
      refine Or.inl ⟨r.1, r.2, rfl, ?_⟩
      rw [hconfig', hconfig]
      exact withoutProxyPorts_withInjected (hconnections'.trans hconnections.symm)
        (hredirections'.trans hredirections.symm)

/-- A file without other scalars than strings and integers. -/
def plainPython : Python Empty where
  eq := fun x => x.elim
  lt := fun _ _ => none
  hashable := fun x => x.elim
  truthy := fun x => x.elim
  iterate := fun x => x.elim
  lower := fun x => x.elim

def plainEntity (fields : List (String × Value Empty)) : Value Empty :=
  .dict (fields.map (fun field => (.str field.1, field.2)))

/-- A fuzzer, a UDP client of a UDP server without any port, and a TCP server. -/
def plainConfig : Value Empty :=
  plainEntity [("entities", plainEntity [
    ("fuzzer", plainEntity [("role", .str "fuzzer"), ("ip", .str "10.0.0.9")]),
    ("client", plainEntity [("role", .str "client"), ("protocol", .str "udp"),
      ("ip", .str "10.0.0.1"),
      ("destinations", .list [plainEntity [("ip", .str "10.0.0.2")]])]),
    ("server", plainEntity [("role", .str "server"), ("protocol", .str "udp"),
      ("ip", .str "10.0.0.2")]),
    ("web", plainEntity [("role", .str "server"), ("protocol", .str "TCP"),
      ("ip", .str "10.0.0.3"), ("port", .int 80)])])]

/-- The same file after a run on `RedirectionInjector.someDraws`. -/
def writtenConfig : Value Empty :=
  plainEntity [("entities", plainEntity [
    ("fuzzer", plainEntity [("role", .str "fuzzer"), ("ip", .str "10.0.0.9"),
      ("connections", .list [plainEntity [
        ("entityA_ip", .str "10.0.0.1"), ("entityA_port", .int (-1)),
        ("entityA_proxy_port_recv", .int 20000), ("entityA_proxy_port_send", .int 20001),
        ("entityB_ip", .str "10.0.0.2"), ("entityB_port", .int (-1)),
        ("entityB_proxy_port_recv", .int 20002), ("entityB_proxy_port_send", .int 20003)]]),
      ("tcp_redirections", .list [plainEntity [("server_ip", .str "10.0.0.3"),
        ("server_port", .int 80), ("proxy_port", .int 20004)]])]),
    ("client", plainEntity [("role", .str "client"), ("protocol", .str "udp"),
      ("ip", .str "10.0.0.1"),
      ("destinations", .list [plainEntity [("ip", .str "10.0.0.2"), ("port", .int (-1))]]),
      ("port", .int (-1))]),
    ("server", plainEntity [("role", .str "server"), ("protocol", .str "udp"),
      ("ip", .str "10.0.0.2"), ("port", .int (-1))]),
    ("web", plainEntity [("role", .str "server"), ("protocol", .str "TCP"),
      ("ip", .str "10.0.0.3"), ("port", .int 80)])])]

theorem plainConfig_again : runPasses plainPython plainConfig RedirectionInjector.someDraws =
      .ok (writtenConfig, RedirectionInjector.someDraws.drop 6) ∧
    core writtenConfig = core plainConfig ∧ ∀ draws' : List Draw,
      (∃ config'' rest', runPasses plainPython writtenConfig draws' = .ok (config'', rest') ∧
        withoutProxyPorts config'' = withoutProxyPorts writtenConfig) ∨
      runPasses plainPython writtenConfig draws' = .error .outOfDraws ∧
        offered draws' < offered RedirectionInjector.someDraws := by
  have run : runPasses plainPython plainConfig RedirectionInjector.someDraws =
      .ok (writtenConfig, RedirectionInjector.someDraws.drop 6) := rfl
  exact ⟨run, runPasses_again plainPython plainConfig writtenConfig _ _ run⟩

end Cezfuzzer.CommanderPasses
