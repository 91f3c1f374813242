import Cezfuzzer.RepeatedInjection

set_option autoImplicit false

/-!
# Documents whose fields have their types

A list of entities stands for the documents that have its fields, whatever their order and
whatever else is there. On such a document the two injectors do what they do on the list.
-/
namespace Cezfuzzer.CommanderPasses
open OrderedDict PythonValues FallibleLoops
open CommanderConfig (Entity Connection TCPRedirection Target Endpoint)
open RedirectionInjector (Draw)

variable {σ : Type} {py : Python σ}

def failure : CommanderConfig.Failure → Failure
  | .keyError key => .keyError key
  | .attributeError name => .attributeError name
  | .exit => .exit
  | .outOfDraws => .outOfDraws

/-- The runs of both models succeed with related results, or fail alike. -/
abbrev Alike {α β : Type} (R : α → β → Prop) :
    Except Failure α → Except CommanderConfig.Failure β → Prop :=
  Agree (fun e e' => e = failure e') R

def scalars (x : Endpoint) : Scalar σ × Scalar σ := (.str x.ip, .int x.port)

def scalarPair (key : Endpoint × Endpoint) : PairKey σ := (scalars key.1, scalars key.2)

theorem tupleSame_scalars (a b : Endpoint) :
    py.tupleSame (scalars a) (scalars b) = decide (a = b) := by
  obtain ⟨ip, port⟩ := a
  obtain ⟨ip', port'⟩ := b
  simp [Python.tupleSame, scalars]

theorem tupleLess_scalars (a b : Endpoint) :
    py.tupleLess (scalars a) (scalars b) = .ok (decide (RedirectionInjector.tupleLt a b)) := by
  obtain ⟨ip, port⟩ := a
  obtain ⟨ip', port'⟩ := b
  simp only [Python.tupleLess, scalars, Python.same_str, Python.same_int, Python.less_str,
    Python.less_int, RedirectionInjector.tupleLt, decide_eq_true_eq]
  by_cases sameIP : ip = ip'
  · subst sameIP
    by_cases samePort : port = port'
    · simp [samePort]
    · simp [samePort]
  · simp [sameIP]

theorem sortedPair_scalars (a b : Endpoint) :
    py.sortedPair (scalars a) (scalars b) =
      .ok (scalarPair (RedirectionInjector.sortedPair a b)) := by
  rw [Python.sortedPair, bind_of_ok (tupleLess_scalars b a), RedirectionInjector.sortedPair]
  by_cases less : RedirectionInjector.tupleLt b a
  · simp [less, scalarPair, pure, Except.pure]
  · simp [less, scalarPair, pure, Except.pure]

theorem pairSeen_scalars (key : Endpoint × Endpoint) (keys : List (Endpoint × Endpoint)) :
    pairSeen py (scalarPair key) (keys.map scalarPair) = decide (key ∈ keys) := by
  induction keys with
  | nil => rfl
  | cons k keys ih =>
    obtain ⟨a, b⟩ := key
    obtain ⟨c, d⟩ := k
    simp only [pairSeen, scalarPair, tupleSame_scalars, List.map_cons, List.any_cons] at ih ⊢
    rw [ih]
    simp

theorem serverSeen_scalars (server : Endpoint) (servers : List Endpoint) :
    serverSeen py (scalars server) (servers.map scalars) = decide (server ∈ servers) := by
  induction servers with
  | nil => rfl
  | cons x servers ih =>
    simp only [serverSeen, tupleSame_scalars, List.map_cons, List.any_cons] at ih ⊢
    rw [ih]
    simp

theorem mem_ints (p : ℤ) (used : List ℤ) : py.mem (.int p) (used.map .int) = decide (p ∈ used) := by
  induction used with
  | nil => rfl
  | cons q used ih =>
    simp only [Python.mem, Python.same_int, List.map_cons, List.any_cons] at ih ⊢
    rw [ih]
    simp

/-- `used_ports` are numbers. -/
def SamePorts (s : Ports σ) (s' : RedirectionInjector.Ports) : Prop :=
  s.used = s'.used.map .int ∧ s.draws = s'.draws

theorem randomPort_alike {s : Ports σ} {s' : RedirectionInjector.Ports} (h : SamePorts s s') :
    Alike (fun r r' => r.1 = r'.1 ∧ SamePorts r.2 r'.2) (randomPort py s)
      (RedirectionInjector.randomPort s') := by
  obtain ⟨used, draws⟩ := s
  obtain ⟨used', draws'⟩ := s'
  change used = used'.map .int ∧ draws = draws' at h
  obtain ⟨rfl, rfl⟩ := h
  unfold randomPort RedirectionInjector.randomPort
  induction draws with
  | nil => rfl
  | cons d draws ih =>
    simp only [drawPort, RedirectionInjector.drawPort, mem_ints, decide_eq_true_eq]
    split
    · exact ih
    · exact ⟨rfl, by simp, rfl⟩

variable [DecidableEq σ]

def connectionFields (c : Connection) : List (String × Value σ) :=
  [("entityA_ip", .str c.entityA_ip), ("entityA_port", .int c.entityA_port),
    ("entityA_proxy_port_recv", .int c.entityA_proxy_port_recv),
    ("entityA_proxy_port_send", .int c.entityA_proxy_port_send),
    ("entityB_ip", .str c.entityB_ip), ("entityB_port", .int c.entityB_port),
    ("entityB_proxy_port_recv", .int c.entityB_proxy_port_recv),
    ("entityB_proxy_port_send", .int c.entityB_proxy_port_send)]

def redirectionFields (r : TCPRedirection) : List (String × Value σ) :=
  [("server_ip", .str r.server_ip), ("server_port", .int r.server_port),
    ("proxy_port", .int r.proxy_port)]

/-- A dictionary with these fields, among others. -/
def Shows (fields : List (String × Value σ)) (v : Value σ) : Prop :=
  v.isDict = true ∧ ∀ field ∈ fields, v.lookup field.1 = some field.2

/-- A dictionary in which a field is present or absent. -/
def ShowsTarget (d : Value σ) (t : Target) : Prop :=
  d.isDict = true ∧ d.lookup "ip" = t.ip.map .str ∧ d.lookup "port" = t.port.map .int

theorem item_alike {α : Type} {x : Value σ} {key : String} {o : Option α} {g : α → Value σ}
    (isDict : x.isDict = true) (h : x.lookup key = o.map g) :
    Alike (fun v a => v = g a) (x.item key) (CommanderConfig.required key o) := by
  cases x with
  | dict es =>
    change es.lookup (.str key) = _ at h
    cases o with
    | none => simp [Value.item, h, CommanderConfig.required, Agree, failure]
    | some a => simp [Value.item, h, CommanderConfig.required, Agree]
  | _ => cases isDict

theorem newConnection_alike {src dst : Endpoint} {key : PairKey σ} {s : Ports σ}
    {s' : RedirectionInjector.Ports} (h : SamePorts s s') :
    Alike (fun r r' => Shows (connectionFields r'.1) r.1 ∧ SamePorts r.2 r'.2)
      (newConnection py ⟨scalars src, scalars dst, key⟩ s)
      (RedirectionInjector.newConnection src dst s') := by
  unfold newConnection RedirectionInjector.newConnection
  refine (randomPort_alike h).bind ?_
  rintro ⟨recvA, s₁⟩ ⟨_, s₁'⟩ ⟨rfl, h₁⟩
  refine (randomPort_alike h₁).bind ?_
  rintro ⟨sendA, s₂⟩ ⟨_, s₂'⟩ ⟨rfl, h₂⟩
  refine (randomPort_alike h₂).bind ?_
  rintro ⟨recvB, s₃⟩ ⟨_, s₃'⟩ ⟨rfl, h₃⟩
  refine (randomPort_alike h₃).bind ?_
  rintro ⟨sendB, s₄⟩ ⟨_, s₄'⟩ ⟨rfl, h₄⟩
  refine ⟨⟨rfl, ?_⟩, h₄⟩
  simp [connectionFields, connection, Value.lookup, lookup_cons, scalars, Value.str, Value.int]

structure SameProgress (s : Progress σ (PairKey σ)) (s' : RedirectionInjector.Progress) : Prop where
  ports : SamePorts s.ports s'.ports
  added : List.Forall₂ (fun v c => Shows (connectionFields c) v) s.added s'.connections
  seen : s.seen = s'.seenPairs.map scalarPair

theorem connect_alike {src dst : Endpoint} {s : Progress σ (PairKey σ)}
    {s' : RedirectionInjector.Progress} (h : SameProgress s s') :
    Alike SameProgress
      (connect py s ⟨scalars src, scalars dst, scalarPair (RedirectionInjector.sortedPair src dst)⟩)
      (if RedirectionInjector.sortedPair src dst ∈ s'.seenPairs then return s'
       else do
        let (connection, ports) ← RedirectionInjector.newConnection src dst s'.ports
        return ⟨ports, s'.connections ++ [connection],
          s'.seenPairs ++ [RedirectionInjector.sortedPair src dst]⟩) := by
  simp only [connect, addUnseen, h.seen, pairSeen_scalars, decide_eq_true_eq]
  split
  · exact h
  · refine (newConnection_alike h.ports).bind ?_
    rintro ⟨value, ports⟩ ⟨connection, ports'⟩ ⟨shows', same⟩
    exact ⟨same, List.rel_append h.added (.cons shows' .nil), by simp⟩

theorem visitDestination_alike (src : Endpoint) {s : Progress σ (PairKey σ)}
    {s' : RedirectionInjector.Progress} {d : Value σ} {t : Target} (h : SameProgress s s')
    (target : ShowsTarget d t) :
    Alike SameProgress (visitDestination py (.str src.ip) (.int src.port) s d)
      (RedirectionInjector.visitDestination src s' t) := by
  obtain ⟨isDict, ip, port⟩ := target
  simp only [visitDestination, readLink, bind_assoc]
  refine (item_alike isDict ip).bind ?_
  rintro _ dst_ip rfl
  refine (item_alike isDict port).bind ?_
  rintro _ dst_port rfl
  change Alike SameProgress (py.sortedPair (scalars src) (scalars ⟨dst_ip, dst_port⟩) >>=
    fun key => connect py s ⟨scalars src, scalars ⟨dst_ip, dst_port⟩, key⟩) _
  rw [bind_of_ok (sortedPair_scalars src _)]
  exact connect_alike h

/-- A `protocol` that is no string has no `lower` either. -/
def ShowsProtocol (py : Python σ) (v : Option (Value σ)) : Option CommanderConfig.Scalar → Prop
  | none => v = none
  | some (.str text) => v = some (.str text)
  | some (.other _) => ∃ x, v = some x ∧ x.lower py = .error (.attributeError "lower")

def ShowsList {α : Type} (shows' : Value σ → α → Prop) (v : Option (Value σ)) :
    Option (List α) → Prop
  | none => v = none
  | some as => ∃ vs, v = some (.list vs) ∧ List.Forall₂ shows' vs as

/-- The fields that the injectors leave alone. -/
structure ShowsFields (py : Python σ) (v : Value σ) (e : Entity) : Prop where
  isDict : v.isDict = true
  role : v.lookup "role" = e.role.map .str
  protocol : ShowsProtocol py (v.lookup "protocol") e.protocol
  ip : v.lookup "ip" = e.ip.map .str
  port : v.lookup "port" = e.port.map .int
  fuzzed : v.lookup "fuzzed" = e.fuzzed.map (fun b => .scalar (.bool b))
  binary_path : v.lookup "binary_path" = e.binary_path.map .str
  exec_with : v.lookup "exec_with" = e.exec_with.map .str
  destinations : ShowsList ShowsTarget (v.lookup "destinations") e.destinations
  connect_to : ∀ t, e.connect_to = some t → ∃ d, v.lookup "connect_to" = some d ∧ ShowsTarget d t
  no_connect_to : e.connect_to = none → v.lookup "connect_to" = none

structure ShowsEntity (py : Python σ) (v : Value σ) (e : Entity) : Prop
    extends ShowsFields py v e where
  connections : ShowsList (fun v c => Shows (connectionFields c) v) (v.lookup "connections")
    e.connections
  tcp_redirections : ShowsList (fun v r => Shows (redirectionFields r) v)
    (v.lookup "tcp_redirections") e.tcp_redirections

def ShowsEntries (py : Python σ) : List (Scalar σ × Value σ) → List Entity → Prop :=
  List.Forall₂ (fun x e => x.1 = .str e.name ∧ ShowsEntity py x.2 e)

/-- A document with these entities. -/
def ShowsConfig (py : Python σ) (config : Value σ) (es : List Entity) : Prop :=
  ∃ entries, entitiesOf config = .ok entries ∧ ShowsEntries py entries es

section
variable {v : Value σ} {e : Entity}

theorem ShowsEntity.get_role (h : ShowsEntity py v e) :
    v.get "role" .null = .ok ((e.role.map .str).getD .null) :=
  Value.get_eq_ok.mpr ⟨h.isDict, congrArg (fun o => o.getD .null) h.role⟩

omit [DecidableEq σ] in
theorem isText_role (o : Option String) (text : String) :
    (((o.map .str).getD .null : Value σ)).isText text = decide (o = some text) := by
  cases o with
  | none => rfl
  | some s => simp [Value.isText, Value.str]

theorem ShowsEntity.isFuzzer (h : ShowsEntity py v e) : isFuzzer v = decide e.isFuzzer := by
  rw [CommanderPasses.isFuzzer, Value.field, h.role, isText_role]
  rfl

theorem ShowsEntity.get_destinations (h : ShowsEntity py v e) :
    ∃ dests, v.get "destinations" (.list []) = .ok (.list dests) ∧
      List.Forall₂ ShowsTarget dests e.targets := by
  have shown := h.destinations
  unfold Entity.targets
  cases found : e.destinations with
  | none =>
    rw [found] at shown
    refine ⟨[], Value.get_eq_ok.mpr ⟨h.isDict, ?_⟩, .nil⟩
    rw [Value.field, shown, Option.getD_none]
  | some ts =>
    rw [found] at shown
    obtain ⟨dests, eq, shown⟩ := shown
    refine ⟨dests, Value.get_eq_ok.mpr ⟨h.isDict, ?_⟩, shown⟩
    rw [Value.field, eq, Option.getD_some]

theorem visitEntity_alike {name : Scalar σ} {s : Progress σ (PairKey σ)}
    {s' : RedirectionInjector.Progress} (same : SameProgress s s') (h : ShowsEntity py v e) :
    Alike SameProgress (visitEntity py s (name, v)) (RedirectionInjector.visitEntity s' e) := by
  unfold visitEntity RedirectionInjector.visitEntity
  rw [bind_of_ok h.get_role, isText_role]
  by_cases fuzzer : e.isFuzzer
  · have role : e.role = some "fuzzer" := fuzzer
    rw [if_pos (decide_eq_true role), if_pos fuzzer]
    exact same
  · have role : ¬ e.role = some "fuzzer" := fuzzer
    rw [if_neg (by simpa using role), if_neg fuzzer]
    refine (item_alike h.isDict h.ip).bind ?_
    rintro _ ip rfl
    refine (item_alike h.isDict h.port).bind ?_
    rintro _ port rfl
    obtain ⟨dests, hdests, shown⟩ := h.get_destinations
    rw [bind_of_ok hdests]
    have step : ∀ s s' d t, SameProgress s s' → ShowsTarget d t →
        Alike SameProgress (visitDestination py (.str ip) (.int port) s d)
          (RedirectionInjector.visitDestination ⟨ip, port⟩ s' t) :=
      fun _ _ _ _ same target => visitDestination_alike ⟨ip, port⟩ same target
    change Alike SameProgress (dests.foldlM (visitDestination py (.str ip) (.int port)) s) _
    exact Agree.foldlM step shown same

theorem ShowsFields.assign (h : ShowsFields py v e) {key : String} (w : Value σ)
    (injected : key = "connections" ∨ key = "tcp_redirections") :
    ShowsFields py (v.assign key w) e := by
  have other : ∀ field ∈ ["role", "protocol", "ip", "port", "fuzzed", "binary_path", "exec_with",
      "destinations", "connect_to"], (v.assign key w).lookup field = v.lookup field := by
    intro field member
    refine Value.lookup_assign_of_ne ?_
    rintro rfl
    rcases injected with rfl | rfl <;> simp at member
  constructor
  · rw [Value.isDict_assign, h.isDict]
  · rw [other _ (by simp), h.role]
  · rw [other _ (by simp)]
    exact h.protocol
  · rw [other _ (by simp), h.ip]
  · rw [other _ (by simp), h.port]
  · rw [other _ (by simp), h.fuzzed]
  · rw [other _ (by simp), h.binary_path]
  · rw [other _ (by simp), h.exec_with]
  · rw [other _ (by simp)]
    exact h.destinations
  · rw [other _ (by simp)]
    exact h.connect_to
  · rw [other _ (by simp)]
    exact h.no_connect_to

theorem ShowsEntity.withConnections (h : ShowsEntity py v e) {connections : List (Value σ)}
    {cs : List Connection}
    (shown : List.Forall₂ (fun v c => Shows (connectionFields c) v) connections cs) :
    ShowsEntity py (v.assign "connections" (.list connections)) (e.withConnections cs) := by
  have kept := h.toShowsFields.assign (.list connections) (Or.inl rfl)
  refine ⟨⟨kept.isDict, kept.role, kept.protocol, kept.ip, kept.port, kept.fuzzed,
    kept.binary_path, kept.exec_with, kept.destinations, kept.connect_to, kept.no_connect_to⟩,
    ⟨connections, Value.lookup_assign h.isDict, shown⟩, ?_⟩
  rw [Value.lookup_assign_of_ne (by decide)]
  exact h.tcp_redirections

theorem ShowsEntity.withTCPRedirections (h : ShowsEntity py v e) {redirections : List (Value σ)}
    {rs : List TCPRedirection}
    (shown : List.Forall₂ (fun v r => Shows (redirectionFields r) v) redirections rs) :
    ShowsEntity py (v.assign "tcp_redirections" (.list redirections))
      (e.withTCPRedirections rs) := by
  have kept := h.toShowsFields.assign (.list redirections) (Or.inr rfl)
  refine ⟨⟨kept.isDict, kept.role, kept.protocol, kept.ip, kept.port, kept.fuzzed,
    kept.binary_path, kept.exec_with, kept.destinations, kept.connect_to, kept.no_connect_to⟩,
    ?_, ⟨redirections, Value.lookup_assign h.isDict, shown⟩⟩
  rw [Value.lookup_assign_of_ne (by decide)]
  exact h.connections

end

section
variable {entries : List (Scalar σ × Value σ)} {es : List Entity}

theorem findFuzzer_shows (h : ShowsEntries py entries es) :
    ∃ found, findFuzzer entries = .ok found ∧
      Option.Rel (ShowsEntity py) found (CommanderConfig.getFuzzer es) := by
  induction h with
  | nil => exact ⟨none, rfl, .none⟩
  | @cons x e _ _ first _ ih =>
    obtain ⟨-, shown⟩ := first
    rw [findFuzzer, bind_of_ok shown.get_role, isText_role, CommanderConfig.getFuzzer,
      List.find?_cons]
    by_cases fuzzer : e.role = some "fuzzer"
    · have first : e.isFuzzer := fuzzer
      rw [if_pos (decide_eq_true fuzzer), decide_eq_true first]
      exact ⟨some x.2, rfl, .some shown⟩
    · have later : ¬ e.isFuzzer := fuzzer
      rw [if_neg (by simpa using fuzzer), decide_eq_false later]
      exact ih

theorem updateFirst_shows {f : Value σ → Value σ} {g : Entity → Entity}
    (name : ∀ e, (g e).name = e.name)
    (same : ∀ v e, ShowsEntity py v e → ShowsEntity py (f v) (g e))
    (h : ShowsEntries py entries es) :
    ShowsEntries py (updateFirst isFuzzer f entries) (CommanderConfig.updateFuzzer g es) := by
  induction h with
  | nil => exact .nil
  | @cons x e _ _ first rest ih =>
    obtain ⟨named, shown⟩ := first
    rw [updateFirst, shown.isFuzzer, CommanderConfig.updateFuzzer]
    by_cases fuzzer : e.isFuzzer
    · simp only [fuzzer, decide_true, if_true]
      exact .cons ⟨named.trans (congrArg _ (name e).symm), same _ _ shown⟩ rest
    · simp only [fuzzer, decide_false, Bool.false_eq_true, if_false]
      exact .cons ⟨named, shown⟩ ih

theorem injectFuzzerRedirections_alike {config : Value σ} (h : ShowsConfig py config es)
    (draws : List Draw) :
    Alike (fun r r' => ShowsConfig py r.1 r'.1 ∧ r.2 = r'.2)
      (injectFuzzerRedirections py config draws)
      (RedirectionInjector.injectFuzzerRedirections es draws) := by
  obtain ⟨entries, found, shown⟩ := h
  obtain ⟨fuzzer, hfuzzer, related⟩ := findFuzzer_shows shown
  unfold injectFuzzerRedirections RedirectionInjector.injectFuzzerRedirections theFuzzer
  rw [bind_of_ok found, bind_of_ok hfuzzer]
  generalize CommanderConfig.getFuzzer es = fuzzer' at related ⊢
  cases related with
  | none => rfl
  | some first =>
    have start : SameProgress (σ := σ) ⟨⟨[], draws⟩, [], []⟩ ⟨⟨[], draws⟩, [], []⟩ :=
      ⟨⟨rfl, rfl⟩, .nil, rfl⟩
    have step : ∀ s s' (x : Scalar σ × Value σ) e, SameProgress s s' →
        x.1 = .str e.name ∧ ShowsEntity py x.2 e →
        Alike SameProgress (visitEntity py s x) (RedirectionInjector.visitEntity s' e) :=
      fun _ _ _ _ same shown => visitEntity_alike same shown.2
    refine (Agree.foldlM step shown start).bind ?_
    intro s s' same
    refine ⟨⟨_, entitiesOf_onEntities found, ?_⟩, same.ports.2⟩
    exact updateFirst_shows (fun _ => rfl)
      (fun v e shown => shown.withConnections same.added) shown

end

theorem connectionPorts_shown {v : Value σ} {c : Connection} (h : Shows (connectionFields c) v) :
    connectionPorts py v = .ok ((RedirectionInjector.proxyPorts c).map .int) := by
  obtain ⟨-, shown⟩ := h
  have item : ∀ field ∈ connectionFields c, v.item field.1 = .ok field.2 :=
    fun field member => Value.item_eq_ok.mpr (shown field member)
  simp only [connectionFields, List.forall_mem_cons] at item
  obtain ⟨-, -, recvA, sendA, -, -, recvB, sendB, -⟩ := item
  rw [connectionPorts, bind_of_ok recvA, bind_of_ok sendA, bind_of_ok recvB, bind_of_ok sendB]
  rfl

section
variable {v : Value σ} {e : Entity}

theorem ShowsEntity.usedPorts (h : ShowsEntity py v e) : usedPorts py v =
    .ok (((e.connections.getD []).flatMap RedirectionInjector.proxyPorts).map .int) := by
  have shown := h.connections
  unfold CommanderPasses.usedPorts
  cases found : e.connections with
  | none =>
    rw [found] at shown
    rw [show v.lookup "connections" = none from shown]
    rfl
  | some cs =>
    rw [found] at shown
    obtain ⟨conns, eq, shown⟩ := shown
    have read : conns.mapM (connectionPorts py) =
        .ok (cs.map (fun c => (RedirectionInjector.proxyPorts c).map .int)) := by
      rw [mapM_eq_ok, List.forall₂_map_right_iff]
      exact shown.imp fun _ _ => connectionPorts_shown
    rw [eq, List.map_flatMap, List.flatMap_def]
    exact bind_of_ok read _

theorem ShowsEntity.protocol_alike (h : ShowsEntity py v e) :
    Alike (fun v text => v = .str text)
      (v.get "protocol" (.str "udp") >>= fun protocol => protocol.lower py) e.protocolLower := by
  have shown := h.protocol
  have get : v.get "protocol" (.str "udp") = .ok (v.field "protocol" (.str "udp")) :=
    Value.get_eq_ok.mpr ⟨h.isDict, rfl⟩
  rw [bind_of_ok get, Value.field]
  unfold Entity.protocolLower
  cases found : e.protocol with
  | none =>
    rw [found] at shown
    rw [show v.lookup "protocol" = none from shown]
    rfl
  | some scalar =>
    rw [found] at shown
    cases scalar with
    | str text =>
      rw [show v.lookup "protocol" = some (.str text) from shown]
      refine congrArg Value.str ?_
      change String.ofList (text.toList.map Char.toLower) = text.map Char.toLower
      rw [← String.toList_map, String.ofList_toList]
    | other text =>
      obtain ⟨x, eq, lower⟩ := shown
      rw [eq, Option.getD_some, lower]
      rfl

structure SameTCPProgress (s : Progress σ (Scalar σ × Scalar σ))
    (s' : RedirectionInjector.TCPProgress) : Prop where
  ports : SamePorts s.ports s'.ports
  added : List.Forall₂ (fun v r => Shows (redirectionFields r) v) s.added s'.tcpRedirections
  seen : s.seen = s'.seenServers.map scalars

theorem redirect_alike (server : Endpoint) {s : Progress σ (Scalar σ × Scalar σ)}
    {s' : RedirectionInjector.TCPProgress} (h : SameTCPProgress s s') :
    Alike SameTCPProgress (redirect py s (scalars server))
      (if server ∈ s'.seenServers then return s'
       else do
        let (proxy_port, ports) ← RedirectionInjector.randomPort s'.ports
        return ⟨ports, s'.tcpRedirections ++ [⟨server.ip, server.port, proxy_port⟩],
          s'.seenServers ++ [server]⟩) := by
  simp only [redirect, addUnseen, h.seen, serverSeen_scalars, decide_eq_true_eq, newRedirection,
    bind_assoc]
  split
  · exact h
  · refine (randomPort_alike h.ports).bind ?_
    rintro ⟨port, ports⟩ ⟨_, ports'⟩ ⟨rfl, same⟩
    refine ⟨same, List.rel_append h.added (.cons ⟨rfl, ?_⟩ .nil), by simp⟩
    simp [redirectionFields, redirection, Value.lookup, lookup_cons, scalars, Value.str, Value.int]

theorem visitServer_alike {name : Scalar σ} {s : Progress σ (Scalar σ × Scalar σ)}
    {s' : RedirectionInjector.TCPProgress} (same : SameTCPProgress s s')
    (h : ShowsEntity py v e) :
    Alike SameTCPProgress (visitServer py s (name, v)) (RedirectionInjector.visitServer s' e) := by
  unfold visitServer readServer RedirectionInjector.visitServer
  rw [bind_of_ok h.get_role, isText_role]
  by_cases server : e.role = some "server"
  · rw [if_neg (by simp [server]), if_neg (by simp [server])]
    simp only [bind_assoc]
    rw [← bind_assoc]
    refine h.protocol_alike.bind ?_
    rintro _ protocol rfl
    have ip : v.get "ip" .null = .ok ((e.ip.map .str).getD .null) :=
      Value.get_eq_ok.mpr ⟨h.isDict, congrArg (fun o => o.getD .null) h.ip⟩
    have port : v.get "port" (.int (-1)) = .ok (.int (e.port.getD (-1))) := by
      rw [Value.get_eq_ok, Value.field, h.port]
      exact ⟨h.isDict, by cases e.port <;> rfl⟩
    by_cases tcp : protocol = "tcp"
    · rw [if_neg (by simp [tcp, Value.isText, Value.str]), if_neg (by simp [tcp]),
        bind_assoc, bind_of_ok ip, bind_assoc, bind_of_ok port]
      generalize e.port.getD (-1) = p
      cases e.ip with
      | none => exact same
      | some text =>
        have skipped : (!Value.truthy py (.str text) || Value.isInt py (-1) (.int p)) =
            decide (text = "" ∨ p = -1) := by
          simp [Value.truthy, Value.str, Value.isInt, Value.int]
        simp only [Option.map_some, Option.getD_some, skipped, decide_eq_true_eq]
        by_cases idle : text = "" ∨ p = -1
        · rw [if_pos idle, if_pos idle]
          exact same
        · rw [if_neg idle, if_neg idle]
          change Agree _ _ (redirect py s (scalars ⟨text, p⟩) >>= pure) _
          rw [bind_pure]
          exact redirect_alike ⟨text, p⟩ same
    · rw [if_pos (by simp [tcp, Value.isText, Value.str]), if_pos tcp]
      exact same
  · rw [if_pos (by simp [server]), if_pos server]
    exact same

end

section
variable {config : Value σ} {es : List Entity}

theorem injectTCPRedirections_alike (h : ShowsConfig py config es) (draws : List Draw) :
    Alike (fun r r' => ShowsConfig py r.1 r'.1 ∧ r.2 = r'.2)
      (injectTCPRedirections py config draws)
      (RedirectionInjector.injectTCPRedirections es draws) := by
  obtain ⟨entries, found, shown⟩ := h
  obtain ⟨fuzzer, hfuzzer, related⟩ := findFuzzer_shows shown
  unfold injectTCPRedirections RedirectionInjector.injectTCPRedirections theFuzzer
  rw [bind_of_ok found, bind_of_ok hfuzzer]
  generalize CommanderConfig.getFuzzer es = fuzzer' at related ⊢
  cases related with
  | none => rfl
  | @some v e first =>
    have start : SameTCPProgress (σ := σ)
        ⟨⟨((e.connections.getD []).flatMap RedirectionInjector.proxyPorts).map .int, draws⟩, [], []⟩
        ⟨⟨(e.connections.getD []).flatMap RedirectionInjector.proxyPorts, draws⟩, [], []⟩ :=
      ⟨⟨rfl, rfl⟩, .nil, rfl⟩
    have step : ∀ s s' (x : Scalar σ × Value σ) e, SameTCPProgress s s' →
        x.1 = .str e.name ∧ ShowsEntity py x.2 e →
        Alike SameTCPProgress (visitServer py s x) (RedirectionInjector.visitServer s' e) :=
      fun _ _ _ _ same shown => visitServer_alike same shown.2
    change Alike _ (usedPorts py v >>= _) _
    rw [bind_of_ok first.usedPorts]
    refine (Agree.foldlM step shown start).bind ?_
    intro s s' same
    refine ⟨⟨_, entitiesOf_onEntities found, ?_⟩, same.ports.2⟩
    exact updateFirst_shows (fun _ => rfl)
      (fun v e shown => shown.withTCPRedirections same.added) shown

/-- On a document that shows some entities the two injectors end as they do on the entities. -/
theorem injectBoth_alike (h : ShowsConfig py config es) (draws : List Draw) :
    Alike (fun r r' => ShowsConfig py r.1 r'.1 ∧ r.2 = r'.2)
      (injectFuzzerRedirections py config draws >>= fun r => injectTCPRedirections py r.1 r.2)
      (RedirectionInjector.injectBoth es draws) := by
  refine (injectFuzzerRedirections_alike h draws).bind ?_
  rintro ⟨config₁, draws₁⟩ ⟨es₁, draws₁'⟩ ⟨shown, same⟩
  obtain rfl : draws₁ = draws₁' := same
  exact injectTCPRedirections_alike shown draws₁

end

end Cezfuzzer.CommanderPasses
