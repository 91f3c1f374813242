import Mathlib.Data.List.TakeWhile
import Cezfuzzer.LauncherInstances
import Cezfuzzer.LauncherProxies

set_option autoImplicit false

/-!
# The log files

A launch truncates the file that the name of its entity and an index make up. The client
counts the calls of `start_entities`; the server launches its proxy under the same index again.
-/
namespace Cezfuzzer.LauncherLogs
open StepRuns LengthPrefix LauncherMessages LauncherClient LauncherInstances
open LauncherMachine (accepted clientAddress twoEntities)
open LauncherInvariants (launches remaining)
open LauncherProxies (System launched step_cases)

/-! ## Texts that end in a number -/

theorem separator_injective {α : Type*} {x : α} {a b d e : List α} (hd : x ∉ d) (he : x ∉ e)
    (same : a ++ x :: d = b ++ x :: e) : a = b ∧ d = e := by
  rcases List.append_eq_append_iff.mp same with ⟨c, rfl, more⟩ | ⟨c, rfl, more⟩
  · cases c with
    | nil => simpa using more
    | cons y c =>
      obtain ⟨rfl, rfl⟩ : x = y ∧ d = c ++ x :: e := by simpa using more
      simp at hd
  · cases c with
    | nil => simpa [eq_comm] using more
    | cons y c =>
      obtain ⟨rfl, rfl⟩ : x = y ∧ e = c ++ x :: d := by simpa using more
      simp at he

/-- `std::to_string` -/
def toString (n : ℤ) : Bytes :=
  (if n < 0 then [45] else []) ++ (Nat.toDigits 10 n.natAbs).map Char.toUInt8

theorem digit_bounds {c : Char} (digit : c.isDigit = true) : 48 ≤ c.toNat ∧ c.toNat ≤ 57 := by
  simp only [Char.isDigit, Bool.and_eq_true, decide_eq_true_eq] at digit
  exact ⟨UInt32.le_iff_toNat_le.mp digit.1, UInt32.le_iff_toNat_le.mp digit.2⟩

theorem toNat_toUInt8 {c : Char} (digit : c.isDigit = true) : c.toUInt8.toNat = c.toNat := by
  have small := (digit_bounds digit).2
  simp only [Char.toUInt8, UInt32.toNat_toUInt8, Char.toNat] at small ⊢
  omega

theorem toUInt8_ofNat {c : Char} (digit : c.isDigit = true) : Char.ofNat c.toUInt8.toNat = c := by
  rw [toNat_toUInt8 digit, Char.ofNat_toNat]

theorem toString_injective {m n : ℕ} (same : toString m = toString n) : m = n := by
  simp only [toString, Int.natAbs_natCast, Int.not_ofNat_neg, if_false, List.nil_append] at same
  have back : ∀ k : ℕ, ((Nat.toDigits 10 k).map Char.toUInt8).map (fun b => Char.ofNat b.toNat) =
      Nat.toDigits 10 k := by
    intro k
    rw [List.map_map]
    refine (List.map_congr_left fun c hc => ?_).trans (List.map_id _)
    exact toUInt8_ofNat (Nat.isDigit_of_mem_toDigits (by decide) (by decide) hc)
  have digits : Nat.toDigits 10 m = Nat.toDigits 10 n := by rw [← back, same, back]
  rw [← Nat.ofDigitChars_ten_toDigits (n := m), digits, Nat.ofDigitChars_ten_toDigits]

theorem mem_toString {n : ℤ} {b : UInt8} (h : b ∈ toString n) :
    b = 45 ∨ 48 ≤ b.toNat ∧ b.toNat ≤ 57 := by
  rw [toString, List.mem_append] at h
  rcases h with h | h
  · split at h
    · exact Or.inl (List.mem_singleton.mp h)
    · cases h
  · obtain ⟨c, hc, rfl⟩ := List.mem_map.mp h
    have digit := Nat.isDigit_of_mem_toDigits (by decide) (by decide) hc
    rw [toNat_toUInt8 digit]
    exact Or.inr (digit_bounds digit)

/-! ## The paths -/

/-- "/tmp/logs/" and ".log" -/
def logDir : Bytes := [47, 116, 109, 112, 47, 108, 111, 103, 115, 47]
def extension : Bytes := [46, 108, 111, 103]

/-- `log_path.c_str()` -/
def logPath (entity : EntityConfig) (index : ℤ) : Bytes :=
  cString (logDir ++ entity.name ++ 95 :: (toString index ++ extension))

/-- What an `int` holds after `n` increments from zero. -/
def int (n : ℕ) : ℤ := (n + 2147483648) % 4294967296 - 2147483648

theorem int_small {n : ℕ} (small : n < 2147483648) : int n = n := by
  unfold int
  omega

theorem cString_eq_self {bytes : Bytes} (plain : 0 ∉ bytes) : cString bytes = bytes := by
  rw [cString, List.takeWhile_eq_self_iff]
  intro b member
  simpa using ne_of_mem_of_not_mem member plain

theorem logPath_injective {x y : EntityConfig} {m n : ℕ} (hx : 0 ∉ x.name) (hy : 0 ∉ y.name)
    (same : logPath x m = logPath y n) : x.name = y.name ∧ m = n := by
  have plain : ∀ (z : EntityConfig) (k : ℕ), 0 ∉ z.name →
      0 ∉ logDir ++ z.name ++ 95 :: (toString k ++ extension) := by
    intro z k hz
    have number : (0 : UInt8) ∉ toString k := fun h => by simpa using mem_toString h
    simp [logDir, extension, hz, number]
  have number : ∀ k : ℕ, (95 : UInt8) ∉ toString k ++ extension := by
    intro k
    have number : (95 : UInt8) ∉ toString k := fun h => by simpa using mem_toString h
    simp [extension, number]
  rw [logPath, logPath, cString_eq_self (plain x m hx), cString_eq_self (plain y n hy)] at same
  obtain ⟨names, numbers⟩ := separator_injective (number m) (number n) same
  exact ⟨List.append_cancel_left names, toString_injective (List.append_cancel_right numbers)⟩

/-! ## The client -/

/-- The log files that its launches have truncated. -/
def clientLogs (c : Client) : List Bytes := (launches c).map (fun x => logPath x.1 (int x.2))

/-- A launch of an entity whose name is a C string, before the counter overflows. -/
def PlainLaunch (c : Connection) (e : LauncherInstances.Event) : Prop :=
  e = .client (.fork true) → ∀ entity ∈ nextEntity c.client.phase,
    0 ∉ entity.name ∧ c.client.index < 2147483648

instance (c : Connection) (e : LauncherInstances.Event) : Decidable (PlainLaunch c e) :=
  inferInstanceAs (Decidable (_ → ∀ entity ∈ nextEntity c.client.phase, _ ∧ _))

/-- No two launches are of one entity and with one index. -/
structure Counted (config : Config) (c : Client) : Prop where
  rounds : Rounds c
  listed : c.entities ⊆ config.entities
  todo : remaining c.phase ⊆ config.entities
  launched : ∀ x ∈ launches c, x.1 ∈ config.entities ∧ 0 ∉ x.1.name ∧ x.2 < 2147483648
  once : (launches c).Nodup

section
variable {config : Config} {c c' : Connection}

theorem accepted_counted (peer : Address) : Counted config (accepted peer).client := by
  refine ⟨accepted_rounds peer, ?_, ?_, ?_, ?_⟩ <;>
    simp [accepted, unconnected, launches, remaining]

theorem listed_move {e : ClientEvent} (listed : c.client.entities ⊆ config.entities)
    (todo : remaining c.client.phase ⊆ config.entities)
    (move : ClientMove config.entities c e c') :
    c'.client.entities ⊆ config.entities ∧ remaining c'.client.phase ⊆ config.entities := by
  cases move with
  | identify f rest at' next => exact ⟨List.filter_subset_self _, List.nil_subset _⟩
  | receive f rest at' next =>
    simp only [multiplex]
    split
    · exact ⟨listed, listed⟩
    · exact ⟨listed, List.nil_subset _⟩
    · exact ⟨listed, todo⟩
  | clear at' => exact ⟨listed, listed⟩
  | fork entity rest at' | forkFails entity rest at' =>
    rw [at'] at todo
    exact ⟨listed, List.subset_of_cons_subset todo⟩
  | register pid rest child at' found =>
    rw [at'] at todo
    exact ⟨listed, todo⟩
  | kill pid rest at' | loop at' => exact ⟨listed, List.nil_subset _⟩
  | exits pid child found | dies pid child found | reap pid child found
  | report pid child found => exact ⟨listed, todo⟩

theorem counted_move {e : ClientEvent} (counted : Counted config c.client)
    (met : PlainLaunch c (.client e)) (move : ClientMove config.entities c e c') :
    Counted config c'.client := by
  obtain ⟨rounds, listed, todo, launched, once⟩ := counted
  obtain ⟨listed', todo'⟩ := listed_move listed todo move
  have added := launches_move move
  have rounds' := rounds_move rounds move
  cases move with
  | fork entity rest at' =>
    simp only [newLaunch, nextEntity, at', Option.toList_some, List.map_singleton] at added
    have plain := met rfl entity (by simp [nextEntity, at'])
    refine ⟨rounds', listed', todo', ?_, ?_⟩
    · intro x member
      rw [added, List.mem_append, List.mem_singleton] at member
      rcases member with member | rfl
      · exact launched x member
      · exact ⟨todo (by simp [at', remaining]), plain⟩
    · rw [added]
      refine List.nodup_append.mpr ⟨once, List.nodup_singleton _, ?_⟩
      rintro x member _ new rfl
      rw [List.mem_singleton] at new
      subst new
      exact rounds.pending _ member rfl (by simp [at', remaining])
  | _ =>
    have same := added.trans (List.append_nil _)
    exact ⟨rounds', listed', todo', same ▸ launched, same ▸ once⟩

theorem counted_step {e : LauncherInstances.Event} (counted : Counted config c.client)
    (met : PlainLaunch c e) (h : LauncherInstances.step config c e = some c') :
    Counted config c'.client := by
  cases e with
  | server =>
    cases h
    exact counted
  | client e => exact counted_move counted met (clientStep_move h)

theorem counted_logs {c : Client} (counted : Counted config c) : (clientLogs c).Nodup := by
  refine counted.once.map_on fun x hx y hy same => ?_
  obtain ⟨listed, plain, small⟩ := counted.launched x hx
  obtain ⟨listed', plain', small'⟩ := counted.launched y hy
  rw [int_small small, int_small small'] at same
  obtain ⟨name, index⟩ := logPath_injective plain plain' same
  exact Prod.ext (List.inj_on_of_nodup_map config.distinct listed listed' name) index

end

/-! ## The server -/

def serverLogs (proxy : EntityConfig) (s : System) : List Bytes :=
  s.proxies.map (fun _ => logPath proxy (-1))

/-- No launch of the proxy succeeds after the first. -/
def FirstProxy (s : System) : LauncherProxies.Event → Prop
  | .launchers e => launched e = [] ∨ s.proxies = []
  | .exits _ => True

instance (s : System) (e : LauncherProxies.Event) : Decidable (FirstProxy s e) := by
  unfold FirstProxy
  split <;> infer_instance

section
variable {config : List EntityConfig} {proxy : EntityConfig} {s u : System}

theorem serverLogs_nodup : (serverLogs proxy s).Nodup ↔ s.proxies.length ≤ 1 := by
  rw [serverLogs, List.map_const', List.nodup_replicate]

theorem launched_cases (e : LauncherDisconnects.Event) : launched e = [] ∨ launched e = [true] := by
  unfold launched
  split <;> simp

theorem proxies_step {e : LauncherProxies.Event} (few : s.proxies.length ≤ 1)
    (h : LauncherProxies.step config s e = some u) : u.proxies.length ≤ 1 ↔ FirstProxy s e := by
  rcases step_cases h with ⟨n, rfl, -, rfl⟩ | ⟨e, rfl, -, proxies, -⟩
  · simpa [FirstProxy] using few
  · rw [proxies, List.length_append, FirstProxy]
    rcases launched_cases e with none | one
    · simpa [none] using few
    · simp [one]

/-- The logs of the server stay apart exactly as long as it launches one proxy. -/
theorem serverLogs_iff (proxy : EntityConfig) {es : List LauncherProxies.Event}
    (run : Runs (LauncherProxies.step config) anyStep LauncherProxies.initial es s) :
    (∀ es₁ es₂ s₁, es = es₁ ++ es₂ →
      Runs (LauncherProxies.step config) anyStep LauncherProxies.initial es₁ s₁ →
      (serverLogs proxy s₁).Nodup) ↔
      Runs (LauncherProxies.step config) FirstProxy LauncherProxies.initial es s := by
  have few : ∀ es t, Runs (LauncherProxies.step config) FirstProxy LauncherProxies.initial es t →
      t.proxies.length ≤ 1 := fun es t first =>
    first.state_invariant (fun s => s.proxies.length ≤ 1) (Nat.zero_le _)
      (fun _ _ _ few met h => (proxies_step few h).mpr met)
  simp only [serverLogs_nodup]
  exact run.always_iff few (fun es t _ _ first h after =>
    (proxies_step (few es t first) h).mp after)

end

/-- The paths that a launcher truncates are pairwise distinct: those of a client in every run
    that launches C strings and does not overflow its counter, and those of the server exactly
    in the runs in which it does not launch its proxy again. -/
theorem logs_apart (config : Config) (proxy : EntityConfig) :
    (∀ (peer : Address) (es : List LauncherInstances.Event) (c : Connection),
      Runs (LauncherInstances.step config) PlainLaunch (accepted peer) es c →
        (clientLogs c.client).Nodup) ∧
    ∀ (es : List LauncherProxies.Event) (s : System),
      Runs (LauncherProxies.step config.entities) anyStep LauncherProxies.initial es s →
        ((∀ es₁ es₂ s₁, es = es₁ ++ es₂ →
          Runs (LauncherProxies.step config.entities) anyStep LauncherProxies.initial es₁ s₁ →
          (serverLogs proxy s₁).Nodup) ↔
          Runs (LauncherProxies.step config.entities) FirstProxy LauncherProxies.initial es s) := by
  refine ⟨fun peer es c run => ?_, fun es s run => serverLogs_iff proxy run⟩
  exact counted_logs (run.state_invariant (fun c => Counted config c.client)
    (accepted_counted peer) (fun _ _ _ counted met h => counted_step counted met h))

def startedTwice : List LauncherInstances.Event :=
  [.server clientAddress .receiving [.ip clientAddress, .start, .restart] [] [],
    .client .identify, .client .receive, .client (.fork true), .client .register,
    .client (.fork true), .client .register, .client .loop, .client .receive, .client .kill,
    .client .kill, .client .clear, .client (.fork true), .client .register,
    .client (.fork true), .client .register, .client .loop]

/-- The server boots, and its proxy ends without a crash of a client. -/
def proxyEnds : List LauncherProxies.Event := [.main (.boot true), .main .lock, .exits 0]

theorem launchedTwice_apart : (∃ c : Connection, c.client.children.length = 4 ∧
      (clientLogs c.client).Nodup) ∧
    ∃ s : System, s.proxies = [false] ∧
      Runs (LauncherProxies.step twoEntities) FirstProxy LauncherProxies.initial proxyEnds s ∧
      (serverLogs ⟨[102], clientAddress.text⟩ s).Nodup := by
  obtain ⟨client, server⟩ := logs_apart twoEntityConfig ⟨[102], clientAddress.text⟩
  obtain ⟨c, hc, four⟩ := exists_execute (guarded (step twoEntityConfig) PlainLaunch)
    (accepted clientAddress) startedTwice (fun c => c.client.children.length = 4)
    (by decide +kernel)
  obtain ⟨s, hs, one⟩ := exists_execute (guarded (LauncherProxies.step twoEntities) FirstProxy)
    LauncherProxies.initial proxyEnds (fun s => s.proxies = [false]) (by decide +kernel)
  have run := runs_of_guarded hs
  refine ⟨⟨c, of_decide_eq_true four, client _ _ _ (runs_of_guarded hc)⟩, s,
    of_decide_eq_true one, run, ?_⟩
  exact (server _ _ run.forget).mpr run proxyEnds [] s (by simp) run.forget

def proxyRestarted : List LauncherProxies.Event := LauncherProxies.crashed true ++
  [.main .lock, .main .test, .main .dispatch, .exits 0, .main .stopProxy,
    .main (.launchProxy true)]

/-- The log of the first proxy is truncated by the launch of the second. -/
theorem proxyRestarted_truncates : ∃ s : System,
    Runs (LauncherProxies.step twoEntities) anyStep LauncherProxies.initial proxyRestarted s ∧
      ¬(serverLogs ⟨[102], clientAddress.text⟩ s).Nodup := by
  obtain ⟨s, hs, two⟩ := exists_execute (LauncherProxies.step twoEntities)
    LauncherProxies.initial proxyRestarted (fun s => s.proxies.length = 2) (by decide +kernel)
  refine ⟨s, runs_of_unguarded hs, fun apart => ?_⟩
  have few := serverLogs_nodup.mp apart
  rw [of_decide_eq_true two] at few
  omega

end Cezfuzzer.LauncherLogs
