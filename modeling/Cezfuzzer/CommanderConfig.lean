import Mathlib.Data.List.Basic
import Mathlib.Data.String.Basic
import Cezfuzzer.FallibleLoops

set_option autoImplicit false

/-!
# The configuration file

The `entities` of the YAML file, in their order, as the commander and the proxy read them. A
field that is `none` is absent. Writing the file and reading it again gives the same entities.
-/
namespace Cezfuzzer.CommanderConfig
open FallibleLoops (ok_bind)

/-- The value of a `protocol` field: a string, or anything else, with the string that
    `as<std::string>` makes of it if it does. -/
inductive Scalar where
  | str (text : String)
  | other (text : Option String)
  deriving DecidableEq, Repr

/-- An IP and a port, of which -1 stands for a dynamic one. -/
@[ext]
structure Endpoint where
  ip : String
  port : ℤ
  deriving DecidableEq, Repr

/-- An entry of `destinations`, and a `connect_to`. -/
structure Target where
  ip : Option String
  port : Option ℤ
  deriving DecidableEq, Repr

structure Connection where
  entityA_ip : String
  entityA_port : ℤ
  entityA_proxy_port_recv : ℤ
  entityA_proxy_port_send : ℤ
  entityB_ip : String
  entityB_port : ℤ
  entityB_proxy_port_recv : ℤ
  entityB_proxy_port_send : ℤ
  deriving DecidableEq, Repr

structure TCPRedirection where
  server_ip : String
  server_port : ℤ
  proxy_port : ℤ
  deriving DecidableEq, Repr

structure Entity where
  name : String
  role : Option String
  protocol : Option Scalar
  ip : Option String
  port : Option ℤ
  fuzzed : Option Bool
  binary_path : Option String
  exec_with : Option String
  destinations : Option (List Target)
  connect_to : Option Target
  connections : Option (List Connection)
  tcp_redirections : Option (List TCPRedirection)
  deriving DecidableEq, Repr

/-- A fuzzed UDP entity that launches nothing. -/
def entity (name role ip : String) (port : ℤ) (targets : List Target) : Entity :=
  ⟨name, some role, some (.str "udp"), some ip, some port, some true, some "", some "",
    some targets, none, none, none⟩

/-- The exceptions of the commander, its `sys.exit(1)`, and the end of the random numbers of a
    run that has not finished. -/
inductive Failure where
  | keyError (key : String)
  | attributeError (name : String)
  | exit
  | outOfDraws
  deriving DecidableEq, Repr

def required {α : Type*} (key : String) : Option α → Except Failure α
  | some a => .ok a
  | none => .error (.keyError key)

@[simp] theorem bind_eq_ok {α β : Type} {x : Except Failure α} {f : α → Except Failure β} {b : β} :
    x >>= f = .ok b ↔ ∃ a, x = .ok a ∧ f a = .ok b := ok_bind

@[simp] theorem pure_eq_ok {α : Type*} {a b : α} :
    (pure a : Except Failure α) = .ok b ↔ a = b := by
  simp [pure, Except.pure]

@[simp] theorem required_eq_ok {α : Type*} {key : String} {o : Option α} {a : α} :
    required key o = .ok a ↔ o = some a := by
  cases o <;> simp [required]

theorem isOk_eq_ok {α : Type} (x : Except Failure α) (h : x.isOk = true) : ∃ a, x = .ok a := by
  cases x with
  | error e => cases h
  | ok a => exact ⟨a, rfl⟩

def Entity.isFuzzer (e : Entity) : Prop := e.role = some "fuzzer"

instance (e : Entity) : Decidable e.isFuzzer := inferInstanceAs (Decidable (_ = _))

/-- `next((cfg for cfg in … if cfg.get("role") == "fuzzer"), None)` -/
def getFuzzer (config : List Entity) : Option Entity := config.find? (fun e => e.isFuzzer)

/-- `entity.get("protocol", "udp").lower()`. No letter outside ASCII turns into one of the two
    protocols. -/
def Entity.protocolLower (e : Entity) : Except Failure String :=
  match e.protocol with
  | none => .ok "udp"
  | some (.str text) => .ok text.toLower
  | some (.other _) => .error (.attributeError "lower")

/-- An assignment to a field of the entity that `getFuzzer` finds. -/
def updateFuzzer (f : Entity → Entity) : List Entity → List Entity
  | [] => []
  | e :: config => if e.isFuzzer then f e :: config else e :: updateFuzzer f config

def Entity.withConnections (connections : List Connection) (e : Entity) : Entity :=
  { e with connections := some connections }

def Entity.withTCPRedirections (redirections : List TCPRedirection) (e : Entity) : Entity :=
  { e with tcp_redirections := some redirections }

theorem withConnections_role (connections : List Connection) (e : Entity) :
    (e.withConnections connections).role = e.role := rfl

theorem withTCPRedirections_role (redirections : List TCPRedirection) (e : Entity) :
    (e.withTCPRedirections redirections).role = e.role := rfl

def Target.endpoint (t : Target) : Option Endpoint :=
  match t.ip, t.port with
  | some ip, some port => some ⟨ip, port⟩
  | _, _ => none

def Entity.endpoint (e : Entity) : Option Endpoint := (Target.mk e.ip e.port).endpoint

theorem target_endpoint {t : Target} {x : Endpoint} :
    t.endpoint = some x ↔ t.ip = some x.ip ∧ t.port = some x.port := by
  obtain ⟨ip, port⟩ := t
  cases ip <;> cases port <;> simp [Target.endpoint, Endpoint.ext_iff]

theorem entity_endpoint {e : Entity} {x : Endpoint} :
    e.endpoint = some x ↔ e.ip = some x.ip ∧ e.port = some x.port := target_endpoint

def Entity.targets (e : Entity) : List Target := e.destinations.getD []

section
variable {f : Entity → Entity} {config : List Entity} {e : Entity}

theorem getFuzzer_update (same : ∀ e, (f e).role = e.role) :
    getFuzzer (updateFuzzer f config) = (getFuzzer config).map f := by
  induction config with
  | nil => rfl
  | cons e config ih =>
    by_cases fuzzer : e.isFuzzer
    · have : (f e).isFuzzer := (same e).trans fuzzer
      simp [updateFuzzer, getFuzzer, fuzzer, this]
    · simp only [updateFuzzer, fuzzer, if_false, getFuzzer, List.find?_cons, decide_false]
      exact ih

theorem filter_update (config : List Entity) (same : ∀ e, (f e).role = e.role)
    (p : Entity → Bool) (others : ∀ e, p e = true → ¬ e.isFuzzer) :
    (updateFuzzer f config).filter p = config.filter p := by
  induction config with
  | nil => rfl
  | cons e config ih =>
    by_cases fuzzer : e.isFuzzer
    · have gone : ∀ x : Entity, x.isFuzzer → p x = false := by
        intro x isFuzzer
        by_contra kept
        exact others x (by simpa using kept) isFuzzer
      simp [updateFuzzer, fuzzer, gone e fuzzer, gone (f e) ((same e).trans fuzzer)]
    · simp only [updateFuzzer, fuzzer, if_false, List.filter_cons, ih]

theorem mem_update (same : ∀ e, (f e).role = e.role) (other : ¬ e.isFuzzer) :
    e ∈ updateFuzzer f config ↔ e ∈ config := by
  have kept := filter_update config same (fun x => decide (x = e))
    (by rintro x hx; exact of_decide_eq_true hx ▸ other)
  have := congrArg (e ∈ ·) kept
  simpa using this

end

end Cezfuzzer.CommanderConfig
