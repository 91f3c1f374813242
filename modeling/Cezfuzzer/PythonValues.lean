import Mathlib.Data.String.Basic
import Cezfuzzer.OrderedDict

set_option autoImplicit false

/-!
# What `yaml.safe_load` returns

Python's values, and the operators and methods that the commander applies to them: `same` and
`less` are `==` and `<`, `truthy` is `bool(x)`, `item` and `assign` are `x[key]` and `x[key] = v`,
`iterate` is a `for` loop. An operand of a wrong type raises an exception.
-/
namespace Cezfuzzer.PythonValues
open OrderedDict

/-- The scalars of a YAML file. `other` are the floats, dates, byte strings and sets, and the
    pairs of an ordered map. -/
inductive Scalar (σ : Type) where
  | none
  | bool (b : Bool)
  | int (n : ℤ)
  | str (text : String)
  | other (x : σ)
  deriving DecidableEq

/-- The keys of a dictionary are scalars, because lists and dictionaries have no hash. -/
inductive Value (σ : Type) where
  | scalar (s : Scalar σ)
  | list (items : List (Value σ))
  | dict (entries : List (Scalar σ × Value σ))

/-- How the other scalars behave: `x == y`, `x < y`, `hash(x)`, `bool(x)`, `iter(x)` and
    `x.lower()`, of which the last four are undefined on some. -/
structure Python (σ : Type) where
  eq : σ → Scalar σ → Bool
  lt : Scalar σ → Scalar σ → Option Bool
  hashable : σ → Bool
  truthy : σ → Bool
  iterate : σ → Option (List (Scalar σ))
  lower : σ → Option (Scalar σ)

/-- The exceptions of the commander, its `sys.exit(1)`, and the end of the random numbers of a
    run that has not finished. -/
inductive Failure where
  | keyError (key : String)
  | attributeError (name : String)
  | typeError
  | exit
  | outOfDraws
  deriving DecidableEq, Repr

variable {σ : Type}

/-- A boolean is a number. -/
def Scalar.number : Scalar σ → Option ℤ
  | .int n => some n
  | .bool b => some (if b then 1 else 0)
  | _ => Option.none

namespace Python
variable (py : Python σ)

def same : Scalar σ → Scalar σ → Bool
  | .other x, b => py.eq x b
  | a, .other y => py.eq y a
  | .none, .none => true
  | .str s, .str t => s = t
  | a, b =>
    match a.number, b.number with
    | some m, some n => m = n
    | _, _ => false

/-- `a in s`, for a set or the keys of a dictionary -/
def mem (a : Scalar σ) (s : List (Scalar σ)) : Bool := s.any (py.same a)

def less : Scalar σ → Scalar σ → Except Failure Bool
  | .str s, .str t => .ok (s < t)
  | a, b =>
    match a.number, b.number, a, b with
    | some m, some n, _, _ => .ok (m < n)
    | _, _, .other _, _ | _, _, _, .other _ =>
      match py.lt a b with
      | some result => .ok result
      | Option.none => .error .typeError
    | _, _, _, _ => .error .typeError

def tupleLess (a b : Scalar σ × Scalar σ) : Except Failure Bool :=
  if py.same a.1 b.1 then
    if py.same a.2 b.2 then .ok false else py.less a.2 b.2
  else py.less a.1 b.1

def tupleSame (a b : Scalar σ × Scalar σ) : Bool := py.same a.1 b.1 && py.same a.2 b.2

/-- `tuple(sorted([a, b]))` -/
def sortedPair (a b : Scalar σ × Scalar σ) :
    Except Failure ((Scalar σ × Scalar σ) × (Scalar σ × Scalar σ)) := do
  return if ← py.tupleLess b a then (b, a) else (a, b)

@[simp] theorem same_int (m n : ℤ) : py.same (.int m) (.int n) = decide (m = n) := rfl

@[simp] theorem same_str (s t : String) : py.same (.str s) (.str t) = decide (s = t) := rfl

@[simp] theorem less_int (m n : ℤ) : py.less (.int m) (.int n) = .ok (decide (m < n)) := rfl

@[simp] theorem less_str (s t : String) : py.less (.str s) (.str t) = .ok (decide (s < t)) := rfl

end Python

namespace Value
variable (py : Python σ)

def null : Value σ := .scalar .none

def int (n : ℤ) : Value σ := .scalar (.int n)

def str (text : String) : Value σ := .scalar (.str text)

def isText (text : String) : Value σ → Bool
  | .scalar (.str s) => s = text
  | _ => false

def isInt (n : ℤ) : Value σ → Bool
  | .scalar s => py.same s (.int n)
  | _ => false

def isNone : Value σ → Bool
  | .scalar .none => true
  | _ => false

def truthy : Value σ → Bool
  | .scalar .none => false
  | .scalar (.bool b) => b
  | .scalar (.int n) => n ≠ 0
  | .scalar (.str text) => text ≠ ""
  | .scalar (.other x) => py.truthy x
  | .list l => !l.isEmpty
  | .dict es => !es.isEmpty

/-- A use of `x` as a key, or as an element of a set. -/
def hash : Value σ → Except Failure (Scalar σ)
  | .scalar (.other x) => if py.hashable x then .ok (.other x) else .error .typeError
  | .scalar s => .ok s
  | _ => .error .typeError

def iterate : Value σ → Except Failure (List (Value σ))
  | .list l => .ok l
  | .dict es => .ok (es.map (fun e => .scalar e.1))
  | .scalar (.str text) => .ok (text.toList.map (fun c => str c.toString))
  | .scalar (.other x) =>
    match py.iterate x with
    | some l => .ok (l.map .scalar)
    | none => .error .typeError
  | .scalar _ => .error .typeError

/-- `x.lower()`. No letter outside ASCII turns into one of `tcp`. -/
def lower : Value σ → Except Failure (Value σ)
  | .scalar (.str text) => .ok (str (String.ofList (text.toList.map Char.toLower)))
  | .scalar (.other x) =>
    match py.lower x with
    | some s => .ok (.scalar s)
    | none => .error (.attributeError "lower")
  | _ => .error (.attributeError "lower")

section
variable [DecidableEq σ]

def lookup (key : String) : Value σ → Option (Value σ)
  | .dict es => es.lookup (.str key)
  | _ => none

def get (x : Value σ) (key : String) (default : Value σ) : Except Failure (Value σ) :=
  match x with
  | .dict es => .ok ((es.lookup (.str key)).getD default)
  | _ => .error (.attributeError "get")

def item (key : String) : Value σ → Except Failure (Value σ)
  | .dict es =>
    match es.lookup (.str key) with
    | some v => .ok v
    | none => .error (.keyError key)
  | _ => .error .typeError

/-- What `x.get(key, default)` returns, for a dictionary. -/
def field (x : Value σ) (key : String) (default : Value σ) : Value σ :=
  (x.lookup key).getD default

def assign (x : Value σ) (key : String) (v : Value σ) : Value σ :=
  match x with
  | .dict es => .dict (OrderedDict.assign (.str key) v es)
  | x => x

def discard (key : String) : Value σ → Value σ
  | .dict es => .dict (OrderedDict.discard (.str key) es)
  | x => x

def update (key : String) (f : Value σ → Value σ) : Value σ → Value σ
  | .dict es => .dict (OrderedDict.update (.str key) f es)
  | x => x

end

def entries (method : String) : Value σ → Except Failure (List (Scalar σ × Value σ))
  | .dict es => .ok es
  | _ => .error (.attributeError method)

def onItems (f : Value σ → Value σ) : Value σ → Value σ
  | .list l => .list (l.map f)
  | x => x

def onEntries (f : List (Scalar σ × Value σ) → List (Scalar σ × Value σ)) :
    Value σ → Value σ
  | .dict es => .dict (f es)
  | x => x

section
variable [DecidableEq σ]

def isDict : Value σ → Bool
  | .dict _ => true
  | _ => false

variable {key key' : String} {d v w x : Value σ} {f g : Value σ → Value σ}

theorem get_eq_ok : x.get key d = .ok v ↔ x.isDict = true ∧ x.field key d = v := by
  cases x <;> simp [get, isDict, field, lookup]

theorem item_eq_ok : x.item key = .ok v ↔ x.lookup key = some v := by
  cases x with
  | dict es =>
    simp only [item, lookup]
    cases es.lookup (.str key) <;> simp
  | _ => simp [item, lookup]

omit [DecidableEq σ] in
theorem entries_eq_ok {method : String} {es : List (Scalar σ × Value σ)} :
    x.entries method = .ok es ↔ x = .dict es := by
  cases x <;> simp [entries]

@[simp] theorem isDict_assign : (x.assign key v).isDict = x.isDict := by
  cases x <;> rfl

@[simp] theorem isDict_update : (x.update key f).isDict = x.isDict := by
  cases x <;> rfl

theorem lookup_assign (h : x.isDict = true) : (x.assign key v).lookup key = some v := by
  cases x with
  | dict es => exact OrderedDict.lookup_assign _ _ _
  | _ => cases h

theorem lookup_assign_of_ne (h : key ≠ key') : (x.assign key' v).lookup key = x.lookup key := by
  cases x with
  | dict es => exact OrderedDict.lookup_assign_of_ne (by simpa using h) _ _
  | _ => rfl

theorem lookup_update : (x.update key f).lookup key = (x.lookup key).map f := by
  cases x with
  | dict es => exact OrderedDict.lookup_update _ _ _
  | _ => rfl

theorem lookup_update_of_ne (h : key ≠ key') :
    (x.update key' f).lookup key = x.lookup key := by
  cases x with
  | dict es => exact OrderedDict.lookup_update_of_ne (by simpa using h) _ _
  | _ => rfl

theorem lookup_discard_of_ne (h : key ≠ key') :
    (x.discard key').lookup key = x.lookup key := by
  cases x with
  | dict es => exact OrderedDict.lookup_discard_of_ne (by simpa using h) _
  | _ => rfl

theorem discard_assign : (x.assign key v).discard key = x.discard key := by
  cases x with
  | dict es => exact congrArg dict (OrderedDict.discard_assign _ _ _)
  | _ => rfl

theorem discard_assign_of_ne (h : key ≠ key') :
    (x.assign key' v).discard key = (x.discard key).assign key' v := by
  cases x with
  | dict es => exact congrArg dict (OrderedDict.discard_assign_of_ne (by simpa using h) _ _)
  | _ => rfl

theorem update_assign_of_ne (h : key ≠ key') :
    (x.assign key' v).update key f = (x.update key f).assign key' v := by
  cases x with
  | dict es => exact congrArg dict (OrderedDict.update_assign_of_ne (by simpa using h) _ _ _)
  | _ => rfl

theorem update_assign (present : x.lookup key = some w) (same : f v = f w) :
    (x.assign key v).update key f = x.update key f := by
  cases x with
  | dict es => exact congrArg dict (OrderedDict.update_assign present same)
  | _ => rfl

theorem update_update : (x.update key g).update key f = x.update key (f ∘ g) := by
  cases x with
  | dict es => exact congrArg dict (OrderedDict.update_update _ _ _ _)
  | _ => rfl

theorem update_congr (same : ∀ v, x.lookup key = some v → f v = g v) :
    x.update key f = x.update key g := by
  cases x with
  | dict es => exact congrArg dict (OrderedDict.update_congr same)
  | _ => rfl

theorem update_eq_self (present : x.lookup key = some v) (same : f v = v) :
    x.update key f = x := by
  cases x with
  | dict es => exact congrArg dict (OrderedDict.update_eq_self present same)
  | _ => rfl

theorem discard_update_of_ne (h : key ≠ key') :
    (x.update key' f).discard key = (x.discard key).update key' f := by
  cases x with
  | dict es => exact congrArg dict (OrderedDict.discard_update_of_ne (by simpa using h) _ _)
  | _ => rfl

theorem field_assign (h : x.isDict = true) : (x.assign key v).field key d = v := by
  rw [field, lookup_assign h, Option.getD_some]

theorem field_assign_of_ne (h : key ≠ key') :
    (x.assign key' v).field key d = x.field key d := by
  rw [field, lookup_assign_of_ne h, field]

theorem field_update_of_ne (h : key ≠ key') :
    (x.update key' f).field key d = x.field key d := by
  rw [field, lookup_update_of_ne h, field]

end

end Value

end Cezfuzzer.PythonValues
