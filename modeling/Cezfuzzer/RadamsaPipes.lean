import Mathlib.Data.Finset.Image
import Mathlib.Data.Finset.Union
import Mathlib.Logic.Function.Basic
import Cezfuzzer.StepRuns

set_option autoImplicit false

/-!
# Concurrent calls of `FuzzerCore::runRadamsa`

Every call makes two pipes and a child in one shared descriptor table. The calls are
numbered, whichever proxy threads make them; a descriptor is named by its call and the
end of the pipe it stands for. `fork` copies the table of the proxy as it is at that
moment, and since no descriptor has `O_CLOEXEC` the copy survives `execvp`.
-/
namespace Cezfuzzer.RadamsaPipes
open StepRuns

/-- `in_pipe[0]`, `in_pipe[1]`, `out_pipe[0]` and `out_pipe[1]`. -/
inductive PipeEnd where
  | inRead | inWrite | outRead | outWrite
  deriving DecidableEq, Repr

structure Descriptor where
  call : ℕ
  pipeEnd : PipeEnd
  deriving DecidableEq, Repr

inductive Process where
  | proxy
  | child (call : ℕ)
  deriving DecidableEq, Repr

inductive Parent where
  | start | inPiped | piped | forked | inReadClosed | outWriteClosed | written
  | allocating | reading | closing | waiting | returned
  deriving DecidableEq, Repr

/-- Where the child of a call stands; `readingStdin` is radamsa waiting for end of file. -/
inductive Child where
  | none | forked | stdinSet | stdoutSet | inWriteClosed | outReadClosed | readingStdin
  | exited (wrote : Bool)
  deriving DecidableEq, Repr

structure State where
  parent : ℕ → Parent
  child : ℕ → Child
  held : Finset (Process × Descriptor)

def initial : State := ⟨fun _ => .start, fun _ => .none, ∅⟩

inductive Act where
  | pipeIn | pipeOut | pipeFails | fork | forkFails
  | closeInRead | closeOutWrite | write | closeInWrite | malloc (ok : Bool) | read
  | closeOutRead | waitpid
  | dupStdin | dupStdout | childCloseInWrite | childCloseOutRead | exec (ok : Bool)
  | answer (wrote : Bool)
  deriving DecidableEq, Repr

structure Event where
  call : ℕ
  act : Act
  deriving DecidableEq, Repr

/-- A reader of the pipe end opposite to `d` gets end of file. -/
def NoHolder (s : State) (d : Descriptor) : Prop := ∀ h ∈ s.held, h.2 ≠ d

instance (s : State) (d : Descriptor) : Decidable (NoHolder s d) :=
  inferInstanceAs (Decidable (∀ h ∈ s.held, h.2 ≠ d))

/-- `answer` is the assumption on radamsa: end of file first, then output and exit. `read`
    returns when the child has written or when nobody can write any more. -/
def Enabled (s : State) (i : ℕ) : Act → Prop
  | .pipeIn => s.parent i = .start
  | .pipeOut => s.parent i = .inPiped
  | .pipeFails => s.parent i = .start ∨ s.parent i = .inPiped
  | .fork | .forkFails => s.parent i = .piped
  | .closeInRead => s.parent i = .forked
  | .closeOutWrite => s.parent i = .inReadClosed
  | .write => s.parent i = .outWriteClosed
  | .closeInWrite => s.parent i = .written
  | .malloc _ => s.parent i = .allocating
  | .read => s.parent i = .reading ∧ (s.child i = .exited true ∨ NoHolder s ⟨i, .outWrite⟩)
  | .closeOutRead => s.parent i = .closing
  | .waitpid => s.parent i = .waiting ∧ (s.child i = .exited true ∨ s.child i = .exited false)
  | .dupStdin => s.child i = .forked
  | .dupStdout => s.child i = .stdinSet
  | .childCloseInWrite => s.child i = .stdoutSet
  | .childCloseOutRead => s.child i = .inWriteClosed
  | .exec _ => s.child i = .outReadClosed
  | .answer _ => s.child i = .readingStdin ∧ NoHolder s ⟨i, .inWrite⟩

instance (s : State) (i : ℕ) (a : Act) : Decidable (Enabled s i a) := by
  cases a <;> simp only [Enabled] <;> infer_instance

def setParent (s : State) (i : ℕ) (p : Parent) : State :=
  { s with parent := Function.update s.parent i p }

def setChild (s : State) (i : ℕ) (c : Child) : State :=
  { s with child := Function.update s.child i c }

def opens (s : State) (p : Process) (d : Descriptor) : State :=
  { s with held := insert (p, d) s.held }

def closes (s : State) (p : Process) (d : Descriptor) : State :=
  { s with held := s.held.erase (p, d) }

/-- The child gets every descriptor that is open in the proxy, those of other calls too. -/
def inherits (s : State) (i : ℕ) : State :=
  { s with held := s.held ∪ (s.held.filter (·.1 = .proxy)).image (fun h => (.child i, h.2)) }

def dies (s : State) (i : ℕ) : State :=
  { s with held := s.held.filter (·.1 ≠ .child i) }

def effect (s : State) (i : ℕ) : Act → State
  | .pipeIn => opens (opens (setParent s i .inPiped) .proxy ⟨i, .inRead⟩) .proxy ⟨i, .inWrite⟩
  | .pipeOut => opens (opens (setParent s i .piped) .proxy ⟨i, .outRead⟩) .proxy ⟨i, .outWrite⟩
  | .pipeFails | .forkFails => setParent s i .returned
  | .fork => inherits (setChild (setParent s i .forked) i .forked) i
  | .closeInRead => closes (setParent s i .inReadClosed) .proxy ⟨i, .inRead⟩
  | .closeOutWrite => closes (setParent s i .outWriteClosed) .proxy ⟨i, .outWrite⟩
  | .write => setParent s i .written
  | .closeInWrite => closes (setParent s i .allocating) .proxy ⟨i, .inWrite⟩
  | .malloc ok => setParent s i (if ok then .reading else .closing)
  | .read => setParent s i .closing
  | .closeOutRead => closes (setParent s i .waiting) .proxy ⟨i, .outRead⟩
  | .waitpid => setParent s i .returned
  | .dupStdin => opens (setChild s i .stdinSet) (.child i) ⟨i, .inRead⟩
  | .dupStdout => opens (setChild s i .stdoutSet) (.child i) ⟨i, .outWrite⟩
  | .childCloseInWrite => closes (setChild s i .inWriteClosed) (.child i) ⟨i, .inWrite⟩
  | .childCloseOutRead => closes (setChild s i .outReadClosed) (.child i) ⟨i, .outRead⟩
  | .exec true => setChild s i .readingStdin
  | .exec false => dies (setChild s i (.exited false)) i
  | .answer wrote => dies (setChild s i (.exited wrote)) i

def step (s : State) (e : Event) : Option State :=
  if Enabled s e.call e.act then some (effect s e.call e.act) else none

theorem step_eq_some {s u : State} {e : Event} :
    step s e = some u ↔ Enabled s e.call e.act ∧ effect s e.call e.act = u := by
  simp [step]

theorem effect_other {s : State} {f i : ℕ} (a : Act) (h : i ≠ f) :
    (effect s f a).parent i = s.parent i ∧ (effect s f a).child i = s.child i := by
  cases a with
  | exec ok => cases ok <;> simp [effect, dies, setChild, h]
  | _ => simp [effect, opens, closes, dies, inherits, setChild, setParent, h]

/-- Calls whose child reads its stdin while they are blocked in `read`, with the write end
    of every such stdin held open by their own children and by nobody else. -/
def Deadlocked (s : State) (S : Finset ℕ) : Prop :=
  S.Nonempty ∧ ∀ i ∈ S, s.parent i = .reading ∧ s.child i = .readingStdin ∧
    ¬ NoHolder s ⟨i, .inWrite⟩ ∧
    ∀ h ∈ s.held, h.2 = ⟨i, .inWrite⟩ → ∃ j ∈ S, h.1 = .child j

instance (s : State) (S : Finset ℕ) : Decidable (Deadlocked s S) :=
  inferInstanceAs (Decidable (S.Nonempty ∧ ∀ i ∈ S, _ ∧ _ ∧ _ ∧ ∀ h ∈ s.held, _ → ∃ j ∈ S, _))

end Cezfuzzer.RadamsaPipes
