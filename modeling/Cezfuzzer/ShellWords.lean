import Mathlib.Data.List.Basic
import Mathlib.Data.String.Basic

set_option autoImplicit false

/-!
# Words of the shell

How `sh` takes a command apart, as far as words, quotes and redirections of the output go. What
belongs to another part of its grammar has no result here. `quote` makes a word of any text.
-/
namespace Cezfuzzer.ShellWords

inductive Token where
  | word (text : List Char)
  /-- The digits right before a `>`. -/
  | ioNumber (text : List Char)
  | great
  /-- The `&` right behind a `>`. -/
  | amp
  deriving DecidableEq, Repr

/-- Where in a command the next character stands. -/
inductive Mode where
  | blank (behindGreat : Bool)
  | word (text : List Char) (digits : Bool)
  | single (text : List Char)
  | double (text : List Char)
  deriving DecidableEq, Repr

def isBlank (c : Char) : Bool := c = ' ' ∨ c = '\t'

/-- The characters that `shlex.quote` leaves alone. -/
def isSafe (c : Char) : Bool := c.isAlphanum || "_@%+=:,.-/".toList.contains c

/-- What keeps its meaning between double quotes. -/
def isActive (c : Char) : Bool := "$\\".toList.contains c || c = Char.ofNat 96

def lex : Mode → List Char → Option (List Token)
  | .blank _, [] => some []
  | .word text _, [] => some [.word text]
  | .single _, [] => none
  | .double _, [] => none
  | .blank behindGreat, c :: cs =>
    if isBlank c then lex (.blank false) cs
    else if c = '\'' then lex (.single []) cs
    else if c = '"' then lex (.double []) cs
    else if isSafe c then lex (.word [c] c.isDigit) cs
    else if c = '>' ∧ behindGreat = false then (lex (.blank true) cs).map (.great :: ·)
    else if c = '&' ∧ behindGreat = true then (lex (.blank false) cs).map (.amp :: ·)
    else none
  | .word text digits, c :: cs =>
    if isBlank c then (lex (.blank false) cs).map (.word text :: ·)
    else if c = '\'' then lex (.single text) cs
    else if c = '"' then lex (.double text) cs
    else if isSafe c then lex (.word (text ++ [c]) (digits && c.isDigit)) cs
    else if c = '>' then (lex (.blank true) cs).map
      ((if digits then .ioNumber text else .word text) :: .great :: ·)
    else none
  | .single text, c :: cs =>
    if c = '\'' then lex (.word text false) cs else lex (.single (text ++ [c])) cs
  | .double text, c :: cs =>
    if c = '"' then lex (.word text false) cs
    else if isActive c then none
    else lex (.double (text ++ [c])) cs

inductive Target where
  | file (path : List Char)
  | descriptor (number : List Char)
  deriving DecidableEq, Repr

structure Redirection where
  descriptor : List Char
  target : Target
  deriving DecidableEq, Repr

structure SimpleCommand where
  argv : List (List Char)
  redirections : List Redirection
  deriving DecidableEq, Repr

def SimpleCommand.word (text : List Char) (c : SimpleCommand) : SimpleCommand :=
  { c with argv := text :: c.argv }

def SimpleCommand.redirect (descriptor : List Char) (target : Target) (c : SimpleCommand) :
    SimpleCommand := { c with redirections := ⟨descriptor, target⟩ :: c.redirections }

/-- Without a number it is the standard output that is redirected. -/
def simpleCommand : List Token → Option SimpleCommand
  | [] => some ⟨[], []⟩
  | .word text :: ts => (simpleCommand ts).map (·.word text)
  | .great :: .amp :: .word number :: ts =>
    (simpleCommand ts).map (·.redirect ['1'] (.descriptor number))
  | .great :: .word path :: ts => (simpleCommand ts).map (·.redirect ['1'] (.file path))
  | .ioNumber n :: .great :: .amp :: .word number :: ts =>
    (simpleCommand ts).map (·.redirect n (.descriptor number))
  | .ioNumber n :: .great :: .word path :: ts =>
    (simpleCommand ts).map (·.redirect n (.file path))
  | _ => none

/-- A first word that begins with a slash is the path of a program: it is no keyword, no
    assignment and no builtin. -/
def parse (text : List Char) : Option SimpleCommand :=
  match (lex (.blank false) text).bind simpleCommand with
  | some ⟨('/' :: path) :: args, redirections⟩ =>
    some ⟨('/' :: path) :: args, redirections⟩
  | _ => none

/-- Where the output to a descriptor goes, when the redirections are made from left to right. -/
def resolve (opened : List Char → List Char) : List Redirection → List Char → List Char
  | [] => opened
  | ⟨d, .file path⟩ :: rs => resolve (Function.update opened d path) rs
  | ⟨d, .descriptor d'⟩ :: rs => resolve (Function.update opened d (opened d')) rs

def quote (text : List Char) : List Char :=
  if text = [] then ['\'', '\'']
  else if text.all isSafe then text
  else '\'' :: text.flatMap (fun c => if c = '\'' then "'\"'\"'".toList else [c]) ++ ['\'']

theorem isSafe_ne {c : Char} (safe : isSafe c = true) :
    isBlank c = false ∧ c ≠ '\'' ∧ c ≠ '"' := by
  refine ⟨?_, ?_, ?_⟩
  · by_contra blank
    simp only [isBlank, Bool.not_eq_false, decide_eq_true_eq] at blank
    rcases blank with rfl | rfl
    · exact absurd safe (by decide)
    · exact absurd safe (by decide)
  · rintro rfl
    exact absurd safe (by decide)
  · rintro rfl
    exact absurd safe (by decide)

theorem lex_safe {s : List Char} (safe : s.all isSafe = true) (text : List Char) (digits : Bool)
    (rest : List Char) : ∃ digits', lex (.word text digits) (s ++ rest) =
      lex (.word (text ++ s) digits') rest := by
  induction s generalizing text digits with
  | nil => exact ⟨digits, by rw [List.append_nil, List.nil_append]⟩
  | cons c s ih =>
    rw [List.all_cons, Bool.and_eq_true] at safe
    obtain ⟨blank, single, double⟩ := isSafe_ne safe.1
    obtain ⟨digits', h⟩ := ih safe.2 (text ++ [c]) (digits && c.isDigit)
    refine ⟨digits', ?_⟩
    rw [List.append_assoc] at h
    simp only [List.cons_append, lex, blank, single, double, safe.1, if_true, if_false,
      Bool.false_eq_true, h, List.nil_append]

/-- A quote ends the quoted part, and comes back as a part between double quotes. -/
theorem lex_quoted (s text rest : List Char) :
    lex (.single text) (s.flatMap (fun c => if c = '\'' then "'\"'\"'".toList else [c]) ++
      '\'' :: rest) = lex (.word (text ++ s) false) rest := by
  induction s generalizing text with
  | nil => simp [lex]
  | cons c s ih =>
    have step := ih (text ++ [c])
    rw [List.append_assoc, List.singleton_append] at step
    rw [← step, List.flatMap_cons, List.append_assoc]
    by_cases h : c = '\''
    · subst h
      rfl
    · rw [if_neg h]
      simp only [List.cons_append, List.nil_append, lex, if_neg h]

theorem lex_quote (s rest : List Char) :
    lex (.blank false) (quote s ++ ' ' :: rest) =
      (lex (.blank false) rest).map (.word s :: ·) := by
  have ends : ∀ text digits, lex (.word text digits) (' ' :: rest) =
      (lex (.blank false) rest).map (.word text :: ·) := by
    intro text digits
    rw [lex, if_pos (by decide)]
  unfold quote
  by_cases empty : s = []
  · subst empty
    rw [if_pos rfl]
    exact ends [] false
  · rw [if_neg empty]
    by_cases safe : s.all isSafe = true
    · rw [if_pos safe]
      obtain ⟨c, s, rfl⟩ := List.exists_cons_of_ne_nil empty
      rw [List.all_cons, Bool.and_eq_true] at safe
      obtain ⟨blank, single, double⟩ := isSafe_ne safe.1
      obtain ⟨digits, h⟩ := lex_safe safe.2 [c] c.isDigit (' ' :: rest)
      rw [← List.singleton_append (l := s), ← ends ([c] ++ s) digits, ← h]
      simp only [List.cons_append, List.nil_append, lex, blank, single, double, safe.1, if_true,
        if_false, Bool.false_eq_true]
    · rw [if_neg safe, List.cons_append, List.cons_append, List.append_assoc]
      have opened : ∀ cs, lex (.blank false) ('\'' :: cs) = lex (.single []) cs := fun cs => rfl
      rw [opened, List.singleton_append, lex_quoted, ends, List.nil_append]

theorem lex_words (args : List (List Char)) (rest : List Char) :
    lex (.blank false) (args.flatMap (fun s => quote s ++ [' ']) ++ rest) =
      (lex (.blank false) rest).map (args.map .word ++ ·) := by
  induction args with
  | nil => simp
  | cons s args ih =>
    rw [List.flatMap_cons, List.append_assoc, List.append_assoc, List.singleton_append, lex_quote,
      ih, Option.map_map]
    rfl

theorem simpleCommand_words (args : List (List Char)) (ts : List Token) :
    simpleCommand (args.map .word ++ ts) =
      (simpleCommand ts).map (fun c => ⟨args ++ c.argv, c.redirections⟩) := by
  induction args with
  | nil => simp
  | cons s args ih =>
    rw [List.map_cons, List.cons_append, simpleCommand, ih, Option.map_map]
    rfl

/-- Quoted arguments behind the path of a program come back as they were. -/
theorem parse_quoted {args : List (List Char)} (path : List Char)
    (first : args.head? = some ('/' :: path)) {rest : List Char} {rs : List Redirection}
    (redirections : (lex (.blank false) rest).bind simpleCommand = some ⟨[], rs⟩) :
    parse (args.flatMap (fun s => quote s ++ [' ']) ++ rest) = some ⟨args, rs⟩ := by
  obtain ⟨ts, tokens, commands⟩ := Option.bind_eq_some_iff.mp redirections
  obtain ⟨args, rfl⟩ := List.head?_eq_some_iff.mp first
  unfold parse
  rw [lex_words, tokens, Option.map_some, Option.bind_some, simpleCommand_words, commands,
    Option.map_some]
  simp only [List.append_nil]

/-- Words that are joined by blanks, and one blank more. -/
theorem joined_words {words : List (List Char)} (some_word : words ≠ []) (rest : List Char) :
    [' '].intercalate words ++ ' ' :: rest = words.flatMap (fun w => w ++ [' ']) ++ rest := by
  induction words with
  | nil => exact absurd rfl some_word
  | cons w words ih =>
    cases words with
    | nil => simp
    | cons w' words =>
      have tail := ih (List.cons_ne_nil _ _)
      rw [List.intercalate_cons_cons, List.flatMap_cons, List.append_assoc, List.append_assoc,
        List.append_assoc, tail, List.append_assoc]

end Cezfuzzer.ShellWords
