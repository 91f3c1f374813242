import Cezfuzzer.FuzzerVariants

set_option autoImplicit false

/-!
# When fuzzing ends

The copying loops advance by the length of their source. With an empty input and no answer
of radamsa there is nothing to copy, and the fallback of `runRadamsaExpanded` never ends.
-/
namespace Cezfuzzer.FuzzerTermination
open LengthPrefix FuzzerCore FuzzerVariants

/-- The call comes back after finitely many tests of each loop's condition. -/
def Ends (f : ℕ → Option Buffer) : Prop := ∃ rounds b, f rounds = some b

theorem runRadamsaExpanded_ends_iff (call : FuzzCall) (input : Bytes) :
    Ends (fun rounds => runRadamsaExpanded rounds call input) ↔ Fills call input := by
  constructor
  · rintro ⟨rounds, b, h⟩
    by_contra stuck
    cases (runRadamsaExpanded_stuck stuck rounds).symm.trans h
  · intro fills
    exact ⟨minOutputSize + 1, runRadamsaExpanded_fills fills (Nat.lt_succ_self _)⟩

theorem joinedFuzzing_ends_iff (join : Bytes → Bytes → Bytes) (call : FuzzCall) (input : Bytes) :
    Ends (fun rounds => joinedFuzzing join rounds call input) ↔ Fills call input := by
  constructor
  · rintro ⟨rounds, b, h⟩
    obtain ⟨fuzz, hfuzz, -⟩ := Option.bind_eq_some_iff.mp h
    exact (runRadamsaExpanded_ends_iff call input).mp ⟨rounds, fuzz, hfuzz⟩
  · intro fills
    exact ⟨minOutputSize + 1, joinedFuzzing_fills join fills (Nat.lt_succ_self _)⟩

theorem fullFuzzing_ends_iff (call : FullCall) (input : Bytes) :
    Ends (fun rounds => fullFuzzing rounds call input) ↔
      Fills call.first input ∧ Fills call.second input := by
  constructor
  · rintro ⟨rounds, b, h⟩
    obtain ⟨fuzz1, h1, h⟩ := Option.bind_eq_some_iff.mp h
    obtain ⟨fuzz2, h2, -⟩ := Option.bind_eq_some_iff.mp h
    exact ⟨(runRadamsaExpanded_ends_iff call.first input).mp ⟨rounds, fuzz1, h1⟩,
      (runRadamsaExpanded_ends_iff call.second input).mp ⟨rounds, fuzz2, h2⟩⟩
  · rintro ⟨fills1, fills2⟩
    exact ⟨minOutputSize + 1, fullFuzzing_fills fills1 fills2 (Nat.lt_succ_self _)⟩

/-- All four functions end on exactly the inputs that leave something to copy. -/
theorem fuzzing_ends_iff (call : FuzzCall) (full : FullCall) (input : Bytes) :
    (Ends (fun rounds => runRadamsaExpanded rounds call input) ↔ Fills call input) ∧
    (Ends (fun rounds => postFuzzing rounds call input) ↔ Fills call input) ∧
    (Ends (fun rounds => preFuzzing rounds call input) ↔ Fills call input) ∧
    (Ends (fun rounds => fullFuzzing rounds full input) ↔
      Fills full.first input ∧ Fills full.second input) :=
  ⟨runRadamsaExpanded_ends_iff call input, joinedFuzzing_ends_iff _ call input,
    joinedFuzzing_ends_iff _ call input, fullFuzzing_ends_iff full input⟩

theorem echo_stuck : ¬ Fills echo [] := by
  simp [Fills, Delivers, answer, RadamsaCall.read, echo]

/-- The peer has closed its connection, and radamsa gives nothing back for nothing. -/
theorem emptyInput_never_ends :
    ¬ Ends (fun rounds => runRadamsaExpanded rounds echo []) ∧
    ¬ Ends (fun rounds => postFuzzing rounds echo []) ∧
    ¬ Ends (fun rounds => preFuzzing rounds echo []) ∧
    ¬ Ends (fun rounds => fullFuzzing rounds ⟨echo, echo⟩ []) :=
  ⟨mt (runRadamsaExpanded_ends_iff _ _).mp echo_stuck,
    mt (joinedFuzzing_ends_iff _ _ _).mp echo_stuck,
    mt (joinedFuzzing_ends_iff _ _ _).mp echo_stuck,
    fun ends => echo_stuck ((fullFuzzing_ends_iff _ _).mp ends).1⟩

end Cezfuzzer.FuzzerTermination
