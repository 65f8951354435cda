import Mathlib.Tactic

/-!
# Runs of a system that takes inputs

A system is a function from a state and an input to the next state.  Its run over a
list of inputs is a fold, and a condition holds along a run when it holds of each input
at the state in which it is taken.
-/

namespace Covalent.Trace

variable {S I : Type*} {after : S → I → S} {condition : S → I → Prop}

/-- A condition holds of every input of a run, at the state in which it is taken. -/
def Along (after : S → I → S) (condition : S → I → Prop) : S → List I → Prop
  | _, [] => True
  | state, input :: rest => condition state input ∧ Along after condition (after state input) rest

instance Along.decidable [∀ state input, Decidable (condition state input)] :
    (state : S) → (inputs : List I) → Decidable (Along after condition state inputs)
  | _, [] => inferInstanceAs (Decidable True)
  | state, input :: rest =>
    have : Decidable (Along after condition (after state input) rest) :=
      Along.decidable (after state input) rest
    inferInstanceAs (Decidable (condition state input ∧
      Along after condition (after state input) rest))

/-- What every step of a run keeps, the run keeps. -/
theorem Along.induction {property : S → Prop}
    (kept : ∀ state input, condition state input → property state → property (after state input))
    {state : S} {inputs : List I} (along : Along after condition state inputs)
    (start : property state) : property (inputs.foldl after state) := by
  induction inputs generalizing state with
  | nil => exact start
  | cons input rest ih =>
    exact ih along.2 (kept state input along.1 start)

/-- A condition along a run that goes on after another. -/
theorem along_append {state : S} {one two : List I} : Along after condition state (one ++ two) ↔
      Along after condition state one ∧ Along after condition (one.foldl after state) two := by
  induction one generalizing state with
  | nil => exact ⟨fun along => ⟨trivial, along⟩, And.right⟩
  | cons input rest ih =>
    simp only [List.cons_append, Along, List.foldl_cons, ih, and_assoc]

end Covalent.Trace
