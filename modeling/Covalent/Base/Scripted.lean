import Covalent.Base.Effect

/-!
# Programs that follow a script of faults

A program calls its surroundings, and a script says which fault each call meets, if any.
A triple says what a program establishes for every script of the faults that are allowed.

## Design notes

**With or without faults.**  A program whose early ends all have an allowed fault as their
reason returns when no fault is allowed, which is how recovery is shown to succeed.
-/

namespace Covalent.Scripted

/-! ## Programs -/

/-- How a program ends early. -/
inductive Stop (ε : Type) where
  | failed (error : ε)
  | crashed
deriving DecidableEq

/-- What a program works on and what happens to its next calls. -/
structure Session (φ σ : Type) where
  state : σ
  script : List (Option φ)

abbrev Io (φ σ ε α : Type) := EStateM (Stop ε) (Session φ σ) α

variable {φ σ ε ε' α β : Type}

section

variable (allowed : φ → Prop) (program : Io φ σ ε α) (state : σ) (post : α → σ → Prop)

/-- Run a program and hand its failure, but not a crash, to the caller. -/
def attempt : Io φ σ ε' (Except ε α) := fun session =>
  match program session with
  | .ok value after => .ok (.ok value) after
  | .error (.failed error) after => .ok (.error error) after
  | .error .crashed after => .error .crashed after

/-! ## Rules -/

/-- Whether every fault of a script is allowed. -/
def Within (script : List (Option φ)) : Prop :=
  ∀ fault, some fault ∈ script → allowed fault

/-- A program leaves `post` when it returns and `stopped` otherwise, for every script of
allowed faults, and an end of the script. -/
def Triple (stopped : Stop ε → σ → Prop) : Prop :=
  ∀ script, Within allowed script → Effect.Ensures program ⟨state, script⟩
      (fun value session => post value session.state ∧ session.script <:+ script)
      (fun reason session => stopped reason session.state ∧ session.script <:+ script)

end

variable {allowed : φ → Prop} {script : List (Option φ)} {program : Io φ σ ε α} {state : σ}
  {post : α → σ → Prop} {stopped : Stop ε → σ → Prop}

/-- The fault that the next call meets is allowed. -/
theorem Within.head (within : Within allowed script) {fault : φ}
    (headed : script.head?.join = some fault) : allowed fault := by
  refine within fault (List.mem_of_mem_head? ?_)
  exact Option.join_eq_some_iff.mp headed

theorem triple_bind {next : α → Io φ σ ε β} {post : β → σ → Prop}
    (holds : Triple allowed program state
      (fun value after => Triple allowed (next value) after post stopped) stopped) :
    Triple allowed (program >>= next) state post stopped := by
  intro script within
  refine Effect.ensures_bind ((holds script within).imp ?_ fun _ _ ended => ended)
  intro value session ⟨continues, left⟩
  refine (continues session.script fun fault member => within fault (left.subset member)).imp ?_ ?_
  · exact fun _ _ ⟨holds, rest⟩ => ⟨holds, rest.trans left⟩
  · exact fun _ _ ⟨holds, rest⟩ => ⟨holds, rest.trans left⟩

theorem triple_pure {value : α} (holds : post value state) :
    Triple allowed (pure value : Io φ σ ε α) state post stopped :=
  fun script _ => Effect.ensures_pure ⟨holds, script.suffix_refl⟩

theorem triple_throw {reason : Stop ε} (holds : stopped reason state) :
    Triple allowed (throw reason : Io φ σ ε α) state post stopped :=
  fun script _ => Effect.ensures_throw ⟨holds, script.suffix_refl⟩

/-- A failure that is handed to the caller is one of the ways to return. -/
theorem triple_attempt {program : Io φ σ ε' α} {post : Except ε' α → σ → Prop}
    (holds : Triple allowed program state (fun value after => post (.ok value) after)
      (fun reason after => match reason with
        | .failed error => post (.error error) after
        | .crashed => stopped .crashed after)) :
    Triple allowed (attempt program : Io φ σ ε (Except ε' α)) state post stopped := by
  intro script within
  have both := holds script within
  unfold Effect.Ensures at both ⊢
  unfold attempt
  cases ran : program ⟨state, script⟩ with
  | ok value session =>
    rw [ran] at both
    exact both
  | error reason session =>
    rw [ran] at both
    cases reason with
    | failed error => exact both
    | crashed => exact both

theorem Triple.imp {weaker : α → σ → Prop} {weakerStopped : Stop ε → σ → Prop}
    (strong : Triple allowed program state post stopped)
    (fine : ∀ value after, post value after → weaker value after)
    (problematic : ∀ reason after, stopped reason after → weakerStopped reason after) :
    Triple allowed program state weaker weakerStopped := by
  intro script within
  refine (strong script within).imp ?_ ?_
  · exact fun value session ⟨holds, left⟩ => ⟨fine value _ holds, left⟩
  · exact fun reason session ⟨holds, left⟩ => ⟨problematic reason _ holds, left⟩

theorem Triple.mono {weaker : α → σ → Prop} (strong : Triple allowed program state post stopped)
    (fine : ∀ value after, post value after → weaker value after) :
    Triple allowed program state weaker stopped :=
  strong.imp fine fun _ _ ended => ended

/-- What a program establishes is where the rest starts. -/
theorem Triple.andThen {rest : α → Io φ σ ε β} {goal : β → σ → Prop}
    (strong : Triple allowed program state post stopped)
    (goesOn : ∀ value after, post value after → Triple allowed (rest value) after goal stopped) :
    Triple allowed (program >>= rest) state goal stopped :=
  triple_bind (strong.mono goesOn)

/-- What a triple says of one run with faults. -/
theorem Triple.ensures (holds : Triple allowed program state post stopped)
    (within : Within allowed script) :
    Effect.Ensures program ⟨state, script⟩ (fun value session => post value session.state)
      (fun reason session => stopped reason session.state) :=
  (holds script within).imp (fun _ _ both => both.1) fun _ _ both => both.1

end Covalent.Scripted
