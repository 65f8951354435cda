import Covalent.Base.Result

/-!
# Stateful computations that can fail

A computation over `EStateM` changes a state and may leave with an error, in
which case the changes made so far stay.  `Ensures action state post failed`
says what one run of `action` from `state` establishes on either way out; the
rules below follow the computation forwards, one step at a time.
-/

namespace Covalent.Effect

variable {ε σ α β : Type}

/-- A run from `state` ends well with `post`, or fails with `failed`.  It is not
unfolded by unification, which would run the computation. -/
@[irreducible]
def Ensures (action : EStateM ε σ α) (state : σ) (post : α → σ → Prop)
    (failed : ε → σ → Prop) : Prop :=
  match action state with
  | .ok value after => post value after
  | .error problem after => failed problem after

/-- Use the result of a pure computation. -/
def lift (result : Except ε α) : EStateM ε σ α := fun state =>
  match result with
  | .ok value => .ok value state
  | .error problem => .error problem state

/-- Run a computation and hand its failure to the caller as a value. -/
def attempt (action : EStateM ε σ α) : EStateM ε σ (Except ε α) := fun state =>
  match action state with
  | .ok value after => .ok (.ok value) after
  | .error problem after => .ok (.error problem) after

variable {action : EStateM ε σ α} {next : α → EStateM ε σ β} {state : σ} {failed : ε → σ → Prop}

theorem ensures_bind {post : β → σ → Prop} (first : Ensures action state
      (fun value after => Ensures (next value) after post failed) failed) :
    Ensures (action >>= next) state post failed := by
  unfold Ensures at first ⊢
  show (match EStateM.bind action next state with
    | .ok value after => post value after
    | .error problem after => failed problem after)
  unfold EStateM.bind
  cases ran : action state with
  | ok value after =>
    rw [ran] at first
    exact first
  | error problem after =>
    rw [ran] at first
    exact first

variable {post : α → σ → Prop} {value : α} {problem : ε} {left : σ}

theorem ensures_pure (holds : post value state) :
    Ensures (pure value : EStateM ε σ α) state post failed := by
  unfold Ensures
  exact holds

theorem ensures_throw (holds : failed problem state) :
    Ensures (throw problem : EStateM ε σ α) state post failed := by
  unfold Ensures
  exact holds

theorem ensures_get {post : σ → σ → Prop} (holds : post state state) :
    Ensures (get : EStateM ε σ σ) state post failed := by
  unfold Ensures
  exact holds

theorem ensures_modify {post : PUnit → σ → Prop} {change : σ → σ} (holds : post ⟨⟩ (change state)) :
    Ensures (modify change : EStateM ε σ PUnit) state post failed := by
  unfold Ensures
  exact holds

theorem ensures_lift {result : Except ε α} (fine : ∀ value, result = .ok value → post value state)
    (problematic : ∀ problem, result = .error problem → failed problem state) :
    Ensures (lift result) state post failed := by
  unfold Ensures
  cases result with
  | ok value => exact fine value rfl
  | error problem => exact problematic problem rfl

theorem ensures_refuse {post : Unit → σ → Prop} {condition : Bool} {error : ε}
    (fine : condition = false → post () state)
    (problematic : condition = true → failed error state) :
    Ensures (lift (refuse condition error)) state post failed := by
  unfold Ensures
  cases condition with
  | false => exact fine rfl
  | true => exact problematic rfl

theorem ensures_attempt {post : Except ε α → σ → Prop}
    (both : Ensures action state (fun value after => post (.ok value) after)
      (fun problem after => post (.error problem) after)) :
    Ensures (attempt action) state post failed := by
  unfold Ensures attempt
  unfold Ensures at both
  cases ran : action state with
  | ok value after =>
    rw [ran] at both
    exact both
  | error problem after =>
    rw [ran] at both
    exact both

theorem Ensures.imp {weaker : α → σ → Prop} {weakerFailed : ε → σ → Prop}
    (strong : Ensures action state post failed)
    (fine : ∀ value after, post value after → weaker value after)
    (problematic : ∀ problem after, failed problem after → weakerFailed problem after) :
    Ensures action state weaker weakerFailed := by
  unfold Ensures at strong ⊢
  cases ran : action state with
  | ok value after =>
    rw [ran] at strong
    exact fine value after strong
  | error problem after =>
    rw [ran] at strong
    exact problematic problem after strong

theorem ensures_set {post : PUnit → σ → Prop} {value : σ} (holds : post ⟨⟩ value) :
    Ensures (set value : EStateM ε σ PUnit) state post failed := by
  unfold Ensures
  exact holds

/-- The state a computation leaves, however it ends. -/
def after (action : EStateM ε σ α) (state : σ) : σ :=
  match action state with
  | .ok _ left => left
  | .error _ left => left

/-- The error that a run of a computation ends with, if it ends with one. -/
def problem? (action : EStateM ε σ α) (state : σ) : Option ε :=
  match action state with
  | .ok _ _ => none
  | .error problem _ => some problem

/-- What is ensured on either way out relates the error and the state that are left. -/
theorem result_of_ensures (property : Option ε → σ → Prop)
    (both : Ensures action state (fun _ => property none) fun problem => property (some problem)) :
    property (problem? action state) (after action state) := by
  unfold Ensures at both
  unfold problem? after
  cases ran : action state with
  | ok value left =>
    rw [ran] at both
    exact both
  | error problem left =>
    rw [ran] at both
    exact both

theorem after_of_ensures (property : σ → Prop)
    (both : Ensures action state (fun _ left => property left) (fun _ left => property left)) :
    property (after action state) :=
  result_of_ensures (fun _ => property) both

/-- What a run that ended well returned and left. -/
theorem Ensures.of_ok
    (ensured : Ensures action state post failed) (ran : action state = .ok value left) :
    post value left := by
  unfold Ensures at ensured
  rw [ran] at ensured
  exact ensured

/-- Why a run failed and what it left. -/
theorem Ensures.of_error
    (ensured : Ensures action state post failed) (ran : action state = .error problem left) :
    failed problem left := by
  unfold Ensures at ensured
  rw [ran] at ensured
  exact ensured

/-- What follows from a run that ended well, whatever it returned and left. -/
theorem fact_of_ok {fact : Prop} (ran : action state = .ok value left)
    (ensured : Ensures action state (fun _ _ => fact) (fun _ _ => True)) : fact :=
  ensured.of_ok ran

end Covalent.Effect
