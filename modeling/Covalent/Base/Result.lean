import Mathlib.Logic.Basic
import Mathlib.Tactic

/-!
# Fallible computations

Small vocabulary for functions that return `Except` and leave early.  A guard is
`refuse condition error`; the lemmas below turn a successful run of a sequence of
guards and calls into the conjunction of what each of them established, so that
no proof has to unfold a `do` block by hand.
-/

universe u v

section

variable {ε : Type u} {α β : Type v} {first : Except ε α} {result : α}

/-- A sequence succeeds exactly when its parts succeed one after the other. -/
@[simp]
theorem bind_eq_ok {next : α → Except ε β} {result : β} :
    (first >>= next) = .ok result ↔ ∃ value, first = .ok value ∧ next value = .ok result := by
  cases first with
  | error problem => simp [bind, Except.bind]
  | ok value => simp [bind, Except.bind]

@[simp]
theorem pure_eq_ok {value : α} : (pure value : Except ε α) = .ok result ↔ value = result := by
  simp [pure, Except.pure]

namespace Except

@[simp]
theorem map_eq_ok {change : α → β} {result : β} :
    (change <$> first) = .ok result ↔ ∃ value, first = .ok value ∧ change value = result := by
  cases first with
  | error problem => simp [Functor.map, Except.map]
  | ok value => simp [Functor.map, Except.map]

@[simp]
theorem throw_ne_ok {problem : ε} : (throw problem : Except ε α) ≠ .ok result := by
  simp [throw, throwThe, MonadExceptOf.throw]

/-- A call whose error is replaced succeeds exactly when it did. -/
@[simp]
theorem mapError_eq_ok {ε' : Type u} {change : ε → ε'} :
    first.mapError change = .ok result ↔ first = .ok result := by
  cases first <;> simp [Except.mapError]

/-- Calls one after the other succeed exactly when each of them does. -/
theorem mapM_eq_ok {call : α → Except ε β} {items : List α} {results : List β} :
    items.mapM call = .ok results ↔ items.map call = results.map .ok := by
  induction items generalizing results with
  | nil => cases results <;> simp
  | cons item rest ih => cases results <;> simp [List.mapM_cons, ih]

theorem exists_mapM_eq_ok {call : α → Except ε β} {items : List α} :
    (∃ results, items.mapM call = .ok results) ↔
      ∀ item ∈ items, ∃ result, call item = .ok result := by
  induction items with
  | nil => simp
  | cons item rest ih =>
    rw [List.forall_mem_cons, ← ih]
    simp [List.mapM_cons]

end Except

end

/-- A check has only one way to succeed. -/
theorem exists_unit {property : Unit → Prop} : (∃ done, property done) ↔ property () :=
  ⟨fun ⟨_, holds⟩ => holds, fun holds => ⟨(), holds⟩⟩

/-- Leave with an error when a condition holds. -/
def refuse {ε : Type*} (condition : Bool) (error : ε) : Except ε Unit :=
  if condition then .error error else .ok ()

variable {ε α : Type*} {error : ε} {done : Unit} {check : List α → α → Except ε Unit}
  {items : List α}

@[simp]
theorem refuse_eq_ok {condition : Bool} :
    refuse condition error = .ok done ↔ condition = false := by
  cases condition <;> simp [refuse]

/-- The value of an option, or an error when there is none. -/
def okOr {ε α : Type*} (value : Option α) (error : ε) : Except ε α :=
  match value with
  | some found => .ok found
  | none => .error error

@[simp]
theorem okOr_eq_ok {value : Option α} {found : α} :
    okOr value error = .ok found ↔ value = some found := by
  cases value <;> simp [okOr]

/-! ## Loops that only check -/

/-- Check the items of a list in order and leave at the first refusal. -/
def checkEach {ε α : Type*} (check : α → Except ε Unit) : List α → Except ε Unit
  | [] => .ok ()
  | item :: rest =>
    match check item with
    | .error problem => .error problem
    | .ok () => checkEach check rest

@[simp]
theorem checkEach_eq_ok {check : α → Except ε Unit} :
    checkEach check items = .ok done ↔ ∀ item ∈ items, check item = .ok () := by
  induction items with
  | nil => simp [checkEach]
  | cons item rest ih =>
    cases checked : check item with
    | error problem => simp [checkEach, checked]
    | ok value => simp [checkEach, checked, ih]

/-- Check the items of a list in order, each against the items already passed,
and leave at the first refusal.  The sets and maps such a loop fills are
functions of the passed items. -/
def checkInOrder {ε α : Type*} (check : List α → α → Except ε Unit) (passed : List α) :
    List α → Except ε Unit
  | [] => .ok ()
  | item :: rest =>
    match check passed item with
    | .error problem => .error problem
    | .ok () => checkInOrder check (passed ++ [item]) rest

/-- When a check compares an item with each passed one, a loop that succeeds found every
item fine by itself and every two items in agreement. -/
theorem checkInOrder_imp {fine : α → Prop} {agree : α → α → Prop} (spec : ∀ passed item,
      check passed item = .ok () → fine item ∧ ∀ earlier ∈ passed, agree earlier item)
    {passed items : List α} (succeeds : checkInOrder check passed items = .ok done) :
    (∀ item ∈ items, fine item) ∧ (∀ earlier ∈ passed, ∀ item ∈ items, agree earlier item) ∧
      items.Pairwise agree := by
  induction items generalizing passed with
  | nil => simp
  | cons item rest ih =>
    rw [checkInOrder] at succeeds
    cases checked : check passed item with
    | error problem => simp [checked] at succeeds
    | ok value =>
      rw [checked] at succeeds
      obtain ⟨itemFine, agreed⟩ := spec passed item checked
      obtain ⟨restFine, across, pairs⟩ := ih succeeds
      refine ⟨List.forall_mem_cons.mpr ⟨itemFine, restFine⟩, fun earlier member => ?_,
        List.pairwise_cons.mpr ⟨fun other later => ?_, pairs⟩⟩
      · exact List.forall_mem_cons.mpr ⟨agreed earlier member,
          across earlier (List.mem_append_left _ member)⟩
      · exact across item (by simp) other later

/-- Where the check says exactly that, so does the loop. -/
theorem checkInOrder_eq_ok {fine : α → Prop} {agree : α → α → Prop} (spec : ∀ passed item,
      check passed item = .ok () ↔ fine item ∧ ∀ earlier ∈ passed, agree earlier item)
    (passed items : List α) :
    checkInOrder check passed items = .ok done ↔
      (∀ item ∈ items, fine item) ∧ (∀ earlier ∈ passed, ∀ item ∈ items, agree earlier item) ∧
        items.Pairwise agree := by
  refine ⟨checkInOrder_imp fun passed item => (spec passed item).mp, ?_⟩
  induction items generalizing passed with
  | nil => simp [checkInOrder]
  | cons item rest ih =>
    rintro ⟨fine, across, pairs⟩
    obtain ⟨itemFine, restFine⟩ := List.forall_mem_cons.mp fine
    obtain ⟨first, pairs⟩ := List.pairwise_cons.mp pairs
    have checked := (spec passed item).mpr
      ⟨itemFine, fun earlier member => across earlier member item List.mem_cons_self⟩
    rw [checkInOrder, checked]
    refine ih (passed ++ [item]) ⟨restFine, fun earlier member other later => ?_, pairs⟩
    rcases List.mem_append.mp member with before | same
    · exact across earlier before other (List.mem_cons_of_mem _ later)
    · rw [List.mem_singleton.mp same]
      exact first other later

/-- The loop as a whole starts with nothing passed. -/
theorem checkInOrder_nil_eq_ok {ε α : Type*} {check : List α → α → Except ε Unit}
    {fine : α → Prop} {agree : α → α → Prop}
    (spec : ∀ passed item,
      check passed item = .ok () ↔ fine item ∧ ∀ earlier ∈ passed, agree earlier item)
    {items : List α} {done : Unit} :
    checkInOrder check [] items = .ok done ↔
      (∀ item ∈ items, fine item) ∧ items.Pairwise agree := by
  rw [checkInOrder_eq_ok spec]
  simp

/-- A loop that succeeds found every item fine. -/
theorem checkInOrder_forall {fine : α → Prop} {passed : List α}
    (succeeds : checkInOrder check passed items = .ok done)
    (spec : ∀ passed item, check passed item = .ok () → fine item) : ∀ item ∈ items, fine item :=
  (@checkInOrder_imp _ _ _ _ fine (fun _ _ => True)
    (fun passed item checked => ⟨spec passed item checked, fun _ _ => trivial⟩) _ _ succeeds).1
