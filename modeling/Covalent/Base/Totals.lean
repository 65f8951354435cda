import Covalent.Base.BTreeMap

/-!
# Sums over ordered maps

The sum of a weight over the bindings of a map, and how it changes when one binding
changes.  Two maps can be summed over in either order, and a sum over one map of what
belongs to each of its bindings in another is the sum of what belongs to any.
-/

namespace Covalent.BTreeMap

open List

variable {K V L W : Type*} [LinearOrder K] [LinearOrder L]

/-- The sum of a weight over all bindings. -/
def total (map : BTreeMap K V) (weigh : K → V → Nat) : Nat :=
  (map.entries.map fun entry => weigh entry.1 entry.2).sum

/-- A weight that is given under a condition depends on the condition only. -/
theorem ite_iff {left right : Prop} {_ : Decidable left} {_ : Decidable right}
    (same : left ↔ right) (weight : Nat) :
    (if left then weight else 0) = if right then weight else 0 := by
  by_cases holds : left
  · rw [if_pos holds, if_pos (same.mp holds)]
  · rw [if_neg holds, if_neg fun also => holds (same.mpr also)]

variable {map : BTreeMap K V} {weigh : K → V → Nat} {key : K} {value : V}

theorem total_congr {other : K → V → Nat}
    (same : ∀ key value, map.get? key = some value → weigh key value = other key value) :
    map.total weigh = map.total other := by
  refine congrArg sum (map_congr_left ?_)
  intro entry member
  exact same entry.1 entry.2 (get?_eq_some_iff.mpr member)

theorem total_le {other : K → V → Nat}
    (below : ∀ key value, map.get? key = some value → weigh key value ≤ other key value) :
    map.total weigh ≤ map.total other := by
  refine sum_le_sum ?_
  intro entry member
  exact below entry.1 entry.2 (get?_eq_some_iff.mpr member)

theorem total_add (map : BTreeMap K V) (weigh other : K → V → Nat) :
    map.total (fun key value => weigh key value + other key value) =
      map.total weigh + map.total other := by
  exact sum_map_add

theorem total_eq_zero (none : ∀ key value, map.get? key = some value → weigh key value = 0) :
    map.total weigh = 0 := by
  have zero : map.total weigh = map.total fun _ _ => 0 := total_congr none
  rw [zero]
  simp [total]

/-- A new key is inserted somewhere in the list. -/
theorem insertEntry_perm {entries : List (K × V)} (absent : ∀ entry ∈ entries, entry.1 ≠ key) :
    (insertEntry key value entries).Perm ((key, value) :: entries) := by
  induction entries with
  | nil => exact .refl _
  | cons head rest ih =>
    simp only [insertEntry]
    split_ifs with below equal
    · exact .refl _
    · exact absurd equal.symm (absent head mem_cons_self)
    · have others := ih fun entry member =>
        absent entry (mem_cons_of_mem _ member)
      exact (others.cons head).trans (.swap _ _ _)

theorem total_insert_of_none (value : V) (weigh : K → V → Nat) (absent : map.get? key = none) :
    (map.insert key value).total weigh = map.total weigh + weigh key value := by
  have apart : ∀ entry ∈ map.entries, entry.1 ≠ key := by
    intro entry member equal
    have found : map.get? entry.1 = some entry.2 := get?_eq_some_iff.mpr member
    rw [equal, absent] at found
    cases found
  have permuted : (insertEntry key value map.entries).Perm ((key, value) :: map.entries) :=
    insertEntry_perm apart
  show ((insertEntry key value map.entries).map fun entry => weigh entry.1 entry.2).sum = _
  rw [(permuted.map _).sum_eq, map_cons, sum_cons]
  exact Nat.add_comm _ _

theorem total_erase_of_some {old : V} (weigh : K → V → Nat) (present : map.get? key = some old) :
    (map.erase key).total weigh + weigh key old = map.total weigh := by
  have restored : (map.erase key).insert key old = map := by
    refine ext_get? fun other => ?_
    rw [get?_insert, get?_erase]
    split_ifs with equal
    · rw [equal, present]
    · rfl
  have gone : (map.erase key).get? key = none := by simp [get?_erase]
  have added := total_insert_of_none old weigh gone
  rw [restored] at added
  exact added.symm

theorem erase_of_none (absent : map.get? key = none) : map.erase key = map := by
  refine ext_get? fun other => ?_
  rw [get?_erase]
  split_ifs with equal
  · rw [equal, absent]
  · rfl

theorem total_insert_of_some {old : V} (value : V)
    (weigh : K → V → Nat) (present : map.get? key = some old) :
    (map.insert key value).total weigh + weigh key old = map.total weigh + weigh key value := by
  have gone : (map.erase key).get? key = none := by simp [get?_erase]
  have again : (map.erase key).insert key value = map.insert key value := by
    refine ext_get? fun other => ?_
    simp only [get?_insert, get?_erase]
    split_ifs <;> rfl
  have added := total_insert_of_none value weigh gone
  rw [again] at added
  have removed := total_erase_of_some weigh present
  omega

/-- One binding weighs no more than all. -/
theorem le_total (weigh : K → V → Nat)
    (present : map.get? key = some value) : weigh key value ≤ map.total weigh := by
  have removed := total_erase_of_some weigh present
  omega

/-! ## Two maps -/

/-- Two maps can be summed over in either order. -/
theorem total_comm (left : BTreeMap K V) (right : BTreeMap L W) (weigh : K → V → L → W → Nat) :
    left.total (fun key value => right.total fun other bound => weigh key value other bound) =
      right.total fun other bound => left.total fun key value => weigh key value other bound := by
  unfold total
  induction left.entries with
  | nil => simp
  | cons head rest ih =>
    simp only [map_cons, sum_cons, sum_map_add]
    rw [ih]

/-- When at most one binding passes a test, the sum of a constant over those that do is
the constant or nothing. -/
theorem total_single {test : K → V → Prop} [∀ key value,
    Decidable (test key value)] (constant : Nat)
    (present : map.get? key = some value) (passes : test key value)
    (only : ∀ other bound, map.get? other = some bound → test other bound → other = key) :
    (map.total fun other bound => if test other bound then constant else 0) = constant := by
  have removed := total_erase_of_some
    (fun other bound => if test other bound then constant else 0) present
  have rest : ((map.erase key).total fun other bound =>
      if test other bound then constant else 0) = 0 := by
    refine total_eq_zero fun other bound found => ?_
    rw [get?_erase] at found
    split_ifs at found with equal
    exact if_neg fun fits => equal (only other bound found fits)
  rw [if_pos passes, rest] at removed
  omega

/-- The sum by owners of what each owns is the sum of what is owned, when nothing has
two owners. -/
theorem total_fibers (owners : BTreeMap K V) (owned : BTreeMap L W)
    (owns : K → V → L → W → Prop) (weigh : L → W → Nat)
    [∀ key value other bound, Decidable (owns key value other bound)]
    [∀ other bound, Decidable (∃ key value, owners.get? key = some value ∧
      owns key value other bound)]
    (once : ∀ key value key' value' other bound, owners.get? key = some value →
      owners.get? key' = some value' → owns key value other bound →
        owns key' value' other bound → key' = key) :
    (owners.total fun key value => owned.total fun other bound =>
        if owns key value other bound then weigh other bound else 0) =
      owned.total fun other bound =>
        if ∃ key value, owners.get? key = some value ∧ owns key value other bound
        then weigh other bound else 0 := by
  rw [total_comm]
  refine total_congr fun other bound _ => ?_
  by_cases some : ∃ key value, owners.get? key = some value ∧ owns key value other bound
  · obtain ⟨key, value, present, owner⟩ := some
    rw [if_pos ⟨key, value, present, owner⟩]
    refine total_single (weigh other bound) present owner fun key' value' found also => ?_
    exact once key value key' value' other bound present found owner also
  · rw [if_neg some]
    refine total_eq_zero fun key value found => if_neg fun owner => ?_
    exact some ⟨key, value, found, owner⟩

end Covalent.BTreeMap
