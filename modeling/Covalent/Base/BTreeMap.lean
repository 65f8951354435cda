import Mathlib.Data.Finset.Basic
import Mathlib.Data.Finset.Image
import Mathlib.Data.List.Sort
import Mathlib.Order.Basic
import Mathlib.Tactic

/-!
# Ordered maps

Finite maps with a linearly ordered key type, kept as the list of their
bindings in increasing key order.  This is the ordered map of the Rust standard
library as a caller sees it: looking a key up, inserting, removing, keeping the
bindings that satisfy a test, and visiting all bindings in key order.

## Design notes

The bindings are a list, not a function, because the modelled programs visit
them in order and stop at the first failure.  **Two maps with the same lookups
are equal** (`BTreeMap.ext_get?`), so a map is still determined by its
point-wise behaviour, and every operation is specified by what `get?` returns
afterwards.
-/

namespace Covalent

/-- A finite map, as the list of its bindings in increasing key order. -/
structure BTreeMap (K V : Type*) [LT K] where
  entries : List (K × V)
  sorted : entries.Pairwise (fun left right => left.1 < right.1)
deriving DecidableEq

namespace BTreeMap

open List

variable {K V W : Type*} [LinearOrder K]

/-! ## Bindings in key order -/

/-- Insert a binding into a list ordered by key, replacing the binding of an
equal key. -/
def insertEntry (key : K) (value : V) : List (K × V) → List (K × V)
  | [] => [(key, value)]
  | entry :: rest =>
    if key < entry.1 then (key, value) :: entry :: rest
    else if key = entry.1 then (key, value) :: rest
    else entry :: insertEntry key value rest

variable {key : K} {value : V} {entries : List (K × V)} {ε : Type*} {change : K → V → Except ε W}
  {changed : List (K × W)} {map : BTreeMap K V}

variable {entry : K × V} {other : K} {found : V} {bindings : List (K × V)}

theorem mem_insertEntry (member : entry ∈ insertEntry key value entries) :
    entry = (key, value) ∨ entry ∈ entries := by
  induction entries with
  | nil => simpa [insertEntry] using member
  | cons head rest ih =>
    simp only [insertEntry] at member
    split_ifs at member <;> grind

theorem insertEntry_sorted (key : K) (value : V)
    (sorted : entries.Pairwise (fun left right => left.1 < right.1)) :
    (insertEntry key value entries).Pairwise (fun left right => left.1 < right.1) := by
  induction entries with
  | nil => simp [insertEntry]
  | cons head rest ih =>
    obtain ⟨headBelow, restSorted⟩ := pairwise_cons.mp sorted
    simp only [insertEntry]
    split_ifs with below equal
    · refine pairwise_cons.mpr ⟨?_, sorted⟩
      intro entry member
      rcases mem_cons.mp member with rfl | member
      · exact below
      · exact below.trans (headBelow entry member)
    · subst equal
      exact pairwise_cons.mpr ⟨headBelow, restSorted⟩
    · refine pairwise_cons.mpr ⟨?_, ih restSorted⟩
      intro entry member
      rcases mem_insertEntry member with rfl | member
      · exact lt_of_le_of_ne (not_lt.mp below) (.symm equal)
      · exact headBelow entry member

theorem lookup_cons_ite (head : K × V) (rest : List (K × V)) (key : K) :
    (head :: rest).lookup key = if key = head.1 then some head.2 else rest.lookup key := by
  rw [lookup_cons]
  by_cases equal : key = head.1
  · simp [equal]
  · simp [equal, beq_eq_false_iff_ne.mpr equal]

theorem lookup_insertEntry (key other : K) (value : V) (entries : List (K × V)) :
    (insertEntry key value entries).lookup other =
      if other = key then some value else entries.lookup other := by
  induction entries with
  | nil => simp [insertEntry, lookup_cons_ite]
  | cons head rest ih =>
    simp only [insertEntry]
    split_ifs <;> grind [lookup_cons_ite]

/-- In a list ordered by key, a key is looked up exactly where it is bound. -/
theorem lookup_eq_some_iff_mem (sorted : entries.Pairwise (fun left right => left.1 < right.1))
    (key : K) (value : V) :
    entries.lookup key = some value ↔ (key, value) ∈ entries := by
  induction entries with
  | nil => simp
  | cons head rest ih =>
    obtain ⟨headBelow, restSorted⟩ := pairwise_cons.mp sorted
    have absent : (head.1, value) ∉ rest := by
      intro member
      exact lt_irrefl head.1 (headBelow (head.1, value) member)
    rw [lookup_cons_ite, mem_cons, Prod.ext_iff]
    split_ifs with equal
    · simp [equal, absent, eq_comm]
    · simp [equal, ih restSorted]

/-! ## Maps -/

/-- The map without bindings. -/
def empty : BTreeMap K V where
  entries := []
  sorted := List.Pairwise.nil

instance : EmptyCollection (BTreeMap K V) := ⟨empty⟩

instance : Inhabited (BTreeMap K V) := ⟨empty⟩

section

variable (map : BTreeMap K V) (key : K)

/-- The value bound to a key. -/
def get? : Option V :=
  map.entries.lookup key

/-- Whether a key is bound. -/
def containsKey : Bool :=
  (map.get? key).isSome

/-- Bind a key, replacing its earlier binding. -/
def insert (value : V) : BTreeMap K V where
  entries := insertEntry key value map.entries
  sorted := insertEntry_sorted key value map.sorted

/-- Keep the bindings that satisfy a test. -/
def retain (keep : K → V → Bool) : BTreeMap K V where
  entries := map.entries.filter (fun entry => keep entry.1 entry.2)
  sorted := map.sorted.filter _

/-- Remove the binding of a key. -/
def erase : BTreeMap K V :=
  map.retain (fun other _ => decide (other ≠ key))

/-- Replace every value by a function of its binding. -/
def mapValues (change : K → V → W) : BTreeMap K W where
  entries := map.entries.map (fun entry => (entry.1, change entry.1 entry.2))
  sorted := pairwise_map.mpr (map.sorted.imp id)

/-- Change the values of a list of bindings in order, stopping at the first
failure. -/
def mapEntriesM {ε : Type*} (change : K → V → Except ε W) : List (K × V) → Except ε (List (K × W))
  | [] => .ok []
  | entry :: rest =>
    match change entry.1 entry.2 with
    | .error problem => .error problem
    | .ok value =>
      match mapEntriesM change rest with
      | .error problem => .error problem
      | .ok changed => .ok ((entry.1, value) :: changed)

omit [LinearOrder K] in
theorem mapEntriesM_cons_eq_ok {rest : List (K × V)} :
    mapEntriesM change (entry :: rest) = .ok changed ↔
      ∃ value others, change entry.1 entry.2 = .ok value ∧
        mapEntriesM change rest = .ok others ∧ changed = (entry.1, value) :: others := by
  cases valueCase : change entry.1 entry.2 with
  | error problem => simp [mapEntriesM, valueCase]
  | ok value =>
    cases restCase : mapEntriesM change rest with
    | error problem => simp [mapEntriesM, valueCase, restCase]
    | ok others => simp [mapEntriesM, valueCase, restCase, eq_comm]

omit [LinearOrder K] in
theorem mapEntriesM_keys (mapped : mapEntriesM change entries = .ok changed) :
    changed.map Prod.fst = entries.map Prod.fst := by
  induction entries generalizing changed with
  | nil => cases mapped; rfl
  | cons entry rest ih =>
    obtain ⟨value, others, _, mappedRest, rfl⟩ := mapEntriesM_cons_eq_ok.mp mapped
    simp [ih mappedRest]

/-- Change every value in key order, stopping at the first failure. -/
def mapValuesM {ε : Type*} (map : BTreeMap K V) (change : K → V → Except ε W) :
    Except ε (BTreeMap K W) :=
  match mapped : mapEntriesM change map.entries with
  | .error problem => .error problem
  | .ok changed =>
    .ok
      { entries := changed
        sorted := by
          have sorted := pairwise_map.mpr map.sorted
          rw [← mapEntriesM_keys mapped] at sorted
          exact pairwise_map.mp sorted }

/-- The keys in increasing order. -/
def keys : List K :=
  map.entries.map Prod.fst

/-- The values in the order of their keys. -/
def values : List V :=
  map.entries.map Prod.snd

/-- The set of bound keys. -/
def keySet : Finset K :=
  map.keys.toFinset

/-- The number of bindings. -/
def len : Nat :=
  map.entries.length

/-- Insert bindings in list order, later ones replacing earlier ones. -/
def extendList (bindings : List (K × V)) : BTreeMap K V :=
  bindings.foldl (fun built entry => built.insert entry.1 entry.2) map

end

/-- Insert all bindings of another map. -/
def extend (map other : BTreeMap K V) : BTreeMap K V :=
  map.extendList other.entries

/-- Collect bindings into a map. -/
def ofList (bindings : List (K × V)) : BTreeMap K V :=
  (∅ : BTreeMap K V).extendList bindings

/-! ## Lookups after each operation -/

theorem get?_eq_some_iff : map.get? key = some value ↔ (key, value) ∈ map.entries :=
  lookup_eq_some_iff_mem map.sorted key value

theorem get?_eq_none_iff : map.get? key = none ↔ ∀ value, (key, value) ∉ map.entries := by
  rw [Option.eq_none_iff_forall_ne_some]
  exact forall_congr' fun value => not_congr get?_eq_some_iff

/-- Maps with equal lookups are equal. -/
theorem ext_get? {left right : BTreeMap K V}
    (agree : ∀ key, left.get? key = right.get? key) : left = right := by
  have sameMembers : ∀ entry, entry ∈ left.entries ↔ entry ∈ right.entries := by
    rintro ⟨key, value⟩
    rw [← get?_eq_some_iff, ← get?_eq_some_iff, agree]
  have irreflexive : ∀ {map : BTreeMap K V}, map.entries.Nodup := by
    intro map
    exact map.sorted.imp fun below equal => absurd below (by simp [equal])
  have permuted : left.entries.Perm right.entries :=
    (perm_ext_iff_of_nodup irreflexive irreflexive).mpr sameMembers
  have equal : left.entries = right.entries := by
    refine List.Perm.eq_of_pairwise ?_ left.sorted right.sorted permuted
    intro first second _ _ below above
    exact absurd below (not_lt.mpr above.le)
  cases left
  cases right
  simpa using equal

@[simp]
theorem get?_empty (key : K) : (∅ : BTreeMap K V).get? key = none := rfl

theorem get?_insert (map : BTreeMap K V) (key other : K) (value : V) :
    (map.insert key value).get? other = if other = key then some value else map.get? other :=
  lookup_insertEntry key other value map.entries

@[simp]
theorem get?_insert_self (map : BTreeMap K V) (key : K) (value : V) :
    (map.insert key value).get? key = some value := by
  simp [get?_insert]

theorem get?_insert_of_ne (map : BTreeMap K V) (value : V) (different : other ≠ key) :
    (map.insert key value).get? other = map.get? other := by
  simp [get?_insert, different]

/-- A binding of a map after an insertion is the new one, or an old one of another key. -/
theorem of_get?_insert (inserted : (map.insert key value).get? other = some found) :
    other = key ∧ found = value ∨ other ≠ key ∧ map.get? other = some found := by
  rw [get?_insert] at inserted
  split_ifs at inserted with same
  · exact .inl ⟨same, (Option.some.inj inserted).symm⟩
  · exact .inr ⟨same, inserted⟩

/-- What holds of the new entry and held of every entry holds of every entry. -/
theorem forall_insert {property : K → V → Prop} (here : property key value)
    (before : ∀ other found, map.get? other = some found → property other found) :
    ∀ other found, (map.insert key value).get? other = some found → property other found := by
  intro other found inserted
  rcases of_get?_insert inserted with ⟨rfl, rfl⟩ | ⟨-, kept⟩
  · exact here
  · exact before other found kept

theorem isSome_get?_insert : ((map.insert key value).get? other).isSome = true ↔
    other = key ∨ (map.get? other).isSome = true := by
  rw [get?_insert]
  split_ifs with same <;> simp [same]

theorem mem_entries_retain {keep : K → V → Bool} : (key, value) ∈ (map.retain keep).entries ↔
      (key, value) ∈ map.entries ∧ keep key value = true := by
  simp [retain]

theorem get?_retain (map : BTreeMap K V) (keep : K → V → Bool) (key : K) :
    (map.retain keep).get? key = (map.get? key).filter (keep key) := by
  refine Option.ext fun value => ?_
  rw [get?_eq_some_iff, mem_entries_retain, ← get?_eq_some_iff, Option.filter_eq_some_iff]

theorem get?_erase (map : BTreeMap K V) (key other : K) :
    (map.erase key).get? other = if other = key then none else map.get? other := by
  rw [erase, get?_retain]
  split_ifs with equal
  · cases map.get? other <;> simp [equal]
  · cases map.get? other <;> simp [equal]

theorem get?_erase_of_ne (different : other ≠ key) :
    (map.erase key).get? other = map.get? other := by
  simp [get?_erase, different]

theorem of_get?_erase (erased : (map.erase key).get? other = some found) :
    other ≠ key ∧ map.get? other = some found := by
  rw [get?_erase] at erased
  split_ifs at erased with same
  exact ⟨same, erased⟩

theorem mem_entries_mapValues {change : K → V → W} {value : W} :
    (key, value) ∈ (map.mapValues change).entries ↔
      ∃ old, (key, old) ∈ map.entries ∧ change key old = value := by
  simp [mapValues]

theorem get?_mapValues (map : BTreeMap K V) (change : K → V → W) (key : K) :
    (map.mapValues change).get? key = (map.get? key).map (change key) := by
  refine Option.ext fun value => ?_
  rw [get?_eq_some_iff, mem_entries_mapValues, Option.map_eq_some_iff]
  simp only [get?_eq_some_iff]

/-! ## Keys and values -/

@[simp]
theorem containsKey_iff : map.containsKey key = true ↔ ∃ value, map.get? key = some value := by
  rw [containsKey, Option.isSome_iff_exists]

@[simp]
theorem containsKey_eq_false_iff : map.containsKey key = false ↔ map.get? key = none := by
  rw [containsKey, Option.isSome_eq_false_iff, Option.isNone_iff_eq_none]

theorem mem_keys : key ∈ map.keys ↔ ∃ value, map.get? key = some value := by
  simp [keys, get?_eq_some_iff]

theorem mem_keySet : key ∈ map.keySet ↔ ∃ value, map.get? key = some value := by
  rw [keySet, mem_toFinset, mem_keys]

theorem mem_values : value ∈ map.values ↔ ∃ key, map.get? key = some value := by
  simp [values, get?_eq_some_iff]

theorem keys_nodup (map : BTreeMap K V) : map.keys.Nodup :=
  pairwise_map.mpr (map.sorted.imp fun below => below.ne)

/-! ## Sizes -/

theorem len_eq_card (map : BTreeMap K V) : map.len = map.keySet.card := by
  rw [keySet, toFinset_card_of_nodup map.keys_nodup, keys, length_map, len]

theorem keySet_insert (map : BTreeMap K V) (key : K) (value : V) :
    (map.insert key value).keySet = Insert.insert key map.keySet := by
  ext other
  rw [Finset.mem_insert, mem_keySet, mem_keySet, get?_insert]
  split_ifs with same
  · simp [same]
  · simp [same]

theorem keySet_erase (map : BTreeMap K V) (key : K) :
    (map.erase key).keySet = map.keySet.erase key := by
  ext other
  rw [Finset.mem_erase, mem_keySet, mem_keySet, get?_erase]
  split_ifs with same
  · simp [same]
  · simp [same]

theorem len_retain_le (map : BTreeMap K V) (keep : K → V → Bool) :
    (map.retain keep).len ≤ map.len :=
  length_filter_le _ _

/-! ## Extension -/

theorem get?_extendList_of_not_mem (bindings : List (K × V)) (key : K)
    (absent : ∀ value, (key, value) ∉ bindings) (map : BTreeMap K V) :
    (map.extendList bindings).get? key = map.get? key := by
  induction bindings generalizing map with
  | nil => rfl
  | cons head rest ih =>
    have different : key ≠ head.1 := by
      rintro rfl
      exact absent head.2 (by simp)
    have restAbsent : ∀ value, (key, value) ∉ rest := by
      intro value member
      exact absent value (mem_cons_of_mem _ member)
    rw [extendList, foldl_cons, ← extendList, ih restAbsent, get?_insert_of_ne _ _ different]

theorem get?_extendList_of_mem (unique : (bindings.map Prod.fst).Nodup)
    (member : (key, value) ∈ bindings) (map : BTreeMap K V) :
    (map.extendList bindings).get? key = some value := by
  induction bindings generalizing map with
  | nil => cases member
  | cons head rest ih =>
    obtain ⟨headAbsent, restUnique⟩ := nodup_cons.mp unique
    rw [extendList, foldl_cons, ← extendList]
    rcases mem_cons.mp member with rfl | member
    · have absent : ∀ other, (key, other) ∉ rest := by
        intro other present
        exact headAbsent (mem_map.mpr ⟨_, present, rfl⟩)
      rw [get?_extendList_of_not_mem rest key absent, get?_insert_self]
    · exact ih restUnique member _

/-- The keys of an extended map: those of the map, and those it was extended by. -/
theorem isSome_get?_extendList (bindings : List (K × V)) (key : K) (map : BTreeMap K V) :
    ((map.extendList bindings).get? key).isSome = true ↔
      key ∈ bindings.map Prod.fst ∨ (map.get? key).isSome = true := by
  induction bindings generalizing map with
  | nil =>
    show (map.get? key).isSome = true ↔ _
    rw [map_nil, mem_nil_iff, false_or]
  | cons head rest ih =>
    rw [extendList, foldl_cons, ← extendList, ih, get?_insert, map_cons, mem_cons]
    split_ifs with same
    · simp [same]
    · simp [same]

/-- Extension lets the bindings of the second map win. -/
theorem get?_extend (map other : BTreeMap K V) (key : K) :
    (map.extend other).get? key = (other.get? key).or (map.get? key) := by
  cases bound : other.get? key with
  | none =>
    rw [extend, get?_extendList_of_not_mem _ _ (get?_eq_none_iff.mp bound)]
    rfl
  | some value =>
    rw [extend, get?_extendList_of_mem other.keys_nodup (get?_eq_some_iff.mp bound)]
    rfl

theorem get?_ofList_of_mem (unique : (bindings.map Prod.fst).Nodup)
    (member : (key, value) ∈ bindings) :
    (ofList bindings).get? key = some value :=
  get?_extendList_of_mem unique member _

theorem mem_of_get?_ofList
    (found : (ofList bindings).get? key = some value) : (key, value) ∈ bindings := by
  rw [ofList, extendList] at found
  induction bindings using List.reverseRecOn with
  | nil => cases found
  | append_singleton bindings last ih =>
    rw [foldl_append, foldl_cons, foldl_nil, get?_insert] at found
    split_ifs at found with here
    · cases found
      exact mem_append_right _ (here ▸ mem_cons_self)
    · exact mem_append_left _ (ih found)

end BTreeMap

end Covalent
