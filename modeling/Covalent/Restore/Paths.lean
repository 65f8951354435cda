import Covalent.Base.Lists
import Covalent.Restore.Plans

/-!
# The paths of a restore

What is planned is what is selected and every directory above it, once each and in the order
of paths.  A name that is tried in place of another is the other with a suffix; no other file
gets the same name, and a suffix has no separators.
-/

namespace Covalent.Restore

open Backup BTreeMap List
open Separated (Below)

/-! ## Paths as sequences of characters -/

variable {one two path ancestor original found : RelativePath} {selected : PathSet}
  {entry : ManifestEntry} {index start : Nat} {taken : RelativePath → Prop}

theorem chars_injective (same : chars one = chars two) : one = two := by
  cases one
  cases two
  cases String.toList_inj.mp same
  rfl

theorem path_lt_iff : one < two ↔ chars one < chars two := String.lt_iff_toList_lt

theorem isDescendant_iff :
    isDescendant path ancestor = true ↔ Below '/' (chars path) (chars ancestor) :=
  decide_eq_true_iff

theorem lt_of_isDescendant (below : isDescendant path ancestor = true) : ancestor < path :=
  path_lt_iff.mpr (isDescendant_iff.mp below).lt

theorem new_eq_ok {text : String} : RelativePath.new text = .ok path ↔ path.value = text := by
  constructor
  · intro made
    unfold RelativePath.new at made
    split at made
    · exact congrArg RelativePath.value (Except.ok.inj made).symm
    · cases made
  · rintro rfl
    unfold RelativePath.new
    split
    · rfl
    · rename_i problem refused
      rw [path.valid] at refused
      cases refused

theorem mem_relativeAncestors :
    ancestor ∈ relativeAncestors path ↔ isDescendant path ancestor = true := by
  rw [isDescendant_iff, ← Separated.mem_ancestors, relativeAncestors, mem_filterMap]
  constructor
  · rintro ⟨text, above, made⟩
    have named : RelativePath.new (String.ofList text) = .ok ancestor := by
      cases result : RelativePath.new (String.ofList text) with
      | error problem => simp [result, Except.toOption] at made
      | ok found =>
        rw [result] at made
        exact congrArg Except.ok (Option.some.inj made)
    have same : chars ancestor = text := by
      rw [chars, new_eq_ok.mp named, String.toList_ofList]
    rw [same]
    exact above
  · intro above
    refine ⟨chars ancestor, above, ?_⟩
    have named : RelativePath.new (String.ofList (chars ancestor)) = .ok ancestor := by
      rw [new_eq_ok, chars, String.ofList_toList]
    rw [named]
    rfl

theorem pairwise_relativeAncestors (path : RelativePath) :
    (relativeAncestors path).Pairwise fun one two => isDescendant two one = true := by
  refine List.Pairwise.filterMap _ ?_ (Separated.pairwise_ancestors (chars path))
  intro one two below first made second madeToo
  have named : ∀ {text : List Char} {found : RelativePath},
      (RelativePath.new (String.ofList text)).toOption = some found → chars found = text := by
    intro text found made
    cases result : RelativePath.new (String.ofList text) with
    | error problem => simp [result, Except.toOption] at made
    | ok other =>
      rw [result] at made
      obtain rfl : other = found := Option.some.inj made
      rw [chars, new_eq_ok.mp result, String.toList_ofList]
  rw [isDescendant_iff, named made, named madeToo]
  exact below

theorem mem_parentTexts {parent : RelativePath} :
    parent.value ∈ parentTexts path ↔ isDescendant path parent = true := by
  rw [isDescendant_iff, ← Separated.mem_joined_iff]
  simp only [parentTexts, mem_map, mem_range'_1]
  constructor
  · rintro ⟨count, ⟨positive, fewer⟩, made⟩
    refine ⟨count, positive, by omega, ?_⟩
    rw [chars, ← made, String.toList_ofList]
  · rintro ⟨count, positive, fewer, made⟩
    refine ⟨count, ⟨positive, by omega⟩, ?_⟩
    rw [← made, chars, String.ofList_toList]

/-! ## What is planned -/

theorem get?_planParents {texts : List String} {planned result : Planned}
    (done : planParents planned texts = .ok result) (path : RelativePath) (entry : ManifestEntry) :
    result.get? path = some entry ↔ planned.get? path = some entry ∨
      planned.get? path = none ∧ path.value ∈ texts ∧ entry = implicitDirectory path := by
  induction texts generalizing planned with
  | nil =>
    cases done
    simp
  | cons text rest ih =>
    simp only [planParents, planParent, bind_eq_ok, Except.mapError_eq_ok, pure_eq_ok] at done
    obtain ⟨next, ⟨parent, made, rfl⟩, remaining⟩ := done
    obtain rfl := new_eq_ok.mp made
    rw [ih remaining]
    have same : path.value = parent.value ↔ path = parent :=
      ⟨fun equal => chars_injective (congrArg String.toList equal), congrArg _⟩
    rw [mem_cons, same]
    by_cases known : planned.containsKey parent
    · rw [if_pos known]
      obtain ⟨value, present⟩ := containsKey_iff.mp known
      constructor
      · rintro (old | ⟨absent, member, made⟩)
        · exact .inl old
        · exact .inr ⟨absent, .inr member, made⟩
      · rintro (old | ⟨absent, rfl | member, made⟩)
        · exact .inl old
        · rw [absent] at present
          cases present
        · exact .inr ⟨absent, member, made⟩
    · rw [if_neg known, get?_insert]
      have absent : planned.get? parent = none :=
        containsKey_eq_false_iff.mp (Bool.eq_false_iff.mpr known)
      split_ifs with here
      · subst here
        simp [absent, eq_comm]
      · simp [here]

/-- What is planned at a path after some entries: an entry, or a directory above one. -/
def Plans (selected : PathSet) (entries : List ManifestEntry) (path : RelativePath)
    (entry : ManifestEntry) : Prop :=
  (entry ∈ entries ∧ isSelected selected path = true ∧ entry.path = path) ∨
  (entry = implicitDirectory path ∧ (∃ other ∈ entries, isSelected selected other.path = true ∧
      isDescendant other.path path = true) ∧
    ∀ other ∈ entries, isSelected selected other.path = true → other.path ≠ path)

theorem plans_append_selected {before : List ManifestEntry} {first : ManifestEntry}
    {planned : Planned} (apart : ∀ other ∈ before, other.path ≠ first.path)
    (chosen : isSelected selected first.path = true)
    (known : ∀ entry, planned.get? path = some entry ↔ Plans selected before path entry) :
    ((if path = first.path then some first else planned.get? path) = some entry ∨
      (if path = first.path then some first else planned.get? path) = none ∧
        isDescendant first.path path = true ∧ entry = implicitDirectory path) ↔
      Plans selected (before ++ [first]) path entry := by
  unfold Plans
  simp only [mem_append, mem_singleton, or_imp, forall_and, forall_eq]
  by_cases here : path = first.path
  · rw [if_pos here]
    constructor
    · rintro (same | ⟨absent, -⟩)
      · cases same
        exact .inl ⟨.inr rfl, here ▸ chosen, here.symm⟩
      · cases absent
    · rintro (⟨member | rfl, -, same⟩ | ⟨-, -, -, free⟩)
      · exact absurd (same.trans here) (apart entry member)
      · exact .inl rfl
      · exact absurd here.symm (free chosen)
  · rw [if_neg here, known]
    constructor
    · rintro ((⟨member, selects, same⟩ | ⟨rfl, ⟨other, member, selects, below⟩, free⟩) |
        ⟨absent, below, rfl⟩)
      · exact .inl ⟨.inl member, selects, same⟩
      · exact .inr ⟨rfl, ⟨other, .inl member, selects, below⟩, free, fun _ => .symm here⟩
      · refine .inr ⟨rfl, ⟨first, .inr rfl, chosen, below⟩, ?_, fun _ => .symm here⟩
        rintro other member selects rfl
        have found := (known other).mpr (.inl ⟨member, selects, rfl⟩)
        rw [absent] at found
        cases found
    · rintro (⟨member | rfl, selects, same⟩ | ⟨rfl, ⟨other, member | rfl, selects, below⟩, free, -⟩)
      · exact .inl (.inl ⟨member, selects, same⟩)
      · exact absurd same.symm here
      · exact .inl (.inr ⟨rfl, ⟨other, member, selects, below⟩, free⟩)
      · cases present : planned.get? path with
        | none => exact .inr ⟨rfl, below, rfl⟩
        | some found =>
          rcases (known found).mp present with ⟨member, selects, same⟩ | implicit
          · exact absurd same (free found member (same ▸ selects))
          · exact .inl (.inr ⟨rfl, implicit.2⟩)

theorem plans_append_unselected {before : List ManifestEntry} {first : ManifestEntry}
    (ignored : ¬ isSelected selected first.path = true) :
    Plans selected before path entry ↔ Plans selected (before ++ [first]) path entry := by
  unfold Plans
  simp only [mem_append, mem_singleton, or_imp, forall_and, forall_eq]
  constructor
  · rintro (⟨member, selects, same⟩ | ⟨rfl, ⟨other, member, selects, below⟩, free⟩)
    · exact .inl ⟨.inl member, selects, same⟩
    · exact .inr ⟨rfl, ⟨other, .inl member, selects, below⟩, free,
        fun chosen => absurd chosen ignored⟩
  · rintro (⟨member | rfl, selects, same⟩ | ⟨rfl, ⟨other, member | rfl, selects, below⟩, free, -⟩)
    · exact .inl ⟨member, selects, same⟩
    · exact absurd (same ▸ selects) ignored
    · exact .inr ⟨rfl, ⟨other, member, selects, below⟩, free⟩
    · exact absurd selects ignored

theorem plans_planEntries {selected : PathSet} {rest before : List ManifestEntry}
    {planned result : Planned} (distinct : ((before ++ rest).map ManifestEntry.path).Nodup)
    (known : ∀ path entry, planned.get? path = some entry ↔ Plans selected before path entry)
    (done : planEntries selected planned rest = .ok result) (path : RelativePath)
    (entry : ManifestEntry) :
    result.get? path = some entry ↔ Plans selected (before ++ rest) path entry := by
  induction rest generalizing before planned with
  | nil =>
    cases done
    rw [append_nil]
    exact known path entry
  | cons first others ih =>
    have moved : before ++ first :: others = before ++ [first] ++ others := by simp
    rw [moved] at distinct ⊢
    have apart : ∀ other ∈ before, other.path ≠ first.path := by
      rw [map_append, map_append] at distinct
      have front := (nodup_append.mp distinct).1
      intro other member same
      exact (nodup_append.mp front).2.2 _ (mem_map_of_mem member) _
        (mem_map_of_mem (mem_singleton_self first)) same
    rw [planEntries] at done
    split_ifs at done with chosen
    · simp only [bind_eq_ok] at done
      obtain ⟨next, parents, remaining⟩ := done
      refine ih distinct (fun path entry => ?_) remaining
      rw [get?_planParents parents, get?_insert, mem_parentTexts]
      exact plans_append_selected apart chosen (known path)
    · refine ih distinct (fun path entry => ?_) done
      rw [known]
      exact plans_append_unselected chosen

theorem Plans.path_eq {entries : List ManifestEntry}
    (plans : Plans selected entries path entry) : entry.path = path := by
  rcases plans with ⟨-, -, same⟩ | ⟨rfl, -, -⟩
  · exact same
  · rfl

/-- What is planned, in the order of paths. -/
theorem mem_plannedManifestEntries {manifest : Manifest} {planned : List ManifestEntry}
    (distinct : (manifest.entries.map ManifestEntry.path).Nodup)
    (done : plannedManifestEntries manifest selected = .ok planned) :
    (∀ entry, entry ∈ planned ↔ Plans selected manifest.entries entry.path entry) ∧
      planned.Pairwise fun one two => one.path < two.path := by
  simp only [plannedManifestEntries, bind_eq_ok, exists_unit, pure_eq_ok] at done
  obtain ⟨-, result, entered, rfl⟩ := done
  have known : ∀ path entry,
      (∅ : Planned).get? path = some entry ↔ Plans selected [] path entry := by
    intro path entry
    simp [Plans]
  have each : ∀ path entry, result.get? path = some entry ↔
      Plans selected manifest.entries path entry := by
    intro path entry
    exact @plans_planEntries selected manifest.entries [] ∅ result distinct known entered path entry
  have placed : ∀ item ∈ result.entries, item.2.path = item.1 := fun item member =>
    ((each item.1 item.2).mp (get?_eq_some_iff.mpr member)).path_eq
  refine ⟨fun entry => ?_, ?_⟩
  · rw [mem_values]
    constructor
    · rintro ⟨path, found⟩
      have plans := (each path entry).mp found
      rwa [← plans.path_eq] at plans
    · intro plans
      exact ⟨entry.path, (each entry.path entry).mpr plans⟩
  · have ordered : result.entries.Pairwise fun one two => one.2.path < two.2.path := by
      refine result.sorted.imp_of_mem ?_
      intro one two first second less
      rw [placed one first, placed two second]
      exact less
    exact pairwise_map.mpr ordered

/-! ## Names in place of others -/

/-- What is put after a name. -/
def suffix (index : Nat) : List Char :=
  ".covalent-restored-".toList ++ (toString index).toList

theorem chars_renamed (named : found.value = renamedText original index) :
    chars found = chars original ++ suffix index := by
  rw [chars, named, renamedText, String.toList_append, String.toList_append, append_assoc]
  rfl

theorem suffix_eq (index : Nat) : ∃ rest, suffix index = '.' :: rest ∧ '.' ∉ rest ∧ '/' ∉ rest := by
  have digits : ∀ character ∈ (toString index).toList, character.isDigit = true := by
    intro character member
    rw [Nat.toString_eq_repr, Nat.toList_repr] at member
    exact Nat.isDigit_of_mem_toDigits (by decide) (by decide) member
  refine ⟨"covalent-restored-".toList ++ (toString index).toList, rfl, fun member => ?_,
    fun member => ?_⟩
  all_goals
    rcases mem_append.mp member with front | back
    · revert front
      decide
    · exact absurd (digits _ back) (by decide)

theorem separator_not_mem_suffix (index : Nat) : '/' ∉ suffix index := by
  obtain ⟨rest, same, -, plain⟩ := suffix_eq index
  rw [same, mem_cons, not_or]
  exact ⟨by decide, plain⟩

theorem suffix_ne_nil (index : Nat) : suffix index ≠ [] := by
  obtain ⟨rest, same, -⟩ := suffix_eq index
  rw [same]
  exact cons_ne_nil _ _

theorem eq_nil_of_append_suffix {front rest : List Char} {other : Nat}
    (same : front ++ (suffix index ++ rest) = suffix other) : front = [] := by
  obtain ⟨after, outer, plain, -⟩ := suffix_eq other
  obtain ⟨tail, inner, -⟩ := suffix_eq index
  cases front with
  | nil => rfl
  | cons head others =>
    rw [outer, cons_append] at same
    rw [← (List.cons.inj same).2, inner] at plain
    simp at plain

/-- A name that was made from a smaller path does not go on after one made from a path. -/
theorem not_prefix_of_lt {lower upper : List Char} (less : lower < upper) (index other : Nat) :
    ¬ upper ++ suffix index <+: lower ++ suffix other := by
  rintro ⟨rest, same⟩
  have upperFront : upper <+: lower ++ suffix other := ⟨suffix index ++ rest, by rw [← same]; simp⟩
  rcases prefix_or_prefix_of_prefix upperFront (prefix_append lower _) with
    ⟨between, split⟩ | ⟨between, split⟩
  · refine absurd less (not_lt_of_ge ?_)
    rw [← split]
    cases between with
    | nil => rw [append_nil]
    | cons head others => exact (Separated.lt_append (cons_ne_nil head others)).le
  · rw [← split, append_assoc, append_assoc] at same
    have none := eq_nil_of_append_suffix (append_cancel_left same)
    rw [none, append_nil] at split
    exact absurd split less.ne

theorem eq_of_renamed_eq {other : Nat}
    (first : found.value = renamedText one index) (second : found.value = renamedText two other) :
    one = two := by
  have same : chars one ++ suffix index = chars two ++ suffix other := by
    rw [← chars_renamed first, chars_renamed second]
  refine chars_injective ?_
  rcases lt_trichotomy (chars one) (chars two) with less | equal | greater
  · exact absurd (same ▸ prefix_rfl) (not_prefix_of_lt less other index)
  · exact equal
  · exact absurd (same ▸ prefix_rfl) (not_prefix_of_lt greater index other)

theorem lt_of_renamed (named : found.value = renamedText original index) : original < found := by
  rw [path_lt_iff, chars_renamed named]
  exact Separated.lt_append (suffix_ne_nil index)

theorem isDescendant_renamed (named : found.value = renamedText original index) :
    isDescendant found ancestor = isDescendant original ancestor := by
  rw [Bool.eq_iff_iff, isDescendant_iff, isDescendant_iff, chars_renamed named,
    Separated.below_append_iff (separator_not_mem_suffix index)]

/-! ## Searches for a name -/

/-- The first name from an index on that is not taken. -/
def FirstFrom (taken : RelativePath → Prop) (original : RelativePath) (start : Nat)
    (found : RelativePath) : Prop :=
  ∃ index, start ≤ index ∧ found.value = renamedText original index ∧ ¬ taken found ∧
    ∀ earlier, start ≤ earlier → earlier < index →
      ∀ other : RelativePath, other.value = renamedText original earlier → taken other

theorem FirstFrom.here (named : found.value = renamedText original start) (free : ¬ taken found) :
    FirstFrom taken original start found := by
  refine ⟨start, le_rfl, named, free, fun earlier after before => ?_⟩
  omega

theorem FirstFrom.later {tried : RelativePath}
    (named : tried.value = renamedText original start) (inTheWay : taken tried)
    (next : FirstFrom taken original (start + 1) found) : FirstFrom taken original start found := by
  obtain ⟨index, after, same, free, passed⟩ := next
  refine ⟨index, by omega, same, free, fun earlier low high other value => ?_⟩
  rcases Nat.eq_or_lt_of_le low with rfl | more
  · obtain rfl : tried = other := chars_injective (by rw [chars, chars, named, value])
    exact inTheWay
  · exact passed earlier more high other value

theorem FirstFrom.unique (first : FirstFrom taken original start one)
    (second : FirstFrom taken original start two) : one = two := by
  obtain ⟨index, low, named, free, passed⟩ := first
  obtain ⟨other, lowToo, namedToo, freeToo, passedToo⟩ := second
  rcases Nat.lt_trichotomy index other with less | rfl | greater
  · exact absurd (passedToo index low less one named) free
  · exact chars_injective (by rw [chars, chars, named, namedToo])
  · exact absurd (passed other lowToo greater two namedToo) freeToo

/-- What the search for something below a path finds. -/
theorem mem_occupiedHasDescendant {occupied : PathSet} :
    occupiedHasDescendant occupied path = true ↔
      ∃ below, occupied.containsKey below = true ∧ isDescendant below path = true ∧
        ∀ other, occupied.containsKey other = true → path < other → below ≤ other := by
  have sorted : occupied.keys.Pairwise (· < ·) := pairwise_map.mpr occupied.sorted
  have member : ∀ key, occupied.containsKey key = true ↔ key ∈ occupied.keys := fun key => by
    rw [containsKey_iff, BTreeMap.mem_keys]
  have after : ∀ key : RelativePath,
      decide (decide (path ≤ key) = true ∧ decide (key ≠ path) = true) = true ↔ path < key := by
    intro key
    rw [decide_eq_true_iff, decide_eq_true_iff, decide_eq_true_iff, lt_iff_le_and_ne, ne_comm]
  rw [occupiedHasDescendant, find?_filter, Option.any_eq_true]
  simp only [member]
  constructor
  · rintro ⟨below, found, lower⟩
    obtain ⟨-, least⟩ := (find?_eq_some_iff_of_sorted sorted).mp found
    exact ⟨below, least.1, lower, fun other present greater =>
      least.2 other present ((after other).mpr greater)⟩
  · rintro ⟨below, present, lower, least⟩
    refine ⟨below, (find?_eq_some_iff_of_sorted sorted).mpr ⟨?_, present, ?_⟩, lower⟩
    · exact (after below).mpr (lt_of_isDescendant lower)
    · intro other known greater
      exact least other known ((after other).mp greater)

end Covalent.Restore
