import Covalent.Restore.Paths

/-!
# Previews that can be executed

A preview is made entry by entry, with the directories above each entry, and a file that is in
the way may get another name.  Whether the whole can be executed depends on the manifest, the
selection and the target.

## Design notes

**Names.**  A search for a free name passes over the names it notices.  On disk those are the
names that exist.  In an inventory a directory that is not listed itself is only noticed when
the listed path that follows it in order lies below it.
-/

namespace Covalent.Restore

open Backup List BTreeMap
open Sharing (PublicIdentity)
open PlanFormats

/-! ## Targets -/

/-- What a restore is planned for. -/
structure Target where
  node : RelativePath → Option NodeKind
  /-- What a search for a free name passes over. -/
  noticed : RelativePath → Prop
  noticed_node : ∀ path, (node path).isSome → noticed path

/-- Something lies below a path. -/
def Target.Contents (target : Target) (path : RelativePath) : Prop :=
  ∃ below, (target.node below).isSome ∧ isDescendant below path = true

/-- Something is at a path or below it. -/
def Target.Holds (target : Target) (path : RelativePath) : Prop :=
  (target.node path).isSome ∨ target.Contents path

/-- A target on disk. -/
def Tree.target (tree : Tree) : Target where
  node := tree.nodes.get?
  noticed path := (tree.nodes.get? path).isSome
  noticed_node _ present := present

@[simp]
theorem Tree.target_node (tree : Tree) (path : RelativePath) :
    tree.target.node path = tree.nodes.get? path :=
  rfl

@[simp]
theorem Tree.target_noticed (tree : Tree) (path : RelativePath) :
    tree.target.noticed path ↔ (tree.nodes.get? path).isSome = true :=
  Iff.rfl

def EntryKind.node : EntryKind → NodeKind
  | .file => .file
  | .directory => .directory

/-- The target that an inventory lists. -/
def TargetInventory.target (inventory : TargetInventory) : Target where
  node path := (inventory.observed.get? path).map fun entry => EntryKind.node entry.kind
  noticed path := (inventory.observed.get? path).isSome ∨
    occupiedHasDescendant inventory.listed path = true
  noticed_node path present := .inl (by simpa using present)

@[simp]
theorem TargetInventory.target_node (inventory : TargetInventory) (path : RelativePath) :
    inventory.target.node path =
      (inventory.observed.get? path).map fun entry => EntryKind.node entry.kind :=
  rfl

@[simp]
theorem TargetInventory.target_noticed (inventory : TargetInventory) (path : RelativePath) :
    inventory.target.noticed path ↔ (inventory.observed.get? path).isSome = true ∨
      occupiedHasDescendant inventory.listed path = true :=
  Iff.rfl

/-- The target that a preview looks at. -/
def targetOf (root : AuthorizedRoot) (options : RestoreOptions) : Target :=
  match options.targetInventory with
  | some inventory => inventory.target
  | none => root.tree.target

/-! ## Choices -/

/-- What is done with an entry. -/
inductive Choice (target : Target) (policy : ConflictPolicy) (entry : ManifestEntry) :
    RelativePath × PreviewAction → Prop where
  | createDirectory (kind : entry.kind = .directory) (free : target.node entry.path = none) :
      Choice target policy entry (entry.path, .createDirectory)
  | createFile (kind : entry.kind = .file) (free : target.node entry.path = none) :
      Choice target policy entry (entry.path, .createFile)
  | keepDirectory (kind : entry.kind = .directory)
      (present : target.node entry.path = some .directory) :
      Choice target policy entry (entry.path, .keepDirectory)
  | skipFile (kind : entry.kind = .file) (present : target.node entry.path = some .file)
      (asked : policy = .skip) : Choice target policy entry (entry.path, .skipFile)
  | replaceFile (kind : entry.kind = .file) (present : target.node entry.path = some .file)
      (asked : policy = .replace) : Choice target policy entry (entry.path, .replaceFile)
  | renameFile {found : RelativePath} (kind : entry.kind = .file)
      (present : target.node entry.path = some .file) (asked : policy = .rename)
      (first : FirstFrom target.noticed entry.path 1 found) :
      Choice target policy entry (found, .renameFile)

/-- A line of a preview, for an entry that no file lies above. -/
structure Line (target : Target) (policy : ConflictPolicy) (entry : ManifestEntry)
    (line : RestorePreviewEntry) : Prop where
  chosen : ∃ choice, Choice target policy entry choice ∧ line = previewEntry entry choice
  above : ∀ ancestor, isDescendant entry.path ancestor = true → target.node ancestor ≠ some .file

/-- A preview, line by line, of a target whose files have nothing below them. -/
structure Chosen (target : Target) (policy : ConflictPolicy) (planned : List ManifestEntry)
    (lines : List RestorePreviewEntry) : Prop where
  leaf : ∀ path, target.node path = some .file → ¬ target.Contents path
  each : List.Forall₂ (Line target policy) planned lines

variable {policy : ConflictPolicy} {entry : ManifestEntry} {choice : RelativePath × PreviewAction}
  {path limit candidate : RelativePath} {root : AuthorizedRoot} {index : Nat}
  {planned : List ManifestEntry} {lines : List RestorePreviewEntry} {listed occupied : PathSet}
  {inventory : TargetInventory}

theorem choice_fileAction {target : Target} {renamed : Except RestoreError RelativePath}
    (kind : entry.kind = .file) (present : target.node entry.path = some .file)
    (first : ∀ found, renamed = .ok found → FirstFrom target.noticed entry.path 1 found)
    (done : fileAction policy entry.path renamed = .ok choice) :
    Choice target policy entry choice := by
  cases policy with
  | fail => cases done
  | skip =>
    cases done
    exact .skipFile kind present rfl
  | replace =>
    cases done
    exact .replaceFile kind present rfl
  | rename =>
    obtain ⟨found, made, rfl⟩ := Except.map_eq_ok.mp done
    exact .renameFile kind present rfl (first found made)

/-! ## Previews of a target on disk -/

theorem inspect_eq_ok {tree : Tree} {operation : String}
    {found : Option NodeKind} (done : tree.inspect operation path = .ok found) :
    tree.nodes.get? path = found := by
  unfold Tree.inspect at done
  split_ifs at done with hidden
  exact Except.ok.inj done

theorem resolveFrom_above {tree : Tree} {ancestors : List RelativePath}
    (ordered : ancestors.Pairwise fun one two => isDescendant two one = true)
    (done : resolveFrom tree path ancestors = .ok ()) :
    ∀ ancestor ∈ ancestors, tree.nodes.get? ancestor ≠ some .file := by
  induction ancestors with
  | nil => rintro _ ⟨⟩
  | cons first rest ih =>
    obtain ⟨below, others⟩ := pairwise_cons.mp ordered
    rw [resolveFrom, bind_eq_ok] at done
    obtain ⟨found, seen, remaining⟩ := done
    have known := inspect_eq_ok seen
    cases found with
    | none =>
      -- Nothing lies below what is missing.
      have missing : ∀ ancestor ∈ first :: rest, tree.nodes.get? ancestor = none := by
        intro ancestor member
        rcases mem_cons.mp member with rfl | later
        · exact known
        · by_contra present
          have directory := tree.closed ancestor first
            (Option.isSome_iff_ne_none.mpr present) (below ancestor later)
          rw [known] at directory
          cases directory
      intro ancestor member
      rw [missing ancestor member]
      rintro ⟨⟩
    | some kind =>
      simp only [bind_eq_ok, exists_unit, refuse_eq_ok, decide_eq_false_iff_not,
        not_not] at remaining
      obtain ⟨-, directory, remaining⟩ := remaining
      intro ancestor member
      rcases mem_cons.mp member with rfl | later
      · rw [known, directory]
        rintro ⟨⟩
      · exact ih others remaining ancestor later

theorem resolve_above (done : root.resolve path = .ok ()) (ancestor : RelativePath)
    (below : isDescendant path ancestor = true) : root.tree.nodes.get? ancestor ≠ some .file :=
  resolveFrom_above (pairwise_relativeAncestors path) done ancestor
    (mem_relativeAncestors.mpr below)

/-- The search on disk ends at the first free name. -/
theorem first_findRenamedFrom {original found : RelativePath}
    {attempts : Nat} (done : findRenamedFrom root original attempts index = .ok found) :
    FirstFrom root.tree.target.noticed original index found := by
  induction attempts generalizing index with
  | zero => cases done
  | succ attempts ih =>
    simp only [findRenamedFrom, bind_eq_ok, exists_unit, Except.mapError_eq_ok] at done
    obtain ⟨tried, made, -, node, seen, remaining⟩ := done
    have named := new_eq_ok.mp made
    have known := inspect_eq_ok seen
    cases node with
    | none =>
      cases remaining
      refine .here named fun noticed => ?_
      rw [Tree.target_noticed, known] at noticed
      cases noticed
    | some kind =>
      simp only [bind_eq_ok, exists_unit] at remaining
      refine .later named ?_ (ih remaining.2)
      rw [Tree.target_noticed, known]
      rfl

/-- A preview on disk chooses by what is at the path. -/
theorem choice_previewAction (done : previewAction root policy entry = .ok choice) :
    Line root.tree.target policy entry (previewEntry entry choice) := by
  simp only [previewAction, bind_eq_ok, exists_unit] at done
  obtain ⟨resolved, node, seen, decided⟩ := done
  have known : root.tree.target.node entry.path = node := inspect_eq_ok seen
  refine ⟨⟨choice, ?_, rfl⟩, resolve_above resolved⟩
  cases node with
  | none =>
    cases kind : entry.kind with
    | file =>
      rw [kind] at decided
      cases decided
      exact .createFile kind known
    | directory =>
      rw [kind] at decided
      cases decided
      exact .createDirectory kind known
  | some found =>
    cases kind : entry.kind with
    | file =>
      rw [kind] at decided
      cases found with
      | file => exact choice_fileAction kind known (fun _ => first_findRenamedFrom) decided
      | directory => cases decided
      | symlink => cases decided
      | other => cases decided
    | directory =>
      rw [kind] at decided
      cases found with
      | file => cases decided
      | directory =>
        cases decided
        exact .keepDirectory kind known
      | symlink => cases decided
      | other => cases decided

theorem chosen_previewActions (done : previewActions root policy planned = .ok lines) :
    Chosen root.tree.target policy planned lines := by
  refine ⟨?_, ?_⟩
  · rintro path file ⟨below, present, lower⟩
    have directory := root.tree.closed below path present lower
    rw [Tree.target_node, directory] at file
    cases file
  · induction planned generalizing lines with
    | nil =>
      cases done
      exact .nil
    | cons entry rest ih =>
      simp only [previewActions, bind_eq_ok, pure_eq_ok] at done
      obtain ⟨choice, decided, others, remaining, rfl⟩ := done
      exact .cons (choice_previewAction decided) (ih remaining)

/-! ## Previews of an inventory -/

theorem containsKey_listed (inventory : TargetInventory) (path : RelativePath) :
    inventory.listed.containsKey path = (inventory.observed.get? path).isSome := by
  rw [Bool.eq_iff_iff, containsKey, TargetInventory.listed, TargetInventory.observed,
    ofList, ofList, isSome_get?_extendList,
    isSome_get?_extendList]
  simp

/-- The paths that a preview has given out so far do not matter to names for later paths. -/
def Given (listed occupied : PathSet) (limit : RelativePath) : Prop :=
  (∀ path, listed.containsKey path = true → occupied.containsKey path = true) ∧
  ∀ path, occupied.containsKey path = true → listed.containsKey path = true ∨
    ∃ original, original < limit ∧
      (path = original ∨ ∃ index, path.value = renamedText original index)

section

variable (given : Given listed occupied limit) (named : candidate.value = renamedText limit index)

include given named

theorem Given.not_prefix
    (present : occupied.containsKey path = true) (unlisted : ¬ listed.containsKey path = true) :
    ¬ chars candidate <+: chars path := by
  rcases given.2 path present with old | ⟨original, less, rfl | ⟨other, value⟩⟩
  · exact absurd old unlisted
  · rintro ⟨rest, same⟩
    have greater : path < candidate := less.trans (lt_of_renamed named)
    rw [path_lt_iff, ← same] at greater
    refine absurd greater (not_lt_of_ge ?_)
    cases rest with
    | nil => rw [append_nil]
    | cons head others => exact (Separated.lt_append (cons_ne_nil head others)).le
  · rw [chars_renamed named, chars_renamed value]
    exact not_prefix_of_lt (path_lt_iff.mp less) index other

theorem Given.containsKey_eq : occupied.containsKey candidate = listed.containsKey candidate := by
  rw [Bool.eq_iff_iff]
  refine ⟨fun present => ?_, given.1 candidate⟩
  by_contra unlisted
  exact given.not_prefix named present unlisted prefix_rfl

theorem Given.occupiedHasDescendant_eq :
    occupiedHasDescendant occupied candidate = occupiedHasDescendant listed candidate := by
  rw [Bool.eq_iff_iff, mem_occupiedHasDescendant, mem_occupiedHasDescendant]
  constructor
  · rintro ⟨below, present, lower, least⟩
    have old : listed.containsKey below = true := by
      by_contra unlisted
      obtain ⟨rest, same⟩ := isDescendant_iff.mp lower
      exact given.not_prefix named present unlisted ⟨'/' :: rest, same.symm⟩
    exact ⟨below, old, lower, fun other known => least other (given.1 other known)⟩
  · rintro ⟨below, present, lower, least⟩
    refine ⟨below, given.1 below present, lower, fun other known greater => ?_⟩
    by_cases old : listed.containsKey other = true
    · exact least other old greater
    · obtain ⟨rest, same⟩ := isDescendant_iff.mp lower
      have beyond := Separated.append_lt_of_not_prefix (path_lt_iff.mp greater)
        (given.not_prefix named known old) ('/' :: rest)
      rw [← same] at beyond
      exact (path_lt_iff.mpr beyond).le

end

theorem observedFileAncestor_eq_none {observed : Observed} :
    observedFileAncestor observed path = none ↔ ∀ ancestor, isDescendant path ancestor = true →
        ∀ entry, observed.get? ancestor = some entry → entry.kind ≠ .file := by
  simp only [observedFileAncestor, find?_eq_none, mem_relativeAncestors, Option.any_eq_true,
    beq_iff_eq, not_exists, not_and]

/-- So does the search in a list. -/
theorem first_findRenamedInventoryFrom {original found : RelativePath} {attempts : Nat}
    (given : Given inventory.listed occupied original)
    (above : observedFileAncestor inventory.observed original = none)
    (done : findRenamedInventoryFrom inventory.observed occupied original attempts index =
      .ok found) :
    FirstFrom inventory.target.noticed original index found := by
  induction attempts generalizing index with
  | zero => cases done
  | succ attempts ih =>
    simp only [findRenamedInventoryFrom, bind_eq_ok, Except.mapError_eq_ok] at done
    obtain ⟨tried, made, decided⟩ := done
    have named := new_eq_ok.mp made
    have free : observedFileAncestor inventory.observed tried = none := by
      rw [observedFileAncestor_eq_none] at above ⊢
      intro ancestor below
      rw [isDescendant_renamed named] at below
      exact above ancestor below
    rw [given.containsKey_eq named, given.occupiedHasDescendant_eq named, free,
      containsKey_listed] at decided
    split_ifs at decided with unused
    · cases decided
      refine .here named fun noticed => ?_
      rcases noticed with listed | hidden
      · simp [listed] at unused
      · simp [hidden] at unused
    · refine .later named ?_ (ih decided)
      by_contra unnoticed
      rw [TargetInventory.target_noticed, not_or] at unnoticed
      simp [unnoticed.1, unnoticed.2] at unused

/-- A preview from a list chooses in the same way. -/
theorem choice_inventoryAction (given : Given inventory.listed occupied entry.path)
    (done : inventoryAction policy inventory.observed occupied entry = .ok choice) :
    Line inventory.target policy entry (previewEntry entry choice) := by
  simp only [inventoryAction, bind_eq_ok, exists_unit, refuse_eq_ok,
    Option.isSome_eq_false_iff, Option.isNone_iff_eq_none] at done
  obtain ⟨above, -, decided⟩ := done
  refine ⟨⟨choice, ?_, rfl⟩, fun ancestor below file => ?_⟩
  · cases existing : inventory.observed.get? entry.path with
    | none =>
      have known : inventory.target.node entry.path = none := by
        rw [TargetInventory.target_node, existing]
        rfl
      rw [existing] at decided
      cases kind : entry.kind with
      | file =>
        rw [kind] at decided
        cases decided
        exact .createFile kind known
      | directory =>
        rw [kind] at decided
        cases decided
        exact .createDirectory kind known
    | some listed =>
      have known : inventory.target.node entry.path = some (EntryKind.node listed.kind) := by
        rw [TargetInventory.target_node, existing]
        rfl
      rw [existing, Option.map_some] at decided
      cases kind : entry.kind with
      | file =>
        cases there : listed.kind with
        | file =>
          rw [kind, there] at decided
          rw [there] at known
          exact choice_fileAction kind known
            (fun _ => first_findRenamedInventoryFrom given above) decided
        | directory =>
          rw [kind, there] at decided
          cases decided
      | directory =>
        cases there : listed.kind with
        | file =>
          rw [kind, there] at decided
          cases decided
        | directory =>
          rw [kind, there] at decided
          rw [there] at known
          cases decided
          exact .keepDirectory kind known
  · rw [TargetInventory.target_node] at file
    obtain ⟨listed, present, node⟩ := Option.map_eq_some_iff.mp file
    have other := observedFileAncestor_eq_none.mp above ancestor below listed present
    cases there : listed.kind with
    | file => exact other there
    | directory =>
      rw [there] at node
      cases node

/-- What is given out for an entry does not matter to the entries after it. -/
theorem Given.occupy {target : Target} (given : Given listed occupied entry.path)
    (after : entry.path < limit) (line : Line target policy entry (previewEntry entry choice)) :
    Given listed (occupy occupied choice) limit := by
  have place : choice.1 = entry.path ∨ ∃ index, choice.1.value = renamedText entry.path index := by
    obtain ⟨⟨decided, chosen, same⟩, -⟩ := line
    obtain rfl : choice = decided :=
      Prod.ext (congrArg RestorePreviewEntry.destinationPath same)
        (congrArg RestorePreviewEntry.action same)
    cases chosen with
    | renameFile _ _ _ first =>
      obtain ⟨index, -, named, -⟩ := first
      exact .inr ⟨index, named⟩
    | _ => exact .inl rfl
  have old : ∀ path, occupied.containsKey path = true → listed.containsKey path = true ∨
      ∃ original, original < limit ∧
        (path = original ∨ ∃ index, path.value = renamedText original index) := by
    intro path present
    rcases given.2 path present with known | ⟨original, less, made⟩
    · exact .inl known
    · exact .inr ⟨original, less.trans after, made⟩
  unfold Restore.occupy
  split_ifs with writes
  · refine ⟨fun path known => ?_, fun path present => ?_⟩
    · exact isSome_get?_insert.mpr (.inr (given.1 path known))
    · rcases isSome_get?_insert.mp present with here | before
      · exact .inr ⟨entry.path, after, here ▸ place⟩
      · exact old path before
  · exact ⟨given.1, old⟩

theorem each_inventoryActions {destinations : PathSet}
    (ordered : planned.Pairwise fun one two => one.path < two.path)
    (given : ∀ entry ∈ planned, Given inventory.listed occupied entry.path)
    (done : inventoryActions policy inventory.observed occupied destinations planned = .ok lines) :
    List.Forall₂ (Line inventory.target policy) planned lines := by
  induction planned generalizing occupied destinations lines with
  | nil =>
    cases done
    exact .nil
  | cons entry rest ih =>
    obtain ⟨first, others⟩ := pairwise_cons.mp ordered
    simp only [inventoryActions, bind_eq_ok, exists_unit, pure_eq_ok] at done
    obtain ⟨choice, decided, -, later, remaining, rfl⟩ := done
    have here := given entry mem_cons_self
    have line := choice_inventoryAction here decided
    exact .cons line (ih others
      (fun other member => here.occupy (first other member) line) remaining)

/-- The entries of an inventory that pass: they are in order and no file lies above one. -/
def Canonical (entries : List TargetInventoryEntry) : Prop :=
  entries.Pairwise (fun one two => one.path < two.path) ∧
  ∀ entry ∈ entries, ∀ file ∈ entries, file.kind = .file →
    ¬ isDescendant entry.path file.path = true

theorem canonical_checkInOrder {passed entries : List TargetInventoryEntry}
    (canonical : Canonical passed)
    (done : checkInOrder checkInventoryEntry passed entries = .ok ()) :
    Canonical (passed ++ entries) := by
  induction entries generalizing passed with
  | nil =>
    rw [append_nil]
    exact canonical
  | cons entry rest ih =>
    rw [checkInOrder] at done
    cases checked : checkInventoryEntry passed entry with
    | error problem =>
      rw [checked] at done
      cases done
    | ok value =>
      rw [checked] at done
      simp only [checkInventoryEntry, bind_eq_ok, exists_unit, refuse_eq_ok,
        okOr_eq_ok, Bool.or_eq_false_iff] at checked
      obtain ⟨⟨⟨follows, -⟩, -⟩, -, -, above⟩ := checked
      have greater : ∀ other ∈ passed, other.path < entry.path := by
        rcases eq_nil_or_concat' passed with rfl | ⟨front, last, rfl⟩
        · exact nofun
        · have less : last.path < entry.path := by simpa using follows
          have before := (pairwise_append.mp canonical.1).2.2
          intro other member
          rcases mem_append.mp member with earlier | here
          · exact (before other earlier last mem_cons_self).trans less
          · rwa [mem_singleton.mp here]
      have next : Canonical (passed ++ [entry]) := by
        refine ⟨pairwise_append.mpr ⟨canonical.1, pairwise_singleton .., ?_⟩, ?_⟩
        · rintro other member last here
          rw [mem_singleton.mp here]
          exact greater other member
        · intro lower member file present kind below
          rcases mem_append.mp member with earlier | here
          · rcases mem_append.mp present with known | last
            · exact canonical.2 lower earlier file known kind below
            · obtain rfl := mem_singleton.mp last
              exact absurd (lt_of_isDescendant below) (greater lower earlier).asymm
          · obtain rfl := mem_singleton.mp here
            simp only [any_eq_false, mem_relativeAncestors, any_filter] at above
            refine above file.path below ?_
            exact any_eq_true.mpr ⟨file, present, by simp [kind]⟩
      have whole := ih next done
      rwa [append_assoc, singleton_append] at whole

theorem observed_eq_some {entry : TargetInventoryEntry}
    (present : inventory.observed.get? path = some entry) :
    entry ∈ inventory.entries ∧ entry.path = path := by
  obtain ⟨other, listed, same⟩ := mem_map.mp (mem_of_get?_ofList present)
  cases same
  exact ⟨listed, rfl⟩

theorem chosen_inventoryActions (canonical : Canonical inventory.entries)
    (ordered : planned.Pairwise fun one two => one.path < two.path)
    (done : inventoryActions policy inventory.observed inventory.listed ∅ planned = .ok lines) :
    Chosen inventory.target policy planned lines := by
  refine ⟨?_, each_inventoryActions ordered (fun entry _ => ?_) done⟩
  · rintro path file ⟨below, present, lower⟩
    obtain ⟨listed, found, node⟩ := Option.map_eq_some_iff.mp file
    obtain ⟨member, rfl⟩ := observed_eq_some found
    obtain ⟨kind, foundToo⟩ := Option.isSome_iff_exists.mp present
    obtain ⟨entry, known, -⟩ := Option.map_eq_some_iff.mp foundToo
    obtain ⟨memberToo, rfl⟩ := observed_eq_some known
    refine canonical.2 entry memberToo listed member ?_ lower
    cases kind : listed.kind with
    | file => rfl
    | directory =>
      rw [kind] at node
      cases node
  · exact ⟨fun _ known => known, fun _ known => .inl known⟩

end Covalent.Restore
