import Covalent.Restore.Executable

/-!
# When the two previews agree

A target can be previewed on disk, or through an inventory that lists it.  Entry by entry the
two previews come to the same end, except where a file of the target lies above an entry, and
where an entry has the path that was found for a file before it.  The inventory refuses the
second kind as a whole; the preview on disk gives out the path twice.

## Design notes

**Places.**  Errors name a destination by its path below the root.
-/

namespace Covalent.Restore

open Backup List BTreeMap Option
open Sharing (PublicIdentity)

/-- A tree that can be read and holds what an inventory lists. -/
structure Lists (inventory : TargetInventory) (tree : Tree) : Prop where
  readable : ∀ path, tree.unreadable.containsKey path = false
  node : ∀ path, tree.nodes.get? path = inventory.target.node path

/-- A file of the tree lies above a path. -/
def Tree.Shadows (tree : Tree) (path : RelativePath) : Prop :=
  ∃ ancestor, isDescendant path ancestor = true ∧ tree.nodes.get? ancestor = some .file

/-- An entry gets another name because of a file that is in its way. -/
structure Renames (root : AuthorizedRoot) (policy : ConflictPolicy) (entry : ManifestEntry)
    (found : RelativePath) : Prop where
  asked : policy = .rename
  kind : entry.kind = .file
  present : root.tree.nodes.get? entry.path = some .file
  name : findRenamedPath root entry.path = .ok found

/-- What is at the path of an entry is in its way, and stays there. -/
def Refused (root : AuthorizedRoot) (policy : ConflictPolicy) (entry : ManifestEntry) : Prop :=
  match root.tree.nodes.get? entry.path, entry.kind with
  | none, _ => False
  | some .directory, .directory => False
  | some .file, .file => policy = .fail ∨
      policy = .rename ∧ ∀ found, findRenamedPath root entry.path ≠ .ok found
  | some _, _ => True

/-- A file lies above an entry, or its path was found for an earlier one. -/
def Contested (root : AuthorizedRoot) (policy : ConflictPolicy) (earlier : List ManifestEntry)
    (entry : ManifestEntry) : Prop :=
  root.tree.Shadows entry.path ∨ ∃ other ∈ earlier, Renames root policy other entry.path

/-- No entry up to the first refused one is contested. -/
def Aligned (root : AuthorizedRoot) (policy : ConflictPolicy) :
    List ManifestEntry → List ManifestEntry → Prop
  | _, [] => True
  | earlier, entry :: rest => ¬ Contested root policy earlier entry ∧
      (Refused root policy entry ∨ Aligned root policy (earlier ++ [entry]) rest)

/-! ## One entry -/

section Entries

variable {inventory : TargetInventory} {root : AuthorizedRoot} {policy : ConflictPolicy}
  {entry : ManifestEntry} {path : RelativePath} {occupied : PathSet}

theorem given_listed (listed : PathSet) (limit : RelativePath) : Given listed listed limit :=
  ⟨fun _ known => known, fun _ known => .inl known⟩

theorem findRenamedInventoryFrom_ne {observed : Observed} {attempts index : Nat} :
    findRenamedInventoryFrom observed occupied path attempts index ≠
      .error .restorePlanMismatch := by
  induction attempts generalizing index with
  | zero => rintro ⟨⟩
  | succ attempts ih =>
    rw [findRenamedInventoryFrom]
    cases RelativePath.new (renamedText path index) with
    | error problem => rintro ⟨⟩
    | ok tried =>
      simp only [Except.mapError, bind, Except.bind]
      split_ifs
      · rintro ⟨⟩
      · exact ih

section

variable (lists : Lists inventory root.tree)

include lists

theorem Lists.inspect (operation : String) (path : RelativePath) :
    root.tree.inspect operation path = .ok (root.tree.nodes.get? path) := by
  rw [Tree.inspect, lists.readable]
  rfl

theorem Lists.plain :
    root.tree.nodes.get? path ≠ some .symlink ∧ root.tree.nodes.get? path ≠ some .other := by
  rw [lists.node, TargetInventory.target_node]
  rcases inventory.observed.get? path with _ | ⟨_, _ | _, _, _⟩ <;> simp [EntryKind.node]

theorem Lists.observedFileAncestor :
    observedFileAncestor inventory.observed path = none ↔ ¬ root.tree.Shadows path := by
  rw [observedFileAncestor_eq_none, Tree.Shadows]
  push Not
  refine forall₂_congr fun ancestor _ => ?_
  rw [lists.node, TargetInventory.target_node]
  rcases inventory.observed.get? ancestor with _ | ⟨_, _ | _, _, _⟩ <;> simp [EntryKind.node]

theorem Lists.resolveFrom {ancestors : List RelativePath}
    (clear : ∀ ancestor ∈ ancestors, root.tree.nodes.get? ancestor ≠ some .file) :
    resolveFrom root.tree path ancestors = .ok () := by
  induction ancestors with
  | nil =>
    rw [Restore.resolveFrom, lists.inspect]
    simp [bind, Except.bind, refuse, lists.plain.1]
  | cons first rest ih =>
    rw [Restore.resolveFrom, lists.inspect]
    have upper := clear first mem_cons_self
    have plain := @Lists.plain _ _ first lists
    have others := ih fun ancestor member => clear ancestor (mem_cons_of_mem _ member)
    cases found : root.tree.nodes.get? first with
    | none => rfl
    | some kind =>
      cases kind with
      | directory => simpa [bind, Except.bind, refuse] using others
      | file => exact absurd found upper
      | symlink => exact absurd found plain.1
      | other => exact absurd found plain.2

theorem Lists.resolve (clear : ¬ root.tree.Shadows path) : root.resolve path = .ok () :=
  lists.resolveFrom fun ancestor member file =>
    clear ⟨ancestor, mem_relativeAncestors.mp member, file⟩

theorem Lists.resolve_of_shadows (shadows : root.tree.Shadows path) :
    ∃ ancestor, root.resolve path = .error (.nonDirectoryAncestor ancestor) := by
  obtain ⟨upper, below, file⟩ := shadows
  have ordered := pairwise_relativeAncestors path
  have member := mem_relativeAncestors.mpr below
  unfold AuthorizedRoot.resolve
  generalize relativeAncestors path = ancestors at ordered member
  induction ancestors with
  | nil => cases member
  | cons first rest ih =>
    obtain ⟨lower, others⟩ := pairwise_cons.mp ordered
    rw [Restore.resolveFrom, lists.inspect]
    rcases mem_cons.mp member with rfl | later
    · exact ⟨upper, by simp [file, bind, Except.bind, refuse]⟩
    · have directory := root.tree.closed upper first (by rw [file]; rfl) (lower upper later)
      obtain ⟨ancestor, refused⟩ := ih others later
      exact ⟨ancestor, by simpa [directory, bind, Except.bind, refuse] using refused⟩

/-- Nothing lies below a path that the tree does not hold. -/
theorem Lists.not_below (free : root.tree.nodes.get? path = none) :
    ∀ below, inventory.listed.containsKey below = true → ¬ isDescendant below path = true := by
  intro below listed lower
  have present : (root.tree.nodes.get? below).isSome = true := by
    rw [lists.node, TargetInventory.target_node, isSome_map, ← containsKey_listed]
    exact listed
  have directory := root.tree.closed below path present lower
  rw [free] at directory
  cases directory

theorem Lists.findRenamedFrom (given : Given inventory.listed occupied path)
    (clear : ¬ root.tree.Shadows path) (attempts index : Nat) :
    findRenamedInventoryFrom inventory.observed occupied path attempts index =
      findRenamedFrom root path attempts index := by
  induction attempts generalizing index with
  | zero => rfl
  | succ attempts ih =>
    rw [findRenamedInventoryFrom, Restore.findRenamedFrom]
    cases made : RelativePath.new (renamedText path index) with
    | error problem => rfl
    | ok tried =>
      have named := new_eq_ok.mp made
      have clearToo : ¬ root.tree.Shadows tried := by
        rintro ⟨ancestor, below, file⟩
        exact clear ⟨ancestor, isDescendant_renamed named ▸ below, file⟩
      have listed : inventory.listed.containsKey tried = (root.tree.nodes.get? tried).isSome := by
        rw [containsKey_listed, lists.node, TargetInventory.target_node, isSome_map]
      simp only [Except.mapError, bind, Except.bind, lists.resolve clearToo, lists.inspect,
        given.containsKey_eq named, given.occupiedHasDescendant_eq named, listed,
        lists.observedFileAncestor.mpr clearToo]
      cases found : root.tree.nodes.get? tried with
      | none =>
        have empty : occupiedHasDescendant inventory.listed tried = false := by
          rw [Bool.eq_false_iff, Ne, mem_occupiedHasDescendant]
          rintro ⟨below, known, lower, -⟩
          exact lists.not_below found below known lower
        simp [empty]
      | some kind =>
        have plain : kind ≠ .symlink := fun link => lists.plain.1 (link ▸ found)
        simp [refuse, plain, ih]

theorem Lists.not_occupiedHasDescendant (given : Given inventory.listed occupied path)
    (free : root.tree.nodes.get? path = none) : occupiedHasDescendant occupied path = false := by
  rw [Bool.eq_false_iff, Ne, mem_occupiedHasDescendant]
  rintro ⟨below, known, lower, -⟩
  rcases given.2 below known with listed | ⟨original, less, rfl | ⟨index, named⟩⟩
  · exact lists.not_below free below listed lower
  · exact absurd (lt_of_isDescendant lower) less.asymm
  · rw [isDescendant_renamed named] at lower
    exact absurd (lt_of_isDescendant lower) less.asymm

theorem Lists.inventoryAction (given : Given inventory.listed occupied entry.path)
    (clear : ¬ root.tree.Shadows entry.path) :
    inventoryAction policy inventory.observed occupied entry = previewAction root policy entry := by
  have kinds := lists.node entry.path
  rw [TargetInventory.target_node] at kinds
  simp only [Restore.inventoryAction, previewAction, lists.observedFileAncestor.mpr clear, bind,
    Except.bind, lists.resolve clear, lists.inspect, refuse, findRenamedInventoryPath,
    findRenamedPath, lists.findRenamedFrom given clear, kinds]
  cases listed : inventory.observed.get? entry.path with
  | none =>
    have free : root.tree.nodes.get? entry.path = none := by rw [kinds, listed]; rfl
    rw [lists.not_occupiedHasDescendant given free]
    cases entry.kind <;> rfl
  | some known =>
    obtain ⟨place, kind, length, token⟩ := known
    cases kind <;> cases entry.kind <;> rfl

/-- Where an entry goes, unless it is refused. -/
theorem Lists.previewAction_cases (clear : ¬ root.tree.Shadows entry.path) :
    (Refused root policy entry ∧ ∃ problem, previewAction root policy entry = .error problem ∧
      problem ≠ .restorePlanMismatch) ∨
    (¬ Refused root policy entry ∧ ∃ chosen, previewAction root policy entry = .ok chosen ∧
      (Renames root policy entry chosen.1 ∨
        chosen.1 = entry.path ∧ ∀ found, ¬ Renames root policy entry found)) := by
  unfold previewAction Refused
  rw [lists.resolve clear, lists.inspect]
  cases node : root.tree.nodes.get? entry.path with
  | none =>
    have kept : ∀ found, ¬ Renames root policy entry found :=
      fun _ renames => nomatch node.symm.trans renames.present
    cases entry.kind <;> exact .inr ⟨not_false, _, rfl, .inr ⟨rfl, kept⟩⟩
  | some found =>
    cases kind : entry.kind with
    | directory =>
      cases found with
      | directory =>
        exact .inr ⟨not_false, _, rfl, .inr ⟨rfl, fun _ renames =>
          nomatch node.symm.trans renames.present⟩⟩
      | _ => exact .inl ⟨trivial, _, rfl, nofun⟩
    | file =>
      cases found with
      | file =>
        cases policy with
        | fail => exact .inl ⟨.inl rfl, _, rfl, nofun⟩
        | skip | replace =>
          exact .inr ⟨by simp, _, rfl, .inr ⟨rfl, fun _ renames => nomatch renames.asked⟩⟩
        | rename =>
          cases name : findRenamedPath root entry.path with
          | error problem =>
            refine .inl ⟨.inr ⟨rfl, by simp⟩, problem, rfl, fun mismatch => ?_⟩
            rw [findRenamedPath, ← lists.findRenamedFrom (given_listed ..) clear] at name
            exact findRenamedInventoryFrom_ne (mismatch ▸ name)
          | ok other =>
            exact .inr ⟨by simp, _, rfl, .inl ⟨rfl, kind, node, name⟩⟩
      | _ => exact .inl ⟨trivial, _, rfl, nofun⟩

end

/-- The path of a contested entry holds nothing. -/
theorem free_of_renames {other : ManifestEntry} (renames : Renames root policy other path) :
    root.tree.nodes.get? path = none := by
  obtain ⟨index, -, -, unnoticed, -⟩ := first_findRenamedFrom renames.name
  simpa using unnoticed

end Entries

/-! ## All entries -/

section Runs

variable {inventory : TargetInventory} {root : AuthorizedRoot} {policy : ConflictPolicy}
  {planned earlier : List ManifestEntry} {occupied destinations : PathSet}
  {entry : ManifestEntry} {destination : RelativePath}

theorem Lists.previewActions_ne (lists : Lists inventory root.tree) :
    previewActions root policy planned ≠ .error .restorePlanMismatch := by
  induction planned with
  | nil => exact nofun
  | cons entry rest ih =>
    intro same
    by_cases shadows : root.tree.Shadows entry.path
    · obtain ⟨ancestor, refused⟩ := lists.resolve_of_shadows shadows
      rw [previewActions, previewAction, refused] at same
      cases same
    · rcases @Lists.previewAction_cases _ _ policy _ lists shadows with
        ⟨-, problem, refused, other⟩ | ⟨-, chosen, done, -⟩
      · rw [previewActions, refused] at same
        exact other (Except.error.inj same)
      · rw [previewActions, done] at same
        cases remaining : previewActions root policy rest with
        | error problem =>
          simp only [remaining, bind, Except.bind] at same
          exact ih (same ▸ remaining)
        | ok others =>
          rw [remaining] at same
          cases same

/-- The destinations that were given out for the entries so far. -/
structure Destined (root : AuthorizedRoot) (policy : ConflictPolicy)
    (earlier : List ManifestEntry) (destinations : PathSet) : Prop where
  from_entry : ∀ path, destinations.containsKey path = true →
    ∃ entry ∈ earlier, path = entry.path ∨ Renames root policy entry path
  renamed : ∀ entry ∈ earlier, ∀ path, Renames root policy entry path →
    destinations.containsKey path = true

namespace Destined

theorem insert (destined : Destined root policy earlier destinations)
    (goes : Renames root policy entry destination ∨
      destination = entry.path ∧ ∀ found, ¬ Renames root policy entry found) :
    Destined root policy (earlier ++ [entry]) (destinations.insert destination ()) := by
  refine ⟨fun path present => ?_, fun other member path renames => ?_⟩
  · rcases isSome_get?_insert.mp present with here | before
    · refine ⟨entry, mem_append_right _ mem_cons_self, ?_⟩
      rcases goes with renames | ⟨same, -⟩
      · exact .inr (here ▸ renames)
      · exact .inl (here.trans same)
    · obtain ⟨other, member, place⟩ := destined.from_entry path before
      exact ⟨other, mem_append_left _ member, place⟩
  · refine isSome_get?_insert.mpr ?_
    rcases mem_append.mp member with before | last
    · exact .inr (destined.renamed other before path renames)
    · obtain rfl := mem_singleton.mp last
      rcases goes with own | ⟨-, kept⟩
      · exact .inl (Except.ok.inj (renames.name.symm.trans own.name))
      · exact absurd renames (kept path)

/-- A destination is given out twice exactly when an earlier entry was renamed to the path of
this one. -/
theorem containsKey_iff (destined : Destined root policy earlier destinations)
    (before : ∀ other ∈ earlier, other.path < entry.path)
    (clear : ¬ root.tree.Shadows entry.path)
    (goes : Renames root policy entry destination ∨
      destination = entry.path ∧ ∀ found, ¬ Renames root policy entry found) :
    destinations.containsKey destination = true ↔ Contested root policy earlier entry := by
  constructor
  · intro present
    obtain ⟨other, member, place⟩ := destined.from_entry destination present
    have less := before other member
    rcases goes with own | ⟨rfl, -⟩
    · obtain ⟨index, -, named, -⟩ := first_findRenamedFrom own.name
      rcases place with rfl | renames
      · exact absurd (lt_of_renamed named) less.asymm
      · obtain ⟨position, -, namedToo, -⟩ := first_findRenamedFrom renames.name
        exact absurd (eq_of_renamed_eq namedToo named) less.ne
    · rcases place with same | renames
      · exact absurd same less.ne'
      · exact .inr ⟨other, member, renames⟩
  · rintro (shadows | ⟨other, member, renames⟩)
    · exact absurd shadows clear
    · rcases goes with own | ⟨rfl, -⟩
      · exact nomatch (free_of_renames renames).symm.trans own.present
      · exact destined.renamed other member _ renames

end Destined

/-- Aligned entries have the same preview; otherwise the inventory refuses what the preview on
disk does not, or not in this way. -/
theorem inventoryActions_cases (lists : Lists inventory root.tree)
    (ordered : (earlier ++ planned).Pairwise fun one two => one.path < two.path)
    (given : ∀ entry ∈ planned, Given inventory.listed occupied entry.path)
    (destined : Destined root policy earlier destinations) :
    (Aligned root policy earlier planned ∧
      inventoryActions policy inventory.observed occupied destinations planned =
        previewActions root policy planned) ∨
    (¬ Aligned root policy earlier planned ∧ ∃ problem,
      inventoryActions policy inventory.observed occupied destinations planned = .error problem ∧
      problem ≠ .invalidAuthorizedRoot ∧ previewActions root policy planned ≠ .error problem) := by
  induction planned generalizing earlier occupied destinations with
  | nil => exact .inl ⟨trivial, rfl⟩
  | cons entry rest ih =>
    have here := given entry mem_cons_self
    obtain ⟨-, later, across⟩ := pairwise_append.mp ordered
    by_cases shadows : root.tree.Shadows entry.path
    · -- Both refuse the entry, for different reasons.
      obtain ⟨ancestor, refused⟩ := lists.resolve_of_shadows shadows
      have above := isSome_iff_ne_none.mpr (lists.observedFileAncestor.not_left.mpr shadows)
      refine .inr ⟨fun aligned => aligned.1 (.inl shadows), .restoreConflict entry.path, ?_,
        by rintro ⟨⟩, ?_⟩
      · rw [inventoryActions, inventoryAction, above]
        rfl
      · rw [previewActions, previewAction, refused]
        rintro ⟨⟩
    · rcases @Lists.previewAction_cases _ _ policy _ lists shadows with
        ⟨stays, problem, refused, -⟩ | ⟨goesOn, chosen, done, goes⟩
      · refine .inl ⟨⟨?_, .inl stays⟩, ?_⟩
        · rintro (above | ⟨other, -, renames⟩)
          · exact shadows above
          · simp [Refused, free_of_renames renames] at stays
        · rw [inventoryActions, previewActions, lists.inventoryAction here shadows, refused]
          rfl
      · have decided := (lists.inventoryAction here shadows).trans done
        have taken := destined.containsKey_iff (fun other member =>
          across other member entry mem_cons_self) shadows goes
        by_cases contested : Contested root policy earlier entry
        · refine .inr ⟨fun aligned => aligned.1 contested, .restorePlanMismatch, ?_,
            by rintro ⟨⟩, lists.previewActions_ne⟩
          rw [inventoryActions, decided]
          simp only [bind, Except.bind, taken.mpr contested, refuse, if_true]
        · have fresh := Bool.eq_false_iff.mpr (mt taken.mp contested)
          have line := choice_inventoryAction here decided
          rw [inventoryActions, previewActions, decided, done]
          simp only [bind, Except.bind, fresh, refuse, Bool.false_eq_true, if_false]
          rcases ih (by rwa [append_assoc, singleton_append])
            (fun other member => here.occupy ((pairwise_cons.mp later).1 other member) line)
            (destined.insert goes) with
              ⟨aligned, same⟩ | ⟨unaligned, problem, refused, other, differs⟩
          · exact .inl ⟨⟨contested, .inr aligned⟩, by rw [same]⟩
          · refine .inr ⟨fun aligned => aligned.2.elim goesOn unaligned, problem, by rw [refused],
              other, ?_⟩
            cases remaining : previewActions root policy rest with
            | error cause => exact fun same => differs (remaining.trans same)
            | ok others => rintro ⟨⟩

variable [PlanFormats] {arithmetic : Arithmetic} {manifest : Manifest}
  {options : RestoreOptions} {signer : PublicIdentity}

/-- The previews of a tree and of an inventory that lists it agree exactly when, up to the first
entry that both refuse, no file of the tree lies above a planned entry and none has the name
that was found for a file before it. -/
theorem previews_agree_iff (accepted : checkManifest arithmetic manifest = .ok ())
    (valid : validateTargetInventory inventory = .ok ()) (lists : Lists inventory root.tree) :
    (previewRestore arithmetic manifest root { options with targetInventory := some inventory }
        signer).map (fun plan => plan.entries) =
      (previewRestore arithmetic manifest root { options with targetInventory := none }
        signer).map (fun plan => plan.entries) ↔
    (validateRestoreJobId options.jobId = .ok () → ∀ planned,
      plannedManifestEntries manifest options.selectedPaths = .ok planned →
        Aligned root options.conflictPolicy [] planned) := by
  have checked : checkEach validateTargetInventory [inventory] = .ok () :=
    checkEach_eq_ok.mpr fun other member => mem_singleton.mp member ▸ valid
  simp only [previewRestore, accepted, validateRestoreOptions, toList_some,
    toList_none, checked, checkEach, plannedActions, previewActionsFromInventory, valid,
    bind, Except.bind]
  cases job : validateRestoreJobId options.jobId with
  | error problem => exact iff_of_true rfl (by rintro ⟨⟩)
  | ok _ =>
    cases entries : plannedManifestEntries manifest options.selectedPaths with
    | error problem => exact iff_of_true rfl (by rintro _ _ ⟨⟩)
    | ok planned =>
      have ordered := (mem_plannedManifestEntries (distinct_of_checkManifest accepted) entries).2
      rcases @inventoryActions_cases _ _ options.conflictPolicy planned [] _ ∅ lists ordered
        (fun _ _ => given_listed ..) ⟨by rintro _ ⟨⟩, by rintro _ ⟨⟩⟩ with
        ⟨aligned, same⟩ | ⟨unaligned, problem, refused, other, differs⟩
      · refine iff_of_true ?_ fun _ _ done => Except.ok.inj done ▸ aligned
        simp only [same]
        cases previewActions root options.conflictPolicy planned with
        | error problem => rfl
        | ok lines => cases root.canonicalPath <;> rfl
      · refine iff_of_false (fun equal => ?_) fun all => unaligned (all rfl planned rfl)
        simp only [refused] at equal
        cases remaining : previewActions root options.conflictPolicy planned with
        | error cause =>
          rw [remaining] at equal
          exact differs (remaining.trans equal.symm)
        | ok lines =>
          rw [remaining] at equal
          cases text : root.canonicalPath with
          | none =>
            rw [text] at equal
            exact other (Except.error.inj equal)
          | some name =>
            rw [text] at equal
            cases equal

end Runs

/-! ## Previews that differ -/

namespace Sample

/-- The list of the files of `root`. -/
def listed : TargetInventory :=
  { inventory with
    entryCount := 1
    entries := [⟨a, .file, 0, "t"⟩] }

theorem lists_root : Lists listed root.tree where
  readable _ := rfl
  node path := by
    show (insert ∅ a NodeKind.file).get? path =
      ((insert ∅ a (⟨a, .file, 0, "t"⟩ : TargetInventoryEntry)).get? path).map _
    rw [get?_insert, get?_insert]
    split_ifs <;> rfl

theorem valid_listed : validateTargetInventory listed = .ok () := by
  obtain ⟨_, checked⟩ := exists_plan (show (validateTargetInventory listed).isOk = true by
    decide +kernel)
  exact checked

/-- A file is restored and another one renamed, on disk and from the list alike. -/
theorem previews_of_two_files_agree :
    (previewRestore .wrapping (snapshot [a, b]) root (options .rename (some listed)) signer).map
        (fun plan => plan.entries) =
      (previewRestore .wrapping (snapshot [a, b]) root (options .rename none) signer).map
        (fun plan => plan.entries) := by
  obtain ⟨_, accepted⟩ := exists_plan
    (show (checkManifest .wrapping (snapshot [a, b])).isOk = true by decide +kernel)
  refine (@previews_agree_iff listed root _ .wrapping (snapshot [a, b]) (options .rename none)
    signer accepted valid_listed lists_root).mpr fun _ planned made => ?_
  obtain rfl : [file a, file b] = planned := Except.ok.inj made
  have top : ∀ path ∈ [a, b], ¬ root.tree.Shadows path := by
    rintro path member ⟨ancestor, below, -⟩
    have none : ∀ path ∈ [a, b], relativeAncestors path = [] := by decide +kernel
    simpa [none path member] using mem_relativeAncestors.mpr below
  refine ⟨?_, .inr ⟨?_, .inr trivial⟩⟩
  · rintro (shadows | ⟨other, member, -⟩)
    · exact top a (by simp) shadows
    · cases member
  · rintro (shadows | ⟨other, member, renames⟩)
    · exact top b (by simp) shadows
    · obtain rfl := mem_singleton.mp member
      have name : (findRenamedPath root a).toOption = some renamedA := by decide +kernel
      have same : findRenamedPath root a = .ok b := renames.name
      rw [same] at name
      exact absurd name (by decide +kernel)

/-- The file that is in the way gets the path of the next entry: the preview on disk gives the
path out twice, the inventory is refused. -/
theorem previews_of_renamed_file_differ :
    (checkManifest .wrapping (snapshot [a, renamedA]) = .ok () ∧
      validateTargetInventory listed = .ok () ∧ Lists listed root.tree) ∧
    (previewRestore .wrapping (snapshot [a, renamedA]) root (options .rename (some listed))
        signer).map (fun plan => plan.entries) ≠
      (previewRestore .wrapping (snapshot [a, renamedA]) root (options .rename none)
        signer).map (fun plan => plan.entries) := by
  obtain ⟨_, accepted⟩ := exists_plan
    (show (checkManifest .wrapping (snapshot [a, renamedA])).isOk = true by decide +kernel)
  refine ⟨⟨accepted, valid_listed, lists_root⟩, fun same => ?_⟩
  have onDisk : ((previewRestore .wrapping (snapshot [a, renamedA]) root (options .rename none)
    signer).map fun plan => plan.entries).isOk = true := by decide +kernel
  have refused : ((previewRestore .wrapping (snapshot [a, renamedA]) root
    (options .rename (some listed)) signer).map fun plan => plan.entries).isOk = false := by
    decide +kernel
  rw [← same, refused] at onDisk
  cases onDisk

end Sample

end Covalent.Restore
