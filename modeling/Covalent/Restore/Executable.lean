import Covalent.Restore.Previews

/-!
# Which previews can be executed

A preview is made for each entry by itself.  As a whole it can be executed unless the manifest
has a file above a selected entry, a name that was found for a file is the path of another
entry, or the target has something below a path that is not listed itself.
-/

namespace Covalent.Restore

open Backup List BTreeMap
open Sharing (PublicIdentity)
open PlanFormats

/-! ## What is restored -/

/-- A path that a restore writes: that of a selected entry, or one above it. -/
def Restored (manifest : Manifest) (selected : PathSet) (path : RelativePath) : Prop :=
  ∃ entry ∈ manifest.entries, isSelected selected entry.path = true ∧
    (entry.path = path ∨ isDescendant entry.path path = true)

/-- A plan that can be executed. -/
structure Executable [PlanFormats] (arithmetic : Arithmetic) (manifest : Manifest)
    (root : AuthorizedRoot) (options : RestoreOptions) (signer : PublicIdentity)
    (plan : RestorePlan) : Prop where
  valid : validatePlan arithmetic manifest plan root signer = .ok ()
  once : (plan.entries.map RestorePreviewEntry.sourcePath).Nodup
  named : ∀ entry ∈ manifest.entries, isSelected options.selectedPaths entry.path = true →
    ∃ line ∈ plan.entries, line.sourcePath = entry.path ∧ line.kind = entry.kind
  ancestors : ∀ entry ∈ manifest.entries,
    isSelected options.selectedPaths entry.path = true → ∀ ancestor,
      isDescendant entry.path ancestor = true →
        ∃ line ∈ plan.entries, line.sourcePath = ancestor ∧ line.kind = .directory
  needed : ∀ line ∈ plan.entries, Restored manifest options.selectedPaths line.sourcePath
  different : (plan.entries.map RestorePreviewEntry.destinationPath).Nodup
  /-- No file is planned below another planned file. -/
  apart : ∀ line ∈ plan.entries, line.kind = .file → ∀ other ∈ plan.entries, other.kind = .file →
    ¬ isDescendant line.destinationPath other.destinationPath = true
  /-- No file is planned below a file that exists, or where something lies below. -/
  fits : ∀ line ∈ plan.entries, line.kind = .file →
    (∀ ancestor, (targetOf root options).node ancestor = some .file →
      ¬ isDescendant line.destinationPath ancestor = true) ∧
    ¬ (targetOf root options).Contents line.destinationPath
  free : ∀ line ∈ plan.entries,
    line.action = .createFile ∨ line.action = .createDirectory ∨ line.action = .renameFile →
      ¬ (targetOf root options).Holds line.destinationPath
  existing : ∀ line ∈ plan.entries, line.action = .replaceFile ∨ line.action = .skipFile →
    (targetOf root options).node line.destinationPath = some .file

/-- What makes a preview executable. -/
structure Restorable (manifest : Manifest) (selected : PathSet) (policy : ConflictPolicy)
    (target : Target) : Prop where
  /-- No file of the manifest lies above a selected entry. -/
  leaves : ∀ file ∈ manifest.entries, file.kind = .file → ∀ entry ∈ manifest.entries,
    isSelected selected entry.path = true → ¬ isDescendant entry.path file.path = true
  /-- Where nothing is known to be, nothing lies below. -/
  listed : ∀ path, Restored manifest selected path → target.node path = none →
    ¬ target.Contents path
  /-- The first name that seems free for a file that is in the way is free, and no other
  entry has it. -/
  names : policy = .rename → ∀ file ∈ manifest.entries, file.kind = .file →
    isSelected selected file.path = true → target.node file.path = some .file →
      ∀ found, FirstFrom target.noticed file.path 1 found →
        ¬ Restored manifest selected found ∧ ¬ target.Contents found

/-! ## Lines and entries -/

section Lines

variable {manifest : Manifest} {selected : PathSet} {policy : ConflictPolicy} {target : Target}
  {planned : List ManifestEntry} {lines : List RestorePreviewEntry}
  {entry : ManifestEntry} {line one two : RestorePreviewEntry} {path : RelativePath}

theorem Chosen.exists_line (chosen : Chosen target policy planned lines)
    (member : entry ∈ planned) : ∃ line ∈ lines, Line target policy entry line :=
  forall₂_image chosen.each member

theorem Chosen.exists_entry (chosen : Chosen target policy planned lines)
    (member : line ∈ lines) : ∃ entry ∈ planned, Line target policy entry line :=
  forall₂_origin chosen.each member

theorem Line.sourcePath (fits : Line target policy entry line) : line.sourcePath = entry.path := by
  obtain ⟨⟨choice, -, rfl⟩, -⟩ := fits
  rfl

theorem Line.kind (fits : Line target policy entry line) : line.kind = entry.kind := by
  obtain ⟨⟨choice, -, rfl⟩, -⟩ := fits
  rfl

theorem Chosen.sources (chosen : Chosen target policy planned lines) :
    lines.map RestorePreviewEntry.sourcePath = planned.map ManifestEntry.path :=
  forall₂_map_eq chosen.each fun _ _ fits => fits.sourcePath

theorem Line.isDescendant_destination
    (fits : Line target policy entry line) (ancestor : RelativePath) :
    isDescendant line.destinationPath ancestor = isDescendant entry.path ancestor := by
  obtain ⟨⟨choice, chosen, rfl⟩, -⟩ := fits
  cases chosen with
  | renameFile _ _ _ first =>
    obtain ⟨index, -, named, -⟩ := first
    exact isDescendant_renamed named
  | _ => rfl

theorem Line.matches
    (fits : Line target policy entry line) : actionMatchesKindAndPolicy policy line = true := by
  obtain ⟨⟨choice, chosen, rfl⟩, -⟩ := fits
  cases chosen with
  | renameFile kind _ asked first =>
    obtain ⟨index, -, named, -⟩ := first
    simp [actionMatchesKindAndPolicy, previewEntry, kind, asked, (lt_of_renamed named).ne']
  | _ => simp [actionMatchesKindAndPolicy, previewEntry, *]

/-- The facts that a preview rests on. -/
structure Previewed (manifest : Manifest) (selected : PathSet) (policy : ConflictPolicy)
    (target : Target) (lines : List RestorePreviewEntry) : Prop where
  distinct : (manifest.entries.map ManifestEntry.path).Nodup
  chosen : ∃ planned, Chosen target policy planned lines ∧
    (∀ entry, entry ∈ planned ↔ Plans selected manifest.entries entry.path entry) ∧
    planned.Pairwise fun one two => one.path < two.path

namespace Previewed

section

variable (previewed : Previewed manifest selected policy target lines)

include previewed

theorem once : (lines.map RestorePreviewEntry.sourcePath).Nodup := by
  obtain ⟨planned, chosen, -, ordered⟩ := previewed.chosen
  rw [chosen.sources]
  exact pairwise_map.mpr (ordered.imp fun less => less.ne)

theorem eq_of_sourcePath (first : one ∈ lines) (second : two ∈ lines)
    (same : one.sourcePath = two.sourcePath) : one = two :=
  inj_on_of_nodup_map previewed.once first second same

theorem exists_line (restored : Restored manifest selected path) :
    ∃ entry, Plans selected manifest.entries path entry ∧
      ∃ line ∈ lines, Line target policy entry line := by
  obtain ⟨planned, chosen, plans, -⟩ := previewed.chosen
  suffices some : ∃ entry, Plans selected manifest.entries path entry by
    obtain ⟨entry, planned⟩ := some
    exact ⟨entry, planned, chosen.exists_line ((plans entry).mpr (planned.path_eq.symm ▸ planned))⟩
  obtain ⟨lower, member, selects, place⟩ := restored
  by_cases own : ∃ entry ∈ manifest.entries,
      isSelected selected entry.path = true ∧ entry.path = path
  · obtain ⟨entry, known, chosen, rfl⟩ := own
    exact ⟨entry, .inl ⟨known, chosen, rfl⟩⟩
  · refine ⟨_, .inr ⟨rfl, ⟨lower, member, selects, ?_⟩, fun other known chosen same =>
      own ⟨other, known, chosen, same⟩⟩⟩
    rcases place with same | below
    · exact absurd ⟨lower, member, selects, same⟩ own
    · exact below

/-- A selected entry has a line of its own. -/
theorem exists_own (member : entry ∈ manifest.entries)
    (selects : isSelected selected entry.path = true) :
    ∃ line ∈ lines, Line target policy entry line := by
  obtain ⟨planned, plans, line, present, fits⟩ :=
    previewed.exists_line ⟨entry, member, selects, .inl rfl⟩
  rcases plans with ⟨known, -, same⟩ | ⟨-, -, absent⟩
  · obtain rfl := inj_on_of_nodup_map previewed.distinct known member same
    exact ⟨line, present, fits⟩
  · exact absurd rfl (absent entry member selects)

theorem exists_entry (member : line ∈ lines) :
    ∃ entry, Plans selected manifest.entries line.sourcePath entry ∧
      Line target policy entry line := by
  obtain ⟨planned, chosen, plans, -⟩ := previewed.chosen
  obtain ⟨entry, present, fits⟩ := chosen.exists_entry member
  rw [fits.sourcePath]
  exact ⟨entry, (plans entry).mp present, fits⟩

theorem leaf (path : RelativePath)
    (file : target.node path = some .file) : ¬ target.Contents path := by
  obtain ⟨planned, chosen, -⟩ := previewed.chosen
  exact chosen.leaf path file

end

end Previewed

theorem Plans.restored (plans : Plans selected manifest.entries path entry) :
    Restored manifest selected path := by
  rcases plans with ⟨member, selects, rfl⟩ | ⟨-, ⟨lower, member, selects, below⟩, -⟩
  · exact ⟨entry, member, selects, .inl rfl⟩
  · exact ⟨lower, member, selects, .inr below⟩

theorem Plans.file (plans : Plans selected manifest.entries path entry)
    (kind : entry.kind = .file) :
    entry ∈ manifest.entries ∧ isSelected selected entry.path = true ∧ entry.path = path := by
  rcases plans with ⟨member, selects, rfl⟩ | ⟨rfl, -⟩
  · exact ⟨member, selects, rfl⟩
  · cases kind

/-! ## Restorable previews -/

section

variable (restorable : Restorable manifest selected policy target)

include restorable

/-- Where something is written: at the path of an entry, or under a name that is free. -/
theorem Restorable.destination (plans : Plans selected manifest.entries line.sourcePath entry)
    (fits : Line target policy entry line) :
    line.destinationPath = line.sourcePath ∨
      (¬ Restored manifest selected line.destinationPath ∧ ¬ target.Contents line.destinationPath ∧
        ∃ index, line.destinationPath.value = renamedText line.sourcePath index) := by
  have source := fits.sourcePath
  obtain ⟨⟨choice, chosen, rfl⟩, -⟩ := fits
  cases chosen with
  | renameFile kind present asked first =>
    obtain ⟨member, selects, -⟩ := plans.file kind
    obtain ⟨unplanned, empty⟩ := restorable.names asked entry member kind selects present _ first
    obtain ⟨index, -, named, -⟩ := first
    exact .inr ⟨unplanned, empty, index, named⟩
  | _ => exact .inl rfl

section

variable (previewed : Previewed manifest selected policy target lines)

include previewed

theorem Restorable.sourcePath_eq (first : one ∈ lines) (second : two ∈ lines)
    (same : one.destinationPath = two.destinationPath) : one.sourcePath = two.sourcePath := by
  obtain ⟨entry, plans, fits⟩ := previewed.exists_entry first
  obtain ⟨other, plansToo, fitsToo⟩ := previewed.exists_entry second
  rcases restorable.destination plans fits with here | ⟨unplanned, -, index, named⟩
  · rcases restorable.destination plansToo fitsToo with there | ⟨unplannedToo, -⟩
    · rw [← here, same, there]
    · rw [← same, here] at unplannedToo
      exact absurd plans.restored unplannedToo
  · rcases restorable.destination plansToo fitsToo with there | ⟨-, -, position, namedToo⟩
    · rw [same, there] at unplanned
      exact absurd plansToo.restored unplanned
    · rw [← same] at namedToo
      exact eq_of_renamed_eq named namedToo

theorem Restorable.apart (first : one ∈ lines) (file : one.kind = .file)
    (second : two ∈ lines) (fileToo : two.kind = .file) :
    ¬ isDescendant one.destinationPath two.destinationPath = true := by
  obtain ⟨entry, plans, fits⟩ := previewed.exists_entry first
  obtain ⟨other, plansToo, fitsToo⟩ := previewed.exists_entry second
  obtain ⟨member, selects, -⟩ := plans.file (fits.kind ▸ file)
  obtain ⟨memberToo, selectsToo, place⟩ := plansToo.file (fitsToo.kind ▸ fileToo)
  rw [fits.isDescendant_destination]
  intro below
  rcases restorable.destination plansToo fitsToo with there | ⟨unplanned, -⟩
  · rw [there, ← place] at below
    exact restorable.leaves other memberToo (fitsToo.kind ▸ fileToo) entry member selects below
  · exact unplanned ⟨entry, member, selects, .inr below⟩

theorem Restorable.empty (member : line ∈ lines) (file : line.kind = .file) :
    ¬ target.Contents line.destinationPath := by
  obtain ⟨entry, plans, fits⟩ := previewed.exists_entry member
  have kind := fits.kind ▸ file
  rcases restorable.destination plans fits with here | ⟨-, empty, -⟩
  · rw [here]
    cases found : target.node line.sourcePath with
    | none => exact restorable.listed _ plans.restored found
    | some node =>
      refine previewed.leaf _ ?_
      rw [fits.sourcePath] at found ⊢
      obtain ⟨⟨choice, chosen, -⟩, -⟩ := fits
      cases chosen with
      | createDirectory directory _ => exact absurd kind (by rw [directory]; exact nofun)
      | keepDirectory directory _ => exact absurd kind (by rw [directory]; exact nofun)
      | createFile _ missing => cases (found.symm.trans missing)
      | _ => assumption
  · exact empty

theorem Restorable.free (member : line ∈ lines)
    (creates : line.action = .createFile ∨ line.action = .createDirectory ∨
      line.action = .renameFile) : ¬ target.Holds line.destinationPath := by
  obtain ⟨entry, plans, fits⟩ := previewed.exists_entry member
  have place := restorable.destination plans fits
  have planned := plans.restored
  obtain ⟨⟨choice, chosen, rfl⟩, -⟩ := fits
  cases chosen with
  | createDirectory _ missing =>
    exact not_or.mpr ⟨by simp [previewEntry, missing], restorable.listed _ planned missing⟩
  | createFile _ missing =>
    exact not_or.mpr ⟨by simp [previewEntry, missing], restorable.listed _ planned missing⟩
  | renameFile _ _ _ first =>
    obtain ⟨index, -, named, unnoticed, -⟩ := first
    rcases place with same | ⟨-, empty, -⟩
    · exact absurd same (lt_of_renamed named).ne'
    · exact not_or.mpr ⟨fun present => unnoticed (target.noticed_node _ present), empty⟩
  | _ => simp [previewEntry] at creates

end

end

theorem Previewed.existing (previewed : Previewed manifest selected policy target lines)
    (member : line ∈ lines) (keeps : line.action = .replaceFile ∨ line.action = .skipFile) :
    target.node line.destinationPath = some .file := by
  obtain ⟨entry, -, fits⟩ := previewed.exists_entry member
  obtain ⟨⟨choice, chosen, rfl⟩, -⟩ := fits
  cases chosen with
  | skipFile _ present _ => exact present
  | replaceFile _ present _ => exact present
  | _ => simp [previewEntry] at keeps

end Lines

/-! ## The check of a plan -/

section Checks

variable {manifest : Manifest}

theorem ordered_of_checkEntries {arithmetic : Arithmetic} {entries : List ManifestEntry}
    {previous : Option RelativePath} (passes : checkEntries arithmetic previous entries = .ok ()) :
    (∀ path ∈ previous, ∀ entry ∈ entries, path.value < entry.path.value) ∧ Ordered entries := by
  induction entries generalizing previous with
  | nil => exact ⟨fun _ _ => nofun, .nil⟩
  | cons entry rest ih =>
    simp only [checkEntries, bind_eq_ok, exists_unit, refuseWith_eq_ok,
      sortedTest_eq_false] at passes
    exact ordered_cons_iff.mpr ⟨passes.1, ih passes.2.2⟩

theorem distinct_of_checkManifest {arithmetic : Arithmetic}
    (passes : checkManifest arithmetic manifest = .ok ()) :
    (manifest.entries.map ManifestEntry.path).Nodup := by
  simp only [checkManifest, Except.mapError_eq_ok, Manifest.validate, bind_eq_ok,
    exists_unit] at passes
  have ordered := (ordered_of_checkEntries passes.2.1).2
  exact pairwise_map.mpr (ordered.imp fun less same => absurd (same ▸ less) (lt_irrefl _))

theorem get?_manifestKinds (distinct : (manifest.entries.map ManifestEntry.path).Nodup)
    {entry : ManifestEntry} (member : entry ∈ manifest.entries) :
    (manifestKinds manifest).get? entry.path = some entry.kind := by
  refine get?_ofList_of_mem ?_ (mem_map.mpr ⟨entry, member, rfl⟩)
  rw [map_map]
  exact distinct

theorem exists_of_manifestKinds {path : RelativePath} {kind : EntryKind}
    (known : (manifestKinds manifest).get? path = some kind) :
    ∃ entry ∈ manifest.entries, entry.path = path ∧ entry.kind = kind := by
  obtain ⟨entry, present, same⟩ := mem_map.mp (mem_of_get?_ofList known)
  exact ⟨entry, present, Prod.mk.inj same⟩

/-- What the check of a plan asks of one line. -/
structure Admissible (manifest : Manifest) (policy : ConflictPolicy)
    (entries : List RestorePreviewEntry) (line : RestorePreviewEntry) : Prop where
  known : ∀ kind, (manifestKinds manifest).get? line.sourcePath = some kind → kind = line.kind
  implied : (manifestKinds manifest).get? line.sourcePath = none → line.kind = .directory ∧
    ∃ candidate ∈ entries, isDescendant candidate.sourcePath line.sourcePath = true
  agrees : actionMatchesKindAndPolicy policy line = true

theorem checkPreview_eq_ok {policy : ConflictPolicy} {entries passed : List RestorePreviewEntry}
    {line : RestorePreviewEntry} :
    checkPreview manifest policy entries passed line = .ok () ↔
      Admissible manifest policy entries line ∧ ∀ earlier ∈ passed,
        earlier.sourcePath ≠ line.sourcePath ∧ earlier.destinationPath ≠ line.destinationPath := by
  simp only [checkPreview, refuse_eq_ok, Bool.or_eq_false_iff, Bool.not_eq_false',
    any_eq_false, beq_iff_eq]
  constructor
  · rintro ⟨⟨⟨⟨sources, destinations⟩, known⟩, implied⟩, agrees⟩
    refine ⟨⟨fun kind found => ?_, fun missing => ?_, agrees⟩, fun earlier member =>
      ⟨sources earlier member, destinations earlier member⟩⟩
    · rw [found] at known
      simpa using known
    · rw [missing] at implied
      simpa using implied
  · rintro ⟨admissible, before⟩
    refine ⟨⟨⟨⟨fun earlier member => (before earlier member).1,
      fun earlier member => (before earlier member).2⟩, ?_⟩, ?_⟩, admissible.agrees⟩
    · cases found : (manifestKinds manifest).get? line.sourcePath with
      | none => rfl
      | some kind => simp [admissible.known kind found]
    · cases found : (manifestKinds manifest).get? line.sourcePath with
      | none => simpa using admissible.implied found
      | some kind => rfl

end Checks

/-! ## Plans that were made -/

section Made

variable [PlanFormats] {arithmetic : Arithmetic} {manifest : Manifest}
  {root : AuthorizedRoot} {options : RestoreOptions} {signer : PublicIdentity} {plan : RestorePlan}

theorem previewed_of_plannedActions {manifest : Manifest} {lines : List RestorePreviewEntry}
    (distinct : (manifest.entries.map ManifestEntry.path).Nodup)
    (done : plannedActions manifest root options = .ok lines) :
    Previewed manifest options.selectedPaths options.conflictPolicy (targetOf root options)
      lines := by
  refine ⟨distinct, ?_⟩
  unfold plannedActions at done
  unfold targetOf
  cases listed : options.targetInventory with
  | none =>
    simp only [listed, bind_eq_ok] at done
    obtain ⟨planned, entries, decided⟩ := done
    obtain ⟨plans, ordered⟩ := mem_plannedManifestEntries distinct entries
    exact ⟨planned, chosen_previewActions decided, plans, ordered⟩
  | some inventory =>
    simp only [listed, previewActionsFromInventory, bind_eq_ok, exists_unit] at done
    obtain ⟨valid, planned, entries, decided⟩ := done
    obtain ⟨plans, ordered⟩ := mem_plannedManifestEntries distinct entries
    simp only [validateTargetInventory, bind_eq_ok, exists_unit] at valid
    have canonical := canonical_checkInOrder ⟨.nil, by rintro _ ⟨⟩⟩ valid.2.1
    exact ⟨planned, chosen_inventoryActions canonical ordered decided, plans, ordered⟩

section

variable (made : previewRestore arithmetic manifest root options signer = .ok plan)

include made

theorem previewed_of_made : Previewed manifest options.selectedPaths options.conflictPolicy
      (targetOf root options) plan.entries := by
  simp only [previewRestore, bind_eq_ok, exists_unit, pure_eq_ok] at made
  obtain ⟨passes, -, lines, done, text, -, rfl⟩ := made
  exact previewed_of_plannedActions (distinct_of_checkManifest passes) done

theorem validatePlan_of_made :
    validatePlan arithmetic manifest plan root signer = .ok () ↔ (∀ line ∈ plan.entries,
        Admissible manifest options.conflictPolicy plan.entries line) ∧
      plan.entries.Pairwise fun earlier line =>
        earlier.sourcePath ≠ line.sourcePath ∧ earlier.destinationPath ≠ line.destinationPath := by
  simp only [previewRestore, bind_eq_ok, exists_unit, okOr_eq_ok, pure_eq_ok,
    validateRestoreOptions] at made
  obtain ⟨passes, ⟨job, inventories⟩, lines, done, text, path, rfl⟩ := made
  have binding : checkEach (checkBinding lines)
      (options.targetInventory.map (inventoryBinding lines)).toList = .ok () := by
    rw [checkEach_eq_ok] at inventories ⊢
    intro bound member
    cases listed : options.targetInventory with
    | none => simp [listed] at member
    | some inventory =>
      obtain rfl : bound = inventoryBinding lines inventory := by simpa [listed] using member
      have valid := inventories inventory (by simp [listed])
      simp only [validateTargetInventory, bind_eq_ok, exists_unit, refuse_eq_ok] at valid
      have header := valid.1
      simp only [Bool.or_eq_false_iff] at header
      obtain ⟨⟨⟨⟨version, token⟩, many⟩, count⟩, digest⟩ := header
      have same : inventory.entryCount = inventory.entries.length := by simpa using count
      simp [checkBinding, refuse_eq_ok, inventoryBinding, version, token, digest, same, many]
  simp only [validatePlan, bind_eq_ok, exists_unit, passes, job, binding, refuse_eq_ok,
    path, verify_sign, true_and]
  have each := @checkInOrder_nil_eq_ok _ _
    (checkPreview manifest options.conflictPolicy lines)
    (Admissible manifest options.conflictPolicy lines)
    (fun earlier line => earlier.sourcePath ≠ line.sourcePath ∧
      earlier.destinationPath ≠ line.destinationPath)
    (fun _ _ => checkPreview_eq_ok) lines ()
  rw [each]
  simp

omit made in
omit [PlanFormats] in
theorem Restorable.admissible {manifest : Manifest} {selected : PathSet} {policy : ConflictPolicy}
    {target : Target} {lines : List RestorePreviewEntry}
    (restorable : Restorable manifest selected policy target)
    (previewed : Previewed manifest selected policy target lines) {line : RestorePreviewEntry}
    (member : line ∈ lines) : Admissible manifest policy lines line := by
  obtain ⟨entry, plans, fits⟩ := previewed.exists_entry member
  refine ⟨fun kind found => ?_, fun missing => ?_, fits.matches⟩
  · obtain ⟨known, present, place, rfl⟩ := exists_of_manifestKinds found
    rw [fits.kind]
    rcases plans with ⟨planned, -, same⟩ | ⟨rfl, ⟨lower, selectedToo, selects, below⟩, -⟩
    · exact congrArg ManifestEntry.kind (inj_on_of_nodup_map previewed.distinct present
        planned (place.trans same.symm))
    · -- A directory is needed here, so the manifest has no file here.
      cases kind : known.kind with
      | file =>
        rw [← place] at below
        exact absurd below (restorable.leaves known present kind lower selectedToo selects)
      | directory => rfl
  · rcases plans with ⟨planned, -, same⟩ | ⟨rfl, ⟨lower, known, selects, below⟩, -⟩
    · rw [← same, get?_manifestKinds previewed.distinct planned] at missing
      cases missing
    · obtain ⟨candidate, present, fitsToo⟩ := previewed.exists_own known selects
      refine ⟨fits.kind, candidate, present, ?_⟩
      rw [fitsToo.sourcePath]
      exact below

theorem Restorable.executable
    (restorable : Restorable manifest options.selectedPaths options.conflictPolicy
      (targetOf root options)) : Executable arithmetic manifest root options signer plan := by
  have previewed := previewed_of_made made
  have different : (plan.entries.map RestorePreviewEntry.destinationPath).Nodup := by
    refine .map_on (fun one first two second same => ?_) previewed.once.of_map
    exact previewed.eq_of_sourcePath first second
      (restorable.sourcePath_eq previewed first second same)
  refine
    { valid := ?_
      once := previewed.once
      named := fun entry member selects => ?_
      ancestors := fun entry member selects ancestor below => ?_
      needed := fun line member => ?_
      different := different
      apart := fun line member file other present fileToo =>
        restorable.apart previewed member file present fileToo
      fits := fun line member file => ⟨fun ancestor found below => ?_,
        restorable.empty previewed member file⟩
      free := fun line member creates => restorable.free previewed member creates
      existing := fun line member keeps => previewed.existing member keeps }
  · refine (validatePlan_of_made made).mpr ⟨fun line member =>
      restorable.admissible previewed member, ?_⟩
    exact (pairwise_map.mp previewed.once).and (pairwise_map.mp different)
  · obtain ⟨line, present, fits⟩ := previewed.exists_own member selects
    exact ⟨line, present, fits.sourcePath, fits.kind⟩
  · obtain ⟨planned, plans, line, present, fits⟩ :=
      previewed.exists_line ⟨entry, member, selects, .inr below⟩
    refine ⟨line, present, fits.sourcePath.trans plans.path_eq, fits.kind.trans ?_⟩
    cases kind : planned.kind with
    | directory => rfl
    | file =>
      obtain ⟨known, -, rfl⟩ := plans.file kind
      exact absurd below (restorable.leaves planned known kind entry member selects)
  · obtain ⟨entry, plans, -⟩ := previewed.exists_entry member
    exact plans.restored
  · obtain ⟨entry, -, fits⟩ := previewed.exists_entry member
    rw [fits.isDescendant_destination] at below
    exact fits.above ancestor below found

theorem Executable.restorable
    (executable : Executable arithmetic manifest root options signer plan) :
    Restorable manifest options.selectedPaths options.conflictPolicy
      (targetOf root options) := by
  have previewed := previewed_of_made made
  refine ⟨fun file member kind entry present selects below => ?_, fun path restored missing => ?_,
    fun asked file member kind selects present found first => ?_⟩
  · -- The path of the file is planned as a directory, and the check notices it.
    obtain ⟨line, planned, source, directory⟩ :=
      executable.ancestors entry present selects file.path below
    have admissible := ((validatePlan_of_made made).mp executable.valid).1 line planned
    have known := get?_manifestKinds previewed.distinct member
    rw [← source] at known
    have same := admissible.known _ known
    rw [kind, directory] at same
    cases same
  · obtain ⟨entry, plans, line, member, fits⟩ := previewed.exists_line restored
    have free := executable.free line member
    obtain rfl := plans.path_eq
    obtain ⟨⟨choice, chosen, rfl⟩, -⟩ := fits
    cases chosen with
    | createDirectory _ _ => exact (not_or.mp (free (.inr (.inl rfl)))).2
    | createFile _ _ => exact (not_or.mp (free (.inl rfl))).2
    | keepDirectory _ there => cases (missing.symm.trans there)
    | skipFile _ there _ => cases (missing.symm.trans there)
    | replaceFile _ there _ => cases (missing.symm.trans there)
    | renameFile _ there _ _ => cases (missing.symm.trans there)
  · obtain ⟨line, planned, fits⟩ := previewed.exists_own member selects
    have destination : line.destinationPath = found ∧ line.action = .renameFile := by
      obtain ⟨⟨choice, chosen, rfl⟩, -⟩ := fits
      cases chosen with
      | renameFile _ _ _ firstToo => exact ⟨firstToo.unique first, rfl⟩
      | createDirectory directory _ => rw [kind] at directory; cases directory
      | keepDirectory directory _ => rw [kind] at directory; cases directory
      | createFile _ missing => cases (missing.symm.trans present)
      | skipFile _ _ other => rw [asked] at other; cases other
      | replaceFile _ _ other => rw [asked] at other; cases other
    obtain ⟨rfl, renamed⟩ := destination
    have free := not_or.mp (executable.free line planned (.inr (.inr renamed)))
    refine ⟨fun restored => ?_, free.2⟩
    -- The entry at the new name would be created there as well.
    obtain ⟨other, plansToo, second, plannedToo, fitsToo⟩ := previewed.exists_line restored
    have missing : (targetOf root options).node line.destinationPath = none := by
      simpa using free.1
    have same : second.destinationPath = line.destinationPath := by
      have place := plansToo.path_eq
      obtain ⟨⟨choice, chosen, rfl⟩, -⟩ := fitsToo
      rw [← place] at missing
      cases chosen with
      | renameFile _ there _ _ => cases (missing.symm.trans there)
      | _ => exact place
    obtain rfl := inj_on_of_nodup_map executable.different plannedToo planned same
    obtain ⟨index, -, named, -⟩ := first
    have own : second.destinationPath = file.path := by
      rw [← plansToo.path_eq, ← fitsToo.sourcePath, fits.sourcePath]
    exact absurd own (lt_of_renamed named).ne'

end

/-- A preview can be executed exactly when no file of the manifest lies above a selected
entry, names for files that are in the way are free and not planned, and nothing of the target
lies below a planned path that it does not list. -/
theorem preview_executable_iff
    (made : previewRestore arithmetic manifest root options signer = .ok plan) :
    Executable arithmetic manifest root options signer plan ↔
      Restorable manifest options.selectedPaths options.conflictPolicy
        (targetOf root options) :=
  ⟨Executable.restorable made, Restorable.executable made⟩

end Made

/-! ## Plans that cannot be executed -/

namespace Sample

scoped instance formats : PlanFormats where
  manifestDigest _ := ""
  actionsDigest _ := ""
  inventoryDigest _ _ := "0000000000000000000000000000000000000000000000000000000000000000"
  planDigest _ := ""
  sign _ text := text
  verify _ text signature := text == signature
  verify_sign _ _ := beq_self_eq_true _

theorem a_valid : validateRelativePath "a" = .ok () :=
  rfl

def a : RelativePath := ⟨"a", a_valid⟩

theorem relativeAncestors_a : relativeAncestors a = [] := by decide +kernel

def b : RelativePath := ⟨"b", by decide +kernel⟩

/-- The first name that is tried for `a`. -/
def renamedA : RelativePath := ⟨"a.covalent-restored-1", by decide +kernel⟩

def belowB : RelativePath := ⟨"b/c", by decide +kernel⟩

/-- A path that comes between `b` and what lies below it. -/
def besideB : RelativePath := ⟨"b-c", by decide +kernel⟩

def file (path : RelativePath) : ManifestEntry where
  path := path
  kind := .file
  length := 0
  chunks := []
  sparse := false
  sparseExtents := []

def snapshot (paths : List RelativePath) : Manifest :=
  { Backup.Sample.sparseManifest [] with entries := paths.map file }

/-- A directory with the file `a`. -/
def root : AuthorizedRoot where
  canonicalPath := some "/"
  device := 1
  inode := 1
  tree :=
    { nodes := (∅ : BTreeMap RelativePath NodeKind).insert a .file
      unreadable := ∅
      closed := by
        intro path ancestor present below
        rw [get?_insert] at present
        split_ifs at present with here
        · subst here
          simpa [relativeAncestors_a] using mem_relativeAncestors.mpr below
        · cases present }

def options (policy : ConflictPolicy) (inventory : Option TargetInventory) : RestoreOptions where
  conflictPolicy := policy
  selectedPaths := ∅
  jobId := "j"
  targetInventory := inventory

/-- A list of two files, one of them in a directory that is not listed. -/
def inventory : TargetInventory where
  schemaVersion := 1
  rootIdentity := "r"
  entryCount := 2
  totalBytes := 0
  inventoryDigest := "0000000000000000000000000000000000000000000000000000000000000000"
  entries := [⟨besideB, .file, 0, "t"⟩, ⟨belowB, .file, 0, "t"⟩]

def signer : PublicIdentity := ⟨⟨⟨1⟩⟩, "", ""⟩

theorem exists_plan {α ε : Type} {result : Except ε α} (ended : result.isOk = true) :
    ∃ value, result = .ok value := by
  cases result with
  | ok value => exact ⟨value, rfl⟩
  | error problem => cases ended

/-- Nothing lies below a path of the directory. -/
theorem not_contents (path : RelativePath) : ¬ root.tree.target.Contents path := by
  rintro ⟨below, present, inside⟩
  have present : ((insert ∅ a NodeKind.file).get? below).isSome = true := present
  rw [get?_insert] at present
  split_ifs at present with here
  · subst here
    simpa [relativeAncestors_a] using mem_relativeAncestors.mpr inside
  · cases present

theorem restored_iff {path : RelativePath} :
    Restored (snapshot [a, b]) ∅ path ↔ path = a ∨ path = b := by
  have top : relativeAncestors b = [] := by decide +kernel
  simp only [Restored, snapshot, map_cons, map_nil, mem_cons, not_mem_nil, or_false,
    exists_eq_or_imp, exists_eq_left, ← mem_relativeAncestors, file, relativeAncestors_a, top]
  exact or_congr ⟨fun restored => restored.2.symm, fun same => ⟨by decide +kernel, same.symm⟩⟩
    ⟨fun restored => restored.2.symm, fun same => ⟨by decide +kernel, same.symm⟩⟩

/-- A file is restored, and another one under a new name. -/
theorem renamed_file_is_executable :
    ∃ plan, previewRestore .wrapping (snapshot [a, b]) root (options .rename none) signer =
        .ok plan ∧
      plan.entries.map RestorePreviewEntry.destinationPath = [renamedA, b] ∧
      Executable .wrapping (snapshot [a, b]) root (options .rename none) signer plan := by
  have destinations : ((previewRestore .wrapping (snapshot [a, b]) root (options .rename none)
      signer).toOption.map fun plan => plan.entries.map RestorePreviewEntry.destinationPath) =
      some [renamedA, b] := by decide +kernel
  cases made : previewRestore .wrapping (snapshot [a, b]) root (options .rename none) signer with
  | error problem =>
    rw [made] at destinations
    cases destinations
  | ok plan =>
    rw [made] at destinations
    refine ⟨plan, rfl, Option.some.inj destinations, (preview_executable_iff made).mpr ?_⟩
    refine ⟨?_, fun path _ _ => not_contents path, fun _ entry member _ _ present found first => ?_⟩
    · decide +kernel
    · have named : FirstFrom root.tree.target.noticed a 1 renamedA :=
        .here (by decide +kernel) (by rw [Tree.target_noticed]; decide +kernel)
      simp only [snapshot, map_cons, map_nil, mem_cons, not_mem_nil, or_false] at member
      rcases member with rfl | rfl
      · obtain rfl := named.unique first
        refine ⟨fun restored => ?_, not_contents _⟩
        exact absurd (restored_iff.mp restored) (by decide +kernel)
      · exact absurd present (by decide +kernel)

/-- A file above another entry, a name that another entry has, and a directory that the list
of a target leaves out: each is previewed, and none of the plans can be executed. -/
theorem previews_that_cannot_be_executed :
    (∃ plan, previewRestore .wrapping (snapshot [b, belowB]) root (options .fail none) signer =
        .ok plan ∧
      ¬ Executable .wrapping (snapshot [b, belowB]) root (options .fail none) signer plan) ∧
    (∃ plan, previewRestore .wrapping (snapshot [a, renamedA]) root (options .rename none) signer =
        .ok plan ∧
      ¬ Executable .wrapping (snapshot [a, renamedA]) root (options .rename none) signer plan) ∧
    ∃ plan, previewRestore .wrapping (snapshot [b]) root (options .fail inventory) signer =
        .ok plan ∧
      ¬ Executable .wrapping (snapshot [b]) root (options .fail inventory) signer plan := by
  refine ⟨?_, ?_, ?_⟩
  · obtain ⟨plan, made⟩ := exists_plan (show (previewRestore .wrapping (snapshot [b, belowB]) root
      (options .fail none) signer).isOk = true by decide +kernel)
    refine ⟨plan, made, fun executable => ?_⟩
    exact (executable.restorable made).leaves (file b) (by simp [snapshot]) rfl (file belowB)
      (by simp [snapshot]) (by decide +kernel) (by decide +kernel)
  · obtain ⟨plan, made⟩ := exists_plan (show (previewRestore .wrapping (snapshot [a, renamedA])
      root (options .rename none) signer).isOk = true by decide +kernel)
    refine ⟨plan, made, fun executable => ?_⟩
    have first : FirstFrom root.tree.target.noticed a 1 renamedA :=
      .here (by decide +kernel) (by rw [Tree.target_noticed]; decide +kernel)
    refine ((executable.restorable made).names rfl (file a) (by simp [snapshot]) rfl
      (by decide +kernel) (by decide +kernel) renamedA first).1 ?_
    exact ⟨file renamedA, by simp [snapshot], by decide +kernel, .inl rfl⟩
  · obtain ⟨plan, made⟩ := exists_plan (show (previewRestore .wrapping (snapshot [b]) root
      (options .fail inventory) signer).isOk = true by decide +kernel)
    refine ⟨plan, made, fun executable => ?_⟩
    refine (executable.restorable made).listed b
      ⟨file b, by simp [snapshot], by decide +kernel, .inl rfl⟩ (by decide +kernel) ?_
    exact ⟨belowB, by decide +kernel, by decide +kernel⟩

end Sample

end Covalent.Restore
