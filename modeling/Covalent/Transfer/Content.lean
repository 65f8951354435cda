import Covalent.Transfer.Run

/-!
# What a successful run says about the destination's files

A run skips every source path whose entry it believes was delivered earlier.  That
belief is the policy's `delivered` map, which is only replaced when a run finishes,
while a run that fails after the copy program started has changed files all the
same.

**When the belief is right.**  A path is *unfinished* once a run handed it over
for copying and did not finish, until a later run that copies it does.  Outside the
unfinished paths a delivered path is absent or holds what its entry describes, and a
suppressed path is absent (`Mirrored`).  A run can go wrong on an unfinished path
alone: when the source lists again exactly the entry recorded as delivered, the run
skips the path, and the final comparison of sizes does not see the difference.
-/

namespace Covalent.Transfer

open BTreeMap

variable {Content : Type}

/-! ## Unfinished paths -/

/-- The paths that a run handed over for copying without finishing, and that no
finished run has copied since. -/
def unfinished : List Action → Finset String
  | [] => ∅
  | .handed transfer :: earlier => unfinished earlier ∪ transfer.copyList
  | .copyRecorded _ _ :: earlier => unfinished earlier
  | .completed transfer :: earlier => unfinished earlier \ transfer.copyList

section Assumptions

variable (contentOf : InventoryEntry → Content)
  (inventoryIndex : List InventoryEntry → EngineIndexSnapshot)
  (folderId : Uuid)

/-- The surroundings of a run as the program relies on them.  Listings of the
target show the files that are there; the copy program writes listed source paths
only; and a check that succeeds, of a copy that stands, finds every copied file
equal to the source.  That an entry describes one content is built into
`contentOf`; that the user only deletes is built into `RunInputs`. -/
structure Honest (run : RunInputs Content) (world : World Content) : Prop where
  listing : ∀ entries, run.targetListing = .ok entries → ∀ path,
    (byPath entries).containsKey path = (listedWorld run world).files.containsKey path
  copying : ∀ plan, Planned inventoryIndex folderId run world plan → ∀ path ∉ plan.pending.copyList,
      run.filesAfterCopy.get? path = none ∨
        run.filesAfterCopy.get? path = (listedWorld run world).files.get? path
  checking : ∀ plan, Planned inventoryIndex folderId run world plan →
    CopyStands run plan.pending → run.check = .ok () →
    ∀ path ∈ plan.pending.copyList, ∀ entry, plan.source.get? path = some entry →
      (checkedWorld folderId run world plan).files.get? path = some (contentOf entry)
  relisting : ∀ entries, run.targetAfterCopy = .ok entries →
    ∀ plan, Planned inventoryIndex folderId run world plan → ∀ path,
      (byPath entries).containsKey path = true →
        (relistedWorld folderId run world plan).files.containsKey path = true

/-- An unfinished path holds something else than the entry under which the policy
believes it delivered. -/
def Stale (world : World Content) (path : String) (entry : InventoryEntry) : Prop :=
  path ∈ unfinished world.history ∧
    (world.readPolicy.folder folderId).delivered.get? path = some entry ∧
    ∃ content, world.files.get? path = some content ∧ content ≠ contentOf entry

/-- Outside the unfinished paths, delivered paths are absent or hold what their
entry describes, and suppressed paths are absent. -/
structure Mirrors (history : List Action) (files : BTreeMap String Content)
    (state : FolderPolicyState) : Prop where
  delivered : ∀ path entry, state.delivered.get? path = some entry →
    path ∈ unfinished history ∨ files.get? path = none ∨ files.get? path = some (contentOf entry)
  suppressed : ∀ path ∈ state.suppressions, path ∈ unfinished history ∨ files.get? path = none

/-- The invariant of a link. -/
def Mirrored (world : World Content) : Prop :=
  Mirrors contentOf world.history world.files (world.readPolicy.folder folderId)

end Assumptions

/-! ## Keeping the invariant -/

variable {contentOf : InventoryEntry → Content}

variable {history : List Action} {files : BTreeMap String Content} {state : FolderPolicyState}
  {folderId : Uuid}

theorem Mirrors.of_removed {fewer : BTreeMap String Content}
    (mirrors : Mirrors contentOf history files state)
    (removed : ∀ path, fewer.get? path = none ∨ fewer.get? path = files.get? path ∨
      path ∈ unfinished history) :
    Mirrors contentOf history fewer state := by
  constructor
  · intro path entry bound
    rcases removed path with gone | same | loose
    · exact .inr (.inl gone)
    · rw [same]
      exact mirrors.delivered path entry bound
    · exact .inl loose
  · intro path member
    rcases removed path with gone | same | loose
    · exact .inr gone
    · rw [same]
      exact mirrors.suppressed path member
    · exact .inl loose

theorem Mirrors.of_unfinished_subset {later : List Action}
    (mirrors : Mirrors contentOf history files state)
    (grows : unfinished history ⊆ unfinished later) :
    Mirrors contentOf later files state := by
  constructor
  · intro path entry bound
    exact (mirrors.delivered path entry bound).imp_left (fun member => grows member)
  · intro path member
    exact (mirrors.suppressed path member).imp_left (fun member => grows member)

theorem Mirrored.deletes {world : World Content}
    (mirrored : Mirrored contentOf folderId world) (paths : Finset String) :
    Mirrored contentOf folderId (world.deletes paths) := by
  refine .of_removed mirrored ?_
  intro path
  exact (world.get?_deletes_or paths path).imp_right .inl

theorem Mirrored.of_agrees {after expected : World Content}
    (mirrored : Mirrored contentOf folderId expected)
    (agrees : after.Agrees expected) : Mirrored contentOf folderId after := by
  unfold Mirrored at mirrored ⊢
  rw [World.readPolicy, agrees.history, agrees.files, agrees.policy]
  exact mirrored

section Run

variable {inventoryIndex : List InventoryEntry → EngineIndexSnapshot}
  {folderId : Uuid} {run : RunInputs Content} {world : World Content}
  {plan : RunPlan} {path : String} {entry : InventoryEntry} {files : BTreeMap String Content}

theorem Mirrored.listed (mirrored : Mirrored contentOf folderId world) (run : RunInputs Content) :
    Mirrored contentOf folderId (listedWorld run world) :=
  mirrored.deletes run.deletedBeforeListing

theorem Mirrored.publish {policy : PolicyState} {state : FolderPolicyState} {actions : List Action}
    (mirrors : Mirrors contentOf (actions ++ world.history) world.files state) :
    Mirrored contentOf folderId (world.publish (policy.setFolder folderId state) actions) := by
  unfold Mirrored
  rw [World.readPolicy_publish, PolicyState.folder_setFolder]
  exact mirrors

section

variable (planned : Planned inventoryIndex folderId run world plan)

include planned

theorem Planned.state_delivered :
    plan.state.delivered = (world.readPolicy.folder folderId).delivered := by
  obtain ⟨_, _, _, -, -, -, -, rfl, -⟩ := planned
  rfl

theorem Planned.state_suppressions :
    plan.state.suppressions = (world.readPolicy.folder folderId).suppressions := by
  obtain ⟨_, _, _, -, -, -, -, rfl, -⟩ := planned
  rfl

/-- The files at the time of the listing agree with any policy that keeps what
was delivered and suppressed. -/
theorem Planned.listed_mirrors (mirrored : Mirrored contentOf folderId world)
    (state : FolderPolicyState) (delivered : state.delivered = plan.state.delivered)
    (suppressions : state.suppressions = plan.state.suppressions) :
    Mirrors contentOf world.history (listedWorld run world).files state := by
  constructor
  · rw [delivered, planned.state_delivered]
    exact (mirrored.listed run).delivered
  · rw [suppressions, planned.state_suppressions]
    exact (mirrored.listed run).suppressed

theorem Planned.suppressed_not_copied (member : path ∈ plan.pending.suppressions) :
    path ∉ plan.pending.copyList := by
  obtain ⟨_, _, _, -, -, -, -, rfl, -⟩ := planned
  intro copied
  exact planTransfer_disjoint (mem_copyList.mp copied).1 member

/-- A source path that is neither suppressed nor copied was delivered before. -/
theorem Planned.delivered_of_skipped (present : plan.source.get? path = some entry)
    (wanted : path ∉ plan.pending.suppressions) (notCopied : path ∉ plan.pending.copyList) :
    plan.state.delivered.get? path = some entry := by
  obtain ⟨_, _, _, -, -, -, -, rfl, -⟩ := planned
  rcases planTransfer_source_cases present with allowed | suppressed | delivered
  · exact absurd (mem_copyList.mpr ⟨allowed, entry, present⟩) notCopied
  · exact absurd suppressed wanted
  · exact delivered

/-- What a finished run establishes for each of its source paths makes the next
policy agree with the files. -/
theorem Planned.completed_mirrors {history : List Action} {state : FolderPolicyState}
    (believed : Mirrors contentOf history files state)
    (delivered : state.delivered = plan.state.delivered)
    (copied : ∀ path ∈ plan.pending.copyList, ∀ entry, plan.source.get? path = some entry →
        files.get? path = none ∨ files.get? path = some (contentOf entry))
    (suppressed : ∀ path ∈ plan.pending.suppressions,
      path ∈ unfinished history ∨ files.get? path = none) :
    Mirrors contentOf (.completed plan.pending :: history) files (plan.completed state) := by
  have kept : ∀ path ∉ plan.pending.copyList, path ∈ unfinished history →
      path ∈ unfinished (.completed plan.pending :: history) :=
    fun path outside member => Finset.mem_sdiff.mpr ⟨member, outside⟩
  have sourceMirrors : ∀ path entry, plan.source.get? path = some entry →
      path ∈ unfinished (.completed plan.pending :: history) ∨
        files.get? path = none ∨ files.get? path = some (contentOf entry) := by
    intro path entry present
    by_cases listed : path ∈ plan.pending.copyList
    · exact .inr (copied path listed entry present)
    · by_cases member : path ∈ plan.pending.suppressions
      · rcases suppressed path member with loose | absent
        · exact .inl (kept path listed loose)
        · exact .inr (.inl absent)
      · have earlier := planned.delivered_of_skipped present member listed
        rw [← delivered] at earlier
        exact (believed.delivered path entry earlier).imp_left (kept path listed)
  have suppressedMirrors : ∀ path ∈ plan.pending.suppressions,
      path ∈ unfinished (.completed plan.pending :: history) ∨ files.get? path = none := by
    intro path member
    exact (suppressed path member).imp_left (kept path (planned.suppressed_not_copied member))
  unfold RunPlan.completed completeTransferState
  split
  · exact ⟨sourceMirrors, suppressedMirrors⟩
  · refine ⟨?_, suppressedMirrors⟩
    intro path entry bound
    rw [get?_extend] at bound
    cases present : plan.source.get? path with
    | some fresh =>
      rw [present] at bound
      cases bound
      exact sourceMirrors path _ present
    | none =>
      rw [present] at bound
      have outside : path ∉ plan.pending.copyList := by
        intro member
        obtain ⟨-, other, listed⟩ := mem_copyList.mp member
        rw [planned.pending_source, present] at listed
        cases listed
      exact (believed.delivered path entry bound).imp_left (kept path outside)

/-- A source path that is delivered under its present entry and is there at the
target is skipped: neither suppressed nor handed over. -/
theorem Planned.skips (present : plan.source.get? path = some entry)
    (delivered : plan.state.delivered.get? path = some entry)
    (there : plan.target.containsKey path = true) :
    path ∉ plan.pending.suppressions ∧ path ∉ plan.pending.allowed := by
  obtain ⟨_, _, _, -, -, -, -, rfl, -⟩ := planned
  have owned : path ∈ (world.readPolicy.folder folderId).ownDelivered.owned :=
    Finset.mem_union_right _ (mem_keySet.mpr ⟨entry, delivered⟩)
  constructor
  · intro suppressed
    exact (mem_planSuppressions.mp suppressed).2.2 ⟨owned, there⟩
  · intro allowed
    rcases (planTransfer_allowed allowed).1 with changed | missing | departed
    · exact changed (delivered.trans present.symm)
    · cases there.symm.trans missing
    · cases present.symm.trans departed

variable (honest : Honest contentOf inventoryIndex folderId run world)

include honest

theorem Planned.target_containsKey (path : String) :
    plan.target.containsKey path = (listedWorld run world).files.containsKey path := by
  obtain ⟨role, sourceEntries, targetEntries, -, -, listed, -, rfl, -⟩ := planned
  exact honest.listing targetEntries listed path

/-- Outside the copy list the copy program leaves a file alone or removes it. -/
theorem Honest.filesAfterCopy (path : String) : run.filesAfterCopy.get? path = none ∨
      run.filesAfterCopy.get? path = (listedWorld run world).files.get? path ∨
      path ∈ unfinished (copiedWorld folderId run world plan).history := by
  by_cases copied : path ∈ plan.pending.copyList
  · exact .inr (.inr (Finset.mem_union_right _ copied))
  · rcases honest.copying plan planned path copied with gone | same
    · exact .inl gone
    · exact .inr (.inl same)

/-- After a check that passed, a copied path holds the source's content, unless
the user deleted it since. -/
theorem Planned.checked_content (stands : CopyStands run plan.pending)
    (checked : plan.pending.copyList = ∅ ∨ run.check = .ok ())
    (listed : path ∈ plan.pending.copyList) (present : plan.source.get? path = some entry) :
    (relistedWorld folderId run world plan).files.get? path = none ∨
      (relistedWorld folderId run world plan).files.get? path = some (contentOf entry) := by
  rcases checked with nothing | passed
  · rw [nothing] at listed
    exact absurd listed (Finset.notMem_empty path)
  · have content := honest.checking plan planned stands passed path listed entry present
    exact (World.get?_deletes_or _ _ path).imp_right fun same => same.trans content

theorem Planned.relisted_skipped (outside : path ∉ plan.pending.copyList) :
    (relistedWorld folderId run world plan).files.get? path = none ∨
      (relistedWorld folderId run world plan).files.get? path =
        (listedWorld run world).files.get? path := by
  rcases World.get?_deletes_or _ run.deletedBeforeVerify path with late | late
  · exact .inl late
  rcases World.get?_deletes_or _ run.deletedBeforeCheck path with early | early
  · exact .inl (late.trans early)
  · rw [relistedWorld, late, checkedWorld, early]
    exact honest.copying plan planned path outside

variable (mirrored : Mirrored contentOf folderId world)

include mirrored

/-- A path that the plan suppresses is absent at the target, or unfinished. -/
theorem Planned.suppressed_absent (member : path ∈ plan.pending.suppressions) :
    path ∈ unfinished world.history ∨ (listedWorld run world).files.get? path = none := by
  have quiet := (mirrored.listed run).suppressed path
  have target := planned.target_containsKey honest path
  obtain ⟨_, _, _, -, -, -, -, rfl, -⟩ := planned
  obtain ⟨-, kept | ⟨-, -, absent⟩, -⟩ := mem_planSuppressions.mp member
  · exact quiet kept
  · refine .inr (containsKey_eq_false_iff.mp ?_)
    rw [← target]
    exact absent

/-- The files after a copy agree with any policy that keeps what was delivered
and suppresses what the plan or the old policy suppressed. -/
theorem Planned.copied_mirrors (state : FolderPolicyState)
    (delivered : state.delivered = plan.state.delivered)
    (suppressions : state.suppressions = plan.state.suppressions ∨
      state.suppressions = plan.pending.suppressions) :
    Mirrors contentOf (copiedWorld folderId run world plan).history
      run.filesAfterCopy state := by
  have before : Mirrors contentOf (copiedWorld folderId run world plan).history
      (listedWorld run world).files state := by
    refine .of_unfinished_subset ?_ Finset.subset_union_left
    constructor
    · rw [delivered, planned.state_delivered]
      exact (mirrored.listed run).delivered
    · intro path member
      rcases suppressions with same | same
      · rw [same, planned.state_suppressions] at member
        exact (mirrored.listed run).suppressed path member
      · rw [same] at member
        exact planned.suppressed_absent honest mirrored member
  exact before.of_removed (honest.filesAfterCopy planned)

theorem Planned.recorded_mirrored :
    Mirrored contentOf folderId (recordedWorld folderId run world plan) := by
  apply Mirrored.publish
  exact (planned.copied_mirrors honest mirrored
    (plan.announced.recordCopied plan.pending) rfl (.inr rfl)).of_unfinished_subset
      (Finset.Subset.refl _)

theorem Planned.relisted_mirrored :
    Mirrored contentOf folderId (relistedWorld folderId run world plan) :=
  ((planned.recorded_mirrored honest mirrored).deletes _).deletes _

/-- A successful end means equal content exactly when no source entry was stale.
`files` are the files at the last listing. -/
theorem Planned.equals_source_iff (verified : ∀ path entry, plan.source.get? path = some entry →
      path ∉ plan.pending.suppressions → ∃ content, files.get? path = some content)
    (copied : ∀ path ∈ plan.pending.copyList, ∀ entry, plan.source.get? path = some entry →
        files.get? path = none ∨ files.get? path = some (contentOf entry))
    (skipped : ∀ path ∉ plan.pending.copyList, files.get? path = none ∨
      files.get? path = (listedWorld run world).files.get? path) :
    (∀ path entry, plan.source.get? path = some entry → path ∉ plan.pending.suppressions →
        files.get? path = some (contentOf entry)) ↔
      ∀ path entry, plan.source.get? path = some entry →
        ¬ Stale contentOf folderId (listedWorld run world) path entry := by
  constructor
  · rintro equal path entry present ⟨-, delivered, content, there, different⟩
    have atTarget : plan.target.containsKey path = true := by
      rw [planned.target_containsKey honest, containsKey_iff]
      exact ⟨content, there⟩
    rw [listedWorld, World.readPolicy_deletes, ← planned.state_delivered] at delivered
    obtain ⟨wanted, notAllowed⟩ := planned.skips present delivered atTarget
    have outside : path ∉ plan.pending.copyList :=
      fun member => notAllowed (mem_copyList.mp member).1
    have now := equal path entry present wanted
    rcases skipped path outside with gone | same
    · rw [gone] at now
      cases now
    · rw [same, there] at now
      exact different (Option.some.inj now)
  · intro noneStale path entry present wanted
    obtain ⟨content, there⟩ := verified path entry present wanted
    by_cases listed : path ∈ plan.pending.copyList
    · rcases copied path listed entry present with gone | equal
      · rw [gone] at there
        cases there
      · exact equal
    · have delivered : plan.state.delivered.get? path = some entry :=
        planned.delivered_of_skipped present wanted listed
      have same : (listedWorld run world).files.get? path = some content := by
        rcases skipped path listed with gone | same
        · rw [gone] at there
          cases there
        · rw [← same, there]
      rw [planned.state_delivered] at delivered
      have believed := (mirrored.listed run).delivered path entry delivered
      by_contra different
      have differs : content ≠ contentOf entry := by
        rintro rfl
        exact different there
      rcases believed with loose | gone | equal
      · exact noneStale path entry present ⟨loose, delivered, content, same, differs⟩
      · rw [same] at gone
        cases gone
      · rw [same] at equal
        exact differs (Option.some.inj equal)

end

/-- However a run ends, the policy still agrees with the files. -/
theorem RunEffect.mirrored {after : World Content} {result : Except Stop EngineIndexSnapshot}
    (effect : RunEffect inventoryIndex folderId run world after result)
    (honest : Honest contentOf inventoryIndex folderId run world)
    (mirrored : Mirrored contentOf folderId world) : Mirrored contentOf folderId after := by
  cases effect with
  | untouched agrees =>
    rcases agrees with agrees | agrees
    · exact mirrored.of_agrees agrees
    · exact (mirrored.listed run).of_agrees agrees
  | @settled plan _ planned nothing verified =>
    apply Mirrored.publish
    refine planned.completed_mirrors (planned.listed_mirrors mirrored plan.state
      rfl rfl) rfl ?_ fun path member =>
        planned.suppressed_absent honest mirrored member
    intro path copied
    simp [PendingTransfer.copyList, nothing] at copied
  | @announced plan _ _ planned agrees =>
    refine .of_agrees ?_ agrees
    apply Mirrored.publish
    exact planned.listed_mirrors mirrored plan.announced rfl rfl
  | @copied plan _ _ planned agrees =>
    refine .of_agrees ?_ agrees
    unfold Mirrored
    rw [copiedWorld_readPolicy, PolicyState.folder_setFolder]
    exact planned.copied_mirrors honest mirrored plan.announced rfl (.inl rfl)
  | @copiedInPart plan _ proved planned listed =>
    apply Mirrored.publish
    exact (planned.copied_mirrors honest mirrored
      { plan.announced with owned := plan.announced.owned ∪ proved } rfl
      (.inl rfl)).of_unfinished_subset (Finset.Subset.refl _)
  | recorded planned agrees =>
    rcases agrees with agrees | agrees | agrees
    · exact (planned.recorded_mirrored honest mirrored).of_agrees agrees
    · exact ((planned.recorded_mirrored honest mirrored).deletes _).of_agrees agrees
    · exact (planned.relisted_mirrored honest mirrored).of_agrees agrees
  | @cleared plan before _ planned agrees =>
    have recorded := planned.recorded_mirrored honest mirrored
    have beforeMirrored : Mirrored contentOf folderId before := by
      rcases agrees with agrees | agrees
      · exact recorded.of_agrees agrees
      · exact (recorded.deletes _).of_agrees agrees
    have reads : before.readPolicy = plan.policy.setFolder folderId
        (plan.announced.recordCopied plan.pending) := by
      rcases agrees with agrees | agrees <;> rw [World.readPolicy, agrees.policy] <;> rfl
    unfold Mirrored at beforeMirrored
    rw [reads, PolicyState.folder_setFolder] at beforeMirrored
    apply Mirrored.publish
    exact ⟨beforeMirrored.delivered, beforeMirrored.suppressed⟩
  | @finished plan _ entries planned stands checked relisted verified =>
    have relistedMirrors := planned.relisted_mirrored honest mirrored
    unfold Mirrored at relistedMirrors
    rw [show (relistedWorld folderId run world plan).readPolicy = plan.policy.setFolder folderId
        (plan.announced.recordCopied plan.pending) from rfl,
      PolicyState.folder_setFolder] at relistedMirrors
    apply Mirrored.publish
    exact planned.completed_mirrors relistedMirrors rfl (fun path listed entry present =>
        planned.checked_content honest stands checked listed present)
      relistedMirrors.suppressed

end Run

/-! ## All histories of a link -/

section Link

variable {inventoryIndex : List InventoryEntry → EngineIndexSnapshot} {folderId : Uuid}

variable {world : World Content}

theorem LinkStep.mirrored {after : World Content} (step : LinkStep inventoryIndex folderId
      (Honest contentOf inventoryIndex folderId) world after)
    (mirrored : Mirrored contentOf folderId world) :
    Mirrored contentOf folderId after := by
  cases step with
  | run inputs honest =>
    obtain ⟨result, effect⟩ := after_transferDestination inputs world
    exact effect.mirrored honest mirrored
  | deletes paths => exact mirrored.deletes paths
  | reset reading outcome =>
    rcases after_resetFolder reading outcome world with agrees | forgotten
    · exact mirrored.of_agrees agrees
    · rw [forgotten]
      unfold Mirrored
      rw [World.readPolicy_publish, PolicyState.folder, get?_erase, if_pos rfl]
      exact ⟨by simp, by simp⟩

theorem linkMachine_mirrored (reachable : (linkMachine inventoryIndex folderId
      (Honest contentOf inventoryIndex folderId)).Reachable world) :
    Mirrored contentOf folderId world := by
  refine reachable.invariant ?_ fun _ _ _ step => LinkStep.mirrored step
  rintro start ⟨noPolicy, -⟩
  unfold Mirrored
  rw [World.readPolicy, noPolicy]
  exact ⟨by simp [PolicyState.folder], by simp [PolicyState.folder]⟩

/-- **A successful run means equal content, exactly when it met no stale entry.**
After any history of honest runs, resets and deletions, a run that returns success
leaves every source path that it does not suppress with the content that the
source's listing describes if and only if no source entry is recorded as delivered
at a path where an unfinished run left other content. -/
theorem successful_run_equals_source_iff {world after : World Content}
    (reachable : (linkMachine inventoryIndex folderId
      (Honest contentOf inventoryIndex folderId)).Reachable world)
    {run : RunInputs Content}
    (honest : Honest contentOf inventoryIndex folderId run world)
    {entries : List InventoryEntry} (listing : run.sourceListing = .ok entries)
    {index : EngineIndexSnapshot}
    (success : transferDestination inventoryIndex folderId run world = .ok index after) :
    (∀ path entry, (byPath entries).get? path = some entry →
        path ∉ (after.readPolicy.folder folderId).suppressions →
        after.files.get? path = some (contentOf entry)) ↔
      ∀ path entry, (byPath entries).get? path = some entry →
        ¬ Stale contentOf folderId (listedWorld run world) path entry := by
  have mirrored := linkMachine_mirrored reachable
  have effect := transferDestination_effect.of_ok success
  have sourceOf : ∀ {plan}, Planned inventoryIndex folderId run world plan →
      plan.source = byPath entries := by
    rintro plan ⟨role, sourceEntries, targetEntries, -, listed, -, -, rfl, -⟩
    rw [listing] at listed
    cases listed
    rfl
  cases effect with
  | @settled plan _ planned nothing verified =>
    rw [World.readPolicy_publish, PolicyState.folder_setFolder,
      RunPlan.completed_suppressions, ← sourceOf planned]
    refine planned.equals_source_iff honest mirrored ?_ ?_ fun _ _ => .inr rfl
    · intro path entry present wanted
      rw [← planned.pending_source] at present
      obtain ⟨found, there, -⟩ := verifyTransfer_ok verified present wanted
      have known : plan.target.containsKey path = true :=
        containsKey_iff.mpr ⟨found, there⟩
      rw [planned.target_containsKey honest] at known
      exact containsKey_iff.mp known
    · intro path copied
      simp [PendingTransfer.copyList, nothing] at copied
  | @finished plan _ targetEntries planned stands checked relisted verified =>
    rw [World.readPolicy_publish, PolicyState.folder_setFolder,
      RunPlan.completed_suppressions, ← sourceOf planned]
    refine planned.equals_source_iff honest mirrored ?_ (fun path listed entry present =>
        planned.checked_content honest stands checked listed present) ?_
    · intro path entry present wanted
      rw [← planned.pending_source] at present
      obtain ⟨found, there, -⟩ := verifyTransfer_ok verified present wanted
      exact containsKey_iff.mp (honest.relisting targetEntries relisted
        plan planned path (containsKey_iff.mpr ⟨found, there⟩))
    · intro path outside
      exact planned.relisted_skipped honest outside

end Link

/-! ## A source that goes back to an entry delivered before -/

section Sample

theorem Honest.of_plan {inventoryIndex : List InventoryEntry → EngineIndexSnapshot}
    {folderId : Uuid} {run : RunInputs Content} {world : World Content}
    {role : DestinationRole} {source target after : List InventoryEntry} {plan : RunPlan}
    (hasRole : run.role = .ok role) (hasSource : run.sourceListing = .ok source)
    (hasTarget : run.targetListing = .ok target) (hasAfter : run.targetAfterCopy = .ok after)
    (only : planOf inventoryIndex folderId role source target world.readPolicy = plan)
    (listing : (byPath target).keySet = (listedWorld run world).files.keySet)
    (copying : ∀ binding ∈ run.filesAfterCopy.entries, binding.1 ∈ plan.pending.copyList ∨
      (listedWorld run world).files.get? binding.1 = some binding.2)
    (checking : run.check = .ok () → ∀ path ∈ plan.pending.copyList,
      ∀ binding ∈ (byPath source).entries, binding.1 = path →
        (checkedWorld folderId run world plan).files.get? path = some (contentOf binding.2))
    (relisting : (byPath after).keySet ⊆ (relistedWorld folderId run world plan).files.keySet) :
    Honest contentOf inventoryIndex folderId run world := by
  have unique : ∀ other, Planned inventoryIndex folderId run world other →
      other = planOf inventoryIndex folderId role source target world.readPolicy := by
    rintro other ⟨_, _, _, roleIs, sourceIs, targetIs, -, rfl, -⟩
    cases hasRole.symm.trans roleIs
    cases hasSource.symm.trans sourceIs
    cases hasTarget.symm.trans targetIs
    rfl
  subst only
  constructor
  · intro entries isListed path
    rw [hasTarget] at isListed
    cases isListed
    have same : path ∈ (byPath target).keySet ↔
        path ∈ (listedWorld run world).files.keySet := by rw [listing]
    rw [mem_keySet, mem_keySet, ← containsKey_iff, ← containsKey_iff] at same
    exact Bool.eq_iff_iff.mpr same
  · intro plan planned path outside
    rw [unique plan planned] at outside
    cases now : run.filesAfterCopy.get? path with
    | none => exact .inl rfl
    | some content =>
      rcases copying (path, content) (get?_eq_some_iff.mp now) with
        listed | same
      · exact absurd listed outside
      · exact .inr same.symm
  · intro plan planned _ passed path listed entry present
    rw [unique plan planned] at listed present ⊢
    exact checking passed path listed (path, entry) (get?_eq_some_iff.mp present) rfl
  · intro entries isListed plan planned path there
    rw [hasAfter] at isListed
    cases isListed
    rw [unique plan planned]
    rw [containsKey_iff, ← mem_keySet] at there ⊢
    exact relisting there

/-- Content of a sample file: the version that its modification time names. -/
def versionOf (entry : InventoryEntry) : Int :=
  entry.modifiedUnixSeconds

/-- Version `version` of a file of three bytes. -/
def versionEntry (version : Int) : InventoryEntry :=
  { path := "a", size := 3, modifiedUnixSeconds := version, sha256 := none }

def versionIndex (entries : List InventoryEntry) : EngineIndexSnapshot :=
  { indexId := String.ofList (entries.map fun entry =>
      if entry.modifiedUnixSeconds = 1 then 'x' else 'y')
    sequence := 1 }

/-- The run that delivers version 1. -/
def deliverRun : RunInputs Int :=
  smoothRun (versionIndex [versionEntry 1]) copyRole [versionEntry 1] []
    [versionEntry 1] (ofList [("a", 1)])

/-- The run that copies version 2 and whose check fails. -/
def brokenRun : RunInputs Int :=
  { smoothRun (versionIndex [versionEntry 2]) copyRole [versionEntry 2]
      [versionEntry 1] [versionEntry 2] (ofList [("a", 2)]) with
    check := .error (.failed .transferFailed) }

/-- The run after the source went back to version 1. -/
def revertedRun : RunInputs Int :=
  smoothRun (versionIndex [versionEntry 1]) copyRole [versionEntry 1]
    [versionEntry 2] [versionEntry 2] (ofList [("a", 2)])

def versionStart : World Int :=
  { policy := none, staged := false, files := ∅, history := [] }

def deliveredWorld : World Int :=
  Effect.after (transferDestination versionIndex ⟨7⟩ deliverRun) versionStart

def brokenWorld : World Int :=
  Effect.after (transferDestination versionIndex ⟨7⟩ brokenRun) deliveredWorld

def revertedWorld : World Int :=
  Effect.after (transferDestination versionIndex ⟨7⟩ revertedRun) brokenWorld

theorem deliverRun_honest : Honest versionOf versionIndex ⟨7⟩ deliverRun versionStart :=
  Honest.of_plan rfl rfl rfl rfl rfl (by decide +kernel) (by decide +kernel)
    (fun _ => by decide +kernel) (by decide +kernel)

theorem brokenRun_honest : Honest versionOf versionIndex ⟨7⟩ brokenRun deliveredWorld :=
  Honest.of_plan rfl rfl rfl rfl rfl (by decide +kernel) (by decide +kernel)
    (by decide +kernel) (by decide +kernel)

theorem revertedRun_honest : Honest versionOf versionIndex ⟨7⟩ revertedRun brokenWorld :=
  Honest.of_plan rfl rfl rfl rfl rfl (by decide +kernel) (by decide +kernel)
    (fun _ => by decide +kernel) (by decide +kernel)

theorem brokenWorld_reachable : (linkMachine versionIndex ⟨7⟩
      (Honest versionOf versionIndex ⟨7⟩)).Reachable brokenWorld := by
  have start : (linkMachine versionIndex ⟨7⟩
      (Honest versionOf versionIndex ⟨7⟩)).Reachable versionStart :=
    Machine.Reachable.start ⟨rfl, rfl⟩
  exact (start.next (.run _ deliverRun_honest)).next (.run _ brokenRun_honest)

theorem revertedRun_succeeds : transferDestination versionIndex ⟨7⟩ revertedRun brokenWorld =
      .ok (versionIndex [versionEntry 1]) revertedWorld :=
  eq_ok_of_returned (by decide +kernel)

/-- After the check of version 2 failed, the source goes back to version 1.  The
run returns success and the destination still holds version 2. -/
theorem reverted_source_keeps_other_content : (linkMachine versionIndex ⟨7⟩
        (Honest versionOf versionIndex ⟨7⟩)).Reachable brokenWorld ∧
      Honest versionOf versionIndex ⟨7⟩ revertedRun brokenWorld ∧
      revertedRun.sourceListing = .ok [versionEntry 1] ∧
      transferDestination versionIndex ⟨7⟩ revertedRun brokenWorld =
        .ok (versionIndex [versionEntry 1]) revertedWorld ∧
      (byPath [versionEntry 1]).get? "a" = some (versionEntry 1) ∧
      "a" ∉ (revertedWorld.readPolicy.folder ⟨7⟩).suppressions ∧
      versionOf (versionEntry 1) = 1 ∧
      revertedWorld.files.get? "a" = some 2 :=
  ⟨brokenWorld_reachable, revertedRun_honest, rfl, revertedRun_succeeds,
    by decide +kernel, by decide +kernel, rfl, by decide +kernel⟩

/-- The run that copies version 2 again. -/
def repeatedRun : RunInputs Int :=
  smoothRun (versionIndex [versionEntry 2]) copyRole [versionEntry 2]
    [versionEntry 2] [versionEntry 2] (ofList [("a", 2)])

def repeatedWorld : World Int :=
  Effect.after (transferDestination versionIndex ⟨7⟩ repeatedRun) brokenWorld

theorem repeatedRun_honest : Honest versionOf versionIndex ⟨7⟩ repeatedRun brokenWorld :=
  Honest.of_plan rfl rfl rfl rfl rfl (by decide +kernel) (by decide +kernel)
    (fun _ => by decide +kernel) (by decide +kernel)

/-- After the check of version 2 failed, the next run of the same source meets no stale entry:
what was delivered is version 1.  So its success means equal content. -/
theorem repeated_run_equals_source :
    repeatedWorld.files.get? "a" = some (versionOf (versionEntry 2)) := by
  have success : transferDestination versionIndex ⟨7⟩ repeatedRun brokenWorld =
      .ok (versionIndex [versionEntry 2]) repeatedWorld :=
    eq_ok_of_returned (by decide +kernel)
  have noneStale : ∀ path entry, (byPath [versionEntry 2]).get? path = some entry →
      ¬ Stale versionOf ⟨7⟩ (listedWorld repeatedRun brokenWorld) path entry := by
    rintro path entry present ⟨-, delivered, -⟩
    have listed := get?_eq_some_iff.mp present
    obtain ⟨rfl, rfl⟩ := Prod.mk.inj (List.mem_singleton.mp listed)
    exact absurd delivered (by decide +kernel)
  exact (successful_run_equals_source_iff brokenWorld_reachable repeatedRun_honest rfl
    success).mpr noneStale "a" (versionEntry 2) (by decide +kernel) (by decide +kernel)

end Sample

end Covalent.Transfer
