import Covalent.Transfer.Deletion

/-!
# Deleted files stay deleted

A destination's user may delete a file that the link copied.  When restoring is off,
the run that finds it missing suppresses its path, and the path stays suppressed until
it is at the destination again or restoring is turned on.

**The invariant.**  The policy keeps the path among its suppressions: every place that
writes the suppressions writes those of a plan, and the plan of a run that does not find
the path at the target and does not restore keeps it, whether or not the source has it
and whether or not the path is still owned.
-/

namespace Covalent.Transfer

open Effect

variable {Content : Type}

/-! ## One run -/

section Run

variable {inventoryIndex : List InventoryEntry → EngineIndexSnapshot}
  {folderId : Uuid} {run : RunInputs Content} {world after : World Content}
  {result : Except Stop EngineIndexSnapshot}

/-- The policy of the folder that a world holds. -/
def World.folder (world : World Content) (folderId : Uuid) : FolderPolicyState :=
  world.readPolicy.folder folderId

theorem World.Agrees.folder {expected : World Content} (agrees : after.Agrees expected)
    (folderId : Uuid) : after.folder folderId = expected.folder folderId := by
  rw [World.folder, World.folder, World.readPolicy, World.readPolicy, agrees.policy]

theorem World.folder_publish (policy : PolicyState) (state : FolderPolicyState)
    (actions : List Action) :
    (world.publish (policy.setFolder folderId state) actions).folder folderId = state :=
  PolicyState.folder_setFolder policy folderId state

/-- What a run adds to the history: at most its own list, handed over once. -/
def AddsOnly (plan : RunPlan) (before after : List Action) : Prop :=
  ∃ since, after = since ++ before ∧
    ∀ transfer, Action.handed transfer ∈ since → transfer = plan.pending

/-- Once the copy was recorded, the policy and the history say so. -/
theorem World.folder_of_recorded {plan : RunPlan}
    (agrees : after.Agrees (recordedWorld folderId run world plan) ∨
      after.Agrees (checkedWorld folderId run world plan) ∨
      after.Agrees (relistedWorld folderId run world plan)) :
    after.folder folderId = plan.announced.recordCopied plan.pending ∧
      after.history = .copyRecorded plan.pending plan.pending.copyList ::
        .handed plan.pending :: world.history := by
  rcases agrees with agrees | agrees | agrees <;>
    exact ⟨(agrees.folder folderId).trans (PolicyState.folder_setFolder _ _ _), agrees.history⟩

/-- Every way of ending leaves the policy alone or follows one plan: the suppressions are
those before the plan or those of the plan. -/
theorem RunEffect.outline (effect : RunEffect inventoryIndex folderId run world after result) :
    (after.folder folderId = world.folder folderId ∧ after.history = world.history) ∨
      ∃ plan, Planned inventoryIndex folderId run world plan ∧
        ((after.folder folderId).suppressions = plan.state.suppressions ∨
          (after.folder folderId).suppressions = plan.pending.suppressions) ∧
        AddsOnly plan world.history after.history := by
  cases effect with
  | untouched agrees =>
    left
    rcases agrees with agrees | agrees
    · exact ⟨agrees.folder folderId, agrees.history⟩
    · exact ⟨agrees.folder folderId, agrees.history⟩
  | @settled plan _ planned nothing verified =>
    refine .inr ⟨plan, planned, .inr ?_, [.completed plan.pending], rfl, by simp⟩
    rw [World.folder_publish, RunPlan.completed_suppressions]
  | @announced plan _ _ planned agrees =>
    refine .inr ⟨plan, planned, .inl ?_, [], agrees.history, by simp⟩
    rw [agrees.folder folderId, announcedWorld, World.folder_publish]
    rfl
  | @copied plan _ _ planned agrees =>
    refine .inr ⟨plan, planned, .inl ?_, [.handed plan.pending], agrees.history, by simp⟩
    rw [agrees.folder folderId, World.folder, copiedWorld_readPolicy, PolicyState.folder_setFolder]
    rfl
  | @copiedInPart plan stop proved planned listed =>
    refine .inr ⟨plan, planned, .inl ?_,
      [.copyRecorded plan.pending proved, .handed plan.pending], rfl, by simp⟩
    rw [World.folder_publish]
    rfl
  | @recorded plan _ _ planned agrees =>
    obtain ⟨reads, history⟩ := World.folder_of_recorded agrees
    refine .inr ⟨plan, planned, .inr ?_,
      [.copyRecorded plan.pending plan.pending.copyList, .handed plan.pending], history, by simp⟩
    rw [reads]
    rfl
  | @cleared plan before _ planned agrees =>
    refine .inr ⟨plan, planned, .inr ?_,
      [.copyRecorded plan.pending plan.pending.copyList, .handed plan.pending], ?_, by simp⟩
    · rw [World.folder_publish]
      rfl
    · exact (World.folder_of_recorded (agrees.imp id .inl)).2
  | @finished plan _ _ planned unchanged checked listed verified =>
    refine .inr ⟨plan, planned, .inr ?_,
      [.completed plan.pending, .copyRecorded plan.pending plan.pending.copyList,
        .handed plan.pending], rfl, by simp⟩
    rw [World.folder_publish, RunPlan.completed_suppressions]

theorem RunEffect.completed {index : EngineIndexSnapshot}
    (effect : RunEffect inventoryIndex folderId run world after (.ok index)) :
    ∃ plan, Planned inventoryIndex folderId run world plan ∧
      (after.folder folderId).suppressions = plan.pending.suppressions := by
  cases effect with
  | @settled plan _ planned nothing verified =>
    refine ⟨plan, planned, ?_⟩
    rw [World.folder_publish, RunPlan.completed_suppressions]
  | @finished plan _ _ planned unchanged checked listed verified =>
    refine ⟨plan, planned, ?_⟩
    rw [World.folder_publish, RunPlan.completed_suppressions]

/-! ## Copies that count -/

/-- A copy of the path was recorded, and no transfer that propagates deletions finished since
without the path at its source. -/
def KeptCopy (path : String) : List Action → Prop
  | [] => False
  | .handed _ :: older => KeptCopy path older
  | .copyRecorded _ paths :: older => path ∈ paths ∨ KeptCopy path older
  | .completed transfer :: older =>
    (transfer.propagateSourceDeletions = true → transfer.source.containsKey path = true) ∧
      KeptCopy path older

instance KeptCopy.decidable (path : String) : DecidablePred (KeptCopy path)
  | [] => inferInstanceAs (Decidable False)
  | .handed _ :: older => KeptCopy.decidable path older
  | .copyRecorded _ paths :: older =>
    have := KeptCopy.decidable path older
    inferInstanceAs (Decidable (path ∈ paths ∨ KeptCopy path older))
  | .completed transfer :: older =>
    have := KeptCopy.decidable path older
    inferInstanceAs (Decidable ((transfer.propagateSourceDeletions = true →
      transfer.source.containsKey path = true) ∧ KeptCopy path older))

/-- The policy owns every path with a copy that counts. -/
def OwnsCopies (folderId : Uuid) (world : World Content) : Prop :=
  ∀ path, KeptCopy path world.history → path ∈ (world.folder folderId).ownDelivered.owned

theorem mem_ownDelivered {state : FolderPolicyState} {path : String}
    (owned : path ∈ state.owned) : path ∈ state.ownDelivered.owned :=
  Finset.mem_union_left _ owned

theorem Planned.state_eq {plan : RunPlan}
    (planned : Planned inventoryIndex folderId run world plan) :
    plan.state = (world.folder folderId).ownDelivered := by
  obtain ⟨_, _, _, -, -, -, -, rfl, -⟩ := planned
  rfl

/-- A finished transfer drops a path from what is owned only when it propagates deletions and
its source lacks the path. -/
theorem Planned.mem_completed {plan : RunPlan} {path : String} {state : FolderPolicyState}
    (planned : Planned inventoryIndex folderId run world plan) (owned : path ∈ state.owned)
    (listed : plan.pending.propagateSourceDeletions = true →
      plan.pending.source.containsKey path = true) : path ∈ (plan.completed state).owned := by
  rw [planned.pending_source] at listed
  unfold RunPlan.completed completeTransferState
  split_ifs with propagates
  · exact BTreeMap.mem_keySet.mpr (BTreeMap.containsKey_iff.mp (listed propagates))
  · exact Finset.mem_union_left _ owned

/-- However a run ends, the policy owns every path with a copy that counts. -/
theorem RunEffect.ownsCopies (effect : RunEffect inventoryIndex folderId run world after result)
    (owns : OwnsCopies folderId world) : OwnsCopies folderId after := by
  have before {plan : RunPlan} (planned : Planned inventoryIndex folderId run world plan)
      {path : String} (kept : KeptCopy path world.history) : path ∈ plan.state.owned := by
    rw [planned.state_eq]
    exact owns path kept
  intro path kept
  cases effect with
  | untouched agrees =>
    rcases agrees with agrees | agrees
    · rw [agrees.history] at kept
      rw [agrees.folder]
      exact owns path kept
    · rw [agrees.history] at kept
      rw [agrees.folder]
      exact owns path kept
  | settled planned nothing verified =>
    obtain ⟨listed, older⟩ := kept
    rw [World.folder_publish]
    exact mem_ownDelivered (planned.mem_completed (before planned older) listed)
  | announced planned agrees =>
    rw [agrees.history] at kept
    rw [agrees.folder, announcedWorld, World.folder_publish]
    exact mem_ownDelivered (before planned kept)
  | copied planned agrees =>
    rw [agrees.history] at kept
    rw [agrees.folder, World.folder, copiedWorld_readPolicy, PolicyState.folder_setFolder]
    exact mem_ownDelivered (before planned kept)
  | copiedInPart planned listed =>
    rw [World.folder_publish]
    refine mem_ownDelivered (Finset.mem_union.mpr ?_)
    exact kept.symm.imp (before planned) id
  | recorded planned agrees =>
    obtain ⟨reads, history⟩ := World.folder_of_recorded agrees
    rw [history] at kept
    rw [reads]
    exact mem_ownDelivered (Finset.mem_union.mpr (kept.symm.imp (before planned) id))
  | cleared planned agrees =>
    rw [World.folder_publish]
    obtain ⟨-, history⟩ := World.folder_of_recorded (agrees.imp id .inl)
    change KeptCopy path ([] ++ _) at kept
    rw [List.nil_append, history] at kept
    exact mem_ownDelivered (Finset.mem_union.mpr (kept.symm.imp (before planned) id))
  | finished planned unchanged checked relisted verified =>
    obtain ⟨listed, older⟩ := kept
    rw [World.folder_publish]
    refine mem_ownDelivered (planned.mem_completed ?_ listed)
    exact Finset.mem_union.mpr (older.symm.imp (before planned) id)

/-! ## Runs that leave a deleted path alone -/

/-- A run that does not restore and does not find the path at the target. -/
def RunInputs.LeavesDeleted (run : RunInputs Content) (path : String) : Prop :=
  (∀ role, run.role = .ok role → role.restoreLocalDeletions = false) ∧
    ∀ entries, run.targetListing = .ok entries → (byPath entries).containsKey path = false

/-- The plan of such a run keeps a suppressed path suppressed and does not hand it over. -/
theorem Planned.keeps_suppressed {plan : RunPlan} {path : String}
    (planned : Planned inventoryIndex folderId run world plan) (quiet : run.LeavesDeleted path)
    (suppressed : path ∈ (world.folder folderId).suppressions) :
    path ∈ plan.state.suppressions ∧ path ∈ plan.pending.suppressions ∧
      path ∉ plan.pending.allowed := by
  obtain ⟨role, sourceEntries, targetEntries, hasRole, _, hasTarget, _, rfl, _⟩ := planned
  have restoring := quiet.1 role hasRole
  have missing := quiet.2 targetEntries hasTarget
  have kept : path ∈ planSuppressions (world.folder folderId).ownDelivered (byPath sourceEntries)
      (byPath targetEntries) role.restoreLocalDeletions := by
    refine mem_planSuppressions.mpr ⟨restoring, .inl suppressed, ?_⟩
    rw [missing]
    exact fun ⟨_, absurdity⟩ => absurd absurdity Bool.false_ne_true
  exact ⟨suppressed, kept, fun listed => planTransfer_disjoint listed kept⟩

theorem Planned.suppresses_missing {plan : RunPlan} {path : String} {role : DestinationRole}
    {sourceEntries targetEntries : List InventoryEntry}
    (planned : Planned inventoryIndex folderId run world plan)
    (hasRole : run.role = .ok role) (restoring : role.restoreLocalDeletions = false)
    (hasSource : run.sourceListing = .ok sourceEntries)
    (present : (byPath sourceEntries).containsKey path = true)
    (hasTarget : run.targetListing = .ok targetEntries)
    (missing : (byPath targetEntries).containsKey path = false)
    (owned : path ∈ (world.folder folderId).ownDelivered.owned) :
    path ∈ plan.pending.suppressions := by
  obtain ⟨_, _, _, sameRole, sameSource, sameTarget, _, rfl, _⟩ := planned
  obtain rfl := Except.ok.inj (hasRole.symm.trans sameRole)
  obtain rfl := Except.ok.inj (hasSource.symm.trans sameSource)
  obtain rfl := Except.ok.inj (hasTarget.symm.trans sameTarget)
  refine mem_planSuppressions.mpr ⟨restoring, .inr ⟨owned, present, missing⟩, ?_⟩
  rw [missing]
  exact fun ⟨_, absurdity⟩ => absurd absurdity Bool.false_ne_true

end Run

/-! ## Histories -/

section Histories

variable (inventoryIndex : List InventoryEntry → EngineIndexSnapshot) (folderId : Uuid)

/-- What happens to a destination: runs of the link with certain inputs, however they end,
and any change of its files between runs. -/
inductive HistoryStep (admitted : RunInputs Content → Prop) : World Content → World Content → Prop
  | run (inputs : RunInputs Content) {world : World Content} (allowed : admitted inputs) :
      HistoryStep admitted world
        (Effect.after (transferDestination inventoryIndex folderId inputs) world)
  | files (files : BTreeMap String Content) {world : World Content} :
      HistoryStep admitted world { world with files := files }

/-- What may happen while the path is away and restoring is off. -/
abbrev QuietStep (path : String) : World Content → World Content → Prop :=
  HistoryStep inventoryIndex folderId fun inputs => inputs.LeavesDeleted path

/-- The path is suppressed, and no list handed over since `start` names it. -/
structure StaysDeleted (path : String) (start world : World Content) : Prop where
  suppressed : path ∈ (world.folder folderId).suppressions
  history : ∃ since, world.history = since ++ start.history ∧
    ∀ transfer, Action.handed transfer ∈ since → path ∉ transfer.allowed

variable {inventoryIndex folderId} {start world later : World Content} {path : String}

theorem StaysDeleted.step (stays : StaysDeleted folderId path start world)
    (step : QuietStep inventoryIndex folderId path world later) :
    StaysDeleted folderId path start later := by
  cases step with
  | files files => exact ⟨stays.suppressed, stays.history⟩
  | run inputs quiet =>
    obtain ⟨result, effect⟩ := after_transferDestination inputs world
    rcases effect.outline with ⟨policy, history⟩ | ⟨plan, planned, suppressions, since, split, own⟩
    · refine ⟨?_, ?_⟩
      · rw [policy]
        exact stays.suppressed
      · rw [history]
        exact stays.history
    · obtain ⟨before, within, unlisted⟩ := planned.keeps_suppressed quiet stays.suppressed
      obtain ⟨earlier, known, avoided⟩ := stays.history
      refine ⟨?_, since ++ earlier, ?_, ?_⟩
      · rcases suppressions with same | same
        · rw [same]
          exact before
        · rw [same]
          exact within
      · rw [split, known, List.append_assoc]
      · intro transfer handed
        rcases List.mem_append.mp handed with new | old
        · rw [own transfer new]
          exact unlisted
        · exact avoided transfer old

/-- Along every history the policy owns the paths with copies that count. -/
theorem OwnsCopies.run {admitted : RunInputs Content → Prop}
    (steps : Relation.ReflTransGen (HistoryStep inventoryIndex folderId admitted) start world)
    (owns : OwnsCopies folderId start) : OwnsCopies folderId world := by
  induction steps with
  | refl => exact owns
  | tail _ step ih =>
    cases step with
    | files files => exact ih
    | run inputs allowed =>
      obtain ⟨result, effect⟩ := after_transferDestination inputs _
      exact effect.ownsCopies ih

variable (inventoryIndex folderId) in
/-- A run with restoring off finished and found a path at the source and not at the target. -/
structure FindsDeleted (run : RunInputs Content) (world : World Content) (path : String) :
    Prop where
  restoring : ∃ role, run.role = .ok role ∧ role.restoreLocalDeletions = false
  present : ∃ entries, run.sourceListing = .ok entries ∧ (byPath entries).containsKey path = true
  missing : ∃ entries, run.targetListing = .ok entries ∧ (byPath entries).containsKey path = false
  completed : (returned (transferDestination inventoryIndex folderId run) world).isSome = true

theorem FindsDeleted.staysDeleted {run : RunInputs Content}
    (finds : FindsDeleted inventoryIndex folderId run world path)
    (owned : path ∈ (world.folder folderId).ownDelivered.owned) :
    StaysDeleted folderId path
      (Effect.after (transferDestination inventoryIndex folderId run) world)
      (Effect.after (transferDestination inventoryIndex folderId run) world) := by
  obtain ⟨role, hasRole, restoring⟩ := finds.restoring
  obtain ⟨sourceEntries, hasSource, present⟩ := finds.present
  obtain ⟨targetEntries, hasTarget, missing⟩ := finds.missing
  obtain ⟨index, success⟩ := Option.isSome_iff_exists.mp finds.completed
  have effect := transferDestination_effect.of_ok (eq_ok_of_returned success)
  obtain ⟨plan, planned, suppressions⟩ := effect.completed
  refine ⟨?_, [], rfl, by simp⟩
  rw [suppressions]
  exact planned.suppresses_missing hasRole restoring hasSource present hasTarget missing owned

/-- **Deleted files stay deleted.**  In every history of runs from its beginning: after a
finished run with restoring off found a path with a copy that counts deleted at the
destination, no later run hands it to the copy program, however the runs end and whatever the
source does, as long as none restores or finds the path at the target. -/
theorem deleted_path_stays_deleted (start world later : World Content)
    (fresh : start.history = [])
    (earlier :
      Relation.ReflTransGen (HistoryStep inventoryIndex folderId fun _ => True) start world)
    (run : RunInputs Content) (path : String) (copied : KeptCopy path world.history)
    (finds : FindsDeleted inventoryIndex folderId run world path)
    (steps : Relation.ReflTransGen (QuietStep inventoryIndex folderId path)
      (Effect.after (transferDestination inventoryIndex folderId run) world) later) :
    ∃ since, later.history =
        since ++ (Effect.after (transferDestination inventoryIndex folderId run) world).history ∧
      ∀ transfer, Action.handed transfer ∈ since → path ∉ transfer.allowed := by
  have owns : OwnsCopies folderId world := by
    refine .run earlier fun path kept => ?_
    rw [fresh] at kept
    exact kept.elim
  have stays : StaysDeleted folderId path
      (Effect.after (transferDestination inventoryIndex folderId run) world) later := by
    induction steps with
    | refl => exact finds.staysDeleted (owns path copied)
    | tail _ step ih => exact ih.step step
  exact stays.history

end Histories

/-! ## A deleted file whose source is edited -/

section Sample

/-- The run that finds the copied file deleted. -/
def sampleFinding : RunInputs Nat :=
  smoothRun (lengthIndex [sampleEntry]) copyRole [sampleEntry] [] [] ∅

/-- A run after the source edited the file. -/
def sampleEdited : RunInputs Nat :=
  smoothRun (lengthIndex [sampleEntry]) copyRole [{ sampleEntry with size := 4 }] [] [] ∅

theorem leavesDeleted_smoothRun {index : EngineIndexSnapshot} {role : DestinationRole}
    {source before after : List InventoryEntry} {files : BTreeMap String Content} {path : String}
    (restoring : role.restoreLocalDeletions = false)
    (missing : (byPath before).containsKey path = false) :
    (smoothRun index role source before after files).LeavesDeleted path := by
  refine ⟨fun other hasRole => ?_, fun entries listed => ?_⟩
  · rw [← Except.ok.inj hasRole]
    exact restoring
  · rw [← Except.ok.inj listed]
    exact missing

/-- The file was copied and then deleted at the destination.  A run finds it missing, one that
saves its policy ends in a crash, and a later one sees the edited source. -/
theorem deleted_path_stays_deleted_sample :
    ∃ since, (Effect.after (transferDestination lengthIndex ⟨7⟩ sampleEdited)
          (Effect.after (transferDestination lengthIndex ⟨7⟩
              { sampleEdited with savePlan := .published .crashed })
            (Effect.after (transferDestination lengthIndex ⟨7⟩ sampleFinding)
              sampleCopied))).history =
        since ++
          (Effect.after (transferDestination lengthIndex ⟨7⟩ sampleFinding) sampleCopied).history ∧
      ∀ transfer, Action.handed transfer ∈ since → "a" ∉ transfer.allowed := by
  have quiet : sampleEdited.LeavesDeleted "a" := leavesDeleted_smoothRun rfl rfl
  refine deleted_path_stays_deleted sampleStart sampleCopied _ rfl (.single (.run _ trivial))
    sampleFinding "a" (by decide +kernel) ?_
    (.tail (.single (.run { sampleEdited with savePlan := .published .crashed } quiet))
      (.run sampleEdited quiet))
  exact ⟨⟨copyRole, rfl, rfl⟩, ⟨[sampleEntry], rfl, by decide⟩, ⟨[], rfl, by decide⟩,
    by decide +kernel⟩

/-! ## A file that the link deleted itself -/

/-- Deletions propagate and are not restored. -/
def dropRole : DestinationRole :=
  { propagateSourceDeletions := true, restoreLocalDeletions := false }

/-- The source has the file and the destination does not. -/
def offerRun : RunInputs Nat :=
  smoothRun (lengthIndex [sampleEntry]) dropRole [sampleEntry] [] [sampleEntry]
    (BTreeMap.ofList [("a", 5)])

/-- The source lacks the file, and the destination is listed as given. -/
def withdrawRun (before : List InventoryEntry) : RunInputs Nat :=
  smoothRun (lengthIndex []) dropRole [] before [] ∅

/-- The file was copied, and its deletion at the source was propagated. -/
def withdrawnWorld : World Nat :=
  Effect.after (transferDestination lengthIndex ⟨7⟩ (withdrawRun [sampleEntry]))
    (Effect.after (transferDestination lengthIndex ⟨7⟩ offerRun) sampleStart)

/-- The file is back at the source and is copied again. -/
def offeredWorld : World Nat :=
  Effect.after (transferDestination lengthIndex ⟨7⟩ offerRun) withdrawnWorld

/-- The user deletes it, the source loses it and gets it back. -/
def recreatedWorld : World Nat :=
  Effect.after (transferDestination lengthIndex ⟨7⟩ offerRun)
    (Effect.after (transferDestination lengthIndex ⟨7⟩ (withdrawRun []))
      { offeredWorld with files := ∅ })

/-- What a run over the file hands over. -/
def sampleOffer : PendingTransfer where
  sourceIndex := lengthIndex [sampleEntry]
  source := byPath [sampleEntry]
  allowed := {"a"}
  suppressions := ∅
  propagateSourceDeletions := true

/-- A file that the link copied and whose deletion it propagated is a new file when the source
has it again: a run finds it missing and copies it, and after the user and the source deleted
it once more, so does a later run, though no run since restores or starts with the file at the
destination. -/
theorem propagated_deletion_is_forgotten :
    Relation.ReflTransGen (HistoryStep lengthIndex ⟨7⟩ fun _ => True) sampleStart withdrawnWorld ∧
      Recorded withdrawnWorld.history "a" ∧
      FindsDeleted lengthIndex ⟨7⟩ offerRun withdrawnWorld "a" ∧
      Relation.ReflTransGen (QuietStep lengthIndex ⟨7⟩ "a") offeredWorld recreatedWorld ∧
      ∃ since, recreatedWorld.history = since ++ offeredWorld.history ∧
        Action.handed sampleOffer ∈ since ∧ "a" ∈ sampleOffer.copyList := by
  have quiet : offerRun.LeavesDeleted "a" := leavesDeleted_smoothRun rfl rfl
  refine ⟨.tail (.single (.run _ trivial)) (.run _ trivial), ?_, ?_, ?_, ?_⟩
  · exact ⟨sampleOffer, {"a"}, by decide +kernel, by decide, by decide +kernel, by decide +kernel⟩
  · exact ⟨⟨dropRole, rfl, rfl⟩, ⟨[sampleEntry], rfl, by decide⟩, ⟨[], rfl, by decide⟩,
      by decide +kernel⟩
  · exact .tail (.tail (.single (.files ∅)) (.run _ (leavesDeleted_smoothRun rfl rfl)))
      (.run _ quiet)
  · exact ⟨recreatedWorld.history.take 6, by decide +kernel, by decide +kernel, by decide +kernel⟩

end Sample

end Covalent.Transfer
