import Covalent.Transfer.Run

/-!
# Deletion stays inside what the link copied

A destination path that the source no longer has can only be removed by handing
it to the copy program in a run that propagates deletions.  Which paths qualify is
decided by the policy's `owned` set, and that set is rebuilt at several places: at
the start of a run, from the log of a failed copy, when a copy is recorded, and
when a run finishes.

**The invariant.**  Every path the policy names anywhere — owned, delivered or
suppressed — was recorded as copied by a run of this link (`Accounted`).  The only
way to enter the policy without a fresh record is to have been named there before.
-/

namespace Covalent.Transfer

open List BTreeMap

variable {Content : Type}

/-! ## Recorded paths -/

/-- A run handed the path over for copying and the copy was recorded as done. -/
def Recorded (history : List Action) (path : String) : Prop :=
  ∃ transfer paths, Action.copyRecorded transfer paths ∈ history ∧ path ∈ paths ∧
    path ∈ transfer.copyList ∧ Action.handed transfer ∈ history

variable {history : List Action} {state : FolderPolicyState}

theorem Recorded.mono {later : List Action} {path : String}
    (recorded : Recorded history path) (kept : history ⊆ later) :
    Recorded later path := by
  obtain ⟨transfer, paths, logged, member, listed, handed⟩ := recorded
  exact ⟨transfer, paths, kept logged, member, listed, kept handed⟩

/-- Every path that the policy of the folder names was recorded as copied. -/
structure Accounted (history : List Action) (state : FolderPolicyState) : Prop where
  owned : ∀ path ∈ state.owned, Recorded history path
  delivered : ∀ path entry, state.delivered.get? path = some entry → Recorded history path
  suppressed : ∀ path ∈ state.suppressions, Recorded history path

/-- Every list handed over named departed paths only when deletions propagate, and
only paths recorded before. -/
def DeletionsAccounted (history : List Action) : Prop :=
  ∀ newer transfer older, history = newer ++ .handed transfer :: older →
    ∀ path ∈ transfer.allowed, transfer.source.get? path = none →
      transfer.propagateSourceDeletions = true ∧ Recorded older path

theorem Accounted.mono {later : List Action}
    (accounted : Accounted history state) (kept : history ⊆ later) :
    Accounted later state where
  owned path member := (accounted.owned path member).mono kept
  delivered path entry bound := (accounted.delivered path entry bound).mono kept
  suppressed path member := (accounted.suppressed path member).mono kept

theorem Accounted.ownDelivered
    (accounted : Accounted history state) : Accounted history state.ownDelivered where
  owned := by
    intro path member
    rcases Finset.mem_union.mp member with member | member
    · exact accounted.owned path member
    · obtain ⟨entry, bound⟩ := mem_keySet.mp member
      exact accounted.delivered path entry bound
  delivered := accounted.delivered
  suppressed := accounted.suppressed

theorem Accounted.planSuppressions (accounted : Accounted history state)
    {source target : Inventory} {restore : Bool} {path : String}
    (member : path ∈ planSuppressions state source target restore) :
    Recorded history path := by
  obtain ⟨-, kept | ⟨owned, -⟩, -⟩ := mem_planSuppressions.mp member
  · exact accounted.suppressed path kept
  · exact accounted.owned path owned

/-! ## One run -/

section Run

variable {inventoryIndex : List InventoryEntry → EngineIndexSnapshot}
  {folderId : Uuid} {run : RunInputs Content} {world : World Content}
  {plan : RunPlan}

variable {history : List Action} {path : String}

section

variable (planned : Planned inventoryIndex folderId run world plan)
  (accounted : Accounted history (world.readPolicy.folder folderId))

include planned accounted

theorem Planned.state_accounted : Accounted history plan.state := by
  obtain ⟨_, _, _, -, -, -, -, rfl, -⟩ := planned
  exact accounted.ownDelivered

theorem Planned.suppressions_accounted (member : path ∈ plan.pending.suppressions) :
    Recorded history path := by
  have stateAccounted := planned.state_accounted accounted
  obtain ⟨_, _, _, -, -, -, -, rfl, -⟩ := planned
  exact stateAccounted.planSuppressions member

theorem Planned.source_accounted {entry : InventoryEntry}
    (present : plan.source.get? path = some entry) :
    path ∈ plan.pending.copyList ∨ Recorded history path := by
  have stateAccounted := planned.state_accounted accounted
  have suppressionsAccounted : path ∈ plan.pending.suppressions →
      Recorded history path := planned.suppressions_accounted accounted
  obtain ⟨_, _, _, -, -, -, -, rfl, -⟩ := planned
  rcases planTransfer_source_cases present with listed | suppressed | delivered
  · exact .inl (mem_copyList.mpr ⟨listed, entry, present⟩)
  · exact .inr (suppressionsAccounted suppressed)
  · exact .inr (stateAccounted.delivered path entry delivered)

/-- A listed path that the plan's source lacks is owned, and deletions propagate. -/
theorem Planned.departed (listed : path ∈ plan.pending.allowed)
    (absent : plan.pending.source.get? path = none) :
    plan.pending.propagateSourceDeletions = true ∧ Recorded history path := by
  have stateAccounted := planned.state_accounted accounted
  obtain ⟨_, _, _, -, -, -, -, rfl, -⟩ := planned
  obtain ⟨propagates, owned⟩ := (planTransfer_allowed listed).2 absent
  exact ⟨propagates, stateAccounted.owned path owned⟩

theorem Planned.completed_accounted {state : FolderPolicyState}
    (stateAccounted : Accounted history state)
    (copied : ∀ path ∈ plan.pending.copyList, Recorded history path) :
    Accounted history (plan.completed state) := by
  have sourceRecorded : ∀ path entry, plan.source.get? path = some entry →
      Recorded history path := by
    intro path entry present
    rcases planned.source_accounted accounted present with listed | recorded
    · exact copied path listed
    · exact recorded
  have keysRecorded : ∀ path ∈ plan.source.keySet, Recorded history path := by
    intro path member
    obtain ⟨entry, present⟩ := mem_keySet.mp member
    exact sourceRecorded path entry present
  have suppressionsRecorded : ∀ path ∈ plan.pending.suppressions, Recorded history path :=
    fun path member => planned.suppressions_accounted accounted member
  unfold RunPlan.completed completeTransferState
  split
  · exact ⟨keysRecorded, sourceRecorded, suppressionsRecorded⟩
  · refine ⟨?_, ?_, suppressionsRecorded⟩
    · intro path member
      rcases Finset.mem_union.mp member with owned | key
      · exact stateAccounted.owned path owned
      · exact keysRecorded path key
    · intro path entry bound
      rw [get?_extend] at bound
      cases present : plan.source.get? path with
      | some fresh => exact sourceRecorded path fresh present
      | none =>
        rw [present] at bound
        exact stateAccounted.delivered path entry bound

end

/-- The invariant of a link: the policy is accounted for, and so was every list
that was ever handed over. -/
structure LinkAccounted (folderId : Uuid) (world : World Content) : Prop where
  policy : Accounted world.history (world.readPolicy.folder folderId)
  lists : DeletionsAccounted world.history

theorem LinkAccounted.of_agrees {after expected : World Content}
    (accounted : LinkAccounted folderId expected) (agrees : after.Agrees expected) :
    LinkAccounted folderId after := by
  have reads : after.readPolicy = expected.readPolicy := by
    rw [World.readPolicy, agrees.policy, World.readPolicy]
  constructor
  · rw [agrees.history, reads]
    exact accounted.policy
  · rw [agrees.history]
    exact accounted.lists

theorem LinkAccounted.deletes (accounted : LinkAccounted folderId world)
    (paths : Finset String) : LinkAccounted folderId (world.deletes paths) :=
  ⟨accounted.policy, accounted.lists⟩

/-- Publishing an accounted policy keeps the invariant, as long as the new
entries of the history are not lists. -/
theorem LinkAccounted.publish (accounted : LinkAccounted folderId world)
    {policy : PolicyState} {state : FolderPolicyState} {actions : List Action}
    (notLists : ∀ transfer, Action.handed transfer ∉ actions)
    (stateAccounted : Accounted (actions ++ world.history) state) :
    LinkAccounted folderId (world.publish (policy.setFolder folderId state) actions) := by
  constructor
  · rw [World.readPolicy_publish, PolicyState.folder_setFolder]
    exact stateAccounted
  · intro newer transfer older split path listed absent
    change actions ++ world.history = _ at split
    -- The list lies in the old part of the history.
    obtain ⟨between, rfl, rest⟩ | ⟨between, broken, rest⟩ := append_eq_append_iff.mp split
    · exact accounted.lists between transfer older rest path listed absent
    · cases between with
      | nil =>
        exact accounted.lists [] transfer older (by simpa using rest.symm) path listed absent
      | cons first others =>
        have handed : first = Action.handed transfer := by
          simpa using (cons.inj rest).1.symm
        exact absurd (broken ▸ by simp [handed]) (notLists transfer)

theorem LinkAccounted.hands (accounted : LinkAccounted folderId world)
    {transfer : PendingTransfer} {files : BTreeMap String Content}
    (departed : ∀ path ∈ transfer.allowed, transfer.source.get? path = none →
      transfer.propagateSourceDeletions = true ∧ Recorded world.history path) :
    LinkAccounted folderId (world.hands transfer files) := by
  constructor
  · exact accounted.policy.mono (subset_cons_self _ _)
  · intro newer other older split path listed absent
    change Action.handed transfer :: world.history = _ at split
    cases newer with
    | nil =>
      obtain ⟨same, rfl⟩ := cons.inj split
      cases same
      exact departed path listed absent
    | cons first others =>
      exact accounted.lists others other older (cons.inj split).2 path listed absent

section

variable (planned : Planned inventoryIndex folderId run world plan)
  (accounted : LinkAccounted folderId world)

include planned accounted

theorem Planned.announced_accounted :
    LinkAccounted folderId (announcedWorld folderId run world plan) := by
  have stateAccounted := planned.state_accounted accounted.policy
  refine (accounted.deletes run.deletedBeforeListing).publish (by simp) ?_
  exact ⟨stateAccounted.owned, stateAccounted.delivered, stateAccounted.suppressed⟩

theorem Planned.copied_accounted :
    LinkAccounted folderId (copiedWorld folderId run world plan) := by
  refine (planned.announced_accounted accounted).hands ?_
  intro path listed absent
  exact planned.departed accounted.policy listed absent

theorem Planned.recordedPaths_accounted {paths : Finset String}
    (listed : paths ⊆ plan.pending.copyList) :
    Accounted (.copyRecorded plan.pending paths :: .handed plan.pending :: world.history)
      { plan.announced with owned := plan.announced.owned ∪ paths } := by
  have kept : world.history ⊆ .copyRecorded plan.pending paths ::
      .handed plan.pending :: world.history := by
    intro action member
    simp [member]
  have stateAccounted := (planned.state_accounted accounted.policy).mono kept
  refine ⟨?_, stateAccounted.delivered, stateAccounted.suppressed⟩
  intro path member
  rcases Finset.mem_union.mp member with owned | copied
  · exact stateAccounted.owned path owned
  · exact ⟨plan.pending, paths, by simp, copied, listed copied, by simp⟩

theorem Planned.recordCopied_accounted : Accounted (recordedWorld folderId run world plan).history
      (plan.announced.recordCopied plan.pending) := by
  have copiesAccounted := planned.recordedPaths_accounted accounted
    (Finset.Subset.refl plan.pending.copyList)
  refine ⟨copiesAccounted.owned, copiesAccounted.delivered, ?_⟩
  intro path member
  refine (planned.suppressions_accounted accounted.policy member).mono ?_
  intro action present
  exact mem_cons_of_mem _ (mem_cons_of_mem _ present)

theorem Planned.recorded_accounted :
    LinkAccounted folderId (recordedWorld folderId run world plan) :=
  (planned.copied_accounted accounted).publish (by simp) (planned.recordCopied_accounted accounted)

theorem Planned.relisted_accounted :
    LinkAccounted folderId (relistedWorld folderId run world plan) :=
  ((planned.recorded_accounted accounted).deletes _).deletes _

end

/-- However a run ends, the link stays accounted for. -/
theorem RunEffect.accounted {after : World Content} {result : Except Stop EngineIndexSnapshot}
    (effect : RunEffect inventoryIndex folderId run world after result)
    (accounted : LinkAccounted folderId world) :
    LinkAccounted folderId after := by
  cases effect with
  | untouched agrees =>
    rcases agrees with agrees | agrees
    · exact accounted.of_agrees agrees
    · exact (accounted.deletes run.deletedBeforeListing).of_agrees agrees
  | settled planned nothing verified =>
    refine (accounted.deletes run.deletedBeforeListing).publish (by simp) ?_
    refine (planned.completed_accounted accounted.policy
      (planned.state_accounted accounted.policy) ?_).mono (subset_cons_self _ _)
    intro path listed
    simp [PendingTransfer.copyList, nothing] at listed
  | announced planned agrees =>
    exact (planned.announced_accounted accounted).of_agrees agrees
  | copied planned agrees =>
    exact (planned.copied_accounted accounted).of_agrees agrees
  | copiedInPart planned listed =>
    exact (planned.copied_accounted accounted).publish (by simp)
      (planned.recordedPaths_accounted accounted listed)
  | recorded planned agrees =>
    rcases agrees with agrees | agrees | agrees
    · exact (planned.recorded_accounted accounted).of_agrees agrees
    · exact ((planned.recorded_accounted accounted).deletes _).of_agrees agrees
    · exact (planned.relisted_accounted accounted).of_agrees agrees
  | cleared planned agrees =>
    rename_i plan before stop
    have beforeAccounted : LinkAccounted folderId before := by
      rcases agrees with agrees | agrees
      · exact (planned.recorded_accounted accounted).of_agrees agrees
      · exact ((planned.recorded_accounted accounted).deletes _).of_agrees agrees
    have history : before.history = (recordedWorld folderId run world plan).history := by
      rcases agrees with agrees | agrees
      · exact agrees.history
      · exact agrees.history
    refine beforeAccounted.publish (by simp) ?_
    rw [nil_append, history]
    have stateAccounted := planned.recordCopied_accounted accounted
    exact ⟨stateAccounted.owned, stateAccounted.delivered, stateAccounted.suppressed⟩
  | finished planned stands checked listed verified =>
    refine (planned.relisted_accounted accounted).publish (by simp) ?_
    have stateAccounted := planned.recordCopied_accounted accounted
    refine Accounted.mono ?_ (subset_cons_self _ _)
    refine planned.completed_accounted (accounted.policy.mono ?_) stateAccounted ?_
    · intro action present
      exact mem_cons_of_mem _ (mem_cons_of_mem _ present)
    · intro path copied
      exact stateAccounted.owned path (Finset.mem_union_right _ copied)

end Run

/-! ## All histories of a link -/

section Link

variable {inventoryIndex : List InventoryEntry → EngineIndexSnapshot}
  {folderId : Uuid} {trusted : RunInputs Content → World Content → Prop}

theorem LinkStep.accounted {world after : World Content}
    (step : LinkStep inventoryIndex folderId trusted world after)
    (accounted : LinkAccounted folderId world) :
    LinkAccounted folderId after := by
  cases step with
  | run inputs honest =>
    obtain ⟨result, effect⟩ := after_transferDestination inputs world
    exact effect.accounted accounted
  | deletes paths => exact accounted.deletes paths
  | reset reading outcome =>
    rcases after_resetFolder reading outcome world with agrees | forgotten
    · exact accounted.of_agrees agrees
    · rw [forgotten]
      -- A forgotten folder has the empty policy.
      refine ⟨?_, accounted.lists⟩
      rw [World.readPolicy_publish, PolicyState.folder, get?_erase, if_pos rfl]
      exact ⟨by simp, by simp, by simp⟩

theorem linkMachine_accounted {world : World Content}
    (reachable : (linkMachine inventoryIndex folderId trusted).Reachable world) :
    LinkAccounted folderId world := by
  refine reachable.invariant ?_ fun _ _ _ step => LinkStep.accounted step
  rintro start ⟨noPolicy, noHistory⟩
  constructor
  · rw [World.readPolicy, noPolicy]
    exact ⟨by simp [PolicyState.folder], by simp [PolicyState.folder], by simp [PolicyState.folder]⟩
  · intro newer transfer older split
    rw [noHistory] at split
    exact absurd split (by simp)

/-- **Deletion stays inside what the link copied.**  In every history of a link,
whatever the inventories, the failures and the changes of the deletion choices, a
list that was handed to the copy program names a path that its source lacks only
when that run propagates deletions, and only when an earlier run handed that path
over for copying and the copy was recorded as done. -/
theorem departed_path_was_copied {world : World Content}
    (reachable : (linkMachine inventoryIndex folderId (fun _ _ => True)).Reachable world)
    {newer older : List Action} {transfer : PendingTransfer}
    (handed : world.history = newer ++ .handed transfer :: older) {path : String}
    (listed : path ∈ transfer.allowed) (absent : transfer.source.get? path = none) :
    transfer.propagateSourceDeletions = true ∧ ∃ earlier paths, Action.handed earlier ∈ older ∧
        path ∈ earlier.copyList ∧
        Action.copyRecorded earlier paths ∈ older ∧ path ∈ paths := by
  have accounted := linkMachine_accounted reachable
  obtain ⟨propagates, earlier, paths, logged, member, copyListed, handedBefore⟩ :=
    accounted.lists newer transfer older handed path listed absent
  exact ⟨propagates, earlier, paths, handedBefore, copyListed, logged, member⟩

end Link

/-! ## A path that was copied and then leaves the source -/

section Sample

/-- A file of three bytes. -/
def sampleEntry : InventoryEntry :=
  { path := "a", size := 3, modifiedUnixSeconds := 1, sha256 := none }

/-- A listing fingerprint that tells listings of different length apart. -/
def lengthIndex (entries : List InventoryEntry) : EngineIndexSnapshot :=
  { indexId := String.ofList (entries.map fun _ => 'x'), sequence := 1 }

/-- Both deletion choices on. -/
def mirrorRole : DestinationRole :=
  { propagateSourceDeletions := true, restoreLocalDeletions := true }

def sampleStart : World Nat :=
  { policy := none, staged := false, files := ∅, history := [] }

def sampleCopied : World Nat :=
  Effect.after (transferDestination lengthIndex ⟨7⟩
    (smoothRun (lengthIndex [sampleEntry]) mirrorRole [sampleEntry] []
      [sampleEntry] (ofList [("a", 5)]))) sampleStart

def sampleDeleted : World Nat :=
  Effect.after (transferDestination lengthIndex ⟨7⟩
    (smoothRun (lengthIndex []) mirrorRole [] [sampleEntry] [] ∅)) sampleCopied

/-- The list of the second run. -/
def sampleRemoval : PendingTransfer :=
  { sourceIndex := lengthIndex []
    source := ∅
    allowed := {"a"}
    suppressions := ∅
    propagateSourceDeletions := true }

theorem sampleDeleted_reachable :
    (linkMachine lengthIndex ⟨7⟩ (fun _ _ => True)).Reachable sampleDeleted := by
  have start : (linkMachine lengthIndex ⟨7⟩ (fun _ _ => True)).Reachable
      sampleStart := .start ⟨rfl, rfl⟩
  exact (start.next (.run _ trivial)).next (.run _ trivial)

theorem departed_path_was_copied_sample :
    sampleRemoval.propagateSourceDeletions = true ∧ ∃ earlier paths,
        Action.handed earlier ∈ sampleDeleted.history.drop 3 ∧ "a" ∈ earlier.copyList ∧
          Action.copyRecorded earlier paths ∈ sampleDeleted.history.drop 3 ∧
          "a" ∈ paths := by
  have handed : sampleDeleted.history = sampleDeleted.history.take 2 ++
        .handed sampleRemoval :: sampleDeleted.history.drop 3 := by
    decide +kernel
  exact departed_path_was_copied sampleDeleted_reachable handed (by decide) (by decide)

end Sample

end Covalent.Transfer
