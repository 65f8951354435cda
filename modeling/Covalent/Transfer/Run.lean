import Covalent.Base.Machine
import Covalent.Base.Scripted
import Covalent.Transfer.Policy

/-!
# One destination run

`transferDestination` follows the source function step by step over a world that
holds the policy file, the destination's files and a history of what the run did.
Everything the process does not decide itself — listings, outcomes of file
operations, the copy program, the moment of a crash and the deletions of the
destination's user — is an input of the run.

**A crash is an early end.**  Every fallible step may stop the run, either with
the error it returns or because the process died there; in both cases the policy
file and the destination keep what was done so far.

## Design notes

The history is not program state: no function reads it.  It records the lists
handed to the copy program, the copies recorded in the policy and the finished
runs, so that a property can speak about earlier runs.
-/

namespace Covalent.Transfer

open Effect

/-! ## The world -/

/-- Why a run ended early. -/
abbrev Stop := Scripted.Stop EngineSessionError

/-- A step that did not end well either reported it or took the process down. -/
inductive Fault
  | reported
  | crashed
deriving DecidableEq

/-- How a fault ends the run. -/
def Fault.stop (error : EngineSessionError) : Fault → Stop
  | .reported => .failed error
  | .crashed => .crashed

/-- The fault that ended a run. -/
def Stop.fault : Stop → Fault
  | .failed _ => .reported
  | .crashed => .crashed

theorem Fault.fault_stop (error : EngineSessionError) (fault : Fault) :
    (fault.stop error).fault = fault := by
  cases fault <;> rfl

/-- What happened to an attempt to replace the policy file: it was replaced; it
was left alone; the staged copy was left behind; or it was replaced but the run
did not learn of it. -/
inductive SaveOutcome
  | saved
  | refused (fault : Fault)
  | staged (fault : Fault)
  | published (fault : Fault)

/-- One entry of the history. -/
inductive Action
  /-- The list was handed to the copy program. -/
  | handed (transfer : PendingTransfer)
  /-- The policy records that these paths of the list were copied. -/
  | copyRecorded (transfer : PendingTransfer) (paths : Finset String)
  /-- The policy records that the transfer is finished. -/
  | completed (transfer : PendingTransfer)
deriving DecidableEq

variable {Content : Type}

/-- The policy file of the folder (absent before its first replacement), a staged
copy left behind, the destination's files and the history, newest first. -/
structure World (Content : Type) where
  policy : Option PolicyState
  staged : Bool
  files : BTreeMap String Content
  history : List Action

/-- The policy that a reader of the file sees. -/
def World.readPolicy (world : World Content) : PolicyState :=
  world.policy.getD { version := 1, folders := ∅ }

/-- The destination's user deletes files. -/
def World.deletes (world : World Content) (paths : Finset String) : World Content :=
  { world with files := world.files.retain (fun path _ => decide (path ∉ paths)) }

/-- The policy file is replaced. -/
def World.publish (world : World Content) (policy : PolicyState)
    (actions : List Action) : World Content :=
  { world with policy := some policy, history := actions ++ world.history }

/-- The copy program worked through a list. -/
def World.hands (world : World Content) (transfer : PendingTransfer)
    (files : BTreeMap String Content) : World Content :=
  { world with files := files, history := .handed transfer :: world.history }

@[simp]
theorem World.readPolicy_deletes (world : World Content) (paths : Finset String) :
    (world.deletes paths).readPolicy = world.readPolicy := rfl

@[simp]
theorem World.readPolicy_publish (world : World Content) (policy : PolicyState)
    (actions : List Action) :
    (world.publish policy actions).readPolicy = policy := rfl

theorem World.get?_deletes (world : World Content) (paths : Finset String) (path : String) :
    (world.deletes paths).files.get? path =
      if path ∈ paths then none else world.files.get? path := by
  rw [World.deletes, BTreeMap.get?_retain]
  cases world.files.get? path with
  | none => simp
  | some content => by_cases gone : path ∈ paths <;> simp [gone]

theorem World.get?_deletes_or (world : World Content) (paths : Finset String) (path : String) :
    (world.deletes paths).files.get? path = none ∨
      (world.deletes paths).files.get? path = world.files.get? path := by
  rw [World.get?_deletes]
  by_cases gone : path ∈ paths
  · exact .inl (if_pos gone)
  · exact .inr (if_neg gone)

/-! ## Reading and replacing the policy file -/

/-- A computation of the destination. -/
abbrev Run (Content : Type) := EStateM Stop (World Content)

/-- The result of a decision of the session. -/
def decideOrFail {α : Type} (result : Except EngineSessionError α) : Run Content α :=
  lift (result.mapError Scripted.Stop.failed)

def loadPolicy (reading : Except Fault Unit) : Run Content PolicyState := do
  let world ← get
  lift (refuse world.staged (.failed .runtimeUnavailable))
  lift (reading.mapError (Fault.stop .runtimeUnavailable))
  lift (refuse (decide (world.readPolicy.version ≠ 1)) (.failed .runtimeUnavailable))
  pure world.readPolicy

/-- The staged copy is created exclusively. -/
def createStaged : Run Content Unit := do
  let world ← get
  lift (refuse world.staged (.failed .runtimeUnavailable))

def savePolicy (outcome : SaveOutcome) (policy : PolicyState)
    (actions : List Action) : Run Content Unit :=
  match outcome with
  | .saved => do
    createStaged
    modify (fun world => world.publish policy actions)
  | .refused fault => throw (fault.stop .runtimeUnavailable)
  | .staged fault => do
    createStaged
    modify (fun world => { world with staged := true })
    throw (fault.stop .runtimeUnavailable)
  | .published fault => do
    createStaged
    modify (fun world => world.publish policy actions)
    throw (fault.stop .runtimeUnavailable)

/-! ## The run -/

/-- The deletion choices of a destination folder. -/
structure DestinationRole where
  propagateSourceDeletions : Bool
  restoreLocalDeletions : Bool

/-- How the copy program ended. -/
inductive CopyOutcome
  | succeeded
  | exitedNonzero (stderr : List (Option LogRecord))
  | launchFailed
  | uncertain (fault : Fault)

/-- What the surroundings of one run decide, in the order in which it asks. -/
structure RunInputs (Content : Type) where
  expected : EngineIndexSnapshot
  role : Except Stop DestinationRole
  sourceListing : Except Stop (List InventoryEntry)
  deletedBeforeListing : Finset String
  targetListing : Except Stop (List InventoryEntry)
  loadPlan : Except Fault Unit
  savePlan : SaveOutcome
  filesList : Except Stop Unit
  verificationList : Except Stop Unit
  copy : CopyOutcome
  filesAfterCopy : BTreeMap String Content
  loadRecord : Except Fault Unit
  saveRecord : SaveOutcome
  sourceAfterCopy : Except Stop (List InventoryEntry)
  deletedBeforeCheck : Finset String
  check : Except Stop Unit
  loadClear : Except Fault Unit
  saveClear : SaveOutcome
  deletedBeforeVerify : Finset String
  targetAfterCopy : Except Stop (List InventoryEntry)
  loadComplete : Except Fault Unit
  saveComplete : SaveOutcome

/-- What a run knows once it has planned its transfer. -/
structure RunPlan where
  policy : PolicyState
  state : FolderPolicyState
  source : Inventory
  target : Inventory
  pending : PendingTransfer

section Operations

variable (inventoryIndex : List InventoryEntry → EngineIndexSnapshot) (folderId : Uuid)

/-- The plan over both listings and the policy that was read. -/
def planOf (role : DestinationRole)
    (sourceEntries targetEntries : List InventoryEntry) (policy : PolicyState) :
    RunPlan :=
  let source := byPath sourceEntries
  let target := byPath targetEntries
  let state := (policy.folder folderId).ownDelivered
  let planned := planTransfer state source target
    role.propagateSourceDeletions role.restoreLocalDeletions
  { policy := policy
    state := state
    source := source
    target := target
    pending :=
      { sourceIndex := inventoryIndex sourceEntries
        source := source
        allowed := planned.1
        suppressions := planned.2
        propagateSourceDeletions := role.propagateSourceDeletions } }

section

variable (run : RunInputs Content)

/-- The first part of `transfer_destination`: read both listings and the policy,
and plan the transfer. -/
def planDestination : Run Content RunPlan := do
  let role ← lift run.role
  let sourceEntries ← lift run.sourceListing
  lift (refuse (decide (inventoryIndex sourceEntries ≠ run.expected)) (.failed .transferFailed))
  modify (fun world => world.deletes run.deletedBeforeListing)
  let targetEntries ← lift run.targetListing
  let policy ← loadPolicy run.loadPlan
  let plan := planOf inventoryIndex folderId role sourceEntries targetEntries policy
  decideOrFail (checkPendingRetry plan.state plan.source plan.target role.restoreLocalDeletions)
  pure plan

/-- The policy with the transfer announced. -/
def RunPlan.announced (plan : RunPlan) : FolderPolicyState :=
  { plan.state with pending := some plan.pending, copyCompleted := false }

/-- The policy with the transfer finished, over what the policy held before. -/
def RunPlan.completed (plan : RunPlan) (state : FolderPolicyState) : FolderPolicyState :=
  completeTransferState state plan.source plan.pending.suppressions
    plan.pending.propagateSourceDeletions

/-- Extend the policy of a transfer that is still announced. -/
def updatePending (reading : Except Fault Unit) (outcome : SaveOutcome)
    (pending : PendingTransfer) (actions : List Action)
    (change : FolderPolicyState → FolderPolicyState) : Run Content Unit := do
  let policy ← loadPolicy reading
  let state := policy.folder folderId
  lift (refuse (decide (state.pending ≠ some pending)) (.failed .runtimeUnavailable))
  savePolicy outcome (policy.setFolder folderId (change state)) actions

def recordPartialCopy (pending : PendingTransfer) (stderr : List (Option LogRecord)) :
    Run Content Unit := do
  let copied ← decideOrFail (okOr (copiedPaths pending stderr) .runtimeUnavailable)
  if copied = ∅ then
    pure ()
  else
    updatePending folderId run.loadRecord run.saveRecord pending [.copyRecorded pending copied]
      (fun state => { state with owned := state.owned ∪ copied })

/-- The policy after the copy program worked through the whole list. -/
def FolderPolicyState.recordCopied (state : FolderPolicyState)
    (pending : PendingTransfer) : FolderPolicyState :=
  { state with
    suppressions := pending.suppressions
    owned := state.owned ∪ pending.copyList
    copyCompleted := true }

def recordCompletedCopy (pending : PendingTransfer) : Run Content Unit :=
  updatePending folderId run.loadRecord run.saveRecord pending
    [.copyRecorded pending pending.copyList] (fun state => state.recordCopied pending)

/-- The policy without an announced transfer. -/
def FolderPolicyState.clearPending (state : FolderPolicyState) : FolderPolicyState :=
  { state with pending := none, copyCompleted := false }

def clearKnownPending (pending : PendingTransfer) : Run Content Unit :=
  updatePending folderId run.loadClear run.saveClear pending [] FolderPolicyState.clearPending

/-- Run the copy program over the announced list. -/
def runTransfer (pending : PendingTransfer) : Run Content Unit := do
  modify (fun world => world.hands pending run.filesAfterCopy)
  match run.copy with
  | .succeeded => pure ()
  | .exitedNonzero stderr =>
    recordPartialCopy folderId run pending stderr
    throw (.failed .engineUnavailable)
  | .launchFailed => throw (.failed .launchFailed)
  | .uncertain fault => throw (fault.stop .engineUnavailable)

/-- The part of `transfer_destination` whose failure may clear the announcement:
copy, record the copy, compare the source listing and check the files. -/
def copyAndCheck (pending : PendingTransfer) : Run Content Unit := do
  runTransfer folderId run pending
  recordCompletedCopy folderId run pending
  let afterCopy ← lift run.sourceAfterCopy
  lift (refuse (!pendingPathsAreUnchanged pending (byPath afterCopy)) (.failed .transferFailed))
  modify (fun world => world.deletes run.deletedBeforeCheck)
  if pending.copyList = ∅ then
    pure ()
  else
    lift run.check

/-- The last part of `transfer_destination`: list the target again and finish. -/
def finishDestination (plan : RunPlan) : Run Content Unit := do
  modify (fun world => world.deletes run.deletedBeforeVerify)
  let targetEntries ← lift run.targetAfterCopy
  decideOrFail (verifyTransfer plan.pending (byPath targetEntries))
  let policy ← loadPolicy run.loadComplete
  let state := policy.folder folderId
  lift (refuse (decide (state.pending.map PendingTransfer.sourceIndex ≠
      some plan.pending.sourceIndex))
    (.failed .engineUnavailable))
  savePolicy run.saveComplete
    (policy.setFolder folderId (plan.completed state)) [.completed plan.pending]

def transferDestination : Run Content EngineIndexSnapshot := do
  let plan ← planDestination inventoryIndex folderId run
  if plan.pending.allowed = ∅ then
    decideOrFail (verifyTransfer plan.pending plan.target)
    savePolicy run.savePlan (plan.policy.setFolder folderId (plan.completed plan.state))
      [.completed plan.pending]
    pure plan.pending.sourceIndex
  else
    savePolicy run.savePlan (plan.policy.setFolder folderId plan.announced) []
    lift run.filesList
    lift run.verificationList
    match ← attempt (copyAndCheck folderId run plan.pending) with
    | .error stop =>
      if stop = .failed .transferFailed then do
        clearKnownPending folderId run plan.pending
        throw stop
      else throw stop
    | .ok () =>
      finishDestination folderId run plan
      pure plan.pending.sourceIndex

end

/-- Forget the policy of the folder. -/
def resetFolder (reading : Except Fault Unit) (outcome : SaveOutcome) : Run Content Unit := do
  let policy ← loadPolicy reading
  savePolicy outcome { policy with folders := policy.folders.erase folderId } []

end Operations

/-! ## What one run can do -/

/-- Equal up to a staged copy left behind. -/
structure World.Agrees (after expected : World Content) : Prop where
  policy : after.policy = expected.policy
  files : after.files = expected.files
  history : after.history = expected.history

theorem World.Agrees.rfl (world : World Content) : world.Agrees world :=
  ⟨.refl _, .refl _, .refl _⟩

/-- The one failure after which a run clears its announcement. -/
def Stop.clears (stop : Stop) : Prop :=
  stop = .failed .transferFailed

theorem Fault.stop_not_clears {error : EngineSessionError} (fault : Fault)
    (different : error ≠ .transferFailed) : ¬ (fault.stop error).clears := by
  cases fault with
  | reported => simpa [Fault.stop, Stop.clears] using different
  | crashed => simp [Fault.stop, Stop.clears]

theorem World.Agrees.trans {first second third : World Content}
    (left : first.Agrees second) (right : second.Agrees third) :
    first.Agrees third :=
  ⟨left.policy.trans right.policy, left.files.trans right.files, left.history.trans right.history⟩

variable {world : World Content} {failed : Stop → World Content → Prop}

variable {reading : Except Fault Unit} {post : Unit → World Content → Prop} {outcome : SaveOutcome}
  {policy : PolicyState} {actions : List Action}

theorem loadPolicy_ensures {post : PolicyState → World Content → Prop}
    (fine : post world.readPolicy world) (problem : ∀ stop, ¬ stop.clears → failed stop world) :
    Ensures (loadPolicy reading) world post failed := by
  have unavailable : ∀ fault : Fault, failed (fault.stop .runtimeUnavailable) world :=
    fun fault => problem _ (fault.stop_not_clears (by decide))
  unfold loadPolicy
  refine ensures_bind (ensures_get (ensures_bind ?_))
  refine ensures_refuse (fun _ => ensures_bind ?_) (fun _ => unavailable .reported)
  refine ensures_lift (fun _ _ => ensures_bind ?_) ?_
  · exact ensures_refuse (fun _ => ensures_pure fine) (fun _ => unavailable .reported)
  · intro stop read
    cases reading with
    | ok done => cases read
    | error fault =>
      cases read
      exact unavailable fault

theorem savePolicy_ensures (fine : post () (world.publish policy actions))
    (unchanged : ∀ stop after, ¬ stop.clears → after.Agrees world → failed stop after)
    (published : ∀ stop, ¬ stop.clears → failed stop (world.publish policy actions)) :
    Ensures (savePolicy outcome policy actions) world post failed := by
  have unavailable : ∀ fault : Fault, ¬ (fault.stop .runtimeUnavailable).clears :=
    fun fault => fault.stop_not_clears (by decide)
  have created : ∀ {next : Unit → Run Content Unit}, Ensures (next ()) world post failed →
      Ensures (createStaged >>= next) world post failed := fun goesOn =>
    ensures_bind (ensures_bind (ensures_get (ensures_refuse (fun _ => goesOn) fun _ =>
      unchanged _ _ (unavailable .reported) (.rfl world))))
  cases outcome with
  | saved => exact created (ensures_modify fine)
  | refused fault => exact ensures_throw (unchanged _ _ (unavailable fault) (.rfl world))
  | staged fault =>
    refine created (ensures_bind (ensures_modify (ensures_throw ?_)))
    exact unchanged _ _ (unavailable fault) ⟨rfl, rfl, rfl⟩
  | published fault =>
    exact created (ensures_bind (ensures_modify (ensures_throw (published _ (unavailable fault)))))

theorem decideOrFail_ensures {α : Type} {result : Except EngineSessionError α}
    {post : α → World Content → Prop} (fine : ∀ value, result = .ok value → post value world)
    (problem : ∀ error, result = .error error → failed (.failed error) world) :
    Ensures (decideOrFail result) world post failed := by
  unfold Ensures
  cases result with
  | error error => exact problem error rfl
  | ok value => exact fine value rfl

theorem updatePending_ensures {folderId : Uuid} {pending : PendingTransfer}
    {change : FolderPolicyState → FolderPolicyState}
    {state : FolderPolicyState}
    (reads : world.readPolicy = policy.setFolder folderId state)
    (fine : post () (world.publish (policy.setFolder folderId (change state)) actions))
    (unchanged : ∀ stop after, ¬ stop.clears → after.Agrees world → failed stop after)
    (published : ∀ stop, ¬ stop.clears → failed stop
        (world.publish (policy.setFolder folderId (change state)) actions)) :
    Ensures (updatePending folderId reading outcome pending actions change)
      world post failed := by
  unfold updatePending
  refine ensures_bind (loadPolicy_ensures ?_ fun stop keeps =>
    unchanged stop world keeps (.rfl world))
  refine ensures_bind (ensures_refuse (fun _ => ?_) fun _ =>
    unchanged _ _ (by simp [Stop.clears]) (World.Agrees.rfl world))
  rw [reads, PolicyState.folder_setFolder, PolicyState.setFolder_setFolder]
  exact savePolicy_ensures fine unchanged published

section Effects

variable (inventoryIndex : List InventoryEntry → EngineIndexSnapshot)
  (folderId : Uuid) (run : RunInputs Content) (world : World Content)

/-- The plan that a run in this world arrives at, when it gets that far. -/
def Planned (plan : RunPlan) : Prop :=
  ∃ role sourceEntries targetEntries, run.role = .ok role ∧ run.sourceListing = .ok sourceEntries ∧
      run.targetListing = .ok targetEntries ∧
      inventoryIndex sourceEntries = run.expected ∧
      plan = planOf inventoryIndex folderId role sourceEntries targetEntries world.readPolicy ∧
      checkPendingRetry plan.state plan.source plan.target role.restoreLocalDeletions = .ok ()

/-- The world when the target was listed. -/
def listedWorld : World Content :=
  world.deletes run.deletedBeforeListing

/-- The world after the transfer was announced in the policy. -/
def announcedWorld (plan : RunPlan) : World Content :=
  (listedWorld run world).publish (plan.policy.setFolder folderId plan.announced) []

/-- The world after the copy program ended. -/
def copiedWorld (plan : RunPlan) : World Content :=
  (announcedWorld folderId run world plan).hands plan.pending run.filesAfterCopy

/-- The world after the whole list was recorded as copied. -/
def recordedWorld (plan : RunPlan) : World Content :=
  (copiedWorld folderId run world plan).publish
    (plan.policy.setFolder folderId (plan.announced.recordCopied plan.pending))
    [.copyRecorded plan.pending plan.pending.copyList]

/-- The world after the check, with what the user deleted meanwhile. -/
def checkedWorld (plan : RunPlan) : World Content :=
  (recordedWorld folderId run world plan).deletes run.deletedBeforeCheck

/-- The world when the target was listed again. -/
def relistedWorld (plan : RunPlan) : World Content :=
  (checkedWorld folderId run world plan).deletes run.deletedBeforeVerify

/-- The copy program succeeded and the source still lists what was copied. -/
def CopyStands (pending : PendingTransfer) : Prop :=
  run.copy = .succeeded ∧ ∃ entries, run.sourceAfterCopy = .ok entries ∧
      pendingPathsAreUnchanged pending (byPath entries) = true

/-- The ways in which one run leaves the world: `RunEffect after result` says that
the run ended in `after` with `result`. -/
inductive RunEffect : World Content → Except Stop EngineIndexSnapshot → Prop
  /-- Nothing happened. -/
  | untouched {after : World Content} {stop : Stop}
      (agrees : after.Agrees world ∨ after.Agrees (listedWorld run world)) :
      RunEffect after (.error stop)
  /-- There was nothing to transfer, and the policy says so. -/
  | settled {plan : RunPlan} {result : Except Stop EngineIndexSnapshot}
      (planned : Planned inventoryIndex folderId run world plan)
      (nothing : plan.pending.allowed = ∅)
      (verified : verifyTransfer plan.pending plan.target = .ok ()) :
      RunEffect ((listedWorld run world).publish
          (plan.policy.setFolder folderId (plan.completed plan.state))
          [.completed plan.pending])
        result
  /-- The transfer was announced and the copy program did not run. -/
  | announced {plan : RunPlan} {after : World Content} {stop : Stop}
      (planned : Planned inventoryIndex folderId run world plan)
      (agrees : after.Agrees (announcedWorld folderId run world plan)) :
      RunEffect after (.error stop)
  /-- The copy program ran and the policy does not know how far it came. -/
  | copied {plan : RunPlan} {after : World Content} {stop : Stop}
      (planned : Planned inventoryIndex folderId run world plan)
      (agrees : after.Agrees (copiedWorld folderId run world plan)) :
      RunEffect after (.error stop)
  /-- The copy program failed and its log proves some copies. -/
  | copiedInPart {plan : RunPlan} {stop : Stop} {proved : Finset String}
      (planned : Planned inventoryIndex folderId run world plan)
      (listed : proved ⊆ plan.pending.copyList) :
      RunEffect ((copiedWorld folderId run world plan).publish (plan.policy.setFolder folderId
            { plan.announced with owned := plan.announced.owned ∪ proved })
          [.copyRecorded plan.pending proved])
        (.error stop)
  /-- The copy was recorded and a later step failed. -/
  | recorded {plan : RunPlan} {after : World Content} {stop : Stop}
      (planned : Planned inventoryIndex folderId run world plan)
      (agrees : after.Agrees (recordedWorld folderId run world plan) ∨
        after.Agrees (checkedWorld folderId run world plan) ∨
        after.Agrees (relistedWorld folderId run world plan)) :
      RunEffect after (.error stop)
  /-- The copy was recorded, then found stale or wrong, and the announcement was
  cleared. -/
  | cleared {plan : RunPlan} {before : World Content} {stop : Stop}
      (planned : Planned inventoryIndex folderId run world plan)
      (agrees : before.Agrees (recordedWorld folderId run world plan) ∨
        before.Agrees (checkedWorld folderId run world plan)) :
      RunEffect (before.publish (plan.policy.setFolder folderId
            (plan.announced.recordCopied plan.pending).clearPending)
          [])
        (.error stop)
  /-- The transfer was checked, found complete at the target and recorded so. -/
  | finished {plan : RunPlan} {result : Except Stop EngineIndexSnapshot}
      {targetEntries : List InventoryEntry}
      (planned : Planned inventoryIndex folderId run world plan)
      (unchanged : CopyStands run plan.pending)
      (checked : plan.pending.copyList = ∅ ∨ run.check = .ok ())
      (listed : run.targetAfterCopy = .ok targetEntries)
      (verified : verifyTransfer plan.pending (byPath targetEntries) = .ok ()) :
      RunEffect ((relistedWorld folderId run world plan).publish (plan.policy.setFolder folderId
            (plan.completed (plan.announced.recordCopied plan.pending)))
          [.completed plan.pending])
        result

theorem RunPlan.completed_suppressions (plan : RunPlan) (state : FolderPolicyState) :
    (plan.completed state).suppressions = plan.pending.suppressions := by
  unfold RunPlan.completed completeTransferState
  split <;> rfl

variable {inventoryIndex folderId run world}

theorem copiedWorld_readPolicy (plan : RunPlan) : (copiedWorld folderId run world plan).readPolicy =
      plan.policy.setFolder folderId plan.announced := rfl

theorem planDestination_ensures : Ensures (planDestination inventoryIndex folderId run) world
      (fun plan after => Planned inventoryIndex folderId run world plan ∧
        after = listedWorld run world)
      (fun _ after => after.Agrees world ∨ after.Agrees (listedWorld run world)) := by
  have before := Or.inl (b := world.Agrees (listedWorld run world)) (World.Agrees.rfl world)
  have listed := Or.inr (a := (listedWorld run world).Agrees world)
    (World.Agrees.rfl (listedWorld run world))
  unfold planDestination
  refine ensures_bind (ensures_lift (fun role hasRole => ensures_bind ?_) fun _ _ => before)
  refine ensures_lift (fun sourceEntries hasSource => ensures_bind ?_) fun _ _ => before
  refine ensures_refuse (fun expected => ensures_bind ?_) fun _ => before
  refine ensures_modify (ensures_bind ?_)
  refine ensures_lift (fun targetEntries hasTarget => ensures_bind ?_) fun _ _ => listed
  refine loadPolicy_ensures (ensures_bind ?_) fun _ _ => listed
  refine decideOrFail_ensures (fun _ retry => ensures_pure ⟨?_, rfl⟩) fun _ _ => listed
  exact ⟨role, sourceEntries, targetEntries, hasRole, hasSource, hasTarget,
    by simpa using expected, rfl, retry⟩

variable {plan : RunPlan}

section

variable (planned : Planned inventoryIndex folderId run world plan)

include planned

theorem Planned.pending_source : plan.pending.source = plan.source := by
  obtain ⟨_, _, _, _, _, _, _, rfl, _⟩ := planned
  rfl

/-- The copy program runs: either it succeeded, or the run ends with what its log
proves. -/
theorem runTransfer_ensures : Ensures (runTransfer folderId run plan.pending)
      (announcedWorld folderId run world plan)
      (fun _ after => run.copy = .succeeded ∧ after = copiedWorld folderId run world plan)
      (fun stop after => ¬ stop.clears ∧
        RunEffect inventoryIndex folderId run world after (.error stop)) := by
  have copied : ∀ stop after, ¬ stop.clears → after.Agrees (copiedWorld folderId run world plan) →
      ¬ stop.clears ∧ RunEffect inventoryIndex folderId run world after (.error stop) := by
    intro stop after keeps agrees
    exact ⟨keeps, RunEffect.copied planned agrees⟩
  have here := World.Agrees.rfl (copiedWorld folderId run world plan)
  unfold runTransfer
  refine ensures_bind (ensures_modify ?_)
  cases ended : run.copy with
  | succeeded => exact ensures_pure ⟨rfl, rfl⟩
  | launchFailed => exact ensures_throw (copied _ _ (by simp [Stop.clears]) here)
  | uncertain fault =>
    exact ensures_throw (copied _ _ (fault.stop_not_clears (by decide)) here)
  | exitedNonzero stderr =>
    have unavailable : ¬ Stop.clears (.failed .engineUnavailable) := by
      simp [Stop.clears]
    refine ensures_bind ?_
    unfold recordPartialCopy
    refine ensures_bind (decideOrFail_ensures (fun proved parsed => ?_) ?_)
    · have listed := copiedPaths_subset (okOr_eq_ok.mp parsed)
      by_cases nothing : proved = ∅
      · simp only [if_pos nothing]
        exact ensures_pure (ensures_throw (copied _ _ unavailable here))
      · simp only [if_neg nothing]
        refine updatePending_ensures (copiedWorld_readPolicy plan) ?_ copied ?_
        · exact ensures_throw ⟨unavailable, RunEffect.copiedInPart planned listed⟩
        · intro stop keeps
          exact ⟨keeps, RunEffect.copiedInPart planned listed⟩
    · intro error unparsed
      refine copied _ _ ?_ here
      cases parsed : copiedPaths plan.pending stderr with
      | some proved =>
        rw [parsed] at unparsed
        cases unparsed
      | none =>
        rw [parsed] at unparsed
        cases unparsed
        simp [Stop.clears]

/-- Copy and check: on success the copy stands and was checked; a failure that
clears the announcement comes after the copy was recorded. -/
theorem copyAndCheck_ensures : Ensures (copyAndCheck folderId run plan.pending)
      (announcedWorld folderId run world plan)
      (fun _ after => CopyStands run plan.pending ∧
        (plan.pending.copyList = ∅ ∨ run.check = .ok ()) ∧
        after = checkedWorld folderId run world plan)
      (fun stop after =>
        RunEffect inventoryIndex folderId run world after (.error stop) ∧
        (stop.clears → after.Agrees (recordedWorld folderId run world plan) ∨
          after.Agrees (checkedWorld folderId run world plan))) := by
  have recorded := World.Agrees.rfl (recordedWorld folderId run world plan)
  have checked := World.Agrees.rfl (checkedWorld folderId run world plan)
  unfold copyAndCheck
  refine ensures_bind ((runTransfer_ensures planned).imp ?_ ?_)
  · rintro - after ⟨succeeded, rfl⟩
    refine ensures_bind (updatePending_ensures (copiedWorld_readPolicy plan) ?_ ?_ ?_)
    · refine ensures_bind (ensures_lift (fun entries listed => ensures_bind ?_) ?_)
      · refine ensures_refuse (fun same => ensures_bind (ensures_modify ?_)) ?_
        · have stands : CopyStands run plan.pending :=
            ⟨succeeded, entries, listed, by simpa using same⟩
          by_cases nothing : plan.pending.copyList = ∅
          · rw [if_pos nothing]
            exact ensures_pure ⟨stands, .inl nothing, rfl⟩
          · rw [if_neg nothing]
            refine ensures_lift (fun _ passed => ⟨stands, .inr passed, rfl⟩) ?_
            intro stop _
            exact ⟨RunEffect.recorded planned (.inr (.inl checked)), fun _ => .inr checked⟩
        · intro _
          exact ⟨RunEffect.recorded planned (.inl recorded), fun _ => .inl recorded⟩
      · intro stop _
        exact ⟨RunEffect.recorded planned (.inl recorded), fun _ => .inl recorded⟩
    · intro stop after keeps agrees
      exact ⟨RunEffect.copied planned agrees, fun clears => absurd clears keeps⟩
    · intro stop keeps
      exact ⟨RunEffect.recorded planned (.inl recorded), fun _ => .inl recorded⟩
  · rintro stop after ⟨keeps, effect⟩
    exact ⟨effect, fun clears => absurd clears keeps⟩

theorem finishDestination_ensures (stands : CopyStands run plan.pending)
    (checked : plan.pending.copyList = ∅ ∨ run.check = .ok ()) :
    Ensures (finishDestination folderId run plan) (checkedWorld folderId run world plan)
      (fun _ after => RunEffect inventoryIndex folderId run world after
        (.ok plan.pending.sourceIndex))
      (fun stop after =>
        RunEffect inventoryIndex folderId run world after (.error stop)) := by
  have relisted : ∀ stop after, after.Agrees (relistedWorld folderId run world plan) →
      RunEffect inventoryIndex folderId run world after (.error stop) :=
    fun stop after agrees => .recorded planned (.inr (.inr agrees))
  have here := World.Agrees.rfl (relistedWorld folderId run world plan)
  have reads : (relistedWorld folderId run world plan).readPolicy = plan.policy.setFolder folderId
        (plan.announced.recordCopied plan.pending) := rfl
  unfold finishDestination
  refine ensures_bind (ensures_modify (ensures_bind ?_))
  refine ensures_lift (fun targetEntries listed => ensures_bind ?_)
    fun stop _ => relisted stop _ here
  refine decideOrFail_ensures (fun _ verified => ensures_bind ?_) fun error _ => relisted _ _ here
  refine loadPolicy_ensures (ensures_bind ?_) fun stop _ => relisted stop _ here
  refine ensures_refuse (fun _ => ?_) fun _ => relisted _ _ here
  change Ensures (savePolicy _ ((relistedWorld folderId run world plan).readPolicy.setFolder
    folderId (plan.completed
      ((relistedWorld folderId run world plan).readPolicy.folder folderId))) _) _ _ _
  rw [reads, PolicyState.folder_setFolder, PolicyState.setFolder_setFolder]
  have effect : ∀ result, RunEffect inventoryIndex folderId run world
      ((relistedWorld folderId run world plan).publish (plan.policy.setFolder folderId
          (plan.completed (plan.announced.recordCopied plan.pending)))
        [.completed plan.pending]) result :=
    fun result => .finished planned stands checked listed verified
  exact savePolicy_ensures (effect _) (fun stop after _ agrees =>
    relisted stop after agrees) fun stop _ => effect _

end

/-- Every run, however it ends, leaves the world in one of the ways of
`RunEffect`. -/
theorem transferDestination_effect : Ensures (transferDestination inventoryIndex folderId run) world
      (fun index after =>
        RunEffect inventoryIndex folderId run world after (.ok index))
      (fun stop after =>
        RunEffect inventoryIndex folderId run world after (.error stop)) := by
  unfold transferDestination
  refine ensures_bind (planDestination_ensures.imp ?_ ?_)
  · rintro plan after ⟨planned, rfl⟩
    have listed : ∀ stop after, after.Agrees (listedWorld run world) →
        RunEffect inventoryIndex folderId run world after (.error stop) :=
      fun stop after agrees => .untouched (.inr agrees)
    have announced : ∀ stop after, after.Agrees (announcedWorld folderId run world plan) →
        RunEffect inventoryIndex folderId run world after (.error stop) :=
      fun stop after agrees => .announced planned agrees
    have here := World.Agrees.rfl (announcedWorld folderId run world plan)
    by_cases nothing : plan.pending.allowed = ∅
    · rw [if_pos nothing]
      refine ensures_bind (decideOrFail_ensures (fun _ verified => ?_) fun error _ =>
        listed _ _ (.rfl _))
      have effect : ∀ result, RunEffect inventoryIndex folderId run world
          ((listedWorld run world).publish
            (plan.policy.setFolder folderId (plan.completed plan.state))
            [.completed plan.pending]) result :=
        fun result => .settled planned nothing verified
      exact ensures_bind (savePolicy_ensures (ensures_pure (effect _))
        (fun stop after _ agrees => listed stop after agrees) fun stop _ => effect _)
    · rw [if_neg nothing]
      refine ensures_bind (savePolicy_ensures ?_
        (fun stop after _ agrees => listed stop after agrees)
        fun stop _ => announced stop _ here)
      refine ensures_bind (ensures_lift (fun _ _ => ensures_bind ?_)
        fun stop _ => announced stop _ here)
      refine ensures_lift (fun _ _ => ensures_bind (ensures_attempt ?_))
        fun stop _ => announced stop _ here
      refine (copyAndCheck_ensures planned).imp ?_ ?_
      · rintro - after ⟨stands, checked, rfl⟩
        exact ensures_bind ((finishDestination_ensures planned stands checked).imp
          (fun _ _ effect => ensures_pure effect) fun _ _ effect => effect)
      · rintro stop after ⟨effect, recorded⟩
        by_cases clears : stop = .failed .transferFailed
        · simp only [if_pos clears]
          have agrees := recorded clears
          have reads : after.readPolicy = plan.policy.setFolder folderId
              (plan.announced.recordCopied plan.pending) := by
            rcases agrees with agrees | agrees <;> rw [World.readPolicy, agrees.policy] <;> rfl
          refine ensures_bind (updatePending_ensures reads ?_ ?_ ?_)
          · exact ensures_throw (.cleared planned agrees)
          · intro stop later _ same
            refine .recorded planned ?_
            exact agrees.imp same.trans fun agrees => .inl (same.trans agrees)
          · intro stop _
            exact .cleared planned agrees
        · simp only [if_neg clears]
          exact ensures_throw effect
  · intro stop after agrees
    exact .untouched agrees

end Effects

/-! ## Histories of one link -/

section Link

variable (inventoryIndex : List InventoryEntry → EngineIndexSnapshot) (folderId : Uuid)

/-- What a computation returns, when it succeeds. -/
def returned {α : Type} (action : Run Content α) (world : World Content) : Option α :=
  match action world with
  | .ok value _ => some value
  | .error _ _ => none

/-- One event in the life of a link: a run, a reset of the folder's policy, or a
deletion by the destination's user.  `trusted` restricts what the surroundings of
a run do. -/
inductive LinkStep (trusted : RunInputs Content → World Content → Prop) :
    World Content → World Content → Prop
  | run (inputs : RunInputs Content) {world : World Content} (honest : trusted inputs world) :
      LinkStep trusted world
        (Effect.after (transferDestination inventoryIndex folderId inputs) world)
  | reset (reading : Except Fault Unit) (outcome : SaveOutcome) {world : World Content} :
      LinkStep trusted world (Effect.after (resetFolder folderId reading outcome) world)
  | deletes (paths : Finset String) {world : World Content} :
      LinkStep trusted world (world.deletes paths)

/-- The histories of one link, from an empty policy state. -/
def linkMachine (trusted : RunInputs Content → World Content → Prop) : Machine (World Content) where
  initial world := world.policy = none ∧ world.history = []
  step := LinkStep inventoryIndex folderId trusted

variable {inventoryIndex folderId}

variable {α : Type} {action : Run Content α}

theorem eq_ok_of_returned {world : World Content} {value : α}
    (success : returned action world = some value) :
    action world = .ok value (Effect.after action world) := by
  unfold returned at success
  unfold Effect.after
  cases ran : action world with
  | ok found after =>
    rw [ran] at success
    cases success
    rfl
  | error stop after =>
    rw [ran] at success
    cases success

theorem after_transferDestination (inputs : RunInputs Content) (world : World Content) :
    ∃ result, RunEffect inventoryIndex folderId inputs world
      (Effect.after (transferDestination inventoryIndex folderId inputs) world)
      result :=
  after_of_ensures
    (fun after => ∃ result, RunEffect inventoryIndex folderId inputs world after result)
    (transferDestination_effect.imp (fun index _ effect => ⟨.ok index, effect⟩)
      fun stop _ effect => ⟨.error stop, effect⟩)

theorem after_resetFolder (reading : Except Fault Unit)
    (outcome : SaveOutcome) (world : World Content) :
    (Effect.after (resetFolder folderId reading outcome) world).Agrees world ∨
      Effect.after (resetFolder folderId reading outcome) world =
        world.publish { world.readPolicy with
          folders := world.readPolicy.folders.erase folderId } [] := by
  refine after_of_ensures (fun after => after.Agrees world ∨ after = world.publish
      { world.readPolicy with
        folders := world.readPolicy.folders.erase folderId } []) ?_
  unfold resetFolder
  refine ensures_bind (loadPolicy_ensures ?_ fun _ _ =>
    .inl (.rfl world))
  exact savePolicy_ensures (.inr rfl) (fun _ _ _ agrees => .inl agrees) fun _ _ => .inr rfl

end Link

/-- The inputs of a run in which every step goes well: the source is listed twice
as `source`, and the target as `before` and `after`. -/
def smoothRun (index : EngineIndexSnapshot) (role : DestinationRole)
    (source before after : List InventoryEntry)
    (files : BTreeMap String Content) : RunInputs Content where
  expected := index
  role := .ok role
  sourceListing := .ok source
  deletedBeforeListing := ∅
  targetListing := .ok before
  loadPlan := .ok ()
  savePlan := .saved
  filesList := .ok ()
  verificationList := .ok ()
  copy := .succeeded
  filesAfterCopy := files
  loadRecord := .ok ()
  saveRecord := .saved
  sourceAfterCopy := .ok source
  deletedBeforeCheck := ∅
  check := .ok ()
  loadClear := .ok ()
  saveClear := .saved
  deletedBeforeVerify := ∅
  targetAfterCopy := .ok after
  loadComplete := .ok ()
  saveComplete := .saved

/-- Neither deletion choice on. -/
def copyRole : DestinationRole :=
  { propagateSourceDeletions := false, restoreLocalDeletions := false }

end Covalent.Transfer
