import Covalent.Backup.Manifest
import Covalent.Base.Separated
import Covalent.Provider.Records

/-!
# Plans of a restore

A preview says, for every selected entry of a manifest and every directory above one, where
it will be written and what is done there.  It looks at the target on disk, or at an
inventory of it that a client has sent.  A plan is checked again before it is executed.

## Design notes

**Trees.**  A tree knows what is at each path, and whatever lies below something lies below a
directory.  Inspecting a path may fail.

**Digests and signatures** come from elsewhere; a signature verifies under the identity that
made it.
-/

namespace Covalent.Restore

open Backup
open Sharing (PublicIdentity isLowerHexDigest isControl isWhitespace)
open Separated (Below)

/-! ## Paths -/

section

variable (root : AuthorizedRoot) (path : RelativePath)

/-- The characters of a path. -/
def chars : List Char :=
  path.value.toList

def RelativePath.new (value : String) : Except ContractError RelativePath :=
  match checked : validateRelativePath value with
  | .ok () => .ok ⟨value, checked⟩
  | .error problem => .error problem

/-- Whether a path lies below another. -/
def isDescendant (path ancestor : RelativePath) : Bool :=
  decide (Below '/' (chars path) (chars ancestor))

abbrev PathSet := BTreeMap RelativePath Unit

/-! ## Records -/

inductive ConflictPolicy where
  | fail
  | skip
  | replace
  | rename
deriving DecidableEq

inductive PreviewAction where
  | createFile
  | createDirectory
  | keepDirectory
  | skipFile
  | replaceFile
  | renameFile
deriving DecidableEq

structure RestorePreviewEntry where
  sourcePath : RelativePath
  destinationPath : RelativePath
  kind : EntryKind
  action : PreviewAction

structure TargetInventoryEntry where
  path : RelativePath
  kind : EntryKind
  length : Nat
  identityToken : String

structure TargetInventory where
  schemaVersion : Nat
  rootIdentity : String
  entryCount : Nat
  totalBytes : Nat
  inventoryDigest : String
  entries : List TargetInventoryEntry

structure TargetInventoryBinding where
  schemaVersion : Nat
  rootIdentity : String
  entryCount : Nat
  totalBytes : Nat
  inventoryDigest : String
  actionsDigest : String

structure RestoreOptions where
  conflictPolicy : ConflictPolicy
  selectedPaths : PathSet
  jobId : String
  targetInventory : Option TargetInventory

/-- What the digest of a plan covers. -/
structure UnsignedPlan where
  backupId : BackupId
  snapshotId : String
  authorizedRoot : String
  rootDevice : Nat
  rootInode : Nat
  manifestDigest : String
  conflictPolicy : ConflictPolicy
  jobId : String
  entries : List RestorePreviewEntry
  targetInventory : Option TargetInventoryBinding
  signerDeviceId : DeviceId

structure RestorePlan extends UnsignedPlan where
  planDigest : String
  signature : String

inductive RestoreError where
  | invalidState (reason : String)
  | resourceLimit (resource : String)
  | restoreConflict (path : RelativePath)
  | restorePlanMismatch
  | symlinkTraversal (path : RelativePath)
  | nonDirectoryAncestor (path : RelativePath)
  | invalidAuthorizedRoot
  | authenticationFailed
  | invalidManifest (stop : Backup.Stop)
  | contract (problem : ContractError)
  | io (operation : String) (path : RelativePath)

/-! ## Targets -/

inductive NodeKind where
  | file
  | directory
  | symlink
  /-- A device, a socket or a pipe. -/
  | other
deriving DecidableEq

/-- What a directory holds at each path below it. -/
structure Tree where
  nodes : BTreeMap RelativePath NodeKind
  /-- The paths that cannot be inspected. -/
  unreadable : PathSet
  closed : ∀ path ancestor, (nodes.get? path).isSome → isDescendant path ancestor = true →
    nodes.get? ancestor = some .directory

/-- A directory that a user has chosen, with its identity. -/
structure AuthorizedRoot where
  /-- The canonical path, when it is a text. -/
  canonicalPath : Option String
  device : Nat
  inode : Nat
  tree : Tree

def Tree.inspect (tree : Tree) (operation : String) (path : RelativePath) :
    Except RestoreError (Option NodeKind) :=
  if tree.unreadable.containsKey path then .error (.io operation path)
  else .ok (tree.nodes.get? path)

/-- The ancestors of a path that are paths, the shortest first. -/
def relativeAncestors : List RelativePath :=
  (Separated.ancestors '/' (chars path)).filterMap fun ancestor =>
    (RelativePath.new (String.ofList ancestor)).toOption

/-- Look at the ancestors of a path, up to the first that is missing, and then at the path. -/
def resolveFrom (tree : Tree) (path : RelativePath) : List RelativePath → Except RestoreError Unit
  | [] => do
    let found ← tree.inspect "inspect restore path" path
    refuse (decide (found = some .symlink)) (.symlinkTraversal path)
  | ancestor :: rest => do
    let found ← tree.inspect "inspect restore path" ancestor
    match found with
    | none => pure ()
    | some kind => do
      refuse (decide (kind = .symlink)) (.symlinkTraversal ancestor)
      refuse (decide (kind ≠ .directory)) (.nonDirectoryAncestor ancestor)
      resolveFrom tree path rest

def AuthorizedRoot.resolve : Except RestoreError Unit :=
  resolveFrom root.tree path (relativeAncestors path)

/-! ## Entries -/

def isSelected (selected : PathSet) (path : RelativePath) : Bool :=
  selected.keys.isEmpty ||
    selected.keys.any fun selection => path == selection || isDescendant path selection

def implicitDirectory : ManifestEntry where
  path := path
  kind := .directory
  length := 0
  chunks := []
  sparse := false
  sparseExtents := []

/-- The first components of a path, joined. -/
def parentTexts : List String :=
  let components := (chars path).splitOn '/'
  (List.range' 1 (components.length - 1)).map fun count =>
    String.ofList (['/'].intercalate (components.take count))

abbrev Planned := BTreeMap RelativePath ManifestEntry

/-- Plan a directory above an entry, unless something is planned there. -/
def planParent (planned : Planned) (text : String) : Except RestoreError Planned := do
  let parent ← (RelativePath.new text).mapError .contract
  pure (if planned.containsKey parent then planned
    else planned.insert parent (implicitDirectory parent))

def planParents : Planned → List String → Except RestoreError Planned
  | planned, [] => pure planned
  | planned, text :: rest => do
    let next ← planParent planned text
    planParents next rest

def planEntries (selected : PathSet) : Planned → List ManifestEntry → Except RestoreError Planned
  | planned, [] => pure planned
  | planned, entry :: rest =>
    if isSelected selected entry.path then do
      let next ← planParents (planned.insert entry.path entry) (parentTexts entry.path)
      planEntries selected next rest
    else planEntries selected planned rest

/-- The entries to be restored, with the directories above them, in the order of paths. -/
def plannedManifestEntries (manifest : Manifest) (selected : PathSet) :
    Except RestoreError (List ManifestEntry) := do
  refuse (!selected.keys.isEmpty &&
    selected.keys.any fun selection => !manifest.entries.any fun entry => entry.path == selection)
    (.invalidState "restore selection is not present in the snapshot")
  let planned ← planEntries selected ∅ manifest.entries
  pure planned.values

/-! ## A target on disk -/

/-- The candidate names of a file that is in the way. -/
def renamedText (original : RelativePath) (index : Nat) : String :=
  original.value ++ ".covalent-restored-" ++ toString index

def maxRenameAttempts : Nat := 10000

/-- The first name from an index on that is free on disk. -/
def findRenamedFrom (root : AuthorizedRoot) (original : RelativePath) :
    Nat → Nat → Except RestoreError RelativePath
  | 0, _ => .error (.resourceLimit "restore rename attempts")
  | attempts + 1, index => do
    let relative ← (RelativePath.new (renamedText original index)).mapError .contract
    root.resolve relative
    let found ← root.tree.inspect "find renamed restore destination" relative
    match found with
    | none => pure relative
    | some kind => do
      refuse (decide (kind = .symlink)) (.symlinkTraversal relative)
      findRenamedFrom root original attempts (index + 1)

def findRenamedPath (original : RelativePath) : Except RestoreError RelativePath :=
  findRenamedFrom root original maxRenameAttempts 1

/-- What is done with a file where there is one. -/
def fileAction (policy : ConflictPolicy) (path : RelativePath)
    (renamed : Except RestoreError RelativePath) :
    Except RestoreError (RelativePath × PreviewAction) :=
  match policy with
  | .fail => .error (.restoreConflict path)
  | .skip => .ok (path, .skipFile)
  | .replace => .ok (path, .replaceFile)
  | .rename => renamed.map fun destination => (destination, .renameFile)

def previewAction (policy : ConflictPolicy) (entry : ManifestEntry) :
    Except RestoreError (RelativePath × PreviewAction) := do
  root.resolve entry.path
  let found ← root.tree.inspect "preview restore destination" entry.path
  match found, entry.kind with
  | none, .directory => pure (entry.path, .createDirectory)
  | none, .file => pure (entry.path, .createFile)
  | some .symlink, _ => .error (.symlinkTraversal entry.path)
  | some .directory, .directory => pure (entry.path, .keepDirectory)
  | some _, .directory => .error (.restoreConflict entry.path)
  | some .file, .file => fileAction policy entry.path (findRenamedPath root entry.path)
  | some _, .file => .error (.restoreConflict entry.path)

end

/-- The line of a preview for an entry. -/
def previewEntry (entry : ManifestEntry) (chosen : RelativePath × PreviewAction) :
    RestorePreviewEntry :=
  ⟨entry.path, chosen.1, entry.kind, chosen.2⟩

def previewActions (root : AuthorizedRoot) (policy : ConflictPolicy) :
    List ManifestEntry → Except RestoreError (List RestorePreviewEntry)
  | [] => pure []
  | entry :: rest => do
    let chosen ← previewAction root policy entry
    let others ← previewActions root policy rest
    pure (previewEntry entry chosen :: others)

/-! ## An inventory of a target -/

/-- What an inventory lists. -/
abbrev Observed := BTreeMap RelativePath TargetInventoryEntry

section

variable (policy : ConflictPolicy) (observed : Observed) (occupied : PathSet)

/-- The first listed file above a path. -/
def observedFileAncestor (path : RelativePath) : Option RelativePath :=
  (relativeAncestors path).find? fun ancestor =>
    (observed.get? ancestor).any fun entry => entry.kind == .file

/-- Whether the path that follows another one in order lies below it. -/
def occupiedHasDescendant (path : RelativePath) : Bool :=
  ((occupied.keys.filter fun candidate => decide (path ≤ candidate)).find? fun candidate =>
    decide (candidate ≠ path)).any fun candidate => isDescendant candidate path

/-- The first name from an index on that seems free. -/
def findRenamedInventoryFrom (observed : Observed) (occupied : PathSet)
    (original : RelativePath) : Nat → Nat → Except RestoreError RelativePath
  | 0, _ => .error (.resourceLimit "restore rename attempts")
  | attempts + 1, index => do
    let relative ← (RelativePath.new (renamedText original index)).mapError .contract
    if !occupied.containsKey relative && !occupiedHasDescendant occupied relative &&
        (observedFileAncestor observed relative).isNone then pure relative
    else findRenamedInventoryFrom observed occupied original attempts (index + 1)

def findRenamedInventoryPath (original : RelativePath) : Except RestoreError RelativePath :=
  findRenamedInventoryFrom observed occupied original maxRenameAttempts 1

def inventoryAction (entry : ManifestEntry) :
    Except RestoreError (RelativePath × PreviewAction) := do
  let existing := (observed.get? entry.path).map TargetInventoryEntry.kind
  refuse (observedFileAncestor observed entry.path).isSome (.restoreConflict entry.path)
  refuse (entry.kind == .file && existing.isNone && occupiedHasDescendant occupied entry.path)
    (.restoreConflict entry.path)
  match existing, entry.kind with
  | some .directory, .directory => pure (entry.path, .keepDirectory)
  | some .file, .directory => .error (.restoreConflict entry.path)
  | none, .directory => pure (entry.path, .createDirectory)
  | some .directory, .file => .error (.restoreConflict entry.path)
  | some .file, .file =>
    fileAction policy entry.path (findRenamedInventoryPath observed occupied entry.path)
  | none, .file => pure (entry.path, .createFile)

/-- What is taken after an action. -/
def occupy (chosen : RelativePath × PreviewAction) : PathSet :=
  if chosen.2 ≠ .skipFile then occupied.insert chosen.1 () else occupied

end

def inventoryActions (policy : ConflictPolicy) (observed : Observed) :
    PathSet → PathSet → List ManifestEntry → Except RestoreError (List RestorePreviewEntry)
  | _, _, [] => pure []
  | occupied, destinations, entry :: rest => do
    let chosen ← inventoryAction policy observed occupied entry
    refuse (destinations.containsKey chosen.1) .restorePlanMismatch
    let others ← inventoryActions policy observed (occupy occupied chosen)
      (destinations.insert chosen.1 ()) rest
    pure (previewEntry entry chosen :: others)

/-- Whether a text is not blank, short and without control characters. -/
def validToken (value : String) : Bool :=
  !value.toList.all isWhitespace && decide (value.utf8ByteSize ≤ 512) && !value.toList.any isControl

/-- Check the entries of an inventory against the paths before them. -/
def checkInventoryEntry (passed : List TargetInventoryEntry) (entry : TargetInventoryEntry) :
    Except RestoreError Unit := do
  refuse (passed.getLast?.any (fun previous => decide (entry.path ≤ previous.path)) ||
    !validToken entry.identityToken || (entry.kind == .directory && entry.length != 0))
    (.invalidState "target inventory is not canonical")
  let files := (passed ++ [entry]).filter fun item => item.kind == .file
  let _ ← okOr ((files.map TargetInventoryEntry.length).foldl
    (fun total length => total.bind fun sum => checkedAdd sum length) (some 0))
    (.resourceLimit "target inventory bytes")
  refuse ((relativeAncestors entry.path).any fun ancestor =>
    files.any fun file => file.path == ancestor)
    (.invalidState "target inventory contains a file ancestor")

/-- What plans take from elsewhere. -/
class PlanFormats where
  manifestDigest : Manifest → String
  actionsDigest : List RestorePreviewEntry → String
  inventoryDigest : String → List TargetInventoryEntry → String
  planDigest : UnsignedPlan → String
  sign : PublicIdentity → String → String
  verify : PublicIdentity → String → String → Bool
  verify_sign : ∀ identity text, verify identity text (sign identity text) = true

open PlanFormats

section Previews

variable [PlanFormats]

def validateTargetInventory (inventory : TargetInventory) : Except RestoreError Unit := do
  refuse (inventory.schemaVersion != 1 || !validToken inventory.rootIdentity ||
    decide (250000 < inventory.entries.length) ||
    inventory.entryCount != inventory.entries.length ||
    !isLowerHexDigest inventory.inventoryDigest)
    (.invalidState "invalid target inventory binding")
  checkInOrder checkInventoryEntry [] inventory.entries
  refuse (((inventory.entries.filter fun item => item.kind == .file).map
      TargetInventoryEntry.length).sum != inventory.totalBytes ||
    inventoryDigest inventory.rootIdentity inventory.entries != inventory.inventoryDigest)
    .authenticationFailed

/-- What an inventory lists, by paths. -/
def TargetInventory.observed (inventory : TargetInventory) : Observed :=
  BTreeMap.ofList (inventory.entries.map fun entry => (entry.path, entry))

/-- The paths an inventory lists. -/
def TargetInventory.listed (inventory : TargetInventory) : PathSet :=
  BTreeMap.ofList (inventory.entries.map fun entry => (entry.path, ()))

section

variable (arithmetic : Arithmetic) (manifest : Manifest)

def previewActionsFromInventory (selected : PathSet) (policy : ConflictPolicy)
    (inventory : TargetInventory) : Except RestoreError (List RestorePreviewEntry) := do
  validateTargetInventory inventory
  let planned ← plannedManifestEntries manifest selected
  inventoryActions policy inventory.observed inventory.listed ∅ planned

def validateRestoreJobId (jobId : String) : Except RestoreError Unit :=
  refuse (jobId.isEmpty || decide (128 < jobId.utf8ByteSize) || !jobId.toList.all fun character =>
      character.isAlphanum || character == '-' || character == '_')
    (.invalidState "invalid restore job id")

section

variable (manifest : Manifest) (root : AuthorizedRoot) (options : RestoreOptions)

def validateRestoreOptions : Except RestoreError Unit := do
  validateRestoreJobId options.jobId
  checkEach validateTargetInventory options.targetInventory.toList

/-- The actions of a restore, for either kind of target. -/
def plannedActions : Except RestoreError (List RestorePreviewEntry) :=
  match options.targetInventory with
  | some inventory =>
    previewActionsFromInventory manifest options.selectedPaths options.conflictPolicy inventory
  | none => do
    let planned ← plannedManifestEntries manifest options.selectedPaths
    previewActions root options.conflictPolicy planned

/-- The summary of an inventory that a plan carries. -/
def inventoryBinding (entries : List RestorePreviewEntry) (inventory : TargetInventory) :
    TargetInventoryBinding :=
  ⟨inventory.schemaVersion, inventory.rootIdentity, inventory.entryCount, inventory.totalBytes,
    inventory.inventoryDigest, actionsDigest entries⟩

/-- The check of a manifest, which may also panic. -/
def checkManifest : Except RestoreError Unit :=
  (manifest.validate arithmetic).mapError .invalidManifest

/-- The signed plan of a restore. -/
def previewRestore (signer : PublicIdentity) : Except RestoreError RestorePlan := do
  checkManifest arithmetic manifest
  validateRestoreOptions options
  let entries ← plannedActions manifest root options
  let authorizedRoot ← okOr root.canonicalPath .invalidAuthorizedRoot
  let unsigned : UnsignedPlan :=
    { backupId := manifest.backupId
      snapshotId := manifest.snapshotId
      authorizedRoot := authorizedRoot
      rootDevice := root.device
      rootInode := root.inode
      manifestDigest := manifestDigest manifest
      conflictPolicy := options.conflictPolicy
      jobId := options.jobId
      entries := entries
      targetInventory := options.targetInventory.map (inventoryBinding entries)
      signerDeviceId := signer.deviceId }
  pure
    { unsigned with
      planDigest := planDigest unsigned
      signature := sign signer (planDigest unsigned) }

/-! ## The check of a plan -/

def actionMatchesKindAndPolicy (policy : ConflictPolicy) (preview : RestorePreviewEntry) : Bool :=
  match preview.kind, preview.action with
  | .directory, .createDirectory => preview.destinationPath == preview.sourcePath
  | .directory, .keepDirectory => preview.destinationPath == preview.sourcePath
  | .directory, _ => false
  | .file, .createFile => preview.destinationPath == preview.sourcePath
  | .file, .skipFile => policy == .skip && preview.destinationPath == preview.sourcePath
  | .file, .replaceFile => policy == .replace && preview.destinationPath == preview.sourcePath
  | .file, .renameFile => policy == .rename && preview.destinationPath != preview.sourcePath
  | .file, _ => false

def manifestKinds : BTreeMap RelativePath EntryKind :=
  BTreeMap.ofList (manifest.entries.map fun entry => (entry.path, entry.kind))

/-- Check one line of a plan against those before it and the whole plan. -/
def checkPreview (policy : ConflictPolicy) (entries passed : List RestorePreviewEntry)
    (preview : RestorePreviewEntry) : Except RestoreError Unit :=
  let known := (manifestKinds manifest).get? preview.sourcePath
  refuse (passed.any (fun earlier => earlier.sourcePath == preview.sourcePath) ||
    passed.any (fun earlier => earlier.destinationPath == preview.destinationPath) ||
    known.any (fun kind => kind != preview.kind) ||
    (known.isNone && (preview.kind != .directory || !entries.any fun candidate =>
      isDescendant candidate.sourcePath preview.sourcePath)) ||
    !actionMatchesKindAndPolicy policy preview) .restorePlanMismatch

/-- Check the inventory a plan was made for. -/
def checkBinding (entries : List RestorePreviewEntry) (binding : TargetInventoryBinding) :
    Except RestoreError Unit :=
  refuse (binding.schemaVersion != 1 || !validToken binding.rootIdentity ||
    decide (250000 < binding.entryCount) || !isLowerHexDigest binding.inventoryDigest ||
    binding.actionsDigest != actionsDigest entries) .restorePlanMismatch

def validatePlan (plan : RestorePlan) (root : AuthorizedRoot) (signer : PublicIdentity) :
    Except RestoreError Unit := do
  checkManifest arithmetic manifest
  validateRestoreJobId plan.jobId
  checkEach (checkBinding plan.entries) plan.targetInventory.toList
  refuse (plan.backupId != manifest.backupId || plan.snapshotId != manifest.snapshotId ||
    plan.signerDeviceId != signer.deviceId ||
    decide (root.canonicalPath ≠ some plan.authorizedRoot) ||
    plan.manifestDigest != manifestDigest manifest ||
    plan.planDigest != planDigest plan.toUnsignedPlan) .restorePlanMismatch
  refuse (root.device != plan.rootDevice || root.inode != plan.rootInode) .restorePlanMismatch
  checkInOrder (checkPreview manifest plan.conflictPolicy plan.entries) [] plan.entries
  refuse (!verify signer plan.planDigest plan.signature) .authenticationFailed

end

end

end Previews

end Covalent.Restore
