import Covalent.Provider.Leases

/-!
# Upload journals and their recovery

An upload writes down what it is about to store before it stores it.  When it ends
early, the journal says what is to be finished: the object is looked up, and if it is
there, it gets its reference or its place in the pages of descriptors and is counted in
its lease.
-/

namespace Covalent.Provider

open Durable

/-! ## Pages of descriptors -/

namespace Store

def putDescriptor (descriptor : RecoveryCapsuleDescriptor) (store : Store) : Store :=
  { store with descriptors := store.descriptors.insert descriptor.key descriptor }

def putMarker (key : CapsuleKey) (marker : RecoveryCapsulePageMarker) (store : Store) : Store :=
  { store with markers := store.markers.insert key marker }

def putPage (slot : PageSlot) (descriptor : RecoveryCapsuleDescriptor) (store : Store) : Store :=
  { store with pages := store.pages.insert slot descriptor }

def putFeed (feed : PageFeed) (nextSequence : Nat) (store : Store) : Store :=
  { store with feeds := store.feeds.insert feed nextSequence }

end Store

section

variable (feed : PageFeed) (sequence : Nat) (descriptor : RecoveryCapsuleDescriptor)

/-- The next free position of a feed. -/
def loadRecoveryCapsulePageState (maximumEntries : Nat) (store : Store) : Result Nat := do
  let nextSequence := (store.feeds.get? feed).getD 0
  refuse (decide (maximumEntries < nextSequence)) .authenticationFailed
  pure nextSequence

/-- Put a descriptor at a position of a feed, where nothing else may stand. -/
def ensureRecoveryCapsulePageEntry : Action Unit := do
  match ← check fun store => pure (store.pages.get? ⟨feed, sequence⟩) with
  | some incumbent => check fun _ => refuse (incumbent != descriptor) .authenticationFailed
  | none =>
    writeFile "persist recovery capsule page entry" (Store.putPage ⟨feed, sequence⟩ descriptor)

def persistRecoveryCapsulePageState (nextSequence maximumEntries : Nat) : Action Unit := do
  check fun _ => refuse (decide (maximumEntries < nextSequence)) .authenticationFailed
  writeFile "persist recovery capsule page state" (Store.putFeed feed nextSequence)

/-- The feed of all capsules of the owner of a descriptor. -/
def RecoveryCapsuleDescriptor.allFeed : PageFeed :=
  .all descriptor.signerDeviceId

def RecoveryCapsuleDescriptor.backupFeed : PageFeed :=
  .backup descriptor.key.scope

end

variable [Formats]

open Formats

section

variable (policy : ProviderQuotaPolicy) (journalId : Uuid)

section

variable (descriptor : RecoveryCapsuleDescriptor)

/-- The next free positions for a new descriptor. -/
def nextMarker (store : Store) : Result RecoveryCapsulePageMarker := do
  let all ← loadRecoveryCapsulePageState descriptor.allFeed policy.maximumPeerObjects store
  let backup ← loadRecoveryCapsulePageState descriptor.backupFeed policy.maximumBackupObjects store
  refuse (decide (policy.maximumPeerObjects ≤ all) || decide (policy.maximumBackupObjects ≤ backup))
    (.resourceLimit "recovery capsule descriptor page index")
  pure ⟨descriptorDigest descriptor, all, backup⟩

/-- The positions of a descriptor, which are chosen when it has none. -/
def recoveryCapsulePageMarker : Action RecoveryCapsulePageMarker := do
  match ← check fun store => pure (store.markers.get? descriptor.key) with
  | some marker => do
    check fun _ => refuse (marker.descriptorDigest != descriptorDigest descriptor ||
      decide (policy.maximumPeerObjects ≤ marker.allSequence) ||
      decide (policy.maximumBackupObjects ≤ marker.backupSequence)) .authenticationFailed
    pure marker
  | none => do
    let marker ← check (nextMarker policy descriptor)
    ensureRecoveryCapsulePageEntry descriptor.allFeed marker.allSequence descriptor
    ensureRecoveryCapsulePageEntry descriptor.backupFeed marker.backupSequence descriptor
    writeFile "persist recovery capsule page marker" (Store.putMarker descriptor.key marker)
    pure marker

/-- The ends of the two feeds of a descriptor, which are not before its places. -/
def pageEnds (marker : RecoveryCapsulePageMarker) (store : Store) : Result (Nat × Nat) := do
  let all ← loadRecoveryCapsulePageState descriptor.allFeed policy.maximumPeerObjects store
  let backup ← loadRecoveryCapsulePageState descriptor.backupFeed policy.maximumBackupObjects store
  refuse (decide (all < marker.allSequence) || decide (backup < marker.backupSequence))
    .authenticationFailed
  pure (all, backup)

/-- Give a descriptor its places in its two feeds. -/
def ensureRecoveryCapsuleDescriptorPageEntries : Action Unit := do
  let marker ← recoveryCapsulePageMarker policy descriptor
  ensureRecoveryCapsulePageEntry descriptor.allFeed marker.allSequence descriptor
  ensureRecoveryCapsulePageEntry descriptor.backupFeed marker.backupSequence descriptor
  let (all, backup) ← check (pageEnds policy descriptor marker)
  if all < marker.allSequence + 1 then
    persistRecoveryCapsulePageState descriptor.allFeed (marker.allSequence + 1)
      policy.maximumPeerObjects
  else pure ()
  if backup < marker.backupSequence + 1 then
    persistRecoveryCapsulePageState descriptor.backupFeed (marker.backupSequence + 1)
      policy.maximumBackupObjects
  else pure ()

/-- Record the descriptor of a capsule. -/
def persistRecoveryCapsuleDescriptorValue : Action Unit := do
  check fun _ => refuse (!validRecoveryCapsuleDescriptor descriptor) .authenticationFailed
  match ← check fun store => pure (store.descriptors.get? descriptor.key) with
  | some incumbent => check fun _ => refuse (incumbent != descriptor) .authenticationFailed
  | none => writeFile "persist recovery capsule descriptor" (Store.putDescriptor descriptor)
  ensureRecoveryCapsuleDescriptorPageEntries policy descriptor

end

/-! ## Journals -/

/-- Write a journal.  A whole staging file of a journal reads like a journal. -/
def writeJournal (journal : UploadJournal) : Action Unit :=
  act (.io "commit atomic file") (Store.putJournal journalId journal) fun whole =>
    Store.strand (.journal (if whole then some journal else none))

def completeProviderUploadJournal : Action Unit :=
  writeFile "complete provider upload journal" (Store.dropJournal journalId)

section

variable (journal : ProviderUploadJournal)

/-- Whether the journal of a capsule is about the staged upload of its lease. -/
def matchesStaged (state : ProviderLeaseState) : Result Bool :=
  match journal.object, journal.recoveryCapsuleDescriptor, state.stagedCapsuleUpload with
  | .recoveryCapsule snapshotId, some descriptor, some staged =>
    if staged.upload.totalBytes = journal.recordBytes ∧
        staged.upload.capsuleDigest = journal.recordDigest ∧
        staged.upload.descriptor = descriptor ∧ descriptor.snapshotId = snapshotId then do
      refuse (staged.expectedNewObject != journal.expectedNewObject) .authenticationFailed
      pure true
    else pure false
  | _, _, _ => pure false

/-- The key under which a lease counts the object of a journal. -/
def effectiveObjectKey (state : ProviderLeaseState) : Result (ProviderLeaseState × ObjectKey) :=
  match journal.object, journal.recoveryCapsuleDescriptor with
  | .chunk _, none => pure (state, journal.objectKey)
  | .recoveryCapsule snapshotId, some descriptor => do
    refuse (journal.objectKey != providerCapsuleObjectKey journal.lease.scope snapshotId &&
      journal.objectKey != .legacyCapsule journal.lease.backupId snapshotId)
      .authenticationFailed
    normalizeProviderCapsuleObjectKey state descriptor
  | _, _ => throw .authenticationFailed

/-- Mark the staged upload of a lease as committed. -/
def markCommitted (state : ProviderLeaseState) (completedAt : Nat) : ProviderLeaseState :=
  { state with
    stagedCapsuleUpload := state.stagedCapsuleUpload.map fun staged =>
      { staged with
        committedCreated := some staged.expectedNewObject
        completedAt := some completedAt } }

/-- Count one object in a lease. -/
def consume (state : ProviderLeaseState) (bytes objects : Nat) : Result ProviderLeaseState := do
  let consumedBytes ← okOr (checkedAdd state.consumedNewBytes bytes)
    (.resourceLimit "provider lease bytes")
  let consumedObjects ← okOr (checkedAdd state.consumedNewObjects objects)
    (.resourceLimit "provider lease objects")
  pure { state with consumedNewBytes := consumedBytes, consumedNewObjects := consumedObjects }

/-- What is left to do for a journal. -/
inductive Reconciliation where
  /-- The object was never stored, or it is counted already. -/
  | nothing
  /-- The object is counted, but the staged upload is not marked. -/
  | mark (file : LeaseFile)
  /-- The object needs its reference and has to be counted; the lease is as it will be. -/
  | account (file : LeaseFile)

/-- Decide what is left to do for a journal. -/
def reconcileDecision (store : Store) : Result Reconciliation := do
  refuse (decide (journal.lease.expiresAt < journal.startedAt)) .authenticationFailed
  match hashObject store journal.place with
  | none => pure .nothing
  | some incumbent => do
    refuse (incumbent != (journal.recordBytes, journal.recordDigest)) .authenticationFailed
    let key ← providerLeasePath journal.lease
    let file ← okOr (store.leases.get? key) (.io "open bounded file")
    refuse (file.state.lease != journal.lease || file.state.cancelled ||
      !validStagedCapsuleUpload file.state) .authenticationFailed
    let matching ← matchesStaged journal file.state
    let (state, objectKey) ← effectiveObjectKey journal file.state
    match state.objects.get? objectKey with
    | some recordBytes => do
      refuse (recordBytes != journal.recordBytes) .authenticationFailed
      if matching && state.stagedCapsuleUpload.any (fun staged => staged.committedCreated.isNone)
      then pure (.mark { file with state := markCommitted state journal.startedAt })
      else pure .nothing
    | none => do
      -- A staged upload has reserved its bytes and its object already.
      if journal.expectedNewObject && !matching then
        ensureLeaseConsumption state journal.recordBytes 1
      let counted ←
        if journal.expectedNewObject then consume state journal.recordBytes 1 else pure state
      let listed := { counted with
        objects := counted.objects.insert objectKey journal.recordBytes }
      pure (.account { file with
        state := if matching then markCommitted listed journal.startedAt else listed })

/-- Give the chunk of a journal its reference.  A reference that a batch had left for
later may be torn; it is written again. -/
def referenceChunk (locator : Locator) : Action Unit := do
  let add := addProviderObjectReference locator journal.recordBytes journal.lease.scope true
  match ← attempt add with
  | .ok _ => pure ()
  | .error error => do
    check fun store => do
      refuse (!journal.deferredReferenceCandidate) error
      refuse (!store.references.containsKey locator)
        (.io "inspect interrupted deferred provider reference")
    writeFile "remove interrupted deferred provider reference" (Store.dropReference locator)
    let _ ← add
    pure ()

/-- The descriptor of a capsule, when it is about the stored capsule. -/
def journalDescriptor : Result RecoveryCapsuleDescriptor := do
  let descriptor ← okOr journal.recoveryCapsuleDescriptor .authenticationFailed
  refuse (descriptor.totalBytes != journal.recordBytes ||
    descriptor.capsuleDigest != journal.recordDigest ||
    descriptor.backupId != journal.lease.backupId ||
    descriptor.signerDeviceId != journal.lease.peerDeviceId) .authenticationFailed
  pure descriptor

/-- Make the object of a journal findable. -/
def publishUpload : Action Unit :=
  match journal.object with
  | .chunk locator => referenceChunk journal locator
  | .recoveryCapsule _ => do
    let descriptor ← check fun _ => journalDescriptor journal
    persistRecoveryCapsuleDescriptorValue policy descriptor

/-- Finish one upload. -/
def reconcileProviderUpload : Action Unit := do
  match ← check (reconcileDecision journal) with
  | .nothing => pure ()
  | .mark file => persistProviderLease file
  | .account file => do
    publishUpload policy journal
    persistProviderLease file

end

/-- Finish the uploads of a batch. -/
def reconcileProviderUploads (uploads : List ProviderUploadJournal) : Action Unit := do
  check fun _ => refuse (uploads.isEmpty || decide (maxProviderWriteBatchRecords < uploads.length))
    .authenticationFailed
  loop (fun _ journal => reconcileProviderUpload policy journal) () uploads

/-- Finish what one journal file says. -/
def reconcileJournal : UploadJournal → Action Unit
  | .single journal => reconcileProviderUpload policy journal
  | .batch uploads => reconcileProviderUploads policy uploads

def reconcileProviderUploadBatch (uploads : List ProviderUploadJournal) : Action Unit := do
  reconcileProviderUploads policy uploads
  completeProviderUploadJournal journalId

/-- The staging files among the journals. -/
def strayJournals (store : Store) : List (Option UploadJournal) :=
  store.strays.filterMap fun stray => match stray with
    | .journal content => some content
    | _ => none

/-- A whole staging file is finished like a journal.  Only a single one is removed: a
batch removes the file that has its name. -/
def recoverStrayJournal (content : Option UploadJournal) : Action Unit := do
  let journal ← check fun _ => okOr content .json
  reconcileJournal policy journal
  match journal with
  | .batch _ => pure ()
  | .single _ => writeFile "reconcile provider upload journal" fun store =>
    { store with strays := store.strays.erase (.journal content) }

/-- Finish every upload that a journal is left of, staging files first. -/
def recoverProviderUploadJournals : Action Unit := do
  let (strays, journals) ← check fun store => do
    refuse (decide (maxProviderUploadJournals <
      (strayJournals store).length + store.journals.len))
      (.resourceLimit "provider upload journals")
    pure (strayJournals store, store.journals.entries)
  loop (fun _ content => recoverStrayJournal policy content) () strays
  loop (fun _ entry => do
    reconcileJournal policy entry.2
    writeFile "reconcile provider upload journal" (Store.dropJournal entry.1)) () journals

end

end Covalent.Provider
