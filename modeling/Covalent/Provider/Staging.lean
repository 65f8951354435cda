import Covalent.Provider.Records

/-!
# References, receipts and staged capsules

Three kinds of files stand beside a lease.  A reference says which scopes may read a
chunk, a receipt says how a capsule upload ended, and a staging directory holds the
segments of a capsule that is being uploaded.  This module has their writes and the end
of a staged upload: its result becomes a receipt, or it is discarded.
-/

namespace Covalent.Provider

open Durable

/-! ## Single writes -/

namespace Store

def putLease (file : LeaseFile) (store : Store) : Store :=
  { store with leases := store.leases.insert file.key file }

def dropLease (key : LeaseKey) (store : Store) : Store :=
  { store with leases := store.leases.erase key }

def putLedger (ledger : ProviderLeaseLedger) (store : Store) : Store :=
  { store with ledger := ledger }

def putJournal (journalId : Uuid) (journal : UploadJournal) (store : Store) : Store :=
  { store with journals := store.journals.insert journalId journal }

def dropJournal (journalId : Uuid) (store : Store) : Store :=
  { store with journals := store.journals.erase journalId }

def putObject (key : ObjectKey) (object : StoredObject) (store : Store) : Store :=
  { store with objects := store.objects.insert key object }

def putReference (locator : Locator) (reference : ReferenceFile) (store : Store) : Store :=
  { store with references := store.references.insert locator reference }

def dropReference (locator : Locator) (store : Store) : Store :=
  { store with references := store.references.erase locator }

def putReceipt (receipt : ProviderUploadReceipt) (store : Store) : Store :=
  { store with
    receipts := store.receipts.insert ⟨receipt.lease.key, receipt.uploadId⟩ receipt }

def dropReceipt (key : ReceiptKey) (store : Store) : Store :=
  { store with receipts := store.receipts.erase key }

/-- Change the staging directory of a lease, which is empty when it is new. -/
def changeStaging (key : LeaseKey) (change : StagingDirectory → StagingDirectory)
    (store : Store) : Store :=
  { store with
    staging := store.staging.insert key
      (change ((store.staging.get? key).getD ⟨none, none, none⟩)) }

def dropStaging (key : LeaseKey) (store : Store) : Store :=
  { store with staging := store.staging.erase key }

/-- Leave a staging file behind. -/
def strand (stray : Stray) (store : Store) : Store :=
  { store with strays := store.strays ++ [stray] }

end Store

/-- Replace a file of a directory that nobody reads as a whole. -/
def writeFile (operation : String) (change : Store → Store) : Action Unit :=
  act (.io operation) change fun _ store => store

/-- Replace a file of a directory that is read as a whole. -/
def writeListed (operation : String) (stray : Stray) (change : Store → Store) : Action Unit :=
  act (.io operation) change fun _ => Store.strand stray

def persistProviderLease (file : LeaseFile) : Action Unit :=
  writeListed "commit atomic file" (.lease file.scope) (Store.putLease file)

/-! ## References -/

/-- The reference of a chunk, and whether it is new. -/
def readProviderObjectReference (locator : Locator) (recordBytes : Nat) (store : Store) :
    Result (ProviderObjectReference × Bool) :=
  match store.references.get? locator with
  | none => pure (⟨recordBytes, ∅⟩, true)
  | some .torn => throw .json
  | some (.intact reference _) => do
    refuse (reference.recordBytes != recordBytes) .authenticationFailed
    pure (reference, false)

/-- Add an owner to the reference of a chunk.  A reference that may be lost is only
written when it is new. -/
def addProviderObjectReference (locator : Locator) (recordBytes : Nat) (owner : Scope)
    (syncParent : Bool) : Action Bool := do
  let (reference, absent) ← check (readProviderObjectReference locator recordBytes)
  if reference.owners.containsKey owner then pure false
  else do
    let next := { reference with owners := reference.owners.insert owner () }
    if syncParent || !absent then do
      writeFile "commit atomic file" (Store.putReference locator (.intact next true))
      pure false
    else do
      writeFile "commit deferred provider reference"
        (Store.putReference locator (.intact next false))
      pure true

/-- Mark the reference of a chunk as synchronised. -/
def syncReference (locator : Locator) (store : Store) : Store :=
  match store.references.get? locator with
  | some (.intact reference _) => store.putReference locator (.intact reference true)
  | _ => store

/-- Make one reference of a lease durable, and write it again when it was torn. -/
def ensureReferenceDurable (file : LeaseFile) (locator : Locator) : Action Unit := do
  let recordBytes ← check fun _ =>
    okOr (file.state.objects.get? (.chunk locator)) .authenticationFailed
  match ← attempt (addProviderObjectReference locator recordBytes file.scope true) with
  | .ok _ => pure ()
  | .error _ => do
    check fun store => refuse (!store.references.containsKey locator)
      (.io "inspect deferred provider reference during recovery")
    writeFile "remove incomplete deferred provider reference" (Store.dropReference locator)
    let _ ← addProviderObjectReference locator recordBytes file.scope true
    pure ()
  writeFile "sync deferred provider reference" (syncReference locator)

/-- Make every reference durable that a lease has deferred. -/
def ensureProviderLeaseReferencesDurable (file : LeaseFile) : Action LeaseFile := do
  loop (fun _ locator => ensureReferenceDurable file locator) ()
    file.state.deferredReferenceSync.keys
  if file.state.deferredReferenceSync.keys.isEmpty then pure file
  else do
    let synced := { file with state := { file.state with deferredReferenceSync := ∅ } }
    persistProviderLease synced
    pure synced

/-! ## Receipts -/

section

variable (policy : ProviderQuotaPolicy) (lease : StorageLease) (uploadId : String)

def validProviderUploadReceipt (receipt : ProviderUploadReceipt) : Bool :=
  validProviderLeaseShape receipt.lease policy.maximumLeaseLifetimeMs &&
    validIdentifier receipt.uploadId && decide (receipt.lease.issuedAt ≤ receipt.completedAt)

/-- How many files the receipt directory of a peer has. -/
def receiptCount (store : Store) (peer : DeviceId) : Nat :=
  (store.receipts.keys.filter fun key => key.lease.scope.peerDeviceId == peer).length +
    store.strays.count (.receipt peer)

def receiptPeers (store : Store) : List DeviceId :=
  (store.receipts.keys.map (·.lease.scope.peerDeviceId) ++
    store.strays.filterMap fun stray => match stray with
      | .receipt peer => some peer
      | _ => none).dedup

def loadProviderUploadReceipt (store : Store) : Result (Option ProviderUploadReceipt) := do
  refuse (!validIdentifier uploadId) (.invalidState "invalid provider upload id")
  match store.receipts.get? ⟨lease.key, uploadId⟩ with
  | none => pure none
  | some receipt => do
    refuse (!validProviderUploadReceipt policy receipt || receipt.lease != lease ||
      receipt.uploadId != uploadId) .authenticationFailed
    pure (some receipt)

/-- Whether a receipt still has to be written, and may be. -/
def admitReceipt (receipt : ProviderUploadReceipt) (store : Store) : Result Bool := do
  let peer := receipt.lease.peerDeviceId
  refuse (!validIdentifier receipt.uploadId) (.invalidState "invalid provider upload id")
  refuse (!(receiptPeers store).contains peer &&
    decide (maxProviderUploadReceiptPeers ≤ (receiptPeers store).length))
    (.resourceLimit "provider upload receipt peers")
  refuse (!validProviderUploadReceipt policy receipt) .authenticationFailed
  match store.receipts.get? ⟨receipt.lease.key, receipt.uploadId⟩ with
  | some incumbent =>
    if incumbent == receipt then pure false else throw .authenticationFailed
  | none => do
    refuse (decide (maxProviderUploadReceiptsPerPeerOnDisk < receiptCount store peer))
      (.resourceLimit "provider upload receipts per peer")
    refuse (decide (maxProviderUploadReceiptsPerPeer ≤ receiptCount store peer))
      (.resourceLimit "provider upload receipt backpressure")
    pure true

/-- Record how a capsule upload ended. -/
def persistProviderUploadReceipt (created : Bool) (completedAt : Nat) : Action Unit := do
  let receipt : ProviderUploadReceipt := ⟨lease, uploadId, created, completedAt⟩
  if ← check (admitReceipt policy receipt) then
    writeListed "commit atomic file" (.receipt lease.peerDeviceId) (Store.putReceipt receipt)
  else pure ()

/-! ## Staging directories -/

/-- Open the staging directory of an upload, with its metadata. -/
def ensureRecoveryCapsuleUploadDirectory (upload : RecoveryCapsuleUpload) : Action Unit := do
  let key := upload.lease.key
  writeFile "open recovery capsule upload" (Store.changeStaging key id)
  writeFile "open recovery capsule segments" (Store.changeStaging key fun directory =>
    { directory with segments := some (directory.segments.getD ∅) })
  match ← check fun store => pure ((store.staging.get? key).bind (·.metadata)) with
  | some incumbent => check fun _ => refuse (incumbent != upload) .authenticationFailed
  | none =>
    writeListed "persist recovery capsule upload metadata" (.upload key)
      (Store.changeStaging key fun directory => { directory with metadata := some upload })

/-- The files of a staging directory, strays included. -/
def stagingEntries (store : Store) (key : LeaseKey) (directory : StagingDirectory) : Nat :=
  directory.metadata.toList.length + directory.segments.toList.length +
    directory.assembled.toList.length + store.strays.count (.upload key)

/-- Refuse to read a staging directory with a foreign file. -/
def checkStagingNames (key : LeaseKey) (directory : StagingDirectory) (store : Store) :
    Result Unit := do
  refuse (decide (3 < stagingEntries store key directory))
    (.resourceLimit "recovery capsule upload entries")
  refuse (store.strays.contains (.upload key)) .authenticationFailed

/-- Refuse to read a segment directory with a foreign file. -/
def checkSegmentNames (key : LeaseKey) (maximum : Nat) (segments : BTreeMap Nat Bytes)
    (resource : String) (store : Store) : Result Unit := do
  refuse (decide (maximum < segments.len + store.strays.count (.segments key)))
    (.resourceLimit resource)
  refuse (store.strays.contains (.segments key)) .authenticationFailed

/-- Remove the segments of a staging directory. -/
def removeSegments (key : LeaseKey) (segments : BTreeMap Nat Bytes) : Action Unit := do
  check (checkSegmentNames key maxRecoveryCapsuleSegments segments "recovery capsule segments")
  loop (fun _ index => writeFile "remove recovery capsule segment"
    (Store.changeStaging key fun directory =>
      { directory with segments := directory.segments.map fun kept => kept.erase index })) ()
    segments.keys
  writeFile "remove recovery capsule segment directory"
    (Store.changeStaging key fun directory => { directory with segments := none })

/-- Remove a staging directory with all it holds. -/
def cleanupRecoveryCapsuleUploadParts (key : LeaseKey) : Action Unit := do
  match ← check fun store => pure (store.staging.get? key) with
  | none => pure ()
  | some directory => do
    check (checkStagingNames key directory)
    if directory.assembled.isSome then
      writeFile "remove recovery capsule upload file"
        (Store.changeStaging key fun directory => { directory with assembled := none })
    else pure ()
    if directory.metadata.isSome then
      writeFile "remove recovery capsule upload file"
        (Store.changeStaging key fun directory => { directory with metadata := none })
    else pure ()
    match directory.segments with
    | none => pure ()
    | some segments => removeSegments key segments
    writeFile "remove recovery capsule upload directory" (Store.dropStaging key)

def cleanupRecoveryCapsuleUpload : Action Unit :=
  cleanupRecoveryCapsuleUploadParts lease.key

/-! ## Staged uploads -/

/-- The number of segments of a capsule. -/
def segmentCount (totalBytes : Nat) : Nat :=
  (totalBytes + maxRecoveryCapsuleSegmentBytes - 1) / maxRecoveryCapsuleSegmentBytes

def providerCapsuleObjectKey (scope : Scope) (snapshotId : String) : ObjectKey :=
  .capsule ⟨scope, snapshotId⟩

/-- Use the key with the owner for a capsule, whichever key the lease has. -/
def normalizeProviderCapsuleObjectKey (state : ProviderLeaseState)
    (descriptor : RecoveryCapsuleDescriptor) :
    Result (ProviderLeaseState × ObjectKey) :=
  let canonical := providerCapsuleObjectKey ⟨state.lease.peerDeviceId, descriptor.backupId⟩
    descriptor.snapshotId
  let legacy := ObjectKey.legacyCapsule descriptor.backupId descriptor.snapshotId
  match state.objects.get? canonical, state.objects.get? legacy with
  | some left, some right =>
    if left = right then pure ({ state with objects := state.objects.erase legacy }, canonical)
    else throw .authenticationFailed
  | none, some length =>
    pure ({ state with objects := (state.objects.erase legacy).insert canonical length }, canonical)
  | _, none => pure (state, canonical)

/-- Bytes and objects that a staged upload reserves until it is committed. -/
def stagedReservation (state : ProviderLeaseState) : Nat × Nat :=
  match state.stagedCapsuleUpload.filter fun staged => staged.committedCreated.isNone with
  | none => (0, 0)
  | some staged => (staged.upload.totalBytes, 1)

/-- Whether a sum stays within a limit. -/
def sumWithin (limit : Nat) (left right : Nat) : Bool :=
  (checkedAdd left right).any fun sum => decide (sum ≤ limit)

/-- When a staged upload was completed, if it was. -/
def completionFits : Option Bool → Option Nat → Bool
  | none, none => true
  | some _, some completedAt =>
    decide (lease.issuedAt ≤ completedAt) && decide (completedAt < lease.expiresAt)
  | some _, none => true
  | none, some _ => false

/-- Whether the staged upload of a lease is one that the lease could have admitted. -/
def validStagedCapsuleUpload (state : ProviderLeaseState) : Bool :=
  match state.stagedCapsuleUpload with
  | none => true
  | some staged =>
    let upload := staged.upload
    let descriptor := upload.descriptor
    let (bytes, objects) := stagedReservation state
    validIdentifier upload.uploadId && upload.lease == state.lease && upload.totalBytes != 0 &&
      decide (upload.totalBytes ≤ maxRecoveryCapsuleBytes) && upload.totalSegments != 0 &&
      decide (upload.totalSegments ≤ maxRecoveryCapsuleSegments) &&
      upload.totalSegments == segmentCount upload.totalBytes &&
      decide (state.lease.issuedAt ≤ upload.createdAt) &&
      decide (upload.createdAt < state.lease.expiresAt) &&
      descriptor.backupId == state.lease.backupId &&
      descriptor.signerDeviceId == state.lease.peerDeviceId &&
      descriptor.totalBytes == upload.totalBytes &&
      descriptor.capsuleDigest == upload.capsuleDigest &&
      sumWithin state.lease.maxNewBytes state.consumedNewBytes bytes &&
      sumWithin state.lease.maxNewObjects state.consumedNewObjects objects &&
      completionFits state.lease staged.committedCreated staged.completedAt &&
      staged.committedCreated.all fun _ =>
        state.objects.get? (providerCapsuleObjectKey
          ⟨state.lease.peerDeviceId, descriptor.backupId⟩ descriptor.snapshotId) ==
            some upload.totalBytes ||
          state.objects.get? (.legacyCapsule descriptor.backupId descriptor.snapshotId) ==
            some upload.totalBytes

end

variable [Formats] (policy : ProviderQuotaPolicy)

open Formats

/-- The length and the digest of a stored object. -/
def hashObject (store : Store) (key : ObjectKey) : Option (Nat × Digest) :=
  (store.objects.get? key).map fun object => (object.bytes.length, digest object.bytes)

/-- A committed upload whose capsule is stored, with the lease under the canonical key
and the time of its receipt. -/
def committedUpload (file : LeaseFile) (staged : StagedCapsuleUpload) (created : Bool)
    (store : Store) : Result (LeaseFile × Nat) := do
  let descriptor := staged.upload.descriptor
  let (state, objectKey) ← normalizeProviderCapsuleObjectKey file.state descriptor
  refuse (state.objects.get? objectKey != some staged.upload.totalBytes ||
    hashObject store (providerCapsuleObjectKey ⟨state.lease.peerDeviceId, descriptor.backupId⟩
      descriptor.snapshotId) != some (staged.upload.totalBytes, staged.upload.capsuleDigest))
    .authenticationFailed
  let recorded ← loadProviderUploadReceipt policy state.lease staged.upload.uploadId store
  let completedAt ← match recorded with
    | none => pure (staged.completedAt.getD staged.upload.createdAt)
    | some receipt =>
      if receipt.created == created then pure receipt.completedAt
      else throw .authenticationFailed
  pure ({ file with state := state }, completedAt)

/-- Turn a committed staged upload into its receipt. -/
def finalizeCommittedRecoveryCapsuleStaging (file : LeaseFile) : Action (Option LeaseFile) :=
  match file.state.stagedCapsuleUpload with
  | none => pure none
  | some staged =>
    match staged.committedCreated with
    | none => pure none
    | some created => do
      let (file, completedAt) ← check (committedUpload policy file staged created)
      persistProviderUploadReceipt policy file.state.lease staged.upload.uploadId created
        completedAt
      cleanupRecoveryCapsuleUpload file.state.lease
      let settled := { file with state := { file.state with stagedCapsuleUpload := none } }
      persistProviderLease settled
      pure (some settled)

/-- End a staged upload: a committed one is finalised, another one is given up. -/
def discardRecoveryCapsuleStaging (file : LeaseFile) : Action LeaseFile := do
  match ← finalizeCommittedRecoveryCapsuleStaging policy file with
  | some settled => pure settled
  | none => do
    cleanupRecoveryCapsuleUpload file.state.lease
    if file.state.stagedCapsuleUpload.isSome then do
      let cleared := { file with state := { file.state with stagedCapsuleUpload := none } }
      persistProviderLease cleared
      pure cleared
    else pure file

/-- Forget the staged upload of a lease once its receipt is there. -/
def clearStagedCapsuleUpload (lease : StorageLease) (uploadId : String) : Action Unit := do
  match ← check fun store => pure (store.leases.get? lease.key) with
  | none => pure ()
  | some file => do
    check fun _ => refuse (file.state.lease != lease) .authenticationFailed
    match file.state.stagedCapsuleUpload with
    | none => pure ()
    | some staged =>
      if staged.upload.uploadId == uploadId then
        persistProviderLease { file with state := { file.state with stagedCapsuleUpload := none } }
      else check fun _ => throw .authenticationFailed

end Covalent.Provider
