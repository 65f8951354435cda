import Covalent.Base.BigEndian
import Covalent.Provider.Journals

/-!
# Uploads under a lease

The calls of a peer: one chunk, a batch of chunks, a capsule at once and a capsule in
segments, and the ends of a lease.  Each upload decides first, then writes its journal,
the object, what makes it findable and the lease, in this order, and removes its journal
last.

## Design notes

**Threads.**  The source writes the records of a batch in parallel and reports the first
failure.  Here they are written one after the other, each whether or not an earlier one
failed; since a write can be refused and the process can end after any of them, every
subset of the batch can be what a crash leaves.
-/

namespace Covalent.Provider

open Durable

/-- What every call of a peer names. -/
structure LeaseCall where
  peer : DeviceId
  backup : BackupId
  lease : StorageLease
  now : Nat

/-- The parts of the installation that calls read. -/
structure Installation where
  policy : ProviderQuotaPolicy
  maximumChunkSize : Nat

/-! ## Records -/

/-- The bytes of a chunk record besides its ciphertext. -/
def providerRecordOverhead : Nat := 4 + 1 + 8 + 4 + 24 + 16

/-- Whether a record has the format and the length of a chunk. -/
def validRecord (record : Bytes) (maximumChunkSize : Nat) : Bool :=
  let plaintextLength := BigEndian.decode ((record.drop 13).take 4)
  decide (providerRecordOverhead ≤ record.length) &&
    decide (record.length ≤ maximumChunkSize + providerRecordOverhead) &&
    record.take 4 == [67, 86, 67, 72] && (record.drop 4).head? == some 1 &&
    plaintextLength != 0 && decide (plaintextLength ≤ maximumChunkSize) &&
    record.length == providerRecordOverhead + plaintextLength

/-- Create an object that nobody has created, and say whether that was so. -/
def createObject (key : ObjectKey) (bytes : Bytes) (serial : Nat) (operation : String) :
    Action Bool := do
  if ← check fun store => pure (store.objects.containsKey key) then pure false
  else do
    match key with
    | .chunk _ => writeListed operation .chunk (Store.putObject key ⟨bytes, some serial⟩)
    | _ => writeFile operation (Store.putObject key ⟨bytes, some serial⟩)
    pure true

def storedOtherwise (store : Store) (key : ObjectKey) (bytes : Bytes) : Bool :=
  (store.objects.get? key).any fun object => object.bytes != bytes

/-- Whether there is room on the disk. -/
def ensureFreeSpace (policy : ProviderQuotaPolicy) (freeSpace bytes : Nat) : Result Unit :=
  refuse (decide (freeSpace < min (bytes + policy.freeSpaceReserveBytes) (2 ^ 64 - 1)))
    (.resourceLimit "provider free-space reserve")

variable [Formats]

open Formats

/-! ## One chunk -/

section

variable (installation : Installation) (freeSpace : Nat) (journalId : Uuid) (call : LeaseCall)

/-- What a call knows before it writes: the lease, and whether the object is new; or
that the lease has the object already. -/
def planRecord (locator : Locator) (record : Bytes) (store : Store) :
    Result (Option (LeaseFile × Bool)) := do
  refuse (!validRecord record installation.maximumChunkSize) (.invalidState "provider record")
  let file ← loadActiveProviderLease call.peer call.backup call.lease call.now store
  let key := ObjectKey.chunk locator
  match file.state.objects.get? key with
  | some length => do
    refuse (length != record.length) .authenticationFailed
    let object ← okOr (store.objects.get? key) (.io "open bounded file")
    refuse (object.bytes != record) .authenticationFailed
    pure none
  | none =>
    match store.objects.get? key with
    | some object => do
      refuse (object.bytes != record) .authenticationFailed
      pure (some (file, false))
    | none => do
      ensureLeaseConsumption file.state record.length 1
      ensureFreeSpace installation.policy freeSpace record.length
      pure (some (file, true))

/-- Count an object in a lease, as new or not. -/
def countObject (state : ProviderLeaseState) (key : ObjectKey) (bytes : Nat) (created : Bool) :
    Result ProviderLeaseState := do
  let counted ← if created then consume state bytes 1 else pure state
  pure { counted with objects := counted.objects.insert key bytes }

def recordJournal (locator : Locator) (record : Bytes) (expectedNewObject deferred : Bool) :
    ProviderUploadJournal where
  lease := call.lease
  objectKey := .chunk locator
  object := .chunk locator
  recordBytes := record.length
  recordDigest := digest record
  recoveryCapsuleDescriptor := none
  expectedNewObject := expectedNewObject
  deferredReferenceCandidate := deferred
  startedAt := call.now

/-- Store one chunk under a lease. -/
def putProviderRecordLeased (locator : Locator) (record : Bytes) : Action Bool := do
  match ← check (planRecord installation freeSpace call locator record) with
  | none => pure false
  | some (file, expectedNewObject) => do
    writeJournal journalId (.single (recordJournal call locator record expectedNewObject false))
    let created ← if expectedNewObject then
        createObject (.chunk locator) record file.serial "commit immutable atomic file"
      else pure false
    let _ ← addProviderObjectReference locator record.length ⟨call.peer, call.backup⟩ true
    let state ← check fun _ => countObject file.state (.chunk locator) record.length created
    persistProviderLease { file with state := state }
    completeProviderUploadJournal journalId
    pure created

/-! ## A batch of chunks -/

/-- A record of a batch that the lease does not have yet. -/
structure PendingRecord where
  locator : Locator
  record : Bytes
  expectedNewObject : Bool
  deferredReferenceCandidate : Bool

def PendingRecord.journal (pending : PendingRecord) (call : LeaseCall) : ProviderUploadJournal :=
  recordJournal call pending.locator pending.record pending.expectedNewObject
    pending.deferredReferenceCandidate

def classifyRecord (store : Store) (file : LeaseFile) (locator : Locator) (record : Bytes) :
    Result (Option PendingRecord) := do
  let key := ObjectKey.chunk locator
  match file.state.objects.get? key with
  | some length => do
    let object ← okOr (store.objects.get? key) (.io "open bounded file")
    refuse (length != record.length || object.bytes != record) .authenticationFailed
    pure none
  | none => do
    refuse (storedOtherwise store key record) .authenticationFailed
    let isNew := !store.objects.containsKey key
    pure (some ⟨locator, record, isNew, isNew && !store.references.containsKey locator⟩)

/-- Classify the records of a batch, in order. -/
def classifyRecords (store : Store) (file : LeaseFile) :
    List (Locator × Bytes) → Result (List PendingRecord)
  | [] => pure []
  | (locator, record) :: rest => do
    let first ← classifyRecord store file locator record
    let others ← classifyRecords store file rest
    pure (first.toList ++ others)

def newRecords (pending : List PendingRecord) : List PendingRecord :=
  pending.filter (·.expectedNewObject)

/-- The bytes of the records of a batch that are new. -/
def newBytes (pending : List PendingRecord) : Nat :=
  ((newRecords pending).map (·.record.length)).sum

/-- What a batch knows before it writes. -/
def planRecords (records : List (Locator × Bytes)) (store : Store) :
    Result (LeaseFile × List PendingRecord) := do
  refuse (records.isEmpty || decide (maxProviderWriteBatchRecords < records.length))
    (.resourceLimit "provider write batch")
  refuse (records.any fun entry => !validRecord entry.2 installation.maximumChunkSize)
    (.invalidState "provider record")
  refuse (!decide (records.map Prod.fst).Nodup) .authenticationFailed
  refuse (decide (maxProviderWriteBatchBytes < (records.map (·.2.length)).sum))
    (.resourceLimit "provider write batch")
  let file ← loadActiveProviderLease call.peer call.backup call.lease call.now store
  let pending ← classifyRecords store file records
  ensureLeaseConsumption file.state (newBytes pending) (newRecords pending).length
  ensureFreeSpace installation.policy freeSpace (newBytes pending)
  pure (file, pending)

def writeRecord (serial : Nat) (pending : PendingRecord) : Action Unit := do
  if pending.expectedNewObject then do
    let created ← createObject (.chunk pending.locator) pending.record serial
      "commit immutable atomic file"
    check fun store => refuse (!created && storedOtherwise store (.chunk pending.locator)
      pending.record) .authenticationFailed
  else pure ()

/-- Reference one record of a batch, and say whether its durability was left for later. -/
def referenceRecord (pending : PendingRecord) : Action Bool :=
  addProviderObjectReference pending.locator pending.record.length ⟨call.peer, call.backup⟩
    (!pending.deferredReferenceCandidate)

/-- Run one step for every record, and keep the first failure. -/
def forEachRecord {α : Type} (step : PendingRecord → Action α) (pending : List PendingRecord) :
    Action (List (PendingRecord × α) × Option CoreError) :=
  loop (fun (results, failure) record => do
    match ← attempt (step record) with
    | .ok value => pure (results ++ [(record, value)], failure)
    | .error error => pure (results, failure.or (some error))) ([], none) pending

/-- Count the records of a batch in their lease. -/
def countRecords (state : ProviderLeaseState) (pending : List PendingRecord)
    (deferred : List Locator) : Result ProviderLeaseState := do
  let counted ← consume state (newBytes pending) (newRecords pending).length
  pure { counted with
    objects := counted.objects.extendList
      (pending.map fun record => (.chunk record.locator, record.record.length))
    deferredReferenceSync := counted.deferredReferenceSync.extendList
      (deferred.map fun locator => (locator, ())) }

section

variable (policy : ProviderQuotaPolicy) (now : Nat)

/-- Finish what a failed batch stored, and fail. -/
def abandonBatch (journalId : Uuid) (uploads : List ProviderUploadJournal) (error : CoreError) :
    Action (List Bool) := do
  reconcileProviderUploadBatch policy journalId uploads
  check fun _ => throw error

/-- What a batch reports for each of its records. -/
def batchResult (records : List (Locator × Bytes)) (pending : List PendingRecord) : List Bool :=
  records.map fun entry => pending.any fun record =>
    record.locator == entry.1 && record.expectedNewObject

/-- Store the pending records of a batch. -/
def storeRecords (records : List (Locator × Bytes)) (file : LeaseFile)
    (pending : List PendingRecord) : Action (List Bool) := do
  let uploads := pending.map (PendingRecord.journal · call)
  writeJournal journalId (.batch uploads)
  let (_, writeFailure) ← forEachRecord (writeRecord file.serial) pending
  match writeFailure with
  | some error => abandonBatch installation.policy journalId uploads error
  | none => do
    let (referenced, referenceFailure) ← forEachRecord (referenceRecord call) pending
    match referenceFailure with
    | some error => abandonBatch installation.policy journalId uploads error
    | none => do
      let deferred := (referenced.filter (·.2)).map (·.1.locator)
      let state ← check fun _ => countRecords file.state pending deferred
      persistProviderLease { file with state := state }
      completeProviderUploadJournal journalId
      pure (batchResult records pending)

/-- Store a batch of chunks under a lease. -/
def putProviderRecordsLeased (records : List (Locator × Bytes)) : Action (List Bool) := do
  let (file, pending) ← check (planRecords installation freeSpace call records)
  if pending.isEmpty then pure (batchResult records pending)
  else storeRecords installation journalId call records file pending

/-! ## A capsule at once -/

def describeCapsule (header : RecoveryCapsuleHeader) (bytes : Bytes) :
    RecoveryCapsuleDescriptor where
  backupId := header.backupId
  snapshotId := header.snapshotId
  keyEpoch := header.keyEpoch
  committedAt := header.committedAt
  signerDeviceId := header.signerDeviceId
  totalBytes := bytes.length
  capsuleDigest := digest bytes

/-- What a capsule upload knows before it writes. -/
def planCapsule (bytes : Bytes) (store : Store) :
    Result (RecoveryCapsuleDescriptor × Option (LeaseFile × Bool)) := do
  let header ← okOr (parseRecoveryCapsuleHeader bytes) .json
  refuse (header.backupId != call.backup || header.signerDeviceId != call.peer)
    .authenticationFailed
  refuse (!validIdentifier header.snapshotId) (.invalidState "invalid snapshot id")
  refuse (decide (maxRecoveryCapsuleBytes < bytes.length)) (.resourceLimit "recovery capsule")
  let file ← loadActiveProviderLease call.peer call.backup call.lease call.now store
  let descriptor := describeCapsule header bytes
  let key := ObjectKey.capsule descriptor.key
  match file.state.objects.get? key with
  | some length => do
    refuse (length != bytes.length) .authenticationFailed
    refuse (!(store.objects.get? key).any fun object => object.bytes == bytes) .authenticationFailed
    pure (descriptor, none)
  | none => do
    refuse (storedOtherwise store key bytes) .authenticationFailed
    if store.objects.containsKey key then pure (descriptor, some (file, false))
    else do
      ensureLeaseConsumption file.state bytes.length 1
      ensureFreeSpace installation.policy freeSpace bytes.length
      pure (descriptor, some (file, true))

def capsuleJournal (descriptor : RecoveryCapsuleDescriptor) (expectedNewObject : Bool) :
    ProviderUploadJournal where
  lease := call.lease
  objectKey := providerCapsuleObjectKey ⟨call.peer, call.backup⟩ descriptor.snapshotId
  object := .recoveryCapsule descriptor.snapshotId
  recordBytes := descriptor.totalBytes
  recordDigest := descriptor.capsuleDigest
  recoveryCapsuleDescriptor := some descriptor
  expectedNewObject := expectedNewObject
  deferredReferenceCandidate := false
  startedAt := call.now

/-- Store one capsule under a lease. -/
def putRecoveryCapsuleLeased (bytes : Bytes) : Action Bool := do
  let (descriptor, plan) ← check (planCapsule installation freeSpace call bytes)
  match plan with
  | none => pure false
  | some (file, expectedNewObject) => do
    let key := ObjectKey.capsule descriptor.key
    writeJournal journalId (.single (capsuleJournal call descriptor expectedNewObject))
    let created ← if expectedNewObject then
        createObject key bytes file.serial "persist leased recovery capsule"
      else pure false
    let state ← check fun _ => countObject file.state key bytes.length created
    persistRecoveryCapsuleDescriptorValue installation.policy descriptor
    persistProviderLease { file with state := state }
    completeProviderUploadJournal journalId
    pure created

/-! ## A capsule in segments -/

/-- Whether two announcements are the same apart from their times. -/
def sameRecoveryCapsuleUploadRequest (incumbent requested : RecoveryCapsuleUpload) : Bool :=
  incumbent.uploadId == requested.uploadId && incumbent.lease == requested.lease &&
    incumbent.totalBytes == requested.totalBytes &&
    incumbent.totalSegments == requested.totalSegments &&
    incumbent.capsuleDigest == requested.capsuleDigest &&
    incumbent.descriptor == requested.descriptor

section

variable (lease : StorageLease) (uploadId : String)

/-- Whether a call announces an upload that could be. -/
def announceable (requested : RecoveryCapsuleUpload) : Bool :=
  let descriptor := requested.descriptor
  validIdentifier requested.uploadId && requested.totalBytes != 0 &&
    decide (requested.totalBytes ≤ maxRecoveryCapsuleBytes) && requested.totalSegments != 0 &&
    decide (requested.totalSegments ≤ maxRecoveryCapsuleSegments) &&
    decide (requested.totalBytes ≤ call.lease.maxNewBytes) &&
    decide (1 ≤ call.lease.maxNewObjects) &&
    requested.totalSegments == segmentCount requested.totalBytes &&
    descriptor.backupId == call.backup && descriptor.signerDeviceId == call.peer &&
    descriptor.totalBytes == requested.totalBytes &&
    descriptor.capsuleDigest == requested.capsuleDigest

/-- Whether the peer may get one more receipt. -/
def ensureProviderUploadReceiptCapacity (peer : DeviceId) (store : Store) : Result Unit := do
  refuse (decide (maxProviderUploadReceiptsPerPeerOnDisk < receiptCount store peer))
    (.resourceLimit "provider upload receipts per peer")
  let files ← listProviderLeaseStateFiles policy store
  let staged := files.filter fun file =>
    file.state.lease.peerDeviceId == peer && file.state.stagedCapsuleUpload.isSome
  refuse (decide (maxProviderUploadReceiptsPerPeer ≤ receiptCount store peer + staged.length))
    (.resourceLimit "provider upload receipt backpressure")

/-- What an announcement finds: the upload that is staged already, or a lease that can
take it. -/
def planUpload (requested : RecoveryCapsuleUpload) (store : Store) :
    Result (LeaseFile × Option RecoveryCapsuleUpload) := do
  refuse (!announceable call requested) (.invalidState "invalid recovery capsule upload")
  let file ← loadActiveProviderLease call.peer call.backup call.lease call.now store
  match file.state.stagedCapsuleUpload with
  | some staged => do
    refuse (!sameRecoveryCapsuleUploadRequest staged.upload requested) .authenticationFailed
    pure (file, some staged.upload)
  | none => do
    ensureProviderUploadReceiptCapacity installation.policy call.peer store
    ensureLeaseConsumption file.state requested.totalBytes 1
    refuse (decide (freeSpace < requested.totalBytes * 2 +
      installation.policy.freeSpaceReserveBytes)) (.resourceLimit "provider free-space reserve")
    pure (file, none)

/-- Whether an announced capsule is new; one that is there has to be the same. -/
def expectNewCapsule (file : LeaseFile) (requested : RecoveryCapsuleUpload) (store : Store) :
    Result Bool := do
  let key := ObjectKey.capsule requested.descriptor.key
  let incumbent := hashObject store key
  match file.state.objects.get? key with
  | some length => do
    refuse (length != requested.totalBytes ||
      incumbent != some (requested.totalBytes, requested.capsuleDigest)) .authenticationFailed
    pure false
  | none =>
    match incumbent with
    | none => pure true
    | some found => do
      refuse (found != (requested.totalBytes, requested.capsuleDigest)) .authenticationFailed
      pure false

/-- Announce a capsule that arrives in segments. -/
def beginRecoveryCapsuleUpload (requested : RecoveryCapsuleUpload) : Action Unit := do
  let (file, incumbent) ← check (planUpload installation freeSpace call requested)
  match incumbent with
  | some upload => ensureRecoveryCapsuleUploadDirectory upload
  | none => do
    -- A directory without a reservation can not be resumed.
    cleanupRecoveryCapsuleUpload call.lease
    let expectedNewObject ← check (expectNewCapsule file requested)
    persistProviderLease { file with
      state := { file.state with
        stagedCapsuleUpload := some ⟨requested, expectedNewObject, none, none⟩ } }
    ensureRecoveryCapsuleUploadDirectory requested

/-- The metadata of the upload a call is about. -/
def loadRecoveryCapsuleUpload (store : Store) : Result RecoveryCapsuleUpload := do
  let directory ← okOr (store.staging.get? lease.key) .authenticationFailed
  let metadata ← okOr directory.metadata .authenticationFailed
  refuse (metadata.uploadId != uploadId || metadata.lease != lease) .authenticationFailed
  pure metadata

def expectedSegmentLength (totalBytes index : Nat) : Nat :=
  min (totalBytes - index * maxRecoveryCapsuleSegmentBytes) maxRecoveryCapsuleSegmentBytes

/-- Whether a segment still has to be written. -/
def planSegment (index : Nat) (segment : Bytes) (segmentDigest : Digest) (store : Store) :
    Result Bool := do
  refuse (segment.isEmpty || decide (maxRecoveryCapsuleSegmentBytes < segment.length) ||
    digest segment != segmentDigest) .authenticationFailed
  let file ← loadActiveProviderLease call.peer call.backup call.lease call.now store
  let metadata ← loadRecoveryCapsuleUpload call.lease uploadId store
  let staged ← okOr file.state.stagedCapsuleUpload .authenticationFailed
  let expectedLength := expectedSegmentLength metadata.totalBytes index
  refuse (staged.upload != metadata || staged.committedCreated.isSome ||
    decide (metadata.totalSegments ≤ index) || expectedLength == 0 ||
    segment.length != expectedLength) .authenticationFailed
  let segments ← okOr ((store.staging.get? call.lease.key).bind (·.segments)) .authenticationFailed
  match segments.get? index with
  | some incumbent => do
    refuse (incumbent != segment) .authenticationFailed
    pure false
  | none => do
    refuse (decide (freeSpace < metadata.totalBytes + segment.length +
      installation.policy.freeSpaceReserveBytes)) (.resourceLimit "provider free-space reserve")
    pure true

/-- Store one segment; a repetition has to be the same. -/
def putRecoveryCapsuleSegment (index : Nat) (segment : Bytes) (segmentDigest : Digest) :
    Action Unit := do
  if ← check (planSegment installation freeSpace call uploadId index segment segmentDigest) then
    writeListed "persist recovery capsule segment" (.segments call.lease.key)
      (Store.changeStaging call.lease.key fun directory =>
        { directory with segments := directory.segments.map (·.insert index segment) })
  else pure ()

/-- The segments in order, each of its length. -/
def assembleSegments (segments : BTreeMap Nat Bytes) (totalBytes : Nat) :
    List Nat → Result Bytes
  | [] => pure []
  | index :: rest => do
    let segment ← okOr (segments.get? index) .authenticationFailed
    refuse (segment.length != expectedSegmentLength totalBytes index) .authenticationFailed
    let others ← assembleSegments segments totalBytes rest
    pure (segment ++ others)

def headerAgrees (header : RecoveryCapsuleHeader) (descriptor : RecoveryCapsuleDescriptor) : Bool :=
  header.backupId == descriptor.backupId && header.snapshotId == descriptor.snapshotId &&
    header.keyEpoch == descriptor.keyEpoch && header.committedAt == descriptor.committedAt &&
    header.signerDeviceId == descriptor.signerDeviceId

/-- The capsule that the segments of an upload make up. -/
def assembledCapsule (metadata : RecoveryCapsuleUpload) (store : Store) : Result Bytes := do
  let segments ← okOr ((store.staging.get? metadata.lease.key).bind (·.segments))
    .authenticationFailed
  let bytes ← assembleSegments segments metadata.totalBytes (List.range metadata.totalSegments)
  refuse (bytes.length != metadata.totalBytes || digest bytes != metadata.capsuleDigest)
    .authenticationFailed
  let header ← okOr (parseRecoveryCapsuleHeader bytes) .authenticationFailed
  refuse (!headerAgrees header metadata.descriptor) .authenticationFailed
  pure bytes

/-- The staged upload that a commit is about. -/
def stagedUpload (store : Store) : Result (LeaseFile × StagedCapsuleUpload) := do
  let file ← loadActiveProviderLease call.peer call.backup call.lease call.now store
  let metadata ← loadRecoveryCapsuleUpload call.lease uploadId store
  let staged ← okOr file.state.stagedCapsuleUpload .authenticationFailed
  let descriptor := metadata.descriptor
  refuse (staged.upload != metadata || descriptor.backupId != call.backup ||
    descriptor.signerDeviceId != call.peer || descriptor.totalBytes != metadata.totalBytes ||
    descriptor.capsuleDigest != metadata.capsuleDigest) .authenticationFailed
  pure (file, staged)

/-- Whether the lease has the capsule already, and whether the capsule is new. -/
def classifyCapsule (file : LeaseFile) (metadata : RecoveryCapsuleUpload) (store : Store) :
    Result (Bool × Bool) := do
  let key := ObjectKey.capsule metadata.descriptor.key
  let recorded := file.state.objects.get? key
  refuse (recorded.any (· != metadata.totalBytes)) .authenticationFailed
  let incumbent := hashObject store key
  refuse (incumbent.any (· != (metadata.totalBytes, metadata.capsuleDigest))) .authenticationFailed
  refuse (recorded.isSome && incumbent.isNone) .authenticationFailed
  pure (recorded.isSome, incumbent.isNone)

/-- The result of a staged upload whose commit came to its end before. -/
def finishCommitted (call : LeaseCall) (file : LeaseFile) (staged : StagedCapsuleUpload)
    (created : Bool) : Action Bool := do
  let descriptor := staged.upload.descriptor
  let state ← check fun store => do
    let (state, objectKey) ← normalizeProviderCapsuleObjectKey file.state descriptor
    refuse (state.objects.get? objectKey != some staged.upload.totalBytes ||
      hashObject store (.capsule descriptor.key) !=
        some (staged.upload.totalBytes, staged.upload.capsuleDigest)) .authenticationFailed
    pure state
  persistProviderUploadReceipt policy call.lease staged.upload.uploadId created
    (staged.completedAt.getD staged.upload.createdAt)
  cleanupRecoveryCapsuleUpload call.lease
  persistProviderLease { file with state := { state with stagedCapsuleUpload := none } }
  pure created

/-- Record the result of a commit in the lease. -/
def commitStaged (state : ProviderLeaseState) (key : ObjectKey) (bytes : Nat)
    (counts created : Bool) (now : Nat) : Result ProviderLeaseState := do
  let counted ← countObject state key bytes counts
  pure { counted with
    stagedCapsuleUpload := counted.stagedCapsuleUpload.map fun staged =>
      { staged with committedCreated := some created, completedAt := some now } }

/-- Assemble the segments of an upload into one file, and check it. -/
def assembleUpload (metadata : RecoveryCapsuleUpload) : Action Bytes := do
  let key := metadata.lease.key
  let setAssembled (assembled : Option Bytes) : Store → Store :=
    Store.changeStaging key fun directory => { directory with assembled := assembled }
  writeFile "replace recovery capsule assembly" (setAssembled none)
  check fun _ => refuse (decide (freeSpace < metadata.totalBytes +
    installation.policy.freeSpaceReserveBytes)) (.resourceLimit "provider free-space reserve")
  writeFile "create recovery capsule assembly" (setAssembled (some []))
  let bytes ← check (assembledCapsule metadata)
  writeFile "assemble recovery capsule" (setAssembled (some bytes))
  pure bytes

/-- What is left of a commit once the capsule is in its place. -/
def finishAssembled (file : LeaseFile) (staged : StagedCapsuleUpload) (counts created : Bool) :
    Action Bool := do
  writeFile "remove committed recovery capsule assembly" (Store.changeStaging call.lease.key
    fun directory => { directory with assembled := none })
  let state ← check fun _ => commitStaged file.state (.capsule staged.upload.descriptor.key)
    staged.upload.totalBytes counts created call.now
  persistRecoveryCapsuleDescriptorValue installation.policy staged.upload.descriptor
  persistProviderLease { file with state := state }
  completeProviderUploadJournal journalId
  persistProviderUploadReceipt installation.policy call.lease staged.upload.uploadId created
    call.now
  cleanupRecoveryCapsuleUpload call.lease
  persistProviderLease { file with state := { state with stagedCapsuleUpload := none } }
  pure created

/-- Commit the assembled capsule of an upload through the accounting of its lease. -/
def commitAssembled (file : LeaseFile) (staged : StagedCapsuleUpload) (bytes : Bytes) :
    Action Bool := do
  let metadata := staged.upload
  let descriptor := metadata.descriptor
  let key := ObjectKey.capsule descriptor.key
  let (alreadyAccounted, expectedNewObject) ← check (classifyCapsule file metadata)
  writeJournal journalId (.single (capsuleJournal call descriptor expectedNewObject))
  if expectedNewObject then do
    let created ← createObject key bytes file.serial "commit recovery capsule assembly"
    check fun _ => refuse (!created) .authenticationFailed
  else pure ()
  finishAssembled installation journalId call file staged (expectedNewObject && !alreadyAccounted)
    (if alreadyAccounted then staged.expectedNewObject else expectedNewObject)

/-- Commit a capsule that arrived in segments. -/
def commitRecoveryCapsuleUpload : Action Bool := do
  -- An earlier commit may have stored the capsule and not counted it.
  recoverProviderUploadJournals installation.policy
  match ← check (loadProviderUploadReceipt installation.policy call.lease uploadId) with
  | some receipt => do
    check fun _ => refuse (receipt.lease.peerDeviceId != call.peer ||
      receipt.lease.backupId != call.backup) .authenticationFailed
    cleanupRecoveryCapsuleUpload call.lease
    clearStagedCapsuleUpload call.lease uploadId
    pure receipt.created
  | none => do
    let (file, staged) ← check (stagedUpload call uploadId)
    match staged.committedCreated with
    | some created => finishCommitted installation.policy call file staged created
    | none => do
      let bytes ← assembleUpload installation freeSpace staged.upload
      commitAssembled installation journalId call file staged bytes

/-- Forget the receipt of an upload once its writer has it. -/
def acknowledgeRecoveryCapsuleUpload : Action Unit := do
  match ← check (loadProviderUploadReceipt installation.policy lease uploadId) with
  | none => pure ()
  | some _ =>
    writeFile "acknowledge provider upload receipt" (Store.dropReceipt ⟨lease.key, uploadId⟩)

/-! ## The end of a lease -/

/-- Cancel a lease and fold it into the ledger. -/
def cancelProviderLease (now : Nat) : Action Unit := do
  recoverProviderUploadJournals installation.policy
  let key ← check fun _ => providerLeasePath lease
  match ← check fun store => pure (store.leases.get? key) with
  | none => do
    cleanupRecoveryCapsuleUpload lease
    compactProviderLeases installation.policy now
  | some file => do
    check fun _ => refuse (file.state.lease != lease) .authenticationFailed
    let cancelled := { file with state := { file.state with cancelled := true } }
    if file.state.cancelled then pure () else persistProviderLease cancelled
    let _ ← discardRecoveryCapsuleStaging installation.policy cancelled
    compactProviderLeases installation.policy now

end

/-! ## Opening the store -/

def recoverProviderUploadReceipts (store : Store) : Result Unit := do
  refuse (decide (maxProviderUploadReceiptPeers < (receiptPeers store).length))
    (.resourceLimit "provider upload receipt peers")
  checkEach (fun peer => do
    refuse (decide (maxProviderUploadReceiptsPerPeerOnDisk < receiptCount store peer))
      (.resourceLimit "provider upload receipts per peer")
    refuse (store.strays.contains (.receipt peer)) .authenticationFailed) (receiptPeers store)
  checkEach (fun entry => refuse (!validProviderUploadReceipt policy entry.2 ||
    entry.1 != ⟨entry.2.lease.key, entry.2.uploadId⟩) .authenticationFailed) store.receipts.entries

/-- Make the deferred references of every lease durable. -/
def recoverProviderLeaseReferences : Action Unit := do
  let files ← check (listProviderLeaseStateFiles policy)
  loop (fun _ file => do
    let _ ← ensureProviderLeaseReferencesDurable file
    pure ()) () files

/-- Check the staging directory of an upload, and drop what was being assembled. -/
def validateRecoveryCapsuleUploadDirectory (upload : RecoveryCapsuleUpload) : Action Unit := do
  let key := upload.lease.key
  let directory ← check fun store => do
    let incumbent ← loadRecoveryCapsuleUpload upload.lease upload.uploadId store
    refuse (incumbent != upload) .authenticationFailed
    let directory ← okOr (store.staging.get? key) .authenticationFailed
    checkStagingNames key directory store
    pure directory
  if directory.assembled.isSome then
    writeFile "discard interrupted recovery capsule assembly" (Store.changeStaging key
      fun directory => { directory with assembled := none })
  else pure ()
  check fun store => match directory.segments with
    | none => pure ()
    | some segments => do
      checkSegmentNames key upload.totalSegments segments "recovery capsule upload segments" store
      checkEach (fun (index, segment) =>
        refuse (decide (upload.totalSegments ≤ index) ||
          expectedSegmentLength upload.totalBytes index == 0 ||
          segment.length != expectedSegmentLength upload.totalBytes index)
          .authenticationFailed) segments.entries

/-- Resume or end the staged upload of one lease; a resumed one keeps its directory. -/
def recoverStagedUpload (expected : List LeaseKey) (file : LeaseFile) : Action (List LeaseKey) := do
  match file.state.stagedCapsuleUpload with
  | none => pure expected
  | some staged =>
    match ← finalizeCommittedRecoveryCapsuleStaging policy file with
    | some _ => pure expected
    | none =>
      if file.activeAt now then do
        ensureRecoveryCapsuleUploadDirectory staged.upload
        validateRecoveryCapsuleUploadDirectory staged.upload
        pure (expected ++ [file.key])
      else do
        let _ ← discardRecoveryCapsuleStaging policy file
        pure expected

/-- The staging directories without an upload that is going on. -/
def orphanedStaging (expected : List LeaseKey) (store : Store) : Result (List LeaseKey) := do
  let keys := store.staging.keys
  let scopes := (keys.map LeaseKey.scope).dedup
  refuse (decide (maxProviderCapsuleStagingPeers < (scopes.map Scope.peerDeviceId).dedup.length))
    (.resourceLimit "provider capsule staging peers")
  refuse (decide (maxProviderCapsuleStagingBackups < scopes.length))
    (.resourceLimit "provider capsule staging backups")
  refuse (decide (maxProviderCapsuleStagingLeases < keys.length))
    (.resourceLimit "provider capsule staging leases")
  pure (keys.filter fun key => !expected.contains key)

/-- Resume or end every staged upload. -/
def recoverRecoveryCapsuleUploads : Action Unit := do
  let files ← check (listProviderLeaseStateFiles policy)
  let expected ← loop (recoverStagedUpload policy now) [] files
  let orphans ← check (orphanedStaging expected)
  loop (fun _ key => cleanupRecoveryCapsuleUploadParts key) () orphans

/-- What opening the store does for providers, in the order of the source. -/
def recoverStore : Action Unit := do
  check (recoverProviderUploadReceipts installation.policy)
  recoverProviderUploadJournals installation.policy
  recoverProviderLeaseReferences installation.policy
  recoverRecoveryCapsuleUploads installation.policy now
  compactProviderLeases installation.policy now

end

end

end Covalent.Provider
