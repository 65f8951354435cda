import Covalent.Provider.Uploads

/-!
# What peers may read

A peer reads the chunks that a reference names it an owner of, and the capsules that it
signed.  A chunk is read after its reference was checked, and a part of a capsule after
its descriptor was; other calls may come in between.

## Design notes

**Moments.**  The check of a batch holds the lock of the store and the reads after it do
not, so an answer takes the store at the moment of the check and, for every record, the
store at the moment of its read.

**Cursors.**  A cursor names a feed and a position; the generation of the page index in
it is the same for the whole life of a store.  Deadlines and frame sizes, which can only
turn an answer into an error, are left out.
-/

namespace Covalent.Provider

/-! ## Authority -/

inductive PeerRole where
  | storageProvider
  | backupReader
  | backupWriter
deriving DecidableEq

/-- The parts of a grant that authorise a peer. -/
structure PeerGrant where
  roles : List PeerRole
  revoked : Bool

abbrev TrustedPeers := BTreeMap DeviceId PeerGrant

inductive ReadError where
  | core (error : CoreError)
  | missingChunk (locator : Locator)
  | identityMismatch
  | peerRevoked
  | unselectedProvider
deriving DecidableEq

def authorizedPeer (trusted : TrustedPeers) (peer : DeviceId) (requiredRole : PeerRole) :
    Except ReadError Unit := do
  let grant ← okOr (trusted.get? peer) .identityMismatch
  refuse grant.revoked .peerRevoked
  refuse (!grant.roles.contains requiredRole) .unselectedProvider

/-! ## Chunks -/

def maxAuthorizedRecords : Nat := 1024
def maxProviderReadBatchRecords : Nat := 32
def maxProviderReadBatchBytes : Nat := 8 * 1024 * 1024 + 4 * 1024

/-- Whether a scope owns a chunk. -/
def authorizeRecord (scope : Scope) (locator : Locator) (store : Store) :
    Except ReadError Unit := do
  match store.references.get? locator with
  | none => throw (.core (.io "open bounded file"))
  | some .torn => throw (.core .authenticationFailed)
  | some (.intact reference _) =>
    refuse (!reference.owners.containsKey scope) (.core .authenticationFailed)

/-- Whether a scope owns chunks that were not named before. -/
def authorizeRecords (scope : Scope) (store : Store) :
    List Locator → List Locator → Except ReadError Unit
  | _, [] => pure ()
  | named, locator :: rest => do
    refuse (named.contains locator) (.core .authenticationFailed)
    authorizeRecord scope locator store
    authorizeRecords scope store (locator :: named) rest

/-- Whether a scope owns every chunk of a batch. -/
def authorizeProviderRecordBatch (scope : Scope) (locators : List Locator) (store : Store) :
    Except ReadError Unit := do
  refuse (locators.isEmpty || decide (maxAuthorizedRecords < locators.length))
    (.core (.resourceLimit "provider read batch"))
  authorizeRecords scope store [] locators

def getProviderRecord (installation : Installation) (locator : Locator) (store : Store) :
    Except ReadError Bytes := do
  let object ← okOr (store.objects.get? (.chunk locator)) (.missingChunk locator)
  refuse (!validRecord object.bytes installation.maximumChunkSize)
    (.core (.invalidState "provider record"))
  pure object.bytes

def containsRecord (locator : Locator) (store : Store) : Bool :=
  store.objects.containsKey (.chunk locator)

/-- The records of a batch, each at its moment, and how many bytes they have so far. -/
def getProviderRecords (installation : Installation) (moment : Locator → Store) :
    Nat → List Locator → Except ReadError (List (Locator × Bytes))
  | _, [] => pure []
  | total, locator :: rest => do
    let record ← getProviderRecord installation locator (moment locator)
    refuse (decide (maxProviderReadBatchBytes < total + record.length))
      (.core (.resourceLimit "provider read batch"))
    let others ← getProviderRecords installation moment (total + record.length) rest
    pure ((locator, record) :: others)

/-! ## Capsules -/

def ownerFeed (owner : DeviceId) : Option BackupId → PageFeed
  | none => .all owner
  | some backup => .backup ⟨owner, backup⟩

/-- Whether a feed has anything on disk. -/
def feedExists (feed : PageFeed) (store : Store) : Bool :=
  store.feeds.containsKey feed || store.pages.keys.any fun slot => slot.feed == feed

/-- Whether a descriptor is on disk that belongs to a feed. -/
def descriptorScopeExists (owner : DeviceId) (backup : Option BackupId) (store : Store) : Bool :=
  store.descriptors.keys.any fun key =>
    key.scope.peerDeviceId == owner && backup.all fun wanted => key.scope.backupId == wanted

def readPageEntry (owner : DeviceId) (backup : Option BackupId) (sequence : Nat) (store : Store) :
    Except ReadError RecoveryCapsuleDescriptor := do
  let descriptor ← okOr (store.pages.get? ⟨ownerFeed owner backup, sequence⟩)
    (.core .authenticationFailed)
  refuse (!validRecoveryCapsuleDescriptor descriptor || descriptor.signerDeviceId != owner ||
    backup.any fun wanted => descriptor.backupId != wanted) (.core .authenticationFailed)
  pure descriptor

/-- The entries of a page, from a position on. -/
def readPageEntries (owner : DeviceId) (backup : Option BackupId) (store : Store) :
    Nat → Nat → Except ReadError (List RecoveryCapsuleDescriptor)
  | _, 0 => pure []
  | sequence, count + 1 => do
    let first ← readPageEntry owner backup sequence store
    let others ← readPageEntries owner backup store (sequence + 1) count
    pure (first :: others)

/-- Where a page begins. -/
def pageStart (feed : PageFeed) : Option PageSlot → Except ReadError Nat
  | none => pure 0
  | some cursor => do
    refuse (cursor.feed != feed) (.core .authenticationFailed)
    okOr (checkedAdd cursor.sequence 1) (.core (.resourceLimit "recovery capsule cursor"))

/-- One page of the descriptors of an owner, and where the next one begins. -/
def listRecoveryCapsuleDescriptorsForOwner (policy : ProviderQuotaPolicy) (owner : DeviceId)
    (backup : Option BackupId) (cursor : Option PageSlot) (limit : Nat) (store : Store) :
    Except ReadError (List RecoveryCapsuleDescriptor × Option PageSlot) := do
  refuse (decide (limit < 1) || decide (128 < limit))
    (.core (.invalidState "invalid recovery capsule descriptor page"))
  let feed := ownerFeed owner backup
  if feedExists feed store then do
    let maximumEntries :=
      if backup.isSome then policy.maximumBackupObjects else policy.maximumPeerObjects
    let nextSequence ← (loadRecoveryCapsulePageState feed maximumEntries store).mapError .core
    let start ← pageStart feed cursor
    refuse (decide (nextSequence < start)) (.core .authenticationFailed)
    let entries ← readPageEntries owner backup store start (min (limit + 1) (nextSequence - start))
    let page := entries.take limit
    pure (page, if limit < entries.length then some ⟨feed, start + (page.length - 1)⟩ else none)
  else do
    refuse (descriptorScopeExists owner backup store) (.core .authenticationFailed)
    pure ([], none)

/-- A part of a capsule: where its descriptor is read, and where the capsule is. -/
def readRecoveryCapsuleSegmentForOwner (key : CapsuleKey) (offset maximumBytes : Nat)
    (described store : Store) : Except ReadError (Bytes × Nat × Digest) := do
  refuse (maximumBytes == 0 || decide (maxRecoveryCapsuleSegmentBytes < maximumBytes))
    (.core (.resourceLimit "recovery capsule segment"))
  refuse (!validIdentifier key.snapshotId) (.core (.invalidState "invalid snapshot id"))
  let descriptor ← okOr (described.descriptors.get? key) (.core .authenticationFailed)
  refuse (descriptor.key != key || decide (descriptor.totalBytes < offset))
    (.core .authenticationFailed)
  let capsule ← okOr (store.objects.get? (.capsule key)) (.core .authenticationFailed)
  refuse (capsule.bytes.length != descriptor.totalBytes) (.core .authenticationFailed)
  let length := min (descriptor.totalBytes - offset) maximumBytes
  pure ((capsule.bytes.drop offset).take length, descriptor.totalBytes, descriptor.capsuleDigest)

variable [Formats]

/-- Whether exactly this capsule is stored. -/
def recoveryCapsuleIsCommittedForOwner (key : CapsuleKey) (totalBytes : Nat)
    (capsuleDigest : Digest) (store : Store) : Except ReadError Bool := do
  refuse (totalBytes == 0 || decide (maxRecoveryCapsuleBytes < totalBytes))
    (.core .authenticationFailed)
  refuse (!validIdentifier key.snapshotId) (.core (.invalidState "invalid snapshot id"))
  match store.descriptors.get? key with
  | none => pure false
  | some descriptor => do
    refuse (descriptor.key != key) (.core .authenticationFailed)
    if descriptor.totalBytes = totalBytes ∧ descriptor.capsuleDigest = capsuleDigest then
      pure (hashObject store (.capsule key) == some (totalBytes, capsuleDigest))
    else pure false

/-! ## Operations -/

/-- What a peer asks to read. -/
inductive Read where
  | getScoped (backup : BackupId) (locator : Locator)
  | getBatch (backup : BackupId) (locators : List Locator)
  | containsScoped (backup : BackupId) (locator : Locator)
  | queryRecoveryCapsule (backup : BackupId) (snapshotId : String) (signer : DeviceId)
      (totalBytes : Nat) (capsuleDigest : Digest)
  | listRecoveryCapsules (backup : Option BackupId) (cursor : Option PageSlot) (limit : Nat)
  | getRecoveryCapsuleSegment (backup : BackupId) (snapshotId : String) (offset : Nat)
      (maximumBytes : Nat)

inductive Reply where
  | scopedRecord (record : Bytes)
  | records (records : List (Locator × Bytes))
  | scopedPresence (present : Bool)
  | recoveryCapsuleStatus (committed : Bool)
  | recoveryCapsuleDescriptors (descriptors : List RecoveryCapsuleDescriptor)
      (nextCursor : Option PageSlot)
  | recoveryCapsuleSegment (segment : Bytes) (totalBytes : Nat) (capsuleDigest : Digest)
deriving DecidableEq

/-- What a peer that the provider trusts is answered: the store when it is authorised,
and the store at the moment of each read. -/
def Read.answer (installation : Installation) (trusted : TrustedPeers) (peer : DeviceId)
    (store : Store) (moment : Locator → Store) (later : Store) : Read → Except ReadError Reply
  | getScoped backup locator => do
    authorizedPeer trusted peer .backupReader
    authorizeProviderRecordBatch ⟨peer, backup⟩ [locator] store
    let record ← getProviderRecord installation locator (moment locator)
    pure (.scopedRecord record)
  | getBatch backup locators => do
    refuse (locators.isEmpty || decide (maxProviderReadBatchRecords < locators.length) ||
      !decide locators.Nodup) (.core (.resourceLimit "provider read batch"))
    authorizedPeer trusted peer .backupReader
    authorizeProviderRecordBatch ⟨peer, backup⟩ locators store
    let records ← getProviderRecords installation moment 0 locators
    pure (.records records)
  | containsScoped backup locator => do
    authorizedPeer trusted peer .backupReader
    authorizeProviderRecordBatch ⟨peer, backup⟩ [locator] store
    pure (.scopedPresence (containsRecord locator (moment locator)))
  | queryRecoveryCapsule backup snapshotId signer totalBytes capsuleDigest => do
    authorizedPeer trusted peer .backupWriter
    let committed ← recoveryCapsuleIsCommittedForOwner ⟨⟨peer, backup⟩, snapshotId⟩ totalBytes
      capsuleDigest store
    refuse (signer != peer) (.core .authenticationFailed)
    pure (.recoveryCapsuleStatus committed)
  | listRecoveryCapsules backup cursor limit => do
    authorizedPeer trusted peer .backupReader
    let (descriptors, nextCursor) ← listRecoveryCapsuleDescriptorsForOwner installation.policy
      peer backup cursor limit store
    pure (.recoveryCapsuleDescriptors descriptors nextCursor)
  | getRecoveryCapsuleSegment backup snapshotId offset maximumBytes => do
    authorizedPeer trusted peer .backupReader
    let (segment, totalBytes, capsuleDigest) ← readRecoveryCapsuleSegmentForOwner
      ⟨⟨peer, backup⟩, snapshotId⟩ offset maximumBytes store later
    pure (.recoveryCapsuleSegment segment totalBytes capsuleDigest)

end Covalent.Provider
