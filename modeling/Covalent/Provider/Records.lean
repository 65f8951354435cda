import Covalent.Base.Durable
import Covalent.Protocol
import Mathlib.Data.Prod.Lex

/-!
# What a storage provider keeps

A provider stores encrypted chunks and recovery capsules for its peers.  A peer
reserves room with a signed lease, uploads under it, and the lease remembers what it
stored and how much of it was new.  This module has the records, the limits and the
directories as one store.

## Design notes

**Typed files.**  A directory is a map from what its file names say to what its files
hold.  A file that was not written by this program is not represented, and neither are
schema versions, which are all current.  A staging file that a crash left behind in a
directory that is read as a whole is a `Stray`; elsewhere nobody ever sees it.

**Auxiliary fields.**  `StoredObject.origin`, `LeaseFile.serial` and
`Store.reservations` record under which reservation an object was created.  No modelled
function reads them.
-/

namespace Covalent.Provider

/-! ## Identifiers -/

abbrev Bytes := List UInt8

/-- A locator of a chunk: sixty-four hexadecimal digits, as the number they denote. -/
structure Locator where
  value : Nat
deriving DecidableEq

instance : LinearOrder Locator :=
  LinearOrder.lift' Locator.value fun left right equal => by
    cases left; cases right; exact congrArg _ equal

/-- A digest: sixty-four hexadecimal digits, as the number they denote. -/
structure Digest where
  value : Nat
deriving DecidableEq

/-- A peer and one of its backups. -/
structure Scope where
  peerDeviceId : DeviceId
  backupId : BackupId
deriving DecidableEq

instance : LinearOrder Scope :=
  LinearOrder.lift' (fun scope => toLex (scope.peerDeviceId, scope.backupId))
    fun left right equal => by
      obtain ⟨peer, backup⟩ := Prod.mk.inj (toLex.injective equal)
      cases left; cases right; simp_all

/-- The name of a lease file: its directories and its stem. -/
structure LeaseKey where
  scope : Scope
  leaseId : String
deriving DecidableEq

instance : LinearOrder LeaseKey :=
  LinearOrder.lift' (fun key => toLex (key.scope, key.leaseId)) fun left right equal => by
      obtain ⟨scope, leaseId⟩ := Prod.mk.inj (toLex.injective equal)
      cases left; cases right; simp_all

/-- The name of a recovery capsule: its owner, the backup and the snapshot. -/
structure CapsuleKey where
  scope : Scope
  snapshotId : String
deriving DecidableEq

instance : LinearOrder CapsuleKey :=
  LinearOrder.lift' (fun key => toLex (key.scope, key.snapshotId)) fun left right equal => by
      obtain ⟨scope, snapshotId⟩ := Prod.mk.inj (toLex.injective equal)
      cases left; cases right; simp_all

/-- What an object is called in a lease.  Capsules had no owner in their key once. -/
inductive ObjectKey where
  | chunk (locator : Locator)
  | capsule (key : CapsuleKey)
  | legacyCapsule (backupId : BackupId) (snapshotId : String)
deriving DecidableEq

/-- The parts of an object key, in the order that tells keys apart. -/
def ObjectKey.parts : ObjectKey → ℕ ×ₗ (Locator ×ₗ (CapsuleKey ×ₗ (BackupId ×ₗ String)))
  | .chunk locator =>
    toLex (0, toLex (locator, toLex (⟨⟨⟨Uuid.nil⟩, ⟨Uuid.nil⟩⟩, ""⟩, toLex (⟨Uuid.nil⟩, ""))))
  | .capsule key => toLex (1, toLex (⟨0⟩, toLex (key, toLex (⟨Uuid.nil⟩, ""))))
  | .legacyCapsule backupId snapshotId =>
    toLex (2, toLex (⟨0⟩, toLex (⟨⟨⟨Uuid.nil⟩, ⟨Uuid.nil⟩⟩, ""⟩, toLex (backupId, snapshotId))))

instance : LinearOrder ObjectKey :=
  LinearOrder.lift' ObjectKey.parts fun left right equal => by
    cases left <;> cases right <;> simp_all [ObjectKey.parts]

/-! ## Errors and limits -/

def maxActiveProviderLeases : Nat := 256
def maxActiveProviderLeasesPerPeer : Nat := 32
def maxRetainedProviderLeases : Nat := 256
def maxRetainedProviderLeasesPerPeer : Nat := 32
def maxRetainedProviderLeaseScopes : Nat := 4096
def maxRetainedProviderLeaseScopesPerPeer : Nat := 256
def maxProviderLeaseStateFiles : Nat := maxActiveProviderLeases + maxRetainedProviderLeases
def maxProviderLeaseStateFilesPerPeer : Nat :=
  maxActiveProviderLeasesPerPeer + maxRetainedProviderLeasesPerPeer
def maxProviderUploadReceiptsPerPeer : Nat := 256
def maxProviderUploadReceiptsPerPeerOnDisk : Nat := maxProviderUploadReceiptsPerPeer + 1
def maxProviderUploadReceiptPeers : Nat := maxRetainedProviderLeaseScopes
def maxProviderUploadJournals : Nat := 1024
def maxProviderCapsuleStagingPeers : Nat := maxRetainedProviderLeaseScopes
def maxProviderCapsuleStagingBackups : Nat := maxRetainedProviderLeaseScopes
def maxProviderCapsuleStagingLeases : Nat := 1024
def maxProviderWriteBatchRecords : Nat := 64
def maxProviderWriteBatchBytes : Nat := 16 * 1024 * 1024
def maxRecoveryCapsuleSegmentBytes : Nat := 4 * 1024 * 1024
def maxRecoveryCapsuleSegments : Nat := 128
def maxRecoveryCapsuleBytes : Nat := 320 * 1024 * 1024

/-- Admission limits of a provider. -/
structure ProviderQuotaPolicy where
  maximumTotalBytes : Nat
  maximumPeerBytes : Nat
  maximumBackupBytes : Nat
  maximumTotalObjects : Nat
  maximumPeerObjects : Nat
  maximumBackupObjects : Nat
  freeSpaceReserveBytes : Nat
  maximumLeaseLifetimeMs : Nat

/-! ## Leases -/

structure StorageLease where
  leaseId : String
  peerDeviceId : DeviceId
  providerDeviceId : DeviceId
  backupId : BackupId
  maxNewBytes : Nat
  maxNewObjects : Nat
  issuedAt : Nat
  expiresAt : Nat
  nonce : String
  signature : String
deriving DecidableEq

namespace StorageLease

def scope (lease : StorageLease) : Scope :=
  ⟨lease.peerDeviceId, lease.backupId⟩

def key (lease : StorageLease) : LeaseKey :=
  ⟨lease.scope, lease.leaseId⟩

end StorageLease

def validProviderLeaseShape (lease : StorageLease) (maximumLifetimeMs : Nat) : Bool :=
  validIdentifier lease.leaseId && lease.maxNewBytes != 0 && lease.maxNewObjects != 0 &&
    decide (lease.issuedAt < lease.expiresAt) &&
    decide (lease.expiresAt - lease.issuedAt ≤ maximumLifetimeMs) && !lease.nonce.isEmpty &&
    decide (lease.nonce.utf8ByteSize ≤ 128) && !lease.signature.isEmpty

/-- The metadata by which a capsule is found and checked. -/
structure RecoveryCapsuleDescriptor where
  backupId : BackupId
  snapshotId : String
  keyEpoch : Nat
  committedAt : Nat
  signerDeviceId : DeviceId
  totalBytes : Nat
  capsuleDigest : Digest
deriving DecidableEq

namespace RecoveryCapsuleDescriptor

def key (descriptor : RecoveryCapsuleDescriptor) : CapsuleKey :=
  ⟨⟨descriptor.signerDeviceId, descriptor.backupId⟩, descriptor.snapshotId⟩

end RecoveryCapsuleDescriptor

def validRecoveryCapsuleDescriptor (descriptor : RecoveryCapsuleDescriptor) : Bool :=
  validIdentifier descriptor.snapshotId && descriptor.keyEpoch != 0 &&
    descriptor.totalBytes != 0 && decide (descriptor.totalBytes ≤ maxRecoveryCapsuleBytes)

/-- A capsule upload in segments, as it was announced. -/
structure RecoveryCapsuleUpload where
  uploadId : String
  lease : StorageLease
  totalBytes : Nat
  totalSegments : Nat
  capsuleDigest : Digest
  descriptor : RecoveryCapsuleDescriptor
  createdAt : Nat
deriving DecidableEq

/-- The reservation of a capsule upload in its lease. -/
structure StagedCapsuleUpload where
  upload : RecoveryCapsuleUpload
  expectedNewObject : Bool
  committedCreated : Option Bool
  completedAt : Option Nat

/-- What a lease has used, and what it stored. -/
structure ProviderLeaseState where
  lease : StorageLease
  consumedNewBytes : Nat
  consumedNewObjects : Nat
  objects : BTreeMap ObjectKey Nat
  deferredReferenceSync : BTreeMap Locator Unit
  stagedCapsuleUpload : Option StagedCapsuleUpload
  cancelled : Bool

/-- A lease on disk, and the reservation it came from. -/
structure LeaseFile where
  state : ProviderLeaseState
  serial : Nat

namespace LeaseFile

def key (file : LeaseFile) : LeaseKey :=
  file.state.lease.key

def scope (file : LeaseFile) : Scope :=
  file.state.lease.scope

/-- Whether a lease may still be used. -/
def activeAt (file : LeaseFile) (now : Nat) : Bool :=
  !file.state.cancelled && decide (now < file.state.lease.expiresAt)

end LeaseFile

/-- What the leases of a scope used that are gone. -/
structure ProviderLeaseUsage where
  consumedNewBytes : Nat
  consumedNewObjects : Nat
deriving DecidableEq

/-- A lease whose use is in the ledger and whose file is to be removed. -/
structure ProviderLeaseCompaction where
  key : LeaseKey
  stateDigest : Digest

structure ProviderLeaseLedger where
  usage : BTreeMap Scope ProviderLeaseUsage
  pendingCompactions : List ProviderLeaseCompaction

/-! ## Uploads -/

/-- Who may read a chunk. -/
structure ProviderObjectReference where
  recordBytes : Nat
  owners : BTreeMap Scope Unit

/-- A reference on disk: it may still be lost, and a loss may leave it unreadable. -/
inductive ReferenceFile where
  | intact (reference : ProviderObjectReference) (durable : Bool)
  | torn

inductive ProviderUploadKind where
  | chunk (locator : Locator)
  | recoveryCapsule (snapshotId : String)
deriving DecidableEq

/-- What an upload writes down before it begins. -/
structure ProviderUploadJournal where
  lease : StorageLease
  objectKey : ObjectKey
  object : ProviderUploadKind
  recordBytes : Nat
  recordDigest : Digest
  recoveryCapsuleDescriptor : Option RecoveryCapsuleDescriptor
  expectedNewObject : Bool
  deferredReferenceCandidate : Bool
  startedAt : Nat
deriving DecidableEq

namespace ProviderUploadJournal

/-- Where the object of an upload is stored. -/
def place (journal : ProviderUploadJournal) : ObjectKey :=
  match journal.object with
  | .chunk locator => .chunk locator
  | .recoveryCapsule snapshotId => .capsule ⟨journal.lease.scope, snapshotId⟩

end ProviderUploadJournal

/-- A journal file: one upload, or a batch. -/
inductive UploadJournal where
  | single (journal : ProviderUploadJournal)
  | batch (uploads : List ProviderUploadJournal)
deriving DecidableEq

def UploadJournal.uploads : UploadJournal → List ProviderUploadJournal
  | .single journal => [journal]
  | .batch uploads => uploads

/-- The result of a capsule upload, kept until its writer confirms it. -/
structure ProviderUploadReceipt where
  lease : StorageLease
  uploadId : String
  created : Bool
  completedAt : Nat
deriving DecidableEq

/-- The name of a receipt. -/
structure ReceiptKey where
  lease : LeaseKey
  uploadId : String
deriving DecidableEq

instance : LinearOrder ReceiptKey :=
  LinearOrder.lift' (fun key => toLex (key.lease, key.uploadId)) fun left right equal => by
      obtain ⟨lease, uploadId⟩ := Prod.mk.inj (toLex.injective equal)
      cases left; cases right; simp_all

structure StagingDirectory where
  metadata : Option RecoveryCapsuleUpload
  segments : Option (BTreeMap Nat Bytes)
  assembled : Option Bytes

/-! ## Pages of descriptors -/

/-- A list of descriptors that peers page through: all capsules of an owner, or those
of one backup. -/
inductive PageFeed where
  | all (owner : DeviceId)
  | backup (scope : Scope)
deriving DecidableEq

/-- The parts of a feed, in the order that tells feeds apart. -/
def PageFeed.parts : PageFeed → ℕ ×ₗ (DeviceId ×ₗ BackupId)
  | .all owner => toLex (0, toLex (owner, ⟨Uuid.nil⟩))
  | .backup scope => toLex (1, toLex (scope.peerDeviceId, scope.backupId))

instance : LinearOrder PageFeed :=
  LinearOrder.lift' PageFeed.parts fun left right equal => by
    rcases left with left | ⟨leftPeer, leftBackup⟩ <;>
      rcases right with right | ⟨rightPeer, rightBackup⟩ <;> simp_all [PageFeed.parts]

/-- One position of a feed. -/
structure PageSlot where
  feed : PageFeed
  sequence : Nat
deriving DecidableEq

instance : LinearOrder PageSlot :=
  LinearOrder.lift' (fun slot => toLex (slot.feed, slot.sequence)) fun left right equal => by
      obtain ⟨feed, sequence⟩ := Prod.mk.inj (toLex.injective equal)
      cases left; cases right; simp_all

/-- Where a descriptor stands in its two feeds. -/
structure RecoveryCapsulePageMarker where
  descriptorDigest : Digest
  allSequence : Nat
  backupSequence : Nat

/-! ## The store -/

/-- A stored file, and the reservation under which it was created. -/
structure StoredObject where
  bytes : Bytes
  origin : Option Nat

/-- A staging file that a crash left in a directory that is read as a whole. -/
inductive Stray where
  | lease (scope : Scope)
  | journal (content : Option UploadJournal)
  | receipt (peer : DeviceId)
  | upload (key : LeaseKey)
  | segments (key : LeaseKey)
  | chunk
deriving DecidableEq

/-- The directories that providers use. -/
structure Store where
  leases : BTreeMap LeaseKey LeaseFile
  ledger : ProviderLeaseLedger
  journals : BTreeMap Uuid UploadJournal
  objects : BTreeMap ObjectKey StoredObject
  references : BTreeMap Locator ReferenceFile
  descriptors : BTreeMap CapsuleKey RecoveryCapsuleDescriptor
  markers : BTreeMap CapsuleKey RecoveryCapsulePageMarker
  pages : BTreeMap PageSlot RecoveryCapsuleDescriptor
  feeds : BTreeMap PageFeed Nat
  staging : BTreeMap LeaseKey StagingDirectory
  receipts : BTreeMap ReceiptKey ProviderUploadReceipt
  strays : List Stray
  reservations : List StorageLease

/-- A store in which nothing was reserved yet. -/
def Store.fresh : Store where
  leases := ∅
  ledger := ⟨∅, []⟩
  journals := ∅
  objects := ∅
  references := ∅
  descriptors := ∅
  markers := ∅
  pages := ∅
  feeds := ∅
  staging := ∅
  receipts := ∅
  strays := []
  reservations := []

/-! ## Formats -/

/-- What the header of a capsule says. -/
structure RecoveryCapsuleHeader where
  backupId : BackupId
  snapshotId : String
  keyEpoch : Nat
  committedAt : Nat
  signerDeviceId : DeviceId

/-- Digests and the capsule format. -/
class Formats where
  /-- The digest of a file. -/
  digest : Bytes → Digest
  /-- The digest of the encoding of a lease. -/
  stateDigest : ProviderLeaseState → Digest
  /-- The digest of the encoding of a descriptor. -/
  descriptorDigest : RecoveryCapsuleDescriptor → Digest
  /-- The header of a capsule file. -/
  parseRecoveryCapsuleHeader : Bytes → Option RecoveryCapsuleHeader
  /-- A header that was read names a real snapshot. -/
  header_snapshotId : ∀ bytes header, parseRecoveryCapsuleHeader bytes = some header →
    validIdentifier header.snapshotId = true

/-- A program over the store. -/
abbrev Action (α : Type) := Durable.Io Store CoreError α

end Covalent.Provider
