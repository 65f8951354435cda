import Covalent.Engine.RecoverySelection

/-!
# The data directory of an engine

An engine keeps its configuration, its rosters, the keys of its backups, snapshots,
transactions and results in one directory.  Every call writes single files one after the
other; a change of rosters and the end of a backup first write down what they are about
to do, and opening the engine again finishes it.

## Design notes

**Files.**  A file is there completely or not at all.  A crash between the creation of a
staging file and its renaming leaves the staging file behind; that is counted in the
directories that are read as a whole and invisible elsewhere.

**Keys in memory.**  The running engine remembers keys it has loaded.  A key file never
changes, so the model reads the file.

**Cancellation.**  A check for cancellation is a write that changes nothing and may fail.

**What a backup finds.**  The scan of the source is an input: its entries, or the reason
why it ended.  Chunks are written before the rest of the backup goes on.
-/

namespace Covalent.Home

open Durable
open Sharing (PeerGrant PeerRole TransportBinding PublicIdentity Primitives fromEncoded
  isLowerHexDigest)
open Backup (Manifest ManifestEntry)
open Engine (BackupKey CapsuleFormats CatalogSelection ConfigFormats ExportedDeviceSettings
  LocatorSet NodeConfig Owner RecoveryCapsule RecoveryCapsulePayload RecoveryProviderDirectoryEntry
  RecoverySnapshotCursor RememberedBackup RememberedBackupState RosterCursor SignedRoster
  StoredSnapshot Visit Candidate Recency authorizeProvider checkSettings chunkLocators collect
  consistentManifest issueRoster manifestLocatorsMatch openWithManifest peerRosterCandidate
  providerIds publicIdentity rememberCandidate retainRecoveryFailure revokeCandidate
  settingsCandidate trustCandidate validateTransportBinding verifyRoster)

/-! ## Records -/

/-- A change of rosters that was begun. -/
inductive PendingRosterCommit where
  | ownRoster (schemaVersion : Nat) (roster : SignedRoster) (config : NodeConfig)
  | peerRoster (schemaVersion : Nat) (roster : SignedRoster) (config : NodeConfig)

/-- The end of a backup that was begun. -/
structure PendingBackupCommit where
  schemaVersion : Nat
  snapshot : StoredSnapshot
  remembered : RememberedBackupState

structure BackupResult where
  manifest : Manifest
  storedSnapshot : StoredSnapshot
  /-- What the providers acknowledged. -/
  acknowledgements : BTreeMap DeviceId (List String)

structure BackupTerminalReceipt where
  schemaVersion : Nat
  jobId : String
  optionsDigest : String
  sourceRootDigest : String
  result : BackupResult
  signature : String

structure BackupOptions where
  backupId : BackupId
  displayName : String
  snapshotId : String
  keyEpoch : Nat
  replicaIntent : ReplicaIntent
  /-- Chunking, exclusions and the policy for links. -/
  scanning : String
  jobId : String
  createdAtUnixMs : Nat

structure RecoveredBackup where
  backupId : BackupId
  snapshotId : String
  sourceProviders : DeviceSet
deriving DecidableEq

structure RecoveryImportReport where
  recoveredBackups : List RecoveredBackup
  queriedProviderIds : DeviceSet
  failures : List ProviderFailure
  newerSnapshotMayExist : Bool
  blocked : Bool

def rosterTransactionSchemaVersion : Nat := 1
def backupTransactionSchemaVersion : Nat := 1
def backupTerminalReceiptSchemaVersion : Nat := 1
def maxRosterTransactionBytes : Nat := 16 * 1024 * 1024 + 1048576
def maxBackupTransactionBytes : Nat := 256 * 1024 * 1024
def maxUnacknowledgedBackupResults : Nat := 8
def maxPendingBackupTransactions : Nat := 64
def maxPersistedBackupKeys : Nat := 4096

/-- What jobs and transactions take from elsewhere. -/
class JobFormats where
  /-- The lengths of the JSON texts of files that are read back with a bound. -/
  rosterTransactionBytes : PendingRosterCommit → Nat
  backupTransactionBytes : PendingBackupCommit → Nat
  receiptBytes : BackupTerminalReceipt → Nat
  /-- The digest of the options that a retry must repeat. -/
  optionsDigest : BackupOptions → String
  optionsDigest_lowerHex : ∀ options, isLowerHexDigest (optionsDigest options) = true
  signReceipt : PublicIdentity → BackupTerminalReceipt → String
  verifyReceipt : PublicIdentity → BackupTerminalReceipt → Bool
  verifyReceipt_sign : ∀ (identity : PublicIdentity) (receipt : BackupTerminalReceipt),
    verifyReceipt identity
      { receipt with signature := signReceipt identity { receipt with signature := "" } } = true

/-- The directory of an engine, and the configuration a running engine holds. -/
structure Files where
  config : Option NodeConfig
  roster : Option SignedRoster
  peerRosters : BTreeMap DeviceId SignedRoster
  rosterTransaction : Option PendingRosterCommit
  keys : BTreeMap BackupId BackupKey
  /-- Staging files that crashes left among the keys. -/
  keyStrays : Nat
  chunks : LocatorSet
  snapshots : BTreeMap (BackupId ×ₗ String) StoredSnapshot
  capsules : BTreeMap (BackupId ×ₗ String) RecoveryCapsule
  receipts : BTreeMap String BackupTerminalReceipt
  receiptStrays : Nat
  /-- The transactions of backups, by the names of their files. -/
  transactions : BTreeMap String PendingBackupCommit
  transactionStrays : Nat
  memory : Option NodeConfig

abbrev Action := Io Files CoreError

/-! ## Single steps -/

def writeFailed : CoreError := .io "commit atomic file"

/-- The configuration a running engine holds. -/
def current : Action NodeConfig :=
  check fun files => okOr files.memory (.invalidState "the engine is closed")

def hold (config : NodeConfig) : Action Unit :=
  assign fun files => { files with memory := some config }

def writeConfig (config : NodeConfig) : Action Unit :=
  act writeFailed (fun files => { files with config := some config }) fun _ files => files

/-- A point at which a job may be cancelled. -/
def controlCheck : Action Unit :=
  act .cancelled id fun _ files => files

/-- The name of a file of the transaction directory. -/
def transactionFile (jobId : String) : String :=
  jobId ++ ".json"

def removeTransaction (file : String) : Action Unit :=
  act (.io "complete backup transaction")
    (fun files => { files with transactions := files.transactions.erase file }) fun _ files => files

/-! ## Rosters -/

namespace PendingRosterCommit

def config : PendingRosterCommit → NodeConfig
  | .ownRoster _ _ config => config
  | .peerRoster _ _ config => config

end PendingRosterCommit

def sameConfigOutsideLocalRoster (left right : NodeConfig) : Bool :=
  left.schemaVersion == right.schemaVersion && left.deviceName == right.deviceName &&
    left.lanDiscoveryEnabled == right.lanDiscoveryEnabled &&
    decide (left.rememberedBackups = right.rememberedBackups) &&
    decide (left.peerRosterCursors = right.peerRosterCursors)

def sameConfigOutsidePeerRosters (left right : NodeConfig) : Bool :=
  left.schemaVersion == right.schemaVersion && left.deviceName == right.deviceName &&
    left.lanDiscoveryEnabled == right.lanDiscoveryEnabled &&
    decide (left.rememberedBackups = right.rememberedBackups) &&
    decide (left.trustedPeers = right.trustedPeers) && left.rosterEpoch == right.rosterEpoch &&
    left.rosterDigest == right.rosterDigest

def validateLocalRosterTransition (current candidate : NodeConfig) (roster : SignedRoster) :
    Result Unit := do
  refuse (!sameConfigOutsideLocalRoster current candidate)
    (.invalidState "roster transaction changes unrelated configuration")
  refuse (decide (current ≠ candidate) && (roster.epoch != saturatingAdd current.rosterEpoch 1 ||
      roster.previousDigest != current.rosterDigest))
    (.invalidState "roster transaction is not the next local epoch")

section Rosters

variable [Primitives] [ConfigFormats] [JobFormats]

open Engine.ConfigFormats JobFormats

/-- Check a roster of this device against a configuration. -/
def validateLocalRoster (roster : SignedRoster) (config : NodeConfig) (identity : PublicIdentity) :
    Result Unit := do
  verifyRoster roster identity (saturatingSub roster.epoch 1) roster.previousDigest
  refuse (roster.epoch != config.rosterEpoch || roster.signerDeviceId != identity.deviceId ||
    rosterDigest roster != config.rosterDigest ||
    decide (roster.grants ≠ config.trustedPeers.values))
    (.invalidState "local roster does not match durable configuration")

def validatePeerRosterTransition (current candidate : NodeConfig) (roster : SignedRoster) :
    Result Unit := do
  refuse (!sameConfigOutsidePeerRosters current candidate)
    (.invalidState "peer roster transaction changes unrelated configuration")
  let grant ← okOr (current.trustedPeers.get? roster.signerDeviceId) .identityMismatch
  refuse grant.revoked .peerRevoked
  let signer ← publicIdentity grant
  let previous := (current.peerRosterCursors.get? roster.signerDeviceId).getD ⟨0, ""⟩
  refuse (decide (candidate.peerRosterCursors.get? roster.signerDeviceId ≠
    some ⟨roster.epoch, rosterDigest roster⟩))
    (.invalidState "peer roster cursor does not match signed roster")
  if current = candidate then
    verifyRoster roster signer (saturatingSub roster.epoch 1) roster.previousDigest
  else verifyRoster roster signer previous.epoch previous.digest

section

variable (identity : PublicIdentity) (plan : NodeConfig → Result NodeConfig)

/-- Check a transaction against the configuration it is to replace. -/
def validateRosterTransaction (current : NodeConfig) (transaction : PendingRosterCommit) :
    Result Unit := do
  transaction.config.validate
  match transaction with
  | .ownRoster version roster candidate => do
    refuse (version != rosterTransactionSchemaVersion)
      (.invalidState "unsupported roster transaction schema")
    validateLocalRoster roster candidate identity
    validateLocalRosterTransition current candidate roster
  | .peerRoster version roster candidate => do
    refuse (version != rosterTransactionSchemaVersion)
      (.invalidState "unsupported roster transaction schema")
    validatePeerRosterTransition current candidate roster

/-- The directory with the roster of a transaction. -/
def Files.withRoster (files : Files) : PendingRosterCommit → Files
  | .ownRoster _ roster _ => { files with roster := some roster }
  | .peerRoster _ roster _ =>
    { files with peerRosters := files.peerRosters.insert roster.signerDeviceId roster }

def applyRosterTransaction (current : NodeConfig) (transaction : PendingRosterCommit) :
    Action Unit := do
  check fun _ => validateRosterTransaction identity current transaction
  act writeFailed (fun files => files.withRoster transaction) fun _ files => files
  writeConfig transaction.config

def removeRosterTransaction : Action Unit :=
  act (.io "complete roster transaction") (fun files => { files with rosterTransaction := none })
    fun _ files => files

def commitRosterTransaction (current : NodeConfig) (transaction : PendingRosterCommit) :
    Action Unit := do
  check fun files => refuse files.rosterTransaction.isSome
    (.invalidState "pending roster transaction requires recovery")
  act writeFailed (fun files => { files with rosterTransaction := some transaction })
    fun _ files => files
  applyRosterTransaction identity current transaction
  removeRosterTransaction

def recoverRosterTransaction (config : NodeConfig) : Action NodeConfig := do
  let pending ← check fun files => pure files.rosterTransaction
  match pending with
  | none => pure config
  | some transaction => do
    check fun _ =>
      refuse (decide (maxRosterTransactionBytes < rosterTransactionBytes transaction))
        (.resourceLimit "persisted file size")
    applyRosterTransaction identity config transaction
    removeRosterTransaction
    pure transaction.config

/-- Change the trusted peers and sign the next roster. -/
def issueRosterLocked : Action SignedRoster := do
  let previous ← current
  let issued ← check fun _ => do
    let changed ← plan previous
    issueRoster identity previous changed
  commitRosterTransaction identity previous
    (.ownRoster rosterTransactionSchemaVersion issued.1 issued.2)
  hold issued.2
  pure issued.1

def trustPeer (grant : PeerGrant) (transport : Option TransportBinding) : Action SignedRoster :=
  issueRosterLocked identity fun config => trustCandidate config grant transport

def revokePeer (peerId : DeviceId) : Action SignedRoster :=
  issueRosterLocked identity fun config => revokeCandidate config peerId

end

omit [ConfigFormats] [JobFormats] in
open Sharing.Primitives in
def validateCandidateAddress (value : String) : Result Unit := do
  let address ← okOr (if value.utf8ByteSize ≤ 128 then parseSocketAddr value else none)
    (.invalidState "invalid peer candidate address")
  refuse (address.port == 0 || address.ambiguous || renderSocketAddr address != value)
    (.invalidState "peer candidate address must be canonical unicast")

/-- The configuration with another address of a trusted peer, unless the peer has it. -/
def addressCandidate (files : Files) (config : NodeConfig) (expectedGrant : PeerGrant)
    (expectedTransport : TransportBinding) (address : String) :
    Result (Option NodeConfig) := do
  validateCandidateAddress address
  let identity ← publicIdentity expectedGrant
  validateTransportBinding expectedTransport identity expectedGrant.displayName
  let replacement := { expectedTransport with address := address }
  let grant ← okOr (config.trustedPeers.get? expectedGrant.peerDeviceId) .identityMismatch
  refuse grant.revoked .peerRevoked
  refuse (decide (grant ≠ expectedGrant) || grant.confirmedAt == 0) .identityMismatch
  refuse files.rosterTransaction.isSome
    (.invalidState "pending roster transaction requires recovery")
  let known ← okOr (config.trustedPeerTransports.get? expectedGrant.peerDeviceId) .identityMismatch
  if known = replacement then pure none
  else do
    refuse (decide (known ≠ expectedTransport)) .identityMismatch
    pure (some { config with
      trustedPeerTransports :=
        config.trustedPeerTransports.insert expectedGrant.peerDeviceId replacement })

/-- Change the address of a trusted peer; `false` when it is the one the peer has. -/
def refreshTrustedPeerAddress (identity : PublicIdentity) (grant : PeerGrant)
    (transport : TransportBinding) (address : String) : Action Bool := do
  let config ← current
  let changed ← check fun files => addressCandidate files config grant transport address
  match changed with
  | none => pure false
  | some candidate => do
    let _ ← issueRosterLocked identity fun _ => pure candidate
    pure true

def acceptPeerRoster (identity : PublicIdentity) (roster : SignedRoster) : Action RosterCursor := do
  let config ← current
  let candidate ← check fun _ => peerRosterCandidate config roster
  commitRosterTransaction identity config
    (.peerRoster rosterTransactionSchemaVersion roster candidate)
  hold candidate
  pure ⟨roster.epoch, rosterDigest roster⟩

end Rosters

/-! ## Snapshots and keys -/

def insertSnapshot (snapshot : StoredSnapshot) : Action Unit :=
  act writeFailed
    (fun files => { files with
      snapshots := files.snapshots.insert (toLex (snapshot.backupId, snapshot.snapshotId))
        snapshot })
    fun _ files => files

/-- Commit the metadata of a snapshot, which never changes afterwards. -/
def commitSnapshotInternal (snapshot : StoredSnapshot) (requireLocalChunks : Bool) :
    Action Unit := do
  let committed ← check fun files => do
    snapshot.validate
    refuse (requireLocalChunks && !snapshot.chunkLocators.keys.all files.chunks.containsKey)
      (.missingChunk "")
    match files.snapshots.get? (toLex (snapshot.backupId, snapshot.snapshotId)) with
    | some existing => do
      refuse (decide (existing ≠ snapshot))
        (.invalidState "snapshot identifier is already immutably committed")
      pure true
    | none => pure false
  if committed then pure () else insertSnapshot snapshot

def commitSnapshot (snapshot : StoredSnapshot) : Action Unit :=
  commitSnapshotInternal snapshot true

def commitRecoverySnapshot (snapshot : StoredSnapshot) : Action Unit :=
  commitSnapshotInternal snapshot false

def loadSnapshot (files : Files) (backupId : BackupId) (snapshotId : String) :
    Result StoredSnapshot := do
  let snapshot ← okOr (files.snapshots.get? (toLex (backupId, snapshotId)))
    (.io "open bounded file without following links")
  snapshot.validate
  refuse (snapshot.backupId != backupId || snapshot.snapshotId != snapshotId) .authenticationFailed
  pure snapshot

def persistBackupKey (backupId : BackupId) (key : BackupKey) : Action Unit :=
  act writeFailed (fun files => { files with keys := files.keys.insert backupId key })
    fun _ files => { files with keyStrays := files.keyStrays + 1 }

def persistOrValidateBackupKey (backupId : BackupId) (key : BackupKey) : Action Unit := do
  let incumbent ← check fun files => pure (files.keys.get? backupId)
  match incumbent with
  | some found => check fun _ => refuse (decide (found ≠ key)) .authenticationFailed
  | none => persistBackupKey backupId key

/-- The key of a backup; a new one is written down first. -/
def loadOrCreateBackupKey (backupId : BackupId) (generated : BackupKey) : Action BackupKey := do
  let incumbent ← check fun files => pure (files.keys.get? backupId)
  match incumbent with
  | some found => pure found
  | none => do
    persistBackupKey backupId generated
    pure generated

/-! ## Settings -/

section Settings

variable [Primitives] [ConfigFormats]

def importSettings (imported : ExportedDeviceSettings) (confirmed : Bool) : Action Unit := do
  let config ← current
  let candidate ← check fun _ => settingsCandidate config imported confirmed
  writeConfig candidate
  hold candidate

def rememberBackupState (backupId : BackupId) (state : RememberedBackupState) : Action Unit := do
  let config ← current
  let candidate ← check fun _ => rememberCandidate config backupId state
  writeConfig candidate
  hold candidate

end Settings

/-! ## Opening -/

section Opening

variable [Primitives] [ConfigFormats] [CapsuleFormats] [JobFormats]

open Engine.CapsuleFormats JobFormats

/-- The settings of a device that remembers one backup, as transactions check them. -/
def checkDescriptor (descriptor : RememberedBackup) : Result Unit :=
  checkSettings "Recovery validation" false [descriptor]

/-- Whether the locators of a manifest belong to a key. -/
def locatorsOfKey (key : BackupKey) (keyEpoch : Nat) (manifest : Manifest) : Bool :=
  manifest.references.all fun reference =>
    expectedChunkLocator key manifest.backupId keyEpoch reference.plaintextDigest ==
      reference.opaqueLocator

section

variable (owner : Owner) (deviceName : String) (lanDiscoveryEnabled : Bool)

def validatePendingBackupCommit (keys : BTreeMap BackupId BackupKey)
    (transaction : PendingBackupCommit) : Result Unit := do
  let snapshot := transaction.snapshot
  let remembered := transaction.remembered
  refuse (transaction.schemaVersion != backupTransactionSchemaVersion ||
    remembered.descriptor.backupId != snapshot.backupId ||
    remembered.descriptor.ownerDeviceId != owner.deviceId ||
    decide (remembered.latestSnapshotId ≠ some snapshot.snapshotId) ||
    remembered.keyEpoch != snapshot.envelope.keyEpoch ||
    snapshot.envelope.signerDeviceId != owner.deviceId)
    (.invalidState "inconsistent backup transaction")
  checkDescriptor remembered.descriptor
  let key ← okOr (keys.get? snapshot.backupId) (.io "inspect backup key file")
  let manifest ← decryptManifest snapshot.envelope key owner.identity
  refuse (manifest.backupId != snapshot.backupId || manifest.snapshotId != snapshot.snapshotId ||
    manifest.createdAtUnixMs != snapshot.committedAtUnixMs ||
    decide (manifest.replicaIntent ≠ remembered.replicaIntent) ||
    !manifestLocatorsMatch manifest snapshot.chunkLocators)
    (.invalidState "backup transaction does not match its authenticated manifest")
  refuse (!locatorsOfKey key snapshot.envelope.keyEpoch manifest)
    (.invalidState "backup transaction locator uses a different key epoch")

/-- Whether a transaction that is found at the start moves a backup on. -/
def shouldAdvance (config : NodeConfig) (transaction : PendingBackupCommit) : Result Bool :=
  match config.rememberedBackups.get? transaction.snapshot.backupId with
  | none => do
    refuse (transaction.remembered.keyEpoch != 1)
      (.invalidState "recovered backup does not begin at key epoch 1")
    pure true
  | some previous => do
    refuse (previous.descriptor.ownerDeviceId != owner.deviceId ||
      decide (transaction.remembered.keyEpoch < previous.keyEpoch))
      (.invalidState "recovered backup violates owner or key epoch")
    match previous.latestSnapshotId with
    | none => pure true
    | some latest =>
      if latest < transaction.snapshot.snapshotId then pure true
      else if transaction.snapshot.snapshotId = latest then do
        refuse (decide (previous ≠ transaction.remembered))
          (.invalidState "recovered backup conflicts with committed config")
        pure false
      else do
        refuse (decide (previous.keyEpoch < transaction.remembered.keyEpoch))
          (.invalidState "stale transaction has a future key epoch")
        pure false

/-- Remember what a transaction says, when it moves the backup on. -/
def advance (config : NodeConfig) (transaction : PendingBackupCommit) (moves : Bool) :
    Action NodeConfig :=
  if moves then do
    let candidate ← check fun _ =>
      rememberCandidate config transaction.snapshot.backupId transaction.remembered
    writeConfig candidate
    pure candidate
  else pure config

def recoverBackupTransaction (config : NodeConfig) (entry : String × PendingBackupCommit) :
    Action NodeConfig := do
  check fun files => do
    refuse (decide (maxBackupTransactionBytes < backupTransactionBytes entry.2))
      (.resourceLimit "persisted file size")
    validatePendingBackupCommit owner files.keys entry.2
  let moves ← check fun _ => shouldAdvance owner config entry.2
  commitSnapshot entry.2.snapshot
  let candidate ← advance config entry.2 moves
  removeTransaction entry.1
  pure candidate

def recoverBackupTransactions (config : NodeConfig) : Action NodeConfig := do
  let entries ← check fun files => do
    refuse (decide (maxPendingBackupTransactions <
      files.transactions.len + files.transactionStrays))
      (.resourceLimit "pending backup transactions")
    refuse (decide (0 < files.transactionStrays))
      (.invalidState "unexpected backup transaction entry")
    pure files.transactions.entries
  loop (recoverBackupTransaction owner) config entries

/-- The configuration on disk, checked and written back, or a new one. -/
def loadOrCreateConfig : Action NodeConfig := do
  let config ← check fun files =>
    match files.config with
    | some found => do
      found.validate
      pure found
    | none => NodeConfig.new deviceName lanDiscoveryEnabled
  writeConfig config
  pure config

/-- Look through the key files. -/
def migrateBackupKeyDirectory : Action Unit :=
  check fun files => do
    refuse (decide (maxPersistedBackupKeys < files.keys.len + files.keyStrays))
      (.resourceLimit "persisted backup keys")
    refuse (decide (0 < files.keyStrays)) (.invalidState "unexpected backup key entry")

/-- Open the engine and finish what was begun. -/
def openEngine : Action NodeConfig := do
  let loaded ← loadOrCreateConfig deviceName lanDiscoveryEnabled
  let config ← recoverRosterTransaction owner.identity loaded
  migrateBackupKeyDirectory
  let recovered ← recoverBackupTransactions owner config
  hold recovered
  pure recovered

end

end Opening

/-! ## Recovery -/

/-- What the watermarks make of a selection. -/
inductive Watermarks where
  /-- What was selected for some backup is older than what is known. -/
  | older (candidate : Candidate)
  | advanced (config : NodeConfig)

/-- The place of a snapshot in the order of imports. -/
def snapshotRecency (snapshot : StoredSnapshot) : Recency :=
  toLex (snapshot.committedAtUnixMs, snapshot.snapshotId)

def cursorRecency (cursor : RecoverySnapshotCursor) : Recency :=
  toLex (cursor.committedAt, cursor.snapshotId)

def rememberedSnapshot (files : Files) (config : NodeConfig) (backupId : BackupId) :
    Result (Option StoredSnapshot) :=
  match (config.rememberedBackups.get? backupId).bind RememberedBackupState.latestSnapshotId with
  | some snapshotId => some <$> loadSnapshot files backupId snapshotId
  | none => pure none

/-- The watermarks of a selection, unless something in it is older than what is known. -/
def planWatermarks (files : Files) :
    NodeConfig → List (BackupId × Candidate) → Result Watermarks
  | config, [] => pure (.advanced config)
  | config, (backupId, candidate) :: rest => do
    let remembered ← rememberedSnapshot files config backupId
    let order := candidate.1.recency
    if (config.recoverySnapshotCursors.get? backupId).any (fun cursor =>
        decide (order < cursorRecency cursor)) ||
        remembered.any (fun previous => decide (order < snapshotRecency previous)) then
      pure (.older candidate)
    else
      planWatermarks files
        { config with
          recoverySnapshotCursors := config.recoverySnapshotCursors.insert backupId
            ⟨candidate.1.committedAtUnixMs, candidate.1.snapshotId⟩ }
        rest

/-- Write the watermarks, if they say anything new. -/
def publishWatermarks (candidate : NodeConfig) : Action Unit := do
  let config ← current
  if candidate = config then pure ()
  else do
    writeConfig candidate
    hold candidate

section Recovery

variable [Primitives] [ConfigFormats] [CapsuleFormats]

section

variable (owner : Owner) (config : NodeConfig) (entry : BackupId × Candidate)

/-- Open a selected capsule once more and check it. -/
def reopen : Result (RecoveryCapsulePayload × Manifest) := do
  let opened ← openWithManifest owner entry.2.1
  let ids := providerIds opened.1.providerDirectory
  refuse (!ids.keys.isEmpty && !entry.2.2.keys.all ids.containsKey) .authenticationFailed
  refuse (!consistentManifest entry.1 opened.1 opened.2) .authenticationFailed
  pure opened

def recoveredState (opened : RecoveryCapsulePayload × Manifest) : RememberedBackupState where
  descriptor := ⟨entry.1, opened.1.backupDisplayName, owner.deviceId⟩
  keyEpoch := entry.2.1.keyEpoch
  latestSnapshotId := some entry.2.1.snapshotId
  replicaIntent := opened.2.replicaIntent

/-- Commit one selected snapshot and its key. -/
def importCandidate : Action NodeConfig := do
  controlCheck
  let opened ← check fun _ => reopen owner entry
  controlCheck
  persistOrValidateBackupKey entry.1 opened.1.backupKey
  commitRecoverySnapshot opened.1.snapshot
  pure { config with
    rememberedBackups := config.rememberedBackups.insert entry.1
      (recoveredState owner entry opened) }

end

/-- The report of an import that published nothing. -/
def blockedReport (queried : DeviceSet) (failures : List ProviderFailure) : RecoveryImportReport :=
  ⟨[], queried, failures, true, true⟩

/-- The failures with those of a candidate that is older than what is known. -/
def olderFailures (failures : List ProviderFailure) (candidate : Candidate) :
    List ProviderFailure :=
  candidate.2.keys.foldl (fun noted providerId => retainRecoveryFailure noted
    ⟨providerId, some candidate.1.snapshotId, "recovery_catalog_older_than_local"⟩) failures

/-- Commit and publish everything that was selected. -/
def publishSelection (owner : Owner) (selection : CatalogSelection) (marked : NodeConfig) :
    Action RecoveryImportReport := do
  controlCheck
  check fun _ => marked.validate
  publishWatermarks marked
  let candidate ← loop (importCandidate owner) marked selection.latest.entries
  controlCheck
  check fun _ => candidate.validate
  writeConfig candidate
  hold candidate
  pure
    { recoveredBackups := selection.latest.entries.map fun entry =>
        ⟨entry.1, entry.2.1.snapshotId, entry.2.2⟩
      queriedProviderIds := selection.queried
      failures := selection.failures
      newerSnapshotMayExist := !selection.failures.isEmpty
      blocked := false }

/-- Ask all providers and publish the latest snapshot of each backup. -/
def importRecoveryCatalogs (owner : Owner) (visits : List Visit) : Action RecoveryImportReport := do
  controlCheck
  let selection ← check fun _ => collect owner visits
  controlCheck
  if selection.blocked then pure (blockedReport selection.queried selection.failures)
  else do
    let config ← current
    let watermarks ← check fun files => planWatermarks files config selection.latest.entries
    match watermarks with
    | .older candidate =>
      pure (blockedReport selection.queried (olderFailures selection.failures candidate))
    | .advanced marked => publishSelection owner selection marked

end Recovery

/-! ## Backups -/

/-- One call of a backup: what it is asked for, and what it meets. -/
structure BackupCall where
  options : BackupOptions
  sourceRootDigest : String
  /-- The key that is made if the backup has none. -/
  generated : BackupKey
  /-- The entries of the source, their chunks without locators, or why scanning or copying
  ended. -/
  scan : Result (List ManifestEntry)
  acknowledgements : BTreeMap DeviceId (List String)
  manifestNonce : String
  capsuleNonce : String

section Backups

variable [Primitives] [ConfigFormats] [CapsuleFormats] [JobFormats]

open Engine.CapsuleFormats JobFormats

section

variable (owner : Owner) (call : BackupCall)

/-- An entry with the locators that its chunks have under a key. -/
def BackupCall.located (key : BackupKey) (entry : ManifestEntry) : ManifestEntry :=
  { entry with
    chunks := entry.chunks.map fun chunk =>
      { chunk with
        opaqueLocator := expectedChunkLocator key call.options.backupId call.options.keyEpoch
          chunk.plaintextDigest } }

/-- The manifest of what a scan found. -/
def BackupCall.manifest (key : BackupKey) (entries : List ManifestEntry) : Manifest where
  protocolVersion := Backup.protocolVersion
  backupId := call.options.backupId
  snapshotId := call.options.snapshotId
  createdAtUnixMs := call.options.createdAtUnixMs
  replicaIntent := call.options.replicaIntent
  entries := entries.map (call.located key)
  providerAcknowledgements := call.acknowledgements

def rememberedBackupState (options : BackupOptions) (owner : DeviceId) :
    Result RememberedBackupState := do
  let descriptor : RememberedBackup := ⟨options.backupId, options.displayName, owner⟩
  checkDescriptor descriptor
  pure ⟨descriptor, options.keyEpoch, some options.snapshotId, options.replicaIntent⟩

def validateBackupTransition (owner : DeviceId) (config : NodeConfig) (options : BackupOptions) :
    Result Unit :=
  match config.rememberedBackups.get? options.backupId with
  | some previous =>
    refuse (previous.descriptor.ownerDeviceId != owner ||
      decide (options.keyEpoch < previous.keyEpoch) ||
      previous.latestSnapshotId.any (fun latest => decide (options.snapshotId ≤ latest)))
      (.invalidState "backup snapshot or key epoch is not monotonic")
  | none =>
    refuse (options.keyEpoch != 1) (.invalidState "a new backup must begin at key epoch 1")

/-- There is room for one more result that was not acknowledged. -/
def ensureReceiptCapacity (files : Files) (jobId : String) : Result Unit := do
  refuse (decide (0 < files.receiptStrays))
    (.invalidState "unexpected backup terminal receipt entry")
  refuse (decide (maxUnacknowledgedBackupResults ≤ files.receipts.len) &&
    !files.receipts.containsKey jobId)
    (.resourceLimit "unacknowledged backup terminal results")

/-- The providers a capsule is to name. -/
def recoveryProviderDirectory (config : NodeConfig) (selected : DeviceSet) :
    List RecoveryProviderDirectoryEntry :=
  config.trustedPeers.entries.filterMap fun entry =>
    if entry.2.revoked || !entry.2.roles.contains .storageProvider ||
        !selected.containsKey entry.1 then none
    else (config.trustedPeerTransports.get? entry.1).map fun transport => ⟨entry.2, transport⟩

def insertCapsule (capsule : RecoveryCapsule) : Action Unit :=
  act writeFailed
    (fun files => { files with
      capsules := files.capsules.insert (toLex (capsule.backupId, capsule.snapshotId)) capsule })
    fun _ files => files

/-- Store the capsule of a snapshot, which never changes afterwards. -/
def putRecoveryCapsule (capsule : RecoveryCapsule) : Action Unit := do
  let stored ← check fun files =>
    match files.capsules.get? (toLex (capsule.backupId, capsule.snapshotId)) with
    | some existing => do
      refuse (decide (existing ≠ capsule))
        (.invalidState "recovery capsule identifier is already immutable")
      pure true
    | none => pure false
  if stored then pure () else insertCapsule capsule

def signedReceipt (result : BackupResult) : BackupTerminalReceipt :=
  let unsigned : BackupTerminalReceipt :=
    ⟨backupTerminalReceiptSchemaVersion, call.options.jobId, optionsDigest call.options,
      call.sourceRootDigest, result, ""⟩
  { unsigned with signature := signReceipt owner.identity unsigned }

def persistBackupTerminalReceipt (result : BackupResult) : Action Unit := do
  check fun files => ensureReceiptCapacity files call.options.jobId
  act writeFailed (fun files => { files with
      receipts := files.receipts.insert call.options.jobId (signedReceipt owner call result) })
    fun _ files => { files with receiptStrays := files.receiptStrays + 1 }

/-- Remove the transaction of a job that is finished. -/
def repairBackupCompletion (jobId : String) : Action Unit :=
  removeTransaction (transactionFile jobId)

def commitBackup (options : BackupOptions) (snapshot : StoredSnapshot)
    (remembered : RememberedBackupState) : Action Unit := do
  act writeFailed (fun files => { files with
      transactions := files.transactions.insert (transactionFile options.jobId)
        ⟨backupTransactionSchemaVersion, snapshot, remembered⟩ })
    fun _ files => { files with transactionStrays := files.transactionStrays + 1 }
  commitSnapshot snapshot
  rememberBackupState options.backupId remembered
  let _ ← (attempt (repairBackupCompletion options.jobId) : Action (Result Unit))
  pure ()

/-- What a backup does when no result of the job is there yet. -/
def runBackup : Action BackupResult := do
  let options := call.options
  let config ← current
  check fun files => do
    ensureReceiptCapacity files options.jobId
    validateBackupTransition owner.deviceId config options
    checkEach (authorizeProvider config owner.deviceId) options.replicaIntent.selectedProviders.keys
  let key ← loadOrCreateBackupKey options.backupId call.generated
  let entries ← check fun _ => call.scan
  let manifest := call.manifest key entries
  act writeFailed (fun files => { files with
      chunks := files.chunks.extend (chunkLocators manifest) })
    fun _ files => files
  let envelope ← check fun _ =>
    encryptManifest manifest options.keyEpoch key owner.identity call.manifestNonce
  let snapshot ← check fun _ => StoredSnapshot.new options.backupId options.snapshotId envelope
    (chunkLocators manifest) options.createdAtUnixMs
  let capsule ← check fun _ => RecoveryCapsule.seal ⟨snapshot, options.displayName, key,
      recoveryProviderDirectory config options.replicaIntent.selectedProviders⟩
    owner call.capsuleNonce
  putRecoveryCapsule capsule
  let remembered ← check fun _ => rememberedBackupState options owner.deviceId
  let result : BackupResult := ⟨manifest, snapshot, call.acknowledgements⟩
  persistBackupTerminalReceipt owner call result
  commitBackup options snapshot remembered
  pure result

/-- Read the result of a job and check who signed it. -/
def readAuthenticatedReceipt (files : Files) (jobId : String) :
    Result (Option BackupTerminalReceipt) := do
  refuse (!validIdentifier jobId) (.invalidState "invalid backup terminal receipt id")
  match files.receipts.get? jobId with
  | none => pure none
  | some receipt => do
    refuse (decide (maxBackupTransactionBytes < receiptBytes receipt) ||
      receipt.schemaVersion != backupTerminalReceiptSchemaVersion ||
      !verifyReceipt owner.identity receipt) .authenticationFailed
    refuse (receipt.jobId != jobId || !isLowerHexDigest receipt.optionsDigest ||
      !isLowerHexDigest receipt.sourceRootDigest ||
      receipt.result.manifest.backupId != receipt.result.storedSnapshot.backupId ||
      receipt.result.manifest.snapshotId != receipt.result.storedSnapshot.snapshotId ||
      decide (receipt.result.manifest.providerAcknowledgements ≠
        receipt.result.acknowledgements)) .authenticationFailed
    pure (some receipt)

/-- Load a snapshot with its manifest and check both. -/
def authenticateSnapshot (files : Files) (config : NodeConfig) (backupId : BackupId)
    (snapshotId : String) (snapshot : StoredSnapshot) : Result Manifest := do
  refuse (snapshot.backupId != backupId || snapshot.snapshotId != snapshotId ||
    snapshot.envelope.backupId != backupId) .authenticationFailed
  let key ← okOr (files.keys.get? backupId) (.io "inspect backup key file")
  let signer ← if snapshot.envelope.signerDeviceId = owner.deviceId then pure owner.identity
    else do
      let grant ← okOr (config.trustedPeers.get? snapshot.envelope.signerDeviceId) .identityMismatch
      refuse grant.revoked .peerRevoked
      publicIdentity grant
  let manifest ← decryptManifest snapshot.envelope key signer
  refuse (manifest.backupId != backupId || manifest.snapshotId != snapshotId ||
    manifest.createdAtUnixMs != snapshot.committedAtUnixMs ||
    !manifestLocatorsMatch manifest snapshot.chunkLocators) .authenticationFailed
  refuse (!locatorsOfKey key snapshot.envelope.keyEpoch manifest) .authenticationFailed
  refuse ((config.rememberedBackups.get? backupId).any fun remembered =>
    decide (remembered.keyEpoch < snapshot.envelope.keyEpoch)) .authenticationFailed
  pure manifest

/-- Whether the result of a job moves its backup on. -/
def receiptAdvances (owner : DeviceId) (config : NodeConfig) (options : BackupOptions)
    (expected : RememberedBackupState) : Result Bool :=
  match config.rememberedBackups.get? options.backupId with
  | none => pure true
  | some previous => do
    refuse (previous.descriptor.ownerDeviceId != owner) .authenticationFailed
    match previous.latestSnapshotId with
    | none => pure true
    | some latest =>
      if latest < options.snapshotId then do
        refuse (decide (expected.keyEpoch < previous.keyEpoch)) .authenticationFailed
        pure true
      else if latest = options.snapshotId then do
        refuse (decide (previous ≠ expected)) .authenticationFailed
        pure false
      else do
        refuse (decide (previous.keyEpoch < expected.keyEpoch)) .authenticationFailed
        pure false

/-- Remember a backup if the result of the job moves it on. -/
def rememberIf (moves : Bool) (backupId : BackupId) (expected : RememberedBackupState) :
    Action Unit :=
  if moves then rememberBackupState backupId expected else pure ()

/-- Finish a job whose result is there. -/
def completeReceipt (receipt : BackupTerminalReceipt) : Action BackupResult := do
  let options := call.options
  let result := receipt.result
  check fun _ => do
    refuse (receipt.optionsDigest != optionsDigest options ||
      receipt.sourceRootDigest != call.sourceRootDigest) .jobConflict
    refuse (result.manifest.backupId != options.backupId ||
      result.manifest.snapshotId != options.snapshotId ||
      result.storedSnapshot.backupId != options.backupId ||
      result.storedSnapshot.snapshotId != options.snapshotId) .authenticationFailed
  commitSnapshot result.storedSnapshot
  let config ← current
  let expected ← check fun _ => rememberedBackupState options owner.deviceId
  let moves ← check fun _ => receiptAdvances owner.deviceId config options expected
  rememberIf moves options.backupId expected
  let latest ← current
  check fun files => do
    let stored ← loadSnapshot files options.backupId options.snapshotId
    refuse (decide (stored ≠ result.storedSnapshot)) .authenticationFailed
    let manifest ← authenticateSnapshot owner files latest options.backupId options.snapshotId
      stored
    refuse (decide (manifest ≠ result.manifest)) .authenticationFailed
  pure result

/-- Run a backup job, or return the result it had. -/
def backup : Action BackupResult := do
  let receipt ← check fun files => readAuthenticatedReceipt owner files call.options.jobId
  match receipt with
  | some found => do
    let result ← completeReceipt owner call found
    let _ ← (attempt (repairBackupCompletion call.options.jobId) : Action (Result Unit))
    pure result
  | none => runBackup owner call

/-- Forget the result of a job. -/
def acknowledgeBackupResult (jobId : String) : Action Unit := do
  let receipt ← check fun files => readAuthenticatedReceipt owner files jobId
  match receipt with
  | none => pure ()
  | some _ =>
    act (.io "acknowledge backup terminal result")
      (fun files => { files with receipts := files.receipts.erase jobId }) fun _ files => files

end

end Backups

/-! ## A small engine -/

namespace Sample

open Engine.Sample

/-- Small texts, and signatures that are not looked at. -/
scoped instance jobFormats : JobFormats where
  rosterTransactionBytes _ := 0
  backupTransactionBytes _ := 0
  receiptBytes _ := 0
  optionsDigest _ := digestText 0
  optionsDigest_lowerHex _ := by decide +kernel
  signReceipt _ _ := ""
  verifyReceipt _ _ := true
  verifyReceipt_sign _ _ := rfl

/-- An engine that was opened and has no backups. -/
def files : Files where
  config := some config
  roster := none
  peerRosters := ∅
  rosterTransaction := none
  keys := ∅
  keyStrays := 0
  chunks := ∅
  snapshots := ∅
  capsules := ∅
  receipts := ∅
  receiptStrays := 0
  transactions := ∅
  transactionStrays := 0
  memory := some config

end Sample

end Covalent.Home
