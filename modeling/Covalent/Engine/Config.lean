import Covalent.Provider.Records
import Covalent.Sharing.Snapshot

/-!
# The configuration of an engine

The configuration holds the peers an engine trusts, the backups it remembers and where
its own and its peers' rosters stand.  Every change makes a candidate, checks it as a
whole and then writes it; a change of trust also signs the next roster.

## Design notes

**Encodings.**  JSON, digests and signatures come from elsewhere.  A signature is made by
the holder of an identity and verifies under it; a digest is sixty-four hexadecimal digits.
-/

namespace Covalent.Engine

open Sharing (PeerGrant PeerRole TransportBinding PublicIdentity Primitives fromEncoded isControl
  isWhitespace isLowerHexDigest)

/-! ## Records -/

structure RememberedBackup where
  backupId : BackupId
  name : String
  ownerDeviceId : DeviceId
deriving DecidableEq

structure RememberedBackupState where
  descriptor : RememberedBackup
  keyEpoch : Nat
  latestSnapshotId : Option String
  replicaIntent : ReplicaIntent
deriving DecidableEq

/-- Where the roster chain of a peer stands. -/
structure RosterCursor where
  epoch : Nat
  digest : String
deriving DecidableEq

/-- The watermark of recovery for one backup. -/
structure RecoverySnapshotCursor where
  committedAt : Nat
  snapshotId : String
deriving DecidableEq

structure NodeConfig where
  schemaVersion : Nat
  deviceName : String
  lanDiscoveryEnabled : Bool
  recoveryBootstrapPending : Bool
  recoverySnapshotCursors : BTreeMap BackupId RecoverySnapshotCursor
  rememberedBackups : BTreeMap BackupId RememberedBackupState
  trustedPeers : BTreeMap DeviceId PeerGrant
  trustedPeerTransports : BTreeMap DeviceId TransportBinding
  rosterEpoch : Nat
  rosterDigest : String
  peerRosterCursors : BTreeMap DeviceId RosterCursor
deriving DecidableEq

/-- The grants of a device, signed and chained. -/
structure SignedRoster where
  protocolVersion : Nat
  epoch : Nat
  previousDigest : String
  grants : List PeerGrant
  signerDeviceId : DeviceId
  signature : String

def nodeConfigSchemaVersion : Nat := 1
def settingsSchemaVersion : Nat := 1
def protocolVersion : Nat := 1
def maxRememberedBackups : Nat := 100000
def maxNodeConfigBytes : Nat := 16 * 1024 * 1024
def maxTrustedPeers : Nat := 128

/-- What the engine takes from elsewhere for its configuration. -/
class ConfigFormats where
  /-- The length of the JSON text of a configuration. -/
  configBytes : NodeConfig → Nat
  /-- The digest of a roster. -/
  rosterDigest : SignedRoster → String
  rosterDigest_lowerHex : ∀ roster, isLowerHexDigest (rosterDigest roster) = true
  /-- The signature of the holder of an identity over the other fields of a roster. -/
  signRoster : PublicIdentity → SignedRoster → String
  verifyRosterSignature : PublicIdentity → SignedRoster → Bool
  verify_sign : ∀ (identity : PublicIdentity) (roster : SignedRoster),
    verifyRosterSignature identity
      { roster with signature := signRoster identity { roster with signature := "" } } = true
  /-- The SHA-256 digest of a certificate, in hex. -/
  sha256 : List UInt8 → String

/-! ## Names -/

/-- A text without the blanks at its ends. -/
def trim (text : String) : String :=
  String.ofList ((text.toList.dropWhile isWhitespace).reverse.dropWhile isWhitespace).reverse

/-- Whether a trimmed text is visible, short and without control characters. -/
def validTrimmedName (limit : Nat) (value : String) : Bool :=
  let trimmed := trim value
  !trimmed.isEmpty && decide (trimmed.utf8ByteSize ≤ limit) && !trimmed.toList.any isControl

def validateDeviceName (value : String) : Result Unit :=
  refuse (!validTrimmedName 80 value) (.contract "invalid device name")

def validateBackupName (value : String) : Result Unit :=
  refuse (!validTrimmedName 120 value) (.contract "invalid backup name")

/-- The name in a grant is not trimmed before it is measured. -/
def validGrantName (value : String) : Bool :=
  !(trim value).isEmpty && decide (value.utf8ByteSize ≤ 80) && !value.toList.any isControl

/-! ## Settings -/

/-- The settings that may leave a device. -/
structure ExportedDeviceSettings where
  schemaVersion : Nat
  deviceName : String
  lanDiscoveryEnabled : Bool
  rememberedBackups : List RememberedBackup
deriving DecidableEq

namespace ExportedDeviceSettings

def validate (settings : ExportedDeviceSettings) : Result Unit := do
  refuse (settings.schemaVersion != settingsSchemaVersion) (.contract "unsupported settings schema")
  validateDeviceName settings.deviceName
  refuse (decide (maxRememberedBackups < settings.rememberedBackups.length))
    (.contract "settings too large")
  checkEach (fun backup => validateBackupName backup.name) settings.rememberedBackups
  refuse (!decide (settings.rememberedBackups.map RememberedBackup.backupId).Nodup)
    (.contract "duplicate remembered backup")

end ExportedDeviceSettings

/-- Whether a name, a preference and backups make valid settings. -/
def checkSettings (deviceName : String) (lanDiscoveryEnabled : Bool)
    (rememberedBackups : List RememberedBackup) : Result Unit :=
  ExportedDeviceSettings.validate
    ⟨settingsSchemaVersion, deviceName, lanDiscoveryEnabled, rememberedBackups⟩

/-! ## Peers -/

section Peers

variable [Primitives] [ConfigFormats]

open Sharing.Primitives ConfigFormats

def publicIdentity (grant : PeerGrant) : Result PublicIdentity :=
  okOr (fromEncoded grant.peerDeviceId grant.publicKey) .invalidKeyMaterial

def validateTransportBinding (binding : TransportBinding) (identity : PublicIdentity)
    (expectedName : String) : Result Unit := do
  refuse (binding.peerId != identity.deviceId || binding.displayName != expectedName ||
    decide (128 < binding.address.utf8ByteSize) ||
    decide (128 * 1024 < binding.certificateDer.utf8ByteSize) ||
    binding.certificateFingerprint.utf8ByteSize != 64) .identityMismatch
  let address ← okOr (parseSocketAddr binding.address)
    (.invalidState "invalid paired transport address")
  refuse (address.port == 0 || renderSocketAddr address != binding.address)
    (.invalidState "paired transport address is not canonical")
  let certificate ← okOr (decodeUrlSafe binding.certificateDer) .invalidKeyMaterial
  refuse (certificate.isEmpty || decide (64 * 1024 < certificate.length)) .invalidKeyMaterial
  refuse (sha256 certificate != binding.certificateFingerprint ||
    !isLowerHexDigest binding.certificateFingerprint) .identityMismatch

/-! ## The check -/

def validateRemembered (entry : BackupId × RememberedBackupState) : Result Unit :=
  let (backupId, state) := entry
  refuse (backupId != state.descriptor.backupId || state.keyEpoch == 0 ||
    decide (128 < state.replicaIntent.selectedProviders.len) ||
    state.latestSnapshotId.any (!validIdentifier ·))
    (.invalidState "inconsistent remembered backup")

def validateTrusted (entry : DeviceId × PeerGrant) : Result Unit := do
  let (peerId, grant) := entry
  refuse (peerId != grant.peerDeviceId || !validGrantName grant.displayName)
    (.invalidState "inconsistent trusted peer")
  let _ ← publicIdentity grant
  pure ()

def validateTransport (config : NodeConfig) (entry : DeviceId × TransportBinding) :
    Result Unit := do
  let (peerId, binding) := entry
  let grant ← okOr (config.trustedPeers.get? peerId) (.invalidState "orphaned peer transport")
  refuse (grant.revoked || binding.peerId != peerId)
    (.invalidState "invalid trusted peer transport")
  let identity ← publicIdentity grant
  validateTransportBinding binding identity grant.displayName

def validatePeerCursor (config : NodeConfig) (entry : DeviceId × RosterCursor) : Result Unit :=
  let (signer, cursor) := entry
  refuse (!config.trustedPeers.containsKey signer || cursor.epoch == 0 ||
    !isLowerHexDigest cursor.digest) (.invalidState "invalid peer roster cursor")

/-- Check a configuration as a whole. -/
def NodeConfig.validate (config : NodeConfig) : Result Unit := do
  refuse (config.schemaVersion != nodeConfigSchemaVersion)
    (.invalidState "unsupported node config schema")
  refuse (decide (maxRememberedBackups < config.recoverySnapshotCursors.len) ||
    config.recoverySnapshotCursors.values.any (!validIdentifier ·.snapshotId))
    (.invalidState "invalid recovery snapshot cursor")
  checkSettings config.deviceName config.lanDiscoveryEnabled
    (config.rememberedBackups.values.map RememberedBackupState.descriptor)
  checkEach validateRemembered config.rememberedBackups.entries
  checkEach validateTrusted config.trustedPeers.entries
  checkEach (validateTransport config) config.trustedPeerTransports.entries
  refuse (decide (maxTrustedPeers < config.trustedPeers.len) ||
    decide (maxTrustedPeers < config.trustedPeerTransports.len) ||
    decide (maxTrustedPeers < config.peerRosterCursors.len))
    (.invalidState "excessive trusted peer state")
  refuse ((config.rosterEpoch == 0 && !config.rosterDigest.isEmpty) ||
    (decide (0 < config.rosterEpoch) && !isLowerHexDigest config.rosterDigest))
    (.invalidState "invalid local roster cursor")
  checkEach (validatePeerCursor config) config.peerRosterCursors.entries
  refuse (decide (maxNodeConfigBytes < configBytes config)) (.resourceLimit "node configuration")

/-- A configuration for a device of a name. -/
def NodeConfig.new (deviceName : String) (lanDiscoveryEnabled : Bool) : Result NodeConfig := do
  checkSettings deviceName lanDiscoveryEnabled []
  pure
    { schemaVersion := nodeConfigSchemaVersion
      deviceName := deviceName
      lanDiscoveryEnabled := lanDiscoveryEnabled
      recoveryBootstrapPending := false
      recoverySnapshotCursors := ∅
      rememberedBackups := ∅
      trustedPeers := ∅
      trustedPeerTransports := ∅
      rosterEpoch := 0
      rosterDigest := ""
      peerRosterCursors := ∅ }

/-! ## Rosters -/

/-- Whether a grant may stand in a roster. -/
def validRosterGrant (grant : PeerGrant) : Bool :=
  validGrantName grant.displayName && (fromEncoded grant.peerDeviceId grant.publicKey).isSome

namespace SignedRoster

/-- The next roster of a device; the grants come in the order of the configuration. -/
def build (signer : PublicIdentity) (epoch : Nat) (previousDigest : String)
    (grants : List PeerGrant) : Result SignedRoster := do
  refuse (epoch == 0 || (epoch == 1 && !previousDigest.isEmpty) ||
    (decide (1 < epoch) && !isLowerHexDigest previousDigest) ||
    decide (maxTrustedPeers < grants.length))
    (.invalidState "invalid roster epoch, chain, or grant count")
  refuse (grants.any (!validRosterGrant ·)) (.invalidState "invalid roster grant")
  let unsigned : SignedRoster :=
    ⟨Engine.protocolVersion, epoch, previousDigest, grants, signer.deviceId, ""⟩
  pure { unsigned with signature := signRoster signer unsigned }

end SignedRoster

/-- Whether the devices of grants increase. -/
def grantsIncrease : List PeerGrant → Bool
  | first :: second :: rest =>
    decide (first.peerDeviceId < second.peerDeviceId) && grantsIncrease (second :: rest)
  | _ => true

/-- Check a roster against the place in the chain where it belongs. -/
def verifyRoster (roster : SignedRoster) (signer : PublicIdentity) (highWaterEpoch : Nat)
    (expectedPreviousDigest : String) : Result Unit := do
  refuse (roster.protocolVersion != protocolVersion ||
    roster.epoch != saturatingAdd highWaterEpoch 1 ||
    roster.previousDigest != expectedPreviousDigest || roster.signerDeviceId != signer.deviceId)
    (.invalidState "roster rollback, fork, or signer mismatch")
  refuse (decide (maxTrustedPeers < roster.grants.length) ||
    roster.grants.any (!validRosterGrant ·)) (.invalidState "invalid roster grants")
  refuse (!grantsIncrease roster.grants) (.invalidState "roster grants are not unique and sorted")
  refuse (!verifyRosterSignature signer roster) .authenticationFailed

/-! ## Changes -/

section

variable (config : NodeConfig) (backupId : BackupId)

/-- Trust a peer, with or without a transport. -/
def trustCandidate (grant : PeerGrant) (transport : Option TransportBinding) :
    Result NodeConfig := do
  refuse grant.revoked (.invalidState "new trust grant cannot already be revoked")
  let identity ← publicIdentity grant
  checkEach (validateTransportBinding · identity grant.displayName) transport.toList
  refuse (decide (maxTrustedPeers ≤ config.trustedPeers.len) &&
    !config.trustedPeers.containsKey grant.peerDeviceId) (.resourceLimit "trusted peers")
  pure
    { config with
      trustedPeers := config.trustedPeers.insert grant.peerDeviceId grant
      trustedPeerTransports :=
        match transport with
        | some binding => config.trustedPeerTransports.insert grant.peerDeviceId binding
        | none => config.trustedPeerTransports.erase grant.peerDeviceId }

/-- Revoke a peer. -/
def revokeCandidate (peerId : DeviceId) : Result NodeConfig := do
  let grant ← okOr (config.trustedPeers.get? peerId) .identityMismatch
  pure
    { config with
      trustedPeers := config.trustedPeers.insert peerId { grant with revoked := true }
      trustedPeerTransports := config.trustedPeerTransports.erase peerId }

/-- The next roster, and the configuration that names it. -/
def issueRoster (identity : PublicIdentity) (previous candidate : NodeConfig) :
    Result (SignedRoster × NodeConfig) := do
  let epoch ← okOr (checkedAdd previous.rosterEpoch 1) (.resourceLimit "roster epoch")
  let roster ← SignedRoster.build identity epoch previous.rosterDigest candidate.trustedPeers.values
  let named := { candidate with rosterEpoch := epoch, rosterDigest := rosterDigest roster }
  named.validate
  pure (roster, named)

/-- Follow the roster of a peer. -/
def peerRosterCandidate (roster : SignedRoster) : Result NodeConfig := do
  let grant ← okOr (config.trustedPeers.get? roster.signerDeviceId) .identityMismatch
  refuse grant.revoked .peerRevoked
  let signer ← publicIdentity grant
  let previous := (config.peerRosterCursors.get? roster.signerDeviceId).getD ⟨0, ""⟩
  verifyRoster roster signer previous.epoch previous.digest
  let candidate := { config with
    peerRosterCursors := config.peerRosterCursors.insert roster.signerDeviceId
      ⟨roster.epoch, rosterDigest roster⟩ }
  candidate.validate
  pure candidate

def importedState (descriptor : RememberedBackup) : RememberedBackupState :=
  match config.rememberedBackups.get? descriptor.backupId with
  | some state => { state with descriptor := descriptor }
  | none => ⟨descriptor, 1, none, ⟨∅⟩⟩

/-- Take over settings. -/
def settingsCandidate (imported : ExportedDeviceSettings) (confirmed : Bool) :
    Result NodeConfig := do
  refuse (!confirmed) .settingsImportNotConfirmed
  imported.validate
  let candidate := { config with
    deviceName := imported.deviceName
    lanDiscoveryEnabled := imported.lanDiscoveryEnabled
    rememberedBackups := (∅ : BTreeMap BackupId RememberedBackupState).extendList
      (imported.rememberedBackups.map fun descriptor =>
        (descriptor.backupId, importedState config descriptor)) }
  candidate.validate
  pure candidate

/-- Remember what a backup came to. -/
def rememberCandidate (state : RememberedBackupState) : Result NodeConfig := do
  let candidate := { config with
    rememberedBackups := config.rememberedBackups.insert backupId state }
  candidate.validate
  pure candidate

end

/-- Whether a provider may be selected, connected or written to. -/
def authorizeProvider (config : NodeConfig) (own peerId : DeviceId) : Result Unit :=
  if peerId = own then pure ()
  else do
    let grant ← okOr (config.trustedPeers.get? peerId) .identityMismatch
    refuse grant.revoked .peerRevoked
    refuse (!grant.roles.contains .storageProvider) .unselectedProvider

end Peers

/-! ## A small engine -/

namespace Sample

/-- Texts are their own encodings, and every key has thirty-two bytes. -/
scoped instance primitives : Primitives where
  verify _ _ _ := true
  digestOffer _ := ""
  digestAcceptance _ := ""
  decodeUrlSafe _ := some (List.replicate 32 0)
  encodeUrlSafe _ := ""
  decodeStandard _ := none
  encodeStandard _ := ""
  parseSocketAddr _ := none
  renderSocketAddr _ := ""
  parseUuid _ := none
  renderUuid _ := ""
  keyFingerprint _ := some ""

/-- One of two digits, sixty-four times. -/
def digestText (number : Nat) : String :=
  String.ofList (List.replicate 64 (if number % 2 = 0 then 'a' else 'b'))

/-- Small texts, and digests that tell two successive rosters apart. -/
scoped instance formats : ConfigFormats where
  configBytes _ := 0
  rosterDigest roster := digestText roster.epoch
  rosterDigest_lowerHex roster := by
    unfold digestText
    split <;> decide +kernel
  signRoster _ _ := ""
  verifyRosterSignature _ _ := true
  verify_sign _ _ := rfl
  sha256 _ := ""

def identity : PublicIdentity :=
  ⟨⟨⟨1⟩⟩, "", ""⟩

def grant (number : Nat) : PeerGrant :=
  ⟨⟨⟨number⟩⟩, "", "peer", [.storageProvider], 1, false⟩

/-- A device that trusts one peer. -/
def config : NodeConfig where
  schemaVersion := 1
  deviceName := "device"
  lanDiscoveryEnabled := false
  recoveryBootstrapPending := false
  recoverySnapshotCursors := ∅
  rememberedBackups := ∅
  trustedPeers := (∅ : BTreeMap DeviceId PeerGrant).insert ⟨⟨2⟩⟩ (grant 2)
  trustedPeerTransports := ∅
  rosterEpoch := 1
  rosterDigest := digestText 1
  peerRosterCursors := ∅

end Sample

end Covalent.Engine
