import Covalent.Backup.Manifest
import Covalent.Engine.Config

/-!
# Snapshots and their recovery capsules

A snapshot names the chunks of a backup at one time and carries its manifest, encrypted
and signed.  A recovery capsule encloses a snapshot with the key of its backup for the
holder of a recovery master, and is given to the providers of the backup.

## Design notes

**Randomness.**  A nonce is an input of whatever uses it.
-/

namespace Covalent.Engine

open Sharing (PeerGrant PeerRole TransportBinding PublicIdentity Primitives fromEncoded isControl
  isLowerHexDigest)
open Provider (maxRecoveryCapsuleBytes)
open Backup (Manifest)

/-! ## Records -/

structure BackupKey where
  bytes : List UInt8
deriving DecidableEq

structure RecoveryMaster where
  bytes : List UInt8

/-- Who recovers: an identity and the master its capsules are sealed for. -/
structure Owner where
  identity : PublicIdentity
  master : RecoveryMaster

namespace Owner

def deviceId (owner : Owner) : DeviceId :=
  owner.identity.deviceId

end Owner

abbrev LocatorSet := BTreeMap String Unit

structure ManifestEnvelope where
  backupId : BackupId
  keyEpoch : Nat
  signerDeviceId : DeviceId
  nonce : String
  ciphertext : String
  signature : String
deriving DecidableEq

structure StoredSnapshot where
  schemaVersion : Nat
  backupId : BackupId
  snapshotId : String
  envelope : ManifestEnvelope
  chunkLocators : LocatorSet
  committedAtUnixMs : Nat
deriving DecidableEq

/-- A provider as it is remembered in a capsule or a kit. -/
structure RecoveryProviderDirectoryEntry where
  grant : PeerGrant
  transport : TransportBinding
deriving DecidableEq

structure RecoveryCapsulePayload where
  snapshot : StoredSnapshot
  backupDisplayName : String
  backupKey : BackupKey
  providerDirectory : List RecoveryProviderDirectoryEntry
deriving DecidableEq

structure RecoveryCapsule where
  schemaVersion : Nat
  cipherSuite : String
  backupId : BackupId
  snapshotId : String
  keyEpoch : Nat
  committedAtUnixMs : Nat
  nonce : String
  ciphertext : String
  signerDeviceId : DeviceId
  signature : String
deriving DecidableEq

def snapshotSchemaVersion : Nat := 1
def recoveryCapsuleSchemaVersion : Nat := 1
def recoveryCipherSuite : String := "XCHACHA20-POLY1305-HKDF-SHA256"

/-- What snapshots and capsules take from elsewhere. -/
class CapsuleFormats where
  /-- The envelope of a manifest: its epoch, its key, its signer and a nonce. -/
  encryptManifest : Manifest → Nat → BackupKey → PublicIdentity → String →
    Result ManifestEnvelope
  decryptManifest : ManifestEnvelope → BackupKey → PublicIdentity → Result Manifest
  /-- The signature of the holder of an identity over the other fields of a capsule. -/
  signCapsule : PublicIdentity → RecoveryCapsule → String
  verifyCapsule : PublicIdentity → RecoveryCapsule → Bool
  verifyCapsule_sign : ∀ (identity : PublicIdentity) (capsule : RecoveryCapsule),
    verifyCapsule identity
      { capsule with signature := signCapsule identity { capsule with signature := "" } } = true
  /-- The length of the JSON text of a payload. -/
  payloadBytes : RecoveryCapsulePayload → Nat
  decodeNonce : String → Result Unit
  /-- Base64 for URLs, without padding. -/
  decodeBase64 : String → Option (List UInt8)
  /-- The ciphertext of a payload under the header and the nonce of a capsule. -/
  encryptPayload : RecoveryMaster → RecoveryCapsule → RecoveryCapsulePayload →
    Result String
  decryptPayload : RecoveryMaster → RecoveryCapsule → List UInt8 →
    Result RecoveryCapsulePayload
  /-- A ciphertext is as long as what it encloses and a tag of 16 bytes, and it is read back. -/
  decrypt_encryptPayload : ∀ {master : RecoveryMaster} {capsule : RecoveryCapsule}
    {payload : RecoveryCapsulePayload} {ciphertext : String},
    encryptPayload master capsule payload = .ok ciphertext →
      decodeNonce capsule.nonce = .ok () ∧ ∃ bytes, decodeBase64 ciphertext = some bytes ∧
        bytes.length = payloadBytes payload + 16 ∧ ciphertext.utf8ByteSize ≤ 2 * bytes.length ∧
        ∀ signature, decryptPayload master
          { capsule with ciphertext := ciphertext, signature := signature } bytes = .ok payload
  /-- The digest of the JSON text of a capsule. -/
  capsuleDigest : RecoveryCapsule → String
  /-- The locator of a chunk under a key. -/
  expectedChunkLocator : BackupKey → BackupId → Nat → String → String

/-! ## Snapshots -/

def validateSnapshotId (value : String) : Result Unit :=
  refuse (!validIdentifier value) (.invalidState "invalid snapshot id")

def validateHexLocators (locators : LocatorSet) : Result Unit :=
  refuse (!locators.keys.all isLowerHexDigest) (.invalidState "invalid chunk locator")

namespace StoredSnapshot

def new (backupId : BackupId) (snapshotId : String) (envelope : ManifestEnvelope)
    (chunkLocators : LocatorSet) (committedAtUnixMs : Nat) : Result StoredSnapshot := do
  validateSnapshotId snapshotId
  refuse (envelope.backupId != backupId) (.invalidState "snapshot envelope backup mismatch")
  validateHexLocators chunkLocators
  pure ⟨snapshotSchemaVersion, backupId, snapshotId, envelope, chunkLocators, committedAtUnixMs⟩

def validate (snapshot : StoredSnapshot) : Result Unit := do
  refuse (snapshot.schemaVersion != snapshotSchemaVersion ||
    snapshot.envelope.backupId != snapshot.backupId)
    (.invalidState "unsupported or inconsistent snapshot metadata")
  validateSnapshotId snapshot.snapshotId
  validateHexLocators snapshot.chunkLocators

end StoredSnapshot

/-- The locators a manifest refers to. -/
def chunkLocators (manifest : Manifest) : LocatorSet :=
  (∅ : LocatorSet).extendList (manifest.locators.map fun locator => (locator, ()))

/-- Whether a manifest refers to exactly the locators of its snapshot. -/
def manifestLocatorsMatch (manifest : Manifest) (expected : LocatorSet) : Bool :=
  decide (chunkLocators manifest = expected)

/-! ## Capsules -/

def validateBackupDisplayName (value : String) : Result Unit :=
  refuse ((trim value).isEmpty || decide (120 < value.utf8ByteSize) || value.toList.any isControl)
    (.invalidState "invalid recovery backup display name")

def providerIds (directory : List RecoveryProviderDirectoryEntry) : DeviceSet :=
  (∅ : DeviceSet).extendList (directory.map fun entry => (entry.grant.peerDeviceId, ()))

section Capsules

open CapsuleFormats

section

variable [CapsuleFormats]

/-- Decode a text of which no more than `maximum` bytes may come. -/
def decodeBounded (value : String) (maximum : Nat) : Result (List UInt8) := do
  refuse (decide (2 * maximum < value.utf8ByteSize)) (.resourceLimit "recovery envelope")
  let decoded ← okOr (decodeBase64 value) .invalidKeyMaterial
  refuse (decide (maximum < decoded.length)) (.resourceLimit "recovery envelope")
  pure decoded

theorem decodeBounded_eq {value : String} (maximum : Nat) {bytes : List UInt8}
    (decoded : decodeBase64 value = some bytes) (short : value.utf8ByteSize ≤ 2 * bytes.length) :
    decodeBounded value maximum =
      if bytes.length ≤ maximum then .ok bytes
      else .error (.resourceLimit "recovery envelope") := by
  unfold decodeBounded
  rw [decoded]
  split_ifs with fits
  · have within : ¬2 * maximum < value.utf8ByteSize := by omega
    have bounded : ¬maximum < bytes.length := by omega
    simp [within, bounded, refuse, okOr, bind, Except.bind, pure, Except.pure]
  · by_cases within : 2 * maximum < value.utf8ByteSize
    · simp [within, refuse, bind, Except.bind]
    · simp [within, not_le.mp fits, refuse, okOr, bind, Except.bind]

end

variable [Primitives] [ConfigFormats] [CapsuleFormats]

def validateDirectoryEntry (entry : RecoveryProviderDirectoryEntry) : Result Unit := do
  refuse (entry.grant.revoked || !entry.grant.roles.contains .storageProvider ||
    entry.transport.peerId != entry.grant.peerDeviceId)
    (.invalidState "invalid recovery provider directory")
  let identity ← publicIdentity entry.grant
  validateTransportBinding entry.transport identity entry.grant.displayName

def validateProviderDirectory (entries : List RecoveryProviderDirectoryEntry) : Result Unit := do
  refuse (decide (128 < entries.length)) (.resourceLimit "recovery provider directory")
  refuse (!decide (entries.map fun entry => entry.grant.peerDeviceId).Nodup)
    (.invalidState "invalid recovery provider directory")
  checkEach validateDirectoryEntry entries

namespace RecoveryCapsule

def verifySignature (capsule : RecoveryCapsule) (owner : PublicIdentity) : Result Unit := do
  refuse (capsule.schemaVersion != recoveryCapsuleSchemaVersion ||
    capsule.cipherSuite != recoveryCipherSuite) (.invalidState "unsupported cipher suite")
  refuse (capsule.signerDeviceId != owner.deviceId) .identityMismatch
  refuse (!verifyCapsule owner capsule) .authenticationFailed

/-- The capsule of a snapshot before anything is enclosed. -/
def header (snapshot : StoredSnapshot) (owner : Owner) (nonce : String) : RecoveryCapsule where
  schemaVersion := recoveryCapsuleSchemaVersion
  cipherSuite := recoveryCipherSuite
  backupId := snapshot.backupId
  snapshotId := snapshot.snapshotId
  keyEpoch := snapshot.envelope.keyEpoch
  committedAtUnixMs := snapshot.committedAtUnixMs
  nonce := nonce
  ciphertext := ""
  signerDeviceId := owner.deviceId
  signature := ""

/-- The capsule of a snapshot with its ciphertext, signed by its owner. -/
def enclosed (snapshot : StoredSnapshot) (owner : Owner) (nonce ciphertext : String) :
    RecoveryCapsule :=
  let capsule := { header snapshot owner nonce with ciphertext := ciphertext }
  { capsule with signature := signCapsule owner.identity capsule }

/-- Enclose a snapshot for the holder of a master. -/
def «seal» (payload : RecoveryCapsulePayload) (owner : Owner) (nonce : String) :
    Result RecoveryCapsule := do
  refuse (payload.snapshot.envelope.signerDeviceId != owner.deviceId) .identityMismatch
  validateBackupDisplayName payload.backupDisplayName
  validateProviderDirectory payload.providerDirectory
  refuse (decide (maxRecoveryCapsuleBytes < payloadBytes payload))
    (.resourceLimit "recovery capsule")
  let ciphertext ← encryptPayload owner.master (header payload.snapshot owner nonce) payload
  pure (enclosed payload.snapshot owner nonce ciphertext)

/-- Read a capsule; what it encloses must be what its header says. -/
def «open» (capsule : RecoveryCapsule) (owner : Owner) : Result RecoveryCapsulePayload := do
  capsule.verifySignature owner.identity
  decodeNonce capsule.nonce
  let bytes ← decodeBounded capsule.ciphertext maxRecoveryCapsuleBytes
  let payload ← decryptPayload owner.master capsule bytes
  validateProviderDirectory payload.providerDirectory
  refuse (payload.snapshot.backupId != capsule.backupId ||
    payload.snapshot.snapshotId != capsule.snapshotId ||
    payload.snapshot.envelope.keyEpoch != capsule.keyEpoch ||
    payload.snapshot.committedAtUnixMs != capsule.committedAtUnixMs ||
    payload.snapshot.envelope.signerDeviceId != capsule.signerDeviceId) .authenticationFailed
  validateBackupDisplayName payload.backupDisplayName
  pure payload

end RecoveryCapsule

omit [Primitives] [ConfigFormats] in
/-- What was sealed bears the signature of its owner. -/
theorem verifySignature_enclosed (snapshot : StoredSnapshot) (owner : Owner)
    (nonce ciphertext : String) :
    (RecoveryCapsule.enclosed snapshot owner nonce ciphertext).verifySignature owner.identity =
      .ok () := by
  have verified := verifyCapsule_sign owner.identity
    { RecoveryCapsule.header snapshot owner nonce with ciphertext := ciphertext }
  simp only [RecoveryCapsule.verifySignature, bind_eq_ok, exists_unit, refuse_eq_ok,
    Bool.or_eq_false_iff, bne_eq_false_iff_eq, Bool.not_eq_eq_eq_not, Bool.not_false]
  exact ⟨⟨rfl, rfl⟩, rfl, verified⟩

/-- **What was sealed can be opened, up to 16 bytes below the limit.**  Sealing bounds the text
of the payload and opening bounds the ciphertext, which is longer by its tag: a payload within
16 bytes of the limit is sealed and its capsule cannot be opened. -/
theorem open_seal {payload : RecoveryCapsulePayload} {owner : Owner} {nonce : String}
    {capsule : RecoveryCapsule} (made : RecoveryCapsule.seal payload owner nonce = .ok capsule) :
    capsule.open owner =
      if payloadBytes payload + 16 ≤ maxRecoveryCapsuleBytes then .ok payload
      else .error (.resourceLimit "recovery envelope") := by
  simp only [RecoveryCapsule.seal, bind_eq_ok, exists_unit, refuse_eq_ok,
    bne_eq_false_iff_eq, pure_eq_ok] at made
  obtain ⟨signed, named, listed, -, ciphertext, encrypted, rfl⟩ := made
  obtain ⟨nonceRead, bytes, decoded, length, short, decrypted⟩ := decrypt_encryptPayload encrypted
  generalize written : RecoveryCapsule.enclosed payload.snapshot owner nonce ciphertext = capsule
  have attributed : capsule.verifySignature owner.identity = .ok () :=
    written ▸ verifySignature_enclosed ..
  have nonceRead : decodeNonce capsule.nonce = .ok () := written ▸ nonceRead
  have bounded : decodeBounded capsule.ciphertext maxRecoveryCapsuleBytes =
      if payloadBytes payload + 16 ≤ maxRecoveryCapsuleBytes then .ok bytes
      else .error (.resourceLimit "recovery envelope") := by
    rw [← length, ← written]
    exact decodeBounded_eq _ decoded short
  unfold RecoveryCapsule.open
  rw [attributed, nonceRead, bounded]
  split_ifs with fits
  · simp only [bind_eq_ok, exists_unit, refuse_eq_ok, Bool.or_eq_false_iff, bne_eq_false_iff_eq,
      pure_eq_ok]
    rw [← written]
    refine ⟨trivial, trivial, bytes, rfl, payload, decrypted _, listed, ?_, named, rfl⟩
    exact ⟨⟨⟨⟨rfl, rfl⟩, rfl⟩, rfl⟩, signed⟩
  · rfl

/-! ## What a capsule is worth -/

/-- What a capsule from a provider is to the one who recovers. -/
inductive Evidence where
  /-- It cannot be attributed to the owner, or not to this provider. -/
  | unattributed
  /-- The owner signed it and it cannot be used. -/
  | unusable
  /-- It is authentic and consistent. -/
  | authenticated
deriving DecidableEq

/-- Whether a manifest is that of the capsule it came with. -/
def consistentManifest (backupId : BackupId) (payload : RecoveryCapsulePayload)
    (manifest : Manifest) : Bool :=
  let ids := providerIds payload.providerDirectory
  (ids.keys.isEmpty || decide (ids = manifest.replicaIntent.selectedProviders)) &&
    manifest.backupId == backupId && manifest.snapshotId == payload.snapshot.snapshotId &&
    manifest.createdAtUnixMs == payload.snapshot.committedAtUnixMs &&
    manifestLocatorsMatch manifest payload.snapshot.chunkLocators

/-- A capsule opened, with its manifest. -/
def openWithManifest (owner : Owner) (capsule : RecoveryCapsule) :
    Result (RecoveryCapsulePayload × Manifest) := do
  let payload ← capsule.open owner
  let manifest ← decryptManifest payload.snapshot.envelope payload.backupKey owner.identity
  pure (payload, manifest)

/-- What a device makes of a capsule that a provider hands it. -/
def examine (owner : Owner) (provider : DeviceId) (capsule : RecoveryCapsule) : Evidence :=
  match capsule.verifySignature owner.identity, openWithManifest owner capsule with
  | .error _, _ => .unattributed
  | .ok _, .error _ => .unusable
  | .ok _, .ok (payload, manifest) =>
    let ids := providerIds payload.providerDirectory
    if !consistentManifest capsule.backupId payload manifest then .unusable
    else if !ids.keys.isEmpty && !ids.containsKey provider then .unattributed
    else .authenticated

end Capsules

/-! ## Small backups -/

namespace Sample

def owner : Owner := ⟨identity, ⟨[]⟩⟩
def backupId : BackupId := ⟨⟨7⟩⟩
def backupKey : BackupKey := ⟨[]⟩

section

variable (snapshotId : String) (time : Nat)

/-- The manifest of a snapshot without chunks. -/
def manifest : Manifest :=
  ⟨1, backupId, snapshotId, time, ⟨∅⟩, [], ∅⟩

/-- An envelope that spells out what it holds; the time is the length of the signature. -/
def envelope : ManifestEnvelope :=
  ⟨backupId, 1, identity.deviceId, "", snapshotId, String.ofList (List.replicate time 't')⟩

def snapshot : StoredSnapshot :=
  ⟨1, backupId, snapshotId, envelope snapshotId time, ∅, time⟩

def payload : RecoveryCapsulePayload :=
  ⟨snapshot snapshotId time, "backup", backupKey, []⟩

end

/-- A ciphertext of nothing but its tag. -/
def tagText : String := "AAAAAAAAAAAAAAAAAAAAAA"

/-- Only the snapshots above can be encrypted. -/
scoped instance capsuleFormats : CapsuleFormats where
  encryptManifest contents epoch _ signer nonce :=
    if contents = manifest contents.snapshotId contents.createdAtUnixMs then
      .ok ⟨contents.backupId, epoch, signer.deviceId, nonce, contents.snapshotId,
        String.ofList (List.replicate contents.createdAtUnixMs 't')⟩
    else .error .invalidKeyMaterial
  decryptManifest sealed _ _ := .ok (manifest sealed.ciphertext sealed.signature.toList.length)
  signCapsule _ _ := ""
  verifyCapsule _ _ := true
  verifyCapsule_sign _ _ := rfl
  payloadBytes _ := 0
  decodeNonce _ := .ok ()
  decodeBase64 text := if text = tagText then some (List.replicate 16 0) else none
  encryptPayload _ capsule contents :=
    if contents = payload capsule.snapshotId capsule.committedAtUnixMs then .ok tagText
    else .error .invalidKeyMaterial
  decryptPayload _ capsule _ := .ok (payload capsule.snapshotId capsule.committedAtUnixMs)
  decrypt_encryptPayload := by
    intro master capsule contents ciphertext encrypted
    split_ifs at encrypted with known
    obtain rfl := Except.ok.inj encrypted
    refine ⟨rfl, List.replicate 16 0, rfl, rfl, by decide, fun _ => ?_⟩
    rw [known]
  capsuleDigest capsule := capsule.snapshotId
  expectedChunkLocator _ _ _ digest := digest

def capsule (snapshotId : String) (time : Nat) : RecoveryCapsule :=
  { RecoveryCapsule.header (snapshot snapshotId time) owner "" with ciphertext := tagText }

theorem capsule_opens : (capsule "a" 1).open owner = .ok (payload "a" 1) :=
  @open_seal _ _ _ (payload "a" 1) owner "" _ (by decide +kernel)

end Sample

end Covalent.Engine
