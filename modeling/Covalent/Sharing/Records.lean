import Covalent.Base.Result
import Covalent.Protocol

/-!
# Signed folder-sharing records

The three records two devices exchange before a folder is shared: the source's
offer, the target's acceptance of exactly that offer, and the source's commit to
exactly that acceptance.  Each is checked for its shape, then for its signature,
and only then compared with the identities the caller trusts.

## Design notes

**Signed text.**  A signature is made over a domain and the JSON text of the
signed fields.  The encoding of these plain records never fails and is one to
one, so the fields themselves stand for the bytes, one constructor of
`SigningFields` for each domain.

**Machine integers.**  Times are numbers of milliseconds below `2 ^ 64`; the
additions the source checks are checked here, the saturating ones saturate.
-/

namespace Covalent.Sharing

/-! ## Text -/

/-- The Unicode `White_Space` property, which `str::trim` strips. -/
def isWhitespace (character : Char) : Bool :=
  let code := character.toNat
  (9 ≤ code && code ≤ 13) || code == 0x20 || code == 0x85 || code == 0xa0 || code == 0x1680 ||
    (0x2000 ≤ code && code ≤ 0x200a) || code == 0x2028 || code == 0x2029 || code == 0x202f ||
    code == 0x205f || code == 0x3000

/-- The Unicode `Cc` category, `char::is_control`. -/
def isControl (character : Char) : Bool :=
  let code := character.toNat
  code < 0x20 || (0x7f ≤ code && code < 0xa0)

/-- Whether nothing is left of a text once it is trimmed. -/
def trimsToEmpty (text : String) : Bool :=
  text.toList.all isWhitespace

/-! ## Devices and addresses -/

/-- An IP address, as its bits. -/
inductive IpAddr where
  | v4 (bits : BitVec 32)
  | v6 (bits : BitVec 128)
deriving DecidableEq

namespace IpAddr

def isUnspecified : IpAddr → Bool
  | .v4 bits => bits == 0
  | .v6 bits => bits == 0

def isMulticast : IpAddr → Bool
  | .v4 bits => bits >>> 28 == 0xe
  | .v6 bits => bits >>> 120 == 0xff

def isBroadcast : IpAddr → Bool
  | .v4 bits => bits == 0xffffffff
  | .v6 _ => false

/-- An IPv6 link-local address means different hosts on different interfaces. -/
def isUnicastLinkLocal : IpAddr → Bool
  | .v4 _ => false
  | .v6 bits => (bits >>> 112) &&& 0xffc0 == 0xfe80

end IpAddr

/-- A socket address; scope and flow are zero for IPv4. -/
structure SocketAddr where
  ip : IpAddr
  port : Nat
  flowinfo : Nat
  scopeId : Nat
deriving DecidableEq

namespace SocketAddr

def isIpv4 (address : SocketAddr) : Bool :=
  match address.ip with
  | .v4 _ => true
  | .v6 _ => false

/-- Whether a numeric address fails to name one reachable host. -/
def ambiguous (address : SocketAddr) : Bool :=
  address.ip.isUnspecified || address.ip.isMulticast || address.ip.isBroadcast ||
    address.ip.isUnicastLinkLocal || address.scopeId != 0 || address.flowinfo != 0

end SocketAddr

/-! ## Engine identities -/

/-- The characters of a folder-sync engine identity. -/
def engineLuhnAlphabet : List Char :=
  "ABCDEFGHIJKLMNOPQRSTUVWXYZ234567".toList

/-- The check character of one block of an engine identity. -/
def engineLuhn32 (block : List Char) : Option Char := do
  let codepoints ← block.mapM engineLuhnAlphabet.idxOf?
  let (_, sum) := codepoints.foldl (fun (factor, sum) codepoint =>
      (if factor = 2 then 1 else 2,
        sum + (factor * codepoint / 32 + factor * codepoint % 32))) (1, 0)
  engineLuhnAlphabet[(32 - sum % 32) % 32]?

/-- Four blocks of fourteen characters, the last of each being its check. -/
def engineBlocks (unchunked : List Char) : List (List Char) :=
  [0, 1, 2, 3].map fun position => (unchunked.drop (14 * position)).take 14

/-- Whether a text is a canonical engine identity: eight groups of seven
characters, four correct check characters, and no spare bits set. -/
def isCanonicalEngineId (value : String) : Bool :=
  let groups := value.toList.splitOn '-'
  let unchunked := groups.flatten
  let payload := (engineBlocks unchunked).flatMap (List.take 13)
  value.utf8ByteSize == 63 && groups.all (fun group => (String.ofList group).utf8ByteSize == 7) &&
    unchunked.all engineLuhnAlphabet.contains && unchunked.length == 56 &&
    (engineBlocks unchunked).all (fun block => engineLuhn32 (block.take 13) == block[13]?) &&
    !payload.all (· == 'A') && (payload.getLast? == some 'A' || payload.getLast? == some 'Q')

/-- Canonical public identity of a folder-sync engine; only a canonical text is
one. -/
structure SyncEngineDeviceId where
  text : String
  canonical : isCanonicalEngineId text = true
deriving DecidableEq

/-- Read an engine identity. -/
def SyncEngineDeviceId.parse (value : String) : Option SyncEngineDeviceId :=
  if canonical : isCanonicalEngineId value = true then some ⟨value, canonical⟩ else none

/-- Fixed validation failures of a public engine binding. -/
inductive SyncEngineBindingError where
  | invalidDeviceId
  | missingSshPublicKey
  | invalidSshPublicKey
  | invalidEndpoint
  | invalidOwner
  | unsupportedSchema

/-- Public engine identity and direct endpoint bound to one Covalent device. -/
structure SyncEngineBinding where
  schemaVersion : Nat
  covalentDeviceId : DeviceId
  engineDeviceId : SyncEngineDeviceId
  sshPublicKey : Option String
  directAddress : String
deriving DecidableEq

/-! ## Identities and signed fields -/

/-- The public half of a device identity. -/
structure PublicIdentity where
  deviceId : DeviceId
  publicKey : String
  fingerprint : String
deriving DecidableEq

/-- Deletion choices shared by all destinations of a one-way link. -/
structure FolderLinkPolicy where
  propagateSourceDeletions : Bool := false
  restoreLocalDeletions : Bool := false
deriving DecidableEq

/-- Source-signed invitation to share one folder with one exact device.  Without
a link policy it is a historical two-way offer. -/
structure FolderShareOffer where
  schemaVersion : Nat
  offerId : Uuid
  folderId : Uuid
  label : String
  sourceDeviceId : DeviceId
  targetDeviceId : DeviceId
  sourceEngine : SyncEngineBinding
  linkPolicy : Option FolderLinkPolicy
  pairingId : Option String
  issuedAt : Nat
  expiresAt : Nat
  nonce : String
  signature : String
deriving DecidableEq

/-- Target-signed acceptance of the offer with the given digest. -/
structure FolderShareAcceptance where
  schemaVersion : Nat
  offerDigest : String
  targetDeviceId : DeviceId
  targetEngine : SyncEngineBinding
  acceptedAt : Nat
  signature : String
deriving DecidableEq

/-- Source-signed commitment to one exact offer and acceptance. -/
structure FolderShareCommit where
  schemaVersion : Nat
  sourceDeviceId : DeviceId
  offerDigest : String
  acceptanceDigest : String
  signature : String
deriving DecidableEq

/-- What a signature covers: the record without its signature, under the domain
of its kind. -/
inductive SigningFields where
  | offer (unsigned : FolderShareOffer)
  | acceptance (unsigned : FolderShareAcceptance)
  | commit (unsigned : FolderShareCommit)

def FolderShareOffer.signingFields (offer : FolderShareOffer) : SigningFields :=
  .offer { offer with signature := "" }

def FolderShareAcceptance.signingFields (acceptance : FolderShareAcceptance) : SigningFields :=
  .acceptance { acceptance with signature := "" }

def FolderShareCommit.signingFields (commit : FolderShareCommit) : SigningFields :=
  .commit { commit with signature := "" }

/-- The functions of other crates and of the standard library this code calls. -/
class Primitives where
  /-- Ed25519 verification under the key of an identity. -/
  verify : PublicIdentity → SigningFields → String → Bool
  /-- BLAKE3 of a whole signed offer, in lowercase hex. -/
  digestOffer : FolderShareOffer → String
  /-- BLAKE3 of a whole signed acceptance, in lowercase hex. -/
  digestAcceptance : FolderShareAcceptance → String
  decodeUrlSafe : String → Option (List UInt8)
  encodeUrlSafe : List UInt8 → String
  decodeStandard : String → Option (List UInt8)
  encodeStandard : List UInt8 → String
  parseSocketAddr : String → Option SocketAddr
  renderSocketAddr : SocketAddr → String
  parseUuid : String → Option Uuid
  renderUuid : Uuid → String
  /-- `VerifyingKey::from_bytes` and the fingerprint of the key. -/
  keyFingerprint : List UInt8 → Option String

variable [Primitives]

open Primitives

def fromEncoded (deviceId : DeviceId) (publicKey : String) : Option PublicIdentity := do
  let bytes ← decodeUrlSafe publicKey
  if bytes.length != 32 then none
  else
    let fingerprint ← keyFingerprint bytes
    some ⟨deviceId, publicKey, fingerprint⟩

theorem fromEncoded_deviceId {deviceId : DeviceId} {publicKey : String}
    {identity : PublicIdentity} (decoded : fromEncoded deviceId publicKey = some identity) :
    identity.deviceId = deviceId := by
  simp only [fromEncoded, Option.bind_eq_bind, Option.bind_eq_some_iff] at decoded
  obtain ⟨bytes, _, decoded⟩ := decoded
  split at decoded
  · cases decoded
  · obtain ⟨fingerprint, _, decoded⟩ := Option.bind_eq_some_iff.mp decoded
    cases decoded
    rfl

/-! ## Engine bindings -/

/-- The fixed head of an SSH Ed25519 wire blob. -/
def sshEd25519Head : List UInt8 :=
  [0, 0, 0, 11] ++ "ssh-ed25519".toList.map (fun character => UInt8.ofNat character.toNat) ++
    [0, 0, 0, 32]

/-- Whether a text is one canonical SSH Ed25519 wire blob. -/
def isSshEd25519Wire (value : String) : Bool :=
  match decodeStandard value with
  | none => false
  | some decoded =>
    decoded.length == sshEd25519Head.length + 32 && sshEd25519Head.isPrefixOf decoded &&
      encodeStandard decoded == value

/-- Read a direct endpoint: one unambiguous canonical socket address. -/
def validateSyncEngineEndpoint (value : String) : Option SocketAddr :=
  if value.utf8ByteSize == 0 || value.utf8ByteSize > 96 || value.toList.any isControl then none
  else
    match parseSocketAddr value with
    | none => none
    | some address =>
      if renderSocketAddr address != value || address.port == 0 || address.ambiguous then none
      else some address

namespace SyncEngineBinding

/-- Revalidate a decoded binding. -/
def validate (binding : SyncEngineBinding) : Except SyncEngineBindingError SocketAddr := do
  refuse (binding.schemaVersion != 1) .unsupportedSchema
  refuse (binding.covalentDeviceId == DeviceId.nil) .invalidOwner
  let _ ← okOr (SyncEngineDeviceId.parse binding.engineDeviceId.text) .invalidDeviceId
  refuse (binding.sshPublicKey.any (fun key => !isSshEd25519Wire key)) .invalidSshPublicKey
  okOr (validateSyncEngineEndpoint binding.directAddress) .invalidEndpoint

/-- The address of a binding that passes its own check. -/
def address? (binding : SyncEngineBinding) : Option SocketAddr :=
  binding.validate.toOption

/-- Whether a binding passes its own check. -/
def isValid (binding : SyncEngineBinding) : Bool :=
  binding.address?.isSome

/-- Construct a current binding that names its transfer key. -/
def newAuthenticated (covalentDeviceId : DeviceId) (engineDeviceId sshPublicKey : String)
    (directAddress : String) : Except SyncEngineBindingError SyncEngineBinding := do
  refuse (covalentDeviceId == DeviceId.nil) .invalidOwner
  let engineDeviceId ← okOr (SyncEngineDeviceId.parse engineDeviceId) .invalidDeviceId
  let _ ← okOr (validateSyncEngineEndpoint directAddress) .invalidEndpoint
  refuse (!isSshEd25519Wire sshPublicKey) .invalidSshPublicKey
  pure ⟨1, covalentDeviceId, engineDeviceId, some sshPublicKey, directAddress⟩

/-- The authenticated transfer key; legacy bindings have none. -/
def requireSshPublicKey (binding : SyncEngineBinding) : Except SyncEngineBindingError String := do
  let key ← okOr binding.sshPublicKey .missingSshPublicKey
  refuse (!isSshEd25519Wire key) .invalidSshPublicKey
  pure key

end SyncEngineBinding

/-- Two bindings of one engine of one device, possibly at different addresses. -/
def sameEngineIdentity (left right : SyncEngineBinding) : Bool :=
  left.isValid && right.isValid && left.covalentDeviceId == right.covalentDeviceId &&
    left.engineDeviceId == right.engineDeviceId

/-! ## Record shapes -/

/-- Fixed failures of signed record processing. -/
inductive FolderSharingError where
  | invalidRecord
  | invalidEngineBinding
  | wrongPeer
  | invalidSignature
  | notFresh
  | entropyUnavailable

/-- Tolerated difference between the clocks of two devices. -/
def maxClockSkewMs : Nat := 5 * 60 * 1000

/-- Longest interval during which an invitation may be accepted. -/
def maxFolderShareLifetimeMs : Nat := 15 * 60 * 1000

/-- Whether a text is the canonical base64url text of so many bytes. -/
def isCanonicalBase64 (value : String) (decodedLen : Nat) (nonzero : Bool) : Bool :=
  if value.utf8ByteSize > 128 then false
  else
    match decodeUrlSafe value with
    | none => false
    | some decoded =>
      decoded.length == decodedLen && (!nonzero || decoded.any (· != 0)) &&
        encodeUrlSafe decoded == value

def isLowerHexDigest (value : String) : Bool :=
  value.utf8ByteSize == 64 && value.toList.all fun character =>
      ('0' ≤ character && character ≤ '9') || ('a' ≤ character && character ≤ 'f')

/-- A label is visible, short and without control characters. -/
def isValidLabel (value : String) : Bool :=
  !trimsToEmpty value && value.utf8ByteSize ≤ 256 && !value.toList.any isControl

def validateLabel (value : String) : Except FolderSharingError Unit :=
  refuse (!isValidLabel value) .invalidRecord

def validatePairingId (value : Option String) : Except FolderSharingError Unit :=
  refuse (value.any fun text =>
    text.utf8ByteSize == 0 || text.utf8ByteSize > 128 || !isCanonicalBase64 text 16 true)
    .invalidRecord

def validateBinding (binding : SyncEngineBinding) (expectedOwner : DeviceId) :
    Except FolderSharingError Unit :=
  refuse (!binding.isValid || binding.covalentDeviceId != expectedOwner) .invalidEngineBinding

/-- A signature field is a signature exactly when one is required. -/
def signaturePresent (signature : String) (requireSignature : Bool) : Bool :=
  if requireSignature then isCanonicalBase64 signature 64 false else signature.isEmpty

/-- The schema of an offer tells whether it carries a link policy. -/
def expectedSchemaVersion (linkPolicy : Option FolderLinkPolicy) : Nat :=
  if linkPolicy.isSome then 2 else 1

section

variable (offer : FolderShareOffer) (acceptance : FolderShareAcceptance)
  (commit : FolderShareCommit) (trustedSource trustedTarget : PublicIdentity)

def validateOfferShape (requireSignature : Bool) : Except FolderSharingError Unit := do
  validateLabel offer.label
  validatePairingId offer.pairingId
  validateBinding offer.sourceEngine offer.sourceDeviceId
  refuse (offer.schemaVersion != expectedSchemaVersion offer.linkPolicy ||
    offer.offerId.isNil || offer.folderId.isNil || offer.sourceDeviceId == DeviceId.nil ||
    offer.targetDeviceId == DeviceId.nil || offer.sourceDeviceId == offer.targetDeviceId ||
    offer.issuedAt == 0 || decide (offer.expiresAt ≤ offer.issuedAt) ||
    decide (maxFolderShareLifetimeMs < offer.expiresAt - offer.issuedAt) ||
    !isCanonicalBase64 offer.nonce 24 true ||
    !signaturePresent offer.signature requireSignature) .invalidRecord

/-- The digest of an entire signed offer. -/
def folderShareOfferDigest : Except FolderSharingError String := do
  validateOfferShape offer true
  pure (digestOffer offer)

def validateAcceptanceShape (requireSignature : Bool) : Except FolderSharingError Unit := do
  validateBinding acceptance.targetEngine acceptance.targetDeviceId
  refuse (acceptance.schemaVersion != offer.schemaVersion || acceptance.acceptedAt == 0 ||
    decide (offer.expiresAt ≤ acceptance.acceptedAt) ||
    decide (saturatingAdd acceptance.acceptedAt maxClockSkewMs < offer.issuedAt) ||
    !isLowerHexDigest acceptance.offerDigest) .invalidRecord
  let digest ← folderShareOfferDigest offer
  refuse (acceptance.offerDigest != digest ||
    !signaturePresent acceptance.signature requireSignature) .invalidRecord

/-- The digest of an entire signed acceptance. -/
def folderShareAcceptanceDigest : Except FolderSharingError String := do
  validateAcceptanceShape offer acceptance true
  pure (digestAcceptance acceptance)

def validateCommitShape (requireSignature : Bool) : Except FolderSharingError Unit := do
  refuse (commit.schemaVersion != offer.schemaVersion ||
    !isLowerHexDigest commit.offerDigest || !isLowerHexDigest commit.acceptanceDigest)
    .invalidRecord
  let offerDigest ← folderShareOfferDigest offer
  refuse (commit.offerDigest != offerDigest) .invalidRecord
  let acceptanceDigest ← folderShareAcceptanceDigest offer acceptance
  refuse (commit.acceptanceDigest != acceptanceDigest ||
    !signaturePresent commit.signature requireSignature) .invalidRecord

/-! ## Verification -/

def verifySignature (identity : PublicIdentity) (fields : SigningFields) (signature : String) :
    Except FolderSharingError Unit :=
  refuse (!verify identity fields signature) .invalidSignature

/-- Durable check of an offer, without its expiry. -/
def verifyFolderShareOffer (trustedSource : PublicIdentity) (expectedTarget : DeviceId) :
    Except FolderSharingError Unit := do
  validateOfferShape offer true
  verifySignature trustedSource offer.signingFields offer.signature
  refuse (trustedSource.deviceId != offer.sourceDeviceId ||
    expectedTarget != offer.targetDeviceId) .wrongPeer

def validateFreshOfferTime (now : Nat) : Except FolderSharingError Unit :=
  refuse (now == 0 || decide (offer.expiresAt ≤ now) ||
    decide (saturatingAdd now maxClockSkewMs < offer.issuedAt)) .notFresh

/-- Check of an offer at intake, within its acceptance window. -/
def verifyFreshFolderShareOffer (trustedSource : PublicIdentity) (expectedTarget : DeviceId)
    (now : Nat) : Except FolderSharingError Unit := do
  verifyFolderShareOffer offer trustedSource expectedTarget
  validateFreshOfferTime offer now

/-- Durable check of an acceptance of an offer. -/
def verifyFolderShareAcceptance : Except FolderSharingError Unit := do
  verifyFolderShareOffer offer trustedSource offer.targetDeviceId
  validateAcceptanceShape offer acceptance true
  verifySignature trustedTarget acceptance.signingFields acceptance.signature
  refuse (acceptance.targetDeviceId != trustedTarget.deviceId ||
    offer.targetDeviceId != trustedTarget.deviceId) .wrongPeer

/-- Check of an acceptance at intake, within the window of its offer. -/
def verifyFreshFolderShareAcceptance (now : Nat) : Except FolderSharingError Unit := do
  verifyFolderShareAcceptance offer acceptance trustedSource trustedTarget
  validateFreshOfferTime offer now
  refuse (decide (saturatingAdd now maxClockSkewMs < acceptance.acceptedAt)) .notFresh

/-- Durable check of the complete three-record commitment. -/
def verifyFolderShareCommit : Except FolderSharingError Unit := do
  verifyFolderShareAcceptance offer acceptance trustedSource trustedTarget
  validateCommitShape offer acceptance commit true
  verifySignature trustedSource commit.signingFields commit.signature
  refuse (commit.sourceDeviceId != trustedSource.deviceId) .wrongPeer

end

/-! ## Signing -/

/-- A device identity: its public half and its signing key in use. -/
structure DeviceIdentity where
  publicIdentity : PublicIdentity
  sign : SigningFields → String

namespace DeviceIdentity

def deviceId (identity : DeviceIdentity) : DeviceId :=
  identity.publicIdentity.deviceId

end DeviceIdentity

/-- What the operating system's generator returned for one offer: a random
identifier and the bytes of a nonce. -/
structure OfferEntropy where
  offerId : Uuid
  nonce : List UInt8

/-- Create a source-signed, expiring invitation. -/
def createFolderShareOfferWithPolicy (source : DeviceIdentity) (targetDeviceId : DeviceId)
    (folderId : Uuid) (label : String) (sourceEngine : SyncEngineBinding)
    (pairingId : Option String) (now lifetime : Nat) (linkPolicy : Option FolderLinkPolicy)
    (entropy : Option OfferEntropy) : Except FolderSharingError FolderShareOffer := do
  validateLabel label
  validatePairingId pairingId
  validateBinding sourceEngine source.deviceId
  refuse (source.deviceId == targetDeviceId || targetDeviceId == DeviceId.nil || folderId.isNil ||
    now == 0 || lifetime == 0 || decide (maxFolderShareLifetimeMs < lifetime)) .invalidRecord
  let expiresAt ← okOr (checkedAdd now lifetime) .invalidRecord
  let random ← okOr entropy .entropyUnavailable
  let unsigned : FolderShareOffer :=
    { schemaVersion := expectedSchemaVersion linkPolicy
      offerId := random.offerId
      folderId := folderId
      label := label
      sourceDeviceId := source.deviceId
      targetDeviceId := targetDeviceId
      sourceEngine := sourceEngine
      linkPolicy := linkPolicy
      pairingId := pairingId
      issuedAt := now
      expiresAt := expiresAt
      nonce := encodeUrlSafe random.nonce
      signature := "" }
  validateOfferShape unsigned false
  let offer := { unsigned with signature := source.sign unsigned.signingFields }
  validateOfferShape offer true
  pure offer

/-- Sign a target acceptance after verifying a still fresh offer. -/
def acceptFolderShareOffer (offer : FolderShareOffer) (trustedSource : PublicIdentity)
    (target : DeviceIdentity) (targetEngine : SyncEngineBinding) (now : Nat) :
    Except FolderSharingError FolderShareAcceptance := do
  verifyFreshFolderShareOffer offer trustedSource target.deviceId now
  validateBinding targetEngine target.deviceId
  let offerDigest ← folderShareOfferDigest offer
  let unsigned : FolderShareAcceptance :=
    ⟨offer.schemaVersion, offerDigest, target.deviceId, targetEngine, now, ""⟩
  validateAcceptanceShape offer unsigned false
  let acceptance := { unsigned with signature := target.sign unsigned.signingFields }
  validateAcceptanceShape offer acceptance true
  pure acceptance

/-- Create the source's final signed commitment to one fresh acceptance. -/
def commitFolderShare (offer : FolderShareOffer) (acceptance : FolderShareAcceptance)
    (source : DeviceIdentity) (trustedTarget : PublicIdentity) (now : Nat) :
    Except FolderSharingError FolderShareCommit := do
  verifyFreshFolderShareAcceptance offer acceptance source.publicIdentity trustedTarget now
  let offerDigest ← folderShareOfferDigest offer
  let acceptanceDigest ← folderShareAcceptanceDigest offer acceptance
  let unsigned : FolderShareCommit :=
    ⟨offer.schemaVersion, source.deviceId, offerDigest, acceptanceDigest, ""⟩
  validateCommitShape offer acceptance unsigned false
  let commit := { unsigned with signature := source.sign unsigned.signingFields }
  validateCommitShape offer acceptance commit true
  pure commit

/-! ## What verification establishes -/

/-- A verified offer goes from the trusted source to the expected target. -/
theorem verifyFolderShareOffer_parties {offer : FolderShareOffer}
    {trustedSource : PublicIdentity} {expectedTarget : DeviceId}
    (verified : verifyFolderShareOffer offer trustedSource expectedTarget = .ok ()) :
    validateOfferShape offer true = .ok () ∧ offer.sourceDeviceId = trustedSource.deviceId ∧
      offer.targetDeviceId = expectedTarget := by
  simp only [verifyFolderShareOffer, bind_eq_ok, refuse_eq_ok, Bool.or_eq_false_iff,
    bne_eq_false_iff_eq] at verified
  obtain ⟨_, shaped, _, _, source, target⟩ := verified
  exact ⟨shaped, source.symm, target.symm⟩

end Covalent.Sharing
