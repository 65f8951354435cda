import Covalent.Sharing.LinkRuns

/-!
# Checking a whole snapshot

`validateSnapshot` is run before every replacement of the durable snapshot and on
every snapshot read back.  It fixes the parties, the signatures, the uniqueness of
offer identifiers over shares and refusals, the agreement of the shares of one
folder, and every limit.

## Design notes

**Accumulators.**  The loops of the source fill sets and maps as they go and
compare each item with what was filled so far.  `checkInOrder` hands the passed
items to the body instead; a map that must agree with its last writer agrees with
all of them, because each of those passed the same check.
-/

namespace Covalent.Sharing

variable [Primitives]

open Primitives

/-- One installation: its identity, its engine, its transfer key and its private
directory. -/
structure Node where
  identity : DeviceIdentity
  engineDeviceId : SyncEngineDeviceId
  sshPublicKey : Option String
  root : String

namespace Node

def deviceId (node : Node) : DeviceId :=
  node.identity.deviceId

def publicIdentity (node : Node) : PublicIdentity :=
  node.identity.publicIdentity

end Node

/-! ## Paths -/

/-- The components of a path: empty ones and inner dots do not count. -/
def pathComponents (path : String) : List String :=
  let parts := (path.toList.splitOn '/').map String.ofList
  let named := parts.filter fun part => part != "" && part != "."
  if parts.head? == some "." then "." :: named else named

def pathIsAbsolute (path : String) : Bool :=
  path.toList.head? == some '/'

/-- Whether a path lies in a directory, by components. -/
def pathStartsWith (path directory : String) : Bool :=
  pathIsAbsolute path == pathIsAbsolute directory &&
    (pathComponents directory).isPrefixOf (pathComponents path)

/-- The head of the token that stands for an Android folder grant. -/
def tokenHead : String := "covalent-saf:"

/-- Read a path as an Android grant token: `some none` for an ordinary path, `none`
for a token that is not canonical. -/
def parseToken (path : String) : Option (Option Uuid) :=
  if tokenHead.toList.isPrefixOf path.toList then
    let value := String.ofList (path.toList.drop tokenHead.length)
    match parseUuid value with
    | none => none
    | some grantId => if grantId.isNil || value != renderUuid grantId then none else some grantId
  else some none

def sameRoot (left right : LocalRoot) : Bool :=
  left.path == right.path && left.device == right.device && left.inode == right.inode

section

variable (node : Node) (snapshot : Snapshot)

/-- Whether a root may be used at all: a grant by its token, or an ordinary folder
apart from the installation. -/
def rootIsSound (root : LocalRoot) (grant : Option Uuid) : Bool :=
  grant == root.grantId && (!grant.isSome || (root.device == 0 && root.inode == 0)) &&
    (grant.isSome || (pathIsAbsolute root.path && root.path.utf8ByteSize ≤ 4096 &&
      !(pathComponents root.path).contains ".." && !pathStartsWith root.path node.root &&
      !pathStartsWith node.root root.path))

/-! ## Routes -/

/-- Whether a text is one unambiguous canonical address. -/
def validRoute (value : String) : Bool :=
  match (if value.utf8ByteSize ≤ 128 then parseSocketAddr value else none) with
  | none => false
  | some address =>
    address.port != 0 && !address.ambiguous && renderSocketAddr address == value

def sameTransportIdentity (left right : TransportBinding) : Bool :=
  left.peerId == right.peerId && left.displayName == right.displayName &&
    left.certificateDer == right.certificateDer &&
    left.certificateFingerprint == right.certificateFingerprint

/-- The engine that a share binds to its peer, once it is known. -/
def Share.historicalEngine (share : Share) (owner : DeviceId) : Option SyncEngineBinding :=
  if share.offer.sourceDeviceId == owner then share.acceptance.map fun accepted =>
    accepted.targetEngine
  else some share.offer.sourceEngine

/-- The engine a peer used in the first share that tells. -/
def historicalPeerEngine (owner peer : DeviceId) : Option SyncEngineDeviceId :=
  snapshot.shares.findSome? fun share =>
    if share.peerId == peer then
      (share.historicalEngine owner).map fun binding => binding.engineDeviceId
    else none

/-! ## Retained offers -/

/-- How many offer identifiers a snapshot retains. -/
def retainedOfferCount : Nat :=
  snapshot.shares.length + snapshot.tombstones.length +
    (snapshot.shares.map fun share => share.supersededOffers.length).sum

/-- Who an offer identifier belongs to: peer, folder and source. -/
def retainedOfferBinding (offerId : Uuid) : Option (DeviceId × Uuid × DeviceId) :=
  match snapshot.tombstones.find? (fun removed => removed.offerIds.contains offerId) with
  | some removed =>
    some (removed.peerId, removed.folderId, removed.sourceId snapshot.ownerId)
  | none =>
    (snapshot.shares.find? fun share => share.offerIds.contains offerId).map fun share =>
      (share.peerId, share.offer.folderId, share.offer.sourceDeviceId)

/-! ## Rosters -/

def validName (name : String) (maximum : Nat) : Bool :=
  !trimsToEmpty name && name.utf8ByteSize ≤ maximum && !name.toList.any isControl

/-- Check a roster by itself. -/
def EndpointRoster.validate (roster : EndpointRoster) : Result Unit :=
  refuse (roster.revision == 0 || !validName roster.label 256 ||
    roster.source.deviceId == DeviceId.nil || !validName roster.source.displayName 80 ||
    roster.destinations.isEmpty || decide (128 < roster.destinations.length) ||
    roster.destinations.any (fun endpoint =>
      endpoint.deviceId == DeviceId.nil || !validName endpoint.displayName 80) ||
    !decide ((roster.source :: roster.destinations).map RosterEndpoint.deviceId).Nodup)
    .invalidRecord

/-- Whether a link has a live member from the source a roster names. -/
def rosterHasMember (shares : List Share) (folderId : Uuid) (roster : EndpointRoster) : Bool :=
  shares.any fun share =>
    share.isLinked folderId && share.offer.sourceDeviceId == roster.source.deviceId

/-- Drop the rosters of links that ended. -/
def reconcileRosters : Snapshot :=
  { snapshot with
    endpointRosters := snapshot.endpointRosters.retain (rosterHasMember snapshot.shares) }

def validateRosters : Result Unit := do
  refuse (decide (maxShares < snapshot.endpointRosters.len)) .limitExceeded
  checkEach (fun (folderId, roster) => do
      roster.validate
      refuse (!rosterHasMember snapshot.shares folderId roster) .invalidState)
    snapshot.endpointRosters.entries

/-! ## Refusals -/

/-- Check one tombstone against those passed. -/
def checkTombstone (passed : List Tombstone) (removed : Tombstone) : Result Unit :=
  refuse (removed.offerId.isNil ||
    decide (maxRenewalsPerShare < removed.supersededOfferIds.length) ||
    removed.supersededOfferIds.any Uuid.isNil || !decide removed.supersededOfferIds.Nodup ||
    removed.supersededOfferIds.contains removed.offerId || removed.folderId.isNil ||
    removed.peerId == node.deviceId || removed.issuedAt == 0 || removed.label.isEmpty ||
    decide (256 < removed.label.utf8ByteSize) || removed.label.toList.any isControl ||
    passed.any (fun earlier => earlier.offerId == removed.offerId)) .invalidState

/-- How many identifiers the tombstones carry besides their own. -/
def removedChainTotal : Nat :=
  (snapshot.tombstones.map fun removed => removed.supersededOfferIds.length).sum

/-- A superseded identifier belongs to one removed share only, and its own
tombstone, where there still is one, agrees. -/
def checkRemovedChain (passed : List (Tombstone × Uuid)) (link : Tombstone × Uuid) : Result Unit :=
  refuse (passed.any (fun earlier => earlier.2 == link.2) ||
    snapshot.shares.any (fun share => share.offerIds.contains link.2) ||
    snapshot.tombstones.any (fun candidate => candidate.offerId == link.2 &&
      (candidate.peerId != link.1.peerId || candidate.folderId != link.1.folderId ||
        candidate.incoming != link.1.incoming))) .invalidState

/-- Every tombstone paired with each identifier it carries besides its own. -/
def removedChainLinks : List (Tombstone × Uuid) :=
  snapshot.tombstones.flatMap fun removed => removed.supersededOfferIds.map fun id => (removed, id)

/-- Whether a tombstone refuses an offer of a pending withdrawal. -/
def refusesPending (pending : PendingRemoteRemoval) (offerId : Uuid) (removed : Tombstone) : Bool :=
  removed.offerId == offerId && removed.folderId == pending.folderId &&
    removed.peerId == pending.peerIdentity.deviceId &&
    removed.sourceId node.deviceId == pending.offerSourceId

/-- The tombstone of the share that a pending withdrawal is about. -/
def terminalTombstone (pending : PendingRemoteRemoval) : Option Tombstone :=
  pending.offerIds.getLast?.bind fun last =>
    snapshot.tombstones.find? (refusesPending node pending last)

/-- Check one withdrawal that awaits delivery. -/
def checkPendingRemoval (passed : List PendingRemoteRemoval) (pending : PendingRemoteRemoval) :
    Result Unit :=
  refuse (pending.peerIdentity.deviceId == node.deviceId ||
    pending.peerTransport.peerId != pending.peerIdentity.deviceId ||
    pending.peerConfirmedAt == 0 ||
    (pending.offerSourceId != node.deviceId &&
      pending.offerSourceId != pending.peerIdentity.deviceId) ||
    pending.folderId.isNil || pending.offerIds.isEmpty ||
    decide (maxRemovalOfferIds < pending.offerIds.length) || pending.offerIds.any Uuid.isNil ||
    !(terminalTombstone node snapshot pending).any
      (fun current => current.supersededOfferIds == pending.offerIds.dropLast) ||
    !decide pending.offerIds.Nodup ||
    passed.any (fun earlier => pending.offerIds.any earlier.offerIds.contains) ||
    pending.offerIds.any (fun offerId =>
      !snapshot.tombstones.any (refusesPending node pending offerId))) .invalidState

/-- Check one withdrawal that a peer announced. -/
def checkRemoteTombstone (passed : List RemoteRemovalTombstone) (removed : RemoteRemovalTombstone) :
    Result Unit :=
  refuse (removed.peerId == node.deviceId ||
    (removed.offerSourceId != node.deviceId && removed.offerSourceId != removed.peerId) ||
    removed.folderId.isNil || removed.offerIds.isEmpty ||
    decide (maxRemovalOfferIds < removed.offerIds.length) ||
    decide (maxShares < (passed.filter (·.peerId == removed.peerId)).length + 1) ||
    removed.offerIds.any Uuid.isNil || !decide removed.offerIds.Nodup ||
    passed.any (fun earlier => removed.offerIds.any earlier.offerIds.contains) ||
    removed.offerIds.any (fun offerId =>
      (retainedOfferBinding snapshot offerId).any fun binding =>
        binding != (removed.peerId, removed.folderId, removed.offerSourceId))) .invalidState

/-! ## Shares -/

/-- Check one superseded offer of a share against those passed.  The offers of a
share were issued one after the other, so the previous one is the latest. -/
def checkSuperseded (offer : FolderShareOffer) (taken : List Uuid)
    (passed : List SupersededOffer) (superseded : SupersededOffer) : Result Unit :=
  refuse (superseded.offerId.isNil || superseded.offerId == offer.offerId ||
    superseded.issuedAt == 0 ||
    passed.any (fun earlier => decide (superseded.issuedAt ≤ earlier.issuedAt)) ||
    decide (offer.issuedAt ≤ superseded.issuedAt) || taken.contains superseded.offerId ||
    passed.any (fun earlier => earlier.offerId == superseded.offerId)) .invalidState

section

variable (passed : List Share) (share : Share)

/-- The source and the target of a share, as the owner of the snapshot knows them. -/
def Share.parties (owner : PublicIdentity) (sourceIsOwner : Bool) :
    PublicIdentity × PublicIdentity :=
  if sourceIsOwner then (owner, share.peerIdentity) else (share.peerIdentity, owner)

/-- Two live shares of one folder are both links or both not, and one link has one
source. -/
def policiesAgree (earlier share : Share) : Bool :=
  earlier.removed || earlier.offer.folderId != share.offer.folderId ||
    (earlier.offer.linkPolicy.isSome == share.offer.linkPolicy.isSome &&
      (earlier.offer.linkPolicy.isNone ||
        earlier.offer.sourceDeviceId == share.offer.sourceDeviceId))

/-- The engine of the peer of an accepted live share. -/
def Share.liveEngine (owner : DeviceId) : Option SyncEngineDeviceId :=
  if share.removed || share.acceptance.isNone then none
  else (share.historicalEngine owner).map fun binding => binding.engineDeviceId

/-- The engine of an accepted live share is not this node's, and it is the one its
peer, and no other peer, has elsewhere. -/
def checkLiveEngine : Result Unit :=
  match share.liveEngine node.deviceId with
  | none => pure ()
  | some engine => do
    refuse (engine == node.engineDeviceId) .invalidRecord
    refuse (passed.any fun earlier => earlier.peerId == share.peerId &&
      (earlier.liveEngine node.deviceId).any (· != engine)) .invalidRecord
    refuse (passed.any fun earlier => earlier.peerId != share.peerId &&
      earlier.liveEngine node.deviceId == some engine) .invalidRecord

/-- The root of a live share is sound and the one its folder has elsewhere. -/
def checkLiveRoot : Result Unit :=
  match share.root with
  | none => pure ()
  | some root => do
    let grant ← okOr (parseToken root.path) .invalidState
    refuse (!rootIsSound node root grant) .invalidState
    refuse (passed.any fun earlier => !earlier.removed &&
      earlier.offer.folderId == share.offer.folderId &&
      earlier.root.any (fun old => !sameRoot old root)) .invalidState

/-- Check a share that is not removed against the live shares passed. -/
def checkLiveShare : Result Unit := do
  refuse (passed.any fun earlier => !policiesAgree earlier share) .invalidRecord
  checkLiveEngine node passed share
  refuse (passed.any fun earlier => !earlier.removed &&
    earlier.offer.folderId == share.offer.folderId && earlier.offer.label != share.offer.label)
    .invalidRecord
  refuse (passed.any fun earlier => !earlier.removed &&
    earlier.offer.folderId == share.offer.folderId && earlier.peerId == share.peerId)
    .invalidState
  checkLiveRoot node passed share

def checkAcceptance (binding : SyncEngineBinding) (targetIsOwner : Bool)
    (source target : PublicIdentity) : Result Unit :=
  match share.acceptance with
  | none => pure ()
  | some acceptance => do
    let invalid := SharingError.invalidRecord
    (verifyFolderShareAcceptance share.offer acceptance source target).mapError fun _ => invalid
    refuse (targetIsOwner && !sameEngineIdentity acceptance.targetEngine binding) .invalidRecord

def checkCommit (source target : PublicIdentity) : Result Unit :=
  match share.commit with
  | none => pure ()
  | some commit => do
    let acceptance ← okOr share.acceptance .invalidState
    let invalid := SharingError.invalidRecord
    (verifyFolderShareCommit share.offer acceptance commit source target).mapError fun _ =>
      invalid

end

/-- Check one share against the tombstones and the shares passed. -/
def checkShare (owner : PublicIdentity) (binding : SyncEngineBinding) (taken : List Uuid)
    (passed : List Share) (share : Share) : Result Unit := do
  let sourceIsOwner := share.offer.sourceDeviceId == node.deviceId
  let targetIsOwner := share.offer.targetDeviceId == node.deviceId
  refuse (sourceIsOwner == targetIsOwner || taken.contains share.offer.offerId ||
    passed.any (fun earlier => earlier.offerIds.contains share.offer.offerId) ||
    share.peerId == node.deviceId || share.peerTransport.peerId != share.peerId ||
    share.peerConfirmedAt == 0) .invalidState
  let (source, target) := share.parties owner sourceIsOwner
  let invalid := SharingError.invalidRecord
  (verifyFolderShareOffer share.offer source target.deviceId).mapError fun _ => invalid
  refuse (decide (maxRenewalsPerShare < share.supersededOffers.length)) .limitExceeded
  checkInOrder (checkSuperseded share.offer (taken ++ passed.flatMap Share.offerIds)) []
    share.supersededOffers
  refuse (sourceIsOwner && !sameEngineIdentity share.offer.sourceEngine binding) .invalidRecord
  checkAcceptance share binding targetIsOwner source target
  checkCommit share source target
  refuse (((sourceIsOwner || share.acceptance.isSome) && share.root.isNone) ||
    (!sourceIsOwner && share.acceptance.isNone && share.root.isSome)) .invalidState
  if share.removed then pure () else checkLiveShare node passed share

/-! ## The whole snapshot -/

def liveRoots (shares : List Share) : BTreeMap Uuid LocalRoot :=
  BTreeMap.ofList (shares.filterMap fun share =>
    if share.removed then none else share.root.map fun root => (share.offer.folderId, root))

/-- The engines of the peers of the accepted live shares, by peer. -/
def peerEngines (owner : DeviceId) (shares : List Share) : BTreeMap DeviceId SyncEngineDeviceId :=
  BTreeMap.ofList (shares.filterMap fun share =>
    (share.liveEngine owner).map fun engine => (share.peerId, engine))

/-- The owner, the installation and the sizes of a snapshot. -/
def checkHeader : Result Unit := do
  let advertised ← okOr snapshot.binding.address? .invalidState
  refuse (snapshot.schemaVersion != 1 || snapshot.owner != node.publicIdentity ||
    snapshot.binding.covalentDeviceId != node.deviceId ||
    snapshot.binding.engineDeviceId != node.engineDeviceId || snapshot.listener.port == 0 ||
    snapshot.listener.isIpv4 != advertised.isIpv4 ||
    (!snapshot.listener.ip.isUnspecified && snapshot.listener.ip != advertised.ip) ||
    decide (maxShares < snapshot.shares.length) ||
    decide (128 < snapshot.currentPeerRoutes.len) ||
    decide (128 < snapshot.completedPeerAddressRefreshes.len) ||
    decide (maxRetainedOffers < retainedOfferCount snapshot)) .invalidState

def checkRoute (entry : DeviceId × SyncEngineBinding) : Result Unit :=
  let (peer, route) := entry
  refuse (peer == node.deviceId || route.covalentDeviceId != peer || !route.isValid ||
    (historicalPeerEngine snapshot node.deviceId peer).any (· != route.engineDeviceId))
    .invalidState

def checkCompletedRefresh (entry : DeviceId × CompletedPeerAddressRefresh) : Result Unit :=
  let (peer, completed) := entry
  refuse (peer == node.deviceId || completed.expectedTransport.peerId != peer ||
    completed.candidateTransport.peerId != peer ||
    !sameTransportIdentity completed.expectedTransport completed.candidateTransport ||
    completed.candidateEngine.covalentDeviceId != peer || !completed.candidateEngine.isValid ||
    snapshot.currentPeerRoutes.get? peer != some completed.candidateEngine) .invalidState

def checkPendingRefresh (pending : PendingPeerAddressRefresh) : Result Unit :=
  refuse (pending.peerIdentity.deviceId == node.deviceId || pending.confirmedAt == 0 ||
    pending.expectedGrant.revoked ||
    pending.expectedGrant.peerDeviceId != pending.peerIdentity.deviceId ||
    pending.expectedGrant.confirmedAt != pending.confirmedAt ||
    pending.expectedGrant.displayName != pending.expectedTransport.displayName ||
    fromEncoded pending.expectedGrant.peerDeviceId pending.expectedGrant.publicKey !=
      some pending.peerIdentity ||
    pending.expectedTransport.peerId != pending.peerIdentity.deviceId ||
    pending.candidateTransport.peerId != pending.peerIdentity.deviceId ||
    !sameTransportIdentity pending.expectedTransport pending.candidateTransport ||
    !validRoute pending.candidateTransport.address ||
    pending.candidateEngine.covalentDeviceId != pending.peerIdentity.deviceId ||
    !pending.candidateEngine.isValid) .invalidState

/-- Whether the folders of two live links lie in one another. -/
def rootsNest (roots : BTreeMap Uuid LocalRoot) : Bool :=
  roots.entries.any fun (folderId, root) =>
    roots.entries.any fun (other, otherRoot) =>
      folderId != other &&
        (pathStartsWith root.path otherRoot.path || pathStartsWith otherRoot.path root.path)

/-- A pending root reset is for the only live share of its folder, which is
committed and already has the new root. -/
def checkRootReset (pending : PendingRootReset) : Result Unit := do
  let share ← okOr (snapshot.shares.find? fun share => share.offer.offerId == pending.offerId)
    .invalidState
  refuse (pending.folderId != share.offer.folderId || share.removed || share.paused ||
    share.commit.isNone || !share.root.any (sameRoot · pending.replacement) ||
    -- Offer identifiers are unique, so this is every share but the one found.
    snapshot.shares.any (fun candidate => candidate.offer.offerId != pending.offerId &&
      !candidate.removed && candidate.offer.folderId == pending.folderId)) .invalidState

/-- The part of the check that does not read link settings, runs or rosters. -/
def validateConsent : Result Unit := do
  checkHeader node snapshot
  checkInOrder (checkTombstone node) [] snapshot.tombstones
  refuse (decide (maxRetainedOffers < removedChainTotal snapshot)) .limitExceeded
  checkInOrder (checkShare node snapshot.owner snapshot.binding
    (snapshot.tombstones.map Tombstone.offerId)) [] snapshot.shares
  checkInOrder (checkRemovedChain snapshot) [] (removedChainLinks snapshot)
  refuse (decide (maxPendingRemovals < snapshot.pendingRemoteRemovals.length)) .limitExceeded
  checkInOrder (checkPendingRemoval node snapshot) [] snapshot.pendingRemoteRemovals
  refuse (decide (maxRetainedOffers <
    (snapshot.pendingRemoteRemovals.map fun pending => pending.offerIds.length).sum))
    .limitExceeded
  refuse (decide (maxRetainedOffers < snapshot.remoteRemovalTombstones.length)) .limitExceeded
  checkInOrder (checkRemoteTombstone node snapshot) [] snapshot.remoteRemovalTombstones
  refuse (decide (maxRetainedOffers <
    (snapshot.remoteRemovalTombstones.map fun removed => removed.offerIds.length).sum))
    .limitExceeded
  checkEach (checkRoute node snapshot) snapshot.currentPeerRoutes.entries
  checkEach (checkCompletedRefresh node snapshot) snapshot.completedPeerAddressRefreshes.entries
  checkEach (checkPendingRefresh node) snapshot.pendingPeerAddressRefresh.toList
  refuse (rootsNest (liveRoots snapshot.shares)) .folderUnavailable
  refuse (decide (128 < (liveRoots snapshot.shares).len) ||
    decide (128 < (peerEngines node.deviceId snapshot.shares).len)) .limitExceeded
  checkEach (checkRootReset snapshot) snapshot.pendingRootReset.toList

/-- Check a whole snapshot. -/
def validateSnapshot : Result Unit := do
  validateRosters snapshot
  validateLinkStates snapshot
  validateRunStates snapshot
  validateConsent node snapshot

end

end Covalent.Sharing
