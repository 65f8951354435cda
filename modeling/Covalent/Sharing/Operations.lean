import Covalent.Base.Lists
import Covalent.Sharing.Journal

/-!
# Consent operations

The operations by which two devices come to share a folder and stop sharing it:
offering, receiving and renewing invitations, accepting them, committing, pausing,
removing, and telling the peer about a removal.

## Design notes

**Plans.**  Each operation decides on the snapshot in one pure function, named
`plan…`, and `carryOut` makes the decision durable before its result is returned.
The two operations that raise the freshness floor do so between a first and a
second decision.
-/

namespace Covalent.Sharing

variable [Primitives] (node : Node) (env : Surroundings)

open Primitives Effect

/-! ## Roots -/

/-- Characters that no path or name handed to the engine may have. -/
def hasUnsafeText (value : String) : Bool :=
  value.toList.any fun character =>
    isControl character || character.toNat == 0xfffe || character.toNat == 0xffff

/-- The canonical path of a folder the engine may be given. -/
def validateRoot (path : String) : Option String := do
  match ← parseToken path with
  | some _ => some path
  | none =>
    if !pathIsAbsolute path || path.utf8ByteSize > 4096 || hasUnsafeText path then none
    else
      let canonical ← env.canonicalize path
      let metadata ← env.metadata canonical
      if !metadata.isDirectory || canonical.utf8ByteSize > 4096 || hasUnsafeText canonical ||
          (pathComponents canonical).isEmpty then none
      else some canonical

/-- Capture a folder that the user selected. -/
def captureRoot (path : String) : Result LocalRoot := do
  match ← okOr (parseToken path) .folderUnavailable with
  | some grantId => pure ⟨path, 0, 0, some grantId⟩
  | none => do
    let path ← okOr (validateRoot env path) .folderUnavailable
    refuse (pathStartsWith path node.root || pathStartsWith node.root path) .folderUnavailable
    let metadata ← okOr (env.metadata path) .folderUnavailable
    pure ⟨path, metadata.device, metadata.inode, none⟩

/-- A retained folder is still the one that was captured. -/
def validateCurrentRoot (root : LocalRoot) : Result Unit := do
  let token ← okOr (parseToken root.path) .folderUnavailable
  if token == root.grantId && root.grantId.isSome && root.device == 0 && root.inode == 0 then
    pure ()
  else do
    let canonical ← okOr (env.canonicalize root.path) .folderUnavailable
    let metadata ← okOr (env.metadata root.path) .folderUnavailable
    refuse (canonical != root.path || !metadata.isDirectory || metadata.device != root.device ||
      metadata.inode != root.inode) .folderUnavailable

/-! ## Looking shares up -/

section

variable (offerId : Uuid) (selectedRoot : String) (now : Nat) (snapshot : Snapshot)

def tombstoneRefuses (offerId : Uuid) : Bool :=
  snapshot.tombstones.any fun removed => removed.offerIds.contains offerId

/-- The share that replaced an offer by renewing it. -/
def supersedingShare (offerId : Uuid) : Option Share :=
  snapshot.shares.find? fun share => share.supersededIds.contains offerId

/-- The live share whose current offer this is. -/
def index (offerId : Uuid) : Result Share := do
  refuse (tombstoneRefuses snapshot offerId) .removed
  refuse (supersedingShare snapshot offerId).isSome .removed
  let share ← okOr (snapshot.shares.find? fun share => share.offer.offerId == offerId)
    .invalidRecord
  refuse share.removed .removed
  pure share

/-- Change the share whose current offer this is. -/
def Snapshot.updateShare (offerId : Uuid) (change : Share → Share) : Snapshot :=
  { snapshot with
    shares := modifyFirst (fun share => share.offer.offerId == offerId) change snapshot.shares }

/-- Record the first route to a peer. -/
def Snapshot.rememberRoute (peer : DeviceId) (engine : SyncEngineBinding) : Snapshot :=
  { snapshot with
    currentPeerRoutes :=
      if snapshot.currentPeerRoutes.containsKey peer then snapshot.currentPeerRoutes
      else snapshot.currentPeerRoutes.insert peer engine }

def checkCapacity : Result Unit :=
  refuse (decide (maxShares ≤ snapshot.shares.length) ||
    decide (maxRetainedOffers ≤ retainedOfferCount snapshot)) .limitExceeded

def checkRenewalCapacity (share : Share) : Result Unit :=
  refuse (decide (maxRenewalsPerShare ≤ share.supersededOffers.length) ||
    decide (maxRetainedOffers ≤ retainedOfferCount snapshot)) .limitExceeded

/-- Whether a share is the live one of a folder with a peer. -/
def Share.isMember (share : Share) (folderId : Uuid) (peer : DeviceId) : Bool :=
  !share.removed && share.offer.folderId == folderId && share.peerId == peer

section

variable (peerId : DeviceId) (folderId : Uuid) (label selectedRoot : String) (now : Nat)

def checkNotShared (peer : DeviceId) : Result Unit :=
  refuse (snapshot.shares.any (Share.isMember · folderId peer)) .alreadyShared

/-! ## Signing with the node's key -/

/-- The identity of a peer that is remembered and not revoked. -/
def trustedPeerIdentity (peer : DeviceId) : Option PublicIdentity := do
  let config ← env.config
  let grant ← config.trustedPeers.get? peer
  if grant.revoked then none else fromEncoded grant.peerDeviceId grant.publicKey

/-- Sign an invitation for a trusted peer. -/
def issueFolderShareOfferWithPolicy (target : DeviceId) (folderId : Uuid) (label : String)
    (binding : SyncEngineBinding) (pairingId : Option String) (now : Nat)
    (linkPolicy : Option FolderLinkPolicy) : Result FolderShareOffer := do
  let _ ← okOr (trustedPeerIdentity env target) .invalidRecord
  (createFolderShareOfferWithPolicy node.identity target folderId label binding pairingId now
    invitationLifetimeMs linkPolicy env.entropy).mapError fun _ => .invalidRecord

/-- Sign the acceptance of a trusted peer's invitation. -/
def acceptFolderShare (offer : FolderShareOffer) (binding : SyncEngineBinding) (now : Nat) :
    Result FolderShareAcceptance := do
  let source ← okOr (trustedPeerIdentity env offer.sourceDeviceId) .invalidRecord
  (acceptFolderShareOffer offer source node.identity binding now).mapError fun _ => .invalidRecord

/-- Sign the commit to a trusted peer's acceptance. -/
def commitFolderShareOffer (offer : FolderShareOffer) (acceptance : FolderShareAcceptance)
    (now : Nat) : Result FolderShareCommit := do
  let target ← okOr (trustedPeerIdentity env offer.targetDeviceId) .invalidRecord
  (commitFolderShare offer acceptance node.identity target now).mapError fun _ => .invalidRecord

/-! ## Offering -/

/-- The offer that an identical earlier call already made. -/
def existingOffer (peer : CurrentPeerTrust) (peerId : DeviceId) (folderId : Uuid) (label : String)
    (root : LocalRoot) (linkPolicy : Option FolderLinkPolicy) :
    Result (Option FolderShareOffer) :=
  match snapshot.shares.find? (Share.isMember · folderId peerId) with
  | none => pure none
  | some existing =>
    if existing.offer.sourceDeviceId == node.deviceId && existing.offer.label == label &&
        (existing.offer.linkPolicy == linkPolicy || snapshot.linkSettings.containsKey folderId) &&
        existing.root.any (sameRoot · root) && peer.matchesShare existing then
      pure (some existing.offer)
    else throw .alreadyShared

/-- What an offer needs before the freshness floor is raised: the peer, the folder,
and the offer of an identical earlier call. -/
def prepareOffer (initialSettings : Option FolderLinkSettings) :
    Result (CurrentPeerTrust × LocalRoot × Option FolderShareOffer) := do
  let linkPolicy := initialSettings.map FolderLinkSettings.deletionPolicy
  let peer ← trustedPeer env peerId
  refuse ((snapshot.linkSettings.get? folderId).any fun current =>
    some current.settings.deletionPolicy != linkPolicy ||
      initialSettings.any (current.settings != ·)) .settingsConflict
  let root ← captureRoot node env selectedRoot
  let existing ← existingOffer node snapshot peer peerId folderId label root linkPolicy
  pure (peer, root, existing)

/-- A share as it is before anyone has answered. -/
def newShare (peer : CurrentPeerTrust) (offer : FolderShareOffer) (root : Option LocalRoot) :
    Share :=
  { peerIdentity := peer.identity
    peerTransport := peer.transport
    peerConfirmedAt := peer.confirmedAt
    offer := offer
    acceptance := none
    commit := none
    root := root
    paused := false
    removed := false
    supersededOffers := [] }

/-- The settings a source gives a new link. -/
def initialLinkState (owner : DeviceId) (settings : FolderLinkSettings) (now : Nat) :
    LinkSettingsState :=
  ⟨0, settings, Uuid.nil, owner, now, true, none, none⟩

/-- Record the settings of a link unless it has some. -/
def Snapshot.admitSettings (state : LinkSettingsState) : Snapshot :=
  { snapshot with
    linkSettings :=
      if snapshot.linkSettings.containsKey folderId then snapshot.linkSettings
      else snapshot.linkSettings.insert folderId state }

/-- Sign an offer and record its share. -/
def planOffer (peer : CurrentPeerTrust) (root : LocalRoot) (peerId : DeviceId) (folderId : Uuid)
    (label : String) (now : Nat) (initialSettings : Option FolderLinkSettings)
    (snapshot : Snapshot) : Result (Plan FolderShareOffer) := do
  refuse (decide (now < snapshot.freshnessFloor)) .invalidRecord
  checkCapacity snapshot
  checkNotShared snapshot folderId peerId
  let offer ← issueFolderShareOfferWithPolicy node env peerId folderId label snapshot.binding none
    now (initialSettings.map FolderLinkSettings.deletionPolicy)
  let next := { snapshot with shares := snapshot.shares ++ [newShare peer offer (some root)] }
  let next := match initialSettings with
    | none => next
    | some settings =>
      next.admitSettings folderId (initialLinkState node.deviceId settings now)
  pure (.replace next offer)

def offerWithSettingsInner (initialSettings : Option FolderLinkSettings) :
    Action FolderShareOffer := do
  reconcileTrust node env
  let journal ← get
  let (peer, root, existing) ← lift
    (prepareOffer node env journal.snapshot peerId folderId label selectedRoot initialSettings)
  match existing with
  | some offer => pure offer
  | none => do
    advanceFreshnessFloor node env now
    decideNow node env (planOffer node env peer root peerId folderId label now initialSettings)

/-- Retain the source user's selected folder before a signed offer is returned. -/
def offerWithSettings (initialSettings : FolderLinkSettings) : Action FolderShareOffer := do
  lift (refuse (!initialSettings.isValid || now == 0) .invalidRecord)
  offerWithSettingsInner node env peerId folderId label selectedRoot now (some initialSettings)

/-- Offer a link, or a historical two-way share when there is no policy. -/
def offerWithPolicy (linkPolicy : Option FolderLinkPolicy) : Action FolderShareOffer :=
  offerWithSettingsInner node env peerId folderId label selectedRoot now
    (linkPolicy.map fun policy => ⟨policy, false, .continuous, {}⟩)

/-! ## Receiving an offer -/

/-- Whether a peer withdrew its offers of a folder. -/
def remotelyRefused (offer : FolderShareOffer) : Bool :=
  snapshot.remoteRemovalTombstones.any fun removed =>
    removed.peerId == offer.sourceDeviceId && removed.offerSourceId == offer.sourceDeviceId &&
      removed.folderId == offer.folderId

/-- Whether a share received from a peer for a folder was removed here. -/
def incomingRefused (peer : DeviceId) : Bool :=
  snapshot.tombstones.any fun removed =>
    removed.folderId == folderId && removed.peerId == peer && removed.incoming

end

/-- What an offer must pass before the freshness floor is raised.  An offer that is
already the current one of a share needs nothing more. -/
def screenOffer (offer : FolderShareOffer) (now : Nat) : Result (Option CurrentPeerTrust) := do
  let peer ← trustedPeer env offer.sourceDeviceId
  let invalid := SharingError.invalidRecord
  (verifyFolderShareOffer offer peer.identity node.deviceId).mapError fun _ => invalid
  refuse (remotelyRefused snapshot offer) .removed
  refuse (tombstoneRefuses snapshot offer.offerId) .removed
  match snapshot.shares.find? fun share => share.offer.offerId == offer.offerId with
  | some old =>
    if old.removed then throw .removed
    else if old.offer == offer then pure none
    else throw .invalidRecord
  | none => do
    refuse (supersedingShare snapshot offer.offerId).isSome .removed
    (verifyFreshFolderShareOffer offer peer.identity node.deviceId now).mapError fun _ => invalid
    refuse ((snapshot.currentPeerRoutes.get? peer.identity.deviceId).any
      (· != offer.sourceEngine)) .invalidRecord
    refuse (incomingRefused snapshot offer.folderId peer.identity.deviceId) .removed
    pure (some peer)

/-- A received offer replaces the expired, uncommitted one it renews. -/
def renewsReceived (peer : CurrentPeerTrust) (previous : Share) (offer : FolderShareOffer)
    (now : Nat) : Bool :=
  previous.offer.targetDeviceId == node.deviceId && previous.commit.isNone &&
    decide (previous.offer.expiresAt ≤ now) &&
    decide (previous.offer.issuedAt < offer.issuedAt) &&
    decide (previous.offer.expiresAt < offer.expiresAt) && offer.label == previous.offer.label &&
    offer.linkPolicy == previous.offer.linkPolicy &&
    sameEngineIdentity offer.sourceEngine previous.offer.sourceEngine &&
    offer.pairingId == previous.offer.pairingId && peer.matchesShare previous

/-- Replace the current offer of a share and remember the old one. -/
def Share.supersede (share : Share) (offer : FolderShareOffer) : Share :=
  { share with
    supersededOffers := share.supersededOffers ++ [⟨share.offer.offerId, share.offer.issuedAt⟩]
    offer := offer }

/-- Record a received offer, as a new share or as a renewal.  A renewal has to be
accepted again. -/
def planReceiveOffer (peer : CurrentPeerTrust) (offer : FolderShareOffer) (now : Nat)
    (snapshot : Snapshot) : Result (Plan Unit) := do
  let peerId := peer.identity.deviceId
  refuse (decide (offer.issuedAt < snapshot.freshnessFloor)) .removed
  match snapshot.shares.find? (Share.isMember · offer.folderId peerId) with
  | some previous => do
    refuse (!renewsReceived node peer previous offer now) .alreadyShared
    checkRenewalCapacity snapshot previous
    let renew (share : Share) : Share :=
      { share.supersede offer with
        acceptance := none, commit := none, root := none, paused := false }
    let next := { snapshot with
      shares := modifyFirst (Share.isMember · offer.folderId peerId) renew snapshot.shares }
    pure (.replace (next.rememberRoute peerId offer.sourceEngine) ())
  | none => do
    let pending := snapshot.shares.filter fun share =>
      share.offer.targetDeviceId == node.deviceId && share.acceptance.isNone
    refuse (decide (maxPendingOffers ≤ pending.length) ||
      decide (maxPeerPendingOffers ≤ (pending.filter (·.peerId == peerId)).length))
      .limitExceeded
    checkCapacity snapshot
    checkNotShared snapshot offer.folderId peerId
    let next := { snapshot with shares := snapshot.shares ++ [newShare peer offer none] }
    pure (.replace (next.rememberRoute peerId offer.sourceEngine) ())

/-- Retain a fresh verified invitation, without any local folder. -/
def receiveOffer (offer : FolderShareOffer) (now : Nat) : Action Unit := do
  reconcileTrust node env
  let journal ← get
  match ← lift (screenOffer node env journal.snapshot offer now) with
  | none => pure ()
  | some peer => do
    advanceFreshnessFloor node env now
    decideNow node env (planReceiveOffer node peer offer now)

/-! ## Renewing, accepting and committing -/

/-- Replace one expired outgoing invitation.  A superseded identifier gets the
current replacement back. -/
def planRenewOffer : Result (Plan FolderShareOffer) := do
  refuse (tombstoneRefuses snapshot offerId) .removed
  match supersedingShare snapshot offerId with
  | some share =>
    if share.offer.sourceDeviceId == node.deviceId then pure (.keep share.offer)
    else throw .invalidRecord
  | none => do
    let share ← index snapshot offerId
    refuse (share.offer.sourceDeviceId != node.deviceId || share.acceptance.isSome ||
      share.commit.isSome || decide (now < share.offer.expiresAt)) .invalidRecord
    let peer ← trustedPeer env share.peerId
    refuse (!peer.matchesShare share) .untrustedPeer
    let root ← okOr share.root .invalidState
    validateCurrentRoot env root
    checkRenewalCapacity snapshot share
    refuse (decide (now < snapshot.freshnessFloor)) .invalidRecord
    let replacement ← issueFolderShareOfferWithPolicy node env share.peerId share.offer.folderId
      share.offer.label snapshot.binding share.offer.pairingId now share.offer.linkPolicy
    refuse (decide (replacement.issuedAt ≤ share.offer.issuedAt) ||
      decide (replacement.expiresAt ≤ share.offer.expiresAt)) .invalidRecord
    let next := (advanceFreshnessFloorCandidate snapshot now).updateShare offerId
      (Share.supersede · replacement)
    pure (.replace next replacement)

def renewOffer : Action FolderShareOffer :=
  decideTrusted node env (planRenewOffer node env offerId now)

/-- Choose the destination and accept. -/
def planAccept : Result (Plan FolderShareAcceptance) := do
  let share ← index snapshot offerId
  refuse (share.offer.targetDeviceId != node.deviceId) .invalidRecord
  let root ← captureRoot node env selectedRoot
  match share.acceptance with
  | some acceptance =>
    if share.root.any (sameRoot · root) then pure (.keep acceptance) else throw .alreadyShared
  | none => do
    let acceptance ← acceptFolderShare node env share.offer snapshot.binding now
    let next := snapshot.updateShare offerId fun share =>
      { share with root := some root, acceptance := some acceptance }
    pure (.replace next acceptance)

def accept : Action FolderShareAcceptance :=
  decideTrusted node env (planAccept node env offerId selectedRoot now)

/-- The source commits both signatures before it is eligible for sync. -/
def planReceiveAcceptance (acceptance : FolderShareAcceptance) (now : Nat) (snapshot : Snapshot) :
    Result (Plan FolderShareCommit) := do
  let share ← index snapshot offerId
  refuse (share.offer.sourceDeviceId != node.deviceId) .invalidRecord
  match share.acceptance with
  | some old =>
    if old == acceptance then Plan.keep <$> okOr share.commit .invalidState
    else throw .invalidRecord
  | none => do
    let commit ← commitFolderShareOffer node env share.offer acceptance now
    refuse ((snapshot.currentPeerRoutes.get? share.peerId).any (· != acceptance.targetEngine))
      .invalidRecord
    let next := (snapshot.rememberRoute share.peerId acceptance.targetEngine).updateShare offerId
      fun share => { share with acceptance := some acceptance, commit := some commit }
    pure (.replace next commit)

def receiveAcceptance (acceptance : FolderShareAcceptance) (now : Nat) : Action FolderShareCommit :=
  decideTrusted node env (planReceiveAcceptance node env offerId acceptance now)

/-- The recipient is eligible once the complete signed commit is durable. -/
def planReceiveCommit (commit : FolderShareCommit) (snapshot : Snapshot) : Result (Plan Unit) := do
  let share ← index snapshot offerId
  refuse (share.offer.targetDeviceId != node.deviceId) .invalidRecord
  match share.commit with
  | some old => if old == commit then pure (.keep ()) else throw .invalidRecord
  | none => do
    let acceptance ← okOr share.acceptance .invalidRecord
    let invalid := SharingError.invalidRecord
    (verifyFolderShareCommit share.offer acceptance commit share.peerIdentity
      snapshot.owner).mapError fun _ => invalid
    let next := snapshot.updateShare offerId fun share => { share with commit := some commit }
    pure (.replace next ())

def receiveCommit (commit : FolderShareCommit) : Action Unit :=
  decideTrusted node env (planReceiveCommit node offerId commit)

/-! ## Removing -/

/-- Tombstone one share and retain the withdrawal for its peer. -/
def planRemove : Result (Plan Unit) := do
  if snapshot.tombstones.any fun removed => removed.offerId == offerId then pure (.keep ())
  else do
    let share ← okOr (snapshot.shares.find? fun share => share.offer.offerId == offerId)
      .invalidRecord
    if share.removed then pure (.keep ())
    else do
      refuse (decide (maxRemovalOfferIds < share.offerIds.length) ||
        decide (maxPendingRemovals ≤ snapshot.pendingRemoteRemovals.length)) .limitExceeded
      let withdrawal : PendingRemoteRemoval :=
        ⟨share.peerIdentity, share.peerTransport, share.peerConfirmedAt,
          share.offer.sourceDeviceId, share.offer.folderId, share.offerIds⟩
      let next := { snapshot with
        pendingRemoteRemovals := snapshot.pendingRemoteRemovals ++ [withdrawal] }
      pure (.replace (next.updateShare offerId fun share => { share with removed := true }) ())

def remove : Action Unit :=
  decideDurable node env (planRemove offerId)

end

/-- A notice names this device, real identifiers and no identifier twice. -/
def validateRemovalNotice (notice : FolderRemovalNotice) (expectedTarget : DeviceId) :
    Result Unit :=
  refuse (notice.requesterId == expectedTarget || notice.targetId != expectedTarget ||
    (notice.offerSourceId != notice.requesterId && notice.offerSourceId != notice.targetId) ||
    notice.folderId.isNil || notice.offerIds.isEmpty ||
    decide (maxRemovalOfferIds < notice.offerIds.length) || notice.offerIds.any Uuid.isNil ||
    !decide notice.offerIds.Nodup) .invalidRecord

/-- Whether a refusal record is the one a notice is about. -/
def RemoteRemovalTombstone.concerns (removed : RemoteRemovalTombstone)
    (notice : FolderRemovalNotice) : Bool :=
  removed.peerId == notice.requesterId && removed.offerSourceId == notice.offerSourceId &&
    removed.folderId == notice.folderId

/-- The longer of two chains, one of which starts with the other. -/
def longerChain (left right : List Uuid) : List Uuid :=
  if left.length < right.length then right else left

def chainsFork (left right : List Uuid) : Bool :=
  !left.isPrefixOf right && !right.isPrefixOf left

/-- The chain a removal notice refuses, with everything this device knows of it. -/
def canonicalRemovalIds (notice : FolderRemovalNotice) (refusal : Option RemoteRemovalTombstone)
    (share : Option Share) : Result (List Uuid) := do
  let told := refusal.elim notice.offerIds fun removed =>
    longerChain notice.offerIds removed.offerIds
  match share with
  | none => pure told
  | some share => do
    refuse (share.offer.sourceDeviceId != notice.offerSourceId) .invalidRecord
    -- Removal and renewal can cross in flight, so either side may know more.
    refuse (chainsFork share.offerIds told) .invalidRecord
    pure (longerChain told share.offerIds)

/-- Apply a withdrawal that a peer announced. -/
def planReceiveRemoval (notice : FolderRemovalNotice) (snapshot : Snapshot) :
    Result (Plan Unit) := do
  validateRemovalNotice notice node.deviceId
  let _ ← trustedPeer env notice.requesterId
  let refusal := snapshot.remoteRemovalTombstones.find? (·.concerns notice)
  let others := snapshot.remoteRemovalTombstones.eraseP (·.concerns notice)
  if refusal.any (·.offerIds == notice.offerIds) then pure (.keep ())
  else do
    refuse (others.any (fun removed => removed.offerIds.any notice.offerIds.contains) ||
      refusal.any (fun removed => chainsFork removed.offerIds notice.offerIds) ||
      notice.offerIds.any (fun offerId => (retainedOfferBinding snapshot offerId).any fun binding =>
        binding != (notice.requesterId, notice.folderId, notice.offerSourceId))) .invalidRecord
    let concerned (share : Share) : Bool :=
      share.peerId == notice.requesterId && share.offer.folderId == notice.folderId
    let share := snapshot.shares.find? concerned
    let canonicalIds ← canonicalRemovalIds notice refusal share
    refuse (decide (maxRemovalOfferIds < canonicalIds.length) ||
      others.any (fun removed => removed.offerIds.any canonicalIds.contains)) .invalidRecord
    if refusal.any (·.offerIds == canonicalIds) && share.all Share.removed then pure (.keep ())
    else do
      let retained := (snapshot.remoteRemovalTombstones.map (·.offerIds.length)).sum
      let replaced := refusal.elim 0 (·.offerIds.length)
      refuse ((refusal.isNone &&
          decide (maxRetainedOffers ≤ snapshot.remoteRemovalTombstones.length)) ||
        (decide (maxShares ≤ (snapshot.remoteRemovalTombstones.filter
          (·.peerId == notice.requesterId)).length) && refusal.isNone) ||
        decide (maxRetainedOffers < retained - replaced + canonicalIds.length)) .limitExceeded
      let refusals :=
        if refusal.isSome then
          modifyFirst (·.concerns notice) (fun removed => { removed with offerIds := canonicalIds })
            snapshot.remoteRemovalTombstones
        else snapshot.remoteRemovalTombstones ++
          [⟨notice.requesterId, notice.offerSourceId, notice.folderId, canonicalIds⟩]
      pure (.replace
        { snapshot with
          shares := modifyFirst concerned (fun share => { share with removed := true })
            snapshot.shares
          remoteRemovalTombstones := refusals } ())

def receiveRemoval (notice : FolderRemovalNotice) : Action Unit :=
  decideTrusted node env (planReceiveRemoval node env notice)

section

variable (peerId : DeviceId) (expectedGrant : PeerGrant)
  (expectedTransport candidateTransport : TransportBinding) (candidateEngine : SyncEngineBinding)

/-- Stop repeating a withdrawal that its peer acknowledged. -/
def planAcknowledgeRemoval (currentOfferId : Uuid) (snapshot : Snapshot) : Result (Plan Unit) :=
  let acknowledged (pending : PendingRemoteRemoval) : Bool :=
    pending.peerIdentity.deviceId == peerId && pending.offerIds.getLast? == some currentOfferId
  if snapshot.pendingRemoteRemovals.any acknowledged then
    pure (.replace { snapshot with
      pendingRemoteRemovals := snapshot.pendingRemoteRemovals.eraseP acknowledged } ())
  else if snapshot.tombstones.any (fun removed =>
      removed.peerId == peerId && removed.offerId == currentOfferId) then pure (.keep ())
  else throw .invalidRecord

def acknowledgeRemoval (currentOfferId : Uuid) : Action Unit :=
  decideDurable node env (planAcknowledgeRemoval peerId currentOfferId)

/-- The snapshot without any consent of a peer. -/
def withoutPeer (snapshot : Snapshot) : Snapshot :=
  { snapshot with
    shares := snapshot.shares.map fun share =>
      if share.peerId == peerId then { share with removed := true } else share
    pendingRemoteRemovals := snapshot.pendingRemoteRemovals.filter fun pending =>
      pending.peerIdentity.deviceId != peerId }

/-- The durable barrier before a peer is revoked. -/
def removePeer : Action Unit :=
  decideNow node env fun snapshot =>
    let next := withoutPeer peerId snapshot
    pure (if next = snapshot then .keep () else .replace next ())

/-! ## Replacing a root -/

/-- A root selection, bound to one journal and one revision. -/
structure PreparedRootRepair where
  journal : Nat
  expectedRevision : Nat
  offerId : Uuid
  folderId : Uuid
  replacement : LocalRoot
  changesRoot : Bool

/-- Another live share of the folder of a share. -/
def sharedElsewhere (snapshot : Snapshot) (share : Share) : Bool :=
  snapshot.shares.any fun other => other.offer.offerId != share.offer.offerId && !other.removed &&
    other.offer.folderId == share.offer.folderId

/-- Validate and capture a replacement root. -/
def planRootRepair (offerId : Uuid) (selectedRoot : String) (snapshot : Snapshot) :
    Result (LocalRoot × Uuid × Bool) := do
  let share ← index snapshot offerId
  refuse share.commit.isNone .invalidState
  let oldRoot ← okOr share.root .folderUnavailable
  let replacement ← captureRoot node env selectedRoot
  let folderId := share.offer.folderId
  let changesRoot := !sameRoot oldRoot replacement
  refuse (share.paused && changesRoot) .invalidState
  match snapshot.pendingRootReset with
  | some pending =>
    refuse (pending.offerId != offerId || pending.folderId != folderId ||
      !sameRoot pending.replacement replacement || changesRoot) .invalidState
  | none => refuse (changesRoot && sharedElsewhere snapshot share) .alreadyShared
  pure (replacement, folderId, changesRoot)

def prepareRootRepair (offerId : Uuid) (selectedRoot : String) : Action PreparedRootRepair := do
  reconcileTrust node env
  let journal ← get
  let (replacement, folderId, changesRoot) ← lift
    (planRootRepair node env offerId selectedRoot journal.snapshot)
  pure ⟨journal.preparationIdentity, journal.store.revision, offerId, folderId, replacement,
    changesRoot⟩

/-- Persist a prepared root and the intent to reset the folder's index. -/
def planCommitRootRepair (prepared : PreparedRootRepair) (snapshot : Snapshot) :
    Result (Plan (Option Uuid)) := do
  let share ← index snapshot prepared.offerId
  refuse (share.offer.folderId != prepared.folderId) .invalidState
  let observed ← captureRoot node env prepared.replacement.path
  refuse (!sameRoot observed prepared.replacement) .folderUnavailable
  match snapshot.pendingRootReset with
  | some pending => do
    refuse (pending.offerId != prepared.offerId || pending.folderId != prepared.folderId ||
      !sameRoot pending.replacement prepared.replacement ||
      !share.root.any (sameRoot · prepared.replacement)) .invalidState
    pure (.keep (some pending.folderId))
  | none =>
    if prepared.changesRoot then
      let next := snapshot.updateShare prepared.offerId fun share =>
        { share with root := some prepared.replacement }
      pure (.replace
        { next with
          pendingRootReset :=
            some ⟨prepared.offerId, prepared.folderId, prepared.replacement⟩ }
        (some prepared.folderId))
    else pure (.keep none)

def commitRootRepair (prepared : PreparedRootRepair) : Action (Option Uuid) := do
  let journal ← get
  lift (refuse (prepared.journal != journal.preparationIdentity ||
    prepared.expectedRevision != journal.store.revision) .invalidState)
  decideNow node env (planCommitRootRepair node env prepared)

/-- Clear the reset intent once the index of the folder was reset. -/
def planCompleteRootReset (folderId : Uuid) (snapshot : Snapshot) : Result (Plan Unit) := do
  let pending ← okOr snapshot.pendingRootReset .invalidState
  refuse (pending.folderId != folderId) .invalidState
  let observed ← captureRoot node env pending.replacement.path
  refuse (!sameRoot observed pending.replacement) .folderUnavailable
  pure (.replace { snapshot with pendingRootReset := none } ())

def completeRootReset (folderId : Uuid) : Action Unit :=
  decideNow node env (planCompleteRootReset node env folderId)

/-! ## Following a peer to a new address -/

/-- An address transition, bound to one journal and one revision. -/
structure PreparedPeerAddressRefresh where
  journal : Nat
  expectedRevision : Nat
  pending : PendingPeerAddressRefresh
  alreadyComplete : Bool

/-- Validate an authenticated address proof. -/
def planPeerAddressRefresh (snapshot : Snapshot) : Result (PendingPeerAddressRefresh × Bool) := do
  let trust ← trustedPeer env peerId
  let config ← env.readConfig
  refuse (config.trustedPeers.get? peerId != some expectedGrant || expectedGrant.revoked ||
    expectedGrant.peerDeviceId != peerId || candidateTransport.peerId != peerId ||
    candidateTransport.displayName != expectedTransport.displayName ||
    candidateTransport.certificateDer != expectedTransport.certificateDer ||
    candidateTransport.certificateFingerprint != expectedTransport.certificateFingerprint ||
    !validRoute candidateTransport.address || candidateEngine.covalentDeviceId != peerId ||
    !candidateEngine.isValid) .invalidRecord
  let knownEngineId := ((snapshot.currentPeerRoutes.get? peerId).map
    SyncEngineBinding.engineDeviceId).or (historicalPeerEngine snapshot node.deviceId peerId)
  refuse (knownEngineId.any (· != candidateEngine.engineDeviceId)) .invalidRecord
  let pending : PendingPeerAddressRefresh :=
    ⟨expectedGrant, trust.identity, trust.confirmedAt, expectedTransport, candidateTransport,
      candidateEngine⟩
  refuse (snapshot.pendingPeerAddressRefresh.any (· != pending)) .invalidState
  let alreadyComplete := snapshot.completedPeerAddressRefreshes.get? peerId ==
    some ⟨expectedTransport, candidateTransport, candidateEngine⟩
  refuse (trust.identity.deviceId != peerId ||
    trust.transport != (if alreadyComplete then candidateTransport else expectedTransport))
    .invalidRecord
  pure (pending, alreadyComplete)

def preparePeerAddressRefresh : Action PreparedPeerAddressRefresh := do
  let journal ← get
  if journal.snapshot.pendingPeerAddressRefresh.isNone then reconcileTrust node env
  else lift (validatePendingPeerAddressRefresh env journal.snapshot)
  let journal ← get
  let (pending, alreadyComplete) ← lift (planPeerAddressRefresh node env peerId expectedGrant
    expectedTransport candidateTransport candidateEngine journal.snapshot)
  pure ⟨journal.preparationIdentity, journal.store.revision, pending, alreadyComplete⟩

end

/-- Record a prepared transition before the core changes its transport. -/
def planBeginPeerAddressRefresh (prepared : PreparedPeerAddressRefresh) (snapshot : Snapshot) :
    Result (Plan Bool) := do
  if prepared.alreadyComplete then pure (.keep false)
  else do
    let config ← env.readConfig
    let peerId := prepared.pending.peerIdentity.deviceId
    let trust ← observeTrust config peerId
    let current ← okOr trust .untrustedPeer
    refuse (config.trustedPeers.get? peerId != some prepared.pending.expectedGrant ||
      current.identity != prepared.pending.peerIdentity ||
      current.confirmedAt != prepared.pending.confirmedAt ||
      current.transport != prepared.pending.expectedTransport) .invalidState
    match snapshot.pendingPeerAddressRefresh with
    | some retained =>
      if retained == prepared.pending then pure (.keep true) else throw .invalidState
    | none =>
      pure (.replace { snapshot with pendingPeerAddressRefresh := some prepared.pending } true)

def beginPeerAddressRefresh (prepared : PreparedPeerAddressRefresh) : Action Bool := do
  let journal ← get
  lift (refuse (prepared.journal != journal.preparationIdentity ||
    prepared.expectedRevision != journal.store.revision) .invalidState)
  decideNow node env (planBeginPeerAddressRefresh env prepared)

/-- Complete the journal half once the core has the new transport. -/
def planCompletePeerAddressRefresh (peerId : DeviceId) (snapshot : Snapshot) :
    Result (Plan Unit) := do
  let pending ← okOr snapshot.pendingPeerAddressRefresh .invalidState
  refuse (pending.peerIdentity.deviceId != peerId) .invalidState
  let config ← env.readConfig
  let trust ← observeTrust config peerId
  let current ← okOr trust .untrustedPeer
  refuse (current.identity != pending.peerIdentity || current.confirmedAt != pending.confirmedAt ||
    config.trustedPeers.get? peerId != some pending.expectedGrant ||
    current.transport != pending.candidateTransport) .invalidState
  pure (.replace
    { snapshot with
      shares := snapshot.shares.map fun share =>
        if share.peerId == peerId then { share with peerTransport := pending.candidateTransport }
        else share
      pendingRemoteRemovals := snapshot.pendingRemoteRemovals.map fun removal =>
        if removal.peerIdentity.deviceId == peerId then
          { removal with peerTransport := pending.candidateTransport }
        else removal
      currentPeerRoutes := snapshot.currentPeerRoutes.insert peerId pending.candidateEngine
      completedPeerAddressRefreshes := snapshot.completedPeerAddressRefreshes.insert peerId
        ⟨pending.expectedTransport, pending.candidateTransport, pending.candidateEngine⟩
      pendingPeerAddressRefresh := none } ())

def completePeerAddressRefresh (peerId : DeviceId) : Action Unit :=
  decideNow node env (planCompletePeerAddressRefresh env peerId)

end Covalent.Sharing
