import Covalent.Sharing.Records
import Covalent.Transfer.Policy

/-!
# The folder-sharing snapshot

What one node remembers about its folder shares: the shares themselves, the
refusals that outlive them, the settings and runs of one-way links, and the
routes to its peers.  A snapshot is the durable unit; every decision of the
journal replaces the whole snapshot.

## Design notes

**A link is a folder whose live shares carry a policy.**  Its settings and its
runs are kept per folder, its members are the live shares; `linkSourceInSnapshot`
is how the code finds who the source is.
-/

namespace Covalent.Sharing

open Transfer (EngineIndexSnapshot)

/-- A sharing decision that failed. -/
inductive SharingError where
  | invalidState
  | untrustedPeer
  | invalidRecord
  | removed
  | alreadyShared
  | folderUnavailable
  | limitExceeded
  | persistenceUncertain
  | settingsConflict
  | settingsPending
  | runConflict
  | runPending

abbrev Result := Except SharingError

/-! ## Limits -/

def maxShares : Nat := 512
def maxRetainedOffers : Nat := 4096
def maxPendingOffers : Nat := 128
def maxPeerPendingOffers : Nat := 16
def maxRenewalsPerShare : Nat := 128
def maxRemovalOfferIds : Nat := maxRenewalsPerShare + 1
def maxPendingRemovals : Nat := maxShares
def invitationLifetimeMs : Nat := maxFolderShareLifetimeMs

/-! ## Peers -/

/-- The authenticated transport pin of a peer. -/
structure TransportBinding where
  peerId : DeviceId
  displayName : String
  address : String
  certificateDer : String
  certificateFingerprint : String
deriving DecidableEq

inductive PeerRole where
  | storageProvider
  | backupReader
  | backupWriter
deriving DecidableEq

/-- Persisted peer authorization, made only by explicit confirmation. -/
structure PeerGrant where
  peerDeviceId : DeviceId
  publicKey : String
  displayName : String
  roles : List PeerRole
  confirmedAt : Nat
  revoked : Bool
deriving DecidableEq

/-! ## Shares -/

/-- A local folder, by path and inode, or by the grant of an Android folder. -/
structure LocalRoot where
  path : String
  device : Nat
  inode : Nat
  grantId : Option Uuid
deriving DecidableEq

/-- An offer that an explicit renewal replaced. -/
structure SupersededOffer where
  offerId : Uuid
  issuedAt : Nat
deriving DecidableEq

/-- One folder shared with one peer, in either direction. -/
structure Share where
  peerIdentity : PublicIdentity
  peerTransport : TransportBinding
  peerConfirmedAt : Nat
  offer : FolderShareOffer
  acceptance : Option FolderShareAcceptance
  commit : Option FolderShareCommit
  root : Option LocalRoot
  paused : Bool
  removed : Bool
  supersededOffers : List SupersededOffer
deriving DecidableEq

namespace Share

def peerId (share : Share) : DeviceId :=
  share.peerIdentity.deviceId

/-- The offers a share replaced, oldest first. -/
def supersededIds (share : Share) : List Uuid :=
  share.supersededOffers.map SupersededOffer.offerId

/-- The chain of a share's offers, oldest first, ending in the current one. -/
def offerIds (share : Share) : List Uuid :=
  share.supersededIds ++ [share.offer.offerId]

/-- A live member of a one-way link. -/
def isLinked (share : Share) (folderId : Uuid) : Bool :=
  !share.removed && share.offer.folderId == folderId && share.offer.linkPolicy.isSome

end Share

/-- Refusal history of one removed share, or of one offer it had replaced. -/
structure Tombstone where
  offerId : Uuid
  supersededOfferIds : List Uuid
  folderId : Uuid
  label : String
  peerId : DeviceId
  incoming : Bool
  issuedAt : Nat
deriving DecidableEq

namespace Tombstone

/-- Every offer a tombstone refuses. -/
def offerIds (tombstone : Tombstone) : List Uuid :=
  tombstone.offerId :: tombstone.supersededOfferIds

/-- The device whose offers a tombstone refuses. -/
def sourceId (tombstone : Tombstone) (owner : DeviceId) : DeviceId :=
  if tombstone.incoming then tombstone.peerId else owner

end Tombstone

/-- A withdrawal retained until the peer acknowledges it. -/
structure PendingRemoteRemoval where
  peerIdentity : PublicIdentity
  peerTransport : TransportBinding
  peerConfirmedAt : Nat
  offerSourceId : DeviceId
  folderId : Uuid
  offerIds : List Uuid
deriving DecidableEq

/-- Refusal history of a removal that a peer announced. -/
structure RemoteRemovalTombstone where
  peerId : DeviceId
  offerSourceId : DeviceId
  folderId : Uuid
  offerIds : List Uuid
deriving DecidableEq

/-- A withdrawal as the authenticated control channel carries it. -/
structure FolderRemovalNotice where
  requesterId : DeviceId
  targetId : DeviceId
  offerSourceId : DeviceId
  folderId : Uuid
  offerIds : List Uuid

/-- A folder whose index must be reset before its new root is used. -/
structure PendingRootReset where
  offerId : Uuid
  folderId : Uuid
  replacement : LocalRoot
deriving DecidableEq

/-- An address change that the core may or may not have taken yet. -/
structure PendingPeerAddressRefresh where
  expectedGrant : PeerGrant
  peerIdentity : PublicIdentity
  confirmedAt : Nat
  expectedTransport : TransportBinding
  candidateTransport : TransportBinding
  candidateEngine : SyncEngineBinding
deriving DecidableEq

structure CompletedPeerAddressRefresh where
  expectedTransport : TransportBinding
  candidateTransport : TransportBinding
  candidateEngine : SyncEngineBinding
deriving DecidableEq

/-! ## Link settings -/

/-- When a link transfers. -/
inductive LinkCadence where
  | manual
  | continuous
  | scheduled (intervalMinutes : Nat)
deriving DecidableEq

def minScheduleIntervalMinutes : Nat := 15
def maxScheduleIntervalMinutes : Nat := 525600

def LinkCadence.isValid : LinkCadence → Bool
  | .manual => true
  | .continuous => true
  | .scheduled minutes =>
    minScheduleIntervalMinutes ≤ minutes && minutes ≤ maxScheduleIntervalMinutes

structure AndroidLinkConditions where
  wifiOnly : Bool := false
  chargingOnly : Bool := false
deriving DecidableEq

/-- The decisions all members of a link share. -/
structure FolderLinkSettings where
  deletionPolicy : FolderLinkPolicy
  paused : Bool
  cadence : LinkCadence
  androidConditions : AndroidLinkConditions
deriving DecidableEq

def FolderLinkSettings.isValid (settings : FolderLinkSettings) : Bool :=
  settings.cadence.isValid

/-- A change of settings that a member asks the source for. -/
structure LinkSettingsRequest where
  folderId : Uuid
  sourceId : DeviceId
  requesterId : DeviceId
  changeId : Uuid
  expectedRevision : Nat
  settings : FolderLinkSettings
deriving DecidableEq

/-- The source's settings at one revision, addressed to one destination. -/
structure LinkSettingsCommit where
  folderId : Uuid
  sourceId : DeviceId
  targetId : DeviceId
  revision : Nat
  settings : FolderLinkSettings
  changeId : Uuid
  changedBy : DeviceId
  acceptedAt : Nat

/-- The settings of a link as one member knows them.  A new destination is not
confirmed until it has heard from the source. -/
structure LinkSettingsState where
  revision : Nat
  settings : FolderLinkSettings
  changeId : Uuid
  changedBy : DeviceId
  acceptedAt : Nat
  confirmed : Bool
  pendingChange : Option LinkSettingsRequest
  conflictedChange : Option LinkSettingsRequest
deriving DecidableEq

def LinkSettingsState.commit (state : LinkSettingsState) (folderId : Uuid)
    (sourceId targetId : DeviceId) : LinkSettingsCommit :=
  ⟨folderId, sourceId, targetId, state.revision, state.settings, state.changeId,
    state.changedBy, state.acceptedAt⟩

/-! ## Link runs -/

inductive LinkRunPhase where
  | preparing
  | running
  | succeeded
  | incomplete
  | interrupted
  | cancelled
deriving DecidableEq

def LinkRunPhase.active : LinkRunPhase → Bool
  | .preparing | .running => true
  | .succeeded | .incomplete | .interrupted | .cancelled => false

inductive LinkRunDestinationResult where
  | pending
  | succeeded
  | failed
  | timedOut
  | interrupted
  | cancelled
deriving DecidableEq

def LinkRunDestinationResult.terminal (result : LinkRunDestinationResult) : Bool :=
  result != .pending

structure LinkRunDestinationState where
  result : LinkRunDestinationResult
  endedAt : Option Nat
deriving DecidableEq

/-- One run of a link: who was chosen when it was admitted, and how far each got. -/
structure LinkRunState where
  generation : Nat
  stateRevision : Nat
  settingsRevision : Nat
  requestId : Uuid
  requestedBy : DeviceId
  phase : LinkRunPhase
  startedAt : Nat
  deadline : Nat
  endedAt : Option Nat
  sourceIndex : Option EngineIndexSnapshot
  destinations : BTreeMap DeviceId LinkRunDestinationState
deriving DecidableEq

structure LinkRunRequest where
  folderId : Uuid
  sourceId : DeviceId
  requesterId : DeviceId
  requestId : Uuid
  expectedGeneration : Nat
  settingsRevision : Nat
deriving DecidableEq

inductive LinkRunRejectionReason where
  | generationChanged
  | settingsChanged
deriving DecidableEq

structure LinkRunRejection where
  requesterId : DeviceId
  requestId : Uuid
  reason : LinkRunRejectionReason
deriving DecidableEq

/-- The source's run addressed to one destination. -/
structure LinkRunCommit where
  folderId : Uuid
  sourceId : DeviceId
  targetId : DeviceId
  state : Option LinkRunState
  acknowledgedRequestId : Option Uuid
  rejectedRequest : Option LinkRunRejection

structure LinkRunReport where
  folderId : Uuid
  sourceId : DeviceId
  reporterId : DeviceId
  generation : Nat
  settingsRevision : Nat
  sourceIndex : EngineIndexSnapshot
  result : LinkRunDestinationResult
  endedAt : Nat
deriving DecidableEq

inductive LinkRunAdmission where
  | accepted (state : LinkRunState)
  | pending (request : LinkRunRequest)
  | alreadyRunning (state : LinkRunState)
  | rejected (rejection : LinkRunRejection)

/-- What one member keeps about the runs of a link. -/
structure LinkRunLinkState where
  authoritative : Option LinkRunState := none
  pendingRequest : Option LinkRunRequest := none
  rejectedRequest : Option LinkRunRejection := none
  pendingReport : Option LinkRunReport := none
deriving DecidableEq

/-! ## Rosters and the snapshot -/

structure RosterEndpoint where
  deviceId : DeviceId
  displayName : String
deriving DecidableEq

/-- The members of a link as its source presents them. -/
structure EndpointRoster where
  revision : Nat
  label : String
  source : RosterEndpoint
  destinations : List RosterEndpoint
deriving DecidableEq

/-- Everything one node remembers about folder sharing. -/
structure Snapshot where
  schemaVersion : Nat
  owner : PublicIdentity
  binding : SyncEngineBinding
  listener : SocketAddr
  shares : List Share
  tombstones : List Tombstone
  freshnessFloor : Nat
  pendingRootReset : Option PendingRootReset
  pendingRemoteRemovals : List PendingRemoteRemoval
  remoteRemovalTombstones : List RemoteRemovalTombstone
  currentPeerRoutes : BTreeMap DeviceId SyncEngineBinding
  pendingPeerAddressRefresh : Option PendingPeerAddressRefresh
  completedPeerAddressRefreshes : BTreeMap DeviceId CompletedPeerAddressRefresh
  linkSettings : BTreeMap Uuid LinkSettingsState
  linkRuns : BTreeMap Uuid LinkRunLinkState
  endpointRosters : BTreeMap Uuid EndpointRoster
deriving DecidableEq

namespace Snapshot

def ownerId (snapshot : Snapshot) : DeviceId :=
  snapshot.owner.deviceId

/-- The run a member knows for a link. -/
def run? (snapshot : Snapshot) (folderId : Uuid) : Option LinkRunState :=
  (snapshot.linkRuns.get? folderId).bind LinkRunLinkState.authoritative

/-- No share is marked as removed.  Marked shares are only found in candidates: a
snapshot that was written has tombstones in their place. -/
def AllLive (snapshot : Snapshot) : Prop :=
  ∀ share ∈ snapshot.shares, share.removed = false

/-- The slot of a link, empty when nothing has been recorded yet. -/
def slot (snapshot : Snapshot) (folderId : Uuid) : LinkRunLinkState :=
  (snapshot.linkRuns.get? folderId).getD {}

end Snapshot

/-- The source of a link, read off its first live share. -/
def linkSourceInSnapshot (shares : List Share) (folderId : Uuid) : Option DeviceId :=
  (shares.find? (Share.isLinked · folderId)).map fun share => share.offer.sourceDeviceId

end Covalent.Sharing
