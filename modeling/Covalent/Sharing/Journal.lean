import Covalent.Base.Effect
import Covalent.Sharing.Validate

/-!
# The journal: replacing the snapshot

Every decision about folder sharing is a replacement of the durable snapshot.
`settle` is what happens to a candidate before it is written: runs lose the
members that left, removed shares become tombstones, links without members lose
their settings, runs and rosters, and the result is checked as a whole.  `persist`
writes it.

## Design notes

**The store.**  A replacement either succeeds, or fails before anything is
published, or fails afterwards; in the last case the open handle refuses all
further use and a restart finds the old record or the new one.

**The surroundings.**  One call sees one configuration of the core.  The wall
clock is read again at every write, so it is a function of the revision that is
being replaced, and so is the outcome of the write.
-/

namespace Covalent.Sharing

variable [Primitives]

open Primitives Effect

/-! ## Tombstones -/

section

variable (snapshot : Snapshot) (now : Nat)

/-- Whether a withdrawal of an offer is still to be delivered. -/
def pendingRemovalNames (offerId : Uuid) : Bool :=
  snapshot.pendingRemoteRemovals.any fun pending => pending.offerIds.contains offerId

/-- The tombstone of one offer of a share. -/
def Share.tombstone (share : Share) (owner : DeviceId) (offerId : Uuid)
    (supersededOfferIds : List Uuid) (issuedAt : Nat) : Tombstone :=
  { offerId := offerId
    supersededOfferIds := supersededOfferIds
    folderId := share.offer.folderId
    label := share.offer.label
    peerId := share.peerId
    incoming := share.offer.targetDeviceId == owner
    issuedAt := issuedAt }

/-- The tombstones a removed share leaves: one for each superseded offer that may
still arrive or is still to be withdrawn, and the terminal one, which is kept. -/
def Share.tombstones (share : Share) (snapshot : Snapshot) : List Tombstone :=
  ((share.supersededOffers.filter fun superseded =>
      decide (snapshot.freshnessFloor ≤ superseded.issuedAt) ||
        pendingRemovalNames snapshot superseded.offerId).map fun superseded =>
    share.tombstone snapshot.ownerId superseded.offerId [] superseded.issuedAt) ++
  [share.tombstone snapshot.ownerId share.offer.offerId share.supersededIds share.offer.issuedAt]

/-- Removed shares become tombstones. -/
def compactRemoved : Snapshot :=
  { snapshot with
    shares := snapshot.shares.filter fun share => !share.removed
    tombstones := snapshot.tombstones ++
      (snapshot.shares.filter fun share => share.removed).flatMap (Share.tombstones · snapshot) }

/-! ## Freshness -/

/-- Offers issued before this can not be fresh any more. -/
def freshnessFloor : Nat :=
  saturatingSub now (invitationLifetimeMs + 5 * 60 * 1000)

/-- Raise the floor and forget the tombstones of superseded offers below it. -/
def advanceFreshnessFloorCandidate : Snapshot :=
  let floor := freshnessFloor now
  if snapshot.freshnessFloor < floor then
    { snapshot with
      freshnessFloor := floor
      tombstones := snapshot.tombstones.filter fun removed =>
        !snapshot.tombstones.any (fun other => other.supersededOfferIds.contains removed.offerId) ||
          decide (floor ≤ removed.issuedAt) || pendingRemovalNames snapshot removed.offerId }
  else snapshot

/-! ## Settling a candidate -/

/-- A root reset whose share is gone is dropped. -/
def dropRootReset : Snapshot :=
  if snapshot.pendingRootReset.any fun pending =>
      !(snapshot.shares.find? fun share => share.offer.offerId == pending.offerId).any
        fun share => !share.removed then
    { snapshot with pendingRootReset := none }
  else snapshot

/-- A candidate after compaction and reconciliation, before it is checked. -/
def reconcile : Snapshot :=
  reconcileRunStates (reconcileLinkStates (reconcileRosters (compactRemoved snapshot)))

end

section

variable (node : Node) (env : Surroundings) (route : Option (SocketAddr × SocketAddr))

/-- The candidate as it would be written. -/
def settle (wallClock : Nat) (candidate : Snapshot) : Result Snapshot := do
  let candidate ← reconcileMembership (dropRootReset candidate) node.deviceId wallClock
  let candidate := reconcile candidate
  validateSnapshot node candidate
  pure candidate

/-! ## The open journal -/

/-- The durable record and its handle. -/
structure StateStore where
  record : Snapshot
  revision : Nat
  uncertain : Bool
deriving DecidableEq

/-- A fresh observation of the conditions of an Android host. -/
structure AndroidConditionObservation where
  wifiConnected : Bool
  charging : Bool
  observedAt : Nat
deriving DecidableEq

structure Journal where
  snapshot : Snapshot
  store : StateStore
  preparationIdentity : Nat
  androidHost : Bool
  androidConditionObservation : Option AndroidConditionObservation
deriving DecidableEq

/-- How the replacement of the durable record went. -/
inductive WriteOutcome where
  /-- Written, synced and read back. -/
  | written
  /-- Failed before anything was published. -/
  | refused
  /-- Failed afterwards; the record on disk may be the old or the new one. -/
  | uncertain (published : Bool)

/-- The peer trust of the core, as one atomic snapshot of its configuration. -/
structure NodeConfig where
  deviceName : String
  trustedPeers : BTreeMap DeviceId PeerGrant
  trustedPeerTransports : BTreeMap DeviceId TransportBinding

/-- What the operating system says about a directory. -/
structure FileMetadata where
  isDirectory : Bool
  device : Nat
  inode : Nat

/-- What one call of the journal meets outside. -/
structure Surroundings where
  config : Option NodeConfig
  storeReadable : Bool
  wallClock : Nat → Nat
  write : Nat → WriteOutcome
  canonicalize : String → Option String
  metadata : String → Option FileMetadata
  entropy : Option OfferEntropy
  freshId : Nat → Uuid
  freshId_ne_nil : ∀ position, freshId position ≠ Uuid.nil

/-- A call of the journal: it may change the journal and fail. -/
abbrev Action := EStateM SharingError Journal

/-- The durable record can be used. -/
def payload : Action Unit := do
  let journal ← get
  lift (refuse (journal.store.uncertain || !env.storeReadable) .persistenceUncertain)

/-- Write the next snapshot. -/
def replaceRecord (next : Snapshot) : Action Unit := do
  payload env
  let journal ← get
  let store := journal.store
  match env.write store.revision with
  | .written =>
    set { journal with store := ⟨next, store.revision + 1, false⟩, snapshot := next }
  | .refused => throw .persistenceUncertain
  | .uncertain published => do
    let record := if published then next else store.record
    set { journal with store := ⟨record, store.revision, true⟩ }
    throw .persistenceUncertain

/-- Settle a candidate and make it the durable snapshot. -/
def persist (candidate : Snapshot) : Action Unit := do
  let journal ← get
  let next ← lift (settle node (env.wallClock journal.store.revision) candidate)
  replaceRecord env next

/-! ## Peer trust -/

structure CurrentPeerTrust where
  identity : PublicIdentity
  transport : TransportBinding
  confirmedAt : Nat

/-- Whether a share was made with the peer as it is trusted now. -/
def CurrentPeerTrust.matchesShare (trust : CurrentPeerTrust) (share : Share) : Bool :=
  trust.identity == share.peerIdentity && trust.transport == share.peerTransport &&
    trust.confirmedAt == share.peerConfirmedAt

def CurrentPeerTrust.matchesRemoval (trust : CurrentPeerTrust)
    (pending : PendingRemoteRemoval) : Bool :=
  trust.identity == pending.peerIdentity && trust.transport == pending.peerTransport &&
    trust.confirmedAt == pending.peerConfirmedAt

/-- Read the trust in a peer.  An inconsistent configuration is an error, never a
verdict that the peer was revoked. -/
def observeTrust (config : NodeConfig) (peer : DeviceId) : Result (Option CurrentPeerTrust) :=
  match config.trustedPeers.get? peer, config.trustedPeerTransports.get? peer with
  | some grant, some transport =>
    if grant.revoked then .ok none
    else if grant.peerDeviceId != peer || transport.peerId != peer || grant.confirmedAt == 0 then
      .error .invalidState
    else
      match fromEncoded peer grant.publicKey with
      | none => .error .invalidState
      | some identity => .ok (some ⟨identity, transport, grant.confirmedAt⟩)
  | _, _ => .ok none

/-- The configuration, or an error when it cannot be read. -/
def Surroundings.readConfig : Result NodeConfig :=
  okOr env.config .invalidState

/-- A peer that is trusted now. -/
def trustedPeer (peer : DeviceId) : Result CurrentPeerTrust := do
  let config ← env.readConfig
  let trust ← observeTrust config peer
  okOr trust .untrustedPeer

/-- An address change in progress is still the one that was prepared. -/
def validatePendingPeerAddressRefresh (snapshot : Snapshot) : Result Unit :=
  match snapshot.pendingPeerAddressRefresh with
  | none => .ok ()
  | some pending => do
    let config ← env.readConfig
    let trust ← observeTrust config pending.peerIdentity.deviceId
    let current ← okOr trust .untrustedPeer
    refuse (current.identity != pending.peerIdentity ||
      current.confirmedAt != pending.confirmedAt ||
      config.trustedPeers.get? pending.peerIdentity.deviceId != some pending.expectedGrant ||
      (current.transport != pending.expectedTransport &&
        current.transport != pending.candidateTransport)) .invalidState

section

variable (config : NodeConfig) (snapshot : Snapshot)

/-- The peer of an address change in progress. -/
def pendingPeer : Option DeviceId :=
  snapshot.pendingPeerAddressRefresh.map fun pending => pending.peerIdentity.deviceId

/-- Ask whether each of a list of items is trusted, stopping at the first error. -/
def selectTrusted {α : Type} (trusted : α → Result Bool) :
    List α → Result (List (α × Bool))
  | [] => pure []
  | item :: rest => do
    let verdict ← trusted item
    let others ← selectTrusted trusted rest
    pure ((item, verdict) :: others)

/-- A live share stays while its peer is the one it was made with. -/
def shareTrusted (share : Share) : Result Bool :=
  if share.removed || some share.peerId == pendingPeer snapshot then pure true
  else do
    let trust ← observeTrust config share.peerId
    pure (trust.any (·.matchesShare share))

def removalTrusted (pending : PendingRemoteRemoval) : Result Bool :=
  if some pending.peerIdentity.deviceId == pendingPeer snapshot then pure true
  else do
    let trust ← observeTrust config pending.peerIdentity.deviceId
    pure (trust.any (·.matchesRemoval pending))

def routeTrusted (peer : DeviceId) : Result Bool :=
  if some peer == pendingPeer snapshot then pure true
  else do
    let trust ← observeTrust config peer
    pure trust.isSome

/-- The snapshot without the consent of peers that are not trusted any more. -/
def trustCandidate : Result Snapshot := do
  let shares ← selectTrusted (shareTrusted config snapshot) snapshot.shares
  let removals ← selectTrusted (removalTrusted config snapshot) snapshot.pendingRemoteRemovals
  let routes ← selectTrusted (routeTrusted config snapshot)
    (snapshot.currentPeerRoutes.keys ++ snapshot.completedPeerAddressRefreshes.keys)
  let trustedRoute (peer : DeviceId) : Bool := routes.any fun (other, verdict) =>
    verdict && other == peer
  pure
    { snapshot with
      shares := shares.map fun (share, verdict) =>
        if verdict then share else { share with removed := true }
      pendingRemoteRemovals := (removals.filter Prod.snd).map Prod.fst
      currentPeerRoutes := snapshot.currentPeerRoutes.retain fun peer _ => trustedRoute peer
      completedPeerAddressRefreshes :=
        snapshot.completedPeerAddressRefreshes.retain fun peer _ => trustedRoute peer }

end

/-- Remove every share whose peer is revoked, missing or bound to another key. -/
def reconcileTrust : Action Unit := do
  payload env
  let journal ← get
  lift (validatePendingPeerAddressRefresh env journal.snapshot)
  let config ← lift env.readConfig
  let next ← lift (trustCandidate config journal.snapshot)
  if next = journal.snapshot then pure () else persist node env next

/-! ## The shape of an operation -/

/-- What an operation decided: keep the snapshot, or replace it. -/
inductive Plan (α : Type) where
  | keep (value : α)
  | replace (candidate : Snapshot) (value : α)

/-- Carry out a decision.  The value is returned only once it is durable. -/
def carryOut {α : Type} (node : Node) (env : Surroundings) (plan : Result (Plan α)) : Action α := do
  match ← lift plan with
  | .keep value => pure value
  | .replace candidate value => do
    persist node env candidate
    pure value

/-- Decide on the current snapshot without looking at trust again. -/
def decideNow {α : Type} (node : Node) (env : Surroundings)
    (decision : Snapshot → Result (Plan α)) : Action α := do
  let journal ← get
  carryOut node env (decision journal.snapshot)

/-- Decide on the snapshot that is left once trust is reconciled. -/
def decideTrusted {α : Type} (node : Node) (env : Surroundings)
    (decision : Snapshot → Result (Plan α)) : Action α := do
  reconcileTrust node env
  decideNow node env decision

/-- Decide on the current snapshot if the durable record can be used. -/
def decideDurable {α : Type} (node : Node) (env : Surroundings)
    (decision : Snapshot → Result (Plan α)) : Action α := do
  payload env
  decideNow node env decision

/-- Make the freshness floor durable before it is relied on. -/
def advanceFreshnessFloor (now : Nat) : Action Unit :=
  decideNow node env fun snapshot =>
    if snapshot.freshnessFloor < freshnessFloor now then
      pure (.replace (advanceFreshnessFloorCandidate snapshot now) ())
    else pure (.keep ())

/-! ## Creating and opening -/

/-- The snapshot of a new installation. -/
def firstSnapshot (binding : SyncEngineBinding) (listener : SocketAddr) : Snapshot :=
  { schemaVersion := 1
    owner := node.publicIdentity
    binding := binding
    listener := listener
    shares := []
    tombstones := []
    freshnessFloor := 0
    pendingRootReset := none
    pendingRemoteRemovals := []
    remoteRemovalTombstones := []
    currentPeerRoutes := ∅
    pendingPeerAddressRefresh := none
    completedPeerAddressRefreshes := ∅
    linkSettings := ∅
    linkRuns := ∅
    endpointRosters := ∅ }

/-- The binding of this installation at an advertised address. -/
def currentBinding (advertised : String) : Result SyncEngineBinding := do
  let key ← okOr node.sshPublicKey .invalidState
  okOr (SyncEngineBinding.newAuthenticated node.deviceId node.engineDeviceId.text key
    advertised).toOption .invalidState

/-- Initialize a new installation. -/
def create (listener advertised : SocketAddr) (identity : Nat) : Result Journal := do
  let binding ← currentBinding node (renderSocketAddr advertised)
  let snapshot := firstSnapshot node binding listener
  validateSnapshot node snapshot
  pure ⟨snapshot, ⟨snapshot, 1, false⟩, identity, false, none⟩

def validateListenerRoute (listener advertised : SocketAddr) : Result Unit :=
  refuse (listener.port == 0 || listener.isIpv4 != advertised.isIpv4 || listener.ip.isMulticast ||
    (!listener.ip.isUnspecified && listener.ip != advertised.ip) ||
    !validRoute (renderSocketAddr advertised)) .invalidState

/-- The route to adopt: the given one, or the recorded one. -/
def routeToAdopt (snapshot : Snapshot) :
    Option (SocketAddr × SocketAddr) → Result (SocketAddr × String)
  | some (listener, advertised) => do
    validateListenerRoute listener advertised
    pure (listener, renderSocketAddr advertised)
  | none => pure (snapshot.listener, snapshot.binding.directAddress)

/-- Adopt the current local listener route. -/
def adoptRoute (snapshot : Snapshot) : Result (Plan Unit) := do
  let (listener, advertised) ← routeToAdopt snapshot route
  let binding ← currentBinding node advertised
  if snapshot.listener != listener || snapshot.binding != binding then
    pure (.replace { snapshot with listener := listener, binding := binding } ())
  else pure (.keep ())

/-- Open the durable record that an earlier process left, whatever became of that
process: adopt the route and drop the consent of peers that are not trusted any
more. -/
def openInner (identity : Nat) : Action Unit := do
  lift (refuse (!env.storeReadable) .invalidState)
  let left ← get
  lift (validateSnapshot node left.store.record)
  set (⟨left.store.record, { left.store with uncertain := false }, identity, false, none⟩ : Journal)
  decideNow node env (adoptRoute node route)
  let journal ← get
  if journal.snapshot.pendingPeerAddressRefresh.isNone then reconcileTrust node env
  else lift (validatePendingPeerAddressRefresh env journal.snapshot)

end

end Covalent.Sharing
