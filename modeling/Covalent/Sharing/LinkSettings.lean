import Covalent.Sharing.Snapshot

/-!
# Link settings in a snapshot

The settings of a link exist exactly as long as the link has a live member.
`reconcileLinkStates` enforces this whenever a snapshot is replaced, and
`validateLinkStates` checks what must hold of the settings of every link.
-/

namespace Covalent.Sharing

/-! ## Finding the source of a link -/

/-- The source of a link, or a refusal when there is no such link. -/
def linkSource (snapshot : Snapshot) (folderId : Uuid) : Result DeviceId :=
  okOr (linkSourceInSnapshot snapshot.shares folderId) .invalidRecord

/-! ## Reconciliation -/

/-- The settings a link starts from, read off the share that creates it. -/
def firstLinkState (owner : DeviceId) (offer : FolderShareOffer) (policy : FolderLinkPolicy) :
    LinkSettingsState :=
  { revision := 0
    settings :=
      { deletionPolicy := policy
        paused := false
        cadence := .continuous
        androidConditions := {} }
    changeId := Uuid.nil
    changedBy := offer.sourceDeviceId
    acceptedAt := offer.issuedAt
    confirmed := owner == offer.sourceDeviceId
    pendingChange := none
    conflictedChange := none }

/-- Record the first settings of the link a share belongs to, unless it has some. -/
def admitLinkState (owner : DeviceId) (settings : BTreeMap Uuid LinkSettingsState)
    (share : Share) : BTreeMap Uuid LinkSettingsState :=
  match share.removed, share.offer.linkPolicy with
  | false, some policy =>
    if settings.containsKey share.offer.folderId then settings
    else settings.insert share.offer.folderId (firstLinkState owner share.offer policy)
  | _, _ => settings

/-- Drop the settings of ended links and give new links their first settings. -/
def reconcileLinkStates (snapshot : Snapshot) : Snapshot :=
  let kept := snapshot.linkSettings.retain fun id _ => snapshot.shares.any (Share.isLinked · id)
  { snapshot with
    linkSettings := snapshot.shares.foldl (admitLinkState snapshot.ownerId) kept }

/-! ## Validation -/

def LinkCadence.isScheduled : LinkCadence → Bool
  | .scheduled _ => true
  | .manual | .continuous => false

/-- Check a request that a destination keeps. -/
def checkKeptRequest (owner source : DeviceId) (folderId : Uuid) (revision : Nat)
    (request : LinkSettingsRequest) : Result Unit :=
  refuse (source == owner || request.sourceId != source || request.requesterId != owner ||
    request.folderId != folderId || request.changeId.isNil ||
    decide (revision < request.expectedRevision)) .invalidState

def checkLinkState (snapshot : Snapshot) (entry : Uuid × LinkSettingsState) : Result Unit := do
  let owner := snapshot.ownerId
  let (folderId, state) := entry
  let source ← okOr (linkSourceInSnapshot snapshot.shares folderId) .invalidState
  refuse ((state.revision == 0) != state.changeId.isNil || !state.settings.isValid ||
    (state.settings.cadence.isScheduled && state.acceptedAt == 0) ||
    (source == owner && (!state.confirmed || state.pendingChange.isSome)) ||
    (state.revision == 0 && state.changedBy != source) ||
    (!state.confirmed && state.revision != 0)) .invalidState
  checkEach (checkKeptRequest owner source folderId state.revision)
    (state.pendingChange.toList ++ state.conflictedChange.toList)

/-- Check the settings of all links. -/
def validateLinkStates (snapshot : Snapshot) : Result Unit := do
  checkEach (checkLinkState snapshot) snapshot.linkSettings.entries
  checkEach
    (fun share => refuse (!snapshot.linkSettings.containsKey share.offer.folderId) .invalidState)
    (snapshot.shares.filter fun share => !share.removed && share.offer.linkPolicy.isSome)

end Covalent.Sharing
