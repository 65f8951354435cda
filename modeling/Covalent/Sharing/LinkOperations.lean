import Covalent.Sharing.Operations

/-!
# Link operations

The operations on the settings and the runs of one-way links.  The source of a
link decides: it numbers the changes of settings and admits the runs.  A
destination records its own request until the source answers it, and takes over
what the source commits.
-/

namespace Covalent.Sharing

variable [Primitives] (node : Node) (env : Surroundings)

open Primitives Effect
open Transfer (EngineIndexSnapshot)

/-! ## Settings -/

/-- The next revision of the settings, as a request asks for it. -/
def LinkSettingsState.apply (state : LinkSettingsState) (request : LinkSettingsRequest)
    (revision now : Nat) : LinkSettingsState :=
  { state with
    revision := revision
    settings := request.settings
    changeId := request.changeId
    changedBy := request.requesterId
    acceptedAt := now
    pendingChange := none
    conflictedChange := none }

/-- Apply a request at the source.  The active run ends with the old settings. -/
def commitLinkRequest (request : LinkSettingsRequest) (now : Nat) (snapshot : Snapshot) :
    Result Snapshot := do
  refuse (now == 0) .invalidRecord
  let state ← okOr (snapshot.linkSettings.get? request.folderId) .invalidState
  refuse (state.revision != request.expectedRevision || decide (now < state.acceptedAt))
    .settingsConflict
  let revision ← okOr (checkedAdd state.revision 1) .limitExceeded
  let next := { snapshot with
    linkSettings := snapshot.linkSettings.insert request.folderId
      (state.apply request revision now) }
  cancelForSettingsChange next request.folderId now

/-- Whether settings are the result of exactly this request. -/
def resultOf (state : LinkSettingsState) (request : LinkSettingsRequest) : Bool :=
  state.settings == request.settings && state.changedBy == request.requesterId &&
    checkedAdd request.expectedRevision 1 == some state.revision

section

variable (folderId changeId : Uuid) (expectedRevision : Nat) (settings : FolderLinkSettings)
  (now : Nat)

/-- Ask for new settings: at the source they are applied, at a destination the
request is kept until the source answers. -/
def planRequestLinkSettings (snapshot : Snapshot) : Result (Plan Unit) := do
  let sourceId ← linkSource snapshot folderId
  let state ← okOr (snapshot.linkSettings.get? folderId) .invalidState
  refuse (changeId.isNil || !state.confirmed || !settings.isValid) .invalidRecord
  let request : LinkSettingsRequest :=
    ⟨folderId, sourceId, node.deviceId, changeId, expectedRevision, settings⟩
  if state.changeId == changeId then
    if resultOf state request then pure (.keep ()) else throw .invalidRecord
  else do
    refuse (expectedRevision != state.revision) .settingsConflict
    match state.pendingChange with
    | some pending => if pending == request then pure (.keep ()) else throw .settingsPending
    | none =>
      if sourceId == node.deviceId then do
        let next ← commitLinkRequest request now snapshot
        pure (.replace next ())
      else do
        refuse (!snapshot.shares.any fun share => !share.removed && share.commit.isSome &&
          share.offer.folderId == folderId && share.offer.sourceDeviceId == sourceId)
          .invalidRecord
        let waiting := { state with pendingChange := some request, conflictedChange := none }
        pure (.replace { snapshot with
          linkSettings := snapshot.linkSettings.insert folderId waiting } ())

def requestLinkSettingsAt : Action Unit :=
  decideTrusted node env
    (planRequestLinkSettings node folderId changeId expectedRevision settings now)

end

/-- Decide a request at the source.  A request that comes too late is not applied;
its sender learns of the current revision. -/
def planReceiveLinkSettingsRequest (request : LinkSettingsRequest) (now : Nat)
    (snapshot : Snapshot) : Result (Plan Unit) := do
  refuse (request.sourceId != node.deviceId || request.changeId.isNil) .invalidRecord
  let source ← linkSource snapshot request.folderId
  refuse (source != node.deviceId || !request.settings.isValid) .invalidRecord
  let peer ← trustedPeer env request.requesterId
  refuse (!snapshot.shares.any fun share => !share.removed && share.commit.isSome &&
    share.offer.folderId == request.folderId &&
    share.offer.targetDeviceId == request.requesterId && peer.matchesShare share) .untrustedPeer
  let current ← okOr (snapshot.linkSettings.get? request.folderId) .invalidState
  if current.changeId == request.changeId then
    if resultOf current request then pure (.keep ()) else throw .invalidRecord
  else if current.revision == request.expectedRevision then do
    let next ← commitLinkRequest request now snapshot
    pure (.replace next ())
  else pure (.keep ())

def receiveLinkSettingsRequestAt (request : LinkSettingsRequest) (now : Nat) :
    Action LinkSettingsCommit := do
  decideTrusted node env (planReceiveLinkSettingsRequest node env request now)
  let journal ← get
  let state ← lift (okOr (journal.snapshot.linkSettings.get? request.folderId)
    SharingError.invalidState)
  pure (state.commit request.folderId node.deviceId request.requesterId)

/-- Take over what the source committed.  A pending request is thereby accepted,
or kept as a conflict when another change came first. -/
def LinkSettingsState.adopt (current : LinkSettingsState) (commit : LinkSettingsCommit) :
    Result LinkSettingsState :=
  let state := { current with
    revision := commit.revision
    settings := commit.settings
    changeId := commit.changeId
    changedBy := commit.changedBy
    acceptedAt := commit.acceptedAt
    confirmed := true }
  match state.pendingChange with
  | none => pure state
  | some pending =>
    if pending.changeId == commit.changeId && pending.requesterId == commit.changedBy then do
      refuse (pending.settings != commit.settings ||
        checkedAdd pending.expectedRevision 1 != some commit.revision) .invalidRecord
      pure { state with pendingChange := none, conflictedChange := none }
    else if pending.expectedRevision < commit.revision then
      pure { state with conflictedChange := some pending, pendingChange := none }
    else pure state

/-- Whether a commit says of its revision what this device already knows. -/
def LinkSettingsState.agreesWith (state : LinkSettingsState) (commit : LinkSettingsCommit) : Bool :=
  commit.settings == state.settings && commit.changeId == state.changeId &&
    commit.changedBy == state.changedBy && commit.acceptedAt == state.acceptedAt

/-- Record a settings commit of the source at a destination. -/
def planReceiveLinkSettingsCommit (commit : LinkSettingsCommit) (snapshot : Snapshot) :
    Result (Plan Unit) := do
  refuse (commit.targetId != node.deviceId || commit.sourceId == node.deviceId) .invalidRecord
  let source ← linkSource snapshot commit.folderId
  refuse (source != commit.sourceId || (commit.revision == 0) != commit.changeId.isNil ||
    !commit.settings.isValid || commit.acceptedAt == 0) .invalidRecord
  let peer ← trustedPeer env commit.sourceId
  refuse (!snapshot.shares.any fun share => !share.removed && share.commit.isSome &&
    share.offer.folderId == commit.folderId && peer.matchesShare share) .untrustedPeer
  let current ← okOr (snapshot.linkSettings.get? commit.folderId) .invalidState
  -- A delayed older commit cannot roll settings back.
  if commit.revision < current.revision then pure (.keep ())
  else do
    refuse (current.confirmed && decide (current.revision < commit.revision) &&
      decide (commit.acceptedAt < current.acceptedAt)) .invalidRecord
    refuse (commit.revision == 0 && commit.changedBy != commit.sourceId) .invalidRecord
    refuse (current.confirmed && commit.revision == current.revision &&
      !current.agreesWith commit) .invalidRecord
    let state ← current.adopt commit
    if state = current then pure (.keep ())
    else do
      let next ← cancelForSettingsChange
        { snapshot with linkSettings := snapshot.linkSettings.insert commit.folderId state }
        commit.folderId commit.acceptedAt
      pure (.replace next ())

def receiveLinkSettingsCommit (commit : LinkSettingsCommit) : Action Unit :=
  decideTrusted node env (planReceiveLinkSettingsCommit node env commit)

/-- What pausing a share comes to: nothing, a change of the link's settings, or a
local decision about a historical share. -/
inductive PauseDecision where
  | unchanged
  | linkSettings (folderId : Uuid) (revision : Nat) (settings : FolderLinkSettings)
  | share

def decidePause (offerId : Uuid) (paused : Bool) (snapshot : Snapshot) : Result PauseDecision := do
  let share ← index snapshot offerId
  match snapshot.linkSettings.get? share.offer.folderId with
  | some state =>
    match state.pendingChange with
    | some pending =>
      if pending.settings.paused == paused then pure .unchanged else throw .settingsPending
    | none =>
      if state.settings.paused == paused then pure .unchanged
      else pure (.linkSettings share.offer.folderId state.revision
        { state.settings with paused := paused })
  | none => if share.paused == paused then pure .unchanged else pure .share

/-- Persist a pause or a resumption. -/
def setPaused (offerId : Uuid) (paused : Bool) : Action Unit := do
  reconcileTrust node env
  let journal ← get
  match ← lift (decidePause offerId paused journal.snapshot) with
  | .unchanged => pure ()
  | .linkSettings folderId revision settings =>
    requestLinkSettingsAt node env folderId (env.freshId 0) revision settings
      (env.wallClock journal.store.revision)
  | .share =>
    persist node env
      (journal.snapshot.updateShare offerId fun share => { share with paused := paused })

/-! ## Runs at the source -/

section

variable (report : LinkRunReport) (now : Nat) (snapshot : Snapshot)

section

variable (folderId : Uuid) (generation : Nat) (sourceIndex : EngineIndexSnapshot) (now : Nat)

/-- Replace the run of a link that has a slot. -/
def Snapshot.setRun (state : LinkRunState) : Snapshot :=
  { snapshot with
    linkRuns := snapshot.linkRuns.insert folderId
      { snapshot.slot folderId with authoritative := some state } }

/-- Ask for a run: at the source it is decided, at a destination the request is kept
until the source answers. -/
def planRequestLinkRun (folderId requestId : Uuid) (expectedGeneration settingsRevision now : Nat)
    (snapshot : Snapshot) : Result (Plan LinkRunAdmission) := do
  refuse (requestId.isNil || now == 0) .invalidRecord
  let sourceId ← linkSource snapshot folderId
  let request : LinkRunRequest :=
    ⟨folderId, sourceId, node.deviceId, requestId, expectedGeneration, settingsRevision⟩
  if sourceId == node.deviceId then do
    let (next, admission, changed) ← admitSourceRequest snapshot request now false
    pure (if changed then .replace next admission else .keep admission)
  else do
    validateRequestMembership snapshot request
    let settings ← okOr (snapshot.linkSettings.get? folderId) .invalidState
    refuse (!settings.confirmed || settings.revision != settingsRevision) .settingsConflict
    match (snapshot.run? folderId).filter (answersRequest request) with
    | some current => pure (.keep (.alreadyRunning current))
    | none => do
      refuse (currentGeneration snapshot folderId != expectedGeneration) .runConflict
      let slot := snapshot.slot folderId
      match slot.pendingRequest with
      | some pending =>
        if pending == request then pure (.keep (.pending request)) else throw .runPending
      | none =>
        let waiting := { slot with pendingRequest := some request, rejectedRequest := none }
        pure (.replace { snapshot with linkRuns := snapshot.linkRuns.insert folderId waiting }
          (.pending request))

def requestLinkRun (folderId requestId : Uuid) (expectedGeneration settingsRevision now : Nat) :
    Action LinkRunAdmission :=
  decideTrusted node env
    (planRequestLinkRun node folderId requestId expectedGeneration settingsRevision now)

/-- Decide a destination's request and answer it. -/
def planReceiveLinkRunRequest (request : LinkRunRequest) (now : Nat) (snapshot : Snapshot) :
    Result (Plan LinkRunCommit) := do
  refuse (request.sourceId != node.deviceId || request.requestId.isNil) .invalidRecord
  validateRequestMembership snapshot request
  let (next, _, changed) ← admitSourceRequest snapshot request now false
  let commit ← commitForTarget next request.folderId request.requesterId
  let commit := { commit with acknowledgedRequestId := some request.requestId }
  pure (if changed then .replace next commit else .keep commit)

def receiveLinkRunRequest (request : LinkRunRequest) (now : Nat) : Action LinkRunCommit :=
  decideTrusted node env (planReceiveLinkRunRequest node request now)

def sourceRun : Result LinkRunState := do
  let source ← linkSource snapshot folderId
  refuse (source != node.deviceId) .invalidRecord
  okOr (snapshot.run? folderId) .invalidState

/-- The source's index is known: the destinations may transfer. -/
def planStartLinkRun (snapshot : Snapshot) : Result (Plan LinkRunState) := do
  refuse (!indexIsValid sourceIndex || now == 0) .invalidRecord
  let state ← sourceRun node snapshot folderId
  refuse (state.generation != generation || state.phase != .preparing) .runConflict
  refuse (decide (now < state.startedAt) || decide (state.deadline ≤ now)) .runConflict
  let stateRevision ← nextStateRevision state.stateRevision
  let started := { state with
    phase := .running, stateRevision := stateRevision, sourceIndex := some sourceIndex }
  pure (.replace (snapshot.setRun folderId started) started)

def startLinkRun : Action LinkRunState :=
  decideNow node env (planStartLinkRun node folderId generation sourceIndex now)

/-- Give up a run that could not be started. -/
def planInterruptLinkRun (generation now : Nat) (snapshot : Snapshot) : Result (Plan Unit) := do
  refuse (now == 0) .invalidRecord
  let state ← sourceRun node snapshot folderId
  refuse (state.generation != generation || state.phase != .preparing ||
    decide (now < state.startedAt) || decide (state.deadline ≤ now)) .runConflict
  let ended ← endRun .interrupted .interrupted now state
  pure (.replace (snapshot.setRun folderId ended) ())

def interruptLinkRun (generation now : Nat) : Action Unit :=
  decideNow node env (planInterruptLinkRun node folderId generation now)

end

def LinkRunDestinationResult.isReport (result : LinkRunDestinationResult) : Bool :=
  result == .succeeded || result == .failed

/-- Record a destination's report.  Reports about runs that are over change
nothing. -/
def planReceiveLinkRunReport : Result (Plan LinkRunState) := do
  refuse (report.sourceId != node.deviceId || !indexIsValid report.sourceIndex ||
    !report.result.isReport || report.endedAt == 0 || decide (now < report.endedAt) || now == 0)
    .invalidRecord
  validateReporterMembership snapshot report
  let state ← okOr (snapshot.run? report.folderId) .invalidState
  if report.generation < state.generation ||
      (report.generation == state.generation && !state.phase.active) then pure (.keep state)
  else do
    refuse (state.generation != report.generation ||
      state.settingsRevision != report.settingsRevision ||
      state.sourceIndex != some report.sourceIndex || decide (report.endedAt < state.startedAt) ||
      decide (state.deadline ≤ report.endedAt)) .runConflict
    let destination ← okOr (state.destinations.get? report.reporterId) .invalidRecord
    if destination.result.terminal then do
      refuse (destination.result != report.result || destination.endedAt != some report.endedAt)
        .invalidRecord
      pure (.keep state)
    else do
      refuse (state.phase != .running) .runConflict
      let stateRevision ← nextStateRevision state.stateRevision
      let reported := finishIfTerminal
        { state with
          destinations := state.destinations.insert report.reporterId
            ⟨report.result, some report.endedAt⟩
          stateRevision := stateRevision } now
      pure (.replace (snapshot.setRun report.folderId reported) reported)

def receiveLinkRunReport : Action LinkRunState :=
  decideTrusted node env (planReceiveLinkRunReport node report now)

/-- Change the run of every link whose source is the owner. -/
def updateSourceRuns (owner : DeviceId) (change : LinkRunState → Result LinkRunState)
    (snapshot : Snapshot) : Result Snapshot := do
  let linkRuns ← snapshot.linkRuns.mapValuesM fun folderId slot =>
    if snapshot.shares.any (fun share => !share.removed && share.offer.sourceDeviceId == owner &&
        share.offer.folderId == folderId) then
      match slot.authoritative with
      | none => pure slot
      | some state => do
        let state ← change state
        pure { slot with authoritative := some state }
    else pure slot
  pure { snapshot with linkRuns := linkRuns }

/-- A run that is past its deadline ends there. -/
def expireRun (state : LinkRunState) : Result LinkRunState :=
  if state.phase.active && decide (state.deadline ≤ now) then
    endRun .incomplete .timedOut state.deadline state
  else pure state

/-- An active run ends when the node starts anew. -/
def interruptRun (state : LinkRunState) : Result LinkRunState :=
  if state.phase.active then do
    refuse (decide (now < state.startedAt)) .invalidRecord
    endRun .interrupted .interrupted now state
  else pure state

/-- Replace the snapshot if a bulk change of runs changed any. -/
def planBulk (change : Snapshot → Result Snapshot) (snapshot : Snapshot) : Result (Plan Bool) := do
  let next ← change snapshot
  pure (if next = snapshot then .keep false else .replace next true)

def expireLinkRuns : Action Bool :=
  decideNow node env (planBulk (updateSourceRuns node.deviceId (expireRun now)))

def interruptUnfinishedLinkRuns : Action Bool := do
  lift (refuse (now == 0) .invalidRecord)
  decideNow node env (planBulk (updateSourceRuns node.deviceId (interruptRun now)))

end

/-- Cancel the destinations of runs that left their link. -/
def reconcileLinkRunMembership (folderId : Uuid) (now : Nat) : Action Bool :=
  decideNow node env fun snapshot => do
    refuse (now == 0 || !snapshot.shares.any fun share =>
      share.offer.folderId == folderId && share.offer.sourceDeviceId == node.deviceId)
      .invalidRecord
    planBulk (fun snapshot => reconcileMembership snapshot node.deviceId now) snapshot

/-! ## Scheduling -/

/-- The time between two runs of a link that starts them by itself. -/
def LinkCadence.intervalMs : LinkCadence → Option Nat
  | .continuous => some continuousCheckIntervalMs
  | .scheduled minutes => some (minutes * 60000)
  | .manual => none

section

variable (names : DisplayNames) (snapshot : Snapshot)

/-- Whether a link of this node is due: its last run, or its settings, are old
enough. -/
def isDue (now : Nat) (folderId : Uuid) (settings : LinkSettingsState) : Bool :=
  linkSourceInSnapshot snapshot.shares folderId == some node.deviceId && settings.confirmed &&
    !settings.settings.paused &&
    settings.settings.cadence.intervalMs.any fun interval =>
      let base := ((snapshot.run? folderId).bind LinkRunState.endedAt).getD settings.acceptedAt
      (checkedAdd base interval).any fun dueAt => base != 0 && decide (dueAt ≤ now)

/-- The links of this node that are due, in the order of their folders. -/
def dueLinks (now : Nat) : List Uuid :=
  (snapshot.linkSettings.entries.filter fun (folderId, settings) =>
    isDue node snapshot now folderId settings).map Prod.fst

/-- The request a source makes to itself for a due link. -/
def dueRequest (folderId requestId : Uuid) (settings : LinkSettingsState) : LinkRunRequest :=
  ⟨folderId, node.deviceId, node.deviceId, requestId, currentGeneration snapshot folderId,
    settings.revision⟩

/-- Admit a run for each of the due links that has none active. -/
def admitDue (node : Node) (env : Surroundings) (now : Nat) :
    Nat → List Uuid → Snapshot → Result (Snapshot × List LinkRunState)
  | _, [], next => pure (next, [])
  | position, folderId :: rest, next =>
    if (next.run? folderId).any fun state => state.phase.active then
      admitDue node env now (position + 1) rest next
    else do
      let settings ← okOr (next.linkSettings.get? folderId) .invalidState
      let request := dueRequest node next folderId (env.freshId position) settings
      let (next, admission, _) ← admitSourceRequest next request now true
      let (next, admitted) ← admitDue node env now (position + 1) rest next
      match admission with
      | .accepted state => pure (next, state :: admitted)
      | _ => pure (next, admitted)

/-- Admit the runs that are due. -/
def planAdmitDueLinkRuns (now : Nat) (snapshot : Snapshot) : Result (Plan (List LinkRunState)) := do
  let (next, admitted) ← admitDue node env now 0 (dueLinks node snapshot now) snapshot
  pure (if admitted.isEmpty then .keep admitted else .replace next admitted)

def admitDueLinkRuns (now : Nat) : Action (List LinkRunState) :=
  decideTrusted node env (planAdmitDueLinkRuns node env now)

/-! ## Runs at a destination -/

section

variable (folderId : Uuid) (generation : Nat) (sourceIndex : EngineIndexSnapshot)
  (result : LinkRunDestinationResult)

/-- Retain the outcome of this device's part of a run until the source has it. -/
def planCompleteLinkRun (now : Nat) (snapshot : Snapshot) : Result (Plan LinkRunReport) := do
  refuse (!indexIsValid sourceIndex || !result.isReport || now == 0) .invalidRecord
  let sourceId ← linkSource snapshot folderId
  refuse (sourceId == node.deviceId) .invalidRecord
  let current ← okOr (snapshot.run? folderId) .invalidState
  refuse (current.generation != generation || current.phase != .running ||
    current.sourceIndex != some sourceIndex || !current.destinations.containsKey node.deviceId ||
    decide (now < current.startedAt) || decide (current.deadline ≤ now)) .runConflict
  let report : LinkRunReport :=
    ⟨folderId, sourceId, node.deviceId, generation, current.settingsRevision, sourceIndex, result,
      now⟩
  let slot := snapshot.slot folderId
  match slot.pendingReport with
  | some pending => if pending == report then pure (.keep report) else throw .runConflict
  | none =>
    pure (.replace
      { snapshot with
        linkRuns := snapshot.linkRuns.insert folderId { slot with pendingReport := some report } }
      report)

def completeLinkRun (now : Nat) : Action LinkRunReport :=
  decideNow node env (planCompleteLinkRun node folderId generation sourceIndex result now)

end

section

variable (slot : LinkRunLinkState) (owner : DeviceId) (commit : LinkRunCommit)

/-- A run commit comes from the source of a committed share and shows this device
only itself. -/
def validateCommitForLocal : Result Unit := do
  refuse (commit.targetId != owner || commit.sourceId == owner ||
    linkSourceInSnapshot snapshot.shares commit.folderId != some commit.sourceId ||
    !snapshot.shares.any fun share => !share.removed && share.commit.isSome &&
      share.offer.folderId == commit.folderId && share.offer.sourceDeviceId == commit.sourceId &&
      share.offer.targetDeviceId == owner) .invalidRecord
  match commit.state with
  | some state => do
    refuse (state.requestId.isNil || state.generation == 0 || state.stateRevision == 0 ||
      !state.destinations.containsKey owner || state.destinations.keys.any (· != owner))
      .invalidRecord
    validateRunState state
  | none => refuse commit.rejectedRequest.isNone .invalidRecord
  refuse (commit.acknowledgedRequestId.any Uuid.isNil) .invalidRecord
  refuse (commit.rejectedRequest.any fun rejected =>
    rejected.requesterId != owner || rejected.requestId.isNil) .invalidRecord

/-- An incoming run is older than the recorded one. -/
def olderRun (incoming current : LinkRunState) : Bool :=
  decide (incoming.generation < current.generation) || (incoming.generation == current.generation &&
      decide (incoming.stateRevision < current.stateRevision))

/-- Whether a commit rejects the pending request of a slot. -/
def rejectsPending : Bool :=
  slot.pendingRequest.any fun request => commit.rejectedRequest.any fun rejected =>
    rejected.requestId == request.requestId && rejected.requesterId == request.requesterId

/-- Whether a commit answers the pending request of a slot in any way. -/
def answersPending : Bool :=
  slot.pendingRequest.any fun request =>
    commit.state.any (fun state => request.requestId == state.requestId) ||
      commit.acknowledgedRequestId == some request.requestId ||
      commit.rejectedRequest.any fun rejected => rejected.requestId == request.requestId

/-- Whether a commit shows that the source has this device's report, or that it came
too late. -/
def settlesReport (report : LinkRunReport) (state : LinkRunState) : Bool :=
  decide (report.generation < state.generation) ||
    (state.generation == report.generation && (!state.phase.active ||
      (state.destinations.get? owner).any fun destination => destination.result == report.result))

/-- The slot of a link once a run commit is recorded. -/
def LinkRunLinkState.record : LinkRunLinkState :=
  { authoritative := commit.state.or slot.authoritative
    pendingRequest := if answersPending slot commit then none else slot.pendingRequest
    rejectedRequest := if rejectsPending slot commit then commit.rejectedRequest else none
    pendingReport :=
      if commit.state.any (fun state => slot.pendingReport.any (settlesReport owner · state)) then
        none
      else slot.pendingReport }

end

/-- Record a run commit of the source at a destination. -/
def planReceiveLinkRunCommit (commit : LinkRunCommit) (snapshot : Snapshot) :
    Result (Plan Unit) := do
  validateCommitForLocal snapshot node.deviceId commit
  let current := snapshot.run? commit.folderId
  let slot := snapshot.slot commit.folderId
  let known := current.any fun current => commit.state.any fun incoming => olderRun incoming current
  if known then pure (.keep ())
  else do
    refuse (current.any fun current => commit.state.any fun incoming =>
      incoming.generation == current.generation &&
        incoming.stateRevision == current.stateRevision && current != incoming) .invalidRecord
    if commit.state.isNone && !rejectsPending slot commit then pure (.keep ())
    else
      pure (.replace
        { snapshot with
          linkRuns := snapshot.linkRuns.insert commit.folderId (slot.record node.deviceId commit) }
        ())

def receiveLinkRunCommit (commit : LinkRunCommit) : Action Unit :=
  decideTrusted node env (planReceiveLinkRunCommit node commit)

/-! ## Rosters -/

/-- Local names that override those of the records. -/
structure DisplayNames where
  folders : BTreeMap Uuid String
  peers : BTreeMap DeviceId String

structure EndpointRosterCommit where
  sourceId : DeviceId
  targetId : DeviceId
  folderId : Uuid
  offerId : Uuid
  roster : EndpointRoster

/-- Everything that is delivered to a peer. -/
inductive FolderShareRecord where
  | offer (offer : FolderShareOffer)
  | acceptance (offerId : Uuid) (acceptance : FolderShareAcceptance)
  | commit (offerId : Uuid) (commit : FolderShareCommit)
  | removal (notice : FolderRemovalNotice)
  | settingsRequest (request : LinkSettingsRequest)
  | settingsCommit (commit : LinkSettingsCommit)
  | runRequest (request : LinkRunRequest)
  | runCommit (commit : LinkRunCommit)
  | runReport (report : LinkRunReport)
  | endpointRoster (commit : EndpointRosterCommit)

structure FolderShareDelivery where
  peerTransport : TransportBinding
  record : FolderShareRecord

/-- The members of the owner's links whose trust still stands. -/
def presentedShares (config : NodeConfig) (snapshot : Snapshot) : Result (List Share) := do
  let members := snapshot.shares.filter fun share =>
    !share.removed && share.offer.sourceDeviceId == node.deviceId && share.offer.linkPolicy.isSome
  let verdicts ← selectTrusted (fun share => do
      let trust ← observeTrust config share.peerId
      pure (trust.any (·.matchesShare share)))
    members
  pure ((verdicts.filter Prod.snd).map Prod.fst)

/-- The roster of one link, with the revision it had. -/
def presentRoster (config : NodeConfig) (names : DisplayNames) (snapshot : Snapshot)
    (folderId : Uuid) (shares : List Share) : Result EndpointRoster := do
  let destinations := shares.map fun share =>
    ({ deviceId := share.peerId
       displayName := (names.peers.get? share.peerId).getD
         ((config.trustedPeers.get? share.peerId).elim "" PeerGrant.displayName) } :
      RosterEndpoint)
  let current := snapshot.endpointRosters.get? folderId
  let label := (names.folders.get? folderId).getD
    (shares.head?.elim "" fun share => share.offer.label)
  let roster : EndpointRoster :=
    { revision := current.elim 1 EndpointRoster.revision
      label := label
      source := ⟨node.deviceId, config.deviceName⟩
      destinations := destinations.mergeSort fun left right => left.deviceId ≤ right.deviceId }
  roster.validate
  match current with
  | none => pure roster
  | some known =>
    if known = roster then pure roster
    else do
      let revision ← okOr (checkedAdd known.revision 1) .limitExceeded
      pure { roster with revision := revision }

/-- Recompute the rosters of the owner's links, folder by folder. -/
def presentRosters (node : Node) (config : NodeConfig) (names : DisplayNames)
    (snapshot : Snapshot) (shares : List Share) :
    List Uuid → Result (List (Uuid × EndpointRoster))
  | [] => pure []
  | folderId :: rest => do
    let members := shares.filter fun share => share.offer.folderId == folderId
    let roster ← presentRoster node config names snapshot folderId members
    let others ← presentRosters node config names snapshot shares rest
    pure ((folderId, roster) :: others)

def planEndpointRosters : Result (Plan (List FolderShareDelivery)) := do
  let config ← env.readConfig
  let shares ← presentedShares node config snapshot
  let folders := (BTreeMap.ofList (shares.map fun share => (share.offer.folderId, ()))).keys
  let rosters ← presentRosters node config names snapshot shares folders
  let deliveries := rosters.flatMap fun (folderId, roster) =>
    (shares.filter fun share => share.offer.folderId == folderId).map fun share =>
      (⟨share.peerTransport, .endpointRoster
        ⟨node.deviceId, share.offer.targetDeviceId, folderId, share.offer.offerId, roster⟩⟩ :
        FolderShareDelivery)
  let endpointRosters := snapshot.endpointRosters.extendList rosters
  pure (if endpointRosters = snapshot.endpointRosters then .keep deliveries
    else .replace { snapshot with endpointRosters := endpointRosters } deliveries)

def endpointRosterRecords : Action (List FolderShareDelivery) :=
  decideDurable node env (planEndpointRosters node env names)

/-- Keep the roster that the source of a link presents. -/
def planReceiveEndpointRoster (commit : EndpointRosterCommit) (snapshot : Snapshot) :
    Result (Plan Unit) := do
  let owner := node.deviceId
  commit.roster.validate
  refuse (commit.targetId != owner || commit.sourceId == owner ||
    commit.roster.source.deviceId != commit.sourceId ||
    !commit.roster.destinations.any fun endpoint => endpoint.deviceId == owner) .invalidRecord
  let trust ← trustedPeer env commit.sourceId
  refuse (!snapshot.shares.any fun share => share.isLinked commit.folderId &&
    share.offer.offerId == commit.offerId && share.offer.sourceDeviceId == commit.sourceId &&
    share.offer.targetDeviceId == owner && trust.matchesShare share) .untrustedPeer
  let current := snapshot.endpointRosters.get? commit.folderId
  if current == some commit.roster then pure (.keep ())
  else do
    refuse (current.any fun known => decide (commit.roster.revision ≤ known.revision))
      .invalidRecord
    pure (.replace
      { snapshot with
        endpointRosters := snapshot.endpointRosters.insert commit.folderId commit.roster } ())

def receiveEndpointRoster (commit : EndpointRosterCommit) : Action Unit :=
  decideNow node env (planReceiveEndpointRoster node env commit)

/-! ## Delivery -/

/-- The notice of a withdrawal that its peer has not acknowledged. -/
def removalDelivery (config : NodeConfig) (pending : PendingRemoteRemoval) :
    Result FolderShareDelivery := do
  let trust ← observeTrust config pending.peerIdentity.deviceId
  let trust ← okOr trust .untrustedPeer
  refuse (!trust.matchesRemoval pending) .untrustedPeer
  pure ⟨trust.transport, .removal
    ⟨node.deviceId, pending.peerIdentity.deviceId, pending.offerSourceId, pending.folderId,
      pending.offerIds⟩⟩

/-- The record of the consent that a live share still has to deliver. -/
def shareRecord (share : Share) : Option FolderShareRecord :=
  if share.offer.sourceDeviceId == node.deviceId then
    match share.commit with
    | some commit => some (.commit share.offer.offerId commit)
    | none => some (.offer share.offer)
  else if share.commit.isNone then
    share.acceptance.map fun acceptance => .acceptance share.offer.offerId acceptance
  else none

def shareDelivery (config : NodeConfig) (share : Share) : Result (Option FolderShareDelivery) := do
  let trust ← observeTrust config share.peerId
  let trust ← okOr trust .untrustedPeer
  refuse (!trust.matchesShare share) .untrustedPeer
  pure ((shareRecord node share).map fun record => ⟨trust.transport, record⟩)

/-- The settings record that a committed share of a link has to deliver. -/
def settingsRecord (share : Share) : Option FolderShareRecord :=
  (snapshot.linkSettings.get? share.offer.folderId).bind fun state =>
    if share.offer.sourceDeviceId == node.deviceId then
      some (.settingsCommit (state.commit share.offer.folderId node.deviceId share.peerId))
    else state.pendingChange.map .settingsRequest

/-- The run record that a committed share of a link has to deliver. -/
def runRecord (share : Share) : Option FolderShareRecord :=
  (snapshot.linkRuns.get? share.offer.folderId).bind fun slot =>
    if share.offer.sourceDeviceId == node.deviceId then
      (commitForTarget snapshot share.offer.folderId share.offer.targetDeviceId).toOption.map
        .runCommit
    else (slot.pendingReport.map FolderShareRecord.runReport).or
      (slot.pendingRequest.map .runRequest)

end

/-- Every record that is durable here and may not have reached its peer. -/
def deliveries (config : NodeConfig) (snapshot : Snapshot) : Result (List FolderShareDelivery) := do
  let removals ← snapshot.pendingRemoteRemovals.mapM (removalDelivery node config)
  let shares ← (snapshot.shares.filter fun share => !share.removed).mapM (shareDelivery node config)
  let committed := snapshot.shares.filter fun share => !share.removed && share.commit.isSome
  let settings := committed.filterMap fun share =>
    (settingsRecord node snapshot share).map fun record =>
      (⟨share.peerTransport, record⟩ : FolderShareDelivery)
  let runs := (committed.filter fun share => share.offer.linkPolicy.isSome).filterMap fun share =>
    (runRecord node snapshot share).map fun record =>
      (⟨share.peerTransport, record⟩ : FolderShareDelivery)
  pure (removals ++ shares.reduceOption ++ settings ++ runs)

/-- Reconstruct the delivery work after an interruption. -/
def outboundRecords : Action (List FolderShareDelivery) := do
  let journal ← get
  lift (refuse journal.snapshot.pendingPeerAddressRefresh.isSome .persistenceUncertain)
  reconcileTrust node env
  let journal ← get
  let config ← lift env.readConfig
  lift (deliveries node config journal.snapshot)

/-! ## Desired engine settings -/

/-- How long an observation of Android conditions stands, in nanoseconds. -/
def androidConditionTtl : Nat := 90 * 1000000000

section

variable (journal : Journal) (folderId : Uuid) (now observedAt : Nat)

/-- Whether the conditions of a link are met on this host. -/
def conditionsAllow (required : AndroidLinkConditions) (observedAt : Nat) : Bool :=
  if !journal.androidHost || (!required.wifiOnly && !required.chargingOnly) then true
  else
    journal.androidConditionObservation.any fun observed =>
      decide (observedAt - observed.observedAt ≤ androidConditionTtl) &&
        (!required.wifiOnly || observed.wifiConnected) &&
        (!required.chargingOnly || observed.charging)

/-- Whether this device takes part in a run right now. -/
def localRunIsActive (state : LinkRunState) (now observedAt : Nat) : Bool :=
  let snapshot := journal.snapshot
  match linkSourceInSnapshot snapshot.shares folderId, snapshot.linkSettings.get? folderId with
  | some source, some settings =>
    settings.confirmed && settings.revision == state.settingsRevision &&
      !settings.settings.paused && decide (now < state.deadline) &&
      conditionsAllow journal settings.settings.androidConditions observedAt &&
      (if source == node.deviceId then state.phase.active
        else state.phase == .running && state.sourceIndex.isSome &&
          (state.destinations.get? node.deviceId).any (·.result == .pending) &&
          (snapshot.slot folderId).pendingReport.isNone)
  | _, _ => false

def localBatchAllowsTransferAt : Bool :=
  (journal.snapshot.run? folderId).any fun state =>
    state.phase.active && decide (now < state.deadline) &&
      localRunIsActive node journal folderId state now observedAt

section

variable (config : NodeConfig) (snapshot : Snapshot) (draft : DesiredDraft) (share : Share)

/-- Whether the settings of its link let a share transfer. -/
def linkAllowsTransferAt (now observedAt : Nat) : Bool :=
  share.offer.linkPolicy.isNone ||
    (journal.snapshot.linkSettings.get? share.offer.folderId).any fun state =>
      state.confirmed && !state.settings.paused && match state.settings.cadence with
        | .continuous => conditionsAllow journal state.settings.androidConditions observedAt
        | .manual | .scheduled _ =>
          localBatchAllowsTransferAt node journal share.offer.folderId now observedAt

/-- A share that predates one-way policies or authenticated transfer keys. -/
def pairingUpgradeRequired : Bool :=
  share.offer.linkPolicy.isNone || !((snapshot.currentPeerRoutes.get? share.peerId).or
      (share.historicalEngine node.deviceId)).any fun binding =>
        binding.requireSshPublicKey.toOption.isSome

inductive EngineFolderRole where
  | legacyTwoWay
  | source
  | destination (propagateSourceDeletions restoreLocalDeletions : Bool)
deriving DecidableEq

structure EnginePeerConfig where
  id : SyncEngineDeviceId
  name : String
  address : SocketAddr
  sshPublicKey : String

structure EngineFolderConfig where
  id : Uuid
  label : String
  root : String
  members : List SyncEngineDeviceId
  role : EngineFolderRole

structure EngineSessionSettings where
  deviceName : String
  listener : Option SocketAddr
  peers : List EnginePeerConfig
  folders : List EngineFolderConfig

/-- A name or label the engine may be given. -/
def validEngineText (value : String) (maximum : Nat) : Bool :=
  !value.isEmpty && value.utf8ByteSize ≤ maximum && !hasUnsafeText value

/-- The engine's entry for a peer, with its authenticated transfer key. -/
def newPeerConfig (id : SyncEngineDeviceId) (name : String) (address : SocketAddr) (key : String) :
    Option EnginePeerConfig :=
  -- The key is checked by building a binding for a device made up on the spot.
  if !validEngineText name 128 || address.port == 0 || address.ip.isUnspecified ||
      address.ip.isMulticast || (validateSyncEngineEndpoint (renderSocketAddr address)).isNone ||
      !isSshEd25519Wire key then none
  else some ⟨id, name, address, key⟩

/-- The engine's entry for a folder. -/
def newFolderConfig (folder : EngineFolderConfig) : Option EngineFolderConfig := do
  if folder.id.isNil || !validEngineText folder.label 256 || folder.members.length > 129 then none
  else
    let root ← validateRoot env folder.root
    some { folder with
      root := root
      members := folder.members.mergeSort fun left right => left.text ≤ right.text }

/-- The desired settings as far as they are known. -/
structure DesiredDraft where
  peers : BTreeMap DeviceId EnginePeerConfig
  folders : BTreeMap Uuid EngineFolderConfig

/-- The role this device has in a folder. -/
def folderRole : EngineFolderRole :=
  match ((snapshot.linkSettings.get? share.offer.folderId).map fun state =>
      state.settings.deletionPolicy).or share.offer.linkPolicy with
  | none => .legacyTwoWay
  | some policy =>
    if share.offer.sourceDeviceId == node.deviceId then .source
    else .destination policy.propagateSourceDeletions policy.restoreLocalDeletions

/-- Add the membership of one share. -/
def DesiredDraft.addShare : Result DesiredDraft := do
  let trust ← observeTrust config share.peerId
  let trust ← okOr trust .untrustedPeer
  refuse (!trust.matchesShare share) .untrustedPeer
  let root ← okOr share.root .invalidState
  validateCurrentRoot env root
  let historical ← okOr (share.historicalEngine node.deviceId) .invalidState
  let binding := (snapshot.currentPeerRoutes.get? share.peerId).getD historical
  let address ← okOr binding.address? .invalidRecord
  let grant ← okOr (config.trustedPeers.get? share.peerId) .untrustedPeer
  let key ← okOr binding.requireSshPublicKey.toOption .invalidRecord
  let peer ← okOr (newPeerConfig binding.engineDeviceId grant.displayName address key)
    .invalidRecord
  refuse ((draft.peers.get? share.peerId).any fun old =>
    old.id != peer.id || old.address != peer.address) .invalidRecord
  let role := folderRole node snapshot share
  let folder := (draft.folders.get? share.offer.folderId).getD
    ⟨share.offer.folderId, share.offer.label, root.path, [node.engineDeviceId], role⟩
  refuse (folder.label != share.offer.label || folder.root != root.path || folder.role != role)
    .invalidState
  let members := if folder.members.contains peer.id then folder.members
    else folder.members ++ [peer.id]
  pure ⟨draft.peers.insert share.peerId peer,
    draft.folders.insert share.offer.folderId { folder with members := members }⟩

/-- Whether a share contributes to the desired settings at all. -/
def contributes : Bool :=
  !share.removed && !share.paused && share.commit.isSome &&
    linkAllowsTransferAt node journal share now observedAt &&
    !pairingUpgradeRequired node journal.snapshot share

end

end

/-- The complete desired settings of the engine: the folders and peers of the
committed shares that may transfer now. -/
def desiredSettingsAt (now observedAt : Nat) : Action EngineSessionSettings := do
  let journal ← get
  lift (refuse journal.snapshot.pendingPeerAddressRefresh.isSome .persistenceUncertain)
  reconcileTrust node env
  payload env
  let journal ← get
  let config ← lift env.readConfig
  let draft ← lift ((journal.snapshot.shares.filter
    (contributes node journal now observedAt)).foldlM
      (DesiredDraft.addShare node env config journal.snapshot) ⟨∅, ∅⟩)
  let folders ← lift (draft.folders.values.mapM fun folder =>
    okOr (newFolderConfig env folder) SharingError.folderUnavailable)
  pure
    { deviceName := config.deviceName
      listener := if folders.isEmpty then none else some journal.snapshot.listener
      peers := draft.peers.values
      folders := folders }

end Covalent.Sharing
