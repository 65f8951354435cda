import Covalent.Sharing.LinkSettings

/-!
# Link runs in a snapshot

A run transfers one link once.  Only the source of a link admits and ends runs;
a destination records the run the source tells it about, restricted to itself.
This file has the transitions of a run and the checks a snapshot's runs must
pass.
-/

namespace Covalent.Sharing

open Transfer (EngineIndexSnapshot)

/-- How long a run may take. -/
def linkRunDeadlineMs : Nat := 24 * 60 * 60 * 1000

/-- How often a continuous link starts a run. -/
def continuousCheckIntervalMs : Nat := 15000

/-- Whether an index snapshot is one the transfer engine can report. -/
def indexIsValid (index : EngineIndexSnapshot) : Bool :=
  let digits := index.indexId.toList.drop 2
  index.indexId.utf8ByteSize == 18 && "0x".toList.isPrefixOf index.indexId.toList &&
    digits.all (fun digit => ('0' ≤ digit && digit ≤ '9') || ('A' ≤ digit && digit ≤ 'F')) &&
    digits.any (· != '0') && index.sequence ≤ 2 ^ 63 - 1

/-! ## Transitions of one run -/

def nextStateRevision (current : Nat) : Result Nat :=
  okOr (checkedAdd current 1) .limitExceeded

/-- Give a result to the destinations that are still pending and selected. -/
def closePending (selected : DeviceId → Bool) (result : LinkRunDestinationResult) (endedAt : Nat)
    (destinations : BTreeMap DeviceId LinkRunDestinationState) :
    BTreeMap DeviceId LinkRunDestinationState :=
  destinations.mapValues fun peer destination =>
    if destination.result == .pending && selected peer then ⟨result, some endedAt⟩
    else destination

/-- End a run, with one result for every destination that has none. -/
def endRun (phase : LinkRunPhase) (result : LinkRunDestinationResult) (endedAt : Nat)
    (state : LinkRunState) : Result LinkRunState := do
  let stateRevision ← nextStateRevision state.stateRevision
  pure
    { state with
      destinations := closePending (fun _ => true) result endedAt state.destinations
      phase := phase
      endedAt := some endedAt
      stateRevision := stateRevision }

/-- A run ends by itself once no destination is pending. -/
def finishIfTerminal (state : LinkRunState) (now : Nat) : LinkRunState :=
  if state.destinations.values.all (fun destination => destination.result.terminal) then
    { state with
      phase :=
        if state.destinations.values.all (fun destination => destination.result == .succeeded) then
          .succeeded
        else .incomplete
      endedAt := some now }
  else state

def currentGenerationFromSlot (slot : LinkRunLinkState) : Nat :=
  slot.authoritative.elim 0 LinkRunState.generation

section

variable (snapshot : Snapshot) (request : LinkRunRequest) (now : Nat)

section

variable (shares : List Share) (owner : DeviceId) (now : Nat) (folderId : Uuid)

/-- The number of runs a link has had. -/
def currentGeneration : Nat :=
  (snapshot.linkRuns.get? folderId).elim 0 currentGenerationFromSlot

/-! ## Membership -/

/-- Whether a share makes its target a destination of a link right now. -/
def Share.serves (share : Share) (folderId : Uuid) (source : DeviceId) : Bool :=
  !share.removed && !share.paused && share.commit.isSome && share.offer.folderId == folderId &&
    share.offer.sourceDeviceId == source

/-- Whether a peer is still a destination of a link whose source is the owner. -/
def retainsMember (peer : DeviceId) : Bool :=
  shares.any fun share => share.serves folderId owner && share.offer.targetDeviceId == peer

/-- Whether an active run still waits for a peer that is no destination any more. -/
def losesMember (state : LinkRunState) : Bool :=
  state.phase.active && state.destinations.entries.any fun (peer, destination) =>
    destination.result == .pending && !retainsMember shares owner folderId peer

/-- Cancel the destinations a run has lost. -/
def cancelLost (state : LinkRunState) : Result LinkRunState := do
  let stateRevision ← nextStateRevision state.stateRevision
  pure (finishIfTerminal
      { state with
        destinations := closePending (fun peer => !retainsMember shares owner folderId peer)
          .cancelled now state.destinations
        stateRevision := stateRevision } now)

/-- The run of one slot after its lost destinations are cancelled. -/
def reconcileSlot (slot : LinkRunLinkState) : Result LinkRunLinkState :=
  if shares.any (fun share =>
      share.offer.sourceDeviceId == owner && share.offer.folderId == folderId) then
    match slot.authoritative with
    | none => pure slot
    | some state =>
      if losesMember shares owner folderId state then do
        let state ← cancelLost shares owner now folderId state
        pure { slot with authoritative := some state }
      else pure slot
  else pure slot

/-- Cancel, in every run of the owner's links, the destinations that left. -/
def reconcileMembership : Result Snapshot := do
  let linkRuns ← snapshot.linkRuns.mapValuesM (reconcileSlot snapshot.shares owner now)
  pure { snapshot with linkRuns := linkRuns }

end

/-- Drop the runs of links that ended. -/
def reconcileRunStates : Snapshot :=
  { snapshot with
    linkRuns := snapshot.linkRuns.retain fun folderId _ =>
      snapshot.linkSettings.containsKey folderId }

/-- A run that is active is cancelled; one that is over stays. -/
def cancelActiveRun : Option LinkRunState → Result (Option LinkRunState)
  | none => pure none
  | some state =>
    if state.phase.active then some <$> endRun .cancelled .cancelled now state
    else pure (some state)

/-- New settings end the active run and void what was asked under the old ones. -/
def cancelForSettingsChange (folderId : Uuid) (now : Nat) : Result Snapshot :=
  match snapshot.linkRuns.get? folderId with
  | none => pure snapshot
  | some slot => do
    let authoritative ← cancelActiveRun now slot.authoritative
    pure
      { snapshot with
        linkRuns := snapshot.linkRuns.insert folderId
          { slot with
            pendingRequest := none, pendingReport := none, authoritative := authoritative } }

/-! ## Requests and commits -/

/-- A request is for a live link and comes from its source or a committed member. -/
def validateRequestMembership : Result Unit :=
  refuse (request.requestId.isNil ||
    linkSourceInSnapshot snapshot.shares request.folderId != some request.sourceId ||
    !snapshot.shares.any fun share =>
      !share.removed && share.commit.isSome && share.offer.folderId == request.folderId &&
        share.offer.sourceDeviceId == request.sourceId &&
        (request.requesterId == request.sourceId ||
          share.offer.targetDeviceId == request.requesterId)) .invalidRecord

def validateReporterMembership (report : LinkRunReport) : Result Unit :=
  refuse (!snapshot.shares.any fun share =>
    !share.removed && share.commit.isSome && share.offer.folderId == report.folderId &&
      share.offer.sourceDeviceId == report.sourceId &&
      share.offer.targetDeviceId == report.reporterId) .invalidRecord

/-- The destinations a run admitted now would have. -/
def currentDestinations (folderId : Uuid) (source : DeviceId) :
    BTreeMap DeviceId LinkRunDestinationState :=
  BTreeMap.ofList ((snapshot.shares.filter (Share.serves · folderId source)).map fun share =>
    (share.offer.targetDeviceId, ⟨.pending, none⟩))

/-- Whether the run of a slot was admitted for exactly this request. -/
def answersRequest (current : LinkRunState) : Bool :=
  current.requestId == request.requestId && current.requestedBy == request.requesterId &&
    checkedAdd request.expectedGeneration 1 == some current.generation &&
    request.settingsRevision == current.settingsRevision

/-- The run that already answers a request: its own, or whichever is active. -/
def alreadyRunning : Option LinkRunState :=
  (snapshot.run? request.folderId).filter fun current =>
    answersRequest request current || current.phase.active

/-- Why a request comes too late. -/
def rejectionReason (settingsRevision : Nat) (request : LinkRunRequest) :
    Option LinkRunRejectionReason :=
  if settingsRevision != request.settingsRevision then some .settingsChanged
  else if currentGeneration snapshot request.folderId != request.expectedGeneration then
    some .generationChanged
  else none

/-- The first revision of a new run: it goes on from the last run of the link. -/
def firstStateRevision : Option LinkRunState → Result Nat
  | none => pure 1
  | some state => nextStateRevision state.stateRevision

/-- The run that a request starts. -/
def admittedRun : Result LinkRunState := do
  let destinations := currentDestinations snapshot request.folderId request.sourceId
  let generation ← okOr (checkedAdd request.expectedGeneration 1) .limitExceeded
  let stateRevision ← firstStateRevision (snapshot.slot request.folderId).authoritative
  let deadline ← okOr (checkedAdd now linkRunDeadlineMs) .limitExceeded
  refuse destinations.entries.isEmpty .invalidRecord
  pure
    { generation := generation
      stateRevision := stateRevision
      settingsRevision := request.settingsRevision
      requestId := request.requestId
      requestedBy := request.requesterId
      phase := .preparing
      startedAt := now
      deadline := deadline
      endedAt := none
      sourceIndex := none
      destinations := destinations }

/-- Decide a request at the source.  The flag tells whether the snapshot changed. -/
def admitSourceRequest (allowAutomaticContinuous : Bool) :
    Result (Snapshot × LinkRunAdmission × Bool) := do
  refuse (now == 0) .invalidRecord
  validateRequestMembership snapshot request
  let settings ← okOr (snapshot.linkSettings.get? request.folderId) .invalidState
  refuse (!settings.confirmed || settings.settings.paused ||
    (settings.settings.cadence == .continuous && !allowAutomaticContinuous) ||
    decide (now < settings.acceptedAt)) .invalidState
  match alreadyRunning snapshot request with
  | some current => pure (snapshot, .alreadyRunning current, false)
  | none =>
    let slot := snapshot.slot request.folderId
    match rejectionReason snapshot settings.revision request with
    | some reason =>
      let rejection := ⟨request.requesterId, request.requestId, reason⟩
      let linkRuns := snapshot.linkRuns.insert request.folderId
        { slot with rejectedRequest := some rejection }
      pure ({ snapshot with linkRuns := linkRuns }, .rejected rejection, true)
    | none => do
      let state ← admittedRun snapshot request now
      let linkRuns := snapshot.linkRuns.insert request.folderId
        { slot with
          authoritative := some state
          pendingRequest := none
          rejectedRequest := none }
      pure ({ snapshot with linkRuns := linkRuns }, .accepted state, true)

/-- A run as one destination gets to see it. -/
def restrictRun (target : DeviceId) (state : LinkRunState) : Option LinkRunState :=
  (state.destinations.get? target).map fun destination =>
    { state with destinations := BTreeMap.ofList [(target, destination)] }

/-- The recorded run as one destination gets to see it, if it was chosen for it. -/
def runForTarget (target : DeviceId) :
    Option LinkRunState → Result (Option LinkRunState)
  | none => pure none
  | some state => some <$> okOr (restrictRun target state) .invalidRecord

/-- What the source tells one destination about the runs of a link. -/
def commitForTarget (folderId : Uuid) (targetId : DeviceId) : Result LinkRunCommit := do
  let sourceId ← okOr (linkSourceInSnapshot snapshot.shares folderId) .invalidRecord
  let slot ← okOr (snapshot.linkRuns.get? folderId) .invalidState
  let state ← runForTarget targetId slot.authoritative
  let rejectedRequest := slot.rejectedRequest.filter fun rejected =>
    rejected.requesterId == targetId
  refuse (state.isNone && rejectedRequest.isNone) .invalidState
  pure ⟨folderId, sourceId, targetId, state, none, rejectedRequest⟩

/-! ## Validation -/

/-- The index, end and results that go with a phase. -/
def phaseFits (state : LinkRunState) : Bool :=
  match state.phase with
  | .preparing => state.sourceIndex.isNone && state.endedAt.isNone
  | .running => state.sourceIndex.any indexIsValid && state.endedAt.isNone
  | .succeeded =>
    state.sourceIndex.any indexIsValid && state.endedAt.isSome &&
      state.destinations.values.all fun destination => destination.result == .succeeded
  | .incomplete | .interrupted | .cancelled =>
    state.endedAt.isSome &&
      state.destinations.values.all fun destination => destination.result.terminal

/-- A destination has an end exactly when it has a result, after the start. -/
def destinationFits (startedAt : Nat) (destination : LinkRunDestinationState) : Bool :=
  destination.result.terminal == destination.endedAt.isSome &&
    destination.endedAt.all fun ended => decide (startedAt ≤ ended)

/-- Check one run by itself. -/
def validateRunState (state : LinkRunState) : Result Unit := do
  refuse (state.generation == 0 || state.stateRevision == 0 || state.requestId.isNil ||
    state.startedAt == 0 ||
    checkedAdd state.startedAt linkRunDeadlineMs != some state.deadline ||
    state.endedAt.any (fun ended => decide (ended < state.startedAt)) ||
    state.destinations.entries.isEmpty || decide (maxShares < state.destinations.len) ||
    !state.destinations.values.all (destinationFits state.startedAt)) .invalidState
  refuse (!phaseFits state) .invalidState

/-- A device that a run of a folder may name: a target of one of its shares, or a
peer it was removed from. -/
def knownDestination (folderId : Uuid) (peer : DeviceId) : Bool :=
  snapshot.shares.any (fun share =>
      share.offer.folderId == folderId && share.offer.targetDeviceId == peer) ||
    snapshot.tombstones.any fun removed =>
      removed.folderId == folderId && removed.peerId == peer

/-- Check the recorded run of a link against its settings and members. -/
def checkAuthoritative (folderId : Uuid) (state : LinkRunState) : Result Unit := do
  validateRunState state
  let settings ← okOr (snapshot.linkSettings.get? folderId) .invalidState
  refuse (decide (settings.revision < state.settingsRevision) ||
    (state.phase.active && (state.settingsRevision != settings.revision ||
      !settings.confirmed || settings.settings.paused))) .invalidState
  refuse (state.destinations.keys.any fun peer => !knownDestination snapshot folderId peer)
    .invalidState

/-- A member may be refused a request: the source, or a target of a share. -/
def knownRequester (folderId : Uuid) (source requester : DeviceId) : Bool :=
  requester == source || snapshot.shares.any fun share =>
    share.offer.folderId == folderId && share.offer.sourceDeviceId == source &&
      share.offer.targetDeviceId == requester

end

/-- Check everything recorded about the runs of one link. -/
def checkSlot (snapshot : Snapshot) (entry : Uuid × LinkRunLinkState) : Result Unit := do
  let owner := snapshot.ownerId
  let (folderId, slot) := entry
  let source ← okOr (linkSourceInSnapshot snapshot.shares folderId) .invalidState
  checkEach (checkAuthoritative snapshot folderId) slot.authoritative.toList
  refuse (slot.pendingRequest.any fun request =>
    request.folderId != folderId || request.sourceId != source || request.requesterId != owner ||
      request.requestId.isNil || source == owner) .invalidState
  refuse (slot.rejectedRequest.any fun rejected =>
    rejected.requestId.isNil || !knownRequester snapshot folderId source rejected.requesterId ||
      (source != owner && rejected.requesterId != owner)) .invalidState
  refuse (slot.pendingReport.any fun report =>
    report.folderId != folderId || report.sourceId != source || report.reporterId != owner ||
      source == owner || !indexIsValid report.sourceIndex ||
      !(report.result == .succeeded || report.result == .failed)) .invalidState

/-- Check the runs of all links. -/
def validateRunStates (snapshot : Snapshot) : Result Unit := do
  refuse (decide (maxShares < snapshot.linkRuns.len)) .limitExceeded
  checkEach (checkSlot snapshot) snapshot.linkRuns.entries

end Covalent.Sharing
