import Covalent.Base.Machine
import Covalent.Sharing.Effects

/-!
# Histories of a journal

Everything that can happen to a journal: the calls of its operations, with
whatever surroundings they meet, and restarts from the durable record.
-/

namespace Covalent.Sharing

variable [Primitives]

open Primitives Effect
open Transfer (EngineIndexSnapshot)

/-! ## Calls -/

/-- A call of one of the operations, with its arguments. -/
inductive Call where
  | offerWithPolicy (peerId : DeviceId) (folderId : Uuid) (label selectedRoot : String) (now : Nat)
      (linkPolicy : Option FolderLinkPolicy)
  | offerWithSettings (peerId : DeviceId) (folderId : Uuid) (label selectedRoot : String)
      (now : Nat) (settings : FolderLinkSettings)
  | receiveOffer (offer : FolderShareOffer) (now : Nat)
  | renewOffer (offerId : Uuid) (now : Nat)
  | accept (offerId : Uuid) (selectedRoot : String) (now : Nat)
  | receiveAcceptance (offerId : Uuid) (acceptance : FolderShareAcceptance) (now : Nat)
  | receiveCommit (offerId : Uuid) (commit : FolderShareCommit)
  | setPaused (offerId : Uuid) (paused : Bool)
  | remove (offerId : Uuid)
  | receiveRemoval (notice : FolderRemovalNotice)
  | acknowledgeRemoval (peerId : DeviceId) (currentOfferId : Uuid)
  | removePeer (peerId : DeviceId)
  | prepareRootRepair (offerId : Uuid) (selectedRoot : String)
  | commitRootRepair (prepared : PreparedRootRepair)
  | completeRootReset (folderId : Uuid)
  | preparePeerAddressRefresh (peerId : DeviceId) (expectedGrant : PeerGrant)
      (expectedTransport candidateTransport : TransportBinding)
      (candidateEngine : SyncEngineBinding)
  | beginPeerAddressRefresh (prepared : PreparedPeerAddressRefresh)
  | completePeerAddressRefresh (peerId : DeviceId)
  | requestLinkSettings (folderId changeId : Uuid) (expectedRevision : Nat)
      (settings : FolderLinkSettings) (now : Nat)
  | receiveLinkSettingsRequest (request : LinkSettingsRequest) (now : Nat)
  | receiveLinkSettingsCommit (commit : LinkSettingsCommit)
  | requestLinkRun (folderId requestId : Uuid) (expectedGeneration settingsRevision now : Nat)
  | receiveLinkRunRequest (request : LinkRunRequest) (now : Nat)
  | startLinkRun (folderId : Uuid) (generation : Nat) (sourceIndex : EngineIndexSnapshot)
      (now : Nat)
  | interruptLinkRun (folderId : Uuid) (generation now : Nat)
  | receiveLinkRunReport (report : LinkRunReport) (now : Nat)
  | expireLinkRuns (now : Nat)
  | interruptUnfinishedLinkRuns (now : Nat)
  | reconcileLinkRunMembership (folderId : Uuid) (now : Nat)
  | admitDueLinkRuns (now : Nat)
  | completeLinkRun (folderId : Uuid) (generation : Nat) (sourceIndex : EngineIndexSnapshot)
      (result : LinkRunDestinationResult) (now : Nat)
  | receiveLinkRunCommit (commit : LinkRunCommit)
  | endpointRosterRecords (names : DisplayNames)
  | receiveEndpointRoster (commit : EndpointRosterCommit)
  | outboundRecords
  | desiredSettings (now observedAt : Nat)
  | setAndroidHost (isAndroid : Bool)
  | observeAndroidConditions (wifiConnected charging : Bool) (observedAt : Nat)
  | restart (route : Option (SocketAddr × SocketAddr)) (identity : Nat)

/-- Run an operation and keep the records it hands out. -/
def handing {α : Type} (action : Action α) (records : α → List FolderShareRecord) :
    Action (List FolderShareRecord) := do
  let value ← action
  pure (records value)

/-- Run an operation that hands out nothing. -/
def quietly {α : Type} (action : Action α) : Action (List FolderShareRecord) :=
  handing action fun _ => []

/-- Perform a call.  The result is what may be delivered to a peer because of it. -/
def perform (node : Node) (env : Surroundings) : Call → Action (List FolderShareRecord)
  | .offerWithPolicy peerId folderId label root now policy =>
    handing (offerWithPolicy node env peerId folderId label root now policy) fun offer =>
      [.offer offer]
  | .offerWithSettings peerId folderId label root now settings =>
    handing (offerWithSettings node env peerId folderId label root now settings) fun offer =>
      [.offer offer]
  | .receiveOffer offer now => quietly (receiveOffer node env offer now)
  | .renewOffer offerId now =>
    handing (renewOffer node env offerId now) fun offer => [.offer offer]
  | .accept offerId root now =>
    handing (accept node env offerId root now) fun acceptance => [.acceptance offerId acceptance]
  | .receiveAcceptance offerId acceptance now =>
    handing (receiveAcceptance node env offerId acceptance now) fun commit =>
      [.commit offerId commit]
  | .receiveCommit offerId commit => quietly (receiveCommit node env offerId commit)
  | .setPaused offerId paused => quietly (setPaused node env offerId paused)
  | .remove offerId => quietly (remove node env offerId)
  | .receiveRemoval notice => quietly (receiveRemoval node env notice)
  | .acknowledgeRemoval peerId offerId => quietly (acknowledgeRemoval node env peerId offerId)
  | .removePeer peerId => quietly (removePeer node env peerId)
  | .prepareRootRepair offerId root => quietly (prepareRootRepair node env offerId root)
  | .commitRootRepair prepared => quietly (commitRootRepair node env prepared)
  | .completeRootReset folderId => quietly (completeRootReset node env folderId)
  | .preparePeerAddressRefresh peerId grant expected candidate engine =>
    quietly (preparePeerAddressRefresh node env peerId grant expected candidate engine)
  | .beginPeerAddressRefresh prepared => quietly (beginPeerAddressRefresh node env prepared)
  | .completePeerAddressRefresh peerId => quietly (completePeerAddressRefresh node env peerId)
  | .requestLinkSettings folderId changeId expected settings now =>
    quietly (requestLinkSettingsAt node env folderId changeId expected settings now)
  | .receiveLinkSettingsRequest request now =>
    handing (receiveLinkSettingsRequestAt node env request now) fun commit =>
      [.settingsCommit commit]
  | .receiveLinkSettingsCommit commit => quietly (receiveLinkSettingsCommit node env commit)
  | .requestLinkRun folderId requestId generation revision now =>
    quietly (requestLinkRun node env folderId requestId generation revision now)
  | .receiveLinkRunRequest request now =>
    handing (receiveLinkRunRequest node env request now) fun commit => [.runCommit commit]
  | .startLinkRun folderId generation index now =>
    quietly (startLinkRun node env folderId generation index now)
  | .interruptLinkRun folderId generation now =>
    quietly (interruptLinkRun node env folderId generation now)
  | .receiveLinkRunReport report now => quietly (receiveLinkRunReport node env report now)
  | .expireLinkRuns now => quietly (expireLinkRuns node env now)
  | .interruptUnfinishedLinkRuns now => quietly (interruptUnfinishedLinkRuns node env now)
  | .reconcileLinkRunMembership folderId now =>
    quietly (reconcileLinkRunMembership node env folderId now)
  | .admitDueLinkRuns now => quietly (admitDueLinkRuns node env now)
  | .completeLinkRun folderId generation index result now =>
    handing (completeLinkRun node env folderId generation index result now) fun report =>
      [.runReport report]
  | .receiveLinkRunCommit commit => quietly (receiveLinkRunCommit node env commit)
  | .endpointRosterRecords names =>
    handing (endpointRosterRecords node env names) (List.map FolderShareDelivery.record)
  | .receiveEndpointRoster commit => quietly (receiveEndpointRoster node env commit)
  | .outboundRecords => handing (outboundRecords node env) (List.map FolderShareDelivery.record)
  | .desiredSettings now observedAt => quietly (desiredSettingsAt node env now observedAt)
  | .setAndroidHost isAndroid => do
    modify fun journal =>
      { journal with
        androidHost := isAndroid
        androidConditionObservation :=
          if isAndroid then journal.androidConditionObservation else none }
    pure []
  | .observeAndroidConditions wifi charging observedAt => do
    modify fun journal =>
      { journal with androidConditionObservation := some ⟨wifi, charging, observedAt⟩ }
    pure []
  | .restart route identity => quietly (openInner node env route identity)

/-! ## Settled edits -/

/-- One settled edit: an edit as it would be written, at some reading of the wall
clock. -/
def Settled (node : Node) (before after : Snapshot) : Prop :=
  ∃ wall candidate, ConsentStep node before candidate ∧ settle node wall candidate = .ok after

/-- Any number of settled edits. -/
def History (node : Node) : Snapshot → Snapshot → Prop :=
  Relation.ReflTransGen (Settled node)

variable {node : Node} {env : Surroundings} {before later snapshot : Snapshot}
  {journal left : Journal}

theorem History.allLive (history : History node before later) (live : before.AllLive) :
    later.AllLive := by
  cases history with
  | refl => exact live
  | tail _ settled =>
    obtain ⟨_, _, _, settles⟩ := settled
    exact (settle_settlesTo settles).allLive

/-! ## What the effects leave -/

/-- The journal after a snapshot has been written. -/
def Journal.written (journal : Journal) (next : Snapshot) : Journal :=
  { journal with snapshot := next, store := ⟨next, journal.store.revision + 1, false⟩ }

/-- The journal after a write whose outcome is not known. -/
def Journal.unsure (journal : Journal) (record : Snapshot) : Journal :=
  { journal with store := ⟨record, journal.store.revision, true⟩ }

omit [Primitives] in
theorem ensures_payload {post : Unit → Journal → Prop} {failed : SharingError → Journal → Prop}
    (fine : post () journal) (problematic : ∀ problem, failed problem journal) :
    Ensures (payload env) journal post failed := by
  unfold payload
  apply ensures_bind
  apply ensures_get
  exact ensures_refuse (fun _ => fine) (fun _ => problematic _)

/-- Writing leaves the settled candidate, the old journal, or a journal that only a
restart can use. -/
theorem persist_ensures (node : Node) (env : Surroundings) (candidate : Snapshot)
    (journal : Journal) :
    Ensures (persist node env candidate) journal
      (fun _ after => ∃ wall next, settle node wall candidate = .ok next ∧
        after = journal.written next)
      (fun _ after => after = journal ∨ ∃ wall next record,
        settle node wall candidate = .ok next ∧ (record = next ∨ record = journal.store.record) ∧
          after = journal.unsure record) := by
  unfold persist
  apply ensures_bind
  apply ensures_get
  apply ensures_bind
  refine ensures_lift (fun next settled => ?_) (fun _ _ => .inl rfl)
  unfold replaceRecord
  apply ensures_bind
  refine ensures_payload ?_ (fun _ => .inl rfl)
  apply ensures_bind
  apply ensures_get
  dsimp only
  split
  · exact ensures_set ⟨_, next, settled, rfl⟩
  · exact ensures_throw (.inl rfl)
  next published _ =>
    apply ensures_bind
    apply ensures_set
    refine ensures_throw (.inr ⟨_, next, _, settled, ?_, rfl⟩)
    cases published with
    | true => exact .inl rfl
    | false => exact .inr rfl

/-- What a call may leave of a journal: settled edits of its own, and on disk the
record of before or whatever an edit in flight has become. -/
structure Advances (node : Node) (before after : Journal) : Prop where
  snapshot : History node before.snapshot after.snapshot
  record : after.snapshot = before.snapshot ∧ after.store.record = before.store.record ∨
    History node after.snapshot after.store.record

namespace Advances

variable {node : Node} {before between after : Journal}

theorem refl (journal : Journal) : Advances node journal journal :=
  ⟨.refl, .inl ⟨rfl, rfl⟩⟩

theorem trans (first : Advances node before between)
    (second : Advances node between after) : Advances node before after := by
  refine ⟨first.snapshot.trans second.snapshot, ?_⟩
  rcases second.record with ⟨sameSnapshot, sameRecord⟩ | ahead
  · rw [sameSnapshot, sameRecord]
    exact first.record
  · exact .inr ahead

variable {candidate next : Snapshot} {wall : Nat}

section

variable (edit : ConsentStep node before.snapshot candidate)
  (settled : settle node wall candidate = .ok next)

include edit settled

theorem of_written : Advances node before (before.written next) :=
  ⟨.single ⟨wall, candidate, edit, settled⟩, .inr Relation.ReflTransGen.refl⟩

theorem of_unsure {record : Snapshot} (left : record = next ∨ record = before.store.record) :
    Advances node before (before.unsure record) := by
  refine ⟨.refl, ?_⟩
  rcases left with rfl | rfl
  · exact .inr (.single ⟨wall, candidate, edit, settled⟩)
  · exact .inl ⟨rfl, rfl⟩

end

end Advances

/-- An action that, however it ends, leaves what an earlier journal may advance to. -/
def Leads (node : Node) (start : Journal) {α : Type} (action : Action α) (journal : Journal) :
    Prop :=
  Ensures action journal (fun _ after => Advances node start after)
    (fun _ after => Advances node start after)

theorem Advances.leads {node : Node} {start journal : Journal} {α : Type} {action : Action α}
    (advanced : Advances node start journal) (leads : Leads node journal action journal) :
    Leads node start action journal :=
  leads.imp (fun _ _ further => advanced.trans further) fun _ _ further => advanced.trans further

/-- An action of a call: however it ends, it only advances the journal. -/
def Stays (node : Node) {α : Type} (action : Action α) : Prop :=
  ∀ journal, journal.snapshot.AllLive →
    Ensures action journal (fun _ after => Advances node journal after)
      (fun _ after => Advances node journal after)

namespace Stays

variable {node : Node} {env : Surroundings} {α β : Type}

theorem pure (value : α) : Stays node (pure value : Action α) :=
  fun journal _ => ensures_pure (.refl journal)

theorem get : Stays node (get : Action Journal) :=
  fun journal _ => ensures_get (.refl journal)

theorem lift (result : Result α) : Stays node (lift result : Action α) :=
  fun journal _ =>
    ensures_lift (fun _ _ => .refl journal) (fun _ _ => .refl journal)

theorem payload : Stays node (payload env) :=
  fun journal _ => ensures_payload (.refl journal) (fun _ => .refl journal)

variable {action : Action α} {next : α → Action β} {journal : Journal}
  {decision : Snapshot → Result (Plan α)}

theorem ensures_bind {post : β → Journal → Prop} {failed : SharingError → Journal → Prop}
    (first : Stays node action) (live : journal.snapshot.AllLive)
    (rest : ∀ value between, Advances node journal between → between.snapshot.AllLive →
      Ensures (next value) between post failed)
    (problematic : ∀ problem after, Advances node journal after → failed problem after) :
    Ensures (action >>= next) journal post failed :=
  Effect.ensures_bind ((first journal live).imp
    (fun value between advanced => rest value between advanced (advanced.snapshot.allLive live))
    problematic)

theorem bind (first : Stays node action) (rest : ∀ value, Stays node (next value)) :
    Stays node (action >>= next) := by
  intro journal live
  refine first.ensures_bind live (fun value between advanced still => ?_) (fun _ _ done => done)
  exact advanced.leads (rest value between still)

/-- An action that reads the journal and goes on with what it makes of it. -/
theorem seen {look : Journal → Result α} {rest : Journal → α → Action β}
    (rests : ∀ journal value, Stays node (rest journal value)) :
    Stays node (Bind.bind MonadState.get fun journal =>
      Bind.bind (Effect.lift (look journal)) (rest journal)) :=
  get.bind fun journal => (lift (look journal)).bind (rests journal)

theorem persist {candidate : Snapshot} (edit : ConsentStep node journal.snapshot candidate) :
    Leads node journal (persist node env candidate) journal := by
  refine (persist_ensures node env candidate journal).imp ?_ ?_
  · rintro _ _ ⟨wall, next, settled, rfl⟩
    exact .of_written edit settled
  · rintro _ _ (rfl | ⟨wall, next, record, settled, left, rfl⟩)
    · exact .refl _
    · exact .of_unsure edit settled left

theorem carryOut {plan : Result (Plan α)}
    (edits : Decides (ConsentStep node journal.snapshot) plan) :
    Leads node journal (carryOut node env plan) journal := by
  unfold Sharing.carryOut
  apply Effect.ensures_bind
  refine ensures_lift (fun decided planned => ?_) (fun _ _ => .refl journal)
  cases decided with
  | keep value => exact ensures_pure (.refl journal)
  | replace candidate value =>
    apply Effect.ensures_bind
    refine (persist (edits candidate value planned)).imp (fun _ after advanced => ?_)
      (fun _ _ advanced => advanced)
    exact ensures_pure advanced

section

variable (edits : ∀ snapshot, Decides (ConsentStep node snapshot) (decision snapshot))

include edits

theorem decideNow : Stays node (decideNow node env decision) := by
  intro journal _
  unfold Sharing.decideNow
  apply Effect.ensures_bind
  apply ensures_get
  exact carryOut (edits journal.snapshot)

theorem decideDurable : Stays node (decideDurable node env decision) :=
  bind payload fun _ => decideNow edits

omit edits in
theorem reconcileTrust : Stays node (reconcileTrust node env) := by
  intro journal live
  unfold Sharing.reconcileTrust
  refine payload.ensures_bind live (fun _ between advanced _ => ?_) (fun _ _ advanced => advanced)
  apply Effect.ensures_bind
  apply ensures_get
  apply Effect.ensures_bind
  refine ensures_lift (fun _ _ => ?_) (fun _ _ => advanced)
  apply Effect.ensures_bind
  refine ensures_lift (fun config _ => ?_) (fun _ _ => advanced)
  apply Effect.ensures_bind
  refine ensures_lift (fun candidate planned => ?_) (fun _ _ => advanced)
  split
  · exact ensures_pure advanced
  · exact advanced.leads (persist (trustCandidate_effect planned))

theorem decideTrusted : Stays node (decideTrusted node env decision) :=
  bind reconcileTrust fun _ => decideNow edits

omit edits in
/-- An action that goes on with what it reads once trust is reconciled. -/
theorem trusted {look : Journal → Result α} {rest : Journal → α → Action β}
    (rests : ∀ {start between : Journal} {value}, Advances node start between →
      between.snapshot.AllLive → look between = .ok value →
        Leads node start (rest between value) between) :
    Stays node (Bind.bind (Sharing.reconcileTrust node env) fun _ =>
      Bind.bind MonadState.get fun journal =>
        Bind.bind (Effect.lift (look journal)) (rest journal)) := by
  intro journal live
  refine reconcileTrust.ensures_bind live (fun _ between advanced still => ?_)
    (fun _ _ done => done)
  refine Effect.ensures_bind (ensures_get (Effect.ensures_bind ?_))
  exact ensures_lift (fun _ looked => rests advanced still looked) (fun _ _ => advanced)

end

theorem handing (records : α → List FolderShareRecord)
    (stays : Stays node action) : Stays node (handing action records) :=
  bind stays fun _ => pure _

end Stays

/-! ## What a call leaves -/

section

variable {node : Node} {env : Surroundings}

/-- What a decision became: nothing was to be done, or the settled candidate was
written. -/
def CarriedOut (node : Node) {α : Type} (before : Journal) (plan : Plan α) (value : α)
    (after : Journal) : Prop :=
  plan = .keep value ∧ after = before ∨ ∃ candidate wall next, plan = .replace candidate value ∧
      settle node wall candidate = .ok next ∧ after = before.written next

variable {α : Type}

theorem carryOut_ensures (plan : Result (Plan α)) (journal : Journal) :
    Ensures (carryOut node env plan) journal (fun value after => ∃ decided, plan = .ok decided ∧
        CarriedOut node journal decided value after)
      (fun _ _ => True) := by
  unfold carryOut
  refine ensures_bind (ensures_lift (fun decided planned => ?_) (fun _ _ => trivial))
  cases decided with
  | keep value => exact ensures_pure ⟨_, planned, .inl ⟨rfl, rfl⟩⟩
  | replace candidate value =>
    refine ensures_bind ((persist_ensures node env candidate journal).imp ?_ (fun _ _ _ => trivial))
    rintro _ _ ⟨wall, next, settled, rfl⟩
    exact ensures_pure ⟨_, planned, .inr ⟨candidate, wall, next, rfl, settled, rfl⟩⟩

theorem decideTrusted_ensures (decision : Snapshot → Result (Plan α))
    {journal : Journal} (live : journal.snapshot.AllLive) :
    Ensures (decideTrusted node env decision) journal
      (fun value after => ∃ between decided, Advances node journal between ∧
        decision between.snapshot = .ok decided ∧ CarriedOut node between decided value after)
      (fun _ _ => True) := by
  unfold decideTrusted decideNow
  refine Stays.reconcileTrust.ensures_bind live (fun _ between advanced _ => ?_)
    (fun _ _ _ => trivial)
  refine ensures_bind (ensures_get ?_)
  refine (carryOut_ensures _ between).imp ?_ (fun _ _ _ => trivial)
  rintro value after ⟨decided, planned, done⟩
  exact ⟨between, decided, advanced, planned, done⟩

theorem advanceFreshnessFloor_ensures (now : Nat) (journal : Journal) :
    Ensures (advanceFreshnessFloor node env now) journal
      (fun _ after => Advances node journal after ∧ (after.snapshot = journal.snapshot ∨ ∃ wall,
          settle node wall (advanceFreshnessFloorCandidate journal.snapshot now) =
            .ok after.snapshot))
      (fun _ after => Advances node journal after) := by
  unfold advanceFreshnessFloor decideNow carryOut
  refine ensures_bind (ensures_get ?_)
  refine ensures_bind ?_
  refine ensures_lift (fun decided planned => ?_) (fun _ _ => .refl journal)
  beta_reduce at planned
  by_cases raised : journal.snapshot.freshnessFloor < freshnessFloor now
  · rw [if_pos raised, pure_eq_ok] at planned
    subst planned
    refine ensures_bind ?_
    refine (persist_ensures node env _ journal).imp ?_ ?_
    · rintro _ _ ⟨wall, next, settled, rfl⟩
      exact ensures_pure ⟨.of_written (floor_effect now) settled, .inr ⟨wall, settled⟩⟩
    · rintro _ _ (rfl | ⟨wall, next, record, settled, left, rfl⟩)
      · exact .refl _
      · exact .of_unsure (floor_effect now) settled left
  · rw [if_neg raised, pure_eq_ok] at planned
    subst planned
    exact ensures_pure ⟨.refl journal, .inl rfl⟩

/-- A decision on top of a raised floor. -/
theorem raised_leads {start between : Journal} {now : Nat}
    {decision : Snapshot → Result (Plan α)} (advanced : Advances node start between)
    (edits : ∀ raised, (raised = between.snapshot ∨ ∃ wall,
      settle node wall (advanceFreshnessFloorCandidate between.snapshot now) = .ok raised) →
        Decides (ConsentStep node raised) (decision raised)) :
    Leads node start (advanceFreshnessFloor node env now >>= fun _ => decideNow node env decision)
      between := by
  refine ensures_bind ((advanceFreshnessFloor_ensures now between).imp ?_
    fun _ _ further => advanced.trans further)
  rintro _ raised ⟨further, source⟩
  unfold decideNow
  refine ensures_bind ?_
  apply ensures_get
  exact (advanced.trans further).leads (Stays.carryOut (edits raised.snapshot source))

theorem offerWithSettingsInner_stays (peerId : DeviceId) (folderId : Uuid)
    (label selectedRoot : String) (now : Nat) (settings : Option FolderLinkSettings) :
    Stays node
      (offerWithSettingsInner node env peerId folderId label selectedRoot now settings) := by
  refine Stays.trusted fun {_ _ found} advanced _ prepared => ?_
  obtain ⟨peer, root, existing⟩ := found
  cases existing with
  | some offer => exact ensures_pure advanced
  | none =>
    exact raised_leads advanced fun _ _ => planOffer_effect (prepareOffer_trusted prepared)

theorem receiveOffer_stays (offer : FolderShareOffer) (now : Nat) :
    Stays node (receiveOffer node env offer now) := by
  refine Stays.trusted fun {_ _ found} advanced still screened => ?_
  cases found with
  | none => exact ensures_pure advanced
  | some peer =>
    exact raised_leads advanced fun _ source =>
      planReceiveOffer_effect (screenOffer_raised still screened source)

theorem setPaused_stays (offerId : Uuid) (paused : Bool) :
    Stays node (setPaused node env offerId paused) := by
  refine Stays.trusted fun {_ between decision} advanced still decided => ?_
  cases decision with
  | unchanged => exact ensures_pure advanced
  | linkSettings folderId revision settings =>
    refine advanced.leads (Stays.decideTrusted (fun _ => ?_) between still)
    exact links_planRequestLinkSettings.consentSteps
  | share => exact advanced.leads (Stays.persist (decidePause_effect decided))

/-- Every call but a restart only advances the journal. -/
theorem perform_stays (call : Call) (open_ : ∀ route identity, call ≠ .restart route identity) :
    Stays node (perform node env call) := by
  cases call with
  | offerWithPolicy => exact (offerWithSettingsInner_stays _ _ _ _ _ _).handing _
  | offerWithSettings =>
    exact ((Stays.lift _).bind fun _ => offerWithSettingsInner_stays _ _ _ _ _ _).handing _
  | receiveOffer => exact (receiveOffer_stays _ _).handing _
  | renewOffer => exact .handing _ (.decideTrusted fun _ => planRenewOffer_effect)
  | accept => exact .handing _ (.decideTrusted fun _ => planAccept_effect)
  | receiveAcceptance => exact .handing _ (.decideTrusted fun _ => planReceiveAcceptance_effect)
  | receiveCommit => exact .handing _ (.decideTrusted fun _ => planReceiveCommit_effect)
  | setPaused => exact (setPaused_stays _ _).handing _
  | remove => exact .handing _ (.decideDurable fun _ => planRemove_effect)
  | receiveRemoval => exact .handing _ (.decideTrusted fun _ => planReceiveRemoval_effect)
  | acknowledgeRemoval => exact .handing _ (.decideDurable fun _ => planAcknowledgeRemoval_effect)
  | removePeer =>
    refine .handing _ (.decideNow fun _ => ?_)
    exact plan_pick (plan_keep _) (plan_replace withoutPeer_effect _)
  | prepareRootRepair =>
    exact (Stays.reconcileTrust.bind fun _ => .seen fun _ _ => .pure _).handing _
  | commitRootRepair =>
    exact .handing _ (.seen fun _ _ => .decideNow fun _ => planCommitRootRepair_effect)
  | completeRootReset => exact .handing _ (.decideNow fun _ => planCompleteRootReset_effect)
  | preparePeerAddressRefresh =>
    refine (Stays.get.bind fun _ => ?_).handing _
    dsimp only
    split
    · exact Stays.reconcileTrust.bind fun _ => .seen fun _ _ => .pure _
    · exact (Stays.lift _).bind fun _ => .seen fun _ _ => .pure _
  | beginPeerAddressRefresh =>
    exact .handing _ (.seen fun _ _ => .decideNow fun _ => planBeginPeerAddressRefresh_effect)
  | completePeerAddressRefresh =>
    exact .handing _ (.decideNow fun _ => planCompletePeerAddressRefresh_effect)
  | requestLinkSettings =>
    exact .handing _ (.decideTrusted fun _ => links_planRequestLinkSettings.consentSteps)
  | receiveLinkSettingsRequest =>
    exact ((Stays.decideTrusted fun _ =>
      links_planReceiveLinkSettingsRequest.consentSteps).bind fun _ =>
        .seen fun _ _ => .pure _).handing _
  | receiveLinkSettingsCommit =>
    exact .handing _ (.decideTrusted fun _ => links_planReceiveLinkSettingsCommit.consentSteps)
  | requestLinkRun =>
    exact .handing _ (.decideTrusted fun _ => links_planRequestLinkRun.consentSteps)
  | receiveLinkRunRequest =>
    exact .handing _ (.decideTrusted fun _ => links_planReceiveLinkRunRequest.consentSteps)
  | startLinkRun => exact .handing _ (.decideNow fun _ => links_planStartLinkRun.consentSteps)
  | interruptLinkRun =>
    exact .handing _ (.decideNow fun _ => links_planInterruptLinkRun.consentSteps)
  | receiveLinkRunReport =>
    exact .handing _ (.decideTrusted fun _ => links_planReceiveLinkRunReport.consentSteps)
  | expireLinkRuns =>
    exact .handing _ (.decideNow fun _ => planUpdateRuns_effect)
  | interruptUnfinishedLinkRuns now =>
    exact ((Stays.lift _).bind fun _ => Stays.decideNow fun _ => planUpdateRuns_effect).handing _
  | reconcileLinkRunMembership folderId now =>
    refine .handing _ (.decideNow fun _ => plan_bind fun _ _ => ?_)
    exact decides_planBulk fun _ => reconcileMembership_effect
  | admitDueLinkRuns =>
    exact .handing _ (.decideTrusted fun _ => links_planAdmitDueLinkRuns.consentSteps)
  | completeLinkRun => exact .handing _ (.decideNow fun _ => links_planCompleteLinkRun.consentSteps)
  | receiveLinkRunCommit =>
    exact .handing _ (.decideTrusted fun _ => links_planReceiveLinkRunCommit.consentSteps)
  | endpointRosterRecords => exact .handing _ (.decideDurable fun _ => planEndpointRosters_effect)
  | receiveEndpointRoster => exact .handing _ (.decideNow fun _ => planReceiveEndpointRoster_effect)
  | outboundRecords =>
    exact .handing _ (.seen fun _ _ => Stays.reconcileTrust.bind fun _ => .seen fun _ _ => .lift _)
  | desiredSettings =>
    exact .handing _ (.seen fun _ _ => Stays.reconcileTrust.bind fun _ =>
      Stays.payload.bind fun _ => .seen fun _ _ =>
        (Stays.lift _).bind fun _ => (Stays.lift _).bind fun _ => .pure _)
  | setAndroidHost =>
    exact fun journal _ => ensures_bind (ensures_modify (ensures_pure
      ⟨Relation.ReflTransGen.refl, .inl ⟨rfl, rfl⟩⟩))
  | observeAndroidConditions =>
    exact fun journal _ => ensures_bind (ensures_modify (ensures_pure
      ⟨Relation.ReflTransGen.refl, .inl ⟨rfl, rfl⟩⟩))
  | restart route identity => exact absurd rfl (open_ route identity)

end

/-! ## Restarts and whole histories -/

/-- The journal as a new process finds it. -/
def Journal.reopened (journal : Journal) (identity : Nat) : Journal :=
  ⟨journal.store.record, { journal.store with uncertain := false }, identity, false, none⟩

/-- A restart leaves the journal alone, or advances what the new process found. -/
theorem restart_ensures (node : Node) (env : Surroundings)
    (route : Option (SocketAddr × SocketAddr)) (identity : Nat)
    (live : journal.store.record.AllLive) :
    Ensures (perform node env (.restart route identity)) journal
      (fun _ after => Advances node (journal.reopened identity) after)
      (fun _ after => after = journal ∨ Advances node (journal.reopened identity) after) := by
  unfold perform handing openInner
  refine ensures_bind (ensures_bind ?_)
  refine ensures_refuse (fun _ => ?_) (fun _ => .inl rfl)
  refine ensures_bind (ensures_get ?_)
  refine ensures_bind (ensures_lift (fun _ _ => ?_) (fun _ _ => .inl rfl))
  refine ensures_bind (ensures_set ?_)
  have adopted : Stays node (decideNow node env (adoptRoute node route)) :=
    Stays.decideNow fun _ => adoptRoute_effect
  refine adopted.ensures_bind live (fun _ between advanced still => ?_)
    (fun _ _ advanced => .inr advanced)
  refine ensures_bind (ensures_get ?_)
  split
  · refine (Stays.reconcileTrust between still).imp (fun _ _ further => ?_)
      (fun _ _ further => .inr (advanced.trans further))
    exact ensures_pure (advanced.trans further)
  · exact ensures_lift (fun _ _ => ensures_pure advanced) (fun _ _ => .inr advanced)

/-- Journals of one node under every sequence of calls and restarts. -/
def journalMachine (node : Node) : Machine Journal where
  initial journal := ∃ listener advertised identity,
    create node listener advertised identity = .ok journal
  step before left := ∃ env call, left = after (perform node env call) before

/-- One step: the snapshot moves along a history, and so may the record beyond it. -/
theorem journal_step_history {before : Journal} (step : (journalMachine node).step before left)
    (live : before.snapshot.AllLive) (ahead : History node before.snapshot before.store.record) :
    History node before.snapshot left.snapshot ∧ History node left.snapshot left.store.record := by
  obtain ⟨env, call, rfl⟩ := step
  by_cases restarts : ∃ route identity, call = .restart route identity
  · obtain ⟨route, identity, rfl⟩ := restarts
    have found : Advances node (before.reopened identity)
          (after (perform node env (.restart route identity)) before) ∨
        after (perform node env (.restart route identity)) before = before :=
      after_of_ensures _ ((restart_ensures node env route identity (ahead.allLive live)).imp
        (fun _ _ advanced => .inl advanced) (fun _ _ => Or.symm))
    rcases found with advanced | same
    · refine ⟨ahead.trans advanced.snapshot, ?_⟩
      rcases advanced.record with ⟨sameSnapshot, sameRecord⟩ | further
      · rw [sameSnapshot, sameRecord]
        exact Relation.ReflTransGen.refl
      · exact further
    · rw [same]
      exact ⟨Relation.ReflTransGen.refl, ahead⟩
  · have advanced : Advances node before (after (perform node env call) before) :=
      after_of_ensures _ (perform_stays call (fun route identity same =>
        restarts ⟨route, identity, same⟩) before live)
    refine ⟨advanced.snapshot, ?_⟩
    rcases advanced.record with ⟨sameSnapshot, sameRecord⟩ | further
    · rw [sameSnapshot, sameRecord]
      exact ahead
    · exact further

theorem create_eq_ok {listener advertised : SocketAddr} {identity : Nat}
    (created : create node listener advertised identity = .ok journal) :
    ∃ binding, journal.snapshot = firstSnapshot node binding listener ∧
      validateSnapshot node journal.snapshot = .ok () ∧
        journal.store.record = journal.snapshot := by
  simp only [create, bind_eq_ok, pure_eq_ok] at created
  obtain ⟨binding, _, _, valid, rfl⟩ := created
  exact ⟨binding, rfl, valid, rfl⟩

def IsFirst (node : Node) (snapshot : Snapshot) : Prop :=
  ∃ binding listener, snapshot = firstSnapshot node binding listener ∧
    validateSnapshot node snapshot = .ok ()

/-- The snapshots of one node under settled edits. -/
def snapshotMachine (node : Node) : Machine Snapshot where
  initial := IsFirst node
  step := Settled node

theorem reachable_allLive (reachable : (snapshotMachine node).Reachable snapshot) :
    snapshot.AllLive := by
  obtain ⟨start, ⟨binding, listener, rfl, _⟩, history⟩ := reachable
  refine History.allLive history fun share member => ?_
  cases member

theorem reachable_valid (reachable : (snapshotMachine node).Reachable snapshot) :
    validateSnapshot node snapshot = .ok () := by
  obtain ⟨start, ⟨binding, listener, rfl, valid⟩, history⟩ := reachable
  cases history with
  | refl => exact valid
  | tail _ settled =>
    obtain ⟨_, _, _, settles⟩ := settled
    exact (settle_settlesTo settles).valid

/-- The snapshot and the record of a reachable journal are reachable snapshots, the
record from the snapshot. -/
theorem reachable_snapshots (reachable : (journalMachine node).Reachable journal) :
    (snapshotMachine node).Reachable journal.snapshot ∧
      History node journal.snapshot journal.store.record := by
  refine @Machine.Reachable.invariant _ _ (fun journal : Journal =>
    (snapshotMachine node).Reachable journal.snapshot ∧
      History node journal.snapshot journal.store.record) _ reachable ?_ ?_
  · rintro start ⟨listener, advertised, identity, created⟩
    obtain ⟨binding, first, valid, record⟩ := create_eq_ok created
    rw [record]
    exact ⟨.start ⟨binding, listener, first, valid⟩, .refl⟩
  · rintro before left _ step ⟨snapshot, ahead⟩
    obtain ⟨moved, further⟩ := journal_step_history step (reachable_allLive snapshot) ahead
    exact ⟨snapshot.run moved, further⟩

/-- Later snapshots of a journal lie in the future of earlier ones. -/
theorem run_history {start : Journal} (reachable : (journalMachine node).Reachable start)
    (run : Relation.ReflTransGen (journalMachine node).step start left) :
    History node start.snapshot left.snapshot := by
  induction run with
  | refl => exact .refl
  | tail earlier step ih =>
    obtain ⟨snapshot, ahead⟩ := reachable_snapshots (reachable.run earlier)
    exact ih.trans (journal_step_history step (reachable_allLive snapshot) ahead).1

theorem History.keeps {node : Node} {property : Snapshot → Prop} {start left : Snapshot}
    (reachable : (snapshotMachine node).Reachable start) (history : History node start left)
    (kept : ∀ before after, (snapshotMachine node).Reachable before → Settled node before after →
      property before → property after)
    (holds : property start) : property left := by
  induction history with
  | refl => exact holds
  | tail earlier step ih => exact kept _ _ (reachable.run earlier) step ih

end Covalent.Sharing
