import Covalent.Sharing.LinkSteps

/-!
# What every edit does to shares and refusals

Every candidate that an operation may try to persist is a `ConsentStep` from the snapshot it
was made from, and every invariant about consent is derived from that and from what settling
does.
-/

namespace Covalent.Sharing

variable [Primitives]

variable {node : Node} {env : Surroundings} {snapshot candidate : Snapshot}

/-- Trust that ended changes no party and no chain of offers. -/
theorem trustCandidate_effect {config : NodeConfig}
    (planned : trustCandidate config snapshot = .ok candidate) :
    ConsentStep node snapshot candidate := by
  simp only [trustCandidate, bind_eq_ok, pure_eq_ok] at planned
  obtain ⟨verdicts, selected, _, _, _, _, rfl⟩ := planned
  refine ⟨rfl, ⟨_, [], (List.append_nil _).symm, ?_, .inl rfl⟩, .inl rfl, .same rfl⟩
  rw [← selectTrusted_eq_ok selected, List.forall₂_map_left_iff, List.forall₂_map_right_iff]
  refine List.forall₂_same.mpr fun verdict _ => ?_
  split
  · exact .quiet rfl rfl rfl
  · exact .quiet rfl rfl rfl

/-- A higher floor may prune tombstones. -/
theorem floor_effect (now : Nat) :
    ConsentStep node snapshot (advanceFreshnessFloorCandidate snapshot now) := by
  refine ⟨?_, ?_, .inr ⟨now, rfl⟩, .same ?_⟩
  all_goals rw [advanceFreshnessFloorCandidate_eq]
  exact .same

theorem adoptRoute_effect {route : Option (SocketAddr × SocketAddr)} :
    Decides (ConsentStep node snapshot) (adoptRoute node route snapshot) := by
  iterate 2 refine plan_bind fun _ _ => ?_
  exact plan_ite (fun _ => plan_replace (.of_same rfl rfl rfl rfl) _) fun _ => plan_keep _

variable {peerId : DeviceId} {folderId offerId : Uuid} {label : String}
  {settings : Option FolderLinkSettings} {peer : CurrentPeerTrust} {root : LocalRoot} {now : Nat}

theorem prepareOffer_trusted {selectedRoot : String} {existing : Option FolderShareOffer}
    (prepared : prepareOffer node env snapshot peerId folderId label selectedRoot settings =
      .ok (peer, root, existing)) :
    trustedPeer env peerId = .ok peer := by
  simp only [prepareOffer, bind_eq_ok, exists_unit, refuse_eq_ok, pure_eq_ok,
    Prod.mk.injEq] at prepared
  obtain ⟨found, trusted, _, _, _, _, _, rfl, _⟩ := prepared
  exact trusted

/-- An offer adds a share with a trusted peer. -/
theorem planOffer_effect (trusted : trustedPeer env peerId = .ok peer) :
    Decides (ConsentStep node snapshot)
      (planOffer node env peer root peerId folderId label now settings snapshot) := by
  refine plan_bind fun _ _ => plan_bind fun _ _ => plan_bind fun _ unshared =>
    plan_bind fun offer issued => plan_replace ?_ _
  have added : SharesStep node snapshot (snapshot.shares ++ [newShare peer offer (some root)]) :=
    .add (.offered trusted (refuse_eq_ok.mp unshared) issued)
  cases settings with
  | none => exact ⟨rfl, added, .inl rfl, .same rfl⟩
  | some initial => exact ⟨rfl, added, .inl rfl, .same rfl⟩

/-- A received offer renews a share or adds one. -/
theorem planReceiveOffer_effect {offer : FolderShareOffer}
    (screened : OfferScreened node snapshot offer peer) :
    Decides (ConsentStep node snapshot) (planReceiveOffer node peer offer now snapshot) := by
  intro candidate _ planned
  obtain ⟨previous, found, renews, rfl⟩ | ⟨unshared, rfl⟩ := planReceiveOffer_eq_replace planned
  · refine ⟨rfl, ?_, .inl rfl, .same rfl⟩
    refine SharesStep.modifyFirst fun first passes => ?_
    rw [found, Option.some.injEq] at passes
    subst passes
    have member := List.find?_some found
    exact .renewReceived screened member renews
  · exact ⟨rfl, .add (.received screened unshared), .inl rfl, .same rfl⟩

/-- A renewal supersedes the offer of an own share. -/
theorem planRenewOffer_effect :
    Decides (ConsentStep node snapshot) (planRenewOffer node env offerId now snapshot) := by
  refine plan_bind fun _ _ => ?_
  split
  · exact plan_check _ _
  · refine plan_bind fun share found => plan_bind fun _ checked => ?_
    iterate 6 refine plan_bind fun _ _ => ?_
    refine plan_bind fun offer issued => plan_bind fun _ _ => plan_replace ?_ _
    have own : share.offer.sourceDeviceId = node.deviceId := by
      have passed := refuse_eq_ok.mp checked
      simp only [Bool.or_eq_false_iff, bne_eq_false_iff_eq] at passed
      exact passed.1.1.1
    have raised := advanceFreshnessFloorCandidate_eq snapshot now
    refine @ConsentStep.of_update _ _ _ _ _ (Share.supersede · offer) _ found (.renew own issued)
      ?_ ?_ (.inr ⟨now, rfl⟩) ?_
    all_goals unfold Snapshot.updateShare
    all_goals rw [raised]

/-- The change of a share that keeps its parties and its chain of offers. -/
theorem ConsentStep.of_quiet {share : Share} {change : Share → Share}
    (found : index snapshot offerId = .ok share)
    (peer : (change share).peerIdentity = share.peerIdentity)
    (offer : (change share).offer = share.offer)
    (superseded : (change share).supersededOffers = share.supersededOffers) :
    ConsentStep node snapshot (snapshot.updateShare offerId change) :=
  .of_update found (.quiet peer offer superseded) rfl rfl (.inl rfl) rfl

/-- An acceptance changes neither parties nor offers. -/
theorem planAccept_effect {selectedRoot : String} : Decides (ConsentStep node snapshot)
    (planAccept node env offerId selectedRoot now snapshot) := by
  refine plan_bind fun share found => plan_bind fun _ _ => plan_bind fun _ _ => ?_
  split
  · exact plan_check _ _
  · exact plan_bind fun _ _ => plan_replace (.of_quiet found rfl rfl rfl) _

theorem planReceiveAcceptance_effect {acceptance : FolderShareAcceptance} :
    Decides (ConsentStep node snapshot)
      (planReceiveAcceptance node env offerId acceptance now snapshot) := by
  refine plan_bind fun share found => plan_bind fun _ _ => ?_
  split
  · refine plan_ite (fun _ candidate value planned => ?_) fun _ => plan_throw _
    simp only [Except.map_eq_ok, reduceCtorEq, and_false, exists_false] at planned
  · refine plan_bind fun _ _ => plan_bind fun _ _ => plan_replace ?_ _
    exact .of_update found (.quiet rfl rfl rfl) rfl rfl (.inl rfl) rfl

theorem planReceiveCommit_effect {commit : FolderShareCommit} :
    Decides (ConsentStep node snapshot) (planReceiveCommit node offerId commit snapshot) := by
  refine plan_bind fun share found => plan_bind fun _ _ => ?_
  split
  · exact plan_check _ _
  · iterate 2 refine plan_bind fun _ _ => ?_
    exact plan_replace (.of_quiet found rfl rfl rfl) _

theorem decidePause_effect {paused : Bool}
    (decided : decidePause offerId paused snapshot = .ok .share) :
    ConsentStep node snapshot
      (snapshot.updateShare offerId fun share => { share with paused := paused }) := by
  simp only [decidePause, bind_eq_ok] at decided
  obtain ⟨share, found, _⟩ := decided
  exact .of_quiet found rfl rfl rfl

/-- A removed share is marked; its tombstones come with settling. -/
theorem planRemove_effect : Decides (ConsentStep node snapshot) (planRemove offerId snapshot) := by
  refine plan_ite (fun _ => plan_keep _) fun _ => plan_bind fun share _ =>
    plan_ite (fun _ => plan_keep _) fun _ => plan_bind fun _ _ => plan_replace ?_ _
  exact ⟨rfl, .modifyFirst fun _ _ => .quiet rfl rfl rfl, .inl rfl, .same rfl⟩

/-- A withdrawal by a peer is kept with its chain of offers. -/
theorem planReceiveRemoval_effect {notice : FolderRemovalNotice} :
    Decides (ConsentStep node snapshot) (planReceiveRemoval node env notice snapshot) := by
  intro candidate _ planned
  obtain ⟨canonical, chain, rfl⟩ := planReceiveRemoval_eq_replace planned
  refine ⟨rfl, .modifyFirst fun _ _ => .quiet rfl rfl rfl, .inl rfl, ?_⟩
  exact planReceiveRemoval_remotes chain rfl rfl

theorem planAcknowledgeRemoval_effect :
    Decides (ConsentStep node snapshot) (planAcknowledgeRemoval peerId offerId snapshot) :=
  plan_ite (fun _ => plan_replace (.of_same rfl rfl rfl rfl) _) fun _ => plan_check _ _

/-- Some shares change, with their parties and chains as before. -/
theorem SharesStep.change {change : Share → Share} {test : Share → Bool}
    (quiet : ∀ share : Share, ShareStep node snapshot share (change share)) :
    SharesStep node snapshot
      (snapshot.shares.map fun share => if test share then change share else share) := by
  refine .map fun share _ => ?_
  split
  · exact quiet share
  · exact .quiet rfl rfl rfl

theorem withoutPeer_effect : ConsentStep node snapshot (withoutPeer peerId snapshot) :=
  ⟨rfl, .change fun _ => .quiet rfl rfl rfl, .inl rfl, .same rfl⟩

/-- The root of a share is the device's own affair. -/
theorem planCommitRootRepair_effect {prepared : PreparedRootRepair} :
    Decides (ConsentStep node snapshot) (planCommitRootRepair node env prepared snapshot) := by
  refine plan_bind fun share found => ?_
  iterate 3 refine plan_bind fun _ _ => ?_
  split
  · exact plan_bind fun _ _ => plan_keep _
  · refine plan_ite (fun _ => plan_replace ?_ _) fun _ => plan_keep _
    exact .of_update found (.quiet rfl rfl rfl) rfl rfl (.inl rfl) rfl

theorem planCompleteRootReset_effect :
    Decides (ConsentStep node snapshot) (planCompleteRootReset node env folderId snapshot) := by
  iterate 4 refine plan_bind fun _ _ => ?_
  exact plan_replace (.of_same rfl rfl rfl rfl) _

theorem planBeginPeerAddressRefresh_effect {prepared : PreparedPeerAddressRefresh} :
    Decides (ConsentStep node snapshot) (planBeginPeerAddressRefresh env prepared snapshot) := by
  refine plan_ite (fun _ => plan_keep _) fun _ => ?_
  iterate 4 refine plan_bind fun _ _ => ?_
  split
  · exact plan_check _ _
  · exact plan_replace (.of_same rfl rfl rfl rfl) _

/-- A new address changes how a peer is reached. -/
theorem planCompletePeerAddressRefresh_effect :
    Decides (ConsentStep node snapshot) (planCompletePeerAddressRefresh env peerId snapshot) := by
  iterate 6 refine plan_bind fun _ _ => ?_
  exact plan_replace ⟨rfl, .change fun _ => .quiet rfl rfl rfl, .inl rfl, .same rfl⟩ _

omit [Primitives] in
/-- A change is only persisted if it makes a difference. -/
theorem decides_planBulk {change : Snapshot → Result Snapshot} {step : Snapshot → Prop}
    (changed : ∀ candidate, change snapshot = .ok candidate → step candidate) :
    Decides step (planBulk change snapshot) :=
  plan_bind fun next done => plan_pick (plan_keep _) (plan_replace (changed next done) _)

theorem planUpdateRuns_effect {change : LinkRunState → Result LinkRunState} :
    Decides (ConsentStep node snapshot)
      (planBulk (updateSourceRuns node.deviceId change) snapshot) :=
  decides_planBulk fun _ done => (linkEdit_updateSourceRuns done).consentStep

/-- Only runs depend on who is a member. -/
theorem reconcileMembership_effect {owner : DeviceId}
    (updated : reconcileMembership snapshot owner now = .ok candidate) :
    ConsentStep node snapshot candidate := by
  obtain ⟨runs, -, rfl⟩ := reconcileMembership_eq_ok.mp updated
  exact .of_same rfl rfl rfl rfl

/-- Rosters of endpoints are about neither shares nor refusals. -/
theorem planEndpointRosters_effect {names : DisplayNames} :
    Decides (ConsentStep node snapshot) (planEndpointRosters node env names snapshot) := by
  iterate 3 refine plan_bind fun _ _ => ?_
  exact plan_pick (plan_keep _) (plan_replace (.of_same rfl rfl rfl rfl) _)

theorem planReceiveEndpointRoster_effect {commit : EndpointRosterCommit} :
    Decides (ConsentStep node snapshot) (planReceiveEndpointRoster node env commit snapshot) := by
  iterate 4 refine plan_bind fun _ _ => ?_
  refine plan_ite (fun _ => plan_keep _) fun _ => plan_bind fun _ _ => ?_
  exact plan_replace (.of_same rfl rfl rfl rfl) _

end Covalent.Sharing
