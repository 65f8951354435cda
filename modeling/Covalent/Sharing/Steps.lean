import Covalent.Sharing.LinkOperations
import Covalent.Sharing.Settle

/-!
# What an edit does to the shares

Every edit changes each share in one of a few ways, and adds at most one.  This
file says once which ways there are and what was checked for each, so that an
invariant about shares is proved by looking at `ShareStep` and `ShareAdded` and at
nothing else.
-/

namespace Covalent.Sharing

variable [Primitives]

open Primitives List

/-! ## Screening an offer -/

omit [Primitives] in
theorem advanceFreshnessFloorCandidate_eq (snapshot : Snapshot) (now : Nat) :
    advanceFreshnessFloorCandidate snapshot now =
      { snapshot with
        freshnessFloor := (advanceFreshnessFloorCandidate snapshot now).freshnessFloor
        tombstones := (advanceFreshnessFloorCandidate snapshot now).tombstones } := by
  unfold advanceFreshnessFloorCandidate
  dsimp only
  split <;> rfl

omit [Primitives] in
theorem advanceFreshnessFloorCandidate_sublist (snapshot : Snapshot) (now : Nat) :
    (advanceFreshnessFloorCandidate snapshot now).tombstones.Sublist snapshot.tombstones := by
  unfold advanceFreshnessFloorCandidate
  dsimp only
  split
  · exact filter_sublist
  · exact .refl _

variable {node : Node} {now : Nat} {snapshot : Snapshot} {env : Surroundings}
  {peer : CurrentPeerTrust} {offer : FolderShareOffer}

variable {earlier : Snapshot}

/-- Settling a raised floor only forgets tombstones. -/
theorem settle_raised {wall : Nat} (live : earlier.AllLive)
    (settles : settle node wall (advanceFreshnessFloorCandidate earlier now) = .ok snapshot) :
    snapshot.tombstones.Sublist earlier.tombstones ∧
      snapshot.remoteRemovalTombstones = earlier.remoteRemovalTombstones := by
  have settled := settle_settlesTo settles
  have kept := advanceFreshnessFloorCandidate_eq earlier now
  have shares : (advanceFreshnessFloorCandidate earlier now).shares = earlier.shares := by rw [kept]
  obtain ⟨_, sameTombstones⟩ := settled.of_allLive (by rw [Snapshot.AllLive, shares]; exact live)
  constructor
  · rw [sameTombstones]
    exact advanceFreshnessFloorCandidate_sublist earlier now
  · rw [settled.remoteRemovalTombstones, kept]

theorem trustedPeer_deviceId {peerId : DeviceId}
    (trusted : trustedPeer env peerId = .ok peer) : peer.identity.deviceId = peerId := by
  simp only [trustedPeer, bind_eq_ok, okOr_eq_ok] at trusted
  obtain ⟨config, _, _, observed, rfl⟩ := trusted
  unfold observeTrust at observed
  split at observed
  · split at observed
    · cases observed
    · split at observed
      · cases observed
      · split at observed
        · cases observed
        next decoded =>
          cases observed
          exact fromEncoded_deviceId decoded
  · cases observed

/-- What a received offer passed before it is recorded. -/
structure OfferScreened (node : Node) (snapshot : Snapshot) (offer : FolderShareOffer)
    (peer : CurrentPeerTrust) : Prop where
  source : peer.identity.deviceId = offer.sourceDeviceId
  verified : verifyFolderShareOffer offer peer.identity node.deviceId = .ok ()
  unannounced : remotelyRefused snapshot offer = false
  unrefused : incomingRefused snapshot offer.folderId peer.identity.deviceId = false

theorem screenOffer_eq_some (screened : screenOffer node env snapshot offer now = .ok (some peer)) :
    OfferScreened node snapshot offer peer := by
  simp only [screenOffer, bind_eq_ok, exists_unit, refuse_eq_ok, Except.mapError_eq_ok] at screened
  obtain ⟨found, trusted, verified, unannounced, _, screened⟩ := screened
  split at screened
  · split at screened
    · simp at screened
    · split at screened <;> simp at screened
  next =>
    simp only [bind_eq_ok, exists_unit, refuse_eq_ok, Except.mapError_eq_ok,
      verifyFreshFolderShareOffer, pure_eq_ok, Option.some.injEq] at screened
    obtain ⟨_, _, _, unrefused, rfl⟩ := screened
    exact ⟨trustedPeer_deviceId trusted, verified, unannounced, unrefused⟩

theorem screenOffer_eq_none (screened : screenOffer node env snapshot offer now = .ok none) :
    ∃ peer share, trustedPeer env offer.sourceDeviceId = .ok peer ∧
      verifyFolderShareOffer offer peer.identity node.deviceId = .ok () ∧
      share ∈ snapshot.shares ∧ share.removed = false ∧ share.offer = offer := by
  simp only [screenOffer, bind_eq_ok, exists_unit, refuse_eq_ok, Except.mapError_eq_ok] at screened
  obtain ⟨peer, trusted, verified, _, _, screened⟩ := screened
  split at screened
  next share found =>
    split at screened
    · cases screened
    next live =>
      split at screened
      next same =>
        exact ⟨peer, share, trusted, verified, mem_of_find?_eq_some found, by simpa using live,
          beq_iff_eq.mp same⟩
      · cases screened
  next =>
    simp only [bind_eq_ok, exists_unit, pure_eq_ok, reduceCtorEq, and_false] at screened

theorem screenOffer_raised (live : earlier.AllLive)
    (screened : screenOffer node env earlier offer now = .ok (some peer))
    (raised : snapshot = earlier ∨ ∃ wall,
      settle node wall (advanceFreshnessFloorCandidate earlier now) = .ok snapshot) :
    OfferScreened node snapshot offer peer := by
  have passed := screenOffer_eq_some screened
  rcases raised with rfl | ⟨wall, settles⟩
  · exact passed
  · obtain ⟨tombstones, remotes⟩ := settle_raised live settles
    refine ⟨passed.source, passed.verified, ?_, ?_⟩
    · rw [remotelyRefused, remotes]
      exact passed.unannounced
    · have unrefused := passed.unrefused
      rw [incomingRefused, any_eq_false] at unrefused ⊢
      exact fun removed member => unrefused removed (tombstones.subset member)

/-! ## Ways a share may change -/

/-- The ways an edit may change one share. -/
inductive ShareStep (node : Node) (snapshot : Snapshot) (share : Share) : Share → Prop where
  /-- The parties and the chain of offers stay. -/
  | quiet {after : Share} (peer : after.peerIdentity = share.peerIdentity)
      (offer : after.offer = share.offer)
      (superseded : after.supersededOffers = share.supersededOffers) :
      ShareStep node snapshot share after
  | renewReceived {peer : CurrentPeerTrust} {offer : FolderShareOffer} {now : Nat}
      (screened : OfferScreened node snapshot offer peer)
      (member : share.isMember offer.folderId peer.identity.deviceId = true)
      (renews : renewsReceived node peer share offer now = true) :
      ShareStep node snapshot share
        { share.supersede offer with
          acceptance := none, commit := none, root := none, paused := false }
  | renew {env : Surroundings} {offer : FolderShareOffer} {now : Nat}
      (own : share.offer.sourceDeviceId = node.deviceId)
      (issued : issueFolderShareOfferWithPolicy node env share.peerId share.offer.folderId
        share.offer.label snapshot.binding share.offer.pairingId now share.offer.linkPolicy =
          .ok offer) :
      ShareStep node snapshot share (share.supersede offer)

/-- The ways an edit may add a share. -/
inductive ShareAdded (node : Node) (snapshot : Snapshot) : Share → Prop where
  | offered {env : Surroundings} {peer : CurrentPeerTrust} {offer : FolderShareOffer}
      {root : LocalRoot} {peerId : DeviceId} {folderId : Uuid} {label : String} {now : Nat}
      {policy : Option FolderLinkPolicy} (trusted : trustedPeer env peerId = .ok peer)
      (unshared : snapshot.shares.any (Share.isMember · folderId peerId) = false)
      (issued : issueFolderShareOfferWithPolicy node env peerId folderId label snapshot.binding none
        now policy = .ok offer) :
      ShareAdded node snapshot (newShare peer offer (some root))
  | received {peer : CurrentPeerTrust} {offer : FolderShareOffer}
      (screened : OfferScreened node snapshot offer peer)
      (unshared : snapshot.shares.any
        (Share.isMember · offer.folderId peer.identity.deviceId) = false) :
      ShareAdded node snapshot (newShare peer offer none)

/-- What an edit does to the list of shares: each of them changes in place, and at
most one comes after them. -/
def SharesStep (node : Node) (snapshot : Snapshot) (shares : List Share) : Prop :=
  ∃ kept added, shares = kept ++ added ∧
    List.Forall₂ (ShareStep node snapshot) snapshot.shares kept ∧
    (added = [] ∨ ∃ new, added = [new] ∧ ShareAdded node snapshot new)

section

variable {node : Node} {snapshot : Snapshot}

theorem SharesStep.same : SharesStep node snapshot snapshot.shares :=
  ⟨snapshot.shares, [], by simp, List.forall₂_same.mpr fun _ _ => .quiet rfl rfl rfl, .inl rfl⟩

variable {change : Share → Share}

theorem SharesStep.modifyFirst {test : Share → Bool}
    (changed : ∀ found, snapshot.shares.find? test = some found →
      ShareStep node snapshot found (change found)) :
    SharesStep node snapshot (modifyFirst test change snapshot.shares) :=
  ⟨_, [], by simp, forall₂_modifyFirst (fun _ => .quiet rfl rfl rfl) changed, .inl rfl⟩

theorem SharesStep.map
    (changed : ∀ share ∈ snapshot.shares, ShareStep node snapshot share (change share)) :
    SharesStep node snapshot (snapshot.shares.map change) := by
  refine ⟨snapshot.shares.map change, [], by simp, ?_, .inl rfl⟩
  rw [List.forall₂_map_right_iff]
  exact List.forall₂_same.mpr changed

theorem SharesStep.add {new : Share} (added : ShareAdded node snapshot new) :
    SharesStep node snapshot (snapshot.shares ++ [new]) :=
  ⟨_, [new], rfl, List.forall₂_same.mpr fun _ _ => .quiet rfl rfl rfl, .inr ⟨new, rfl, added⟩⟩

omit [Primitives] in
/-- What looking a share up by its current offer establishes. -/
theorem index_eq_ok {offerId : Uuid} {share : Share} : index snapshot offerId = .ok share ↔
      tombstoneRefuses snapshot offerId = false ∧ supersedingShare snapshot offerId = none ∧
        snapshot.shares.find? (fun share => share.offer.offerId == offerId) = some share ∧
          share.removed = false := by
  simp only [index, bind_eq_ok, exists_unit, refuse_eq_ok, okOr_eq_ok, pure_eq_ok]
  constructor
  · rintro ⟨refused, superseded, found, first, live, rfl⟩
    exact ⟨refused, by simpa using superseded, first, live⟩
  · rintro ⟨refused, superseded, first, live⟩
    exact ⟨refused, by simpa using superseded, share, first, live, rfl⟩

end

/-! ## Trust -/

omit [Primitives] in
theorem selectTrusted_eq_ok {α : Type} {trusted : α → Result Bool} {items : List α}
    {verdicts : List (α × Bool)} (selected : selectTrusted trusted items = .ok verdicts) :
    verdicts.map Prod.fst = items := by
  induction items generalizing verdicts with
  | nil =>
    cases selected
    rfl
  | cons item rest ih =>
    simp only [selectTrusted, bind_eq_ok, pure_eq_ok] at selected
    obtain ⟨verdict, _, others, more, rfl⟩ := selected
    rw [map_cons, ih more]

/-! ## What each plan checked -/

section

variable {node : Node} {env : Surroundings} {snapshot candidate : Snapshot}

variable {now : Nat} {offerId : Uuid}

variable {folderId : Uuid} {label : String} {value : FolderShareOffer}

theorem issueFolderShareOfferWithPolicy_parties {target : DeviceId}
    {binding : SyncEngineBinding} {pairingId : Option String}
    {policy : Option FolderLinkPolicy} {offer : FolderShareOffer}
    (issued : issueFolderShareOfferWithPolicy node env target folderId label binding pairingId now
      policy = .ok offer) :
    offer.sourceDeviceId = node.deviceId ∧ offer.targetDeviceId = target ∧
      offer.folderId = folderId ∧ offer.linkPolicy = policy ∧ node.deviceId ≠ target := by
  simp only [issueFolderShareOfferWithPolicy, createFolderShareOfferWithPolicy, bind_eq_ok,
    Except.mapError_eq_ok, exists_unit, okOr_eq_ok, refuse_eq_ok, Bool.or_eq_false_iff,
    beq_eq_false_iff_ne, pure_eq_ok] at issued
  obtain ⟨_, _, _, _, _, ⟨⟨⟨⟨⟨other, _⟩, _⟩, _⟩, _⟩, _⟩, _, _, _, _, _, _, rfl⟩ := issued
  exact ⟨rfl, rfl, rfl, rfl, other⟩

/-- A received offer renews the share of its folder and peer, or starts one. -/
theorem planReceiveOffer_eq_replace {peer : CurrentPeerTrust} {offer : FolderShareOffer}
    (planned : planReceiveOffer node peer offer now snapshot = .ok (.replace candidate ())) :
    (∃ previous, snapshot.shares.find?
          (Share.isMember · offer.folderId peer.identity.deviceId) = some previous ∧
        renewsReceived node peer previous offer now = true ∧
        candidate = ({ snapshot with
          shares := modifyFirst (Share.isMember · offer.folderId peer.identity.deviceId)
            (fun share => { share.supersede offer with
              acceptance := none, commit := none, root := none, paused := false })
            snapshot.shares } : Snapshot).rememberRoute peer.identity.deviceId
              offer.sourceEngine) ∨
      snapshot.shares.any (Share.isMember · offer.folderId peer.identity.deviceId) = false ∧
        candidate = ({ snapshot with
          shares := snapshot.shares ++ [newShare peer offer none] } : Snapshot).rememberRoute
            peer.identity.deviceId offer.sourceEngine := by
  simp only [planReceiveOffer, bind_eq_ok, exists_unit] at planned
  obtain ⟨_, planned⟩ := planned
  split at planned
  next previous found =>
    simp only [bind_eq_ok, exists_unit, refuse_eq_ok, Bool.not_eq_false',
      pure_eq_ok, Plan.replace.injEq, and_true] at planned
    obtain ⟨renews, _, rfl⟩ := planned
    exact .inl ⟨previous, found, renews, rfl⟩
  next =>
    simp only [checkNotShared, bind_eq_ok, exists_unit, refuse_eq_ok, pure_eq_ok,
      Plan.replace.injEq, and_true] at planned
    obtain ⟨_, _, unshared, rfl⟩ := planned
    exact .inr ⟨unshared, rfl⟩

end

/-! ## Removing -/

section

variable {node : Node} {env : Surroundings} {snapshot candidate : Snapshot}

omit [Primitives] in
theorem longerChain_extends {left right : List Uuid} (fork : chainsFork left right = false) :
    left <+: longerChain left right ∧ right <+: longerChain left right := by
  have related : left <+: right ∨ right <+: left := by
    simpa only [chainsFork, Bool.and_eq_false_iff, Bool.not_eq_false',
      isPrefixOf_iff_prefix] using fork
  unfold longerChain
  split
  next shorter =>
    rcases related with forth | back
    · exact ⟨forth, prefix_rfl⟩
    · exact absurd back.length_le (by omega)
  next longer =>
    rcases related with forth | back
    · rw [forth.eq_of_length_le (by omega)]
      exact ⟨prefix_rfl, prefix_rfl⟩
    · exact ⟨prefix_rfl, back⟩

variable {notice : FolderRemovalNotice}

omit [Primitives] in
theorem canonicalRemovalIds_prefix {refusal : Option RemoteRemovalTombstone} {share : Option Share}
    {canonical : List Uuid} (chain : canonicalRemovalIds notice refusal share = .ok canonical)
    {removed : RemoteRemovalTombstone} (refused : refusal = some removed)
    (fork : chainsFork removed.offerIds notice.offerIds = false) :
    removed.offerIds <+: canonical := by
  have told : removed.offerIds <+: longerChain notice.offerIds removed.offerIds := by
    have flipped : chainsFork notice.offerIds removed.offerIds = false := by
      rw [← fork, chainsFork, chainsFork, Bool.and_comm]
    exact (longerChain_extends flipped).2
  subst refused
  cases share with
  | none =>
    simp only [canonicalRemovalIds, Option.elim_some, pure_eq_ok] at chain
    rw [← chain]
    exact told
  | some share =>
    simp only [canonicalRemovalIds, Option.elim_some, bind_eq_ok, exists_unit,
      refuse_eq_ok, pure_eq_ok] at chain
    obtain ⟨_, unforked, rfl⟩ := chain
    have flipped : chainsFork (longerChain notice.offerIds removed.offerIds) share.offerIds =
        false := by
      rw [← unforked, chainsFork, chainsFork, Bool.and_comm]
    exact told.trans (longerChain_extends flipped).1

/-- Whether a share is the one a removal notice is about. -/
def Share.concernedBy (share : Share) (notice : FolderRemovalNotice) : Bool :=
  share.peerId == notice.requesterId && share.offer.folderId == notice.folderId

/-- A removal removes the share it names and keeps its whole chain refused. -/
theorem planReceiveRemoval_eq_replace
    (planned : planReceiveRemoval node env notice snapshot = .ok (.replace candidate ())) :
    ∃ canonical,
      (∀ removed, snapshot.remoteRemovalTombstones.find? (·.concerns notice) = some removed →
        removed.offerIds <+: canonical) ∧
      candidate =
        { snapshot with
          shares := modifyFirst (Share.concernedBy · notice)
            (fun share => { share with removed := true }) snapshot.shares
          remoteRemovalTombstones :=
            if (snapshot.remoteRemovalTombstones.find? (·.concerns notice)).isSome then
              modifyFirst (·.concerns notice)
                (fun removed => { removed with offerIds := canonical })
                snapshot.remoteRemovalTombstones
            else snapshot.remoteRemovalTombstones ++
              [⟨notice.requesterId, notice.offerSourceId, notice.folderId, canonical⟩] } := by
  simp only [planReceiveRemoval, bind_eq_ok, exists_unit] at planned
  obtain ⟨_, _, _, planned⟩ := planned
  split at planned
  · simp at planned
  · simp only [bind_eq_ok, exists_unit, refuse_eq_ok, Bool.or_eq_false_iff] at planned
    obtain ⟨⟨⟨_, unforked⟩, _⟩, canonical, chain, _, planned⟩ := planned
    split at planned
    · simp at planned
    · simp only [bind_eq_ok, exists_unit, refuse_eq_ok, pure_eq_ok,
        Plan.replace.injEq, and_true] at planned
      obtain ⟨_, rfl⟩ := planned
      refine ⟨canonical, fun removed refused => ?_, rfl⟩
      refine canonicalRemovalIds_prefix chain refused ?_
      simpa [refused] using unforked

end

/-! ## Every edit -/

/-- What an edit does to the withdrawals that peers announced. -/
inductive RemotesStep (snapshot candidate : Snapshot) : Prop where
  | same (unchanged : candidate.remoteRemovalTombstones = snapshot.remoteRemovalTombstones)
  | received {notice : FolderRemovalNotice} (kept : ∀ removed ∈ snapshot.remoteRemovalTombstones,
        ∃ longer ∈ candidate.remoteRemovalTombstones, longer.peerId = removed.peerId ∧
          longer.offerSourceId = removed.offerSourceId ∧ longer.folderId = removed.folderId ∧
            removed.offerIds <+: longer.offerIds)
      (named : ∀ removed ∈ candidate.remoteRemovalTombstones,
        (∃ shorter ∈ snapshot.remoteRemovalTombstones, shorter.peerId = removed.peerId ∧
          shorter.offerSourceId = removed.offerSourceId ∧ shorter.folderId = removed.folderId) ∨
        (removed.peerId = notice.requesterId ∧ removed.folderId = notice.folderId))
      (shares : candidate.shares = modifyFirst (Share.concernedBy · notice)
        (fun share => { share with removed := true }) snapshot.shares)

/-- What an edit does to shares and refusals. -/
structure ConsentStep (node : Node) (snapshot candidate : Snapshot) : Prop where
  owner : candidate.owner = snapshot.owner
  shares : SharesStep node snapshot candidate.shares
  tombstones : candidate.tombstones = snapshot.tombstones ∨
    ∃ now, candidate.tombstones = (advanceFreshnessFloorCandidate snapshot now).tombstones
  remotes : RemotesStep snapshot candidate

section

variable {node : Node} {snapshot candidate : Snapshot}

theorem ConsentStep.of_same (owner : candidate.owner = snapshot.owner)
    (shares : candidate.shares = snapshot.shares)
    (tombstones : candidate.tombstones = snapshot.tombstones)
    (remotes : candidate.remoteRemovalTombstones = snapshot.remoteRemovalTombstones) :
    ConsentStep node snapshot candidate := by
  refine ⟨owner, ?_, .inl tombstones, .same remotes⟩
  rw [shares]
  exact .same

theorem ConsentStep.of_update {offerId : Uuid} {change : Share → Share} {share : Share}
    (found : index snapshot offerId = .ok share)
    (changed : ShareStep node snapshot share (change share))
    (owner : candidate.owner = snapshot.owner)
    (shares : candidate.shares = (snapshot.updateShare offerId change).shares)
    (tombstones : candidate.tombstones = snapshot.tombstones ∨
      ∃ now, candidate.tombstones = (advanceFreshnessFloorCandidate snapshot now).tombstones)
    (remotes : candidate.remoteRemovalTombstones = snapshot.remoteRemovalTombstones) :
    ConsentStep node snapshot candidate := by
  refine ⟨owner, ?_, tombstones, .same remotes⟩
  rw [shares]
  refine .modifyFirst fun first passes => ?_
  obtain ⟨_, _, same, _⟩ := index_eq_ok.mp found
  rw [passes, Option.some.injEq] at same
  subst same
  exact changed

omit [Primitives] in
theorem planReceiveRemoval_remotes {notice : FolderRemovalNotice} {canonical : List Uuid}
    (chain : ∀ removed, snapshot.remoteRemovalTombstones.find? (·.concerns notice) = some removed →
      removed.offerIds <+: canonical)
    (remotes : candidate.remoteRemovalTombstones =
      if (snapshot.remoteRemovalTombstones.find? (·.concerns notice)).isSome then
        modifyFirst (·.concerns notice) (fun removed => { removed with offerIds := canonical })
          snapshot.remoteRemovalTombstones
      else snapshot.remoteRemovalTombstones ++
        [⟨notice.requesterId, notice.offerSourceId, notice.folderId, canonical⟩])
    (shares : candidate.shares = modifyFirst (Share.concernedBy · notice)
      (fun share => { share with removed := true }) snapshot.shares) :
    RemotesStep snapshot candidate := by
  cases first : snapshot.remoteRemovalTombstones.find? (·.concerns notice) with
  | none =>
    rw [first] at remotes
    refine .received ?_ ?_ shares
    · intro removed member
      rw [remotes]
      exact ⟨removed, mem_append_left _ member, rfl, rfl, rfl, prefix_rfl⟩
    · intro removed member
      rw [remotes] at member
      simp only [Option.isSome_none, Bool.false_eq_true, if_false, mem_append,
        mem_singleton] at member
      rcases member with old | rfl
      · exact .inl ⟨removed, old, rfl, rfl, rfl⟩
      · exact .inr ⟨rfl, rfl⟩
  | some found =>
    rw [first] at remotes
    simp only [Option.isSome_some, if_true] at remotes
    obtain ⟨before, after, split, passes, _, changed⟩ := modifyFirst_split first
    rw [changed] at remotes
    refine .received ?_ ?_ shares
    · intro removed member
      rw [remotes]
      rw [split, mem_append, mem_cons] at member
      rcases member with early | rfl | late
      · exact ⟨removed, by simp [early], rfl, rfl, rfl, prefix_rfl⟩
      · exact ⟨{ removed with offerIds := canonical }, by simp, rfl, rfl, rfl, chain _ first⟩
      · exact ⟨removed, by simp [late], rfl, rfl, rfl, prefix_rfl⟩
    · intro removed member
      rw [remotes, mem_append, mem_cons] at member
      left
      rcases member with early | rfl | late
      · exact ⟨removed, by simp [split, early], rfl, rfl, rfl⟩
      · exact ⟨found, by simp [split], rfl, rfl, rfl⟩
      · exact ⟨removed, by simp [split, late], rfl, rfl, rfl⟩

end

end Covalent.Sharing
