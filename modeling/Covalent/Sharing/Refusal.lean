import Covalent.Sharing.History

/-!
# Refusals last

An offer that was removed or superseded never comes back, and neither does the
folder of a received share that was removed.  Tombstones are pruned as the
freshness floor rises, so the proof rests on what pruning keeps: a tombstone is
only forgotten when another one lists its offer, and that one stays.
-/

namespace Covalent.Sharing

open Primitives Effect List

/-! ## What a change keeps of a share -/

theorem Share.supersededIds_supersede (share : Share) (offer : FolderShareOffer) :
    (share.supersede offer).supersededIds = share.offerIds := by
  simp [Share.supersede, Share.supersededIds, Share.offerIds]

/-- What every change keeps of a share: its parties, its folder and its chain. -/
structure ShareKept (node : Node) (before after : Share) : Prop where
  peer : after.peerId = before.peerId
  folder : after.offer.folderId = before.offer.folderId
  target : after.offer.targetDeviceId = node.deviceId ↔ before.offer.targetDeviceId = node.deviceId
  chain : after.offer = before.offer ∧ after.supersededOffers = before.supersededOffers ∨
    after.removed = false ∧ after.supersededIds = before.offerIds

variable {node : Node} {snapshot candidate settled : Snapshot} {owner : PublicIdentity}
  {taken : List Uuid} {share before after : Share} {offerId folderId : Uuid} {peer : DeviceId}
  {removed : Tombstone}

theorem Share.isMember_eq_true : share.isMember folderId peer = true ↔
      share.removed = false ∧ share.offer.folderId = folderId ∧ share.peerId = peer := by
  simp [Share.isMember, and_assoc]

theorem ShareKept.of_same (peer : after.peerIdentity = before.peerIdentity)
    (offer : after.offer = before.offer)
    (superseded : after.supersededOffers = before.supersededOffers) :
    ShareKept node before after := by
  refine ⟨congrArg PublicIdentity.deviceId peer, ?_, ?_, .inl ⟨offer, superseded⟩⟩
  · rw [offer]
  · rw [offer]

theorem ShareKept.superseded (kept : ShareKept node before after)
    (listed : offerId ∈ before.supersededIds) : offerId ∈ after.supersededIds := by
  rcases kept.chain with ⟨_, same⟩ | ⟨_, longer⟩
  · rw [Share.supersededIds, same]
    exact listed
  · rw [longer, Share.offerIds]
    exact mem_append_left _ listed

theorem ShareKept.current (kept : ShareKept node before after) :
    after.offer.offerId = before.offer.offerId ∨ before.offer.offerId ∈ after.supersededIds := by
  rcases kept.chain with ⟨same, _⟩ | ⟨_, longer⟩
  · exact .inl (by rw [same])
  · rw [longer, Share.offerIds]
    exact .inr (by simp)

/-- Who a share is with, and which folder it is about. -/
def Share.membership (share : Share) : DeviceId × Uuid :=
  (share.peerId, share.offer.folderId)

theorem ShareKept.membership (kept : ShareKept node before after) :
    after.membership = before.membership :=
  Prod.ext kept.peer kept.folder

theorem Share.current_mem_offerIds (share : Share) : share.offer.offerId ∈ share.offerIds :=
  Share.mem_offerIds.mpr (.inr rfl)

theorem Share.superseded_mem_offerIds (listed : offerId ∈ share.supersededIds) :
    offerId ∈ share.offerIds :=
  mem_append_left _ listed

theorem RemotesStep.origin (remotes : RemotesStep snapshot candidate)
    {removed : RemoteRemovalTombstone} (member : removed ∈ candidate.remoteRemovalTombstones) :
    (∃ known ∈ snapshot.remoteRemovalTombstones, known.peerId = removed.peerId ∧
        known.offerSourceId = removed.offerSourceId ∧ known.folderId = removed.folderId) ∨
      ∀ share ∈ candidate.shares, share.membership = (removed.peerId, removed.folderId) →
        ∃ marked ∈ candidate.shares,
          marked.removed = true ∧ marked.membership = share.membership := by
  cases remotes with
  | same unchanged => exact .inl ⟨removed, unchanged ▸ member, rfl, rfl, rfl⟩
  | @received notice _ named shares =>
    rcases named removed member with known | ⟨requester, folder⟩
    · exact .inl known
    · right
      intro share present same
      obtain ⟨sharePeer, shareFolder⟩ := Prod.mk.inj same
      have concerned : share.concernedBy notice = true := by
        simp [Share.concernedBy, sharePeer, shareFolder, requester, folder]
      cases first : snapshot.shares.find? (Share.concernedBy · notice) with
      | none =>
        rw [shares, modifyFirst_eq_self first] at present
        exact absurd concerned (find?_eq_none.mp first share present)
      | some found =>
        obtain ⟨before, after, _, passes, _, changed⟩ := modifyFirst_split first
        refine ⟨{ found with removed := true }, ?_, rfl, ?_⟩
        · rw [shares, changed]
          simp
        · have matched : found.peerId = notice.requesterId ∧
              found.offer.folderId = notice.folderId := by
            simpa [Share.concernedBy] using passes
          rw [same, requester, folder]
          exact Prod.ext matched.1 matched.2

/-! ## What a removed share leaves -/

/-- A tombstone of one of the offers of a share. -/
structure Tombstone.LeftBy (removed : Tombstone) (node : Node) (share : Share) : Prop where
  membership : (removed.peerId, removed.folderId) = share.membership
  incoming : removed.incoming = true ↔ share.offer.targetDeviceId = node.deviceId
  chain : removed.offerId = share.offer.offerId ∧ removed.supersededOfferIds = share.supersededIds ∨
    removed.offerId ∈ share.supersededIds ∧ removed.supersededOfferIds = []

theorem Tombstone.LeftBy.offerId_mem (left : removed.LeftBy node share) :
    removed.offerId ∈ share.offerIds := by
  rcases left.chain with ⟨current, _⟩ | ⟨superseded, _⟩
  · exact current ▸ share.current_mem_offerIds
  · exact Share.superseded_mem_offerIds superseded

theorem Tombstone.LeftBy.chain_subset (left : removed.LeftBy node share)
    (listed : offerId ∈ removed.supersededOfferIds) :
    offerId ∈ share.supersededIds ∧ removed.offerId = share.offer.offerId := by
  rcases left.chain with ⟨current, chain⟩ | ⟨_, none⟩
  · exact ⟨chain ▸ listed, current⟩
  · rw [none] at listed
    cases listed

theorem Share.mem_tombstones (owned : snapshot.ownerId = node.deviceId)
    (member : removed ∈ share.tombstones snapshot) : removed.LeftBy node share := by
  have incoming : (share.offer.targetDeviceId == snapshot.ownerId) = true ↔
      share.offer.targetDeviceId = node.deviceId := by rw [beq_iff_eq, owned]
  rw [Share.tombstones, mem_append, mem_singleton] at member
  rcases member with old | rfl
  · obtain ⟨superseded, kept, rfl⟩ := mem_map.mp old
    exact ⟨rfl, incoming, .inr ⟨mem_map_of_mem (mem_filter.mp kept).1, rfl⟩⟩
  · exact ⟨rfl, incoming, .inl ⟨rfl, rfl⟩⟩

theorem Share.terminal_mem_tombstones (share : Share) (snapshot : Snapshot) :
    ∃ removed ∈ share.tombstones snapshot,
      removed.offerIds = share.offer.offerId :: share.supersededIds :=
  ⟨_, mem_append_right _ (mem_singleton.mpr rfl), rfl⟩

variable [Primitives]

/-- Every change of a live share keeps its parties, its folder and its chain. -/
theorem ShareStep.kept (step : ShareStep node snapshot before after) (live : before.removed = false)
    (sound : ShareSound node owner taken before) : ShareKept node before after := by
  cases step with
  | quiet peer offer superseded => exact .of_same peer offer superseded
  | @renewReceived _ offer _ screened member renews =>
    obtain ⟨_, _, target⟩ := verifyFolderShareOffer_parties screened.verified
    obtain ⟨_, folder, _⟩ := Share.isMember_eq_true.mp member
    simp only [renewsReceived, Bool.and_eq_true, beq_iff_eq] at renews
    obtain ⟨⟨⟨⟨⟨⟨⟨⟨⟨received, _⟩, _⟩, _⟩, _⟩, _⟩, _⟩, _⟩, _⟩, _⟩ := renews
    exact ⟨rfl, folder.symm, iff_of_true target received,
      .inr ⟨live, Share.supersededIds_supersede before offer⟩⟩
  | @renew _ offer _ own issued =>
    obtain ⟨_, target, folder, _, other⟩ := issueFolderShareOfferWithPolicy_parties issued
    exact ⟨rfl, folder, iff_of_false (target ▸ sound.peer) (sound.party.mp own),
      .inr ⟨live, Share.supersededIds_supersede before offer⟩⟩

/-! ## Members and chains of a valid snapshot -/

theorem ShareSound.current_not_superseded (sound : ShareSound node owner taken share) :
    share.offer.offerId ∉ share.supersededIds := by
  intro listed
  obtain ⟨replaced, member, same⟩ := mem_map.mp listed
  exact sound.replaced replaced member same

section

variable (valid : ConsentValid node snapshot)

include valid

theorem ConsentValid.memberships_nodup (live : snapshot.AllLive) :
    (snapshot.shares.map Share.membership).Nodup := by
  rw [List.Nodup, pairwise_map]
  refine valid.sharesAgree.imp_of_mem fun {earlier later} before after agrees same => ?_
  obtain ⟨peer, folder⟩ := Prod.mk.inj same
  exact agrees.members (live later after) (live earlier before) folder peer

theorem ConsentValid.share_eq {left right : Share} (first : left ∈ snapshot.shares)
    (second : right ∈ snapshot.shares) (here : offerId ∈ left.offerIds)
    (there : offerId ∈ right.offerIds) : left = right := by
  have apart : snapshot.shares.Pairwise fun earlier later =>
      ∀ offerId ∈ earlier.offerIds, offerId ∉ later.offerIds :=
    valid.sharesAgree.imp fun agrees offerId early late => agrees.apart offerId late early
  have symmetric : Std.Symm fun earlier later : Share =>
      ∀ offerId ∈ earlier.offerIds, offerId ∉ later.offerIds :=
    ⟨fun _ _ disjoint offerId late early => disjoint offerId early late⟩
  by_contra different
  exact apart.forall first second different offerId here there

theorem ConsentValid.not_tombstoned (member : share ∈ snapshot.shares)
    (listed : offerId ∈ share.offerIds) (refusal : removed ∈ snapshot.tombstones) :
    offerId ∉ removed.offerIds := by
  intro refused
  rcases mem_cons.mp refused with rfl | chained
  · exact (valid.shares share member).untaken _ listed (mem_map_of_mem refusal)
  · refine (valid.chains (removed, offerId) ?_).unshared share member listed
    exact mem_flatMap.mpr ⟨removed, refusal, mem_map_of_mem chained⟩

theorem ConsentValid.retainedOfferBinding_eq (member : share ∈ snapshot.shares)
    (listed : offerId ∈ share.offerIds) :
    retainedOfferBinding snapshot offerId =
      some (share.peerId, share.offer.folderId, share.offer.sourceDeviceId) := by
  have untombstoned :
      snapshot.tombstones.find? (fun removed => removed.offerIds.contains offerId) = none := by
    rw [find?_eq_none]
    intro removed refusal
    simpa using valid.not_tombstoned member listed refusal
  have holder : snapshot.shares.find? (fun share => share.offerIds.contains offerId) =
      some share := by
    cases found : snapshot.shares.find? fun share => share.offerIds.contains offerId with
    | none =>
      have absent := find?_eq_none.mp found share member
      simp [listed] at absent
    | some other =>
      have holds : offerId ∈ other.offerIds := by simpa using find?_some found
      rw [valid.share_eq (mem_of_find?_eq_some found) member holds listed]
  rw [retainedOfferBinding, untombstoned, holder]
  rfl

end

/-! ## The shares of a candidate -/

theorem ConsentStep.shares_kept (step : ConsentStep node snapshot candidate)
    (valid : ConsentValid node snapshot) (live : snapshot.AllLive) :
    ∃ kept added, candidate.shares = kept ++ added ∧
      List.Forall₂ (ShareKept node) snapshot.shares kept ∧
      (added = [] ∨ ∃ new, added = [new] ∧ ShareAdded node snapshot new) := by
  obtain ⟨kept, added, split, steps, new⟩ := step.shares
  exact ⟨kept, added, split, forall₂_imp_of_mem steps fun share member _ changed =>
    changed.kept (live share member) (valid.shares share member), new⟩

theorem ConsentStep.owned (step : ConsentStep node snapshot candidate)
    (valid : ConsentValid node snapshot) : candidate.ownerId = node.deviceId := by
  rw [Snapshot.ownerId, step.owner, valid.owner]
  rfl

theorem ShareAdded.unshared {new : Share} (added : ShareAdded node snapshot new)
    (live : snapshot.AllLive) (member : share ∈ snapshot.shares) :
    share.membership ≠ new.membership := by
  intro same
  obtain ⟨peer, folder⟩ := Prod.mk.inj same
  cases added with
  | offered trusted unshared issued =>
    rw [any_eq_false] at unshared
    obtain ⟨_, _, issuedFolder, _⟩ := issueFolderShareOfferWithPolicy_parties issued
    exact unshared share member (Share.isMember_eq_true.mpr ⟨live share member,
      folder.trans issuedFolder, peer.trans (trustedPeer_deviceId trusted)⟩)
  | received screened unshared =>
    rw [any_eq_false] at unshared
    exact unshared share member (Share.isMember_eq_true.mpr ⟨live share member, folder, peer⟩)

theorem ConsentStep.memberships_nodup (step : ConsentStep node snapshot candidate)
    (valid : ConsentValid node snapshot) (live : snapshot.AllLive) :
    (candidate.shares.map Share.membership).Nodup := by
  obtain ⟨kept, added, split, steps, rfl | ⟨new, rfl, addition⟩⟩ := step.shares_kept valid live
  · rw [split, append_nil, forall₂_map_eq steps fun _ _ => ShareKept.membership]
    exact valid.memberships_nodup live
  · rw [split, map_append, forall₂_map_eq steps fun _ _ => ShareKept.membership]
    refine .append (valid.memberships_nodup live) (nodup_singleton _) ?_
    rw [map_singleton, disjoint_singleton, mem_map]
    rintro ⟨share, member, same⟩
    exact addition.unshared live member same

/-! ## Refusals -/

/-- The current offer of a live share. -/
def Snapshot.IsCurrent (snapshot : Snapshot) (offerId : Uuid) : Prop :=
  ∃ share ∈ snapshot.shares, share.removed = false ∧ share.offer.offerId = offerId

/-- A peer announced that it withdrew an offer of its own. -/
def Snapshot.IsWithdrawn (snapshot : Snapshot) (offerId : Uuid) : Prop :=
  ∃ removed ∈ snapshot.remoteRemovalTombstones,
    removed.offerSourceId = removed.peerId ∧ offerId ∈ removed.offerIds

/-- Offers that were removed, superseded or withdrawn by the peer they came from. -/
def Retired (snapshot : Snapshot) (offerId : Uuid) : Prop :=
  (∃ removed ∈ snapshot.tombstones, offerId ∈ removed.offerIds) ∨
    (∃ share ∈ snapshot.shares, offerId ∈ share.supersededIds) ∨ snapshot.IsWithdrawn offerId

def Share.IsReceived (share : Share) (node : Node) (peer : DeviceId) (folderId : Uuid) : Prop :=
  share.offer.targetDeviceId = node.deviceId ∧ share.membership = (peer, folderId)

/-- What the refusals of a journal always satisfy.  A tombstone that another one
lists has no chain of its own, so that pruning keeps the head of each chain; and
what was refused to a peer has not come back. -/
structure RefusalsSound (node : Node) (snapshot : Snapshot) : Prop where
  heads : ∀ removed ∈ snapshot.tombstones, ∀ head ∈ snapshot.tombstones,
    removed.offerId ∈ head.supersededOfferIds → removed.supersededOfferIds = []
  incoming : ∀ removed ∈ snapshot.tombstones, removed.incoming = true →
    ∀ share ∈ snapshot.shares, ¬share.IsReceived node removed.peerId removed.folderId
  announced : ∀ removed ∈ snapshot.remoteRemovalTombstones, removed.offerSourceId = removed.peerId →
      ∀ share ∈ snapshot.shares, ¬share.IsReceived node removed.peerId removed.folderId

theorem RefusalsSound.not_retired (sound : RefusalsSound node snapshot)
    (valid : ConsentValid node snapshot) (current : snapshot.IsCurrent offerId) :
    ¬Retired snapshot offerId := by
  obtain ⟨share, member, _, rfl⟩ := current
  have shareSound := valid.shares share member
  rintro (⟨removed, refusal, refused⟩ | ⟨other, there, superseded⟩ |
    ⟨removed, refusal, announced, listed⟩)
  · exact valid.not_tombstoned member share.current_mem_offerIds refusal refused
  · obtain rfl := valid.share_eq member there share.current_mem_offerIds
      (Share.superseded_mem_offerIds superseded)
    exact shareSound.current_not_superseded superseded
  · -- The identifier is bound to the share, so the withdrawal is about this very share.
    have bound := (valid.remote removed refusal).bound _ listed (share.peerId, share.offer.folderId,
      share.offer.sourceDeviceId) (valid.retainedOfferBinding_eq member share.current_mem_offerIds)
    simp only [Prod.mk.injEq] at bound
    obtain ⟨peer, folder, source⟩ := bound
    refine sound.announced removed refusal announced share member ⟨?_, Prod.ext peer folder⟩
    by_contra elsewhere
    have own := shareSound.party.mpr elsewhere
    exact (valid.remote removed refusal).peer (by rw [← announced, ← source, own])

/-- A tombstone that refuses everything another one refused. -/
structure Tombstone.Covers (head removed : Tombstone) : Prop where
  peer : head.peerId = removed.peerId
  folder : head.folderId = removed.folderId
  incoming : head.incoming = removed.incoming
  offerIds : removed.offerIds ⊆ head.offerIds

omit [Primitives] in
theorem Tombstone.Covers.refl (removed : Tombstone) : removed.Covers removed :=
  ⟨rfl, rfl, rfl, .refl _⟩

theorem advanceFreshnessFloorCandidate_covers (valid : ConsentValid node snapshot)
    (sound : RefusalsSound node snapshot) (now : Nat) (member : removed ∈ snapshot.tombstones) :
    ∃ head ∈ (advanceFreshnessFloorCandidate snapshot now).tombstones, head.Covers removed := by
  by_cases raised : snapshot.freshnessFloor < freshnessFloor now
  · simp only [advanceFreshnessFloorCandidate, if_pos raised, mem_filter, Bool.or_eq_true,
      Bool.not_eq_true', any_eq_false, contains_eq_mem, decide_eq_true_eq]
    by_cases listed : ∃ head ∈ snapshot.tombstones, removed.offerId ∈ head.supersededOfferIds
    · obtain ⟨head, kept, chained⟩ := listed
      have agrees := (valid.chains (head, removed.offerId) (mem_flatMap.mpr
        ⟨head, kept, mem_map_of_mem chained⟩)).agrees removed member rfl
      refine ⟨head, ⟨kept, .inl (.inl fun other present twice => ?_)⟩, agrees.1.symm,
        agrees.2.1.symm, agrees.2.2.symm, ?_⟩
      · -- A head that were listed itself would have no chain.
        rw [sound.heads head kept other present twice] at chained
        cases chained
      · rw [Tombstone.offerIds, sound.heads removed member head kept chained]
        simpa [Tombstone.offerIds] using .inr chained
    · push Not at listed
      exact ⟨removed, ⟨member, .inl (.inl fun other present => listed other present)⟩, .refl _⟩
  · refine ⟨removed, ?_, .refl _⟩
    rw [advanceFreshnessFloorCandidate, if_neg raised]
    exact member

/-! ## What a settled edit keeps -/

section

variable {wall : Nat} (settles : SettlesTo node wall candidate settled)
  (step : ConsentStep node snapshot candidate) (valid : ConsentValid node snapshot)

include settles step valid

theorem SettlesTo.covers (sound : RefusalsSound node snapshot)
    (member : removed ∈ snapshot.tombstones) :
    ∃ head ∈ settled.tombstones, head.Covers removed := by
  rw [settles.tombstones]
  rcases step.tombstones with same | ⟨now, raised⟩
  · exact ⟨removed, mem_append_left _ (same ▸ member), .refl _⟩
  · obtain ⟨head, present, covers⟩ := advanceFreshnessFloorCandidate_covers valid sound now member
    exact ⟨head, mem_append_left _ (raised ▸ present), covers⟩

variable (live : snapshot.AllLive)

include live

theorem SettlesTo.share_origin (member : share ∈ settled.shares) :
    (∃ old ∈ snapshot.shares, ShareKept node old share) ∨
      ShareAdded node snapshot share := by
  rw [settles.shares, mem_filter] at member
  obtain ⟨kept, added, split, steps, new⟩ := step.shares_kept valid live
  rw [split, mem_append] at member
  rcases member.1 with old | new'
  · exact .inl (forall₂_origin steps old)
  · rcases new with rfl | ⟨new, rfl, addition⟩
    · cases new'
    · exact .inr (mem_singleton.mp new' ▸ addition)

/-- A tombstone of a settled snapshot is an old one, or was left by a share that is
marked in the candidate. -/
theorem SettlesTo.tombstone_origin (member : removed ∈ settled.tombstones) :
    removed ∈ snapshot.tombstones ∨ ∃ share ∈ snapshot.shares, removed.LeftBy node share ∧
      ∃ marked ∈ candidate.shares, marked.removed = true ∧
        marked.membership = share.membership := by
  rw [settles.tombstones, mem_append] at member
  rcases member with old | new
  · left
    rcases step.tombstones with same | ⟨now, raised⟩
    · exact same ▸ old
    · exact (advanceFreshnessFloorCandidate_sublist snapshot now).subset (raised ▸ old)
  · right
    obtain ⟨marked, present, left⟩ := mem_flatMap.mp new
    obtain ⟨present, gone⟩ := mem_filter.mp present
    have leaves := Share.mem_tombstones (step.owned valid) left
    obtain ⟨kept, added, split, steps, new⟩ := step.shares_kept valid live
    have listed := present
    rw [split, mem_append] at listed
    rcases listed with continued | fresh
    · obtain ⟨share, before, keeps⟩ := forall₂_origin steps continued
      rcases keeps.chain with ⟨offer, superseded⟩ | ⟨alive, _⟩
      · have same : marked.supersededIds = share.supersededIds := by
          rw [Share.supersededIds, superseded, Share.supersededIds]
        refine ⟨share, before, ⟨leaves.membership.trans keeps.membership,
          leaves.incoming.trans keeps.target, ?_⟩, marked, present, gone, keeps.membership⟩
        rw [← offer, ← same]
        exact leaves.chain
      · rw [alive] at gone
        cases gone
    · rcases new with rfl | ⟨new, rfl, addition⟩
      · cases fresh
      · rw [mem_singleton] at fresh
        subst fresh
        cases addition <;> cases gone

theorem SettlesTo.share_fate (member : share ∈ snapshot.shares) :
    (∃ next ∈ settled.shares, ShareKept node share next) ∨
      ∃ removed ∈ settled.tombstones,
        removed.offerIds = share.offer.offerId :: share.supersededIds ∧
        (removed.peerId, removed.folderId) = share.membership ∧
        (removed.incoming = true ↔ share.offer.targetDeviceId = node.deviceId) := by
  obtain ⟨kept, added, split, steps, _⟩ := step.shares_kept valid live
  obtain ⟨next, present, keeps⟩ := forall₂_image steps member
  have listed : next ∈ candidate.shares := split ▸ mem_append_left _ present
  cases gone : next.removed with
  | false =>
    left
    refine ⟨next, ?_, keeps⟩
    rw [settles.shares]
    exact mem_filter.mpr ⟨listed, by simp [gone]⟩
  | true =>
    right
    obtain ⟨removed, left, ids⟩ := next.terminal_mem_tombstones candidate
    have leaves := Share.mem_tombstones (step.owned valid) left
    refine ⟨removed, ?_, ?_, leaves.membership.trans keeps.membership,
      leaves.incoming.trans keeps.target⟩
    · rw [settles.tombstones]
      exact mem_append_right _ (mem_flatMap.mpr ⟨next, mem_filter.mpr ⟨listed, gone⟩, left⟩)
    · rcases keeps.chain with ⟨offer, superseded⟩ | ⟨alive, _⟩
      · rw [ids, offer, Share.supersededIds, superseded, Share.supersededIds]
      · rw [alive] at gone
        cases gone

/-- A received share was received before, or its peer and folder were not refused. -/
theorem SettlesTo.received_origin (member : share ∈ settled.shares)
    (received : share.IsReceived node peer folderId) :
    (∃ old ∈ snapshot.shares, old.IsReceived node peer folderId) ∨
      incomingRefused snapshot folderId peer = false ∧
        ∀ removed ∈ snapshot.remoteRemovalTombstones, removed.offerSourceId = removed.peerId →
          (removed.peerId, removed.folderId) ≠ (peer, folderId) := by
  rcases settles.share_origin step valid live member with ⟨old, before, kept⟩ | added
  · exact .inl ⟨old, before, kept.target.mp received.1, kept.membership.symm.trans received.2⟩
  · right
    obtain ⟨target, same⟩ := received
    cases added with
    | offered trusted unshared issued =>
      obtain ⟨_, issuedTarget, _, _, other⟩ := issueFolderShareOfferWithPolicy_parties issued
      exact absurd (target.symm.trans issuedTarget) other
    | @received trust offer screened unshared =>
      cases same
      refine ⟨screened.unrefused, fun removed known announced clash => ?_⟩
      obtain ⟨peer, folder⟩ := Prod.mk.inj clash
      obtain ⟨_, source, _⟩ := verifyFolderShareOffer_parties screened.verified
      have peers : removed.peerId = offer.sourceDeviceId := peer.trans source.symm
      have open_ := screened.unannounced
      rw [remotelyRefused, any_eq_false] at open_
      have folders : removed.folderId = offer.folderId := folder
      exact open_ removed known (by simp [announced, peers, folders])

/-- Every settled edit keeps the invariant of the refusals. -/
theorem SettlesTo.refusalsSound (sound : RefusalsSound node snapshot) :
    RefusalsSound node settled := by
  -- A share that stays is not marked, and no other share has its peer and folder.
  have unmarked (share : Share) (member : share ∈ settled.shares) (marked : Share)
      (present : marked ∈ candidate.shares) (gone : marked.removed = true) :
      marked.membership ≠ share.membership := by
    intro same
    rw [settles.shares, mem_filter] at member
    have identical := inj_on_of_nodup_map (step.memberships_nodup valid live) present member.1 same
    rw [identical] at gone
    simp [gone] at member
  refine ⟨fun removed member head present listed => ?_, fun removed member incoming share kept
    received => ?_, fun removed member announced share kept received => ?_⟩
  · rcases settles.tombstone_origin step valid live member with old | ⟨share, before, left, _⟩
    · rcases settles.tombstone_origin step valid live present with oldHead | ⟨other, there, by_, _⟩
      · exact sound.heads removed old head oldHead listed
      · exact absurd (mem_cons_self) (valid.not_tombstoned there
          (Share.superseded_mem_offerIds (by_.chain_subset listed).1) old)
    · rcases settles.tombstone_origin step valid live present with oldHead | ⟨other, there, by_, _⟩
      · exact absurd (mem_cons_of_mem _ listed)
          (valid.not_tombstoned before left.offerId_mem oldHead)
      · obtain ⟨superseded, _⟩ := by_.chain_subset listed
        obtain rfl := valid.share_eq before there left.offerId_mem
          (Share.superseded_mem_offerIds superseded)
        rcases left.chain with ⟨current, _⟩ | ⟨_, none⟩
        · rw [current] at superseded
          exact absurd superseded (valid.shares share before).current_not_superseded
        · exact none
  · rcases settles.tombstone_origin step valid live member with
      old | ⟨_, _, left, marked, present, gone, same⟩
    · rcases settles.received_origin step valid live kept received with
        ⟨known, before, still⟩ | ⟨unrefused, _⟩
      · exact sound.incoming removed old incoming known before still
      · rw [incomingRefused, any_eq_false] at unrefused
        exact unrefused removed old (by simp [incoming])
    · exact unmarked share kept marked present gone
        ((same.trans left.membership.symm).trans received.2.symm)
  · rw [settles.remoteRemovalTombstones] at member
    rcases step.remotes.origin member with ⟨known, before, peer, source, folder⟩ | marks
    · rcases settles.received_origin step valid live kept received with
        ⟨earlier, present, still⟩ | ⟨_, unannounced⟩
      · refine sound.announced known before ?_ earlier present ?_
        · rw [source, peer, announced]
        · rw [peer, folder]
          exact still
      · refine unannounced known before ?_ ?_
        · rw [source, peer, announced]
        · rw [peer, folder]
    · have present : share ∈ candidate.shares := by
        rw [settles.shares] at kept
        exact (mem_filter.mp kept).1
      obtain ⟨marked, listed, gone, same⟩ := marks share present received.2
      exact unmarked share kept marked listed gone same

/-! ## Refusals last -/

theorem SettlesTo.retired (sound : RefusalsSound node snapshot)
    (retired : Retired snapshot offerId) :
    Retired settled offerId := by
  rcases retired with ⟨removed, member, refused⟩ | ⟨share, member, superseded⟩ |
    ⟨removed, member, announced, listed⟩
  · obtain ⟨head, present, covers⟩ := settles.covers step valid sound member
    exact .inl ⟨head, present, covers.offerIds refused⟩
  · rcases settles.share_fate step valid live member with ⟨next, kept, keeps⟩ |
      ⟨removed, left, ids, _⟩
    · exact .inr (.inl ⟨next, kept, keeps.superseded superseded⟩)
    · exact .inl ⟨removed, left, ids ▸ mem_cons_of_mem _ superseded⟩
  · right
    right
    rw [Snapshot.IsWithdrawn, settles.remoteRemovalTombstones]
    cases step.remotes with
    | same unchanged => exact ⟨removed, unchanged ▸ member, announced, listed⟩
    | received kept _ _ =>
      obtain ⟨longer, present, peer, source, _, chain⟩ := kept removed member
      exact ⟨longer, present, by rw [source, peer, announced], chain.subset listed⟩

theorem SettlesTo.current (current : snapshot.IsCurrent offerId) :
    settled.IsCurrent offerId ∨ Retired settled offerId := by
  obtain ⟨share, member, _, rfl⟩ := current
  rcases settles.share_fate step valid live member with ⟨next, kept, keeps⟩ |
    ⟨removed, left, ids, _⟩
  · rcases keeps.current with same | superseded
    · exact .inl ⟨next, kept, settles.allLive next kept, same⟩
    · exact .inr (.inr (.inl ⟨next, kept, superseded⟩))
  · exact .inr (.inl ⟨removed, left, ids ▸ mem_cons_self⟩)

/-- A received share stays, or its peer and folder are refused from then on. -/
theorem SettlesTo.received (member : share ∈ snapshot.shares)
    (received : share.IsReceived node peer folderId) :
    (∃ next ∈ settled.shares, next.IsReceived node peer folderId) ∨
      incomingRefused settled folderId peer = true := by
  rcases settles.share_fate step valid live member with ⟨next, kept, keeps⟩ |
    ⟨removed, left, _, same, incoming⟩
  · exact .inl ⟨next, kept, keeps.target.mpr received.1, keeps.membership.trans received.2⟩
  · right
    obtain ⟨peers, folders⟩ := Prod.mk.inj (same.trans received.2)
    rw [incomingRefused, any_eq_true]
    exact ⟨removed, left, by simp [peers, folders, incoming.mpr received.1]⟩

omit live in
theorem SettlesTo.incomingRefused (sound : RefusalsSound node snapshot)
    (refused : incomingRefused snapshot folderId peer = true) :
    incomingRefused settled folderId peer = true := by
  rw [Sharing.incomingRefused, any_eq_true] at refused ⊢
  obtain ⟨removed, member, matched⟩ := refused
  obtain ⟨head, present, covers⟩ := settles.covers step valid sound member
  refine ⟨head, present, ?_⟩
  rw [covers.peer, covers.folder, covers.incoming]
  exact matched

end

/-! ## Over whole histories -/

section

variable {start left : Snapshot}

theorem reachable_consentValid
    (reachable : (snapshotMachine node).Reachable snapshot) : ConsentValid node snapshot :=
  validateSnapshot_consentValid (reachable_valid reachable)

theorem reachable_refusalsSound
    (reachable : (snapshotMachine node).Reachable snapshot) : RefusalsSound node snapshot := by
  refine @Machine.Reachable.invariant _ _ (RefusalsSound node) _ reachable ?_ ?_
  · rintro _ ⟨binding, listener, rfl, _⟩
    exact ⟨fun _ member => (by cases member), fun _ member => (by cases member),
      fun _ member => (by cases member)⟩
  · rintro before after earlier ⟨wall, candidate, step, settles⟩ sound
    exact (settle_settlesTo settles).refusalsSound step
      (reachable_consentValid earlier) (reachable_allLive earlier) sound

theorem reachable_not_retired (reachable : (snapshotMachine node).Reachable snapshot)
    (current : snapshot.IsCurrent offerId) : ¬Retired snapshot offerId :=
  (reachable_refusalsSound reachable).not_retired (reachable_consentValid reachable) current

section

variable (reachable : (snapshotMachine node).Reachable start) (history : History node start left)

include reachable history

theorem History.induction {property : Snapshot → Prop}
    (keeps : ∀ {before candidate after wall}, SettlesTo node wall candidate after →
      ConsentStep node before candidate → ConsentValid node before → before.AllLive →
        RefusalsSound node before → property before → property after) (initially : property start) :
    property left := by
  refine @History.keeps _ _ property _ _ reachable history (fun before after earlier settled => ?_)
    initially
  obtain ⟨wall, candidate, step, settles⟩ := settled
  exact keeps (settle_settlesTo settles) step (reachable_consentValid earlier)
    (reachable_allLive earlier) (reachable_refusalsSound earlier)

/-- Refusals last. -/
theorem History.retired (retired : Retired start offerId) : Retired left offerId :=
  History.induction reachable history
    (fun settles step valid live sound => settles.retired step valid live sound) retired

theorem History.offered {share : Share} (member : share ∈ start.shares)
    (listed : offerId ∈ share.offerIds) : left.IsCurrent offerId ∨ Retired left offerId := by
  refine @History.induction _ _ _ _ reachable history
    (fun snapshot => snapshot.IsCurrent offerId ∨ Retired snapshot offerId)
    (fun settles step valid live sound holds => ?_) ?_
  · rcases holds with current | retired
    · exact settles.current step valid live current
    · exact .inr (settles.retired step valid live sound retired)
  · rcases mem_append.mp listed with superseded | current
    · exact .inr (.inr (.inl ⟨share, member, superseded⟩))
    · exact .inl ⟨share, member, reachable_allLive reachable share member,
        (mem_singleton.mp current).symm⟩

/-- A received share stays, or its peer and folder are refused from then on. -/
theorem History.received (known : (∃ share ∈ start.shares, share.IsReceived node peer folderId) ∨
      incomingRefused start folderId peer = true) :
    (∃ share ∈ left.shares, share.IsReceived node peer folderId) ∨
      incomingRefused left folderId peer = true := by
  refine @History.induction _ _ _ _ reachable history (fun snapshot => (∃ share ∈ snapshot.shares,
    share.IsReceived node peer folderId) ∨ incomingRefused snapshot folderId peer = true)
    (fun settles step valid live sound holds => ?_) known
  rcases holds with ⟨share, member, received⟩ | refused
  · exact settles.received step valid live member received
  · exact .inr (settles.incomingRefused step valid sound refused)

theorem History.incomingRefused (refused : incomingRefused start folderId peer = true) :
    incomingRefused left folderId peer = true :=
  @History.induction _ _ _ _ reachable history
    (fun snapshot => Sharing.incomingRefused snapshot folderId peer = true)
    (fun settles step valid _ sound => settles.incomingRefused step valid sound) refused

end

end

/-! ## Calls that name an offer -/

/-- The offer that a message or an acceptance names. -/
def Call.namedOffer : Call → Option Uuid
  | .receiveOffer offer _ => some offer.offerId
  | .accept offerId _ _ => some offerId
  | .receiveAcceptance offerId _ _ => some offerId
  | .receiveCommit offerId _ => some offerId
  | _ => none

section

variable {env : Surroundings} {journal : Journal} {offer : FolderShareOffer} {now : Nat}
  {call : Call}

omit [Primitives] in
theorem index_isCurrent {share : Share}
    (found : index snapshot offerId = .ok share) : snapshot.IsCurrent offerId := by
  obtain ⟨_, _, first, live⟩ := index_eq_ok.mp found
  exact ⟨share, mem_of_find?_eq_some first, live, by simpa using find?_some first⟩

/-- A plan that looks its offer up first succeeds only when the offer is current. -/
theorem handing_current {α : Type} {decision : Snapshot → Result (Plan α)}
    {rest : Snapshot → Share → Result (Plan α)} {records : α → List FolderShareRecord}
    (looksUp : ∀ snapshot, decision snapshot = index snapshot offerId >>= rest snapshot)
    (live : journal.snapshot.AllLive) :
    Ensures (handing (decideTrusted node env decision) records) journal
      (fun _ _ => ∃ middle, History node journal.snapshot middle ∧ middle.IsCurrent offerId)
      (fun _ _ => True) := by
  refine ensures_bind ((decideTrusted_ensures decision live).imp ?_ (fun _ _ _ => trivial))
  rintro _ _ ⟨between, decided, advanced, planned, _⟩
  rw [looksUp] at planned
  obtain ⟨share, found, _⟩ := bind_eq_ok.mp planned
  exact ensures_pure ⟨between.snapshot, advanced.snapshot, index_isCurrent found⟩

variable {peer : CurrentPeerTrust}

theorem planReceiveOffer_ne_keep {value : Unit} :
    planReceiveOffer node peer offer now snapshot ≠ .ok (.keep value) := by
  intro planned
  simp only [planReceiveOffer, bind_eq_ok, exists_unit] at planned
  obtain ⟨_, planned⟩ := planned
  split at planned <;> simp at planned

theorem planReceiveOffer_current {wall : Nat} {candidate settled : Snapshot}
    (planned : planReceiveOffer node peer offer now snapshot = .ok (.replace candidate ()))
    (live : snapshot.AllLive) (settles : settle node wall candidate = .ok settled) :
    settled.IsCurrent offer.offerId := by
  have settlesTo := settle_settlesTo settles
  have present : ∃ share ∈ candidate.shares, share.removed = false ∧ share.offer = offer := by
    obtain ⟨previous, found, _, rfl⟩ | ⟨_, rfl⟩ := planReceiveOffer_eq_replace planned
    · obtain ⟨before, after, split, _, _, changed⟩ := modifyFirst_split found
      have member : previous ∈ snapshot.shares := mem_of_find?_eq_some found
      refine ⟨{ previous.supersede offer with
        acceptance := none, commit := none, root := none, paused := false }, ?_,
        live previous member, rfl⟩
      show _ ∈ modifyFirst _ _ snapshot.shares
      rw [changed]
      exact mem_append_right _ mem_cons_self
    · exact ⟨newShare peer offer none, mem_append_right _ (mem_singleton.mpr rfl), rfl, rfl⟩
  obtain ⟨share, member, kept, same⟩ := present
  refine ⟨share, ?_, kept, by rw [same]⟩
  rw [settlesTo.shares]
  exact mem_filter.mpr ⟨member, by simp [kept]⟩

/-- An offer that is received well passed the screening, and is current afterwards. -/
theorem receiveOffer_current (live : journal.snapshot.AllLive) :
    Ensures (receiveOffer node env offer now) journal
      (fun _ _ => ∃ screened middle found, History node journal.snapshot screened ∧
        screenOffer node env screened offer now = .ok found ∧
        History node screened middle ∧ middle.IsCurrent offer.offerId)
      (fun _ _ => True) := by
  unfold receiveOffer
  refine Stays.reconcileTrust.ensures_bind live
    (fun _ between advanced still => ?_) (fun _ _ _ => trivial)
  refine ensures_bind (ensures_get ?_)
  refine ensures_bind (ensures_lift (fun found screened => ?_) (fun _ _ => trivial))
  cases found with
  | none =>
    refine ensures_pure ⟨between.snapshot, between.snapshot, none, advanced.snapshot,
      screened, Relation.ReflTransGen.refl, ?_⟩
    obtain ⟨_, share, _, _, member, kept, same⟩ := screenOffer_eq_none screened
    exact ⟨share, member, kept, by rw [same]⟩
  | some peer =>
    refine ensures_bind ((advanceFreshnessFloor_ensures now between).imp ?_ (fun _ _ _ => trivial))
    rintro _ raised ⟨further, source⟩
    unfold decideNow
    refine ensures_bind (ensures_get ?_)
    refine (carryOut_ensures _ raised).imp ?_ (fun _ _ _ => trivial)
    rintro _ after ⟨decided, planned, ⟨rfl, _⟩ | ⟨candidate, wall, next, rfl, settles, rfl⟩⟩
    · exact absurd planned planReceiveOffer_ne_keep
    · have alive : raised.snapshot.AllLive := further.snapshot.allLive still
      refine ⟨between.snapshot, next, some peer, advanced.snapshot, screened, ?_,
        planReceiveOffer_current planned alive settles⟩
      exact further.snapshot.tail ⟨wall, candidate,
        planReceiveOffer_effect (screenOffer_raised still screened source) _ _ planned, settles⟩

theorem perform_current (named : call.namedOffer = some offerId)
    {left : Journal} (live : journal.snapshot.AllLive) {records : List FolderShareRecord}
    (ran : perform node env call journal = .ok records left) :
    ∃ middle, History node journal.snapshot middle ∧ middle.IsCurrent offerId := by
  refine fact_of_ok ran ?_
  cases call with
  | receiveOffer offer now =>
    cases named
    refine ensures_bind ((receiveOffer_current live).imp ?_ (fun _ _ _ => trivial))
    rintro _ _ ⟨screened, middle, _, before, _, after, current⟩
    exact ensures_pure ⟨middle, before.trans after, current⟩
  | accept offerId root now =>
    cases named
    exact handing_current (fun _ => rfl) live
  | receiveAcceptance offerId acceptance now =>
    cases named
    exact handing_current (fun _ => rfl) live
  | receiveCommit offerId commit =>
    cases named
    exact handing_current (fun _ => rfl) live
  | _ => cases named

/-- A call is refused: it ends with an error. -/
def Refuses (node : Node) (env : Surroundings) (call : Call) (journal : Journal) : Prop :=
  ∃ problem left, perform node env call journal = .error problem left

theorem refuses_of_not_ok
    (fails : ∀ records left, perform node env call journal ≠ .ok records left) :
    Refuses node env call journal := by
  cases ran : perform node env call journal with
  | ok records left => exact absurd ran (fails records left)
  | error problem left => exact ⟨problem, left, ran⟩

/-- A retired offer is out of force, and every call that names it is refused. -/
theorem Retired.refuses (reachable : (journalMachine node).Reachable journal)
    (retired : Retired journal.snapshot offerId)
    (named : call.namedOffer = some offerId) : Refuses node env call journal := by
  obtain ⟨snapshot, _⟩ := reachable_snapshots reachable
  refine refuses_of_not_ok fun records left ran => ?_
  obtain ⟨middle, history, current⟩ := perform_current named (reachable_allLive snapshot) ran
  exact reachable_not_retired (snapshot.run history) current
    (History.retired snapshot history retired)

theorem incomingRefused_refuses (reachable : (journalMachine node).Reachable journal)
    (refused : incomingRefused journal.snapshot offer.folderId offer.sourceDeviceId = true) :
    Refuses node env (.receiveOffer offer now) journal := by
  obtain ⟨snapshot, _⟩ := reachable_snapshots reachable
  refine refuses_of_not_ok fun records left ran => ?_
  have passed : ∃ screened found, History node journal.snapshot screened ∧
      screenOffer node env screened offer now = .ok found := by
    refine fact_of_ok ran ?_
    refine ensures_bind ((receiveOffer_current (reachable_allLive snapshot)).imp ?_
      (fun _ _ _ => trivial))
    rintro _ _ ⟨screened, _, found, before, passes, _⟩
    exact ensures_pure ⟨screened, found, before, passes⟩
  obtain ⟨screened, found, history, passes⟩ := passed
  have later := snapshot.run history
  have still := History.incomingRefused snapshot history refused
  cases found with
  | some peer =>
    have unrefused := (screenOffer_eq_some passes).unrefused
    rw [(screenOffer_eq_some passes).source, still] at unrefused
    cases unrefused
  | none =>
    obtain ⟨peer, share, trusted, verified, member, _, rfl⟩ := screenOffer_eq_none passes
    obtain ⟨_, source, target⟩ := verifyFolderShareOffer_parties verified
    rw [incomingRefused, any_eq_true] at still
    obtain ⟨removed, refusal, matched⟩ := still
    simp only [Bool.and_eq_true, beq_iff_eq] at matched
    obtain ⟨⟨folder, from_⟩, incoming⟩ := matched
    refine (reachable_refusalsSound later).incoming removed refusal incoming share member
      ⟨target, Prod.ext ?_ folder.symm⟩
    have sound := (reachable_consentValid later).shares share member
    obtain ⟨_, shareSource, _⟩ := verifyFolderShareOffer_parties sound.offer
    have elsewhere : share.offer.sourceDeviceId ≠ node.deviceId := fun own =>
      sound.party.mp own target
    rw [Share.sourceIdentity, if_neg elsewhere] at shareSource
    exact shareSource.symm.trans from_.symm

end

/-! ## Removed offers stay removed -/

/-- Once an offer has been removed, superseded or withdrawn by the peer it came from,
it is never again the current offer of a live share, in memory or on disk, and every
later `receive_offer`, `accept`, `receive_acceptance` and `receive_commit` that names
it is refused.  Once a received share has been removed, every later offer of its peer
for its folder is refused. -/
theorem removed_offers_stay_removed {node : Node} {earlier removal later : Journal}
    (reachable : (journalMachine node).Reachable earlier)
    (before : Relation.ReflTransGen (journalMachine node).step earlier removal)
    (after : Relation.ReflTransGen (journalMachine node).step removal later) :
    (∀ offerId, ((∃ share ∈ earlier.snapshot.shares, offerId ∈ share.offerIds) ∧
          ¬removal.snapshot.IsCurrent offerId ∨ removal.snapshot.IsWithdrawn offerId) →
        ¬later.snapshot.IsCurrent offerId ∧ ¬later.store.record.IsCurrent offerId ∧
          ∀ env call, call.namedOffer = some offerId → Refuses node env call later) ∧
    (∀ share ∈ earlier.snapshot.shares, share.offer.targetDeviceId = node.deviceId →
      (∀ kept ∈ removal.snapshot.shares, ¬kept.IsReceived node share.peerId share.offer.folderId) →
      ∀ env offer now, offer.sourceDeviceId = share.peerId → offer.folderId = share.offer.folderId →
          Refuses node env (.receiveOffer offer now) later) := by
  have removing := reachable.run before
  have ending := removing.run after
  obtain ⟨earlierSnapshot, _⟩ := reachable_snapshots reachable
  obtain ⟨removalSnapshot, _⟩ := reachable_snapshots removing
  obtain ⟨laterSnapshot, ahead⟩ := reachable_snapshots ending
  have since := run_history removing after
  constructor
  · intro offerId gone
    have retired : Retired removal.snapshot offerId := by
      rcases gone with ⟨⟨share, member, listed⟩, absent⟩ | withdrawn
      · exact (History.offered earlierSnapshot (run_history reachable before) member
          listed).resolve_left absent
      · exact .inr (.inr withdrawn)
    have still := History.retired removalSnapshot since retired
    refine ⟨fun current => ?_, fun current => ?_, fun env call named => still.refuses ending named⟩
    · exact reachable_not_retired laterSnapshot current still
    · exact reachable_not_retired (laterSnapshot.run ahead) current
        (History.retired laterSnapshot ahead still)
  · intro share member target absent env offer now source folder
    have refused : incomingRefused removal.snapshot share.offer.folderId share.peerId = true :=
      (History.received earlierSnapshot (run_history reachable before)
        (.inl ⟨share, member, target, rfl⟩)).resolve_left fun ⟨kept, present, received⟩ =>
          absent kept present received
    apply incomingRefused_refuses ending
    rw [source, folder]
    exact History.incomingRefused removalSnapshot since refused

/-! ## Commitments -/

theorem checkShare_commit {binding : SyncEngineBinding} {passed : List Share}
    {commit : FolderShareCommit}
    (checked : checkShare node owner binding taken passed share = .ok ())
    (committed : share.commit = some commit) :
    ∃ acceptance, share.acceptance = some acceptance ∧
      verifyFolderShareCommit share.offer acceptance commit (share.sourceIdentity node owner)
        (share.targetIdentity node owner) = .ok () := by
  simp only [checkShare, Share.parties_eq, checkCommit, committed, bind_eq_ok, exists_unit,
    okOr_eq_ok, Except.mapError_eq_ok] at checked
  obtain ⟨-, -, -, -, -, -, agreed, -⟩ := checked
  exact agreed

/-- **Consent.**  In every reachable journal, in memory and on disk, the snapshot passes the
check that opening it makes; a committed share has an offer and a commit that its source
signed and an acceptance that its target signed; no two shares are about one folder with one
peer, and no offer belongs to two shares. -/
theorem committed_shares_are_agreed {node : Node} {journal : Journal}
    (reachable : (journalMachine node).Reachable journal) :
    ∀ snapshot ∈ [journal.snapshot, journal.store.record],
      validateSnapshot node snapshot = .ok () ∧
      (∀ share ∈ snapshot.shares, ∀ commit, share.commit = some commit →
        ∃ acceptance, share.acceptance = some acceptance ∧
          verifyFolderShareCommit share.offer acceptance commit
            (share.sourceIdentity node node.publicIdentity)
            (share.targetIdentity node node.publicIdentity) = .ok ()) ∧
      (snapshot.shares.map Share.membership).Nodup ∧
      ∀ one ∈ snapshot.shares, ∀ two ∈ snapshot.shares, ∀ offerId ∈ one.offerIds,
        offerId ∈ two.offerIds → one = two := by
  intro snapshot listed
  obtain ⟨inMemory, ahead⟩ := reachable_snapshots reachable
  have reached : (snapshotMachine node).Reachable snapshot := by
    simp only [mem_cons, not_mem_nil, or_false] at listed
    rcases listed with rfl | rfl
    · exact inMemory
    · exact inMemory.run ahead
  have valid := reachable_consentValid reached
  refine ⟨reachable_valid reached, ?_, valid.memberships_nodup (reachable_allLive reached),
    fun one first two second offerId here there => valid.share_eq first second here there⟩
  have checked := reachable_valid reached
  simp only [validateSnapshot, validateConsent, bind_eq_ok, exists_unit] at checked
  obtain ⟨_, _, _, -, _, _, shares, -⟩ := checked
  rw [← valid.owner]
  exact checkInOrder_forall shares fun _ _ checked _ => checkShare_commit checked

end Covalent.Sharing

/-! ## A sample installation -/

namespace Covalent.Sharing.Sample

open Effect

/-- Short names of an SSH key, a key, an identifier, a nonce and a signature. -/
def coding : List (String × List UInt8) :=
  [("h", sshEd25519Head ++ List.replicate 32 1), ("k", List.replicate 32 2),
    ("i", List.replicate 16 3), ("n", List.replicate 24 4), ("s", List.replicate 64 5)]

/-- The name of bytes, which their number tells. -/
def textOf (bytes : List UInt8) : String :=
  ((coding.find? fun entry => entry.2.length == bytes.length).map Prod.fst).getD ""

def address : SocketAddr := ⟨.v4 0x0a000001, 4242, 0, 0⟩

/-- Primitives under which bytes are encoded by short names and every signature is good. -/
scoped instance samplePrimitives : Primitives where
  verify _ _ _ := true
  digestOffer _ := String.ofList (List.replicate 64 '0')
  digestAcceptance _ := String.ofList (List.replicate 64 '1')
  decodeUrlSafe text := coding.lookup text
  encodeUrlSafe := textOf
  decodeStandard text := coding.lookup text
  encodeStandard := textOf
  parseSocketAddr text := if text = "10.0.0.1:4242" then some address else none
  renderSocketAddr _ := "10.0.0.1:4242"
  parseUuid _ := none
  renderUuid _ := ""
  keyFingerprint _ := some "fingerprint"

def engine : Nat → SyncEngineDeviceId
  | 1 => ⟨"BBBBBBB-BBBBBBN-BBBBBBB-BBBBBBN-BBBBBBB-BBBBBBN-BBBBBBB-BBBBBAO", by decide +kernel⟩
  | 2 => ⟨"CCCCCCC-CCCCCC2-CCCCCCC-CCCCCC2-CCCCCCC-CCCCCC2-CCCCCCC-CCCCCA4", by decide +kernel⟩
  | _ => ⟨"DDDDDDD-DDDDDDH-DDDDDDD-DDDDDDH-DDDDDDD-DDDDDDH-DDDDDDD-DDDDDAK", by decide +kernel⟩

def device (number : Nat) : DeviceId := ⟨⟨number⟩⟩

def publicIdentity (number : Nat) : PublicIdentity := ⟨device number, "k", "fingerprint"⟩

/-- The installation of a device. -/
def node (number : Nat) : Node :=
  ⟨⟨publicIdentity number, fun _ => "s"⟩, engine number, some "h", "/var/covalent"⟩

def binding (number : Nat) : SyncEngineBinding :=
  ⟨1, device number, engine number, some "h", "10.0.0.1:4242"⟩

/-- The journal of the first device when it is new. -/
def created : Journal :=
  let snapshot := firstSnapshot (node 1) (binding 1) address
  ⟨snapshot, ⟨snapshot, 1, false⟩, 0, false, none⟩

theorem created_reachable : (journalMachine (node 1)).Reachable created := by
  refine .start ⟨address, address, 0, ?_⟩
  have made : (create (node 1) address address 0).toOption = some created := by decide +kernel
  cases ran : create (node 1) address address 0 with
  | error problem =>
    rw [ran] at made
    cases made
  | ok journal =>
    rw [ran] at made
    cases made
    rfl

def transport (number : Nat) : TransportBinding :=
  ⟨device number, "peer", "10.0.0.1:4242", "certificate", "fingerprint"⟩

def grant (number : Nat) : PeerGrant := ⟨device number, "k", "peer", [], 5, false⟩

/-- A core that trusts the devices with the numbers one to three. -/
def config : NodeConfig where
  deviceName := "host"
  trustedPeers := (((∅ : BTreeMap DeviceId PeerGrant).insert (device 1) (grant 1)).insert
    (device 2) (grant 2)).insert (device 3) (grant 3)
  trustedPeerTransports := (((∅ : BTreeMap DeviceId TransportBinding).insert (device 1)
    (transport 1)).insert (device 2) (transport 2)).insert (device 3) (transport 3)

/-- Surroundings in which every write succeeds. -/
def surroundings (now identifier : Nat) : Surroundings where
  config := some config
  storeReadable := true
  wallClock _ := now
  write _ := .written
  canonicalize path := some path
  metadata _ := some ⟨true, 1, 1⟩
  entropy := some ⟨⟨identifier⟩, List.replicate 24 4⟩
  freshId position := ⟨position + 1⟩
  freshId_ne_nil position := by simp [Uuid.nil]

/-- An offer of folder seven. -/
def offer (source target identifier : Nat) (policy : Option FolderLinkPolicy) : FolderShareOffer :=
  ⟨expectedSchemaVersion policy, ⟨identifier⟩, ⟨7⟩, "photos", device source, device target,
    binding source, policy, none, 1000, 1000 + maxFolderShareLifetimeMs, "n", "s"⟩

/-- The first device after it received an offer of the second. -/
def received : Journal :=
  after (perform (node 1) (surroundings 2000 50) (.receiveOffer (offer 2 1 40 none) 2000))
    created

/-- The first device after its user removed the share. -/
def removed : Journal :=
  after (perform (node 1) (surroundings 3000 50) (.remove ⟨40⟩)) received

theorem received_reachable : (journalMachine (node 1)).Reachable received :=
  created_reachable.next ⟨_, _, rfl⟩

theorem removed_offers_stay_removed_sample : ¬removed.snapshot.IsCurrent ⟨40⟩ ∧
      Refuses (node 1) (surroundings 4000 50) (.receiveOffer (offer 2 1 40 none) 4000) removed ∧
        Refuses (node 1) (surroundings 4000 50) (.receiveOffer (offer 2 1 41 none) 4000)
          removed := by
  have present : (received.snapshot.shares.any fun share =>
      decide ((⟨40⟩ : Uuid) ∈ share.offerIds ∧ share.offer.targetDeviceId = (node 1).deviceId ∧
        share.membership = (device 2, ⟨7⟩))) = true := by decide +kernel
  have gone : removed.snapshot.shares = [] := by decide +kernel
  obtain ⟨share, member, facts⟩ := List.any_eq_true.mp present
  obtain ⟨listed, target, parties⟩ := of_decide_eq_true facts
  obtain ⟨peer, folder⟩ := Prod.mk.inj parties
  have absent : ¬removed.snapshot.IsCurrent ⟨40⟩ := by
    rintro ⟨kept, still, _⟩
    rw [gone] at still
    cases still
  have step : (journalMachine (node 1)).step received removed := ⟨_, _, rfl⟩
  obtain ⟨offers, folders⟩ := removed_offers_stay_removed received_reachable (.single step)
    Relation.ReflTransGen.refl
  obtain ⟨_, _, refuses⟩ := offers ⟨40⟩ (.inl ⟨⟨share, member, listed⟩, absent⟩)
  refine ⟨absent, refuses _ _ rfl, folders share member target ?_ _ _ _ peer.symm folder.symm⟩
  intro kept still
  rw [gone] at still
  cases still

/-- The commit of the second device to the acceptance of the first. -/
def sourceCommit : FolderShareCommit :=
  ⟨1, device 2, Primitives.digestOffer (offer 2 1 40 none), String.ofList (List.replicate 64 '1'),
    "s"⟩

/-- The first device after it received an offer of the third, of another folder. -/
def receivedTwo : Journal :=
  after (perform (node 1) (surroundings 2500 51)
    (.receiveOffer { offer 3 1 41 none with folderId := ⟨8⟩ } 2500)) received

/-- The first device after it accepted the offer of the second. -/
def accepted : Journal :=
  after (perform (node 1) (surroundings 3000 50) (.accept ⟨40⟩ "/photos" 3000)) receivedTwo

/-- The first device after it received the commit to its acceptance. -/
def committed : Journal :=
  after (perform (node 1) (surroundings 4000 50) (.receiveCommit ⟨40⟩ sourceCommit)) accepted

theorem committed_reachable : (journalMachine (node 1)).Reachable committed := by
  have two : (journalMachine (node 1)).Reachable receivedTwo := received_reachable.next ⟨_, _, rfl⟩
  have agreed : (journalMachine (node 1)).Reachable accepted := two.next ⟨_, _, rfl⟩
  exact agreed.next ⟨_, _, rfl⟩

/-- Of two shares one is committed; it is agreed, and its offer is of no other share. -/
theorem committed_share_is_agreed :
    (committed.snapshot.shares.map fun share => (share.membership, share.commit, share.offerIds)) =
        [((device 2, ⟨7⟩), some sourceCommit, [⟨40⟩]), ((device 3, ⟨8⟩), none, [⟨41⟩])] ∧
      ∃ share ∈ committed.snapshot.shares, (∃ acceptance, share.acceptance = some acceptance ∧
          verifyFolderShareCommit share.offer acceptance sourceCommit
            (share.sourceIdentity (node 1) (node 1).publicIdentity)
            (share.targetIdentity (node 1) (node 1).publicIdentity) = .ok ()) ∧
        ∀ other ∈ committed.snapshot.shares, ⟨40⟩ ∈ other.offerIds → share = other := by
  obtain ⟨-, agreed, -, alone⟩ := committed_shares_are_agreed committed_reachable _ (.head _)
  have two : (committed.snapshot.shares.map fun share =>
      (share.membership, share.commit, share.offerIds)) =
      [((device 2, ⟨7⟩), some sourceCommit, [⟨40⟩]), ((device 3, ⟨8⟩), none, [⟨41⟩])] := by
    decide +kernel
  obtain ⟨share, rest, shares, facts, -⟩ := List.map_eq_cons_iff.mp two
  obtain ⟨commit, offered⟩ := Prod.mk.inj (Prod.mk.inj facts).2
  have member : share ∈ committed.snapshot.shares := shares ▸ List.mem_cons_self
  exact ⟨two, share, member, agreed share member _ commit,
    fun other there listed =>
      alone share member other there _ (offered ▸ List.mem_cons_self) listed⟩

end Covalent.Sharing.Sample
