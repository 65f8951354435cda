import Covalent.Sharing.Validate

/-!
# What a checked snapshot satisfies

What a snapshot that passed its check satisfies, as far as the history of its shares and
refusals depends on it.  Each loop of `validateConsent` gives a statement about every
item and one about every two of them, so the proofs about histories never look at the
order of the loops.
-/

namespace Covalent.Sharing

open Primitives List

/-! ## Shares -/

/-- The offers of a share are those it superseded and its own. -/
theorem Share.mem_offerIds {share : Share} {offerId : Uuid} : offerId ∈ share.offerIds ↔
      (∃ replaced ∈ share.supersededOffers, replaced.offerId = offerId) ∨
        offerId = share.offer.offerId := by
  simp [Share.offerIds, Share.supersededIds]

def Share.sourceIdentity (share : Share) (node : Node) (owner : PublicIdentity) : PublicIdentity :=
  if share.offer.sourceDeviceId = node.deviceId then owner else share.peerIdentity

def Share.targetIdentity (share : Share) (node : Node) (owner : PublicIdentity) : PublicIdentity :=
  if share.offer.sourceDeviceId = node.deviceId then share.peerIdentity else owner

/-- The parties that the check takes a share to have. -/
theorem Share.parties_eq (share : Share) (node : Node) (owner : PublicIdentity) :
    share.parties owner (share.offer.sourceDeviceId == node.deviceId) =
      (share.sourceIdentity node owner, share.targetIdentity node owner) := by
  by_cases source : share.offer.sourceDeviceId = node.deviceId <;>
    simp [Share.parties, Share.sourceIdentity, Share.targetIdentity, source]

variable [Primitives]

/-- What holds of one share by itself, given the offers already taken. -/
structure ShareSound (node : Node) (owner : PublicIdentity) (taken : List Uuid) (share : Share) :
    Prop where
  party : share.offer.sourceDeviceId = node.deviceId ↔ share.offer.targetDeviceId ≠ node.deviceId
  untaken : ∀ offerId ∈ share.offerIds, offerId ∉ taken
  peer : share.peerId ≠ node.deviceId
  offer : verifyFolderShareOffer share.offer (share.sourceIdentity node owner)
    (share.targetIdentity node owner).deviceId = .ok ()
  replaced : ∀ superseded ∈ share.supersededOffers, superseded.offerId ≠ share.offer.offerId

/-- What holds of a share and one before it: no offer is in both, and where both are live they
are not about one folder with one peer. -/
structure ShareAgrees (earlier share : Share) : Prop where
  apart : ∀ offerId ∈ share.offerIds, offerId ∉ earlier.offerIds
  members : share.removed = false → earlier.removed = false →
    earlier.offer.folderId = share.offer.folderId → earlier.peerId ≠ share.peerId

variable {node : Node} {snapshot : Snapshot} {done : Unit}

omit [Primitives] in
theorem checkSuperseded_imp {offer : FolderShareOffer} {taken : List Uuid}
    {passed : List SupersededOffer} {superseded : SupersededOffer}
    (checked : checkSuperseded offer taken passed superseded = .ok ()) :
    superseded.offerId ≠ offer.offerId ∧ superseded.offerId ∉ taken := by
  simp only [checkSuperseded, refuse_eq_ok, Bool.or_eq_false_iff, beq_eq_false_iff_ne,
    contains_eq_mem, decide_eq_false_iff_not] at checked
  obtain ⟨⟨⟨⟨⟨⟨_, replaced⟩, _⟩, _⟩, _⟩, untaken⟩, _⟩ := checked
  exact ⟨replaced, untaken⟩

theorem checkLiveShare_imp {passed : List Share} {share : Share}
    (checked : checkLiveShare node passed share = .ok done) {earlier : Share}
    (member : earlier ∈ passed) (live : earlier.removed = false)
    (folder : earlier.offer.folderId = share.offer.folderId) : earlier.peerId ≠ share.peerId := by
  simp only [checkLiveShare, bind_eq_ok, refuse_eq_ok, exists_unit] at checked
  obtain ⟨_, _, _, members, _⟩ := checked
  simpa [live, folder] using any_eq_false.mp members earlier member

theorem checkShare_imp {owner : PublicIdentity} {binding : SyncEngineBinding} {taken : List Uuid}
    {passed : List Share} {share : Share}
    (checked : checkShare node owner binding taken passed share = .ok ()) :
    ShareSound node owner taken share ∧ ∀ earlier ∈ passed, ShareAgrees earlier share := by
  have party : ((share.offer.sourceDeviceId == node.deviceId) ≠
      (share.offer.targetDeviceId == node.deviceId)) ↔
      (share.offer.sourceDeviceId = node.deviceId ↔
        share.offer.targetDeviceId ≠ node.deviceId) := by
    by_cases source : share.offer.sourceDeviceId = node.deviceId <;>
      by_cases target : share.offer.targetDeviceId = node.deviceId <;> simp [source, target]
  simp only [checkShare, Share.parties_eq, bind_eq_ok, exists_unit, refuse_eq_ok,
    Except.mapError_eq_ok, Bool.or_eq_false_iff, beq_eq_false_iff_ne, contains_eq_mem,
    decide_eq_false_iff_not, any_eq_false, decide_eq_true_eq, party] at checked
  obtain ⟨⟨⟨⟨⟨⟨party, untaken⟩, apart⟩, peer⟩, _⟩, _⟩, offer, _, chain, _, _, _, _, live⟩ := checked
  have superseded := checkInOrder_forall chain fun _ _ => checkSuperseded_imp
  refine ⟨⟨party, ?_, peer, offer, fun replaced member => (superseded replaced member).1⟩,
    fun earlier member => ⟨?_, fun kept => ?_⟩⟩
  · simp only [Share.mem_offerIds]
    rintro offerId (⟨replaced, listed, rfl⟩ | rfl)
    · exact fun taken => (superseded replaced listed).2 (mem_append_left _ taken)
    · exact untaken
  · simp only [@Share.mem_offerIds share]
    rintro offerId (⟨replaced, listed, rfl⟩ | rfl)
    · exact fun shared => (superseded replaced listed).2
        (mem_append_right _ (mem_flatMap.mpr ⟨earlier, member, shared⟩))
    · exact apart earlier member
  · rw [if_neg (by simp [kept])] at live
    exact checkLiveShare_imp live member

/-! ## Chains and withdrawals -/

/-- What holds of an identifier that a tombstone carries besides its own. -/
structure ChainLinkSound (snapshot : Snapshot) (link : Tombstone × Uuid) : Prop where
  unshared : ∀ share ∈ snapshot.shares, link.2 ∉ share.offerIds
  agrees : ∀ candidate ∈ snapshot.tombstones, candidate.offerId = link.2 →
    candidate.peerId = link.1.peerId ∧ candidate.folderId = link.1.folderId ∧
      candidate.incoming = link.1.incoming

omit [Primitives] in
theorem checkRemovedChain_imp {passed : List (Tombstone × Uuid)} {link : Tombstone × Uuid}
    (checked : checkRemovedChain snapshot passed link = .ok ()) : ChainLinkSound snapshot link := by
  simp only [checkRemovedChain, refuse_eq_ok, Bool.or_eq_false_iff, any_eq_false, beq_iff_eq,
    contains_eq_mem, decide_eq_true_eq, Bool.and_eq_true, Bool.or_eq_true, bne_iff_ne, not_and,
    not_or, not_ne_iff, and_assoc] at checked
  exact ⟨checked.2.1, checked.2.2⟩

/-- What holds of one withdrawal that a peer announced. -/
structure RemoteTombstoneSound (node : Node) (snapshot : Snapshot)
    (removed : RemoteRemovalTombstone) : Prop where
  peer : removed.peerId ≠ node.deviceId
  bound : ∀ offerId ∈ removed.offerIds, ∀ binding,
    retainedOfferBinding snapshot offerId = some binding →
      binding = (removed.peerId, removed.folderId, removed.offerSourceId)

omit [Primitives] in
theorem checkRemoteTombstone_imp {passed : List RemoteRemovalTombstone}
    {removed : RemoteRemovalTombstone}
    (checked : checkRemoteTombstone node snapshot passed removed = .ok ()) :
    RemoteTombstoneSound node snapshot removed := by
  simp only [checkRemoteTombstone, refuse_eq_ok, Bool.or_eq_false_iff, beq_eq_false_iff_ne,
    any_eq_false, Option.any_eq_true, bne_iff_ne, not_exists, not_and, not_ne_iff] at checked
  obtain ⟨⟨⟨⟨⟨⟨⟨⟨⟨peer, _⟩, _⟩, _⟩, _⟩, _⟩, _⟩, _⟩, _⟩, bound⟩ := checked
  exact ⟨peer, bound⟩

/-! ## The whole check -/

/-- The shares and the refusals of a checked snapshot. -/
structure ConsentValid (node : Node) (snapshot : Snapshot) : Prop where
  owner : snapshot.owner = node.publicIdentity
  shares : ∀ share ∈ snapshot.shares,
    ShareSound node snapshot.owner (snapshot.tombstones.map Tombstone.offerId) share
  sharesAgree : snapshot.shares.Pairwise ShareAgrees
  chains : ∀ link ∈ removedChainLinks snapshot, ChainLinkSound snapshot link
  remote : ∀ removed ∈ snapshot.remoteRemovalTombstones, RemoteTombstoneSound node snapshot removed

theorem checkHeader_owner (checked : checkHeader node snapshot = .ok done) :
    snapshot.owner = node.publicIdentity := by
  simp only [checkHeader, bind_eq_ok, refuse_eq_ok, Bool.or_eq_false_iff,
    bne_eq_false_iff_eq] at checked
  obtain ⟨_, _, ⟨⟨⟨⟨⟨⟨⟨⟨⟨_, owner⟩, _⟩, _⟩, _⟩, _⟩, _⟩, _⟩, _⟩, _⟩, _⟩ := checked
  exact owner

theorem validateSnapshot_consentValid (checked : validateSnapshot node snapshot = .ok done) :
    ConsentValid node snapshot := by
  simp only [validateSnapshot, validateConsent, bind_eq_ok, exists_unit] at checked
  obtain ⟨_, _, _, header, _, _, shares, chains, _, _, _, _, remote, _⟩ := checked
  have each (passed : List Share) (share : Share) := @checkShare_imp _ node snapshot.owner
    snapshot.binding (snapshot.tombstones.map Tombstone.offerId) passed share
  obtain ⟨sound, _, agree⟩ := checkInOrder_imp each shares
  exact ⟨checkHeader_owner header, sound, agree,
    checkInOrder_forall chains fun _ _ => checkRemovedChain_imp,
    checkInOrder_forall remote fun _ _ => checkRemoteTombstone_imp⟩

end Covalent.Sharing
