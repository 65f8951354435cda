import Covalent.Sharing.Journal
import Covalent.Sharing.Valid

/-!
# What settling does to a candidate

A candidate is settled before it is written.  Settling never touches what the
operation did to the header, the routes and the withdrawals; it turns removed
shares into tombstones.
-/

namespace Covalent.Sharing

variable [Primitives]

open Primitives

/-! ## The stages -/

omit [Primitives] in
theorem dropRootReset_eq (snapshot : Snapshot) : dropRootReset snapshot =
      { snapshot with pendingRootReset := (dropRootReset snapshot).pendingRootReset } := by
  unfold dropRootReset
  split <;> rfl

omit [Primitives] in
@[simp]
theorem dropRootReset_shares (snapshot : Snapshot) :
    (dropRootReset snapshot).shares = snapshot.shares := by
  rw [dropRootReset_eq]

omit [Primitives] in
@[simp]
theorem dropRootReset_linkRuns (snapshot : Snapshot) :
    (dropRootReset snapshot).linkRuns = snapshot.linkRuns := by
  rw [dropRootReset_eq]

omit [Primitives] in
theorem reconcileMembership_eq_ok {snapshot next : Snapshot} {owner : DeviceId} {now : Nat} :
    reconcileMembership snapshot owner now = .ok next ↔
      ∃ runs, snapshot.linkRuns.mapValuesM (reconcileSlot snapshot.shares owner now) = .ok runs ∧
        { snapshot with linkRuns := runs } = next := by
  simp [reconcileMembership]

variable {node : Node} {wall : Nat} {candidate settled : Snapshot}

/-- Settling succeeds exactly when every run can be reconciled with its members and
the result passes the check. -/
theorem settle_eq_ok :
    settle node wall candidate = .ok settled ↔ ∃ runs, candidate.linkRuns.mapValuesM
          (reconcileSlot candidate.shares node.deviceId wall) = .ok runs ∧
        reconcile { dropRootReset candidate with linkRuns := runs } = settled ∧
          validateSnapshot node settled = .ok () := by
  simp only [settle, bind_eq_ok, pure_eq_ok, exists_unit, reconcileMembership_eq_ok,
    dropRootReset_shares, dropRootReset_linkRuns]
  constructor
  · rintro ⟨_, ⟨runs, mapped, rfl⟩, valid, rfl⟩
    exact ⟨runs, mapped, rfl, valid⟩
  · rintro ⟨runs, mapped, rfl, valid⟩
    exact ⟨_, ⟨runs, mapped, rfl⟩, valid, rfl⟩

/-! ## The settled snapshot -/

/-- A settled snapshot, field by field, without link state. -/
structure SettlesTo (node : Node) (wall : Nat) (candidate settled : Snapshot) : Prop where
  valid : validateSnapshot node settled = .ok ()
  owner : settled.owner = candidate.owner
  binding : settled.binding = candidate.binding
  shares : settled.shares = candidate.shares.filter fun share => !share.removed
  tombstones : settled.tombstones = candidate.tombstones ++
    (candidate.shares.filter fun share => share.removed).flatMap (Share.tombstones · candidate)
  freshnessFloor : settled.freshnessFloor = candidate.freshnessFloor
  pendingRemoteRemovals : settled.pendingRemoteRemovals = candidate.pendingRemoteRemovals
  remoteRemovalTombstones : settled.remoteRemovalTombstones = candidate.remoteRemovalTombstones
  currentPeerRoutes : settled.currentPeerRoutes = candidate.currentPeerRoutes
  pendingPeerAddressRefresh :
    settled.pendingPeerAddressRefresh = candidate.pendingPeerAddressRefresh
  completedPeerAddressRefreshes :
    settled.completedPeerAddressRefreshes = candidate.completedPeerAddressRefreshes

theorem settle_settlesTo (settles : settle node wall candidate = .ok settled) :
    SettlesTo node wall candidate settled := by
  obtain ⟨runs, mapped, rfl, valid⟩ := settle_eq_ok.mp settles
  rw [dropRootReset_eq] at valid ⊢
  exact ⟨valid, rfl, rfl, rfl, rfl, rfl, rfl, rfl, rfl, rfl, rfl⟩

theorem SettlesTo.allLive (settles : SettlesTo node wall candidate settled) : settled.AllLive := by
  intro share member
  rw [settles.shares, List.mem_filter] at member
  simpa using member.2

theorem SettlesTo.of_allLive
    (settles : SettlesTo node wall candidate settled) (live : candidate.AllLive) :
    settled.shares = candidate.shares ∧ settled.tombstones = candidate.tombstones := by
  constructor
  · rw [settles.shares, List.filter_eq_self]
    exact fun share member => by simp [live share member]
  · have none : candidate.shares.filter (fun share => share.removed) = [] := by
      rw [List.filter_eq_nil_iff]
      exact fun share member => by simp [live share member]
    rw [settles.tombstones, none]
    simp

end Covalent.Sharing
