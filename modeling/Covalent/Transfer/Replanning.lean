import Covalent.Transfer.Run

/-!
# Planning again after a finished transfer

A finished transfer leaves nothing to transfer, as long as the source stays as it is and the
destination is what the transfer should have left.  What is suppressed can still change: a
finished transfer owns every path of the source, and an owned path that the destination has is
not suppressed any more.
-/

namespace Covalent.Transfer

open BTreeMap

variable {state : FolderPolicyState} {index : EngineIndexSnapshot} {source target : Inventory}
  {propagate restore : Bool} {path : String}

/-- The transfer that is planned from a policy and two listings. -/
def announce (state : FolderPolicyState) (index : EngineIndexSnapshot) (source target : Inventory)
    (propagate restore : Bool) : PendingTransfer :=
  let planned := planTransfer state source target propagate restore
  ⟨index, source, planned.1, planned.2, propagate⟩

/-- The listing of the destination that a transfer should leave: the listed paths are as the
source has them, and those that left the source are gone when deletions propagate. -/
def transferred (pending : PendingTransfer) (target : Inventory) : Inventory :=
  (target.retain fun path _ => !(pending.propagateSourceDeletions &&
      decide (path ∈ pending.allowed) && !pending.source.containsKey path)).extend
    (pending.source.retain fun path _ => decide (path ∈ pending.allowed))

/-- The policy once the copy of a transfer was recorded and the transfer finished. -/
def finished (state : FolderPolicyState) (pending : PendingTransfer) : FolderPolicyState :=
  completeTransferState (state.recordCopied pending) pending.source pending.suppressions
    pending.propagateSourceDeletions

variable {pending : PendingTransfer}

theorem containsKey_transferred (unlisted : path ∉ pending.allowed) :
    (transferred pending target).containsKey path = target.containsKey path := by
  simp only [transferred, containsKey, get?_extend, get?_retain]
  cases pending.source.get? path <;> cases target.get? path <;> simp [unlisted, Option.filter]

/-- A transfer that completed left every source path at the destination that is not
suppressed. -/
theorem containsKey_of_completed
    (completed : verifyTransfer pending (transferred pending target) = .ok ())
    (present : pending.source.containsKey path = true) (wanted : path ∉ pending.suppressions) :
    (transferred pending target).containsKey path = true := by
  obtain ⟨entry, found⟩ := containsKey_iff.mp present
  obtain ⟨there, held, -⟩ := verifyTransfer_ok completed found wanted
  exact containsKey_iff.mpr ⟨there, held⟩

theorem mem_owned_finished :
    path ∈ (finished state pending).owned ↔ pending.source.containsKey path = true ∨
      pending.propagateSourceDeletions = false ∧ path ∈ state.owned := by
  simp only [finished, completeTransferState, FolderPolicyState.recordCopied]
  cases pending.propagateSourceDeletions with
  | true => simp [mem_keySet]
  | false =>
    simp only [containsKey_iff, Bool.false_eq_true, if_false, Finset.mem_union,
      mem_keySet, mem_copyList]
    tauto

theorem suppressions_finished : (finished state pending).suppressions = pending.suppressions := by
  simp only [finished, completeTransferState]
  split_ifs <;> rfl

theorem delivered_finished (present : pending.source.containsKey path = true) :
    (finished state pending).delivered.get? path = pending.source.get? path := by
  obtain ⟨entry, found⟩ := containsKey_iff.mp present
  simp only [finished, completeTransferState, FolderPolicyState.recordCopied]
  split_ifs
  · rfl
  · rw [get?_extend, found, Option.some_or]

section

variable (planned : announce state index source target propagate restore = pending)
  (completed : verifyTransfer pending (transferred pending target) = .ok ())

include planned completed

/-- Whatever the policy was, nothing is left to transfer. -/
theorem replanned_allowed_eq_empty :
    (planTransfer (finished state pending) source (transferred pending target) propagate
      restore).1 = ∅ := by
  subst planned
  refine Finset.eq_empty_of_forall_notMem fun path listed => ?_
  have candidate := (Finset.mem_filter.mp listed).1
  rw [planCandidates, Finset.mem_union, Finset.mem_union] at candidate
  rcases candidate with (changed | missing) | departed
  · obtain ⟨present, different⟩ := Finset.mem_filter.mp changed
    exact different (delivered_finished (containsKey_iff.mpr
      (mem_keySet.mp present)))
  · cases restore with
    | false => exact absurd missing (Finset.notMem_empty path)
    | true =>
      -- Restoring suppresses nothing, so the transfer left the path.
      obtain ⟨member, absent⟩ := Finset.mem_filter.mp missing
      rw [containsKey_of_completed completed (containsKey_iff.mpr
        (mem_keySet.mp member)) (Finset.notMem_empty path)] at absent
      cases absent
  · cases propagate with
    | false => exact absurd departed (Finset.notMem_empty path)
    | true =>
      obtain ⟨owned, absent⟩ := Finset.mem_filter.mp departed
      rcases mem_owned_finished.mp owned with present | ⟨kept, -⟩
      · rw [show source.containsKey path = true from present] at absent
        cases absent
      · cases kept

/-- What is suppressed stays so exactly if the source has no suppressed path that is at the
destination and not owned. -/
theorem replanned_suppressions_eq_iff :
    (planTransfer (finished state pending) source (transferred pending target) propagate
        restore).2 = pending.suppressions ↔
      restore = true ∨ ∀ path ∈ state.suppressions, target.containsKey path = true →
        path ∈ state.owned ∨ source.containsKey path = false := by
  subst planned
  cases restore with
  | true => simp [announce, planTransfer, planSuppressions]
  | false =>
    rw [Finset.ext_iff, or_iff_right Bool.false_ne_true]
    refine forall_congr' fun path => ?_
    show (path ∈ planSuppressions _ source _ false ↔
      path ∈ planSuppressions state source target false) ↔ _
    rw [mem_planSuppressions, mem_owned_finished, suppressions_finished]
    by_cases kept : path ∈ planSuppressions state source target false
    · -- A suppressed path is not listed, so the destination has it or not as before.
      have unlisted : path ∉ (planTransfer state source target propagate false).1 :=
        fun listed => planTransfer_disjoint listed kept
      obtain ⟨-, why, free⟩ := mem_planSuppressions.mp kept
      rw [containsKey_transferred unlisted]
      simp only [kept, iff_true, announce, planTransfer, true_or, true_and]
      generalize target.containsKey path = there at *
      generalize source.containsKey path = listed at *
      cases there <;> cases listed <;> simp at why free ⊢ <;> tauto
    · refine iff_of_true (iff_of_false ?_ kept) fun suppressed present => ?_
      · rintro ⟨-, again | ⟨-, listed, absent⟩, -⟩
        · exact kept again
        · exact absurd ((containsKey_of_completed completed listed kept).symm.trans absent)
            (by rintro ⟨⟩)
      · refine .inl (by_contra fun foreign => kept (mem_planSuppressions.mpr ?_))
        exact ⟨rfl, .inl suppressed, fun both => foreign both.1⟩

omit completed in
/-- Every path is still suppressed that was, exactly if no suppressed path is owned and at the
destination. -/
theorem planned_suppressions_eq_iff : (restore = false → pending.suppressions = state.suppressions ∪
        state.owned.filter fun path => source.containsKey path && !target.containsKey path) ↔
      restore = true ∨
        ∀ path ∈ state.suppressions, target.containsKey path = true → path ∉ state.owned := by
  subst planned
  cases restore with
  | true => simp
  | false =>
    rw [forall_prop_of_true rfl, or_iff_right Bool.false_ne_true, Finset.ext_iff]
    refine forall_congr' fun path => ?_
    show (path ∈ planSuppressions state source target false ↔ _) ↔ _
    rw [mem_planSuppressions, Finset.mem_union, Finset.mem_filter]
    cases target.containsKey path <;> cases source.containsKey path <;> simp

/-- **Nothing is left to do.**  After a transfer that completes, with the source unchanged and
the destination as the transfer should have left it, planning again lists nothing, suppresses
the same paths, and, when local deletions are not restored, suppressed are the owned source
paths that the destination lacked and the paths suppressed before, if and only if no suppressed
path was at the destination that is owned or that the source has. -/
theorem replanning_is_stable_iff :
    (planTransfer (finished state pending) source (transferred pending target) propagate restore =
        (∅, pending.suppressions) ∧
      (restore = false → pending.suppressions = state.suppressions ∪
        state.owned.filter fun path => source.containsKey path && !target.containsKey path)) ↔
      restore = true ∨ ∀ path ∈ state.suppressions, target.containsKey path = true →
        path ∉ state.owned ∧ source.containsKey path = false := by
  rw [Prod.ext_iff, planned_suppressions_eq_iff planned,
    replanned_suppressions_eq_iff planned completed,
    and_iff_right (replanned_allowed_eq_empty planned completed), ← or_and_left]
  refine or_congr_right ?_
  constructor
  · rintro ⟨apart, foreign⟩ path suppressed present
    have unowned := foreign path suppressed present
    exact ⟨unowned, (apart path suppressed present).resolve_left unowned⟩
  · intro none
    exact ⟨fun path suppressed present => .inr (none path suppressed present).2,
      fun path suppressed present => (none path suppressed present).1⟩

end

/-- The destination's user deleted an owned file. -/
theorem deleted_file_stays_suppressed :
    let state : FolderPolicyState := { owned := {"a"}, delivered := byPath [⟨"a", 1, 1, none⟩] }
    let source := byPath [⟨"a", 1, 1, none⟩]
    let pending := announce state ⟨"i", 1⟩ source ∅ false false
    planTransfer (finished state pending) source (transferred pending ∅) false false =
      (∅, {"a"}) := by
  have stable := (@replanning_is_stable_iff
    { owned := {"a"}, delivered := byPath [⟨"a", 1, 1, none⟩] } ⟨"i", 1⟩
    (byPath [⟨"a", 1, 1, none⟩]) ∅ false false _ rfl (by decide +kernel)).mpr (.inr (by simp))
  exact stable.1.trans (by decide +kernel)

/-- A suppressed path that nobody owns is at both sides.  It is not copied, it is owned
afterwards, and planning again does not suppress it any more. -/
theorem suppression_ends_by_itself : let state : FolderPolicyState := { suppressions := {"a"} }
    let source := byPath [⟨"a", 1, 1, none⟩]
    let target := byPath [⟨"a", 2, 2, none⟩]
    let pending := announce state ⟨"i", 1⟩ source target false false
    pending.suppressions = {"a"} ∧ verifyTransfer pending (transferred pending target) = .ok () ∧
      transferred pending target = target ∧
      planTransfer (finished state pending) source (transferred pending target) false false =
        (∅, ∅) := by
  decide +kernel

end Covalent.Transfer
