import Covalent.Provider.Reconciling

/-!
# Folding leases, and reserving room

The compaction builds its ledger beside the store and writes it in one piece, so its
invariant speaks of two stores: the one on disk, and the one with the ledger that is
being built.  A reservation is admitted against the capacity that is measured after a
compaction.
-/

namespace Covalent.Provider

open Durable Formats BTreeMap List

variable {allowed : Fault → Prop} {α β : Type} {policy : ProviderQuotaPolicy}
  {admitted clock : Nat} {store after : Store} {file next : LeaseFile}

/-! ## Quantities -/

variable {now freeSpace : Nat} {lease : StorageLease}

theorem checkedSum_eq_ok {resource : String} {values : List Nat} {sum : Nat}
    (added : checkedSum resource values = .ok sum) : sum = values.sum := by
  have general : ∀ (values : List Nat) (start sum : Nat), values.foldlM (fun total value =>
        okOr (checkedAdd total value) (CoreError.resourceLimit resource)) start = .ok sum →
        sum = start + values.sum := by
    intro values
    induction values with
    | nil =>
      intro start sum added
      exact (Except.ok.inj added).symm
    | cons value rest ih =>
      intro start sum added
      rw [foldlM_cons] at added
      obtain ⟨next, one, others⟩ := bind_eq_ok.mp added
      rw [ih next sum others, ← (checkedAdd_eq_some.mp (okOr_eq_ok.mp one)).2, sum_cons,
        Nat.add_assoc]
  rw [general values 0 sum added, Nat.zero_add]

theorem sum_filter_eq {ι : Type} (items : List ι) (test : ι → Bool) (weigh : ι → Nat) :
    ((items.filter test).map weigh).sum =
      (items.map fun item => if test item then weigh item else 0).sum := by
  induction items with
  | nil => rfl
  | cons item rest ih =>
    rw [map_cons, sum_cons, ← ih, filter_cons]
    split_ifs
    · rw [map_cons, sum_cons]
    · rw [Nat.zero_add]

def Allocation.taken (measured : Allocation) : Resource → Nat
  | .bytes => measured.usedBytes + measured.reservedBytes
  | .objects => measured.usedObjects + measured.reservedObjects

/-- What a lease still reserves. -/
def LeaseFile.reserved (file : LeaseFile) (now : Nat) : Resource → Nat
  | .bytes => file.reservedBytes now
  | .objects => file.reservedObjects now

/-- What a capacity leaves of a resource. -/
def ProviderCapacity.available (capacity : ProviderCapacity) : Resource → Nat
  | .bytes => capacity.availableBytes
  | .objects => capacity.availableObjects

theorem commitment_eq {resource : Resource}
    (roomy : resource.consumed file.state ≤ resource.allowance file.state.lease) :
    resource.commitment now file = resource.consumed file.state + file.reserved now resource := by
  have reserved : file.reserved now resource = if file.activeAt now then
      resource.allowance file.state.lease - resource.consumed file.state else 0 := by
    cases resource <;> rfl
  rw [Resource.commitment, reserved]
  split_ifs
  · exact (Nat.add_sub_cancel' roomy).symm
  · rfl

theorem allowance_pos {lifetime : Nat} (shaped : validProviderLeaseShape lease lifetime = true)
    (resource : Resource) : 0 < resource.allowance lease := by
  simp only [validProviderLeaseShape, Bool.and_eq_true, bne_iff_ne] at shaped
  cases resource with
  | bytes => exact Nat.pos_of_ne_zero shaped.1.1.1.1.1.1.2
  | objects => exact Nat.pos_of_ne_zero shaped.1.1.1.1.1.2

/-! ## Leases one after the other -/

theorem SameBooks.get?_of_ne {other : LeaseKey} (same : SameBooks (store.putLease next) after)
    (apart : other ≠ next.key) : after.leases.get? other = store.leases.get? other := by
  rw [same.leases]
  exact (get?_insert ..).trans (if_neg apart)

theorem SameBooks.putLedger {one two : Store} (same : SameBooks one two)
    (ledger : ProviderLeaseLedger) : SameBooks (one.putLedger ledger) (two.putLedger ledger) :=
  ⟨same.leases, rfl, same.journals, same.objects, same.reservations, same.strays⟩

theorem listProviderLeaseStateFiles_eq_ok {files : List LeaseFile}
    (listed : listProviderLeaseStateFiles policy store = .ok files) :
    files = store.leases.values := by
  simp only [listProviderLeaseStateFiles, bind_eq_ok, pure_eq_ok] at listed
  obtain ⟨-, -, -, -, -, -, -, -, -, -, rfl⟩ := listed
  rfl

section

variable (books : Books policy admitted clock store)

include books

theorem map_key_values : store.leases.values.map LeaseFile.key = store.leases.keys := by
  unfold values BTreeMap.keys
  rw [map_map]
  refine map_congr_left fun entry member => ?_
  exact books.keyed entry.1 entry.2 (get?_eq_some_iff.mpr member)

theorem present_of_mem_values (member : file ∈ store.leases.values) :
    store.leases.get? file.key = some file := by
  obtain ⟨key, found⟩ := mem_values.mp member
  rw [books.keyed key file found]
  exact found

theorem triple_loop_tidied {body : β → LeaseFile → Action β} {value : β}
    (tidies : ∀ value file store, store.leases.get? file.key = some file → (∀ backupId snapshotId,
        file.state.objects.get? (.legacyCapsule backupId snapshotId) = none) →
          Triple allowed (body value file) store (fun _ after => Tidied store file after)
            (Tidied store file)) :
    Triple allowed (loop body value store.leases.values) store
      (fun _ after => Books policy admitted clock after ∧ after.journals = store.journals)
      (Books policy admitted clock) := by
  let invariant (rest : List LeaseFile) (_ : β) (after : Store) : Prop :=
    Books policy admitted clock after ∧ after.journals = store.journals ∧
      (∀ file ∈ rest, after.leases.get? file.key = some file) ∧ (rest.map LeaseFile.key).Nodup
  have start : invariant store.leases.values value store := by
    refine ⟨books, rfl, fun file member => present_of_mem_values books member, ?_⟩
    rw [map_key_values books]
    exact store.leases.keys_nodup
  refine (triple_loop ?_ start).mono fun _ after kept => ⟨kept.1, kept.2.1⟩
  rintro value file rest middle ⟨right, journals, present, distinct⟩
  have here := present file mem_cons_self
  rw [map_cons, nodup_cons] at distinct
  refine (tidies value file middle here (right.filed file.key file here).canonical).imp ?_
    fun _ tidied => tidied.books right here
  rintro - after tidied
  refine ⟨tidied.books right here, ?_, ?_, distinct.2⟩
  · obtain ⟨next, -, same⟩ := tidied
    exact same.journals.trans journals
  · intro other member
    obtain ⟨next, similar, same⟩ := tidied
    rw [same.get?_of_ne]
    · exact present other (mem_cons_of_mem _ member)
    · rw [similar.key]
      intro equal
      exact distinct.1 (equal ▸ mem_map_of_mem member)

theorem triple_recoverProviderLeaseReferences :
    Triple allowed (recoverProviderLeaseReferences policy) store
      (fun _ after => Books policy admitted clock after ∧ after.journals = store.journals)
      (Books policy admitted clock) := by
  refine triple_checked books fun files listed => ?_
  obtain rfl := listProviderLeaseStateFiles_eq_ok listed
  refine triple_loop_tidied books fun _ file store present _ => ?_
  refine (tidies_ensureProviderLeaseReferencesDurable present).andThen ?_
  rintro next after ⟨similar, same⟩
  exact triple_pure ⟨next, similar, same⟩

/-! ## Capacity -/

theorem allocation_eq_ok {reach : Reach} {measured : Allocation}
    (settled : store.ledger.pendingCompactions = [])
    (found : allocation store.ledger store.leases.values now reach.counts = .ok measured)
    (resource : Resource) :
    measured.taken resource = store.usage resource reach + store.committed resource now reach := by
  have ledger : ((store.ledger.usage.entries.filter fun entry => reach.counts entry.1).map
      fun entry => resource.used entry.2).sum = store.usage resource reach :=
    sum_filter_eq _ _ _
  have leases : ((store.leases.values.filter fun file => reach.counts file.scope).map
        fun file => resource.consumed file.state).sum +
      ((store.leases.values.filter fun file => reach.counts file.scope).map
        fun file => file.reserved now resource).sum = store.committed resource now reach := by
    rw [← sum_map_add, sum_filter_eq, values, map_map]
    refine congrArg List.sum (map_congr_left fun entry member => ?_)
    have present : store.leases.get? entry.1 = some entry.2 := get?_eq_some_iff.mpr member
    have roomy := (books.filed entry.1 entry.2 present).roomy resource
    show (if reach.counts entry.2.scope then _ else 0) =
      if entry.1 ∉ store.pendingKeys ∧ reach.counts entry.2.scope = true then _ else 0
    rw [commitment_eq ((Nat.le_add_right _ _).trans roomy)]
    refine ite_iff ?_ _
    simp [Store.pendingKeys, settled]
  simp only [allocation, bind_eq_ok, pure_eq_ok] at found
  obtain ⟨_, usedBytes, _, usedObjects, _, reservedBytes, _, reservedObjects, rfl⟩ := found
  rw [← ledger, ← leases]
  cases resource with
  | bytes =>
    unfold Allocation.taken
    rw [checkedSum_eq_ok usedBytes, checkedSum_eq_ok reservedBytes, sum_append]
    exact Nat.add_assoc ..
  | objects =>
    unfold Allocation.taken
    rw [checkedSum_eq_ok usedObjects, checkedSum_eq_ok reservedObjects, sum_append]
    exact Nat.add_assoc ..

/-- A lease that fits into the measured capacity fits into every reach it is part of. -/
theorem measureCapacity_room {capacity : ProviderCapacity}
    (settled : store.ledger.pendingCompactions = [])
    (measured : measureCapacity policy freeSpace now (some lease.scope) store = .ok capacity)
    (fits : ∀ resource : Resource, resource.allowance lease ≤ capacity.available resource)
    (something : ∀ resource : Resource, 0 < resource.allowance lease) (resource : Resource)
    (reach : Reach) (counts : reach.counts lease.scope = true) :
    store.usage resource reach + store.committed resource now reach +
      resource.allowance lease ≤ reach.limit policy resource := by
  simp only [measureCapacity, loadProviderLeaseLedger, bind_eq_ok, pure_eq_ok,
    okOr_eq_ok] at measured
  obtain ⟨ledger, ⟨_, -, rfl⟩, files, listed, total, totalFound, peer, peerFound, backup,
    backupFound, quotaBytes, -, rfl⟩ := measured
  obtain rfl := listProviderLeaseStateFiles_eq_ok listed
  have fit := fits resource
  have positive := something resource
  cases reach
  case' total => rw [← allocation_eq_ok books settled totalFound]
  case' peer wanted =>
    obtain rfl : lease.scope.peerDeviceId = wanted := by simpa [Reach.counts] using counts
    rw [← allocation_eq_ok books settled peerFound]
  case' backup wanted =>
    obtain rfl : lease.scope = wanted := by simpa [Reach.counts] using counts
    rw [← allocation_eq_ok books settled backupFound]
  all_goals cases resource <;>
    simp only [ProviderCapacity.available, Option.isSome_some, if_true, Allocation.taken,
      Reach.limit] at fit ⊢ <;> omega

/-! ## Cancelled leases -/

theorem Books.cancelled (idle : store.journals = ∅)
    (present : store.leases.get? file.key = some file) :
    Books policy admitted clock
      (store.putLease { file with state := { file.state with cancelled := true } }) := by
  refine books.putLease present
    { lease := rfl
      serial := rfl
      canonical := (books.filed file.key file present).canonical
      ended := fun _ => rfl
      running := fun _ => .inr idle
      roomy := ?_
      listed := fun _ unlisted => unlisted
      counted := ?_
      committed := ?_ }
  · intro resource
    have roomy := (books.filed file.key file present).roomy resource
    cases resource <;> exact roomy
  · intro live resource
    have counted := books.counted file resource live
    cases resource <;> exact counted
  · intro _ resource
    have bound := books.consumed_le_commitment present resource admitted
    cases resource <;> exact bound

end

/-! ## Adding to the ledger -/

theorem addUsage_adds {ledger added : ProviderLeaseLedger}
    (counted : addUsage ledger file = .ok added) :
    Books.Adds ledger.usage file added.usage ∧
      added.pendingCompactions = ledger.pendingCompactions := by
  unfold addUsage at counted
  split_ifs at counted with anything
  · simp only [bind_eq_ok, okOr_eq_ok, pure_eq_ok] at counted
    obtain ⟨bytes, one, objects, two, rfl⟩ := counted
    have used : ∀ resource : Resource, resource.used ⟨bytes, objects⟩ =
        ((ledger.usage.get? file.scope).map resource.used).getD 0 +
          resource.consumed file.state := by
      intro resource
      rw [← (checkedAdd_eq_some.mp one).2, ← (checkedAdd_eq_some.mp two).2]
      cases ledger.usage.get? file.scope <;> cases resource <;> rfl
    refine ⟨⟨fun resource scope => ?_, fun resource reach => ?_⟩, rfl⟩
    · rw [get?_insert]
      split_ifs with same
      · rw [same]
        exact used resource
      · rfl
    · let weight (scope : Scope) (usage : ProviderLeaseUsage) : Nat :=
        if reach.counts scope then resource.used usage else 0
      have amount := used resource
      show (ledger.usage.insert file.scope ⟨bytes, objects⟩).total weight =
        ledger.usage.total weight + _
      have new : weight file.scope ⟨bytes, objects⟩ =
          if reach.counts file.scope then resource.used ⟨bytes, objects⟩ else 0 := rfl
      cases entry : ledger.usage.get? file.scope with
      | none =>
        rw [entry] at amount
        rw [total_insert_of_none _ _ entry, new, amount]
        simp
      | some usage =>
        rw [entry] at amount
        have changed := total_insert_of_some ⟨bytes, objects⟩ weight entry
        have old : weight file.scope usage =
            if reach.counts file.scope then resource.used usage else 0 := rfl
        rw [new, amount, old] at changed
        split_ifs at changed ⊢ with counts
        · simp only [Option.map_some, Option.getD_some] at changed
          omega
        · omega
  · cases counted
    -- A lease that consumed nothing adds nothing.
    have nothing : ∀ resource : Resource, resource.consumed file.state = 0 := by
      simp only [consumedAnything, Bool.or_eq_true, bne_iff_ne, ne_eq, not_or, not_not] at anything
      intro resource
      cases resource with
      | bytes => exact anything.1
      | objects => exact anything.2
    refine ⟨⟨fun resource scope => ?_, fun resource reach => ?_⟩, rfl⟩
    · rw [nothing, ite_self, Nat.add_zero]
    · rw [nothing, ite_self, Nat.add_zero]

/-- What a program does that only removes or rewrites leases. -/
structure Prunes (store after : Store) : Prop where
  journals : after.journals = store.journals
  absent : ∀ key, store.leases.get? key = none → after.leases.get? key = none

theorem Prunes.refl (store : Store) : Prunes store store := ⟨rfl, fun _ absent => absent⟩

theorem Prunes.trans {one two three : Store} (first : Prunes one two) (second : Prunes two three) :
    Prunes one three :=
  ⟨second.journals.trans first.journals,
    fun key absent => second.absent key (first.absent key absent)⟩

/-- The books are right, whenever the last reservation was admitted. -/
def Sound (policy : ProviderQuotaPolicy) (clock : Nat) (store : Store) : Prop :=
  ∃ admitted, Books policy admitted clock store

/-- A program that is no concern of the books comes first. -/
theorem triple_quiet {program : Action α} {rest : α → Action β} {post : β → Store → Prop}
    (quiet : Quiet allowed program) (books : Books policy admitted clock store)
    (goesOn : ∀ value after, SameBooks store after →
      Triple allowed (rest value) after post (Sound policy clock)) :
    Triple allowed (program >>= rest) store post (Sound policy clock) :=
  triple_bind ((quiet.triple store).imp goesOn fun _ same => ⟨admitted, books.same same⟩)

/-- A lease is written with which the books are right. -/
theorem triple_persist_sound (before : Books policy admitted clock store)
    (written : Books policy admitted clock (store.putLease next)) :
    Triple allowed (persistProviderLease next) store (fun _ => SameBooks (store.putLease next))
      (Sound policy clock) := by
  refine (triple_persistProviderLease store next).imp (fun _ _ same => same) ?_
  rintro after (same | same)
  · exact ⟨admitted, before.same same⟩
  · exact ⟨admitted, written.same same⟩

/-- A program that keeps the books comes first. -/
theorem triple_sound {program : Action α} {rest : α → Action β} {post : α → Store → Prop}
    {goal : β → Store → Prop}
    (keeps : Triple allowed program store post (Books policy admitted clock))
    (goesOn : ∀ value after, post value after →
      Triple allowed (rest value) after goal (Sound policy clock)) :
    Triple allowed (program >>= rest) store goal (Sound policy clock) :=
  triple_bind (keeps.imp goesOn fun _ stopped => ⟨admitted, stopped⟩)

/-! ## The compaction -/

variable [Formats]

theorem foldLease_eq_ok {ledger folded : ProviderLeaseLedger}
    (found : foldLease ledger file store = .ok folded) :
    ∃ added digest, Books.Adds ledger.usage file added ∧
      folded = ⟨added, ledger.pendingCompactions ++ [⟨file.key, digest⟩]⟩ := by
  simp only [foldLease, bind_eq_ok, okOr_eq_ok, pure_eq_ok] at found
  obtain ⟨added, counted, onDisk, -, rfl⟩ := found
  obtain ⟨adds, pending⟩ := addUsage_adds counted
  exact ⟨added.usage, stateDigest onDisk.state, adds, by rw [pending]⟩

/-- The books on disk, and the books with the ledger that is being built. -/
structure Compacting (policy : ProviderQuotaPolicy) (admitted clock : Nat) (origin : Store)
    (rest : List LeaseFile) (ledger : ProviderLeaseLedger) (store : Store) : Prop where
  onDisk : Books policy admitted clock store
  planned : Books policy admitted clock (store.putLedger ledger)
  prunes : Prunes origin store
  untouched : store.ledger = origin.ledger
  settled : origin.ledger.pendingCompactions = []
  idle : origin.journals = ∅
  present : ∀ file ∈ rest, store.leases.get? file.key = some file ∧
    file.key ∉ ledger.pendingCompactions.map ProviderLeaseCompaction.key
  distinct : (rest.map LeaseFile.key).Nodup

namespace Compacting

variable {origin : Store} {rest : List LeaseFile} {ledger : ProviderLeaseLedger}

section

variable (compacting : Compacting policy admitted clock origin (file :: rest) ledger store)

include compacting

omit [Formats] in
theorem tail : Compacting policy admitted clock origin rest ledger store where
  __ := compacting
  present other member := compacting.present other (mem_cons_of_mem _ member)
  distinct := (nodup_cons.mp compacting.distinct).2

omit [Formats] in
theorem tidied (similar : Similar file next) (same : SameBooks (store.putLease next) after) :
    Compacting policy admitted clock origin (next :: rest) ledger after := by
  obtain ⟨here, unlisted⟩ := compacting.present file mem_cons_self
  have apart := (nodup_cons.mp compacting.distinct).1
  exact
    { onDisk := (compacting.onDisk.similar here similar).same same
      planned := (compacting.planned.similar here similar).same (same.putLedger ledger)
      prunes := by
        refine compacting.prunes.trans ⟨same.journals, fun key absent => ?_⟩
        rw [same.get?_of_ne]
        · exact absent
        · rintro rfl
          rw [similar.key, here] at absent
          cases absent
      untouched := same.ledger.trans compacting.untouched
      settled := compacting.settled
      idle := compacting.idle
      present := by
        intro other member
        rcases mem_cons.mp member with rfl | member
        · exact ⟨same.present, similar.key ▸ unlisted⟩
        · obtain ⟨there, also⟩ := compacting.present other (mem_cons_of_mem _ member)
          refine ⟨?_, also⟩
          rw [same.get?_of_ne]
          · exact there
          · rw [similar.key]
            intro equal
            exact apart (equal ▸ mem_map_of_mem member)
      distinct := by
        have distinct := compacting.distinct
        rw [map_cons] at distinct ⊢
        rw [similar.key]
        exact distinct }

theorem folded (ended : file.activeAt clock = false) {more : ProviderLeaseLedger}
    (found : foldLease ledger file store = .ok more) :
    Compacting policy admitted clock origin rest more store := by
  obtain ⟨usage, digest, adds, rfl⟩ := foldLease_eq_ok found
  obtain ⟨here, unlisted⟩ := compacting.present file mem_cons_self
  have none : (store.putLedger ledger).journals = ∅ :=
    compacting.prunes.journals.trans compacting.idle
  have live : (store.putLedger ledger).Live file := ⟨here, unlisted⟩
  exact
    { compacting.tail with
      planned := compacting.planned.fold live none ended adds digest
      present := by
        intro other member
        obtain ⟨there, also⟩ := compacting.present other (mem_cons_of_mem _ member)
        refine ⟨there, ?_⟩
        rw [map_append, mem_append, not_or]
        refine ⟨also, fun equal => (nodup_cons.mp compacting.distinct).1 ?_⟩
        have key : other.key = file.key := mem_singleton.mp equal
        exact key ▸ mem_map_of_mem member }

end

end Compacting

theorem triple_compactLease {origin : Store} {rest : List LeaseFile}
    {progress : ProviderLeaseLedger × List LeaseFile}
    (compacting : Compacting policy admitted clock origin (file :: rest) progress.1 store) :
    Triple allowed (compactLease policy clock progress file) store (fun progress after =>
        Compacting policy admitted clock origin rest progress.1 after)
      (Books policy admitted clock) := by
  have here := (compacting.present file mem_cons_self).1
  have canonical := (compacting.onDisk.filed file.key file here).canonical
  unfold compactLease
  split_ifs with active
  · exact triple_pure compacting.tail
  · refine triple_bind ((tidies_discardRecoveryCapsuleStaging here canonical).imp ?_
      fun _ tidied => tidied.books compacting.onDisk here)
    rintro discarded middle ⟨similar, same⟩
    have tidy := compacting.tidied similar same
    split_ifs
    · exact triple_pure tidy.tail
    · have there := (tidy.present discarded mem_cons_self).1
      refine triple_bind ((tidies_ensureProviderLeaseReferencesDurable there).imp ?_
        fun _ tidied => tidied.books tidy.onDisk there)
      rintro synced final ⟨further, same⟩
      have tidier := tidy.tidied further same
      refine triple_checked tidier.onDisk fun ledger found => ?_
      refine triple_pure (tidier.folded ?_ found)
      rw [further.activeAt, similar.activeAt]
      simpa using active

theorem tidies_recoverStagedUpload {expected : List LeaseKey}
    (present : store.leases.get? file.key = some file) (canonical : ∀ backupId snapshotId,
      file.state.objects.get? (.legacyCapsule backupId snapshotId) = none) :
    Triple allowed (recoverStagedUpload policy now expected file) store
      (fun _ after => Tidied store file after) (Tidied store file) := by
  unfold recoverStagedUpload
  cases file.state.stagedCapsuleUpload with
  | none => exact triple_pure (.unchanged present (.refl store))
  | some staged =>
    refine (tidies_finalizeCommittedRecoveryCapsuleStaging present canonical).andThen ?_
    intro settled middle finalized
    cases settled with
    | some next => exact triple_pure ⟨next, finalized.1, finalized.2⟩
    | none =>
      have same : SameBooks store middle := finalized
      have still : middle.leases.get? file.key = some file := by
        rw [same.leases]
        exact present
      dsimp only
      split_ifs
      · have directory : Quiet allowed (do
            ensureRecoveryCapsuleUploadDirectory staged.upload
            validateRecoveryCapsuleUploadDirectory staged.upload
            pure (expected ++ [file.key])) :=
          Quiet.bind quiet_ensureRecoveryCapsuleUploadDirectory fun _ =>
            Quiet.bind quiet_validateRecoveryCapsuleUploadDirectory fun _ => .pure
        exact (directory.tidies present same).imp (fun _ _ => .unchanged present)
          fun _ tidied => tidied
      · refine triple_bind ((tidies_discardRecoveryCapsuleStaging still canonical).imp ?_
          fun _ => .of_same same)
        rintro next after ⟨similar, written⟩
        exact triple_pure (.of_same same ⟨next, similar, written⟩)

section

variable (books : Books policy admitted clock store)

include books

theorem triple_finishCompaction {pending : ProviderLeaseCompaction}
    (listed : pending.key ∈ store.pendingKeys) :
    Triple allowed (finishCompaction pending) store
      (fun _ after => Books policy admitted clock after ∧ Prunes store after ∧
        after.ledger = store.ledger ∧ after.leases.get? pending.key = none)
      (Books policy admitted clock) := by
  refine triple_read ?_
  cases leased : store.leases.get? pending.key with
  | none => exact triple_pure ⟨books, .refl store, rfl, leased⟩
  | some file =>
    refine triple_checked books fun _ _ => ?_
    have dropped := books.dropLease listed
    have erased : ∀ key, store.leases.get? key = none →
        (store.dropLease pending.key).leases.get? key = none := by
      intro key absent
      show (store.leases.erase pending.key).get? key = none
      simp [get?_erase, absent]
    refine triple_act ⟨dropped, ⟨rfl, erased⟩, rfl, ?_⟩ (fun _ => books)
      (fun _ => dropped) fun _ _ => books
    show (store.leases.erase pending.key).get? pending.key = none
    rw [get?_erase, if_pos rfl]

theorem triple_finishPendingProviderLeaseCompactions :
    Triple allowed (finishPendingProviderLeaseCompactions store.ledger) store
      (fun ledger after => Books policy admitted clock after ∧ Prunes store after ∧
        after.ledger = ledger ∧ ledger.pendingCompactions = [])
      (Books policy admitted clock) := by
  unfold finishPendingProviderLeaseCompactions
  split_ifs with none
  · exact triple_pure ⟨books, .refl store, rfl, List.isEmpty_iff.mp none⟩
  · let invariant (rest : List ProviderLeaseCompaction) (_ : Unit) (after : Store) : Prop :=
      Books policy admitted clock after ∧ Prunes store after ∧ after.ledger = store.ledger ∧
        (∀ pending ∈ rest, pending ∈ store.ledger.pendingCompactions) ∧
          ∀ pending ∈ store.ledger.pendingCompactions,
            pending ∈ rest ∨ after.leases.get? pending.key = Option.none
    have start : invariant store.ledger.pendingCompactions () store :=
      ⟨books, .refl store, rfl, fun _ member => member, fun _ member => .inl member⟩
    refine triple_bind (.mono (triple_loop ?_ start) ?_)
    · rintro - pending rest middle ⟨right, prunes, ledger, members, gone⟩
      have listed : pending.key ∈ middle.pendingKeys := by
        rw [Store.pendingKeys, ledger]
        exact mem_map_of_mem (members pending mem_cons_self)
      refine (triple_finishCompaction right listed).mono ?_
      rintro - after ⟨right, further, same, here⟩
      refine ⟨right, prunes.trans further, same.trans ledger,
        fun other member => members other (mem_cons_of_mem _ member), fun other member => ?_⟩
      rcases gone other member with left | done
      · rcases mem_cons.mp left with rfl | left
        · exact .inr here
        · exact .inl left
      · exact .inr (further.absent _ done)
    · rintro - cleared ⟨right, prunes, ledger, -, gone⟩
      have missing : ∀ key ∈ cleared.pendingKeys, cleared.leases.get? key = Option.none := by
        intro key member
        rw [Store.pendingKeys, ledger] at member
        obtain ⟨pending, listed, rfl⟩ := mem_map.mp member
        rcases gone pending listed with left | done
        · exact absurd left not_mem_nil
        · exact done
      have finished := right.clearPending missing
      rw [ledger] at finished
      refine triple_bind (triple_bind (triple_check ?_ fun _ _ => right))
      intro _ _
      refine triple_act ?_ (fun _ => right) (fun _ => finished) fun _ _ => right
      exact triple_pure ⟨finished, prunes.trans ⟨rfl, fun _ absent => absent⟩, rfl, rfl⟩

theorem triple_recoverRecoveryCapsuleUploads :
    Triple allowed (recoverRecoveryCapsuleUploads policy now) store
      (fun _ after => Books policy admitted clock after ∧ after.journals = store.journals)
      (Books policy admitted clock) := by
  refine triple_checked books fun files listed => ?_
  obtain rfl := listProviderLeaseStateFiles_eq_ok listed
  refine (triple_loop_tidied books fun _ _ _ present canonical =>
    tidies_recoverStagedUpload present canonical).andThen ?_
  rintro expected middle ⟨right, journals⟩
  refine triple_checked right fun orphans _ => ?_
  have cleanup : Quiet allowed (loop (fun _ key => cleanupRecoveryCapsuleUploadParts key) ()
      orphans) := .loop fun _ _ => quiet_cleanupRecoveryCapsuleUploadParts
  exact (cleanup.triple middle).imp
    (fun _ after same => ⟨right.same same, same.journals.trans journals⟩)
    fun _ same => right.same same

/-- A compaction keeps the books right and leaves nothing pending. -/
theorem triple_compactProviderLeases (idle : store.journals = ∅) :
    Triple allowed (compactProviderLeases policy clock) store
      (fun _ after => Books policy admitted clock after ∧ Prunes store after ∧
        after.ledger.pendingCompactions = [])
      (Books policy admitted clock) := by
  refine triple_checked books fun ledger loaded => ?_
  obtain ⟨_, -, loaded⟩ := bind_eq_ok.mp loaded
  cases loaded
  refine (triple_finishPendingProviderLeaseCompactions books).andThen ?_
  rintro ledger begun ⟨right, pruned, rfl, settled⟩
  refine triple_checked right fun files listed => ?_
  obtain rfl := listProviderLeaseStateFiles_eq_ok listed
  have start : Compacting policy admitted clock begun begun.leases.values begun.ledger begun :=
    { onDisk := right
      planned := right
      prunes := .refl begun
      untouched := rfl
      settled := settled
      idle := pruned.journals.trans idle
      present := by
        intro file member
        refine ⟨present_of_mem_values right member, ?_⟩
        rw [settled]
        exact not_mem_nil
      distinct := by
        rw [map_key_values right]
        exact begun.leases.keys_nodup }
  have folds := @triple_loop _ _ _ _ allowed begun (Books policy admitted clock)
    (compactLease policy clock) (fun rest progress after =>
      Compacting policy admitted clock begun rest progress.1 after)
    (fun progress file rest store compacting => triple_compactLease compacting)
    (begun.ledger, []) begun.leases.values start
  refine folds.andThen ?_
  rintro ⟨ledger, retained⟩ folded compacting
  refine triple_checked compacting.onDisk fun _ _ => ?_
  have inventory : ∀ last, Books policy admitted clock last → Prunes store last →
      last.ledger.pendingCompactions = [] →
        Triple allowed (check (validateProviderLeaseInventory policy clock)) last
          (fun _ after => Books policy admitted clock after ∧ Prunes store after ∧
            after.ledger.pendingCompactions = [])
          (Books policy admitted clock) := fun last right prunes none =>
    triple_check (fun _ _ => ⟨right, prunes, none⟩) fun _ _ => right
  dsimp only
  split_ifs with empty
  · refine inventory folded compacting.onDisk (pruned.trans compacting.prunes) ?_
    rw [compacting.untouched]
    exact settled
  · refine triple_bind (triple_bind (triple_check ?_ fun _ _ => compacting.onDisk))
    intro _ _
    refine triple_act ?_ (fun _ => compacting.onDisk) (fun _ => compacting.planned)
      fun _ _ => compacting.onDisk
    refine (triple_finishPendingProviderLeaseCompactions compacting.planned).andThen ?_
    rintro finished last ⟨right, further, rfl, none⟩
    refine inventory last right (pruned.trans (compacting.prunes.trans ?_)) none
    exact ⟨further.journals, further.absent⟩

theorem ends_compactProviderLeases (idle : store.journals = ∅) :
    Ends allowed (compactProviderLeases policy clock) store (Sound policy clock) :=
  (triple_compactProviderLeases books idle).imp (fun _ _ kept => ⟨admitted, kept.1⟩)
    fun _ stopped => ⟨admitted, stopped⟩

theorem triple_providerCapacity {scope : Option Scope} (idle : store.journals = ∅) :
    Triple allowed (providerCapacity policy freeSpace clock scope) store
      (fun capacity after => Books policy admitted clock after ∧ Prunes store after ∧
        after.ledger.pendingCompactions = [] ∧
          measureCapacity policy freeSpace clock scope after = .ok capacity)
      (Books policy admitted clock) := by
  refine (triple_compactProviderLeases books idle).andThen ?_
  rintro - after ⟨right, prunes, settled⟩
  exact triple_check (fun capacity measured => ⟨right, prunes, settled, measured⟩) fun _ _ => right

end

/-! ## Reservations -/

section

variable (books : Books policy admitted lease.issuedAt store) (idle : store.journals = ∅)

include books idle

theorem triple_reserveNewProviderLease (free : store.leases.get? lease.key = none)
    (something : ∀ resource : Resource, 0 < resource.allowance lease) :
    Ends allowed (reserveNewProviderLease policy freeSpace lease) store
      (Sound policy lease.issuedAt) := by
  refine triple_sound (triple_compactProviderLeases books idle) ?_
  rintro - compacted ⟨right, pruned, -⟩
  refine triple_checked ⟨admitted, right⟩ fun _ _ => ?_
  refine triple_sound (triple_providerCapacity right (pruned.journals.trans idle)) ?_
  rintro capacity measuredStore ⟨right, further, settled, measured⟩
  refine triple_checked ⟨admitted, right⟩ fun _ fits => ?_
  rw [refuse_eq_ok, Bool.or_eq_false_iff, decide_eq_false_iff_not, decide_eq_false_iff_not,
    not_lt, not_lt] at fits
  have prunes := pruned.trans further
  have recorded := right.recordReservation settled (prunes.absent lease.key free)
    (prunes.journals.trans idle)
    (measureCapacity_room right settled measured
      (by intro resource; cases resource; exacts [fits.1, fits.2]) something)
  exact triple_act ⟨_, recorded⟩ (fun _ => ⟨_, right⟩) (fun _ => ⟨_, recorded⟩)
    fun _ _ => ⟨_, right.same (.strand nofun)⟩

theorem triple_reserveProviderLease :
    Ends allowed (reserveProviderLease policy freeSpace lease) store
      (Sound policy lease.issuedAt) := by
  refine triple_checked ⟨admitted, books⟩ fun _ shaped => ?_
  refine triple_read ?_
  cases free : store.leases.get? lease.key with
  | some file => exact triple_check (fun _ _ => ⟨admitted, books⟩) fun _ _ => ⟨admitted, books⟩
  | none =>
    exact triple_reserveNewProviderLease books idle free (allowance_pos (by simpa using shaped))

theorem triple_reserveProviderLeaseIdempotent :
    Ends allowed (reserveProviderLeaseIdempotent policy freeSpace lease) store
      (Sound policy lease.issuedAt) := by
  refine triple_checked ⟨admitted, books⟩ fun _ shaped => ?_
  refine triple_read ?_
  cases free : store.leases.get? lease.key with
  | some file =>
    refine triple_checked ⟨admitted, books⟩ ?_
    exact fun _ _ => triple_pure ⟨admitted, books⟩
  | none =>
    refine (triple_reserveNewProviderLease books idle free
      (allowance_pos (by simpa using shaped))).andThen ?_
    exact fun _ after right => triple_pure right

end

/-! ## The end of a lease, and opening the store -/

theorem triple_cancelProviderLease {installation : Installation}
    (books : Books installation.policy admitted clock store) :
    Ends allowed (cancelProviderLease installation lease clock) store
      (Sound installation.policy clock) := by
  refine triple_sound (triple_recoverProviderUploadJournals books) ?_
  rintro - recovered ⟨right, idle⟩
  refine triple_checked ⟨admitted, right⟩ fun key path => ?_
  refine triple_read ?_
  cases leased : recovered.leases.get? key with
  | none =>
    exact triple_quiet quiet_cleanupRecoveryCapsuleUploadParts right fun _ clean same =>
      ends_compactProviderLeases (right.same same) (same.journals.trans idle)
  | some file =>
    have own : file.key = key := right.keyed key file leased
    have present : recovered.leases.get? file.key = some file := own ▸ leased
    let cancelled : LeaseFile := { file with state := { file.state with cancelled := true } }
    refine triple_checked ⟨admitted, right⟩ fun _ _ => ?_
    -- Whether or not it had to be written, the cancelled lease is there now.
    have rest : ∀ marked, Books installation.policy admitted clock marked →
        marked.journals = ∅ → marked.leases.get? cancelled.key = some cancelled → Ends allowed (do
              let _ ← discardRecoveryCapsuleStaging installation.policy cancelled
              compactProviderLeases installation.policy clock) marked
            (Sound installation.policy clock) := by
      intro marked right idle here
      refine triple_bind ((tidies_discardRecoveryCapsuleStaging here
        (right.filed _ cancelled here).canonical).imp ?_
          fun _ tidied => ⟨admitted, tidied.books right here⟩)
      rintro next discarded ⟨similar, same⟩
      exact ends_compactProviderLeases ((right.similar here similar).same same)
        (same.journals.trans idle)
    dsimp only
    split_ifs with already
    · refine rest recovered right idle ?_
      have same : cancelled = file := by
        show LeaseFile.mk { file.state with cancelled := true } file.serial = file
        rw [← already]
      rw [same]
      exact present
    · have marked := right.cancelled idle present
      refine (triple_persist_sound right marked).andThen fun _ written same => ?_
      exact rest written (marked.same same) (same.journals.trans idle) same.present

theorem triple_recoverStore {installation : Installation}
    (books : Books installation.policy admitted clock store) :
    Ends allowed (recoverStore installation clock) store (Sound installation.policy clock) := by
  refine triple_checked ⟨admitted, books⟩ fun _ _ => ?_
  refine triple_sound (triple_recoverProviderUploadJournals books) ?_
  rintro - recovered ⟨right, idle⟩
  refine triple_sound (triple_recoverProviderLeaseReferences right) ?_
  rintro - referenced ⟨right, same⟩
  refine triple_sound (triple_recoverRecoveryCapsuleUploads right) ?_
  rintro - resumed ⟨right, further⟩
  exact ends_compactProviderLeases right (further.trans (same.trans idle))

end Covalent.Provider
