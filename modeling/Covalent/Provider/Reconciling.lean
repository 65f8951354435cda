import Covalent.Provider.Frames

/-!
# What recovery does to the books

The recovery of a journal looks up its object.  When the object is there and not counted
yet, it is counted in its lease, as new or not, as the journal says; then the journal
goes.  Each of these writes keeps the books right.
-/

namespace Covalent.Provider

open Durable Formats BTreeMap List Option

/-! ## One more object -/

/-- What an object of a length amounts to. -/
def Resource.amount : Resource → Nat → Nat
  | bytes, length => length
  | objects, _ => 1

theorem Resource.weigh_eq_amount (resource : Resource) (object : StoredObject) :
    resource.weigh object = resource.amount object.bytes.length := by
  cases resource <;> rfl

/-- A lease with one more object, counted as new or not. -/
structure Counts (file next : LeaseFile) (key : ObjectKey) (length : Nat) (created : Bool) :
    Prop where
  lease : next.state.lease = file.state.lease
  serial : next.serial = file.serial
  cancelled : next.state.cancelled = file.state.cancelled
  objects : next.state.objects = file.state.objects.insert key length
  consumed : ∀ resource : Resource, resource.consumed next.state =
    resource.consumed file.state + if created then resource.amount length else 0
  roomy : ∀ resource : Resource, resource.consumed next.state + resource.staged next.state ≤
    resource.allowance next.state.lease

namespace Counts

variable {file next : LeaseFile} {key : ObjectKey} {length : Nat} {created : Bool}

theorem activeAt (counts : Counts file next key length created) (time : Nat) :
    next.activeAt time = file.activeAt time := by
  unfold LeaseFile.activeAt
  rw [counts.lease, counts.cancelled]

theorem isSome_iff (counts : Counts file next key length created) (other : ObjectKey) :
    (next.state.objects.get? other).isSome = true ↔
      other = key ∨ (file.state.objects.get? other).isSome = true := by
  rw [counts.objects]
  exact isSome_get?_insert

end Counts

variable {key : ObjectKey} {created : Bool} {state : ProviderLeaseState}

variable {object : StoredObject} {left right bytes objects : Nat} {staged : StagedCapsuleUpload}

/-- What a lease counts with one more object is what it was, and the object if it was
created under the lease. -/
theorem sum_listed_insert {store : Store} {file next : LeaseFile}
    (counts : Counts file next key object.bytes.length created)
    (found : store.objects.get? key = some object) (unlisted : file.state.objects.get? key = none)
    (expected : created = true ↔ object.origin = some file.serial) (resource : Resource) :
    (store.sum resource fun other serial =>
        serial = next.serial ∧ (next.state.objects.get? other).isSome = true) =
      (store.sum resource fun other serial =>
        serial = file.serial ∧ (file.state.objects.get? other).isSome = true) +
        if created then resource.amount object.bytes.length else 0 := by
  rw [Store.sum_split resource _ fun other _ => other ≠ key]
  refine congrArg₂ (· + ·) ?_ ?_
  · refine Store.sum_congr fun other _ serial _ _ => ?_
    rw [counts.serial, counts.isSome_iff]
    constructor
    · rintro ⟨⟨same, equal | listed⟩, apart⟩
      · exact absurd equal apart
      · exact ⟨same, listed⟩
    · rintro ⟨same, listed⟩
      refine ⟨⟨same, .inr listed⟩, ?_⟩
      rintro rfl
      rw [unlisted] at listed
      cases listed
  · split_ifs with isNew
    · rw [← Resource.weigh_eq_amount]
      refine Store.sum_one found (expected.mp isNew) ⟨⟨counts.serial.symm, ?_⟩, fun no => no rfl⟩ ?_
      · exact (counts.isSome_iff key).mpr (.inl rfl)
      · exact fun other serial both => not_not.mp both.2
    · refine Store.sum_eq_zero fun other bound serial stored origin both => isNew ?_
      obtain rfl := not_not.mp both.2
      obtain rfl := some.inj (found.symm.trans stored)
      rw [expected, origin, both.1.1, counts.serial]

variable {policy : ProviderQuotaPolicy} {admitted clock : Nat} {store : Store}
  {file next : LeaseFile}

/-- A lease that could be used at the last admission counts one more object. -/
theorem Books.counts (books : Books policy admitted clock store) (live : store.Live file)
    (active : file.activeAt admitted = true) (found : store.objects.get? key = some object)
    (unlisted : file.state.objects.get? key = none)
    (canonical : ∀ backupId snapshotId, key ≠ .legacyCapsule backupId snapshotId)
    (expected : created = true ↔ object.origin = some file.serial)
    (counts : Counts file next key object.bytes.length created) :
    Books policy admitted clock (store.putLease next) := by
  refine books.putLease live.1
    { lease := counts.lease
      serial := counts.serial
      canonical := ?_
      ended := fun ended => (counts.activeAt clock).trans ended
      running := fun running => .inl ((counts.activeAt admitted).trans running)
      roomy := counts.roomy
      listed := ?_
      counted := ?_
      committed := ?_ }
  · intro backupId snapshotId
    rw [counts.objects, get?_insert, if_neg (canonical backupId snapshotId).symm]
    exact (books.filed file.key file live.1).canonical backupId snapshotId
  · intro other missing
    by_contra listed
    have some := (counts.isSome_iff other).mpr (.inr (isSome_iff_ne_none.mpr listed))
    rw [missing] at some
    cases some
  · intro _ resource
    rw [sum_listed_insert counts found unlisted expected, ← books.counted file resource live]
    exact counts.consumed resource
  · intro _ resource
    unfold Resource.commitment
    rw [counts.activeAt, active, counts.lease]
    exact le_rfl

/-! ## The decision -/

theorem sumWithin_le {limit : Nat} (within : sumWithin limit left right = true) :
    left + right ≤ limit := by
  obtain ⟨sum, added, bound⟩ := (Option.any_eq_true ..).mp within
  rw [(checkedAdd_eq_some.mp added).2]
  exact of_decide_eq_true bound

/-- Room that was checked is there, besides what the staged upload reserves. -/
theorem ensureLeaseConsumption_room
    (ensured : ensureLeaseConsumption state bytes objects = .ok ()) :
    state.consumedNewBytes + Resource.bytes.staged state + bytes ≤ state.lease.maxNewBytes ∧
      state.consumedNewObjects + Resource.objects.staged state + objects ≤
        state.lease.maxNewObjects := by
  unfold ensureLeaseConsumption at ensured
  rw [refuse_eq_ok, Bool.or_eq_false_iff, Bool.not_eq_false', Bool.not_eq_false'] at ensured
  obtain ⟨sum, added, bound⟩ := (Option.any_eq_true ..).mp ensured.1
  obtain ⟨sum', added', bound'⟩ := (Option.any_eq_true ..).mp ensured.2
  have bytes := sumWithin_le bound
  have objects := sumWithin_le bound'
  rw [← (checkedAdd_eq_some.mp added).2] at bytes
  rw [← (checkedAdd_eq_some.mp added').2] at objects
  exact ⟨bytes, objects⟩

/-- There is room for one object beside what is staged. -/
theorem ensureLeaseConsumption_one
    (ensured : ensureLeaseConsumption state bytes 1 = .ok ()) (resource : Resource) :
    resource.consumed state + resource.staged state + resource.amount bytes ≤
      resource.allowance state.lease := by
  obtain ⟨room, room'⟩ := ensureLeaseConsumption_room ensured
  cases resource with
  | bytes => exact room
  | objects => exact room'

theorem consume_eq_ok {next : ProviderLeaseState}
    (consumed : consume state bytes objects = .ok next) :
    next = { state with
      consumedNewBytes := state.consumedNewBytes + bytes
      consumedNewObjects := state.consumedNewObjects + objects } := by
  simp only [consume, bind_eq_ok, okOr_eq_ok, pure_eq_ok] at consumed
  obtain ⟨_, added, _, added', rfl⟩ := consumed
  rw [(checkedAdd_eq_some.mp added).2, (checkedAdd_eq_some.mp added').2]

theorem validStagedCapsuleUpload_roomy (valid : validStagedCapsuleUpload state = true)
    (some : state.stagedCapsuleUpload = some staged) (resource : Resource) :
    resource.consumed state + resource.staged state ≤ resource.allowance state.lease := by
  unfold validStagedCapsuleUpload at valid
  rw [some] at valid
  simp only [Bool.and_eq_true] at valid
  cases resource with
  | bytes => exact sumWithin_le valid.1.1.1.2
  | objects => exact sumWithin_le valid.1.1.2

theorem validStagedCapsuleUpload_committed (canonical : ∀ backupId snapshotId,
      state.objects.get? (.legacyCapsule backupId snapshotId) = none)
    (valid : validStagedCapsuleUpload state = true)
    (some : state.stagedCapsuleUpload = some staged)
    (committed : staged.committedCreated = Option.some created) :
    state.objects.get? (providerCapsuleObjectKey
      ⟨state.lease.peerDeviceId, staged.upload.descriptor.backupId⟩
        staged.upload.descriptor.snapshotId) = Option.some staged.upload.totalBytes := by
  unfold validStagedCapsuleUpload at valid
  rw [some] at valid
  simp only [Bool.and_eq_true] at valid
  have listed := valid.2
  rw [committed] at listed
  simpa [canonical] using listed

variable {upload : ProviderUploadJournal}

theorem matchesStaged_true (matching : matchesStaged upload state = .ok true) :
    ∃ staged, state.stagedCapsuleUpload = some staged ∧
      staged.upload.totalBytes = upload.recordBytes ∧
        upload.recoveryCapsuleDescriptor = some staged.upload.descriptor ∧
          staged.expectedNewObject = upload.expectedNewObject := by
  unfold matchesStaged at matching
  split at matching
  · split_ifs at matching with same
    · simp only [bind_eq_ok, refuse_eq_ok, bne_eq_false_iff_eq] at matching
      obtain ⟨done, expected, -⟩ := matching
      rename_i snapshotId descriptor staged object named some
      exact ⟨staged, some, same.1, by rw [same.2.2.1]; exact named, expected⟩
    · cases matching
  · cases matching

/-- The place of a capsule is that of the descriptor in its journal. -/
theorem place_of_described {descriptor : RecoveryCapsuleDescriptor}
    (formed : upload.WellFormed) (lease : state.lease = upload.lease)
    (named : upload.recoveryCapsuleDescriptor = some descriptor) :
    upload.place = providerCapsuleObjectKey ⟨state.lease.peerDeviceId, descriptor.backupId⟩
      descriptor.snapshotId := by
  unfold ProviderUploadJournal.WellFormed at formed
  unfold ProviderUploadJournal.place
  cases object : upload.object with
  | chunk locator =>
    rw [object] at formed
    cases (named.symm.trans formed.2)
  | recoveryCapsule snapshotId =>
    rw [object] at formed
    obtain ⟨_, also, key⟩ := formed
    obtain rfl := some.inj (named.symm.trans also)
    unfold RecoveryCapsuleDescriptor.key at key
    simp only [CapsuleKey.mk.injEq, Scope.mk.injEq, StorageLease.scope] at key
    unfold providerCapsuleObjectKey StorageLease.scope
    rw [lease, key.1.2, key.2]

theorem effectiveObjectKey_eq_ok {normal : ProviderLeaseState} (formed : upload.WellFormed)
    (lease : state.lease = upload.lease)
    (canonical : ∀ backupId snapshotId,
      state.objects.get? (.legacyCapsule backupId snapshotId) = none)
    (found : effectiveObjectKey upload state = .ok (normal, key)) :
    normal = state ∧ key = upload.place := by
  unfold effectiveObjectKey at found
  split at found
  case h_1 object _ =>
    cases found
    unfold ProviderUploadJournal.WellFormed at formed
    unfold ProviderUploadJournal.place
    rw [object] at formed ⊢
    exact ⟨rfl, formed.1⟩
  case h_2 named =>
    simp only [bind_eq_ok, normalizeProviderCapsuleObjectKey_of_canonical canonical,
      Except.ok.injEq, Prod.mk.injEq] at found
    obtain ⟨-, -, rfl, rfl⟩ := found
    exact ⟨rfl, (place_of_described formed lease named).symm⟩
  case h_3 => cases found

theorem place_canonical (upload : ProviderUploadJournal) (backupId : BackupId)
    (snapshotId : String) : upload.place ≠ .legacyCapsule backupId snapshotId := by
  unfold ProviderUploadJournal.place
  split <;> exact nofun

theorem matching_room (formed : upload.WellFormed) (lease : state.lease = upload.lease)
    (canonical : ∀ backupId snapshotId,
      state.objects.get? (.legacyCapsule backupId snapshotId) = none)
    (valid : validStagedCapsuleUpload state = true)
    (matched : matchesStaged upload state = .ok true)
    (unlisted : state.objects.get? upload.place = none) (resource : Resource) :
    resource.consumed state + resource.amount upload.recordBytes ≤
      resource.allowance state.lease := by
  obtain ⟨staged, some, bytes, named, -⟩ := matchesStaged_true matched
  have uncommitted : staged.committedCreated = none := by
    cases committed : staged.committedCreated with
    | none => rfl
    | some created =>
      -- A committed upload is counted under the place of the journal.
      have listed := validStagedCapsuleUpload_committed canonical valid some committed
      rw [← place_of_described formed lease named, unlisted] at listed
      cases listed
  have reserved : stagedReservation state = (upload.recordBytes, 1) := by
    unfold stagedReservation
    rw [some, ← bytes, filter_some, uncommitted]
    rfl
  have bound := validStagedCapsuleUpload_roomy valid some resource
  cases resource <;> simpa [Resource.staged, Resource.amount, reserved] using bound

/-- What the decision of a recovery says about the store. -/
def Reconciled (store : Store) (upload : ProviderUploadJournal) : Reconciliation → Prop
  | .nothing => Books.Settled store upload
  | .mark next => ∃ file, store.leases.get? upload.lease.key = some file ∧ Similar file next ∧
      (file.state.objects.get? upload.place).isSome = true
  | .account next => ∃ file object, store.leases.get? upload.lease.key = some file ∧
      store.objects.get? upload.place = some object ∧ file.state.objects.get? upload.place = none ∧
          Counts file next upload.place object.bytes.length upload.expectedNewObject

theorem staged_markCommitted (state : ProviderLeaseState) (completedAt : Nat)
    (resource : Resource) : resource.staged (markCommitted state completedAt) = 0 := by
  have zero : stagedReservation (markCommitted state completedAt) = (0, 0) := by
    unfold stagedReservation markCommitted
    cases state.stagedCapsuleUpload <;> rfl
  cases resource <;> simp [Resource.staged, zero]

theorem providerLeasePath_eq_ok {lease : StorageLease} {key : LeaseKey}
    (path : providerLeasePath lease = .ok key) : key = lease.key := by
  obtain ⟨_, -, path⟩ := bind_eq_ok.mp path
  exact (Except.ok.inj path).symm

theorem reconcileDecision_spec [Formats] {decision : Reconciliation}
    (books : Books policy admitted clock store) (formed : upload.WellFormed)
    (decided : reconcileDecision upload store = .ok decision) :
    Reconciled store upload decision := by
  unfold reconcileDecision at decided
  obtain ⟨_, -, decided⟩ := bind_eq_ok.mp decided
  cases hashed : hashObject store upload.place with
  | none =>
    rw [hashed] at decided
    cases decided
    exact .inl (map_eq_none_iff.mp hashed)
  | some incumbent =>
    rw [hashed] at decided
    obtain ⟨object, stored, measured⟩ := map_eq_some_iff.mp hashed
    simp only [bind_eq_ok, exists_unit, refuse_eq_ok, okOr_eq_ok, Bool.or_eq_false_iff,
      bne_eq_false_iff_eq] at decided
    obtain ⟨same, key, path, file, present, ⟨⟨lease, cancelled⟩, valid⟩, matching, matched,
      ⟨state, objectKey⟩, effective, decided⟩ := decided
    obtain rfl := providerLeasePath_eq_ok path
    have canonical := (books.filed _ file present).canonical
    obtain ⟨rfl, rfl⟩ := effectiveObjectKey_eq_ok formed lease canonical effective
    have length : object.bytes.length = upload.recordBytes := by
      rw [← measured] at same
      exact (Prod.mk.inj same).1
    dsimp only at decided
    cases listed : file.state.objects.get? upload.place with
    | some recordBytes =>
      simp only [listed, bind_eq_ok, exists_unit] at decided
      obtain ⟨-, decided⟩ := decided
      have isSome : (file.state.objects.get? upload.place).isSome = true := by
        rw [listed]
        rfl
      split_ifs at decided
      · cases decided
        refine ⟨file, present, ⟨rfl, rfl, rfl, rfl, rfl, rfl, fun resource => ?_⟩, isSome⟩
        rw [staged_markCommitted]
        exact Nat.zero_le _
      · cases decided
        exact .inr ⟨file, present, isSome⟩
    | none =>
      have roomy := (books.filed _ file present).roomy
      have account : ∀ next, Counts file next upload.place upload.recordBytes
          upload.expectedNewObject → Reconciled store upload (.account next) :=
        fun next counts => ⟨file, object, present, stored, listed, length ▸ counts⟩
      rw [listed] at decided
      cases isNew : upload.expectedNewObject <;> cases matching <;>
        simp only [isNew, Bool.false_and, Bool.true_and, Bool.not_true, Bool.not_false,
          Bool.false_eq_true, if_true, if_false, bind_eq_ok, exists_unit,
          pure_eq_ok, exists_eq_left'] at account decided
      · obtain rfl := decided
        refine account _ ⟨rfl, rfl, rfl, rfl, by rintro (_ | _) <;> rfl, fun resource => ?_⟩
        cases resource with
        | bytes => exact roomy .bytes
        | objects => exact roomy .objects
      · obtain rfl := decided
        refine account _ ⟨rfl, rfl, rfl, rfl, by rintro (_ | _) <;> rfl, fun resource => ?_⟩
        rw [staged_markCommitted]
        have bound := roomy resource
        cases resource <;> exact (Nat.le_add_right _ _).trans bound
      · obtain ⟨ensured, counted, consumed, rfl⟩ := decided
        obtain rfl := consume_eq_ok consumed
        refine account _ ⟨rfl, rfl, rfl, rfl, by rintro (_ | _) <;> rfl, fun resource => ?_⟩
        have room := ensureLeaseConsumption_one ensured resource
        cases resource <;> exact (Nat.add_right_comm _ _ _).trans_le room
      · obtain ⟨counted, consumed, rfl⟩ := decided
        obtain rfl := consume_eq_ok consumed
        have room := matching_room formed lease canonical (by simpa using valid) matched listed
        refine account _ ⟨rfl, rfl, rfl, rfl, by rintro (_ | _) <;> rfl, fun resource => ?_⟩
        rw [staged_markCommitted]
        cases resource with
        | bytes => exact room .bytes
        | objects => exact room .objects

/-! ## One upload -/

/-- What recovery leaves as it is: everything but leases, and those only list more. -/
structure Grows (store after : Store) : Prop where
  ledger : after.ledger = store.ledger
  journals : after.journals = store.journals
  objects : after.objects = store.objects
  listed : ∀ key file, store.leases.get? key = some file → ∃ next,
    after.leases.get? key = some next ∧ ∀ object, (file.state.objects.get? object).isSome = true →
        (next.state.objects.get? object).isSome = true

namespace Grows

variable {one two three : Store}

theorem same (same : SameBooks one two) : Grows one two where
  ledger := same.ledger
  journals := same.journals
  objects := same.objects
  listed key file found := ⟨file, by rw [same.leases]; exact found, fun _ listed => listed⟩

theorem trans (first : Grows one two) (second : Grows two three) : Grows one three where
  ledger := second.ledger.trans first.ledger
  journals := second.journals.trans first.journals
  objects := second.objects.trans first.objects
  listed key file found := by
    obtain ⟨next, found', more⟩ := first.listed key file found
    obtain ⟨last, found'', further⟩ := second.listed key next found'
    exact ⟨last, found'', fun object listed => further object (more object listed)⟩

theorem putLease (present : store.leases.get? next.key = some file)
    (more : ∀ object, (file.state.objects.get? object).isSome = true →
      (next.state.objects.get? object).isSome = true) : Grows store (store.putLease next) where
  ledger := rfl
  journals := rfl
  objects := rfl
  listed key found before := by
    by_cases same : key = next.key
    · subst same
      obtain rfl := some.inj (present.symm.trans before)
      exact ⟨next, get?_insert_self .., more⟩
    · exact ⟨found, (get?_insert_of_ne _ _ same).trans before, fun _ listed => listed⟩

theorem settled (grows : Grows one two) {upload : ProviderUploadJournal}
    (settled : Books.Settled one upload) : Books.Settled two upload := by
  rcases settled with absent | ⟨file, present, listed⟩
  · refine .inl ?_
    rw [grows.objects]
    exact absent
  · obtain ⟨next, found, more⟩ := grows.listed _ file present
    exact .inr ⟨next, found, more _ listed⟩

theorem outstanding (grows : Grows one two)
    (before : one.Outstanding upload) : two.Outstanding upload := by
  obtain ⟨journalId, journal, found, member⟩ := before
  exact ⟨journalId, journal, by rw [grows.journals]; exact found, member⟩

end Grows

variable {allowed : Fault → Prop} {upload : ProviderUploadJournal}

variable (policy admitted clock allowed store) in
/-- The books stay right and the store only grows; at the end `settled` holds. -/
abbrev Finishes (program : Action Unit) (settled : Store → Prop) : Prop :=
  Triple allowed program store
    (fun _ after => Books policy admitted clock after ∧ Grows store after ∧ settled after)
    (fun after => Books policy admitted clock after ∧ Grows store after)

theorem triple_persist_grown (books : Books policy admitted clock (store.putLease next))
    (before : Books policy admitted clock store)
    (present : store.leases.get? next.key = some file)
    (more : ∀ object, (file.state.objects.get? object).isSome = true →
      (next.state.objects.get? object).isSome = true)
    (settles : (next.state.objects.get? upload.place).isSome = true)
    (key : next.key = upload.lease.key) :
    Finishes policy admitted clock store allowed (persistProviderLease next)
      (Books.Settled · upload) := by
  have grows := Grows.putLease present more
  have settled : Books.Settled (store.putLease next) upload := by
    refine .inr ⟨next, ?_, settles⟩
    rw [← key]
    exact get?_insert_self ..
  refine (triple_persistProviderLease store next).imp ?_ ?_
  · intro _ after same
    exact ⟨books.same same, grows.trans (.same same), (Grows.same same).settled settled⟩
  · rintro after (same | same)
    · exact ⟨before.same same, .same same⟩
    · exact ⟨books.same same, grows.trans (.same same)⟩

section

variable [Formats] (books : Books policy admitted clock store)

include books

theorem triple_reconcileProviderUpload (outstanding : store.Outstanding upload) :
    Finishes policy admitted clock store allowed (reconcileProviderUpload policy upload)
      (Books.Settled · upload) := by
  have underway := books.underway upload outstanding
  have keyed := books.keyed upload.lease.key
  refine triple_checked ⟨books, .same (.refl store)⟩ fun decision decided => ?_
  have reconciled := reconcileDecision_spec books underway.formed decided
  cases decision with
  | nothing => exact triple_pure ⟨books, .same (.refl store), reconciled⟩
  | mark next =>
    obtain ⟨file, present, similar, listed⟩ := reconciled
    have own : file.key = upload.lease.key := keyed file present
    have key : next.key = upload.lease.key := similar.key.trans own
    refine triple_persist_grown (books.similar (own ▸ present) similar) books (key ▸ present)
      ?_ ?_ key
    · intro object listed
      rw [similar.listed]
      exact listed
    · rw [similar.listed]
      exact listed
  | account next =>
    obtain ⟨file, object, present, stored, unlisted, counts⟩ := reconciled
    have own : file.key = upload.lease.key := keyed file present
    have key : next.key = upload.lease.key := by
      rw [← own, LeaseFile.key, counts.lease]
      rfl
    have live : store.Live file := ⟨own ▸ present, own ▸ underway.kept⟩
    have expected := underway.expected file object present stored unlisted
    have publish : Quiet allowed (publishUpload policy upload) := quiet_publishUpload
    refine triple_bind ((publish.triple store).imp ?_ fun _ same => ⟨books.same same, .same same⟩)
    intro _ published same
    have counted := (books.counts live (underway.running file present) stored unlisted
      (place_canonical upload) expected counts).same (same.putLease next)
    have still : published.leases.get? next.key = some file := by
      rw [same.leases, key]
      exact present
    refine (triple_persist_grown counted (books.same same) still ?_ ?_ key).imp ?_ ?_
    · exact fun object listed => (counts.isSome_iff object).mpr (.inr listed)
    · exact (counts.isSome_iff upload.place).mpr (.inl rfl)
    · exact fun _ after ⟨right, grows, settled⟩ =>
        ⟨right, (Grows.same same).trans grows, settled⟩
    · exact fun after ⟨right, grows⟩ => ⟨right, (Grows.same same).trans grows⟩

/-! ## A whole recovery -/

theorem triple_reconcileProviderUploads {uploads : List ProviderUploadJournal}
    (outstanding : ∀ upload ∈ uploads, store.Outstanding upload) :
    Finishes policy admitted clock store allowed (reconcileProviderUploads policy uploads)
      fun after => ∀ upload ∈ uploads, Books.Settled after upload := by
  refine triple_checked ⟨books, .same (.refl store)⟩ fun _ _ => ?_
  -- What was done and what is left make up the batch.
  let invariant (rest : List ProviderUploadJournal) (_ : Unit) (after : Store) : Prop :=
    Books policy admitted clock after ∧ Grows store after ∧
      ∃ done, done ++ rest = uploads ∧ ∀ upload ∈ done, Books.Settled after upload
  have start : invariant uploads () store :=
    ⟨books, .same (.refl store), [], rfl, fun _ member => absurd member not_mem_nil⟩
  refine .mono (triple_loop ?_ start) ?_
  · rintro - upload rest middle ⟨right, grows, done, whole, settled⟩
    have member : upload ∈ uploads := by
      rw [← whole]
      exact mem_append_right _ mem_cons_self
    refine (triple_reconcileProviderUpload right
      (grows.outstanding (outstanding upload member))).imp ?_ ?_
    · rintro - after ⟨right, further, now⟩
      refine ⟨right, grows.trans further, done ++ [upload], ?_, ?_⟩
      · rw [← whole, append_assoc]
        rfl
      · intro other member
        rcases mem_append.mp member with before | last
        · exact further.settled (settled other before)
        · rw [mem_singleton.mp last]
          exact now
    · exact fun after ⟨right, further⟩ => ⟨right, grows.trans further⟩
  · rintro - after ⟨right, grows, done, whole, settled⟩
    rw [append_nil] at whole
    exact ⟨right, grows, whole ▸ settled⟩

theorem triple_reconcileJournal {journal : UploadJournal}
    (outstanding : ∀ upload ∈ journal.uploads, store.Outstanding upload) :
    Finishes policy admitted clock store allowed (reconcileJournal policy journal)
      fun after => ∀ upload ∈ journal.uploads, Books.Settled after upload := by
  cases journal with
  | batch uploads => exact triple_reconcileProviderUploads books outstanding
  | single upload =>
    refine (triple_reconcileProviderUpload books (outstanding upload ?_)).mono ?_
    · exact mem_singleton_self upload
    · rintro - after ⟨right, grows, settled⟩
      refine ⟨right, grows, fun other member => ?_⟩
      rw [mem_singleton.mp member]
      exact settled

omit [Formats] in
theorem triple_dropJournal {journalId : Uuid} {operation : String}
    (settled : ∀ journal, store.journals.get? journalId = some journal →
      ∀ upload ∈ journal.uploads, Books.Settled store upload) :
    Triple allowed (writeFile operation (Store.dropJournal journalId)) store
      (fun _ after => after = store.dropJournal journalId ∧ Books policy admitted clock after)
      (Books policy admitted clock) :=
  triple_act ⟨rfl, books.dropJournal settled⟩ (fun _ => books)
    (fun _ => books.dropJournal settled) fun _ _ => books

/-- After a recovery the books are right and no journal is left. -/
theorem triple_recoverProviderUploadJournals :
    Triple allowed (recoverProviderUploadJournals policy) store
      (fun _ after => Books policy admitted clock after ∧ after.journals = ∅)
      (Books policy admitted clock) := by
  refine triple_checked books ?_
  rintro ⟨strays, entries⟩ read
  obtain ⟨_, -, read⟩ := bind_eq_ok.mp read
  cases read
  -- A staging file among the journals is torn, and then the recovery fails.
  let torn (rest : List (Option UploadJournal)) (_ : Unit) (after : Store) : Prop :=
    Books policy admitted clock after ∧ after.journals = store.journals ∧
      ∀ content ∈ rest, content = none
  have start : torn (strayJournals store) () store :=
    ⟨books, rfl, fun content member => books.torn content (mem_strayJournals.mp member)⟩
  refine triple_bind (.mono (triple_loop ?_ start) ?_)
  · rintro - content rest middle ⟨right, -, broken⟩
    obtain rfl := broken content mem_cons_self
    refine triple_checked right ?_
    exact fun journal read => absurd read nofun
  rintro - swept ⟨right, journals, -⟩
  let invariant (rest : List (Uuid × UploadJournal)) (_ : Unit) (after : Store) : Prop :=
    Books policy admitted clock after ∧
      (∀ journalId journal, after.journals.get? journalId = some journal →
        (journalId, journal) ∈ rest) ∧
      (∀ entry ∈ rest, after.journals.get? entry.1 = some entry.2) ∧ (rest.map Prod.fst).Nodup
  have begin : invariant store.journals.entries () swept := by
    refine ⟨right, ?_, ?_, store.journals.keys_nodup⟩
    · intro journalId journal found
      rw [journals] at found
      exact BTreeMap.get?_eq_some_iff.mp found
    · intro entry member
      rw [journals]
      exact BTreeMap.get?_eq_some_iff.mpr member
  refine .mono (triple_loop ?_ begin) ?_
  · rintro - ⟨journalId, journal⟩ rest middle ⟨right, only, present, distinct⟩
    have found : middle.journals.get? journalId = some journal :=
      present (journalId, journal) mem_cons_self
    refine triple_bind ((triple_reconcileJournal right fun upload member =>
      ⟨journalId, journal, found, member⟩).imp ?_ fun _ stopped => stopped.1)
    rintro - settledStore ⟨right, grows, settled⟩
    refine (triple_dropJournal right ?_).mono ?_
    · intro other also
      rw [grows.journals, found] at also
      exact some.inj also ▸ settled
    · rintro - after ⟨rfl, right⟩
      rw [map_cons, nodup_cons] at distinct
      refine ⟨right, ?_, ?_, distinct.2⟩
      · intro other kept left
        obtain ⟨apart, there⟩ := of_get?_erase left
        rw [grows.journals] at there
        rcases mem_cons.mp (only other kept there) with head | tail
        · exact absurd (Prod.mk.inj head).1 apart
        · exact tail
      · intro entry member
        refine (get?_erase_of_ne fun same => ?_).trans
          (grows.journals ▸ present entry (mem_cons_of_mem _ member))
        have key : entry.1 ∈ rest.map Prod.fst := mem_map_of_mem member
        exact distinct.1 (same ▸ key)
  · rintro - after ⟨right, only, -⟩
    refine ⟨right, ext_get? fun journalId => ?_⟩
    cases found : after.journals.get? journalId with
    | none => rfl
    | some journal => exact absurd (only journalId journal found) not_mem_nil

end

end Covalent.Provider
