import Covalent.Provider.Shelves
import Covalent.Provider.Uploading

/-!
# Recovery and uploads of chunks keep objects attributed

Every upload notes what it is about to store before it stores it, and recovery believes a
journal only as far as the digest of the stored object goes.  When no two objects share a
digest, what recovery hands out is therefore what the journal's upload began with.
-/

namespace Covalent.Provider

open Durable Formats Option List BTreeMap

variable {allowed : Fault → Prop} {store after : Store} {history : History}
  {granted : Grants} {file : LeaseFile} {descriptor : RecoveryCapsuleDescriptor}
  {upload : ProviderUploadJournal} {policy : ProviderQuotaPolicy} {journalId : Uuid}
  {state : ProviderLeaseState} {key : ObjectKey} {installation : Installation} {freeSpace : Nat}
  {locator : Locator} {record : Bytes} {pending : List PendingRecord}

/-! ## Leases -/

section

variable (covers : Covers history granted file)

include covers

/-- A lease may list a chunk that its scope holds. -/
theorem Covers.list {next : LeaseFile} {length : Nat} (scope : next.scope = file.scope)
    (objects : next.state.objects = file.state.objects.insert key length)
    (staged : next.state.stagedCapsuleUpload = file.state.stagedCapsuleUpload)
    (grant : ∀ locator, key = .chunk locator → ∃ bytes, granted file.scope (.chunk locator) bytes) :
    Covers history granted next := by
  refine covers.change scope (fun found present => ⟨found, staged ▸ present, rfl⟩) ?_
  intro locator listed
  rw [objects, get?_insert] at listed
  split_ifs at listed with same
  · exact .inr (grant locator same.symm)
  · exact .inl listed

omit covers in
theorem Covers.marked {serial completedAt : Nat} (covers : Covers history granted ⟨state, serial⟩) :
    Covers history granted ⟨markCommitted state completedAt, serial⟩ := by
  refine covers.similar rfl (fun staged found => ?_) fun _ => rfl
  obtain ⟨earlier, present, rfl⟩ := map_eq_some_iff.mp found
  exact ⟨earlier, present, rfl⟩

theorem Covers.effective (found : effectiveObjectKey upload file.state = .ok (state, key)) :
    Covers history granted { file with state := state } ∧ state.lease = file.state.lease ∧
      ∀ locator, key = .chunk locator → ∃ other, upload.object = .chunk other ∧
        upload.objectKey = .chunk locator := by
  unfold effectiveObjectKey at found
  split at found
  case h_1 object _ =>
    cases found
    exact ⟨covers, rfl, fun other same => ⟨_, object, same⟩⟩
  case h_2 snapshotId descriptor object _ =>
    simp only [bind_eq_ok, exists_unit] at found
    obtain ⟨-, normalized⟩ := found
    obtain ⟨lease, -, -, canonical⟩ := normalizeProviderCapsuleObjectKey_chunks normalized
    refine ⟨covers.normalized normalized, lease, fun locator same => ?_⟩
    rw [canonical] at same
    cases same
  case h_3 => cases found

theorem Covers.counted {bytes : Nat} {created : Bool}
    (grant : ∀ locator, key = .chunk locator → ∃ bytes, granted file.scope (.chunk locator) bytes)
    (counted : countObject file.state key bytes created = .ok state) :
    Covers history granted { file with state := state } := by
  obtain rfl := countObject_eq_ok counted
  exact covers.list rfl rfl rfl grant

theorem Covers.countedAll {deferred : List Locator}
    (grants : ∀ record ∈ pending, granted file.scope (.chunk record.locator) record.record)
    (counted : countRecords file.state pending deferred = .ok state) :
    Covers history granted { file with state := state } := by
  obtain ⟨lease, -, staged, objects, -⟩ := countRecords_eq_ok counted
  refine covers.change (congrArg StorageLease.scope lease)
    (fun found present => ⟨found, staged ▸ present, rfl⟩) ?_
  intro locator listed
  rw [objects, isSome_get?_extendList, List.map_map, List.mem_map] at listed
  rcases listed with ⟨record, member, same⟩ | earlier
  · cases same
    exact .inr ⟨record.record, grants record member⟩
  · exact .inl earlier

theorem Covers.announce {staged : StagedCapsuleUpload}
    (announced : history.announced file.scope staged.upload.descriptor) :
    Covers history granted
      { file with state := { file.state with stagedCapsuleUpload := some staged } } where
  listed := covers.listed
  staged := fun _ present => some.inj present ▸ announced

theorem Covers.commitStaged {state : ProviderLeaseState} {capsule : CapsuleKey} {bytes : Nat}
    {counts created : Bool} {now : Nat}
    (committed : commitStaged file.state (.capsule capsule) bytes counts created now = .ok state) :
    Covers history granted { file with state := state } := by
  obtain ⟨counted, count, same⟩ := bind_eq_ok.mp committed
  obtain rfl := Except.ok.inj same
  have listed : Covers history granted { file with state := counted } := by
    refine covers.counted ?_ count
    exact nofun
  refine listed.similar rfl (fun staged found => ?_) fun _ => rfl
  obtain ⟨earlier, present, rfl⟩ := map_eq_some_iff.mp found
  exact ⟨earlier, present, rfl⟩

end

variable [Formats]

/-! ## Descriptors -/

theorem keeps_ensureRecoveryCapsulePageEntry {feed : PageFeed} {sequence : Nat}
    (describes : Describes granted descriptor) :
    Keeps allowed (Shelf history granted)
      (ensureRecoveryCapsulePageEntry feed sequence descriptor) := by
  refine keeps_checked fun found => ?_
  cases found with
  | some incumbent => exact keeps_check
  | none => exact keeps_writeFile fun _ shelf => shelf.putPage (describes.mono shelf.held)

theorem keeps_persistRecoveryCapsulePageState {feed : PageFeed} {nextSequence maximum : Nat} :
    Keeps allowed (Shelf history granted)
      (persistRecoveryCapsulePageState feed nextSequence maximum) :=
  keeps_checked fun _ => keeps_writeFile fun _ shelf => { shelf with }

theorem keeps_recoveryCapsulePageMarker (describes : Describes granted descriptor) :
    Keeps allowed (Shelf history granted) (recoveryCapsulePageMarker policy descriptor) := by
  refine keeps_checked fun found => ?_
  cases found with
  | some marker => exact keeps_checked fun _ => keeps_pure
  | none =>
    refine keeps_checked fun marker => ?_
    refine keeps_bind (keeps_ensureRecoveryCapsulePageEntry describes) fun _ => ?_
    refine keeps_bind (keeps_ensureRecoveryCapsulePageEntry describes) fun _ => ?_
    exact keeps_bind (keeps_writeFile fun _ shelf => { shelf with }) fun _ => keeps_pure

theorem keeps_persistRecoveryCapsuleDescriptorValue (describes : Describes granted descriptor) :
    Keeps allowed (Shelf history granted)
      (persistRecoveryCapsuleDescriptorValue policy descriptor) := by
  have entries : Keeps allowed (Shelf history granted)
      (ensureRecoveryCapsuleDescriptorPageEntries policy descriptor) := by
    refine keeps_bind (keeps_recoveryCapsulePageMarker describes) fun marker => ?_
    refine keeps_bind (keeps_ensureRecoveryCapsulePageEntry describes) fun _ => ?_
    refine keeps_bind (keeps_ensureRecoveryCapsulePageEntry describes) fun _ => ?_
    refine keeps_checked fun ends => ?_
    refine keeps_join keeps_persistRecoveryCapsulePageState ?_
    exact keeps_ite keeps_persistRecoveryCapsulePageState keeps_pure
  refine keeps_checked fun _ => keeps_checked fun found => ?_
  cases found with
  | some incumbent => exact keeps_checked fun _ => entries
  | none =>
    refine keeps_bind (keeps_writeFile fun _ shelf => ?_) fun _ => entries
    exact shelf.putDescriptor (describes.mono shelf.held)

/-! ## Journals -/

theorem triple_writeJournal_shelf {journal : UploadJournal} (shelf : Shelf history granted store)
    (noted : ∀ upload ∈ journal.uploads, Noted history upload) :
    Triple allowed (writeJournal journalId journal) store
      (fun _ after => after = store.putJournal journalId journal) (Shelf history granted) := by
  refine triple_act rfl (fun _ => shelf) (fun _ => shelf.putJournal noted) fun whole _ => ?_
  refine shelf.strand fun other same => ?_
  cases whole with
  | true =>
    obtain rfl := some.inj (Stray.journal.inj same)
    exact noted
  | false => cases (Stray.journal.inj same)

theorem keeps_completeProviderUploadJournal :
    Keeps allowed (Shelf history granted) (completeProviderUploadJournal journalId) :=
  keeps_writeFile fun _ shelf => shelf.dropJournal journalId

/-- The object of a journal is stored, and it is the one that its upload began with. -/
structure Recovers (history : History) (granted : Grants) (upload : ProviderUploadJournal) :
    Prop where
  holds : ∃ bytes, granted upload.lease.scope upload.place bytes ∧
    bytes.length = upload.recordBytes ∧ digest bytes = upload.recordDigest
  noted : Noted history upload

/-- What a decision leaves to do. -/
def Reconciliation.Covered (history : History) (granted : Grants)
    (upload : ProviderUploadJournal) : Reconciliation → Prop
  | .nothing => True
  | .mark file => Covers history granted file
  | .account file => Covers history granted file ∧ Recovers history granted upload

/-- An upload is made readable for the scope that began it. -/
theorem keeps_publishUpload (recovers : Recovers history granted upload) :
    Keeps allowed (Shelf history granted) (publishUpload policy upload) := by
  obtain ⟨bytes, grant, length, digested⟩ := recovers.holds
  unfold publishUpload
  cases object : upload.object with
  | chunk locator =>
    have place : upload.place = .chunk locator := by
      unfold ProviderUploadJournal.place
      rw [object]
    rw [place] at grant
    have add : ∀ syncParent, Keeps allowed (Shelf history granted)
        (addProviderObjectReference locator upload.recordBytes upload.lease.scope syncParent) :=
      fun _ => keeps_addProviderObjectReference grant
    refine keeps_bind (keeps_attempt (add true)) fun result => ?_
    cases result with
    | ok deferred => exact keeps_pure
    | error problem =>
      refine keeps_checked fun _ => ?_
      refine keeps_bind (keeps_writeFile fun _ shelf => shelf.dropReference locator) fun _ => ?_
      exact keeps_bind (add true) fun _ => keeps_pure
  | recoveryCapsule snapshotId =>
    intro store shelf
    refine triple_checked shelf fun descriptor named => ?_
    simp only [journalDescriptor, bind_eq_ok, exists_unit, okOr_eq_ok, refuse_eq_ok,
      Bool.or_eq_false_iff, bne_eq_false_iff_eq, pure_eq_ok] at named
    obtain ⟨found, present, ⟨⟨⟨total, digest⟩, backup⟩, signer⟩, rfl⟩ := named
    have scope : found.key.scope = upload.lease.scope := by
      show (⟨found.signerDeviceId, found.backupId⟩ : Scope) = _
      rw [signer, backup]
      rfl
    have describes : Describes granted found := by
      refine ⟨bytes, ?_, length.trans total.symm, digested.trans digest.symm⟩
      rw [scope, ← recovers.noted.described found present]
      exact grant
    exact keeps_persistRecoveryCapsuleDescriptorValue describes store shelf

/-! ## Recovery -/

section

variable (recognizes : history.Recognizes)

include recognizes

/-- A stored object with the digest of a journal is the one its upload began with. -/
theorem Noted.recovers (shelf : Shelf history granted store) (noted : Noted history upload)
    (hashed : hashObject store upload.place = some (upload.recordBytes, upload.recordDigest)) :
    Recovers history (store.Holds history) upload := by
  obtain ⟨bytes, began, -, digested⟩ := noted.begun
  obtain ⟨object, present, same⟩ := map_eq_some_iff.mp hashed
  obtain ⟨length, hash⟩ := Prod.mk.inj same
  obtain ⟨scope, stored⟩ := shelf.stored _ object present
  refine ⟨⟨object.bytes, ⟨?_, ?_⟩, length, hash⟩, noted⟩
  · rw [present, map_some]
  · exact recognizes _ _ _ _ _ began stored (hash.trans digested.symm)

/-- Recovery counts and publishes only what an upload began with. -/
theorem reconcileDecision_covered (shelf : Shelf history granted store)
    (noted : Noted history upload) {decision : Reconciliation}
    (decided : reconcileDecision upload store = .ok decision) :
    decision.Covered history (store.Holds history) upload := by
  simp only [reconcileDecision, bind_eq_ok, exists_unit] at decided
  obtain ⟨-, decided⟩ := decided
  cases hashed : hashObject store upload.place with
  | none =>
    rw [hashed] at decided
    cases decided
    trivial
  | some incumbent =>
    rw [hashed] at decided
    simp only [bind_eq_ok, exists_unit, refuse_eq_ok, bne_eq_false_iff_eq, okOr_eq_ok,
      Bool.or_eq_false_iff] at decided
    obtain ⟨rfl, key, -, found, present, ⟨⟨lease, -⟩, -⟩, matching, -, ⟨state, objectKey⟩,
      effective, decided⟩ := decided
    have recovers := noted.recovers recognizes shelf hashed
    obtain ⟨covers, sameLease, chunk⟩ := (shelf.leases key found present).effective effective
    have grant : ∀ locator, objectKey = .chunk locator →
        ∃ bytes, store.Holds history state.lease.scope (.chunk locator) bytes := by
      intro locator same
      obtain ⟨other, object, named⟩ := chunk locator same
      have keyed := noted.chunk other object
      rw [named] at keyed
      have place : upload.place = .chunk locator := by
        unfold ProviderUploadJournal.place
        rw [object]
        exact keyed.symm
      obtain ⟨bytes, holds, -⟩ := recovers.holds
      rw [place, ← lease, ← sameLease] at holds
      exact ⟨bytes, holds⟩
    dsimp only at decided
    cases listed : state.objects.get? objectKey with
    | some recordBytes =>
      simp only [listed, bind_eq_ok, exists_unit] at decided
      obtain ⟨-, decided⟩ := decided
      split_ifs at decided
      · cases decided
        exact covers.marked
      · cases decided
        trivial
    | none =>
      rw [listed] at decided
      cases isNew : upload.expectedNewObject <;> cases matching <;>
        simp only [isNew, Bool.false_and, Bool.true_and, Bool.not_true, Bool.not_false,
          Bool.false_eq_true, if_true, if_false, bind_eq_ok, exists_unit,
          pure_eq_ok, exists_eq_left'] at decided
      · obtain rfl := decided
        exact ⟨covers.list rfl rfl rfl grant, recovers⟩
      · obtain rfl := decided
        exact ⟨.marked (covers.list rfl rfl rfl grant), recovers⟩
      · obtain ⟨-, counted, consumed, rfl⟩ := decided
        obtain rfl := consume_eq_ok consumed
        exact ⟨covers.list rfl rfl rfl grant, recovers⟩
      · obtain ⟨counted, consumed, rfl⟩ := decided
        obtain rfl := consume_eq_ok consumed
        exact ⟨.marked (covers.list rfl rfl rfl grant), recovers⟩

theorem keeps_reconcileProviderUpload (noted : Noted history upload) :
    Keeps allowed (Shelf history granted) (reconcileProviderUpload policy upload) := by
  intro store shelf
  refine triple_checked shelf fun decision decided => ?_
  have covered := reconcileDecision_covered recognizes shelf noted decided
  cases decision with
  | nothing => exact triple_pure shelf
  | mark file => exact triple_rebase shelf (keeps_persistProviderLease covered)
  | account file =>
    refine triple_rebase shelf (keeps_bind (keeps_publishUpload covered.2) fun _ => ?_)
    exact keeps_persistProviderLease covered.1

theorem keeps_reconcileJournal {journal : UploadJournal}
    (noted : ∀ upload ∈ journal.uploads, Noted history upload) :
    Keeps allowed (Shelf history granted) (reconcileJournal policy journal) := by
  cases journal with
  | single upload =>
    exact keeps_reconcileProviderUpload recognizes (noted upload (mem_singleton.mpr rfl))
  | batch uploads =>
    refine keeps_checked fun _ => keeps_loop_of_mem fun upload member _ => ?_
    exact keeps_reconcileProviderUpload recognizes (noted upload member)

/-- Journals, stray ones as well, are finished one by one. -/
theorem keeps_recoverProviderUploadJournals :
    Keeps allowed (Shelf history granted) (recoverProviderUploadJournals policy) := by
  intro store shelf
  refine triple_checked shelf ?_
  rintro ⟨strays, journals⟩ read
  simp only [bind_eq_ok, exists_unit, pure_eq_ok, Prod.mk.injEq] at read
  obtain ⟨-, rfl, rfl⟩ := read
  refine keeps_bind (keeps_loop_of_mem fun content member _ => ?_)
    (fun _ => keeps_loop_of_mem fun entry member _ => ?_) store shelf
  · -- a torn staging file ends the recovery, a whole one is an upload that was begun
    intro now shelved
    refine triple_checked shelved fun journal whole => ?_
    obtain rfl : content = some journal := okOr_eq_ok.mp whole
    have noted := shelf.strays journal (mem_strayJournals.mp member)
    refine keeps_bind (keeps_reconcileJournal recognizes noted) (fun _ => ?_) now shelved
    cases journal with
    | batch uploads => exact keeps_pure
    | single upload =>
      refine keeps_writeFile fun _ shelf => { shelf with strays := ?_ }
      exact fun other listed => shelf.strays other (mem_of_mem_erase listed)
  · have noted := shelf.journals entry.1 entry.2 (get?_eq_some_iff.mpr member)
    refine keeps_bind (keeps_reconcileJournal recognizes noted) fun _ => ?_
    exact keeps_writeFile fun _ shelf => shelf.dropJournal entry.1

theorem keeps_abandonBatch {uploads : List ProviderUploadJournal} {error : CoreError}
    (noted : ∀ upload ∈ (UploadJournal.batch uploads).uploads, Noted history upload) :
    Keeps allowed (Shelf history granted) (abandonBatch policy journalId uploads error) :=
  keeps_bind (keeps_bind (keeps_reconcileJournal recognizes noted) fun _ =>
    keeps_completeProviderUploadJournal) fun _ => keeps_check

end

/-! ## The lease of a call -/

namespace LeaseCall

/-- Who makes a call. -/
def scope (call : LeaseCall) : Scope :=
  ⟨call.peer, call.backup⟩

/-- A call names a lease of its peer and backup that may be used. -/
def Admitted (call : LeaseCall) (store : Store) : Prop :=
  ∃ file, loadActiveProviderLease call.peer call.backup call.lease call.now store = .ok file

end LeaseCall

variable {call : LeaseCall}

/-- What a call knows of the lease that it loads. -/
structure Loaded (call : LeaseCall) (file : LeaseFile) (store : Store) : Prop where
  admitted : call.Admitted store
  lease : call.lease.scope = call.scope
  scope : file.scope = call.scope
  present : ∃ key, store.leases.get? key = some file

omit [Formats] in
theorem loaded_of_eq_ok
    (found : loadActiveProviderLease call.peer call.backup call.lease call.now store = .ok file) :
    Loaded call file store := by
  have admitted : call.Admitted store := ⟨file, found⟩
  simp only [loadActiveProviderLease, bind_eq_ok, exists_unit, refuse_eq_ok, okOr_eq_ok,
    pure_eq_ok, Bool.or_eq_false_iff, bne_eq_false_iff_eq] at found
  obtain ⟨⟨⟨peer, backup⟩, -⟩, key, -, other, present, ⟨-, lease⟩, rfl⟩ := found
  have scope : call.lease.scope = call.scope := by
    unfold StorageLease.scope LeaseCall.scope
    rw [peer, backup]
  refine ⟨admitted, scope, ?_, key, present⟩
  unfold LeaseFile.scope
  rw [lease]
  exact scope

theorem Loaded.covers (loaded : Loaded call file store) (shelf : Shelf history granted store) :
    Covers history (store.Holds history) file :=
  let ⟨key, present⟩ := loaded.present
  shelf.leases key file present

/-- An object that is there already is left as it is. -/
theorem triple_createObject_shelf {bytes : Bytes} {serial : Nat} {operation : String}
    {scope : Scope} (shelf : Shelf history granted store) (began : history.Began scope key bytes) :
    Triple allowed (createObject key bytes serial operation) store
      (fun created after => Shelf history granted after ∧
        (created = true → after.Holds history scope key bytes) ∧
        (created = false → after = store ∧ (store.objects.get? key).isSome))
      (Shelf history granted) := by
  cases found : store.objects.get? key with
  | some object =>
    refine triple_read ?_
    rw [if_pos (containsKey_iff.mpr ⟨object, found⟩)]
    exact triple_pure ⟨shelf, nofun, fun _ => ⟨rfl, rfl⟩⟩
  | none =>
    have stored := @Shelf.putObject _ _ _ _ shelf key ⟨bytes, some serial⟩ _ found began
    have holds : (store.putObject key ⟨bytes, some serial⟩).Holds history scope key bytes := by
      refine ⟨?_, began⟩
      show ((store.objects.insert key ⟨bytes, some serial⟩).get? key).map _ = _
      rw [get?_insert_self]
      rfl
    exact triple_createObject_absent found ⟨stored, fun _ => holds, nofun⟩ shelf stored
      fun stray plain => shelf.strand fun _ same => absurd same (plain _)

/-- One upload writes its journal and creates its object when it is new. -/
theorem shelves_placed {α : Type} {goesOn : Bool → Action α} {upload : ProviderUploadJournal}
    {content : Bytes} {scope : Scope} {serial : Nat} {operation : String}
    (shelf : Shelf history granted store) (noted : Noted history upload)
    (began : history.Began scope key content)
    (absent : upload.expectedNewObject = true → store.objects.get? key = none)
    (stored : upload.expectedNewObject = false →
      (store.objects.get? key).map StoredObject.bytes = some content)
    (rest : ∀ now, Shelf history (store.Holds history) now → now.Holds history scope key content →
      Ends allowed (goesOn upload.expectedNewObject) now (Shelf history granted)) :
    Ends allowed (do
        writeJournal journalId (.single upload)
        if upload.expectedNewObject then createObject key content serial operation >>= goesOn
        else pure false >>= goesOn) store (Shelf history granted) := by
  have journal : ∀ entry ∈ (UploadJournal.single upload).uploads, Noted history entry :=
    fun entry member => mem_singleton.mp member ▸ noted
  refine (triple_writeJournal_shelf shelf journal).andThen ?_
  rintro - _ rfl
  have shelved := @Shelf.putJournal _ _ _ _ shelf.rebase journalId _ journal
  split_ifs with isNew
  · refine triple_bind ((triple_createObject_shelf shelved began).imp ?_
      fun _ kept => kept.narrow shelf.held)
    rintro created now ⟨kept, new, old⟩
    cases created with
    | true => exact isNew ▸ rest now kept (new rfl)
    | false =>
      have present : (store.objects.get? key).isSome := (old rfl).2
      rw [absent isNew] at present
      cases present
  · have flag : upload.expectedNewObject = false := Bool.not_eq_true _ ▸ isNew
    exact triple_bind (triple_pure (flag ▸ rest _ shelved ⟨stored flag, began⟩))

/-! ## One chunk -/

theorem noted_recordJournal
    {expectedNewObject deferred : Bool} (lease : call.lease.scope = call.scope)
    (uploaded : history.uploaded call.scope (.chunk locator) record) :
    Noted history (recordJournal call locator record expectedNewObject deferred) where
  begun := by
    refine ⟨record, .inl ?_, rfl, rfl⟩
    show history.uploaded call.lease.scope (.chunk locator) record
    rw [lease]
    exact uploaded
  chunk := fun other same => by
    cases same
    rfl
  described := nofun

theorem shelves_putProviderRecordLeased (shelf : Shelf history granted store)
    (uploaded : call.Admitted store → history.uploaded call.scope (.chunk locator) record) :
    Ends allowed
      (putProviderRecordLeased installation freeSpace journalId call locator record) store
      (Shelf history granted) := by
  refine triple_checked shelf fun plan planned => ?_
  cases plan with
  | none => exact triple_pure shelf
  | some plan =>
    obtain ⟨file, expectedNewObject⟩ := plan
    obtain ⟨found, -, absent, stored⟩ := planRecord_eq_some planned
    have loaded := loaded_of_eq_ok found
    have handed := uploaded loaded.admitted
    have began : history.Began call.scope (.chunk locator) record := .inl handed
    refine @shelves_placed _ _ _ _ _ _ _ _ _ (recordJournal call locator record
      expectedNewObject false) record _ _ _ shelf (noted_recordJournal loaded.lease handed) began
      (fun isNew => (absent isNew).1) stored fun now shelved holds => ?_
    have covers : Covers history (now.Holds history) file := (loaded.covers shelf).mono shelved.held
    refine triple_rebase (shelved.narrow shelf.held) ?_
    refine keeps_bind (keeps_addProviderObjectReference holds) fun _ => ?_
    intro later kept
    refine triple_checked kept fun state counted => ?_
    refine keeps_bind (keeps_persistProviderLease (covers.counted ?_ counted)) (fun _ =>
      keeps_bind keeps_completeProviderUploadJournal fun _ => keeps_pure) later kept
    intro other same
    cases same
    rw [loaded.scope]
    exact ⟨record, holds⟩

/-! ## A batch of chunks -/

/-- A record of a batch is stored as it was handed in. -/
abbrev Written (history : History) (scope : Scope) (record : PendingRecord) (store : Store) :
    Prop :=
  store.Holds history scope (.chunk record.locator) record.record

theorem triple_writeRecord_shelf {record : PendingRecord} {scope : Scope} {serial : Nat}
    (shelf : Shelf history granted store)
    (began : history.Began scope (.chunk record.locator) record.record)
    (known : record.expectedNewObject = false → Written history scope record store) :
    Triple allowed (writeRecord serial record) store
      (fun _ after => Shelf history granted after ∧ Written history scope record after)
      (Shelf history granted) := by
  unfold writeRecord
  split_ifs with isNew
  · refine (triple_createObject_shelf shelf began).andThen ?_
    rintro created now ⟨kept, new, old⟩
    cases created with
    | true => exact triple_check (fun _ _ => ⟨kept, new rfl⟩) fun _ _ => kept
    | false =>
      obtain ⟨rfl, present⟩ := old rfl
      refine triple_check (fun _ agrees => ⟨kept, ?_, began⟩) fun _ _ => kept
      obtain ⟨object, found⟩ := isSome_iff_exists.mp present
      rw [refuse_eq_ok, Bool.not_false, Bool.true_and, storedOtherwise, found, any_some,
        bne_eq_false_iff_eq] at agrees
      exact stored_of_eq_some found agrees
  · exact triple_pure ⟨shelf, known (by simpa using isNew)⟩

theorem triple_writeRecords_shelf {pending : List PendingRecord} {scope : Scope} {serial : Nat}
    (shelf : Shelf history granted store)
    (began : ∀ record ∈ pending, history.Began scope (.chunk record.locator) record.record)
    (known : ∀ record ∈ pending, record.expectedNewObject = false →
      granted scope (.chunk record.locator) record.record) :
    Triple allowed (forEachRecord (writeRecord serial) pending) store
      (fun result after => Shelf history granted after ∧
        (result.2 = none → ∀ record ∈ pending, Written history scope record after))
      (Shelf history granted) := by
  let invariant (rest : List PendingRecord)
      (result : List (PendingRecord × Unit) × Option CoreError)
      (now : Store) : Prop :=
    Shelf history granted now ∧ (∀ record ∈ rest, record ∈ pending) ∧
      (result.2 = none → ∀ record ∈ pending, record ∈ rest ∨ Written history scope record now)
  have start : invariant pending ([], none) store :=
    ⟨shelf, fun _ member => member, fun _ _ member => .inl member⟩
  refine .imp (@triple_loop _ _ _ _ allowed _ (Shelf history granted) _ invariant ?_ _ _ start)
    (fun result after kept => ⟨kept.1, fun fine record member =>
      (kept.2.2 fine record member).resolve_left not_mem_nil⟩) fun _ kept => kept
  rintro ⟨results, failure⟩ record rest now ⟨kept, among, written⟩
  have member : record ∈ pending := among record mem_cons_self
  have step := @triple_writeRecord_shelf allowed now history _ _ record scope serial kept.rebase
    (began record member) fun isOld => kept.held _ _ _ (known record member isOld)
  refine triple_bind (triple_attempt (step.imp ?_ fun after kept' =>
    ⟨kept'.narrow kept.held, fun error => ?_⟩))
  · rintro value after ⟨shelved, done⟩
    refine triple_pure ⟨shelved.narrow kept.held,
      fun other later => among other (mem_cons_of_mem _ later), fun fine other listed => ?_⟩
    rcases written fine other listed with later | earlier
    · rcases mem_cons.mp later with rfl | later
      · exact .inr done
      · exact .inl later
    · exact .inr (shelved.held _ _ _ earlier)
  · refine triple_pure ⟨kept'.narrow kept.held,
      fun other later => among other (mem_cons_of_mem _ later), fun fine => ?_⟩
    cases failure with
    | none => cases fine
    | some problem => cases fine

theorem keeps_referenceRecords
    (grants : ∀ record ∈ pending, granted call.scope (.chunk record.locator) record.record) :
    Keeps allowed (Shelf history granted) (forEachRecord (referenceRecord call) pending) := by
  refine keeps_loop_of_mem fun record member result => ?_
  obtain ⟨results, failure⟩ := result
  refine keeps_bind (keeps_attempt (keeps_addProviderObjectReference (grants record member)))
    fun outcome => ?_
  cases outcome with
  | ok deferred => exact keeps_pure
  | error problem => exact keeps_pure

/-- A batch is shelved record by record, and referenced afterwards. -/
theorem shelves_putProviderRecordsLeased {records : List (Locator × Bytes)}
    (recognizes : history.Recognizes)
    (shelf : Shelf history granted store)
    (uploaded : call.Admitted store → ∀ entry ∈ records,
      history.uploaded call.scope (.chunk entry.1) entry.2) :
    Ends allowed (putProviderRecordsLeased installation freeSpace journalId call records) store
      (Shelf history granted) := by
  refine triple_checked shelf ?_
  rintro ⟨file, pending⟩ planned
  simp only [planRecords, bind_eq_ok, exists_unit, refuse_eq_ok, pure_eq_ok,
    Prod.mk.injEq] at planned
  obtain ⟨-, -, -, -, loadedFile, found, classified, sorted, -, -, rfl, rfl⟩ := planned
  have loaded := loaded_of_eq_ok found
  have stored := fun record member => ((classifyRecords_eq_ok sorted).1 record member).2
  have handed : ∀ record ∈ classified,
      history.uploaded call.scope (.chunk record.locator) record.record := fun record member =>
    uploaded loaded.admitted _ (stored record member).1
  have began : ∀ record ∈ classified,
      history.Began call.scope (.chunk record.locator) record.record := fun record member =>
    Or.inl (handed record member)
  have journal : ∀ entry ∈ (UploadJournal.batch (classified.map (·.journal call))).uploads,
      Noted history entry := by
    intro entry member
    obtain ⟨record, listed, rfl⟩ := mem_map.mp member
    exact noted_recordJournal loaded.lease (handed record listed)
  dsimp only
  split_ifs
  · exact triple_pure shelf
  unfold storeRecords
  refine (triple_writeJournal_shelf shelf journal).andThen ?_
  rintro - _ rfl
  have shelved := @Shelf.putJournal _ _ _ _ shelf.rebase journalId _ journal
  have write := @triple_writeRecords_shelf allowed _ history _ _ classified call.scope
    loadedFile.serial shelved began fun record member isOld =>
      ⟨(stored record member).2 isOld, began record member⟩
  refine triple_bind (write.imp ?_ fun _ kept => kept.narrow shelf.held)
  rintro ⟨results, failure⟩ now ⟨kept, written⟩
  cases failure with
  | some error =>
    exact keeps_abandonBatch recognizes journal now (kept.narrow shelf.held)
  | none =>
    have grants : ∀ record ∈ classified,
        now.Holds history call.scope (.chunk record.locator) record.record := written rfl
    have covers : Covers history (now.Holds history) loadedFile :=
      (loaded.covers shelf).mono kept.held
    refine triple_rebase (kept.narrow shelf.held) ?_
    refine keeps_bind (keeps_referenceRecords grants) fun outcome => ?_
    obtain ⟨referenced, failure⟩ := outcome
    cases failure with
    | some error =>
      exact keeps_abandonBatch recognizes journal
    | none =>
      intro later kept
      refine triple_checked kept fun state counted => ?_
      refine keeps_bind (keeps_persistProviderLease (covers.countedAll ?_ counted)) (fun _ =>
        keeps_bind keeps_completeProviderUploadJournal fun _ => keeps_pure) later kept
      intro record member
      rw [loaded.scope]
      exact grants record member

end Covalent.Provider
