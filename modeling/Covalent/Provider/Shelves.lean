import Covalent.Provider.Compaction
import Covalent.Provider.Reads

/-!
# Whose objects are stored

Chunks are shared between peers, so who may read one stands in a file of its own, which
uploads, recovery and compaction write.  This module attributes what is stored to the
uploads that were begun: every owner of a chunk, every descriptor and every journal goes
back to an upload by that owner, of the bytes that are stored.

## Design notes

**Grants.**  Objects are never removed or replaced, so what a scope holds it holds for
good.  A program that was handed a lease some writes ago may therefore rely on what the
lease listed then: `granted` collects what was held at that moment, and `Shelf.rebase`
moves the moment.
-/

namespace Covalent.Provider

open Durable BTreeMap Option

variable {allowed : Fault → Prop} {store after : Store}

/-! ## Attribution -/

/-- What peers handed in: objects at once, descriptors of capsules that arrive in
segments, and segments. -/
structure History where
  uploaded : Scope → ObjectKey → Bytes → Prop
  announced : Scope → RecoveryCapsuleDescriptor → Prop
  handed : Scope → Bytes → Prop

/-- What scopes hold. -/
abbrev Grants := Scope → ObjectKey → Bytes → Prop

section Attribution

variable {history : History} {granted wider : Grants} {file : LeaseFile} {next : ProviderLeaseState}
  {descriptor : RecoveryCapsuleDescriptor}

/-- A lease lists what its scope holds, and its staged upload was announced. -/
structure Covers (history : History) (granted : Grants) (file : LeaseFile) : Prop where
  listed : ∀ locator length, file.state.objects.get? (.chunk locator) = some length →
    ∃ bytes, granted file.scope (.chunk locator) bytes
  staged : ∀ staged, file.state.stagedCapsuleUpload = some staged →
    history.announced file.scope staged.upload.descriptor

/-- Renaming the key of a capsule leaves the chunks of a lease alone. -/
theorem normalizeProviderCapsuleObjectKey_chunks {state : ProviderLeaseState} {key : ObjectKey}
    (normalized : normalizeProviderCapsuleObjectKey state descriptor = .ok (next, key)) :
    next.lease = state.lease ∧ next.stagedCapsuleUpload = state.stagedCapsuleUpload ∧
      (∀ locator, next.objects.get? (.chunk locator) = state.objects.get? (.chunk locator)) ∧
      key = providerCapsuleObjectKey ⟨state.lease.peerDeviceId, descriptor.backupId⟩
        descriptor.snapshotId := by
  unfold normalizeProviderCapsuleObjectKey at normalized
  dsimp only at normalized
  split at normalized
  case h_1 =>
    split_ifs at normalized
    · cases normalized
      refine ⟨rfl, rfl, fun locator => ?_, rfl⟩
      show (state.objects.erase _).get? _ = _
      rw [get?_erase, if_neg (by simp)]
  case h_2 =>
    cases normalized
    refine ⟨rfl, rfl, fun locator => ?_, rfl⟩
    show ((state.objects.erase _).insert _ _).get? _ = _
    rw [get?_insert_of_ne _ _ (by simp [providerCapsuleObjectKey]), get?_erase, if_neg (by simp)]
  case h_3 =>
    cases normalized
    exact ⟨rfl, rfl, fun _ => rfl, rfl⟩

section

variable (covers : Covers history granted file)

include covers

/-- More may be granted. -/
theorem Covers.mono (wide : ∀ scope key bytes, granted scope key bytes → wider scope key bytes) :
    Covers history wider file where
  listed := fun locator length listed =>
    let ⟨bytes, grant⟩ := covers.listed locator length listed
    ⟨bytes, wide _ _ _ grant⟩
  staged := covers.staged

section

variable {next : LeaseFile} (scope : next.scope = file.scope)
  (staged : ∀ staged, next.state.stagedCapsuleUpload = some staged →
    ∃ earlier, file.state.stagedCapsuleUpload = some earlier ∧
      earlier.upload.descriptor = staged.upload.descriptor)

include scope staged

/-- A lease of the same scope with no other staged upload, and no chunk its scope does not
hold. -/
theorem Covers.change (chunks : ∀ locator, (next.state.objects.get? (.chunk locator)).isSome →
      (file.state.objects.get? (.chunk locator)).isSome ∨
        ∃ bytes, granted file.scope (.chunk locator) bytes) : Covers history granted next where
  listed := by
    intro locator length listed
    rw [scope]
    obtain earlier | grant := chunks locator (isSome_of_eq_some listed)
    · obtain ⟨length, earlier⟩ := isSome_iff_exists.mp earlier
      exact covers.listed locator length earlier
    · exact grant
  staged := by
    intro upload found
    obtain ⟨earlier, present, same⟩ := staged upload found
    rw [scope, ← same]
    exact covers.staged earlier present

theorem Covers.similar (chunks : ∀ locator, next.state.objects.get? (.chunk locator) =
      file.state.objects.get? (.chunk locator)) : Covers history granted next :=
  covers.change scope staged fun locator listed => .inl (chunks locator ▸ listed)

end

/-- A staged upload may be forgotten. -/
theorem Covers.unstage : Covers history granted
      { file with state := { file.state with stagedCapsuleUpload := none } } :=
  covers.similar rfl nofun fun _ => rfl

/-- A lease may rename the key of a capsule. -/
theorem Covers.normalized {key : ObjectKey}
    (normalized : normalizeProviderCapsuleObjectKey file.state descriptor = .ok (next, key)) :
    Covers history granted { file with state := next } := by
  obtain ⟨lease, staged, chunks, -⟩ := normalizeProviderCapsuleObjectKey_chunks normalized
  refine covers.similar ?_ (fun found present => ⟨found, ?_, rfl⟩) chunks
  · show next.lease.scope = file.state.lease.scope
    rw [lease]
  · rw [← staged]
    exact present

end

variable [Formats]

open Formats

/-- A scope began to upload an object: at once, or it announced the object and handed in
its segments. -/
def History.Began (history : History) (scope : Scope) (key : ObjectKey) (bytes : Bytes) : Prop :=
  history.uploaded scope key bytes ∨
    ∃ (descriptor : RecoveryCapsuleDescriptor) (segments : List Bytes),
      history.announced scope descriptor ∧
      key = .capsule descriptor.key ∧ descriptor.key.scope = scope ∧
      (∀ segment ∈ segments, history.handed scope segment) ∧ segments.flatten = bytes ∧
      bytes.length = descriptor.totalBytes ∧ digest bytes = descriptor.capsuleDigest

/-- An object is among others that a scope began to upload. -/
structure HeldIn (objects : BTreeMap ObjectKey StoredObject) (history : History) (scope : Scope)
    (key : ObjectKey) (bytes : Bytes) : Prop where
  stored : (objects.get? key).map StoredObject.bytes = some bytes
  began : history.Began scope key bytes

/-- An object is stored that a scope began to upload. -/
abbrev Store.Holds (store : Store) (history : History) : Grants :=
  HeldIn store.objects history

/-- No two objects that were begun share a digest. -/
def History.CollisionFree (history : History) : Prop :=
  ∀ scope key bytes otherScope otherKey otherBytes, history.Began scope key bytes →
    history.Began otherScope otherKey otherBytes → digest bytes = digest otherBytes →
    bytes = otherBytes

/-- Whoever began an object began every other one with its digest that was begun at its place. -/
def History.Recognizes (history : History) : Prop :=
  ∀ scope key bytes otherScope other, history.Began scope key bytes →
    history.Began otherScope key other → digest other = digest bytes → history.Began scope key other

/-- Objects with one digest are one object. -/
theorem History.CollisionFree.recognizes {history : History} (free : history.CollisionFree) :
    history.Recognizes := by
  intro scope key bytes otherScope other began stored same
  rw [free _ _ _ _ _ _ stored began same]
  exact began

/-- A descriptor is about a capsule that its owner holds. -/
def Describes (granted : Grants) (descriptor : RecoveryCapsuleDescriptor) : Prop :=
  ∃ bytes, granted descriptor.key.scope (.capsule descriptor.key) bytes ∧
    bytes.length = descriptor.totalBytes ∧ digest bytes = descriptor.capsuleDigest

/-- A journal is about an upload that was begun. -/
structure Noted (history : History) (upload : ProviderUploadJournal) : Prop where
  begun : ∃ bytes, history.Began upload.lease.scope upload.place bytes ∧
    bytes.length = upload.recordBytes ∧ digest bytes = upload.recordDigest
  chunk : ∀ locator, upload.object = .chunk locator → upload.objectKey = .chunk locator
  described : ∀ descriptor, upload.recoveryCapsuleDescriptor = some descriptor →
    upload.place = .capsule descriptor.key

/-- Everything in the store goes back to uploads of those who may read it. -/
structure Shelf (history : History) (granted : Grants) (store : Store) : Prop where
  held : ∀ scope key bytes, granted scope key bytes → store.Holds history scope key bytes
  stored : ∀ key object, store.objects.get? key = some object →
    ∃ scope, history.Began scope key object.bytes
  references : ∀ locator reference durable scope,
    store.references.get? locator = some (.intact reference durable) →
    reference.owners.get? scope = some () →
      ∃ bytes, store.Holds history scope (.chunk locator) bytes
  leases : ∀ key file, store.leases.get? key = some file → Covers history (store.Holds history) file
  descriptors : ∀ key descriptor, store.descriptors.get? key = some descriptor →
    descriptor.key = key ∧ Describes (store.Holds history) descriptor
  pages : ∀ slot descriptor, store.pages.get? slot = some descriptor →
    Describes (store.Holds history) descriptor
  journals : ∀ journalId journal, store.journals.get? journalId = some journal →
    ∀ upload ∈ journal.uploads, Noted history upload
  strays : ∀ journal, Stray.journal (some journal) ∈ store.strays →
    ∀ upload ∈ journal.uploads, Noted history upload
  segments : ∀ key directory segments index segment, store.staging.get? key = some directory →
    directory.segments = some segments → segments.get? index = some segment →
    history.handed key.scope segment

variable {upload : ProviderUploadJournal} {change : Store → Store} {locator : Locator}
  {uploadId : String} {created : Bool} {completedAt : Nat} {ledger : ProviderLeaseLedger}

theorem Describes.mono (describes : Describes granted descriptor)
    (wide : ∀ scope key bytes, granted scope key bytes → wider scope key bytes) :
    Describes wider descriptor := by
  obtain ⟨bytes, grant, length, digest⟩ := describes
  exact ⟨bytes, wide _ _ _ grant, length, digest⟩

namespace Shelf

section

variable (shelf : Shelf history granted store)

include shelf

/-- From now on, what is held now may be relied on. -/
theorem rebase : Shelf history (store.Holds history) store :=
  { shelf with held := fun _ _ _ holds => holds }

/-- Less may be granted. -/
theorem narrow {narrower : Grants}
    (narrow : ∀ scope key bytes, narrower scope key bytes → granted scope key bytes) :
    Shelf history narrower store :=
  { shelf with
    held := fun scope key bytes grant => shelf.held _ _ _ (narrow scope key bytes grant) }

/-! ## Single writes -/

/-- A lease may list what is held. -/
theorem putLease (covers : Covers history (store.Holds history) file) :
    Shelf history granted (store.putLease file) :=
  { shelf with
    leases := by
      intro key other found
      rcases of_get?_insert found with ⟨-, rfl⟩ | ⟨-, looked⟩
      · exact covers
      · exact shelf.leases key other looked }

theorem dropLease (dropped : LeaseKey) : Shelf history granted (store.dropLease dropped) :=
  { shelf with
    leases := by
      intro key other found
      exact shelf.leases key other (of_get?_erase found).2 }

theorem putJournal {journalId : Uuid} {journal : UploadJournal}
    (noted : ∀ upload ∈ journal.uploads, Noted history upload) :
    Shelf history granted (store.putJournal journalId journal) :=
  { shelf with
    journals := by
      intro other incumbent found
      rcases of_get?_insert found with ⟨-, rfl⟩ | ⟨-, looked⟩
      · exact noted
      · exact shelf.journals other incumbent looked }

theorem dropJournal (journalId : Uuid) : Shelf history granted (store.dropJournal journalId) :=
  { shelf with
    journals := by
      intro other incumbent found
      exact shelf.journals other incumbent (of_get?_erase found).2 }

/-- A reference may name those who hold the chunk. -/
theorem putReference {locator : Locator} {reference : ProviderObjectReference} {durable : Bool}
    (owned : ∀ scope, reference.owners.get? scope = some () →
      ∃ bytes, store.Holds history scope (.chunk locator) bytes) :
    Shelf history granted (store.putReference locator (.intact reference durable)) :=
  { shelf with
    references := by
      intro other incumbent synced scope found owner
      rcases of_get?_insert found with ⟨rfl, same⟩ | ⟨-, looked⟩
      · cases same
        exact owned scope owner
      · exact shelf.references other incumbent synced scope looked owner }

/-- A torn reference names no owner. -/
theorem tearReference (locator : Locator) :
    Shelf history granted (store.putReference locator .torn) :=
  { shelf with
    references := by
      intro other incumbent synced scope found owner
      rcases of_get?_insert found with ⟨-, same⟩ | ⟨-, looked⟩
      · cases same
      · exact shelf.references other incumbent synced scope looked owner }

theorem dropReference (locator : Locator) : Shelf history granted (store.dropReference locator) :=
  { shelf with
    references := by
      intro other incumbent synced scope found owner
      exact shelf.references other incumbent synced scope (of_get?_erase found).2 owner }

theorem syncReference (locator : Locator) :
    Shelf history granted (Covalent.Provider.syncReference locator store) := by
  unfold Covalent.Provider.syncReference
  split
  case h_1 reference durable found =>
    exact shelf.putReference fun scope owner =>
      shelf.references locator reference durable scope found owner
  case h_2 => exact shelf

/-- A staging directory gets only segments that its scope handed in. -/
theorem changeStaging {key : LeaseKey} {change : StagingDirectory → StagingDirectory}
    (fewer : ∀ directory segments index segment, (change directory).segments = some segments →
      segments.get? index = some segment →
      history.handed key.scope segment ∨ ∃ earlier, directory.segments = some earlier ∧
        earlier.get? index = some segment) :
    Shelf history granted (store.changeStaging key change) :=
  { shelf with
    segments := by
      intro other directory segments index segment found open_ listed
      rcases of_get?_insert found with ⟨rfl, rfl⟩ | ⟨-, looked⟩
      · rcases fewer _ segments index segment open_ listed with handed | ⟨earlier, was, had⟩
        · exact handed
        · cases present : store.staging.get? other with
          | none =>
            rw [present] at was
            cases was
          | some directory =>
            rw [present] at was
            exact shelf.segments other directory earlier index segment present was had
      · exact shelf.segments other directory segments index segment looked open_ listed }

theorem dropStaging (key : LeaseKey) : Shelf history granted (store.dropStaging key) :=
  { shelf with
    segments := by
      intro other directory segments index segment found
      exact shelf.segments other directory segments index segment (of_get?_erase found).2 }

/-- A stray journal is of uploads that were begun. -/
theorem strand {stray : Stray} (noted : ∀ journal, stray = .journal (some journal) →
      ∀ upload ∈ journal.uploads, Noted history upload) :
    Shelf history granted (store.strand stray) :=
  { shelf with
    strays := by
      intro journal member
      rcases List.mem_append.mp member with earlier | last
      · exact shelf.strays journal earlier
      · exact noted journal (List.mem_singleton.mp last).symm }

theorem putDescriptor (describes : Describes (store.Holds history) descriptor) :
    Shelf history granted (store.putDescriptor descriptor) :=
  { shelf with
    descriptors := by
      intro key other found
      rcases of_get?_insert found with ⟨same, rfl⟩ | ⟨-, looked⟩
      · exact ⟨same.symm, describes⟩
      · exact shelf.descriptors key other looked }

theorem putPage {slot : PageSlot} (describes : Describes (store.Holds history) descriptor) :
    Shelf history granted (store.putPage slot descriptor) :=
  { shelf with
    pages := by
      intro other incumbent found
      rcases of_get?_insert found with ⟨-, rfl⟩ | ⟨-, looked⟩
      · exact describes
      · exact shelf.pages other incumbent looked }

/-- A new object replaces nothing, so what was held is held still. -/
theorem putObject {key : ObjectKey} {object : StoredObject} {scope : Scope}
    (absent : store.objects.get? key = none) (began : history.Began scope key object.bytes) :
    Shelf history granted (store.putObject key object) := by
  have kept : ∀ scope other bytes, store.Holds history scope other bytes →
      (store.putObject key object).Holds history scope other bytes := by
    intro scope other bytes holds
    refine ⟨?_, holds.began⟩
    have apart : other ≠ key := by
      rintro rfl
      have stored := holds.stored
      rw [absent] at stored
      cases stored
    show ((store.objects.insert key object).get? other).map _ = _
    rw [get?_insert_of_ne _ _ apart]
    exact holds.stored
  exact
    { held := fun scope other bytes grant => kept _ _ _ (shelf.held scope other bytes grant)
      stored := by
        intro other found present
        rcases of_get?_insert present with ⟨same, rfl⟩ | ⟨-, looked⟩
        · exact ⟨scope, same ▸ began⟩
        · exact shelf.stored other found looked
      references := fun locator reference durable scope found owner =>
        let ⟨bytes, holds⟩ := shelf.references locator reference durable scope found owner
        ⟨bytes, kept _ _ _ holds⟩
      leases := fun key file found => (shelf.leases key file found).mono kept
      descriptors := fun key descriptor found =>
        ⟨(shelf.descriptors key descriptor found).1,
          (shelf.descriptors key descriptor found).2.mono kept⟩
      pages := fun slot descriptor found => (shelf.pages slot descriptor found).mono kept
      journals := shelf.journals
      strays := shelf.strays
      segments := shelf.segments }

end

end Shelf

/-! ## Programs -/

variable {operation : String} {α : Type} {policy : ProviderQuotaPolicy} {lease : StorageLease}
  {key : LeaseKey} {now freeSpace : Nat}

/-- A write that is cut off leaves the old file or the new one. -/
theorem keeps_writeFile
    (kept : ∀ store, Shelf history granted store → Shelf history granted (change store)) :
    Keeps allowed (Shelf history granted) (writeFile operation change) :=
  keeps_act kept fun _ _ _ shelf => shelf

/-- A write may leave its staging file behind, which is no journal here. -/
theorem keeps_writeListed {stray : Stray} (plain : ∀ content, stray ≠ .journal content)
    (kept : ∀ store, Shelf history granted store → Shelf history granted (change store)) :
    Keeps allowed (Shelf history granted) (writeListed operation stray change) :=
  keeps_act kept fun _ _ _ shelf => shelf.strand fun _ same => absurd same (plain _)

theorem keeps_persistProviderLease (covers : Covers history granted file) :
    Keeps allowed (Shelf history granted) (persistProviderLease file) :=
  keeps_writeListed nofun fun _ shelf => shelf.putLease (covers.mono shelf.held)

/-- A program may rely on what is held when it starts. -/
theorem triple_rebase {program : Action α} (shelf : Shelf history granted store)
    (keeps : Keeps allowed (Shelf history (store.Holds history)) program) :
    Ends allowed program store (Shelf history granted) :=
  (keeps store shelf.rebase).imp (fun _ _ kept => kept.narrow shelf.held)
    fun _ kept => kept.narrow shelf.held

/-! ### References -/

/-- An owner is added only for a chunk that it holds. -/
theorem keeps_addProviderObjectReference {recordBytes : Nat} {owner : Scope}
    {syncParent : Bool} {bytes : Bytes} (grant : granted owner (.chunk locator) bytes) :
    Keeps allowed (Shelf history granted)
      (addProviderObjectReference locator recordBytes owner syncParent) := by
  intro store shelf
  refine triple_checked shelf ?_
  rintro ⟨reference, absent⟩ read
  have owned : ∀ scope, reference.owners.get? scope = some () →
      ∃ bytes, store.Holds history scope (.chunk locator) bytes := by
    intro scope owner
    unfold readProviderObjectReference at read
    split at read
    case h_1 =>
      cases read
      cases owner
    case h_2 => cases read
    case h_3 incumbent durable found =>
      simp only [bind_eq_ok, exists_unit, pure_eq_ok, Prod.mk.injEq] at read
      obtain ⟨-, rfl, -⟩ := read
      exact shelf.references locator incumbent durable scope found owner
  have next : ∀ durable, Shelf history granted (store.putReference locator
      (.intact { reference with owners := reference.owners.insert owner () } durable)) := by
    intro durable
    refine shelf.putReference fun scope owns => ?_
    rcases of_get?_insert owns with ⟨rfl, -⟩ | ⟨-, before⟩
    · exact ⟨bytes, shelf.held _ _ _ grant⟩
    · exact owned scope before
  have write : ∀ operation durable result, Triple allowed (do
      writeFile operation (.putReference locator
        (.intact { reference with owners := reference.owners.insert owner () } durable))
      pure result) store (fun (_ : Bool) => Shelf history granted) (Shelf history granted) :=
    fun operation durable result => triple_bind (triple_act (triple_pure (next durable))
      (fun _ => shelf) (fun _ => next durable) fun _ _ => shelf)
  dsimp only
  split_ifs
  · exact triple_pure shelf
  · exact write _ true false
  · exact write _ false true

/-- A torn reference is begun again, with the one owner that is at hand. -/
theorem keeps_ensureReferenceDurable (covers : Covers history granted file) :
    Keeps allowed (Shelf history granted) (ensureReferenceDurable file locator) := by
  intro store shelf
  refine triple_checked shelf fun recordBytes read => ?_
  have listed : file.state.objects.get? (.chunk locator) = some recordBytes := okOr_eq_ok.mp read
  obtain ⟨bytes, grant⟩ := covers.listed locator recordBytes listed
  have synced : Keeps allowed (Shelf history granted)
      (writeFile "sync deferred provider reference" (syncReference locator)) :=
    keeps_writeFile fun _ shelf => shelf.syncReference locator
  refine keeps_bind (keeps_attempt (keeps_addProviderObjectReference grant)) (fun result => ?_)
    store shelf
  cases result with
  | ok deferred => exact synced
  | error problem =>
    refine keeps_checked fun _ => ?_
    refine keeps_bind (keeps_writeFile fun _ shelf => shelf.dropReference locator) fun _ => ?_
    refine keeps_bind (keeps_addProviderObjectReference grant) fun _ => ?_
    exact synced

/-- A program keeps the shelf and returns a lease that lists what is held. -/
def Returns (allowed : Fault → Prop) (history : History) (granted : Grants)
    (program : Action LeaseFile) : Prop :=
  ∀ store, Shelf history granted store → Triple allowed program store
      (fun file after => Shelf history granted after ∧ Covers history granted file)
      (Shelf history granted)

/-- The next program may rely on the lease. -/
theorem Returns.bind {program : Action LeaseFile} {next : LeaseFile → Action α}
    (returns : Returns allowed history granted program)
    (keeps : ∀ file, Covers history granted file →
      Keeps allowed (Shelf history granted) (next file)) :
    Keeps allowed (Shelf history granted) (program >>= next) := fun store shelf =>
  (returns store shelf).andThen fun file after both => keeps file both.2 after both.1

theorem returns_of_keeps {program : Action Unit} (covers : Covers history granted file)
    (keeps : Keeps allowed (Shelf history granted) program) :
    Returns allowed history granted (do program; pure file) := fun store shelf =>
  (keeps store shelf).andThen fun _ _ kept => triple_pure ⟨kept, covers⟩

/-- Deferred references are synced one by one, and then the lease is written. -/
theorem returns_ensureProviderLeaseReferencesDurable (covers : Covers history granted file) :
    Returns allowed history granted (ensureProviderLeaseReferencesDurable file) := by
  have references : Keeps allowed (Shelf history granted)
      (loop (fun _ locator => ensureReferenceDurable file locator) ()
        file.state.deferredReferenceSync.keys) :=
    keeps_loop fun _ _ => keeps_ensureReferenceDurable covers
  have synced : Covers history granted
      { file with state := { file.state with deferredReferenceSync := ∅ } } :=
    covers.similar rfl (fun staged found => ⟨staged, found, rfl⟩) fun _ => rfl
  intro store shelf
  refine (references store shelf).andThen ?_
  intro _ referenced kept
  dsimp only
  split_ifs
  · exact triple_pure ⟨kept, covers⟩
  · exact returns_of_keeps synced (keeps_persistProviderLease synced) referenced kept

/-! ### Receipts and staging directories -/

/-- A receipt attributes nothing. -/
theorem keeps_persistProviderUploadReceipt : Keeps allowed (Shelf history granted)
      (persistProviderUploadReceipt policy lease uploadId created completedAt) := by
  refine keeps_checked fun missing => keeps_ite ?_ keeps_pure
  exact keeps_writeListed nofun fun _ shelf => { shelf with }

theorem keeps_changeStaging {change : StagingDirectory → StagingDirectory}
    (fewer : ∀ directory segments index segment, (change directory).segments = some segments →
      segments.get? index = some segment →
      ∃ earlier, directory.segments = some earlier ∧ earlier.get? index = some segment) :
    Keeps allowed (Shelf history granted) (writeFile operation (Store.changeStaging key change)) :=
  keeps_writeFile fun _ shelf => shelf.changeStaging fun directory segments index segment open_
    listed => .inr (fewer directory segments index segment open_ listed)

/-- A change of a staging directory that is not about its segments. -/
theorem keeps_changeStaging_same {change : StagingDirectory → StagingDirectory}
    (same : ∀ directory, (change directory).segments = directory.segments) :
    Keeps allowed (Shelf history granted) (writeFile operation (Store.changeStaging key change)) :=
  keeps_changeStaging fun directory segments _ _ opened listed =>
    ⟨segments, (same directory).symm.trans opened, listed⟩

/-- A new directory has no segments; an old one keeps its own. -/
theorem keeps_ensureRecoveryCapsuleUploadDirectory {requested : RecoveryCapsuleUpload} :
    Keeps allowed (Shelf history granted) (ensureRecoveryCapsuleUploadDirectory requested) := by
  refine keeps_bind (keeps_changeStaging_same fun _ => rfl) fun _ => ?_
  refine keeps_bind (keeps_changeStaging ?_) fun _ => ?_
  · intro directory segments index segment opened listed
    cases opened
    cases present : directory.segments with
    | none =>
      rw [present] at listed
      cases listed
    | some earlier =>
      rw [present] at listed
      exact ⟨earlier, rfl, listed⟩
  refine keeps_checked fun incumbent => ?_
  cases incumbent with
  | some metadata => exact keeps_check
  | none =>
    exact keeps_writeListed nofun fun _ shelf => shelf.changeStaging
      fun _ segments _ _ open_ listed => .inr ⟨segments, open_, listed⟩

/-- Segments are only removed. -/
theorem keeps_removeSegments {segments : BTreeMap Nat Bytes} :
    Keeps allowed (Shelf history granted) (removeSegments key segments) := by
  refine keeps_checked fun _ => keeps_bind (keeps_loop fun _ removed => ?_) fun _ => ?_
  · refine keeps_changeStaging fun directory segments index segment opened listed => ?_
    obtain ⟨earlier, present, rfl⟩ := map_eq_some_iff.mp opened
    exact ⟨earlier, present, (of_get?_erase listed).2⟩
  · exact keeps_changeStaging nofun

theorem keeps_cleanupRecoveryCapsuleUploadParts :
    Keeps allowed (Shelf history granted) (cleanupRecoveryCapsuleUploadParts key) := by
  have dropped : Keeps allowed (Shelf history granted)
      (writeFile "remove recovery capsule upload directory" (.dropStaging key)) :=
    keeps_writeFile fun _ shelf => shelf.dropStaging key
  refine keeps_checked fun found => ?_
  cases found with
  | none => exact keeps_pure
  | some directory =>
    refine keeps_checked fun _ => ?_
    refine keeps_join (keeps_changeStaging_same fun _ => rfl) ?_
    refine keeps_join (keeps_changeStaging_same fun _ => rfl) ?_
    cases directory.segments with
    | none => exact dropped
    | some segments => exact keeps_bind keeps_removeSegments fun _ => dropped

/-! ### Staged uploads -/

/-- A commit renames the key of a capsule, if anything. -/
theorem Covers.committed {staged : StagedCapsuleUpload}
    {next : LeaseFile} (covers : Covers history granted file)
    (committed : committedUpload policy file staged created store = .ok (next, completedAt)) :
    Covers history granted next := by
  simp only [committedUpload, bind_eq_ok, exists_unit] at committed
  obtain ⟨⟨state, key⟩, normalized, -, recorded, -, committed⟩ := committed
  have named : ∀ {time : Result Nat},
      (time >>= fun completedAt => pure ({ file with state := state }, completedAt)) =
        .ok (next, completedAt) → Covers history granted next := by
    intro time same
    obtain ⟨_, -, same⟩ := bind_eq_ok.mp same
    cases same
    exact covers.normalized normalized
  cases recorded with
  | none => exact named committed
  | some receipt =>
    dsimp only at committed
    split_ifs at committed
    · exact named committed
    · exact named committed

/-- A lease whose upload was committed is returned without it. -/
theorem triple_finalizeCommittedRecoveryCapsuleStaging
    (covers : Covers history granted file) (shelf : Shelf history granted store) :
    Triple allowed (finalizeCommittedRecoveryCapsuleStaging policy file) store
      (fun settled after => Shelf history granted after ∧
        ∀ next, settled = some next → Covers history granted next)
      (Shelf history granted) := by
  unfold finalizeCommittedRecoveryCapsuleStaging
  cases file.state.stagedCapsuleUpload with
  | none => exact triple_pure ⟨shelf, nofun⟩
  | some staged =>
    dsimp only
    cases staged.committedCreated with
    | none => exact triple_pure ⟨shelf, nofun⟩
    | some created =>
      refine triple_checked shelf ?_
      rintro ⟨next, completedAt⟩ committed
      have settled := (covers.committed committed).unstage
      refine (keeps_persistProviderUploadReceipt store shelf).andThen fun _ received kept => ?_
      refine (keeps_cleanupRecoveryCapsuleUploadParts received kept).andThen fun _ clean kept => ?_
      refine (keeps_persistProviderLease settled clean kept).andThen fun _ after kept => ?_
      exact triple_pure ⟨kept, fun other same => some.inj same ▸ settled⟩

/-- Either way the lease is left without a staged upload. -/
theorem returns_discardRecoveryCapsuleStaging (covers : Covers history granted file) :
    Returns allowed history granted (discardRecoveryCapsuleStaging policy file) := by
  intro store shelf
  refine (triple_finalizeCommittedRecoveryCapsuleStaging covers shelf).andThen ?_
  rintro settled finalized ⟨kept, covered⟩
  cases settled with
  | some next => exact triple_pure ⟨kept, covered next rfl⟩
  | none =>
    refine (keeps_cleanupRecoveryCapsuleUploadParts finalized kept).andThen ?_
    intro _ cleaned kept
    dsimp only
    split_ifs
    · exact returns_of_keeps covers.unstage (keeps_persistProviderLease covers.unstage) cleaned kept
    · exact triple_pure ⟨kept, covers⟩

/-- The lease is read again, so it lists what is held by then. -/
theorem keeps_clearStagedCapsuleUpload :
    Keeps allowed (Shelf history granted) (clearStagedCapsuleUpload lease uploadId) := by
  intro store shelf
  refine triple_read ?_
  cases present : store.leases.get? lease.key with
  | none => exact triple_pure shelf
  | some file =>
    have covers := shelf.leases _ file present
    refine triple_checked shelf fun _ _ => ?_
    dsimp only
    split
    case h_1 => exact triple_pure shelf
    case h_2 =>
      split_ifs
      · exact triple_rebase shelf (keeps_persistProviderLease covers.unstage)
      · exact keeps_check store shelf

/-! ### Compaction and reservations -/

theorem keeps_persistProviderLeaseLedger :
    Keeps allowed (Shelf history granted) (persistProviderLeaseLedger ledger) :=
  keeps_checked fun _ => keeps_writeFile fun _ shelf => { shelf with }

/-- Leases that were folded are removed. -/
theorem keeps_finishPendingProviderLeaseCompactions :
    Keeps allowed (Shelf history granted) (finishPendingProviderLeaseCompactions ledger) := by
  have finish : ∀ pending, Keeps allowed (Shelf history granted) (finishCompaction pending) := by
    intro pending
    refine keeps_checked fun found => ?_
    cases found with
    | none => exact keeps_pure
    | some file =>
      exact keeps_checked fun _ =>
        keeps_writeFile fun _ shelf => shelf.dropLease pending.key
  refine keeps_ite keeps_pure (keeps_bind (keeps_loop fun _ pending => finish pending) fun _ => ?_)
  exact keeps_bind keeps_persistProviderLeaseLedger fun _ => keeps_pure

/-- A lease is made durable before it is folded. -/
theorem keeps_compactLease
    {progress : ProviderLeaseLedger × List LeaseFile} (covers : Covers history granted file) :
    Keeps allowed (Shelf history granted) (compactLease policy now progress file) := by
  refine keeps_ite keeps_pure ?_
  refine (returns_discardRecoveryCapsuleStaging covers).bind fun discarded covered => ?_
  refine keeps_ite keeps_pure ?_
  refine (returns_ensureProviderLeaseReferencesDurable covered).bind fun durable _ => ?_
  exact keeps_checked fun _ => keeps_pure

/-- A program for the leases of the store, each of which lists what is held. -/
theorem keeps_listed {next : List LeaseFile → Action α}
    (keeps : ∀ granted files, (∀ file ∈ files, Covers history granted file) →
      Keeps allowed (Shelf history granted) (next files)) :
    Keeps allowed (Shelf history granted)
      (check (listProviderLeaseStateFiles policy) >>= next) := by
  intro store shelf
  refine triple_checked shelf fun files listed => ?_
  refine triple_rebase shelf (keeps _ files fun file member => ?_)
  rw [listProviderLeaseStateFiles_eq_ok listed] at member
  obtain ⟨key, present⟩ := BTreeMap.mem_values.mp member
  exact shelf.leases key file present

/-- The ledger is written before the leases it counts are removed. -/
theorem keeps_compactProviderLeases :
    Keeps allowed (Shelf history granted) (compactProviderLeases policy now) := by
  refine keeps_checked fun ledger => ?_
  refine keeps_bind keeps_finishPendingProviderLeaseCompactions fun finished => ?_
  refine keeps_listed fun granted files covers => ?_
  refine keeps_bind (keeps_loop_of_mem fun file member progress =>
    keeps_compactLease (covers file member)) fun result => ?_
  refine keeps_checked fun _ => ?_
  refine keeps_ite keeps_check ?_
  refine keeps_bind keeps_persistProviderLeaseLedger fun _ => ?_
  exact keeps_bind keeps_finishPendingProviderLeaseCompactions fun _ => keeps_check

theorem keeps_providerCapacity {scope : Option Scope} :
    Keeps allowed (Shelf history granted) (providerCapacity policy freeSpace now scope) :=
  keeps_bind keeps_compactProviderLeases fun _ => keeps_check

/-- A new lease lists nothing. -/
theorem keeps_reserveNewProviderLease :
    Keeps allowed (Shelf history granted) (reserveNewProviderLease policy freeSpace lease) := by
  refine keeps_bind keeps_compactProviderLeases fun _ => ?_
  refine keeps_checked fun _ => ?_
  refine keeps_bind keeps_providerCapacity fun capacity => ?_
  refine keeps_checked fun _ => keeps_writeListed nofun fun store shelf => ?_
  have unused : Covers history (store.Holds history)
      (newLeaseFile lease store.reservations.length) := ⟨nofun, nofun⟩
  exact { shelf.putLease unused with }

theorem keeps_reserveProviderLease :
    Keeps allowed (Shelf history granted) (reserveProviderLease policy freeSpace lease) := by
  refine keeps_checked fun _ => keeps_checked fun found => ?_
  cases found with
  | some existing => exact keeps_check
  | none => exact keeps_reserveNewProviderLease

theorem keeps_reserveProviderLeaseIdempotent : Keeps allowed (Shelf history granted)
      (reserveProviderLeaseIdempotent policy freeSpace lease) := by
  refine keeps_checked fun _ => keeps_checked fun found => ?_
  cases found with
  | some existing => exact keeps_checked fun _ => keeps_pure
  | none => exact keeps_bind keeps_reserveNewProviderLease fun _ => keeps_pure

end Attribution

end Covalent.Provider
