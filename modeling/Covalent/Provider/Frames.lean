import Covalent.Provider.Accounts

/-!
# Programs that leave the books alone

References, receipts, staging directories and pages of descriptors are no part of the
books.  The programs that only write those are quiet: whatever happens to their writes,
the leases, the ledger, the journals and the objects stay as they are.  Other programs
tidy up one lease, without changing what it has counted.
-/

namespace Covalent.Provider

open Durable

variable {allowed : Fault → Prop} {α β : Type} {policy : ProviderQuotaPolicy}
  {admitted clock : Nat} {store after : Store} {file next : LeaseFile}

/-! ## Quiet programs -/

/-- Two stores that differ in nothing the books are about. -/
structure SameBooks (store after : Store) : Prop where
  leases : after.leases = store.leases
  ledger : after.ledger = store.ledger
  journals : after.journals = store.journals
  objects : after.objects = store.objects
  reservations : after.reservations = store.reservations
  strays : strayJournals after = strayJournals store

namespace SameBooks

variable {one two three : Store}

theorem refl (store : Store) : SameBooks store store := ⟨rfl, rfl, rfl, rfl, rfl, rfl⟩

theorem trans (first : SameBooks one two) (second : SameBooks two three) : SameBooks one three where
  leases := second.leases.trans first.leases
  ledger := second.ledger.trans first.ledger
  journals := second.journals.trans first.journals
  objects := second.objects.trans first.objects
  reservations := second.reservations.trans first.reservations
  strays := second.strays.trans first.strays

/-- The part of a store the books are about. -/
def part (store : Store) := (store.leases, store.ledger, store.journals, store.objects,
  store.reservations, strayJournals store)

theorem of_part (same : part two = part one) : SameBooks one two := by
  simp only [part, Prod.mk.injEq] at same
  obtain ⟨leases, ledger, journals, objects, reservations, strays⟩ := same
  exact ⟨leases, ledger, journals, objects, reservations, strays⟩

theorem putLease (same : SameBooks one two) (file : LeaseFile) :
    SameBooks (one.putLease file) (two.putLease file) where
  leases := congrArg (·.insert file.key file) same.leases
  ledger := same.ledger
  journals := same.journals
  objects := same.objects
  reservations := same.reservations
  strays := same.strays

end SameBooks

theorem mem_strayJournals {content : Option UploadJournal} :
    content ∈ strayJournals store ↔ Stray.journal content ∈ store.strays := by
  unfold strayJournals
  rw [List.mem_filterMap]
  constructor
  · rintro ⟨stray, member, read⟩
    cases stray <;> simp_all
  · exact fun member => ⟨.journal content, member, rfl⟩

theorem SameBooks.strand {stray : Stray} (plain : ∀ content, stray ≠ .journal content) :
    SameBooks store (store.strand stray) := by
  refine ⟨rfl, rfl, rfl, rfl, rfl, ?_⟩
  unfold strayJournals Store.strand
  rw [List.filterMap_append]
  cases stray with
  | journal content => exact absurd rfl (plain content)
  | lease | receipt | upload | segments | chunk => exact List.append_nil _

/-- The books are about nothing else. -/
theorem Books.same (books : Books policy admitted clock store) (same : SameBooks store after) :
    Books policy admitted clock after := by
  obtain ⟨leases, ledger, journals, objects, reservations, strays⟩ := same
  have torn : ∀ content, .journal content ∈ after.strays → content = none := by
    intro content member
    refine books.torn content (mem_strayJournals.mp ?_)
    rw [← strays]
    exact mem_strayJournals.mpr member
  cases store
  cases after
  simp only at leases ledger journals objects reservations
  subst leases ledger journals objects reservations
  exact ⟨books.ordered, books.filed, books.serials, books.origins, books.ended, books.bounded,
    books.counted, books.awaited, books.folded, books.within, fun upload outstanding =>
      ⟨(books.underway upload outstanding).formed, (books.underway upload outstanding).kept,
        (books.underway upload outstanding).running,
        (books.underway upload outstanding).expected⟩, torn⟩

/-- A program that is no concern of the books, however it ends. -/
def Quiet (allowed : Fault → Prop) (program : Action α) : Prop :=
  ∀ base, Keeps allowed (SameBooks base) program

namespace Quiet

variable {program : Action α} {condition : Prop} {operation : String} {change : Store → Store}

theorem triple (quiet : Quiet allowed program) (store : Store) :
    Triple allowed program store (fun _ after => SameBooks store after) (SameBooks store) :=
  quiet store store (.refl store)

theorem bind {first : Action α} {next : α → Action β} (one : Quiet allowed first)
    (two : ∀ value, Quiet allowed (next value)) : Quiet allowed (first >>= next) :=
  fun base => keeps_bind (one base) fun value => two value base

theorem pure {value : α} : Quiet allowed (Pure.pure value) :=
  fun _ => keeps_pure

theorem check {test : Store → Result α} : Quiet allowed (Durable.check test) :=
  fun _ => keeps_check

theorem attempt (quiet : Quiet allowed program) :
    Quiet allowed (Durable.attempt program : Action (Result α)) :=
  fun base => keeps_attempt (quiet base)

theorem loop {body : β → α → Action β} (round : ∀ value item, Quiet allowed (body value item))
    {value : β} {items : List α} : Quiet allowed (Durable.loop body value items) :=
  fun base => keeps_loop fun value item => round value item base

theorem ite [Decidable condition] {one two : Action α}
    (yes : Quiet allowed one) (no : Quiet allowed two) :
    Quiet allowed (if condition then one else two) := by
  split_ifs
  · exact yes
  · exact no

/-- A step that is left out when a condition fails, and the rest of the program. -/
theorem join [Decidable condition] {first : Action Unit}
    {rest : Unit → Action α} (one : Quiet allowed first) (two : Quiet allowed (rest ())) :
    Quiet allowed (if condition then first >>= rest else rest ()) :=
  ite (bind one fun _ => two) two

theorem writeFile (same : ∀ store, SameBooks store (change store)) :
    Quiet allowed (Covalent.Provider.writeFile operation change) := fun _ =>
  keeps_act (fun store kept => kept.trans (same store)) fun _ _ _ kept => kept

theorem write (aside : ∀ store, SameBooks.part (change store) = SameBooks.part store) :
    Quiet allowed (Covalent.Provider.writeFile operation change) :=
  writeFile fun store => .of_part (aside store)

theorem writeListed {stray : Stray} (plain : ∀ content, stray ≠ .journal content)
    (aside : ∀ store, SameBooks.part (change store) = SameBooks.part store) :
    Quiet allowed (Covalent.Provider.writeListed operation stray change) := fun _ =>
  keeps_act (fun store kept => kept.trans (.of_part (aside store)))
    fun _ _ _ kept => kept.trans (.strand plain)

end Quiet

variable {locator : Locator} {lease : StorageLease} {created : Bool} {completedAt : Nat}
  {upload : RecoveryCapsuleUpload} {feed : PageFeed} {installation : Installation}

theorem quiet_addProviderObjectReference {recordBytes : Nat} {owner : Scope} {syncParent : Bool} :
    Quiet allowed (addProviderObjectReference locator recordBytes owner syncParent) := by
  refine .bind Quiet.check fun read => ?_
  refine .ite Quiet.pure (.ite ?_ ?_)
  · exact .bind (.write fun _ => rfl) fun _ => .pure
  · exact .bind (.write fun _ => rfl) fun _ => .pure

theorem quiet_ensureReferenceDurable : Quiet allowed (ensureReferenceDurable file locator) := by
  have synced : ∀ store, SameBooks store (syncReference locator store) := by
    intro store
    unfold syncReference
    split
    · exact ⟨rfl, rfl, rfl, rfl, rfl, rfl⟩
    · exact .refl store
  refine .bind Quiet.check fun recordBytes => ?_
  refine .bind (.attempt quiet_addProviderObjectReference) fun result => ?_
  cases result with
  | ok deferred => exact .writeFile synced
  | error problem =>
    refine .bind Quiet.check fun _ => ?_
    refine .bind (.write fun _ => rfl) fun _ => ?_
    refine .bind quiet_addProviderObjectReference fun _ => ?_
    exact .writeFile synced

variable {uploadId : String} {descriptor : RecoveryCapsuleDescriptor}

theorem quiet_persistProviderUploadReceipt :
    Quiet allowed (persistProviderUploadReceipt policy lease uploadId created completedAt) := by
  refine .bind Quiet.check fun missing => .ite ?_ Quiet.pure
  exact .writeListed nofun fun _ => rfl

theorem quiet_ensureRecoveryCapsuleUploadDirectory :
    Quiet allowed (ensureRecoveryCapsuleUploadDirectory upload) := by
  refine .bind (.write fun _ => rfl) fun _ => ?_
  refine .bind (.write fun _ => rfl) fun _ => ?_
  refine .bind Quiet.check fun incumbent => ?_
  cases incumbent with
  | some metadata => exact .check
  | none => exact .writeListed nofun fun _ => rfl

theorem quiet_removeSegments {key : LeaseKey} {segments : BTreeMap Nat Bytes} :
    Quiet allowed (removeSegments key segments) := by
  refine .bind Quiet.check fun _ => ?_
  refine .bind (.loop fun _ _ => ?_) fun _ => ?_
  · exact .write fun _ => rfl
  · exact .write fun _ => rfl

theorem quiet_cleanupRecoveryCapsuleUploadParts {key : LeaseKey} :
    Quiet allowed (cleanupRecoveryCapsuleUploadParts key) := by
  have change : ∀ operation change, Quiet allowed
      (writeFile operation (.changeStaging key change)) := fun _ _ =>
    .write fun _ => rfl
  refine .bind Quiet.check fun found => ?_
  cases found with
  | none => exact .pure
  | some directory =>
    refine .bind Quiet.check fun _ => ?_
    refine .join (change _ _) ?_
    refine .join (change _ _) ?_
    cases directory.segments with
    | none => exact .write fun _ => rfl
    | some segments =>
      refine .bind quiet_removeSegments fun _ => ?_
      exact .write fun _ => rfl

theorem quiet_ensureRecoveryCapsulePageEntry {sequence : Nat} :
    Quiet allowed (ensureRecoveryCapsulePageEntry feed sequence descriptor) := by
  refine .bind Quiet.check fun found => ?_
  cases found with
  | some incumbent => exact .check
  | none => exact .write fun _ => rfl

theorem quiet_persistRecoveryCapsulePageState {nextSequence maximum : Nat} :
    Quiet allowed (persistRecoveryCapsulePageState feed nextSequence maximum) :=
  .bind Quiet.check fun _ => .write fun _ => rfl

section

variable [Formats]

theorem quiet_recoveryCapsulePageMarker :
    Quiet allowed (recoveryCapsulePageMarker policy descriptor) := by
  refine .bind Quiet.check fun found => ?_
  cases found with
  | some marker => exact .bind Quiet.check fun _ => .pure
  | none =>
    refine .bind Quiet.check fun marker => ?_
    refine .bind quiet_ensureRecoveryCapsulePageEntry fun _ => ?_
    refine .bind quiet_ensureRecoveryCapsulePageEntry fun _ => ?_
    refine .bind (.write fun _ => rfl) fun _ => ?_
    exact .pure

theorem quiet_ensureRecoveryCapsuleDescriptorPageEntries :
    Quiet allowed (ensureRecoveryCapsuleDescriptorPageEntries policy descriptor) := by
  refine .bind quiet_recoveryCapsulePageMarker fun marker => ?_
  refine .bind quiet_ensureRecoveryCapsulePageEntry fun _ => ?_
  refine .bind quiet_ensureRecoveryCapsulePageEntry fun _ => ?_
  refine .bind Quiet.check fun ends => ?_
  refine .join quiet_persistRecoveryCapsulePageState ?_
  exact .ite quiet_persistRecoveryCapsulePageState Quiet.pure

theorem quiet_persistRecoveryCapsuleDescriptorValue :
    Quiet allowed (persistRecoveryCapsuleDescriptorValue policy descriptor) := by
  refine .bind Quiet.check fun _ => ?_
  refine .bind Quiet.check fun found => ?_
  cases found with
  | some incumbent =>
    refine .bind Quiet.check fun _ => ?_
    exact quiet_ensureRecoveryCapsuleDescriptorPageEntries
  | none =>
    refine .bind (.write fun _ => rfl) fun _ => ?_
    exact quiet_ensureRecoveryCapsuleDescriptorPageEntries

/-- What makes an upload readable is not counted. -/
theorem quiet_publishUpload {upload : ProviderUploadJournal} :
    Quiet allowed (publishUpload policy upload) := by
  unfold publishUpload
  cases upload.object with
  | recoveryCapsule snapshotId =>
    refine .bind Quiet.check fun descriptor => ?_
    exact quiet_persistRecoveryCapsuleDescriptorValue
  | chunk locator =>
    refine .bind (.attempt quiet_addProviderObjectReference) fun result => ?_
    cases result with
    | ok deferred => exact .pure
    | error problem =>
      refine .bind Quiet.check fun _ => ?_
      refine .bind (.write fun _ => rfl) fun _ => ?_
      exact .bind quiet_addProviderObjectReference fun _ => .pure

theorem quiet_putRecoveryCapsuleSegment {freeSpace : Nat} {call : LeaseCall} {index : Nat}
    {segment : Bytes} {segmentDigest : Digest} :
    Quiet allowed (putRecoveryCapsuleSegment installation freeSpace call uploadId index segment
      segmentDigest) := by
  refine .bind Quiet.check fun missing => .ite ?_ Quiet.pure
  exact .writeListed nofun fun _ => rfl

end

theorem quiet_acknowledgeRecoveryCapsuleUpload :
    Quiet allowed (acknowledgeRecoveryCapsuleUpload installation lease uploadId) := by
  refine .bind Quiet.check fun receipt => ?_
  cases receipt with
  | none => exact .pure
  | some receipt => exact .write fun _ => rfl

theorem quiet_validateRecoveryCapsuleUploadDirectory :
    Quiet allowed (validateRecoveryCapsuleUploadDirectory upload) := by
  refine .bind Quiet.check fun directory => ?_
  exact .join (.write fun _ => rfl) Quiet.check

/-! ## Tidying up a lease -/

/-- A lease that counts the same, and reserves no more for a staged upload. -/
structure Similar (file next : LeaseFile) : Prop where
  lease : next.state.lease = file.state.lease
  serial : next.serial = file.serial
  bytes : next.state.consumedNewBytes = file.state.consumedNewBytes
  objects : next.state.consumedNewObjects = file.state.consumedNewObjects
  listed : next.state.objects = file.state.objects
  cancelled : next.state.cancelled = file.state.cancelled
  staged : ∀ resource : Resource, resource.staged next.state ≤ resource.staged file.state

namespace Similar

theorem refl (file : LeaseFile) : Similar file file :=
  ⟨rfl, rfl, rfl, rfl, rfl, rfl, fun _ => le_rfl⟩

theorem unstaged (file : LeaseFile) :
    Similar file { file with state := { file.state with stagedCapsuleUpload := none } } := by
  refine ⟨rfl, rfl, rfl, rfl, rfl, rfl, fun resource => ?_⟩
  cases resource <;> exact Nat.zero_le _

variable (similar : Similar file next)

include similar

theorem key : next.key = file.key := by
  unfold LeaseFile.key
  rw [similar.lease]

theorem activeAt (time : Nat) : next.activeAt time = file.activeAt time := by
  unfold LeaseFile.activeAt
  rw [similar.lease, similar.cancelled]

theorem consumed (resource : Resource) :
    resource.consumed next.state = resource.consumed file.state := by
  cases resource with
  | bytes => exact similar.bytes
  | objects => exact similar.objects

theorem commitment (resource : Resource) (time : Nat) :
    resource.commitment time next = resource.commitment time file := by
  unfold Resource.commitment
  rw [similar.activeAt, similar.consumed, similar.lease]

end Similar

/-- A lease may be replaced by a similar one. -/
theorem Books.similar (books : Books policy admitted clock store)
    (present : store.leases.get? file.key = some file) (similar : Similar file next) :
    Books policy admitted clock (store.putLease next) := by
  refine books.putLease present
    { lease := similar.lease
      serial := similar.serial
      canonical := ?_
      ended := fun ended => (similar.activeAt clock).trans ended
      running := fun active => .inl ((similar.activeAt admitted).trans active)
      roomy := ?_
      listed := fun key unlisted => similar.listed ▸ unlisted
      counted := ?_
      committed := fun _ resource => le_of_eq (similar.commitment resource admitted) }
  · intro backupId snapshotId
    rw [similar.listed]
    exact (books.filed file.key file present).canonical backupId snapshotId
  · intro resource
    rw [similar.consumed, similar.lease]
    have roomy := (books.filed file.key file present).roomy resource
    have staged := similar.staged resource
    omega
  · intro live resource
    rw [similar.consumed, similar.serial, similar.listed]
    exact books.counted file resource live

/-- One lease was replaced by a similar one. -/
def Tidied (store : Store) (file : LeaseFile) (after : Store) : Prop :=
  ∃ next, Similar file next ∧ SameBooks (store.putLease next) after

theorem SameBooks.putLease_self (present : store.leases.get? file.key = some file) :
    SameBooks (store.putLease file) store := by
  refine ⟨?_, rfl, rfl, rfl, rfl, rfl⟩
  refine BTreeMap.ext_get? fun key => ?_
  show store.leases.get? key = (store.leases.insert file.key file).get? key
  rw [BTreeMap.get?_insert]
  split_ifs with same
  · rw [same, present]
  · rfl

theorem SameBooks.present (same : SameBooks (store.putLease file) after) :
    after.leases.get? file.key = some file := by
  rw [same.leases]
  exact BTreeMap.get?_insert_self ..

namespace Tidied

theorem unchanged (present : store.leases.get? file.key = some file)
    (same : SameBooks store after) : Tidied store file after :=
  ⟨file, Similar.refl file, (SameBooks.putLease_self present).trans same⟩

theorem books (tidied : Tidied store file after) (books : Books policy admitted clock store)
    (present : store.leases.get? file.key = some file) : Books policy admitted clock after := by
  obtain ⟨next, similar, same⟩ := tidied
  exact (books.similar present similar).same same

theorem of_same {last : Store} (same : SameBooks store after) (tidied : Tidied after file last) :
    Tidied store file last := by
  obtain ⟨next, similar, written⟩ := tidied
  exact ⟨next, similar, (same.putLease next).trans written⟩

end Tidied

theorem triple_persistProviderLease (store : Store) (file : LeaseFile) :
    Triple allowed (persistProviderLease file) store
      (fun _ after => SameBooks (store.putLease file) after)
      (fun after => SameBooks store after ∨ SameBooks (store.putLease file) after) :=
  triple_act (.refl _) (fun _ => .inl (.refl _)) (fun _ => .inr (.refl _))
    fun _ _ => .inl (.strand nofun)

section

variable (present : store.leases.get? file.key = some file)

include present

/-- A quiet program on the way tidies up nothing yet. -/
theorem Quiet.tidies {program : Action α} (quiet : Quiet allowed program)
    (same : SameBooks store after) :
    Triple allowed program after (fun _ => SameBooks store) (Tidied store file) :=
  (quiet store after same).imp (fun _ _ further => further) fun _ => .unchanged present

theorem triple_persist_similar (similar : Similar file next) (same : SameBooks store after) :
    Triple allowed (persistProviderLease next) after
      (fun _ => SameBooks (store.putLease next)) (Tidied store file) := by
  have moved := same.putLease next
  refine (triple_persistProviderLease after next).imp (fun _ _ written => moved.trans written) ?_
  rintro last (kept | written)
  · exact .unchanged present (same.trans kept)
  · exact ⟨next, similar, moved.trans written⟩

/-- A receipt, the removal of what was staged, and the lease without its staged upload. -/
theorem tidies_settle {value : α} : Triple allowed (do
        persistProviderUploadReceipt policy lease uploadId created completedAt
        cleanupRecoveryCapsuleUpload lease
        persistProviderLease { file with state := { file.state with stagedCapsuleUpload := none } }
        pure value : Action α) store
      (fun result after => result = value ∧ SameBooks (store.putLease
        { file with state := { file.state with stagedCapsuleUpload := none } }) after)
      (Tidied store file) := by
  have receipt : Quiet allowed (persistProviderUploadReceipt policy lease uploadId created
    completedAt) := quiet_persistProviderUploadReceipt
  have cleanup : Quiet allowed (cleanupRecoveryCapsuleUpload lease) :=
    quiet_cleanupRecoveryCapsuleUploadParts
  refine (receipt.tidies present (.refl store)).andThen fun _ received same => ?_
  refine (cleanup.tidies present same).andThen fun _ clean further => ?_
  refine (triple_persist_similar present (.unstaged file) further).andThen fun _ after written => ?_
  exact triple_pure ⟨rfl, written⟩

/-- A program that tidies up a lease and returns it. -/
theorem tidies_ensureProviderLeaseReferencesDurable :
    Triple allowed (ensureProviderLeaseReferencesDurable file) store
      (fun next after => Similar file next ∧ SameBooks (store.putLease next) after)
      (Tidied store file) := by
  have references : Quiet allowed (loop (fun _ locator => ensureReferenceDurable file locator) ()
      file.state.deferredReferenceSync.keys) :=
    .loop fun _ _ => quiet_ensureReferenceDurable
  refine (references.tidies present (.refl store)).andThen fun _ middle same => ?_
  split_ifs
  · exact triple_pure ⟨Similar.refl file, (SameBooks.putLease_self present).trans same⟩
  · have similar : Similar file
        { file with state := { file.state with deferredReferenceSync := ∅ } } :=
      ⟨rfl, rfl, rfl, rfl, rfl, rfl, fun resource => by cases resource <;> exact le_rfl⟩
    refine (triple_persist_similar present similar same).andThen fun _ after written => ?_
    exact triple_pure ⟨similar, written⟩

omit present in
theorem normalizeProviderCapsuleObjectKey_of_canonical {state : ProviderLeaseState}
    (canonical : ∀ backupId snapshotId,
      state.objects.get? (.legacyCapsule backupId snapshotId) = none) :
    normalizeProviderCapsuleObjectKey state descriptor = .ok (state,
      providerCapsuleObjectKey ⟨state.lease.peerDeviceId, descriptor.backupId⟩
        descriptor.snapshotId) := by
  unfold normalizeProviderCapsuleObjectKey
  simp only [canonical descriptor.backupId descriptor.snapshotId]
  cases state.objects.get? (providerCapsuleObjectKey
    ⟨state.lease.peerDeviceId, descriptor.backupId⟩ descriptor.snapshotId) <;> rfl

section

variable [Formats] (canonical : ∀ backupId snapshotId,
  file.state.objects.get? (.legacyCapsule backupId snapshotId) = none)

include canonical

omit present in
/-- A committed upload is counted already. -/
theorem committedUpload_file {staged : StagedCapsuleUpload}
    (found : committedUpload policy file staged created store = .ok (next, completedAt)) :
    next = file := by
  simp only [committedUpload, normalizeProviderCapsuleObjectKey_of_canonical canonical,
    bind_eq_ok] at found
  obtain ⟨normal, same, -, -, recorded, -, found⟩ := found
  cases same
  have named : ∀ {time : Result Nat},
      (time >>= fun completedAt => pure (file, completedAt)) = .ok (next, completedAt) →
        next = file := by
    intro time same
    obtain ⟨_, -, same⟩ := bind_eq_ok.mp same
    exact (Prod.mk.inj (Except.ok.inj same)).1.symm
  cases recorded with
  | none => exact named found
  | some receipt =>
    dsimp only at found
    split_ifs at found
    · exact named found
    · exact named found

theorem tidies_finalizeCommittedRecoveryCapsuleStaging :
    Triple allowed (finalizeCommittedRecoveryCapsuleStaging policy file) store
      (fun settled after => match settled with
        | none => SameBooks store after
        | some next => Similar file next ∧ SameBooks (store.putLease next) after)
      (Tidied store file) := by
  unfold finalizeCommittedRecoveryCapsuleStaging
  cases file.state.stagedCapsuleUpload with
  | none => exact triple_pure (.refl store)
  | some staged =>
    dsimp only
    cases staged.committedCreated with
    | none => exact triple_pure (.refl store)
    | some created =>
      refine triple_checked (.unchanged present (.refl store)) ?_
      rintro ⟨checked, completedAt⟩ found
      obtain rfl := committedUpload_file canonical found
      refine (tidies_settle present).imp ?_ fun _ tidied => tidied
      rintro _ after ⟨rfl, written⟩
      exact ⟨.unstaged checked, written⟩

theorem tidies_discardRecoveryCapsuleStaging :
    Triple allowed (discardRecoveryCapsuleStaging policy file) store
      (fun next after => Similar file next ∧ SameBooks (store.putLease next) after)
      (Tidied store file) := by
  refine (tidies_finalizeCommittedRecoveryCapsuleStaging present canonical).andThen ?_
  intro settled middle finalized
  cases settled with
  | some next => exact triple_pure finalized
  | none =>
    have cleanup : Quiet allowed (cleanupRecoveryCapsuleUpload file.state.lease) :=
      quiet_cleanupRecoveryCapsuleUploadParts
    refine (cleanup.tidies present finalized).andThen fun _ clean same => ?_
    split_ifs
    · have similar := Similar.unstaged file
      refine (triple_persist_similar present similar same).andThen fun _ after written => ?_
      exact triple_pure ⟨similar, written⟩
    · exact triple_pure ⟨Similar.refl file, (SameBooks.putLease_self present).trans same⟩

end

end

end Covalent.Provider
