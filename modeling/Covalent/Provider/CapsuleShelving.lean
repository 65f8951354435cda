import Covalent.Provider.Shelving

/-!
# Uploads of capsules keep objects attributed

A capsule arrives at once or in segments.  One that arrives in segments is put together
from what its owner handed in, and it has to have the digest that its owner announced; so
whichever way it came, the capsule that is stored is one that its owner began with.
-/

namespace Covalent.Provider

open Durable Formats Option

variable [Formats] {allowed : Fault → Prop} {store after : Store} {history : History}
  {granted : Grants} {file : LeaseFile} {descriptor : RecoveryCapsuleDescriptor}
  {policy : ProviderQuotaPolicy} {call : LeaseCall} {installation : Installation}
  {freeSpace : Nat} {journalId : Uuid} {bytes : Bytes} {staged : StagedCapsuleUpload}
  {uploadId : String} {now : Nat}

omit [Formats] in
/-- A capsule is its segments in order. -/
theorem assembleSegments_eq_ok {segments : BTreeMap Nat Bytes} {totalBytes : Nat}
    {indices : List Nat} (assembled : assembleSegments segments totalBytes indices = .ok bytes) :
    ∃ parts : List Bytes, parts.flatten = bytes ∧
      ∀ part ∈ parts, ∃ index, segments.get? index = some part := by
  induction indices generalizing bytes with
  | nil =>
    cases assembled
    exact ⟨[], rfl, fun _ member => absurd member List.not_mem_nil⟩
  | cons index rest ih =>
    simp only [assembleSegments, bind_eq_ok, exists_unit, okOr_eq_ok, refuse_eq_ok,
      pure_eq_ok] at assembled
    obtain ⟨segment, found, -, others, assembled, rfl⟩ := assembled
    obtain ⟨parts, rfl, listed⟩ := ih assembled
    refine ⟨segment :: parts, rfl, fun part member => ?_⟩
    rcases List.mem_cons.mp member with rfl | member
    · exact ⟨index, found⟩
    · exact listed part member

/-! ## A capsule at once -/

theorem noted_capsuleJournal {expectedNewObject : Bool}
    (lease : call.lease.scope = call.scope) (scope : descriptor.key.scope = call.scope)
    (began : history.Began call.scope (.capsule descriptor.key) bytes)
    (length : bytes.length = descriptor.totalBytes)
    (digested : digest bytes = descriptor.capsuleDigest) :
    Noted history (capsuleJournal call descriptor expectedNewObject) := by
  have place : (capsuleJournal call descriptor expectedNewObject).place =
      .capsule descriptor.key := place_capsuleJournal (scope.trans lease.symm)
  refine ⟨⟨bytes, ?_, length, digested⟩, nofun, fun other same => ?_⟩
  · rw [place]
    show history.Began call.lease.scope _ _
    rw [lease]
    exact began
  · rw [place, some.inj same]

section

variable (shelf : Shelf history granted store)

include shelf

theorem shelves_putRecoveryCapsuleLeased
    (uploaded : call.Admitted store → ∀ header, parseRecoveryCapsuleHeader bytes = some header →
      history.uploaded call.scope (.capsule (describeCapsule header bytes).key) bytes) :
    Ends allowed (putRecoveryCapsuleLeased installation freeSpace journalId call bytes) store
      (Shelf history granted) := by
  refine triple_checked shelf ?_
  rintro ⟨descriptor, plan⟩ planned
  cases plan with
  | none => exact triple_pure shelf
  | some plan =>
    obtain ⟨file, expectedNewObject⟩ := plan
    obtain ⟨found, scope, ⟨header, parsed, rfl⟩, -, absent, stored⟩ := planCapsule_eq_ok planned
    have loaded := loaded_of_eq_ok found
    have began : history.Began call.scope (.capsule (describeCapsule header bytes).key) bytes :=
      Or.inl (uploaded loaded.admitted header parsed)
    refine @shelves_placed _ _ _ _ _ _ _ _ _ (capsuleJournal call
      (describeCapsule header bytes) expectedNewObject) bytes _ _ _ shelf
      (noted_capsuleJournal loaded.lease scope began rfl rfl) began
      (fun isNew => (absent isNew).1) stored fun now shelved holds => ?_
    have covers : Covers history (now.Holds history) file := (loaded.covers shelf).mono shelved.held
    have describes : Describes (now.Holds history) (describeCapsule header bytes) :=
      ⟨bytes, scope ▸ holds, rfl, rfl⟩
    refine triple_checked (shelved.narrow shelf.held) fun state counted => ?_
    refine triple_rebase (shelved.narrow shelf.held) ?_
    refine keeps_bind (keeps_persistRecoveryCapsuleDescriptorValue describes) fun _ => ?_
    refine keeps_bind (keeps_persistProviderLease (covers.counted ?_ counted)) fun _ => ?_
    · exact nofun
    · exact keeps_bind keeps_completeProviderUploadJournal fun _ => keeps_pure

/-! ## A capsule in segments -/

theorem shelves_beginRecoveryCapsuleUpload {requested : RecoveryCapsuleUpload}
    (announced : call.Admitted store → history.announced call.scope requested.descriptor) :
    Ends allowed (beginRecoveryCapsuleUpload installation freeSpace call requested) store
      (Shelf history granted) := by
  refine triple_checked shelf ?_
  rintro ⟨file, incumbent⟩ planned
  simp only [planUpload, bind_eq_ok, exists_unit, refuse_eq_ok] at planned
  obtain ⟨-, loadedFile, found, planned⟩ := planned
  have loaded := loaded_of_eq_ok found
  cases staged : loadedFile.state.stagedCapsuleUpload with
  | some upload =>
    simp only [staged, bind_eq_ok, exists_unit, pure_eq_ok, Prod.mk.injEq] at planned
    obtain ⟨-, rfl, rfl⟩ := planned
    exact keeps_ensureRecoveryCapsuleUploadDirectory store shelf
  | none =>
    simp only [staged, bind_eq_ok, exists_unit, pure_eq_ok, Prod.mk.injEq] at planned
    obtain ⟨-, -, -, rfl, rfl⟩ := planned
    refine triple_rebase shelf ?_
    refine keeps_bind keeps_cleanupRecoveryCapsuleUploadParts fun _ => ?_
    refine keeps_checked fun expectedNewObject => ?_
    refine keeps_bind (keeps_persistProviderLease ((loaded.covers shelf).announce ?_))
      fun _ => keeps_ensureRecoveryCapsuleUploadDirectory
    rw [loaded.scope]
    exact announced loaded.admitted

theorem shelves_putRecoveryCapsuleSegment {index : Nat} {segment : Bytes} {segmentDigest : Digest}
    (handed : call.Admitted store → history.handed call.scope segment) :
    Ends allowed (putRecoveryCapsuleSegment installation freeSpace call uploadId index segment
        segmentDigest) store (Shelf history granted) := by
  refine triple_checked shelf fun missing planned => ?_
  simp only [planSegment, bind_eq_ok, exists_unit] at planned
  obtain ⟨-, loadedFile, found, -⟩ := planned
  have loaded := loaded_of_eq_ok found
  split_ifs
  · refine keeps_writeListed ?_ (fun _ shelf => shelf.changeStaging ?_) store shelf
    · rintro _ ⟨⟩
    intro directory segments place other opened listed
    obtain ⟨earlier, present, rfl⟩ := map_eq_some_iff.mp opened
    rcases BTreeMap.of_get?_insert listed with ⟨-, rfl⟩ | ⟨-, listed⟩
    · refine .inl ?_
      show history.handed call.lease.scope other
      rw [loaded.lease]
      exact handed loaded.admitted
    · exact .inr ⟨earlier, present, listed⟩
  · exact triple_pure shelf

/-- The staged upload of a commit, as the lease has it. -/
structure Committing (history : History) (granted : Grants) (call : LeaseCall) (file : LeaseFile)
    (staged : StagedCapsuleUpload) : Prop where
  covers : Covers history granted file
  scope : file.scope = call.scope
  lease : call.lease.scope = call.scope
  upload : staged.upload.lease = call.lease
  announced : history.announced call.scope staged.upload.descriptor
  owner : staged.upload.descriptor.key.scope = call.scope
  total : staged.upload.descriptor.totalBytes = staged.upload.totalBytes
  digest : staged.upload.descriptor.capsuleDigest = staged.upload.capsuleDigest

theorem stagedUpload_committing (found : stagedUpload call uploadId store = .ok (file, staged)) :
    Committing history (store.Holds history) call file staged := by
  simp only [stagedUpload, loadRecoveryCapsuleUpload, bind_eq_ok, exists_unit, refuse_eq_ok,
    okOr_eq_ok, Bool.or_eq_false_iff, bne_eq_false_iff_eq, pure_eq_ok,
    Prod.mk.injEq] at found
  obtain ⟨loadedFile, load, metadata, ⟨directory, -, _, -, ⟨-, lease⟩, rfl⟩, _, present,
    ⟨⟨⟨⟨same, backup⟩, peer⟩, total⟩, digest⟩, rfl, rfl⟩ := found
  subst same
  have loaded := loaded_of_eq_ok load
  have covers := loaded.covers shelf
  refine ⟨covers, loaded.scope, loaded.lease, lease, ?_, ?_, total, digest⟩
  · rw [← loaded.scope]
    exact covers.staged _ present
  · show (⟨_, _⟩ : Scope) = ⟨_, _⟩
    rw [peer, backup]

end

/-- What was put together was announced and handed in. -/
theorem triple_assembleUpload_began (committing : Committing history granted call file staged)
    (shelf : Shelf history granted store) :
    Triple allowed (assembleUpload installation freeSpace staged.upload) store
      (fun bytes after => Shelf history granted after ∧
        history.Began call.scope (.capsule staged.upload.descriptor.key) bytes ∧
        bytes.length = staged.upload.descriptor.totalBytes ∧
        digest bytes = staged.upload.descriptor.capsuleDigest)
      (Shelf history granted) := by
  have assembling : ∀ operation assembled, Keeps allowed (Shelf history granted)
      (writeFile operation (.changeStaging staged.upload.lease.key
        fun directory => { directory with assembled := assembled })) := fun _ _ =>
    keeps_changeStaging_same fun _ => rfl
  refine (assembling _ none store shelf).andThen ?_
  intro _ _ kept
  refine triple_checked kept fun _ _ => ?_
  refine (assembling _ (some []) _ kept).andThen ?_
  intro _ now kept
  refine triple_checked kept fun bytes assembled => ?_
  refine (assembling _ (some bytes) _ kept).andThen ?_
  intro _ _ stored
  simp only [assembledCapsule, bind_eq_ok, exists_unit, refuse_eq_ok, okOr_eq_ok,
    Bool.or_eq_false_iff, bne_eq_false_iff_eq, pure_eq_ok] at assembled
  obtain ⟨segments, opened, assembledBytes, joined, ⟨length, digested⟩, -, -, -, rfl⟩ := assembled
  obtain ⟨directory, found, opened⟩ := bind_eq_some_iff.mp opened
  obtain ⟨parts, flat, listed⟩ := assembleSegments_eq_ok joined
  have length : assembledBytes.length = staged.upload.descriptor.totalBytes :=
    length.trans committing.total.symm
  have digested : digest assembledBytes = staged.upload.descriptor.capsuleDigest :=
    digested.trans committing.digest.symm
  refine triple_pure ⟨stored, .inr ⟨staged.upload.descriptor, parts, committing.announced, rfl,
    committing.owner, fun part member => ?_, flat, length, digested⟩, length, digested⟩
  obtain ⟨index, at_⟩ := listed part member
  have handed := kept.segments _ directory segments index part found opened at_
  rw [committing.upload] at handed
  rw [← committing.lease]
  exact handed

theorem keeps_finishCommitted {created : Bool} (covers : Covers history granted file) :
    Keeps allowed (Shelf history granted) (finishCommitted policy call file staged created) := by
  intro store shelf
  refine triple_checked shelf fun state found => ?_
  simp only [bind_eq_ok, exists_unit, pure_eq_ok] at found
  obtain ⟨⟨normalized, key⟩, normalize, -, rfl⟩ := found
  have settled := (covers.normalized normalize).unstage
  refine keeps_bind keeps_persistProviderUploadReceipt (fun _ => ?_) store shelf
  refine keeps_bind keeps_cleanupRecoveryCapsuleUploadParts fun _ => ?_
  exact keeps_bind (keeps_persistProviderLease settled) fun _ => keeps_pure

theorem keeps_acknowledgeRecoveryCapsuleUpload {lease : StorageLease} :
    Keeps allowed (Shelf history granted)
      (acknowledgeRecoveryCapsuleUpload installation lease uploadId) := by
  refine keeps_checked fun recorded => ?_
  cases recorded with
  | none => exact keeps_pure
  | some receipt => exact keeps_writeFile fun _ shelf => { shelf with }

theorem keeps_recoverStagedUpload {expected : List LeaseKey}
    (covers : Covers history granted file) :
    Keeps allowed (Shelf history granted) (recoverStagedUpload policy now expected file) := by
  unfold recoverStagedUpload
  cases file.state.stagedCapsuleUpload with
  | none => exact keeps_pure
  | some staged =>
    intro store shelf
    refine (triple_finalizeCommittedRecoveryCapsuleStaging covers shelf).andThen ?_
    rintro settled finalized ⟨kept, -⟩
    cases settled with
    | some next => exact triple_pure kept
    | none =>
      refine keeps_ite ?_ ?_ finalized kept
      · refine keeps_bind keeps_ensureRecoveryCapsuleUploadDirectory fun _ => ?_
        refine keeps_bind (keeps_checked fun directory => ?_) fun _ => keeps_pure
        exact keeps_join (keeps_changeStaging_same fun _ => rfl) keeps_check
      · exact (returns_discardRecoveryCapsuleStaging covers).bind fun _ _ => keeps_pure

/-! ## Without collisions -/

variable (recognizes : history.Recognizes)

include recognizes

/-- A capsule that is there has the digest that was announced, so whoever put one together
holds it. -/
theorem classifyCapsule_stored (shelf : Shelf history granted store)
    {metadata : RecoveryCapsuleUpload} {alreadyAccounted : Bool} {scope : Scope}
    (began : history.Began scope (.capsule metadata.descriptor.key) bytes)
    (classified : classifyCapsule file metadata store = .ok (alreadyAccounted, false))
    (digested : digest bytes = metadata.capsuleDigest) :
    ∃ incumbent, store.Holds history scope (.capsule metadata.descriptor.key) incumbent ∧
      incumbent.length = metadata.totalBytes ∧ digest incumbent = metadata.capsuleDigest := by
  simp only [classifyCapsule, bind_eq_ok, exists_unit, refuse_eq_ok, pure_eq_ok,
    Prod.mk.injEq] at classified
  obtain ⟨-, agrees, -, -, there⟩ := classified
  cases present : store.objects.get? (.capsule metadata.descriptor.key) with
  | none =>
    rw [hashObject, present] at there
    cases there
  | some object =>
    rw [hashObject, present, map_some, any_some, bne_eq_false_iff_eq] at agrees
    obtain ⟨length, hash⟩ := Prod.mk.inj agrees
    obtain ⟨owner, stored⟩ := shelf.stored _ object present
    refine ⟨object.bytes, ⟨?_, ?_⟩, length, hash⟩
    · rw [present, map_some]
    · exact recognizes _ _ _ _ _ began stored (hash.trans digested.symm)

/-- A capsule is described once it is stored. -/
theorem shelves_commitAssembled (shelf : Shelf history granted store)
    (committing : Committing history granted call file staged)
    (began : history.Began call.scope (.capsule staged.upload.descriptor.key) bytes)
    (length : bytes.length = staged.upload.descriptor.totalBytes)
    (digested : digest bytes = staged.upload.descriptor.capsuleDigest) :
    Ends allowed (commitAssembled installation journalId call file staged bytes) store
      (Shelf history granted) := by
  refine triple_checked shelf ?_
  rintro ⟨alreadyAccounted, expectedNewObject⟩ classified
  have noted : ∀ entry ∈ (UploadJournal.single (capsuleJournal call staged.upload.descriptor
      expectedNewObject)).uploads, Noted history entry := fun entry member =>
    List.mem_singleton.mp member ▸
      noted_capsuleJournal committing.lease committing.owner began length digested
  -- What follows once the capsule is there.
  have rest : ∀ (now : Store) counts created, Shelf history granted now →
      (∃ bytes, now.Holds history call.scope (.capsule staged.upload.descriptor.key) bytes ∧
        bytes.length = staged.upload.descriptor.totalBytes ∧
        digest bytes = staged.upload.descriptor.capsuleDigest) →
      Ends allowed (finishAssembled installation journalId call file staged counts created) now
        (Shelf history granted) := by
    rintro now counts created shelved ⟨bytes, holds, length, digested⟩
    have covers : Covers history (now.Holds history) file := committing.covers.mono shelved.held
    have describes : Describes (now.Holds history) staged.upload.descriptor :=
      ⟨bytes, committing.owner ▸ holds, length, digested⟩
    refine triple_rebase shelved (keeps_bind (keeps_changeStaging_same fun _ => rfl) fun _ => ?_)
    intro later kept
    refine triple_checked kept fun state committed => ?_
    have recorded := covers.commitStaged committed
    revert later
    refine keeps_bind (keeps_persistRecoveryCapsuleDescriptorValue describes) fun _ => ?_
    refine keeps_bind (keeps_persistProviderLease recorded) fun _ => ?_
    refine keeps_bind keeps_completeProviderUploadJournal fun _ => ?_
    refine keeps_bind keeps_persistProviderUploadReceipt fun _ => ?_
    refine keeps_bind keeps_cleanupRecoveryCapsuleUploadParts fun _ => ?_
    exact keeps_bind (keeps_persistProviderLease recorded.unstage) fun _ => keeps_pure
  refine (triple_writeJournal_shelf shelf noted).andThen ?_
  rintro - _ rfl
  have shelved := @Shelf.putJournal _ _ _ _ shelf journalId _ noted
  cases expectedNewObject with
  | false =>
    obtain ⟨incumbent, holds, length, digested⟩ := classifyCapsule_stored recognizes shelf began
      classified (digested.trans committing.digest)
    exact rest _ _ _ shelved ⟨incumbent, holds, length.trans committing.total.symm,
      digested.trans committing.digest.symm⟩
  | true =>
    refine (triple_createObject_shelf shelved began).andThen ?_
    rintro created now ⟨kept, new, -⟩
    refine triple_checked kept fun _ fresh => ?_
    rw [refuse_eq_ok, Bool.not_eq_false'] at fresh
    exact rest now _ _ kept ⟨bytes, new fresh, length, digested⟩

theorem keeps_commitRecoveryCapsuleUpload : Keeps allowed (Shelf history granted)
      (commitRecoveryCapsuleUpload installation freeSpace journalId call uploadId) := by
  refine keeps_bind (keeps_recoverProviderUploadJournals recognizes) fun _ => ?_
  refine keeps_checked fun recorded => ?_
  cases recorded with
  | some receipt =>
    refine keeps_checked fun _ => ?_
    refine keeps_bind keeps_cleanupRecoveryCapsuleUploadParts fun _ => ?_
    exact keeps_bind keeps_clearStagedCapsuleUpload fun _ => keeps_pure
  | none =>
    intro store shelf
    refine triple_checked shelf ?_
    rintro ⟨file, staged⟩ found
    have committing := stagedUpload_committing shelf found
    dsimp only
    cases staged.committedCreated with
    | some created => exact triple_rebase shelf (keeps_finishCommitted committing.covers)
    | none =>
      refine triple_rebase shelf fun now shelved => ?_
      refine (triple_assembleUpload_began committing shelved).andThen ?_
      rintro bytes assembled ⟨kept, began, length, digested⟩
      exact shelves_commitAssembled recognizes kept committing began length digested

theorem keeps_cancelProviderLease {lease : StorageLease} :
    Keeps allowed (Shelf history granted) (cancelProviderLease installation lease now) := by
  refine keeps_bind (keeps_recoverProviderUploadJournals recognizes) fun _ => ?_
  refine keeps_checked fun key => ?_
  intro store shelf
  refine triple_read ?_
  cases present : store.leases.get? key with
  | none =>
    exact keeps_bind keeps_cleanupRecoveryCapsuleUploadParts
      (fun _ => keeps_compactProviderLeases) store shelf
  | some file =>
    have cancelled : Covers history (store.Holds history)
        { file with state := { file.state with cancelled := true } } :=
      (shelf.leases key file present).similar rfl (fun staged found => ⟨staged, found, rfl⟩)
        fun _ => rfl
    refine triple_rebase shelf (keeps_checked fun _ => ?_)
    have rest : Keeps allowed (Shelf history (store.Holds history)) (do
        let _ ← discardRecoveryCapsuleStaging installation.policy
          { file with state := { file.state with cancelled := true } }
        compactProviderLeases installation.policy now) :=
      (returns_discardRecoveryCapsuleStaging cancelled).bind fun _ _ =>
        keeps_compactProviderLeases
    dsimp only
    split_ifs
    · exact rest
    · exact keeps_bind (keeps_persistProviderLease cancelled) fun _ => rest

theorem keeps_recoverStore :
    Keeps allowed (Shelf history granted) (recoverStore installation now) := by
  refine keeps_checked fun _ => ?_
  refine keeps_bind (keeps_recoverProviderUploadJournals recognizes) fun _ => ?_
  refine keeps_bind (keeps_listed fun granted files covers => ?_) fun _ => ?_
  · refine keeps_loop_of_mem fun file member _ => ?_
    exact (returns_ensureProviderLeaseReferencesDurable (covers file member)).bind
      fun _ _ => keeps_pure
  refine keeps_bind (keeps_listed fun granted files covers => ?_) fun _ =>
    keeps_compactProviderLeases
  refine keeps_bind (keeps_loop_of_mem fun file member _ =>
    keeps_recoverStagedUpload (covers file member)) fun expected => ?_
  refine keeps_checked fun orphans => keeps_loop fun _ _ => ?_
  exact keeps_cleanupRecoveryCapsuleUploadParts

end Covalent.Provider
