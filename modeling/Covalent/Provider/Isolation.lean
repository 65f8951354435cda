import Covalent.Provider.CapsuleShelving
import Covalent.Provider.Quota

/-!
# Peers are isolated from each other

Peers share the chunks of a provider.  Whatever they upload, however their uploads end and
however often the store is recovered, a peer is only ever answered about what it began to
upload itself, and what it reads is what it handed in.

## Design notes

**Time.**  A peer is authorised at one moment and its bytes are read at later ones, with
calls of other peers in between.  A read inside a call sees the store that the call would
leave if the process ended there, so moments between the steps of all runs are all
moments.

**Digests.**  Recovery knows an object by its digest.  That no two objects that were
begun in the run share a digest is therefore assumed, and nothing else about digests.
-/

namespace Covalent.Provider

open Durable Formats List

/-! ## Longer histories -/

/-- A history with at least the same uploads. -/
structure History.Extends (earlier later : History) : Prop where
  uploaded : ∀ scope key bytes, earlier.uploaded scope key bytes → later.uploaded scope key bytes
  announced : ∀ scope descriptor, earlier.announced scope descriptor →
    later.announced scope descriptor
  handed : ∀ scope segment, earlier.handed scope segment → later.handed scope segment

section Isolation

variable [Formats] {installation : Installation} {store : Store} {granted : Grants}
  {earlier later : History}

namespace History.Extends

section

variable (extends_ : earlier.Extends later)

include extends_

variable {bytes : Bytes}

variable {scope : Scope}

theorem began {key : ObjectKey}
    (began : earlier.Began scope key bytes) : later.Began scope key bytes := by
  rcases began with uploaded | ⟨descriptor, segments, announced, rest, owner, handed, joined⟩
  · exact .inl (extends_.uploaded _ _ _ uploaded)
  · exact .inr ⟨descriptor, segments, extends_.announced _ _ announced, rest, owner,
      fun segment member => extends_.handed _ _ (handed segment member), joined⟩

theorem collisionFree (free : later.CollisionFree) :
    earlier.CollisionFree := fun _ _ _ _ _ _ first second same =>
  free _ _ _ _ _ _ (extends_.began first) (extends_.began second) same

theorem holds (scope : Scope) (key : ObjectKey) (bytes : Bytes)
    (holds : store.Holds earlier scope key bytes) : store.Holds later scope key bytes :=
  ⟨holds.stored, extends_.began holds.began⟩

theorem noted {upload : ProviderUploadJournal}
    (noted : Noted earlier upload) : Noted later upload :=
  { noted with
    begun :=
      let ⟨bytes, began, same⟩ := noted.begun
      ⟨bytes, extends_.began began, same⟩ }

theorem covers {file : LeaseFile} (covers : Covers earlier (store.Holds earlier) file) :
    Covers later (store.Holds later) file where
  listed := (covers.mono extends_.holds).listed
  staged := fun staged found => extends_.announced _ _ (covers.staged staged found)

theorem shelf (shelf : Shelf earlier granted store) : Shelf later granted store where
  held := fun scope key bytes grant => extends_.holds _ _ _ (shelf.held scope key bytes grant)
  stored := fun key object found =>
    let ⟨scope, began⟩ := shelf.stored key object found
    ⟨scope, extends_.began began⟩
  references := fun locator reference durable scope found owner =>
    let ⟨bytes, holds⟩ := shelf.references locator reference durable scope found owner
    ⟨bytes, extends_.holds _ _ _ holds⟩
  leases := fun key file found => extends_.covers (shelf.leases key file found)
  descriptors := fun key descriptor found =>
    ⟨(shelf.descriptors key descriptor found).1,
      (shelf.descriptors key descriptor found).2.mono extends_.holds⟩
  pages := fun slot descriptor found => (shelf.pages slot descriptor found).mono extends_.holds
  journals := fun journalId journal found upload member =>
    extends_.noted (shelf.journals journalId journal found upload member)
  strays := fun journal member upload listed =>
    extends_.noted (shelf.strays journal member upload listed)
  segments := fun key directory segments index segment found opened listed =>
    extends_.handed _ _ (shelf.segments key directory segments index segment found opened listed)

end

end History.Extends

/-! ## What calls begin -/

namespace Call

/-- A call hands in an object, under a lease that its peer may use for the backup. -/
def Uploads (store : Store) (scope : Scope) (key : ObjectKey) (bytes : Bytes) : Call → Prop
  | putRecord _ _ call locator record =>
    call.Admitted store ∧ scope = call.scope ∧ key = .chunk locator ∧ bytes = record
  | putRecords _ _ call records =>
    call.Admitted store ∧ scope = call.scope ∧
      ∃ entry ∈ records, key = .chunk entry.1 ∧ bytes = entry.2
  | putCapsule _ _ call capsule =>
    call.Admitted store ∧ scope = call.scope ∧ bytes = capsule ∧
      ∃ header, parseRecoveryCapsuleHeader capsule = some header ∧
        key = .capsule (describeCapsule header capsule).key
  | _ => False

def Announces (store : Store) (scope : Scope) (descriptor : RecoveryCapsuleDescriptor) : Call → Prop
  | beginUpload _ call requested =>
    call.Admitted store ∧ scope = call.scope ∧ descriptor = requested.descriptor
  | _ => False

def HandsIn (store : Store) (scope : Scope) (segment : Bytes) : Call → Prop
  | putSegment _ call _ _ handed _ =>
    call.Admitted store ∧ scope = call.scope ∧ segment = handed
  | _ => False

/-- The history has what a call begins. -/
structure RecordedIn (history : History) (store : Store) (call : Call) : Prop where
  uploads : ∀ scope key bytes, call.Uploads store scope key bytes → history.uploaded scope key bytes
  announces : ∀ scope descriptor, call.Announces store scope descriptor →
    history.announced scope descriptor
  handsIn : ∀ scope segment, call.HandsIn store scope segment → history.handed scope segment

variable {call : Call}

theorem recordedIn_of_opens {history : History} (opens : call.opens = true) :
    call.RecordedIn history store := by
  cases call with
  | reopen now => exact ⟨fun _ _ _ no => no.elim, fun _ _ no => no.elim, fun _ _ no => no.elim⟩
  | _ => cases opens

theorem shelves {allowed : Fault → Prop} {history : History} (recognizes : history.Recognizes)
    (recorded : call.RecordedIn history store) (shelf : Shelf history granted store) :
    Ends allowed (call.run installation) store (Shelf history granted) := by
  have answered : ∀ {α : Type} {program : Action α} {answer : α → Answer},
      Ends allowed program store (Shelf history granted) →
      Ends allowed (program >>= fun value => pure (answer value)) store
        (Shelf history granted) := fun triple =>
    triple_bind (triple.imp (fun _ _ kept => triple_pure kept) fun _ kept => kept)
  cases call with
  | reserve freeSpace lease => exact answered (keeps_reserveProviderLease store shelf)
  | reserveIdempotent freeSpace lease =>
    exact answered (keeps_reserveProviderLeaseIdempotent store shelf)
  | putRecord freeSpace journalId call locator record =>
    exact answered (shelves_putProviderRecordLeased shelf fun admitted =>
      recorded.uploads _ _ _ ⟨admitted, rfl, rfl, rfl⟩)
  | putRecords freeSpace journalId call records =>
    exact answered (shelves_putProviderRecordsLeased recognizes shelf
      fun admitted entry member =>
        recorded.uploads _ _ _ ⟨admitted, rfl, entry, member, rfl, rfl⟩)
  | putCapsule freeSpace journalId call bytes =>
    exact answered (shelves_putRecoveryCapsuleLeased shelf fun admitted header parsed =>
      recorded.uploads _ _ _ ⟨admitted, rfl, rfl, header, parsed, rfl⟩)
  | beginUpload freeSpace call requested =>
    exact answered (shelves_beginRecoveryCapsuleUpload shelf fun admitted =>
      recorded.announces _ _ ⟨admitted, rfl, rfl⟩)
  | putSegment freeSpace call uploadId index segment segmentDigest =>
    exact answered (shelves_putRecoveryCapsuleSegment shelf fun admitted =>
      recorded.handsIn _ _ ⟨admitted, rfl, rfl⟩)
  | commitUpload freeSpace journalId call uploadId =>
    exact answered (keeps_commitRecoveryCapsuleUpload recognizes store shelf)
  | acknowledge lease uploadId =>
    exact answered (keeps_acknowledgeRecoveryCapsuleUpload store shelf)
  | cancel lease now => exact answered (keeps_cancelProviderLease recognizes store shelf)
  | capacity freeSpace now scope => exact answered (keeps_providerCapacity store shelf)
  | reopen now => exact answered (keeps_recoverStore recognizes store shelf)

end Call

/-! ## Runs -/

/-- At some step of a run, a provider that is running gets a call of some kind. -/
def Happened (installation : Installation) (steps : List Step) (kind : Store → Call → Prop) :
    Prop :=
  ∃ before step after, steps = before ++ step :: after ∧
    (runSteps installation System.fresh before).running = true ∧
    kind (runSteps installation System.fresh before).store step.call

variable {steps : List Step}

theorem Happened.append {more : List Step} {kind : Store → Call → Prop}
    (happened : Happened installation steps kind) :
    Happened installation (steps ++ more) kind := by
  obtain ⟨before, step, after, rfl, running, kind⟩ := happened
  exact ⟨before, step, after ++ more, by simp, running, kind⟩

/-- What was begun in a run. -/
def history (installation : Installation) (steps : List Step) : History where
  uploaded := fun scope key bytes =>
    Happened installation steps fun store => Call.Uploads store scope key bytes
  announced := fun scope descriptor =>
    Happened installation steps fun store => Call.Announces store scope descriptor
  handed := fun scope segment =>
    Happened installation steps fun store => Call.HandsIn store scope segment

theorem history_extends (steps more : List Step) :
    (history installation steps).Extends (history installation (steps ++ more)) where
  uploaded := fun scope key bytes =>
    @Happened.append _ _ steps more fun store => Call.Uploads store scope key bytes
  announced := fun scope descriptor =>
    @Happened.append _ _ steps more fun store => Call.Announces store scope descriptor
  handed := fun scope segment =>
    @Happened.append _ _ steps more fun store => Call.HandsIn store scope segment

variable {steps : List Step} {step : Step} {scope : Scope} {locator : Locator}
  {locators : List Locator} {key : CapsuleKey} {owner : DeviceId} {backup : Option BackupId}
  {descriptor : RecoveryCapsuleDescriptor} {totalBytes : Nat} {capsuleDigest : Digest}

theorem runSteps_append {system : System} {more : List Step} :
    runSteps installation system (steps ++ more) =
      runSteps installation (runSteps installation system steps) more :=
  foldl_append

theorem shelf_fresh {history : History} : Shelf history (fun _ _ _ => False) Store.fresh where
  held := nofun
  stored := fun _ _ => nofun
  references := fun _ _ _ _ => nofun
  leases := fun _ _ => nofun
  descriptors := fun _ _ => nofun
  pages := fun _ _ => nofun
  journals := fun _ _ => nofun
  strays := fun _ => nofun
  segments := fun _ _ _ _ _ => nofun

theorem Shelf.loseReference {history : History} (shelf : Shelf history granted store)
    (loss : Locator × Bool) : Shelf history granted (store.loseReference loss) := by
  unfold Store.loseReference
  split
  · split_ifs
    · exact shelf.tearReference loss.1
    · exact shelf.dropReference loss.1
  · exact shelf

/-- A step keeps the shelf of every history that has what the step begins. -/
theorem shelf_after {history : History} {system : System} (recognizes : history.Recognizes)
    (recorded : system.running = true → step.call.RecordedIn history system.store)
    (shelf : Shelf history granted system.store) :
    Shelf history granted (system.after installation step).store := by
  by_cases taken : system.running = true ∨ step.call.opens = true
  · have recorded : step.call.RecordedIn history system.store :=
      taken.elim recorded Call.recordedIn_of_opens
    have keeps : Triple (fun _ => True) (step.call.run installation) system.store
        (fun _ => Shelf history granted) (Shelf history granted) :=
      Call.shelves recognizes recorded shelf
    rcases System.after_of_triple keeps (fun _ _ => trivial) fun _ loss kept =>
      kept.loseReference loss with same | ⟨kept, -⟩
    · rw [same]
      exact shelf
    · exact kept
  · -- There is no process to take the step.
    rw [System.after, if_neg (by simpa using taken)]
    exact shelf

theorem shelf_step (collisionFree : (history installation (steps ++ [step])).CollisionFree)
    (shelf : Shelf (history installation steps) granted
      (runSteps installation System.fresh steps).store) :
    Shelf (history installation (steps ++ [step])) granted
      (runSteps installation System.fresh (steps ++ [step])).store := by
  rw [runSteps_append]
  refine shelf_after collisionFree.recognizes (fun running => ?_)
    ((history_extends steps [step]).shelf shelf)
  exact ⟨fun _ _ _ uploads => ⟨steps, step, [], rfl, running, uploads⟩,
    fun _ _ announces => ⟨steps, step, [], rfl, running, announces⟩,
    fun _ _ handsIn => ⟨steps, step, [], rfl, running, handsIn⟩⟩

/-- Everything stored is attributed in every run, and what is held stays held. -/
theorem shelf_runSteps {more : List Step}
    (collisionFree : (history installation (steps ++ more)).CollisionFree)
    (shelf : Shelf (history installation steps) granted
      (runSteps installation System.fresh steps).store) :
    Shelf (history installation (steps ++ more)) granted
      (runSteps installation System.fresh (steps ++ more)).store := by
  induction more using List.reverseRecOn with
  | nil =>
    rw [append_nil]
    exact shelf
  | append_singleton more step ih =>
    rw [← append_assoc] at collisionFree ⊢
    have earlier := (history_extends (steps ++ more) [step]).collisionFree collisionFree
    exact shelf_step collisionFree (ih earlier)

theorem shelf_run (collisionFree : (history installation steps).CollisionFree) :
    Shelf (history installation steps)
      ((runSteps installation System.fresh steps).store.Holds (history installation steps))
      (runSteps installation System.fresh steps).store :=
  (@shelf_runSteps _ _ _ [] steps collisionFree shelf_fresh).rebase

/-- The history in which everyone began everything. -/
def History.everything : History :=
  ⟨fun _ _ _ => True, fun _ _ => True, fun _ _ => True⟩

theorem History.recognizes_everything : History.everything.Recognizes :=
  fun _ _ _ _ _ _ _ _ => .inl trivial

/-- Whatever peers do, what is held stays held. -/
theorem shelf_everything (installation : Installation) (system : System) (steps : List Step)
    (shelf : Shelf .everything granted system.store) :
    Shelf .everything granted (runSteps installation system steps).store := by
  induction steps generalizing system with
  | nil => exact shelf
  | cons step rest ih =>
    refine ih _ (shelf_after History.recognizes_everything (fun _ => ?_) shelf)
    exact ⟨fun _ _ _ _ => trivial, fun _ _ _ => trivial, fun _ _ _ => trivial⟩

/-- **Durability.**  Whatever calls, failures, crashes and recoveries follow, an object that is
stored stays, with the same bytes. -/
theorem stored_objects_stay (installation : Installation) (steps more : List Step)
    (key : ObjectKey) (bytes : Bytes)
    (stored : ((runSteps installation System.fresh steps).store.objects.get? key).map
      StoredObject.bytes = some bytes) :
    ((runSteps installation System.fresh (steps ++ more)).store.objects.get? key).map
      StoredObject.bytes = some bytes := by
  have shelf := (shelf_everything installation System.fresh steps shelf_fresh).rebase
  have later := shelf_everything installation _ more shelf
  rw [← runSteps_append] at later
  exact (later.held ⟨⟨⟨0⟩⟩, ⟨⟨0⟩⟩⟩ key bytes ⟨stored, .inl trivial⟩).stored

/-! ## Replies -/

/-- A capsule that a peer began to upload for a backup, with its length and its digest. -/
def History.BeganCapsule (history : History) (key : CapsuleKey) (totalBytes : Nat)
    (capsuleDigest : Digest) (bytes : Bytes) : Prop :=
  history.Began key.scope (.capsule key) bytes ∧ bytes.length = totalBytes ∧
    digest bytes = capsuleDigest

/-- What a peer is told is about what it began to upload, and the bytes that it is given
are those that it handed in. -/
def Reply.Own (history : History) (peer : DeviceId) : Read → Reply → Prop
  | .getScoped backup locator, .scopedRecord record =>
    history.Began ⟨peer, backup⟩ (.chunk locator) record
  | .getBatch backup locators, .records batch =>
    batch.map Prod.fst = locators ∧
      ∀ entry ∈ batch, history.Began ⟨peer, backup⟩ (.chunk entry.1) entry.2
  | .containsScoped backup locator, .scopedPresence _ =>
    ∃ record, history.Began ⟨peer, backup⟩ (.chunk locator) record
  | .queryRecoveryCapsule backup snapshotId signer totalBytes capsuleDigest,
      .recoveryCapsuleStatus committed =>
      signer = peer ∧ (committed = true →
        ∃ bytes, history.BeganCapsule ⟨⟨peer, backup⟩, snapshotId⟩ totalBytes capsuleDigest bytes)
  | .listRecoveryCapsules backup _ _, .recoveryCapsuleDescriptors descriptors _ =>
    ∀ descriptor ∈ descriptors, descriptor.signerDeviceId = peer ∧
      (∀ wanted, backup = some wanted → descriptor.backupId = wanted) ∧
      ∃ bytes, history.BeganCapsule ⟨⟨peer, descriptor.backupId⟩, descriptor.snapshotId⟩
        descriptor.totalBytes descriptor.capsuleDigest bytes
  | .getRecoveryCapsuleSegment backup snapshotId offset maximumBytes,
      .recoveryCapsuleSegment segment totalBytes capsuleDigest =>
      ∃ bytes, history.BeganCapsule ⟨⟨peer, backup⟩, snapshotId⟩ totalBytes capsuleDigest bytes ∧
        segment = (bytes.drop offset).take maximumBytes
  | _, _ => False

/-! ### Chunks -/

omit [Formats] in
theorem authorizeRecord_eq_ok (authorized : authorizeRecord scope locator store = .ok ()) :
    ∃ reference durable, store.references.get? locator = some (.intact reference durable) ∧
      reference.owners.get? scope = some () := by
  unfold authorizeRecord at authorized
  split at authorized
  case h_1 => cases authorized
  case h_2 => cases authorized
  case h_3 reference durable found =>
    rw [refuse_eq_ok, Bool.not_eq_false', BTreeMap.containsKey_iff] at authorized
    obtain ⟨_, owner⟩ := authorized
    exact ⟨reference, durable, found, owner⟩

omit [Formats] in
theorem authorizeRecords_eq_ok {named : List Locator}
    (authorized : authorizeRecords scope store named locators = .ok ()) :
    ∀ locator ∈ locators, authorizeRecord scope locator store = .ok () := by
  induction locators generalizing named with
  | nil => exact fun _ member => absurd member not_mem_nil
  | cons first rest ih =>
    simp only [authorizeRecords, bind_eq_ok, exists_unit] at authorized
    obtain ⟨-, own, others⟩ := authorized
    intro locator member
    rcases mem_cons.mp member with rfl | member
    · exact own
    · exact ih others locator member

theorem Shelf.authorized {history : History} (shelf : Shelf history granted store)
    (authorized : authorizeProviderRecordBatch scope locators store = .ok ()) :
    ∀ locator ∈ locators, ∃ record, store.Holds history scope (.chunk locator) record := by
  simp only [authorizeProviderRecordBatch, bind_eq_ok, exists_unit] at authorized
  intro locator member
  obtain ⟨reference, durable, found, owner⟩ :=
    authorizeRecord_eq_ok (authorizeRecords_eq_ok authorized.2 locator member)
  exact shelf.references locator reference durable scope found owner

omit [Formats] in
theorem getProviderRecord_eq_ok {record : Bytes}
    (found : getProviderRecord installation locator store = .ok record) :
    (store.objects.get? (.chunk locator)).map StoredObject.bytes = some record := by
  simp only [getProviderRecord, bind_eq_ok, exists_unit, okOr_eq_ok, pure_eq_ok] at found
  obtain ⟨object, present, -, same⟩ := found
  exact stored_of_eq_some present same

omit [Formats] in
theorem getProviderRecords_eq_ok {moment : Locator → Store} {total : Nat}
    {records : List (Locator × Bytes)}
    (found : getProviderRecords installation moment total locators = .ok records) :
    records.map Prod.fst = locators ∧ ∀ entry ∈ records,
      ((moment entry.1).objects.get? (.chunk entry.1)).map StoredObject.bytes = some entry.2 := by
  induction locators generalizing total records with
  | nil =>
    cases found
    exact ⟨rfl, fun _ member => absurd member not_mem_nil⟩
  | cons locator rest ih =>
    simp only [getProviderRecords, bind_eq_ok, exists_unit, pure_eq_ok] at found
    obtain ⟨record, first, -, others, found, rfl⟩ := found
    obtain ⟨names, stored⟩ := ih found
    refine ⟨congrArg (locator :: ·) names, fun entry member => ?_⟩
    rcases mem_cons.mp member with rfl | member
    · exact getProviderRecord_eq_ok first
    · exact stored entry member

theorem Shelf.read {key : ObjectKey} {read : Bytes} {now : Store}
    (shelf : Shelf later (store.Holds earlier) now) (holds : store.Holds earlier scope key bytes)
    (found : (now.objects.get? key).map StoredObject.bytes = some read) :
    earlier.Began scope key read := by
  have same := (shelf.held _ _ _ holds).stored
  rw [found] at same
  cases same
  exact holds.began

/-! ### Capsules -/

omit [Formats] in
theorem readPageEntries_eq_ok {sequence count : Nat} {entries : List RecoveryCapsuleDescriptor}
    (found : readPageEntries owner backup store sequence count = .ok entries) :
    ∀ descriptor ∈ entries, (∃ slot, store.pages.get? slot = some descriptor) ∧
      descriptor.signerDeviceId = owner ∧
      ∀ wanted, backup = some wanted → descriptor.backupId = wanted := by
  induction count generalizing sequence entries with
  | zero =>
    cases found
    exact fun _ member => absurd member not_mem_nil
  | succ count ih =>
    simp only [readPageEntries, readPageEntry, bind_eq_ok, exists_unit, okOr_eq_ok,
      refuse_eq_ok, Bool.or_eq_false_iff, bne_eq_false_iff_eq, pure_eq_ok] at found
    obtain ⟨first, ⟨_, present, ⟨⟨-, signer⟩, wanted⟩, rfl⟩, others, found, rfl⟩ := found
    intro descriptor member
    rcases mem_cons.mp member with rfl | member
    · refine ⟨⟨_, present⟩, signer, fun backup same => ?_⟩
      rw [same, Option.any_some, bne_eq_false_iff_eq] at wanted
      exact wanted
    · exact ih found descriptor member

omit [Formats] in
theorem listRecoveryCapsuleDescriptorsForOwner_eq_ok {policy : ProviderQuotaPolicy}
    {cursor nextCursor : Option PageSlot}
    {limit : Nat} {descriptors : List RecoveryCapsuleDescriptor}
    (found : listRecoveryCapsuleDescriptorsForOwner policy owner backup cursor limit store =
      .ok (descriptors, nextCursor)) :
    ∀ descriptor ∈ descriptors, (∃ slot, store.pages.get? slot = some descriptor) ∧
      descriptor.signerDeviceId = owner ∧
      ∀ wanted, backup = some wanted → descriptor.backupId = wanted := by
  simp only [listRecoveryCapsuleDescriptorsForOwner, bind_eq_ok, exists_unit] at found
  obtain ⟨-, found⟩ := found
  cases present : feedExists (ownerFeed owner backup) store with
  | true =>
    simp only [present, if_true, bind_eq_ok, exists_unit, pure_eq_ok, Prod.mk.injEq] at found
    obtain ⟨_, -, start, -, -, entries, read, rfl, -⟩ := found
    exact fun descriptor member =>
      readPageEntries_eq_ok read descriptor (mem_of_mem_take member)
  | false =>
    simp only [present, Bool.false_eq_true, if_false, bind_eq_ok, exists_unit,
      pure_eq_ok, Prod.mk.injEq] at found
    obtain ⟨-, rfl, -⟩ := found
    exact fun _ member => absurd member not_mem_nil

theorem Describes.beganCapsule {history : History}
    (describes : Describes (store.Holds history) descriptor) :
    ∃ bytes, history.BeganCapsule descriptor.key descriptor.totalBytes
      descriptor.capsuleDigest bytes :=
  let ⟨bytes, holds, length, digested⟩ := describes
  ⟨bytes, holds.began, length, digested⟩

theorem recoveryCapsuleIsCommittedForOwner_eq_ok
    (found : recoveryCapsuleIsCommittedForOwner key totalBytes capsuleDigest store = .ok true) :
    ∃ descriptor, store.descriptors.get? key = some descriptor ∧
      descriptor.totalBytes = totalBytes ∧ descriptor.capsuleDigest = capsuleDigest := by
  simp only [recoveryCapsuleIsCommittedForOwner, bind_eq_ok, exists_unit] at found
  obtain ⟨-, -, found⟩ := found
  cases present : store.descriptors.get? key with
  | none =>
    rw [present] at found
    cases (Except.ok.inj found)
  | some descriptor =>
    simp only [present, bind_eq_ok, exists_unit] at found
    obtain ⟨-, found⟩ := found
    split_ifs at found with same
    · exact ⟨descriptor, rfl, same⟩
    · cases (Except.ok.inj found)

omit [Formats] in
theorem readRecoveryCapsuleSegmentForOwner_eq_ok {offset maximumBytes : Nat}
    {described : Store} {segment : Bytes}
    (found : readRecoveryCapsuleSegmentForOwner key offset maximumBytes described store =
      .ok (segment, totalBytes, capsuleDigest)) :
    ∃ descriptor capsule, described.descriptors.get? key = some descriptor ∧
      descriptor.totalBytes = totalBytes ∧ descriptor.capsuleDigest = capsuleDigest ∧
      (store.objects.get? (.capsule key)).map StoredObject.bytes = some capsule ∧
      segment = (capsule.drop offset).take maximumBytes := by
  simp only [readRecoveryCapsuleSegmentForOwner, bind_eq_ok, exists_unit, okOr_eq_ok,
    refuse_eq_ok, bne_eq_false_iff_eq, pure_eq_ok, Prod.mk.injEq] at found
  obtain ⟨-, -, descriptor, present, -, object, stored, length, rfl, rfl, rfl⟩ := found
  refine ⟨descriptor, object.bytes, present, rfl, rfl, stored_of_eq_some stored rfl, ?_⟩
  -- Nothing lies behind the end of the capsule.
  rw [min_comm, ← take_take, ← length, ← length_drop, take_length]

/-- A descriptor that is stored under its name is about a capsule that its peer began. -/
theorem Shelf.described {history : History} (shelf : Shelf history granted store)
    (found : store.descriptors.get? key = some descriptor) :
    ∃ bytes, store.Holds history key.scope (.capsule key) bytes ∧
      bytes.length = descriptor.totalBytes ∧ digest bytes = descriptor.capsuleDigest := by
  obtain ⟨rfl, describes⟩ := shelf.descriptors key descriptor found
  exact describes

/-! ### All of them -/

/-- **Isolation.**  In every run, whatever peers do and however it ends, a reply to a peer
is about what that peer began to upload, under its own leases, before it was authorised;
and the bytes in it are those that it handed in. -/
theorem peers_read_their_own (installation : Installation) (trusted : TrustedPeers)
    (peer : DeviceId) (read : Read) (reply : Reply) (steps more : List Step)
    (moment : Locator → Nat) (moreLater : Nat)
    (collisionFree : (history installation (steps ++ more)).CollisionFree)
    (answered : read.answer installation trusted peer
      (runSteps installation System.fresh steps).store
      (fun locator =>
        (runSteps installation System.fresh (steps ++ more.take (moment locator))).store)
      (runSteps installation System.fresh (steps ++ more.take moreLater)).store = .ok reply) :
    reply.Own (history installation steps) peer read := by
  have shelf := shelf_run ((history_extends steps more).collisionFree collisionFree)
  have shelves : ∀ count, Shelf (history installation (steps ++ more.take count))
      ((runSteps installation System.fresh steps).store.Holds (history installation steps))
      (runSteps installation System.fresh (steps ++ more.take count)).store := by
    intro count
    refine shelf_runSteps ?_ shelf
    have extends_ := @history_extends _ installation (steps ++ more.take count) (more.drop count)
    rw [append_assoc, take_append_drop] at extends_
    exact extends_.collisionFree collisionFree
  cases read with
  | getScoped backup locator =>
    simp only [Read.answer, bind_eq_ok, exists_unit, pure_eq_ok] at answered
    obtain ⟨-, authorized, record, found, rfl⟩ := answered
    obtain ⟨bytes, holds⟩ := shelf.authorized authorized locator (mem_singleton.mpr rfl)
    exact (shelves _).read holds (getProviderRecord_eq_ok found)
  | getBatch backup locators =>
    simp only [Read.answer, bind_eq_ok, exists_unit, pure_eq_ok] at answered
    obtain ⟨-, -, authorized, records, found, rfl⟩ := answered
    obtain ⟨names, stored⟩ := getProviderRecords_eq_ok found
    refine ⟨names, fun entry member => ?_⟩
    have named : entry.1 ∈ locators := names ▸ mem_map_of_mem member
    obtain ⟨bytes, holds⟩ := shelf.authorized authorized entry.1 named
    exact (shelves _).read holds (stored entry member)
  | containsScoped backup locator =>
    simp only [Read.answer, bind_eq_ok, exists_unit, pure_eq_ok] at answered
    obtain ⟨-, authorized, rfl⟩ := answered
    obtain ⟨bytes, holds⟩ := shelf.authorized authorized locator (mem_singleton.mpr rfl)
    exact ⟨bytes, holds.began⟩
  | queryRecoveryCapsule backup snapshotId signer totalBytes capsuleDigest =>
    simp only [Read.answer, bind_eq_ok, exists_unit, refuse_eq_ok, bne_eq_false_iff_eq,
      pure_eq_ok] at answered
    obtain ⟨-, committed, found, same, rfl⟩ := answered
    refine ⟨same, fun isCommitted => ?_⟩
    rw [isCommitted] at found
    obtain ⟨descriptor, present, rfl, rfl⟩ := recoveryCapsuleIsCommittedForOwner_eq_ok found
    obtain ⟨bytes, holds, length, digested⟩ := shelf.described present
    exact ⟨bytes, holds.began, length, digested⟩
  | listRecoveryCapsules backup cursor limit =>
    simp only [Read.answer, bind_eq_ok, exists_unit, pure_eq_ok] at answered
    obtain ⟨-, ⟨descriptors, nextCursor⟩, found, rfl⟩ := answered
    intro descriptor member
    obtain ⟨⟨slot, present⟩, rfl, wanted⟩ :=
      listRecoveryCapsuleDescriptorsForOwner_eq_ok found descriptor member
    exact ⟨rfl, wanted, (shelf.pages slot descriptor present).beganCapsule⟩
  | getRecoveryCapsuleSegment backup snapshotId offset maximumBytes =>
    simp only [Read.answer, bind_eq_ok, exists_unit, pure_eq_ok] at answered
    obtain ⟨-, ⟨segment, totalBytes, capsuleDigest⟩, found, rfl⟩ := answered
    obtain ⟨descriptor, capsule, present, rfl, rfl, stored, rfl⟩ :=
      readRecoveryCapsuleSegmentForOwner_eq_ok found
    obtain ⟨bytes, holds, length, digested⟩ := shelf.described present
    have same := ((shelves moreLater).held _ _ _ holds).stored
    rw [stored] at same
    cases same
    exact ⟨capsule, ⟨holds.began, length, digested⟩, rfl⟩

end Isolation

/-! ## Runs of two peers -/

namespace Sample

/-- A provider with room for two objects. -/
def roomy : Installation :=
  { installation with
    policy := { installation.policy with maximumTotalBytes := 200, maximumTotalObjects := 2 } }

/-- The lease of another peer, for a backup of its own. -/
def otherLease : StorageLease :=
  { lease with leaseId := "other", peerDeviceId := ⟨⟨4⟩⟩, backupId := ⟨⟨5⟩⟩, nonce := "other" }

def otherCall : LeaseCall :=
  ⟨⟨⟨4⟩⟩, ⟨⟨5⟩⟩, otherLease, 2⟩

/-- Two leases, and a chunk under one of them. -/
def stored : List Step :=
  [{ call := .reserve 1000 lease }, { call := .reserve 1000 otherLease },
    { call := upload 1 7 5 }]

/-- The other peer uploads the same chunk and its reference is refused; the store is opened
and the upload is repeated. -/
def shared : List Step :=
  stored ++ [{ call := .putRecord 1000 ⟨2⟩ otherCall ⟨7⟩ (record 5),
               script := [none, some .refused] },
    { call := .reopen 2 }, { call := .putRecord 1000 ⟨3⟩ otherCall ⟨7⟩ (record 5) }]

/-- The whole run, with the first lease cancelled at its end. -/
def cancelled : List Step :=
  shared ++ [{ call := .cancel lease 3 }]

/-- The upload of the other peer fails.  The process ends while it uploads another chunk,
whose reference is torn.  The store is opened, and the first lease is cancelled. -/
def disturbed : List Step :=
  [{ call := .putRecord 1000 ⟨2⟩ otherCall ⟨7⟩ (record 5), script := [none, some .refused] },
    { call := .putRecords 1000 ⟨3⟩ otherCall [(⟨8⟩, record 5)],
      script := [none, none, some .cut], lost := [(⟨8⟩, true)] },
    { call := .reopen 2 }, { call := .cancel lease 3 }]

/-- The peers, who may read their backups. -/
def readers : TrustedPeers :=
  ((∅ : TrustedPeers).insert ⟨⟨1⟩⟩ ⟨[.backupReader], false⟩).insert ⟨⟨4⟩⟩ ⟨[.backupReader], false⟩

/-- A call that stores no capsule and no chunk but one. -/
def OnlyRecords (bytes : Bytes) : Call → Prop
  | .putRecord _ _ _ _ record => record = bytes
  | .putRecords _ _ _ records => ∀ entry ∈ records, entry.2 = bytes
  | .putCapsule .. | .beginUpload .. | .putSegment .. => False
  | _ => True

instance (bytes : Bytes) : DecidablePred (OnlyRecords bytes) := fun call => by
  cases call <;> unfold OnlyRecords <;> infer_instance

/-- In a run that stores the same bytes only, nothing else was begun. -/
theorem began_eq {other : Bytes} {key : ObjectKey}
    (only : ∀ step ∈ steps, OnlyRecords bytes step.call)
    (began : (history roomy steps).Began scope key other) : other = bytes := by
  rcases began with ⟨before, step, after, rfl, -, uploads⟩ |
    ⟨descriptor, segments, ⟨before, step, after, rfl, -, announces⟩, -⟩
  · have only := only step (mem_append_right before mem_cons_self)
    generalize step.call = call at only uploads
    cases call with
    | putRecord freeSpace journalId call locator record => exact uploads.2.2.2.trans only
    | putRecords freeSpace journalId call records =>
      obtain ⟨-, -, entry, member, -, rfl⟩ := uploads
      exact only entry member
    | putCapsule => exact only.elim
    | _ => exact uploads.elim
  · have only := only step (mem_append_right before mem_cons_self)
    generalize step.call = call at only announces
    cases call with
    | beginUpload => exact only.elim
    | _ => exact announces.elim

theorem cancelled_began {key : ObjectKey}
    (began : (history roomy cancelled).Began scope key bytes) : bytes = record 5 :=
  began_eq (by decide +kernel : ∀ step ∈ cancelled, OnlyRecords (record 5) step.call) began

end Sample

open Sample in
/-- A peer reads the chunk that it stored after another peer, although its first upload
failed. -/
theorem shared_chunk_is_its_own :
    Reply.Own (history roomy shared) ⟨⟨4⟩⟩ (.getScoped ⟨⟨5⟩⟩ ⟨7⟩) (.scopedRecord (record 5)) :=
  peers_read_their_own roomy readers ⟨⟨4⟩⟩ (.getScoped ⟨⟨5⟩⟩ ⟨7⟩) (.scopedRecord (record 5))
    shared [{ call := .cancel lease 3 }] (fun _ => 1) 0
    (fun _ _ _ _ _ _ first second _ => (cancelled_began first).trans (cancelled_began second).symm)
    (by decide +kernel)

open Sample in
/-- The chunk of a peer stays while the uploads of another fail, a reference is torn and the
lease of the chunk is cancelled. -/
theorem uploaded_chunk_stays :
    (runSteps roomy System.fresh (stored ++ disturbed.take 2)).running = false ∧
      (runSteps roomy System.fresh (stored ++ disturbed.take 2)).store.references.get? ⟨8⟩ =
        some .torn ∧
      ((runSteps roomy System.fresh (stored ++ disturbed)).store.objects.get? (.chunk ⟨7⟩)).map
        StoredObject.bytes = some (record 5) :=
  ⟨by decide +kernel, rfl,
    stored_objects_stay roomy stored disturbed (.chunk ⟨7⟩) (record 5) (by decide +kernel)⟩

end Covalent.Provider
