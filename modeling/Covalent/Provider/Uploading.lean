import Covalent.Provider.Compaction

/-!
# What uploads do to the books

An upload writes its journal, creates its objects, and then writes its lease once, with
all of them counted.  Between the journal and the lease the objects wait to be counted;
the invariant of that time bounds what was created under the lease by what the lease has
counted and what the upload is about to count.
-/

namespace Covalent.Provider

open Durable Formats BTreeMap List

variable {allowed : Fault → Prop} {policy : ProviderQuotaPolicy}
  {admitted clock : Nat} {store after : Store} {file next : LeaseFile}

/-! ## The lease of a call -/

/-- What a call knows of its lease. -/
structure Usable (call : LeaseCall) (file : LeaseFile) (store : Store) : Prop where
  peer : call.lease.peerDeviceId = call.peer
  backup : call.lease.backupId = call.backup
  present : store.leases.get? file.key = some file
  lease : file.state.lease = call.lease
  active : file.activeAt call.now = true

variable {call : LeaseCall} {journalId : Uuid} {journal : UploadJournal} {key : ObjectKey}
  {bytes freeSpace : Nat} {extra : Resource → Nat} {state counted : ProviderLeaseState}
  {installation : Installation} {expectedNewObject : Bool} {records : List (Locator × Bytes)}
  {pending : List PendingRecord} {descriptor : RecoveryCapsuleDescriptor} {uploadId : String}
  {staged : StagedCapsuleUpload}

theorem loadActiveProviderLease_usable
    (keyed : ∀ key file, store.leases.get? key = some file → file.key = key)
    (loaded : loadActiveProviderLease call.peer call.backup call.lease call.now store = .ok file) :
    Usable call file store := by
  simp only [loadActiveProviderLease, bind_eq_ok, exists_unit, refuse_eq_ok, okOr_eq_ok,
    pure_eq_ok, Bool.or_eq_false_iff, bne_eq_false_iff_eq, decide_eq_false_iff_not,
    not_le] at loaded
  obtain ⟨⟨⟨peer, backup⟩, fresh⟩, key, path, found, present, ⟨cancelled, lease⟩, rfl⟩ := loaded
  refine ⟨peer, backup, ?_, lease, ?_⟩
  · rw [keyed key found present]
    exact present
  · simp only [LeaseFile.activeAt, cancelled, lease, Bool.not_false, Bool.true_and,
      decide_eq_true_eq]
    exact fresh

theorem Usable.live (usable : Usable call file store)
    (books : Books policy admitted call.now store) : store.Live file := by
  refine ⟨usable.present, fun pending => ?_⟩
  have ended := books.ended file.key file pending usable.present
  rw [usable.active] at ended
  cases ended

theorem Usable.scope (usable : Usable call file store) :
    call.lease.scope = ⟨call.peer, call.backup⟩ := by
  unfold StorageLease.scope
  rw [usable.peer, usable.backup]

/-! ## Journals -/

variable {upload : ProviderUploadJournal} {locator : Locator} {record : Bytes}
  {deferred : List Locator} {metadata : RecoveryCapsuleUpload}

/-- An upload of a lease that can be used may begin when no journal is left. -/
theorem underway_of_idle (books : Books policy admitted clock store) (idle : store.journals = ∅)
    (live : store.Live file) (active : file.activeAt admitted = true)
    (lease : upload.lease = file.state.lease) (formed : upload.WellFormed)
    (absent : upload.expectedNewObject = true → store.objects.get? upload.place = none) :
    Underway admitted store upload := by
  have found : ∀ other, store.leases.get? upload.lease.key = some other → other = file := by
    intro other present
    rw [lease] at present
    exact live.eq present
  refine ⟨formed, ?_, fun other present => found other present ▸ active, ?_⟩
  · rw [lease]
    exact live.2
  · intro other object present stored unlisted
    obtain rfl := found other present
    constructor
    · intro isNew
      rw [absent isNew] at stored
      cases stored
    · intro origin
      obtain ⟨waiting, outstanding, -⟩ :=
        books.awaited other upload.place object live stored origin unlisted
      exact absurd outstanding (Books.not_outstanding idle waiting)

/-- A staging file of which nothing can be read is left among the journals. -/
theorem Books.strandTorn (books : Books policy admitted clock store) :
    Books policy admitted clock (store.strand (.journal none)) where
  __ := books
  underway upload outstanding := by
    have before := books.underway upload outstanding
    exact ⟨before.formed, before.kept, before.running, before.expected⟩
  torn content member := by
    rcases mem_append.mp member with before | last
    · exact books.torn content before
    · exact Stray.journal.inj (mem_singleton.mp last)

theorem triple_writeJournal (ordinary : ¬ allowed (.stranded true))
    (books : Books policy admitted clock store) (idle : store.journals = ∅)
    (all : ∀ upload ∈ journal.uploads, Underway admitted store upload) :
    Triple allowed (writeJournal journalId journal) store
      (fun _ after => after = store.putJournal journalId journal ∧
        Books policy admitted clock after)
      (Books policy admitted clock) := by
  have free : store.journals.get? journalId = none := by
    rw [idle]
    rfl
  have written := books.putJournal free all
  refine triple_act ⟨rfl, written⟩ (fun _ => books) (fun _ => written) ?_
  intro whole permitted
  cases whole with
  | true => exact absurd permitted ordinary
  | false => exact books.strandTorn

/-! ## Between the journal and the lease -/

theorem SameBooks.created (same : SameBooks store after) (resource : Resource) (serial : Nat) :
    after.created resource serial = store.created resource serial := by
  unfold Store.created Store.sum
  rw [same.objects]

/-- An upload that has written its journal and not yet its lease. -/
structure Storing (policy : ProviderQuotaPolicy) (admitted clock : Nat) (file : LeaseFile)
    (journalId : Uuid) (journal : UploadJournal) (extra : Resource → Nat) (store : Store) :
    Prop where
  books : Books policy admitted clock store
  live : store.Live file
  active : file.activeAt admitted = true
  journals : store.journals = (∅ : BTreeMap Uuid UploadJournal).insert journalId journal
  leased : ∀ upload ∈ journal.uploads, upload.lease = file.state.lease
  bound : ∀ resource : Resource, store.created resource file.serial ≤
    resource.consumed file.state + extra resource

namespace Storing

variable {journalId : Uuid} {journal : UploadJournal} {extra : Resource → Nat}

section

variable (storing : Storing policy admitted clock file journalId journal extra store)

include storing

theorem same (same : SameBooks store after) :
    Storing policy admitted clock file journalId journal extra after where
  books := storing.books.same same
  live := by
    unfold Store.Live Store.pendingKeys
    rw [same.leases, same.ledger]
    exact storing.live
  active := storing.active
  journals := same.journals.trans storing.journals
  leased := storing.leased
  bound resource := by
    rw [same.created]
    exact storing.bound resource

variable {upload : ProviderUploadJournal}

theorem mem_of_outstanding (outstanding : store.Outstanding upload) : upload ∈ journal.uploads := by
  obtain ⟨other, kept, found, member⟩ := outstanding
  rw [storing.journals] at found
  rcases of_get?_insert found with ⟨-, rfl⟩ | ⟨-, nowhere⟩
  · exact member
  · cases nowhere

theorem outstanding (member : upload ∈ journal.uploads) : store.Outstanding upload := by
  refine ⟨journalId, journal, ?_, member⟩
  rw [storing.journals]
  exact get?_insert_self ..

/-- The lease is written with everything counted that was created under it. -/
theorem count (lease : next.state.lease = file.state.lease) (serial : next.serial = file.serial)
    (cancelled : next.state.cancelled = file.state.cancelled)
    (canonical : ∀ backupId snapshotId,
      next.state.objects.get? (.legacyCapsule backupId snapshotId) = none)
    (listed : ∀ key, (file.state.objects.get? key).isSome = true →
      (next.state.objects.get? key).isSome = true)
    (covers : ∀ upload ∈ journal.uploads, (next.state.objects.get? upload.place).isSome = true)
    (consumed : ∀ resource : Resource, resource.consumed next.state =
      store.created resource file.serial)
    (roomy : ∀ resource : Resource, resource.consumed next.state + resource.staged next.state ≤
      resource.allowance next.state.lease) :
    Books policy admitted clock (store.putLease next) := by
  have activeAt : ∀ time, next.activeAt time = file.activeAt time := by
    intro time
    unfold LeaseFile.activeAt
    rw [lease, cancelled]
  refine storing.books.putLease storing.live.1
    { lease := lease
      serial := serial
      canonical := canonical
      ended := fun ended => (activeAt clock).trans ended
      running := fun running => .inl ((activeAt admitted).trans running)
      roomy := roomy
      listed := ?_
      counted := ?_
      committed := ?_ }
  · intro key missing
    by_contra some
    have kept := listed key (Option.isSome_iff_ne_none.mpr some)
    rw [missing] at kept
    cases kept
  · intro _ resource
    rw [consumed]
    refine Store.sum_congr fun key object origin found created => ?_
    rw [serial]
    refine ⟨fun same => ⟨same, ?_⟩, fun both => both.1⟩
    -- What is not counted yet is in the journal.
    cases already : file.state.objects.get? key with
    | some length => exact listed key (by rw [already]; rfl)
    | none =>
      obtain ⟨upload, outstanding, -, place⟩ := storing.books.awaited file key object
        storing.live found (by rw [created, same]) already
      rw [← place]
      exact covers upload (storing.mem_of_outstanding outstanding)
  · intro _ resource
    unfold Resource.commitment
    rw [activeAt, storing.active, lease]
    exact le_rfl

end

end Storing

theorem triple_createObject_absent {bytes : Bytes} {serial : Nat} {operation : String}
    {post : Bool → Store → Prop} {stop : Store → Prop} (absent : store.objects.get? key = none)
    (fine : post true (store.putObject key ⟨bytes, some serial⟩)) (before : stop store)
    (after : stop (store.putObject key ⟨bytes, some serial⟩))
    (strand : ∀ stray, (∀ content, stray ≠ .journal content) → stop (store.strand stray)) :
    Triple allowed (createObject key bytes serial operation) store post stop := by
  refine triple_read ?_
  rw [if_neg (by simp [absent])]
  cases key with
  | chunk locator =>
    refine triple_bind (triple_act ?_ (fun _ => before) (fun _ => after) ?_)
    · exact triple_pure fine
    · exact fun _ _ => strand .chunk nofun
  | capsule key =>
    refine triple_bind (triple_act ?_ (fun _ => before) (fun _ => after) fun _ _ => before)
    exact triple_pure fine
  | legacyCapsule backupId snapshotId =>
    refine triple_bind (triple_act ?_ (fun _ => before) (fun _ => after) fun _ _ => before)
    exact triple_pure fine

theorem triple_createObject {journalId : Uuid} {journal : UploadJournal}
    {extra : Resource → Nat} {upload : ProviderUploadJournal} {bytes : Bytes} {operation : String}
    (storing : Storing policy admitted clock file journalId journal extra store)
    (member : upload ∈ journal.uploads) (isNew : upload.expectedNewObject = true)
    (only : ∀ other ∈ journal.uploads, other.place = upload.place → other = upload)
    (absent : store.objects.get? upload.place = none)
    (unlisted : file.state.objects.get? upload.place = none)
    (room : ∀ resource : Resource, resource.consumed file.state +
      (extra resource + resource.amount bytes.length) ≤ resource.allowance file.state.lease) :
    Triple allowed (createObject upload.place bytes file.serial operation) store
      (fun created after => created = true ∧ Storing policy admitted clock file journalId journal
          (fun resource => extra resource + resource.amount bytes.length) after ∧
        (∀ resource : Resource, after.created resource file.serial =
          store.created resource file.serial + resource.amount bytes.length) ∧
        (∀ other, other ≠ upload.place → after.objects.get? other = store.objects.get? other) ∧
        after.objects.get? upload.place = some ⟨bytes, some file.serial⟩)
      (fun after => Storing policy admitted clock file journalId journal
          (fun resource => extra resource + resource.amount bytes.length) after ∧
        ∀ other, other ≠ upload.place → after.objects.get? other = store.objects.get? other) := by
  have weight : ∀ resource : Resource, resource.weigh ⟨bytes, some file.serial⟩ =
      resource.amount bytes.length := fun resource => resource.weigh_eq_amount _
  have made : ∀ resource : Resource,
      (store.putObject upload.place ⟨bytes, some file.serial⟩).created resource file.serial =
        store.created resource file.serial + resource.amount bytes.length := by
    intro resource
    rw [← weight]
    unfold Store.created
    rw [Store.sum_putObject _ absent]
    exact congrArg _ (@Store.weighIf_of resource (· = file.serial) ⟨bytes, some file.serial⟩
      file.serial rfl rfl)
  have books : Books policy admitted clock
      (store.putObject upload.place ⟨bytes, some file.serial⟩) := by
    refine storing.books.putObject storing.live absent unlisted ?_
      ⟨upload, storing.outstanding member, storing.leased upload member, rfl⟩ ?_
    · intro resource
      have bound := storing.bound resource
      have enough := room resource
      rw [weight]
      omega
    · intro other outstanding place
      obtain rfl := only other (storing.mem_of_outstanding outstanding) place
      exact ⟨by rw [storing.leased other member]; rfl, isNew⟩
  have frame : ∀ other, other ≠ upload.place →
      (store.putObject upload.place ⟨bytes, some file.serial⟩).objects.get? other =
        store.objects.get? other := fun other apart =>
    (get?_insert ..).trans (if_neg apart)
  have stored : Storing policy admitted clock file journalId journal
      (fun resource => extra resource + resource.amount bytes.length)
      (store.putObject upload.place ⟨bytes, some file.serial⟩) :=
    { books := books
      live := storing.live
      active := storing.active
      journals := storing.journals
      leased := storing.leased
      bound := fun resource => by
        have bound := storing.bound resource
        rw [made]
        omega }
  have unchanged : Storing policy admitted clock file journalId journal
      (fun resource => extra resource + resource.amount bytes.length) store :=
    { storing with
      bound := fun resource => by
        have bound := storing.bound resource
        omega }
  exact triple_createObject_absent absent
    ⟨rfl, stored, made, frame, get?_insert_self ..⟩ ⟨unchanged, fun _ _ => rfl⟩
    ⟨stored, frame⟩ fun stray plain => ⟨unchanged.same (SameBooks.strand plain), fun _ _ => rfl⟩

/-! ## The two ends of an upload -/

theorem triple_announce {journalId : Uuid} {journal : UploadJournal}
    (ordinary : ¬ allowed (.stranded true)) (books : Books policy admitted clock store)
    (idle : store.journals = ∅) (live : store.Live file) (active : file.activeAt admitted = true)
    (leased : ∀ upload ∈ journal.uploads, upload.lease = file.state.lease)
    (formed : ∀ upload ∈ journal.uploads, upload.WellFormed)
    (absent : ∀ upload ∈ journal.uploads, upload.expectedNewObject = true →
      store.objects.get? upload.place = none) :
    Triple allowed (writeJournal journalId journal) store
      (fun _ after => after = store.putJournal journalId journal ∧
        Storing policy admitted clock file journalId journal (fun _ => 0) after ∧
          ∀ resource : Resource, after.created resource file.serial = resource.consumed file.state)
      (Sound policy clock) := by
  have exactly : ∀ resource : Resource,
      resource.consumed file.state = store.created resource file.serial :=
    books.consumed_eq_created live
      fun upload outstanding => absurd outstanding (Books.not_outstanding idle upload)
  refine (triple_writeJournal ordinary books idle fun upload member =>
    underway_of_idle books idle live active (leased upload member) (formed upload member)
      (absent upload member)).imp ?_ fun _ stopped => ⟨admitted, stopped⟩
  rintro - after ⟨rfl, right⟩
  refine ⟨rfl, ⟨right, live, active, ?_, leased, ?_⟩, fun resource => (exactly resource).symm⟩
  · show store.journals.insert journalId journal = _
    rw [idle]
  · exact fun resource => le_of_eq (exactly resource).symm

/-- The lease is written and the journal is still there. -/
structure Stored (policy : ProviderQuotaPolicy) (admitted clock : Nat) (next : LeaseFile)
    (journalId : Uuid) (journal : UploadJournal) (store : Store) : Prop where
  books : Books policy admitted clock store
  present : store.leases.get? next.key = some next
  journals : store.journals = (∅ : BTreeMap Uuid UploadJournal).insert journalId journal
  settled : ∀ upload ∈ journal.uploads, Books.Settled store upload

theorem Storing.triple_persist
    (storing : Storing policy admitted clock file journalId journal extra store)
    (counted : Books policy admitted clock (store.putLease next))
    (lease : next.state.lease = file.state.lease)
    (covers : ∀ upload ∈ journal.uploads, (next.state.objects.get? upload.place).isSome = true) :
    Triple allowed (persistProviderLease next) store
      (fun _ => Stored policy admitted clock next journalId journal) (Sound policy clock) := by
  refine (triple_persist_sound storing.books counted).mono fun _ after same => ?_
  refine ⟨counted.same same, same.present, same.journals.trans storing.journals, ?_⟩
  intro upload member
  refine .inr ⟨next, ?_, covers upload member⟩
  rw [storing.leased upload member, ← lease]
  exact same.present

theorem Stored.triple_complete
    (stored : Stored policy admitted clock next journalId journal store) :
    Triple allowed (completeProviderUploadJournal journalId) store
      (fun _ after => Books policy admitted clock after ∧ after.journals = ∅ ∧
        after.leases.get? next.key = some next)
      (Sound policy clock) := by
  refine (triple_dropJournal stored.books ?_).imp ?_ fun _ stopped => ⟨admitted, stopped⟩
  · intro other found
    rw [stored.journals, get?_insert_self] at found
    exact Option.some.inj found ▸ stored.settled
  · rintro - after ⟨rfl, right⟩
    refine ⟨right, ?_, stored.present⟩
    refine ext_get? fun other => ?_
    show (store.journals.erase journalId).get? other = none
    rw [get?_erase, stored.journals, get?_insert]
    split_ifs <;> rfl

/-- The journal goes and the upload is over. -/
theorem Stored.triple_finish {α : Type} {value : α}
    (stored : Stored policy admitted clock next journalId journal store) :
    Ends allowed (do
        completeProviderUploadJournal journalId
        pure value : Action α) store (Sound policy clock) :=
  stored.triple_complete.andThen fun _ _ kept => triple_pure ⟨admitted, kept.1⟩

/-- An upload of one object, with the object there. -/
structure Placed (policy : ProviderQuotaPolicy) (admitted clock : Nat) (file : LeaseFile)
    (journalId : Uuid) (upload : ProviderUploadJournal) (bytes : Nat) (store : Store) : Prop where
  storing : ∃ extra, Storing policy admitted clock file journalId (.single upload) extra store
  exactly : ∀ resource : Resource, store.created resource file.serial =
    resource.consumed file.state + if upload.expectedNewObject then resource.amount bytes else 0

section

variable {α : Type} {upload : ProviderUploadJournal} {content : Bytes} {operation : String}
  {goesOn : Bool → Action α} {other : Action α}
  (ordinary : ¬ allowed (.stranded true)) (books : Books policy admitted call.now store)
  (idle : store.journals = ∅) (usable : Usable call file store)
  (lease : upload.lease = call.lease) (formed : upload.WellFormed) (place : upload.place = key)
  (fresh : upload.expectedNewObject = true → store.objects.get? key = none ∧
    file.state.objects.get? key = none ∧ ∀ resource : Resource, resource.consumed file.state +
      resource.amount content.length ≤ resource.allowance file.state.lease)

include ordinary books idle usable lease formed place fresh

/-- One upload writes its journal and creates its object when it is new. -/
theorem triple_place (created : upload.expectedNewObject = true → ∀ after,
      Placed policy admitted call.now file journalId upload content.length after →
        Ends allowed (goesOn true) after (Sound policy call.now))
    (kept : upload.expectedNewObject = false → ∀ after,
      Placed policy admitted call.now file journalId upload content.length after →
        Ends allowed other after (Sound policy call.now)) :
    Ends allowed (do
        writeJournal journalId (.single upload)
        if upload.expectedNewObject then createObject key content file.serial operation >>= goesOn
        else other) store (Sound policy call.now) := by
  obtain rfl := place
  have only : ∀ other ∈ (UploadJournal.single upload).uploads, other = upload :=
    fun other member => mem_singleton.mp member
  refine (triple_announce ordinary books idle (usable.live books)
    (LeaseFile.activeAt_mono books.ordered usable.active)
    (fun other member => only other member ▸ lease.trans usable.lease.symm)
    (fun other member => only other member ▸ formed)
    (fun other member => only other member ▸ fun isNew => (fresh isNew).1)).andThen ?_
  rintro - announced ⟨rfl, storing, exactly⟩
  split_ifs with isNew
  · obtain ⟨absent, unlisted, room⟩ := fresh isNew
    refine triple_bind ((triple_createObject storing (mem_singleton_self upload) isNew
      (fun other member _ => only other member) absent unlisted
      (fun resource => (Nat.zero_add _).symm ▸ room resource)).imp ?_
        fun _ stopped => ⟨admitted, stopped.1.books⟩)
    rintro - after ⟨rfl, stored, made, -⟩
    exact created isNew after ⟨⟨_, stored⟩, fun resource => by rw [made, exactly, if_pos isNew]⟩
  · refine kept (Bool.not_eq_true _ ▸ isNew) _ ⟨⟨_, storing⟩, fun resource => ?_⟩
    rw [exactly, if_neg isNew, Nat.add_zero]

/-- The same where both ways go on alike. -/
theorem triple_placed
    (rest : ∀ after, Placed policy admitted call.now file journalId upload content.length after →
      Ends allowed (goesOn upload.expectedNewObject) after (Sound policy call.now)) :
    Ends allowed (do
        writeJournal journalId (.single upload)
        if upload.expectedNewObject then createObject key content file.serial operation >>= goesOn
        else pure false >>= goesOn) store (Sound policy call.now) := by
  refine triple_place ordinary books idle usable lease formed place fresh ?_ ?_
  · exact fun isNew after placed => isNew ▸ rest after placed
  · exact fun isNew after placed => triple_bind (triple_pure (isNew ▸ rest after placed))

end

/-! ## Objects that are counted -/

theorem countObject_eq_ok {created : Bool}
    (found : countObject state key bytes created = .ok counted) :
    counted = { state with
      consumedNewBytes := state.consumedNewBytes + if created then bytes else 0
      consumedNewObjects := state.consumedNewObjects + if created then 1 else 0
      objects := state.objects.insert key bytes } := by
  cases created with
  | false =>
    simp only [countObject, Bool.false_eq_true, if_false, bind_eq_ok, pure_eq_ok,
      exists_eq_left'] at found
    exact found.symm
  | true =>
    simp only [countObject, if_true, bind_eq_ok, pure_eq_ok] at found
    obtain ⟨consumed, room, rfl⟩ := found
    obtain rfl := consume_eq_ok room
    rfl

theorem countObject_roomy {created : Bool}
    (found : countObject state key bytes created = .ok counted)
    (roomy : ∀ resource : Resource, resource.consumed state + resource.staged state ≤
      resource.allowance state.lease)
    (ensured : created = true → ensureLeaseConsumption state bytes 1 = .ok ())
    (resource : Resource) :
    resource.consumed counted + resource.staged counted ≤ resource.allowance counted.lease := by
  obtain rfl := countObject_eq_ok found
  have before := roomy resource
  cases created with
  | false => cases resource <;> exact before
  | true =>
    have room := ensureLeaseConsumption_one (ensured rfl) resource
    cases resource <;> exact (Nat.add_right_comm _ _ _).trans_le room

/-- The lease is written with the object counted. -/
theorem Storing.triple_count {created : Bool}
    (storing : Storing policy admitted clock file journalId (.single upload) extra store)
    (exactly : ∀ resource : Resource, store.created resource file.serial =
      resource.consumed file.state + if created then resource.amount bytes else 0)
    (counted : countObject file.state upload.place bytes created = .ok state)
    (roomy : ∀ resource : Resource, resource.consumed state + resource.staged state ≤
      resource.allowance state.lease) :
    Triple allowed (persistProviderLease { file with state := state }) store
      (fun _ => Stored policy admitted clock { file with state := state } journalId
        (.single upload)) (Sound policy clock) := by
  obtain rfl := countObject_eq_ok counted
  have covers : ∀ other ∈ [upload],
      ((file.state.objects.insert upload.place bytes).get? other.place).isSome = true := by
    intro other member
    rw [mem_singleton.mp member, get?_insert_self]
    rfl
  refine storing.triple_persist (storing.count rfl rfl rfl ?_ ?_ covers ?_ roomy) rfl covers
  · intro backupId snapshotId
    show (file.state.objects.insert upload.place bytes).get? _ = none
    rw [get?_insert_of_ne _ _ (place_canonical upload backupId snapshotId).symm]
    exact (storing.books.filed file.key file storing.live.1).canonical backupId snapshotId
  · exact fun key listed => isSome_get?_insert.mpr (.inr listed)
  · intro resource
    rw [exactly]
    cases resource <;> rfl

/-! ## One chunk -/

theorem stored_of_eq_some {object : StoredObject} {bytes : Bytes}
    (found : store.objects.get? key = some object) (same : object.bytes = bytes) :
    (store.objects.get? key).map StoredObject.bytes = some bytes := by
  rw [found, Option.map_some, same]

/-- A record that is to be stored is not listed yet; where it is not new, it is there. -/
theorem planRecord_eq_some {expectedNewObject : Bool}
    (planned : planRecord installation freeSpace call locator record store =
      .ok (some (file, expectedNewObject))) :
    loadActiveProviderLease call.peer call.backup call.lease call.now store = .ok file ∧
      file.state.objects.get? (.chunk locator) = none ∧
      (expectedNewObject = true → store.objects.get? (.chunk locator) = none ∧
        ensureLeaseConsumption file.state record.length 1 = .ok ()) ∧
      (expectedNewObject = false →
        (store.objects.get? (.chunk locator)).map StoredObject.bytes = some record) := by
  simp only [planRecord, bind_eq_ok, exists_unit, refuse_eq_ok] at planned
  obtain ⟨-, loadedFile, loaded, planned⟩ := planned
  cases listed : loadedFile.state.objects.get? (.chunk locator) with
  | some length =>
    simp only [listed, bind_eq_ok, pure_eq_ok] at planned
    obtain ⟨-, -, -, -, -, -, no⟩ := planned
    cases no
  | none =>
    rw [listed] at planned
    cases stored : store.objects.get? (.chunk locator) with
    | some object =>
      simp only [stored, bind_eq_ok, exists_unit, refuse_eq_ok, bne_eq_false_iff_eq,
        pure_eq_ok, Option.some.injEq, Prod.mk.injEq] at planned
      obtain ⟨same, rfl, rfl⟩ := planned
      exact ⟨loaded, listed, by rintro ⟨⟩, fun _ => by rw [Option.map_some, same]⟩
    | none =>
      simp only [stored, bind_eq_ok, pure_eq_ok, Option.some.injEq,
        Prod.mk.injEq, exists_unit] at planned
      obtain ⟨ensured, -, rfl, rfl⟩ := planned
      exact ⟨loaded, listed, fun _ => ⟨rfl, ensured⟩, by rintro ⟨⟩⟩

/-! ## A batch of chunks -/

def newAmount (pending : List PendingRecord) (resource : Resource) : Nat :=
  ((newRecords pending).map fun record => resource.amount record.record.length).sum

theorem newAmount_append (first second : List PendingRecord) (resource : Resource) :
    newAmount (first ++ second) resource =
      newAmount first resource + newAmount second resource := by
  unfold newAmount newRecords
  rw [filter_append, map_append, sum_append]

theorem newAmount_cons (record : PendingRecord) (rest : List PendingRecord) (resource : Resource) :
    newAmount (record :: rest) resource =
      (if record.expectedNewObject then resource.amount record.record.length else 0) +
        newAmount rest resource := by
  unfold newAmount newRecords
  rw [filter_cons]
  split_ifs
  · rw [map_cons, sum_cons]
  · rw [Nat.zero_add]

theorem newAmount_objects (pending : List PendingRecord) :
    newAmount pending .objects = (newRecords pending).length := by
  unfold newAmount Resource.amount
  simp

theorem newAmount_room (ensured : ensureLeaseConsumption state (newBytes pending)
      (newRecords pending).length = .ok ()) (resource : Resource) :
    resource.consumed state + resource.staged state + newAmount pending resource ≤
      resource.allowance state.lease := by
  obtain ⟨bytes, objects⟩ := ensureLeaseConsumption_room ensured
  cases resource with
  | bytes => exact bytes
  | objects =>
    rw [newAmount_objects]
    exact objects

/-- What a batch knows of a record before it writes. -/
structure Planned (store : Store) (file : LeaseFile) (record : PendingRecord) : Prop where
  unlisted : file.state.objects.get? (.chunk record.locator) = none
  absent : record.expectedNewObject = true → store.objects.get? (.chunk record.locator) = none

/-- The records of a batch that are pending were handed in, and those that are not new are
stored. -/
theorem classifyRecords_eq_ok (classified : classifyRecords store file records = .ok pending) :
    (∀ record ∈ pending, Planned store file record ∧ (record.locator, record.record) ∈ records ∧
      (record.expectedNewObject = false →
        (store.objects.get? (.chunk record.locator)).map StoredObject.bytes = some record.record)) ∧
      (pending.map PendingRecord.locator).Sublist (records.map Prod.fst) := by
  induction records generalizing pending with
  | nil =>
    cases classified
    exact ⟨fun _ member => absurd member not_mem_nil, List.Sublist.slnil⟩
  | cons entry rest ih =>
    obtain ⟨locator, record⟩ := entry
    simp only [classifyRecords, bind_eq_ok, pure_eq_ok] at classified
    obtain ⟨first, found, others, classified, rfl⟩ := classified
    obtain ⟨planned, sublist⟩ := ih classified
    have earlier := fun other member => (planned other member).imp_right fun both =>
      both.imp_left (mem_cons_of_mem (locator, record))
    unfold classifyRecord at found
    cases listed : file.state.objects.get? (.chunk locator) with
    | some length =>
      simp only [listed, bind_eq_ok, pure_eq_ok] at found
      obtain ⟨-, -, -, -, rfl⟩ := found
      exact ⟨earlier, sublist.cons _⟩
    | none =>
      simp only [listed, bind_eq_ok, exists_unit, refuse_eq_ok, pure_eq_ok] at found
      obtain ⟨agrees, rfl⟩ := found
      refine ⟨fun other member => ?_, sublist.cons_cons _⟩
      rcases mem_cons.mp member with rfl | member
      · refine ⟨⟨listed, fun isNew => by simpa using isNew⟩, mem_cons_self, fun known => ?_⟩
        have contained : store.objects.containsKey (.chunk locator) = true := by
          simpa using known
        obtain ⟨object, present⟩ := containsKey_iff.mp contained
        rw [storedOtherwise, present, Option.any_some, bne_eq_false_iff_eq] at agrees
        exact stored_of_eq_some present agrees
      · exact earlier other member

theorem planRecords_eq_ok (keyed : ∀ key file, store.leases.get? key = some file → file.key = key)
    (planned : planRecords installation freeSpace call records store = .ok (file, pending)) :
    Usable call file store ∧ (∀ record ∈ pending, Planned store file record) ∧
      (pending.map PendingRecord.locator).Nodup ∧
        ensureLeaseConsumption file.state (newBytes pending) (newRecords pending).length =
          .ok () := by
  simp only [planRecords, bind_eq_ok, exists_unit, refuse_eq_ok, pure_eq_ok,
    Prod.mk.injEq] at planned
  obtain ⟨-, -, distinct, -, loadedFile, loaded, classified, found, ensured, -, rfl, rfl⟩ := planned
  obtain ⟨all, sublist⟩ := classifyRecords_eq_ok found
  refine ⟨loadActiveProviderLease_usable keyed loaded, fun record member =>
    (all record member).1, ?_, ensured⟩
  exact List.Nodup.sublist sublist (by simpa using distinct)

theorem quiet_referenceRecords : Quiet allowed (forEachRecord (referenceRecord call) pending) := by
  refine Quiet.loop fun value record => ?_
  refine Quiet.bind (Quiet.attempt quiet_addProviderObjectReference) fun result => ?_
  cases result with
  | ok deferred => exact Quiet.pure
  | error problem => exact Quiet.pure

theorem countRecords_eq_ok (found : countRecords state pending deferred = .ok counted) :
    counted.lease = state.lease ∧ counted.cancelled = state.cancelled ∧
      counted.stagedCapsuleUpload = state.stagedCapsuleUpload ∧
      counted.objects = state.objects.extendList
        (pending.map fun record => (.chunk record.locator, record.record.length)) ∧
      ∀ resource : Resource, resource.consumed counted =
        resource.consumed state + newAmount pending resource := by
  simp only [countRecords, bind_eq_ok, pure_eq_ok] at found
  obtain ⟨consumed, room, rfl⟩ := found
  obtain rfl := consume_eq_ok room
  refine ⟨rfl, rfl, rfl, rfl, fun resource => ?_⟩
  cases resource with
  | bytes => rfl
  | objects =>
    rw [newAmount_objects]
    rfl

/-! ## A capsule -/

theorem place_capsuleJournal (scope : descriptor.key.scope = call.lease.scope) :
    (capsuleJournal call descriptor expectedNewObject).place = .capsule descriptor.key := by
  show ObjectKey.capsule ⟨call.lease.scope, descriptor.snapshotId⟩ = _
  rw [← scope]
  rfl

theorem wellFormed_capsuleJournal (scope : descriptor.key.scope = call.lease.scope) :
    (capsuleJournal call descriptor expectedNewObject).WellFormed := by
  refine ⟨descriptor, rfl, ?_⟩
  show descriptor.key = ⟨call.lease.scope, descriptor.snapshotId⟩
  rw [← scope]
  rfl

theorem stagedUpload_eq_ok (keyed : ∀ key file, store.leases.get? key = some file → file.key = key)
    (found : stagedUpload call uploadId store = .ok (file, staged)) :
    Usable call file store ∧ file.state.stagedCapsuleUpload = some staged ∧
      staged.upload.descriptor.key.scope = ⟨call.peer, call.backup⟩ := by
  simp only [stagedUpload, bind_eq_ok, exists_unit, refuse_eq_ok, okOr_eq_ok,
    Bool.or_eq_false_iff, bne_eq_false_iff_eq, pure_eq_ok, Prod.mk.injEq] at found
  obtain ⟨loadedFile, loaded, metadata, -, _, present, ⟨⟨⟨⟨same, backup⟩, peer⟩, -⟩, -⟩, rfl,
    rfl⟩ := found
  refine ⟨loadActiveProviderLease_usable keyed loaded, present, ?_⟩
  rw [same, ← peer, ← backup]
  rfl

theorem commitStaged_eq_ok {committed : ProviderLeaseState} {counts created : Bool} {now : Nat}
    (found : commitStaged state key bytes counts created now = .ok committed) :
    committed.lease = state.lease ∧ committed.cancelled = state.cancelled ∧
      committed.objects = state.objects.insert key bytes ∧
      (∀ resource : Resource, resource.consumed committed =
        resource.consumed state + if counts then resource.amount bytes else 0) ∧
      ∀ resource : Resource, resource.staged committed = 0 := by
  obtain ⟨counted, count, found⟩ := bind_eq_ok.mp found
  cases found
  obtain rfl := countObject_eq_ok count
  refine ⟨rfl, rfl, rfl, fun resource => by cases resource <;> rfl, fun resource => ?_⟩
  have reservation : ∀ after : ProviderLeaseState,
      after.stagedCapsuleUpload = (state.stagedCapsuleUpload.map fun staged =>
        { staged with committedCreated := some created, completedAt := some now }) →
          resource.staged after = 0 := by
    intro after same
    have zero : stagedReservation after = (0, 0) := by
      unfold stagedReservation
      rw [same]
      cases state.stagedCapsuleUpload <;> rfl
    cases resource <;> simp only [Resource.staged, zero]
  exact reservation _ rfl

theorem triple_settle {lease : StorageLease} {created : Bool} {completedAt : Nat} {value : Bool}
    (books : Books policy admitted clock store) (present : store.leases.get? file.key = some file) :
    Ends allowed (do
        persistProviderUploadReceipt policy lease uploadId created completedAt
        cleanupRecoveryCapsuleUpload lease
        persistProviderLease { file with state := { file.state with stagedCapsuleUpload := none } }
        pure value : Action Bool) store (Sound policy clock) :=
  (tidies_settle present).imp
    (fun _ _ ⟨_, same⟩ => ⟨admitted, (books.similar present (.unstaged file)).same same⟩)
    fun _ tidied => ⟨admitted, tidied.books books present⟩

theorem triple_clearStagedCapsuleUpload {lease : StorageLease}
    (books : Books policy admitted clock store) :
    Ends allowed (clearStagedCapsuleUpload lease uploadId) store (Books policy admitted clock) := by
  refine triple_read ?_
  cases leased : store.leases.get? lease.key with
  | none => exact triple_pure books
  | some file =>
    have present : store.leases.get? file.key = some file := by
      rw [books.keyed lease.key file leased]
      exact leased
    refine triple_checked books fun _ _ => ?_
    cases file.state.stagedCapsuleUpload with
    | none => exact triple_pure books
    | some staged =>
      dsimp only
      split_ifs
      · exact (triple_persist_similar present (Similar.unstaged file) (.refl store)).imp
          (fun _ _ same => (books.similar present (Similar.unstaged file)).same same)
          fun _ tidied => tidied.books books present
      · exact triple_check (fun _ _ => books) fun _ _ => books

variable [Formats]

/-- A capsule that is to be stored is not listed yet; where it is not new, it is there. -/
theorem planCapsule_eq_ok {bytes : Bytes} {expectedNewObject : Bool}
    (planned : planCapsule installation freeSpace call bytes store =
      .ok (descriptor, some (file, expectedNewObject))) :
    loadActiveProviderLease call.peer call.backup call.lease call.now store = .ok file ∧
      descriptor.key.scope = ⟨call.peer, call.backup⟩ ∧
      (∃ header, parseRecoveryCapsuleHeader bytes = some header ∧
        descriptor = describeCapsule header bytes) ∧
      file.state.objects.get? (.capsule descriptor.key) = none ∧
      (expectedNewObject = true → store.objects.get? (.capsule descriptor.key) = none ∧
        ensureLeaseConsumption file.state bytes.length 1 = .ok ()) ∧
      (expectedNewObject = false →
        (store.objects.get? (.capsule descriptor.key)).map StoredObject.bytes = some bytes) := by
  simp only [planCapsule, bind_eq_ok, exists_unit, refuse_eq_ok, okOr_eq_ok,
    Bool.or_eq_false_iff, bne_eq_false_iff_eq] at planned
  obtain ⟨header, parsed, ⟨backup, peer⟩, -, -, loadedFile, loaded, planned⟩ := planned
  have scope : (describeCapsule header bytes).key.scope = ⟨call.peer, call.backup⟩ := by
    rw [← peer, ← backup]
    rfl
  cases listed : loadedFile.state.objects.get? (.capsule (describeCapsule header bytes).key) with
  | some length =>
    simp only [listed, bind_eq_ok, pure_eq_ok, Prod.mk.injEq] at planned
    obtain ⟨-, -, -, -, -, no⟩ := planned
    cases no
  | none =>
    simp only [listed, bind_eq_ok, exists_unit, refuse_eq_ok] at planned
    obtain ⟨agrees, planned⟩ := planned
    split_ifs at planned with contained
    · simp only [pure_eq_ok, Prod.mk.injEq, Option.some.injEq] at planned
      obtain ⟨rfl, rfl, rfl⟩ := planned
      refine ⟨loaded, scope, ⟨header, parsed, rfl⟩, listed, by rintro ⟨⟩, fun _ => ?_⟩
      obtain ⟨object, present⟩ := containsKey_iff.mp contained
      rw [storedOtherwise, present, Option.any_some, bne_eq_false_iff_eq] at agrees
      exact stored_of_eq_some present agrees
    · simp only [bind_eq_ok, exists_unit, pure_eq_ok, Prod.mk.injEq, Option.some.injEq] at planned
      obtain ⟨ensured, -, rfl, rfl, rfl⟩ := planned
      refine ⟨loaded, scope, ⟨header, parsed, rfl⟩, listed, fun _ => ⟨?_, ensured⟩,
        by rintro ⟨⟩⟩
      exact containsKey_eq_false_iff.mp (Bool.not_eq_true _ ▸ contained)

theorem triple_assembleUpload :
    Triple allowed (assembleUpload installation freeSpace metadata) store
      (fun bytes after => SameBooks store after ∧ bytes.length = metadata.totalBytes)
      (SameBooks store) := by
  have change : ∀ (operation : String) (assembled : Option Bytes), Quiet allowed
      (writeFile operation (Store.changeStaging metadata.lease.key fun directory =>
        { directory with assembled := assembled })) := fun _ _ =>
    Quiet.write fun _ => rfl
  refine (Quiet.triple (change _ _) store).andThen ?_
  intro _ removed first
  refine triple_checked first fun _ _ => ?_
  refine triple_bind ((Quiet.triple (change _ _) removed).imp ?_ fun _ same => first.trans same)
  intro _ created second
  refine triple_checked (first.trans second) fun bytes assembled => ?_
  simp only [assembledCapsule, bind_eq_ok, exists_unit, refuse_eq_ok,
    Bool.or_eq_false_iff, bne_eq_false_iff_eq, pure_eq_ok] at assembled
  obtain ⟨segments, -, whole, -, ⟨length, -⟩, header, -, -, rfl⟩ := assembled
  refine triple_bind ((Quiet.triple (change _ _) created).imp ?_
    fun _ same => (first.trans second).trans same)
  exact fun _ written third => triple_pure ⟨(first.trans second).trans third, length⟩

theorem classifyCapsule_eq_ok {alreadyAccounted : Bool}
    (classified : classifyCapsule file metadata store = .ok (alreadyAccounted, expectedNewObject)) :
    expectedNewObject = true → store.objects.get? (.capsule metadata.descriptor.key) = none ∧
        file.state.objects.get? (.capsule metadata.descriptor.key) = none ∧
          alreadyAccounted = false := by
  simp only [classifyCapsule, bind_eq_ok, exists_unit, refuse_eq_ok, pure_eq_ok,
    Prod.mk.injEq] at classified
  obtain ⟨-, -, consistent, rfl, rfl⟩ := classified
  intro isNew
  rw [isNew, Bool.and_true] at consistent
  refine ⟨Option.map_eq_none_iff.mp (Option.isNone_iff_eq_none.mp isNew), ?_, consistent⟩
  simpa using consistent

theorem triple_finishCommitted {created : Bool} (books : Books policy admitted clock store)
    (present : store.leases.get? file.key = some file) :
    Ends allowed (finishCommitted policy call file staged created) store (Sound policy clock) := by
  refine triple_checked ⟨admitted, books⟩ fun state checked => ?_
  have canonical := (books.filed file.key file present).canonical
  simp only [normalizeProviderCapsuleObjectKey_of_canonical canonical, bind_eq_ok,
    exists_unit, pure_eq_ok] at checked
  obtain ⟨normal, same, -, rfl⟩ := checked
  cases same
  exact triple_settle books present

theorem triple_beginRecoveryCapsuleUpload {requested : RecoveryCapsuleUpload}
    (books : Books installation.policy admitted call.now store) :
    Ends allowed (beginRecoveryCapsuleUpload installation freeSpace call requested) store
      (Sound installation.policy call.now) := by
  refine triple_checked ⟨admitted, books⟩ ?_
  rintro ⟨file, incumbent⟩ planned
  simp only [planUpload, bind_eq_ok, exists_unit] at planned
  obtain ⟨-, loadedFile, loaded, planned⟩ := planned
  have usable := loadActiveProviderLease_usable books.keyed loaded
  have directory : ∀ upload last, Books installation.policy admitted call.now last →
      Ends allowed (ensureRecoveryCapsuleUploadDirectory upload) last
        (Sound installation.policy call.now) :=
    fun upload last right =>
      (Quiet.triple quiet_ensureRecoveryCapsuleUploadDirectory last).imp
        (fun _ _ same => ⟨admitted, right.same same⟩) fun _ same => ⟨admitted, right.same same⟩
  cases staged : loadedFile.state.stagedCapsuleUpload with
  | some upload =>
    simp only [staged, bind_eq_ok, pure_eq_ok, Prod.mk.injEq] at planned
    obtain ⟨-, -, rfl, rfl⟩ := planned
    exact directory upload.upload store books
  | none =>
    simp only [staged, bind_eq_ok, exists_unit, pure_eq_ok, Prod.mk.injEq] at planned
    obtain ⟨-, ensured, -, rfl, rfl⟩ := planned
    obtain ⟨enough, enough'⟩ := ensureLeaseConsumption_room ensured
    refine triple_quiet quiet_cleanupRecoveryCapsuleUploadParts books fun _ clean same => ?_
    have right := books.same same
    have present : clean.leases.get? loadedFile.key = some loadedFile := by
      rw [same.leases]
      exact usable.present
    refine triple_checked ⟨admitted, right⟩ fun expectedNewObject _ => ?_
    let next : LeaseFile := { loadedFile with
      state := { loadedFile.state with
        stagedCapsuleUpload := some ⟨requested, expectedNewObject, none, none⟩ } }
    have reserved : Books installation.policy admitted call.now (clean.putLease next) := by
      refine right.putLease present
        { lease := rfl
          serial := rfl
          canonical := (right.filed _ loadedFile present).canonical
          ended := id
          running := .inl
          roomy := ?_
          listed := fun _ unlisted => unlisted
          counted := ?_
          committed := ?_ }
      · intro resource
        cases resource with
        | bytes =>
          show loadedFile.state.consumedNewBytes + requested.totalBytes ≤
            loadedFile.state.lease.maxNewBytes
          omega
        | objects =>
          show loadedFile.state.consumedNewObjects + 1 ≤ loadedFile.state.lease.maxNewObjects
          omega
      · intro live resource
        have counted := right.counted loadedFile resource live
        cases resource <;> exact counted
      · intro _ resource
        cases resource <;> exact le_rfl
    exact (triple_persist_sound right reserved).andThen fun _ written same =>
      directory requested written (reserved.same same)

/-! ## Writing a batch -/

/-- A batch between its journal and its lease: some records are done, the others are as
they were planned. -/
structure Batching (policy : ProviderQuotaPolicy) (admitted clock : Nat) (file : LeaseFile)
    (journalId : Uuid) (call : LeaseCall) (pending rest : List PendingRecord)
    (failure : Option CoreError) (store : Store) : Prop where
  distinct : (pending.map PendingRecord.locator).Nodup
  storing : ∃ done, done ++ rest = pending ∧
    Storing policy admitted clock file journalId (.batch (pending.map (·.journal call)))
      (newAmount done) store ∧
    (failure = none → ∀ resource : Resource, store.created resource file.serial =
      resource.consumed file.state + newAmount done resource)
  planned : ∀ record ∈ rest, Planned store file record
  room : ∀ resource : Resource, resource.consumed file.state + newAmount pending resource ≤
    resource.allowance file.state.lease

section

variable {rest : List PendingRecord} {record : PendingRecord} {failure : Option CoreError}
  (batching : Batching policy admitted clock file journalId call pending (record :: rest) failure
    store)

include batching

/-- The records of a batch have places of their own. -/
theorem Batching.planned_rest (frame : ∀ key, key ≠ .chunk record.locator →
      after.objects.get? key = store.objects.get? key) :
    ∀ other ∈ rest, Planned after file other := by
  obtain ⟨done, whole, -, -⟩ := batching.storing
  have distinct := batching.distinct
  rw [← whole, map_append, map_cons] at distinct
  intro other member
  have plan := batching.planned other (mem_cons_of_mem _ member)
  refine ⟨plan.unlisted, fun expects => ?_⟩
  rw [frame]
  · exact plan.absent expects
  · intro same
    have apart := (nodup_cons.mp (List.Nodup.of_append_right distinct)).1
    exact apart (ObjectKey.chunk.inj same ▸ mem_map_of_mem member)

/-- A record that is new is created; any other is there already. -/
theorem triple_writeRecord :
    Triple allowed (writeRecord file.serial record) store
      (fun _ => Batching policy admitted clock file journalId call pending rest failure)
      (fun after => ∀ problem : CoreError,
        Batching policy admitted clock file journalId call pending rest (some problem) after) := by
  obtain ⟨done, whole, storing, exactly⟩ := batching.storing
  have further : done ++ [record] ++ rest = pending := by
    rw [append_assoc]
    exact whole
  have amount : ∀ resource, newAmount (done ++ [record]) resource = newAmount done resource +
      if record.expectedNewObject then resource.amount record.record.length else 0 := by
    intro resource
    rw [newAmount_append, newAmount_cons]
    rfl
  unfold writeRecord
  split_ifs with isNew
  · let upload := record.journal call
    have member : record ∈ pending := by
      rw [← whole]
      exact mem_append_right _ mem_cons_self
    have planned := batching.planned record mem_cons_self
    have create := @triple_createObject allowed policy admitted clock store file journalId
      (.batch (pending.map (·.journal call))) (newAmount done) upload record.record
      "commit immutable atomic file" storing (mem_map_of_mem member) isNew
      (by
        intro other listed place
        obtain ⟨found, present, rfl⟩ := mem_map.mp listed
        have same : found.locator = record.locator := ObjectKey.chunk.inj place
        rw [inj_on_of_nodup_map batching.distinct present member same])
      (planned.absent isNew) planned.unlisted
      (by
        intro resource
        have room := batching.room resource
        have part : newAmount pending resource =
            newAmount done resource + (resource.amount record.record.length +
              newAmount rest resource) := by
          rw [← whole, newAmount_append, newAmount_cons, if_pos isNew]
        omega)
    have extra : newAmount (done ++ [record]) =
        fun resource => newAmount done resource + resource.amount record.record.length := by
      funext resource
      rw [amount, if_pos isNew]
    refine triple_bind (create.imp ?_ ?_)
    · rintro created stored ⟨rfl, right, made, frame, -⟩
      have next : Batching policy admitted clock file journalId call pending rest failure stored :=
        { distinct := batching.distinct
          storing := ⟨done ++ [record], further, extra ▸ right, fun none resource => by
            rw [made, exactly none resource, amount, if_pos isNew, Nat.add_assoc]⟩
          planned := batching.planned_rest frame
          room := batching.room }
      refine triple_check (fun _ _ => next) fun problem refused => ?_
      exact absurd refused (by simp [refuse])
    · rintro after ⟨right, frame⟩ problem
      exact ⟨batching.distinct, ⟨done ++ [record], further, extra ▸ right, by rintro ⟨⟩⟩,
        batching.planned_rest frame, batching.room⟩
  · have extra : newAmount (done ++ [record]) = newAmount done := by
      funext resource
      rw [amount, if_neg isNew, Nat.add_zero]
    exact triple_pure
      { distinct := batching.distinct
        storing := ⟨done ++ [record], further, extra ▸ storing, fun none resource => by
          rw [extra]
          exact exactly none resource⟩
        planned := fun other member => batching.planned other (mem_cons_of_mem _ member)
        room := batching.room }

end

theorem triple_writeRecords
    (batching : Batching policy admitted clock file journalId call pending pending none store) :
    Triple allowed (forEachRecord (writeRecord file.serial) pending) store (fun result =>
        Batching policy admitted clock file journalId call pending [] result.2)
      (Sound policy clock) := by
  have sound : ∀ {rest failure after}, Batching policy admitted clock file journalId call pending
      rest failure after → Sound policy clock after := by
    rintro rest failure after kept
    obtain ⟨done, -, storing, -⟩ := kept.storing
    exact ⟨admitted, storing.books⟩
  let invariant (rest : List PendingRecord)
      (value : List (PendingRecord × Unit) × Option CoreError) (after : Store) : Prop :=
    Batching policy admitted clock file journalId call pending rest value.2 after
  have start : invariant pending ([], none) store := batching
  refine (triple_loop ?_ start).mono fun _ _ kept => kept
  rintro ⟨results, failure⟩ record rest middle kept
  refine triple_bind (triple_attempt ((triple_writeRecord kept).imp ?_ ?_))
  · exact fun _ after next => triple_pure next
  · intro after failed
    refine ⟨sound (failed (.io "")), fun problem => triple_pure ?_⟩
    cases failure with
    | none => exact failed problem
    | some first => exact failed first

theorem Storing.countAll (storing : Storing policy admitted clock file journalId
      (.batch (pending.map (·.journal call))) extra store)
    (exactly : ∀ resource : Resource, store.created resource file.serial =
      resource.consumed file.state + newAmount pending resource)
    (counted : countRecords file.state pending deferred = .ok state)
    (ensured : ensureLeaseConsumption file.state (newBytes pending) (newRecords pending).length =
      .ok ()) :
    Books policy admitted clock (store.putLease { file with state := state }) ∧
      ∀ upload ∈ pending.map (·.journal call), (state.objects.get? upload.place).isSome = true := by
  obtain ⟨lease, cancelled, staged, objects, consumed⟩ := countRecords_eq_ok counted
  have listed : ∀ key, (state.objects.get? key).isSome = true ↔
      key ∈ pending.map (fun record => ObjectKey.chunk record.locator) ∨
        (file.state.objects.get? key).isSome = true := by
    intro key
    rw [objects, isSome_get?_extendList, map_map]
    rfl
  have covers : ∀ upload ∈ pending.map (·.journal call),
      (state.objects.get? upload.place).isSome = true := by
    intro upload member
    obtain ⟨record, present, rfl⟩ := mem_map.mp member
    exact (listed _).mpr (.inl (mem_map_of_mem present))
  refine ⟨storing.count lease rfl cancelled ?_ ?_ covers ?_ ?_, covers⟩
  · intro backupId snapshotId
    rw [← Option.not_isSome_iff_eq_none, listed]
    rintro (member | before)
    · obtain ⟨record, -, no⟩ := mem_map.mp member
      cases no
    · rw [(storing.books.filed file.key file storing.live.1).canonical] at before
      cases before
  · exact fun key before => (listed key).mpr (.inr before)
  · intro resource
    rw [consumed, exactly]
  · intro resource
    have room := newAmount_room ensured resource
    have same : resource.staged state = resource.staged file.state := by
      cases resource <;> simp only [Resource.staged, stagedReservation, staged]
    show resource.consumed state + resource.staged state ≤ resource.allowance state.lease
    rw [consumed, same, lease]
    omega

theorem triple_abandonBatch {uploads : List ProviderUploadJournal} {problem : CoreError}
    (books : Books policy admitted clock store)
    (journals :
      store.journals = (∅ : BTreeMap Uuid UploadJournal).insert journalId (.batch uploads)) :
    Ends allowed (abandonBatch policy journalId uploads problem) store (Sound policy clock) := by
  have found : store.journals.get? journalId = some (.batch uploads) := by
    rw [journals]
    exact get?_insert_self ..
  refine triple_bind (triple_bind ((triple_reconcileProviderUploads books fun upload member =>
    ⟨journalId, .batch uploads, found, member⟩).imp ?_ fun _ stopped => ⟨admitted, stopped.1⟩))
  rintro - reconciled ⟨right, grows, settled⟩
  refine (triple_dropJournal right ?_).imp ?_ fun _ stopped => ⟨admitted, stopped⟩
  · intro other also
    rw [grows.journals, found] at also
    exact Option.some.inj also ▸ settled
  · rintro - after ⟨-, right⟩
    exact triple_check (fun _ no => absurd no nofun) fun _ _ => ⟨admitted, right⟩

/-! ## The calls -/

/-- Once a capsule is in its place, its lease counts it and the staged upload ends. -/
theorem Placed.triple_finishAssembled {created : Bool} (placed : Placed installation.policy admitted
      call.now file journalId (capsuleJournal call staged.upload.descriptor expectedNewObject)
      staged.upload.totalBytes store)
    (place : (capsuleJournal call staged.upload.descriptor expectedNewObject).place =
      .capsule staged.upload.descriptor.key)
    (reserved : ∀ resource : Resource, resource.consumed file.state +
      resource.amount staged.upload.totalBytes ≤ resource.allowance file.state.lease) :
    Ends allowed (finishAssembled installation journalId call file staged expectedNewObject created)
      store (Sound installation.policy call.now) := by
  obtain ⟨⟨extra, storing⟩, exactly⟩ := placed
  refine triple_quiet (Quiet.write fun _ => rfl) storing.books fun _ removed first => ?_
  have storing := storing.same first
  refine triple_checked ⟨admitted, storing.books⟩ fun state committed => ?_
  obtain ⟨lease, cancelled, objects, consumed, staged'⟩ := commitStaged_eq_ok committed
  refine triple_quiet quiet_persistRecoveryCapsuleDescriptorValue storing.books
    fun _ described second => ?_
  have storing := storing.same second
  have covers : ∀ other ∈ [capsuleJournal call staged.upload.descriptor expectedNewObject],
      (state.objects.get? other.place).isSome = true := by
    intro other member
    rw [mem_singleton.mp member, place, objects, get?_insert_self]
    rfl
  have right : Books installation.policy admitted call.now
      (described.putLease { file with state := state }) := by
    refine storing.count lease rfl cancelled ?_ ?_ covers ?_ ?_
    · intro backupId snapshotId
      show state.objects.get? _ = none
      rw [objects, get?_insert, if_neg (by rintro ⟨⟩)]
      exact (storing.books.filed file.key file storing.live.1).canonical backupId snapshotId
    · intro key listed
      show (state.objects.get? key).isSome = true
      rw [objects]
      exact isSome_get?_insert.mpr (.inr listed)
    · intro resource
      show resource.consumed state = _
      rw [consumed, (first.trans second).created, exactly]
      rfl
    · intro resource
      show resource.consumed state + resource.staged state ≤ resource.allowance state.lease
      rw [consumed, staged', lease, Nat.add_zero]
      have bound := reserved resource
      split_ifs
      · exact bound
      · exact (Nat.le_add_right _ _).trans bound
  refine (storing.triple_persist right lease covers).andThen ?_
  intro _ persisted stored
  refine stored.triple_complete.andThen ?_
  rintro - completed ⟨right, -, here⟩
  exact triple_settle right here

variable (ordinary : ¬ allowed (.stranded true))
  (books : Books installation.policy admitted call.now store)

include ordinary books

section

variable (idle : store.journals = ∅)

include idle

theorem triple_putProviderRecordLeased : Ends allowed
      (putProviderRecordLeased installation freeSpace journalId call locator record) store
      (Sound installation.policy call.now) := by
  refine triple_checked ⟨admitted, books⟩ fun plan planned => ?_
  cases plan with
  | none => exact triple_pure ⟨admitted, books⟩
  | some found =>
    obtain ⟨file, expectedNewObject⟩ := found
    obtain ⟨loaded, unlisted, fresh, -⟩ := planRecord_eq_some planned
    have usable := loadActiveProviderLease_usable books.keyed loaded
    have roomy := (books.filed file.key file usable.present).roomy
    refine @triple_placed _ _ _ _ _ _ _ _ _ (recordJournal call locator record
      expectedNewObject false) record _ _ ordinary books idle usable rfl ⟨rfl, rfl⟩ rfl
      (fun isNew => ?_) fun stored placed => ?_
    · obtain ⟨absent, ensured⟩ := fresh isNew
      refine ⟨absent, unlisted, fun resource => ?_⟩
      have room := ensureLeaseConsumption_one ensured resource
      omega
    · obtain ⟨extra, storing⟩ := placed.storing
      refine triple_quiet quiet_addProviderObjectReference storing.books fun _ referenced same => ?_
      have storing := storing.same same
      refine triple_checked ⟨admitted, storing.books⟩ fun state counted => ?_
      refine (storing.triple_count (fun resource => (same.created resource _).trans
        (placed.exactly resource)) counted (countObject_roomy counted roomy
          fun isNew => (fresh isNew).2)).andThen ?_
      exact fun _ _ stored => stored.triple_finish

theorem triple_putProviderRecordsLeased :
    Ends allowed (putProviderRecordsLeased installation freeSpace journalId call records) store
      (Sound installation.policy call.now) := by
  refine triple_checked ⟨admitted, books⟩ ?_
  rintro ⟨file, pending⟩ plan
  obtain ⟨usable, planned, distinct, ensured⟩ := planRecords_eq_ok books.keyed plan
  dsimp only
  split_ifs
  · exact triple_pure ⟨admitted, books⟩
  have live := usable.live books
  have active : file.activeAt admitted = true := LeaseFile.activeAt_mono books.ordered usable.active
  have announce := @triple_announce allowed installation.policy admitted call.now store file
    journalId (.batch (pending.map (·.journal call))) ordinary books idle live active
    (by
      intro upload member
      obtain ⟨record, -, rfl⟩ := mem_map.mp member
      exact usable.lease.symm)
    (by
      intro upload member
      obtain ⟨record, -, rfl⟩ := mem_map.mp member
      exact ⟨rfl, rfl⟩)
    (by
      intro upload member
      obtain ⟨record, present, rfl⟩ := mem_map.mp member
      exact (planned record present).absent)
  refine announce.andThen ?_
  rintro - announced ⟨rfl, storing, exactly⟩
  have start : Batching installation.policy admitted call.now file journalId call pending pending
      none (store.putJournal journalId (.batch (pending.map (·.journal call)))) :=
    { distinct := distinct
      storing := ⟨[], rfl, storing, fun _ resource => exactly resource⟩
      planned := fun record member =>
        ⟨(planned record member).unlisted, (planned record member).absent⟩
      room := by
        intro resource
        have room := newAmount_room ensured resource
        omega }
  refine (triple_writeRecords start).andThen ?_
  rintro ⟨results, writeFailure⟩ written batching
  obtain ⟨done, whole, storing, exactly⟩ := batching.storing
  rw [append_nil] at whole
  subst whole
  cases writeFailure with
  | some problem => exact triple_abandonBatch storing.books storing.journals
  | none =>
    refine triple_quiet quiet_referenceRecords storing.books ?_
    rintro ⟨referenced, referenceFailure⟩ middle same
    have storing := storing.same same
    cases referenceFailure with
    | some problem => exact triple_abandonBatch storing.books storing.journals
    | none =>
      refine triple_checked ⟨admitted, storing.books⟩ fun state counted => ?_
      obtain ⟨right, covers⟩ := storing.countAll
        (fun resource => (same.created resource _).trans (exactly rfl resource)) counted ensured
      have lease := (countRecords_eq_ok counted).1
      refine (storing.triple_persist right lease covers).andThen ?_
      exact fun _ _ stored => stored.triple_finish

theorem triple_putRecoveryCapsuleLeased {bytes : Bytes} :
    Ends allowed (putRecoveryCapsuleLeased installation freeSpace journalId call bytes) store
      (Sound installation.policy call.now) := by
  refine triple_checked ⟨admitted, books⟩ ?_
  rintro ⟨descriptor, plan⟩ planned
  cases plan with
  | none => exact triple_pure ⟨admitted, books⟩
  | some found =>
    obtain ⟨file, expectedNewObject⟩ := found
    obtain ⟨loaded, scope, -, unlisted, fresh, -⟩ := planCapsule_eq_ok planned
    have usable := loadActiveProviderLease_usable books.keyed loaded
    rw [← usable.scope] at scope
    have place := @place_capsuleJournal call expectedNewObject descriptor scope
    have roomy := (books.filed file.key file usable.present).roomy
    refine @triple_placed _ _ _ _ _ _ _ _ _ (capsuleJournal call descriptor expectedNewObject)
      bytes _ _ ordinary books idle usable rfl (wellFormed_capsuleJournal scope) place
      (fun isNew => ?_) fun stored placed => ?_
    · obtain ⟨absent, ensured⟩ := fresh isNew
      refine ⟨absent, unlisted, fun resource => ?_⟩
      have room := ensureLeaseConsumption_one ensured resource
      omega
    · obtain ⟨extra, storing⟩ := placed.storing
      refine triple_checked ⟨admitted, storing.books⟩ fun state counted => ?_
      refine triple_quiet quiet_persistRecoveryCapsuleDescriptorValue storing.books
        fun _ described same => ?_
      refine ((storing.same same).triple_count (fun resource => (same.created resource _).trans
        (placed.exactly resource)) (place ▸ counted) (countObject_roomy counted roomy
          fun isNew => (fresh isNew).2)).andThen ?_
      exact fun _ _ stored => stored.triple_finish

theorem triple_commitAssembled {bytes : Bytes} (usable : Usable call file store)
    (present : file.state.stagedCapsuleUpload = some staged)
    (scope : staged.upload.descriptor.key.scope = ⟨call.peer, call.backup⟩)
    (open' : staged.committedCreated = none) (length : bytes.length = staged.upload.totalBytes) :
    Ends allowed (commitAssembled installation journalId call file staged bytes) store
      (Sound installation.policy call.now) := by
  refine triple_checked ⟨admitted, books⟩ ?_
  rintro ⟨alreadyAccounted, expectedNewObject⟩ classified
  have fresh := classifyCapsule_eq_ok classified
  rw [← usable.scope] at scope
  let upload := capsuleJournal call staged.upload.descriptor expectedNewObject
  have place : upload.place = .capsule staged.upload.descriptor.key := place_capsuleJournal scope
  -- The staged upload has reserved what the capsule takes.
  have reserved : ∀ resource : Resource, resource.consumed file.state +
      resource.amount staged.upload.totalBytes ≤ resource.allowance file.state.lease := by
    intro resource
    have roomy := (books.filed file.key file usable.present).roomy resource
    have reservation : stagedReservation file.state = (staged.upload.totalBytes, 1) := by
      unfold stagedReservation
      rw [present, Option.filter_some, open']
      rfl
    cases resource <;> simpa [Resource.staged, Resource.amount, reservation] using roomy
  -- A capsule that is new is not counted yet.
  have counts : (expectedNewObject && !alreadyAccounted) = expectedNewObject := by
    cases isNew : expectedNewObject with
    | false => rfl
    | true => rw [(fresh isNew).2.2]; rfl
  dsimp only
  rw [counts]
  refine @triple_place _ _ _ _ _ _ _ _ _ upload bytes _ _ _ ordinary books idle usable rfl
    (wellFormed_capsuleJournal scope) place (fun isNew => ?_) ?_ ?_
  · obtain ⟨absent, unlisted, -⟩ := fresh isNew
    exact ⟨absent, unlisted, length ▸ reserved⟩
  · intro _ after placed
    obtain ⟨extra, storing⟩ := placed.storing
    rw [length] at placed
    exact triple_checked ⟨admitted, storing.books⟩ fun _ _ =>
      placed.triple_finishAssembled place reserved
  · intro _ after placed
    rw [length] at placed
    exact placed.triple_finishAssembled place reserved

end

theorem triple_commitRecoveryCapsuleUpload :
    Ends allowed (commitRecoveryCapsuleUpload installation freeSpace journalId call uploadId) store
      (Sound installation.policy call.now) := by
  refine triple_sound (triple_recoverProviderUploadJournals books) ?_
  rintro - recovered ⟨right, idle⟩
  refine triple_checked ⟨admitted, right⟩ fun recorded _ => ?_
  cases recorded with
  | some receipt =>
    refine triple_checked ⟨admitted, right⟩ fun _ _ => ?_
    refine triple_quiet quiet_cleanupRecoveryCapsuleUploadParts right fun _ cleaned same => ?_
    refine triple_sound (triple_clearStagedCapsuleUpload (right.same same)) ?_
    exact fun _ after right => triple_pure ⟨admitted, right⟩
  | none =>
    refine triple_checked ⟨admitted, right⟩ ?_
    rintro ⟨file, staged⟩ found
    obtain ⟨usable, present, scope⟩ := stagedUpload_eq_ok right.keyed found
    dsimp only
    cases committed : staged.committedCreated with
    | some created => exact triple_finishCommitted right usable.present
    | none =>
      refine triple_bind (triple_assembleUpload.imp ?_ fun _ same => ⟨admitted, right.same same⟩)
      rintro bytes assembled ⟨same, length⟩
      have still : Usable call file assembled :=
        { usable with present := by rw [same.leases]; exact usable.present }
      exact triple_commitAssembled ordinary (right.same same) (same.journals.trans idle) still
        present scope committed length

end Covalent.Provider
