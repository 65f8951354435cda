import Covalent.Base.Totals
import Covalent.Provider.Uploads

/-!
# The books of a provider

What a provider has stored under its leases, and what it has counted.  An object is
created under one reservation.  As long as the lease of that reservation is there, the
lease counts it; once the lease is folded, the ledger of its scope does.

## Design notes

**Commitments.**  A reservation is admitted against what the other leases may still use,
so the invariant bounds commitments and not use: a lease that could be used when the
last reservation was admitted is committed to its allowance, and every other lease to
what it has used.  Nothing is used under those any more.
-/

namespace Covalent.Provider

open Durable BTreeMap Option

/-! ## Quantities -/

/-- What is limited. -/
inductive Resource where
  | bytes
  | objects

namespace Resource

def weigh : Resource → StoredObject → Nat
  | bytes, object => object.bytes.length
  | objects, _ => 1

def consumed : Resource → ProviderLeaseState → Nat
  | bytes, state => state.consumedNewBytes
  | objects, state => state.consumedNewObjects

def allowance : Resource → StorageLease → Nat
  | bytes, lease => lease.maxNewBytes
  | objects, lease => lease.maxNewObjects

def used : Resource → ProviderLeaseUsage → Nat
  | bytes, usage => usage.consumedNewBytes
  | objects, usage => usage.consumedNewObjects

/-- What the staged upload of a lease reserves. -/
def staged : Resource → ProviderLeaseState → Nat
  | bytes, state => (stagedReservation state).1
  | objects, state => (stagedReservation state).2

/-- What a lease is committed to since a reservation was admitted. -/
def commitment (resource : Resource) (admitted : Nat) (file : LeaseFile) : Nat :=
  if file.activeAt admitted then resource.allowance file.state.lease
  else resource.consumed file.state

end Resource

/-- What a limit is about. -/
inductive Reach where
  | total
  | peer (peer : DeviceId)
  | backup (scope : Scope)

namespace Reach

def counts : Reach → Scope → Bool
  | total, _ => true
  | peer wanted, scope => scope.peerDeviceId == wanted
  | backup wanted, scope => scope == wanted

def limit (policy : ProviderQuotaPolicy) : Reach → Resource → Nat
  | total, .bytes => policy.maximumTotalBytes
  | total, .objects => policy.maximumTotalObjects
  | peer _, .bytes => policy.maximumPeerBytes
  | peer _, .objects => policy.maximumPeerObjects
  | backup _, .bytes => policy.maximumBackupBytes
  | backup _, .objects => policy.maximumBackupObjects

end Reach

namespace Store

/-! ## Leases that count -/

section

variable (store : Store) (resource : Resource) (admitted : Nat) (reach : Reach)

/-- The leases that the ledger has taken over. -/
def pendingKeys : List LeaseKey :=
  store.ledger.pendingCompactions.map ProviderLeaseCompaction.key

/-- A lease that counts for itself. -/
def Live (file : LeaseFile) : Prop :=
  store.leases.get? file.key = some file ∧ file.key ∉ store.pendingKeys

/-- A reservation whose lease counts for itself. -/
def LiveSerial (serial : Nat) : Prop :=
  ∃ file, store.Live file ∧ file.serial = serial

/-- A reservation of a scope that the ledger has taken over. -/
def Gone (scope : Scope) (serial : Nat) : Prop :=
  ∃ lease, store.reservations[serial]? = some lease ∧ lease.scope = scope ∧
    ¬ store.LiveSerial serial

/-- An upload whose journal is still there. -/
def Outstanding (upload : ProviderUploadJournal) : Prop :=
  ∃ journalId journal, store.journals.get? journalId = some journal ∧ upload ∈ journal.uploads

/-! ## Sums -/

open Classical in
/-- What an object amounts to when its reservation passes a test. -/
noncomputable def weighIf (test : Nat → Prop) (object : StoredObject) : Nat :=
  match object.origin with
  | none => 0
  | some serial => if test serial then resource.weigh object else 0

/-- What the objects amount to whose key and reservation pass a test. -/
noncomputable def sum (test : ObjectKey → Nat → Prop) : Nat :=
  store.objects.total fun key object => weighIf resource (test key) object

/-- What the objects amount to that were created under a reservation. -/
noncomputable def created (serial : Nat) : Nat :=
  store.sum resource fun _ origin => origin = serial

/-- What the objects amount to that were created under reservations within a reach. -/
def stored : Nat :=
  store.objects.total fun _ object =>
    if (object.origin.bind (store.reservations[·]?)).any fun lease => reach.counts lease.scope
    then resource.weigh object else 0

def ledgered (scope : Scope) : Nat :=
  ((store.ledger.usage.get? scope).map resource.used).getD 0

/-- What the ledger has within a reach. -/
def usage (store : Store) (resource : Resource) (reach : Reach) : Nat :=
  store.ledger.usage.total fun scope usage =>
    if reach.counts scope then resource.used usage else 0

/-- What the leases within a reach are committed to. -/
def committed : Nat :=
  store.leases.total fun key file =>
    if key ∉ store.pendingKeys ∧ reach.counts file.scope = true
    then resource.commitment admitted file else 0

end

/-! ## What the books are for -/

/-- Every object is counted exactly once: in the lease it was created under, or in the
ledger when that lease is gone. -/
def CountedOnce (store : Store) : Prop :=
  (∀ (resource : Resource) file, store.Live file →
    resource.consumed file.state = store.created resource file.serial) ∧
  ∀ resource scope, store.ledgered resource scope =
    store.sum resource fun _ serial => store.Gone scope serial

/-- What is stored stays within every limit. -/
def WithinQuota (policy : ProviderQuotaPolicy) (store : Store) : Prop :=
  ∀ (resource : Resource) (reach : Reach), store.stored resource reach ≤ reach.limit policy resource

end Store

/-! ## The invariant -/

/-- A journal whose key, object and descriptor say the same. -/
def ProviderUploadJournal.WellFormed (upload : ProviderUploadJournal) : Prop :=
  match upload.object with
  | .chunk locator =>
    upload.objectKey = .chunk locator ∧ upload.recoveryCapsuleDescriptor = none
  | .recoveryCapsule snapshotId =>
    ∃ descriptor, upload.recoveryCapsuleDescriptor = some descriptor ∧
      descriptor.key = ⟨upload.lease.scope, snapshotId⟩

/-- What holds of an upload whose journal is still there. -/
structure Underway (admitted : Nat) (store : Store) (upload : ProviderUploadJournal) : Prop where
  formed : upload.WellFormed
  kept : upload.lease.key ∉ store.pendingKeys
  running : ∀ file, store.leases.get? upload.lease.key = some file → file.activeAt admitted = true
  /-- The journal says of an object that is not counted whether its upload created it. -/
  expected : ∀ file object, store.leases.get? upload.lease.key = some file →
    store.objects.get? upload.place = some object → file.state.objects.get? upload.place = none →
        (upload.expectedNewObject = true ↔ object.origin = some file.serial)

/-- What holds of a lease file by itself. -/
structure Filed (reservations : List StorageLease) (key : LeaseKey) (file : LeaseFile) : Prop where
  keyed : file.key = key
  reserved : reservations[file.serial]? = some file.state.lease
  canonical : ∀ backupId snapshotId,
    file.state.objects.get? (.legacyCapsule backupId snapshotId) = none
  roomy : ∀ resource : Resource,
    resource.consumed file.state + resource.staged file.state ≤ resource.allowance file.state.lease

/-- The books are right at a time, with the last reservation admitted at another. -/
structure Books (policy : ProviderQuotaPolicy) (admitted clock : Nat) (store : Store) : Prop where
  ordered : admitted ≤ clock
  filed : ∀ key file, store.leases.get? key = some file → Filed store.reservations key file
  serials : ∀ key file other another, store.leases.get? key = some file →
    store.leases.get? other = some another → file.serial = another.serial → key = other
  origins : ∀ key object serial, store.objects.get? key = some object →
    object.origin = some serial → serial < store.reservations.length
  ended : ∀ key file, key ∈ store.pendingKeys → store.leases.get? key = some file →
    file.activeAt clock = false
  bounded : ∀ file (resource : Resource), store.Live file →
    store.created resource file.serial ≤ resource.allowance file.state.lease
  counted : ∀ file (resource : Resource), store.Live file → resource.consumed file.state =
    store.sum resource fun key serial =>
      serial = file.serial ∧ (file.state.objects.get? key).isSome = true
  awaited : ∀ file key object, store.Live file → store.objects.get? key = some object →
    object.origin = some file.serial → file.state.objects.get? key = none →
      ∃ upload, store.Outstanding upload ∧ upload.lease = file.state.lease ∧ upload.place = key
  folded : ∀ resource scope, store.ledgered resource scope =
    store.sum resource fun _ serial => store.Gone scope serial
  within : ∀ (resource : Resource) (reach : Reach),
    store.usage resource reach + store.committed resource admitted reach ≤
      reach.limit policy resource
  underway : ∀ upload, store.Outstanding upload → Underway admitted store upload
  torn : ∀ content, Stray.journal content ∈ store.strays → content = none

/-! ## Rules for sums -/

namespace Store

variable {store : Store} {resource : Resource} {test another : ObjectKey → Nat → Prop}

theorem weighIf_of {test : Nat → Prop} {object : StoredObject} {serial : Nat}
    (origin : object.origin = some serial) (passes : test serial) :
    weighIf resource test object = resource.weigh object := by
  unfold weighIf
  rw [origin]
  exact if_pos passes

variable {object : StoredObject} {weight : ObjectKey → StoredObject → Nat} {serial : Nat}

theorem weighIf_eq_zero {test : Nat → Prop}
    (never : ∀ serial, object.origin = some serial → ¬ test serial) :
    weighIf resource test object = 0 := by
  unfold weighIf
  cases origin : object.origin with
  | none => rfl
  | some serial => exact if_neg (never serial origin)

theorem weighIf_cases (test : Nat → Prop) (object : StoredObject) :
    (∃ serial, object.origin = some serial ∧ test serial ∧
      weighIf resource test object = resource.weigh object) ∨
    (∀ serial, object.origin = some serial → ¬ test serial) ∧ weighIf resource test object = 0 := by
  by_cases passes : ∃ serial, object.origin = some serial ∧ test serial
  · obtain ⟨serial, origin, holds⟩ := passes
    exact .inl ⟨serial, origin, holds, weighIf_of origin holds⟩
  · have never : ∀ serial, object.origin = some serial → ¬ test serial :=
      fun serial origin holds => passes ⟨serial, origin, holds⟩
    exact .inr ⟨never, weighIf_eq_zero never⟩

theorem sum_le_total (heavier : ∀ key object serial, store.objects.get? key = some object →
      object.origin = some serial → test key serial → resource.weigh object ≤ weight key object) :
    store.sum resource test ≤ store.objects.total weight := by
  refine total_le fun key object found => ?_
  rcases weighIf_cases (test key) object with ⟨serial, origin, passes, weighs⟩ | ⟨-, weighs⟩
  · rw [weighs]
    exact heavier key object serial found origin passes
  · rw [weighs]
    exact Nat.zero_le _

theorem total_le_sum
    (lighter : ∀ key object, store.objects.get? key = some object → weight key object = 0 ∨
      ∃ serial, object.origin = some serial ∧ test key serial ∧
        weight key object ≤ resource.weigh object) :
    store.objects.total weight ≤ store.sum resource test := by
  refine total_le fun key object found => ?_
  rcases lighter key object found with zero | ⟨serial, origin, passes, light⟩
  · rw [zero]
    exact Nat.zero_le _
  · rw [weighIf_of origin passes]
    exact light

theorem sum_le (weaker : ∀ key object serial, store.objects.get? key = some object →
    object.origin = some serial → test key serial → another key serial) :
    store.sum resource test ≤ store.sum resource another := by
  refine sum_le_total fun key object serial found origin passes => ?_
  rw [weighIf_of origin (weaker key object serial found origin passes)]

theorem sum_congr (same : ∀ key object serial, store.objects.get? key = some object →
    object.origin = some serial → (test key serial ↔ another key serial)) :
    store.sum resource test = store.sum resource another := by
  refine le_antisymm (sum_le ?_) (sum_le ?_)
  · exact fun key object serial found origin => (same key object serial found origin).mp
  · exact fun key object serial found origin => (same key object serial found origin).mpr

theorem sum_split (resource : Resource) (test another : ObjectKey → Nat → Prop) :
    store.sum resource test =
      (store.sum resource fun key serial => test key serial ∧ another key serial) +
        store.sum resource fun key serial => test key serial ∧ ¬ another key serial := by
  unfold sum
  rw [← total_add]
  refine total_congr fun key object _ => ?_
  unfold weighIf
  cases object.origin with
  | none => rfl
  | some serial =>
    by_cases one : test key serial <;> by_cases two : another key serial <;> simp [one, two]

theorem sum_eq_zero (never : ∀ key object serial, store.objects.get? key = some object →
    object.origin = some serial → ¬ test key serial) : store.sum resource test = 0 :=
  total_eq_zero fun key object found =>
    weighIf_eq_zero fun serial origin => never key object serial found origin

theorem weigh_le_sum {key : ObjectKey}
    (found : store.objects.get? key = some object) (origin : object.origin = some serial)
    (passes : test key serial) : resource.weigh object ≤ store.sum resource test := by
  have bound := le_total (fun key object => weighIf resource (test key) object) found
  rw [weighIf_of origin passes] at bound
  exact bound

theorem sum_one {key : ObjectKey}
    (found : store.objects.get? key = some object) (origin : object.origin = some serial)
    (passes : test key serial) (only : ∀ other serial, test other serial → other = key) :
    store.sum resource test = resource.weigh object := by
  have rest : ((store.objects.erase key).total fun key object =>
      weighIf resource (test key) object) = 0 := by
    refine total_eq_zero fun other object kept => weighIf_eq_zero ?_
    exact fun serial _ also => (of_get?_erase kept).1 (only other serial also)
  unfold sum
  rw [← total_erase_of_some _ found, rest, Nat.zero_add, weighIf_of origin passes]

theorem sum_putObject {key : ObjectKey} (object : StoredObject)
    (absent : store.objects.get? key = none) :
    (store.putObject key object).sum resource test =
      store.sum resource test + weighIf resource (test key) object :=
  total_insert_of_none object (fun key object => weighIf resource (test key) object) absent

theorem stored_eq_sum (resource : Resource) (reach : Reach) :
    store.stored resource reach = store.sum resource fun _ serial =>
      ∃ lease, store.reservations[serial]? = some lease ∧ reach.counts lease.scope = true := by
  refine total_congr fun key object _ => ?_
  unfold weighIf
  cases object.origin with
  | none => rfl
  | some serial =>
    refine ite_iff ?_ _
    rw [bind_some, any_eq_true]

/-- What is gone depends on the objects and on the leases that count only. -/
theorem gone_sum_congr {next : Store} {scope : Scope} (objects : next.objects = store.objects)
    (reservations : next.reservations = store.reservations)
    (live : ∀ file, next.Live file ↔ store.Live file) :
    (store.sum resource fun _ serial => store.Gone scope serial) =
      next.sum resource fun _ serial => next.Gone scope serial := by
  simp only [sum, Gone, LiveSerial, objects, reservations, live]

theorem Live.eq {file other : LeaseFile} (live : store.Live file)
    (found : store.leases.get? file.key = some other) : other = file :=
  (some.inj (live.1.symm.trans found)).symm

end Store

theorem LeaseFile.activeAt_mono {file : LeaseFile} {early late : Nat} (order : early ≤ late)
    (active : file.activeAt late = true) : file.activeAt early = true := by
  simp only [LeaseFile.activeAt, Bool.and_eq_true, decide_eq_true_eq] at active ⊢
  exact ⟨active.1, by omega⟩

namespace Books

variable {policy : ProviderQuotaPolicy} {admitted clock : Nat} {store : Store}

/-! ## What the books say -/

section

variable (books : Books policy admitted clock store)

include books

variable {file : LeaseFile}

theorem keyed (key : LeaseKey) (file : LeaseFile) (found : store.leases.get? key = some file) :
    file.key = key :=
  (books.filed key file found).keyed

theorem eq_of_serial {other : LeaseFile}
    (live : store.Live file) (also : store.Live other) (same : file.serial = other.serial) :
    other = file := by
  have keys : file.key = other.key := books.serials file.key file other.key other live.1 also.1 same
  refine live.eq ?_
  rw [keys]
  exact also.1

/-- What is created under a lease stays within what the lease is committed to. -/
theorem created_le_commitment (live : store.Live file) (resource : Resource) :
    store.created resource file.serial ≤ resource.commitment admitted file := by
  unfold Resource.commitment
  split_ifs with active
  · exact books.bounded file resource live
  · rw [books.counted file resource live]
    refine Store.sum_le fun key object serial found origin same => ⟨same, ?_⟩
    -- An object that is not counted has a journal, and then the lease is active.
    rw [isSome_iff_ne_none]
    intro unlisted
    obtain ⟨upload, outstanding, lease, -⟩ :=
      books.awaited file key object live found (by rw [origin, same]) unlisted
    refine active ((books.underway upload outstanding).running file ?_)
    rw [lease]
    exact live.1

theorem live_le_committed (resource : Resource) (reach : Reach) :
    (store.sum resource fun _ serial => (∃ lease, store.reservations[serial]? = some lease ∧
      reach.counts lease.scope = true) ∧ store.LiveSerial serial) ≤
        store.committed resource admitted reach := by
  classical
  let owns (key : LeaseKey) (file : LeaseFile) (_ : ObjectKey) (object : StoredObject) : Prop :=
    (key ∉ store.pendingKeys ∧ reach.counts file.scope = true) ∧ object.origin = some file.serial
  have once : ∀ key file key' file' other object, store.leases.get? key = some file →
      store.leases.get? key' = some file' → owns key file other object →
        owns key' file' other object → key' = key := by
    intro key file key' file' other object found found' owner owner'
    refine books.serials key' file' key file found' found ?_
    exact some.inj (owner'.2.symm.trans owner.2)
  calc store.sum resource _
      ≤ store.objects.total fun other object => if ∃ key file, store.leases.get? key = some file ∧
          owns key file other object then resource.weigh object else 0 := by
        refine Store.sum_le_total fun other object serial _ origin passes => ?_
        obtain ⟨⟨lease, reserved, counts⟩, file, live, rfl⟩ := passes
        have same := (books.filed file.key file live.1).reserved
        rw [reserved] at same
        have within : reach.counts file.scope = true := by
          rw [LeaseFile.scope, ← some.inj same]
          exact counts
        rw [if_pos ⟨file.key, file, live.1, ⟨live.2, within⟩, origin⟩]
    _ = store.leases.total fun key file => store.objects.total fun other object =>
          if owns key file other object then resource.weigh object else 0 :=
        (total_fibers store.leases store.objects owns _ once).symm
    _ ≤ store.committed resource admitted reach := by
        refine total_le fun key file found => ?_
        split_ifs with counts
        · have live : store.Live file := by
            refine ⟨?_, ?_⟩ <;> rw [books.keyed key file found]
            · exact found
            · exact counts.1
          refine le_trans (Store.total_le_sum fun other object _ => ?_)
            (books.created_le_commitment live resource)
          split_ifs with owner
          · exact .inr ⟨file.serial, owner.2, rfl, le_rfl⟩
          · exact .inl rfl
        · refine le_of_eq (total_eq_zero fun other object _ => if_neg ?_)
          exact fun owner => counts owner.1

theorem gone_le_usage (resource : Resource) (reach : Reach) :
    (store.sum resource fun _ serial => (∃ lease, store.reservations[serial]? = some lease ∧
      reach.counts lease.scope = true) ∧ ¬ store.LiveSerial serial) ≤
        store.usage resource reach := by
  classical
  let owns (scope : Scope) (_ : ProviderLeaseUsage) (_ : ObjectKey) (object : StoredObject) :
      Prop :=
    reach.counts scope = true ∧ ∃ serial, object.origin = some serial ∧ store.Gone scope serial
  have once : ∀ scope usage scope' usage' other object,
      store.ledger.usage.get? scope = some usage → store.ledger.usage.get? scope' = some usage' →
        owns scope usage other object → owns scope' usage' other object → scope' = scope := by
    rintro scope usage scope' usage' other object - - ⟨-, serial, origin, lease, reserved, rfl, -⟩
      ⟨-, serial', origin', lease', reserved', rfl, -⟩
    obtain rfl : serial' = serial := some.inj (origin'.symm.trans origin)
    rw [some.inj (reserved'.symm.trans reserved)]
  calc store.sum resource _ ≤ store.objects.total fun other object => if ∃ scope usage,
          store.ledger.usage.get? scope = some usage ∧ owns scope usage other object
          then resource.weigh object else 0 := by
        refine Store.sum_le_total fun other object serial found origin passes => ?_
        obtain ⟨⟨lease, reserved, counts⟩, dead⟩ := passes
        have gone : store.Gone lease.scope serial := ⟨lease, reserved, rfl, dead⟩
        have empty := books.folded resource lease.scope
        unfold Store.ledgered at empty
        cases entry : store.ledger.usage.get? lease.scope with
        | some usage => rw [if_pos ⟨lease.scope, usage, entry, counts, serial, origin, gone⟩]
        | none =>
          -- A scope without an entry has nothing, so the object weighs nothing.
          rw [entry] at empty
          have bound : resource.weigh object ≤ store.sum resource
              fun _ serial => store.Gone lease.scope serial :=
            Store.weigh_le_sum found origin gone
          rw [← empty] at bound
          exact bound.trans (Nat.zero_le _)
    _ = store.ledger.usage.total fun scope usage => store.objects.total fun other object =>
          if owns scope usage other object then resource.weigh object else 0 :=
        (total_fibers store.ledger.usage store.objects owns _ once).symm
    _ ≤ store.usage resource reach := by
        refine total_le fun scope usage found => ?_
        split_ifs with counts
        · have used := books.folded resource scope
          rw [Store.ledgered, found] at used
          refine le_trans (Store.total_le_sum fun other object _ => ?_) (le_of_eq used.symm)
          split_ifs with owner
          · obtain ⟨-, serial, origin, gone⟩ := owner
            exact .inr ⟨serial, origin, gone, le_rfl⟩
          · exact .inl rfl
        · refine le_of_eq (total_eq_zero fun other object _ => if_neg ?_)
          exact fun owner => counts owner.1

theorem withinQuota : store.WithinQuota policy := by
  intro resource reach
  rw [Store.stored_eq_sum, Store.sum_split resource _ fun _ serial => store.LiveSerial serial]
  have live := books.live_le_committed resource reach
  have gone := books.gone_le_usage resource reach
  have within := books.within resource reach
  omega

theorem consumed_eq_created (live : store.Live file)
    (done : ∀ upload, store.Outstanding upload → upload.lease ≠ file.state.lease)
    (resource : Resource) :
    resource.consumed file.state = store.created resource file.serial := by
  rw [books.counted file resource live]
  refine Store.sum_congr fun key object serial found origin => ?_
  constructor
  · exact fun both => both.1
  · intro same
    refine ⟨same, ?_⟩
    rw [isSome_iff_ne_none]
    intro unlisted
    obtain ⟨upload, outstanding, lease, -⟩ :=
      books.awaited file key object live found (by rw [origin, same]) unlisted
    exact done upload outstanding lease

omit books in
theorem not_outstanding (none : store.journals = ∅) (upload : ProviderUploadJournal) :
    ¬ store.Outstanding upload := by
  rintro ⟨journalId, journal, found, -⟩
  rw [none] at found
  cases found

theorem countedOnce (none : store.journals = ∅) : store.CountedOnce := by
  refine ⟨fun resource file live => ?_, books.folded⟩
  exact books.consumed_eq_created live
    (fun upload outstanding => absurd outstanding (not_outstanding none upload)) resource

/-! ## Time passes -/

theorem advance {later : Nat} (order : clock ≤ later) : Books policy admitted later store where
  __ := books
  ordered := books.ordered.trans order
  ended key file pending found := by
    have ended := books.ended key file pending found
    by_contra active
    rw [LeaseFile.activeAt_mono order (by simpa using active)] at ended
    cases ended

end

/-! ## Writing a lease -/

/-- A lease file may take the place of another. -/
structure Replaces (admitted clock : Nat) (store : Store) (file next : LeaseFile) : Prop where
  lease : next.state.lease = file.state.lease
  serial : next.serial = file.serial
  canonical : ∀ backupId snapshotId,
    next.state.objects.get? (.legacyCapsule backupId snapshotId) = none
  ended : file.activeAt clock = false → next.activeAt clock = false
  running : file.activeAt admitted = true → next.activeAt admitted = true ∨ store.journals = ∅
  roomy : ∀ resource : Resource, resource.consumed next.state + resource.staged next.state ≤
    resource.allowance next.state.lease
  listed : ∀ key, next.state.objects.get? key = none → file.state.objects.get? key = none
  counted : store.Live file → ∀ resource : Resource, resource.consumed next.state =
    store.sum resource fun key serial =>
      serial = next.serial ∧ (next.state.objects.get? key).isSome = true
  committed : store.Live file → ∀ resource : Resource,
    resource.commitment admitted next ≤ resource.commitment admitted file

namespace Replaces

variable {file next : LeaseFile}

section

variable (replaces : Replaces admitted clock store file next)

include replaces

theorem key : next.key = file.key := by
  unfold LeaseFile.key
  rw [replaces.lease]

theorem scope : next.scope = file.scope := by
  unfold LeaseFile.scope
  rw [replaces.lease]

variable {found : LeaseFile}

theorem get? {key : LeaseKey} (after : (store.putLease next).leases.get? key = some found) :
    key = file.key ∧ found = next ∨ key ≠ file.key ∧ store.leases.get? key = some found := by
  rw [← replaces.key]
  exact of_get?_insert after

theorem live (present : store.leases.get? file.key = some file)
    (after : (store.putLease next).Live found) :
    found = next ∧ store.Live file ∨ found.key ≠ file.key ∧ store.Live found := by
  rcases replaces.get? after.1 with ⟨same, rfl⟩ | ⟨other, kept⟩
  · refine .inl ⟨rfl, present, ?_⟩
    rw [← same]
    exact after.2
  · exact .inr ⟨other, kept, after.2⟩

theorem live_next (live : store.Live file) : (store.putLease next).Live next := by
  refine ⟨get?_insert_self .., ?_⟩
  rw [replaces.key]
  exact live.2

theorem live_other (other : found.key ≠ file.key) (live : store.Live found) :
    (store.putLease next).Live found := by
  refine ⟨?_, live.2⟩
  rw [← replaces.key] at other
  exact (get?_insert_of_ne _ _ other).trans live.1

theorem liveSerial (present : store.leases.get? file.key = some file) (serial : Nat) :
    (store.putLease next).LiveSerial serial ↔ store.LiveSerial serial := by
  constructor
  · rintro ⟨found, after, rfl⟩
    rcases replaces.live present after with ⟨rfl, live⟩ | ⟨-, live⟩
    · exact ⟨file, live, replaces.serial.symm⟩
    · exact ⟨found, live, rfl⟩
  · rintro ⟨found, live, rfl⟩
    by_cases same : found.key = file.key
    · have equal : found = file := by
        have both := live.1
        rw [same, present] at both
        exact (some.inj both).symm
      exact ⟨next, replaces.live_next (equal ▸ live), equal ▸ replaces.serial⟩
    · exact ⟨found, replaces.live_other same live, rfl⟩

end

end Replaces

variable {file : LeaseFile} (books : Books policy admitted clock store)

include books

theorem putLease {next : LeaseFile} (present : store.leases.get? file.key = some file)
    (replaces : Replaces admitted clock store file next) :
    Books policy admitted clock (store.putLease next) where
  ordered := books.ordered
  filed := by
    refine forall_insert ⟨rfl, ?_, replaces.canonical, replaces.roomy⟩ books.filed
    rw [replaces.serial, replaces.lease]
    exact (books.filed file.key file present).reserved
  serials key found other another after after' same := by
    rcases replaces.get? after with ⟨rfl, rfl⟩ | ⟨-, kept⟩ <;>
      rcases replaces.get? after' with ⟨rfl, rfl⟩ | ⟨-, kept'⟩
    · rfl
    · exact books.serials _ file other another present kept' (replaces.serial ▸ same)
    · exact books.serials key found _ file kept present (replaces.serial ▸ same)
    · exact books.serials key found other another kept kept' same
  origins := books.origins
  ended key found pending after := by
    rcases replaces.get? after with ⟨rfl, rfl⟩ | ⟨-, kept⟩
    · exact replaces.ended (books.ended _ file pending present)
    · exact books.ended key found pending kept
  bounded found resource after := by
    rcases replaces.live present after with ⟨rfl, live⟩ | ⟨-, live⟩
    · rw [replaces.serial, replaces.lease]
      exact books.bounded file resource live
    · exact books.bounded found resource live
  counted found resource after := by
    rcases replaces.live present after with ⟨rfl, live⟩ | ⟨-, live⟩
    · exact replaces.counted live resource
    · exact books.counted found resource live
  awaited found key object after stored origin unlisted := by
    rcases replaces.live present after with ⟨rfl, live⟩ | ⟨-, live⟩
    · rw [replaces.lease]
      exact books.awaited file key object live stored (replaces.serial ▸ origin)
        (replaces.listed key unlisted)
    · exact books.awaited found key object live stored origin unlisted
  folded resource scope := by
    refine (books.folded resource scope).trans ?_
    refine Store.sum_congr fun key object serial _ _ => ?_
    unfold Store.Gone
    rw [replaces.liveSerial present]
    rfl
  within resource reach := by
    refine le_trans (Nat.add_le_add_left ?_ _) (books.within resource reach)
    have changed := total_insert_of_some next (fun key found =>
      if key ∉ store.pendingKeys ∧ reach.counts found.scope = true
      then resource.commitment admitted found else 0) present
    rw [← replaces.key, replaces.scope] at changed
    have lower : (if next.key ∉ store.pendingKeys ∧ reach.counts file.scope = true
        then resource.commitment admitted next else 0) ≤
          if next.key ∉ store.pendingKeys ∧ reach.counts file.scope = true
          then resource.commitment admitted file else 0 := by
      split_ifs with counts
      · exact replaces.committed ⟨present, replaces.key ▸ counts.1⟩ resource
      · exact le_rfl
    have total : (store.putLease next).committed resource admitted reach =
        (store.leases.insert next.key next).total (fun key found =>
          if key ∉ store.pendingKeys ∧ reach.counts found.scope = true
          then resource.commitment admitted found else 0) := rfl
    rw [total]
    unfold Store.committed
    omega
  underway upload outstanding := by
    have before := books.underway upload outstanding
    refine ⟨before.formed, before.kept, ?_, ?_⟩
    · intro found after
      rcases replaces.get? after with ⟨same, rfl⟩ | ⟨-, kept⟩
      · rcases replaces.running (before.running file (same ▸ present)) with active | none
        · exact active
        · exact absurd outstanding (not_outstanding none upload)
      · exact before.running found kept
    · intro found object after stored unlisted
      rcases replaces.get? after with ⟨same, rfl⟩ | ⟨-, kept⟩
      · rw [replaces.serial]
        exact before.expected file object (same ▸ present) stored (replaces.listed _ unlisted)
      · exact before.expected found object kept stored unlisted
  torn := books.torn

/-! ## Writing objects and journals -/

/-- An upload creates its object: it is counted later, and its journal says so. -/
theorem putObject {key : ObjectKey} {bytes : Bytes} (live : store.Live file)
    (absent : store.objects.get? key = none) (unlisted : file.state.objects.get? key = none)
    (room : ∀ resource : Resource, store.created resource file.serial +
      resource.weigh ⟨bytes, some file.serial⟩ ≤ resource.allowance file.state.lease)
    (announced : ∃ upload, store.Outstanding upload ∧ upload.lease = file.state.lease ∧
      upload.place = key) (only : ∀ upload, store.Outstanding upload → upload.place = key →
      upload.lease.key = file.key ∧ upload.expectedNewObject = true) :
    Books policy admitted clock (store.putObject key ⟨bytes, some file.serial⟩) where
  __ := books
  origins other object serial after origin := by
    rcases of_get?_insert after with ⟨rfl, rfl⟩ | ⟨-, kept⟩
    · obtain rfl : file.serial = serial := some.inj origin
      exact (List.getElem?_eq_some_iff.mp (books.filed file.key file live.1).reserved).1
    · exact books.origins other object serial kept origin
  bounded found resource also := by
    unfold Store.created
    rw [Store.sum_putObject _ absent]
    by_cases same : file.serial = found.serial
    · obtain rfl := books.eq_of_serial live also same
      have weight := @Store.weighIf_of resource (· = found.serial) ⟨bytes, some found.serial⟩
        found.serial rfl rfl
      rw [weight]
      exact room resource
    · rw [Store.weighIf_eq_zero fun serial origin equal =>
        same ((some.inj origin).trans equal)]
      exact books.bounded found resource also
  counted found resource also := by
    rw [Store.sum_putObject _ absent, Store.weighIf_eq_zero]
    · exact books.counted found resource also
    · rintro serial origin ⟨equal, listed⟩
      obtain rfl := books.eq_of_serial live also ((some.inj origin).trans equal)
      rw [unlisted] at listed
      cases listed
  awaited found other object also after origin missing := by
    rcases of_get?_insert after with ⟨rfl, rfl⟩ | ⟨-, kept⟩
    · obtain rfl := books.eq_of_serial live also (some.inj origin)
      exact announced
    · exact books.awaited found other object also kept origin missing
  folded resource scope := by
    rw [Store.sum_putObject _ absent, Store.weighIf_eq_zero]
    · exact books.folded resource scope
    · rintro serial origin ⟨lease, -, -, dead⟩
      exact dead ⟨file, live, some.inj origin⟩
  underway upload outstanding := by
    have before := books.underway upload outstanding
    refine ⟨before.formed, before.kept, before.running, ?_⟩
    intro found object leased after missing
    rcases of_get?_insert after with ⟨same, rfl⟩ | ⟨-, kept⟩
    · obtain ⟨keys, expects⟩ := only upload outstanding same
      have equal : found = file := live.eq (keys ▸ leased)
      rw [expects, equal]
      exact ⟨fun _ => rfl, fun _ => rfl⟩
    · exact before.expected found object leased kept missing

theorem putJournal {journalId : Uuid} {journal : UploadJournal}
    (free : store.journals.get? journalId = none)
    (all : ∀ upload ∈ journal.uploads, Underway admitted store upload) :
    Books policy admitted clock (store.putJournal journalId journal) where
  __ := books
  awaited file key object live found origin unlisted := by
    obtain ⟨upload, ⟨other, kept, present, member⟩, named⟩ :=
      books.awaited file key object live found origin unlisted
    refine ⟨upload, ⟨other, kept, ?_, member⟩, named⟩
    refine (get?_insert_of_ne _ _ ?_).trans present
    rintro rfl
    rw [free] at present
    cases present
  underway upload outstanding := by
    have before : Underway admitted store upload := by
      obtain ⟨other, kept, present, member⟩ := outstanding
      rcases of_get?_insert present with ⟨-, rfl⟩ | ⟨-, inserted⟩
      · exact all upload member
      · exact books.underway upload ⟨other, kept, inserted, member⟩
    exact ⟨before.formed, before.kept, before.running, before.expected⟩

/-- An upload whose object is not stored, or is counted in its lease. -/
def Settled (store : Store) (upload : ProviderUploadJournal) : Prop :=
  store.objects.get? upload.place = none ∨ ∃ file, store.leases.get? upload.lease.key = some file ∧
      (file.state.objects.get? upload.place).isSome = true

theorem dropJournal {journalId : Uuid}
    (settled : ∀ journal, store.journals.get? journalId = some journal →
      ∀ upload ∈ journal.uploads, Settled store upload) :
    Books policy admitted clock (store.dropJournal journalId) where
  __ := books
  awaited file key object live found origin unlisted := by
    obtain ⟨upload, ⟨other, kept, present, member⟩, lease, place⟩ :=
      books.awaited file key object live found origin unlisted
    refine ⟨upload, ⟨other, kept, ?_, member⟩, lease, place⟩
    refine (get?_erase_of_ne ?_).trans present
    rintro rfl
    rcases settled kept present upload member with missing | ⟨holder, leased, listed⟩
    · rw [place] at missing
      cases (missing.symm.trans found)
    · rw [lease] at leased
      rw [live.eq leased, place, unlisted] at listed
      cases listed
  underway upload outstanding := by
    have before : Underway admitted store upload := by
      obtain ⟨other, kept, present, member⟩ := outstanding
      exact books.underway upload ⟨other, kept, (of_get?_erase present).2, member⟩
    exact ⟨before.formed, before.kept, before.running, before.expected⟩

/-! ## Folding leases into the ledger -/

variable {key : LeaseKey}

omit books in
theorem live_dropLease (pending : key ∈ store.pendingKeys) (file : LeaseFile) :
    (store.dropLease key).Live file ↔ store.Live file := by
  refine ⟨fun after => ⟨(of_get?_erase after.1).2, after.2⟩, fun before => ⟨?_, before.2⟩⟩
  refine (get?_erase_of_ne ?_).trans before.1
  rintro rfl
  exact before.2 pending

theorem dropLease (pending : key ∈ store.pendingKeys) :
    Books policy admitted clock (store.dropLease key) where
  __ := books
  filed other file after := books.filed other file (of_get?_erase after).2
  serials one file two another after after' :=
    books.serials one file two another (of_get?_erase after).2 (of_get?_erase after').2
  ended other file member after := books.ended other file member (of_get?_erase after).2
  bounded file resource after :=
    books.bounded file resource ((live_dropLease pending file).mp after)
  counted file resource after :=
    books.counted file resource ((live_dropLease pending file).mp after)
  awaited file other object after :=
    books.awaited file other object ((live_dropLease pending file).mp after)
  folded resource scope :=
    (books.folded resource scope).trans (Store.gone_sum_congr rfl rfl (live_dropLease pending))
  within resource reach := by
    refine le_trans (Nat.add_le_add_left ?_ _) (books.within resource reach)
    show (store.leases.erase key).total _ ≤ store.leases.total _
    cases present : store.leases.get? key with
    | none =>
      rw [erase_of_none present]
      exact le_rfl
    | some file =>
      rw [← total_erase_of_some _ present]
      exact Nat.le_add_right _ _
  underway upload outstanding := by
    have before := books.underway upload outstanding
    refine ⟨before.formed, before.kept, fun file after => ?_, fun file object after => ?_⟩
    · exact before.running file (of_get?_erase after).2
    · exact before.expected file object (of_get?_erase after).2

omit books in
theorem live_clearPending (gone : ∀ key ∈ store.pendingKeys, store.leases.get? key = none)
    (file : LeaseFile) :
    (store.putLedger { store.ledger with pendingCompactions := [] }).Live file ↔
      store.Live file := by
  refine ⟨fun after => ⟨after.1, fun pending => ?_⟩, fun before => ⟨before.1, List.not_mem_nil⟩⟩
  exact absurd ((gone file.key pending).symm.trans after.1) nofun

/-- The ledger forgets the leases it has taken over when their files are gone. -/
theorem clearPending (gone : ∀ key ∈ store.pendingKeys, store.leases.get? key = none) :
    Books policy admitted clock
      (store.putLedger { store.ledger with pendingCompactions := [] }) where
  __ := books
  ended key file pending := absurd pending List.not_mem_nil
  bounded file resource after :=
    books.bounded file resource ((live_clearPending gone file).mp after)
  counted file resource after :=
    books.counted file resource ((live_clearPending gone file).mp after)
  awaited file other object after :=
    books.awaited file other object ((live_clearPending gone file).mp after)
  folded resource scope :=
    (books.folded resource scope).trans (Store.gone_sum_congr rfl rfl (live_clearPending gone))
  within resource reach := by
    refine le_trans (Nat.add_le_add_left (le_of_eq ?_) _) (books.within resource reach)
    refine total_congr fun key file present => ite_iff ?_ _
    constructor
    · rintro ⟨-, counts⟩
      refine ⟨fun pending => ?_, counts⟩
      exact absurd ((gone key pending).symm.trans present) nofun
    · exact fun both => ⟨List.not_mem_nil, both.2⟩
  underway upload outstanding := by
    have before := books.underway upload outstanding
    exact ⟨before.formed, List.not_mem_nil, before.running, before.expected⟩

/-- What a ledger says after a lease was added to it. -/
structure Adds (usage : BTreeMap Scope ProviderLeaseUsage) (file : LeaseFile)
    (next : BTreeMap Scope ProviderLeaseUsage) : Prop where
  entry : ∀ (resource : Resource) scope, ((next.get? scope).map resource.used).getD 0 =
    ((usage.get? scope).map resource.used).getD 0 +
      if scope = file.scope then resource.consumed file.state else 0
  total : ∀ (resource : Resource) (reach : Reach),
    (next.total fun scope usage => if reach.counts scope then resource.used usage else 0) =
      (usage.total fun scope usage => if reach.counts scope then resource.used usage else 0) +
        if reach.counts file.scope then resource.consumed file.state else 0

theorem consumed_le_commitment (present : store.leases.get? key = some file)
    (resource : Resource) (time : Nat) :
    resource.consumed file.state ≤ resource.commitment time file := by
  unfold Resource.commitment
  split_ifs
  · exact (Nat.le_add_right _ _).trans ((books.filed key file present).roomy resource)
  · exact le_rfl

/-- The store after a lease was folded. -/
abbrev folding (store : Store) (file : LeaseFile) (usage : BTreeMap Scope ProviderLeaseUsage)
    (stateDigest : Digest) : Store :=
  store.putLedger ⟨usage, store.ledger.pendingCompactions ++ [⟨file.key, stateDigest⟩]⟩

section Folding

variable {usage : BTreeMap Scope ProviderLeaseUsage} {stateDigest : Digest}

omit books in
theorem mem_pendingKeys_folding : key ∈ (folding store file usage stateDigest).pendingKeys ↔
      key ∈ store.pendingKeys ∨ key = file.key := by
  simp [Store.pendingKeys, Store.putLedger]

omit books in
theorem live_folding {other : LeaseFile} : (folding store file usage stateDigest).Live other ↔
      store.Live other ∧ other.key ≠ file.key := by
  unfold Store.Live
  rw [mem_pendingKeys_folding, not_or, and_assoc]
  rfl

variable (live : store.Live file)

include live

theorem liveSerial_folding {serial : Nat} :
    (folding store file usage stateDigest).LiveSerial serial ↔
      store.LiveSerial serial ∧ serial ≠ file.serial := by
  constructor
  · rintro ⟨found, after, rfl⟩
    obtain ⟨before, apart⟩ := live_folding.mp after
    refine ⟨⟨found, before, rfl⟩, fun same => apart ?_⟩
    exact books.serials found.key found file.key file before.1 live.1 same
  · rintro ⟨⟨found, before, rfl⟩, apart⟩
    refine ⟨found, live_folding.mpr ⟨before, fun same => apart ?_⟩, rfl⟩
    have equal : found = file := live.eq (same ▸ before.1)
    rw [equal]

/-- What is gone now was gone before, or was created under the lease. -/
theorem sum_gone_folding (resource : Resource) (scope : Scope) :
    ((folding store file usage stateDigest).sum resource fun _ serial =>
      (folding store file usage stateDigest).Gone scope serial) =
      (store.sum resource fun _ serial => store.Gone scope serial) +
        if scope = file.scope then store.created resource file.serial else 0 := by
  have reserved := (books.filed file.key file live.1).reserved
  rw [Store.sum_split resource _ fun _ serial => serial = file.serial, Nat.add_comm]
  congr 1
  · refine Store.sum_congr fun key object serial _ _ => ?_
    constructor
    · rintro ⟨⟨lease, known, same, dead⟩, apart⟩
      refine ⟨lease, known, same, fun alive => dead ?_⟩
      exact (books.liveSerial_folding live).mpr ⟨alive, apart⟩
    · rintro ⟨lease, known, same, dead⟩
      refine ⟨⟨lease, known, same, fun alive => dead ?_⟩, ?_⟩
      · exact ((books.liveSerial_folding live).mp alive).1
      · rintro rfl
        exact dead ⟨file, live, rfl⟩
  · split_ifs with same
    · refine Store.sum_congr fun key object serial _ _ => ⟨fun both => both.2, ?_⟩
      rintro rfl
      refine ⟨⟨file.state.lease, reserved, same.symm, fun alive => ?_⟩, rfl⟩
      exact ((books.liveSerial_folding live).mp alive).2 rfl
    · refine Store.sum_eq_zero fun key object serial _ _ => ?_
      rintro ⟨⟨lease, known, equal, -⟩, rfl⟩
      refine same ?_
      rw [← equal, some.inj (known.symm.trans reserved)]
      rfl

/-- A lease that is folded counts for at least what it has used no more. -/
theorem committed_folding (resource : Resource) (reach : Reach) :
    (folding store file usage stateDigest).committed resource admitted reach +
      (if reach.counts file.scope then resource.consumed file.state else 0) ≤
        store.committed resource admitted reach := by
  unfold Store.committed
  show store.leases.total _ + _ ≤ _
  rw [← total_erase_of_some _ live.1, ← total_erase_of_some _ live.1,
    if_neg fun both => both.1 (mem_pendingKeys_folding.mpr (.inr rfl)), Nat.add_zero]
  refine Nat.add_le_add (le_of_eq ?_) ?_
  · refine total_congr fun key found kept => ite_iff ?_ _
    have apart := (of_get?_erase kept).1
    rw [mem_pendingKeys_folding, not_or]
    exact ⟨fun both => ⟨both.1.1, both.2⟩, fun both => ⟨⟨both.1, apart⟩, both.2⟩⟩
  · split_ifs with counts apart
    · exact books.consumed_le_commitment live.1 resource admitted
    · exact absurd ⟨live.2, counts⟩ apart
    · exact Nat.zero_le _
    · exact le_rfl

theorem fold (none : store.journals = ∅) (ended : file.activeAt clock = false)
    (adds : Adds store.ledger.usage file usage) (stateDigest : Digest) :
    Books policy admitted clock (folding store file usage stateDigest) where
  __ := books
  ended key found member present := by
    rcases mem_pendingKeys_folding.mp member with before | rfl
    · exact books.ended key found before present
    · rw [live.eq present]
      exact ended
  bounded found resource after := books.bounded found resource (live_folding.mp after).1
  counted found resource after := books.counted found resource (live_folding.mp after).1
  awaited found key object after := books.awaited found key object (live_folding.mp after).1
  folded resource scope := by
    have consumed := books.consumed_eq_created live
      (fun upload outstanding => absurd outstanding (not_outstanding none upload)) resource
    rw [books.sum_gone_folding live, ← consumed, ← books.folded resource scope]
    exact adds.entry resource scope
  within resource reach := by
    have committed := @committed_folding _ _ _ _ _ books usage stateDigest live resource reach
    have within := books.within resource reach
    have total : (folding store file usage stateDigest).usage resource reach = _ :=
      adds.total resource reach
    rw [total]
    unfold Store.usage at within
    omega
  underway upload outstanding := absurd outstanding (not_outstanding none upload)

end Folding

/-! ## Reservations -/

theorem commitment_anti (present : store.leases.get? key = some file)
    (resource : Resource) {later : Nat} (order : admitted ≤ later) :
    resource.commitment later file ≤ resource.commitment admitted file := by
  cases active : file.activeAt later with
  | true => simp [Resource.commitment, active, LeaseFile.activeAt_mono order active]
  | false =>
    refine le_trans (le_of_eq ?_) (books.consumed_le_commitment present resource admitted)
    simp [Resource.commitment, active]

theorem serial_lt (present : store.leases.get? key = some file) :
    file.serial < store.reservations.length :=
  (List.getElem?_eq_some_iff.mp (books.filed key file present).reserved).1

section Reserving

variable {lease : StorageLease} (settled : store.ledger.pendingCompactions = [])
  (free : store.leases.get? lease.key = none)

omit books in
include settled in
theorem not_pending (key : LeaseKey) : key ∉ store.pendingKeys := by
  simp [Store.pendingKeys, settled]

include settled free

omit books in
theorem live_recordReservation {found : LeaseFile} :
    (Covalent.Provider.recordReservation lease store).Live found ↔
      found = newLeaseFile lease store.reservations.length ∨
        store.leases.get? found.key = some found := by
  constructor
  · exact fun after => (of_get?_insert after.1).imp And.right And.right
  · rintro (rfl | present)
    · exact ⟨get?_insert_self .., not_pending settled _⟩
    · refine ⟨(get?_insert_of_ne _ _ fun same => ?_).trans present, not_pending settled _⟩
      rw [show found.key = lease.key from same, free] at present
      cases present

omit books in
theorem gone_recordReservation {scope : Scope} {serial : Nat}
    (bound : serial < store.reservations.length) :
    (Covalent.Provider.recordReservation lease store).Gone scope serial ↔
      store.Gone scope serial := by
  have known : (Covalent.Provider.recordReservation lease store).reservations[serial]? =
      store.reservations[serial]? := List.getElem?_append_left bound
  have alive : (Covalent.Provider.recordReservation lease store).LiveSerial serial ↔
      store.LiveSerial serial := by
    constructor
    · rintro ⟨found, after, rfl⟩
      rcases (live_recordReservation settled free).mp after with rfl | present
      · exact absurd bound (lt_irrefl _)
      · exact ⟨found, ⟨present, not_pending settled _⟩, rfl⟩
    · rintro ⟨found, before, rfl⟩
      exact ⟨found, (live_recordReservation settled free).mpr (.inr before.1), rfl⟩
  unfold Store.Gone
  rw [known, alive]

omit books settled in
/-- The commitments of the leases and the allowance of the new one. -/
theorem committed_recordReservation (resource : Resource) (reach : Reach) :
    (Covalent.Provider.recordReservation lease store).committed resource clock reach ≤
      store.committed resource clock reach +
        if reach.counts lease.scope then resource.allowance lease else 0 := by
  refine le_trans (le_of_eq (total_insert_of_none _ _ free)) (Nat.add_le_add_left ?_ _)
  split_ifs with both counts
  · unfold Resource.commitment
    split_ifs
    · exact le_rfl
    · cases resource <;> exact Nat.zero_le _
  · exact absurd both.2 counts
  · exact Nat.zero_le _
  · exact le_rfl

/-- A reservation is admitted for which there is room in every reach it is part of. -/
theorem recordReservation (none : store.journals = ∅)
    (room : ∀ (resource : Resource) (reach : Reach), reach.counts lease.scope = true →
      store.usage resource reach + store.committed resource clock reach +
        resource.allowance lease ≤ reach.limit policy resource) :
    Books policy clock clock (Covalent.Provider.recordReservation lease store) where
  ordered := le_rfl
  filed := by
    refine forall_insert ⟨rfl, List.getElem?_concat_length, fun _ _ => rfl, fun resource => ?_⟩
      fun key file present => { books.filed key file present with reserved := ?_ }
    · cases resource <;> exact Nat.zero_le _
    · exact (List.getElem?_append_left (books.serial_lt present)).trans
        (books.filed key file present).reserved
  serials key file other another after after' same := by
    rcases of_get?_insert after with ⟨rfl, rfl⟩ | ⟨-, present⟩ <;>
      rcases of_get?_insert after' with ⟨rfl, rfl⟩ | ⟨-, present'⟩
    · rfl
    · exact absurd same (books.serial_lt present').ne'
    · exact absurd same (books.serial_lt present).ne
    · exact books.serials key file other another present present' same
  origins key object serial found origin := by
    show serial < (store.reservations ++ [lease]).length
    rw [List.length_append]
    exact Nat.lt_add_right _ (books.origins key object serial found origin)
  ended key file pending := absurd pending (not_pending settled key)
  bounded file resource after := by
    rcases (live_recordReservation settled free).mp after with rfl | present
    · -- Nothing was created under the new reservation yet.
      refine (Nat.le_of_eq (Store.sum_eq_zero ?_)).trans (Nat.zero_le _)
      exact fun key object serial found origin same =>
        (books.origins key object serial found origin).ne same
    · exact books.bounded file resource ⟨present, not_pending settled _⟩
  counted file resource after := by
    rcases (live_recordReservation settled free).mp after with rfl | present
    · refine Eq.trans ?_ (Store.sum_eq_zero fun key object serial found origin both =>
        absurd both.2 nofun).symm
      cases resource <;> rfl
    · exact books.counted file resource ⟨present, not_pending settled _⟩
  awaited file key object after found origin unlisted := by
    rcases (live_recordReservation settled free).mp after with rfl | present
    · exact absurd (books.origins key object _ found origin) (lt_irrefl _)
    · exact books.awaited file key object ⟨present, not_pending settled _⟩ found origin unlisted
  folded resource scope := by
    refine (books.folded resource scope).trans ?_
    refine Store.sum_congr fun key object serial found origin => Iff.symm ?_
    exact gone_recordReservation settled free (books.origins key object serial found origin)
  within resource reach := by
    have committed := @committed_recordReservation clock _ lease free resource reach
    have earlier : store.committed resource clock reach ≤
        store.committed resource admitted reach := by
      refine total_le fun key file present => ?_
      split_ifs
      · exact books.commitment_anti present resource books.ordered
      · exact le_rfl
    have within := books.within resource reach
    show store.usage resource reach + _ ≤ _
    split_ifs at committed with counts
    · have roomy := room resource reach counts
      omega
    · omega
  underway upload outstanding := absurd outstanding (not_outstanding none upload)
  torn := books.torn

end Reserving

end Books

end Covalent.Provider
