import Covalent.Provider.Calls
import Covalent.Provider.Uploading

/-!
# The quota of a provider

A provider that starts its uploads with no journal left counts every object once and
stays within its quota, whatever happens to its writes.  A provider that does not can
store without counting: the source recovers journals when it opens the store, cancels a
lease or commits a capsule, and a plain upload does neither.
-/

namespace Covalent.Provider

open Durable

/-! ## Careful steps -/

/-- Whether a call may be made while a journal is left: it recovers journals first, or it
neither stores nor counts anything. -/
def Call.toleratesJournals : Call → Bool
  | .commitUpload .. | .cancel .. | .reopen .. => true
  | .beginUpload .. | .putSegment .. | .acknowledge .. => true
  | .reserve .. | .reserveIdempotent .. | .putRecord .. | .putRecords .. | .putCapsule ..
  | .capacity .. => false

/-- A step in time. -/
def Timely (system : System) (step : Step) : Prop :=
  system.clock ≤ system.time step

instance (system : System) (step : Step) : Decidable (Timely system step) :=
  inferInstanceAs (Decidable (system.clock ≤ system.time step))

/-- A step that begins no upload, reservation or compaction while a journal is left, and
during which no process ends that leaves a whole staging file behind. -/
def Careful (system : System) (step : Step) : Prop :=
  (step.call.toleratesJournals = true ∨ system.store.journals = ∅) ∧
    some (Fault.stranded true) ∉ step.script

instance (system : System) (step : Step) : Decidable (Careful system step) :=
  inferInstanceAs (Decidable ((_ ∨ _) ∧ _))

/-- An object that is not counted in the lease it was created under. -/
def Store.Uncounted (store : Store) (key : ObjectKey) : Prop :=
  ∃ file object, store.Live file ∧ store.objects.get? key = some object ∧
    object.origin = some file.serial ∧ file.state.objects.get? key = none

theorem triple_answer {α : Type} {allowed : Fault → Prop} {program : Action α} {store : Store}
    {wrap : α → Answer} {property : Store → Prop}
    (holds : Triple allowed program store (fun _ => property) property) :
    Triple allowed (do let value ← program; pure (wrap value)) store (fun _ => property) property :=
  holds.andThen fun _ _ kept => triple_pure kept

section Runs

variable [Formats] {installation : Installation}

theorem triple_run {allowed : Fault → Prop} {call : Call} {admitted clock : Nat} {store : Store}
    (ordinary : ¬ allowed (.stranded true))
    (books : Books installation.policy admitted (call.time.getD clock) store)
    (idle : call.toleratesJournals = true ∨ store.journals = ∅) :
    Ends allowed (call.run installation) store
      (Sound installation.policy (call.time.getD clock)) := by
  have quiet : ∀ {program : Action Unit}, Quiet allowed program →
      Ends allowed program store (Sound installation.policy (call.time.getD clock)) := fun quiet =>
    (quiet.triple store).imp (fun _ _ same => ⟨admitted, books.same same⟩)
      fun _ same => ⟨admitted, books.same same⟩
  cases call with
  | reserve freeSpace lease =>
    exact triple_answer (triple_reserveProviderLease books (idle.resolve_left nofun))
  | reserveIdempotent freeSpace lease =>
    exact triple_answer (triple_reserveProviderLeaseIdempotent books (idle.resolve_left nofun))
  | putRecord freeSpace journalId call locator record =>
    exact triple_answer (triple_putProviderRecordLeased ordinary books (idle.resolve_left nofun))
  | putRecords freeSpace journalId call records =>
    exact triple_answer (triple_putProviderRecordsLeased ordinary books (idle.resolve_left nofun))
  | putCapsule freeSpace journalId call bytes =>
    exact triple_answer (triple_putRecoveryCapsuleLeased ordinary books (idle.resolve_left nofun))
  | beginUpload freeSpace call requested =>
    exact triple_answer (triple_beginRecoveryCapsuleUpload books)
  | putSegment freeSpace call uploadId index segment segmentDigest =>
    exact triple_answer (quiet quiet_putRecoveryCapsuleSegment)
  | commitUpload freeSpace journalId call uploadId =>
    exact triple_answer (triple_commitRecoveryCapsuleUpload ordinary books)
  | acknowledge lease uploadId =>
    exact triple_answer (quiet quiet_acknowledgeRecoveryCapsuleUpload)
  | cancel lease now => exact triple_answer (triple_cancelProviderLease books)
  | capacity freeSpace now scope =>
    refine triple_answer ((triple_providerCapacity books (idle.resolve_left nofun)).imp ?_
      fun _ stopped => ⟨admitted, stopped⟩)
    exact fun _ after kept => ⟨admitted, kept.1⟩
  | reopen now => exact triple_answer (triple_recoverStore books)

omit [Formats] in
/-- The books are about no reference. -/
theorem SameBooks.loseReference (store : Store) (loss : Locator × Bool) :
    SameBooks store (store.loseReference loss) := by
  unfold Store.loseReference
  split
  · split_ifs <;> exact ⟨rfl, rfl, rfl, rfl, rfl, rfl⟩
  · exact .refl store

/-- A careful step keeps the books, whatever happens to its writes. -/
theorem sound_after {system : System} {step : Step} (timely : Timely system step)
    (careful : Careful system step) (sound : Sound installation.policy system.clock system.store) :
    Sound installation.policy (system.after installation step).clock
      (system.after installation step).store := by
  have within : Within (fun fault => fault ≠ .stranded true) step.script := by
    rintro fault member rfl
    exact careful.2 member
  obtain ⟨admitted, books⟩ := sound
  have ordinary : ¬ (Fault.stranded true ≠ .stranded true) := fun no => no rfl
  have kept := @triple_run _ installation (fun fault => fault ≠ .stranded true) step.call admitted
    system.clock system.store ordinary (books.advance timely) careful.1
  have settled := System.after_of_triple kept within fun store loss sound =>
    sound.imp fun _ books => books.same (.loseReference store loss)
  rcases settled with unchanged | ⟨right, clock⟩
  · rw [unchanged]
    exact ⟨admitted, books⟩
  · rw [clock]
    exact right

omit [Formats] in
theorem sound_fresh (policy : ProviderQuotaPolicy) : Sound policy 0 Store.fresh := by
  refine ⟨0, ?_⟩
  exact
    { ordered := le_rfl
      filed := fun _ _ => nofun
      serials := fun _ _ _ _ => nofun
      origins := fun _ _ _ => nofun
      ended := fun _ _ => nofun
      bounded := fun file resource live => absurd live.1 nofun
      counted := fun file resource live => absurd live.1 nofun
      awaited := fun file key object live => absurd live.1 nofun
      folded := fun resource scope => rfl
      within := fun resource reach => Nat.zero_le _
      underway := fun upload outstanding => absurd outstanding (Books.not_outstanding rfl upload)
      torn := fun content member => absurd member List.not_mem_nil }

/-! ## Careful runs -/

/-- In a run whose steps are in time and careful, what is stored stays within every limit,
every object that its lease does not count has a journal, and without a journal every
object is counted exactly once. -/
theorem careful_runs_stay_within_quota (installation : Installation) (steps : List Step)
    (careful : Trace.Along (System.after installation)
      (fun system step => Timely system step ∧ Careful system step) System.fresh steps) :
    let store := (runSteps installation System.fresh steps).store
    store.WithinQuota installation.policy ∧
      (∀ key, store.Uncounted key → ∃ upload, store.Outstanding upload ∧ upload.place = key) ∧
        (store.journals = ∅ → store.CountedOnce) := by
  have kept : ∀ system step, Timely system step ∧ Careful system step →
      Sound installation.policy system.clock system.store →
      Sound installation.policy (system.after installation step).clock
        (system.after installation step).store :=
    fun system step both sound => sound_after both.1 both.2 sound
  obtain ⟨admitted, books⟩ : Sound installation.policy
      (runSteps installation System.fresh steps).clock
      (runSteps installation System.fresh steps).store :=
    careful.induction kept (sound_fresh installation.policy)
  refine ⟨books.withinQuota, ?_, books.countedOnce⟩
  rintro key ⟨file, object, live, found, origin, unlisted⟩
  obtain ⟨upload, outstanding, -, place⟩ := books.awaited file key object live found origin unlisted
  exact ⟨upload, outstanding, place⟩

end Runs

/-! ## A run that is not careful -/

namespace Sample

/-- Digests that add up bytes; no file is a capsule. -/
scoped instance formats : Formats where
  digest bytes := ⟨(bytes.map UInt8.toNat).sum⟩
  stateDigest _ := ⟨0⟩
  descriptorDigest _ := ⟨0⟩
  parseRecoveryCapsuleHeader _ := none
  header_snapshotId := nofun

/-- A provider with room for one object. -/
def installation : Installation where
  policy :=
    { maximumTotalBytes := 58
      maximumPeerBytes := 58
      maximumBackupBytes := 58
      maximumTotalObjects := 1
      maximumPeerObjects := 1
      maximumBackupObjects := 1
      freeSpaceReserveBytes := 0
      maximumLeaseLifetimeMs := 1000 }
  maximumChunkSize := 1

def lease : StorageLease where
  leaseId := "lease"
  peerDeviceId := ⟨⟨1⟩⟩
  providerDeviceId := ⟨⟨2⟩⟩
  backupId := ⟨⟨3⟩⟩
  maxNewBytes := 58
  maxNewObjects := 1
  issuedAt := 1
  expiresAt := 1000
  nonce := "nonce"
  signature := "signature"

/-- The record of a chunk of one byte. -/
def record (byte : UInt8) : Bytes :=
  [67, 86, 67, 72, 1] ++ List.replicate 8 0 ++ [0, 0, 0, 1] ++ List.replicate 40 0 ++ [byte]

def upload (journalId : Nat) (locator : Nat) (byte : UInt8) : Call :=
  .putRecord 1000 ⟨journalId⟩ ⟨⟨⟨1⟩⟩, ⟨⟨3⟩⟩, lease, 2⟩ ⟨locator⟩ (record byte)

/-- A chunk is stored and its reference is refused.  It is uploaded again, another chunk
is uploaded, and the store is opened again. -/
def uncounted : List Step :=
  [{ call := .reserve 1000 lease },
    { call := upload 1 1 7, script := [none, none, some .refused] },
    { call := upload 2 1 7 }, { call := upload 3 2 8 }, { call := .reopen 3 }]

/-- The same, but the store is opened before the upload is repeated. -/
def recovered : List Step :=
  [{ call := .reserve 1000 lease },
    { call := upload 1 1 7, script := [none, none, some .refused] },
    { call := .reopen 2 }, { call := upload 2 1 7 }]

/-- The store after the first run. -/
def overfull : Store :=
  (runSteps installation System.fresh uncounted).store

end Sample

open Sample in
/-- A careful run with a failed upload. -/
theorem recovered_run_stays_within_quota :
    (runSteps Sample.installation System.fresh recovered).store.WithinQuota
        Sample.installation.policy ∧
      (runSteps Sample.installation System.fresh recovered).store.stored .objects .total = 1 :=
  ⟨(careful_runs_stay_within_quota Sample.installation recovered (by decide +kernel)).1,
    by decide +kernel⟩

open Sample in
/-- A failed upload and its repetition leave an object uncounted: with no journal left, the
only lease counts one object, the ledger counts none, and two objects are stored where one
is allowed. -/
theorem failed_upload_and_retry_exceed_quota :
    Trace.Along (System.after Sample.installation) Timely System.fresh uncounted ∧
      overfull.journals = ∅ ∧
      overfull.leases.values.map (·.state.consumedNewObjects) = [1] ∧
      overfull.ledger.usage = ∅ ∧ overfull.stored .objects .total = 2 ∧
      ¬ overfull.WithinQuota Sample.installation.policy := by
  have two : overfull.stored .objects .total = 2 := by decide +kernel
  refine ⟨by decide +kernel, by decide +kernel, by decide +kernel, by decide +kernel, two, ?_⟩
  intro within
  have bound := within .objects .total
  rw [two] at bound
  exact absurd bound (by decide)

end Covalent.Provider
