import Covalent.Base.Selection
import Covalent.Engine.Capsules
import Mathlib.Data.List.Destutter

/-!
# Selecting what to recover

A device that recovers asks every provider for its capsules.  They arrive one after the
other, and of each backup only the latest authentic capsule is kept, with the providers
that handed it over.  Capsules the owner signed that cannot be used are remembered as
evidence that something newer exists.

## Design notes

**Fatal errors.**  An error of the sink sets a flag in the source and ends the selection
with an error, whatever the provider makes of it; here it is the error itself.

**Cancellation.**  A cancellation while capsules arrive leaves nothing behind.  It is
noticed, in the import, where the selection ends.
-/

namespace Covalent.Engine

open Sharing (PublicIdentity Primitives)

/-! ## Records -/

abbrev Candidate := RecoveryCapsule × DeviceSet

/-- The order in which an import compares snapshots: the recorded time, then the
identifier. -/
abbrev Recency := ℕ ×ₗ String

namespace RecoveryCapsule

def recency (capsule : RecoveryCapsule) : Recency :=
  toLex (capsule.committedAtUnixMs, capsule.snapshotId)

end RecoveryCapsule

/-- A capsule as it arrives, after room was reserved for it. -/
structure Delivery where
  serializedBytes : Nat
  capsule : RecoveryCapsule

/-- What a provider does when it is asked for its capsules. -/
structure Visit where
  providerId : DeviceId
  online : Bool
  deliveries : List Delivery
  /-- A reservation whose capsule did not arrive. -/
  unfinished : Option Nat
  /-- The error with which the provider ends. -/
  failure : Option CoreError

structure CatalogSelection where
  latest : BTreeMap BackupId Candidate
  queried : DeviceSet
  failures : List ProviderFailure
  blocked : Bool

structure Accumulator where
  latest : BTreeMap BackupId Candidate
  retainedSizes : BTreeMap BackupId Nat
  verified : BTreeMap (BackupId ×ₗ String) String
  unusable : BTreeMap BackupId Recency
  failures : List ProviderFailure
  liveBytes : Nat
  maximumBytes : Nat
  count : Nat

def maxLiveCatalogBytes : Nat := 384 * 1024 * 1024
def maxCatalogs : Nat := 1000000
def evidenceBytes : Nat := 512
def candidateOverhead : Nat := 16 * 1024
def maxRecoveryImportFailures : Nat := 256

def retainRecoveryFailure (failures : List ProviderFailure) (failure : ProviderFailure) :
    List ProviderFailure :=
  if failures.length < maxRecoveryImportFailures then failures ++ [failure] else failures

def retainLatestRecoveryEvidence (evidence : BTreeMap BackupId Recency)
    (capsule : RecoveryCapsule) : BTreeMap BackupId Recency :=
  match evidence.get? capsule.backupId with
  | some current =>
    if current < capsule.recency then evidence.insert capsule.backupId capsule.recency
    else evidence
  | none => evidence.insert capsule.backupId capsule.recency

def errorCategory : CoreError → String
  | .missingChunk _ => "missing_chunk"
  | .authenticationFailed => "corrupt_chunk"
  | .resourceLimit _ => "resource_limit"
  | _ => "provider_error"

/-! ## The selection -/

namespace Accumulator

def new (maximumBytes : Nat) : Accumulator :=
  ⟨∅, ∅, ∅, ∅, [], 0, maximumBytes, 0⟩

section

variable (accumulator : Accumulator) (provider : DeviceId) (capsule : RecoveryCapsule)

def ensureBudget (additional : Nat) : Result Unit :=
  refuse (decide (accumulator.maximumBytes - accumulator.liveBytes < additional))
    (.resourceLimit "recovery catalog selection")

/-- Charge an entry of an index. -/
def charge (bytes : Nat) : Result Accumulator := do
  accumulator.ensureBudget bytes
  pure { accumulator with liveBytes := accumulator.liveBytes + bytes }

def failure (providerId : DeviceId) (snapshot : Option String) (reason : String) : Accumulator :=
  { accumulator with
    failures := retainRecoveryFailure accumulator.failures ⟨providerId, snapshot, reason⟩ }

/-- Evidence is charged once for each backup. -/
def chargeEvidence (backupId : BackupId) : Result Accumulator :=
  if accumulator.unusable.containsKey backupId then pure accumulator
  else accumulator.charge evidenceBytes

def rejected (signed : Bool) : Result Accumulator :=
  let noted := accumulator.failure provider (some capsule.snapshotId)
    "recovery_catalog_authentication_failed"
  if !signed then pure noted
  else do
    let charged ← noted.chargeEvidence capsule.backupId
    pure { charged with
      unusable := retainLatestRecoveryEvidence charged.unusable capsule }

/-- Put a capsule in the place of its backup; the one before it is let go. -/
def replace (serializedBytes : Nat) : Result Accumulator := do
  let previousSize := (accumulator.retainedSizes.get? capsule.backupId).getD 0
  let freed := { accumulator with
    retainedSizes := accumulator.retainedSizes.insert capsule.backupId serializedBytes
    liveBytes := accumulator.liveBytes - previousSize }
  let charged ← freed.charge serializedBytes
  pure { charged with
    latest := charged.latest.insert capsule.backupId
      (capsule, (∅ : DeviceSet).insert provider ()) }

end

section Accepting

variable [Primitives] [ConfigFormats] [CapsuleFormats]

open CapsuleFormats

section

variable (accumulator : Accumulator) (owner : Owner) (provider : DeviceId)
  (capsule : RecoveryCapsule)

/-- Two capsules of one snapshot must be the same. -/
def verifyDigest : Result Accumulator :=
  let key := toLex (capsule.backupId, capsule.snapshotId)
  match accumulator.verified.get? key with
  | some previous => do
    refuse (previous != capsuleDigest capsule) .authenticationFailed
    pure accumulator
  | none => do
    let charged ← accumulator.charge evidenceBytes
    pure { charged with verified := charged.verified.insert key (capsuleDigest capsule) }

/-- Keep an authentic capsule if it is the latest of its backup. -/
def retain (serializedBytes : Nat) : Result Accumulator := do
  let verified ← accumulator.verifyDigest capsule
  match verified.latest.get? capsule.backupId with
  | some (current, providers) =>
    if current.snapshotId = capsule.snapshotId then
      pure { verified with
        latest := verified.latest.insert capsule.backupId
          (current, providers.insert provider ()) }
    else if capsule.recency < current.recency then pure verified
    else verified.replace provider capsule serializedBytes
  | none => do
    refuse (verified.latest.len == maxRememberedBackups) (.resourceLimit "recovered backups")
    let charged ← verified.charge candidateOverhead
    charged.replace provider capsule serializedBytes

def accept (serializedBytes : Nat) : Result Accumulator :=
  match examine owner provider capsule with
  | .unattributed => accumulator.rejected provider capsule false
  | .unusable => accumulator.rejected provider capsule true
  | .authenticated => accumulator.retain provider capsule serializedBytes

/-- Make room for a capsule that is about to arrive. -/
def reserve (serializedBytes : Nat) : Result Accumulator := do
  refuse (accumulator.count == maxCatalogs || serializedBytes == 0)
    (.resourceLimit "recovery catalog listing")
  accumulator.ensureBudget (saturatingAdd serializedBytes (evidenceBytes + candidateOverhead))
  pure { accumulator with count := accumulator.count + 1 }

end

/-- Take what a provider hands over. -/
def takeAll (owner : Owner) (provider : DeviceId) :
    Accumulator → List Delivery → Result Accumulator
  | accumulator, [] => pure accumulator
  | accumulator, delivery :: rest => do
    let reserved ← accumulator.reserve delivery.serializedBytes
    let accepted ← reserved.accept owner provider delivery.capsule delivery.serializedBytes
    takeAll owner provider accepted rest

/-- Ask one provider. -/
def visit (owner : Owner) (state : Accumulator × DeviceSet) (visit : Visit) :
    Result (Accumulator × DeviceSet) :=
  let (accumulator, queried) := state
  if !visit.online then
    pure (accumulator.failure visit.providerId none "recovery_catalog_provider_offline", queried)
  else do
    let taken ← takeAll owner visit.providerId accumulator visit.deliveries
    let reserved ← visit.unfinished.elim (pure taken) taken.reserve
    match visit.failure with
    | none => do
      refuse visit.unfinished.isSome (.resourceLimit "recovery catalog selection")
      pure (reserved, queried.insert visit.providerId ())
    | some error =>
      pure (reserved.failure visit.providerId none ("recovery_catalog_" ++ errorCategory error),
        queried)

/-- Ask all providers. -/
def visitAll (owner : Owner) :
    Accumulator × DeviceSet → List Visit → Result (Accumulator × DeviceSet)
  | state, [] => pure state
  | state, first :: rest => do
    let next ← visit owner state first
    visitAll owner next rest

end Accepting

/-- Whether something newer than what was kept may exist. -/
def blocked (accumulator : Accumulator) : Bool :=
  (accumulator.latest.keys.isEmpty && !accumulator.failures.isEmpty) ||
    accumulator.unusable.entries.any fun entry =>
      (accumulator.latest.get? entry.1).all fun candidate =>
        decide (candidate.1.recency ≤ entry.2)

end Accumulator

/-- What failures are sorted by in a report. -/
def sortKey (failure : ProviderFailure) : DeviceId ×ₗ ((ℕ ×ₗ String) ×ₗ String) :=
  let place : ℕ ×ₗ String := match failure.locator with
    | none => toLex (0, "")
    | some locator => toLex (1, locator)
  toLex (failure.providerId, toLex (place, failure.reason))

/-- The failures of a report, sorted and each once. -/
def sortFailures (failures : List ProviderFailure) : List ProviderFailure :=
  (failures.mergeSort fun left right => decide (sortKey left ≤ sortKey right)).destutter (· ≠ ·)

section Collecting

variable [Primitives] [ConfigFormats] [CapsuleFormats]

/-- Ask all providers and select the latest capsule of each backup. -/
def collectWithLimit (owner : Owner) (visits : List Visit) (maximumBytes : Nat) :
    Result CatalogSelection := do
  let (accumulator, queried) ← Accumulator.visitAll owner (.new maximumBytes, ∅) visits
  pure ⟨accumulator.latest, queried, sortFailures accumulator.failures, accumulator.blocked⟩

def collect (owner : Owner) (visits : List Visit) : Result CatalogSelection :=
  collectWithLimit owner visits maxLiveCatalogBytes

/-! ## What was handed over -/

/-- What one provider handed over. -/
def Visit.handed (visit : Visit) : List (DeviceId × RecoveryCapsule) :=
  if visit.online then
    visit.deliveries.map fun delivery => (visit.providerId, delivery.capsule)
  else []

/-- What all providers handed over. -/
def handed (visits : List Visit) : List (DeviceId × RecoveryCapsule) :=
  visits.flatMap Visit.handed

/-- What was handed over and has a given worth. -/
def ofEvidence (owner : Owner) (evidence : Evidence)
    (capsules : List (DeviceId × RecoveryCapsule)) :
    List (DeviceId × RecoveryCapsule) :=
  capsules.filter fun entry => decide (examine owner entry.1 entry.2 = evidence)

/-- The authentic capsules that were handed over. -/
def authenticated (owner : Owner) (visits : List Visit) : List (DeviceId × RecoveryCapsule) :=
  ofEvidence owner .authenticated (handed visits)

/-- Whether a provider could not be asked to the end. -/
def Visit.troubled (visit : Visit) : Bool :=
  !visit.online || visit.failure.isSome

/-- When the evidence blocks an import: nothing authentic arrived and something went
wrong, or an unusable capsule is at least as recent as every authentic one of its backup. -/
def Blocks (owner : Owner) (visits : List Visit) : Prop :=
  ((∀ entry, entry ∉ authenticated owner visits) ∧ ((∃ visit ∈ visits, visit.troubled = true) ∨
      ∃ entry ∈ handed visits, examine owner entry.1 entry.2 ≠ .authenticated)) ∨
  ∃ entry ∈ handed visits, examine owner entry.1 entry.2 = .unusable ∧
    ∀ other ∈ authenticated owner visits, other.2.backupId = entry.2.backupId →
      other.2.recency ≤ entry.2.recency

end Collecting

/-! ## What one capsule changes -/

namespace Accumulator

variable {accumulator next : Accumulator}

/-- Whether two accumulators agree on everything but what they count. -/
structure Agree (one two : Accumulator) : Prop where
  latest : two.latest = one.latest
  unusable : two.unusable = one.unusable
  failures : two.failures = one.failures

variable {bytes : Nat} {provider : DeviceId} {capsule : RecoveryCapsule}

theorem agree_charge (charged : accumulator.charge bytes = .ok next) : Agree accumulator next := by
  simp only [charge, bind_eq_ok, exists_unit, pure_eq_ok] at charged
  obtain ⟨-, rfl⟩ := charged
  exact ⟨rfl, rfl, rfl⟩

theorem agree_reserve (reserved : accumulator.reserve bytes = .ok next) :
    Agree accumulator next := by
  simp only [reserve, bind_eq_ok, exists_unit, pure_eq_ok] at reserved
  obtain ⟨-, -, rfl⟩ := reserved
  exact ⟨rfl, rfl, rfl⟩

theorem replace_eq_ok (replaced : accumulator.replace provider capsule bytes = .ok next) :
    next.latest = accumulator.latest.insert capsule.backupId
        (capsule, (∅ : DeviceSet).insert provider ()) ∧
      next.unusable = accumulator.unusable ∧ next.failures = accumulator.failures := by
  simp only [replace, bind_eq_ok, pure_eq_ok] at replaced
  obtain ⟨charged, paid, rfl⟩ := replaced
  obtain ⟨latest, unusable, failures⟩ := agree_charge paid
  exact ⟨by rw [latest], unusable, failures⟩

theorem retainRecoveryFailure_ne_nil (failures : List ProviderFailure)
    (failure : ProviderFailure) : retainRecoveryFailure failures failure ≠ [] := by
  unfold retainRecoveryFailure
  split_ifs with room
  · simp
  · rintro rfl
    exact room (by decide)

theorem rejected_eq_ok {signed : Bool}
    (noted : accumulator.rejected provider capsule signed = .ok next) :
    next.latest = accumulator.latest ∧ next.failures ≠ [] ∧
      next.unusable = if signed then retainLatestRecoveryEvidence accumulator.unusable capsule
        else accumulator.unusable := by
  unfold rejected at noted
  have nonempty := retainRecoveryFailure_ne_nil accumulator.failures
    ⟨provider, some capsule.snapshotId, "recovery_catalog_authentication_failed"⟩
  cases signed with
  | false =>
    cases noted
    exact ⟨rfl, nonempty, rfl⟩
  | true =>
    simp only [Bool.not_true, Bool.false_eq_true, if_false, bind_eq_ok, pure_eq_ok] at noted
    obtain ⟨charged, paid, rfl⟩ := noted
    unfold chargeEvidence at paid
    split_ifs at paid with known
    · cases paid
      exact ⟨rfl, nonempty, rfl⟩
    · obtain ⟨latest, unusable, failures⟩ := agree_charge paid
      refine ⟨latest, ?_, ?_⟩
      · rw [failures]
        exact nonempty
      · rw [if_pos rfl, unusable]
        rfl

section Accepting

variable [Primitives] [ConfigFormats] [CapsuleFormats] {owner : Owner} {provider : DeviceId}
  {capsule : RecoveryCapsule} {bytes : Nat}

omit [Primitives] [ConfigFormats] in
theorem agree_verifyDigest (verified : accumulator.verifyDigest capsule = .ok next) :
    Agree accumulator next := by
  unfold verifyDigest at verified
  dsimp only at verified
  split at verified
  · simp only [bind_eq_ok, exists_unit, pure_eq_ok] at verified
    obtain ⟨-, rfl⟩ := verified
    exact ⟨rfl, rfl, rfl⟩
  · simp only [bind_eq_ok, pure_eq_ok] at verified
    obtain ⟨charged, paid, rfl⟩ := verified
    obtain ⟨latest, unusable, failures⟩ := agree_charge paid
    exact ⟨latest, unusable, failures⟩

omit [Primitives] [ConfigFormats] in
theorem retain_eq_ok (retained : accumulator.retain provider capsule bytes = .ok next) :
    next.latest = Selection.keep RecoveryCapsule.backupId RecoveryCapsule.snapshotId
        RecoveryCapsule.recency accumulator.latest provider capsule ∧
      next.unusable = accumulator.unusable ∧ next.failures = accumulator.failures := by
  simp only [retain, bind_eq_ok] at retained
  obtain ⟨verified, checked, rest⟩ := retained
  obtain ⟨latest, unusable, failures⟩ := agree_verifyDigest checked
  unfold Selection.keep
  rw [latest] at rest
  cases kept : accumulator.latest.get? capsule.backupId with
  | none =>
    rw [kept] at rest
    simp only [bind_eq_ok, exists_unit] at rest
    obtain ⟨-, charged, paid, replaced⟩ := rest
    obtain ⟨latestPaid, unusablePaid, failuresPaid⟩ := agree_charge paid
    obtain ⟨latestNext, unusableNext, failuresNext⟩ := replace_eq_ok replaced
    refine ⟨?_, ?_, ?_⟩
    · rw [latestNext, latestPaid, latest]
    · rw [unusableNext, unusablePaid, unusable]
    · rw [failuresNext, failuresPaid, failures]
  | some candidate =>
    rw [kept] at rest
    dsimp only at rest ⊢
    split_ifs at rest with same older
    · cases rest
      rw [if_pos same]
      exact ⟨by rw [← latest], unusable, failures⟩
    · cases rest
      rw [if_neg same, if_pos older]
      exact ⟨latest, unusable, failures⟩
    · obtain ⟨latestNext, unusableNext, failuresNext⟩ := replace_eq_ok rest
      rw [if_neg same, if_neg older]
      exact ⟨by rw [latestNext, latest], unusableNext.trans unusable, failuresNext.trans failures⟩

theorem accept_eq_ok (accepted : accumulator.accept owner provider capsule bytes = .ok next) :
    match examine owner provider capsule with
    | .unattributed =>
      next.latest = accumulator.latest ∧ next.unusable = accumulator.unusable ∧ next.failures ≠ []
    | .unusable =>
      next.latest = accumulator.latest ∧
        next.unusable = retainLatestRecoveryEvidence accumulator.unusable capsule ∧
        next.failures ≠ []
    | .authenticated =>
      next.latest = Selection.keep RecoveryCapsule.backupId RecoveryCapsule.snapshotId
          RecoveryCapsule.recency accumulator.latest provider capsule ∧
        next.unusable = accumulator.unusable ∧ next.failures = accumulator.failures := by
  unfold accept at accepted
  cases worth : examine owner provider capsule with
  | unattributed =>
    rw [worth] at accepted
    obtain ⟨latest, failures, unusable⟩ := rejected_eq_ok accepted
    exact ⟨latest, unusable, failures⟩
  | unusable =>
    rw [worth] at accepted
    obtain ⟨latest, failures, unusable⟩ := rejected_eq_ok accepted
    exact ⟨latest, unusable, failures⟩
  | authenticated =>
    rw [worth] at accepted
    exact retain_eq_ok accepted

theorem visit_eq_ok {queried asked : DeviceSet} {visit : Visit}
    (visited : Accumulator.visit owner (accumulator, queried) visit = .ok (next, asked)) :
    (visit.online = false ∧ ∃ reason, next = accumulator.failure visit.providerId none reason) ∨
      visit.online = true ∧ ∃ received reserved,
        accumulator.takeAll owner visit.providerId visit.deliveries = .ok received ∧
        Agree received reserved ∧
        (visit.troubled = false ∧ next = reserved ∨
          visit.troubled = true ∧
            ∃ reason, next = reserved.failure visit.providerId none reason) := by
  unfold Accumulator.visit at visited
  cases reachable : visit.online with
  | false =>
    simp only [reachable, Bool.not_false, if_true, pure_eq_ok, Prod.mk.injEq] at visited
    obtain ⟨rfl, -⟩ := visited
    exact .inl ⟨rfl, _, rfl⟩
  | true =>
    simp only [reachable, Bool.not_true, Bool.false_eq_true, if_false, bind_eq_ok] at visited
    obtain ⟨received, handedOver, reserved, room, ending⟩ := visited
    have same : Agree received reserved := by
      cases unfinished : visit.unfinished with
      | none =>
        rw [unfinished] at room
        cases room
        exact ⟨rfl, rfl, rfl⟩
      | some size =>
        rw [unfinished] at room
        exact agree_reserve room
    refine .inr ⟨rfl, received, reserved, handedOver, same, ?_⟩
    cases failed : visit.failure with
    | none =>
      rw [failed] at ending
      simp only [bind_eq_ok, exists_unit, pure_eq_ok, Prod.mk.injEq] at ending
      obtain ⟨-, rfl, -⟩ := ending
      exact .inl ⟨by simp [Visit.troubled, reachable, failed], rfl⟩
    | some error =>
      rw [failed] at ending
      obtain ⟨rfl, -⟩ := ending
      exact .inr ⟨by simp [Visit.troubled, failed], _, rfl⟩

end Accepting

end Accumulator

/-! ## What the selection keeps -/

/-- Evidence is the greatest recency of the unusable capsules of each backup. -/
structure Raised (capsules : List (DeviceId × RecoveryCapsule))
    (evidence : BTreeMap BackupId Recency) : Prop where
  present : ∀ {backupId recency}, evidence.get? backupId = some recency →
    ∃ entry ∈ capsules, entry.2.backupId = backupId ∧ entry.2.recency = recency
  greatest : ∀ entry ∈ capsules,
    ∃ recency, evidence.get? entry.2.backupId = some recency ∧ entry.2.recency ≤ recency

theorem raised_retain {capsules : List (DeviceId × RecoveryCapsule)}
    {evidence : BTreeMap BackupId Recency} {provider : DeviceId} {capsule : RecoveryCapsule}
    (raised : Raised capsules evidence) :
    Raised (capsules ++ [(provider, capsule)]) (retainLatestRecoveryEvidence evidence capsule) := by
  have last : (provider, capsule) ∈ capsules ++ [(provider, capsule)] := by simp
  -- Evidence that is put in place is that of the new capsule and above what was there.
  have put : (∀ recency, evidence.get? capsule.backupId = some recency →
      recency ≤ capsule.recency) →
      Raised (capsules ++ [(provider, capsule)])
        (evidence.insert capsule.backupId capsule.recency) := by
    intro above
    constructor
    · intro backupId recency found
      rw [BTreeMap.get?_insert] at found
      split_ifs at found with here
      · exact ⟨_, last, here.symm, Option.some.inj found⟩
      · obtain ⟨entry, member, placed, same⟩ := raised.present found
        exact ⟨entry, List.mem_append_left _ member, placed, same⟩
    · intro entry member
      rw [BTreeMap.get?_insert]
      rcases List.mem_append.mp member with before | now
      · obtain ⟨recency, found, below⟩ := raised.greatest entry before
        split_ifs with here
        · rw [here] at found
          exact ⟨_, rfl, below.trans (above recency found)⟩
        · exact ⟨recency, found, below⟩
      · obtain rfl := List.mem_singleton.mp now
        exact ⟨_, if_pos rfl, le_rfl⟩
  unfold retainLatestRecoveryEvidence
  cases known : evidence.get? capsule.backupId with
  | none => exact put (by simp [known])
  | some current =>
    dsimp only
    split_ifs with newer
    · refine put fun recency found => ?_
      obtain rfl := Option.some.inj (known.symm.trans found)
      exact newer.le
    · constructor
      · intro backupId recency found
        obtain ⟨entry, member, placed, same⟩ := raised.present found
        exact ⟨entry, List.mem_append_left _ member, placed, same⟩
      · intro entry member
        rcases List.mem_append.mp member with before | now
        · exact raised.greatest entry before
        · obtain rfl := List.mem_singleton.mp now
          exact ⟨current, known, not_lt.mp newer⟩

section Collecting

variable [Primitives] [ConfigFormats] [CapsuleFormats]

/-- What the steps of a selection keep: counting, one more capsule, and a failure of a
provider. -/
structure Stable (owner : Owner)
    (holds : List (DeviceId × RecoveryCapsule) → Prop → Accumulator → Prop) : Prop where
  agree : ∀ {taken trouble accumulator next}, holds taken trouble accumulator →
    Accumulator.Agree accumulator next → holds taken trouble next
  accept : ∀ {taken trouble accumulator next provider capsule bytes},
    holds taken trouble accumulator →
    Accumulator.accept accumulator owner provider capsule bytes = .ok next →
    holds (taken ++ [(provider, capsule)]) trouble next
  failure : ∀ {taken trouble accumulator} provider reason, holds taken trouble accumulator →
    holds taken True (Accumulator.failure accumulator provider none reason)

section Stable

variable {owner : Owner} {holds : List (DeviceId × RecoveryCapsule) → Prop → Accumulator → Prop}
  {taken : List (DeviceId × RecoveryCapsule)} {trouble : Prop} {accumulator next : Accumulator}
  {queried asked : DeviceSet} (stable : Stable owner holds)

include stable

theorem Stable.takeAll {provider : DeviceId} {deliveries : List Delivery}
    (held : holds taken trouble accumulator)
    (received : accumulator.takeAll owner provider deliveries = .ok next) :
    holds (taken ++ deliveries.map fun delivery => (provider, delivery.capsule)) trouble next := by
  induction deliveries generalizing taken accumulator with
  | nil =>
    cases received
    simpa using held
  | cons delivery rest ih =>
    simp only [Accumulator.takeAll, bind_eq_ok] at received
    obtain ⟨reserved, room, accepted, kept, remaining⟩ := received
    have begun := stable.accept (stable.agree held (Accumulator.agree_reserve room)) kept
    have later := ih begun remaining
    rw [List.append_assoc] at later
    exact later

theorem Stable.visit {visit : Visit} (held : holds taken trouble accumulator)
    (visited : Accumulator.visit owner (accumulator, queried) visit = .ok (next, asked)) :
    holds (taken ++ visit.handed) (trouble ∨ visit.troubled = true) next := by
  unfold Visit.handed
  rcases Accumulator.visit_eq_ok visited with
    ⟨offline, reason, rfl⟩ | ⟨reachable, received, reserved, handedOver, same, ending⟩
  · have noted := stable.failure visit.providerId reason held
    simpa [Visit.troubled, offline] using noted
  · have took := stable.agree (stable.takeAll held handedOver) same
    rw [if_pos reachable]
    rcases ending with ⟨untroubled, rfl⟩ | ⟨troubled, reason, rfl⟩
    · simpa [untroubled] using took
    · simpa [troubled] using stable.failure visit.providerId reason took

theorem Stable.visitAll {visits : List Visit} (held : holds taken trouble accumulator)
    (visited : Accumulator.visitAll owner (accumulator, queried) visits = .ok (next, asked)) :
    holds (taken ++ handed visits) (trouble ∨ ∃ visit ∈ visits, visit.troubled = true) next := by
  induction visits generalizing taken accumulator queried trouble with
  | nil =>
    obtain ⟨rfl, -⟩ := visited
    simpa [handed] using held
  | cons first rest ih =>
    simp only [Accumulator.visitAll, bind_eq_ok, Prod.exists] at visited
    obtain ⟨between, known, begun, remaining⟩ := visited
    have later := ih (stable.visit held begun) remaining
    simpa [handed, or_assoc] using later

end Stable

/-- The accumulator after some capsules, and after providers that gave trouble or not. -/
structure Collected (owner : Owner) (taken : List (DeviceId × RecoveryCapsule)) (trouble : Prop)
    (accumulator : Accumulator) : Prop where
  chosen : Selection.Chosen RecoveryCapsule.backupId RecoveryCapsule.recency
    (ofEvidence owner .authenticated taken) accumulator.latest
  raised : Raised (ofEvidence owner .unusable taken) accumulator.unusable
  failures : accumulator.failures = [] ↔
    ¬trouble ∧ ∀ entry ∈ taken, examine owner entry.1 entry.2 = .authenticated

/-- No two capsules of one snapshot were handed over. -/
abbrev OneEach (capsules : List (DeviceId × RecoveryCapsule)) : Prop :=
  Selection.Distinct RecoveryCapsule.backupId RecoveryCapsule.snapshotId RecoveryCapsule.recency
    capsules

variable {owner : Owner} {taken : List (DeviceId × RecoveryCapsule)} {trouble : Prop}
  {accumulator next : Accumulator}

variable {evidence : Evidence} {provider : DeviceId} {capsule : RecoveryCapsule} {bytes : Nat}

theorem mem_ofEvidence {entry : DeviceId × RecoveryCapsule} :
    entry ∈ ofEvidence owner evidence taken ↔
      entry ∈ taken ∧ examine owner entry.1 entry.2 = evidence := by
  simp [ofEvidence]

theorem ofEvidence_append_single : ofEvidence owner evidence (taken ++ [(provider, capsule)]) =
      if examine owner provider capsule = evidence then
        ofEvidence owner evidence taken ++ [(provider, capsule)]
      else ofEvidence owner evidence taken := by
  unfold ofEvidence
  split_ifs with worth <;> simp [worth]

theorem Collected.agree (collected : Collected owner taken trouble accumulator)
    (same : Accumulator.Agree accumulator next) : Collected owner taken trouble next where
  chosen := by
    rw [same.latest]
    exact collected.chosen
  raised := by
    rw [same.unusable]
    exact collected.raised
  failures := by
    rw [same.failures]
    exact collected.failures

theorem Collected.accept
    (distinct : OneEach (ofEvidence owner .authenticated (taken ++ [(provider, capsule)])))
    (collected : Collected owner taken trouble accumulator)
    (accepted : accumulator.accept owner provider capsule bytes = .ok next) :
    Collected owner (taken ++ [(provider, capsule)]) trouble next := by
  have effect := Accumulator.accept_eq_ok accepted
  -- A capsule that is not authentic leaves a failure behind.
  have failed : examine owner provider capsule ≠ .authenticated → next.failures ≠ [] →
      (next.failures = [] ↔ ¬trouble ∧
        ∀ entry ∈ taken ++ [(provider, capsule)],
          examine owner entry.1 entry.2 = .authenticated) := by
    intro unauthentic nonempty
    refine iff_of_false nonempty fun ⟨_, all⟩ => ?_
    exact unauthentic (all (provider, capsule) (by simp))
  cases worth : examine owner provider capsule with
  | unattributed =>
    rw [worth] at effect failed
    obtain ⟨latest, unusable, nonempty⟩ := effect
    refine ⟨?_, ?_, failed nofun nonempty⟩
    · rw [latest, ofEvidence_append_single, if_neg (by simp [worth])]
      exact collected.chosen
    · rw [unusable, ofEvidence_append_single, if_neg (by simp [worth])]
      exact collected.raised
  | unusable =>
    rw [worth] at effect failed
    obtain ⟨latest, unusable, nonempty⟩ := effect
    refine ⟨?_, ?_, failed nofun nonempty⟩
    · rw [latest, ofEvidence_append_single, if_neg (by simp [worth])]
      exact collected.chosen
    · rw [unusable, ofEvidence_append_single, if_pos worth]
      exact raised_retain collected.raised
  | authenticated =>
    rw [worth] at effect
    obtain ⟨latest, unusable, failures⟩ := effect
    rw [ofEvidence_append_single, if_pos worth] at distinct
    refine ⟨?_, ?_, ?_⟩
    · rw [latest, ofEvidence_append_single, if_pos worth]
      exact collected.chosen.keep distinct
    · rw [unusable, ofEvidence_append_single, if_neg (by simp [worth])]
      exact collected.raised
    · rw [failures, collected.failures]
      rw [List.forall_mem_append, List.forall_mem_singleton]
      simp only [worth, and_true]

variable {visits : List Visit} {selection : CatalogSelection} {limit : Nat}

theorem stable_collected : Stable owner fun taken trouble accumulator =>
    OneEach (ofEvidence owner .authenticated taken) →
      Collected owner taken trouble accumulator where
  agree held same distinct := (held distinct).agree same
  accept held accepted distinct := by
    refine (held (distinct.mono fun entry member => ?_)).accept distinct accepted
    rw [mem_ofEvidence] at member ⊢
    exact ⟨List.mem_append_left _ member.1, member.2⟩
  failure provider reason held distinct := by
    refine ⟨(held distinct).chosen, (held distinct).raised, ?_⟩
    exact iff_of_false (Accumulator.retainRecoveryFailure_ne_nil _ _)
      fun ⟨untroubled, _⟩ => untroubled trivial

theorem collected_collect (distinct : OneEach (authenticated owner visits))
    (collecting : collectWithLimit owner visits limit = .ok selection) :
    ∃ accumulator, Collected owner (handed visits) (∃ visit ∈ visits, visit.troubled = true)
        accumulator ∧
      selection.latest = accumulator.latest ∧ selection.blocked = accumulator.blocked := by
  simp only [collectWithLimit, bind_eq_ok, pure_eq_ok, Prod.exists] at collecting
  obtain ⟨accumulator, queried, visited, rfl⟩ := collecting
  have start : Collected owner [] False (.new limit) :=
    ⟨.empty, ⟨by rintro _ _ ⟨⟩, by rintro _ ⟨⟩⟩, by simp [Accumulator.new]⟩
  have final := stable_collected.visitAll (fun _ => start) visited distinct
  rw [false_or] at final
  exact ⟨accumulator, final, rfl, rfl⟩

/-- Every candidate is in the place of its backup. -/
def Placed (accumulator : Accumulator) : Prop :=
  ∀ backupId capsule providers, accumulator.latest.get? backupId = some (capsule, providers) →
    capsule.backupId = backupId

theorem stable_placed : Stable owner fun _ _ accumulator => Placed accumulator where
  agree placed same := by
    unfold Placed
    rw [same.latest]
    exact placed
  accept {_ _ _ _ provider capsule _} placed accepted := by
    have effect := Accumulator.accept_eq_ok accepted
    unfold Placed
    cases worth : examine owner provider capsule with
    | authenticated =>
      rw [worth] at effect
      rw [effect.1]
      exact fun _ _ _ => Selection.keep_placed placed
    | _ =>
      rw [worth] at effect
      rw [effect.1]
      exact placed
  failure _ _ placed := placed

/-- Every candidate of a selection is a capsule of the backup it is selected for. -/
theorem collect_placed (collecting : collectWithLimit owner visits limit = .ok selection)
    {entry : BackupId × Candidate} (listed : entry ∈ selection.latest.entries) :
    entry.2.1.backupId = entry.1 := by
  simp only [collectWithLimit, bind_eq_ok, pure_eq_ok, Prod.exists] at collecting
  obtain ⟨accumulator, queried, visited, rfl⟩ := collecting
  have start : Placed (.new limit) := by rintro _ _ _ ⟨⟩
  have final : Placed accumulator :=
    @Stable.visitAll _ _ _ owner _ [] False _ _ _ _ stable_placed visits start visited
  exact final _ _ _ (BTreeMap.get?_eq_some_iff.mpr listed)

section

variable (distinct : OneEach (authenticated owner visits))
  (collecting : collectWithLimit owner visits limit = .ok selection)

include distinct collecting

/-- The selection keeps the latest authentic capsule of each backup. -/
theorem collect_chosen :
    Selection.Chosen RecoveryCapsule.backupId RecoveryCapsule.recency (authenticated owner visits)
      selection.latest := by
  obtain ⟨accumulator, collected, latest, -⟩ := collected_collect distinct collecting
  rw [latest]
  exact collected.chosen

/-- The selection is blocked by evidence, whatever order it came in. -/
theorem collect_blocked : selection.blocked = true ↔ Blocks owner visits := by
  obtain ⟨accumulator, collected, -, blocked⟩ := collected_collect distinct collecting
  rw [blocked, Accumulator.blocked, Bool.or_eq_true]
  refine or_congr ?_ ?_
  · rw [Bool.and_eq_true, List.isEmpty_iff, collected.chosen.keys_eq_nil, Bool.not_eq_true',
      List.isEmpty_eq_false_iff, Ne, collected.failures, not_and_or, not_not]
    simp only [not_forall, exists_prop]
    rfl
  · rw [List.any_eq_true]
    constructor
    · rintro ⟨⟨backupId, recency⟩, listed, recent⟩
      obtain ⟨entry, member, placed, rfl⟩ := collected.raised.present
        (BTreeMap.get?_eq_some_iff.mpr listed)
      obtain ⟨given, worth⟩ := mem_ofEvidence.mp member
      refine ⟨entry, given, worth, fun other authentic sharing => ?_⟩
      obtain ⟨⟨candidate, providers⟩, kept⟩ :=
        Option.isSome_iff_exists.mp (collected.chosen.covered other authentic)
      have below := collected.chosen.greatest kept other authentic rfl
      rw [sharing, placed] at kept
      rw [kept] at recent
      exact below.trans (of_decide_eq_true recent)
    · rintro ⟨entry, given, worth, above⟩
      obtain ⟨recency, found, below⟩ :=
        collected.raised.greatest entry (mem_ofEvidence.mpr ⟨given, worth⟩)
      refine ⟨(entry.2.backupId, recency), BTreeMap.get?_eq_some_iff.mp found, ?_⟩
      rw [Option.all_eq_true]
      intro candidate kept
      obtain ⟨placed, provider, authentic⟩ := collected.chosen.arrivedItem kept
      exact decide_eq_true ((above _ authentic placed).trans below)

end

end Collecting

end Covalent.Engine
