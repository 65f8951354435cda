import Covalent.Backup.Manifest

/-!
# Verifying the copies of a snapshot

The acknowledged copies of a snapshot are read back in batches, provider by provider, and each
record is checked against its reference.  A batch that cannot be read as a whole is blamed as a
whole.

## Design notes

**Providers** answer a batch with its records, in order, when each of them can be read, and
with an error otherwise.  There is one worker, so the batches are read one after the other.
-/

namespace Covalent.Replication

open List BTreeMap

open Backup (ChunkReference Manifest)

abbrev Bytes := List UInt8

def errorCategory : CoreError → String
  | .missingChunk _ => "missing_chunk"
  | .corruptChunk _ | .authenticationFailed => "corrupt_chunk"
  | .resourceLimit _ => "resource_limit"
  | _ => "provider_error"

/-! ## Records and providers -/

structure EncryptedChunk where
  plaintextLength : UInt32
  ciphertextLength : UInt32
  body : Bytes

/-- The decoding of records, and their decryption under the key of the backup. -/
class Records where
  decodeProviderRecord : ChunkReference → Bytes → Result EncryptedChunk
  decryptChunk : String → EncryptedChunk → Result Bytes

structure ReplicaProvider where
  /-- What reading the copy of a locator gives. -/
  get : String → Result Bytes
  getMany : List String → Result (List Bytes)
  answers : ∀ locators records, getMany locators = .ok records ↔ locators.map get = records.map .ok

/-- A provider that reads the copies of a batch one after the other. -/
def ReplicaProvider.ofGet (get : String → Result Bytes) : ReplicaProvider where
  get := get
  getMany locators := locators.mapM get
  answers _ _ := Except.mapM_eq_ok

structure ReplicationScheduler where
  providers : BTreeMap DeviceId ReplicaProvider
  maximumParallelism : Nat
  positive : 0 < maximumParallelism

def ReplicationScheduler.maximumFetchBatch (scheduler : ReplicationScheduler) : Nat :=
  min (scheduler.maximumParallelism * 4) 32

def maximumVerificationBatchBytes : Nat := 2 * 1024 * 1024

/-! ## The copies of a snapshot -/

/-- The references of a manifest by their locators. -/
def references (manifest : Manifest) : BTreeMap String ChunkReference :=
  ofList ((manifest.entries.flatMap fun entry => entry.chunks).map fun reference =>
    (reference.opaqueLocator, reference))

/-- The acknowledged copies of the selected providers that are asked: those that are not revoked
and online. -/
def providerCopies (manifest : Manifest) (asked : DeviceId → Bool) :
    Result (List (DeviceId × ChunkReference)) :=
  let acknowledged := (manifest.replicaIntent.selectedProviders.keys.filter asked).flatMap fun id =>
    ((manifest.providerAcknowledgements.get? id).getD []).map fun locator => (id, locator)
  acknowledged.mapM fun copy =>
    okOr (((references manifest).get? copy.2).map fun reference => (copy.1, reference))
      .restorePlanMismatch

/-! ## Batches -/

/-- The copies of each provider, in order. -/
def grouped (copies : List (DeviceId × ChunkReference)) : BTreeMap DeviceId (List ChunkReference) :=
  copies.foldl (fun groups copy =>
    groups.insert copy.1 ((groups.get? copy.1).getD [] ++ [copy.2])) ∅

/-- Cut references into batches, given the batch that is being filled and its bytes.  A batch
takes its first reference whatever its size. -/
def batches (limit : Nat) :
    List ChunkReference → Nat → List ChunkReference → List (List ChunkReference)
  | [], _, [] => []
  | batch, _, [] => [batch]
  | batch, bytes, reference :: rest =>
    let recordBytes := saturatingAdd reference.ciphertextLength.toNat 64
    if batch.length < limit ∧
        ¬ (batch ≠ [] ∧ maximumVerificationBatchBytes < saturatingAdd bytes recordBytes) then
      batches limit (batch ++ [reference]) (saturatingAdd bytes recordBytes) rest
    else batch :: batches limit [reference] recordBytes rest

/-- The batches of one provider. -/
def ReplicationScheduler.jobs (scheduler : ReplicationScheduler)
    (references : List ChunkReference) : List (List ChunkReference) :=
  batches scheduler.maximumFetchBatch [] 0 references

/-! ## Verification -/

section Verification

variable [Records]

open Records

def verifyProviderRecord (reference : ChunkReference) (record : Bytes) : Result Unit := do
  let encrypted ← decodeProviderRecord reference record
  refuse (encrypted.plaintextLength != reference.plaintextLength ||
    encrypted.ciphertextLength != reference.ciphertextLength)
    (.corruptChunk reference.opaqueLocator)
  let _ ← decryptChunk reference.plaintextDigest encrypted
  pure ()

/-- The copies of a batch that are blamed, with reasons. -/
def verifyBatch (provider : ReplicaProvider) (batch : List ChunkReference) :
    List (ChunkReference × String) :=
  match provider.getMany (batch.map ChunkReference.opaqueLocator) with
  | .ok records =>
    if records.length = batch.length then
      (batch.zip records).filterMap fun copy =>
        match verifyProviderRecord copy.1 copy.2 with
        | .error problem => some (copy.1, errorCategory problem)
        | .ok _ => none
    else batch.map fun reference => (reference, "authentication_failed")
  | .error problem => batch.map fun reference => (reference, errorCategory problem)

section

variable (scheduler : ReplicationScheduler) (copies : List (DeviceId × ChunkReference))

/-- The copies of one provider that are blamed. -/
def verifyProvider (id : DeviceId) (references : List ChunkReference) :
    List (ChunkReference × String) :=
  match scheduler.providers.get? id with
  | none => references.map fun reference => (reference, "provider_unavailable")
  | some provider => (scheduler.jobs references).flatMap (verifyBatch provider)

def verifyProviderCopiesParallel : List ProviderFailure :=
  let failures := (grouped copies).entries.flatMap fun group =>
    (verifyProvider scheduler group.1 group.2).map fun failed =>
      ⟨group.1, some failed.1.opaqueLocator, failed.2⟩
  failures.mergeSort fun left right => decide (toLex (left.providerId, left.locator.getD "") ≤
    toLex (right.providerId, right.locator.getD ""))

/-! ## Exact blame -/

/-- The copy of a reference on a provider can be read and passes its check. -/
def Intact (id : DeviceId) (reference : ChunkReference) : Prop :=
  ∃ provider, scheduler.providers.get? id = some provider ∧
    ∃ record, provider.get reference.opaqueLocator = .ok record ∧
      verifyProviderRecord reference record = .ok ()

/-- The copy of a reference on a provider can be read. -/
def Readable (provider : ReplicaProvider) (reference : ChunkReference) : Prop :=
  ∃ record, provider.get reference.opaqueLocator = .ok record

/-- A failure is reported for a provider and a locator. -/
def Blamed (failures : List ProviderFailure) (id : DeviceId) (locator : String) : Prop :=
  ∃ failure ∈ failures, failure.providerId = id ∧ failure.locator = some locator

/-- No batch has a copy that cannot be read beside an intact one. -/
def Unmixed : Prop :=
  ∀ id provider group, scheduler.providers.get? id = some provider →
    (grouped copies).get? id = some group → ∀ batch ∈ scheduler.jobs group,
      (∃ other ∈ batch, ¬ Readable provider other) →
        ∀ reference ∈ batch, ¬ Intact scheduler id reference

end

variable {scheduler : ReplicationScheduler} {copies : List (DeviceId × ChunkReference)}
  {id : DeviceId} {provider : ReplicaProvider} {reference : ChunkReference} {locator : String}

omit [Records] in
theorem mem_grouped : (id, reference) ∈ copies ↔
      ∃ group, (grouped copies).get? id = some group ∧ reference ∈ group := by
  induction copies using List.reverseRecOn with
  | nil => simp [grouped]
  | append_singleton copies copy ih =>
    obtain ⟨other, last⟩ := copy
    rw [grouped, foldl_append, foldl_cons, foldl_nil, ← grouped,
      get?_insert, mem_append, ih, mem_singleton, Prod.mk.injEq]
    split_ifs with here
    · subst here
      cases (grouped copies).get? id with
      | none => simp
      | some group => simp
    · simp [here]

omit [Records] in
theorem mem_batches {limit bytes : Nat} {batch rest : List ChunkReference} :
    (∃ filled ∈ batches limit batch bytes rest, reference ∈ filled) ↔
      reference ∈ batch ∨ reference ∈ rest := by
  induction rest generalizing batch bytes with
  | nil => cases batch <;> simp [batches]
  | cons next rest ih =>
    rw [batches.eq_3]
    split_ifs
    · rw [ih]
      simp [or_assoc]
    · simp only [mem_cons, exists_eq_or_imp, ih]
      simp

omit [Records] in
theorem paired_of_read {batch : List ChunkReference} {records : List Bytes}
    (read : provider.getMany (batch.map ChunkReference.opaqueLocator) = .ok records) :
    List.Forall₂ (fun reference record => provider.get reference.opaqueLocator = .ok record)
      batch records := by
  have same := (provider.answers _ _).mp read
  rw [← List.forall₂_eq_eq_eq] at same
  simpa using same

theorem mem_verifyBatch {batch : List ChunkReference}
    (found : scheduler.providers.get? id = some provider) :
    (∃ reason, (reference, reason) ∈ verifyBatch provider batch) ↔ reference ∈ batch ∧
      (¬ Intact scheduler id reference ∨ ∃ other ∈ batch, ¬ Readable provider other) := by
  unfold verifyBatch
  cases read : provider.getMany (batch.map ChunkReference.opaqueLocator) with
  | error problem =>
    -- Not every copy can be read, or the answer would have been their records.
    have unreadable : ∃ other ∈ batch, ¬ Readable provider other := by
      by_contra all
      push Not at all
      choose! record known using all
      have same : (batch.map ChunkReference.opaqueLocator).map provider.get =
          (batch.map record).map .ok := by
        rw [map_map, map_map]
        exact map_congr_left known
      cases read.symm.trans ((provider.answers _ _).mpr same)
    simp [unreadable]
  | ok records =>
    obtain ⟨length, each⟩ := List.forall₂_iff_zip.mp (paired_of_read read)
    have paired : ∀ reference ∈ batch, ∃ record, (reference, record) ∈ batch.zip records := by
      intro reference member
      rw [← map_fst_zip length.le] at member
      obtain ⟨⟨_, record⟩, present, rfl⟩ := mem_map.mp member
      exact ⟨record, present⟩
    have allRead : ¬ ∃ other ∈ batch, ¬ Readable provider other := by
      rintro ⟨other, member, unread⟩
      obtain ⟨record, present⟩ := paired other member
      exact unread ⟨record, each present⟩
    have intact : ∀ record, (reference, record) ∈ batch.zip records →
        (Intact scheduler id reference ↔ verifyProviderRecord reference record = .ok ()) := by
      intro record present
      refine ⟨?_, fun passes => ⟨provider, found, record, each present, passes⟩⟩
      rintro ⟨other, known, another, got, passes⟩
      obtain rfl := Option.some.inj (found.symm.trans known)
      obtain rfl := Except.ok.inj ((each present).symm.trans got)
      exact passes
    simp only [length.symm, if_true, allRead, or_false, mem_filterMap]
    constructor
    · rintro ⟨reason, ⟨other, record⟩, present, made⟩
      split at made
      · rename_i problem refused
        cases made
        refine ⟨(of_mem_zip present).1, ?_⟩
        rw [intact record present, refused]
        exact nofun
      · cases made
    · rintro ⟨member, bad⟩
      obtain ⟨record, present⟩ := paired reference member
      rw [intact record present] at bad
      cases checked : verifyProviderRecord reference record with
      | ok _ => exact absurd checked bad
      | error problem => exact ⟨errorCategory problem, _, present, by rw [checked]⟩

/-- Blamed is what is bad, and what shares a batch with a copy that cannot be read. -/
theorem mem_verifyProvider {group : List ChunkReference} :
    (∃ reason, (reference, reason) ∈ verifyProvider scheduler id group) ↔ reference ∈ group ∧
      (¬ Intact scheduler id reference ∨ ∃ provider, scheduler.providers.get? id = some provider ∧
        ∃ batch ∈ scheduler.jobs group, reference ∈ batch ∧
          ∃ other ∈ batch, ¬ Readable provider other) := by
  unfold verifyProvider
  cases found : scheduler.providers.get? id with
  | none => simp [Intact, found]
  | some provider =>
    have inJobs : reference ∈ group ↔ ∃ batch ∈ scheduler.jobs group, reference ∈ batch := by
      rw [ReplicationScheduler.jobs, mem_batches]
      simp
    have each : (∃ reason, (reference, reason) ∈
        (scheduler.jobs group).flatMap (verifyBatch provider)) ↔
          ∃ batch ∈ scheduler.jobs group, ∃ reason,
            (reference, reason) ∈ verifyBatch provider batch := by
      simp only [mem_flatMap]
      tauto
    simp only [each, mem_verifyBatch found, inJobs, Option.some.injEq, exists_eq_left']
    constructor
    · rintro ⟨batch, job, member, bad | mixed⟩
      · exact ⟨⟨batch, job, member⟩, .inl bad⟩
      · exact ⟨⟨batch, job, member⟩, .inr ⟨batch, job, member, mixed⟩⟩
    · rintro ⟨⟨batch, job, member⟩, bad | ⟨other, jobToo, memberToo, mixed⟩⟩
      · exact ⟨batch, job, member, .inl bad⟩
      · exact ⟨other, jobToo, memberToo, .inr mixed⟩

theorem blamed_iff : Blamed (verifyProviderCopiesParallel scheduler copies) id locator ↔
      ∃ group reference, (grouped copies).get? id = some group ∧ reference.opaqueLocator = locator ∧
          ∃ reason, (reference, reason) ∈ verifyProvider scheduler id group := by
  simp only [Blamed, verifyProviderCopiesParallel, mem_mergeSort, mem_flatMap,
    mem_map, get?_eq_some_iff]
  constructor
  · rintro ⟨_, ⟨⟨_, group⟩, entry, ⟨reference, reason⟩, made, rfl⟩, rfl, place⟩
    exact ⟨group, reference, entry, Option.some.inj place, reason, made⟩
  · rintro ⟨group, reference, entry, rfl, reason, made⟩
    exact ⟨_, ⟨(id, group), entry, (reference, reason), made, rfl⟩, rfl, rfl⟩

omit [Records] in
/-- The copies of a locator are copies of one reference. -/
theorem eq_of_locator {manifest : Manifest} {asked : DeviceId → Bool} {one two : ChunkReference}
    (made : providerCopies manifest asked = .ok copies) (first : (id, one) ∈ copies)
    (second : (id, two) ∈ copies) (same : one.opaqueLocator = two.opaqueLocator) : one = two := by
  have known : ∀ copy ∈ copies, (references manifest).get? copy.2.opaqueLocator = some copy.2 := by
    intro copy member
    obtain ⟨acknowledged, -, found⟩ := mem_map.mp
      (Except.mapM_eq_ok.mp made ▸ mem_map_of_mem member)
    obtain ⟨reference, known, rfl⟩ := Option.map_eq_some_iff.mp (okOr_eq_ok.mp found)
    obtain ⟨other, -, pair⟩ := mem_map.mp (mem_of_get?_ofList known)
    obtain ⟨place, rfl⟩ := Prod.mk.inj pair
    rw [← place] at known
    exact known
  have both := known _ first
  rw [same, known _ second] at both
  exact (Option.some.inj both).symm

/-- Exactly the copies are blamed that are missing or corrupt, for every locator and every
provider that is asked, when no batch has a copy that cannot be read beside an intact one, and
only then. -/
theorem failures_are_exact_iff {manifest : Manifest} {asked : DeviceId → Bool}
    (made : providerCopies manifest asked = .ok copies) :
    (∀ id locator, Blamed (verifyProviderCopiesParallel scheduler copies) id locator ↔
      ∃ reference, (id, reference) ∈ copies ∧ reference.opaqueLocator = locator ∧
        ¬ Intact scheduler id reference) ↔ Unmixed scheduler copies := by
  constructor
  · intro exactly id provider group found grouped batch job mixed reference member intact
    have present : reference ∈ group := by
      simpa using mem_batches.mp ⟨batch, job, member⟩
    obtain ⟨other, copy, place, bad⟩ := (exactly id reference.opaqueLocator).mp
      (blamed_iff.mpr ⟨group, reference, grouped, rfl, mem_verifyProvider.mpr
        ⟨present, .inr ⟨provider, found, batch, job, member, mixed⟩⟩⟩)
    obtain rfl := eq_of_locator made copy (mem_grouped.mpr ⟨group, grouped, present⟩) place
    exact bad intact
  · intro unmixed id locator
    rw [blamed_iff]
    constructor
    · rintro ⟨group, reference, grouped, place, blamed⟩
      obtain ⟨present, bad⟩ := mem_verifyProvider.mp blamed
      refine ⟨reference, mem_grouped.mpr ⟨group, grouped, present⟩, place, ?_⟩
      rcases bad with bad | ⟨provider, found, batch, job, member, mixed⟩
      · exact bad
      · exact unmixed id provider group found grouped batch job mixed reference member
    · rintro ⟨reference, copy, place, bad⟩
      obtain ⟨group, grouped, present⟩ := mem_grouped.mp copy
      exact ⟨group, reference, grouped, place, mem_verifyProvider.mpr ⟨present, .inl bad⟩⟩

end Verification

/-! ## A copy that cannot be read -/

namespace Sample

/-- The digest of a chunk of one byte. -/
def digestOf (byte : UInt8) : String :=
  String.ofList (replicate 64 (if byte = 1 then '1' else '2'))

/-- Records of one byte, which are checked against their locators and digests. -/
scoped instance records : Records where
  decodeProviderRecord reference record :=
    if record.map digestOf = [reference.opaqueLocator] then .ok ⟨1, 17, record⟩
    else .error (.corruptChunk reference.opaqueLocator)
  decryptChunk digest encrypted :=
    if encrypted.body.map digestOf = [digest] then .ok encrypted.body
    else .error .authenticationFailed

def device : DeviceId := ⟨⟨1⟩⟩

/-- One provider, which has lost some of its copies. -/
def scheduler (lost : String → Bool) : ReplicationScheduler where
  providers := (∅ : BTreeMap DeviceId ReplicaProvider).insert device
    (.ofGet fun locator => if lost locator then .error (.missingChunk locator)
      else .ok [if locator = digestOf 1 then 1 else 2])
  maximumParallelism := 1
  positive := by decide

def chunk (byte : UInt8) : ChunkReference := ⟨digestOf byte, digestOf byte, 1, 17⟩

/-- A file of two chunks, both of them acknowledged. -/
def manifest : Manifest :=
  { Backup.Sample.sparseManifest [] with
    replicaIntent := ⟨(∅ : DeviceSet).insert device ()⟩
    entries := [⟨⟨"f", rfl⟩, .file, 2, [chunk 1, chunk 2], false, []⟩]
    providerAcknowledgements := (∅ : BTreeMap DeviceId (List String)).insert device
      [digestOf 1, digestOf 2] }

theorem providerCopies_manifest : providerCopies manifest (fun _ => true) =
    .ok [(device, chunk 1), (device, chunk 2)] := by
  decide +kernel

theorem intact_chunk {lost : String → Bool} (kept : lost (digestOf 1) = false) :
    Intact (scheduler lost) device (chunk 1) := by
  refine ⟨_, get?_insert_self .., [1], ?_, by decide +kernel⟩
  show (if lost (digestOf 1) then _ else _) = _
  rw [kept]
  rfl

/-- With all copies intact nobody is blamed. -/
theorem intact_copies_are_not_blamed : ∃ copies, providerCopies manifest (fun _ => true) =
    .ok copies ∧ ∀ id locator,
      Blamed (verifyProviderCopiesParallel (scheduler fun _ => false) copies) id locator ↔
        ∃ reference, (id, reference) ∈ copies ∧ reference.opaqueLocator = locator ∧
          ¬ Intact (scheduler fun _ => false) id reference := by
  refine ⟨_, providerCopies_manifest, (failures_are_exact_iff providerCopies_manifest).mpr ?_⟩
  rintro id provider group found - batch - ⟨other, -, unread⟩
  rw [scheduler, get?_insert] at found
  by_cases here : id = device
  · rw [if_pos here] at found
    cases found
    exact absurd ⟨_, rfl⟩ unread
  · rw [if_neg here] at found
    cases found

/-- The first copy is intact.  It is blamed because the second is missing. -/
theorem intact_copy_is_blamed : ∃ copies, providerCopies manifest (fun _ => true) = .ok copies ∧
    ¬ ∀ id locator,
      Blamed (verifyProviderCopiesParallel (scheduler (· == digestOf 2)) copies) id locator ↔
        ∃ reference, (id, reference) ∈ copies ∧ reference.opaqueLocator = locator ∧
          ¬ Intact (scheduler (· == digestOf 2)) id reference := by
  refine ⟨_, providerCopies_manifest, fun exactly => ?_⟩
  have missing : ¬ Readable (.ofGet fun locator => if locator == digestOf 2 then
      .error (.missingChunk locator) else .ok [if locator = digestOf 1 then 1 else 2])
      (chunk 2) := by
    rintro ⟨record, read⟩
    cases read
  obtain ⟨reference, copy, place, bad⟩ := (exactly device (digestOf 1)).mp
    (blamed_iff.mpr ⟨[chunk 1, chunk 2], chunk 1, rfl, rfl, mem_verifyProvider.mpr
      ⟨mem_cons_self, .inr ⟨_, get?_insert_self .., [chunk 1, chunk 2],
        mem_cons_self, mem_cons_self, chunk 2, mem_cons_of_mem _ mem_cons_self, missing⟩⟩⟩)
  obtain rfl : reference = chunk 1 := by
    rcases mem_cons.mp copy with here | later
    · exact (Prod.mk.inj here).2
    · obtain rfl := (Prod.mk.inj (mem_singleton.mp later)).2
      exact absurd place (by decide)
  exact bad (intact_chunk (by decide))

end Sample

end Covalent.Replication
