import Covalent.Base.Overflow
import Covalent.Sharing.Records

/-!
# The check of a decoded manifest

A manifest lists the entries of a backup with the chunks of each file.  It comes
from a peer, so all its numbers are arbitrary; the check adds lengths before it
has looked at any of them.

## Design notes

**Decoded manifests.**  The number of chunk references is bounded by the size of
the text they were decoded from, so the lengths of the chunks of one entry, which
are 32-bit numbers, never add up to `2 ^ 64`.  Extents are pairs of 64-bit numbers
and two of them suffice.
-/

namespace Covalent.Backup

open List

open Sharing (isLowerHexDigest)

/-! ## Paths -/

/-- Refusals of a decoded record. -/
inductive ContractError where
  | unsupportedProtocol (version : Nat)
  | invalidRelativePath (reason : String)
  | manifestTooLarge
  | invalidManifestEntry
  | manifestEntriesNotSorted
  | invalidChunkReference
  | unselectedProviderAcknowledgement
  | invalidProviderAcknowledgement
deriving DecidableEq

/-- A component that is not a name of its own is refused. -/
def validateComponent (component : List Char) : Except ContractError Unit := do
  refuse (component.isEmpty || component == ['.'] || component == ['.', '.'])
    (.invalidRelativePath "empty, dot, and parent components are forbidden")
  refuse (decide (255 < (String.ofList component).utf8ByteSize))
    (.invalidRelativePath "a component exceeds 255 bytes")

def validateRelativePath (value : String) : Except ContractError Unit := do
  refuse value.isEmpty (.invalidRelativePath "path is empty")
  refuse (decide (4096 < value.utf8ByteSize)) (.invalidRelativePath "path exceeds 4096 bytes")
  refuse (value.toList.head? == some '/') (.invalidRelativePath "absolute paths are forbidden")
  refuse (value.toList.any fun character => character == '\\' || character == '\x00')
    (.invalidRelativePath "backslash and NUL are forbidden")
  checkEach validateComponent (value.toList.splitOn '/')

/-- A path below the selected root.  Decoding checks it. -/
structure RelativePath where
  value : String
  valid : validateRelativePath value = .ok ()

instance : LinearOrder RelativePath :=
  LinearOrder.lift' RelativePath.value fun one two same => by
    cases one
    cases two
    cases same
    rfl

/-! ## Manifests -/

structure ChunkReference where
  plaintextDigest : String
  opaqueLocator : String
  plaintextLength : UInt32
  ciphertextLength : UInt32
deriving DecidableEq

inductive EntryKind where
  | file
  | directory
deriving DecidableEq

/-- A range of a sparse file that holds data. -/
structure SparseExtent where
  offset : UInt64
  length : UInt64
deriving DecidableEq

structure ManifestEntry where
  path : RelativePath
  kind : EntryKind
  length : UInt64
  chunks : List ChunkReference
  sparse : Bool
  sparseExtents : List SparseExtent
deriving DecidableEq

structure Manifest where
  protocolVersion : UInt16
  backupId : BackupId
  snapshotId : String
  createdAtUnixMs : Nat
  replicaIntent : ReplicaIntent
  entries : List ManifestEntry
  providerAcknowledgements : BTreeMap DeviceId (List String)
deriving DecidableEq

namespace ManifestEntry

def chunkLengths (entry : ManifestEntry) : List Nat :=
  entry.chunks.map fun chunk => chunk.plaintextLength.toNat

def extentLengths (entry : ManifestEntry) : List Nat :=
  entry.sparseExtents.map fun extent => extent.length.toNat

end ManifestEntry

def protocolVersion : UInt16 := 1
def maxManifestEntries : Nat := 1000000
def maxChunkPlaintextBytes : UInt32 := 8 * 1024 * 1024
def maxEncryptedManifestBytes : Nat := 256 * 1024 * 1024

/-! ## The check -/

/-- How the check ends when it does not accept. -/
inductive Stop where
  | panicked
  | refused (error : ContractError)

def refuseWith (condition : Bool) (error : ContractError) : Except Stop Unit :=
  refuse condition (.refused error)

/-- Whether each extent is not empty, starts after the one before it and ends inside
the file. -/
def checkExtents (length : Nat) : Nat → List SparseExtent → Bool
  | _, [] => true
  | previousEnd, extent :: rest =>
    !(extent.length.toNat == 0 || decide (extent.offset.toNat < previousEnd) ||
      (checkedAdd extent.offset.toNat extent.length.toNat).isNone ||
      decide (length < saturatingAdd extent.offset.toNat extent.length.toNat)) &&
    checkExtents length (saturatingAdd extent.offset.toNat extent.length.toNat) rest

/-- A chunk reference with canonical digests and possible lengths. -/
def ChunkReference.isValid (chunk : ChunkReference) : Bool :=
  isLowerHexDigest chunk.plaintextDigest && isLowerHexDigest chunk.opaqueLocator &&
    chunk.plaintextLength != 0 && decide (chunk.plaintextLength ≤ maxChunkPlaintextBytes) &&
    chunk.ciphertextLength.toNat == min (chunk.plaintextLength.toNat + 16) (2 ^ 32 - 1)

section

variable (arithmetic : Arithmetic) (manifest : Manifest)

/-- Check the extents of a sparse entry.  They are added up first. -/
def checkSparse (entry : ManifestEntry) (chunkLength : Nat) : Except Stop Unit :=
  if entry.sparse then do
    let extentLength ← okOr (sumU64 arithmetic 0 entry.extentLengths) .panicked
    refuseWith (extentLength != chunkLength ||
      !checkExtents entry.length.toNat 0 entry.sparseExtents) .invalidManifestEntry
  else pure ()

def checkEntry (entry : ManifestEntry) : Except Stop Unit := do
  refuseWith (entry.kind == .directory && (entry.length != 0 || !entry.chunks.isEmpty))
    .invalidManifestEntry
  refuseWith (entry.kind == .directory && (entry.sparse || !entry.sparseExtents.isEmpty))
    .invalidManifestEntry
  let chunkLength ← okOr (sumU64 arithmetic 0 entry.chunkLengths) .panicked
  refuseWith (entry.kind == .file && !entry.sparse && entry.sparseExtents.isEmpty &&
    chunkLength != entry.length.toNat) .invalidManifestEntry
  refuseWith (!entry.sparse && !entry.sparseExtents.isEmpty) .invalidManifestEntry
  checkSparse arithmetic entry chunkLength
  refuseWith (entry.chunks.any fun chunk => !chunk.isValid) .invalidChunkReference

def checkEntries (arithmetic : Arithmetic) :
    Option RelativePath → List ManifestEntry → Except Stop Unit
  | _, [] => pure ()
  | previous, entry :: rest => do
    refuseWith (previous.any fun path => decide (entry.path.value ≤ path.value))
      .manifestEntriesNotSorted
    checkEntry arithmetic entry
    checkEntries arithmetic (some entry.path) rest

/-- The chunks of all entries. -/
def Manifest.references : List ChunkReference :=
  manifest.entries.flatMap ManifestEntry.chunks

/-- Every locator that a chunk of the manifest names. -/
def Manifest.locators : List String :=
  manifest.references.map ChunkReference.opaqueLocator

def checkHeader : Except Stop Unit := do
  refuseWith (manifest.protocolVersion != protocolVersion)
    (.unsupportedProtocol manifest.protocolVersion.toNat)
  refuseWith (decide (maxManifestEntries < manifest.entries.length)) .manifestTooLarge
  refuseWith (!validIdentifier manifest.snapshotId ||
    decide (128 < manifest.replicaIntent.selectedProviders.len)) .invalidManifestEntry

/-- Acknowledgements name selected providers and locators of the manifest. -/
def checkAcknowledgements : Except Stop Unit := do
  refuseWith (manifest.providerAcknowledgements.keys.any fun provider =>
    !manifest.replicaIntent.selectedProviders.containsKey provider)
    .unselectedProviderAcknowledgement
  refuseWith (manifest.providerAcknowledgements.values.flatten.any fun locator =>
    !isLowerHexDigest locator || !manifest.locators.contains locator)
    .invalidProviderAcknowledgement

def Manifest.validate : Except Stop Unit := do
  checkHeader manifest
  checkEntries arithmetic none manifest.entries
  checkAcknowledgements manifest

/-! ## What the check is for -/

/-- Extents that are not empty, follow one another and lie inside the file. -/
structure ExtentsValid (length : Nat) (extents : List SparseExtent) : Prop where
  nonempty : ∀ extent ∈ extents, 0 < extent.length.toNat
  ascending : extents.Pairwise fun first second =>
    first.offset.toNat + first.length.toNat ≤ second.offset.toNat
  inside : ∀ extent ∈ extents, extent.offset.toNat + extent.length.toNat ≤ length

/-- What an accepted entry satisfies.  All sums are sums of natural numbers. -/
structure EntryValid (entry : ManifestEntry) : Prop where
  directory : entry.kind = .directory →
    entry.length = 0 ∧ entry.chunks = [] ∧ entry.sparse = false ∧ entry.sparseExtents = []
  dense : entry.kind = .file → entry.sparse = false →
    entry.sparseExtents = [] ∧ entry.chunkLengths.sum = entry.length.toNat
  sparse : entry.sparse = true → ExtentsValid entry.length.toNat entry.sparseExtents ∧
      entry.extentLengths.sum = entry.chunkLengths.sum
  references : ∀ chunk ∈ entry.chunks, chunk.isValid = true

/-- What an accepted manifest satisfies. -/
structure ManifestValid (manifest : Manifest) : Prop where
  ordered : manifest.entries.Pairwise fun first second => first.path.value < second.path.value
  entries : ∀ entry ∈ manifest.entries, EntryValid entry
  selected : ∀ provider locators, manifest.providerAcknowledgements.get? provider = some locators →
    manifest.replicaIntent.selectedProviders.containsKey provider = true
  located : ∀ provider locators, manifest.providerAcknowledgements.get? provider = some locators →
    ∀ locator ∈ locators, ∃ entry ∈ manifest.entries, ∃ chunk ∈ entry.chunks,
      chunk.opaqueLocator = locator

/-- The number of chunk references is at most the size of the text that was decoded. -/
def Manifest.Decodable : Prop :=
  (manifest.entries.map fun entry => entry.chunks.length).sum ≤ maxEncryptedManifestBytes

end

/-! ## Lengths of one entry -/

variable {condition : Bool} {error : ContractError} {chunkLength : Nat} {rest : List ManifestEntry}

theorem refuseWith_eq_ok {done : Unit} :
    refuseWith condition error = .ok done ↔ condition = false :=
  refuse_eq_ok

theorem refuseWith_ne_panicked (condition : Bool) (error : ContractError) :
    refuseWith condition error ≠ .error .panicked := by
  cases condition <;> simp [refuseWith, refuse]

theorem refuseWith_bind_eq_panicked {next : Unit → Except Stop Unit} :
    (refuseWith condition error >>= next) = .error .panicked ↔
      condition = false ∧ next () = .error .panicked := by
  cases condition <;> simp [refuseWith, refuse, bind, Except.bind]

variable {length : Nat} {manifest : Manifest} {entry : ManifestEntry} {arithmetic : Arithmetic}
  {previous : Option RelativePath}

theorem checkExtents_cons {previousEnd : Nat} (small : length < 2 ^ 64)
    (extent : SparseExtent) (rest : List SparseExtent) :
    checkExtents length previousEnd (extent :: rest) = true ↔
      0 < extent.length.toNat ∧ previousEnd ≤ extent.offset.toNat ∧
      extent.offset.toNat + extent.length.toNat ≤ length ∧
      checkExtents length (extent.offset.toNat + extent.length.toNat) rest = true := by
  by_cases fits : extent.offset.toNat + extent.length.toNat < 2 ^ 64
  · have exact : saturatingAdd extent.offset.toNat extent.length.toNat =
        extent.offset.toNat + extent.length.toNat := by
      rw [saturatingAdd]
      omega
    have known : checkedAdd extent.offset.toNat extent.length.toNat =
        some (extent.offset.toNat + extent.length.toNat) := if_pos fits
    rw [checkExtents, exact, known]
    simp only [Option.isNone_some, Bool.or_false, Bool.and_eq_true, Bool.not_eq_true',
      Bool.or_eq_false_iff, beq_eq_false_iff_ne, decide_eq_false_iff_not, not_lt,
      Nat.pos_iff_ne_zero, and_assoc]
  · have unknown : checkedAdd extent.offset.toNat extent.length.toNat = none := if_neg fits
    rw [checkExtents, unknown]
    constructor
    · intro passes
      simp at passes
    · intro ⟨_, _, inside, _⟩
      omega

/-- The extents that pass follow the end of the one before them. -/
theorem checkExtents_eq_true (small : length < 2 ^ 64)
    (extents : List SparseExtent) (previousEnd : Nat) :
    checkExtents length previousEnd extents = true ↔
      ExtentsValid length extents ∧ ∀ extent ∈ extents, previousEnd ≤ extent.offset.toNat := by
  induction extents generalizing previousEnd with
  | nil =>
    refine ⟨fun _ => ⟨⟨?_, .nil, ?_⟩, ?_⟩, fun _ => rfl⟩ <;> simp
  | cons extent rest ih =>
    rw [checkExtents_cons small, ih]
    constructor
    · intro ⟨nonempty, follows, inside, valid, after⟩
      refine ⟨⟨?_, pairwise_cons.mpr ⟨after, valid.ascending⟩, ?_⟩, ?_⟩
      · exact forall_mem_cons.mpr ⟨nonempty, valid.nonempty⟩
      · exact forall_mem_cons.mpr ⟨inside, valid.inside⟩
      · refine forall_mem_cons.mpr ⟨follows, fun later mem => ?_⟩
        have := after later mem
        omega
    · intro ⟨valid, after⟩
      have ascending := pairwise_cons.mp valid.ascending
      refine ⟨valid.nonempty extent mem_cons_self, after extent mem_cons_self,
        valid.inside extent mem_cons_self, ⟨?_, ascending.2, ?_⟩, ascending.1⟩
      · exact fun later mem => valid.nonempty later (mem_cons_of_mem _ mem)
      · exact fun later mem => valid.inside later (mem_cons_of_mem _ mem)

theorem ExtentsValid.sum_le {extents : List SparseExtent} (valid : ExtentsValid length extents) :
    (extents.map fun extent => extent.length.toNat).sum ≤ length := by
  -- Stated from any point that all extents start after.
  have general : ∀ start ≤ length, (∀ extent ∈ extents, start ≤ extent.offset.toNat) →
      start + (extents.map fun extent => extent.length.toNat).sum ≤ length := by
    induction extents with
    | nil =>
      intro start bounded _
      simpa using bounded
    | cons extent rest ih =>
      intro start _ after
      have ascending := pairwise_cons.mp valid.ascending
      have follows := after extent mem_cons_self
      have inside := valid.inside extent mem_cons_self
      have tail := ih ⟨fun later mem => valid.nonempty later (mem_cons_of_mem _ mem), ascending.2,
          fun later mem => valid.inside later (mem_cons_of_mem _ mem)⟩
        (extent.offset.toNat + extent.length.toNat) inside ascending.1
      rw [map_cons, sum_cons]
      omega
  have fromZero := general 0 (Nat.zero_le _) fun _ _ => Nat.zero_le _
  omega

theorem Manifest.Decodable.chunkLengths_lt (decodable : manifest.Decodable)
    (mem : entry ∈ manifest.entries) :
    entry.chunkLengths.sum < 2 ^ 64 := by
  have counted : entry.chunks.length ≤ maxEncryptedManifestBytes :=
    le_trans (single_le_sum (fun _ _ => Nat.zero_le _) _ (mem_map.mpr ⟨entry, mem, rfl⟩)) decodable
  have bounded : entry.chunkLengths.sum ≤ entry.chunkLengths.length • (2 ^ 32) := by
    refine sum_le_card_nsmul _ _ fun length mem => ?_
    obtain ⟨chunk, _, rfl⟩ := mem_map.mp mem
    exact Nat.le_of_lt chunk.plaintextLength.toNat_lt
  have lengths : entry.chunkLengths.length = entry.chunks.length := length_map _
  rw [lengths, smul_eq_mul] at bounded
  rw [maxEncryptedManifestBytes] at counted
  omega

/-! ## One entry -/

/-- The extents whose sum the check takes do not fit in 64 bits. -/
def ManifestEntry.ExtentsOverflow (entry : ManifestEntry) : Prop :=
  entry.kind = .file ∧ entry.sparse = true ∧ 2 ^ 64 ≤ entry.extentLengths.sum

theorem EntryValid.not_overflow (valid : EntryValid entry) : ¬ entry.ExtentsOverflow := by
  intro ⟨_, sparse, beyond⟩
  have bounded : entry.extentLengths.sum ≤ entry.length.toNat := (valid.sparse sparse).1.sum_le
  have small := entry.length.toNat_lt
  omega

/-- Extents pass exactly when they are valid: the sum is taken before they are looked at,
but a sum that wrapped around belongs to extents that do not fit in the file. -/
theorem checkSparse_eq_ok : checkSparse arithmetic entry chunkLength = .ok () ↔
      (entry.sparse = true → ExtentsValid entry.length.toNat entry.sparseExtents ∧
        entry.extentLengths.sum = chunkLength) := by
  have small := entry.length.toNat_lt
  cases sparse : entry.sparse with
  | false => simp [checkSparse, sparse]
  | true =>
    simp only [checkSparse, sparse, if_true, bind_eq_ok, okOr_eq_ok, refuseWith_eq_ok,
      Bool.or_eq_false_iff, bne_eq_false_iff_eq, Bool.not_eq_false',
      checkExtents_eq_true small, forall_const]
    constructor
    · rintro ⟨total, summed, rfl, valid, _⟩
      have fits : 0 + entry.extentLengths.sum < 2 ^ 64 := by
        have bounded : entry.extentLengths.sum ≤ entry.length.toNat := valid.sum_le
        omega
      rw [sumU64_of_lt fits, Option.some.injEq] at summed
      exact ⟨valid, by omega⟩
    · rintro ⟨valid, summed⟩
      have fits : 0 + entry.extentLengths.sum < 2 ^ 64 := by
        have bounded : entry.extentLengths.sum ≤ entry.length.toNat := valid.sum_le
        omega
      refine ⟨chunkLength, ?_, rfl, valid, fun _ _ => Nat.zero_le _⟩
      rw [sumU64_of_lt fits, summed, Nat.zero_add]

theorem checkSparse_eq_panicked : checkSparse arithmetic entry chunkLength = .error .panicked ↔
      arithmetic = .trapping ∧ entry.sparse = true ∧ 2 ^ 64 ≤ entry.extentLengths.sum := by
  cases sparse : entry.sparse with
  | false => simp [checkSparse, sparse, pure, Except.pure]
  | true =>
    cases summed : sumU64 arithmetic 0 entry.extentLengths with
    | some total =>
      have returns : checkSparse arithmetic entry chunkLength ≠ .error .panicked := by
        rw [checkSparse, sparse, if_pos rfl, summed]
        exact refuseWith_ne_panicked _ _
      refine ⟨fun panics => absurd panics returns, ?_⟩
      rintro ⟨rfl, _, beyond⟩
      rw [sumU64_trapping_eq_none (by omega) (by omega)] at summed
      exact absurd summed (Option.some_ne_none total).symm
    | none =>
      refine ⟨fun _ => ⟨?_, rfl, ?_⟩, fun _ => ?_⟩
      · cases arithmetic with
        | wrapping => exact absurd summed (sumU64_wrapping_ne_none _ _)
        | trapping => rfl
      · by_contra within
        rw [sumU64_of_lt (by omega)] at summed
        exact Option.some_ne_none _ summed
      · rw [checkSparse, sparse, if_pos rfl, summed]
        rfl

theorem checkEntry_eq (chunksFit : entry.chunkLengths.sum < 2 ^ 64) :
    checkEntry arithmetic entry = (do
      refuseWith (entry.kind == .directory && (entry.length != 0 || !entry.chunks.isEmpty))
        .invalidManifestEntry
      refuseWith (entry.kind == .directory && (entry.sparse || !entry.sparseExtents.isEmpty))
        .invalidManifestEntry
      refuseWith (entry.kind == .file && !entry.sparse && entry.sparseExtents.isEmpty &&
        entry.chunkLengths.sum != entry.length.toNat) .invalidManifestEntry
      refuseWith (!entry.sparse && !entry.sparseExtents.isEmpty) .invalidManifestEntry
      checkSparse arithmetic entry entry.chunkLengths.sum
      refuseWith (entry.chunks.any fun chunk => !chunk.isValid) .invalidChunkReference) := by
  rw [checkEntry, sumU64_of_lt (by omega), Nat.zero_add]
  rfl

/-- An entry passes exactly when it is valid. -/
theorem checkEntry_eq_ok {arithmetic : Arithmetic} {entry : ManifestEntry}
    (chunksFit : entry.chunkLengths.sum < 2 ^ 64) :
    checkEntry arithmetic entry = .ok () ↔ EntryValid entry := by
  rw [checkEntry_eq chunksFit]
  simp only [bind_eq_ok, exists_unit, refuseWith_eq_ok, checkSparse_eq_ok]
  constructor
  · rintro ⟨plain, solid, dense, flagged, sparse, references⟩
    refine ⟨?_, ?_, sparse, ?_⟩
    · intro directory
      simpa [directory, and_assoc] using And.intro plain solid
    · intro file notSparse
      have bare : entry.sparseExtents = [] := by simpa [notSparse] using flagged
      exact ⟨bare, by simpa [file, notSparse, bare] using dense⟩
    · simpa using references
  · intro valid
    cases kind : entry.kind with
    | directory =>
      obtain ⟨length, chunks, notSparse, bare⟩ := valid.directory kind
      simp [length, chunks, notSparse, bare]
    | file =>
      have references := valid.references
      cases sparse : entry.sparse with
      | false =>
        obtain ⟨bare, summed⟩ := valid.dense kind sparse
        simpa [bare, summed] using references
      | true => simpa using ⟨valid.sparse sparse, references⟩

theorem checkEntry_eq_panicked {arithmetic : Arithmetic} {entry : ManifestEntry}
    (chunksFit : entry.chunkLengths.sum < 2 ^ 64) :
    checkEntry arithmetic entry = .error .panicked ↔
      arithmetic = .trapping ∧ entry.ExtentsOverflow := by
  rw [checkEntry_eq chunksFit]
  have last : ∀ error, (checkSparse arithmetic entry entry.chunkLengths.sum >>= fun _ =>
      refuseWith (entry.chunks.any fun chunk => !chunk.isValid) error) = .error .panicked ↔
      checkSparse arithmetic entry entry.chunkLengths.sum = .error .panicked := by
    intro error
    cases checkSparse arithmetic entry entry.chunkLengths.sum with
    | error stop => rfl
    | ok done => exact ⟨fun panics => absurd panics (refuseWith_ne_panicked _ _), nofun⟩
  simp only [refuseWith_bind_eq_panicked, last, checkSparse_eq_panicked]
  constructor
  · rintro ⟨_, solid, _, _, trapping, sparse, beyond⟩
    refine ⟨trapping, ?_, sparse, beyond⟩
    cases kind : entry.kind with
    | directory => simp [kind, sparse] at solid
    | file => rfl
  · rintro ⟨trapping, file, sparse, beyond⟩
    exact ⟨by simp [file], by simp [file], by simp [sparse], by simp [sparse],
      trapping, sparse, beyond⟩

/-! ## All entries -/

/-- The paths of a list of entries are strictly increasing. -/
def Ordered (entries : List ManifestEntry) : Prop :=
  entries.Pairwise fun first second => first.path.value < second.path.value

/-- One test against the path before suffices, because the order is transitive. -/
theorem ordered_cons_iff :
    ((∀ path ∈ previous, ∀ later ∈ entry :: rest, path.value < later.path.value) ∧
        Ordered (entry :: rest)) ↔
      (∀ path ∈ previous, path.value < entry.path.value) ∧
        (∀ path ∈ some entry.path, ∀ later ∈ rest, path.value < later.path.value) ∧
        Ordered rest := by
  simp only [Ordered, pairwise_cons, forall_mem_cons, Option.mem_some_iff, forall_eq']
  constructor
  · rintro ⟨before, after, ordered⟩
    exact ⟨fun path mem => (before path mem).1, after, ordered⟩
  · rintro ⟨first, after, ordered⟩
    exact ⟨fun path mem => ⟨first path mem, fun later found =>
      lt_trans (first path mem) (after later found)⟩, after, ordered⟩

theorem sortedTest_eq_false :
    (previous.any fun path => decide (entry.path.value ≤ path.value)) = false ↔
      ∀ path ∈ previous, path.value < entry.path.value := by
  cases previous <;> simp

theorem checkEntries_eq_ok {entries : List ManifestEntry}
    (chunksFit : ∀ entry ∈ entries, entry.chunkLengths.sum < 2 ^ 64)
    (previous : Option RelativePath) :
    checkEntries arithmetic previous entries = .ok () ↔
      ((∀ path ∈ previous, ∀ entry ∈ entries, path.value < entry.path.value) ∧
        Ordered entries) ∧ ∀ entry ∈ entries, EntryValid entry := by
  induction entries generalizing previous with
  | nil => simp [checkEntries, Ordered, pure, Except.pure]
  | cons entry rest ih =>
    obtain ⟨fits, restFit⟩ := forall_mem_cons.mp chunksFit
    rw [ordered_cons_iff, forall_mem_cons, checkEntries]
    simp only [bind_eq_ok, exists_unit, refuseWith_eq_ok, sortedTest_eq_false,
      checkEntry_eq_ok fits, ih restFit]
    tauto

/-- An entry that the check comes to, and whose extents do not fit in 64 bits. -/
def OverflowReached (previous : Option RelativePath) (entries : List ManifestEntry) : Prop :=
  ∃ before entry after, entries = before ++ entry :: after ∧
    ((∀ path ∈ previous, ∀ item ∈ before ++ [entry], path.value < item.path.value) ∧
      Ordered (before ++ [entry])) ∧
    (∀ earlier ∈ before, EntryValid earlier) ∧ entry.ExtentsOverflow

theorem overflowReached_cons : OverflowReached previous (entry :: rest) ↔
      (∀ path ∈ previous, path.value < entry.path.value) ∧
        (entry.ExtentsOverflow ∨ EntryValid entry ∧ OverflowReached (some entry.path) rest) := by
  constructor
  · rintro ⟨before, found, after, split, ordered, valid, overflow⟩
    cases before with
    | nil =>
      cases split
      exact ⟨(ordered_cons_iff.mp ordered).1, .inl overflow⟩
    | cons first middle =>
      cases split
      obtain ⟨start, after', ordered'⟩ := ordered_cons_iff.mp ordered
      obtain ⟨firstValid, middleValid⟩ := forall_mem_cons.mp valid
      exact ⟨start, .inr ⟨firstValid, middle, found, after, rfl, ⟨after', ordered'⟩,
        middleValid, overflow⟩⟩
  · rintro ⟨start, overflow | ⟨valid, before, found, after, rfl, ordered, earlier, overflow⟩⟩
    · refine ⟨[], entry, rest, rfl, ordered_cons_iff.mpr ⟨start, ?_, .nil⟩, ?_,
        overflow⟩ <;> simp
    · exact ⟨entry :: before, found, after, rfl, ordered_cons_iff.mpr ⟨start, ordered⟩,
        forall_mem_cons.mpr ⟨valid, earlier⟩, overflow⟩

theorem checkEntries_eq_panicked {arithmetic : Arithmetic} {entries : List ManifestEntry}
    (chunksFit : ∀ entry ∈ entries, entry.chunkLengths.sum < 2 ^ 64)
    (previous : Option RelativePath) :
    checkEntries arithmetic previous entries = .error .panicked ↔
      arithmetic = .trapping ∧ OverflowReached previous entries := by
  induction entries generalizing previous with
  | nil => simp [checkEntries, OverflowReached, pure, Except.pure]
  | cons entry rest ih =>
    obtain ⟨fits, restFit⟩ := forall_mem_cons.mp chunksFit
    rw [checkEntries, refuseWith_bind_eq_panicked, sortedTest_eq_false, overflowReached_cons]
    have entryStop := @checkEntry_eq_panicked arithmetic entry fits
    have entryPass := @checkEntry_eq_ok arithmetic entry fits
    cases checked : checkEntry arithmetic entry with
    | ok done =>
      have valid : EntryValid entry := entryPass.mp checked
      have continued : ((Except.ok done : Except Stop Unit) >>= fun _ =>
          checkEntries arithmetic (some entry.path) rest) =
            checkEntries arithmetic (some entry.path) rest := rfl
      rw [continued, ih restFit]
      have absent := valid.not_overflow
      tauto
    | error stop =>
      have invalid : ¬ EntryValid entry := fun valid =>
        absurd (checked.symm.trans (entryPass.mpr valid)) nofun
      rw [checked] at entryStop
      have stopped : ((Except.error stop : Except Stop Unit) >>= fun _ =>
          checkEntries arithmetic (some entry.path) rest) = .error stop := rfl
      tauto

/-! ## Whole manifests -/

/-- A header that passes. -/
structure HeaderValid (manifest : Manifest) : Prop where
  version : manifest.protocolVersion = protocolVersion
  bounded : manifest.entries.length ≤ maxManifestEntries
  snapshot : validIdentifier manifest.snapshotId = true
  providers : manifest.replicaIntent.selectedProviders.len ≤ 128

theorem checkHeader_eq_ok : checkHeader manifest = .ok () ↔ HeaderValid manifest := by
  simp only [checkHeader, bind_eq_ok, exists_unit, refuseWith_eq_ok, bne_eq_false_iff_eq,
    decide_eq_false_iff_not, not_lt, Bool.or_eq_false_iff, Bool.not_eq_false']
  constructor
  · rintro ⟨version, bounded, snapshot, providers⟩
    exact ⟨version, bounded, snapshot, providers⟩
  · intro valid
    exact ⟨valid.version, valid.bounded, valid.snapshot, valid.providers⟩

theorem checkHeader_ne_panicked (manifest : Manifest) :
    checkHeader manifest ≠ .error .panicked := by
  rw [checkHeader]
  simp only [ne_eq, refuseWith_bind_eq_panicked, refuseWith_ne_panicked, and_false,
    not_false_eq_true]

theorem checkAcknowledgements_ne_panicked (manifest : Manifest) :
    checkAcknowledgements manifest ≠ .error .panicked := by
  rw [checkAcknowledgements]
  simp only [ne_eq, refuseWith_bind_eq_panicked, refuseWith_ne_panicked, and_false,
    not_false_eq_true]

theorem mem_locators {locator : String} : locator ∈ manifest.locators ↔
      ∃ entry ∈ manifest.entries, ∃ chunk ∈ entry.chunks, chunk.opaqueLocator = locator := by
  simp only [Manifest.locators, Manifest.references, mem_flatMap, mem_map]
  tauto

/-- Acknowledgements that pass name selected providers and locators of the manifest. -/
theorem acknowledged_of_checkAcknowledgements (passes : checkAcknowledgements manifest = .ok ())
    {provider : DeviceId} {locators : List String}
    (found : manifest.providerAcknowledgements.get? provider = some locators) :
    manifest.replicaIntent.selectedProviders.containsKey provider = true ∧
      ∀ locator ∈ locators, locator ∈ manifest.locators := by
  simp only [checkAcknowledgements, bind_eq_ok, exists_unit, refuseWith_eq_ok,
    any_eq_false, Bool.or_eq_true, Bool.not_eq_true',
    mem_flatten, not_or, Bool.not_eq_false] at passes
  obtain ⟨selected, located⟩ := passes
  refine ⟨selected provider (BTreeMap.mem_keys.mpr ⟨locators, found⟩), fun locator mem => ?_⟩
  have held := (located locator ⟨locators, BTreeMap.mem_values.mpr ⟨provider, found⟩, mem⟩).2
  simpa using held

theorem validate_sound
    (decodable : manifest.Decodable) (accepted : manifest.validate arithmetic = .ok ()) :
    ManifestValid manifest := by
  simp only [Manifest.validate, bind_eq_ok, exists_unit] at accepted
  obtain ⟨_, entriesPass, acknowledgementsPass⟩ := accepted
  obtain ⟨⟨_, ordered⟩, valid⟩ :=
    (checkEntries_eq_ok (fun _ mem => decodable.chunkLengths_lt mem) none).mp entriesPass
  refine ⟨ordered, valid, fun provider locators found => ?_,
    fun provider locators found locator mem => ?_⟩
  · exact (acknowledged_of_checkAcknowledgements acknowledgementsPass found).1
  · exact mem_locators.mp
      ((acknowledged_of_checkAcknowledgements acknowledgementsPass found).2 locator mem)

/-- The check panics exactly when it comes to an entry whose extents it cannot add up. -/
theorem validate_eq_panicked (decodable : manifest.Decodable) :
    manifest.validate arithmetic = .error .panicked ↔
      arithmetic = .trapping ∧ HeaderValid manifest ∧ OverflowReached none manifest.entries := by
  have entriesStop := @checkEntries_eq_panicked arithmetic manifest.entries
    (fun _ mem => decodable.chunkLengths_lt mem) none
  rw [Manifest.validate]
  cases header : checkHeader manifest with
  | error stop =>
    have invalid : ¬ HeaderValid manifest := fun valid =>
      absurd (header.symm.trans (checkHeader_eq_ok.mpr valid)) nofun
    have refused : stop ≠ .panicked := fun equal =>
      checkHeader_ne_panicked manifest (equal ▸ header)
    refine ⟨fun panics => absurd (Except.error.inj panics) refused, ?_⟩
    exact fun reached => absurd reached.2.1 invalid
  | ok done =>
    have valid : HeaderValid manifest := checkHeader_eq_ok.mp header
    -- The acknowledgements do not panic, so the entries decide.
    have decided : (checkEntries arithmetic none manifest.entries >>= fun _ =>
        checkAcknowledgements manifest) = .error .panicked ↔
        checkEntries arithmetic none manifest.entries = .error .panicked := by
      cases checkEntries arithmetic none manifest.entries with
      | error stop => rfl
      | ok done =>
        exact ⟨fun panics => absurd panics (checkAcknowledgements_ne_panicked manifest), nofun⟩
    refine decided.trans (entriesStop.trans ?_)
    exact ⟨fun ⟨trapping, reached⟩ => ⟨trapping, valid, reached⟩,
      fun ⟨trapping, _, reached⟩ => ⟨trapping, reached⟩⟩

/-- The check of a decoded manifest returns and accepts only valid manifests, unless
additions trap and it comes to a sparse file whose extents add up to `2 ^ 64` or more. -/
theorem validate_total_and_sound_iff (arithmetic : Arithmetic) (manifest : Manifest)
    (decodable : manifest.Decodable) :
    (manifest.validate arithmetic ≠ .error .panicked ∧
        (manifest.validate arithmetic = .ok () → ManifestValid manifest)) ↔
      arithmetic = .wrapping ∨
        ¬ (HeaderValid manifest ∧ OverflowReached none manifest.entries) := by
  rw [ne_eq, validate_eq_panicked decodable]
  have sound : manifest.validate arithmetic = .ok () → ManifestValid manifest :=
    validate_sound decodable
  cases arithmetic <;> simp_all

namespace Sample

def path : RelativePath := ⟨"a", rfl⟩

/-- A manifest of one sparse file without chunks. -/
def sparseManifest (extents : List SparseExtent) : Manifest where
  protocolVersion := 1
  backupId := ⟨⟨1⟩⟩
  snapshotId := "s"
  createdAtUnixMs := 0
  replicaIntent := ⟨∅⟩
  entries := [{
    path := path, kind := .file, length := 8, chunks := [], sparse := true,
    sparseExtents := extents }]
  providerAcknowledgements := ∅

/-- Two extents suffice: the sum comes before the tests that would refuse them. -/
theorem validate_panics_on_two_extents :
    ∃ manifest : Manifest, manifest.Decodable ∧ manifest.validate .trapping = .error .panicked :=
  ⟨sparseManifest [⟨0, 0xFFFFFFFFFFFFFFFF⟩, ⟨0, 1⟩], Nat.zero_le _, rfl⟩

/-- A chunk of some bytes. -/
def chunk (length : UInt32) : ChunkReference where
  plaintextDigest := String.ofList (replicate 64 '1')
  opaqueLocator := String.ofList (replicate 64 '2')
  plaintextLength := length
  ciphertextLength := length + 16

/-- A manifest of a sparse file with two extents and of a dense file. -/
def mixedManifest : Manifest :=
  { sparseManifest [] with
    entries := [
      { path := path, kind := .file, length := 8, chunks := [chunk 5], sparse := true,
        sparseExtents := [⟨0, 3⟩, ⟨5, 2⟩] },
      { path := ⟨"b", rfl⟩, kind := .file, length := 4, chunks := [chunk 1, chunk 3],
        sparse := false, sparseExtents := [] }] }

theorem validate_total_and_sound_mixed :
    mixedManifest.validate .trapping = .ok () ∧ ManifestValid mixedManifest := by
  have accepted : mixedManifest.validate .trapping = .ok () := rfl
  have small : ∀ entry ∈ mixedManifest.entries, entry.extentLengths.sum < 2 ^ 64 := by decide
  have decodable : mixedManifest.Decodable := show 3 ≤ maxEncryptedManifestBytes by decide
  refine ⟨accepted, ((validate_total_and_sound_iff .trapping mixedManifest decodable).mpr
    (.inr ?_)).2 accepted⟩
  rintro ⟨-, before, entry, after, split, -, -, -, -, overflow⟩
  have member : entry ∈ mixedManifest.entries := split ▸ mem_append_right before mem_cons_self
  exact absurd (small entry member) overflow.not_gt

end Sample

end Covalent.Backup
