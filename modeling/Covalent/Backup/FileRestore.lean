import Covalent.Backup.FileContent

/-!
# From chunks back to a file

A restore makes a file of the recorded length and writes the chunks, in order, where the
record says.  The chunks come in batches that are bounded in number and size, and a batch
never goes beyond the part that is being written.

## Design notes

**Fetching.**  A function hands out the plaintexts of a batch or fails; checks for
cancellation are part of it.
-/

namespace Covalent.Backup

open Effect List
open Sharing (isLowerHexDigest)
open Extents (slice overwrite filled Blank Division)

/-! ## Writing -/

structure StagingFile where
  bytes : List UInt8
  position : Nat

namespace StagingFile

/-- A file that was just created. -/
def new : StagingFile := ⟨[], 0⟩

def setLen (file : StagingFile) (length : Nat) : StagingFile :=
  { file with bytes := file.bytes.take length ++ replicate (length - file.bytes.length) 0 }

def seek (file : StagingFile) (offset : Nat) : StagingFile :=
  { file with position := offset }

def writeAll (file : StagingFile) (values : List UInt8) : StagingFile :=
  ⟨overwrite file.bytes file.position values, file.position + values.length⟩

end StagingFile

/-- How many providers are asked at a time. -/
structure FetchLimits where
  maximumParallelism : Nat
  bounds : 1 ≤ maximumParallelism ∧ maximumParallelism ≤ 32

def FetchLimits.maximumFetchBatch (limits : FetchLimits) : Nat :=
  min (limits.maximumParallelism * 4) 32

def maximumFetchBatchBytes : Nat := 2 * 1024 * 1024

/-- A reference and the providers that may be asked for it. -/
abbrev Request := ChunkReference × List DeviceId

/-- The requests of one batch: not too many, not too large but at least one, and no further
than the part that is being written. -/
def takeBatch (limits : FetchLimits) (allowed : BTreeMap String (List DeviceId)) :
    List ChunkReference → List Request → Nat → Nat → Except FileError (List Request)
  | chunks, requests, remaining, batchBytes =>
    if requests.length < limits.maximumFetchBatch ∧ 0 < remaining then
      match chunks with
      | [] => .error .restorePlanMismatch
      | reference :: rest => do
        refuse (decide (remaining < reference.plaintextLength.toNat)) .restorePlanMismatch
        let nextBytes := saturatingAdd batchBytes reference.ciphertextLength.toNat
        if requests ≠ [] ∧ maximumFetchBatchBytes < nextBytes then pure requests
        else do
          let providers ← okOr (allowed.get? reference.opaqueLocator) .restorePlanMismatch
          takeBatch limits allowed rest (requests ++ [(reference, providers)])
            (remaining - reference.plaintextLength.toNat) nextBytes
    else pure requests

/-- A file in the middle of being written. -/
structure Writing where
  file : StagingFile
  referenceIndex : Nat
  /-- What went into the digest of the whole content. -/
  hashed : List UInt8
  bytesWritten : Nat

/-- Write what was fetched, and what remains of the part. -/
def writeFetched : Writing → Nat → List (Request × List UInt8) → Writing × Nat
  | writing, remaining, [] => (writing, remaining)
  | writing, remaining, (request, plaintext) :: rest =>
    let length := request.1.plaintextLength.toNat
    writeFetched
      { file := writing.file.writeAll plaintext
        referenceIndex := writing.referenceIndex + 1
        hashed := writing.hashed ++ plaintext
        bytesWritten := saturatingAdd writing.bytesWritten length }
      (remaining - length) rest

/-- Fetch the plaintexts of some requests; the number of references before them is known. -/
abbrev Fetch := Nat → List Request → Except FileError (List (List UInt8))

/-- The batches of one part; each uses up a reference. -/
def fillExtent (limits : FetchLimits) (allowed : BTreeMap String (List DeviceId)) (fetch : Fetch)
    (chunks : List ChunkReference) : Nat → Writing → Nat → Except FileError Writing
  | 0, _, _ => .error .diverged
  | rounds + 1, writing, remaining =>
    if remaining = 0 then .ok writing
    else do
      let requests ← takeBatch limits allowed (chunks.drop writing.referenceIndex) [] remaining 0
      let fetched ← fetch writing.referenceIndex requests
      let next := writeFetched writing remaining (requests.zip fetched)
      fillExtent limits allowed fetch chunks rounds next.1 next.2

/-- The parts, one after the other; what lies between them is hashed as zeros. -/
def fillExtents (limits : FetchLimits) (allowed : BTreeMap String (List DeviceId)) (fetch : Fetch)
    (chunks : List ChunkReference) :
    Writing → Nat → List (Nat × Nat) → Except FileError (Writing × Nat)
  | writing, logicalPosition, [] => .ok (writing, logicalPosition)
  | writing, logicalPosition, (offset, length) :: rest => do
    let placed := { writing with
      file := writing.file.seek offset
      hashed := writing.hashed ++ replicate (offset - logicalPosition) 0 }
    let filled ← fillExtent limits allowed fetch chunks (chunks.length + 1) placed length
    fillExtents limits allowed fetch chunks filled (offset + length) rest

structure FileWriteOutcome where
  file : StagingFile
  plaintextDigest : String
  bytesWritten : Nat

/-- Write a file from its record. -/
def writePlaintext [ContentHash] (limits : FetchLimits)
    (allowed : BTreeMap String (List DeviceId)) (fetch : Fetch) (entry : ManifestEntry)
    (file : StagingFile) : Except FileError FileWriteOutcome := do
  let begun : Writing := ⟨file.setLen entry.length.toNat, 0, [], 0⟩
  let written ← fillExtents limits allowed fetch entry.chunks begun 0 entry.extents
  let hashed := written.1.hashed ++ replicate (entry.length.toNat - written.2) 0
  refuse (written.1.referenceIndex != entry.chunks.length) .restorePlanMismatch
  pure ⟨written.1.file, ContentHash.contentDigest hashed, written.1.bytesWritten⟩

/-! ## Batches -/

section Restoring

variable {limits : FetchLimits} {allowed : BTreeMap String (List DeviceId)} {fetch : Fetch}
  {reference : List UInt8 → ChunkReference} {content : List UInt8} {all : List (List UInt8)}

/-- References that know how long their plaintexts are, and that may be fetched. -/
structure Fetchable (allowed : BTreeMap String (List DeviceId))
    (reference : List UInt8 → ChunkReference) (pieces : List (List UInt8)) : Prop where
  nonempty : ∀ piece ∈ pieces, piece ≠ []
  length : ∀ piece ∈ pieces, (reference piece).plaintextLength.toNat = piece.length
  allowed : ∀ piece ∈ pieces, (allowed.get? (reference piece).opaqueLocator).isSome

/-- The plaintexts of some references, wherever they stand in the file. -/
def HandsOut (fetch : Fetch) (reference : List UInt8 → ChunkReference)
    (all : List (List UInt8)) : Prop :=
  ∀ index requests, requests.map Prod.fst = ((all.drop index).take requests.length).map reference →
    fetch index requests = .ok ((all.drop index).take requests.length)

/-- A batch holds the next references of the part; when it is empty before, it takes at least
one. -/
theorem takeBatch_spec {current later : List (List UInt8)} {requests : List Request}
    {batchBytes : Nat} (fetchable : Fetchable allowed reference current) :
    ∃ more, takeBatch limits allowed ((current ++ later).map reference) requests
        current.flatten.length batchBytes = .ok (requests ++ more) ∧
      more.length ≤ current.length ∧
      more.map Prod.fst = (current.take more.length).map reference ∧
      (requests = [] → current ≠ [] → more ≠ []) := by
  induction current generalizing requests batchBytes with
  | nil =>
    refine ⟨[], ?_, le_rfl, rfl, fun _ empty => absurd rfl empty⟩
    unfold takeBatch
    simp
  | cons piece rest ih =>
    obtain ⟨nonempty, nonemptyRest⟩ := forall_mem_cons.mp fetchable.nonempty
    obtain ⟨length, lengthRest⟩ := forall_mem_cons.mp fetchable.length
    obtain ⟨known, knownRest⟩ := forall_mem_cons.mp fetchable.allowed
    obtain ⟨providers, found⟩ := Option.isSome_iff_exists.mp known
    have positive := length_pos_iff.mpr nonempty
    have total : (piece :: rest).flatten.length = piece.length + rest.flatten.length := by
      rw [flatten_cons, length_append]
    have some : 0 < limits.maximumFetchBatch := by
      have bounds := limits.bounds
      unfold FetchLimits.maximumFetchBatch
      omega
    unfold takeBatch
    rw [cons_append, map_cons, total]
    by_cases full : requests.length < limits.maximumFetchBatch ∧
        0 < piece.length + rest.flatten.length
    · rw [if_pos full]
      have inside : (refuse (decide (piece.length + rest.flatten.length <
          (reference piece).plaintextLength.toNat)) FileError.restorePlanMismatch) = .ok () := by
        rw [refuse_eq_ok, length, decide_eq_false_iff_not]
        omega
      show ∃ more, (refuse _ _ >>= fun _ => if requests ≠ [] ∧ maximumFetchBatchBytes <
        saturatingAdd batchBytes (reference piece).ciphertextLength.toNat then _ else _) = _ ∧ _
      rw [inside]
      by_cases large : requests ≠ [] ∧ maximumFetchBatchBytes <
          saturatingAdd batchBytes (reference piece).ciphertextLength.toNat
      · refine ⟨[], ?_, Nat.zero_le _, rfl, fun empty => absurd empty large.1⟩
        rw [append_nil]
        exact if_pos large
      · obtain ⟨more, taken, fewer, same, -⟩ :=
          @ih (requests ++ [(reference piece, providers)])
            (saturatingAdd batchBytes (reference piece).ciphertextLength.toNat)
            ⟨nonemptyRest, lengthRest, knownRest⟩
        refine ⟨(reference piece, providers) :: more, ?_, ?_, ?_, fun _ _ => cons_ne_nil _ _⟩
        · refine (if_neg large).trans ?_
          rw [found, length, Nat.add_sub_cancel_left]
          rw [append_assoc] at taken
          exact taken
        · rw [length_cons, length_cons]
          omega
        · rw [map_cons, length_cons, take_succ_cons, map_cons, same]
    · rw [if_neg full]
      refine ⟨[], ?_, Nat.zero_le _, rfl, fun empty => ?_⟩
      · rw [append_nil]
        rfl
      · rw [empty, length_nil] at full
        omega

/-! ## What the file holds -/

/-- What a file holds that has been written up to a position. -/
structure Progress (content : List UInt8) (all : List (List UInt8)) (writing : Writing)
    (position : Nat) : Prop where
  bytes : writing.file.bytes = filled 0 content position
  place : writing.file.position = position
  hashed : writing.hashed = content.take position
  written : writing.bytesWritten = (all.take writing.referenceIndex).flatten.length

theorem take_flatten_add {index : Nat} {pieces later : List (List UInt8)}
    (rest : all.drop index = pieces ++ later) :
    (all.take (index + pieces.length)).flatten.length =
      (all.take index).flatten.length + pieces.flatten.length := by
  rw [take_add, rest, take_left, flatten_append, length_append]

theorem progress_writeFetched {pieces later : List (List UInt8)} {requests : List Request}
    {writing : Writing} {position remaining : Nat}
    (progress : Progress content all writing position) (small : all.flatten.length < 2 ^ 64)
    (rest : all.drop writing.referenceIndex = pieces ++ later)
    (asked : requests.map Prod.fst = pieces.map reference)
    (length : ∀ piece ∈ pieces, (reference piece).plaintextLength.toNat = piece.length)
    (inside : position + pieces.flatten.length ≤ content.length)
    (next : slice content position pieces.flatten.length = pieces.flatten) :
    Progress content all (writeFetched writing remaining (requests.zip pieces)).1
        (position + pieces.flatten.length) ∧
      (writeFetched writing remaining (requests.zip pieces)).2 = remaining - pieces.flatten.length ∧
      (writeFetched writing remaining (requests.zip pieces)).1.referenceIndex =
        writing.referenceIndex + pieces.length := by
  induction pieces generalizing requests writing position remaining with
  | nil =>
    rw [zip_nil_right]
    exact ⟨progress, rfl, rfl⟩
  | cons piece others ih =>
    obtain ⟨first, lengths⟩ := forall_mem_cons.mp length
    cases requests with
    | nil => cases asked
    | cons request more =>
      obtain ⟨here, askedRest⟩ := cons.inj asked
      rw [flatten_cons, length_append] at inside next ⊢
      obtain ⟨now, after⟩ := Extents.slice_eq_append inside next
      have counted : saturatingAdd writing.bytesWritten request.1.plaintextLength.toNat =
          (all.take (writing.referenceIndex + 1)).flatten.length := by
        have longer := @take_flatten_add all writing.referenceIndex [piece] (others ++ later)
          (by rw [rest, cons_append, singleton_append])
        rw [flatten_singleton, length_singleton] at longer
        have bounded : (all.take (writing.referenceIndex + 1)).flatten.length ≤
            all.flatten.length :=
          (List.Sublist.flatten (take_sublist _ _)).length_le
        rw [here, first, progress.written, longer, saturatingAdd]
        omega
      have moved : Progress content all
          { file := writing.file.writeAll piece
            referenceIndex := writing.referenceIndex + 1
            hashed := writing.hashed ++ piece
            bytesWritten := saturatingAdd writing.bytesWritten
              request.1.plaintextLength.toNat }
          (position + piece.length) := by
        refine ⟨?_, ?_, ?_, counted⟩
        · show overwrite writing.file.bytes writing.file.position piece = _
          rw [progress.bytes, progress.place]
          exact Extents.overwrite_filled (by omega) now
        · show writing.file.position + piece.length = _
          rw [progress.place]
        · show writing.hashed ++ piece = _
          rw [progress.hashed, ← Extents.take_append_slice, now]
      have dropped : all.drop (writing.referenceIndex + 1) = others ++ later := by
        rw [← drop_drop, rest]
        rfl
      obtain ⟨progressed, remains, index⟩ :=
        @ih more _ (position + piece.length)
          (remaining - request.1.plaintextLength.toNat) moved dropped askedRest lengths
          (by omega) after
      rw [← Nat.add_assoc]
      refine ⟨progressed, ?_, ?_⟩
      · refine remains.trans ?_
        rw [here, first, Nat.sub_sub]
      · refine index.trans ?_
        show writing.referenceIndex + 1 + others.length = _
        rw [length_cons]
        omega

variable {pieces : List (List UInt8)}

theorem eq_nil_of_flatten (nonempty : ∀ piece ∈ pieces, piece ≠ [])
    (nothing : pieces.flatten.length = 0) : pieces = [] := by
  cases pieces with
  | nil => rfl
  | cons piece rest =>
    have positive := length_pos_iff.mpr (nonempty piece mem_cons_self)
    rw [flatten_cons, length_append] at nothing
    omega

/-- A part of what may be fetched. -/
theorem Fetchable.subset {fewer : List (List UInt8)}
    (fetchable : Fetchable allowed reference pieces) (subset : fewer ⊆ pieces) :
    Fetchable allowed reference fewer :=
  ⟨fun piece member => fetchable.nonempty piece (subset member),
    fun piece member => fetchable.length piece (subset member),
    fun piece member => fetchable.allowed piece (subset member)⟩

theorem progress_fillExtent {rounds : Nat} {current later : List (List UInt8)} {writing : Writing}
    {position : Nat} (progress : Progress content all writing position)
    (small : all.flatten.length < 2 ^ 64) (hands : HandsOut fetch reference all)
    (fetchable : Fetchable allowed reference current)
    (rest : all.drop writing.referenceIndex = current ++ later) (enough : current.length < rounds)
    (inside : position + current.flatten.length ≤ content.length)
    (next : slice content position current.flatten.length = current.flatten) :
    ∃ after, fillExtent limits allowed fetch (all.map reference) rounds writing
        current.flatten.length = .ok after ∧
      Progress content all after (position + current.flatten.length) ∧
      after.referenceIndex = writing.referenceIndex + current.length := by
  -- Induction on the rounds: every batch uses up at least one reference.
  induction rounds generalizing current writing position with
  | zero => omega
  | succ rounds ih =>
    unfold fillExtent
    by_cases nothing : current.flatten.length = 0
    · obtain rfl := eq_nil_of_flatten fetchable.nonempty nothing
      exact ⟨writing, rfl, progress, rfl⟩
    · rw [if_neg nothing]
      have some : current ≠ [] := by
        rintro rfl
        exact nothing rfl
      obtain ⟨requests, taken, fewer, asked, nonempty⟩ :=
        @takeBatch_spec limits allowed reference current later [] 0 fetchable
      have positive := length_pos_iff.mpr (nonempty rfl some)
      rw [nil_append, ← rest, map_drop] at taken
      -- The batch is a beginning of the part.
      have batch : (all.drop writing.referenceIndex).take requests.length =
          current.take requests.length := by
        rw [rest, take_append_of_le_length fewer]
      have fetched : fetch writing.referenceIndex requests =
          .ok (current.take requests.length) := by
        rw [hands writing.referenceIndex requests (by rw [batch, asked]), batch]
      have parted : current.flatten = (current.take requests.length).flatten ++
          (current.drop requests.length).flatten := by
        rw [← flatten_append, take_append_drop]
      have lengths : current.flatten.length = (current.take requests.length).flatten.length +
          (current.drop requests.length).flatten.length := by
        rw [parted, length_append]
      rw [parted, length_append] at next
      obtain ⟨now, then_⟩ := Extents.slice_eq_append (by omega) next
      obtain ⟨progressed, remains, index⟩ := @progress_writeFetched reference content all
        (current.take requests.length) (current.drop requests.length ++ later) requests writing
        position current.flatten.length progress small
        (by rw [rest, ← append_assoc, take_append_drop]) asked
        (fun piece member => fetchable.length piece (mem_of_mem_take member)) (by omega) now
      have tail := fetchable.subset (drop_subset requests.length current)
      have counted : (current.take requests.length).length = requests.length := by
        rw [length_take]
        omega
      rw [counted] at index
      obtain ⟨after, filled, finished, last⟩ := ih progressed tail
        (by rw [index, ← drop_drop, rest, drop_append_of_le_length fewer])
        (by rw [length_drop]; omega) (by omega) then_
      refine ⟨after, ?_, ?_, ?_⟩
      · rw [taken]
        show (fetch writing.referenceIndex requests >>= fun fetched => _) = _
        rw [fetched]
        have rem : current.flatten.length - (current.take requests.length).flatten.length =
            (current.drop requests.length).flatten.length := by omega
        rw [rem] at remains
        show fillExtent limits allowed fetch (all.map reference) rounds
          (writeFetched writing current.flatten.length
            (requests.zip (current.take requests.length))).1
          (writeFetched writing current.flatten.length
            (requests.zip (current.take requests.length))).2 = _
        rw [remains, filled]
      · rw [lengths, ← Nat.add_assoc]
        exact finished
      · rw [last, index, length_drop]
        omega

/-- All parts are written: the file is the content, and so is what was hashed. -/
theorem progress_fillExtents {start : Nat} {extents : List (Nat × Nat)}
    {pieces : List (List UInt8)} {writing : Writing}
    (division : Division 0 content start extents) (cut : Extents.Cut content extents pieces)
    (progress : Progress content all writing start) (small : all.flatten.length < 2 ^ 64)
    (hands : HandsOut fetch reference all) (fetchable : Fetchable allowed reference pieces)
    (rest : all.drop writing.referenceIndex = pieces)
    (within : writing.referenceIndex ≤ all.length) :
    ∃ after stop, fillExtents limits allowed fetch (all.map reference) writing start extents =
        .ok (after, stop) ∧
      after.file.bytes = content ∧
      after.hashed ++ replicate (content.length - stop) 0 = content ∧
      after.referenceIndex = all.length ∧ after.bytesWritten = all.flatten.length := by
  induction division generalizing writing pieces with
  | @last start inside hole =>
    cases cut with
    | nil =>
      have ended : writing.referenceIndex = all.length :=
        le_antisymm within (drop_eq_nil_iff.mp rest)
      refine ⟨writing, start, rfl, ?_, ?_, ended, ?_⟩
      · rw [progress.bytes, Extents.filled_of_blank inside le_rfl hole, Extents.filled_length]
      · rw [progress.hashed, Extents.take_append_blank inside hole, take_length]
      · rw [progress.written, ended, take_length]
  | @next start offset length others follows nonempty inside hole remaining ih =>
    cases cut with
    | @cons _ _ _ current later whole cutRest =>
      have long : current.flatten.length = length := by
        rw [whole, Extents.slice_length content inside]
      obtain ⟨here, there⟩ : Fetchable allowed reference current ∧
          Fetchable allowed reference later :=
        ⟨fetchable.subset (subset_append_left _ _), fetchable.subset (subset_append_right _ _)⟩
      have placed : Progress content all
          { writing with
            file := writing.file.seek offset
            hashed := writing.hashed ++ replicate (offset - start) 0 } offset := by
        refine ⟨?_, rfl, ?_, progress.written⟩
        · exact progress.bytes.trans (Extents.filled_of_blank follows (by omega) hole)
        · show writing.hashed ++ _ = _
          rw [progress.hashed, Extents.take_append_blank follows hole]
      have counted : current.length < (all.map reference).length + 1 := by
        have fewer := congrArg List.length rest
        rw [length_drop, length_append] at fewer
        rw [length_map]
        omega
      obtain ⟨between, filled, progressed, index⟩ := progress_fillExtent placed small hands here
        rest counted (by omega) (by rw [long, whole])
      rw [long] at filled progressed
      have dropped : all.drop between.referenceIndex = later := by
        rw [index, ← drop_drop]
        show (all.drop writing.referenceIndex).drop current.length = later
        rw [rest, drop_left]
      have bounded : between.referenceIndex ≤ all.length := by
        have fewer := congrArg List.length rest
        rw [length_drop, length_append] at fewer
        rw [index]
        show writing.referenceIndex + current.length ≤ all.length
        omega
      obtain ⟨after, stop, ended, results⟩ := ih cutRest progressed there dropped bounded
      refine ⟨after, stop, ?_, results⟩
      show (fillExtent limits allowed fetch (all.map reference) ((all.map reference).length + 1)
        _ length >>= fun filled => _) = _
      rw [filled]
      exact ended

end Restoring

/-! ## The identity -/

section Identity

variable [ContentHash] {κ : Type} [ChunkCipher κ] {key : κ} {options : ScanOptions}
  {source : SourceFile} {path : RelativePath}

open ContentHash ChunkCipher

variable {pieces : List (List UInt8)} {piece : List UInt8} {entry : ManifestEntry}

theorem Sized.toNat_length (key : κ) (sized : Sized options pieces) (member : piece ∈ pieces) :
    (sealed key options.keyEpoch piece).plaintextLength.toNat = piece.length := by
  have bounded := (sized piece member).2.trans options.chunking.maximumSize_le
  have size : UInt32.size = 2 ^ 32 := rfl
  exact UInt32.toNat_ofNat_of_lt' (by omega)

theorem Sized.reference_isValid (sized : Sized options pieces) (member : piece ∈ pieces) :
    (sealed key options.keyEpoch piece).reference.isValid = true := by
  have bounded := (sized piece member).2.trans options.chunking.maximumSize_le
  have positive := length_pos_iff.mpr (sized piece member).1
  have length : (sealed key options.keyEpoch piece).reference.plaintextLength.toNat =
      piece.length := sized.toNat_length key member
  have encrypted : (sealed key options.keyEpoch piece).reference.ciphertextLength.toNat =
      piece.length + 16 := by
    have size : UInt32.size = 2 ^ 32 := rfl
    have tagged : (sealed key options.keyEpoch piece).ciphertext.length = piece.length + 16 :=
      ciphertext_length key options.keyEpoch piece
    show (UInt32.ofNat (min (sealed key options.keyEpoch piece).ciphertext.length
      (2 ^ 32 - 1))).toNat = _
    rw [tagged, UInt32.toNat_ofNat_of_lt' (by omega)]
    omega
  have limit : maxChunkPlaintextBytes.toNat = 8 * 1024 * 1024 := rfl
  unfold ChunkReference.isValid
  simp only [Bool.and_eq_true, bne_iff_ne, decide_eq_true_iff, beq_iff_eq, ne_eq,
    ← UInt32.toNat_inj, UInt32.le_iff_toNat_le, length, encrypted, limit]
  refine ⟨⟨⟨⟨contentDigest_lowerHex piece, locator_lowerHex key _ _⟩, ?_⟩, bounded⟩, by omega⟩
  exact positive.ne'

section

variable (recorded : Recorded key options source path pieces entry)

include recorded

theorem Recorded.chunkLengths_sum : entry.chunkLengths.sum = (entry.extents.map Prod.snd).sum := by
  rw [← recorded.cut.flatten_length recorded.parts, length_flatten,
    ManifestEntry.chunkLengths, recorded.chunks, map_map]
  refine congrArg sum (map_congr_left fun piece member => ?_)
  exact recorded.sized.toNat_length key member

theorem Recorded.entryValid : EntryValid entry where
  directory kind := by
    rw [recorded.kind] at kind
    cases kind
  dense _ dense := by
    refine ⟨recorded.dense dense, ?_⟩
    rw [recorded.chunkLengths_sum, ManifestEntry.extents, dense, if_neg Bool.false_ne_true,
      wholeExtent]
    split_ifs with empty
    · rw [empty]
      rfl
    · simp
  sparse sparse := by
    have listed : entry.extents =
        entry.sparseExtents.map fun extent => (extent.offset.toNat, extent.length.toNat) := by
      rw [ManifestEntry.extents, sparse, if_pos rfl]
    have parts := recorded.parts
    rw [listed] at parts
    obtain ⟨each, ordered⟩ := parts.bounds
    refine ⟨⟨?_, ?_, ?_⟩, ?_⟩
    · intro extent member
      exact (each _ (mem_map_of_mem member)).1
    · exact pairwise_map.mp ordered
    · intro extent member
      rw [recorded.length]
      exact (each _ (mem_map_of_mem member)).2.2
    · rw [recorded.chunkLengths_sum, listed, map_map]
      rfl
  references chunk member := by
    rw [recorded.chunks] at member
    obtain ⟨piece, present, rfl⟩ := mem_map.mp member
    exact recorded.sized.reference_isValid present

theorem Recorded.restores (small : source.content.length < 2 ^ 64) (limits : FetchLimits)
    {allowed : BTreeMap String (List DeviceId)} {fetch : Fetch}
    (known : ∀ chunk ∈ entry.chunks, (allowed.get? chunk.opaqueLocator).isSome)
    (hands : HandsOut fetch (fun piece => (sealed key options.keyEpoch piece).reference) pieces) :
    ∃ outcome, writePlaintext limits allowed fetch entry .new = .ok outcome ∧
      outcome.file.bytes = source.content ∧ outcome.plaintextDigest = contentDigest source.content ∧
      outcome.bytesWritten = pieces.flatten.length := by
  have fetchable : Fetchable allowed (fun piece => (sealed key options.keyEpoch piece).reference)
      pieces := by
    refine ⟨fun piece member => (recorded.sized piece member).1,
      fun piece member => recorded.sized.toNat_length key member, fun piece member => ?_⟩
    refine known _ ?_
    rw [recorded.chunks]
    exact mem_map_of_mem member
  have bounded : pieces.flatten.length < 2 ^ 64 := by
    have fits := recorded.parts.sum_le
    rw [recorded.cut.flatten_length recorded.parts]
    omega
  have begun : Progress source.content pieces
      ⟨StagingFile.new.setLen entry.length.toNat, 0, [], 0⟩ 0 := by
    refine ⟨?_, rfl, rfl, rfl⟩
    rw [recorded.length, Extents.filled_zero]
    simp [StagingFile.new, StagingFile.setLen]
  obtain ⟨after, stop, filled, bytes, hashed, index, written⟩ :=
    @progress_fillExtents limits _ _ _ _ _ _ _ _ _ recorded.parts recorded.cut begun bounded hands
      fetchable rfl (Nat.zero_le _)
  refine ⟨⟨after.file, contentDigest source.content, after.bytesWritten⟩, ?_, bytes, rfl, written⟩
  have counted : (after.referenceIndex != entry.chunks.length) = false := by
    rw [index, recorded.chunks, length_map]
    exact bne_self_eq_false' _
  simp only [writePlaintext, bind_eq_ok, exists_unit, refuse_eq_ok, pure_eq_ok]
  refine ⟨(after, stop), ?_, counted, ?_⟩
  · rw [recorded.chunks]
    exact filled
  · rw [recorded.length, hashed]

end

/-- Backing up a file and restoring it is the identity.  Reading a file of any content ends
early only for a reason outside of it; otherwise the record is valid, the store took the pieces
it names, and whoever writes the pieces in order gets a file of exactly the content. -/
theorem restore_of_backup (key : κ) (options : ScanOptions) (path : RelativePath)
    (source : SourceFile) (start : ScanState) (small : source.content.length < 2 ^ 64)
    (truthful : source.seeks.Truthful source.content) :
    (∀ problem left, processFile key options path source start = .error problem left →
      Disturbed source start problem) ∧
    ∀ entry after, processFile key options path source start = .ok entry after →
      entry.length.toNat = source.content.length ∧
      (∀ arithmetic, checkEntry arithmetic entry = .ok ()) ∧
      ∃ pieces : List (List UInt8),
        entry.chunks = pieces.map (fun piece => (sealed key options.keyEpoch piece).reference) ∧
        after.stored.flatten = start.stored.flatten ++ pieces.map (sealed key options.keyEpoch) ∧
        ∀ (limits : FetchLimits) (allowed : BTreeMap String (List DeviceId)) (fetch : Fetch),
          (∀ chunk ∈ entry.chunks, (allowed.get? chunk.opaqueLocator).isSome) →
          HandsOut fetch (fun piece => (sealed key options.keyEpoch piece).reference) pieces →
          ∃ outcome, writePlaintext limits allowed fetch entry .new = .ok outcome ∧
            outcome.file.bytes = source.content ∧
            outcome.plaintextDigest = contentDigest source.content := by
  have reading : Ensures (processFile key options path source) start _ _ :=
    recorded_processFile path small truthful
  refine ⟨fun problem left failed => reading.of_error failed, fun entry after done => ?_⟩
  obtain ⟨pieces, recorded, stored⟩ := reading.of_ok done
  have fits : entry.chunkLengths.sum < 2 ^ 64 := by
    have bounded := recorded.parts.sum_le
    rw [recorded.chunkLengths_sum]
    omega
  refine ⟨recorded.length, fun arithmetic => (checkEntry_eq_ok fits).mpr recorded.entryValid,
    pieces, recorded.chunks, stored, fun limits allowed fetch known hands => ?_⟩
  obtain ⟨outcome, written, bytes, digest, -⟩ := recorded.restores small limits known hands
  exact ⟨outcome, written, bytes, digest⟩

end Identity

/-! ## A file with holes -/

namespace Sample

/-- A digest of sixty-four digits. -/
def digestText : String :=
  String.ofList (replicate 64 'a')

/-- One digest for everything. -/
scoped instance contentHash : ContentHash where
  contentDigest _ := digestText
  contentDigest_lowerHex _ := by decide +kernel

/-- Nothing is hidden, but a tag is appended. -/
scoped instance chunkCipher : ChunkCipher Unit where
  locator _ _ _ := digestText
  locator_lowerHex _ _ _ := by decide +kernel
  ciphertext _ _ plaintext := plaintext ++ replicate 16 0
  ciphertext_length _ _ plaintext := by rw [length_append, length_replicate]

/-- One byte of data between two holes. -/
def sparseFile : SourceFile where
  content := [0, 0, 5, 0]
  seeks :=
    { data := fun position => if position ≤ 2 then .found 2 else .beyond
      hole := fun _ => .found 3 }
  reads _ := []

theorem sparseFile_data (position : Nat) :
    sparseFile.seeks.data position = if position ≤ 2 then .found 2 else .beyond :=
  rfl

theorem sparseFile_truthful : sparseFile.seeks.Truthful sparseFile.content := by
  refine ⟨fun position offset inside found => ?_, fun position inside beyond => ?_⟩
  · have early : position ≤ 2 := by
      by_contra late
      rw [sparseFile_data, if_neg late] at found
      cases found
    rw [sparseFile_data, if_pos early] at found
    cases found
    refine ⟨early, ?_⟩
    interval_cases position <;> decide
  · have late : ¬ position ≤ 2 := by
      intro early
      rw [sparseFile_data, if_pos early] at beyond
      cases beyond
    have last : position < 4 := inside
    obtain rfl : position = 3 := by omega
    decide

def options : ScanOptions := ⟨1, defaultChunking, by decide⟩

/-- The file is read without an interruption, and what is written from its record is the
file. -/
theorem sparseFile_restored : ∃ entry after fetch outcome,
      processFile () options path sparseFile ⟨[], []⟩ = .ok entry after ∧
      checkEntry .trapping entry = .ok () ∧
      writePlaintext ⟨1, by decide⟩ ((∅ : BTreeMap String (List DeviceId)).insert digestText [])
        fetch entry .new = .ok outcome ∧
      outcome.file.bytes = [0, 0, 5, 0] := by
  have small : sparseFile.content.length < 2 ^ 64 := by decide
  obtain ⟨disturbed, recorded⟩ :=
    restore_of_backup () options path sparseFile ⟨[], []⟩ small sparseFile_truthful
  cases read : processFile () options path sparseFile ⟨[], []⟩ with
  | error problem left =>
    rcases disturbed problem left read with interrupted | ⟨_, failed⟩ | ⟨position, answer⟩
    · cases interrupted
    · cases failed
    · rcases answer with data | hole
      · by_cases early : position ≤ 2
        · rw [sparseFile_data, if_pos early] at data
          cases data
        · rw [sparseFile_data, if_neg early] at data
          cases data
      · cases hole
  | ok entry after =>
    obtain ⟨-, valid, pieces, chunks, -, restores⟩ := recorded entry after read
    obtain ⟨outcome, written, bytes, -⟩ := restores ⟨1, by decide⟩
      ((∅ : BTreeMap String (List DeviceId)).insert digestText [])
      (fun index requests => .ok ((pieces.drop index).take requests.length))
      (fun chunk member => by
        rw [chunks] at member
        obtain ⟨piece, -, rfl⟩ := mem_map.mp member
        show ((BTreeMap.insert _ digestText []).get? digestText).isSome
        rfl)
      (fun _ _ _ => rfl)
    exact ⟨entry, after, _, outcome, rfl, valid .trapping, written, bytes⟩

end Sample

end Covalent.Backup
