import Covalent.Backup.Chunker
import Covalent.Backup.Manifest
import Covalent.Base.Effect
import Covalent.Base.Extents

/-!
# From a file to its chunks

A backup reads the parts of a file that hold data, cuts each of them into chunks and
records references to the chunks, the parts and the length.

## Design notes

**Interruptions.**  A cancellation, a write batch that is refused and a file that changed are
all one thing here: a point at which the backup may end with an error.

**Loops.**  The loops of the source that end for a reason are given a number of rounds that
suffices; a loop that used them up would be `diverged`, which never happens.
-/

namespace Covalent.Backup

open Effect List
open Sharing (isLowerHexDigest)
open Extents (slice overwrite filled Blank Division)

/-! ## Errors and encryption -/

inductive FileError where
  | sourceChanged
  | restorePlanMismatch
  | resourceLimit (resource : String)
  | io (operation : String)
  | cancelled
  /-- A loop does not end. -/
  | diverged

/-- The digest of contents. -/
class ContentHash where
  contentDigest : List UInt8 → String
  contentDigest_lowerHex : ∀ bytes, isLowerHexDigest (contentDigest bytes) = true

/-- What a key of a backup does, for each epoch. -/
class ChunkCipher (κ : Type) where
  locator : κ → Nat → String → String
  locator_lowerHex : ∀ key epoch digest, isLowerHexDigest (locator key epoch digest) = true
  ciphertext : κ → Nat → List UInt8 → List UInt8
  /-- Encryption appends a tag. -/
  ciphertext_length : ∀ key epoch plaintext,
    (ciphertext key epoch plaintext).length = plaintext.length + 16

structure EncryptedChunk where
  plaintextDigest : String
  opaqueLocator : String
  plaintextLength : UInt32
  ciphertext : List UInt8

namespace EncryptedChunk

def ciphertextLength (chunk : EncryptedChunk) : UInt32 :=
  UInt32.ofNat (min chunk.ciphertext.length (2 ^ 32 - 1))

/-- The reference a manifest keeps of a chunk. -/
def reference (chunk : EncryptedChunk) : ChunkReference :=
  ⟨chunk.plaintextDigest, chunk.opaqueLocator, chunk.plaintextLength, chunk.ciphertextLength⟩

end EncryptedChunk

/-! ## Holes -/

/-- What the system answers when it is asked for the next data or the next hole. -/
inductive Seek where
  | found (offset : Nat)
  /-- There is none before the end. -/
  | beyond
  | unsupported
  | failed (problem : FileError)

structure Seeks where
  data : Nat → Seek
  hole : Nat → Seek

/-- Where the data ends that starts at a position. -/
def holeAfter (seeks : Seeks) (length data : Nat) : Except FileError (Option Nat) :=
  match seeks.hole data with
  | .found offset => .ok (some (min offset length))
  | .beyond => .ok (some length)
  | .unsupported => .ok none
  | .failed problem => .error problem

/-- The rounds of the loop; each ends at a later position. -/
def discoverLoop (seeks : Seeks) (length : Nat) :
    Nat → Nat → List (Nat × Nat) → Except FileError (Option (List (Nat × Nat)))
  | 0, _, _ => .error .diverged
  | rounds + 1, position, extents =>
    if position < length then
      match seeks.data position with
      | .beyond => .ok (some extents)
      | .unsupported => .ok none
      | .failed problem => .error problem
      | .found data =>
        if length ≤ data then .ok (some extents)
        else do
          match ← holeAfter seeks length data with
          | none => .ok none
          | some hole =>
            if hole ≤ data then .ok none
            else discoverLoop seeks length rounds hole (extents ++ [(data, hole - data)])
    else .ok (some extents)

/-- The parts of a file that hold data, or nothing when the system cannot tell. -/
def discoverSparseExtents (seeks : Seeks) (length : Nat) :
    Except FileError (Option (List (Nat × Nat))) :=
  if length = 0 then .ok (some []) else discoverLoop seeks length (length + 1) 0 []

/-- The system reports data from the position on that it was asked for, and everything it
skips is zero. -/
structure Seeks.Truthful (seeks : Seeks) (content : List UInt8) : Prop where
  found : ∀ position offset, position < content.length → seeks.data position = .found offset →
    position ≤ offset ∧ Blank 0 content position (min offset content.length)
  beyond : ∀ position, position < content.length → seeks.data position = .beyond →
    Blank 0 content position content.length

/-! ## Reading -/

/-- A file, what the system says of its holes, and how reads from a position go. -/
structure SourceFile where
  content : List UInt8
  seeks : Seeks
  reads : Nat → List (Except FileError Nat)

structure ScanOptions where
  keyEpoch : Nat
  chunking : ChunkingConfig
  keyEpoch_ne_zero : keyEpoch ≠ 0

structure ScanState where
  /-- What happens at the next points at which a backup can be interrupted. -/
  interruptions : List (Option FileError)
  /-- The batches the store took, oldest first. -/
  stored : List (List EncryptedChunk)

abbrev Scan := EStateM FileError ScanState

/-- A point at which a backup can be interrupted. -/
def pause : Scan Unit := fun state =>
  let rest := { state with interruptions := state.interruptions.tail }
  match state.interruptions.head?.join with
  | none => .ok () rest
  | some problem => .error problem rest

/-- The references so far, and chunks that were not given to the store yet. -/
structure Batch where
  references : List ChunkReference
  pending : List EncryptedChunk
  pendingBytes : Nat

def backupWriteBatchRecords : Nat := 64
def backupWriteBatchBytes : Nat := 16 * 1024 * 1024
def providerRecordFixedBytes : Nat := 4 + 1 + 8 + 4 + 24

def flushBackupWriteBatch (batch : Batch) : Scan Batch :=
  if batch.pending.isEmpty then pure batch
  else do
    pause
    modify fun state => { state with stored := state.stored ++ [batch.pending] }
    pure ⟨batch.references ++ batch.pending.map EncryptedChunk.reference, [], batch.pendingBytes⟩

/-- Give the batch to the store when one more record would make it too large. -/
def makeRoom (batch : Batch) (recordBytes : Nat) : Scan Batch :=
  if !batch.pending.isEmpty && (decide (backupWriteBatchRecords ≤ batch.pending.length) ||
      decide (backupWriteBatchBytes < saturatingAdd batch.pendingBytes recordBytes)) then do
    let flushed ← flushBackupWriteBatch batch
    pause
    pure { flushed with pendingBytes := 0 }
  else pure batch

section Scanning

variable [ContentHash] {κ : Type} [ChunkCipher κ]

open ContentHash ChunkCipher

section

variable (key : κ) (options : ScanOptions) (path : RelativePath) (source : SourceFile)

/-- The encrypted form of a chunk. -/
def sealed (keyEpoch : Nat) (plaintext : List UInt8) : EncryptedChunk where
  plaintextDigest := contentDigest plaintext
  opaqueLocator := locator key keyEpoch (contentDigest plaintext)
  plaintextLength := UInt32.ofNat plaintext.length
  ciphertext := ciphertext key keyEpoch plaintext

def encryptChunk (keyEpoch : Nat) (plaintext : List UInt8) : Except FileError EncryptedChunk := do
  refuse (keyEpoch == 0 || plaintext.isEmpty || decide (2 ^ 32 - 1 < plaintext.length))
    (.resourceLimit "chunk plaintext size")
  pure (sealed key keyEpoch plaintext)

def addChunk (batch : Batch) (bytes : List UInt8) : Scan Batch := do
  pause
  let encrypted ← lift (encryptChunk key options.keyEpoch bytes)
  let recordBytes := saturatingAdd providerRecordFixedBytes encrypted.ciphertextLength.toNat
  let room ← makeRoom batch recordBytes
  pure { room with
    pending := room.pending ++ [encrypted]
    pendingBytes := saturatingAdd room.pendingBytes recordBytes }

/-- The error of a backup when there is no next chunk to be had. -/
def ofChunkError : ChunkError FileError → FileError
  | .io problem => problem
  | .diverged => .diverged

/-- The chunks of one part; each holds a byte. -/
def chunkExtent (key : κ) (options : ScanOptions) :
    Nat → Chunker FileError → Nat → Batch → Scan (Nat × Batch)
  | 0, _, _, _ => throw .diverged
  | rounds + 1, chunker, processed, batch => do
    let next ← lift ((nextChunk options.chunking chunker).mapError ofChunkError)
    match next.1 with
    | none => pure (processed, batch)
    | some bytes => do
      let longer ← addChunk key options batch bytes
      chunkExtent key options rounds next.2 (saturatingAdd processed bytes.length) longer

/-- What was read so far. -/
structure Gathered where
  batch : Batch
  sparseExtents : List SparseExtent

def processExtent (isSparse : Bool) (gathered : Gathered) (extent : Nat × Nat) : Scan Gathered := do
  pause
  let chunker := Chunker.new ⟨slice source.content extent.1 extent.2, source.reads extent.1⟩
  let done ← chunkExtent key options (extent.2 + 1) chunker 0 gathered.batch
  lift (refuse (done.1 != extent.2) .sourceChanged)
  pure ⟨done.2, if isSparse && decide (0 < extent.2) then
    gathered.sparseExtents ++ [⟨UInt64.ofNat extent.1, UInt64.ofNat extent.2⟩]
    else gathered.sparseExtents⟩

def processExtents (key : κ) (options : ScanOptions) (source : SourceFile) (isSparse : Bool) :
    Gathered → List (Nat × Nat) → Scan Gathered
  | gathered, [] => pure gathered
  | gathered, extent :: rest => do
    let next ← processExtent key options source isSparse gathered extent
    processExtents key options source isSparse next rest

/-- Whether the parts leave out something. -/
def isSparse (length : Nat) (discovered : Option (List (Nat × Nat))) : Bool :=
  discovered.any fun extents => decide ((extents.map Prod.snd).sum < length)

/-- The whole of a content, as one part. -/
def wholeExtent (length : Nat) : List (Nat × Nat) :=
  if length = 0 then [] else [(0, length)]

/-- Read a file and record it. -/
def processFile : Scan ManifestEntry := do
  pause
  let length := source.content.length
  let discovered ← lift (discoverSparseExtents source.seeks length)
  let sparse := isSparse length discovered
  let gathered ← processExtents key options source sparse ⟨⟨[], [], 0⟩, []⟩
    (discovered.getD (wholeExtent length))
  let batch ← flushBackupWriteBatch gathered.batch
  pause
  pause
  pure
    { path := path
      kind := .file
      length := UInt64.ofNat length
      chunks := batch.references
      sparse := sparse
      sparseExtents := gathered.sparseExtents }

end

end Scanning

/-- The parts of a file that a record says to write. -/
def ManifestEntry.extents (entry : ManifestEntry) : List (Nat × Nat) :=
  if entry.sparse then
    entry.sparseExtents.map fun extent => (extent.offset.toNat, extent.length.toNat)
  else wholeExtent entry.length.toNat

/-! ## What discovery reports -/

/-- The system fails to answer somewhere. -/
def Seeks.Fails (seeks : Seeks) (problem : FileError) : Prop :=
  ∃ position, seeks.data position = .failed problem ∨ seeks.hole position = .failed problem

variable {seeks : Seeks} {length data : Nat} {content : List UInt8}

theorem holeAfter_eq_error {problem : FileError}
    (failed : holeAfter seeks length data = .error problem) : seeks.Fails problem := by
  unfold holeAfter at failed
  cases answer : seeks.hole data with
  | found offset => simp [answer] at failed
  | beyond => simp [answer] at failed
  | unsupported => simp [answer] at failed
  | failed other =>
    rw [answer] at failed
    cases failed
    exact ⟨data, .inr answer⟩

theorem holeAfter_le {hole : Nat}
    (found : holeAfter seeks length data = .ok (some hole)) : hole ≤ length := by
  unfold holeAfter at found
  cases answer : seeks.hole data with
  | found offset =>
    rw [answer] at found
    obtain rfl := Option.some.inj (Except.ok.inj found)
    exact min_le_right _ _
  | beyond =>
    rw [answer] at found
    obtain rfl := Option.some.inj (Except.ok.inj found)
    exact le_rfl
  | unsupported => simp [answer] at found
  | failed other => simp [answer] at found

/-- How the loop ends: with parts that follow a position and leave out only zeros, without an
answer, or because the system fails. -/
inductive Discovered (seeks : Seeks) (content : List UInt8) (position : Nat)
    (extents : List (Nat × Nat)) : Except FileError (Option (List (Nat × Nat))) → Prop
  | parts {more : List (Nat × Nat)} (division : Division 0 content position more) :
      Discovered seeks content position extents (.ok (some (extents ++ more)))
  | unknown : Discovered seeks content position extents (.ok none)
  | failed {problem : FileError} (fails : seeks.Fails problem) :
      Discovered seeks content position extents (.error problem)

theorem discovered_discoverLoop
    (truthful : seeks.Truthful content) {rounds position : Nat} {extents : List (Nat × Nat)}
    (enough : content.length < position + rounds) (inside : position ≤ content.length) :
    Discovered seeks content position extents
      (discoverLoop seeks content.length rounds position extents) := by
  induction rounds generalizing position extents with
  | zero => omega
  | succ rounds ih =>
    -- Nothing but zeros is left: there are no more parts.
    have done : Blank 0 content position content.length →
        Discovered seeks content position extents (.ok (some extents)) := by
      intro hole
      have last : Discovered seeks content position extents (.ok (some (extents ++ []))) :=
        .parts (.last inside hole)
      rwa [append_nil] at last
    unfold discoverLoop
    by_cases before : position < content.length
    · rw [if_pos before]
      cases answer : seeks.data position with
      | beyond => exact done (truthful.beyond position before answer)
      | unsupported => exact .unknown
      | failed problem => exact .failed ⟨position, .inl answer⟩
      | found data =>
        obtain ⟨follows, hole⟩ := truthful.found position data before answer
        show Discovered seeks content position extents (if content.length ≤ data then _ else _)
        by_cases past : content.length ≤ data
        · rw [if_pos past]
          rw [min_eq_right past] at hole
          exact done hole
        · rw [if_neg past]
          rw [min_eq_left (not_le.mp past).le] at hole
          cases ended : holeAfter seeks content.length data with
          | error problem => exact .failed (holeAfter_eq_error ended)
          | ok answered =>
            cases answered with
            | none => exact .unknown
            | some stop =>
              have within := holeAfter_le ended
              show Discovered seeks content position extents (if stop ≤ data then _ else _)
              by_cases empty : stop ≤ data
              · rw [if_pos empty]
                exact .unknown
              · rw [if_neg empty]
                have later := @ih stop (extents ++ [(data, stop - data)]) (by omega) within
                generalize discoverLoop seeks content.length rounds stop
                  (extents ++ [(data, stop - data)]) = result at later
                cases later with
                | unknown => exact .unknown
                | failed fails => exact .failed fails
                | @parts more division =>
                  rw [append_assoc, singleton_append]
                  refine .parts (.next follows (by omega) (by omega) hole ?_)
                  rwa [Nat.add_sub_cancel' (not_le.mp empty).le]
    · rw [if_neg before]
      refine done ?_
      obtain rfl : position = content.length := by omega
      simp [Blank, slice]

/-- Everything outside of the parts that are reported is zero. -/
theorem discovered_discoverSparseExtents (truthful : seeks.Truthful content) :
    Discovered seeks content 0 [] (discoverSparseExtents seeks content.length) := by
  unfold discoverSparseExtents
  split_ifs with empty
  · have nothing : Division 0 content 0 [] := .last (Nat.zero_le _) (by simp [Blank, slice, empty])
    exact .parts nothing
  · exact discovered_discoverLoop truthful (by omega) (Nat.zero_le _)

/-! ## What reading records -/

/-- What can end a backup of a file: an interruption, a read that fails, or the system. -/
def Disturbed (source : SourceFile) (start : ScanState) (problem : FileError) : Prop :=
  some problem ∈ start.interruptions ∨ (∃ offset, .error problem ∈ source.reads offset) ∨
    source.seeks.Fails problem

theorem ensures_pause {state : ScanState} {post : Unit → ScanState → Prop}
    {failed : FileError → ScanState → Prop}
    (fine : post () { state with interruptions := state.interruptions.tail })
    (problematic : ∀ problem left, some problem ∈ state.interruptions → failed problem left) :
    Ensures pause state post failed := by
  unfold Ensures pause
  cases next : state.interruptions with
  | nil =>
    rw [next] at fine
    exact fine
  | cons head rest =>
    rw [next] at fine problematic
    cases head with
    | none => exact fine
    | some problem => exact problematic problem _ mem_cons_self

section Scanning

variable [ContentHash] {κ : Type} [ChunkCipher κ] {key : κ} {options : ScanOptions}
  {source : SourceFile} {start : ScanState}

/-- A batch that carries the references of some pieces; what the store took and what is
pending are the pieces in order. -/
structure Carries (key : κ) (options : ScanOptions) (start : ScanState)
    (pieces : List (List UInt8)) (batch : Batch) (state : ScanState) : Prop where
  references : batch.references ++ batch.pending.map EncryptedChunk.reference =
    pieces.map fun piece => (sealed key options.keyEpoch piece).reference
  stored : state.stored.flatten ++ batch.pending =
    start.stored.flatten ++ pieces.map (sealed key options.keyEpoch)
  interruptions : state.interruptions ⊆ start.interruptions

namespace Carries

variable {pieces : List (List UInt8)} {batch : Batch} {state : ScanState}

section

variable (carries : Carries key options start pieces batch state)

include carries

theorem pause {α : Type} {next : Unit → Scan α} {post : α → ScanState → Prop}
    (continues : ∀ after, Carries key options start pieces batch after →
      Ensures (next ()) after post fun problem _ => Disturbed source start problem) :
    Ensures (Backup.pause >>= next) state post fun problem _ => Disturbed source start problem := by
  refine ensures_bind (ensures_pause (continues _ ?_) fun problem _ member => ?_)
  · exact { carries with
      interruptions := fun _ member =>
        carries.interruptions (mem_of_mem_tail member) }
  · exact .inl (carries.interruptions member)

theorem flush : Ensures (flushBackupWriteBatch batch) state
      (fun next after => Carries key options start pieces next after ∧ next.pending = [])
      fun problem _ => Disturbed source start problem := by
  unfold flushBackupWriteBatch
  split_ifs with empty
  · exact ensures_pure ⟨carries, List.isEmpty_iff.mp empty⟩
  · refine carries.pause fun after carried => ?_
    refine ensures_bind (ensures_modify (ensures_pure ⟨⟨?_, ?_, carried.interruptions⟩, rfl⟩))
    · rw [map_nil, append_nil, carried.references]
    · rw [flatten_append, flatten_singleton, append_nil, carried.stored]

theorem makeRoom (recordBytes : Nat) : Ensures (Backup.makeRoom batch recordBytes) state
      (fun next after => Carries key options start pieces next after)
      fun problem _ => Disturbed source start problem := by
  unfold Backup.makeRoom
  split_ifs
  · refine ensures_bind (carries.flush.imp ?_ fun _ _ disturbed => disturbed)
    intro flushed after both
    refine both.1.pause fun later carried => ?_
    exact ensures_pure { carried with }
  · exact ensures_pure carries

theorem addChunk {bytes : List UInt8}
    (nonempty : bytes ≠ []) (bounded : bytes.length ≤ 8 * 1024 * 1024) :
    Ensures (Backup.addChunk key options batch bytes) state
      (fun next after => Carries key options start (pieces ++ [bytes]) next after)
      fun problem _ => Disturbed source start problem := by
  have encrypts : encryptChunk key options.keyEpoch bytes =
      .ok (sealed key options.keyEpoch bytes) := by
    simp only [encryptChunk, bind_eq_ok, exists_unit, refuse_eq_ok, pure_eq_ok,
      Bool.or_eq_false_iff, beq_eq_false_iff_ne, decide_eq_false_iff_not, not_lt, and_true]
    refine ⟨⟨options.keyEpoch_ne_zero, ?_⟩, by omega⟩
    simpa using nonempty
  refine carries.pause fun paused carried => ?_
  rw [encrypts]
  refine ensures_bind (ensures_lift (fun encrypted made => ?_) (by rintro _ ⟨⟩))
  cases made
  refine ensures_bind ((carried.makeRoom _).imp ?_ fun _ _ disturbed => disturbed)
  intro room after ready
  refine ensures_pure ⟨?_, ?_, ready.interruptions⟩
  · rw [map_append, map_append, ← append_assoc, ready.references]
    rfl
  · rw [← append_assoc, ready.stored, map_append, append_assoc]
    rfl

end

end Carries

/-- Pieces of lengths that chunks can have. -/
def Sized (options : ScanOptions) (pieces : List (List UInt8)) : Prop :=
  ∀ piece ∈ pieces, piece ≠ [] ∧ piece.length ≤ options.chunking.maximumSize

variable {pieces : List (List UInt8)} {state : ScanState}

theorem carries_chunkExtent {rounds : Nat} {chunker : Chunker FileError} {processed : Nat}
    {batch : Batch}
    (carries : Carries key options start pieces batch state) (consistent : chunker.Consistent)
    (enough : chunker.unread.length < rounds) (fits : processed + chunker.unread.length < 2 ^ 64)
    {offset : Nat} (reads : chunker.reader.reads ⊆ source.reads offset) :
    Ensures (chunkExtent key options rounds chunker processed batch) state
      (fun done after => ∃ more : List (List UInt8), more.flatten = chunker.unread ∧
        Sized options more ∧ done.1 = processed + chunker.unread.length ∧
        Carries key options start (pieces ++ more) done.2 after)
      fun problem _ => Disturbed source start problem := by
  induction rounds generalizing chunker processed pieces batch state with
  | zero => omega
  | succ rounds ih =>
    unfold chunkExtent
    have handed := handed_nextChunk options.chunking chunker consistent
    generalize nextChunk options.chunking chunker = result at handed ⊢
    cases handed with
    | failed read =>
      refine ensures_bind (ensures_lift nofun fun problem failed => ?_)
      cases failed
      exact .inr (.inl ⟨offset, reads read⟩)
    | @ended after nothing =>
      rw [nil_append] at nothing
      refine ensures_bind (ensures_lift (fun next made => ?_) nofun)
      cases made
      refine ensures_pure ⟨[], nothing.symm, nofun, ?_, ?_⟩
      · rw [nothing]
        rfl
      · rwa [append_nil]
    | @found bytes after nonempty bounded whole fewer stays =>
      rw [nil_append] at whole
      have shorter : bytes.length + after.unread.length = chunker.unread.length := by
        rw [← whole, length_append]
      have positive := length_pos_iff.mpr nonempty
      refine ensures_bind (ensures_lift (fun next made => ?_) nofun)
      cases made
      refine ensures_bind ((carries.addChunk nonempty
        (bounded.trans options.chunking.maximumSize_le)).imp ?_ fun _ _ disturbed => disturbed)
      intro longer between carried
      have counted : saturatingAdd processed bytes.length = processed + bytes.length := by
        unfold saturatingAdd
        omega
      refine (ih carried stays (by omega) (by omega)
        (List.Subset.trans fewer reads)).imp ?_ fun _ _ disturbed => disturbed
      rintro done last ⟨more, flat, sized, total, carriesAll⟩
      refine ⟨bytes :: more, ?_, ?_, by omega, ?_⟩
      · rw [flatten_cons, flat, whole]
      · exact forall_mem_cons.mpr ⟨⟨nonempty, bounded⟩, sized⟩
      · rwa [append_assoc, singleton_append] at carriesAll

/-- The parts a record lists. -/
def sparseExtentsOf (isSparse : Bool) (extents : List (Nat × Nat)) : List SparseExtent :=
  if isSparse then extents.map fun extent => ⟨UInt64.ofNat extent.1, UInt64.ofNat extent.2⟩
  else []

theorem carries_processExtents (small : source.content.length < 2 ^ 64) {isSparse : Bool}
    {position : Nat} {extents : List (Nat × Nat)} {gathered : Gathered}
    (division : Division 0 source.content position extents)
    (carries : Carries key options start pieces gathered.batch state) :
    Ensures (processExtents key options source isSparse gathered extents) state
      (fun done after => ∃ more, Extents.Cut source.content extents more ∧ Sized options more ∧
        done.sparseExtents = gathered.sparseExtents ++ sparseExtentsOf isSparse extents ∧
        Carries key options start (pieces ++ more) done.batch after)
      fun problem _ => Disturbed source start problem := by
  induction division generalizing gathered pieces state with
  | last inside hole =>
    refine ensures_pure ⟨[], .nil, nofun, ?_, ?_⟩
    · cases isSparse <;> simp [sparseExtentsOf]
    · rwa [append_nil]
  | @next position offset length rest follows nonempty inside hole remaining ih =>
    have unread : (Chunker.new (⟨slice source.content offset length, source.reads offset⟩ :
        Reader FileError)).unread = slice source.content offset length := rfl
    have long := Extents.slice_length source.content inside
    refine ensures_bind (carries.pause fun paused carried => ?_)
    refine ensures_bind ((carries_chunkExtent carried (Chunker.consistent_new _)
      (by rw [unread, long]; omega)
      (by rw [unread, long]; omega) (List.Subset.refl _)).imp ?_ fun _ _ disturbed => disturbed)
    rintro done between ⟨chunks, flat, sized, total, carriedOn⟩
    rw [unread] at flat total
    rw [long, Nat.zero_add] at total
    refine ensures_bind (ensures_refuse (fun _ => ensures_pure ?_) fun short => ?_)
    · refine (ih carriedOn).imp ?_ fun _ _ disturbed => disturbed
      rintro last after ⟨more, cut, moreSized, listed, carriesAll⟩
      refine ⟨chunks ++ more, .cons flat cut, ?_, ?_, ?_⟩
      · rintro piece member
        rcases mem_append.mp member with here | later
        · exact sized piece here
        · exact moreSized piece later
      · rw [listed]
        cases isSparse <;> simp [sparseExtentsOf, nonempty]
      · rwa [← append_assoc]
    · rw [total] at short
      simp at short

omit [ContentHash] [ChunkCipher κ] in
theorem division_wholeExtent (content : List UInt8) :
    Division 0 content 0 (wholeExtent content.length) := by
  unfold wholeExtent
  split_ifs with empty
  · exact .last (Nat.zero_le _) (by simp [Blank, slice, empty])
  · exact .whole content (Nat.pos_of_ne_zero empty)

omit [ContentHash] [ChunkCipher κ] in
/-- Pieces of parts that leave nothing out are pieces of the whole content. -/
theorem cut_wholeExtent {content : List UInt8} {extents : List (Nat × Nat)}
    (division : Division 0 content 0 extents) (cut : Extents.Cut content extents pieces)
    (total : content.length ≤ (extents.map Prod.snd).sum) :
    Extents.Cut content (wholeExtent content.length) pieces := by
  have bounded := division.sum_le
  unfold wholeExtent
  split_ifs with empty
  · -- A content of length zero has no parts.
    cases division with
    | last => exact cut
    | next follows nonempty inside => omega
  · exact cut.of_total division (by omega)

omit [ContentHash] [ChunkCipher κ] in
/-- The parts of a record are those that were read, or the whole content when they leave
nothing out. -/
theorem parts_of_record {content : List UInt8} (small : content.length < 2 ^ 64)
    {answer : Option (List (Nat × Nat))} {pieces : List (List UInt8)} {entry : ManifestEntry}
    (division : Division 0 content 0 (answer.getD (wholeExtent content.length)))
    (cut : Extents.Cut content (answer.getD (wholeExtent content.length)) pieces)
    (length : entry.length.toNat = content.length)
    (sparse : entry.sparse = isSparse content.length answer)
    (listed : entry.sparseExtents = sparseExtentsOf (isSparse content.length answer)
      (answer.getD (wholeExtent content.length))) :
    Division 0 content 0 entry.extents ∧ Extents.Cut content entry.extents pieces := by
  unfold ManifestEntry.extents
  rw [sparse, listed, length]
  cases holes : isSparse content.length answer with
  | true =>
    have same : ((sparseExtentsOf true (answer.getD (wholeExtent content.length))).map
        fun extent => (extent.offset.toNat, extent.length.toNat)) =
        answer.getD (wholeExtent content.length) := by
      rw [sparseExtentsOf, if_pos rfl, map_map]
      refine (map_congr_left fun extent member => ?_).trans (map_id _)
      obtain ⟨-, -, inside⟩ := division.bounds.1 extent member
      have size : UInt64.size = 2 ^ 64 := rfl
      simp only [Function.comp, id]
      rw [UInt64.toNat_ofNat_of_lt' (by omega), UInt64.toNat_ofNat_of_lt' (by omega)]
    rw [if_pos rfl, same]
    exact ⟨division, cut⟩
  | false =>
    refine ⟨division_wholeExtent content, ?_⟩
    cases answer with
    | none => exact cut
    | some extents =>
      have total : content.length ≤ (extents.map Prod.snd).sum := by
        simpa [isSparse] using holes
      exact cut_wholeExtent division cut total

/-- What a record says of a file: its length, the parts that hold data, and chunks that are
pieces of the parts. -/
structure Recorded (key : κ) (options : ScanOptions) (source : SourceFile) (path : RelativePath)
    (pieces : List (List UInt8)) (entry : ManifestEntry) : Prop where
  path : entry.path = path
  kind : entry.kind = .file
  length : entry.length.toNat = source.content.length
  chunks : entry.chunks = pieces.map fun piece => (sealed key options.keyEpoch piece).reference
  sized : Sized options pieces
  parts : Division 0 source.content 0 entry.extents
  cut : Extents.Cut source.content entry.extents pieces
  dense : entry.sparse = false → entry.sparseExtents = []

/-- What is recorded and what the store took, for every way in which reading can be
interrupted. -/
theorem recorded_processFile (path : RelativePath) (small : source.content.length < 2 ^ 64)
    (truthful : source.seeks.Truthful source.content) :
    Ensures (processFile key options path source) start
      (fun entry after => ∃ pieces, Recorded key options source path pieces entry ∧
        after.stored.flatten = start.stored.flatten ++ pieces.map (sealed key options.keyEpoch))
      fun problem _ => Disturbed source start problem := by
  have begun : Carries key options start [] ⟨[], [], 0⟩ start :=
    ⟨rfl, by rw [append_nil, map_nil, append_nil], List.Subset.refl _⟩
  refine begun.pause fun paused carries => ?_
  have discovered := discovered_discoverSparseExtents truthful
  refine ensures_bind (ensures_lift (fun answer found => ?_) fun problem failed => ?_)
  · rw [found] at discovered
    have division : Division 0 source.content 0
        (answer.getD (wholeExtent source.content.length)) := by
      cases discovered with
      | parts division => exact division
      | unknown => exact division_wholeExtent source.content
    refine ensures_bind ((carries_processExtents small division carries).imp ?_
      fun _ _ disturbed => disturbed)
    rintro gathered after ⟨pieces, cut, sized, listed, carried⟩
    refine ensures_bind (carried.flush.imp ?_ fun _ _ disturbed => disturbed)
    rintro batch flushed ⟨carriesAll, nothing⟩
    refine carriesAll.pause fun one carriesOne => ?_
    refine carriesOne.pause fun two carriesTwo => ?_
    have length : (UInt64.ofNat source.content.length).toNat = source.content.length :=
      UInt64.toNat_ofNat_of_lt' small
    refine ensures_pure ⟨pieces, ?_, ?_⟩
    · obtain ⟨parts, cutAgain⟩ := @parts_of_record _ small answer pieces
        ⟨path, .file, UInt64.ofNat source.content.length, batch.references,
          isSparse source.content.length answer, gathered.sparseExtents⟩ division cut length rfl
        listed
      refine ⟨rfl, rfl, length, ?_, sized, parts, cutAgain, ?_⟩
      · have references := carriesTwo.references
        rwa [nothing, map_nil, append_nil] at references
      · intro dense
        show gathered.sparseExtents = []
        have dense : isSparse source.content.length answer = false := dense
        rw [listed, dense]
        rfl
    · have stored := carriesTwo.stored
      rwa [nothing, append_nil] at stored
  · rw [failed] at discovered
    cases discovered with
    | failed fails => exact .inr (.inr fails)

end Scanning

end Covalent.Backup
