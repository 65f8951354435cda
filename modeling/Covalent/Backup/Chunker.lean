import Covalent.Base.Result

/-!
# Cutting a stream into chunks

A stream is read through a small buffer and cut where a rolling fingerprint of the bytes
since the last cut has a given shape, but not before a minimal and not after a maximal
length.  How the reader hands out its bytes has no influence on what the chunks hold.
-/

namespace Covalent.Backup

open List

/-! ## Limits -/

def isPowerOfTwo (value : Nat) : Bool :=
  value != 0 && value &&& (value - 1) == 0

/-- The limits of the lengths of chunks. -/
structure ChunkingConfig where
  /-- No chunk but the last is smaller. -/
  minimumSize : Nat
  /-- The length chunks have on average. -/
  averageSize : Nat
  maximumSize : Nat
  isValid : (decide (4 * 1024 ≤ minimumSize) && isPowerOfTwo averageSize &&
    decide (minimumSize < averageSize) && decide (averageSize < maximumSize) &&
    decide (maximumSize ≤ 8 * 1024 * 1024)) = true

namespace ChunkingConfig

theorem maximumSize_pos (config : ChunkingConfig) : 0 < config.maximumSize := by
  have valid := config.isValid
  simp only [Bool.and_eq_true, decide_eq_true_iff] at valid
  omega

theorem maximumSize_le (config : ChunkingConfig) : config.maximumSize ≤ 8 * 1024 * 1024 := by
  have valid := config.isValid
  simp only [Bool.and_eq_true, decide_eq_true_iff] at valid
  exact valid.2

end ChunkingConfig

/-- The limits that are used when none are given. -/
def defaultChunking : ChunkingConfig :=
  ⟨128 * 1024, 512 * 1024, 1024 * 1024, by decide⟩

/-! ## Streams -/

/-- A stream: the bytes that are still to come, and how much each of the next reads hands
out, or how it fails. -/
structure Reader (ε : Type) where
  bytes : List UInt8
  reads : List (Except ε Nat)

def readBufferSize : Nat := 64 * 1024

/-- How many bytes a read hands out that may hand out some number of them. -/
def readCount (count : Nat) : Nat :=
  max 1 (min count readBufferSize)

/-- Fill a buffer.  A read of a stream that has not ended hands out at least one byte. -/
def Reader.read {ε : Type} (reader : Reader ε) : Except ε (List UInt8 × Reader ε) :=
  match reader.reads with
  | [] => .ok (reader.bytes.take readBufferSize, ⟨reader.bytes.drop readBufferSize, []⟩)
  | .ok count :: rest =>
    .ok (reader.bytes.take (readCount count), ⟨reader.bytes.drop (readCount count), rest⟩)
  | .error problem :: _ => .error problem

/-- A chunker in the middle of a stream. -/
structure Chunker (ε : Type) where
  reader : Reader ε
  /-- What is left in the buffer. -/
  readBuffer : List UInt8
  eof : Bool

namespace Chunker

variable {ε : Type}

def new (reader : Reader ε) : Chunker ε :=
  ⟨reader, [], false⟩

/-- What was not handed out yet. -/
def unread (chunker : Chunker ε) : List UInt8 :=
  chunker.readBuffer ++ chunker.reader.bytes

/-- The end of a stream is only noted where it is. -/
def Consistent (chunker : Chunker ε) : Prop :=
  chunker.eof = true → chunker.reader.bytes = []

theorem consistent_new (reader : Reader ε) : (new reader).Consistent := nofun

def refill (chunker : Chunker ε) : Except ε (Chunker ε) := do
  let filled ← chunker.reader.read
  pure ⟨filled.2, filled.1, filled.1.isEmpty || chunker.eof⟩

/-- A chunker whose buffer was filled if it was empty. -/
def ready (chunker : Chunker ε) : Except ε (Chunker ε) :=
  if chunker.readBuffer.isEmpty then chunker.refill else pure chunker

end Chunker

/-! ## Boundaries -/

def gear (byte : UInt8) : UInt64 :=
  let value := byte.toUInt64 + 0x9e3779b97f4a7c15
  let value := (value ^^^ (value >>> 30)) * 0xbf58476d1ce4e5b9
  let value := (value ^^^ (value >>> 27)) * 0x94d049bb133111eb
  value ^^^ (value >>> 31)

def rotateLeft (value : UInt64) : UInt64 :=
  (value <<< 1) ||| (value >>> 63)

/-- What the bytes of the buffer make of a chunk. -/
inductive Scanned where
  /-- The chunk ends after some of the bytes. -/
  | boundary (chunk : List UInt8) (consumed : Nat)
  | exhausted (chunk : List UInt8) (fingerprint : UInt64)

def scan (config : ChunkingConfig) : List UInt8 → UInt64 → Nat → List UInt8 → Scanned
  | chunk, fingerprint, _, [] => .exhausted chunk fingerprint
  | chunk, fingerprint, offset, byte :: rest =>
    let chunk := chunk ++ [byte]
    let fingerprint := rotateLeft fingerprint ^^^ gear byte
    let mask := UInt64.ofNat (config.averageSize - 1)
    if config.minimumSize ≤ chunk.length ∧ fingerprint &&& mask = 0 then
      .boundary chunk (offset + 1)
    else if chunk.length = config.maximumSize then .boundary chunk (offset + 1)
    else scan config chunk fingerprint (offset + 1) rest

/-- How looking for a chunk ends. -/
inductive ChunkError (ε : Type) where
  | io (problem : ε)
  /-- The loop does not end. -/
  | diverged

section Chunks

variable {ε : Type}

/-- The rounds of the loop.  Each needs a byte that was not handed out, so that their number
bounds the rounds. -/
def collectChunk (config : ChunkingConfig) :
    Nat → Chunker ε → List UInt8 → UInt64 → Except (ChunkError ε) (Option (List UInt8) × Chunker ε)
  | 0, _, _, _ => .error .diverged
  | rounds + 1, chunker, chunk, fingerprint => do
    let chunker ← chunker.ready.mapError .io
    if chunker.eof ∧ chunker.readBuffer = [] then
      pure (if chunk.isEmpty then none else some chunk, chunker)
    else
      let take := min (config.maximumSize - chunk.length) chunker.readBuffer.length
      match scan config chunk fingerprint 0 (chunker.readBuffer.take take) with
      | .boundary chunk consumed =>
        pure (some chunk, { chunker with readBuffer := chunker.readBuffer.drop consumed })
      | .exhausted chunk fingerprint =>
        collectChunk config rounds { chunker with readBuffer := chunker.readBuffer.drop take }
          chunk fingerprint

/-- The next chunk, or nothing at the end of the stream. -/
def nextChunk (config : ChunkingConfig) (chunker : Chunker ε) :
    Except (ChunkError ε) (Option (List UInt8) × Chunker ε) :=
  if chunker.eof ∧ chunker.readBuffer = [] then .ok (none, chunker)
  else collectChunk config (chunker.unread.length + 1) chunker [] 0

/-! ## What a chunk holds -/

/-- Scanning appends the bytes it consumes, and no chunk gets longer than allowed. -/
theorem scan_spec (config : ChunkingConfig) {chunk bytes : List UInt8} {fingerprint : UInt64}
    {offset : Nat} (room : chunk.length + bytes.length ≤ config.maximumSize) :
    match scan config chunk fingerprint offset bytes with
    | .boundary found consumed => ∃ count, 0 < count ∧ count ≤ bytes.length ∧
        consumed = offset + count ∧ found = chunk ++ bytes.take count
    | .exhausted found _ => found = chunk ++ bytes ∧
        (bytes = [] ∨ found.length < config.maximumSize) := by
  induction bytes generalizing chunk fingerprint offset with
  | nil => exact ⟨(append_nil chunk).symm, .inl rfl⟩
  | cons byte rest ih =>
    rw [length_cons] at room
    have longer : (chunk ++ [byte]).length = chunk.length + 1 := by simp
    -- A cut right after this byte.
    have here : ∃ count, 0 < count ∧ count ≤ (byte :: rest).length ∧
        offset + 1 = offset + count ∧ chunk ++ [byte] = chunk ++ (byte :: rest).take count :=
      ⟨1, one_pos, by simp, rfl, by simp⟩
    unfold scan
    simp only
    split_ifs with shaped full
    · exact here
    · exact here
    · have next := @ih (chunk ++ [byte])
        (rotateLeft fingerprint ^^^ gear byte) (offset + 1) (by rw [longer]; omega)
      cases scanned : scan config (chunk ++ [byte]) (rotateLeft fingerprint ^^^ gear byte)
          (offset + 1) rest with
      | boundary found consumed =>
        rw [scanned] at next
        obtain ⟨count, positive, within, counted, made⟩ := next
        refine ⟨count + 1, by omega, by rw [length_cons]; omega, by omega, ?_⟩
        rw [made, take_succ_cons, append_assoc]
        rfl
      | exhausted found last =>
        rw [scanned] at next
        obtain ⟨made, short⟩ := next
        refine ⟨by rw [made, append_assoc]; rfl, .inr ?_⟩
        rcases short with rfl | short
        · rw [append_nil] at made
          rw [made, longer]
          omega
        · exact short

/-- A read hands out a beginning of the stream, and nothing only at its end. -/
theorem read_spec {reader after : Reader ε} {buffer : List UInt8}
    (done : reader.read = .ok (buffer, after)) :
    buffer ++ after.bytes = reader.bytes ∧ (buffer = [] → reader.bytes = []) ∧
      after.reads ⊆ reader.reads := by
  -- Every read that succeeds takes some positive number of bytes.
  have taken : ∀ count, 0 < count → buffer = reader.bytes.take count →
      after.bytes = reader.bytes.drop count →
      buffer ++ after.bytes = reader.bytes ∧ (buffer = [] → reader.bytes = []) := by
    rintro count positive rfl rest
    rw [rest, take_append_drop, take_eq_nil_iff]
    exact ⟨rfl, fun nothing => nothing.resolve_left positive.ne'⟩
  unfold Reader.read at done
  cases next : reader.reads with
  | nil =>
    rw [next] at done
    cases done
    exact (taken readBufferSize (by decide) rfl rfl).imp_right fun last => ⟨last, nofun⟩
  | cons read rest =>
    rw [next] at done
    cases read with
    | error problem => cases done
    | ok count =>
      cases done
      refine (taken (readCount count) (Nat.lt_of_lt_of_le one_pos (le_max_left _ _))
        rfl rfl).imp_right fun last => ⟨last, ?_⟩
      exact subset_cons_self _ _

/-- A chunker that is ready has lost nothing, and its buffer is empty only at the end. -/
theorem ready_spec {chunker filled : Chunker ε} (consistent : chunker.Consistent)
    (done : chunker.ready = .ok filled) :
    filled.unread = chunker.unread ∧
      (filled.readBuffer = [] → filled.eof = true ∧ chunker.unread = []) ∧
      filled.reader.reads ⊆ chunker.reader.reads ∧ filled.Consistent := by
  unfold Chunker.ready at done
  split_ifs at done with empty
  · simp only [Chunker.refill, bind_eq_ok, pure_eq_ok] at done
    obtain ⟨⟨buffer, reader⟩, read, rfl⟩ := done
    obtain ⟨whole, last, fewer⟩ := read_spec read
    have same : chunker.unread = chunker.reader.bytes := by
      rw [Chunker.unread, List.isEmpty_iff.mp empty, nil_append]
    refine ⟨whole.trans same.symm, fun nothing => ⟨?_, ?_⟩, fewer, fun ended => ?_⟩
    · obtain rfl : buffer = [] := nothing
      rfl
    · rw [same]
      exact last nothing
    · have finished : chunker.reader.bytes = [] := by
        rcases Bool.or_eq_true_iff.mp ended with nothing | known
        · exact last (List.isEmpty_iff.mp nothing)
        · exact consistent known
      rw [finished] at whole
      exact (append_eq_nil_iff.mp whole).2
  · cases done
    refine ⟨rfl, fun nothing => ?_, .refl _, consistent⟩
    rw [nothing] at empty
    exact absurd rfl empty

theorem ready_eq_error {chunker : Chunker ε} {problem : ε}
    (failed : chunker.ready = .error problem) : .error problem ∈ chunker.reader.reads := by
  have reading : chunker.reader.read = .error problem := by
    unfold Chunker.ready Chunker.refill at failed
    split_ifs at failed
    · cases read : chunker.reader.read with
      | error other =>
        rw [read] at failed
        exact congrArg Except.error (Except.error.inj failed)
      | ok filled =>
        rw [read] at failed
        cases failed
    · cases failed
  unfold Reader.read at reading
  cases next : chunker.reader.reads with
  | nil =>
    rw [next] at reading
    cases reading
  | cons read rest =>
    rw [next] at reading
    cases read with
    | ok count => cases reading
    | error other =>
      cases reading
      exact mem_cons_self

/-- How looking for a chunk ends that begins with some bytes. -/
inductive Handed (config : ChunkingConfig) (chunk : List UInt8) (chunker : Chunker ε) :
    Except (ChunkError ε) (Option (List UInt8) × Chunker ε) → Prop
  | found {bytes : List UInt8} {after : Chunker ε} (nonempty : bytes ≠ [])
      (bounded : bytes.length ≤ config.maximumSize)
      (whole : bytes ++ after.unread = chunk ++ chunker.unread)
      (fewer : after.reader.reads ⊆ chunker.reader.reads) (consistent : after.Consistent) :
      Handed config chunk chunker (.ok (some bytes, after))
  | ended {after : Chunker ε} (nothing : chunk ++ chunker.unread = []) :
      Handed config chunk chunker (.ok (none, after))
  | failed {problem : ε} (read : .error problem ∈ chunker.reader.reads) :
      Handed config chunk chunker (.error (.io problem))

theorem Handed.later {config : ChunkingConfig} {chunk longer : List UInt8}
    {chunker next : Chunker ε} {result : Except (ChunkError ε) (Option (List UInt8) × Chunker ε)}
    (rest : Handed config longer next result)
    (whole : longer ++ next.unread = chunk ++ chunker.unread)
    (fewer : next.reader.reads ⊆ chunker.reader.reads) : Handed config chunk chunker result := by
  cases rest with
  | found nonempty bounded later subset consistent =>
    exact .found nonempty bounded (later.trans whole) (List.Subset.trans subset fewer) consistent
  | ended nothing => exact .ended (whole.symm.trans nothing)
  | failed read => exact .failed (fewer read)

theorem handed_collectChunk (config : ChunkingConfig) {rounds : Nat} {chunker : Chunker ε}
    {chunk : List UInt8} {fingerprint : UInt64} (enough : chunker.unread.length < rounds)
    (short : chunk.length < config.maximumSize) (consistent : chunker.Consistent) :
    Handed config chunk chunker (collectChunk config rounds chunker chunk fingerprint) := by
  -- Induction on the rounds: a round that finds no boundary has used up a byte.
  induction rounds generalizing chunker chunk fingerprint with
  | zero => exact absurd enough (Nat.not_lt_zero _)
  | succ rounds ih =>
    unfold collectChunk
    cases filled : chunker.ready with
    | error problem => exact .failed (ready_eq_error filled)
    | ok ready =>
      obtain ⟨same, atEnd, fewer, stays⟩ := ready_spec consistent filled
      show Handed config chunk chunker (if ready.eof ∧ ready.readBuffer = [] then _ else _)
      by_cases finished : ready.eof ∧ ready.readBuffer = []
      · rw [if_pos finished]
        obtain ⟨-, ended⟩ := atEnd finished.2
        cases chunk with
        | nil => exact .ended ended
        | cons byte bytes =>
          refine .found (cons_ne_nil _ _) short.le ?_ fewer stays
          rw [same]
      · rw [if_neg finished]
        have available : ready.readBuffer ≠ [] := fun nothing =>
          finished ⟨(atEnd nothing).1, nothing⟩
        have positive := length_pos_iff.mpr available
        generalize counted : min (config.maximumSize - chunk.length) ready.readBuffer.length = take
        have consumed : (ready.readBuffer.take take).length = take := by
          rw [length_take]
          omega
        have scanning := @scan_spec config chunk (ready.readBuffer.take take) fingerprint 0
          (by rw [consumed]; omega)
        show Handed config chunk chunker (match scan config chunk fingerprint 0
          (ready.readBuffer.take take) with
          | .boundary _ _ => _
          | .exhausted _ _ => _)
        cases scanned : scan config chunk fingerprint 0 (ready.readBuffer.take take) with
        | boundary found count =>
          rw [scanned] at scanning
          obtain ⟨count, some, within, rfl, rfl⟩ := scanning
          rw [consumed] at within
          have cutting : (ready.readBuffer.take take).take count = ready.readBuffer.take count := by
            rw [take_take, min_eq_left within]
          have counting : (ready.readBuffer.take count).length = count := by
            rw [length_take]
            omega
          rw [cutting]
          refine .found ?_ ?_ ?_ fewer stays
          · rw [← length_pos_iff, length_append, counting]
            omega
          · rw [length_append, counting]
            omega
          · rw [← same, Chunker.unread, Chunker.unread, Nat.zero_add, append_assoc,
              ← append_assoc _ _ ready.reader.bytes, take_append_drop]
        | exhausted found last =>
          rw [scanned] at scanning
          obtain ⟨rfl, shorter⟩ := scanning
          refine (ih ?_ ?_ ?_).later ?_ fewer
          · rw [← same, Chunker.unread, length_append] at enough
            rw [Chunker.unread, length_append, length_drop]
            show _ + ready.reader.bytes.length < rounds
            omega
          · refine shorter.resolve_left fun nothing => ?_
            rw [nothing, length_nil] at consumed
            omega
          · exact stays
          · rw [← same, Chunker.unread, Chunker.unread, append_assoc,
              ← append_assoc _ _ ready.reader.bytes, take_append_drop]

/-- The next chunk is a nonempty and bounded beginning of what was not handed out, and there
is one unless everything was handed out or a read fails. -/
theorem handed_nextChunk (config : ChunkingConfig) (chunker : Chunker ε)
    (consistent : chunker.Consistent) :
    Handed config [] chunker (nextChunk config chunker) := by
  unfold nextChunk
  split_ifs with finished
  · refine .ended ?_
    rw [nil_append, Chunker.unread, finished.2, consistent finished.1]
    rfl
  · exact handed_collectChunk config (Nat.lt_succ_self _) config.maximumSize_pos consistent

/-! ## All chunks of a stream -/

/-- All chunks of a stream, for a number of calls. -/
def chunkAll (config : ChunkingConfig) :
    Nat → Chunker ε → Except (ChunkError ε) (List (List UInt8))
  | 0, _ => .error .diverged
  | calls + 1, chunker => do
    let (found, chunker) ← nextChunk config chunker
    match found with
    | none => pure []
    | some chunk => do
      let rest ← chunkAll config calls chunker
      pure (chunk :: rest)

/-- The chunk in which scanning ends. -/
def Scanned.chunk : Scanned → List UInt8
  | .boundary chunk _ => chunk
  | .exhausted chunk _ => chunk

/-- The first chunk of a stream, by its bytes alone. -/
def firstChunk (config : ChunkingConfig) (bytes : List UInt8) : List UInt8 :=
  (scan config [] 0 0 bytes).chunk

/-- The chunks of a stream, by its bytes alone. -/
def cuts (config : ChunkingConfig) : Nat → List UInt8 → List (List UInt8)
  | 0, _ => []
  | calls + 1, bytes =>
    if bytes = [] then [] else
      firstChunk config bytes :: cuts config calls (bytes.drop (firstChunk config bytes).length)

variable {config : ChunkingConfig} {chunk : List UInt8} {fingerprint : UInt64}

theorem chunk_scan_offset {bytes : List UInt8} (one two : Nat) :
    (scan config chunk fingerprint one bytes).chunk =
      (scan config chunk fingerprint two bytes).chunk := by
  induction bytes generalizing chunk fingerprint one two with
  | nil => rfl
  | cons byte rest ih =>
    simp only [scan]
    split_ifs
    · rfl
    · rfl
    · exact ih _ _

/-- Bytes may be scanned in two parts. -/
theorem chunk_scan_append {offset : Nat} (first second : List UInt8) :
    (scan config chunk fingerprint offset (first ++ second)).chunk =
      match scan config chunk fingerprint offset first with
      | .boundary found _ => found
      | .exhausted found last => (scan config found last 0 second).chunk := by
  induction first generalizing chunk fingerprint offset with
  | nil => exact chunk_scan_offset _ _
  | cons byte rest ih =>
    simp only [cons_append, scan]
    split_ifs
    · rfl
    · rfl
    · exact ih

theorem collectChunk_eq_scan {rounds : Nat} {chunker after : Chunker ε}
    {found : Option (List UInt8)} (consistent : chunker.Consistent)
    (done : collectChunk config rounds chunker chunk fingerprint = .ok (found, after)) :
    found.getD [] = (scan config chunk fingerprint 0 chunker.unread).chunk := by
  induction rounds generalizing chunker chunk fingerprint with
  | zero => cases done
  | succ rounds ih =>
    simp only [collectChunk, bind_eq_ok, Except.mapError_eq_ok] at done
    obtain ⟨ready, filled, done⟩ := done
    obtain ⟨same, atEnd, -, stays⟩ := ready_spec consistent filled
    by_cases finished : ready.eof ∧ ready.readBuffer = []
    · rw [if_pos finished] at done
      cases done
      rw [(atEnd finished.2).2]
      cases chunk <;> rfl
    · rw [if_neg finished] at done
      generalize min (config.maximumSize - chunk.length) ready.readBuffer.length = take at done
      rw [← same, Chunker.unread, ← take_append_drop take ready.readBuffer, append_assoc,
        chunk_scan_append]
      cases scanned : scan config chunk fingerprint 0 (ready.readBuffer.take take) with
      | boundary made consumed =>
        rw [scanned] at done
        cases done
        rfl
      | exhausted made last =>
        rw [scanned] at done
        refine ih ?_ done
        exact stays

theorem nextChunk_eq_firstChunk {chunker after : Chunker ε} {found : List UInt8}
    (consistent : chunker.Consistent) (done : nextChunk config chunker = .ok (some found, after)) :
    found = firstChunk config chunker.unread := by
  unfold nextChunk at done
  split_ifs at done
  · cases done
  · exact collectChunk_eq_scan consistent done

/-- Reading to the end yields the chunks of the bytes, which are all of the bytes. -/
theorem chunkAll_eq_cuts {calls : Nat} {chunker : Chunker ε} (consistent : chunker.Consistent)
    (calm : ∀ problem, .error problem ∉ chunker.reader.reads)
    (enough : chunker.unread.length < calls) :
    chunkAll config calls chunker = .ok (cuts config calls chunker.unread) ∧
      (cuts config calls chunker.unread).flatten = chunker.unread := by
  induction calls generalizing chunker with
  | zero => exact absurd enough (Nat.not_lt_zero _)
  | succ calls ih =>
    have handed := handed_nextChunk config chunker consistent
    rw [chunkAll, cuts]
    generalize result : nextChunk config chunker = next at handed
    cases handed with
    | @found chunk after nonempty bounded whole fewer stays =>
      rw [nil_append] at whole
      have first := nextChunk_eq_firstChunk consistent result
      have rest : chunker.unread.drop chunk.length = after.unread := by
        rw [← whole, drop_left]
      have positive := length_pos_iff.mpr nonempty
      have shorter : after.unread.length < calls := by
        rw [← whole, length_append] at enough
        omega
      obtain ⟨read, joined⟩ := ih stays (fun problem listed => calm problem (fewer listed)) shorter
      rw [← first, rest, if_neg (whole ▸ append_ne_nil_of_left_ne_nil nonempty _)]
      refine ⟨?_, by rw [flatten_cons, joined, whole]⟩
      show (chunkAll config calls after >>= fun others => pure (chunk :: others)) = _
      rw [read]
      rfl
    | ended nothing =>
      rw [nil_append] at nothing
      rw [if_pos nothing, nothing]
      exact ⟨rfl, rfl⟩
    | failed read => exact absurd read (calm _)

/-- **Chunks do not depend on reads.**  Two readers that hand out the same bytes, in whatever
portions, give the same chunks, and these are all of the bytes. -/
theorem chunks_ignore_reads (config : ChunkingConfig) (one two : Reader ε) (calls : Nat)
    (same : one.bytes = two.bytes)
    (calm : ∀ problem, .error problem ∉ one.reads ∧ .error problem ∉ two.reads)
    (enough : one.bytes.length < calls) :
    ∃ chunks, chunkAll config calls (.new one) = .ok chunks ∧
      chunkAll config calls (.new two) = .ok chunks ∧ chunks.flatten = one.bytes := by
  have bytes : (Chunker.new two).unread = (Chunker.new one).unread := same.symm
  have first := @chunkAll_eq_cuts ε config calls (.new one) (Chunker.consistent_new one)
    (fun problem => (calm problem).1) enough
  have second := @chunkAll_eq_cuts ε config calls (.new two) (Chunker.consistent_new two)
    (fun problem => (calm problem).2) (by rw [bytes]; exact enough)
  rw [bytes] at second
  exact ⟨_, first.1, second.1, first.2⟩

theorem chunks_ignore_reads_of_three_bytes :
    ∃ chunks, chunkAll defaultChunking 4 (.new (⟨[1, 2, 3], [.ok 1]⟩ : Reader Unit)) = .ok chunks ∧
      chunkAll defaultChunking 4 (.new (⟨[1, 2, 3], [.ok 2]⟩ : Reader Unit)) = .ok chunks ∧
        chunks.flatten = [1, 2, 3] :=
  chunks_ignore_reads defaultChunking ⟨[1, 2, 3], [.ok 1]⟩ ⟨[1, 2, 3], [.ok 2]⟩ 4 rfl (by simp)
    (by decide)

end Chunks

end Covalent.Backup
