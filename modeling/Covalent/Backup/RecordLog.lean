import Covalent.Base.BigEndian
import Covalent.Base.Trace
import Covalent.Protocol

/-!
# The record log of a job's checkpoints

A job appends its checkpoints to a log: a header, and then one frame for each record,
with the record's length before it and a checksum after it.  Reading the log cuts a
frame at the end off that was not written out.

## Design notes

**Completed appends.**  An append has completed when all its bytes are in the file, also
if the sync that follows fails: what it wrote is then read back like any other record.

**Sizes.**  A file is never as long as `2 ^ 64` bytes, so the saturating sums of the
source are sums.
-/

namespace Covalent.Backup.RecordLog

abbrev Bytes := List UInt8

/-- The digest of the frames. -/
class Checksum where
  blake3 : Bytes → Bytes
  length_blake3 : ∀ bytes, (blake3 bytes).length = 32

open Checksum List

/-- `CVWL` and a version. -/
def recordLogMagic : Bytes := [67, 86, 87, 76, 1]

def recordChecksumBytes : Nat := 32

def maxCheckpointBytes : Nat := 256 * 1024 * 1024
def maxCheckpointLogBytes : Nat := 512 * 1024 * 1024

/-- What is hashed before a record. -/
def checksumDomain : Bytes :=
  "covalent/checkpoint-record/v1".toList.map (fun character => UInt8.ofNat character.toNat) ++ [0]

/-! ## Writing -/

/-- An open file at its end, and how many bytes still reach it if not all do. -/
structure Sink where
  file : Bytes
  left : Option Nat

abbrev Write := EStateM CoreError Sink

def writeAll (operation : String) (bytes : Bytes) : Write Unit := fun sink =>
  match sink.left with
  | none => .ok () { sink with file := sink.file ++ bytes }
  | some left =>
    if bytes.length ≤ left then .ok () ⟨sink.file ++ bytes, some (left - bytes.length)⟩
    else .error (.io operation) ⟨sink.file ++ bytes.take left, some 0⟩

/-- A stop that did not come while writing comes here. -/
def syncAll : Write Unit := fun sink =>
  match sink.left with
  | none => .ok () sink
  | some _ => .error (.io "sync record log") sink

/-- A program that writes bytes and does nothing else: all of them if they reach the
file, and otherwise those that do. -/
structure Writes (program : Write Unit) (bytes : Bytes) : Prop where
  whole : ∀ sink : Sink, (∀ left ∈ sink.left, bytes.length ≤ left) →
    program sink = .ok () ⟨sink.file ++ bytes, sink.left.map (· - bytes.length)⟩
  part : ∀ file left, left < bytes.length →
    ∃ problem, program ⟨file, some left⟩ = .error problem ⟨file ++ bytes.take left, some 0⟩

theorem writes_writeAll (operation : String) (bytes : Bytes) :
    Writes (writeAll operation bytes) bytes := by
  refine ⟨?_, ?_⟩
  · rintro ⟨file, left⟩ reach
    cases left with
    | none => rfl
    | some left => simp only [writeAll, if_pos (reach left rfl), Option.map_some]
  · intro file left short
    refine ⟨.io operation, ?_⟩
    simp only [writeAll, if_neg (Nat.not_le.mpr short)]

theorem Writes.bind {first next : Write Unit} {early late : Bytes} (before : Writes first early)
    (behind : Writes next late) : Writes (do first; next) (early ++ late) := by
  refine ⟨?_, ?_⟩
  · rintro ⟨file, left⟩ reach
    rw [length_append] at reach
    have here : ∀ bound ∈ left, early.length ≤ bound := fun bound member => by
      have := reach bound member
      omega
    show EStateM.bind _ _ _ = _
    rw [EStateM.bind, before.whole ⟨file, left⟩ here]
    have there : ∀ bound ∈ left.map (· - early.length), late.length ≤ bound := by
      intro bound member
      obtain ⟨outer, outerMember, rfl⟩ := Option.mem_map.mp member
      have := reach outer outerMember
      omega
    simp only [behind.whole ⟨file ++ early, left.map (· - early.length)⟩ there, Option.map_map,
      append_assoc, length_append]
    have steps : ((· - late.length) ∘ fun bound => bound - early.length) =
        fun bound => bound - (early.length + late.length) := by
      funext bound
      exact Nat.sub_sub ..
    rw [steps]
  · intro file left short
    rw [length_append] at short
    show ∃ problem, EStateM.bind _ _ _ = _
    by_cases inside : left < early.length
    · obtain ⟨problem, stopped⟩ := before.part file left inside
      refine ⟨problem, ?_⟩
      rw [EStateM.bind, stopped, take_append_of_le_length (by omega)]
    · have here : ∀ bound ∈ some left, early.length ≤ bound := by
        rintro bound ⟨rfl⟩
        omega
      obtain ⟨problem, stopped⟩ := behind.part (file ++ early) (left - early.length) (by omega)
      refine ⟨problem, ?_⟩
      rw [EStateM.bind, before.whole ⟨file, some left⟩ here]
      simp only [Option.map_some, stopped]
      rw [take_append, take_of_length_le (by omega : early.length ≤ left), append_assoc]

/-! ## Records -/

/-- A record that the log takes. -/
structure Fits (maximumRecordBytes : Nat) (payload : Bytes) : Prop where
  nonempty : payload ≠ []
  bounded : payload.length ≤ maximumRecordBytes
  small : payload.length < 2 ^ 32

variable {maximumRecordBytes maximumLogBytes fileLength : Nat} {payload : Bytes}

section

variable (fits : Fits maximumRecordBytes payload)

include fits

theorem Fits.decode : BigEndian.decode (BigEndian.encode 4 payload.length) = payload.length := by
  apply BigEndian.decode_encode
  have small := fits.small
  norm_num at small ⊢
  exact small

theorem Fits.pos : 0 < payload.length := length_pos_iff.mpr fits.nonempty

theorem Fits.accepted :
    ¬ (payload.length == 0 || decide (maximumRecordBytes < payload.length)) = true := by
  have positive := fits.pos
  have bounded := fits.bounded
  rw [Bool.or_eq_true, beq_iff_eq, decide_eq_true_eq]
  omega

theorem Fits.admitted : ¬ (payload.isEmpty || decide (maximumRecordBytes < payload.length) ||
      decide (2 ^ 32 ≤ payload.length)) = true := by
  have bounded := fits.bounded
  have small := fits.small
  simp only [Bool.or_eq_true, List.isEmpty_iff, decide_eq_true_eq, fits.nonempty, false_or]
  omega

end

theorem fits_of_admitted (admitted : ¬ (payload.isEmpty ||
      decide (maximumRecordBytes < payload.length) || decide (2 ^ 32 ≤ payload.length)) = true) :
    Fits maximumRecordBytes payload := by
  simp only [Bool.or_eq_true, List.isEmpty_iff, decide_eq_true_eq, not_or, Nat.not_lt,
    Nat.not_le] at admitted
  exact ⟨admitted.1.1, admitted.1.2, admitted.2⟩

section Log

variable [Checksum]

def recordChecksum (length payload : Bytes) : Bytes :=
  blake3 (checksumDomain ++ length ++ payload)

def writeRecordFrame (payload : Bytes) : Write Unit := do
  if 2 ^ 32 ≤ payload.length then
    throw (.resourceLimit "checkpoint record")
  let length := BigEndian.encode 4 payload.length
  writeAll "append checkpoint record" length
  writeAll "append checkpoint record" payload
  writeAll "append checkpoint record" (recordChecksum length payload)

/-- Where an append is stopped, by an error or by the end of the process. -/
inductive Stop where
  | opening
  | writing (written : Nat)

/-- An append to the open file, whose length is known. -/
def appendToFile (fileLength : Nat) (payload : Bytes) (maximumLogBytes : Nat) (durable : Bool) :
    Write Unit := do
  if fileLength ≠ 0 ∧ fileLength < recordLogMagic.length then
    throw (.invalidState "truncated record log header")
  let headerBytes := if fileLength = 0 then recordLogMagic.length else 0
  let frameBytes := 4 + payload.length + recordChecksumBytes
  if maximumLogBytes < fileLength + headerBytes + frameBytes then
    throw (.resourceLimit "job checkpoint log")
  if fileLength = 0 then
    writeAll "write record log header" recordLogMagic
  writeRecordFrame payload
  if durable then
    syncAll

/-- An append, and the log after it. -/
def appendRecordLog (payload : Bytes) (maximumRecordBytes maximumLogBytes : Nat) (durable : Bool)
    (stop : Option Stop) (log : Option Bytes) : Result Unit × Option Bytes :=
  if payload.isEmpty || decide (maximumRecordBytes < payload.length) ||
      decide (2 ^ 32 ≤ payload.length) then
    (.error (.resourceLimit "checkpoint record"), log)
  else
    -- opening the file for appending creates it
    let write (left : Option Nat) : Result Unit × Option Bytes :=
      match appendToFile (log.getD []).length payload maximumLogBytes durable
          ⟨log.getD [], left⟩ with
      | .ok _ sink => (.ok (), some sink.file)
      | .error problem sink => (.error problem, some sink.file)
    match stop with
    | none => write none
    | some .opening => (.error (.io "open checkpoint record log"), log)
    | some (.writing written) => write (some written)

/-! ## Reading -/

/-- The records in the bytes after those of length `validLength`, and where the file is
cut if a torn frame ends it.  Every frame takes bytes, so there are fewer frames than
`fuel` if that is how many bytes there are. -/
def readFrames (maximumRecordBytes fileLength : Nat) :
    Nat → Bytes → Nat → List Bytes → Result (List Bytes × Option Nat)
  | 0, _, _, records => .ok (records, none)
  | fuel + 1, rest, validLength, records =>
    let lengthBytes := rest.take 4
    if lengthBytes.isEmpty then .ok (records, none)
    else if lengthBytes.length < 4 then .ok (records, some validLength)
    else
      let length := BigEndian.decode lengthBytes
      if length == 0 || decide (maximumRecordBytes < length) then
        .error (.invalidState "invalid checkpoint record length")
      else
        let payload := (rest.drop 4).take length
        let checksum := (rest.drop (4 + length)).take recordChecksumBytes
        let frameEnd := validLength + 4 + length + recordChecksumBytes
        if payload.length + checksum.length < length + recordChecksumBytes then
          .ok (records, some validLength)
        else if checksum != recordChecksum lengthBytes payload then
          if frameEnd == fileLength then .ok (records, some validLength)
          else .error (.invalidState "checkpoint record checksum mismatch")
        else
          readFrames maximumRecordBytes fileLength fuel
            (rest.drop (4 + length + recordChecksumBytes)) frameEnd (records ++ [payload])

/-- What happens to the cut that a read makes. -/
inductive CutFault where
  | refused
  | late

def readRecordLog (maximumRecordBytes maximumLogBytes : Nat) (fault : Option CutFault)
    (log : Option Bytes) : Result (Option (List Bytes)) × Option Bytes :=
  match log with
  | none => (.ok none, none)
  | some file =>
    if maximumLogBytes < file.length then (.error (.resourceLimit "job checkpoint log"), log)
    else if file.length < recordLogMagic.length then
      (.error (.io "read record log header"), log)
    else if file.take recordLogMagic.length != recordLogMagic then
      (.error (.invalidState "invalid record log header"), log)
    else
      match readFrames maximumRecordBytes file.length file.length
          (file.drop recordLogMagic.length) recordLogMagic.length [] with
      | .error problem => (.error problem, log)
      | .ok (records, none) => (.ok (some records), log)
      | .ok (records, some validLength) =>
        match fault with
        | none => (.ok (some records), some (file.take validLength))
        | some .refused => (.error (.io "recover partial checkpoint record"), log)
        | some .late =>
          (.error (.io "recover partial checkpoint record"), some (file.take validLength))

/-! ## Frames -/

def frame (payload : Bytes) : Bytes :=
  BigEndian.encode 4 payload.length ++ payload ++
    recordChecksum (BigEndian.encode 4 payload.length) payload

/-- The file of a log that holds records. -/
def image (records : List Bytes) : Bytes :=
  recordLogMagic ++ (records.map frame).flatten

theorem length_recordChecksum (length payload : Bytes) :
    (recordChecksum length payload).length = recordChecksumBytes :=
  length_blake3 _

@[simp]
theorem length_frame (payload : Bytes) :
    (frame payload).length = 4 + payload.length + recordChecksumBytes := by
  simp only [frame, length_append, BigEndian.length_encode, length_recordChecksum]

theorem image_append (records : List Bytes) (payload : Bytes) :
    image (records ++ [payload]) = image records ++ frame payload := by
  simp [image]

theorem length_le_image (records : List Bytes) :
    recordLogMagic.length ≤ (image records).length := by
  simp [image]

section

variable (fits : Fits maximumRecordBytes payload)

include fits

theorem readFrames_frame (fuel : Nat) (rest : Bytes) (validLength : Nat) (records : List Bytes) :
    readFrames maximumRecordBytes fileLength (fuel + 1) (frame payload ++ rest) validLength
        records =
      readFrames maximumRecordBytes fileLength fuel rest
        (validLength + (frame payload).length) (records ++ [payload]) := by
  have lengthBytes : (frame payload ++ rest).take 4 = BigEndian.encode 4 payload.length := by
    rw [frame, append_assoc, append_assoc, take_left' (by simp)]
  have body : ((frame payload ++ rest).drop 4).take payload.length = payload := by
    rw [frame, append_assoc, append_assoc, drop_left' (by simp), take_left' rfl]
  have checksum : ((frame payload ++ rest).drop (4 + payload.length)).take recordChecksumBytes =
      recordChecksum (BigEndian.encode 4 payload.length) payload := by
    rw [frame, append_assoc, drop_left' (by simp), take_left' (length_recordChecksum _ _)]
  have remaining : (frame payload ++ rest).drop (4 + payload.length + recordChecksumBytes) =
      rest := by
    rw [← length_frame, drop_left' rfl]
  have notEmpty : (BigEndian.encode 4 payload.length).isEmpty = false := by
    rw [isEmpty_eq_false_iff, ← length_pos_iff, BigEndian.length_encode]
    omega
  rw [readFrames]
  simp only [lengthBytes, fits.decode, body, checksum, remaining, notEmpty,
    BigEndian.length_encode, length_recordChecksum]
  rw [if_neg (by simp), if_neg (by omega), if_neg fits.accepted, if_neg (by omega),
    if_neg (by simp), length_frame]
  congr 1
  omega

theorem readFrames_torn {torn : Bytes}
    (part : torn <+: frame payload) (cut : torn.length < (frame payload).length) (fuel : Nat)
    (validLength : Nat) (records : List Bytes) :
    readFrames maximumRecordBytes fileLength (fuel + 1) torn validLength records =
      .ok (records, if torn = [] then none else some validLength) := by
  rw [length_frame] at cut
  by_cases nothing : torn = []
  · rw [readFrames, nothing]
    simp
  have someBytes : 0 < torn.length := length_pos_iff.mpr nothing
  have notEmpty : (torn.take 4).isEmpty = false := by
    rw [isEmpty_eq_false_iff, ← length_pos_iff, length_take]
    omega
  rw [readFrames, if_neg nothing]
  simp only [notEmpty, Bool.false_eq_true, if_false]
  by_cases short : torn.length < 4
  · rw [if_pos (by rw [length_take]; omega)]
  -- the length was written out, so the record that is missing is known
  have lengthBytes : torn.take 4 = BigEndian.encode 4 payload.length := by
    have taken : torn.take 4 <+: frame payload := (List.take_prefix 4 torn).trans part
    rw [prefix_iff_eq_take.mp taken, length_take, min_eq_left (by omega), frame,
      append_assoc, take_left' (by simp)]
  rw [if_neg (by rw [length_take]; omega), lengthBytes, fits.decode, if_neg fits.accepted, if_pos]
  simp only [length_take, length_drop]
  omega

end

/-- Records and a torn frame after them are read as the records. -/
theorem readFrames_image {records : List Bytes}
    (fit : ∀ record ∈ records, Fits maximumRecordBytes record)
    (fits : Fits maximumRecordBytes payload) {torn : Bytes} (part : torn <+: frame payload)
    (cut : torn.length < (frame payload).length) {fuel : Nat} (enough : records.length < fuel)
    (validLength : Nat) (earlier : List Bytes) :
    readFrames maximumRecordBytes fileLength fuel ((records.map frame).flatten ++ torn)
        validLength earlier =
      .ok (earlier ++ records,
        if torn = [] then none else some (validLength + (records.map frame).flatten.length)) := by
  induction records generalizing fuel validLength earlier with
  | nil =>
    obtain ⟨fuel, rfl⟩ := Nat.exists_eq_succ_of_ne_zero (Nat.ne_of_gt enough)
    simpa using readFrames_torn fits part cut fuel validLength earlier
  | cons record rest ih =>
    obtain ⟨fuel, rfl⟩ := Nat.exists_eq_succ_of_ne_zero (Nat.ne_of_gt (Nat.zero_lt_of_lt enough))
    rw [map_cons, flatten_cons, append_assoc, readFrames_frame (fit record mem_cons_self),
      ih (fun other member => fit other (mem_cons_of_mem _ member)) (by simpa using enough)]
    simp only [append_assoc, singleton_append, length_append, Nat.add_assoc]

theorem length_le_length_image (records : List Bytes) :
    records.length < (image records).length := by
  have several : records.length ≤ (records.map frame).flatten.length := by
    induction records with
    | nil => simp
    | cons record rest ih =>
      simp only [map_cons, flatten_cons, length_append, length_cons, length_frame]
      omega
  simp only [image, length_append]
  have magic : recordLogMagic.length = 5 := rfl
  omega

theorem readRecordLog_image {records : List Bytes}
    (fit : ∀ record ∈ records, Fits maximumRecordBytes record)
    (fits : Fits maximumRecordBytes payload) {torn : Bytes} (part : torn <+: frame payload)
    (cut : torn.length < (frame payload).length)
    (bounded : (image records ++ torn).length ≤ maximumLogBytes) (fault : Option CutFault) :
    readRecordLog maximumRecordBytes maximumLogBytes fault (some (image records ++ torn)) =
      if torn = [] then (.ok (some records), some (image records))
      else match fault with
        | none => (.ok (some records), some (image records))
        | some .refused =>
          (.error (.io "recover partial checkpoint record"), some (image records ++ torn))
        | some .late =>
          (.error (.io "recover partial checkpoint record"), some (image records)) := by
  have long : recordLogMagic.length ≤ (image records ++ torn).length := by
    have header := length_le_image records
    rw [length_append]
    omega
  have magic : (image records ++ torn).take recordLogMagic.length = recordLogMagic := by
    rw [image, append_assoc, take_left' rfl]
  have frames : (image records ++ torn).drop recordLogMagic.length =
      (records.map frame).flatten ++ torn := by
    rw [image, append_assoc, drop_left' rfl]
  have enough : records.length < (image records ++ torn).length := by
    have fewer := length_le_length_image records
    rw [length_append]
    omega
  have scanned := @readFrames_image _ (image records ++ torn).length _ _ records fit fits torn part
    cut _ enough recordLogMagic.length []
  have whole : recordLogMagic.length + (records.map frame).flatten.length =
      (image records).length := by
    rw [image, length_append]
  rw [whole, nil_append] at scanned
  simp only [readRecordLog]
  rw [if_neg (by omega), if_neg (by omega), magic, if_neg (by simp), frames, scanned]
  by_cases nothing : torn = []
  · simp [nothing]
  · simp only [nothing, if_false, take_left' rfl]

/-! ## What an append writes -/

theorem writes_writeRecordFrame (small : payload.length < 2 ^ 32) :
    Writes (writeRecordFrame payload) (frame payload) := by
  have three := (writes_writeAll "append checkpoint record"
      (BigEndian.encode 4 payload.length)).bind
    ((writes_writeAll "append checkpoint record" payload).bind
      (writes_writeAll "append checkpoint record"
        (recordChecksum (BigEndian.encode 4 payload.length) payload)))
  rw [writeRecordFrame, if_neg (by omega)]
  exact three

/-- What an append adds to a file. -/
def addition (file payload : Bytes) : Bytes :=
  (if file.length = 0 then recordLogMagic else []) ++ frame payload

/-- A log that has its header, or nothing at all, and room for a record. -/
structure Room (maximumLogBytes : Nat) (file payload : Bytes) : Prop where
  header : file.length = 0 ∨ recordLogMagic.length ≤ file.length
  roomy : (file ++ addition file payload).length ≤ maximumLogBytes

instance (file : Bytes) : Decidable (Room maximumLogBytes file payload) :=
  decidable_of_iff ((file.length = 0 ∨ recordLogMagic.length ≤ file.length) ∧
    (file ++ addition file payload).length ≤ maximumLogBytes)
    ⟨fun ⟨header, roomy⟩ => ⟨header, roomy⟩, fun ⟨header, roomy⟩ => ⟨header, roomy⟩⟩

theorem length_addition (file payload : Bytes) : (file ++ addition file payload).length =
      file.length + (if file.length = 0 then recordLogMagic.length else 0) +
        (4 + payload.length + recordChecksumBytes) := by
  simp only [addition, length_append, length_frame]
  split_ifs <;> simp [Nat.add_assoc]

variable {file : Bytes} {log : Option Bytes} {written : Nat}

/-- An append to a file with room writes the frame, after the header if there is none,
and may then fail at the sync. -/
theorem appendToFile_eq (room : Room maximumLogBytes file payload)
    (small : payload.length < 2 ^ 32) (durable : Bool) :
    ∃ program, Writes program (addition file payload) ∧
      appendToFile file.length payload maximumLogBytes durable =
        (do program; if durable then syncAll) := by
  have roomy := room.roomy
  have header := room.header
  rw [length_addition] at roomy
  by_cases empty : file.length = 0
  · refine ⟨do writeAll "write record log header" recordLogMagic; writeRecordFrame payload, ?_, ?_⟩
    · rw [addition, if_pos empty]
      exact (writes_writeAll _ _).bind (writes_writeRecordFrame small)
    · rw [if_pos empty] at roomy
      rw [appendToFile, if_neg (by omega)]
      simp only [if_pos empty, bind_assoc]
      rw [if_neg (by omega)]
  · refine ⟨writeRecordFrame payload, ?_, ?_⟩
    · rw [addition, if_neg empty, nil_append]
      exact writes_writeRecordFrame small
    · rw [appendToFile, if_neg (by omega)]
      simp only [if_neg empty]
      rw [if_neg (by omega)]

theorem finish_append (room : Room maximumLogBytes file payload)
    (small : payload.length < 2 ^ 32) (durable : Bool) :
    (appendToFile file.length payload maximumLogBytes durable ⟨file, none⟩ =
      .ok () ⟨file ++ addition file payload, none⟩) ∧
    ∀ written, ∃ left,
      (∃ problem, appendToFile file.length payload maximumLogBytes durable ⟨file, some written⟩ =
        .error problem ⟨file ++ (addition file payload).take written, left⟩) ∨
      (addition file payload).length ≤ written ∧
        appendToFile file.length payload maximumLogBytes durable ⟨file, some written⟩ =
          .ok () ⟨file ++ addition file payload, left⟩ := by
  obtain ⟨program, writes, same⟩ := appendToFile_eq room small durable
  rw [same]
  refine ⟨?_, fun written => ?_⟩
  · show EStateM.bind _ _ _ = _
    rw [EStateM.bind, writes.whole ⟨file, none⟩ (by nofun)]
    cases durable <;> rfl
  by_cases reach : (addition file payload).length ≤ written
  · have here : ∀ bound ∈ some written, (addition file payload).length ≤ bound := by
      rintro bound ⟨rfl⟩
      exact reach
    refine ⟨some (written - (addition file payload).length), ?_⟩
    show (∃ problem, EStateM.bind _ _ _ = _) ∨ _ ∧ EStateM.bind _ _ _ = _
    rw [EStateM.bind, writes.whole ⟨file, some written⟩ here, take_of_length_le reach]
    cases durable with
    | true => exact .inl ⟨.io "sync record log", rfl⟩
    | false => exact .inr ⟨reach, rfl⟩
  · obtain ⟨problem, stopped⟩ := writes.part file written (by omega)
    refine ⟨some 0, .inl ⟨problem, ?_⟩⟩
    show EStateM.bind _ _ _ = _
    rw [EStateM.bind, stopped]

section

variable (fits : Fits maximumRecordBytes payload)
  (room : Room maximumLogBytes (log.getD []) payload) (durable : Bool)

include fits room durable

/-- An append that nothing stops adds its record. -/
theorem appendRecordLog_eq :
    appendRecordLog payload maximumRecordBytes maximumLogBytes durable none log =
      (.ok (), some (log.getD [] ++ addition (log.getD []) payload)) := by
  rw [appendRecordLog, if_neg fits.admitted]
  simp only [(finish_append room fits.small durable).1]

theorem appendRecordLog_stopped (written : Nat) :
    (appendRecordLog payload maximumRecordBytes maximumLogBytes durable (some (.writing written))
      log).2 = some (log.getD [] ++ (addition (log.getD []) payload).take written) := by
  rw [appendRecordLog, if_neg fits.admitted]
  obtain ⟨left, ⟨problem, stopped⟩ | ⟨reach, written⟩⟩ :=
    (finish_append room fits.small durable).2 written
  · simp only [stopped]
  · simp only [written, take_of_length_le reach]

end

/-- A record that does not fit, or for which there is no room, is not written. -/
theorem appendRecordLog_refused (durable : Bool) (stop : Option Stop)
    (refused : ¬ (Fits maximumRecordBytes payload ∧ Room maximumLogBytes (log.getD []) payload)) :
    (∃ problem, (appendRecordLog payload maximumRecordBytes maximumLogBytes durable stop log).1 =
      .error problem) ∧
    ((appendRecordLog payload maximumRecordBytes maximumLogBytes durable stop log).2 = log ∨
      Fits maximumRecordBytes payload ∧
      (appendRecordLog payload maximumRecordBytes maximumLogBytes durable stop log).2 =
        some (log.getD [])) := by
  by_cases admitted : (payload.isEmpty || decide (maximumRecordBytes < payload.length) ||
      decide (2 ^ 32 ≤ payload.length)) = true
  · rw [appendRecordLog, if_pos admitted]
    exact ⟨⟨_, rfl⟩, .inl rfl⟩
  have fits : Fits maximumRecordBytes payload := fits_of_admitted admitted
  -- the file is opened and one of its two checks fails
  have thrown : ∀ left, ∃ problem,
      appendToFile (log.getD []).length payload maximumLogBytes durable ⟨log.getD [], left⟩ =
        .error problem ⟨log.getD [], left⟩ := by
    intro left
    by_cases header : (log.getD []).length ≠ 0 ∧ (log.getD []).length < recordLogMagic.length
    · exact ⟨.invalidState "truncated record log header", by rw [appendToFile, if_pos header]; rfl⟩
    · have full : maximumLogBytes < (log.getD []).length +
          (if (log.getD []).length = 0 then recordLogMagic.length else 0) +
          (4 + payload.length + recordChecksumBytes) := by
        by_contra roomy
        rw [← length_addition] at roomy
        exact refused ⟨fits, ⟨by omega, by omega⟩⟩
      refine ⟨.resourceLimit "job checkpoint log", ?_⟩
      rw [appendToFile, if_neg header, if_pos full]
      rfl
  rw [appendRecordLog, if_neg admitted]
  cases stop with
  | none =>
    obtain ⟨problem, stopped⟩ := thrown none
    simp only [stopped]
    exact ⟨⟨problem, rfl⟩, .inr ⟨fits, trivial⟩⟩
  | some stop =>
    cases stop with
    | opening => exact ⟨⟨_, rfl⟩, .inl rfl⟩
    | writing written =>
      obtain ⟨problem, stopped⟩ := thrown (some written)
      simp only [stopped]
      exact ⟨⟨problem, rfl⟩, .inr ⟨fits, trivial⟩⟩

/-! ## A job's log -/

def appendCheckpointRecord (payload : Bytes) (durable : Bool) (stop : Option Stop)
    (log : Option Bytes) : Result Unit × Option Bytes :=
  appendRecordLog payload maxCheckpointBytes maxCheckpointLogBytes durable stop log

def readCheckpointRecords (fault : Option CutFault) (log : Option Bytes) :
    Result (Option (List Bytes)) × Option Bytes :=
  readRecordLog maxCheckpointBytes maxCheckpointLogBytes fault log

/-- What is done with a job's log. -/
inductive Operation where
  | append (payload : Bytes) (durable : Bool) (stop : Option Stop)
  | read (fault : Option CutFault)

/-- A job's log, the records whose appends completed, and whether an append was cut off
since the log was last read. -/
structure Job where
  log : Option Bytes
  completed : List Bytes
  interrupted : Bool

/-- A job before its first checkpoint. -/
def Job.fresh : Job := ⟨none, [], false⟩

/-- Whether an append writes all its bytes. -/
def completes (payload : Bytes) (durable : Bool) (stop : Option Stop) (log : Option Bytes) : Bool :=
  (appendCheckpointRecord payload durable none log).1.isOk &&
    decide ((appendCheckpointRecord payload durable stop log).2 =
      (appendCheckpointRecord payload durable none log).2)

def Job.after (job : Job) : Operation → Job
  | .append payload durable stop =>
    let log := (appendCheckpointRecord payload durable stop job.log).2
    if completes payload durable stop job.log then
      { job with log := log, completed := job.completed ++ [payload] }
    else
      { job with log := log, interrupted := job.interrupted || decide (log ≠ job.log) }
  | .read fault =>
    match readCheckpointRecords fault job.log with
    | (.ok _, log) => { job with log := log, interrupted := false }
    | (.error _, log) => { job with log := log }

/-- Whether an append to an empty file is stopped before its header is written. -/
def Stop.inHeader : Stop → Bool
  | .opening => false
  | .writing written => decide (written < recordLogMagic.length)

/-- The log was read since an append to it was cut off, and no append is stopped while it
writes the header. -/
def Repaired (job : Job) : Operation → Prop
  | .append _ _ stop =>
    job.interrupted = false ∧ (job.log.getD [] = [] → stop.all (fun stop => !stop.inHeader) = true)
  | .read _ => True

instance (job : Job) (operation : Operation) : Decidable (Repaired job operation) :=
  match operation with
  | .append _ _ _ => inferInstanceAs (Decidable (_ ∧ _))
  | .read _ => inferInstanceAs (Decidable True)

/-- A log with its header, the completed records, and a frame that may be torn. -/
structure Kept (job : Job) (payload torn : Bytes) : Prop where
  fit : ∀ record ∈ job.completed, Fits maxCheckpointBytes record
  fits : Fits maxCheckpointBytes payload
  part : torn <+: frame payload
  cut : torn.length < (frame payload).length
  log : job.log = some (image job.completed ++ torn)
  bounded : (image job.completed ++ torn).length ≤ maxCheckpointLogBytes
  repaired : job.interrupted = false → torn = []

/-- What holds of a job's log: it is not there yet, or it is kept. -/
def Sound (job : Job) : Prop :=
  (job.log = none ∧ job.completed = []) ∨ ∃ payload torn, Kept job payload torn

variable {job : Job} {torn : Bytes}

theorem Kept.read (kept : Kept job payload torn) (fault : Option CutFault) :
    readCheckpointRecords fault job.log =
      if torn = [] then (.ok (some job.completed), some (image job.completed))
      else match fault with
        | none => (.ok (some job.completed), some (image job.completed))
        | some .refused =>
          (.error (.io "recover partial checkpoint record"), some (image job.completed ++ torn))
        | some .late =>
          (.error (.io "recover partial checkpoint record"), some (image job.completed)) := by
  rw [readCheckpointRecords, kept.log]
  exact readRecordLog_image kept.fit kept.fits kept.part kept.cut kept.bounded fault

theorem Kept.repair (kept : Kept job payload torn) (interrupted : Bool) :
    Kept { job with log := some (image job.completed), interrupted := interrupted } payload [] where
  fit := kept.fit
  fits := kept.fits
  part := nil_prefix
  cut := by
    rw [length_frame]
    simp only [length_nil]
    omega
  log := by simp
  bounded := by
    have bounded := kept.bounded
    rw [length_append] at bounded
    simp only [append_nil]
    omega
  repaired := fun _ => rfl

theorem Kept.after_read (kept : Kept job payload torn) (fault : Option CutFault) :
    Sound (job.after (.read fault)) := by
  have read := kept.read fault
  refine .inr ?_
  by_cases nothing : torn = []
  · rw [if_pos nothing] at read
    simp only [Job.after, read]
    exact ⟨payload, [], kept.repair false⟩
  rw [if_neg nothing] at read
  cases fault with
  | none =>
    simp only [Job.after, read]
    exact ⟨payload, [], kept.repair false⟩
  | some fault =>
    cases fault with
    | refused =>
      simp only [Job.after, read, ← kept.log]
      exact ⟨payload, torn, kept⟩
    | late =>
      simp only [Job.after, read]
      exact ⟨payload, [], kept.repair job.interrupted⟩

/-- A log to which a record can be added: none yet, or one that nothing torn ends. -/
structure Ready (job : Job) : Prop where
  fit : ∀ record ∈ job.completed, Fits maxCheckpointBytes record
  start : job.log = none ∧ job.completed = [] ∨ job.log = some (image job.completed)
  bounded : (job.log.getD []).length ≤ maxCheckpointLogBytes

theorem Sound.ready (sound : Sound job) (repaired : job.interrupted = false) : Ready job := by
  obtain ⟨log, completed⟩ | ⟨payload, torn, kept⟩ := sound
  · exact ⟨by simp [completed], .inl ⟨log, completed⟩, by simp [log]⟩
  · have whole : job.log = some (image job.completed) := by
      rw [kept.log, kept.repaired repaired, append_nil]
    have bounded := kept.bounded
    rw [length_append] at bounded
    refine ⟨kept.fit, .inr whole, ?_⟩
    rw [whole, Option.getD_some]
    omega

/-- What the header of a log that has none takes. -/
def headerLength (file : Bytes) : Nat :=
  if file.length = 0 then recordLogMagic.length else 0

theorem length_addition_frame (file payload : Bytes) :
    (addition file payload).length = headerLength file + (frame payload).length := by
  rw [addition, headerLength, length_append]
  split_ifs <;> simp

theorem room_of_none (fits : Fits maxCheckpointBytes payload) :
    Room maxCheckpointLogBytes [] payload := by
  refine ⟨.inl rfl, ?_⟩
  have bounded := fits.bounded
  rw [length_addition]
  simp only [length_nil, if_true, recordLogMagic, recordChecksumBytes, length_cons,
    maxCheckpointBytes, maxCheckpointLogBytes] at bounded ⊢
  omega

theorem addition_ne_nil (file payload : Bytes) : addition file payload ≠ [] := by
  have long := length_frame payload
  intro empty
  have nothing : frame payload = [] := (append_eq_nil_iff.mp empty).2
  rw [nothing, length_nil] at long
  omega

theorem completes_iff (fits : Fits maxCheckpointBytes payload)
    (room : Room maxCheckpointLogBytes (log.getD []) payload) (durable : Bool)
    (stop : Option Stop) :
    completes payload durable stop log = true ↔
      (appendCheckpointRecord payload durable stop log).2 =
        some (log.getD [] ++ addition (log.getD []) payload) := by
  have undisturbed : appendCheckpointRecord payload durable none log =
      (.ok (), some (log.getD [] ++ addition (log.getD []) payload)) :=
    appendRecordLog_eq fits room durable
  simp [completes, undisturbed, Except.isOk, Except.toBool]

theorem Job.after_incomplete {durable : Bool} {stop : Option Stop}
    (incomplete : ¬ completes payload durable stop job.log = true) :
    job.after (.append payload durable stop) =
      ⟨(appendCheckpointRecord payload durable stop job.log).2, job.completed, job.interrupted ||
          decide ((appendCheckpointRecord payload durable stop job.log).2 ≠ job.log)⟩ := by
  simp only [Job.after, if_neg incomplete]

section

variable (ready : Ready job)

include ready

/-- The bytes that reach the log of a job are its header and then part of the frame. -/
theorem Ready.take_addition (payload : Bytes) (header : headerLength (job.log.getD []) ≤ written) :
    job.log.getD [] ++ (addition (job.log.getD []) payload).take written =
      image job.completed ++ (frame payload).take (written - headerLength (job.log.getD [])) := by
  obtain ⟨log, completed⟩ | log := ready.start
  · have empty : (job.log.getD []).length = 0 := by rw [log]; rfl
    rw [headerLength, if_pos empty] at header ⊢
    rw [addition, if_pos empty, take_append, take_of_length_le header, log, completed]
    simp [image]
  · have long : (job.log.getD []).length ≠ 0 := by
      have header := length_le_image job.completed
      rw [log, Option.getD_some]
      have magic : recordLogMagic.length = 5 := rfl
      omega
    rw [headerLength, addition, if_neg long, if_neg long, log]
    simp

theorem Ready.whole_addition (payload : Bytes) :
    job.log.getD [] ++ addition (job.log.getD []) payload = image (job.completed ++ [payload]) := by
  have long := length_addition_frame (job.log.getD []) payload
  have covered : headerLength (job.log.getD []) ≤ (addition (job.log.getD []) payload).length := by
    omega
  have taken := ready.take_addition payload covered
  rw [take_length, long, Nat.add_sub_cancel_left, take_length] at taken
  rw [taken, image_append]

section

variable (fits : Fits maxCheckpointBytes payload)
  (room : Room maxCheckpointLogBytes (job.log.getD []) payload)

include fits room

theorem Ready.kept_append : Kept ⟨some (job.log.getD [] ++ addition (job.log.getD []) payload),
      job.completed ++ [payload], job.interrupted⟩ payload [] where
  fit := by
    intro record member
    rcases mem_append.mp member with earlier | last
    · exact ready.fit record earlier
    · rw [mem_singleton.mp last]
      exact fits
  fits := fits
  part := nil_prefix
  cut := by
    rw [length_frame]
    simp only [length_nil]
    omega
  log := by rw [ready.whole_addition, append_nil]
  bounded := by
    have roomy := room.roomy
    rw [ready.whole_addition] at roomy
    rw [append_nil]
    exact roomy
  repaired := fun _ => rfl

theorem Ready.kept_torn (header : headerLength (job.log.getD []) ≤ written)
    (short : written < (addition (job.log.getD []) payload).length) {interrupted : Bool}
    (noted : interrupted = false → written = headerLength (job.log.getD [])) :
    Kept ⟨some (job.log.getD [] ++ (addition (job.log.getD []) payload).take written),
      job.completed, interrupted⟩ payload
      ((frame payload).take (written - headerLength (job.log.getD []))) where
  fit := ready.fit
  fits := fits
  part := take_prefix _ _
  cut := by
    have long := length_addition_frame (job.log.getD []) payload
    rw [length_take]
    omega
  log := by rw [ready.take_addition payload header]
  bounded := by
    have roomy := room.roomy
    rw [← ready.take_addition payload header]
    rw [length_append] at roomy ⊢
    rw [length_take]
    omega
  repaired := by
    intro unnoted
    rw [noted unnoted, Nat.sub_self, take_zero]

end

theorem Ready.eq_headerLength
    (unchanged : some (job.log.getD [] ++ (addition (job.log.getD []) payload).take written) =
      job.log) :
    written = headerLength (job.log.getD []) := by
  obtain ⟨log, -⟩ | log := ready.start
  · rw [log] at unchanged
    cases unchanged
  rw [log, Option.getD_some] at unchanged ⊢
  have nothing : (addition (image job.completed) payload).take written = [] :=
    append_right_eq_self.mp (Option.some.inj unchanged)
  have zero : written = 0 := by
    rcases take_eq_nil_iff.mp nothing with zero | empty
    · exact zero
    · exact absurd empty (addition_ne_nil _ _)
  have long : (image job.completed).length ≠ 0 :=
    Nat.ne_of_gt (Nat.lt_of_lt_of_le (by decide) (length_le_image job.completed))
  rw [zero, headerLength, if_neg long]

theorem Ready.sound : Sound job := by
  obtain ⟨log, completed⟩ | log := ready.start
  · exact .inl ⟨log, completed⟩
  have bounded := ready.bounded
  rw [log, Option.getD_some] at bounded
  -- no frame is torn; any record will do for the one that is not there
  refine .inr ⟨[0], [], ready.fit, ⟨by simp, by decide, by decide⟩, nil_prefix, by simp,
    ?_, ?_, fun _ => rfl⟩
  · rw [log, append_nil]
  · rw [append_nil]
    exact bounded

theorem Ready.after_refused (durable : Bool) (stop : Option Stop)
    (refused : ¬ (Fits maxCheckpointBytes payload ∧
      Room maxCheckpointLogBytes (job.log.getD []) payload)) :
    job.after (.append payload durable stop) = job := by
  obtain ⟨problem, failed⟩ := (appendRecordLog_refused durable none refused).1
  have incomplete : ¬ completes payload durable stop job.log = true := by
    simp [completes, appendCheckpointRecord, failed, Except.isOk, Except.toBool]
  have same : (appendCheckpointRecord payload durable stop job.log).2 = job.log := by
    rcases (appendRecordLog_refused durable stop refused).2 with same | ⟨fits, created⟩
    · exact same
    rw [appendCheckpointRecord, created]
    obtain ⟨log, -⟩ | log := ready.start
    · rw [log] at refused
      exact absurd ⟨fits, room_of_none fits⟩ refused
    · rw [log, Option.getD_some]
  simp only [Job.after, if_neg incomplete, same, ne_eq, not_true_eq_false, decide_false,
    Bool.or_false]

theorem Ready.after_append (durable : Bool) (stop : Option Stop)
    (whole : job.log.getD [] = [] → stop.all (fun stop => !stop.inHeader) = true) :
    Sound (job.after (.append payload durable stop)) := by
  by_cases accepted : Fits maxCheckpointBytes payload ∧
      Room maxCheckpointLogBytes (job.log.getD []) payload
  case neg =>
    rw [ready.after_refused durable stop accepted]
    exact ready.sound
  obtain ⟨fits, room⟩ := accepted
  have complete := completes_iff fits room durable stop
  by_cases done : completes payload durable stop job.log = true
  · simp only [Job.after, if_pos done, complete.mp done]
    exact .inr ⟨payload, [], ready.kept_append fits room⟩
  rw [Job.after_incomplete done]
  rw [complete] at done
  cases stop with
  | none => exact absurd (congrArg Prod.snd (appendRecordLog_eq fits room durable)) done
  | some stop =>
    cases stop with
    | opening =>
      have same : (appendCheckpointRecord payload durable (some .opening) job.log).2 = job.log := by
        rw [appendCheckpointRecord, appendRecordLog, if_neg fits.admitted]
      rw [same]
      simpa using ready.sound
    | writing written =>
      have wrote : (appendCheckpointRecord payload durable (some (.writing written))
          job.log).2 = _ := appendRecordLog_stopped fits room durable written
      have short : written < (addition (job.log.getD []) payload).length := by
        by_contra long
        rw [wrote, take_of_length_le (by omega)] at done
        exact done rfl
      have header : headerLength (job.log.getD []) ≤ written := by
        rw [headerLength]
        split_ifs with empty
        · simpa [Stop.inHeader] using whole (eq_nil_of_length_eq_zero empty)
        · exact Nat.zero_le _
      rw [wrote]
      refine .inr ⟨payload, _, ready.kept_torn fits room header short fun unnoted => ?_⟩
      have unchanged := (Bool.or_eq_false_iff.mp unnoted).2
      exact ready.eq_headerLength (by simpa using unchanged)

end

theorem Sound.after (sound : Sound job) {operation : Operation}
    (repaired : Repaired job operation) : Sound (job.after operation) := by
  cases operation with
  | append payload durable stop =>
    exact (sound.ready repaired.1).after_append durable stop repaired.2
  | read fault =>
    obtain ⟨log, completed⟩ | ⟨payload, torn, kept⟩ := sound
    · refine .inl ?_
      simp [Job.after, readCheckpointRecords, readRecordLog, log, completed]
    · exact kept.after_read fault

/-- A log can be read, gives the completed records, and takes another one after that. -/
theorem Sound.read (sound : Sound job) :
    ∃ records log, readCheckpointRecords none job.log = (.ok records, log) ∧
      records.getD [] = job.completed ∧ Ready ⟨log, job.completed, false⟩ := by
  obtain ⟨log, completed⟩ | ⟨payload, torn, kept⟩ := sound
  · refine ⟨none, none, ?_, ?_, ?_⟩
    · rw [log]
      rfl
    · rw [completed]
      rfl
    · exact ⟨by simp [completed], .inl ⟨rfl, completed⟩, Nat.zero_le _⟩
  · refine ⟨some job.completed, some (image job.completed), ?_, rfl, ?_⟩
    · rw [kept.read none]
      split_ifs <;> rfl
    · exact Sound.ready (.inr ⟨payload, [], kept.repair false⟩) rfl

/-- In a run in which no append follows one that was cut off before the log was read, and
no append is stopped while it writes the header, the log can be read, gives exactly the
records of the appends that completed, in order, and takes every further record for which
it has room. -/
theorem repaired_log_keeps_completed_records (operations : List Operation)
    (repaired : Trace.Along Job.after Repaired Job.fresh operations) :
    let job := operations.foldl Job.after Job.fresh
    ∃ records log, readCheckpointRecords none job.log = (.ok records, log) ∧
      records.getD [] = job.completed ∧
      ∀ payload durable, Fits maxCheckpointBytes payload →
        (image (job.completed ++ [payload])).length ≤ maxCheckpointLogBytes →
        appendCheckpointRecord payload durable none log =
          (.ok (), some (image (job.completed ++ [payload]))) := by
  have sound : Sound (operations.foldl Job.after Job.fresh) :=
    repaired.induction (fun _ _ repaired sound => sound.after repaired) (.inl ⟨rfl, rfl⟩)
  obtain ⟨records, log, read, exactly, ready⟩ := sound.read
  refine ⟨records, log, read, exactly, fun payload durable fits roomy => ?_⟩
  have added := ready.whole_addition payload
  have header : (log.getD []).length = 0 ∨ recordLogMagic.length ≤ (log.getD []).length := by
    obtain ⟨absent, -⟩ | whole := ready.start
    · exact .inl (by rw [show log = none from absent]; rfl)
    · right
      rw [show log = some _ from whole]
      exact length_le_image _
  have room : Room maxCheckpointLogBytes (log.getD []) payload :=
    ⟨header, by rw [added]; exact roomy⟩
  have appended := appendRecordLog_eq fits room durable
  rw [added] at appended
  exact appended

end Log

/-! ## Appends that are cut off -/

namespace Sample

/-- Frames whose digest is all zeros. -/
scoped instance zeros : Checksum where
  blake3 _ := List.replicate 32 0
  length_blake3 _ := length_replicate

/-- A first append is stopped inside the header. -/
def tornHeader : List Operation := [.append [7] true (some (.writing 3))]

/-- A record follows one that was cut off. -/
def tornFrame : List Operation :=
  [.append [7, 7] true (some (.writing 10)), .append [9] true none]

/-- The same, with a read in between. -/
def repairedFrame : List Operation :=
  [.append [7, 7] true (some (.writing 10)), .read none, .append [9] true none]

end Sample

open Sample in
/-- A record cut off and one after it, with a read between them. -/
theorem repairedFrame_keeps_completed_records : ∃ records log, readCheckpointRecords none
        (repairedFrame.foldl Job.after Job.fresh).log = (.ok records, log) ∧
      records.getD [] = [[9]] := by
  obtain ⟨records, log, read, exactly, -⟩ :=
    repaired_log_keeps_completed_records repairedFrame (by decide +kernel)
  exact ⟨records, log, read, exactly.trans (by decide +kernel)⟩

open Sample in
/-- A log whose header was cut off is not read and takes no record; and one in which a
record follows a torn frame is not read, so that the record that was completed is lost. -/
theorem cut_off_appends_lose_the_log :
    readCheckpointRecords none (tornHeader.foldl Job.after Job.fresh).log =
        (.error (.io "read record log header"), some [67, 86, 87]) ∧
      (appendCheckpointRecord [9] true none (tornHeader.foldl Job.after Job.fresh).log).1 =
        .error (.invalidState "truncated record log header") ∧
      (tornFrame.foldl Job.after Job.fresh).completed = [[9]] ∧
      (readCheckpointRecords none (tornFrame.foldl Job.after Job.fresh).log).1 =
        .error (.invalidState "checkpoint record checksum mismatch") := by
  decide +kernel

end Covalent.Backup.RecordLog
