import Covalent.Base.BigEndian
import Covalent.Base.Disk
import Covalent.Base.Machine
import Covalent.Sharing.Records

/-!
# The store of the sharing journal

The journal is kept in one authenticated record.  A replacement is staged next to it,
synced, renamed over it, and the directory is synced; a handle that lost track of a
replacement is not used again.  Opening the store removes what a cut off replacement
left behind and makes the record that survived durable.

## Design notes

**Publication.**  A replacement is published when the record's name moves to its file.
The machine notes each publication with the revision after the one it replaced and the
payload that was handed in; no function of the store reads these notes.

**One installation.**  The directory is private to the process that holds the
installation's lock, so nothing else changes the two names.  The checks of the
installation itself are calls that may fail.
-/

namespace Covalent.Engine

open Disk List Option

/-! ## Records -/

inductive EngineStateError where
  | unavailable
  | invalidState
  | invalidPayload
  | staleRevision
  | persistenceUncertain

abbrev Bytes := List UInt8

/-- A record; texts are their UTF-8 bytes. -/
structure Record (Wrapped : Type) where
  schemaVersion : Nat
  engineDeviceId : Bytes
  revision : Nat
  payload : Bytes
  authentication : Wrapped

/-- The parts of the record format that come from elsewhere: JSON, the digest and the
platform's key protector, which may salt what it wraps. -/
class RecordFormat where
  Wrapped : Type
  isJson : Bytes → Bool
  isUtf8 : Bytes → Bool
  sha256 : Bytes → Bytes
  protect : Nat → Bytes → Option Wrapped
  openSecret : Wrapped → Option Bytes
  toJson : Record Wrapped → Bytes
  fromJson : Bytes → Option (Record Wrapped)
  openSecret_protect : ∀ {salt secret wrapped},
    protect salt secret = some wrapped → openSecret wrapped = some secret
  fromJson_toJson : ∀ record, fromJson (toJson record) = some record

open RecordFormat

def maxPayload : Nat := 4 * 1024 * 1024
def maxRecord : Nat := 8 * 1024 * 1024

section Format

variable [RecordFormat]

/-- What the key protector wraps: the revision as eight bytes, and the digest of the payload. -/
def authenticationBytes (revision : Nat) (payload : Bytes) : Bytes :=
  BigEndian.encode 8 revision ++ sha256 payload

def validatePayload (payload : Bytes) : Except EngineStateError Unit := do
  refuse (payload.isEmpty || decide (maxPayload < payload.length)) .invalidPayload
  refuse (!isJson payload) .invalidPayload
  refuse (!isUtf8 payload) .invalidPayload

def encode (deviceId : Bytes) (salt revision : Nat) (payload : Bytes) :
    Except EngineStateError Bytes := do
  validatePayload payload
  let authentication ← okOr (protect salt (authenticationBytes revision payload)) .invalidState
  let bytes := toJson
    { schemaVersion := 1
      engineDeviceId := deviceId
      revision := revision
      payload := payload
      authentication := authentication }
  refuse (decide (maxRecord < bytes.length)) .invalidPayload
  pure bytes

def decode (deviceId : Bytes) (bytes : Bytes) : Except EngineStateError (Nat × Bytes) := do
  let record ← okOr (fromJson bytes) .invalidState
  refuse (record.schemaVersion != 1 || record.revision == 0 ||
    record.engineDeviceId != deviceId) .invalidState
  (validatePayload record.payload).mapError fun _ => .invalidState
  let opened ← okOr (openSecret record.authentication) .invalidState
  refuse (opened != authenticationBytes record.revision record.payload) .invalidState
  pure (record.revision, record.payload)

variable {deviceId payload bytes : Bytes} {salt revision : Nat}

theorem decode_encode
    (positive : 0 < revision) (encoded : encode deviceId salt revision payload = .ok bytes) :
    decode deviceId bytes = .ok (revision, payload) := by
  simp only [encode, bind_eq_ok, exists_unit, okOr_eq_ok, refuse_eq_ok, pure_eq_ok] at encoded
  obtain ⟨valid, wrapped, protectedBy, _, rfl⟩ := encoded
  have present : (revision == 0) = false := by
    rw [beq_eq_false_iff_ne]
    omega
  simp [decode, fromJson_toJson, okOr, bind, Except.bind, refuse, present, valid,
    openSecret_protect protectedBy, pure, Except.pure, Except.mapError]

theorem encode_length_le
    (encoded : encode deviceId salt revision payload = .ok bytes) : bytes.length ≤ maxRecord := by
  simp only [encode, bind_eq_ok, exists_unit, okOr_eq_ok, refuse_eq_ok,
    pure_eq_ok, decide_eq_false_iff_not, not_lt] at encoded
  obtain ⟨_, _, _, bounded, rfl⟩ := encoded
  exact bounded

end Format

/-! ## Operations -/

/-- The two names of the directory that the store uses. -/
inductive Entry where
  | record
  | staged
deriving DecidableEq

/-- The status of a file that nobody else can read. -/
def isPrivate (status : Status) : Bool :=
  status.regular && status.owned && status.mode == 0o600 && status.links == 1

/-- A program of the store. -/
abbrev StoreIo := Io Entry EngineStateError

/-- The installation is still the one that was locked. -/
def revalidateInstallation (error : EngineStateError) : StoreIo Unit :=
  observe error fun _ => some ()

/-- Whether the record's name stands for a private file of bounded length. -/
def currentEntry (volume : Volume Entry) (number : Nat) : Bool :=
  volume.names .record == some number && isPrivate (volume.files number).status &&
    decide ((volume.files number).bytes.length ≤ maxRecord)

def openFile (error : EngineStateError) : StoreIo Nat :=
  observe error fun volume =>
    (volume.names .record).filter fun number => currentEntry volume number

def readAll (error : EngineStateError) (number : Nat) : StoreIo Bytes :=
  observe error fun volume =>
    if currentEntry volume number then some (volume.files number).bytes else none

def syncAll (error : EngineStateError) (number : Nat) : StoreIo Unit := do
  observe error fun volume => if currentEntry volume number then some () else none
  syncFile error number

/-- A handle on the record as it was last seen. -/
structure Handle where
  current : Nat
  digest : Bytes
  revision : Nat
  payload : Bytes
  uncertain : Bool

/-- Whether the staged name still stands for a file. -/
def isCurrent (volume : Volume Entry) (number : Nat) : Bool :=
  volume.names .staged == some number && (volume.files number).status.links == 1 &&
    (volume.files number).status.regular

/-- Whether a leftover may be removed. -/
def isRemnant (file : File) : Bool :=
  file.status.regular && file.status.mode % 0o1000 == 0o600 && file.status.links == 1 &&
    file.status.owned && decide (file.bytes.length ≤ maxRecord)

/-- Remove what a cut off replacement staged.  It is never promoted. -/
def reconcileStagedRecord : StoreIo Unit := do
  observe .unavailable fun _ => some ()
  revalidateInstallation .unavailable
  match ← observe .invalidState fun volume => some (volume.names .staged) with
  | none => pure ()
  | some number =>
    let file ← observe .invalidState fun volume => some (volume.files number)
    decided (refuse (!isRemnant file) .invalidState)
    observe .invalidState fun volume => if isCurrent volume number then some () else none
    revalidateInstallation .unavailable
    unlink .persistenceUncertain .staged
    syncDirectory .persistenceUncertain

section Store

variable [RecordFormat] (deviceId : Bytes)

def openStore : StoreIo Handle := do
  revalidateInstallation .unavailable
  let current ← openFile .invalidState
  let bytes ← readAll .invalidState current
  let (revision, payload) ← decided (decode deviceId bytes)
  reconcileStagedRecord
  -- The rename that made this record current may not have reached the disk.
  syncAll .persistenceUncertain current
  syncDirectory .persistenceUncertain
  let again ← readAll .persistenceUncertain current
  decided (refuse (again != bytes) .persistenceUncertain)
  revalidateInstallation .unavailable
  pure
    { current := current
      digest := sha256 bytes
      revision := revision
      payload := payload
      uncertain := false }

section

variable (salt : Nat) (handle : Handle) (payload : Bytes)

def createStore : StoreIo Handle := do
  revalidateInstallation .unavailable
  let bytes ← decided (encode deviceId salt 1 payload)
  let number ← create .persistenceUncertain .record 0o600
  observe .persistenceUncertain fun _ => some ()
  writeAll .persistenceUncertain number bytes
  syncFile .persistenceUncertain number
  syncDirectory .persistenceUncertain
  let _ ← openFile .persistenceUncertain
  openStore deviceId

def Handle.revalidate : StoreIo Unit := do
  decided (refuse handle.uncertain .persistenceUncertain)
  revalidateInstallation .unavailable
  let bytes ← readAll .staleRevision handle.current
  decided (refuse (sha256 bytes != handle.digest) .staleRevision)

def Handle.readPayload : StoreIo Bytes := do
  handle.revalidate
  pure handle.payload

/-- The part of a replacement before anything is written. -/
def prepare : StoreIo Bytes := do
  handle.revalidate
  let revision ← decided (okOr (checkedAdd handle.revision 1) .invalidState)
  let bytes ← decided (encode deviceId salt revision payload)
  observe .unavailable fun _ => some ()
  revalidateInstallation .unavailable
  pure bytes

/-- Remove a staged file that was not promoted. -/
def dropStaged (number : Nat) : StoreIo Unit := do
  if ← observe .persistenceUncertain fun volume => some (isCurrent volume number) then
    let _ ← (attempt (unlink .persistenceUncertain .staged) :
      StoreIo (Except EngineStateError Unit))
    syncDirectory .persistenceUncertain
  else pure ()

/-- Fill the staged file and rename it over the record. -/
def promote (number : Nat) (bytes : Bytes) : StoreIo Unit := do
  observe .persistenceUncertain fun _ => some ()
  writeAll .persistenceUncertain number bytes
  syncFile .persistenceUncertain number
  let current ← readAll .persistenceUncertain handle.current
  decided (refuse (sha256 current != handle.digest) .persistenceUncertain)
  revalidateInstallation .persistenceUncertain
  observe .persistenceUncertain fun volume => if isCurrent volume number then some () else none
  rename .persistenceUncertain .staged .record

/-- The part of a replacement whose failure leaves the handle uncertain. -/
def publish (bytes : Bytes) : StoreIo Nat := do
  let number ← create .persistenceUncertain .staged 0o600
  observe .persistenceUncertain fun _ => some ()
  guarded (promote handle number bytes) (dropStaged number)
  syncDirectory .persistenceUncertain
  let next ← openFile .persistenceUncertain
  let readback ← readAll .persistenceUncertain next
  decided (refuse (readback != bytes) .persistenceUncertain)
  revalidateInstallation .persistenceUncertain
  pure next

/-- Replace the record; the handle is changed whether or not the call succeeds. -/
def replaceAtBoundaries : StoreIo (Handle × Except EngineStateError Unit) := do
  match ← (attempt (prepare deviceId salt handle payload) :
      StoreIo (Except EngineStateError Bytes)) with
  | .error error => pure (handle, .error error)
  | .ok bytes =>
    match ← (attempt (publish handle bytes) : StoreIo (Except EngineStateError Nat)) with
    | .error error => pure ({ handle with uncertain := true }, .error error)
    | .ok next =>
      pure (
        { current := next
          digest := sha256 bytes
          revision := handle.revision + 1
          payload := payload
          uncertain := false }, .ok ())

end

end Store

/-! ## What a call leaves behind -/

/-- The directories of a volume name existing files, and a staged file is private, bounded
and not the record. -/
structure DirectoriesSound (volume : Volume Entry) : Prop where
  record : ∀ directory ∈ volume.directories, ∀ number,
    directory .record = some number → number < volume.next
  staged : ∀ directory ∈ volume.directories, ∀ number, directory .staged = some number →
    number < volume.next ∧ directory .record ≠ some number ∧
      isPrivate (volume.files number).status = true ∧
      (volume.files number).bytes.length ≤ maxRecord

/-- The volume has only grown: files that were safe are as they were. -/
structure Extends (before after : Volume Entry) : Prop where
  sound : DirectoriesSound after
  next : before.next ≤ after.next
  files : ∀ number < before.next, (before.files number).synced = true →
    after.files number = before.files number

/-- The record was not moved, and no other record can come back. -/
structure Keeps (before after : Volume Entry) : Prop extends Extends before after where
  live : after.names .record = before.names .record
  records : ∀ directory ∈ after.directories, ∃ known ∈ before.directories,
    directory .record = known .record

/-- The record was moved to a new file; an older record may come back. -/
structure Publishes (before after : Volume Entry) (number : Nat) : Prop
    extends Extends before after where
  live : after.names .record = some number
  fresh : before.next ≤ number
  records : ∀ directory ∈ after.directories, directory .record = some number ∨
    ∃ known ∈ before.directories, directory .record = known .record

/-- Only one record can come back. -/
def Settled (volume : Volume Entry) (number : Nat) : Prop :=
  ∀ directory ∈ volume.directories, directory .record = some number

theorem Keeps.refl {volume : Volume Entry} (sound : DirectoriesSound volume) :
    Keeps volume volume where
  sound := sound
  next := le_rfl
  files := fun _ _ _ => rfl
  live := rfl
  records := fun directory mem => ⟨directory, mem, rfl⟩

section Calls

variable {start volume after : Volume Entry} {number : Nat}

variable {file : File}

theorem DirectoriesSound.setFile (sound : DirectoriesSound volume)
    (status : file.status = (volume.files number).status)
    (bounded : (volume.files number).bytes.length ≤ maxRecord → file.bytes.length ≤ maxRecord) :
    DirectoriesSound (volume.setFile number file) where
  record := sound.record
  staged := by
    intro directory mem named bound
    obtain ⟨old, different, isPrivate, small⟩ := sound.staged directory mem named bound
    refine ⟨old, different, ?_⟩
    by_cases same : named = number
    · subst same
      simpa [Volume.setFile, status] using ⟨isPrivate, bounded small⟩
    · simpa [Volume.setFile, Function.update_of_ne same] using ⟨isPrivate, small⟩

theorem DirectoriesSound.syncDirectory (sound : DirectoriesSound volume) :
    DirectoriesSound volume.syncDirectory := by
  have fewer : ∀ directory ∈ volume.syncDirectory.directories, directory ∈ volume.directories := by
    intro directory mem
    rw [mem_singleton.mp mem]
    exact mem_cons_self
  exact ⟨fun directory mem => sound.record directory (fewer directory mem),
    fun directory mem => sound.staged directory (fewer directory mem)⟩

theorem settled_syncDirectory (live : volume.names .record = some number) :
    Settled volume.syncDirectory number := by
  intro directory mem
  rw [mem_singleton.mp mem]
  exact live

theorem DirectoriesSound.relink (sound : DirectoriesSound volume) {names : Directory Entry}
    (record : ∀ number, names .record = some number → number < volume.next)
    (staged : ∀ number, names .staged = some number → number < volume.next ∧
      names .record ≠ some number ∧ isPrivate (volume.files number).status = true ∧
      (volume.files number).bytes.length ≤ maxRecord) :
    DirectoriesSound (volume.relink names) where
  record := by
    exact forall_mem_cons.mpr ⟨record, sound.record⟩
  staged := by
    exact forall_mem_cons.mpr ⟨staged, sound.staged⟩

/-- A new file that no name stands for yet. -/
theorem DirectoriesSound.grow (sound : DirectoriesSound volume) :
    DirectoriesSound { volume.setFile volume.next file with next := volume.next + 1 } where
  record := fun directory mem known bound =>
    Nat.lt_succ_of_lt (sound.record directory mem known bound)
  staged := by
    intro directory mem known bound
    obtain ⟨old, different, small⟩ := sound.staged directory mem known bound
    refine ⟨Nat.lt_succ_of_lt old, different, ?_⟩
    simpa [Volume.setFile, Function.update_of_ne old.ne] using small

/-- A new staged file, with what has been written to it so far. -/
structure Staging (start volume : Volume Entry) (number : Nat) (file : File) : Prop where
  keeps : Keeps start volume
  named : volume.names .staged = some number
  fresh : start.next ≤ number
  old : number < volume.next
  holds : volume.files number = file
  status : file.status = .created 0o600
  bounded : file.bytes.length ≤ maxRecord

section

variable (keeps : Keeps start volume)

include keeps

theorem Keeps.setFile (status : file.status = (volume.files number).status)
    (bounded : (volume.files number).bytes.length ≤ maxRecord → file.bytes.length ≤ maxRecord)
    (harmless : number < start.next → (start.files number).synced = true →
      file = volume.files number) : Keeps start (volume.setFile number file) where
  sound := keeps.sound.setFile status bounded
  next := keeps.next
  files := by
    intro known old synced
    rw [← keeps.files known old synced]
    by_cases same : known = number
    · subst same
      simp [Volume.setFile, harmless old synced]
    · simp [Volume.setFile, Function.update_of_ne same]
  live := keeps.live
  records := keeps.records

theorem Keeps.syncFile : Keeps start (volume.syncFile number) := by
  refine keeps.setFile rfl id fun old synced => ?_
  have same := keeps.files number old synced
  rw [← same] at synced
  cases file : volume.files number with
  | mk bytes status flag =>
    rw [file] at synced
    exact congrArg (File.mk bytes status) synced.symm

theorem Keeps.append (fresh : start.next ≤ number) {bytes : Bytes}
    (bounded : (volume.files number).bytes.length + bytes.length ≤ maxRecord) :
    Keeps start (volume.append number bytes) := by
  refine keeps.setFile rfl (fun _ => ?_) fun old _ => absurd old (by omega)
  simpa using bounded

theorem Keeps.syncDirectory : Keeps start volume.syncDirectory where
  sound := keeps.sound.syncDirectory
  next := keeps.next
  files := keeps.files
  live := keeps.live
  records := by
    intro directory mem
    rw [mem_singleton.mp mem]
    exact keeps.records _ mem_cons_self

/-- Only the staged name is changed. -/
theorem Keeps.relink {names : Directory Entry} (record : names .record = volume.names .record)
    (staged : ∀ number, names .staged = some number → number < volume.next ∧
      names .record ≠ some number ∧ isPrivate (volume.files number).status = true ∧
      (volume.files number).bytes.length ≤ maxRecord) : Keeps start (volume.relink names) := by
  refine ⟨⟨keeps.sound.relink ?_ staged, keeps.next, keeps.files⟩, record.trans keeps.live, ?_⟩
  · rw [record]
    exact keeps.sound.record _ mem_cons_self
  · refine forall_mem_cons.mpr ⟨?_, keeps.records⟩
    obtain ⟨known, mem, same⟩ := keeps.records _ mem_cons_self
    exact ⟨known, mem, record.trans same⟩

theorem Keeps.unlink (removed : volume.unlink .staged = some after) : Keeps start after := by
  obtain ⟨_, _, rfl⟩ := map_eq_some_iff.mp removed
  refine keeps.relink (Function.update_of_ne (by decide) _ _) fun number bound => ?_
  cases bound

theorem Keeps.grow :
    Keeps start { volume.setFile volume.next file with next := volume.next + 1 } where
  sound := keeps.sound.grow
  next := le_trans keeps.next (Nat.le_succ _)
  files := by
    intro known old synced
    rw [← keeps.files known old synced]
    exact Function.update_of_ne (lt_of_lt_of_le old keeps.next).ne _ _
  live := keeps.live
  records := keeps.records

theorem Staging.create (created : volume.create .staged 0o600 = some (number, after)) :
    Staging start after number ⟨[], .created 0o600, false⟩ := by
  obtain ⟨rfl, -, rfl⟩ := Volume.create_eq_some created
  have recordKept : Function.update volume.names .staged (some volume.next) .record =
      volume.names .record := Function.update_of_ne (by decide) _ _
  refine ⟨keeps.grow.relink recordKept ?_, Function.update_self Entry.staged _ volume.names,
    keeps.next, Nat.lt_succ_self _, Function.update_self volume.next _ volume.files, rfl,
    Nat.zero_le _⟩
  intro known bound
  cases bound
  refine ⟨Nat.lt_succ_self _, fun same => ?_, ?_⟩
  · exact absurd (keeps.sound.record _ mem_cons_self _ same) (lt_irrefl _)
  · simp only [Volume.setFile, Function.update_self]
    exact ⟨rfl, Nat.zero_le _⟩

end

theorem Staging.append {file : File} (staging : Staging start volume number file) {bytes : Bytes}
    (bounded : file.bytes.length + bytes.length ≤ maxRecord) :
    Staging start (volume.append number bytes) number
      ⟨file.bytes ++ bytes, file.status, false⟩ where
  keeps := staging.keeps.append staging.fresh (by rw [staging.holds]; exact bounded)
  named := staging.named
  fresh := staging.fresh
  old := staging.old
  holds := by simp [Volume.append, Volume.setFile, staging.holds]
  status := staging.status
  bounded := by simpa using bounded

theorem Staging.syncFile (staging : Staging start volume number file) :
    Staging start (volume.syncFile number) number { file with synced := true } where
  keeps := staging.keeps.syncFile
  named := staging.named
  fresh := staging.fresh
  old := staging.old
  holds := by simp [Volume.syncFile, Volume.setFile, staging.holds]
  status := staging.status
  bounded := staging.bounded

/-- A published file: new, safe, and the record. -/
structure Published (start volume : Volume Entry) (number : Nat) (bytes : Bytes) : Prop where
  publishes : Publishes start volume number
  file : volume.files number = ⟨bytes, .created 0o600, true⟩
  old : number < volume.next

variable {bytes : Bytes}

theorem Staging.rename (staging : Staging start volume number ⟨bytes, .created 0o600, true⟩)
    (renamed : volume.rename .staged .record = some after) :
    Published start after number bytes := by
  rw [Volume.rename, staging.named] at renamed
  cases renamed
  have recordMoved : Function.update (Function.update volume.names Entry.staged none) .record
      (some number) .record = some number := Function.update_self _ _ _
  have stagedGone : Function.update (Function.update volume.names Entry.staged none) .record
      (some number) .staged = none := by
    rw [Function.update_of_ne (by decide), Function.update_self]
  refine ⟨⟨⟨staging.keeps.sound.relink ?_ ?_, staging.keeps.next, staging.keeps.files⟩,
    recordMoved, staging.fresh, ?_⟩, staging.holds, staging.old⟩
  · intro known bound
    exact some.inj bound ▸ staging.old
  · intro known bound
    cases bound
  · exact forall_mem_cons.mpr
      ⟨.inl recordMoved, fun directory mem => .inr (staging.keeps.records directory mem)⟩

theorem Published.syncDirectory (published : Published start volume number bytes) :
    Published start volume.syncDirectory number bytes where
  publishes :=
    { sound := published.publishes.sound.syncDirectory
      next := published.publishes.next
      files := published.publishes.files
      live := published.publishes.live
      fresh := published.publishes.fresh
      records := by
        intro directory mem
        rw [mem_singleton.mp mem]
        exact .inl published.publishes.live }
  file := published.file
  old := published.old

end Calls

/-! ## What each operation leaves behind -/

section Triples

variable {faulty : Prop} {start volume : Volume Entry} {number : Nat}

theorem isRemnant_of_isPrivate {file : File} (status : isPrivate file.status = true)
    (bounded : file.bytes.length ≤ maxRecord) : isRemnant file = true := by
  simp only [isPrivate, Bool.and_eq_true, beq_iff_eq] at status
  obtain ⟨⟨⟨regular, owned⟩, mode⟩, links⟩ := status
  simp [isRemnant, regular, owned, mode, links, bounded]

theorem currentEntry_eq_true :
    currentEntry volume number = true ↔ volume.names .record = some number ∧
      isPrivate (volume.files number).status = true ∧
      (volume.files number).bytes.length ≤ maxRecord := by
  simp only [currentEntry, Bool.and_eq_true, beq_iff_eq, decide_eq_true_eq, and_assoc]

theorem reconcileStagedRecord_triple (keeps : Keeps start volume) :
    Triple faulty reconcileStagedRecord volume (fun _ after => Keeps start after)
      (fun _ after => faulty ∧ Keeps start after) := by
  have interrupted : faulty → Stop EngineStateError → faulty ∧ Keeps start volume :=
    fun faults _ => ⟨faults, keeps⟩
  refine triple_seen rfl interrupted (triple_seen rfl interrupted (triple_seen rfl interrupted ?_))
  cases staged : volume.names .staged with
  | none => exact triple_pure keeps
  | some leftover =>
    obtain ⟨_, _, status, bounded⟩ := keeps.sound.staged _ mem_cons_self leftover staged
    refine triple_seen rfl interrupted ?_
    rw [isRemnant_of_isPrivate status bounded]
    refine triple_bind (triple_decided (fun _ _ => ?_) nofun)
    have current : isCurrent volume leftover = true := by
      simp only [isPrivate, Bool.and_eq_true, beq_iff_eq] at status
      simp [isCurrent, staged, status]
    refine triple_seen (if_pos current) interrupted (triple_seen rfl interrupted ?_)
    refine triple_bind (triple_unlink (fun after removed => ?_) ?_ interrupted)
    · have left := keeps.unlink removed
      exact triple_syncDirectory left.syncDirectory fun faults _ => ⟨faults, left⟩
    · rw [staged]
      exact nofun

theorem dropStaged_triple (keeps : Keeps start volume) :
    Triple faulty (dropStaged number) volume (fun _ after => Keeps start after)
      (fun _ after => Keeps start after) := by
  refine triple_observed (fun _ => keeps) fun current _ => ?_
  cases current with
  | false => exact triple_pure keeps
  | true =>
    refine triple_bind (triple_attempt (triple_unlink (fun after removed => ?_) ?_ ?_))
    · have left := keeps.unlink removed
      exact triple_syncDirectory left.syncDirectory fun _ _ => left
    · exact fun _ => triple_syncDirectory keeps.syncDirectory fun _ _ => keeps
    · intro _ stop
      cases stop with
      | failed error => exact triple_syncDirectory keeps.syncDirectory fun _ _ => keeps
      | crashed => exact keeps

section Replacing

variable [RecordFormat] {handle : Handle} {bytes : Bytes}

theorem promote_triple (staging : Staging start volume number ⟨[], .created 0o600, false⟩)
    (bounded : bytes.length ≤ maxRecord) :
    Triple faulty (promote handle number bytes) volume
      (fun _ after => Published start after number bytes) (fun _ after => Keeps start after) := by
  refine triple_observed (fun _ => staging.keeps) fun _ _ => ?_
  refine triple_bind (triple_writeAll ?_ fun _ written _ => ?_)
  · have written : Staging start (volume.append number bytes) number
        ⟨bytes, .created 0o600, false⟩ := staging.append (by simpa using bounded)
    refine triple_bind (triple_syncFile ?_ fun _ _ => written.keeps)
    have synced := written.syncFile
    refine triple_observed (fun _ => synced.keeps) fun _ _ => ?_
    refine triple_bind (triple_decided (fun _ _ => ?_) fun _ _ => synced.keeps)
    refine triple_observed (fun _ => synced.keeps) fun _ _ => ?_
    refine triple_observed (fun _ => synced.keeps) fun _ _ => ?_
    exact triple_rename (fun after renamed => synced.rename renamed) (fun _ => synced.keeps)
      fun _ _ => synced.keeps
  · refine (staging.append ?_).keeps
    simp only [length_nil, length_take, Nat.zero_add]
    omega

/-- A replacement that does not return has either left the record alone or published. -/
theorem publish_triple (sound : DirectoriesSound volume) (bounded : bytes.length ≤ maxRecord) :
    Triple faulty (publish handle bytes) volume
      (fun next after => Published volume after next bytes ∧ Settled after next)
      (fun _ after => Keeps volume after ∨ ∃ next, Published volume after next bytes) := by
  have untouched : Keeps volume volume := Keeps.refl sound
  refine triple_bind (triple_create (fun number staged created => ?_) (fun _ => .inl untouched)
    fun _ _ => .inl untouched)
  have staging := Staging.create untouched created
  refine triple_observed (fun _ => .inl staging.keeps) fun _ _ => ?_
  refine triple_bind (triple_guarded ((promote_triple staging bounded).imp ?_ ?_))
  · intro _ moved published
    refine triple_bind (triple_syncDirectory ?_ fun _ _ => .inr ⟨number, published⟩)
    have durable := published.syncDirectory
    have settled : Settled moved.syncDirectory number :=
      settled_syncDirectory published.publishes.live
    have stopped : Keeps volume moved.syncDirectory ∨
        ∃ next, Published volume moved.syncDirectory next bytes := .inr ⟨number, durable⟩
    refine triple_observed (fun _ => stopped) fun next opened => ?_
    -- The name was just moved there.
    obtain rfl : number = next := by
      have named := (filter_eq_some_iff.mp opened).1
      rw [durable.publishes.live] at named
      exact some.inj named
    refine triple_observed (fun _ => stopped) fun _ _ => ?_
    refine triple_bind (triple_decided (fun _ _ => ?_) fun _ _ => stopped)
    refine triple_observed (fun _ => stopped) fun _ _ => ?_
    exact triple_pure ⟨durable, settled⟩
  · intro stop left keeps
    cases stop with
    | crashed => exact .inl keeps
    | failed error =>
      refine (dropStaged_triple keeps).imp (fun _ cleaned kept => .inl kept) ?_
      intro stop cleaned kept
      cases stop with
      | failed _ => exact .inl kept
      | crashed => exact .inl kept

end Replacing

end Triples

/-! ## Published records -/

/-- A record that was published: its file, its revision and its payload. -/
structure Publication where
  number : Nat
  revision : Nat
  payload : Bytes

section Soundness

variable [RecordFormat] (deviceId : Bytes)

/-- A file holds a published record and cannot lose it. -/
structure Held (volume : Volume Entry) (publication : Publication) : Prop where
  encoded : ∃ salt, encode deviceId salt publication.revision publication.payload =
    .ok (volume.files publication.number).bytes
  status : isPrivate (volume.files publication.number).status = true
  synced : (volume.files publication.number).synced = true
  positive : 0 < publication.revision
  old : publication.number < volume.next

/-- The record is the last publication or the one it replaced, whatever comes back. -/
structure VolumeSound (volume : Volume Entry) (latest replaced : Publication) : Prop where
  directories : DirectoriesSound volume
  latestHeld : Held deviceId volume latest
  replacedHeld : Held deviceId volume replaced
  record : ∀ directory ∈ volume.directories, directory .record = some latest.number ∨
    directory .record = some replaced.number

def Handle.Shows (handle : Handle) (publication : Publication) : Prop :=
  handle.current = publication.number ∧ handle.revision = publication.revision ∧
    handle.payload = publication.payload

variable {deviceId} {volume after : Volume Entry} {latest replaced publication : Publication}

section

variable (held : Held deviceId volume publication)

include held

theorem Held.of_same (next : volume.next ≤ after.next)
    (same : after.files publication.number = volume.files publication.number) :
    Held deviceId after publication := by
  refine ⟨?_, ?_, ?_, held.positive, lt_of_lt_of_le held.old next⟩
  · rw [same]
    exact held.encoded
  · rw [same]
    exact held.status
  · rw [same]
    exact held.synced

theorem Held.mono (extends' : Extends volume after) : Held deviceId after publication :=
  held.of_same extends'.next (extends'.files publication.number held.old held.synced)

theorem Held.decode : decode deviceId (volume.files publication.number).bytes =
      .ok (publication.revision, publication.payload) := by
  obtain ⟨salt, encoded⟩ := held.encoded
  exact decode_encode held.positive encoded

theorem Held.currentEntry (live : volume.names .record = some publication.number) :
    currentEntry volume publication.number = true := by
  obtain ⟨salt, encoded⟩ := held.encoded
  exact currentEntry_eq_true.mpr ⟨live, held.status, encode_length_le encoded⟩

end

theorem VolumeSound.keeps (sound : VolumeSound deviceId volume latest replaced)
    (keeps : Keeps volume after) : VolumeSound deviceId after latest replaced where
  directories := keeps.sound
  latestHeld := sound.latestHeld.mono keeps.toExtends
  replacedHeld := sound.replacedHeld.mono keeps.toExtends
  record := by
    intro directory mem
    obtain ⟨known, found, same⟩ := keeps.records directory mem
    rw [same]
    exact sound.record known found

/-- Opening shows the record that is there and makes it the only one that can come back. -/
theorem openStore_held_triple {faulty : Prop} (sound : DirectoriesSound volume)
    (held : Held deviceId volume publication)
    (live : volume.names .record = some publication.number) :
    Triple faulty (openStore deviceId) volume
      (fun handle after => Keeps volume after ∧ handle.uncertain = false ∧
        handle.Shows publication ∧ Settled after publication.number)
      (fun _ after => faulty ∧ Keeps volume after) := by
  have untouched : Keeps volume volume := .refl sound
  have interrupted : faulty → Stop EngineStateError → faulty ∧ Keeps volume volume :=
    fun faults _ => ⟨faults, untouched⟩
  have current := held.currentEntry live
  have opened : (volume.names .record).filter (currentEntry volume) = some publication.number := by
    rw [live, filter_some, if_pos current]
  refine triple_seen rfl interrupted (triple_seen opened interrupted ?_)
  refine triple_seen (if_pos current) interrupted ?_
  rw [held.decode]
  refine triple_bind (triple_decided (fun decoded result => ?_) nofun)
  cases result
  refine triple_bind ((reconcileStagedRecord_triple untouched).imp
    (fun _ cleaned keeps => ?_) fun _ _ stopped => stopped)
  -- From here the record is synced in place; its bytes do not change.
  have heldCleaned := held.mono keeps.toExtends
  have liveCleaned : cleaned.names .record = some publication.number := keeps.live.trans live
  have stopped : faulty → Stop EngineStateError → faulty ∧ Keeps volume cleaned :=
    fun faults _ => ⟨faults, keeps⟩
  refine triple_bind (triple_seen (if_pos (heldCleaned.currentEntry liveCleaned)) stopped ?_)
  refine triple_syncFile ?_ stopped
  have keepsFile : Keeps volume (cleaned.syncFile publication.number) := keeps.syncFile
  refine triple_bind (triple_syncDirectory ?_ fun faults _ => ⟨faults, keepsFile⟩)
  have durable := keepsFile.syncDirectory
  have heldDurable := held.mono durable.toExtends
  have liveDurable := durable.live.trans live
  have stopped : faulty → Stop EngineStateError → faulty ∧ _ := fun faults _ => ⟨faults, durable⟩
  refine triple_seen (if_pos (heldDurable.currentEntry liveDurable)) stopped ?_
  rw [durable.files publication.number held.old held.synced, bne_self_eq_false]
  refine triple_bind (triple_decided (fun _ _ => ?_) nofun)
  refine triple_seen rfl stopped ?_
  exact triple_pure ⟨durable, rfl, ⟨rfl, rfl, rfl⟩, settled_syncDirectory liveDurable⟩

/-- What a replacement has established when it starts to write. -/
structure Prepared (deviceId : Bytes) (volume : Volume Entry) (handle : Handle)
    (payload bytes : Bytes) : Prop where
  certain : handle.uncertain = false
  live : volume.names .record = some handle.current
  encoded : ∃ salt, encode deviceId salt (handle.revision + 1) payload = .ok bytes

variable {salt : Nat} {handle : Handle} {payload : Bytes}

variable {faulty : Prop}

theorem prepare_triple : Triple faulty (prepare deviceId salt handle payload) volume
      (fun bytes after => after = volume ∧ Prepared deviceId volume handle payload bytes)
      (fun _ after => after = volume) := by
  refine triple_bind (triple_bind (triple_decided (fun _ certain => ?_) fun _ _ => rfl))
  refine triple_observed (fun _ => rfl) fun _ _ => ?_
  refine triple_observed (fun _ => rfl) fun current read => ?_
  refine triple_decided (fun _ _ => ?_) fun _ _ => rfl
  refine triple_bind (triple_decided (fun revision added => ?_) fun _ _ => rfl)
  refine triple_bind (triple_decided (fun bytes encoded => ?_) fun _ _ => rfl)
  refine triple_observed (fun _ => rfl) fun _ _ => ?_
  refine triple_observed (fun _ => rfl) fun _ _ => ?_
  have next : revision = handle.revision + 1 := by
    have fits := checkedAdd_eq_some.mp (okOr_eq_ok.mp added)
    omega
  rw [next] at encoded
  refine triple_pure ⟨rfl, refuse_eq_ok.mp certain, ?_, salt, encoded⟩
  by_contra moved
  have stale : currentEntry volume handle.current ≠ true := fun current =>
    moved (currentEntry_eq_true.mp current).1
  rw [if_neg stale] at read
  cases read

/-- What a replacement may leave once it has started to write. -/
def Replaces (deviceId : Bytes) (volume after : Volume Entry) (handle : Handle)
    (payload : Bytes) : Prop :=
  ∃ bytes, Prepared deviceId volume handle payload bytes ∧
    (Keeps volume after ∨ ∃ next, Published volume after next bytes)

/-- How a replacement returns: it was refused and changed nothing, it lost track and the
handle is uncertain, or it is published and cannot be lost. -/
inductive Returns (deviceId : Bytes) (volume after : Volume Entry) (handle : Handle)
    (payload : Bytes) : Handle × Except EngineStateError Unit → Prop
  | refused (error : EngineStateError) (unchanged : after = volume) :
      Returns deviceId volume after handle payload (handle, .error error)
  | lost (error : EngineStateError) (replaces : Replaces deviceId volume after handle payload) :
      Returns deviceId volume after handle payload ({ handle with uncertain := true }, .error error)
  | completed (next : Nat) (bytes : Bytes)
      (prepared : Prepared deviceId volume handle payload bytes)
      (published : Published volume after next bytes) (settled : Settled after next) :
      Returns deviceId volume after handle payload
        ({ current := next
           digest := RecordFormat.sha256 bytes
           revision := handle.revision + 1
           payload := payload
           uncertain := false }, .ok ())

theorem replaceAtBoundaries_triple (sound : DirectoriesSound volume) :
    Triple faulty (replaceAtBoundaries deviceId salt handle payload) volume
      (fun returned after => Returns deviceId volume after handle payload returned)
      (fun _ after => after = volume ∨ Replaces deviceId volume after handle payload) := by
  refine triple_bind (triple_attempt (prepare_triple.imp ?_ ?_))
  · rintro bytes _ ⟨rfl, prepared⟩
    obtain ⟨salt, encoded⟩ := prepared.encoded
    refine triple_bind
      (triple_attempt ((publish_triple sound (encode_length_le encoded)).imp ?_ ?_))
    · rintro next after ⟨published, settled⟩
      exact triple_pure (.completed next bytes prepared published settled)
    · intro stop after left
      cases stop with
      | failed error => exact triple_pure (.lost error ⟨bytes, prepared, left⟩)
      | crashed => exact .inr ⟨bytes, prepared, left⟩
  · rintro stop _ rfl
    cases stop with
    | failed error => exact triple_pure (.refused error rfl)
    | crashed => exact .inl rfl

theorem replaceAtBoundaries_of_uncertain
    (uncertain : handle.uncertain = true) (session : Session Entry) :
    replaceAtBoundaries deviceId salt handle payload session =
      .ok (handle, .error .persistenceUncertain) session := by
  have refused : prepare deviceId salt handle payload session =
      .error (.failed .persistenceUncertain) session := by
    rw [prepare, Handle.revalidate, uncertain]
    rfl
  show EStateM.bind (attempt (prepare deviceId salt handle payload)) _ session = _
  rw [EStateM.bind, attempt, refused]
  rfl

theorem readPayload_of_uncertain (uncertain : handle.uncertain = true) (session : Session Entry) :
    handle.readPayload session = .error (.failed .persistenceUncertain) session := by
  rw [Handle.readPayload, Handle.revalidate, uncertain]
  rfl

end Soundness

/-! ## Whole runs -/

/-- The directory, the handles of the process, the last publication and the one that it
replaced. -/
structure System where
  volume : Volume Entry
  handles : List Handle
  latest : Publication
  replaced : Publication

/-- The publication that is the record now. -/
def System.current (system : System) : Publication :=
  if system.volume.names .record = some system.latest.number then system.latest
  else system.replaced

/-- Note a publication if the record's name was moved. -/
def System.noted (system : System) (after : Volume Entry) (payload : Bytes) : System :=
  match after.names .record with
  | none => { system with volume := after }
  | some number =>
    if system.volume.names .record = some number then { system with volume := after }
    else
      { system with
        volume := after
        latest := ⟨number, system.current.revision + 1, payload⟩
        replaced := system.current }

section Runs

variable [RecordFormat] (deviceId : Bytes)

/-- One step of the process or of its surroundings.  A process that is cut off loses its
handles; a loss of power may follow. -/
inductive Step : System → System → Prop
  | opened {system : System} {script : List (Option Fault)} {handle : Handle}
      {session : Session Entry}
      (ran : openStore deviceId ⟨system.volume, script⟩ = .ok handle session) :
      Step system { system with volume := session.state, handles := handle :: system.handles }
  | openFailed {system : System} {script : List (Option Fault)} {error : EngineStateError}
      {session : Session Entry}
      (ran : openStore deviceId ⟨system.volume, script⟩ = .error (.failed error) session) :
      Step system { system with volume := session.state }
  | openCut {system : System} {script : List (Option Fault)} {session : Session Entry}
      (ran : openStore deviceId ⟨system.volume, script⟩ = .error .crashed session) :
      Step system { system with volume := session.state, handles := [] }
  | replaced {system : System} {script : List (Option Fault)} {salt : Nat} {payload : Bytes}
      {before after : List Handle} {handle left : Handle}
      {result : Except EngineStateError Unit} {session : Session Entry}
      (chosen : system.handles = before ++ handle :: after)
      (ran : replaceAtBoundaries deviceId salt handle payload ⟨system.volume, script⟩ =
        .ok (left, result) session) :
      Step system { system.noted session.state payload with handles := before ++ left :: after }
  | replaceCut {system : System} {script : List (Option Fault)} {salt : Nat} {payload : Bytes}
      {handle : Handle} {session : Session Entry} (chosen : handle ∈ system.handles)
      (ran : replaceAtBoundaries deviceId salt handle payload ⟨system.volume, script⟩ =
        .error .crashed session) :
      Step system { system.noted session.state payload with handles := [] }
  | dropped {system : System} {before after : List Handle} {handle : Handle}
      (chosen : system.handles = before ++ handle :: after) :
      Step system { system with handles := before ++ after }
  | powerLost {system : System} {left : Volume Entry} (survives : system.volume.Survives left) :
      Step system { system with volume := left, handles := [] }

def emptyVolume : Volume Entry where
  names := fun _ => none
  earlier := []
  files := fun _ => ⟨[], .created 0, false⟩
  next := 0

/-- The state after a store was created. -/
def createdSystem (payload : Bytes) (handle : Handle) (volume : Volume Entry) : System where
  volume := volume
  handles := [handle]
  latest := ⟨handle.current, 1, payload⟩
  replaced := ⟨handle.current, 1, payload⟩

/-- A store that was just created in an empty directory. -/
def Created (system : System) : Prop :=
  ∃ salt payload script handle session,
    createStore deviceId salt payload ⟨emptyVolume, script⟩ = .ok handle session ∧
      system = createdSystem payload handle session.state

def storeMachine : Machine System where
  initial := Created deviceId
  step := Step deviceId

/-- The invariant of all runs. -/
structure SystemSound (system : System) : Prop where
  volume : VolumeSound deviceId system.volume system.latest system.replaced
  successor : system.latest = system.replaced ∨
    system.latest.revision = system.replaced.revision + 1
  /-- Handles are older than the next file. -/
  old : ∀ handle ∈ system.handles, handle.current < system.volume.next
  /-- A handle that can still write shows the record, and no other can come back. -/
  shows : ∀ handle ∈ system.handles, handle.uncertain = false →
    system.volume.names .record = some handle.current →
    handle.Shows system.current ∧ Settled system.volume handle.current

variable {deviceId} {system : System}

variable {after : Volume Entry} {payload : Bytes} {number : Nat} {handle : Handle}

omit [RecordFormat] in
theorem System.noted_of_keeps (keeps : Keeps system.volume after) :
    system.noted after payload = { system with volume := after } := by
  rw [System.noted]
  split
  next => rfl
  next number moved =>
    rw [if_pos (keeps.live.symm.trans moved)]

omit [RecordFormat] in
theorem noted_handles (system : System) (after : Volume Entry) (payload : Bytes) :
    (system.noted after payload).handles = system.handles := by
  rw [System.noted]
  split
  next => rfl
  next => split <;> rfl

theorem SystemSound.handles_insert {before after : List Handle} {handle : Handle}
    (sound : SystemSound deviceId { system with handles := before ++ after })
    (old : handle.current < system.volume.next)
    (shows : handle.uncertain = false → system.volume.names .record = some handle.current →
      handle.Shows system.current ∧ Settled system.volume handle.current) :
    SystemSound deviceId { system with handles := before ++ handle :: after } := by
  have split : ∀ other ∈ before ++ handle :: after, other = handle ∨ other ∈ before ++ after := by
    intro other mem
    simp only [mem_append, mem_cons] at mem ⊢
    tauto
  refine ⟨sound.volume, sound.successor, ?_, ?_⟩
  · intro other mem
    rcases split other mem with rfl | known
    · exact old
    · exact sound.old other known
  · intro other mem
    rcases split other mem with rfl | known
    · exact shows
    · exact sound.shows other known

section

variable {bytes : Bytes} (sound : SystemSound deviceId system)

include sound

theorem SystemSound.current_cases :
    (system.current = system.latest ∨ system.current = system.replaced) ∧
      system.volume.names .record = some system.current.number := by
  by_cases live : system.volume.names .record = some system.latest.number
  · have current : system.current = system.latest := if_pos live
    rw [current]
    exact ⟨.inl rfl, live⟩
  · have current : system.current = system.replaced := if_neg live
    rw [current]
    exact ⟨.inr rfl, (sound.volume.record _ mem_cons_self).resolve_left live⟩

theorem SystemSound.current_held : Held deviceId system.volume system.current := by
  rcases sound.current_cases.1 with current | current
  · rw [current]
    exact sound.volume.latestHeld
  · rw [current]
    exact sound.volume.replacedHeld

theorem SystemSound.keeps {after : Volume Entry} (keeps : Keeps system.volume after) :
    SystemSound deviceId { system with volume := after } := by
  have sameCurrent : System.current { system with volume := after } = system.current := by
    rw [System.current, System.current, keeps.live]
  refine ⟨sound.volume.keeps keeps, sound.successor, ?_, ?_⟩
  · exact fun handle mem => lt_of_lt_of_le (sound.old handle mem) keeps.next
  · intro handle mem certain live
    rw [keeps.live] at live
    obtain ⟨shows, settled⟩ := sound.shows handle mem certain live
    refine ⟨sameCurrent ▸ shows, fun directory found => ?_⟩
    obtain ⟨known, mem, same⟩ := keeps.records directory found
    exact same.trans (settled known mem)

theorem SystemSound.noted_of_published (published : Published system.volume after number bytes) :
    system.noted after payload =
      { system with
        volume := after
        latest := ⟨number, system.current.revision + 1, payload⟩
        replaced := system.current } := by
  have moved : system.volume.names .record ≠ some number := by
    intro same
    have old := sound.volume.directories.record _ mem_cons_self number same
    have fresh := published.publishes.fresh
    omega
  rw [System.noted, published.publishes.live]
  exact if_neg moved

/-- A publication keeps the invariant, whatever handles are left of those before. -/
theorem SystemSound.published (mem : handle ∈ system.handles)
    (prepared : Prepared deviceId system.volume handle payload bytes)
    (published : Published system.volume after number bytes) :
    SystemSound deviceId (system.noted after payload) := by
  obtain ⟨⟨shownNumber, shownRevision, _⟩, settled⟩ :=
    sound.shows handle mem prepared.certain prepared.live
  rw [sound.noted_of_published published]
  have extended := published.publishes.toExtends
  obtain ⟨salt, encoded⟩ := prepared.encoded
  refine ⟨⟨extended.sound, ⟨⟨salt, ?_⟩, ?_, ?_, Nat.succ_pos _, published.old⟩,
    sound.current_held.mono extended, ?_⟩, .inr rfl, ?_, ?_⟩
  · rw [published.file, ← shownRevision]
    exact encoded
  · rw [published.file]
    rfl
  · rw [published.file]
  · intro directory found
    rcases published.publishes.records directory found with moved | ⟨known, known_mem, same⟩
    · exact .inl moved
    · right
      rw [same, settled known known_mem, shownNumber]
  · exact fun other found => lt_of_lt_of_le (sound.old other found) extended.next
  · intro other found _ live
    -- The record is a new file, so no older handle names it.
    have old := sound.old other found
    have fresh := published.publishes.fresh
    have same : number = other.current := by
      have live' : after.names .record = some other.current := live
      rw [published.publishes.live] at live'
      exact some.inj live'
    omega

theorem SystemSound.handles_subset {fewer : List Handle}
    (subset : ∀ handle ∈ fewer, handle ∈ system.handles) :
    SystemSound deviceId { system with handles := fewer } where
  volume := sound.volume
  successor := sound.successor
  old := fun handle mem => sound.old handle (subset handle mem)
  shows := fun handle mem => sound.shows handle (subset handle mem)

/-- A loss of power brings back a directory that was there, and files that were safe. -/
theorem SystemSound.survives {left : Volume Entry} (survives : system.volume.Survives left) :
    SystemSound deviceId { system with volume := left, handles := [] } := by
  have only : ∀ directory ∈ left.directories, directory ∈ system.volume.directories := by
    intro directory mem
    rw [Volume.directories, survives.earlier, mem_singleton] at mem
    rw [mem]
    exact survives.names
  have held : ∀ {publication}, Held deviceId system.volume publication →
      Held deviceId left publication := fun held =>
    held.of_same survives.next.ge (survives.synced _ held.synced)
  refine ⟨⟨⟨?_, ?_⟩, held sound.volume.latestHeld, held sound.volume.replacedHeld, ?_⟩,
    sound.successor, nofun, nofun⟩
  · intro directory mem number bound
    rw [survives.next]
    exact sound.volume.directories.record directory (only directory mem) number bound
  · intro directory mem number bound
    obtain ⟨old, different, status, bounded⟩ :=
      sound.volume.directories.staged directory (only directory mem) number bound
    refine ⟨?_, different, ?_, le_trans (survives.bounded number) bounded⟩
    · rw [survives.next]
      exact old
    · rw [survives.status]
      exact status
  · exact fun directory mem => sound.volume.record directory (only directory mem)

/-- What a replacement leaves keeps the invariant, for the handles before it. -/
theorem SystemSound.replaces (mem : handle ∈ system.handles)
    (replaces : Replaces deviceId system.volume after handle payload) :
    SystemSound deviceId (system.noted after payload) := by
  obtain ⟨bytes, prepared, keeps | ⟨number, published⟩⟩ := replaces
  · rw [System.noted_of_keeps keeps]
    exact sound.keeps keeps
  · exact sound.published mem prepared published

/-- Handles that were there before a replacement, less the one that was replaced. -/
theorem SystemSound.others {before after : List Handle}
    (chosen : system.handles = before ++ handle :: after) :
    SystemSound deviceId { system with handles := before ++ after } := by
  refine sound.handles_subset fun other mem => ?_
  rw [chosen]
  simp only [mem_append, mem_cons] at mem ⊢
  tauto

/-- What is noted between two states: nothing, or one publication in a new file. -/
def Notes (system later : System) : Prop :=
  system.volume.next ≤ later.volume.next ∧
    ((later.latest = system.latest ∧ later.replaced = system.replaced) ∨
      (system.volume.next ≤ later.latest.number ∧ later.replaced = system.current ∧
        later.latest.revision = system.current.revision + 1 ∧
        later.volume.names .record = some later.latest.number))

theorem SystemSound.notes_of_replaces
    (replaces : Replaces deviceId system.volume after handle payload) (handles : List Handle) :
    Notes system { system.noted after payload with handles := handles } := by
  obtain ⟨bytes, _, keeps | ⟨number, published⟩⟩ := replaces
  · rw [System.noted_of_keeps keeps]
    exact ⟨keeps.next, .inl ⟨rfl, rfl⟩⟩
  · rw [sound.noted_of_published published]
    exact ⟨published.publishes.next, .inr ⟨published.publishes.fresh, rfl, rfl,
      published.publishes.live⟩⟩

/-- An opening that succeeds shows the publication that is the record. -/
theorem SystemSound.opens_current {script : List (Option Fault)} {session : Session Entry}
    (ran : openStore deviceId ⟨system.volume, script⟩ = .ok handle session) :
    handle.Shows system.current := by
  have opening := @openStore_held_triple _ _ _ _ True sound.volume.directories
    sound.current_held sound.current_cases.2
  obtain ⟨_, _, shows, _⟩ := (opening.ensures script).of_ok ran
  exact shows

/-- After a publication that cannot be lost, every opening shows it, also after a loss of
power. -/
theorem SystemSound.opens_published (mem : handle ∈ system.handles)
    (prepared : Prepared deviceId system.volume handle payload bytes)
    (published : Published system.volume after number bytes) (settled : Settled after number)
    {volume : Volume Entry} (left : volume = after ∨ after.Survives volume)
    {script : List (Option Fault)} {opened : Handle} {session : Session Entry}
    (ran : openStore deviceId ⟨volume, script⟩ = .ok opened session) :
    opened.Shows ⟨number, system.current.revision + 1, payload⟩ := by
  have kept := sound.published mem prepared published
  rw [sound.noted_of_published published] at kept
  rcases left with rfl | survives
  · have shows := kept.opens_current ran
    rwa [System.current, if_pos published.publishes.live] at shows
  · have shows := (kept.survives survives).opens_current ran
    rwa [System.current, if_pos (settled _ survives.names)] at shows

/-- Every step keeps the invariant, and notes one publication at most. -/
theorem SystemSound.step {later : System} (step : Step deviceId system later) :
    SystemSound deviceId later ∧ Notes system later := by
  have live := sound.current_cases.2
  have opening := @openStore_held_triple _ _ _ _ True sound.volume.directories
    sound.current_held live
  cases step with
  | @opened script handle session ran =>
    obtain ⟨keeps, certain, shows, settled⟩ := (opening.ensures script).of_ok ran
    have kept := sound.keeps keeps
    have sameCurrent : System.current { system with volume := session.state } =
        system.current := by
      rw [System.current, System.current, keeps.live]
    refine ⟨@SystemSound.handles_insert _ _ { system with volume := session.state } []
      system.handles handle kept ?_ fun _ _ => ?_, keeps.next, .inl ⟨rfl, rfl⟩⟩
    · rw [shows.1]
      exact (sound.current_held.mono keeps.toExtends).old
    · rw [sameCurrent, shows.1]
      exact ⟨shows, settled⟩
  | @openFailed script error session ran =>
    have keeps := ((opening.ensures script).of_error ran).2
    exact ⟨sound.keeps keeps, keeps.next, .inl ⟨rfl, rfl⟩⟩
  | @openCut script session ran =>
    have keeps := ((opening.ensures script).of_error ran).2
    exact ⟨(sound.keeps keeps).handles_subset nofun, keeps.next, .inl ⟨rfl, rfl⟩⟩
  | @replaced script salt payload before after handle left result session chosen ran =>
    have mem : handle ∈ system.handles := by
      rw [chosen]
      exact mem_append_right _ mem_cons_self
    have noted : (system.noted session.state payload).handles = before ++ handle :: after :=
      (noted_handles system session.state payload).trans chosen
    cases ((replaceAtBoundaries_triple sound.volume.directories).ensures script).of_ok ran with
    | refused error unchanged =>
      rw [unchanged, System.noted_of_keeps (Keeps.refl sound.volume.directories), ← chosen]
      exact ⟨sound, le_rfl, .inl ⟨rfl, rfl⟩⟩
    | lost error replaces =>
      have kept := sound.replaces mem replaces
      refine ⟨(kept.others noted).handles_insert ?_ nofun, sound.notes_of_replaces replaces _⟩
      exact kept.old handle (noted ▸ mem_append_right _ mem_cons_self)
    | completed next bytes prepared published settled =>
      have kept := sound.published mem prepared published
      obtain ⟨_, shownRevision, _⟩ := (sound.shows handle mem prepared.certain prepared.live).1
      refine ⟨(kept.others noted).handles_insert ?_ fun _ _ => ?_,
        sound.notes_of_replaces ⟨bytes, prepared, .inr ⟨next, published⟩⟩ _⟩
      · rw [sound.noted_of_published published]
        exact published.old
      · rw [sound.noted_of_published published, System.current, if_pos published.publishes.live]
        exact ⟨⟨rfl, congrArg (· + 1) shownRevision, rfl⟩, settled⟩
  | @replaceCut script salt payload handle session mem ran =>
    rcases ((replaceAtBoundaries_triple sound.volume.directories).ensures script).of_error ran
      with unchanged | replaces
    · rw [unchanged, System.noted_of_keeps (Keeps.refl sound.volume.directories)]
      exact ⟨sound.handles_subset nofun, le_rfl, .inl ⟨rfl, rfl⟩⟩
    · exact ⟨(sound.replaces mem replaces).handles_subset nofun, sound.notes_of_replaces replaces _⟩
  | dropped chosen => exact ⟨sound.others chosen, le_rfl, .inl ⟨rfl, rfl⟩⟩
  | powerLost survives =>
    exact ⟨sound.survives survives, le_of_eq survives.next.symm, .inl ⟨rfl, rfl⟩⟩

/-- A file that was not published when it was created never becomes the record. -/
theorem unpublished_never_record (old : number < system.volume.next)
    (latest : number ≠ system.latest.number) (replaced : number ≠ system.replaced.number)
    {final : System} (run : Relation.ReflTransGen (Step deviceId) system final) :
    final.volume.names .record ≠ some number := by
  have kept : SystemSound deviceId final ∧ number < final.volume.next ∧
      number ≠ final.latest.number ∧ number ≠ final.replaced.number := by
    induction run with
    | refl => exact ⟨sound, old, latest, replaced⟩
    | tail _ step ih =>
      obtain ⟨sound, old, latest, replaced⟩ := ih
      obtain ⟨kept, grows, notes⟩ := sound.step step
      refine ⟨kept, lt_of_lt_of_le old grows, ?_⟩
      rcases notes with ⟨sameLatest, sameReplaced⟩ | ⟨fresh, replacing, _⟩
      · rw [sameLatest, sameReplaced]
        exact ⟨latest, replaced⟩
      · refine ⟨by omega, ?_⟩
        rw [replacing]
        rcases sound.current_cases.1 with current | current
        · rw [current]
          exact latest
        · rw [current]
          exact replaced
  obtain ⟨soundFinal, _, notLatest, notReplaced⟩ := kept
  intro record
  rcases soundFinal.volume.record _ mem_cons_self with named | named
  · exact notLatest (some.inj (record.symm.trans named))
  · exact notReplaced (some.inj (record.symm.trans named))

end

theorem createStore_triple {faulty : Prop} {salt : Nat} :
    Triple faulty (createStore deviceId salt payload) emptyVolume
      (fun handle after => SystemSound deviceId (createdSystem payload handle after))
      (fun _ _ => True) := by
  refine triple_observed (fun _ => trivial) fun _ _ => ?_
  refine triple_bind (triple_decided (fun bytes encoded => ?_) fun _ _ => trivial)
  refine triple_bind (triple_create (fun number volume created => ?_) (fun _ => trivial)
    fun _ _ => trivial)
  obtain ⟨rfl, -, rfl⟩ := Volume.create_eq_some created
  refine triple_observed (fun _ => trivial) fun _ _ => ?_
  refine triple_bind (triple_writeAll ?_ fun _ _ _ => trivial)
  refine triple_bind (triple_syncFile ?_ fun _ _ => trivial)
  refine triple_bind (triple_syncDirectory ?_ fun _ _ => trivial)
  refine triple_observed (fun _ => trivial) fun _ _ => ?_
  -- The volume is known completely: one file of all bytes under the record's name.
  generalize durable : ((Volume.append _ emptyVolume.next bytes).syncFile
    emptyVolume.next).syncDirectory = ready
  have live : ready.names .record = some emptyVolume.next := by
    rw [← durable]
    exact Function.update_self Entry.record _ emptyVolume.names
  have file : ready.files emptyVolume.next = ⟨bytes, .created 0o600, true⟩ := by
    rw [← durable]
    simp [Volume.syncDirectory, Volume.syncFile, Volume.append, Volume.relink, Volume.setFile]
  have after : ready.next = emptyVolume.next + 1 := by
    rw [← durable]
    rfl
  have sound : DirectoriesSound ready := by
    refine ⟨?_, ?_⟩
    · rw [after]
      intro directory mem number bound
      rw [← durable] at mem
      rw [mem_singleton.mp mem] at bound
      rw [← some.inj bound]
      exact Nat.lt_succ_self _
    · intro directory mem number bound
      rw [← durable] at mem
      rw [mem_singleton.mp mem] at bound
      cases bound
  have held : Held deviceId ready ⟨emptyVolume.next, 1, payload⟩ := by
    refine ⟨⟨salt, ?_⟩, ?_, ?_, Nat.one_pos, ?_⟩
    · rw [file]
      exact encoded
    · rw [file]
      rfl
    · rw [file]
    · rw [after]
      exact Nat.lt_succ_self _
  refine (openStore_held_triple sound held live).imp ?_ fun _ _ _ => trivial
  rintro handle opened ⟨keeps, certain, ⟨current, revision, shown⟩, settled⟩
  have heldOpened := held.mono keeps.toExtends
  have heldHere : Held deviceId opened ⟨handle.current, 1, payload⟩ := by
    rw [current]
    exact heldOpened
  have only : (createdSystem payload handle opened).current = ⟨handle.current, 1, payload⟩ :=
    ite_self _
  have shows : handle.Shows (createdSystem payload handle opened).current := by
    rw [only]
    exact ⟨rfl, revision, shown⟩
  rw [← current] at settled
  refine ⟨⟨keeps.sound, heldHere, heldHere, fun directory mem => .inl (settled directory mem)⟩,
    .inl rfl, ?_, ?_⟩
  · intro other mem
    rw [mem_singleton.mp mem, current]
    exact heldOpened.old
  · intro other mem _ _
    rw [mem_singleton.mp mem]
    exact ⟨shows, settled⟩

theorem reachable_sound (reachable : (storeMachine deviceId).Reachable system) :
    SystemSound deviceId system := by
  refine reachable.invariant ?_ fun before after _ step sound => (sound.step step).1
  rintro _ ⟨salt, payload, script, handle, session, ran, rfl⟩
  exact (createStore_triple.ensures script).of_ok ran

variable (deviceId) in
/-- What is guaranteed in a state of the store. -/
structure StoreGuarantees (system : System) : Prop where
  /-- Opening the store undisturbed succeeds. -/
  reopens : ∃ handle session, openStore deviceId ⟨system.volume, []⟩ = .ok handle session
  /-- Every opening that succeeds shows the last publication or the one it replaced. -/
  yields : ∀ script handle session,
    openStore deviceId ⟨system.volume, script⟩ = .ok handle session →
    handle.Shows system.latest ∨ handle.Shows system.replaced
  /-- A publication has the revision after the one it replaced. -/
  successor : system.latest = system.replaced ∨
    system.latest.revision = system.replaced.revision + 1
  /-- What a step publishes is the record, with the revision after that of the record
  before. -/
  publishes : ∀ later, Step deviceId system later → later.latest ≠ system.latest →
    later.replaced = system.current ∧ later.latest.revision = system.current.revision + 1 ∧
      later.volume.names .record = some later.latest.number
  /-- A file that a step creates and does not publish is never the record later on. -/
  unpublished : ∀ later final, Step deviceId system later → later.latest = system.latest →
    Relation.ReflTransGen (Step deviceId) later final →
    ∀ number, system.volume.next ≤ number → number < later.volume.next →
      final.volume.names .record ≠ some number
  /-- A replacement that succeeds is published with the next revision, its handle can go on,
  and every opening from then on shows it, also after a loss of power. -/
  completed : ∀ handle ∈ system.handles, ∀ salt payload script left session,
    replaceAtBoundaries deviceId salt handle payload ⟨system.volume, script⟩ =
        .ok (left, .ok ()) session →
      left.uncertain = false ∧ handle.revision = system.current.revision ∧
        left.Shows ⟨left.current, system.current.revision + 1, payload⟩ ∧
        ∀ volume, volume = session.state ∨ session.state.Survives volume →
          ∀ script opened last, openStore deviceId ⟨volume, script⟩ = .ok opened last →
            opened.Shows ⟨left.current, system.current.revision + 1, payload⟩
  /-- A replacement that fails has changed nothing or leaves its handle uncertain. -/
  uncertain : ∀ handle ∈ system.handles, ∀ salt payload script left error session,
    replaceAtBoundaries deviceId salt handle payload ⟨system.volume, script⟩ =
        .ok (left, .error error) session →
      (left = handle ∧ session.state = system.volume) ∨ left.uncertain = true
  /-- An uncertain handle refuses to read and to write. -/
  refuses : ∀ handle ∈ system.handles, handle.uncertain = true → ∀ session,
    handle.readPayload session = .error (.failed .persistenceUncertain) session ∧
      ∀ salt payload, replaceAtBoundaries deviceId salt handle payload session =
        .ok (handle, .error .persistenceUncertain) session

/-- In every state of every run of replacements and openings, completed, failed or cut off
anywhere, a reopened store holds the last publication or the one that it replaced. -/
theorem reopening_yields_last_publication (system : System)
    (reachable : (storeMachine deviceId).Reachable system) :
    StoreGuarantees deviceId system := by
  have sound := reachable_sound reachable
  have live := sound.current_cases.2
  have held := sound.current_held
  refine
    { reopens := ?_
      yields := ?_
      successor := sound.successor
      publishes := ?_
      unpublished := ?_
      completed := ?_
      uncertain := ?_
      refuses := ?_ }
  · obtain ⟨handle, after, ran, _⟩ := Triple.returns
      ((openStore_held_triple sound.volume.directories held live).imp
        (fun _ _ shown => shown) fun _ _ stopped => stopped.1)
    exact ⟨handle, _, ran⟩
  · intro script handle session ran
    have shows := sound.opens_current ran
    rcases sound.current_cases.1 with current | current
    · exact .inl (current ▸ shows)
    · exact .inr (current ▸ shows)
  · intro later step published
    obtain ⟨_, ⟨same, _⟩ | ⟨_, replaced, revision, record⟩⟩ := (sound.step step).2
    · exact absurd same published
    · exact ⟨replaced, revision, record⟩
  · intro later final step same run number fresh old
    obtain ⟨kept, _, ⟨_, replaced⟩ | ⟨moved, _⟩⟩ := sound.step step
    · have latestOld := sound.volume.latestHeld.old
      have replacedOld := sound.volume.replacedHeld.old
      refine unpublished_never_record kept old ?_ ?_ run
      · rw [same]
        omega
      · rw [replaced]
        omega
    · rw [same] at moved
      have latestOld := sound.volume.latestHeld.old
      omega
  · intro handle mem salt payload script left session ran
    cases ((replaceAtBoundaries_triple sound.volume.directories).ensures script).of_ok ran with
    | completed next bytes prepared published settled =>
      obtain ⟨_, shown, _⟩ := (sound.shows handle mem prepared.certain prepared.live).1
      refine ⟨rfl, shown, ⟨rfl, congrArg (· + 1) shown, rfl⟩,
        fun volume kept script opened last => ?_⟩
      exact sound.opens_published mem prepared published settled kept
  · intro handle mem salt payload script left error session ran
    cases ((replaceAtBoundaries_triple sound.volume.directories).ensures script).of_ok ran with
    | refused error unchanged => exact .inl ⟨rfl, unchanged⟩
    | lost error replaces => exact .inr rfl
  · intro handle mem uncertain session
    exact ⟨readPayload_of_uncertain uncertain session,
      fun salt payload => replaceAtBoundaries_of_uncertain uncertain session⟩

end Runs

namespace Sample

/-- A field as pairs of a mark and a byte, closed by a zero. -/
def fieldBytes (field : Bytes) : Bytes :=
  field.flatMap (fun byte => [1, byte]) ++ [0]

def readField : Bytes → Option (Bytes × Bytes)
  | [] => none
  | [mark] => if mark = 0 then some ([], []) else none
  | mark :: byte :: rest =>
    if mark = 0 then some ([], byte :: rest)
    else (readField rest).map fun read => (byte :: read.1, read.2)

theorem readField_fieldBytes (field rest : Bytes) :
    readField (fieldBytes field ++ rest) = some (field, rest) := by
  induction field with
  | nil => cases rest <;> rfl
  | cons byte field ih =>
    show (readField (fieldBytes field ++ rest)).map _ = _
    rw [ih]
    rfl

/-- A plain record format: nothing is hidden and every payload is accepted. -/
scoped instance sampleFormat : RecordFormat where
  Wrapped := Bytes
  isJson := fun _ => true
  isUtf8 := fun _ => true
  sha256 := id
  protect := fun _ secret => some secret
  openSecret := some
  toJson := fun record =>
    fieldBytes (List.replicate record.schemaVersion 0) ++
      (fieldBytes record.engineDeviceId ++ (fieldBytes (List.replicate record.revision 0) ++
        (fieldBytes record.payload ++ fieldBytes record.authentication)))
  fromJson := fun bytes => do
    let (schemaVersion, bytes) ← readField bytes
    let (engineDeviceId, bytes) ← readField bytes
    let (revision, bytes) ← readField bytes
    let (payload, bytes) ← readField bytes
    let (authentication, _) ← readField bytes
    pure ⟨schemaVersion.length, engineDeviceId, revision.length, payload, authentication⟩
  openSecret_protect := fun protectedBy => protectedBy.symm
  fromJson_toJson := by
    intro record
    have last := readField_fieldBytes record.authentication []
    rw [append_nil] at last
    simp [readField_fieldBytes, last]

/-- A store is created and its payload is replaced; a second replacement is cut off between
its rename and the sync of the directory, so it was published. -/
theorem reopening_yields_last_publication_replaced :
    ∃ system : System, (storeMachine []).Reachable system ∧
      (system.replaced.revision = 2 ∧ system.replaced.payload = [91, 93]) ∧
      (system.latest.revision = 3 ∧ system.latest.payload = [49]) ∧
      StoreGuarantees [] system := by
  have start : (storeMachine []).Reachable _ := .start ⟨0, [123, 125], [], _, _, rfl, rfl⟩
  have replaced := start.next (@Step.replaced _ [] _ [] 0 [91, 93] [] [] _ _ _ _ rfl rfl)
  have cut := replaced.next (@Step.replaceCut _ [] _ (replicate 13 none ++ [some (.crashes 0)])
    0 [49] _ _ (.head _) rfl)
  exact ⟨_, cut, ⟨rfl, rfl⟩, ⟨rfl, rfl⟩, reopening_yields_last_publication _ cut⟩

end Sample

end Covalent.Engine
