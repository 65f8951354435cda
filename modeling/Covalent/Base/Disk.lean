import Covalent.Base.Scripted
import Mathlib.Logic.Function.Basic

/-!
# Programs over one directory that can be cut off

A volume is one directory and the files it names.  A program calls the operating
system; every call may fail, and the process may end at any call.  After a loss of
power the directory is any of its states since it was last synced, and a file that
was not synced holds anything no longer than what was written to it.

## Design notes

**Renaming is atomic.**  A directory changes by one binding at a time, and `rename`
binds the target and unbinds the source at once.

**With or without faults.**  `faulty` says whether calls may go wrong; a triple whose
failures all assume it is a proof that the undisturbed program returns.
-/

namespace Covalent.Disk

export Scripted (Stop attempt triple_bind triple_pure triple_throw triple_attempt)

open Option

/-! ## Volumes -/

/-- What a directory listing tells of a file. -/
structure Status where
  regular : Bool
  mode : Nat
  links : Nat
  owned : Bool

/-- The status of a file that was created with a mode. -/
def Status.created (mode : Nat) : Status where
  regular := true
  mode := mode
  links := 1
  owned := true

structure File where
  bytes : List UInt8
  status : Status
  synced : Bool

/-- Names and the numbers of the files they stand for. -/
abbrev Directory (Name : Type) := Name → Option Nat

/-- A directory as programs see it, the files, and the directories it was before since
it was last synced. -/
structure Volume (Name : Type) where
  names : Directory Name
  earlier : List (Directory Name)
  files : Nat → File
  next : Nat

section

variable {Name : Type} [DecidableEq Name]

namespace Volume

section

variable (volume : Volume Name) (name : Name) (mode : Nat)

/-- The directories that a loss of power may leave. -/
def directories : List (Directory Name) :=
  volume.names :: volume.earlier

/-- Change the directory; the state before may come back. -/
def relink (names : Directory Name) : Volume Name :=
  { volume with names := names, earlier := volume.directories }

def setFile (number : Nat) (file : File) : Volume Name :=
  { volume with files := Function.update volume.files number file }

/-- Create a file under a name that is not taken. -/
def create : Option (Nat × Volume Name) :=
  match volume.names name with
  | some _ => none
  | none =>
    let file : File := { bytes := [], status := .created mode, synced := false }
    let created := (volume.setFile volume.next file).relink
      (Function.update volume.names name (some volume.next))
    some (volume.next, { created with next := volume.next + 1 })

/-- What a new file changes. -/
theorem create_eq_some {volume after : Volume Name} {name : Name} {mode number : Nat}
    (created : volume.create name mode = some (number, after)) :
    number = volume.next ∧ volume.names name = none ∧
      { volume.setFile volume.next ⟨[], .created mode, false⟩ with next := volume.next + 1 }.relink
        (Function.update volume.names name (some volume.next)) = after := by
  rw [create] at created
  split at created
  · cases created
  · next free =>
    cases created
    exact ⟨rfl, free, rfl⟩

def append (number : Nat) (bytes : List UInt8) : Volume Name :=
  volume.setFile number
    { volume.files number with
      bytes := (volume.files number).bytes ++ bytes, synced := false }

def syncFile (number : Nat) : Volume Name :=
  volume.setFile number { volume.files number with synced := true }

def syncDirectory : Volume Name :=
  { volume with earlier := [] }

/-- Move a file to another name, in place of what was there. -/
def rename (source target : Name) : Option (Volume Name) :=
  (volume.names source).map fun number =>
    volume.relink (Function.update (Function.update volume.names source none) target (some number))

def unlink : Option (Volume Name) :=
  (volume.names name).map fun _ => volume.relink (Function.update volume.names name none)

end

/-- What a loss of power may leave. -/
structure Survives (before after : Volume Name) : Prop where
  names : after.names ∈ before.directories
  earlier : after.earlier = []
  next : after.next = before.next
  status : ∀ number, (after.files number).status = (before.files number).status
  bounded : ∀ number, (after.files number).bytes.length ≤ (before.files number).bytes.length
  synced : ∀ number, (before.files number).synced = true → after.files number = before.files number

end Volume

/-! ## Programs -/

/-- How a call goes wrong: it fails, or the process ends there.  A write may have put
some of its bytes out before. -/
inductive Fault where
  | fails (written : Nat)
  | crashes (written : Nat)

/-- The volume and what the coming calls will meet. -/
abbrev Session (Name : Type) := Scripted.Session Fault (Volume Name)

abbrev Io (Name ε : Type) := Scripted.Io Fault (Volume Name) ε

variable {ε ε' α : Type}

/-- One call of the operating system.  `torn` is what an interrupted call leaves. -/
def call (error : ε) (torn : Nat → Volume Name → Volume Name)
    (effect : Volume Name → Option (α × Volume Name)) : Io Name ε α := fun session =>
  match session.script.head?.join with
  | some (.fails written) =>
    .error (.failed error) ⟨torn written session.state, session.script.tail⟩
  | some (.crashes written) => .error .crashed ⟨torn written session.state, session.script.tail⟩
  | none =>
    match effect session.state with
    | some (value, volume) => .ok value ⟨volume, session.script.tail⟩
    | none => .error (.failed error) ⟨session.state, session.script.tail⟩

/-- A call that changes nothing. -/
def observe (error : ε) (test : Volume Name → Option α) : Io Name ε α :=
  call error (fun _ volume => volume) fun volume => (test volume).map fun value => (value, volume)

def create (error : ε) (name : Name) (mode : Nat) : Io Name ε Nat :=
  call error (fun _ volume => volume) fun volume => volume.create name mode

/-- Write all bytes to a file; a torn write leaves some of them. -/
def writeAll (error : ε) (number : Nat) (bytes : List UInt8) : Io Name ε Unit :=
  call error (fun written volume => volume.append number (bytes.take written))
    fun volume => some ((), volume.append number bytes)

def syncFile (error : ε) (number : Nat) : Io Name ε Unit :=
  call error (fun _ volume => volume) fun volume => some ((), volume.syncFile number)

def syncDirectory (error : ε) : Io Name ε Unit :=
  call error (fun _ volume => volume) fun volume => some ((), volume.syncDirectory)

def rename (error : ε) (source target : Name) : Io Name ε Unit :=
  call error (fun _ volume => volume) fun volume =>
    (volume.rename source target).map fun renamed => ((), renamed)

def unlink (error : ε) (name : Name) : Io Name ε Unit :=
  call error (fun _ volume => volume) fun volume =>
    (volume.unlink name).map fun unlinked => ((), unlinked)

/-- The result of a computation that touches nothing. -/
def decided (result : Except ε α) : Io Name ε α :=
  Effect.lift (result.mapError Scripted.Stop.failed)

/-- Clean up when a program fails, whether or not the cleaning up succeeds. -/
def guarded (program : Io Name ε α) (cleanUp : Io Name ε Unit) : Io Name ε α := do
  match ← attempt program with
  | .ok value => pure value
  | .error error =>
    let _ ← (attempt cleanUp : Io Name ε (Except ε Unit))
    throw (.failed error)

end

/-! ## Rules -/

variable {Name ε ε' α β : Type}

/-- A program leaves `post` when it returns and `failed` otherwise, for every script if
`faulty`, and else for scripts without faults. -/
abbrev Triple (faulty : Prop) (program : Io Name ε α) (volume : Volume Name)
    (post : α → Volume Name → Prop) (failed : Stop ε → Volume Name → Prop) : Prop :=
  Scripted.Triple (fun _ => faulty) program volume post failed

variable {faulty : Prop} {volume : Volume Name} {failed : Stop ε → Volume Name → Prop}

variable {post : α → Volume Name → Prop} {error : ε} {program : Io Name ε α}

theorem triple_decided {result : Except ε α}
    (fine : ∀ value, result = .ok value → post value volume)
    (problematic : ∀ error, result = .error error → failed (.failed error) volume) :
    Triple faulty (decided result : Io Name ε α) volume post failed := by
  intro script allowed
  cases result with
  | ok value => exact Effect.ensures_pure ⟨fine value rfl, script.suffix_refl⟩
  | error error => exact Effect.ensures_throw ⟨problematic error rfl, script.suffix_refl⟩

theorem triple_call {torn : Nat → Volume Name → Volume Name}
    {effect : Volume Name → Option (α × Volume Name)}
    (fine : ∀ value after, effect volume = some (value, after) → post value after)
    (impossible : effect volume = none → failed (.failed error) volume)
    (interrupted : faulty → ∀ written stop, failed stop (torn written volume)) :
    Triple faulty (call error torn effect) volume post failed := by
  intro script allowed
  have tail := script.tail_suffix
  unfold Effect.Ensures call
  cases headed : script.head?.join with
  | none =>
    cases done : effect volume with
    | some result => simpa [done] using ⟨fine result.1 result.2 done, tail⟩
    | none => simpa [done] using ⟨impossible done, tail⟩
  | some fault =>
    have faults : faulty := allowed.head headed
    cases fault with
    | fails written => exact ⟨interrupted faults written _, tail⟩
    | crashes written => exact ⟨interrupted faults written _, tail⟩

theorem triple_observe {test : Volume Name → Option α}
    (fine : ∀ value, test volume = some value → post value volume)
    (impossible : test volume = none → failed (.failed error) volume)
    (interrupted : faulty → ∀ stop, failed stop volume) :
    Triple faulty (observe error test) volume post failed := by
  refine triple_call ?_ ?_ fun faults _ => interrupted faults
  · intro value after done
    obtain ⟨seen, tested, equal⟩ := map_eq_some_iff.mp done
    obtain ⟨rfl, rfl⟩ := Prod.mk.inj equal
    exact fine seen tested
  · intro done
    exact impossible (map_eq_none_iff.mp done)

/-- A program that may stop where it looks, and goes on with what it sees. -/
theorem triple_observed {test : Volume Name → Option α} {next : α → Io Name ε β}
    {post : β → Volume Name → Prop} (stops : ∀ stop, failed stop volume)
    (goesOn : ∀ value, test volume = some value → Triple faulty (next value) volume post failed) :
    Triple faulty (observe error test >>= next) volume post failed :=
  triple_bind (triple_observe goesOn (fun _ => stops _) fun _ => stops)

/-- A program that goes on with what it is bound to see. -/
theorem triple_seen {test : Volume Name → Option α} {value : α} {next : α → Io Name ε β}
    {post : β → Volume Name → Prop} (seen : test volume = some value)
    (interrupted : faulty → ∀ stop, failed stop volume)
    (goesOn : Triple faulty (next value) volume post failed) :
    Triple faulty (observe error test >>= next) volume post failed := by
  refine triple_bind (triple_observe (fun found tested => ?_) ?_ interrupted)
  · obtain rfl := some.inj (seen.symm.trans tested)
    exact goesOn
  · rw [seen]
    exact nofun

theorem triple_create [DecidableEq Name] {name : Name} {mode : Nat}
    {post : Nat → Volume Name → Prop}
    (fine : ∀ number after, volume.create name mode = some (number, after) → post number after)
    (taken : volume.names name ≠ none → failed (.failed error) volume)
    (interrupted : faulty → ∀ stop, failed stop volume) :
    Triple faulty (create error name mode) volume post failed := by
  refine triple_call fine ?_ fun faults _ => interrupted faults
  intro refused
  refine taken fun free => ?_
  rw [Volume.create, free] at refused
  exact some_ne_none _ refused

section

variable {post : Unit → Volume Name → Prop}

theorem triple_writeAll {number : Nat} {bytes : List UInt8}
    (fine : post () (volume.append number bytes))
    (interrupted : faulty → ∀ written stop,
      failed stop (volume.append number (bytes.take written))) :
    Triple faulty (writeAll error number bytes) volume post failed := by
  refine triple_call ?_ nofun interrupted
  intro value after done
  obtain ⟨_, rfl⟩ := Prod.mk.inj (some.inj done)
  exact fine

theorem triple_syncFile {number : Nat} (fine : post () (volume.syncFile number))
    (interrupted : faulty → ∀ stop, failed stop volume) :
    Triple faulty (syncFile error number) volume post failed := by
  refine triple_call ?_ nofun fun faults _ => interrupted faults
  intro value after done
  obtain ⟨_, rfl⟩ := Prod.mk.inj (some.inj done)
  exact fine

theorem triple_syncDirectory (fine : post () volume.syncDirectory)
    (interrupted : faulty → ∀ stop, failed stop volume) :
    Triple faulty (syncDirectory error) volume post failed := by
  refine triple_call ?_ nofun fun faults _ => interrupted faults
  intro value after done
  obtain ⟨_, rfl⟩ := Prod.mk.inj (some.inj done)
  exact fine

theorem triple_rename [DecidableEq Name] {source target : Name}
    (fine : ∀ after, volume.rename source target = some after → post () after)
    (missing : volume.names source = none → failed (.failed error) volume)
    (interrupted : faulty → ∀ stop, failed stop volume) :
    Triple faulty (rename error source target) volume post failed := by
  refine triple_call ?_ ?_ fun faults _ => interrupted faults
  · intro value after done
    obtain ⟨renamed, moved, equal⟩ := map_eq_some_iff.mp done
    obtain ⟨_, rfl⟩ := Prod.mk.inj equal
    exact fine renamed moved
  · intro done
    exact missing (map_eq_none_iff.mp (map_eq_none_iff.mp done))

theorem triple_unlink [DecidableEq Name] {name : Name}
    (fine : ∀ after, volume.unlink name = some after → post () after)
    (missing : volume.names name = none → failed (.failed error) volume)
    (interrupted : faulty → ∀ stop, failed stop volume) :
    Triple faulty (unlink error name) volume post failed := by
  refine triple_call ?_ ?_ fun faults _ => interrupted faults
  · intro value after done
    obtain ⟨unlinked, removed, equal⟩ := map_eq_some_iff.mp done
    obtain ⟨_, rfl⟩ := Prod.mk.inj equal
    exact fine unlinked removed
  · intro done
    exact missing (map_eq_none_iff.mp (map_eq_none_iff.mp done))

end

/-- A program with a clean up: what it leaves when it fails is cleaned up afterwards. -/
theorem triple_guarded {cleanUp : Io Name ε Unit} (holds : Triple faulty program volume post
      (fun stop after => match stop with
        | .failed error => Triple faulty cleanUp after
            (fun _ cleaned => failed (.failed error) cleaned)
            (fun stop cleaned => match stop with
              | .failed _ => failed (.failed error) cleaned
              | .crashed => failed .crashed cleaned)
        | .crashed => failed .crashed after)) :
    Triple faulty (guarded program cleanUp) volume post failed := by
  refine triple_bind (triple_attempt (holds.imp ?_ ?_))
  · exact fun value after fine => triple_pure fine
  · intro stop after problematic
    cases stop with
    | crashed => exact problematic
    | failed error =>
      refine triple_bind (triple_attempt (.imp problematic ?_ ?_))
      · exact fun _ cleaned fine => triple_throw fine
      · intro stop cleaned fine
        cases stop with
        | failed _ => exact triple_throw fine
        | crashed => exact fine

/-- What a triple says of one run with faults. -/
theorem Triple.ensures
    (holds : Triple True program volume post failed) (script : List (Option Fault)) :
    Effect.Ensures program ⟨volume, script⟩ (fun value session => post value session.state)
      (fun stop session => failed stop session.state) :=
  Scripted.Triple.ensures holds fun _ _ => trivial

/-- A program whose failures are all faults returns when there are none. -/
theorem Triple.returns (holds : Triple False program volume post fun _ _ => False) :
    ∃ value after, program ⟨volume, []⟩ = .ok value ⟨after, []⟩ ∧ post value after := by
  have ensured := holds [] nofun
  unfold Effect.Ensures at ensured
  cases ran : program ⟨volume, []⟩ with
  | error stop session =>
    rw [ran] at ensured
    exact absurd ensured.1 not_false
  | ok value session =>
    rw [ran] at ensured
    obtain ⟨holds, left⟩ := ensured
    refine ⟨value, session.state, ?_, holds⟩
    rw [← List.suffix_nil.mp left]

end Covalent.Disk
