import Covalent.Base.Trace
import Covalent.Provider.Uploads

/-!
# A provider in operation

The calls that peers and the node make on a chunk store, one after the other, each with a
script of what happens to its writes.  A call may fail, and the process goes on; or the
process ends inside the call, and then the store has to be opened again.
-/

namespace Covalent.Provider

open Durable

/-! ## Calls -/

/-- What a provider is asked to do. -/
inductive Call where
  | reserve (freeSpace : Nat) (lease : StorageLease)
  | reserveIdempotent (freeSpace : Nat) (lease : StorageLease)
  | putRecord (freeSpace : Nat) (journalId : Uuid) (call : LeaseCall) (locator : Locator)
      (record : Bytes)
  | putRecords (freeSpace : Nat) (journalId : Uuid) (call : LeaseCall)
      (records : List (Locator × Bytes))
  | putCapsule (freeSpace : Nat) (journalId : Uuid) (call : LeaseCall) (bytes : Bytes)
  | beginUpload (freeSpace : Nat) (call : LeaseCall) (requested : RecoveryCapsuleUpload)
  | putSegment (freeSpace : Nat) (call : LeaseCall) (uploadId : String) (index : Nat)
      (segment : Bytes) (segmentDigest : Digest)
  | commitUpload (freeSpace : Nat) (journalId : Uuid) (call : LeaseCall) (uploadId : String)
  | acknowledge (lease : StorageLease) (uploadId : String)
  | cancel (lease : StorageLease) (now : Nat)
  | capacity (freeSpace : Nat) (now : Nat) (scope : Option Scope)
  | reopen (now : Nat)

/-- What a call returns. -/
inductive Answer where
  | done
  | lease (lease : StorageLease)
  | created (created : Bool)
  | createdEach (created : List Bool)
  | capacity (capacity : ProviderCapacity)

namespace Call

/-- When a call is made; an acknowledgement does not look at the clock. -/
def time : Call → Option Nat
  | reserve _ lease | reserveIdempotent _ lease => some lease.issuedAt
  | putRecord _ _ call _ _ | putRecords _ _ call _ | putCapsule _ _ call _
  | beginUpload _ call _ | putSegment _ call _ _ _ _ | commitUpload _ _ call _ => some call.now
  | acknowledge _ _ => none
  | cancel _ now | capacity _ now _ | reopen now => some now

/-- Whether a call opens the store. -/
def opens : Call → Bool
  | reopen _ => true
  | _ => false

variable [Formats]

def run (installation : Installation) : Call → Action Answer
  | reserve freeSpace lease => do
    reserveProviderLease installation.policy freeSpace lease
    pure .done
  | reserveIdempotent freeSpace lease => do
    let lease ← reserveProviderLeaseIdempotent installation.policy freeSpace lease
    pure (.lease lease)
  | putRecord freeSpace journalId call locator record => do
    let created ← putProviderRecordLeased installation freeSpace journalId call locator record
    pure (.created created)
  | putRecords freeSpace journalId call records => do
    let created ← putProviderRecordsLeased installation freeSpace journalId call records
    pure (.createdEach created)
  | putCapsule freeSpace journalId call bytes => do
    let created ← putRecoveryCapsuleLeased installation freeSpace journalId call bytes
    pure (.created created)
  | beginUpload freeSpace call requested => do
    beginRecoveryCapsuleUpload installation freeSpace call requested
    pure .done
  | putSegment freeSpace call uploadId index segment segmentDigest => do
    putRecoveryCapsuleSegment installation freeSpace call uploadId index segment segmentDigest
    pure .done
  | commitUpload freeSpace journalId call uploadId => do
    let created ← commitRecoveryCapsuleUpload installation freeSpace journalId call uploadId
    pure (.created created)
  | acknowledge lease uploadId => do
    acknowledgeRecoveryCapsuleUpload installation lease uploadId
    pure .done
  | cancel lease now => do
    cancelProviderLease installation lease now
    pure .done
  | capacity freeSpace now scope => do
    let capacity ← providerCapacity installation.policy freeSpace now scope
    pure (.capacity capacity)
  | reopen now => do
    recoverStore installation now
    pure .done

end Call

/-! ## Runs -/

/-- A provider between two calls. -/
structure System where
  store : Store
  clock : Nat
  running : Bool

/-- A reference that was not synchronised is lost, or is left torn. -/
def Store.loseReference (store : Store) (loss : Locator × Bool) : Store :=
  match store.references.get? loss.1 with
  | some (.intact _ false) =>
    if loss.2 then store.putReference loss.1 .torn else store.dropReference loss.1
  | _ => store

/-- A call, what happens to its writes, and what is lost if the process ends. -/
structure Step where
  call : Call
  script : List (Option Fault) := []
  lost : List (Locator × Bool) := []

/-- A provider that was just set up. -/
def System.fresh : System :=
  ⟨Store.fresh, 0, true⟩

namespace System

/-- When a step is taken. -/
def time (system : System) (step : Step) : Nat :=
  step.call.time.getD system.clock

variable [Formats]

/-- One step.  A process that has ended only opens the store; opening it and failing
leaves no process. -/
def after (installation : Installation) (system : System) (step : Step) : System :=
  if system.running || step.call.opens then
    match step.call.run installation ⟨system.store, step.script⟩ with
    | .ok _ session => ⟨session.state, system.time step, true⟩
    | .error (.failed _) session => ⟨session.state, system.time step, !step.call.opens⟩
    | .error .crashed session =>
      ⟨step.lost.foldl Store.loseReference session.state, system.time step, false⟩
  else system

end System

variable [Formats] (installation : Installation)

def runSteps (system : System) (steps : List Step) : System :=
  steps.foldl (System.after installation) system

variable {installation}

/-- What a program establishes however it ends, a step establishes, unless there is no
process to take it. -/
theorem System.after_of_triple {allowed : Fault → Prop} {property : Store → Prop}
    {system : System} {step : Step}
    (holds : Triple allowed (step.call.run installation) system.store (fun _ => property) property)
    (within : Within allowed step.script)
    (lossy : ∀ store loss, property store → property (store.loseReference loss)) :
    system.after installation step = system ∨ property (system.after installation step).store ∧
        (system.after installation step).clock = system.time step := by
  unfold System.after
  split_ifs
  · right
    have ensured := holds.ensures within
    unfold Effect.Ensures at ensured
    cases ran : step.call.run installation ⟨system.store, step.script⟩ with
    | ok answer session =>
      rw [ran] at ensured
      exact ⟨ensured, rfl⟩
    | error reason session =>
      rw [ran] at ensured
      cases reason with
      | failed error => exact ⟨ensured, rfl⟩
      | crashed =>
        refine ⟨?_, rfl⟩
        show property (step.lost.foldl Store.loseReference session.state)
        exact List.foldlRecOn step.lost Store.loseReference ensured fun _ kept loss _ =>
          lossy _ loss kept
  · exact .inl rfl

end Covalent.Provider
