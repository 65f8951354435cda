import Covalent.Provider.Staging

/-!
# Leases, compaction and capacity

A lease is reserved against the quota of the provider, used until it expires or is
cancelled, and then folded into the ledger.  Folding has two durable halves: the ledger
is written with what the leases used and with the leases that are to go, and then their
files are removed.

## Design notes

**Accumulators.**  The loop of the compaction carries the ledger that is being built and
the leases that had to stay, as the source does.
-/

namespace Covalent.Provider

open Durable

variable [Formats]

open Formats

/-! ## Reading leases -/

/-- The name of a lease file, when the lease has one. -/
def providerLeasePath (lease : StorageLease) : Result LeaseKey := do
  refuse (lease.leaseId.isEmpty || decide (128 < lease.leaseId.utf8ByteSize))
    (.invalidState "invalid storage lease id")
  pure lease.key

/-- The state of a lease that may be used now. -/
def loadActiveProviderLease (peer : DeviceId) (backup : BackupId) (lease : StorageLease)
    (now : Nat) (store : Store) : Result LeaseFile := do
  refuse (lease.peerDeviceId != peer || lease.backupId != backup ||
    decide (lease.expiresAt ≤ now)) .authenticationFailed
  let key ← providerLeasePath lease
  let file ← okOr (store.leases.get? key) (.io "open bounded file")
  refuse (file.state.cancelled || file.state.lease != lease) .authenticationFailed
  pure file

/-- Whether a lease has room, besides what its staged upload reserves. -/
def ensureLeaseConsumption (state : ProviderLeaseState) (bytes objects : Nat) : Result Unit :=
  let (stagedBytes, stagedObjects) := stagedReservation state
  refuse (!((checkedAdd state.consumedNewBytes stagedBytes).any
      (sumWithin state.lease.maxNewBytes · bytes)) ||
    !((checkedAdd state.consumedNewObjects stagedObjects).any
      (sumWithin state.lease.maxNewObjects · objects)))
    (.resourceLimit "provider lease quota")

section

variable (policy : ProviderQuotaPolicy) (now : Nat)
  (progress : ProviderLeaseLedger × List LeaseFile)

/-- What must hold of a lease file that is read. -/
def validLeaseState (state : ProviderLeaseState) : Bool :=
  validProviderLeaseShape state.lease policy.maximumLeaseLifetimeMs &&
    decide (state.consumedNewBytes ≤ state.lease.maxNewBytes) &&
    decide (state.consumedNewObjects ≤ state.lease.maxNewObjects) &&
    decide (state.consumedNewObjects ≤ state.objects.len) &&
    decide (state.deferredReferenceSync.len ≤ state.objects.len) &&
    (state.deferredReferenceSync.keys.all fun locator =>
      state.objects.containsKey (.chunk locator)) &&
    validStagedCapsuleUpload state

/-- The lease directories of a store: those with a lease or a stray. -/
def leaseScopes (store : Store) : List Scope :=
  (store.leases.keys.map LeaseKey.scope ++ store.strays.filterMap fun stray => match stray with
    | .lease scope => some scope
    | _ => none).dedup

/-- How many leases of a list belong to a peer. -/
def leasesOfPeer (files : List LeaseFile) (peer : DeviceId) : Nat :=
  (files.filter fun file => file.state.lease.peerDeviceId == peer).length

/-- Every lease on disk, in the order of its name. -/
def listProviderLeaseStateFiles (store : Store) : Result (List LeaseFile) := do
  let scopes := leaseScopes store
  let peers := (scopes.map Scope.peerDeviceId).dedup
  let files := store.leases.values
  refuse (decide (maxRetainedProviderLeaseScopes < peers.length))
    (.resourceLimit "provider lease peer directories")
  refuse (peers.any fun peer => decide (maxRetainedProviderLeaseScopesPerPeer <
    (scopes.filter fun scope => scope.peerDeviceId == peer).length))
    (.resourceLimit "provider lease backup directories")
  refuse (store.strays.any fun stray => match stray with
    | .lease _ => true
    | _ => false) (.invalidState "invalid provider lease state")
  checkEach (fun file => refuse (!validLeaseState policy file.state) .authenticationFailed) files
  refuse (decide (maxProviderLeaseStateFiles < files.length) ||
    files.any fun file => decide (maxProviderLeaseStateFilesPerPeer <
      leasesOfPeer files file.state.lease.peerDeviceId))
    (.resourceLimit "provider lease state files")
  pure files

/-! ## The ledger -/

section

variable (ledger : ProviderLeaseLedger) (peer : DeviceId)

def ledgerScopesOfPeer : Nat :=
  (ledger.usage.keys.filter fun scope => scope.peerDeviceId == peer).length

def validateProviderLeaseLedger : Result Unit := do
  refuse (decide (maxProviderLeaseStateFiles < ledger.pendingCompactions.length))
    .authenticationFailed
  checkEach (fun (scope, usage) =>
    refuse (decide (maxRetainedProviderLeaseScopesPerPeer <
        ledgerScopesOfPeer ledger scope.peerDeviceId) ||
      (usage.consumedNewBytes == 0 && usage.consumedNewObjects == 0)) .authenticationFailed)
    ledger.usage.entries
  refuse (decide (maxRetainedProviderLeaseScopes < ledger.usage.len))
    (.resourceLimit "provider lease ledger scopes")
  checkEach (fun pending => refuse (!validIdentifier pending.key.leaseId) .authenticationFailed)
    ledger.pendingCompactions

def loadProviderLeaseLedger (store : Store) : Result ProviderLeaseLedger := do
  validateProviderLeaseLedger store.ledger
  pure store.ledger

def persistProviderLeaseLedger : Action Unit := do
  check fun _ => validateProviderLeaseLedger ledger
  writeFile "commit atomic file" (Store.putLedger ledger)

/-! ## Compaction -/

/-- Remove the file of a lease that the ledger already has. -/
def finishCompaction (pending : ProviderLeaseCompaction) : Action Unit := do
  match ← check fun store => pure (store.leases.get? pending.key) with
  | none => pure ()
  | some file => do
    check fun _ =>
      refuse (stateDigest file.state != pending.stateDigest) .authenticationFailed
    writeFile "compact provider lease state" (Store.dropLease pending.key)

/-- Remove the files of the leases that the ledger already has. -/
def finishPendingProviderLeaseCompactions : Action ProviderLeaseLedger := do
  if ledger.pendingCompactions.isEmpty then pure ledger
  else do
    loop (fun _ pending => finishCompaction pending) () ledger.pendingCompactions
    let finished := { ledger with pendingCompactions := [] }
    persistProviderLeaseLedger finished
    pure finished

/-- Whether a lease that ended has to be counted in the ledger at all. -/
def consumedAnything (state : ProviderLeaseState) : Bool :=
  state.consumedNewBytes != 0 || state.consumedNewObjects != 0

/-- Whether the ledger has no room for the scope of a lease. -/
def scopeRefused (file : LeaseFile) : Bool :=
  consumedAnything file.state && !ledger.usage.containsKey file.scope &&
    (decide (maxRetainedProviderLeaseScopes ≤ ledger.usage.len) ||
      decide (maxRetainedProviderLeaseScopesPerPeer ≤
        ledgerScopesOfPeer ledger file.scope.peerDeviceId))

/-- Count what a lease used in the ledger. -/
def addUsage (file : LeaseFile) : Result ProviderLeaseLedger :=
  if consumedAnything file.state then do
    let usage := (ledger.usage.get? file.scope).getD ⟨0, 0⟩
    let bytes ← okOr (checkedAdd usage.consumedNewBytes file.state.consumedNewBytes)
      (.resourceLimit "provider allocated bytes")
    let objects ← okOr (checkedAdd usage.consumedNewObjects file.state.consumedNewObjects)
      (.resourceLimit "provider allocated objects")
    pure { ledger with usage := ledger.usage.insert file.scope ⟨bytes, objects⟩ }
  else pure ledger

/-- Take a lease that ended into the ledger, as its file is on disk. -/
def foldLease (file : LeaseFile) (store : Store) : Result ProviderLeaseLedger := do
  let ledger ← addUsage ledger file
  let onDisk ← okOr (store.leases.get? file.key) (.io "open bounded file")
  pure { ledger with
    pendingCompactions := ledger.pendingCompactions ++ [⟨file.key, stateDigest onDisk.state⟩] }

end

/-- One round of the compaction: the ledger being built and the leases that stay. -/
def compactLease (file : LeaseFile) : Action (ProviderLeaseLedger × List LeaseFile) := do
  if file.activeAt now then pure progress
  else do
    -- Staged segments are never retained, so they go before anything is counted.
    let file ← discardRecoveryCapsuleStaging policy file
    if scopeRefused progress.1 file then pure (progress.1, progress.2 ++ [file])
    else do
      let file ← ensureProviderLeaseReferencesDurable file
      let ledger ← check (foldLease progress.1 file)
      pure (ledger, progress.2)

/-- Whether too many leases had to stay. -/
def tooManyRetained (retained : List LeaseFile) : Bool :=
  decide (maxRetainedProviderLeases < retained.length) ||
    retained.any fun file => decide (maxRetainedProviderLeasesPerPeer <
      leasesOfPeer retained file.state.lease.peerDeviceId)

/-- Whether too many leases can still be used. -/
def tooManyActive (active : List LeaseFile) : Bool :=
  decide (maxActiveProviderLeases < active.length) ||
    active.any fun file => decide (maxActiveProviderLeasesPerPeer <
      leasesOfPeer active file.state.lease.peerDeviceId)

def validateProviderLeaseInventory (store : Store) : Result Unit := do
  let files ← listProviderLeaseStateFiles policy store
  refuse (tooManyActive (files.filter fun file => file.activeAt now) ||
    tooManyRetained (files.filter fun file => !file.activeAt now))
    (.resourceLimit "provider lease inventory")

/-- Fold every lease that ended into the ledger. -/
def compactProviderLeases : Action Unit := do
  let ledger ← check loadProviderLeaseLedger
  let ledger ← finishPendingProviderLeaseCompactions ledger
  let files ← check (listProviderLeaseStateFiles policy)
  let (ledger, retained) ← loop (compactLease policy now) (ledger, []) files
  check fun _ => refuse (tooManyRetained retained) (.resourceLimit "retained provider leases")
  if ledger.pendingCompactions.isEmpty then pure ()
  else do
    persistProviderLeaseLedger ledger
    let _ ← finishPendingProviderLeaseCompactions ledger
    pure ()
  check (validateProviderLeaseInventory policy now)

/-! ## Capacity -/

/-- The sum of 64-bit numbers, unless it overflows. -/
def checkedSum (resource : String) (values : List Nat) : Result Nat :=
  values.foldlM (fun total value => okOr (checkedAdd total value) (.resourceLimit resource)) 0

/-- What one scope filter counts: what is used and what is reserved. -/
structure Allocation where
  usedBytes : Nat
  usedObjects : Nat
  reservedBytes : Nat
  reservedObjects : Nat

/-- What a lease still reserves. -/
def LeaseFile.reservedBytes (file : LeaseFile) (now : Nat) : Nat :=
  if file.activeAt now then file.state.lease.maxNewBytes - file.state.consumedNewBytes else 0

def LeaseFile.reservedObjects (file : LeaseFile) (now : Nat) : Nat :=
  if file.activeAt now then file.state.lease.maxNewObjects - file.state.consumedNewObjects else 0

/-- What the scopes that pass a test use and reserve. -/
def allocation (ledger : ProviderLeaseLedger) (files : List LeaseFile) (now : Nat)
    (counted : Scope → Bool) : Result Allocation := do
  let usage := ledger.usage.entries.filter fun entry => counted entry.1
  let leases := files.filter fun file => counted file.scope
  let usedBytes ← checkedSum "provider allocated bytes"
    (usage.map (fun entry => entry.2.consumedNewBytes) ++
      leases.map (fun file => file.state.consumedNewBytes))
  let usedObjects ← checkedSum "provider allocated objects"
    (usage.map (fun entry => entry.2.consumedNewObjects) ++
      leases.map (fun file => file.state.consumedNewObjects))
  let reservedBytes ← checkedSum "provider reserved bytes"
    (leases.map fun file => file.reservedBytes now)
  let reservedObjects ← checkedSum "provider reserved objects"
    (leases.map fun file => file.reservedObjects now)
  pure ⟨usedBytes, usedObjects, reservedBytes, reservedObjects⟩

/-- What can still be reserved. -/
structure ProviderCapacity where
  availableBytes : Nat
  allocatedBytes : Nat
  quotaBytes : Nat
  reservedBytes : Nat
  availableObjects : Nat
  reservedObjects : Nat
  freeSpaceReserveBytes : Nat

/-- The capacity of a compacted store, for everyone or for one scope. -/
def measureCapacity (freeSpace now : Nat) (scope : Option Scope) (store : Store) :
    Result ProviderCapacity := do
  let ledger ← loadProviderLeaseLedger store
  let files ← listProviderLeaseStateFiles policy store
  let total ← allocation ledger files now fun _ => true
  let peer ← allocation ledger files now fun counted =>
    scope.any fun wanted => counted.peerDeviceId == wanted.peerDeviceId
  let backup ← allocation ledger files now fun counted => scope.any fun wanted => counted == wanted
  let totalBytes := min (policy.maximumTotalBytes - total.usedBytes - total.reservedBytes)
    (freeSpace - policy.freeSpaceReserveBytes - total.reservedBytes)
  let totalObjects := policy.maximumTotalObjects - total.usedObjects - total.reservedObjects
  let availableBytes :=
    if scope.isSome then
      min (min totalBytes (policy.maximumPeerBytes - peer.usedBytes - peer.reservedBytes))
        (policy.maximumBackupBytes - backup.usedBytes - backup.reservedBytes)
    else totalBytes
  let availableObjects :=
    if scope.isSome then
      min (min totalObjects (policy.maximumPeerObjects - peer.usedObjects - peer.reservedObjects))
        (policy.maximumBackupObjects - backup.usedObjects - backup.reservedObjects)
    else totalObjects
  let quotaBytes ← okOr ((checkedAdd total.usedBytes total.reservedBytes).bind
    (checkedAdd · availableBytes)) (.resourceLimit "provider quota bytes")
  pure
    { availableBytes := availableBytes
      allocatedBytes := total.usedBytes
      quotaBytes := quotaBytes
      reservedBytes := total.reservedBytes
      availableObjects := availableObjects
      reservedObjects := total.reservedObjects
      freeSpaceReserveBytes := policy.freeSpaceReserveBytes }

/-- The current capacity, after compaction. -/
def providerCapacity (freeSpace now : Nat) (scope : Option Scope) : Action ProviderCapacity := do
  compactProviderLeases policy now
  check (measureCapacity policy freeSpace now scope)

/-! ## Reservations -/

/-- Whether one more lease may become active. -/
def ensureProviderLeaseAdmission (peer : DeviceId) (store : Store) : Result Unit := do
  let files ← listProviderLeaseStateFiles policy store
  let active := files.filter fun file => file.activeAt now
  refuse (decide (maxActiveProviderLeases ≤ active.length) ||
    decide (maxActiveProviderLeasesPerPeer ≤ leasesOfPeer active peer))
    (.resourceLimit "active provider leases")

section

variable (freeSpace : Nat) (lease : StorageLease)

/-- The file of a lease that was just reserved. -/
def newLeaseFile (serial : Nat) : LeaseFile :=
  ⟨⟨lease, 0, 0, ∅, ∅, none, false⟩, serial⟩

/-- Write a new reservation. -/
def recordReservation (store : Store) : Store :=
  { store.putLease (newLeaseFile lease store.reservations.length) with
    reservations := store.reservations ++ [lease] }

def reserveNewProviderLease : Action Unit := do
  compactProviderLeases policy lease.issuedAt
  check (ensureProviderLeaseAdmission policy lease.issuedAt lease.peerDeviceId)
  let capacity ← providerCapacity policy freeSpace lease.issuedAt (some lease.scope)
  check fun _ => refuse (decide (capacity.availableBytes < lease.maxNewBytes) ||
    decide (capacity.availableObjects < lease.maxNewObjects))
    (.resourceLimit "provider storage quota")
  writeListed "commit atomic file" (.lease lease.scope) (recordReservation lease)

/-- Reserve room for one lease. -/
def reserveProviderLease : Action Unit := do
  check fun _ => refuse (!validProviderLeaseShape lease policy.maximumLeaseLifetimeMs)
    (.invalidState "invalid storage lease")
  match ← check fun store => pure (store.leases.get? lease.key) with
  | some existing =>
    check fun _ => refuse (existing.state.lease != lease) .authenticationFailed
  | none => reserveNewProviderLease policy freeSpace lease

/-- Whether a lease answers the same request as another. -/
def sameAcquisition (incumbent lease : StorageLease) : Bool :=
  validProviderLeaseShape incumbent policy.maximumLeaseLifetimeMs &&
    incumbent.leaseId == lease.leaseId && incumbent.peerDeviceId == lease.peerDeviceId &&
    incumbent.providerDeviceId == lease.providerDeviceId &&
    incumbent.backupId == lease.backupId && incumbent.maxNewBytes == lease.maxNewBytes &&
    incumbent.maxNewObjects == lease.maxNewObjects &&
    incumbent.expiresAt - incumbent.issuedAt == lease.expiresAt - lease.issuedAt

/-- Reserve room, or return the lease that the same request got before. -/
def reserveProviderLeaseIdempotent : Action StorageLease := do
  check fun _ => refuse (!validProviderLeaseShape lease policy.maximumLeaseLifetimeMs)
    (.invalidState "invalid storage lease")
  match ← check fun store => pure (store.leases.get? lease.key) with
  | some existing => do
    check fun _ =>
      refuse (!sameAcquisition policy existing.state.lease lease) .authenticationFailed
    pure existing.state.lease
  | none => do
    reserveNewProviderLease policy freeSpace lease
    pure lease

end

end

end Covalent.Provider
