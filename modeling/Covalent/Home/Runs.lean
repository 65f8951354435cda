import Covalent.Base.Trace
import Covalent.Home.Files

/-!
# Runs of an engine

An engine is opened, changed and opened again.  A call may fail or be cut off at any
write; a crash ends the process, and what it held is gone.  What the configuration says
of recovery is carried along by every other change, and the keys of backups stay.
-/

namespace Covalent.Home

open Durable Option
open Sharing (PeerGrant TransportBinding PublicIdentity Primitives)
open Engine (BackupKey CapsuleFormats Candidate CatalogSelection ConfigFormats
  ExportedDeviceSettings NodeConfig Owner RecoveryCapsule RememberedBackupState SignedRoster
  StoredSnapshot Visit issueRoster peerRosterCandidate rememberCandidate revokeCandidate
  settingsCandidate trustCandidate)

/-! ## Runs -/

/-- A call on a running engine. -/
inductive Change where
  | trust (grant : PeerGrant) (transport : Option TransportBinding)
  | revoke (peerId : DeviceId)
  | refresh (grant : PeerGrant) (transport : TransportBinding) (address : String)
  | acceptRoster (roster : SignedRoster)
  | settings (imported : ExportedDeviceSettings) (confirmed : Bool)
  | backup (call : BackupCall)
  | acknowledge (jobId : String)
  | recover (visits : List Visit)

/-- What happens to an engine. -/
inductive Event where
  | call (change : Change) (script : List (Option Fault))
  | restart (deviceName : String) (lanDiscoveryEnabled : Bool) (script : List (Option Fault))

/-- The engine holds the configuration that is on disk, and no change of rosters is
pending. -/
def settled (files : Files) : Bool :=
  files.memory.isSome && decide (files.config = files.memory) && files.rosterTransaction.isNone

namespace Files

/-- The files of an engine whose process has ended. -/
def closed (files : Files) : Files :=
  { files with memory := none }

end Files

section Runs

variable [Primitives] [ConfigFormats] [CapsuleFormats] [JobFormats]

/-- Make a change. -/
def Change.perform (owner : Owner) : Change → Action Unit
  | .trust grant transport => do
    let _ ← trustPeer owner.identity grant transport
    pure ()
  | .revoke peerId => do
    let _ ← revokePeer owner.identity peerId
    pure ()
  | .refresh grant transport address => do
    let _ ← refreshTrustedPeerAddress owner.identity grant transport address
    pure ()
  | .acceptRoster roster => do
    let _ ← acceptPeerRoster owner.identity roster
    pure ()
  | .settings imported confirmed => importSettings imported confirmed
  | .backup call => do
    let _ ← Home.backup owner call
    pure ()
  | .acknowledge jobId => acknowledgeBackupResult owner jobId
  | .recover visits => do
    let _ ← importRecoveryCatalogs owner visits
    pure ()

/-- The files a program leaves; a crash ends the process. -/
def left {α : Type} : EStateM.Result (Stop CoreError) (Session Files) α → Files
  | .ok _ session => session.state
  | .error (.failed _) session => session.state
  | .error .crashed session => session.state.closed

def after (owner : Owner) (files : Files) : Event → Files
  | .call change script => left (change.perform owner ⟨files, script⟩)
  | .restart deviceName lanDiscoveryEnabled script =>
    left (openEngine owner deviceName lanDiscoveryEnabled ⟨files.closed, script⟩)

/-- The files after some events. -/
def run (owner : Owner) (files : Files) (events : List Event) : Files :=
  events.foldl (after owner) files

/-- Every call is made on an engine that is settled. -/
def Careful (files : Files) : Event → Prop
  | .call _ _ => settled files = true
  | .restart _ _ _ => True

end Runs

/-! ## What every call carries along -/

/-- A property of every configuration on disk and in a pending change, one of the
configuration in memory, and keys that are there.  When there is no configuration yet, one
without watermarks may be in memory. -/
structure Guarded (good held : NodeConfig → Prop) (kept : BackupId → Prop) (files : Files) :
    Prop where
  config : ∀ config, files.config = some config → good config
  fresh : files.config = none → ∀ config, config.recoverySnapshotCursors = ∅ → held config
  memory : ∀ config, files.memory = some config → held config
  pending : ∀ transaction, files.rosterTransaction = some transaction → good transaction.config
  keys : ∀ backupId, kept backupId → (files.keys.get? backupId).isSome

/-- A property of configurations that only their watermarks decide and that higher watermarks
keep, and one that a configuration in memory has when it was checked before. -/
structure Hereditary [Primitives] [ConfigFormats] (good held : NodeConfig → Prop) : Prop where
  same : ∀ one {two}, two.recoverySnapshotCursors = one.recoverySnapshotCursors →
    good one → good two
  marked : ∀ {files config entries marked},
    planWatermarks files config entries = .ok (.advanced marked) → good config → good marked
  running : ∀ {config}, held config → good config
  checked : ∀ {config}, good config → config.validate = .ok () → held config

section Keeping

variable {good held : NodeConfig → Prop} {kept : BackupId → Prop} {allowed : Fault → Prop}

variable {config marked : NodeConfig} {backupId : BackupId} {key : BackupKey}
  {plan : NodeConfig → Result NodeConfig}

theorem guarded_config {files : Files} (guarded : Guarded good held kept files)
    (holds : good config) :
    Guarded good held kept { files with config := some config } :=
  { guarded with
    config := fun _ found => some.inj found ▸ holds
    fresh := nofun }

theorem keeps_writeConfig (holds : good config) :
    Keeps allowed (Guarded good held kept) (writeConfig config) :=
  keeps_act (fun _ guarded => guarded_config guarded holds) fun _ _ _ guarded => guarded

/-- A configuration that was checked may be held. -/
theorem keeps_hold (holds : held config) : Keeps allowed (Guarded good held kept) (hold config) :=
  keeps_assign fun _ guarded =>
    { guarded with memory := fun _ found => some.inj found ▸ holds }

/-- A call starts from the configuration in memory. -/
theorem yields_current : Yields allowed (Guarded good held kept) current held :=
  yields_check fun _ config guarded found => guarded.memory config (okOr_eq_ok.mp found)

theorem keeps_controlCheck : Keeps allowed (Guarded good held kept) controlCheck :=
  keeps_act (fun _ guarded => guarded) fun _ _ _ guarded => guarded

theorem keeps_removeTransaction {file : String} :
    Keeps allowed (Guarded good held kept) (removeTransaction file) :=
  keeps_act (fun _ guarded => { guarded with }) fun _ _ _ guarded => guarded

/-- Without a pending change there is nothing left to say of it. -/
theorem keeps_removeRosterTransaction :
    Keeps allowed (Guarded good held kept) removeRosterTransaction :=
  keeps_act (fun _ guarded => { guarded with pending := nofun }) fun _ _ _ guarded => guarded

theorem keeps_commitSnapshotInternal {snapshot : StoredSnapshot} {require : Bool} :
    Keeps allowed (Guarded good held kept) (commitSnapshotInternal snapshot require) := by
  refine keeps_checked fun committed => ?_
  refine keeps_ite keeps_pure ?_
  exact keeps_act (fun _ guarded => { guarded with }) fun _ _ _ guarded => guarded

/-- A key is added or replaced, never removed. -/
theorem keeps_persistBackupKey :
    Keeps allowed (Guarded good held kept) (persistBackupKey backupId key) := by
  refine keeps_act (fun files guarded => { guarded with keys := ?_ })
    fun _ _ _ guarded => { guarded with }
  intro other present
  show ((files.keys.insert backupId key).get? other).isSome
  exact BTreeMap.isSome_get?_insert.mpr (.inr (guarded.keys other present))

theorem keeps_persistOrValidateBackupKey :
    Keeps allowed (Guarded good held kept) (persistOrValidateBackupKey backupId key) := by
  refine keeps_checked fun incumbent => ?_
  cases incumbent with
  | some found => exact keeps_check
  | none => exact keeps_persistBackupKey

/-- A key that is there is kept. -/
theorem keeps_loadOrCreateBackupKey :
    Keeps allowed (Guarded good held kept) (loadOrCreateBackupKey backupId key) := by
  refine keeps_checked fun incumbent => ?_
  cases incumbent with
  | some found => exact keeps_pure
  | none => exact keeps_bind keeps_persistBackupKey fun _ => keeps_pure

/-- The watermarks are on disk before they are in memory. -/
theorem keeps_publishWatermarks (fine : good marked) (checked : held marked) :
    Keeps allowed (Guarded good held kept) (publishWatermarks marked) := by
  refine keeps_checked fun config => ?_
  refine keeps_ite keeps_pure ?_
  exact keeps_bind (keeps_writeConfig fine) fun _ => keeps_hold checked

theorem keeps_putRecoveryCapsule {capsule : RecoveryCapsule} :
    Keeps allowed (Guarded good held kept) (putRecoveryCapsule capsule) := by
  refine keeps_checked fun stored => ?_
  refine keeps_ite keeps_pure ?_
  exact keeps_act (fun _ guarded => { guarded with }) fun _ _ _ guarded => guarded

/-! ## Configurations that calls make -/

variable [Primitives] [ConfigFormats] {identity : PublicIdentity} {current candidate : NodeConfig}
  {transaction : PendingRosterCommit} {transport : TransportBinding} {address : String}
  {roster : SignedRoster} {grant : PeerGrant} {imported : ExportedDeviceSettings}
  {confirmed lanDiscoveryEnabled : Bool} {state : RememberedBackupState} {deviceName : String}

/-- A roster changes no watermark. -/
theorem issueRoster_cursors {previous named : NodeConfig}
    (issued : issueRoster identity previous candidate = .ok (roster, named)) :
    named.recoverySnapshotCursors = candidate.recoverySnapshotCursors := by
  simp only [issueRoster, bind_eq_ok, exists_unit, pure_eq_ok, Prod.mk.injEq] at issued
  obtain ⟨epoch, -, signed, -, -, -, rfl⟩ := issued
  rfl

/-- Neither does an address. -/
theorem addressCandidate_cursors {files : Files}
    (planned : addressCandidate files config grant transport address = .ok (some candidate)) :
    candidate.recoverySnapshotCursors = config.recoverySnapshotCursors := by
  simp only [addressCandidate, bind_eq_ok, exists_unit] at planned
  obtain ⟨-, -, -, -, -, -, -, -, -, known, -, ending⟩ := planned
  split_ifs at ending
  · cases pure_eq_ok.mp ending
  · simp only [bind_eq_ok, exists_unit, pure_eq_ok, some.injEq] at ending
    obtain ⟨-, rfl⟩ := ending
    rfl

/-- Nor does the roster of a peer. -/
theorem peerRosterCandidate_cursors (planned : peerRosterCandidate config roster = .ok candidate) :
    candidate.recoverySnapshotCursors = config.recoverySnapshotCursors := by
  simp only [peerRosterCandidate, bind_eq_ok, exists_unit, pure_eq_ok] at planned
  obtain ⟨-, -, -, -, -, -, -, rfl⟩ := planned
  rfl

/-- A checked configuration with the watermarks of another. -/
structure Succeeds (config candidate : NodeConfig) : Prop where
  cursors : candidate.recoverySnapshotCursors = config.recoverySnapshotCursors
  valid : candidate.validate = .ok ()

theorem settingsCandidate_succeeds
    (planned : settingsCandidate config imported confirmed = .ok candidate) :
    Succeeds config candidate := by
  simp only [settingsCandidate, bind_eq_ok, exists_unit, pure_eq_ok] at planned
  obtain ⟨-, -, valid, rfl⟩ := planned
  exact ⟨rfl, valid⟩

theorem rememberCandidate_succeeds
    (planned : rememberCandidate config backupId state = .ok candidate) :
    Succeeds config candidate := by
  simp only [rememberCandidate, bind_eq_ok, exists_unit, pure_eq_ok] at planned
  obtain ⟨valid, rfl⟩ := planned
  exact ⟨rfl, valid⟩

/-- A change of rosters is only made with a configuration that passes its check. -/
theorem yields_applyRosterTransaction (holds : good transaction.config) :
    Yields allowed (Guarded good held kept) (applyRosterTransaction identity current transaction)
      fun _ => transaction.config.validate = .ok () := by
  refine yields_bind (yields_check fun _ _ _ checked => (bind_eq_ok.mp checked).choose_spec.1)
    fun _ (valid : transaction.config.validate = .ok ()) => ?_
  refine yields_seq (keeps_act ?_ fun _ _ _ guarded => guarded) fun _ =>
    (keeps_writeConfig holds).yields fun _ => valid
  intro files guarded
  cases transaction <;> exact { guarded with }

/-- The change is written down, made, and forgotten. -/
theorem yields_commitRosterTransaction (holds : good transaction.config) :
    Yields allowed (Guarded good held kept) (commitRosterTransaction identity current transaction)
      fun _ => transaction.config.validate = .ok () := by
  refine yields_seq keeps_check fun _ => ?_
  refine yields_seq (keeps_act (fun _ guarded => ?_) fun _ _ _ guarded => guarded) fun _ => ?_
  · exact { guarded with pending := fun _ found => some.inj found ▸ holds }
  · exact yields_bind (yields_applyRosterTransaction holds) fun _ valid =>
      keeps_removeRosterTransaction.yields fun _ => valid

variable (hereditary : Hereditary good held)

include hereditary

/-- A pending change is made again when the engine is opened. -/
theorem yields_recoverRosterTransaction [JobFormats] (holds : held config) :
    Yields allowed (Guarded good held kept) (recoverRosterTransaction identity config) held := by
  have pending : Yields allowed (Guarded good held kept)
      (check fun files => pure files.rosterTransaction : Action (Option PendingRosterCommit))
      fun pending => ∀ transaction, pending = some transaction → good transaction.config := by
    refine yields_check fun files found guarded read => ?_
    cases read
    exact guarded.pending
  refine yields_bind pending fun found fine => ?_
  cases found with
  | none => exact yields_pure holds
  | some transaction =>
    have carried := fine transaction rfl
    refine yields_seq keeps_check fun _ => ?_
    refine yields_bind (yields_applyRosterTransaction carried) fun _ valid => ?_
    exact yields_seq keeps_removeRosterTransaction fun _ =>
      yields_pure (hereditary.checked carried valid)

/-- What was read passed its check; a new configuration has no watermarks. -/
theorem yields_loadOrCreateConfig :
    Yields allowed (Guarded good held kept) (loadOrCreateConfig deviceName lanDiscoveryEnabled)
      held := by
  refine yields_bind (yields_check fun files config guarded loaded => ?_)
    fun config (checked : held config) =>
      yields_seq (keeps_writeConfig (hereditary.running checked)) fun _ => yields_pure checked
  cases present : files.config with
  | some found =>
    rw [present] at loaded
    simp only [bind_eq_ok, exists_unit, pure_eq_ok] at loaded
    obtain ⟨valid, rfl⟩ := loaded
    exact hereditary.checked (guarded.config found present) valid
  | none =>
    rw [present] at loaded
    simp only [NodeConfig.new, bind_eq_ok, exists_unit, pure_eq_ok] at loaded
    obtain ⟨-, rfl⟩ := loaded
    exact guarded.fresh present _ rfl

/-- A call that replaces the configuration by one that was checked. -/
theorem keeps_replaceConfig {plan : NodeConfig → Result NodeConfig}
    (carries : ∀ config candidate, plan config = .ok candidate → Succeeds config candidate) :
    Keeps allowed (Guarded good held kept) (do
      let config ← Home.current
      let candidate ← check fun _ => plan config
      writeConfig candidate
      hold candidate) := by
  refine yields_current.bind fun config holds => ?_
  have planning : Yields allowed (Guarded good held kept)
      (check fun _ => plan config : Action NodeConfig) held := by
    refine yields_check fun _ candidate _ planned => ?_
    obtain ⟨cursors, valid⟩ := carries config candidate planned
    exact hereditary.checked (hereditary.same _ cursors (hereditary.running holds)) valid
  refine planning.bind fun candidate fine => ?_
  exact keeps_bind (keeps_writeConfig (hereditary.running fine)) fun _ => keeps_hold fine

/-! ## Rosters -/

/-- Calls that issue a roster differ only in what they plan. -/
theorem keeps_issueRosterLocked
    (carries : ∀ config candidate, good config → plan config = .ok candidate → good candidate) :
    Keeps allowed (Guarded good held kept) (issueRosterLocked identity plan) := by
  refine yields_current.bind fun previous holds => ?_
  have issuing : Yields allowed (Guarded good held kept) (check fun _ => do
        let changed ← plan previous
        issueRoster identity previous changed : Action (SignedRoster × NodeConfig))
      fun issued => good issued.2 := by
    refine yields_check fun _ issued _ made => ?_
    obtain ⟨changed, planned, issuedFrom⟩ := bind_eq_ok.mp made
    exact hereditary.same _ (issueRoster_cursors issuedFrom)
      (carries previous changed (hereditary.running holds) planned)
  refine issuing.bind fun issued fine => ?_
  refine (yields_commitRosterTransaction fine).bind fun _ valid => ?_
  exact keeps_bind (keeps_hold (hereditary.checked fine valid)) fun _ => keeps_pure

theorem keeps_trustPeer {transport : Option TransportBinding} :
    Keeps allowed (Guarded good held kept) (trustPeer identity grant transport) := by
  refine keeps_issueRosterLocked hereditary fun config candidate holds planned => ?_
  simp only [trustCandidate, bind_eq_ok, exists_unit, pure_eq_ok] at planned
  obtain ⟨-, -, -, -, -, rfl⟩ := planned
  exact hereditary.same config rfl holds

theorem keeps_revokePeer {peerId : DeviceId} :
    Keeps allowed (Guarded good held kept) (revokePeer identity peerId) := by
  refine keeps_issueRosterLocked hereditary fun config candidate holds planned => ?_
  simp only [revokeCandidate, bind_eq_ok, pure_eq_ok] at planned
  obtain ⟨-, -, rfl⟩ := planned
  exact hereditary.same config rfl holds

/-- Nothing is issued when the address is known. -/
theorem keeps_refreshTrustedPeerAddress : Keeps allowed (Guarded good held kept)
      (refreshTrustedPeerAddress identity grant transport address) := by
  refine yields_current.bind fun config holds => ?_
  have planning : Yields allowed (Guarded good held kept)
      (check fun files => addressCandidate files config grant transport address :
        Action (Option NodeConfig))
      fun changed => ∀ candidate, changed = some candidate → good candidate := by
    refine yields_check fun files changed _ planned candidate found => ?_
    rw [found] at planned
    exact hereditary.same _ (addressCandidate_cursors planned) (hereditary.running holds)
  refine planning.bind fun changed fine => ?_
  cases changed with
  | none => exact keeps_pure
  | some candidate =>
    refine keeps_bind (keeps_issueRosterLocked hereditary ?_) fun _ => keeps_pure
    intro previous planned _ made
    cases made
    exact fine candidate rfl

/-- The roster of a peer is committed in the same way. -/
theorem keeps_acceptPeerRoster :
    Keeps allowed (Guarded good held kept) (acceptPeerRoster identity roster) := by
  refine yields_current.bind fun config holds => ?_
  have planning : Yields allowed (Guarded good held kept)
      (check fun _ => peerRosterCandidate config roster : Action NodeConfig) good :=
    yields_check fun _ _ _ planned =>
      hereditary.same _ (peerRosterCandidate_cursors planned) (hereditary.running holds)
  refine planning.bind fun candidate fine => ?_
  refine (yields_commitRosterTransaction fine).bind fun _ valid => ?_
  exact keeps_bind (keeps_hold (hereditary.checked fine valid)) fun _ => keeps_pure

/-! ## Settings and remembered backups -/

theorem keeps_importSettings :
    Keeps allowed (Guarded good held kept) (importSettings imported confirmed) :=
  keeps_replaceConfig hereditary fun _ _ planned => settingsCandidate_succeeds planned

theorem keeps_rememberBackupState :
    Keeps allowed (Guarded good held kept) (rememberBackupState backupId state) :=
  keeps_replaceConfig hereditary fun _ _ planned => rememberCandidate_succeeds planned

/-- A backup is remembered when it moves on. -/
theorem yields_advance {transaction : PendingBackupCommit} {moves : Bool} (holds : held config) :
    Yields allowed (Guarded good held kept) (advance config transaction moves) held := by
  unfold advance
  split_ifs
  · have planning : Yields allowed (Guarded good held kept)
        (check fun _ => rememberCandidate config transaction.snapshot.backupId
          transaction.remembered : Action NodeConfig) held := by
      refine yields_check fun _ _ _ planned => ?_
      obtain ⟨cursors, valid⟩ := rememberCandidate_succeeds planned
      exact hereditary.checked (hereditary.same _ cursors (hereditary.running holds)) valid
    refine yields_bind planning fun candidate fine => ?_
    exact yields_seq (keeps_writeConfig (hereditary.running fine)) fun _ => yields_pure fine
  · exact yields_pure holds

/-- A backup writes down its end before it commits the snapshot. -/
theorem keeps_commitBackup {options : BackupOptions} {snapshot : StoredSnapshot}
    {remembered : RememberedBackupState} :
    Keeps allowed (Guarded good held kept) (commitBackup options snapshot remembered) := by
  refine keeps_bind (keeps_act (fun _ guarded => { guarded with })
    fun _ _ _ guarded => { guarded with }) fun _ => ?_
  refine keeps_bind keeps_commitSnapshotInternal fun _ => ?_
  refine keeps_bind (keeps_rememberBackupState hereditary) fun _ => ?_
  exact keeps_bind (keeps_attempt keeps_removeTransaction) fun _ => keeps_pure

/-! ## Imports -/

variable [CapsuleFormats] {owner : Owner}

/-- An imported backup gets its key and its snapshot. -/
theorem yields_importCandidate {entry : BackupId × Candidate} (holds : good config) :
    Yields allowed (Guarded good held kept) (importCandidate owner config entry) good := by
  refine yields_seq keeps_controlCheck fun _ => ?_
  refine yields_seq keeps_check fun opened => ?_
  refine yields_seq keeps_controlCheck fun _ => ?_
  refine yields_seq keeps_persistOrValidateBackupKey fun _ => ?_
  refine yields_seq keeps_commitSnapshotInternal fun _ => ?_
  exact yields_pure (hereditary.same config rfl holds)

/-- Watermarks are published before the backups are imported. -/
theorem keeps_publishSelection {selection : CatalogSelection} (fine : good marked) :
    Keeps allowed (Guarded good held kept) (publishSelection owner selection marked) := by
  have checks : ∀ config : NodeConfig, Yields allowed (Guarded good held kept)
      (check fun _ => config.validate : Action Unit) fun _ => config.validate = .ok () :=
    fun config => yields_check fun _ _ _ valid => valid
  refine keeps_bind keeps_controlCheck fun _ => ?_
  refine (checks marked).bind fun _ valid => ?_
  refine keeps_bind (keeps_publishWatermarks fine (hereditary.checked fine valid)) fun _ => ?_
  have importing : Yields allowed (Guarded good held kept)
      (loop (importCandidate owner) marked selection.latest.entries) good :=
    yields_loop (fun _ _ _ better => yields_importCandidate hereditary better) fine
  refine importing.bind fun candidate better => ?_
  refine keeps_bind keeps_controlCheck fun _ => ?_
  refine (checks candidate).bind fun _ valid => ?_
  refine keeps_bind (keeps_writeConfig better) fun _ => ?_
  exact keeps_bind (keeps_hold (hereditary.checked better valid)) fun _ => keeps_pure

/-- An older catalog changes nothing. -/
theorem keeps_importRecoveryCatalogs {visits : List Visit} :
    Keeps allowed (Guarded good held kept) (importRecoveryCatalogs owner visits) := by
  refine keeps_bind keeps_controlCheck fun _ => ?_
  refine keeps_checked fun selection => ?_
  refine keeps_bind keeps_controlCheck fun _ => ?_
  refine keeps_ite keeps_pure ?_
  refine yields_current.bind fun config holds => ?_
  have planning : Yields allowed (Guarded good held kept)
      (check fun files => planWatermarks files config selection.latest.entries : Action Watermarks)
      fun watermarks => ∀ marked, watermarks = .advanced marked → good marked := by
    refine yields_check fun files watermarks _ planned marked found => ?_
    rw [found] at planned
    exact hereditary.marked planned (hereditary.running holds)
  refine planning.bind fun watermarks fine => ?_
  cases watermarks with
  | older candidate => exact keeps_pure
  | advanced marked => exact keeps_publishSelection hereditary (fine marked rfl)

/-! ## Opening and backups -/

variable [JobFormats] {call : BackupCall}

/-- Backups that were cut off are finished one by one. -/
theorem yields_recoverBackupTransactions (holds : held config) :
    Yields allowed (Guarded good held kept) (recoverBackupTransactions owner config) held := by
  refine yields_seq keeps_check fun entries => ?_
  refine yields_loop (fun entry _ value fine => ?_) holds
  refine yields_seq keeps_check fun _ => ?_
  refine yields_seq keeps_check fun moves => ?_
  refine yields_seq keeps_commitSnapshotInternal fun _ => ?_
  refine yields_bind (yields_advance hereditary fine) fun candidate better => ?_
  exact yields_seq keeps_removeTransaction fun _ => yields_pure better

/-- Rosters are recovered before backups. -/
theorem keeps_openEngine :
    Keeps allowed (Guarded good held kept) (openEngine owner deviceName lanDiscoveryEnabled) := by
  refine (yields_loadOrCreateConfig hereditary).bind fun loaded read => ?_
  refine (yields_recoverRosterTransaction hereditary read).bind fun config fine => ?_
  refine keeps_checked fun _ => ?_
  refine (yields_recoverBackupTransactions hereditary fine).bind fun recovered better => ?_
  exact keeps_bind (keeps_hold better) fun _ => keeps_pure

theorem keeps_runBackup : Keeps allowed (Guarded good held kept) (runBackup owner call) := by
  refine keeps_checked fun config => ?_
  refine keeps_checked fun _ => ?_
  refine keeps_bind keeps_loadOrCreateBackupKey fun key => ?_
  refine keeps_checked fun digests => ?_
  refine keeps_bind (keeps_act (fun _ guarded => { guarded with })
    fun _ _ _ guarded => guarded) fun _ => ?_
  refine keeps_checked fun envelope => ?_
  refine keeps_checked fun snapshot => ?_
  refine keeps_checked fun capsule => ?_
  refine keeps_bind keeps_putRecoveryCapsule fun _ => ?_
  refine keeps_checked fun remembered => ?_
  refine keeps_bind (keeps_checked fun _ => keeps_act (fun _ guarded => { guarded with })
    fun _ _ _ guarded => { guarded with }) fun _ => ?_
  exact keeps_bind (keeps_commitBackup hereditary) fun _ => keeps_pure

/-- A backup that ended before is finished again. -/
theorem keeps_completeReceipt {receipt : BackupTerminalReceipt} :
    Keeps allowed (Guarded good held kept) (completeReceipt owner call receipt) := by
  refine keeps_checked fun _ => ?_
  refine keeps_bind keeps_commitSnapshotInternal fun _ => ?_
  refine keeps_checked fun config => ?_
  refine keeps_checked fun expected => ?_
  refine keeps_checked fun moves => ?_
  refine keeps_bind (keeps_ite (keeps_rememberBackupState hereditary) keeps_pure) fun _ => ?_
  refine keeps_checked fun latest => ?_
  exact keeps_checked fun _ => keeps_pure

/-- A call with a receipt makes no new backup. -/
theorem keeps_backup : Keeps allowed (Guarded good held kept) (Home.backup owner call) := by
  refine keeps_checked fun receipt => ?_
  cases receipt with
  | none => exact keeps_runBackup hereditary
  | some found =>
    refine keeps_bind (keeps_completeReceipt hereditary) fun _ => ?_
    exact keeps_bind (keeps_attempt keeps_removeTransaction) fun _ => keeps_pure

omit hereditary [Primitives] [ConfigFormats] [CapsuleFormats] in
theorem keeps_acknowledgeBackupResult {jobId : String} :
    Keeps allowed (Guarded good held kept) (acknowledgeBackupResult owner jobId) := by
  refine keeps_checked fun receipt => ?_
  cases receipt with
  | none => exact keeps_pure
  | some found => exact keeps_act (fun _ guarded => { guarded with }) fun _ _ _ guarded => guarded

/-- Every call carries the property along. -/
theorem keeps_perform {change : Change} :
    Keeps allowed (Guarded good held kept) (change.perform owner) := by
  cases change with
  | trust grant transport =>
    exact keeps_bind (keeps_trustPeer hereditary) fun _ => keeps_pure
  | revoke peerId => exact keeps_bind (keeps_revokePeer hereditary) fun _ => keeps_pure
  | refresh grant transport address =>
    exact keeps_bind (keeps_refreshTrustedPeerAddress hereditary) fun _ => keeps_pure
  | acceptRoster roster =>
    exact keeps_bind (keeps_acceptPeerRoster hereditary) fun _ => keeps_pure
  | settings imported confirmed => exact keeps_importSettings hereditary
  | backup call => exact keeps_bind (keeps_backup hereditary) fun _ => keeps_pure
  | acknowledge jobId => exact keeps_acknowledgeBackupResult
  | recover visits =>
    exact keeps_bind (keeps_importRecoveryCatalogs hereditary) fun _ => keeps_pure

end Keeping

/-! ## From programs to events -/

variable {files : Files}

/-- A process that ends leaves nothing in memory. -/
theorem guarded_closed {good held : NodeConfig → Prop} {kept : BackupId → Prop}
    (guarded : Guarded good held kept files) : Guarded good held kept files.closed :=
  { guarded with memory := nofun }

variable {α : Type} {program : Action α} {script : List (Option Fault)}

/-- What a program establishes however it ends holds of the files it leaves. -/
theorem left_of_triple {property : Files → Prop}
    (holds : Triple (fun _ => True) program files (fun _ => property) property)
    (closes : ∀ files, property files → property files.closed) :
    property (left (program ⟨files, script⟩)) := by
  have everything : Within (fun _ => True) script := fun _ _ => trivial
  have ensured := holds.ensures everything
  unfold Effect.Ensures at ensured
  unfold left
  cases ran : program ⟨files, script⟩ with
  | ok value session =>
    rw [ran] at ensured
    exact ensured
  | error reason session =>
    rw [ran] at ensured
    cases reason with
    | failed error => exact ensured
    | crashed => exact closes _ ensured

theorem left_of_keeps {invariant : Files → Prop} (kept : Keeps (fun _ => True) invariant program)
    (closes : ∀ files, invariant files → invariant files.closed) (holds : invariant files) :
    invariant (left (program ⟨files, script⟩)) :=
  left_of_triple (kept files holds) closes

variable [Primitives] [ConfigFormats] [CapsuleFormats] [JobFormats] {owner : Owner}

/-- Calls and restarts carry along what is said of memory and disk. -/
theorem guarded_run {good held : NodeConfig → Prop} {kept : BackupId → Prop}
    (hereditary : Hereditary good held) (events : List Event)
    (guarded : Guarded good held kept files) :
    Guarded good held kept (run owner files events) := by
  induction events generalizing files with
  | nil => exact guarded
  | cons event rest ih =>
    refine ih ?_
    cases event with
    | call change script =>
      exact left_of_keeps (keeps_perform hereditary) (fun _ => guarded_closed) guarded
    | restart deviceName lanDiscoveryEnabled script =>
      exact left_of_keeps (keeps_openEngine hereditary) (fun _ => guarded_closed)
        (guarded_closed guarded)

/-- In every run from a directory with a configuration, the configuration in memory has passed
its check.  A new one may have not: its name is measured without the blanks around it. -/
theorem run_valid {config : NodeConfig} (events : List Event) (present : files.config ≠ none)
    (valid : ∀ config, files.memory = some config → config.validate = .ok ())
    (running : (run owner files events).memory = some config) : config.validate = .ok () := by
  have checked : Hereditary (fun _ => True) fun config => config.validate = .ok () :=
    { same := fun _ _ _ _ => trivial
      marked := fun _ _ => trivial
      running := fun _ => trivial
      checked := fun _ valid => valid }
  have guarded : Guarded (fun _ => True) (fun config => config.validate = .ok ()) (fun _ => False)
      files :=
    ⟨fun _ _ => trivial, fun absent => absurd absent present, valid, fun _ _ => trivial, nofun⟩
  exact (guarded_run checked events guarded).memory config running

end Covalent.Home
