import Covalent.Home.Runs

/-!
# Importing settings

Settings leave a device as a text with its name, a preference and the descriptors of its
backups.  An import replaces these and keeps everything else: of a backup that is remembered
it replaces the descriptor, any other starts again at key epoch 1.  Snapshots are
authenticated against the key epoch that is remembered.  So a backup that one import forgot
and another brings back loses the snapshots of its later key epochs, and with them listing and
garbage collection, which authenticate every snapshot.

## Design notes

**Texts.**  JSON is decoded elsewhere: what was encoded decodes to itself, and a text has a
length.  Exporting only reads the configuration.

**Garbage collection.**  The chunks that peers refer to, and all of them while jobs are
active, are spared; which ones these are is an input.
-/

namespace Covalent.Home

open Durable BTreeMap List
open Sharing (Primitives)
open Backup (Manifest)
open Engine (CapsuleFormats ConfigFormats ExportedDeviceSettings LocatorSet NodeConfig
  Owner RecoveryCapsule RecoveryCapsulePayload RememberedBackup RememberedBackupState
  StoredSnapshot importedState settingsCandidate settingsSchemaVersion validateRemembered)

/-! ## Settings as texts -/

/-- The texts of settings. -/
class SettingsFormats where
  Text : Type
  bytes : Text → Nat
  encode : ExportedDeviceSettings → Text
  decode : Text → Option ExportedDeviceSettings
  decode_encode : ∀ settings, decode (encode settings) = some settings

/-- The settings of a configuration that may leave the device. -/
def safeExport (config : NodeConfig) : Result ExportedDeviceSettings := do
  let descriptors := config.rememberedBackups.values.map RememberedBackupState.descriptor
  let settings : ExportedDeviceSettings :=
    ⟨settingsSchemaVersion, config.deviceName, config.lanDiscoveryEnabled,
      descriptors.mergeSort fun left right => decide (left.backupId ≤ right.backupId)⟩
  settings.validate
  pure settings

section Texts

variable [SettingsFormats]

open SettingsFormats

def exportSettings (config : NodeConfig) : Result Text := do
  let settings ← safeExport config
  settings.validate
  pure (encode settings)

/-- Read settings that come from elsewhere. -/
def readSettings (text : Text) : Result ExportedDeviceSettings := do
  refuse (decide (1048576 < bytes text)) .settingsTooLarge
  let settings ← okOr (decode text) .json
  settings.validate
  pure settings

def importText [Primitives] [ConfigFormats] (text : Text) (confirmed : Bool) : Action Unit := do
  check fun _ => refuse (!confirmed) .settingsImportNotConfirmed
  let imported ← check fun _ => readSettings text
  importSettings imported confirmed

end Texts

/-! ## What an accepted import remembers -/

section Candidates

variable [Primitives] [ConfigFormats] {config candidate : NodeConfig}
  {imported : ExportedDeviceSettings} {backupId : BackupId} {state : RememberedBackupState}
  (accepted : settingsCandidate config imported true = .ok candidate)

include accepted

/-- What an accepted import makes of a configuration. -/
theorem settingsCandidate_eq_ok : (imported.rememberedBackups.map RememberedBackup.backupId).Nodup ∧
      candidate = { config with
        deviceName := imported.deviceName
        lanDiscoveryEnabled := imported.lanDiscoveryEnabled
        rememberedBackups := ofList (imported.rememberedBackups.map fun descriptor =>
          (descriptor.backupId, importedState config descriptor)) } := by
  simp only [settingsCandidate, ExportedDeviceSettings.validate, bind_eq_ok, exists_unit,
    pure_eq_ok, refuse_eq_ok, Bool.not_eq_false', decide_eq_true_eq] at accepted
  obtain ⟨-, ⟨-, -, -, -, distinct⟩, -, rfl⟩ := accepted
  exact ⟨distinct, rfl⟩

/-- A backup is remembered after an import exactly when the settings name it. -/
theorem remembered_imported : candidate.rememberedBackups.get? backupId = some state ↔
      ∃ descriptor ∈ imported.rememberedBackups,
        descriptor.backupId = backupId ∧ importedState config descriptor = state := by
  obtain ⟨distinct, rfl⟩ := settingsCandidate_eq_ok accepted
  constructor
  · intro found
    simpa using mem_of_get?_ofList found
  · rintro ⟨descriptor, named, rfl, rfl⟩
    refine get?_ofList_of_mem ?_ (mem_map.mpr ⟨descriptor, named, rfl⟩)
    simpa [Function.comp_def] using distinct

/-- What is remembered as the latest snapshot was remembered before. -/
theorem latest_imported (remembered : candidate.rememberedBackups.get? backupId = some state) :
    state.latestSnapshotId = none ∨
      ∃ previous, config.rememberedBackups.get? backupId = some previous ∧
        state.latestSnapshotId = previous.latestSnapshotId := by
  obtain ⟨descriptor, named, rfl, rfl⟩ := (remembered_imported accepted).mp remembered
  unfold importedState
  cases config.rememberedBackups.get? descriptor.backupId with
  | none => exact .inl rfl
  | some previous => exact .inr ⟨previous, rfl, rfl⟩

/-- The settings of a configuration bring the configuration back. -/
theorem safeExport_imported (valid : config.validate = .ok ())
    (exported : safeExport config = .ok imported) : candidate = config := by
  have named : ∀ backupId state, config.rememberedBackups.get? backupId = some state →
      backupId = state.descriptor.backupId := by
    intro backupId state found
    simp only [NodeConfig.validate, bind_eq_ok, exists_unit, checkEach_eq_ok] at valid
    obtain ⟨-, -, -, checked, -⟩ := valid
    have passed := checked _ (get?_eq_some_iff.mp found)
    simp only [validateRemembered, refuse_eq_ok, Bool.or_eq_false_iff,
      bne_eq_false_iff_eq] at passed
    exact passed.1.1.1
  simp only [safeExport, bind_eq_ok, exists_unit, pure_eq_ok] at exported
  obtain ⟨-, rfl⟩ := exported
  have same : candidate.rememberedBackups = config.rememberedBackups := by
    refine ext_get? fun backupId => Option.ext fun state => ?_
    rw [remembered_imported accepted]
    simp only [mem_mergeSort, mem_map, mem_values]
    constructor
    · rintro ⟨_, ⟨previous, ⟨other, found⟩, rfl⟩, rfl, rfl⟩
      obtain rfl := named other previous found
      simp only [importedState, found]
    · intro found
      obtain rfl := named backupId state found
      refine ⟨_, ⟨state, ⟨_, found⟩, rfl⟩, rfl, ?_⟩
      simp only [importedState, found]
  obtain ⟨-, rebuilt⟩ := settingsCandidate_eq_ok accepted
  rw [rebuilt] at same ⊢
  cases config
  simp_all

end Candidates

/-! ## What stored snapshots are used for -/

structure BackupSummary where
  backupId : BackupId
  name : String
  ownerDeviceId : DeviceId
  latestSnapshotId : Option String
  latestCommittedAtUnixMs : Option Nat
  snapshotCount : Nat
  selectedProviderIds : DeviceSet

/-- The snapshot of a remembered identifier. -/
def findLatest (snapshots : List StoredSnapshot) :
    Option String → Result (Option StoredSnapshot)
  | none => pure none
  | some snapshotId => do
    let found ← okOr (snapshots.find? fun snapshot => snapshot.snapshotId == snapshotId)
      (.invalidState "remembered latest snapshot metadata is missing")
    pure (some found)

def summarize (snapshots : List StoredSnapshot) (entry : BackupId × RememberedBackupState) :
    Result BackupSummary := do
  let own := snapshots.filter fun snapshot => snapshot.backupId == entry.1
  let latest ← findLatest own entry.2.latestSnapshotId
  pure
    { backupId := entry.1
      name := entry.2.descriptor.name
      ownerDeviceId := entry.2.descriptor.ownerDeviceId
      latestSnapshotId := latest.map StoredSnapshot.snapshotId
      latestCommittedAtUnixMs := latest.map StoredSnapshot.committedAtUnixMs
      snapshotCount := own.length
      selectedProviderIds := entry.2.replicaIntent.selectedProviders }

/-- Later commits first, then by identifier. -/
def summaryBefore (left right : BackupSummary) : Bool :=
  ((compare right.latestCommittedAtUnixMs left.latestCommittedAtUnixMs).then
    (compare left.backupId right.backupId)).isLE

/-- The files with another configuration, on disk and in memory. -/
def Files.reconfigured (files : Files) (candidate : NodeConfig) : Files :=
  { files with config := some candidate, memory := some candidate }

theorem Files.memory_reconfigured (files : Files) (candidate : NodeConfig) :
    (files.reconfigured candidate).memory = some candidate := rfl

section Uses

variable [Primitives] [CapsuleFormats]

/-- A committed snapshot, authenticated and decrypted. -/
def loadAuthenticated (owner : Owner) (files : Files) (backupId : BackupId) (snapshotId : String) :
    Result (StoredSnapshot × Manifest) := do
  let config ← okOr files.memory (.invalidState "the engine is closed")
  let snapshot ← loadSnapshot files backupId snapshotId
  let manifest ← authenticateSnapshot owner files config backupId snapshotId snapshot
  pure (snapshot, manifest)

def listSnapshots (files : Files) : Result (List StoredSnapshot) :=
  files.snapshots.keys.mapM fun key => loadSnapshot files (ofLex key).1 (ofLex key).2

def listBackups (owner : Owner) (files : Files) : Result (List BackupSummary) := do
  let config ← okOr files.memory (.invalidState "the engine is closed")
  let snapshots ← listSnapshots files
  checkEach (fun snapshot => do
    let _ ← authenticateSnapshot owner files config snapshot.backupId snapshot.snapshotId snapshot
    pure ()) snapshots
  let summaries ← config.rememberedBackups.entries.mapM (summarize snapshots)
  pure (summaries.mergeSort summaryBefore)

/-- The locators of all snapshots, each of which must be authentic. -/
def retentionIndex (owner : Owner) (files : Files) : Result LocatorSet := do
  let roots ← files.snapshots.keys.mapM fun key =>
    loadAuthenticated owner files (ofLex key).1 (ofLex key).2
  pure (roots.foldl (fun index root => index.extend root.1.chunkLocators) ∅)

/-- Remove the chunks that no snapshot needs and that are not spared. -/
def garbageCollect (owner : Owner) (spared : String → Bool) : Action Unit := do
  let index ← check (retentionIndex owner)
  act (.io "stage unreferenced chunk deletion")
    (fun files => { files with
      chunks := files.chunks.retain fun locator _ => index.containsKey locator || spared locator })
    fun _ files => files

/-! ## What an import leaves as it was -/

/-- Whatever could be done with the stored snapshots still can. -/
structure KeepsAccess (owner : Owner) (before after : Files) : Prop where
  loads : ∀ backupId snapshotId found,
    loadAuthenticated owner before backupId snapshotId = .ok found →
      loadAuthenticated owner after backupId snapshotId = .ok found
  lists : (∃ summaries, listBackups owner before = .ok summaries) →
    ∃ summaries, listBackups owner after = .ok summaries
  collects : ∀ spared, (returned (garbageCollect owner spared ⟨before, []⟩)).isSome →
    (returned (garbageCollect owner spared ⟨after, []⟩)).isSome

/-- Only the name, the preference and the remembered backups of the configuration differ. -/
def KeepsTrust (config : NodeConfig) (before after : Files) : Prop :=
  ∃ name lan remembered, after = before.reconfigured { config with
    deviceName := name, lanDiscoveryEnabled := lan, rememberedBackups := remembered }

variable {owner : Owner} {files : Files} {config candidate : NodeConfig}
  {imported : ExportedDeviceSettings} {backupId : BackupId} {snapshotId : String}

/-- Whether the configuration allows the key epoch of a snapshot. -/
def EpochAllowed (config : NodeConfig) (backupId : BackupId) (snapshot : StoredSnapshot) : Prop :=
  ∀ state, config.rememberedBackups.get? backupId = some state →
    snapshot.envelope.keyEpoch ≤ state.keyEpoch

/-- Of the remembered backups, authentication only reads a key epoch, at its end. -/
theorem authenticateSnapshot_eq_ok {snapshot : StoredSnapshot} {manifest : Manifest} :
    authenticateSnapshot owner files config backupId snapshotId snapshot = .ok manifest ↔
      authenticateSnapshot owner files { config with rememberedBackups := ∅ } backupId snapshotId
          snapshot = .ok manifest ∧ EpochAllowed config backupId snapshot := by
  let older (remembered : BTreeMap BackupId RememberedBackupState) : Bool :=
    (remembered.get? backupId).any fun state => decide (state.keyEpoch < snapshot.envelope.keyEpoch)
  have passes (rest : Unit → Result Manifest) :
      (refuse false CoreError.authenticationFailed >>= rest) = rest () := rfl
  have last : authenticateSnapshot owner files config backupId snapshotId snapshot =
      (authenticateSnapshot owner files { config with rememberedBackups := ∅ } backupId snapshotId
        snapshot >>= fun manifest => do
          refuse (older config.rememberedBackups) .authenticationFailed
          pure manifest) := by
    unfold authenticateSnapshot
    split_ifs <;> simp only [bind_assoc, pure_bind, older, get?_empty, Option.any_none, passes]
  rw [last]
  unfold EpochAllowed
  cases found : config.rememberedBackups.get? backupId <;> simp [older, found]

theorem loadAuthenticated_eq_ok (running : files.memory = some config)
    {found : StoredSnapshot × Manifest} :
    loadAuthenticated owner files backupId snapshotId = .ok found ↔
      loadSnapshot files backupId snapshotId = .ok found.1 ∧
        authenticateSnapshot owner files { config with rememberedBackups := ∅ } backupId snapshotId
          found.1 = .ok found.2 ∧ EpochAllowed config backupId found.1 := by
  rw [loadAuthenticated, running, ← authenticateSnapshot_eq_ok]
  simp [okOr, Prod.ext_iff]

omit [Primitives] [CapsuleFormats] in
/-- A snapshot that is listed is stored under its own name. -/
theorem loadSnapshot_listed {snapshots : List StoredSnapshot} {snapshot : StoredSnapshot}
    (listed : listSnapshots files = .ok snapshots) (stored : snapshot ∈ snapshots) :
    loadSnapshot files snapshot.backupId snapshot.snapshotId = .ok snapshot := by
  have member : (Except.ok snapshot : Result _) ∈ snapshots.map .ok :=
    mem_map_of_mem stored
  rw [← Except.mapM_eq_ok.mp listed] at member
  obtain ⟨key, -, loaded⟩ := mem_map.mp member
  have names := loaded
  simp only [loadSnapshot, bind_eq_ok, exists_unit, refuse_eq_ok, pure_eq_ok,
    Bool.or_eq_false_iff, bne_eq_false_iff_eq] at names
  obtain ⟨_, -, -, ⟨backup, id⟩, rfl⟩ := names
  rwa [backup, id]

theorem listBackups_succeeds (running : files.memory = some config) :
    (∃ summaries, listBackups owner files = .ok summaries) ↔
      ∃ snapshots, listSnapshots files = .ok snapshots ∧
        (∀ snapshot ∈ snapshots, ∃ manifest, authenticateSnapshot owner files config
          snapshot.backupId snapshot.snapshotId snapshot = .ok manifest) ∧
        ∀ entry ∈ config.rememberedBackups.entries,
          ∃ latest, findLatest (snapshots.filter fun snapshot => snapshot.backupId == entry.1)
            entry.2.latestSnapshotId = .ok latest := by
  have summarized (snapshots) (entry : BackupId × RememberedBackupState) :
      (∃ summary, summarize snapshots entry = .ok summary) ↔
        ∃ latest, findLatest (snapshots.filter fun snapshot => snapshot.backupId == entry.1)
          entry.2.latestSnapshotId = .ok latest := by
    simp [summarize]
  simp [listBackups, running, okOr, Except.exists_mapM_eq_ok, summarized]

theorem garbageCollect_returned {spared : String → Bool} :
    (returned (garbageCollect owner spared ⟨files, []⟩)).isSome ↔ ∀ key ∈ files.snapshots.keys,
        ∃ found, loadAuthenticated owner files (ofLex key).1 (ofLex key).2 = .ok found := by
  rw [← Except.exists_mapM_eq_ok]
  have collected : (returned (garbageCollect owner spared ⟨files, []⟩)).isSome ↔
      ∃ index, retentionIndex owner files = .ok index := by
    cases known : retentionIndex owner files with
    | error problem => simp [garbageCollect, check, known, returned, bind, EStateM.bind]
    | ok index => simp [garbageCollect, check, act, known, returned, bind, EStateM.bind]
  rw [collected]
  simp [retentionIndex]

variable [ConfigFormats]

/-- No snapshot of a later key epoch belongs to a backup that the settings name and the
configuration does not remember. -/
def BringsBackNone (owner : Owner) (files : Files) (config : NodeConfig)
    (imported : ExportedDeviceSettings) : Prop :=
  ∀ descriptor ∈ imported.rememberedBackups,
    config.rememberedBackups.get? descriptor.backupId = none → ∀ snapshotId found,
      loadAuthenticated owner files descriptor.backupId snapshotId = .ok found →
        found.1.envelope.keyEpoch ≤ 1

section

variable {found : StoredSnapshot × Manifest}
  (accepted : settingsCandidate config imported true = .ok candidate)

include accepted

/-- An import that keeps every snapshot brings back none. -/
theorem KeepsAccess.bringsBackNone (kept : KeepsAccess owner files (files.reconfigured candidate)) :
    BringsBackNone owner files config imported := by
  intro descriptor named unknown snapshotId found loaded
  have again := kept.loads descriptor.backupId snapshotId found loaded
  obtain ⟨-, -, allowed⟩ := (loadAuthenticated_eq_ok (files.memory_reconfigured candidate)).mp again
  refine allowed ⟨descriptor, 1, none, ⟨∅⟩⟩ ((remembered_imported accepted).mpr ?_)
  exact ⟨descriptor, named, rfl, by rw [importedState, unknown]⟩

variable (running : files.memory = some config)

include running

/-- An import that brings back none keeps every snapshot. -/
theorem BringsBackNone.loads (none : BringsBackNone owner files config imported)
    (loaded : loadAuthenticated owner files backupId snapshotId = .ok found) :
    loadAuthenticated owner (files.reconfigured candidate) backupId snapshotId = .ok found := by
  obtain ⟨read, authentic, allowed⟩ := (loadAuthenticated_eq_ok running).mp loaded
  have permitted : EpochAllowed candidate backupId found.1 := by
    intro state remembered
    obtain ⟨descriptor, named, rfl, rfl⟩ := (remembered_imported accepted).mp remembered
    unfold importedState
    cases before : config.rememberedBackups.get? descriptor.backupId with
    | none => exact none descriptor named before snapshotId found loaded
    | some previous => exact allowed previous before
  obtain ⟨-, rfl⟩ := settingsCandidate_eq_ok accepted
  exact (loadAuthenticated_eq_ok (files.memory_reconfigured _)).mpr ⟨read, authentic, permitted⟩

/-- An import that brings back none keeps everything that could be done. -/
theorem BringsBackNone.keepsAccess (none : BringsBackNone owner files config imported) :
    KeepsAccess owner files (files.reconfigured candidate) := by
  have loads {backupId snapshotId found}
      (loaded : loadAuthenticated owner files backupId snapshotId = .ok found) :=
    none.loads accepted running loaded
  refine ⟨?_, ?_, ?_⟩
  · exact fun _ _ _ loaded => loads loaded
  · rw [listBackups_succeeds running, listBackups_succeeds (files.memory_reconfigured candidate)]
    rintro ⟨snapshots, listed, authentic, latest⟩
    refine ⟨snapshots, listed, fun snapshot stored => ?_, fun entry remembered => ?_⟩
    · obtain ⟨manifest, passed⟩ := authentic snapshot stored
      have read := loadSnapshot_listed listed stored
      have loaded : loadAuthenticated owner files snapshot.backupId snapshot.snapshotId =
          .ok (snapshot, manifest) :=
        (loadAuthenticated_eq_ok running).mpr ⟨read, authenticateSnapshot_eq_ok.mp passed⟩
      obtain ⟨-, again⟩ :=
        (loadAuthenticated_eq_ok (files.memory_reconfigured candidate)).mp (loads loaded)
      exact ⟨manifest, authenticateSnapshot_eq_ok.mpr again⟩
    · have remembered := get?_eq_some_iff.mpr remembered
      rcases latest_imported accepted remembered with unknown | ⟨previous, known, same⟩
      · rw [unknown]
        exact ⟨Option.none, rfl⟩
      · rw [same]
        exact latest (entry.1, previous) (get?_eq_some_iff.mp known)
  · intro spared
    rw [garbageCollect_returned, garbageCollect_returned]
    intro authentic key stored
    obtain ⟨found, loaded⟩ := authentic key stored
    exact ⟨found, loads loaded⟩

end

variable [SettingsFormats]

omit [Primitives] [CapsuleFormats] [ConfigFormats] in
/-- What is read from an export is what was exported. -/
theorem safeExport_of_read {text : SettingsFormats.Text}
    (exported : exportSettings config = .ok text) (read : readSettings text = .ok imported) :
    safeExport config = .ok imported := by
  simp only [exportSettings, readSettings, bind_eq_ok, exists_unit, pure_eq_ok, okOr_eq_ok]
    at exported read
  obtain ⟨settings, made, -, rfl⟩ := exported
  obtain ⟨-, _, decoded, -, rfl⟩ := read
  rw [SettingsFormats.decode_encode] at decoded
  exact Option.some.inj decoded ▸ made

omit [CapsuleFormats] in
/-- An accepted import makes the candidate the configuration, on disk and in memory. -/
theorem importText_left {text : SettingsFormats.Text} (running : files.memory = some config)
    (read : readSettings text = .ok imported)
    (accepted : settingsCandidate config imported true = .ok candidate) :
    left (importText text true ⟨files, []⟩) = files.reconfigured candidate := by
  simp [importText, importSettings, current, writeConfig, hold, check, act, assign, left, refuse,
    okOr, running, read, accepted, bind, EStateM.bind, Files.reconfigured]

/-- An import keeps access to the stored snapshots, leaves everything but the settings as it
was, and changes nothing when it is of the device's own export. -/
def ImportKeeps (owner : Owner) (files : Files) (config : NodeConfig)
    (text : SettingsFormats.Text) : Prop :=
  KeepsAccess owner files (left (importText text true ⟨files, []⟩)) ∧
    KeepsTrust config files (left (importText text true ⟨files, []⟩)) ∧
    (exportSettings config = .ok text →
      left (importText text true ⟨files, []⟩) = files.reconfigured config)

theorem importKeeps_iff {text : SettingsFormats.Text} (running : files.memory = some config)
    (valid : config.validate = .ok ()) (read : readSettings text = .ok imported)
    (accepted : settingsCandidate config imported true = .ok candidate) :
    ImportKeeps owner files config text ↔ BringsBackNone owner files config imported := by
  rw [ImportKeeps, importText_left running read accepted]
  refine ⟨fun ⟨kept, _⟩ => kept.bringsBackNone accepted, fun none =>
    ⟨none.keepsAccess accepted running, ?_, fun exported => ?_⟩⟩
  · obtain ⟨-, rfl⟩ := settingsCandidate_eq_ok accepted
    exact ⟨_, _, _, rfl⟩
  · have brought := safeExport_imported accepted valid (safeExport_of_read exported read)
    rw [brought]

/-- **Importing settings.**  In every state, an accepted import keeps what it should if and only
if it brings back no backup with snapshots of a later key epoch. -/
theorem import_keeps_access_iff {text : SettingsFormats.Text} (running : files.memory = some config)
    (valid : config.validate = .ok ()) (read : readSettings text = .ok imported)
    (accepted : settingsCandidate config imported true = .ok candidate) :
    ImportKeeps owner files config text ↔ BringsBackNone owner files config imported :=
  importKeeps_iff running valid read accepted

/-- The same of every import in a run of backups, imports, changes of trust and restarts: the
configuration that it replaces has passed its check. -/
theorem run_importKeeps_iff [JobFormats] {start : Files} {events : List Event}
    {text : SettingsFormats.Text} (present : start.config ≠ none)
    (valid : ∀ config, start.memory = some config → config.validate = .ok ())
    (running : (run owner start events).memory = some config)
    (read : readSettings text = .ok imported)
    (accepted : settingsCandidate config imported true = .ok candidate) :
    ImportKeeps owner (run owner start events) config text ↔
      BringsBackNone owner (run owner start events) config imported :=
  importKeeps_iff running (run_valid events present valid running) read accepted

end Uses

/-! ## A backup that is forgotten and brought back -/

namespace Sample

open Engine.Sample

/-- Settings are their own texts. -/
scoped instance settingsFormats : SettingsFormats where
  Text := ExportedDeviceSettings
  bytes _ := 0
  encode := id
  decode := some
  decode_encode _ := rfl

/-- What a capsule of some key epoch encloses. -/
def payloadAt (capsule : RecoveryCapsule) : RecoveryCapsulePayload :=
  let plain := payload capsule.snapshotId capsule.committedAtUnixMs
  let envelope := { plain.snapshot.envelope with keyEpoch := capsule.keyEpoch }
  { plain with snapshot := { plain.snapshot with envelope := envelope } }

/-- The formats of the small engine, with capsules of every key epoch. -/
scoped instance epochFormats : CapsuleFormats :=
  { capsuleFormats with
    encryptPayload := fun _ capsule contents =>
      if contents = payloadAt capsule then .ok tagText else .error .invalidKeyMaterial
    decryptPayload := fun _ capsule _ => .ok (payloadAt capsule)
    decrypt_encryptPayload := by
      intro master capsule contents ciphertext encrypted
      split_ifs at encrypted with known
      obtain rfl := Except.ok.inj encrypted
      refine ⟨rfl, replicate 16 0, rfl, rfl, by decide, fun _ => ?_⟩
      rw [known]
      rfl }

/-- A backup of an empty folder. -/
def backing (snapshotId : String) (keyEpoch : Nat) : Event :=
  .call (.backup
    { options := ⟨backupId, "backup", snapshotId, keyEpoch, ⟨∅⟩, "", snapshotId, 1⟩
      sourceRootDigest := digestText 0
      generated := backupKey
      scan := .ok []
      acknowledgements := ∅
      manifestNonce := ""
      capsuleNonce := "" }) []

def settings (backups : List RememberedBackup) : ExportedDeviceSettings :=
  ⟨1, "device", false, backups⟩

/-- The settings that the engine exports after its backups. -/
def exported : ExportedDeviceSettings :=
  settings [⟨backupId, "backup", owner.deviceId⟩]

/-- The engine after two backups, the second with a later key epoch. -/
def backedUp : Files :=
  run owner files [backing "a" 1, backing "b" 2]

/-- The engine after an import that names no backup. -/
def forgetful : Files :=
  left (importText (settings []) true ⟨backedUp, []⟩)

/-- Importing what was exported right after exporting. -/
theorem own_export_keeps_access :
    KeepsAccess owner backedUp (left (importText exported true ⟨backedUp, []⟩)) := by
  let config := backedUp.memory.getD config
  have running : backedUp.memory = some config := by decide +kernel
  have valid : config.validate = .ok () := by decide +kernel
  have accepted : settingsCandidate config exported true = .ok config := by decide +kernel
  refine ((import_keeps_access_iff running valid rfl accepted).mpr ?_).1
  intro descriptor named unknown
  obtain rfl := mem_singleton.mp named
  exact absurd unknown (by decide +kernel)

/-- An import brings back a backup that another one forgot, and the snapshot of its later key
epoch can be loaded no more; neither can backups be listed or garbage be collected. -/
theorem reimport_loses_snapshot :
    let final := left (importText exported true ⟨forgetful, []⟩)
    backedUp.memory.map safeExport = some (.ok exported) ∧
      (loadAuthenticated owner forgetful backupId "b").isOk = true ∧
      (listBackups owner forgetful).isOk = true ∧
      (returned (garbageCollect owner (fun _ => false) ⟨forgetful, []⟩)).isSome = true ∧
      (loadAuthenticated owner final backupId "b").isOk = false ∧
      (listBackups owner final).isOk = false ∧
      (returned (garbageCollect owner (fun _ => false) ⟨final, []⟩)).isSome = false := by
  decide +kernel

end Sample

end Covalent.Home
