import Covalent.Home.Imports

/-!
# Recovery never goes backwards

An import records, for each backup, how recent the snapshot is that it is about to
publish, before it commits anything.  The record is part of the configuration, which every
other change writes too.

## Design notes

**What is pending.**  A change of rosters writes down a whole configuration.  If its last
step fails and the engine goes on, an import can record a watermark beside it; opening the
engine applies the old copy, which is compared with the current configuration in all fields
but the watermarks and a few others.
-/

namespace Covalent.Home

open Durable BTreeMap List Option
open Sharing (Primitives)
open Backup (Manifest)
open Engine (BackupKey CapsuleFormats Candidate CatalogSelection ConfigFormats NodeConfig
  Owner Recency RecoveryCapsule RecoveryCapsulePayload RememberedBackupState StoredSnapshot Visit
  collect collect_placed maxLiveCatalogBytes openWithManifest)

/-! ## Watermarks -/

/-- A configuration has recorded at least a recency for a backup. -/
def Reaches (config : NodeConfig) (backupId : BackupId) (floor : Recency) : Prop :=
  ∃ cursor, config.recoverySnapshotCursors.get? backupId = some cursor ∧
    floor ≤ cursorRecency cursor

/-- The watermark of a backup on disk. -/
def watermark (files : Files) (backupId : BackupId) : Option Recency :=
  (files.config.bind fun config => config.recoverySnapshotCursors.get? backupId).map cursorRecency

/-- A snapshot at least as recent as everything a configuration has recorded for a backup. -/
def Fresh (config : NodeConfig) (backupId : BackupId) (recency : Recency) : Prop :=
  ∀ floor, Reaches config backupId floor → floor ≤ recency

section

variable {files : Files} {config candidate marked value : NodeConfig} {backupId : BackupId}
  {floor : Recency} {entries : List (BackupId × Candidate)}

theorem planWatermarks_cons {candidate : Candidate} {rest : List (BackupId × Candidate)}
    (planned : planWatermarks files config ((backupId, candidate) :: rest) =
      .ok (.advanced marked)) :
    Fresh config backupId candidate.1.recency ∧ planWatermarks files
        { config with
          recoverySnapshotCursors := config.recoverySnapshotCursors.insert backupId
            ⟨candidate.1.committedAtUnixMs, candidate.1.snapshotId⟩ } rest =
        .ok (.advanced marked) := by
  simp only [planWatermarks, bind_eq_ok] at planned
  obtain ⟨remembered, -, ending⟩ := planned
  split_ifs at ending with older
  · cases pure_eq_ok.mp ending
  · refine ⟨?_, ending⟩
    rintro floor ⟨cursor, found, below⟩
    rw [Bool.or_eq_true, not_or, found] at older
    have notOlder : ¬candidate.1.recency < cursorRecency cursor := by simpa using older.1
    exact below.trans (not_lt.mp notOlder)

theorem reaches_planWatermarks
    (planned : planWatermarks files config entries = .ok (.advanced marked))
    (reaches : Reaches config backupId floor) : Reaches marked backupId floor := by
  induction entries generalizing config with
  | nil =>
    obtain rfl : config = marked := Watermarks.advanced.inj (pure_eq_ok.mp planned)
    exact reaches
  | cons entry rest ih =>
    obtain ⟨fresh, remaining⟩ := planWatermarks_cons planned
    refine ih remaining ?_
    by_cases here : backupId = entry.1
    · obtain rfl := here
      exact ⟨_, get?_insert_self _ _ _, fresh floor reaches⟩
    · obtain ⟨cursor, found, below⟩ := reaches
      exact ⟨cursor, (get?_insert_of_ne _ _ here).trans found, below⟩

theorem hereditary_reaches [Primitives] [ConfigFormats] :
    Hereditary (fun config => Reaches config backupId floor)
      fun config => Reaches config backupId floor where
  same one two cursors := by
    rintro ⟨cursor, found, below⟩
    exact ⟨cursor, cursors ▸ found, below⟩
  marked := reaches_planWatermarks
  running := id
  checked reaches _ := reaches

theorem fresh_planWatermarks (distinct : (entries.map Prod.fst).Nodup)
    (planned : planWatermarks files config entries = .ok (.advanced marked)) :
    ∀ entry ∈ entries, Fresh config entry.1 entry.2.1.recency := by
  induction entries generalizing config with
  | nil => exact nofun
  | cons first rest ih =>
    rw [map_cons, nodup_cons] at distinct
    obtain ⟨fresh, remaining⟩ := planWatermarks_cons planned
    intro entry member
    rcases mem_cons.mp member with rfl | later
    · exact fresh
    · rintro floor ⟨cursor, found, below⟩
      -- The watermark of a later backup is untouched by the first entry.
      have apart : entry.1 ≠ first.1 := by
        rintro same
        exact distinct.1 (same ▸ mem_map_of_mem later)
      refine ih distinct.2 remaining entry later floor ⟨cursor, ?_, below⟩
      exact (get?_insert_of_ne _ _ apart).trans found

/-! ## One import -/

/-- A snapshot of a backup is there and fresh, and the key of the backup is stored. -/
def Recovered (config : NodeConfig) (files : Files) (backupId : BackupId) (snapshotId : String) :
    Prop :=
  (files.keys.get? backupId).isSome ∧
    ∃ snapshot, files.snapshots.get? (toLex (backupId, snapshotId)) = some snapshot ∧
      Fresh config backupId (snapshotRecency snapshot)

/-- A configuration remembers what another one does, or what was recovered since. -/
def Backed (config : NodeConfig) (files : Files) (candidate : NodeConfig) : Prop :=
  ∀ backupId state, candidate.rememberedBackups.get? backupId = some state →
    config.rememberedBackups.get? backupId = some state ∨
      ∃ snapshotId, state.latestSnapshotId = some snapshotId ∧
        Recovered config files backupId snapshotId

/-- Only fresh snapshots were committed, and what is remembered is backed. -/
structure Forward (config : NodeConfig) (start files : Files) : Prop where
  snapshots : ∀ backupId snapshotId snapshot,
    files.snapshots.get? (toLex (backupId, snapshotId)) = some snapshot →
      start.snapshots.get? (toLex (backupId, snapshotId)) = some snapshot ∨
        Fresh config backupId (snapshotRecency snapshot)
  remembered : ∀ candidate, files.config = some candidate → Backed config files candidate
  pending : files.rosterTransaction = start.rosterTransaction

/-- Snapshots and keys that are there stay. -/
structure Extends (before after : Files) : Prop where
  snapshots : ∀ {key snapshot}, before.snapshots.get? key = some snapshot →
    after.snapshots.get? key = some snapshot
  keys : ∀ {backupId}, (before.keys.get? backupId).isSome → (after.keys.get? backupId).isSome

theorem Extends.trans {before between after : Files} (first : Extends before between)
    (second : Extends between after) : Extends before after :=
  ⟨fun found => second.snapshots (first.snapshots found),
    fun found => second.keys (first.keys found)⟩

variable {before later : Files}

theorem Recovered.mono {snapshotId : String}
    (recovered : Recovered config before backupId snapshotId) (extended : Extends before later) :
    Recovered config later backupId snapshotId := by
  obtain ⟨key, snapshot, present, fresh⟩ := recovered
  exact ⟨extended.keys key, snapshot, extended.snapshots present, fresh⟩

theorem Backed.mono (backed : Backed config before candidate) (extended : Extends before later) :
    Backed config later candidate := by
  intro backupId state found
  rcases backed backupId state found with old | ⟨snapshotId, latest, recovered⟩
  · exact .inl old
  · exact .inr ⟨snapshotId, latest, recovered.mono extended⟩

section Imports

variable {allowed : Fault → Prop} {start : Files}

theorem forward_writeConfig (forward : Forward config start files)
    (backed : Backed config files candidate) :
    Forward config start { files with config := some candidate } :=
  { forward with remembered := fun _ found => some.inj found ▸ backed }

theorem forward_persistOrValidateBackupKey {key : BackupKey}
    (forward : Forward config start files) :
    Triple allowed (persistOrValidateBackupKey backupId key) files
      (fun _ after => Forward config start after ∧ Extends files after ∧
        (after.keys.get? backupId).isSome)
      (Forward config start) := by
  have same : Extends files files := ⟨id, id⟩
  refine triple_checked forward fun incumbent read => ?_
  cases incumbent with
  | some found =>
    have present : files.keys.get? backupId = some found := pure_eq_ok.mp read
    refine triple_check (fun _ _ => ⟨forward, same, ?_⟩) fun _ _ => forward
    rw [present]
    rfl
  | none =>
    have extended : Extends files { files with keys := files.keys.insert backupId key } := by
      refine ⟨id, fun {other} present => ?_⟩
      show ((files.keys.insert backupId key).get? other).isSome
      exact BTreeMap.isSome_get?_insert.mpr (.inr present)
    have moved : Forward config start { files with keys := files.keys.insert backupId key } :=
      { forward with
        remembered := fun candidate found => (forward.remembered candidate found).mono extended }
    refine triple_act ⟨moved, extended, ?_⟩ (fun _ => forward) (fun _ => moved) fun _ _ => ?_
    · show ((files.keys.insert backupId key).get? backupId).isSome
      rw [get?_insert_self]
      rfl
    · exact { forward with }

theorem forward_commitRecoverySnapshot {snapshot : StoredSnapshot}
    (forward : Forward config start files)
    (fresh : Fresh config snapshot.backupId (snapshotRecency snapshot)) :
    Triple allowed (commitRecoverySnapshot snapshot) files
      (fun _ after => Forward config start after ∧ Extends files after ∧
        after.snapshots.get? (toLex (snapshot.backupId, snapshot.snapshotId)) = some snapshot)
      (Forward config start) := by
  refine triple_checked forward fun committed read => ?_
  simp only [bind_eq_ok, exists_unit] at read
  obtain ⟨-, -, read⟩ := read
  cases present : files.snapshots.get? (toLex (snapshot.backupId, snapshot.snapshotId)) with
  | some existing =>
    rw [present] at read
    simp only [bind_eq_ok, exists_unit, refuse_eq_ok, decide_eq_false_iff_not, not_not,
      pure_eq_ok] at read
    obtain ⟨rfl, rfl⟩ := read
    exact triple_pure ⟨forward, ⟨id, id⟩, present⟩
  | none =>
    rw [present] at read
    cases read
    have extended : Extends files { files with
        snapshots := files.snapshots.insert (toLex (snapshot.backupId, snapshot.snapshotId))
          snapshot } := by
      refine ⟨fun {key found} there => ?_, id⟩
      refine (get?_insert_of_ne _ _ fun here => ?_).trans there
      rw [here, present] at there
      cases there
    have moved : Forward config start { files with
        snapshots := files.snapshots.insert (toLex (snapshot.backupId, snapshot.snapshotId))
          snapshot } := by
      refine ⟨fun backupId snapshotId found there => ?_,
        fun candidate found => (forward.remembered candidate found).mono extended,
        forward.pending⟩
      rcases of_get?_insert there with ⟨here, rfl⟩ | ⟨-, inserted⟩
      · obtain ⟨rfl, rfl⟩ := Prod.mk.inj (toLex.injective here)
        exact .inr fresh
      · exact forward.snapshots backupId snapshotId found inserted
    show Triple allowed (insertSnapshot snapshot) files _ _
    refine triple_act ⟨moved, extended, ?_⟩ (fun _ => forward) (fun _ => moved) fun _ _ => forward
    exact get?_insert_self _ _ _

theorem planWatermarks_remembered {before : NodeConfig}
    (planned : planWatermarks files before entries = .ok (.advanced marked)) :
    marked.rememberedBackups = before.rememberedBackups := by
  induction entries generalizing before with
  | nil =>
    obtain rfl : before = marked := Watermarks.advanced.inj (pure_eq_ok.mp planned)
    rfl
  | cons entry rest ih =>
    have remaining := ih (planWatermarks_cons planned).2
    exact remaining

theorem forward_publishWatermarks (forward : Forward config start files)
    (backed : Backed config files marked) :
    Triple allowed (publishWatermarks marked) files
      (fun _ after => Forward config start after ∧ Extends files after)
      (Forward config start) := by
  have moved := forward_writeConfig forward backed
  refine triple_checked forward fun held _ => ?_
  split_ifs
  · exact triple_pure ⟨forward, ⟨id, id⟩⟩
  · refine triple_bind (triple_act ?_ (fun _ => forward) (fun _ => moved) fun _ _ => forward)
    exact triple_assign ⟨{ moved with }, ⟨id, id⟩⟩

variable [Primitives] [ConfigFormats] [CapsuleFormats] {owner : Owner}

theorem reopen_eq_ok {entry : BackupId × Candidate} {opened : RecoveryCapsulePayload × Manifest}
    (done : reopen owner entry = .ok opened) :
    opened.1.snapshot.backupId = entry.2.1.backupId ∧
      opened.1.snapshot.snapshotId = entry.2.1.snapshotId ∧
      snapshotRecency opened.1.snapshot = entry.2.1.recency := by
  simp only [reopen, openWithManifest, RecoveryCapsule.open, bind_eq_ok, exists_unit,
    refuse_eq_ok, Bool.or_eq_false_iff, bne_eq_false_iff_eq, pure_eq_ok] at done
  obtain ⟨_, ⟨payload, ⟨-, -, -, -, contents, -, -, ⟨⟨⟨⟨backup, snapshot⟩, -⟩, time⟩, -⟩, -, rfl⟩,
    manifest, -, rfl⟩, -, -, rfl⟩ := done
  refine ⟨backup, snapshot, ?_⟩
  show toLex (contents.snapshot.committedAtUnixMs, contents.snapshot.snapshotId) =
    toLex (entry.2.1.committedAtUnixMs, entry.2.1.snapshotId)
  rw [time, snapshot]

theorem forward_importCandidate {entry : BackupId × Candidate}
    (placed : entry.2.1.backupId = entry.1) (fresh : Fresh config entry.1 entry.2.1.recency)
    (forward : Forward config start files) (backed : Backed config files value) :
    Triple allowed (importCandidate owner value entry) files
      (fun next after => Forward config start after ∧ Backed config after next ∧
        Extends files after ∧ Recovered config after entry.1 entry.2.1.snapshotId)
      (Forward config start) := by
  refine triple_bind (triple_controlCheck ?_ forward)
  refine triple_checked forward fun opened done => ?_
  obtain ⟨backup, snapshotId, recency⟩ := reopen_eq_ok done
  refine triple_bind (triple_controlCheck ?_ forward)
  refine (forward_persistOrValidateBackupKey forward).andThen ?_
  rintro _ keyed ⟨forwardKeyed, extendedKeyed, key⟩
  have freshSnapshot : Fresh config opened.1.snapshot.backupId
      (snapshotRecency opened.1.snapshot) := by
    rw [backup, placed, recency]
    exact fresh
  refine (forward_commitRecoverySnapshot forwardKeyed freshSnapshot).andThen ?_
  rintro _ committed ⟨forwardCommitted, extendedCommitted, present⟩
  rw [backup, placed, snapshotId] at present
  have recovered : Recovered config committed entry.1 entry.2.1.snapshotId :=
    ⟨extendedCommitted.keys key, _, present, recency ▸ fresh⟩
  have extended := extendedKeyed.trans extendedCommitted
  refine triple_pure ⟨forwardCommitted, ?_, extended, recovered⟩
  intro other state found
  rcases of_get?_insert found with ⟨rfl, rfl⟩ | ⟨-, inserted⟩
  · exact .inr ⟨_, rfl, recovered⟩
  · exact backed.mono extended other state inserted

theorem forward_importAll (placed : ∀ entry ∈ entries, entry.2.1.backupId = entry.1)
    (fresh : ∀ entry ∈ entries, Fresh config entry.1 entry.2.1.recency)
    (forward : Forward config start files) (backed : Backed config files value) :
    Triple allowed (loop (importCandidate owner) value entries) files
      (fun last after => Forward config start after ∧ Backed config after last ∧
        Extends files after ∧
          ∀ entry ∈ entries, Recovered config after entry.1 entry.2.1.snapshotId)
      (Forward config start) := by
  induction entries generalizing files value with
  | nil => exact triple_pure ⟨forward, backed, ⟨id, id⟩, nofun⟩
  | cons first rest ih =>
    rw [forall_mem_cons] at placed fresh
    refine (forward_importCandidate placed.1 fresh.1 forward backed).andThen ?_
    rintro next between ⟨forwardNext, backedNext, extendedNext, recovered⟩
    refine (ih placed.2 fresh.2 forwardNext backedNext).mono ?_
    rintro last after ⟨forwardLast, backedLast, extendedLast, all⟩
    refine ⟨forwardLast, backedLast, extendedNext.trans extendedLast, ?_⟩
    exact forall_mem_cons.mpr ⟨recovered.mono extendedLast, all⟩

theorem forward_publishSelection {selection : CatalogSelection}
    (placed : ∀ entry ∈ selection.latest.entries, entry.2.1.backupId = entry.1)
    (fresh : ∀ entry ∈ selection.latest.entries, Fresh config entry.1 entry.2.1.recency)
    (forward : Forward config start files) (backed : Backed config files marked) :
    Triple allowed (publishSelection owner selection marked) files
      (fun report after => Forward config start after ∧
        ∀ item ∈ report.recoveredBackups, Recovered config after item.backupId item.snapshotId)
      (Forward config start) := by
  refine triple_bind (triple_controlCheck ?_ forward)
  refine triple_checked forward fun _ _ => ?_
  refine (forward_publishWatermarks forward backed).andThen ?_
  rintro _ noted ⟨forwardNoted, extended⟩
  refine (forward_importAll placed fresh forwardNoted (backed.mono extended)).andThen ?_
  rintro last stored ⟨forwardStored, backedLast, -, present⟩
  have published := forward_writeConfig forwardStored backedLast
  refine triple_bind (triple_controlCheck ?_ forwardStored)
  refine triple_checked forwardStored fun _ _ => ?_
  refine triple_bind (triple_act ?_ (fun _ => forwardStored) (fun _ => published)
    fun _ _ => forwardStored)
  refine triple_bind (triple_assign (triple_pure ⟨{ published with }, fun item member => ?_⟩))
  obtain ⟨entry, listed, rfl⟩ := mem_map.mp member
  exact present entry listed

/-- An import from a settled engine commits and publishes nothing that is older than what its
configuration has recorded, however it ends. -/
theorem forward_importRecoveryCatalogs {visits : List Visit} (held : files.memory = some config)
    (written : files.config = some config) :
    Triple allowed (importRecoveryCatalogs owner visits) files
      (fun report after => Forward config files after ∧
        ∀ item ∈ report.recoveredBackups, Recovered config after item.backupId item.snapshotId)
      (Forward config files) := by
  have begun : Forward config files files := by
    refine ⟨fun _ _ _ found => .inl found, fun candidate found => ?_, rfl⟩
    obtain rfl := some.inj (written.symm.trans found)
    exact fun _ _ remembered => .inl remembered
  refine triple_bind (triple_controlCheck ?_ begun)
  refine triple_checked begun fun selection collected => ?_
  refine triple_bind (triple_controlCheck ?_ begun)
  cases evidence : selection.blocked with
  | true => exact triple_pure ⟨begun, nofun⟩
  | false =>
    refine triple_checked begun fun memory read => ?_
    obtain rfl : memory = config := some.inj ((okOr_eq_ok.mp read).symm.trans held)
    refine triple_checked begun fun watermarks planned => ?_
    cases watermarks with
    | older candidate => exact triple_pure ⟨begun, nofun⟩
    | advanced marked =>
      refine forward_publishSelection (fun entry listed => collect_placed collected listed)
        (fresh_planWatermarks selection.latest.keys_nodup planned) begun ?_
      intro backupId state found
      rw [planWatermarks_remembered planned] at found
      exact .inl found

end Imports

/-! ## Runs -/

section Runs

variable [Primitives] [ConfigFormats] [CapsuleFormats] [JobFormats] {owner : Owner}
  {visits : List Visit} {script : List (Option Fault)}

omit [Primitives] [ConfigFormats] [CapsuleFormats] [JobFormats] in
theorem settled_iff :
    settled files = true ↔ ∃ config, files.memory = some config ∧ files.config = some config ∧
      files.rosterTransaction = none := by
  unfold settled
  rw [Bool.and_eq_true, Bool.and_eq_true, decide_eq_true_iff, isNone_iff_eq_none,
    isSome_iff_exists]
  constructor
  · rintro ⟨⟨⟨config, held⟩, same⟩, nothing⟩
    exact ⟨config, held, same.trans held, nothing⟩
  · rintro ⟨config, held, written, nothing⟩
    exact ⟨⟨⟨config, held⟩, written.trans held.symm⟩, nothing⟩

theorem forward_after (held : files.memory = some config) (written : files.config = some config) :
    Forward config files (after owner files (.call (.recover visits) script)) := by
  have importing : Triple (fun _ => True) (Change.perform owner (.recover visits)) files
      (fun _ => Forward config files) (Forward config files) := by
    refine (forward_importRecoveryCatalogs held written).andThen ?_
    exact fun _ _ both => triple_pure both.1
  exact left_of_triple importing fun _ forward => { forward with }

theorem guarded_after {good : NodeConfig → Prop} {kept : BackupId → Prop}
    (hereditary : Hereditary good good) {event : Event} (careful : Careful files event)
    (guarded : Guarded good good kept files.closed) :
    Guarded good good kept (after owner files event).closed := by
  cases event with
  | call change script =>
    obtain ⟨config, held, written, -⟩ := settled_iff.mp careful
    have running : Guarded good good kept files :=
      { guarded with
        memory := fun other found => by
          obtain rfl := some.inj (held.symm.trans found)
          exact guarded.config _ written }
    exact guarded_closed (left_of_keeps (keeps_perform hereditary) (fun _ => guarded_closed)
      running)
  | restart deviceName lanDiscoveryEnabled script =>
    exact guarded_closed (left_of_keeps (keeps_openEngine hereditary) (fun _ => guarded_closed)
      guarded)

theorem keys_run (events : List Event) (present : (files.keys.get? backupId).isSome) :
    ((run owner files events).keys.get? backupId).isSome := by
  have anything : Hereditary (fun _ => True) fun _ => True :=
    ⟨fun _ _ _ _ => trivial, fun _ _ => trivial, fun _ => trivial, fun _ _ => trivial⟩
  have guarded : Guarded (fun _ => True) (fun _ => True) (fun other => other = backupId) files :=
    ⟨fun _ _ => trivial, fun _ _ _ => trivial, fun _ _ => trivial, fun _ _ => trivial,
      fun _ same => same ▸ present⟩
  exact (guarded_run anything events guarded).keys backupId rfl

/-- What an import did to a backup whose watermark was recorded before. -/
structure NeverOlder (owner : Owner) (visits : List Visit) (script : List (Option Fault))
    (backupId : BackupId) (floor : Recency) (before final : Files) : Prop where
  /-- What it committed is not older. -/
  committed : ∀ snapshotId snapshot,
    final.snapshots.get? (toLex (backupId, snapshotId)) = some snapshot →
      before.snapshots.get? (toLex (backupId, snapshotId)) = some snapshot ∨
        floor ≤ snapshotRecency snapshot
  /-- What it published is not older. -/
  published : ∀ config state, final.config = some config →
    config.rememberedBackups.get? backupId = some state →
      (∃ previous, before.config = some previous ∧
        previous.rememberedBackups.get? backupId = some state) ∨
      ∃ snapshotId snapshot, state.latestSnapshotId = some snapshotId ∧
        final.snapshots.get? (toLex (backupId, snapshotId)) = some snapshot ∧
        floor ≤ snapshotRecency snapshot
  /-- What it reports as recovered is not older. -/
  reported : ∀ report session,
    importRecoveryCatalogs owner visits ⟨before, script⟩ = .ok report session →
      ∀ item ∈ report.recoveredBackups, item.backupId = backupId →
        ∃ snapshot, final.snapshots.get? (toLex (backupId, item.snapshotId)) = some snapshot ∧
          floor ≤ snapshotRecency snapshot

/-- Whatever an import published or reported has its key, then and at all later times. -/
structure KeysStored (owner : Owner) (visits : List Visit) (script : List (Option Fault))
    (before final : Files) : Prop where
  published : ∀ config backupId state, final.config = some config →
    config.rememberedBackups.get? backupId = some state →
      (∃ previous, before.config = some previous ∧
        previous.rememberedBackups.get? backupId = some state) ∨
      ∀ events, ((run owner final events).keys.get? backupId).isSome
  reported : ∀ report session,
    importRecoveryCatalogs owner visits ⟨before, script⟩ = .ok report session →
      ∀ item ∈ report.recoveredBackups,
        ∀ events, ((run owner final events).keys.get? item.backupId).isSome

theorem reported_of_ran (held : files.memory = some config) (written : files.config = some config)
    {report : RecoveryImportReport} {session : Session Files}
    (ran : importRecoveryCatalogs owner visits ⟨files, script⟩ = .ok report session) :
    after owner files (.call (.recover visits) script) = session.state ∧
      ∀ item ∈ report.recoveredBackups,
        Recovered config session.state item.backupId item.snapshotId := by
  have everything : Within (fun _ => True) script := fun _ _ => trivial
  have importing : Triple (fun _ => True) (importRecoveryCatalogs owner visits) files _ _ :=
    forward_importRecoveryCatalogs held written
  refine ⟨?_, ((importing.ensures everything).of_ok ran).2⟩
  show left ((importRecoveryCatalogs owner visits >>= fun _ => pure ()) ⟨files, script⟩) = _
  show left (EStateM.bind (importRecoveryCatalogs owner visits) _ ⟨files, script⟩) = _
  unfold EStateM.bind
  rw [ran]
  rfl

/-- The key of whatever an import from a settled engine publishes or reports is stored from
then on. -/
theorem keysStored_after (held : files.memory = some config)
    (written : files.config = some config) :
    KeysStored owner visits script files (after owner files (.call (.recover visits) script)) where
  published := by
    intro candidate other state wrote remembered
    rcases (forward_after held written).remembered candidate wrote other state remembered with
      old | ⟨-, -, key, -⟩
    · exact .inl ⟨config, written, old⟩
    · exact .inr fun events => keys_run events key
  reported := by
    intro report session ran item member events
    obtain ⟨final, items⟩ := reported_of_ran held written ran
    refine keys_run events ?_
    rw [final]
    exact (items item member).1

/-- An import from a settled engine whose configuration reaches a watermark goes back behind
it nowhere. -/
theorem neverOlder_after (held : files.memory = some config) (written : files.config = some config)
    {floor : Recency} (reached : Reaches config backupId floor) :
    NeverOlder owner visits script backupId floor files
      (after owner files (.call (.recover visits) script)) where
  committed := by
    intro snapshotId snapshot found
    rcases (forward_after held written).snapshots backupId snapshotId snapshot found with
      old | fresh
    · exact .inl old
    · exact .inr (fresh floor reached)
  published := by
    intro candidate state wrote remembered
    rcases (forward_after held written).remembered candidate wrote backupId state remembered with
      old | ⟨snapshotId, latest, -, snapshot, present, fresh⟩
    · exact .inl ⟨config, written, old⟩
    · exact .inr ⟨snapshotId, snapshot, latest, present, fresh floor reached⟩
  reported := by
    rintro report session ran item member rfl
    obtain ⟨final, items⟩ := reported_of_ran held written ran
    obtain ⟨-, snapshot, present, fresh⟩ := items item member
    rw [final]
    exact ⟨snapshot, present, fresh floor reached⟩

/-- A watermark that an import left on disk is reached by the configuration of every later
state of a run whose calls all start settled. -/
theorem reaches_run {events : List Event} {floor : Recency}
    (settledFirst : settled files = true)
    (careful : Trace.Along (after owner) Careful
      (after owner files (.call (.recover visits) script)) events)
    (mark : watermark (after owner files (.call (.recover visits) script)) backupId = some floor)
    (written : (run owner (after owner files (.call (.recover visits) script)) events).config =
      some config) : Reaches config backupId floor := by
  obtain ⟨first, firstHeld, firstWritten, nothing⟩ := settled_iff.mp settledFirst
  have forward : Forward first files (after owner files (.call (.recover visits) script)) :=
    forward_after firstHeld firstWritten
  generalize after owner files (.call (.recover visits) script) = recorded at *
  let reaching := Guarded (fun config => Reaches config backupId floor)
    (fun config => Reaches config backupId floor) (fun _ => False)
  have guarded : reaching recorded.closed := by
    -- The watermark is on disk, and the import left no change of rosters pending.
    obtain ⟨cursor, found, rfl⟩ := map_eq_some_iff.mp mark
    obtain ⟨marked, wrote, remembered⟩ := bind_eq_some_iff.mp found
    have reaches : Reaches marked backupId (cursorRecency cursor) := ⟨cursor, remembered, le_rfl⟩
    have unpending : recorded.rosterTransaction = none := forward.pending.trans nothing
    refine ⟨?_, ?_, nofun, ?_, nofun⟩
    · intro other same
      obtain rfl := some.inj (wrote.symm.trans same)
      exact reaches
    · intro absent
      cases wrote.symm.trans absent
    · intro transaction pending
      cases unpending.symm.trans pending
  have step : ∀ files event, Careful files event → reaching files.closed →
      reaching (after owner files event).closed :=
    fun _ _ => guarded_after hereditary_reaches
  exact (careful.induction step guarded).config config written

/-- In every run whose calls all start settled, the key of whatever an import publishes or
reports is stored from then on; and once an earlier import has recorded a watermark for a
backup, the import commits, publishes and reports no older snapshot of it. -/
theorem recovery_never_goes_back {start before : Files} {events : List Event}
    {visits : List Visit} {script : List (Option Fault)}
    (careful : Trace.Along (after owner) Careful start
      (events ++ [.call (.recover visits) script]))
    (beforeAt : before = run owner start events) :
    KeysStored owner visits script before (after owner before (.call (.recover visits) script)) ∧
      ∀ early earlier earlierScript middle backupId floor,
        events = early ++ .call (.recover earlier) earlierScript :: middle →
        watermark (run owner start (early ++ [.call (.recover earlier) earlierScript])) backupId =
          some floor →
        NeverOlder owner visits script backupId floor before
          (after owner before (.call (.recover visits) script)) := by
  obtain ⟨carefulEvents, carefulLast, -⟩ := Trace.along_append.mp careful
  obtain ⟨config, held, written, -⟩ : ∃ config, before.memory = some config ∧
      before.config = some config ∧ before.rosterTransaction = none := by
    rw [beforeAt]
    exact settled_iff.mp carefulLast
  refine ⟨keysStored_after held written, ?_⟩
  rintro early earlier earlierScript middle backupId floor rfl mark
  obtain ⟨-, carefulFirst, carefulMiddle⟩ := Trace.along_append.mp carefulEvents
  refine neverOlder_after held written (reaches_run carefulFirst carefulMiddle ?_ ?_)
  · simpa [run] using mark
  · rw [beforeAt] at written
    simpa [run] using written

end Runs

end

/-! ## A change of rosters that outlives a watermark -/

namespace Sample

open Engine.Sample

/-- An import of one snapshot from one provider. -/
def recovering (snapshotId : String) (time : Nat) (script : List (Option Fault)) : Event :=
  .call (.recover [visit [capsule snapshotId time]]) script

/-- A peer is trusted, but the transaction cannot be removed afterwards. -/
def unfinishedTrust : Event :=
  .call (.trust (grant 3) none) [none, none, none, some .refused]

/-- The process ends when an import has just written its watermark. -/
def cutAfterWatermark : List (Option Fault) :=
  [none, none, none, some .cut]

/-- An import that is cut off, a restart and an import of a later snapshot: the keys of both
imports stay, and the second does not go back. -/
theorem watermark_survives_restart :
    let recorded := run owner files [recovering "b" 5 cutAfterWatermark]
    let before := run owner recorded [.restart "device" false []]
    watermark recorded backupId = some (toLex (5, "b")) ∧
      KeysStored owner [visit [capsule "b" 5]] cutAfterWatermark files recorded ∧
      KeysStored owner [visit [capsule "c" 6]] [] before
        (after owner before (recovering "c" 6 [])) ∧
      NeverOlder owner [visit [capsule "c" 6]] [] backupId (toLex (5, "b")) before
        (after owner before (recovering "c" 6 [])) := by
  have mark : watermark (run owner files [recovering "b" 5 cutAfterWatermark]) backupId =
      some (toLex (5, "b")) := by decide +kernel
  have first : settled files = true := by decide +kernel
  have last : settled (run owner (run owner files [recovering "b" 5 cutAfterWatermark])
      [.restart "device" false []]) = true := by decide +kernel
  have careful : Trace.Along (after owner) Careful files
      ([recovering "b" 5 cutAfterWatermark, .restart "device" false []] ++
        [recovering "c" 6 []]) := ⟨first, trivial, last, trivial⟩
  obtain ⟨keys, never⟩ := recovery_never_goes_back careful rfl
  exact ⟨mark, (@recovery_never_goes_back _ _ _ _ _ files _ [] _ _ ⟨first, trivial⟩ rfl).1, keys,
    never [] _ _ _ _ _ rfl mark⟩

/-- The watermark of an import is lost when a change of rosters that began before it is
applied at the next start, and the next import publishes an older snapshot. -/
theorem stale_roster_transaction_loses_watermark :
    let recorded := run owner files [unfinishedTrust, recovering "b" 5 cutAfterWatermark]
    let before := run owner recorded [.restart "device" false []]
    let final := after owner before (recovering "a" 1 [])
    watermark recorded backupId = some (toLex (5, "b")) ∧ watermark before backupId = none ∧
      (returned (importRecoveryCatalogs owner [visit [capsule "a" 1]] ⟨before, []⟩)).map
          RecoveryImportReport.recoveredBackups =
        some [⟨backupId, "a", (∅ : DeviceSet).insert ⟨⟨2⟩⟩ ()⟩] ∧
      final.snapshots.get? (toLex (backupId, "a")) = some (snapshot "a" 1) ∧
      before.snapshots.get? (toLex (backupId, "a")) = none ∧
      snapshotRecency (snapshot "a" 1) < toLex (5, "b") := by
  refine ⟨?_, ?_, ?_, ?_, ?_, ?_⟩ <;> decide +kernel

end Sample

end Covalent.Home
