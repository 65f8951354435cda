import Covalent.Home.Runs

/-!
# What an import publishes

An import that is not blocked publishes, for each backup, the latest of the authentic
capsules it received, with exactly the providers that handed it over.  Latest means the
latest recorded time, and the greatest identifier among equal times; the side that makes
backups only enforces that identifiers increase.
-/

namespace Covalent.Home

open Durable List BTreeMap Option
open Sharing (Primitives)
open Engine (BackupKey CapsuleFormats CatalogSelection ConfigFormats NodeConfig Owner
  RecoveryCapsule RememberedBackupState Visit Candidate authenticated collect collectWithLimit
  collect_blocked collect_chosen handed OneEach Blocks maxLiveCatalogBytes examine ofEvidence
  mem_ofEvidence)

section Imports

/-! ## One import -/

/-- What was recovered, as the report lists it. -/
def recoveredOf (selection : CatalogSelection) : List RecoveredBackup :=
  selection.latest.entries.map fun entry => ⟨entry.1, entry.2.1.snapshotId, entry.2.2⟩

/-- Whether a configuration remembers a snapshot as the latest of a backup. -/
def Remembers (config : NodeConfig) (backupId : BackupId) (snapshotId : String) : Prop :=
  ∃ state, config.rememberedBackups.get? backupId = some state ∧
    state.latestSnapshotId = some snapshotId

/-- Whether a directory and the running engine remember a snapshot of a backup. -/
def Published (files : Files) (backupId : BackupId) (snapshotId : String) : Prop :=
  ∃ config, files.config = some config ∧ files.memory = some config ∧
    Remembers config backupId snapshotId

/-- How an import that returns has ended. -/
inductive Imported (files : Files) (selection : CatalogSelection) (report : RecoveryImportReport)
    (after : Files) : Prop
  /-- The evidence blocks it. -/
  | blocked (evidence : selection.blocked = true) (flag : report.blocked = true)
      (nothing : report.recoveredBackups = [])
  /-- Something that was selected is older than what is known. -/
  | older {config : NodeConfig} {candidate : Candidate} (evidence : selection.blocked = false)
      (held : files.memory = some config)
      (plan : planWatermarks files config selection.latest.entries = .ok (.older candidate))
      (flag : report.blocked = true) (nothing : report.recoveredBackups = [])
  | published {config marked : NodeConfig} (evidence : selection.blocked = false)
      (held : files.memory = some config)
      (plan : planWatermarks files config selection.latest.entries = .ok (.advanced marked))
      (flag : report.blocked = false) (listed : report.recoveredBackups = recoveredOf selection)
      (remembered : ∀ entry ∈ selection.latest.entries,
        Published after entry.1 entry.2.1.snapshotId)

variable {owner : Owner} {files : Files} {allowed : Fault → Prop}

theorem triple_controlCheck {post : Unit → Files → Prop} {stop : Files → Prop}
    (fine : post () files) (stopped : stop files) :
    Triple allowed controlCheck files post stop :=
  triple_act fine (fun _ => stopped) (fun _ => stopped) fun _ _ => stopped

/-- A program that keeps whatever every call keeps runs from any files. -/
theorem triple_anything {α : Type} {program : Action α}
    (keeps : Keeps allowed (Guarded (fun _ => True) (fun _ => True) fun _ => False) program) :
    Triple allowed program files (fun _ _ => True) fun _ => True := by
  have guarded : Guarded (fun _ => True) (fun _ => True) (fun _ => False) files :=
    ⟨fun _ _ => trivial, fun _ _ _ => trivial, fun _ _ => trivial, fun _ _ => trivial, nofun⟩
  exact (keeps files guarded).imp (fun _ _ _ => trivial) fun _ _ => trivial

variable {config marked : NodeConfig} {report : RecoveryImportReport} {after : Files}
  {reordered : List Visit} {other : CatalogSelection}

theorem recency_le {one two : RecoveryCapsule} :
    one.recency ≤ two.recency ↔ one.committedAtUnixMs < two.committedAtUnixMs ∨
      one.committedAtUnixMs = two.committedAtUnixMs ∧ one.snapshotId ≤ two.snapshotId :=
  Prod.Lex.toLex_le_toLex

/-- Two imports from one directory with the same selection end in the same way. -/
theorem imported_same {selection : CatalogSelection} {otherReport : RecoveryImportReport}
    {otherAfter : Files} (latest : other.latest = selection.latest)
    (blocked : other.blocked = selection.blocked) (one : Imported files selection report after)
    (two : Imported files other otherReport otherAfter) :
    otherReport.blocked = report.blocked ∧
      otherReport.recoveredBackups = report.recoveredBackups := by
  have entries : recoveredOf other = recoveredOf selection := by
    unfold recoveredOf
    rw [latest]
  cases one with
  | blocked evidence flag nothing =>
    cases two with
    | blocked _ flagTwo nothingTwo => rw [flag, flagTwo, nothing, nothingTwo]; exact ⟨rfl, rfl⟩
    | older evidenceTwo => rw [blocked, evidence] at evidenceTwo; cases evidenceTwo
    | published evidenceTwo => rw [blocked, evidence] at evidenceTwo; cases evidenceTwo
  | older evidence held plan flag nothing =>
    cases two with
    | blocked evidenceTwo => rw [blocked, evidence] at evidenceTwo; cases evidenceTwo
    | older _ _ _ flagTwo nothingTwo =>
      rw [flag, flagTwo, nothing, nothingTwo]
      exact ⟨rfl, rfl⟩
    | published _ heldTwo planTwo =>
      obtain rfl := some.inj (held.symm.trans heldTwo)
      rw [latest, plan] at planTwo
      cases planTwo
  | published evidence held plan flag listed =>
    cases two with
    | blocked evidenceTwo => rw [blocked, evidence] at evidenceTwo; cases evidenceTwo
    | older _ heldTwo planTwo =>
      obtain rfl := some.inj (held.symm.trans heldTwo)
      rw [latest, plan] at planTwo
      cases planTwo
    | published _ _ _ flagTwo listedTwo =>
      rw [flag, flagTwo, listed, listedTwo]
      exact ⟨rfl, entries⟩

variable [Primitives] [ConfigFormats] [CapsuleFormats]

theorem triple_importCandidate {entry : BackupId × Candidate} :
    Triple allowed (importCandidate owner config entry) files
      (fun next _ => ∃ state, state.latestSnapshotId = some entry.2.1.snapshotId ∧
        next = { config with
          rememberedBackups := config.rememberedBackups.insert entry.1 state })
      fun _ => True := by
  refine triple_bind (triple_controlCheck ?_ trivial)
  refine triple_checked trivial fun opened _ => ?_
  refine triple_bind (triple_controlCheck ?_ trivial)
  refine (triple_anything keeps_persistOrValidateBackupKey).andThen fun _ stored _ => ?_
  refine (triple_anything keeps_commitSnapshotInternal).andThen fun _ committed _ => ?_
  exact triple_pure ⟨recoveredState owner entry opened, rfl, rfl⟩

theorem triple_importAll {entries : List (BackupId × Candidate)}
    (distinct : (entries.map Prod.fst).Nodup) :
    Triple allowed (loop (importCandidate owner) config entries) files
      (fun last _ => (∀ entry ∈ entries, Remembers last entry.1 entry.2.1.snapshotId) ∧
        ∀ backupId, backupId ∉ entries.map Prod.fst →
          last.rememberedBackups.get? backupId = config.rememberedBackups.get? backupId)
      fun _ => True := by
  induction entries generalizing config files with
  | nil => exact triple_pure ⟨nofun, fun _ _ => rfl⟩
  | cons entry rest ih =>
    rw [map_cons, nodup_cons] at distinct
    refine triple_importCandidate.andThen ?_
    rintro next _ ⟨state, latest, rfl⟩
    refine (ih distinct.2).imp ?_ fun _ _ => trivial
    rintro last _ ⟨all, others⟩
    refine ⟨?_, ?_⟩
    · intro item member
      rcases mem_cons.mp member with rfl | later
      · refine ⟨state, ?_, latest⟩
        rw [others _ distinct.1, get?_insert_self]
      · exact all item later
    · intro backupId absent
      rw [map_cons, mem_cons, not_or] at absent
      rw [others backupId absent.2]
      exact get?_insert_of_ne _ _ absent.1

theorem triple_publishSelection {selection : CatalogSelection} :
    Triple allowed (publishSelection owner selection marked) files
      (fun report after => report.blocked = false ∧
        report.recoveredBackups = recoveredOf selection ∧
        ∀ entry ∈ selection.latest.entries, Published after entry.1 entry.2.1.snapshotId)
      fun _ => True := by
  have distinct : (selection.latest.entries.map Prod.fst).Nodup := selection.latest.keys_nodup
  refine triple_bind (triple_controlCheck ?_ trivial)
  refine triple_checked trivial fun _ _ => ?_
  refine (triple_anything (keeps_publishWatermarks trivial trivial)).andThen fun _ noted _ => ?_
  refine (triple_importAll distinct).andThen ?_
  rintro last stored ⟨remembered, -⟩
  refine triple_bind (triple_controlCheck ?_ trivial)
  refine triple_checked trivial fun _ _ => ?_
  refine triple_bind (triple_act ?_ (fun _ => trivial) (fun _ => trivial) fun _ _ => trivial)
  refine triple_bind (triple_assign ?_)
  refine triple_pure ⟨rfl, rfl, fun entry member => ?_⟩
  exact ⟨last, rfl, rfl, remembered entry member⟩

/-- How an import ends, for every script of faults. -/
theorem triple_importRecoveryCatalogs {visits : List Visit} :
    Triple allowed (importRecoveryCatalogs owner visits) files
      (fun report after => ∃ selection, collect owner visits = .ok selection ∧
        Imported files selection report after)
      fun _ => True := by
  refine triple_bind (triple_controlCheck ?_ trivial)
  refine triple_checked trivial fun selection collected => ?_
  refine triple_bind (triple_controlCheck ?_ trivial)
  cases evidence : selection.blocked with
  | true => exact triple_pure ⟨selection, collected, .blocked evidence rfl rfl⟩
  | false =>
    refine triple_checked trivial fun config held => ?_
    have running : files.memory = some config := okOr_eq_ok.mp held
    refine triple_checked trivial fun watermarks plan => ?_
    cases watermarks with
    | older candidate =>
      exact triple_pure ⟨selection, collected, .older evidence running plan rfl rfl⟩
    | advanced marked =>
      refine triple_publishSelection.imp ?_ fun _ _ => trivial
      rintro report after ⟨flag, listed, remembered⟩
      exact ⟨selection, collected, .published evidence running plan flag listed remembered⟩

/-! ## The newest snapshot -/

/-- An authentic capsule with the greatest identifier of its backup. -/
def Newest (owner : Owner) (visits : List Visit) (capsule : RecoveryCapsule) : Prop :=
  (∃ provider, (provider, capsule) ∈ authenticated owner visits) ∧
    ∀ other ∈ authenticated owner visits, other.2.backupId = capsule.backupId →
      other.2.snapshotId ≤ capsule.snapshotId

/-- For each backup the snapshot with the greatest identifier is published, with exactly
the providers that supplied it. -/
structure PublishesNewest (owner : Owner) (visits : List Visit) (report : RecoveryImportReport)
    (after : Files) : Prop where
  newest : ∀ item ∈ report.recoveredBackups, ∃ capsule,
    capsule.backupId = item.backupId ∧ capsule.snapshotId = item.snapshotId ∧
      Newest owner visits capsule ∧
      ∀ provider, item.sourceProviders.containsKey provider = true ↔
        (provider, capsule) ∈ authenticated owner visits
  all : ∀ entry ∈ authenticated owner visits,
    ∃ item ∈ report.recoveredBackups, item.backupId = entry.2.backupId
  published : ∀ item ∈ report.recoveredBackups, Published after item.backupId item.snapshotId

/-- The capsule with the greatest identifier of each backup carries the latest time. -/
def ClocksAgree (owner : Owner) (visits : List Visit) : Prop :=
  ∀ capsule, Newest owner visits capsule → ∀ other ∈ authenticated owner visits,
    other.2.backupId = capsule.backupId → other.2.committedAtUnixMs ≤ capsule.committedAtUnixMs

/-- Two ways of visiting providers in which the same providers hand over the same capsules,
in whatever order, and something goes wrong in both or in neither. -/
structure Reordered (visits reordered : List Visit) : Prop where
  handed : ∀ entry, entry ∈ handed visits ↔ entry ∈ handed reordered
  troubled : (∃ visit ∈ visits, visit.troubled = true) ↔ ∃ visit ∈ reordered, visit.troubled = true

theorem oneEach_authenticated {history : List RecoveryCapsule} {visits : List Visit}
    (increasing : history.Pairwise fun earlier later =>
      earlier.backupId = later.backupId → earlier.snapshotId < later.snapshotId)
    (assigned : ∀ entry ∈ handed visits, entry.2 ∈ history) :
    OneEach (authenticated owner visits) where
  ofName := by
    intro one first two second sameBackup sameId
    have distinct : history.Pairwise fun left right =>
        left.backupId = right.backupId → left.snapshotId = right.snapshotId → left = right :=
      increasing.imp fun below backup id => absurd id (below backup).ne
    have symmetric : Std.Symm fun left right : RecoveryCapsule =>
        left.backupId = right.backupId → left.snapshotId = right.snapshotId → left = right :=
      ⟨fun left right holds backup id => (holds backup.symm id.symm).symm⟩
    exact List.Pairwise.forall_of_forall (fun _ _ _ _ => rfl) distinct
      (assigned one (mem_ofEvidence.mp first).1) (assigned two (mem_ofEvidence.mp second).1)
      sameBackup sameId
  ofRank one two same := (Prod.mk.inj (toLex.injective same)).2

theorem exists_newest {visits : List Visit} {entry : DeviceId × RecoveryCapsule}
    (arrived : entry ∈ authenticated owner visits) :
    ∃ capsule, Newest owner visits capsule ∧ capsule.backupId = entry.2.backupId := by
  classical
  let sameBackup := (authenticated owner visits).toFinset.filter
    fun other => other.2.backupId = entry.2.backupId
  have nonempty : sameBackup.Nonempty := ⟨entry, by simp [sameBackup, arrived]⟩
  obtain ⟨greatest, member, above⟩ :=
    sameBackup.exists_max_image (fun other => other.2.snapshotId) nonempty
  obtain ⟨present, backup⟩ : greatest ∈ authenticated owner visits ∧
      greatest.2.backupId = entry.2.backupId := by simpa [sameBackup] using member
  refine ⟨greatest.2, ⟨⟨greatest.1, present⟩, ?_⟩, backup⟩
  intro other handedOver sharing
  exact above other (by simp [sameBackup, handedOver, sharing, backup])

variable {visits : List Visit} {selection : CatalogSelection}

/-- The latest capsules of a selection are the newest ones exactly when the times agree. -/
theorem newest_iff_clocksAgree (distinct : OneEach (authenticated owner visits))
    (chosen : Selection.Chosen RecoveryCapsule.backupId RecoveryCapsule.recency
      (authenticated owner visits) selection.latest) :
    (∀ entry ∈ selection.latest.entries, Newest owner visits entry.2.1) ↔
      ClocksAgree owner visits := by
  constructor
  · intro newest capsule greatest other member sharing
    obtain ⟨⟨provider, arrived⟩, above⟩ := greatest
    obtain ⟨⟨kept, providers⟩, found⟩ := isSome_iff_exists.mp (chosen.covered _ arrived)
    obtain ⟨⟨keptFrom, keptArrived⟩, keptAbove⟩ := newest _ (get?_eq_some_iff.mp found)
    have backup : kept.backupId = capsule.backupId := (chosen.arrivedItem found).1
    -- Both have the greatest identifier of the backup, so they are the same capsule.
    obtain rfl : capsule = kept := distinct.ofName _ arrived _ keptArrived backup.symm
      (le_antisymm (keptAbove _ arrived backup.symm) (above _ keptArrived backup))
    rcases recency_le.mp (chosen.greatest found other member sharing) with earlier | ⟨same, -⟩
    · exact earlier.le
    · exact same.le
  · rintro agree ⟨backupId, kept, providers⟩ listed
    have found := get?_eq_some_iff.mpr listed
    obtain ⟨rfl, provider, arrived⟩ := chosen.arrivedItem found
    obtain ⟨newest, greatest, backup⟩ := exists_newest arrived
    obtain ⟨⟨supplier, newestArrived⟩, above⟩ := id greatest
    refine ⟨⟨provider, arrived⟩, fun other member sharing => ?_⟩
    have later := agree newest greatest _ arrived backup.symm
    have below : newest.snapshotId ≤ kept.snapshotId := by
      rcases recency_le.mp (chosen.greatest found _ newestArrived backup) with earlier | ⟨-, below⟩
      · exact absurd later (not_le.mpr earlier)
      · exact below
    exact (above other member (sharing.trans backup.symm)).trans below

theorem publishesNewest_iff (distinct : OneEach (authenticated owner visits))
    (chosen : Selection.Chosen RecoveryCapsule.backupId RecoveryCapsule.recency
      (authenticated owner visits) selection.latest)
    (listed : report.recoveredBackups = recoveredOf selection)
    (remembered : ∀ entry ∈ selection.latest.entries,
      Published after entry.1 entry.2.1.snapshotId) :
    PublishesNewest owner visits report after ↔
      ∀ entry ∈ selection.latest.entries, Newest owner visits entry.2.1 := by
  constructor
  · rintro ⟨newest, -, -⟩ ⟨backupId, kept, providers⟩ member
    obtain ⟨placed, supplier, arrived⟩ := chosen.arrivedItem (get?_eq_some_iff.mpr member)
    have item : (⟨backupId, kept.snapshotId, providers⟩ : RecoveredBackup) ∈
        report.recoveredBackups := by
      rw [listed]
      exact mem_map.mpr ⟨_, member, rfl⟩
    obtain ⟨capsule, backup, identifier, greatest, -⟩ := newest _ item
    obtain ⟨⟨provider, present⟩, -⟩ := id greatest
    obtain rfl : capsule = kept :=
      distinct.ofName _ present _ arrived (backup.trans placed.symm) identifier
    exact greatest
  · intro newest
    refine ⟨?_, ?_, ?_⟩
    · intro item member
      rw [listed] at member
      obtain ⟨entry, present, rfl⟩ := mem_map.mp member
      have found := get?_eq_some_iff.mpr present
      exact ⟨entry.2.1, (chosen.arrivedItem found).1, rfl, newest entry present,
        chosen.sources found⟩
    · intro entry arrived
      obtain ⟨candidate, found⟩ := isSome_iff_exists.mp (chosen.covered entry arrived)
      rw [listed]
      exact ⟨_, mem_map.mpr ⟨_, get?_eq_some_iff.mp found, rfl⟩, rfl⟩
    · intro item member
      rw [listed] at member
      obtain ⟨entry, present, rfl⟩ := mem_map.mp member
      exact remembered entry present

theorem Reordered.authenticated (same : Reordered visits reordered)
    (entry : DeviceId × RecoveryCapsule) :
    entry ∈ authenticated owner visits ↔ entry ∈ authenticated owner reordered := by
  unfold Engine.authenticated
  rw [mem_ofEvidence, mem_ofEvidence, same.handed entry]

theorem Reordered.blocks (same : Reordered visits reordered) :
    Blocks owner visits ↔ Blocks owner reordered := by
  unfold Blocks
  simp only [same.authenticated, same.handed, same.troubled]

theorem selection_eq
    (same : Reordered visits reordered) (distinct : OneEach (authenticated owner visits))
    (collected : collect owner visits = .ok selection)
    (collectedOther : collect owner reordered = .ok other) :
    other.latest = selection.latest ∧ other.blocked = selection.blocked := by
  have distinctOther : OneEach (authenticated owner reordered) :=
    distinct.mono fun entry member => (same.authenticated entry).mpr member
  refine ⟨?_, ?_⟩
  · exact ((collect_chosen distinct collected).eq distinct
      (collect_chosen distinctOther collectedOther) same.authenticated).symm
  · rw [Bool.eq_iff_iff, collect_blocked distinctOther collectedOther,
      collect_blocked distinct collected]
    exact same.blocks.symm

theorem imported_of_ran {script : List (Option Fault)} {after : Session Files}
    (ran : importRecoveryCatalogs owner visits ⟨files, script⟩ = .ok report after) :
    ∃ selection, collect owner visits = .ok selection ∧
      Imported files selection report after.state := by
  have everything : Within (fun _ => True) script := fun _ _ => trivial
  have holds : Triple (fun _ => True) (importRecoveryCatalogs owner visits) files _ _ :=
    triple_importRecoveryCatalogs
  exact (holds.ensures everything).of_ok ran

end Imports

/-! ## A clock that was set back -/

namespace Sample

open Engine.Sample

/-- A provider that hands over capsules. -/
def visit (capsules : List RecoveryCapsule) : Visit :=
  ⟨⟨⟨2⟩⟩, true, capsules.map fun capsule => ⟨1, capsule⟩, none, none⟩

/-- What an import from one provider publishes. -/
def published (capsules : List RecoveryCapsule) : Option (List RecoveredBackup) :=
  (returned (importRecoveryCatalogs owner [visit capsules] ⟨files, []⟩)).bind fun report =>
    if report.blocked then none else some report.recoveredBackups

end Sample

end Covalent.Home
