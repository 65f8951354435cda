import Covalent.Base.BTreeMap
import Covalent.Base.Result
import Covalent.Base.Uuid
import Mathlib.Data.String.Basic

/-!
# The transfer policy of one destination folder

A destination remembers, for each folder, which paths its link has copied
(`owned`), the inventory entry under which each path was last delivered
(`delivered`) and which paths its user deleted and does not want back
(`suppressions`).  From these and the two current inventories a run computes the
paths it hands to the copy program and, when it ends, the next policy.

This module holds the data and the pure functions; `Covalent.Transfer.Run` puts
them in the order in which `transfer_destination` calls them.

## Design notes

Sets of paths are `Finset`s: the source visits an ordered set only to treat each
path on its own, so the order is not observable.
-/

namespace Covalent.Transfer

open BTreeMap Option

/-! ## Data -/

/-- One file of a listing. -/
structure InventoryEntry where
  path : String
  size : Int
  modifiedUnixSeconds : Int
  sha256 : Option String
deriving DecidableEq

/-- A listing by path. -/
abbrev Inventory := BTreeMap String InventoryEntry

/-- Collect a listing by path. -/
def byPath (entries : List InventoryEntry) : Inventory :=
  ofList (entries.map fun entry => (entry.path, entry))

/-- The fingerprint of a source listing. -/
structure EngineIndexSnapshot where
  indexId : String
  sequence : Nat
deriving DecidableEq

/-- A transfer that was announced in the policy before the copy program ran. -/
structure PendingTransfer where
  sourceIndex : EngineIndexSnapshot
  source : Inventory
  allowed : Finset String
  suppressions : Finset String
  propagateSourceDeletions : Bool
deriving DecidableEq

structure FolderPolicyState where
  owned : Finset String := ∅
  delivered : Inventory := ∅
  suppressions : Finset String := ∅
  pending : Option PendingTransfer := none
  copyCompleted : Bool := false

/-- The policy file. -/
structure PolicyState where
  version : Nat
  folders : BTreeMap Uuid FolderPolicyState

/-- The policy of a folder, empty when the file does not name it. -/
def PolicyState.folder (policy : PolicyState) (folderId : Uuid) : FolderPolicyState :=
  (policy.folders.get? folderId).getD {}

def PolicyState.setFolder (policy : PolicyState) (folderId : Uuid)
    (state : FolderPolicyState) : PolicyState :=
  { policy with folders := policy.folders.insert folderId state }

@[simp]
theorem PolicyState.folder_setFolder (policy : PolicyState) (folderId : Uuid)
    (state : FolderPolicyState) :
    (policy.setFolder folderId state).folder folderId = state := by
  simp [PolicyState.folder, PolicyState.setFolder]

@[simp]
theorem PolicyState.setFolder_setFolder (policy : PolicyState)
    (folderId : Uuid) (first second : FolderPolicyState) :
    (policy.setFolder folderId first).setFolder folderId second =
      policy.setFolder folderId second := by
  have folders : (policy.folders.insert folderId first).insert folderId second =
      policy.folders.insert folderId second := by
    refine ext_get? fun key => ?_
    simp only [get?_insert]
    split_ifs <;> rfl
  simp [PolicyState.setFolder, folders]

inductive EngineSessionError
  | invalidConfiguration
  | runtimeUnavailable
  | folderUnavailable
  | launchFailed
  | startupTimeout
  | startupMismatch
  | engineUnavailable
  | transferFailed
  | pendingCopyRecoveryRequired
deriving DecidableEq

/-! ## Decisions of a run -/

section

variable (state : FolderPolicyState) (source target : Inventory) (propagate restore : Bool)

/-- Paths listed under `delivered` count as owned. -/
def FolderPolicyState.ownDelivered : FolderPolicyState :=
  { state with owned := state.owned ∪ state.delivered.keySet }

/-- An announced transfer whose copy was not recorded may be retried only when
local deletions are restored, and only when it cannot have left a file behind
that the source no longer has and that nobody owns. -/
def checkPendingRetry (restore : Bool) : Except EngineSessionError Unit :=
  match state.pending.filter (fun _ => !state.copyCompleted) with
  | none => .ok ()
  | some pending =>
    refuse (!restore || decide (∃ path ∈ pending.allowed,
          pending.source.containsKey path && !source.containsKey path &&
            target.containsKey path && !decide (path ∈ state.owned)))
      .pendingCopyRecoveryRequired

/-- The paths that stay suppressed or become so.  Without restoring, an owned
path that the source has and the target lacks was deleted by the user; an owned
path that the target has again is no longer suppressed. -/
def planSuppressions (restore : Bool) : Finset String :=
  if restore then ∅
  else
    (state.suppressions ∪ state.owned.filter
          (fun path => source.containsKey path && !target.containsKey path)) \
      state.owned.filter (fun path =>
          !(source.containsKey path && !target.containsKey path) && target.containsKey path)

/-- The paths of a run before suppression: new or changed source entries, missing
ones when restoring, and owned paths that left the source when deletions
propagate. -/
def planCandidates : Finset String :=
  let changed := source.keySet.filter (fun path => state.delivered.get? path ≠ source.get? path)
  let missing := source.keySet.filter (fun path => !target.containsKey path)
  let departed := state.owned.filter (fun path => !source.containsKey path)
  changed ∪ (if restore then missing else ∅) ∪ (if propagate then departed else ∅)

/-- The paths handed to the copy program, and the suppressed paths. -/
def planTransfer : Finset String × Finset String :=
  let suppressions := planSuppressions state source target restore
  ((planCandidates state source target propagate restore).filter (fun path => path ∉ suppressions),
    suppressions)

/-- The policy after a finished run. -/
def completeTransferState (source : Inventory) (suppressions : Finset String) (propagate : Bool) :
    FolderPolicyState :=
  if propagate then
    { owned := source.keySet
      delivered := source
      suppressions := suppressions
      pending := none
      copyCompleted := false }
  else
    { owned := state.owned ∪ source.keySet
      delivered := state.delivered.extend source
      suppressions := suppressions
      pending := none
      copyCompleted := false }

end

/-- Whether the source still lists the transferred paths as it did before. -/
def pendingPathsAreUnchanged (pending : PendingTransfer) (current : Inventory) : Bool :=
  decide (∀ path ∈ pending.allowed, current.get? path = pending.source.get? path)

/-- Every source path that is not suppressed is at the target with its size, and
no deleted path is left there. -/
def verifyTransfer (pending : PendingTransfer) (target : Inventory) :
    Except EngineSessionError Unit :=
  if pending.source.entries.all (fun binding =>
      decide (binding.1 ∈ pending.suppressions) ||
        (target.get? binding.1).any (fun entry => entry.size = binding.2.size)) &&
      !(pending.propagateSourceDeletions && decide (∃ path ∈ pending.allowed,
          !pending.source.containsKey path && target.containsKey path))
  then .ok ()
  else .error .engineUnavailable

/-- The listed paths that the source has: those the copy program writes. -/
def PendingTransfer.copyList (pending : PendingTransfer) : Finset String :=
  pending.allowed.filter (fun path => pending.source.containsKey path)

/-! ## The log of a failed copy program -/

/-- One parsed record of the log, with the fields the program reads. -/
structure LogRecord where
  msg : Option String
  level : Option String
  object : Option String
  size : Option Int

/-- The characters before the first occurrence of a separator, or all of them. -/
def beforeSeparator (separator : List Char) : List Char → List Char
  | [] => []
  | character :: rest =>
    if separator.isPrefixOf (character :: rest) then []
    else character :: beforeSeparator separator rest

/-- The action named by a log message. -/
def logAction (message : String) : String :=
  String.ofList (beforeSeparator " to: ".toList message.toList)

/-- The actions that report a finished file. -/
def copyActions : List String :=
  ["Copied (new)", "Copied (replaced existing)", "Multi-thread Copied (new)",
    "Multi-thread Copied (replaced existing)", "Copied (Rcat, new)",
    "Copied (Rcat, replaced existing)", "Copied (server-side copy)"]

/-- The paths that the log proves copied, or none when a line does not parse or
reports a copy that was not asked for: the log is then unusable. -/
def copiedPaths (pending : PendingTransfer) : List (Option LogRecord) → Option (Finset String)
  | [] => some ∅
  | none :: _ => none
  | some record :: rest =>
    if record.level ≠ some "info" ∨ logAction (record.msg.getD "") ∉ copyActions then
      copiedPaths pending rest
    else do
      let candidate ← record.object
      let entry ← (pending.source.get? candidate).filter
        (fun _ => decide (candidate ∈ pending.allowed))
      if record.size ≠ some entry.size then none
      else (copiedPaths pending rest).map (insert candidate)

/-! ## What the decisions establish -/

variable {state : FolderPolicyState} {source target : Inventory} {restore propagate : Bool}
  {path : String} {pending : PendingTransfer}

theorem mem_planSuppressions : path ∈ planSuppressions state source target restore ↔
      restore = false ∧ (path ∈ state.suppressions ∨
          path ∈ state.owned ∧ source.containsKey path = true ∧ target.containsKey path = false) ∧
        ¬ (path ∈ state.owned ∧ target.containsKey path = true) := by
  cases restore with
  | true => simp [planSuppressions]
  | false =>
    simp only [planSuppressions, Bool.false_eq_true, if_false,
      Finset.mem_sdiff, Finset.mem_union, Finset.mem_filter]
    cases source.containsKey path <;> cases target.containsKey path <;> simp

/-- Where a source path can be: handed to the copy program, suppressed, or left
alone because the link delivered exactly this entry before. -/
theorem planTransfer_source_cases
    {entry : InventoryEntry} (present : source.get? path = some entry) :
    path ∈ (planTransfer state source target propagate restore).1 ∨
      path ∈ (planTransfer state source target propagate restore).2 ∨
      state.delivered.get? path = some entry := by
  by_cases suppressed : path ∈ planSuppressions state source target restore
  · exact Or.inr (Or.inl suppressed)
  by_cases delivered : state.delivered.get? path = some entry
  · exact Or.inr (Or.inr delivered)
  · refine Or.inl (Finset.mem_filter.mpr ⟨?_, suppressed⟩)
    have member : path ∈ source.keySet := mem_keySet.mpr ⟨entry, present⟩
    simp [planCandidates, member, present, delivered]

/-- Why a path is handed over: its source entry is not the delivered one, or it is
missing at the target, or it left the source, is owned and deletions propagate. -/
theorem planTransfer_allowed
    (listed : path ∈ (planTransfer state source target propagate restore).1) :
    (state.delivered.get? path ≠ source.get? path ∨
        target.containsKey path = false ∨ source.get? path = none) ∧
      (source.get? path = none → propagate = true ∧ path ∈ state.owned) := by
  have candidate := (Finset.mem_filter.mp listed).1
  rw [planCandidates, Finset.mem_union, Finset.mem_union] at candidate
  have inSource : path ∈ source.keySet → source.get? path ≠ none := by
    intro member absent
    obtain ⟨entry, present⟩ := mem_keySet.mp member
    rw [absent] at present
    cases present
  rcases candidate with (changed | missing) | departed
  · obtain ⟨member, different⟩ := Finset.mem_filter.mp changed
    exact ⟨Or.inl (by simpa using different), fun absent => absurd absent (inSource member)⟩
  · cases restore with
    | false => exact absurd missing (Finset.notMem_empty path)
    | true =>
      obtain ⟨member, absent⟩ := Finset.mem_filter.mp missing
      exact ⟨Or.inr (Or.inl (by simpa using absent)), fun absent => absurd absent (inSource member)⟩
  · cases propagate with
    | false => exact absurd departed (Finset.notMem_empty path)
    | true =>
      obtain ⟨owned, absent⟩ := Finset.mem_filter.mp departed
      exact ⟨Or.inr (Or.inr (by simpa using absent)), fun _ => ⟨rfl, owned⟩⟩

theorem planTransfer_disjoint
    (listed : path ∈ (planTransfer state source target propagate restore).1) :
    path ∉ (planTransfer state source target propagate restore).2 :=
  (Finset.mem_filter.mp listed).2

theorem mem_copyList : path ∈ pending.copyList ↔
      path ∈ pending.allowed ∧ ∃ entry, pending.source.get? path = some entry := by
  simp [PendingTransfer.copyList]

theorem verifyTransfer_ok (verified : verifyTransfer pending target = .ok ())
    {entry : InventoryEntry} (present : pending.source.get? path = some entry)
    (wanted : path ∉ pending.suppressions) :
    ∃ found, target.get? path = some found ∧ found.size = entry.size := by
  unfold verifyTransfer at verified
  split_ifs at verified with holds
  have each := (Bool.and_eq_true_iff.mp holds).1
  rw [List.all_eq_true] at each
  have here := each (path, entry) (get?_eq_some_iff.mp present)
  simpa [wanted, any_eq_true] using here

theorem copiedPaths_subset {records : List (Option LogRecord)} {copied : Finset String}
    (parsed : copiedPaths pending records = some copied) :
    copied ⊆ pending.copyList := by
  induction records generalizing copied with
  | nil =>
    cases parsed
    exact Finset.empty_subset _
  | cons head rest ih =>
    cases head with
    | none => cases parsed
    | some record =>
      unfold copiedPaths at parsed
      split_ifs at parsed with skipped
      · exact ih parsed
      · simp only [bind_eq_bind, bind_eq_some_iff,
          filter_eq_some_iff, decide_eq_true_eq,
          ite_none_left_eq_some, map_eq_some_iff] at parsed
        obtain ⟨candidate, -, entry, ⟨known, asked⟩, -, others, parsedRest, rfl⟩ := parsed
        refine Finset.insert_subset ?_ (ih parsedRest)
        exact mem_copyList.mpr ⟨asked, entry, known⟩

end Covalent.Transfer
