import Covalent.Sharing.Records

/-!
# The directory of restore plans

A node keeps every signed plan in a file of its own until the plan is a week old or its job is
discarded.  Starting the node, storing a plan, looking for the plan of a job and discarding a
job go through the whole directory and leave at the first name that no plan has.  A new plan
is first written to a staging file of the same directory.

## Design notes

**Crashes.**  A call yields the list of its writes; of a call that is cut off, some first part
of that list has reached the disk.  The staging file grows byte by byte.

**Order.**  A directory is read in the order of its names.  Whether a call succeeds does not
depend on it.
-/

namespace Covalent.Restore.PlanFiles

open BTreeMap List Option

open Sharing (isLowerHexDigest)

/-! ## Directories -/

/-- What an entry of a directory is.  Times are in nanoseconds. -/
inductive Node where
  | file (bytes : List UInt8) (modified : Nat)
  /-- A directory, a link or a device. -/
  | other

abbrev Directory := BTreeMap String Node

inductive Write where
  | remove (name : String)
  /-- The file with this name is now this one. -/
  | write (name : String) (node : Node)
  | rename (source target : String)

def Write.apply (directory : Directory) : Write → Directory
  | .remove name => directory.erase name
  | .write name node => directory.insert name node
  | .rename source target =>
    match directory.get? source with
    | some node => (directory.erase source).insert target node
    | none => directory

/-- The directory after some writes. -/
def applyAll (directory : Directory) (writes : List Write) : Directory :=
  writes.foldl Write.apply directory

/-- Whether a staging file has been written and not been renamed. -/
def leavesStaging (writes : List Write) : Bool :=
  (writes.any fun write => match write with | .write .. => true | _ => false) &&
    !writes.any fun write => match write with | .rename .. => true | _ => false

/-- Go through the entries of a directory, pick the names to be removed, and leave at the first
entry that is refused. -/
def pickEach {ε : Type} (check : String × Node → Except ε Bool) :
    List (String × Node) → List String × Except ε Unit
  | [] => ([], .ok ())
  | entry :: rest =>
    match check entry with
    | .error problem => ([], .error problem)
    | .ok picked =>
      let later := pickEach check rest
      (if picked then entry.1 :: later.1 else later.1, later.2)

section Entries

variable {ε : Type} {check : String × Node → Except ε Bool} {entries : List (String × Node)}

theorem pickEach_eq_ok :
    (pickEach check entries).2 = .ok () ↔
      ∀ entry ∈ entries, ∃ picked, check entry = .ok picked := by
  induction entries with
  | nil => simp [pickEach]
  | cons entry rest ih => cases checked : check entry <;> simp [pickEach, checked, ih]

theorem mem_pickEach {name : String} (picked : name ∈ (pickEach check entries).1) :
    ∃ node, (name, node) ∈ entries ∧ check (name, node) = .ok true := by
  induction entries with
  | nil => cases picked
  | cons entry rest ih =>
    cases checked : check entry with
    | error problem => simp [pickEach, checked] at picked
    | ok removed =>
      have here : removed = true ∧ name = entry.1 ∨ name ∈ (pickEach check rest).1 := by
        cases removed <;> simpa [pickEach, checked] using picked
      rcases here with ⟨rfl, rfl⟩ | later
      · exact ⟨entry.2, .head _, checked⟩
      · obtain ⟨node, listed, chosen⟩ := ih later
        exact ⟨node, .tail _ listed, chosen⟩

end Entries

theorem get?_applyAll_remove {directory : Directory} {name : String} {node : Node}
    (names : List String) :
    (applyAll directory (names.map .remove)).get? name = some node ↔
      directory.get? name = some node ∧ name ∉ names := by
  induction names generalizing directory with
  | nil => simp [applyAll]
  | cons first names ih =>
    rw [map_cons, applyAll, foldl_cons, ← applyAll, ih, Write.apply, get?_erase]
    split_ifs with same <;> simp [same]

theorem leavesStaging_remove (names : List String) : leavesStaging (names.map .remove) = false := by
  simp [leavesStaging]

/-! ## Calls -/

structure ApiError where
  status : Nat
  code : String
  message : String
  retryable : Bool

namespace ApiError

def badRequest (code message : String) : ApiError := ⟨400, code, message, false⟩
def notFound (code message : String) : ApiError := ⟨404, code, message, false⟩
def conflict (code message : String) : ApiError := ⟨409, code, message, false⟩
def payloadTooLarge (message : String) : ApiError := ⟨413, "resource_limit", message, false⟩
def internal (message : String) : ApiError := ⟨500, "internal_error", message, true⟩
def fromJson : ApiError :=
  badRequest "invalid_json" "The request does not match the versioned contract."

end ApiError

/-- How an error of the core is answered. -/
def ApiError.fromCore : CoreError → ApiError
  | .settingsImportNotConfirmed =>
    .conflict "confirmation_required" "Explicit local confirmation is required."
  | .jobConflict => .conflict "job_conflict"
    "The job ID is already bound to a different completed request."
  | .cancelled => .conflict "job_cancelled"
    "The job was cancelled and its checkpoint was discarded."
  | .restorePlanMismatch => .conflict "restore_plan_mismatch"
    "The restore plan changed after preview. Preview the restore again."
  | .corruptChunk _ | .authenticationFailed => ⟨422, "backup_corrupt",
    "Backup data failed authenticated integrity verification.", false⟩
  | .missingChunk _ => ⟨503, "backup_unavailable",
    "No intact authorized copy is currently available.", true⟩
  | .resourceLimit _ | .settingsTooLarge =>
    .payloadTooLarge "The request exceeded a configured resource limit."
  | .peerRevoked | .unselectedProvider | .identityMismatch =>
    ⟨403, "not_authorized", "The requested peer or provider is not authorized.", false⟩
  | .invalidKeyMaterial | .invalidState _ | .contract _ | .json =>
    .badRequest "invalid_contract" "The request does not satisfy the versioned protocol contract."
  | .io _ => .internal "The local engine could not complete the request."

def maxRestorePlans : Nat := 1024
def maxRestorePlanBytes : Nat := 256 * 1024 * 1024
def restorePlanMaxAge : Nat := 7 * 24 * 60 * 60 * 10 ^ 9

/-- The job and the digest of a signed plan, how a plan is written down, and the digest that
names it. -/
class PlanFormat where
  RestorePlan : Type
  jobId : RestorePlan → String
  planDigest : RestorePlan → String
  encode : RestorePlan → List UInt8
  decode : List UInt8 → Option RestorePlan
  decode_encode : ∀ plan, decode (encode plan) = some plan
  identify : String → String
  identify_lowerHex : ∀ digest, isLowerHexDigest (identify digest) = true

open PlanFormat

def validPlanIdentifier (value : String) : Bool :=
  (value.toList.dropSuffix? ".json".toList).any fun stem => isLowerHexDigest (String.ofList stem)

def planPath (planId : String) : String :=
  planId ++ ".json"

/-- Something modified in the future is not old. -/
def isStale (maximumAge now modified : Nat) : Bool :=
  decide (modified ≤ now) && decide (maximumAge ≤ now - modified)

section

variable (maximumAge maximumSize : Nat) (validName : String → Bool) (now : Nat) (root : Directory)

def checkPrivateFile : String × Node → Result Bool
  | (name, .file bytes modified) =>
    if decide (maximumSize < bytes.length) || !validName name then
      .error (.invalidState "invalid private state entry")
    else .ok (isStale maximumAge now modified)
  | (_, .other) => .error (.invalidState "invalid private state entry")

/-- The names of the files that are removed, up to the first entry that is refused. -/
def pruneStalePrivateFiles : List String × Result Unit :=
  pickEach (checkPrivateFile maximumAge maximumSize validName now) root.entries

def pruneRestorePlans : List String × Result Unit :=
  pruneStalePrivateFiles restorePlanMaxAge maxRestorePlanBytes validPlanIdentifier now root

end

/-- The start of a node.  What it does before and after the plans has results of its own. -/
def appStateNew (apiToken : String) (archives services : Result Unit) (now : Nat)
    (plans : Directory) : Result Unit := do
  refuse (decide (apiToken.utf8ByteSize < 32) || decide (512 < apiToken.utf8ByteSize))
    .invalidKeyMaterial
  archives
  (pruneRestorePlans now plans).2
  services

/-- The staging file is created empty and then gets the first bytes of its content. -/
def stage (staging : String) (now : Nat) (bytes : List UInt8) (count : Nat) : List Write :=
  (range count).map fun size => .write staging (.file (bytes.take size) now)

def persistPrivateFile (staging : String) (now : Nat) (path : String) (bytes : List UInt8) :
    List Write :=
  stage staging now bytes (bytes.length + 1) ++ [.rename staging path]

def stagingName (random : String) : String :=
  ".tmp" ++ random

section Calls

variable [PlanFormat]

def restorePlanIdentifier (planDigest : String) : Except ApiError String := do
  refuse (!isLowerHexDigest planDigest) (.internal "restore plan digest is invalid")
  return identify planDigest

def checkOtherPlan (plan : RestorePlan) (path : String) : String × Node → Except ApiError Unit
  | (name, .file bytes _) =>
    if name = path then .ok ()
    else do
      let existing ← okOr (decode bytes) .fromJson
      refuse (jobId existing == jobId plan) (.conflict "job_conflict"
        "This job ID is already bound to a different signed restore plan.")
  | (name, .other) =>
    refuse (name != path) (.internal "restore plan could not be read")

/-- Whether a plan still has to be written. -/
def admitRestorePlan (plan : RestorePlan) (path : String) (root : Directory) :
    Except ApiError Bool := do
  checkEach (checkOtherPlan plan path) root.entries
  refuse (!root.containsKey path && decide (maxRestorePlans ≤ root.len))
    (.payloadTooLarge "Too many restore plans are waiting for execution.")
  refuse (decide (maxRestorePlanBytes < (encode plan).length))
    (.payloadTooLarge "The restore plan exceeds the durable plan limit.")
  match root.get? path with
  | none => return true
  | some .other => .error (.internal "restore plan could not be read")
  | some (.file existing _) =>
    refuse (existing != encode plan) (.internal "restore plan ID is bound to different content")
    return false

/-- The writes of the call and its result. -/
def persistRestorePlan (random : String) (now : Nat) (plan : RestorePlan) (root : Directory) :
    List Write × Except ApiError String :=
  match restorePlanIdentifier (planDigest plan) with
  | .error problem => ([], .error problem)
  | .ok planId =>
    let removals := (pruneRestorePlans now root).1.map .remove
    match (pruneRestorePlans now root).2 with
    | .error problem => (removals, .error (.fromCore problem))
    | .ok () =>
      match admitRestorePlan plan (planPath planId) (applyAll root removals) with
      | .error problem => (removals, .error problem)
      | .ok false => (removals, .ok planId)
      | .ok true =>
        (removals ++ persistPrivateFile (stagingName random) now (planPath planId) (encode plan),
          .ok planId)

def loadRestorePlan (planId : String) (root : Directory) : Except ApiError RestorePlan := do
  refuse (!isLowerHexDigest planId)
    (.badRequest "invalid_restore_plan_id" "The restore plan ID is invalid.")
  match root.get? (planPath planId) with
  | none =>
    .error (.notFound "restore_plan_not_found" "The restore plan is unavailable or expired.")
  | some .other => .error (.internal "stored restore plan is invalid")
  | some (.file bytes _) =>
    refuse (decide (maxRestorePlanBytes < bytes.length))
      (.internal "stored restore plan is invalid")
    let plan ← okOr (decode bytes) .fromJson
    let identifier ← restorePlanIdentifier (planDigest plan)
    refuse (identifier != planId) (.internal "stored restore plan ID mismatch")
    return plan

/-- The plan in an entry, for a search through all of them. -/
def readPlanEntry : String × Node → Except ApiError RestorePlan
  | (name, .file bytes _) => do
    refuse (decide (maxRestorePlanBytes < bytes.length) || !validPlanIdentifier name)
      (.internal "restore plan entry is invalid")
    okOr (decode bytes) .fromJson
  | (_, .other) => .error (.internal "restore plan entry is invalid")

def findRestorePlanFrom (job : String) (found : Option RestorePlan) :
    List (String × Node) → Except ApiError (Option RestorePlan)
  | [] => .ok found
  | entry :: rest =>
    match readPlanEntry entry with
    | .error problem => .error problem
    | .ok plan =>
      if jobId plan = job then
        if found.isSome then .error (.internal "multiple restore plans are bound to one job")
        else findRestorePlanFrom job (some plan) rest
      else findRestorePlanFrom job found rest

def findRestorePlanByJob (job : String) (root : Directory) : Except ApiError (Option RestorePlan) :=
  findRestorePlanFrom job none root.entries

/-- The plan files that discarding a job removes. -/
def discardRestorePlans (job : String) (root : Directory) : List String × Except ApiError Unit :=
  pickEach (fun entry => (readPlanEntry entry).map (jobId · == job)) root.entries

/-! ## Stored plans -/

/-- The name of the file of a plan. -/
def fileOf (plan : RestorePlan) : String :=
  planPath (identify (planDigest plan))

/-- A directory has a plan under its own name. -/
structure Keeps (root : Directory) (plan : RestorePlan) (modified : Nat) : Prop where
  signed : isLowerHexDigest (planDigest plan) = true
  stored : ∃ bytes, root.get? (fileOf plan) = some (.file bytes modified) ∧
    decode bytes = some plan ∧ bytes.length ≤ maxRestorePlanBytes

/-- A directory of plans with different jobs. -/
structure Stored (root : Directory) : Prop where
  plans : ∀ name node, root.get? name = some node →
    ∃ plan modified, name = fileOf plan ∧ Keeps root plan modified
  jobs : ∀ plan other modified changed, Keeps root plan modified → Keeps root other changed →
    jobId plan = jobId other → plan = other

/-- What the start of a node leaves of the directory. -/
def started (now : Nat) (root : Directory) : Directory :=
  applyAll root ((pruneRestorePlans now root).1.map .remove)

/-- After a call at `now` the node starts, finds the plans that were stored before, and is not
hindered by a staging file. -/
structure Unblocked (random : String) (now : Nat) (before left : Directory) : Prop where
  starts : ∀ apiToken later, 32 ≤ apiToken.utf8ByteSize → apiToken.utf8ByteSize ≤ 512 →
    appStateNew apiToken (.ok ()) (.ok ()) later left = .ok ()
  loads : ∀ later plan modified, Keeps before plan modified →
    isStale restorePlanMaxAge now modified = false →
    isStale restorePlanMaxAge later modified = false →
    loadRestorePlan (identify (planDigest plan)) (started later left) = .ok plan
  finds : ∀ later job, ∃ found, findRestorePlanByJob job (started later left) = .ok found
  discards : ∀ later job, (discardRestorePlans job (started later left)).2 = .ok ()
  previews : ∀ later next another plan planId, (persistRestorePlan another next plan
      ((started later left).erase (stagingName random))).2 = .ok planId →
    (persistRestorePlan another next plan (started later left)).2 = .ok planId

variable {root : Directory} {plan : RestorePlan} {modified now : Nat} {random : String}

theorem validPlanIdentifier_fileOf (plan : RestorePlan) :
    validPlanIdentifier (fileOf plan) = true := by
  have stem := (dropSuffix?_eq_some_iff (l := (identify (planDigest plan)).toList ++ ".json".toList)
    (s := ".json".toList)).mpr ⟨_, rfl, beq_self_eq_true _⟩
  rw [validPlanIdentifier, fileOf, planPath, String.toList_append, stem]
  simpa using identify_lowerHex (planDigest plan)

omit [PlanFormat] in
/-- No plan has the name of a staging file. -/
theorem validPlanIdentifier_stagingName : validPlanIdentifier (stagingName random) = false := by
  rw [validPlanIdentifier, Option.any_eq_false]
  intro stem stripped
  obtain ⟨suffix, whole, -⟩ := dropSuffix?_eq_some_iff.mp stripped
  cases stem with
  | nil => simp [isLowerHexDigest]
  | cons first rest =>
    have dot : '.' = first := by
      simpa [stagingName] using congrArg head? whole
    subst dot
    simp [isLowerHexDigest]

theorem fileOf_ne_stagingName : fileOf plan ≠ stagingName random := fun same => by
  simpa [same, validPlanIdentifier_stagingName] using validPlanIdentifier_fileOf plan

/-- Pruning leaves every plan that is not old, however many of its removals are done. -/
theorem keeps_pruned (count : Nat) (keeps : Keeps root plan modified)
    (fresh : isStale restorePlanMaxAge now modified = false) :
    Keeps (applyAll root (((pruneRestorePlans now root).1.take count).map .remove)) plan
      modified := by
  obtain ⟨signed, bytes, found, decoded, small⟩ := keeps
  refine ⟨signed, bytes, (get?_applyAll_remove _).mpr ⟨found, fun removed => ?_⟩, decoded, small⟩
  obtain ⟨node, listed, stale⟩ := mem_pickEach (mem_of_mem_take removed)
  obtain rfl := some.inj (found.symm.trans (get?_eq_some_iff.mpr listed))
  simp [checkPrivateFile, validPlanIdentifier_fileOf, small.not_gt, fresh] at stale

section Stored

variable (stored : Stored root)

include stored

theorem Stored.checks {entry : String × Node} (listed : entry ∈ root.entries) (now : Nat) :
    ∃ plan modified, Keeps root plan modified ∧ entry.1 = fileOf plan ∧
      readPlanEntry entry = .ok plan ∧
      checkPrivateFile restorePlanMaxAge maxRestorePlanBytes validPlanIdentifier now entry =
        .ok (isStale restorePlanMaxAge now modified) := by
  obtain ⟨name, node⟩ := entry
  have found := get?_eq_some_iff.mpr listed
  obtain ⟨plan, modified, rfl, keeps⟩ := stored.plans name node found
  obtain ⟨bytes, same, decoded, small⟩ := keeps.stored
  obtain rfl := some.inj (found.symm.trans same)
  refine ⟨plan, modified, keeps, rfl, ?_, ?_⟩
  · simp [readPlanEntry, validPlanIdentifier_fileOf, small, decoded, refuse, okOr]
  · simp [checkPrivateFile, validPlanIdentifier_fileOf, small]

theorem Stored.staging_absent : root.get? (stagingName random) = none :=
  eq_none_iff_forall_ne_some.mpr fun node found =>
    let ⟨_, _, named, _⟩ := stored.plans _ node found
    fileOf_ne_stagingName named.symm

theorem Stored.removed (names : List String) : Stored (applyAll root (names.map .remove)) := by
  have known : ∀ {plan modified}, Keeps (applyAll root (names.map .remove)) plan modified →
      Keeps root plan modified := fun ⟨signed, bytes, found, rest⟩ =>
    ⟨signed, bytes, ((get?_applyAll_remove _).mp found).1, rest⟩
  refine ⟨fun name node left => ?_, fun plan other _ _ first second =>
    stored.jobs _ _ _ _ (known first) (known second)⟩
  obtain ⟨found, here⟩ := (get?_applyAll_remove names).mp left
  obtain ⟨plan, modified, rfl, signed, bytes, same, rest⟩ := stored.plans name node found
  exact ⟨plan, modified, rfl, signed, bytes, (get?_applyAll_remove names).mpr ⟨same, here⟩, rest⟩

theorem Stored.finds (job : String) : ∃ result, findRestorePlanByJob job root = .ok result := by
  have different : root.entries.Pairwise fun one two => ∀ plan, readPlanEntry one = .ok plan →
      ∀ other, readPlanEntry two = .ok other → jobId plan ≠ jobId other := by
    refine root.sorted.imp_of_mem fun {one two} first second below plan read other readToo same =>
      ?_
    obtain ⟨_, _, keeps, named, readOne, -⟩ := stored.checks first 0
    obtain ⟨_, _, keepsToo, namedToo, readTwo, -⟩ := stored.checks second 0
    cases read.symm.trans readOne
    cases readToo.symm.trans readTwo
    obtain rfl := stored.jobs _ _ _ _ keeps keepsToo same
    exact absurd (named.trans namedToo.symm) below.ne
  have readable : ∀ entry ∈ root.entries, ∃ plan, readPlanEntry entry = .ok plan := by
    intro entry listed
    obtain ⟨plan, _, _, _, read, _⟩ := stored.checks listed 0
    exact ⟨plan, read⟩
  rw [findRestorePlanByJob]
  -- once a plan of the job is found, no later entry has the job
  have single : (none : Option RestorePlan).isSome → ∀ entry ∈ root.entries, ∀ plan,
      readPlanEntry entry = .ok plan → jobId plan ≠ job := nofun
  generalize (none : Option RestorePlan) = found at single ⊢
  generalize root.entries = entries at different readable single ⊢
  induction entries generalizing found with
  | nil => exact ⟨found, rfl⟩
  | cons entry rest ih =>
    obtain ⟨plan, read⟩ := readable entry (.head _)
    obtain ⟨apart, different⟩ := pairwise_cons.mp different
    have later := fun found => ih found different fun entry listed =>
      readable entry (.tail _ listed)
    rw [findRestorePlanFrom, read]
    dsimp only
    split
    · next same =>
        rw [if_neg fun known => single known entry (.head _) plan read same]
        exact later _ fun _ two listed other readToo sameJob =>
          apart two listed plan read other readToo (same.trans sameJob.symm)
    · exact later _ fun known two listed => single known two (.tail _ listed)

/-- A directory of plans blocks nothing. -/
theorem unblocked_of_stored {before : Directory}
    (kept : ∀ plan modified, Keeps before plan modified →
      isStale restorePlanMaxAge now modified = false → Keeps root plan modified) :
    Unblocked random now before root := by
  have running : ∀ later, Stored (started later root) := fun later => stored.removed _
  refine ⟨fun apiToken later long short => ?_, fun later plan modified keeps fresh stays => ?_,
    fun later job => (running later).finds job, fun later job => ?_,
    fun later next another plan planId accepted => ?_⟩
  · have pruned : (pruneRestorePlans later root).2 = .ok () :=
      pickEach_eq_ok.mpr fun entry listed =>
        let ⟨_, _, _, _, _, checked⟩ := stored.checks listed later
        ⟨_, checked⟩
    simp [appStateNew, bind_eq_ok, pruned, long, short]
  · have there := keeps_pruned (pruneRestorePlans later root).1.length
      (kept plan modified keeps fresh) stays
    rw [take_length, ← started] at there
    obtain ⟨signed, bytes, found, decoded, small⟩ := there
    rw [fileOf] at found
    simp [loadRestorePlan, found, identify_lowerHex, refuse, small, decoded, okOr,
      restorePlanIdentifier, signed]
  · refine pickEach_eq_ok.mpr fun entry listed => ?_
    obtain ⟨plan, _, _, _, read, _⟩ := (running later).checks listed later
    exact ⟨_, by rw [read]; rfl⟩
  · have absent : (started later root).erase (stagingName random) = started later root := by
      refine ext_get? fun name => ?_
      rw [get?_erase]
      split_ifs with same
      · rw [same, (running later).staging_absent]
      · rfl
    rwa [absent] at accepted

end Stored

/-! ## Saving a plan -/

omit [PlanFormat] in
theorem applyAll_append (root : Directory) (first second : List Write) :
    applyAll root (first ++ second) = applyAll (applyAll root first) second :=
  foldl_append

omit [PlanFormat] in
theorem applyAll_stage (staging : String) (bytes : List UInt8) (count : Nat) :
    applyAll root (stage staging now bytes (count + 1)) =
      root.insert staging (.file (bytes.take count) now) := by
  induction count with
  | zero => rfl
  | succ count ih =>
    rw [stage, range_succ, map_append, applyAll_append, ← stage, ih]
    refine ext_get? fun name => ?_
    simp only [applyAll, map_cons, map_nil, foldl_cons, foldl_nil, Write.apply, get?_insert]
    split_ifs <;> rfl

/-- A plan that is admitted is saved among the others. -/
theorem Stored.persisted (stored : Stored root) (signed : isLowerHexDigest (planDigest plan) = true)
    (admitted : admitRestorePlan plan (fileOf plan) root = .ok true) {saved : Directory}
    (inserted : saved = root.insert (fileOf plan) (.file (encode plan) now)) :
    Stored saved ∧ ∀ other modified, Keeps root other modified → Keeps saved other modified := by
  simp only [admitRestorePlan, bind_eq_ok, checkEach_eq_ok, refuse_eq_ok,
    decide_eq_false_iff_not, not_lt, exists_unit] at admitted
  obtain ⟨others, -, small, last⟩ := admitted
  have unused : root.get? (fileOf plan) = none := by
    cases found : root.get? (fileOf plan) with
    | none => rfl
    | some node => cases node <;> simp [found] at last
  have own : Keeps saved plan now :=
    ⟨signed, _, inserted ▸ get?_insert_self .., decode_encode plan, small⟩
  have apart : ∀ {other modified}, Keeps root other modified →
      jobId other ≠ jobId plan ∧ fileOf other ≠ fileOf plan := by
    rintro other modified ⟨_, bytes, found, decoded, _⟩
    have distinct : fileOf other ≠ fileOf plan := fun same => by simp [same, unused] at found
    have checked := others _ (get?_eq_some_iff.mp found)
    rw [checkOtherPlan, if_neg distinct] at checked
    exact ⟨by simpa [decoded, okOr] using checked, distinct⟩
  have still : ∀ other modified, Keeps root other modified → Keeps saved other modified := by
    intro other modified keeps
    obtain ⟨bytes, found, rest⟩ := keeps.stored
    rw [← get?_insert_of_ne root _ (apart keeps).2, ← inserted] at found
    exact ⟨keeps.signed, bytes, found, rest⟩
  have known : ∀ {other modified}, Keeps saved other modified →
      other = plan ∨ Keeps root other modified := by
    rintro other modified ⟨signed, bytes, found, decoded, rest⟩
    rcases of_get?_insert (inserted ▸ found) with ⟨-, same⟩ | ⟨-, old⟩
    · cases same
      exact .inl (some.inj (decoded.symm.trans (decode_encode plan)))
    · exact .inr ⟨signed, bytes, old, decoded, rest⟩
  refine ⟨⟨fun name node found => ?_, fun one two _ _ first second same => ?_⟩, still⟩
  · rcases of_get?_insert (inserted ▸ found) with ⟨rfl, -⟩ | ⟨-, old⟩
    · exact ⟨plan, now, rfl, own⟩
    · obtain ⟨other, modified, named, keeps⟩ := stored.plans name node old
      exact ⟨other, modified, named, still _ _ keeps⟩
  · rcases known first with rfl | old <;> rcases known second with rfl | oldToo
    · rfl
    · exact absurd same.symm (apart oldToo).1
    · exact absurd same (apart old).1
    · exact stored.jobs _ _ _ _ old oldToo same

theorem Stored.applyAll_persistPrivateFile (stored : Stored root) (path : String)
    (bytes : List UInt8) :
    applyAll root (persistPrivateFile (stagingName random) now path bytes) =
      root.insert path (.file bytes now) := by
  rw [persistPrivateFile, applyAll_append, applyAll_stage, take_length]
  refine ext_get? fun name => ?_
  simp only [applyAll, foldl_cons, foldl_nil, Write.apply, get?_insert_self,
    get?_insert, get?_erase]
  split_ifs with same staging
  · rfl
  · rw [staging, stored.staging_absent]
  · rfl

/-- The writes of a call are removals, and the ones that save the plan when it is admitted. -/
theorem persistRestorePlan_writes (random : String) (now : Nat) (plan : RestorePlan)
    (root : Directory) :
    (∃ count, (persistRestorePlan random now plan root).1 =
      ((pruneRestorePlans now root).1.take count).map .remove) ∨
    (persistRestorePlan random now plan root).1 = (pruneRestorePlans now root).1.map .remove ++
      persistPrivateFile (stagingName random) now (fileOf plan) (encode plan) ∧
    isLowerHexDigest (planDigest plan) = true ∧
    admitRestorePlan plan (fileOf plan) (started now root) = .ok true := by
  rw [persistRestorePlan, fileOf, started]
  have all := (take_length (l := (pruneRestorePlans now root).1)).symm
  cases signed : isLowerHexDigest (planDigest plan) with
  | false => exact .inl ⟨0, by simp [restorePlanIdentifier, signed, refuse, bind, Except.bind]⟩
  | true =>
    have named : restorePlanIdentifier (planDigest plan) = .ok (identify (planDigest plan)) := by
      simp [restorePlanIdentifier, signed, refuse]
    rw [named]
    dsimp only
    split
    · exact .inl ⟨_, congrArg (map _) all⟩
    · split
      · exact .inl ⟨_, congrArg (map _) all⟩
      · exact .inl ⟨_, congrArg (map _) all⟩
      · next admitted => exact .inr ⟨rfl, rfl, admitted⟩

/-- A crash in the call that saves a plan leaves the node unblocked exactly when it does not
come between the creation of the staging file and its renaming. -/
theorem unblocked_iff (stored : Stored root) (random : String) (now : Nat) (plan : RestorePlan)
    (reached : Nat) :
    Unblocked random now root
        (applyAll root ((persistRestorePlan random now plan root).1.take reached)) ↔
      leavesStaging ((persistRestorePlan random now plan root).1.take reached) = false := by
  have call := persistRestorePlan_writes random now plan root
  generalize (persistRestorePlan random now plan root).1 = writes at call ⊢
  have pruning : ∀ count, Unblocked random now root
      (applyAll root (((pruneRestorePlans now root).1.take count).map .remove)) :=
    fun count => unblocked_of_stored (stored.removed _) fun _ _ keeps fresh =>
      keeps_pruned count keeps fresh
  rcases call with ⟨count, rfl⟩ | ⟨rfl, signed, admitted⟩
  · rw [← map_take, take_take]
    exact iff_of_true (pruning _) (leavesStaging_remove _)
  · rcases Nat.lt_or_ge (pruneRestorePlans now root).1.length reached with further | early
    · obtain ⟨count, rfl⟩ := Nat.exists_eq_add_of_lt further
      rw [Nat.add_assoc, ← length_map Write.remove, take_length_add_append,
        applyAll_append, ← started]
      rcases Nat.lt_or_ge (encode plan).length count with done | inside
      · -- the plan has its name
        have pruned : Stored (started now root) := stored.removed _
        obtain ⟨saved, still⟩ := pruned.persisted signed admitted rfl
        rw [take_of_length_le (by simp [persistPrivateFile, stage]; omega),
          pruned.applyAll_persistPrivateFile]
        refine iff_of_true (unblocked_of_stored saved fun _ _ keeps fresh => still _ _ ?_)
          (by simp [leavesStaging, persistPrivateFile])
        simpa [started] using keeps_pruned (pruneRestorePlans now root).1.length keeps fresh
      · -- the staging file is in the way of the next start
        rw [persistPrivateFile, take_append_of_le_length (by simp [stage]; omega), stage,
          ← map_take, take_range, Nat.min_eq_left (by omega), ← stage, applyAll_stage]
        refine iff_of_false (fun unblocked => ?_)
          (by simpa [leavesStaging, stage] using ⟨0, Nat.zero_le count⟩)
        have start := unblocked.starts "0123456789abcdef0123456789abcdef" now (by decide)
          (by decide)
        simp only [appStateNew, bind_eq_ok, exists_unit] at start
        obtain ⟨picked, checked⟩ := pickEach_eq_ok.mp start.2.2.1 _
          (get?_eq_some_iff.mp (get?_insert_self ..))
        simp [checkPrivateFile, validPlanIdentifier_stagingName] at checked
    · rw [take_append_of_le_length (by simpa using early), ← map_take]
      exact iff_of_true (pruning _) (leavesStaging_remove _)

end Calls

/-! ## A crash after the creation of the staging file -/

namespace Sample

/-- The digest of a plan of one byte. -/
def digestOf (plan : List UInt8) : String :=
  String.ofList (replicate 64 (if plan = [1] then '1' else if plan = [2] then '2'
    else if plan = [3] then '3' else '0'))

/-- Plans that are their own encoding; each is of a job of its own. -/
scoped instance format : PlanFormat where
  RestorePlan := List UInt8
  jobId := digestOf
  planDigest := digestOf
  encode plan := plan
  decode := some
  decode_encode _ := rfl
  identify digest := if isLowerHexDigest digest then digest else digestOf []
  identify_lowerHex digest := by
    split_ifs with lower
    · exact lower
    · decide

theorem stored_empty : Stored ∅ where
  plans _ _ found := nomatch found
  jobs := fun _ _ _ _ ⟨_, _, found, _⟩ => nomatch found

theorem staging_file_stops_start :
    Stored ∅ ∧ appStateNew "0123456789abcdef0123456789abcdef" (.ok ()) (.ok ()) 0
      (applyAll ∅ ((persistRestorePlan "a1B2c3" 0 ([] : List UInt8) ∅).1.take 1)) =
        .error (.invalidState "invalid private state entry") :=
  ⟨stored_empty, rfl⟩

/-- The directory after a plan of one byte was saved. -/
def save (number : UInt8) (now : Nat) (root : Directory) : Directory :=
  root.insert (fileOf ([number] : List UInt8)) (.file [number] now)

/-- Two plans that are a week old, and one of a later day. -/
def plans : Directory :=
  save 3 (3 * 10 ^ 14) (save 2 1 (save 1 0 ∅))

theorem stored_plans : Stored plans := by
  have one : Stored (save 1 0 ∅) := (stored_empty.persisted (by decide) rfl rfl).1
  have two : Stored (save 2 1 (save 1 0 ∅)) := (one.persisted (by decide) rfl rfl).1
  exact (two.persisted (by decide) rfl rfl).1

/-- A process that ends between the removals of the two old plans blocks nothing. -/
theorem half_pruned_is_unblocked :
    (pruneRestorePlans (7 * 10 ^ 14) plans).1 =
        [fileOf ([1] : List UInt8), fileOf ([2] : List UInt8)] ∧
      Unblocked "a1B2c3" (7 * 10 ^ 14) plans (applyAll plans
        ((persistRestorePlan "a1B2c3" (7 * 10 ^ 14) ([4] : List UInt8) plans).1.take 1)) :=
  ⟨by decide +kernel,
    (unblocked_iff stored_plans "a1B2c3" (7 * 10 ^ 14) ([4] : List UInt8) 1).mpr
      (by decide +kernel)⟩

end Sample

end Covalent.Restore.PlanFiles
