import Covalent.Base.Disk
import Covalent.Transfer.Run

/-!
# The policy file on disk

The policy of a folder is kept in one file.  A new policy is staged next to it under a
fixed name, synced, renamed over it, and the directory is synced.  Reading refuses to
look at the policy while the staged name exists, and nothing removes a staged file.
-/

namespace Covalent.Transfer.PolicyFile

open Disk List Option

abbrev Bytes := List UInt8

/-- How policies are written as JSON and read back. -/
class PolicyFormat where
  toJson : PolicyState → Bytes
  fromJson : Bytes → Option PolicyState

open PolicyFormat

/-- The two names that belong to one folder. -/
inductive Entry where
  | policy
  | staged
deriving DecidableEq

abbrev PolicyIo := Io Entry EngineSessionError

def maxPolicyBytes : Nat := 64 * 1024 * 1024

/-- The policy of a folder that has no file yet. -/
def emptyPolicy : PolicyState where
  version := 1
  folders := ∅

/-- Whether a file may be read as a policy. -/
def isReadable (file : File) : Bool :=
  file.status.regular && file.status.owned && file.status.mode == 0o600 &&
    file.status.links == 1 && decide (file.bytes.length ≤ maxPolicyBytes)

section Operations

variable [PolicyFormat] {volume : Volume Entry} {state : PolicyState} {number : Nat}

def loadPolicy : PolicyIo PolicyState := do
  -- A failed look at the staged name counts as its absence.
  let staged ← (attempt (observe .runtimeUnavailable fun volume =>
    some (volume.names .staged).isSome) : PolicyIo (Except EngineSessionError Bool))
  decided (refuse (staged.toOption.getD false) .runtimeUnavailable)
  match ← observe .runtimeUnavailable fun volume => some (volume.names .policy) with
  | none => pure emptyPolicy
  | some number =>
    let file ← observe .runtimeUnavailable fun volume => some (volume.files number)
    decided (refuse (!isReadable file) .runtimeUnavailable)
    let bytes ← observe .runtimeUnavailable fun volume => some (volume.files number).bytes
    decided (refuse (decide (maxPolicyBytes < bytes.length)) .runtimeUnavailable)
    let state ← decided (okOr (fromJson bytes) .runtimeUnavailable)
    decided (refuse (state.version != 1) .runtimeUnavailable)
    pure state

def writePrivateNew (bytes : Bytes) : PolicyIo Unit := do
  decided (refuse (decide (maxPolicyBytes < bytes.length)) .runtimeUnavailable)
  let number ← create .runtimeUnavailable .staged 0o600
  writeAll .runtimeUnavailable number bytes
  syncFile .runtimeUnavailable number

def savePolicy (state : PolicyState) : PolicyIo Unit := do
  writePrivateNew (toJson state)
  rename .runtimeUnavailable .staged .policy
  -- The directory is opened before it is synced.
  observe .runtimeUnavailable fun _ => some ()
  syncDirectory .runtimeUnavailable

/-! ## What reading makes of a directory -/

/-- A file that is read as a policy and cannot change any more. -/
structure IsPolicy (file : File) (state : PolicyState) : Prop where
  readable : isReadable file = true
  parsed : fromJson file.bytes = some state
  version : state.version = 1
  synced : file.synced = true

/-- The directory has the policy of a folder: none yet, or one in a file. -/
def HasPolicy (volume : Volume Entry) (directory : Directory Entry) (state : PolicyState) : Prop :=
  (directory .policy = none ∧ state = emptyPolicy) ∨
    ∃ number, directory .policy = some number ∧ IsPolicy (volume.files number) state

/-- A folder between two saves. -/
structure AtRest (volume : Volume Entry) (state : PolicyState) : Prop where
  unstaged : volume.names .staged = none
  synced : volume.earlier = []
  policy : HasPolicy volume volume.names state
  old : ∀ number, volume.names .policy = some number → number < volume.next

theorem loadPolicy_of_staged (staged : volume.names .staged = some number) :
    loadPolicy ⟨volume, []⟩ = .error (.failed .runtimeUnavailable) ⟨volume, []⟩ := by
  have looked : (attempt (observe .runtimeUnavailable fun volume =>
      some (volume.names .staged).isSome) : PolicyIo (Except EngineSessionError Bool))
      ⟨volume, []⟩ = .ok (.ok true) ⟨volume, []⟩ := by
    show (attempt (fun session => _) : PolicyIo _) _ = _
    simp [attempt, observe, call, staged]
  rw [loadPolicy]
  show EStateM.bind _ _ _ = _
  rw [EStateM.bind, looked]
  rfl

theorem loadPolicy_of_hasPolicy (unstaged : volume.names .staged = none)
    (policy : HasPolicy volume volume.names state) :
    loadPolicy ⟨volume, []⟩ = .ok state ⟨volume, []⟩ := by
  have undisturbed : Triple False loadPolicy volume
      (fun read after => read = state ∧ after = volume) (fun _ _ => False) := by
    refine triple_bind (triple_attempt (triple_observe (fun staged seen => ?_) nofun False.elim))
    cases seen
    rw [unstaged]
    refine triple_bind (triple_decided (fun _ _ => ?_) nofun)
    refine triple_seen rfl False.elim ?_
    rcases policy with ⟨absent, rfl⟩ | ⟨number, named, isPolicy⟩
    · rw [absent]
      exact triple_pure ⟨rfl, rfl⟩
    · rw [named]
      refine triple_seen rfl False.elim ?_
      rw [isPolicy.readable]
      refine triple_bind (triple_decided (fun _ _ => ?_) nofun)
      refine triple_seen rfl False.elim ?_
      have bounded : ¬ maxPolicyBytes < (volume.files number).bytes.length := by
        have readable := isPolicy.readable
        simp only [isReadable, Bool.and_eq_true, decide_eq_true_eq] at readable
        omega
      rw [decide_eq_false bounded, isPolicy.parsed]
      refine triple_bind (triple_decided (fun _ _ => ?_) nofun)
      refine triple_bind (triple_decided (fun parsed read => ?_) nofun)
      cases read
      rw [isPolicy.version]
      refine triple_bind (triple_decided (fun _ _ => ?_) nofun)
      exact triple_pure ⟨rfl, rfl⟩
  obtain ⟨read, after, ran, rfl, rfl⟩ := undisturbed.returns
  exact ran

/-! ## What a crash leaves -/

section

variable (volume : Volume Entry) (state : PolicyState) (call written : Nat)

/-- The process ends at a call of the writer, a write after some of its bytes. -/
def cutAt : List (Option Disk.Fault) :=
  replicate call none ++ [some (.crashes written)]

/-- The volume when a save is over or cut off. -/
def saveCutAt : Volume Entry :=
  (Effect.after (savePolicy state) ⟨volume, cutAt call written⟩).state

def stagedNames : Directory Entry :=
  Function.update volume.names .staged (some volume.next)

/-- The directory after the rename. -/
def renamedNames : Directory Entry :=
  Function.update (Function.update (stagedNames volume) .staged none) .policy (some volume.next)

/-- A new file under the staged name. -/
def stagedVolume (file : File) : Volume Entry where
  names := stagedNames volume
  earlier := volume.directories
  files := Function.update volume.files volume.next file
  next := volume.next + 1

/-- A new file in place of the policy. -/
def renamedVolume (file : File) : Volume Entry where
  names := renamedNames volume
  earlier := stagedNames volume :: volume.directories
  files := Function.update volume.files volume.next file
  next := volume.next + 1

end

end Operations

section Stages

variable (volume : Volume Entry)

@[simp]
theorem stagedNames_staged : stagedNames volume .staged = some volume.next :=
  Function.update_self _ _ _

@[simp]
theorem stagedNames_policy : stagedNames volume .policy = volume.names .policy :=
  Function.update_of_ne (by decide) _ _

@[simp]
theorem renamedNames_policy : renamedNames volume .policy = some volume.next :=
  Function.update_self _ _ _

@[simp]
theorem renamedNames_staged : renamedNames volume .staged = none := by
  rw [renamedNames, Function.update_of_ne (by decide), Function.update_self]

theorem create_staged (unstaged : volume.names .staged = none) : volume.create .staged 0o600 =
      some (volume.next, stagedVolume volume ⟨[], .created 0o600, false⟩) := by
  rw [Volume.create, unstaged]
  rfl

theorem append_stagedVolume (bytes : Bytes) :
    (stagedVolume volume ⟨[], .created 0o600, false⟩).append volume.next bytes =
      stagedVolume volume ⟨bytes, .created 0o600, false⟩ := by
  simp [Volume.append, Volume.setFile, stagedVolume]

theorem syncFile_stagedVolume (bytes : Bytes) :
    (stagedVolume volume ⟨bytes, .created 0o600, false⟩).syncFile volume.next =
      stagedVolume volume ⟨bytes, .created 0o600, true⟩ := by
  simp [Volume.syncFile, Volume.setFile, stagedVolume]

theorem rename_stagedVolume (file : File) :
    (stagedVolume volume file).rename .staged .policy = some (renamedVolume volume file) := by
  have named : (stagedVolume volume file).names .staged = some volume.next :=
    stagedNames_staged volume
  rw [Volume.rename, named]
  rfl

end Stages

section Crashes

variable {number steps : Nat} {volume crashed left : Volume Entry} {state : PolicyState}

/-- What a crash leaves of a volume: all of it when only the process ended, and after a loss
of power the directory as it was `steps` changes ago. -/
def Leaves (crashed left : Volume Entry) (steps : Nat) : Prop :=
  (steps = 0 ∧ left = crashed) ∨
    (crashed.Survives left ∧ crashed.directories[steps]? = some left.names)

theorem Leaves.names
    (leaves : Leaves crashed left steps) : crashed.directories[steps]? = some left.names := by
  rcases leaves with ⟨rfl, rfl⟩ | ⟨_, names⟩
  · rfl
  · exact names

theorem Leaves.files
    (leaves : Leaves crashed left steps) (synced : (crashed.files number).synced = true) :
    left.files number = crashed.files number := by
  rcases leaves with ⟨_, rfl⟩ | ⟨survives, _⟩
  · rfl
  · exact survives.synced number synced

variable [PolicyFormat]

theorem saveCutAt_eq (fits : (toJson state).length ≤ maxPolicyBytes)
    (unstaged : volume.names .staged = none) (call written : Nat) :
    saveCutAt volume state call written = match call with
      | 0 => volume
      | 1 => stagedVolume volume ⟨(toJson state).take written, .created 0o600, false⟩
      | 2 => stagedVolume volume ⟨toJson state, .created 0o600, false⟩
      | 3 => stagedVolume volume ⟨toJson state, .created 0o600, true⟩
      | 4 => renamedVolume volume ⟨toJson state, .created 0o600, true⟩
      | 5 => renamedVolume volume ⟨toJson state, .created 0o600, true⟩
      | _ => (renamedVolume volume ⟨toJson state, .created 0o600, true⟩).syncDirectory := by
  have allowed : decide (maxPolicyBytes < (toJson state).length) = false :=
    decide_eq_false (by omega)
  match call with
  | 0 | 1 | 2 | 3 | 4 | 5 | call + 6 =>
    simp [saveCutAt, cutAt, replicate_succ, Effect.after, savePolicy, writePrivateNew,
      decided, refuse, allowed, bind, EStateM.bind, Effect.lift, create, writeAll, syncFile,
      rename, observe, syncDirectory, Disk.call, Except.mapError,
      create_staged volume unstaged, append_stagedVolume, syncFile_stagedVolume,
      rename_stagedVolume]

/-- The crashes after which the staged name is there: between its creation and the rename,
and after the rename when a loss of power takes just the rename back. -/
def Blocks (state : PolicyState) (call steps : Nat) : Prop :=
  (toJson state).length ≤ maxPolicyBytes ∧
    ((1 ≤ call ∧ call ≤ 3 ∧ steps = 0) ∨ (4 ≤ call ∧ call ≤ 5 ∧ steps = 1))

theorem AtRest.hasPolicy (atRest : AtRest volume state) (leaves : Leaves crashed left steps)
    (kept : ∀ number < volume.next, crashed.files number = volume.files number)
    (same : left.names .policy = volume.names .policy) : HasPolicy left left.names state := by
  rw [HasPolicy, same]
  rcases atRest.policy with absent | ⟨number, named, isPolicy⟩
  · exact .inl absent
  · have unchanged := kept number (atRest.old number named)
    refine .inr ⟨number, named, ?_⟩
    rw [leaves.files (unchanged ▸ isPolicy.synced), unchanged]
    exact isPolicy

theorem hasPolicy_renamed (fits : (toJson state).length ≤ maxPolicyBytes)
    (readsBack : fromJson (toJson state) = some state) (version : state.version = 1)
    (leaves : Leaves crashed left steps)
    (file : crashed.files volume.next = ⟨toJson state, .created 0o600, true⟩)
    (names : left.names = renamedNames volume) : HasPolicy left left.names state := by
  have here : left.files volume.next = ⟨toJson state, .created 0o600, true⟩ := by
    rw [leaves.files (by rw [file]), file]
  refine .inr ⟨volume.next, ?_, ?_⟩
  · rw [names, renamedNames_policy]
  · rw [here]
    exact ⟨by simp [isReadable, Status.created, fits], readsBack, version, rfl⟩

theorem saveCutAt_of_long (long : maxPolicyBytes < (toJson state).length) (call written : Nat) :
    saveCutAt volume state call written = volume := by
  simp [saveCutAt, Effect.after, savePolicy, writePrivateNew, decided, refuse, long, bind,
    EStateM.bind, Effect.lift, Except.mapError]

theorem saveCutAt_files (fits : (toJson state).length ≤ maxPolicyBytes)
    (unstaged : volume.names .staged = none) (call written : Nat) (old : number < volume.next) :
    (saveCutAt volume state call written).files number = volume.files number := by
  have other : ∀ file, Function.update volume.files volume.next file number =
      volume.files number := fun file => Function.update_of_ne (by omega) _ _
  rw [saveCutAt_eq fits unstaged]
  match call with
  | 0 => rfl
  | 1 | 2 | 3 | 4 | 5 | call + 6 => exact other _

/-- The directory that a crash leaves: the one before, the one with the staged name, or the
one after the rename. -/
theorem leaves_cases {old new : PolicyState} {call written : Nat} (atRest : AtRest volume old)
    (fits : (toJson new).length ≤ maxPolicyBytes)
    (leaves : Leaves (saveCutAt volume new call written) left steps) :
    (left.names = volume.names ∧ ¬ Blocks new call steps) ∨
      (left.names = stagedNames volume ∧ Blocks new call steps) ∨
      (left.names = renamedNames volume ∧ ¬ Blocks new call steps ∧
        (saveCutAt volume new call written).files volume.next =
          ⟨toJson new, .created 0o600, true⟩) := by
  have names := leaves.names
  have alone : volume.directories = [volume.names] := by
    rw [Volume.directories, atRest.synced]
  rw [saveCutAt_eq fits atRest.unstaged] at names ⊢
  match call with
  | 0 =>
    change volume.directories[steps]? = _ at names
    rw [alone] at names
    match steps with
    | 0 => exact .inl ⟨(some.inj names).symm, fun blocks => by simp [Blocks] at blocks⟩
  | 1 | 2 | 3 =>
    simp only [stagedVolume, Volume.directories] at names
    match steps with
    | 0 => exact .inr (.inl ⟨(some.inj names).symm, fits, .inl (by decide)⟩)
    | 1 => exact .inl ⟨(some.inj names).symm, fun blocks => by simp [Blocks] at blocks⟩
    | steps + 2 => simp [atRest.synced] at names
  | 4 | 5 =>
    simp only [renamedVolume, Volume.directories] at names
    match steps with
    | 0 => exact .inr (.inr ⟨(some.inj names).symm,
        fun blocks => by simp [Blocks] at blocks, Function.update_self _ _ _⟩)
    | 1 => exact .inr (.inl ⟨(some.inj names).symm, fits, .inr (by decide)⟩)
    | 2 => exact .inl ⟨(some.inj names).symm, fun blocks => by simp [Blocks] at blocks⟩
    | steps + 3 => simp [atRest.synced] at names
  | call + 6 =>
    simp only [renamedVolume, Volume.syncDirectory, Volume.directories] at names
    match steps with
    | 0 => exact .inr (.inr ⟨(some.inj names).symm,
        fun blocks => by simp [Blocks] at blocks, Function.update_self _ _ _⟩)

/-- After a crash during a save, reading yields the old or the new policy, unless the crash
left the staged name. -/
theorem policy_survives_crash_iff {volume left : Volume Entry} {old new : PolicyState}
    {call written steps : Nat} (atRest : AtRest volume old)
    (readsBack : fromJson (toJson new) = some new) (version : new.version = 1)
    (leaves : Leaves (saveCutAt volume new call written) left steps) :
    (∃ state, loadPolicy ⟨left, []⟩ = .ok state ⟨left, []⟩ ∧ (state = old ∨ state = new)) ↔
      ¬ Blocks new call steps := by
  have unstaged := atRest.unstaged
  by_cases fits : (toJson new).length ≤ maxPolicyBytes
  · have kept := fun number (below : number < volume.next) =>
      saveCutAt_files fits unstaged call written below
    rcases leaves_cases atRest fits leaves with ⟨names, clear⟩ | ⟨names, blocks⟩ |
      ⟨names, clear, file⟩
    · refine iff_of_true ⟨old, loadPolicy_of_hasPolicy ?_ ?_, .inl rfl⟩ clear
      · rw [names]
        exact unstaged
      · exact atRest.hasPolicy leaves kept (congrFun names .policy)
    · refine iff_of_false ?_ (not_not_intro blocks)
      rintro ⟨state, loaded, _⟩
      have staged : left.names .staged = some volume.next := by
        rw [names, stagedNames_staged]
      rw [loadPolicy_of_staged staged] at loaded
      cases loaded
    · refine iff_of_true ⟨new, loadPolicy_of_hasPolicy ?_ ?_, .inr rfl⟩ clear
      · rw [names, renamedNames_staged]
      · exact hasPolicy_renamed fits readsBack version leaves file names
  · have untouched := @saveCutAt_of_long volume new _ (not_le.mp fits) call written
    have names := leaves.names
    rw [untouched, Volume.directories, atRest.synced] at names
    have same : left.names = volume.names := by
      match steps with
      | 0 => exact (some.inj names).symm
    refine iff_of_true ⟨old, loadPolicy_of_hasPolicy ?_ ?_, .inl rfl⟩ fun blocks => fits blocks.1
    · rw [same]
      exact unstaged
    · refine atRest.hasPolicy leaves (fun number _ => ?_) (congrFun same .policy)
      rw [untouched]

/-! ## The policy file as runs see it -/

/-- A run sees whether a copy is staged and what the policy file holds. -/
structure Shows {Content : Type} (volume : Volume Entry) (world : World Content) : Prop where
  staged : (volume.names .staged).isSome = world.staged
  absent : volume.names .policy = none → world.policy = none
  present : ∀ number, volume.names .policy = some number → number < volume.next ∧
    isReadable (volume.files number) = true ∧
      ∃ state, world.policy = some state ∧ fromJson (volume.files number).bytes = some state

variable {Content : Type} {world : World Content}

theorem Shows.staging (shows : Shows volume world) (file : File) :
    Shows (stagedVolume volume file) { world with staged := true } := by
  have policy : (stagedVolume volume file).names .policy = volume.names .policy :=
    stagedNames_policy volume
  refine ⟨?_, fun absent => shows.absent (policy ▸ absent), fun number found => ?_⟩
  · simp [stagedVolume]
  · obtain ⟨old, readable, held⟩ := shows.present number (policy ▸ found)
    have kept : (stagedVolume volume file).files number = volume.files number :=
      Function.update_of_ne (by omega) _ _
    rw [kept]
    exact ⟨Nat.lt_succ_of_lt old, readable, held⟩

theorem shows_renamed (unstaged : world.staged = false) (actions : List Action)
    (fits : (toJson state).length ≤ maxPolicyBytes)
    (readsBack : fromJson (toJson state) = some state) :
    Shows (renamedVolume volume ⟨toJson state, .created 0o600, true⟩)
      (world.publish state actions) := by
  have policy : (renamedVolume volume ⟨toJson state, .created 0o600, true⟩).names .policy =
      some volume.next := renamedNames_policy volume
  have staged : (renamedVolume volume ⟨toJson state, .created 0o600, true⟩).names .staged =
      none := renamedNames_staged volume
  have file : (renamedVolume volume ⟨toJson state, .created 0o600, true⟩).files volume.next =
      ⟨toJson state, .created 0o600, true⟩ := Function.update_self _ _ _
  refine ⟨?_, fun absent => ?_, fun number found => ?_⟩
  · rw [staged]
    exact unstaged.symm
  · rw [policy] at absent
    cases absent
  · rw [policy] at found
    cases found
    rw [file]
    exact ⟨Nat.lt_succ_self _, by simp [isReadable, Status.created, fits], state, rfl, readsBack⟩

/-- A write of the policy ended as one with some outcome does in the runs of a link: in the
same way, and runs see what it left. -/
def EndsAs (world : World Content) (state : PolicyState) (actions : List Action)
    (outcome : SaveOutcome) (fault : Option Fault) (after : Volume Entry) : Prop :=
  (Effect.problem? (Transfer.savePolicy outcome state actions) world).map Stop.fault = fault ∧
    Shows after (Effect.after (Transfer.savePolicy outcome state actions) world)

section EndsAs

variable {actions : List Action} (fault : Fault)

theorem endsAs_refused (shows : Shows volume world) :
    EndsAs world state actions (.refused fault) (some fault) volume :=
  ⟨congrArg some (fault.fault_stop _), shows⟩

variable (unstaged : world.staged = false)

include unstaged

omit [PolicyFormat] in
theorem createStaged_eq : (createStaged : Run Content Unit) world = .ok () world := by
  obtain ⟨_, _, _, _⟩ := world
  cases unstaged
  rfl

theorem endsAs_saved (shows : Shows volume (world.publish state actions)) :
    EndsAs world state actions .saved none volume := by
  simp only [EndsAs, Effect.problem?, Effect.after, Transfer.savePolicy, bind, EStateM.bind,
    createStaged_eq unstaged]
  exact ⟨rfl, shows⟩

theorem endsAs_staged (shows : Shows volume { world with staged := true }) :
    EndsAs world state actions (.staged fault) (some fault) volume := by
  simp only [EndsAs, Effect.problem?, Effect.after, Transfer.savePolicy, bind, EStateM.bind,
    createStaged_eq unstaged]
  exact ⟨congrArg some (fault.fault_stop _), shows⟩

theorem endsAs_published (shows : Shows volume (world.publish state actions)) :
    EndsAs world state actions (.published fault) (some fault) volume := by
  simp only [EndsAs, Effect.problem?, Effect.after, Transfer.savePolicy, bind, EStateM.bind,
    createStaged_eq unstaged]
  exact ⟨congrArg some (fault.fault_stop _), shows⟩

end EndsAs

/-- However a write of the policy ends, some outcome ends in the same way. -/
theorem savePolicy_triple {faulty : Prop} (actions : List Action) (shows : Shows volume world)
    (readsBack : fromJson (toJson state) = some state) :
    Triple faulty (savePolicy state) volume
      (fun _ after => ∃ outcome, EndsAs world state actions outcome none after)
      (fun stop after => ∃ outcome,
        EndsAs world state actions outcome (some (Stop.fault stop)) after) := by
  have untouched : ∀ stop, ∃ outcome,
      EndsAs world state actions outcome (some (Stop.fault stop)) volume :=
    fun stop => ⟨_, endsAs_refused (Stop.fault stop) shows⟩
  refine triple_bind (triple_bind (triple_decided (fun _ allowed => ?_) fun _ _ => untouched _))
  have fits : (toJson state).length ≤ maxPolicyBytes := by
    simpa using refuse_eq_ok.mp allowed
  refine triple_bind (triple_create (fun number created made => ?_) (fun _ => untouched _)
    fun _ => untouched)
  have free := (Volume.create_eq_some made).2.1
  have unstaged : world.staged = false := by
    rw [← shows.staged, free]
    rfl
  obtain ⟨rfl, rfl⟩ := Prod.mk.inj (some.inj ((create_staged volume free).symm.trans made))
  have staged : ∀ file stop, ∃ outcome,
      EndsAs world state actions outcome (some (Stop.fault stop)) (stagedVolume volume file) :=
    fun file stop => ⟨_, endsAs_staged (Stop.fault stop) unstaged (shows.staging file)⟩
  refine triple_bind (triple_writeAll ?_ fun _ written => ?_)
  · rw [append_stagedVolume]
    refine triple_syncFile ?_ fun _ => staged _
    rw [syncFile_stagedVolume]
    refine triple_bind (triple_rename (fun after renamed => ?_) (fun _ => staged _ _)
      fun _ => staged _)
    obtain rfl := some.inj ((rename_stagedVolume volume _).symm.trans renamed)
    have published := @shows_renamed volume state _ _ world unstaged actions fits readsBack
    have late : ∀ stop, ∃ outcome, EndsAs world state actions outcome (some (Stop.fault stop))
        (renamedVolume volume ⟨toJson state, .created 0o600, true⟩) :=
      fun stop => ⟨_, endsAs_published (Stop.fault stop) unstaged published⟩
    refine triple_observed late fun _ _ => ?_
    refine triple_syncDirectory ⟨_, endsAs_saved unstaged ?_⟩ fun _ => late
    exact ⟨published.staged, published.absent, published.present⟩
  · rw [append_stagedVolume]
    exact staged _

/-- One write of the policy, and the faults that it meets. -/
structure Save where
  state : PolicyState
  actions : List Action
  script : List (Option Disk.Fault)

/-- The folder after some writes, and how each of them ended. -/
def saveAll (volume : Volume Entry) : List Save → Volume Entry × List (Option Fault)
  | [] => (volume, [])
  | save :: rest =>
    let start : Session Entry := ⟨volume, save.script⟩
    let (last, faults) := saveAll (Effect.after (savePolicy save.state) start).state rest
    (last, (Effect.problem? (savePolicy save.state) start).map Stop.fault :: faults)

/-- What runs see after writes with some outcomes, and how each of them ended. -/
def showAll (world : World Content) : List (Save × SaveOutcome) →
    World Content × List (Option Fault)
  | [] => (world, [])
  | (save, outcome) :: rest =>
    let write := Transfer.savePolicy outcome save.state save.actions
    let (last, faults) := showAll (Effect.after write world) rest
    (last, (Effect.problem? write world).map Stop.fault :: faults)

/-- **Refinement.**  Whatever faults the writes of the policy meet, one after the other, there
are outcomes of these writes with which every write returns, fails or ends the process as it
does on disk, and runs see what the folder holds. -/
theorem policy_writes_refine {saves : List Save} (shows : Shows volume world)
    (readsBack : ∀ save ∈ saves, fromJson (toJson save.state) = some save.state) :
    ∃ outcomes, outcomes.length = saves.length ∧
      (showAll world (saves.zip outcomes)).2 = (saveAll volume saves).2 ∧
      Shows (saveAll volume saves).1 (showAll world (saves.zip outcomes)).1 := by
  induction saves generalizing volume world with
  | nil => exact ⟨[], rfl, rfl, shows⟩
  | cons save rest ih =>
    obtain ⟨known, others⟩ := forall_mem_cons.mp readsBack
    have ensured := (savePolicy_triple save.actions shows known).ensures save.script
    obtain ⟨outcome, ended, shown⟩ := Effect.result_of_ensures
      (fun stop (session : Session Entry) => ∃ outcome,
        EndsAs world save.state save.actions outcome (stop.map Stop.fault) session.state) ensured
    obtain ⟨outcomes, each, same, later⟩ := ih shown others
    exact ⟨outcome :: outcomes, congrArg (· + 1) each, congrArg₂ cons ended same, later⟩

end Crashes

namespace Sample

/-- The policy of one link. -/
def linked (number : Nat) : PolicyState where
  version := 1
  folders := (∅ : BTreeMap Uuid FolderPolicyState).insert ⟨number⟩ {}

/-- A format in which a policy is the list of its links. -/
scoped instance sampleFormat : PolicyFormat where
  toJson state := state.folders.keys.map fun folderId => UInt8.ofNat folderId.number
  fromJson bytes := bytes.head?.map fun number => linked number.toNat

/-- A folder with the policy of the first link. -/
def linkedFolder : Volume Entry where
  names := fun
    | .policy => some 0
    | .staged => none
  earlier := []
  files := fun _ => ⟨[1], .created 0o600, true⟩
  next := 1

theorem linkedFolder_atRest : AtRest linkedFolder (linked 1) where
  unstaged := rfl
  synced := rfl
  policy := .inr ⟨0, rfl, by decide, rfl, rfl, rfl⟩
  old number named := by
    cases named
    decide

/-- A process that ends just before the rename leaves a folder whose policy cannot be read. -/
theorem crash_before_rename_blocks : AtRest linkedFolder (linked 1) ∧
      loadPolicy ⟨saveCutAt linkedFolder (linked 2) 3 0, []⟩ =
        .error (.failed .runtimeUnavailable) ⟨saveCutAt linkedFolder (linked 2) 3 0, []⟩ :=
  ⟨linkedFolder_atRest, loadPolicy_of_staged rfl⟩

theorem policy_survives_crash_after_rename : linked 1 ≠ linked 2 ∧
    ∃ state, loadPolicy ⟨saveCutAt linkedFolder (linked 2) 4 0, []⟩ =
      .ok state ⟨saveCutAt linkedFolder (linked 2) 4 0, []⟩ ∧
        (state = linked 1 ∨ state = linked 2) := by
  refine ⟨fun same => ?_, (policy_survives_crash_iff linkedFolder_atRest rfl rfl
    (.inl ⟨rfl, rfl⟩)).mpr fun blocks => by simp [Blocks] at blocks⟩
  exact absurd (congrArg toJson same) (by decide)

/-- What runs see of the folder. -/
def linkedWorld : World Unit :=
  ⟨some (linked 1), false, ∅, []⟩

theorem linkedFolder_shows : Shows linkedFolder linkedWorld where
  staged := rfl
  absent := nofun
  present number named := by
    cases named
    exact ⟨by decide, by decide, _, rfl, rfl⟩

/-- Three writes: the first fails after the rename, the process ends before the rename of the
second, and the third finds the staged copy. -/
def disturbedSaves : List Save :=
  [⟨linked 2, [], [none, none, none, none, none, some (.fails 0)]⟩,
    ⟨linked 3, [], [none, none, none, some (.crashes 0)]⟩, ⟨linked 4, [], []⟩]

theorem disturbed_writes_refine :
    (saveAll linkedFolder disturbedSaves).2 = [some .reported, some .crashed, some .reported] ∧
      ∃ outcomes, outcomes.length = 3 ∧
        (showAll linkedWorld (disturbedSaves.zip outcomes)).2 =
          (saveAll linkedFolder disturbedSaves).2 ∧
        Shows (saveAll linkedFolder disturbedSaves).1
          (showAll linkedWorld (disturbedSaves.zip outcomes)).1 := by
  have readsBack : ∀ save ∈ disturbedSaves, fromJson (toJson save.state) = some save.state := by
    simp only [disturbedSaves, forall_mem_cons, not_mem_nil, false_implies, implies_true,
      and_true]
    exact ⟨rfl, rfl, rfl⟩
  exact ⟨rfl, policy_writes_refine linkedFolder_shows readsBack⟩

end Sample

end Covalent.Transfer.PolicyFile
