import Covalent.Sharing.Steps

/-!
# Link state and consent

The operations on the settings and the runs of a link change nothing else: whatever they
decide, shares and refusals are as before.
-/

namespace Covalent.Sharing

open Transfer (EngineIndexSnapshot)

/-- An edit that touches nothing but link state. -/
def LinkEdit (snapshot candidate : Snapshot) : Prop :=
  candidate = { snapshot with
    linkSettings := candidate.linkSettings
    linkRuns := candidate.linkRuns }

theorem LinkEdit.of_link (snapshot : Snapshot) (settings : BTreeMap Uuid LinkSettingsState)
    (runs : BTreeMap Uuid LinkRunLinkState) :
    LinkEdit snapshot { snapshot with linkSettings := settings, linkRuns := runs } :=
  rfl

theorem LinkEdit.trans {first second third : Snapshot} (one : LinkEdit first second)
    (two : LinkEdit second third) : LinkEdit first third := by
  unfold LinkEdit at *
  rw [two, one]

variable {snapshot candidate : Snapshot} {folderId : Uuid} {generation now : Nat}

/-- Consent is about shares and refusals, which such an edit leaves alone. -/
theorem LinkEdit.consentStep [Primitives] {node : Node}
    (edit : LinkEdit snapshot candidate) : ConsentStep node snapshot candidate := by
  refine .of_same ?_ ?_ ?_ ?_
  all_goals rw [edit]

/-! ## Decisions -/

/-- Every edit that may be decided on is such a step. -/
def Decides {α : Type} (step : Snapshot → Prop) (plan : Result (Plan α)) : Prop :=
  ∀ candidate value, plan = .ok (.replace candidate value) → step candidate

section Rules

variable {α β : Type} {step : Snapshot → Prop} {condition : Prop} [Decidable condition]

/-- What is decided after a reading holds of every value that may be read. -/
theorem plan_bind {first : Result α} {next : α → Result (Plan β)}
    (each : ∀ value, first = .ok value → Decides step (next value)) :
    Decides step (first >>= next) := by
  intro candidate value planned
  obtain ⟨middle, made, decided⟩ := bind_eq_ok.mp planned
  exact each middle made candidate value decided

/-- A decision to keep the journal edits nothing. -/
theorem plan_keep (value : α) : Decides step (.ok (.keep value)) := by
  rintro _ _ ⟨⟩

/-- A refusal edits nothing. -/
theorem plan_throw (problem : SharingError) : Decides step (.error problem : Result (Plan α)) := by
  rintro _ _ ⟨⟩

theorem plan_replace {candidate : Snapshot} (holds : step candidate) (value : α) :
    Decides step (.ok (.replace candidate value)) := by
  rintro _ _ planned
  cases planned
  exact holds

/-- Both branches decide on such steps. -/
theorem plan_ite {one two : Result (Plan α)} (yes : condition → Decides step one)
    (no : ¬ condition → Decides step two) : Decides step (if condition then one else two) := by
  split_ifs with holds
  · exact yes holds
  · exact no holds

/-- Neither an answer without an edit nor a refusal edits anything. -/
theorem plan_check (value : α) (problem : SharingError) :
    Decides step (if condition then .ok (.keep value) else .error problem) :=
  plan_ite (fun _ => plan_keep value) fun _ => plan_throw problem

theorem plan_pick {one two : Plan α} (yes : Decides step (.ok one))
    (no : Decides step (.ok two)) :
    Decides step (.ok (if condition then one else two)) := by
  split_ifs
  · exact yes
  · exact no

end Rules

/-- Every edit that may be decided on touches nothing but link state. -/
def Links {α : Type} (snapshot : Snapshot) (plan : Result (Plan α)) : Prop :=
  ∀ candidate value, plan = .ok (.replace candidate value) → LinkEdit snapshot candidate

/-- Operations on links take no consent and give none. -/
theorem Links.consentSteps [Primitives] {α : Type} {node : Node} {snapshot : Snapshot}
    {plan : Result (Plan α)} (links : Links snapshot plan) :
    Decides (ConsentStep node snapshot) plan :=
  fun candidate value planned => (links candidate value planned).consentStep

/-! ## Settings -/

/-- New settings end the run that is under way. -/
theorem linkEdit_cancelForSettingsChange
    (done : cancelForSettingsChange snapshot folderId now = .ok candidate) :
    LinkEdit snapshot candidate := by
  unfold cancelForSettingsChange at done
  split at done
  · cases done
    rfl
  · simp only [bind_eq_ok, pure_eq_ok] at done
    obtain ⟨_, _, rfl⟩ := done
    rfl

/-- The source commits to requested settings. -/
theorem linkEdit_commitLinkRequest {request : LinkSettingsRequest}
    (done : commitLinkRequest request now snapshot = .ok candidate) :
    LinkEdit snapshot candidate := by
  simp only [commitLinkRequest, bind_eq_ok] at done
  obtain ⟨_, _, state, _, _, _, revision, _, cancelled⟩ := done
  exact LinkEdit.trans (.of_link ..) (linkEdit_cancelForSettingsChange cancelled)

section Plans

variable {node : Node} {env : Surroundings}

/-- The source commits at once; a destination only notes its request. -/
theorem links_planRequestLinkSettings {changeId : Uuid} {expectedRevision : Nat}
    {settings : FolderLinkSettings} :
    Links snapshot (planRequestLinkSettings node folderId changeId expectedRevision settings now
      snapshot) := by
  refine plan_bind fun _ _ => plan_bind fun state _ => plan_bind fun _ _ => plan_ite
    (fun _ => plan_check _ _)
    fun _ => plan_bind fun _ _ => ?_
  split
  · exact plan_check _ _
  · refine plan_ite (fun _ => plan_bind fun next done => ?_) fun _ => plan_bind fun _ _ => ?_
    · exact plan_replace (linkEdit_commitLinkRequest done) _
    · exact plan_replace (.of_link ..) _

/-- Settings requested by a destination are committed to or ignored. -/
theorem links_planReceiveLinkSettingsRequest [Primitives] {request : LinkSettingsRequest} :
    Links snapshot (planReceiveLinkSettingsRequest node env request now snapshot) := by
  iterate 6 refine plan_bind fun _ _ => ?_
  refine plan_ite (fun _ => plan_check _ _) fun _ =>
    plan_ite (fun _ => plan_bind fun next done => ?_) fun _ => plan_keep _
  exact plan_replace (linkEdit_commitLinkRequest done) _

/-- Settings that the source committed to end the run under way. -/
theorem links_planReceiveLinkSettingsCommit [Primitives] {commit : LinkSettingsCommit} :
    Links snapshot (planReceiveLinkSettingsCommit node env commit snapshot) := by
  iterate 6 refine plan_bind fun _ _ => ?_
  refine plan_ite (fun _ => plan_keep _) fun _ => ?_
  iterate 4 refine plan_bind fun _ _ => ?_
  refine plan_ite (fun _ => plan_keep _) fun _ => plan_bind fun next done => ?_
  exact plan_replace (LinkEdit.trans (.of_link ..) (linkEdit_cancelForSettingsChange done)) _

/-! ## Runs -/

/-- Admission changes the run of the link, if it is not refused or known. -/
theorem linkEdit_admitSourceRequest {request : LinkRunRequest} {automatic : Bool}
    {result : Snapshot × LinkRunAdmission × Bool}
    (done : admitSourceRequest snapshot request now automatic = .ok result) :
    LinkEdit snapshot result.1 := by
  simp only [admitSourceRequest, bind_eq_ok] at done
  obtain ⟨_, _, _, _, settings, _, _, _, decided⟩ := done
  split at decided
  · cases decided
    rfl
  · split at decided
    · cases decided
      rfl
    · simp only [bind_eq_ok, pure_eq_ok] at decided
      obtain ⟨_, _, rfl⟩ := decided
      rfl

/-- The source admits its own run; a destination notes a request. -/
theorem links_planRequestLinkRun {requestId : Uuid} {expectedGeneration settingsRevision : Nat} :
    Links snapshot (planRequestLinkRun node folderId requestId expectedGeneration
      settingsRevision now snapshot) := by
  refine plan_bind fun _ _ => plan_bind fun _ _ => plan_ite
    (fun _ => plan_bind fun result done => ?_)
    fun _ => ?_
  · exact plan_pick (plan_replace (linkEdit_admitSourceRequest done) _) (plan_keep _)
  · iterate 3 refine plan_bind fun _ _ => ?_
    split
    · exact plan_keep _
    · refine plan_bind fun _ _ => ?_
      dsimp only
      split
      · exact plan_check _ _
      · exact plan_replace (.of_link ..) _

theorem links_planReceiveLinkRunRequest {request : LinkRunRequest} :
    Links snapshot (planReceiveLinkRunRequest node request now snapshot) := by
  refine plan_bind fun _ _ => plan_bind fun _ _ => plan_bind fun result done =>
    plan_bind fun commit _ => ?_
  exact plan_pick (plan_replace (linkEdit_admitSourceRequest done) _) (plan_keep _)

theorem links_planStartLinkRun {sourceIndex : EngineIndexSnapshot} :
    Links snapshot (planStartLinkRun node folderId generation sourceIndex now snapshot) := by
  iterate 5 refine plan_bind fun _ _ => ?_
  exact plan_replace (.of_link ..) _

theorem links_planInterruptLinkRun :
    Links snapshot (planInterruptLinkRun node folderId generation now snapshot) := by
  iterate 4 refine plan_bind fun _ _ => ?_
  exact plan_replace (.of_link ..) _

/-- The source notes the report of a destination. -/
theorem links_planReceiveLinkRunReport {report : LinkRunReport} :
    Links snapshot (planReceiveLinkRunReport node report now snapshot) := by
  refine plan_bind fun _ _ => plan_bind fun _ _ => plan_bind fun _ _ => plan_ite
    (fun _ => plan_keep _) fun _ => plan_bind fun _ _ => plan_bind fun _ _ => plan_ite
      (fun _ => plan_bind fun _ _ => plan_keep _) fun _ =>
        plan_bind fun _ _ => plan_bind fun _ _ => ?_
  exact plan_replace (.of_link ..) _

/-- A change of all runs of a source. -/
theorem linkEdit_updateSourceRuns {owner : DeviceId}
    {change : LinkRunState → Result LinkRunState}
    (done : updateSourceRuns owner change snapshot = .ok candidate) :
    LinkEdit snapshot candidate := by
  simp only [updateSourceRuns, bind_eq_ok, pure_eq_ok] at done
  obtain ⟨_, _, rfl⟩ := done
  rfl

/-- One edit for each link that is due, by induction on the links. -/
theorem linkEdit_admitDue {position : Nat} {folders : List Uuid}
    {result : Snapshot × List LinkRunState}
    (done : admitDue node env now position folders snapshot = .ok result) :
    LinkEdit snapshot result.1 := by
  induction folders generalizing position snapshot result with
  | nil =>
    cases done
    rfl
  | cons folderId rest ih =>
    rw [admitDue] at done
    split_ifs at done with active
    · exact ih done
    · simp only [bind_eq_ok] at done
      obtain ⟨_, _, admission, admitted, others, remaining, made⟩ := done
      have edit := (linkEdit_admitSourceRequest admitted).trans (ih remaining)
      split at made
      · cases made
        exact edit
      · cases made
        exact edit

theorem links_planAdmitDueLinkRuns :
    Links snapshot (planAdmitDueLinkRuns node env now snapshot) := by
  refine plan_bind fun result done => ?_
  exact plan_pick (plan_keep _) (plan_replace (linkEdit_admitDue done) _)

/-- A destination notes its result, once. -/
theorem links_planCompleteLinkRun {sourceIndex : EngineIndexSnapshot}
    {result : LinkRunDestinationResult} :
    Links snapshot (planCompleteLinkRun node folderId generation sourceIndex result now
      snapshot) := by
  iterate 5 refine plan_bind fun _ _ => ?_
  dsimp only
  split
  · exact plan_check _ _
  · exact plan_replace (.of_link ..) _

/-- A destination notes a newer run of the source. -/
theorem links_planReceiveLinkRunCommit {commit : LinkRunCommit} :
    Links snapshot (planReceiveLinkRunCommit node commit snapshot) := by
  refine plan_bind fun _ _ => plan_ite (fun _ => plan_keep _) fun _ => plan_bind fun _ _ =>
    plan_ite (fun _ => plan_keep _) fun _ => ?_
  exact plan_replace (.of_link ..) _

end Plans

end Covalent.Sharing
