import Covalent.Base.Trace
import Covalent.Engine.Config

/-!
# Revocation among concurrent operations

The trust in peers and the set of connected providers are behind different locks.  An
operation looks at one of them, lets go of it and takes the other, and between the two
any other operation may run.  This module follows operations from lock to lock.

## Design notes

**Locks.**  Locks that protect nothing these operations tell each other — the lock that
keeps backups apart, the store's — are left out, so more interleavings are possible here
than in the source, and locks that are taken twice for the same purpose are one step.

**Cut off.**  The system notes for which peers a revocation has returned and that were not
trusted since it took effect, and each operation what was noted when it started.  No
operation reads these notes.
-/

namespace Covalent.Engine.Revocation

open BTreeMap List Option

open Sharing (PeerGrant PeerRole TransportBinding PublicIdentity Primitives)

/-! ## Operations -/

/-- What an engine is asked to do. -/
inductive Operation where
  | trustPeer (grant : PeerGrant) (transport : Option TransportBinding)
  | revokePeer (peerId : DeviceId)
  | setConnectedProviders (providers : List DeviceId)
  | backup (selected : DeviceSet)
  | restore (acknowledged : DeviceSet)
  | verifySnapshotAvailability (selected : DeviceSet)
  | repairSnapshot (acknowledged : DeviceSet)
  | importRecoveryCatalogs

/-- Where an operation stands. -/
inductive Phase where
  /-- It has taken no lock. -/
  | begun (operation : Operation)
  /-- The revocation is in the configuration, and whether it is still the last word on
  the peer. -/
  | revoked (peerId : DeviceId) (current : Bool)
  /-- The providers may be connected. -/
  | checked (providers : List DeviceId)
  /-- The backup may go to these providers. -/
  | authorized (selected : DeviceSet)
  /-- The providers were copied, to be held against the configuration. -/
  | copied (selected providers : DeviceSet)
  /-- No lock is needed any more; these providers are contacted. -/
  | contacting (providers : DeviceSet)
  | returned

/-- An operation, and who was cut off when it started. -/
structure Thread where
  phase : Phase
  barred : List DeviceId

/-- An engine and the operations on it. -/
structure System where
  config : NodeConfig
  scheduler : DeviceSet
  threads : BTreeMap Nat Thread
  cut : List DeviceId

/-- A peer is known and revoked. -/
def isRevoked (config : NodeConfig) (peerId : DeviceId) : Bool :=
  (config.trustedPeers.get? peerId).any (·.revoked)

/-- Register providers; none twice, and not too many. -/
def ReplicationScheduler.new (providers : List DeviceId) : Result DeviceSet := do
  refuse (!decide providers.Nodup || decide (128 < providers.length))
    (.invalidState "duplicate or excessive provider registration")
  pure ((∅ : DeviceSet).extendList (providers.map fun peerId => (peerId, ())))

/-! ## Steps -/

namespace Thread

/-- A peer is trusted again: nobody is kept from it, and its revocation is past. -/
def release (peerId : DeviceId) (thread : Thread) : Thread where
  phase :=
    match thread.phase with
    | .revoked revoked current => .revoked revoked (current && revoked != peerId)
    | phase => phase
  barred := thread.barred.filter (· != peerId)

end Thread

namespace System

/-- An engine that was just opened. -/
def opened (own : DeviceId) (config : NodeConfig) : System :=
  ⟨config, (∅ : DeviceSet).insert own (), ∅, []⟩

def moveTo (system : System) (id : Nat) (thread : Thread) (phase : Phase) : System :=
  { system with threads := system.threads.insert id { thread with phase := phase } }

/-- A peer is trusted again. -/
def release (system : System) (peerId : DeviceId) : System :=
  { system with
    cut := system.cut.filter (· != peerId)
    threads := system.threads.mapValues fun _ => Thread.release peerId }

variable [Primitives] [ConfigFormats]

/-- The first lock of an operation; `persisted` tells whether the files could be written. -/
def begin (identity : PublicIdentity) (system : System) (id : Nat) (thread : Thread)
    (persisted : Bool) : Operation → System
  | .trustPeer grant transport =>
    match (do
      let candidate ← trustCandidate system.config grant transport
      issueRoster identity system.config candidate) with
    | .ok (_, named) =>
      if persisted then
        { system.moveTo id thread .returned with config := named }.release grant.peerDeviceId
      else system.moveTo id thread .returned
    | .error _ => system.moveTo id thread .returned
  | .revokePeer peerId =>
    match (do
      let candidate ← revokeCandidate system.config peerId
      issueRoster identity system.config candidate) with
    | .ok (_, named) =>
      if persisted then
        { system.moveTo id thread (.revoked peerId true) with config := named }
      else system.moveTo id thread .returned
    | .error _ => system.moveTo id thread .returned
  | .setConnectedProviders providers =>
    let providers :=
      if providers.contains identity.deviceId then providers
      else providers ++ [identity.deviceId]
    match checkEach (authorizeProvider system.config identity.deviceId) providers with
    | .ok () => system.moveTo id thread (.checked providers)
    | .error _ => system.moveTo id thread .returned
  | .backup selected =>
    match checkEach (authorizeProvider system.config identity.deviceId) selected.keys with
    | .ok () => system.moveTo id thread (.authorized selected)
    | .error _ => system.moveTo id thread .returned
  | .restore acknowledged | .repairSnapshot acknowledged =>
    system.moveTo id thread (.contacting (system.scheduler.retain fun peerId _ =>
      peerId == identity.deviceId || acknowledged.containsKey peerId))
  | .verifySnapshotAvailability selected =>
    system.moveTo id thread (.copied selected system.scheduler)
  | .importRecoveryCatalogs => system.moveTo id thread (.contacting system.scheduler)

/-- An operation takes its next lock. -/
def advance (identity : PublicIdentity) (system : System) (id : Nat) (persisted : Bool) : System :=
  match system.threads.get? id with
  | none => system
  | some thread =>
    match thread.phase with
    | .begun operation => system.begin identity id thread persisted operation
    | .revoked peerId current =>
      { system.moveTo id thread .returned with
        scheduler := system.scheduler.erase peerId
        cut := if current then peerId :: system.cut else system.cut }
    | .checked providers =>
      match ReplicationScheduler.new providers with
      | .ok scheduler => { system.moveTo id thread .returned with scheduler := scheduler }
      | .error _ => system.moveTo id thread .returned
    | .authorized selected =>
      system.moveTo id thread (.contacting
        (system.scheduler.retain fun peerId _ => selected.containsKey peerId))
    | .copied selected providers =>
      system.moveTo id thread (.contacting (providers.retain fun peerId _ =>
        selected.containsKey peerId && !isRevoked system.config peerId))
    | .contacting _ | .returned => system

/-- What happens next. -/
inductive Event where
  | start (id : Nat) (operation : Operation)
  | advance (id : Nat) (persisted : Bool)

def after (identity : PublicIdentity) (system : System) : Event → System
  | .start id operation =>
    if system.threads.containsKey id then system
    else { system with
      threads := system.threads.insert id ⟨.begun operation, system.cut⟩ }
  | .advance id persisted => system.advance identity id persisted

/-- The state after some events. -/
def run (identity : PublicIdentity) (system : System) (events : List Event) : System :=
  events.foldl (after identity) system

/-! ## What revocation promises -/

/-- Whether an operation contacts a provider. -/
def contacts (system : System) (id : Nat) (peerId : DeviceId) : Bool :=
  match (system.threads.get? id).map Thread.phase with
  | some (.contacting providers) => providers.containsKey peerId
  | _ => false

/-- Whether a revocation of a peer had returned when an operation started, and the peer was
not trusted since. -/
def bars (system : System) (id : Nat) (peerId : DeviceId) : Bool :=
  (system.threads.get? id).any fun thread => thread.barred.contains peerId

/-- No provider is connected that was revoked since it was looked up. -/
def prompt (system : System) : Event → Bool
  | .start _ _ => true
  | .advance id _ =>
    match (system.threads.get? id).map Thread.phase with
    | some (.checked providers) => providers.all fun peerId => !isRevoked system.config peerId
    | _ => true

end System

/-! ## The invariant -/

/-- An operation does not get to a provider from where it stands. -/
def Phase.Avoids (peerId : DeviceId) : Phase → Prop
  | .copied _ providers | .contacting providers => providers.get? peerId = none
  | _ => True

/-- Whoever is cut off is revoked and not connected, and nobody who may not contact it
gets to it. -/
structure Secure (system : System) : Prop where
  cutOff : ∀ peerId ∈ system.cut,
    isRevoked system.config peerId = true ∧ system.scheduler.get? peerId = none
  revoking : ∀ id thread peerId, system.threads.get? id = some thread →
    thread.phase = .revoked peerId true → isRevoked system.config peerId = true
  barred : ∀ id thread, system.threads.get? id = some thread →
    ∀ peerId ∈ thread.barred, peerId ∈ system.cut ∧ thread.phase.Avoids peerId

namespace Secure

variable {system : System} {id : Nat} {thread : Thread} {phase : Phase}

theorem opened {own : DeviceId} {config : NodeConfig} : Secure (System.opened own config) :=
  ⟨nofun, nofun, nofun⟩

section

variable (secure : Secure system)

include secure

theorem start {operation : Operation} :
    Secure { system with
      threads := system.threads.insert id ⟨.begun operation, system.cut⟩ } where
  cutOff := secure.cutOff
  revoking := by
    intro other found peerId present revoked
    rcases of_get?_insert present with ⟨-, rfl⟩ | ⟨-, present⟩
    · cases revoked
    · exact secure.revoking other found peerId present revoked
  barred := by
    intro other found present
    rcases of_get?_insert present with ⟨-, rfl⟩ | ⟨-, present⟩
    · exact fun _ member => ⟨member, trivial⟩
    · exact secure.barred other found present

theorem moveTo (present : system.threads.get? id = some thread)
    (avoids : ∀ peerId ∈ thread.barred, phase.Avoids peerId)
    (revoking : ∀ peerId, phase = .revoked peerId true → isRevoked system.config peerId = true) :
    Secure (system.moveTo id thread phase) where
  cutOff := secure.cutOff
  revoking := by
    intro other found peerId looked revoked
    rcases of_get?_insert looked with ⟨-, rfl⟩ | ⟨-, looked⟩
    · exact revoking peerId revoked
    · exact secure.revoking other found peerId looked revoked
  barred := by
    intro other found looked
    rcases of_get?_insert looked with ⟨-, rfl⟩ | ⟨-, looked⟩
    · exact fun peerId member =>
        ⟨(secure.barred id thread present peerId member).1, avoids peerId member⟩
    · exact secure.barred other found looked

theorem returns (present : system.threads.get? id = some thread) :
    Secure (system.moveTo id thread .returned) :=
  secure.moveTo present (fun _ _ => trivial) fun _ no => absurd no nofun

variable {config : NodeConfig}

theorem withConfig
    (still : ∀ peerId, isRevoked system.config peerId = true → isRevoked config peerId = true) :
    Secure { system with config := config } where
  cutOff := fun peerId member =>
    ⟨still peerId (secure.cutOff peerId member).1, (secure.cutOff peerId member).2⟩
  revoking := fun id thread peerId present revoked =>
    still peerId (secure.revoking id thread peerId present revoked)
  barred := secure.barred

theorem release {trusted : DeviceId}
    (still : ∀ peerId, peerId ≠ trusted → isRevoked system.config peerId = true →
      isRevoked config peerId = true) :
    Secure ({ system with config := config }.release trusted) where
  cutOff := by
    intro peerId member
    obtain ⟨member, apart⟩ := mem_filter.mp member
    obtain ⟨revoked, absent⟩ := secure.cutOff peerId member
    exact ⟨still peerId (bne_iff_ne.mp apart) revoked, absent⟩
  revoking := by
    intro id thread peerId present revoked
    have present : (system.threads.mapValues fun _ => .release trusted).get? id =
      some thread := present
    rw [get?_mapValues] at present
    obtain ⟨earlier, found, rfl⟩ := map_eq_some_iff.mp present
    unfold Thread.release at revoked
    split at revoked
    case h_1 other current phase =>
      obtain ⟨rfl, last⟩ := Phase.revoked.inj revoked
      obtain ⟨rfl, apart⟩ := Bool.and_eq_true_iff.mp last
      exact still other (bne_iff_ne.mp apart) (secure.revoking id earlier other found phase)
    case h_2 other =>
      exact absurd revoked (other peerId true)
  barred := by
    intro id thread present peerId member
    have present : (system.threads.mapValues fun _ => .release trusted).get? id =
      some thread := present
    rw [get?_mapValues] at present
    obtain ⟨earlier, found, rfl⟩ := map_eq_some_iff.mp present
    obtain ⟨member, apart⟩ := mem_filter.mp member
    obtain ⟨cut, avoids⟩ := secure.barred id earlier found peerId member
    refine ⟨mem_filter.mpr ⟨cut, apart⟩, ?_⟩
    unfold Thread.release
    split
    · trivial
    · exact avoids

theorem withScheduler {scheduler : DeviceSet}
    (fewer : ∀ peerId ∈ system.cut, scheduler.get? peerId = none) :
    Secure { system with scheduler := scheduler } :=
  { secure with
    cutOff := fun peerId member => ⟨(secure.cutOff peerId member).1, fewer peerId member⟩ }

theorem cutProvider {peerId : DeviceId} (revoked : isRevoked system.config peerId = true)
    (absent : system.scheduler.get? peerId = none) :
    Secure { system with cut := peerId :: system.cut } :=
  { secure with
    cutOff := by
      intro other member
      rcases mem_cons.mp member with rfl | member
      · exact ⟨revoked, absent⟩
      · exact secure.cutOff other member
    barred := fun id thread present other member =>
      ⟨mem_cons_of_mem _ (secure.barred id thread present other member).1,
        (secure.barred id thread present other member).2⟩ }

theorem avoids_retain (present : system.threads.get? id = some thread)
    {choose : DeviceId → Unit → Bool} :
    ∀ peerId ∈ thread.barred,
      (Phase.contacting (system.scheduler.retain choose)).Avoids peerId := by
  intro peerId member
  have absent := (secure.cutOff peerId (secure.barred id thread present peerId member).1).2
  show (system.scheduler.retain choose).get? peerId = none
  rw [get?_retain, absent]
  rfl

end

end Secure

/-! ## Every step keeps it -/

section Steps

variable [Primitives] [ConfigFormats] {identity : PublicIdentity} {system : System} {id : Nat}
  {thread : Thread}

variable {candidate named config : NodeConfig} {roster : SignedRoster} {peerId : DeviceId}

theorem issueRoster_trustedPeers {previous : NodeConfig}
    (issued : issueRoster identity previous candidate = .ok (roster, named)) :
    named.trustedPeers = candidate.trustedPeers := by
  simp only [issueRoster, bind_eq_ok, exists_unit, pure_eq_ok, Prod.mk.injEq] at issued
  obtain ⟨epoch, -, signed, -, -, -, rfl⟩ := issued
  rfl

theorem isRevoked_trust {grant : PeerGrant} {transport : Option TransportBinding}
    (trusted : trustCandidate config grant transport = .ok candidate)
    (issued : issueRoster identity config candidate = .ok (roster, named))
    (apart : peerId ≠ grant.peerDeviceId) : isRevoked named peerId = isRevoked config peerId := by
  have inserted : candidate.trustedPeers = config.trustedPeers.insert grant.peerDeviceId grant := by
    simp only [trustCandidate, bind_eq_ok, exists_unit, pure_eq_ok] at trusted
    obtain ⟨-, -, -, -, -, rfl⟩ := trusted
    rfl
  rw [isRevoked, isRevoked, issueRoster_trustedPeers issued, inserted, get?_insert_of_ne _ _ apart]

theorem isRevoked_revoke
    {revoked : DeviceId} (candidate_eq : revokeCandidate config revoked = .ok candidate)
    (issued : issueRoster identity config candidate = .ok (roster, named)) :
    isRevoked named peerId = (peerId == revoked || isRevoked config peerId) := by
  simp only [revokeCandidate, bind_eq_ok, pure_eq_ok] at candidate_eq
  obtain ⟨grant, -, rfl⟩ := candidate_eq
  rw [isRevoked, issueRoster_trustedPeers issued, get?_insert]
  split_ifs with same
  · subst same
    simp
  · rw [beq_eq_false_iff_ne.mpr same, Bool.false_or]
    rfl

theorem secure_begin {persisted : Bool} {operation : Operation} (secure : Secure system)
    (present : system.threads.get? id = some thread) :
    Secure (system.begin identity id thread persisted operation) := by
  have returned := secure.returns present
  cases operation with
  | trustPeer grant transport =>
    unfold System.begin
    dsimp only
    split
    case h_1 roster named issued =>
      split_ifs
      · obtain ⟨candidate, trusted, issued⟩ := bind_eq_ok.mp issued
        refine returned.release fun peerId apart revoked => ?_
        rw [isRevoked_trust trusted issued apart]
        exact revoked
      · exact returned
    case h_2 => exact returned
  | revokePeer peerId =>
    unfold System.begin
    dsimp only
    split
    case h_1 roster named issued =>
      split_ifs
      · obtain ⟨candidate, revoked, issued⟩ := bind_eq_ok.mp issued
        have config : Secure { system with config := named } := by
          refine secure.withConfig fun other still => ?_
          rw [isRevoked_revoke revoked issued, still, Bool.or_true]
        refine @Secure.moveTo { system with config := named } _ _ _ config present
          (fun _ _ => trivial) fun other same => ?_
        obtain ⟨rfl, -⟩ := Phase.revoked.inj same
        rw [isRevoked_revoke revoked issued, beq_self_eq_true, Bool.true_or]
      · exact returned
    case h_2 => exact returned
  | setConnectedProviders providers =>
    unfold System.begin
    dsimp only
    split
    · exact secure.moveTo present (fun _ _ => trivial) nofun
    · exact returned
  | backup selected =>
    unfold System.begin
    dsimp only
    split
    · exact secure.moveTo present (fun _ _ => trivial) nofun
    · exact returned
  | restore acknowledged => exact secure.moveTo present (secure.avoids_retain present) nofun
  | repairSnapshot acknowledged =>
    exact secure.moveTo present (secure.avoids_retain present) nofun
  | verifySnapshotAvailability selected =>
    refine secure.moveTo present (fun peerId member => ?_) nofun
    exact (secure.cutOff peerId (secure.barred id thread present peerId member).1).2
  | importRecoveryCatalogs =>
    refine secure.moveTo present (fun peerId member => ?_) nofun
    exact (secure.cutOff peerId (secure.barred id thread present peerId member).1).2

omit [Primitives] [ConfigFormats] in
theorem scheduler_new_eq_ok {providers : List DeviceId} {scheduler : DeviceSet}
    (registered : ReplicationScheduler.new providers = .ok scheduler)
    (unlisted : peerId ∉ providers) : scheduler.get? peerId = none := by
  simp only [ReplicationScheduler.new, bind_eq_ok, exists_unit, pure_eq_ok] at registered
  obtain ⟨-, rfl⟩ := registered
  rw [get?_extendList_of_not_mem]
  · rfl
  · simpa using unlisted

theorem secure_after {event : System.Event} (prompt : system.prompt event = true)
    (secure : Secure system) : Secure (system.after identity event) := by
  cases event with
  | start id operation =>
    unfold System.after
    dsimp only
    split_ifs
    · exact secure
    · exact secure.start
  | advance id persisted =>
    unfold System.after System.advance
    dsimp only
    split
    case h_1 => exact secure
    case h_2 thread present =>
      split
      case h_1 operation phase => exact secure_begin secure present
      case h_2 peerId current phase =>
        have fewer : Secure { system.moveTo id thread .returned with
            scheduler := system.scheduler.erase peerId } := by
          refine (secure.returns present).withScheduler fun other member => ?_
          simp [get?_erase, (secure.cutOff other member).2]
        cases current with
        | false => exact fewer
        | true =>
          refine fewer.cutProvider (secure.revoking id thread peerId present phase) ?_
          rw [get?_erase, if_pos rfl]
      case h_3 providers phase =>
        have valid : ∀ peerId ∈ providers, isRevoked system.config peerId = false := by
          rw [System.prompt, present, map_some, phase] at prompt
          simpa using prompt
        split
        case h_1 scheduler registered =>
          refine (secure.returns present).withScheduler fun peerId member => ?_
          refine scheduler_new_eq_ok registered fun listed => ?_
          have revoked := (secure.cutOff peerId member).1
          rw [valid peerId listed] at revoked
          cases revoked
        case h_2 => exact secure.returns present
      case h_4 selected phase =>
        exact secure.moveTo present (secure.avoids_retain present) nofun
      case h_5 selected providers phase =>
        refine secure.moveTo present (fun peerId member => ?_) nofun
        have absent := (secure.barred id thread present peerId member).2
        rw [phase] at absent
        show (providers.retain _).get? peerId = none
        rw [get?_retain, show providers.get? peerId = none from absent]
        rfl
      case h_6 => exact secure
      case h_7 => exact secure

/-- **Revocation.**  In every interleaving, an operation that starts after a revocation has
returned does not contact the revoked provider until it is trusted again, provided that no
provider is connected that was revoked since it was looked up. -/
theorem revoked_providers_stay_cut_off (identity : PublicIdentity) (config : NodeConfig)
    (events : List System.Event)
    (prompt : Trace.Along (System.after identity) (fun system event => system.prompt event = true)
      (System.opened identity.deviceId config) events)
    (id : Nat) (peerId : DeviceId)
    (barred : (System.run identity (System.opened identity.deviceId config) events).bars id
      peerId = true) :
    (System.run identity (System.opened identity.deviceId config) events).contacts id peerId =
      false := by
  have secure : Secure (.run identity (.opened identity.deviceId config) events) :=
    prompt.induction (fun _ _ prompt secure => secure_after prompt secure) Secure.opened
  obtain ⟨thread, present, listed⟩ := (any_eq_true _ _).mp barred
  have avoids := (secure.barred id thread present peerId (contains_iff_mem.mp listed)).2
  unfold System.contacts
  rw [present, map_some]
  split
  case h_1 providers phase =>
    rw [some.inj phase] at avoids
    exact BTreeMap.containsKey_eq_false_iff.mpr avoids
  case h_2 => rfl

end Steps

/-! ## Two interleavings -/

open Engine.Sample

namespace Sample

/-- The provider is looked up, revoked, and then connected; a restore follows. -/
def late : List System.Event :=
  [.start 1 (.setConnectedProviders [⟨⟨2⟩⟩]), .advance 1 true,
    .start 2 (.revokePeer ⟨⟨2⟩⟩), .advance 2 true, .advance 2 true,
    .advance 1 true,
    .start 3 (.restore ((∅ : DeviceSet).insert ⟨⟨2⟩⟩ ())), .advance 3 true]

/-- The same operations one after the other. -/
def inTurn : List System.Event :=
  [.start 1 (.setConnectedProviders [⟨⟨2⟩⟩]), .advance 1 true, .advance 1 true,
    .start 2 (.revokePeer ⟨⟨2⟩⟩), .advance 2 true, .advance 2 true,
    .start 3 (.restore ((∅ : DeviceSet).insert ⟨⟨2⟩⟩ ())), .advance 3 true]

def ended (events : List System.Event) : System :=
  System.run identity (System.opened identity.deviceId config) events

end Sample

/-- Operations one after the other: the restore does not contact the revoked provider. -/
theorem restore_in_turn_avoids_revoked_provider : (Sample.ended Sample.inTurn).bars 3 ⟨⟨2⟩⟩ = true ∧
      (Sample.ended Sample.inTurn).contacts 3 ⟨⟨2⟩⟩ = false :=
  ⟨by decide +kernel, revoked_providers_stay_cut_off identity config Sample.inTurn
    (by decide +kernel) 3 ⟨⟨2⟩⟩ (by decide +kernel)⟩

/-- A provider is looked up, then revoked, and then connected: a restore that starts after
the revocation has returned contacts it. -/
theorem late_connection_reaches_revoked_provider : (Sample.ended Sample.late).bars 3 ⟨⟨2⟩⟩ = true ∧
      (Sample.ended Sample.late).contacts 3 ⟨⟨2⟩⟩ = true := by
  decide +kernel

end Covalent.Engine.Revocation
