import Covalent.Sharing.Refusal

/-!
# Signed control requests and their replay table

A peer asks for a change of the folder journal in a signed request.  The server
checks its shape, its freshness and its signature, and then remembers its nonce
for as long as the request could still be fresh.

## Design notes

**Retention.**  A request is fresh from five minutes before to five minutes after
its time of issue.  A first receipt at the early end leaves twice that time for a
second one, which is what the table retains, counted from the first receipt.
-/

namespace Covalent.Control

open Sharing Sharing.Primitives Effect BTreeMap List

/-! ## Requests -/

/-- Fixed errors of the control protocol. -/
inductive FolderControlError where
  | invalid
  | rejected
  | busy
  | timedOut
  | unavailable

/-- What a peer asks for. -/
inductive FolderControlOperation where
  | sendOffer (offer : FolderShareOffer)
  | sendAcceptance (offerId : Uuid) (acceptance : FolderShareAcceptance)
  | sendCommit (offerId : Uuid) (commit : FolderShareCommit)
  | sendRemoval (notice : FolderRemovalNotice)
  | requestLinkSettings (request : LinkSettingsRequest)
  | commitLinkSettings (commit : LinkSettingsCommit)
  | requestLinkRun (request : LinkRunRequest)
  | commitLinkRun (commit : LinkRunCommit)
  | reportLinkRun (report : LinkRunReport)
  | commitEndpointRoster (commit : EndpointRosterCommit)
  | probeAddress (requesterId targetId : DeviceId) (candidateAddress : String)

def folderControlAlpn : String := "covalent-quic/4"

/-- One-way records are never negotiated with a peer that only knows two-way ones. -/
def linkControlAlpn : String := "covalent-quic/5"

/-- The schema from which on records are about one-way links. -/
def folderLinkSchemaVersion : Nat := 2

namespace FolderControlOperation

def oneWay : FolderControlOperation → Bool
  | .sendOffer offer => offer.linkPolicy.isSome
  | .sendAcceptance _ acceptance => folderLinkSchemaVersion ≤ acceptance.schemaVersion
  | .sendCommit _ commit => folderLinkSchemaVersion ≤ commit.schemaVersion
  | .requestLinkSettings _ | .commitLinkSettings _ | .requestLinkRun _ | .commitLinkRun _
  | .reportLinkRun _ | .commitEndpointRoster _ => true
  | .sendRemoval _ | .probeAddress _ _ _ => false

def alpn (operation : FolderControlOperation) : String :=
  if operation.oneWay then linkControlAlpn else folderControlAlpn

/-- The device an operation says it comes from. -/
def requester : FolderControlOperation → DeviceId
  | .sendOffer offer => offer.sourceDeviceId
  | .sendAcceptance _ acceptance => acceptance.targetDeviceId
  | .sendCommit _ commit => commit.sourceDeviceId
  | .sendRemoval notice => notice.requesterId
  | .requestLinkSettings request => request.requesterId
  | .commitLinkSettings commit => commit.sourceId
  | .requestLinkRun request => request.requesterId
  | .commitLinkRun commit => commit.sourceId
  | .reportLinkRun report => report.reporterId
  | .commitEndpointRoster commit => commit.sourceId
  | .probeAddress requesterId _ _ => requesterId

/-- The device an operation says it is for.  Acceptances and commits name it through
the offer the journal has kept. -/
def declaredTarget : FolderControlOperation → Option DeviceId
  | .sendOffer offer => some offer.targetDeviceId
  | .sendAcceptance _ _ | .sendCommit _ _ => none
  | .sendRemoval notice => some notice.targetId
  | .requestLinkSettings request => some request.sourceId
  | .commitLinkSettings commit => some commit.targetId
  | .requestLinkRun request => some request.sourceId
  | .commitLinkRun commit => some commit.targetId
  | .reportLinkRun report => some report.sourceId
  | .commitEndpointRoster commit => some commit.targetId
  | .probeAddress _ targetId _ => some targetId

end FolderControlOperation

structure FolderControlRequest where
  schemaVersion : Nat
  requesterId : DeviceId
  targetId : DeviceId
  expectedServerCertificateFingerprint : String
  issuedAt : Nat
  nonce : String
  operation : FolderControlOperation
  operationDigest : String
  signature : String

/-- The functions of other crates that the check of a request calls. -/
class ControlPrimitives where
  /-- The length of a request as JSON text. -/
  frameBytes : FolderControlRequest → Nat
  /-- BLAKE3 of an operation as JSON text, in lowercase hex. -/
  operationDigest : FolderControlOperation → String
  /-- Ed25519 verification of the request without its signature. -/
  verifyTranscript : PublicIdentity → FolderControlRequest → String → Bool

def schemaVersion : Nat := 1
def maxFrameBytes : Nat := 64 * 1024
def maxPeers : Nat := 256
def maxNoncesPerPeer : Nat := 4096
def freshnessMs : Nat := 5 * 60 * 1000
def replayRetentionMs : Nat := 2 * freshnessMs

/-- The difference of two 64-bit numbers, in either order. -/
def absDiff (left right : Nat) : Nat :=
  if left ≤ right then right - left else left - right

section

variable [Primitives]

def validNonce (value : String) : Bool :=
  match decodeUrlSafe value with
  | none => false
  | some decoded => decoded.length == 24 && encodeUrlSafe decoded == value

/-- Whether a text is the one canonical form of an address that names one host. -/
def validSocketAddress (value : String) : Bool :=
  if value.utf8ByteSize ≤ 128 then
    match parseSocketAddr value with
    | none => false
    | some address => address.port != 0 && !address.ambiguous && renderSocketAddr address == value
  else false

def FolderControlOperation.probesInvalidAddress : FolderControlOperation → Bool
  | .probeAddress _ _ candidateAddress => !validSocketAddress candidateAddress
  | _ => false

variable [ControlPrimitives]

open ControlPrimitives

/-- Everything that is checked before the replay table is consulted. -/
def checkRequest (request : FolderControlRequest) (negotiatedAlpn : String) (server : DeviceId)
    (fingerprint : String) (requester : PublicIdentity) (now : Nat) :
    Except FolderControlError Unit := do
  refuse (decide (maxFrameBytes < frameBytes request)) .invalid
  refuse (request.operation.alpn != negotiatedAlpn || request.schemaVersion != schemaVersion ||
    request.requesterId == DeviceId.nil || request.targetId == DeviceId.nil ||
    request.requesterId == request.targetId || request.targetId != server ||
    request.requesterId != requester.deviceId ||
    request.expectedServerCertificateFingerprint != fingerprint ||
    !isLowerHexDigest fingerprint || decide (freshnessMs < absDiff now request.issuedAt) ||
    !validNonce request.nonce || request.operationDigest != operationDigest request.operation)
    .rejected
  refuse (request.operation.requester != request.requesterId ||
    request.operation.declaredTarget.any (· != server)) .rejected
  refuse request.operation.probesInvalidAddress .rejected
  refuse (!verifyTranscript requester request request.signature) .rejected

/-- What is let pass is fresh and comes from the requester that was authenticated. -/
theorem checkRequest_fresh {request : FolderControlRequest} {negotiatedAlpn : String}
    {server : DeviceId} {fingerprint : String} {requester : PublicIdentity} {now : Nat}
    (checked : checkRequest request negotiatedAlpn server fingerprint requester now = .ok ()) :
    absDiff now request.issuedAt ≤ freshnessMs := by
  simp only [checkRequest, bind_eq_ok, exists_unit, refuse_eq_ok, Bool.or_eq_false_iff,
    decide_eq_false_iff_not, not_lt] at checked
  obtain ⟨_, ⟨⟨⟨_, fresh⟩, _⟩, _⟩, _⟩ := checked
  exact fresh

end

/-! ## The replay table -/

/-- The nonces of each peer with the time of their receipt, oldest first. -/
structure FolderControlReplay where
  peers : BTreeMap DeviceId (List (String × Nat))

namespace FolderControlReplay

/-- Whether a nonce of a peer is remembered from a time of receipt. -/
def Remembers (replay : FolderControlReplay) (peer : DeviceId) (nonce : String) (at_ : Nat) :
    Prop :=
  ∃ entries, replay.peers.get? peer = some entries ∧ (nonce, at_) ∈ entries

def expired (now : Nat) (entry : String × Nat) : Bool :=
  decide (replayRetentionMs < saturatingSub now entry.2)

/-- Forget what is too old, from the front of each queue, and the peers that have
nothing left. -/
def prune (now : Nat) (replay : FolderControlReplay) : FolderControlReplay :=
  ⟨(replay.peers.mapValues fun _ entries => entries.dropWhile (expired now)).retain
    fun _ entries => !entries.isEmpty⟩

/-- Record a nonce.  A nonce is never forgotten to make room for another. -/
def insert (peer : DeviceId) (nonce : String) (now : Nat) :
    EStateM FolderControlError FolderControlReplay Unit := do
  modify (prune now)
  let replay ← get
  lift (refuse (!replay.peers.containsKey peer && decide (maxPeers ≤ replay.peers.len)) .busy)
  let entries := (replay.peers.get? peer).getD []
  set (⟨replay.peers.insert peer entries⟩ : FolderControlReplay)
  lift (refuse (entries.any (fun entry => entry.1 == nonce) ||
    decide (maxNoncesPerPeer ≤ entries.length)) .rejected)
  set (⟨replay.peers.insert peer (entries ++ [(nonce, now)])⟩ : FolderControlReplay)

end FolderControlReplay

/-- A call of the check, with everything it is given. -/
structure VerifyCall where
  request : FolderControlRequest
  negotiatedAlpn : String
  server : DeviceId
  fingerprint : String
  requester : PublicIdentity
  now : Nat

section

variable [Primitives] [ControlPrimitives]

/-- Check a request and record its nonce. -/
def verifyRequest (call : VerifyCall) : EStateM FolderControlError FolderControlReplay Unit := do
  lift (checkRequest call.request call.negotiatedAlpn call.server call.fingerprint call.requester
    call.now)
  FolderControlReplay.insert call.request.requesterId call.request.nonce call.now

/-- Whether a call passes at a replay table. -/
def passes (replay : FolderControlReplay) (call : VerifyCall) : Bool :=
  match verifyRequest call replay with
  | .ok _ _ => true
  | .error _ _ => false

/-- The calls of a sequence that pass, in order. -/
def accepted : FolderControlReplay → List VerifyCall → List VerifyCall
  | _, [] => []
  | replay, call :: rest =>
    let others := accepted (after (verifyRequest call) replay) rest
    if passes replay call then call :: others else others

end

/-! ## What the table keeps -/

namespace FolderControlReplay

variable {replay : FolderControlReplay} {peer : DeviceId} {nonce : String} {at_ now : Nat}

theorem expired_eq_false {entry : String × Nat} :
    expired now entry = false ↔ saturatingSub now entry.2 ≤ replayRetentionMs := by
  rw [expired, decide_eq_false_iff_not, not_lt]

theorem Remembers.prune (remembered : replay.Remembers peer nonce at_)
    (within : saturatingSub now at_ ≤ replayRetentionMs) :
    (replay.prune now).Remembers peer nonce at_ := by
  obtain ⟨entries, bound, member⟩ := remembered
  have kept : (nonce, at_) ∈ entries.dropWhile (expired now) :=
    mem_dropWhile member (expired_eq_false.mpr within)
  refine ⟨_, ?_, kept⟩
  have filled : (!(entries.dropWhile (expired now)).isEmpty) = true := by
    rw [Bool.not_eq_true', isEmpty_eq_false_iff]
    exact ne_nil_of_mem kept
  rw [FolderControlReplay.prune, get?_retain, get?_mapValues, bound]
  simp only [Option.map_some, Option.filter_some, filled, if_true]

/-- Binding a peer to more entries forgets nothing. -/
theorem Remembers.insert {other : DeviceId} {added : List (String × Nat)}
    (remembered : replay.Remembers peer nonce at_) :
    (⟨replay.peers.insert other ((replay.peers.get? other).getD [] ++ added)⟩ :
      FolderControlReplay).Remembers peer nonce at_ := by
  obtain ⟨entries, bound, member⟩ := remembered
  by_cases same : peer = other
  · subst same
    refine ⟨entries ++ added, ?_, mem_append_left _ member⟩
    rw [get?_insert_self, bound]
    rfl
  · exact ⟨entries, by rw [get?_insert_of_ne _ _ same, bound], member⟩

/-- Nothing is forgotten within the retention. -/
def Retains (now : Nat) (replay left : FolderControlReplay) : Prop :=
  ∀ peer nonce received, saturatingSub now received ≤ replayRetentionMs →
    replay.Remembers peer nonce received → left.Remembers peer nonce received

/-- Recording a nonce forgets nothing within the retention, remembers the nonce if it
succeeds, and fails if the nonce is remembered. -/
theorem insert_ensures (replay : FolderControlReplay) (peer : DeviceId) (nonce : String)
    (now : Nat) :
    Ensures (insert peer nonce now) replay (fun _ left => left.Remembers peer nonce now ∧
        (∀ received, saturatingSub now received ≤ replayRetentionMs →
          ¬replay.Remembers peer nonce received) ∧ Retains now replay left)
      (fun _ left => Retains now replay left) := by
  have pruned : Retains now replay (replay.prune now) :=
    fun _ _ _ within remembered => remembered.prune within
  refine ensures_bind (ensures_modify ?_)
  refine ensures_bind (ensures_get ?_)
  refine ensures_bind (ensures_refuse (fun _ => ?_) (fun _ => pruned))
  refine ensures_bind (ensures_set ?_)
  refine ensures_bind (ensures_refuse (fun unknown => ?_) (fun _ => ?_))
  · refine ensures_set ⟨?_, fun received within remembered => ?_, ?_⟩
    · exact ⟨_, get?_insert_self _ _ _, by simp⟩
    · -- The queue of the peer has the nonce, so the test for duplicates would have failed.
      obtain ⟨entries, bound, member⟩ := pruned peer nonce received within remembered
      rw [bound, Option.getD_some, Bool.or_eq_false_iff, any_eq_false] at unknown
      exact unknown.1 (nonce, received) member (by simp)
    · intro other text received within remembered
      exact (pruned other text received within remembered).insert
  · intro other text received within remembered
    have kept := @Remembers.insert _ _ _ _ peer [] (pruned other text received within remembered)
    rwa [append_nil] at kept

end FolderControlReplay

/-! ## Sequences of calls -/

section

variable [Primitives] [ControlPrimitives]

/-- A call forgets nothing within the retention; one that passes is fresh, was not
remembered and is from then on. -/
theorem verifyRequest_ensures (replay : FolderControlReplay) (call : VerifyCall) :
    Ensures (verifyRequest call) replay
      (fun _ left => absDiff call.now call.request.issuedAt ≤ freshnessMs ∧
        left.Remembers call.request.requesterId call.request.nonce call.now ∧
        (∀ received, saturatingSub call.now received ≤ replayRetentionMs →
          ¬replay.Remembers call.request.requesterId call.request.nonce received) ∧
        replay.Retains call.now left)
      (fun _ left => replay.Retains call.now left) := by
  refine ensures_bind (ensures_lift (fun _ checked => ?_) (fun _ _ => ?_))
  · refine (FolderControlReplay.insert_ensures replay _ _ _).imp ?_ (fun _ _ kept => kept)
    intro _ left inserted
    exact ⟨checkRequest_fresh checked, inserted⟩
  · exact fun _ _ _ _ remembered => remembered

variable {replay : FolderControlReplay} {peer : DeviceId} {nonce : String} {received : Nat}
  {call : VerifyCall} {calls : List VerifyCall}

theorem Remembers.after (remembered : replay.Remembers peer nonce received)
    (within : saturatingSub call.now received ≤ replayRetentionMs) :
    (after (verifyRequest call) replay).Remembers peer nonce received := by
  refine after_of_ensures (fun left : FolderControlReplay =>
    left.Remembers peer nonce received) ?_
  refine (verifyRequest_ensures replay call).imp ?_ ?_
  · rintro _ left ⟨_, _, _, kept⟩
    exact kept peer nonce received within remembered
  · intro _ left kept
    exact kept peer nonce received within remembered

theorem passes_eq_true (passed : passes replay call = true) :
    absDiff call.now call.request.issuedAt ≤ freshnessMs ∧
      (after (verifyRequest call) replay).Remembers call.request.requesterId call.request.nonce
        call.now ∧
      ∀ received, saturatingSub call.now received ≤ replayRetentionMs →
        ¬replay.Remembers call.request.requesterId call.request.nonce received := by
  unfold passes at passed
  cases ran : verifyRequest call replay with
  | error problem left =>
    rw [ran] at passed
    cases passed
  | ok value left =>
    have left_eq : Effect.after (verifyRequest call) replay = left := by
      rw [Effect.after, ran]
    obtain ⟨fresh, remembered, unknown, _⟩ := (verifyRequest_ensures replay call).of_ok ran
    rw [left_eq]
    exact ⟨fresh, remembered, unknown⟩

theorem accepted_sublist (replay : FolderControlReplay) (calls : List VerifyCall) :
    (accepted replay calls).Sublist calls := by
  induction calls generalizing replay with
  | nil => exact .slnil
  | cons call rest ih =>
    rw [accepted]
    split
    · exact (ih _).cons_cons call
    · exact (ih _).cons call

theorem accepted_fresh (member : call ∈ accepted replay calls) :
    absDiff call.now call.request.issuedAt ≤ freshnessMs := by
  induction calls generalizing replay with
  | nil => cases member
  | cons first rest ih =>
    rw [accepted] at member
    split at member
    next passed =>
      rcases mem_cons.mp member with rfl | later
      · exact (passes_eq_true passed).1
      · exact ih later
    next => exact ih member

theorem accepted_apart (remembered : replay.Remembers peer nonce received)
    (clock : calls.Pairwise fun earlier later => earlier.now ≤ later.now)
    (member : call ∈ accepted replay calls) (from_ : call.request.requesterId = peer)
    (same : call.request.nonce = nonce) :
    replayRetentionMs < saturatingSub call.now received := by
  induction calls generalizing replay with
  | nil => cases member
  | cons first rest ih =>
    obtain ⟨later, ordered⟩ := pairwise_cons.mp clock
    by_cases within : saturatingSub first.now received ≤ replayRetentionMs
    · -- The first call keeps the nonce, so it is not the accepted one.
      have kept := Remembers.after remembered within
      rw [accepted] at member
      split at member
      next passed =>
        rcases mem_cons.mp member with rfl | rest
        · obtain ⟨_, _, unknown⟩ := passes_eq_true passed
          rw [from_, same] at unknown
          exact absurd remembered (unknown received within)
        · exact ih kept ordered rest
      next => exact ih kept ordered member
    · -- From here on the clock is past the retention.
      have past : first.now ≤ call.now := by
        rcases mem_cons.mp ((accepted_sublist _ _).subset member) with rfl | rest
        · exact le_rfl
        · exact later call rest
      unfold saturatingSub at within ⊢
      split_ifs at within ⊢ <;> omega

/-- Two accepted calls of one requester with one nonce were received further apart than
the retention. -/
theorem accepted_pairwise (replay : FolderControlReplay) (calls : List VerifyCall)
    (clock : calls.Pairwise fun earlier later => earlier.now ≤ later.now) :
    (accepted replay calls).Pairwise fun earlier later =>
      later.request.requesterId = earlier.request.requesterId →
        later.request.nonce = earlier.request.nonce →
          replayRetentionMs < saturatingSub later.now earlier.now := by
  induction calls generalizing replay with
  | nil => exact List.Pairwise.nil
  | cons call rest ih =>
    obtain ⟨_, ordered⟩ := pairwise_cons.mp clock
    rw [accepted]
    split
    next passed =>
      refine pairwise_cons.mpr ⟨fun other member from_ same => ?_, ih _ ordered⟩
      exact accepted_apart (passes_eq_true passed).2.1 ordered member from_ same
    next => exact ih _ ordered

/-- **No control request is executed twice.**  Over every sequence of calls whose
clock does not run backwards, from any table: the request that a requester signed
with a nonce at a time passes at most once.  A nonce passes a second time only in
another request, signed for another time, and later than the retention. -/
theorem control_request_passes_once (replay : FolderControlReplay) (calls : List VerifyCall)
    (clock : calls.Pairwise fun earlier later => earlier.now ≤ later.now) :
    (∀ requesterId nonce issuedAt, (accepted replay calls).countP (fun call =>
        decide (call.request.requesterId = requesterId ∧ call.request.nonce = nonce ∧
          call.request.issuedAt = issuedAt)) ≤ 1) ∧
    (accepted replay calls).Pairwise fun earlier later =>
      later.request.requesterId = earlier.request.requesterId →
        later.request.nonce = earlier.request.nonce →
          later.request.issuedAt ≠ earlier.request.issuedAt ∧
            replayRetentionMs < later.now - earlier.now := by
  have apart : (accepted replay calls).Pairwise fun earlier later =>
      later.request.requesterId = earlier.request.requesterId →
        later.request.nonce = earlier.request.nonce →
          later.request.issuedAt ≠ earlier.request.issuedAt ∧
            replayRetentionMs < later.now - earlier.now := by
    refine (accepted_pairwise replay calls clock).imp_of_mem
      fun {earlier later} first second far from_ same => ?_
    have distance := far from_ same
    have early := accepted_fresh first
    have late := accepted_fresh second
    have gap : replayRetentionMs < later.now - earlier.now := by
      unfold saturatingSub at distance
      split_ifs at distance <;> omega
    refine ⟨fun issued => ?_, gap⟩
    -- Both receipts lie in the window of one time of issue, which is as long as the retention.
    unfold absDiff at early late
    unfold replayRetentionMs at gap
    split_ifs at early late <;> omega
  refine ⟨fun requesterId nonce issuedAt => ?_, apart⟩
  apply countP_le_one
  refine apart.imp fun {earlier later} different first => ?_
  rw [decide_eq_true_eq] at first
  rw [decide_eq_false_iff_not]
  rintro ⟨from_, same, issued⟩
  have distinct := different (from_.trans first.1.symm) (same.trans first.2.1.symm)
  exact distinct.1 (issued.trans first.2.2.symm)

end

/-! ## A request at the edges of its window -/

namespace Sample

open Sharing.Sample

scoped instance sampleControlPrimitives : ControlPrimitives where
  frameBytes _ := 1024
  operationDigest _ := "digest"
  verifyTranscript _ _ _ := true

/-- A probe signed by the second device. -/
def probe : FolderControlRequest :=
  ⟨1, device 2, device 1, String.ofList (replicate 64 '0'), 1000000, "n",
    .probeAddress (device 2) (device 1) "10.0.0.1:4242", "digest", "s"⟩

/-- The probe as the first device receives it. -/
def receipt (now : Nat) : VerifyCall :=
  ⟨probe, folderControlAlpn, device 1, String.ofList (replicate 64 '0'), publicIdentity 2, now⟩

/-- Received at both ends of the window, the probe passes once. -/
theorem control_request_passes_once_edges : passes ⟨∅⟩ (receipt 700000) = true ∧
      (accepted ⟨∅⟩ [receipt 700000, receipt 1300000]).countP (fun call =>
        decide (call.request.requesterId = device 2 ∧ call.request.nonce = "n" ∧
          call.request.issuedAt = 1000000)) ≤ 1 := by
  refine ⟨by decide +kernel, ?_⟩
  exact (control_request_passes_once ⟨∅⟩ [receipt 700000, receipt 1300000]
    (by simp [receipt])).1 (device 2) "n" 1000000

end Sample

end Covalent.Control
