import Covalent.Base.Trace
import Covalent.Control.Replay
import Covalent.Pairing.Nonces

/-!
# Signed pairing requests and the table of their nonces

A device that is not yet paired asks for a pairing in a signed request.  The node checks
its freshness and its signature and remembers its nonce until it expires.  The table is
kept in memory only: across a restart, what was issued up to a stored floor is refused.

## Design notes

**Expiry.**  A nonce expires at the last instant at which its request is fresh, and the
table has dropped it by then.  Before that instant the table refuses the request, after
it the freshness check does.

**The floor.**  A start stores the larger of its clock reading and the stored floor.  A
request that was stamped ahead of the clock is above that floor when the node starts again
before the stamped time, or with a clock that was set back.
-/

namespace Covalent.Pairing

open Sharing Sharing.Primitives Option
open Control (absDiff)

/-! ## Requests -/

/-- A pairing session as its text, with the responder it names. -/
structure PairingSession where
  responderDeviceId : DeviceId
  text : String
deriving DecidableEq

inductive NetworkPairingWireOperation where
  | probe
  | start (responderTransport : TransportBinding)
  | submit (pairingId : String) (session : PairingSession)
  | poll (pairingId : String)
  | cancel (pairingId : String)
deriving DecidableEq

/-- A request signed by the identity it names. -/
structure NetworkPairingWireRequest where
  schemaVersion : Nat
  requestId : String
  issuedAt : UInt64
  requester : PublicIdentity
  operation : NetworkPairingWireOperation
  signature : String
deriving DecidableEq

/-- The functions of other modules and crates that the check of a request calls. -/
class RequestPrimitives where
  /-- The signature over the request without its signature, under the pairing domain. -/
  verifyRequest : NetworkPairingWireRequest → Result Unit
  validateTransportBindingShape : TransportBinding → Result Unit
  validateExchange : PairingSession → Nat → Result Unit
  validateSessionRoles : PairingSession → Result Unit
  renderIpv4 : BitVec 32 → String
  renderIpv6 : BitVec 128 → String

open RequestPrimitives

def networkPairingSchemaVersion : Nat := 1
def networkPairingRequestSkewMs : Nat := 5 * 60 * 1000

open VolatileNonceTable

/-! ## The check of a request -/

section

variable [Primitives] [RequestPrimitives]

/-- The source bucket of an address: the address itself, or the first half of it where
addresses are cheap. -/
def rateLimitBucketKey : Option IpAddr → String
  | some (.v4 bits) => renderIpv4 bits
  | some (.v6 bits) => renderIpv6 (bits >>> 64 <<< 64) ++ "/64"
  | none => "local"

section

variable (manager : NetworkPairingManager) (request : NetworkPairingWireRequest) (now : Nat)

/-- What the operation of a request has to agree on with its requester. -/
def checkOperation : Result Unit :=
  match request.operation with
  | .probe | .poll _ | .cancel _ => .ok ()
  | .start responderTransport => do
    refuse (responderTransport.peerId != request.requester.deviceId) .authenticationFailed
    validateTransportBindingShape responderTransport
  | .submit _ session => do
    refuse (session.responderDeviceId != request.requester.deviceId) .authenticationFailed
    validateExchange session now
    validateSessionRoles session

/-- Everything that is checked before the table is consulted. -/
def checkWireRequest (requestFloor now : Nat) : Result Unit := do
  refuse (request.schemaVersion != networkPairingSchemaVersion ||
    decide (request.issuedAt.toNat ≤ requestFloor) ||
    decide (networkPairingRequestSkewMs < absDiff now request.issuedAt.toNat) ||
    request.signature.isEmpty ||
    ((decodeUrlSafe request.requestId).elim true fun nonce => nonce.length != 16))
    .authenticationFailed
  verifyRequest request
  checkOperation request now

def NetworkPairingWireRequest.nonceKey : String :=
  renderUuid request.requester.deviceId.uuid ++ ":" ++ request.requestId

def NetworkPairingWireRequest.expiresAt : Nat :=
  saturatingAdd request.issuedAt.toNat networkPairingRequestSkewMs

/-- The running process: the floor it was opened with, and its table. -/
structure NetworkPairingManager where
  requestFloor : Nat
  nonces : VolatileNonceTable := {}

def verifyAndConsumeWireRequest (source : Option IpAddr) : Result Unit × VolatileNonceTable :=
  match checkWireRequest request manager.requestFloor now with
  | .error problem => (.error problem, manager.nonces)
  | .ok () => manager.nonces.admitRequestNonce request.nonceKey request.expiresAt
      (rateLimitBucketKey source) now

end

end

/-! ## Starts -/

/-- The stored floor, read back as what requests are checked against. -/
def effectiveRequestFloor (durableFloor now : Nat) : Nat :=
  if saturatingAdd now networkPairingRequestSkewMs < durableFloor then now else durableFloor

/-- How the write of the state file ends: stored, refused with the old file in place, or
refused with the new file in place. -/
inductive Write where
  | stored
  | refused
  | late
deriving DecidableEq

/-- Whether a start with an acceptable state file gets as far as a manager. -/
def opens (stored now : Nat) (acceptable : Bool) (write : Write) : Bool :=
  acceptable && (decide (now ≤ stored) || write == .stored)

/-- The stored floor after a start, and the manager it opens. -/
def openAt (stored now : Nat) (acceptable : Bool) (write : Write) :
    Nat × Option NetworkPairingManager :=
  let durableFloor := max stored now
  if acceptable then
    if stored < durableFloor then
      match write with
      | .stored => (durableFloor, some ⟨effectiveRequestFloor durableFloor now, {}⟩)
      | .refused => (stored, none)
      | .late => (durableFloor, none)
    else (durableFloor, some ⟨effectiveRequestFloor durableFloor now, {}⟩)
  else (stored, none)

/-! ## Histories -/

inductive Event where
  /-- The process ends, if one runs, and the next one starts. -/
  | start (now : UInt64) (acceptable : Bool) (write : Write)
  | present (request : NetworkPairingWireRequest) (now : UInt64) (source : Option IpAddr)

/-- A node over its starts: the stored floor, the running process with the last reading of
its clock, and the requests that have passed so far. -/
structure History where
  stored : Nat
  process : Option NetworkPairingManager := none
  clock : Nat := 0
  passed : List NetworkPairingWireRequest := []

namespace History

variable [Primitives] [RequestPrimitives]

section

variable (history : History) (event : Event)

def passes (request : NetworkPairingWireRequest) (now : UInt64) (source : Option IpAddr) : Bool :=
  history.process.any fun manager =>
    (verifyAndConsumeWireRequest manager request now.toNat source).1.isOk

def step : Event → History
  | .start now acceptable write =>
    let opened := openAt history.stored now.toNat acceptable write
    { history with stored := opened.1, process := opened.2, clock := now.toNat }
  | .present request now source =>
    { history with
      process := history.process.map fun manager =>
        { manager with
          nonces := (verifyAndConsumeWireRequest manager request now.toNat source).2 }
      clock := now.toNat
      passed := if history.passes request now source then request :: history.passed
        else history.passed }

/-- The unexpired nonces that the presentation of a request drops from the table. -/
def lost : Event → List String
  | .start _ _ _ => []
  | .present request now source =>
    match history.process with
    | none => []
    | some manager =>
      (manager.nonces.unexpired now.toNat).nonces.keys.filter fun key =>
        !(verifyAndConsumeWireRequest manager request now.toNat source).2.nonces.containsKey key

/-- The step drops the nonce, before it expires, from a source that has reached its fair share
of the table. -/
def Evicts (key : String) : Prop :=
  key ∈ history.lost event ∧ match event with
    | .start _ _ _ => False
    | .present _ now _ => ∃ manager, history.process = some manager ∧
        (manager.nonces.unexpired now.toNat).InFullBucket key

/-- The clock does not run backwards while a process runs. -/
def InOrder : Event → Prop
  | .start _ _ _ => True
  | .present _ now _ => history.clock ≤ now.toNat

instance (history : History) : (event : Event) → Decidable (history.InOrder event)
  | .start _ _ _ => inferInstanceAs (Decidable True)
  | .present _ now _ => inferInstanceAs (Decidable (history.clock ≤ now.toNat))

/-- No request is presented at the instant of its expiry, and a start sets a floor that is
not below what passed before. -/
def Covered : Event → Prop
  | .start now acceptable write => opens history.stored now.toNat acceptable write →
      ∀ request ∈ history.passed, request.issuedAt.toNat ≤
        effectiveRequestFloor (max history.stored now.toNat) now.toNat
  | .present request now _ => now.toNat ≠ request.expiresAt

end

end History

/-! ## Requests pass once -/

variable {manager : NetworkPairingManager}

theorem openAt_eq_some {stored now floor : Nat} {acceptable : Bool} {write : Write}
    (opened : openAt stored now acceptable write = (floor, some manager)) :
    opens stored now acceptable write = true ∧
      manager = ⟨effectiveRequestFloor (max stored now) now, {}⟩ := by
  unfold openAt at opened
  split at opened
  next accepted =>
    dsimp only at opened
    split at opened
    next =>
      cases write with
      | stored =>
        cases opened
        exact ⟨by simp [opens, accepted], rfl⟩
      | refused => cases opened
      | late => cases opened
    next early =>
      cases opened
      refine ⟨?_, rfl⟩
      have reached : now ≤ stored := by omega
      simp [opens, accepted, reached]
  next => cases opened

namespace History

variable [Primitives] [RequestPrimitives]

theorem checkWireRequest_eq_ok {request : NetworkPairingWireRequest} {requestFloor now : Nat}
    (checked : checkWireRequest request requestFloor now = .ok ()) :
    requestFloor < request.issuedAt.toNat ∧
      absDiff now request.issuedAt.toNat ≤ networkPairingRequestSkewMs := by
  simp only [checkWireRequest, bind_eq_ok, exists_unit, refuse_eq_ok,
    Bool.or_eq_false_iff, decide_eq_false_iff_not, not_le, not_lt] at checked
  exact ⟨checked.1.1.1.1.2, checked.1.1.1.2⟩

omit [Primitives] [RequestPrimitives] in
/-- A fresh request is not past its expiry. -/
theorem le_expiresAt {request : NetworkPairingWireRequest} {now : UInt64}
    (fresh : absDiff now.toNat request.issuedAt.toNat ≤ networkPairingRequestSkewMs) :
    now.toNat ≤ request.expiresAt := by
  have bounded := now.toNat_lt
  unfold absDiff at fresh
  unfold NetworkPairingWireRequest.expiresAt saturatingAdd
  split_ifs at fresh <;> omega

/-- The place that a request asks for in the table. -/
def admission (request : NetworkPairingWireRequest) (now : Nat) (source : Option IpAddr) :
    Admission :=
  ⟨request.nonceKey, request.expiresAt, rateLimitBucketKey source, now⟩

/-- The table of the running process is regular. -/
def Regular (history : History) : Prop :=
  ∀ manager, history.process = some manager → manager.nonces.Regular

theorem verify_regular (regular : manager.nonces.Regular)
    (request : NetworkPairingWireRequest) (now : Nat) (source : Option IpAddr) :
    (verifyAndConsumeWireRequest manager request now source).2.Regular := by
  unfold verifyAndConsumeWireRequest
  split
  · exact regular
  · exact @VolatileNonceTable.Regular.consume _ (admission request now source) regular

theorem Regular.step {history : History} (regular : history.Regular) (event : Event) :
    (history.step event).Regular := by
  intro next after
  cases event with
  | start now acceptable write =>
    obtain ⟨_, rfl⟩ := openAt_eq_some (Prod.ext rfl after)
    exact .run []
  | present request now source =>
    obtain ⟨manager, running, rfl⟩ := map_eq_some_iff.mp after
    exact verify_regular (regular manager running) request now.toNat source

theorem Regular.run {history : History} (regular : history.Regular) (events : List Event) :
    (events.foldl History.step history).Regular := by
  induction events generalizing history with
  | nil => exact regular
  | cons event rest ih => exact ih (regular.step event)

/-- The nonce of a request that passed is in the table, or the request is out of date, by
the floor of the process or by its clock. -/
structure Consumed (history : History) (request : NetworkPairingWireRequest) : Prop where
  regular : history.Regular
  passed : request ∈ history.passed
  kept : ∀ manager, history.process = some manager →
    request.issuedAt.toNat ≤ manager.requestFloor ∨ request.expiresAt ≤ history.clock ∨
      manager.nonces.nonces.get? request.nonceKey = some request.expiresAt

/-- Two copies of a request: what the signature covers and the table compares. -/
def Same (first second : NetworkPairingWireRequest) : Prop :=
  second.requester.deviceId = first.requester.deviceId ∧ second.requestId = first.requestId ∧
    second.issuedAt = first.issuedAt

omit [RequestPrimitives] in
theorem Same.nonceKey {first second : NetworkPairingWireRequest} (same : Same first second) :
    second.nonceKey = first.nonceKey := by
  obtain ⟨requester, id, _⟩ := same
  rw [NetworkPairingWireRequest.nonceKey, requester, id, NetworkPairingWireRequest.nonceKey]

variable {history : History} {request : NetworkPairingWireRequest} {now : UInt64}
  {source : Option IpAddr}

theorem passes_eq_true (passed : history.passes request now source = true) :
    ∃ manager, history.process = some manager ∧
      checkWireRequest request manager.requestFloor now.toNat = .ok () ∧
        (manager.nonces.admitRequestNonce request.nonceKey request.expiresAt
          (rateLimitBucketKey source) now.toNat).1.isOk = true := by
  obtain ⟨manager, running, verified⟩ := (any_eq_true _ _).mp passed
  refine ⟨manager, running, ?_⟩
  unfold verifyAndConsumeWireRequest at verified
  split at verified
  next => cases verified
  next checked => exact ⟨checked, verified⟩

omit [Primitives] [RequestPrimitives] in
theorem get?_unexpired {table : VolatileNonceTable} {now expiresAt : Nat} {key : String}
    (held : table.nonces.get? key = some expiresAt) (early : now < expiresAt) :
    (table.unexpired now).nonces.get? key = some expiresAt := by
  simp [unexpired, BTreeMap.get?_retain, held, early]

/-- A request that passes is consumed. -/
theorem consumed_of_passes (regular : history.Regular)
    (passed : history.passes request now source = true) :
    Consumed (history.step (.present request now source)) request := by
  obtain ⟨manager, running, checked, admitted⟩ := passes_eq_true passed
  refine ⟨regular.step _, by simp [step, passed], fun next after => .inr (.inr ?_)⟩
  simp only [step, running, map_some, some.injEq] at after
  subst after
  simp only [verifyAndConsumeWireRequest, checked]
  exact (@VolatileNonceTable.Regular.outcome _ (admission request now.toNat source)
    (regular manager running)).passed admitted |>.2

/-- What a call drops, beyond what has expired, is in a bucket that has reached its share. -/
theorem verify_keeps (regular : manager.nonces.Regular)
    (request : NetworkPairingWireRequest) (now : Nat) (source : Option IpAddr) {key : String}
    {expiresAt : Nat}
    (held : manager.nonces.nonces.get? key = some expiresAt) (early : now < expiresAt) :
    (verifyAndConsumeWireRequest manager request now source).2.nonces.get? key = some expiresAt ∨
      (verifyAndConsumeWireRequest manager request now source).2.nonces.get? key = none ∧
        (manager.nonces.unexpired now).InFullBucket key := by
  have unexpired := get?_unexpired held early
  unfold verifyAndConsumeWireRequest
  split
  next => exact .inl held
  next =>
    exact (@VolatileNonceTable.Regular.outcome _ (admission request now source) regular).kept
      unexpired

/-- **Step.**  A consumed request stays consumed, unless the step evicts its nonce from a
bucket that has reached its share. -/
theorem Consumed.step (consumed : Consumed history request) {event : Event}
    (inOrder : history.InOrder event) (covered : history.Covered event) :
    Consumed (history.step event) request ∨ history.Evicts event request.nonceKey := by
  cases event with
  | start now acceptable write =>
    refine .inl ⟨consumed.regular.step _, consumed.passed, fun manager opened => .inl ?_⟩
    obtain ⟨opens, rfl⟩ := openAt_eq_some (Prod.ext rfl opened)
    exact covered opens request consumed.passed
  | present other now source =>
    have stillPassed : request ∈ (history.step (.present other now source)).passed := by
      simp only [History.step]
      split
      · exact List.mem_cons_of_mem _ consumed.passed
      · exact consumed.passed
    cases running : history.process with
    | none =>
      refine .inl ⟨consumed.regular.step _, stillPassed, fun manager after => ?_⟩
      simp [History.step, running] at after
    | some manager =>
      have after : (history.step (.present other now source)).process = some
          { manager with nonces :=
            (verifyAndConsumeWireRequest manager other now.toNat source).2 } := by
        simp [History.step, running]
      have clock : (history.step (.present other now source)).clock = now.toNat := rfl
      by_cases early : now.toNat < request.expiresAt
      · rcases consumed.kept manager running with old | late | held
        · refine .inl ⟨consumed.regular.step _, stillPassed, fun next opened => .inl ?_⟩
          cases after.symm.trans opened
          exact old
        · have ordered : history.clock ≤ now.toNat := inOrder
          omega
        · rcases verify_keeps (consumed.regular manager running) other now.toNat source held early
            with kept | ⟨gone, full⟩
          · refine .inl ⟨consumed.regular.step _, stillPassed, fun next opened => .inr (.inr ?_)⟩
            cases after.symm.trans opened
            exact kept
          · refine .inr ⟨?_, manager, running, full⟩
            have unexpired := get?_unexpired held early
            simp [lost, running, BTreeMap.mem_keys, unexpired, gone]
      · refine .inl ⟨consumed.regular.step _, stillPassed, fun _ _ => .inr (.inl ?_)⟩
        omega

/-- A consumed request does not pass. -/
theorem Consumed.not_passes (consumed : Consumed history request) {copy : NetworkPairingWireRequest}
    (same : Same request copy) (inOrder : history.InOrder (.present copy now source))
    (covered : history.Covered (.present copy now source)) :
    history.passes copy now source = false := by
  rw [Bool.eq_false_iff]
  intro passed
  obtain ⟨manager, running, checked, admitted⟩ := passes_eq_true passed
  obtain ⟨aboveFloor, fresh⟩ := checkWireRequest_eq_ok checked
  have expiry : copy.expiresAt = request.expiresAt := by
    rw [NetworkPairingWireRequest.expiresAt, same.2.2, NetworkPairingWireRequest.expiresAt]
  have early : now.toNat < request.expiresAt := by
    have notLate := le_expiresAt fresh
    have notThen : now.toNat ≠ copy.expiresAt := covered
    omega
  rcases consumed.kept manager running with old | late | held
  · rw [same.2.2] at aboveFloor
    omega
  · have ordered : history.clock ≤ now.toNat := inOrder
    omega
  · have absent := (@VolatileNonceTable.Regular.outcome _ (admission copy now.toNat source)
      (consumed.regular manager running)).passed admitted |>.1
    rw [admission, same.nonceKey] at absent
    cases absent.symm.trans (get?_unexpired held early)

/-- **Run.**  A consumed request stays consumed over a run, up to a step that evicts its
nonce. -/
theorem Consumed.run {events : List Event} (consumed : Consumed history request)
    (inOrder : Trace.Along History.step InOrder history events)
    (covered : Trace.Along History.step Covered history events) :
    Consumed (events.foldl History.step history) request ∨
      ∃ kept event rest, events = kept ++ event :: rest ∧
        (kept.foldl History.step history).Evicts event request.nonceKey := by
  induction events generalizing history with
  | nil => exact .inl consumed
  | cons event rest ih =>
    rcases consumed.step inOrder.1 covered.1 with stays | evicts
    · refine (ih stays inOrder.2 covered.2).imp_right ?_
      rintro ⟨kept, next, more, rfl, evicts⟩
      exact ⟨event :: kept, next, more, rfl, evicts⟩
    · exact .inr ⟨[], event, rest, rfl, evicts⟩

end History

/-- **A pairing request passes once.**  In every history in which the clock does not run
backwards while a process runs, no request is presented at the instant of its expiry, and
every start sets a floor that is not below what passed before it: a request passes again
only if, in between, its nonce was evicted from a source that had reached its fair share. -/
theorem pairing_request_passes_once [Primitives] [RequestPrimitives] (stored : Nat)
    (before between : List Event) (first second : NetworkPairingWireRequest)
    (firstNow secondNow : UInt64) (firstSource secondSource : Option IpAddr)
    (inOrder : Trace.Along History.step History.InOrder ⟨stored, none, 0, []⟩
      (before ++ .present first firstNow firstSource ::
        (between ++ [.present second secondNow secondSource])))
    (covered : Trace.Along History.step History.Covered ⟨stored, none, 0, []⟩
      (before ++ .present first firstNow firstSource ::
        (between ++ [.present second secondNow secondSource])))
    (same : History.Same first second)
    (passed : (before.foldl History.step ⟨stored, none, 0, []⟩).passes first firstNow
      firstSource = true) :
    ((before ++ .present first firstNow firstSource :: between).foldl History.step
        ⟨stored, none, 0, []⟩).passes second secondNow secondSource = false ∨
      ∃ kept event rest, between = kept ++ event :: rest ∧
        ((before ++ .present first firstNow firstSource :: kept).foldl History.step
          ⟨stored, none, 0, []⟩).Evicts event first.nonceKey := by
  simp only [Trace.along_append, Trace.Along, List.foldl_append, List.foldl_cons] at *
  obtain ⟨_, _, inOrder, last, _⟩ := inOrder
  obtain ⟨_, _, covered, lastCovered, _⟩ := covered
  have regular : (before.foldl History.step ⟨stored, none, 0, []⟩).Regular := by
    refine History.Regular.run (fun manager running => ?_) before
    cases running
  refine ((History.consumed_of_passes regular passed).run inOrder covered).imp_left
    fun consumed => ?_
  exact consumed.not_passes same last lastCovered

/-! ## Requests that pass twice -/

namespace Sample

open Sharing.Sample (device publicIdentity)
open scoped Sharing.Sample

scoped instance sampleRequestPrimitives : RequestPrimitives where
  verifyRequest _ := .ok ()
  validateTransportBindingShape _ := .ok ()
  validateExchange _ _ := .ok ()
  validateSessionRoles _ := .ok ()
  renderIpv4 _ := "10.0.0.1"
  renderIpv6 _ := "::"

/-- A probe signed for the minute 1000. -/
def probe : NetworkPairingWireRequest :=
  ⟨1, "i", 60000000, publicIdentity 2, .probe, "signature"⟩

/-- The probe at a minute of the node's clock. -/
def probed (minute : UInt64) : Event :=
  .present probe (minute * 60000) none

/-- A start at a minute of the node's clock. -/
def started (minute : UInt64) : Event :=
  .start (minute * 60000) true .stored

def blank : History := ⟨0, none, 0, []⟩

/-- A probe that is presented twice before it expires passes once. -/
theorem pairing_request_passes_once_probe :
    (blank.step (started 990)).passes probe 59940000 none = true ∧
      ((blank.step (started 990)).step (probed 999)).passes probe 60240000 none = false := by
  have passed : (blank.step (started 990)).passes probe 59940000 none = true := by
    decide +kernel
  refine ⟨passed, ?_⟩
  have inOrder : Trace.Along History.step History.InOrder blank
      ([started 990] ++ probed 999 :: ([] ++ [.present probe 60240000 none])) := by
    refine ⟨trivial, ?_, ?_, trivial⟩
    · show (990 * 60000 : UInt64).toNat ≤ (999 * 60000 : UInt64).toNat
      decide
    · show (999 * 60000 : UInt64).toNat ≤ (60240000 : UInt64).toNat
      decide
  have covered : Trace.Along History.step History.Covered blank
      ([started 990] ++ probed 999 :: ([] ++ [.present probe 60240000 none])) := by
    refine ⟨fun _ _ member => ?_, ?_, ?_, trivial⟩
    · cases member
    · show (999 * 60000 : UInt64).toNat ≠ probe.expiresAt
      decide
    · show (60240000 : UInt64).toNat ≠ probe.expiresAt
      decide
  rcases pairing_request_passes_once 0 [started 990] [] probe probe 59940000 60240000 none none
    inOrder covered ⟨rfl, rfl, rfl⟩ passed with refused | ⟨kept, event, rest, split, _⟩
  · exact refused
  · simp at split

/-- Presented twice at the instant of its expiry; stamped ahead of the clock, with a start
before the stamped time; and presented again after a start with a clock that was set back. -/
def replays : List (List Event) :=
  [[started 990, probed 1005, probed 1005], [started 990, probed 996, started 997, probed 998],
    [started 990, probed 1001, started 995, probed 996]]

/-- In each of these histories the clock does not run backwards while a process runs, no
unexpired nonce is dropped, and the probe passes twice. -/
theorem pairing_requests_pass_twice :
    replays.Forall fun events => Trace.Along History.step History.InOrder blank events ∧
      Trace.Along History.step (fun history event => history.lost event = []) blank events ∧
      (events.foldl History.step blank).passed = [probe, probe] := by
  decide +kernel

end Sample

end Covalent.Pairing
