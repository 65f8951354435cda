import Mathlib.Data.Prod.Lex
import Covalent.Base.Lists
import Covalent.Base.Trace
import Covalent.Sharing.Records

/-!
# Budgets of pairing probes

A submitted pairing makes the node dial an address that the sender named.  Each source may
cause a few such probes within a window, and an address that did not answer is not dialled
again for a while.

## Design notes

**Eviction.**  A new source takes the place of the least recently active one when the table is
full.  The table was pruned just before, so the attempts that are forgotten are all within the
window.

**Failures.**  A probe records its failure under the time at which it started, and others may
have started since.  Only the starts follow the clock.
-/

namespace Covalent.Pairing

open Sharing BTreeMap List Option

def maxProbesPerSource : Nat := 4
def probeBudgetWindowMs : Nat := 60 * 1000
def probeFailureCacheMs : Nat := 10 * 1000
def maxProbeBuckets : Nat := 256
def maxProbeFailureEntries : Nat := 256

/-- The errors with which a probe is refused. -/
inductive ProbeError where
  | invitationUnavailable
  | resourceLimit (what : String)
deriving DecidableEq

/-! ## The budget -/

/-- The start times of the probes of each source bucket, oldest first, and the addresses whose
last probe failed with the instant until which that is remembered. -/
structure ProbeBudget (Address : Type) [LinearOrder Address] where
  attempts : BTreeMap String (List Nat) := ∅
  failures : BTreeMap Address Nat := ∅

variable {Address : Type} [LinearOrder Address]

namespace ProbeBudget

section

variable (budget : ProbeBudget Address) (bucket : String) (address : Address) (now : Nat)

/-- What still counts. -/
def pruned : ProbeBudget Address :=
  let windowStart := now - probeBudgetWindowMs
  let attempts := budget.attempts.mapValues fun _ times =>
    times.dropWhile (decide <| · < windowStart)
  ⟨attempts.retain fun _ times => !times.isEmpty,
    budget.failures.retain fun _ expiresAt => decide (now < expiresAt)⟩

/-- The least recently active bucket. -/
def stalest (attempts : BTreeMap String (List Nat)) : Option String :=
  ((attempts.entries.filterMap fun entry =>
    entry.2.getLast?.map fun last => toLex (last, entry.1)).min?).map fun oldest => (ofLex oldest).2

/-- Charges a probe of an address to a bucket, or refuses it. -/
def admitProbe : Except ProbeError Unit × ProbeBudget Address :=
  let budget := budget.pruned now
  if budget.failures.containsKey address then (.error .invitationUnavailable, budget)
  else if (budget.attempts.get? bucket).any fun times =>
      decide (maxProbesPerSource ≤ times.length) then
    (.error (.resourceLimit "pairing probes"), budget)
  else
    let attempts :=
      if maxProbeBuckets ≤ budget.attempts.len ∧ budget.attempts.containsKey bucket = false then
        (stalest budget.attempts).elim budget.attempts budget.attempts.erase
      else budget.attempts
    (.ok (), { budget with
      attempts := attempts.insert bucket ((attempts.get? bucket).getD [] ++ [now]) })

def recordFailure : ProbeBudget Address :=
  let soonest := (budget.failures.entries.map fun entry => toLex (entry.2, entry.1)).min?
  let failures :=
    if maxProbeFailureEntries ≤ budget.failures.len ∧
        budget.failures.containsKey address = false then
      soonest.elim budget.failures fun first => budget.failures.erase (ofLex first).2
    else budget.failures
  { budget with failures := failures.insert address (saturatingAdd now probeFailureCacheMs) }

def clearFailure : ProbeBudget Address :=
  { budget with failures := budget.failures.erase address }

/-- The attempts of a bucket that are remembered. -/
def times : List Nat :=
  (budget.attempts.get? bucket).getD []

/-- The bucket is known, or there is a place for it. -/
def HasRoom : Prop :=
  (budget.pruned now).attempts.containsKey bucket = true ∨
    (budget.pruned now).attempts.len < maxProbeBuckets

end

end ProbeBudget

/-! ## Sequences of probes -/

/-- A probe is asked for, or one that was let pass ends. -/
inductive ProbeEvent (Address : Type) where
  | start (bucket : String) (address : Address) (now : Nat)
  | failed (address : Address) (startedAt : Nat)
  | succeeded (address : Address)

/-- The budget, the time of the last start, and the bucket and time of every probe that
was let pass, oldest first. -/
structure ProbeLog (Address : Type) [LinearOrder Address] where
  budget : ProbeBudget Address := {}
  clock : Nat := 0
  passed : List (String × Nat) := []

namespace ProbeLog

def step (log : ProbeLog Address) : ProbeEvent Address → ProbeLog Address
  | .start bucket address now =>
    let (result, budget) := log.budget.admitProbe bucket address now
    ⟨budget, now, if result.isOk then log.passed ++ [(bucket, now)] else log.passed⟩
  | .failed address startedAt => { log with budget := log.budget.recordFailure address startedAt }
  | .succeeded address => { log with budget := log.budget.clearFailure address }

/-- A sequence of probes from the start of the process. -/
def afterAll (events : List (ProbeEvent Address)) : ProbeLog Address :=
  events.foldl step {}

/-- The times at which probes of a bucket were let pass. -/
def passes (log : ProbeLog Address) (bucket : String) : List Nat :=
  (log.passed.filter fun entry => decide (entry.1 = bucket)).map Prod.snd

/-- The clock does not run backwards from one start to the next. -/
def InOrder (log : ProbeLog Address) : ProbeEvent Address → Prop
  | .start _ _ now => log.clock ≤ now
  | .failed _ _ | .succeeded _ => True

/-- Every probe of a new source finds a place in the table. -/
def Roomy (log : ProbeLog Address) : ProbeEvent Address → Prop
  | .start bucket _ now => log.budget.HasRoom bucket now
  | .failed _ _ | .succeeded _ => True

/-- What the table keeps of each bucket is what may still count of its probes. -/
structure Remembers (log : ProbeLog Address) : Prop where
  early : ∀ bucket, ∀ time ∈ log.passes bucket, time ≤ log.clock
  sorted : ∀ bucket, (log.passes bucket).Pairwise (· ≤ ·)
  kept : ∀ bucket, ∃ start ≤ log.clock - probeBudgetWindowMs,
    log.budget.times bucket = (log.passes bucket).dropWhile (decide <| · < start)
  paced : ∀ bucket start, (log.passes bucket).countP (fun time =>
    decide (start ≤ time ∧ time < start + probeBudgetWindowMs)) ≤ maxProbesPerSource

end ProbeLog

/-! ## One step -/

section

open ProbeBudget

variable {budget : ProbeBudget Address} {bucket other : String} {address : Address} {now : Nat}

theorem ProbeBudget.times_pruned (budget : ProbeBudget Address) (bucket : String) (now : Nat) :
    (budget.pruned now).times bucket =
      (budget.times bucket).dropWhile (decide <| · < now - probeBudgetWindowMs) := by
  rw [times, pruned, get?_retain, get?_mapValues, times]
  cases budget.attempts.get? bucket with
  | none => rfl
  | some recorded =>
    rw [map_some, filter_some, getD_some]
    split_ifs with present
    · rfl
    · exact (isEmpty_iff.mp (Bool.not_not_eq.mp present)).symm

/-- What a probe can lead to: it is refused for its address or for its budget, and then the
table is only pruned, or it is let pass and recorded. -/
theorem ProbeBudget.admitProbe_cases (budget : ProbeBudget Address) (bucket : String)
    (address : Address) (now : Nat) :
    ((budget.admitProbe bucket address now).1.isOk = false ∧
      (budget.admitProbe bucket address now).2.attempts = (budget.pruned now).attempts ∧
      ((budget.admitProbe bucket address now).1 = .error (.resourceLimit "pairing probes") →
        maxProbesPerSource ≤ ((budget.pruned now).times bucket).length)) ∨
    ((budget.admitProbe bucket address now).1.isOk = true ∧
      ((budget.pruned now).times bucket).length < maxProbesPerSource ∧
      (budget.HasRoom bucket now → ∀ other, (budget.admitProbe bucket address now).2.times other =
        if other = bucket then (budget.pruned now).times bucket ++ [now]
        else (budget.pruned now).times other)) := by
  unfold admitProbe
  dsimp only
  split
  next => exact .inl ⟨rfl, rfl, fun refused => nomatch refused⟩
  next =>
    split
    next spent =>
      refine .inl ⟨rfl, rfl, fun _ => ?_⟩
      obtain ⟨recorded, found, many⟩ := (any_eq_true _ _).mp spent
      rw [times, found]
      exact of_decide_eq_true many
    next unspent =>
      refine .inr ⟨rfl, ?_, fun room other => ?_⟩
      · cases found : (budget.pruned now).attempts.get? bucket with
        | none => simp [times, found, maxProbesPerSource]
        | some recorded => simpa [times, found] using unspent
      · rw [if_neg, times, get?_insert]
        · split_ifs with same
          · rfl
          · rfl
        · rintro ⟨full, unknown⟩
          rcases room with known | free
          · rw [unknown] at known
            cases known
          · omega

namespace ProbeLog

variable {log : ProbeLog Address}

theorem passes_concat (log : ProbeLog Address) (bucket other : String) (time : Nat)
    (budget : ProbeBudget Address) (clock : Nat) :
    (⟨budget, clock, log.passed ++ [(bucket, time)]⟩ : ProbeLog Address).passes other =
      if other = bucket then log.passes other ++ [time] else log.passes other := by
  simp only [passes, filter_append, map_append]
  split_ifs with same
  · simp [same]
  · simp [Ne.symm same]

/-- A clock that goes on leaves everything remembered, also once the table is pruned. -/
theorem Remembers.later (remembers : log.Remembers) (order : log.clock ≤ now) (bucket : String) :
    (log.budget.pruned now).times bucket =
      (log.passes bucket).dropWhile (decide <| · < now - probeBudgetWindowMs) := by
  obtain ⟨start, before, kept⟩ := remembers.kept bucket
  rw [ProbeBudget.times_pruned, kept]
  refine dropWhile_dropWhile_of_imp (fun time early => ?_) _
  have early := of_decide_eq_true early
  exact decide_eq_true (by omega)

/-- Where less than the whole budget still counts, one probe more is within the pace. -/
theorem Remembers.paced_concat (remembers : log.Remembers) (order : log.clock ≤ now)
    (unspent : ((log.budget.pruned now).times bucket).length < maxProbesPerSource) (start : Nat) :
    (log.passes bucket ++ [now]).countP (fun time =>
      decide (start ≤ time ∧ time < start + probeBudgetWindowMs)) ≤ maxProbesPerSource := by
  have before := remembers.paced bucket start
  rw [countP_append, countP_singleton]
  split_ifs with inside
  · -- What was let pass earlier in this window still counts.
    have inside := of_decide_eq_true inside
    have counted := @countP_dropWhile _ (decide <| · < now - probeBudgetWindowMs)
      (fun time => decide (start ≤ time ∧ time < start + probeBudgetWindowMs))
      (fun time early => decide_eq_false fun within => by
        have early := of_decide_eq_true early
        omega) (log.passes bucket)
    rw [← counted, ← remembers.later order]
    exact Nat.succ_le_of_lt (lt_of_le_of_lt countP_le_length unspent)
  · exact before

/-- **Step.**  While the clock does not run backwards and the table has room, the table keeps
what may still count. -/
theorem Remembers.step (remembers : log.Remembers) {event : ProbeEvent Address}
    (inOrder : log.InOrder event) (roomy : log.Roomy event) : (log.step event).Remembers := by
  cases event with
  | start bucket address now =>
    have order : log.clock ≤ now := inOrder
    rcases log.budget.admitProbe_cases bucket address now with
      ⟨refused, same, _⟩ | ⟨passed, unspent, kept⟩
    · have after : log.step (.start bucket address now) =
          ⟨(log.budget.admitProbe bucket address now).2, now, log.passed⟩ := by
        simp [ProbeLog.step, refused]
      rw [after]
      refine ⟨fun other time member => (remembers.early other time member).trans order,
        remembers.sorted, fun other => ⟨_, le_rfl, ?_⟩, remembers.paced⟩
      have kept := remembers.later order other
      rw [ProbeBudget.times, ← same] at kept
      exact kept
    · have after : log.step (.start bucket address now) =
          ⟨(log.budget.admitProbe bucket address now).2, now, log.passed ++ [(bucket, now)]⟩ := by
        simp [ProbeLog.step, passed]
      rw [after]
      constructor
      · intro other time member
        rw [passes_concat] at member
        split_ifs at member with here
        · rcases mem_append.mp member with old | new
          · exact (remembers.early other time old).trans order
          · exact (mem_singleton.mp new).le
        · exact (remembers.early other time member).trans order
      · intro other
        rw [passes_concat]
        split_ifs with here
        · refine pairwise_append.mpr ⟨remembers.sorted other, pairwise_singleton _ _,
            fun time old last new => ?_⟩
          rw [mem_singleton.mp new]
          exact (remembers.early other time old).trans order
        · exact remembers.sorted other
      · refine fun other => ⟨now - probeBudgetWindowMs, le_rfl, ?_⟩
        rw [passes_concat, kept roomy, remembers.later order, remembers.later order]
        split_ifs with here
        · rw [here, dropWhile_concat (by simp)]
        · rfl
      · intro other start
        rw [passes_concat]
        split_ifs with here
        · exact here ▸ remembers.paced_concat order unspent start
        · exact remembers.paced other start
  | failed address startedAt =>
    exact ⟨remembers.early, remembers.sorted, remembers.kept, remembers.paced⟩
  | succeeded address => exact ⟨remembers.early, remembers.sorted, remembers.kept, remembers.paced⟩

theorem Remembers.initially : ({} : ProbeLog Address).Remembers := by
  refine ⟨fun _ _ member => ?_, fun _ => .nil, fun _ => ⟨0, Nat.zero_le _, rfl⟩,
    fun _ _ => Nat.zero_le _⟩
  cases member

/-- **Run.**  So does a whole sequence of probes. -/
theorem Remembers.run {events : List (ProbeEvent Address)}
    (inOrder : Trace.Along ProbeLog.step InOrder {} events)
    (roomy : Trace.Along ProbeLog.step Roomy {} events) : (afterAll events).Remembers := by
  induction events using reverseRecOn with
  | nil => exact .initially
  | append_singleton earlier event ih =>
    rw [Trace.along_append] at inOrder roomy
    rw [afterAll, foldl_append]
    exact (ih inOrder.1 roomy.1).step inOrder.2.1 roomy.2.1

end ProbeLog

end

/-- **Probe budgets hold.**  In every sequence of probes in which the clock does not run
backwards and every new source finds a place in the table, whatever the sources: one source
passes at most four times in any window shorter than a minute, and it is refused for its
budget only when it passed four times in the last minute. -/
theorem probe_budgets_hold (events : List (ProbeEvent Address))
    (inOrder : Trace.Along ProbeLog.step ProbeLog.InOrder {} events)
    (roomy : Trace.Along ProbeLog.step ProbeLog.Roomy {} events) (bucket : String) :
    (∀ start, ((ProbeLog.afterAll events).passes bucket).countP (fun time =>
      decide (start ≤ time ∧ time < start + probeBudgetWindowMs)) ≤ maxProbesPerSource) ∧
    ∀ address now, (ProbeLog.afterAll events).clock ≤ now →
      ((ProbeLog.afterAll events).budget.admitProbe bucket address now).1 =
        .error (.resourceLimit "pairing probes") →
      maxProbesPerSource ≤ ((ProbeLog.afterAll events).passes bucket).countP fun time =>
        decide (now ≤ time + probeBudgetWindowMs) := by
  have remembers := ProbeLog.Remembers.run inOrder roomy
  generalize ProbeLog.afterAll events = log at remembers
  refine ⟨remembers.paced bucket, fun address now order refused => ?_⟩
  rcases log.budget.admitProbe_cases bucket address now with ⟨_, _, spent⟩ | ⟨passed, _, _⟩
  · have many := spent refused
    rw [remembers.later order] at many
    have recent (time : Nat)
        (member : time ∈ (log.passes bucket).dropWhile (decide <| · < now - probeBudgetWindowMs)) :
        decide (now ≤ time + probeBudgetWindowMs) = true := by
      have late := le_of_mem_dropWhile (remembers.sorted bucket) member
      exact decide_eq_true (by omega)
    rw [← countP_eq_length.mpr recent] at many
    exact many.trans (dropWhile_sublist _).countP_le
  · rw [refused] at passed
    cases passed

/-! ## A crowd of sources -/

namespace Sample

/-- A source probes four times, and while its first probe is in flight another source probes.
The failure of the first is recorded under its start, and the fifth probe is refused. -/
def overlapping : List (ProbeEvent Nat) :=
  [.start "10.0.0.1" 1 5, .start "10.0.0.2" 2 6, .failed 1 5, .start "10.0.0.1" 3 7,
    .start "10.0.0.1" 3 8, .succeeded 3, .start "10.0.0.1" 3 9]

theorem probe_budgets_hold_overlapping :
    ((ProbeLog.afterAll overlapping).passes "10.0.0.1").countP
        (fun time => decide (5 ≤ time ∧ time < 5 + probeBudgetWindowMs)) ≤ maxProbesPerSource ∧
      maxProbesPerSource ≤ ((ProbeLog.afterAll overlapping).passes "10.0.0.1").countP
        fun time => decide (10 ≤ time + probeBudgetWindowMs) := by
  have inOrder : Trace.Along ProbeLog.step ProbeLog.InOrder {} overlapping :=
    ⟨Nat.zero_le _, show 5 ≤ 6 by decide, trivial, show 6 ≤ 7 by decide, show 7 ≤ 8 by decide,
      trivial, show 8 ≤ 9 by decide, trivial⟩
  have roomy : Trace.Along ProbeLog.step ProbeLog.Roomy {} overlapping :=
    ⟨.inr (by decide), .inr (by decide +kernel), trivial, .inr (by decide +kernel),
      .inr (by decide +kernel), trivial, .inr (by decide +kernel), trivial⟩
  obtain ⟨paced, refused⟩ := probe_budgets_hold overlapping inOrder roomy "10.0.0.1"
  exact ⟨paced 5, refused 3 10 (by decide +kernel) (by decide +kernel)⟩

/-- The buckets of a crowd. -/
def source (index : Nat) : String := String.ofList (replicate index 'x')

theorem source_injective : Function.Injective source := by
  intro left right same
  have lengths := congrArg (fun text => text.toList.length) same
  simpa [source] using lengths

/-- Four probes of the first source, and one of each of some others. -/
def crowd (others : Nat) : List (ProbeEvent Nat) :=
  replicate 4 (.start (source 0) 0 1) ++
    (range others).map fun index => .start (source (index + 1)) 0 2

/-- The table while the crowd arrives. -/
structure Arriving (log : ProbeLog Nat) (others : Nat) : Prop where
  failures : log.budget.failures = ∅
  first : log.budget.attempts.get? (source 0) = some [1, 1, 1, 1]
  rest : ∀ key times, log.budget.attempts.get? key = some times →
    key = source 0 ∨ times = [2] ∧ ∃ index < others, key = source (index + 1)
  size : log.budget.attempts.len = others + 1
  passes : log.passes (source 0) = [1, 1, 1, 1]

/-- Within the first minute nothing is pruned. -/
theorem pruned_eq {budget : ProbeBudget Nat} {now : Nat} (early : now ≤ probeBudgetWindowMs)
    (failures : budget.failures = ∅)
    (present : ∀ key times, budget.attempts.get? key = some times → times ≠ []) :
    budget.pruned now = budget := by
  obtain ⟨attempts, failed⟩ := budget
  obtain rfl : failed = ∅ := failures
  have same : (.pruned ⟨attempts, ∅⟩ now : ProbeBudget Nat).attempts = attempts := by
    refine ext_get? fun key => ?_
    rw [ProbeBudget.pruned, get?_retain, get?_mapValues]
    cases found : attempts.get? key with
    | none => rfl
    | some times =>
      have start : now - probeBudgetWindowMs = 0 := by omega
      have whole : times.dropWhile (fun _ => false) = times := by cases times <;> rfl
      simp [start, whole, present key times found]
  have unfailed : ProbeBudget.pruned ⟨attempts, ∅⟩ now =
      (⟨(.pruned ⟨attempts, ∅⟩ now : ProbeBudget Nat).attempts, ∅⟩ :
        ProbeBudget Nat) := rfl
  rw [unfailed, same]

section

variable {log : ProbeLog Nat} {others : Nat}

theorem Arriving.unknown (arriving : Arriving log others) :
    log.budget.attempts.get? (source (others + 1)) = none := by
  cases found : log.budget.attempts.get? (source (others + 1)) with
  | none => rfl
  | some times =>
    rcases arriving.rest _ _ found with first | ⟨_, index, early, same⟩
    · exact absurd (source_injective first) (by omega)
    · have := source_injective same
      omega

theorem Arriving.pruned (arriving : Arriving log others) {now : Nat}
    (early : now ≤ probeBudgetWindowMs) : log.budget.pruned now = log.budget := by
  refine pruned_eq early arriving.failures fun key times found => ?_
  rcases arriving.rest key times found with rfl | ⟨rfl, _⟩
  · rw [arriving.first] at found
    cases found
    exact cons_ne_nil _ _
  · exact cons_ne_nil _ _

theorem source_ne : source 0 ≠ source (others + 1) := fun same =>
  absurd (source_injective same) (by omega)

/-- The first source is the stalest. -/
theorem Arriving.stalest (arriving : Arriving log others) :
    ProbeBudget.stalest log.budget.attempts = some (source 0) := by
  rw [ProbeBudget.stalest, map_eq_some_iff]
  refine ⟨toLex (1, source 0), min?_eq_some_iff.mpr ⟨?_, fun last member => ?_⟩, rfl⟩
  · exact mem_filterMap.mpr ⟨_, get?_eq_some_iff.mp arriving.first, rfl⟩
  · obtain ⟨⟨key, times⟩, listed, timed⟩ := mem_filterMap.mp member
    have found := get?_eq_some_iff.mpr listed
    rcases arriving.rest key times found with rfl | ⟨rfl, _⟩
    · rw [arriving.first] at found
      cases found
      cases timed
      exact le_rfl
    · cases timed
      exact Prod.Lex.le_iff.mpr (.inl (show 1 < 2 by decide))

/-- The next source is let pass, and takes the place of the first when the table is full. -/
theorem Arriving.step (arriving : Arriving log others) :
    log.step (.start (source (others + 1)) 0 2) =
      ⟨⟨(if maxProbeBuckets ≤ others + 1 then log.budget.attempts.erase (source 0)
        else log.budget.attempts).insert (source (others + 1)) [2], ∅⟩, 2,
        log.passed ++ [(source (others + 1), 2)]⟩ := by
  by_cases full : maxProbeBuckets ≤ others + 1 <;>
    simp [ProbeLog.step, ProbeBudget.admitProbe, arriving.pruned (show 2 ≤ _ by decide),
      arriving.failures, arriving.unknown, arriving.size, arriving.stalest, full, containsKey,
      get?_erase, source_ne.symm, Except.isOk, Except.toBool]

/-- Every other source finds a place while there is one. -/
theorem Arriving.next (arriving : Arriving log others) (room : others + 1 < maxProbeBuckets) :
    Arriving (log.step (.start (source (others + 1)) 0 2)) (others + 1) := by
  rw [arriving.step, if_neg (Nat.not_le.mpr room)]
  refine ⟨rfl, ?_, fun key times found => ?_, ?_, ?_⟩
  · rw [get?_insert_of_ne _ _ source_ne]
    exact arriving.first
  · rw [get?_insert] at found
    split_ifs at found with same
    · cases found
      exact .inr ⟨rfl, others, Nat.lt_succ_self _, same⟩
    · refine (arriving.rest key times found).imp_right ?_
      rintro ⟨second, index, early, named⟩
      exact ⟨second, index, early.trans (Nat.lt_succ_self _), named⟩
  · rw [len_eq_card, keySet_insert, Finset.card_insert_of_notMem, ← len_eq_card, arriving.size]
    rw [mem_keySet, arriving.unknown]
    simp
  · rw [ProbeLog.passes_concat, if_neg source_ne]
    exact arriving.passes

/-- When the table is full, the first source is forgotten. -/
theorem Arriving.evicts (arriving : Arriving log others) (full : others + 1 = maxProbeBuckets) :
    (log.step (.start (source (others + 1)) 0 2)).budget.attempts.get? (source 0) = none ∧
      (log.step (.start (source (others + 1)) 0 2)).budget.failures = ∅ ∧
      (log.step (.start (source (others + 1)) 0 2)).passes (source 0) = [1, 1, 1, 1] := by
  rw [arriving.step, if_pos full.ge]
  refine ⟨?_, rfl, ?_⟩
  · rw [get?_insert_of_ne _ _ source_ne, get?_erase, if_pos rfl]
  · rw [ProbeLog.passes_concat, if_neg source_ne]
    exact arriving.passes

end

theorem crowd_succ (others : Nat) : ProbeLog.afterAll (crowd (others + 1)) =
    (ProbeLog.afterAll (crowd others)).step (.start (source (others + 1)) 0 2) := by
  simp [ProbeLog.afterAll, crowd, range_succ]

/-- The crowd arrives up to the size of the table. -/
theorem arriving_crowd (others : Nat) (few : others + 1 ≤ maxProbeBuckets) :
    Arriving (ProbeLog.afterAll (crowd others)) others := by
  induction others with
  | zero =>
    have entries : (ProbeLog.afterAll (crowd 0)).budget.attempts.entries =
        [(source 0, [1, 1, 1, 1])] := by decide +kernel
    refine ⟨rfl, get?_eq_some_iff.mpr ?_, fun key times found => .inl ?_, ?_, ?_⟩
    · simp [entries]
    · have listed := get?_eq_some_iff.mp found
      rw [entries, mem_singleton] at listed
      exact congrArg Prod.fst listed
    · rw [len, entries]
      rfl
    · decide +kernel
  | succ others ih =>
    rw [crowd_succ]
    exact (ih (by omega)).next (by omega)

theorem crowd_inOrder (others : Nat) :
    Trace.Along ProbeLog.step ProbeLog.InOrder {} (crowd others) ∧
      (ProbeLog.afterAll (crowd others)).clock ≤ 2 := by
  induction others with
  | zero =>
    refine ⟨⟨?_, ?_, ?_, ?_, trivial⟩, ?_⟩
    · exact Nat.zero_le _
    · exact le_refl 1
    · exact le_refl 1
    · exact le_refl 1
    · exact show 1 ≤ 2 by decide
  | succ others ih =>
    rw [crowd_succ]
    refine ⟨?_, le_refl 2⟩
    have split : crowd (others + 1) = crowd others ++ [.start (source (others + 1)) 0 2] := by
      simp [crowd, range_succ]
    rw [split, Trace.along_append]
    exact ⟨ih.1, ih.2, trivial⟩

/-- A source that is forgotten is let pass. -/
theorem passes_of_forgotten {log : ProbeLog Nat} {bucket : String} {now : Nat}
    (forgotten : log.budget.attempts.get? bucket = none) (failures : log.budget.failures = ∅) :
    (log.step (.start bucket 0 now)).passes bucket = log.passes bucket ++ [now] := by
  have pruned : (log.budget.pruned now).attempts.get? bucket = none := by
    simp [ProbeBudget.pruned, get?_retain, get?_mapValues, forgotten]
  have unfailed : (log.budget.pruned now).failures.containsKey 0 = false := by
    rw [ProbeBudget.pruned, failures]
    rfl
  have passed : (log.budget.admitProbe bucket 0 now).1 = .ok () := by
    simp [ProbeBudget.admitProbe, pruned, unfailed]
  have logged : (log.step (.start bucket 0 now)).passed = log.passed ++ [(bucket, now)] := by
    show (if (log.budget.admitProbe bucket 0 now).1.isOk then _ else _) = _
    rw [passed]
    rfl
  simp [ProbeLog.passes, logged]

/-- A source probes four times, 256 others probe once each, and the source is let pass again:
five times within three milliseconds. -/
theorem crowd_forgets_attempts :
    Trace.Along ProbeLog.step ProbeLog.InOrder {} (crowd 256 ++ [.start (source 0) 0 3]) ∧
      ((ProbeLog.afterAll (crowd 256 ++ [.start (source 0) 0 3])).passes (source 0)).countP
        (fun time => decide (1 ≤ time ∧ time < 1 + probeBudgetWindowMs)) = 5 := by
  obtain ⟨inOrder, clock⟩ := crowd_inOrder 256
  obtain ⟨forgotten, failures, passes⟩ := (arriving_crowd 255 le_rfl).evicts rfl
  rw [← crowd_succ] at forgotten failures passes
  refine ⟨Trace.along_append.mpr ⟨inOrder, clock.trans (by decide), trivial⟩, ?_⟩
  have last (events : List (ProbeEvent Nat)) (event : ProbeEvent Nat) :
      ProbeLog.afterAll (events ++ [event]) = (ProbeLog.afterAll events).step event :=
    foldl_concat ..
  rw [last, passes_of_forgotten forgotten failures, passes]
  rfl

end Sample

end Covalent.Pairing
