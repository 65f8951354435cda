import Covalent.Protocol
import Mathlib.Data.Prod.Lex

/-!
# The table of consumed nonces

The table is bounded, so that a new nonce may need the place of an unexpired one.  Whose
entry is given up depends on how many entries each source holds, and the share that a source
is entitled to narrows as sources appear.

## Design notes

**One eviction at most.**  The code may evict twice, from the source of the request and then
from the largest source, against a share that was computed before.  A table within its bound
has room after the first eviction, so the second never follows, and each eviction is judged
by the counts at its own moment.
-/

namespace Covalent.Pairing

def maxConsumedRequestNonces : Nat := 4096
def maxConsumedNoncesPerSource : Nat := 512
def minFairNonceSharePerSource : Nat := 16

/-! ## The table -/

/-- The nonces that the running process has consumed: when each expires, and the source
bucket that admitted it. -/
structure VolatileNonceTable where
  nonces : BTreeMap String Nat := ∅
  sources : BTreeMap String String := ∅

/-- The share of the table that one source may hold before its own entries can be evicted. -/
def sourceNonceBudget (buckets : BTreeMap String String) : Nat :=
  let sources := buckets.values.toFinset.card
  let fairShare :=
    if sources = 0 then maxConsumedNoncesPerSource else maxConsumedRequestNonces / sources
  max minFairNonceSharePerSource (min fairShare maxConsumedNoncesPerSource)

def bucketLen (buckets : BTreeMap String String) (source : String) : Nat :=
  buckets.values.count source

/-- The largest bucket, among those that have reached the budget. -/
def noisiestBucketAtBudget (buckets : BTreeMap String String) (budget : Nat) : Option String :=
  let counts := buckets.values.foldl
    (fun counts bucket => counts.insert bucket ((counts.get? bucket).getD 0 + 1))
    (∅ : BTreeMap String Nat)
  let full := counts.entries.filter fun entry => decide (budget ≤ entry.2)
  ((full.map fun entry => toLex (entry.2, entry.1)).max?).map fun widest => (ofLex widest).2

namespace VolatileNonceTable

/-- What is left of the table once expired nonces are dropped. -/
def unexpired (table : VolatileNonceTable) (now : Nat) : VolatileNonceTable :=
  let nonces := table.nonces.retain fun _ expiresAt => decide (now < expiresAt)
  ⟨nonces, table.sources.retain fun key _ => nonces.containsKey key⟩

/-- Drops the entry of a bucket that expires soonest. -/
def evictSoonestExpiring (table : VolatileNonceTable) (source : String) : VolatileNonceTable :=
  let held := (table.sources.entries.filter fun entry => entry.2 = source).filterMap
    fun entry => (table.nonces.get? entry.1).map fun expiresAt => toLex (expiresAt, entry.1)
  match held.min? with
  | none => table
  | some victim =>
    ⟨table.nonces.erase (ofLex victim).2, table.sources.erase (ofLex victim).2⟩

/-- The nonce is held by a source that has reached its fair share of the table. -/
def InFullBucket (table : VolatileNonceTable) (key : String) : Prop :=
  ∃ bucket, table.sources.get? key = some bucket ∧
    sourceNonceBudget table.sources ≤ bucketLen table.sources bucket

/-- Consumes a nonce that was not consumed before.  The table is left pruned, and without
what was evicted, also where the nonce is refused. -/
def admitRequestNonce (table : VolatileNonceTable) (nonceKey : String) (expiresAt : Nat)
    (source : String) (now : Nat) : Result Unit × VolatileNonceTable :=
  let pruned := table.unexpired now
  if pruned.nonces.containsKey nonceKey then (.error .authenticationFailed, pruned)
  else
    let budget := sourceNonceBudget pruned.sources
    let own := if budget ≤ bucketLen pruned.sources source then pruned.evictSoonestExpiring source
      else pruned
    let crowder := noisiestBucketAtBudget own.sources budget
    if maxConsumedRequestNonces ≤ own.nonces.len ∧ crowder = none then
      (.error (.resourceLimit "pairing request nonces"), own)
    else
      let left := if maxConsumedRequestNonces ≤ own.nonces.len then
          crowder.elim own own.evictSoonestExpiring
        else own
      if maxConsumedRequestNonces ≤ left.nonces.len then
        (.error (.resourceLimit "pairing request nonces"), left)
      else (.ok (), ⟨left.nonces.insert nonceKey expiresAt, left.sources.insert nonceKey source⟩)

end VolatileNonceTable

open VolatileNonceTable BTreeMap List Option

/-! ## Requests for a place -/

/-- A request for a place in the table: the nonce and its expiry, the source bucket and the
reading of the clock. -/
structure Admission where
  nonceKey : String
  expiresAt : Nat
  source : String
  now : Nat

namespace VolatileNonceTable

def consume (table : VolatileNonceTable) (request : Admission) : Result Unit × VolatileNonceTable :=
  table.admitRequestNonce request.nonceKey request.expiresAt request.source request.now

/-- The table of a process after a sequence of requests. -/
def afterAll (requests : List Admission) : VolatileNonceTable :=
  requests.foldl (fun table request => (table.consume request).2) {}

def without (table : VolatileNonceTable) (key : String) : VolatileNonceTable :=
  ⟨table.nonces.erase key, table.sources.erase key⟩

/-- The table with the nonce of a request. -/
def record (table : VolatileNonceTable) (request : Admission) : VolatileNonceTable :=
  ⟨table.nonces.insert request.nonceKey request.expiresAt,
    table.sources.insert request.nonceKey request.source⟩

/-- Everything that a request can lead to, at a table without expired nonces. -/
inductive Outcome (table : VolatileNonceTable) (request : Admission) :
    Result Unit × VolatileNonceTable → Prop where
  | replayed (known : table.nonces.containsKey request.nonceKey = true) :
      Outcome table request (.error .authenticationFailed, table)
  | crowded (full : maxConsumedRequestNonces ≤ table.nonces.len)
      (below : ∀ source, bucketLen table.sources source < sourceNonceBudget table.sources) :
      Outcome table request (.error (.resourceLimit "pairing request nonces"), table)
  | fresh (new : table.nonces.get? request.nonceKey = none)
      (room : table.nonces.len < maxConsumedRequestNonces) :
      Outcome table request (.ok (), table.record request)
  | evicting {key bucket : String} (new : table.nonces.get? request.nonceKey = none)
      (held : table.sources.get? key = some bucket)
      (spent : sourceNonceBudget table.sources ≤ bucketLen table.sources bucket) :
      Outcome table request (.ok (), (table.without key).record request)

/-- The two maps have the same keys, and there are not too many of them. -/
structure Regular (table : VolatileNonceTable) : Prop where
  keys : table.sources.keySet = table.nonces.keySet
  size : table.nonces.len ≤ maxConsumedRequestNonces

/-! ## Shares -/

theorem minFairNonceShare_le_budget (buckets : BTreeMap String String) :
    minFairNonceSharePerSource ≤ sourceNonceBudget buckets :=
  le_max_left _ _

theorem budget_pos (buckets : BTreeMap String String) : 0 < sourceNonceBudget buckets :=
  lt_of_lt_of_le (by decide) (minFairNonceShare_le_budget buckets)

theorem get?_counts (values : List String) (counts : BTreeMap String Nat) (source : String) :
    (values.foldl (fun counts bucket => counts.insert bucket ((counts.get? bucket).getD 0 + 1))
      counts).get? source =
        if source ∈ values then some ((counts.get? source).getD 0 + values.count source)
        else counts.get? source := by
  induction values generalizing counts with
  | nil => simp
  | cons first rest ih =>
    rw [foldl_cons, ih, get?_insert]
    by_cases same : source = first
    · subst same
      by_cases again : source ∈ rest
      · simp [again]
        omega
      · simp [again, count_eq_zero.mpr again]
    · simp [same, Ne.symm same]

/-- A bucket that is chosen for being too large holds as much as the budget allows. -/
theorem le_bucketLen_of_noisiest {buckets : BTreeMap String String} {budget : Nat}
    {source : String} (noisiest : noisiestBucketAtBudget buckets budget = some source) :
    budget ≤ bucketLen buckets source := by
  unfold noisiestBucketAtBudget at noisiest
  obtain ⟨widest, largest, rfl⟩ := map_eq_some_iff.mp noisiest
  obtain ⟨entry, member, rfl⟩ := mem_map.mp (max?_mem largest)
  obtain ⟨counted, full⟩ := mem_filter.mp member
  have count := get?_eq_some_iff.mpr counted
  rw [get?_counts] at count
  split at count
  next =>
    simp only [get?_empty, getD_none, Nat.zero_add, some.injEq] at count
    rw [← count] at full
    exact of_decide_eq_true full
  next => simp at count

/-- Where no bucket is chosen for being too large, every bucket is below the budget. -/
theorem bucketLen_lt_of_noisiest {buckets : BTreeMap String String} {budget : Nat}
    (positive : 0 < budget) (none : noisiestBucketAtBudget buckets budget = none)
    (source : String) : bucketLen buckets source < budget := by
  unfold noisiestBucketAtBudget at none
  rw [map_eq_none_iff, max?_eq_none_iff, map_eq_nil_iff, filter_eq_nil_iff] at none
  by_cases present : source ∈ buckets.values
  · have counted := get?_counts buckets.values ∅ source
    rw [if_pos present, get?_eq_some_iff] at counted
    have below := none _ counted
    simpa [bucketLen] using below
  · rw [bucketLen, count_eq_zero.mpr present]
    exact positive

/-! ## One step -/

section

variable {table : VolatileNonceTable} {request : Admission} {source key : String}

theorem Regular.unexpired (regular : table.Regular) (now : Nat) :
    (table.unexpired now).Regular := by
  constructor
  · ext key
    simp only [VolatileNonceTable.unexpired, mem_keySet, get?_retain]
    constructor
    · rintro ⟨bucket, kept⟩
      obtain ⟨_, contained⟩ := filter_eq_some_iff.mp kept
      simpa [get?_retain] using contained
    · rintro ⟨expiresAt, kept⟩
      obtain ⟨held, early⟩ := filter_eq_some_iff.mp kept
      have member : key ∈ table.sources.keySet := by
        rw [regular.keys]
        exact mem_keySet.mpr ⟨expiresAt, held⟩
      obtain ⟨bucket, known⟩ := mem_keySet.mp member
      exact ⟨bucket, by simpa [known, get?_retain, held] using early⟩
  · exact (len_retain_le _ _).trans regular.size

theorem Regular.mem_nonces (regular : table.Regular) (held : table.sources.get? key = some source) :
    key ∈ table.nonces.keySet := by
  rw [← regular.keys]
  exact mem_keySet.mpr ⟨source, held⟩

/-- A bucket that holds something gives up one of its entries. -/
theorem Regular.evictSoonestExpiring (regular : table.Regular)
    (held : 0 < bucketLen table.sources source) :
    ∃ key, table.sources.get? key = some source ∧
      table.evictSoonestExpiring source = table.without key := by
  unfold VolatileNonceTable.evictSoonestExpiring
  dsimp only
  split
  next none =>
    obtain ⟨key, bound⟩ := mem_values.mp (count_pos_iff.mp held)
    obtain ⟨expiresAt, timed⟩ := mem_keySet.mp (regular.mem_nonces bound)
    rw [min?_eq_none_iff, filterMap_eq_nil_iff] at none
    have untimed := none (key, source)
      (mem_filter.mpr ⟨get?_eq_some_iff.mp bound, by simp⟩)
    simp [timed] at untimed
  next victim soonest =>
    obtain ⟨entry, member, timed⟩ := mem_filterMap.mp (min?_mem soonest)
    obtain ⟨expiresAt, _, rfl⟩ := map_eq_some_iff.mp timed
    obtain ⟨bound, ofSource⟩ := mem_filter.mp member
    refine ⟨entry.1, ?_, rfl⟩
    rw [← of_decide_eq_true ofSource]
    exact get?_eq_some_iff.mpr bound

theorem Regular.len_without (regular : table.Regular)
    (held : table.sources.get? key = some source) :
    (table.without key).nonces.len < maxConsumedRequestNonces := by
  have fewer := Finset.card_erase_lt_of_mem (regular.mem_nonces held)
  rw [← keySet_erase, ← len_eq_card, ← len_eq_card] at fewer
  exact fewer.trans_le regular.size

/-- One of the outcomes is what happens. -/
theorem Regular.outcome (regular : table.Regular) :
    Outcome (table.unexpired request.now) request (table.consume request) := by
  have still := regular.unexpired request.now
  unfold consume admitRequestNonce
  generalize table.unexpired request.now = pruned at still
  dsimp only
  split
  next known => exact .replayed known
  next unknown =>
    have new : pruned.nonces.get? request.nonceKey = none := by
      rwa [Bool.not_eq_true, containsKey_eq_false_iff] at unknown
    -- Whichever source gives up an entry, there is room afterwards.
    have evicts {bucket : String}
        (spent : sourceNonceBudget pruned.sources ≤ bucketLen pruned.sources bucket) :
        ∃ key, pruned.sources.get? key = some bucket ∧
          pruned.evictSoonestExpiring bucket = pruned.without key ∧
          ¬maxConsumedRequestNonces ≤ (pruned.without key).nonces.len := by
      obtain ⟨key, held, evicted⟩ :=
        still.evictSoonestExpiring ((budget_pos pruned.sources).trans_le spent)
      exact ⟨key, held, evicted, not_le.mpr (still.len_without held)⟩
    by_cases spent : sourceNonceBudget pruned.sources ≤ bucketLen pruned.sources request.source
    · obtain ⟨key, held, evicted, room⟩ := evicts spent
      rw [if_pos spent, evicted, if_neg fun crowded => room crowded.1, if_neg room, if_neg room]
      exact .evicting new held spent
    · rw [if_neg spent]
      by_cases full : maxConsumedRequestNonces ≤ pruned.nonces.len
      · cases crowder : noisiestBucketAtBudget pruned.sources
          (sourceNonceBudget pruned.sources) with
        | none =>
          rw [if_pos ⟨full, rfl⟩]
          exact .crowded full (bucketLen_lt_of_noisiest (budget_pos _) crowder)
        | some bucket =>
          have spent := le_bucketLen_of_noisiest crowder
          obtain ⟨key, held, evicted, room⟩ := evicts spent
          rw [if_neg (by simp), if_pos full, elim_some, evicted, if_neg room]
          exact .evicting new held spent
      · rw [if_neg fun crowded => full crowded.1, if_neg full, if_neg full]
        exact .fresh new (not_le.mp full)

theorem keySet_record (keys : table.sources.keySet = table.nonces.keySet) :
    (table.record request).sources.keySet = (table.record request).nonces.keySet := by
  rw [record, keySet_insert, keySet_insert, keys]

theorem len_record_le (room : table.nonces.len < maxConsumedRequestNonces) :
    (table.record request).nonces.len ≤ maxConsumedRequestNonces := by
  rw [record, len_eq_card, keySet_insert]
  rw [len_eq_card] at room
  exact (Finset.card_insert_le _ _).trans room

/-- **Step.**  A request leaves a regular table. -/
theorem Regular.consume (regular : table.Regular) : (table.consume request).2.Regular := by
  have still := regular.unexpired request.now
  cases ended : table.consume request with
  | mk result after =>
    have outcome := @Regular.outcome _ request regular
    rw [ended] at outcome
    cases outcome with
    | replayed => exact still
    | crowded => exact still
    | fresh _ room => exact ⟨keySet_record still.keys, len_record_le room⟩
    | evicting _ held =>
      refine ⟨keySet_record ?_, len_record_le (still.len_without held)⟩
      rw [without, keySet_erase, keySet_erase, still.keys]

/-- **Run.**  So does every sequence of requests. -/
theorem Regular.run (requests : List Admission) : (afterAll requests).Regular := by
  induction requests using List.reverseRecOn with
  | nil => exact ⟨rfl, Nat.zero_le _⟩
  | append_singleton earlier request ih =>
    rw [afterAll, foldl_append]
    exact ih.consume

end

end VolatileNonceTable

/-! ## Fairness -/

/-- What the sources of a table may rely on when the next request arrives. -/
structure EvictsFairly (table : VolatileNonceTable) (request : Admission) : Prop where
  size : table.nonces.len ≤ maxConsumedRequestNonces
  sameKeys : ∀ key, table.nonces.containsKey key = table.sources.containsKey key
  share : minFairNonceSharePerSource ≤ sourceNonceBudget (table.unexpired request.now).sources
  /-- An unexpired nonce is taken from a source that holds its fair share. -/
  spent : ∀ key, (table.unexpired request.now).nonces.containsKey key = true →
    (table.consume request).2.nonces.containsKey key = false →
      (table.unexpired request.now).InFullBucket key
  /-- A source below the minimum share keeps what it holds. -/
  quiet : ∀ source key, (table.unexpired request.now).sources.get? key = some source →
    bucketLen (table.unexpired request.now).sources source < minFairNonceSharePerSource →
      (table.consume request).2.sources.get? key = some source ∧
        (table.consume request).2.nonces.containsKey key = true
  /-- A refusal for want of room finds the table full and no source with its fair share. -/
  crowded : (table.consume request).1 = .error (.resourceLimit "pairing request nonces") →
    (table.unexpired request.now).nonces.len = maxConsumedRequestNonces ∧
      ∀ source, bucketLen (table.unexpired request.now).sources source <
        sourceNonceBudget (table.unexpired request.now).sources

section

variable {table : VolatileNonceTable} {request : Admission} {key source : String}
  {result : Result Unit × VolatileNonceTable}

/-- An entry is as it was, or it was evicted from a full bucket. -/
theorem VolatileNonceTable.Outcome.kept (outcome : Outcome table request result) {expiresAt : Nat}
    (bound : table.nonces.get? key = some expiresAt) :
    result.2.nonces.get? key = some expiresAt ∨
      result.2.nonces.get? key = none ∧ table.InFullBucket key := by
  have other (new : table.nonces.get? request.nonceKey = none) : key ≠ request.nonceKey := by
    rintro rfl
    cases new.symm.trans bound
  cases outcome with
  | replayed => exact .inl bound
  | crowded => exact .inl bound
  | fresh new =>
    rw [record, get?_insert_of_ne _ _ (other new)]
    exact .inl bound
  | @evicting victim bucket new owned spent =>
    rw [record, get?_insert_of_ne _ _ (other new), without, get?_erase]
    split_ifs with same
    · exact .inr ⟨rfl, same ▸ ⟨bucket, owned, spent⟩⟩
    · exact .inl bound

/-- What is let pass was not in the table and is in it now. -/
theorem VolatileNonceTable.Outcome.passed (outcome : Outcome table request result)
    (passed : result.1.isOk = true) : table.nonces.get? request.nonceKey = none ∧
      result.2.nonces.get? request.nonceKey = some request.expiresAt := by
  cases outcome with
  | replayed => cases passed
  | crowded => cases passed
  | fresh new => exact ⟨new, get?_insert_self _ _ _⟩
  | evicting new => exact ⟨new, get?_insert_self _ _ _⟩

theorem VolatileNonceTable.Outcome.quiet (outcome : Outcome table request result)
    (regular : table.Regular) (held : table.sources.get? key = some source)
    (below : bucketLen table.sources source < minFairNonceSharePerSource) :
    result.2.sources.get? key = some source ∧ result.2.nonces.containsKey key = true := by
  obtain ⟨expiresAt, bound⟩ := mem_keySet.mp (regular.mem_nonces held)
  have unspent : ¬table.InFullBucket key := by
    rintro ⟨bucket, owned, spent⟩
    cases owned.symm.trans held
    have share := minFairNonceShare_le_budget table.sources
    omega
  have contained : result.2.nonces.containsKey key = true :=
    containsKey_iff.mpr ⟨expiresAt, (outcome.kept bound).resolve_right fun evicted =>
      unspent evicted.2⟩
  refine ⟨?_, contained⟩
  have other (new : table.nonces.get? request.nonceKey = none) : key ≠ request.nonceKey := by
    rintro rfl
    cases new.symm.trans bound
  cases outcome with
  | replayed => exact held
  | crowded => exact held
  | fresh new => rwa [record, get?_insert_of_ne _ _ (other new)]
  | @evicting victim bucket new owned spent =>
    have kept : key ≠ victim := fun same => unspent (same ▸ ⟨bucket, owned, spent⟩)
    rwa [record, get?_insert_of_ne _ _ (other new), without, get?_erase_of_ne kept]

end

/-- **Evictions are fair.**  After any sequence of requests, from any number of sources and at
any readings of the clock, the table treats its next request fairly. -/
theorem evictions_are_fair (requests : List Admission) (request : Admission) :
    EvictsFairly (afterAll requests) request := by
  have regular := Regular.run requests
  have still := regular.unexpired request.now
  have outcome := @Regular.outcome _ request regular
  refine ⟨regular.size, fun key => ?_, minFairNonceShare_le_budget _, fun key held gone => ?_,
    fun _ _ => outcome.quiet still, fun refused => ?_⟩
  · rw [Bool.eq_iff_iff, containsKey_iff, containsKey_iff, ← mem_keySet, ← mem_keySet, regular.keys]
  · obtain ⟨expiresAt, bound⟩ := containsKey_iff.mp held
    rw [containsKey_eq_false_iff] at gone
    rcases outcome.kept bound with kept | evicted
    · cases gone.symm.trans kept
    · exact evicted.2
  · generalize afterAll requests = table at *
    cases ended : table.consume request with
    | mk answer after =>
      rw [ended] at outcome refused
      cases outcome with
      | crowded full below => exact ⟨le_antisymm still.size full, below⟩
      | replayed => cases refused
      | fresh => cases refused
      | evicting => cases refused

end Covalent.Pairing
