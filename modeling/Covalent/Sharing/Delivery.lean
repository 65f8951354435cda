import Covalent.Base.Trace
import Covalent.Sharing.LinkOperations
import Mathlib.Algebra.Order.Floor.Div

/-!
# Rotating through the peers that records are delivered to

Durable records are delivered in batches of one record for a peer.  A cursor remembers the last
peer that was served, and the next batch goes on behind it in the order of the device
identities, so that a peer that does not answer cannot keep the others from being served.
-/

/-! ## Rotations -/

section

open List

variable {α : Type*} {items : List α}

/-- Positions counted from a start and around the end are those of the rotated list. -/
theorem filterMap_range_rotate (start : Nat) {count : Nat} (within : count ≤ items.length) :
    ((range count).filterMap fun offset => items[(start + offset) % items.length]?) =
      (items.rotate start).take count := by
  induction count with
  | zero => simp
  | succ count ih =>
    rw [range_succ, filterMap_append, ih (by omega), take_add_one,
      getElem?_rotate (by omega), filterMap_cons, Nat.add_comm start count]
    cases items[(count + start) % items.length]? <;> rfl

/-- In an increasing list, the items up to a position are those at most the one there. -/
theorem length_takeWhile_le [LinearOrder α] (sorted : items.Pairwise (· < ·)) {position : Nat}
    {last : α} (found : items[position]? = some last) :
    (items.takeWhile fun item => decide (item ≤ last)).length = position + 1 := by
  induction items generalizing position with
  | nil => simp at found
  | cons head rest ih =>
    obtain ⟨below, sorted⟩ := pairwise_cons.mp sorted
    cases position with
    | zero =>
      obtain rfl : head = last := by simpa using found
      rw [takeWhile_cons_of_pos (by simp)]
      cases rest with
      | nil => rfl
      | cons next _ =>
        rw [takeWhile_cons_of_neg (by simpa using below next (by simp))]
        rfl
    | succ position =>
      rw [getElem?_cons_succ] at found
      have less : head < last := below last (mem_of_getElem? found)
      rw [takeWhile_cons_of_pos (by simpa using less.le), length_cons, ih sorted found]

end

namespace Covalent.Sharing

open BTreeMap List

variable {Key : Type} [LinearOrder Key]

/-! ## One batch -/

def maxPeersPerBatch : Nat := 4

/-- A record that is to be delivered, with the hash of its transport and content. -/
structure Pending (Key : Type) where
  key : Key
  delivery : FolderShareDelivery

def Pending.peer (pending : Pending Key) : DeviceId :=
  pending.delivery.peerTransport.peerId

structure DeliveryCursor (Key : Type) [LinearOrder Key] where
  acknowledged : Finset Key := ∅
  lastPeer : Option DeviceId := none
  rosterRetryAfter : BTreeMap Key Nat := ∅

/-- What a batch is made from, and what was acknowledged since the last one. -/
structure Round (Key : Type) where
  completed : Finset Key
  deliveries : List FolderShareDelivery
  rostersComplete : Bool
  now : Nat
  busyPeers : Finset DeviceId

def FolderShareRecord.isExpiredOffer (record : FolderShareRecord) (now : Nat) : Bool :=
  match record with
  | .offer issued => decide (issued.expiresAt ≤ now)
  | _ => false

def FolderShareRecord.isRoster : FolderShareRecord → Bool
  | .endpointRoster _ => true
  | _ => false

namespace DeliveryCursor

/-- What is selected, the cursor, and what is left for each peer. -/
abbrev Progress (Key : Type) [LinearOrder Key] :=
  List (Pending Key) × DeliveryCursor Key × BTreeMap DeviceId (Pending Key)

variable (key : FolderShareDelivery → Option Key) (cursor : DeliveryCursor Key) (round : Round Key)

/-- A delivery with its key: none for an expired offer, or one that cannot be encoded. -/
def pendingOf (delivery : FolderShareDelivery) : Option (Pending Key) :=
  if delivery.record.isExpiredOffer round.now then none
  else (key delivery).map fun hash => ⟨hash, delivery⟩

def isReady (pending : Pending Key) : Bool :=
  decide (pending.peer ∉ round.busyPeers) && decide (pending.key ∉ cursor.acknowledged) &&
    (cursor.rosterRetryAfter.get? pending.key).all fun retry => decide (retry ≤ round.now)

/-- The keys of all deliveries, and the first that is ready for each peer. -/
def collect (found : Finset Key × BTreeMap DeviceId (Pending Key))
    (delivery : FolderShareDelivery) : Finset Key × BTreeMap DeviceId (Pending Key) :=
  match pendingOf key round delivery with
  | none => found
  | some pending =>
    (insert pending.key found.1,
      if cursor.isReady round pending && !found.2.containsKey pending.peer then
        found.2.insert pending.peer pending
      else found.2)

/-- Serve one peer. -/
def select (progress : Progress Key) (peer : DeviceId) : Progress Key :=
  let (selected, cursor, perPeer) := progress
  let cursor := { cursor with lastPeer := some peer }
  match perPeer.get? peer with
  | none => (selected, cursor, perPeer)
  | some pending =>
    (selected ++ [pending], if pending.delivery.record.isRoster then
        { cursor with rosterRetryAfter :=
            cursor.rosterRetryAfter.insert pending.key (saturatingAdd round.now 300000) }
      else cursor,
      perPeer.erase peer)

/-- Where the rotation goes on. -/
def startOf (peers : List DeviceId) : Nat :=
  match cursor.lastPeer with
  | none => 0
  | some last => (peers.takeWhile fun peer => decide (peer ≤ last)).length % peers.length

def batch (limit : Nat) : List (Pending Key) × DeliveryCursor Key :=
  let (retained, perPeer) := round.deliveries.foldl (cursor.collect key round) (∅, ∅)
  let cursor := { cursor with
    acknowledged := cursor.acknowledged.filter fun hash => hash ∈ retained ∨
      round.rostersComplete = false ∧ cursor.rosterRetryAfter.containsKey hash = true
    rosterRetryAfter :=
      if round.rostersComplete then
        cursor.rosterRetryAfter.retain fun hash _ => decide (hash ∈ retained)
      else cursor.rosterRetryAfter }
  let peers := perPeer.keys
  if peers.isEmpty then ([], cursor)
  else
    let start := cursor.startOf peers
    let (selected, cursor, _) := (range (min (min maxPeersPerBatch limit) peers.length)).foldl
      (fun progress offset =>
        match peers[(start + offset) % peers.length]? with
        | none => progress
        | some peer => select round progress peer)
      ([], cursor, perPeer)
    (selected, cursor)

/-! ## What one batch selects -/

/-- A delivery that may be selected. -/
def ready (delivery : FolderShareDelivery) : Option (Pending Key) :=
  (pendingOf key round delivery).filter (cursor.isReady round)

def eligible : List (Pending Key) :=
  round.deliveries.filterMap (cursor.ready key round)

def eligiblePeers : Finset DeviceId :=
  ((cursor.eligible key round).map Pending.peer).toFinset

/-- The first eligible delivery to a peer. -/
def first (peer : DeviceId) : Option (Pending Key) :=
  (cursor.eligible key round).find? fun pending => pending.peer = peer

/-- The peers whose turn it is. -/
def turn (limit : Nat) (peers : Finset DeviceId) : List DeviceId :=
  (peers.sort.rotate (cursor.startOf peers.sort)).take (min maxPeersPerBatch limit)

variable {key cursor round} {peer : DeviceId}

theorem get?_collect (deliveries : List FolderShareDelivery)
    (found : Finset Key × BTreeMap DeviceId (Pending Key)) (peer : DeviceId) :
    (deliveries.foldl (cursor.collect key round) found).2.get? peer = (found.2.get? peer).or
      ((deliveries.filterMap (cursor.ready key round)).find? fun pending =>
        pending.peer = peer) := by
  induction deliveries generalizing found with
  | nil => simp
  | cons delivery rest ih =>
    rw [foldl_cons, ih, filterMap_cons, collect, ready]
    cases pendingOf key round delivery with
    | none => rfl
    | some pending =>
      cases passes : cursor.isReady round pending with
      | false => simp [Option.filter, passes]
      | true =>
        by_cases same : pending.peer = peer
        · subst same
          cases known : found.2.get? pending.peer <;>
            simp [Option.filter, passes, BTreeMap.containsKey, known]
        · cases known : found.2.get? pending.peer <;>
            simp [Option.filter, passes, BTreeMap.containsKey, known, same,
              get?_insert_of_ne _ _ (.symm same)]

theorem get?_collected :
    (round.deliveries.foldl (cursor.collect key round) (∅, ∅)).2.get? = cursor.first key round := by
  funext peer
  rw [get?_collect, get?_empty, Option.none_or]
  rfl

theorem first_isSome : (∃ pending, cursor.first key round peer = some pending) ↔
      peer ∈ cursor.eligiblePeers key round := by
  rw [first, ← Option.isSome_iff_exists, find?_isSome]
  simp [eligiblePeers]

theorem keys_collected : (round.deliveries.foldl (cursor.collect key round) (∅, ∅)).2.keys =
    (cursor.eligiblePeers key round).sort := by
  refine (pairwise_map.mpr (BTreeMap.sorted _)).sortedLT.eq_of_mem_iff
    (Finset.sortedLT_sort _) fun peer => ?_
  rw [Finset.mem_sort, ← first_isSome, ← get?_collected]
  exact mem_keys

/-- Serving distinct peers selects what was collected for each, and ends at the last. -/
theorem foldl_select {peers : List DeviceId} (distinct : peers.Nodup) (progress : Progress Key) :
    (peers.foldl (select round) progress).1 = progress.1 ++ peers.filterMap progress.2.2.get? ∧
      (peers.foldl (select round) progress).2.1.lastPeer =
        peers.getLast?.or progress.2.1.lastPeer := by
  induction peers generalizing progress with
  | nil => simp
  | cons peer rest ih =>
    obtain ⟨selected, cursor, perPeer⟩ := progress
    obtain ⟨fresh, distinct⟩ := nodup_cons.mp distinct
    have last : ∀ earlier, (peer :: rest).getLast?.or earlier = rest.getLast?.or (some peer) := by
      intro earlier
      cases rest <;> simp [getLast?_cons]
    obtain ⟨chosen, ended⟩ := ih distinct (select round (selected, cursor, perPeer) peer)
    rw [foldl_cons, chosen, ended, last, filterMap_cons, select]
    cases waiting : perPeer.get? peer with
    | none => exact ⟨rfl, rfl⟩
    | some pending =>
      refine ⟨?_, by dsimp only; split_ifs <;> rfl⟩
      rw [append_assoc, singleton_append]
      refine congrArg (fun others => selected ++ pending :: others) ?_
      refine filterMap_congr fun other member => get?_erase_of_ne ?_
      rintro rfl
      exact fresh member

theorem foldl_positions {peers : List DeviceId} {start count : Nat} {progress : Progress Key} :
    (range (min count peers.length)).foldl (fun progress offset =>
        match peers[(start + offset) % peers.length]? with
        | none => progress
        | some peer => select round progress peer) progress =
      ((peers.rotate start).take count).foldl (select round) progress := by
  rw [take_eq_take_min, length_rotate,
    ← filterMap_range_rotate start (Nat.min_le_right _ _), foldl_filterMap]
  congr 1
  funext progress offset
  cases peers[(start + offset) % peers.length]? <;> rfl

theorem turn_nodup (limit : Nat) (peers : Finset DeviceId) : (cursor.turn limit peers).Nodup :=
  (nodup_rotate.mpr (Finset.sort_nodup _ _)).sublist (take_sublist _ _)

/-- A batch serves the peers whose turn it is. -/
theorem batch_spec (limit : Nat) : (cursor.batch key round limit).1 =
        (cursor.turn limit (cursor.eligiblePeers key round)).filterMap (cursor.first key round) ∧
      (cursor.batch key round limit).2.lastPeer =
        (cursor.turn limit (cursor.eligiblePeers key round)).getLast?.or cursor.lastPeer := by
  simp only [batch, keys_collected, foldl_positions]
  by_cases empty : (cursor.eligiblePeers key round).sort.isEmpty
  · rw [if_pos empty, turn, isEmpty_iff.mp empty]
    simp
  · rw [if_neg empty, ← get?_collected]
    exact foldl_select (turn_nodup limit _) _

variable {limit : Nat} {peers : Finset DeviceId}

theorem map_peer_batch : (cursor.batch key round limit).1.map Pending.peer =
    cursor.turn limit (cursor.eligiblePeers key round) := by
  rw [(batch_spec limit).1, map_filterMap]
  refine .trans (filterMap_congr fun peer member => ?_) filterMap_some
  obtain ⟨pending, found⟩ := first_isSome.mpr
    ((Finset.mem_sort _).mp (mem_rotate.mp (mem_of_mem_take member)))
  rw [found]
  simpa using find?_some found

theorem of_mem_batch {pending : Pending Key} (member : pending ∈ (cursor.batch key round limit).1) :
    pending.peer ∉ round.busyPeers ∧ cursor.first key round pending.peer = some pending := by
  rw [(batch_spec limit).1, mem_filterMap] at member
  obtain ⟨peer, -, found⟩ := member
  obtain rfl : pending.peer = peer := by simpa using find?_some found
  obtain ⟨delivery, -, passes⟩ := mem_filterMap.mp (mem_of_find?_eq_some found)
  replace passes := (Option.filter_eq_some_iff.mp passes).2
  simp only [isReady, Bool.and_eq_true, decide_eq_true_eq] at passes
  exact ⟨passes.1.1, found⟩

/-! ## Batches one after the other -/

/-- The next batch goes on where the last one ended. -/
theorem rotate_startOf_next {next : DeliveryCursor Key}
    (positive : 0 < limit) (several : min maxPeersPerBatch limit ≤ peers.sort.length)
    (last : next.lastPeer = (cursor.turn limit peers).getLast?.or cursor.lastPeer) :
    peers.sort.rotate (next.startOf peers.sort) =
      (peers.sort.rotate (cursor.startOf peers.sort)).rotate (min maxPeersPerBatch limit) := by
  obtain ⟨before, count⟩ : ∃ before, min maxPeersPerBatch limit = before + 1 :=
    Nat.exists_eq_succ_of_ne_zero (by simp [maxPeersPerBatch]; omega)
  rw [count] at several ⊢
  have found := getElem?_eq_getElem (l := peers.sort)
    (Nat.mod_lt (before + cursor.startOf peers.sort) (Nat.zero_lt_of_lt several))
  rw [turn, count, getLast?_take, if_neg (by omega), Nat.add_sub_cancel,
    getElem?_rotate (by omega), found, Option.some_or, Option.some_or] at last
  rw [startOf, last]
  dsimp only
  rw [length_takeWhile_le (Finset.sortedLT_sort peers).pairwise found, rotate_mod,
    rotate_rotate, ← rotate_mod, Nat.mod_add_mod, rotate_mod, Nat.add_right_comm,
    Nat.add_comm (before + 1)]

variable (key limit) in
/-- A batch after the acknowledgements of the round. -/
def serve (cursor : DeliveryCursor Key) (round : Round Key) :
    List (Pending Key) × DeliveryCursor Key :=
  { cursor with acknowledged := cursor.acknowledged ∪ round.completed }.batch key round limit

variable (key) in
/-- The eligible peers after the acknowledgements of the round. -/
def waiting (cursor : DeliveryCursor Key) (round : Round Key) : Finset DeviceId :=
  { cursor with acknowledged := cursor.acknowledged ∪ round.completed }.eligiblePeers key round

variable (key limit) in
def batches : DeliveryCursor Key → List (Round Key) → List (List (Pending Key))
  | _, [] => []
  | cursor, round :: rest =>
    (serve key limit cursor round).1 :: batches (serve key limit cursor round).2 rest

theorem selected_of_turns {rounds : List (Round Key)}
    (positive : 0 < limit)
    (fixed : Trace.Along (fun cursor round => (serve key limit cursor round).2)
      (fun cursor round => waiting key cursor round = peers) cursor rounds)
    (member : peer ∈ (peers.sort.rotate (cursor.startOf peers.sort)).take
      (rounds.length * min maxPeersPerBatch limit)) :
    ∃ batch ∈ batches key limit cursor rounds, ∃ pending ∈ batch, pending.peer = peer := by
  induction rounds generalizing cursor with
  | nil => simp at member
  | cons round rest ih =>
    obtain ⟨now, later⟩ := fixed
    rw [length_cons, Nat.succ_mul, Nat.add_comm, take_add, mem_append] at member
    rcases member with here | further
    · have chosen : peer ∈ (serve key limit cursor round).1.map Pending.peer := by
        rw [serve, map_peer_batch, show eligiblePeers _ _ _ = peers from now]
        exact here
      obtain ⟨pending, listed, same⟩ := mem_map.mp chosen
      exact ⟨_, mem_cons_self, pending, listed, same⟩
    · have last : (serve key limit cursor round).2.lastPeer =
          (cursor.turn limit peers).getLast?.or cursor.lastPeer := by
        rw [serve, (batch_spec limit).2, show eligiblePeers _ _ _ = peers from now]
        rfl
      have several : min maxPeersPerBatch limit ≤ peers.sort.length := by
        by_contra few
        rw [drop_of_length_le (by rw [length_rotate]; omega)] at further
        simp at further
      have ahead : peer ∈ (peers.sort.rotate ((serve key limit cursor round).2.startOf
          peers.sort)).take (rest.length * min maxPeersPerBatch limit) := by
        rw [rotate_startOf_next positive several last, rotate_eq_drop_append_take
          (by rw [length_rotate]; exact several), take_append]
        exact mem_append_left _ further
      obtain ⟨batch, listed, chosen⟩ := ih later ahead
      exact ⟨batch, mem_cons_of_mem _ listed, chosen⟩

/-- **Fair rotation.**  A batch holds at most `limit` records, at most one for a peer, none for a
busy one, and for each peer the first in the list that is eligible; and batches one after the
other that find the same eligible peers select all of them, when they are as many as the peers
divided by the size of a batch, rounded up.  A batch never serves more than four peers. -/
theorem delivery_rotation_is_fair (key : FolderShareDelivery → Option Key) (positive : 0 < limit)
    (cursor : DeliveryCursor Key) :
    (∀ round, (cursor.batch key round limit).1.length ≤ limit ∧
        ((cursor.batch key round limit).1.map Pending.peer).Nodup ∧
        ∀ pending ∈ (cursor.batch key round limit).1, pending.peer ∉ round.busyPeers ∧
          cursor.first key round pending.peer = some pending) ∧
      ∀ peers rounds, Trace.Along (fun cursor round => (serve key limit cursor round).2)
          (fun cursor round => waiting key cursor round = peers) cursor rounds →
        peers.card ⌈/⌉ min maxPeersPerBatch limit ≤ rounds.length →
        ∀ peer ∈ peers, ∃ batch ∈ batches key limit cursor rounds,
          ∃ pending ∈ batch, pending.peer = peer := by
  refine ⟨fun round => ⟨?_, ?_, fun pending => of_mem_batch⟩, ?_⟩
  · rw [← length_map Pending.peer, map_peer_batch, turn, length_take]
    omega
  · rw [map_peer_batch]
    exact turn_nodup limit _
  · intro peers rounds fixed enough peer member
    refine selected_of_turns positive fixed ?_
    rw [ceilDiv_le_iff_le_mul (by simp [maxPeersPerBatch]; omega), Nat.mul_comm] at enough
    rw [take_of_length_le (by rw [length_rotate, Finset.length_sort]; exact enough)]
    exact mem_rotate.mpr ((Finset.mem_sort _).mpr member)

/-! ## Five peers -/

namespace Sample

/-- A notice to each of five peers. -/
def notices : Round DeviceId where
  completed := ∅
  deliveries := [1, 2, 3, 4, 5].map fun number =>
    ⟨⟨⟨⟨number⟩⟩, "", "", "", ""⟩, .removal ⟨⟨⟨9⟩⟩, ⟨⟨number⟩⟩, ⟨⟨9⟩⟩, ⟨7⟩, []⟩⟩
  rostersComplete := true
  now := 1
  busyPeers := ∅

def addressee (delivery : FolderShareDelivery) : Option DeviceId :=
  some delivery.peerTransport.peerId

def five : Finset DeviceId :=
  {⟨⟨1⟩⟩, ⟨⟨2⟩⟩, ⟨⟨3⟩⟩, ⟨⟨4⟩⟩, ⟨⟨5⟩⟩}

end Sample

/-- With two records to a batch, three batches serve the fifth of five peers. -/
theorem fifth_peer_is_served :
    ∃ batch ∈ batches Sample.addressee 2 {} [Sample.notices, Sample.notices, Sample.notices],
      ∃ pending ∈ batch, pending.peer = ⟨⟨5⟩⟩ :=
  (delivery_rotation_is_fair Sample.addressee (by decide) {}).2 Sample.five
    [Sample.notices, Sample.notices, Sample.notices] (by decide +kernel) (by decide +kernel) _
    (by decide +kernel)

/-- With a limit of five, one batch leaves out the fifth of five peers. -/
theorem batch_stops_at_four :
    waiting Sample.addressee {} Sample.notices = Sample.five ∧ Sample.five.card ⌈/⌉ 5 = 1 ∧
      ∀ batch ∈ batches Sample.addressee 5 {} [Sample.notices],
        batch.map Pending.peer = [⟨⟨1⟩⟩, ⟨⟨2⟩⟩, ⟨⟨3⟩⟩, ⟨⟨4⟩⟩] := by
  decide +kernel

end DeliveryCursor

end Covalent.Sharing
