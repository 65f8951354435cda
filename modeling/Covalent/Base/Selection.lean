import Covalent.Base.BTreeMap

/-!
# Keeping the greatest item of each key

Items arrive one after the other, each from a source.  For every key the greatest item
so far is kept together with the sources that handed in that very item.  What is kept in
the end is determined by what arrived, not by the order in which it arrived.
-/

namespace Covalent.Selection

open BTreeMap List Option

variable {K S I N R : Type*} [LinearOrder K] [LinearOrder S] [DecidableEq N] [LinearOrder R]
  (key : I → K) (name : I → N) (rank : I → R)

/-- What is kept after one more item.  An item of the name of the kept one only adds a
source. -/
def keep (latest : BTreeMap K (I × BTreeMap S Unit)) (source : S) (item : I) :
    BTreeMap K (I × BTreeMap S Unit) :=
  match latest.get? (key item) with
  | none => latest.insert (key item) (item, (∅ : BTreeMap S Unit).insert source ())
  | some (current, sources) =>
    if name current = name item then
      latest.insert (key item) (current, sources.insert source ())
    else if rank item < rank current then latest
    else latest.insert (key item) (item, (∅ : BTreeMap S Unit).insert source ())

/-- Names tell the items of one key apart, and so do ranks. -/
structure Distinct (arrived : List (S × I)) : Prop where
  ofName : ∀ one ∈ arrived, ∀ two ∈ arrived, key one.2 = key two.2 → name one.2 = name two.2 →
    one.2 = two.2
  ofRank : ∀ one two : I, rank one = rank two → name one = name two

/-- A map keeps, for each key, the greatest of the items that arrived, and its sources. -/
structure Chosen (arrived : List (S × I)) (latest : BTreeMap K (I × BTreeMap S Unit)) : Prop where
  arrivedItem : ∀ {place item sources}, latest.get? place = some (item, sources) →
    key item = place ∧ ∃ source, (source, item) ∈ arrived
  greatest : ∀ {place item sources}, latest.get? place = some (item, sources) →
    ∀ other ∈ arrived, key other.2 = place → rank other.2 ≤ rank item
  sources : ∀ {place item sources}, latest.get? place = some (item, sources) →
    ∀ source, sources.containsKey source = true ↔ (source, item) ∈ arrived
  covered : ∀ other ∈ arrived, (latest.get? (key other.2)).isSome

variable {key name rank}

omit [LinearOrder K] [LinearOrder S] [DecidableEq N] [LinearOrder R] in
theorem Distinct.mono {arrived fewer : List (S × I)} (distinct : Distinct key name rank arrived)
    (subset : ∀ entry ∈ fewer, entry ∈ arrived) : Distinct key name rank fewer where
  ofName one first two second := distinct.ofName one (subset one first) two (subset two second)
  ofRank := distinct.ofRank

theorem Chosen.empty : Chosen key rank ([] : List (S × I)) ∅ where
  arrivedItem found := absurd found (by simp)
  greatest found := absurd found (by simp)
  sources found := absurd found (by simp)
  covered := nofun

variable {arrived : List (S × I)} {latest : BTreeMap K (I × BTreeMap S Unit)} {source : S}
  {item : I}

/-- Nothing is kept exactly when nothing arrived. -/
theorem Chosen.keys_eq_nil (chosen : Chosen key rank arrived latest) :
    latest.keys = [] ↔ ∀ entry, entry ∉ arrived := by
  constructor
  · intro none entry member
    obtain ⟨candidate, kept⟩ := isSome_iff_exists.mp (chosen.covered entry member)
    have listed : key entry.2 ∈ latest.keys := BTreeMap.mem_keys.mpr ⟨candidate, kept⟩
    rw [none] at listed
    cases listed
  · intro none
    refine eq_nil_iff_forall_not_mem.mpr fun place listed => ?_
    obtain ⟨candidate, kept⟩ := BTreeMap.mem_keys.mp listed
    obtain ⟨-, source, member⟩ := chosen.arrivedItem kept
    exact none _ member

variable {suppliers sources : BTreeMap S Unit}

/-- The new item is put in the place of its key, with the sources it has now. -/
theorem Chosen.put (chosen : Chosen key rank arrived latest)
    (greater : ∀ other ∈ arrived, key other.2 = key item → rank other.2 ≤ rank item)
    (handed : ∀ one, suppliers.containsKey one = true ↔ (one, item) ∈ arrived ++ [(source, item)]) :
    Chosen key rank (arrived ++ [(source, item)]) (latest.insert (key item) (item, suppliers)) where
  arrivedItem := by
    intro place found sources kept
    rcases of_get?_insert kept with ⟨here, same⟩ | ⟨-, kept⟩
    · obtain ⟨rfl, -⟩ := Prod.mk.inj same
      exact ⟨here.symm, source, by simp⟩
    · obtain ⟨placed, one, member⟩ := chosen.arrivedItem kept
      exact ⟨placed, one, mem_append_left _ member⟩
  greatest := by
    intro place found sources kept other member placed
    rcases of_get?_insert kept with ⟨here, same⟩ | ⟨apart, kept⟩ <;>
      rcases mem_append.mp member with before | now
    · obtain ⟨rfl, -⟩ := Prod.mk.inj same
      exact greater other before (placed.trans here)
    · obtain rfl := mem_singleton.mp now
      exact le_of_eq (congrArg (rank ·.1) same.symm)
    · exact chosen.greatest kept other before placed
    · obtain rfl := mem_singleton.mp now
      exact absurd placed.symm apart
  sources := by
    intro place found sources kept one
    rcases of_get?_insert kept with ⟨-, same⟩ | ⟨here, before⟩
    · cases same
      exact handed one
    · rw [chosen.sources before one]
      have elsewhere : found ≠ item := by
        rintro rfl
        exact here (chosen.arrivedItem before).1.symm
      simp [elsewhere]
  covered := by
    intro other member
    rw [isSome_get?_insert]
    rcases mem_append.mp member with before | now
    · exact .inr (chosen.covered other before)
    · exact .inl (congrArg (fun entry => key entry.2) (mem_singleton.mp now))

/-- One source more. -/
theorem containsKey_insert {one : S} : (suppliers.insert source ()).containsKey one = true ↔
      suppliers.containsKey one = true ∨ one = source :=
  BTreeMap.isSome_get?_insert.trans or_comm

/-- The only source of an item that is new. -/
theorem handed_fresh (fresh : ∀ other ∈ arrived, other.2 ≠ item) (one : S) :
    ((∅ : BTreeMap S Unit).insert source ()).containsKey one = true ↔
      (one, item) ∈ arrived ++ [(source, item)] := by
  have old : (one, item) ∉ arrived := fun member => fresh _ member rfl
  have none : (∅ : BTreeMap S Unit).containsKey one = false := rfl
  rw [containsKey_insert, none]
  simp [old]

/-- A smaller item is left out. -/
theorem Chosen.skip (chosen : Chosen key rank arrived latest) {current : I}
    (kept : latest.get? (key item) = some (current, sources)) (smaller : rank item < rank current) :
    Chosen key rank (arrived ++ [(source, item)]) latest where
  arrivedItem := by
    intro place found others present
    obtain ⟨placed, one, member⟩ := chosen.arrivedItem present
    exact ⟨placed, one, mem_append_left _ member⟩
  greatest := by
    intro place found others present other member placed
    rcases mem_append.mp member with before | now
    · exact chosen.greatest present other before placed
    · obtain rfl := mem_singleton.mp now
      obtain rfl : key item = place := placed
      obtain ⟨rfl, -⟩ := Prod.mk.inj (some.inj (kept.symm.trans present))
      exact smaller.le
  sources := by
    intro place found others present one
    rw [chosen.sources present one]
    have elsewhere : found ≠ item := by
      rintro rfl
      obtain rfl := (chosen.arrivedItem present).1
      obtain ⟨rfl, -⟩ := Prod.mk.inj (some.inj (kept.symm.trans present))
      exact lt_irrefl _ smaller
    simp [elsewhere]
  covered := by
    intro other member
    rcases mem_append.mp member with before | now
    · exact chosen.covered other before
    · obtain rfl := mem_singleton.mp now
      rw [kept]
      rfl

/-- What is kept stays in the place of its key, whatever else is known. -/
theorem keep_placed (placed : ∀ place found sources, latest.get? place = some (found, sources) →
      key found = place) {place : K} {found : I}
    (kept : (keep key name rank latest source item).get? place = some (found, sources)) :
    key found = place := by
  have inserted : ∀ now suppliers, key now = key item →
      (latest.insert (key item) (now, suppliers)).get? place = some (found, sources) →
        key found = place := by
    intro now suppliers here kept
    rcases of_get?_insert kept with ⟨rfl, same⟩ | ⟨-, kept⟩
    · rw [(Prod.mk.inj same).1, here]
    · exact placed _ _ _ kept
  unfold Selection.keep at kept
  split at kept
  case h_1 => exact inserted _ _ rfl kept
  case h_2 current suppliers present =>
      split_ifs at kept
      · exact inserted _ _ (placed _ _ _ present) kept
      · exact placed _ _ _ kept
      · exact inserted _ _ rfl kept

/-- One more item. -/
theorem Chosen.keep (distinct : Distinct key name rank (arrived ++ [(source, item)]))
    (chosen : Chosen key rank arrived latest) :
    Chosen key rank (arrived ++ [(source, item)]) (keep key name rank latest source item) := by
  have last : (source, item) ∈ arrived ++ [(source, item)] := by simp
  unfold Selection.keep
  cases kept : latest.get? (key item) with
  | none =>
    have unseen : ∀ other ∈ arrived, key other.2 ≠ key item := by
      intro other member placed
      have found := chosen.covered other member
      rw [placed, kept] at found
      exact absurd found (by simp)
    refine chosen.put ?_ (handed_fresh ?_)
    · exact fun other member placed => absurd placed (unseen other member)
    · rintro other member rfl
      exact unseen other member rfl
  | some candidate =>
    obtain ⟨current, suppliers⟩ := candidate
    obtain ⟨placed, one, member⟩ := chosen.arrivedItem kept
    have earlier : (one, current) ∈ arrived ++ [(source, item)] := mem_append_left _ member
    dsimp only
    split_ifs with same smaller
    · obtain rfl : current = item := distinct.ofName _ earlier _ last placed same
      refine chosen.put (fun other before => chosen.greatest kept other before) ?_
      intro supplier
      rw [containsKey_insert, chosen.sources kept]
      simp
    · exact chosen.skip kept smaller
    · refine chosen.put ?_ (handed_fresh ?_)
      · intro other before sharing
        exact (chosen.greatest kept other before sharing).trans (not_lt.mp smaller)
      · -- An earlier arrival of the item would be no greater than the current one, which
        -- then has its rank and its name.
        rintro other before rfl
        have below := chosen.greatest kept other before rfl
        exact same (distinct.ofRank _ _ (le_antisymm (not_lt.mp smaller) below))

omit [DecidableEq N] in
/-- The order of arrival does not matter. -/
theorem Chosen.eq {others : List (S × I)} {other : BTreeMap K (I × BTreeMap S Unit)}
    (distinct : Distinct key name rank arrived) (chosen : Chosen key rank arrived latest)
    (chosenOther : Chosen key rank others other)
    (same : ∀ entry, entry ∈ arrived ↔ entry ∈ others) :
    latest = other := by
  -- A kept item of one map is kept by the other map, with the same sources.
  have agree : ∀ {place item sources}, latest.get? place = some (item, sources) →
      other.get? place = some (item, sources) := by
    intro place item sources kept
    obtain ⟨rfl, source, member⟩ := chosen.arrivedItem kept
    obtain ⟨⟨found, suppliers⟩, keptOther⟩ :=
      isSome_iff_exists.mp (chosenOther.covered _ ((same _).mp member))
    obtain ⟨placed, one, memberOther⟩ := chosenOther.arrivedItem keptOther
    have up := chosen.greatest kept _ ((same _).mpr memberOther) placed
    have down := chosenOther.greatest keptOther _ ((same _).mp member) rfl
    obtain rfl : found = item := distinct.ofName _ ((same _).mpr memberOther) _ member placed
      (distinct.ofRank _ _ (le_antisymm up down))
    have suppliersEq : suppliers = sources := by
      apply ext_get?
      intro supplier
      have both : suppliers.containsKey supplier = true ↔ sources.containsKey supplier = true := by
        rw [chosenOther.sources keptOther, chosen.sources kept, same]
      cases here : suppliers.get? supplier with
      | none =>
        cases there : sources.get? supplier with
        | none => rfl
        | some value => simp [here, there] at both
      | some value =>
        cases there : sources.get? supplier with
        | none => simp [here, there] at both
        | some value => rfl
    rw [keptOther, suppliersEq]
  apply ext_get?
  intro place
  cases kept : latest.get? place with
  | some candidate => exact (agree kept).symm
  | none =>
    cases keptOther : other.get? place with
    | none => rfl
    | some candidate =>
      obtain ⟨rfl, source, member⟩ := chosenOther.arrivedItem keptOther
      have covered := chosen.covered _ ((same _).mpr member)
      rw [kept] at covered
      cases covered

end Covalent.Selection
