import Mathlib.Data.List.Basic
import Mathlib.Tactic

/-!
# Updating one element of a list

Programs look an element up by a test and change it in place.  `modifyFirst` does
both; `modifyFirst_split` cuts the list at the element that is found, which is all
a proof about the change needs.
-/

variable {α β : Type*}

/-- Change the first element that passes a test. -/
def modifyFirst (test : α → Bool) (change : α → α) : List α → List α
  | [] => []
  | item :: rest => if test item then change item :: rest else item :: modifyFirst test change rest

variable {test : α → Bool} {items : List α} {found : α} {change : α → α}

/-- The list around the element that is changed. -/
theorem modifyFirst_split (first : items.find? test = some found) :
    ∃ before after, items = before ++ found :: after ∧ test found = true ∧
      (∀ item ∈ before, test item = false) ∧
      ∀ change, modifyFirst test change items = before ++ change found :: after := by
  induction items with
  | nil => simp at first
  | cons item rest ih =>
    cases passes : test item with
    | true =>
      have same : item = found := by simpa [List.find?_cons, passes] using first
      subst same
      exact ⟨[], rest, rfl, passes, by simp, fun change => by simp [modifyFirst, passes]⟩
    | false =>
      have later : rest.find? test = some found := by
        simpa [List.find?_cons, passes] using first
      obtain ⟨before, after, split, found, skipped, changed⟩ := ih later
      refine ⟨item :: before, after, by simp [split], found, ?_, fun change => ?_⟩
      · intro other member
        rcases List.mem_cons.mp member with rfl | member
        · exact passes
        · exact skipped other member
      · simp [modifyFirst, passes, changed change]

/-- Nothing changes when no element passes the test. -/
theorem modifyFirst_eq_self
    (none : items.find? test = none) : modifyFirst test change items = items := by
  induction items with
  | nil => rfl
  | cons item rest ih =>
    rw [List.find?_eq_none] at none
    have passes : test item = false := by simpa using none item (by simp)
    rw [modifyFirst, passes, if_neg (by simp), ih]
    rw [List.find?_eq_none]
    exact fun other member => none other (List.mem_cons_of_mem _ member)

/-- The changed list relates to the old one element by element. -/
theorem forall₂_modifyFirst {relation : α → α → Prop} (same : ∀ item, relation item item)
    (changed : ∀ found, items.find? test = some found → relation found (change found)) :
    List.Forall₂ relation items (modifyFirst test change items) := by
  cases first : items.find? test with
  | none =>
    rw [modifyFirst_eq_self first]
    exact List.forall₂_same.mpr fun item _ => same item
  | some found =>
    obtain ⟨before, after, split, _, _, result⟩ := modifyFirst_split first
    rw [result change]
    subst split
    refine List.rel_append (List.forall₂_same.mpr fun item _ => same item) ?_
    exact .cons (changed found first) (List.forall₂_same.mpr fun item _ => same item)

/-! ## Lists related element by element -/

section

variable {relation weaker : α → β → Prop} {lefts : List α} {rights : List β}

section

variable (related : List.Forall₂ relation lefts rights)

include related

theorem forall₂_imp_of_mem
    (each : ∀ left ∈ lefts, ∀ right, relation left right → weaker left right) :
    List.Forall₂ weaker lefts rights := by
  induction related with
  | nil => exact .nil
  | cons head _ ih =>
    refine .cons (each _ (by simp) _ head) (ih fun left member => ?_)
    exact each left (List.mem_cons_of_mem _ member)

theorem forall₂_image {left : α}
    (member : left ∈ lefts) : ∃ right ∈ rights, relation left right := by
  induction related with
  | nil => cases member
  | cons head _ ih =>
    rcases List.mem_cons.mp member with rfl | later
    · exact ⟨_, by simp, head⟩
    · obtain ⟨right, present, holds⟩ := ih later
      exact ⟨right, List.mem_cons_of_mem _ present, holds⟩

theorem forall₂_origin {right : β}
    (member : right ∈ rights) : ∃ left ∈ lefts, relation left right :=
  forall₂_image related.flip member

/-- A view that related elements share is the same of both lists. -/
theorem forall₂_map_eq {γ : Type*} {leftView : α → γ} {rightView : β → γ}
    (same : ∀ left right, relation left right → rightView right = leftView left) :
    rights.map rightView = lefts.map leftView := by
  induction related with
  | nil => rfl
  | cons head _ ih => simp [same _ _ head, ih]

end

end

/-- A test that no two elements of a list pass is passed at most once. -/
theorem countP_le_one
    (alone : items.Pairwise fun earlier later => test earlier = true → test later = false) :
    items.countP test ≤ 1 := by
  induction items with
  | nil => simp
  | cons item rest ih =>
    obtain ⟨others, ordered⟩ := List.pairwise_cons.mp alone
    rw [List.countP_cons]
    split
    next passes =>
      have none : rest.countP test = 0 := by
        rw [List.countP_eq_zero]
        intro other member
        rw [others other member passes]
        exact Bool.false_ne_true
      omega
    next =>
      have few := ih ordered
      omega

/-- In increasing order, the first element that passes a test is the least one. -/
theorem find?_eq_some_iff_of_sorted [LinearOrder α] (sorted : items.Pairwise (· < ·)) :
    items.find? test = some found ↔ test found = true ∧ found ∈ items ∧
      ∀ other ∈ items, test other = true → found ≤ other := by
  rw [List.find?_eq_some_iff_append]
  refine and_congr_right fun passes => ?_
  constructor
  · rintro ⟨before, after, rfl, skipped⟩
    refine ⟨by simp, fun other member good => ?_⟩
    rcases List.mem_append.mp member with front | back
    · have bad := skipped other front
      rw [good] at bad
      cases bad
    · rcases List.mem_cons.mp back with rfl | later
      · exact le_rfl
      · have tail := (List.pairwise_append.mp sorted).2.1
        exact ((List.pairwise_cons.mp tail).1 other later).le
  · rintro ⟨member, least⟩
    obtain ⟨before, after, rfl⟩ := List.append_of_mem member
    refine ⟨before, after, rfl, fun other front => ?_⟩
    have less := (List.pairwise_append.mp sorted).2.2 other front found List.mem_cons_self
    by_contra good
    have good : test other = true := by simpa using good
    exact absurd (least other (List.mem_append_left _ front) good) (not_le_of_gt less)

/-! ## Dropping from the front -/

section

variable {drop keep : α → Bool}

theorem countP_dropWhile (apart : ∀ item, drop item = true → keep item = false)
    (items : List α) : (items.dropWhile drop).countP keep = items.countP keep := by
  induction items with
  | nil => rfl
  | cons item rest ih =>
    cases dropped : drop item with
    | true => simp [dropped, ih, apart item dropped]
    | false => simp [dropped]

theorem dropWhile_dropWhile_of_imp (more : ∀ item, keep item = true → drop item = true)
    (items : List α) : (items.dropWhile keep).dropWhile drop = items.dropWhile drop := by
  induction items with
  | nil => rfl
  | cons item rest ih =>
    cases kept : keep item with
    | true => simp [kept, more item kept, ih]
    | false => simp [kept]

theorem dropWhile_concat {last : α} (stays : drop last = false) (items : List α) :
    (items ++ [last]).dropWhile drop = items.dropWhile drop ++ [last] := by
  induction items with
  | nil => simp [stays]
  | cons item rest ih =>
    cases dropped : drop item with
    | true => simp [dropped, ih]
    | false => simp [dropped]

/-- What a test refuses is not dropped. -/
theorem mem_dropWhile {α : Type} {test : α → Bool} {items : List α} {item : α}
    (member : item ∈ items) (fails : test item = false) : item ∈ items.dropWhile test := by
  induction items with
  | nil => cases member
  | cons head rest ih =>
    rw [List.dropWhile_cons]
    split
    next dropped =>
      rcases List.mem_cons.mp member with rfl | later
      · rw [fails] at dropped
        cases dropped
      · exact ih later
    · exact member

theorem le_of_mem_dropWhile {items : List Nat} (sorted : items.Pairwise (· ≤ ·)) {bound item : Nat}
    (member : item ∈ items.dropWhile (decide <| · < bound)) : bound ≤ item := by
  induction items with
  | nil => cases member
  | cons first rest ih =>
    obtain ⟨least, sortedRest⟩ := List.pairwise_cons.mp sorted
    by_cases early : first < bound
    · rw [List.dropWhile_cons_of_pos (by simpa using early)] at member
      exact ih sortedRest member
    · rw [List.dropWhile_cons_of_neg (by simpa using early)] at member
      rcases List.mem_cons.mp member with rfl | later
      · exact not_lt.mp early
      · exact (not_lt.mp early).trans (least item later)

end
