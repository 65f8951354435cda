import Mathlib.Data.List.Basic
import Mathlib.Order.Lattice
import Mathlib.Tactic

/-!
# Sequences with separators

A sequence whose items are cut by separators is a path: a sequence lies below every
beginning of it that ends right before a separator.
-/

namespace Covalent.Separated

open List

variable {α : Type*} {separator : α}

/-- A sequence lies below another one when it goes on with a separator after it. -/
def Below (separator : α) (lower upper : List α) : Prop :=
  ∃ rest, lower = upper ++ separator :: rest

variable {lower upper : List α}

theorem below_iff_prefix : Below separator lower upper ↔ upper ++ [separator] <+: lower := by
  constructor
  · rintro ⟨rest, rfl⟩
    exact ⟨rest, by simp⟩
  · rintro ⟨rest, rfl⟩
    exact ⟨rest, by simp⟩

instance [DecidableEq α] (lower upper : List α) : Decidable (Below separator lower upper) :=
  decidable_of_iff _ below_iff_prefix.symm

/-- The beginnings of a sequence before each of its separators, after some items. -/
def ancestorsFrom [DecidableEq α] (separator : α) (passed : List α) : List α → List (List α)
  | [] => []
  | item :: rest =>
    if item = separator then passed :: ancestorsFrom separator (passed ++ [item]) rest
    else ancestorsFrom separator (passed ++ [item]) rest

/-- The beginnings of a sequence before each of its separators. -/
def ancestors [DecidableEq α] (separator : α) (sequence : List α) : List (List α) :=
  ancestorsFrom separator [] sequence

theorem mem_ancestorsFrom [DecidableEq α] {passed rest upper : List α} :
    upper ∈ ancestorsFrom separator passed rest ↔
      ∃ front back, rest = front ++ separator :: back ∧ upper = passed ++ front := by
  induction rest generalizing passed with
  | nil =>
    constructor
    · exact nofun
    · rintro ⟨front, back, split, -⟩
      cases front <;> cases split
  | cons item rest ih =>
    -- Either the beginning ends here, or it takes the first item.
    have first : (∃ front back, item :: rest = front ++ separator :: back ∧
        upper = passed ++ front) ↔
        (item = separator ∧ upper = passed) ∨
          upper ∈ ancestorsFrom separator (passed ++ [item]) rest := by
      rw [ih]
      constructor
      · rintro ⟨front, back, split, rfl⟩
        cases front with
        | nil =>
          cases split
          exact .inl ⟨rfl, append_nil _⟩
        | cons head others =>
          cases split
          exact .inr ⟨others, back, rfl, by simp⟩
      · rintro (⟨rfl, rfl⟩ | ⟨front, back, rfl, rfl⟩)
        · exact ⟨[], rest, rfl, (append_nil _).symm⟩
        · exact ⟨item :: front, back, rfl, by simp⟩
    rw [first, ancestorsFrom]
    split_ifs with here
    · rw [mem_cons]
      exact or_congr_left (and_iff_right here).symm
    · exact (or_iff_right fun both => here both.1).symm

theorem mem_ancestors [DecidableEq α] :
    upper ∈ ancestors separator lower ↔ Below separator lower upper := by
  rw [ancestors, mem_ancestorsFrom]
  constructor
  · rintro ⟨front, back, rfl, rfl⟩
    exact ⟨back, rfl⟩
  · rintro ⟨back, rfl⟩
    exact ⟨upper, back, rfl, rfl⟩

/-- Every ancestor lies below those before it. -/
theorem pairwise_ancestorsFrom [DecidableEq α] (passed rest : List α) :
    (ancestorsFrom separator passed rest).Pairwise fun one two => Below separator two one := by
  induction rest generalizing passed with
  | nil => exact .nil
  | cons item rest ih =>
    rw [ancestorsFrom]
    split_ifs with here
    · refine pairwise_cons.mpr ⟨fun later member => ?_, ih _⟩
      obtain ⟨front, back, -, rfl⟩ := mem_ancestorsFrom.mp member
      exact ⟨front, by rw [here, append_assoc]; rfl⟩
    · exact ih _

theorem pairwise_ancestors [DecidableEq α] (sequence : List α) :
    (ancestors separator sequence).Pairwise fun one two => Below separator two one :=
  pairwise_ancestorsFrom [] sequence

/-! ## Components -/

/-- Components that are joined, in two groups. -/
theorem intercalate_append {one two : List (List α)} (left : one ≠ []) (right : two ≠ []) :
    [separator].intercalate (one ++ two) =
      [separator].intercalate one ++ separator :: [separator].intercalate two := by
  induction one with
  | nil => exact absurd rfl left
  | cons first rest ih =>
    by_cases last : rest = []
    · rw [last, singleton_append, intercalate_cons_of_ne_nil right,
        intercalate_singleton, append_assoc]
      rfl
    · rw [cons_append, intercalate_cons_of_ne_nil (append_ne_nil_of_left_ne_nil last _),
        intercalate_cons_of_ne_nil last, ih last, append_assoc,
        append_assoc, append_assoc]

/-- The first components of a sequence, joined, are what it lies below. -/
theorem mem_joined_iff [DecidableEq α] :
    (∃ count, 1 ≤ count ∧ count < (lower.splitOn separator).length ∧
      upper = [separator].intercalate ((lower.splitOn separator).take count)) ↔
      Below separator lower upper := by
  constructor
  · rintro ⟨count, positive, fewer, rfl⟩
    refine ⟨[separator].intercalate ((lower.splitOn separator).drop count), ?_⟩
    rw [← intercalate_append, take_append_drop, intercalate_splitOn]
    · rw [ne_eq, take_eq_nil_iff, not_or]
      refine ⟨by omega, fun empty => ?_⟩
      rw [empty] at fewer
      exact absurd fewer (Nat.not_lt_zero _)
    · rw [ne_eq, drop_eq_nil_iff]
      omega
  · rintro ⟨rest, rfl⟩
    have split : (upper ++ separator :: rest).splitOn separator =
        upper.splitOn separator ++ rest.splitOn separator :=
      splitOnP_append_cons upper rest (beq_self_eq_true separator)
    refine ⟨(upper.splitOn separator).length, ?_, ?_, ?_⟩
    · exact length_pos_iff.mpr (splitOnP_ne_nil _ _)
    · rw [split, length_append]
      have some := length_pos_iff.mpr (splitOnP_ne_nil (· == separator) rest)
      exact Nat.lt_add_of_pos_right some
    · rw [split, take_left, intercalate_splitOn]

/-! ## Being below -/

/-- An end without separators does not change what is above a sequence. -/
theorem below_append_iff {lower upper tail : List α} (plain : separator ∉ tail) :
    Below separator (lower ++ tail) upper ↔ Below separator lower upper := by
  constructor
  · rintro ⟨rest, split⟩
    rcases append_eq_append_iff.mp split with ⟨extra, -, inTail⟩ | ⟨extra, rfl, cut⟩
    · exact absurd (inTail ▸ mem_append_right extra mem_cons_self) plain
    · cases extra with
      | nil =>
        rw [nil_append] at cut
        exact absurd (cut ▸ mem_cons_self) plain
      | cons head others =>
        obtain ⟨rfl, -⟩ := List.cons.inj cut
        exact ⟨others, rfl⟩
  · rintro ⟨rest, rfl⟩
    exact ⟨rest ++ tail, by simp⟩

/-! ## The order -/

section Order

variable [LinearOrder α]

/-- An extension is greater. -/
theorem lt_append {sequence extra : List α} (nonempty : extra ≠ []) :
    sequence < sequence ++ extra := by
  cases extra with
  | nil => exact absurd rfl nonempty
  | cons head rest =>
    have longer := @List.append_left_lt _ _ sequence _ _ (nil_lt_cons head rest)
    rwa [append_nil] at longer

theorem Below.lt (below : Below separator lower upper) : upper < lower := by
  obtain ⟨rest, rfl⟩ := below
  exact lt_append (cons_ne_nil _ _)

/-- What is greater than a sequence without extending it is greater than its extensions. -/
theorem append_lt_of_not_prefix {sequence other : List α} (greater : sequence < other)
    (apart : ¬ sequence <+: other) (extra : List α) : sequence ++ extra < other := by
  induction sequence generalizing other with
  | nil => exact absurd nil_prefix apart
  | cons head rest ih =>
    cases other with
    | nil => exact absurd greater (not_lt_nil _)
    | cons first others =>
      rw [cons_append, cons_lt_cons_iff]
      rcases cons_lt_cons_iff.mp greater with less | ⟨rfl, less⟩
      · exact .inl less
      · refine .inr ⟨rfl, ih less fun front => apart ?_⟩
        exact prefix_cons_inj head |>.mpr front

end Order

end Covalent.Separated
