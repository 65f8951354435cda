import Mathlib.Tactic

/-!
# Contents that are cut into extents

A content is a list in which one value is blank.  A division lists the parts that must be
copied; everything outside them is blank.  Whoever starts from a blank list of the same
length and writes the parts in place ends with the content.
-/

namespace Covalent.Extents

open List

variable {α : Type*}

/-- The part of a list of some length from a position on. -/
def slice (content : List α) (offset length : Nat) : List α :=
  (content.drop offset).take length

/-- A list with other values from a position on. -/
def overwrite (file : List α) (position : Nat) (values : List α) : List α :=
  file.take position ++ values ++ file.drop (position + values.length)

variable {blank : α} {content : List α}

/-- A content up to a position, and blanks in place of the rest. -/
def filled (blank : α) (content : List α) (position : Nat) : List α :=
  content.take position ++ replicate (content.length - position) blank

/-- The range between two positions is blank. -/
def Blank (blank : α) (content : List α) (start stop : Nat) : Prop :=
  slice content start (stop - start) = replicate (stop - start) blank

instance [DecidableEq α] (blank : α) (content : List α) (start stop : Nat) :
    Decidable (Blank blank content start stop) :=
  inferInstanceAs (Decidable (slice content start (stop - start) = _))

/-- Parts of a content, in order and from a position on, outside of which it is blank. -/
inductive Division (blank : α) (content : List α) : Nat → List (Nat × Nat) → Prop
  | last {start : Nat} (inside : start ≤ content.length)
      (hole : Blank blank content start content.length) : Division blank content start []
  | next {start offset length : Nat} {rest : List (Nat × Nat)} (follows : start ≤ offset)
      (nonempty : 0 < length) (inside : offset + length ≤ content.length)
      (hole : Blank blank content start offset)
      (remaining : Division blank content (offset + length) rest) :
      Division blank content start ((offset, length) :: rest)

/-- Pieces that are together the parts of a content, each part being cut by itself. -/
inductive Cut (content : List α) : List (Nat × Nat) → List (List α) → Prop
  | nil : Cut content [] []
  | cons {offset length : Nat} {rest : List (Nat × Nat)} {pieces others : List (List α)}
      (whole : pieces.flatten = slice content offset length) (remaining : Cut content rest others) :
      Cut content ((offset, length) :: rest) (pieces ++ others)

/-! ## Reading -/

theorem slice_length (content : List α) {offset length : Nat}
    (inside : offset + length ≤ content.length) :
    (slice content offset length).length = length := by
  rw [slice, length_take, length_drop]
  omega

theorem slice_full (content : List α) : slice content 0 content.length = content := by
  rw [slice, drop_zero, take_length]

/-- Two slices, one right after the other. -/
theorem slice_append (content : List α) (offset one two : Nat) :
    slice content offset one ++ slice content (offset + one) two =
      slice content offset (one + two) := by
  rw [slice, slice, slice, take_add, drop_drop]

/-- The part up to a position and the slice after it. -/
theorem take_append_slice (content : List α) (position length : Nat) :
    content.take position ++ slice content position length = content.take (position + length) := by
  rw [slice, take_add]

/-- A slice that consists of two lists, one after the other. -/
theorem slice_eq_append {offset : Nat} {one two : List α}
    (inside : offset + (one.length + two.length) ≤ content.length)
    (whole : slice content offset (one.length + two.length) = one ++ two) :
    slice content offset one.length = one ∧
      slice content (offset + one.length) two.length = two := by
  rw [← slice_append] at whole
  exact append_inj whole (slice_length content (by omega))

/-- The part up to a hole and the blanks of the hole. -/
theorem take_append_blank {start stop : Nat} (order : start ≤ stop)
    (hole : Blank blank content start stop) :
    content.take start ++ replicate (stop - start) blank = content.take stop := by
  rw [← hole, take_append_slice, Nat.add_sub_cancel' order]

/-! ## Filling -/

@[simp]
theorem filled_zero (blank : α) (content : List α) :
    filled blank content 0 = replicate content.length blank := by
  simp [filled]

@[simp]
theorem filled_length (blank : α) (content : List α) :
    filled blank content content.length = content := by
  simp [filled]

/-- Nothing has to be written where the content is blank. -/
theorem filled_of_blank {start stop : Nat} (order : start ≤ stop) (inside : stop ≤ content.length)
    (hole : Blank blank content start stop) :
    filled blank content start = filled blank content stop := by
  have lengths : content.length - start = (stop - start) + (content.length - stop) := by omega
  rw [filled, filled, ← take_append_blank order hole, lengths, replicate_add, append_assoc]

/-- The next values of a content are written. -/
theorem overwrite_filled {position : Nat} {values : List α}
    (inside : position + values.length ≤ content.length)
    (next : slice content position values.length = values) :
    overwrite (filled blank content position) position values =
      filled blank content (position + values.length) := by
  have front : (content.take position).length = position := by
    rw [length_take]
    omega
  have written : content.take (position + values.length) = content.take position ++ values := by
    rw [← take_append_slice, next]
  have left : content.length - position =
      values.length + (content.length - (position + values.length)) := by omega
  rw [overwrite, filled, filled, written, left]
  have kept : (content.take position ++
      .replicate (values.length + (content.length - (position + values.length))) blank).take
        position = content.take position := take_left' front
  have tail : (content.take position ++
      .replicate (values.length + (content.length - (position + values.length))) blank).drop
        (position + values.length) =
      .replicate (content.length - (position + values.length)) blank := by
    rw [drop_append, front, drop_eq_nil_of_le (by rw [front]; omega), nil_append,
      Nat.add_sub_cancel_left, drop_replicate, Nat.add_sub_cancel_left]
  rw [kept, tail]

/-! ## Divisions -/

namespace Division

variable {start : Nat} {extents : List (Nat × Nat)}

section

variable (division : Division blank content start extents)

include division

/-- All parts follow the start, follow one another and lie inside the content. -/
theorem bounds :
    (∀ extent ∈ extents, 0 < extent.2 ∧ start ≤ extent.1 ∧ extent.1 + extent.2 ≤ content.length) ∧
    extents.Pairwise fun first second => first.1 + first.2 ≤ second.1 := by
  induction division with
  | last inside hole => exact ⟨nofun, .nil⟩
  | @next start offset length rest follows nonempty inside hole remaining ih =>
    obtain ⟨each, ordered⟩ := ih
    refine ⟨?_, pairwise_cons.mpr ⟨fun later member => (each later member).2.1, ordered⟩⟩
    rintro extent (_ | ⟨_, member⟩)
    · exact ⟨nonempty, follows, inside⟩
    · obtain ⟨positive, after, within⟩ := each extent member
      exact ⟨positive, by omega, within⟩

/-- The parts are together at most as long as what is left of the content. -/
theorem sum_le : start + (extents.map Prod.snd).sum ≤ content.length := by
  induction division with
  | last inside hole => simpa using inside
  | next follows nonempty inside hole remaining ih =>
    rw [map_cons, sum_cons]
    omega

/-- Parts that are as long as the rest of the content are the rest of the content. -/
theorem flatten_of_total (total : start + (extents.map Prod.snd).sum = content.length) :
    (extents.map fun extent => slice content extent.1 extent.2).flatten = content.drop start := by
  induction division with
  | @last start inside hole =>
    have ended : content.length ≤ start := by simpa using total.symm.le
    simpa using ended
  | @next start offset length rest follows nonempty inside hole remaining ih =>
    -- There is no room for a hole before the first part.
    have room := remaining.sum_le
    rw [map_cons, sum_cons] at total
    obtain rfl : offset = start := by omega
    rw [map_cons, flatten_cons, ih (by omega)]
    show (content.drop offset).take length ++ content.drop (offset + length) = _
    rw [← drop_drop, take_append_drop]

end

/-- A content is a division of itself. -/
theorem whole (content : List α) (nonempty : 0 < content.length) :
    Division blank content 0 [(0, content.length)] := by
  have ends : Division blank content (0 + content.length) [] := by
    rw [Nat.zero_add]
    refine .last le_rfl ?_
    simp [Blank, slice]
  exact .next le_rfl nonempty (Nat.zero_add _).le (by simp [Blank, slice]) ends

end Division

/-! ## Pieces -/

namespace Cut

variable {extents : List (Nat × Nat)} {pieces : List (List α)}

theorem flatten (cut : Cut content extents pieces) :
    pieces.flatten = (extents.map fun extent => slice content extent.1 extent.2).flatten := by
  induction cut with
  | nil => rfl
  | cons whole remaining ih =>
    rw [flatten_append, whole, ih, map_cons, flatten_cons]

/-- The pieces are together as long as the parts. -/
theorem flatten_length (cut : Cut content extents pieces) {start : Nat}
    (division : Division blank content start extents) :
    pieces.flatten.length = (extents.map Prod.snd).sum := by
  rw [cut.flatten, length_flatten, map_map]
  refine congrArg sum (map_congr_left fun extent member => ?_)
  exact slice_length content (division.bounds.1 extent member).2.2

/-- Pieces of parts that leave nothing out are pieces of the whole. -/
theorem of_total (cut : Cut content extents pieces) (division : Division blank content 0 extents)
    (total : (extents.map Prod.snd).sum = content.length) :
    Cut content [(0, content.length)] pieces := by
  have whole : pieces.flatten = slice content 0 content.length := by
    rw [cut.flatten, division.flatten_of_total (by rw [Nat.zero_add, total]), slice_full]
    rfl
  have single : Cut content [(0, content.length)] (pieces ++ []) := .cons whole .nil
  rwa [append_nil] at single

end Cut

end Covalent.Extents
