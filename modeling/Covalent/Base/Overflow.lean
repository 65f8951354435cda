import Mathlib.Algebra.BigOperators.Group.List.Basic
import Mathlib.Tactic.Linarith

/-!
# Sums of 64-bit numbers

What a sum beyond 64 bits does depends on how the program was built: it wraps
around or it stops the program.  A sum that fits is the same in both.
-/

namespace Covalent

/-- What an addition does beyond 64 bits. -/
inductive Arithmetic where
  | wrapping
  | trapping
deriving DecidableEq

def addU64 (arithmetic : Arithmetic) (left right : Nat) : Option Nat :=
  if left + right < 2 ^ 64 then some (left + right)
  else
    match arithmetic with
    | .wrapping => some ((left + right) % 2 ^ 64)
    | .trapping => none

/-- Add up a list of 64-bit numbers, from the left. -/
def sumU64 (arithmetic : Arithmetic) : Nat → List Nat → Option Nat
  | total, [] => some total
  | total, item :: rest =>
    (addU64 arithmetic total item).bind fun next => sumU64 arithmetic next rest

theorem addU64_of_lt {arithmetic : Arithmetic} {left right : Nat} (fits : left + right < 2 ^ 64) :
    addU64 arithmetic left right = some (left + right) :=
  if_pos fits

theorem addU64_wrapping (left right : Nat) :
    addU64 .wrapping left right = some ((left + right) % 2 ^ 64) := by
  rw [addU64]
  split
  next fits => rw [Nat.mod_eq_of_lt fits]
  next => rfl

theorem sumU64_of_lt {arithmetic : Arithmetic} {items : List Nat} {total : Nat}
    (fits : total + items.sum < 2 ^ 64) :
    sumU64 arithmetic total items = some (total + items.sum) := by
  induction items generalizing total with
  | nil => rfl
  | cons item rest ih =>
    rw [List.sum_cons] at fits
    have fitsNext : total + item < 2 ^ 64 := by omega
    rw [sumU64, addU64_of_lt fitsNext, Option.bind_some, ih (by omega),
      List.sum_cons, Nat.add_assoc]

/-- Wrapping sums always have a value. -/
theorem sumU64_wrapping_ne_none (items : List Nat) (total : Nat) :
    sumU64 .wrapping total items ≠ none := by
  induction items generalizing total with
  | nil => exact Option.some_ne_none _
  | cons item rest ih =>
    rw [sumU64, addU64_wrapping]
    exact ih _

theorem sumU64_trapping_eq_none {items : List Nat} {total : Nat} (start : total < 2 ^ 64)
    (beyond : 2 ^ 64 ≤ total + items.sum) : sumU64 .trapping total items = none := by
  induction items generalizing total with
  | nil => exact absurd beyond (by simpa using start)
  | cons item rest ih =>
    rw [List.sum_cons] at beyond
    rw [sumU64]
    by_cases fits : total + item < 2 ^ 64
    · rw [addU64_of_lt fits, Option.bind_some]
      exact ih fits (by omega)
    · rw [addU64, if_neg fits]
      rfl

end Covalent
