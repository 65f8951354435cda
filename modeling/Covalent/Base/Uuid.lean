import Mathlib.Order.Basic
import Mathlib.Tactic

/-!
# Universally unique identifiers

Identifiers are compared, ordered and tested for being nil, and nothing else is
done with them, so an identifier is its number.
-/

namespace Covalent

/-- A universally unique identifier, as the big-endian number of its bytes. -/
structure Uuid where
  number : Nat
deriving DecidableEq

namespace Uuid

instance : LinearOrder Uuid :=
  LinearOrder.lift' Uuid.number fun left right equal => by
    cases left
    cases right
    simpa using equal

/-- The identifier whose bytes are all zero. -/
def nil : Uuid := ⟨0⟩

def isNil (id : Uuid) : Bool :=
  decide (id = nil)

end Uuid

end Covalent
