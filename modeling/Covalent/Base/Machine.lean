import Mathlib.Logic.Relation
import Mathlib.Tactic

/-!
# Transition systems

A system is a set of initial states and a step relation.  Its reachable states
are those at the end of a finite run, and a property that holds initially and is
kept by every step holds in all of them.
-/

namespace Covalent

/-- A transition system over states `S`. -/
structure Machine (S : Type*) where
  initial : S → Prop
  step : S → S → Prop

namespace Machine

variable {S : Type*} (machine : Machine S)

/-- The states at the end of a finite run. -/
def Reachable (state : S) : Prop :=
  ∃ start, machine.initial start ∧ Relation.ReflTransGen machine.step start state

variable {machine}

theorem Reachable.start {state : S} (initial : machine.initial state) : machine.Reachable state :=
  ⟨state, initial, .refl⟩

theorem Reachable.next {state after : S} (reachable : machine.Reachable state)
    (step : machine.step state after) : machine.Reachable after := by
  obtain ⟨start, initial, run⟩ := reachable
  exact ⟨start, initial, run.tail step⟩

theorem Reachable.run {state after : S} (reachable : machine.Reachable state)
    (steps : Relation.ReflTransGen machine.step state after) :
    machine.Reachable after := by
  obtain ⟨start, initial, run⟩ := reachable
  exact ⟨start, initial, run.trans steps⟩

/-- What holds initially and is kept by each step from a reachable state holds in
every reachable state. -/
theorem Reachable.invariant {property : S → Prop} {state : S} (reachable : machine.Reachable state)
    (initially : ∀ start, machine.initial start → property start)
    (kept : ∀ before after, machine.Reachable before → machine.step before after →
      property before → property after) :
    property state := by
  obtain ⟨start, initial, run⟩ := reachable
  induction run with
  | refl => exact initially start initial
  | tail earlier step ih =>
    exact kept _ _ ⟨start, initial, earlier⟩ step ih

end Machine

end Covalent
