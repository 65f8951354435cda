import Covalent.Base.BTreeMap
import Covalent.Base.Uuid
import Mathlib.Data.String.Basic

/-!
# What all parts share

The identifiers of devices and backups, the errors of the core, and the additions of
64-bit numbers that are checked or saturate.
-/

namespace Covalent

/-! ## Identifiers -/

/-- Identity of a Covalent device. -/
structure DeviceId where
  uuid : Uuid
deriving DecidableEq

instance : LinearOrder DeviceId :=
  LinearOrder.lift' DeviceId.uuid fun left right equal => by
    cases left; cases right; exact congrArg _ equal

/-- The device identity no device has. -/
def DeviceId.nil : DeviceId := ⟨Uuid.nil⟩

structure BackupId where
  uuid : Uuid
deriving DecidableEq

instance : LinearOrder BackupId :=
  LinearOrder.lift' BackupId.uuid fun left right equal => by
    cases left; cases right; exact congrArg _ equal

/-- A text of letters, digits, hyphens and underscores, of one to 128 bytes. -/
def validIdentifier (value : String) : Bool :=
  !value.isEmpty && decide (value.utf8ByteSize ≤ 128) &&
    value.toList.all fun letter => letter.isAlphanum || letter == '-' || letter == '_'

abbrev DeviceSet := BTreeMap DeviceId Unit

/-- The providers a user chose for extra copies. -/
structure ReplicaIntent where
  selectedProviders : DeviceSet
deriving DecidableEq

/-- What went wrong with a provider. -/
structure ProviderFailure where
  providerId : DeviceId
  locator : Option String
  reason : String
deriving DecidableEq

/-! ## Errors -/

/-- Refusals of the core.  A contract error is the text of a decoded record's refusal. -/
inductive CoreError where
  | authenticationFailed
  | identityMismatch
  | peerRevoked
  | unselectedProvider
  | invalidKeyMaterial
  | settingsImportNotConfirmed
  | settingsTooLarge
  | jobConflict
  | cancelled
  | restorePlanMismatch
  | json
  | resourceLimit (resource : String)
  | invalidState (reason : String)
  | contract (reason : String)
  | missingChunk (locator : String)
  | corruptChunk (locator : String)
  | io (operation : String)
deriving DecidableEq

/-- What the core returns. -/
abbrev Result := Except CoreError

/-! ## Numbers of 64 bits -/

def saturatingAdd (left right : Nat) : Nat :=
  min (left + right) (2 ^ 64 - 1)

/-- Saturating subtraction.  The test comes first, so that a subtraction of a large constant
from an unknown number is never unfolded. -/
def saturatingSub (left right : Nat) : Nat :=
  if right ≤ left then left - right else 0

def checkedAdd (left right : Nat) : Option Nat :=
  if left + right < 2 ^ 64 then some (left + right) else none

@[simp]
theorem checkedAdd_eq_some {left right sum : Nat} :
    checkedAdd left right = some sum ↔ left + right < 2 ^ 64 ∧ left + right = sum := by
  simp [checkedAdd]

end Covalent
