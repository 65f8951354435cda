import Mathlib.Tactic

/-!
# Numbers as bytes, most significant first
-/

namespace Covalent.BigEndian

/-- The lowest `width` bytes of a number. -/
def encode : Nat → Nat → List UInt8
  | 0, _ => []
  | width + 1, number => encode width (number / 256) ++ [UInt8.ofNat number]

/-- The number that bytes denote. -/
def decode (bytes : List UInt8) : Nat :=
  bytes.foldl (fun number byte => number * 256 + byte.toNat) 0

@[simp]
theorem length_encode (width number : Nat) : (encode width number).length = width := by
  induction width generalizing number with
  | zero => rfl
  | succ width ih => simp [encode, ih]

theorem decode_encode {width number : Nat} (fits : number < 256 ^ width) :
    decode (encode width number) = number := by
  induction width generalizing number with
  | zero =>
    have zero : number = 0 := by omega
    rw [zero]
    rfl
  | succ width ih =>
    have quotient : number / 256 < 256 ^ width := by
      omega
    have read : decode (encode width (number / 256)) = number / 256 := ih quotient
    rw [encode, decode, List.foldl_append]
    rw [decode] at read
    have byte : (UInt8.ofNat number).toNat = number % 256 := by simp
    simp only [List.foldl_cons, List.foldl_nil, byte]
    omega

end Covalent.BigEndian
