import MountainRange.Number.Bounded
set_option autoImplicit false

/-!
# The field of the proving domain

Integers modulo the 252-bit prime `2^251 + 17 * 2^192 + 1`.  A compact digest is
one element of this field, and every slot of an encoded request is one.
-/

namespace MountainRange

/-- The prime of the field. -/
def fieldPrime : Nat := 1 <<< 251 + 17 <<< 192 + 1

theorem fieldPrime_pos : 0 < fieldPrime := by decide

instance : @NeZero Nat Zero.ofOfNat0 fieldPrime := ⟨by decide⟩

/-- An element of the field, as its least non-negative representative. -/
abbrev Felt := Fin fieldPrime

namespace Felt

/-- The element an integer stands for, if it is the least representative itself. -/
def ofInt? (n : Int) : Option Felt := Number.below? fieldPrime n

/-- The element that a number of 64 bits stands for. -/
def ofWord (n : UInt64) : Felt := ⟨n.toNat, Nat.lt_trans n.toNat_lt (by decide)⟩

end Felt

end MountainRange
