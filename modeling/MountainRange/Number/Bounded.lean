set_option autoImplicit false

/-!
# Numbers below a bound

Limbs, field elements and the parts of a deposit are numbers below some bound.  An
unchecked integer is such a number exactly if it is equal to one.
-/

namespace MountainRange.Number

/-- The number below a bound that an integer is, if it is one. -/
def below? (bound : Nat) (n : Int) : Option (Fin bound) :=
  if h : 0 ≤ n ∧ n < bound then some ⟨n.toNat, by omega⟩ else none

theorem below?_eq_some_iff (bound : Nat) (n : Int) (x : Fin bound) :
    below? bound n = some x ↔ n = (x.val : Int) := by
  unfold below?
  have hx := x.isLt
  by_cases h : 0 ≤ n ∧ n < bound
  · rw [dif_pos h, Option.some.injEq, Fin.ext_iff]
    show n.toNat = x.val ↔ _
    omega
  · rw [dif_neg h]
    constructor
    · intro h'; exact absurd h' (by simp)
    · intro h'; omega

/-- The integers that are numbers below a bound. -/
theorem exists_eq_val_iff (bound : Nat) (n : Int) :
    (∃ x : Fin bound, n = (x.val : Int)) ↔ 0 ≤ n ∧ n < bound := by
  constructor
  · rintro ⟨x, rfl⟩
    exact ⟨Int.natCast_nonneg _, Int.ofNat_lt.mpr x.isLt⟩
  · rintro ⟨hnatural, hlt⟩
    obtain ⟨k, rfl⟩ := Int.eq_ofNat_of_zero_le hnatural
    exact ⟨⟨k, Int.ofNat_lt.mp hlt⟩, rfl⟩

end MountainRange.Number
