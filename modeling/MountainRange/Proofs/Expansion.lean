import Mathlib.Data.Nat.BitIndices
import Mathlib.Data.Rat.Cast.Order
import MountainRange.Mountain.Checked
import MountainRange.Proofs.Places
import MountainRange.Proofs.Steps
set_option autoImplicit false

/-!
# Mountains and binary digits

The heights of the mountains of a size are the places of the ones among its binary digits, from the
highest down.  No other strictly decreasing heights have powers of two that add up to the size, and
the ones that are counted for the number of mountains are as many as the heights.
-/

namespace MountainRange

/-- Heights decrease strictly, and mountains of these heights hold so many leaves. -/
structure Expands (hs : List Nat) (size : Nat) : Prop where
  decreasing : hs.Pairwise (· > ·)
  sum_eq : (hs.map (2 ^ ·)).sum = size

theorem heights_expands (size : Nat) : Expands (heights size) size where
  decreasing := heights_decreasing size
  sum_eq := by rw [← leafCount_eq_sum, leafCount_heights]

/-- Read from the end, heights with so many leaves are the places of the ones of their number. -/
theorem Expands.reverse_eq {hs : List Nat} {size : Nat} (h : Expands hs size) :
    hs.reverse = size.bitIndices := by
  have hsorted : hs.reverse.SortedLT := by
    rw [List.sortedLT_iff_pairwise, List.pairwise_reverse]
    exact h.decreasing
  rw [← h.sum_eq, ← List.sum_reverse, ← List.map_reverse, Nat.bitIndices_sum_map_two_pow hsorted]

theorem expands_iff {hs : List Nat} {size : Nat} : Expands hs size ↔ hs = heights size := by
  constructor
  · intro h
    apply List.reverse_injective
    rw [h.reverse_eq, (heights_expands size).reverse_eq]
  · rintro rfl
    exact heights_expands size

theorem Number.Quantity.isBelow_int (a b : Int) :
    (Quantity.int a).isBelow (.int b) = decide (a < b) := by
  simp [isBelow, place?]

/-- A natural size of no fixed kind has the heights of the natural. -/
theorem mountainHeightsValue_natCast (size : Nat) :
    mountainHeightsValue (.int size) = .ok (heights size) := by
  have hbelow : (Number.Quantity.int size).isBelow (.int 0) = false := by
    rw [Number.Quantity.isBelow_int]
    exact decide_eq_false (by omega)
  refine bind_eq_ok_iff.mpr ⟨.int size, rfl, ?_⟩
  rw [hbelow]
  rfl

/-- The heights of the mountains of a size, given as an integer or as a value of no fixed kind, are
as many as the mountains that are counted, and they are the only ones that decrease strictly and
have powers of two that add up to the size. -/
theorem mountainHeights_expand (size : Nat) :
    ∃ hs, mountainHeights size = .ok hs ∧ mountainHeightsValue (.int size) = .ok hs ∧
      hs.length = peakCount size ∧ peakCountValue (.int size) = .ok hs.length ∧
      ∀ other : List Nat, Expands other size ↔ other = hs := by
  refine ⟨heights size, mountainHeights_natCast size, mountainHeightsValue_natCast size,
    length_heights size, ?_, fun other => expands_iff⟩
  rw [length_heights]
  rfl

end MountainRange
