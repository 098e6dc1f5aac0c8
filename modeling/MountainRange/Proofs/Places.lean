import Mathlib.Algebra.BigOperators.Group.List.Basic
import Mathlib.Algebra.Ring.Nat
import MountainRange.Proofs.Heights
set_option autoImplicit false

/-!
# Places of leaves

The mountains of a range cut its leaves into blocks, one behind the other.  Every leaf below
the size has one place, every place of a range holds one leaf, and the leaves come in the
order of their places: mountain by mountain, and position by position inside each.
-/

namespace MountainRange

/-! ## Leaves in front of a mountain -/

theorem leafCount_eq_sum (heights : List Nat) :
    leafCount heights = (heights.map (2 ^ ·)).sum := by
  induction heights with
  | nil => rfl
  | cons height rest ih => rw [leafCount_cons, List.map_cons, List.sum_cons, ih]

theorem leafCount_take_mono (heights : List Nat) {i j : Nat} (h : i ≤ j) :
    leafCount (heights.take i) ≤ leafCount (heights.take j) := by
  have hsplit := leafCount_append ((heights.take j).take i) ((heights.take j).drop i)
  rw [List.take_append_drop, List.take_take, Nat.min_eq_left h] at hsplit
  omega

namespace Location

/-- A place in a range of some size: a position inside one of its mountains, as high as the
place tells. -/
structure IsIn (place : Location) (size : Int) : Prop where
  mountain_lt : place.mountain < peakCount size
  height_eq : ∃ hs, mountainHeights size = .ok hs ∧ hs[place.mountain]? = some place.height
  position_lt : place.position < 2 ^ place.height

/-- The order of places: by the mountain, and inside a mountain by the position. -/
def Precedes (place other : Location) : Prop :=
  place.mountain < other.mountain ∨
    (place.mountain = other.mountain ∧ place.position < other.position)

instance (place other : Location) : Decidable (place.Precedes other) :=
  inferInstanceAs (Decidable (_ ∨ _))

namespace Holds

variable {heights : List Nat} {place other : Location} {leaf leaf' : Nat}

/-- A leaf stands in front of the mountain behind its own. -/
theorem lt_next (h : place.Holds heights leaf) :
    leaf < leafCount (heights.take (place.mountain + 1)) := by
  obtain ⟨hlt, hget⟩ := List.getElem?_eq_some_iff.mp h.height_eq
  rw [List.take_succ_eq_append_getElem hlt, leafCount_append, hget, leafCount_cons,
    leafCount_nil, h.leaf_eq]
  have hposition := h.position_lt
  omega

theorem lt_of_precedes (h : place.Holds heights leaf) (h' : other.Holds heights leaf')
    (horder : place.Precedes other) : leaf < leaf' := by
  rcases horder with hmountain | ⟨hmountain, hposition⟩
  · calc leaf < leafCount (heights.take (place.mountain + 1)) := h.lt_next
      _ ≤ leafCount (heights.take other.mountain) := leafCount_take_mono heights hmountain
      _ ≤ leaf' := by rw [h'.leaf_eq]; exact Nat.le_add_right _ _
  · rw [h.leaf_eq, h'.leaf_eq, hmountain]
    exact Nat.add_lt_add_left hposition _

/-- Leaves come in the order of their places. -/
theorem lt_iff_precedes (h : place.Holds heights leaf) (h' : other.Holds heights leaf') :
    leaf < leaf' ↔ place.Precedes other := by
  refine ⟨fun hlt => ?_, h.lt_of_precedes h'⟩
  by_contra hnot
  have hback : other.Precedes place ∨
      (other.mountain = place.mountain ∧ other.position = place.position) := by
    unfold Precedes at hnot ⊢
    omega
  rcases hback with hback | ⟨hmountain, hposition⟩
  · exact Nat.lt_asymm hlt (h'.lt_of_precedes h hback)
  · rw [h.leaf_eq, h'.leaf_eq, hmountain, hposition] at hlt
    exact Nat.lt_irrefl _ hlt

end Holds

end Location

/-! ## Ranges of any size -/

theorem mountainHeights_natCast (size : Nat) : mountainHeights size = .ok (heights size) := by
  rw [mountainHeights, if_neg (by omega), Int.toNat_natCast]

/-- Only a range with leaves has mountains. -/
theorem exists_natCast_of_mountainHeights {size : Int} {hs : List Nat}
    (h : mountainHeights size = .ok hs) : ∃ n : Nat, size = n ∧ hs = heights n := by
  unfold mountainHeights at h
  split at h
  · cases h
  · next hsize =>
      cases h
      exact ⟨size.toNat, by omega, rfl⟩

namespace Location

variable {place other : Location}

theorem Holds.isIn {size leaf : Nat} (h : place.Holds (heights size) leaf) :
    place.IsIn size where
  mountain_lt := by
    rw [← length_heights]
    exact (List.getElem?_eq_some_iff.mp h.height_eq).1
  height_eq := ⟨_, mountainHeights_natCast size, h.height_eq⟩
  position_lt := h.position_lt

/-- A place of a range holds the leaf behind all leaves in front of it. -/
theorem IsIn.exists_holds {size : Int} (h : place.IsIn size) :
    ∃ n leaf : Nat, size = n ∧ place.Holds (heights n) leaf := by
  obtain ⟨hs, hheights, hget⟩ := h.height_eq
  obtain ⟨n, rfl, rfl⟩ := exists_natCast_of_mountainHeights hheights
  exact ⟨n, _, rfl, hget, h.position_lt, rfl⟩

end Location

/-- A leaf that was found is inside a range of naturally many leaves, at a place that holds it. -/
theorem exists_holds_of_locateLeaf {leaf size : Int} {place : Location}
    (h : locateLeaf leaf size = .ok place) :
    ∃ l n : Nat, leaf = l ∧ size = n ∧ place.Holds (heights n) l := by
  by_cases hinside : leaf < 0 ∨ size ≤ leaf
  · rw [locateLeaf, if_pos hinside] at h
    cases h
  · obtain ⟨l, rfl⟩ := Int.eq_ofNat_of_zero_le (by omega : 0 ≤ leaf)
    obtain ⟨n, rfl⟩ := Int.eq_ofNat_of_zero_le (by omega : 0 ≤ size)
    exact ⟨l, n, rfl, rfl, (holds_of_locateLeaf h).2⟩

/-- The place of every leaf of a range is found. -/
theorem exists_locateLeaf {leaf size : Int} (hleaf : 0 ≤ leaf) (h : leaf < size) :
    ∃ place, locateLeaf leaf size = .ok place := by
  obtain ⟨l, rfl⟩ := Int.eq_ofNat_of_zero_le hleaf
  obtain ⟨n, rfl⟩ := Int.eq_ofNat_of_zero_le (by omega : 0 ≤ size)
  obtain ⟨place, hfound, -⟩ := locateLeaf_holds (by omega : l < n)
  exact ⟨place, hfound⟩

/-- The mountains partition the leaves.  A leaf has no place exactly if it lies outside the
range.  Inside, its place is a position in one of the mountains, and its index counts the leaves
of the mountains in front and the positions before its own.  Conversely every place of the range
is the place of exactly one leaf, and leaves come in the order of their places. -/
theorem locateLeaf_partitions (size : Int) :
    (∀ leaf, locateLeaf leaf size = .error (.leafOutside leaf size) ↔ leaf < 0 ∨ size ≤ leaf) ∧
      (∀ leaf, 0 ≤ leaf → leaf < size → ∃ place hs, locateLeaf leaf size = .ok place ∧
        mountainHeights size = .ok hs ∧ place.IsIn size ∧
        leaf = (((hs.take place.mountain).map (2 ^ ·)).sum + place.position : Nat)) ∧
      (∀ place : Location, place.IsIn size → ∃! leaf, locateLeaf leaf size = .ok place) ∧
      ∀ leaf leaf' place place', locateLeaf leaf size = .ok place →
        locateLeaf leaf' size = .ok place' → (leaf < leaf' ↔ place.Precedes place') := by
  refine ⟨fun leaf => ⟨fun herror => ?_, fun houtside => ?_⟩, fun leaf hleaf hlt => ?_,
    fun place hplace => ?_, fun leaf leaf' place place' hfound hfound' => ?_⟩
  · by_contra hinside
    obtain ⟨place, hfound⟩ := exists_locateLeaf (by omega) (by omega : leaf < size)
    rw [hfound] at herror
    cases herror
  · rw [locateLeaf, if_pos houtside]
  · obtain ⟨place, hfound⟩ := exists_locateLeaf hleaf hlt
    obtain ⟨l, n, rfl, rfl, hholds⟩ := exists_holds_of_locateLeaf hfound
    refine ⟨place, heights n, hfound, mountainHeights_natCast n, hholds.isIn, ?_⟩
    rw [← leafCount_eq_sum, ← hholds.leaf_eq]
  · obtain ⟨n, leaf, rfl, hholds⟩ := hplace.exists_holds
    refine ⟨leaf, locateLeaf_of_holds hholds, fun other hother => ?_⟩
    obtain ⟨l, k, rfl, hk, hother⟩ := exists_holds_of_locateLeaf hother
    obtain rfl := Int.ofNat.inj hk
    rw [hholds.leaf_eq, hother.leaf_eq]
  · obtain ⟨l, n, rfl, rfl, hholds⟩ := exists_holds_of_locateLeaf hfound
    obtain ⟨l', k, rfl, hk, hholds'⟩ := exists_holds_of_locateLeaf hfound'
    obtain rfl := Int.ofNat.inj hk
    rw [Int.ofNat_lt]
    exact hholds.lt_iff_precedes hholds'

/-- In a range of eleven leaves, whose mountains hold eight, two and one of them, the leaf 9 is
the second of the second mountain, no other leaf is there, and the leaf 10 has a later place. -/
theorem locateLeaf_partitions_eleven :
    let place : Location := ⟨1, 1, 1⟩
    locateLeaf 11 11 = .error (.leafOutside 11 11) ∧ place.IsIn 11 ∧
      locateLeaf 9 11 = .ok place ∧ (∃! leaf, locateLeaf leaf 11 = .ok place) ∧
      locateLeaf 10 11 = .ok ⟨2, 0, 0⟩ ∧ ((9 : Int) < 10 ↔ place.Precedes ⟨2, 0, 0⟩) := by
  intro place
  obtain ⟨houtside, hinside, honto, hmono⟩ := locateLeaf_partitions 11
  have hnine : locateLeaf 9 11 = .ok place := by decide
  have hten : locateLeaf 10 11 = .ok ⟨2, 0, 0⟩ := by decide
  obtain ⟨found, hs, hfound, -, hisIn, -⟩ := hinside 9 (by decide) (by decide)
  obtain rfl := Except.ok.inj (hnine.symm.trans hfound)
  exact ⟨(houtside 11).mpr (by decide), hisIn, hnine, honto _ hisIn, hten,
    hmono 9 10 _ _ hnine hten⟩

end MountainRange
