import Mathlib.Algebra.Group.Nat.Defs
import MountainRange.Mountain
set_option autoImplicit false

/-!
# The mountains of a size

The heights of the mountains are the binary expansion of the size: they decrease
strictly, the leaves of the mountains add up to the size, and there are as many
heights as the size has ones.  A leaf below the size therefore has a place, and its
place tells where its block of leaves begins.
-/

namespace MountainRange

/-! ## The binary expansion -/

theorem binaryLength_zero : binaryLength 0 = 0 := rfl

theorem binaryLength_halve {n : Nat} (h : n ≠ 0) :
    binaryLength n = binaryLength (n / 2) + 1 := by
  rw [binaryLength, if_neg h, Nat.log2_def]
  by_cases hn : 2 ≤ n
  · have hhalf : n / 2 ≠ 0 := by omega
    rw [if_pos hn, binaryLength, if_neg hhalf]
  · have hone : n / 2 = 0 := by omega
    rw [if_neg hn, hone, binaryLength_zero]

/-- A number below a power of two has no more binary digits than its exponent. -/
theorem binaryLength_le {n k : Nat} (h : n < 2 ^ k) : binaryLength n ≤ k := by
  unfold binaryLength
  split
  · exact Nat.zero_le k
  · next hn => exact (Nat.log2_lt hn).mpr h

theorem onesCount_zero : onesCount 0 = 0 := by
  rw [onesCount, if_pos rfl]

theorem onesCount_halve {n : Nat} (h : n ≠ 0) :
    onesCount n = n % 2 + onesCount (n / 2) := by
  rw [onesCount, if_neg h]

theorem heights_zero : heights 0 = [] := rfl

/-- The last digit of a size decides whether there is a mountain of one leaf; the
other digits are those of half the size, one place further up. -/
theorem heights_halve {n : Nat} (h : n ≠ 0) :
    heights n = (heights (n / 2)).map (· + 1) ++ (if n % 2 = 1 then [0] else []) := by
  have hdigit : n.testBit ∘ (· + 1) = (n / 2).testBit := by
    funext i
    exact Nat.testBit_succ n i
  have hlast : [0].filter n.testBit = if n % 2 = 1 then [0] else [] := by
    simp [List.filter_cons, Nat.testBit_zero]
  unfold heights
  rw [binaryLength_halve h, List.range_succ_eq_map, List.reverse_cons,
    List.filter_append, hlast, ← List.map_reverse, List.filter_map, hdigit]

/-- The number of leaves of some mountains, by their heights. -/
def leafCount : List Nat → Nat
  | [] => 0
  | height :: rest => 2 ^ height + leafCount rest

@[simp] theorem leafCount_nil : leafCount [] = 0 := rfl

@[simp] theorem leafCount_cons (height : Nat) (rest : List Nat) :
    leafCount (height :: rest) = 2 ^ height + leafCount rest := rfl

theorem leafCount_append (front back : List Nat) :
    leafCount (front ++ back) = leafCount front + leafCount back := by
  induction front with
  | nil => rw [List.nil_append, leafCount_nil, Nat.zero_add]
  | cons height rest ih =>
      rw [List.cons_append, leafCount_cons, leafCount_cons, ih, Nat.add_assoc]

/-- Mountains one level higher hold twice as many leaves. -/
theorem leafCount_map_succ (heights : List Nat) :
    leafCount (heights.map (· + 1)) = 2 * leafCount heights := by
  induction heights with
  | nil => rfl
  | cons height rest ih =>
      rw [List.map_cons, leafCount_cons, leafCount_cons, ih, Nat.pow_succ]
      omega

/-- The mountains of a size hold exactly that many leaves. -/
theorem leafCount_heights (n : Nat) : leafCount (heights n) = n := by
  induction n using Nat.strongRecOn with
  | ind n ih =>
      by_cases hn : n = 0
      · rw [hn, heights_zero, leafCount_nil]
      · rw [heights_halve hn, leafCount_append, leafCount_map_succ,
          ih (n / 2) (by omega)]
        by_cases hodd : n % 2 = 1
        · rw [if_pos hodd, leafCount_cons, leafCount_nil]
          omega
        · rw [if_neg hodd, leafCount_nil]
          omega

/-- The mountains of a size come tallest first, no two of one height. -/
theorem heights_decreasing (n : Nat) : (heights n).Pairwise (· > ·) := by
  induction n using Nat.strongRecOn with
  | ind n ih =>
      by_cases hn : n = 0
      · rw [hn, heights_zero]
        exact List.Pairwise.nil
      · rw [heights_halve hn, List.pairwise_append]
        refine ⟨?_, by split <;> simp, ?_⟩
        · rw [List.pairwise_map]
          exact (ih (n / 2) (by omega)).imp fun h => Nat.succ_lt_succ h
        · intro height hheight last hlast
          obtain ⟨lower, _, rfl⟩ := List.mem_map.mp hheight
          split at hlast
          · rw [List.mem_singleton.mp hlast]
            exact Nat.succ_pos lower
          · cases hlast

/-- The height of a mountain tells which mountain it is. -/
theorem heights_inj {n i j height : Nat} (hi : (heights n)[i]? = some height)
    (hj : (heights n)[j]? = some height) : i = j := by
  have hnodup : (heights n).Nodup := (heights_decreasing n).imp fun h => Nat.ne_of_gt h
  obtain ⟨hlt, _⟩ := List.getElem?_eq_some_iff.mp hi
  exact (List.getElem?_inj hlt hnodup).mp (hi.trans hj.symm)

/-- There are as many mountains as the size has ones. -/
theorem length_heights (n : Nat) : (heights n).length = peakCount n := by
  show (heights n).length = onesCount n
  induction n using Nat.strongRecOn with
  | ind n ih =>
      by_cases hn : n = 0
      · rw [hn, heights_zero, onesCount_zero, List.length_nil]
      · rw [heights_halve hn, List.length_append, List.length_map,
          ih (n / 2) (by omega), onesCount_halve hn]
        by_cases hodd : n % 2 = 1
        · rw [if_pos hodd, hodd, List.length_singleton, Nat.add_comm]
        · have heven : n % 2 = 0 := by omega
          rw [if_neg hodd, heven, List.length_nil, Nat.add_comm]

/-- No mountain is as high as the size has binary digits. -/
theorem height_lt_binaryLength {n height : Nat} (h : height ∈ heights n) :
    height < binaryLength n := by
  have hmem := (List.mem_filter.mp h).1
  simpa using hmem

theorem length_heights_le (n : Nat) : (heights n).length ≤ binaryLength n := by
  have hle := List.length_filter_le n.testBit (List.range (binaryLength n)).reverse
  simpa [heights] using hle

/-! ## Places -/

/-- A place among some mountains says that the leaf stands at a position inside one of
them, behind all leaves of the mountains in front. -/
structure Location.Holds (place : Location) (heights : List Nat) (leaf : Nat) : Prop where
  height_eq : heights[place.mountain]? = some place.height
  position_lt : place.position < 2 ^ place.height
  leaf_eq : leaf = leafCount (heights.take place.mountain) + place.position

/-- The walk along the mountains finds the place of every leaf they hold.  `passed` is
the number of mountains behind the walk. -/
theorem locateAmong_holds {heights : List Nat} (passed : Nat) {leaf : Nat}
    (h : leaf < leafCount heights) :
    ∃ place : Location, locateAmong heights passed leaf =
        some ⟨passed + place.mountain, place.height, place.position⟩ ∧
      place.Holds heights leaf := by
  induction heights generalizing passed leaf with
  | nil => exact absurd h (Nat.not_lt_zero leaf)
  | cons height rest ih =>
      rw [locateAmong, Nat.one_shiftLeft]
      by_cases hinside : leaf < 2 ^ height
      · refine ⟨⟨0, height, leaf⟩, by rw [if_pos hinside]; rfl, rfl, hinside, ?_⟩
        rw [List.take_zero, leafCount_nil, Nat.zero_add]
      · rw [leafCount_cons] at h
        have hrest : leaf - 2 ^ height < leafCount rest := by omega
        obtain ⟨place, hfound, hheight, hposition, hleaf⟩ := ih (passed + 1) hrest
        refine ⟨⟨place.mountain + 1, place.height, place.position⟩, ?_, hheight, hposition, ?_⟩
        · rw [if_neg hinside, hfound, Nat.add_assoc, Nat.add_comm 1]
        · show leaf = leafCount ((height :: rest).take (place.mountain + 1)) + place.position
          rw [List.take_succ_cons, leafCount_cons]
          omega

theorem Location.Holds.lt_leafCount {place : Location} {heights : List Nat} {leaf : Nat}
    (h : place.Holds heights leaf) : leaf < leafCount heights := by
  obtain ⟨hheight, hposition, hleaf⟩ := h
  obtain ⟨hlt, hget⟩ := List.getElem?_eq_some_iff.mp hheight
  have hall : leafCount heights = leafCount (heights.take place.mountain) +
      leafCount (heights.drop place.mountain) := by
    rw [← leafCount_append, List.take_append_drop]
  rw [List.drop_eq_getElem_cons hlt, hget, leafCount_cons] at hall
  omega

/-- The walk along the mountains finds no other place than the one that holds the leaf. -/
theorem locateAmong_of_holds {heights : List Nat} (passed : Nat) {place : Location} {leaf : Nat}
    (h : place.Holds heights leaf) :
    locateAmong heights passed leaf =
      some ⟨passed + place.mountain, place.height, place.position⟩ := by
  obtain ⟨mountain, height, position⟩ := place
  obtain ⟨hheight, hposition, hleaf⟩ := h
  induction heights generalizing passed leaf mountain with
  | nil => cases hheight
  | cons first rest ih =>
      rw [locateAmong, Nat.one_shiftLeft]
      cases mountain with
      | zero =>
          cases hheight
          rw [List.take_zero, leafCount_nil, Nat.zero_add] at hleaf
          rw [hleaf, if_pos hposition]
          rfl
      | succ mountain =>
          simp only [List.take_succ_cons, leafCount_cons] at hleaf
          have hrest : leaf - 2 ^ first = leafCount (rest.take mountain) + position := by omega
          rw [if_neg (by omega), ih (passed + 1) mountain hheight hposition hrest, Nat.add_assoc,
            Nat.add_comm 1]

theorem locateLeaf_eq_ok {leaf size : Nat} {place : Location} (h : leaf < size)
    (hfound : locateAmong (heights size) 0 leaf = some place) :
    locateLeaf leaf size = .ok place := by
  have hinside : ¬((leaf : Int) < 0 ∨ (size : Int) ≤ leaf) := by omega
  rw [locateLeaf, if_neg hinside, Int.toNat_natCast, Int.toNat_natCast, hfound]

/-- A leaf has a place exactly if its index is below the size. -/
theorem locateLeaf_holds {leaf size : Nat} (h : leaf < size) :
    ∃ place : Location, locateLeaf leaf size = .ok place ∧ place.Holds (heights size) leaf := by
  have hcount : leaf < leafCount (heights size) := by rwa [leafCount_heights]
  obtain ⟨place, hfound, hholds⟩ := locateAmong_holds 0 hcount
  rw [Nat.zero_add] at hfound
  exact ⟨place, locateLeaf_eq_ok h hfound, hholds⟩

/-- The place of a leaf is the only one that holds it. -/
theorem locateLeaf_of_holds {leaf size : Nat} {place : Location}
    (h : place.Holds (heights size) leaf) : locateLeaf leaf size = .ok place := by
  have hlt : leaf < size := by
    rw [← leafCount_heights size]
    exact h.lt_leafCount
  refine locateLeaf_eq_ok hlt ?_
  rw [locateAmong_of_holds 0 h, Nat.zero_add]

theorem locateLeaf_outside {leaf size : Nat} (h : size ≤ leaf) :
    locateLeaf leaf size = .error (.leafOutside leaf size) := by
  rw [locateLeaf, if_pos (by omega)]

/-- What a place that was found says. -/
theorem holds_of_locateLeaf {leaf size : Nat} {place : Location}
    (h : locateLeaf leaf size = .ok place) :
    leaf < size ∧ place.Holds (heights size) leaf := by
  by_cases hlt : leaf < size
  · obtain ⟨found, hfound, hholds⟩ := locateLeaf_holds hlt
    rw [hfound] at h
    cases h
    exact ⟨hlt, hholds⟩
  · rw [locateLeaf_outside (Nat.le_of_not_lt hlt)] at h
    cases h

end MountainRange
