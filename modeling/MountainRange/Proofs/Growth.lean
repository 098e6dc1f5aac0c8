import Mathlib.Algebra.Ring.Int.Defs
import Mathlib.Data.Set.Defs
import MountainRange.Proofs.ClimbIndex
import MountainRange.Proofs.Places
set_option autoImplicit false

/-!
# Growing ranges

Leaves are appended to a range, and the carries of its size merge mountains.  A leaf keeps its
position inside every block that it is in: its new mountain is built on its old one, and its
climb goes on where it ended before.  All of this is read off the binary digits.  The height of
a leaf's mountain is the highest digit in which the leaf and the size differ, and the digits of
the leaf below it are its position.
-/

namespace MountainRange

/-! ## Digits of a place -/

/-- The leaves of mountains that are all at least so high are whole blocks of that height. -/
theorem two_pow_dvd_leafCount {heights : List Nat} {least : Nat}
    (h : ∀ height ∈ heights, least ≤ height) : 2 ^ least ∣ leafCount heights := by
  induction heights with
  | nil => exact Nat.dvd_zero _
  | cons height rest ih =>
      obtain ⟨hheight, hrest⟩ := List.forall_mem_cons.mp h
      exact Nat.dvd_add (Nat.pow_dvd_pow 2 hheight) (ih hrest)

/-- Mountains that come tallest first have fewer leaves than one that is higher than all. -/
theorem leafCount_lt_two_pow {heights : List Nat} (hdecreasing : heights.Pairwise (· > ·))
    {bound : Nat} (h : ∀ height ∈ heights, height < bound) : leafCount heights < 2 ^ bound := by
  induction heights generalizing bound with
  | nil => exact Nat.two_pow_pos bound
  | cons height rest ih =>
      obtain ⟨hbelow, hrest⟩ := List.pairwise_cons.mp hdecreasing
      calc leafCount (height :: rest) < 2 ^ height + 2 ^ height :=
            Nat.add_lt_add_left (ih hrest hbelow) _
        _ = 2 ^ (height + 1) := by rw [Nat.pow_succ]; omega
        _ ≤ 2 ^ bound := Nat.pow_le_pow_right (by decide) (h height List.mem_cons_self)

namespace Location.Holds

variable {place place' : Location} {size size' leaf : Nat}

/-- The leaf and the size, split at the foot of the leaf's mountain: in front stand mountains
that are higher, and behind it fewer leaves than it has itself. -/
theorem exists_split (h : place.Holds (heights size) leaf) : ∃ front behind,
    leaf = 2 ^ (place.height + 1) * front + place.position ∧
      size = 2 ^ (place.height + 1) * front + 2 ^ place.height + behind ∧
      behind < 2 ^ place.height := by
  obtain ⟨hlt, hget⟩ := List.getElem?_eq_some_iff.mp h.height_eq
  have hdecreasing := heights_decreasing size
  rw [← List.take_append_drop place.mountain (heights size), List.drop_eq_getElem_cons hlt, hget,
    List.pairwise_append, List.pairwise_cons] at hdecreasing
  obtain ⟨-, ⟨hbelow, hback⟩, habove⟩ := hdecreasing
  obtain ⟨front, hfront⟩ :
      2 ^ (place.height + 1) ∣ leafCount ((heights size).take place.mountain) :=
    two_pow_dvd_leafCount fun height hheight => habove height hheight _ List.mem_cons_self
  refine ⟨front, leafCount ((heights size).drop (place.mountain + 1)), ?_, ?_,
    leafCount_lt_two_pow hback hbelow⟩
  · rw [h.leaf_eq, hfront]
  · have hall := leafCount_heights size
    rw [← List.take_append_drop place.mountain (heights size), List.drop_eq_getElem_cons hlt,
      hget, leafCount_append, leafCount_cons, hfront] at hall
    omega

/-- The position of a leaf consists of its digits below the height of its mountain. -/
theorem position_eq (h : place.Holds (heights size) leaf) :
    place.position = leaf % 2 ^ place.height := by
  obtain ⟨front, -, hleaf, -⟩ := h.exists_split
  rw [hleaf, Nat.pow_succ, Nat.mul_assoc, Nat.mul_add_mod, Nat.mod_eq_of_lt h.position_lt]

/-- Above the height of the mountain the digits of the leaf are those of the size. -/
theorem div_above (h : place.Holds (heights size) leaf) :
    leaf / 2 ^ (place.height + 1) = size / 2 ^ (place.height + 1) := by
  obtain ⟨front, behind, hleaf, hsize, hbehind⟩ := h.exists_split
  have hposition := h.position_lt
  have hpow : 2 ^ (place.height + 1) = 2 ^ place.height + 2 ^ place.height := by
    rw [Nat.pow_succ]
    omega
  have hpos := Nat.two_pow_pos (place.height + 1)
  rw [hleaf, hsize, Nat.add_assoc, Nat.mul_add_div hpos, Nat.mul_add_div hpos,
    Nat.div_eq_of_lt (by omega), Nat.div_eq_of_lt (by omega)]

/-- At that height the size has a one and the leaf has a zero. -/
theorem div_at (h : place.Holds (heights size) leaf) :
    leaf / 2 ^ place.height + 1 = size / 2 ^ place.height := by
  obtain ⟨front, behind, hleaf, hsize, hbehind⟩ := h.exists_split
  have hpos := Nat.two_pow_pos place.height
  have hsize' : size = 2 ^ place.height * (2 * front + 1) + behind := by
    rw [hsize, Nat.pow_succ, Nat.mul_add, Nat.mul_assoc, Nat.mul_one]
  rw [hleaf, Nat.pow_succ, Nat.mul_assoc, Nat.mul_add_div hpos, Nat.div_eq_of_lt h.position_lt,
    hsize', Nat.mul_add_div hpos, Nat.div_eq_of_lt hbehind]

/-! ## Two sizes -/

/-- In a larger range the mountain of a leaf is at least as high.  If it were lower, the digits
of the larger size from the old height on would be those of the leaf, and these are below those
of the smaller size. -/
theorem height_le (h : place.Holds (heights size) leaf) (h' : place'.Holds (heights size') leaf)
    (hle : size ≤ size') : place.height ≤ place'.height := by
  by_contra hlower
  obtain ⟨k, hk⟩ := Nat.exists_eq_add_of_lt (Nat.lt_of_not_le hlower)
  have hsame : leaf / 2 ^ place.height = size' / 2 ^ place.height := by
    have hsplit : 2 ^ place.height = 2 ^ (place'.height + 1) * 2 ^ k := by
      rw [← Nat.pow_add, hk]
      congr 1
      omega
    rw [hsplit, ← Nat.div_div_eq_div_mul, ← Nat.div_div_eq_div_mul, h'.div_above]
  have hmono : size / 2 ^ place.height ≤ size' / 2 ^ place.height := Nat.div_le_div_right hle
  have hat := h.div_at
  omega

/-- The old position is what the new one is inside a block as wide as the old mountain. -/
theorem position_eq_mod (h : place.Holds (heights size) leaf)
    (h' : place'.Holds (heights size') leaf) (hle : size ≤ size') :
    place.position = place'.position % 2 ^ place.height := by
  rw [h.position_eq, h'.position_eq,
    Nat.mod_mod_of_dvd _ (Nat.pow_dvd_pow 2 (h.height_le h' hle))]

end Location.Holds

/-! ## Turns of a climb -/

namespace Convention

/-- Whether a climb stands on the left, at each of so many levels from an index on.  These turns
are all that a climb takes from its index (`Peak.climb_eq_follow`). -/
def turns (c : Convention) : (index : Int) → (levels : Nat) → List Bool
  | _, 0 => []
  | index, levels + 1 => c.isLeft index :: c.turns (c.parent index) levels

/-- The climb of a leaf turns as the digits of its position tell, lowest first. -/
theorem turns_start (c : Convention) (position height levels : Nat) (h : levels ≤ height) :
    c.turns (c.start position height) levels =
      (List.range levels).map fun level => !position.testBit level := by
  induction levels generalizing position height with
  | zero => rfl
  | succ levels ih =>
      obtain ⟨height, rfl⟩ := Nat.exists_eq_add_of_lt (Nat.lt_of_lt_of_le (Nat.succ_pos _) h)
      rw [Nat.zero_add] at h ⊢
      rw [turns, c.isLeft_start, c.parent_start, ih _ _ (Nat.le_of_succ_le_succ h),
        List.range_succ_eq_map, List.map_cons, List.map_map]
      congr 1
      · rw [Nat.testBit_zero]
        rcases Nat.mod_two_eq_zero_or_one position with hp | hp <;> rw [hp] <;> rfl
      · refine List.map_congr_left fun level _ => ?_
        rw [Function.comp_apply, Nat.testBit_succ]

/-- A climb from a position that is cut down to its lowest digits takes the first turns of the
climb from the whole position. -/
theorem turns_start_mod (c : Convention) {height height' : Nat} (h : height ≤ height')
    (position : Nat) :
    c.turns (c.start (position % 2 ^ height) height) height =
      (c.turns (c.start position height') height').take height := by
  rw [c.turns_start _ _ _ (Nat.le_refl _), c.turns_start _ _ _ (Nat.le_refl _), ← List.map_take,
    List.take_range, Nat.min_eq_left h]
  refine List.map_congr_left fun level hlevel => ?_
  rw [Nat.testBit_mod_two_pow, decide_eq_true (List.mem_range.mp hlevel), Bool.true_and]

end Convention

namespace Peak

variable {m : Type → Type} [Monad m] {D : Type}

/-- Hashes a node with its siblings on the sides that are told. -/
def follow (pair : D → D → m D) : List Bool → D → List D → m D
  | left :: turns, node, sibling :: rest => do
      let above ← if left then pair node sibling else pair sibling node
      follow pair turns above rest
  | _, node, _ => pure node

/-- A climb does nothing but follow its turns. -/
theorem climb_eq_follow (pair : D → D → m D) (c : Convention) (index : Int) (node : D)
    (siblings : List D) :
    climb pair c.isLeft c.parent index node siblings =
      follow pair (c.turns index siblings.length) node siblings := by
  induction siblings generalizing index node with
  | nil => rfl
  | cons sibling rest ih =>
      rw [climb, List.length_cons, Convention.turns, follow]
      simp only [ih]

end Peak

/-! ## Stability -/

/-- The leaves of the mountain that a leaf stands in, at its place. -/
def Location.block (place : Location) (leaf : Int) : Set Int :=
  { other | leaf - place.position ≤ other ∧ other < leaf - place.position + 2 ^ place.height }

theorem Location.Holds.block_subset {place place' : Location} {size size' leaf : Nat}
    (h : place.Holds (heights size) leaf) (h' : place'.Holds (heights size') leaf)
    (hle : size ≤ size') : place.block leaf ⊆ place'.block leaf := by
  have hposition := h.position_eq_mod h' hle
  obtain ⟨k, hk⟩ := Nat.exists_eq_add_of_le (h.height_le h' hle)
  -- The new position is the old one behind some whole blocks, and one block more still fits.
  have hquotient : place'.position / 2 ^ place.height < 2 ^ k := by
    rw [Nat.div_lt_iff_lt_mul (Nat.two_pow_pos _), Nat.mul_comm, ← Nat.pow_add, ← hk]
    exact h'.position_lt
  have hsplit := Nat.div_add_mod place'.position (2 ^ place.height)
  rw [← hposition] at hsplit
  have hfits : 2 ^ place.height * (place'.position / 2 ^ place.height) + 2 ^ place.height ≤
      2 ^ place'.height := by
    rw [hk, Nat.pow_add, ← Nat.mul_succ]
    exact Nat.mul_le_mul_left _ hquotient
  have hend : place'.position + 2 ^ place.height ≤ place.position + 2 ^ place'.height := by omega
  have hwidth (place : Location) : ((2 ^ place.height : Nat) : Int) = 2 ^ place.height :=
    Int.natCast_pow 2 place.height
  have hold := hwidth place
  have hnew := hwidth place'
  rintro other ⟨hlow, hhigh⟩
  exact ⟨by omega, by omega⟩

/-- The place of a leaf is stable while the range grows.  In a larger range its mountain is at
least as high, the old position is the new one modulo the old width, the leaves of the old
mountain are leaves of the new one, and under either convention the climb for the smaller size
takes the first turns of the climb for the larger. -/
theorem locateLeaf_stable {leaf size size' : Int} (hleaf : 0 ≤ leaf) (hlt : leaf < size)
    (hle : size ≤ size') :
    ∃ place place', locateLeaf leaf size = .ok place ∧ locateLeaf leaf size' = .ok place' ∧
      place.height ≤ place'.height ∧ place.position = place'.position % 2 ^ place.height ∧
      place.block leaf ⊆ place'.block leaf ∧
      ∀ c : Convention, ∃ start start', climbStart c place.position place.height = .ok start ∧
        climbStart c place'.position place'.height = .ok start' ∧
        c.turns start place.height = (c.turns start' place'.height).take place.height := by
  obtain ⟨place, hfound⟩ := exists_locateLeaf hleaf hlt
  obtain ⟨place', hfound'⟩ := exists_locateLeaf hleaf (Int.lt_of_lt_of_le hlt hle)
  obtain ⟨l, n, rfl, rfl, h⟩ := exists_holds_of_locateLeaf hfound
  obtain ⟨l', n', hl, rfl, h'⟩ := exists_holds_of_locateLeaf hfound'
  obtain rfl := Int.ofNat.inj hl
  have hsizes : n ≤ n' := Int.ofNat_le.mp hle
  have hposition := h.position_eq_mod h' hsizes
  refine ⟨place, place', hfound, hfound', h.height_le h' hsizes, hposition,
    h.block_subset h' hsizes, fun c => ⟨_, _, climbStart_eq h.position_lt,
      climbStart_eq h'.position_lt, ?_⟩⟩
  rw [hposition]
  exact c.turns_start_mod (h.height_le h' hsizes) place'.position

/-- The fifth leaf is alone in the second mountain of a range of five, then in the middle of the
first of nine. -/
theorem locateLeaf_stable_five_to_nine :
    ∃ place place', locateLeaf 4 5 = .ok place ∧ locateLeaf 4 9 = .ok place' ∧
      place = ⟨1, 0, 0⟩ ∧ place' = ⟨0, 3, 4⟩ ∧ place.block 4 ⊆ place'.block 4 ∧
      ∀ c : Convention, ∃ start start', climbStart c place.position place.height = .ok start ∧
        climbStart c place'.position place'.height = .ok start' ∧
        c.turns start place.height = (c.turns start' place'.height).take place.height := by
  obtain ⟨place, place', hfound, hfound', -, -, hblock, hturns⟩ :=
    locateLeaf_stable (by decide : (0 : Int) ≤ 4) (by decide : (4 : Int) < 5)
      (by decide : (5 : Int) ≤ 9)
  have hfirst : locateLeaf 4 5 = .ok ⟨1, 0, 0⟩ := by decide
  have hsecond : locateLeaf 4 9 = .ok ⟨0, 3, 4⟩ := by decide
  exact ⟨place, place', hfound, hfound', (Except.ok.inj (hfirst.symm.trans hfound)).symm,
    (Except.ok.inj (hsecond.symm.trans hfound')).symm, hblock, hturns⟩

end MountainRange
