import Mathlib.Algebra.Group.Nat.Defs
import Mathlib.Logic.Function.Iterate
import MountainRange.Mountain
import MountainRange.Peak
set_option autoImplicit false

/-!
# Climb indices and positions

Both conventions number the nodes of a mountain so that the index of a node tells its
position on its level.  A climb that starts at the index of a position therefore takes
the turns that the binary digits of the position tell, lowest first, and the two
conventions are one climb.  Level by level the index stays that of a position, which
loses its lowest digit, in a mountain that is one level lower.
-/

namespace MountainRange

/-! ## One level -/

namespace Convention

/-- Below the top of a mountain a node stands on the left exactly if its position is
even. -/
theorem isLeft_start (c : Convention) (position height : Nat) :
    c.isLeft (c.start position (height + 1)) = (position % 2 == 0) := by
  cases c with
  | oddIsLeft =>
      rw [isLeft, start, Nat.one_shiftLeft, Nat.pow_succ, Bool.eq_iff_iff]
      simp only [decide_eq_true_eq, beq_iff_eq]
      omega
  | evenIsLeft =>
      rw [isLeft, start, Bool.eq_iff_iff]
      simp only [decide_eq_true_eq, beq_iff_eq]
      omega

/-- The parent of the node at a position has half the position, one level up. -/
theorem parent_start (c : Convention) (position height : Nat) :
    c.parent (c.start position (height + 1)) = c.start (position / 2) height := by
  cases c with
  | oddIsLeft =>
      have hpos : 0 < 2 ^ height := Nat.two_pow_pos height
      simp only [parent, start, Nat.one_shiftLeft, Nat.pow_succ]
      rw [if_neg (by omega)]
      omega
  | evenIsLeft =>
      simp only [parent, start]
      omega

end Convention

/-! ## The whole climb -/

namespace Peak

variable {m : Type → Type} [Monad m] {D : Type}

/-- The climb from a position, which is halved at every level. -/
def ascend (pair : D → D → m D) : Nat → D → List D → m D :=
  climb pair (fun position => position % 2 == 0) (· / 2)

/-- A climb from the index of a position is the climb from that position, whatever the
convention, also if it ends so many levels below the top. -/
theorem climb_start_below (pair : D → D → m D) (c : Convention) (position above : Nat) (node : D)
    (siblings : List D) :
    climb pair c.isLeft c.parent (c.start position (siblings.length + above)) node siblings =
      ascend pair position node siblings := by
  induction siblings generalizing position node with
  | nil => rfl
  | cons sibling rest ih =>
      rw [List.length_cons, Nat.add_right_comm, climb, c.isLeft_start, c.parent_start]
      simp only [ih]
      rfl

/-- A climb to the top from the index of a position is the climb from that position. -/
theorem climb_start (pair : D → D → m D) (c : Convention) (position : Nat) (node : D)
    (siblings : List D) :
    climb pair c.isLeft c.parent (c.start position siblings.length) node siblings =
      ascend pair position node siblings :=
  climb_start_below pair c position 0 node siblings

end Peak

/-- The index at which the climb of a leaf starts exists for every position inside the
mountain. -/
theorem climbStart_eq {c : Convention} {position height : Nat} (h : position < 2 ^ height) :
    climbStart c position height = .ok (c.start position height) := by
  rw [climbStart, if_neg (by omega), if_neg (by omega), Int.toNat_natCast, Int.toNat_natCast,
    Nat.one_shiftLeft, if_neg (by omega)]

/-! ## The way up -/

namespace Convention

/-- A parent taken some levels up is the node at the position that has lost as many digits, in a
mountain that is as many levels lower. -/
theorem iterate_parent_start (c : Convention) (position : Nat) {height level : Nat}
    (h : level ≤ height) :
    c.parent^[level] (c.start position height) =
      c.start (position / 2 ^ level) (height - level) := by
  induction level generalizing position height with
  | zero => rw [Function.iterate_zero_apply, Nat.pow_zero, Nat.div_one, Nat.sub_zero]
  | succ level ih =>
      obtain ⟨height, rfl⟩ := Nat.exists_eq_add_of_le' (Nat.lt_of_lt_of_le (Nat.succ_pos level) h)
      rw [Function.iterate_succ_apply, parent_start, ih (position / 2) (Nat.le_of_succ_le_succ h),
        Nat.div_div_eq_div_mul, Nat.pow_succ', Nat.succ_sub_succ]

/-- Below the top the digit of the position at a level tells the side of the node there. -/
theorem isLeft_start_level (c : Convention) (position : Nat) {height level : Nat}
    (h : level < height) :
    c.isLeft (c.start (position / 2 ^ level) (height - level)) = !position.testBit level := by
  obtain ⟨above, habove⟩ : ∃ above, height - level = above + 1 := ⟨height - level - 1, by omega⟩
  rw [habove, isLeft_start, Nat.testBit_eq_decide_div_mod_eq]
  rcases Nat.mod_two_eq_zero_or_one (position / 2 ^ level) with heven | hodd
  · rw [heven]
    rfl
  · rw [hodd]
    rfl

/-- In the canonical numbering the top of a mountain has the index two, and no node below it a
smaller one. -/
theorem two_le_start_oddIsLeft (position height : Nat) : 2 ≤ oddIsLeft.start position height := by
  have hpos : 0 < 2 ^ height := Nat.two_pow_pos height
  simp only [start, Nat.one_shiftLeft]
  omega

/-- From the index two on a canonical parent has half the index, rounded up. -/
theorem parent_oddIsLeft {index : Int} (h : 2 ≤ index) :
    oddIsLeft.parent index = (index + 1) / 2 := if_neg (by omega)

end Convention

/-- The way of a climb index.  From the index of a position the parent taken some levels up, to the
top at most, is the index of the position without as many of its digits, in a mountain that is as
many levels lower.  Below the top it stands on the left exactly if the digit of the position at that
level is zero.  In the canonical numbering it is never below two, so that the parent of an index is
always half of it, rounded up. -/
theorem iterate_parent_climbStart (c : Convention) {position height level : Nat}
    (hposition : position < 2 ^ height) (hlevel : level ≤ height) :
    ∃ start index, climbStart c position height = .ok start ∧
      climbStart c (position / 2 ^ level : Nat) (height - level : Nat) = .ok index ∧
      c.parent^[level] start = index ∧
      (level < height → (c.isLeft index = true ↔ position.testBit level = false)) ∧
      (c = .oddIsLeft → 2 ≤ index ∧ c.parent index = (index + 1) / 2) := by
  have hbelow : position / 2 ^ level < 2 ^ (height - level) := by
    apply Nat.div_lt_of_lt_mul
    rwa [← Nat.pow_add, Nat.add_sub_cancel' hlevel]
  refine ⟨c.start position height, c.start (position / 2 ^ level) (height - level),
    climbStart_eq hposition, climbStart_eq hbelow, c.iterate_parent_start position hlevel, ?_, ?_⟩
  · intro hunder
    rw [c.isLeft_start_level position hunder, Bool.not_eq_true']
  · rintro rfl
    have htwo := Convention.two_le_start_oddIsLeft (position / 2 ^ level) (height - level)
    exact ⟨htwo, Convention.parent_oddIsLeft htwo⟩

/-- The sixth of eight leaves starts at 14.  Two levels up its index is 4, that of the second of two
leaves, which stands on the right, since the highest digit of its position is one. -/
theorem iterate_parent_climbStart_sixth_of_eight :
    5 < 2 ^ 3 ∧ 2 ≤ 3 ∧ climbStart .oddIsLeft 5 3 = .ok 14 ∧ climbStart .oddIsLeft 1 1 = .ok 4 ∧
      Convention.oddIsLeft.parent^[2] 14 = 4 ∧ 2 < 3 ∧
      (Convention.oddIsLeft.isLeft 4 = true ↔ Nat.testBit 5 2 = false) ∧
      (2 : Int) ≤ 4 ∧ Convention.oddIsLeft.parent 4 = (4 + 1) / 2 := by
  have hposition : 5 < 2 ^ 3 := by decide
  obtain ⟨start, index, hstart, hindex, hparent, hleft, hodd⟩ :=
    iterate_parent_climbStart .oddIsLeft hposition (by decide : 2 ≤ 3)
  obtain rfl : start = 14 := (Except.ok.inj hstart).symm
  obtain rfl : index = 4 := (Except.ok.inj hindex).symm
  exact ⟨hposition, by decide, hstart, hindex, hparent, by decide, hleft (by decide), hodd rfl⟩

end MountainRange
