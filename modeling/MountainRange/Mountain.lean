import MountainRange.Convention
import MountainRange.Text.Numeral
set_option autoImplicit false

/-!
# Mountains

A range of `n` leaves consists of perfect binary trees, the mountains, laid out
from left to right by decreasing height.  Their heights are the positions of the
ones in the binary expansion of `n`, so the number of mountains is the number of
those ones.
-/

namespace MountainRange

open Text.Numeral (writing)

/-- Why a place in a range does not exist.  The numbers are those of the question. -/
inductive MountainError (N : Type) where
  /-- A range has no negative number of leaves. -/
  | negativeSize (size : N)
  /-- The leaf lies outside the range. -/
  | leafOutside (leaf size : N)
  /-- The position lies outside a mountain of this height. -/
  | positionOutside (position height : N)
  /-- No mountain has a negative height. -/
  | negativeHeight
  /-- The mountains hold fewer leaves than the range. -/
  | heightsFallShort
  deriving DecidableEq, Repr

/-- The text of a mountain error.  If one of its numbers cannot be written, that is
said instead. -/
def MountainError.message {N : Type} (write? : N → Option Text) : MountainError N → Text
  | .negativeSize size =>
      writing (write? size) fun size => "Structure size must be non-negative, got " ++ size
  | .leafOutside leaf size =>
      writing (write? leaf) fun leaf => writing (write? size) fun size =>
        "Leaf index " ++ leaf ++ " outside a structure of " ++ size ++ " leaves"
  | .positionOutside position height =>
      writing (write? position) fun position => writing (write? height) fun height =>
        "Position " ++ position ++ " outside a mountain of height " ++ height
  | .negativeHeight => "negative shift count"
  | .heightsFallShort => "mountain widths must sum to mmr_size"

/-! ## Counts and heights -/

/-- Number of ones in the binary expansion. -/
def onesCount (n : Nat) : Nat :=
  if n = 0 then 0 else n % 2 + onesCount (n / 2)
termination_by n
decreasing_by omega

/-- Number of binary digits; zero has none. -/
def binaryLength (n : Nat) : Nat := if n = 0 then 0 else n.log2 + 1

/-- Number of mountains of a range; the sign of the size does not matter. -/
def peakCount (size : Int) : Nat := onesCount size.natAbs

/-- The heights of the mountains of a range, tallest first. -/
def heights (size : Nat) : List Nat :=
  (List.range (binaryLength size)).reverse.filter size.testBit

/-- The heights of the mountains of a range of any size. -/
def mountainHeights (size : Int) : Except (MountainError Int) (List Nat) :=
  if size < 0 then .error (.negativeSize size) else .ok (heights size.toNat)

/-! ## Leaves -/

/-- The place of a leaf: which mountain holds it, how high that mountain is, and
where the leaf stands inside it. -/
structure Location where
  mountain : Nat
  height : Nat
  position : Nat
  deriving DecidableEq, Repr, Inhabited

/-- Walks along the mountains until the leaf falls inside one; `mountain` counts
those passed, and `leaf` is counted from the foot of the next. -/
def locateAmong : List Nat → (mountain leaf : Nat) → Option Location
  | [], _, _ => none
  | height :: rest, mountain, leaf =>
      if leaf < 1 <<< height then some ⟨mountain, height, leaf⟩
      else locateAmong rest (mountain + 1) (leaf - 1 <<< height)

/-- The place of a leaf, counted from zero, in a range of some size. -/
def locateLeaf (leaf size : Int) : Except (MountainError Int) Location :=
  if leaf < 0 ∨ size ≤ leaf then .error (.leafOutside leaf size)
  else
    match locateAmong (heights size.toNat) 0 leaf.toNat with
    | some location => .ok location
    | none => .error .heightsFallShort

/-- The climb index of the leaf at a position inside a mountain. -/
def climbStart (convention : Convention) (position height : Int) : Except (MountainError Int) Int :=
  if position < 0 then .error (.positionOutside position height)
  else if height < 0 then .error .negativeHeight
  else if (1 <<< height.toNat : Nat) ≤ position then .error (.positionOutside position height)
  else .ok (convention.start position.toNat height.toNat)

end MountainRange
