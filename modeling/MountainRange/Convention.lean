import MountainRange.Text.Letter
set_option autoImplicit false

/-!
# Climb indices

A climb goes from a leaf to the top of its mountain and carries an index whose
parity says on which side the climbing node stands.  Two conventions are in use.
In the canonical one the leaves of a mountain of height `h` are numbered
`2^h + 1 … 2^h + 2^h`, odd indices stand on the left, and a parent has half the
index, rounded up.  In the other the leaves are numbered from zero, even indices
stand on the left, and a parent has half the index, rounded down.
-/

namespace MountainRange

/-- Which climb indices stand on the left. -/
inductive Convention where
  | oddIsLeft
  | evenIsLeft
  deriving DecidableEq, Repr, Inhabited

namespace Convention

/-- The name of a convention in settings. -/
def label : Convention → String
  | .oddIsLeft => "odd-is-left"
  | .evenIsLeft => "even-is-left"

/-- All conventions. -/
def all : List Convention := [.oddIsLeft, .evenIsLeft]

/-- The convention of a name. -/
def ofLabel? (t : Text) : Option Convention := all.find? fun c => t = c.label

/-- Whether the node with this index is a left child. -/
def isLeft : Convention → Int → Bool
  | .oddIsLeft, i => i % 2 = 1
  | .evenIsLeft, i => i % 2 = 0

/-- The index of the parent.  In the canonical numbering every index up to one has
the parent zero. -/
def parent : Convention → Int → Int
  | .oddIsLeft, i => if i ≤ 1 then 0 else (i + 1) / 2
  | .evenIsLeft, i => i / 2

/-- The index of the leaf at a position inside a mountain of some height. -/
def start : Convention → (position height : Nat) → Int
  | .oddIsLeft, position, height => (1 <<< height + position + 1 : Nat)
  | .evenIsLeft, position, _ => position

end Convention

end MountainRange
