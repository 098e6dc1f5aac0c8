import MountainRange.Text.Letter
set_option autoImplicit false

/-!
# Classes of letters by number

A class of letters is given as a list of closed ranges of their numbers, in increasing
order.
-/

namespace MountainRange.Text

/-- A closed range of numbers. -/
abbrev Range := Nat × Nat

/-- The range that holds a letter, if there is one. -/
def rangeOf? (table : List Range) (c : Letter) : Option Range :=
  table.find? fun r => r.1 ≤ c.toNat && c.toNat ≤ r.2

/-- Whether one of the ranges holds a letter. -/
def inRanges (table : List Range) (c : Letter) : Bool := (rangeOf? table c).isSome

end MountainRange.Text
