import MountainRange.Number.Double
set_option autoImplicit false

/-!
# Quantities

An integer or a double, where either may be asked for.  Quantities compare by what
they are worth.  Sums and halves of doubles are exact rationals that are rounded
once, so they are the doubles nearest to the true results.
-/

namespace MountainRange.Number

namespace Double

/-- The sign of a double; a zero has one too. -/
def hasSign : Double → Bool
  | .nan => false
  | .infinity negative => negative
  | .finite negative .. => negative

/-- The number that a finite double is. -/
def toRat? : Double → Option Rat
  | .nan => none
  | .infinity _ => none
  | .finite negative m e _ =>
      let r := scaled m 2 e
      some (mkRat (signed negative r.1) r.2)

/-- The double nearest to a rational; a zero takes the given sign. -/
def ofRat (zeroSign : Bool) (q : Rat) : Double :=
  ofRatio (if q.num = 0 then zeroSign else q.num < 0) q.num.natAbs q.den

/-- The double nearest to an integer, unless the integer is too great for all. -/
def ofInt? (n : Int) : Option Double :=
  match ofRat false n with
  | .infinity _ => none
  | x => some x

/-- The same magnitude with the other sign. -/
def negate : Double → Double
  | .nan => .nan
  | .infinity negative => .infinity !negative
  | .finite negative m e h => .finite (!negative) m e h

/-- The sum of two doubles.  A sum of zero is negative only if both summands are. -/
def add (x y : Double) : Double :=
  match x.toRat?, y.toRat? with
  | some p, some q => ofRat (x.hasSign && y.hasSign) (p + q)
  | some _, none => y
  | none, some _ => x
  | none, none => if x = y then x else .nan

/-- Half of a double, rounded down to an integer. -/
def half (x : Double) : Double :=
  match x.toRat? with
  | some q => ofRat x.hasSign (q / 2).floor
  | none => .nan

/-- What is left of a double when all twos are taken from it. -/
def parity (x : Double) : Double :=
  match x.toRat? with
  | some q => ofRat false (q - 2 * (q / 2).floor)
  | none => .nan

end Double

/-- An integer or a double. -/
inductive Quantity where
  | int (n : Int)
  | float (x : Double)
  deriving DecidableEq, Repr

namespace Quantity

/-- Where a quantity stands among all: at one of the two ends, or between them at the
number it is. -/
def place? : Quantity → Option (Int × Rat)
  | .int n => some (0, n)
  | .float (.infinity negative) => some (if negative then -1 else 1, 0)
  | .float x => x.toRat?.map ((0, ·))

/-- Whether a quantity is less than another. -/
def isBelow (a b : Quantity) : Bool :=
  match a.place?, b.place? with
  | some (i, p), some (j, q) => i < j || (i = j && p < q)
  | _, _ => false

/-- Whether a quantity is less than another or equal to it. -/
def isAtMost (a b : Quantity) : Bool :=
  match a.place?, b.place? with
  | some (i, p), some (j, q) => i < j || (i = j && p ≤ q)
  | _, _ => false

/-- The sum of a quantity and a small natural. -/
def plus (q : Quantity) (n : Nat) : Quantity :=
  match q with
  | .int m => .int (m + n)
  | .float x => .float (x.add (.ofRat false n))

/-- Twice a quantity. -/
def twice : Quantity → Quantity
  | .int n => .int (2 * n)
  | .float x => .float (x.add x)

end Quantity

end MountainRange.Number
