import MountainRange.Convention
import MountainRange.Value
set_option autoImplicit false

/-!
# Options of the verifier

How the computed peak is matched, which convention the climb follows, and below
which size the number of peaks is left unchecked.
-/

namespace MountainRange

/-- Where the computed peak has to stand among the peaks. -/
inductive PeakMatch where
  /-- At the place of the leaf's mountain. -/
  | positional
  /-- Anywhere; for proofs of older generators. -/
  | anywhere
  deriving DecidableEq, Repr, Inhabited

namespace PeakMatch

/-- The name of a matching in settings. -/
def label : PeakMatch → String
  | .positional => "positional"
  | .anywhere => "anywhere"

/-- All matchings. -/
def all : List PeakMatch := [.positional, .anywhere]

/-- The matching of a name. -/
def ofLabel? (t : Text) : Option PeakMatch := all.find? fun m => t = m.label

end PeakMatch

/-- The bound below which the number of peaks of a compact proof is not checked. -/
inductive Threshold where
  /-- Sizes below an integer. -/
  | below (n : Int)
  /-- All sizes. -/
  | always
  /-- A value that is not comparable with a size. -/
  | incomparable (kind : Kind)
  deriving DecidableEq, Repr, Inhabited

namespace Threshold

/-- The bound that a value is.  The sizes below a fraction are those below the next
integer, and no size is below what is not a number. -/
def ofValue : Value → Threshold
  | .bool b => .below b.toInt
  | .int n => .below n
  | .float x =>
      match x.ceiling? with
      | some n => .below n
      | none => if x.isAbove 0 then .always else .below 0
  | v => .incomparable v.kind

/-- Whether a size lies below a bound, unless they cannot be compared. -/
def covers (size : UInt64) : Threshold → Except Kind Bool
  | .below n => .ok (size.toNat < n)
  | .always => .ok true
  | .incomparable kind => .error kind

end Threshold

/-- The options of the verifier. -/
structure Options where
  peakMatch : PeakMatch := .positional
  convention : Convention := .oddIsLeft
  relaxBelow : Threshold := .below 0
  deriving DecidableEq, Repr, Inhabited

end MountainRange
