import MountainRange.Inclusion
import MountainRange.Mountain
import MountainRange.Options
import MountainRange.Scheme.Hashing
set_option autoImplicit false

/-!
# The verdict on a proof

A proof passes four gates: its leaf is the one expected, its peaks are as many as
its size asks for and bag to its root, its siblings are as many as the mountain of
the leaf is high, and the climb ends at the peak of that mountain.  The verdict names
the gate that refused.  What a constructed request cannot run into is an outcome of
its own, a fault.
-/

namespace MountainRange

/-- The gate that refused a proof. -/
inductive Rejection where
  /-- The leaf is not the expected one. -/
  | unexpectedLeaf
  /-- The number of peaks is not the one that the size asks for. -/
  | peakCount (expected : Nat) (size : UInt64) (got : Nat)
  /-- The peaks do not come to the root. -/
  | rootMismatch
  /-- The index is that of no leaf. -/
  | leafOutside (leaf size : Int)
  /-- The number of siblings is not the height of the mountain. -/
  | siblingCount (got height : Nat)
  /-- The climb ends at none of the peaks. -/
  | peakAbsent
  /-- There is no peak for the mountain of the leaf. -/
  | peakMissing
  /-- The climb does not end at the peak of its mountain. -/
  | peakMismatch (mountain : Nat)
  deriving DecidableEq, Repr

/-- The text of a rejection. -/
def Rejection.message : Rejection → Text
  | .unexpectedLeaf => "leaf does not match the expected leaf"
  | .peakCount expected size got => s!"expected {expected} peaks for size {size.toNat}, got {got}"
  | .rootMismatch => "peaks do not bag to the claimed root"
  | .leafOutside leaf size => (MountainError.leafOutside leaf size).message Text.Numeral.writeText?
  | .siblingCount got height => s!"sibling path has {got} entries, mountain height is {height}"
  | .peakAbsent => "computed peak is not in the peak set"
  | .peakMissing => "peak set has no entry for the leaf's mountain"
  | .peakMismatch mountain => s!"computed peak does not match peak {mountain}"

/-- The verdict on a proof. -/
inductive Outcome where
  | accepted
  | rejected (rejection : Rejection)
  deriving DecidableEq, Repr

namespace Outcome

/-- Whether the proof is accepted. -/
def isValid : Outcome → Bool
  | .accepted => true
  | .rejected _ => false

/-- The text of a verdict. -/
def reason : Outcome → Text
  | .accepted => "proof valid"
  | .rejected rejection => rejection.message

/-- The result code of a verdict: zero for an accepted proof, else one. -/
def code (o : Outcome) : Nat := if o.isValid then 0 else 1

end Outcome

/-- What keeps the verifier from a verdict. -/
inductive Fault where
  /-- The size cannot be compared with the threshold. -/
  | threshold (kind : Kind)
  /-- The leaf has no place although its index is below the size. -/
  | place (error : MountainError Int)
  deriving DecidableEq, Repr

/-- The text of a fault. -/
def Fault.message : Fault → Text
  | .threshold kind => s!"'<' not supported between instances of 'int' and '{kind.label}'"
  | .place error => error.message Text.Numeral.writeText?

/-- Whether the number of peaks goes unchecked: only under the compact scheme, and
only below the threshold. -/
def Options.relaxes (options : Options) (size : UInt64) : Mode → Except Kind Bool
  | .wide => .ok false
  | .compact => options.relaxBelow.covers size

/-- Holds a computed peak against the peaks of a proof. -/
def PeakMatch.decide {D : Type} [DecidableEq D] (peaks : List D) (mountain : Nat) (peak : D) :
    PeakMatch → Outcome
  | .anywhere => if peak ∈ peaks then .accepted else .rejected .peakAbsent
  | .positional =>
      match peaks[mountain]? with
      | none => .rejected .peakMissing
      | some claimed => if claimed = peak then .accepted else .rejected (.peakMismatch mountain)

namespace Inclusion

variable {m : Type → Type} [Monad m] {D : Type} [DecidableEq D]

/-- The climb of a proof whose leaf stands at some place, and what it proves. -/
def judgeClimb (H : Hashing m D) (options : Options) (proof : Inclusion D) (place : Location) :
    m (Except Fault Outcome) :=
  if proof.siblings.length ≠ place.height then
    pure (.ok (.rejected (.siblingCount proof.siblings.length place.height)))
  else
    match climbStart options.convention place.position place.height with
    | .error e => pure (.error (.place e))
    | .ok start => do
        let leaf ← H.leaf proof.leaf
        let peak ← Peak.climb H.pair options.convention.isLeft options.convention.parent start
          leaf proof.siblings
        pure (.ok (options.peakMatch.decide proof.peaks place.mountain peak))

/-- Passes a proof through the gates; `relaxed` leaves out the number of peaks. -/
def judgePeaks (H : Hashing m D) (options : Options) (relaxed : Bool) (proof : Inclusion D) :
    m (Except Fault Outcome) :=
  let expected := peakCount proof.size.toNat
  if relaxed = false ∧ proof.peaks.length ≠ expected then
    pure (.ok (.rejected (.peakCount expected proof.size proof.peaks.length)))
  else do
    let root ← Peak.root H.pair H.zero (H.embed proof.size) proof.peaks
    if root ≠ proof.root then pure (.ok (.rejected .rootMismatch))
    else
      match locateLeaf proof.leafIndex.toNat proof.size.toNat with
      | .error (.leafOutside leaf size) => pure (.ok (.rejected (.leafOutside leaf size)))
      | .error e => pure (.error (.place e))
      | .ok place => judgeClimb H options proof place

/-- The verdict on a proof under a scheme.  `expected` says whether its leaf is the
one expected. -/
def judge (H : Hashing m D) (mode : Mode) (options : Options) (expected : Bool)
    (proof : Inclusion D) : m (Except Fault Outcome) :=
  if expected = false then pure (.ok (.rejected .unexpectedLeaf))
  else
    match options.relaxes proof.size mode with
    | .error kind => pure (.error (.threshold kind))
    | .ok relaxed => judgePeaks H options relaxed proof

end Inclusion

namespace Request

/-- Whether the leaf of a request is the one expected, if one is. -/
def hasLeaf (r : Request) : Option Operand → Bool
  | none => true
  | some x => x.same (.digest r.leaf)

/-- The verdict on a request. -/
def explain (r : Request) (expected : Option Operand) (options : Options) :
    Except Fault Outcome :=
  match r with
  | .wide proof =>
      Id.run (proof.judge keccakScheme.hashing .wide options (r.hasLeaf expected))
  | .compact proof =>
      Id.run (proof.judge poseidonScheme.hashing .compact options (r.hasLeaf expected))

/-- The root that the peaks of a request come to. -/
def computedRoot : Request → Digest
  | .wide proof =>
      let H := keccakScheme.hashing
      .wide (Id.run (Peak.root H.pair H.zero (H.embed proof.size) proof.peaks))
  | .compact proof =>
      let H := poseidonScheme.hashing
      .compact (Id.run (Peak.root H.pair H.zero (H.embed proof.size) proof.peaks))

end Request

end MountainRange
