import MountainRange.Scheme.Checked
import MountainRange.Verdict
set_option autoImplicit false

/-!
# The verdict by checked operations

The gates of the verifier over the digests of a request as they come, of either form.
Every operation is the one for unchecked operands, which looks at what it is given and
has errors of its own, and a peak is looked up in a list that may be too short.  What an
operation refuses breaks the verdict off.
-/

namespace MountainRange

/-- What breaks a verdict off. -/
inductive Breakdown where
  /-- The size cannot be compared with the threshold. -/
  | threshold (kind : Kind)
  /-- A digest is of the other scheme, or the size cannot be embedded. -/
  | scheme (error : SchemeError)
  /-- The mountains fall short of the size, or the climb has no index to start at. -/
  | place (error : MountainError Int)
  /-- There is no peak with this number. -/
  | peakIndex (mountain : Nat)
  deriving Repr

/-- Holds a computed peak against peaks as operands.  By position, a mountain behind all
peaks is refused before its peak is looked up. -/
def PeakMatch.decideChecked (peaks : List Operand) (mountain : Nat) (peak : Operand) :
    PeakMatch → Except Breakdown Outcome
  | .anywhere => .ok (if peaks.any peak.same then .accepted else .rejected .peakAbsent)
  | .positional =>
      if peaks.length ≤ mountain then .ok (.rejected .peakMissing)
      else
        match peaks[mountain]? with
        | none => .error (.peakIndex mountain)
        | some claimed =>
            .ok (if claimed.same peak then .accepted else .rejected (.peakMismatch mountain))

namespace Request

variable {D : Type} (S : Scheme D) (options : Options) (r : Request)

/-- The climb of a request whose leaf stands at some place, by the operations of a
scheme. -/
def judgeClimbChecked (place : Location) : Except Breakdown Outcome :=
  if r.siblings.length ≠ place.height then
    .ok (.rejected (.siblingCount r.siblings.length place.height))
  else do
    let leaf ← (S.checkedLeaf (.digest r.leaf)).mapError .scheme
    let start ← (climbStart options.convention place.position place.height).mapError .place
    let peak ← (S.checkedClimb options.convention (.int start) leaf
      (r.siblings.map .digest)).mapError .scheme
    options.peakMatch.decideChecked (r.peaks.map .digest) place.mountain peak

/-- Passes a request through the gates by the operations of a scheme; `relaxed` leaves
out the number of peaks. -/
def judgePeaksChecked (relaxed : Bool) : Except Breakdown Outcome :=
  let expected := peakCount r.size.toNat
  if relaxed = false ∧ r.peaks.length ≠ expected then
    .ok (.rejected (.peakCount expected r.size r.peaks.length))
  else do
    let root ← (S.checkedRoot (r.peaks.map .digest) (.int r.size.toNat)).mapError .scheme
    if root.same (.digest r.root) = false then .ok (.rejected .rootMismatch)
    else
      match locateLeaf r.leafIndex.toNat r.size.toNat with
      | .error (.leafOutside leaf size) => .ok (.rejected (.leafOutside leaf size))
      | .error e => .error (.place e)
      | .ok place => r.judgeClimbChecked S options place

/-- The verdict on a request by the checked operations of its scheme. -/
def explainChecked (r : Request) (expected : Option Operand) (options : Options) :
    Except Breakdown Outcome :=
  if r.hasLeaf expected = false then .ok (.rejected .unexpectedLeaf)
  else do
    let relaxed ← (options.relaxes r.size r.mode).mapError .threshold
    match r.mode with
    | .wide => r.judgePeaksChecked keccakScheme options relaxed
    | .compact => r.judgePeaksChecked poseidonScheme options relaxed

end Request

end MountainRange
