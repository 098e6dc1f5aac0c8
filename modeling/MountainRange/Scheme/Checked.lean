import MountainRange.Mountain.Checked
import MountainRange.Peak
import MountainRange.Scheme
set_option autoImplicit false

/-!
# Operations on unchecked operands

The operations of a scheme for callers whose operands may be of the other scheme, or
no digests at all.  Every operand that is about to be hashed is checked, so nothing
of one scheme is ever hashed under the other.
-/

namespace MountainRange.Scheme

variable {D : Type} (S : Scheme D)

/-- An operand of the scheme. -/
def operand (d : D) : Operand := .digest (S.toDigest d)

/-- The digest that an operand is. -/
def checkOne (x : Operand) : Except SchemeError D :=
  match S.ofOperand? x with
  | some d => .ok d
  | none => .error (.mismatch S.mode x.kind)

/-- The digests that operands are; the first that is none is named. -/
def check (xs : List Operand) : Except SchemeError (List D) := xs.mapM S.checkOne

/-- Hashes a pair of operands. -/
def checkedPair (left right : Operand) : Except SchemeError Operand := do
  let left ← S.checkOne left
  let right ← S.checkOne right
  return S.operand (S.pair left right)

/-- Hashes a sequence of operands. -/
def checkedMany (xs : List Operand) : Except SchemeError Operand := do
  return S.operand (S.many (← S.check xs))

/-- Hashes a raw leaf value. -/
def checkedLeaf (x : Operand) : Except SchemeError Operand := S.checkedMany [x]

/-- Bags operands.  A single one is handed back as it is. -/
def checkedBag (peaks : List Operand) : Except SchemeError Operand :=
  Peak.bag S.checkedPair (S.operand S.zero) peaks

/-- Climbs along operands from an index of any kind.  Without siblings the leaf is
handed back as it is, and the index does not matter. -/
def checkedClimb (convention : Convention) (index : Value) (leaf : Operand)
    (siblings : List Operand) : Except SchemeError Operand :=
  match index.quantity? with
  | .ok q => Peak.climb S.checkedPair convention.isLeftAt convention.parentAt q leaf siblings
  | .error _ => if siblings.isEmpty then .ok leaf else .error (.indexKind index.kind)

/-- The root over operands for a size of any kind: the peaks are checked first, then
the size. -/
def checkedRoot (peaks : List Operand) (size : Value) : Except SchemeError Operand := do
  let peaks ← S.check peaks
  let size ← S.embedValue? size
  return S.operand (Id.run (Peak.root (fun a b => pure (S.pair a b)) S.zero size peaks))

end MountainRange.Scheme
