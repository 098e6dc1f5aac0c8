import MountainRange.Mountain
import MountainRange.Number.Quantity
import MountainRange.Value.Quoted
set_option autoImplicit false

/-!
# Unchecked questions about a range

The places of a range for callers whose numbers may be doubles, truth values or no
numbers at all.  A truth value counts as zero or one.  An integer gets the answer of
the integers; a double gets the same steps in its own arithmetic.
-/

namespace MountainRange

open Number

/-- Why a question about a range has no answer. -/
inductive QuestionError where
  /-- What was given is no number, or no integer where one is needed. -/
  | kind (kind : Kind)
  /-- A double has no binary digits to read heights from. -/
  | digitless
  /-- The number of leaves is more than a double or an integer can be. -/
  | tooGreat
  /-- The number of leaves has more digits than can be held. -/
  | tooLarge
  /-- The place does not exist. -/
  | place (error : MountainError Value)
  deriving Repr

namespace Value

/-- The number a value is worth. -/
def quantity? : Value → Except QuestionError Quantity
  | .bool b => .ok (.int b.toInt)
  | .int n => .ok (.int n)
  | .float x => .ok (.float x)
  | v => .error (.kind v.kind)

/-- The integer a value is worth, if it is an integer or a truth value. -/
def whole? : Value → Except QuestionError Int
  | .bool b => .ok b.toInt
  | .int n => .ok n
  | v => .error (.kind v.kind)

/-- A quantity as a value. -/
def ofQuantity : Quantity → Value
  | .int n => .int n
  | .float x => .float x

/-- A value as messages show it, unless it is an integer of too many digits. -/
def written? : Value → Option Text
  | .int n => Text.Numeral.writeText? n
  | v => some v.shown

end Value

/-! ## Climb indices -/

namespace Convention

/-- Whether the node with an index of any kind is a left child. -/
def isLeftAt : Convention → Quantity → Bool
  | c, .int n => c.isLeft n
  | .oddIsLeft, .float x => x.parity.toInt? = some 1
  | .evenIsLeft, .float x => x.parity.toInt? = some 0

/-- The index of the parent of the node with an index of any kind. -/
def parentAt : Convention → Quantity → Quantity
  | c, .int n => .int (c.parent n)
  | .oddIsLeft, .float x =>
      if (Quantity.float x).isAtMost (.int 1) then .int 0
      else .float (x.add (.ofRat false 1)).half
  | .evenIsLeft, .float x => .float x.half

/-- Whether the node with this value for its index is a left child. -/
def isLeftValue (c : Convention) (index : Value) : Except QuestionError Bool :=
  index.quantity?.map c.isLeftAt

/-- The parent of the node with this value for its index. -/
def parentValue (c : Convention) (index : Value) : Except QuestionError Value :=
  index.quantity?.map (.ofQuantity ∘ c.parentAt)

/-- The index of the leaf at a position of any kind, in a mountain of so many leaves. -/
def startAt (leaves : Int) : Convention → Value → Except QuestionError Value
  | .evenIsLeft, position => .ok position
  | .oddIsLeft, .float x =>
      match Double.ofInt? leaves with
      | some y => .ok (.float ((y.add x).add (.ofRat false 1)))
      | none => .error .tooGreat
  | .oddIsLeft, position => position.whole?.map fun n => .int (leaves + n + 1)

end Convention

/-! ## Heights -/

/-- Greatest height whose number of leaves is worked out. -/
def maxHeight : Nat := 1 <<< 33

/-- Least height whose number of leaves has more digits than an integer may have. -/
def boundHeight : Nat := 30 <<< 61

/-- The number of leaves of a mountain of some height. -/
def leavesOf (height : Int) : Except QuestionError Int :=
  if height < 0 then .error (.place .negativeHeight)
  else if boundHeight ≤ height then .error .tooGreat
  else if maxHeight < height then .error .tooLarge
  else .ok (1 <<< height.toNat : Nat)

/-- The climb index of the leaf at a position inside a mountain, both of any kind.  The
position is held against zero before the height is looked at. -/
def climbStartValue (convention : Convention) (position height : Value) :
    Except QuestionError Value := do
  let q ← position.quantity?
  if q.isBelow (.int 0) then throw (.place (.positionOutside position height))
  let leaves ← leavesOf (← height.whole?)
  if (Quantity.int leaves).isAtMost q then throw (.place (.positionOutside position height))
  convention.startAt leaves position

/-- Number of mountains of a range of a size of any kind. -/
def peakCountValue (size : Value) : Except QuestionError Nat := size.whole?.map peakCount

/-- The heights of the mountains of a range of a size of any kind. -/
def mountainHeightsValue (size : Value) : Except QuestionError (List Nat) := do
  let q ← size.quantity?
  if q.isBelow (.int 0) then throw (.place (.negativeSize size))
  match q with
  | .int n => return heights n.toNat
  | .float _ => throw .digitless

/-! ## Leaves -/

/-- The place of a leaf whose index is of any kind: which mountain holds it, how high
that mountain is, and where the leaf stands inside it. -/
structure Spot where
  mountain : Nat
  height : Nat
  position : Quantity
  deriving DecidableEq, Repr

/-- The spot of a leaf among mountains.  A double falls into the mountain of the integer
below it, and into none if it is no number. -/
def spotAmong (heights : List Nat) : Quantity → Option Spot
  | .int n => do
      let place ← locateAmong heights 0 n.toNat
      return ⟨place.mountain, place.height, .int place.position⟩
  | .float x => do
      let below := (← x.toRat?).floor
      let place ← locateAmong heights 0 below.toNat
      let foot ← Double.ofInt? (below - place.position)
      return ⟨place.mountain, place.height, .float (x.add foot.negate)⟩

/-- The place of a leaf in a range of some size, both of any kind. -/
def locateLeafValue (leaf size : Value) : Except QuestionError Spot := do
  let q ← leaf.quantity?
  if q.isBelow (.int 0) then throw (.place (.leafOutside leaf size))
  if (← size.quantity?).isAtMost q then throw (.place (.leafOutside leaf size))
  match spotAmong (← mountainHeightsValue size) q with
  | some spot => return spot
  | none => throw (.place .heightsFallShort)

end MountainRange
