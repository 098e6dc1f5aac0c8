import MountainRange.Entries
import MountainRange.Number.Double
import MountainRange.Text.Letter
set_option autoImplicit false

/-!
# Values of no fixed kind

What stands in a data file, a message body or a slot of unchecked input: nothing,
a truth value, a number, a text, or a list or table of these.  Every check of the
library that may meet a value of the wrong kind takes one of these and names the
kind it met.
-/

namespace MountainRange

open Number

/-- A value as a data file can hold it.  The fields of an object keep the order in
which they were first given, and no name occurs twice. -/
inductive Value where
  | null
  | bool (b : Bool)
  | int (n : Int)
  | float (x : Double)
  | text (t : Text)
  | array (items : List Value)
  | object (fields : List (Text × Value))
  deriving Repr, Inhabited

/-- What a value is. -/
inductive Kind where
  | null
  | bool
  | int
  | float
  | text
  | array
  | object
  | wideDigest
  | compactDigest
  deriving DecidableEq, Repr, Inhabited

/-- The word for a kind in messages. -/
def Kind.label : Kind → String
  | .null => "NoneType"
  | .bool => "bool"
  | .int => "int"
  | .float => "float"
  | .text => "str"
  | .array => "list"
  | .object => "dict"
  | .wideDigest => "WideDigest"
  | .compactDigest => "CompactDigest"

namespace Value

/-- The kind of a value. -/
def kind : Value → Kind
  | .null => .null
  | .bool _ => .bool
  | .int _ => .int
  | .float _ => .float
  | .text _ => .text
  | .array _ => .array
  | .object _ => .object

/-- The integer that a value counts as in comparisons, if it counts as one: a truth
value is zero or one, and a float without fraction is its value. -/
def integral? : Value → Option Int
  | .bool b => some b.toInt
  | .int n => some n
  | .float x => x.toInt?
  | _ => none

/-- What iteration over a value yields: the items of an array, the letters of a text and
the names of an object's fields. -/
def iterate? : Value → Option (List Value)
  | .array items => some items
  | .text t => some (t.map fun c => .text [c])
  | .object fields => some (fields.map fun f => .text f.1)
  | _ => none

/-- Whether a value counts as true where a condition is asked for: not nothing, not
zero and not empty. -/
def isTruthy : Value → Bool
  | .null => false
  | .bool b => b
  | .int n => n != 0
  | .float x => x.toInt? != some 0
  | .text t => !t.isEmpty
  | .array items => !items.isEmpty
  | .object fields => !fields.isEmpty

mutual

/-- Whether every float inside a value is finite. -/
def isFinite : Value → Bool
  | .float (.finite ..) => true
  | .float _ => false
  | .array items => areFinite items
  | .object fields => fieldsFinite fields
  | _ => true

/-- Whether every float inside some items is finite. -/
def areFinite : List Value → Bool
  | [] => true
  | v :: rest => isFinite v && areFinite rest

/-- Whether every float inside some fields is finite. -/
def fieldsFinite : List (Text × Value) → Bool
  | [] => true
  | (_, v) :: rest => isFinite v && fieldsFinite rest

end

/-- The value of a named field. -/
def field? (fields : List (Text × Value)) (name : Text) : Option Value :=
  Entries.get? fields name

/-- Sets a field: in its old place if the name occurs, else at the end. -/
def setField (fields : List (Text × Value)) (name : Text) (v : Value) :
    List (Text × Value) := Entries.put fields name v

mutual

/-- Equality of values: numbers by what they are worth, whatever their kind, and
objects whatever the order of their fields. -/
def same : Value → Value → Bool
  | .null, .null => true
  | .text s, .text t => s = t
  | .array xs, .array ys => sameItems xs ys
  | .object xs, .object ys => xs.length = ys.length && sameFields xs ys
  | .float x, .float y => x = y && x != .nan || (x.toInt?.isSome && x.toInt? = y.toInt?)
  | v, w => v.integral?.isSome && v.integral? = w.integral?

/-- Item-wise equality of two lists. -/
def sameItems : List Value → List Value → Bool
  | [], [] => true
  | v :: vs, w :: ws => same v w && sameItems vs ws
  | _, _ => false

/-- Whether every field of the first table has an equal partner in the second. -/
def sameFields : List (Text × Value) → List (Text × Value) → Bool
  | [], _ => true
  | (name, v) :: rest, ys =>
      (match field? ys name with
        | some w => same v w
        | none => false) && sameFields rest ys

end

end Value

end MountainRange
