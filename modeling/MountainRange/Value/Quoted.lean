import MountainRange.Text.Quoted
import MountainRange.Value
set_option autoImplicit false

/-!
# Values in messages

A value is quoted with all texts in quotes, and shown with a text that stands alone
as it is.
-/

namespace MountainRange.Value

/-- The words that messages use for floats that are not finite. -/
def floatWords : Number.Double.Words := ⟨"nan", "inf"⟩

mutual

/-- A value as messages quote it. -/
def quoted : Value → Text
  | .null => "None"
  | .bool true => "True"
  | .bool false => "False"
  | .int n => toString n
  | .float x => x.text floatWords
  | .text t => Text.quoted t
  | .array items => "[" ++ quotedItems items ++ "]"
  | .object fields => "\x7b" ++ quotedFields fields ++ "\x7d"

/-- Items, separated by commas. -/
def quotedItems : List Value → Text
  | [] => ""
  | [v] => quoted v
  | v :: w :: rest => quoted v ++ ", " ++ quotedItems (w :: rest)

/-- Fields, separated by commas. -/
def quotedFields : List (Text × Value) → Text
  | [] => ""
  | [(name, v)] => Text.quoted name ++ ": " ++ quoted v
  | (name, v) :: next :: rest =>
      Text.quoted name ++ ": " ++ quoted v ++ ", " ++ quotedFields (next :: rest)

end

/-- A value as messages show it. -/
def shown : Value → Text
  | .text t => t
  | v => v.quoted

end MountainRange.Value
