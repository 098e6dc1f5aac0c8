import MountainRange.Text.Surrogate
import MountainRange.Value
set_option autoImplicit false

/-!
# Writing JSON

A value is written with its fields in their order and every float with the fewest
digits that read back.  A style says how the parts are set apart and whether
characters beyond the first 127 are escaped.
-/

namespace MountainRange.Json

/-- How a value is written. -/
structure Style where
  /-- Between two items. -/
  comma : String
  /-- Between a name and its value. -/
  colon : String
  /-- The spaces of one level, if every item has a line of its own. -/
  indent : Option Nat
  /-- Whether only ASCII is written. -/
  escaped : Bool
  deriving DecidableEq, Repr

namespace Style

/-- On one line, with spaces after commas and colons. -/
def line : Style := ⟨", ", ": ", none, true⟩

/-- Without any blanks, and characters as they are. -/
def compact : Style := ⟨",", ":", none, false⟩

/-- An item on a line of its own, two spaces a level, and characters as they are. -/
def indented : Style := ⟨",", ": ", some 2, false⟩

/-- What separates the inside of a bracket at some level from what is around it. -/
def lineBreak (style : Style) (level : Nat) : Text :=
  match style.indent with
  | none => []
  | some width => '\n' :: List.replicate (level * width) ' '

end Style

/-! ## Strings -/

/-- A numbered escape. -/
def writeUnit (n : Nat) : List Char := '\\' :: 'u' :: Text.hexDigits 4 n

/-- The escape of a letter: one number, or two from the sixteenth bit on. -/
def writeEscape (c : Letter) : List Char :=
  if c.toNat < 0x10000 then writeUnit c.toNat
  else
    let n := c.toNat - 0x10000
    writeUnit (0xD800 + n / 0x400) ++ writeUnit (0xDC00 + n % 0x400)

/-- A letter inside a string. -/
def writeLetter (escaped : Bool) (c : Letter) : Text :=
  if c = '"' ∨ c = '\\' then ['\\', c]
  else if c = '\n' then ['\\', 'n']
  else if c = '\r' then ['\\', 'r']
  else if c = '\t' then ['\\', 't']
  else if c = '\x08' then ['\\', 'b']
  else if c = '\x0c' then ['\\', 'f']
  else if c.toNat < 0x20 ∨ (escaped ∧ 0x7F ≤ c.toNat) then Text.ofChars (writeEscape c)
  else [c]

/-- A string with its quotes. -/
def writeString (escaped : Bool) (t : Text) : Text :=
  "\"" ++ t.flatMap (writeLetter escaped) ++ "\""

/-! ## Values -/

/-- The words for floats that are not finite. -/
def floatWords : Number.Double.Words := ⟨"NaN", "Infinity"⟩

mutual

/-- A value at some level. -/
def writeValue (style : Style) (level : Nat) : Value → Text
  | .null => "null"
  | .bool true => "true"
  | .bool false => "false"
  | .int n => toString n
  | .float x => x.text floatWords
  | .text t => writeString style.escaped t
  | .array [] => "[]"
  | .array (v :: items) =>
      "[" ++ style.lineBreak (level + 1) ++ writeValue style (level + 1) v ++
        writeItems style (level + 1) items ++ style.lineBreak level ++ "]"
  | .object [] => ['\x7b', '\x7d']
  | .object ((name, v) :: fields) =>
      "\x7b" ++ style.lineBreak (level + 1) ++ writeString style.escaped name ++
        style.colon ++ writeValue style (level + 1) v ++
        writeFields style (level + 1) fields ++ style.lineBreak level ++ "\x7d"

/-- Items that follow another, each behind a comma. -/
def writeItems (style : Style) (level : Nat) : List Value → Text
  | [] => []
  | v :: items =>
      style.comma ++ style.lineBreak level ++ writeValue style level v ++
        writeItems style level items

/-- Fields that follow another, each behind a comma. -/
def writeFields (style : Style) (level : Nat) : List (Text × Value) → Text
  | [] => []
  | (name, v) :: fields =>
      style.comma ++ style.lineBreak level ++ writeString style.escaped name ++
        style.colon ++ writeValue style level v ++ writeFields style level fields

end

/-- The text of a value. -/
def write (style : Style) (v : Value) : Text := writeValue style 0 v

end MountainRange.Json
