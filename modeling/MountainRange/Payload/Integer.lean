import MountainRange.Text.Blank
import MountainRange.Text.Numeral
import MountainRange.Payload.Issue
set_option autoImplicit false

/-!
# Integers in payloads

A field that asks for an integer also takes a truth value, a float without fraction
and a text that spells an integer.  Such a text may have blanks around it, a sign,
zeros in front, single underscores between digits and a fraction of zeros.
-/

namespace MountainRange.Payload

/-! ## Texts -/

/-- Whether a character may stand around a numeral. -/
def isAround (c : Letter) : Bool := Text.isBlank c && !(0x1C ≤ c.toNat && c.toNat ≤ 0x1F)

/-- The text without the blanks at both its ends. -/
def trimAround (t : Text) : Text :=
  ((t.dropWhile isAround).reverse.dropWhile isAround).reverse

/-- What a plain numeral comes to. -/
inductive Plain where
  | integer (n : Int)
  | tooLarge
  | other
  deriving DecidableEq, Repr

/-- Greatest number of characters in a plain numeral. -/
def maxPlain : Nat := 4300

/-- Reads a plain numeral: an optional minus, and digits that do not start with zero
unless there is just one.  Too many of them are told from what is no numeral, whatever
follows them. -/
def readPlain (t : Text) : Plain :=
  let (negative, body) := match t with
    | .char '-' :: rest => (true, rest)
    | t => (false, t)
  let digits := body.takeWhile Letter.isDigit
  if digits.isEmpty || (digits.head? = some '0' && 1 < digits.length) then .other
  else if maxPlain < t.length - body.length + digits.length then .tooLarge
  else if digits.length < body.length then .other
  else .integer (Number.Double.signed negative (Text.Numeral.valueOf digits))

/-- Drops the zeros in front of other digits, and the underscores between them; of
zeros alone the last character stays.  A minus may follow them. -/
def dropZeros : (last : Letter) → Text → Option Text
  | last, [] => some [last]
  | last, c :: rest =>
      if c = '0' ∨ c = '_' then dropZeros c rest
      else if c.isDigit || c = '-' then some (c :: rest)
      else if c = '.' then some (last :: c :: rest)
      else none

/-- A numeral from its first digit on that is needed. -/
def fromFirstDigit : Text → Option Text
  | [] => none
  | c :: rest =>
      if c = '0' then dropZeros c rest
      else if c.isDigit then some (c :: rest)
      else none

/-- A numeral behind its minus, if it has one, from its first digit on that is needed. -/
def fromSign : Text → Option Text
  | .char '-' :: rest => (fromFirstDigit rest).map ('-' :: ·)
  | t => fromFirstDigit t

/-- Whether a letter is the point. -/
def isPoint (c : Letter) : Bool := c = '.'

/-- Drops a fraction that is made up of zeros. -/
def dropFraction (t : Text) : Text :=
  let whole := t.takeWhile (!isPoint ·)
  match t.drop whole.length with
  | _ :: c :: fraction => if (c :: fraction).all (· = '0') then whole else t
  | _ => t

/-- Whether two underscores follow each other. -/
def hasDouble : Text → Bool
  | .char '_' :: .char '_' :: _ => true
  | _ :: rest => hasDouble rest
  | [] => false

/-- Drops the underscores of a numeral that starts and ends with none and has no two
in a row. -/
def dropUnderscores (t : Text) : Text :=
  if t.head? = some '_' ∨ t.getLast? = some '_' ∨ hasDouble t then t
  else t.filter fun (c : Letter) => c ≠ '_'

/-- A numeral without its plus sign, which no minus may follow. -/
def dropPlus : Text → Option Text
  | .char '+' :: .char '-' :: _ => none
  | .char '+' :: rest => some rest
  | t => some t

/-- The plain numeral that a numeral stands for. -/
def plainForm (t : Text) : Option Text := do
  let t ← fromSign (← dropPlus t)
  return dropUnderscores (dropFraction t)

/-- The integer that a text spells. -/
def integerOfText (t : Text) : Except Complaint Int :=
  if t.any Letter.isSurrogate then .error .unencodable
  else match readPlain t with
  | .integer n => .ok n
  | .tooLarge => .error .integerSize
  | .other =>
      match (plainForm (trimAround t)).map readPlain with
      | some (.integer n) => .ok n
      | _ => .error .integerText

/-! ## Values -/

/-- The integer that a float is, if it is one of 64 bits. -/
def integerOfFloat (x : Number.Double) : Except Complaint Int :=
  match x with
  | .nan => .error .notFinite
  | .infinity _ => .error .notFinite
  | x =>
      match x.toInt? with
      | none => .error .fraction
      | some n => if n.natAbs < 1 <<< 63 then .ok n else .error .integerSize

/-- The integer that a value stands for. -/
def integerOf : Value → Except Complaint Int
  | .int n => .ok n
  | .bool b => .ok b.toInt
  | .float x => integerOfFloat x
  | .text t => integerOfText t
  | _ => .error .integerKind

end MountainRange.Payload
