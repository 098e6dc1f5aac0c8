import MountainRange.Text.Blank
import MountainRange.Text.Digit
import MountainRange.Text.Quoted
set_option autoImplicit false

/-!
# Integer numerals

Reading and writing integers in base ten.  A numeral is an optional sign and
digits of any script, with single underscores allowed between digits, between
blanks.  Numerals of more than 4300 digits are neither read nor written.
-/

namespace MountainRange.Text

/-- Why an integer was not read or written. -/
inductive NumeralError where
  /-- The text is no numeral. -/
  | notNumeral (t : Text)
  /-- The numeral has more digits than are read. -/
  | tooManyDigits (count : Nat)
  /-- The integer has more digits than are written. -/
  | tooLong
  deriving DecidableEq, Repr

namespace Numeral

/-- Greatest number of digits that is read or written. -/
def maxDigits : Nat := 4300

/-! ## Writing -/

/-- The digits of an integer, if there are not too many. -/
def write? (n : Int) : Option String :=
  if n.natAbs < Nat.pow 10 maxDigits then some (toString n) else none

/-- The digits of an integer as a text, if there are not too many. -/
def writeText? (n : Int) : Option Text := (write? n).map Text.of

/-- The message for an integer that is too long to be written. -/
def tooLongMessage : String :=
  s!"Exceeds the limit ({maxDigits} digits) for integer string conversion" ++
    "; use sys.set_int_max_str_digits() to increase the limit"

/-- A message around what is written, or the one for integers too long to be written. -/
def writing (written : Option Text) (message : Text → Text) : Text :=
  match written with
  | some text => message text
  | none => tooLongMessage

/-- A message that shows an integer, or the one for integers too long to be shown. -/
def shown (n : Int) (message : String → String) : String :=
  match write? n with
  | some digits => message digits
  | none => tooLongMessage

/-! ## Reading -/

/-- A letter as the reader sees it: blanks and digits of other scripts in their plain
form, other letters beyond the first 128 as something that fits nowhere. -/
def plain (c : Letter) : Letter :=
  if c.toNat < 0x80 then c
  else if isBlank c then ' '
  else match decimalDigit? c with
    | some d => Nat.digitChar d
    | none => '?'

/-- Digits, and the underscore that may group them. -/
def isRunChar (c : Letter) : Bool := c.isDigit || c = '_'

/-- Whether every underscore of a run stands between two digits and the run is not
empty; `afterDigit` says whether a digit stands in front of it. -/
def wellGrouped (afterDigit : Bool) : Text → Bool
  | [] => afterDigit
  | .char '_' :: rest => afterDigit && wellGrouped false rest
  | _ :: rest => wellGrouped true rest

/-- The number that plain digits spell in base ten. -/
def valueOf (digits : Text) : Nat :=
  digits.foldl (fun acc c => acc * 10 + (c.toNat - 0x30)) 0

/-- The sign in front and what follows it. -/
def splitSign : Text → Bool × Text
  | .char '-' :: rest => (true, rest)
  | .char '+' :: rest => (false, rest)
  | rest => (false, rest)

end Numeral

open Numeral in
/-- Reads an integer numeral. -/
def readInt (t : Text) : Except NumeralError Int :=
  let (negative, body) := splitSign ((t.map plain).dropWhile isPlainBlank)
  let run := body.takeWhile isRunChar
  let digits := run.filter Letter.isDigit
  if !wellGrouped false run then .error (.notNumeral t)
  else if maxDigits < digits.length then .error (.tooManyDigits digits.length)
  else if (body.dropWhile isRunChar).all isPlainBlank then
    .ok (if negative then -(valueOf digits : Int) else valueOf digits)
  else .error (.notNumeral t)

open Numeral in
/-- The text of a numeral error.  A quoted text is cut after 200 characters. -/
def NumeralError.message : NumeralError → Text
  | .notNumeral t => "invalid literal for int() with base 10: " ++ (quoted t).take 200
  | .tooManyDigits count =>
      s!"Exceeds the limit ({maxDigits} digits) for integer string conversion: value has {count}" ++
        " digits; use sys.set_int_max_str_digits() to increase the limit"
  | .tooLong => tooLongMessage

end MountainRange.Text
