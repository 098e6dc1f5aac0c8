import MountainRange.Text.Letter
set_option autoImplicit false

/-!
# Base sixteen

Digits, their values, and numbers written with a fixed or a least number of
digits.
-/

namespace MountainRange.Text

/-- The value of a hexadecimal digit in either case. -/
def hexDigit? (c : Letter) : Option Nat :=
  if c.isDigit then some (c.toNat - 0x30)
  else if 'a' ≤ c ∧ c ≤ 'f' then some (c.toNat - 0x61 + 10)
  else if 'A' ≤ c ∧ c ≤ 'F' then some (c.toNat - 0x41 + 10)
  else none

/-- Whether a character is a hexadecimal digit. -/
def isHexDigit (c : Letter) : Bool := (hexDigit? c).isSome

/-- The number that hexadecimal digits spell. -/
def hexValue (digits : Text) : Nat :=
  digits.foldl (fun acc c => acc * 16 + (hexDigit? c).getD 0) 0

/-- The last `width` hexadecimal digits of a number, in lower case. -/
def hexDigits : (width : Nat) → (n : Nat) → List Char
  | 0, _ => []
  | width + 1, n => hexDigits width (n / 16) ++ [Nat.digitChar (n % 16)]

/-- All hexadecimal digits of a number, with zeros in front up to `width`. -/
def hexPadded (width n : Nat) : List Char :=
  let digits := Nat.toDigits 16 n
  List.replicate (width - digits.length) '0' ++ digits

@[simp] theorem length_hexDigits (width n : Nat) : (hexDigits width n).length = width := by
  induction width generalizing n with
  | zero => rfl
  | succ width ih => simp [hexDigits, ih]

end MountainRange.Text
