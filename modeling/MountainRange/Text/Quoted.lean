import MountainRange.Text.Hex
import MountainRange.Text.Printable
set_option autoImplicit false

/-!
# Quoted text

The form in which messages quote a text: between single quotes, or between double
quotes when that saves escaping, with every character that would not show, and the
backslash and the quote itself, written as an escape.
-/

namespace MountainRange.Text.Quoted

/-- The single quote. -/
def single : Letter := .ofNat 0x27

/-- The double quote. -/
def double : Letter := .ofNat 0x22

/-- The backslash. -/
def backslash : Letter := .ofNat 0x5C

/-- Double quotes are chosen for a text that holds single quotes and no double one. -/
def mark (t : Text) : Letter :=
  if single ∈ t ∧ double ∉ t then double else single

/-- A letter that would not show, by its number. -/
def escape (c : Letter) : Text :=
  if c.toNat < 0x100 then backslash :: ofChars ('x' :: hexDigits 2 c.toNat)
  else if c.toNat < 0x10000 then backslash :: ofChars ('u' :: hexDigits 4 c.toNat)
  else backslash :: ofChars ('U' :: hexDigits 8 c.toNat)

/-- A letter between the quotes. -/
def encodeLetter (quote c : Letter) : Text :=
  if c = quote ∨ c = backslash then [backslash, c]
  else if c = '\n' then [backslash, 'n']
  else if c = '\r' then [backslash, 'r']
  else if c = '\t' then [backslash, 't']
  else if isPrintable c then [c]
  else escape c

/-- A text with its quotes. -/
def encode (t : Text) : Text :=
  mark t :: t.flatMap (encodeLetter (mark t)) ++ [mark t]

end Quoted

/-- A text as messages quote it. -/
def quoted (t : Text) : Text := Quoted.encode t

end MountainRange.Text
