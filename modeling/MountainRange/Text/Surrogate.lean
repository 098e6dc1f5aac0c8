import MountainRange.Text.Hex
set_option autoImplicit false

/-!
# Surrogates

Two surrogates in a row, one of the first kind and one of the second, spell a character.
A surrogate that stands alone cannot be written in bytes, unless it stands for a byte in
the name of a file.
-/

namespace MountainRange

namespace Surrogate

/-- Whether a number is the first half of a pair. -/
def isFirst (n : Nat) : Bool := 0xD800 ≤ n && n < 0xDC00

/-- Whether a number is the second half of a pair. -/
def isSecond (n : Nat) : Bool := 0xDC00 ≤ n && n < 0xE000

/-- Whether a surrogate stands for a byte that is part of no character, as the names of
files may hold them. -/
def isByte (s : Surrogate) : Bool := 0xDC80 ≤ s.val && s.val < 0xDD00

/-- The character of two halves. -/
def join (first second : Nat) : Char :=
  Char.ofNat (0x10000 + (first - 0xD800) * 0x400 + (second - 0xDC00))

/-- A surrogate as an escape. -/
def escape (s : Surrogate) : List Char := '\\' :: 'u' :: Text.hexDigits 4 s.val

end Surrogate

/-- Whether a letter is a surrogate. -/
def Letter.isSurrogate : Letter → Bool
  | .char _ => false
  | .surrogate _ => true

/-- A letter with an escape in place of a surrogate. -/
def Letter.escaped : Letter → List Char
  | .char c => [c]
  | .surrogate s => s.escape

namespace Text

/-- A text with escapes in place of surrogates. -/
def escaped (t : Text) : String := String.ofList (t.flatMap Letter.escaped)

/-- The text of numbers in which two halves that follow each other are one character. -/
def joinHalves : List Nat → Text
  | [] => []
  | [n] => [.ofNat n]
  | n :: k :: rest =>
      if Surrogate.isFirst n && Surrogate.isSecond k then
        .char (Surrogate.join n k) :: joinHalves rest
      else .ofNat n :: joinHalves (k :: rest)

/-- Why a text cannot be written in bytes: the surrogates that stand in it first. -/
structure EncodeError where
  position : Nat
  surrogates : Text
  deriving DecidableEq, Repr

/-- The text of an encode error. -/
def EncodeError.message (e : EncodeError) : String :=
  let last := e.position + e.surrogates.length - 1
  let what := match e.surrogates with
    | [c] => s!"character '{escaped [c]}' in position {e.position}"
    | _ => s!"characters in position {e.position}-{last}"
  s!"'utf-8' codec can't encode {what}: surrogates not allowed"

/-- The first run of some letters in a text, as what keeps it from being written. -/
def runError? (isBad : Letter → Bool) (t : Text) : Option EncodeError :=
  let before := t.takeWhile (!isBad ·)
  let surrogates := (t.drop before.length).takeWhile isBad
  if surrogates.isEmpty then none else some ⟨before.length, surrogates⟩

/-- What keeps a text from being written in bytes. -/
def encodeError? (t : Text) : Option EncodeError := runError? Letter.isSurrogate t

end Text

end MountainRange
