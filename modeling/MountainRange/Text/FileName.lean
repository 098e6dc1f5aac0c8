import MountainRange.Text.Surrogate
import MountainRange.Text.Utf8
set_option autoImplicit false

/-!
# Names of files

The name of a file is made up of bytes.  Bytes that spell a character are shown as that
character.  A byte that is part of none is held as a surrogate, so that no name is lost,
and is shown as a mark.
-/

namespace MountainRange.Text

/-- What keeps a letter out of the name of a file. -/
def isUnnameable : Letter → Bool
  | .char _ => false
  | .surrogate s => !s.isByte

/-- What keeps a text from being written in the bytes of a file name. -/
def nameError? (t : Text) : Option EncodeError := runError? isUnnameable t

/-- The bytes of a letter in the name of a file.  The last eight bits of a surrogate are
the byte that it stands for. -/
def nameBytesOf : Letter → List UInt8
  | .char c => String.utf8EncodeChar c
  | .surrogate s => [.ofNat s.val]

/-- The bytes of a file name. -/
def nameBytes (t : Text) : List UInt8 := t.flatMap nameBytesOf

/-- The surrogate that stands for a byte. -/
def surrogateOf (b : UInt8) : Letter := .ofNat (0xDC00 + b.toNat)

/-- A file name as the system tells it: bytes that spell a character are that character. -/
def storedName (t : Text) : Text :=
  (chunks (nameBytes t)).flatMap (Chunk.letters (List.map surrogateOf))

/-- A file name as messages show it: a mark stands for the bytes of an incomplete
character. -/
def shownName (t : Text) : Text :=
  (chunks (nameBytes t)).flatMap (Chunk.letters fun _ => [.char replacement])

end MountainRange.Text
