import MountainRange.Json.Reader
import MountainRange.Text.Utf8
set_option autoImplicit false

/-!
# JSON in bytes

A message body holds JSON in bytes.  A byte order mark in front shows how its characters
stand in them.  Where there is none, zeros among the first bytes show that a character
takes two or four of them, for JSON starts with characters that need only one; all else is
UTF-8.  In every form a surrogate may stand alone.
-/

namespace MountainRange.Json

/-- How the characters of a body stand in its bytes. -/
inductive ByteForm where
  | utf8
  /-- A number of two bytes for each half or whole of a character, the larger part first or last. -/
  | utf16 (bigEndian : Bool)
  /-- A number of four bytes for each character, the largest part first or last. -/
  | utf32 (bigEndian : Bool)
  deriving DecidableEq, Repr

/-- The byte order marks of the forms with numbers of two or four bytes.  The longer ones come
first, for one of them starts with a shorter one. -/
def ByteForm.marks : List (List UInt8 × ByteForm) :=
  [([0x00, 0x00, 0xFE, 0xFF], .utf32 true), ([0xFF, 0xFE, 0x00, 0x00], .utf32 false),
   ([0xFE, 0xFF], .utf16 true), ([0xFF, 0xFE], .utf16 false)]

/-- The form whose byte order mark stands in front of a body. -/
def ByteForm.ofMark? (bytes : List UInt8) : Option ByteForm :=
  marks.findSome? fun (mark, form) => if mark.isPrefixOf bytes then some form else none

/-- The form of a body without a byte order mark, from where zeros are among its first bytes. -/
def ByteForm.ofZeros : List UInt8 → ByteForm
  | [a, b] => if a = 0 then .utf16 true else if b = 0 then .utf16 false else .utf8
  | a :: b :: c :: d :: _ =>
      if a = 0 then (if b = 0 then .utf32 true else .utf16 true)
      else if b = 0 then (if c = 0 && d = 0 then .utf32 false else .utf16 false)
      else .utf8
  | _ => .utf8

/-- The form of a body. -/
def ByteForm.detect (bytes : List UInt8) : ByteForm := (ofMark? bytes).getD (ofZeros bytes)

/-- The number that bytes spell. -/
def numberOf (bigEndian : Bool) (bytes : List UInt8) : Nat :=
  (if bigEndian then bytes else bytes.reverse).foldl (fun n b => n * 256 + b.toNat) 0

/-- The numbers of two bytes each. -/
def pairs? (bigEndian : Bool) : List UInt8 → Option (List Nat)
  | [] => some []
  | a :: b :: rest => (pairs? bigEndian rest).map (numberOf bigEndian [a, b] :: ·)
  | _ => none

/-- The numbers of four bytes each. -/
def quads? (bigEndian : Bool) : List UInt8 → Option (List Nat)
  | [] => some []
  | a :: b :: c :: d :: rest => (quads? bigEndian rest).map (numberOf bigEndian [a, b, c, d] :: ·)
  | _ => none

/-- Greatest number of a character. -/
def maxCharacter : Nat := 0x10FFFF

/-- The characters of bytes in some form, if they spell any. -/
def ByteForm.decode? (bytes : List UInt8) : ByteForm → Option Text
  | .utf8 => (Text.decodePassing bytes).toOption
  | .utf16 bigEndian => (pairs? bigEndian bytes).map Text.joinHalves
  | .utf32 bigEndian => do
      let numbers ← quads? bigEndian bytes
      if numbers.all (· ≤ maxCharacter) then some (numbers.map Letter.ofNat) else none

/-- Why a body was not read. -/
inductive BodyError where
  /-- Its bytes spell no characters. -/
  | undecodable
  /-- Its characters are no JSON. -/
  | unread (error : ReadError)
  deriving DecidableEq, Repr

/-- Drops the byte order mark in front of a text. -/
def dropMark : Text → Text
  | [] => []
  | c :: rest => if c = byteOrderMark then rest else c :: rest

/-- The value of a body. -/
def readBody (bytes : List UInt8) : Except BodyError Value :=
  match (ByteForm.detect bytes).decode? bytes with
  | none => .error .undecodable
  | some cs => (readDocument (dropMark cs)).mapError .unread

end MountainRange.Json
