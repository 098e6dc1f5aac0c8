import MountainRange.Text.Surrogate
import MountainRange.Text.Numeral
import MountainRange.Value
set_option autoImplicit false

/-!
# Reading JSON

The reader takes the grammar of JSON with three additions: the words for what is no
finite number, a name that occurs twice, of which the last value counts, and escapes
of surrogates that stand alone.  A fault is told by its cause and the place where it was
found.
-/

namespace MountainRange.Json

/-! ## Faults -/

/-- What is wrong at some place of a text. -/
inductive Cause where
  | noValue
  | noName
  | noColon
  | noComma
  | moreText
  | openString
  | controlCharacter
  | unknownEscape
  | numberedEscape
  | byteOrderMark
  deriving DecidableEq, Repr, Inhabited

/-- The text of a cause. -/
def Cause.message : Cause → String
  | .noValue => "Expecting value"
  | .noName => "Expecting property name enclosed in double quotes"
  | .noColon => "Expecting ':' delimiter"
  | .noComma => "Expecting ',' delimiter"
  | .moreText => "Extra data"
  | .openString => "Unterminated string starting at"
  | .controlCharacter => "Invalid control character at"
  | .unknownEscape => "Invalid \\escape"
  | .numberedEscape => "Invalid \\uXXXX escape"
  | .byteOrderMark => "Unexpected UTF-8 BOM (decode using utf-8-sig)"

/-- Why a text was not read.  The place of a fault is how much of the text is left
there. -/
inductive Fault where
  | malformed (cause : Cause) (left : Nat)
  /-- A number has too many digits. -/
  | numeral (error : Text.NumeralError)
  deriving DecidableEq, Repr

/-- Reads something at the front of a text, and hands back what follows it. -/
abbrev Step (α : Type) : Type := Text → Except Fault (α × Text)

/-! ## Blanks and words -/

/-- Whether a character may stand between the parts of a text. -/
def isSpace (c : Letter) : Bool := c = ' ' || c = '\t' || c = '\n' || c = '\r'

/-- What follows the blanks at the front. -/
def skip (s : Text) : Text := s.dropWhile isSpace

/-- What follows a word, if it stands at the front. -/
def dropWord? : (word text : Text) → Option Text
  | [], text => some text
  | _ :: _, [] => none
  | w :: word, c :: text => if w = c then dropWord? word text else none

/-- The words for values, and what they stand for. -/
def words : List (Text × Value) :=
  [("null", .null), ("true", .bool true), ("false", .bool false), ("NaN", .float .nan),
   ("Infinity", .float (.infinity false)), ("-Infinity", .float (.infinity true))]

/-- The value of the word at the front, if there is one. -/
def readWord? (s : Text) : Option (Value × Text) :=
  words.findSome? fun (word, v) => (dropWord? word s).map (v, ·)

/-! ## Numbers -/

/-- The digits at the front, and what follows them. -/
def splitDigits (s : Text) : Text × Text :=
  (s.takeWhile Letter.isDigit, s.dropWhile Letter.isDigit)

/-- The point at the front and the digits behind it, if there are any. -/
def splitFraction : Text → Text × Text
  | .char '.' :: rest =>
      match splitDigits rest with
      | ([], _) => ([], '.' :: rest)
      | digits => digits
  | s => ([], s)

/-- The exponent at the front, if there is one. -/
def splitExponent (s : Text) : Option Int × Text :=
  match s with
  | [] => (none, s)
  | c :: rest =>
      if c = 'e' ∨ c = 'E' then
        let (negative, digits) := Text.Numeral.splitSign rest
        match splitDigits digits with
        | ([], _) => (none, s)
        | (digits, rest) =>
            let n : Int := Text.Numeral.valueOf digits
            (some (if negative then -n else n), rest)
      else (none, s)

/-- The sign at the front, if it is a minus. -/
def splitMinus : Text → Bool × Text
  | .char '-' :: rest => (true, rest)
  | s => (false, s)

/-- The integer that digits spell with a sign. -/
def integer? (negative : Bool) (digits : Text) : Except Fault Value :=
  if Text.Numeral.maxDigits < digits.length then
    .error (.numeral (.tooManyDigits digits.length))
  else .ok (.int (Number.Double.signed negative (Text.Numeral.valueOf digits)))

/-- Digits in front of the point: a zero alone, or digits that start with none. -/
def splitWhole : Text → Text × Text
  | .char '0' :: rest => (['0'], rest)
  | s => splitDigits s

/-- Reads a number.  It is a float if it has a fraction or an exponent. -/
def readNumber : Step Value := fun s =>
  let (negative, body) := splitMinus s
  match splitWhole body with
  | ([], _) => .error (.malformed .noValue s.length)
  | (whole, rest) =>
      let (fraction, rest) := splitFraction rest
      let (exponent, rest) := splitExponent rest
      match fraction, exponent with
      | [], none => (integer? negative whole).map (·, rest)
      | _, _ =>
          let digits := Text.Numeral.valueOf (whole ++ fraction)
          .ok (.float (.ofDecimal negative digits (exponent.getD 0 - fraction.length)), rest)

/-! ## Strings -/

/-- The character of an escape of two characters. -/
def shortEscape? : Letter → Option Char
  | .char '"' => some '"'
  | .char '\\' => some '\\'
  | .char '/' => some '/'
  | .char 'b' => some '\x08'
  | .char 'f' => some '\x0c'
  | .char 'n' => some '\n'
  | .char 'r' => some '\r'
  | .char 't' => some '\t'
  | _ => none

/-- The number that four hexadecimal digits spell. -/
def unit? (a b c d : Letter) : Option Nat := do
  let a ← Text.hexDigit? a
  let b ← Text.hexDigit? b
  let c ← Text.hexDigit? c
  let d ← Text.hexDigit? d
  return ((a * 16 + b) * 16 + c) * 16 + d

/-- A part of the inside of a string. -/
inductive Piece where
  /-- A letter, as it is or by an escape of two characters. -/
  | letter (c : Letter)
  /-- The number of a numbered escape. -/
  | unit (n : Nat)
  deriving DecidableEq, Repr

/-- The letter that a piece alone stands for. -/
def Piece.toLetter : Piece → Letter
  | .letter c => c
  | .unit n => .ofNat n

/-- The text of pieces.  Two numbered escapes that follow each other may spell the halves of
one character; a half that stands as it is is joined with nothing. -/
def joinPieces : List Piece → Text
  | [] => []
  | .unit n :: .unit k :: rest =>
      if Surrogate.isFirst n && Surrogate.isSecond k then
        .char (Surrogate.join n k) :: joinPieces rest
      else .ofNat n :: joinPieces (.unit k :: rest)
  | p :: rest => p.toLetter :: joinPieces rest

/-- Reads the inside of a string and the quote that ends it; `start` is what was left at the
quote that opens it. -/
def readPieces (start : Nat) : Step (List Piece)
  | [] => .error (.malformed .openString start)
  | .char '"' :: rest => .ok ([], rest)
  | [.char '\\'] => .error (.malformed .openString start)
  | .char '\\' :: .char 'u' :: a :: b :: c :: d :: e :: rest =>
      match unit? a b c d with
      | none => .error (.malformed .numberedEscape (rest.length + 6))
      | some n => do
          let (pieces, after) ← readPieces start (e :: rest)
          return (.unit n :: pieces, after)
  | .char '\\' :: .char 'u' :: rest => .error (.malformed .numberedEscape (rest.length + 1))
  | .char '\\' :: c :: rest =>
      match shortEscape? c with
      | none => .error (.malformed .unknownEscape (rest.length + 2))
      | some x => do
          let (pieces, after) ← readPieces start rest
          return (.letter x :: pieces, after)
  | c :: rest =>
      if c.toNat < 0x20 then .error (.malformed .controlCharacter (rest.length + 1))
      else do
        let (pieces, after) ← readPieces start rest
        return (.letter c :: pieces, after)

/-- Reads what follows the quote that opens a string. -/
def readString : Step Text := fun s => do
  let (pieces, after) ← readPieces (s.length + 1) s
  return (joinPieces pieces, after)

/-! ## Values -/

/-- Reads the name of a field, with its colon and the blanks around that. -/
def readName : Step Text
  | .char '"' :: rest => do
      let (name, rest) ← readString rest
      match skip rest with
      | .char ':' :: rest => return (name, skip rest)
      | rest => throw (.malformed .noColon rest.length)
  | s => .error (.malformed .noName s.length)

mutual

/-- Reads a value; `fuel` bounds the steps. -/
def readValue : (fuel : Nat) → Step Value
  | 0, s => .error (.malformed .noValue s.length)
  | _, [] => .error (.malformed .noValue 0)
  | _, .char '"' :: rest => do
      let (t, rest) ← readString rest
      return (.text t, rest)
  | fuel + 1, .char '[' :: rest =>
      match skip rest with
      | .char ']' :: rest => .ok (.array [], rest)
      | rest => do
          let (items, rest) ← readItems fuel rest
          return (.array items, rest)
  | fuel + 1, .char '\x7b' :: rest =>
      match skip rest with
      | .char '\x7d' :: rest => .ok (.object [], rest)
      | rest => do
          let (fields, rest) ← readFields fuel [] rest
          return (.object fields, rest)
  | _, s =>
      match readWord? s with
      | some r => .ok r
      | none => readNumber s

/-- Reads the items of an array and the bracket that ends it. -/
def readItems : (fuel : Nat) → Step (List Value)
  | 0, s => .error (.malformed .noValue s.length)
  | fuel + 1, s => do
      let (item, rest) ← readValue fuel s
      match skip rest with
      | .char ']' :: rest => return ([item], rest)
      | .char ',' :: rest => do
          let (items, rest) ← readItems fuel (skip rest)
          return (item :: items, rest)
      | rest => throw (.malformed .noComma rest.length)

/-- Reads the fields of an object, behind those read already, and the brace that ends
it. -/
def readFields : (fuel : Nat) → (before : List (Text × Value)) → Step (List (Text × Value))
  | 0, _, s => .error (.malformed .noName s.length)
  | fuel + 1, before, s => do
      let (name, rest) ← readName s
      let (v, rest) ← readValue fuel rest
      let fields := Value.setField before name v
      match skip rest with
      | .char '\x7d' :: rest => return (fields, rest)
      | .char ',' :: rest => readFields fuel fields (skip rest)
      | rest => throw (.malformed .noComma rest.length)

end

/-- The value of a text, without blanks in front.  Every step of the reader takes
a letter, so twice the length of the text bounds them. -/
def readText (s : Text) : Except Fault Value := do
  let (v, rest) ← readValue (2 * s.length + 2) (skip s)
  match skip rest with
  | [] => return v
  | rest => throw (.malformed .moreText rest.length)

/-! ## Documents -/

/-- Why a document was not read. -/
inductive ReadError where
  /-- It is no JSON; the position counts letters. -/
  | malformed (cause : Cause) (position : Nat)
  /-- A number has too many digits. -/
  | numeral (error : Text.NumeralError)
  deriving DecidableEq, Repr

/-- The character behind every line. -/
def lineFeed : Letter := '\n'

/-- What is told of a position in a document: its line, its place in the line, both
from one on, and the position itself. -/
def describePosition (document : Text) (position : Nat) : String :=
  let before := document.take position
  let line := before.count lineFeed + 1
  let column := (before.reverse.takeWhile (· ≠ lineFeed)).length + 1
  s!"line {line} column {column} (char {position})"

/-- The text of an error in a document. -/
def ReadError.message (document : Text) : ReadError → Text
  | .malformed cause position =>
      cause.message ++ ": " ++ describePosition document position
  | .numeral error => error.message

/-- The byte order mark. -/
def byteOrderMark : Letter := .ofNat 0xFEFF

/-- The value of a document without a byte order mark. -/
def readDocument (s : Text) : Except ReadError Value :=
  match readText s with
  | .ok v => .ok v
  | .error (.malformed cause left) => .error (.malformed cause (s.length - left))
  | .error (.numeral error) => .error (.numeral error)

/-- The value of a document, which must not start with a byte order mark. -/
def read (document : Text) : Except ReadError Value :=
  match document with
  | c :: rest =>
      if c = byteOrderMark then .error (.malformed .byteOrderMark 0) else readDocument (c :: rest)
  | [] => readDocument []

end MountainRange.Json
