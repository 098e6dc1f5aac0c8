import MountainRange.Json.Body
import MountainRange.Json.Writer
import MountainRange.Text.Split
set_option autoImplicit false

/-!
# Messages between client and service

What a client sends, what the service receives of it, and what comes back.
-/

namespace MountainRange.Http

/-- A message as the service receives it, with a body that is declared as JSON.  An empty body
is no body. -/
structure Request where
  method : String
  path : Text
  body : List UInt8
  deriving DecidableEq, Repr

/-- An answer of the service. -/
structure Response where
  status : Nat
  body : Value
  deriving Repr

/-- The text of an answer. -/
def Response.text (r : Response) : Text := Json.write .compact r.body

/-- What comes of one message. -/
inductive Answer where
  | response (response : Response)
  /-- The same message belongs to another path: the status is 307, the path is told as the
  location, and there is no body. -/
  | moved (path : Text)
  deriving Repr

/-- A message as a client sends it. -/
structure Call where
  method : String
  url : Text
  timeout : Value
  json : Option Value
  deriving Repr

/-- What kept a message from an answer. -/
inductive Failure where
  | connection
  | timeout
  | other
  deriving DecidableEq, Repr

/-- What comes back for a message. -/
inductive Reply where
  | response (status : Int) (body : Text)
  | failure (failure : Failure) (text : Text)
  deriving DecidableEq, Repr

/-- Carries messages of a client, with a state of its own. -/
abbrev Transport (σ : Type) : Type := Call → σ → Reply × σ

/-- Whether a letter is a slash. -/
def isSlash (c : Letter) : Bool := c = '/'

/-- An address without the slashes at its end. -/
def withoutSlashes (url : Text) : Text := (url.reverse.dropWhile isSlash).reverse

/-! ## Addresses -/

/-- Whether a letter is a control character among the first 128. -/
def isControl (c : Letter) : Bool := c.toNat < 0x20 || c.toNat = 0x7F

/-- Greatest number of letters in an address. -/
def maxAddressLength : Nat := 65536

/-- Whether a text can be an address. -/
def isAddress (t : Text) : Bool := t.length ≤ maxAddressLength && !t.any isControl

/-- Whether a character may stand in the name of a scheme. -/
def isSchemeChar (c : Letter) : Bool := c.isAlphanum || c = '+' || c = '.' || c = '-'

/-- What follows the scheme of an address, if it has one. -/
def afterScheme? (url : Text) : Option Text :=
  match url.head?, url.dropWhile isSchemeChar with
  | some c, .char ':' :: rest => if c.isAlpha then some rest else none
  | _, _ => none

/-- Whether a character ends the path of an address. -/
def endsPath (c : Letter) : Bool := c = '?' || c = '#'

/-- Whether a letter ends the host of an address. -/
def endsHost (c : Letter) : Bool := isSlash c || endsPath c

/-- What follows the host of an address behind its scheme, if it names a host. -/
def afterHost? : Text → Option Text
  | .char '/' :: .char '/' :: rest => some (rest.dropWhile (!endsHost ·))
  | _ => none

/-- A path without the slashes in front of it, which then starts with one. -/
def rooted (path : Text) : Text := '/' :: path.dropWhile isSlash

/-- The path of an address as it is spelled.  Only one with scheme and host can start
with several slashes. -/
def spelledPath (url : Text) : Text :=
  let pathIn (t : Text) : Text := t.takeWhile (!endsPath ·)
  match afterScheme? url with
  | none => rooted (pathIn ((afterHost? url).getD url))
  | some rest =>
      match afterHost? rest with
      | none => rooted (pathIn rest)
      | some path => if (pathIn path).isEmpty then ['/'] else pathIn path

/-- The parts of a path without those that stay in place and those that go up. -/
def dropDots (before : List Text) : List Text → List Text
  | [] => before
  | part :: rest =>
      if part = "." then dropDots before rest
      else if part = ".." then
        dropDots (if before = [[]] then before else before.dropLast) rest
      else dropDots (before ++ [part]) rest

/-- A path without parts that stay in place or go up. -/
def withoutDots (path : Text) : Text :=
  Text.join "/" (dropDots [] (Text.splitAt isSlash path))

/-- The letter of an escaped byte; one beyond the first 128 is part of something that
no route has. -/
def byteLetter (n : Nat) : Letter := if n < 0x80 then .ofNat n else Text.replacement

/-- A path with characters in place of their escapes. -/
def unescape : Text → Text
  | .char '%' :: a :: b :: rest =>
      match Text.hexDigit? a, Text.hexDigit? b with
      | some n, some k => byteLetter (n * 16 + k) :: unescape rest
      | _, _ => '%' :: unescape (a :: b :: rest)
  | c :: rest => c :: unescape rest
  | [] => []

/-- The path of an address.  Escapes are read once by the client and once by the
service. -/
def pathOf (url : Text) : Text :=
  let path := withoutDots (spelledPath url)
  unescape (unescape (if path.isEmpty then [.char '/'] else path))

/-- A call as the service at its address receives it. -/
def Call.received (call : Call) : Request :=
  let body := (call.json.map (Json.write .line)).getD []
  ⟨call.method, pathOf call.url, body.toBytes⟩

end MountainRange.Http
