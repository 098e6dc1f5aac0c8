import MountainRange.Entries
import MountainRange.Text.FileName
import MountainRange.Text.Split
set_option autoImplicit false

/-!
# Files and folders

A tree of files as commands see it: what is found at a path, and what is written
there.  A file holds bytes, which may or may not spell a text.
-/

namespace MountainRange

/-- A path: its steps from one folder to the next, and the name at its end. -/
structure Path where
  absolute : Bool
  names : List Text
  deriving DecidableEq, Repr

/-- Where something stands: the names of the folders above it and its own, from the
folder at hand or from the top of the tree. -/
abbrev Place : Type := List Text

namespace Place

/-- The place of the folder at hand. -/
def here : Place := []

/-- The place of the top of the tree. -/
def top : Place := ["/"]

/-- The name that leads to the folder above. -/
def up : Text := ".."

/-- The folder above a place. -/
def parent (p : Place) : Place :=
  if p = top then top else if p.all (· = up) then p ++ [up] else p.dropLast

/-- The place of a name below another. -/
def child (p : Place) (name : Text) : Place := p ++ [Text.storedName name]

/-- Whether a place is the folder at hand, one above it, or the top of the tree, which
are there in any case. -/
def isGiven (p : Place) : Bool := p = top || p.all (· = up)

/-- Whether a place is inside the folder at hand. -/
def isInside (p : Place) : Bool := p.head? ≠ some "/" && p.head? ≠ some up

end Place

namespace Path

/-- All that stands between slashes. -/
def stepsOf (t : Text) : List Text := Text.splitAt (· = '/') t

/-- Whether a text spells a path from the top of the tree. -/
def isAbsolute (t : Text) : Bool := t.head? = some '/'

/-- The path that a text spells; nothing and a single dot name no step. -/
def ofText (t : Text) : Path :=
  ⟨isAbsolute t, (stepsOf t).filter fun (name : Text) => name ≠ "" && name ≠ "."⟩

/-- A path as text. -/
def text (p : Path) : Text :=
  let names := Text.join "/" p.names
  if p.absolute then "/" ++ names else if p.names.isEmpty then "." else names

/-- A path below another. -/
def child (p : Path) (name : Text) : Path := ⟨p.absolute, p.names ++ [name]⟩

/-- Where the steps of a path start. -/
def start (absolute : Bool) : Place := if absolute then .top else .here

/-- Greatest number of bytes in a name. -/
def maxNameLength : Nat := 255

/-- Greatest number of bytes in a path. -/
def maxLength : Nat := 4095

/-- Whether a name is longer than any name of a file. -/
def isLongName (name : Text) : Bool := maxNameLength < (Text.nameBytes name).length

/-- Whether a text is longer than any path. -/
def isLong (t : Text) : Bool := maxLength < (Text.nameBytes t).length

/-- The character that ends a path for the system, so that no path can hold it. -/
def terminator : Letter := .ofNat 0

/-- Why a text cannot be handed to the system as a path. -/
inductive Fault where
  /-- It cannot be written in bytes. -/
  | unencodable (error : Text.EncodeError)
  /-- It holds the character that ends a path. -/
  | terminated
  deriving DecidableEq, Repr

/-- The text of a path fault. -/
def Fault.message : Fault → String
  | .unencodable error => error.message
  | .terminated => "embedded null byte"

/-- What keeps a text from being handed to the system as a path. -/
def fault? (t : Text) : Option Fault :=
  match Text.nameError? t with
  | some error => some (.unencodable error)
  | none => if t.contains terminator then some .terminated else none

end Path

/-- What a file holds. -/
abbrev Content : Type := List UInt8

/-- A text with a line feed in place of every other end of a line. -/
def Text.withLineFeeds : Text → Text
  | .char '\r' :: .char '\n' :: rest => '\n' :: withLineFeeds rest
  | .char '\r' :: rest => '\n' :: withLineFeeds rest
  | c :: rest => c :: withLineFeeds rest
  | [] => []

/-- Reads a file as text. -/
def Content.read (content : Content) : Except Text.DecodeError Text :=
  (Text.decode content).map Text.withLineFeeds

/-- The text of a file, if its bytes spell one. -/
def Content.text? (content : Content) : Option Text := content.read.toOption

/-- The bytes of a text. -/
def Content.ofText (t : Text) : Content := t.toBytes

/-- What is found at a path. -/
inductive Entry where
  | file (content : Content)
  | folder
  deriving DecidableEq, Repr

/-- A tree of files. -/
structure Files where
  files : List (Place × Content)
  folders : List Place
  deriving DecidableEq, Repr, Inhabited

/-- Why something is not written. -/
inductive FileError where
  /-- A file stands where a folder is asked for. -/
  | isFile
  /-- A folder is asked for below a file. -/
  | belowFile
  /-- A folder stands where a file is asked for. -/
  | isFolder
  /-- A name or a path is longer than any of a file. -/
  | tooLong
  /-- A text is no path. -/
  | unusable (fault : Path.Fault)
  deriving DecidableEq, Repr

/-- The text of a file error. -/
def FileError.message : FileError → String
  | .isFile => "a file stands where a folder is asked for"
  | .belowFile => "a folder is asked for below a file"
  | .isFolder => "a folder stands where a file is asked for"
  | .tooLong => "a name or a path is too long"
  | .unusable fault => fault.message

namespace Files

/-- The tree without files. -/
def empty : Files := ⟨[], []⟩

/-- What the file at a place holds. -/
def file? (t : Files) (place : Place) : Option Content := Entries.get? t.files place

/-- Whether a folder is at a place, because it was made or because something is below. -/
def isFolder (t : Files) (place : Place) : Bool :=
  place.isGiven || t.folders.any (place.isPrefixOf ·) ||
    t.files.any fun f => place.isPrefixOf f.1 && place ≠ f.1

/-- What is at a place. -/
def entry? (t : Files) (place : Place) : Option Entry :=
  match t.file? place with
  | some content => some (.file content)
  | none => if t.isFolder place then some .folder else none

/-- Where steps lead to.  Each has to start from a folder that is there. -/
def walk? (t : Files) (place : Place) : List Text → Option Place
  | [] => some place
  | name :: rest =>
      if !t.isFolder place || Path.isLongName name then none
      else if name = "" || name = "." then walk? t place rest
      else if name = Place.up then walk? t place.parent rest
      else walk? t (place.child name) rest

/-- What a text leads to. -/
def find? (t : Files) (path : Text) : Option Entry :=
  if path.isEmpty || Path.isLong path then none
  else (t.walk? (Path.start (Path.isAbsolute path)) (Path.stepsOf path)).bind t.entry?

/-- Makes the folders that steps lead through, and tells the place of the last.  `made`
says whether one was made already: then a file in the way stands where a folder was to
be made, and else below it. -/
def makeFolders (t : Files) (place : Place) (made : Bool) :
    List Text → Except FileError (Files × Place)
  | [] => .ok (t, place)
  | name :: rest =>
      if Path.isLongName name then .error .tooLong
      else if name = Place.up then makeFolders t place.parent made rest
      else
        let place := place.child name
        match t.entry? place with
        | some .folder => makeFolders t place made rest
        | some (.file _) => .error (if made || rest.isEmpty then .isFile else .belowFile)
        | none => makeFolders { t with folders := t.folders ++ [place] } place true rest

/-- Makes a folder and those above it, and tells its place. -/
def makeFolder (t : Files) (p : Path) : Except FileError (Files × Place) :=
  match Path.fault? p.text with
  | some fault => .error (.unusable fault)
  | none =>
      if Path.isLong p.text then .error .tooLong
      else t.makeFolders (Path.start p.absolute) false p.names

/-- Writes a file. -/
def write (t : Files) (place : Place) (text : Text) : Except FileError Files :=
  if t.isFolder place then .error .isFolder
  else .ok { t with files := Entries.put t.files place (.ofText text) }

end Files

end MountainRange
