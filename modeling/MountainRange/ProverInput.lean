import MountainRange.Encoding
import MountainRange.Files
import MountainRange.Json.Writer
set_option autoImplicit false

/-!
# Input files of the prover

An encoded request is handed to the prover in two files: as an array within an array,
and as decimals with spaces between them.  The request is decoded before anything is
written, so no file holds slots that make no request.
-/

namespace MountainRange.ProverInput

/-- The name of the file with the array. -/
def arrayName : Text := "input.cairo1.json"

/-- The name of the file with the decimals. -/
def decimalsName : Text := "input.cairo1.txt"

/-- The text of the file with the array. -/
def arrayText (slots : List Value) : Text := Json.write .line (.array [.array slots])

/-- A slot as a decimal. -/
def decimal : Value → Text
  | .int n => toString n
  | _ => ""

/-- The text of the file with the decimals. -/
def decimalsText (slots : List Value) : Text := Text.join " " (slots.map decimal)

/-- Why the files are not written. -/
inductive WriteError where
  | refused (refusal : Encoding.Refusal)
  | files (error : FileError)
  deriving DecidableEq, Repr

/-- The text of a write error. -/
def WriteError.message : WriteError → Text
  | .refused refusal => refusal.message
  | .files error => error.message

/-- The paths of both files. -/
structure Paths where
  array : Path
  decimals : Path
  deriving DecidableEq, Repr

/-- Writes both files into a folder, which is made if it is missing. -/
def writeSlots (t : Files) (folder : Path) (slots : List Value) : Files × Except FileError Paths :=
  let paths : Paths := ⟨folder.child arrayName, folder.child decimalsName⟩
  match t.makeFolder folder with
  | .error e => (t, .error e)
  | .ok (t, place) =>
      if Path.isLong paths.array.text then (t, .error .tooLong)
      else
        match t.write (place.child arrayName) (arrayText slots) with
        | .error e => (t, .error e)
        | .ok t =>
            match t.write (place.child decimalsName) (decimalsText slots) with
            | .error e => (t, .error e)
            | .ok t => (t, .ok paths)

/-- Decodes unchecked slots and writes them. -/
def write (t : Files) (folder : Text) (raw : Value) : Files × Except WriteError Paths :=
  match Encoding.decodeValue raw with
  | .error refusal => (t, .error (.refused refusal))
  | .ok _ =>
      let (t, result) := writeSlots t (.ofText folder) (raw.iterate?.getD [])
      (t, result.mapError .files)

end MountainRange.ProverInput
