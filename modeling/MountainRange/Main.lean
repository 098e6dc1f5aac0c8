import MountainRange.Command.Run
set_option autoImplicit false

/-!
# The program

Takes what a command may look at from the system, runs the command, and hands what it
leaves behind back to the system.  There is no network: a remote service counts as out
of reach.
-/

namespace MountainRange.Main

/-- The variables of settings that are set. -/
def environment : IO Environment := do
  let entries ← Settings.variableNames.filterMapM fun name => do
    return (← IO.getEnv name).map fun value => (name, Text.of value)
  return .ofList entries

/-- What is found at a path: a file whose bytes can be read, or a folder. -/
def entryAt (path : String) : IO (Option Entry) := do
  try
    return some (.file (← IO.FS.readBinFile path).toList)
  catch
    | .inappropriateType .. => return some .folder
    | _ => return none

/-- The path of a place. -/
def pathOf : Place → Path
  | [] => ⟨false, []⟩
  | name :: names => if name = "/" then ⟨true, names⟩ else ⟨false, name :: names⟩

/-- Adds what is found at a place. -/
def load (t : Files) (place : Place) : IO Files := do
  if (t.entry? place).isSome then return t
  match ← entryAt (pathOf place).text.escaped with
  | none => return t
  | some .folder => return { t with folders := t.folders ++ [place] }
  | some (.file content) => return { t with files := Entries.put t.files place content }

/-- Adds what is found along a path, down to the first file. -/
def loadAlong (t : Files) (place : Place) : List Text → IO Files
  | [] => return t
  | name :: rest => do
      let place := if name = Place.up then place.parent else place.child name
      let t ← load t place
      if (t.file? place).isSome then return t else loadAlong t place rest

/-- Adds what is found along the path that a text spells. -/
def loadPath (t : Files) (path : Text) : IO Files :=
  let p := Path.ofText path
  loadAlong t (Path.start p.absolute) p.names

/-- Writes a file and makes the folder that it stands in. -/
def store (file : Place × Content) : IO Unit := do
  let p := pathOf file.1
  let folder : Path := { p with names := p.names.dropLast }
  if folder.names ≠ [] then IO.FS.createDirAll folder.text.escaped
  IO.FS.writeBinFile p.text.escaped ⟨file.2.toArray⟩

/-- No message is answered. -/
def unreachable : Http.Transport Unit := fun _ s =>
  (.failure .connection "there is no network", s)

/-- Runs a command on the system. -/
def run (args : List String) : IO UInt32 := do
  let env ← environment
  let args := args.map Text.of
  let spelled := args ++ args.filterMap fun arg => (Command.splitValue arg).2
  let files ← (spelled.filter fun path => (Path.fault? path).isNone).foldlM loadPath Files.empty
  let (r, _) := Command.run env unreachable files args ()
  (r.files.files.filter fun file => files.file? file.1 ≠ some file.2).forM store
  (← IO.getStdout).putStr r.output.escaped
  let stderr ← IO.getStderr
  r.error?.forM stderr.putStrLn
  r.crash?.forM fun message => stderr.putStrLn ("Error: " ++ message)
  return r.status.toUInt32

end MountainRange.Main

def main (args : List String) : IO UInt32 := MountainRange.Main.run args
