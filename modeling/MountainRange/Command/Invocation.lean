import MountainRange.Command.Arguments
import MountainRange.Convention
import MountainRange.Files
import MountainRange.Text.Numeral
set_option autoImplicit false

/-!
# Commands as they are invoked

A command with its options and arguments, read from the arguments of a call.  Files
that a command reads have to be there before it is run.  The options that are given
are checked first, in their order, then the other arguments.
-/

namespace MountainRange.Command

/-- The commands. -/
inductive Name where
  | verify
  | decode
  | encode
  | commitment
  | health
  | serve
  deriving DecidableEq, Repr

namespace Name

/-- The name of a command. -/
def label : Name → String
  | .verify => "verify"
  | .decode => "decode"
  | .encode => "encode"
  | .commitment => "commitment"
  | .health => "health"
  | .serve => "serve"

/-- All commands, in the order of the alphabet. -/
def all : List Name := [.commitment, .decode, .encode, .health, .serve, .verify]

/-- The command of a name. -/
def ofLabel? (t : Text) : Option Name := all.find? fun name => t = name.label

/-- The options of a command. -/
def flags : Name → List Flag
  | .verify => [.expectedLeaf, .legacyAnywhere, .parity, .remote, .format, .help]
  | .decode => [.legacyAnywhere, .format, .help]
  | .encode => [.outputDir, .help]
  | .commitment => [.help]
  | .health => [.apiUrl, .help]
  | .serve => [.host, .port, .dev, .help]

end Name

/-- How a report is printed. -/
inductive Format where
  | table
  | json
  deriving DecidableEq, Repr

namespace Format

/-- The name of a format. -/
def label : Format → String
  | .table => "table"
  | .json => "json"

/-- All formats. -/
def all : List Format := [.table, .json]

/-- The format of a name. -/
def ofLabel? (t : Text) : Option Format := all.find? fun format => t = format.label

end Format

/-- A file that a command reads. -/
structure InputFile where
  path : Text
  content : Content
  deriving DecidableEq, Repr

/-- The options for the verdict on a structured proof. -/
structure VerifyFlags where
  /-- The leaf that the proof has to be for. -/
  expectedLeaf : Option Text := none
  /-- Whether the computed peak may stand anywhere. -/
  legacyAnywhere : Bool := false
  /-- The convention that the siblings follow. -/
  parity : Option Convention := none
  /-- The address of the service that is asked. -/
  remote : Option Text := none
  format : Format := .table
  deriving DecidableEq, Repr

/-- The options for the verdict on an encoded request. -/
structure DecodeFlags where
  /-- Whether the computed peak may stand anywhere. -/
  legacyAnywhere : Bool := false
  format : Format := .table
  deriving DecidableEq, Repr

/-- A command with all that is given to it. -/
inductive Invocation where
  /-- Tells how a command is called, or how the commands are called. -/
  | help (name : Option Name)
  /-- The verdict on a structured proof. -/
  | verify (file : InputFile) (flags : VerifyFlags)
  /-- The verdict on an encoded request. -/
  | decode (fields : List Text) (flags : DecodeFlags)
  /-- The slots of a structured proof, printed or written into a folder. -/
  | encode (file : InputFile) (outputDir : Option Text)
  /-- The commitment of a deposit. -/
  | commitment (recipient : Text) (amount nonce timestamp : Int)
  /-- Whether a service is there. -/
  | health (apiUrl : Option Text)
  /-- The service itself, at some host and port. -/
  | serve (host : Option Text) (port : Option Int)
  deriving DecidableEq, Repr

/-- Reads something from what is given to a command. -/
abbrev Reader (α : Type) : Type := Except UsageError α

/-! ## Options -/

/-- A value that has to be one of some choices. -/
def choice {α : Type} (flag : Flag) (labels : List String) (ofLabel? : Text → Option α)
    (value : Text) : Reader α :=
  match ofLabel? value with
  | some x => .ok x
  | none => .error (.badChoice flag value labels)

/-- The format of a value. -/
def readFormat (value : Text) : Reader Format :=
  choice .format (Format.all.map Format.label) Format.ofLabel? value

/-- The convention of a value. -/
def readParity (value : Text) : Reader Convention :=
  choice .parity (Convention.all.map Convention.label) Convention.ofLabel? value

/-- Sets an option. -/
def VerifyFlags.set (flags : VerifyFlags) (given : Flag × Text) : Reader VerifyFlags :=
  match given with
  | (.expectedLeaf, value) => .ok { flags with expectedLeaf := some value }
  | (.legacyAnywhere, _) => .ok { flags with legacyAnywhere := true }
  | (.parity, value) => (readParity value).map fun c => { flags with parity := some c }
  | (.remote, value) => .ok { flags with remote := some value }
  | (.format, value) => (readFormat value).map fun format => { flags with format }
  | _ => .ok flags

/-- Sets an option. -/
def DecodeFlags.set (flags : DecodeFlags) (given : Flag × Text) : Reader DecodeFlags :=
  match given with
  | (.legacyAnywhere, _) => .ok { flags with legacyAnywhere := true }
  | (.format, value) => (readFormat value).map fun format => { flags with format }
  | _ => .ok flags

/-- What is found at a path. -/
def lookUp (files : Files) (path : Text) : Reader (Option Entry) :=
  match Path.fault? path with
  | some fault => .error (.unusablePath fault)
  | none => .ok (files.find? path)

/-- Sets the folder to be written to, at which no file may stand. -/
def setOutputDir (files : Files) (outputDir : Option Text) (given : Flag × Text) :
    Reader (Option Text) :=
  match given with
  | (.outputDir, value) => do
      match ← lookUp files value with
      | some (.file _) => throw (.isFile .outputDir value)
      | _ => return some value
  | _ => .ok outputDir

/-- Sets the address of a service. -/
def setApiUrl (apiUrl : Option Text) (given : Flag × Text) : Reader (Option Text) :=
  match given with
  | (.apiUrl, value) => .ok (some value)
  | _ => .ok apiUrl

/-- Where a service is to be. -/
structure ServeFlags where
  host : Option Text := none
  port : Option Int := none
  deriving DecidableEq, Repr

/-- Sets an option. -/
def ServeFlags.set (flags : ServeFlags) (given : Flag × Text) : Reader ServeFlags :=
  match given with
  | (.host, value) => .ok { flags with host := some value }
  | (.port, value) =>
      match Text.readInt value with
      | .ok n => .ok { flags with port := some n }
      | .error _ => .error (.badFlagInteger .port value)
  | _ => .ok flags

/-- Whether options for the local verifier are given for a remote one. -/
def VerifyFlags.conflict (flags : VerifyFlags) : Bool :=
  (flags.remote.getD [] ≠ []) && (flags.legacyAnywhere || flags.parity.isSome)

/-! ## Arguments -/

/-- The next argument. -/
def takeText (argument : Positional) : List Text → Reader (Text × List Text)
  | [] => .error (.missing argument)
  | value :: rest => .ok (value, rest)

/-- The next argument, which has to be an integer. -/
def takeInteger (argument : Positional) (args : List Text) : Reader (Int × List Text) := do
  let (value, rest) ← takeText argument args
  match Text.readInt value with
  | .ok n => return (n, rest)
  | .error _ => throw (.badInteger argument value)

/-- The next argument, which has to be the path of a file. -/
def takeFile (files : Files) (argument : Positional) (args : List Text) :
    Reader (InputFile × List Text) := do
  let (path, rest) ← takeText argument args
  match ← lookUp files path with
  | some (.file content) => return (⟨path, content⟩, rest)
  | some .folder => throw (.isFolder argument path)
  | none => throw (.noFile argument path)

/-- Checks that no argument is left. -/
def takeNone : List Text → Reader Unit
  | [] => .ok ()
  | args => .error (.extra args)

/-! ## Commands -/

namespace Name

/-- The command with its arguments taken apart. -/
def invoke (files : Files) (name : Name) (a : Arguments) : Reader Invocation :=
  match name with
  | .verify => do
      let flags ← a.settled.foldlM VerifyFlags.set {}
      let (file, rest) ← takeFile files .jsonFile a.others
      takeNone rest
      if flags.conflict then throw .localFlags
      return .verify file flags
  | .decode => do
      let flags ← a.settled.foldlM DecodeFlags.set {}
      let (first, rest) ← takeText .fields a.others
      return .decode (first :: rest) flags
  | .encode => do
      let outputDir ← a.settled.foldlM (setOutputDir files) none
      let (file, rest) ← takeFile files .jsonFile a.others
      takeNone rest
      return .encode file outputDir
  | .commitment => do
      let (recipient, rest) ← takeText .recipient a.others
      let (amount, rest) ← takeInteger .amount rest
      let (nonce, rest) ← takeInteger .nonce rest
      let (timestamp, rest) ← takeInteger .timestamp rest
      takeNone rest
      return .commitment recipient amount nonce timestamp
  | .health => do
      let apiUrl ← a.settled.foldlM setApiUrl none
      takeNone a.others
      return .health apiUrl
  | .serve => do
      let flags ← a.settled.foldlM ServeFlags.set {}
      takeNone a.others
      return .serve flags.host flags.port

end Name

namespace Invocation

/-- The options in front of the name of a command. -/
def leadingFlags : List Flag := [.verbose, .help]

/-- Reads a command behind its name. -/
def readNamed (files : Files) (name : Name) (args : List Text) : Reader Invocation := do
  let a ← Arguments.read name.flags true args
  if a.has .help then return .help (some name) else name.invoke files a

/-- What comes of a name that no command has.  One that is spelled like an option is read
as one first. -/
def readUnknown (name : Text) (rest : List Text) : Reader Invocation := do
  let a ← Arguments.read leadingFlags false (name :: rest)
  if a.has .help then return .help none
  throw (.unknownCommand name (Text.similar (Name.all.map Name.label) name))

/-- Reads a command. -/
def read (files : Files) (args : List Text) : Reader Invocation := do
  if args.isEmpty then throw .nothing
  let a ← Arguments.read leadingFlags false args
  if a.has .help then return .help none
  match a.others with
  | [] => throw .noCommand
  | name :: rest =>
      match Name.ofLabel? name with
      | some command => readNamed files command rest
      | none => readUnknown name rest

end Invocation

end MountainRange.Command
