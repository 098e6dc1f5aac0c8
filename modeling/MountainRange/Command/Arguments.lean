import MountainRange.Entries
import MountainRange.Files
import MountainRange.Text.Quoted
import MountainRange.Text.Similar
set_option autoImplicit false

/-!
# Arguments of a command

Arguments are taken apart into options and the others.  An option is a dash and what
follows it; its value stands behind an equals sign or is the next argument.  Behind
two dashes alone nothing is an option any more.
-/

namespace MountainRange.Command

/-- The options that some command knows. -/
inductive Flag where
  | help
  | verbose
  | expectedLeaf
  | legacyAnywhere
  | parity
  | remote
  | format
  | outputDir
  | apiUrl
  | host
  | port
  | dev
  deriving DecidableEq, Repr

namespace Flag

/-- The name of an option. -/
def name : Flag → String
  | .help => "--help"
  | .verbose => "--verbose"
  | .expectedLeaf => "--expected-leaf"
  | .legacyAnywhere => "--legacy-anywhere"
  | .parity => "--parity"
  | .remote => "--remote"
  | .format => "--format"
  | .outputDir => "--output-dir"
  | .apiUrl => "--api-url"
  | .host => "--host"
  | .port => "--port"
  | .dev => "--dev"

/-- The letter that also stands for an option. -/
def letter? : Flag → Option Char
  | .verbose => some 'v'
  | _ => none

/-- Whether an option has a value. -/
def takesValue : Flag → Bool
  | .help | .verbose | .legacyAnywhere | .dev => false
  | _ => true

/-- The option of a name. -/
def ofName? (flags : List Flag) (name : Text) : Option Flag :=
  flags.find? fun flag => name = flag.name

/-- The option of a letter. -/
def ofLetter? (flags : List Flag) (c : Letter) : Option Flag :=
  flags.find? fun flag => c.char?.isSome && flag.letter? = c.char?

end Flag

/-- The arguments that are told by their place. -/
inductive Positional where
  | jsonFile
  | fields
  | recipient
  | amount
  | nonce
  | timestamp
  deriving DecidableEq, Repr

/-- The word for an argument in messages. -/
def Positional.label : Positional → String
  | .jsonFile => "JSON_FILE"
  | .fields => "FIELDS..."
  | .recipient => "RECIPIENT"
  | .amount => "AMOUNT"
  | .nonce => "NONCE"
  | .timestamp => "TIMESTAMP"

/-! ## Errors -/

/-- Why arguments are not those of a command. -/
inductive UsageError where
  /-- There are no arguments. -/
  | nothing
  /-- There are options, but no command. -/
  | noCommand
  /-- No command has this name, but others are much like it. -/
  | unknownCommand (name : Text) (offers : List String)
  /-- No option has this name, but others are much like it. -/
  | unknownFlag (name : Text) (offers : List String)
  /-- An option stands without its value. -/
  | needsValue (flag : Flag)
  /-- An option stands with a value although it has none. -/
  | takesNoValue (flag : Flag)
  /-- The value of an option is none of its choices. -/
  | badChoice (flag : Flag) (got : Text) (choices : List String)
  /-- An argument is no integer. -/
  | badInteger (argument : Positional) (got : Text)
  /-- The value of an option is no integer. -/
  | badFlagInteger (flag : Flag) (got : Text)
  /-- There is no such file. -/
  | noFile (argument : Positional) (path : Text)
  /-- A folder stands where a file is asked for. -/
  | isFolder (argument : Positional) (path : Text)
  /-- A file stands where a folder is asked for. -/
  | isFile (flag : Flag) (path : Text)
  /-- A path cannot be handed to the system, which is not accounted for. -/
  | unusablePath (fault : Path.Fault)
  /-- An argument is not there. -/
  | missing (argument : Positional)
  /-- There are more arguments than the command has. -/
  | extra (args : List Text)
  /-- Options of the local verifier are given for a remote one. -/
  | localFlags
  deriving DecidableEq, Repr

/-- What is said about the value of something. -/
def invalidValue (name : String) (what : Text) : Text := s!"Invalid value for '{name}': " ++ what

/-- What is said about a value that is no integer. -/
def notInteger (got : Text) : Text := Text.quoted got ++ " is not a valid integer."

/-- Words as messages list them. -/
def listed (words : List String) : Text :=
  Text.join ", " (words.map fun (word : String) => Text.quoted word)

/-- What is said of words that may have been meant. -/
def offer : List String → Text
  | [] => ""
  | [word] => " Did you mean " ++ Text.quoted word ++ "?"
  | words =>
      " (Did you mean one of: " ++ listed words ++ "?)"

/-- A path as messages quote it. -/
def quotedPath (path : Text) : Text := Text.quoted (Text.shownName path)

/-- The text of a usage error, unless there is nothing to be told. -/
def UsageError.message? : UsageError → Option Text
  | .nothing => none
  | .noCommand => some "Missing command."
  | .unknownCommand name offers =>
      some ("No such command " ++ Text.quoted name ++ "." ++ offer offers)
  | .unknownFlag name offers => some ("No such option " ++ Text.quoted name ++ "." ++ offer offers)
  | .needsValue flag => some s!"Option '{flag.name}' requires an argument."
  | .takesNoValue flag => some s!"Option '{flag.name}' does not take a value."
  | .badChoice flag got choices =>
      some (invalidValue flag.name (Text.quoted got ++ " is not one of " ++ listed choices ++ "."))
  | .badInteger argument got =>
      some (invalidValue argument.label (notInteger got))
  | .badFlagInteger flag got => some (invalidValue flag.name (notInteger got))
  | .noFile argument path =>
      some (invalidValue argument.label ("File " ++ quotedPath path ++ " does not exist."))
  | .isFolder argument path =>
      some (invalidValue argument.label ("File " ++ quotedPath path ++ " is a directory."))
  | .isFile flag path =>
      some (invalidValue flag.name ("Directory " ++ quotedPath path ++ " is a file."))
  | .unusablePath _ => none
  | .missing argument => some s!"Missing argument '{argument.label}'."
  | .extra args =>
      let arguments := if args.length = 1 then "argument" else "arguments"
      some (s!"Got unexpected extra {arguments} (" ++ Text.join " " args ++ ")")
  | .localFlags =>
      some ("--legacy-anywhere and --parity cannot be combined with --remote; " ++
        "the remote server's settings apply")

/-! ## Taking apart -/

/-- What a single argument is. -/
inductive Argument where
  /-- Two dashes alone: what follows is no option. -/
  | mark
  /-- No option. -/
  | plain
  /-- Options without values. -/
  | given (flags : List Flag)
  /-- An option with its value. -/
  | valued (flag : Flag) (value : Text)
  /-- An option whose value is the next argument. -/
  | wanting (flag : Flag)
  deriving DecidableEq, Repr

/-- The name in front of the first equals sign and the value behind it, if there is one. -/
def splitValue : Text → Text × Option Text
  | [] => ([], none)
  | c :: rest =>
      if c = '=' then ([], some rest)
      else
        let (name, value?) := splitValue rest
        (c :: name, value?)

/-- The options that letters stand for. -/
def letters (flags : List Flag) : Text → Except UsageError (List Flag)
  | [] => .ok []
  | c :: rest =>
      match Flag.ofLetter? flags c with
      | none => .error (.unknownFlag ['-', c] [])
      | some flag => (letters flags rest).map (flag :: ·)

/-- An option as an argument, with the value behind its equals sign. -/
def withValue (flag : Flag) (value? : Option Text) : Except UsageError Argument :=
  match flag.takesValue, value? with
  | true, some value => .ok (.valued flag value)
  | true, none => .ok (.wanting flag)
  | false, some _ => .error (.takesNoValue flag)
  | false, none => .ok (.given [flag])

/-- The error that no option has a name. -/
def unknown (flags : List Flag) (name : Text) : UsageError :=
  .unknownFlag name (Text.similar (flags.map Flag.name) name)

/-- What an argument is to a command that knows some options. -/
def Argument.read (flags : List Flag) (arg : Text) : Except UsageError Argument :=
  match arg with
  | [.char '-', .char '-'] => .ok .mark
  | .char '-' :: c :: rest =>
      let (name, value?) := splitValue ('-' :: c :: rest)
      match Flag.ofName? flags name with
      | some flag => withValue flag value?
      | none =>
          if c = '-' then .error (unknown flags name)
          else (letters flags (c :: rest)).map .given
  | _ => .ok .plain

/-- Arguments taken apart. -/
structure Arguments where
  /-- The options in their order, with their values. -/
  flags : List (Flag × Text)
  /-- The other arguments in their order. -/
  others : List Text
  deriving DecidableEq, Repr

namespace Arguments

/-- Arguments with an option in front. -/
def addFlag (flag : Flag) (value : Text) (a : Arguments) : Arguments :=
  { a with flags := (flag, value) :: a.flags }

/-- Arguments with another argument in front. -/
def addOther (arg : Text) (a : Arguments) : Arguments :=
  { a with others := arg :: a.others }

/-- Takes arguments apart.  If options may not stand behind other arguments, the first
of these ends the options. -/
def read (flags : List Flag) (mixed : Bool) : List Text → Except UsageError Arguments
  | [] => .ok ⟨[], []⟩
  | arg :: rest =>
      match Argument.read flags arg, rest with
      | .error e, _ => .error e
      | .ok .mark, rest => .ok ⟨[], rest⟩
      | .ok .plain, rest =>
          if mixed then (read flags mixed rest).map (addOther arg) else .ok ⟨[], arg :: rest⟩
      | .ok (.given given), rest =>
          (read flags mixed rest).map fun a => given.foldr (fun flag a => a.addFlag flag []) a
      | .ok (.valued flag value), rest => (read flags mixed rest).map (addFlag flag value)
      | .ok (.wanting flag), value :: rest => (read flags mixed rest).map (addFlag flag value)
      | .ok (.wanting flag), [] => .error (.needsValue flag)

/-- Whether an option is given. -/
def has (a : Arguments) (flag : Flag) : Bool := a.flags.any (·.1 = flag)

/-- Each option once, at its first place and with its last value. -/
def settled (a : Arguments) : List (Flag × Text) := Entries.ofList a.flags

end Arguments

end MountainRange.Command
