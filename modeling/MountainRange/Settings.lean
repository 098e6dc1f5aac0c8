import MountainRange.Options
import MountainRange.Text.Lower
import MountainRange.Text.Numeral
set_option autoImplicit false

/-!
# Settings

The settings of a service are read from named variables of its environment.  What is
not set has a default; what is set to something unsupported is an error.
-/

namespace MountainRange

/-- The variables of an environment that are set. -/
abbrev Environment := String → Option Text

/-- The environment of some variables and what they are set to. -/
def Environment.ofList (entries : List (String × Text)) : Environment := Entries.get? entries

/-- The settings of a service. -/
structure Settings where
  peakMatch : PeakMatch
  convention : Convention
  relaxBelow : Int
  apiHost : Text
  apiPort : Int
  apiUrl : Text
  deriving DecidableEq, Repr

/-- Why settings were not read. -/
inductive SettingsError where
  /-- The port is no integer. -/
  | port (raw : Text)
  /-- No matching has this name. -/
  | peakMatch (name : Text)
  /-- No convention has this name. -/
  | convention (name : Text)
  /-- The threshold is no integer. -/
  | threshold (raw : Text)
  deriving DecidableEq, Repr

namespace Settings

/-- The variable of the matching. -/
def peakMatchVariable : String := "MMR_PROOFS_PEAK_MATCH"

/-- The variable of the convention. -/
def conventionVariable : String := "MMR_PROOFS_PARITY"

/-- The variable of the threshold. -/
def thresholdVariable : String := "MMR_PROOFS_RELAX_PEAK_COUNT_BELOW"

/-- The variable of the host. -/
def hostVariable : String := "MMR_PROOFS_API_HOST"

/-- The variable of the port. -/
def portVariable : String := "MMR_PROOFS_API_PORT"

/-- The variable of the address. -/
def urlVariable : String := "MMR_PROOFS_API_URL"

/-- The variables that settings are read from. -/
def variableNames : List String :=
  [peakMatchVariable, conventionVariable, thresholdVariable, hostVariable, portVariable,
   urlVariable]

/-- The host if none is set. -/
def defaultHost : String := "127.0.0.1"

/-- The port if none is set. -/
def defaultPort : Int := 8000

/-- The names of the options that settings hold for the verifier, in order. -/
def optionNames : List String := ["convention", "peak_match", "relax_peak_count_below"]

end Settings

/-- The text that no matching has this name. -/
def PeakMatch.unknownMessage (quoted : Text) : Text :=
  quoted ++ " is not a valid PeakMatchMode"

/-- The text that no convention has this name. -/
def Convention.unknownMessage (quoted : Text) : Text :=
  quoted ++ " is not a valid ParityConvention"

/-- The text that a variable is no integer. -/
def SettingsError.integerMessage (name : String) (raw : Text) : Text :=
  name ++ " must be an integer, got " ++ Text.quoted raw

/-- What is said in front of an error in the options of the verifier. -/
def SettingsError.heading : String := "Invalid MMR proofs configuration: "

/-- The text of a settings error. -/
def SettingsError.message : SettingsError → Text
  | .port raw => integerMessage Settings.portVariable raw
  | .peakMatch name => heading ++ PeakMatch.unknownMessage (Text.quoted name)
  | .convention name => heading ++ Convention.unknownMessage (Text.quoted name)
  | .threshold raw => heading ++ integerMessage Settings.thresholdVariable raw

namespace Settings

/-- The integer of a variable; one that is not set or empty has the default. -/
def integer (found? : Option Text) (default : Int) (fault : Text → SettingsError) :
    Except SettingsError Int :=
  match found? with
  | none => .ok default
  | some [] => .ok default
  | some raw => (Text.readInt raw).mapError fun _ => fault raw

/-- The member of a choice that has a name, in whatever case. -/
def choice {α : Type} (found? : Option Text) (default : α) (ofLabel? : Text → Option α)
    (fault : Text → SettingsError) : Except SettingsError α :=
  match found? with
  | none => .ok default
  | some raw =>
      match ofLabel? (Text.lower raw) with
      | some x => .ok x
      | none => .error (fault (Text.lower raw))

/-- Reads the settings from an environment, the port first. -/
def read (env : Environment) : Except SettingsError Settings := do
  let apiHost := (env hostVariable).getD defaultHost
  let apiPort ← integer (env portVariable) defaultPort .port
  let peakMatch ← choice (env peakMatchVariable) .positional PeakMatch.ofLabel? .peakMatch
  let convention ← choice (env conventionVariable) .oddIsLeft Convention.ofLabel? .convention
  let relaxBelow ← integer (env thresholdVariable) 0 .threshold
  let apiUrl := (env urlVariable).getD ("http://" ++ apiHost ++ s!":{apiPort}")
  return { peakMatch, convention, relaxBelow, apiHost, apiPort, apiUrl }

/-- What is worth a warning about settings. -/
def warnings (s : Settings) : List String :=
  match s.peakMatch with
  | .anywhere => ["Legacy anywhere peak matching is enabled"]
  | .positional => []

/-- The options that settings hold for the verifier. -/
def options (s : Settings) : Options := ⟨s.peakMatch, s.convention, .below s.relaxBelow⟩

end Settings

end MountainRange
