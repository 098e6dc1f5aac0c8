import MountainRange.Client
import MountainRange.Command.Help
import MountainRange.Command.Printed
import MountainRange.ProverInput
import MountainRange.Service
import MountainRange.Text.Plain
set_option autoImplicit false

/-!
# Running commands

The status of a command is the verdict: zero for a valid proof, one for an invalid
one, two for input that is malformed.  An error that is not told in a line of its own
ends a command with status one.
-/

namespace MountainRange.Command

/-! ## Errors -/

/-- Why a file holds no JSON. -/
inductive NotJson where
  /-- Its bytes spell no text. -/
  | undecodable (error : Text.DecodeError)
  /-- Its text is no JSON. -/
  | unread (document : Text) (error : Json.ReadError)
  deriving Repr

/-- The text of why a file holds no JSON. -/
def NotJson.message : NotJson → Text
  | .undecodable error => error.message
  | .unread document error => error.message document

/-- An error that is told in a line of its own. -/
inductive Told where
  /-- The arguments are not those of a command. -/
  | usage (error : UsageError)
  /-- A file holds no JSON. -/
  | notJson (path : Text) (reason : NotJson)
  /-- A file holds JSON, but no object. -/
  | notObject (path : Text) (kind : Kind)
  /-- A proof is not verified because the settings are not valid. -/
  | proofSettings (error : SettingsError)
  /-- A proof is malformed. -/
  | proof (error : ServiceError)
  /-- A remote verdict is no JSON. -/
  | remoteBody (document : Text) (error : Json.ReadError)
  /-- The verifier came to no verdict. -/
  | verification (error : ServiceError)
  /-- The remote service gave no usable answer. -/
  | remote (error : RemoteError)
  /-- Slots make no request. -/
  | slots (error : Encoding.DecodeError)
  /-- A commitment is not computed because the settings are not valid. -/
  | depositSettings (error : SettingsError)
  /-- The parts of a deposit are malformed. -/
  | deposit (error : ServiceError)
  deriving Repr

namespace Told

/-- What is said in front of what is wrong with a proof. -/
def aboutProof (message : Text) : Text := "Invalid proof file: " ++ message

/-- The line of an error, if one is told. -/
def message? : Told → Option Text
  | .usage error => error.message?
  | .notJson path reason => some (path ++ " is not valid JSON: " ++ reason.message)
  | .notObject path kind => some (path ++ s!" must hold a JSON object, got {kind.label}")
  | .proofSettings error => some (aboutProof error.message)
  | .proof error => some (aboutProof error.message)
  | .remoteBody document error => some (aboutProof (error.message document))
  | .verification error => some error.message
  | .remote error => some error.message
  | .slots error => some ("Decode error: " ++ error.message)
  | .depositSettings error => some error.message
  | .deposit error => some error.message

/-- The status of a command that failed: two if its input is to blame, else one. -/
def status : Told → Nat
  | .verification _ => 1
  | .remote error => if error.status? = some 400 ∨ error.status? = some 422 then 2 else 1
  | _ => 2

end Told

/-- An error that no command accounts for. -/
inductive Crash where
  | settings (error : SettingsError)
  | service (error : ServiceError)
  | file (document : Text) (error : Json.ReadError)
  | client (error : ClientError)
  | report (error : ReportError)
  | writing (error : ProverInput.WriteError)
  /-- An argument cannot be handed to the system as a path. -/
  | path (fault : Path.Fault)
  /-- What is to be printed is no markup. -/
  | markup (fault : Markup.Fault)
  /-- What is to be printed cannot be written in bytes. -/
  | output (error : Text.EncodeError)
  /-- The command would never end. -/
  | endless
  deriving Repr

/-- The text of a crash. -/
def Crash.message : Crash → Text
  | .settings error => error.message
  | .service error => error.message
  | .file document error => error.message document
  | .client error => error.message
  | .report error => error.message
  | .writing error => error.message
  | .path fault => fault.message
  | .markup fault => fault.message
  | .output error => error.message
  | .endless => "a service has no end"

/-- How a command ends. -/
inductive Ending where
  | done (status : Nat)
  | told (error : Told)
  | crashed (crash : Crash)
  deriving Repr

/-- The status of an ending. -/
def Ending.status : Ending → Nat
  | .done status => status
  | .told error => error.status
  | .crashed _ => 1

/-- What is left of a command that was run. -/
structure Run where
  output : Text
  ending : Ending
  files : Files
  deriving Repr

namespace Run

/-- The status of a run. -/
def status (r : Run) : Nat := r.ending.status

/-- What a run that failed tells of its error, without the escape sequences in it. -/
def error? (r : Run) : Option String :=
  match r.ending with
  | .told error =>
      error.message?.map fun message =>
        Text.escaped (Text.dropSequences ("Error: " ++ message))
  | _ => none

/-- The text of the crash that a run ended with, if it did. -/
def crash? (r : Run) : Option String :=
  match r.ending with
  | .crashed crash => some (Text.escaped crash.message)
  | _ => none

/-- A run whose output can be written in bytes, or one that fails to write it. -/
def encoded (r : Run) : Run :=
  match Text.encodeError? r.output with
  | some error => { r with output := [], ending := .crashed (.output error) }
  | none => r

end Run

/-! ## Reading proofs -/

/-- The fields of the object that a file holds. -/
def loadProof (file : InputFile) : Except Ending Payload.Fields :=
  match file.content.read with
  | .error error => .error (.told (.notJson file.path (.undecodable error)))
  | .ok document =>
      match Json.read document with
      | .ok (.object fields) => .ok fields
      | .ok v => .error (.told (.notObject file.path v.kind))
      | .error (.malformed cause position) =>
          .error (.told (.notJson file.path (.unread document (.malformed cause position))))
      | .error error => .error (.crashed (.file document error))

/-- The fields of a proof with the leaf it has to be for, unless that is empty. -/
def withExpectedLeaf (fields : Payload.Fields) (expectedLeaf : Option Text) : Payload.Fields :=
  match expectedLeaf with
  | none | some [] => fields
  | some leaf => Value.setField fields "expected_leaf" (.text leaf)

/-- The options of the settings, as the options of a command change them. -/
def localOptions (env : Environment) (legacyAnywhere : Bool) (parity : Option Convention) :
    Except SettingsError Options := do
  let options := (← Settings.read env).options
  return { options with
    peakMatch := if legacyAnywhere then .anywhere else options.peakMatch
    convention := parity.getD options.convention }

/-- How a command ends whose arguments are not those of a command. -/
def Ending.ofUsageError : UsageError → Ending
  | .unusablePath fault => .crashed (.path fault)
  | error => .told (.usage error)

/-- How a failure of the service ends a command about a proof. -/
def Ending.ofProofError : ServiceError → Ending
  | .verification fault => .told (.verification (.verification fault))
  | error => .told (.proof error)

/-- How a failure of a client ends a command about a proof. -/
def Ending.ofClientError : ClientError → Ending
  | .remote error => .told (.remote error)
  | .body document error => .told (.remoteBody document error)
  | error => .crashed (.client error)

/-! ## Commands -/

/-- The status of a verdict. -/
def verdictStatus (valid : Bool) : Nat := if valid then 0 else 1

/-- Ends with what is printed of a report. -/
def finish (files : Files) (format : Format) (report : Value) : Run :=
  match Printed.report format report, Printed.isValid report with
  | .error error, _ => ⟨[], .crashed (.report error), files⟩
  | .ok output, .ok valid => ⟨output, .done (verdictStatus valid), files⟩
  | .ok output, .error error => ⟨output, .crashed (.report error), files⟩

/-- Ends with something that is printed. -/
def finishPrinted (files : Files) (status : Nat) : Except Markup.Fault Text → Run
  | .ok output => ⟨output, .done status, files⟩
  | .error fault => ⟨[], .crashed (.markup fault), files⟩

/-- The report on the fields of a proof under the settings at hand. -/
def verifyHere (env : Environment) (flags : VerifyFlags) (fields : Payload.Fields) :
    Except Ending Value := do
  let options ← (localOptions env flags.legacyAnywhere flags.parity).mapError
    fun error => .told (.proofSettings error)
  let report ← (Service.verify options (.object fields)).mapError Ending.ofProofError
  return report.toValue

/-- The report on an encoded request under the settings at hand. -/
def verifySlots (env : Environment) (flags : DecodeFlags) (fields : List Text) :
    Except Ending Value := do
  let options ← (localOptions env flags.legacyAnywhere none).mapError
    fun error => .crashed (.settings error)
  let report ← (Service.verifyRaw options (.array (fields.map .text))).mapError fun
    | .slots (.malformed error) => .told (.slots error)
    | .verification fault => .told (.verification (.verification fault))
    | error => .crashed (.service error)
  return report.toValue

/-- The request of a proof file.  The settings have to be valid, but do not matter. -/
def loadRequest (env : Environment) (file : InputFile) : Except Ending Request := do
  let fields ← loadProof file
  let _ ← (Settings.read env).mapError fun error => .told (.proofSettings error)
  (do Service.buildRequest (← Service.readProof (.object fields))).mapError Ending.ofProofError

/-- Writes the slots of a request, or prints them where no folder is given. -/
def writeRequest (files : Files) (outputDir : Option Text) (request : Request) : Run :=
  let slots := Encoding.encodeValues request
  match outputDir with
  | none | some [] => ⟨ProverInput.decimalsText slots ++ "\n", .done 0, files⟩
  | some folder =>
      match ProverInput.write files folder (.array slots) with
      | (files, .ok paths) =>
          finishPrinted files 0 (Printed.line (Printed.written paths))
      | (files, .error error) => ⟨[], .crashed (.writing error), files⟩

/-- The report on the commitment of a deposit. -/
def commitmentReport (env : Environment) (recipient : Text) (amount nonce timestamp : Int) :
    Except Ending CommitmentReport := do
  let _ ← (Settings.read env).mapError fun error => .told (.depositSettings error)
  (Service.commitment (.text recipient) (.int amount) (.int nonce) (.int timestamp)).mapError
    fun error => .told (.deposit error)

/-- The client that looks for a service: at the address given, else at the one in a
variable of the environment, and if that is empty at the one in the settings. -/
def healthClient (env : Environment) (apiUrl : Option Text) : Except SettingsError Client :=
  let url := (apiUrl.or (env Settings.urlVariable)).getD []
  if url = [] then Client.ofSettings env Client.defaultTimeout
  else .ok (Client.ofUrl url Client.defaultTimeout)

variable {σ : Type}

/-- The report of the remote service on the fields of a proof. -/
def verifyThere (transport : Http.Transport σ) (url : Text) (fields : Payload.Fields) (s : σ) :
    Except Ending Value × σ :=
  let client := Client.ofUrl url Client.defaultTimeout
  let (result, s) := client.verify transport (.object fields) s
  (result.mapError Ending.ofClientError, s)

/-- Runs the verdict on a proof file. -/
def runVerify (env : Environment) (transport : Http.Transport σ) (files : Files)
    (file : InputFile) (flags : VerifyFlags) (s : σ) : Run × σ :=
  match loadProof file with
  | .error ending => (⟨[], ending, files⟩, s)
  | .ok fields =>
      let fields := withExpectedLeaf fields flags.expectedLeaf
      let (result, s) :=
        match flags.remote with
        | none | some [] => (verifyHere env flags fields, s)
        | some url => verifyThere transport url fields s
      match result with
      | .ok report => (finish files flags.format report, s)
      | .error ending => (⟨[], ending, files⟩, s)

/-- Runs the question whether a service is there. -/
def runHealth (env : Environment) (transport : Http.Transport σ) (files : Files)
    (apiUrl : Option Text) (s : σ) : Run × σ :=
  match healthClient env apiUrl with
  | .error error => (⟨[], .crashed (.settings error), files⟩, s)
  | .ok client =>
      let (there, s) := client.health transport s
      let table := Printed.healthTable client.baseUrl there
      (finishPrinted files (verdictStatus there) table.render, s)

/-- Why the service is not started: a run ends, and a service would not. -/
def serveCrash (env : Environment) : Crash :=
  match Settings.read env with
  | .error error => .settings error
  | .ok _ => .endless

/-- Runs a command. -/
def Invocation.run (env : Environment) (transport : Http.Transport σ) (files : Files) (s : σ) :
    Invocation → Run × σ
  | .help name => (⟨Help.text name, .done 0, files⟩, s)
  | .verify file flags => runVerify env transport files file flags s
  | .decode fields flags =>
      match verifySlots env flags fields with
      | .ok report => (finish files flags.format report, s)
      | .error ending => (⟨[], ending, files⟩, s)
  | .encode file outputDir =>
      match loadRequest env file with
      | .ok request => (writeRequest files outputDir request, s)
      | .error ending => (⟨[], ending, files⟩, s)
  | .commitment recipient amount nonce timestamp =>
      match commitmentReport env recipient amount nonce timestamp with
      | .ok report => (⟨Printed.json report.toValue, .done 0, files⟩, s)
      | .error ending => (⟨[], ending, files⟩, s)
  | .health apiUrl => runHealth env transport files apiUrl s
  | .serve .. => (⟨[], .crashed (serveCrash env), files⟩, s)

/-- Runs the command that arguments call. -/
def run (env : Environment) (transport : Http.Transport σ) (files : Files) (args : List Text)
    (s : σ) : Run × σ :=
  match Invocation.read files args with
  | .ok invocation =>
      let (r, s) := invocation.run env transport files s
      (r.encoded, s)
  | .error error => (⟨[], Ending.ofUsageError error, files⟩, s)

end MountainRange.Command
