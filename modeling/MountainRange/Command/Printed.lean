import MountainRange.Command.Invocation
import MountainRange.Json.Writer
import MountainRange.ProverInput
import MountainRange.Scheme
import MountainRange.Table
import MountainRange.Value.Quoted
set_option autoImplicit false

/-!
# Reports as they are printed

A report comes from the service at hand or from a remote one, which may send anything.
It is printed as a table or as JSON, and says whether the proof is valid.
-/

namespace MountainRange.Command

/-- Why a value is not printed as a report, or says nothing about validity. -/
inductive ReportError where
  /-- It has no fields. -/
  | notObject (kind : Kind)
  /-- A field is not there. -/
  | missing (name : String)
  /-- The reason is neither a text nor nothing. -/
  | reasonKind (kind : Kind)
  /-- A text is no markup. -/
  | markup (fault : Markup.Fault)
  deriving DecidableEq, Repr

/-- The text of a report error. -/
def ReportError.message : ReportError → Text
  | .notObject kind => s!"a report is an object, got {kind.label}"
  | .missing name => s!"a report has a field {name}"
  | .reasonKind kind => s!"a reason is a text, got {kind.label}"
  | .markup fault => fault.message

namespace Printed

/-- A field of a report. -/
def field (report : Value) (name : String) : Except ReportError Value :=
  match report with
  | .object fields =>
      match Value.field? fields name with
      | some v => .ok v
      | none => .error (.missing name)
  | v => .error (.notObject v.kind)

/-- Whether a report says that the proof is valid. -/
def isValid (report : Value) : Except ReportError Bool :=
  (field report "valid").map Value.isTruthy

/-- The cell of a verdict. -/
def verdictCell (valid : Bool) : String := if valid then "✅ Valid" else "❌ Invalid"

/-- The cell of a mode. -/
def schemeCell (mode : Value) : String :=
  let mode : Mode := if mode.same (.int Mode.wide.number) then .wide else .compact
  s!"{mode.label} ({mode.hashName})"

/-- The cell of a reason. -/
def reasonCell : Value → Except ReportError Text
  | .text t => .ok t
  | .null => .ok []
  | v => .error (.reasonKind v.kind)

/-- The table of a report. -/
def verdictTable (report : Value) : Except ReportError Table := do
  let valid ← isValid report
  let code ← field report "result_code"
  let mode ← field report "mode"
  let reason ← reasonCell (← field report "reason")
  return {
    title := "Proof Verification"
    header := ["Property", "Value"]
    rows := [["Verdict", verdictCell valid], ["Result Code", code.shown],
      ["Scheme", schemeCell mode], ["Reason", reason]] }

/-- A report as JSON, on lines of its own. -/
def json (report : Value) : Text := Json.write .indented report ++ "\n"

/-- What is printed of a report. -/
def report (format : Format) (report : Value) : Except ReportError Text :=
  match format with
  | .json => .ok (json report)
  | .table => do (← verdictTable report).render.mapError .markup

/-- The table about the health of a service. -/
def healthTable (baseUrl : Text) (there : Bool) : Table where
  title := "System Health Check"
  header := ["Component", "Status", "Details"]
  rows := [["Verifier API", if there then "✅ Healthy" else "❌ Unhealthy", baseUrl]]

/-- What is printed of the files that were written. -/
def written (paths : ProverInput.Paths) : Text :=
  "[green]Wrote " ++ paths.array.text ++ " and " ++ paths.decimals.text ++ "[/green]"

/-- A line of markup, wrapped at the end of the display. -/
def line (markup : Text) : Except Markup.Fault Text :=
  (Markup.shown markup).map fun shown => Text.unlines (Text.wrap .fold Table.displayWidth shown)

end Printed

end MountainRange.Command
