import MountainRange.Http
import MountainRange.Service
import MountainRange.Settings
set_option autoImplicit false

/-!
# The application

The service behind addresses.  Its settings are read when the first message needs
them, from the environment of that message, and are kept from then on; a message
whose environment has no valid settings leaves no service behind.
-/

namespace MountainRange

/-- The application: the options of its service, once there is one. -/
structure App where
  service : Option Options
  deriving DecidableEq, Repr

namespace App

/-- The version that the application tells. -/
def version : String := "0.1.0"

/-- The application before the first message. -/
def initial : App := ⟨none⟩

/-! ## Addresses -/

/-- What the application answers to. -/
inductive Route where
  | index
  | health
  | verify
  | verifyRaw
  | commitment
  /-- A page about the application. -/
  | page (path : Text)
  deriving DecidableEq, Repr

namespace Route

/-- The address of a route. -/
def path : Route → Text
  | .index => "/"
  | .health => "/health"
  | .verify => "/verify"
  | .verifyRaw => "/verify/raw"
  | .commitment => "/commitment"
  | .page path => path

/-- The methods of a route. -/
def methods : Route → List String
  | .index => ["GET"]
  | .health => ["GET"]
  | .verify => ["POST"]
  | .verifyRaw => ["POST"]
  | .commitment => ["POST"]
  | .page _ => ["GET", "HEAD"]

/-- The pages about the application. -/
def pages : List Route :=
  [.page "/openapi.json", .page "/docs", .page "/docs/oauth2-redirect", .page "/redoc"]

/-- All routes. -/
def all : List Route := pages ++ [.index, .health, .verify, .verifyRaw, .commitment]

/-- Whether a path is that of a route; a line feed may follow it. -/
def isAt (path : Text) (route : Route) : Bool :=
  path = route.path || path = route.path ++ "\n"

/-- The route of a path. -/
def find? (path : Text) : Option Route := all.find? (isAt path)

/-- A path without the slashes at its end, or with one if it has none. -/
def otherSpelling (path : Text) : Text :=
  if path.getLast? = some '/' then Http.withoutSlashes path else path ++ "/"

/-- Where a message belongs whose path has no route, if the other spelling of that has one. -/
def moved? (path : Text) : Option Text :=
  match find? path, find? (otherSpelling path) with
  | none, some _ => some (otherSpelling path)
  | _, _ => none

end Route

/-! ## Answers -/

/-- An answer that tells only a detail. -/
def detail (status : Nat) (text : Text) : Http.Response :=
  ⟨status, .object [("detail", .text text)]⟩

/-- An answer that tells an error by its text, a code and its type. -/
def failure (status : Nat) (error code errorType : Text) : Http.Response :=
  ⟨status, .object [("error", .text error), ("code", .text code),
    ("details", .object [("error_type", .text errorType)])]⟩

/-- The answer to a message that is not valid. -/
def invalid (error : Text) : Http.Response := failure 400 error "VALIDATION_ERROR" "ValueError"

/-- The answer in place of one that cannot be written in bytes. -/
def unencodable (error : Text.EncodeError) : Http.Response :=
  failure 400 error.message "VALIDATION_ERROR" "UnicodeEncodeError"

/-- An answer that can be written in bytes, or the one in its place. -/
def encoded (response : Http.Response) : Http.Response :=
  match Text.encodeError? response.text with
  | some error => unencodable error
  | none => response

/-- The answer to a payload with issues.  It quotes what was found, so it cannot be
written if that holds a number that is not finite. -/
def issues (above : List Payload.Place) (list : List Payload.Issue) : Http.Response :=
  if list.all (·.input.isFinite) then
    ⟨422, .object [("detail", .array (list.map (Payload.Issue.toValue above)))]⟩
  else invalid "Out of range float values are not JSON compliant"

/-- The place of a body. -/
def bodyPlace : Payload.Place := .name "body"

/-- The answer to an error of the service. -/
def serviceFailure : ServiceError → Http.Response
  | .notObject _ => failure 500 "Internal server error" "INTERNAL_ERROR" "TypeError"
  | .payload list => issues [bodyPlace] list
  | .unencodable error => unencodable error
  | .field error => invalid error.message
  | .request error => invalid error.message
  | .slots (.notSequence _) => failure 500 "Internal server error" "INTERNAL_ERROR" "TypeError"
  | .slots .unwritable => invalid Encoding.Refusal.unwritable.message
  | .slots (.malformed error) => failure 400 error.message "DECODE_ERROR" "DecodeError"
  | .deposit error => invalid error.message
  | .verification fault =>
      failure 500 (ServiceError.verification fault).message "VERIFICATION_ERROR"
        "VerificationServiceError"

/-- The answer to what the service came to. -/
def respond {α : Type} (toValue : α → Value) : Except ServiceError α → Http.Response
  | .ok x => ⟨200, toValue x⟩
  | .error error => serviceFailure error

/-! ## Bodies -/

/-- The fields of a body, unless there is no body or it is no object. -/
def bodyFields (body : Option Value) : Payload.Checked Payload.Fields :=
  match body with
  | none => .issue [] .missing .null
  | some (.object fields) => .ok fields
  | some v => .issue [] .notObject v

/-- Reads the body of a message; nothing is read from an empty one. -/
def readBody (body : List UInt8) : Except Http.Response (Option Value) :=
  if body.isEmpty then .ok none
  else
    match Json.readBody body with
    | .ok v => .ok (some v)
    | .error (.unread (.malformed cause position)) =>
        .error (issues [bodyPlace]
          [⟨[.index position], .unreadable cause.message, .object []⟩])
    | .error _ => .error (detail 400 "There was an error parsing the body")

/-- The service's answer to a body at a route. -/
def serve (options : Options) (route : Route) (body : Option Value) : Http.Response :=
  match route with
  | .verify => respond Report.toValue do
      let p ← (bodyFields body >>= Payload.Proof.read).mapError .ofIssues
      Service.verifyProof options p
  | .verifyRaw => respond Report.toValue do
      let slots ← (bodyFields body >>= Payload.readSlots).mapError .ofIssues
      Service.verifySlots options slots
  | .commitment => respond CommitmentReport.toValue do
      let d ← (bodyFields body >>= Payload.Deposit.read).mapError .ofIssues
      Service.commitment (.text d.recipient) (.int d.amount) (.int d.nonce) (.int d.timestamp)
  | .index =>
      ⟨200, .object [("name", .text "MMR Proofs API"), ("version", .text version),
        ("description", .text "Verify Merkle Mountain Range inclusion proofs"),
        ("docs", .text "/docs"), ("health", .text "/health")]⟩
  | .health =>
      ⟨200, .object [("status", .text "healthy"),
        ("schemes", .array (Mode.all.map fun m => .text m.label)), ("version", .text version)]⟩
  | .page _ => ⟨200, .null⟩

/-! ## Messages -/

/-- The service of the application, made from an environment if there is none yet. -/
def ensureService (app : App) (env : Environment) : Except SettingsError Options :=
  match app.service with
  | some options => .ok options
  | none => (Settings.read env).map Settings.options

/-- The answer to a message that needs the service, and the application behind it. -/
def handleBody (app : App) (env : Environment) (route : Route) (body : List UInt8) :
    Http.Response × App :=
  match readBody body with
  | .error response => (response, app)
  | .ok body =>
      match app.ensureService env with
      | .error error => (invalid error.message, app)
      | .ok options => (serve options route body, ⟨some options⟩)

/-- The answer to a message for a route, and the application behind it. -/
def handleAt (app : App) (env : Environment) (route : Route) (request : Http.Request) :
    Http.Response × App :=
  if request.method ∉ route.methods then (detail 405 "Method Not Allowed", app)
  else
    match route with
    | .index => (serve {} .index none, app)
    | .health => (serve {} .health none, app)
    | .page path => (serve {} (.page path) none, app)
    | route => app.handleBody env route request.body

/-- The answer to a message at its own path, and the application behind it. -/
def handleHere (app : App) (env : Environment) (request : Http.Request) : Http.Response × App :=
  match Route.find? request.path with
  | none => (detail 404 "Not Found", app)
  | some route =>
      let (response, app) := app.handleAt env route request
      (encoded response, app)

/-- What comes of one message, and the application behind it. -/
def answer (app : App) (env : Environment) (request : Http.Request) : Http.Answer × App :=
  match Route.moved? request.path with
  | some path => (.moved path, app)
  | none =>
      let (response, app) := app.handleHere env request
      (.response response, app)

/-- The answer that comes to a client which sends a message again where it belongs, and the
application behind it. -/
def handle (app : App) (env : Environment) (request : Http.Request) : Http.Response × App :=
  app.handleHere env { request with path := (Route.moved? request.path).getD request.path }

/-- The application at the other end of a client's messages. -/
def transport (env : Environment) : Http.Transport App := fun call app =>
  let (response, app) := app.handle env call.received
  (.response response.status response.text, app)

end App

end MountainRange
