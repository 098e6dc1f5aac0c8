import Mathlib.Data.List.Forall2
import MountainRange.Proofs.VerifyStatus
set_option autoImplicit false

/-!
# The answers of the application

Whatever is sent to the routes that need the service, the application is never to blame: it
answers with a report or tells what is wrong with the message.  This holds along every
sequence of messages, for the service that one message leaves behind has the options of some
settings, and with these the verifier always comes to a verdict.
-/

namespace MountainRange

/-! ## Answers that blame the message -/

/-- What an answer tells under `code`. -/
def Http.Response.code? (response : Http.Response) : Option Value :=
  match response.body with
  | .object fields => Value.field? fields "code"
  | _ => none

/-- An answer that tells what is wrong with a message. -/
structure Http.Response.BlamesMessage (response : Http.Response) : Prop where
  status : response.status = 400 ∨ response.status = 422
  not_verification : response.code? ≠ some (.text "VERIFICATION_ERROR")
  not_internal : response.code? ≠ some (.text "INTERNAL_ERROR")

/-- An error of the service that its input is to blame for. -/
inductive ServiceError.BlamesInput : ServiceError → Prop where
  | payload (issues : List Payload.Issue) : BlamesInput (.payload issues)
  | unencodable (error : Text.EncodeError) : BlamesInput (.unencodable error)
  | field (error : FieldError) : BlamesInput (.field error)
  | request (error : RequestError) : BlamesInput (.request error)
  | unwritable : BlamesInput (.slots .unwritable)
  | malformed (error : Encoding.DecodeError) : BlamesInput (.slots (.malformed error))
  | deposit (error : DepositError) : BlamesInput (.deposit error)

/-- A report on a verdict. -/
def Report.IsVerdict (report : Report) : Prop :=
  ∃ mode outcome, report = .ofOutcome mode outcome

namespace Service

open ServiceError (BlamesInput)

theorem blamesInput_ofIssues (list : List Payload.Issue) : BlamesInput (.ofIssues list) := by
  unfold ServiceError.ofIssues
  split
  · exact .unencodable _
  · exact .payload _

/-- With valid settings slots fail only as slots. -/
theorem failsWith_verifySlots {P : ServiceError → Prop} (hunwritable : P (.slots .unwritable))
    (hmalformed : ∀ error, P (.slots (.malformed error))) (settings : Settings)
    (items : List Value) : FailsWith P (verifySlots settings.options items) := by
  refine (FailsWith.mapError fun _ => hmalformed _).bind fun slots => ?_
  refine FailsWith.bind ?_ fun r => ?_
  · intro e he
    obtain ⟨refusal, hrefusal, rfl⟩ := mapError_eq_error_iff.mp he
    rcases Encoding.decode_eq_error_cases hrefusal with rfl | ⟨error, rfl⟩
    · exact hunwritable
    · exact hmalformed error
  · obtain ⟨outcome, -, hreport⟩ := settings.exists_report r none
    rw [hreport]
    exact .ok _

theorem isVerdict_of_report {options : Options} {r : Request} {expected : Option Operand}
    {result : Report} (h : report options r expected = .ok result) : result.IsVerdict := by
  unfold report at h
  split at h
  · next outcome _ =>
      cases h
      exact ⟨r.mode, outcome, rfl⟩
  · cases h

theorem isVerdict_of_verifyProof {options : Options} {p : Payload.Proof} {result : Report}
    (h : verifyProof options p = .ok result) : result.IsVerdict := by
  obtain ⟨r, -, h⟩ := bind_eq_ok_iff.mp h
  obtain ⟨expected, -, h⟩ := bind_eq_ok_iff.mp h
  exact isVerdict_of_report h

theorem isVerdict_of_verifySlots {options : Options} {items : List Value} {result : Report}
    (h : verifySlots options items = .ok result) : result.IsVerdict := by
  obtain ⟨slots, -, h⟩ := bind_eq_ok_iff.mp h
  obtain ⟨r, -, h⟩ := bind_eq_ok_iff.mp h
  exact isVerdict_of_report h

theorem failsWith_commitment (recipient amount nonce timestamp : Value) :
    FailsWith BlamesInput (commitment recipient amount nonce timestamp) := by
  refine (FailsWith.mapError .field).bind fun _ => ?_
  exact (FailsWith.mapError .deposit).bind fun _ => .ok _

end Service

namespace App

open Http.Response (BlamesMessage)
open ServiceError (BlamesInput)

theorem code?_failure (status : Nat) (error code errorType : Text) :
    (failure status error code errorType).code? = some (.text code) := rfl

/-- A failure with the status 400 blames the message, if its code does. -/
theorem blamesMessage_failure {code : Text} (hverification : code ≠ "VERIFICATION_ERROR")
    (hinternal : code ≠ "INTERNAL_ERROR") (error errorType : Text) :
    BlamesMessage (failure 400 error code errorType) := by
  refine ⟨.inl rfl, fun h => hverification ?_, fun h => hinternal ?_⟩
  all_goals
    rw [code?_failure] at h
    exact Value.text.inj (Option.some.inj h)

theorem blamesMessage_invalid (error : Text) : BlamesMessage (invalid error) :=
  blamesMessage_failure (by decide) (by decide) error _

theorem blamesMessage_unencodable (error : Text.EncodeError) :
    BlamesMessage (unencodable error) :=
  blamesMessage_failure (by decide) (by decide) error.message _

theorem blamesMessage_issues (above : List Payload.Place) (list : List Payload.Issue) :
    BlamesMessage (issues above list) := by
  unfold issues
  split
  · exact ⟨.inr rfl, nofun, nofun⟩
  · exact blamesMessage_invalid _

theorem blamesMessage_serviceFailure {e : ServiceError} (h : BlamesInput e) :
    BlamesMessage (serviceFailure e) := by
  cases h with
  | payload list => exact blamesMessage_issues _ list
  | unencodable error => exact blamesMessage_unencodable error
  | malformed error => exact blamesMessage_failure (by decide) (by decide) _ _
  | _ => exact blamesMessage_invalid _

/-- The routes that need the service. -/
def serviceRoutes : List Route := [.verify, .verifyRaw, .commitment]

theorem mem_serviceRoutes {route : Route} :
    route ∈ serviceRoutes ↔ route = .verify ∨ route = .verifyRaw ∨ route = .commitment := by
  simp [serviceRoutes]

/-- An answer that does not blame the application, and that tells a verdict by its code as
it tells it by its word. -/
structure IsProper (route : Route) (response : Http.Response) : Prop where
  status : response.status = 200 ∨ response.status = 400 ∨ response.status = 422
  not_verification : response.code? ≠ some (.text "VERIFICATION_ERROR")
  not_internal : response.code? ≠ some (.text "INTERNAL_ERROR")
  verdict : response.status = 200 → route = .verify ∨ route = .verifyRaw →
    ∃ report : Report, response.body = report.toValue ∧
      (report.resultCode = 0 ↔ report.valid = true)

variable {route : Route}

theorem IsProper.of_blamesMessage {response : Http.Response} (h : BlamesMessage response) :
    IsProper route response where
  status := .inr h.status
  not_verification := h.not_verification
  not_internal := h.not_internal
  verdict := by
    intro hok
    rcases h.status with hstatus | hstatus <;> rw [hstatus] at hok <;> cases hok

theorem IsProper.encoded {response : Http.Response} (h : IsProper route response) :
    IsProper route (App.encoded response) := by
  unfold App.encoded
  split
  · exact .of_blamesMessage (blamesMessage_unencodable _)
  · exact h

/-- A message as it comes in, with the environment of the application at that time. -/
abbrev Incoming : Type := Environment × Http.Request

variable {app : App}

/-- A message for a route that needs the service. -/
def NeedsService (request : Http.Request) : Prop :=
  request.method = "POST" ∧ ∃ route ∈ serviceRoutes, Route.find? request.path = some route

theorem handleAt_of_post (app : App) (env : Environment) {request : Http.Request}
    (hpost : request.method = "POST") (hroute : route ∈ serviceRoutes) :
    app.handleAt env route request = app.handleBody env route request.body := by
  have hmethod : ¬request.method ∉ route.methods := by
    rcases mem_serviceRoutes.mp hroute with rfl | rfl | rfl <;> rw [hpost] <;> decide
  unfold handleAt
  rw [if_neg hmethod]
  rcases mem_serviceRoutes.mp hroute with rfl | rfl | rfl <;> rfl

theorem Route.moved?_of_find? {path : Text} (h : find? path = some route) : moved? path = none := by
  rw [moved?, h]

theorem Route.find?_of_moved? {path other : Text} (h : moved? path = some other) :
    ∃ route, find? other = some route := by
  unfold moved? at h
  split at h
  · next hroute =>
      cases h
      exact ⟨_, hroute⟩
  · cases h

/-- A message for a route that needs the service is answered as its body is. -/
theorem handleHere_of_post (app : App) (env : Environment) {request : Http.Request}
    (hpost : request.method = "POST") (hroute : route ∈ serviceRoutes)
    (hfind : Route.find? request.path = some route) :
    app.handleHere env request = (encoded (app.handleBody env route request.body).1,
      (app.handleBody env route request.body).2) := by
  unfold handleHere
  rw [hfind]
  dsimp only
  rw [handleAt_of_post app env hpost hroute]

theorem answer_of_not_moved (app : App) (env : Environment) {request : Http.Request}
    (h : Route.moved? request.path = none) : app.answer env request =
      (.response (app.handleHere env request).1, (app.handleHere env request).2) := by
  rw [answer, h]

theorem handle_of_not_moved (app : App) (env : Environment) {request : Http.Request}
    (h : Route.moved? request.path = none) :
    app.handle env request = app.handleHere env request := by
  rw [handle, h, Option.getD_none]

theorem answer_of_moved (app : App) (env : Environment) {request : Http.Request} {path : Text}
    (h : Route.moved? request.path = some path) : app.answer env request = (.moved path, app) := by
  rw [answer, h]

/-- A client that goes where it is sent gets an answer at once, or is sent to another path, which
leaves the application as it is, and gets the answer there. -/
theorem handle_eq_answer (app : App) (env : Environment) (request : Http.Request) :
    app.answer env request =
        (.response (app.handle env request).1, (app.handle env request).2) ∨
      ∃ path, app.answer env request = (.moved path, app) ∧
        app.answer env { request with path } =
          (.response (app.handle env request).1, (app.handle env request).2) := by
  cases hmoved : Route.moved? request.path with
  | none =>
      rw [handle_of_not_moved app env hmoved]
      exact .inl (answer_of_not_moved app env hmoved)
  | some path =>
      obtain ⟨route, hroute⟩ := Route.find?_of_moved? hmoved
      refine .inr ⟨path, answer_of_moved app env hmoved, ?_⟩
      rw [handle, hmoved, Option.getD_some]
      exact answer_of_not_moved app env (Route.moved?_of_find? hroute)

theorem handle_of_post (app : App) (env : Environment) {request : Http.Request}
    (hpost : request.method = "POST") (hroute : route ∈ serviceRoutes)
    (hfind : Route.find? request.path = some route) :
    app.handle env request = (encoded (app.handleBody env route request.body).1,
      (app.handleBody env route request.body).2) := by
  rw [handle_of_not_moved app env (Route.moved?_of_find? hfind),
    handleHere_of_post app env hpost hroute hfind]

instance (request : Http.Request) : Decidable (NeedsService request) :=
  inferInstanceAs (Decidable (_ ∧ _))

end App

end MountainRange
