import MountainRange.Client
import MountainRange.Proofs.Answers
import MountainRange.Proofs.JsonBodies
import MountainRange.Proofs.JsonDocuments
set_option autoImplicit false

/-!
# Messages that are delivered

A client of an address under which the application is found gets the application's own
answer to what it sends: the payload arrives as the value that it reads back as, a report
arrives as it was made, and a refusal arrives with its status.
-/

namespace MountainRange

/-! ## Addresses of the application -/

/-- Behind an address the application has its routes. -/
def App.IsServedAt (baseUrl : Text) : Prop :=
  ∀ route ∈ App.serviceRoutes, App.Route.find? (Http.pathOf (baseUrl ++ route.path)) = some route

namespace Http

/-- The address of a host. -/
def addressOf (host : Text) : Text := Text.of "http://" ++ host

variable {host : Text} (hhost : ∀ c ∈ host, endsHost c = false)

include hhost in
/-- The path of an address with a host is what follows the host. -/
theorem spelledPath_addressOf (path : Text) :
    spelledPath (addressOf host ++ .char '/' :: path) =
      (.char '/' :: path : Text).takeWhile (!endsPath ·) := by
  have hscheme : afterScheme? (addressOf host ++ .char '/' :: path) =
      some (.char '/' :: .char '/' :: (host ++ .char '/' :: path)) := rfl
  have hafter : afterHost? (.char '/' :: .char '/' :: (host ++ .char '/' :: path)) =
      some (.char '/' :: path) := by
    refine congrArg some ?_
    rw [List.dropWhile_append_of_pos fun c hc => by rw [hhost c hc, Bool.not_false]]
    exact List.dropWhile_cons_of_neg (by decide)
  rw [spelledPath, hscheme]
  dsimp only
  rw [hafter]
  rfl

include hhost in
/-- The application is found at every host. -/
theorem isServedAt_addressOf : App.IsServedAt (addressOf host) := by
  intro route hroute
  obtain ⟨path, hpath⟩ : ∃ path, route.path = .char '/' :: path := by
    rcases App.mem_serviceRoutes.mp hroute with rfl | rfl | rfl <;> exact ⟨_, rfl⟩
  rw [hpath, pathOf, spelledPath_addressOf hhost, ← hpath]
  rcases App.mem_serviceRoutes.mp hroute with rfl | rfl | rfl <;> decide

/-- The application is found at the address that is set in advance. -/
theorem isServedAt_localhost : App.IsServedAt (addressOf "127.0.0.1:8000") :=
  isServedAt_addressOf (by decide)

end Http

/-! ## Answers to what is delivered -/

/-- An answer as it comes back. -/
def Http.Response.reply (response : Http.Response) : Http.Reply :=
  .response response.status response.text

namespace App

variable {app : App} {env : Environment} {options : Options} {route : Route} {payload w : Value}

/-- A payload is handled as the value that it reads back as. -/
theorem handle_received {url : Text} (hroute : route ∈ serviceRoutes)
    (hfind : Route.find? (Http.pathOf url) = some route)
    (hservice : app.ensureService env = .ok options)
    (hpayload : Json.ReadsBack .line payload w) (timeout : Value) :
    app.handle env (Http.Call.received ⟨"POST", url, timeout, some payload⟩) =
      (encoded (serve options route (some w)), ⟨some options⟩) := by
  show app.handle env ⟨"POST", Http.pathOf url, (Json.write .line payload).toBytes⟩ = _
  rw [handle_of_post app env rfl hroute hfind, handleBody, readBody_write hpayload]
  dsimp only
  rw [hservice]

theorem transport_eq {call : Http.Call} {response : Http.Response} {after : App}
    (h : app.handle env call.received = (response, after)) :
    transport env call app = (response.reply, after) := by
  unfold transport
  rw [h]
  rfl

end App

namespace Client

variable {client : Client}

/-- What is posted to the application comes back as its answer. -/
theorem post_transport {app : App} {env : Environment} {options : Options} {route : App.Route}
    {payload w : Value} (hserved : App.IsServedAt client.baseUrl)
    (hroute : route ∈ App.serviceRoutes) (hservice : app.ensureService env = .ok options)
    (hpayload : Json.ReadsBack .line payload w) :
    client.post (App.transport env) route.path payload app =
      (client.receive (App.encoded (App.serve options route (some w))).reply, ⟨some options⟩) := by
  have hfind := hserved route hroute
  unfold post
  rw [App.transport_eq (App.handle_received hroute hfind hservice hpayload client.timeout)]

/-! ## What comes back -/

/-- An object with an error status is a refusal with this status. -/
theorem exists_refused (client : Client) {response : Http.Response}
    (hstatus : 400 ≤ response.status) (hbody : ∃ fields, response.body = .object fields) : ∃ text,
      client.receive response.reply = .error (.remote (.refused response.status text)) := by
  obtain ⟨fields, hfields⟩ := hbody
  obtain ⟨text, htext⟩ : ∃ text, errorText response.text = .ok text := by
    unfold errorText
    split
    · exact ⟨_, rfl⟩
    · next v hv hread =>
        rw [Http.Response.text, hfields] at hread
        obtain ⟨gs, rfl⟩ := Json.exists_fields_of_read_write hread
        exact absurd rfl (hv gs)
    · exact ⟨_, rfl⟩
  refine ⟨text, ?_⟩
  rw [Http.Response.reply, receive, if_pos (by exact_mod_cast hstatus), htext]

/-- What a body reads back as comes back. -/
theorem receive_ok {response : Http.Response} {w : Value} (hstatus : response.status = 200)
    (hbody : Json.ReadsBack .compact response.body w) :
    client.receive response.reply = .ok w := by
  have hread : Json.read response.text = .ok w := Json.read_write hbody
  rw [Http.Response.reply, receive, hstatus, if_neg (by decide), hread]
  rfl

end Client

/-- The report on a verdict reads back. -/
theorem Report.readsBack_toValue {style : Json.Style} (hstyle : style.IsStandard) (mode : Mode)
    (outcome : Outcome) : Json.ReadsBack style (ofOutcome mode outcome).toValue
      (ofOutcome mode outcome).toValue := by
  have hreason : Json.ReadsBack style (.text outcome.reason) (.text outcome.reason) :=
    Json.readsBack_text_of_joined style
      (Text.joined_of_encodable outcome.isPlain_reason.encodable)
  have hcode : outcome.code < 10 := by
    rw [Outcome.code]
    split <;> decide
  have hmode : mode.number < 10 := by cases mode <;> decide
  have hdistinct : [Text.of "valid", "result_code", "reason", "mode"].Nodup := by decide
  refine Json.readsBack_object hstyle ?_ hdistinct
  exact .cons ⟨rfl, rfl, Json.readsBack_bool style _⟩
    (.cons ⟨rfl, rfl, Json.readsBack_digit style hcode⟩
      (.cons ⟨rfl, rfl, hreason⟩ (.cons ⟨rfl, rfl, Json.readsBack_digit style hmode⟩ .nil)))

namespace App

/-- A report on a verdict can be written in bytes. -/
theorem encoded_report (mode : Mode) (outcome : Outcome) :
    encoded ⟨200, (Report.ofOutcome mode outcome).toValue⟩ =
      ⟨200, (Report.ofOutcome mode outcome).toValue⟩ := by
  have hencodable := Command.encodable_write_report mode outcome .compact
  rw [encoded, Http.Response.text, Text.encodeError?_of_encodable hencodable]

theorem exists_fields_issues (above : List Payload.Place) (list : List Payload.Issue) :
    ∃ fields, (issues above list).body = .object fields := by
  unfold issues
  split <;> exact ⟨_, rfl⟩

theorem exists_fields_serviceFailure (e : ServiceError) :
    ∃ fields, (serviceFailure e).body = .object fields := by
  cases e with
  | payload list => exact exists_fields_issues _ list
  | slots refusal => cases refusal <;> exact ⟨_, rfl⟩
  | _ => exact ⟨_, rfl⟩

/-- An answer is sent with its status, unless it cannot be written: then it is sent with 400. -/
theorem encoded_cases {response : Http.Response}
    (hbody : ∃ fields, response.body = .object fields) :
    ((encoded response).status = response.status ∨ (encoded response).status = 400) ∧
      ∃ fields, (encoded response).body = .object fields := by
  unfold encoded
  split
  · exact ⟨.inr rfl, _, rfl⟩
  · exact ⟨.inl rfl, hbody⟩

end App

/-! ## Results of a remote service and of one at hand -/

/-- What a client hands back tells what a service comes to: the report, or that there is none,
in an answer with one of some statuses. -/
structure Client.AgreesWith (statuses : List Nat) (remote : Except ClientError Value)
    (here : Except ServiceError Report) : Prop where
  report : ∀ v, remote = .ok v ↔ ∃ result, here = .ok result ∧ result.toValue = v
  refusal : (∃ e, here = .error e) ↔
    ∃ status ∈ statuses, ∃ text, remote = .error (.remote (.refused (status : Nat) text))

namespace Client.AgreesWith

variable {statuses : List Nat} {here here' : Except ServiceError Report}

/-- The answer to what a service comes to tells just that, if its errors are answered with
these statuses. -/
theorem of_answer (client : Client) (hfour : 400 ∈ statuses)
    (hstatuses : ∀ status ∈ statuses, 400 ≤ status)
    (hverdict : ∀ result, here = .ok result → result.IsVerdict)
    (hfails : FailsWith (fun e => (App.serviceFailure e).status ∈ statuses) here) :
    AgreesWith statuses
      (client.receive (App.encoded (App.respond Report.toValue here)).reply) here := by
  cases here with
  | ok result =>
      obtain ⟨mode, outcome, rfl⟩ := hverdict result rfl
      rw [App.respond, App.encoded_report,
        receive_ok rfl (Report.readsBack_toValue Json.Style.isStandard_compact mode outcome)]
      refine ⟨fun v => ?_, ?_⟩
      · simp
      · simp
  | error e =>
      obtain ⟨hstatus, hbody⟩ := App.encoded_cases (App.exists_fields_serviceFailure e)
      have hmem : (App.encoded (App.serviceFailure e)).status ∈ statuses := by
        rcases hstatus with hstatus | hstatus <;> rw [hstatus]
        · exact hfails e rfl
        · exact hfour
      obtain ⟨text, htext⟩ := exists_refused client (hstatuses _ hmem) hbody
      rw [App.respond, htext]
      exact ⟨fun v => by simp, fun _ => ⟨_, hmem, text, rfl⟩, fun _ => ⟨e, rfl⟩⟩

/-- Nothing but the reports of a service counts. -/
theorem congr {remote : Except ClientError Value} (h : AgreesWith statuses remote here)
    (heq : ∀ result, here = .ok result ↔ here' = .ok result) :
    AgreesWith statuses remote here' := by
  have herror : (∃ e, here = .error e) ↔ ∃ e, here' = .error e := by
    cases here with
    | ok result => simp [(heq result).mp rfl]
    | error e =>
        cases here' with
        | ok result => cases (heq result).mpr rfl
        | error e' => simp
  refine ⟨fun v => ?_, herror.symm.trans h.refusal⟩
  rw [h.report]
  exact exists_congr fun result => and_congr_left fun _ => heq result

end Client.AgreesWith

end MountainRange
