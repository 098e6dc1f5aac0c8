import MountainRange.Proofs.Answers
set_option autoImplicit false

/-!
# Histories of the application

The application gets its service from the first message that comes as far as the service and
whose environment holds valid settings.  Until then there is no service, whatever else came in;
from then on nothing changes it, and every answer is the one that the message alone would have
had.
-/

namespace MountainRange.App

/-! ## Messages that may bring a service -/

/-- A message that comes as far as the service: its route needs it, and its body can be read. -/
structure ReachesService (request : Http.Request) : Prop where
  needs : NeedsService request
  readable : ∃ body, readBody request.body = .ok body

/-- A message that comes as far as the service, with valid settings in its environment. -/
structure Brings (message : Incoming) (settings : Settings) : Prop where
  reaches : ReachesService message.2
  read : Settings.read message.1 = .ok settings

/-- Messages none of which brings settings. -/
def NoneBrings (messages : List Incoming) : Prop :=
  ∀ message ∈ messages, ∀ settings, ¬Brings message settings

/-- The application with a service of some settings.  Of these the service uses the options for
the verifier. -/
def preset (settings : Settings) : App := ⟨some settings.options⟩

/-! ## One message -/

section Step

variable {request : Http.Request} {settings : Settings}

/-- A message for a route that needs the service is answered as its body is. -/
theorem answer_of_post (app : App) (env : Environment) {route : Route}
    (hpost : request.method = "POST") (hroute : route ∈ serviceRoutes)
    (hfind : Route.find? request.path = some route) :
    app.answer env request = (.response (encoded (app.handleBody env route request.body).1),
      (app.handleBody env route request.body).2) := by
  rw [answer_of_not_moved app env (Route.moved?_of_find? hfind),
    handleHere_of_post app env hpost hroute hfind]

/-- A message that needs no service is answered without a look at the application, and leaves it
as it is. -/
theorem answer_of_not_needsService (h : ¬NeedsService request) (app app' : App)
    (env env' : Environment) : app.answer env request = ((app'.answer env' request).1, app) := by
  unfold answer handleHere
  cases Route.moved? request.path with
  | some path => rfl
  | none =>
      cases hfind : Route.find? request.path with
      | none => rfl
      | some route =>
          dsimp only
          unfold handleAt
          by_cases hmethod : request.method ∉ route.methods
          · rw [if_pos hmethod, if_pos hmethod]
          · have hposted : route ∉ serviceRoutes := by
              intro hroute
              refine h ⟨?_, route, hroute, hfind⟩
              rcases mem_serviceRoutes.mp hroute with rfl | rfl | rfl <;>
                simpa [Route.methods] using hmethod
            rw [if_neg hmethod, if_neg hmethod]
            cases route with
            | index | health | page => rfl
            | verify | verifyRaw | commitment => exact absurd (by decide) hposted

/-- A service that is there answers whatever stands in the environment, and stays. -/
theorem answer_preset (settings : Settings) (env env' : Environment) (request : Http.Request) :
    (preset settings).answer env request =
      (((preset settings).answer env' request).1, preset settings) := by
  by_cases hneeds : NeedsService request
  · obtain ⟨hpost, route, hroute, hfind⟩ := hneeds
    rw [answer_of_post _ env hpost hroute hfind, answer_of_post _ env' hpost hroute hfind]
    unfold handleBody
    cases readBody request.body <;> rfl
  · exact answer_of_not_needsService hneeds _ _ env env'

theorem ensureService_initial (env : Environment) :
    initial.ensureService env = (Settings.read env).map Settings.options := rfl

/-- The message that brings the settings of the service is answered as by a service of these
settings, which it leaves behind. -/
theorem answer_initial_of_brings {env : Environment} (h : Brings (env, request) settings)
    (env' : Environment) :
    initial.answer env request =
      (((preset settings).answer env' request).1, preset settings) := by
  obtain ⟨body, hbody⟩ := h.reaches.readable
  obtain ⟨hpost, route, hroute, hfind⟩ := h.reaches.needs
  rw [answer_of_post _ env hpost hroute hfind, answer_of_post _ env' hpost hroute hfind]
  unfold handleBody
  rw [hbody]
  dsimp only
  rw [ensureService_initial, h.read]
  rfl

/-- Any other message leaves no service behind. -/
theorem answer_initial_of_not_brings {env : Environment}
    (h : ∀ settings, ¬Brings (env, request) settings) :
    (initial.answer env request).2 = initial := by
  by_cases hneeds : NeedsService request
  · have ⟨hpost, route, hroute, hfind⟩ := hneeds
    rw [answer_of_post _ env hpost hroute hfind]
    unfold handleBody
    cases hbody : readBody request.body with
    | error response => rfl
    | ok body =>
        cases hread : Settings.read env with
        | error e =>
            dsimp only
            rw [ensureService_initial, hread]
            rfl
        | ok settings => exact absurd ⟨⟨hneeds, body, hbody⟩, hread⟩ (h settings)
  · exact congrArg Prod.snd (answer_of_not_needsService hneeds initial initial env env)

end Step

/-! ## Many messages -/

/-- What comes of messages that come in one after the other, and the application behind
them. -/
def answerAll (app : App) : List Incoming → List Http.Answer × App
  | [] => ([], app)
  | (env, request) :: rest =>
      let (answer, app) := app.answer env request
      let (answers, app) := app.answerAll rest
      (answer :: answers, app)

theorem answerAll_append (app : App) (before after : List Incoming) :
    app.answerAll (before ++ after) =
      ((app.answerAll before).1 ++ ((app.answerAll before).2.answerAll after).1,
        ((app.answerAll before).2.answerAll after).2) := by
  induction before generalizing app with
  | nil => rfl
  | cons message before ih =>
      obtain ⟨env, request⟩ := message
      simp only [List.cons_append, answerAll, ih]

/-- A service that is there answers every message as if it came alone, in any environment. -/
theorem answerAll_preset (settings : Settings) (env : Incoming → Environment)
    (messages : List Incoming) :
    (preset settings).answerAll messages =
      (messages.map fun message => ((preset settings).answer (env message) message.2).1,
        preset settings) := by
  induction messages with
  | nil => rfl
  | cons message messages ih =>
      obtain ⟨env', request⟩ := message
      rw [answerAll, answer_preset settings env' (env (env', request)) request]
      dsimp only
      rw [ih, List.map_cons]

/-- As long as no message brings settings there is no service. -/
theorem answerAll_initial {messages : List Incoming} (h : NoneBrings messages) :
    (initial.answerAll messages).2 = initial := by
  induction messages with
  | nil => rfl
  | cons message messages ih =>
      obtain ⟨env, request⟩ := message
      obtain ⟨hfirst, hrest⟩ := List.forall_mem_cons.mp h
      rw [answerAll]
      dsimp only
      rw [answer_initial_of_not_brings hfirst]
      exact ih hrest

/-- Behind the first message that brings settings there is the service of these settings, and
every message from that one on is answered as by this service alone. -/
theorem answerAll_of_brings {before later : List Incoming} {message : Incoming}
    {settings : Settings} (hbefore : NoneBrings before) (h : Brings message settings)
    (env : Incoming → Environment) :
    initial.answerAll (before ++ message :: later) =
      ((initial.answerAll before).1 ++
        (message :: later).map fun m => ((preset settings).answer (env m) m.2).1,
        preset settings) := by
  obtain ⟨env', request⟩ := message
  rw [answerAll_append, answerAll_initial hbefore, answerAll,
    answer_initial_of_brings h (env (env', request))]
  dsimp only
  rw [answerAll_preset settings env, List.map_cons]

/-- Among messages there is a first one that brings settings, or none does. -/
theorem exists_first_brings (messages : List Incoming) :
    NoneBrings messages ∨
      ∃ before message later settings, messages = before ++ message :: later ∧
        NoneBrings before ∧ Brings message settings := by
  induction messages with
  | nil => exact .inl nofun
  | cons message messages ih =>
      by_cases hfirst : ∃ settings, Brings message settings
      · obtain ⟨settings, hfirst⟩ := hfirst
        exact .inr ⟨[], message, messages, settings, rfl, nofun, hfirst⟩
      · have hfirst' : ∀ settings, ¬Brings message settings := not_exists.mp hfirst
        rcases ih with hnone | ⟨before, found, later, settings, rfl, hbefore, hfound⟩
        · exact .inl (List.forall_mem_cons.mpr ⟨hfirst', hnone⟩)
        · exact .inr ⟨message :: before, found, later, settings, rfl,
            List.forall_mem_cons.mpr ⟨hfirst', hbefore⟩, hfound⟩

/-- The service is set once, and answers do not depend on what came before.  If no message comes
as far as the service with valid settings, there is no service at any time.  Otherwise the first
such message sets it: up to that message there is none, and after it the service has the settings
of that message for good.  From that message on every answer is the one that the message would
get as the only one to an application preset with these settings, in its own environment or in any
other. -/
theorem service_set_once (messages : List Incoming) :
    (NoneBrings messages ∧ ∀ n, (initial.answerAll (messages.take n)).2 = initial) ∨
      ∃ before message later settings, messages = before ++ message :: later ∧
        NoneBrings before ∧ Brings message settings ∧
        (∀ n, (initial.answerAll (messages.take n)).2 =
          if n ≤ before.length then initial else preset settings) ∧
        ∀ env : Incoming → Environment,
          (initial.answerAll messages).1 = (initial.answerAll before).1 ++
            (message :: later).map fun m => ((preset settings).answer (env m) m.2).1 := by
  rcases exists_first_brings messages with
    hnone | ⟨before, message, later, settings, rfl, hbefore, hmessage⟩
  · exact .inl ⟨hnone, fun n => answerAll_initial fun m hm => hnone m (List.mem_of_mem_take hm)⟩
  · refine .inr ⟨before, message, later, settings, rfl, hbefore, hmessage, fun n => ?_,
      fun env => congrArg Prod.fst (answerAll_of_brings hbefore hmessage env)⟩
    by_cases hn : n ≤ before.length
    · rw [if_pos hn, List.take_append_of_le_length hn]
      exact answerAll_initial fun m hm => hbefore m (List.mem_of_mem_take hm)
    · obtain ⟨k, rfl⟩ := Nat.exists_eq_add_of_lt (Nat.lt_of_not_le hn)
      rw [if_neg hn, Nat.add_assoc, List.take_length_add_append, List.take_succ_cons]
      exact congrArg Prod.snd (answerAll_of_brings hbefore hmessage Prod.fst)

/-- A port that is no number keeps a message from bringing a service.  The next message sets it, and
the same port does no harm any more. -/
example :
    let bad : Environment := .ofList [(Settings.portVariable, "x")]
    let legacy : Environment := .ofList [(Settings.peakMatchVariable, "Anywhere")]
    let request : Http.Request := ⟨"POST", "/verify", [0x7B, 0x7D]⟩
    (initial.answerAll [(bad, request), (legacy, request), (bad, request)]).2.service =
      some ⟨.anywhere, .oddIsLeft, .below 0⟩ := by rfl

end MountainRange.App
