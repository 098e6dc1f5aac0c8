import MountainRange.Http
import MountainRange.Settings
import MountainRange.Value.Quoted
set_option autoImplicit false

/-!
# The client

Asks a remote service for verdicts and commitments.  Whatever keeps a message from a
usable answer is told as one kind of error, with the status of the answer if there
was one.
-/

namespace MountainRange

/-- A client of a remote service. -/
structure Client where
  baseUrl : Text
  timeout : Value
  deriving Repr

/-- Why there is no client. -/
inductive ClientSetupError where
  /-- The address is no text. -/
  | notText (kind : Kind)
  /-- The settings name no address. -/
  | settings (error : SettingsError)
  deriving Repr

/-- The remote service gave no usable answer. -/
inductive RemoteError where
  | unreachable (baseUrl text : Text)
  | timedOut (baseUrl text : Text)
  | failed (baseUrl text : Text)
  /-- The answer has an error status. -/
  | refused (status : Int) (text : Text)
  deriving DecidableEq, Repr

/-- The text of a remote error. -/
def RemoteError.message : RemoteError → Text
  | .unreachable baseUrl text =>
      "Failed to connect to verifier API at " ++ baseUrl ++ ". Original error: " ++ text
  | .timedOut baseUrl text =>
      "Timeout connecting to verifier API at " ++ baseUrl ++ ". Original error: " ++ text
  | .failed baseUrl text =>
      "Request failed to verifier API at " ++ baseUrl ++ ". Error: " ++ text
  | .refused status text => s!"Verifier API returned {status}: " ++ text

/-- The status of the answer behind a remote error, if there was one. -/
def RemoteError.status? : RemoteError → Option Int
  | .refused status _ => some status
  | _ => none

/-- Why a client hands back nothing. -/
inductive ClientError where
  | remote (error : RemoteError)
  /-- The payload is no object. -/
  | payload (kind : Kind)
  /-- The slots are no sequence. -/
  | slots (kind : Kind)
  /-- An answer with an error status holds JSON, but no object. -/
  | errorBody (kind : Kind)
  /-- An answer without an error status holds no JSON. -/
  | body (document : Text) (error : Json.ReadError)
  deriving Repr

/-- The text of a client error. -/
def ClientError.message : ClientError → Text
  | .remote error => error.message
  | .payload kind => s!"an object is required, got {kind.label}"
  | .slots kind => s!"a sequence is required, got {kind.label}"
  | .errorBody kind => s!"an object is required in an answer, got {kind.label}"
  | .body document error => error.message document

namespace Client

/-- How long an answer is waited for if nothing else is asked for. -/
def defaultTimeout : Value := .int 30

/-- How long an answer about health is waited for. -/
def healthTimeout : Value := .int 10

/-- The client of an address.  Slashes at its end are left out. -/
def ofUrl (url : Text) (timeout : Value) : Client := ⟨Http.withoutSlashes url, timeout⟩

/-- The client of the address that the settings name. -/
def ofSettings (env : Environment) (timeout : Value) : Except SettingsError Client :=
  (Settings.read env).map fun settings => ofUrl settings.apiUrl timeout

/-- The client of an address, or of the one in the settings where it is left open. -/
def make (env : Environment) (baseUrl timeout : Value) : Except ClientSetupError Client :=
  if baseUrl.isTruthy then
    match baseUrl with
    | .text url => .ok (ofUrl url timeout)
    | v => .error (.notText v.kind)
  else (ofSettings env timeout).mapError .settings

/-- The headers of every message. -/
def headers : Value :=
  .object [("Content-Type", .text "application/json"), ("Accept", .text "application/json")]

/-- What an answer with an error status tells: its error, or all of it. -/
def errorText (body : Text) : Except ClientError Text :=
  match Json.read body with
  | .ok (.object fields) =>
      .ok (match Value.field? fields "error" with
        | some error => error.shown
        | none => body)
  | .ok v => .error (.errorBody v.kind)
  | .error _ => .ok body

/-- What a client makes of a reply. -/
def receive (client : Client) : Http.Reply → Except ClientError Value
  | .failure .connection text => .error (.remote (.unreachable client.baseUrl text))
  | .failure .timeout text => .error (.remote (.timedOut client.baseUrl text))
  | .failure .other text => .error (.remote (.failed client.baseUrl text))
  | .response status body =>
      if 400 ≤ status then
        match errorText body with
        | .ok text => .error (.remote (.refused status text))
        | .error error => .error error
      else (Json.read body).mapError (.body body)

variable {σ : Type}

/-- Sends a payload and waits for the answer. -/
def post (client : Client) (transport : Http.Transport σ) (path : Text) (payload : Value)
    (s : σ) : Except ClientError Value × σ :=
  let (reply, s) := transport ⟨"POST", client.baseUrl ++ path, client.timeout, some payload⟩ s
  (client.receive reply, s)

/-- Asks for the verdict on a structured proof. -/
def verify (client : Client) (transport : Http.Transport σ) (payload : Value) (s : σ) :
    Except ClientError Value × σ :=
  match payload with
  | .object _ => client.post transport "/verify" payload s
  | v => (.error (.payload v.kind), s)

/-- A slot as it is sent: whatever counts as an integer goes as its text. -/
def slotToSend : Value → Value
  | .int n => .text (Value.int n).quoted
  | .bool b => .text (Value.bool b).quoted
  | v => v

/-- Asks for the verdict on an encoded request. -/
def verifyRaw (client : Client) (transport : Http.Transport σ) (fields : Value) (s : σ) :
    Except ClientError Value × σ :=
  match fields.iterate? with
  | none => (.error (.slots fields.kind), s)
  | some items =>
      client.post transport "/verify/raw" (.object [("fields", .array (items.map slotToSend))]) s

/-- Asks for the commitment of a deposit. -/
def commitment (client : Client) (transport : Http.Transport σ)
    (recipient amount nonce timestamp : Value) (s : σ) : Except ClientError Value × σ :=
  client.post transport "/commitment"
    (.object [("recipient", recipient), ("amount", amount), ("nonce", nonce),
      ("timestamp", timestamp)]) s

/-- Asks whether the service is there. -/
def health (client : Client) (transport : Http.Transport σ) (s : σ) : Bool × σ :=
  match transport ⟨"GET", client.baseUrl ++ "/health", healthTimeout, none⟩ s with
  | (.response status _, s) => (status = 200, s)
  | (.failure _ _, s) => (false, s)

end Client

end MountainRange
