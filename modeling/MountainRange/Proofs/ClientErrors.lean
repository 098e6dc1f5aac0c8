import Mathlib.Algebra.Group.Nat.Defs
import MountainRange.Client
set_option autoImplicit false

/-!
# What a client tells of a reply

Whatever keeps a message from a usable answer should be told as one kind of error, with the status
of the answer if that was an error status.  A client keeps to this for every failure of the
transport and for almost every answer.  Two kinds of answers escape it: one without an error status
whose body is no JSON, and one with an error status whose body is JSON but no object.
-/

namespace MountainRange

/-- Somewhere in a value stands an integer with more digits than are ever written. -/
inductive Value.HoldsUnwritable : Value → Prop where
  | int {n : Int} (h : 10 ^ Text.Numeral.maxDigits ≤ n.natAbs) : HoldsUnwritable (.int n)
  | item {items : List Value} {v : Value} (hv : v ∈ items) (h : HoldsUnwritable v) :
      HoldsUnwritable (.array items)
  | field {fields : List (Text × Value)} {name : Text} {v : Value} (hv : (name, v) ∈ fields)
      (h : HoldsUnwritable v) : HoldsUnwritable (.object fields)

namespace Client

/-! ## Questions -/

/-- What a client is asked for.  It writes the index of a leaf to a log and integers among slots
into its message, so these have no more digits than can be written. -/
inductive Question where
  | verify (fields : List (Text × Value))
      (writable : ∀ v, Value.field? fields "leaf_index" = some v → ¬v.HoldsUnwritable)
  | verifyRaw (slots : List Value)
      (writable : ∀ n : Int, .int n ∈ slots → ¬(Value.int n).HoldsUnwritable)
  | commitment (recipient amount nonce timestamp : Value)

variable {σ : Type}

/-- The message that a question is sent as. -/
def Question.call (client : Client) : Question → Http.Call
  | .verify fields _ =>
      ⟨"POST", client.baseUrl ++ "/verify", client.timeout, some (.object fields)⟩
  | .verifyRaw slots _ =>
      ⟨"POST", client.baseUrl ++ "/verify/raw", client.timeout,
        some (.object [("fields", .array (slots.map slotToSend))])⟩
  | .commitment recipient amount nonce timestamp =>
      ⟨"POST", client.baseUrl ++ "/commitment", client.timeout,
        some (.object [("recipient", recipient), ("amount", amount), ("nonce", nonce),
          ("timestamp", timestamp)])⟩

/-- What a client hands back for a question, and the transport behind it. -/
def ask (client : Client) (transport : Http.Transport σ) (s : σ) :
    Question → Except ClientError Value × σ
  | .verify fields _ => client.verify transport (.object fields) s
  | .verifyRaw slots _ => client.verifyRaw transport (.array slots) s
  | .commitment recipient amount nonce timestamp =>
      client.commitment transport recipient amount nonce timestamp s

/-- Every question is sent once, and its reply is received in one way. -/
theorem ask_eq (client : Client) (transport : Http.Transport σ) (s : σ) (question : Question) :
    client.ask transport s question =
      (client.receive (transport (question.call client) s).1,
        (transport (question.call client) s).2) := by
  cases question <;> rfl

/-! ## Replies -/

/-- A reply is told as it should be: the value of a body without an error status, an error status
with its error, and an error without a status for all else. -/
inductive Tells : Http.Reply → Except ClientError Value → Prop where
  | value {status : Int} {body : Text} {v : Value} (hstatus : status < 400)
      (hread : Json.read body = .ok v) : Tells (.response status body) (.ok v)
  | refused {status : Int} {body : Text} {e : RemoteError} (hstatus : 400 ≤ status)
      (he : e.status? = some status) : Tells (.response status body) (.error (.remote e))
  | unread {status : Int} {body : Text} {e : RemoteError} (hstatus : status < 400)
      (hread : ∀ v, Json.read body ≠ .ok v) (he : e.status? = none) :
      Tells (.response status body) (.error (.remote e))
  | unanswered {failure : Http.Failure} {text : Text} {e : RemoteError} (he : e.status? = none) :
      Tells (.failure failure text) (.error (.remote e))

/-- A reply that ends in an error of another kind. -/
inductive Escapes : Http.Reply → ClientError → Prop where
  /-- Without an error status the body has to be JSON. -/
  | body {status : Int} {body : Text} {error : Json.ReadError} (hstatus : status < 400)
      (hread : Json.read body = .error error) :
      Escapes (.response status body) (.body body error)
  /-- With one, what is JSON has to be an object. -/
  | errorBody {status : Int} {body : Text} {v : Value} (hstatus : 400 ≤ status)
      (hread : Json.read body = .ok v) (hkind : v.kind ≠ .object) :
      Escapes (.response status body) (.errorBody v.kind)

theorem Escapes.not_remote {reply : Http.Reply} {error : ClientError} (h : Escapes reply error)
    (e : RemoteError) : error ≠ .remote e := by
  cases h <;> nofun

/-- A reply that escapes ends in the error that it escapes with. -/
theorem Escapes.receive_eq {reply : Http.Reply} {error : ClientError} (h : Escapes reply error)
    (client : Client) : client.receive reply = .error error := by
  cases h with
  | body hstatus hread =>
      rw [receive, if_neg (Int.not_le.mpr hstatus), hread]
      rfl
  | @errorBody status body v hstatus hread hkind =>
      have htext : errorText body = .error (.errorBody v.kind) := by
        unfold errorText
        rw [hread]
        cases v with
        | object fields => exact absurd rfl hkind
        | _ => rfl
      rw [receive, if_pos hstatus, htext]

/-- What is told as it should be is a value or a remote error. -/
theorem Tells.not_escapes {reply : Http.Reply} {error : ClientError}
    (h : Tells reply (.error error)) (hescapes : Escapes reply error) : False := by
  cases h <;> exact hescapes.not_remote _ rfl

/-- What an answer with an error status tells is found unless its body is JSON but no object. -/
theorem errorText_cases (body : Text) :
    (∃ text, errorText body = .ok text) ∨
      ∃ v, Json.read body = .ok v ∧ v.kind ≠ .object := by
  unfold errorText
  cases hread : Json.read body with
  | error e => exact .inl ⟨_, rfl⟩
  | ok v =>
      cases v with
      | object fields => exact .inl ⟨_, rfl⟩
      | _ => exact .inr ⟨_, rfl, nofun⟩

/-- A reply is told as it should be, or it escapes. -/
theorem tells_or_escapes (client : Client) (reply : Http.Reply) :
    Tells reply (client.receive reply) ∨ ∃ error, Escapes reply error := by
  cases reply with
  | failure failure text => cases failure <;> exact .inl (.unanswered rfl)
  | response status body =>
      by_cases hstatus : 400 ≤ status
      · rcases errorText_cases body with ⟨text, htext⟩ | ⟨v, hread, hkind⟩
        · rw [receive, if_pos hstatus, htext]
          exact .inl (.refused hstatus rfl)
        · exact .inr ⟨_, .errorBody hstatus hread hkind⟩
      · have hless := Int.not_le.mp hstatus
        cases hread : Json.read body with
        | error e => exact .inr ⟨_, .body hless hread⟩
        | ok v =>
            rw [receive, if_neg hstatus, hread]
            exact .inl (.value hless hread)

/-- A client tells a reply as it should exactly if the reply does not escape.  This holds for
every question and every transport, whatever its state: the reply decides alone.  A reply without
an error status escapes if its body is no JSON, and one with an error status if its body is JSON
but no object; each ends in an error of its own that is not remote. -/
theorem ask_tells_iff (client : Client) (transport : Http.Transport σ) (s : σ)
    (question : Question) :
    let reply := (transport (question.call client) s).1
    let answer := (client.ask transport s question).1
    (Tells reply answer ↔ ¬∃ error, Escapes reply error) ∧
      ∀ error, Escapes reply error → answer = .error error ∧ ∀ e, error ≠ .remote e := by
  intro reply answer
  have hanswer : answer = client.receive reply := congrArg Prod.fst (ask_eq client transport s _)
  rw [hanswer]
  refine ⟨⟨?_, ?_⟩, fun error h => ⟨h.receive_eq client, h.not_remote⟩⟩
  · rintro htells ⟨error, h⟩
    rw [h.receive_eq client] at htells
    exact htells.not_escapes h
  · exact fun h => (tells_or_escapes client reply).resolve_right h

/-- A service that is busy and says so in plain words, and one that does not answer in time: both
are told, the first with its status. -/
theorem ask_tells_iff_busy_and_late :
    let client := ofUrl "http://h" defaultTimeout
    let question : Question := .commitment (.text "0x1") (.int 5) (.int 0) (.int 0)
    let answer (reply : Http.Reply) := (client.ask (fun _ s => (reply, s)) () question).1
    Tells (.response 503 "busy") (answer (.response 503 "busy")) ∧
      Tells (.failure .timeout "late") (answer (.failure .timeout "late")) := by
  intro client question answer
  have hbusy : ¬∃ error, Escapes (.response 503 "busy") error := by
    rintro ⟨_, hstatus | ⟨-, hread, -⟩⟩
    · exact absurd hstatus (by decide)
    · exact absurd (hread.symm.trans (rfl : Json.read "busy" = .error _)) nofun
  have hlate : ¬∃ error, Escapes (.failure .timeout "late") error := nofun
  exact ⟨(ask_tells_iff client (fun _ s => (.response 503 "busy", s)) () question).1.mpr hbusy,
    (ask_tells_iff client (fun _ s => (.failure .timeout "late", s)) () question).1.mpr hlate⟩

/-- A list with the status of a gateway that failed, and an answer without content: neither is
told as an error of the remote service. -/
theorem ask_escapes_list_and_nothing :
    let client := ofUrl "http://h" defaultTimeout
    let question : Question := .verify [] nofun
    let answer (reply : Http.Reply) := (client.ask (fun _ s => (reply, s)) () question).1
    (answer (.response 502 "[]") = .error (.errorBody .array) ∧
        ¬Tells (.response 502 "[]") (answer (.response 502 "[]"))) ∧
      answer (.response 200 "") = .error (.body "" (.malformed .noValue 0)) ∧
        ¬Tells (.response 200 "") (answer (.response 200 "")) := by
  intro client question answer
  have hlist : Escapes (.response 502 "[]") (.errorBody .array) :=
    .errorBody (by decide) (rfl : Json.read "[]" = .ok (.array [])) nofun
  have hnothing : Escapes (.response 200 "") (.body "" (.malformed .noValue 0)) :=
    .body (by decide) rfl
  have hfirst : answer (.response 502 "[]") = .error (.errorBody .array) := hlist.receive_eq client
  have hsecond : answer (.response 200 "") = .error (.body "" (.malformed .noValue 0)) :=
    hnothing.receive_eq client
  refine ⟨⟨hfirst, fun h => ?_⟩, hsecond, fun h => ?_⟩
  · rw [hfirst] at h
    exact h.not_escapes hlist
  · rw [hsecond] at h
    exact h.not_escapes hnothing

end Client

end MountainRange
