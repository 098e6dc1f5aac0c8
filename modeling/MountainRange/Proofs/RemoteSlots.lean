import MountainRange.Proofs.Deliveries
import MountainRange.Proofs.WrittenSlots
set_option autoImplicit false

/-!
# Slots that are sent to a remote service

A client sends integers as their decimals, and in a text two halves of a character that follow
each other arrive as the character.  The remote service reads what arrives, and comes to the same
report as the service at hand, or has none to give either.
-/

namespace MountainRange

namespace Client

open Text.Numeral (maxDigits)

/-- A text, or an integer that is not too long to be written. -/
inductive IsSlot : Value → Prop where
  | text (t : Text) : IsSlot (.text t)
  | int {n : Int} (hn : n.natAbs < Nat.pow 10 maxDigits) : IsSlot (.int n)

/-- A slot as it arrives: two halves of a character that follow each other in a text arrive as
the character. -/
def arrived : Value → Value
  | .text t => .text t.joined
  | v => v

variable {v : Value} {items : List Value}

/-- What is sent in place of a slot is a text, which arrives. -/
theorem IsSlot.exists_text (h : IsSlot v) :
    ∃ t, slotToSend v = .text t ∧ ToldAs (arrived v) (.text t.joined) := by
  cases h with
  | text t => exact ⟨t, rfl, .same _⟩
  | @int n hn =>
      have hjoined : (Text.of (toString n)).joined = Text.of (toString n) :=
        Text.joined_of_encodable (Text.isPlain_of_intRepr n).encodable
      refine ⟨Text.of (toString n), rfl, ?_⟩
      rw [hjoined]
      exact .decimal hn

/-- Slots arrive as texts that tell the same. -/
theorem exists_arrived (h : ∀ v ∈ items, IsSlot v) : ∃ others : List Value,
    List.Forall₂ (Json.ReadsBack .line) (items.map slotToSend) others ∧
      List.Forall₂ ToldAs (items.map arrived) others ∧ ∀ v ∈ others, v.kind = .text := by
  induction items with
  | nil => exact ⟨[], .nil, .nil, nofun⟩
  | cons v items ih =>
      obtain ⟨hslot, hitems⟩ := List.forall_mem_cons.mp h
      obtain ⟨t, hsent, htold⟩ := hslot.exists_text
      obtain ⟨others, hread, htolds, hkinds⟩ := ih hitems
      have hfirst : Json.ReadsBack .line (slotToSend v) (.text t.joined) := by
        rw [hsent]
        exact Json.readsBack_text .line t
      exact ⟨.text t.joined :: others, .cons hfirst hread, .cons htold htolds,
        List.forall_mem_cons.mpr ⟨rfl, hkinds⟩⟩

/-- The remote service comes to what the slots come to as they arrive. -/
theorem agreesWith_arrived (settings : Settings) {client : Client} {app : App}
    {env : Environment} (hserved : App.IsServedAt client.baseUrl)
    (hservice : app.ensureService env = .ok settings.options) (hitems : ∀ v ∈ items, IsSlot v) :
    AgreesWith [400] (client.verifyRaw (App.transport env) (.array items) app).1
      (Service.verifySlots settings.options (items.map arrived)) := by
  obtain ⟨others, hread, htold, hkinds⟩ := exists_arrived hitems
  let body : Payload.Fields := [("fields", .array others)]
  have hpayload : Json.ReadsBack .line (.object [("fields", .array (items.map slotToSend))])
      (.object body) :=
    Json.readsBack_object Json.Style.isStandard_line
      (.cons ⟨rfl, rfl, Json.readsBack_array Json.Style.isStandard_line hread⟩ .nil) (by simp)
  have hroute : App.Route.verifyRaw ∈ App.serviceRoutes := by decide
  have hpost := post_transport hserved hroute hservice hpayload
  have hserve : App.serve settings.options .verifyRaw (some (.object body)) =
      App.respond Report.toValue (Service.verifySlots settings.options others) :=
    App.serve_verifyRaw rfl fun v hv => .inr (hkinds v hv)
  have hanswer : (client.verifyRaw (App.transport env) (.array items) app).1 =
      client.receive (App.encoded (App.respond Report.toValue
        (Service.verifySlots settings.options others))).reply := by
    rw [← hserve]
    exact congrArg Prod.fst hpost
  rw [hanswer]
  refine (AgreesWith.of_answer client (by decide) (by decide)
    (fun _ => Service.isVerdict_of_verifySlots)
    (Service.failsWith_verifySlots (by decide) (fun _ => ?_) settings others)).congr
      fun result => ?_
  · exact List.mem_singleton.mpr rfl
  · exact (Service.verifySlots_eq_ok_congr htold).symm

/-- The report on slots of a request with a peak in an empty range, if peaks are counted. -/
theorem verifySlots_strayPeak (settings : Settings)
    (h : Service.SlotsEncode items (.compact Command.strayPeak))
    (hcounted : settings.options.relaxes 0 .compact = .ok false) :
    Service.verifySlots settings.options items =
      .ok (.ofOutcome .compact (.rejected (.peakCount 0 0 1))) := by
  obtain ⟨outcome, houtcome, hreport⟩ := h.verifySlots_eq settings
  obtain rfl := Except.ok.inj (houtcome.symm.trans (Command.explain_strayPeak hcounted))
  exact hreport

/-- The remote verdict on slots is the one of the service at hand on the slots as they arrive: the
same report, or a refusal with status 400 where the service at hand has no report.  Slots are
texts, and integers of either sign that are not too long to be written.  A text arrives as it
is unless it holds the halves of a character one after the other, and without such a text the
verdict is the one on the slots themselves. -/
theorem verifyRaw_agrees_with_service (settings : Settings) {client : Client} {app : App}
    {env : Environment} (hserved : App.IsServedAt client.baseUrl)
    (hservice : app.ensureService env = .ok settings.options) {items : List Value}
    (hitems : ∀ v ∈ items, IsSlot v) :
    let remote := (client.verifyRaw (App.transport env) (.array items) app).1
    AgreesWith [400] remote
        (Service.verifyRaw settings.options (.array (items.map arrived))) ∧
      ((∀ t, .text t ∈ items → t.IsUnpaired) →
        AgreesWith [400] remote (Service.verifyRaw settings.options (.array items))) := by
  intro remote
  have harrived := agreesWith_arrived settings hserved hservice hitems
  refine ⟨harrived, fun hunpaired => ?_⟩
  have hsame : items.map arrived = items := by
    refine (List.map_congr_left fun v hv => ?_).trans (List.map_id items)
    cases v with
    | text t => exact congrArg Value.text (Text.joined_eq_self_iff.mpr (hunpaired t hv))
    | _ => rfl
  rw [hsame] at harrived
  exact harrived

/-- A compact request with a peak in an empty range, its slots told in several ways, and the same
with a mode below zero. -/
theorem verifyRaw_agrees_with_service_mixed_slots :
    let env : Environment := fun _ => none
    let settings : Settings :=
      ⟨.positional, .oddIsLeft, 0, "127.0.0.1", 8000, "http://127.0.0.1:8000"⟩
    let client := Client.ofUrl settings.apiUrl Client.defaultTimeout
    let slots (mode : Int) : List Value :=
      [.int mode, .text "0x0", .int 0, .text "00", .int 0, .text "٠", .text " 1 ", .int 0]
    let remote (mode : Int) :=
      (client.verifyRaw (App.transport env) (.array (slots mode)) .initial).1
    App.IsServedAt client.baseUrl ∧ App.initial.ensureService env = .ok settings.options ∧
      (∀ v ∈ slots 2, IsSlot v) ∧
      remote 2 = .ok (Report.ofOutcome .compact (.rejected (.peakCount 0 0 1))).toValue ∧
      ∃ text, remote (-2) = .error (.remote (.refused 400 text)) := by
  intro env settings client slots remote
  have hserved : App.IsServedAt client.baseUrl := Http.isServedAt_localhost
  have hservice : App.initial.ensureService env = .ok settings.options := rfl
  have hsmall : ∀ n : Int, n.natAbs < 10 → IsSlot (.int n) := fun n hn =>
    .int (Nat.lt_of_lt_of_le hn Text.Numeral.ten_le_pow_maxDigits)
  have hslots : ∀ mode : Int, mode.natAbs < 10 → ∀ v ∈ slots mode, IsSlot v := by
    intro mode hmode
    simp only [slots, List.forall_mem_cons, List.not_mem_nil, false_implies, implies_true, and_true]
    exact ⟨hsmall _ hmode, .text _, hsmall _ (by decide), .text _, hsmall _ (by decide), .text _,
      .text _, hsmall _ (by decide)⟩
  have hunpaired : ∀ mode : Int, ∀ t, .text t ∈ slots mode → t.IsUnpaired := by
    intro mode t ht
    simp only [slots, List.mem_cons, Value.text.injEq, List.not_mem_nil, or_false, reduceCtorEq,
      false_or] at ht
    rcases ht with rfl | rfl | rfl | rfl <;> decide
  have hencode : Service.SlotsEncode (slots 2) (.compact Command.strayPeak) :=
    ⟨⟨by decide, by decide⟩, rfl⟩
  have hreport := verifySlots_strayPeak settings hencode rfl
  have haccepted := (verifyRaw_agrees_with_service settings hserved hservice
    (hslots 2 (by decide))).2 (hunpaired 2)
  have hrefused := (verifyRaw_agrees_with_service settings hserved hservice
    (hslots (-2) (by decide))).2 (hunpaired (-2))
  obtain ⟨status, hstatus, text, htext⟩ := hrefused.refusal.mp ⟨_, rfl⟩
  obtain rfl := List.mem_singleton.mp hstatus
  exact ⟨hserved, hservice, hslots 2 (by decide), (haccepted.report _).mpr ⟨_, hreport, rfl⟩,
    text, htext⟩

/-- The halves of a digit two in the place of the mode: the request is one where it arrives, and
none at hand. -/
theorem verifyRaw_joins_halves :
    let env : Environment := fun _ => none
    let settings : Settings :=
      ⟨.positional, .oddIsLeft, 0, "127.0.0.1", 8000, "http://127.0.0.1:8000"⟩
    let client := Client.ofUrl settings.apiUrl Client.defaultTimeout
    let halves : Text := [.surrogate ⟨0xD835, by decide⟩, .surrogate ⟨0xDFD0, by decide⟩]
    let slots : List Value :=
      [.text halves, .text "0", .text "0", .text "0", .text "0", .text "0", .text "1", .text "0"]
    let remote := (client.verifyRaw (App.transport env) (.array slots) .initial).1
    App.IsServedAt client.baseUrl ∧ App.initial.ensureService env = .ok settings.options ∧
      (∀ v ∈ slots, IsSlot v) ∧
      remote = .ok (Report.ofOutcome .compact (.rejected (.peakCount 0 0 1))).toValue ∧
      (∃ e, Service.verifyRaw settings.options (.array slots) = .error e) ∧
      ¬AgreesWith [400] remote (Service.verifyRaw settings.options (.array slots)) := by
  intro env settings client halves slots remote
  have hserved : App.IsServedAt client.baseUrl := Http.isServedAt_localhost
  have hservice : App.initial.ensureService env = .ok settings.options := rfl
  have hslots : ∀ v ∈ slots, IsSlot v := by
    simp only [slots, List.forall_mem_cons, List.not_mem_nil, false_implies, implies_true, and_true]
    exact ⟨.text _, .text _, .text _, .text _, .text _, .text _, .text _, .text _⟩
  have hencode : Service.SlotsEncode (slots.map arrived) (.compact Command.strayPeak) :=
    ⟨⟨by decide, by decide⟩, rfl⟩
  have hreport := verifySlots_strayPeak settings hencode rfl
  have hremote : remote = .ok (Report.ofOutcome .compact (.rejected (.peakCount 0 0 1))).toValue :=
    ((agreesWith_arrived settings hserved hservice hslots).report _).mpr ⟨_, hreport, rfl⟩
  have hhere : ∃ e, Service.verifyRaw settings.options (.array slots) = .error e := ⟨_, rfl⟩
  refine ⟨hserved, hservice, hslots, hremote, hhere, fun hagrees => ?_⟩
  obtain ⟨e, he⟩ := hhere
  obtain ⟨result, hresult, -⟩ := (hagrees.report _).mp hremote
  rw [he] at hresult
  cases hresult

end Client

end MountainRange
