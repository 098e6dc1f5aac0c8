import MountainRange.Proofs.ExitStatus
import MountainRange.Proofs.Invocations
import MountainRange.Proofs.Refusals
set_option autoImplicit false

/-!
# The status of `decode`

Zero and one are the verdict on the request that the fields are the slots of, and two is
told of fields that are malformed.  Two errors are not accounted for and end the command
with one, without a verdict: settings that are not valid, and a slot that is too long to be
named.
-/

namespace MountainRange.Command

/-- The status of `decode` is that of the report on its fields. -/
theorem status_run_decode {σ : Type} (env : Environment) (transport : Http.Transport σ)
    (files : Files) (s : σ) (fields : List Text) (flags : DecodeFlags) :
    ((Invocation.decode fields flags).run env transport files s).1.encoded.status =
      reportStatus files flags.format (verifySlots env flags fields) := by
  rw [Invocation.run]
  cases verifySlots env flags fields <;> rfl

/-! ## Verdicts on fields -/

/-- The settings are valid, the fields are the slots of a request, and this is the verdict
on it. -/
def DecodeVerdict (env : Environment) (legacyAnywhere : Bool) (fields : List Text)
    (outcome : Outcome) : Prop :=
  ∃ settings r, Settings.read env = .ok settings ∧
    Service.SlotsEncode (fields.map .text) r ∧
    r.explain none (settings.overridden legacyAnywhere none).options = .ok outcome

/-- An error that `decode` does not account for: settings that are not valid, or a slot that
is too long to be named. -/
def DecodeCrash (env : Environment) (fields : List Text) : Prop :=
  (∃ error, Settings.read env = .error error) ∨
    ∃ settings, Settings.read env = .ok settings ∧ Service.SlotsUnnameable (fields.map .text)

/-- The settings are valid, and the fields are malformed. -/
def DecodeMalformed (env : Environment) (fields : List Text) : Prop :=
  ∃ settings, Settings.read env = .ok settings ∧
    (¬∃ r, Service.SlotsEncode (fields.map .text) r) ∧
    ¬Service.SlotsUnnameable (fields.map .text)

section Decode

variable {env : Environment} {fields : List Text} {outcome : Outcome} (flags : DecodeFlags)

theorem decode_cases (env : Environment) (legacyAnywhere : Bool) (fields : List Text) :
    (∃ outcome, DecodeVerdict env legacyAnywhere fields outcome) ∨ DecodeCrash env fields ∨
      DecodeMalformed env fields := by
  cases hsettings : Settings.read env with
  | error error => exact .inr (.inl (.inl ⟨error, hsettings⟩))
  | ok settings =>
      by_cases hencode : ∃ r, Service.SlotsEncode (fields.map .text) r
      · obtain ⟨r, hr⟩ := hencode
        obtain ⟨outcome, houtcome, -⟩ :=
          (settings.overridden legacyAnywhere none).exists_report r none
        exact .inl ⟨outcome, settings, r, hsettings, hr, houtcome⟩
      · by_cases hunnameable : Service.SlotsUnnameable (fields.map .text)
        · exact .inr (.inl (.inr ⟨settings, hsettings, hunnameable⟩))
        · exact .inr (.inr ⟨settings, hsettings, hencode, hunnameable⟩)

theorem DecodeVerdict.verifySlots_eq (h : DecodeVerdict env flags.legacyAnywhere fields outcome) :
    ∃ mode, verifySlots env flags fields = .ok (Report.ofOutcome mode outcome).toValue := by
  obtain ⟨settings, r, hsettings, hr, houtcome⟩ := h
  obtain ⟨outcome', houtcome', hreport⟩ :=
    hr.verifySlots_eq (settings.overridden flags.legacyAnywhere none)
  obtain rfl := Except.ok.inj (houtcome.symm.trans houtcome')
  refine ⟨r.mode, ?_⟩
  rw [verifySlots, localOptions_eq, hsettings]
  show (Except.mapError _ (Service.verifySlots _ _) >>= _) = _
  rw [hreport]
  rfl

theorem DecodeCrash.verifySlots_eq (h : DecodeCrash env fields) :
    ∃ crash, verifySlots env flags fields = .error (.crashed crash) := by
  rcases h with ⟨error, hsettings⟩ | ⟨settings, hsettings, hunnameable⟩
  · refine ⟨.settings error, ?_⟩
    rw [verifySlots, localOptions_eq, hsettings]
    rfl
  · refine ⟨.service (.slots .unwritable), ?_⟩
    rw [verifySlots, localOptions_eq, hsettings]
    show (Except.mapError _ (Service.verifySlots _ _) >>= _) = _
    rw [hunnameable.verifySlots_eq]
    rfl

theorem DecodeMalformed.verifySlots_eq (h : DecodeMalformed env fields) :
    ∃ ending, verifySlots env flags fields = .error ending ∧ ending.status = 2 := by
  obtain ⟨settings, hsettings, hencode, hunnameable⟩ := h
  obtain ⟨error, herror⟩ := Service.verifySlots_eq_malformed
    (settings.overridden flags.legacyAnywhere none) (not_exists.mp hencode) hunnameable
  refine ⟨.told (.slots error), ?_, rfl⟩
  rw [verifySlots, localOptions_eq, hsettings]
  show (Except.mapError _ (Service.verifySlots _ _) >>= _) = _
  rw [herror]
  rfl

end Decode

/-- The status of `decode` is zero for a proof that is accepted and two for fields that are
malformed, given that the settings are valid.  It is one for a proof that is rejected, but
also for an error that the command does not account for. -/
theorem decode_status {σ : Type} (env : Environment) (transport : Http.Transport σ)
    (files : Files) (s : σ) {args : List Text}
    (hargs : ∀ arg ∈ args, arg = legacyArgument ∨ IsWord arg) (hfields : fieldsOf args ≠ []) :
    let legacyAnywhere := decide (legacyArgument ∈ args)
    let fields := fieldsOf args
    let status := (run env transport files ("decode" :: args) s).1.status
    (status = 0 ↔ DecodeVerdict env legacyAnywhere fields .accepted) ∧
      (status = 1 ↔
        (∃ rejection, DecodeVerdict env legacyAnywhere fields (.rejected rejection)) ∨
          DecodeCrash env fields) ∧
      (status = 2 ↔ DecodeMalformed env fields) := by
  intro legacyAnywhere fields status
  have hstatus : status = reportStatus files .table (verifySlots env { legacyAnywhere } fields) :=
    (status_run env transport files s (Invocation.read_decode files hargs hfields)).trans
      (status_run_decode env transport files s fields { legacyAnywhere })
  rw [hstatus]
  exact reportStatus_iff files .table
    (fun _ h => DecodeVerdict.verifySlots_eq { legacyAnywhere } h)
    (fun h => h.verifySlots_eq { legacyAnywhere }) (fun h => h.verifySlots_eq { legacyAnywhere })
    (decode_cases env legacyAnywhere fields)

/-- A compact request with a peak in an empty range, and the option for legacy proofs behind
its fields. -/
theorem decode_status_rejected :
    let env : Environment := fun _ => none
    let fields : List Text := ["2", "0", "0", "0", "0", "0", "1", "0"]
    let args : List Text := fields ++ [legacyArgument]
    (∀ arg ∈ args, arg = legacyArgument ∨ IsWord arg) ∧ fieldsOf args ≠ [] ∧
      DecodeVerdict env true fields (.rejected (.peakCount 0 0 1)) ∧
      (run env (App.transport env) .empty ("decode" :: args) .initial).1.status = 1 := by
  intro env fields args
  have hargs : ∀ arg ∈ args, arg = legacyArgument ∨ IsWord arg := by decide
  have hfields : fieldsOf args ≠ [] := by decide
  have hverdict : DecodeVerdict env true fields (.rejected (.peakCount 0 0 1)) := by
    let settings : Settings :=
      ⟨.positional, .oddIsLeft, 0, "127.0.0.1", 8000, "http://127.0.0.1:8000"⟩
    have hfits : Encoding.Fits (.compact strayPeak) := ⟨by decide, by decide⟩
    exact ⟨settings, .compact strayPeak, rfl, ⟨hfits, rfl⟩, explain_strayPeak rfl⟩
  exact ⟨hargs, hfields, hverdict, (decode_status env (App.transport env) .empty .initial hargs
    hfields).2.1.mpr (.inl ⟨_, hverdict⟩)⟩

/-- A port that is no number: there is no verdict, and the status is one. -/
theorem decode_status_without_verdict :
    let env : Environment := .ofList [(Settings.portVariable, "x")]
    (∀ outcome, ¬DecodeVerdict env false ["1"] outcome) ∧
      (run env (App.transport env) .empty ["decode", "1"] .initial).1.status = 1 := by
  intro env
  have hsettings : Settings.read env = .error (.port "x") := rfl
  have hcrash : DecodeCrash env ["1"] := .inl ⟨_, hsettings⟩
  obtain ⟨crash, hreport⟩ := hcrash.verifySlots_eq {}
  have hread : Invocation.read .empty ["decode", "1"] = .ok (.decode ["1"] {}) :=
    Invocation.read_decode .empty (by decide) (by decide)
  refine ⟨?_, ?_⟩
  · rintro outcome ⟨settings, -, hok, -⟩
    rw [hsettings] at hok
    cases hok
  · rw [status_run env (App.transport env) .empty .initial hread, status_run_decode, hreport]
    rfl

end MountainRange.Command
