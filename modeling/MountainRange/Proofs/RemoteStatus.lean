import MountainRange.Proofs.Deliveries
import MountainRange.Proofs.ExpectedLeaves
set_option autoImplicit false

/-!
# The status of `verify` with a remote service

Whether the service at hand is asked or a remote one of the same settings, `verify` ends with
the same status.  A payload that makes no request is an error of the service at hand and a
refusal of the remote one, and both are told to be malformed input.
-/

namespace MountainRange

/-! ## Payloads at a remote service -/

theorem Service.isVerdict_of_verify {options : Options} {fields : Payload.Fields}
    {result : Report} (h : verify options (.object fields) = .ok result) : result.IsVerdict := by
  obtain ⟨p, -, h⟩ := bind_eq_ok_iff.mp h
  exact isVerdict_of_verifyProof h

namespace Command

/-! ## Runs -/

section Runs

variable {σ : Type} (env : Environment) (transport : Http.Transport σ) (files : Files) (s : σ)
variable {file : InputFile} {fields : Payload.Fields}

/-- Without a remote service the status is that of the report on the payload at hand. -/
theorem status_verify_here (hload : loadProof file = .ok fields) (flags : VerifyFlags)
    (hhere : flags.remote.getD [] = []) :
    ((Invocation.verify file flags).run env transport files s).1.encoded.status =
      reportStatus files flags.format
        (verifyHere env flags (withExpectedLeaf fields flags.expectedLeaf)) := by
  have hremote : flags.remote = none ∨ flags.remote = some [] := by
    cases hurl : flags.remote with
    | none => exact .inl rfl
    | some url =>
        rw [hurl, Option.getD_some] at hhere
        exact .inr (congrArg some hhere)
  rw [Invocation.run, runVerify, hload]
  dsimp only
  rcases hremote with hremote | hremote <;>
    rw [hremote] <;> cases verifyHere env flags (withExpectedLeaf fields flags.expectedLeaf) <;> rfl

end Runs

/-! ## The status of a report -/

/-- The status for what a service comes to: the verdict, or two. -/
def serviceStatus : Except ServiceError Report → Nat
  | .ok result => verdictStatus result.valid
  | .error _ => 2

variable {settings : Settings} {fields : Payload.Fields}

/-- The report at hand is that of the service under the settings as the options change them. -/
theorem reportStatus_verifyHere_overridden {env : Environment}
    (hsettings : Settings.read env = .ok settings) (files : Files) (flags : VerifyFlags)
    (format : Format) :
    reportStatus files format (verifyHere env flags fields) =
      serviceStatus (Service.verify
        (settings.overridden flags.legacyAnywhere flags.parity).options (.object fields)) := by
  generalize hchanged : settings.overridden flags.legacyAnywhere flags.parity = changed
  have hresult : verifyHere env flags fields =
      (Service.verify changed.options (.object fields)).mapError Ending.ofProofError >>=
        fun result => .ok result.toValue := by
    rw [verifyHere, localOptions_eq, hsettings, ← hchanged]
    rfl
  rw [hresult]
  cases hverify : Service.verify changed.options (.object fields) with
  | ok result =>
      obtain ⟨mode, outcome, rfl⟩ := Service.isVerdict_of_verify hverify
      exact reportStatus_ofOutcome files format mode outcome
  | error e => exact status_ofProofError (Service.failsWith_verify changed fields e hverify)

/-- The payload makes a request, and this is the verdict on it. -/
def PayloadVerdict (settings : Settings) (fields : Payload.Fields) (outcome : Outcome) : Prop :=
  ∃ r expected, Service.Builds fields r expected ∧
    r.explain expected settings.options = .ok outcome

theorem serviceStatus_iff (settings : Settings) (fields : Payload.Fields) :
    let status := serviceStatus (Service.verify settings.options (.object fields))
    (status = 0 ↔ PayloadVerdict settings fields .accepted) ∧
      (status = 1 ↔ ∃ rejection, PayloadVerdict settings fields (.rejected rejection)) ∧
      (status = 2 ↔ ¬∃ r expected, Service.Builds fields r expected) := by
  intro status
  suffices hiff : (status = 0 ↔ PayloadVerdict settings fields .accepted) ∧
      (status = 1 ↔ (∃ rejection, PayloadVerdict settings fields (.rejected rejection)) ∨ False) ∧
      (status = 2 ↔ ¬∃ r expected, Service.Builds fields r expected) by
    simpa only [or_false] using hiff
  refine status_iff ?_ nofun ?_ ?_
  · rintro outcome ⟨r, expected, hbuilds, houtcome⟩
    show serviceStatus (Service.verify settings.options (.object fields)) = _
    rw [hbuilds.verify_eq, Service.report, houtcome]
    rfl
  · intro hnone
    obtain ⟨e, he, -⟩ := Service.verify_eq_error settings hnone
    show serviceStatus (Service.verify settings.options (.object fields)) = _
    rw [he]
    rfl
  · by_cases hbuilds : ∃ r expected, Service.Builds fields r expected
    · obtain ⟨r, expected, hbuilds⟩ := hbuilds
      obtain ⟨outcome, houtcome, -⟩ := settings.exists_report r expected
      exact .inl ⟨outcome, r, expected, hbuilds, houtcome⟩
    · exact .inr (.inr hbuilds)

end Command

end MountainRange
