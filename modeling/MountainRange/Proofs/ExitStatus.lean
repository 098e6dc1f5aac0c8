import MountainRange.Proofs.Display
import MountainRange.Proofs.Totality
set_option autoImplicit false

/-!
# The status of a command

A command about a proof ends with the verdict for its status, zero or one, and with two if
its input is malformed.  What is printed of a verdict never changes that.  An error that the
command does not account for ends it with one as well.
-/

namespace MountainRange

/-- The settings as the options of a command change them. -/
def Settings.overridden (settings : Settings) (legacyAnywhere : Bool)
    (parity : Option Convention) : Settings :=
  { settings with
    peakMatch := if legacyAnywhere then .anywhere else settings.peakMatch
    convention := parity.getD settings.convention }

namespace Command

/-! ## Runs -/

theorem localOptions_eq (env : Environment) (legacyAnywhere : Bool)
    (parity : Option Convention) : localOptions env legacyAnywhere parity =
      (Settings.read env).map fun settings =>
        (settings.overridden legacyAnywhere parity).options := by
  rw [localOptions]
  cases Settings.read env <;> rfl

section Runs

variable {σ : Type} (env : Environment) (transport : Http.Transport σ) (files : Files) (s : σ)
variable {args : List Text} {invocation : Invocation}

theorem status_run (h : Invocation.read files args = .ok invocation) :
    (run env transport files args s).1.status =
      (invocation.run env transport files s).1.encoded.status := by
  rw [run, h]

/-- The status of a command that comes to a report or ends before it. -/
def reportStatus (files : Files) (format : Format) : Except Ending Value → Nat
  | .ok report => (finish files format report).encoded.status
  | .error ending => ending.status

/-- What is printed of a report of the verifier can be written, so the status is the
verdict. -/
theorem reportStatus_ofOutcome (format : Format) (mode : Mode) (outcome : Outcome) :
    reportStatus files format (.ok (Report.ofOutcome mode outcome).toValue) =
      verdictStatus outcome.isValid := by
  obtain ⟨output, houtput, hfinish⟩ := finish_eq_done files mode outcome format
  rw [reportStatus, hfinish, Run.encoded, Text.encodeError?_of_encodable houtput]
  rfl

end Runs

/-! ## What a status tells -/

section Status

variable {verdict : Outcome → Prop} {crash malformed : Prop}

theorem status_iff {status : Nat}
    (hverdict : ∀ outcome, verdict outcome → status = verdictStatus outcome.isValid)
    (hcrash : crash → status = 1) (hmalformed : malformed → status = 2)
    (hcases : (∃ outcome, verdict outcome) ∨ crash ∨ malformed) :
    (status = 0 ↔ verdict .accepted) ∧
      (status = 1 ↔ (∃ rejection, verdict (.rejected rejection)) ∨ crash) ∧
      (status = 2 ↔ malformed) := by
  have hzero : verdict .accepted → status = 0 := hverdict .accepted
  have hone : (∃ rejection, verdict (.rejected rejection)) ∨ crash → status = 1 := by
    rintro (⟨rejection, h⟩ | h)
    · exact hverdict _ h
    · exact hcrash h
  have hthree : verdict .accepted ∨ ((∃ rejection, verdict (.rejected rejection)) ∨ crash) ∨
      malformed := by
    rcases hcases with ⟨_ | rejection, h⟩ | h | h
    · exact .inl h
    · exact .inr (.inl (.inl ⟨rejection, h⟩))
    · exact .inr (.inl (.inr h))
    · exact .inr (.inr h)
  refine ⟨⟨fun hstatus => ?_, hzero⟩, ⟨fun hstatus => ?_, hone⟩, ⟨fun hstatus => ?_, hmalformed⟩⟩
  · rcases hthree with h | h | h
    · exact h
    · exact absurd (hstatus.symm.trans (hone h)) (by decide)
    · exact absurd (hstatus.symm.trans (hmalformed h)) (by decide)
  · rcases hthree with h | h | h
    · exact absurd (hstatus.symm.trans (hzero h)) (by decide)
    · exact h
    · exact absurd (hstatus.symm.trans (hmalformed h)) (by decide)
  · rcases hthree with h | h | h
    · exact absurd (hstatus.symm.trans (hzero h)) (by decide)
    · exact absurd (hstatus.symm.trans (hone h)) (by decide)
    · exact h

/-- Where a command comes to a report of the verifier, to a crash or to malformed input, its
status tells acceptance and malformed input, but not a rejection from a crash. -/
theorem reportStatus_iff (files : Files) (format : Format) {result : Except Ending Value}
    (hverdict : ∀ outcome, verdict outcome →
      ∃ mode, result = .ok (Report.ofOutcome mode outcome).toValue)
    (hcrash : crash → ∃ cause, result = .error (.crashed cause))
    (hmalformed : malformed → ∃ ending, result = .error ending ∧ ending.status = 2)
    (hcases : (∃ outcome, verdict outcome) ∨ crash ∨ malformed) :
    (reportStatus files format result = 0 ↔ verdict .accepted) ∧
      (reportStatus files format result = 1 ↔
        (∃ rejection, verdict (.rejected rejection)) ∨ crash) ∧
      (reportStatus files format result = 2 ↔ malformed) := by
  refine status_iff (fun outcome h => ?_) (fun h => ?_) (fun h => ?_) hcases
  · obtain ⟨mode, hresult⟩ := hverdict outcome h
    rw [hresult]
    exact reportStatus_ofOutcome files format mode outcome
  · obtain ⟨cause, hresult⟩ := hcrash h
    rw [hresult]
    rfl
  · obtain ⟨ending, hresult, hending⟩ := hmalformed h
    rw [hresult]
    exact hending

end Status

/-! ## Proofs that are rejected -/

/-- A proof with peaks in an empty range. -/
def strayPeaks (count : Nat) : Inclusion CompactDigest :=
  ⟨⟨0⟩, ⟨0⟩, 0, 0, [], List.replicate count ⟨0⟩⟩

/-- It is rejected where peaks are counted. -/
theorem explain_strayPeaks {options : Options} {count : Nat}
    (h : options.relaxes 0 .compact = .ok false) (hcount : count ≠ 0) :
    (Request.compact (strayPeaks count)).explain none options =
      .ok (.rejected (.peakCount 0 0 count)) := by
  have hnone : peakCount (0 : UInt64).toNat = 0 := (length_heights 0).symm
  have hlength : (strayPeaks count).peaks.length = count := List.length_replicate
  have huncounted : (strayPeaks count).peaks.length ≠ peakCount (strayPeaks count).size.toNat := by
    rw [hlength]
    show count ≠ peakCount (0 : UInt64).toNat
    rw [hnone]
    exact hcount
  have hexplain : (Mode.compact.request (strayPeaks count)).explain none options =
      .ok (.rejected (.peakCount (peakCount (0 : UInt64).toNat) 0
        (strayPeaks count).peaks.length)) :=
    Mode.explain_eq_peakCount h rfl huncounted
  rw [hnone, hlength] at hexplain
  exact hexplain

/-- A proof with one such peak. -/
def strayPeak : Inclusion CompactDigest := ⟨⟨0⟩, ⟨0⟩, 0, 0, [], [⟨0⟩]⟩

theorem explain_strayPeak {options : Options} (h : options.relaxes 0 .compact = .ok false) :
    (Request.compact strayPeak).explain none options = .ok (.rejected (.peakCount 0 0 1)) :=
  explain_strayPeaks h Nat.one_ne_zero

end Command

end MountainRange
