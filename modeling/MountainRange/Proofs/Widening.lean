import MountainRange.Proofs.Grammar
import MountainRange.Proofs.Regrouping
import MountainRange.Proofs.Totality
set_option autoImplicit false

/-!
# Wider options

The options of the verifier are ordered by what they let through: a peak may stand
anywhere instead of at the place of its mountain, and the number of peaks may go
uncounted below a higher threshold.  Wider options accept whatever narrower ones do.
The threshold does nothing else: where it leaves the peaks counted, or where they are
as many as they have to be, the verdict is the one without a threshold.
-/

namespace MountainRange

/-! ## Matching the peak -/

/-- A matching that lets through what another does. -/
inductive PeakMatch.Widens : PeakMatch → PeakMatch → Prop where
  | refl (peakMatch : PeakMatch) : Widens peakMatch peakMatch
  | anywhere (peakMatch : PeakMatch) : Widens peakMatch .anywhere

/-- A peak that is accepted stays accepted under a wider matching. -/
theorem PeakMatch.Widens.decide_eq_accepted {D : Type} [DecidableEq D] {peaks : List D}
    {mountain : Nat} {peak : D} {peakMatch wider : PeakMatch} (h : peakMatch.Widens wider)
    (haccepted : peakMatch.decide peaks mountain peak = .accepted) :
    wider.decide peaks mountain peak = .accepted := by
  cases h with
  | refl => exact haccepted
  | anywhere =>
      apply decide_anywhere_eq_accepted_iff.mpr
      exact mem_of_decide_eq_accepted haccepted

/-! ## Counting the peaks -/

/-- A threshold that relaxes at least the sizes that another does. -/
inductive Threshold.Widens : Threshold → Threshold → Prop where
  | refl (threshold : Threshold) : Widens threshold threshold
  | below {m n : Int} (h : m ≤ n) : Widens (.below m) (.below n)
  | always (n : Int) : Widens (.below n) .always

/-- A size that is relaxed stays relaxed under a wider threshold. -/
theorem Threshold.Widens.covers {threshold wider : Threshold} (h : threshold.Widens wider)
    {size : UInt64} {relaxed : Bool} (hcovers : threshold.covers size = .ok relaxed) :
    ∃ relaxed', wider.covers size = .ok relaxed' ∧ (relaxed = true → relaxed' = true) := by
  cases h with
  | refl => exact ⟨relaxed, hcovers, id⟩
  | @below m n hle =>
      refine ⟨_, rfl, ?_⟩
      intro hrelaxed
      rw [hrelaxed] at hcovers
      have hlt : (size.toNat : Int) < m := by simpa [Threshold.covers] using hcovers
      simp only [decide_eq_true_eq]
      omega
  | always n => exact ⟨true, rfl, fun _ => rfl⟩

namespace Inclusion

variable {D : Type} [DecidableEq D] {S : Scheme D} {proof : Inclusion D}

/-- A proof that passes the gates passes them under a wider matching, and with its peaks
uncounted. -/
theorem Passes.widen {peakMatch wider : PeakMatch} {relaxed relaxed' : Bool} {place : Location}
    (h : proof.Passes S peakMatch relaxed place) (hmatch : peakMatch.Widens wider)
    (hrelaxed : relaxed = true → relaxed' = true) : proof.Passes S wider relaxed' place where
  count hcounted := by
    apply h.count
    cases relaxed with
    | false => rfl
    | true => rw [hrelaxed rfl] at hcounted; cases hcounted
  root := h.root
  located := h.located
  height := h.height
  peak := hmatch.decide_eq_accepted h.peak

/-- Counting the peaks changes nothing for a proof that has as many as it should. -/
theorem outcome_eq_of_count (peakMatch : PeakMatch) (relaxed : Bool)
    (h : proof.peaks.length = peakCount proof.size.toNat) :
    proof.outcome S peakMatch relaxed = proof.outcome S peakMatch false := by
  simp [outcome, h]

end Inclusion

/-! ## The verdict -/

namespace Options

/-- Options that let through what others do.  The convention of the climb may be any, for
it decides nothing. -/
structure Widens (options wider : Options) : Prop where
  peakMatch : options.peakMatch.Widens wider.peakMatch
  relaxBelow : options.relaxBelow.Widens wider.relaxBelow

/-- Peaks that go uncounted stay uncounted under wider options. -/
theorem Widens.relaxes {options wider : Options} (h : options.Widens wider) {size : UInt64}
    {mode : Mode} {relaxed : Bool} (hrelaxes : options.relaxes size mode = .ok relaxed) :
    ∃ relaxed', wider.relaxes size mode = .ok relaxed' ∧ (relaxed = true → relaxed' = true) := by
  cases mode with
  | wide => exact ⟨relaxed, hrelaxes, id⟩
  | compact => exact h.relaxBelow.covers hrelaxes

/-- A threshold relaxes no size from itself on, and nothing under the wide scheme. -/
theorem relaxes_eq_false (peakMatch : PeakMatch) (convention : Convention) {threshold : Int}
    {size : UInt64} {mode : Mode} (h : mode = .wide ∨ threshold ≤ size.toNat) :
    relaxes ⟨peakMatch, convention, .below threshold⟩ size mode = .ok false := by
  cases mode with
  | wide => rfl
  | compact =>
      have hle : threshold ≤ size.toNat := h.resolve_left (by simp)
      simp [relaxes, Threshold.covers, hle]

end Options

namespace Mode

variable {mode : Mode} {proof : Inclusion mode.Form} {expected : Option Operand}

theorem size_request (mode : Mode) (proof : Inclusion mode.Form) :
    (mode.request proof).size = proof.size := by
  cases mode <;> rfl

/-- Without the threshold, or with as many peaks as the size asks for, the verdict is the one
with the peaks counted. -/
theorem explain_eq_counted (peakMatch : PeakMatch) (convention : Convention) {threshold : Int}
    (h : mode = .wide ∨ threshold ≤ proof.size.toNat ∨
      proof.peaks.length = peakCount proof.size.toNat) :
    (mode.request proof).explain expected ⟨peakMatch, convention, .below threshold⟩ =
      .ok (if (mode.request proof).hasLeaf expected = false then .rejected .unexpectedLeaf
        else proof.outcome mode.scheme peakMatch false) := by
  by_cases hcount : proof.peaks.length = peakCount proof.size.toNat
  · obtain ⟨relaxed, hrelaxes⟩ := Options.relaxes_below peakMatch convention threshold
      proof.size mode
    rw [explain_eq_ok hrelaxes, Inclusion.outcome_eq_of_count _ relaxed hcount]
  · have hbound : mode = .wide ∨ threshold ≤ proof.size.toNat := by
      simpa [hcount] using h
    exact explain_eq_ok (Options.relaxes_eq_false peakMatch convention hbound)

end Mode

/-- What is accepted stays accepted under wider options. -/
theorem Options.Widens.explain_eq_accepted {options wider : Options} (h : options.Widens wider)
    {r : Request} {expected : Option Operand}
    (haccepted : r.explain expected options = .ok .accepted) :
    r.explain expected wider = .ok .accepted := by
  obtain ⟨mode, proof, rfl⟩ := r.exists_request
  obtain ⟨hleaf, relaxed, place, hrelaxes, hpasses⟩ := Mode.explain_eq_accepted_iff.mp haccepted
  obtain ⟨relaxed', hrelaxes', hwider⟩ := h.relaxes hrelaxes
  exact Mode.explain_eq_accepted_iff.mpr
    ⟨hleaf, relaxed', place, hrelaxes', hpasses.widen h.peakMatch hwider⟩

namespace Request

/-- Options only ever widen what is accepted: a request accepted with its peak in place is
accepted with its peak anywhere, and one accepted below a threshold is accepted below every
higher one.  Under the wide scheme, from the threshold on, and with as many peaks as the
size asks for, the verdict is the one below zero, rejections included. -/
theorem options_only_widen (r : Request) (expected : Option Operand) (convention : Convention) :
    (∀ relaxBelow : Threshold,
      r.explain expected ⟨.positional, convention, relaxBelow⟩ = .ok .accepted →
      r.explain expected ⟨.anywhere, convention, relaxBelow⟩ = .ok .accepted) ∧
    (∀ (peakMatch : PeakMatch) (threshold higher : Int), threshold ≤ higher →
      r.explain expected ⟨peakMatch, convention, .below threshold⟩ = .ok .accepted →
      r.explain expected ⟨peakMatch, convention, .below higher⟩ = .ok .accepted) ∧
    ∀ (peakMatch : PeakMatch) (threshold : Int),
      r.mode = .wide ∨ threshold ≤ r.size.toNat ∨ r.peaks.length = peakCount r.size.toNat →
      ∃ outcome, r.explain expected ⟨peakMatch, convention, .below threshold⟩ = .ok outcome ∧
        r.explain expected ⟨peakMatch, convention, .below 0⟩ = .ok outcome := by
  refine ⟨?_, ?_, ?_⟩
  · intro relaxBelow haccepted
    exact Options.Widens.explain_eq_accepted
      ⟨.anywhere .positional, .refl relaxBelow⟩ haccepted
  · intro peakMatch threshold higher hle haccepted
    exact Options.Widens.explain_eq_accepted ⟨.refl peakMatch, .below hle⟩ haccepted
  · intro peakMatch threshold hcounted
    obtain ⟨mode, proof, rfl⟩ := r.exists_request
    rw [Mode.mode_request, Mode.size_request, Mode.length_peaks_request] at hcounted
    have hzero : (0 : Int) ≤ proof.size.toNat := by omega
    exact ⟨_, Mode.explain_eq_counted peakMatch convention hcounted,
      Mode.explain_eq_counted peakMatch convention (Or.inr (Or.inl hzero))⟩

/-- The regrouped proof is accepted below a threshold of four with its peak in place, hence
with its peak anywhere and below seven.  Below three its one peak is still counted. -/
theorem options_only_widen_regrouped :
    let r := Mode.compact.request (Range.regrouped Mode.compact.scheme ⟨5⟩ ⟨6⟩ ⟨7⟩)
    r.explain none ⟨.positional, .oddIsLeft, .below 4⟩ = .ok .accepted ∧
      r.explain none ⟨.anywhere, .oddIsLeft, .below 4⟩ = .ok .accepted ∧
      r.explain none ⟨.positional, .oddIsLeft, .below 7⟩ = .ok .accepted ∧
      (3 : Int) ≤ r.size.toNat ∧
      ∃ outcome, r.explain none ⟨.positional, .oddIsLeft, .below 3⟩ = .ok outcome ∧
        r.explain none ⟨.positional, .oddIsLeft, .below 0⟩ = .ok outcome := by
  intro r
  have haccepted : r.explain none ⟨.positional, .oddIsLeft, .below 4⟩ = .ok .accepted :=
    Mode.explain_regrouped ⟨5⟩ ⟨6⟩ ⟨7⟩ .positional .oddIsLeft (by decide)
  have hsize : (3 : Int) ≤ r.size.toNat := by decide
  obtain ⟨hanywhere, hhigher, hsame⟩ := r.options_only_widen none .oddIsLeft
  exact ⟨haccepted, hanywhere _ haccepted, hhigher .positional 4 7 (by decide) haccepted, hsize,
    hsame .positional 3 (Or.inr (Or.inl hsize))⟩

end Request

end MountainRange
