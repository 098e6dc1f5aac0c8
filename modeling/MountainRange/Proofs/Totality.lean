import MountainRange.Proofs.CheckedOperations
import MountainRange.Proofs.Gates
import MountainRange.Verdict.Checked
set_option autoImplicit false

/-!
# Every request has a verdict

With an integer for its threshold the verifier comes to a verdict on every request.  The
same verdict comes out of the checked operations, each of which could refuse what it is
given: the digests of a request are those of its scheme, its size has room in a digest,
an index below the size has a place, the position of a place lies inside its mountain,
and a peak is only looked up where there is one.
-/

namespace MountainRange

/-! ## Verdicts as plain functions -/

/-- Every request is a proof under one of the modes. -/
theorem Request.exists_request (r : Request) :
    ∃ (mode : Mode) (proof : Inclusion mode.Form), r = mode.request proof := by
  cases r with
  | wide proof => exact ⟨.wide, proof, rfl⟩
  | compact proof => exact ⟨.compact, proof, rfl⟩

namespace Mode

variable {mode : Mode} {proof : Inclusion mode.Form} {expected : Option Operand}
variable {options : Options} {relaxed : Bool}

/-- The verdict on a request once it is settled whether the number of peaks counts. -/
theorem explain_eq_ok (h : options.relaxes proof.size mode = .ok relaxed) :
    (mode.request proof).explain expected options =
      .ok (if (mode.request proof).hasLeaf expected = false then .rejected .unexpectedLeaf
        else proof.outcome mode.scheme options.peakMatch relaxed) := by
  rw [explain_request, Inclusion.judge]
  split
  · rfl
  · rw [h]
    exact proof.judgePeaks_eq mode.scheme options relaxed

/-- A request with another number of peaks than its size asks for is rejected where these are
counted. -/
theorem explain_eq_peakCount (h : options.relaxes proof.size mode = .ok false)
    (hleaf : (mode.request proof).hasLeaf expected = true)
    (hcount : proof.peaks.length ≠ peakCount proof.size.toNat) :
    (mode.request proof).explain expected options =
      .ok (.rejected (.peakCount (peakCount proof.size.toNat) proof.size proof.peaks.length)) := by
  rw [explain_eq_ok h, hleaf, if_neg (by decide), Inclusion.outcome, if_pos ⟨rfl, hcount⟩]

/-! ## Requests as operands -/

theorem siblings_operands (mode : Mode) (proof : Inclusion mode.Form) :
    (mode.request proof).siblings.map .digest = proof.siblings.map mode.scheme.operand := by
  cases mode with
  | wide => exact List.map_map
  | compact => exact List.map_map

theorem peaks_operands (mode : Mode) (proof : Inclusion mode.Form) :
    (mode.request proof).peaks.map .digest = proof.peaks.map mode.scheme.operand := by
  cases mode with
  | wide => exact List.map_map
  | compact => exact List.map_map

theorem leaf_operand (mode : Mode) (proof : Inclusion mode.Form) :
    .digest (mode.request proof).leaf = mode.scheme.operand proof.leaf := by
  cases mode <;> rfl

theorem root_operand (mode : Mode) (proof : Inclusion mode.Form) :
    .digest (mode.request proof).root = mode.scheme.operand proof.root := by
  cases mode <;> rfl

end Mode

/-! ## The checked gates -/

/-- A peak as an operand of the scheme is held against the peaks like the peak itself. -/
theorem PeakMatch.decideChecked_operands {D : Type} [DecidableEq D] {S : Scheme D}
    (hS : S.Faithful) (peakMatch : PeakMatch) (peaks : List D) (mountain : Nat) (peak : D) :
    peakMatch.decideChecked (peaks.map S.operand) mountain (S.operand peak) =
      .ok (peakMatch.decide peaks mountain peak) := by
  unfold decideChecked PeakMatch.decide
  cases peakMatch with
  | anywhere =>
      have hany : (peaks.map S.operand).any (S.operand peak).same = true ↔ peak ∈ peaks := by
        simp only [List.any_map, List.any_eq_true, Function.comp_apply, hS.same_operand,
          decide_eq_true_eq, exists_eq_right']
      by_cases hmem : peak ∈ peaks
      · rw [if_pos hmem, if_pos (hany.mpr hmem)]
      · rw [if_neg hmem, if_neg (fun h => hmem (hany.mp h))]
  | positional =>
      simp only [List.length_map, List.getElem?_map]
      by_cases hmountain : peaks.length ≤ mountain
      · rw [if_pos hmountain, List.getElem?_eq_none hmountain]
      · have hclaimed := List.getElem?_eq_getElem (Nat.lt_of_not_le hmountain)
        rw [if_neg hmountain, hclaimed]
        simp only [Option.map_some, hS.same_operand, decide_eq_true_eq]

namespace Mode

variable (mode : Mode) (proof : Inclusion mode.Form) (options : Options)

/-- The climb of a request from a position inside its mountain refuses nothing. -/
theorem judgeClimbChecked_eq_ok {place : Location} (h : place.position < 2 ^ place.height) :
    (mode.request proof).judgeClimbChecked mode.scheme options place =
      .ok (if proof.siblings.length ≠ place.height then
          .rejected (.siblingCount proof.siblings.length place.height)
        else options.peakMatch.decide proof.peaks place.mountain
          (mode.scheme.ascend place.position (mode.scheme.leaf proof.leaf) proof.siblings)) := by
  rw [Request.judgeClimbChecked, length_siblings_request]
  split
  · rfl
  · next hheight =>
      rw [leaf_operand, siblings_operands, peaks_operands,
        Scheme.checkedLeaf_operand mode.faithful, climbStart_eq h,
        ← Classical.not_not.mp hheight]
      show (mode.scheme.checkedClimb options.convention
          (.int (options.convention.start place.position proof.siblings.length))
          (mode.scheme.operand (mode.scheme.leaf proof.leaf))
          (proof.siblings.map mode.scheme.operand)).mapError Breakdown.scheme >>=
        options.peakMatch.decideChecked (proof.peaks.map mode.scheme.operand) place.mountain = _
      rw [Scheme.checkedClimb_start mode.faithful]
      exact PeakMatch.decideChecked_operands mode.faithful _ _ _ _

/-- The gates of a request refuse nothing: the place of an index below the size exists,
and its position lies inside its mountain. -/
theorem judgePeaksChecked_eq_ok (relaxed : Bool) :
    (mode.request proof).judgePeaksChecked mode.scheme options relaxed =
      .ok (proof.outcome mode.scheme options.peakMatch relaxed) := by
  have hsize : (mode.request proof).size = proof.size := by cases mode <;> rfl
  have hindex : (mode.request proof).leafIndex = proof.leafIndex := by cases mode <;> rfl
  simp only [Request.judgePeaksChecked, Inclusion.outcome, length_peaks_request, hsize, hindex]
  split
  · rfl
  · rw [peaks_operands, Scheme.checkedRoot_operands mode.faithful, root_operand]
    show (if (mode.scheme.operand (mode.scheme.root proof.size proof.peaks)).same
      (mode.scheme.operand proof.root) = false then _ else _ : Except Breakdown Outcome) = _
    rw [mode.faithful.same_operand]
    by_cases hroot : mode.scheme.root proof.size proof.peaks = proof.root
    · rw [if_neg (by simp [hroot]), if_neg (fun h => h hroot)]
      by_cases hlt : proof.leafIndex.toNat < proof.size.toNat
      · obtain ⟨place, hplace, hholds⟩ := locateLeaf_holds hlt
        rw [hplace]
        exact mode.judgeClimbChecked_eq_ok proof options hholds.position_lt
      · rw [locateLeaf_outside (Nat.le_of_not_lt hlt)]
    · rw [if_pos (by simp [hroot]), if_pos hroot]

variable {mode proof options}

/-- The checked operations come to the verdict once it is settled whether the number of
peaks counts. -/
theorem explainChecked_eq_ok {expected : Option Operand} {relaxed : Bool}
    (h : options.relaxes proof.size mode = .ok relaxed) :
    (mode.request proof).explainChecked expected options =
      .ok (if (mode.request proof).hasLeaf expected = false then .rejected .unexpectedLeaf
        else proof.outcome mode.scheme options.peakMatch relaxed) := by
  have hchecked := mode.judgePeaksChecked_eq_ok proof options relaxed
  unfold Request.explainChecked
  split
  · rfl
  · cases mode with
    | wide =>
        show ((options.relaxes proof.size .wide).mapError Breakdown.threshold >>= _) = _
        rw [h]
        exact hchecked
    | compact =>
        show ((options.relaxes proof.size .compact).mapError Breakdown.threshold >>= _) = _
        rw [h]
        exact hchecked

end Mode

/-! ## Digests out of hash functions -/

/-- The bytes that the wide hash function returns make a digest. -/
theorem WideDigest.ofBytes?_ofHash (bytes : Vector UInt8 32) :
    WideDigest.ofBytes? bytes.toList = .ok (.ofHash bytes) := by
  rw [ofBytes?, dif_pos (Vector.length_toList)]
  rfl

/-- The element that the compact hash function returns makes a digest. -/
theorem CompactDigest.ofInt?_val (x : Felt) : CompactDigest.ofInt? x.val = .ok ⟨x⟩ := by
  have hbelow : Number.below? fieldPrime x.val = some x :=
    (Number.below?_eq_some_iff fieldPrime _ _).mpr rfl
  rw [ofInt?, Felt.ofInt?, hbelow]

namespace Request

/-- The verifier comes to a verdict on every request, and so do the checked operations. -/
theorem exists_explain (r : Request) (expected : Option Operand) (peakMatch : PeakMatch)
    (convention : Convention) (threshold : Int) :
    ∃ outcome, r.explain expected ⟨peakMatch, convention, .below threshold⟩ = .ok outcome ∧
      r.explainChecked expected ⟨peakMatch, convention, .below threshold⟩ = .ok outcome := by
  obtain ⟨mode, proof, rfl⟩ := r.exists_request
  obtain ⟨relaxed, hrelaxes⟩ := Options.relaxes_below peakMatch convention threshold
    proof.size mode
  exact ⟨_, Mode.explain_eq_ok hrelaxes, Mode.explainChecked_eq_ok hrelaxes⟩

/-- On every request, with an integer for the threshold, the verifier comes to a verdict,
and so do the checked operations, none of which refuses what the gates in front of it let
through.  What the hash functions return is always taken for a digest. -/
theorem explain_without_breakdown (r : Request) (expected : Option Operand)
    (peakMatch : PeakMatch) (convention : Convention) (threshold : Int) :
    let options : Options := ⟨peakMatch, convention, .below threshold⟩
    (∃ outcome, r.explain expected options = .ok outcome ∧
        r.explainChecked expected options = .ok outcome) ∧
      (∀ bytes : Vector UInt8 32, WideDigest.ofBytes? bytes.toList = .ok (.ofHash bytes)) ∧
      ∀ x : Felt, CompactDigest.ofInt? x.val = .ok ⟨x⟩ := by
  intro options
  exact ⟨r.exists_explain expected peakMatch convention threshold,
    WideDigest.ofBytes?_ofHash, CompactDigest.ofInt?_val⟩

end Request

end MountainRange
