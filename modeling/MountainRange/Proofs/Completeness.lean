import MountainRange.Encoding.Verdict
import MountainRange.Proofs.Gates
import MountainRange.Proofs.Range
import MountainRange.Proofs.RoundTrip
set_option autoImplicit false

/-!
# Completeness

Every leaf of a range has a proof that passes all gates, whatever the options, and the
proof is short enough to be encoded, decoded and accepted again.
-/

namespace MountainRange

namespace Range

variable {D : Type} (range : Range D) (S : Scheme D) (i : Fin range.leaves.length)

@[simp] theorem toNat_leafIndex_proof : (range.proof S i).leafIndex.toNat = i :=
  UInt64.toNat_ofNat_of_lt (Nat.lt_trans i.isLt range.length_lt)

/-- The proof of a leaf passes every gate with the leaf at its place. -/
theorem proof_passes [DecidableEq D] (peakMatch : PeakMatch) (relaxed : Bool) :
    ∃ place, (range.proof S i).Passes S peakMatch relaxed place := by
  obtain ⟨place, hlocated, hholds⟩ := locateLeaf_holds i.isLt
  obtain ⟨t, ht, hperfect, hleaf, hsiblings⟩ := mountain_at range.length_eq_leafCount hholds
  have hvalue : t.leaves[place.position]? = some range.leaves[i] := by
    rw [hleaf]
    exact List.getElem?_eq_getElem i.isLt
  have hpeak : (range.peaks S)[place.mountain]? = some (t.digest S) := by
    rw [peaks, List.getElem?_map, mountains, ht]
    rfl
  refine ⟨place, ?_, ?_, ?_, ?_, ?_⟩
  · intro _
    exact (range.length_peaks S).trans (by rw [← range.toNat_size]; rfl)
  · exact (range.root_eq S).symm
  · rw [toNat_leafIndex_proof]
    exact (congrArg (fun n : Nat => locateLeaf i n) range.toNat_size).trans hlocated
  · show (siblingsAmong S range.mountains i).length = place.height
    rw [mountains, hsiblings S, hperfect.length_siblings]
  · apply PeakMatch.decide_eq_accepted
    show (range.peaks S)[place.mountain]? = some (S.ascend place.position
      (S.leaf range.leaves[i]) (siblingsAmong S range.mountains i))
    rw [hpeak, mountains, hsiblings S, hperfect.ascend_siblings S hvalue]

theorem binaryLength_le_64 : binaryLength range.leaves.length ≤ 64 :=
  binaryLength_le range.length_lt

/-- No climb inside a range is longer than a sequence may hold. -/
theorem length_siblings_proof_le :
    (range.proof S i).siblings.length ≤ Encoding.maxSiblings := by
  obtain ⟨place, _, hholds⟩ := locateLeaf_holds i.isLt
  obtain ⟨t, _, hperfect, _, hsiblings⟩ := mountain_at range.length_eq_leafCount hholds
  have hheight := height_lt_binaryLength (List.mem_of_getElem? hholds.height_eq)
  have hbound := range.binaryLength_le_64
  show (siblingsAmong S range.mountains i).length ≤ 64
  rw [mountains, hsiblings S, hperfect.length_siblings]
  exact Nat.le_trans (Nat.le_of_lt hheight) hbound

/-- No range has more peaks than a sequence may hold. -/
theorem length_peaks_le : (range.peaks S).length ≤ Encoding.maxPeaks := by
  rw [length_peaks, ← length_heights]
  exact Nat.le_trans (length_heights_le _) range.binaryLength_le_64

end Range

namespace Mode

variable (mode : Mode) (range : Range mode.Form) (i : Fin range.leaves.length)

/-- The proof of a leaf of a range is accepted if its leaf is the one expected. -/
theorem explain_proof {expected : Option Operand} (peakMatch : PeakMatch)
    (convention : Convention) (threshold : Int)
    (h : (mode.request (range.proof mode.scheme i)).hasLeaf expected = true) :
    (mode.request (range.proof mode.scheme i)).explain expected
      ⟨peakMatch, convention, .below threshold⟩ = .ok .accepted := by
  obtain ⟨relaxed, hrelaxes⟩ := Options.relaxes_below peakMatch convention threshold
    (range.proof mode.scheme i).size mode
  obtain ⟨place, hpasses⟩ := range.proof_passes mode.scheme i peakMatch relaxed
  exact explain_eq_accepted_iff.mpr ⟨h, relaxed, place, hrelaxes, hpasses⟩

/-- The proof of a leaf of a range fits into a sequence. -/
theorem fits_proof : Encoding.Fits (mode.request (range.proof mode.scheme i)) where
  siblings_le := by
    rw [length_siblings_request]
    exact range.length_siblings_proof_le mode.scheme i
  peaks_le := by
    rw [length_peaks_request]
    exact range.length_peaks_le mode.scheme

/-- Every leaf of every range has a proof that is accepted, directly whether its leaf is
expected or nothing is, and encoded: under both schemes, both ways to match the peak, both
conventions and every threshold. -/
theorem proof_accepted (peakMatch : PeakMatch) (convention : Convention) (threshold : Int) :
    let r := mode.request (range.proof mode.scheme i)
    let options : Options := ⟨peakMatch, convention, .below threshold⟩
    r.explain none options = .ok .accepted ∧
      r.explain (some (.digest r.leaf)) options = .ok .accepted ∧
      Encoding.verdict options (.array (Encoding.encodeValues r)) = .ok .accepted := by
  intro r options
  have hnone : r.explain none options = .ok .accepted :=
    mode.explain_proof range i peakMatch convention threshold rfl
  refine ⟨hnone, mode.explain_proof range i peakMatch convention threshold r.hasLeaf_self, ?_⟩
  have hdecode : Encoding.decodeValue (.array (Encoding.encodeValues r)) = .ok r :=
    Encoding.decode_encodeValues_of_fits (mode.fits_proof range i)
  rw [Encoding.verdict, hdecode]
  show Except.mapError Encoding.VerdictError.fault (r.explain none options) = .ok .accepted
  rw [hnone]
  rfl

end Mode

end MountainRange
