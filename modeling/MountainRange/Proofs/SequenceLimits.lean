import MountainRange.Proofs.EntryPoints
import MountainRange.Proofs.Slots
set_option autoImplicit false

/-!
# Accepted requests as sequences

A sequence holds at most 64 siblings and 64 peaks.  No climb inside a range is longer than
63, and a range has at most 64 mountains, so a request whose peaks are counted is accepted
only if it fits into a sequence, and then it is accepted again when it is read from there.
Where the number of peaks goes unchecked, nothing bounds it: peaks can be added behind that
of the leaf, and a request with too many of them is accepted, but refused as a sequence.
-/

namespace MountainRange

/-! ## Lengths -/

theorem height_lt_64 {size : UInt64} {height : Nat} (h : height ∈ heights size.toNat) :
    height < 64 :=
  Nat.lt_of_lt_of_le (height_lt_binaryLength h) (binaryLength_le size.toNat_lt)

theorem peakCount_le_64 (size : UInt64) : peakCount size.toNat ≤ 64 :=
  calc peakCount size.toNat = (heights size.toNat).length := (length_heights _).symm
    _ ≤ binaryLength size.toNat := length_heights_le _
    _ ≤ 64 := binaryLength_le size.toNat_lt

namespace Inclusion

variable {D : Type} [DecidableEq D] {S : Scheme D} {peakMatch : PeakMatch} {relaxed : Bool}
variable {proof : Inclusion D} {place : Location}

/-- A proof that passes has as many siblings as some mountain is high. -/
theorem Passes.length_siblings_lt (h : proof.Passes S peakMatch relaxed place) :
    proof.siblings.length < 64 := by
  have hholds := (holds_of_locateLeaf h.located).2
  rw [h.height]
  exact height_lt_64 (List.mem_of_getElem? hholds.height_eq)

theorem Passes.length_peaks_le (h : proof.Passes S peakMatch false place) :
    proof.peaks.length ≤ 64 := by
  rw [h.count rfl]
  exact peakCount_le_64 proof.size

end Inclusion

/-- The number of peaks goes unchecked only under the compact scheme and below the
threshold. -/
theorem Options.lt_threshold_of_relaxes {peakMatch : PeakMatch} {convention : Convention}
    {threshold : Int} {size : UInt64} {mode : Mode}
    (h : relaxes ⟨peakMatch, convention, .below threshold⟩ size mode = .ok true) :
    mode = .compact ∧ size.toNat < threshold := by
  cases mode with
  | wide => cases h
  | compact => exact ⟨rfl, of_decide_eq_true (Except.ok.inj h)⟩

/-! ## Verdicts on sequences -/

namespace Encoding

theorem verdict_of_refused {options : Options} {r : Request} {refusal : Refusal}
    (h : decode (encodeValues r) = .error refusal) :
    verdict options (.array (encodeValues r)) = .error (.refused refusal) := by
  have hvalue : decodeValue (.array (encodeValues r)) = .error refusal := h
  rw [verdict, hvalue]
  rfl

end Encoding

/-! ## Accepted requests -/

namespace Request

/-- An accepted request has at most 63 siblings.  If it has at most 64 peaks, it is read
back from its slots and accepted there as well.  Otherwise its peaks were not counted, and
its slots are refused. -/
theorem accepted_travels_or_uncounted {r : Request} {peakMatch : PeakMatch}
    {convention : Convention} {threshold : Int}
    (h : r.explain none ⟨peakMatch, convention, .below threshold⟩ = .ok .accepted) :
    let options : Options := ⟨peakMatch, convention, .below threshold⟩
    r.siblings.length ≤ 63 ∧
      ((r.peaks.length ≤ 64 ∧ Encoding.decode (Encoding.encodeValues r) = .ok r ∧
          Encoding.verdict options (.array (Encoding.encodeValues r)) = .ok .accepted) ∨
        (64 < r.peaks.length ∧ r.mode = .compact ∧ r.size.toNat < threshold ∧
          ∃ refusal, Encoding.decode (Encoding.encodeValues r) = .error refusal ∧
            Encoding.verdict options (.array (Encoding.encodeValues r)) =
              .error (.refused refusal))) := by
  intro options
  obtain ⟨mode, proof, rfl⟩ := r.exists_request
  obtain ⟨-, relaxed, place, hrelaxes, hpasses⟩ := Mode.explain_eq_accepted_iff.mp h
  have hsiblings : (mode.request proof).siblings.length ≤ 63 := by
    rw [mode.length_siblings_request]
    exact Nat.le_of_lt_succ hpasses.length_siblings_lt
  refine ⟨hsiblings, ?_⟩
  by_cases hpeaks : (mode.request proof).peaks.length ≤ 64
  · have hfits : Encoding.Fits (mode.request proof) :=
      ⟨Nat.le_trans hsiblings (by decide), hpeaks⟩
    exact .inl ⟨hpeaks, Encoding.decode_encodeValues_of_fits hfits,
      Encoding.verdict_eq_ok hfits h⟩
  · have hmany : 64 < proof.peaks.length := by
      rw [← mode.length_peaks_request proof]
      exact Nat.lt_of_not_le hpeaks
    -- Counted, the peaks would be at most 64.
    obtain rfl : relaxed = true := by
      cases relaxed with
      | true => rfl
      | false => exact absurd hpasses.length_peaks_le (Nat.not_le.mpr hmany)
    obtain ⟨rfl, hbelow⟩ := Options.lt_threshold_of_relaxes hrelaxes
    obtain ⟨refusal, hrefused⟩ :=
      Encoding.decode_encodeValues_refused fun hfits => hpeaks hfits.peaks_le
    exact .inr ⟨Nat.lt_of_not_le hpeaks, rfl, hbelow, refusal, hrefused,
      Encoding.verdict_of_refused hrefused⟩

end Request

/-! ## Peaks behind that of the leaf -/

namespace Inclusion

variable {D : Type} [DecidableEq D] (S : Scheme D) (leaf : D) (others : List D)

/-- The proof of a range of one leaf with other peaks behind the one of the leaf. -/
def withPeaks : Inclusion D where
  root := S.root 1 (S.leaf leaf :: others)
  leaf := leaf
  leafIndex := 0
  size := 1
  siblings := []
  peaks := S.leaf leaf :: others

/-- Uncounted, other peaks change nothing. -/
theorem withPeaks_passes (peakMatch : PeakMatch) :
    (withPeaks S leaf others).Passes S peakMatch true ⟨0, 0, 0⟩ where
  count h := nomatch h
  root := rfl
  located := (by decide : locateLeaf (0 : UInt64).toNat (1 : UInt64).toNat = .ok ⟨0, 0, 0⟩)
  height := rfl
  peak := PeakMatch.decide_eq_accepted peakMatch rfl

end Inclusion

namespace Request

/-- A compact request for a range of one leaf with other peaks behind the one of the
leaf. -/
def withPeaks (leaf : CompactDigest) (others : List CompactDigest) : Request :=
  .compact (.withPeaks poseidonScheme leaf others)

/-- With a threshold above one it is accepted, however many the other peaks are. -/
theorem explain_withPeaks (leaf : CompactDigest) (others : List CompactDigest)
    (peakMatch : PeakMatch) (convention : Convention) {threshold : Int} (h : 1 < threshold) :
    (withPeaks leaf others).explain none ⟨peakMatch, convention, .below threshold⟩ =
      .ok .accepted := by
  have hrelaxes : Options.relaxes ⟨peakMatch, convention, .below threshold⟩ 1 .compact =
      .ok true := congrArg Except.ok (decide_eq_true h)
  have hpasses := Inclusion.withPeaks_passes poseidonScheme leaf others peakMatch
  exact (@Mode.explain_eq_accepted_iff .compact _ _ _).mpr
    ⟨rfl, true, ⟨0, 0, 0⟩, hrelaxes, hpasses⟩

/-- One more peak than there are mountains still travels. -/
theorem accepted_travels_or_uncounted_second_peak :
    let r : Request := withPeaks ⟨5⟩ [⟨9⟩]
    let options : Options := ⟨.positional, .oddIsLeft, .below 2⟩
    r.explain none options = .ok .accepted ∧ peakCount r.size.toNat < r.peaks.length ∧
      Encoding.decode (Encoding.encodeValues r) = .ok r ∧
      Encoding.verdict options (.array (Encoding.encodeValues r)) = .ok .accepted := by
  intro r options
  have haccepted : r.explain none options = .ok .accepted :=
    explain_withPeaks ⟨5⟩ [⟨9⟩] .positional .oddIsLeft (by decide)
  have hcount : peakCount r.size.toNat < r.peaks.length :=
    Nat.lt_of_le_of_lt (Nat.le_of_eq (length_heights 1).symm) (by decide)
  rcases (accepted_travels_or_uncounted haccepted).2 with
    ⟨-, hdecode, hverdict⟩ | ⟨hmany, -⟩
  · exact ⟨haccepted, hcount, hdecode, hverdict⟩
  · exact absurd hmany (by decide)

/-- With 64 peaks behind the one of the leaf a request is accepted and does not travel. -/
theorem accepted_not_travelling :
    let r : Request := withPeaks ⟨5⟩ (List.replicate 64 ⟨0⟩)
    let options : Options := ⟨.positional, .oddIsLeft, .below 2⟩
    r.explain none options = .ok .accepted ∧
      ¬(Encoding.decode (Encoding.encodeValues r) = .ok r ∧
        Encoding.verdict options (.array (Encoding.encodeValues r)) = .ok .accepted) := by
  intro r options
  refine ⟨explain_withPeaks ⟨5⟩ (List.replicate 64 ⟨0⟩) .positional .oddIsLeft (by decide), ?_⟩
  rintro ⟨hdecode, -⟩
  have hfits := (Encoding.decode_eq_ok_iff.mp hdecode).1
  exact absurd hfits.peaks_le (by decide)

end Request

end MountainRange
