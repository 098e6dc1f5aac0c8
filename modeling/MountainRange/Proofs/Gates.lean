import MountainRange.Proofs.Heights
import MountainRange.Proofs.HashCalls
import MountainRange.Verdict
set_option autoImplicit false

/-!
# The gates of the verifier

Once the leaf is expected and it is settled whether the number of peaks counts, the
verdict is one plain function of the proof, whatever the convention of the climb.  This
module states that function, says when it accepts, and lists the hash calls that an
accepting verdict makes.  Requests under either scheme are spoken of by their mode.
-/

namespace MountainRange

/-- Peaks as many as their sizes ask for that come to one root are the same peaks of one
size. -/
theorem Scheme.size_peaks_eq {D : Type} {S : Scheme D} {calls : List (HashCall D)}
    (hfree : ¬S.PairCollision calls) (hembed : Function.Injective S.embed)
    {size size' : UInt64} {peaks peaks' : List D} (hcount : peaks.length = peakCount size.toNat)
    (hcount' : peaks'.length = peakCount size'.toNat) (h : S.rootCalls size peaks ⊆ calls)
    (h' : S.rootCalls size' peaks' ⊆ calls) (heq : S.root size peaks = S.root size' peaks') :
    size = size' ∧ peaks = peaks' := by
  obtain ⟨hsize, hbag⟩ := root_inj hfree hembed h h' heq
  have hlength : peaks.length = peaks'.length := by
    rw [hcount, hcount', hsize]
  exact ⟨hsize, bag_inj hfree hlength (List.cons_subset.mp h).2 (List.cons_subset.mp h').2 hbag⟩

/-! ## Verdicts on proofs -/

namespace PeakMatch

variable {D : Type} [DecidableEq D] {peaks : List D} {mountain : Nat} {peak : D}

theorem decide_positional_eq_accepted_iff :
    positional.decide peaks mountain peak = .accepted ↔ peaks[mountain]? = some peak := by
  unfold PeakMatch.decide
  cases peaks[mountain]? with
  | none => simp
  | some claimed => by_cases h : claimed = peak <;> simp [h]

theorem decide_anywhere_eq_accepted_iff :
    anywhere.decide peaks mountain peak = .accepted ↔ peak ∈ peaks := by
  unfold PeakMatch.decide
  by_cases h : peak ∈ peaks <;> simp [h]

/-- An accepted peak is one of the peaks. -/
theorem mem_of_decide_eq_accepted {peakMatch : PeakMatch}
    (h : peakMatch.decide peaks mountain peak = .accepted) : peak ∈ peaks := by
  cases peakMatch with
  | positional => exact List.mem_of_getElem? (decide_positional_eq_accepted_iff.mp h)
  | anywhere => exact decide_anywhere_eq_accepted_iff.mp h

/-- The peak of the right mountain is accepted either way. -/
theorem decide_eq_accepted (peakMatch : PeakMatch) (h : peaks[mountain]? = some peak) :
    peakMatch.decide peaks mountain peak = .accepted := by
  cases peakMatch with
  | positional => exact decide_positional_eq_accepted_iff.mpr h
  | anywhere => exact decide_anywhere_eq_accepted_iff.mpr (List.mem_of_getElem? h)

end PeakMatch

namespace Inclusion

variable {D : Type} [DecidableEq D] (S : Scheme D)

/-- The verdict on a proof whose leaf is the one expected; `relaxed` leaves out the
number of peaks. -/
def outcome (peakMatch : PeakMatch) (relaxed : Bool) (proof : Inclusion D) : Outcome :=
  let expected := peakCount proof.size.toNat
  if relaxed = false ∧ proof.peaks.length ≠ expected then
    .rejected (.peakCount expected proof.size proof.peaks.length)
  else if S.root proof.size proof.peaks ≠ proof.root then .rejected .rootMismatch
  else
    match locateLeaf proof.leafIndex.toNat proof.size.toNat with
    | .error _ => .rejected (.leafOutside proof.leafIndex.toNat proof.size.toNat)
    | .ok place =>
        if proof.siblings.length ≠ place.height then
          .rejected (.siblingCount proof.siblings.length place.height)
        else
          peakMatch.decide proof.peaks place.mountain
            (S.ascend place.position (S.leaf proof.leaf) proof.siblings)

/-- A proof passes every gate behind the expected leaf with its leaf at some place. -/
structure Passes (peakMatch : PeakMatch) (relaxed : Bool) (proof : Inclusion D)
    (place : Location) : Prop where
  count : relaxed = false → proof.peaks.length = peakCount proof.size.toNat
  root : S.root proof.size proof.peaks = proof.root
  located : locateLeaf proof.leafIndex.toNat proof.size.toNat = .ok place
  height : proof.siblings.length = place.height
  peak : peakMatch.decide proof.peaks place.mountain
    (S.ascend place.position (S.leaf proof.leaf) proof.siblings) = .accepted

variable {S} in
/-- A climb that passes ends at one of the peaks. -/
theorem Passes.ascend_mem_peaks {peakMatch : PeakMatch} {relaxed : Bool}
    {proof : Inclusion D} {place : Location} (h : proof.Passes S peakMatch relaxed place) :
    S.ascend place.position (S.leaf proof.leaf) proof.siblings ∈ proof.peaks :=
  PeakMatch.mem_of_decide_eq_accepted h.peak

theorem outcome_eq_accepted_iff {peakMatch : PeakMatch} {relaxed : Bool} {proof : Inclusion D} :
    proof.outcome S peakMatch relaxed = .accepted ↔
      ∃ place, proof.Passes S peakMatch relaxed place := by
  constructor
  · intro h
    unfold outcome at h
    simp only at h
    split at h
    · cases h
    · next hcount =>
        split at h
        · cases h
        · next hroot =>
            split at h
            · cases h
            · next place hplace =>
                split at h
                · cases h
                · next hheight =>
                    refine ⟨place, ?_, Classical.not_not.mp hroot, hplace,
                      Classical.not_not.mp hheight, h⟩
                    intro hrelaxed
                    by_cases hlength : proof.peaks.length = peakCount proof.size.toNat
                    · exact hlength
                    · exact absurd ⟨hrelaxed, hlength⟩ hcount
  · rintro ⟨place, hcount, hroot, hplace, hheight, hpeak⟩
    unfold outcome
    rw [if_neg (fun h => h.2 (hcount h.1)), if_neg (fun h => h hroot), hplace]
    exact (if_neg (fun h => h hheight)).trans hpeak

/-- The climb of a located leaf starts, and goes up from its position. -/
theorem judgeClimb_eq {m : Type → Type} [Monad m] (H : Hashing m D) (options : Options)
    {proof : Inclusion D} {place : Location} (hposition : place.position < 2 ^ place.height)
    (hheight : proof.siblings.length = place.height) :
    proof.judgeClimb H options place = (do
      let leaf ← H.leaf proof.leaf
      let peak ← Peak.ascend H.pair place.position leaf proof.siblings
      return .ok (options.peakMatch.decide proof.peaks place.mountain peak)) := by
  rw [judgeClimb, if_neg (fun h => h hheight), climbStart_eq hposition, ← hheight]
  simp only [Peak.climb_start]

/-- The verdict has no fault once the number of peaks is settled. -/
theorem judgePeaks_eq (options : Options) (relaxed : Bool) (proof : Inclusion D) :
    Id.run (proof.judgePeaks S.hashing options relaxed) =
      .ok (proof.outcome S options.peakMatch relaxed) := by
  unfold judgePeaks outcome
  simp only
  split
  · rfl
  · show (if S.root proof.size proof.peaks ≠ proof.root then _ else _ :
      Except Fault Outcome) = _
    split
    · rfl
    · by_cases hlt : proof.leafIndex.toNat < proof.size.toNat
      · obtain ⟨place, hplace, hholds⟩ := locateLeaf_holds hlt
        rw [hplace]
        by_cases hheight : proof.siblings.length = place.height
        · simp only [judgeClimb_eq S.hashing options hholds.position_lt hheight]
          rw [if_neg (fun h => h hheight)]
          rfl
        · simp only [judgeClimb, if_pos hheight]
          rfl
      · rw [locateLeaf_outside (Nat.le_of_not_lt hlt)]
        rfl

/-- The hash calls of an accepting verdict, latest first. -/
def calls (proof : Inclusion D) (place : Location) : List (HashCall D) :=
  S.ascendCalls place.position (S.leaf proof.leaf) proof.siblings ++
    .leaf proof.leaf :: S.rootCalls proof.size proof.peaks

omit [DecidableEq D] in
variable {S} in
theorem calls_subset_iff {proof : Inclusion D} {place : Location} {calls : List (HashCall D)} :
    proof.calls S place ⊆ calls ↔
      S.ascendCalls place.position (S.leaf proof.leaf) proof.siblings ⊆ calls ∧
        .leaf proof.leaf ∈ calls ∧ S.rootCalls proof.size proof.peaks ⊆ calls := by
  rw [Inclusion.calls, List.append_subset, List.cons_subset]

theorem records_judgePeaks {options : Options} {relaxed : Bool} {proof : Inclusion D}
    {place : Location} (h : proof.Passes S options.peakMatch relaxed place) :
    Records (proof.judgePeaks S.recording options relaxed) (.ok .accepted)
      (proof.calls S place) := by
  have hposition := (holds_of_locateLeaf h.located).2.position_lt
  have hclimb : Records (proof.judgeClimb S.recording options place) (.ok .accepted)
      (S.ascendCalls place.position (S.leaf proof.leaf) proof.siblings ++
        [.leaf proof.leaf]) := by
    rw [judgeClimb_eq S.recording options hposition h.height, ← h.peak]
    have hpeak := Records.map
      (fun peak => (.ok (options.peakMatch.decide proof.peaks place.mountain peak) :
        Except Fault Outcome))
      (S.records_ascend place.position (S.leaf proof.leaf) proof.siblings)
    exact Records.bind (Records.leaf S proof.leaf) hpeak
  unfold judgePeaks calls
  rw [if_neg (fun hc => hc.2 (h.count hc.1)), ← List.singleton_append, ← List.append_assoc]
  refine Records.bind (S.records_root proof.size proof.peaks) ?_
  rw [if_neg (fun hc => hc h.root), h.located]
  exact hclimb

theorem exists_records_judgeClimb (options : Options) (proof : Inclusion D)
    (place : Location) :
    ∃ calls, Records (proof.judgeClimb S.recording options place)
      (Id.run (proof.judgeClimb S.hashing options place)) calls := by
  unfold judgeClimb
  split
  · exact ⟨[], Records.pure _⟩
  · cases climbStart options.convention place.position place.height with
    | error e => exact ⟨[], Records.pure _⟩
    | ok start =>
        obtain ⟨calls, hclimb⟩ := S.exists_records_climb options.convention.isLeft
          options.convention.parent start (S.leaf proof.leaf) proof.siblings
        exact Records.exists_bind (Records.leaf S proof.leaf) ⟨calls, Records.map _ hclimb⟩

/-- A recorded verdict is the plain verdict, rejections and faults included. -/
theorem exists_records_judge (mode : Mode) (options : Options) (expected : Bool)
    (proof : Inclusion D) :
    ∃ calls, Records (proof.judge S.recording mode options expected)
      (Id.run (proof.judge S.hashing mode options expected)) calls := by
  unfold judge
  split
  · exact ⟨[], Records.pure _⟩
  · cases options.relaxes proof.size mode with
    | error kind => exact ⟨[], Records.pure _⟩
    | ok relaxed =>
        simp only [judgePeaks]
        split
        · exact ⟨[], Records.pure _⟩
        · have hroot : Id.run (Peak.root S.hashing.pair S.hashing.zero
              (S.hashing.embed proof.size) proof.peaks) = S.root proof.size proof.peaks := rfl
          rw [Id.run_bind, hroot]
          refine Records.exists_bind (S.records_root proof.size proof.peaks) ?_
          split
          · exact ⟨[], Records.pure _⟩
          · cases locateLeaf proof.leafIndex.toNat proof.size.toNat with
            | error e => cases e <;> exact ⟨[], Records.pure _⟩
            | ok place => exact exists_records_judgeClimb S options proof place

end Inclusion

/-! ## Requests by their mode -/

/-- A request has its own leaf. -/
theorem Request.hasLeaf_self (r : Request) : r.hasLeaf (some (.digest r.leaf)) = true :=
  decide_eq_true rfl

namespace Options

/-- Whether the number of peaks counts is always settled for an integer threshold. -/
theorem relaxes_below (peakMatch : PeakMatch) (convention : Convention) (threshold : Int)
    (size : UInt64) (mode : Mode) :
    ∃ relaxed, relaxes ⟨peakMatch, convention, .below threshold⟩ size mode = .ok relaxed := by
  cases mode with
  | wide => exact ⟨false, rfl⟩
  | compact => exact ⟨decide (size.toNat < threshold), rfl⟩

/-- No size lies below zero, so that a threshold of zero relaxes nothing. -/
theorem relaxes_below_zero (peakMatch : PeakMatch) (convention : Convention) (size : UInt64)
    (mode : Mode) : relaxes ⟨peakMatch, convention, .below 0⟩ size mode = .ok false := by
  cases mode with
  | wide => rfl
  | compact =>
      have hnot : ¬(size.toNat : Int) < 0 := by omega
      exact congrArg Except.ok (decide_eq_false hnot)

end Options

namespace Mode

/-- The digests of a mode. -/
def Form : Mode → Type
  | .wide => WideDigest
  | .compact => CompactDigest

instance (mode : Mode) : DecidableEq mode.Form :=
  match mode with
  | .wide => inferInstanceAs (DecidableEq WideDigest)
  | .compact => inferInstanceAs (DecidableEq CompactDigest)

/-- The scheme of a mode. -/
def scheme : (mode : Mode) → Scheme mode.Form
  | .wide => keccakScheme
  | .compact => poseidonScheme

/-- The request that a proof is under a mode. -/
def request : (mode : Mode) → Inclusion mode.Form → Request
  | .wide, proof => .wide proof
  | .compact, proof => .compact proof

/-- Sizes are told from their digests. -/
theorem embed_injective (mode : Mode) : Function.Injective mode.scheme.embed := by
  intro a b h
  apply UInt64.toNat_inj.mp
  cases mode with
  | wide => exact congrArg (fun d : WideDigest => d.low.val) h
  | compact => exact congrArg (fun d : CompactDigest => d.value.val) h

theorem length_siblings_request (mode : Mode) (proof : Inclusion mode.Form) :
    (mode.request proof).siblings.length = proof.siblings.length := by
  cases mode with
  | wide => exact List.length_map _
  | compact => exact List.length_map _

theorem length_peaks_request (mode : Mode) (proof : Inclusion mode.Form) :
    (mode.request proof).peaks.length = proof.peaks.length := by
  cases mode with
  | wide => exact List.length_map _
  | compact => exact List.length_map _

variable (mode : Mode) (proof : Inclusion mode.Form) (expected : Option Operand)
  (options : Options)

/-- The hash calls that the verdict on a request makes, latest first. -/
def verdictCalls : List (HashCall mode.Form) :=
  (proof.judge mode.scheme.recording mode options ((mode.request proof).hasLeaf expected) []).2

theorem explain_request :
    (mode.request proof).explain expected options =
      Id.run (proof.judge mode.scheme.hashing mode options
        ((mode.request proof).hasLeaf expected)) := by
  cases mode with
  | wide => rfl
  | compact => rfl

/-- The calls of a verdict are those of a run that comes to the verdict of the request. -/
theorem recorded_verdict :
    (proof.judge mode.scheme.recording mode options ((mode.request proof).hasLeaf expected) [] :
        Except Fault Outcome × List (HashCall mode.Form)) =
      ((mode.request proof).explain expected options,
        mode.verdictCalls proof expected options) := by
  obtain ⟨calls, hrecords⟩ := proof.exists_records_judge mode.scheme mode options
    ((mode.request proof).hasLeaf expected)
  rw [explain_request, verdictCalls, hrecords []]

variable {mode proof expected options}

/-- A request is accepted exactly if its leaf is the one expected and its proof passes
the gates. -/
theorem explain_eq_accepted_iff :
    (mode.request proof).explain expected options = .ok .accepted ↔
      (mode.request proof).hasLeaf expected = true ∧
      ∃ relaxed place, options.relaxes proof.size mode = .ok relaxed ∧
        proof.Passes mode.scheme options.peakMatch relaxed place := by
  rw [explain_request, Inclusion.judge]
  cases hleaf : (mode.request proof).hasLeaf expected with
  | false => simp
  | true =>
      rw [if_neg (by decide)]
      cases hrelaxes : options.relaxes proof.size mode with
      | error kind => simp
      | ok relaxed =>
          simp only [Inclusion.judgePeaks_eq, Except.ok.injEq,
            Inclusion.outcome_eq_accepted_iff, true_and]
          constructor
          · rintro ⟨place, hpasses⟩
            exact ⟨relaxed, place, rfl, hpasses⟩
          · rintro ⟨_, place, rfl, hpasses⟩
            exact ⟨place, hpasses⟩

/-- The calls of a verdict on a proof that passes the gates. -/
theorem verdictCalls_eq {relaxed : Bool} {place : Location}
    (hleaf : (mode.request proof).hasLeaf expected = true)
    (hrelaxes : options.relaxes proof.size mode = .ok relaxed)
    (hpasses : proof.Passes mode.scheme options.peakMatch relaxed place) :
    mode.verdictCalls proof expected options = proof.calls mode.scheme place := by
  rw [verdictCalls, hleaf, Inclusion.judge, if_neg (by decide), hrelaxes]
  simp only [Inclusion.records_judgePeaks mode.scheme hpasses [], List.append_nil]

/-- What an accepting verdict says of its proof, and which calls it made. -/
theorem passes_of_explain (h : (mode.request proof).explain expected options = .ok .accepted) :
    ∃ relaxed place, options.relaxes proof.size mode = .ok relaxed ∧
      proof.Passes mode.scheme options.peakMatch relaxed place ∧
      mode.verdictCalls proof expected options = proof.calls mode.scheme place := by
  obtain ⟨hleaf, relaxed, place, hrelaxes, hpasses⟩ := explain_eq_accepted_iff.mp h
  exact ⟨relaxed, place, hrelaxes, hpasses, verdictCalls_eq hleaf hrelaxes hpasses⟩

end Mode

end MountainRange
