import MountainRange.Proofs.Totality
set_option autoImplicit false

/-!
# One verifier under both conventions

A request has the same verdict whichever convention its climb follows: both conventions
refuse the same positions, and from any other position they take the same turns.  Since
the gates know the convention only through the climb, this holds for the hash calls on
the way as well.
-/

namespace MountainRange

/-- A position outside its mountain is refused under every convention. -/
theorem climbStart_outside {c : Convention} {position height : Nat} (h : 2 ^ height ≤ position) :
    climbStart c position height = .error (.positionOutside position height) := by
  rw [climbStart, if_neg (by omega), if_neg (by omega), Int.toNat_natCast, Nat.one_shiftLeft,
    if_pos (by exact_mod_cast h)]

namespace Inclusion

variable {m : Type → Type} [Monad m] {D : Type} [DecidableEq D] (H : Hashing m D)
variable (peakMatch : PeakMatch) (relaxBelow : Threshold) (c c' : Convention)
variable (proof : Inclusion D)

theorem judgeClimb_convention (place : Location) :
    proof.judgeClimb H ⟨peakMatch, c, relaxBelow⟩ place =
      proof.judgeClimb H ⟨peakMatch, c', relaxBelow⟩ place := by
  by_cases hheight : proof.siblings.length = place.height
  · by_cases hposition : place.position < 2 ^ place.height
    · rw [judgeClimb_eq H _ hposition hheight, judgeClimb_eq H _ hposition hheight]
    · have houtside := Nat.le_of_not_lt hposition
      simp only [judgeClimb, climbStart_outside houtside]
  · simp only [judgeClimb, if_pos hheight]

/-- The gates of a proof do the same in any monad, whichever convention they are given. -/
theorem judge_convention (mode : Mode) (expected : Bool) :
    proof.judge H mode ⟨peakMatch, c, relaxBelow⟩ expected =
      proof.judge H mode ⟨peakMatch, c', relaxBelow⟩ expected := by
  have hpeaks : proof.judgePeaks H ⟨peakMatch, c, relaxBelow⟩ =
      proof.judgePeaks H ⟨peakMatch, c', relaxBelow⟩ := by
    funext relaxed
    simp only [judgePeaks, judgeClimb_convention H peakMatch relaxBelow c c' proof]
  have hrelaxes : Options.relaxes ⟨peakMatch, c, relaxBelow⟩ proof.size mode =
      Options.relaxes ⟨peakMatch, c', relaxBelow⟩ proof.size mode := by
    cases mode <;> rfl
  rw [judge, judge, hpeaks, hrelaxes]

end Inclusion

/-- The verdict on a request does not depend on the convention. -/
theorem Request.explain_convention (r : Request) (expected : Option Operand)
    (peakMatch : PeakMatch) (relaxBelow : Threshold) (c c' : Convention) :
    r.explain expected ⟨peakMatch, c, relaxBelow⟩ =
      r.explain expected ⟨peakMatch, c', relaxBelow⟩ := by
  obtain ⟨mode, proof, rfl⟩ := r.exists_request
  rw [Mode.explain_request, Mode.explain_request,
    Inclusion.judge_convention _ peakMatch relaxBelow c c']

namespace Mode

/-- A climb from a position inside its mountain starts under every convention, and all
conventions end at the same peak. -/
theorem exists_checkedClimb (mode : Mode) (c : Convention) (leaf : mode.Form)
    (siblings : List mode.Form) (position : Fin (2 ^ siblings.length)) :
    ∃ start, climbStart c position.val siblings.length = .ok start ∧
      mode.scheme.checkedClimb c (.int start) (mode.scheme.operand leaf)
          (siblings.map mode.scheme.operand) =
        .ok (mode.scheme.operand (mode.scheme.ascend position leaf siblings)) :=
  ⟨_, climbStart_eq position.isLt, Scheme.checkedClimb_start mode.faithful c position leaf siblings⟩

/-- The conventions are one verifier.  Every request has one outcome under both, whatever
leaf is expected, however the peak is matched and whatever the threshold is; and from
every position inside a mountain as high as the siblings are many, the climb that starts
at the index of the one convention and the climb that starts at the index of the other
come to the same peak. -/
theorem conventions_agree :
    (∀ (r : Request) (expected : Option Operand) (peakMatch : PeakMatch) (threshold : Int),
      ∃ outcome, r.explain expected ⟨peakMatch, .oddIsLeft, .below threshold⟩ = .ok outcome ∧
        r.explain expected ⟨peakMatch, .evenIsLeft, .below threshold⟩ = .ok outcome) ∧
      ∀ (mode : Mode) (leaf : mode.Form) (siblings : List mode.Form)
        (position : Fin (2 ^ siblings.length)),
        let S := mode.scheme
        ∃ odd even peak, climbStart .oddIsLeft position.val siblings.length = .ok odd ∧
          climbStart .evenIsLeft position.val siblings.length = .ok even ∧
          S.checkedClimb .oddIsLeft (.int odd) (S.operand leaf) (siblings.map S.operand) =
            .ok (S.operand peak) ∧
          S.checkedClimb .evenIsLeft (.int even) (S.operand leaf) (siblings.map S.operand) =
            .ok (S.operand peak) := by
  constructor
  · intro r expected peakMatch threshold
    obtain ⟨outcome, houtcome, _⟩ :=
      r.exists_explain expected peakMatch .oddIsLeft threshold
    exact ⟨outcome, houtcome, by rw [← houtcome, r.explain_convention]⟩
  · intro mode leaf siblings position S
    obtain ⟨odd, hodd, hoddPeak⟩ := mode.exists_checkedClimb .oddIsLeft leaf siblings position
    obtain ⟨even, heven, hevenPeak⟩ := mode.exists_checkedClimb .evenIsLeft leaf siblings position
    exact ⟨odd, even, S.ascend position leaf siblings, hodd, heven, hoddPeak, hevenPeak⟩

end Mode

end MountainRange
