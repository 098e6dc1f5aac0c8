import MountainRange.Proofs.Completeness
set_option autoImplicit false

/-!
# Binding of positions

Two strict proofs of one index against one root are the same proof, unless their hash
calls collide.  Nothing is known of the root: the argument peels it from the outside,
first the size and the bag, then the peaks, which are as many as the size asks for, then
the climb, whose length and turns are given by the size and the index.
-/

namespace MountainRange

namespace Inclusion

variable {D : Type} [DecidableEq D] {S : Scheme D} {calls : List (HashCall D)}
variable {p q : Inclusion D} {place place' : Location}

/-- Two strict proofs of one index and one root are the same. -/
theorem eq_of_passes (hpair : ¬S.PairCollision calls) (hleaf : ¬S.LeafCollision calls)
    (hembed : Function.Injective S.embed) (hp : p.Passes S .positional false place)
    (hq : q.Passes S .positional false place') (hpcalls : p.calls S place ⊆ calls)
    (hqcalls : q.calls S place' ⊆ calls) (hroot : p.root = q.root)
    (hindex : p.leafIndex = q.leafIndex) : p = q := by
  obtain ⟨hpclimb, hpleaf, hproot⟩ := calls_subset_iff.mp hpcalls
  obtain ⟨hqclimb, hqleaf, hqroot⟩ := calls_subset_iff.mp hqcalls
  have hroots : S.root p.size p.peaks = S.root q.size q.peaks := by
    rw [hp.root, hq.root, hroot]
  obtain ⟨hsize, hpeaks⟩ := Scheme.size_peaks_eq hpair hembed (hp.count rfl) (hq.count rfl)
    hproot hqroot hroots
  -- One index in one size is one place, so both climbs end at the same peak.
  have hplace : place = place' := by
    have hlocated := hp.located
    rw [hindex, hsize, hq.located] at hlocated
    exact (Except.ok.inj hlocated).symm
  subst hplace
  have hlength : p.siblings.length = q.siblings.length := hp.height.trans hq.height.symm
  have hpeak := PeakMatch.decide_positional_eq_accepted_iff.mp hp.peak
  have hpeak' := PeakMatch.decide_positional_eq_accepted_iff.mp hq.peak
  rw [hpeaks, hpeak'] at hpeak
  obtain ⟨hdigest, hsiblings⟩ := Scheme.ascend_inj hpair hlength hpclimb hqclimb
    (Option.some.inj hpeak).symm
  have hvalue : p.leaf = q.leaf := Scheme.leaf_inj hleaf hpleaf hqleaf hdigest
  cases p
  cases q
  cases hroot
  cases hvalue
  cases hindex
  cases hsize
  cases hsiblings
  cases hpeaks
  rfl

end Inclusion

namespace Mode

variable {mode : Mode} {p q : Inclusion mode.Form} {expected expected' : Option Operand}
variable {convention convention' : Convention}

/-- Two requests of one scheme with one root and one index that are both accepted, with
the peaks matched by position and counted, are the same request, or their verdicts hash
two different pairs or two different leaves to one digest. -/
theorem position_binding (hroot : p.root = q.root) (hindex : p.leafIndex = q.leafIndex)
    (hp : (mode.request p).explain expected ⟨.positional, convention, .below 0⟩ = .ok .accepted)
    (hq : (mode.request q).explain expected' ⟨.positional, convention', .below 0⟩ =
      .ok .accepted) :
    let calls := mode.verdictCalls p expected ⟨.positional, convention, .below 0⟩ ++
      mode.verdictCalls q expected' ⟨.positional, convention', .below 0⟩
    mode.request p = mode.request q ∨ mode.scheme.PairCollision calls ∨
      mode.scheme.LeafCollision calls := by
  intro calls
  obtain ⟨relaxed, place, hrelaxes, hpasses, hcalls⟩ := passes_of_explain hp
  obtain ⟨relaxed', place', hrelaxes', hpasses', hcalls'⟩ := passes_of_explain hq
  rw [Options.relaxes_below_zero] at hrelaxes hrelaxes'
  cases hrelaxes
  cases hrelaxes'
  by_cases hpair : mode.scheme.PairCollision calls
  · exact Or.inr (Or.inl hpair)
  · by_cases hleaf : mode.scheme.LeafCollision calls
    · exact Or.inr (Or.inr hleaf)
    · have hfront : p.calls mode.scheme place ⊆ calls := by
        rw [← hcalls]
        exact List.subset_append_left _ _
      have hback : q.calls mode.scheme place' ⊆ calls := by
        rw [← hcalls']
        exact List.subset_append_right _ _
      exact Or.inl (congrArg mode.request (Inclusion.eq_of_passes hpair hleaf mode.embed_injective
        hpasses hpasses' hfront hback hroot hindex))

/-- The proof of the middle one of three leaves, accepted under both conventions, once
with its leaf expected. -/
theorem position_binding_middle_of_three :
    let range : Range compact.Form := .three ⟨5⟩ ⟨6⟩ ⟨7⟩
    let p : Inclusion compact.Form := range.proof compact.scheme ⟨1, by decide⟩
    let r := compact.request p
    let expected := some (Operand.digest r.leaf)
    r.explain none ⟨.positional, .oddIsLeft, .below 0⟩ = .ok .accepted ∧
      r.explain expected ⟨.positional, .evenIsLeft, .below 0⟩ = .ok .accepted ∧
      (let calls := compact.verdictCalls p none ⟨.positional, .oddIsLeft, .below 0⟩ ++
        compact.verdictCalls p expected ⟨.positional, .evenIsLeft, .below 0⟩
      r = r ∨ compact.scheme.PairCollision calls ∨ compact.scheme.LeafCollision calls) := by
  intro range p r expected
  have hnone : r.explain none ⟨.positional, .oddIsLeft, .below 0⟩ = .ok .accepted :=
    compact.explain_proof range ⟨1, by decide⟩ _ _ _ rfl
  have hsome : r.explain expected ⟨.positional, .evenIsLeft, .below 0⟩ = .ok .accepted :=
    compact.explain_proof range ⟨1, by decide⟩ _ _ _ r.hasLeaf_self
  exact ⟨hnone, hsome, position_binding rfl rfl hnone hsome⟩

end Mode

end MountainRange
