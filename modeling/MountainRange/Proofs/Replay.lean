import MountainRange.Proofs.Binding
set_option autoImplicit false

/-!
# Replayed proofs

A proof that is accepted for one index is sent again for another.  Its siblings are as
many as one mountain is high, so that both indices lie in that mountain and the two
climbs end at the same peak with the same siblings.  Compared from the top down, they
hold the same digest at every level, and where one turns left and the other right, that
digest was hashed with itself.
-/

namespace MountainRange

namespace Scheme

variable {D : Type} {S : Scheme D} {calls : List (HashCall D)}

/-- Two nodes that hash to one digest with one sibling are the same; on different sides
of the sibling they are that sibling. -/
theorem join_digest_inj_sibling (hfree : ¬S.PairCollision calls) {x y : Nat}
    {node node' sibling : D} (h : HashCall.join x node sibling ∈ calls)
    (h' : HashCall.join y node' sibling ∈ calls)
    (heq : (HashCall.join x node sibling).digest S = (HashCall.join y node' sibling).digest S) :
    node = node' ∧ (x % 2 ≠ y % 2 → sibling = node) := by
  by_cases hside : x % 2 = y % 2
  · have hjoin : HashCall.join y node' sibling = HashCall.join x node' sibling := by
      rw [HashCall.join, HashCall.join, hside]
    rw [hjoin] at h' heq
    exact ⟨(join_digest_inj hfree h h' heq).1, fun hne => absurd hside hne⟩
  · unfold HashCall.join at h h' heq
    by_cases hx : x % 2 = 0
    · have hy : ¬y % 2 = 0 := by omega
      rw [if_pos hx] at h heq
      rw [if_neg hy] at h' heq
      obtain ⟨hnode, hsibling⟩ := pair_inj hfree h h' heq
      exact ⟨hnode.trans hsibling, fun _ => hnode.symm⟩
    · have hy : y % 2 = 0 := by omega
      rw [if_neg hx] at h heq
      rw [if_pos hy] at h' heq
      obtain ⟨hsibling, hnode⟩ := pair_inj hfree h h' heq
      exact ⟨hnode.trans hsibling, fun _ => hnode.symm⟩

/-- Two climbs along the same siblings that end at one digest hold the same digest at
every level, and it is the sibling of every level where they turn to different sides.
The induction is from the lowest level: what the hypothesis says of the level above is
what the first sibling was hashed to. -/
theorem ascend_take_eq (hfree : ¬S.PairCollision calls) {x y : Nat} {node node' : D}
    {siblings : List D} (h : S.ascendCalls x node siblings ⊆ calls)
    (h' : S.ascendCalls y node' siblings ⊆ calls)
    (heq : S.ascend x node siblings = S.ascend y node' siblings) (level : Nat) :
    S.ascend x node (siblings.take level) = S.ascend y node' (siblings.take level) ∧
      (level < siblings.length → x.testBit level ≠ y.testBit level →
        siblings[level]? = some (S.ascend x node (siblings.take level))) := by
  induction siblings generalizing x y node node' level with
  | nil => exact ⟨by rw [List.take_nil]; exact heq, fun hlevel => absurd hlevel (Nat.not_lt_zero _)⟩
  | cons sibling rest ih =>
      rw [ascendCalls] at h h'
      obtain ⟨hrest, hcall⟩ := List.append_subset.mp h
      obtain ⟨hrest', hcall'⟩ := List.append_subset.mp h'
      rw [ascend_cons, ascend_cons] at heq
      cases level with
      | zero =>
          have habove := (ih hrest hrest' heq 0).1
          rw [List.take_zero, ascend_nil, ascend_nil] at habove
          obtain ⟨hnode, hsibling⟩ := join_digest_inj_sibling hfree
            (hcall (List.mem_singleton_self _)) (hcall' (List.mem_singleton_self _)) habove
          refine ⟨by rw [List.take_zero, ascend_nil, ascend_nil, hnode], fun _ hbit => ?_⟩
          rw [Nat.testBit_zero, Nat.testBit_zero] at hbit
          have hside : x % 2 ≠ y % 2 := fun hsame => hbit (by rw [hsame])
          rw [List.take_zero, ascend_nil, hsibling hside]
          rfl
      | succ level =>
          obtain ⟨hheld, hbit⟩ := ih hrest hrest' heq level
          rw [List.take_succ_cons, ascend_cons, ascend_cons]
          refine ⟨hheld, fun hlevel hne => ?_⟩
          rw [Nat.testBit_succ, Nat.testBit_succ] at hne
          rw [List.getElem?_cons_succ]
          exact hbit (Nat.lt_of_succ_lt_succ hlevel) hne

end Scheme

namespace Inclusion

variable {D : Type} [DecidableEq D] {S : Scheme D} {calls : List (HashCall D)}
variable {p : Inclusion D} {place place' : Location} {other : UInt64}

/-- The digest that the climb of a proof holds after so many siblings. -/
def held (S : Scheme D) (convention : Convention) (proof : Inclusion D) (place : Location)
    (level : Nat) : D :=
  Id.run (Peak.climb S.hashing.pair convention.isLeft convention.parent
    (convention.start place.position place.height) (S.leaf proof.leaf)
    (proof.siblings.take level))

omit [DecidableEq D] in
theorem held_eq (convention : Convention) (hheight : p.siblings.length = place.height)
    (level : Nat) :
    p.held S convention place level =
      S.ascend place.position (S.leaf p.leaf) (p.siblings.take level) := by
  have hlength : (p.siblings.take level).length ≤ place.height := by
    rw [← hheight]
    exact List.length_take_le' level p.siblings
  rw [held, ← Nat.add_sub_of_le hlength, Peak.climb_start_below]
  rfl

/-- The places of two indices with the same siblings are in one mountain, the only one
as high as the siblings are many. -/
theorem mountain_eq_of_passes {peakMatch peakMatch' : PeakMatch} {relaxed relaxed' : Bool}
    (hp : p.Passes S peakMatch relaxed place)
    (hq : { p with leafIndex := other }.Passes S peakMatch' relaxed' place') :
    place.mountain = place'.mountain := by
  have hheight : place.height = place'.height := hp.height.symm.trans hq.height
  have hfirst := (holds_of_locateLeaf hp.located).2.height_eq
  have hsecond := (holds_of_locateLeaf hq.located).2.height_eq
  rw [hheight] at hfirst
  exact heights_inj hfirst hsecond

/-- What the climbs of a replayed proof hold: at every level the same digest, and the
sibling itself where the positions turn to different sides. -/
theorem ascend_of_replay (hfree : ¬S.PairCollision calls)
    (hp : p.Passes S .positional false place)
    (hq : { p with leafIndex := other }.Passes S .positional false place')
    (hpcalls : p.calls S place ⊆ calls)
    (hqcalls : { p with leafIndex := other }.calls S place' ⊆ calls) (level : Nat) :
    S.ascend place.position (S.leaf p.leaf) (p.siblings.take level) =
        S.ascend place'.position (S.leaf p.leaf) (p.siblings.take level) ∧
      (place.position.testBit level ≠ place'.position.testBit level →
        p.siblings[level]? =
          some (S.ascend place.position (S.leaf p.leaf) (p.siblings.take level))) := by
  have hpeak := PeakMatch.decide_positional_eq_accepted_iff.mp hp.peak
  have hpeak' := PeakMatch.decide_positional_eq_accepted_iff.mp hq.peak
  rw [mountain_eq_of_passes hp hq, hpeak'] at hpeak
  obtain ⟨heq, hbit⟩ := Scheme.ascend_take_eq hfree (calls_subset_iff.mp hpcalls).1
    (calls_subset_iff.mp hqcalls).1 (Option.some.inj hpeak).symm level
  refine ⟨heq, fun hne => hbit ?_ hne⟩
  -- Above the top neither position has a digit left.
  apply Classical.byContradiction
  intro habove
  have hle : 2 ^ place.height ≤ 2 ^ level := by
    rw [← hp.height]
    exact Nat.pow_le_pow_right (by decide) (Nat.le_of_not_lt habove)
  have hle' : 2 ^ place'.height ≤ 2 ^ level := by
    rw [← hq.height]
    exact Nat.pow_le_pow_right (by decide) (Nat.le_of_not_lt habove)
  have hposition := (holds_of_locateLeaf hp.located).2.position_lt
  have hposition' := (holds_of_locateLeaf hq.located).2.position_lt
  apply hne
  rw [Nat.testBit_lt_two_pow (Nat.lt_of_lt_of_le hposition hle),
    Nat.testBit_lt_two_pow (Nat.lt_of_lt_of_le hposition' hle')]

end Inclusion

/-- Of three leaves the first two are siblings, so that with equal ones the proof of the
first differs from that of the second in its index only. -/
theorem Range.proof_three_other {D : Type} (S : Scheme D) (a b : D) :
    { (three a a b).proof S ⟨0, show 0 < 3 by decide⟩ with leafIndex := 1 } =
      (three a a b).proof S ⟨1, show 1 < 3 by decide⟩ := by
  have hsiblings : siblingsAmong S (three a a b).mountains 0 =
      siblingsAmong S (three a a b).mountains 1 := by
    rw [mountains_three]
    rfl
  rw [Range.proof, Range.proof, Inclusion.mk.injEq]
  exact ⟨rfl, rfl, rfl, rfl, hsiblings, rfl⟩

namespace Mode

variable {mode : Mode} {p : Inclusion mode.Form} {other : UInt64}
variable {expected expected' : Option Operand} {convention convention' : Convention}

/-- A request that is accepted with its peaks matched by position and counted, and is
accepted again for another index with nothing else changed, has both indices in one
mountain, at different positions; and at every level where the positions differ, its
sibling is the digest that either climb holds there.  Else the two verdicts hash two
different pairs to one digest. -/
theorem replay_meets_equal_siblings (hother : p.leafIndex ≠ other)
    (hp : (mode.request p).explain expected ⟨.positional, convention, .below 0⟩ = .ok .accepted)
    (hq : (mode.request { p with leafIndex := other }).explain expected'
      ⟨.positional, convention', .below 0⟩ = .ok .accepted) :
    (∃ place place', locateLeaf p.leafIndex.toNat p.size.toNat = .ok place ∧
        locateLeaf other.toNat p.size.toNat = .ok place' ∧
        place.mountain = place'.mountain ∧ place.position ≠ place'.position ∧
        ∀ level, place.position.testBit level ≠ place'.position.testBit level →
          p.siblings[level]? = some (p.held mode.scheme convention place level) ∧
            p.siblings[level]? = some (p.held mode.scheme convention' place' level)) ∨
      mode.scheme.PairCollision
        (mode.verdictCalls p expected ⟨.positional, convention, .below 0⟩ ++
          mode.verdictCalls { p with leafIndex := other } expected'
            ⟨.positional, convention', .below 0⟩) := by
  obtain ⟨relaxed, place, hrelaxes, hpasses, hcalls⟩ := passes_of_explain hp
  obtain ⟨relaxed', place', hrelaxes', hpasses', hcalls'⟩ := passes_of_explain hq
  rw [Options.relaxes_below_zero] at hrelaxes hrelaxes'
  cases hrelaxes
  cases hrelaxes'
  rw [hcalls, hcalls']
  by_cases hfree : mode.scheme.PairCollision (p.calls mode.scheme place ++
      { p with leafIndex := other }.calls mode.scheme place')
  · exact Or.inr hfree
  · have hmountain := Inclusion.mountain_eq_of_passes hpasses hpasses'
    refine Or.inl ⟨place, place', hpasses.located, hpasses'.located, hmountain, ?_, ?_⟩
    · intro hposition
      have hindex := (holds_of_locateLeaf hpasses.located).2.leaf_eq
      have hindex' := (holds_of_locateLeaf hpasses'.located).2.leaf_eq
      rw [hmountain, hposition, ← hindex'] at hindex
      exact hother (UInt64.toNat_inj.mp hindex)
    · intro level hne
      obtain ⟨heq, hbit⟩ := Inclusion.ascend_of_replay hfree hpasses hpasses'
        (List.subset_append_left _ _) (List.subset_append_right _ _) level
      have hheight' : p.siblings.length = place'.height := hpasses'.height
      rw [Inclusion.held_eq convention hpasses.height,
        Inclusion.held_eq convention' hheight', ← heq]
      exact ⟨hbit hne, hbit hne⟩

/-- The proof of the first of three leaves, replayed for the second, which is equal. -/
theorem replay_meets_equal_siblings_of_equal_leaves :
    let range : Range compact.Form := .three ⟨5⟩ ⟨5⟩ ⟨7⟩
    let p : Inclusion compact.Form := range.proof compact.scheme ⟨0, by decide⟩
    let options : Options := ⟨.positional, .oddIsLeft, .below 0⟩
    p.leafIndex ≠ 1 ∧ (compact.request p).explain none options = .ok .accepted ∧
      (compact.request { p with leafIndex := 1 }).explain none options = .ok .accepted ∧
      ((∃ place place', locateLeaf p.leafIndex.toNat p.size.toNat = .ok place ∧
          locateLeaf (1 : UInt64).toNat p.size.toNat = .ok place' ∧
          place.mountain = place'.mountain ∧ place.position ≠ place'.position ∧
          ∀ level, place.position.testBit level ≠ place'.position.testBit level →
            p.siblings[level]? = some (p.held compact.scheme .oddIsLeft place level) ∧
              p.siblings[level]? = some (p.held compact.scheme .oddIsLeft place' level)) ∨
        compact.scheme.PairCollision (compact.verdictCalls p none options ++
          compact.verdictCalls { p with leafIndex := 1 } none options)) := by
  intro range p options
  have hother : p.leafIndex ≠ 1 := by decide
  have hp : (compact.request p).explain none options = .ok .accepted :=
    compact.explain_proof range ⟨0, by decide⟩ _ _ _ rfl
  have hsame : { p with leafIndex := 1 } = range.proof compact.scheme ⟨1, by decide⟩ :=
    Range.proof_three_other compact.scheme _ _
  have hq : (compact.request { p with leafIndex := 1 }).explain none options = .ok .accepted := by
    rw [hsame]
    exact compact.explain_proof range ⟨1, by decide⟩ _ _ _ rfl
  exact ⟨hother, hp, hq, replay_meets_equal_siblings hother hp hq⟩

end Mode

end MountainRange
