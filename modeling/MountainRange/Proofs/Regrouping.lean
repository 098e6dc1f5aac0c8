import MountainRange.Proofs.HashEvaluation
import MountainRange.Proofs.Soundness
import MountainRange.Proofs.SpineLeaves
set_option autoImplicit false

/-!
# Regrouped peaks

With the number of peaks left out, the last peak of a proof may be the bag of several
peaks of the range.  A climb to it goes up the spine of that bag as if it were the inside
of a mountain, and can start at a leaf of a mountain behind.  Apart from collisions this
is the only way to show a leaf at an index that is not its own, and the numbers of the
two places tell whether it is open.
-/

namespace MountainRange

namespace Tree

variable {D : Type} {S : Scheme D} {calls : List (HashCall D)} {t : Tree D} {value : D}

/-- A climb that ends at the first of some peaks, seen from the tree whose digest they fold
into: the way down to its leaf, one level longer if there are more peaks. -/
theorem at?_of_ascend_eq_head (hfree : ¬S.Collision calls) (ht : t.calls S ⊆ calls) {peak : D}
    {tail : List D} (hpeaks : S.bagCalls (peak :: tail) ⊆ calls)
    (hbag : S.bag (peak :: tail) = t.digest S) {position : Nat} {siblings : List D}
    (hvalue : .leaf value ∈ calls)
    (hclimb : S.ascendCalls position (S.leaf value) siblings ⊆ calls)
    (hposition : position < 2 ^ siblings.length)
    (heq : S.ascend position (S.leaf value) siblings = peak) :
    t.at? (siblings.length + min 1 tail.length) position = some (.leaf value) := by
  cases tail with
  | nil =>
      rw [Scheme.bag_singleton, ← heq] at hbag
      exact at?_of_ascend_leaf_eq hfree ht hvalue hclimb hbag
  | cons next tail =>
      obtain ⟨hcall, _⟩ := List.cons_subset.mp hpeaks
      obtain ⟨left, right, rfl, hleft, _⟩ := node_of_digest_eq hfree ht hcall hbag.symm
      have hwithin : left.calls S ⊆ calls :=
        List.Subset.trans (Subtree.left .refl).calls_subset ht
      have hat := at?_of_ascend_leaf_eq hfree hwithin hvalue hclimb (heq.trans hleft.symm)
      have hbound : position < 2 ^ (siblings.length + 1) := by
        rw [Nat.pow_succ]
        omega
      have hlevel : min 1 (next :: tail).length = 1 := by
        rw [List.length_cons]
        omega
      rw [hlevel, at?_node left right hbound, if_pos hposition, hat]

end Tree

namespace Range

variable {D : Type} {S : Scheme D} {calls : List (HashCall D)} {range : Range D}
variable {place shown : Location} {leaf : Nat}

/-! ## The mountains from a place on -/

/-- The mountains from the place of a leaf on are perfect trees, and bagging builds a spine
over them. -/
theorem exists_spine_from (hholds : place.Holds (heights range.leaves.length) leaf)
    (hrange : range.calls S ⊆ calls) :
    ∃ t rest, range.mountains.drop place.mountain = t :: rest ∧
      place.mountain + (rest.length + 1) = peakCount range.leaves.length ∧
      (Tree.spine t rest).digest S = S.bag ((range.peaks S).drop place.mountain) ∧
      (Tree.spine t rest).calls S ⊆ calls ∧ ∀ u ∈ t :: rest, ∃ height, u.Perfect height := by
  obtain ⟨t, ht, _⟩ := mountain_at range.length_eq_leafCount hholds
  obtain ⟨hinside, hget⟩ := List.getElem?_eq_some_iff.mp ht
  have hdrop := List.drop_eq_getElem_cons hinside
  rw [hget, ← mountains] at hdrop
  have hpeaks : (range.peaks S).drop place.mountain =
      (t :: range.mountains.drop (place.mountain + 1)).map (Tree.digest S) := by
    rw [peaks, ← List.map_drop, hdrop]
  have hmem : ∀ u ∈ t :: range.mountains.drop (place.mountain + 1), u ∈ range.mountains := by
    intro u hu
    rw [← hdrop] at hu
    exact List.mem_of_mem_drop hu
  refine ⟨t, range.mountains.drop (place.mountain + 1), hdrop, ?_, ?_, ?_, ?_⟩
  · have hcount : range.mountains.length = peakCount range.leaves.length := by
      rw [← range.length_peaks S, peaks, List.length_map]
    have hlt : place.mountain < range.mountains.length := hinside
    rw [List.length_drop]
    omega
  · rw [Tree.digest_spine, hpeaks]
  · apply Tree.calls_spine_subset
    · have hbag := (List.cons_subset.mp (range.rootCalls_subset S)).2
      rw [← hpeaks]
      exact List.Subset.trans (S.bagCalls_drop_subset _ _) (List.Subset.trans hbag hrange)
    · intro u hu
      exact List.Subset.trans (range.mountain_calls_subset (hmem u hu)) hrange
  · intro u hu
    obtain ⟨i, hi⟩ := List.mem_iff_getElem?.mp (hmem u hu)
    obtain ⟨height, _, hperfect⟩ := perfect_of_mountainsOver range.length_eq_leafCount hi
    exact ⟨height, hperfect⟩

/-- A leaf of one of the mountains is the leaf of the range at the index with its place. -/
theorem exists_index_of_mountain (shown : Location) {u : Tree D} {value : D}
    (hu : range.mountains[shown.mountain]? = some u) (htall : u.Perfect shown.height)
    (hvalue : u.leaves[shown.position]? = some value) :
    ∃ index, shown.Holds (heights range.leaves.length) index ∧
      range.leaves[index]? = some value := by
  have hposition : shown.position < 2 ^ shown.height := by
    rw [← htall.length_leaves]
    exact (List.getElem?_eq_some_iff.mp hvalue).1
  obtain ⟨height, hheight, hperfect⟩ := perfect_of_mountainsOver range.length_eq_leafCount hu
  rw [hperfect.height_eq htall] at hheight
  have hholds : shown.Holds (heights range.leaves.length)
      (leafCount ((heights range.leaves.length).take shown.mountain) + shown.position) :=
    ⟨hheight, hposition, rfl⟩
  obtain ⟨found, hfound, _, hsame, _⟩ := mountain_at range.length_eq_leafCount hholds
  have hmountain : found = u := Option.some.inj (hfound.symm.trans hu)
  rw [hmountain, hvalue] at hsame
  exact ⟨_, hholds, hsame.symm⟩

/-! ## Misplaced leaves -/

/-- A proof that brings the peaks of a range up to the mountain of its index, where it has
the bag of that peak and those behind it, and shows a leaf of a mountain behind, to which
the way down to its own place leads. -/
structure Misplaces (range : Range D) (S : Scheme D) (p : Inclusion D)
    (place shown : Location) (index : Nat) : Prop where
  located : locateLeaf p.leafIndex.toNat range.leaves.length = .ok place
  shown_located : locateLeaf index range.leaves.length = .ok shown
  shown_behind : place.mountain < shown.mountain
  leadsTo : place.LeadsTo shown (peakCount range.leaves.length)
  leaf : range.leaves[index]? = some p.leaf
  peaks : p.peaks = (range.peaks S).take place.mountain ++
    [S.bag ((range.peaks S).drop place.mountain)]

variable [DecidableEq D] {p : Inclusion D}

/-- The peaks of a proof that passes against the root of a range are those of the range in
front of the place of its index, and its climb goes up the spine over the mountains from
that place on: to the top if its peak is the last, else to the left child of the top. -/
theorem at?_spine_of_passes {relaxed : Bool} (hfree : ¬S.Collision calls)
    (hp : p.Passes S .positional relaxed place) (hcalls : p.calls S place ⊆ calls)
    (hrange : range.calls S ⊆ calls) (hbag : S.bag p.peaks = S.bag (range.peaks S))
    {t : Tree D} {rest : List (Tree D)} (hwithin : (Tree.spine t rest).calls S ⊆ calls)
    (hinside : place.mountain < (range.peaks S).length)
    (hdigest : (Tree.spine t rest).digest S = S.bag ((range.peaks S).drop place.mountain)) :
    ∃ tail, p.peaks = (range.peaks S).take place.mountain ++
        S.ascend place.position (S.leaf p.leaf) p.siblings :: tail ∧
      S.bag (S.ascend place.position (S.leaf p.leaf) p.siblings :: tail) =
        S.bag ((range.peaks S).drop place.mountain) ∧
      (Tree.spine t rest).at? (place.height + min 1 tail.length) place.position =
        some (.leaf p.leaf) := by
  obtain ⟨hclimb, hleaf, hproot⟩ := Inclusion.calls_subset_iff.mp hcalls
  have hrangeRoot := List.Subset.trans (range.rootCalls_subset S) hrange
  have hpeaks := (List.cons_subset.mp hproot).2
  obtain ⟨hinside', hget⟩ := List.getElem?_eq_some_iff.mp
    (PeakMatch.decide_positional_eq_accepted_iff.mp hp.peak)
  obtain ⟨htake, hdrop⟩ := Scheme.bag_drop_eq (fun h => hfree (Or.inl h)) hpeaks
    (List.cons_subset.mp hrangeRoot).2 hbag hinside' hinside
  have hsplit := List.drop_eq_getElem_cons hinside'
  rw [hget] at hsplit
  have hposition := (holds_of_locateLeaf hp.located).2.position_lt
  rw [hsplit] at hdrop
  refine ⟨p.peaks.drop (place.mountain + 1), ?_, hdrop, ?_⟩
  · rw [← hsplit, ← htake, List.take_append_drop]
  · have hfold := List.Subset.trans (S.bagCalls_drop_subset p.peaks place.mountain) hpeaks
    rw [hsplit] at hfold
    rw [← hp.height] at hposition ⊢
    exact Tree.at?_of_ascend_eq_head hfree hwithin hfold (hdrop.trans hdigest.symm) hleaf hclimb
      hposition rfl

/-- A proof that passes against the root of a range, its peak matched by position, is of the
size of the range, and shows the leaf at its index or misplaces a leaf of a mountain
behind. -/
theorem leaf_at_index_or_misplaces {relaxed : Bool} (hfree : ¬S.Collision calls)
    (hembed : Function.Injective S.embed) (hp : p.Passes S .positional relaxed place)
    (hcalls : p.calls S place ⊆ calls) (hrange : range.calls S ⊆ calls)
    (hroot : p.root = range.root S) :
    p.size = range.size ∧ (range.leaves[p.leafIndex.toNat]? = some p.leaf ∨
      ∃ shown index, range.Misplaces S p place shown index) := by
  obtain ⟨_, _, hproot⟩ := Inclusion.calls_subset_iff.mp hcalls
  have hrangeRoot := List.Subset.trans (range.rootCalls_subset S) hrange
  obtain ⟨hsize, hbag⟩ := Scheme.root_inj (fun h => hfree (Or.inl h)) hembed hproot hrangeRoot
    (root_eq_of_passes hp hroot)
  have hlocated := hp.located
  rw [hsize, range.toNat_size] at hlocated
  obtain ⟨_, hholds⟩ := holds_of_locateLeaf hlocated
  obtain ⟨t, rest, hdrop, hcount, hdigest, hwithin, hperfect⟩ :=
    exists_spine_from hholds hrange
  have hinside : place.mountain < (range.peaks S).length := by
    rw [range.length_peaks]
    omega
  obtain ⟨tail, hpeaks, hfold, hat⟩ :=
    at?_spine_of_passes hfree hp hcalls hrange hbag hwithin hinside hdigest
  have hbound : place.position < 2 ^ (place.height + min 1 tail.length) :=
    Nat.lt_of_lt_of_le hholds.position_lt
      (Nat.pow_le_pow_right (by decide) (Nat.le_add_right _ _))
  obtain ⟨⟨behind, height, position⟩, u, hu, htall, hvalue, hleads⟩ :=
    Tree.leadsTo_of_at?_spine hperfect hbound hat
  rw [← hdrop, List.getElem?_drop] at hu
  obtain ⟨index, hshown, hindex⟩ := exists_index_of_mountain
    ⟨place.mountain + behind, height, position⟩ hu htall hvalue
  refine ⟨hsize, ?_⟩
  by_cases hfirst : behind = 0
  · -- The climb stays in the mountain of the index, and ends at its own position.
    have hsame := hleads.position_of_mountain_eq hfirst
    have hplace : index = p.leafIndex.toNat := by
      rw [hshown.leaf_eq, hholds.leaf_eq, hfirst, ← hsame]
      rfl
    exact Or.inl (by rw [← hplace, hindex])
  · -- Only the last peak can stand for those behind it.
    have hlast : tail = [] := by
      cases tail with
      | nil => rfl
      | cons next tail =>
          rw [List.length_cons, Nat.min_eq_left (Nat.succ_pos _)] at hleads
          exact absurd (hleads.mountain_eq_zero hholds.position_lt) hfirst
    subst hlast
    rw [Scheme.bag_singleton] at hfold
    have hfar := (Location.LeadsTo.add_iff place.mountain (Nat.succ_pos _)).mpr hleads
    rw [hcount] at hfar
    refine Or.inr ⟨⟨place.mountain + behind, height, position⟩, index, hlocated,
      locateLeaf_of_holds hshown, ?_, hfar, hindex, by rw [hpeaks, hfold]⟩
    show place.mountain < place.mountain + behind
    omega

omit [DecidableEq D] in
/-- A misplaced leaf takes fewer peaks than the range has. -/
theorem Misplaces.length_peaks_lt {index : Nat} (h : range.Misplaces S p place shown index) :
    p.peaks.length < peakCount range.leaves.length := by
  obtain ⟨_, hholds⟩ := holds_of_locateLeaf h.shown_located
  obtain ⟨hinside, _⟩ := List.getElem?_eq_some_iff.mp hholds.height_eq
  have hbehind := h.shown_behind
  rw [length_heights] at hinside
  rw [h.peaks, List.length_append, List.length_take, List.length_singleton]
  omega

/-- A proof that brings the peaks of a range up to some mountain and there the bag of its
peak and those behind it. -/
def regroupedAt (range : Range D) (S : Scheme D) (mountain : Nat) (leafIndex : UInt64)
    (value : D) (siblings : List D) : Inclusion D where
  root := range.root S
  leaf := value
  leafIndex := leafIndex
  size := range.size
  siblings := siblings
  peaks := (range.peaks S).take mountain ++ [S.bag ((range.peaks S).drop mountain)]

/-- With its peaks uncounted such a proof passes if its climb goes up to the bag. -/
theorem regroupedAt_passes {leafIndex : UInt64} {value : D} {siblings : List D}
    (hlocated : locateLeaf leafIndex.toNat range.leaves.length = .ok place)
    (hinside : place.mountain < (range.peaks S).length)
    (hlength : siblings.length = place.height)
    (hascend : S.ascend place.position (S.leaf value) siblings =
      S.bag ((range.peaks S).drop place.mountain)) :
    (range.regroupedAt S place.mountain leafIndex value siblings).Passes S .positional true
      place where
  count h := Bool.noConfusion h
  root := by
    show S.root range.size ((range.peaks S).take place.mountain ++ [_]) = range.root S
    rw [Scheme.root_eq, S.bag_regroup hinside, range.root_eq, Scheme.root_eq]
  located := by
    show locateLeaf leafIndex.toNat range.size.toNat = .ok place
    rw [range.toNat_size, hlocated]
  height := hlength
  peak := by
    have hfront : ((range.peaks S).take place.mountain).length = place.mountain :=
      List.length_take_of_le (Nat.le_of_lt hinside)
    apply PeakMatch.decide_positional_eq_accepted_iff.mpr
    show ((range.peaks S).take place.mountain ++ [_])[place.mountain]? =
      some (S.ascend place.position (S.leaf value) siblings)
    rw [List.getElem?_append_right (Nat.le_of_eq hfront), hfront, Nat.sub_self, hascend]
    rfl

/-- Every way from one place to another behind it is open: with the peaks uncounted there
is a proof that passes and misplaces the leaf. -/
theorem exists_misplaces (range : Range D) (S : Scheme D) {leafIndex : UInt64} {index : Nat}
    {value : D} (hlocated : locateLeaf leafIndex.toNat range.leaves.length = .ok place)
    (hshown : locateLeaf index range.leaves.length = .ok shown)
    (hbehind : place.mountain < shown.mountain)
    (hleads : place.LeadsTo shown (peakCount range.leaves.length))
    (hvalue : range.leaves[index]? = some value) :
    ∃ siblings,
      let p := range.regroupedAt S place.mountain leafIndex value siblings
      p.Passes S .positional true place ∧ range.Misplaces S p place shown index := by
  obtain ⟨_, hholds⟩ := holds_of_locateLeaf hlocated
  obtain ⟨u, hu, htall, hsame, _⟩ :=
    mountain_at range.length_eq_leafCount (holds_of_locateLeaf hshown).2
  obtain ⟨t, rest, hdrop, hcount, hdigest, _, _⟩ :=
    exists_spine_from hholds (List.Subset.refl (range.calls S))
  have hinside : place.mountain < (range.peaks S).length := by
    rw [range.length_peaks]
    omega
  -- Counted from the place on, the leaf is one of the spine.
  obtain ⟨behind, hmountain⟩ := Nat.exists_eq_add_of_le (Nat.le_of_lt hbehind)
  have hnear : Location.LeadsTo ⟨0, place.height, place.position⟩
      ⟨behind, shown.height, shown.position⟩ (rest.length + 1) := by
    apply (Location.LeadsTo.add_iff place.mountain (Nat.succ_pos _)).mp
    rw [hcount, Nat.add_zero]
    simpa only [← hmountain] using hleads
  have hspine : (t :: rest)[behind]? = some u := by
    rw [← hdrop, List.getElem?_drop, ← hmountain]
    exact hu
  have hat := Tree.at?_spine_of_leadsTo ⟨behind, shown.height, shown.position⟩
    hholds.position_lt hspine htall (hsame.trans hvalue) hnear
  obtain ⟨siblings, hlength, hascend⟩ := Tree.exists_siblings (S := S) hat
  rw [hdigest, Tree.digest_leaf] at hascend
  exact ⟨siblings, regroupedAt_passes hlocated hinside hlength hascend, hlocated, hshown,
    hbehind, hleads, hvalue, rfl⟩

end Range

namespace Mode

variable {range : Range compact.Form} {p : Inclusion compact.Form}
variable {expected : Option Operand} {convention : Convention} {threshold : Int}

/-- A compact request with the root of a range that is accepted with its peak matched by
position is of the size of the range, and shows the leaf at its index or, if the size is
below the threshold, misplaces a leaf of a mountain behind; or hash calls of the verdict
and of the range collide. -/
theorem accepted_leaf_at_index_or_misplaced (hroot : p.root = range.root compact.scheme)
    (h : (compact.request p).explain expected ⟨.positional, convention, .below threshold⟩ =
      .ok .accepted) :
    (p.size.toNat = range.leaves.length ∧
        (range.leaves[p.leafIndex.toNat]? = some p.leaf ∨
          p.size.toNat < threshold ∧
            ∃ place shown index, range.Misplaces compact.scheme p place shown index)) ∨
      compact.scheme.Collision
        (compact.verdictCalls p expected ⟨.positional, convention, .below threshold⟩ ++
          range.calls compact.scheme) := by
  obtain ⟨relaxed, place, hrelaxes, hpasses, hcalls⟩ := passes_of_explain h
  rw [hcalls]
  by_cases hfree : compact.scheme.Collision
      (p.calls compact.scheme place ++ range.calls compact.scheme)
  · exact Or.inr hfree
  · obtain ⟨hsize, hleaf⟩ := range.leaf_at_index_or_misplaces hfree compact.embed_injective
      hpasses (List.subset_append_left _ _) (List.subset_append_right _ _) hroot
    have hlength : p.size.toNat = range.leaves.length := by
      rw [hsize, range.toNat_size]
    refine Or.inl ⟨hlength, ?_⟩
    rcases hleaf with hleaf | ⟨shown, index, hmisplaces⟩
    · exact Or.inl hleaf
    · refine Or.inr ⟨?_, place, shown, index, hmisplaces⟩
      have hfewer := hmisplaces.length_peaks_lt
      -- Counted, the peaks would be as many as those of the range.
      have hrelaxed : relaxed = true := by
        cases relaxed with
        | true => rfl
        | false =>
            have hcount := hpasses.count rfl
            rw [hlength] at hcount
            omega
      rw [hrelaxed] at hrelaxes
      exact of_decide_eq_true (Except.ok.inj hrelaxes)

/-- With a threshold above three the regrouped proof is accepted, whatever the three leaves
are. -/
theorem explain_regrouped (a b c : compact.Form) (peakMatch : PeakMatch)
    (convention : Convention) (h : 3 < threshold) :
    (compact.request (Range.regrouped compact.scheme a b c)).explain none
      ⟨peakMatch, convention, .below threshold⟩ = .ok .accepted := by
  have hrelaxes : Options.relaxes ⟨peakMatch, convention, .below threshold⟩ 3 .compact =
      .ok true := congrArg Except.ok (decide_eq_true h)
  exact explain_eq_accepted_iff.mpr ⟨rfl, true, ⟨0, 1, 1⟩, hrelaxes,
    Range.regrouped_passes compact.scheme a b c peakMatch⟩

/-- The regrouped proof, which shows the last of three leaves at the index of the middle
one. -/
theorem accepted_leaf_at_index_or_misplaced_regrouped :
    let range : Range compact.Form := .three ⟨5⟩ ⟨6⟩ ⟨7⟩
    let p : Inclusion compact.Form := Range.regrouped compact.scheme ⟨5⟩ ⟨6⟩ ⟨7⟩
    let options : Options := ⟨.positional, .oddIsLeft, .below 5⟩
    p.root = range.root compact.scheme ∧
      (compact.request p).explain none options = .ok .accepted ∧
      ((p.size.toNat = range.leaves.length ∧
          (range.leaves[p.leafIndex.toNat]? = some p.leaf ∨
            (p.size.toNat : Int) < 5 ∧
              ∃ place shown index, range.Misplaces compact.scheme p place shown index)) ∨
        compact.scheme.Collision (compact.verdictCalls p none options ++
          range.calls compact.scheme)) := by
  intro range p options
  have haccepted : (compact.request p).explain none options = .ok .accepted :=
    explain_regrouped ⟨5⟩ ⟨6⟩ ⟨7⟩ .positional .oddIsLeft (by decide)
  exact ⟨rfl, haccepted, accepted_leaf_at_index_or_misplaced rfl haccepted⟩

/-- No two hash calls of the regrouped proof and of its range collide. -/
theorem regrouped_collision_free :
    ¬poseidonScheme.Collision
      ((Range.regrouped poseidonScheme ⟨5⟩ ⟨6⟩ ⟨7⟩).calls poseidonScheme ⟨0, 1, 1⟩ ++
        (Range.three ⟨5⟩ ⟨6⟩ ⟨7⟩).calls poseidonScheme) := by
  rw [← quickScheme_eq]
  decide +kernel

/-- The regrouped proof shows a leaf at an index that is not its own, without a
collision. -/
theorem regrouped_not_bound :
    let range : Range compact.Form := .three ⟨5⟩ ⟨6⟩ ⟨7⟩
    let p : Inclusion compact.Form := Range.regrouped compact.scheme ⟨5⟩ ⟨6⟩ ⟨7⟩
    let options : Options := ⟨.positional, .oddIsLeft, .below 5⟩
    p.root = range.root compact.scheme ∧ p.size.toNat = range.leaves.length ∧
      (compact.request p).explain none options = .ok .accepted ∧
      ¬(range.leaves[p.leafIndex.toNat]? = some p.leaf ∨
        compact.scheme.Collision (compact.verdictCalls p none options ++
          range.calls compact.scheme)) := by
  intro range p options
  have haccepted : (compact.request p).explain none options = .ok .accepted :=
    explain_regrouped ⟨5⟩ ⟨6⟩ ⟨7⟩ .positional .oddIsLeft (by decide)
  have hcalls : compact.verdictCalls p none options = p.calls compact.scheme ⟨0, 1, 1⟩ :=
    verdictCalls_eq rfl rfl (Range.regrouped_passes compact.scheme ⟨5⟩ ⟨6⟩ ⟨7⟩ .positional)
  refine ⟨rfl, rfl, haccepted, ?_⟩
  rintro (hleaf | hcollision)
  · have hother : (some ⟨6⟩ : Option compact.Form) ≠ some ⟨7⟩ := by decide
    exact hother hleaf
  · rw [hcalls] at hcollision
    exact regrouped_collision_free hcollision

end Mode

end MountainRange
