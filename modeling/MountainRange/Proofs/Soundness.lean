import MountainRange.Proofs.Completeness
set_option autoImplicit false

/-!
# Soundness against the root of a range

A proof that is accepted against the root of a range shows a leaf of that range, unless
hash calls of the verdict and of the range collide.  With the peaks counted, its size is
that of the range and the leaf stands at its index, even when the peak may stand
anywhere.  With the peaks uncounted, they may be any cut of the tree that bagging builds
over the mountains, and the leaf is still one of its leaves.
-/

namespace MountainRange

namespace Range

variable {D : Type} {S : Scheme D} {calls : List (HashCall D)} {range : Range D}

/-- A climb that ends at a peak of a range started at the leaf at the climbed position
of a mountain as high as the climb is long. -/
theorem mountain_of_ascend_mem (hfree : ¬S.Collision calls) (hrange : range.calls S ⊆ calls)
    {position : Nat} {leaf : D} {siblings : List D}
    (hposition : position < 2 ^ siblings.length) (hleaf : .leaf leaf ∈ calls)
    (hclimb : S.ascendCalls position (S.leaf leaf) siblings ⊆ calls)
    (hmem : S.ascend position (S.leaf leaf) siblings ∈ range.peaks S) :
    ∃ (i : Nat) (t : Tree D), range.mountains[i]? = some t ∧
      (heights range.leaves.length)[i]? = some siblings.length ∧
      t.leaves[position]? = some leaf := by
  obtain ⟨t, ht, hdigest⟩ := List.mem_map.mp hmem
  obtain ⟨i, hi⟩ := List.mem_iff_getElem?.mp ht
  obtain ⟨height, hheight, hperfect⟩ := perfect_of_mountainsOver range.length_eq_leafCount hi
  have hwithin : t.calls S ⊆ calls :=
    List.Subset.trans (range.mountain_calls_subset ht) hrange
  have hat := Tree.at?_of_ascend_leaf_eq hfree hwithin hleaf hclimb hdigest.symm
  obtain ⟨hlength, hvalue⟩ := hperfect.getElem?_of_at?_leaf hat hposition
  exact ⟨i, t, hi, by rw [hheight, hlength], hvalue⟩

variable [DecidableEq D] {p : Inclusion D} {peakMatch : PeakMatch} {place : Location}

/-- The peaks of a proof that passes come to the root of the range. -/
theorem root_eq_of_passes {relaxed : Bool} (hp : p.Passes S peakMatch relaxed place)
    (hroot : p.root = range.root S) :
    S.root p.size p.peaks = S.root range.size (range.peaks S) := by
  rw [hp.root, hroot, range.root_eq]

/-- A proof that passes with its peaks counted against the root of a range is of the size
of the range and shows the leaf at its index.  Its climb may end at any peak, yet only
the mountain of its index is as high as the climb is long. -/
theorem leaf_at_index_of_passes (hfree : ¬S.Collision calls)
    (hembed : Function.Injective S.embed) (hp : p.Passes S peakMatch false place)
    (hcalls : p.calls S place ⊆ calls) (hrange : range.calls S ⊆ calls)
    (hroot : p.root = range.root S) :
    p.size = range.size ∧ range.leaves[p.leafIndex.toNat]? = some p.leaf := by
  obtain ⟨hclimb, hleaf, hproot⟩ := Inclusion.calls_subset_iff.mp hcalls
  have hrangeRoot := List.Subset.trans (range.rootCalls_subset S) hrange
  have hcount : (range.peaks S).length = peakCount range.size.toNat := by
    rw [range.length_peaks, range.toNat_size]
  obtain ⟨hsize, hpeaks⟩ := Scheme.size_peaks_eq (fun h => hfree (Or.inl h)) hembed
    (hp.count rfl) hcount hproot hrangeRoot (root_eq_of_passes hp hroot)
  refine ⟨hsize, ?_⟩
  have hmem := hp.ascend_mem_peaks
  rw [hpeaks] at hmem
  obtain ⟨_, hholds⟩ := holds_of_locateLeaf hp.located
  have hposition : place.position < 2 ^ p.siblings.length := by
    rw [hp.height]
    exact hholds.position_lt
  obtain ⟨i, t, ht, hheight, hvalue⟩ :=
    mountain_of_ascend_mem hfree hrange hposition hleaf hclimb hmem
  rw [hsize, range.toNat_size] at hholds
  have hsame : i = place.mountain := by
    rw [hp.height] at hheight
    exact heights_inj hheight hholds.height_eq
  obtain ⟨found, hfound, _, hat, _⟩ := mountain_at range.length_eq_leafCount hholds
  have hmountain : found = t := by
    rw [mountains, hsame, hfound] at ht
    exact Option.some.inj ht
  rw [← hat, hmountain, hvalue]

/-- A proof that passes against the root of a range shows one of its leaves, whatever its
peaks are. -/
theorem leaf_mem_of_passes {relaxed : Bool} (hfree : ¬S.Collision calls)
    (hembed : Function.Injective S.embed) (hp : p.Passes S peakMatch relaxed place)
    (hcalls : p.calls S place ⊆ calls) (hrange : range.calls S ⊆ calls)
    (hroot : p.root = range.root S) : p.leaf ∈ range.leaves := by
  obtain ⟨hclimb, hleaf, hproot⟩ := Inclusion.calls_subset_iff.mp hcalls
  have hrangeRoot := List.Subset.trans (range.rootCalls_subset S) hrange
  obtain ⟨hsize, hbag⟩ :=
    Scheme.root_inj (fun h => hfree (Or.inl h)) hembed hproot hrangeRoot
      (root_eq_of_passes hp hroot)
  obtain ⟨hinside, _⟩ := holds_of_locateLeaf hp.located
  have hleaves : range.leaves ≠ [] := by
    intro hempty
    rw [hsize, range.toNat_size, hempty] at hinside
    exact Nat.not_lt_zero _ hinside
  obtain ⟨t, hall, hdigest, htree⟩ := range.exists_spine S hleaves
  have hwithin : t.calls S ⊆ calls := List.Subset.trans htree hrange
  obtain ⟨u, hsub, hpeak⟩ := Tree.subtree_of_bag_eq hfree hwithin
    (List.cons_subset.mp hproot).2 (hbag.trans hdigest.symm) hp.ascend_mem_peaks
  have hsubtree : u.calls S ⊆ calls := List.Subset.trans hsub.calls_subset hwithin
  have hat := Tree.at?_of_ascend_leaf_eq hfree hsubtree hleaf hclimb hpeak.symm
  rw [← hall]
  exact ((Tree.subtree_of_at? hat).trans hsub).leaves_subset (List.mem_singleton_self _)

/-! ## Regrouped peaks -/

variable (S) (a b c : D)

/-- A proof against the range of three leaves that brings the bag of both peaks as its
only peak and the first of them as its only sibling.  It shows the last leaf, at the
index of the one before. -/
def regrouped : Inclusion D where
  root := (three a b c).root S
  leaf := c
  leafIndex := 1
  size := 3
  siblings := [S.pair (S.leaf a) (S.leaf b)]
  peaks := [S.bag ((three a b c).peaks S)]

/-- With its peaks uncounted the regrouped proof passes, whatever the three leaves are. -/
theorem regrouped_passes (peakMatch : PeakMatch) :
    (regrouped S a b c).Passes S peakMatch true ⟨0, 1, 1⟩ where
  count h := by cases h
  root := ((three a b c).root_eq S).symm
  located := by
    have hfound : locateAmong (heights 3) 0 1 = some ⟨0, 1, 1⟩ := by decide
    exact locateLeaf_eq_ok (show 1 < 3 by decide) hfound
  height := rfl
  peak := by
    apply PeakMatch.decide_eq_accepted
    show [S.bag ((three a b c).peaks S)][0]? = _
    rw [peaks_three]
    rfl

end Range

namespace Mode

variable {mode : Mode} {range : Range mode.Form} {p : Inclusion mode.Form}
variable {expected : Option Operand}

/-- A request with the root of a range that is accepted with its peaks counted is of the
size of the range and shows the leaf at its index, or hash calls of the verdict and of
the range collide: under both ways to match the peak and both conventions. -/
theorem accepted_leaf_at_index {peakMatch : PeakMatch} {convention : Convention}
    (hroot : p.root = range.root mode.scheme)
    (h : (mode.request p).explain expected ⟨peakMatch, convention, .below 0⟩ = .ok .accepted) :
    (p.size.toNat = range.leaves.length ∧ p.leafIndex.toNat < range.leaves.length ∧
        range.leaves[p.leafIndex.toNat]? = some p.leaf) ∨
      mode.scheme.Collision (mode.verdictCalls p expected ⟨peakMatch, convention, .below 0⟩ ++
        range.calls mode.scheme) := by
  obtain ⟨relaxed, place, hrelaxes, hpasses, hcalls⟩ := passes_of_explain h
  rw [Options.relaxes_below_zero] at hrelaxes
  cases hrelaxes
  rw [hcalls]
  by_cases hfree : mode.scheme.Collision (p.calls mode.scheme place ++ range.calls mode.scheme)
  · exact Or.inr hfree
  · obtain ⟨hsize, hleaf⟩ := range.leaf_at_index_of_passes hfree mode.embed_injective hpasses
      (List.subset_append_left _ _) (List.subset_append_right _ _) hroot
    obtain ⟨hlt, _⟩ := List.getElem?_eq_some_iff.mp hleaf
    exact Or.inl ⟨by rw [hsize, range.toNat_size], hlt, hleaf⟩

/-- The proof of the last of three leaves, its peak matched anywhere. -/
theorem accepted_leaf_at_index_last_of_three :
    let range : Range compact.Form := .three ⟨5⟩ ⟨6⟩ ⟨7⟩
    let p : Inclusion compact.Form := range.proof compact.scheme ⟨2, by decide⟩
    let options : Options := ⟨.anywhere, .evenIsLeft, .below 0⟩
    p.root = range.root compact.scheme ∧
      (compact.request p).explain none options = .ok .accepted ∧
      ((p.size.toNat = range.leaves.length ∧ p.leafIndex.toNat < range.leaves.length ∧
          range.leaves[p.leafIndex.toNat]? = some p.leaf) ∨
        compact.scheme.Collision (compact.verdictCalls p none options ++
          range.calls compact.scheme)) := by
  intro range p options
  have haccepted : (compact.request p).explain none options = .ok .accepted :=
    compact.explain_proof range ⟨2, by decide⟩ _ _ _ rfl
  exact ⟨rfl, haccepted, accepted_leaf_at_index rfl haccepted⟩

/-- A request with the root of a range that is accepted under any options shows a leaf of
the range, or hash calls of the verdict and of the range collide.  An empty range has no
leaf to show. -/
theorem accepted_leaf_mem {options : Options} (hroot : p.root = range.root mode.scheme)
    (h : (mode.request p).explain expected options = .ok .accepted) :
    let calls := mode.verdictCalls p expected options ++ range.calls mode.scheme
    (p.leaf ∈ range.leaves ∨ mode.scheme.Collision calls) ∧
      (range.leaves = [] → mode.scheme.Collision calls) := by
  intro calls
  obtain ⟨relaxed, place, _, hpasses, hcalls⟩ := passes_of_explain h
  have hmem : p.leaf ∈ range.leaves ∨ mode.scheme.Collision calls := by
    by_cases hfree : mode.scheme.Collision calls
    · exact Or.inr hfree
    · have hverdict : p.calls mode.scheme place ⊆ calls := by
        rw [← hcalls]
        exact List.subset_append_left _ _
      exact Or.inl (range.leaf_mem_of_passes hfree mode.embed_injective hpasses hverdict
        (List.subset_append_right _ _) hroot)
  refine ⟨hmem, ?_⟩
  intro hempty
  rw [hempty] at hmem
  exact hmem.resolve_left List.not_mem_nil

/-- The regrouped proof, accepted below a threshold of five leaves. -/
theorem accepted_leaf_mem_regrouped :
    let range : Range compact.Form := .three ⟨5⟩ ⟨6⟩ ⟨7⟩
    let p : Inclusion compact.Form := Range.regrouped compact.scheme ⟨5⟩ ⟨6⟩ ⟨7⟩
    let options : Options := ⟨.positional, .oddIsLeft, .below 5⟩
    let calls := compact.verdictCalls p none options ++ range.calls compact.scheme
    p.root = range.root compact.scheme ∧
      (compact.request p).explain none options = .ok .accepted ∧
      (p.leaf ∈ range.leaves ∨ compact.scheme.Collision calls) ∧
      (range.leaves = [] → compact.scheme.Collision calls) := by
  intro range p options calls
  have hrelaxes : options.relaxes 3 .compact = .ok true := rfl
  have haccepted : (compact.request p).explain none options = .ok .accepted :=
    explain_eq_accepted_iff.mpr ⟨rfl, true, ⟨0, 1, 1⟩, hrelaxes,
      Range.regrouped_passes compact.scheme ⟨5⟩ ⟨6⟩ ⟨7⟩ .positional⟩
  exact ⟨rfl, haccepted, accepted_leaf_mem rfl haccepted⟩

end Mode

end MountainRange
