import MountainRange.Proofs.Heights
import MountainRange.Proofs.PerfectTree
import MountainRange.Inclusion
set_option autoImplicit false

/-!
# Ranges

The range of some leaves cuts them from left to right into one block for each height of
their number, builds a mountain over every block, and binds the bagged peaks to the
number of leaves.  It is the honest side of every statement about the verifier: the
root it commits to, the hash calls it makes on the way, and the proof it has for each
of its leaves.
-/

namespace MountainRange

variable {D : Type}

/-! ## Mountains over blocks -/

/-- The mountains of some heights over some leaves, each over the block of leaves that
the ones in front have left. -/
def mountainsOver : (heights : List Nat) → (leaves : List D) → List (Tree D)
  | [], _ => []
  | height :: rest, leaves =>
      Tree.level height (leaves.take (2 ^ height)) ++
        mountainsOver rest (leaves.drop (2 ^ height))

/-- The siblings of the leaf at an index among some mountains. -/
def siblingsAmong (S : Scheme D) : (mountains : List (Tree D)) → (leaf : Nat) → List D
  | [], _ => []
  | t :: rest, leaf =>
      if leaf < t.leaves.length then t.siblings S leaf
      else siblingsAmong S rest (leaf - t.leaves.length)

/-- The mountain over the first block is one tree. -/
theorem mountainsOver_cons {height : Nat} {rest : List Nat} {leaves : List D}
    (h : leaves.length = leafCount (height :: rest)) :
    ∃ t, mountainsOver (height :: rest) leaves =
        t :: mountainsOver rest (leaves.drop (2 ^ height)) ∧
      t.Perfect height ∧ t.leaves = leaves.take (2 ^ height) ∧
      (leaves.drop (2 ^ height)).length = leafCount rest := by
  rw [leafCount_cons] at h
  have hblock : (leaves.take (2 ^ height)).length = 2 ^ height := by
    rw [List.length_take]
    omega
  obtain ⟨t, hlevel, hperfect, hleaves⟩ := Tree.level_eq_singleton hblock
  refine ⟨t, by rw [mountainsOver, hlevel, List.singleton_append], hperfect, hleaves, ?_⟩
  rw [List.length_drop]
  omega

theorem length_mountainsOver {heights : List Nat} {leaves : List D}
    (h : leaves.length = leafCount heights) :
    (mountainsOver heights leaves).length = heights.length := by
  induction heights generalizing leaves with
  | nil => rfl
  | cons height rest ih =>
      obtain ⟨t, heq, _, _, hrest⟩ := mountainsOver_cons h
      rw [heq, List.length_cons, List.length_cons, ih hrest]

/-- The mountains hold all leaves, in their order. -/
theorem leaves_mountainsOver {heights : List Nat} {leaves : List D}
    (h : leaves.length = leafCount heights) :
    (mountainsOver heights leaves).flatMap Tree.leaves = leaves := by
  induction heights generalizing leaves with
  | nil => exact (List.length_eq_zero_iff.mp h).symm
  | cons height rest ih =>
      obtain ⟨t, heq, _, hleaves, hrest⟩ := mountainsOver_cons h
      rw [heq, List.flatMap_cons, hleaves, ih hrest, List.take_append_drop]

/-- Every mountain is a perfect tree of its height. -/
theorem perfect_of_mountainsOver {heights : List Nat} {leaves : List D}
    (h : leaves.length = leafCount heights) {i : Nat} {t : Tree D}
    (ht : (mountainsOver heights leaves)[i]? = some t) :
    ∃ height, heights[i]? = some height ∧ t.Perfect height := by
  induction heights generalizing leaves i with
  | nil => cases ht
  | cons height rest ih =>
      obtain ⟨first, heq, hperfect, _, hrest⟩ := mountainsOver_cons h
      rw [heq] at ht
      cases i with
      | zero =>
          cases ht
          exact ⟨height, rfl, hperfect⟩
      | succ i => exact ih hrest ht

/-- The mountain at the place of a leaf holds that leaf at its position, and has its
siblings. -/
theorem mountain_at {heights : List Nat} {leaves : List D}
    (h : leaves.length = leafCount heights) {place : Location} {leaf : Nat}
    (hplace : place.Holds heights leaf) :
    ∃ t, (mountainsOver heights leaves)[place.mountain]? = some t ∧
      t.Perfect place.height ∧ t.leaves[place.position]? = leaves[leaf]? ∧
      ∀ S : Scheme D, siblingsAmong S (mountainsOver heights leaves) leaf =
        t.siblings S place.position := by
  obtain ⟨mountain, height, position⟩ := place
  obtain ⟨hheight, hposition, hleaf⟩ := hplace
  induction heights generalizing leaves leaf mountain with
  | nil => cases hheight
  | cons first rest ih =>
      obtain ⟨t, heq, hperfect, hleaves, hrest⟩ := mountainsOver_cons h
      have hlength := hperfect.length_leaves
      cases mountain with
      | zero =>
          cases hheight
          rw [List.take_zero, leafCount_nil, Nat.zero_add] at hleaf
          subst hleaf
          refine ⟨t, by rw [heq]; rfl, hperfect, ?_, fun S => ?_⟩
          · rw [hleaves]
            exact List.getElem?_take_of_lt hposition
          · rw [heq, siblingsAmong, hlength, if_pos hposition]
      | succ mountain =>
          simp only [List.take_succ_cons, leafCount_cons] at hleaf
          have hbehind : leaf - 2 ^ first = leafCount (rest.take mountain) + position := by
            omega
          obtain ⟨found, hfound, htall, hvalue, hsiblings⟩ :=
            ih hrest mountain hheight hposition hbehind
          refine ⟨found, by rw [heq]; exact hfound, htall, ?_, fun S => ?_⟩
          · rw [hvalue, List.getElem?_drop]
            congr 1
            omega
          · rw [heq, siblingsAmong, hlength, if_neg (by omega), hsiblings S]

/-! ## The range of some leaves -/

/-- Raw leaf values, as many as a size can count. -/
structure Range (D : Type) where
  leaves : List D
  length_lt : leaves.length < UInt64.size

namespace Range

variable (range : Range D)

/-- The number of leaves. -/
def size : UInt64 := UInt64.ofNat range.leaves.length

/-- The mountains, tallest first. -/
def mountains : List (Tree D) := mountainsOver (heights range.leaves.length) range.leaves

/-- Hashes every mountain and comes to the root over the peaks. -/
def commit {m : Type → Type} [Monad m] (H : Hashing m D) : m D := do
  let peaks ← range.mountains.mapM (Tree.hash H)
  Peak.root H.pair H.zero (H.embed range.size) peaks

variable (S : Scheme D)

/-- The root of a range. -/
def root : D := Id.run (range.commit S.hashing)

/-- The hash calls that building a range and coming to its root make. -/
def calls : List (HashCall D) := (range.commit S.recording []).2

/-- The peaks of a range. -/
def peaks : List D := range.mountains.map (Tree.digest S)

/-- The proof of the leaf at an index. -/
def proof (i : Fin range.leaves.length) : Inclusion D where
  root := range.root S
  leaf := range.leaves[i]
  leafIndex := UInt64.ofNat i
  size := range.size
  siblings := siblingsAmong S range.mountains i
  peaks := range.peaks S

@[simp] theorem toNat_size : range.size.toNat = range.leaves.length :=
  UInt64.toNat_ofNat_of_lt range.length_lt

theorem length_eq_leafCount :
    range.leaves.length = leafCount (heights range.leaves.length) :=
  (leafCount_heights _).symm

theorem length_peaks : (range.peaks S).length = peakCount range.leaves.length := by
  rw [peaks, List.length_map, mountains, length_mountainsOver range.length_eq_leafCount,
    length_heights]

theorem root_eq : range.root S = S.root range.size (range.peaks S) := by
  rw [root, commit, Id.run_bind, List.idRun_mapM]
  rfl

theorem records_commit :
    Records (range.commit S.recording) (range.root S)
      (S.rootCalls range.size (range.peaks S) ++
        range.mountains.reverse.flatMap (Tree.calls S)) := by
  rw [root_eq]
  exact Records.bind (Records.mapM (Tree.records_hash S) range.mountains)
    (S.records_root range.size (range.peaks S))

theorem calls_eq : range.calls S = S.rootCalls range.size (range.peaks S) ++
    range.mountains.reverse.flatMap (Tree.calls S) := by
  rw [calls, range.records_commit S [], List.append_nil]

theorem rootCalls_subset : S.rootCalls range.size (range.peaks S) ⊆ range.calls S := by
  rw [calls_eq]
  exact List.subset_append_left _ _

variable {S} in
theorem mountain_calls_subset {t : Tree D} (ht : t ∈ range.mountains) :
    t.calls S ⊆ range.calls S := by
  intro call hcall
  rw [calls_eq]
  exact List.mem_append_right _
    (List.mem_flatMap.mpr ⟨t, List.mem_reverse.mpr ht, hcall⟩)

/-- The leaves of a range, if there are any, are those of one tree, which bagging builds
over the mountains. -/
theorem exists_spine (hleaves : range.leaves ≠ []) :
    ∃ t : Tree D, t.leaves = range.leaves ∧ t.digest S = S.bag (range.peaks S) ∧
      t.calls S ⊆ range.calls S := by
  have hall := leaves_mountainsOver range.length_eq_leafCount
  cases hmountains : range.mountains with
  | nil =>
      rw [← mountains, hmountains] at hall
      exact absurd hall.symm hleaves
  | cons t rest =>
      refine ⟨Tree.spine t rest, ?_, ?_, ?_⟩
      · rw [Tree.leaves_spine, ← hmountains]
        exact hall
      · rw [Tree.digest_spine, ← hmountains, peaks]
      · apply Tree.calls_spine_subset
        · rw [← hmountains]
          exact (List.cons_subset.mp (range.rootCalls_subset S)).2
        · intro u hu
          rw [← hmountains] at hu
          exact range.mountain_calls_subset hu

/-! ## Three leaves -/

variable (a b c : D)

/-- The range of three leaves: a mountain over two of them, and one over the last. -/
def three : Range D := ⟨[a, b, c], show 3 < UInt64.size by decide⟩

theorem mountains_three :
    (three a b c).mountains = [.node (.leaf a) (.leaf b), .leaf c] := by
  have hheights : heights 3 = [1, 0] := by decide
  show mountainsOver (heights 3) [a, b, c] = _
  rw [hheights]
  rfl

theorem peaks_three : (three a b c).peaks S = [S.pair (S.leaf a) (S.leaf b), S.leaf c] := by
  rw [peaks, mountains_three]
  rfl

end Range

end MountainRange
