import MountainRange.Proofs.HashCalls
set_option autoImplicit false

/-!
# Hash trees

The peak of a mountain and the bag of some peaks are digests of binary trees over raw
leaf values.  A climb that ends at the digest of a tree has, unless calls collide,
walked up inside that tree: it started at the digest of one of its subtrees.  In a
perfect tree the siblings of a leaf lead a climb to the top.
-/

namespace MountainRange

variable {D : Type}

/-- A binary tree over raw leaf values. -/
inductive Tree (D : Type) where
  | leaf (value : D)
  | node (left right : Tree D)

namespace Tree

/-- The leaves from left to right. -/
def leaves : Tree D → List D
  | .leaf value => [value]
  | .node left right => left.leaves ++ right.leaves

/-- Hashes every leaf, and every two neighbouring subtrees into their parent. -/
def hash {m : Type → Type} [Monad m] (H : Hashing m D) : Tree D → m D
  | .leaf value => H.leaf value
  | .node left right => do
      let left ← left.hash H
      let right ← right.hash H
      H.pair left right

/-- The digest of a tree under a scheme. -/
def digest (S : Scheme D) (t : Tree D) : D := Id.run (t.hash S.hashing)

@[simp] theorem digest_leaf (S : Scheme D) (value : D) :
    (Tree.leaf value).digest S = S.leaf value := rfl

@[simp] theorem digest_node (S : Scheme D) (left right : Tree D) :
    (Tree.node left right).digest S = S.pair (left.digest S) (right.digest S) := rfl

/-- The calls that hash a tree. -/
def calls (S : Scheme D) : Tree D → List (HashCall D)
  | .leaf value => [.leaf value]
  | .node left right =>
      .pair (left.digest S) (right.digest S) :: (right.calls S ++ left.calls S)

theorem records_hash (S : Scheme D) (t : Tree D) :
    Records (t.hash S.recording) (t.digest S) (t.calls S) := by
  induction t with
  | leaf value => exact Records.leaf S value
  | node left right ihleft ihright =>
      rw [calls, ← List.singleton_append, ← List.append_assoc]
      exact Records.bind ihleft (Records.bind ihright (Records.pair S _ _))

/-! ## Subtrees -/

/-- A tree stands somewhere inside another, or is the other. -/
inductive Subtree (t : Tree D) : Tree D → Prop where
  | refl : Subtree t t
  | left {left right : Tree D} : Subtree t left → Subtree t (.node left right)
  | right {left right : Tree D} : Subtree t right → Subtree t (.node left right)

namespace Subtree

variable {t u : Tree D}

theorem trans {v : Tree D} (htu : Subtree t u) (huv : Subtree u v) : Subtree t v := by
  induction huv with
  | refl => exact htu
  | left _ ih => exact .left ih
  | right _ ih => exact .right ih

theorem leaves_subset (h : Subtree t u) : t.leaves ⊆ u.leaves := by
  induction h with
  | refl => exact List.Subset.refl _
  | left _ ih => exact List.subset_append_of_subset_left _ ih
  | right _ ih => exact List.subset_append_of_subset_right _ ih

theorem calls_subset {S : Scheme D} (h : Subtree t u) : t.calls S ⊆ u.calls S := by
  induction h with
  | refl => exact List.Subset.refl _
  | left _ ih =>
      exact List.subset_cons_of_subset _ (List.subset_append_of_subset_right _ ih)
  | right _ ih =>
      exact List.subset_cons_of_subset _ (List.subset_append_of_subset_left _ ih)

end Subtree

/-- The subtree at an index, counted from the left among all subtrees so many levels
below the top. -/
def at? : (depth index : Nat) → Tree D → Option (Tree D)
  | 0, _, t => some t
  | depth + 1, index, t =>
      match t.at? depth (index / 2) with
      | some (.node left right) => some (if index % 2 = 0 then left else right)
      | _ => none

/-- A subtree below the top level is a child of a node one level higher. -/
theorem at?_succ_eq_some {depth index : Nat} {t u : Tree D}
    (h : t.at? (depth + 1) index = some u) :
    ∃ left right, t.at? depth (index / 2) = some (.node left right) ∧
      u = if index % 2 = 0 then left else right := by
  rw [at?] at h
  split at h
  · next left right hparent => exact ⟨left, right, hparent, (Option.some.inj h).symm⟩
  · cases h

theorem subtree_of_at? {depth index : Nat} {t u : Tree D} (h : t.at? depth index = some u) :
    Subtree u t := by
  induction depth generalizing index u with
  | zero =>
      cases h
      exact .refl
  | succ depth ih =>
      obtain ⟨left, right, hparent, rfl⟩ := at?_succ_eq_some h
      refine Subtree.trans ?_ (ih hparent)
      split
      · exact .left .refl
      · exact .right .refl

/-- Seen from the top, the first half of the subtrees so many levels down stands in the
left child and the second half in the right one. -/
theorem at?_node (left right : Tree D) {depth index : Nat} (h : index < 2 ^ (depth + 1)) :
    (Tree.node left right).at? (depth + 1) index =
      if index < 2 ^ depth then left.at? depth index else right.at? depth (index - 2 ^ depth) := by
  induction depth generalizing index with
  | zero =>
      match index, h with
      | 0, _ => rfl
      | 1, _ => rfl
  | succ depth ih =>
      rw [Nat.pow_succ] at h
      have hhalf : index / 2 < 2 ^ (depth + 1) := by omega
      rw [at?, ih hhalf, Nat.pow_succ]
      by_cases hside : index < 2 ^ depth * 2
      · rw [if_pos hside, if_pos (by omega), at?]
      · have hback : (index - 2 ^ depth * 2) / 2 = index / 2 - 2 ^ depth := by omega
        have hlast : (index - 2 ^ depth * 2) % 2 = index % 2 := by omega
        rw [if_neg hside, if_neg (by omega), at?, hback, hlast]

/-! ## Spines -/

/-- The tree that bagging builds over some trees: each joined with the tree over those
behind it. -/
def spine : Tree D → List (Tree D) → Tree D
  | t, [] => t
  | t, next :: rest => .node t (spine next rest)

theorem leaves_spine (t : Tree D) (rest : List (Tree D)) :
    (spine t rest).leaves = (t :: rest).flatMap leaves := by
  induction rest generalizing t with
  | nil => rw [spine, List.flatMap_singleton]
  | cons next rest ih =>
      rw [spine, leaves, ih next]
      exact List.flatMap_cons.symm

/-- The digest of a spine is the bag of its peaks. -/
theorem digest_spine (S : Scheme D) (t : Tree D) (rest : List (Tree D)) :
    (spine t rest).digest S = S.bag ((t :: rest).map (digest S)) := by
  induction rest generalizing t with
  | nil => rfl
  | cons next rest ih =>
      rw [spine, digest_node, ih next]
      simp only [List.map_cons, Scheme.bag_cons_cons]

theorem calls_spine_subset {S : Scheme D} {calls : List (HashCall D)} {t : Tree D}
    {rest : List (Tree D)} (hbag : S.bagCalls ((t :: rest).map (digest S)) ⊆ calls)
    (htrees : ∀ u ∈ t :: rest, u.calls S ⊆ calls) : (spine t rest).calls S ⊆ calls := by
  induction rest generalizing t with
  | nil => exact htrees t List.mem_cons_self
  | cons next rest ih =>
      obtain ⟨hcall, hbehind⟩ := List.cons_subset.mp hbag
      have hrest := ih hbehind fun u hu => htrees u (List.mem_cons_of_mem t hu)
      rw [spine, Tree.calls, digest_spine, List.cons_subset, List.append_subset]
      exact ⟨hcall, hrest, htrees t List.mem_cons_self⟩

/-! ## Digests of subtrees -/

variable {S : Scheme D} {calls : List (HashCall D)}

/-- The digest of a node tells the digests of its children, and no leaf has it. -/
theorem node_of_digest_eq (hfree : ¬S.Collision calls) {t : Tree D} (ht : t.calls S ⊆ calls)
    {a b : D} (hab : .pair a b ∈ calls) (heq : t.digest S = S.pair a b) :
    ∃ left right, t = .node left right ∧ left.digest S = a ∧ right.digest S = b := by
  cases t with
  | leaf value =>
      have hvalue : .leaf value ∈ calls := ht (List.mem_singleton_self _)
      exact absurd (Or.inr (Or.inr ⟨value, a, b, hvalue, hab, heq⟩)) hfree
  | node left right =>
      have hnode : .pair (left.digest S) (right.digest S) ∈ calls := ht List.mem_cons_self
      obtain ⟨hleft, hright⟩ := Scheme.pair_inj (fun h => hfree (Or.inl h)) hnode hab heq
      exact ⟨left, right, rfl, hleft, hright⟩

/-- The digest of a leaf tells its value, and no node has it. -/
theorem leaf_of_digest_eq (hfree : ¬S.Collision calls) {t : Tree D} (ht : t.calls S ⊆ calls)
    {value : D} (hvalue : .leaf value ∈ calls) (heq : t.digest S = S.leaf value) :
    t = .leaf value := by
  cases t with
  | leaf other =>
      have hother : .leaf other ∈ calls := ht (List.mem_singleton_self _)
      rw [Scheme.leaf_inj (fun h => hfree (Or.inr (Or.inl h))) hother hvalue heq]
  | node left right =>
      have hnode : .pair (left.digest S) (right.digest S) ∈ calls := ht List.mem_cons_self
      exact absurd (Or.inr (Or.inr ⟨value, _, _, hvalue, hnode, heq.symm⟩)) hfree

/-- A climb that ends at the digest of a tree started at the digest of the subtree as
many levels below the top as it has siblings.  The induction is from the lowest level:
the hypothesis finds the subtree of the node above, and what was hashed there is what
its children hash to. -/
theorem at?_of_ascend_eq (hfree : ¬S.Collision calls) {t : Tree D} (ht : t.calls S ⊆ calls)
    {position : Nat} {node : D} {siblings : List D}
    (hclimb : S.ascendCalls position node siblings ⊆ calls)
    (heq : S.ascend position node siblings = t.digest S) :
    ∃ u, t.at? siblings.length position = some u ∧ u.digest S = node := by
  induction siblings generalizing position node with
  | nil => exact ⟨t, rfl, heq.symm⟩
  | cons sibling rest ih =>
      rw [Scheme.ascend_cons] at heq
      rw [Scheme.ascendCalls] at hclimb
      obtain ⟨hrest, hcall⟩ := List.append_subset.mp hclimb
      obtain ⟨parent, hparent, hdigest⟩ := ih hrest heq
      have hwithin : parent.calls S ⊆ calls :=
        List.Subset.trans (subtree_of_at? hparent).calls_subset ht
      have hjoin := hcall (List.mem_singleton_self _)
      unfold HashCall.join at hdigest hjoin
      by_cases hside : position % 2 = 0
      · rw [if_pos hside] at hdigest hjoin
        obtain ⟨left, right, rfl, hleft, _⟩ :=
          node_of_digest_eq hfree hwithin hjoin hdigest
        refine ⟨left, ?_, hleft⟩
        rw [List.length_cons, at?, hparent]
        exact congrArg some (if_pos hside)
      · rw [if_neg hside] at hdigest hjoin
        obtain ⟨left, right, rfl, _, hright⟩ :=
          node_of_digest_eq hfree hwithin hjoin hdigest
        refine ⟨right, ?_, hright⟩
        rw [List.length_cons, at?, hparent]
        exact congrArg some (if_neg hside)

/-- Siblings lead from every subtree to the top. -/
theorem exists_siblings {depth index : Nat} {t u : Tree D}
    (h : t.at? depth index = some u) :
    ∃ siblings : List D, siblings.length = depth ∧
      S.ascend index (u.digest S) siblings = t.digest S := by
  induction depth generalizing index u with
  | zero =>
      cases h
      exact ⟨[], rfl, rfl⟩
  | succ depth ih =>
      obtain ⟨left, right, hparent, rfl⟩ := at?_succ_eq_some h
      obtain ⟨siblings, hlength, hascend⟩ := ih hparent
      rw [digest_node] at hascend
      by_cases hside : index % 2 = 0
      · refine ⟨right.digest S :: siblings, by rw [List.length_cons, hlength], ?_⟩
        rw [if_pos hside, Scheme.ascend_cons, HashCall.join, if_pos hside]
        exact hascend
      · refine ⟨left.digest S :: siblings, by rw [List.length_cons, hlength], ?_⟩
        rw [if_neg hside, Scheme.ascend_cons, HashCall.join, if_neg hside]
        exact hascend

/-- A climb from a leaf that ends at the digest of a tree started at a leaf of that
tree. -/
theorem at?_of_ascend_leaf_eq (hfree : ¬S.Collision calls) {t : Tree D}
    (ht : t.calls S ⊆ calls) {position : Nat} {value : D} {siblings : List D}
    (hvalue : .leaf value ∈ calls)
    (hclimb : S.ascendCalls position (S.leaf value) siblings ⊆ calls)
    (heq : S.ascend position (S.leaf value) siblings = t.digest S) :
    t.at? siblings.length position = some (.leaf value) := by
  obtain ⟨u, hat, hdigest⟩ := at?_of_ascend_eq hfree ht hclimb heq
  have hwithin : u.calls S ⊆ calls :=
    List.Subset.trans (subtree_of_at? hat).calls_subset ht
  rw [hat, leaf_of_digest_eq hfree hwithin hvalue hdigest]

/-- However the digest of a tree is cut into peaks that fold into it, each of them is
the digest of a subtree. -/
theorem subtree_of_bag_eq (hfree : ¬S.Collision calls) {t : Tree D} (ht : t.calls S ⊆ calls)
    {peaks : List D} (hpeaks : S.bagCalls peaks ⊆ calls) (heq : S.bag peaks = t.digest S)
    {peak : D} (hpeak : peak ∈ peaks) : ∃ u, Subtree u t ∧ u.digest S = peak := by
  induction peaks generalizing t with
  | nil => cases hpeak
  | cons first rest ih =>
      cases rest with
      | nil =>
          rw [List.mem_singleton] at hpeak
          exact ⟨t, .refl, by rw [hpeak, ← heq, Scheme.bag_singleton]⟩
      | cons next rest =>
          obtain ⟨hcall, hrest⟩ := List.cons_subset.mp hpeaks
          obtain ⟨left, right, rfl, hleft, hright⟩ :=
            node_of_digest_eq hfree ht hcall heq.symm
          rcases List.mem_cons.mp hpeak with rfl | hlater
          · exact ⟨left, .left .refl, hleft⟩
          · have hwithin : right.calls S ⊆ calls :=
              List.Subset.trans (Subtree.right .refl).calls_subset ht
            obtain ⟨u, hsub, hdigest⟩ := ih hwithin hrest hright.symm hlater
            exact ⟨u, .right hsub, hdigest⟩

end Tree

end MountainRange
