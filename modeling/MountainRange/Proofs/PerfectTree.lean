import MountainRange.Proofs.Tree
set_option autoImplicit false

/-!
# Perfect trees

A mountain is a perfect tree: every leaf stands equally deep.  It is built level by
level out of a block of leaves.  A climb inside it reaches a leaf exactly after as many
levels as it is high, and the siblings of a leaf lead a climb from that leaf to the top.
-/

namespace MountainRange

variable {D : Type}

namespace Tree

/-- A tree in which every leaf stands at one depth. -/
inductive Perfect : Nat → Tree D → Prop where
  | leaf (value : D) : Perfect 0 (.leaf value)
  | node {height : Nat} {left right : Tree D} :
      Perfect height left → Perfect height right → Perfect (height + 1) (.node left right)

theorem Perfect.length_leaves {height : Nat} {t : Tree D} (h : Perfect height t) :
    t.leaves.length = 2 ^ height := by
  induction h with
  | leaf value => rfl
  | node _ _ ihleft ihright =>
      rw [leaves, List.length_append, ihleft, ihright, Nat.pow_succ]
      omega

theorem Perfect.height_eq {height height' : Nat} {t : Tree D} (h : t.Perfect height)
    (h' : t.Perfect height') : height = height' := by
  have hpow : 2 ^ height = 2 ^ height' := h.length_leaves.symm.trans h'.length_leaves
  exact (Nat.pow_right_inj (by decide)).mp hpow

/-! ## Levels -/

/-- Joins every two neighbouring trees of a level. -/
def pairUp : List (Tree D) → List (Tree D)
  | left :: right :: rest => .node left right :: pairUp rest
  | rest => rest

/-- The trees over some leaves, so many levels above them. -/
def level : (height : Nat) → (leaves : List D) → List (Tree D)
  | 0, leaves => leaves.map .leaf
  | height + 1, leaves => pairUp (level height leaves)

/-- Joining the trees of an even level halves their number, makes each one higher and
keeps the leaves in their order. -/
theorem pairUp_spec {height count : Nat} {trees : List (Tree D)}
    (hlength : trees.length = 2 * count) (hperfect : ∀ t ∈ trees, Perfect height t) :
    (pairUp trees).length = count ∧ (∀ t ∈ pairUp trees, Perfect (height + 1) t) ∧
      (pairUp trees).flatMap leaves = trees.flatMap leaves := by
  induction count generalizing trees with
  | zero =>
      rw [List.length_eq_zero_iff.mp hlength]
      exact ⟨rfl, by simp [pairUp], rfl⟩
  | succ count ih =>
      match trees, hlength with
      | left :: right :: rest, hlength =>
          simp only [List.length_cons] at hlength
          simp only [List.mem_cons, forall_eq_or_imp] at hperfect
          obtain ⟨hleft, hright, hrest⟩ := hperfect
          obtain ⟨hcount, hhigher, hleaves⟩ := ih (by omega) hrest
          rw [pairUp]
          refine ⟨by rw [List.length_cons, hcount], ?_, ?_⟩
          · intro t ht
            rcases List.mem_cons.mp ht with rfl | ht
            · exact .node hleft hright
            · exact hhigher t ht
          · rw [List.flatMap_cons, hleaves, leaves, List.flatMap_cons, List.flatMap_cons,
              List.append_assoc]

theorem level_spec {height count : Nat} {block : List D}
    (hlength : block.length = 2 ^ height * count) :
    (level height block).length = count ∧ (∀ t ∈ level height block, Perfect height t) ∧
      (level height block).flatMap leaves = block := by
  induction height generalizing count with
  | zero =>
      refine ⟨by simpa [level] using hlength, ?_, ?_⟩
      · intro t ht
        obtain ⟨value, _, rfl⟩ := List.mem_map.mp ht
        exact .leaf value
      · simp [level, List.flatMap_map, leaves]
  | succ height ih =>
      rw [Nat.pow_succ, Nat.mul_assoc] at hlength
      obtain ⟨hcount, hperfect, hleaves⟩ := ih hlength
      obtain ⟨hhalf, hhigher, hsame⟩ := pairUp_spec hcount hperfect
      exact ⟨hhalf, hhigher, hsame.trans hleaves⟩

/-- A block of leaves that fills a mountain makes one tree. -/
theorem level_eq_singleton {height : Nat} {block : List D}
    (hlength : block.length = 2 ^ height) :
    ∃ t, level height block = [t] ∧ Perfect height t ∧ t.leaves = block := by
  have hone : block.length = 2 ^ height * 1 := by rw [hlength, Nat.mul_one]
  obtain ⟨hcount, hperfect, hleaves⟩ := level_spec hone
  obtain ⟨t, ht⟩ := List.length_eq_one_iff.mp hcount
  rw [ht] at hperfect hleaves
  refine ⟨t, ht, hperfect t (List.mem_singleton_self t), ?_⟩
  rw [← hleaves, List.flatMap_singleton]

/-! ## Subtrees of perfect trees -/

/-- A subtree of a perfect tree is perfect, and its height and depth add up to the height
of the tree. -/
theorem Perfect.of_at? {height depth index : Nat} {t u : Tree D} (ht : Perfect height t)
    (h : t.at? depth index = some u) :
    ∃ below, height = below + depth ∧ Perfect below u := by
  induction depth generalizing index u with
  | zero =>
      cases h
      exact ⟨height, rfl, ht⟩
  | succ depth ih =>
      obtain ⟨left, right, hparent, rfl⟩ := at?_succ_eq_some h
      obtain ⟨below, hheight, hperfect⟩ := ih hparent
      cases hperfect with
      | @node lower _ _ hleft hright =>
          refine ⟨lower, by omega, ?_⟩
          split
          · exact hleft
          · exact hright

/-- The leaves of the subtree at an index are a block of the leaves of the tree. -/
theorem Perfect.getElem?_leaves_at? {height depth index below : Nat} {t u : Tree D}
    (ht : Perfect height t) (h : t.at? depth index = some u) (hindex : index < 2 ^ depth)
    (hheight : height = below + depth) {position : Nat} (hposition : position < 2 ^ below) :
    t.leaves[index * 2 ^ below + position]? = u.leaves[position]? := by
  induction depth generalizing index below position u with
  | zero =>
      cases h
      have hzero : index = 0 := by omega
      rw [hzero, Nat.zero_mul, Nat.zero_add]
  | succ depth ih =>
      obtain ⟨left, right, hparent, rfl⟩ := at?_succ_eq_some h
      obtain ⟨lower, hlower, hperfect⟩ := ht.of_at? hparent
      have hbelow : lower = below + 1 := by omega
      subst hbelow
      have hhalf : index / 2 < 2 ^ depth := by
        rw [Nat.pow_succ] at hindex
        omega
      have hpow : 2 ^ (below + 1) = 2 ^ below + 2 ^ below := by
        rw [Nat.pow_succ]
        omega
      cases hperfect with
      | node hleft hright =>
          have hlength := hleft.length_leaves
          by_cases hside : index % 2 = 0
          · have hbound : position < 2 ^ (below + 1) := by omega
            have hfront := ih hparent hhalf hlower hbound
            rw [leaves, List.getElem?_append_left (by omega)] at hfront
            rw [if_pos hside, ← hfront]
            congr 1
            have hdouble : index = 2 * (index / 2) := by omega
            rw [hpow, Nat.mul_add, ← Nat.two_mul, ← Nat.mul_assoc, ← hdouble]
          · have hbound : 2 ^ below + position < 2 ^ (below + 1) := by omega
            have hback := ih hparent hhalf hlower hbound
            rw [leaves, List.getElem?_append_right (by omega), hlength,
              Nat.add_sub_cancel_left] at hback
            rw [if_neg hside, ← hback]
            congr 1
            have hdouble : index = 2 * (index / 2) + 1 := by omega
            rw [hpow, Nat.mul_add, ← Nat.two_mul, ← Nat.mul_assoc, ← Nat.add_assoc]
            congr 1
            conv => lhs; rw [hdouble, Nat.add_mul, Nat.one_mul]

/-- A leaf is reached after as many levels as a perfect tree is high, and it is the leaf
at that position. -/
theorem Perfect.getElem?_of_at?_leaf {height depth position : Nat} {t : Tree D} {value : D}
    (ht : Perfect height t) (h : t.at? depth position = some (.leaf value))
    (hposition : position < 2 ^ depth) :
    height = depth ∧ t.leaves[position]? = some value := by
  obtain ⟨below, hheight, hperfect⟩ := ht.of_at? h
  cases hperfect
  have hfirst : 0 < 2 ^ 0 := Nat.one_pos
  have hblock := ht.getElem?_leaves_at? h hposition hheight hfirst
  rw [Nat.pow_zero, Nat.mul_one, Nat.add_zero] at hblock
  exact ⟨by omega, hblock⟩

/-- The leaf at a position of a perfect tree stands as many levels below the top as the
tree is high. -/
theorem Perfect.at?_of_getElem? {height position : Nat} {t : Tree D} {value : D}
    (ht : t.Perfect height) (hvalue : t.leaves[position]? = some value) :
    t.at? height position = some (.leaf value) := by
  have hlt := (List.getElem?_eq_some_iff.mp hvalue).1
  rw [ht.length_leaves] at hlt
  induction ht generalizing position with
  | leaf other =>
      obtain rfl : position = 0 := by omega
      cases hvalue
      rfl
  | @node height left right hleft hright ihleft ihright =>
      have hlength := hleft.length_leaves
      rw [leaves] at hvalue
      rw [at?_node left right hlt]
      rw [Nat.pow_succ] at hlt
      by_cases hside : position < 2 ^ height
      · rw [List.getElem?_append_left (by omega)] at hvalue
        rw [if_pos hside, ihleft hvalue hside]
      · rw [List.getElem?_append_right (by omega), hlength] at hvalue
        rw [if_neg hside, ihright hvalue (by omega)]

/-! ## The siblings of a leaf -/

/-- The digests of the siblings along the way from a leaf to the top, lowest first. -/
def siblings (S : Scheme D) : Tree D → (position : Nat) → List D
  | .leaf _, _ => []
  | .node left right, position =>
      if position < left.leaves.length then left.siblings S position ++ [right.digest S]
      else right.siblings S (position - left.leaves.length) ++ [left.digest S]

theorem Perfect.length_siblings {height : Nat} {t : Tree D} (ht : Perfect height t)
    (S : Scheme D) (position : Nat) : (t.siblings S position).length = height := by
  induction ht generalizing position with
  | leaf value => rfl
  | node _ _ ihleft ihright =>
      rw [siblings]
      split
      · rw [List.length_append, ihleft, List.length_singleton]
      · rw [List.length_append, ihright, List.length_singleton]

end Tree

namespace Scheme

variable (S : Scheme D)

/-- A climb looks at no more digits of its position than it has siblings. -/
theorem ascend_congr {position position' : Nat} {node : D} {siblings : List D}
    (h : position % 2 ^ siblings.length = position' % 2 ^ siblings.length) :
    S.ascend position node siblings = S.ascend position' node siblings := by
  induction siblings generalizing position position' node with
  | nil => rfl
  | cons sibling rest ih =>
      rw [List.length_cons, Nat.pow_succ, Nat.mul_comm, Nat.mod_mul, Nat.mod_mul] at h
      have hlast : position % 2 = position' % 2 := by omega
      have hother : position / 2 % 2 ^ rest.length = position' / 2 % 2 ^ rest.length := by
        omega
      rw [ascend_cons, ascend_cons, ih hother, HashCall.join, HashCall.join, hlast]

/-- The last sibling of a climb is met at the top. -/
theorem ascend_concat (position : Nat) (node : D) (siblings : List D) (last : D) :
    S.ascend position node (siblings ++ [last]) =
      (HashCall.join (position / 2 ^ siblings.length)
        (S.ascend position node siblings) last).digest S := by
  induction siblings generalizing position node with
  | nil =>
      rw [List.nil_append, ascend_cons, ascend_nil, ascend_nil, List.length_nil, Nat.pow_zero,
        Nat.div_one]
  | cons sibling rest ih =>
      rw [List.cons_append, ascend_cons, ih, ascend_cons, Nat.div_div_eq_div_mul,
        List.length_cons, Nat.pow_succ, Nat.mul_comm 2]

end Scheme

namespace Tree

/-- The siblings of a leaf lead to the top of a perfect tree. -/
theorem Perfect.ascend_siblings {height position : Nat} {t : Tree D} {value : D}
    (ht : Perfect height t) (S : Scheme D) (hvalue : t.leaves[position]? = some value) :
    S.ascend position (S.leaf value) (t.siblings S position) = t.digest S := by
  induction ht generalizing position with
  | leaf other =>
      rw [leaves, List.getElem?_singleton] at hvalue
      split at hvalue
      · rw [siblings, Scheme.ascend_nil, digest_leaf, Option.some.inj hvalue]
      · cases hvalue
  | @node height left right hleft hright ihleft ihright =>
      have hlength := hleft.length_leaves
      have hbound := (List.getElem?_eq_some_iff.mp hvalue).1
      rw [leaves, List.length_append, hlength, hright.length_leaves] at hbound
      rw [leaves] at hvalue
      rw [siblings, hlength]
      by_cases hside : position < 2 ^ height
      · rw [List.getElem?_append_left (by omega)] at hvalue
        rw [if_pos hside, Scheme.ascend_concat, hleft.length_siblings, ihleft hvalue,
          Nat.div_eq_of_lt hside, HashCall.join, if_pos rfl]
        rfl
      · rw [List.getElem?_append_right (by omega), hlength] at hvalue
        have hhalf : position / 2 ^ height = 1 := by
          rw [Nat.div_eq_iff (Nat.two_pow_pos height)]
          omega
        have hsame : position % 2 ^ (right.siblings S (position - 2 ^ height)).length =
            (position - 2 ^ height) % 2 ^ (right.siblings S (position - 2 ^ height)).length := by
          rw [hright.length_siblings]
          exact Nat.mod_eq_sub_mod (by omega)
        rw [if_neg hside, Scheme.ascend_concat, S.ascend_congr hsame, ihright hvalue,
          hright.length_siblings, hhalf, HashCall.join, if_neg (by decide)]
        rfl

end Tree

end MountainRange
