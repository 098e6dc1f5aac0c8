import MountainRange.Proofs.ClimbIndex
import MountainRange.Scheme.Hashing
set_option autoImplicit false

/-!
# Hash calls

A recorded program comes to the value that the program without a record comes to, and
lists the hash calls it made on the way.  This module says which calls a climb, a bag
and a root make, and what it means for calls to collide.  Where none collide, the
digest at the end of a climb or a bag gives back what went into it.
-/

namespace MountainRange

variable {D : Type}

/-! ## Recorded programs -/

/-- A recorded program comes to a value and makes some calls, latest first, whatever was
recorded before it. -/
def Records {α : Type} (program : StateM (List (HashCall D)) α) (value : α)
    (calls : List (HashCall D)) : Prop :=
  ∀ earlier, program earlier = (value, calls ++ earlier)

namespace Records

variable {α β : Type}

theorem pure (value : α) :
    Records (Pure.pure value : StateM (List (HashCall D)) α) value [] :=
  fun _ => rfl

/-- What is made later stands in front. -/
theorem bind {program : StateM (List (HashCall D)) α} {value : α} {calls : List (HashCall D)}
    {next : α → StateM (List (HashCall D)) β} {result : β} {later : List (HashCall D)}
    (hprogram : Records program value calls) (hnext : Records (next value) result later) :
    Records (program >>= next) result (later ++ calls) := by
  intro earlier
  show next (program earlier).1 (program earlier).2 = _
  rw [hprogram earlier, hnext (calls ++ earlier), List.append_assoc]

theorem exists_bind {program : StateM (List (HashCall D)) α} {value : α}
    {calls : List (HashCall D)} {next : α → StateM (List (HashCall D)) β} {result : β}
    (hprogram : Records program value calls)
    (hnext : ∃ later, Records (next value) result later) :
    ∃ all, Records (program >>= next) result all := by
  obtain ⟨later, hlater⟩ := hnext
  exact ⟨later ++ calls, bind hprogram hlater⟩

/-- Working on the value makes no further calls. -/
theorem map {program : StateM (List (HashCall D)) α} {value : α} {calls : List (HashCall D)}
    (f : α → β) (h : Records program value calls) :
    Records (do return f (← program)) (f value) calls := by
  intro earlier
  show (f (program earlier).1, (program earlier).2) = _
  rw [h earlier]

/-- Programs run one after the other come to the values of each and make the calls of
each. -/
theorem mapM {program : α → StateM (List (HashCall D)) β} {value : α → β}
    {calls : α → List (HashCall D)} (h : ∀ x, Records (program x) (value x) (calls x))
    (xs : List α) :
    Records (xs.mapM program) (xs.map value) (xs.reverse.flatMap calls) := by
  induction xs with
  | nil => exact Records.pure []
  | cons x rest ih =>
      rw [List.mapM_cons, List.map_cons, List.reverse_cons, List.flatMap_append,
        List.flatMap_singleton]
      exact Records.bind (h x) (Records.map (value x :: ·) ih)

theorem leaf (S : Scheme D) (value : D) :
    Records (S.recording.leaf value) (S.leaf value) [.leaf value] :=
  fun _ => rfl

theorem pair (S : Scheme D) (left right : D) :
    Records (S.recording.pair left right) (S.pair left right) [.pair left right] :=
  fun _ => rfl

end Records

/-! ## Single calls -/

namespace HashCall

/-- The digest that a call gives. -/
def digest (S : Scheme D) : HashCall D → D
  | .leaf value => S.leaf value
  | .pair left right => S.pair left right

/-- The call that hashes a node at a position with its sibling. -/
def join (position : Nat) (node sibling : D) : HashCall D :=
  if position % 2 = 0 then .pair node sibling else .pair sibling node

/-- At one position, what is hashed tells the node from its sibling. -/
theorem join_inj {position : Nat} {node sibling node' sibling' : D}
    (h : join position node sibling = join position node' sibling') :
    node = node' ∧ sibling = sibling' := by
  unfold join at h
  split at h
  · injection h with hnode hsibling
    exact ⟨hnode, hsibling⟩
  · injection h with hsibling hnode
    exact ⟨hnode, hsibling⟩

/-- Every call of a climb hashes a pair. -/
theorem join_eq_pair (position : Nat) (node sibling : D) :
    ∃ left right, join position node sibling = .pair left right := by
  unfold join
  split
  · exact ⟨node, sibling, rfl⟩
  · exact ⟨sibling, node, rfl⟩

end HashCall

/-! ## Climbs, bags and roots -/

namespace Scheme

variable (S : Scheme D)

/-- The digest at the end of a climb from a position. -/
def ascend (position : Nat) (node : D) (siblings : List D) : D :=
  Id.run (Peak.ascend S.hashing.pair position node siblings)

/-- The digest that peaks are folded into. -/
def bag (peaks : List D) : D := Id.run (Peak.bag S.hashing.pair S.hashing.zero peaks)

/-- The root over some peaks. -/
def root (size : UInt64) (peaks : List D) : D :=
  Id.run (Peak.root S.hashing.pair S.hashing.zero (S.hashing.embed size) peaks)

@[simp] theorem ascend_nil (position : Nat) (node : D) : S.ascend position node [] = node := rfl

theorem ascend_cons (position : Nat) (node sibling : D) (rest : List D) :
    S.ascend position node (sibling :: rest) =
      S.ascend (position / 2) ((HashCall.join position node sibling).digest S) rest := by
  unfold ascend Peak.ascend HashCall.join
  rw [Peak.climb]
  by_cases h : position % 2 = 0
  · rw [if_pos h, if_pos (beq_iff_eq.mpr h)]
    rfl
  · rw [if_neg h, if_neg (fun hb => h (beq_iff_eq.mp hb))]
    rfl

@[simp] theorem bag_singleton (peak : D) : S.bag [peak] = peak := rfl

@[simp] theorem bag_cons_cons (peak next : D) (rest : List D) :
    S.bag (peak :: next :: rest) = S.pair peak (S.bag (next :: rest)) := rfl

theorem root_eq (size : UInt64) (peaks : List D) :
    S.root size peaks = S.pair (S.embed size) (S.bag peaks) := rfl

/-- Peaks fold into the same digest when those from some place on are folded first. -/
theorem bag_regroup {peaks : List D} {m : Nat} (hm : m < peaks.length) :
    S.bag (peaks.take m ++ [S.bag (peaks.drop m)]) = S.bag peaks := by
  induction m generalizing peaks with
  | zero => rfl
  | succ m ih =>
      rcases peaks with _ | ⟨peak, _ | ⟨next, rest⟩⟩
      · simp at hm
      · simp at hm
      have hrest := ih (Nat.lt_of_succ_lt_succ hm)
      obtain ⟨front, back, hcons⟩ : ∃ front back,
          (next :: rest).take m ++ [S.bag ((next :: rest).drop m)] = front :: back :=
        List.exists_cons_of_ne_nil (List.append_ne_nil_of_right_ne_nil _ (List.cons_ne_nil _ _))
      rw [hcons] at hrest
      rw [List.take_succ_cons, List.drop_succ_cons, List.cons_append, hcons, bag_cons_cons, hrest,
        bag_cons_cons]

/-- The calls of a climb. -/
def ascendCalls : Nat → D → List D → List (HashCall D)
  | _, _, [] => []
  | position, node, sibling :: rest =>
      ascendCalls (position / 2) ((HashCall.join position node sibling).digest S) rest ++
        [HashCall.join position node sibling]

/-- The calls that fold peaks into one digest. -/
def bagCalls : List D → List (HashCall D)
  | [] => []
  | [_] => []
  | peak :: next :: rest => .pair peak (S.bag (next :: rest)) :: bagCalls (next :: rest)

theorem bagCalls_drop_subset (peaks : List D) (m : Nat) :
    S.bagCalls (peaks.drop m) ⊆ S.bagCalls peaks := by
  induction m generalizing peaks with
  | zero => exact List.Subset.refl _
  | succ m ih =>
      match peaks with
      | [] => exact List.nil_subset _
      | [_] => rw [List.drop_succ_cons, List.drop_nil]; exact List.nil_subset _
      | _ :: next :: rest => exact List.subset_cons_of_subset _ (ih (next :: rest))

/-- The calls that come to a root. -/
def rootCalls (size : UInt64) (peaks : List D) : List (HashCall D) :=
  .pair (S.embed size) (S.bag peaks) :: S.bagCalls peaks

theorem records_ascend (position : Nat) (node : D) (siblings : List D) :
    Records (Peak.ascend S.recording.pair position node siblings)
      (S.ascend position node siblings) (S.ascendCalls position node siblings) := by
  induction siblings generalizing position node with
  | nil => exact Records.pure node
  | cons sibling rest ih =>
      rw [ascend_cons, ascendCalls, Peak.ascend, Peak.climb, HashCall.join]
      by_cases h : position % 2 = 0
      · rw [if_pos h, if_pos (beq_iff_eq.mpr h)]
        exact Records.bind (Records.pair S node sibling) (ih _ _)
      · rw [if_neg h, if_neg (fun hb => h (beq_iff_eq.mp hb))]
        exact Records.bind (Records.pair S sibling node) (ih _ _)

/-- A recorded climb, whatever tells the sides apart, comes to where the plain climb
comes. -/
theorem exists_records_climb (isLeft : Int → Bool) (parent : Int → Int) (index : Int)
    (node : D) (siblings : List D) :
    ∃ calls, Records (Peak.climb S.recording.pair isLeft parent index node siblings)
      (Id.run (Peak.climb S.hashing.pair isLeft parent index node siblings)) calls := by
  induction siblings generalizing index node with
  | nil => exact ⟨[], Records.pure node⟩
  | cons sibling rest ih =>
      rw [Peak.climb, Peak.climb]
      cases isLeft index with
      | true => exact Records.exists_bind (Records.pair S node sibling) (ih _ _)
      | false => exact Records.exists_bind (Records.pair S sibling node) (ih _ _)

theorem records_bag (peaks : List D) :
    Records (Peak.bag S.recording.pair S.recording.zero peaks) (S.bag peaks)
      (S.bagCalls peaks) := by
  induction peaks with
  | nil => exact Records.pure S.zero
  | cons peak rest ih =>
      cases rest with
      | nil => exact Records.pure peak
      | cons next rest => exact Records.bind ih (Records.pair S peak _)

theorem records_root (size : UInt64) (peaks : List D) :
    Records (Peak.root S.recording.pair S.recording.zero (S.recording.embed size) peaks)
      (S.root size peaks) (S.rootCalls size peaks) :=
  Records.bind (S.records_bag peaks) (Records.pair S (S.embed size) _)

/-! ## Collisions -/

/-- Two different pairs among some calls have one digest. -/
def PairCollision (calls : List (HashCall D)) : Prop :=
  ∃ a b c d, .pair a b ∈ calls ∧ .pair c d ∈ calls ∧ (a, b) ≠ (c, d) ∧
    S.pair a b = S.pair c d

/-- Two different leaves among some calls have one digest. -/
def LeafCollision (calls : List (HashCall D)) : Prop :=
  ∃ a b, .leaf a ∈ calls ∧ .leaf b ∈ calls ∧ a ≠ b ∧ S.leaf a = S.leaf b

/-- A leaf and a pair among some calls have one digest. -/
def LeafPairCollision (calls : List (HashCall D)) : Prop :=
  ∃ a b c, .leaf a ∈ calls ∧ .pair b c ∈ calls ∧ S.leaf a = S.pair b c

/-- Two different calls among some have one digest. -/
def Collision (calls : List (HashCall D)) : Prop :=
  S.PairCollision calls ∨ S.LeafCollision calls ∨ S.LeafPairCollision calls

variable {S} {calls : List (HashCall D)}

/-- A collision is two different calls with one digest. -/
theorem collision_iff : S.Collision calls ↔
    ∃ x ∈ calls, ∃ y ∈ calls, x ≠ y ∧ x.digest S = y.digest S := by
  constructor
  · rintro (⟨a, b, c, d, hab, hcd, hne, heq⟩ | ⟨a, b, ha, hb, hne, heq⟩ | ⟨a, b, c, ha, hbc, heq⟩)
    · refine ⟨.pair a b, hab, .pair c d, hcd, ?_, heq⟩
      intro h
      cases h
      exact hne rfl
    · refine ⟨.leaf a, ha, .leaf b, hb, ?_, heq⟩
      intro h
      cases h
      exact hne rfl
    · exact ⟨.leaf a, ha, .pair b c, hbc, (fun h => by cases h), heq⟩
  · rintro ⟨x, hx, y, hy, hne, heq⟩
    cases x with
    | leaf a =>
        cases y with
        | leaf b => exact Or.inr (Or.inl ⟨a, b, hx, hy, fun h => hne (by rw [h]), heq⟩)
        | pair c d => exact Or.inr (Or.inr ⟨a, c, d, hx, hy, heq⟩)
    | pair a b =>
        cases y with
        | leaf c => exact Or.inr (Or.inr ⟨c, a, b, hy, hx, heq.symm⟩)
        | pair c d =>
            refine Or.inl ⟨a, b, c, d, hx, hy, fun h => hne ?_, heq⟩
            injection h with hac hbd
            rw [hac, hbd]

instance [DecidableEq D] : Decidable (S.Collision calls) := decidable_of_iff _ collision_iff.symm

theorem pair_inj (hfree : ¬S.PairCollision calls) {a b c d : D} (hab : .pair a b ∈ calls)
    (hcd : .pair c d ∈ calls) (heq : S.pair a b = S.pair c d) : a = c ∧ b = d := by
  by_cases h : (a, b) = (c, d)
  · injection h with hac hbd
    exact ⟨hac, hbd⟩
  · exact absurd ⟨a, b, c, d, hab, hcd, h, heq⟩ hfree

theorem leaf_inj (hfree : ¬S.LeafCollision calls) {a b : D} (ha : .leaf a ∈ calls)
    (hb : .leaf b ∈ calls) (heq : S.leaf a = S.leaf b) : a = b := by
  by_cases h : a = b
  · exact h
  · exact absurd ⟨a, b, ha, hb, h, heq⟩ hfree

/-- What was hashed at one position is told by its digest. -/
theorem join_digest_inj (hfree : ¬S.PairCollision calls) {position : Nat}
    {node sibling node' sibling' : D} (h : HashCall.join position node sibling ∈ calls)
    (h' : HashCall.join position node' sibling' ∈ calls)
    (heq : (HashCall.join position node sibling).digest S =
      (HashCall.join position node' sibling').digest S) :
    node = node' ∧ sibling = sibling' := by
  obtain ⟨a, b, hab⟩ := HashCall.join_eq_pair position node sibling
  obtain ⟨c, d, hcd⟩ := HashCall.join_eq_pair position node' sibling'
  rw [hab] at h
  rw [hcd] at h'
  rw [hab, hcd] at heq
  obtain ⟨hac, hbd⟩ := pair_inj hfree h h' heq
  have hjoin : HashCall.join position node sibling = HashCall.join position node' sibling' := by
    rw [hab, hcd, hac, hbd]
  exact HashCall.join_inj hjoin

/-- Two climbs of one length from one position that end at one digest started at one
node and met the same siblings.  The induction is from the lowest level, so that the
hypothesis speaks of the nodes above. -/
theorem ascend_inj (hfree : ¬S.PairCollision calls) {position : Nat} {node node' : D}
    {siblings siblings' : List D} (hlength : siblings.length = siblings'.length)
    (h : S.ascendCalls position node siblings ⊆ calls)
    (h' : S.ascendCalls position node' siblings' ⊆ calls)
    (heq : S.ascend position node siblings = S.ascend position node' siblings') :
    node = node' ∧ siblings = siblings' := by
  induction siblings generalizing position node node' siblings' with
  | nil =>
      cases siblings' with
      | nil => exact ⟨heq, rfl⟩
      | cons sibling' rest' => simp at hlength
  | cons sibling rest ih =>
      cases siblings' with
      | nil => simp at hlength
      | cons sibling' rest' =>
          rw [ascend_cons, ascend_cons] at heq
          rw [ascendCalls] at h h'
          obtain ⟨hrest, hcall⟩ := List.append_subset.mp h
          obtain ⟨hrest', hcall'⟩ := List.append_subset.mp h'
          obtain ⟨habove, hsame⟩ := ih (Nat.succ.inj hlength) hrest hrest' heq
          obtain ⟨hnode, hsibling⟩ := join_digest_inj hfree
            (hcall (List.mem_singleton_self _)) (hcall' (List.mem_singleton_self _)) habove
          exact ⟨hnode, by rw [hsibling, hsame]⟩

/-- As many peaks that fold into one digest are the same peaks. -/
theorem bag_inj (hfree : ¬S.PairCollision calls) {peaks peaks' : List D}
    (hlength : peaks.length = peaks'.length) (h : S.bagCalls peaks ⊆ calls)
    (h' : S.bagCalls peaks' ⊆ calls) (heq : S.bag peaks = S.bag peaks') : peaks = peaks' := by
  induction peaks generalizing peaks' with
  | nil => exact (List.length_eq_zero_iff.mp hlength.symm).symm
  | cons peak rest ih =>
      cases rest with
      | nil =>
          obtain ⟨peak', rfl⟩ := List.length_eq_one_iff.mp hlength.symm
          exact congrArg (fun p => [p]) heq
      | cons next rest =>
          match peaks', hlength with
          | peak' :: next' :: rest', hlength =>
              rw [bagCalls] at h h'
              obtain ⟨hcall, hrest⟩ := List.cons_subset.mp h
              obtain ⟨hcall', hrest'⟩ := List.cons_subset.mp h'
              obtain ⟨hpeak, hbag⟩ := pair_inj hfree hcall hcall' heq
              rw [hpeak, ih (Nat.succ.inj hlength) hrest hrest' hbag]

/-- Peaks that fold into one digest are the same in front of the last of either list, and
those behind fold into one digest. -/
theorem bag_drop_eq (hfree : ¬S.PairCollision calls) {peaks peaks' : List D} {m : Nat}
    (h : S.bagCalls peaks ⊆ calls) (h' : S.bagCalls peaks' ⊆ calls)
    (heq : S.bag peaks = S.bag peaks') (hm : m < peaks.length) (hm' : m < peaks'.length) :
    peaks.take m = peaks'.take m ∧ S.bag (peaks.drop m) = S.bag (peaks'.drop m) := by
  induction m generalizing peaks peaks' with
  | zero => exact ⟨rfl, heq⟩
  | succ m ih =>
      rcases peaks with _ | ⟨peak, _ | ⟨next, rest⟩⟩
      · simp at hm
      · simp at hm
      rcases peaks' with _ | ⟨peak', _ | ⟨next', rest'⟩⟩
      · simp at hm'
      · simp at hm'
      obtain ⟨hcall, hrest⟩ := List.cons_subset.mp h
      obtain ⟨hcall', hrest'⟩ := List.cons_subset.mp h'
      obtain ⟨hpeak, hbag⟩ := pair_inj hfree hcall hcall' heq
      obtain ⟨htake, hdrop⟩ :=
        ih hrest hrest' hbag (Nat.lt_of_succ_lt_succ hm) (Nat.lt_of_succ_lt_succ hm')
      exact ⟨by rw [List.take_succ_cons, List.take_succ_cons, hpeak, htake], hdrop⟩

/-- One root over peaks of two ranges means one size and one bag. -/
theorem root_inj (hfree : ¬S.PairCollision calls) (hembed : Function.Injective S.embed)
    {size size' : UInt64} {peaks peaks' : List D} (h : S.rootCalls size peaks ⊆ calls)
    (h' : S.rootCalls size' peaks' ⊆ calls) (heq : S.root size peaks = S.root size' peaks') :
    size = size' ∧ S.bag peaks = S.bag peaks' := by
  obtain ⟨hcall, _⟩ := List.cons_subset.mp h
  obtain ⟨hcall', _⟩ := List.cons_subset.mp h'
  obtain ⟨hsize, hbag⟩ := pair_inj hfree hcall hcall' heq
  exact ⟨hembed hsize, hbag⟩

end Scheme

end MountainRange
