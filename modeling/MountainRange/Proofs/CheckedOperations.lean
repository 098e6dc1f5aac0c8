import MountainRange.Proofs.Gates
import MountainRange.Proofs.Steps
import MountainRange.Scheme.Checked
set_option autoImplicit false

/-!
# Checked operations on digests of their scheme

An operation that checks its operands refuses nothing that is a digest of its own scheme
and no size of 64 bits, and then comes to what the plain operation comes to.  That
is proved for a scheme that tells its own digests from all others, which both do.
-/

namespace MountainRange

namespace Scheme

variable {D : Type}

/-- A scheme takes its own digests for what they are and embeds every size of 64 bits. -/
structure Faithful (S : Scheme D) : Prop where
  ofOperand : ∀ d, S.ofOperand? (S.operand d) = some d
  embedValue : ∀ size : UInt64, S.embedValue? (.int size.toNat) = .ok (S.embed size)

variable {S : Scheme D} (hS : S.Faithful)
include hS

theorem Faithful.operand_inj {d e : D} (h : S.operand d = S.operand e) : d = e := by
  have hsome := hS.ofOperand d
  rw [h, hS.ofOperand e] at hsome
  exact (Option.some.inj hsome).symm

/-- Operands of one scheme are the same exactly if their digests are. -/
theorem Faithful.same_operand [DecidableEq D] (d e : D) :
    (S.operand d).same (S.operand e) = decide (d = e) := by
  have hiff : S.toDigest d = S.toDigest e ↔ d = e :=
    ⟨fun h => hS.operand_inj (congrArg Operand.digest h), congrArg S.toDigest⟩
  exact decide_eq_decide.mpr hiff

theorem checkOne_operand (d : D) : S.checkOne (S.operand d) = .ok d := by
  rw [checkOne, hS.ofOperand]

theorem check_operands (ds : List D) : S.check (ds.map S.operand) = .ok ds := by
  unfold check
  induction ds with
  | nil => rfl
  | cons d rest ih =>
      rw [List.map_cons, List.mapM_cons, checkOne_operand hS, ih]
      rfl

theorem checkedPair_operands (left right : D) :
    S.checkedPair (S.operand left) (S.operand right) = .ok (S.operand (S.pair left right)) := by
  rw [checkedPair, checkOne_operand hS, checkOne_operand hS]
  rfl

theorem checkedMany_operands (ds : List D) :
    S.checkedMany (ds.map S.operand) = .ok (S.operand (S.many ds)) := by
  rw [checkedMany, check_operands hS]
  rfl

theorem checkedLeaf_operand (d : D) :
    S.checkedLeaf (S.operand d) = .ok (S.operand (S.leaf d)) :=
  checkedMany_operands hS [d]

/-- Bagging meets its operands from the last on, so the induction is along the peaks. -/
theorem checkedBag_operands (peaks : List D) :
    S.checkedBag (peaks.map S.operand) = .ok (S.operand (S.bag peaks)) := by
  induction peaks with
  | nil => rfl
  | cons peak rest ih =>
      cases rest with
      | nil => rfl
      | cons next rest =>
          have hrest : Peak.bag S.checkedPair (S.operand S.zero)
              (S.operand next :: rest.map S.operand) = .ok (S.operand (S.bag (next :: rest))) := ih
          rw [checkedBag, List.map_cons, List.map_cons, Peak.bag, hrest]
          exact checkedPair_operands hS peak _

theorem checkedRoot_operands (size : UInt64) (peaks : List D) :
    S.checkedRoot (peaks.map S.operand) (.int size.toNat) =
      .ok (S.operand (S.root size peaks)) := by
  rw [checkedRoot, check_operands hS, hS.embedValue]
  rfl

/-! ## Climbs -/

/-- A checked climb from an integer index takes the turns of the plain climb.  The two
read their indices in different types, so the induction carries the index along. -/
theorem checkedClimb_operands (c : Convention) (index : Int) (node : D) (siblings : List D) :
    S.checkedClimb c (.int index) (S.operand node) (siblings.map S.operand) =
      .ok (S.operand (Id.run (Peak.climb S.hashing.pair c.isLeft c.parent index node siblings))) := by
  show Peak.climb S.checkedPair c.isLeftAt c.parentAt (.int index) (S.operand node)
    (siblings.map S.operand) = _
  induction siblings generalizing index node with
  | nil => rfl
  | cons sibling rest ih =>
      have hleft : c.isLeftAt (.int index) = c.isLeft index := by cases c <;> rfl
      have hparent : c.parentAt (.int index) = .int (c.parent index) := by cases c <;> rfl
      rw [List.map_cons, Peak.climb, Peak.climb, hleft, hparent]
      cases c.isLeft index with
      | true =>
          rw [if_pos rfl, if_pos rfl, checkedPair_operands hS]
          exact ih _ _
      | false =>
          rw [if_neg (by decide), if_neg (by decide), checkedPair_operands hS]
          exact ih _ _

/-- From the index that a climb starts at, a checked climb ends where the climb from the
position ends. -/
theorem checkedClimb_start (c : Convention) (position : Nat) (node : D) (siblings : List D) :
    S.checkedClimb c (.int (c.start position siblings.length)) (S.operand node)
        (siblings.map S.operand) =
      .ok (S.operand (S.ascend position node siblings)) := by
  rw [checkedClimb_operands hS, Peak.climb_start]
  rfl

end Scheme

/-! ## Sizes -/

namespace WideDigest

/-- An integer is the limb of which it is the number. -/
theorem limb?_int_eq_ok_iff {half : Half} {n : Int} {limb : Limb} :
    limb? half (.int n) = .ok limb ↔ n = limb.val := by
  rw [← Number.below?_eq_some_iff, limb?]
  cases Number.below? limbBound n <;> simp

/-- Two integers make the digest of which they are the limbs. -/
theorem make?_int_eq_ok_iff {high low : Int} {d : WideDigest} :
    make? (.int high) (.int low) = .ok d ↔ high = d.high.val ∧ low = d.low.val := by
  constructor
  · intro h
    obtain ⟨x, hx, hrest⟩ := bind_eq_ok_iff.mp h
    obtain ⟨y, hy, hd⟩ := bind_eq_ok_iff.mp hrest
    cases hd
    exact ⟨limb?_int_eq_ok_iff.mp hx, limb?_int_eq_ok_iff.mp hy⟩
  · rintro ⟨hhigh, hlow⟩
    exact bind_eq_ok_iff.mpr ⟨d.high, limb?_int_eq_ok_iff.mpr hhigh,
      bind_eq_ok_iff.mpr ⟨d.low, limb?_int_eq_ok_iff.mpr hlow, rfl⟩⟩

/-- A number of 64 bits is a limb. -/
theorem make?_word (size : UInt64) :
    make? (.int 0) (.int size.toNat) = .ok ⟨0, .ofWord size⟩ :=
  make?_int_eq_ok_iff.mpr ⟨rfl, rfl⟩

end WideDigest

/-- A number of 64 bits is a field element. -/
theorem CompactDigest.ofValue?_word (size : UInt64) :
    CompactDigest.ofValue? (.int size.toNat) = .ok ⟨.ofWord size⟩ := by
  have hword : Number.below? fieldPrime size.toNat = some (Felt.ofWord size) :=
    (Number.below?_eq_some_iff fieldPrime _ _).mpr rfl
  rw [ofValue?, ofInt?, Felt.ofInt?, hword]

/-- A size below the bound is embedded as the digest that is built from it. -/
theorem embedBelow_int {D : Type} {mode : Mode} {bound n : Nat}
    {build : Value → Except DigestError D} {d : D} (hn : n < bound)
    (hbuild : build (.int n) = .ok d) : embedBelow mode bound build (.int n) = .ok d := by
  have hrange : 0 ≤ (n : Int) ∧ (n : Int) < bound := by omega
  simp only [embedBelow, hbuild, if_pos hrange]

theorem Mode.embedValue?_wide (v : Value) : wide.scheme.embedValue? v =
    embedBelow .wide limbBound (WideDigest.make? (.int 0)) v := rfl

theorem Mode.embedValue?_compact (v : Value) : compact.scheme.embedValue? v =
    embedBelow .compact UInt64.size CompactDigest.ofValue? v := rfl

/-- Both schemes know their own digests, and have room for every size. -/
theorem Mode.faithful (mode : Mode) : mode.scheme.Faithful := by
  cases mode with
  | wide =>
      refine ⟨fun _ => rfl, fun size => ?_⟩
      have hroom : size.toNat < limbBound := (Limb.ofWord size).isLt
      rw [embedValue?_wide, embedBelow_int hroom (WideDigest.make?_word size)]
      rfl
  | compact =>
      refine ⟨fun _ => rfl, fun size => ?_⟩
      rw [embedValue?_compact, embedBelow_int size.toNat_lt (CompactDigest.ofValue?_word size)]
      rfl

end MountainRange
