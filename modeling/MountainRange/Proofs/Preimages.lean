import MountainRange.Proofs.CheckedOperations
import MountainRange.Proofs.DigestCodecs
set_option autoImplicit false

/-!
# What the wide scheme hashes

Every operation of the wide scheme hands one byte string to Keccak-256.  No mark in it tells a leaf
from a node, and nothing says how many operands there are.  But every operand takes up 32 bytes,
zeros in front included, so the length of the string tells their number and the string tells the
operands.  Two operations on different operands that come to one digest have therefore handed over
two messages that Keccak-256 itself does not tell apart.
-/

namespace MountainRange

/-- Two different messages have one Keccak-256 digest. -/
def Hash.KeccakCollision (message message' : List UInt8) : Prop :=
  message ≠ message' ∧ keccak256 message = keccak256 message'

/-! ## Bytes -/

namespace WideDigest

theorem map_length_toBytes (ds : List WideDigest) :
    (ds.map toBytes).map List.length = List.replicate ds.length 32 := by
  simp [Function.comp_def, length_toBytes]

theorem length_preimage (ds : List WideDigest) : (preimage ds).length = ds.length * 32 := by
  rw [preimage, List.flatMap_def, List.length_flatten, map_length_toBytes, List.sum_replicate_nat]

/-- All blocks are 32 bytes long, so the whole is cut up in only one way. -/
theorem preimage_injective : Function.Injective preimage := by
  intro ds es heq
  -- Nothing is known of the counts; that they agree has to be read off the whole.
  have hlength : ds.length = es.length := by
    have hbytes := congrArg List.length heq
    rw [length_preimage, length_preimage] at hbytes
    omega
  have hblocks : ds.map toBytes = es.map toBytes := by
    rw [List.eq_iff_flatten_eq, map_length_toBytes, map_length_toBytes, hlength,
      ← List.flatMap_def, ← List.flatMap_def]
    exact ⟨heq, rfl⟩
  exact codec_bytes.write_injective.list_map hblocks

theorem pairPreimage_eq (left right : WideDigest) :
    pairPreimage left right = preimage [left, right] := by
  rw [preimage, List.flatMap_cons, List.flatMap_singleton]
  rfl

/-- The output of a hash function is read as the 32 bytes that it is. -/
theorem toBytes_ofHash (bytes : Vector UInt8 32) : (ofHash bytes).toBytes = bytes.toList :=
  toBytes_of_ofBytes? (dif_pos bytes.length_toList)

theorem ofHash_injective : Function.Injective ofHash := by
  intro bytes bytes' heq
  have hlist := congrArg toBytes heq
  rw [toBytes_ofHash, toBytes_ofHash] at hlist
  exact Vector.toList_inj.mp hlist

end WideDigest

/-! ## Calls -/

/-- A call of a hash operation of the wide scheme on its own digests. -/
inductive WideCall where
  | leaf (value : WideDigest)
  | pair (left right : WideDigest)
  | many (values : List WideDigest)
  deriving DecidableEq, Repr

namespace WideCall

/-- The digests that a call is made on, in order. -/
def operands : WideCall → List WideDigest
  | .leaf value => [value]
  | .pair left right => [left, right]
  | .many values => values

/-- The bytes that a call hands to Keccak-256. -/
def preimage : WideCall → List UInt8
  | .leaf value => WideDigest.preimage [value]
  | .pair left right => WideDigest.pairPreimage left right
  | .many values => WideDigest.preimage values

/-- What a call gives, its operands checked. -/
def run : WideCall → Except SchemeError Operand
  | .leaf value => keccakScheme.checkedLeaf (keccakScheme.operand value)
  | .pair left right => keccakScheme.checkedPair (keccakScheme.operand left)
      (keccakScheme.operand right)
  | .many values => keccakScheme.checkedMany (values.map keccakScheme.operand)

/-- The digest that a call comes to. -/
def digest (x : WideCall) : WideDigest := .ofHash (Hash.keccak256 x.preimage)

variable {x y : WideCall}

/-- No call on wide digests is refused. -/
theorem run_eq (x : WideCall) : x.run = .ok (.digest (.wide x.digest)) := by
  have hfaithful := Mode.faithful .wide
  cases x with
  | leaf value => exact Scheme.checkedLeaf_operand hfaithful value
  | pair left right => exact Scheme.checkedPair_operands hfaithful left right
  | many values => exact Scheme.checkedMany_operands hfaithful values

theorem run_eq_run_iff : x.run = y.run ↔ x.digest = y.digest := by
  rw [run_eq, run_eq, Except.ok.injEq, Operand.digest.injEq, Digest.wide.injEq]

theorem preimage_eq (x : WideCall) : x.preimage = WideDigest.preimage x.operands := by
  cases x with
  | leaf value => rfl
  | pair left right => exact WideDigest.pairPreimage_eq left right
  | many values => rfl

theorem preimage_eq_preimage_iff : x.preimage = y.preimage ↔ x.operands = y.operands := by
  rw [preimage_eq, preimage_eq, WideDigest.preimage_injective.eq_iff]

/-- Messages of two calls collide exactly if the calls are made on different digests and come to
one. -/
theorem keccakCollision_iff : Hash.KeccakCollision x.preimage y.preimage ↔
    x.operands ≠ y.operands ∧ x.digest = y.digest :=
  and_congr (not_congr preimage_eq_preimage_iff) WideDigest.ofHash_injective.eq_iff.symm

/-- Two calls give the same only on the same digests or by a collision. -/
theorem run_eq_run_iff_or_collision : x.run = y.run ↔
    x.operands = y.operands ∨ Hash.KeccakCollision x.preimage y.preimage := by
  have hsame (h : x.operands = y.operands) : x.digest = y.digest := by
    rw [digest, digest, preimage_eq_preimage_iff.mpr h]
  rw [run_eq_run_iff, keccakCollision_iff]
  by_cases h : x.operands = y.operands
  · exact iff_of_true (hsame h) (.inl h)
  · rw [or_iff_right h, and_iff_right h]

end WideCall

/-! ## Recorded calls -/

namespace HashCall

/-- A recorded call as one of the wide scheme. -/
def wide : HashCall WideDigest → WideCall
  | .leaf value => .leaf value
  | .pair left right => .pair left right

theorem digest_wide (x : HashCall WideDigest) : x.wide.digest = x.digest keccakScheme := by
  cases x <;> rfl

/-- A leaf is one digest and a node is two, so recorded calls are told by their operands. -/
theorem operands_wide_eq_iff {x y : HashCall WideDigest} :
    x.wide.operands = y.wide.operands ↔ x = y := by
  cases x <;> cases y <;> simp [wide, WideCall.operands]

end HashCall

theorem keccakScheme_collision_iff {calls : List (HashCall WideDigest)} :
    keccakScheme.Collision calls ↔ ∃ x ∈ calls, ∃ y ∈ calls,
      Hash.KeccakCollision x.wide.preimage y.wide.preimage := by
  simp only [Scheme.collision_iff, WideCall.keccakCollision_iff, HashCall.digest_wide, ne_eq,
    HashCall.operands_wide_eq_iff]

/-- The bytes that the wide scheme hashes tell the digests that they are put together from, however
many these are; a pair is hashed as the sequence of its two digests, so never as a leaf.  Every call
on wide digests gives the one whose 32 bytes are the Keccak-256 digest of the call's bytes.  So two
calls give the same only on the same digests or by a collision of Keccak-256, and a collision among
the calls that a run records is one of Keccak-256. -/
theorem wide_preimages_unambiguous :
    (∀ ds es, (WideCall.many ds).preimage = (WideCall.many es).preimage ↔ ds = es) ∧
    (∀ left right,
      (WideCall.pair left right).preimage = (WideCall.many [left, right]).preimage) ∧
    (∀ value left right,
      (WideCall.leaf value).preimage ≠ (WideCall.pair left right).preimage) ∧
    (∀ x : WideCall, ∃ d : WideDigest, x.run = .ok (.digest (.wide d)) ∧
      d.toBytes = (Hash.keccak256 x.preimage).toList) ∧
    (∀ x y : WideCall, x.run = y.run ↔
      x.operands = y.operands ∨ Hash.KeccakCollision x.preimage y.preimage) ∧
    ∀ calls : List (HashCall WideDigest), keccakScheme.Collision calls ↔
      ∃ x ∈ calls, ∃ y ∈ calls, Hash.KeccakCollision x.wide.preimage y.wide.preimage := by
  refine ⟨fun ds es => WideCall.preimage_eq_preimage_iff, WideDigest.pairPreimage_eq, ?_, ?_,
    fun x y => WideCall.run_eq_run_iff_or_collision, fun calls => keccakScheme_collision_iff⟩
  · intro value left right hbytes
    have hoperands : [value] = [left, right] := WideCall.preimage_eq_preimage_iff.mp hbytes
    cases hoperands
  · intro x
    exact ⟨x.digest, x.run_eq, WideDigest.toBytes_ofHash _⟩

end MountainRange
