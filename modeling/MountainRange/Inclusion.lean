import MountainRange.Scheme.Checked
set_option autoImplicit false

/-!
# Inclusion proofs

An inclusion proof claims that a leaf stands at some index among the leaves of a
range of some size with some root, and brings the siblings along the climb and the
peaks of the range.  A request is such a proof under one of the two schemes.
-/

namespace MountainRange

/-- A claim of inclusion with its evidence. -/
structure Inclusion (D : Type) where
  root : D
  /-- The raw leaf value, not yet hashed. -/
  leaf : D
  leafIndex : UInt64
  /-- The number of leaves of the range. -/
  size : UInt64
  /-- The siblings of the climb, lowest first. -/
  siblings : List D
  /-- The peaks of the range, tallest mountain first. -/
  peaks : List D
  deriving DecidableEq, Repr

/-- A proof under one of the schemes. -/
inductive Request where
  | wide (proof : Inclusion WideDigest)
  | compact (proof : Inclusion CompactDigest)
  deriving DecidableEq, Repr

/-- The parts of a request before they are checked. -/
structure Draft where
  mode : Value
  root : Operand
  leaf : Operand
  leafIndex : Value
  size : Value
  siblings : List Operand
  peaks : List Operand

/-- Why a draft is no request. -/
inductive RequestError where
  /-- The mode is unknown, or a part is no digest of the scheme. -/
  | scheme (error : SchemeError)
  /-- A number is of the wrong kind. -/
  | wordKind (name : String) (kind : Kind)
  /-- A number does not fit in 64 bits. -/
  | wordRange (name : String) (n : Int)
  deriving Repr

open Text.Numeral in
/-- The text of a request error. -/
def RequestError.message : RequestError → Text
  | .scheme error => error.message
  | .wordKind name kind => s!"{name} must be an integer, got {kind.label}"
  | .wordRange name n => shown n fun digits => s!"{name} does not fit in 64 bits: {digits}"

/-- Checks a number of 64 bits. -/
def word? (name : String) : Value → Except RequestError UInt64
  | .int n =>
      if 0 ≤ n ∧ n < UInt64.size then .ok (UInt64.ofNat n.toNat) else .error (.wordRange name n)
  | v => .error (.wordKind name v.kind)

/-- The name of the leaf index in messages. -/
def leafIndexName : String := "leaf_index"

/-- The name of the size in messages. -/
def sizeName : String := "mmr_size"

/-- The digest an operand is under a scheme, or the error that it is none. -/
def digestOf {D : Type} (S : Scheme D) (x : Operand) : Except RequestError D :=
  (S.checkOne x).mapError .scheme

/-- Checks the numbers of a draft, then its digests in the order root, leaf,
siblings, peaks. -/
def Draft.check {D : Type} (S : Scheme D) (draft : Draft) :
    Except RequestError (Inclusion D) := do
  let leafIndex ← word? leafIndexName draft.leafIndex
  let size ← word? sizeName draft.size
  let root ← digestOf S draft.root
  let leaf ← digestOf S draft.leaf
  let siblings ← draft.siblings.mapM (digestOf S)
  let peaks ← draft.peaks.mapM (digestOf S)
  return { root, leaf, leafIndex, size, siblings, peaks }

/-- The request that a draft is, its mode checked first. -/
def Draft.toRequest (draft : Draft) : Except RequestError Request := do
  match ← (Mode.ofValue? draft.mode).mapError .scheme with
  | .wide => return .wide (← draft.check keccakScheme)
  | .compact => return .compact (← draft.check poseidonScheme)

namespace Request

/-- The scheme of a request. -/
def mode : Request → Mode
  | .wide _ => .wide
  | .compact _ => .compact

/-- The claimed index of a request. -/
def leafIndex : Request → UInt64
  | .wide p => p.leafIndex
  | .compact p => p.leafIndex

/-- The claimed size of a request. -/
def size : Request → UInt64
  | .wide p => p.size
  | .compact p => p.size

/-- The claimed root of a request. -/
def root : Request → Digest
  | .wide p => .wide p.root
  | .compact p => .compact p.root

/-- The leaf of a request. -/
def leaf : Request → Digest
  | .wide p => .wide p.leaf
  | .compact p => .compact p.leaf

/-- The siblings of a request. -/
def siblings : Request → List Digest
  | .wide p => p.siblings.map .wide
  | .compact p => p.siblings.map .compact

/-- The peaks of a request. -/
def peaks : Request → List Digest
  | .wide p => p.peaks.map .wide
  | .compact p => p.peaks.map .compact

end Request

end MountainRange
