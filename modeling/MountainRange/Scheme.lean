import MountainRange.Digest
import MountainRange.Hash.Keccak
import MountainRange.Hash.Poseidon
import MountainRange.Value.Quoted
set_option autoImplicit false

/-!
# Hash schemes

A range of mountains is committed to under one of two schemes.  The wide scheme
hashes the 32-byte forms of wide digests with Keccak-256; the compact scheme hashes
compact digests with Poseidon.  A scheme is chosen once for a whole proof by its
mode number.
-/

namespace MountainRange

/-- The hash scheme of a proof. -/
inductive Mode where
  | wide
  | compact
  deriving DecidableEq, Repr, Inhabited

namespace Mode

/-- The number that selects a mode. -/
def number : Mode → Nat
  | .wide => 1
  | .compact => 2

/-- The name of a mode. -/
def label : Mode → String
  | .wide => "wide"
  | .compact => "compact"

/-- The name of the hash function of a mode. -/
def hashName : Mode → String
  | .wide => "keccak"
  | .compact => "poseidon"

/-- The scheme of a mode as messages show it. -/
def describe (m : Mode) : String :=
  (match m with
    | .wide => "KeccakScheme"
    | .compact => "PoseidonScheme") ++ s!"(mode={m.number})"

/-- The form of the digests of a mode. -/
def digestKind : Mode → Kind
  | .wide => .wideDigest
  | .compact => .compactDigest

/-- All modes, in the order of their numbers. -/
def all : List Mode := [.wide, .compact]

/-- The mode that a number selects. -/
def ofNumber? (n : Int) : Option Mode := all.find? fun m => (m.number : Int) = n

end Mode

/-! ## Errors -/

/-- Why a scheme refused an operand or a selection. -/
inductive SchemeError where
  /-- No scheme has this mode number. -/
  | unknownMode (v : Value)
  /-- A digest of the other scheme, or no digest at all. -/
  | mismatch (scheme : Mode) (got : Kind)
  /-- A size that the scheme cannot embed. -/
  | scalarRange (scheme : Mode) (n : Int)
  /-- A float out of range in place of a size. -/
  | scalarFloat (scheme : Mode) (x : Number.Double)
  /-- A value of the wrong kind in place of a size. -/
  | scalarDigest (error : DigestError)
  /-- A size that cannot be compared with a number. -/
  | scalarKind (kind : Kind)
  /-- A climb index that has no parity. -/
  | indexKind (kind : Kind)
  deriving Repr

/-- Where a scheme puts a size. -/
def Mode.scalarPlace : Mode → String
  | .wide => "the low limb"
  | .compact => "64 bits"

open Text.Numeral in
/-- The text of a scheme error. -/
def SchemeError.message : SchemeError → Text
  | .unknownMode v => "Unknown hash mode: " ++ v.quoted
  | .mismatch scheme got =>
      s!"{scheme.hashName} scheme expects {scheme.digestKind.label}, got {got.label}"
  | .scalarRange scheme n =>
      shown n fun digits => s!"Scalar does not fit in {scheme.scalarPlace}: {digits}"
  | .scalarFloat scheme x =>
      s!"Scalar does not fit in {scheme.scalarPlace}: " ++ x.text Value.floatWords
  | .scalarDigest error => error.message
  | .scalarKind kind => s!"an integer is required, got {kind.label}"
  | .indexKind kind => s!"a number is required, got {kind.label}"

/-- The mode that a value selects: any number that is worth one or two. -/
def Mode.ofValue? (v : Value) : Except SchemeError Mode :=
  match v.integral?.bind Mode.ofNumber? with
  | some m => .ok m
  | none => .error (.unknownMode v)

/-! ## The schemes -/

/-- A hash scheme over digests of one form. -/
structure Scheme (D : Type) where
  mode : Mode
  /-- The digest of nothing. -/
  zero : D
  /-- Hashes two digests, in order, into one. -/
  pair : D → D → D
  /-- Hashes a sequence of digests into one. -/
  many : List D → D
  /-- The number of leaves of a range, as a digest. -/
  embed : UInt64 → D
  /-- A size of any kind, as a digest. -/
  embedValue? : Value → Except SchemeError D
  /-- The digest an operand is, if it has the form of the scheme. -/
  ofOperand? : Operand → Option D
  /-- A digest of the scheme among all digests. -/
  toDigest : D → Digest

/-- The digest of a raw leaf value: the hash of the sequence of it alone. -/
def Scheme.leaf {D : Type} (S : Scheme D) (d : D) : D := S.many [d]

/-- Checks that a size of any kind lies between zero and `bound`, and builds its
digest from it. -/
def embedBelow {D : Type} (mode : Mode) (bound : Nat) (build : Value → Except DigestError D)
    (v : Value) : Except SchemeError D :=
  let built := match build v with
    | .ok d => .ok d
    | .error e => .error (.scalarDigest e)
  match v with
  | .int n => if 0 ≤ n ∧ n < bound then built else .error (.scalarRange mode n)
  | .bool _ => built
  | .float x =>
      if x.isNegative || x.isAbove (bound - 1) then .error (.scalarFloat mode x) else built
  | w => .error (.scalarKind w.kind)

namespace WideDigest

/-- The bytes that are hashed for a sequence of wide digests. -/
def preimage (ds : List WideDigest) : List UInt8 := ds.flatMap toBytes

/-- The bytes that are hashed for a pair of wide digests. -/
def pairPreimage (left right : WideDigest) : List UInt8 := left.toBytes ++ right.toBytes

end WideDigest

/-- The wide scheme. -/
def keccakScheme : Scheme WideDigest where
  mode := .wide
  zero := .zero
  pair left right := .ofHash (Hash.keccak256 (WideDigest.pairPreimage left right))
  many ds := .ofHash (Hash.keccak256 (WideDigest.preimage ds))
  embed size := ⟨0, .ofWord size⟩
  embedValue? := embedBelow .wide limbBound (WideDigest.make? (.int 0))
  ofOperand?
    | .digest (.wide d) => some d
    | _ => none
  toDigest := .wide

/-- The compact scheme. -/
def poseidonScheme : Scheme CompactDigest where
  mode := .compact
  zero := .zero
  pair left right := ⟨Hash.poseidonPair left.value right.value⟩
  many ds := ⟨Hash.poseidonMany (ds.map (·.value))⟩
  embed size := ⟨.ofWord size⟩
  embedValue? := embedBelow .compact UInt64.size CompactDigest.ofValue?
  ofOperand?
    | .digest (.compact d) => some d
    | _ => none
  toDigest := .compact

end MountainRange
