import MountainRange.Scheme
set_option autoImplicit false

/-!
# Deposits

A deposit is followed from end to end by its commitment, the compact hash of its
recipient, amount, nonce and time.  The commitment is also the leaf that is proven
for the deposit under the compact scheme.
-/

namespace MountainRange

/-- The data of a deposit. -/
structure Deposit where
  recipient : Felt
  /-- The amount, a number of 128 bits. -/
  amount : Limb
  nonce : UInt64
  timestamp : UInt64
  deriving DecidableEq, Repr

/-- Why there is no such deposit. -/
inductive DepositError where
  /-- A part is of the wrong kind. -/
  | kind (name : String) (kind : Kind)
  /-- A part does not fit. -/
  | range (name : String) (n : Int)
  deriving DecidableEq, Repr

open Text.Numeral in
/-- The text of a deposit error. -/
def DepositError.message : DepositError → String
  | .kind name k => s!"{name} must be an integer, got {k.label}"
  | .range name n => shown n fun digits => s!"{name} out of range: {digits}"

namespace Deposit

/-- Checks a part that has to lie below a bound. -/
def part? (name : String) (bound : Nat) : Value → Except DepositError (Fin bound)
  | .int n =>
      match Number.below? bound n with
      | some part => .ok part
      | none => .error (.range name n)
  | v => .error (.kind name v.kind)

/-- The deposit of four parts, checked in this order. -/
def make? (recipient amount nonce timestamp : Value) : Except DepositError Deposit := do
  let recipient ← part? "recipient" fieldPrime recipient
  let amount ← part? "amount" limbBound amount
  let nonce ← part? "nonce" UInt64.size nonce
  let timestamp ← part? "timestamp" UInt64.size timestamp
  return { recipient, amount, nonce := .ofNat nonce.val, timestamp := .ofNat timestamp.val }

/-- The parts of a deposit as field elements. -/
def elements (d : Deposit) : List Felt :=
  [d.recipient, d.amount.castLE (by decide), .ofWord d.nonce, .ofWord d.timestamp]

/-- The commitment of a deposit. -/
def commitment (d : Deposit) : CompactDigest := poseidonScheme.many (d.elements.map (⟨·⟩))

end Deposit

end MountainRange
