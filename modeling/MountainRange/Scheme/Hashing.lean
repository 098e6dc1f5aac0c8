import MountainRange.Scheme
set_option autoImplicit false

/-!
# Hashing as an effect

The operations that build a range and check a proof against one, in some monad.  In
the identity they only compute; recorded, they also list every hash call they make,
so that what a run has hashed can be spoken of.
-/

namespace MountainRange

/-- The hash operations over digests of one form. -/
structure Hashing (m : Type → Type) (D : Type) where
  /-- What an empty range is bagged to. -/
  zero : D
  /-- The number of leaves of a range, as a digest. -/
  embed : UInt64 → D
  /-- The digest of a raw leaf value. -/
  leaf : D → m D
  /-- The digest of two digests, in order. -/
  pair : D → D → m D

/-- One call of a hash operation, by its operands. -/
inductive HashCall (D : Type) where
  | leaf (value : D)
  | pair (left right : D)
  deriving DecidableEq, Repr

namespace Scheme

variable {D : Type} (S : Scheme D)

/-- The operations of a scheme. -/
def hashing : Hashing Id D where
  zero := S.zero
  embed := S.embed
  leaf d := S.leaf d
  pair left right := S.pair left right

/-- The operations of a scheme, recording their calls, latest first. -/
def recording : Hashing (StateM (List (HashCall D))) D where
  zero := S.zero
  embed := S.embed
  leaf d calls := (S.leaf d, .leaf d :: calls)
  pair left right calls := (S.pair left right, .pair left right :: calls)

end Scheme

end MountainRange
