set_option autoImplicit false

/-!
# Peaks

The digest at the top of a mountain is its peak.  A climb computes the peak above a
leaf from the siblings along the way; bagging folds the peaks of a range into one
digest, and the root binds that digest to the number of leaves.

Each is written once, over the operation that hashes a pair, and in the monad of
that operation: the identity for the verifier, errors where the operands are not yet
known to be digests of the scheme, a record of the calls where they are counted.
-/

namespace MountainRange.Peak

variable {m : Type → Type} [Monad m] {D : Type}

/-- Climbs from a node with some index along its siblings, lowest first.  At each
level the node is hashed with its sibling in the order that the index tells, and the
climb goes on at the parent. -/
def climb {I : Type} (pair : D → D → m D) (isLeft : I → Bool) (parent : I → I) :
    I → D → List D → m D
  | _, node, [] => pure node
  | index, node, sibling :: rest => do
      let above ← if isLeft index then pair node sibling else pair sibling node
      climb pair isLeft parent (parent index) above rest

/-- Folds peaks into one digest from the right: each peak is hashed in front of what
the peaks to its right came to. -/
def bag (pair : D → D → m D) (zero : D) : List D → m D
  | [] => pure zero
  | [peak] => pure peak
  | peak :: next :: rest => do pair peak (← bag pair zero (next :: rest))

/-- The root of a range: its size, as a digest, hashed in front of its bagged
peaks. -/
def root (pair : D → D → m D) (zero size : D) (peaks : List D) : m D := do
  pair size (← bag pair zero peaks)

end MountainRange.Peak
