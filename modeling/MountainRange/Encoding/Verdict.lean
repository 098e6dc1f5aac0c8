import MountainRange.Encoding
import MountainRange.Verdict
set_option autoImplicit false

/-!
# The verdict on an encoded request

A sequence is decoded and then passed through the gates.  A sequence that makes no
request has no verdict; that is told apart from a request that is refused.
-/

namespace MountainRange.Encoding

/-- Why a sequence has no verdict. -/
inductive VerdictError where
  /-- The sequence makes no request. -/
  | refused (refusal : Refusal)
  /-- The verifier came to no verdict. -/
  | fault (fault : Fault)
  deriving DecidableEq, Repr

/-- The verdict on a sequence of unchecked values. -/
def verdict (options : Options) (raw : Value) : Except VerdictError Outcome := do
  let r ← (decodeValue raw).mapError .refused
  (r.explain none options).mapError .fault

end MountainRange.Encoding
