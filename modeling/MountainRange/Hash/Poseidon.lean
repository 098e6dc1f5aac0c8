import MountainRange.Field
import MountainRange.Hash.Sha256
set_option autoImplicit false

/-!
# Poseidon over three field elements

The Hades permutation with cubing as its power map: four full rounds, 83 rounds
that cube the last cell only, and four full rounds.  The constants of the rounds
are SHA-256 digests of the word `Hades` followed by a running number.
-/

namespace MountainRange.Hash.Poseidon

/-- The three cells of the permutation. -/
structure State where
  x : Felt
  y : Felt
  z : Felt
  deriving DecidableEq, Repr

/-- The constant with running number `n`. -/
def constant (n : Nat) : Felt :=
  Fin.ofNat fieldPrime (sha256 (("Hades" ++ toString n).toUTF8.toList))

/-- Rounds that cube all three cells, before and after the others. -/
def fullRounds : Nat := 4

/-- Rounds that cube the last cell only. -/
def partialRounds : Nat := 83

/-- The three constants of every round, in order. -/
def roundConstants : List State :=
  (List.range (fullRounds + partialRounds + fullRounds)).map fun i =>
    ⟨constant (3 * i), constant (3 * i + 1), constant (3 * i + 2)⟩

/-- The power map. -/
def cube (a : Felt) : Felt := a * a * a

/-- Cell-wise sum. -/
def State.add (s t : State) : State := ⟨s.x + t.x, s.y + t.y, s.z + t.z⟩

/-- The product with the matrix of rows `(3, 1, 1)`, `(1, -1, 1)`, `(1, 1, -2)`. -/
def State.mix (s : State) : State :=
  let sum := s.x + s.y + s.z
  ⟨sum + s.x + s.x, sum - s.y - s.y, sum - s.z - s.z - s.z⟩

/-- A round that cubes every cell. -/
def fullRound (s constants : State) : State :=
  let t := s.add constants
  State.mix ⟨cube t.x, cube t.y, cube t.z⟩

/-- A round that cubes the last cell. -/
def partialRound (s constants : State) : State :=
  let t := s.add constants
  State.mix ⟨t.x, t.y, cube t.z⟩

/-- The permutation under given round constants. -/
def permuteWith (constants : List State) (s : State) : State :=
  let front := constants.take fullRounds
  let middle := (constants.drop fullRounds).take partialRounds
  let back := constants.drop (fullRounds + partialRounds)
  back.foldl fullRound (middle.foldl partialRound (front.foldl fullRound s))

/-- The permutation. -/
def permute (s : State) : State := permuteWith roundConstants s

/-- Takes up field elements two at a time; a last single element stands before
the final one that marks the end, and a pair is completed by zero. -/
def absorb (s : State) : List Felt → State
  | [] => permute ⟨s.x + 1, s.y, s.z⟩
  | [a] => permute ⟨s.x + a, s.y + 1, s.z⟩
  | a :: b :: rest => absorb (permute ⟨s.x + a, s.y + b, s.z⟩) rest

end Poseidon

/-- The Poseidon hash of two elements. -/
def poseidonPair (a b : Felt) : Felt := (Poseidon.permute ⟨a, b, 2⟩).x

/-- The Poseidon hash of a sequence of elements. -/
def poseidonMany (elements : List Felt) : Felt := (Poseidon.absorb ⟨0, 0, 0⟩ elements).x

end MountainRange.Hash
