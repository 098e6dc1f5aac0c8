set_option autoImplicit false

/-!
# Keccak-256

The sponge over Keccak-f[1600] with a rate of 136 bytes, a capacity of 512 bits
and the padding byte `0x01`, giving 32 bytes.  A state is 25 lanes of 64 bits;
the lane in column `x` and row `y` has index `x + 5 * y`, and its bytes are read
and written least significant first.
-/

namespace MountainRange.Hash.Keccak

/-- The lanes of a state, row after row. -/
abbrev State := Vector UInt64 25

/-! ## The permutation -/

/-- Left rotation of a lane. -/
def rotate (lane : UInt64) (amount : Nat) : UInt64 :=
  if amount = 0 then lane
  else (lane <<< UInt64.ofNat amount) ||| (lane >>> UInt64.ofNat (64 - amount))

/-- The rotation of every lane in step ρ. -/
def rotations : Vector Nat 25 :=
  #v[0, 1, 62, 28, 27,
     36, 44, 6, 55, 20,
     3, 10, 43, 25, 39,
     41, 45, 15, 21, 8,
     18, 2, 61, 56, 14]

/-- The constant that step ι adds to the first lane in each of the 24 rounds. -/
def roundConstants : List UInt64 :=
  [0x0000000000000001, 0x0000000000008082, 0x800000000000808a, 0x8000000080008000,
   0x000000000000808b, 0x0000000080000001, 0x8000000080008081, 0x8000000000008009,
   0x000000000000008a, 0x0000000000000088, 0x0000000080008009, 0x000000008000000a,
   0x000000008000808b, 0x800000000000008b, 0x8000000000008089, 0x8000000000008003,
   0x8000000000008002, 0x8000000000000080, 0x000000000000800a, 0x800000008000000a,
   0x8000000080008081, 0x8000000000008080, 0x0000000080000001, 0x8000000080008008]

/-- The lane in column `x` and row `y`, both taken modulo five. -/
def lane (s : State) (x y : Nat) : UInt64 :=
  s.get ⟨x % 5 + 5 * (y % 5), by omega⟩

/-- Step θ: every lane takes up the parities of two neighbouring columns. -/
def theta (s : State) : State :=
  let parity : Vector UInt64 5 := Vector.ofFn fun x =>
    lane s x 0 ^^^ lane s x 1 ^^^ lane s x 2 ^^^ lane s x 3 ^^^ lane s x 4
  let column (x : Nat) : UInt64 := parity.get ⟨x % 5, by omega⟩
  let mix : Vector UInt64 5 := Vector.ofFn fun x => column (x + 4) ^^^ rotate (column (x + 1)) 1
  Vector.ofFn fun i => s[i] ^^^ mix.get ⟨i.val % 5, by omega⟩

/-- Step ρ: every lane is rotated by its own amount. -/
def rho (s : State) : State := Vector.ofFn fun i => rotate s[i] rotations[i]

/-- Step π: the lanes change places. -/
def pi (s : State) : State := Vector.ofFn fun i => lane s (i.val % 5 + 3 * (i.val / 5)) (i.val % 5)

/-- Step χ: the one step that is not linear. -/
def chi (s : State) : State := Vector.ofFn fun i =>
  let x := i.val % 5
  let y := i.val / 5
  lane s x y ^^^ (~~~(lane s (x + 1) y) &&& lane s (x + 2) y)

/-- Step ι: the round constant enters the first lane. -/
def iota (constant : UInt64) (s : State) : State := s.set 0 (s[0] ^^^ constant)

/-- One round. -/
def round (s : State) (constant : UInt64) : State := iota constant (chi (pi (rho (theta s))))

/-- Keccak-f[1600]. -/
def permute (s : State) : State := roundConstants.foldl round s

/-! ## The sponge -/

/-- Bytes that one block takes up. -/
def rate : Nat := 136

/-- The padding behind a message of `length` bytes: a byte `0x01`, zeros, and the
top bit of the last byte of the block. -/
def padding (length : Nat) : List UInt8 :=
  match rate - length % rate with
  | 0 => []
  | 1 => [0x81]
  | n + 2 => 0x01 :: List.replicate n 0 ++ [0x80]

/-- The 64-bit word spelled by eight bytes, least significant first. -/
def littleEndian (bytes : List UInt8) : UInt64 :=
  bytes.foldr (fun b acc => acc <<< 8 ||| b.toUInt64) 0

/-- Adds a block to the front lanes of the state. -/
def addBlock (s : State) (block : List UInt8) : State :=
  Vector.ofFn fun i => s[i] ^^^ littleEndian ((block.drop (8 * i.val)).take 8)

/-- Takes up all full blocks of a byte string, permuting after each. -/
def absorb (s : State) (bytes : List UInt8) : State :=
  if bytes.length < rate then s
  else absorb (permute (addBlock s (bytes.take rate))) (bytes.drop rate)
termination_by bytes.length
decreasing_by
  rw [List.length_drop]
  have : 0 < rate := by decide
  omega

/-- The first 32 bytes of a state. -/
def squeeze (s : State) : Vector UInt8 32 := Vector.ofFn fun i =>
  ((s.get ⟨i.val / 8, by omega⟩) >>> UInt64.ofNat (8 * (i.val % 8))).toUInt8

end Keccak

/-- The Keccak-256 digest of a message. -/
def keccak256 (message : List UInt8) : Vector UInt8 32 :=
  Keccak.squeeze <|
    Keccak.absorb (Vector.replicate 25 0) (message ++ Keccak.padding message.length)

end MountainRange.Hash
