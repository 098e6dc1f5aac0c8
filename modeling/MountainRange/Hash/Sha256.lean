import MountainRange.Bytes
set_option autoImplicit false

/-!
# SHA-256

The Merkle–Damgård hash over blocks of 64 bytes and eight 32-bit words.  The
constants of the algebraic hash are drawn from it.
-/

namespace MountainRange.Hash.Sha256

/-- The eight words of the chaining value. -/
structure Words where
  a : UInt32
  b : UInt32
  c : UInt32
  d : UInt32
  e : UInt32
  f : UInt32
  g : UInt32
  h : UInt32
  deriving DecidableEq, Repr, Inhabited

/-- The chaining value before the first block. -/
def initial : Words :=
  ⟨0x6a09e667, 0xbb67ae85, 0x3c6ef372, 0xa54ff53a, 0x510e527f, 0x9b05688c, 0x1f83d9ab, 0x5be0cd19⟩

/-- The constant of each of the 64 rounds. -/
def roundConstants : List UInt32 :=
  [0x428a2f98, 0x71374491, 0xb5c0fbcf, 0xe9b5dba5, 0x3956c25b, 0x59f111f1, 0x923f82a4, 0xab1c5ed5,
   0xd807aa98, 0x12835b01, 0x243185be, 0x550c7dc3, 0x72be5d74, 0x80deb1fe, 0x9bdc06a7, 0xc19bf174,
   0xe49b69c1, 0xefbe4786, 0x0fc19dc6, 0x240ca1cc, 0x2de92c6f, 0x4a7484aa, 0x5cb0a9dc, 0x76f988da,
   0x983e5152, 0xa831c66d, 0xb00327c8, 0xbf597fc7, 0xc6e00bf3, 0xd5a79147, 0x06ca6351, 0x14292967,
   0x27b70a85, 0x2e1b2138, 0x4d2c6dfc, 0x53380d13, 0x650a7354, 0x766a0abb, 0x81c2c92e, 0x92722c85,
   0xa2bfe8a1, 0xa81a664b, 0xc24b8b70, 0xc76c51a3, 0xd192e819, 0xd6990624, 0xf40e3585, 0x106aa070,
   0x19a4c116, 0x1e376c08, 0x2748774c, 0x34b0bcb5, 0x391c0cb3, 0x4ed8aa4a, 0x5b9cca4f, 0x682e6ff3,
   0x748f82ee, 0x78a5636f, 0x84c87814, 0x8cc70208, 0x90befffa, 0xa4506ceb, 0xbef9a3f7, 0xc67178f2]

/-- Right rotation of a word. -/
def rotate (w : UInt32) (amount : UInt32) : UInt32 := (w >>> amount) ||| (w <<< (32 - amount))

/-- The word that follows a message schedule, which is kept latest word first. -/
def nextWord (schedule : List UInt32) : UInt32 :=
  let word (back : Nat) : UInt32 := schedule.getD (back - 1) 0
  let s0 := rotate (word 15) 7 ^^^ rotate (word 15) 18 ^^^ (word 15 >>> 3)
  let s1 := rotate (word 2) 17 ^^^ rotate (word 2) 19 ^^^ (word 2 >>> 10)
  word 16 + s0 + word 7 + s1

/-- Extends a schedule by `count` words. -/
def extend : (count : Nat) → List UInt32 → List UInt32
  | 0, schedule => schedule
  | count + 1, schedule => extend count (nextWord schedule :: schedule)

/-- The big-endian words of a block. -/
def wordsOf (block : List UInt8) : List UInt32 :=
  (List.range 16).map fun i => UInt32.ofNat (Bytes.toNat ((block.drop (4 * i)).take 4))

/-- One round, taking up a schedule word and its constant. -/
def round (s : Words) (input : UInt32 × UInt32) : Words :=
  let s1 := rotate s.e 6 ^^^ rotate s.e 11 ^^^ rotate s.e 25
  let choice := (s.e &&& s.f) ^^^ (~~~s.e &&& s.g)
  let t1 := s.h + s1 + choice + input.1 + input.2
  let s0 := rotate s.a 2 ^^^ rotate s.a 13 ^^^ rotate s.a 22
  let majority := (s.a &&& s.b) ^^^ (s.a &&& s.c) ^^^ (s.b &&& s.c)
  ⟨t1 + (s0 + majority), s.a, s.b, s.c, s.d + t1, s.e, s.f, s.g⟩

/-- Takes up one block of 64 bytes. -/
def compress (s : Words) (block : List UInt8) : Words :=
  let schedule := (extend 48 (wordsOf block).reverse).reverse
  let t := (roundConstants.zip schedule).foldl round s
  ⟨s.a + t.a, s.b + t.b, s.c + t.c, s.d + t.d, s.e + t.e, s.f + t.f, s.g + t.g, s.h + t.h⟩

/-- The padding behind a message of `length` bytes: a one bit, zeros up to eight
bytes before the end of a block, and the length in bits. -/
def padding (length : Nat) : List UInt8 :=
  0x80 :: List.replicate ((119 - length % 64) % 64) 0 ++ Bytes.ofNat 8 (8 * length)

/-- Takes up all full blocks of a byte string. -/
def absorb (s : Words) (bytes : List UInt8) : Words :=
  if bytes.length < 64 then s else absorb (compress s (bytes.take 64)) (bytes.drop 64)
termination_by bytes.length
decreasing_by
  rw [List.length_drop]
  omega

end Sha256

/-- The SHA-256 digest of a message, as the number its bytes spell. -/
def sha256 (message : List UInt8) : Nat :=
  let s := Sha256.absorb Sha256.initial (message ++ Sha256.padding message.length)
  [s.a, s.b, s.c, s.d, s.e, s.f, s.g, s.h].foldl (fun acc w => acc <<< 32 + w.toNat) 0

end MountainRange.Hash
