import MountainRange.Text.Hex
set_option autoImplicit false

/-!
# Bytes of characters

A character is spelled by one to four bytes, of which the first tells how many there are.
Bytes are taken apart into the letters that they spell and the starts of characters that
are not completed, which are spoiled.  What to do with spoiled bytes is for the reader to
say: a file that holds any is not read.
-/

namespace MountainRange.Text

/-! ## Chunks -/

/-- The start of a character of several bytes: the bytes so far, the number that they
spell, how many are still to come, and the least and the greatest that may come next. -/
structure Opened where
  bytes : List UInt8
  value : Nat
  owed : Nat
  least : Nat
  greatest : Nat
  deriving DecidableEq, Repr

/-- The character of several bytes that a byte starts, if it can start one. -/
def Opened.ofFirst? (b : UInt8) : Option Opened :=
  let n := b.toNat
  if 0xC2 ≤ n && n ≤ 0xDF then some ⟨[b], n - 0xC0, 1, 0x80, 0xBF⟩
  else if n = 0xE0 then some ⟨[b], 0, 2, 0xA0, 0xBF⟩
  else if n = 0xED then some ⟨[b], 0xD, 2, 0x80, 0x9F⟩
  else if 0xE1 ≤ n && n ≤ 0xEF then some ⟨[b], n - 0xE0, 2, 0x80, 0xBF⟩
  else if n = 0xF0 then some ⟨[b], 0, 3, 0x90, 0xBF⟩
  else if 0xF1 ≤ n && n ≤ 0xF3 then some ⟨[b], n - 0xF0, 3, 0x80, 0xBF⟩
  else if n = 0xF4 then some ⟨[b], 4, 3, 0x80, 0x8F⟩
  else none

/-- A part of some bytes. -/
inductive Chunk where
  /-- A letter that they spell. -/
  | letter (c : Letter)
  /-- The longest start of a character that is not completed. -/
  | spoiled (bytes : List UInt8)
  deriving DecidableEq, Repr

/-- A byte between characters: the chunks that it completes, and the character that it
starts. -/
def startWith (b : UInt8) : List Chunk × Option Opened :=
  if b.toNat < 0x80 then ([.letter (.ofNat b.toNat)], none)
  else match Opened.ofFirst? b with
    | some start => ([], some start)
    | none => ([.spoiled [b]], none)

/-- A byte within a character.  One that may not come next starts anew. -/
def Opened.add (start : Opened) (b : UInt8) : List Chunk × Option Opened :=
  if start.least ≤ b.toNat && b.toNat ≤ start.greatest then
    let value := start.value * 0x40 + (b.toNat - 0x80)
    if start.owed ≤ 1 then ([.letter (.ofNat value)], none)
    else ([], some ⟨start.bytes ++ [b], value, start.owed - 1, 0x80, 0xBF⟩)
  else
    let (chunks, next) := startWith b
    (.spoiled start.bytes :: chunks, next)

/-- The chunks of bytes behind the start of a character. -/
def chunksFrom : Option Opened → List UInt8 → List Chunk
  | none, [] => []
  | some start, [] => [.spoiled start.bytes]
  | opened, b :: rest =>
      let (chunks, next) := match opened with
        | none => startWith b
        | some start => start.add b
      chunks ++ chunksFrom next rest

/-- The chunks of bytes. -/
def chunks (bytes : List UInt8) : List Chunk := chunksFrom none bytes

/-- The letters of a chunk, where spoiled bytes have letters as well. -/
def Chunk.letters (spoiled : List UInt8 → Text) : Chunk → Text
  | .letter c => [c]
  | .spoiled bytes => spoiled bytes

/-! ## Texts -/

/-- What is wrong with spoiled bytes. -/
inductive ByteFault where
  /-- No character starts with the first one. -/
  | start
  /-- Another byte than one that goes on with the character follows. -/
  | continuation
  /-- Nothing follows. -/
  | ending
  deriving DecidableEq, Repr

/-- The text of a byte fault. -/
def ByteFault.message : ByteFault → String
  | .start => "invalid start byte"
  | .continuation => "invalid continuation byte"
  | .ending => "unexpected end of data"

/-- What is wrong with spoiled bytes, with or without others behind them. -/
def ByteFault.of (bytes : List UInt8) (last : Bool) : ByteFault :=
  if (bytes.head?.bind Opened.ofFirst?).isNone then .start
  else if last then .ending else .continuation

/-- Why bytes spell no text: the ones that are spoiled first. -/
structure DecodeError where
  position : Nat
  bytes : List UInt8
  fault : ByteFault
  deriving DecidableEq, Repr

/-- The text of a decode error. -/
def DecodeError.message (e : DecodeError) : String :=
  let last := e.position + e.bytes.length - 1
  let what := match e.bytes with
    | [b] => s!"byte 0x{String.ofList (hexDigits 2 b.toNat)} in position {e.position}"
    | _ => s!"bytes in position {e.position}-{last}"
  s!"'utf-8' codec can't decode {what}: {e.fault.message}"

/-- The number of bytes that spell a letter. -/
def byteCount (c : Letter) : Nat :=
  if c.toNat < 0x80 then 1
  else if c.toNat < 0x800 then 2
  else if c.toNat < 0x10000 then 3
  else 4

/-- The text of chunks behind so many bytes, none of which may be spoiled. -/
def ofChunks (position : Nat) : List Chunk → Except DecodeError Text
  | [] => .ok []
  | .letter c :: rest => do
      let t ← ofChunks (position + byteCount c) rest
      return c :: t
  | .spoiled bytes :: rest => .error ⟨position, bytes, .of bytes rest.isEmpty⟩

/-- The text that bytes spell. -/
def decode (bytes : List UInt8) : Except DecodeError Text := ofChunks 0 (chunks bytes)

/-! ## Surrogates -/

/-- The surrogate that three bytes spell as they would spell a character of its number. -/
def surrogate? (a b c : UInt8) : Option Letter :=
  if a = 0xED ∧ 0xA0 ≤ b ∧ b ≤ 0xBF ∧ 0x80 ≤ c ∧ c ≤ 0xBF then
    some (.ofNat (0xD000 + (b.toNat - 0x80) * 0x40 + (c.toNat - 0x80)))
  else none

/-- Chunks with surrogates in place of the spoiled bytes that spell them. -/
def passSurrogates : List Chunk → List Chunk
  | .spoiled [a] :: .spoiled [b] :: .spoiled [c] :: rest =>
      match surrogate? a b c with
      | some half => .letter half :: passSurrogates rest
      | none => .spoiled [a] :: passSurrogates (.spoiled [b] :: .spoiled [c] :: rest)
  | chunk :: rest => chunk :: passSurrogates rest
  | [] => []

/-- The text that bytes spell in which surrogates may stand. -/
def decodePassing (bytes : List UInt8) : Except DecodeError Text :=
  ofChunks 0 (passSurrogates (chunks bytes))

end MountainRange.Text
