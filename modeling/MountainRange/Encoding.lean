import MountainRange.Inclusion
import MountainRange.Number.Quantity
import MountainRange.Text.Numeral
set_option autoImplicit false

/-!
# Encoded requests

A request travels as a flat sequence of slots, each a field element:

    mode, root, leaf, leaf index, size,
    number of siblings, siblings, number of peaks, peaks

A wide digest takes two slots, the high limb first, and a compact digest one.  The
decoder reads one part after the other and checks every count against what is left,
so a sequence is either one whole request or none.
-/

namespace MountainRange.Encoding

open Number (Quantity)

/-- Greatest number of siblings that a sequence may hold. -/
def maxSiblings : Nat := 64

/-- Greatest number of peaks that a sequence may hold. -/
def maxPeaks : Nat := 64

/-- Number of slots before the siblings, for digests of some width. -/
def headerLength (width : Int) : Int := 1 + 2 * width + 3

/-- Number of slots of a request without siblings and peaks. -/
def minimumLength (width : Int) : Int := headerLength width + 1

/-- Number of slots before the siblings, for a width of any kind. -/
def headerLengthAt (width : Quantity) : Quantity := (width.twice.plus 1).plus 3

/-- Number of slots of a request without siblings and peaks, for a width of any kind. -/
def minimumLengthAt (width : Quantity) : Quantity := (headerLengthAt width).plus 1

/-! ## Errors -/

/-- A digest of a request. -/
inductive Part where
  | root
  | leaf
  | sibling (i : Nat)
  | peak (i : Nat)
  deriving DecidableEq, Repr

/-- The word for a digest in messages. -/
def Part.label : Part → String
  | .root => "root"
  | .leaf => "leaf"
  | .sibling i => s!"sibling {i}"
  | .peak i => s!"peak {i}"

/-- A counted list of a request. -/
inductive Counted where
  | siblings
  | peaks
  deriving DecidableEq, Repr

/-- The word for a count in messages. -/
def Counted.label : Counted → String
  | .siblings => "sibling_count"
  | .peaks => "peak_count"

/-- The greatest count. -/
def Counted.limit : Counted → Nat
  | .siblings => maxSiblings
  | .peaks => maxPeaks

/-- Why a sequence is no request. -/
inductive DecodeError where
  /-- A slot is of the wrong kind. -/
  | slotKind (position : Nat) (kind : Kind)
  /-- A slot is no field element. -/
  | slotRange (position : Nat) (n : Int)
  /-- A slot was given as a text that spells no integer. -/
  | slotText (message : Text)
  /-- There are no slots. -/
  | empty
  /-- The first slot is no mode. -/
  | unknownMode (n : Nat)
  /-- There are fewer slots than a request has. -/
  | tooShort (got : Nat) (minimum : Int) (mode : Mode)
  /-- The sequence ends inside a part. -/
  | truncated (what : String) (needed left : Nat)
  /-- A limb of a digest has more than 128 bits. -/
  | limbOverflow (part : Part) (limb : Nat)
  /-- A number has more than 64 bits. -/
  | wordOverflow (name : String) (n : Nat)
  /-- A count is above its limit. -/
  | countLimit (counted : Counted) (n : Nat)
  /-- There is no room for the siblings and another count. -/
  | siblingsShort (count needed left : Nat)
  /-- What is left is not exactly the peaks. -/
  | peaksLength (count needed left : Nat)
  deriving DecidableEq, Repr

/-- The text of a decode error. -/
def DecodeError.message : DecodeError → Text
  | .slotKind position kind => s!"Slot {position} is not an integer: {kind.label}"
  | .slotRange position n => s!"Slot {position} is not a field element: {n}"
  | .slotText message => message
  | .empty => "Empty request"
  | .unknownMode n => s!"Unknown mode: {n}"
  | .tooShort got minimum mode =>
      s!"Request of {got} slots is shorter than the minimum {minimum} for mode {mode.number}"
  | .truncated what needed left =>
      s!"Truncated request: {what} needs {needed} slots, {left} left"
  | .limbOverflow part limb => s!"{part.label} limb overflows 128 bits: {limb}"
  | .wordOverflow name n => s!"{name} overflows 64 bits: {n}"
  | .countLimit counted n => s!"{counted.label} {n} exceeds the limit of {counted.limit}"
  | .siblingsShort count needed left =>
      s!"{Counted.siblings.label} {count} needs {needed} more slots, {left} left"
  | .peaksLength count needed left =>
      s!"{Counted.peaks.label} {count} needs exactly {needed} slots, {left} left"

/-- What comes of unchecked input instead of a request. -/
inductive Refusal where
  /-- The input is no sequence. -/
  | notSequence (kind : Kind)
  /-- A slot is no field element, and too long to be named. -/
  | unwritable
  /-- The sequence is malformed. -/
  | malformed (error : DecodeError)
  deriving DecidableEq, Repr

/-- The text of a refusal. -/
def Refusal.message : Refusal → Text
  | .notSequence kind => s!"a sequence is required, got {kind.label}"
  | .unwritable => Text.Numeral.tooLongMessage
  | .malformed error => error.message

/-! ## Digests in slots -/

/-- Reads a part of a sequence, and hands back what follows it. -/
abbrev Step (α : Type) : Type := List Felt → Except DecodeError (α × List Felt)

/-- How digests of one form stand in slots. -/
structure Layout (D : Type) where
  mode : Mode
  width : Nat
  write : D → List Nat
  read : Part → Step D

/-- Checks a limb. -/
def limb? (part : Part) (slot : Felt) : Except DecodeError Limb :=
  if h : slot.val < limbBound then .ok ⟨slot.val, h⟩ else .error (.limbOverflow part slot.val)

/-- Wide digests take two slots, the high limb first. -/
def wideLayout : Layout WideDigest where
  mode := .wide
  width := 2
  write := WideDigest.fields
  read part
    | high :: low :: rest => do
        let high ← limb? part high
        let low ← limb? part low
        return (⟨high, low⟩, rest)
    | slots => .error (.truncated part.label 2 slots.length)

/-- Compact digests take one slot. -/
def compactLayout : Layout CompactDigest where
  mode := .compact
  width := 1
  write := CompactDigest.fields
  read part
    | value :: rest => .ok (⟨value⟩, rest)
    | slots => .error (.truncated part.label 1 slots.length)

/-! ## Writing -/

/-- The slots of a proof. -/
def encodeProof {D : Type} (layout : Layout D) (proof : Inclusion D) : List Nat :=
  layout.mode.number :: layout.write proof.root ++ layout.write proof.leaf ++
    [proof.leafIndex.toNat, proof.size.toNat, proof.siblings.length] ++
    proof.siblings.flatMap layout.write ++
    proof.peaks.length :: proof.peaks.flatMap layout.write

/-- The slots of a request. -/
def encode : Request → List Nat
  | .wide proof => encodeProof wideLayout proof
  | .compact proof => encodeProof compactLayout proof

/-! ## Reading -/

/-- Reads a number of 64 bits. -/
def readWord (name : String) : Step UInt64
  | slot :: rest =>
      if slot.val < UInt64.size then .ok (UInt64.ofNat slot.val, rest)
      else .error (.wordOverflow name slot.val)
  | [] => .error (.truncated name 1 0)

/-- Reads a count. -/
def readCount (counted : Counted) : Step Nat
  | slot :: rest =>
      if slot.val ≤ counted.limit then .ok (slot.val, rest)
      else .error (.countLimit counted slot.val)
  | [] => .error (.truncated counted.label 1 0)

/-- Reads digests, the first of which is number `i`. -/
def readDigests {D : Type} (layout : Layout D) (part : Nat → Part) : (i count : Nat) → Step (List D)
  | _, 0, slots => .ok ([], slots)
  | i, count + 1, slots => do
      let (digest, rest) ← layout.read (part i) slots
      let (digests, rest) ← readDigests layout part (i + 1) count rest
      return (digest :: digests, rest)

/-- Reads what follows the mode.  The siblings need room for the count behind them,
and the peaks all the room that is left. -/
def decodeProof {D : Type} (layout : Layout D) (slots : List Felt) :
    Except DecodeError (Inclusion D) := do
  let (root, rest) ← layout.read .root slots
  let (leaf, rest) ← layout.read .leaf rest
  let (leafIndex, rest) ← readWord leafIndexName rest
  let (size, rest) ← readWord sizeName rest
  let (siblingCount, rest) ← readCount .siblings rest
  let needed := siblingCount * layout.width + 1
  if rest.length < needed then throw (.siblingsShort siblingCount needed rest.length)
  let (siblings, rest) ← readDigests layout .sibling 0 siblingCount rest
  let (peakCount, rest) ← readCount .peaks rest
  let needed := peakCount * layout.width
  if rest.length ≠ needed then throw (.peaksLength peakCount needed rest.length)
  let (peaks, _) ← readDigests layout .peak 0 peakCount rest
  return { root, leaf, leafIndex, size, siblings, peaks }

/-- Reads what follows the mode, given that there are enough slots at all. -/
def decodeUnder {D : Type} (layout : Layout D) (slots : List Felt) :
    Except DecodeError (Inclusion D) :=
  let minimum := minimumLength layout.width
  let got := slots.length + 1
  if got < minimum then .error (.tooShort got minimum layout.mode)
  else decodeProof layout slots

/-- The request of a sequence of slots. -/
def decodeSlots : List Felt → Except DecodeError Request
  | [] => .error .empty
  | mode :: rest =>
      match Mode.ofNumber? mode.val with
      | none => .error (.unknownMode mode.val)
      | some .wide => .wide <$> decodeUnder wideLayout rest
      | some .compact => .compact <$> decodeUnder compactLayout rest

/-- Checks a slot. -/
def slot? (position : Nat) : Value → Except Refusal Felt
  | .int n =>
      match Felt.ofInt? n with
      | some x => .ok x
      | none =>
          .error (if (Text.Numeral.write? n).isSome then .malformed (.slotRange position n)
            else .unwritable)
  | v => .error (.malformed (.slotKind position v.kind))

/-- Checks the slots of a sequence, the first of which has some position. -/
def slots? : (position : Nat) → List Value → Except Refusal (List Felt)
  | _, [] => .ok []
  | position, v :: rest => do
      let slot ← slot? position v
      let slots ← slots? (position + 1) rest
      return slot :: slots

/-- The request of a sequence of unchecked values. -/
def decode (items : List Value) : Except Refusal Request := do
  (decodeSlots (← slots? 0 items)).mapError .malformed

/-- The request of an unchecked value, which has to be a sequence. -/
def decodeValue (v : Value) : Except Refusal Request :=
  match v.iterate? with
  | none => .error (.notSequence v.kind)
  | some items => decode items

/-- The slots of a request as unchecked values. -/
def encodeValues (r : Request) : List Value := (encode r).map fun n => .int (n : Nat)

end MountainRange.Encoding
