import MountainRange.Bytes
import MountainRange.Field
import MountainRange.Value
import MountainRange.Text.Hex
import MountainRange.Text.Numeral
set_option autoImplicit false

/-!
# Digests

Two forms of digest stand side by side and are never mixed within one proof.  A
wide digest is a 256-bit value carried as two 128-bit limbs; a compact digest is
one field element.  Both are built from unchecked values by functions that name
what is wrong with them, and each has the codecs that the rest of the library
uses: an integer, a list of fields, and hexadecimal text.
-/

namespace MountainRange

/-- Half of the values of a wide digest: the bound of a limb. -/
def limbBound : Nat := 1 <<< 128

theorem limbBound_pos : 0 < limbBound := by decide

instance : @NeZero Nat Zero.ofOfNat0 limbBound := ⟨by decide⟩

/-- Half a wide digest. -/
abbrev Limb := Fin limbBound

/-- The limb that a number of 64 bits is. -/
def Limb.ofWord (n : UInt64) : Limb := ⟨n.toNat, Nat.lt_trans n.toNat_lt (by decide)⟩

/-- The two halves of a wide digest. -/
inductive Half where
  | high
  | low
  deriving DecidableEq, Repr, Inhabited

/-- The word for a half in messages. -/
def Half.label : Half → String
  | .high => "high"
  | .low => "low"

/-- A 256-bit digest as two 128-bit limbs. -/
structure WideDigest where
  high : Limb
  low : Limb
  deriving DecidableEq, Repr, Inhabited

/-- A digest that is one field element. -/
structure CompactDigest where
  value : Felt
  deriving DecidableEq, Repr, Inhabited

/-! ## Errors -/

/-- Why no digest was built. -/
inductive DigestError where
  /-- A limb is of the wrong kind. -/
  | limbKind (half : Half) (kind : Kind)
  /-- A limb does not fit in 128 bits. -/
  | limbRange (half : Half) (n : Int)
  /-- A field element is of the wrong kind. -/
  | elementKind (kind : Kind)
  /-- An integer is no least representative of a field element. -/
  | elementRange (n : Int)
  /-- A number does not fit in 256 bits. -/
  | tooWide (n : Int)
  /-- A negative fraction does not fit in 256 bits. -/
  | negativeFloat (x : Number.Double)
  /-- A byte string is not 32 bytes long. -/
  | byteCount (n : Nat)
  /-- A sequence of fields is too short. -/
  | tooFewFields (expected got : Nat)
  /-- A sequence of fields is too long. -/
  | tooManyFields (expected : Nat)
  /-- A value cannot be compared with a number, or cannot be split. -/
  | notInteger (kind : Kind)
  /-- A value is no sequence. -/
  | notSequence (kind : Kind)
  deriving DecidableEq, Repr

open Text.Numeral in
/-- The text of a digest error. -/
def DigestError.message : DigestError → String
  | .limbKind half kind => s!"{half.label} limb must be an integer, got {kind.label}"
  | .limbRange half n =>
      shown n fun digits => s!"{half.label} limb out of range for 128 bits: {digits}"
  | .elementKind kind => s!"Field element must be an integer, got {kind.label}"
  | .elementRange n => shown n fun digits => s!"Value is not a STARK field element: {digits}"
  | .tooWide n => shown n fun digits => s!"Value does not fit in 256 bits: {digits}"
  | .negativeFloat x => "Value does not fit in 256 bits: " ++ x.text ⟨"nan", "inf"⟩
  | .byteCount n => s!"Expected 32 bytes, got {n}"
  | .tooFewFields expected got =>
      s!"not enough values to unpack (expected {expected}, got {got})"
  | .tooManyFields expected => s!"too many values to unpack (expected {expected})"
  | .notInteger kind => s!"an integer is required, got {kind.label}"
  | .notSequence kind => s!"a sequence is required, got {kind.label}"

/-- The values of a sequence of exactly `count` fields. -/
def fieldsOf? (count : Nat) (v : Value) : Except DigestError (List Value) :=
  match v.iterate? with
  | none => .error (.notSequence v.kind)
  | some items =>
      if items.length < count then .error (.tooFewFields count items.length)
      else if count < items.length then .error (.tooManyFields count)
      else .ok items

/-! ## Wide digests -/

namespace WideDigest

/-- Checks a limb. -/
def limb? (half : Half) : Value → Except DigestError Limb
  | .int n =>
      match Number.below? limbBound n with
      | some limb => .ok limb
      | none => .error (.limbRange half n)
  | v => .error (.limbKind half v.kind)

/-- The digest of two limbs, the high one checked first. -/
def make? (high low : Value) : Except DigestError WideDigest := do
  let high ← limb? .high high
  let low ← limb? .low low
  return ⟨high, low⟩

/-- The digest whose limbs are zero. -/
def zero : WideDigest := ⟨0, 0⟩

/-- The number of which the limbs are the upper and lower half. -/
def toNat (d : WideDigest) : Nat := d.high.val * limbBound + d.low.val

/-- The digest of a 256-bit number. -/
def ofNat (n : Nat) (h : n < limbBound * limbBound) : WideDigest :=
  ⟨⟨n / limbBound, Nat.div_lt_of_lt_mul h⟩, ⟨n % limbBound, Nat.mod_lt _ limbBound_pos⟩⟩

/-- The digest of an integer, if it fits. -/
def ofInt? (n : Int) : Except DigestError WideDigest :=
  if h : 0 ≤ n ∧ n < limbBound * limbBound then .ok (ofNat n.toNat (by omega))
  else .error (.tooWide n)

/-- The digest of a value that counts as an integer. -/
def ofValue? : Value → Except DigestError WideDigest
  | .int n => ofInt? n
  | .bool b => ofInt? b.toInt
  | .float x => .error (if x.isNegative then .negativeFloat x else .notInteger .float)
  | v => .error (.notInteger v.kind)

/-- The digest of a sequence of two limbs. -/
def ofFields? (v : Value) : Except DigestError WideDigest := do
  match ← fieldsOf? 2 v with
  | [high, low] => make? high low
  | items => .error (.tooFewFields 2 items.length)

/-- The 32 bytes of a digest, the high limb first. -/
def toBytes (d : WideDigest) : List UInt8 := Bytes.ofNat 32 d.toNat

/-- The digest of 32 bytes. -/
def ofBytes? (bytes : List UInt8) : Except DigestError WideDigest :=
  if h : bytes.length = 32 then
    .ok (ofNat (Bytes.toNat bytes) (by
      have := Bytes.toNat_lt bytes
      rw [h] at this
      exact this))
  else .error (.byteCount bytes.length)

/-- The digest of the output of a hash function. -/
def ofHash (bytes : Vector UInt8 32) : WideDigest :=
  ofNat (Bytes.toNat bytes.toList) (by
    have := Bytes.toNat_lt bytes.toList
    rw [Vector.length_toList] at this
    exact this)

/-- The limbs, high one first. -/
def fields (d : WideDigest) : List Nat := [d.high.val, d.low.val]

/-- The digest as text. -/
def hex (d : WideDigest) : String := "0x" ++ String.ofList (Text.hexDigits 64 d.toNat)

end WideDigest

/-! ## Compact digests -/

namespace CompactDigest

/-- The digest that is zero. -/
def zero : CompactDigest := ⟨0⟩

/-- The number that represents the element. -/
def toNat (d : CompactDigest) : Nat := d.value.val

/-- The digest of an integer, if it represents an element. -/
def ofInt? (n : Int) : Except DigestError CompactDigest :=
  match Felt.ofInt? n with
  | some x => .ok ⟨x⟩
  | none => .error (.elementRange n)

/-- The digest of a value that is an integer. -/
def ofValue? : Value → Except DigestError CompactDigest
  | .int n => ofInt? n
  | v => .error (.elementKind v.kind)

/-- The digest of a sequence of one field. -/
def ofFields? (v : Value) : Except DigestError CompactDigest := do
  match ← fieldsOf? 1 v with
  | [value] => ofValue? value
  | items => .error (.tooFewFields 1 items.length)

/-- The one field. -/
def fields (d : CompactDigest) : List Nat := [d.value.val]

/-- The digest as text. -/
def hex (d : CompactDigest) : String := "0x" ++ String.ofList (Text.hexDigits 64 d.toNat)

end CompactDigest

/-! ## Both forms -/

/-- A digest of either form. -/
inductive Digest where
  | wide (d : WideDigest)
  | compact (d : CompactDigest)
  deriving DecidableEq, Repr

namespace Digest

/-- The number of a digest. -/
def toNat : Digest → Nat
  | .wide d => d.toNat
  | .compact d => d.toNat

/-- The fields of a digest. -/
def fields : Digest → List Nat
  | .wide d => d.fields
  | .compact d => d.fields

/-- The digest as text. -/
def hex : Digest → String
  | .wide d => d.hex
  | .compact d => d.hex

/-- The form of a digest. -/
def kind : Digest → Kind
  | .wide _ => .wideDigest
  | .compact _ => .compactDigest

end Digest

/-- What may stand where a digest belongs: a digest, or any other value. -/
inductive Operand where
  | digest (d : Digest)
  | other (v : Value)
  deriving Repr

namespace Operand

/-- What an operand is. -/
def kind : Operand → Kind
  | .digest d => d.kind
  | .other v => v.kind

/-- Equality of operands: digests by form and value. -/
def same : Operand → Operand → Bool
  | .digest d, .digest e => d = e
  | .other v, .other w => v.same w
  | _, _ => false

end Operand

end MountainRange
