import MountainRange.Digest
import MountainRange.Text.Blank
import MountainRange.Value.Quoted
set_option autoImplicit false

/-!
# Numbers and digests as text

Data files and messages spell numbers either in base ten or, behind `0x`, in base
sixteen.  A hexadecimal text is normal if its digits are small and even in number.
-/

namespace MountainRange

/-- Why a value spells no number. -/
inductive FieldError where
  /-- There are no digits behind `0x`, or something else among them. -/
  | badHex (text : Text)
  /-- A hexadecimal text is not as long as asked for. -/
  | byteCount (expected : Value) (got : Nat)
  /-- A truth value is no number. -/
  | boolean
  /-- The value is neither a number nor a text. -/
  | kind (kind : Kind)
  /-- A text is made up of other characters than digits. -/
  | notDigits (text : Text)
  /-- The digits of a text make no numeral. -/
  | numeral (error : Text.NumeralError)
  /-- A value is no natural in base ten. -/
  | notNatural (v : Value)
  /-- The number is no digest of the scheme. -/
  | digest (error : DigestError)
  deriving Repr

/-- The text of a field error. -/
def FieldError.message : FieldError → Text
  | .badHex text => "Invalid hex string: " ++ text
  | .byteCount expected got => "Expected " ++ expected.shown ++ s!" bytes, got {got} bytes"
  | .boolean => "Boolean is not a field value"
  | .kind k => s!"Unsupported field value type: {k.label}"
  | .notDigits text => "Invalid field value: " ++ Text.quoted text
  | .numeral error => error.message
  | .notNatural v => "Failed to parse felt252: " ++ v.quoted
  | .digest error => error.message

namespace FieldText

/-! ## Base sixteen -/

/-- The digits behind `0x`, if the text starts with that. -/
def afterMark : Text → Option Text
  | .char '0' :: .char 'x' :: digits => some digits
  | _ => none

/-- Whether a text is `0x` and at least one digit. -/
def isHex (text : Text) : Bool :=
  match afterMark text with
  | some (c :: rest) => (c :: rest).all Text.isHexDigit
  | _ => false

/-- Digits with a zero in front if they are odd in number. -/
def evenDigits (digits : Text) : Text :=
  if digits.length % 2 = 1 then '0' :: digits else digits

/-- A Latin letter in small form. -/
def smallLetter : Letter → Letter
  | .char c => .char c.toLower
  | c => c

/-- The digits of a hexadecimal text, small and even in number. -/
def normalDigits (digits : Text) : Except FieldError Text :=
  if isHex ('0' :: 'x' :: digits) then .ok ((evenDigits digits).map smallLetter)
  else .error (.badHex ('0' :: 'x' :: digits))

/-- The normal form of a text; one that is not marked as hexadecimal stays as it is. -/
def normalize (text : Text) : Except FieldError Text :=
  match afterMark text with
  | none => .ok text
  | some digits => (normalDigits digits).map fun digits => '0' :: 'x' :: digits

/-- Checks the number of bytes of a normal form, if one is asked for. -/
def checkLength (expected : Option Value) (digits : Text) : Except FieldError Unit :=
  match expected with
  | none => .ok ()
  | some expected =>
      let got := digits.length / 2
      if expected.same (.int got) then .ok () else .error (.byteCount expected got)

/-- The normal form of any value, with as many bytes as asked for. -/
def normalizeValue (v : Value) (expected : Option Value) : Except FieldError Value :=
  match v with
  | .text t =>
      match afterMark t with
      | none => .ok v
      | some digits => do
          let digits ← normalDigits digits
          checkLength expected digits
          return .text ('0' :: 'x' :: digits)
  | v => .ok v

/-! ## Numbers -/

/-- The number that a text spells. -/
def parseText (t : Text) : Except FieldError Int :=
  let text := Text.trim t
  match afterMark text with
  | some digits => (normalDigits digits).map fun digits => Text.hexValue digits
  | none =>
      if text.isEmpty || !text.all Text.isDigit then .error (.notDigits t)
      else (Text.readInt text).mapError .numeral

/-- The number that a value is or spells. -/
def parse : Value → Except FieldError Int
  | .int n => .ok n
  | .text t => parseText t
  | .bool _ => .error .boolean
  | v => .error (.kind v.kind)

/-- The wide digest that a value spells. -/
def parseWide (v : Value) : Except FieldError WideDigest := do
  (WideDigest.ofInt? (← parse v)).mapError .digest

/-- The compact digest that a value spells. -/
def parseCompact (v : Value) : Except FieldError CompactDigest := do
  (CompactDigest.ofInt? (← parse v)).mapError .digest

/-- A natural in base ten as at least 64 hexadecimal digits. -/
def feltToHex (v : Value) : Except FieldError String :=
  match v with
  | .text t =>
      match Text.readInt t with
      | .ok n =>
          if n < 0 then .error (.notNatural v)
          else .ok (String.ofList (Text.hexPadded 64 n.toNat))
      | .error _ => .error (.notNatural v)
  | v => .error (.notNatural v)

end FieldText

end MountainRange
