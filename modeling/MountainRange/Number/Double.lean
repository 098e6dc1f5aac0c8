set_option autoImplicit false

/-!
# Double-precision numbers

A double is kept as its exact value, a mantissa times a power of two, so that
reading, comparing and writing are arithmetic on naturals.  Reading a decimal
rounds to the nearest double, a tie to the even mantissa; writing takes the
fewest digits that read back.
-/

namespace MountainRange.Number

/-- The pairs that name a finite magnitude `mantissa * 2 ^ exponent` in the one
way a double stores it: 53 bits, the first of them set unless the exponent is the
least one. -/
def Canonical (mantissa : Nat) (exponent : Int) : Prop :=
  mantissa < 1 <<< 53 ∧ -1074 ≤ exponent ∧ exponent ≤ 971 ∧
    (1 <<< 52 ≤ mantissa ∨ exponent = -1074)

instance (mantissa : Nat) (exponent : Int) : Decidable (Canonical mantissa exponent) :=
  inferInstanceAs (Decidable (_ ∧ _ ∧ _ ∧ _))

/-- A double-precision number. -/
inductive Double where
  | nan
  | infinity (negative : Bool)
  | finite (negative : Bool) (mantissa : Nat) (exponent : Int)
      (canonical : Canonical mantissa exponent)
  deriving DecidableEq, Repr

/-- Number of binary digits. -/
def bitLength (n : Nat) : Nat := if n = 0 then 0 else n.log2 + 1

/-- Number of decimal digits; zero has one. -/
def decimalLength (n : Nat) : Nat := (Nat.toDigits 10 n).length

/-- The natural nearest to `num / den`; a tie goes to the even one. -/
def roundDiv (num den : Nat) : Nat :=
  let q := num / den
  let r := num % den
  if 2 * r < den then q
  else if den < 2 * r then q + 1
  else if q % 2 = 0 then q else q + 1

/-- Numerator and denominator of `n * base ^ exponent`. -/
def scaled (n base : Nat) (exponent : Int) : Nat × Nat :=
  (n * Nat.pow base exponent.toNat, Nat.pow base (-exponent).toNat)

namespace Double

instance : Inhabited Double := ⟨.nan⟩

/-! ## Reading -/

/-- The double of a mantissa and exponent in stored form; infinite past the
greatest one. -/
def ofParts (negative : Bool) (mantissa : Nat) (exponent : Int) : Double :=
  if h : Canonical mantissa exponent then .finite negative mantissa exponent h
  else .infinity negative

/-- Zero with a sign. -/
def zero (negative : Bool) : Double := ofParts negative 0 (-1074)

/-- The exponent at which `num / den` has a 53-bit integer part, or the least one. -/
def storedExponent (num den : Nat) : Int :=
  let guess : Int := (bitLength num : Int) - bitLength den - 53
  let units (e : Int) : Nat := num <<< (-e).toNat / den <<< e.toNat
  max (if units guess < 1 <<< 53 then guess else guess + 1) (-1074)

/-- The double nearest to `num / den`. -/
def ofRatio (negative : Bool) (num den : Nat) : Double :=
  if num = 0 then zero negative
  else
    let e := storedExponent num den
    let m := roundDiv (num <<< (-e).toNat) (den <<< e.toNat)
    if m = 1 <<< 53 then ofParts negative (1 <<< 52) (e + 1) else ofParts negative m e

/-- The double nearest to `digits * 10 ^ exponent`. -/
def ofDecimal (negative : Bool) (digits : Nat) (exponent : Int) : Double :=
  let magnitude : Int := decimalLength digits + exponent
  if digits = 0 ∨ magnitude < -330 then zero negative
  else if 310 < magnitude then .infinity negative
  else
    let r := scaled digits 10 exponent
    ofRatio negative r.1 r.2

/-! ## Integers -/

/-- Puts a sign on a magnitude. -/
def signed (negative : Bool) (n : Nat) : Int := if negative then -(n : Int) else n

/-- The integer that a double is equal to, if it is one. -/
def toInt? : Double → Option Int
  | .nan => none
  | .infinity _ => none
  | .finite negative m e _ =>
      let r := scaled m 2 e
      if r.1 % r.2 = 0 then some (signed negative (r.1 / r.2)) else none

/-- The least integer that is not below a finite double. -/
def ceiling? : Double → Option Int
  | .nan => none
  | .infinity _ => none
  | .finite negative m e _ =>
      let r := scaled m 2 e
      some (-(-signed negative r.1 / r.2))

/-- Whether a double is greater than an integer. -/
def isAbove (x : Double) (n : Int) : Bool :=
  match x with
  | .nan => false
  | .infinity negative => !negative
  | .finite negative m e _ =>
      let r := scaled m 2 e
      n * r.2 < signed negative r.1

/-- Whether a double is below zero. -/
def isNegative : Double → Bool
  | .nan => false
  | .infinity negative => negative
  | .finite negative m _ _ => negative && m != 0

/-! ## Writing -/

/-- A decimal `digits * 10 ^ exponent`. -/
structure Decimal where
  digits : Nat
  exponent : Int
  deriving DecidableEq, Repr, Inhabited

/-- The position of the first digit of `num / den` before the point, for a
positive ratio above `10 ^ -340`. -/
def leadingPosition (num den : Nat) : Int :=
  (decimalLength (num * Nat.pow 10 340 / den) : Int) - 340

/-- The two neighbours of `num / den` among the multiples of `10 ^ unit`, nearer
one first. -/
def neighbours (num den : Nat) (unit : Int) : List Nat :=
  let n := num * Nat.pow 10 (-unit).toNat
  let d := den * Nat.pow 10 unit.toNat
  let below := n / d
  if roundDiv n d = below then [below, below + 1] else [below + 1, below]

/-- A decimal of `count` significant digits that reads back, the nearest such. -/
def withDigits? (x : Double) (negative : Bool) (num den : Nat) (count : Nat) : Option Decimal :=
  let unit := leadingPosition num den - count
  ((neighbours num den unit).find? fun c => ofDecimal negative c unit = x).map (⟨·, unit⟩)

/-- The exact decimal of `mantissa * 2 ^ exponent`. -/
def exactDecimal (mantissa : Nat) (exponent : Int) : Decimal :=
  ⟨mantissa <<< exponent.toNat * Nat.pow 5 (-exponent).toNat, min exponent 0⟩

/-- The decimal of fewest digits that reads back as `± mantissa * 2 ^ exponent`. -/
def shortest (x : Double) (negative : Bool) (mantissa : Nat) (exponent : Int) : Decimal :=
  if mantissa = 0 then ⟨0, 0⟩
  else
    let r := scaled mantissa 2 exponent
    ((List.range 17).findSome? fun k => withDigits? x negative r.1 r.2 (k + 1)).getD
      (exactDecimal mantissa exponent)

/-- The words for what is no finite number. -/
structure Words where
  nan : String
  infinity : String
  deriving DecidableEq, Repr

/-- The digits of a decimal without trailing zeros, and the place of the point
counted from the first of them. -/
def significand (d : Decimal) : List Char × Int :=
  let all := Nat.toDigits 10 d.digits
  let kept := (all.reverse.dropWhile (· == '0')).reverse
  (if kept.isEmpty then ['0'] else kept, all.length + d.exponent)

/-- Positional digits while the point stands at most sixteen places behind the
first digit and at most three zeros stand between them; else one digit, the point,
and an exponent with its sign and at least two digits. -/
def layout (digits : List Char) (point : Int) : List Char :=
  if -4 < point ∧ point ≤ 16 then
    if point ≤ 0 then
      '0' :: '.' :: List.replicate (-point).toNat '0' ++ digits
    else if (digits.length : Int) ≤ point then
      digits ++ List.replicate (point.toNat - digits.length) '0' ++ ['.', '0']
    else digits.take point.toNat ++ '.' :: digits.drop point.toNat
  else
    let e := point - 1
    let size := Nat.toDigits 10 e.natAbs
    let fraction := if digits.length ≤ 1 then [] else '.' :: digits.drop 1
    digits.take 1 ++ fraction ++ ['e', if e < 0 then '-' else '+'] ++
      (if size.length < 2 then '0' :: size else size)

/-- The text of a double. -/
def text (words : Words) : Double → String
  | .nan => words.nan
  | .infinity negative => (if negative then "-" else "") ++ words.infinity
  | .finite negative m e h =>
      let (digits, point) :=
        if m = 0 then (['0'], 1) else significand (shortest (.finite negative m e h) negative m e)
      (if negative then "-" else "") ++ String.ofList (layout digits point)

end Double

end MountainRange.Number
