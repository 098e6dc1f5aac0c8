set_option autoImplicit false

/-!
# Letters and texts

A text is a sequence of letters.  Most letters are characters.  A character beyond the
first 65536 may be spelled as two halves, its surrogates, and an escape can also spell
one of them alone; that is no character, but still a letter.  Every letter has a number,
and no two have the same.
-/

namespace MountainRange

/-- Whether a number is that of a surrogate. -/
def IsSurrogate (n : Nat) : Prop := 0xD800 ≤ n ∧ n < 0xE000

instance (n : Nat) : Decidable (IsSurrogate n) := inferInstanceAs (Decidable (_ ∧ _))

/-- A half of a character, which stands for nothing alone. -/
abbrev Surrogate : Type := { n : Nat // IsSurrogate n }

/-- What a text is made up of. -/
inductive Letter where
  | char (c : Char)
  | surrogate (s : Surrogate)
  deriving DecidableEq, Repr

/-- A text. -/
abbrev Text : Type := List Letter

namespace Letter

instance : Inhabited Letter := ⟨.char ' '⟩

instance : Coe Char Letter := ⟨.char⟩

/-- The number of a letter. -/
def toNat : Letter → Nat
  | .char c => c.toNat
  | .surrogate s => s.val

/-- The letter of a number. -/
def ofNat (n : Nat) : Letter :=
  if h : IsSurrogate n then .surrogate ⟨n, h⟩ else .char (Char.ofNat n)

theorem toNat_ofNat {n : Nat} (h : n < 0x110000) : (ofNat n).toNat = n := by
  unfold ofNat
  split
  · rfl
  · next hs =>
    have hv : n.isValidChar := by
      simp only [IsSurrogate] at hs
      simp only [Nat.isValidChar]
      omega
    simp only [toNat]
    rw [Char.ofNat, dif_pos hv]
    rfl

/-- A character has the number of no surrogate. -/
theorem not_isSurrogate_toNat (c : Char) : ¬IsSurrogate c.toNat := by
  have hc := c.valid
  simp only [UInt32.isValidChar, Nat.isValidChar] at hc
  have hval : c.toNat = c.val.toNat := rfl
  simp only [IsSurrogate]
  omega

theorem ofNat_toNat (c : Letter) : ofNat c.toNat = c := by
  cases c with
  | surrogate s => simp [toNat, ofNat, s.property]
  | char c => simp [toNat, ofNat, not_isSurrogate_toNat c]

theorem toNat_lt (c : Letter) : c.toNat < 0x110000 := by
  rcases c with c | s
  · have hc := c.valid
    simp only [UInt32.isValidChar, Nat.isValidChar] at hc
    have hval : c.toNat = c.val.toNat := rfl
    simp only [toNat]
    omega
  · have hs := s.property.2
    simp only [toNat]
    omega

/-- Letters are ordered by their numbers. -/
instance : LE Letter := ⟨fun a b => a.toNat ≤ b.toNat⟩

instance (a b : Letter) : Decidable (a ≤ b) := inferInstanceAs (Decidable (a.toNat ≤ b.toNat))

/-- The character that a letter is, if it is one. -/
def char? : Letter → Option Char
  | .char c => some c
  | .surrogate _ => none

/-- Whether a letter is a character of some class. -/
def isChar (p : Char → Bool) (c : Letter) : Bool := c.char?.any p

/-- Whether a letter is a digit among the first 128 characters. -/
def isDigit (c : Letter) : Bool := c.isChar Char.isDigit

/-- Whether a letter is a Latin one among the first 128 characters. -/
def isAlpha (c : Letter) : Bool := c.isChar Char.isAlpha

/-- Whether a letter is a Latin one or a digit among the first 128 characters. -/
def isAlphanum (c : Letter) : Bool := c.isChar Char.isAlphanum

end Letter

namespace Text

/-- The text of some characters. -/
def ofChars (cs : List Char) : Text := cs.map .char

/-- The text of a string. -/
def of (s : String) : Text := ofChars s.toList

instance : Coe String Text := ⟨of⟩

/-- Texts with another one between every two of them. -/
def join (between : Text) (parts : List Text) : Text := between.intercalate parts

/-- A text behind some spaces. -/
def indent (t : Text) (spaces : Nat) : Text := List.replicate spaces (.char ' ') ++ t

/-- Lines, each with a line feed behind it. -/
def unlines (lines : List Text) : Text := lines.flatMap (· ++ "\n")

/-- The mark in place of what is no character. -/
def replacement : Char := Char.ofNat 0xFFFD

/-- The bytes of a text, with a mark in place of every surrogate. -/
def toBytes (t : Text) : List UInt8 :=
  (String.ofList (t.map fun c => c.char?.getD replacement)).toUTF8.toList

end Text

end MountainRange
