import MountainRange.Entries
import MountainRange.Markup.Emoji.Names
import MountainRange.Text.Hex
import MountainRange.Text.Lower
import MountainRange.Text.Split
set_option autoImplicit false

/-!
# Emoji by name

A name between colons stands for an emoji, in whatever case it is written.  It may be
followed by the way in which it is to be shown, as text or as a picture.  What names no
emoji is left as it is.
-/

namespace MountainRange.Markup.Emoji

/-! ## The table -/

/-- The characters of code points with a plus sign between two. -/
def charactersOf (codes : Text) : Text :=
  (Text.splitAt (· = '+') codes).map fun code => Letter.ofNat (Text.hexValue code)

/-- The names of a list and what they stand for. -/
def entriesOf : List Text → List (Text × Text)
  | name :: codes :: rest => (name, charactersOf codes) :: entriesOf rest
  | _ => []

/-- The names that stand for one picture. -/
def plainEntries : List (Text × Text) := entriesOf (Text.splitBlanks plainNames)

/-- The names that also have variants with a tone of skin. -/
def tonedEntries : List (Text × Text) := entriesOf (Text.splitBlanks tonedNames)

/-- The tones of skin: how a name ends that asks for one, and the character that gives
it. -/
def tones : List (Text × Letter) :=
  [("_light_skin_tone", .ofNat 0x1F3FB), ("_medium-light_skin_tone", .ofNat 0x1F3FC),
   ("_medium_skin_tone", .ofNat 0x1F3FD), ("_medium-dark_skin_tone", .ofNat 0x1F3FE),
   ("_dark_skin_tone", .ofNat 0x1F3FF)]

/-- The text in front of an ending, if it has that. -/
def dropEnding? (ending t : Text) : Option Text :=
  if ending.isSuffixOf t then some (t.take (t.length - ending.length)) else none

/-- The mark that asks for the picture of a character. -/
def pictureMark : Letter := .ofNat 0xFE0F

/-- The mark that asks for a character as text. -/
def textMark : Letter := .ofNat 0xFE0E

/-- An emoji with a tone behind its first character, which then needs no mark. -/
def withTone (tone : Letter) : Text → Text
  | [] => []
  | c :: rest => c :: tone :: (if rest.head? = some pictureMark then rest.drop 1 else rest)

/-- The emoji that a name with a tone stands for. -/
def toned? (name : Text) : Option Text :=
  tones.findSome? fun (ending, tone) => do
    let base ← dropEnding? ending name
    let emoji ← Entries.get? tonedEntries base
    return withTone tone emoji

/-- The emoji that a name in small letters stands for. -/
def ofName? (name : Text) : Option Text :=
  (Entries.get? plainEntries name).or ((Entries.get? tonedEntries name).or (toned? name))

/-! ## Texts -/

/-- A name without the ending that asks for a way of showing it, and the mark for that. -/
def splitVariant (name : Text) : Text × Text :=
  match dropEnding? "-emoji" name, dropEnding? "-text" name with
  | some base, _ => (base, [pictureMark])
  | none, some base => (base, [textMark])
  | none, none => (name, [])

/-- What stands between two colons: an emoji, if it names one. -/
def ofCode? (code : Text) : Option Text :=
  let (name, mark) := splitVariant code
  (ofName? (Text.lower name)).map (· ++ mark)

/-- A text with emoji in place of their names.  `code` is what was read behind the last
colon, if that may open a name. -/
def replaceFrom (code : Option Text) : Text → Text
  | [] =>
      match code with
      | none => []
      | some code => ':' :: code
  | c :: rest =>
      match code with
      | none => if c = ':' then replaceFrom (some []) rest else c :: replaceFrom none rest
      | some code =>
          if c = ':' then
            match ofCode? code with
            | some emoji => emoji ++ replaceFrom none rest
            | none => ":" ++ code ++ ":" ++ replaceFrom none rest
          else if Text.isBlank c then ":" ++ code ++ c :: replaceFrom none rest
          else replaceFrom (some (code ++ [c])) rest

/-- A text with emoji in place of their names. -/
def replace (t : Text) : Text := replaceFrom none t

end MountainRange.Markup.Emoji
