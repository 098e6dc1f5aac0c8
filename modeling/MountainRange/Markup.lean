import MountainRange.Markup.Emoji
import MountainRange.Markup.Literal
import MountainRange.Markup.Style
set_option autoImplicit false

/-!
# Markup

A text for the display may hold tags in square brackets, which say how what follows is
shown, and names of emoji between colons.  Without colours nothing remains of a tag;
but a tag that closes nothing is an error.  A backslash in front of a tag makes it plain
text.  Controls that would move the cursor are left out.
-/

namespace MountainRange.Markup

/-- Why markup has no text. -/
inductive Fault where
  /-- A tag closes a style that no tag opened. -/
  | notOpen (style : Text)
  /-- A tag closes the last style, but none is open. -/
  | nothingOpen
  /-- The parameters of an action are no literal. -/
  | parameters (text : Text)
  /-- A part of a colour is no numeral. -/
  | numeral (error : Text.NumeralError)
  deriving DecidableEq, Repr

/-- The text of a fault. -/
def Fault.message : Fault → Text
  | .notOpen style => "closing tag for " ++ Text.quoted style ++ " matches no open tag"
  | .nothingOpen => "closing tag has nothing to close"
  | .parameters text => "error parsing " ++ Text.quoted text
  | .numeral error => error.message

/-! ## Parts -/

/-- A part of markup. -/
inductive Part where
  | plain (t : Text)
  | tag (t : Text)
  deriving DecidableEq, Repr

/-- Whether a tag may start with a character. -/
def startsTag (c : Letter) : Bool := ('a' ≤ c && c ≤ 'z') || c = '#' || c = '/' || c = '@'

/-- The inside of the tag whose opening bracket stands in front. -/
def tagText? (rest : Text) : Option Text :=
  let text := rest.takeWhile fun (c : Letter) => c ≠ '[' && c ≠ ']'
  if (rest.head?.any startsTag) && (rest.drop text.length).head? = some ']' then some text else none

/-- Backslashes. -/
def backslashes (n : Nat) : Text := List.replicate n '\\'

/-- The parts of markup behind some plain text and backslashes.  Two backslashes in front
of a tag are one; a single one makes the tag plain text. -/
def partsFrom (plain : Text) (slashes : Nat) : Text → List Part
  | [] => [.plain (plain ++ backslashes slashes)]
  | c :: rest =>
      if c = '\\' then partsFrom plain (slashes + 1) rest
      else if c = '[' then
        match tagText? rest with
        | none => partsFrom (plain ++ backslashes slashes ++ "[") 0 rest
        | some text =>
            let part := if slashes % 2 = 1 then .plain ("[" ++ text ++ "]") else .tag text
            .plain plain :: .plain (backslashes (slashes / 2)) :: part ::
              partsFrom [] 0 (rest.drop (text.length + 1))
      else partsFrom (plain ++ backslashes slashes ++ [c]) 0 rest
termination_by cs => cs.length

/-- The parts of markup. -/
def parts (t : Text) : List Part := partsFrom [] 0 t

/-- Plain text without the backslashes in front of opening brackets. -/
def unescape : Text → Text
  | .char '\\' :: .char '[' :: rest => '[' :: unescape rest
  | c :: rest => c :: unescape rest
  | [] => []

/-- Whether a character is left out: the controls that ring, move back or sideways, or
return. -/
def isCursorControl (c : Letter) : Bool :=
  c.toNat = 7 || c.toNat = 8 || c.toNat = 11 || c.toNat = 12 || c.toNat = 13

/-- What a display shows of plain text. -/
def shownPlain (t : Text) : Text :=
  (Emoji.replace (unescape t)).filter (!isCursorControl ·)

/-! ## Tags -/

/-- A tag that opens a style: the normal form of the style, and what stands behind an
equals sign. -/
structure OpenTag where
  style : Text
  parameters : Option Text
  deriving DecidableEq, Repr

/-- Whether a letter is the equals sign. -/
def isEqualsSign (c : Letter) : Bool := c = '='

/-- What stands in front of the first equals sign, and what stands behind it. -/
def splitParameters (text : Text) : Text × Option Text :=
  match text.dropWhile (!isEqualsSign ·) with
  | [] => (text, none)
  | _ :: parameters => (text.takeWhile (!isEqualsSign ·), some parameters)

/-- Whether a tag names an action instead of a style. -/
def OpenTag.isAction (tag : OpenTag) : Bool := tag.style.head? = some '@'

/-- Checks the parameters of an action when it is closed. -/
def OpenTag.close (tag : OpenTag) : Except Fault Unit :=
  match tag.isAction, tag.parameters with
  | true, some text => if Literal.isAction text then .ok () else .error (.parameters text)
  | _, _ => .ok ()

/-- The normal form of a style. -/
def normalStyle (description : Text) : Except Fault Text :=
  (Style.normalize description).mapError .numeral

/-- Closes the latest of the open tags with some style. -/
def closeStyle (style : Text) : List OpenTag → Except Fault (List OpenTag)
  | [] => .error (.notOpen style)
  | tag :: rest => do
      if tag.style = style then
        tag.close
        return rest
      else return tag :: (← closeStyle style rest)

/-- The open tags, latest first, behind another tag. -/
def applyTag (stack : List OpenTag) (text : Text) : Except Fault (List OpenTag) :=
  let (name, parameters) := splitParameters text
  match name with
  | .char '/' :: name =>
      match Text.trim name, stack with
      | [], [] => .error .nothingOpen
      | [], tag :: rest => do
          tag.close
          return rest
      | name, stack => do closeStyle (← normalStyle name) stack
  | name => do return ⟨← normalStyle name, parameters⟩ :: stack

/-- The text of parts behind some open tags. -/
def showParts (stack : List OpenTag) : List Part → Except Fault Text
  | [] => .ok []
  | .plain cs :: rest => do return shownPlain cs ++ (← showParts stack rest)
  | .tag text :: rest => do showParts (← applyTag stack text) rest

/-- What a display shows of markup. -/
def shown (markup : Text) : Except Fault Text := showParts [] (parts markup)

end MountainRange.Markup
