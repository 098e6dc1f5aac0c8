import MountainRange.Text.Letter
set_option autoImplicit false

/-!
# Plain lines

Escape sequences tell a display how to show a text.  Where no display is, they are left
out.
-/

namespace MountainRange.Text

/-- The character that starts an escape sequence. -/
def escape : Letter := .ofNat 0x1B

/-- Whether a character may stand between the bracket of a sequence and its letter. -/
def isSequenceParameter (c : Letter) : Bool := c.isDigit || c = ';' || c = '?'

/-- A text without escape sequences, behind what was read of a sequence already. -/
def dropSequencesFrom (held : Text) : Text → Text
  | [] => held
  | c :: rest =>
      if c = escape then held ++ dropSequencesFrom [c] rest
      else if held = [] then c :: dropSequencesFrom [] rest
      else if held.length = 1 then
        if c = '[' then dropSequencesFrom (held ++ [c]) rest
        else held ++ c :: dropSequencesFrom [] rest
      else if isSequenceParameter c then dropSequencesFrom (held ++ [c]) rest
      else if c.isAlpha then dropSequencesFrom [] rest
      else held ++ c :: dropSequencesFrom [] rest

/-- A text without escape sequences: an escape, a bracket, parameters and a letter. -/
def dropSequences (t : Text) : Text := dropSequencesFrom [] t

end MountainRange.Text
