import MountainRange.Text.Blank
set_option autoImplicit false

/-!
# Texts taken apart

The parts of a text between characters of some class: its lines, or its words between
blanks.
-/

namespace MountainRange.Text

/-- The parts of a text between characters of some class; a text without any is one
part. -/
def splitAt (isBreak : Letter → Bool) : Text → List Text
  | [] => [[]]
  | c :: rest =>
      if isBreak c then [] :: splitAt isBreak rest
      else
        match splitAt isBreak rest with
        | part :: parts => (c :: part) :: parts
        | [] => [[c]]

theorem splitAt_eq_splitOnP (isBreak : Letter → Bool) (t : Text) :
    splitAt isBreak t = List.splitOnP isBreak t := by
  induction t with
  | nil => rfl
  | cons c rest ih =>
      rw [splitAt, ih, List.splitOnP_cons_eq_if_modifyHead]
      cases hparts : List.splitOnP isBreak rest with
      | nil => exact absurd hparts (List.splitOnP_ne_nil isBreak rest)
      | cons part parts => rfl

/-- The characters that end a line in some script or device. -/
def lineEndRanges : List Range :=
  [(0xA, 0xD), (0x1C, 0x1E), (0x85, 0x85), (0x2028, 0x2029)]

/-- Whether a character ends a line in some script or device. -/
def isLineEnd (c : Letter) : Bool := inRanges lineEndRanges c

/-- The parts of a text between its line feeds. -/
def splitLines (t : Text) : List Text := splitAt (· = '\n') t

/-- What stands in front of the first line end of any kind. -/
def firstLine (t : Text) : Text := t.takeWhile (!isLineEnd ·)

/-- The parts of a text between its blanks, without empty ones. -/
def splitBlanks (t : Text) : List Text :=
  (splitAt isBlank t).filter (!·.isEmpty)

end MountainRange.Text
