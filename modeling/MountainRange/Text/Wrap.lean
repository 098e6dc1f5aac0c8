import MountainRange.Text.Split
import MountainRange.Text.Width
set_option autoImplicit false

/-!
# Wrapping lines

A text is broken into lines of at most some number of columns, between words where
that is possible.  A word that is too long for any line is either folded into lines of
its own or cut.  Tabulators are widened before.
-/

namespace MountainRange.Text

/-- The text without the blanks at its end. -/
def trimEnd (t : Text) : Text := (t.reverse.dropWhile isBlank).reverse

/-- The columns of the longest part between line ends of any kind. -/
def longestLine (t : Text) : Nat :=
  ((splitAt isLineEnd t).map width).foldl max 0

/-! ## Tabulators -/

/-- The distance of tabulator stops. -/
def tabSize : Nat := 8

/-- A line with spaces in place of its tabulators; `position` is the column in which
`part` starts, the text since the last stop. -/
def expandFrom (position : Nat) (part : Text) : Text → Text
  | [] => part
  | c :: rest =>
      if c = '\t' then
        let part := part ++ [.char ' ']
        let reached := position + width part
        let spaces := (tabSize - reached % tabSize) % tabSize
        part ++ List.replicate spaces (.char ' ') ++ expandFrom (reached + spaces) [] rest
      else expandFrom position (part ++ [c]) rest

/-- A line with spaces in place of its tabulators: at least one for each, up to the
next stop. -/
def expandTabs (line : Text) : Text := expandFrom 0 [] line

/-! ## Words -/

/-- The words of a text, each with the blanks behind it; the first also has the blanks
in front.  `word` is the word being read, and `ended` says whether a blank was read
behind it. -/
def wordsFrom (word : Text) (ended : Bool) : Text → List Text
  | [] => if word.isEmpty then [] else [word]
  | c :: rest =>
      if isBlank c then wordsFrom (word ++ [c]) (ended || !word.all isBlank) rest
      else if ended then word :: wordsFrom [c] false rest
      else wordsFrom (word ++ [c]) false rest

/-- The words of a text, each with the blanks behind it. -/
def words (t : Text) : List Text := wordsFrom [] false t

/-- Cuts clusters into pieces of at most some number of columns; `piece` is the piece
being filled. -/
def chopFrom (columns : Nat) (piece : Cluster) : List Cluster → List Text
  | [] => [piece.letters]
  | k :: rest =>
      if columns < piece.width + k.width ∧ piece.letters ≠ [] then
        piece.letters :: chopFrom columns k rest
      else chopFrom columns ⟨piece.letters ++ k.letters, piece.width + k.width⟩ rest

/-- Cuts a word into pieces of at most some number of columns. -/
def chop (columns : Nat) (word : Text) : List Text :=
  chopFrom columns ⟨[], 0⟩ (clusters word)

/-! ## Filling lines -/

/-- What becomes of a word that is too long for any line. -/
inductive Overflow where
  /-- It goes on in the next line. -/
  | fold
  /-- It is cut, and the cut is marked. -/
  | ellipsis
  deriving DecidableEq, Repr

/-- Lays words on lines; `line` is the line being filled, and `used` the columns that
its words take. -/
def fillLines (overflow : Overflow) (columns : Nat) (line : Text) (used : Nat) :
    List Text → List Text
  | [] => [line]
  | word :: rest =>
      let needed := width (trimEnd word)
      let before := if line.isEmpty then [] else [line]
      if used + needed ≤ columns then
        fillLines overflow columns (line ++ word) (used + width word) rest
      else if overflow = .fold ∧ columns < needed then
        let pieces := chop columns word
        let last := pieces.getLastD []
        before ++ pieces.dropLast ++ fillLines overflow columns last (width last) rest
      else before ++ fillLines overflow columns word (width word) rest

/-- A line without those blanks at its end that are beyond some number of characters. -/
def cropBlanks (size : Nat) (line : Text) : Text :=
  let kept := trimEnd line
  line.take (max kept.length size)

/-- A line that is no longer than some number of columns. -/
def limit (overflow : Overflow) (columns : Nat) (line : Text) : Text :=
  if width line ≤ columns then line
  else
    match overflow with
    | .fold => cutTo columns line
    | .ellipsis => cutTo (columns - 1) line ++ [.char '…']

/-- The lines of a text without line feeds. -/
def wrapLine (overflow : Overflow) (columns : Nat) (t : Text) : List Text :=
  (fillLines overflow columns [] 0 (words (expandTabs t))).map fun line =>
    limit overflow columns (cropBlanks columns line)

/-- The lines of a text. -/
def wrap (overflow : Overflow) (columns : Nat) (t : Text) : List Text :=
  (splitLines t).flatMap (wrapLine overflow columns)

end MountainRange.Text
