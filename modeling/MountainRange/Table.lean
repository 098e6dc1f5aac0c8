import MountainRange.Markup
import MountainRange.Text.Wrap
set_option autoImplicit false

/-!
# Tables

A table has a title and rows of cells under a heavy header, in a box of lines.  Its
columns are as wide as their widest cell; what does not fit on the display is wrapped
inside the last column, and words that do not fit there are cut.  The cells are markup,
so a table with tags that close nothing cannot be drawn.
-/

namespace MountainRange

/-- A table; every row has a cell for every header. -/
structure Table where
  title : Text
  header : List Text
  rows : List (List Text)
  deriving DecidableEq, Repr

namespace Table

/-- The columns of the display. -/
def displayWidth : Nat := 80

/-- The lines of one row of the box: what stands at its left end, between two columns,
at its right end, and elsewhere. -/
structure Rule where
  left : Letter
  middle : Letter
  right : Letter
  fill : Letter

/-- The line above the header. -/
def topRule : Rule := ⟨'┏', '┳', '┓', '━'⟩

/-- The line between the header and the rows. -/
def headRule : Rule := ⟨'┡', '╇', '┩', '━'⟩

/-- The line below the rows. -/
def bottomRule : Rule := ⟨'└', '┴', '┘', '─'⟩

/-- The upright lines of the header. -/
def headBar : Letter := '┃'

/-- The upright lines of the rows. -/
def rowBar : Letter := '│'

/-- What the cells of a table show. -/
structure Grid where
  title : Text
  header : List Text
  rows : List (List Text)
  deriving DecidableEq, Repr

/-- What the cells of a table show. -/
def grid (t : Table) : Except Markup.Fault Grid := do
  let title ← Markup.shown t.title
  let header ← t.header.mapM Markup.shown
  let rows ← t.rows.mapM fun row => row.mapM Markup.shown
  return { title, header, rows }

/-- The width of each column, without the space at its sides. -/
def Grid.naturalWidths (g : Grid) : List Nat :=
  g.rows.foldl (fun widths row => widths.zipWith max (row.map Text.longestLine))
    (g.header.map Text.longestLine)

/-- The columns of a whole table: each of its own has a bar and two spaces more, and
another bar stands at the end. -/
def boxWidth (widths : List Nat) : Nat := widths.foldl (fun total w => total + (w + 3)) 1

/-- Narrows the last column until the table fits on the display. -/
def fitWidths (widths : List Nat) : List Nat :=
  match widths.getLast? with
  | none => widths
  | some last => widths.dropLast ++ [last - (boxWidth widths - displayWidth)]

/-- The width of each column on the display. -/
def Grid.columnWidths (g : Grid) : List Nat := fitWidths g.naturalWidths

/-- A rule across columns of some widths. -/
def drawRule (rule : Rule) (widths : List Nat) : Text :=
  let parts := widths.map fun w => List.replicate (w + 2) rule.fill
  rule.left :: Text.join [rule.middle] parts ++ [rule.right]

/-- A line of cells between bars. -/
def drawCells (bar : Letter) (widths : List Nat) (cells : List Text) : Text :=
  let parts := widths.zipWith (fun w cell => " " ++ Text.padTo w cell ++ " ") cells
  bar :: Text.join [bar] parts ++ [bar]

/-- The lines of a cell, padded.  At the end of a line a joiner takes up a space, and
another one is put behind it when the line is drawn. -/
def cellLines (columns : Nat) (cell : Text) : List Text :=
  (Text.wrap .ellipsis columns cell).map (Text.padTo columns)

/-- The lines of a row, as many as its highest cell has. -/
def drawRow (bar : Letter) (widths : List Nat) (row : List Text) : List Text :=
  let cells := widths.zipWith cellLines row
  let height := (cells.map List.length).foldl max 1
  (List.range height).map fun i => drawCells bar widths (cells.map fun lines => lines[i]?.getD [])

/-- The title, centred above a table of some width. -/
def drawTitle (columns : Nat) (title : Text) : Text :=
  Text.padTo columns (title.indent ((columns - Text.width title) / 2))

/-- The lines of a table. -/
def Grid.lines (g : Grid) : List Text :=
  let widths := g.columnWidths
  [drawTitle (boxWidth widths) g.title, drawRule topRule widths] ++
    drawRow headBar widths g.header ++ [drawRule headRule widths] ++
    g.rows.flatMap (drawRow rowBar widths) ++ [drawRule bottomRule widths]

/-- The text of a table. -/
def render (t : Table) : Except Markup.Fault Text :=
  t.grid.map fun g => Text.unlines g.lines

end Table

end MountainRange
