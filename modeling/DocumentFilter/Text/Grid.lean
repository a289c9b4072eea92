import DocumentFilter.Text.Width

/-!
# Grids

Tables of text with ruled lines.  Every column is as wide as its widest line of text, and a text
with line breaks makes its row higher.
-/

namespace DocumentFilter

/-- A table of text: a heading for every column, and rows of as many cells. -/
structure Grid where
  header : List String
  rows : List (List String)

namespace Grid

/-- The lines of a cell. -/
def lines (cell : String) : List (List Char) := cell.toList.splitOn '\n'

/-- The columns of the display that a cell needs. -/
def cellWidth (cell : String) : Nat := ((lines cell).map Text.width).foldl max 0

/-- Row by row, the widest cell of each column. -/
def widths (grid : Grid) : List Nat :=
  grid.rows.foldl (fun widths row => List.zipWith max widths (row.map cellWidth))
    (grid.header.map cellWidth)

/-- A line of a cell between spaces, filled up to the width of its column. -/
def padLine (width : Nat) (line : List Char) : List Char :=
  ' ' :: line ++ List.replicate (width - Text.width line) ' ' ++ [' ']

/-- The `k`-th line of a row. -/
def rowLine (widths : List Nat) (cells : List (List (List Char))) (k : Nat) : List Char :=
  let padded := List.zipWith (fun width cell => padLine width (cell.getD k [])) widths cells
  '|' :: ['|'].intercalate padded ++ ['|']

/-- The lines of a row. -/
def rowLines (widths : List Nat) (row : List String) : List (List Char) :=
  let cells := row.map lines
  (List.range ((cells.map List.length).foldl max 0)).map (rowLine widths cells)

/-- A ruled line: its ends, what it is made of, and what stands where columns meet. -/
def rule (widths : List Nat) (ends line crossing : Char) : List Char :=
  ends :: [crossing].intercalate (widths.map fun width => List.replicate (width + 2) line) ++ [ends]

/-- The grid, line by line. -/
def render (grid : Grid) : String :=
  let widths := grid.widths
  let frame := rule widths '+' '-' '+'
  let body := [rule widths '|' '-' '+'].intercalate (grid.rows.map (rowLines widths))
  let all := frame :: rowLines widths grid.header ++ [rule widths '+' '=' '='] ++ body ++ [frame]
  String.ofList (['\n'].intercalate all)

end Grid
end DocumentFilter
