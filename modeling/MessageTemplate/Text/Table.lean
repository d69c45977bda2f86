import MessageTemplate.Text.Position
import MessageTemplate.Text.Width

/-!
# Tables

A table has a frame and a rule under its header, and no lines between its rows
or columns.  A column is as wide as its widest line.  A cell has one space on
either side, and one more space stands between two cells.
-/

namespace MessageTemplate

/-- The lines of a cell. -/
abbrev Cell := List (List Char)

/-- A header and rows of cells. -/
structure Table where
  header : List Cell
  rows : List (List Cell)

namespace Table

/-- The cell that shows a text; a line feed begins a new line of the cell. -/
def cell (text : String) : Cell :=
  Text.pieces text.toList

/-- The width of the widest line of a cell. -/
def cellWidth (cell : Cell) : Nat :=
  (cell.map Text.width).foldl max 0

/-- The widths of the columns, which cover all cells. -/
def columnWidths (rows : List (List Cell)) : List Nat :=
  rows.foldl (fun widths row => widths.zipWith max (row.map cellWidth))
    (match rows with
      | [] => []
      | row :: _ => row.map cellWidth)

/-- A line of a cell, filled up to a width and with the spaces around it. -/
def paddedLine (width : Nat) (line : List Char) : List Char :=
  ' ' :: line ++ List.replicate (width - Text.width line) ' ' ++ [' ']

/-- One line of a row.  A cell that has no such line is blank there. -/
def rowLine (widths : List Nat) (row : List Cell) (n : Nat) : List Char :=
  let parts := widths.zipWith (fun width cell => paddedLine width (cell.getD n [])) row
  ['│'] ++ [' '].intercalate parts ++ ['│']

/-- The lines of a row. -/
def rowLines (widths : List Nat) (row : List Cell) : List (List Char) :=
  let height := (row.map List.length).foldl max 0
  (List.range height).map (rowLine widths row)

/-- A horizontal line of the frame. -/
def ruler (widths : List Nat) (left line right : Char) : List Char :=
  let inner := (widths.map (· + 2)).foldr (· + ·) 0 + (widths.length - 1)
  left :: List.replicate inner line ++ [right]

/-- The text of a table, without a line feed at its end. -/
def render (table : Table) : String :=
  let widths := columnWidths (table.header :: table.rows)
  let lines :=
    [ruler widths '┌' '─' '┐'] ++ rowLines widths table.header ++
      [ruler widths '╞' '═' '╡'] ++ table.rows.flatMap (rowLines widths) ++
      [ruler widths '└' '─' '┘']
  String.ofList (['\n'].intercalate lines)

end Table

end MessageTemplate
