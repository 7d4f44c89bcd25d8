import QueryLint.Text.Width

/-!
# Grids of cells

A grid is written row by row, with the cells of a column below each other.  A
cell may hold several lines; the last column is not filled up.
-/

namespace QueryLint.Grid

/-- A line of a cell and the columns that it takes. -/
structure Line where
  text : Text
  width : Nat
  deriving DecidableEq, Repr, Inhabited

abbrev Cell := List Line

/-- The line without a carriage return at its end. -/
def withoutReturn (line : Text) : Text :=
  if line.getLast? = some '\r' then line.dropLast else line

/-- The lines of a text; a carriage return before a line feed does not count,
and nothing after the last line feed is no line. -/
def lines (text : Text) : List Text :=
  let pieces := Text.splitOn (fun character => character == '\n') text
  let last := pieces.getLastD []
  pieces.dropLast.map withoutReturn ++ (if last.isEmpty then [] else [last])

namespace Cell

/-- The cell that holds a text. -/
def ofText? (text : Text) : Option Cell :=
  (lines text).mapM fun line => (Text.displayWidth? line).map fun width =>
    ⟨line, width⟩

/-- Columns that a cell takes. -/
def width (cell : Cell) : Nat :=
  (cell.map Line.width).foldl max 0

end Cell

def columnWidths (rows : List (List Cell)) : List Nat :=
  rows.foldl (fun widths row =>
    let cells := row.map Cell.width
    (List.range (max widths.length cells.length)).map fun column =>
      max (widths.getD column 0) (cells.getD column 0)) []

def Line.pad (width : Nat) (line : Line) : Text :=
  line.text ++ List.replicate (width - line.width) ' '

/-- The line of cells with the given widths; blanks stand on either side of each
cell. -/
def joinCells : List (Nat × Line) → Text
  | [] => []
  | [(_, line)] => ' ' :: line.text ++ [' ']
  | (width, line) :: rest => ' ' :: line.pad width ++ ' ' :: joinCells rest

def rowLines (widths : List Nat) (row : List Cell) : List Text :=
  let height := (row.map List.length).foldl max 1
  (List.range height).map fun line =>
    joinCells (widths.zip (row.map fun cell => cell.getD line ⟨[], 0⟩))

/-- The text of a grid, if all its texts have a width. -/
def render? (rows : List (List Text)) : Option Text := do
  let rows ← rows.mapM fun row => row.mapM Cell.ofText?
  let widths := columnWidths rows
  return (rows.flatMap (rowLines widths)).flatMap fun line => line ++ ['\n']

end QueryLint.Grid
