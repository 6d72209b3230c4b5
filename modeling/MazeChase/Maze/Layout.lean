import MazeChase.Maze
import MazeChase.Text.Blank
import MazeChase.Text.Glyph
import MazeChase.Text.Lines

/-!
# Layouts

A layout draws a maze: `#` is a wall, `.` a pellet, `o` a super pellet on one of the four power
corners, and a space open floor. Short rows end in open floor.

* `LayoutError` and its `message`;
* `Maze.ofRows`: a maze from its 31 rows; the first bad row decides the error;
* `Maze.ofLayout`: a maze from a text, whose blank lines after the last row do not count.
-/

set_option autoImplicit false

namespace MazeChase

/-- Why a layout is refused. Rows and columns count from zero. -/
inductive LayoutError where
  /-- There are not 31 rows. -/
  | rowCount (actual : Nat)
  /-- A row has more than 28 cells. -/
  | rowWidth (row actual : Nat)
  /-- A character stands for nothing. -/
  | unknownGlyph (glyph : Char) (row col : Nat)
  /-- A super pellet lies off the power corners. -/
  | misplacedSuperPellet (row col : Nat)
deriving DecidableEq, Repr

/-- What the player is told. -/
def LayoutError.message : LayoutError → String
  | rowCount actual => s!"layout has {actual} rows; expected {MazeChase.rowCount}"
  | rowWidth row actual => s!"row {row} is {actual} cells wide; at most {colCount} allowed"
  | unknownGlyph glyph row col =>
    "unknown glyph " ++ Text.quoteChar glyph ++ s!" at row {row}, column {col}"
  | misplacedSuperPellet row col =>
    s!"super pellet at row {row}, column {col} is not on a power corner"

namespace Maze

/-- What a character draws on a cell. -/
def draw (m : Maze) (row col : Nat) (glyph : Char) : Except LayoutError Maze :=
  let cell := Cell.ofNat row col
  match glyph with
  | '#' => .ok { m with walls := m.walls.insert cell }
  | '.' => .ok { m with pellets := m.pellets.add cell }
  | 'o' =>
    if cell.IsPowerCorner then .ok { m with pellets := m.pellets.add cell }
    else .error (.misplacedSuperPellet row col)
  | ' ' => .ok m
  | glyph => .error (.unknownGlyph glyph row col)

/-- What the characters from a column on draw in a row. -/
def drawRow (row : Nat) : (col : Nat) → Maze → List Char → Except LayoutError Maze
  | _, m, [] => .ok m
  | col, m, glyph :: rest =>
    match m.draw row col glyph with
    | .ok m => drawRow row (col + 1) m rest
    | .error e => .error e

/-- What the rows from a row on draw. The width of a row is looked at before its characters. -/
def drawRows : (row : Nat) → Maze → List String → Except LayoutError Maze
  | _, m, [] => .ok m
  | row, m, text :: rest =>
    if text.toList.length > colCount then .error (.rowWidth row text.toList.length)
    else
      match drawRow row 0 m text.toList with
      | .ok m => drawRows (row + 1) m rest
      | .error e => .error e

/-- The maze that the rows draw. -/
def ofRows (rows : List String) : Except LayoutError Maze :=
  if rows.length ≠ MazeChase.rowCount then .error (.rowCount rows.length)
  else drawRows 0 openFloor rows

/-- The rows of a layout text: its lines, each without a carriage return that is left at its end,
and without the blank lines at the end that follow the last row of the board. -/
def layoutRows (text : List Char) : List (List Char) :=
  let rows := (Text.lines text).map dropReturn
  rows.take MazeChase.rowCount ++ dropBlankTail (rows.drop MazeChase.rowCount)
where
  /-- The line without one carriage return at its end. -/
  dropReturn (line : List Char) : List Char :=
    if line.getLast? = some '\r' then line.dropLast else line
  /-- The lines without the blank ones at the end. -/
  dropBlankTail (lines : List (List Char)) : List (List Char) :=
    (lines.reverse.dropWhile (·.all Text.isBlank)).reverse

/-- The maze that a text draws. -/
def ofLayout (text : String) : Except LayoutError Maze :=
  ofRows ((layoutRows text.toList).map String.ofList)

end Maze

end MazeChase
