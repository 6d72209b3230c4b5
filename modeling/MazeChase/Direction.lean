/-!
# Directions

The four headings of the maze, in the order in which candidate moves are compared: when two moves
are equally good, the earlier direction wins.

* `Direction`, `Direction.all`, `Direction.reversed`, `Direction.rowDelta`, `Direction.colDelta`;
* `Direction.ofLetter?`: the `U`, `D`, `L`, `R` shorthand of move scripts;
* `Direction.reversed_reversed`, `Direction.rowDelta_reversed`.
-/

set_option autoImplicit false

namespace MazeChase

/-- A cardinal heading. -/
inductive Direction where
  | up
  | down
  | left
  | right
deriving DecidableEq, Repr, Inhabited

namespace Direction

/-- Every direction, in the order of preference. -/
def all : List Direction := [up, down, left, right]

/-- The opposite heading. -/
def reversed : Direction → Direction
  | up => down
  | down => up
  | left => right
  | right => left

/-- The change of row made by one step. -/
def rowDelta : Direction → Int
  | up => -1
  | down => 1
  | left | right => 0

/-- The change of column made by one step. -/
def colDelta : Direction → Int
  | up | down => 0
  | left => -1
  | right => 1

/-- The place of the direction in `all`. -/
def index : Direction → Nat
  | up => 0
  | down => 1
  | left => 2
  | right => 3

/-- The direction that a letter of a move script stands for, in either case. -/
def ofLetter? : Char → Option Direction
  | 'U' | 'u' => some up
  | 'D' | 'd' => some down
  | 'L' | 'l' => some left
  | 'R' | 'r' => some right
  | _ => none

theorem mem_all (d : Direction) : d ∈ all := by cases d <;> decide

theorem all_index (d : Direction) : all[d.index]? = some d := by cases d <;> rfl

@[simp] theorem reversed_reversed (d : Direction) : d.reversed.reversed = d := by cases d <;> rfl

@[simp] theorem rowDelta_reversed (d : Direction) : d.reversed.rowDelta = -d.rowDelta := by
  cases d <;> rfl

@[simp] theorem colDelta_reversed (d : Direction) : d.reversed.colDelta = -d.colDelta := by
  cases d <;> rfl

end Direction

end MazeChase
