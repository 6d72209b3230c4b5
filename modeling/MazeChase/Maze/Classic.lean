import MazeChase.Maze.Layout

/-!
# The classic maze

The maze that is played when no other one is given.

* `Maze.classicRows`, `Maze.classic`;
* `Maze.ofRows_classicRows`: the rows draw it, without an error.
-/

set_option autoImplicit false

namespace MazeChase.Maze

/-- The rows of the classic maze. -/
def classicRows : List String := [
    "############################",
    "#............##............#",
    "#.####.#####.##.#####.####.#",
    "#o####.#####.##.#####.####o#",
    "#.####.#####.##.#####.####.#",
    "#..........................#",
    "#.####.##.########.##.####.#",
    "#.####.##.########.##.####.#",
    "#......##....##....##......#",
    "######.##### ## #####.######",
    "     #.##### ## #####.#     ",
    "     #.##          ##.#     ",
    "     #.## ######## ##.#     ",
    "######.## #     ## ##.######",
    "      .   #     ##   .      ",
    "######.## ######## ##.######",
    "     #.## ######## ##.#     ",
    "     #.##          ##.#     ",
    "     #.## ######## ##.#     ",
    "######.## ######## ##.######",
    "#............##............#",
    "#.####.#####.##.#####.####.#",
    "#.####.#####.##.#####.####.#",
    "#o..##.......  .......##..o#",
    "###.##.##.########.##.##.###",
    "###.##.##.########.##.##.###",
    "#......##....##....##......#",
    "#.##########.##.##########.#",
    "#.##########.##.##########.#",
    "#..........................#",
    "############################"
  ]

/-- The classic maze. -/
def classic : Maze :=
  match ofRows classicRows with
  | .ok m => m
  | .error _ => openFloor

theorem isOk_classicRows : (ofRows classicRows).isOk = true := by decide +kernel

theorem ofRows_classicRows : ofRows classicRows = .ok classic := by
  unfold classic
  have := isOk_classicRows
  split
  · assumption
  · simp_all [Except.isOk, Except.toBool]

end MazeChase.Maze
