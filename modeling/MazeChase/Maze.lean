import MazeChase.CellSet

/-!
# The maze

Walls and pellets on the board. The pellets carry their number, so that nobody has to count them.
Walls never change; pellets are taken one at a time.

* `Cell.InHouse`, `Cell.houseExit`, `Cell.powerCorners`: the cells with a special part in the game;
* `Pellets`, `Pellets.take?`;
* `Maze`, `Maze.wallAt`: a cell off the board counts as a wall.
-/

set_option autoImplicit false

namespace MazeChase

namespace Cell

/-- The cell belongs to the house in which the ghosts start. -/
def InHouse (c : Cell) : Prop :=
  (13 ≤ c.row.val ∧ c.row.val ≤ 14) ∧ 11 ≤ c.col.val ∧ c.col.val ≤ 15

instance (c : Cell) : Decidable c.InHouse := by unfold InHouse; infer_instance

/-- The cell through which a ghost leaves the house, though it is a wall to everybody else. -/
def houseExit : Cell := ⟨12, 13⟩

/-- The four cells on which a pellet is a super pellet. -/
def powerCorners : List Cell := [⟨3, 1⟩, ⟨3, 26⟩, ⟨23, 1⟩, ⟨23, 26⟩]

/-- A pellet on this cell is a super pellet. -/
def IsPowerCorner (c : Cell) : Prop := c ∈ powerCorners

instance (c : Cell) : Decidable c.IsPowerCorner := by unfold IsPowerCorner; infer_instance

end Cell

/-- The cells with a pellet, and how many they are. -/
structure Pellets where
  cells : CellSet
  count : Nat
deriving DecidableEq

namespace Pellets

/-- No pellets. -/
def empty : Pellets := ⟨CellSet.empty, 0⟩

/-- One more pellet, on a cell that has none. -/
def add (p : Pellets) (c : Cell) : Pellets := ⟨p.cells.insert c, p.count + 1⟩

/-- The pellets left when the one on a cell is taken, if there is one. -/
def take? (p : Pellets) (c : Cell) : Option Pellets :=
  if p.cells.contains c then some ⟨p.cells.erase c, p.count - 1⟩ else none

/-- The number is right. -/
def Counted (p : Pellets) : Prop := p.count = p.cells.size

end Pellets

/-- Walls, and the pellets of a new game. -/
structure Maze where
  walls : CellSet
  pellets : Pellets
deriving DecidableEq

namespace Maze

/-- Open floor everywhere. -/
def openFloor : Maze := ⟨.empty, .empty⟩

/-- The cell is a wall or lies off the board. -/
def wallAt (m : Maze) (c : Cell) : Bool := !decide c.OnBoard || m.walls.contains c

theorem onBoard_of_wallAt_eq_false {m : Maze} {c : Cell} (h : m.wallAt c = false) : c.OnBoard := by
  simp [wallAt] at h; exact h.1

end Maze

end MazeChase
