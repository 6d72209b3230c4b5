import MazeChase.Cell

/-!
# Locations

Where an entity stands and which way it faces.

* `Location`, with the place `Location.offBoard` of entities that are not in play yet;
* `Location.advanced`: one cell further along the heading, without looking at walls;
* `Location.turnedBack`: the same cell, facing the other way.
-/

set_option autoImplicit false

namespace MazeChase

/-- A cell and a heading. -/
@[ext] structure Location where
  cell : Cell
  heading : Direction
deriving DecidableEq, Repr, Inhabited

namespace Location

/-- The place of an entity that has not entered the maze. -/
def offBoard : Location := ⟨⟨32, 32⟩, .up⟩

/-- The entity has not entered the maze; its heading does not matter. -/
def IsOffBoard (l : Location) : Prop := l.cell = offBoard.cell

instance (l : Location) : Decidable l.IsOffBoard := by unfold IsOffBoard; infer_instance

/-- The next cell in a direction. -/
def neighbor (l : Location) (d : Direction) : Cell := l.cell.step d

/-- The cell `n` steps ahead. -/
def ahead (l : Location) (n : Coord) : Cell := l.cell.ahead l.heading n

/-- One cell further along the heading. -/
def advanced (l : Location) : Location := ⟨l.neighbor l.heading, l.heading⟩

/-- The same cell, facing the other way. -/
def turnedBack (l : Location) : Location := { l with heading := l.heading.reversed }

/-- The same cell, facing `d`. -/
def facing (l : Location) (d : Direction) : Location := { l with heading := d }

/-- Another cell, facing the same way. -/
def movedTo (l : Location) (c : Cell) : Location := { l with cell := c }

/-- Both entities stand on the same cell. -/
def Meets (l m : Location) : Prop := l.cell = m.cell

instance (l m : Location) : Decidable (l.Meets m) := by unfold Meets; infer_instance

@[simp] theorem heading_advanced (l : Location) : l.advanced.heading = l.heading := rfl

end Location

end MazeChase
