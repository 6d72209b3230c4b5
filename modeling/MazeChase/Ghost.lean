import MazeChase.Location
import MazeChase.Roster

/-!
# Ghosts

A ghost has a location that everybody sees and a location planned for the next update, and between
plan and update only the first one counts. Two timers and two flags say what state it is in.

* `Color.spawn`, `Color.corner`, `Color.initialTrap`, `Color.house`: where each ghost starts, where
  it scatters, how long it is held at first, where it returns to;
* `Ghost`, `Ghost.new`, `Ghost.frighten`, `Ghost.respawn`, `Ghost.update`.
-/

set_option autoImplicit false

namespace MazeChase

namespace Color

/-- Where the ghost enters the maze. -/
def spawn : Color → Location
  | red => ⟨⟨11, 13⟩, .left⟩
  | pink => ⟨⟨13, 13⟩, .down⟩
  | cyan => ⟨⟨14, 11⟩, .up⟩
  | orange => ⟨⟨14, 15⟩, .up⟩

/-- Where the ghost returns to when it was eaten: its own place in the house, and for red, which
starts outside, the place of pink. -/
def house : Color → Location
  | red => pink.spawn
  | color => color.spawn

/-- Where the ghost heads for while the game scatters; a place it can never reach. -/
def corner : Color → Cell
  | red => ⟨-3, 25⟩
  | pink => ⟨-3, 2⟩
  | cyan => ⟨31, 27⟩
  | orange => ⟨31, 0⟩

/-- The number of updates for which the ghost swings in place at the start of a game. -/
def initialTrap : Color → Nat
  | red => 0
  | pink => 5
  | cyan => 16
  | orange => 32

end Color

/-- The state of a ghost. -/
@[ext] structure Ghost where
  /-- Where the ghost is. -/
  location : Location
  /-- Where it will be after the next update. -/
  next : Location
  /-- Updates for which it stays frightened. -/
  fright : Nat
  /-- Updates at which it has to turn back. -/
  trap : Nat
  /-- It is on its way out of the house. -/
  spawning : Bool
  /-- It was eaten and has not come back yet. -/
  eaten : Bool
deriving DecidableEq, Repr

namespace Ghost

/-- A ghost that has not entered the maze. -/
def new (color : Color) : Ghost where
  location := .offBoard
  next := color.spawn
  fright := 0
  trap := color.initialTrap
  spawning := true
  eaten := false

/-- The player can eat the ghost. -/
def IsFrightened (g : Ghost) : Prop := 0 < g.fright

instance (g : Ghost) : Decidable g.IsFrightened := by unfold IsFrightened; infer_instance

/-- Frighten the ghost; it turns back once, unless it has to turn back already. -/
def frighten (g : Ghost) (cycles : Nat) : Ghost :=
  { g with fright := cycles, trap := if g.trap = 0 then 1 else g.trap }

/-- Send the eaten ghost back to the house. -/
def respawn (g : Ghost) (color : Color) : Ghost :=
  { g with location := .offBoard, next := color.house, spawning := true, eaten := true }

/-- Make the planned move and let the timers go on. A ghost on the cell where red starts has left
the house, and an eaten ghost comes back without fright. -/
def update (g : Ghost) : Ghost :=
  { g with
    location := g.next
    fright := if g.eaten then 0 else g.fright - 1
    spawning := g.spawning && !decide (g.location.Meets Color.red.spawn)
    eaten := false }

end Ghost

end MazeChase
