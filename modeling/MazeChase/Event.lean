import MazeChase.Location
import MazeChase.Mode
import MazeChase.Roster

/-!
# Commands and events

Commands are all that can be asked of a world, and events are all that it tells.

* `Command`, `Event`;
* `Outcome`: how a game ended; `FruitWave`: which fruit appeared.
-/

set_option autoImplicit false

namespace MazeChase

/-- How a game ended. -/
inductive Outcome where
  /-- No pellet is left. -/
  | won
  /-- A ghost caught the player. -/
  | lost
deriving DecidableEq, Repr, Inhabited

/-- One of the two fruits of a game. -/
inductive FruitWave where
  | first
  | second
deriving DecidableEq, Repr, Inhabited

/-- What can be asked of a world. -/
inductive Command where
  /-- Let the clock go on by one tick. -/
  | tick
  /-- Move the player at the next update. -/
  | movePlayer (direction : Direction)
  /-- Set the mode of the switch that belongs to the world. -/
  | setMode (mode : Mode)
deriving DecidableEq, Repr

/-- What a world tells. -/
inductive Event where
  /-- The clock went on; `updated` tells whether the tick was an update. -/
  | tickAdvanced (tick : Nat) (updated : Bool)
  /-- The player went to the next cell. -/
  | playerMoved (origin target : Location)
  /-- A wall kept the player from moving. -/
  | playerBlocked (direction : Direction)
  /-- The player took a pellet, and `remaining` are left. -/
  | pelletCollected (cell : Cell) (isSuper : Bool) (remaining : Nat)
  /-- All ghosts are frightened for that many updates. -/
  | ghostsFrightened (cycles : Nat)
  /-- The player ate a ghost. -/
  | ghostEaten (ghost : Color) (points : Nat)
  /-- A ghost caught the player. -/
  | playerCaught (ghost : Color)
  /-- A fruit appeared. -/
  | fruitSpawned (wave : FruitWave)
  /-- A ghost that could not go on was left on a location. -/
  | ghostStranded (ghost : Color) (location : Location)
  /-- The last pellet was taken. -/
  | levelCleared
  /-- The switch of the world changed its mode. -/
  | modeChanged (mode : Mode)
deriving DecidableEq, Repr

end MazeChase
