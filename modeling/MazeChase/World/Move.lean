import MazeChase.World.Collision

/-!
# Moves of the player

A move turns the player and then takes one step, unless a wall is ahead. On the new cell the player
takes the pellet.

* `World.takePellet`: points, fright and the end of the level;
* `World.releaseFruit`: a fruit appears when as many pellets are left as its threshold says;
* `World.movePlayer`: the whole move; collisions are looked at before and after the step.
-/

set_option autoImplicit false

namespace MazeChase.World

variable {σ μ : Type}

/-- Frighten all ghosts. -/
def frightenGhosts : Phase (World σ μ) Event := fun w =>
  let cycles := w.config.frightCycles.toNat
  ({ w with ghosts := w.ghosts.map (·.frighten cycles) }, [.ghostsFrightened cycles])

/-- The level ends when the last pellet is taken. -/
def clearLevel : Phase (World σ μ) Event := fun w => (w.decideOutcome .won, [.levelCleared])

/-- The points for a pellet on a cell. -/
def pelletValue (w : World σ μ) (c : Cell) : Nat :=
  if c.IsPowerCorner then w.config.superPelletPoints.toNat else w.config.pelletPoints.toNat

/-- Take the pellet on the cell of the player, if there is one. -/
def takePellet : Phase (World σ μ) Event := fun w =>
  let cell := w.player.cell
  match w.pellets.take? cell with
  | none => (w, [])
  | some rest =>
    (Phase.tell (.pelletCollected cell cell.IsPowerCorner rest.count)
      |>.andThen (.only cell.IsPowerCorner frightenGhosts)
      |>.andThen (.only (rest.count = 0) clearLevel))
      ({ w with pellets := rest }.award (w.pelletValue cell))

/-- The fruit that appears now, if one does: the one whose threshold is the number of pellets left
and that has not appeared before. -/
def dueFruit (w : World σ μ) : Option FruitWave :=
  if w.pellets.count = w.config.firstFruit.toNat ∧ w.fruit.first = false then some .first
  else if w.pellets.count = w.config.secondFruit.toNat ∧ w.fruit.second = false then some .second
  else none

/-- Let the fruit appear that is due. -/
def releaseFruit : Phase (World σ μ) Event := fun w =>
  match w.dueFruit with
  | some .first => ({ w with fruit := { w.fruit with first := true } }, [.fruitSpawned .first])
  | some .second => ({ w with fruit := { w.fruit with second := true } }, [.fruitSpawned .second])
  | none => (w, [])

/-- Step ahead, unless a wall is there. -/
def step : Phase (World σ μ) Event := fun w =>
  let target := w.player.advanced
  if w.maze.wallAt target.cell then (w, [.playerBlocked w.player.heading])
  else
    (Phase.tell (.playerMoved w.player target)
      |>.andThen takePellet
      |>.andThen releaseFruit
      |>.andThen collide)
      { w with player := target }

/-- Turn the player to a direction and step ahead. A ghost on the cell of the player is met before
the step, even if a wall keeps the player there. -/
def movePlayer (d : Direction) : Phase (World σ μ) Event :=
  Phase.change (fun w => { w with player := w.player.facing d })
    |>.andThen collide
    |>.andThen step

end MazeChase.World
