import MazeChase.Ghost
import MazeChase.Maze
import MazeChase.Mode

/-!
# Where ghosts head for

The four ghosts of a game plan against one picture of the maze, which shows where everybody stands
before anybody moves.

* `Scene`: the picture;
* `Scene.chaseTarget`: where each ghost hunts;
* `Scene.target?`: where a ghost heads for, if it heads anywhere.
-/

set_option autoImplicit false

namespace MazeChase

/-- What the ghosts know when they plan. -/
structure Scene where
  maze : Maze
  player : Location
  /-- Where the ghosts are, before anybody moves. -/
  ghosts : Roster Location
  /-- The mode that steers them. -/
  mode : Option Mode

/-- The squared distance from the player below which orange retreats. -/
def retreatDistSq : Int := 64

namespace Scene

/-- Where a ghost hunts: red the player; pink four cells ahead of the player; cyan the reflection of
red through the cell two ahead of the player; orange the player from afar, its corner when
close. -/
def chaseTarget (s : Scene) : Color → Point
  | .red => s.player.cell.toPoint
  | .pink => (s.player.ahead 4).toPoint
  | .cyan => (s.player.ahead 2).toPoint.reflect s.ghosts.red.cell.toPoint
  | .orange =>
    if retreatDistSq ≤ s.ghosts.orange.cell.toPoint.distSq s.player.cell.toPoint then
      s.player.cell.toPoint
    else Color.orange.corner.toPoint

/-- Where a ghost that goes on to `coasted` heads for. On its way out of the house it heads for the
cell where red starts, until it is there or about to be there. -/
def target? (s : Scene) (color : Color) (g : Ghost) (coasted : Location) : Option Point :=
  if g.spawning ∧ ¬ g.location.Meets Color.red.spawn ∧ ¬ coasted.Meets Color.red.spawn then
    some Color.red.spawn.cell.toPoint
  else
    match s.mode with
    | some .chase => some (s.chaseTarget color)
    | some .scatter => some color.corner.toPoint
    | _ => none

end Scene

end MazeChase
