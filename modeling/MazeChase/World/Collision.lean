import MazeChase.World

/-!
# Collisions

When the player and a ghost stand on the same cell, the player eats the ghost if it is frightened,
and is caught by it otherwise. A ghost that was eaten does neither until it has come back.

* `World.award`: points, up to the largest score;
* `World.meet`: what happens between the player and one ghost;
* `World.collide`: what happens between the player and all ghosts, in roster order.
-/

set_option autoImplicit false

namespace MazeChase

/-- The largest score. -/
def maxScore : Nat := UInt32.size - 1

namespace World

variable {σ μ : Type}

/-- The world with more points; the score stops at its largest value. -/
def award (w : World σ μ) (points : Nat) : World σ μ :=
  { w with score := min (w.score + points) maxScore }

/-- The world with an outcome, unless it has one already. -/
def decideOutcome (w : World σ μ) (outcome : Outcome) : World σ μ :=
  { w with outcome := w.outcome.or (some outcome) }

/-- What happens between the player and one ghost. Once the game is lost, being caught is not told
again. -/
def meet (color : Color) : Phase (World σ μ) Event := fun w =>
  let ghost := w.ghosts.get color
  if ¬ ghost.location.Meets w.player ∨ ghost.eaten then (w, [])
  else if ghost.IsFrightened then
    let points := w.config.ghostEatPoints.toNat
    ({ w with ghosts := w.ghosts.set color (ghost.respawn color) }.award points,
      [.ghostEaten color points])
  else if w.outcome = some .lost then (w, [])
  else (w.decideOutcome .lost, [.playerCaught color])

/-- What happens between the player and the ghosts. -/
def collide : Phase (World σ μ) Event := .forEach meet Color.all

end World

end MazeChase
