import MazeChase.Session

/-!
# Reports of sessions

The eight lines that a session ends with.

* `Session.Summary.report`.
-/

set_option autoImplicit false

namespace MazeChase.Session

/-- The word for how a session ended. -/
def outcomeWord : Option Outcome → String
  | some .won => "won"
  | some .lost => "lost"
  | none => "undecided"

/-- The lines of a report, each with a label of one width. -/
def Summary.report (s : Summary) : List String := [
  s!"ticks:             {s.ticks}",
  s!"score:             {s.score}",
  s!"pellets collected: {s.tally.pellets.toNat}",
  s!"pellets remaining: {s.pelletsRemaining}",
  s!"ghosts eaten:      {s.tally.ghosts.toNat}",
  s!"fruit released:    {s.tally.fruit.toNat}",
  s!"ghost strandings:  {s.tally.strandings.toNat}",
  "outcome:           " ++ outcomeWord s.outcome
  ]

end MazeChase.Session
