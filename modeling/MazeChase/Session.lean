import MazeChase.World.Tick

/-!
# Sessions

A session plays a script on a world for a number of ticks and keeps a tally of what happened.

* `Session.Options`, `Session.Tally`, `Session.Summary`;
* `Session.round`: one tick, with the commands that come before it;
* `Session.play`: several rounds; `Session.simulate`: a whole session.
-/

set_option autoImplicit false

namespace MazeChase.Session

/-- How long to play, and when to switch or stop. -/
structure Options where
  ticks : Nat
  /-- The tick before which the mode is set to chase. -/
  chaseAt : Option Nat
  /-- Stop when the game is won or lost. -/
  stopOnOutcome : Bool
deriving DecidableEq, Repr

/-- How often things happened, in numbers of 32 bits. -/
structure Tally where
  pellets : UInt32
  ghosts : UInt32
  fruit : UInt32
  strandings : UInt32
deriving DecidableEq, Repr

namespace Tally

/-- Nothing happened. -/
def zero : Tally := ⟨0, 0, 0, 0⟩

/-- The tally after an event. -/
def record (t : Tally) : Event → Tally
  | .pelletCollected .. => { t with pellets := t.pellets + 1 }
  | .ghostEaten .. => { t with ghosts := t.ghosts + 1 }
  | .fruitSpawned _ => { t with fruit := t.fruit + 1 }
  | .ghostStranded .. => { t with strandings := t.strandings + 1 }
  | _ => t

end Tally

/-- What is told at the end of a session. -/
structure Summary where
  ticks : Nat
  score : Nat
  pelletsRemaining : Nat
  tally : Tally
  outcome : Option Outcome
deriving DecidableEq, Repr

/-- The state of a session: the world, the moves that are left of the script, and the tally. -/
structure State (σ μ : Type) where
  world : World σ μ
  moves : List Direction
  tally : Tally

namespace State

variable {σ μ : Type}

/-- The state at the start of a session. -/
def start (world : World σ μ) (moves : List Direction) : State σ μ := ⟨world, moves, .zero⟩

/-- What is told if the session ends here. -/
def summary (s : State σ μ) : Summary where
  ticks := s.world.tick
  score := s.world.score
  pelletsRemaining := s.world.pellets.count
  tally := s.tally
  outcome := s.world.outcome

/-- The move that is due before the next tick: the next one of the script, if the tick is an
update. -/
def dueMove (s : State σ μ) : Option Direction := if s.world.updateDue then s.moves.head? else none

/-- The moves that are left after the next tick. -/
def movesLeft (s : State σ μ) : List Direction :=
  if s.world.updateDue then s.moves.tail else s.moves

/-- The commands of the next round. -/
def commands (s : State σ μ) (o : Options) : List Command :=
  (if o.chaseAt = some s.world.tick then [.setMode .chase] else []) ++
    s.dueMove.toList.map .movePlayer ++ [.tick]

variable [RandomSource σ] [ModeSource μ]

/-- One round: the mode and the move that are due, and a tick. -/
def round (s : State σ μ) (o : Options) : State σ μ :=
  let (world, events) := World.run (s.commands o) s.world
  ⟨world, s.movesLeft, events.foldl Tally.record s.tally⟩

/-- So many rounds, or fewer if the session stops at an outcome. -/
def play (o : Options) : Nat → State σ μ → State σ μ
  | 0, s => s
  | n + 1, s =>
    let s := s.round o
    if o.stopOnOutcome && s.world.outcome.isSome then s else play o n s

end State

/-- Play a script on a world. -/
def simulate {σ μ : Type} [RandomSource σ] [ModeSource μ] (world : World σ μ)
    (moves : List Direction) (o : Options) : Summary :=
  ((State.start world moves).play o o.ticks).summary

end MazeChase.Session
