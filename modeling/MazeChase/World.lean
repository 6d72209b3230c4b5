import MazeChase.Config
import MazeChase.Event
import MazeChase.Ghost.Plan
import MazeChase.Ghost.View
import MazeChase.Maze.Classic
import MazeChase.Phase
import MazeChase.Random.Stream

/-!
# The world

All that a game consists of. It starts with the player at rest, no points, and the ghosts outside
the maze.

* `World`, `World.start`;
* `World.new?`: a world, unless the configuration is refused;
* `World.seeded?`: a world whose ghosts have random streams made from the seed, and whose mode is
  set by commands;
* `World.ghostView`: what is seen of the ghosts.
-/

set_option autoImplicit false

namespace MazeChase

/-- Which fruits have appeared. -/
structure Fruit where
  first : Bool
  second : Bool
deriving DecidableEq, Repr

/-- The state of a game, with random sources of type `σ` and a mode source of type `μ`. -/
structure World (σ μ : Type) where
  config : Config
  maze : Maze
  /-- The pellets that are left. -/
  pellets : Pellets
  player : Location
  /-- The move to be made at the next update. -/
  queued : Option Direction
  ghosts : Roster Ghost
  /-- The random source of each ghost. -/
  sources : Roster σ
  score : Nat
  fruit : Fruit
  modes : ModeControl μ
  /-- The mode that was on at the last update. -/
  mode : ModeSnapshot
  outcome : Option Outcome
  /-- The number of ticks so far. -/
  tick : Nat

/-- Where the player starts. -/
def playerSpawn : Location := ⟨⟨23, 13⟩, .right⟩

namespace World

variable {σ μ : Type} [ModeSource μ]

/-- The world at the start of a game. -/
def start (config : Config) (maze : Maze) (modes : ModeControl μ) (sources : Roster σ) :
    World σ μ where
  config := config
  maze := maze
  pellets := maze.pellets
  player := playerSpawn
  queued := none
  ghosts := .ofFn Ghost.new
  sources := sources
  score := 0
  fruit := ⟨false, false⟩
  modes := modes.poll.2
  mode := modes.poll.1
  outcome := none
  tick := 0

/-- The world at the start of a game, if the game can run with the configuration. -/
def new? (config : Config) (maze : Maze) (modes : ModeControl μ) (sources : Roster σ) :
    Except ConfigError (World σ μ) :=
  config.check.map fun _ => start config maze modes sources

/-- The distance between the seeds of two ghosts: an odd number that spreads them out. -/
def seedStride : UInt64 := 0x9e3779b97f4a7c15

/-- The random stream of each ghost. -/
def seededStreams (seed : UInt64) : Roster Stream :=
  .ofFn fun color => Stream.ofSeed (seed ^^^ (UInt64.ofNat color.index + 1) * seedStride)

/-- A world whose ghosts have random streams made from the seed of the configuration, and that
starts in scatter mode. -/
def seeded? (config : Config) (maze : Maze) : Except ConfigError (World Stream μ) :=
  new? config maze (.bundled default) (seededStreams config.rngSeed)

omit [ModeSource μ] in
/-- What is seen of the ghosts. -/
def ghostView (w : World σ μ) : GhostView :=
  .ofRecords (Color.all.map fun color => { w.ghosts.get color with color })

end World

end MazeChase
