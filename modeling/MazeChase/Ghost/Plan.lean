import MazeChase.Ghost.Target
import MazeChase.Random.Source

/-!
# Plans

A ghost plans its next location by going on to the cell ahead, whatever is there, and choosing the
heading in which it will leave that cell. It never turns back, except when it is trapped.

* `Scene.exits`: the headings in which a ghost can leave a cell;
* `Scene.nearest`: the one that leads closest to the target;
* `Plan`, `Ghost.plan`: the planned ghost, the random source afterwards, and what kind of plan was
  made.
-/

set_option autoImplicit false

namespace MazeChase

/-- What kind of plan a ghost made. -/
inductive PlanKind where
  /-- None, as the ghost has not entered the maze. -/
  | idle
  /-- It is trapped and turns back. -/
  | reversed
  /-- It is frightened and goes anywhere. -/
  | wandered
  /-- It goes where the target is closest. -/
  | pursued
  /-- It can go nowhere and keeps its heading. -/
  | stranded
deriving DecidableEq, Repr, Inhabited

namespace Scene

/-- A ghost can enter the cell; on its way out of the house it can also pass the house and its
exit. -/
def isOpen (s : Scene) (spawning : Bool) (c : Cell) : Bool :=
  !s.maze.wallAt c || (spawning && (decide c.InHouse || decide (c = Cell.houseExit)))

/-- The headings in which a ghost can leave a location, in the order of preference; turning back is
not one of them. -/
def exits (s : Scene) (spawning : Bool) (l : Location) : List Direction :=
  Direction.all.filter fun d => d ≠ l.heading.reversed ∧ s.isOpen spawning (l.neighbor d)

/-- The squared distance from a target to the next cell in a direction; without a target all
directions are equally good. -/
def cost (target : Option Point) (l : Location) (d : Direction) : Int :=
  match target with
  | some t => (l.neighbor d).toPoint.distSq t
  | none => 0

/-- The better one of two directions; the first one if they are equally good. -/
def better (target : Option Point) (l : Location) (d e : Direction) : Direction :=
  if cost target l e < cost target l d then e else d

/-- The best of one direction and more; the earliest one if several are equally good. -/
def nearest (target : Option Point) (l : Location) (d : Direction) (more : List Direction) :
    Direction :=
  more.foldl (better target l) d

end Scene

/-- A planned ghost, its random source after planning, and the kind of plan. -/
structure Plan (σ : Type) where
  ghost : Ghost
  source : σ
  kind : PlanKind

namespace Ghost

variable {σ : Type} [RandomSource σ]

/-- The ghost with a plan to leave the cell ahead in a direction. -/
def planHeading (g : Ghost) (d : Direction) : Ghost :=
  { g with next := g.location.advanced.facing d }

/-- Plan the next location of a ghost from what is seen in the scene. Only the planned location and
the trap of the ghost change. -/
def plan (s : Scene) (color : Color) (g : Ghost) (source : σ) : Plan σ :=
  let coasted := g.location.advanced
  if g.location.IsOffBoard then ⟨g, source, .idle⟩
  else if 0 < g.trap then
    ⟨{ g with next := coasted.turnedBack, trap := g.trap - 1 }, source, .reversed⟩
  else
    match s.exits g.spawning coasted with
    | [] => ⟨{ g with next := coasted }, source, .stranded⟩
    | d :: more =>
      let best := Scene.nearest (s.target? color g coasted) coasted d more
      if 1 < g.fright then
        let (pick, source) := RandomSource.below source (more.length + 1)
        match (d :: more)[pick]? with
        | some chosen => ⟨g.planHeading chosen, source, .wandered⟩
        | none => ⟨g.planHeading best, source, .pursued⟩
      else ⟨g.planHeading best, source, .pursued⟩

end Ghost

end MazeChase
