import MazeChase.World.Move

/-!
# Ticks

The clock of a world goes on tick by tick. Each time as many ticks have passed as the update period
says, an update takes place: the ghosts plan, the player moves, the ghosts move.

* `Planning.Sheet`, `Planning.task`: the plan of one ghost, entered on a sheet;
* `World.planGhosts`: all plans, made in the way that the configuration says;
* `World.advance`: a tick; `World.apply`: a command; `World.run`: a list of commands.
-/

set_option autoImplicit false

namespace MazeChase

variable {σ μ : Type} [RandomSource σ] [ModeSource μ]

/-- The ghosts, their random sources and what kind of plan each one made. -/
structure Planning.Sheet (σ : Type) where
  ghosts : Roster Ghost
  sources : Roster σ
  kinds : Roster PlanKind

namespace Planning.Sheet

/-- Enter the plan of one ghost. It is made from the scene, the ghost and its own random source;
what other ghosts planned plays no part. -/
def task (s : Scene) (sheet : Sheet σ) (color : Color) : Sheet σ :=
  let plan := (sheet.ghosts.get color).plan s color (sheet.sources.get color)
  { ghosts := sheet.ghosts.set color plan.ghost
    sources := sheet.sources.set color plan.source
    kinds := sheet.kinds.set color plan.kind }

/-- Enter the plans of several ghosts one after the other. -/
def inOrder (s : Scene) (order : List Color) (sheet : Sheet σ) : Sheet σ :=
  order.foldl (task s) sheet

/-- Enter all plans at once, each one made from the sheet as it is. -/
def atOnce (s : Scene) (sheet : Sheet σ) : Sheet σ :=
  let plan := fun color => (sheet.ghosts.get color).plan s color (sheet.sources.get color)
  { ghosts := .ofFn fun color => (plan color).ghost
    sources := .ofFn fun color => (plan color).source
    kinds := .ofFn fun color => (plan color).kind }

end Planning.Sheet

/-- Make the plans of all ghosts. -/
def Planning.planAll (p : Planning) (s : Scene) (sheet : Planning.Sheet σ) : Planning.Sheet σ :=
  match p with
  | .parallel => sheet.atOnce s
  | .sequential => sheet.inOrder s Color.all

/-- The largest number of a tick. -/
def maxTick : Nat := UInt64.size - 1

namespace World

omit [RandomSource σ] [ModeSource μ] in
/-- What the ghosts see. -/
def scene (w : World σ μ) : Scene where
  maze := w.maze
  player := w.player
  ghosts := w.ghosts.map Ghost.location
  mode := w.mode.effective

omit [RandomSource σ] in
/-- Ask which mode is on. -/
def pollMode : Phase (World σ μ) Event :=
  .change fun w => { w with mode := w.modes.poll.1, modes := w.modes.poll.2 }

omit [RandomSource σ] [ModeSource μ] in
/-- Tell of a ghost that can go nowhere. -/
def tellStranded (kinds : Roster PlanKind) (color : Color) : Phase (World σ μ) Event := fun w =>
  Phase.only (kinds.get color = .stranded)
    (.tell (.ghostStranded color (w.ghosts.get color).next)) w

omit [ModeSource μ] in
/-- The ghosts plan, and those that can go nowhere are told of. -/
def planGhosts : Phase (World σ μ) Event := fun w =>
  let sheet := w.config.planning.planAll w.scene ⟨w.ghosts, w.sources, .ofFn fun _ => .idle⟩
  Phase.forEach (tellStranded sheet.kinds) Color.all
    { w with ghosts := sheet.ghosts, sources := sheet.sources }

omit [RandomSource σ] [ModeSource μ] in
/-- The queued move is made, if there is one. -/
def makeQueuedMove : Phase (World σ μ) Event := fun w =>
  match w.queued with
  | some d => movePlayer d { w with queued := none }
  | none => (w, [])

omit [RandomSource σ] [ModeSource μ] in
/-- The ghosts make the moves that they planned. -/
def moveGhosts : Phase (World σ μ) Event :=
  .change fun w => { w with ghosts := w.ghosts.map Ghost.update }

/-- An update: everybody plans, then everybody moves. -/
def update : Phase (World σ μ) Event :=
  pollMode
    |>.andThen planGhosts
    |>.andThen makeQueuedMove
    |>.andThen moveGhosts
    |>.andThen collide

omit [RandomSource σ] [ModeSource μ] in
/-- The tick that comes next is an update. -/
def updateDue (w : World σ μ) : Bool := w.tick % w.config.updatePeriod.toNat = 0

/-- One tick of the clock. -/
def advance : Phase (World σ μ) Event := fun w =>
  (Phase.tell (.tickAdvanced w.tick w.updateDue)
    |>.andThen (.only w.updateDue update)
    |>.andThen (.change fun w => { w with tick := min (w.tick + 1) maxTick })) w

omit [RandomSource σ] [ModeSource μ] in
/-- Set the mode of the switch of the world. A world with a source outside takes no notice. -/
def setMode (mode : Mode) : Phase (World σ μ) Event := fun w =>
  match w.modes with
  | .bundled switch =>
    ({ w with modes := .bundled (switch.set mode) },
      if switch.changes mode then [.modeChanged mode] else [])
  | .external _ => (w, [])

/-- Carry out a command. -/
def apply : Command → Phase (World σ μ) Event
  | .tick => advance
  | .movePlayer d => .change fun w => { w with queued := some d }
  | .setMode mode => setMode mode

/-- Carry out commands in order. -/
def run (commands : List Command) : Phase (World σ μ) Event := .forEach apply commands

omit [RandomSource σ] [ModeSource μ] in
/-- The mode comes from somewhere else from now on; the world learns of it at the next
update. -/
def withModes (w : World σ μ) (modes : ModeControl μ) : World σ μ := { w with modes }

end World

end MazeChase
