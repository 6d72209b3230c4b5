import MazeChase.Proofs.Guarded
import MazeChase.Proofs.Pellets

/-!
# No fault

The commands once more, with every calculation guarded. Two facts keep all of them going: the update
period is not zero, and the number of the pellets that are left is right. Both hold in a new game,
and every command keeps them. So a guarded run meets no fault and is the same as the run.

* `Attempt`: a phase that a fault may stop; `Attempt.Does`: the attempt succeeds and does what a
  phase does, with its closure under chains;
* `Guarded.advance`, `Guarded.apply`, `Guarded.run`: ticks, commands and runs with guards;
* `World.Sound`: what keeps them going; `Guarded.apply_does`, `World.sound_apply`;
* **`World.no_fault`**.
-/

set_option autoImplicit false

namespace MazeChase

/-! ## Attempts -/

/-- A change of state that a fault may stop, with the events that tell about it. -/
abbrev Attempt (α ε : Type) : Type := α → Except Fault (α × List ε)

namespace Attempt

variable {α β ε : Type}

/-- A phase that no fault can stop. -/
def of (p : Phase α ε) : Attempt α ε := fun a => .ok (p a)

/-- One attempt after another. -/
def andThen (p q : Attempt α ε) : Attempt α ε := fun a => do
  let first ← p a
  let second ← q first.1
  return (second.1, first.2 ++ second.2)

/-- The attempt if the condition holds. -/
def only (condition : Bool) (p : Attempt α ε) : Attempt α ε :=
  if condition then p else of .pass

/-- An attempt for each member of a list, in order. -/
def forEach (p : β → Attempt α ε) : List β → Attempt α ε
  | [] => of .pass
  | b :: bs => (p b).andThen (forEach p bs)

/-- From states of a kind the attempt succeeds, and it does what the phase does. -/
def Does (a : Attempt α ε) (p : Phase α ε) (holds : α → Prop) : Prop :=
  ∀ s, holds s → a s = .ok (p s)

variable {a b : Attempt α ε} {p q : Phase α ε} {holds holds' : α → Prop}

theorem Does.of : (Attempt.of p).Does p holds := fun _ _ => rfl

/-- What the first phase makes of a state has to be a state from which the second attempt
succeeds. -/
theorem Does.andThen (first : a.Does p holds) (leads : ∀ s, holds s → holds' (p s).1)
    (second : b.Does q holds') : (a.andThen b).Does (p.andThen q) holds := by
  intro s hs
  rw [Attempt.andThen, first s hs, Guarded.ok_bind, second _ (leads s hs), Guarded.ok_bind]
  rfl

theorem Does.andThen_of (first : a.Does p holds) (q : Phase α ε) :
    (a.andThen (.of q)).Does (p.andThen q) holds := by
  have second : (Attempt.of q).Does q fun _ => True := .of
  exact first.andThen (fun _ _ => trivial) second

theorem Does.only (condition : Bool) (h : a.Does p holds) :
    (Attempt.only condition a).Does (.only condition p) holds := by
  cases condition with
  | false => exact .of
  | true => exact h

theorem Does.forEach {a : β → Attempt α ε} {p : β → Phase α ε} (each : ∀ b, (a b).Does (p b) holds)
    (keeps : ∀ b, (p b).Keeps holds) (bs : List β) :
    (Attempt.forEach a bs).Does (.forEach p bs) holds := by
  induction bs with
  | nil => exact .of
  | cons b bs ih => exact (each b).andThen (keeps b) ih

end Attempt

/-! ## Commands with guards -/

namespace Guarded

variable {σ μ : Type}

/-- Take the pellet on the cell of the player, if there is one. -/
def takePellet : Attempt (World σ μ) Event := fun w => do
  let cell := w.player.cell
  match ← take? w.pellets cell with
  | none => return (w, [])
  | some rest =>
    return (Phase.tell (.pelletCollected cell cell.IsPowerCorner rest.count)
      |>.andThen (.only cell.IsPowerCorner World.frightenGhosts)
      |>.andThen (.only (rest.count = 0) World.clearLevel))
      ({ w with pellets := rest }.award (w.pelletValue cell))

/-- Step ahead, unless a wall is there. -/
def step : Attempt (World σ μ) Event := fun w => do
  let target := w.player.advanced
  if ← wallAt w.maze target.cell then return (w, [.playerBlocked w.player.heading])
  else
    (Attempt.of (.tell (.playerMoved w.player target))
      |>.andThen takePellet
      |>.andThen (.of World.releaseFruit)
      |>.andThen (.of World.collide))
      { w with player := target }

/-- Turn the player to a direction and step ahead. -/
def movePlayer (d : Direction) : Attempt (World σ μ) Event :=
  Attempt.of (.change (fun w => { w with player := w.player.facing d }))
    |>.andThen (.of World.collide)
    |>.andThen step

/-- The queued move is made, if there is one. -/
def makeQueuedMove : Attempt (World σ μ) Event := fun w =>
  match w.queued with
  | some d => movePlayer d { w with queued := none }
  | none => return (w, [])

/-- The same for each ghost, if no fault stops it. -/
def eachGhost {α : Type} (f : Color → Except Fault α) : Except Fault (Roster α) := do
  let red ← f .red
  let pink ← f .pink
  let cyan ← f .cyan
  let orange ← f .orange
  return ⟨red, pink, cyan, orange⟩

/-- The ghosts make the moves that they planned. -/
def moveGhosts : Attempt (World σ μ) Event := fun w => do
  let ghosts ← eachGhost fun color => update (w.ghosts.get color)
  return ({ w with ghosts := ghosts }, [])

variable [RandomSource σ]

/-- Enter the plan of one ghost. -/
def task (s : Scene) (sheet : Planning.Sheet σ) (color : Color) :
    Except Fault (Planning.Sheet σ) := do
  let plan ← plan s color (sheet.ghosts.get color) (sheet.sources.get color)
  return {
    ghosts := sheet.ghosts.set color plan.ghost
    sources := sheet.sources.set color plan.source
    kinds := sheet.kinds.set color plan.kind }

/-- Enter all plans at once. -/
def atOnce (s : Scene) (sheet : Planning.Sheet σ) : Except Fault (Planning.Sheet σ) := do
  let plans ← eachGhost fun color => plan s color (sheet.ghosts.get color) (sheet.sources.get color)
  return {
    ghosts := plans.map Plan.ghost
    sources := plans.map Plan.source
    kinds := plans.map Plan.kind }

/-- Make the plans of all ghosts. -/
def planAll (p : Planning) (s : Scene) (sheet : Planning.Sheet σ) :
    Except Fault (Planning.Sheet σ) :=
  match p with
  | .parallel => atOnce s sheet
  | .sequential => Color.all.foldlM (task s) sheet

/-- The ghosts plan, and those that can go nowhere are told of. -/
def planGhosts : Attempt (World σ μ) Event := fun w => do
  let sheet ← planAll w.config.planning w.scene ⟨w.ghosts, w.sources, .ofFn fun _ => .idle⟩
  return Phase.forEach (World.tellStranded sheet.kinds) Color.all
    { w with ghosts := sheet.ghosts, sources := sheet.sources }

variable [ModeSource μ]

/-- Everybody plans, then everybody moves. -/
def updateWorld : Attempt (World σ μ) Event :=
  Attempt.of World.pollMode
    |>.andThen planGhosts
    |>.andThen makeQueuedMove
    |>.andThen moveGhosts
    |>.andThen (.of World.collide)

omit [RandomSource σ] [ModeSource μ] in
/-- The tick that comes next is an update. -/
def updateDue (w : World σ μ) : Except Fault Bool := do
  ensure (w.config.updatePeriod.toNat ≠ 0) .division
  return w.tick % w.config.updatePeriod.toNat = 0

/-- One tick of the clock. -/
def advance : Attempt (World σ μ) Event := fun w => do
  let due ← updateDue w
  (Attempt.of (.tell (.tickAdvanced w.tick due))
    |>.andThen (.only due updateWorld)
    |>.andThen (.of (.change fun w => { w with tick := min (w.tick + 1) maxTick }))) w

/-- Carry out a command. -/
def apply : Command → Attempt (World σ μ) Event
  | .tick => advance
  | .movePlayer d => .of (World.apply (.movePlayer d))
  | .setMode mode => .of (World.apply (.setMode mode))

/-- Carry out commands in order. -/
def run (commands : List Command) : Attempt (World σ μ) Event := .forEach apply commands

end Guarded

/-! ## What keeps them going -/

/-- The clock can tell which ticks are updates, and the number of the pellets that are left is
right. -/
structure World.Sound {σ μ : Type} (w : World σ μ) : Prop where
  period : w.config.updatePeriod.toNat ≠ 0
  counted : w.pellets.Counted

namespace Guarded

variable {σ μ : Type}

theorem takePellet_does : (takePellet (σ := σ) (μ := μ)).Does World.takePellet
    fun w => w.pellets.Counted := by
  intro w counted
  rw [takePellet, take?_eq counted, ok_bind]
  cases found : w.pellets.take? w.player.cell with
  | none => rw [World.takePellet_of_none found]; rfl
  | some rest => rw [World.takePellet_of_some found]; rfl

theorem step_does : (step (σ := σ) (μ := μ)).Does World.step fun w => w.pellets.Counted := by
  intro w counted
  rw [step, wallAt_eq, ok_bind, World.step]
  cases w.maze.wallAt w.player.advanced.cell with
  | true => rfl
  | false =>
    -- Only the pellet can be a fault here; the fruit and the check after it need nothing.
    have meal (e : Event) : ((Attempt.of (.tell e)).andThen takePellet).Does
        ((Phase.tell e).andThen World.takePellet) fun w : World σ μ => w.pellets.Counted :=
      Attempt.Does.of.andThen (fun _ h => h) takePellet_does
    rw [if_neg Bool.false_ne_true, if_neg Bool.false_ne_true]
    exact ((meal _).andThen_of World.releaseFruit).andThen_of World.collide
      { w with player := w.player.advanced } counted

theorem movePlayer_does (d : Direction) : (movePlayer (σ := σ) (μ := μ) d).Does
    (World.movePlayer d) fun w => w.pellets.Counted := by
  let turn : Phase (World σ μ) Event := .change fun w => { w with player := w.player.facing d }
  have turned : (Attempt.of turn).Does turn fun w => w.pellets.Counted := .of
  refine (turned.andThen_of World.collide).andThen (fun w counted => ?_) step_does
  obtain ⟨_, _, frame⟩ := World.collide_frame (turn w).1
  rw [Phase.fst_andThen, frame]
  exact counted

theorem makeQueuedMove_does : (makeQueuedMove (σ := σ) (μ := μ)).Does World.makeQueuedMove
    fun w => w.pellets.Counted := by
  intro w counted
  rw [makeQueuedMove, World.makeQueuedMove]
  cases w.queued with
  | none => rfl
  | some d => exact movePlayer_does d _ counted

theorem eachGhost_ok {α : Type} {f : Color → Except Fault α} {g : Color → α}
    (each : ∀ color, f color = .ok (g color)) : eachGhost f = .ok (.ofFn g) := by
  rw [eachGhost, each, each, each, each]
  rfl

theorem moveGhosts_does (holds : World σ μ → Prop) : moveGhosts.Does World.moveGhosts holds := by
  intro w _
  rw [moveGhosts, eachGhost_ok fun color => update_eq (w.ghosts.get color)]
  rfl

variable [RandomSource σ]

theorem planAll_eq (p : Planning) (s : Scene) (sheet : Planning.Sheet σ) :
    planAll p s sheet = .ok (p.planAll s sheet) := by
  cases p with
  | parallel =>
    rw [planAll, atOnce, eachGhost_ok fun color =>
      plan_eq s color (sheet.ghosts.get color) (sheet.sources.get color)]
    rfl
  | sequential =>
    have task_eq : task (σ := σ) s = fun sheet color => pure (sheet.task s color) := by
      funext sheet color
      rw [task, plan_eq]
      rfl
    rw [planAll, task_eq, List.foldlM_pure]
    rfl

theorem planGhosts_does (holds : World σ μ → Prop) : planGhosts.Does World.planGhosts holds := by
  intro w _
  rw [planGhosts, planAll_eq]
  rfl

variable [ModeSource μ]

theorem updateWorld_does : (updateWorld (σ := σ) (μ := μ)).Does World.update
    fun w => w.pellets.Counted := by
  have poll : (Attempt.of World.pollMode).Does World.pollMode
      fun w : World σ μ => w.pellets.Counted := .of
  have plan := poll.andThen (fun _ h => h) (planGhosts_does fun w => w.pellets.Counted)
  have move := plan.andThen (fun w counted => ?_) makeQueuedMove_does
  · have all := move.andThen (fun _ _ => trivial) (moveGhosts_does fun _ => True)
    exact all.andThen_of World.collide
  · rw [Phase.fst_andThen, World.planGhosts_apply]
    exact counted

omit [RandomSource σ] [ModeSource μ] in
theorem updateDue_eq {w : World σ μ} (period : w.config.updatePeriod.toNat ≠ 0) :
    updateDue w = .ok w.updateDue := by
  rw [updateDue, ensure_of period]
  rfl

example :
    let sources : Roster Listed := .ofFn fun _ => ⟨[]⟩
    let w : World Listed Empty :=
      .start { updatePeriod := 0 } .openFloor (.bundled default) sources
    updateDue w = .error .division := rfl

theorem advance_does : (advance (σ := σ) (μ := μ)).Does World.advance World.Sound := by
  intro w sound
  rw [advance, updateDue_eq sound.period, ok_bind]
  have update := updateWorld_does (σ := σ) (μ := μ) |>.only w.updateDue
  exact (Attempt.Does.of.andThen (fun _ h => h) update).andThen_of _ w sound.counted

theorem apply_does (command : Command) : (apply (σ := σ) (μ := μ) command).Does
    (World.apply command) World.Sound := by
  cases command with
  | tick => exact advance_does
  | movePlayer | setMode => exact .of

end Guarded

namespace World

variable {σ μ : Type} [RandomSource σ] [ModeSource μ]

theorem sound_apply (command : Command) : (apply (σ := σ) (μ := μ) command).Keeps Sound := by
  intro w sound
  obtain ⟨config, history⟩ := recorded.apply command w
  exact ⟨config ▸ sound.period, (history.balanced sound.counted).counted⟩

/-- **No fault.** Every division, look-up, subtraction, draw and distance of a game is in range, so
the guarded run ends in the same world and tells the same. -/
theorem no_fault {rows : List String} {config : Config} {maze : Maze} {modes : ModeControl μ}
    {sources : Roster σ} {w : World σ μ} (drawn : Maze.ofRows rows = .ok maze)
    (new : new? config maze modes sources = .ok w) (commands : List Command) :
    Guarded.run commands w = .ok (run commands w) := by
  obtain ⟨valid, start_eq⟩ := new?_eq_ok_iff.mp new
  have sound : w.Sound := by
    rw [start_eq]
    exact ⟨valid.1.ne', Maze.counted_of_ofRows drawn⟩
  exact Attempt.Does.forEach Guarded.apply_does sound_apply commands w sound

/-- The player takes the first pellet of the classic maze and turns around. -/
theorem no_fault_classic :
    let config : Config := { updatePeriod := 1 }
    let sources : Roster Listed := .ofFn fun _ => ⟨[]⟩
    let w : World Listed Empty := start config .classic (.bundled default) sources
    let commands : List Command :=
      [.setMode .chase, .movePlayer .left, .tick, .movePlayer .right, .tick]
    (Maze.ofRows Maze.classicRows = .ok .classic ∧
      new? config .classic (.bundled default) sources = .ok w) ∧
    (Guarded.run commands w).map (fun done => (done.1.player, done.1.pellets.count)) =
      .ok (⟨⟨23, 13⟩, .right⟩, 243) := by
  intro config sources w commands
  have new : new? config .classic (.bundled default) sources = .ok w :=
    new?_eq_ok_iff.mpr ⟨by decide, rfl⟩
  have there : (run commands w).1.player = ⟨⟨23, 13⟩, .right⟩ ∧
      (run commands w).1.pellets.count = 243 := by
    decide +kernel
  refine ⟨⟨Maze.ofRows_classicRows, new⟩, ?_⟩
  rw [no_fault Maze.ofRows_classicRows new commands, ← there.1, ← there.2]
  rfl

end World

end MazeChase
