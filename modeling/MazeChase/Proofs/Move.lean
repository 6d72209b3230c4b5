import MazeChase.Proofs.Collision
import MazeChase.World.Move

/-!
# What a move of the player does

A move checks for collisions, steps onto the next cell if no wall is there, and checks again. On
the new cell a pellet may be taken, which frightens the ghosts at most, and a fruit may appear.

* `Event.topic`: which part of a tick an event tells of;
* `World.enter`: the step onto an open cell, up to the second check;
* `World.step_of_wall`, `World.step_of_open`: the two kinds of step;
* **`World.enter_frame`**: what a step onto an open cell changes before the second check;
* `World.movePlayer_keeps`: what the parts of a move keep, the move keeps;
* `World.enter_keeps_outcome`: an outcome stays.
-/

set_option autoImplicit false

namespace MazeChase

/-- The parts of a game that events tell of. -/
inductive Topic where
  | clock
  /-- The plans of the ghosts. -/
  | plan
  /-- The step of the player. -/
  | step
  /-- What the player takes on a new cell, and what comes of it. -/
  | meal
  /-- The player and a ghost on one cell. -/
  | contact
  | mode
deriving DecidableEq

/-- The part of a game that the event tells of. -/
def Event.topic : Event → Topic
  | .tickAdvanced .. => .clock
  | .ghostStranded .. => .plan
  | .playerMoved .. | .playerBlocked _ => .step
  | .pelletCollected .. | .ghostsFrightened _ | .levelCleared | .fruitSpawned _ => .meal
  | .ghostEaten .. | .playerCaught _ => .contact
  | .modeChanged _ => .mode

namespace World

variable {σ μ : Type}

theorem collide_tells : (collide (σ := σ) (μ := μ)).Tells (·.topic = .contact) := by
  intro w e he
  obtain ⟨color, _, ⟨_, rfl⟩ | ⟨_, rfl⟩⟩ := mem_collide he
  · rfl
  · rfl

/-! ## The pellet and the fruit on a new cell -/

/-- The player is about to take a super pellet. -/
def FindsSuper (w : World σ μ) : Prop :=
  w.pellets.cells.contains w.player.cell = true ∧ w.player.cell.IsPowerCorner

instance (w : World σ μ) : Decidable w.FindsSuper := by unfold FindsSuper; infer_instance

/-- The ghosts after the player took what lies on its cell: frightened by a super pellet, and
otherwise as before. -/
def ghostsAfterMeal (w : World σ μ) : Roster Ghost :=
  if w.FindsSuper then w.ghosts.map (·.frighten w.config.frightCycles.toNat) else w.ghosts

theorem takePellet_frame (w : World σ μ) : ∃ pellets score outcome, (takePellet w).1 =
    { w with
      pellets := pellets
      ghosts := w.ghostsAfterMeal
      score := score
      outcome := outcome } := by
  by_cases found : w.pellets.cells.contains w.player.cell = true
  · have take : w.pellets.take? w.player.cell =
        some ⟨w.pellets.cells.erase w.player.cell, w.pellets.count - 1⟩ := if_pos found
    simp only [takePellet, take, ghostsAfterMeal, FindsSuper, found, true_and]
    by_cases power : w.player.cell.IsPowerCorner
    · by_cases last : w.pellets.count - 1 = 0 <;>
        exact ⟨_, _, _, by simp [power, last]; rfl⟩
    · by_cases last : w.pellets.count - 1 = 0 <;>
        exact ⟨_, _, _, by simp [power, last]; rfl⟩
  · have take : w.pellets.take? w.player.cell = none := if_neg found
    refine ⟨w.pellets, w.score, w.outcome, ?_⟩
    simp only [takePellet, take, ghostsAfterMeal]
    rw [if_neg fun h => found h.1]

theorem releaseFruit_frame (w : World σ μ) : ∃ fruit, (releaseFruit w).1 =
    { w with fruit := fruit } := by
  unfold releaseFruit
  split
  · exact ⟨_, rfl⟩
  · exact ⟨_, rfl⟩
  · exact ⟨w.fruit, rfl⟩

theorem takePellet_of_none {w : World σ μ} (found : w.pellets.take? w.player.cell = none) :
    takePellet w = (w, []) := by
  simp only [takePellet, found]

theorem takePellet_of_some {w : World σ μ} {rest : Pellets}
    (found : w.pellets.take? w.player.cell = some rest) : takePellet w =
      (Phase.tell (.pelletCollected w.player.cell w.player.cell.IsPowerCorner rest.count)
        |>.andThen (.only w.player.cell.IsPowerCorner frightenGhosts)
        |>.andThen (.only (rest.count = 0) clearLevel))
        (({ w with pellets := rest } : World σ μ).award (w.pelletValue w.player.cell)) := by
  simp only [takePellet, found]

theorem takePellet_tells : (takePellet (σ := σ) (μ := μ)).Tells (·.topic = .meal) := by
  intro w
  simp only [takePellet]
  split
  · exact Phase.Tells.pass w
  · have frighten : (frightenGhosts (σ := σ) (μ := μ)).Tells (·.topic = .meal) := by
      intro v e he
      obtain rfl := List.mem_singleton.mp he
      rfl
    have clear : (clearLevel (σ := σ) (μ := μ)).Tells (·.topic = .meal) := by
      intro v e he
      obtain rfl := List.mem_singleton.mp he
      rfl
    refine Phase.Tells.andThen (.andThen (.tell ?_) (.only _ frighten)) (.only _ clear) _
    rfl

theorem releaseFruit_tells : (releaseFruit (σ := σ) (μ := μ)).Tells (·.topic = .meal) := by
  intro w e he
  unfold releaseFruit at he
  split at he
  · obtain rfl := List.mem_singleton.mp he; rfl
  · obtain rfl := List.mem_singleton.mp he; rfl
  · simp at he

/-! ## The step -/

/-- The step onto the cell ahead, up to the second check for collisions. -/
def enter : Phase (World σ μ) Event := fun w =>
  (Phase.tell (.playerMoved w.player w.player.advanced) |>.andThen takePellet
    |>.andThen releaseFruit) { w with player := w.player.advanced }

theorem step_of_wall {w : World σ μ} (h : w.maze.wallAt w.player.advanced.cell = true) :
    step w = (w, [.playerBlocked w.player.heading]) :=
  if_pos h

theorem step_of_open {w : World σ μ} (h : w.maze.wallAt w.player.advanced.cell = false) :
    step w = enter.andThen collide w := by
  simp only [step, h, Bool.false_eq_true, if_false]
  refine Prod.ext ?_ ?_
  · simp only [enter, Phase.fst_andThen]
  · simp only [enter, Phase.fst_andThen, Phase.snd_andThen]

/-- **The step onto an open cell** changes the pellets, the fruit, the score, the outcome, and the
fright of the ghosts. -/
theorem enter_frame (w : World σ μ) : ∃ pellets score fruit outcome, (enter w).1 =
    { w with
      player := w.player.advanced
      pellets := pellets
      ghosts := ({ w with player := w.player.advanced } : World σ μ).ghostsAfterMeal
      score := score
      fruit := fruit
      outcome := outcome } := by
  obtain ⟨pellets, score, outcome, taken⟩ :=
    takePellet_frame { w with player := w.player.advanced }
  obtain ⟨fruit, released⟩ :=
    releaseFruit_frame (takePellet { w with player := w.player.advanced }).1
  refine ⟨pellets, score, fruit, outcome, ?_⟩
  simp only [enter, Phase.fst_andThen, Phase.tell_apply]
  rw [released, taken]

@[simp] theorem player_enter (w : World σ μ) : (enter w).1.player = w.player.advanced := by
  obtain ⟨_, _, _, _, entered⟩ := enter_frame w
  rw [entered]

@[simp] theorem maze_enter (w : World σ μ) : (enter w).1.maze = w.maze := by
  obtain ⟨_, _, _, _, entered⟩ := enter_frame w
  rw [entered]

@[simp] theorem config_enter (w : World σ μ) : (enter w).1.config = w.config := by
  obtain ⟨_, _, _, _, entered⟩ := enter_frame w
  rw [entered]

/-- What the player takes on a new cell does not move a ghost and does not bring one back. -/
theorem ghost_enter (w : World σ μ) (color : Color) :
    ((enter w).1.ghosts.get color).location = (w.ghosts.get color).location ∧
      ((enter w).1.ghosts.get color).eaten = (w.ghosts.get color).eaten := by
  obtain ⟨_, _, _, _, entered⟩ := enter_frame w
  rw [entered]
  simp only [ghostsAfterMeal]
  split
  · rw [Roster.get_map]
    exact ⟨rfl, rfl⟩
  · exact ⟨rfl, rfl⟩

theorem snd_enter (w : World σ μ) : ∃ told, (∀ e ∈ told, e.topic = .meal) ∧
    (enter w).2 = .playerMoved w.player w.player.advanced :: told := by
  refine ⟨_, (takePellet_tells.andThen releaseFruit_tells) { w with player := w.player.advanced },
    ?_⟩
  simp only [enter, Phase.snd_andThen, Phase.fst_andThen, Phase.tell_apply, List.nil_append,
    List.cons_append]

/-! ## What moves keep -/

theorem movePlayer_keeps {holds : World σ μ → Prop} (check : collide.Keeps holds)
    (turn : ∀ w d, holds w → holds { w with player := w.player.facing d })
    (go : ∀ w, w.maze.wallAt w.player.advanced.cell = false → holds w → holds (enter w).1)
    (d : Direction) : (movePlayer d).Keeps holds := by
  refine Phase.Keeps.andThen (.andThen (.change fun w => turn w d) check) ?_
  intro w hw
  cases wall : w.maze.wallAt w.player.advanced.cell with
  | true => rw [step_of_wall wall]; exact hw
  | false =>
    rw [step_of_open wall, Phase.fst_andThen]
    exact check _ (go w wall hw)

theorem takePellet_keeps_outcome (o : Outcome) :
    (takePellet (σ := σ) (μ := μ)).Keeps (·.outcome = some o) := by
  intro w decided
  simp only [takePellet]
  split
  · exact decided
  · have frighten : (frightenGhosts (σ := σ) (μ := μ)).Keeps (·.outcome = some o) := fun _ h => h
    have clear : (clearLevel (σ := σ) (μ := μ)).Keeps (·.outcome = some o) := by
      intro v h
      simp [clearLevel, decideOutcome, h]
    exact Phase.Keeps.andThen (.andThen (.tell _) (.only _ frighten)) (.only _ clear) _ decided

theorem enter_keeps_outcome (o : Outcome) :
    (enter (σ := σ) (μ := μ)).Keeps (·.outcome = some o) := by
  intro w decided
  have release : (releaseFruit (σ := σ) (μ := μ)).Keeps (·.outcome = some o) := by
    intro v h
    obtain ⟨_, released⟩ := releaseFruit_frame v
    rw [released]
    exact h
  exact ((takePellet_keeps_outcome o).andThen release) { w with player := w.player.advanced }
    decided

theorem step_keeps_outcome (o : Outcome) :
    (step (σ := σ) (μ := μ)).Keeps (·.outcome = some o) := by
  intro w decided
  cases wall : w.maze.wallAt w.player.advanced.cell with
  | true => rw [step_of_wall wall]; exact decided
  | false =>
    rw [step_of_open wall, Phase.fst_andThen]
    exact collide_keeps_outcome o _ (enter_keeps_outcome o w decided)

end World

end MazeChase
